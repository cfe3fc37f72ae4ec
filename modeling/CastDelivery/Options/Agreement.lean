import CastDelivery.Options.Overrides
import Mathlib.Data.Rat.Floor
import Mathlib.Logic.Relation

/-!
# The options are in agreement

Three readers apply the defaults of the Delivery health options: the form `init`, which shows
them, `probe_options`, and the coordinator, which keeps what `probe_options` returned when it
was last told to. One writer merges what the form returns into the stored options.

`optionsAgree` is about every run of flows and of the update listener: the readers agree, the form
as it is shown changes nothing, and a flow touches no other data and no other option.
-/

namespace CastDelivery

/-! ## The values in effect -/

/-- The keys of the Delivery health options. -/
def healthKeys : List String := HEALTH_DEFAULTS.keys

/-- The values are those of the probe options. -/
structure Shows (values : Dict String ConfValue) (options : ProbeOptions) : Prop where
  enabled : values.get? CONF_PROBE_ENABLED = some (.bool options.enabled)
  interval : values.get? CONF_PROBE_INTERVAL = some (.int options.interval)
  groups : values.get? CONF_GROUP_PROBE_ENABLED = some (.bool options.groups)
  video : values.get? CONF_PROBE_VIDEO_DEVICES = some (.bool options.video)

/-- Options as the flow writes them, with whatever there is under other keys. -/
structure Written (options : Dict String ConfValue) : Prop where
  enabled : ∀ value, options.get? CONF_PROBE_ENABLED = some value → ∃ b, value = .bool b
  interval : ∀ value, options.get? CONF_PROBE_INTERVAL = some value →
    ∃ n : ℕ, value = .int n ∧ MIN_PROBE_INTERVAL ≤ n ∧ n ≤ MAX_PROBE_INTERVAL
  groups : ∀ value, options.get? CONF_GROUP_PROBE_ENABLED = some value → ∃ b, value = .bool b
  video : ∀ value, options.get? CONF_PROBE_VIDEO_DEVICES = some value → ∃ b, value = .bool b
  editFlag : options.get? CONF_EDIT_URL_OVERRIDES = none

theorem written_empty : Written ∅ := by
  refine ⟨?_, ?_, ?_, ?_, rfl⟩
  · intro value h
    cases h
  · intro value h
    cases h
  · intro value h
    cases h
  · intro value h
    cases h

section

variable {entry entry' : ConfigEntry} {options : ProbeOptions} {key : String}

/-- What is in effect: the stored value, or else the default. -/
theorem get?_effective (entry : ConfigEntry) (key : String) :
    (HEALTH_DEFAULTS.update entry.options).get? key =
      (entry.options.get? key).or (HEALTH_DEFAULTS.get? key) :=
  Dict.get?_update _ _ _

/-- The form shows what is in effect. -/
theorem get?_suggested (hkey : key ∈ healthKeys) :
    entry.suggested.health.get? key = (HEALTH_DEFAULTS.update entry.options).get? key := by
  have hmap : entry.suggested.health =
      (HEALTH_DEFAULTS.entries.map fun e => (e.1, (entry.options.get? e.1).getD e.2)).foldl
        (fun d e => d.set e.1 e.2) ∅ := by
    rw [List.foldl_map]
    rfl
  have hkeys : (HEALTH_DEFAULTS.entries.map fun e =>
      (e.1, (entry.options.get? e.1).getD e.2)).map Prod.fst = HEALTH_DEFAULTS.keys := by
    rw [List.map_map]
    rfl
  obtain ⟨default, hdefault⟩ := Option.isSome_iff_exists.mp ((Dict.mem_keys _ _).mp hkey)
  obtain ⟨e, he, hvalue⟩ := Option.map_eq_some_iff.mp hdefault
  have hfst : e.1 = key := by simpa using List.find?_some he
  rw [hmap, Dict.get?_foldl_entries _ (hkeys ▸ HEALTH_DEFAULTS.nodup), List.find?_map]
  show ((HEALTH_DEFAULTS.entries.find? fun e => e.1 = key).map _ |>.map Prod.snd).or none = _
  rw [he, get?_effective, hdefault]
  show some ((entry.options.get? e.1).getD e.2) = _
  rw [hfst, hvalue]
  cases entry.options.get? key <;> rfl

theorem shows_suggested (h : Shows (HEALTH_DEFAULTS.update entry.options) options) :
    Shows entry.suggested.health options := by
  refine ⟨?_, ?_, ?_, ?_⟩
  · rw [get?_suggested (by decide)]
    exact h.enabled
  · rw [get?_suggested (by decide)]
    exact h.interval
  · rw [get?_suggested (by decide)]
    exact h.groups
  · rw [get?_suggested (by decide)]
    exact h.video

/-- `probe_options` returns what is in effect. -/
theorem probeOptions_of_shows (h : Shows (HEALTH_DEFAULTS.update entry.options) options) :
    entry.probeOptions = some options := by
  have hfloor : max (options.interval : Int).toNat MIN_PROBE_INTERVAL = options.interval := by
    rw [Int.toNat_natCast]
    exact Nat.max_eq_left options.floor
  unfold ConfigEntry.probeOptions
  simp only [h.enabled, h.interval, h.groups, h.video, Option.bind_some, ConfValue.toInt,
    Option.map_some, ConfValue.truthy, hfloor]

/-- What the flow writes is in effect as it is. -/
theorem exists_shows (h : Written entry.options) :
    ∃ options, Shows (HEALTH_DEFAULTS.update entry.options) options ∧
      options.interval ≤ MAX_PROBE_INTERVAL := by
  have hbool (key : String) (default : Bool) (hdefault : HEALTH_DEFAULTS.get? key =
      some (.bool default)) (hstored : ∀ value, entry.options.get? key = some value →
        ∃ b, value = .bool b) :
      ∃ b, (HEALTH_DEFAULTS.update entry.options).get? key = some (.bool b) := by
    rw [get?_effective, hdefault]
    cases hget : entry.options.get? key with
    | none => exact ⟨default, rfl⟩
    | some value =>
      obtain ⟨b, rfl⟩ := hstored value hget
      exact ⟨b, rfl⟩
  have hinterval : ∃ n : ℕ, (HEALTH_DEFAULTS.update entry.options).get? CONF_PROBE_INTERVAL =
      some (.int n) ∧ MIN_PROBE_INTERVAL ≤ n ∧ n ≤ MAX_PROBE_INTERVAL := by
    rw [get?_effective]
    cases hget : entry.options.get? CONF_PROBE_INTERVAL with
    | none => exact ⟨300, rfl, by decide, by decide⟩
    | some value =>
      obtain ⟨n, rfl, hn⟩ := h.interval value hget
      exact ⟨n, rfl, hn⟩
  obtain ⟨enabled, henabled⟩ := hbool CONF_PROBE_ENABLED _ rfl h.enabled
  obtain ⟨groups, hgroups⟩ := hbool CONF_GROUP_PROBE_ENABLED _ rfl h.groups
  obtain ⟨video, hvideo⟩ := hbool CONF_PROBE_VIDEO_DEVICES _ rfl h.video
  obtain ⟨n, hn, hmin, hmax⟩ := hinterval
  exact ⟨⟨enabled, n, groups, video, hmin⟩, ⟨henabled, hn, hgroups, hvideo⟩, hmax⟩

end

/-! ## What a flow writes -/

section

variable {entry entry' : ConfigEntry} {visit : Visit} {health : Dict String ConfValue}

/-- What a visit makes of the entry, key by key. -/
theorem run_spec (h : visit.run entry = some entry') :
    ∃ health, (visit.form.health.getD {}).validate = some health ∧
      entry'.data = (entry.asyncStepInit visit.form health).1.data ∧
      ∀ key, key ≠ CONF_URL_OVERRIDES → entry'.options.get? key =
        (entry.asyncStepInit visit.form health).1.options.get? key := by
  obtain ⟨health, hhealth, h⟩ := Option.bind_eq_some_iff.mp h
  refine ⟨health, hhealth, ?_⟩
  simp only at h
  split at h
  · obtain ⟨hdata, hoptions, -⟩ := get?_submitOverrides h
    exact ⟨hdata, hoptions⟩
  · split at h
    · cases h
      exact ⟨rfl, fun key _ => rfl⟩
    · cases h

/-- A number of seconds that the schema accepts is stored without its fraction. -/
theorem floor_interval {interval : ℚ} (hmin : (MIN_PROBE_INTERVAL : ℚ) ≤ interval)
    (hmax : interval ≤ MAX_PROBE_INTERVAL) :
    ∃ n : ℕ, interval.floor = n ∧ MIN_PROBE_INTERVAL ≤ n ∧ n ≤ MAX_PROBE_INTERVAL := by
  have hlow : (MIN_PROBE_INTERVAL : Int) ≤ interval.floor := by
    rw [Rat.le_floor_iff]
    exact_mod_cast hmin
  have hhigh : interval.floor ≤ (MAX_PROBE_INTERVAL : Int) := by
    have hcast : (interval.floor : ℚ) ≤ MAX_PROBE_INTERVAL := (Rat.floor_le interval).trans hmax
    exact_mod_cast hcast
  have hnonneg : 0 ≤ interval.floor := (Int.natCast_nonneg _).trans hlow
  refine ⟨interval.floor.toNat, (Int.toNat_of_nonneg hnonneg).symm, ?_, ?_⟩
  · omega
  · omega

/-- Step lemma: what a flow writes is written as the next one expects. -/
theorem written_run (hwritten : Written entry.options) (h : visit.run entry = some entry') :
    Written entry'.options := by
  obtain ⟨health, hhealth, -, hoptions⟩ := run_spec h
  obtain ⟨hmin, hmax, hkeys⟩ := validate_eq hhealth
  have hstored (key : String) (hkey : key ≠ CONF_URL_OVERRIDES)
      (hflag : key ≠ CONF_EDIT_URL_OVERRIDES) {value : ConfValue}
      (hvalue : entry'.options.get? key = some value) :
      (health.get? key).or (entry.options.get? key) = some value := by
    rw [hoptions key hkey, get?_asyncStepInit, if_neg hflag] at hvalue
    exact hvalue
  refine ⟨?_, ?_, ?_, ?_, ?_⟩
  · intro value hvalue
    have hsome := hstored _ (by decide) (by decide) hvalue
    rw [hkeys] at hsome
    exact ⟨_, (Option.some.inj hsome).symm⟩
  · intro value hvalue
    have hsome := hstored _ (by decide) (by decide) hvalue
    rw [hkeys] at hsome
    obtain ⟨n, hn, hrange⟩ := floor_interval hmin hmax
    refine ⟨n, ?_, hrange⟩
    rw [← hn]
    exact (Option.some.inj hsome).symm
  · intro value hvalue
    have hsome := hstored _ (by decide) (by decide) hvalue
    rw [hkeys] at hsome
    exact ⟨_, (Option.some.inj hsome).symm⟩
  · intro value hvalue
    have hsome := hstored _ (by decide) (by decide) hvalue
    rw [hkeys] at hsome
    exact ⟨_, (Option.some.inj hsome).symm⟩
  · rw [hoptions _ (by decide), get?_asyncStepInit, if_pos rfl]
    exact hwritten.editFlag

/-- A flow writes three keys of the data. -/
theorem data_run (h : visit.run entry = some entry') {key : String}
    (hkey : key ∉ [CONF_IGNORE_CEC, CONF_KNOWN_HOSTS, CONF_UUID]) :
    entry'.data.get? key = entry.data.get? key := by
  obtain ⟨health, -, hdata, -⟩ := run_spec h
  rw [List.mem_cons, List.mem_cons, List.mem_singleton, not_or, not_or] at hkey
  rw [hdata]
  unfold ConfigEntry.asyncStepInit
  simp only
  rw [Dict.get?_set, if_neg hkey.2.2, Dict.get?_set, if_neg hkey.2.1, Dict.get?_set, if_neg hkey.1]

/-- A flow writes the health options and the overrides. -/
theorem options_run (h : visit.run entry = some entry') {key : String}
    (hkey : key ∉ CONF_URL_OVERRIDES :: healthKeys) :
    entry'.options.get? key = entry.options.get? key := by
  obtain ⟨health, hhealth, -, hoptions⟩ := run_spec h
  obtain ⟨-, -, hkeys⟩ := validate_eq hhealth
  rw [List.mem_cons, not_or] at hkey
  rw [hoptions key hkey.1, get?_asyncStepInit]
  by_cases hflag : key = CONF_EDIT_URL_OVERRIDES
  · exact if_pos hflag
  · have hnone : health.get? key = none := by
      have hne (k : String) (hk : k ∈ healthKeys) : key ≠ k := by
        rintro rfl
        exact hkey.2 hk
      rw [hkeys, if_neg hflag, if_neg (hne _ (by decide)), if_neg (hne _ (by decide)),
        if_neg (hne _ (by decide)), if_neg (hne _ (by decide))]
    rw [if_neg hflag, hnone]
    rfl

/-- The form as it is shown. -/
theorem health_form_of_shows {options : ProbeOptions} (h : Shows entry.suggested.health options) :
    entry.suggested.form.health = some
      { probeEnabled := some options.enabled
        probeInterval := some (options.interval : ℚ)
        groupProbeEnabled := some options.groups
        probeVideoDevices := some options.video } := by
  unfold Suggested.form
  simp only [h.enabled, h.interval, h.groups, h.video, Option.bind_some, ConfValue.asBool,
    ConfValue.asNumber, Int.cast_natCast]

/-- A form that does not ask for the overrides updates the entry at once. -/
theorem run_of_finished {form : InitForm} (hhealth : (form.health.getD {}).validate = some health)
    (hflag : (entry.asyncStepInit form health).2 = false) :
    Visit.run { form := form } entry = some (entry.asyncStepInit form health).1.asyncFinish := by
  unfold Visit.run
  rw [hhealth, Option.bind_some]
  simp only
  rw [hflag]
  rfl

/-- What the section `health` returned is in effect afterwards. -/
theorem get?_effective_asyncFinish {form : InitForm} {key : String} {value : ConfValue}
    (hflag : key ≠ CONF_EDIT_URL_OVERRIDES) (hvalue : health.get? key = some value) :
    (HEALTH_DEFAULTS.update (entry.asyncStepInit form health).1.asyncFinish.options).get? key =
      some value := by
  rw [get?_effective]
  show ((entry.asyncStepInit form health).1.options.get? key).or _ = _
  rw [get?_asyncStepInit, if_neg hflag, hvalue]
  rfl

/-- The form as it is shown changes nothing that the readers see. -/
theorem resubmit (hwritten : Written entry.options) :
    ∃ entry', Visit.run { form := entry.suggested.form } entry = some entry' ∧
      entry'.probeOptions = entry.probeOptions ∧ entry'.urlOverrides = entry.urlOverrides := by
  obtain ⟨options, hshows, hmax⟩ := exists_shows hwritten
  have hform := health_form_of_shows (shows_suggested hshows)
  have hmin : (MIN_PROBE_INTERVAL : ℚ) ≤ options.interval := by exact_mod_cast options.floor
  have hmax : (options.interval : ℚ) ≤ MAX_PROBE_INTERVAL := by exact_mod_cast hmax
  have hvalid : ∃ health, (entry.suggested.form.health.getD {}).validate = some health := by
    rw [hform]
    exact ⟨_, if_pos ⟨hmin, hmax⟩⟩
  obtain ⟨health, hhealth⟩ := hvalid
  obtain ⟨-, -, hkeys⟩ := validate_eq hhealth
  rw [hform] at hkeys
  -- the box of the overrides is drawn unchecked
  have hflag : (entry.asyncStepInit entry.suggested.form health).2 = false := by
    unfold ConfigEntry.asyncStepInit
    simp only
    rw [hkeys]
    rfl
  have hrun := run_of_finished hhealth hflag
  refine ⟨_, hrun, ?_, ?_⟩
  · rw [probeOptions_of_shows hshows]
    refine probeOptions_of_shows ⟨?_, ?_, ?_, ?_⟩
    · refine get?_effective_asyncFinish (by decide) ?_
      rw [hkeys]
      rfl
    · -- the interval that is shown is a whole number, and is stored as it is
      refine get?_effective_asyncFinish (by decide) ?_
      rw [hkeys]
      show some (ConfValue.int (options.interval : ℚ).floor) = _
      rw [← Int.cast_natCast, Rat.floor_intCast]
    · refine get?_effective_asyncFinish (by decide) ?_
      rw [hkeys]
      rfl
    · refine get?_effective_asyncFinish (by decide) ?_
      rw [hkeys]
      rfl
  · unfold ConfigEntry.urlOverrides
    rw [storedOverrides_run hrun]
    rfl

end

/-! ## Runs of flows and of the update listener -/

/-- The entry, what the coordinator keeps of its options, and whether the update listener is still
to run. -/
structure Running where
  entry : ConfigEntry
  /-- `coordinator.options`. -/
  options : ProbeOptions
  /-- `coordinator.update_interval`, in seconds. -/
  updateInterval : ℕ
  pending : Bool

/-- `async_apply_options`, unless it raises. -/
def Running.asyncApplyOptions (w : Running) : Option Running :=
  w.entry.probeOptions.map fun options =>
    { w with options := options, updateInterval := options.interval, pending := false }

/-- A completed flow, or the update listener. -/
inductive Running.Step : Running → Running → Prop
  /-- The listener is to run unless the update left the options as they were. -/
  | flow {w : Running} (visit : Visit) (entry : ConfigEntry) (changed : Bool)
      (hrun : visit.run w.entry = some entry)
      (hchanged : changed = false → entry.options = w.entry.options) :
      Running.Step w { w with entry := entry, pending := w.pending || changed }
  | listener {w w' : Running} (happly : w.asyncApplyOptions = some w') : Running.Step w w'

/-- The coordinator uses the options of the entry. -/
structure Running.Applied (w : Running) : Prop where
  options : w.entry.probeOptions = some w.options
  interval : w.updateInterval = w.options.interval

/-- Three readers agree on the options, and one writer keeps to them. -/
structure Running.Agrees (w : Running) : Prop where
  shown : ∃ options, w.entry.probeOptions = some options ∧
    Shows w.entry.suggested.health options
  applied : w.pending = false → w.Applied
  listener : ∃ w', w.asyncApplyOptions = some w' ∧ w'.entry = w.entry ∧ w'.Applied
  resubmitted : ∃ entry', Visit.run { form := w.entry.suggested.form } w.entry = some entry' ∧
    entry'.probeOptions = w.entry.probeOptions ∧ entry'.urlOverrides = w.entry.urlOverrides
  data : ∀ visit entry' key, Visit.run visit w.entry = some entry' →
    key ∉ [CONF_IGNORE_CEC, CONF_KNOWN_HOSTS, CONF_UUID] →
    entry'.data.get? key = w.entry.data.get? key
  options : ∀ visit entry' key, Visit.run visit w.entry = some entry' →
    key ∉ CONF_URL_OVERRIDES :: healthKeys →
    entry'.options.get? key = w.entry.options.get? key
  editFlag : w.entry.options.get? CONF_EDIT_URL_OVERRIDES = none

section

variable {w w' : Running}

/-- Step lemma: the options stay as the flow writes them, and the coordinator uses them once the
listener has run. -/
theorem Running.keeps (h : Written w.entry.options ∧ (w.pending = false → w.Applied))
    (hstep : Running.Step w w') :
    Written w'.entry.options ∧ (w'.pending = false → w'.Applied) := by
  obtain ⟨hwritten, happlied⟩ := h
  cases hstep with
  | flow visit entry changed hrun hchanged =>
    refine ⟨written_run hwritten hrun, ?_⟩
    intro hpending
    obtain ⟨hnone, hsame⟩ := Bool.or_eq_false_iff.mp hpending
    obtain ⟨hoptions, hinterval⟩ := happlied hnone
    refine ⟨?_, hinterval⟩
    show entry.probeOptions = some w.options
    rw [← hoptions]
    unfold ConfigEntry.probeOptions
    rw [hchanged hsame]
  | listener happly =>
    obtain ⟨options, hoptions, rfl⟩ := Option.map_eq_some_iff.mp happly
    exact ⟨hwritten, fun _ => ⟨hoptions, rfl⟩⟩

theorem Running.agrees_of_written (hwritten : Written w.entry.options)
    (happlied : w.pending = false → w.Applied) : w.Agrees := by
  obtain ⟨options, hshows, -⟩ := exists_shows hwritten
  have hoptions := probeOptions_of_shows hshows
  refine ⟨⟨options, hoptions, shows_suggested hshows⟩, happlied, ?_, resubmit hwritten,
    fun visit entry' key hrun hkey => data_run hrun hkey,
    fun visit entry' key hrun hkey => options_run hrun hkey, hwritten.editFlag⟩
  refine ⟨{ w with options := options, updateInterval := options.interval, pending := false }, ?_,
    rfl, ⟨hoptions, rfl⟩⟩
  unfold Running.asyncApplyOptions
  rw [hoptions]
  rfl

end

/-- **The options stay in agreement** over every run of options flows and of the update listener,
from an entry whose options are empty or as the flow writes them. -/
theorem optionsAgree (w w' : Running) (hwritten : Written w.entry.options) (hsetup : w.Applied)
    (hrun : Relation.ReflTransGen Running.Step w w') : w'.Agrees := by
  have hkept : Written w'.entry.options ∧ (w'.pending = false → w'.Applied) := by
    induction hrun with
    | refl => exact ⟨hwritten, fun _ => hsetup⟩
    | tail _ hstep ih => exact Running.keeps ih hstep
  exact Running.agrees_of_written hkept.1 hkept.2

/-- An entry without options, and the coordinator that was set up for it. -/
def atSetup : Running where
  entry := ⟨∅, ∅⟩
  options := probeOptions {}
  updateInterval := 300
  pending := false

theorem optionsAgree_interval :
    ∃ w, Running.Step atSetup w ∧ w.Agrees := by
  have hstep := Running.Step.flow (w := atSetup)
    { form := { health := some { probeInterval := some 120 } } } _ true rfl (by intro h; cases h)
  exact ⟨_, hstep, optionsAgree atSetup _ written_empty ⟨rfl, rfl⟩ (.single hstep)⟩

end CastDelivery
