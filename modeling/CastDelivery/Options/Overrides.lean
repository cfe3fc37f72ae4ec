import CastDelivery.Options.Basic
import Mathlib.Data.List.Induction

/-!
# Editing the overrides

The last accepted submission for a device is meant to be in effect. The flow stores a submission
under the text that was typed, and `url_overrides` reads the device from that text: submissions in
two spellings of one uuid are two entries, of which the one stored later is in effect.

`editsTakeEffect` has the condition on the submissions of a run of flows, and `get?_set_iff` and
`get?_erase_iff` show that one submission takes effect on no other condition.
-/

namespace CastDelivery

/-! ## Runs of flows -/

/-- The stored overrides after a submission. -/
def afterEdit (overrides : Dict String String) (form : OverrideForm) : Dict String String :=
  (editOverrides overrides form).getD overrides

/-- The entry after visits, one after the other. -/
def runVisits : List Visit → ConfigEntry → Option ConfigEntry
  | [], entry => some entry
  | visit :: visits, entry => (visit.run entry).bind (runVisits visits)

section

variable {entry entry' : ConfigEntry} {form : HealthForm} {health : Dict String ConfValue}

/-- The values that `HEALTH_SCHEMA` returns. -/
theorem validate_eq (h : form.validate = some health) :
    (MIN_PROBE_INTERVAL : ℚ) ≤ form.probeInterval.getD DEFAULT_PROBE_INTERVAL ∧
      form.probeInterval.getD DEFAULT_PROBE_INTERVAL ≤ MAX_PROBE_INTERVAL ∧
      ∀ key, health.get? key =
        if key = CONF_EDIT_URL_OVERRIDES then some (.bool (form.editUrlOverrides.getD false))
        else if key = CONF_PROBE_VIDEO_DEVICES then
          some (.bool (form.probeVideoDevices.getD DEFAULT_PROBE_VIDEO_DEVICES))
        else if key = CONF_GROUP_PROBE_ENABLED then
          some (.bool (form.groupProbeEnabled.getD DEFAULT_GROUP_PROBE_ENABLED))
        else if key = CONF_PROBE_INTERVAL then
          some (.int (form.probeInterval.getD DEFAULT_PROBE_INTERVAL).floor)
        else if key = CONF_PROBE_ENABLED then
          some (.bool (form.probeEnabled.getD DEFAULT_PROBE_ENABLED))
        else none := by
  unfold HealthForm.validate at h
  simp only at h
  split at h
  · next hrange =>
    cases h
    refine ⟨hrange.1, hrange.2, ?_⟩
    intro key
    rw [Dict.get?_set, Dict.get?_set, Dict.get?_set, Dict.get?_set, Dict.get?_set]
    rfl
  · cases h

/-- What the form `init` leaves of the options. -/
theorem get?_asyncStepInit (input : InitForm) (key : String) :
    (entry.asyncStepInit input health).1.options.get? key =
      if key = CONF_EDIT_URL_OVERRIDES then entry.options.get? key
      else (health.get? key).or (entry.options.get? key) := by
  unfold ConfigEntry.asyncStepInit
  simp only
  rw [Dict.get?_update, Dict.get?_erase]
  split <;> rfl

/-- The options keep every key but the one of the overrides. -/
theorem get?_submitOverrides {flow : OptionsFlow} {forms : List OverrideForm}
    (h : flow.submitOverrides forms = some entry') :
    entry'.data = flow.data ∧
      (∀ key, key ≠ CONF_URL_OVERRIDES → entry'.options.get? key = flow.options.get? key) ∧
      storedOverrides entry'.options = forms.foldl afterEdit (storedOverrides flow.options) := by
  induction forms generalizing flow with
  | nil => cases h
  | cons form forms ih =>
    rw [OptionsFlow.submitOverrides, OptionsFlow.asyncStepUrlOverrides] at h
    rw [List.foldl_cons, afterEdit]
    cases hedit : editOverrides (storedOverrides flow.options) form with
    | none =>
      -- the form is shown again, and nothing is stored
      rw [hedit] at h
      exact ih h
    | some overrides =>
      have hstored : storedOverrides (flow.options.set CONF_URL_OVERRIDES (.overrides overrides)) =
          overrides := by
        unfold storedOverrides
        rw [Dict.get?_set_self]
      have hkeep (key : String) (hkey : key ≠ CONF_URL_OVERRIDES) :
          (flow.options.set CONF_URL_OVERRIDES (.overrides overrides)).get? key =
            flow.options.get? key := by
        rw [Dict.get?_set, if_neg hkey]
      rw [hedit] at h
      simp only at h
      cases hanother : form.addAnother with
      | true =>
        rw [hanother, if_pos rfl] at h
        obtain ⟨hdata, hothers, hfold⟩ := ih h
        refine ⟨hdata, fun key hkey => (hothers key hkey).trans (hkeep key hkey), ?_⟩
        rw [hfold, hstored]
        rfl
      | false =>
        rw [hanother, if_neg Bool.false_ne_true] at h
        simp only at h
        split at h
        · next hlast =>
          cases h
          subst hlast
          exact ⟨rfl, hkeep, hstored⟩
        · cases h

/-- A visit, as far as its overrides go. -/
theorem storedOverrides_run {visit : Visit} (h : visit.run entry = some entry') :
    storedOverrides entry'.options =
      visit.overrides.foldl afterEdit (storedOverrides entry.options) := by
  obtain ⟨health, hhealth, h⟩ := Option.bind_eq_some_iff.mp h
  obtain ⟨-, -, hkeys⟩ := validate_eq hhealth
  -- the section `health` has no overrides
  have hkeep : storedOverrides (entry.asyncStepInit visit.form health).1.options =
      storedOverrides entry.options := by
    unfold storedOverrides
    rw [get?_asyncStepInit, if_neg (by decide), hkeys]
    rfl
  simp only at h
  split at h
  · rw [(get?_submitOverrides h).2.2, hkeep]
  · split at h
    · next hnone =>
      cases h
      rw [hnone]
      exact hkeep
    · cases h

theorem storedOverrides_runVisits {visits : List Visit} (h : runVisits visits entry = some entry') :
    storedOverrides entry'.options =
      (visits.flatMap Visit.overrides).foldl afterEdit (storedOverrides entry.options) := by
  induction visits generalizing entry with
  | nil =>
    cases h
    rfl
  | cons visit visits ih =>
    obtain ⟨between, hvisit, hrest⟩ := Option.bind_eq_some_iff.mp h
    rw [ih hrest, storedOverrides_run hvisit, List.flatMap_cons, List.foldl_append]

end

/-! ## The last submission for a device -/

/-- What a submission assigns to a device, if it is accepted and for that device: a base, or no
override. -/
def assigned (uuid : UUID) (form : OverrideForm) : Option (Option String) :=
  if UUID.parse (strip form.device) = some uuid then
    if strip (form.url.getD "") = "" then some none
    else (normalizeOverride (strip (form.url.getD ""))).map some
  else none

/-- Editing overrides takes effect, last write wins. -/
structure EditsTakeEffect (entry : ConfigEntry) (visits : List Visit) (entry' : ConfigEntry) :
    Prop where
  lastWrite : ∀ uuid, entry'.urlOverrides.get? uuid =
    ((visits.flatMap Visit.overrides).filterMap (assigned uuid)).getLast?.getD
      (entry.urlOverrides.get? uuid)
  rejected : ∀ flow : OptionsFlow, ∀ form : OverrideForm, strip (form.url.getD "") ≠ "" →
    normalizeOverride (strip (form.url.getD "")) = none →
    flow.asyncStepUrlOverrides form = .form flow true

/-- No other spelling of the device stands in the way of a submission: a base is read back as it is
stored, and the last usable entry behind its place, if any, has that base; where the override is
cleared, no usable entry is left. -/
def Settles (overrides : Dict String String) (form : OverrideForm) : Prop :=
  ∀ uuid, UUID.parse (strip form.device) = some uuid →
    (strip (form.url.getD "") = "" →
      readings uuid (overrides.erase (strip form.device)).entries = []) ∧
    ∀ base, strip (form.url.getD "") ≠ "" →
      normalizeOverride (strip (form.url.getD "")) = some base →
      normalizeOverride base = some base ∧
        ∀ last ∈ (readings uuid (overrides.later (strip form.device))).getLast?, last = base

section

variable {raw : Dict String String} {uuid : UUID} {device base : String} {form : OverrideForm}

/-- What is stored under the text of another device is not read. -/
theorem readings_set (h : UUID.parse device ≠ some uuid) (value : String) :
    readings uuid (raw.set device value).entries = readings uuid raw.entries := by
  have hnone (stored : String × String) (hdevice : stored.1 = device) :
      readingOf uuid stored = none := by
    unfold readingOf
    rw [hdevice, if_neg h]
  unfold readings Dict.set
  -- an entry that is there keeps its place, a new one is the last
  by_cases hmem : device ∈ raw.entries.map Prod.fst
  · simp only [Dict.setEntries_of_mem hmem]
    rw [List.filterMap_map]
    refine List.filterMap_congr fun stored _ => ?_
    rw [Function.comp_apply]
    by_cases hdevice : stored.1 = device
    · rw [if_pos hdevice, hnone (device, value) rfl, hnone stored hdevice]
    · rw [if_neg hdevice]
  · simp only [Dict.setEntries_of_notMem hmem]
    rw [List.filterMap_append, List.filterMap_cons_none (hnone (device, value) rfl),
      List.filterMap_nil, List.append_nil]

theorem readings_erase (h : UUID.parse device ≠ some uuid) :
    readings uuid (raw.erase device).entries = readings uuid raw.entries := by
  unfold readings Dict.erase
  simp only
  rw [List.filterMap_filter]
  refine List.filterMap_congr fun stored _ => ?_
  by_cases hdevice : stored.1 = device
  · rw [if_neg (by simpa using hdevice), readingOf, hdevice, if_neg h]
  · rw [if_pos (by simpa using hdevice)]

/-- A submission that assigns nothing to a device leaves its override. -/
theorem get?_afterEdit_of_other (h : assigned uuid form = none) :
    (urlOverrides (afterEdit raw form)).get? uuid = (urlOverrides raw).get? uuid := by
  have hsame : readings uuid (afterEdit raw form).entries = readings uuid raw.entries := by
    unfold assigned at h
    unfold afterEdit editOverrides
    simp only
    split at h
    · split at h
      · cases h
      · next hraw =>
        rw [if_neg hraw, Option.map_eq_none_iff.mp h]
        rfl
    · next hother =>
      split
      · exact readings_erase hother
      · cases normalizeOverride (strip (form.url.getD "")) with
        | none => rfl
        | some base => exact readings_set hother base
  rw [get?_urlOverrides, get?_urlOverrides, hsame]

/-- A base that is read back takes effect exactly if the last usable entry behind its place has that
base as well. -/
theorem get?_set_iff (hdevice : UUID.parse device = some uuid)
    (hbase : normalizeOverride base = some base) :
    (urlOverrides (raw.set device base)).get? uuid = some base ↔
      ∀ last ∈ (readings uuid (raw.later device)).getLast?, last = base := by
  obtain ⟨front, hsplit⟩ := raw.entries_set device base
  have hown : readingOf uuid (device, base) = some base := by
    unfold readingOf
    rw [if_pos hdevice, hbase]
  have hreadings : readings uuid (raw.set device base).entries =
      readings uuid front ++ base :: readings uuid (raw.later device) := by
    unfold readings
    rw [hsplit, List.filterMap_append, List.filterMap_cons_some hown]
  rw [get?_urlOverrides, hreadings, List.getLast?_append, List.getLast?_cons]
  cases (readings uuid (raw.later device)).getLast? with
  | none => simp
  | some last => simp

/-- An override is cleared exactly if no usable entry for the device is left. -/
theorem get?_erase_iff :
    (urlOverrides (raw.erase device)).get? uuid = none ↔
      readings uuid (raw.erase device).entries = [] := by
  rw [get?_urlOverrides, List.getLast?_eq_none_iff]

/-- A submission that settles has its effect. -/
theorem get?_afterEdit_of_assigned {value : Option String} (hsettles : Settles raw form)
    (h : assigned uuid form = some value) :
    (urlOverrides (afterEdit raw form)).get? uuid = value := by
  unfold assigned at h
  split at h
  · next hdevice =>
    obtain ⟨hclear, hset⟩ := hsettles uuid hdevice
    unfold afterEdit editOverrides
    simp only
    split at h
    · next hraw =>
      cases h
      rw [if_pos hraw]
      exact get?_erase_iff.mpr (hclear hraw)
    · next hraw =>
      obtain ⟨base, hbase, hvalue⟩ := Option.map_eq_some_iff.mp h
      obtain ⟨hback, hlast⟩ := hset base hraw hbase
      rw [if_neg hraw, hbase, ← hvalue]
      exact (get?_set_iff hdevice hback).mpr hlast
  · cases h

/-- Submissions that settle, one after the other. -/
theorem get?_foldl_afterEdit (forms : List OverrideForm) (uuid : UUID)
    (hsettles : ∀ front form rest, forms = front ++ form :: rest →
      Settles (front.foldl afterEdit raw) form) :
    (urlOverrides (forms.foldl afterEdit raw)).get? uuid =
      (forms.filterMap (assigned uuid)).getLast?.getD ((urlOverrides raw).get? uuid) := by
  induction forms using List.reverseRecOn with
  | nil => rfl
  | append_singleton forms form ih =>
    have hbefore := ih fun front form' rest hsplit => by
      refine hsettles front form' (rest ++ [form]) ?_
      rw [hsplit, List.append_assoc, List.cons_append]
    rw [List.foldl_append, List.foldl_cons, List.foldl_nil, List.filterMap_append]
    cases hassigned : assigned uuid form with
    | none =>
      rw [get?_afterEdit_of_other hassigned, hbefore, List.filterMap_cons_none hassigned,
        List.filterMap_nil, List.append_nil]
    | some value =>
      rw [get?_afterEdit_of_assigned (hsettles forms form [] rfl) hassigned,
        List.filterMap_cons_some hassigned, List.filterMap_nil, List.getLast?_append]
      rfl

end

/-- **Editing overrides takes effect** over every run of flows in which no other spelling of a
device stands in the way of a submission for it. -/
theorem editsTakeEffect (entry entry' : ConfigEntry) (visits : List Visit)
    (hrun : runVisits visits entry = some entry')
    (hsettles : ∀ front form rest, visits.flatMap Visit.overrides = front ++ form :: rest →
      Settles (front.foldl afterEdit (storedOverrides entry.options)) form) :
    EditsTakeEffect entry visits entry' := by
  refine ⟨?_, ?_⟩
  · intro uuid
    unfold ConfigEntry.urlOverrides
    rw [storedOverrides_runVisits hrun]
    exact get?_foldl_afterEdit _ uuid hsettles
  · intro flow form hraw hbase
    unfold OptionsFlow.asyncStepUrlOverrides editOverrides
    simp only
    rw [if_neg hraw, hbase]
    rfl

/-- A visit that submits overrides. -/
def editVisit (forms : List OverrideForm) : Visit where
  form := { health := some { editUrlOverrides := some true } }
  overrides := forms

/-- The uuid of a speaker as it is typed, in upper case, and a base for it. -/
def typedOverride : OverrideForm where
  device := "00000000-0000-0000-0000-00000000000A"
  url := some "http://10.0.0.5:8123/"

/-- The same speaker as the form offers it, without a base. -/
def clearedOverride : OverrideForm where
  device := "00000000-0000-0000-0000-00000000000a"

/-- An override that was typed in upper case stays when it is cleared in lower case. -/
theorem not_editsTakeEffect :
    ∃ entry', runVisits [editVisit [typedOverride], editVisit [clearedOverride]] ⟨∅, ∅⟩ =
        some entry' ∧
      ¬ EditsTakeEffect ⟨∅, ∅⟩ [editVisit [typedOverride], editVisit [clearedOverride]] entry' := by
  refine ⟨_, rfl, ?_⟩
  intro h
  have hcleared := h.lastWrite ⟨10⟩
  revert hcleared
  decide

theorem editsTakeEffect_typed :
    ∃ entry', runVisits [editVisit [typedOverride]] ⟨∅, ∅⟩ = some entry' ∧
      EditsTakeEffect ⟨∅, ∅⟩ [editVisit [typedOverride]] entry' := by
  refine ⟨_, rfl, editsTakeEffect _ _ _ rfl ?_⟩
  intro front form rest hsplit
  have hnil : front = [] := by
    cases front with
    | nil => rfl
    | cons f front =>
      have hlength := congrArg List.length hsplit
      simp [editVisit] at hlength
  subst hnil
  obtain rfl : typedOverride = form := (List.cons.inj hsplit).1
  intro uuid _
  refine ⟨?_, ?_⟩
  · intro hempty
    have hgiven : strip (typedOverride.url.getD "") ≠ "" := by decide
    exact absurd hempty hgiven
  · intro base _ hbase
    have hknown : normalizeOverride (strip (typedOverride.url.getD "")) =
        some "http://10.0.0.5:8123" := by decide
    obtain rfl := Option.some.inj (hknown.symm.trans hbase)
    refine ⟨by decide, ?_⟩
    intro last hlast
    cases hlast

end CastDelivery
