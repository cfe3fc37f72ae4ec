import CastDelivery.Basic
import CastDelivery.Lib.Machine
import Mathlib.Data.Finset.Filter
import Mathlib.Data.Finset.Insert

/-!
# Set-ups of the media player platform

`async_setup_entry` of `media_player.py` connects `async_cast_discovered` to the discovery
signal and, unlike its sibling in `sensor.py`, never disconnects it. The handler keeps the
`async_add_entities` of its set-up but looks at the `runtime_data` that the entry has when a
device is discovered, so a handler of an unloaded set-up competes with the current one, and
comes before it.

`reload_safe_iff`: a run is safe if and only if, whenever a device is discovered that
`added_cast_devices` does not have, no handler of an unloaded set-up wants it.
-/

namespace CastDelivery

/-- `ChromecastInfo`, as far as the handlers read it. -/
structure ChromecastInfo where
  uuid : Option UUID
  isDynamicGroup : Option Bool := none
deriving DecidableEq, Repr

/-- `async_cast_discovered` of one set-up. The number of the set-up stands for its
`async_add_entities`. -/
structure Handler where
  setUp : ℕ
  wantedUuids : Option (List String)
deriving DecidableEq, Repr

/-- The config entry, with the handlers in connection order. -/
structure CastEntry where
  handlers : List Handler := []
  /-- The number of set-ups so far. -/
  setUps : ℕ := 0
  /-- The set-up that is loaded. -/
  loaded : Option ℕ := none
  /-- `runtime_data.added_cast_devices`, if the entry has `runtime_data`. -/
  addedCastDevices : Option (Finset UUID) := none
  /-- The media player entities, each with the set-up whose `async_add_entities` got it. -/
  entities : List (ℕ × UUID) := []

/-- What a handler does; each output names the set-up of the handler. -/
inductive EntryOutput
  /-- `added_casts.add(info.uuid)`. -/
  | claimed (setUp : ℕ) (uuid : UUID)
  /-- `DynamicCastGroup.async_setup`. -/
  | groupSetUp (setUp : ℕ) (uuid : UUID)
  /-- `async_add_entities([cast_device])`. -/
  | addEntities (setUp : ℕ) (uuid : UUID)
deriving DecidableEq, Repr

/-- The set-up whose handler acted. -/
def EntryOutput.setUp : EntryOutput → ℕ
  | claimed n _ | groupSetUp n _ | addEntities n _ => n

inductive EntryEvent
  /-- The set-up of the entry, with the list of uuids that its data has. -/
  | setUp (uuids : Option (List String))
  /-- The unload of the entry, which may or may not delete its `runtime_data`. -/
  | unload (deletesData : Bool)
  /-- The discovery signal. -/
  | discovered (info : ChromecastInfo)
deriving DecidableEq

/-- `config_entry.data.get(CONF_UUID) or None`. -/
def wantedUuidsOf (uuids : Option (List String)) : Option (List String) :=
  uuids.filter (· ≠ [])

/-- `str(info.uuid)`. -/
def ChromecastInfo.strUuid (info : ChromecastInfo) : String :=
  (info.uuid.map UUID.str).getD "None"

/-- `wanted_uuids is None or str(discover.uuid) in wanted_uuids`. -/
def Handler.wants (h : Handler) (info : ChromecastInfo) : Bool :=
  h.wantedUuids.all fun uuids => info.strUuid ∈ uuids

namespace CastEntry

/-- `_async_create_cast_device`, called by the handler of a set-up, and the uuid of the entity
it returns. -/
def asyncCreateCastDevice (E : CastEntry) (setUp : ℕ) (info : ChromecastInfo) :
    (CastEntry × List EntryOutput) × Option UUID :=
  match info.uuid with
  | none => ((E, []), none)
  | some u =>
    match E.addedCastDevices with
    -- without `runtime_data` the handler raises `AttributeError`
    | none => ((E, []), none)
    | some added =>
      if u ∈ added then ((E, []), none)
      else
        let E := { E with addedCastDevices := some (insert u added) }
        if info.isDynamicGroup = some true then ((E, [.claimed setUp u, .groupSetUp setUp u]), none)
        else ((E, [.claimed setUp u]), some u)

/-- `async_cast_discovered`. -/
def asyncCastDiscovered (E : CastEntry) (h : Handler) (info : ChromecastInfo) :
    CastEntry × List EntryOutput :=
  if h.wants info = false then (E, [])
  else
    let r := E.asyncCreateCastDevice h.setUp info
    match r.2 with
    | none => r.1
    | some u =>
      ({ r.1.1 with entities := r.1.1.entities ++ [(h.setUp, u)] },
        r.1.2 ++ [.addEntities h.setUp u])

/-- The dispatcher calls the handlers in connection order. -/
def dispatch (info : ChromecastInfo) : List Handler → CastEntry → CastEntry × List EntryOutput
  | [], E => (E, [])
  | h :: hs, E =>
    let r := E.asyncCastDiscovered h info
    let rest := dispatch info hs r.1
    (rest.1, r.2 ++ rest.2)

/-- `async_setup_entry` of the integration and then of the platform. -/
def asyncSetupEntry (E : CastEntry) (uuids : Option (List String)) : CastEntry :=
  { E with
    handlers := E.handlers ++ [⟨E.setUps, wantedUuidsOf uuids⟩]
    setUps := E.setUps + 1
    loaded := some E.setUps
    addedCastDevices := some ∅ }

/-- `async_unload_entry`: the entities of the platform are removed, and `_async_tear_down` takes
their uuids out of `added_cast_devices`. The handler stays connected. -/
def asyncUnloadEntry (E : CastEntry) (setUp : ℕ) (deletesData : Bool) : CastEntry :=
  { E with
    loaded := none
    addedCastDevices :=
      if deletesData then none
      else E.addedCastDevices.map fun added => added.filter fun u => (setUp, u) ∉ E.entities
    entities := E.entities.filter fun e => e.1 ≠ setUp }

/-- One event. Only an entry that is not loaded is set up, and only a loaded one unloaded. -/
def step (E : CastEntry) : EntryEvent → CastEntry × List EntryOutput
  | .setUp uuids =>
    match E.loaded with
    | none => (E.asyncSetupEntry uuids, [])
    | some _ => (E, [])
  | .unload deletesData =>
    match E.loaded with
    | none => (E, [])
    | some setUp => (E.asyncUnloadEntry setUp deletesData, [])
  | .discovered info => dispatch info E.handlers E

/-- The entry after a run. -/
def after (run : List EntryEvent) : CastEntry := Machine.final step {} run

/-! ## The handler that acts -/

/-- The device has a uuid that `added_cast_devices` does not have. -/
def isNew (E : CastEntry) (info : ChromecastInfo) : Bool :=
  match info.uuid, E.addedCastDevices with
  | some u, some added => u ∉ added
  | _, _ => false

variable {E : CastEntry} {info : ChromecastInfo} {hs : List Handler} {h : Handler}

theorem isNew_iff : E.isNew info = true ↔
    ∃ u added, info.uuid = some u ∧ E.addedCastDevices = some added ∧ u ∉ added := by
  unfold isNew
  cases info.uuid <;> cases E.addedCastDevices <;> simp

/-- A handler does nothing for a device that is not new. -/
theorem asyncCastDiscovered_known (hnew : E.isNew info = false) (h : Handler) :
    E.asyncCastDiscovered h info = (E, []) := by
  have hcreate : E.asyncCreateCastDevice h.setUp info = ((E, []), none) := by
    unfold asyncCreateCastDevice
    unfold isNew at hnew
    cases hu : info.uuid with
    | none => rfl
    | some u =>
      cases ha : E.addedCastDevices with
      | none => rfl
      | some added =>
        simp only [hu, ha, decide_eq_false_iff_not, not_not] at hnew
        exact if_pos hnew
  unfold asyncCastDiscovered
  simp only [hcreate]
  split <;> rfl

/-- What the handler of a set-up does for a new device that it wants. -/
structure Acts (E : CastEntry) (n : ℕ) (info : ChromecastInfo)
    (r : CastEntry × List EntryOutput) (u : UUID) : Prop where
  uuid : info.uuid = some u
  handlers : r.1.handlers = E.handlers
  setUps : r.1.setUps = E.setUps
  loaded : r.1.loaded = E.loaded
  added : r.1.addedCastDevices = E.addedCastDevices.map (insert u)
  outputs : r.2 = .claimed n u :: if info.isDynamicGroup = some true then [.groupSetUp n u]
    else [.addEntities n u]

theorem acts_asyncCastDiscovered (hnew : E.isNew info = true)
    (hwants : h.wants info = true) :
    ∃ u, Acts E h.setUp info (E.asyncCastDiscovered h info) u := by
  obtain ⟨u, added, hu, ha, hnot⟩ := isNew_iff.mp hnew
  refine ⟨u, ?_⟩
  unfold asyncCastDiscovered asyncCreateCastDevice
  simp only [hwants, hu, ha, Bool.true_eq_false, if_false, if_neg hnot]
  by_cases hgroup : info.isDynamicGroup = some true
  · simp only [hgroup, if_true]
    exact ⟨hu, rfl, rfl, rfl, by simp [ha], by simp [hgroup]⟩
  · simp only [hgroup, if_false]
    exact ⟨hu, rfl, rfl, rfl, by simp [ha], by simp [hgroup]⟩

theorem wants_of_find? (hfind : hs.find? (fun h : Handler => h.wants info) = some h) :
    h.wants info = true :=
  List.find?_some (p := fun h : Handler => h.wants info) hfind

theorem dispatch_known (hnew : E.isNew info = false) : dispatch info hs E = (E, []) := by
  induction hs with
  | nil => rfl
  | cons h hs ih =>
    unfold dispatch
    simp only [asyncCastDiscovered_known hnew h, ih, List.append_nil]

/-- **The first handler that wants a new device acts, and no other.** -/
theorem dispatch_new (hnew : E.isNew info = true) :
    dispatch info hs E = match hs.find? fun h : Handler => h.wants info with
      | none => (E, [])
      | some h => E.asyncCastDiscovered h info := by
  induction hs with
  | nil => rfl
  | cons h hs ih =>
    unfold dispatch
    cases hwants : h.wants info with
    | false =>
      have hnone : E.asyncCastDiscovered h info = (E, []) := by
        unfold asyncCastDiscovered
        exact if_pos hwants
      rw [List.find?_cons_of_neg (by simp [hwants]), hnone, ← ih]
      rfl
    | true =>
      -- the first handler that wants the device adds its uuid, and the others see it there
      obtain ⟨u, hacts⟩ := acts_asyncCastDiscovered hnew hwants
      have hclaimed : (E.asyncCastDiscovered h info).1.isNew info = false := by
        obtain ⟨u', added, hu, ha, -⟩ := isNew_iff.mp hnew
        rw [isNew, hacts.uuid, hacts.added, ha]
        simp
      rw [List.find?_cons_of_pos (by simpa using hwants)]
      simp only [dispatch_known hclaimed, List.append_nil]

/-! ## The connected handlers -/

/-- Handlers connect in the order of the set-ups, and that of the loaded set-up is the last. -/
structure Connected (E : CastEntry) : Prop where
  numbered : ∀ h ∈ E.handlers, h.setUp < E.setUps
  last : ∀ n, E.loaded = some n → ∃ old wantedUuids,
    E.handlers = old ++ [⟨n, wantedUuids⟩] ∧ ∀ h ∈ old, h.setUp < n

theorem frame_discovered (E : CastEntry) (info : ChromecastInfo) :
    (E.step (.discovered info)).1.handlers = E.handlers ∧
      (E.step (.discovered info)).1.setUps = E.setUps ∧
      (E.step (.discovered info)).1.loaded = E.loaded := by
  simp only [step]
  cases hnew : E.isNew info with
  | false =>
    rw [dispatch_known hnew]
    exact ⟨rfl, rfl, rfl⟩
  | true =>
    rw [dispatch_new hnew]
    split
    · exact ⟨rfl, rfl, rfl⟩
    · next h hfind =>
      obtain ⟨u, hacts⟩ := acts_asyncCastDiscovered hnew (wants_of_find? hfind)
      exact ⟨hacts.handlers, hacts.setUps, hacts.loaded⟩

theorem Connected.setUp (C : Connected E) (uuids : Option (List String)) :
    Connected (E.asyncSetupEntry uuids) where
  numbered h hh := by
    rcases List.mem_append.mp hh with hh | hh
    · exact (C.numbered h hh).trans (Nat.lt_succ_self _)
    · rw [List.mem_singleton] at hh
      rw [hh]
      exact Nat.lt_succ_self _
  last n hn := by
    obtain rfl : E.setUps = n := Option.some.inj hn
    exact ⟨E.handlers, wantedUuidsOf uuids, rfl, C.numbered⟩

theorem connected_step (E : CastEntry) (event : EntryEvent) (C : Connected E) :
    Connected (E.step event).1 := by
  cases event with
  | setUp uuids =>
    simp only [step]
    split
    · exact C.setUp uuids
    · exact C
  | unload deletesData =>
    simp only [step]
    split
    · exact C
    · exact ⟨C.numbered, by simp [asyncUnloadEntry]⟩
  | discovered info =>
    obtain ⟨hhandlers, hsetUps, hloaded⟩ := frame_discovered E info
    exact ⟨by rw [hhandlers, hsetUps]; exact C.numbered,
      by rw [hhandlers, hloaded]; exact C.last⟩

theorem connected_after (run : List EntryEvent) : Connected (after run) :=
  Machine.final_invariant step connected_step ⟨by simp, by simp⟩ run

/-! ## Handlers of unloaded set-ups -/

/-- Only the handler of the loaded set-up creates an entity or claims a uuid. -/
def OnlyLoadedActs (E : CastEntry) (event : EntryEvent) : Prop :=
  ∀ o ∈ (E.step event).2, E.loaded = some o.setUp

/-- No handler of an unloaded set-up wants a new device. -/
def NoRetiredWants (E : CastEntry) : EntryEvent → Prop
  | .discovered info => E.isNew info = true →
    ∀ h ∈ E.handlers, h.wants info = true → E.loaded = some h.setUp
  | _ => True

theorem setUp_outputs {n : ℕ} {r : CastEntry × List EntryOutput} {u : UUID}
    (hacts : Acts E n info r u) : ∀ o ∈ r.2, o.setUp = n := by
  intro o ho
  rw [hacts.outputs] at ho
  rcases List.mem_cons.mp ho with rfl | ho
  · rfl
  · split at ho <;> rw [List.mem_singleton] at ho <;> rw [ho] <;> rfl

/-- If any handler of an unloaded set-up wants a new device, one of them acts: they come before
the handler of the loaded set-up. -/
theorem retired_acts (C : Connected E) (hh : h ∈ E.handlers) (hwants : h.wants info = true)
    (hretired : E.loaded ≠ some h.setUp) :
    ∃ h', E.handlers.find? (fun h => h.wants info) = some h' ∧
      E.loaded ≠ some h'.setUp := by
  cases hloaded : E.loaded with
  | none =>
    obtain ⟨h', hfind⟩ := Option.isSome_iff_exists.mp
      (List.find?_isSome (p := fun h => h.wants info) |>.mpr ⟨h, hh, hwants⟩)
    exact ⟨h', hfind, by simp⟩
  | some n =>
    obtain ⟨old, wantedUuids, hhandlers, hold⟩ := C.last n hloaded
    rw [hhandlers, List.mem_append, List.mem_singleton] at hh
    -- it is connected before the handler of the loaded set-up
    have hmem : h ∈ old := by
      refine hh.resolve_right fun heq => hretired ?_
      rw [hloaded, heq]
    obtain ⟨h', hfind⟩ := Option.isSome_iff_exists.mp
      (List.find?_isSome (p := fun h => h.wants info) |>.mpr ⟨h, hmem, hwants⟩)
    refine ⟨h', by rw [hhandlers, List.find?_append, hfind]; rfl, fun heq => ?_⟩
    have hlt := hold h' (List.mem_of_find?_eq_some hfind)
    rw [Option.some.injEq] at heq
    exact hlt.ne' heq

theorem onlyLoadedActs_iff (C : Connected E) (event : EntryEvent) :
    OnlyLoadedActs E event ↔ NoRetiredWants E event := by
  unfold OnlyLoadedActs NoRetiredWants step
  cases event with
  | setUp uuids => cases E.loaded <;> simp
  | unload deletesData => cases E.loaded <;> simp
  | discovered info =>
    cases hnew : E.isNew info with
    | false => simp [hnew, dispatch_known hnew]
    | true =>
      simp only [dispatch_new hnew]
      constructor
      · -- the first handler that wants the device claims it
        intro hacting _ h hh hwants
        by_contra hretired
        obtain ⟨h', hfind, hretired'⟩ := retired_acts C hh hwants hretired
        obtain ⟨u, hacts⟩ := acts_asyncCastDiscovered hnew (wants_of_find? hfind)
        simp only [hfind, hacts.outputs] at hacting
        exact hretired' (hacting _ List.mem_cons_self)
      · intro hcurrent o ho
        split at ho
        · cases ho
        · next h hfind =>
          have hwants := wants_of_find? hfind
          obtain ⟨u, hacts⟩ := acts_asyncCastDiscovered hnew hwants
          rw [setUp_outputs hacts o ho]
          exact hcurrent hnew h (List.mem_of_find?_eq_some hfind) hwants

/-! ## One entity per set-up -/

/-- The set-ups whose `async_add_entities` got an entity for a device. -/
def entitiesFor (u : UUID) (os : List EntryOutput) : List ℕ :=
  os.filterMap fun
    | .addEntities n u' => if u' = u then some n else none
    | _ => none

theorem entitiesFor_append (u : UUID) (os ps : List EntryOutput) :
    entitiesFor u (os ++ ps) = entitiesFor u os ++ entitiesFor u ps := List.filterMap_append

/-- A device that a set-up with handler `h` is told of and wants, and is never told to be a
dynamic group, gets one entity, through the `async_add_entities` of the set-up. -/
def Serves (h : Handler) (E : CastEntry) (events : List EntryEvent) : Prop :=
  ∀ u, (∃ info, .discovered info ∈ events ∧ info.uuid = some u ∧ h.wants info = true) →
    (∀ info, .discovered info ∈ events → info.uuid = some u → info.isDynamicGroup ≠ some true) →
    entitiesFor u (Machine.emitted step E events) = [h.setUp]

/-- What the events of a set-up have done for a device: its uuid is claimed and it has its entity,
or it has not been wanted yet. -/
structure Serving (h : Handler) (u : UUID) (events : List EntryEvent) (E : CastEntry)
    (os : List EntryOutput) : Prop where
  loaded : E.loaded = some h.setUp
  connected : h ∈ E.handlers
  device : ∃ added, E.addedCastDevices = some added ∧
    (u ∈ added ∧ entitiesFor u os = [h.setUp] ∨
      u ∉ added ∧ entitiesFor u os = [] ∧
        ∀ info, .discovered info ∈ events → info.uuid = some u → h.wants info = false)

variable {u : UUID} {events : List EntryEvent} {os : List EntryOutput}

theorem entitiesFor_acts {n : ℕ} {r : CastEntry × List EntryOutput} {v : UUID}
    (hacts : Acts E n info r v) (hgroup : info.isDynamicGroup ≠ some true) :
    entitiesFor u r.2 = if v = u then [n] else [] := by
  rw [hacts.outputs, if_neg hgroup]
  by_cases hv : v = u <;> simp [entitiesFor, hv]

theorem entitiesFor_acts_other {n : ℕ} {r : CastEntry × List EntryOutput} {v : UUID}
    (hacts : Acts E n info r v) (hv : v ≠ u) : entitiesFor u r.2 = [] := by
  rw [hacts.outputs]
  split <;> simp [entitiesFor, hv]

/-- **One signal keeps the set-up serving the device.** -/
theorem Serving.discovered (V : Serving h u events E os)
    (hwants : NoRetiredWants E (.discovered info))
    (hgroup : info.uuid = some u → info.isDynamicGroup ≠ some true) :
    Serving h u (events ++ [.discovered info]) (E.step (.discovered info)).1
      (os ++ (E.step (.discovered info)).2) := by
  obtain ⟨hhandlers, -, hloaded⟩ := frame_discovered E info
  refine ⟨by rw [hloaded, V.loaded], by rw [hhandlers]; exact V.connected, ?_⟩
  obtain ⟨added, hadded, hdevice⟩ := V.device
  -- a signal that nobody acts on is about another device, or one that is known or not wanted
  have hidle : (info.uuid = some u → u ∉ added → h.wants info = false) →
      u ∈ added ∧ entitiesFor u (os ++ []) = [h.setUp] ∨
        u ∉ added ∧ entitiesFor u (os ++ []) = [] ∧
          ∀ info', .discovered info' ∈ events ++ [.discovered info] → info'.uuid = some u →
            h.wants info' = false := by
    intro hnot
    rw [List.append_nil]
    refine hdevice.imp_right fun ⟨hu, hnone, hall⟩ => ⟨hu, hnone, fun info' hi hu' => ?_⟩
    rcases List.mem_append.mp hi with hi | hi
    · exact hall info' hi hu'
    · rw [List.mem_singleton, EntryEvent.discovered.injEq] at hi
      rw [hi] at hu' ⊢
      exact hnot hu' hu
  simp only [step]
  cases hnew : E.isNew info with
  | false =>
    rw [dispatch_known hnew]
    refine ⟨added, hadded, hidle fun hu hnot => ?_⟩
    rw [isNew, hu, hadded] at hnew
    simp [hnot] at hnew
  | true =>
    rw [dispatch_new hnew]
    split
    · next hfind =>
      refine ⟨added, hadded, hidle fun _ _ => ?_⟩
      simpa using List.find?_eq_none.mp hfind h V.connected
    · next h' hfind =>
      have hwanted := wants_of_find? hfind
      have hsame : h'.setUp = h.setUp := by
        have hcurrent := hwants hnew h' (List.mem_of_find?_eq_some hfind) hwanted
        rw [V.loaded] at hcurrent
        exact (Option.some.inj hcurrent).symm
      obtain ⟨v, hacts⟩ := acts_asyncCastDiscovered hnew hwanted
      refine ⟨insert v added, by rw [hacts.added, hadded]; rfl, ?_⟩
      rw [entitiesFor_append]
      by_cases hv : v = u
      · -- the device itself, for the first time
        subst hv
        have hnot : v ∉ added := by
          obtain ⟨v', added', hv', hadded', hnot⟩ := isNew_iff.mp hnew
          rw [hacts.uuid] at hv'
          rw [hadded] at hadded'
          rwa [Option.some.inj hv', Option.some.inj hadded']
        obtain ⟨-, hnone, -⟩ := hdevice.resolve_left fun hd => hnot hd.1
        refine .inl ⟨Finset.mem_insert_self v added, ?_⟩
        rw [hnone, entitiesFor_acts hacts (hgroup hacts.uuid), if_pos rfl, hsame]
        rfl
      · rw [entitiesFor_acts_other hacts hv, List.append_nil]
        have hother := hidle fun hu _ => absurd (Option.some.inj (hacts.uuid.symm.trans hu)) hv
        rw [List.append_nil] at hother
        rwa [Finset.mem_insert, or_iff_right (Ne.symm hv)]

theorem Serving.setUp (V : Serving h u events E os) (uuids : Option (List String)) :
    Serving h u (events ++ [.setUp uuids]) (E.step (.setUp uuids)).1
      (os ++ (E.step (.setUp uuids)).2) := by
  simp only [step, V.loaded, List.append_nil]
  refine ⟨V.loaded, V.connected, ?_⟩
  simpa using V.device

/-- **The events of a set-up serve every device**, if no handler of an unloaded set-up wants a new
device meanwhile. -/
theorem serves_run (hloaded : E.loaded = some h.setUp) (hconnected : h ∈ E.handlers)
    (hadded : E.addedCastDevices = some ∅) (hevents : ∀ b, .unload b ∉ events)
    (hwants : Machine.Along step NoRetiredWants E events) : Serves h E events := by
  intro u hfound hgroup
  have V : Serving h u events (Machine.final step E events) (Machine.emitted step E events) := by
    clear hfound
    -- on the events so far: the conditions are on the state before the last one
    induction events using List.reverseRecOn with
    | nil => exact ⟨hloaded, hconnected, ∅, hadded, .inr (by simp [entitiesFor])⟩
    | append_singleton events event ih =>
      rw [Machine.along_append] at hwants
      have V := ih (fun b hb => hevents b (List.mem_append_left _ hb)) hwants.1
        fun info hi => hgroup info (List.mem_append_left _ hi)
      rw [Machine.final_concat, Machine.emitted_concat]
      cases event with
      | setUp uuids => exact V.setUp uuids
      | unload b => exact absurd (by simp) (hevents b)
      | discovered info => exact V.discovered hwants.2.1 (hgroup info (by simp))
  obtain ⟨added, -, hdevice⟩ := V.device
  obtain ⟨info, hi, hu, hwanted⟩ := hfound
  rcases hdevice with ⟨-, hone⟩ | ⟨-, -, hall⟩
  · exact hone
  · rw [hall info hi hu] at hwanted
    cases hwanted

/-! ## Runs -/

/-- A run is safe: only the handler of the loaded set-up acts, and each set-up serves every
device until it is unloaded. -/
structure ReloadSafe (run : List EntryEvent) : Prop where
  onlyLoaded : Machine.Along step OnlyLoadedActs {} run
  serves : ∀ before uuids events rest, run = before ++ .setUp uuids :: (events ++ rest) →
    (after before).loaded = none → (∀ b, .unload b ∉ events) →
    Serves ⟨(after before).setUps, wantedUuidsOf uuids⟩ (after (before ++ [.setUp uuids])) events

theorem onlyLoaded_iff (run : List EntryEvent) :
    Machine.Along step OnlyLoadedActs {} run ↔ Machine.Along step NoRetiredWants {} run := by
  induction run using List.reverseRecOn with
  | nil => exact Iff.rfl
  | append_singleton run event ih =>
    rw [Machine.along_append, Machine.along_append, ih]
    have hstep := onlyLoadedActs_iff (connected_after run) event
    exact and_congr_right fun _ => and_congr_left fun _ => hstep

/-- **A run is safe** if and only if no handler of an unloaded set-up ever wants a discovered
device that `added_cast_devices` does not have. -/
theorem reload_safe_iff (run : List EntryEvent) :
    ReloadSafe run ↔ Machine.Along step NoRetiredWants {} run := by
  refine ⟨fun hsafe => (onlyLoaded_iff run).mp hsafe.onlyLoaded, fun hwants =>
    ⟨(onlyLoaded_iff run).mpr hwants, ?_⟩⟩
  rintro before uuids events rest rfl hloaded hevents
  rw [← List.singleton_append, ← List.append_assoc, Machine.along_append] at hwants
  obtain ⟨-, hrest⟩ := hwants
  rw [Machine.along_append] at hrest
  have hstep : after (before ++ [.setUp uuids]) = (after before).asyncSetupEntry uuids := by
    rw [after, Machine.final_concat, ← after]
    simp only [step, hloaded]
  refine serves_run ?_ ?_ ?_ hevents hrest.1
  · rw [hstep]
    rfl
  · rw [hstep]
    exact List.mem_append_right _ (List.mem_singleton_self _)
  · rw [hstep]
    rfl

/-- A device that is discovered after a reload. -/
def reloaded : List EntryEvent :=
  [.setUp none, .unload true, .setUp none, .discovered ⟨some ⟨1⟩, none⟩]

/-- The handler of the first set-up claims the device and adds its entity. -/
theorem not_reloadSafe : ¬ ReloadSafe reloaded := by
  intro h
  have hfirst := h.onlyLoaded.2.2.2.1 (.addEntities 0 ⟨1⟩) (by decide)
  revert hfirst
  decide

end CastEntry

end CastDelivery
