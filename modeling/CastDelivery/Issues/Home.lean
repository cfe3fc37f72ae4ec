import CastDelivery.Issues.Checks
import CastDelivery.Lib.Machine

/-!
# Issues over the life of the entry

`Home` is what Home Assistant keeps while the entry is set up, unloaded and set up again: the
registry of devices, the issue registry, the stored timestamps, and the set-up that is loaded. An
issue stays in the registry until something deletes it or Home Assistant restarts; what a set-up
remembers of its issues is gone when it is unloaded.

* `reports_stale_iff`: a refresh reports the devices that are gone for long enough, and no others,
  if and only if none of those was discovered in this set-up, apart from issues left over;
* `none_outlives_iff`: after a refresh no issue outlives its condition if and only if those that
  this set-up did not raise itself do not.
-/

namespace CastDelivery

open Reconcile

/-- What a set-up of the entry keeps about its devices. -/
structure SetUp where
  /-- The keys of `browser.devices`. -/
  browser : List UUID := []
  tracker : TopologyTracker := {}
  tracking : StaleTracking := {}

/-- `.storage/cast.health`. -/
structure HealthStore where
  lastSeen : Dict String DateTime := ∅
  trackedSince : Dict String DateTime := ∅

/-- Home Assistant, as far as the issues about devices and groups go. -/
structure Home where
  registry : DeviceRegistry
  issues : IssueRegistry := ∅
  stored : HealthStore := {}
  loaded : Option SetUp := none

/-- What can happen. -/
inductive HomeEvent
  /-- The browser calls `add_cast` or `update_cast`. -/
  | discovered (now : DateTime) (info : DiscoveryRecord)
  /-- The browser calls `remove_cast`. -/
  | removed (uuid : UUID)
  /-- A refresh cycle of the coordinator, up to the check of its options. -/
  | refresh (now : DateTime) (reading : NetworkReading)
  /-- Devices are added to the registry, removed from it or renamed. -/
  | devices (registry : DeviceRegistry)
  /-- `StaleDeviceFlow.async_step_confirm`, with the user's confirmation. -/
  | confirm (flow : StaleDeviceFlow)
  | unload
  | setUp
  /-- Home Assistant stops, which writes the store, and starts. -/
  | restart

namespace SetUp

/-- The browser has the device. -/
def Advertises (s : SetUp) (device : Device) : Prop := ∃ u ∈ s.browser, device.uuid? = some u

/-- The device was discovered in this set-up. -/
def Discovered (s : SetUp) (device : Device) : Prop :=
  ∃ u ∈ s.tracker.infos.keys, device.uuid? = some u

instance (s : SetUp) (device : Device) : Decidable (s.Advertises device) :=
  inferInstanceAs (Decidable (∃ u ∈ s.browser, device.uuid? = some u))

instance (s : SetUp) (device : Device) : Decidable (s.Discovered device) :=
  inferInstanceAs (Decidable (∃ u ∈ s.tracker.infos.keys, device.uuid? = some u))

end SetUp

/-- A device was seen. -/
structure Sighting where
  uuid : UUID
  time : DateTime
deriving DecidableEq, Repr

namespace Home

/-- `discover_chromecast`, with the callbacks it queues on the event loop. -/
def discover (H : Home) (s : SetUp) (now : DateTime) (info : DiscoveryRecord) : Home :=
  let seen := s.tracking.asyncDeviceSeen H.issues now info.uuid
  { H with
    issues := seen.2
    loaded := some
      { browser := insert info.uuid s.browser
        tracker := s.tracker.asyncRecordDiscovery info
        tracking := seen.1 } }

/-- `_async_update_data`, up to the check of its options. -/
def refreshTopology (H : Home) (s : SetUp) (now : DateTime) (reading : NetworkReading) : Home :=
  let tracker := s.tracker.asyncRefresh reading
  let issues := H.issues.asyncCheckTopology tracker
  let checked := s.tracking.asyncCheckStale issues H.registry now tracker.infos.keys
  { H with
    issues := checked.2
    loaded := some { s with tracker := tracker, tracking := checked.1 } }

/-- `RepairManager.async_flush`, for the set-up that is loaded. -/
def flush (H : Home) : HealthStore :=
  match H.loaded with
  | some s => ⟨s.tracking.lastSeen, s.tracking.trackedSince⟩
  | none => H.stored

/-- `RepairManager.async_load`, in a new set-up. -/
def load (H : Home) : SetUp where
  tracking := { lastSeen := H.stored.lastSeen, trackedSince := H.stored.trackedSince }

/-- Run one event. The browser and the coordinator belong to a set-up. -/
def step (H : Home) : HomeEvent → Home × List Sighting
  | .discovered now info =>
    match H.loaded with
    | some s => (H.discover s now info, [⟨info.uuid, now⟩])
    | none => (H, [])
  | .removed uuid =>
    match H.loaded with
    | some s => ({ H with loaded := some { s with browser := s.browser.filter (· ≠ uuid) } }, [])
    | none => (H, [])
  | .refresh now reading =>
    match H.loaded with
    | some s => (H.refreshTopology s now reading, [])
    | none => (H, [])
  | .devices registry => ({ H with registry := registry }, [])
  | .confirm flow =>
    ({ H with
        registry := H.registry.remove flow.deviceId
        issues := H.issues.delete flow.issueId }, [])
  | .unload => ({ H with stored := H.flush, loaded := none }, [])
  | .setUp =>
    match H.loaded with
    | some _ => (H, [])
    | none => ({ H with loaded := some H.load }, [])
  | .restart => ({ H with issues := ∅, stored := H.flush, loaded := none }, [])

/-- The home after a run that starts with some registered devices. -/
def after (registry : DeviceRegistry) (run : List HomeEvent) : Home :=
  Machine.final step { registry := registry } run

/-- The sightings of a run. -/
def sightings (registry : DeviceRegistry) (run : List HomeEvent) : List Sighting :=
  Machine.emitted step { registry := registry } run

/-- When a device was seen last. -/
def lastSighting (seen : List Sighting) (u : UUID) : Option DateTime :=
  (seen.reverse.find? fun sighting => sighting.uuid = u).map Sighting.time

/-! ## What the store knows -/

/-- The timestamps of the sightings, wherever they are kept. -/
def lastSeen (H : Home) : Dict String DateTime := H.flush.lastSeen

theorem lastSeen_step (H : Home) (e : HomeEvent) (u : UUID) :
    (H.step e).1.lastSeen.get? u.str
      = (lastSighting (H.step e).2 u).or (H.lastSeen.get? u.str) := by
  obtain ⟨registry, issues, stored, loaded⟩ := H
  cases loaded with
  | none => cases e <;> rfl
  | some s =>
    cases e with
    | discovered now info =>
      simp only [step, discover, lastSeen, flush, StaleTracking.asyncDeviceSeen, Dict.get?_set]
      by_cases hu : info.uuid = u
      · simp [lastSighting, hu]
      · have hne : u.str ≠ info.uuid.str := fun h => hu (UUID.str_inj h).symm
        simp [lastSighting, hu, hne]
    | _ => rfl

theorem lastSighting_append (seen later : List Sighting) (u : UUID) :
    lastSighting (seen ++ later) u = (lastSighting later u).or (lastSighting seen u) := by
  unfold lastSighting
  rw [List.reverse_append, List.find?_append]
  cases later.reverse.find? fun sighting => sighting.uuid = u <;> rfl

/-- **The last sighting of a device is kept** through unloads and restarts. -/
theorem lastSeen_after (registry : DeviceRegistry) (run : List HomeEvent) (u : UUID) :
    (after registry run).lastSeen.get? u.str = lastSighting (sightings registry run) u :=
  Machine.history_induction step
    (P := fun _ H seen => H.lastSeen.get? u.str = lastSighting seen u) _ rfl
    (fun _ H seen e h => by rw [lastSeen_step, lastSighting_append, h]) run

/-! ## Issues about devices -/

/-- The device ids of the issues that the set-up in charge remembers. -/
def memory (H : Home) : Set String :=
  { a | ∃ s, H.loaded = some s ∧ a ∈ s.tracking.stale.keys }

/-- The device ids of the issues that were left over: the set-up in charge does not remember
them. -/
def leftOver (H : Home) : Set String := orphans H.issues.stale H.memory

theorem memory_of_loaded (H : Home) {s : SetUp} (h : H.loaded = some s) :
    H.memory = { a | a ∈ s.tracking.stale.keys } := by
  ext a
  simp [memory, h]

/-- Since when nothing was heard of a device: its last sighting or, if it was never seen, the time
at which it is first tracked. -/
def unseenSince (seen : List Sighting) (M : StaleTracking) (now : DateTime) (device : Device) :
    DateTime :=
  (device.uuid?.bind (lastSighting seen)).getD ((M.trackedSince.get? device.key).getD now)

variable {registry : DeviceRegistry} {run : List HomeEvent} {s : SetUp} {now : DateTime}
  {reading : NetworkReading} {device : Device}

theorem after_refresh (h : (after registry run).loaded = some s) :
    after registry (run ++ [.refresh now reading])
      = (after registry run).refreshTopology s now reading := by
  refine (Machine.final_concat ..).trans ?_
  show ((after registry run).step (.refresh now reading)).1 = _
  simp only [step, h]

/-- What `async_check_stale` takes for the reference of a device. -/
theorem reference_eq (h : (after registry run).loaded = some s) (now : DateTime)
    (device : Device) :
    s.tracking.reference ((s.tracking.trackedSince.get? device.key).getD now) device
      = unseenSince (sightings registry run) s.tracking now device := by
  have hseen : ∀ u : UUID, s.tracking.lastSeen.get? u.str
      = lastSighting (sightings registry run) u := by
    intro u
    rw [← lastSeen_after, lastSeen, flush, h]
  unfold StaleTracking.reference unseenSince Device.uuidStr
  cases device.uuid? with
  | none => rfl
  | some u => simp only [Option.map_some, Option.bind_some, hseen]

/-- For a registered device, to be a candidate is to be stale: ids are distinct. -/
theorem mem_current_iff {M : StaleTracking} {discovered : List UUID} {registry : DeviceRegistry}
    (hmem : device ∈ registry.devices) :
    device.id ∈ M.current now discovered registry ↔ M.Stale now discovered device := by
  constructor
  · rintro ⟨device', hmem', hid, hstale⟩
    have heq : device' = device :=
      List.inj_on_of_nodup_map registry.nodup hmem' hmem hid
    exact heq ▸ hstale
  · exact fun hstale => ⟨device, hmem, rfl, hstale⟩

/-- **The issues about devices after a refresh**: those of the stale devices and those left over. -/
theorem stale_after_refresh (h : (after registry run).loaded = some s) (now : DateTime)
    (reading : NetworkReading) :
    (after registry (run ++ [.refresh now reading])).issues.stale
      = reconcile (after registry run).issues.stale (after registry run).memory
          (s.tracking.current now s.tracker.infos.keys (after registry run).registry) := by
  rw [after_refresh h, memory_of_loaded _ h]
  simp only [refreshTopology]
  rw [StaleTracking.stale_asyncCheckStale, IssueRegistry.stale_asyncCheckTopology,
    TopologyTracker.infos_asyncRefresh]

/-- After a refresh, a registered device has an issue if it is stale or one was left over. -/
theorem active_after_refresh (h : (after registry run).loaded = some s)
    (hmem : device ∈ (after registry run).registry.devices) :
    (after registry (run ++ [.refresh now reading])).issues.Active (staleDeviceId device.id) ↔
      (¬ s.Discovered device ∧
        unseenSince (sightings registry run) s.tracking now device ≤ staleThreshold now) ∨
      device.id ∈ (after registry run).leftOver := by
  have hstale := Set.ext_iff.mp (stale_after_refresh h now reading) device.id
  rw [mem_reconcile_iff, mem_current_iff hmem, StaleTracking.Stale, reference_eq h] at hstale
  refine hstale.trans (or_congr (and_congr ?_ Iff.rfl) Iff.rfl)
  simp [SetUp.Discovered]

/-! ## The issues are fixable -/

/-- Every issue about a device is fixable. -/
def AllFixable (H : Home) : Prop :=
  ∀ a issue, H.issues.get? (staleDeviceId a) = some issue → issue.isFixable = true

theorem allFixable_step (H : Home) (e : HomeEvent) (h : H.AllFixable) :
    (H.step e).1.AllFixable := by
  intro a issue hissue
  cases e with
  | discovered now info =>
    simp only [step] at hissue
    cases hl : H.loaded with
    | none => exact h a issue (by simpa [hl] using hissue)
    | some s =>
      simp only [hl, discover, StaleTracking.asyncDeviceSeen, IssueRegistry.delete,
        Dict.get?_foldl_erase] at hissue
      split at hissue
      · cases hissue
      · exact h a issue hissue
  | removed | setUp =>
    simp only [step] at hissue
    cases hl : H.loaded <;> exact h a issue (by simpa [hl] using hissue)
  | refresh now reading =>
    simp only [step] at hissue
    cases hl : H.loaded with
    | none => exact h a issue (by simpa [hl] using hissue)
    | some s =>
      simp only [hl, refreshTopology] at hissue
      -- the check creates the issue, or it was there before
      rcases StaleTracking.get?_asyncCheckStale _ _ _ _ _ hissue with ⟨candidate, rfl⟩ | hbefore
      · rfl
      · rw [IssueRegistry.get?_asyncCheckTopology _ _ (staleDeviceId_ne_multihomed a)
          (staleDeviceId_ne_groupSpansId a)] at hbefore
        exact h a issue hbefore
  | devices registry => exact h a issue hissue
  | confirm flow =>
    simp only [step, IssueRegistry.delete, Dict.get?_erase] at hissue
    split at hissue
    · cases hissue
    · exact h a issue hissue
  | unload => exact h a issue hissue
  | restart => cases hissue

theorem allFixable_after (registry : DeviceRegistry) (run : List HomeEvent) :
    (after registry run).AllFixable :=
  Machine.final_invariant step allFixable_step (by rintro a issue ⟨⟩) run

/-! ## Issues left over -/

/-- Only an unload leaves issues over. -/
theorem leftOver_step (H : Home) {e : HomeEvent} (he : e ≠ .unload) :
    (H.step e).1.leftOver ⊆ H.leftOver := by
  obtain ⟨registry, issues, stored, loaded⟩ := H
  cases e with
  | unload => exact absurd rfl he
  | devices registry => exact subset_rfl
  | restart => rintro a ⟨ha, -⟩; cases ha
  | confirm flow =>
    refine orphans_subset ?_ fun a _ ha => ha
    intro a ha
    exact ((IssueRegistry.active_delete _ _ _).mp ha).2
  | discovered now info =>
    cases loaded with
    | none => exact subset_rfl
    | some s =>
      -- what is deleted is forgotten
      refine orphans_subset ?_ ?_
      · intro a ha
        exact ((s.tracking.active_asyncDeviceSeen now issues info.uuid a).mp ha).2
      · intro a ha hmem
        obtain ⟨hnot, -⟩ := (s.tracking.active_asyncDeviceSeen now issues info.uuid a).mp ha
        rw [memory_of_loaded _ rfl] at hmem
        exact ⟨_, rfl, (s.tracking.mem_stale_asyncDeviceSeen now issues info.uuid a).mpr
          ⟨hnot, hmem⟩⟩
  | removed uuid =>
    cases loaded with
    | none => exact subset_rfl
    | some s =>
      refine orphans_subset subset_rfl ?_
      rintro a - ⟨s', ⟨⟩, ha⟩
      exact ⟨_, rfl, ha⟩
  | setUp =>
    cases loaded with
    | some s => exact subset_rfl
    | none =>
      refine orphans_subset subset_rfl ?_
      rintro a - ⟨s', ⟨⟩, -⟩
  | refresh now reading =>
    cases loaded with
    | none => exact subset_rfl
    | some s =>
      unfold leftOver
      rw [memory_of_loaded _ rfl, memory_of_loaded _ rfl]
      simp only [step, refreshTopology]
      rw [StaleTracking.stale_asyncCheckStale, StaleTracking.keys_asyncCheckStale,
        IssueRegistry.stale_asyncCheckTopology]
      exact orphans_reconcile_subset

theorem leftOver_run (run : List HomeEvent) (hrun : .unload ∉ run) (H : Home) :
    (Machine.final step H run).leftOver ⊆ H.leftOver := by
  induction run generalizing H with
  | nil => exact subset_rfl
  | cons e run ih =>
    obtain ⟨he, hrest⟩ := not_or.mp (mt List.mem_cons.mpr hrun)
    exact (ih hrest _).trans (H.leftOver_step fun heq => he heq.symm)

/-- **Without an unload** no issue is left over. -/
theorem leftOver_eq_empty (registry : DeviceRegistry) {run : List HomeEvent}
    (hrun : .unload ∉ run) : (after registry run).leftOver = ∅ := by
  rw [Set.eq_empty_iff_forall_notMem]
  intro a ha
  obtain ⟨hactive, -⟩ := leftOver_run run hrun { registry := registry } ha
  cases hactive

/-! ## Stale devices are reported -/

/-- A fixable issue about the device is active. -/
def Reported (H : Home) (device : Device) : Prop :=
  ∃ issue, H.issues.get? (staleDeviceId device.id) = some issue ∧ issue.isFixable = true

theorem reported_iff_active (device : Device) :
    (after registry run).Reported device ↔
      (after registry run).issues.Active (staleDeviceId device.id) := by
  unfold Reported IssueRegistry.Active
  rw [Option.isSome_iff_exists]
  refine exists_congr fun issue => and_iff_left_of_imp fun hissue => ?_
  exact allFixable_after registry run device.id issue hissue

/-- Right after a refresh, a registered device with a cast identifier is reported if it is no
longer advertised and was not seen for long enough, and is not reported if it was seen more
recently. -/
def ReportsStale (registry : DeviceRegistry) (run : List HomeEvent) (now : DateTime)
    (reading : NetworkReading) : Prop :=
  ∀ s, (after registry run).loaded = some s →
    ∀ device ∈ (after registry run).registry.devices, device.uuidHex ≠ none →
      (¬ s.Advertises device →
        unseenSince (sightings registry run) s.tracking now device ≤ staleThreshold now →
        (after registry (run ++ [.refresh now reading])).Reported device) ∧
      (staleThreshold now < unseenSince (sightings registry run) s.tracking now device →
        ¬ (after registry (run ++ [.refresh now reading])).Reported device)

/-- A device that was discovered in this set-up and is no longer advertised was seen recently, or
has an issue left over; and no issue left over is about a device seen recently. -/
def GoneRecently (registry : DeviceRegistry) (run : List HomeEvent) (now : DateTime) : Prop :=
  ∀ s, (after registry run).loaded = some s →
    ∀ device ∈ (after registry run).registry.devices, device.uuidHex ≠ none →
      (s.Discovered device → ¬ s.Advertises device →
        unseenSince (sightings registry run) s.tracking now device ≤ staleThreshold now →
        device.id ∈ (after registry run).leftOver) ∧
      (staleThreshold now < unseenSince (sightings registry run) s.tracking now device →
        device.id ∉ (after registry run).leftOver)

/-- **Stale devices are reported** after a refresh, and no others, if and only if every device
that was discovered in this set-up and is gone was seen recently, where an issue left over by an
earlier set-up may stand in for a report. -/
theorem reports_stale_iff (registry : DeviceRegistry) (run : List HomeEvent) (now : DateTime)
    (reading : NetworkReading) :
    ReportsStale registry run now reading ↔ GoneRecently registry run now := by
  refine forall_congr' fun s => forall_congr' fun hs => forall_congr' fun device =>
    forall_congr' fun hmem => forall_congr' fun _ => ?_
  rw [reported_iff_active, active_after_refresh hs hmem]
  refine and_congr ?_ ?_
  · constructor
    · intro hreports hdiscovered hgone hold
      exact (hreports hgone hold).resolve_left fun h => h.1 hdiscovered
    · intro hleft hgone hold
      by_cases hdiscovered : s.Discovered device
      · exact .inr (hleft hdiscovered hgone hold)
      · exact .inl ⟨hdiscovered, hold⟩
  · refine forall_congr' fun hrecent => not_congr ?_
    exact or_iff_right fun h => Int.not_le.mpr hrecent h.2

/-- A speaker, as discovery reports it. -/
def speaker : DiscoveryRecord :=
  ⟨{ uuid := ⟨1⟩, castType := some "audio", friendlyName := some "Speaker"
     host := some "192.168.1.20", port := 8009 }, none⟩

/-- The speaker in the device registry. -/
def speakerDevice : Device where
  id := "d1"
  identifiers := [("cast", "00000000000000000000000000000001")]

/-- The speaker is discovered, and gone after a minute. -/
def goneSpeaker : List HomeEvent :=
  [.setUp, .discovered 0 speaker, .removed ⟨1⟩]

/-- What a refresh reads on a host with nothing configured. -/
def bareReading : NetworkReading := ⟨some [], none, none, none⟩

/-- Eight days later the speaker is not reported. -/
theorem not_reportsStale :
    ¬ ReportsStale { devices := [speakerDevice] } goneSpeaker (8 * DateTime.day) bareReading := by
  rw [reports_stale_iff]
  intro hgone
  have hleft : (after { devices := [speakerDevice] } goneSpeaker).leftOver = ∅ :=
    leftOver_eq_empty _ (by simp [goneSpeaker])
  obtain ⟨hgone, -⟩ := hgone _ rfl speakerDevice List.mem_cons_self (by decide)
  have hmem := hgone (by decide) (by decide) (by decide)
  rw [hleft] at hmem
  exact hmem

/-! ## Issues do not outlive their conditions -/

/-- Right after a refresh, every active issue names a registered device that is unseen for long
enough, or a group that is known and spans subnets, or the host is multihomed and the internal URL
automatic. -/
structure NoneOutlives (registry : DeviceRegistry) (run : List HomeEvent) (now : DateTime)
    (reading : NetworkReading) (s : SetUp) : Prop where
  devices : ∀ a, (after registry (run ++ [.refresh now reading])).issues.Active (staleDeviceId a) →
    ∃ device ∈ (after registry run).registry.devices, device.id = a ∧
      unseenSince (sightings registry run) s.tracking now device ≤ staleThreshold now
  groups : ∀ u, (after registry (run ++ [.refresh now reading])).issues.Active (groupSpansId u) →
    ∃ group, (s.tracker.asyncRefresh reading).groups.get? u = some group ∧
      group.membersSpanSubnets = some true
  multihomed :
    (after registry (run ++ [.refresh now reading])).issues.Active ISSUE_MULTIHOMED →
    (s.tracker.asyncRefresh reading).multihomed = some true ∧
      (s.tracker.asyncRefresh reading).internalUrlAutomatic = some true

/-- Every issue about a device that was left over names a registered device that is unseen for long
enough, and every active issue about a group names one that the tracker knows as a group. -/
structure LeftOverHolds (registry : DeviceRegistry) (run : List HomeEvent) (now : DateTime)
    (s : SetUp) : Prop where
  devices : ∀ a ∈ (after registry run).leftOver,
    ∃ device ∈ (after registry run).registry.devices, device.id = a ∧
      unseenSince (sightings registry run) s.tracking now device ≤ staleThreshold now
  groups : ∀ u, (after registry run).issues.Active (groupSpansId u) →
    ∃ info, s.tracker.infos.get? u = some info ∧ info.isAudioGroup = true

/-- **The issues about groups after a refresh**: those of the groups that span subnets, and those of
groups that the tracker does not know. -/
theorem groups_after_refresh (h : (after registry run).loaded = some s) (now : DateTime)
    (reading : NetworkReading) :
    (after registry (run ++ [.refresh now reading])).issues.groups
      = reconcile (after registry run).issues.groups
          { u | u ∈ (s.tracker.asyncRefresh reading).groups.keys }
          { u | ∃ group, (s.tracker.asyncRefresh reading).groups.get? u = some group ∧
            group.membersSpanSubnets = some true } := by
  rw [after_refresh h]
  simp only [refreshTopology]
  rw [StaleTracking.groups_asyncCheckStale, IssueRegistry.groups_asyncCheckTopology]

theorem multihomed_after_refresh (h : (after registry run).loaded = some s) (now : DateTime)
    (reading : NetworkReading) :
    (after registry (run ++ [.refresh now reading])).issues.Active ISSUE_MULTIHOMED ↔
      (s.tracker.asyncRefresh reading).multihomed = some true ∧
        (s.tracker.asyncRefresh reading).internalUrlAutomatic = some true := by
  rw [after_refresh h]
  simp only [refreshTopology]
  rw [StaleTracking.active_asyncCheckStale _ _ _ _ _
    fun a => (staleDeviceId_ne_multihomed a).symm]
  exact IssueRegistry.multihomed_asyncCheckTopology _ _

/-- **No issue outlives its condition** after a refresh if and only if the issues left over hold
and the issues about groups name groups. -/
theorem none_outlives_iff (registry : DeviceRegistry) (run : List HomeEvent) (now : DateTime)
    (reading : NetworkReading) :
    (∀ s, (after registry run).loaded = some s → NoneOutlives registry run now reading s) ↔
      ∀ s, (after registry run).loaded = some s → LeftOverHolds registry run now s := by
  refine forall_congr' fun s => forall_congr' fun hs => ?_
  have hdevices : (after registry (run ++ [.refresh now reading])).issues.stale
      = reconcile (after registry run).issues.stale (after registry run).memory
          (s.tracking.current now s.tracker.infos.keys (after registry run).registry) :=
    stale_after_refresh hs now reading
  have hgroups := groups_after_refresh hs now reading
  constructor
  · rintro ⟨hdevices', hgroups', -⟩
    refine ⟨fun a ha => ?_, fun u hu => ?_⟩
    · refine hdevices' a ?_
      exact (Set.ext_iff.mp hdevices a).mpr (mem_reconcile_iff.mpr (.inr ha))
    · -- a group that is not known keeps its issue, and does not span subnets
      by_contra hnot
      have hunknown : u ∉ (s.tracker.asyncRefresh reading).groups.keys := fun h =>
        hnot ((TopologyTracker.mem_groups_asyncRefresh _ _ u).mp h)
      obtain ⟨group, hgroup, -⟩ := hgroups' u
        ((Set.ext_iff.mp hgroups u).mpr (mem_reconcile_iff.mpr (.inr ⟨hu, hunknown⟩)))
      exact hunknown ((Dict.mem_keys _ u).mpr (by rw [hgroup]; rfl))
  · rintro ⟨hleft, hknown⟩
    refine ⟨fun a ha => ?_, fun u hu => ?_, (multihomed_after_refresh hs now reading).mp⟩
    · rcases mem_reconcile_iff.mp ((Set.ext_iff.mp hdevices a).mp ha) with hcurrent | ha
      · obtain ⟨device, hmem, hid, -, hold⟩ := hcurrent
        rw [reference_eq hs] at hold
        exact ⟨device, hmem, hid, hold⟩
      · exact hleft a ha
    · rcases mem_reconcile_iff.mp ((Set.ext_iff.mp hgroups u).mp hu) with hspans | ⟨hactive, hnot⟩
      · exact hspans
      · exact absurd ((TopologyTracker.mem_groups_asyncRefresh _ _ u).mpr (hknown u hactive)) hnot

/-- Two days after it was reported, the entry is unloaded and set up, and the speaker is back. -/
def speakerIsBack : List HomeEvent :=
  [.setUp, .refresh 0 bareReading, .refresh (8 * DateTime.day) bareReading, .unload, .setUp,
    .discovered (10 * DateTime.day) speaker]

/-- The issue about the speaker stays. -/
theorem not_noneOutlives :
    ¬ ∀ s, (after { devices := [speakerDevice] } speakerIsBack).loaded = some s →
      NoneOutlives { devices := [speakerDevice] } speakerIsBack (10 * DateTime.day) bareReading
        s := by
  rw [none_outlives_iff]
  intro hleft
  have hactive : (after { devices := [speakerDevice] } speakerIsBack).issues.Active
      (staleDeviceId "d1") := by decide
  have hforgotten : "d1" ∉ (after { devices := [speakerDevice] } speakerIsBack).memory := by
    rintro ⟨s, ⟨⟩, hmem⟩
    revert hmem
    decide
  obtain ⟨device, hmem, -, hold⟩ := (hleft _ rfl).devices "d1" ⟨hactive, hforgotten⟩
  obtain rfl := List.mem_singleton.mp hmem
  revert hold
  decide

end Home
end CastDelivery
