import CastDelivery.Issues.Basic
import CastDelivery.Lib.Reconcile

/-!
# What the checks leave in the issue registry

Each check reconciles one kind of issue: `groups_asyncCheckTopology` and `stale_asyncCheckStale`
say so of the sets of active issues, `multihomed_asyncCheckTopology` of the one issue without a
device. `Stale` says in closed form which devices the loop of `async_check_stale` finds.
-/

namespace CastDelivery

open Reconcile

/-! ## Topology -/

namespace IssueRegistry

variable (issues : IssueRegistry) (T : TopologyTracker)

/-- The groups with an active issue. -/
def groups : Set UUID := { u | issues.Active (groupSpansId u) }

/-- The devices with an active issue. -/
def stale : Set String := { a | issues.Active (staleDeviceId a) }

/-- A group's turn touches its own issue only. -/
theorem get?_checkGroup (entry : UUID × GroupTopology) {id : String}
    (h : id ≠ groupSpansId entry.1) : (issues.checkGroup entry).get? id = issues.get? id := by
  unfold checkGroup
  split
  · exact (Dict.get?_set _ _ _ _).trans (if_neg h)
  · exact (Dict.get?_erase _ _ _).trans (if_neg h)

theorem active_checkGroup (entry : UUID × GroupTopology) :
    (issues.checkGroup entry).Active (groupSpansId entry.1) ↔
      entry.2.membersSpanSubnets = some true := by
  unfold checkGroup
  split
  · next h => simp [active_create, h]
  · next h => simp [active_delete, h]

theorem get?_checkGroups (entries : List (UUID × GroupTopology)) {id : String}
    (h : ∀ entry ∈ entries, id ≠ groupSpansId entry.1) :
    (entries.foldl checkGroup issues).get? id = issues.get? id := by
  induction entries generalizing issues with
  | nil => rfl
  | cons entry entries ih =>
    rw [List.foldl_cons, ih _ fun e he => h e (List.mem_cons_of_mem _ he),
      get?_checkGroup issues entry (h entry List.mem_cons_self)]

theorem active_checkGroups {entries : List (UUID × GroupTopology)}
    (hnodup : (entries.map Prod.fst).Nodup) (u : UUID) :
    (entries.foldl checkGroup issues).Active (groupSpansId u) ↔
      (∃ group, (u, group) ∈ entries ∧ group.membersSpanSubnets = some true) ∨
        issues.Active (groupSpansId u) ∧ u ∉ entries.map Prod.fst := by
  induction entries generalizing issues with
  | nil => simp
  | cons entry entries ih =>
    obtain ⟨hnot, hrest⟩ := List.nodup_cons.mp hnodup
    by_cases hu : u = entry.1
    · -- the turn of the group; the later ones leave its issue alone
      subst hu
      have hlater : ∀ e ∈ entries, groupSpansId entry.1 ≠ groupSpansId e.1 := by
        intro e he heq
        exact hnot (groupSpansId_inj heq ▸ List.mem_map_of_mem he)
      have hown := issues.active_checkGroup entry
      unfold Active at hown ⊢
      rw [List.foldl_cons, get?_checkGroups _ entries hlater, hown]
      constructor
      · exact fun h => .inl ⟨entry.2, List.mem_cons_self, h⟩
      · rintro (⟨group, hmem, h⟩ | ⟨-, h⟩)
        · rcases List.mem_cons.mp hmem with heq | hmem
          · rw [← heq]
            exact h
          · exact absurd (List.mem_map_of_mem (f := Prod.fst) hmem) hnot
        · exact absurd List.mem_cons_self h
    · have hkeep : (issues.checkGroup entry).Active (groupSpansId u) ↔
          issues.Active (groupSpansId u) := by
        unfold Active
        rw [get?_checkGroup issues entry fun heq => hu (groupSpansId_inj heq)]
      rw [List.foldl_cons, ih _ hrest, hkeep]
      have hne : ∀ group, (u, group) ≠ entry := by
        rintro group rfl
        exact hu rfl
      simp [hu, hne]

/-- What the registry holds under other ids survives the check. -/
theorem get?_asyncCheckTopology {id : String} (hmultihomed : id ≠ ISSUE_MULTIHOMED)
    (hgroup : ∀ u, id ≠ groupSpansId u) :
    (issues.asyncCheckTopology T).get? id = issues.get? id := by
  unfold asyncCheckTopology
  rw [get?_checkGroups _ _ fun entry _ => hgroup entry.1]
  split
  · exact (Dict.get?_set _ _ _ _).trans (if_neg hmultihomed)
  · exact (Dict.get?_erase _ _ _).trans (if_neg hmultihomed)

/-- **After the check** the issue about several networks is active if and only if its condition
holds. -/
theorem multihomed_asyncCheckTopology :
    (issues.asyncCheckTopology T).Active ISSUE_MULTIHOMED ↔
      T.multihomed = some true ∧ T.internalUrlAutomatic = some true := by
  unfold asyncCheckTopology Active
  rw [get?_checkGroups _ _ fun entry _ => (groupSpansId_ne_multihomed entry.1).symm]
  split
  · next h => simp [create, h]
  · next h => simp [delete, Dict.get?_erase, h]

/-- **The check reconciles the issues about groups**: the tracker remembers every group that it
knows now. -/
theorem groups_asyncCheckTopology :
    (issues.asyncCheckTopology T).groups
      = reconcile issues.groups { u | u ∈ T.groups.keys }
          { u | ∃ group, T.groups.get? u = some group ∧ group.membersSpanSubnets = some true } := by
  ext u
  have hstart : (if T.multihomed = some true ∧ T.internalUrlAutomatic = some true then
        issues.create ISSUE_MULTIHOMED (multihomedIssue T)
      else issues.delete ISSUE_MULTIHOMED).Active (groupSpansId u) ↔
        issues.Active (groupSpansId u) := by
    have hne := groupSpansId_ne_multihomed u
    split
    · simp [active_create, hne]
    · simp [active_delete, hne]
  rw [mem_reconcile_iff]
  simp only [groups, orphans, Set.mem_ofPred_eq, Set.mem_sdiff, asyncCheckTopology]
  rw [active_checkGroups _ T.groups.nodup, hstart]
  simp only [Dict.get?_eq_some_iff]
  rfl

/-- The check leaves the issues about devices alone. -/
theorem stale_asyncCheckTopology : (issues.asyncCheckTopology T).stale = issues.stale := by
  ext a
  show (issues.asyncCheckTopology T).Active _ ↔ issues.Active _
  unfold Active
  rw [get?_asyncCheckTopology issues T (staleDeviceId_ne_multihomed a)
    (staleDeviceId_ne_groupSpansId a)]

end IssueRegistry

/-! ## Stale devices -/

namespace StaleTracking

variable (M : StaleTracking) (now : DateTime) (discovered : List UUID)

/-- The devices for which the loop of `async_check_stale` makes a candidate: not discovered, and
not seen, or if never seen not tracked, for less than the days that count. -/
def Stale (device : Device) : Prop :=
  (∀ u ∈ discovered, device.uuid? ≠ some u) ∧
    M.reference ((M.trackedSince.get? device.key).getD now) device ≤ staleThreshold now

theorem uuidStr_mem_iff (device : Device) :
    device.uuidStr ∈ discovered.map (fun uuid => some uuid.str) ↔
      ∃ u ∈ discovered, device.uuid? = some u := by
  unfold Device.uuidStr
  rw [List.mem_map]
  refine exists_congr fun u => and_congr_right fun _ => ?_
  cases device.uuid? with
  | none => simp
  | some v =>
    simp only [Option.map_some, Option.some.injEq]
    exact ⟨fun h => (UUID.str_inj h).symm, fun h => congrArg UUID.str h.symm⟩

theorem mem_map_staleDeviceId {α : Type} (f : α → String) (as : List α) (a : String) :
    (staleDeviceId a ∈ as.map fun x => staleDeviceId (f x)) ↔ a ∈ as.map f := by
  rw [List.mem_map, List.mem_map]
  exact exists_congr fun x => and_congr_right fun _ =>
    ⟨staleDeviceId_inj, fun h => congrArg staleDeviceId h⟩

/-- What the loop has added to `tracked_since` so far is the time of the check. -/
def Tracks (tracked : Dict String DateTime) : Prop :=
  ∀ k, (tracked.get? k).getD now = (M.trackedSince.get? k).getD now

variable {M now discovered} in
/-- **The turn of one device**: it makes a candidate of a stale device, and tracks it. -/
theorem checkDevice_spec {tracked : Dict String DateTime} (h : M.Tracks now tracked)
    (device : Device) :
    M.Tracks now (M.checkDevice now discovered tracked device).1 ∧
      ((M.checkDevice now discovered tracked device).2.map StaleCandidate.deviceId =
          some device.id ↔ M.Stale now discovered device) ∧
      ∀ candidate, (M.checkDevice now discovered tracked device).2 = some candidate →
        candidate.deviceId = device.id := by
  have hset : M.Tracks now (tracked.set device.key ((tracked.get? device.key).getD now)) := by
    intro k
    rw [Dict.get?_set]
    split
    · next hk =>
      rw [hk]
      exact h device.key
    · exact h k
  unfold checkDevice
  split
  · next hseen =>
    obtain ⟨u, hu, hdevice⟩ := (uuidStr_mem_iff discovered device).mp hseen
    refine ⟨h, iff_of_false (by simp) fun hstale => hstale.1 u hu hdevice, by simp⟩
  · next hunseen =>
    have hnone : ∀ u ∈ discovered, device.uuid? ≠ some u := fun u hu hdevice =>
      hunseen ((uuidStr_mem_iff discovered device).mpr ⟨u, hu, hdevice⟩)
    -- `last_seen` of a device that is not tracked yet is now
    simp only [h device.key] at hset ⊢
    split
    · next hrecent =>
      exact ⟨hset, iff_of_false (by simp) fun hstale => Int.not_le.mpr hrecent hstale.2, by simp⟩
    · next hold =>
      refine ⟨hset, iff_of_true (by simp) ⟨hnone, Int.not_lt.mp hold⟩, ?_⟩
      rintro candidate ⟨⟩
      rfl

variable {M now discovered} in
theorem mem_checkDevices {devices : List Device} {tracked : Dict String DateTime}
    (h : M.Tracks now tracked) (a : String) :
    a ∈ (M.checkDevices now discovered devices tracked).2.map StaleCandidate.deviceId ↔
      ∃ device ∈ devices, device.id = a ∧ M.Stale now discovered device := by
  induction devices generalizing tracked with
  | nil => simp [checkDevices]
  | cons device devices ih =>
    obtain ⟨htracks, hcandidate, hid⟩ := @checkDevice_spec M now discovered tracked h device
    have hown : a ∈ (M.checkDevice now discovered tracked device).2.toList.map
        StaleCandidate.deviceId ↔ device.id = a ∧ M.Stale now discovered device := by
      rw [← hcandidate]
      cases hr : (M.checkDevice now discovered tracked device).2 with
      | none => simp
      | some candidate => simp [hid candidate hr, eq_comm]
    simp only [checkDevices, List.map_append, List.mem_append, ih htracks, hown,
      List.exists_mem_cons_iff]

/-- The devices for which an issue is active after the check because they are stale. -/
def current (registry : DeviceRegistry) : Set String :=
  { a | ∃ device ∈ registry.devices, device.id = a ∧ M.Stale now discovered device }

variable (issues : IssueRegistry) (registry : DeviceRegistry)

/-- The manager remembers the candidates of the last check. -/
theorem keys_asyncCheckStale :
    { a | a ∈ (M.asyncCheckStale issues registry now discovered).1.stale.keys }
      = M.current now discovered registry := by
  ext a
  simp only [asyncCheckStale, Set.mem_ofPred_eq, Dict.mem_keys_foldl_set, current]
  rw [mem_checkDevices fun _ => rfl]
  simp [Dict.mem_keys]

@[simp] theorem lastSeen_asyncCheckStale :
    (M.asyncCheckStale issues registry now discovered).1.lastSeen = M.lastSeen := rfl

/-- What the registry holds after the check under some id: an issue about a candidate, or what it
held before. -/
theorem get?_asyncCheckStale {id : String} {issue : Issue}
    (h : (M.asyncCheckStale issues registry now discovered).2.get? id = some issue) :
    (∃ candidate, issue = staleDeviceIssue candidate) ∨ issues.get? id = some issue := by
  simp only [asyncCheckStale, IssueRegistry.create, IssueRegistry.delete] at h
  rcases Dict.get?_foldl_set _ _ _ _ _ _ h with ⟨entry, -, -, rfl⟩ | ⟨-, hbefore⟩
  · exact .inl ⟨entry.2, rfl⟩
  · rw [Dict.get?_foldl_erase] at hbefore
    split at hbefore
    · cases hbefore
    · exact .inr hbefore

/-- **The check reconciles the issues about devices** with the memory of the manager. -/
theorem stale_asyncCheckStale :
    (M.asyncCheckStale issues registry now discovered).2.stale
      = reconcile issues.stale { a | a ∈ M.stale.keys } (M.current now discovered registry) := by
  have hkeys := M.keys_asyncCheckStale now discovered issues registry
  ext a
  have hcurrent : a ∈ (M.asyncCheckStale issues registry now discovered).1.stale.keys ↔
      a ∈ M.current now discovered registry := Set.ext_iff.mp hkeys a
  rw [mem_reconcile_iff, ← hcurrent]
  show IssueRegistry.Active _ _ ↔ _
  unfold asyncCheckStale IssueRegistry.Active IssueRegistry.create IssueRegistry.delete
  simp only
  -- the new candidates, whatever they are: the issues follow them
  generalize List.foldl _ (∅ : Dict String StaleCandidate) _ = cur
  have herased : (staleDeviceId a ∈ (M.stale.keys.filter fun b => b ∉ cur.keys).map staleDeviceId) ↔
      a ∈ M.stale.keys ∧ a ∉ cur.keys := by
    rw [List.mem_map_of_injective fun _ _ => staleDeviceId_inj]
    simp
  rw [← Dict.mem_keys, Dict.mem_keys_foldl_set, mem_map_staleDeviceId, Dict.mem_keys_foldl_erase,
    herased]
  show a ∈ cur.keys ∨ _ ∧ staleDeviceId a ∈ issues.keys ↔
    a ∈ cur.keys ∨ (issues.get? (staleDeviceId a)).isSome = true ∧ a ∉ M.stale.keys
  rw [Dict.mem_keys issues]
  by_cases hcur : a ∈ cur.keys
  · simp [hcur]
  · simp only [hcur, not_false_eq_true, and_true, false_or]
    exact and_comm

/-- The check leaves other issues alone. -/
theorem get?_asyncCheckStale_of_ne {id : String} (h : ∀ a, id ≠ staleDeviceId a) :
    (M.asyncCheckStale issues registry now discovered).2.get? id = issues.get? id := by
  dsimp only [asyncCheckStale, IssueRegistry.create, IssueRegistry.delete]
  rw [Dict.get?_foldl_set_of_notMem, Dict.get?_foldl_erase, if_neg]
  · intro hmem
    obtain ⟨deviceId, -, hid⟩ := List.mem_map.mp hmem
    exact h deviceId hid.symm
  · intro hmem
    obtain ⟨entry, -, hid⟩ := List.mem_map.mp hmem
    exact h entry.1 hid.symm

theorem active_asyncCheckStale {id : String} (h : ∀ a, id ≠ staleDeviceId a) :
    (M.asyncCheckStale issues registry now discovered).2.Active id ↔ issues.Active id := by
  unfold IssueRegistry.Active
  rw [get?_asyncCheckStale_of_ne M now discovered issues registry h]

theorem groups_asyncCheckStale :
    (M.asyncCheckStale issues registry now discovered).2.groups = issues.groups := by
  ext u
  exact active_asyncCheckStale M now discovered issues registry
    fun a => (staleDeviceId_ne_groupSpansId a u).symm

/-- A device that is seen loses its issue, and the manager forgets it. -/
theorem active_asyncDeviceSeen (uuid : UUID) (a : String) :
    (M.asyncDeviceSeen issues now uuid).2.Active (staleDeviceId a) ↔
      (∀ candidate, M.stale.get? a = some candidate → candidate.uuid ≠ some uuid.str) ∧
        issues.Active (staleDeviceId a) := by
  simp only [asyncDeviceSeen, IssueRegistry.Active, IssueRegistry.delete, ← Dict.mem_keys,
    Dict.mem_keys_foldl_erase, mem_map_staleDeviceId]
  refine and_congr_left fun _ => ?_
  simp [Dict.get?_eq_some_iff]

theorem mem_stale_asyncDeviceSeen (uuid : UUID) (a : String) :
    a ∈ (M.asyncDeviceSeen issues now uuid).1.stale.keys ↔
      (∀ candidate, M.stale.get? a = some candidate → candidate.uuid ≠ some uuid.str) ∧
        a ∈ M.stale.keys := by
  simp only [asyncDeviceSeen, Dict.mem_keys_foldl_erase]
  refine and_congr_left fun _ => ?_
  simp [Dict.get?_eq_some_iff]

end StaleTracking
end CastDelivery
