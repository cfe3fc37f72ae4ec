import CastDelivery.Hub.Basic

/-!
# Device isolation

Two runs of the hub that give a device the same inputs leave it in the same state and show the
same effects about it, whatever they do to other devices in between.

The proof instantiates `Machine.noninterference` with the view one device has of the hub:

* an input about another device keeps the view (`ignores_view`), by `actsOn_step` for the ledger
  and because the listeners write under the uuid of the record's device alone;
* an input about the device acts on the view alone (`respects_view`): `Alike` ledgers cannot be
  told apart by any operation on the device.
-/

namespace CastDelivery

namespace DeliveryLedger

/-- Two ledgers that a device cannot tell apart. -/
structure Alike (d : UUID) (L K : DeliveryLedger) : Prop where
  health : L.health d = K.health d
  timers : L.timersOf d = K.timersOf d
  listeners : L.listeners = K.listeners

/-- Two results of an operation that a device cannot tell apart. -/
def AlikeResults (d : UUID) (r s : DeliveryLedger × List Effect) : Prop :=
  Alike d r.1 s.1 ∧ r.2 = s.2

variable {d : UUID} {L K : DeliveryLedger}

theorem Alike.results (h : Alike d L K) : AlikeResults d (L, []) (K, []) := ⟨h, rfl⟩

theorem Alike.device (h : Alike d L K) (u : UUID) : Alike d (L.device u) (K.device u) :=
  ⟨by simpa using h.health, by simpa using h.timers, by simpa using h.listeners⟩

theorem Alike.store (h : Alike d L K) (g : DeviceHealth) : Alike d (L.store g) (K.store g) :=
  ⟨by rw [health_store, health_store, h.health], h.timers, h.listeners⟩

theorem timersOf_cancel (L : DeliveryLedger) (handle : UUID × ℕ) (d : UUID) :
    (L.cancel handle).timersOf d = (L.timersOf d).filter fun t => t.handle ≠ handle := by
  unfold timersOf cancel
  rw [List.filter_filter, List.filter_filter]
  exact List.filter_congr fun t _ => Bool.and_comm _ _

theorem Alike.cancel (h : Alike d L K) (handle : UUID × ℕ) :
    Alike d (L.cancel handle) (K.cancel handle) :=
  ⟨h.health, by rw [timersOf_cancel, timersOf_cancel, h.timers], h.listeners⟩

variable {env : Env}

theorem Alike.append (h : Alike d L K) (g : DeviceHealth) (dl : Delivery)
    (request : Option Request) :
    AlikeResults d (L.append env g dl request) (K.append env g dl request) := by
  refine ⟨⟨?_, ?_, ?_⟩, ?_⟩
  · rw [health_append, health_append, h.health]
  · rw [timersOf_append, timersOf_append, h.timers]
  · rw [listeners_append, listeners_append, h.listeners]
  · rw [effects_append, effects_append, h.listeners]

theorem Alike.resolve (h : Alike d L K) (g : DeviceHealth) (outcome : DeliveryOutcome)
    (error : Option String) (responded : Bool) (observed : Observed) (content : Option String) :
    AlikeResults d (L.resolve env g outcome error responded observed content)
      (K.resolve env g outcome error responded observed content) := by
  rw [resolve_eq, resolve_eq]
  refine Alike.append ?_ _ _ _
  cases g.handle with
  | none => exact h
  | some handle => exact h.cancel handle

theorem Alike.supersede (h : Alike d L K) (env : Env) :
    AlikeResults d (L.supersede env d) (K.supersede env d) := by
  unfold DeliveryLedger.supersede
  rw [h.health]
  cases (K.health d).pending with
  | none => exact h.results
  | some p => exact h.resolve _ _ _ _ _ _

theorem Alike.startRequest (h : Alike d L K) (env : Env) (contentId : String) (source : Source)
    (sessionAtRequest : Option Int) (timeout : ℕ) :
    AlikeResults d (L.startRequest env d contentId source sessionAtRequest timeout)
      (K.startRequest env d contentId source sessionAtRequest timeout) := by
  unfold DeliveryLedger.startRequest
  simp only [h.health]
  refine ⟨⟨?_, ?_, h.listeners⟩, rfl⟩
  · simp only [DeliveryLedger.health, DeviceTable.get_put]
    rw [if_pos (DeviceTable.uuid_get _ _).symm, if_pos (DeviceTable.uuid_get _ _).symm]
  · have htimers := h.timers
    unfold timersOf at htimers ⊢
    simp only [List.filter_append, htimers]

theorem Alike.beginRequest (h : Alike d L K) (contentId : String) (source : Source)
    (sessionAtRequest : Option Int) (timeout : ℕ) :
    AlikeResults d (L.asyncBeginRequest env d contentId source sessionAtRequest timeout)
      (K.asyncBeginRequest env d contentId source sessionAtRequest timeout) := by
  obtain ⟨hsup, heff⟩ := (h.device d).supersede env
  obtain ⟨hstart, heff'⟩ := hsup.startRequest env contentId source sessionAtRequest timeout
  refine ⟨hstart, ?_⟩
  unfold asyncBeginRequest
  simp only
  rw [heff, heff']

theorem Alike.expire {timer : Timer} (h : Alike timer.uuid L K) :
    AlikeResults timer.uuid (L.expire env timer) (K.expire env timer) := by
  unfold DeliveryLedger.expire
  simp only [health_cancel, h.health]
  cases (K.health timer.uuid).pending with
  | none => exact (h.cancel _).results
  | some p =>
    simp only
    split_ifs
    · exact (h.cancel _).results
    · exact (h.cancel _).resolve _ _ _ _ _ _

theorem Alike.mediaStatus (h : Alike d L K) (status : MediaStatus) :
    AlikeResults d (L.asyncMediaStatus env d status) (K.asyncMediaStatus env d status) := by
  have hdev := h.device d
  unfold asyncMediaStatus
  simp only [health_device, h.health]
  cases (K.health d).pending with
  | none =>
    simp only
    split_ifs
    · exact hdev.resolve _ _ _ _ _ _
    · exact hdev.results
  | some p =>
    simp only
    split_ifs
    · exact hdev.append _ _ _
    · exact hdev.resolve _ _ _ _ _ _
    · exact hdev.results
    · exact hdev.results
    · exact hdev.results
    · exact hdev.resolve _ _ _ _ _ _

theorem Alike.loadMediaFailed (h : Alike d L K) (queueItemId errorCode : Option Int) :
    AlikeResults d (L.asyncLoadMediaFailed env d queueItemId errorCode)
      (K.asyncLoadMediaFailed env d queueItemId errorCode) := by
  have hdev := h.device d
  unfold asyncLoadMediaFailed
  simp only [health_device, h.health]
  cases (K.health d).pending with
  | none => exact hdev.results
  | some p => exact hdev.resolve _ _ _ _ _ _

theorem Alike.requestFailed (h : Alike d L K) (err : Raised) (connected : Option Bool)
    (launchFailure : Option String) :
    AlikeResults d (L.asyncRequestFailed env d err connected launchFailure)
      (K.asyncRequestFailed env d err connected launchFailure) := by
  unfold asyncRequestFailed
  simp only [health_device, h.health]
  exact (h.device d).resolve _ _ _ _ _ _

theorem Alike.record (h : Alike d L K) (outcome : DeliveryOutcome) (source : Source)
    (contentId error : Option String) (responded : Bool) :
    AlikeResults d (L.asyncRecord env d outcome source contentId error responded)
      (K.asyncRecord env d outcome source contentId error responded) := by
  unfold asyncRecord
  simp only [health_device, h.health]
  split_ifs
  · exact (h.device d).resolve _ _ _ _ _ _
  · exact (h.device d).append _ _ _

theorem Alike.updateIdentity (h : Alike d L K) (entityId name host : Option String)
    (port : Option ℕ) (seen : Bool) :
    AlikeResults d (L.asyncUpdateIdentity env d entityId name host port seen, [])
      (K.asyncUpdateIdentity env d entityId name host port seen, []) := by
  unfold asyncUpdateIdentity
  rw [h.health]
  exact (h.store _).results

theorem Alike.restoreLastSuccess (h : Alike d L K) (stamp : Option DateTime) :
    AlikeResults d (L.restoreLastSuccess d stamp, []) (K.restoreLastSuccess d stamp, []) := by
  unfold DeliveryLedger.restoreLastSuccess
  simp only [health_device, h.health]
  cases (K.health d).lastSuccess with
  | some _ => exact (h.device d).results
  | none => exact ((h.device d).store _).results

/-- The handles that `async_shutdown` cancels are those of the pending requests. -/
theorem mem_handles (L : DeliveryLedger) (d : UUID) (n : ℕ) :
    (d, n) ∈ L.devices.dict.values.filterMap DeviceHealth.handle ↔
      (L.health d).handle = some (d, n) := by
  have hhandle : ∀ h : DeviceHealth, h.handle = some (d, n) → h.uuid = d := by
    intro h hh
    obtain ⟨p, -, hp⟩ := Option.map_eq_some_iff.mp hh
    exact congrArg Prod.fst hp
  rw [List.mem_filterMap]
  constructor
  · rintro ⟨h, hh, heq⟩
    obtain ⟨u, hu⟩ := (L.devices.dict.mem_values h).mp hh
    have hud : u = d := (L.devices.keyed u h hu).symm.trans (hhandle h heq)
    rw [hud] at hu
    rw [DeliveryLedger.health, DeviceTable.get, hu]
    exact heq
  · intro heq
    -- a device without a health object has no handle
    unfold DeliveryLedger.health DeviceTable.get at heq
    cases hd : L.devices.dict.get? d with
    | none =>
      rw [hd] at heq
      cases heq
    | some h =>
      rw [hd] at heq
      exact ⟨h, (L.devices.dict.mem_values h).mpr ⟨d, hd⟩, heq⟩

theorem Alike.shutdown (h : Alike d L K) :
    AlikeResults d (L.asyncShutdown, []) (K.asyncShutdown, []) := by
  have hhealth : ∀ M : DeliveryLedger, M.asyncShutdown.health d = (M.health d).clearTimeout :=
    fun M => DeviceTable.get_map (f := DeviceHealth.clearTimeout) M.devices (fun _ => rfl) rfl
  -- the shutdown cancels the handles of all devices; those of `d` are held by `d` itself
  have htimers : ∀ M : DeliveryLedger, M.asyncShutdown.timersOf d
      = (M.timersOf d).filter fun t => (M.health d).handle ≠ some t.handle := by
    intro M
    unfold asyncShutdown timersOf
    rw [List.filter_filter, List.filter_filter]
    refine List.filter_congr fun t _ => ?_
    by_cases ht : t.uuid = d
    · have hmem := M.mem_handles d t.serial
      rw [show (d, t.serial) = t.handle by rw [Timer.handle, ht]] at hmem
      simp [ht, hmem]
    · simp [ht]
  refine Alike.results ⟨?_, ?_, h.listeners⟩
  · rw [hhealth, hhealth, h.health]
  · rw [htimers, htimers, h.timers, h.health]

/-- An operation on the device, or on the whole ledger, acts alike on ledgers the device cannot
tell apart. -/
theorem Alike.step (h : Alike d L K) {c : Call} (hc : c.op.uuid? = some d ∨ c.op.uuid? = none) :
    AlikeResults d (L.step c) (K.step c) := by
  obtain ⟨env, op⟩ := c
  cases op <;>
    simp only [Op.uuid?, Option.some.injEq, reduceCtorEq, or_false, false_or] at hc <;>
    try subst hc
  case addListener =>
    exact Alike.results ⟨h.health, h.timers, by simp [asyncAddListener, h.listeners]⟩
  case removeListener =>
    exact Alike.results ⟨h.health, h.timers, by simp [DeliveryLedger.removeListener, h.listeners]⟩
  case device => exact (h.device _).results
  case updateIdentity => exact h.updateIdentity _ _ _ _ _
  case restoreLastSuccess => exact h.restoreLastSuccess _
  case beginRequest => exact h.beginRequest _ _ _ _
  case expire => exact h.expire
  case mediaStatus => exact h.mediaStatus _
  case loadMediaFailed => exact h.loadMediaFailed _ _
  case requestFailed => exact h.requestFailed _ _ _
  case record => exact h.record _ _ _ _ _
  case shutdown => exact h.shutdown

end DeliveryLedger

/-! ## The view of a device -/

/-- What a device can tell of a hub: its own health, timers, counters and issues, and what all
devices share. -/
structure DeviceView where
  health : DeviceHealth
  timers : List Timer
  listeners : List Listener
  options : ProbeOptions
  fetchFailures : Option ℕ
  unreachable : Option ℕ
  fetchFailedIssue : Option Issue
  unreachableIssue : Option Issue
deriving DecidableEq

namespace Hub

/-- The view that a device has of a hub. -/
def view (d : UUID) (H : Hub) : DeviceView where
  health := H.ledger.health d
  timers := H.ledger.timersOf d
  listeners := H.ledger.listeners
  options := H.options
  fetchFailures := H.repairs.consecutiveFetchFailures.get? d
  unreachable := H.repairs.consecutiveUnreachable.get? d
  fetchFailedIssue := H.issues.get? (fetchFailedId d)
  unreachableIssue := H.issues.get? (unreachableId d)

variable {env : Env} {d : UUID} {H K : Hub}

theorem alike_of_view (h : H.view d = K.view d) : H.ledger.Alike d K.ledger :=
  ⟨congrArg DeviceView.health h, congrArg DeviceView.timers h,
    congrArg DeviceView.listeners h⟩

/-- Replacing the ledgers by ledgers the device cannot tell apart. -/
theorem view_ledger (h : H.view d = K.view d) {L M : DeliveryLedger} (hLM : L.Alike d M) :
    ({ H with ledger := L } : Hub).view d = ({ K with ledger := M } : Hub).view d := by
  simp only [view, DeviceView.mk.injEq] at h ⊢
  exact ⟨hLM.health, hLM.timers, hLM.listeners, h.2.2.2⟩

/-- A record of another device leaves the counters and issues of a device alone. -/
theorem asyncOnRecord_other (m : RepairManager) (issues : IssueRegistry) {health : DeviceHealth}
    (record : DeliveryRecord) (hd : d ≠ health.uuid) :
    let after := m.asyncOnRecord issues health record
    after.1.consecutiveFetchFailures.get? d = m.consecutiveFetchFailures.get? d ∧
      after.1.consecutiveUnreachable.get? d = m.consecutiveUnreachable.get? d ∧
      after.2.get? (fetchFailedId d) = issues.get? (fetchFailedId d) ∧
      after.2.get? (unreachableId d) = issues.get? (unreachableId d) := by
  -- no two devices share an issue id, and neither do the two kinds of issue
  have hff : fetchFailedId d ≠ fetchFailedId health.uuid := fun h => hd (fetchFailedId_inj h)
  have huu : unreachableId d ≠ unreachableId health.uuid := fun h => hd (unreachableId_inj h)
  have hfu : fetchFailedId d ≠ unreachableId health.uuid := fetchFailedId_ne_unreachableId _ _
  have huf : unreachableId d ≠ fetchFailedId health.uuid :=
    (fetchFailedId_ne_unreachableId _ _).symm
  unfold RepairManager.asyncOnRecord
  cases record.outcome <;>
    simp only [Dict.get?_set, hd, if_false, IssueRegistry.create, IssueRegistry.delete,
      Dict.get?_erase, hff, huu, hfu, huf, and_self, true_and]
  case fetchFailed => split <;> simp [Dict.get?_set, hff, huf]
  case unreachable => split <;> simp [Dict.get?_set, hfu, huu]

/-- What a record does to the counters and issues of its own device depends on them alone. -/
theorem asyncOnRecord_own {m m' : RepairManager} {issues issues' : IssueRegistry}
    (health : DeviceHealth) (record : DeliveryRecord)
    (hf : m.consecutiveFetchFailures.get? health.uuid
      = m'.consecutiveFetchFailures.get? health.uuid)
    (hu : m.consecutiveUnreachable.get? health.uuid = m'.consecutiveUnreachable.get? health.uuid)
    (hif : issues.get? (fetchFailedId health.uuid) = issues'.get? (fetchFailedId health.uuid))
    (hiu : issues.get? (unreachableId health.uuid) = issues'.get? (unreachableId health.uuid)) :
    let after := m.asyncOnRecord issues health record
    let after' := m'.asyncOnRecord issues' health record
    after.1.consecutiveFetchFailures.get? health.uuid
        = after'.1.consecutiveFetchFailures.get? health.uuid ∧
      after.1.consecutiveUnreachable.get? health.uuid
        = after'.1.consecutiveUnreachable.get? health.uuid ∧
      after.2.get? (fetchFailedId health.uuid) = after'.2.get? (fetchFailedId health.uuid) ∧
      after.2.get? (unreachableId health.uuid) = after'.2.get? (unreachableId health.uuid) := by
  have hfc : m.fetchFailures health.uuid = m'.fetchFailures health.uuid := by
    rw [RepairManager.fetchFailures, hf, RepairManager.fetchFailures]
  have huc : m.unreachable health.uuid = m'.unreachable health.uuid := by
    rw [RepairManager.unreachable, hu, RepairManager.unreachable]
  -- only these two outcomes compare a counter with its threshold
  unfold RepairManager.asyncOnRecord
  cases record.outcome <;>
    simp only [Dict.get?_set, if_true, IssueRegistry.create, IssueRegistry.delete,
      Dict.get?_erase, hf, hu, hif, hiu, hfc, huc, and_self, true_and]
  case fetchFailed => split <;> simp [Dict.get?_set, hif, hiu]
  case unreachable => split <;> simp [Dict.get?_set, hif, hiu]

/-- A listener called for another device keeps the view. -/
theorem view_runListener_other {e : Effect} (he : e.uuid ≠ d) :
    (H.runListener env e).view d = H.view d := by
  unfold runListener
  split
  · next health record =>
    have hd : d ≠ health.uuid := fun h => he h.symm
    split
    · simp only [view, health_assignCircuit, if_neg hd]
      rfl
    · rfl
  · next health record =>
    obtain ⟨hf, hu, hif, hiu⟩ :=
      asyncOnRecord_other H.repairs H.issues record (fun h => he h.symm : d ≠ health.uuid)
    simp only [view, hf, hu, hif, hiu]
  · rfl

/-- A listener called for the device acts on the view alone. -/
theorem view_runListener_own {e : Effect} (he : e.uuid = d) (h : H.view d = K.view d) :
    (H.runListener env e).view d = (K.runListener env e).view d := by
  have halike := alike_of_view h
  have hoptions : H.options = K.options := congrArg DeviceView.options h
  unfold runListener
  split
  · -- the circuit breaker reads the options and writes the circuit of the device
    next health record =>
    have hd : health.uuid = d := he
    rw [show H.options.asyncOnRecord env health record
      = K.options.asyncOnRecord env health record by rw [hoptions]]
    cases K.options.asyncOnRecord env health record with
    | none => exact h
    | some value =>
      simp only [hd]
      refine view_ledger h ?_
      unfold assignCircuit
      rw [halike.health]
      exact halike.store _
  · next health record =>
    have hd : health.uuid = d := he
    subst hd
    simp only [view, DeviceView.mk.injEq] at h ⊢
    obtain ⟨hh, ht, hl, ho, hf, hu, hif, hiu⟩ := h
    exact ⟨hh, ht, hl, ho, asyncOnRecord_own health record hf hu hif hiu⟩
  · exact h

theorem view_runListeners_other {es : List Effect} (he : ∀ e ∈ es, e.uuid ≠ d) :
    ∀ H : Hub, (H.runListeners env es).view d = H.view d := by
  induction es with
  | nil => exact fun H => rfl
  | cons e es ih =>
    intro H
    exact (ih (fun e' he' => he e' (List.mem_cons_of_mem _ he')) _).trans
      (view_runListener_other (he e List.mem_cons_self))

theorem view_runListeners_own {es : List Effect} (he : ∀ e ∈ es, e.uuid = d) :
    ∀ {H K : Hub}, H.view d = K.view d →
      (H.runListeners env es).view d = (K.runListeners env es).view d := by
  induction es with
  | nil => exact fun h => h
  | cons e es ih =>
    intro H K h
    exact ih (fun e' he' => he e' (List.mem_cons_of_mem _ he'))
      (view_runListener_own (he e List.mem_cons_self) h)

/-! ## The theorem -/

/-- The inputs that concern a device: those about it, and those about the whole hub. -/
def concerns (d : UUID) (i : HubInput) : Bool := i.uuid? = some d ∨ i.uuid? = none

/-- The effects of a call are about the device of the call. -/
theorem about_step (L : DeliveryLedger) {c : Call} {d : UUID}
    (hc : c.op.uuid? = some d ∨ c.op.uuid? = none) : ∀ e ∈ (L.step c).2, e.uuid = d := by
  rcases hc with hc | hc
  · exact (DeliveryLedger.actsOn_step (L := L) hc).about
  · rw [(DeliveryLedger.step_global (L := L) hc d).1]
    simp

/-- An input that concerns the device acts on its view alone. -/
theorem respects_view (d : UUID) :
    Machine.Respects step (view d) (concerns d) (Effect.about d) := by
  intro H K i hi h
  rw [concerns, decide_eq_true_eq] at hi
  cases i with
  | applyOptions options =>
    refine ⟨?_, rfl⟩
    simp only [step, view, DeviceView.mk.injEq, true_and] at h ⊢
    exact ⟨h.1, h.2.1, h.2.2.1, h.2.2.2.2⟩
  | call c =>
    obtain ⟨halike, heff⟩ := (alike_of_view h).step hi
    have habout := about_step K.ledger hi
    simp only [step, call]
    rw [heff]
    exact ⟨view_runListeners_own habout (view_ledger h halike), rfl⟩

/-- An input about another device keeps the view and shows nothing of the device. -/
theorem ignores_view (d : UUID) :
    Machine.Ignores step (view d) (concerns d) (Effect.about d) := by
  intro H i hi
  rw [concerns, decide_eq_false_iff_not, not_or] at hi
  cases i with
  | applyOptions options => exact absurd rfl hi.2
  | call c =>
    obtain ⟨u, hu⟩ := Option.ne_none_iff_exists'.mp hi.2
    have hud : d ≠ u := fun h => hi.1 (by rw [hu, h])
    have hacts := DeliveryLedger.actsOn_step (L := H.ledger) hu
    have hother : ∀ e ∈ (H.ledger.step c).2, e.uuid ≠ d := by
      intro e he
      rw [hacts.about e he]
      exact hud.symm
    refine ⟨?_, ?_⟩
    · obtain ⟨hh, ht⟩ := hacts.others d hud
      exact (view_runListeners_other hother _).trans
        (view_ledger rfl ⟨hh, ht, hacts.listeners⟩)
    · rw [List.filter_eq_nil_iff]
      intro e he
      simpa [Effect.about] using hother e he

end Hub

/-- **Device isolation.** Two runs from one hub that contain the same inputs that concern a
device end with the same health object, timers, counters and issues of the device, and have the
same effects about it, whatever other devices do in between. -/
theorem device_isolation (d : UUID) (H : Hub) (is js : List HubInput)
    (same : is.filter (Hub.concerns d) = js.filter (Hub.concerns d)) :
    (Machine.final Hub.step H is).view d = (Machine.final Hub.step H js).view d ∧
      history d (Machine.emitted Hub.step H is) = history d (Machine.emitted Hub.step H js) :=
  Machine.noninterference (Hub.respects_view d) (Hub.ignores_view d) same rfl

/-- An `ERROR` status of device 2 that no request of this integration asked for. -/
def rogueStatus (s : Int) : HubInput :=
  .call ⟨.bare s,
    .mediaStatus ⟨2⟩ ⟨⟨"http://ha/tts.mp3", "IDLE", some IDLE_REASON_ERROR, none⟩, true⟩⟩

/-- A play on device 1 that its timer ends. -/
def silentPlay : List HubInput :=
  [.call ⟨.bare 0, .beginRequest ⟨1⟩ "http://ha/tts.mp3" .announce none DELIVERY_TIMEOUT⟩,
    .call ⟨.bare 30, .expire ⟨⟨1⟩, 0, DELIVERY_TIMEOUT⟩⟩]

/-- A hub with the listeners of a set-up. -/
def listening : Hub where
  ledger := { listeners := [.repairManager, .circuitBreaker] }

theorem device_isolation_rogue :
    (Machine.final Hub.step listening (rogueStatus (-2) :: rogueStatus (-1) :: silentPlay)).view ⟨1⟩
      = (Machine.final Hub.step listening silentPlay).view ⟨1⟩ ∧
    history ⟨1⟩
        (Machine.emitted Hub.step listening (rogueStatus (-2) :: rogueStatus (-1) :: silentPlay))
      = history ⟨1⟩ (Machine.emitted Hub.step listening silentPlay) :=
  device_isolation ⟨1⟩ listening (rogueStatus (-2) :: rogueStatus (-1) :: silentPlay) silentPlay rfl

end CastDelivery
