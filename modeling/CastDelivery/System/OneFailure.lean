import CastDelivery.System.Charging

/-!
# What one failed delivery counts

Evidence about one request reaches the ledger on four channels: its delivery timer, the
exception of its own `quick_play`, a `LOAD_FAILED` callback, and `ERROR` statuses that carry its
content id. Once the request is resolved, the timer and `async_load_media_failed` return when
nothing is pending, but `async_request_failed` and the `ERROR` branch of `async_media_status`
append one more failure record.

`one_failure_iff`: a request counts at most one failure, on every counter, if and only if at
most one piece of evidence takes effect, that is, finds the request pending, or is an exception
or an `ERROR` status and finds nothing pending.
-/

namespace CastDelivery

/-! ## Failures in the ledger -/

/-- The evidence about a request, as ledger calls. -/
inductive EvidenceOp (t : Ticket) : Op → Prop
  | timer (timeout : ℕ) : EvidenceOp t (.expire ⟨t.uuid, t.request.serial, timeout⟩)
  | raised (err : Raised) (connected : Option Bool) (launchFailure : Option String) :
      EvidenceOp t (.requestFailed t.uuid err connected launchFailure)
  | loadFailed (queueItemId errorCode : Option Int) :
      EvidenceOp t (.loadMediaFailed t.uuid queueItemId errorCode)
  | errorStatus (status : MediaStatus) (error : status.isError = true)
      (content : status.contentId = some t.request.contentId) :
      EvidenceOp t (.mediaStatus t.uuid status)

/-- The calls that append a failure record also when nothing is pending. -/
def Op.unguarded : Op → Bool
  | .requestFailed _ _ _ _ | .mediaStatus _ _ => true
  | _ => false

namespace DeliveryLedger

variable {env : Env} {L : DeliveryLedger} {u : UUID}

/-- The operation with result `r` appends one failure record for a device and counts it. -/
structure FailsOnce (u : UUID) (L : DeliveryLedger) (r : DeliveryLedger × List Effect)
    (record : DeliveryRecord) (request : Option Request) : Prop where
  effects : r.2 = recorded L.listeners (r.1.health u) record request
  uuid : record.uuid = u
  failure : record.outcome ∈ FAILURE_OUTCOMES
  failures : (r.1.health u).consecutiveFailures = (L.health u).consecutiveFailures + 1
  timeouts : (r.1.health u).consecutiveTimeouts ≤ (L.health u).consecutiveTimeouts + 1

theorem consecutiveFailures_account (h : DeviceHealth) {r : DeliveryRecord}
    (hr : r.outcome ∈ FAILURE_OUTCOMES) :
    (h.account r).consecutiveFailures = h.consecutiveFailures + 1 := by
  cases ho : r.outcome <;> simp only [ho] at hr <;>
    first
      | exact absurd hr (by decide)
      | simp [DeviceHealth.account, DeviceHealth.setLast, DeviceHealth.count, FAILURE_OUTCOMES, ho]

theorem consecutiveTimeouts_account (h : DeviceHealth) (r : DeliveryRecord) :
    (h.account r).consecutiveTimeouts ≤ h.consecutiveTimeouts + 1 := by
  cases ho : r.outcome <;>
    simp [DeviceHealth.account, DeviceHealth.setLast, DeviceHealth.count, FAILURE_OUTCOMES, ho]

theorem resolution_outcome (pending : Option PendingRequest) (outcome : DeliveryOutcome)
    (error : Option String) (responded : Bool) (observed : Observed) (content : Option String) :
    (resolution env pending outcome error responded observed content).outcome = outcome := by
  cases pending <;> rfl

/-- Resolving as a failure, in a ledger that agrees with the stored one. -/
theorem failsOnce_resolve {K : DeliveryLedger} (hK : Agrees u L K) {h : DeviceHealth}
    (same : (L.health u).Same h) {outcome : DeliveryOutcome} (ho : outcome ∈ FAILURE_OUTCOMES)
    (error : Option String) (responded : Bool) (observed : Observed) (content : Option String) :
    ∃ record request, FailsOnce u L
      (K.resolve env h outcome error responded observed content) record request := by
  have hu : h.uuid = u := by rw [same.uuid, uuid_health]
  have hself : (K.resolve env h outcome error responded observed content).1.health u
      = ({ h with pending := none } : DeviceHealth).account
          (({ h with pending := none } : DeviceHealth).deliveryRecord env
            (resolution env h.pending outcome error responded observed content)) := by
    rw [resolve_eq, health_append, if_pos hu.symm]
  have hfail : (({ h with pending := none } : DeviceHealth).deliveryRecord env
      (resolution env h.pending outcome error responded observed content)).outcome
        ∈ FAILURE_OUTCOMES := by
    rw [DeviceHealth.deliveryRecord, resolution_outcome]
    exact ho
  refine ⟨_, h.request, ?_, hu, hfail, ?_, ?_⟩
  · rw [hself, resolve_eq, effects_append, (hK.handle h hu).listeners]
  · rw [hself, consecutiveFailures_account _ hfail, same.consecutiveFailures]
  · rw [hself]
    refine (consecutiveTimeouts_account _ _).trans ?_
    exact Nat.add_le_add_right same.consecutiveTimeouts.le 1

theorem agrees_device : Agrees u L (L.device u) :=
  ⟨fun d => health_device L u d, listeners_device L u, fun d _ => timersOf_device L u d⟩

/-- The request pending on a device, if any, is the given one. -/
def Holds (u : UUID) (L : DeliveryLedger) (request : Request) : Prop :=
  ∀ p, (L.health u).pending = some p → p.toRequest = request

/-- Evidence that finds the request pending, or is recorded regardless, appends one failure. -/
theorem evidence_counts (env : Env) {t : Ticket} {op : Op} (ho : EvidenceOp t op)
    (hheld : L.Holds t.uuid t.request)
    (h : (L.health t.uuid).pending.isSome = true ∨ op.unguarded = true) :
    ∃ record request, FailsOnce t.uuid L (L.step ⟨env, op⟩) record request := by
  cases ho with
  | timer timeout =>
    obtain ⟨p, hp⟩ := Option.isSome_iff_exists.mp (by simpa [Op.unguarded] using h)
    have hserial : p.serial = t.request.serial := by rw [← hheld p hp]
    simp only [step, expire_own ⟨t.uuid, t.request.serial, timeout⟩ hp hserial]
    exact failsOnce_resolve (.cancel _) (DeviceHealth.same_clearTimeout _) (by decide) _ _ _ _
  | raised err connected launchFailure =>
    simp only [step, asyncRequestFailed, health_device]
    exact failsOnce_resolve agrees_device (.refl _) (classify_failure ..) _ _ _ _
  | loadFailed queueItemId errorCode =>
    obtain ⟨p, hp⟩ := Option.isSome_iff_exists.mp (by simpa [Op.unguarded] using h)
    simp only [step, asyncLoadMediaFailed, health_device, hp]
    exact failsOnce_resolve agrees_device (.refl _) (by decide) _ _ _ _
  | errorStatus status error content =>
    simp only [step]
    -- an error status is recorded with or without a request that it answers
    cases hp : (L.health t.uuid).pending with
    | none =>
      simp only [mediaStatus_unsolicited hp error]
      exact failsOnce_resolve agrees_device (.refl _) (by decide) _ _ _ _
    | some p =>
      have hblames : Blames status p.toRequest := ⟨error, .inr (by rw [hheld p hp, content])⟩
      simp only [mediaStatus_blames hp hblames]
      exact failsOnce_resolve agrees_device (.refl _) (by decide) _ _ _ _

/-- Other evidence that finds nothing pending is ignored. -/
theorem evidence_ignored (env : Env) {t : Ticket} {op : Op} (ho : EvidenceOp t op)
    (hp : (L.health t.uuid).pending = none) (h : op.unguarded = false) :
    (L.step ⟨env, op⟩).2 = [] ∧
      (L.step ⟨env, op⟩).1.health t.uuid = L.health t.uuid := by
  cases ho with
  | timer timeout =>
    have hstale : L.expire env ⟨t.uuid, t.request.serial, timeout⟩ = (L.cancel _, []) :=
      expire_stale ⟨t.uuid, t.request.serial, timeout⟩ (by simp [hp])
    simp only [step, hstale]
    exact ⟨trivial, health_cancel ..⟩
  | loadFailed queueItemId errorCode =>
    simp only [step, asyncLoadMediaFailed, health_device, hp]
    exact ⟨trivial, trivial⟩
  | raised => cases h
  | errorStatus => cases h

end DeliveryLedger

/-! ## Failures and the repair manager -/

namespace RepairManager

/-- One record moves each counter of a device by at most one. -/
theorem fetchFailures_asyncOnRecord (m : RepairManager) (issues : IssueRegistry)
    (health : DeviceHealth) (record : DeliveryRecord) (d : UUID) :
    (m.asyncOnRecord issues health record).1.fetchFailures d ≤ m.fetchFailures d + 1 := by
  unfold asyncOnRecord
  cases record.outcome <;> simp only [fetchFailures, Dict.get?_set]
  case ok => split <;> simp
  case fetchFailed =>
    split
    · next hd => simp [hd]
    · omega
  all_goals omega

theorem unreachable_asyncOnRecord (m : RepairManager) (issues : IssueRegistry)
    (health : DeviceHealth) (record : DeliveryRecord) (d : UUID) :
    (m.asyncOnRecord issues health record).1.unreachable d ≤ m.unreachable d + 1 := by
  unfold asyncOnRecord
  cases record.outcome <;> simp only [unreachable, Dict.get?_set]
  case ok => split <;> simp
  case unreachable =>
    split
    · next hd => simp [hd]
    · omega
  all_goals omega

end RepairManager

namespace Hub

/-- A counter of the repair manager that one record moves by at most one moves by at most one
for every call of the repair manager. -/
theorem repairs_runListeners {gauge : RepairManager → ℕ}
    (hgauge : ∀ m issues health record,
      gauge (RepairManager.asyncOnRecord m issues health record).1 ≤ gauge m + 1)
    (env : Env) (health : DeviceHealth) (record : DeliveryRecord) (ls : List Listener) (H : Hub) :
    gauge (H.runListeners env (ls.map fun l => .called l health record)).repairs
      ≤ gauge H.repairs + ls.count .repairManager := by
  induction ls generalizing H with
  | nil => exact Nat.le_refl _
  | cons l ls ih =>
    refine (ih (H.runListener env (.called l health record))).trans ?_
    cases l with
    | repairManager =>
      have hone := hgauge H.repairs H.issues health record
      rw [List.count_cons_self]
      simp only [runListener]
      omega
    | circuitBreaker =>
      simp only [runListener]
      split <;> simp
    | other n => simp [runListener]

/-- An event that appends one record moves such a counter by at most one. -/
theorem repairs_recorded {gauge : RepairManager → ℕ}
    (hgauge : ∀ m issues health record,
      gauge (RepairManager.asyncOnRecord m issues health record).1 ≤ gauge m + 1)
    (env : Env) (health : DeviceHealth) (record : DeliveryRecord) (request : Option Request)
    {ls : List Listener} (hls : ls.Nodup) (H : Hub) :
    gauge (H.runListeners env (recorded ls health record request)).repairs
      ≤ gauge H.repairs + 1 :=
  (repairs_runListeners hgauge env health record ls H).trans
    (Nat.add_le_add_left (List.nodup_iff_count_le_one.mp hls _) _)

end Hub

/-! ## Evidence in a run -/

/-- The events whose evidence the ledger records also when nothing is pending. -/
def Event.unguarded : Event → Bool
  | .callback (.mediaStatus _ _) _ | .playRaises _ _ _ _ | .probeRaises _ _ => true
  | _ => false

namespace System

/-- The event brings evidence about a request. -/
def isEvidence (t : Ticket) (S : System) (i : Input) : Bool :=
  match i.event with
  | .callback (.expire timer) _ => timer.handle = (t.uuid, t.request.serial)
  | .callback (.loadMediaFailed u _ _) _ => u = t.uuid
  | .callback (.mediaStatus u status) _ =>
    u = t.uuid ∧ status.isError = true ∧ status.contentId = some t.request.contentId
  | .playRaises _ _ _ _ | .probeRaises _ _ => i.event.raises = some t ∧ S.catches i = true
  | _ => false

/-- Evidence is a ledger call of one of the four channels. -/
theorem evidence_call {t : Ticket} {S : System} {i : Input} (h : isEvidence t S i = true) :
    ∃ op, EvidenceOp t op ∧ op.unguarded = i.event.unguarded ∧
      (S.step i).1.toHub = (S.toHub.call ⟨i.env, op⟩).1 ∧
      ledgerEffects (S.step i).2 = (S.toHub.call ⟨i.env, op⟩).2 := by
  have hraised : i.event.raises = some t → S.catches i = true → i.event.unguarded = true →
      ∃ op, EvidenceOp t op ∧ op.unguarded = i.event.unguarded ∧
        (S.step i).1.toHub = (S.toHub.call ⟨i.env, op⟩).1 ∧
        ledgerEffects (S.step i).2 = (S.toHub.call ⟨i.env, op⟩).2 := by
    intro ht hc hunguarded
    obtain ⟨err, connected, launchFailure, hhub, heffects⟩ := step_caught ht hc
    exact ⟨_, .raised err connected launchFailure, hunguarded.symm, hhub, heffects⟩
  obtain ⟨env, event⟩ := i
  simp only [isEvidence] at h
  split at h
  · next timer external =>
    rw [decide_eq_true_eq] at h
    obtain ⟨u, serial, timeout⟩ := timer
    obtain ⟨rfl, rfl⟩ := Prod.mk.inj h
    exact ⟨_, .timer timeout, rfl, rfl, ledgerEffects_map _⟩
  · next u queueItemId errorCode external =>
    obtain rfl := of_decide_eq_true h
    exact ⟨_, .loadFailed queueItemId errorCode, rfl, rfl, ledgerEffects_map _⟩
  · next u status external =>
    obtain ⟨rfl, herror, hcontent⟩ := of_decide_eq_true h
    exact ⟨_, .errorStatus status herror hcontent, rfl, rfl, ledgerEffects_map _⟩
  · obtain ⟨ht, hc⟩ := of_decide_eq_true h
    exact hraised ht hc rfl
  · obtain ⟨ht, hc⟩ := of_decide_eq_true h
    exact hraised ht hc rfl
  · cases h

/-! ## The counters -/

/-- `consecutive_failures` of a device. -/
def failures (d : UUID) (S : System) : ℕ := (S.ledger.health d).consecutiveFailures

/-- `consecutive_timeouts` of a device. -/
def timeouts (d : UUID) (S : System) : ℕ := (S.ledger.health d).consecutiveTimeouts

/-- `consecutive_fetch_failures` of a device. -/
def fetchFailures (d : UUID) (S : System) : ℕ := S.repairs.fetchFailures d

/-- `consecutive_unreachable` of a device. -/
def unreachable (d : UUID) (S : System) : ℕ := S.repairs.unreachable d

/-- The failure records that an event appends for a device. -/
def failureRecords (d : UUID) (S : System) (i : Input) : List DeliveryRecord :=
  (records (history d (ledgerEffects (S.step i).2))).filter fun r => r.outcome ∈ FAILURE_OUTCOMES

/-- 1 for evidence that finds the request pending, or is recorded regardless; 0 otherwise. -/
def takesEffect (t : Ticket) (S : System) (i : Input) : ℕ :=
  if isEvidence t S i = true ∧
      ((S.ledger.health t.uuid).pending.isSome = true ∨ i.event.unguarded = true)
  then 1 else 0

/-- By how much evidence about a request moves a counter. -/
def contributed (gauge : System → ℕ) (t : Ticket) (S : System) (i : Input) : ℕ :=
  if isEvidence t S i = true then gauge (S.step i).1 - gauge S else 0

/-- How many failure records evidence about a request appends. -/
def recordsContributed (t : Ticket) (S : System) (i : Input) : ℕ :=
  if isEvidence t S i = true then (failureRecords t.uuid S i).length else 0

/-- The event begins no request on a device. -/
def BeginsNone (d : UUID) (S : System) (i : Input) : Prop :=
  Slot.opened (slotEvents (history d (ledgerEffects (S.step i).2))) = []

/-- No request but the given one is pending on the device, and no listener is there twice. -/
structure Sole (t : Ticket) (S : System) : Prop where
  holds : S.ledger.Holds t.uuid t.request
  listeners : S.ledger.listeners.Nodup

theorem sole_step {t : Ticket} {S : System} {i : Input} (hS : Sole t S)
    (hnone : BeginsNone t.uuid S i) : Sole t (S.step i).1 := by
  have hdriven := driven_step S i
  refine ⟨?_, ?_⟩
  · intro p hp
    have hrequest : ((S.step i).1.ledger.health t.uuid).request = some p.toRequest := by
      rw [DeviceHealth.request, hp]
      rfl
    rcases hdriven.request t.uuid p.toRequest hrequest with hold | hnew
    · obtain ⟨p', hp', heq⟩ := Option.map_eq_some_iff.mp hold
      rw [← heq]
      exact hS.holds p' hp'
    · rw [hnone] at hnew
      cases hnew
  · obtain ⟨is, hhub, -, hclosed⟩ := hdriven
    have hsub := Hub.listeners_run S.toHub hclosed
    rw [← hhub] at hsub
    exact hS.listeners.sublist hsub

/-- What evidence does to the counters when it takes effect `n` times. -/
structure Counted (t : Ticket) (S : System) (i : Input) (n : ℕ) : Prop where
  records : (failureRecords t.uuid S i).length = n
  failures : failures t.uuid (S.step i).1 = failures t.uuid S + n
  timeouts : timeouts t.uuid (S.step i).1 ≤ timeouts t.uuid S + n
  fetchFailures : fetchFailures t.uuid (S.step i).1 ≤ fetchFailures t.uuid S + n
  unreachable : unreachable t.uuid (S.step i).1 ≤ unreachable t.uuid S + n

/-- **One piece of evidence** counts one failure if it takes effect and none otherwise. -/
theorem counted_step {t : Ticket} {S : System} {i : Input} (hS : Sole t S)
    (h : isEvidence t S i = true) : Counted t S i (takesEffect t S i) := by
  obtain ⟨op, hop, hunguarded, hhub, heffects⟩ := evidence_call h
  obtain ⟨circuit, hcall⟩ := S.toHub.health_call ⟨i.env, op⟩ t.uuid
  have hrepairs : (S.step i).1.repairs
      = (Hub.runListeners i.env { S.toHub with ledger := (S.ledger.step ⟨i.env, op⟩).1 }
          (S.ledger.step ⟨i.env, op⟩).2).repairs := by
    rw [hhub]
    rfl
  have hrecords : failureRecords t.uuid S i
      = (CastDelivery.records (history t.uuid (S.ledger.step ⟨i.env, op⟩).2)).filter
          fun r => r.outcome ∈ FAILURE_OUTCOMES := by
    rw [failureRecords, heffects]
    rfl
  by_cases hc : (S.ledger.health t.uuid).pending.isSome = true ∨ i.event.unguarded = true
  · -- the evidence appends one failure record, and each listener is called on it once
    rw [takesEffect, if_pos ⟨h, hc⟩]
    obtain ⟨record, request, hfails⟩ :=
      DeliveryLedger.evidence_counts i.env hop hS.holds (hunguarded ▸ hc)
    have hall : history t.uuid (recorded S.ledger.listeners
        ((S.ledger.step ⟨i.env, op⟩).1.health t.uuid) record request)
          = recorded S.ledger.listeners
            ((S.ledger.step ⟨i.env, op⟩).1.health t.uuid) record request := by
      rw [history, List.filter_eq_self]
      intro e he
      rw [Effect.about, decide_eq_true_eq,
        DeliveryLedger.about_recorded (by simp [hfails.uuid]) e he]
      simp
    have hgauge : ∀ gauge : RepairManager → ℕ, (∀ m issues health record,
        gauge (RepairManager.asyncOnRecord m issues health record).1 ≤ gauge m + 1) →
        gauge (S.step i).1.repairs ≤ gauge S.repairs + 1 := by
      intro gauge hg
      rw [hrepairs, hfails.effects]
      exact Hub.repairs_recorded hg i.env _ record request hS.listeners _
    refine ⟨?_, ?_, ?_, ?_, ?_⟩
    · rw [hrecords, hfails.effects, hall, records_recorded]
      simp [hfails.failure]
    · rw [failures, hhub, hcall]
      exact hfails.failures
    · rw [timeouts, hhub, hcall]
      exact hfails.timeouts
    · exact hgauge (·.fetchFailures t.uuid) fun m issues health record =>
        m.fetchFailures_asyncOnRecord issues health record t.uuid
    · exact hgauge (·.unreachable t.uuid) fun m issues health record =>
        m.unreachable_asyncOnRecord issues health record t.uuid
  · -- the ledger drops the evidence
    rw [takesEffect, if_neg (by tauto)]
    obtain ⟨hpending, hguarded⟩ := not_or.mp hc
    obtain ⟨hnil, hsame⟩ := DeliveryLedger.evidence_ignored i.env hop
      (by simpa using hpending) (by simpa [hunguarded] using hguarded)
    have hrepairs' : (S.step i).1.repairs = S.repairs := by
      rw [hrepairs, hnil]
      rfl
    refine ⟨?_, ?_, ?_, ?_, ?_⟩
    · rw [hrecords, hnil]
      rfl
    · rw [failures, hhub, hcall, hsame]
      rfl
    · rw [timeouts, hhub, hcall, hsame]
      exact Nat.le_refl _
    · rw [fetchFailures, hrepairs']
      exact Nat.le_refl _
    · rw [unreachable, hrepairs']
      exact Nat.le_refl _

/-! ## The condition -/

/-- Along a run, the evidence about a request counts one failure at most, on every counter. -/
structure CountsOnce (t : Ticket) (S : System) (run : List Input) : Prop where
  records : Machine.tally step (recordsContributed t) S run ≤ 1
  failures : Machine.tally step (contributed (failures t.uuid) t) S run ≤ 1
  timeouts : Machine.tally step (contributed (timeouts t.uuid) t) S run ≤ 1
  fetchFailures : Machine.tally step (contributed (fetchFailures t.uuid) t) S run ≤ 1
  unreachable : Machine.tally step (contributed (unreachable t.uuid) t) S run ≤ 1

/-- A counter that evidence moves by at most what takes effect. -/
theorem contributed_le {t : Ticket} {S : System} {i : Input} {gauge : System → ℕ}
    (h : isEvidence t S i = true → gauge (S.step i).1 ≤ gauge S + takesEffect t S i) :
    contributed gauge t S i ≤ takesEffect t S i := by
  unfold contributed
  split
  · next hi =>
    have hle := h hi
    omega
  · exact Nat.zero_le _

/-- Evidence that takes effect appends that many failure records, and moves
`consecutive_failures` by as many. -/
theorem takesEffect_le {t : Ticket} {S : System} {i : Input} (hS : Sole t S) :
    takesEffect t S i ≤ recordsContributed t S i := by
  by_cases h : isEvidence t S i = true
  · rw [recordsContributed, if_pos h, (counted_step hS h).records]
  · rw [takesEffect, if_neg (by tauto)]
    exact Nat.zero_le _

theorem recordsContributed_le {t : Ticket} {S : System} {i : Input} (hS : Sole t S) :
    recordsContributed t S i ≤ takesEffect t S i := by
  unfold recordsContributed
  split
  · next h => exact (counted_step hS h).records.le
  · exact Nat.zero_le _

/-- **One failed delivery counts as one failure.** From a state in which a request is pending,
and as long as no new request is begun on its device, the evidence about the request counts at
most one failure if and only if at most one piece of it takes effect. -/
theorem one_failure_iff (options : StoredOptions) (before run : List Input) (t : Ticket)
    (hpending : ((after options before).ledger.health t.uuid).request = some t.request)
    (hnone : Machine.Along step (BeginsNone t.uuid) (after options before) run) :
    CountsOnce t (after options before) run ↔
      Machine.tally step (takesEffect t) (after options before) run ≤ 1 := by
  have hsole : Sole t (after options before) := by
    refine ⟨fun p hp => ?_, listeners_nodup options before⟩
    rw [DeviceHealth.request, hp] at hpending
    exact Option.some.inj hpending
  -- no counter moves more often than evidence takes effect, and the records as often
  have hle : ∀ w : System → Input → ℕ, (∀ S i, Sole t S → w S i ≤ takesEffect t S i) →
      Machine.tally step w (after options before) run
        ≤ Machine.tally step (takesEffect t) (after options before) run := fun w hw =>
    Machine.tally_le (fun S i hS hi => ⟨sole_step hS hi, hw S i hS⟩) hsole hnone
  have hge : Machine.tally step (takesEffect t) (after options before) run
      ≤ Machine.tally step (recordsContributed t) (after options before) run :=
    Machine.tally_le (fun S i hS hi => ⟨sole_step hS hi, takesEffect_le hS⟩) hsole hnone
  constructor
  · intro h
    exact hge.trans h.records
  · intro h
    refine ⟨?_, ?_, ?_, ?_, ?_⟩
    · exact (hle _ fun S i hS => recordsContributed_le hS).trans h
    · exact (hle _ fun S i hS => contributed_le fun hi => (counted_step hS hi).failures.le).trans h
    · exact (hle _ fun S i hS => contributed_le fun hi => (counted_step hS hi).timeouts).trans h
    · exact (hle _ fun S i hS =>
        contributed_le fun hi => (counted_step hS hi).fetchFailures).trans h
    · exact (hle _ fun S i hS => contributed_le fun hi => (counted_step hS hi).unreachable).trans h

/-- A play on a device that does not answer. -/
def hungPlay : List Input := [⟨.bare 0, .play ⟨1⟩ "http://ha/tts.mp3" .playMedia none⟩]

/-- The request of `hungPlay`. -/
def hungTicket : Ticket := ⟨⟨1⟩, ⟨0, "http://ha/tts.mp3", .playMedia, 0, 0, none⟩⟩

/-- The delivery timer of `hungPlay`, after 30 seconds. -/
def hungTimer : Input := ⟨.bare 30, .callback (.expire ⟨⟨1⟩, 0, DELIVERY_TIMEOUT⟩) rfl⟩

/-- The watchdog of `hungPlay`, after 45 seconds. -/
def hungWatchdog : Input := ⟨.bare 45, .playRaises hungTicket ⟨⟨.timeoutError, ""⟩, none⟩ true none⟩

theorem one_failure_iff_timer : CountsOnce hungTicket (after {} hungPlay) [hungTimer] :=
  (one_failure_iff {} hungPlay [hungTimer] hungTicket (by decide)
    ⟨by unfold BeginsNone; decide, trivial⟩).mpr (by decide)

/-- The timer and then the watchdog of one play count two failures. -/
theorem not_countsOnce : ¬ CountsOnce hungTicket (after {} hungPlay) [hungTimer, hungWatchdog] := by
  intro h
  have hfailures := h.failures
  revert hfailures
  decide

end System

end CastDelivery
