import CastDelivery.Health.Filing
import CastDelivery.System.Takeover

/-!
# What one event does to a device with a probe in flight

While a probe is in flight on a device, its uuid is in the running set, so no cycle probes or
records anything on the device. `turn_step`: what an event shows of the device is what its
ledger call (`callOf`) shows, and no such call begins a request of a probe. So an event appends
at most one record for the device, none unless the ledger says so (`appends`), and a probe's
request that is pending after it was pending before.
-/

namespace CastDelivery

namespace DeliveryLedger

variable {L : DeliveryLedger} {env : Env}

/-- In this ledger, the operation has a record to append for the device: it begins a request or
fails a load while one is pending, it is the timer of the pending one, it is a status that is an
error or confirms the pending one, or it reports a failure or an outcome. -/
def appends (L : DeliveryLedger) (d : UUID) : Op → Bool
  | .beginRequest u _ _ _ _ | .loadMediaFailed u _ _ => u = d ∧ (L.health d).pending.isSome = true
  | .expire timer => timer.uuid = d ∧
      (L.health d).pending.any (fun pending => pending.serial = timer.serial) = true
  | .mediaStatus u status => u = d ∧ (status.isError = true ∨
      (L.health d).pending.any (fun pending => Confirms status pending.toRequest) = true)
  | .requestFailed u _ _ _ | .record u _ => u = d
  | _ => false

theorem records_resolve {h : DeviceHealth} {outcome : DeliveryOutcome} {error : Option String}
    {responded : Bool} {observed : Observed} {content : Option String} :
    CastDelivery.records (L.resolve env h outcome error responded observed content).2 ≠ [] := by
  obtain ⟨h', r, q, heq⟩ := effects_resolve env L h outcome error responded observed content
  rw [heq, records_recorded]
  exact List.cons_ne_nil r []

theorem records_append_call {h : DeviceHealth} {dl : Delivery} {q : Option Request} :
    CastDelivery.records (L.append env h dl q).2 ≠ [] := by
  rw [effects_append, records_recorded]
  exact List.cons_ne_nil _ []

/-- A call about a device appends a record exactly when `appends` says so. -/
theorem records_step {c : Call} {d : UUID} (hu : c.op.uuid? = some d) :
    CastDelivery.records (L.step c).2 ≠ [] ↔ L.appends d c.op = true := by
  obtain ⟨env, op⟩ := c
  cases op <;> simp only [Op.uuid?, Option.some.injEq, reduceCtorEq] at hu <;> subst hu
  case device | updateIdentity | restoreLastSuccess =>
    exact iff_of_false (fun h => h rfl) (by simp [appends])
  case beginRequest u contentId source session timeout =>
    simp only [step, asyncBeginRequest, supersede, health_device, appends]
    cases (L.health u).pending with
    | none => simp [startRequest, CastDelivery.records]
    | some p =>
      -- the superseded request gets a record
      simp [startRequest, records_resolve]
  case expire timer =>
    simp only [step, appends]
    cases hp : (L.health timer.uuid).pending with
    | none => rw [expire_stale timer (by simp [hp])]; simp [CastDelivery.records]
    | some p =>
      by_cases hserial : p.serial = timer.serial
      · rw [expire_own timer hp hserial]
        simp [hserial, records_resolve]
      · rw [expire_stale timer (by simpa [hp] using hserial)]
        simp [hserial, CastDelivery.records]
  case mediaStatus u status =>
    simp only [step, appends]
    cases herror : status.isError with
    | true =>
      -- an `ERROR` status is recorded whatever is pending
      refine iff_of_true ?_ (by simp)
      cases hp : (L.health u).pending with
      | none =>
        rw [mediaStatus_unsolicited hp herror]
        exact records_resolve
      | some p =>
        by_cases hblames : Blames status p.toRequest
        · rw [mediaStatus_blames hp hblames]
          exact records_resolve
        · rw [mediaStatus_other_error hp herror hblames]
          exact records_append_call
    | false =>
      by_cases hconfirms : ∃ p, (L.health u).pending = some p ∧ Confirms status p.toRequest
      · obtain ⟨p, hp, hconfirms⟩ := hconfirms
        rw [mediaStatus_confirms hp hconfirms]
        exact iff_of_true (records_resolve) (by simp [hp, hconfirms])
      · push Not at hconfirms
        rw [mediaStatus_ignored herror hconfirms]
        refine iff_of_false (fun h => h rfl) ?_
        cases hp : (L.health u).pending with
        | none => simp
        | some p => simpa using hconfirms p hp
  case loadMediaFailed u queueItemId errorCode =>
    simp only [step, asyncLoadMediaFailed, health_device, appends]
    cases (L.health u).pending with
    | none => simp [CastDelivery.records]
    | some p => simp [records_resolve]
  case requestFailed u err connected launchFailure =>
    exact iff_of_true (records_resolve) (by simp [appends])
  case record u call =>
    simp only [step, asyncRecord]
    refine iff_of_true ?_ (by simp [appends])
    split_ifs
    · exact records_resolve
    · exact records_append_call

/-- An operation that does not append a record leaves the records of the device alone. -/
theorem records_silent {c : Call} {d : UUID} (h : L.appends d c.op = false) :
    CastDelivery.records (history d (L.step c).2) = [] := by
  cases hu : c.op.uuid? with
  | none =>
    rw [(step_global (L := L) hu d).1]
    rfl
  | some u =>
    by_cases hd : d = u
    · subst hd
      rw [history, (actsOn_step (L := L) hu).filter_own]
      by_contra hne
      rw [(records_step hu).mp hne] at h
      cases h
    · rw [history, (actsOn_step (L := L) hu).filter_other hd]
      rfl

end DeliveryLedger

namespace System

/-! ## Devices with a probe in flight -/

variable {d : UUID} {S : System} {i : Input}

/-- What a call shows of a device. -/
def shown (d : UUID) (S : System) (call : Option Call) : List Effect :=
  call.elim [] fun c => history d (S.ledger.step c).2

theorem shown_ledgerCall (d : UUID) (S : System) (c : Call) :
    history d (ledgerEffects (S.ledgerCall c).2) = shown d S (some c) := by
  rw [show ledgerEffects (S.ledgerCall c).2 = (S.ledger.step c).2 from ledgerEffects_map _]
  rfl

variable (env : Env) (cycle : Cycle) (url : String)

/-- A cycle takes no uuid out of the running set. -/
theorem running_refreshDevice (u : UUID) (hd : d ∈ S.running) :
    d ∈ (S.refreshDevice env cycle url u).1.1.running := by
  unfold refreshDevice actOn launchProbe
  simp only
  split
  · exact Finset.mem_insert_of_mem hd
  · split <;> exact hd

/-- The turn of a device in the running set shows nothing. -/
theorem silent_refreshDevice_own (hd : d ∈ S.running) :
    ledgerEffects (S.refreshDevice env cycle url d).1.2 = [] := by
  have hdecision : (S.ledgerCall ⟨env, .device d⟩).1.decision env cycle d = .stillRunning := by
    have hrunning : d ∈ (S.ledgerCall ⟨env, .device d⟩).1.running := hd
    unfold decision ProbeOptions.decide
    simp [hrunning]
  unfold refreshDevice
  simp only [hdecision, actOn, Decision.recordCall, List.append_nil]
  exact ledgerEffects_map _

/-- A cycle shows nothing of a device in the running set. -/
theorem silent_refreshDevices (us : List UUID) (hd : d ∈ S.running)
    (results : Dict UUID ProbeResult) :
    history d (ledgerEffects (refreshDevices env cycle url us S results).1.2) = [] := by
  induction us generalizing S results with
  | nil => rfl
  | cons u us ih =>
    have hrest := ih (running_refreshDevice env cycle url u hd)
      (results.set u (S.refreshDevice env cycle url u).2)
    have hfirst : history d (ledgerEffects (S.refreshDevice env cycle url u).1.2) = [] := by
      by_cases hu : d = u
      · rw [← hu, silent_refreshDevice_own env cycle url hd]
        rfl
      · exact (elsewhere_refreshDevice env cycle url S hu).silent
    simp only [refreshDevices]
    rw [ledgerEffects_append, history_append, hfirst, hrest, List.append_nil]

theorem Move.turn {r : System × List Output} (h : Move S i r) (hd : d ∈ S.running) :
    history d (ledgerEffects r.2) = shown d S (S.callOf i) := by
  cases h with
  | idle _ _ _ noCall | options _ noCall =>
    rw [noCall]
    rfl
  | call c plays hc =>
    rw [hc]
    exact shown_ledgerCall d { S with plays := plays } c
  -- a cycle passes over the devices with a probe in flight
  | cycle cycle url results data noCall =>
    rw [noCall]
    exact silent_refreshDevices i.env cycle url _ hd results
  | wait p stage deadline hp late noCall =>
    rw [noCall, ledgerEffects_waitProbe]
    rfl
  | fail p err hp hc =>
    rw [hc, ledgerEffects_append, ledgerEffects_finishProbe, List.append_nil]
    exact shown_ledgerCall d S _
  | finish p stage hp ends noCall =>
    rw [noCall, ledgerEffects_finishProbe]
    rfl

/-- **What an event shows of a device with a probe in flight** is what its call shows. -/
theorem turn_step (S : System) (i : Input) (hd : d ∈ S.running) :
    history d (ledgerEffects (S.step i).2) = shown d S (S.callOf i) := (move_step S i).turn hd

/-- An event appends at most one record for the device. -/
theorem length_records_turn (i : Input) (hd : d ∈ S.running) :
    (records (history d (ledgerEffects (S.step i).2))).length ≤ 1 := by
  rw [turn_step S i hd]
  cases S.callOf i with
  | none => exact Nat.zero_le 1
  | some c =>
    have hsub : (records (history d (S.ledger.step c).2)).Sublist
        (records (S.ledger.step c).2) := List.filter_sublist.filterMap _
    exact hsub.length_le.trans (DeliveryLedger.length_records_step S.ledger c)

/-- An event whose call appends no record for the device leaves its records alone. -/
theorem records_turn (hd : d ∈ S.running)
    (h : ∀ c, S.callOf i = some c → S.ledger.appends d c.op = false) :
    records (history d (ledgerEffects (S.step i).2)) = [] := by
  rw [turn_step S i hd]
  cases hc : S.callOf i with
  | none => rfl
  | some c => exact DeliveryLedger.records_silent (h c hc)

/-- A probe's request that is pending after an event was pending before. -/
theorem request_turn (hd : d ∈ S.running) {q : Request}
    (hq : ((S.step i).1.ledger.health d).request = some q) (hs : q.source = .probe) :
    (S.ledger.health d).request = some q := by
  rcases (driven_step S i).request d q hq with hold | hnew
  · exact hold
  · rw [turn_step S i hd] at hnew
    cases hc : S.callOf i with
    | none =>
      rw [hc] at hnew
      cases hnew
    | some c =>
      rw [hc] at hnew
      have hmem : q ∈ Slot.opened (slotEvents (S.ledger.step c).2) := by
        rw [mem_opened] at hnew ⊢
        obtain ⟨u, hu⟩ := hnew
        exact ⟨u, List.mem_of_mem_filter hu⟩
      obtain ⟨u, contentId, session, timeout, hop⟩ := DeliveryLedger.begun_step hmem
      rw [hs] at hop
      exact absurd hop (callOf_user hc u contentId session timeout)

end System

end CastDelivery
