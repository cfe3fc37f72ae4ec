import CastDelivery.Health.DeviceStep
import CastDelivery.Lib.Machine
import CastDelivery.Lib.Slot
import Mathlib.Data.List.DropRight

/-!
# The history of a device

A run of the ledger leaves a list of effects; its part about one device is the history of the
device. This file reads a history and relates it to the health object it led to:

* `records`, the records appended, and `slotEvents`, the requests opened and closed;
* `Conserved`: the history is a path of a one-request slot that ends in the pending request, the
  requests are numbered in order, and each record that consumed a request carries its fields;
* `FoldOf`: the counters and last values of the health object are the fold of the records;
* `Reported`: every record was fired once and reached every registered listener once.

Each is preserved by a `DeviceStep`, and so it holds of every run.
-/

namespace CastDelivery

/-- The records appended, in order. -/
def records (es : List Effect) : List DeliveryRecord :=
  es.filterMap fun
    | .appended record _ => some record
    | _ => none

/-- The requests begun and consumed, as events of a slot. -/
def slotEvents (es : List Effect) : List (Slot.Event Request) :=
  es.filterMap fun
    | .begun _ request => some (.opened request)
    | .appended _ (some request) => some (.closed request)
    | _ => none

/-- The records fired on the event bus, in order. -/
def firedRecords (es : List Effect) : List DeliveryRecord :=
  es.filterMap fun
    | .fired record => some record
    | _ => none

/-- The calls of listeners, in order. -/
def listenerCalls (es : List Effect) : List (Listener × DeliveryRecord) :=
  es.filterMap fun
    | .called listener _ record => some (listener, record)
    | _ => none

/-- The history of a device within a list of effects. -/
def history (d : UUID) (es : List Effect) : List Effect := es.filter (Effect.about d)

@[simp] theorem records_append (es fs : List Effect) :
    records (es ++ fs) = records es ++ records fs := List.filterMap_append

@[simp] theorem slotEvents_append (es fs : List Effect) :
    slotEvents (es ++ fs) = slotEvents es ++ slotEvents fs := List.filterMap_append

@[simp] theorem firedRecords_append (es fs : List Effect) :
    firedRecords (es ++ fs) = firedRecords es ++ firedRecords fs := List.filterMap_append

@[simp] theorem listenerCalls_append (es fs : List Effect) :
    listenerCalls (es ++ fs) = listenerCalls es ++ listenerCalls fs := List.filterMap_append

theorem history_append (d : UUID) (es fs : List Effect) :
    history d (es ++ fs) = history d es ++ history d fs := List.filter_append ..

theorem mem_records {es : List Effect} {r : DeliveryRecord} :
    r ∈ records es ↔ ∃ q, .appended r q ∈ es := by
  simp only [records, List.mem_filterMap]
  constructor
  · rintro ⟨e, he, hr⟩
    cases e <;> simp only [Option.some.injEq, reduceCtorEq] at hr
    case appended record q => exact ⟨q, hr ▸ he⟩
  · rintro ⟨q, hq⟩
    exact ⟨_, hq, rfl⟩

theorem mem_closed {es : List Effect} {q : Request} :
    q ∈ Slot.closed (slotEvents es) ↔ ∃ r, .appended r (some q) ∈ es := by
  induction es with
  | nil => simp [slotEvents, Slot.closed]
  | cons e es ih =>
    rw [← List.singleton_append, slotEvents_append, Slot.closed_append, List.mem_append, ih]
    simp only [List.singleton_append, List.mem_cons, exists_or]
    refine or_congr ?_ Iff.rfl
    cases e with
    | appended r q' => cases q' <;> simp [slotEvents, Slot.closed, eq_comm]
    | _ => simp [slotEvents, Slot.closed]

theorem mem_opened {es : List Effect} {q : Request} :
    q ∈ Slot.opened (slotEvents es) ↔ ∃ u, .begun u q ∈ es := by
  induction es with
  | nil => simp [slotEvents, Slot.opened]
  | cons e es ih =>
    rw [← List.singleton_append, slotEvents_append, Slot.opened_append, List.mem_append, ih]
    simp only [List.singleton_append, List.mem_cons, exists_or]
    refine or_congr ?_ Iff.rfl
    cases e with
    | appended r q' => cases q' <;> simp [slotEvents, Slot.opened]
    | begun u q' => simp [slotEvents, Slot.opened, eq_comm]
    | _ => simp [slotEvents, Slot.opened]

/-! ## The history of one append -/

section Recorded

variable (ls : List Listener) (h : DeviceHealth) (r : DeliveryRecord) (q : Option Request)

theorem filterMap_calls_none {α : Type*} (f : Effect → Option α)
    (hf : ∀ l, f (.called l h r) = none) :
    (ls.map fun l => Effect.called l h r).filterMap f = [] := by
  rw [List.filterMap_map, List.filterMap_eq_nil_iff]
  exact fun l _ => hf l

@[simp] theorem records_recorded : records (recorded ls h r q) = [r] := by
  rw [recorded, records_append, records, records, filterMap_calls_none _ _ _ _ fun _ => rfl]
  rfl

@[simp] theorem slotEvents_recorded :
    slotEvents (recorded ls h r q) = q.toList.map .closed := by
  rw [recorded, slotEvents_append, slotEvents, slotEvents,
    filterMap_calls_none _ _ _ _ fun _ => rfl]
  cases q <;> rfl

@[simp] theorem firedRecords_recorded : firedRecords (recorded ls h r q) = [r] := by
  rw [recorded, firedRecords_append, firedRecords, firedRecords,
    filterMap_calls_none _ _ _ _ fun _ => rfl]
  rfl

@[simp] theorem listenerCalls_recorded :
    listenerCalls (recorded ls h r q) = ls.map fun l => (l, r) := by
  simp [recorded, listenerCalls]

@[simp] theorem mem_recorded_appended {r' : DeliveryRecord} {q' : Option Request} :
    .appended r' q' ∈ recorded ls h r q ↔ r' = r ∧ q' = q := by
  simp [recorded]

end Recorded

/-! ## Requests are conserved -/

/-- A record carries the fields of the request it consumed; without one it has no request time. -/
def Carries (r : DeliveryRecord) : Option Request → Prop
  | some q => r.requestedAt = some q.requestedAt ∧ r.contentId = some q.contentId ∧
      r.source = q.source
  | none => r.requestedAt = none

/-- The history of a device and the request it has pending. -/
structure Conserved (h : DeviceHealth) (es : List Effect) : Prop where
  path : Slot.Path none (slotEvents es) h.request
  serials : (Slot.opened (slotEvents es)).map Request.serial = List.range h.begun
  carries : ∀ r q, .appended r q ∈ es → Carries r q

theorem Conserved.step {env : Env} {ls : List Listener} {stamp : Option DateTime}
    {h g : DeviceHealth} {fs : List Effect} (s : DeviceStep env ls stamp h g fs) :
    ∀ {es : List Effect}, Conserved h es → Conserved g (es ++ fs) := by
  induction s with
  | quiet same =>
    intro es H
    rw [List.append_nil]
    exact ⟨same.request ▸ H.path, same.begun ▸ H.serials, H.carries⟩
  | restore fresh =>
    intro es H
    rw [List.append_nil]
    exact ⟨H.path, H.serials, H.carries⟩
  | @note h d unasked =>
    -- the record consumes no request
    intro es H
    refine ⟨?_, ?_, fun r q hr => ?_⟩
    · rw [slotEvents_append, slotEvents_recorded]
      simpa [DeviceHealth.request] using H.path
    · rw [slotEvents_append, slotEvents_recorded, DeviceHealth.account_begun]
      simpa using H.serials
    · rcases List.mem_append.mp hr with hr | hr
      · exact H.carries r q hr
      · obtain ⟨rfl, rfl⟩ := (mem_recorded_appended ..).mp hr
        exact unasked
  | @resolve h p pending outcome error responded observed r hr =>
    -- the record closes the pending request and copies its fields
    intro es H
    refine ⟨?_, ?_, fun r' q hr' => ?_⟩
    · rw [slotEvents_append, slotEvents_recorded, DeviceHealth.request,
        DeviceHealth.account_pending]
      have hpath := H.path
      rw [DeviceHealth.request, pending] at hpath
      exact hpath.append (.closed (.nil _))
    · rw [slotEvents_append, slotEvents_recorded, DeviceHealth.account_begun, Slot.opened_append]
      simpa [Slot.opened] using H.serials
    · rcases List.mem_append.mp hr' with hr' | hr'
      · exact H.carries r' q hr'
      · obtain ⟨rfl, rfl⟩ := (mem_recorded_appended ..).mp hr'
        rw [hr]
        exact ⟨rfl, rfl, rfl⟩
  | @start h free u hu request serial =>
    -- the slot is free, and the request takes the next serial
    intro es H
    have hevents : slotEvents [Effect.begun u request] = [.opened request] := rfl
    refine ⟨?_, ?_, fun r q hr => ?_⟩
    · rw [slotEvents_append, hevents]
      have hpath := H.path
      rw [DeviceHealth.request, free] at hpath
      exact hpath.append (.opened (.nil _))
    · rw [slotEvents_append, hevents, Slot.opened_append, List.map_append, H.serials,
        List.range_succ, ← serial]
      rfl
    · exact H.carries r q (by simpa using hr)
  | seq _ _ ih ih' =>
    intro es H
    rw [← List.append_assoc]
    exact ih' (ih H)

namespace Conserved

variable {h : DeviceHealth} {es : List Effect}

theorem nodup_opened (H : Conserved h es) : (Slot.opened (slotEvents es)).Nodup := by
  refine List.Nodup.of_map Request.serial ?_
  rw [H.serials]
  exact List.nodup_range

theorem nodup_closed (H : Conserved h es) : (Slot.closed (slotEvents es)).Nodup := by
  have hnodup := H.nodup_opened
  rw [H.path.opened_eq] at hnodup
  exact (List.nodup_append.mp hnodup).1

/-- A request that was begun and is not pending was closed. -/
theorem closed_of_not_pending (H : Conserved h es) {q : Request}
    (hbegun : q ∈ Slot.opened (slotEvents es)) (hq : h.request ≠ some q) :
    q ∈ Slot.closed (slotEvents es) := by
  rw [H.path.opened_eq, List.mem_append, Option.mem_toList] at hbegun
  exact hbegun.resolve_right hq

/-- There is one request more than there are records with a request time if and only if one is
pending, and as many otherwise. -/
theorem length_opened (H : Conserved h es) :
    (Slot.opened (slotEvents es)).length
      = ((records es).filter fun r => r.requestedAt.isSome).length
        + if h.pending.isSome then 1 else 0 := by
  have hclosed : (Slot.closed (slotEvents es)).length
      = ((records es).filter fun r => r.requestedAt.isSome).length := by
    -- a record has a request time exactly if it consumed a request
    have hc := H.carries
    clear H
    induction es with
    | nil => rfl
    | cons e es ih =>
      have ih := ih fun r q hr => hc r q (List.mem_cons_of_mem _ hr)
      rw [← List.singleton_append, slotEvents_append, records_append, Slot.closed_append,
        List.length_append, List.filter_append, List.length_append, ih]
      congr 1
      cases e with
      | appended r q =>
        have hcarry := hc r q List.mem_cons_self
        cases q with
        | none => simp [slotEvents, records, Slot.closed, show r.requestedAt = none from hcarry]
        | some q => simp [slotEvents, records, Slot.closed, hcarry.1]
      | _ => rfl
  rw [H.path.opened_eq, List.length_append, hclosed, DeviceHealth.request]
  cases h.pending <;> rfl

end Conserved

/-! ## The health object is the fold of its records -/

/-- A record that says something about the device: neither `UNKNOWN` nor `SKIPPED_BUSY`. -/
def Decisive (r : DeliveryRecord) : Bool := r.outcome ≠ .unknown ∧ r.outcome ≠ .skippedBusy

/-- When the last `OK` of some records was resolved. -/
def lastOk (H : List DeliveryRecord) : Option DateTime :=
  (H.filter fun r => r.outcome = .ok).getLast?.map DeliveryRecord.resolvedAt

/-- The records after the last `OK`. -/
def sinceOk (H : List DeliveryRecord) : List DeliveryRecord :=
  H.rtakeWhile fun r => r.outcome ≠ .ok

/-- The longest run of `TIMEOUT` records at the end. -/
def trailingTimeouts (H : List DeliveryRecord) : List DeliveryRecord :=
  H.rtakeWhile fun r => r.outcome = .timeout

/-- The last values and counters of a health object are the fold of the records `H`. -/
structure FoldOf (H : List DeliveryRecord) (h : DeviceHealth) : Prop where
  lastOutcome : h.lastOutcome
    = ((H.filter Decisive).getLast?.map DeliveryRecord.outcome).getD .unknown
  lastRecord : h.lastRecord = H.getLast?
  failures : h.consecutiveFailures = (sinceOk (H.filter Decisive)).length
  timeouts : h.consecutiveTimeouts = (trailingTimeouts (H.filter Decisive)).length

theorem filter_decisive_concat_pos (H : List DeliveryRecord) {r : DeliveryRecord}
    (hr : Decisive r = true) : (H ++ [r]).filter Decisive = H.filter Decisive ++ [r] := by
  rw [List.filter_append, List.filter_cons_of_pos hr, List.filter_nil]

theorem filter_decisive_concat_neg (H : List DeliveryRecord) {r : DeliveryRecord}
    (hr : Decisive r = false) : (H ++ [r]).filter Decisive = H.filter Decisive := by
  rw [List.filter_append, List.filter_cons_of_neg (by simp [hr]), List.filter_nil,
    List.append_nil]

/-- Accounting for one more record keeps the fold. -/
theorem FoldOf.account {H : List DeliveryRecord} {h : DeviceHealth} (F : FoldOf H h)
    (r : DeliveryRecord) : FoldOf (H ++ [r]) (h.account r) := by
  obtain ⟨hout, -, hfail, htime⟩ := F
  cases ho : r.outcome
  case unknown | skippedBusy =>
    -- `_append` sets `last_record` alone
    have hr : Decisive r = false := by simp [Decisive, ho]
    refine ⟨?_, ?_, ?_, ?_⟩ <;>
      simp [filter_decisive_concat_neg H hr, DeviceHealth.account, DeviceHealth.setLast,
        DeviceHealth.count, FAILURE_OUTCOMES, ho, hout, hfail, htime]
  all_goals
    have hr : Decisive r = true := by simp [Decisive, ho]
    refine ⟨?_, ?_, ?_, ?_⟩ <;>
      simp [filter_decisive_concat_pos H hr, DeviceHealth.account, DeviceHealth.setLast,
        DeviceHealth.count, FAILURE_OUTCOMES, sinceOk, trailingTimeouts, ho,
        hfail, htime]

theorem FoldOf.same {H : List DeliveryRecord} {h g : DeviceHealth} (F : FoldOf H h)
    (same : h.Same g) : FoldOf H g :=
  ⟨same.lastOutcome.trans F.lastOutcome, same.lastRecord.trans F.lastRecord,
    same.consecutiveFailures.trans F.failures, same.consecutiveTimeouts.trans F.timeouts⟩

theorem FoldOf.step {env : Env} {ls : List Listener} {stamp : Option DateTime}
    {h g : DeviceHealth} {fs : List Effect} (s : DeviceStep env ls stamp h g fs) :
    ∀ {H : List DeliveryRecord}, FoldOf H h → FoldOf (H ++ records fs) g := by
  induction s with
  | quiet same =>
    intro H F
    rw [records, List.filterMap_nil, List.append_nil]
    exact F.same same
  | restore fresh =>
    intro H F
    rw [records, List.filterMap_nil, List.append_nil]
    exact ⟨F.lastOutcome, F.lastRecord, F.failures, F.timeouts⟩
  | note d unasked =>
    intro H F
    rw [records_recorded]
    exact F.account _
  | @resolve h p pending outcome error responded observed r hr =>
    intro H F
    rw [records_recorded]
    have F' : FoldOf H { h with pending := none } :=
      ⟨F.lastOutcome, F.lastRecord, F.failures, F.timeouts⟩
    exact F'.account r
  | @start h free u hu request serial =>
    intro H F
    rw [show records [Effect.begun u request] = [] from rfl, List.append_nil]
    exact ⟨F.lastOutcome, F.lastRecord, F.failures, F.timeouts⟩
  | seq _ _ ih ih' =>
    intro H F
    rw [records_append, ← List.append_assoc]
    exact ih' (ih F)

/-- `last_success` moves to the last `OK` of a step that restores nothing. -/
theorem lastSuccess_account (h : DeviceHealth) (r : DeliveryRecord) :
    (h.account r).lastSuccess = (lastOk [r]).or h.lastSuccess := by
  cases ho : r.outcome <;>
    simp [DeviceHealth.account, DeviceHealth.setLast, DeviceHealth.count, FAILURE_OUTCOMES,
      lastOk, ho]

theorem lastOk_append (H K : List DeliveryRecord) :
    lastOk (H ++ K) = (lastOk K).or (lastOk H) := by
  unfold lastOk
  rw [List.filter_append, List.getLast?_append]
  cases (K.filter fun r => r.outcome = .ok).getLast? <;> simp

theorem DeviceStep.lastSuccess {env : Env} {ls : List Listener} {h g : DeviceHealth}
    {fs : List Effect} (s : DeviceStep env ls none h g fs) :
    g.lastSuccess = (lastOk (records fs)).or h.lastSuccess := by
  induction s with
  | quiet same => exact same.lastSuccess
  | restore fresh => exact fresh.symm
  | note d unasked => rw [records_recorded, lastSuccess_account]
  | resolve pending outcome error responded observed hr =>
    rw [records_recorded, lastSuccess_account]
  | start free hu serial => rfl
  | seq _ _ ih ih' => rw [ih', ih, records_append, lastOk_append, Option.or_assoc]

/-! ## Every record is reported -/

/-- Every record appended was fired once, in order, and reached each of the listeners. -/
structure Reported (ls : List Listener) (es : List Effect) : Prop where
  fired : firedRecords es = records es
  called : listenerCalls es = (records es).flatMap fun r => ls.map fun l => (l, r)

theorem Reported.append {ls : List Listener} {es fs : List Effect} (h : Reported ls es)
    (h' : Reported ls fs) : Reported ls (es ++ fs) :=
  ⟨by rw [firedRecords_append, records_append, h.fired, h'.fired],
    by rw [listenerCalls_append, records_append, List.flatMap_append, h.called, h'.called]⟩

theorem Reported.nil (ls : List Listener) : Reported ls [] := ⟨rfl, rfl⟩

theorem Reported.recorded (ls : List Listener) (h : DeviceHealth) (r : DeliveryRecord)
    (q : Option Request) : Reported ls (recorded ls h r q) :=
  ⟨by rw [firedRecords_recorded, records_recorded],
    by rw [listenerCalls_recorded, records_recorded, List.flatMap_singleton]⟩

theorem DeviceStep.reported {env : Env} {ls : List Listener} {stamp : Option DateTime}
    {h g : DeviceHealth} {fs : List Effect} (s : DeviceStep env ls stamp h g fs) :
    Reported ls fs := by
  induction s with
  | quiet same => exact .nil ls
  | restore fresh => exact .nil ls
  | note d unasked => exact .recorded ..
  | resolve pending outcome error responded observed hr => exact .recorded ..
  | start free hu serial => exact ⟨rfl, rfl⟩
  | seq _ _ ih ih' => exact ih.append ih'

/-! ## Runs -/

/-- The ledger after a run of calls from the empty ledger. -/
def ledgerAfter (calls : List Call) : DeliveryLedger :=
  Machine.final DeliveryLedger.step {} calls

/-- The effects of a run of calls from the empty ledger. -/
def effectsOf (calls : List Call) : List Effect :=
  Machine.emitted DeliveryLedger.step {} calls

theorem ledgerAfter_concat (calls : List Call) (c : Call) :
    ledgerAfter (calls ++ [c]) = ((ledgerAfter calls).step c).1 :=
  Machine.final_concat ..

theorem effectsOf_concat (calls : List Call) (c : Call) :
    effectsOf (calls ++ [c]) = effectsOf calls ++ ((ledgerAfter calls).step c).2 :=
  Machine.emitted_concat ..

/-- The history of a device in a run. -/
def historyOf (d : UUID) (calls : List Call) : List Effect := history d (effectsOf calls)

theorem historyOf_concat (d : UUID) (calls : List Call) (c : Call) :
    historyOf d (calls ++ [c])
      = historyOf d calls ++ history d ((ledgerAfter calls).step c).2 := by
  rw [historyOf, effectsOf_concat, history_append]
  rfl

/-- In every run, the requests of a device are conserved. -/
theorem conserved_run (d : UUID) (calls : List Call) :
    Conserved ((ledgerAfter calls).health d) (historyOf d calls) := by
  refine Machine.history_induction DeliveryLedger.step
    (P := fun _ L es => Conserved (L.health d) (history d es)) {}
    ⟨.nil _, rfl, by simp [history]⟩ ?_ calls
  intro _ L es c H
  rw [history_append]
  exact H.step (L.step_device c d)

/-- In every run, the health object of a device is the fold of its records. -/
theorem foldOf_run (d : UUID) (calls : List Call) :
    FoldOf (records (historyOf d calls)) ((ledgerAfter calls).health d) := by
  refine Machine.history_induction DeliveryLedger.step
    (P := fun _ L es => FoldOf (records (history d es)) (L.health d)) {}
    ⟨rfl, rfl, rfl, rfl⟩ ?_ calls
  intro _ L es c F
  rw [history_append, records_append]
  exact F.step (L.step_device c d)

/-- Until a shutdown, the pending request of a device and its timers match. -/
theorem timersMatch_run (d : UUID) (calls : List Call) :
    (∀ c ∈ calls, c.op ≠ .shutdown) → (ledgerAfter calls).TimersMatch d := by
  refine Machine.history_induction DeliveryLedger.step
    (P := fun calls L _ => (∀ c ∈ calls, c.op ≠ .shutdown) → L.TimersMatch d) {}
    (fun _ => ⟨rfl, by simp [DeliveryLedger.health]⟩) ?_ calls
  intro calls L _ c ht hs
  exact DeliveryLedger.step_timersMatch (hs c (by simp)) (ht fun c' hc' => hs c' (by simp [hc']))

/-- The first value a run restored as the last success of a device. -/
def restoredIn (d : UUID) (calls : List Call) : Option DateTime :=
  calls.findSome? fun c => c.op.restored d

theorem restoreLastSuccess_health (L : DeliveryLedger) (d : UUID) (stamp : Option DateTime) :
    ((L.restoreLastSuccess d stamp).health d).lastSuccess
      = (L.health d).lastSuccess.or stamp := by
  unfold DeliveryLedger.restoreLastSuccess
  simp only [DeliveryLedger.health_device]
  cases hs : (L.health d).lastSuccess with
  | some t => simp [hs]
  | none => simp [DeliveryLedger.health_store]

/-- One call moves `last_success` to the `OK` it records, or restores it. -/
theorem step_lastSuccess (L : DeliveryLedger) (c : Call) (d : UUID) :
    ((L.step c).1.health d).lastSuccess
      = (lastOk (records (history d (L.step c).2))).or
          ((L.health d).lastSuccess.or (c.op.restored d)) := by
  have hstep := L.step_device c d
  by_cases hr : c.op.restored d = none
  · rw [hr] at hstep ⊢
    rw [hstep.lastSuccess, Option.or_none]
    rfl
  · obtain ⟨env, op⟩ := c
    cases op <;> simp only [Op.restored, not_true_eq_false] at hr
    case restoreLastSuccess u stamp =>
      by_cases hu : u = d
      · subst hu
        simp only [DeliveryLedger.step, Op.restored, if_true, restoreLastSuccess_health]
        rfl
      · rw [if_neg hu] at hr
        exact absurd rfl hr

/-- In every run, `last_success` is when the last `OK` was resolved, or the restored value. -/
theorem lastSuccess_run (d : UUID) (calls : List Call) :
    ((ledgerAfter calls).health d).lastSuccess
      = (lastOk (records (historyOf d calls))).or (restoredIn d calls) := by
  refine Machine.history_induction DeliveryLedger.step
    (P := fun calls L es => (L.health d).lastSuccess
      = (lastOk (records (history d es))).or (restoredIn d calls)) {} rfl ?_ calls
  intro calls L es c ih
  rw [history_append, records_append, lastOk_append, step_lastSuccess, ih, restoredIn,
    restoredIn, List.findSome?_append, List.findSome?_singleton]
  simp only [Option.or_assoc]

/-- Every call reports the records it appends to the listeners registered before it. -/
theorem step_reported (L : DeliveryLedger) (c : Call) : Reported L.listeners (L.step c).2 := by
  cases hu : c.op.uuid? with
  | none =>
    rw [(DeliveryLedger.step_global (L := L) hu default).1]
    exact .nil _
  | some u => exact (DeliveryLedger.actsOn_step (L := L) hu).own.reported

end CastDelivery
