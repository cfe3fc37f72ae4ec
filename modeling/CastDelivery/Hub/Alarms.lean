import CastDelivery.Health.Filing
import CastDelivery.Hub.Isolation
import CastDelivery.Hub.Run
import CastDelivery.Issues.Basic
import CastDelivery.Lib.Streak

/-!
# The two issues that follow records

`RepairManager.async_on_record` counts fetch failures and unreachable devices, resets both counts
on an `OK` and raises the issue of a count that has reached two. While it listens, the count of a
device is the number of records with the outcome since the last `OK`, and the issue is active
exactly from two on (`counts_run`).
-/

namespace CastDelivery

/-- The issues that `async_on_record` raises. -/
inductive Alarm
  | fetchFailed
  | unreachable
deriving DecidableEq, Repr

namespace Alarm

/-- The outcome that is counted. -/
def outcome : Alarm → DeliveryOutcome
  | fetchFailed => .fetchFailed
  | unreachable => .unreachable

/-- The issue of a device. -/
def issueId : Alarm → UUID → String
  | fetchFailed => fetchFailedId
  | unreachable => unreachableId

/-- The count of a device. -/
def count : Alarm → RepairManager → UUID → ℕ
  | fetchFailed => RepairManager.fetchFailures
  | unreachable => RepairManager.unreachable

/-- A record that counts. -/
def hit (a : Alarm) (r : DeliveryRecord) : Bool := r.outcome = a.outcome

theorem hit_iff {a : Alarm} {r : DeliveryRecord} : a.hit r = true ↔ r.outcome = a.outcome :=
  decide_eq_true_iff

end Alarm

/-- A record that does not reset the counts. -/
def notOk (r : DeliveryRecord) : Bool := r.outcome ≠ .ok

theorem Alarm.notOk_of_hit {a : Alarm} {r : DeliveryRecord} (h : a.hit r = true) :
    notOk r = true := by
  have ho : r.outcome = a.outcome := Alarm.hit_iff.mp h
  unfold notOk
  rw [ho]
  cases a <;> rfl

/-- The decisive records among some records. -/
def decisive (rs : List DeliveryRecord) : List DeliveryRecord := rs.filter Decisive

/-- The count of a device and its issue are those of its records. -/
structure Alarm.Counts (a : Alarm) (d : UUID) (m : RepairManager) (issues : IssueRegistry)
    (rs : List DeliveryRecord) : Prop where
  count : a.count m d = Streak.hits notOk a.hit (decisive rs)
  active : issues.Active (a.issueId d) ↔
    FETCH_FAILURES_BEFORE_ISSUE ≤ Streak.hits notOk a.hit (decisive rs)

namespace Alarm

variable {a : Alarm} {d : UUID} {m : RepairManager} {issues : IssueRegistry}
  {rs : List DeliveryRecord} {health : DeviceHealth} {r : DeliveryRecord}

/-- The count that a record leaves. -/
theorem count_asyncOnRecord (a : Alarm) (m : RepairManager) (issues : IssueRegistry)
    (health : DeviceHealth) (record : DeliveryRecord) :
    a.count (m.asyncOnRecord issues health record).1 health.uuid
      = if record.outcome = .ok then 0
        else if record.outcome = a.outcome then a.count m health.uuid + 1
        else a.count m health.uuid := by
  unfold RepairManager.asyncOnRecord
  cases a <;> cases ho : record.outcome <;>
    simp [count, outcome, RepairManager.fetchFailures, RepairManager.unreachable]

/-- The issue that a record leaves. -/
theorem active_asyncOnRecord (a : Alarm) (m : RepairManager) (issues : IssueRegistry)
    (health : DeviceHealth) (record : DeliveryRecord) :
    (m.asyncOnRecord issues health record).2.Active (a.issueId health.uuid) ↔
      record.outcome ≠ .ok ∧ (issues.Active (a.issueId health.uuid) ∨
        record.outcome = a.outcome ∧
          FETCH_FAILURES_BEFORE_ISSUE ≤ a.count m health.uuid + 1) := by
  have hfu : fetchFailedId health.uuid ≠ unreachableId health.uuid :=
    fetchFailedId_ne_unreachableId _ _
  unfold RepairManager.asyncOnRecord
  cases a <;> cases ho : record.outcome <;>
    simp only [issueId, count, outcome, IssueRegistry.active_delete, hfu, hfu.symm, reduceCtorEq,
      ne_eq, not_true_eq_false, not_false_eq_true, false_and, and_false, true_and, or_false]
  -- the two outcomes that count raise an issue when they reach the threshold
  case fetchFailed.fetchFailed | unreachable.unreachable =>
    split_ifs with hcount <;> simp [IssueRegistry.active_create, hcount]
  case fetchFailed.unreachable | unreachable.fetchFailed =>
    split_ifs <;> simp [IssueRegistry.active_create, hfu, hfu.symm]

/-- A record that is not decisive leaves counts and issues alone. -/
theorem asyncOnRecord_indecisive (h : Decisive r = false) :
    m.asyncOnRecord issues health r = (m, issues) := by
  unfold RepairManager.asyncOnRecord
  cases ho : r.outcome <;> simp_all [Decisive]

/-- Accounting for one more record of the device keeps the counts. -/
theorem Counts.account (h : a.Counts d m issues rs) (hd : health.uuid = d) (r : DeliveryRecord) :
    a.Counts d (m.asyncOnRecord issues health r).1 (m.asyncOnRecord issues health r).2
      (rs ++ [r]) := by
  subst hd
  cases hdecisive : Decisive r with
  | false =>
    rw [asyncOnRecord_indecisive hdecisive]
    have hsame : decisive (rs ++ [r]) = decisive rs := filter_decisive_concat_neg rs hdecisive
    exact ⟨by rw [hsame]; exact h.count, by rw [hsame]; exact h.active⟩
  | true =>
    have hmore : decisive (rs ++ [r]) = decisive rs ++ [r] :=
      filter_decisive_concat_pos rs hdecisive
    have hhits : Streak.hits notOk a.hit (decisive (rs ++ [r]))
        = if r.outcome = .ok then 0
          else if r.outcome = a.outcome then Streak.hits notOk a.hit (decisive rs) + 1
          else Streak.hits notOk a.hit (decisive rs) := by
      rw [hmore, Streak.hits_concat]
      by_cases hok : r.outcome = .ok
      · simp [notOk, hok]
      · by_cases hhit : r.outcome = a.outcome <;> simp [notOk, hit, hok, hhit]
    refine ⟨?_, ?_⟩
    · rw [count_asyncOnRecord, hhits, h.count]
    · rw [active_asyncOnRecord, hhits, h.active, h.count]
      unfold FETCH_FAILURES_BEFORE_ISSUE
      by_cases hok : r.outcome = .ok
      · simp [hok]
      · by_cases hhit : r.outcome = a.outcome
        · rw [if_neg hok, if_pos hhit, and_iff_right hok, and_iff_right hhit]
          omega
        · simp [hok, hhit]

/-- A record of another device leaves them alone. -/
theorem Counts.other (h : a.Counts d m issues rs) (hd : d ≠ health.uuid) (r : DeliveryRecord) :
    a.Counts d (m.asyncOnRecord issues health r).1 (m.asyncOnRecord issues health r).2 rs := by
  obtain ⟨hfetch, hunreachable, hfetchIssue, hunreachableIssue⟩ :=
    Hub.asyncOnRecord_other m issues r hd
  have hcount : a.count (m.asyncOnRecord issues health r).1 d = a.count m d := by
    cases a
    · exact congrArg (Option.getD · 0) hfetch
    · exact congrArg (Option.getD · 0) hunreachable
  have hissue : (m.asyncOnRecord issues health r).2.get? (a.issueId d)
      = issues.get? (a.issueId d) := by
    cases a
    · exact hfetchIssue
    · exact hunreachableIssue
  refine ⟨hcount.trans h.count, ?_⟩
  rw [← h.active]
  unfold IssueRegistry.Active
  rw [hissue]

end Alarm

/-! ## The calls of the repair manager -/

/-- What the repair manager is told, if it is called. -/
def Effect.toManager : Effect → Option (DeviceHealth × DeliveryRecord)
  | .called .repairManager health record => some (health, record)
  | _ => none

namespace Hub

variable {H : Hub} {c : Call}

theorem managed_runListener (env : Env) (H : Hub) (e : Effect) :
    ((H.runListener env e).repairs, (H.runListener env e).issues)
      = e.toManager.elim (H.repairs, H.issues)
          fun t => H.repairs.asyncOnRecord H.issues t.1 t.2 := by
  unfold runListener Effect.toManager
  split
  · split <;> rfl
  · rfl
  · next hcircuit hmanager =>
    split
    · exact absurd rfl (hmanager _ _)
    · rfl

/-- Some effects do to the counts and issues what their calls of the repair manager do. -/
theorem managed_runListeners (env : Env) (H : Hub) (es : List Effect) :
    ((H.runListeners env es).repairs, (H.runListeners env es).issues)
      = (es.filterMap Effect.toManager).foldl
          (fun s t => s.1.asyncOnRecord s.2 t.1 t.2) (H.repairs, H.issues) := by
  induction es generalizing H with
  | nil => rfl
  | cons e es ih =>
    have hfirst := managed_runListener env H e
    have hrest := ih (H.runListener env e)
    rw [hfirst] at hrest
    rw [show H.runListeners env (e :: es) = (H.runListener env e).runListeners env es from rfl,
      hrest]
    cases htold : e.toManager with
    | none => rw [List.filterMap_cons_none htold]; rfl
    | some t => rw [List.filterMap_cons_some htold]; rfl

theorem toManager_recorded {ls : List Listener} (hls : ls.Nodup) (hmem : .repairManager ∈ ls)
    (h : DeviceHealth) (r : DeliveryRecord) (q : Option Request) :
    (recorded ls h r q).filterMap Effect.toManager = [(h, r)] := by
  have hone : ls.filterMap (fun l => Effect.toManager (.called l h r)) = [(h, r)] := by
    induction ls with
    | nil => cases hmem
    | cons l ls ih =>
      obtain ⟨hnot, hrest⟩ := List.nodup_cons.mp hls
      by_cases hl : l = .repairManager
      · subst hl
        have hnone : ls.filterMap (fun l => Effect.toManager (.called l h r)) = [] := by
          refine List.filterMap_eq_nil_iff.mpr fun l hl => ?_
          cases l with
          | repairManager => exact absurd hl hnot
          | _ => rfl
        rw [List.filterMap_cons_some (f := fun l => Effect.toManager (.called l h r)) rfl, hnone]
      · have hmem' := (List.mem_cons.mp hmem).resolve_left (Ne.symm hl)
        have hsilent : Effect.toManager (.called l h r) = none := by
          cases l with
          | repairManager => exact absurd rfl hl
          | _ => rfl
        rw [List.filterMap_cons_none (f := fun l => Effect.toManager (.called l h r)) hsilent]
        exact ih hrest hmem'
  unfold recorded
  rw [List.filterMap_append, List.filterMap_map]
  exact hone

/-- **A call tells the repair manager about its record, once.** -/
theorem toManager_step {L : DeliveryLedger} (hls : L.listeners.Nodup)
    (hmem : .repairManager ∈ L.listeners) (c : Call) :
    (L.step c).2.filterMap Effect.toManager = [] ∧ (∀ e ∈ (L.step c).2, e.record? = none) ∨
      ∃ r h, DeliveryLedger.Records L c r h ∧
        (L.step c).2.filterMap Effect.toManager = [(h, r)] := by
  rcases DeliveryLedger.files_told L c with hnone | ⟨r, h, hrecords⟩
  · refine .inl ⟨List.filterMap_eq_nil_iff.mpr fun e he => ?_, hnone⟩
    have hrecord := hnone e he
    cases e with
    | called l h r => cases hrecord
    | _ => rfl
  · refine .inr ⟨r, h, hrecords, ?_⟩
    -- the effects are those of one record, after which a request may begin
    have htold : ∀ t ∈ (L.step c).2.filterMap Effect.toManager, t = (h, r) := by
      intro t ht
      obtain ⟨e, he, hte⟩ := List.mem_filterMap.mp ht
      unfold Effect.toManager at hte
      split at hte
      · next h' r' =>
        obtain ⟨-, rfl, rfl⟩ := (hrecords.called _ _ _).mp he
        exact (Option.some.inj hte).symm
      · cases hte
    have hone : ∀ h' r', (L.step c).2.filterMap Effect.toManager = [(h', r')] →
        (L.step c).2.filterMap Effect.toManager = [(h, r)] := by
      intro h' r' heq
      rw [heq]
      congr 1
      exact htold _ (heq ▸ List.mem_singleton_self _)
    have hfiles := DeliveryLedger.files_step L c
    have honly := hrecords.only
    generalize L.step c = s at hfiles honly hone ⊢
    cases hfiles with
    | silent | begun => cases honly
    | noted | resolved => exact hone _ _ (toManager_recorded hls hmem _ _ _)
    | superseded L' u p dl q =>
      -- the request that begins tells the manager nothing
      have hbegun : [Effect.begun u q].filterMap Effect.toManager = [] := rfl
      refine hone ((L.health u).withoutPending.account ((L.health u).deliveryRecord c.env dl))
        ((L.health u).deliveryRecord c.env dl) ?_
      rw [List.filterMap_append, toManager_recorded hls hmem, hbegun, List.append_nil]

/-! ## Runs -/

variable {a : Alarm} {d : UUID} {rs : List DeliveryRecord}

/-- The counts and issues of a device in a hub are those of its records. -/
def Counts (a : Alarm) (d : UUID) (H : Hub) (rs : List DeliveryRecord) : Prop :=
  a.Counts d H.repairs H.issues rs

/-- **What a call does to the counts and issues** of a device is to account for its record. -/
theorem Counts.call (h : Counts a d H rs) (hls : H.ledger.listeners.Nodup)
    (hmem : .repairManager ∈ H.ledger.listeners) (c : Call) :
    Counts a d (H.call c).1 (rs ++ records (history d (H.ledger.step c).2)) := by
  have hfold := managed_runListeners c.env { H with ledger := (H.ledger.step c).1 }
    (H.ledger.step c).2
  unfold Counts
  rcases toManager_step hls hmem c with ⟨hnone, hsilent⟩ | ⟨r, g, hrecords, hone⟩
  · have hnil : records (history d (H.ledger.step c).2) = [] := by
      rw [List.eq_nil_iff_forall_not_mem]
      intro r hr
      obtain ⟨q, hq⟩ := mem_records.mp hr
      have hcontra := hsilent _ (List.mem_of_mem_filter hq)
      cases hcontra
    rw [hnone] at hfold
    obtain ⟨hrepairs, hissues⟩ := Prod.mk.inj hfold
    rw [hnil, List.append_nil, show (H.call c).1.repairs = H.repairs from hrepairs,
      show (H.call c).1.issues = H.issues from hissues]
    exact h
  · rw [hone] at hfold
    obtain ⟨hrepairs, hissues⟩ := Prod.mk.inj hfold
    rw [show (H.call c).1.repairs = (H.repairs.asyncOnRecord H.issues g r).1 from hrepairs,
      show (H.call c).1.issues = (H.repairs.asyncOnRecord H.issues g r).2 from hissues]
    by_cases hd : r.uuid = d
    · have honly := hrecords.history
      rw [hd] at honly
      rw [honly]
      exact Alarm.Counts.account h (hrecords.told.uuid.symm.trans hd) r
    · have hnil : records (history d (H.ledger.step c).2) = [] := by
        rw [List.eq_nil_iff_forall_not_mem]
        intro r' hr'
        obtain ⟨q, hq⟩ := mem_records.mp hr'
        obtain ⟨he, habout⟩ := List.mem_filter.mp hq
        obtain rfl := hrecords.about _ he r' rfl
        exact hd (of_decide_eq_true habout)
      rw [hnil, List.append_nil]
      have hother : d ≠ g.uuid := by
        rw [← hrecords.told.uuid]
        exact Ne.symm hd
      exact Alarm.Counts.other h hother r

/-- **While the repair manager listens**, its counts and issues are those of the records. -/
theorem counts_run (H : Hub) {is : List HubInput} (his : ∀ i ∈ is, i.Closed)
    (hls : H.ledger.listeners.Nodup) (h : Counts a d H rs)
    (hmem : .repairManager ∈ (Machine.final step H is).ledger.listeners) :
    Counts a d (Machine.final step H is)
      (rs ++ records (history d (Machine.emitted step H is))) := by
  induction is generalizing H rs with
  | nil =>
    rw [Machine.emitted_nil]
    simpa [history, records] using h
  | cons i is ih =>
    have hrest : ∀ j ∈ is, j.Closed := fun j hj => his j (List.mem_cons_of_mem _ hj)
    have hsub := H.listeners_step (his i List.mem_cons_self)
    have hnext : .repairManager ∈ (H.step i).1.ledger.listeners :=
      ((H.step i).1.listeners_run hrest).subset hmem
    rw [Machine.emitted_cons, history_append, records_append, ← List.append_assoc]
    refine ih (H.step i).1 hrest (hls.sublist hsub) ?_ hmem
    cases i with
    | call c => exact h.call hls (hsub.subset hnext) c
    | applyOptions options =>
      rw [step, history, List.filter_nil, records, List.filterMap_nil, List.append_nil]
      exact h

end Hub

end CastDelivery
