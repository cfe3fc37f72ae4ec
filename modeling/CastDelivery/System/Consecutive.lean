import CastDelivery.Hub.Alarms
import CastDelivery.System.Tasks

/-!
# Two failures in a row

The documentation raises an issue after two consecutive outcomes of one kind, while the repair
manager counts outcomes of a kind since the last `OK`, whatever came in between.
`issue_iff_consecutive_iff` is the exact condition under which the two are the same: whenever a
record of the kind is the second one since the last `OK`, the decisive record just before it was
the first.
-/

namespace CastDelivery
namespace System

variable {S : System} {i : Input} {d : UUID}

/-! ## One record for each device in an event -/

theorem length_records_ledgerCall (S : System) (c : Call) (d : UUID) :
    (records (history d (ledgerEffects (S.ledgerCall c).2))).length ≤ 1 := by
  rw [show ledgerEffects (S.ledgerCall c).2 = (S.ledger.step c).2 from ledgerEffects_map _]
  have hsub : (records (history d (S.ledger.step c).2)).Sublist
      (records (S.ledger.step c).2) := List.filter_sublist.filterMap _
  exact hsub.length_le.trans (DeliveryLedger.length_records_step S.ledger c)

theorem length_records_actOn (S : System) (env : Env) (cycle : Cycle) (url : String) (u : UUID)
    (decision : Decision) (d : UUID) :
    (records (history d (ledgerEffects (S.actOn env cycle url u decision).2))).length ≤ 1 := by
  unfold actOn
  split
  · exact length_records_ledgerCall { S with running := _, probes := _ } _ d
  · split
    · exact length_records_ledgerCall S _ d
    · exact Nat.zero_le 1

theorem length_records_refreshDevice (S : System) (env : Env) (cycle : Cycle) (url : String)
    (u : UUID) (d : UUID) :
    (records (history d (ledgerEffects (S.refreshDevice env cycle url u).1.2))).length ≤ 1 := by
  have hknown : ledgerEffects (S.ledgerCall ⟨env, .device u⟩).2 = [] := ledgerEffects_map _
  unfold refreshDevice
  simp only
  rw [ledgerEffects_append, hknown, List.nil_append]
  exact length_records_actOn _ env cycle url u _ d

theorem length_records_refreshDevices (env : Env) (cycle : Cycle) (url : String) {us : List UUID}
    (hus : us.Nodup) (S : System) (results : Dict UUID ProbeResult) (d : UUID) :
    (records (history d
      (ledgerEffects (refreshDevices env cycle url us S results).1.2))).length ≤ 1 := by
  induction us generalizing S results with
  | nil => exact Nat.zero_le 1
  | cons u us ih =>
    obtain ⟨hnot, hrest⟩ := List.nodup_cons.mp hus
    simp only [refreshDevices]
    rw [ledgerEffects_append, history_append, records_append]
    by_cases hd : d = u
    · -- after its turn the device does not come again
      have helse := elsewhere_refreshDevices env cycle url (hd ▸ hnot)
        (S.refreshDevice env cycle url u).1.1 (results.set u (S.refreshDevice env cycle url u).2)
      rw [helse.silent, show records [] = [] from rfl, List.append_nil]
      exact length_records_refreshDevice S env cycle url u d
    · rw [(elsewhere_refreshDevice env cycle url S hd).silent]
      exact ih hrest _ _

/-- **An event appends at most one record for a device.** -/
theorem length_records_event (S : System) (i : Input) (d : UUID) :
    (records (history d (ledgerEffects (S.step i).2))).length ≤ 1 := by
  have hmove := move_step S i
  generalize S.step i = r at hmove ⊢
  cases hmove with
  | idle | options => exact Nat.zero_le 1
  | call c plays => exact length_records_ledgerCall { S with plays := plays } c d
  | cycle cycle url results =>
    exact length_records_refreshDevices i.env cycle url S.targets.nodup S results d
  | wait =>
    rw [ledgerEffects_waitProbe]
    exact Nat.zero_le 1
  | fail p err =>
    rw [ledgerEffects_append, ledgerEffects_finishProbe, List.append_nil]
    exact length_records_ledgerCall S _ d
  | finish =>
    rw [ledgerEffects_finishProbe]
    exact Nat.zero_le 1

/-! ## Runs of one set-up -/

/-- A set-up that finds some issues in the registry. -/
def setUpWith (options : StoredOptions) (issues : IssueRegistry) : System :=
  { setUp options with issues := issues }

variable {options : StoredOptions} {issues : IssueRegistry} {a : Alarm}

/-- The decisive records of a device in a run from the set-up. -/
def decisiveOf (options : StoredOptions) (issues : IssueRegistry) (d : UUID)
    (run : List Input) : List DeliveryRecord :=
  decisive (records (history d
    (ledgerEffects (Machine.emitted step (setUpWith options issues) run))))

/-- The repair manager has not been removed from the listeners in a run. -/
def Managed (options : StoredOptions) (issues : IssueRegistry) (run : List Input) : Prop :=
  .repairManager ∈ (Machine.final step (setUpWith options issues) run).ledger.listeners

theorem Managed.of_concat {run : List Input} (h : Managed options issues (run ++ [i])) :
    Managed options issues run := by
  unfold Managed at h ⊢
  rw [Machine.final_concat] at h
  obtain ⟨is, hhub, -, hclosed⟩ := driven_step (Machine.final step (setUpWith options issues) run) i
  rw [hhub] at h
  exact (Hub.listeners_run _ hclosed).subset h

/-- **The issue of a device** is active exactly if two records with its outcome were counted. -/
theorem active_iff_hits (hclear : ¬ issues.Active (a.issueId d)) {run : List Input}
    (hmanaged : Managed options issues run) :
    (Machine.final step (setUpWith options issues) run).issues.Active (a.issueId d) ↔
      2 ≤ Streak.hits notOk a.hit (decisiveOf options issues d run) := by
  obtain ⟨is, hhub, heffects, hclosed⟩ := driven_run (setUpWith options issues) run
  have hfirst : Hub.Counts a d (setUpWith options issues).toHub [] := by
    refine ⟨?_, iff_of_false hclear (by cases a <;> decide)⟩
    cases a <;> rfl
  unfold Managed at hmanaged
  rw [hhub] at hmanaged
  have hls : (setUpWith options issues).ledger.listeners.Nodup := by simp [setUpWith, setUp]
  have hcounts := Hub.counts_run (setUpWith options issues).toHub hclosed hls hfirst hmanaged
  rw [← heffects, List.nil_append] at hcounts
  show (Machine.final step (setUpWith options issues) run).toHub.issues.Active _ ↔ _
  rw [hhub]
  exact hcounts.active

/-- One more event adds at most one decisive record. -/
theorem decisiveOf_concat (options : StoredOptions) (issues : IssueRegistry) (d : UUID)
    (run : List Input) (i : Input) :
    decisiveOf options issues d (run ++ [i])
      = decisiveOf options issues d run ++ decisive (records (history d
          (ledgerEffects ((Machine.final step (setUpWith options issues) run).step i).2))) := by
  unfold decisiveOf decisive
  rw [Machine.emitted_concat, ledgerEffects_append, history_append, records_append,
    List.filter_append]

/-! ## Counted and consecutive -/

/-- While the repair manager listens, the issue is active if and only if two neighbours among the
decisive records after the last `OK` both have its outcome. -/
def FollowsTwo (options : StoredOptions) (issues : IssueRegistry) (d : UUID) (a : Alarm)
    (run : List Input) : Prop :=
  Managed options issues run →
    ((Machine.final step (setUpWith options issues) run).issues.Active (a.issueId d) ↔
      Streak.Adjacent a.hit ((decisiveOf options issues d run).rtakeWhile notOk))

/-- Where an event appends the second record of a kind since the last `OK`, the decisive record
before it is the first one. -/
def SecondFollowsFirst (options : StoredOptions) (issues : IssueRegistry) (d : UUID) (a : Alarm)
    (run : List Input) (i : Input) : Prop :=
  Managed options issues (run ++ [i]) →
    (∃ r ∈ records (history d (ledgerEffects
      ((Machine.final step (setUpWith options issues) run).step i).2)), r.outcome = a.outcome) →
    Streak.hits notOk a.hit (decisiveOf options issues d run) = 1 →
    ∃ r, (decisiveOf options issues d run).getLast? = some r ∧ r.outcome = a.outcome

theorem decisive_of_hit {r : DeliveryRecord} (h : a.hit r = true) : Decisive r = true := by
  have ho : r.outcome = a.outcome := Alarm.hit_iff.mp h
  unfold Decisive
  rw [ho]
  cases a <;> rfl

theorem followsTwo_concat (hclear : ¬ issues.Active (a.issueId d)) {run : List Input}
    (h : FollowsTwo options issues d a run) (i : Input) :
    FollowsTwo options issues d a (run ++ [i]) ↔
      SecondFollowsFirst options issues d a run i := by
  unfold FollowsTwo SecondFollowsFirst
  refine forall_congr' fun hmanaged => ?_
  have hbefore := h hmanaged.of_concat
  rw [active_iff_hits hclear hmanaged.of_concat] at hbefore
  rw [active_iff_hits hclear hmanaged, decisiveOf_concat]
  -- the event appends one record at most
  cases hrecords : records (history d (ledgerEffects
      ((Machine.final step (setUpWith options issues) run).step i).2)) with
  | nil =>
    refine iff_of_true ?_ (by simp)
    rw [show decisive [] = [] from rfl, List.append_nil]
    exact hbefore
  | cons r rs =>
    have hlength := length_records_event
      (Machine.final step (setUpWith options issues) run) i d
    rw [hrecords, List.length_cons] at hlength
    obtain rfl : rs = [] := List.eq_nil_of_length_eq_zero (by omega)
    have hhit : (∃ r' ∈ [r], r'.outcome = a.outcome) ↔ r.outcome = a.outcome := by simp
    rw [hhit]
    cases hdecisive : Decisive r with
    | false =>
      have hmiss : ¬ r.outcome = a.outcome := by
        intro hr
        rw [decisive_of_hit (Alarm.hit_iff.mpr hr)] at hdecisive
        cases hdecisive
      refine iff_of_true ?_ fun hr => absurd hr hmiss
      rw [show decisive [r] = [] from List.filter_cons_of_neg (by simp [hdecisive]),
        List.append_nil]
      exact hbefore
    | true =>
      rw [show decisive [r] = [r] from List.filter_cons_of_pos hdecisive]
      have hstreak := Streak.agrees_concat (fun _ => Alarm.notOk_of_hit) hbefore r
      simp only [Alarm.hit_iff] at hstreak
      exact hstreak

/-- **The issues follow two consecutive outcomes** in a run of a set-up that finds neither of them
active if and only if, in the run, a second record of a kind since the last `OK` always follows
the first without another decisive record in between. -/
theorem issue_iff_consecutive_iff (options : StoredOptions) {issues : IssueRegistry} {d : UUID}
    (hclear : ∀ a : Alarm, ¬ issues.Active (a.issueId d)) (run : List Input) :
    (∀ before, before <+: run → ∀ a, FollowsTwo options issues d a before) ↔
      ∀ before i, before ++ [i] <+: run → ∀ a, SecondFollowsFirst options issues d a before i := by
  refine Machine.forall_prefix_iff (fun a _ => ?_) (fun before i h => ?_) run
  · refine iff_of_false (hclear a) fun hpair => ?_
    have htwo := Streak.two_le_of_adjacent hpair
    contradiction
  · exact forall_congr' fun a => followsTwo_concat (hclear a) (h a) i

/-- A status of a speaker that reports a failed load. -/
def errorStatus (s : Int) : Input :=
  ⟨.bare s, .callback (.mediaStatus ⟨1⟩ ⟨⟨none, some "IDLE", some "ERROR", none⟩, true⟩)
    (Eq.refl true)⟩

/-- Two failed loads, one right after the other, raise the issue of two in a row. -/
theorem issue_iff_consecutive_twoErrors :
    FollowsTwo {} ∅ ⟨1⟩ .fetchFailed [errorStatus 1, errorStatus 2] := by
  have hclear : ∀ a : Alarm, ¬ IssueRegistry.Active ∅ (a.issueId ⟨1⟩) := by
    intro a
    cases a <;> decide
  refine (issue_iff_consecutive_iff {} hclear [errorStatus 1, errorStatus 2]).mpr
    (fun before i hprefix a _ _ hone => ?_) _ (List.prefix_refl _) .fetchFailed
  have hlength : before.length + 1 ≤ 2 := by simpa using hprefix.length_le
  cases before with
  | nil =>
    cases a <;> revert hone <;> decide
  | cons first rest =>
    obtain rfl : rest = [] := List.eq_nil_of_length_eq_zero (by simpa using hlength)
    obtain ⟨rfl, -⟩ := List.cons_prefix_cons.mp hprefix
    cases a with
    | fetchFailed =>
      have hlast : (decisiveOf {} ∅ ⟨1⟩ [errorStatus 1]).getLast?.any
          (fun r => r.outcome = Alarm.fetchFailed.outcome) = true := by decide
      simpa only [Option.any_eq_true, decide_eq_true_eq] using hlast
    | unreachable => revert hone; decide

/-- A failed load, a request that times out, and another failed load. -/
def errorTimeoutError : List Input :=
  [errorStatus 1, ⟨.bare 2, .play ⟨1⟩ "http://ha/song.mp3" .playMedia none⟩,
    ⟨.bare 32, .callback (.expire ⟨⟨1⟩, 0, DELIVERY_TIMEOUT⟩) (Eq.refl true)⟩, errorStatus 40]

/-- The timeout in between does not keep the issue from being raised. -/
theorem not_followsTwo : ¬ FollowsTwo {} ∅ ⟨1⟩ .fetchFailed errorTimeoutError := by
  intro h
  have hactive := (h (by unfold Managed; decide)).mp (by decide)
  revert hactive
  decide

end System

end CastDelivery
