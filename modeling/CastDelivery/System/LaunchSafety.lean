import CastDelivery.Hub.Circuit
import CastDelivery.System.Tasks

/-!
# When probes are launched

`launch_safety`: in every run with a clock that does not go back, no two probes are in flight on
one device, and from the record that opens the circuit of a device until its backoff has passed
no probe is launched there.

The second part rests on `Shut`: the circuit is open until some time and no request of a probe is
pending. Without such a request no record of a probe is `OK` or `TIMEOUT`, so the breaker assigns
nothing, and while the circuit is open no cycle begins such a request.
-/

namespace CastDelivery
namespace System

variable {S : System} {i : Input} {d u : UUID} {x : Monotonic} {c : Call}

/-! ## One probe for each device -/

/-- The devices of the probes in flight. -/
def probed (S : System) : List UUID := S.probes.map fun t => t.1.uuid

theorem probed_setStage (S : System) (p : Probe) (stage : Stage) :
    (S.setStage p stage).probed = S.probed := by
  unfold probed setStage
  rw [List.map_map]
  refine List.map_congr_left fun t _ => ?_
  simp only [Function.comp]
  split
  · next hp => rw [hp]
  · rfl

theorem probed_finishProbe (S : System) (p : Probe) :
    (S.finishProbe p).1.probed.Sublist S.probed := by
  unfold probed
  rw [probes_finishProbe]
  exact List.filter_sublist.map _

/-- No two probes in flight are on one device, and the running set has their devices. -/
structure OneEach (S : System) : Prop where
  tracked : Tracked S
  nodup : S.probed.Nodup

theorem OneEach.congr {S' : System} (h : OneEach S) (hprobes : S'.probes = S.probes)
    (hrunning : S'.running = S.running) : OneEach S' :=
  ⟨h.tracked.congr hprobes hrunning, by unfold probed; rw [hprobes]; exact h.nodup⟩

theorem OneEach.finishProbe (h : OneEach S) {p : Probe} {stage : Stage}
    (hp : (p, stage) ∈ S.probes) : OneEach (S.finishProbe p).1 :=
  ⟨h.tracked.finishProbe hp, h.nodup.sublist (probed_finishProbe S p)⟩

theorem OneEach.waitProbe (h : OneEach S) {p : Probe} {stage : Stage}
    (hp : (p, stage) ∈ S.probes) (env : Env) (deadline : Monotonic) :
    OneEach (S.waitProbe env p deadline).1 := by
  refine ⟨h.tracked.waitProbe hp env deadline, ?_⟩
  unfold System.waitProbe
  split
  · rw [probed_setStage]
    exact h.nodup
  · split
    · rw [probed_setStage]
      exact h.nodup
    · exact h.nodup.sublist (probed_finishProbe S p)

theorem OneEach.launchProbe (h : OneEach S) (hu : u ∉ S.running) (env : Env)
    (snapshot : ProbeSnapshot) (url : String) : OneEach (S.launchProbe env u snapshot url).1 := by
  refine ⟨h.tracked.launchProbe hu env snapshot url, ?_⟩
  have hnot : u ∉ S.probed := by
    intro hmem
    obtain ⟨t, ht, rfl⟩ := List.mem_map.mp hmem
    exact hu (h.tracked.running t ht)
  have hprobed : (S.launchProbe env u snapshot url).1.probed = S.probed ++ [u] := by
    unfold probed System.launchProbe
    exact List.map_append
  rw [hprobed, List.nodup_append]
  refine ⟨h.nodup, List.nodup_singleton u, fun v hv w hw hvw => ?_⟩
  rw [List.mem_singleton.mp hw] at hvw
  exact hnot (hvw ▸ hv)

theorem OneEach.refreshDevice (h : OneEach S) (env : Env) (cycle : Cycle) (url : String)
    (u : UUID) : OneEach (S.refreshDevice env cycle url u).1.1 := by
  have hknown : OneEach (S.ledgerCall ⟨env, .device u⟩).1 := h.congr rfl rfl
  unfold System.refreshDevice actOn
  simp only
  split
  · next snapshot hdecision =>
    exact hknown.launchProbe (notRunning_of_decision hdecision) env _ _
  · split
    · exact hknown.congr rfl rfl
    · exact hknown

theorem OneEach.refreshDevices (env : Env) (cycle : Cycle) (url : String) (us : List UUID)
    (h : OneEach S) (results : Dict UUID ProbeResult) :
    OneEach (refreshDevices env cycle url us S results).1.1 := by
  induction us generalizing S results with
  | nil => exact h
  | cons u us ih => exact ih (h.refreshDevice env cycle url u) _

theorem oneEach_step (S : System) (i : Input) (h : OneEach S) : OneEach (S.step i).1 := by
  have hmove := move_step S i
  generalize S.step i = r at hmove ⊢
  cases hmove with
  | idle _ running probes => exact h.congr probes running
  | options | call => exact h.congr rfl rfl
  | cycle cycle url results => exact (h.refreshDevices i.env cycle url _ results).congr rfl rfl
  | wait p stage deadline hp => exact h.waitProbe hp _ _
  | fail p err hp =>
    have hcall : OneEach (S.ledgerCall ⟨i.env, .requestFailed p.uuid err none none⟩).1 :=
      h.congr rfl rfl
    exact hcall.finishProbe hp
  | finish p stage hp => exact h.finishProbe hp

theorem oneEach_after (options : StoredOptions) (run : List Input) :
    OneEach (after options run) :=
  Machine.final_invariant step oneEach_step (s := setUp options)
    ⟨⟨by simp [setUp], by simp [setUp]⟩, List.nodup_nil⟩ run

/-! ## An open circuit -/

/-- The circuit of a device is open until `x`, and no request of a probe is pending there. -/
structure Shut (S : System) (d : UUID) (x : Monotonic) : Prop where
  circuit : (S.ledger.health d).circuitOpenUntil = some x
  noProbe : NoProbePending (S.ledger.health d)

theorem Shut.congr {S' : System} (h : Shut S d x)
    (hhealth : S'.ledger.health d = S.ledger.health d) : Shut S' d x :=
  ⟨hhealth ▸ h.circuit, hhealth ▸ h.noProbe⟩

theorem NoProbePending.source {h : DeviceHealth} (hnone : NoProbePending h)
    {p : PendingRequest} (hp : h.pending = some p) : p.source ≠ .probe := by
  simpa [NoProbePending, hp] using hnone

/-- The records that `_decide` makes say nothing to the breaker. -/
theorem recordCall_outcome (call : RecordCall) :
    call.outcome ≠ .ok ∧ call.outcome ≠ .timeout := by
  cases call <;> simp [RecordCall.outcome]

/-- Without a request of a probe the breaker assigns nothing. -/
theorem assigned_of_noProbe (hnone : NoProbePending (S.ledger.health d)) {e : Effect}
    (he : e ∈ (S.ledger.step c).2) : Hub.assigned c.env S.options d e = none := by
  by_contra hassigns
  obtain ⟨value, hvalue⟩ := Option.ne_none_iff_exists'.mp hassigns
  obtain ⟨health, record, rfl, rfl, hrecord⟩ := Hub.assigned_eq_some.mp hvalue
  obtain ⟨hprobe, hdecisive⟩ := ProbeOptions.asyncOnRecord_some hrecord
  have htold := DeliveryLedger.told_step he
  rcases htold.source with (hobserved | ⟨call, hop, -⟩) | ⟨p, hp, hsource, -⟩
  · rw [hprobe] at hobserved
    cases hobserved
  · -- a call of `async_record` never has one of the two outcomes
    have houtcome := htold.outcome
    rw [hop] at houtcome
    obtain ⟨hok, htimeout⟩ := recordCall_outcome call
    rcases hdecisive with ⟨h, -⟩ | ⟨h, -⟩
    · exact hok ((Option.some.inj houtcome).trans h)
    · exact htimeout ((Option.some.inj houtcome).trans h)
  · exact hnone.source hp (hsource ▸ hprobe)

/-- A call that begins no request of a probe leaves none pending where none was. -/
theorem noProbe_ledgerCall (hnone : NoProbePending (S.ledger.health d))
    (hc : ∀ u contentId session timeout,
      c.op ≠ .beginRequest u contentId .probe session timeout) :
    NoProbePending ((S.ledgerCall c).1.ledger.health d) := by
  have hnothing : ∀ q, (S.ledger.health d).request = some q →
      (S.ledger.health d).request = some q ∨ q ∈ Slot.opened (slotEvents []) :=
    fun _ h => .inl h
  have hrequest := Hub.stable_step (d := d)
    (stable_request (S.ledger.health d).request) S.toHub (.call c) hnothing
  unfold NoProbePending
  rw [Option.any_eq_false]
  intro p hp
  rw [decide_eq_false_iff_not]
  intro hsource
  have hq : ((S.toHub.step (.call c)).1.ledger.health d).request = some p.toRequest := by
    rw [DeviceHealth.request]
    exact congrArg (Option.map PendingRequest.toRequest) hp
  -- the pending request was pending before, or this call has begun it
  rcases hrequest p.toRequest hq with hbefore | hbegun
  · obtain ⟨p', hp', heq⟩ := Option.map_eq_some_iff.mp hbefore
    have hsource' : p'.source = p.source := congrArg Request.source heq
    exact hnone.source hp' (hsource'.trans hsource)
  · obtain ⟨v, hv⟩ := mem_opened.mp hbegun
    have hopened : p.toRequest ∈ Slot.opened (slotEvents (S.ledger.step c).2) :=
      mem_opened.mpr ⟨v, List.mem_of_mem_filter hv⟩
    obtain ⟨u, contentId, session, timeout, hop⟩ := DeliveryLedger.begun_step hopened
    rw [hsource] at hop
    exact hc u contentId session timeout hop

theorem Shut.ledgerCall (h : Shut S d x)
    (hc : ∀ u contentId session timeout,
      c.op ≠ .beginRequest u contentId .probe session timeout) :
    Shut (S.ledgerCall c).1 d x where
  circuit := (Hub.circuit_call_of_none fun _ he => assigned_of_noProbe h.noProbe he).trans
    h.circuit
  noProbe := noProbe_ledgerCall h.noProbe hc

theorem launched_notMem_finishProbe (S : System) (p P : Probe) :
    .launched P ∉ (S.finishProbe p).2 := by
  intro hP
  cases outputs_finishProbe hP

theorem launched_notMem_waitProbe (S : System) (env : Env) (p P : Probe) (deadline : Monotonic) :
    .launched P ∉ (S.waitProbe env p deadline).2 := by
  unfold waitProbe
  split
  · simp
  · split
    · simp
    · simpa using launched_notMem_finishProbe S p P

/-! ## Cycles and an open circuit -/

/-- What keeps the circuit of a device open until `x` and launches nothing there. -/
structure Holding (d : UUID) (x : Monotonic) (r : System × List Output) : Prop where
  shut : Shut r.1 d x
  quiet : ∀ P, .launched P ∈ r.2 → P.uuid ≠ d

/-- While the circuit is open, the turn of the device launches nothing. -/
theorem Shut.refreshDevice (h : Shut S d x) {env : Env} (ht : env.monotonic < x) (cycle : Cycle)
    (url : String) (u : UUID) : Holding d x (S.refreshDevice env cycle url u).1 := by
  by_cases hu : d = u
  · subst hu
    have hknown : Shut (S.ledgerCall ⟨env, .device d⟩).1 d x :=
      h.ledgerCall (by simp)
    have hquiet : ∀ P, .launched P ∉ (S.ledgerCall ⟨env, .device d⟩).2 :=
      launched_notMem_ledgerCall S _
    unfold System.refreshDevice actOn
    simp only
    split
    · next snapshot hdecision =>
      -- a probe is due only once the circuit has been open long enough
      have hdue := decide_eq_probe.mp hdecision
      exact absurd (hdue.circuit x hknown.circuit) (Int.not_le.mpr ht)
    · split
      · refine ⟨hknown.ledgerCall (by simp), fun P hP => ?_⟩
        rcases List.mem_append.mp hP with hP | hP
        · exact absurd hP (hquiet P)
        · exact absurd hP (launched_notMem_ledgerCall _ _ P)
      · exact ⟨hknown, fun P hP => absurd hP (by simpa using hquiet P)⟩
  · have helse := elsewhere_refreshDevice env cycle url S hu
    exact ⟨h.congr helse.health, helse.launched⟩

theorem Shut.refreshDevices {env : Env} (ht : env.monotonic < x) (cycle : Cycle) (url : String)
    (us : List UUID) (h : Shut S d x) (results : Dict UUID ProbeResult) :
    Holding d x (refreshDevices env cycle url us S results).1 := by
  induction us generalizing S results with
  | nil => exact ⟨h, by simp [System.refreshDevices]⟩
  | cons u us ih =>
    have hfirst := h.refreshDevice ht cycle url u
    have hrest := ih hfirst.shut (results.set u (S.refreshDevice env cycle url u).2)
    refine ⟨hrest.shut, fun P hP => ?_⟩
    rcases List.mem_append.mp hP with hP | hP
    · exact hfirst.quiet P hP
    · exact hrest.quiet P hP

/-- **While the circuit of a device is open, an event launches no probe there and leaves it
open.** -/
theorem Shut.step (h : Shut S d x) (ht : i.env.monotonic < x) : Holding d x (S.step i) := by
  have hmove := move_step S i
  generalize S.step i = r at hmove ⊢
  cases hmove with
  | idle hub => exact ⟨h.congr (by rw [hub]), by simp⟩
  | options => exact ⟨h.congr rfl, by simp⟩
  | call c plays hc =>
    have hshut : Shut { S with plays := plays } d x := h.congr rfl
    exact ⟨hshut.ledgerCall fun u _ _ _ => callOf_user hc u _ _ _,
      fun P hP => absurd hP (launched_notMem_ledgerCall _ c P)⟩
  | cycle cycle url results =>
    have hcycle := h.refreshDevices ht cycle url S.targets.keys results
    exact ⟨hcycle.shut.congr rfl, hcycle.quiet⟩
  | wait p stage deadline =>
    exact ⟨h.congr (by rw [toHub_waitProbe]),
      fun P hP => absurd hP (launched_notMem_waitProbe S _ p P deadline)⟩
  | fail p err =>
    have hcall : Shut (S.ledgerCall ⟨i.env, .requestFailed p.uuid err none none⟩).1 d x :=
      h.ledgerCall (by simp)
    refine ⟨hcall.congr (by rw [toHub_finishProbe]), fun P hP => ?_⟩
    rcases List.mem_append.mp hP with hP | hP
    · exact absurd hP (launched_notMem_ledgerCall S _ P)
    · exact absurd hP (launched_notMem_finishProbe _ p P)
  | finish p =>
    exact ⟨h.congr (by rw [toHub_finishProbe]),
      fun P hP => absurd hP (launched_notMem_finishProbe S p P)⟩

/-! ## The record that opens a circuit -/

/-- Some effect calls the breaker with a record that opens the circuit of a device for `backoff`
seconds. -/
def OpensIn (env : Env) (options : ProbeOptions) (d : UUID) (backoff : ℕ) (es : List Effect) :
    Prop :=
  ∃ e ∈ es, Hub.assigned env options d e = some (some (env.monotonic + backoff * second))

instance (env : Env) (options : ProbeOptions) (d : UUID) (backoff : ℕ) (es : List Effect) :
    Decidable (OpensIn env options d backoff es) :=
  inferInstanceAs (Decidable (∃ e ∈ es,
    Hub.assigned env options d e = some (some (env.monotonic + backoff * second))))

/-- A record opens the circuit of a device during an event. -/
def Opens (S : System) (i : Input) (d : UUID) (backoff : ℕ) : Prop :=
  OpensIn i.env S.options d backoff (ledgerEffects (S.step i).2)

instance (S : System) (i : Input) (d : UUID) (backoff : ℕ) : Decidable (Opens S i d backoff) :=
  inferInstanceAs (Decidable (OpensIn i.env S.options d backoff (ledgerEffects (S.step i).2)))

/-- A call that opens a circuit leaves it open and no request of a probe pending. -/
theorem shut_of_opens {backoff : ℕ}
    (h : OpensIn c.env S.options d backoff (S.ledger.step c).2) :
    Shut (S.ledgerCall c).1 d (c.env.monotonic + backoff * second) := by
  obtain ⟨e, hmem, hassigned⟩ := h
  obtain ⟨health, record, rfl, hd, hvalue⟩ := Hub.assigned_eq_some.mp hassigned
  obtain ⟨hprobe, hdecisive⟩ := ProbeOptions.asyncOnRecord_some hvalue
  have htimeout : record.outcome = .timeout := by
    rcases hdecisive with ⟨-, h⟩ | ⟨h, -⟩
    · cases h
    · exact h
  have htold := DeliveryLedger.told_step hmem
  refine ⟨?_, ?_⟩
  · refine Hub.circuit_call_of_forall (c := c) ⟨_, hmem, hassigned⟩ fun e' he' v hv => ?_
    -- every listener call of the step carries the same record
    obtain ⟨health', record', rfl, -, hvalue'⟩ := Hub.assigned_eq_some.mp hv
    obtain ⟨rfl, rfl⟩ := DeliveryLedger.told_unique hmem he'
    rw [hvalue] at hvalue'
    exact (Option.some.inj hvalue').symm
  · rcases htold.source with (hobserved | ⟨call, hop, -⟩) | ⟨p, -, -, hfree⟩
    · rw [hprobe] at hobserved
      cases hobserved
    · have houtcome := htold.outcome
      rw [hop] at houtcome
      exact absurd ((Option.some.inj houtcome).trans htimeout) (recordCall_outcome call).2
    · have hpending := hfree (by rw [htimeout]; decide)
      rw [hd] at hpending
      show ((S.toHub.call c).1.ledger.health d).pending.any _ = false
      rw [Hub.pending_call, hpending, Option.any_none]

/-- A cycle supersedes requests and records what it decided; no request is answered or times
out. -/
theorem outcome_refreshDevice {env : Env} {cycle : Cycle} {url : String} {e : Effect}
    {r : DeliveryRecord} (he : e ∈ ledgerEffects (S.refreshDevice env cycle url u).1.2)
    (hr : e.record? = some r) : r.outcome ≠ .ok ∧ r.outcome ≠ .timeout := by
  have hcall : ∀ (S : System) (c : Call), e ∈ ledgerEffects (S.ledgerCall c).2 →
      c.op.outcome? = some r.outcome := by
    intro S c he
    rw [show ledgerEffects (S.ledgerCall c).2 = (S.ledger.step c).2 from ledgerEffects_map _] at he
    exact DeliveryLedger.outcome_record? he hr
  unfold refreshDevice at he
  simp only [ledgerEffects_append, List.mem_append] at he
  rcases he with he | he
  -- the calls are `device`, and `begin_request` or `record` after the decision
  · cases hcall S _ he
  · unfold actOn at he
    split at he
    · have hbegin := hcall { (S.ledgerCall ⟨env, .device u⟩).1 with
        running := insert u S.running, probes := _ } _ he
      rw [← Option.some.inj hbegin]
      decide
    · split at he
      · rw [← Option.some.inj (hcall _ _ he)]
        exact recordCall_outcome _
      · cases he

theorem outcome_refreshDevices {env : Env} {cycle : Cycle} {url : String} {us : List UUID}
    {results : Dict UUID ProbeResult} {e : Effect} {r : DeliveryRecord}
    (he : e ∈ ledgerEffects (refreshDevices env cycle url us S results).1.2)
    (hr : e.record? = some r) : r.outcome ≠ .ok ∧ r.outcome ≠ .timeout := by
  induction us generalizing S results with
  | nil => cases he
  | cons u us ih =>
    simp only [refreshDevices, ledgerEffects_append, List.mem_append] at he
    rcases he with he | he
    · exact outcome_refreshDevice he hr
    · exact ih he

/-- **Only the ledger call of an event records an `OK` or a `TIMEOUT`.** -/
theorem call_of_record {e : Effect} {r : DeliveryRecord}
    (he : e ∈ ledgerEffects (S.step i).2) (hr : e.record? = some r)
    (hout : r.outcome = .ok ∨ r.outcome = .timeout) :
    ∃ c, S.callOf i = some c ∧ ledgerEffects (S.step i).2 = (S.ledger.step c).2 := by
  have hmove := move_step S i
  generalize S.step i = after at hmove he ⊢
  cases hmove with
  | idle | options => cases he
  | call c plays hc => exact ⟨c, hc, ledgerEffects_map _⟩
  | cycle => exact absurd hout (not_or.mpr (outcome_refreshDevices he hr))
  | wait p stage deadline =>
    rw [ledgerEffects_waitProbe] at he
    cases he
  | fail p err hp hc =>
    refine ⟨_, hc, ?_⟩
    rw [ledgerEffects_append, ledgerEffects_finishProbe, List.append_nil]
    exact ledgerEffects_map _
  | finish p =>
    rw [ledgerEffects_finishProbe] at he
    cases he

theorem callOf_env (h : S.callOf i = some c) : c.env = i.env := by
  unfold callOf at h
  split at h
  · cases h
    rfl
  · cases h
    rfl
  · split at h
    · split at h <;> cases h <;> rfl
    · cases h
  · split at h <;> cases h
    rfl
  · cases h

/-- **After a record that opens the circuit**, it is open for the backoff, no request of a probe
is pending, and the event launches nothing on the device. -/
theorem opens_step {backoff : ℕ} (h : Opens S i d backoff) :
    Holding d (i.env.monotonic + backoff * second) (S.step i) := by
  have hmove := move_step S i
  unfold Opens at h
  generalize S.step i = r at hmove h ⊢
  cases hmove with
  | idle | options =>
    obtain ⟨_, hmem, -⟩ := h
    cases hmem
  | call c plays hc =>
    rw [← callOf_env hc] at h ⊢
    rw [show ledgerEffects (ledgerCall { S with plays := plays } c).2 = (S.ledger.step c).2 from
      ledgerEffects_map _] at h
    exact ⟨shut_of_opens (S := { S with plays := plays }) h,
      fun P hP => absurd hP (launched_notMem_ledgerCall _ c P)⟩
  | cycle cycle url results =>
    -- a cycle records no timeout
    obtain ⟨e, hmem, hassigned⟩ := h
    obtain ⟨health, record, rfl, -, hvalue⟩ := Hub.assigned_eq_some.mp hassigned
    obtain ⟨-, hdecisive⟩ := ProbeOptions.asyncOnRecord_some hvalue
    rcases hdecisive with ⟨-, h⟩ | ⟨h, -⟩
    · cases h
    · exact absurd h (outcome_refreshDevices hmem rfl).2
  | wait p stage deadline =>
    obtain ⟨_, hmem, -⟩ := h
    rw [ledgerEffects_waitProbe] at hmem
    cases hmem
  | fail p err =>
    rw [ledgerEffects_append, ledgerEffects_finishProbe, List.append_nil,
      show ledgerEffects (S.ledgerCall ⟨i.env, .requestFailed p.uuid err none none⟩).2
        = (S.ledger.step ⟨i.env, .requestFailed p.uuid err none none⟩).2 from
        ledgerEffects_map _] at h
    have hcall := shut_of_opens (c := ⟨i.env, .requestFailed p.uuid err none none⟩) h
    refine ⟨hcall.congr (by rw [toHub_finishProbe]), fun P hP => ?_⟩
    rcases List.mem_append.mp hP with hP | hP
    · exact absurd hP (launched_notMem_ledgerCall S _ P)
    · exact absurd hP (launched_notMem_finishProbe _ p P)
  | finish p =>
    obtain ⟨_, hmem, -⟩ := h
    rw [ledgerEffects_finishProbe] at hmem
    cases hmem

/-! ## Runs -/

theorem Shut.run {later : List Input} (h : Shut S d x)
    (ht : ∀ j ∈ later, j.env.monotonic < x) : Shut (Machine.final System.step S later) d x := by
  induction later generalizing S with
  | nil => exact h
  | cons j later ih =>
    have hnext := h.step (ht j List.mem_cons_self)
    exact ih hnext.shut fun k hk => ht k (List.mem_cons_of_mem _ hk)

/-- `time.monotonic()` does not go back during a run. -/
def ClockMonotone (run : List Input) : Prop :=
  run.Pairwise fun i j => i.env.monotonic ≤ j.env.monotonic

instance (run : List Input) : Decidable (ClockMonotone run) :=
  inferInstanceAs (Decidable (run.Pairwise fun i j => i.env.monotonic ≤ j.env.monotonic))

/-- An event launches a probe on a device. -/
def Launches (S : System) (i : Input) (d : UUID) : Prop :=
  ∃ P, .launched P ∈ (S.step i).2 ∧ P.uuid = d

theorem Holding.not_launches (h : Holding d x (S.step i)) : ¬ Launches S i d :=
  fun ⟨P, hP, hd⟩ => h.quiet P hP hd

/-- **Probe launch safety.** In every run with a monotone clock no two probes in flight are on
one device, and if a record opens the circuit of a device at some time, neither that event nor a
later one within the backoff launches a probe on the device. No `OK` of a probe can come in
between, so the circuit is never closed early. -/
theorem launch_safety (options : StoredOptions) {run : List Input} (hclock : ClockMonotone run) :
    (after options run).probed.Nodup ∧
      ∀ before i later d backoff, run = before ++ i :: later →
        Opens (after options before) i d backoff →
        ¬ Launches (after options before) i d ∧
        ∀ between j rest, later = between ++ j :: rest →
          j.env.monotonic < i.env.monotonic + backoff * second →
          ¬ Launches (after options (before ++ i :: between)) j d := by
  refine ⟨(oneEach_after options run).nodup, ?_⟩
  intro before i later d backoff hrun hopens
  have hopened := opens_step hopens
  refine ⟨hopened.not_launches, ?_⟩
  intro between j rest hlater hj
  subst hrun hlater
  -- everything in between happens before `j`, so within the backoff
  have htail : (i :: (between ++ j :: rest)).Pairwise _ := (List.pairwise_append.mp hclock).2.1
  have hlater := (List.pairwise_cons.mp htail).2
  have hbetween : ∀ k ∈ between, k.env.monotonic < i.env.monotonic + backoff * second :=
    fun k hk => Int.lt_of_le_of_lt
      ((List.pairwise_append.mp hlater).2.2 k hk j List.mem_cons_self) hj
  have hshut := hopened.shut.run hbetween
  have hafter : after options (before ++ i :: between)
      = Machine.final step ((after options before).step i).1 between :=
    Machine.final_append step (setUp options) before (i :: between)
  rw [hafter]
  exact (hshut.step hj).not_launches

/-- The watchdog of the `n`-th probe of a speaker that never answers, launched at `s` seconds. -/
def hungProbe (n : ℕ) (s : Int) : Input :=
  ⟨.bare (s + 20), .probeRaises
    ⟨⟨⟨1⟩, ⟨n, "http://ha/probe.wav", .probe, s * 1000000, s * second, none⟩⟩, idleSpeaker⟩
    ⟨⟨.timeoutError, ""⟩, none⟩⟩

/-- One probe hung, and a second one is on its way. -/
def twoHungProbes : List Input :=
  [⟨.bare 0, .registerTarget ⟨1⟩ 0⟩, idleCycle 10, hungProbe 0 10, idleCycle 310]

theorem launch_safety_twoHungProbes :
    Opens (after {} twoHungProbes) (hungProbe 1 310) ⟨1⟩ 600 ∧
      ¬ Launches (after {} (twoHungProbes ++ [hungProbe 1 310])) (idleCycle 610) ⟨1⟩ := by
  have hopens : Opens (after {} twoHungProbes) (hungProbe 1 310) ⟨1⟩ 600 := by decide
  have hclock : ClockMonotone (twoHungProbes ++ [hungProbe 1 310, idleCycle 610]) := by decide
  have hsafe := launch_safety {} hclock
  exact ⟨hopens, (hsafe.2 twoHungProbes (hungProbe 1 310) [idleCycle 610] ⟨1⟩ 600 rfl hopens).2
    [] (idleCycle 610) [] rfl (by decide)⟩

end System
end CastDelivery
