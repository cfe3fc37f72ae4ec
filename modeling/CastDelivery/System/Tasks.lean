import CastDelivery.Health.Timers
import CastDelivery.System.Turn

/-!
# The probes in flight

`Tracked` is the invariant between the tasks and the running set: the uuid of each probe in
flight is in the set, and no two probes in flight are on one device. `origin_step` says where a
probe in flight after an event comes from: it was in flight before, or a cycle launched it, and
then its own request is pending.
-/

namespace CastDelivery
namespace System

/-- Each probe in flight has its uuid in the running set, and its device to itself. -/
structure Tracked (S : System) : Prop where
  running : ∀ t ∈ S.probes, t.1.uuid ∈ S.running
  distinct : ∀ t ∈ S.probes, ∀ t' ∈ S.probes, t.1.uuid = t'.1.uuid → t = t'

variable {S : System} {p : Probe} {stage : Stage}

theorem probes_finishProbe (S : System) (p : Probe) :
    (S.finishProbe p).1.probes = S.probes.filter fun t => t.1 ≠ p := by
  unfold finishProbe
  cases S.data with
  | none => rfl
  | some data =>
    simp only
    cases data.get? p.uuid <;> rfl

theorem running_finishProbe (S : System) (p : Probe) :
    (S.finishProbe p).1.running = S.running.erase p.uuid := by
  unfold finishProbe
  cases S.data with
  | none => rfl
  | some data =>
    simp only
    cases data.get? p.uuid <;> rfl

/-- The outputs of the `finally` clause. -/
theorem outputs_finishProbe {o : Output} (h : o ∈ (S.finishProbe p).2) :
    o = .stored p ((S.ledger.health p.uuid).lastRecord.map DeliveryRecord.outcome) := by
  unfold finishProbe at h
  cases hdata : S.data with
  | none => simp [hdata] at h
  | some data =>
    simp only [hdata] at h
    cases hget : data.get? p.uuid with
    | none => simp [hget] at h
    | some result => simpa [hget] using h

/-! ## The invariant -/

theorem Tracked.congr {S' : System} (h : Tracked S) (hprobes : S'.probes = S.probes)
    (hrunning : S'.running = S.running) : Tracked S' :=
  ⟨by rw [hprobes, hrunning]; exact h.running, by rw [hprobes]; exact h.distinct⟩

theorem Tracked.setStage (h : Tracked S) (p : Probe) (stage : Stage) :
    Tracked (S.setStage p stage) := by
  have hmem : ∀ t ∈ (S.setStage p stage).probes, ∃ s ∈ S.probes, s.1 = t.1 ∧
      t = if s.1 = p then (p, stage) else s := by
    intro t ht
    obtain ⟨s, hs, rfl⟩ := List.mem_map.mp ht
    refine ⟨s, hs, ?_, rfl⟩
    split
    · next hp => exact hp
    · rfl
  refine ⟨fun t ht => ?_, fun t ht t' ht' hu => ?_⟩
  · obtain ⟨s, hs, heq, -⟩ := hmem t ht
    rw [← heq]
    exact h.running s hs
  · obtain ⟨s, hs, heq, hts⟩ := hmem t ht
    obtain ⟨s', hs', heq', hts'⟩ := hmem t' ht'
    have hss : s = s' := h.distinct s hs s' hs' (by rw [heq, heq', hu])
    rw [hts, hts', hss]

theorem Tracked.finishProbe (h : Tracked S) (hp : (p, stage) ∈ S.probes) :
    Tracked (S.finishProbe p).1 := by
  refine ⟨fun t ht => ?_, fun t ht t' ht' => ?_⟩
  · rw [probes_finishProbe, List.mem_filter, decide_eq_true_eq] at ht
    rw [running_finishProbe, Finset.mem_erase]
    refine ⟨fun hu => ht.2 ?_, h.running t ht.1⟩
    rw [h.distinct t ht.1 (p, stage) hp hu]
  · rw [probes_finishProbe] at ht ht'
    exact h.distinct t (List.mem_of_mem_filter ht) t' (List.mem_of_mem_filter ht')

theorem Tracked.waitProbe (h : Tracked S) (hp : (p, stage) ∈ S.probes) (env : Env)
    (deadline : Monotonic) : Tracked (S.waitProbe env p deadline).1 := by
  unfold System.waitProbe
  split
  · exact h.setStage p _
  · split
    · exact h.setStage p _
    · exact h.finishProbe hp

/-- A launched probe has its device to itself if no probe was running there. -/
theorem Tracked.launchProbe (h : Tracked S) {u : UUID} (hu : u ∉ S.running) (env : Env)
    (snapshot : ProbeSnapshot) (url : String) : Tracked (S.launchProbe env u snapshot url).1 := by
  have hne : ∀ t ∈ S.probes, t.1.uuid ≠ u := fun t ht heq => hu (heq ▸ h.running t ht)
  unfold System.launchProbe
  refine ⟨fun t ht => ?_, fun t ht t' ht' heq => ?_⟩
  · rcases List.mem_append.mp ht with ht | ht
    · exact Finset.mem_insert_of_mem (h.running t ht)
    · rw [List.mem_singleton] at ht
      rw [ht]
      exact Finset.mem_insert_self _ _
  · rcases List.mem_append.mp ht with ht | ht <;> rcases List.mem_append.mp ht' with ht' | ht'
    · exact h.distinct t ht t' ht' heq
    · rw [List.mem_singleton] at ht'
      rw [ht'] at heq
      exact absurd heq (hne t ht)
    · rw [List.mem_singleton] at ht
      rw [ht] at heq
      exact absurd heq.symm (hne t' ht')
    · rw [List.mem_singleton] at ht ht'
      rw [ht, ht']

/-- A device that a cycle decides to probe has no probe running. -/
theorem notRunning_of_decision {env : Env} {cycle : Cycle} {u : UUID} {snapshot : ProbeSnapshot}
    (h : S.decision env cycle u = .probe snapshot) : u ∉ S.running := by
  have hdue := decide_eq_probe.mp h
  simpa using hdue.notRunning

theorem Tracked.refreshDevice (h : Tracked S) (env : Env) (cycle : Cycle) (url : String)
    (u : UUID) : Tracked (S.refreshDevice env cycle url u).1.1 := by
  have hknown : Tracked (S.ledgerCall ⟨env, .device u⟩).1 := h.congr rfl rfl
  unfold System.refreshDevice actOn
  simp only
  split
  · next snapshot hdecision =>
    exact hknown.launchProbe (notRunning_of_decision hdecision) env _ _
  · split
    · exact hknown.congr rfl rfl
    · exact hknown

theorem Tracked.refreshDevices (env : Env) (cycle : Cycle) (url : String) (us : List UUID)
    (h : Tracked S) (results : Dict UUID ProbeResult) :
    Tracked (refreshDevices env cycle url us S results).1.1 := by
  induction us generalizing S results with
  | nil => exact h
  | cons u us ih => exact ih (h.refreshDevice env cycle url u) _

theorem Tracked.move {i : Input} {r : System × List Output} (h : Tracked S) (hm : Move S i r) :
    Tracked r.1 := by
  cases hm with
  | idle _ running probes => exact h.congr probes running
  | options | call => exact h.congr rfl rfl
  | cycle cycle url results => exact (h.refreshDevices i.env cycle url _ results).congr rfl rfl
  | wait p stage deadline hp => exact h.waitProbe hp _ _
  | fail p err hp =>
    have hcall : Tracked (S.ledgerCall ⟨i.env, .requestFailed p.uuid err none none⟩).1 :=
      h.congr rfl rfl
    exact hcall.finishProbe hp
  | finish p stage hp => exact h.finishProbe hp

/-- **Every event keeps the tasks and the running set matched.** -/
theorem tracked_step (h : Tracked S) (i : Input) : Tracked (S.step i).1 := h.move (move_step S i)

/-! ## Where the probes in flight come from -/

theorem request_launchProbe (S : System) (env : Env) (u : UUID) (snapshot : ProbeSnapshot)
    (url : String) :
    ((S.launchProbe env u snapshot url).1.ledger.health u).request
      = some (S.nextRequest env u url .probe snapshot.mediaSessionId) := by
  have hrequest := DeliveryLedger.request_begin S.ledger env u url .probe
    snapshot.mediaSessionId DELIVERY_TIMEOUT
  show ((S.toHub.call _).1.ledger.health u).request = _
  rw [Hub.request_call]
  exact hrequest

/-- A probe in flight was there before, or has just begun its request. -/
structure Launched (S' : System) (t : Probe × Stage) : Prop where
  playing : t.2 = .playing
  source : t.1.request.source = .probe
  pending : (S'.ledger.health t.1.uuid).request = some t.1.request

theorem origin_refreshDevice (env : Env) (cycle : Cycle) (url : String) (u : UUID)
    {t : Probe × Stage} (ht : t ∈ (S.refreshDevice env cycle url u).1.1.probes) :
    t ∈ S.probes ∨ t.1.uuid = u ∧ Launched (S.refreshDevice env cycle url u).1.1 t := by
  unfold refreshDevice actOn at ht ⊢
  simp only at ht ⊢
  split at ht
  · next snapshot hdecision =>
    rcases List.mem_append.mp ht with ht | ht
    · exact .inl ht
    · rw [List.mem_singleton] at ht
      subst ht
      exact .inr ⟨rfl, rfl, rfl, request_launchProbe _ env u snapshot _⟩
  · split at ht <;> exact .inl ht

theorem origin_refreshDevices (env : Env) (cycle : Cycle) (url : String) {us : List UUID}
    (hus : us.Nodup) (results : Dict UUID ProbeResult) {t : Probe × Stage}
    (ht : t ∈ (refreshDevices env cycle url us S results).1.1.probes) :
    t ∈ S.probes ∨ Launched (refreshDevices env cycle url us S results).1.1 t := by
  induction us generalizing S results with
  | nil => exact .inl ht
  | cons u us ih =>
    obtain ⟨hnot, hrest⟩ := List.nodup_cons.mp hus
    rcases ih hrest _ ht with ht | ht
    · rcases origin_refreshDevice env cycle url u ht with ht | ⟨hu, hlaunched⟩
      · exact .inl ht
      · -- the turns of the other devices leave this one as it is
        refine .inr ⟨hlaunched.playing, hlaunched.source, ?_⟩
        have helse := elsewhere_refreshDevices env cycle url hnot
          (S.refreshDevice env cycle url u).1.1 (results.set u (S.refreshDevice env cycle url u).2)
        rw [← hlaunched.pending, hu]
        exact congrArg DeviceHealth.request helse.health
    · exact .inr ht

/-- The pending request of a device, if any, is not a probe's. -/
def NoProbePending (h : DeviceHealth) : Prop :=
  h.pending.any (fun pending => pending.source = .probe) = false

/-- A probe after an event: it was in flight before, and quits an app only if no request of a
probe was pending, or it is new. -/
inductive Origin (S S' : System) (t : Probe × Stage) : Prop
  | kept (stage : Stage) (before : (t.1, stage) ∈ S.probes)
      (quitting : t.2 = .quitting →
        stage = .quitting ∨ NoProbePending (S.ledger.health t.1.uuid))
  | launched (new : Launched S' t)

theorem Origin.same {S' : System} {t : Probe × Stage} (ht : t ∈ S.probes) : Origin S S' t :=
  .kept t.2 ht fun h => .inl h

theorem origin_finishProbe {S' : System} {t : Probe × Stage}
    (ht : t ∈ (S.finishProbe p).1.probes) : Origin S S' t := by
  rw [probes_finishProbe] at ht
  exact .same (List.mem_of_mem_filter ht)

theorem origin_setStage {S' : System} (hp : (p, stage) ∈ S.probes) {stage' : Stage}
    (hq : stage' = .quitting → NoProbePending (S.ledger.health p.uuid)) {t : Probe × Stage}
    (ht : t ∈ (S.setStage p stage').probes) : Origin S S' t := by
  obtain ⟨s, hs, rfl⟩ := List.mem_map.mp ht
  split
  · exact .kept stage hp fun h => .inr (hq h)
  · exact .same hs

/-- `_async_wait_for_outcome` returns `OK` only when no request of a probe is pending. -/
theorem noProbePending_of_waitForOutcome {env : Env} {h : DeviceHealth} {deadline : Monotonic}
    (hw : waitForOutcome env h deadline = some (some .ok)) : NoProbePending h := by
  unfold waitForOutcome at hw
  unfold NoProbePending
  split at hw
  · split at hw <;> cases hw
  · next hnot => simpa using hnot

theorem origin_waitProbe {S' : System} (hp : (p, stage) ∈ S.probes) (env : Env)
    (deadline : Monotonic) {t : Probe × Stage}
    (ht : t ∈ (S.waitProbe env p deadline).1.probes) : Origin S S' t := by
  unfold waitProbe at ht
  split at ht
  · exact origin_setStage hp (by simp) ht
  · next outcome hw =>
    split at ht
    · next hok =>
      rw [hok.1] at hw
      exact origin_setStage hp (fun _ => noProbePending_of_waitForOutcome hw) ht
    · exact origin_finishProbe ht

theorem Move.origin {i : Input} {r : System × List Output} (h : Move S i r) {t : Probe × Stage}
    (ht : t ∈ r.1.probes) : Origin S r.1 t := by
  cases h with
  | idle _ _ probes => exact .same (probes ▸ ht)
  | options | call => exact .same ht
  | cycle cycle url results =>
    rcases origin_refreshDevices i.env cycle url S.targets.nodup results ht with ht | hnew
    · exact .same ht
    · exact .launched ⟨hnew.playing, hnew.source, hnew.pending⟩
  | wait p stage deadline hp => exact origin_waitProbe hp _ _ ht
  | fail p err hp =>
    rw [probes_finishProbe] at ht
    exact .same (List.mem_of_mem_filter ht)
  | finish => exact origin_finishProbe ht

/-- **Where a probe in flight after an event comes from.** -/
theorem origin_step (i : Input) {t : Probe × Stage} (ht : t ∈ (S.step i).1.probes) :
    Origin S (S.step i).1 t := (move_step S i).origin ht

end System

end CastDelivery
