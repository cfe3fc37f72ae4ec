import CastDelivery.System.Unload

/-!
# An unload is quiescent

`quiescent_iff`: nothing of the unloaded set-up is recorded, fired or armed any more, and no two
probes are in flight on one device, if and only if no ledger call that is made late appends a
record or begins a request, and no cycle of the new set-up finds a probe due on a device on which
an old probe is still in flight.

The unloaded set-up has no targets, so a late event does to its ledger what its one ledger call
does (`late_effects`, `late_timers`), and it launches no probe.
-/

namespace CastDelivery

namespace DeliveryLedger

variable {L : DeliveryLedger} {c : Call}

/-- A call appends a record if and only if `appends` says so of some device. -/
theorem records_step_iff :
    CastDelivery.records (L.step c).2 = [] ↔ ∀ d, L.appends d c.op = false := by
  constructor
  · intro hnone d
    by_contra happends
    have hop : c.op.uuid? = some d := by
      obtain ⟨env, op⟩ := c
      cases op <;> simp_all [appends, Op.uuid?]
    exact (records_step hop).mpr (by simpa using happends) hnone
  · intro hsilent
    cases hu : c.op.uuid? with
    | none => rw [(step_global (L := L) hu ⟨0⟩).1]; rfl
    | some u =>
      by_contra hsome
      have happends := (records_step (L := L) hu).mp hsome
      rw [hsilent u] at happends
      cases happends

end DeliveryLedger

namespace System

variable {S : System} {i : Input} {d u : UUID}

/-! ## Launches -/

/-- The turn of a device puts a probe in flight if the decision is to probe. -/
theorem mem_probed_refreshDevice (env : Env) (cycle : Cycle) (url : String) (u d : UUID) :
    d ∈ (S.refreshDevice env cycle url u).1.1.probed ↔
      d ∈ S.probed ∨ d = u ∧ ∃ snapshot, S.decision env cycle u = .probe snapshot := by
  have hdecision := (decision_known env cycle S u).2
  unfold refreshDevice
  simp only [hdecision, actOn]
  split
  · next snapshot hprobe => simp [launchProbe, ledgerCall, probed, hprobe]
  · next hnot =>
    have hnone : ¬ ∃ snapshot, S.decision env cycle u = .probe snapshot := not_exists.mpr hnot
    rw [or_iff_left fun h => hnone h.2]
    split <;> rfl

theorem mem_probed_refreshDevices (env : Env) (cycle : Cycle) (url : String) {us : List UUID}
    (hus : us.Nodup) (results : Dict UUID ProbeResult) (d : UUID) :
    d ∈ (refreshDevices env cycle url us S results).1.1.probed ↔
      d ∈ S.probed ∨ d ∈ us ∧ ∃ snapshot, S.decision env cycle d = .probe snapshot := by
  induction us generalizing S results with
  | nil => simp [refreshDevices]
  | cons u us ih =>
    obtain ⟨hnot, hrest⟩ := List.nodup_cons.mp hus
    simp only [refreshDevices, ih hrest, mem_probed_refreshDevice, List.mem_cons]
    by_cases hu : d = u
    · -- its turn does not come again
      subst hu
      simp [hnot]
    · rw [(elsewhere_refreshDevice env cycle url S hu).decision]
      simp [hu]

/-- A cycle puts a probe in flight on the devices on which it finds one due. -/
theorem mem_probed_refresh (env : Env) (cycle : Cycle) (d : UUID) :
    d ∈ (S.refresh env cycle).1.probed ↔ d ∈ S.probed ∨ S.FindsDue env cycle d := by
  unfold refresh FindsDue
  split
  · next henabled =>
    rw [henabled]
    simp [probed]
  · next henabled =>
    cases hurl : cycle.url with
    | none => simp
    | some url =>
      have hcycle := mem_probed_refreshDevices (S := S) env cycle url S.targets.nodup
        (S.data.getD ∅) d
      have hdue : (∃ snapshot, S.decision env cycle d = .probe snapshot) ↔
          ∃ snapshot, ProbeDue env S.options (d ∈ S.running) (cycle.snapshots d)
            (S.ledger.health d) snapshot :=
        exists_congr fun _ => decide_eq_probe
      rw [hdue] at hcycle
      have henabled : S.options.enabled = true := by simpa using henabled
      simp only [henabled, ne_eq, reduceCtorEq, not_false_eq_true, true_and]
      exact hcycle

theorem probed_waitProbe (env : Env) (p : Probe) (deadline : Monotonic) :
    (S.waitProbe env p deadline).1.probed.Sublist S.probed := by
  unfold waitProbe
  split
  · rw [probed_setStage]
  · split
    · rw [probed_setStage]
    · exact probed_finishProbe S p

/-- Only cycles launch probes. -/
theorem probed_step (h : ∀ cycle, i.event ≠ .refresh cycle) :
    (S.step i).1.probed.Sublist S.probed := by
  obtain ⟨env, event⟩ := i
  cases event with
  | refresh cycle => exact absurd rfl (h cycle)
  | callback | play | playReturns | applyOptions | registerTarget => exact .refl _
  | playRaises t err connected launchFailure =>
    simp only [step, playRaises]
    split
    · split <;> exact .refl _
    · exact .refl _
  | unregisterTarget =>
    simp only [step]
    split <;> exact .refl _
  | probeReturns p | probePolls p =>
    simp only [step]
    split
    · exact probed_waitProbe _ _ _
    · exact .refl _
  | probeRaises p err =>
    simp only [step, probeRaises]
    split
    · split
      · exact probed_finishProbe _ p
      · exact probed_finishProbe _ p
    · exact .refl _
  | probeQuit p | probeCancelled p =>
    simp only [step]
    split
    · exact probed_finishProbe _ p
    · exact .refl _

theorem mem_probed_step (hd : d ∈ (S.step i).1.probed) :
    d ∈ S.probed ∨ ∃ cycle, i.event = .refresh cycle ∧ S.FindsDue i.env cycle d := by
  by_cases h : ∃ cycle, i.event = .refresh cycle
  · obtain ⟨cycle, hevent⟩ := h
    simp only [step, hevent] at hd
    exact ((mem_probed_refresh i.env cycle d).mp hd).imp_right fun hdue => ⟨cycle, hevent, hdue⟩
  · exact .inl ((probed_step fun cycle hevent => h ⟨cycle, hevent⟩).subset hd)

/-! ## Late events of the unloaded set-up -/

theorem numbered_run (S : System) (h : S.ledger.Numbered) (is : List HubInput) :
    (Machine.final Hub.step S.toHub is).ledger.Numbered :=
  Machine.final_invariant Hub.step (P := fun H => H.ledger.Numbered)
    (fun H i hH => by
      cases i with
      | applyOptions options => exact hH
      | call c =>
        intro t ht
        rw [Hub.step, Hub.timers_call] at ht
        obtain ⟨circuit, hcall⟩ := H.health_call c t.uuid
        rw [Hub.step, hcall]
        exact DeliveryLedger.numbered_step hH c t ht) h is

theorem numbered_driven {r : System × List Output} (hr : Driven S r) (h : S.ledger.Numbered) :
    r.1.ledger.Numbered := by
  obtain ⟨is, hhub, -, -⟩ := hr
  rw [hhub]
  exact numbered_run S h is

@[simp] theorem targets_finishProbe (S : System) (p : Probe) :
    (S.finishProbe p).1.targets = S.targets := by
  unfold finishProbe
  cases S.data with
  | none => rfl
  | some data =>
    simp only
    cases data.get? p.uuid <;> rfl

theorem targets_waitProbe (env : Env) (p : Probe) (deadline : Monotonic) :
    (S.waitProbe env p deadline).1.targets = S.targets := by
  unfold waitProbe
  split
  · rfl
  · split
    · rfl
    · exact targets_finishProbe S p

/-- The events that survive an unload register no targets. -/
theorem targets_step (hi : S.survives i = true) (hnone : S.targets.keys = []) :
    (S.step i).1.targets = S.targets := by
  obtain ⟨env, event⟩ := i
  cases event with
  | play | playReturns | playRaises | applyOptions | registerTarget | unregisterTarget =>
    cases hi
  | callback => rfl
  | refresh cycle =>
    simp only [step, refresh, hnone, refreshDevices]
    split
    · rfl
    · split <;> rfl
  | probeReturns p | probePolls p =>
    simp only [step]
    split
    · exact targets_waitProbe _ _ _
    · rfl
  | probeRaises p err =>
    simp only [step, probeRaises]
    split
    · split
      · exact targets_finishProbe _ p
      · exact targets_finishProbe _ p
    · rfl
  | probeQuit p | probeCancelled p =>
    simp only [step]
    split
    · exact targets_finishProbe _ p
    · rfl

/-- The ledger after a call, if there is one. -/
def called (L : DeliveryLedger) (call : Option Call) : DeliveryLedger × List Effect :=
  call.elim (L, []) L.step

/-- Without targets, an event does to the ledger what its ledger call does, up to circuits. -/
structure LikeCall (L : DeliveryLedger) (call : Option Call) (timers : List Timer)
    (es : List Effect) : Prop where
  timers : timers = (called L call).1.timers
  effects : es = (called L call).2

theorem likeCall_ledgerCall (S : System) (c : Call) :
    LikeCall S.ledger (some c) (S.ledgerCall c).1.ledger.timers
      (ledgerEffects (S.ledgerCall c).2) :=
  ⟨Hub.timers_call S.toHub c, ledgerEffects_map _⟩

theorem likeCall_step (S : System) (i : Input) (hnone : S.targets.keys = []) :
    LikeCall S.ledger (S.callOf i) (S.step i).1.ledger.timers (ledgerEffects (S.step i).2) := by
  have hmove := move_step S i
  generalize S.step i = r at hmove ⊢
  cases hmove with
  | idle hub _ _ hc =>
    rw [hc, hub]
    exact ⟨rfl, rfl⟩
  | options options hc =>
    rw [hc]
    exact ⟨rfl, rfl⟩
  | call c plays hc =>
    rw [hc]
    exact likeCall_ledgerCall { S with plays := plays } c
  | cycle cycle url results data hc =>
    rw [hc, hnone]
    exact ⟨rfl, rfl⟩
  | wait p stage deadline hp late hc =>
    rw [hc, toHub_waitProbe, ledgerEffects_waitProbe]
    exact ⟨rfl, rfl⟩
  | fail p err hp hc =>
    rw [hc, toHub_finishProbe, ledgerEffects_append, ledgerEffects_finishProbe, List.append_nil]
    exact likeCall_ledgerCall S _
  | finish p stage hp ends hc =>
    rw [hc, toHub_finishProbe, ledgerEffects_finishProbe]
    exact ⟨rfl, rfl⟩

end System

/-! ## Late events -/

namespace Unloaded

variable {U : Unloaded} {e : LateEvent}

open CastDelivery.System

theorem effectsOf_own (os : List Output) :
    effectsOf .unloaded (os.map fun o => (.unloaded, o)) = ledgerEffects os := by
  unfold effectsOf
  congr 1
  induction os with
  | nil => rfl
  | cons o os ih => simpa using ih

theorem effectsOf_other (os : List Output) :
    effectsOf .unloaded (os.map fun o => (.current, o)) = [] := by
  unfold effectsOf
  rw [List.filter_eq_nil_iff.mpr]
  · rfl
  · intro o ho
    obtain ⟨_, -, rfl⟩ := List.mem_map.mp ho
    simp

/-- What the runs after an unload keep. -/
structure Sound (U : Unloaded) : Prop where
  noTargets : U.old.targets.keys = []
  numbered : U.old.ledger.Numbered
  old : OneEach U.old
  current : ∀ C, U.current = some C → OneEach C
  distinct : U.probed.Nodup

/-- **A late event does to the ledger of the unloaded set-up what its late call does.** -/
theorem likeCall_late (hnone : U.old.targets.keys = []) (e : LateEvent) :
    LikeCall U.old.ledger (U.lateCall e) (U.step e).1.old.ledger.timers
      (effectsOf .unloaded (U.step e).2) := by
  cases e with
  | own i =>
    simp only [step, lateCall]
    split
    · rw [effectsOf_own]
      exact likeCall_step U.old i hnone
    · exact ⟨rfl, rfl⟩
  | service c =>
    simp only [step, serviceCall, lateCall]
    cases U.current with
    | some C =>
      rw [effectsOf_other]
      exact ⟨rfl, rfl⟩
    | none =>
      simp only
      split
      · rw [effectsOf_own]
        exact likeCall_ledgerCall U.old c
      · exact ⟨rfl, rfl⟩
  | setUp options =>
    simp only [step, lateCall]
    cases U.current <;> exact ⟨rfl, rfl⟩
  | live i =>
    simp only [step, lateCall]
    cases U.current with
    | some C =>
      rw [effectsOf_other]
      exact ⟨rfl, rfl⟩
    | none => exact ⟨rfl, rfl⟩

/-- The records and the timers of a late event follow from its late call. -/
theorem silent_iff (h : Sound U) :
    (CastDelivery.records (effectsOf .unloaded (U.step e).2) = [] ∧
        firedRecords (effectsOf .unloaded (U.step e).2) = []) ∧
        (∀ t ∈ (U.step e).1.old.ledger.timers, t ∈ U.old.ledger.timers) ↔
      ∀ c, U.lateCall e = some c → (∀ d, U.old.ledger.appends d c.op = false) ∧
        ∀ u contentId source session timeout,
          c.op ≠ .beginRequest u contentId source session timeout := by
  have hlike := likeCall_late h.noTargets e
  rw [hlike.timers, hlike.effects]
  cases U.lateCall e with
  | none => simp [called, firedRecords, CastDelivery.records]
  | some c =>
    -- what is recorded is fired
    have hfired := (step_reported U.old.ledger c).fired
    simp only [called, Option.elim_some, hfired, and_self, Option.some.injEq, forall_eq']
    exact and_congr DeliveryLedger.records_step_iff (DeliveryLedger.arms_nothing_iff h.numbered)

/-! ## Probes of both set-ups -/

/-- A late event of the unloaded set-up launches no probe. -/
theorem probed_own (hnone : U.old.targets.keys = []) (i : Input) :
    (U.old.step i).1.probed.Sublist U.old.probed := by
  by_cases hevent : ∃ cycle, i.event = .refresh cycle
  · obtain ⟨cycle, hevent⟩ := hevent
    simp only [System.step, refresh, hevent, hnone, refreshDevices]
    split
    · exact .refl _
    · split <;> exact .refl _
  · exact probed_step fun cycle h => hevent ⟨cycle, h⟩

/-- **The probes of both set-ups** stay on devices of their own if and only if no cycle of the
new set-up finds a probe due where an old one is in flight. -/
theorem probed_nodup_iff (h : Sound U) :
    (U.step e).1.probed.Nodup ↔
      ∀ i C cycle, e = .live i → U.current = some C → i.event = .refresh cycle →
        ∀ d ∈ U.old.probed, ¬ C.FindsDue i.env cycle d := by
  cases e with
  | own i =>
    refine iff_of_true ?_ (by simp)
    simp only [step]
    split
    · refine h.distinct.sublist ?_
      exact (probed_own h.noTargets i).append_right _
    · exact h.distinct
  | service c =>
    refine iff_of_true ?_ (by simp)
    have hdistinct := h.distinct
    simp only [step, serviceCall, probed] at hdistinct ⊢
    cases hcurrent : U.current with
    | some C =>
      rw [hcurrent] at hdistinct
      exact hdistinct
    | none =>
      rw [hcurrent] at hdistinct
      simp only
      split
      · exact hdistinct
      · simp only [hcurrent]
        exact hdistinct
  | setUp options =>
    refine iff_of_true ?_ (by simp)
    have hdistinct := h.distinct
    simp only [step, probed] at hdistinct ⊢
    cases hcurrent : U.current with
    | some C => simpa [hcurrent] using hdistinct
    | none => simpa [hcurrent, setUp, System.probed] using hdistinct
  | live i =>
    simp only [step]
    cases hcurrent : U.current with
    | none => simp [h.distinct]
    | some C =>
      have hafter : OneEach (C.step i).1 := oneEach_step C i (h.current C hcurrent)
      have hbefore : (U.old.probed ++ C.probed).Nodup := by
        have hdistinct := h.distinct
        rwa [probed, hcurrent] at hdistinct
      have hnodup : (U.old.probed ++ (C.step i).1.probed).Nodup ↔
          ∀ d ∈ U.old.probed, d ∉ (C.step i).1.probed := by
        rw [List.nodup_append']
        simp only [h.old.nodup, hafter.nodup, true_and]
        rfl
      simp only [probed, Option.map_some, Option.getD_some, hnodup, LateEvent.live.injEq,
        Option.some.injEq]
      -- only a cycle of the live entry launches probes, and it does not see the old ones
      constructor
      · rintro hnot j C' cycle rfl rfl hevent d hd hdue
        refine hnot d hd ?_
        simp only [System.step, hevent]
        exact (mem_probed_refresh _ cycle d).mpr (.inr hdue)
      · intro hnone d hd hmem
        rcases mem_probed_step hmem with hmem | ⟨cycle, hevent, hdue⟩
        · exact (List.nodup_append.mp hbefore).2.2 d hd d hmem rfl
        · exact hnone i C cycle rfl rfl hevent d hd hdue

theorem quiescent_iff_harmless (h : Sound U) (e : LateEvent) :
    Quiescent U e ↔ Harmless U e := by
  constructor
  · rintro ⟨hrecords, hfired, htimers, hprobes⟩
    have hsilent := (silent_iff h).mp ⟨⟨hrecords, hfired⟩, htimers⟩
    exact ⟨fun c hc => (hsilent c hc).1, fun c hc => (hsilent c hc).2,
      (probed_nodup_iff h).mp hprobes⟩
  · rintro ⟨happends, hbegins, hcycles⟩
    obtain ⟨⟨hrecords, hfired⟩, htimers⟩ :=
      (silent_iff (e := e) h).mpr fun c hc => ⟨happends c hc, hbegins c hc⟩
    exact ⟨hrecords, hfired, htimers, (probed_nodup_iff h).mpr hcycles⟩

/-! ## Runs after an unload -/

theorem Sound.step (h : Sound U) (hq : Quiescent U e) : Sound (U.step e).1 := by
  have hdistinct := hq.probes
  cases e with
  | own i =>
    simp only [Unloaded.step] at hdistinct ⊢
    split at hdistinct
    · next hsurvives =>
      rw [if_pos hsurvives]
      exact {
        noTargets := by rw [targets_step hsurvives h.noTargets]; exact h.noTargets
        numbered := numbered_driven (driven_step U.old i) h.numbered
        old := oneEach_step U.old i h.old
        current := h.current
        distinct := hdistinct }
    · next hsurvives =>
      rw [if_neg hsurvives]
      exact h
  | service c hc =>
    simp only [Unloaded.step, serviceCall] at hdistinct ⊢
    -- the call reaches the loaded set-up, or the old one while the entry keeps its `runtime_data`
    have hclosed : ∀ l, c.op ≠ .addListener l := by
      intro l hop
      rw [hop] at hc
      cases hc
    cases hcurrent : U.current with
    | some C =>
      simp only [hcurrent] at hdistinct ⊢
      refine { h with current := ?_, distinct := hdistinct }
      rintro C' ⟨⟩
      exact (h.current C hcurrent).congr rfl rfl
    | none =>
      simp only [hcurrent] at hdistinct ⊢
      split at hdistinct
      · next hkeeps =>
        rw [if_pos hkeeps]
        exact {
          noTargets := h.noTargets
          numbered := numbered_driven (driven_ledgerCall U.old c hclosed) h.numbered
          old := h.old.congr rfl rfl
          current := by simp
          distinct := hdistinct }
      · next hkeeps =>
        rw [if_neg hkeeps]
        exact h
  | setUp options =>
    simp only [Unloaded.step] at hdistinct ⊢
    cases hcurrent : U.current with
    | some C =>
      simp only
      exact h
    | none =>
      simp only [hcurrent] at hdistinct ⊢
      refine { h with current := ?_, distinct := hdistinct }
      rintro C ⟨⟩
      exact oneEach_after options []
  | live i =>
    simp only [Unloaded.step] at hdistinct ⊢
    cases hcurrent : U.current with
    | none =>
      simp only
      exact h
    | some C =>
      simp only [hcurrent] at hdistinct ⊢
      refine { h with current := ?_, distinct := hdistinct }
      rintro C' ⟨⟩
      exact oneEach_step C i (h.current C hcurrent)

theorem numbered_after (options : StoredOptions) (run : List Input) :
    (after options run).ledger.Numbered :=
  numbered_driven (driven_run (setUp options) run) (by simp [DeliveryLedger.Numbered, setUp])

/-- An unload leaves the tasks as they are and cancels timers. -/
theorem sound_asyncUnloadEntry (options : StoredOptions) (run : List Input) (keepsData : Bool) :
    Sound { old := (after options run).asyncUnloadEntry, keepsData := keepsData } where
  noTargets := rfl
  numbered := by
    have hremoved : (((after options run).ledger.removeListener .circuitBreaker).removeListener
        .repairManager).Numbered := numbered_after options run
    exact DeliveryLedger.numbered_step hremoved ⟨.bare 0, .shutdown⟩
  old := (oneEach_after options run).congr rfl rfl
  current := by simp
  distinct := by
    unfold probed
    rw [Option.map_none, Option.getD_none, List.append_nil]
    exact (oneEach_after options run).nodup

/-- **An unload is quiescent** in a run after it if and only if no ledger call that is made late
appends a record or begins a request, and no cycle of the new set-up finds a probe due on a device
on which an old probe is still in flight. -/
theorem quiescent_iff (options : StoredOptions) (run : List Input) (keepsData : Bool)
    (late : List LateEvent) :
    Machine.Along step Quiescent ⟨(after options run).asyncUnloadEntry, keepsData, none⟩ late ↔
      Machine.Along step Harmless ⟨(after options run).asyncUnloadEntry, keepsData, none⟩ late :=
  Machine.along_congr_of (P := Sound) (fun _ e h => quiescent_iff_harmless h e)
    (fun _ _ h hq => h.step hq) (sound_asyncUnloadEntry options run keepsData) late

/-- A probe is in flight on a speaker that does not answer. -/
def probeInFlight : System := after {} [⟨.bare 0, .registerTarget ⟨1⟩ 0⟩, idleCycle 10]

/-- The watchdog of the probe expires after the unload. -/
theorem not_quiescent :
    ¬ Quiescent ⟨probeInFlight.asyncUnloadEntry, false, none⟩ (.own (hungProbe 0 10)) := by
  intro h
  have hnone := h.records
  revert hnone
  decide

end Unloaded
end CastDelivery
