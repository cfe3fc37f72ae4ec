import CastDelivery.System.Basic

/-!
# What an event can do

`move_step` takes `System.step` apart once: an event leaves the hub and the probes alone, applies
options, makes one ledger call, runs a refresh cycle, or takes one probe in flight further. The
invariants of runs are proved for these moves.
-/

namespace CastDelivery

/-- The event ends a probe, whatever has become of its request. -/
def Event.endsEarly (env : Env) (t : Probe × Stage) : Event → Bool
  | .probeCancelled p => p = t.1
  | .probeRaises p err => p = t.1 ∧ t.2 = .playing ∧ err.exc.cls.caught = false
  | .probePolls p =>
    match t.2 with
    | .waiting deadline => p = t.1 ∧ deadline < env.monotonic
    | _ => false
  | _ => false

namespace System

/-- The ledger call that an event makes, unless it is a refresh cycle. -/
def callOf (S : System) (i : Input) : Option Call :=
  match i.event with
  | .callback op _ => some ⟨i.env, op⟩
  | .play u contentId source session =>
    some ⟨i.env, .beginRequest u contentId source.source session DELIVERY_TIMEOUT⟩
  | .playRaises t err connected launchFailure =>
    if t ∈ S.plays then
      match err.exc.cls with
      | .timeoutError => some ⟨i.env, .requestFailed t.uuid err none none⟩
      | .homeAssistantError =>
        some ⟨i.env, .requestFailed t.uuid err (some connected) launchFailure⟩
      | _ => none
    else none
  | .probeRaises p err =>
    if S.stageOf p = some .playing ∧ err.exc.cls.caught = true then
      some ⟨i.env, .requestFailed p.uuid err none none⟩
    else none
  | _ => none

/-- What an event did to `S`. -/
inductive Move (S : System) (i : Input) : System × List Output → Prop
  | idle {S' : System} (hub : S'.toHub = S.toHub) (running : S'.running = S.running)
      (probes : S'.probes = S.probes) (noCall : S.callOf i = none) : Move S i (S', [])
  | options (options : StoredOptions) (noCall : S.callOf i = none) :
      Move S i ({ S with options := probeOptions options }, [])
  | call (c : Call) (plays : List Ticket) (hc : S.callOf i = some c) :
      Move S i ({ S with plays := plays }.ledgerCall c)
  | cycle (cycle : Cycle) (url : String) (results : Dict UUID ProbeResult)
      (data : Option (Dict UUID ProbeResult)) (noCall : S.callOf i = none) :
      Move S i
        ({ (refreshDevices i.env cycle url S.targets.keys S results).1.1 with data := data },
          (refreshDevices i.env cycle url S.targets.keys S results).1.2)
  | wait (p : Probe) (stage : Stage) (deadline : Monotonic) (hp : (p, stage) ∈ S.probes)
      (late : deadline < i.env.monotonic → i.event.endsEarly i.env (p, stage) = true)
      (noCall : S.callOf i = none) : Move S i (S.waitProbe i.env p deadline)
  | fail (p : Probe) (err : Raised) (hp : (p, Stage.playing) ∈ S.probes)
      (hc : S.callOf i = some ⟨i.env, .requestFailed p.uuid err none none⟩) :
      Move S i
        (((S.ledgerCall ⟨i.env, .requestFailed p.uuid err none none⟩).1.finishProbe p).1,
          (S.ledgerCall ⟨i.env, .requestFailed p.uuid err none none⟩).2 ++
            ((S.ledgerCall ⟨i.env, .requestFailed p.uuid err none none⟩).1.finishProbe p).2)
  | finish (p : Probe) (stage : Stage) (hp : (p, stage) ∈ S.probes)
      (ends : stage = .quitting ∨ i.event.endsEarly i.env (p, stage) = true)
      (noCall : S.callOf i = none) : Move S i (S.finishProbe p)

variable {S : System} {p : Probe} {stage : Stage}

theorem mem_of_stageOf (h : S.stageOf p = some stage) : (p, stage) ∈ S.probes := by
  obtain ⟨t, ht, rfl⟩ := Option.map_eq_some_iff.mp h
  have hp : t.1 = p := by simpa using List.find?_some ht
  rw [← hp]
  exact List.mem_of_find?_eq_some ht

/-- **Every event is one of these moves.** -/
theorem move_step (S : System) (i : Input) : Move S i (S.step i) := by
  obtain ⟨env, event⟩ := i
  cases event with
  | callback op external => exact .call _ S.plays rfl
  | play u contentId source session => exact .call _ (S.plays ++ [_]) rfl
  | playReturns | registerTarget => exact .idle rfl rfl rfl rfl
  | applyOptions options => exact .options options rfl
  | playRaises t err connected launchFailure =>
    simp only [step]
    split
    · next ht =>
      unfold playRaises
      cases hcls : err.exc.cls with
      | timeoutError | homeAssistantError => exact .call _ _ (by simp [callOf, ht, hcls])
      | _ => exact .idle rfl rfl rfl (by simp [callOf, ht, hcls])
    · next ht => exact .idle rfl rfl rfl (if_neg ht)
  | refresh cycle =>
    simp only [step, refresh]
    split
    · exact .idle rfl rfl rfl rfl
    · split
      · exact .idle rfl rfl rfl rfl
      · exact .cycle cycle _ _ _ rfl
  | probeReturns p =>
    simp only [step]
    split
    · next hstage =>
      -- the deadline lies ahead of the first turn of the loop
      have hahead : ¬ env.monotonic + (DELIVERY_TIMEOUT + 5 : ℕ) * second < env.monotonic :=
        Int.not_lt.mpr (Int.le_add_of_nonneg_right (by decide))
      exact .wait p .playing _ (mem_of_stageOf hstage) (fun h => absurd h hahead) rfl
    · exact .idle rfl rfl rfl rfl
  | probeRaises p err =>
    simp only [step]
    split
    · next hstage =>
      have hp := mem_of_stageOf hstage
      unfold probeRaises
      split
      · next hcaught => exact .fail p err hp (if_pos ⟨hstage, hcaught⟩)
      · next hcaught =>
        refine .finish p .playing hp (.inr ?_) (if_neg fun h => hcaught h.2)
        simpa [Event.endsEarly] using hcaught
    · next hstage => exact .idle rfl rfl rfl (if_neg fun h => hstage h.1)
  | probePolls p =>
    simp only [step]
    split
    · next deadline hstage =>
      exact .wait p _ deadline (mem_of_stageOf hstage)
        (fun hlate => by simpa [Event.endsEarly] using hlate) rfl
    · exact .idle rfl rfl rfl rfl
  | probeQuit p =>
    simp only [step]
    split
    · next hstage => exact .finish p .quitting (mem_of_stageOf hstage) (.inl rfl) rfl
    · exact .idle rfl rfl rfl rfl
  | probeCancelled p =>
    simp only [step]
    split
    · next stage hstage =>
      exact .finish p stage (mem_of_stageOf hstage) (.inr (by simp [Event.endsEarly])) rfl
    · exact .idle rfl rfl rfl rfl
  | unregisterTarget u target =>
    simp only [step]
    split <;> exact .idle rfl rfl rfl rfl

/-! ## The calls of events -/

variable {i : Input} {c : Call}

/-- The call of an event comes from outside, begins a request of a user, or reports a failure. -/
theorem callOf_op (h : S.callOf i = some c) : c.op.external = true ∨
    (∃ u contentId session, ∃ source : UserSource,
      c.op = .beginRequest u contentId source.source session DELIVERY_TIMEOUT) ∨
    ∃ u err connected launchFailure, c.op = .requestFailed u err connected launchFailure := by
  unfold callOf at h
  split at h
  · next op external _ =>
    cases h
    exact .inl external
  · next u contentId source session _ =>
    cases h
    exact .inr (.inl ⟨u, contentId, session, source, rfl⟩)
  · split at h
    · split at h <;> cases h
      · exact .inr (.inr ⟨_, _, _, _, rfl⟩)
      · exact .inr (.inr ⟨_, _, _, _, rfl⟩)
    · cases h
  · split at h <;> cases h
    exact .inr (.inr ⟨_, _, _, _, rfl⟩)
  · cases h

/-- No call of an event registers a listener. -/
theorem callOf_closed (h : S.callOf i = some c) (l : Listener) : c.op ≠ .addListener l := by
  intro hop
  rcases callOf_op h with hexternal | ⟨_, _, _, _, hbegin⟩ | ⟨_, _, _, _, hfailed⟩
  · rw [hop] at hexternal
    cases hexternal
  · rw [hop] at hbegin
    cases hbegin
  · rw [hop] at hfailed
    cases hfailed

/-- No call of an event begins a request of a probe. -/
theorem callOf_user (h : S.callOf i = some c) (u : UUID) (contentId : String)
    (session : Option Int) (timeout : ℕ) :
    c.op ≠ .beginRequest u contentId .probe session timeout := by
  intro hop
  rcases callOf_op h with hexternal | ⟨_, _, _, source, hbegin⟩ | ⟨_, _, _, _, hfailed⟩
  · rw [hop] at hexternal
    cases hexternal
  · rw [hop] at hbegin
    cases source <;> cases hbegin
  · rw [hop] at hfailed
    cases hfailed

end System

end CastDelivery
