import CastDelivery.Health.Filing

/-!
# The timers a call arms

Only `async_begin_request` arms a timer, one with the serial of the request it begins. Serials are
given out in order, so that timer was not armed before (`begin_arms`).
-/

namespace CastDelivery

theorem DeviceStep.begun_le {env : Env} {ls : List Listener} {stamp : Option DateTime}
    {h g : DeviceHealth} {es : List Effect} (s : DeviceStep env ls stamp h g es) :
    h.begun ≤ g.begun := by
  induction s with
  | quiet same => exact Nat.le_of_eq same.begun.symm
  | restore | note | resolve => simp
  | start => exact Nat.le_succ _
  | seq _ _ ih ih' => exact ih.trans ih'

namespace DeliveryLedger

variable {L : DeliveryLedger} {c : Call} {u : UUID}

theorem timers_append (env : Env) (L : DeliveryLedger) (h : DeviceHealth) (dl : Delivery)
    (q : Option Request) : (L.append env h dl q).1.timers = L.timers := by
  simp only [append]

theorem mem_timers_cancel {handle : UUID × ℕ} {t : Timer} (h : t ∈ (L.cancel handle).timers) :
    t ∈ L.timers := List.mem_of_mem_filter h

theorem mem_timers_resolve {env : Env} {h : DeviceHealth} {outcome : DeliveryOutcome}
    {error : Option String} {responded : Bool} {observed : Observed} {content : Option String}
    {t : Timer} (ht : t ∈ (L.resolve env h outcome error responded observed content).1.timers) :
    t ∈ L.timers := by
  rw [resolve_eq, timers_append] at ht
  cases hh : h.handle with
  | none => simpa [hh] using ht
  | some handle =>
    rw [hh] at ht
    exact mem_timers_cancel ht

@[simp] theorem timers_device (L : DeliveryLedger) (u : UUID) :
    (L.device u).timers = L.timers := by
  unfold device
  split <;> rfl

theorem mem_timers_supersede {env : Env} {t : Timer} (ht : t ∈ (L.supersede env u).1.timers) :
    t ∈ L.timers := by
  unfold supersede at ht
  split at ht
  · exact mem_timers_resolve ht
  · exact ht

/-- Superseding a request gives out no serial. -/
theorem begun_supersede (env : Env) (L : DeliveryLedger) (u : UUID) :
    ((L.supersede env u).1.health u).begun = (L.health u).begun := by
  unfold supersede
  cases (L.health u).pending with
  | none => rfl
  | some p =>
    simp only
    rw [resolve_eq, health_append, if_pos (by simp)]
    simp

/-- **Which timers are armed after a call.** -/
theorem timers_step {t : Timer} (ht : t ∈ (L.step c).1.timers) :
    t ∈ L.timers ∨ ∃ u contentId source session timeout,
      c.op = .beginRequest u contentId source session timeout ∧
        t = ⟨u, (L.health u).begun, timeout⟩ := by
  obtain ⟨env, op⟩ := c
  cases op with
  | addListener | removeListener | updateIdentity => exact .inl ht
  | device u => exact .inl (by simpa [step] using ht)
  | restoreLastSuccess u stamp =>
    simp only [step, restoreLastSuccess] at ht
    split at ht <;> exact .inl (by simpa [store] using ht)
  | beginRequest u contentId source session timeout =>
    simp only [step, asyncBeginRequest, startRequest, begun_supersede, health_device] at ht
    rcases List.mem_append.mp ht with ht | ht
    · exact .inl (by simpa using mem_timers_supersede ht)
    · exact .inr ⟨u, contentId, source, session, timeout, rfl, List.mem_singleton.mp ht⟩
  -- the other calls only cancel
  | expire timer =>
    simp only [step, expire, health_cancel] at ht
    refine .inl ?_
    split at ht
    · split at ht
      · exact mem_timers_cancel ht
      · exact mem_timers_cancel (mem_timers_resolve ht)
    · exact mem_timers_cancel ht
  | mediaStatus u status =>
    refine .inl ?_
    rw [← timers_device L u]
    simp only [step, asyncMediaStatus] at ht
    cases hp : ((L.device u).health u).pending with
    | none =>
      simp only [hp] at ht
      split_ifs at ht
      · exact mem_timers_resolve ht
      · exact ht
    | some p =>
      simp only [hp] at ht
      split_ifs at ht
      · simpa [recordObservation, timers_append] using ht
      · exact mem_timers_resolve ht
      · exact ht
      · exact ht
      · exact ht
      · exact mem_timers_resolve ht
  | loadMediaFailed u queueItemId errorCode =>
    refine .inl ?_
    rw [← timers_device L u]
    simp only [step, asyncLoadMediaFailed] at ht
    split at ht
    · exact ht
    · exact mem_timers_resolve ht
  | requestFailed u err connected launchFailure =>
    refine .inl ?_
    rw [← timers_device L u]
    exact mem_timers_resolve ht
  | record u call =>
    refine .inl ?_
    rw [← timers_device L u]
    simp only [step, asyncRecord] at ht
    split at ht
    · exact mem_timers_resolve ht
    · rwa [timers_append] at ht
  | shutdown => exact .inl (List.mem_of_mem_filter ht)

/-- `async_begin_request` arms a timer and gives out its serial. -/
theorem begin_arms (L : DeliveryLedger) (env : Env) (u : UUID) (contentId : String)
    (source : Source) (session : Option Int) (timeout : ℕ) :
    ⟨u, (L.health u).begun, timeout⟩
        ∈ (L.step ⟨env, .beginRequest u contentId source session timeout⟩).1.timers ∧
      ((L.step ⟨env, .beginRequest u contentId source session timeout⟩).1.health u).begun
        = (L.health u).begun + 1 := by
  simp only [step, asyncBeginRequest, startRequest, begun_supersede, health_device]
  refine ⟨List.mem_append_right _ (List.mem_singleton_self _), ?_⟩
  simp only [health, DeviceTable.get_put]
  rw [if_pos (by simp)]

/-- What a call of `async_begin_request` leaves pending: its request, with the timer's handle. -/
theorem pending_begin (L : DeliveryLedger) (env : Env) (u : UUID) (contentId : String)
    (source : Source) (session : Option Int) (timeout : ℕ) :
    ((L.asyncBeginRequest env u contentId source session timeout).1.health u).pending
      = some
        ⟨{ serial := (L.health u).begun, contentId := contentId, source := source
           requestedAt := env.utcnow, started := env.monotonic, sessionAtRequest := session },
          true⟩ := by
  have hbegun : (((L.device u).supersede env u).1.health u).begun = (L.health u).begun := by
    rw [begun_supersede, health_device]
  unfold asyncBeginRequest startRequest
  simp only [health, DeviceTable.get_put]
  rw [if_pos (by simp)]
  simpa [health] using hbegun

/-- The request that a call of `async_begin_request` leaves pending. -/
theorem request_begin (L : DeliveryLedger) (env : Env) (u : UUID) (contentId : String)
    (source : Source) (session : Option Int) (timeout : ℕ) :
    ((L.asyncBeginRequest env u contentId source session timeout).1.health u).request
      = some
        { serial := (L.health u).begun, contentId := contentId, source := source
          requestedAt := env.utcnow, started := env.monotonic, sessionAtRequest := session } := by
  rw [DeviceHealth.request, pending_begin]
  rfl

/-- The request that a call of `async_begin_request` begins is the one it leaves pending. -/
theorem begins_begin (L : DeliveryLedger) (env : Env) (u : UUID) (contentId : String)
    (source : Source) (session : Option Int) (timeout : ℕ) :
    .begun u
        { serial := (L.health u).begun, contentId := contentId, source := source
          requestedAt := env.utcnow, started := env.monotonic, sessionAtRequest := session }
      ∈ (L.asyncBeginRequest env u contentId source session timeout).2 := by
  simp only [asyncBeginRequest, startRequest, begun_supersede, health_device]
  exact List.mem_append_right _ (List.mem_singleton_self _)

/-- Every armed timer has a serial that was given out. -/
def Numbered (L : DeliveryLedger) : Prop := ∀ t ∈ L.timers, t.serial < (L.health t.uuid).begun

theorem numbered_step (h : L.Numbered) (c : Call) : (L.step c).1.Numbered := by
  intro t ht
  rcases timers_step ht with ht | ⟨u, contentId, source, session, timeout, hop, rfl⟩
  · exact (h t ht).trans_le (L.step_device c t.uuid).begun_le
  · obtain ⟨env, op⟩ := c
    subst hop
    rw [(begin_arms L env u contentId source session timeout).2]
    exact Nat.lt_succ_self _

/-- **A call arms no new timer** unless it begins a request. -/
theorem arms_nothing_iff (h : L.Numbered) :
    (∀ t ∈ (L.step c).1.timers, t ∈ L.timers) ↔
      ∀ u contentId source session timeout,
        c.op ≠ .beginRequest u contentId source session timeout := by
  constructor
  · rintro hsub u contentId source session timeout hop
    obtain ⟨env, op⟩ := c
    subst hop
    have hold := h _ (hsub _ (begin_arms L env u contentId source session timeout).1)
    exact Nat.lt_irrefl _ hold
  · intro hnone t ht
    rcases timers_step ht with ht | ⟨u, contentId, source, session, timeout, hop, -⟩
    · exact ht
    · exact absurd hop (hnone u contentId source session timeout)

end DeliveryLedger
end CastDelivery
