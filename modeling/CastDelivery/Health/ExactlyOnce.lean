import CastDelivery.Health.Timers

/-!
# Every request is resolved at most once, and none is lost

The requests of a device are the calls of `async_begin_request` on it (`begunOf_eq`): each call
begins one, numbered by those before it, and leaves it pending with its timer armed. From there a
request stays in the slot until one record consumes it, and `exactly_once` says what holds of the
requests, records and timers after any run.
-/

namespace CastDelivery

/-- The request that a call asks for on a device, the `serial`-th of the device. -/
def Call.request (d : UUID) (serial : ℕ) (c : Call) : Option Request :=
  match c.op with
  | .beginRequest u contentId source session _ =>
    if u = d then
      some
        { serial := serial, contentId := contentId, source := source
          requestedAt := c.env.utcnow, started := c.env.monotonic, sessionAtRequest := session }
    else none
  | _ => none

/-- The requests that the calls of a run ask for on a device, from the `serial`-th on. -/
def requestsFrom (d : UUID) (serial : ℕ) : List Call → List Request
  | [] => []
  | c :: calls =>
    match c.request d serial with
    | some q => q :: requestsFrom d (serial + 1) calls
    | none => requestsFrom d serial calls

/-- The requests that the calls of a run ask for on a device, in order. -/
def requestsOf (d : UUID) (calls : List Call) : List Request := requestsFrom d 0 calls

theorem requestsFrom_concat (d : UUID) (calls : List Call) (c : Call) (serial : ℕ) :
    requestsFrom d serial (calls ++ [c]) = requestsFrom d serial calls ++
      (c.request d (serial + (requestsFrom d serial calls).length)).toList := by
  induction calls generalizing serial with
  | nil =>
    show (match c.request d serial with | some q => [q] | none => []) = _
    cases h : c.request d serial <;> simp [requestsFrom, h]
  | cons c' calls ih =>
    rw [List.cons_append, requestsFrom, requestsFrom]
    cases c'.request d serial with
    | none => exact ih serial
    | some q =>
      simp only [ih (serial + 1), List.cons_append, List.length_cons]
      rw [Nat.add_assoc, Nat.add_comm 1]

/-! ## What a call begins -/

/-- What begins nothing begins nothing on a device. -/
theorem opened_history_eq_nil {es : List Effect} (d : UUID)
    (h : Slot.opened (slotEvents es) = []) : Slot.opened (slotEvents (history d es)) = [] := by
  refine List.eq_nil_iff_forall_not_mem.mpr fun q hq => ?_
  obtain ⟨u, hu⟩ := mem_opened.mp hq
  have hmem : q ∈ Slot.opened (slotEvents es) := mem_opened.mpr ⟨u, List.mem_of_mem_filter hu⟩
  rw [h] at hmem
  exact List.not_mem_nil hmem

namespace DeliveryLedger

theorem opened_supersede (env : Env) (L : DeliveryLedger) (u : UUID) :
    Slot.opened (slotEvents (L.supersede env u).2) = [] := by
  unfold supersede
  cases (L.health u).pending with
  | none => rfl
  | some p =>
    obtain ⟨h, r, q, heffects⟩ := effects_resolve env L (L.health u) .unknown
      (some "superseded by a newer request before any state transition") false {} none
    simp only [heffects, slotEvents_recorded, Slot.opened_map_closed]

/-- **A call begins the request it asks for**, and no other. -/
theorem opened_step (L : DeliveryLedger) (c : Call) (d : UUID) :
    Slot.opened (slotEvents (history d (L.step c).2)) =
      (c.request d (L.health d).begun).toList := by
  by_cases hop : ∃ u contentId source session timeout,
      c.op = .beginRequest u contentId source session timeout
  · obtain ⟨u, contentId, source, session, timeout, hop⟩ := hop
    obtain ⟨env, op⟩ := c
    subst hop
    simp only [step, asyncBeginRequest, startRequest, begun_supersede, health_device]
    rw [history_append, slotEvents_append, Slot.opened_append,
      opened_history_eq_nil d (opened_supersede env (L.device u) u), List.nil_append, Call.request]
    by_cases hu : u = d
    · subst hu
      simp [history, Effect.about, Effect.uuid, slotEvents, Slot.opened]
    · simp [history, Effect.about, Effect.uuid, slotEvents, Slot.opened, hu]
  · -- the other calls begin nothing
    have hnone : Slot.opened (slotEvents (L.step c).2) = [] := by
      refine List.eq_nil_iff_forall_not_mem.mpr fun q hq => hop ?_
      obtain ⟨u, contentId, session, timeout, hc⟩ := begun_step hq
      exact ⟨u, contentId, q.source, session, timeout, hc⟩
    rw [opened_history_eq_nil d hnone, Call.request]
    split
    · next u contentId source session timeout hc =>
      exact absurd ⟨u, contentId, source, session, timeout, hc⟩ hop
    · rfl

end DeliveryLedger

theorem begunOf_concat (d : UUID) (calls : List Call) (c : Call) :
    begunOf d (calls ++ [c]) =
      begunOf d calls ++ (c.request d ((ledgerAfter calls).health d).begun).toList := by
  unfold begunOf
  rw [historyOf_concat, slotEvents_append, Slot.opened_append, DeliveryLedger.opened_step]

/-- **The requests of a device are the calls of `async_begin_request` on it.** -/
theorem begunOf_eq (d : UUID) (calls : List Call) : begunOf d calls = requestsOf d calls := by
  induction calls using List.reverseRecOn with
  | nil => rfl
  | append_singleton calls c ih =>
    -- the number of the next request is that of the requests before it
    have hbegun : ((ledgerAfter calls).health d).begun = (requestsOf d calls).length := by
      have hserials := congrArg List.length (conserved_run d calls).serials
      rw [List.length_map, List.length_range] at hserials
      rw [← ih]
      exact hserials.symm
    rw [begunOf_concat, ih, hbegun, requestsOf, requestsOf, requestsFrom_concat, Nat.zero_add]

/-- What holds of the requests, timers and records of a device after a run. -/
structure ExactlyOnce (d : UUID) (calls : List Call) : Prop where
  /-- The requests are those that the calls of `async_begin_request` ask for, in order. -/
  asked : begunOf d calls = requestsOf d calls
  /-- A further call leaves the request it asks for pending, with its timer armed. -/
  begins : ∀ env contentId source session timeout,
    let call : Call := ⟨env, .beginRequest d contentId source session timeout⟩
    ∃ q, begunOf d (calls ++ [call]) = begunOf d calls ++ [q] ∧
      q.contentId = contentId ∧ q.source = source ∧ q.requestedAt = env.utcnow ∧
      q.sessionAtRequest = session ∧
      ((ledgerAfter (calls ++ [call])).health d).pending = some ⟨q, true⟩ ∧
      ⟨d, q.serial, timeout⟩ ∈ (ledgerAfter (calls ++ [call])).timers
  /-- No two requests of the device are one. -/
  distinct : (begunOf d calls).Nodup
  /-- A request produces at most one record, which carries its fields. -/
  once : ∀ q ∈ begunOf d calls, (recordsFor q (historyOf d calls)).length ≤ 1 ∧
    ∀ r ∈ recordsFor q (historyOf d calls), Carries r (some q)
  /-- A record with a request time was produced by a request begun before. -/
  origin : ∀ r ∈ records (historyOf d calls), r.requestedAt ≠ none →
    ∃ q ∈ begunOf d calls, r ∈ recordsFor q (historyOf d calls)
  /-- No request is lost. -/
  balance : (begunOf d calls).length
    = ((records (historyOf d calls)).filter fun r => r.requestedAt.isSome).length
      + if ((ledgerAfter calls).health d).pending.isSome then 1 else 0
  /-- Until a shutdown, the armed timers are those of the pending request. -/
  timers : (∀ c ∈ calls, c.op ≠ .shutdown) → (ledgerAfter calls).TimersMatch d
  /-- A timer whose request is not pending records nothing and changes no device, nor, until a
  shutdown, anything else. -/
  stale : ∀ env serial timeout,
    (∀ p, ((ledgerAfter calls).health d).pending = some p → p.serial ≠ serial) →
    ((ledgerAfter calls).expire env ⟨d, serial, timeout⟩).2 = [] ∧
    (∀ d', ((ledgerAfter calls).expire env ⟨d, serial, timeout⟩).1.health d'
      = (ledgerAfter calls).health d') ∧
    ((∀ c ∈ calls, c.op ≠ .shutdown) →
      ((ledgerAfter calls).expire env ⟨d, serial, timeout⟩).1 = ledgerAfter calls)
  /-- The timer of the pending request appends one `TIMEOUT` record with the request's fields
  and clears the request. -/
  expires : ∀ env serial timeout p, ((ledgerAfter calls).health d).pending = some p →
    p.serial = serial →
    (∃ r, records ((ledgerAfter calls).expire env ⟨d, serial, timeout⟩).2 = [r] ∧
      r.uuid = d ∧ r.outcome = .timeout ∧ Carries r (some p.toRequest)) ∧
    (((ledgerAfter calls).expire env ⟨d, serial, timeout⟩).1.health d).pending = none
  /-- A call fires each record it appends once and calls each registered listener on it. -/
  reported : ∀ c, Reported (ledgerAfter calls).listeners ((ledgerAfter calls).step c).2

/-- **Exactly-once resolution and no stray timers**, in every run and for every device. -/
theorem exactly_once (d : UUID) (calls : List Call) : ExactlyOnce d calls where
  asked := begunOf_eq d calls
  begins env contentId source session timeout := by
    intro call
    have hpending := DeliveryLedger.pending_begin (ledgerAfter calls) env d contentId source session
      timeout
    have harmed := (DeliveryLedger.begin_arms (ledgerAfter calls) env d contentId source session
      timeout).1
    refine ⟨
      { serial := ((ledgerAfter calls).health d).begun, contentId := contentId, source := source
        requestedAt := env.utcnow, started := env.monotonic, sessionAtRequest := session },
      ?_, rfl, rfl, rfl, rfl, ?_, ?_⟩
    · rw [begunOf_concat, Call.request]
      simp only [call, if_true, Option.toList_some]
    · rw [ledgerAfter_concat]
      exact hpending
    · rw [ledgerAfter_concat]
      exact harmed
  distinct := (conserved_run d calls).nodup_opened
  once q _ := by
    have H := conserved_run d calls
    refine ⟨?_, fun r hr => H.carries r (some q) (mem_recordsFor.mp hr)⟩
    rw [length_recordsFor]
    exact List.nodup_iff_count_le_one.mp H.nodup_closed q
  origin r hr hat := by
    have H := conserved_run d calls
    obtain ⟨q, hq⟩ := mem_records.mp hr
    cases q with
    | none =>
      -- a record that consumed no request has no request time
      exact absurd (H.carries r none hq) hat
    | some q =>
      refine ⟨q, ?_, mem_recordsFor.mpr hq⟩
      rw [begunOf, H.path.opened_eq]
      exact List.mem_append_left _ (mem_closed.mpr ⟨r, hq⟩)
  balance := (conserved_run d calls).length_opened
  timers := timersMatch_run d calls
  stale env serial timeout h := by
    rw [DeliveryLedger.expire_stale ⟨d, serial, timeout⟩ h]
    exact ⟨rfl, fun _ => rfl, fun hs =>
      DeliveryLedger.cancel_stale ⟨d, serial, timeout⟩ (timersMatch_run d calls hs) h⟩
  expires env serial timeout p hp hserial := by
    rw [DeliveryLedger.expire_own ⟨d, serial, timeout⟩ hp hserial, DeliveryLedger.resolve_eq,
      DeliveryLedger.effects_append, records_recorded, DeliveryLedger.health_append,
      if_pos (by simp)]
    refine ⟨⟨_, rfl, by simp, ?_⟩, by simp⟩
    simp [DeviceHealth.clearTimeout, hp, DeliveryLedger.resolution, Carries,
      DeviceHealth.deliveryRecord]
  reported c := step_reported (ledgerAfter calls) c

end CastDelivery
