import CastDelivery.System.Closing

/-!
# Records that no delivery waits for

A template or a TTS engine that fails, a device without a connection and a busy device are
recorded with `async_record`, outside any request. `async_record` takes the pending request for
its own if the source is the same string, so such a record can resolve the request of another
delivery. `out_of_band_iff` is the exact condition under which none does: whenever a record is
made, the pending request of its device has another source.
-/

namespace CastDelivery

/-- A record of the same source resolves the pending request. -/
theorem DeliveryLedger.pending_record_own {L : DeliveryLedger} {u : UUID} {p : PendingRequest}
    (hp : (L.health u).pending = some p) (env : Env) {call : RecordCall}
    (hs : p.source = call.source) :
    ((L.step ⟨env, .record u call⟩).1.health u).pending = none := by
  simp only [step, asyncRecord, health_device, hp, Option.any_some, hs, decide_true, if_true]
  exact pending_resolve (uuid_health L u) _ _ _ _ _

namespace System

variable {S : System} {i : Input} {d u : UUID} {p : PendingRequest} {call : RecordCall}

/-- What a record leaves of a pending request of its own device. -/
theorem pending_ledgerCall_record (hp : (S.ledger.health u).pending = some p) (env : Env)
    (call : RecordCall) :
    ((S.ledgerCall ⟨env, .record u call⟩).1.ledger.health u).pending
      = if p.source = call.source then none else some p := by
  show ((S.toHub.call ⟨env, .record u call⟩).1.ledger.health u).pending = _
  rw [Hub.pending_call]
  split
  · next hs => exact DeliveryLedger.pending_record_own hp env hs
  · next hs => exact DeliveryLedger.pending_record hp env call hs

/-! ## The turn of a device in a cycle -/

/-- A cycle does to a device what its one turn does, in a state that has the same health object
for it and comes to the same decision. -/
structure Turn (env : Env) (cycle : Cycle) (url : String) (d : UUID) (S S' : System)
    (r : System × List Output) : Prop where
  health : S'.ledger.health d = S.ledger.health d
  decision : S'.decision env cycle d = S.decision env cycle d
  after : r.1.ledger.health d = (S'.refreshDevice env cycle url d).1.1.ledger.health d
  launched : ∀ P, .launched P ∈ r.2 → P.uuid = d →
    .launched P ∈ (S'.refreshDevice env cycle url d).1.2

theorem turn_refreshDevices (env : Env) (cycle : Cycle) (url : String) {us : List UUID}
    (hus : us.Nodup) (hd : d ∈ us) (S : System) (results : Dict UUID ProbeResult) :
    ∃ S', Turn env cycle url d S S' (refreshDevices env cycle url us S results).1 := by
  induction us generalizing S results with
  | nil => cases hd
  | cons u us ih =>
    obtain ⟨hnot, hrest⟩ := List.nodup_cons.mp hus
    by_cases hu : d = u
    · subst hu
      have helse := elsewhere_refreshDevices env cycle url hnot
        (S.refreshDevice env cycle url d).1.1 (results.set d (S.refreshDevice env cycle url d).2)
      refine ⟨S, rfl, rfl, helse.health, fun P hP hPd => ?_⟩
      rcases List.mem_append.mp hP with hP | hP
      · exact hP
      · exact absurd hPd (helse.launched P hP)
    · have helse := elsewhere_refreshDevice env cycle url S hu
      obtain ⟨S', hturn⟩ := ih hrest (by simpa [hu] using hd) (S.refreshDevice env cycle url u).1.1
        (results.set u (S.refreshDevice env cycle url u).2)
      refine ⟨S', hturn.health.trans helse.health, hturn.decision.trans helse.decision,
        hturn.after, fun P hP hPd => ?_⟩
      rcases List.mem_append.mp hP with hP | hP
      · exact absurd hPd (helse.launched P hP)
      · exact hturn.launched P hP hPd

/-- The turn of a device that is not probed, in terms of the decision before the cycle. -/
theorem turn_notProbed (env : Env) (cycle : Cycle) (url : String) (S : System)
    (hnot : ∀ snapshot, S.decision env cycle d ≠ .probe snapshot)
    (hp : (S.ledger.health d).pending = some p) :
    ((S.refreshDevice env cycle url d).1.1.ledger.health d).pending
        = ((S.decision env cycle d).recordCall.elim (some p)
            fun call => if p.source = call.source then none else some p) ∧
      ∀ P, .launched P ∉ (S.refreshDevice env cycle url d).1.2 := by
  obtain ⟨hhealth, hdecision⟩ := decision_known env cycle S d
  rw [← hhealth] at hp
  unfold refreshDevice actOn
  simp only
  rw [hdecision]
  split
  · next snapshot hprobe => exact absurd hprobe (hnot snapshot)
  · cases (S.decision env cycle d).recordCall with
    | none =>
      refine ⟨hp, fun P hP => ?_⟩
      rw [List.append_nil] at hP
      exact launched_notMem_ledgerCall _ _ P hP
    | some call =>
      refine ⟨pending_ledgerCall_record hp env call, fun P hP => ?_⟩
      rcases List.mem_append.mp hP with hP | hP
      · exact launched_notMem_ledgerCall _ _ P hP
      · exact launched_notMem_ledgerCall _ _ P hP

/-- A cycle that goes through the devices. -/
theorem step_refresh {env : Env} {cycle : Cycle} {url : String}
    (henabled : S.options.enabled = true) (hurl : cycle.url = some url) :
    S.step ⟨env, .refresh cycle⟩ =
      ({ (refreshDevices env cycle url S.targets.keys S (S.data.getD ∅)).1.1 with
          data := some (refreshDevices env cycle url S.targets.keys S (S.data.getD ∅)).2 },
        (refreshDevices env cycle url S.targets.keys S (S.data.getD ∅)).1.2) := by
  simp [step, refresh, henabled, hurl]

/-- What a cycle leaves of the pending request of a device that it does not probe. -/
theorem pending_refresh {env : Env} {cycle : Cycle} {url : String}
    (henabled : S.options.enabled = true) (hurl : cycle.url = some url) (hd : d ∈ S.targets.keys)
    (hnot : ∀ snapshot, S.decision env cycle d ≠ .probe snapshot)
    (hp : (S.ledger.health d).pending = some p) :
    ((S.step ⟨env, .refresh cycle⟩).1.ledger.health d).pending
        = ((S.decision env cycle d).recordCall.elim (some p)
            fun call => if p.source = call.source then none else some p) ∧
      ¬ Launches S ⟨env, .refresh cycle⟩ d := by
  have hnodup : S.targets.keys.Nodup := S.targets.nodup
  obtain ⟨S', hturn⟩ := turn_refreshDevices env cycle url hnodup hd S (S.data.getD ∅)
  have hp' : (S'.ledger.health d).pending = some p := by rw [hturn.health]; exact hp
  obtain ⟨hafter, hquiet⟩ := turn_notProbed env cycle url S' (by rwa [hturn.decision]) hp'
  rw [hturn.decision, ← hturn.after] at hafter
  refine ⟨?_, ?_⟩
  · rw [step_refresh henabled hurl]
    exact hafter
  · rintro ⟨P, hP, hPd⟩
    rw [step_refresh henabled hurl] at hP
    exact hquiet P (hturn.launched P hP hPd)

/-! ## Records in an event -/

/-- The event makes this call of `async_record` for a device. -/
inductive MakesRecord (S : System) (i : Input) (u : UUID) (call : RecordCall) : Prop
  | callback (external : (Op.record u call).external = true)
      (event : i.event = .callback (.record u call) external)
  | decided (cycle : Cycle) (event : i.event = .refresh cycle)
      (enabled : S.options.enabled = true) (url : cycle.url ≠ none) (target : u ∈ S.targets.keys)
      (decision : (S.decision i.env cycle u).recordCall = some call)

/-- The request is still pending, and a status that confirms it still resolves it as `OK`. -/
structure Untouched (S : System) (d : UUID) (p : PendingRequest) : Prop where
  pending : (S.ledger.health d).pending = some p
  confirmed : ∀ env status, Confirms status p.toRequest →
    ∃ r, .appended r (some p.toRequest)
      ∈ ledgerEffects (S.step ⟨env, .callback (.mediaStatus d status) rfl⟩).2 ∧ r.outcome = .ok

theorem untouched_iff : Untouched S d p ↔ (S.ledger.health d).pending = some p := by
  refine ⟨Untouched.pending, fun hp => ⟨hp, fun env status hconfirms => ?_⟩⟩
  refine ⟨S.ledger.okRecord env d p status, ?_, rfl⟩
  rw [show ledgerEffects (S.step ⟨env, .callback (.mediaStatus d status) rfl⟩).2
    = (S.ledger.step ⟨env, .mediaStatus d status⟩).2 from ledgerEffects_map _,
    DeliveryLedger.effects_confirms env hp hconfirms]
  exact (mem_recorded_appended ..).mpr ⟨rfl, rfl⟩

/-- An event in which `async_record` may be called. -/
def Event.records : Event → Prop
  | .callback (.record _ _) _ | .refresh _ => True
  | _ => False

/-- The event, if it may call `async_record`, leaves alone every pending request, but for those
of the devices on which it launches a probe. -/
def LeavesPending (S : System) (i : Input) : Prop :=
  Event.records i.event → ∀ d p, (S.ledger.health d).pending = some p → ¬ Launches S i d →
    Untouched (S.step i).1 d p

/-- No record that the event makes has the source of the pending request of its device. -/
def OtherSources (S : System) (i : Input) : Prop :=
  ∀ u call, MakesRecord S i u call → ∀ p, (S.ledger.health u).pending = some p →
    p.source ≠ call.source

theorem leavesPending_callback {env : Env} {external : (Op.record u call).external = true} :
    LeavesPending S ⟨env, .callback (.record u call) external⟩ ↔
      OtherSources S ⟨env, .callback (.record u call) external⟩ := by
  have hlaunches : ∀ d, ¬ Launches S ⟨env, .callback (.record u call) external⟩ d := by
    rintro d ⟨P, hP, -⟩
    exact launched_notMem_ledgerCall S _ P hP
  constructor
  · intro h u' call' hmakes p hp hs
    cases hmakes with
    | callback _ event =>
      cases event
      have hkept := (h trivial u p hp (hlaunches u)).pending
      have hgone := pending_ledgerCall_record hp env call
      rw [if_pos hs] at hgone
      have hcontra := hkept.symm.trans hgone
      cases hcontra
    | decided cycle event => cases event
  · intro h _ d p hp _
    refine untouched_iff.mpr ?_
    show ((S.ledgerCall ⟨env, .record u call⟩).1.ledger.health d).pending = some p
    by_cases hd : d = u
    · subst hd
      rw [pending_ledgerCall_record hp env call,
        if_neg (h d call (.callback external rfl) p hp)]
    · rw [health_ledgerCall_other S rfl hd]
      exact hp

theorem leavesPending_refresh {env : Env} {cycle : Cycle} :
    LeavesPending S ⟨env, .refresh cycle⟩ ↔ OtherSources S ⟨env, .refresh cycle⟩ := by
  constructor
  · intro h u call hmakes p hp hs
    cases hmakes with
    | callback _ event => cases event
    | decided cycle' event henabled hurl htarget hdecision =>
      cases event
      obtain ⟨url, hurl⟩ := Option.ne_none_iff_exists'.mp hurl
      have hnot : ∀ snapshot, S.decision env cycle u ≠ .probe snapshot := by
        intro snapshot hprobe
        rw [hprobe] at hdecision
        cases hdecision
      obtain ⟨hafter, hlaunches⟩ := pending_refresh henabled hurl htarget hnot hp
      rw [hdecision, Option.elim_some, if_pos hs] at hafter
      have hkept := (h trivial u p hp hlaunches).pending
      have hcontra := hkept.symm.trans hafter
      cases hcontra
  · intro h _ d p hp hlaunches
    refine untouched_iff.mpr ?_
    cases henabled : S.options.enabled with
    | false =>
      simp only [step, refresh, henabled]
      exact hp
    | true =>
      cases hurl : cycle.url with
      | none =>
        simp only [step, refresh, henabled, hurl]
        exact hp
      | some url =>
        by_cases hd : d ∈ S.targets.keys
        · have hnot : ∀ snapshot, S.decision env cycle d ≠ .probe snapshot := by
            intro snapshot hprobe
            obtain ⟨P, hP, hPd⟩ := launched_refreshDevices env cycle url hd hprobe (S.data.getD ∅)
            refine hlaunches ⟨P, ?_, hPd⟩
            rw [step_refresh henabled hurl]
            exact hP
          rw [(pending_refresh henabled hurl hd hnot hp).1]
          cases hcall : (S.decision env cycle d).recordCall with
          | none => rfl
          | some call =>
            have hmakes : MakesRecord S ⟨env, .refresh cycle⟩ d call :=
              .decided cycle rfl henabled (by simp [hurl]) hd hcall
            exact if_neg (h d call hmakes p hp)
        · have helse := elsewhere_refreshDevices env cycle url hd S (S.data.getD ∅)
          rw [step_refresh henabled hurl]
          show ((refreshDevices env cycle url _ S _).1.1.ledger.health d).pending = some p
          rw [helse.health]
          exact hp

theorem leavesPending_iff (S : System) (i : Input) : LeavesPending S i ↔ OtherSources S i := by
  obtain ⟨env, event⟩ := i
  by_cases hcallback : ∃ u call external, event = .callback (.record u call) external
  · obtain ⟨u, call, external, rfl⟩ := hcallback
    exact leavesPending_callback
  · by_cases hrefresh : ∃ cycle, event = .refresh cycle
    · obtain ⟨cycle, rfl⟩ := hrefresh
      exact leavesPending_refresh
    · -- any other event makes no record of this kind
      refine iff_of_true (fun hrecords => ?_) fun u call hmakes => ?_
      · unfold Event.records at hrecords
        split at hrecords
        · next u call external hevent => exact absurd ⟨u, call, external, hevent⟩ hcallback
        · next cycle hevent => exact absurd ⟨cycle, hevent⟩ hrefresh
        · cases hrecords
      · cases hmakes with
        | callback external event => exact absurd ⟨u, call, external, event⟩ hcallback
        | decided cycle event => exact absurd ⟨cycle, event⟩ hrefresh

/-- **A record outside a delivery consumes no request** in a run if and only if whenever one is
made in the run, the pending request of its device has another source. -/
theorem out_of_band_iff (options : StoredOptions) (run : List Input) :
    Machine.Along step LeavesPending (setUp options) run ↔
      Machine.Along step OtherSources (setUp options) run :=
  Machine.along_congr leavesPending_iff _ _

/-- A second announcement on the speaker, whose template fails to render. -/
def secondAnnouncementFails : Input :=
  ⟨.bare 10, .callback (.record ⟨1⟩ (.templateFailed "UndefinedError")) (Eq.refl true)⟩

/-- The failure resolves the first announcement, which is still on its way. -/
theorem not_leavesPending :
    ¬ LeavesPending (after {} freshAnnouncement) secondAnnouncementFails := by
  intro h
  have hlaunches : ¬ Launches (after {} freshAnnouncement) secondAnnouncementFails ⟨1⟩ := by
    rintro ⟨P, hP, -⟩
    exact launched_notMem_ledgerCall _ _ P hP
  have hkept := (h trivial ⟨1⟩
    ⟨⟨0, "http://ha/tts.mp3", .announce, 9000000, 9 * second, none⟩, true⟩ (by decide)
    hlaunches).pending
  revert hkept
  decide

end System

end CastDelivery
