import CastDelivery.System.BreakerLaw

/-!
# What closes a circuit

`_async_on_record` returns at once for a record that is not a probe's, while the documentation
says that any successful delivery closes the circuit. `closes_on_ok_iff` is the exact condition
under which it does: whenever a status confirms the pending request of a device whose circuit is
not closed, a probe began that request and the breaker still listens.

`opened_of_circuit` is the invariant that goes with it: a circuit that is not closed was opened
at some event, and no `OK` of the device has been recorded since.
-/

namespace CastDelivery

/-- The record with which a status resolves the pending request that it confirms. -/
def DeliveryLedger.okRecord (L : DeliveryLedger) (env : Env) (u : UUID) (p : PendingRequest)
    (status : MediaStatus) : DeliveryRecord :=
  (L.health u).deliveryRecord env
    (resolution env (some p) .ok none true status.toObserved none)

namespace DeliveryLedger

variable {L : DeliveryLedger} {env : Env} {u : UUID} {p : PendingRequest} {status : MediaStatus}

/-- The effects of a status that confirms the pending request. -/
theorem effects_confirms (env : Env) (hp : (L.health u).pending = some p)
    (h : Confirms status p.toRequest) :
    (L.step ⟨env, .mediaStatus u status⟩).2
      = recorded L.listeners
          ((L.health u).withoutPending.account (L.okRecord env u p status))
          (L.okRecord env u p status) (some p.toRequest) := by
  have hstep : (L.step ⟨env, .mediaStatus u status⟩).2
      = ((L.device u).resolve env (L.health u) .ok none true status.toObserved none).2 :=
    congrArg Prod.snd (mediaStatus_confirms hp h)
  rw [hstep, resolve_pending (L.device u) hp, listeners_device]
  rfl

end DeliveryLedger

namespace Hub

variable {H : Hub} {env : Env} {u : UUID} {p : PendingRequest} {status : MediaStatus}

/-- **The circuit after an `OK`.** It is closed if a probe began the request and the breaker
listens, and left alone otherwise. -/
theorem circuit_call_confirms (hp : (H.ledger.health u).pending = some p)
    (h : Confirms status p.toRequest) :
    ((H.call ⟨env, .mediaStatus u status⟩).1.ledger.health u).circuitOpenUntil
      = if p.source = .probe ∧ .circuitBreaker ∈ H.ledger.listeners then none
        else (H.ledger.health u).circuitOpenUntil := by
  have heffects := DeliveryLedger.effects_confirms env hp h
  split
  · next hprobe =>
    obtain ⟨hs, hlistens⟩ := hprobe
    have hcloses : ∀ h', H.options.asyncOnRecord env h' (H.ledger.okRecord env u p status)
        = some none := by
      intro h'
      have hsource : (H.ledger.okRecord env u p status).source = .probe := hs
      have hok : (H.ledger.okRecord env u p status).outcome = .ok := rfl
      unfold ProbeOptions.asyncOnRecord
      rw [if_neg (not_not.mpr hsource), if_pos hok]
    have htold : Effect.called .circuitBreaker
        ((H.ledger.health u).withoutPending.account (H.ledger.okRecord env u p status))
        (H.ledger.okRecord env u p status)
          ∈ (H.ledger.step ⟨env, .mediaStatus u status⟩).2 := by
      rw [heffects, DeliveryLedger.mem_recorded_called]
      exact ⟨hlistens, rfl, rfl⟩
    have huuid : ((H.ledger.health u).withoutPending.account
        (H.ledger.okRecord env u p status)).uuid = u := by simp
    have hassigned := assigned_eq_some.mpr ⟨_, _, rfl, huuid, hcloses _⟩
    refine circuit_call_of_forall ⟨_, htold, hassigned⟩ fun e he v hv => ?_
    obtain ⟨h', r', rfl, -, hv⟩ := assigned_eq_some.mp hv
    rw [heffects, DeliveryLedger.mem_recorded_called] at he
    rw [he.2.2, hcloses] at hv
    exact (Option.some.inj hv).symm
  · next hother =>
    refine circuit_call_of_none fun e he => ?_
    by_contra hne
    obtain ⟨v, hv⟩ := Option.ne_none_iff_exists'.mp hne
    obtain ⟨h', r', rfl, -, hv⟩ := assigned_eq_some.mp hv
    rw [heffects, DeliveryLedger.mem_recorded_called] at he
    obtain ⟨hlistens, -, rfl⟩ := he
    exact hother ⟨(ProbeOptions.asyncOnRecord_some hv).1, hlistens⟩

end Hub

namespace System

variable {S : System} {i : Input} {d : UUID}

/-! ## The circuit after an event -/

/-- A call that records neither an `OK` nor a `TIMEOUT` leaves every circuit alone. -/
theorem circuit_ledgerCall {c : Call}
    (hc : ∀ o, c.op.outcome? = some o → o ≠ .ok ∧ o ≠ .timeout) :
    ((S.ledgerCall c).1.ledger.health d).circuitOpenUntil
      = (S.ledger.health d).circuitOpenUntil := by
  refine Hub.circuit_call_of_none (H := S.toHub) fun e he => ?_
  by_contra hne
  obtain ⟨v, hv⟩ := Option.ne_none_iff_exists'.mp hne
  obtain ⟨h, r, rfl, -, hv⟩ := Hub.assigned_eq_some.mp hv
  obtain ⟨hok, htimeout⟩ := hc _ (DeliveryLedger.told_step he).outcome
  rcases (ProbeOptions.asyncOnRecord_some hv).2 with ⟨h, -⟩ | ⟨h, -⟩
  · exact hok h
  · exact htimeout h

theorem circuit_refreshDevice (env : Env) (cycle : Cycle) (url : String) (u : UUID) :
    ((S.refreshDevice env cycle url u).1.1.ledger.health d).circuitOpenUntil
      = (S.ledger.health d).circuitOpenUntil := by
  have hknown : ((S.ledgerCall ⟨env, .device u⟩).1.ledger.health d).circuitOpenUntil
      = (S.ledger.health d).circuitOpenUntil := circuit_ledgerCall (by simp [Op.outcome?])
  unfold refreshDevice actOn
  simp only
  split
  · refine (circuit_ledgerCall (S := { (S.ledgerCall ⟨env, .device u⟩).1 with
      running := _, probes := _ }) ?_).trans hknown
    simp [Op.outcome?]
  · split
    · next call _ =>
      refine (circuit_ledgerCall fun o ho => ?_).trans hknown
      rw [← Option.some.inj ho]
      exact recordCall_outcome call
    · exact hknown

theorem circuit_refreshDevices (env : Env) (cycle : Cycle) (url : String) (us : List UUID)
    (S : System) (results : Dict UUID ProbeResult) :
    ((refreshDevices env cycle url us S results).1.1.ledger.health d).circuitOpenUntil
      = (S.ledger.health d).circuitOpenUntil := by
  induction us generalizing S results with
  | nil => rfl
  | cons u us ih => exact (ih _ _).trans (circuit_refreshDevice env cycle url u)

/-- **What an event does to a circuit** is what its call does, if it makes one. -/
theorem circuit_step (S : System) (i : Input) (d : UUID) :
    ((S.step i).1.ledger.health d).circuitOpenUntil = (S.ledger.health d).circuitOpenUntil ∨
      ∃ c, S.callOf i = some c ∧ ledgerEffects (S.step i).2 = (S.ledger.step c).2 ∧
        ((S.step i).1.ledger.health d).circuitOpenUntil
          = ((S.toHub.call c).1.ledger.health d).circuitOpenUntil := by
  have hmove := move_step S i
  generalize S.step i = r at hmove ⊢
  cases hmove with
  | idle hub => exact .inl (by rw [hub])
  | options => exact .inl rfl
  | call c plays hc => exact .inr ⟨c, hc, ledgerEffects_map _, rfl⟩
  | cycle cycle url results => exact .inl (circuit_refreshDevices ..)
  | wait p stage deadline => exact .inl (by rw [toHub_waitProbe])
  | fail p err hp hc =>
    refine .inr ⟨_, hc, ?_, by rw [toHub_finishProbe]; rfl⟩
    rw [ledgerEffects_append, ledgerEffects_finishProbe, List.append_nil]
    exact ledgerEffects_map _
  | finish p => exact .inl (by rw [toHub_finishProbe])

/-- A circuit that an event takes from closed is opened by a record of the event. -/
theorem opens_of_circuit {t : Monotonic} (hclosed : (S.ledger.health d).circuitOpenUntil = none)
    (hopen : ((S.step i).1.ledger.health d).circuitOpenUntil = some t) :
    ∃ backoff, Opens S i d backoff := by
  rcases circuit_step S i d with hsame | ⟨c, hc, heffects, hcall⟩
  · rw [hsame, hclosed] at hopen
    cases hopen
  · rw [hopen, Hub.circuit_call, hclosed] at hcall
    -- the last assignment was to `t`
    have hlast : ((S.ledger.step c).2.filterMap
        (Hub.assigned c.env S.options d)).getLast? = some (some t) := by
      revert hcall
      cases ((S.ledger.step c).2.filterMap (Hub.assigned c.env S.options d)).getLast? with
      | none => intro h; cases h
      | some value => intro h; exact congrArg some h.symm
    obtain ⟨e, he, hassigned⟩ := List.mem_filterMap.mp (List.mem_of_getLast? hlast)
    obtain ⟨h, r, rfl, hd, hvalue⟩ := Hub.assigned_eq_some.mp hassigned
    obtain ⟨hprobe, hdecisive⟩ := ProbeOptions.asyncOnRecord_some hvalue
    have htimeout : r.outcome = .timeout := by
      rcases hdecisive with ⟨-, h⟩ | ⟨h, -⟩
      · cases h
      · exact h
    have ht := ((ProbeOptions.asyncOnRecord_timeout hprobe htimeout _).mp hvalue).2
    rw [callOf_env hc] at hassigned ht
    refine ⟨S.options.backoff h.consecutiveTimeouts, .called .circuitBreaker h r, ?_, ?_⟩
    · rw [heffects]
      exact he
    · rw [hassigned, ht]

/-! ## An `OK` and the circuit -/

/-- An event appends an `OK` record of the device. -/
def RecordsOk (S : System) (i : Input) (d : UUID) : Prop :=
  ∃ r ∈ records (history d (ledgerEffects (S.step i).2)), r.outcome = .ok

/-- The status that arrives confirms the pending request of the device. -/
structure Confirmed (S : System) (i : Input) (d : UUID) (p : PendingRequest) : Prop where
  pending : (S.ledger.health d).pending = some p
  status : ∃ status external, i.event = .callback (.mediaStatus d status) external ∧
    Confirms status p.toRequest

/-- Only a callback hands the ledger a media status. -/
theorem event_of_mediaStatus {c : Call} {status : MediaStatus} (hc : S.callOf i = some c)
    (hop : c.op = .mediaStatus d status) :
    ∃ external, i.event = .callback (.mediaStatus d status) external := by
  unfold callOf at hc
  split at hc
  · next op external hevent =>
    cases hc
    subst hop
    exact ⟨external, hevent⟩
  · cases hc
    cases hop
  · split at hc
    · split at hc <;> cases hc <;> cases hop
    · cases hc
  · split at hc <;> cases hc
    cases hop
  · cases hc

theorem recordsOk_iff : RecordsOk S i d ↔ ∃ p, Confirmed S i d p := by
  constructor
  · rintro ⟨r, hr, hok⟩
    obtain ⟨q, hq⟩ := mem_records.mp hr
    obtain ⟨he, habout⟩ := List.mem_filter.mp hq
    have hd : r.uuid = d := of_decide_eq_true habout
    obtain ⟨c, hc, heffects⟩ := call_of_record he rfl (.inl hok)
    rw [heffects] at he
    obtain ⟨status, p, hop, hp, -, hconfirms⟩ := DeliveryLedger.step_ok he hok
    rw [hd] at hop hp
    obtain ⟨external, hevent⟩ := event_of_mediaStatus hc hop
    exact ⟨p, hp, status, external, hevent, hconfirms⟩
  · rintro ⟨p, hp, status, external, hevent, hconfirms⟩
    refine ⟨S.ledger.okRecord i.env d p status, ?_, rfl⟩
    have hstep : ledgerEffects (S.step i).2
        = (S.ledger.step ⟨i.env, .mediaStatus d status⟩).2 := by
      unfold step
      rw [hevent]
      exact ledgerEffects_map _
    rw [hstep, DeliveryLedger.effects_confirms _ hp hconfirms]
    refine mem_records.mpr ⟨some p.toRequest, List.mem_filter.mpr ⟨?_, ?_⟩⟩
    · exact (mem_recorded_appended ..).mpr ⟨rfl, rfl⟩
    · simp [Effect.about, Effect.uuid, DeliveryLedger.okRecord]

/-- The circuit after a status that confirms the pending request. -/
theorem circuit_confirmed {p : PendingRequest} (h : Confirmed S i d p) :
    ((S.step i).1.ledger.health d).circuitOpenUntil
      = if p.source = .probe ∧ .circuitBreaker ∈ S.ledger.listeners then none
        else (S.ledger.health d).circuitOpenUntil := by
  obtain ⟨hp, status, external, hevent, hconfirms⟩ := h
  have hstep : (S.step i).1.toHub = (S.toHub.call ⟨i.env, .mediaStatus d status⟩).1 := by
    unfold step
    rw [hevent]
    rfl
  rw [hstep]
  exact Hub.circuit_call_confirms (H := S.toHub) hp hconfirms

/-- The circuit of a device is closed, and a cycle that finds nothing else in the way probes the
device. -/
structure Closed (S : System) (d : UUID) : Prop where
  circuit : (S.ledger.health d).circuitOpenUntil = none
  probed : ∀ env cycle snapshot, cycle.snapshots d = some snapshot → d ∉ S.running →
    (snapshot.isAudioGroup = true → S.options.groups = true) →
    S.options.excludesVideo snapshot = false → snapshot.busy = false →
    S.decision env cycle d = .probe snapshot

theorem closed_iff : Closed S d ↔ (S.ledger.health d).circuitOpenUntil = none := by
  refine ⟨Closed.circuit, fun h => ⟨h, ?_⟩⟩
  intro env cycle snapshot hreported hrunning hgroup hvideo hidle
  refine decide_eq_probe.mpr ⟨hreported, by simpa using hrunning, hgroup, hvideo, ?_, hidle⟩
  intro t ht
  rw [h] at ht
  cases ht

/-- Every device of which the event records an `OK` has its circuit closed afterwards. -/
def ClosesOnOk (S : System) (i : Input) : Prop := ∀ d, RecordsOk S i d → Closed (S.step i).1 d

/-- A status that confirms the pending request of a device whose circuit is not closed confirms
a request of a probe, and the breaker listens. -/
def OnlyProbesConfirmed (S : System) (i : Input) : Prop :=
  ∀ d p, Confirmed S i d p → (S.ledger.health d).circuitOpenUntil ≠ none →
    p.source = .probe ∧ .circuitBreaker ∈ S.ledger.listeners

theorem closesOnOk_iff (S : System) (i : Input) : ClosesOnOk S i ↔ OnlyProbesConfirmed S i := by
  unfold ClosesOnOk OnlyProbesConfirmed
  refine forall_congr' fun d => ?_
  rw [recordsOk_iff, closed_iff, forall_exists_index]
  refine forall_congr' fun p => forall_congr' fun hconfirmed => ?_
  rw [circuit_confirmed hconfirmed]
  split
  · next hprobe => exact iff_of_true rfl fun _ => hprobe
  · next hother =>
    constructor
    · intro hclosed hne
      exact absurd hclosed hne
    · intro h
      by_contra hne
      exact hother (h hne)

/-! ## Runs -/

/-- In a run, the circuit of a device was closed and then opened, and no `OK` of the device has
been recorded since. -/
def OpenedSinceOk (options : StoredOptions) (d : UUID) (run : List Input) : Prop :=
  ∃ before i later backoff, run = before ++ i :: later ∧
    ((after options before).ledger.health d).circuitOpenUntil = none ∧
    Opens (after options before) i d backoff ∧
    ∀ r ∈ records (history d (ledgerEffects
      (Machine.emitted step (after options (before ++ [i])) later))), r.outcome ≠ .ok

theorem OpenedSinceOk.concat {options : StoredOptions} {run : List Input}
    (h : OpenedSinceOk options d run) (hok : ¬ RecordsOk (after options run) i d) :
    OpenedSinceOk options d (run ++ [i]) := by
  obtain ⟨before, j, later, backoff, rfl, hclosed, hopens, hsince⟩ := h
  refine ⟨before, j, later ++ [i], backoff, by simp, hclosed, hopens, fun r hr => ?_⟩
  have hend : Machine.final step (after options (before ++ [j])) later
      = after options (before ++ j :: later) := by
    unfold after
    rw [← Machine.final_append, List.append_assoc]
    rfl
  rw [Machine.emitted_concat, hend, ledgerEffects_append, history_append, records_append] at hr
  rcases List.mem_append.mp hr with hr | hr
  · exact hsince r hr
  · exact fun h => hok ⟨r, hr, h⟩

/-- Where every `OK` closes the circuit, one that is not closed has seen none since it opened. -/
theorem opened_of_circuit {options : StoredOptions} {run : List Input}
    (h : Machine.Along step ClosesOnOk (setUp options) run) {t : Monotonic}
    (ht : ((after options run).ledger.health d).circuitOpenUntil = some t) :
    OpenedSinceOk options d run := by
  induction run using List.reverseRecOn generalizing t with
  | nil => cases ht
  | append_singleton run i ih =>
    obtain ⟨hrun, hi, -⟩ := (Machine.along_append _ _ _).mp h
    rw [after, Machine.final_concat] at ht
    cases hbefore : ((after options run).ledger.health d).circuitOpenUntil with
    | none =>
      obtain ⟨backoff, hopens⟩ := opens_of_circuit hbefore ht
      exact ⟨run, i, [], backoff, rfl, hbefore, hopens, by simp [records, history, ledgerEffects]⟩
    | some t' =>
      refine (ih hrun hbefore).concat fun hok => ?_
      have hnone := ht.symm.trans (hi d hok).circuit
      cases hnone

/-- **Any success closes the circuit** in a run, and an open circuit has seen no `OK` since it was
opened, if and only if the requests that a status confirms while the circuit of their device is
not closed are those of probes, confirmed while the breaker listens. -/
theorem closes_on_ok_iff (options : StoredOptions) (run : List Input) :
    (Machine.Along step ClosesOnOk (setUp options) run ∧
      ∀ d before t, before <+: run →
        ((after options before).ledger.health d).circuitOpenUntil = some t →
        OpenedSinceOk options d before) ↔
      Machine.Along step OnlyProbesConfirmed (setUp options) run := by
  rw [← Machine.along_congr closesOnOk_iff]
  refine ⟨And.left, fun h => ⟨h, fun d before t hprefix ht => ?_⟩⟩
  obtain ⟨later, rfl⟩ := hprefix
  exact opened_of_circuit ((Machine.along_append _ _ _).mp h).1 ht

/-- Two probes hang and open the circuit of a speaker; then an announcement is on its way. -/
def announcedWhileOpen : List Input :=
  twoHungProbes ++ [hungProbe 1 310,
    ⟨.bare 340, .play ⟨1⟩ "http://ha/tts.mp3" .announce none⟩]

/-- The status with which the speaker plays the announcement. -/
def announcementPlays : Input :=
  ⟨.bare 341, .callback (.mediaStatus ⟨1⟩ ⟨⟨"http://ha/tts.mp3", "PLAYING", none, some 7⟩, false⟩)
    (Eq.refl true)⟩

/-- The announcement succeeds and leaves the circuit open until 930 seconds. -/
theorem not_closesOnOk :
    ¬ ClosesOnOk (after {} announcedWhileOpen) announcementPlays ∧
      ((after {} (announcedWhileOpen ++ [announcementPlays])).ledger.health ⟨1⟩).circuitOpenUntil
        = some (930 * second) := by
  refine ⟨fun h => ?_, by decide⟩
  have hok : RecordsOk (after {} announcedWhileOpen) announcementPlays ⟨1⟩ := by
    unfold RecordsOk
    decide
  have hclosed := (h ⟨1⟩ hok).circuit
  revert hclosed
  decide

end System

end CastDelivery
