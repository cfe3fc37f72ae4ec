import CastDelivery.Health.History

/-!
# What holds of every run of the ledger

Two results about runs from the empty ledger, each from the history of one device:

* `no_false_ok`: an `OK` record resolves the request begun last, on a status that confirms it;
* `health_is_fold`: the counters and last values are the fold of the records.

The branches of `async_media_status` are named first: a status confirms a request, or blames it.
-/

namespace CastDelivery

/-! ## Reading a status -/

/-- The status is the evidence for `OK` that `async_media_status` asks for. -/
structure Confirms (status : MediaStatus) (request : Request) : Prop where
  notError : status.isError = false
  content : status.contentId = some request.contentId
  state : status.playerState = some MEDIA_PLAYER_STATE_BUFFERING ∨
    status.playerState = some MEDIA_PLAYER_STATE_PLAYING
  session : request.sessionAtRequest ≠ none → status.mediaSessionId ≠ request.sessionAtRequest

/-- The status reports a failed load of the request, or of an unnamed one. -/
structure Blames (status : MediaStatus) (request : Request) : Prop where
  isError : status.isError = true
  content : status.contentId = none ∨ status.contentId = some request.contentId

theorem confirms_iff (status : MediaStatus) (request : Request) :
    Confirms status request ↔ status.isError = false ∧
      status.contentId = some request.contentId ∧
      (status.playerState = some MEDIA_PLAYER_STATE_BUFFERING ∨
        status.playerState = some MEDIA_PLAYER_STATE_PLAYING) ∧
      (request.sessionAtRequest ≠ none →
        status.mediaSessionId ≠ request.sessionAtRequest) :=
  ⟨fun h => ⟨h.notError, h.content, h.state, h.session⟩,
    fun ⟨h₁, h₂, h₃, h₄⟩ => ⟨h₁, h₂, h₃, h₄⟩⟩

theorem blames_iff (status : MediaStatus) (request : Request) :
    Blames status request ↔ status.isError = true ∧
      (status.contentId = none ∨ status.contentId = some request.contentId) :=
  ⟨fun h => ⟨h.isError, h.content⟩, fun ⟨h₁, h₂⟩ => ⟨h₁, h₂⟩⟩

instance (status : MediaStatus) (request : Request) : Decidable (Confirms status request) :=
  decidable_of_iff _ (confirms_iff status request).symm

instance (status : MediaStatus) (request : Request) : Decidable (Blames status request) :=
  decidable_of_iff _ (blames_iff status request).symm

namespace DeliveryLedger

variable {env : Env} {L : DeliveryLedger} {u : UUID} {status : MediaStatus} {p : PendingRequest}

theorem mediaStatus_confirms (hp : (L.health u).pending = some p)
    (h : Confirms status p.toRequest) :
    L.asyncMediaStatus env u status
      = (L.device u).resolve env (L.health u) .ok none true status.toObserved none := by
  obtain ⟨herror, hcontent, hstate, hsession⟩ := h
  unfold asyncMediaStatus
  simp only [health_device, herror, hp, Bool.false_eq_true, if_false, hcontent, ne_eq,
    not_true_eq_false]
  rw [if_neg (by tauto), if_neg (by tauto)]

theorem mediaStatus_blames (hp : (L.health u).pending = some p)
    (h : Blames status p.toRequest) :
    L.asyncMediaStatus env u status
      = (L.device u).resolve env (L.health u) .fetchFailed
          (some "device reported idleReason=ERROR; it could not fetch the media") true
          status.toObserved none := by
  obtain ⟨herror, hcontent⟩ := h
  unfold asyncMediaStatus
  simp only [health_device, herror, hp, if_true]
  rw [if_neg (by tauto)]

theorem mediaStatus_other_error (hp : (L.health u).pending = some p)
    (herror : status.isError = true) (h : ¬ Blames status p.toRequest) :
    L.asyncMediaStatus env u status
      = (L.device u).recordObservation env (L.health u) status.toObserved := by
  rw [blames_iff] at h
  unfold asyncMediaStatus
  simp only [health_device, herror, hp, if_true]
  rw [if_pos (by tauto)]

theorem mediaStatus_unsolicited (hp : (L.health u).pending = none)
    (herror : status.isError = true) :
    L.asyncMediaStatus env u status
      = (L.device u).resolve env (L.health u) .fetchFailed
          (some "device reported idleReason=ERROR; it could not fetch the media") true
          status.toObserved status.contentId := by
  unfold asyncMediaStatus
  simp only [health_device, herror, hp, if_true]

/-- Any other status changes nothing. -/
theorem mediaStatus_ignored (herror : status.isError = false)
    (h : ∀ p, (L.health u).pending = some p → ¬ Confirms status p.toRequest) :
    L.asyncMediaStatus env u status = (L.device u, []) := by
  unfold asyncMediaStatus
  simp only [health_device, herror, Bool.false_eq_true, if_false]
  cases hp : (L.health u).pending with
  | none => rfl
  | some p =>
    have hno := h p hp
    rw [confirms_iff] at hno
    simp only
    split_ifs with h₁ h₂ h₃
    · rfl
    · rfl
    · rfl
    · exact absurd ⟨herror, by simpa using h₁, by tauto, by tauto⟩ hno

/-! ## The outcome of a record -/

theorem appended_append {h : DeviceHealth} {dl : Delivery} {req q : Option Request}
    {r : DeliveryRecord} (hr : .appended r q ∈ (L.append env h dl req).2) :
    r = h.deliveryRecord env dl ∧ q = req := by
  rw [effects_append] at hr
  exact (mem_recorded_appended ..).mp hr

theorem appended_resolve {h : DeviceHealth} {outcome : DeliveryOutcome} {error : Option String}
    {responded : Bool} {observed : Observed} {content : Option String} {q : Option Request}
    {r : DeliveryRecord}
    (hr : .appended r q ∈ (L.resolve env h outcome error responded observed content).2) :
    r.outcome = outcome ∧ q = h.request ∧ r.uuid = h.uuid := by
  rw [resolve_eq] at hr
  obtain ⟨rfl, rfl⟩ := appended_append hr
  refine ⟨?_, rfl, rfl⟩
  unfold DeviceHealth.deliveryRecord resolution
  cases h.pending <;> rfl

/-- Every exception is classified as a failure. -/
theorem classify_failure (err : Raised) (connected : Option Bool)
    (launchFailure : Option String) :
    (classify err connected launchFailure).1 ∈ FAILURE_OUTCOMES := by
  unfold classify
  simp only
  split_ifs <;> simp [FAILURE_OUTCOMES]

/-- An exception is never classified as `OK`. -/
theorem classify_ne_ok (err : Raised) (connected : Option Bool)
    (launchFailure : Option String) : (classify err connected launchFailure).1 ≠ .ok := by
  intro h
  have hfail := classify_failure err connected launchFailure
  rw [h] at hfail
  revert hfail
  decide

/-- Only a status that confirms the pending request appends an `OK` record. -/
theorem step_ok {c : Call} {r : DeliveryRecord} {q : Option Request}
    (hr : .appended r q ∈ (L.step c).2) (hok : r.outcome = .ok) :
    ∃ status p, c.op = .mediaStatus r.uuid status ∧
      (L.health r.uuid).pending = some p ∧ q = some p.toRequest ∧
      Confirms status p.toRequest := by
  obtain ⟨env, op⟩ := c
  cases op <;> simp only [step, List.not_mem_nil] at hr
  case beginRequest u content source session timeout =>
    -- a superseded request is resolved as `UNKNOWN`
    simp only [asyncBeginRequest, supersede, startRequest, List.mem_append, List.mem_singleton,
      reduceCtorEq, or_false, health_device] at hr
    cases hp : (L.health u).pending with
    | none => simp [hp] at hr
    | some p =>
      simp only [hp] at hr
      rw [(appended_resolve hr).1] at hok
      cases hok
  case expire timer =>
    simp only [expire, health_cancel] at hr
    cases hp : (L.health timer.uuid).pending with
    | none => simp [hp] at hr
    | some p =>
      simp only [hp] at hr
      split_ifs at hr
      · simp at hr
      · rw [(appended_resolve hr).1] at hok
        cases hok
  case mediaStatus u status =>
    cases herror : status.isError with
    | true =>
      cases hp : (L.health u).pending with
      | none =>
        rw [mediaStatus_unsolicited hp herror] at hr
        rw [(appended_resolve hr).1] at hok
        cases hok
      | some p =>
        by_cases hb : Blames status p.toRequest
        · rw [mediaStatus_blames hp hb] at hr
          rw [(appended_resolve hr).1] at hok
          cases hok
        · rw [mediaStatus_other_error hp herror hb] at hr
          rw [(appended_append hr).1] at hok
          cases hok
    | false =>
      by_cases hc : ∃ p, (L.health u).pending = some p ∧ Confirms status p.toRequest
      · -- the one branch that resolves as `OK`
        obtain ⟨p, hp, hconf⟩ := hc
        rw [mediaStatus_confirms hp hconf] at hr
        obtain ⟨-, hq, hu⟩ := appended_resolve hr
        rw [uuid_health] at hu
        subst hu
        exact ⟨status, p, rfl, hp, by simp [hq, DeviceHealth.request, hp], hconf⟩
      · rw [mediaStatus_ignored herror fun p hp hconf => hc ⟨p, hp, hconf⟩] at hr
        simp at hr
  case loadMediaFailed u item code =>
    simp only [asyncLoadMediaFailed, health_device] at hr
    cases hp : (L.health u).pending with
    | none => simp [hp] at hr
    | some p =>
      simp only [hp] at hr
      rw [(appended_resolve hr).1] at hok
      cases hok
  case requestFailed u err connected launchFailure =>
    rw [(appended_resolve hr).1] at hok
    exact absurd hok (classify_ne_ok err connected launchFailure)
  case record u call =>
    -- none of the calls that the repository makes records `OK`
    have hne : r.outcome = call.outcome := by
      simp only [asyncRecord] at hr
      split_ifs at hr
      · exact (appended_resolve hr).1
      · rw [(appended_append hr).1]
        rfl
    rw [hne] at hok
    cases call <;> cases hok

end DeliveryLedger

/-- The requests begun on a device in a run, in order. -/
def begunOf (d : UUID) (calls : List Call) : List Request :=
  Slot.opened (slotEvents (historyOf d calls))

/-- **No false ok.** An `OK` record for a device was appended on a media status of that device,
and the request begun last on the device, which had produced no record before, is one that the
status confirms; the record carries that request's content id, source and time. -/
theorem no_false_ok (calls : List Call) (c : Call) (r : DeliveryRecord) (q : Option Request)
    (hr : .appended r q ∈ ((ledgerAfter calls).step c).2) (hok : r.outcome = .ok) :
    ∃ status request, c.op = .mediaStatus r.uuid status ∧ q = some request ∧
      (begunOf r.uuid calls).getLast? = some request ∧
      (∀ r', .appended r' (some request) ∉ historyOf r.uuid calls) ∧
      Confirms status request ∧
      r.contentId = some request.contentId ∧ r.source = request.source ∧
      r.requestedAt = some request.requestedAt := by
  obtain ⟨status, p, hop, hp, hq, hconf⟩ := DeliveryLedger.step_ok hr hok
  -- before the call the confirmed request is the last that was begun, and unanswered
  have H := conserved_run r.uuid calls
  have hpath := H.path
  rw [DeviceHealth.request, hp, Option.map_some] at hpath
  obtain ⟨hlast, hfresh⟩ := hpath.held H.nodup_opened
  -- after the call the record carries what the request asked for
  have hcarry : Carries r q := by
    have H' := conserved_run r.uuid (calls ++ [c])
    rw [historyOf_concat] at H'
    exact H'.carries r q (List.mem_append_right _ (List.mem_filter.mpr
      ⟨hr, by simp [Effect.about, Effect.uuid]⟩))
  rw [hq] at hcarry
  obtain ⟨hat, hcontent, hsource⟩ := hcarry
  exact ⟨status, p.toRequest, hop, hq, hlast, fun r' hr' => hfresh (mem_closed.mpr ⟨r', hr'⟩),
    hconf, hcontent, hsource, hat⟩

/-- A play of a TTS clip on a device. -/
def playCall : Call :=
  ⟨.bare 0, .beginRequest ⟨1⟩ "http://ha/tts.mp3" .playMedia none DELIVERY_TIMEOUT⟩

/-- The status with which the device confirms it one second later. -/
def playingCall : Call :=
  ⟨.bare 1, .mediaStatus ⟨1⟩ ⟨⟨"http://ha/tts.mp3", "PLAYING", none, some 2⟩, false⟩⟩

theorem no_false_ok_playing :
    ∃ request, (begunOf ⟨1⟩ [playCall]).getLast? = some request ∧
      request.contentId = "http://ha/tts.mp3" ∧ request.requestedAt = 0 := by
  obtain ⟨_, request, _, _, hlast, _, _, hcontent, _, hat⟩ :=
    no_false_ok [playCall] playingCall
      { uuid := ⟨1⟩, entityId := none, name := none, source := .playMedia, outcome := .ok
        contentId := some "http://ha/tts.mp3", error := none, urlSource := none
        responded := true, requestedAt := some 0, resolvedAt := 1000000, elapsed := some 1000
        playerState := some "PLAYING", idleReason := none, mediaSessionId := some 2 }
      (some ⟨0, "http://ha/tts.mp3", .playMedia, 0, 0, none⟩) (by decide) rfl
  exact ⟨request, hlast, (Option.some.inj hcontent).symm, (Option.some.inj hat).symm⟩

/-! ## Exactly one resolution, and no stray timers -/

/-- The records that consumed a request. -/
def recordsFor (q : Request) (es : List Effect) : List DeliveryRecord :=
  es.filterMap fun
    | .appended record (some q') => if q' = q then some record else none
    | _ => none

theorem mem_recordsFor {q : Request} {es : List Effect} {r : DeliveryRecord} :
    r ∈ recordsFor q es ↔ .appended r (some q) ∈ es := by
  simp only [recordsFor, List.mem_filterMap]
  constructor
  · rintro ⟨e, he, hr⟩
    split at hr
    · next record q' =>
      split_ifs at hr with hq
      rw [← Option.some.inj hr, ← hq]
      exact he
    · cases hr
  · intro h
    exact ⟨_, h, by simp⟩

theorem length_recordsFor (q : Request) (es : List Effect) :
    (recordsFor q es).length = (Slot.closed (slotEvents es)).count q := by
  induction es with
  | nil => rfl
  | cons e es ih =>
    rw [← List.singleton_append, slotEvents_append, Slot.closed_append, List.count_append, ← ih,
      recordsFor, List.filterMap_append, List.length_append, ← recordsFor, ← recordsFor]
    congr 1
    cases e with
    | appended r q' =>
      cases q' with
      | none => rfl
      | some q' => by_cases hq : q' = q <;> simp [recordsFor, slotEvents, Slot.closed, hq]
    | _ => rfl

namespace DeliveryLedger

variable {env : Env} {L : DeliveryLedger} {p : PendingRequest}

theorem expire_stale (timer : Timer)
    (h : ∀ p, (L.health timer.uuid).pending = some p → p.serial ≠ timer.serial) :
    L.expire env timer = (L.cancel timer.handle, []) := by
  unfold expire
  simp only [health_cancel]
  cases hp : (L.health timer.uuid).pending with
  | none => rfl
  | some p => exact if_pos (h p hp)

theorem expire_own (timer : Timer) (hp : (L.health timer.uuid).pending = some p)
    (hserial : p.serial = timer.serial) :
    L.expire env timer = (L.cancel timer.handle).resolve env
      (L.health timer.uuid).clearTimeout .timeout
      (some s!"no BUFFERING, PLAYING, or ERROR status within {timer.timeout}s") false {} none := by
  unfold expire
  simp only [health_cancel, hp]
  rw [if_neg (by simpa using hserial)]

/-- Firing a timer whose request is not pending leaves the armed timers as they are. -/
theorem cancel_stale (timer : Timer) (ht : L.TimersMatch timer.uuid)
    (h : ∀ p, (L.health timer.uuid).pending = some p → p.serial ≠ timer.serial) :
    L.cancel timer.handle = L := by
  have hkeep : L.timers.filter (fun t => t.handle ≠ timer.handle) = L.timers := by
    rw [List.filter_eq_self]
    intro t hmem
    rw [decide_eq_true_eq]
    intro hhandle
    have hu : t.uuid = timer.uuid := congrArg Prod.fst hhandle
    have hin : t.handle ∈ (L.timersOf timer.uuid).map Timer.handle :=
      List.mem_map_of_mem (List.mem_filter.mpr ⟨hmem, by simpa using hu⟩)
    rw [ht.armed, hhandle, DeviceHealth.request] at hin
    cases hp : (L.health timer.uuid).pending with
    | none => simp [hp] at hin
    | some p =>
      rw [hp] at hin
      have hserial : timer.serial = p.serial := by simpa [Timer.handle] using hin
      exact h p hp hserial.symm
  unfold cancel
  rw [hkeep]

end DeliveryLedger

/-! ## Device health is the fold of the record history -/

theorem length_rtakeWhile_le {α : Type*} {p q : α → Bool} (h : ∀ a, p a = true → q a = true)
    (l : List α) : (l.rtakeWhile p).length ≤ (l.rtakeWhile q).length := by
  induction l using List.reverseRecOn with
  | nil => simp
  | append_singleton l a ih =>
    rw [List.rtakeWhile_concat, List.rtakeWhile_concat]
    by_cases hp : p a = true
    · rw [if_pos hp, if_pos (h a hp), List.length_append, List.length_append]
      exact Nat.add_le_add_right ih _
    · rw [if_neg hp]
      exact Nat.zero_le _

/-- The health of a device after a run, and what the next call can change of it. -/
structure HealthIsFold (d : UUID) (calls : List Call) : Prop where
  /-- The last values and the counters are the fold of the records. -/
  fold : FoldOf (records (historyOf d calls)) ((ledgerAfter calls).health d)
  /-- The last success is when the last `OK` was resolved, else the restored value. -/
  lastSuccess : ((ledgerAfter calls).health d).lastSuccess
    = (lastOk (records (historyOf d calls))).or (restoredIn d calls)
  timeouts_le : ((ledgerAfter calls).health d).consecutiveTimeouts
    ≤ ((ledgerAfter calls).health d).consecutiveFailures
  /-- A call whose records are not `OK` leaves the last success alone. -/
  keeps : ∀ c, c.op.restored d = none →
    (∀ r ∈ records (history d ((ledgerAfter calls).step c).2), r.outcome ≠ .ok) →
    (((ledgerAfter calls).step c).1.health d).lastSuccess
      = ((ledgerAfter calls).health d).lastSuccess
  /-- A call whose records are `UNKNOWN` or `SKIPPED_BUSY` leaves all four values alone. -/
  ignores : ∀ c, c.op.restored d = none →
    (∀ r ∈ records (history d ((ledgerAfter calls).step c).2),
      r.outcome = .unknown ∨ r.outcome = .skippedBusy) →
    let before := (ledgerAfter calls).health d
    let after := ((ledgerAfter calls).step c).1.health d
    after.lastOutcome = before.lastOutcome ∧ after.lastSuccess = before.lastSuccess ∧
      after.consecutiveFailures = before.consecutiveFailures ∧
      after.consecutiveTimeouts = before.consecutiveTimeouts

theorem lastOk_eq_none {H : List DeliveryRecord} (h : ∀ r ∈ H, r.outcome ≠ .ok) :
    lastOk H = none := by
  have hnil : (H.filter fun r => r.outcome = .ok) = [] := by
    rw [List.filter_eq_nil_iff]
    intro r hr
    simpa using h r hr
  rw [lastOk, hnil]
  rfl

/-- **Device health is the fold of its record history**, in every run and for every device. -/
theorem health_is_fold (d : UUID) (calls : List Call) : HealthIsFold d calls := by
  have F := foldOf_run d calls
  have hkeeps : ∀ c, c.op.restored d = none →
      (∀ r ∈ records (history d ((ledgerAfter calls).step c).2), r.outcome ≠ .ok) →
      (((ledgerAfter calls).step c).1.health d).lastSuccess
        = ((ledgerAfter calls).health d).lastSuccess := by
    intro c hc hr
    rw [step_lastSuccess, lastOk_eq_none hr, hc, Option.none_or, Option.or_none]
  refine ⟨F, lastSuccess_run d calls, ?_, hkeeps, fun c hc hr => ?_⟩
  · rw [F.timeouts, F.failures]
    refine length_rtakeWhile_le (fun r hr => ?_) _
    rw [decide_eq_true_eq] at hr ⊢
    simp [hr]
  · -- the fold skips records that are not decisive
    have F' := foldOf_run d (calls ++ [c])
    rw [ledgerAfter_concat, historyOf_concat, records_append] at F'
    have hnil : (records (history d ((ledgerAfter calls).step c).2)).filter Decisive = [] := by
      rw [List.filter_eq_nil_iff]
      intro r hmem
      rcases hr r hmem with h | h <;> simp [Decisive, h]
    have hout := F'.lastOutcome
    have hfail := F'.failures
    have htime := F'.timeouts
    rw [List.filter_append, hnil, List.append_nil] at hout hfail htime
    refine ⟨hout.trans F.lastOutcome.symm, hkeeps c hc fun r hmem => ?_,
      hfail.trans F.failures.symm, htime.trans F.timeouts.symm⟩
    rcases hr r hmem with h | h <;> simp [h]

end CastDelivery
