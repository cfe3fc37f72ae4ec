import CastDelivery.Entity.Raising

/-!
# What `responded` says of a failure

`async_request_failed` derives from an exception whether the device answered. An exception of
which it recognises neither the class nor the cause counts as an answer, and so does a
`RequestFailed` while the entity is connected or the receiver has a launch failure. But the
connection is the one when the call goes on, not when its exception was raised, and the launch
failure is the last one, whichever request it refused.

`responded_iff` is the exact condition under which a failure is recorded as answered only if
the device has answered.
-/

namespace CastDelivery

namespace DeliveryLedger

/-- The exception on whose class `async_request_failed` decides. -/
def causeOf (err : Raised) : Option Exc :=
  if err.exc.cls.isPyChromecastError then some err.exc else err.cause

/-- A failure counts as answered exactly if it is a `FETCH_FAILED`. -/
theorem responded_classify (err : Raised) (connected : Option Bool) (failure : Option String) :
    (classify err connected failure).2.1 = true ↔
      (classify err connected failure).1 = .fetchFailed := by
  unfold classify
  simp only
  split_ifs <;> simp

/-- Which failures count as answered. -/
theorem responded_classify_iff (err : Raised) (connected : Option Bool)
    (failure : Option String) :
    (classify err connected failure).2.1 = true ↔ err.exc.cls ≠ .timeoutError ∧
      (causeOf err = none ∨ ∃ e, causeOf err = some e ∧
        (e.cls.isPyChromecastError = false ∨ (∃ name, e.cls = .otherPyChromecast name) ∨
          e.cls = .requestFailed ∧ (connected = some true ∨ strOr failure "" ≠ ""))) := by
  have hcause : (if err.exc.cls.isPyChromecastError = true then some err.exc else err.cause)
      = causeOf err := rfl
  unfold classify
  simp only [hcause, apply_ite Prod.snd, apply_ite Prod.fst]
  generalize causeOf err = cause
  by_cases htimeout : err.exc.cls = .timeoutError
  · simp [htimeout]
  · cases cause with
    | none => simp [htimeout]
    | some e =>
      have hsame : ∀ P : Exc → Prop, (∃ e', some e = some e' ∧ P e') ↔ P e := by simp
      rw [hsame, Option.map_some]
      generalize e.cls = cls
      cases cls with
      | requestFailed =>
        -- a refusal counts as an answer if something is known of the device
        have hpy : ExcClass.requestFailed.isPyChromecastError = true := rfl
        simp [htimeout, hpy]
      | _ => simp [htimeout, ExcClass.isPyChromecastError]

/-- The one record of `async_request_failed`. -/
theorem records_requestFailed (L : DeliveryLedger) (env : Env) (u : UUID) (err : Raised)
    (connected : Option Bool) (failure : Option String) :
    ∃ r, CastDelivery.records (L.step ⟨env, .requestFailed u err connected failure⟩).2 = [r] ∧
      r.outcome = (classify err connected failure).1 ∧
      r.responded = (classify err connected failure).2.1 := by
  simp only [step, asyncRequestFailed, resolve_eq, effects_append, records_recorded]
  refine ⟨_, rfl, ?_, ?_⟩ <;>
    · unfold DeviceHealth.deliveryRecord resolution
      cases ((L.device u).health u).pending <;> rfl

end DeliveryLedger

namespace Entity

variable {S : Entity} {R : Readings} {i : Input} {id : ℕ} {caller : Caller} {request : Request}
  {err : Raised}

/-- The job of a call raised its exception while the entity was connected. -/
def RaisedConnected (S : Entity) (id : ℕ) : Prop :=
  ∃ caller request err, S.calls.get? id = some ⟨caller, .playing request (.raised err true)⟩

/-- The last launch failure of the receiver is that of a call. -/
def LaunchRefused (S : Entity) (id : ℕ) : Prop :=
  ∃ failure, S.launchFailure = some failure ∧ failure.call = some id

/-- The device answered the request of a call, and the exception reports its answer: a refusal
while the entity was connected, a refusal of the launch for this request, or an error of another
kind than those of the transport. -/
def Answered (S : Entity) (id : ℕ) (err : Raised) : Prop :=
  ∃ e, DeliveryLedger.causeOf err = some e ∧
    (e.cls = .requestFailed ∧ (RaisedConnected S id ∨ LaunchRefused S id) ∨
      ∃ name, e.cls = .otherPyChromecast name)

/-- What the event records of a failure is answered only if the device answered. -/
def RespondsRightly (S : Entity) (i : Input) : Prop :=
  ∀ id caller request err, Raises S i id caller request err →
    ∀ r ∈ records (ledgerEffects (S.step i).2), (r.responded = true → Answered S id err) ∧
      (¬ Answered S id err → r.responded = false ∧ r.outcome ≠ .fetchFailed)

/-- An exception that is handled in the event is a `TimeoutError` or comes from a
`PyChromecastError`; and if a `RequestFailed` ends a play while the entity is connected or the
receiver has a launch failure, then the entity was connected when it was raised, or the launch
failure is that of the call. -/
def Attributable (S : Entity) (i : Input) : Prop :=
  ∀ id caller request err, Raises S i id caller request err → err.exc.cls = .homeAssistantError →
    ∃ e, DeliveryLedger.causeOf err = some e ∧ e.cls.isPyChromecastError = true ∧
      (e.cls = .requestFailed → caller ≠ .probe →
        S.available = true ∨ S.lastLaunchFailure ≠ none →
          RaisedConnected S id ∨ LaunchRefused S id)

/-- The description of a launch failure is not empty. -/
theorem lastLaunchFailure_known (S : Entity) :
    strOr S.lastLaunchFailure "" ≠ "" ↔ S.lastLaunchFailure ≠ none := by
  cases hlast : S.lastLaunchFailure with
  | none => simp [strOr]
  | some text =>
    have hne : text ≠ "" := by
      unfold lastLaunchFailure at hlast
      split at hlast
      · obtain ⟨failure, -, rfl⟩ := Option.map_eq_some_iff.mp hlast
        intro hempty
        have hlength := congrArg String.length hempty
        simp [LaunchFailure.text, String.length_append] at hlength
      · cases hlast
    simp [strOr, hne]

/-- What a call tells the ledger of a `HomeAssistantError`. -/
theorem failureCall_homeAssistant (S : Entity) (caller : Caller)
    (herr : err.exc.cls = .homeAssistantError) :
    ∃ connected failure,
      S.failureCall caller err = some (.requestFailed S.uuid err connected failure) ∧
        (connected = some true ∨ strOr failure "" ≠ "" ↔
          caller ≠ .probe ∧ (S.available = true ∨ S.lastLaunchFailure ≠ none)) := by
  unfold failureCall
  rw [herr]
  cases caller with
  | probe => exact ⟨none, none, rfl, by simp [strOr]⟩
  | announce | playMedia =>
    refine ⟨some S.available, S.lastLaunchFailure, rfl, ?_⟩
    rw [lastLaunchFailure_known, Option.some.injEq]
    simp

/-- What a call that raises puts out of the ledger. -/
theorem ledgerEffects_fail (S : Entity) (R : Readings) (id : ℕ) (caller : Caller)
    (err : Raised) :
    ledgerEffects (S.fail R id caller err).2
      = (S.failureCall caller err).elim [] fun op => (S.ledger.step ⟨R.env, op⟩).2 := by
  have hfinish : ∀ T : Entity, ledgerEffects (T.finish id caller true).2 = [] := by
    intro T
    unfold finish
    split <;> rfl
  unfold fail
  rw [ledgerEffects_append, hfinish, List.append_nil]
  cases S.failureCall caller err with
  | none => rfl
  | some op => exact ledgerEffects_map_ledger _ _

/-- Of the exceptions that are handled, the other is `TimeoutError`. -/
theorem timeout_of_failureCall {op : Op} (hop : S.failureCall caller err = some op)
    (herr : err.exc.cls ≠ .homeAssistantError) : err.exc.cls = .timeoutError := by
  by_contra hne
  have hnone : S.failureCall caller err = none := by
    rw [failureCall_eq_none_iff, ExcClass.caught]
    simp [hne, herr]
  rw [hnone] at hop
  cases hop

theorem respondsRightly_iff (S : Entity) (i : Input) : RespondsRightly S i ↔ Attributable S i := by
  unfold RespondsRightly Attributable
  apply forall_congr'
  intro id
  apply forall_congr'
  intro caller
  apply forall_congr'
  intro request
  apply forall_congr'
  intro err
  apply forall_congr'
  intro hraises
  rw [hraises.step_eq, ledgerEffects_fail]
  by_cases herr : err.exc.cls = .homeAssistantError
  · obtain ⟨connected, failure, hop, hknown⟩ := S.failureCall_homeAssistant caller herr
    obtain ⟨r, hrecords, houtcome, hresponded⟩ := DeliveryLedger.records_requestFailed S.ledger
      i.readings.env S.uuid err connected failure
    have hiff := DeliveryLedger.responded_classify_iff err connected failure
    rw [hknown] at hiff
    have hnot : ((DeliveryLedger.classify err connected failure).2.1 = true → Answered S id err) →
        ¬ Answered S id err → (DeliveryLedger.classify err connected failure).2.1 = false ∧
          ¬ (DeliveryLedger.classify err connected failure).2.1 = true := by
      intro h hnot
      exact ⟨Bool.eq_false_iff.mpr (mt h hnot), mt h hnot⟩
    rw [hop, Option.elim_some, hrecords, List.forall_mem_singleton, hresponded, houtcome, ne_eq,
      ← DeliveryLedger.responded_classify, and_iff_left_of_imp hnot, hiff]
    unfold Answered
    cases DeliveryLedger.causeOf err with
    | none => simp [herr]
    | some e =>
      simp only [herr]
      cases hcls : e.cls <;> simp [hcls, ExcClass.isPyChromecastError]
  · -- a `TimeoutError` counts as no answer, and other exceptions are not handled
    refine iff_of_true (fun r hr => ?_) (fun h => absurd h herr)
    cases hop : S.failureCall caller err with
    | none =>
      rw [hop] at hr
      cases hr
    | some op =>
      obtain ⟨connected, failure, rfl⟩ := failureCall_some hop
      have htimeout : err.exc.cls = .timeoutError := timeout_of_failureCall hop herr
      obtain ⟨r', hrecords, houtcome, hresponded⟩ := DeliveryLedger.records_requestFailed S.ledger
        i.readings.env S.uuid err connected failure
      rw [hop, Option.elim_some, hrecords, List.mem_singleton] at hr
      have hfalse : ¬ (DeliveryLedger.classify err connected failure).2.1 = true := by
        rw [DeliveryLedger.responded_classify_iff]
        exact fun h => h.1 htimeout
      rw [hr, hresponded, houtcome]
      refine ⟨fun h => absurd h hfalse, fun _ => ⟨Bool.eq_false_iff.mpr hfalse, ?_⟩⟩
      exact mt (DeliveryLedger.responded_classify err connected failure).mpr hfalse

/-- **Responded means that the device answered**, for every failure in a run, if and only if every
exception handled in it is attributable. -/
theorem responded_iff (uuid : UUID) (run : List Input) :
    Machine.Along Entity.step RespondsRightly (added uuid) run ↔
      Machine.Along Entity.step Attributable (added uuid) run :=
  Machine.along_congr respondsRightly_iff _ _

/-! ## A connection that is lost before the job runs -/

/-- A play of a cast app whose entity loses its connection before the job starts. -/
def lostConnection : List Input :=
  [⟨castAppAt "youtube" 0, .connects⟩, ⟨castAppAt "youtube" 1, .playMedia (castApp "youtube")⟩,
    ⟨castAppAt "youtube" 1, .connection .disconnected⟩, ⟨castAppAt "youtube" 1, .jobStarts 0⟩]

/-- The call goes on with `HomeAssistantError("Chromecast is not available.")`. -/
def lostConnectionRaises : Input := ⟨castAppAt "youtube" 1, .resumes 0⟩

theorem not_respondsRightly :
    ¬ RespondsRightly (after ⟨1⟩ lostConnection) lostConnectionRaises ∧
      ∃ r, records (ledgerEffects ((after ⟨1⟩ lostConnection).step lostConnectionRaises).2) = [r] ∧
        r.outcome = .fetchFailed ∧ r.responded = true := by
  constructor
  · rw [respondsRightly_iff]
    intro hattributable
    obtain ⟨e, hcause, -⟩ := hattributable 0 .playMedia
      ⟨0, "clip", .playMedia, 1000000, second, none⟩ _ (.job false rfl rfl) rfl
    cases hcause
  · exact ⟨_, rfl, rfl, rfl⟩

end Entity

end CastDelivery
