import CastDelivery.Health.Filing
import CastDelivery.System.Turn

/-!
# Failures of probes and of playback

`CastProbeCoordinator._async_probe` and `CastMediaPlayerEntity._async_quick_play_tracked` hand the
same exceptions to `async_request_failed`, but only playback passes the connection of the entity
and the last launch failure of the receiver.

`alike_iff`: from any state, the two record the same outcome and the same `responded` flag unless
the exception is a `RequestFailed` wrapped by `api_error` while the entity is connected or a launch
failure is known.
-/

namespace CastDelivery

/-- An exception that both `except` clauses catch: the watchdog's `TimeoutError`, or a
`HomeAssistantError`, into which `api_error` wraps any `PyChromecastError`. -/
def CaughtError : Type := { err : Raised // err.exc.cls.caught = true }

/-- Outcome and `responded` flag of the records among some outputs. -/
def verdicts (os : List Output) : List (DeliveryOutcome × Bool) :=
  (records (ledgerEffects os)).map fun r => (r.outcome, r.responded)

theorem verdicts_append (os ps : List Output) :
    verdicts (os ++ ps) = verdicts os ++ verdicts ps := by
  unfold verdicts
  rw [ledgerEffects_append, records_append, List.map_append]

/-- The device answered the launch of the app with a failure. -/
def AnsweredLaunch (err : Raised) (connected : Bool) (launchFailure : Option String) : Prop :=
  err.exc.cls = .homeAssistantError ∧ err.cause.map Exc.cls = some .requestFailed ∧
    (connected = true ∨ strOr launchFailure "" ≠ "")

namespace DeliveryLedger

/-- The connection and the launch failure matter for a wrapped `RequestFailed` alone. -/
theorem classify_congr_iff {err : Raised} (herr : err.exc.cls = .homeAssistantError)
    (connected : Bool) (launchFailure : Option String) :
    ((classify err (some connected) launchFailure).1
        = (classify err none none).1 ∧
      (classify err (some connected) launchFailure).2.1 = (classify err none none).2.1) ↔
      ¬ AnsweredLaunch err connected launchFailure := by
  have hpy : ExcClass.homeAssistantError.isPyChromecastError = false := rfl
  have hnone : strOr none "" = "" := rfl
  unfold classify AnsweredLaunch
  simp only [herr, hpy, hnone, Bool.false_eq_true, if_false, reduceCtorEq, true_and, ne_eq,
    not_true_eq_false, or_false, and_false, Option.some.injEq]
  by_cases hfailed : err.cause.map Exc.cls = some .requestFailed
  · -- the cause is a `RequestFailed`
    simp only [hfailed, Option.some.injEq, reduceCtorEq, if_false, true_and, or_true, if_true]
    by_cases hanswered : connected = true ∨ ¬ strOr launchFailure "" = ""
    · simp only [hanswered, if_true]
      decide
    · simp only [hanswered, if_false]
      decide
  · -- for any other cause the branch is not taken
    simp only [hfailed, false_and, if_false, not_false_eq_true, iff_true]
    exact ⟨trivial, trivial⟩

end DeliveryLedger

namespace System

variable (S : System) (env env' : Env) (u : UUID)

/-- `_async_quick_play_tracked` with a `quick_play` that raises. -/
def failedPlay (contentId : String) (source : UserSource) (session : Option Int) (err : Raised)
    (connected : Bool) (launchFailure : Option String) : List Output :=
  let begun := S.play env u contentId source session
  let ticket : Ticket := ⟨u, S.nextRequest env u contentId source.source session⟩
  begun.2 ++ (begun.1.playRaises env' ticket err connected launchFailure).2

/-- `_async_probe` with a `quick_play_probe` that raises. -/
def failedProbe (snapshot : ProbeSnapshot) (url : String) (err : Raised) : List Output :=
  let begun := S.launchProbe env u snapshot url
  let probe : Probe :=
    { uuid := u
      request := S.nextRequest env u url .probe snapshot.mediaSessionId
      snapshot := snapshot }
  begun.2 ++ (begun.1.probeRaises env' probe err).2

/-- A failure of playback and a failure of a probe record the same. -/
def Alike (contentId : String) (source : UserSource) (session : Option Int)
    (snapshot : ProbeSnapshot) (url : String) (err : Raised) (connected : Bool)
    (launchFailure : Option String) : Prop :=
  verdicts (S.failedPlay env env' u contentId source session err connected launchFailure)
    = verdicts (S.failedProbe env env' u snapshot url err)

/-- What `async_begin_request` records: the request it supersedes. -/
theorem verdicts_begin (S : System) (contentId : String) (source : Source)
    (session : Option Int) (timeout : ℕ) :
    verdicts (S.ledgerCall ⟨env, .beginRequest u contentId source session timeout⟩).2
      = if (S.ledger.health u).pending.isSome then [(.unknown, false)] else [] := by
  unfold verdicts
  rw [show ledgerEffects (S.ledgerCall _).2 = (S.ledger.step _).2 from ledgerEffects_map _]
  simp only [DeliveryLedger.step, DeliveryLedger.asyncBeginRequest, DeliveryLedger.supersede,
    DeliveryLedger.startRequest, DeliveryLedger.health_device]
  cases hp : (S.ledger.health u).pending with
  | none => rfl
  | some p =>
    simp only [DeliveryLedger.resolve_pending (S.ledger.device u) hp, records_append,
      records_recorded]
    rfl

/-- What `async_request_failed` records. -/
theorem verdicts_requestFailed (S : System) (err : Raised) (connected : Option Bool)
    (launchFailure : Option String) :
    verdicts (S.ledgerCall ⟨env', .requestFailed u err connected launchFailure⟩).2
      = [((DeliveryLedger.classify err connected launchFailure).1,
          (DeliveryLedger.classify err connected launchFailure).2.1)] := by
  unfold verdicts
  rw [show ledgerEffects (S.ledgerCall _).2 = (S.ledger.step _).2 from ledgerEffects_map _]
  simp only [DeliveryLedger.step, DeliveryLedger.asyncRequestFailed, DeliveryLedger.resolve_eq,
    DeliveryLedger.effects_append, records_recorded, DeliveryLedger.health_device]
  cases (S.ledger.health u).pending <;> rfl

theorem verdicts_finishProbe (S : System) (p : Probe) : verdicts (S.finishProbe p).2 = [] := by
  unfold verdicts
  rw [ledgerEffects_finishProbe]
  rfl

theorem verdicts_failedProbe (snapshot : ProbeSnapshot) (url : String) (err : CaughtError) :
    verdicts (S.failedProbe env env' u snapshot url err.1)
      = (if (S.ledger.health u).pending.isSome then [(.unknown, false)] else [])
        ++ [((DeliveryLedger.classify err.1 none none).1,
          (DeliveryLedger.classify err.1 none none).2.1)] := by
  unfold failedProbe probeRaises
  simp only [err.2, if_true]
  rw [verdicts_append, verdicts_append, verdicts_finishProbe, List.append_nil,
    verdicts_requestFailed]
  congr 1
  exact verdicts_begin env u
    { S with running := insert u S.running, probes := _ } url .probe _ DELIVERY_TIMEOUT

theorem verdicts_failedPlay (contentId : String) (source : UserSource) (session : Option Int)
    (err : CaughtError) (connected : Bool) (launchFailure : Option String) :
    verdicts (S.failedPlay env env' u contentId source session err.1 connected launchFailure)
      = (if (S.ledger.health u).pending.isSome then [(.unknown, false)] else [])
        ++ if err.1.exc.cls = .homeAssistantError then
            [((DeliveryLedger.classify err.1 (some connected) launchFailure).1,
              (DeliveryLedger.classify err.1 (some connected) launchFailure).2.1)]
          else [((DeliveryLedger.classify err.1 none none).1,
              (DeliveryLedger.classify err.1 none none).2.1)] := by
  have hbegin : verdicts (S.play env u contentId source session).2 = _ :=
    verdicts_begin env u S contentId source.source session DELIVERY_TIMEOUT
  unfold failedPlay playRaises
  rw [verdicts_append, hbegin]
  congr 1
  obtain ⟨err, hcaught⟩ := err
  cases hcls : err.exc.cls with
  | timeoutError => exact verdicts_requestFailed env' u _ err none none
  | homeAssistantError => exact verdicts_requestFailed env' u _ err (some connected) launchFailure
  | _ => simp [ExcClass.caught, hcls] at hcaught

/-- **Probes and playback classify failures alike** exactly when the device did not answer the
launch of the app with a failure. -/
theorem alike_iff (contentId : String) (source : UserSource) (session : Option Int)
    (snapshot : ProbeSnapshot) (url : String) (err : CaughtError) (connected : Bool)
    (launchFailure : Option String) :
    S.Alike env env' u contentId source session snapshot url err.1 connected launchFailure ↔
      ¬ AnsweredLaunch err.1 connected launchFailure := by
  unfold Alike
  rw [verdicts_failedPlay, verdicts_failedProbe, List.append_cancel_left_eq]
  split
  · next hcls =>
    rw [List.singleton_inj, Prod.mk.injEq]
    exact DeliveryLedger.classify_congr_iff hcls connected launchFailure
  · next hcls => exact iff_of_true rfl fun h => hcls h.1

/-- A connected speaker answers the launch of the media receiver with a failure. -/
def launchRejected : Raised :=
  ⟨⟨.homeAssistantError, "CastMediaPlayerEntity._quick_play Failed: Failed to execute quick_play."⟩,
    some ⟨.requestFailed, "Failed to execute quick_play."⟩⟩

/-- Playback records that the speaker answered, and a probe that it is unreachable. -/
theorem not_alike :
    ¬ (after {} []).Alike (.bare 0) (.bare 1) ⟨1⟩ "http://ha/song.mp3" .playMedia none
      ⟨some "audio", false, none, true, none, [], none⟩ "http://ha/probe.wav" launchRejected true
      none := by
  unfold Alike
  decide

end System
end CastDelivery
