import CastDelivery.Health.Invariants
import Mathlib.Data.List.Infix

/-!
# Stale evidence

A status is stale for the pending request of a device when a status with the same content id,
media session, player state and idle reason was delivered for the device before that request
was begun. `async_media_status` keeps one session id per request, and compares it on the branch
that ends in `OK` alone, so a stale status can settle a request:

* a stale `ERROR` status that names the request's content, or none, fails it;
* a stale status of a session older than the one current at the request confirms it.

`stale_ignored_iff` says that these are the only ways: a run ignores all its stale statuses if
and only if none of them confirms or blames the request pending when it arrives.
-/

namespace CastDelivery

namespace DeliveryLedger

variable {env : Env} {L : DeliveryLedger} {u : UUID} {status : MediaStatus} {p : PendingRequest}

/-- A status leaves the pending request alone unless it confirms or blames it. -/
theorem mediaStatus_keeps_iff (hp : (L.health u).pending = some p) :
    ((L.asyncMediaStatus env u status).1.health u).pending = some p ↔
      ¬ Confirms status p.toRequest ∧ ¬ Blames status p.toRequest := by
  by_cases hc : Confirms status p.toRequest
  · rw [mediaStatus_confirms hp hc, pending_resolve (uuid_health L u)]
    simp [hc]
  · by_cases hb : Blames status p.toRequest
    · rw [mediaStatus_blames hp hb, pending_resolve (uuid_health L u)]
      simp [hb]
    · simp only [hc, hb, not_false_eq_true, and_self, iff_true]
      cases herror : status.isError with
      | true =>
        rw [mediaStatus_other_error hp herror hb, recordObservation, health_append,
          if_pos (uuid_health L u).symm, DeviceHealth.account_pending, hp]
      | false =>
        rw [mediaStatus_ignored herror fun q hq => ?_, health_device, hp]
        rw [hp, Option.some.injEq] at hq
        rwa [← hq]

end DeliveryLedger

/-- The call begins a request on the device. -/
def Call.begins (d : UUID) (c : Call) : Bool :=
  match c.op with
  | .beginRequest u _ _ _ _ => u = d
  | _ => false

/-- The calls of a run before the last request on the device was begun. -/
def beforeRequest (d : UUID) (calls : List Call) : List Call :=
  (calls.rdropWhile fun c => !c.begins d).dropLast

/-- A status that was delivered for the device before its last request was begun. -/
def Stale (d : UUID) (calls : List Call) (status : MediaStatus) : Prop :=
  ∃ c ∈ beforeRequest d calls, ∃ old, c.op = .mediaStatus d old ∧
    old.toObserved = status.toObserved

/-- After `calls`, a stale status would leave the pending request as it is. -/
def StaleIgnored (d : UUID) (calls : List Call) (c : Call) : Prop :=
  ∀ status p, c.op = .mediaStatus d status → Stale d calls status →
    ((ledgerAfter calls).health d).pending = some p →
    (((ledgerAfter calls).step c).1.health d).pending = some p

/-- After `calls`, no stale status confirms or blames the pending request. -/
def StaleHarmless (d : UUID) (calls : List Call) (c : Call) : Prop :=
  ∀ status p, c.op = .mediaStatus d status → Stale d calls status →
    ((ledgerAfter calls).health d).pending = some p →
    ¬ Confirms status p.toRequest ∧ ¬ Blames status p.toRequest

theorem staleIgnored_iff (d : UUID) (calls : List Call) (c : Call) :
    StaleIgnored d calls c ↔ StaleHarmless d calls c := by
  have hstep : ∀ status, c.op = .mediaStatus d status →
      (ledgerAfter calls).step c = (ledgerAfter calls).asyncMediaStatus c.env d status := by
    intro status hop
    rw [DeliveryLedger.step, hop]
  constructor
  · intro h status p hop hstale hp
    have hkept := h status p hop hstale hp
    rwa [hstep status hop, DeliveryLedger.mediaStatus_keeps_iff hp] at hkept
  · intro h status p hop hstale hp
    rw [hstep status hop, DeliveryLedger.mediaStatus_keeps_iff hp]
    exact h status p hop hstale hp

/-- **Stale evidence.** A run settles no request on stale evidence if and only if no stale
status of the run confirms or blames the request pending when it arrives. -/
theorem stale_ignored_iff (d : UUID) (run : List Call) :
    (∀ calls c, calls ++ [c] <+: run → StaleIgnored d calls c) ↔
      ∀ calls c, calls ++ [c] <+: run → StaleHarmless d calls c :=
  forall₃_congr fun calls c _ => staleIgnored_iff d calls c

/-- A clip played in session 5, another in session 6, then the clip requested again. -/
def replayedSession : List Call :=
  [⟨.bare 0, .mediaStatus ⟨1⟩ ⟨⟨"http://ha/tts.mp3", "PLAYING", none, some 5⟩, false⟩⟩,
    ⟨.bare 10, .mediaStatus ⟨1⟩ ⟨⟨"http://radio/live", "PLAYING", none, some 6⟩, false⟩⟩,
    ⟨.bare 20, .beginRequest ⟨1⟩ "http://ha/tts.mp3" .announce (some 6) DELIVERY_TIMEOUT⟩]

/-- The first status of `replayedSession` once more: it confirms the new request. -/
theorem not_staleIgnored : ¬ StaleIgnored ⟨1⟩ replayedSession
    ⟨.bare 21, .mediaStatus ⟨1⟩ ⟨⟨"http://ha/tts.mp3", "PLAYING", none, some 5⟩, false⟩⟩ := by
  intro h
  have hkept := h _ ⟨⟨0, "http://ha/tts.mp3", .announce, 20000000, 20 * second, some 6⟩, true⟩ rfl
    ⟨_, List.mem_cons_self, _, rfl, rfl⟩ (by decide)
  revert hkept
  decide

end CastDelivery
