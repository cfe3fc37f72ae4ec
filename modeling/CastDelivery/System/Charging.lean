import CastDelivery.Health.Invariants
import CastDelivery.Hub.Isolation
import CastDelivery.System.Run

/-!
# To whom an exception is charged

`async_request_failed` is given the uuid of a device and resolves whatever is pending there,
while `_expire` first checks that its own request is still the pending one. So an exception
that a superseded request raises late is charged to the request that superseded it.

`charged_to_own_iff` is the exact condition: every exception of a run leaves all other pending
requests alone if and only if each one that a task catches arrives while the task's own request,
or none, is pending on the device.
-/

namespace CastDelivery

/-- The request whose `quick_play` raises. -/
def Event.raises : Event → Option Ticket
  | .playRaises t _ _ _ => some t
  | .probeRaises p _ => some p.toTicket
  | _ => none

namespace System

/-- The task is in flight and catches what its `quick_play` raises. -/
def catches (S : System) (i : Input) : Bool :=
  match i.event with
  | .playRaises t err _ _ => t ∈ S.plays ∧ err.exc.cls.caught = true
  | .probeRaises p err => S.stageOf p = some .playing ∧ err.exc.cls.caught = true
  | _ => false

/-- A caught exception is a call of `async_request_failed` for the task's device. -/
theorem step_caught {S : System} {i : Input} {t : Ticket} (ht : i.event.raises = some t)
    (hc : S.catches i = true) :
    ∃ err connected launchFailure,
      let r := S.toHub.call ⟨i.env, .requestFailed t.uuid err connected launchFailure⟩
      (S.step i).1.toHub = r.1 ∧ ledgerEffects (S.step i).2 = r.2 := by
  obtain ⟨env, event⟩ := i
  cases event <;> simp only [Event.raises, Option.some.injEq, reduceCtorEq] at ht <;> subst ht
  case playRaises t err connected launchFailure =>
    simp only [catches, decide_eq_true_eq] at hc
    obtain ⟨hplay, hcls⟩ := hc
    simp only [step, if_pos hplay, playRaises]
    cases hk : err.exc.cls <;> simp only [hk, ExcClass.caught] at hcls
    case timeoutError => exact ⟨err, none, none, rfl, ledgerEffects_map _⟩
    case homeAssistantError =>
      exact ⟨err, some connected, launchFailure, rfl, ledgerEffects_map _⟩
    all_goals simp at hcls
  case probeRaises p err =>
    simp only [catches, decide_eq_true_eq] at hc
    obtain ⟨hstage, hcls⟩ := hc
    simp only [step, hstage, probeRaises, hcls, if_true]
    refine ⟨err, none, none, toHub_finishProbe _ _, ?_⟩
    rw [ledgerEffects_append, ledgerEffects_finishProbe, List.append_nil]
    exact ledgerEffects_map _

/-- Any other exception leaves the hub alone. -/
theorem step_uncaught {S : System} {i : Input} {t : Ticket} (ht : i.event.raises = some t)
    (hc : S.catches i = false) :
    (S.step i).1.toHub = S.toHub ∧ ledgerEffects (S.step i).2 = [] := by
  obtain ⟨env, event⟩ := i
  cases event <;> simp only [Event.raises, Option.some.injEq, reduceCtorEq] at ht <;> subst ht
  case playRaises t err connected launchFailure =>
    simp only [catches, decide_eq_false_iff_not, not_and] at hc
    by_cases hplay : t ∈ S.plays
    · simp only [step, if_pos hplay, playRaises]
      have hcls := hc hplay
      cases hk : err.exc.cls <;> simp [hk, ExcClass.caught] at hcls ⊢
    · simp [step, hplay]
  case probeRaises p err =>
    simp only [catches, decide_eq_false_iff_not, not_and] at hc
    by_cases hstage : S.stageOf p = some .playing
    · simp only [step, hstage, probeRaises, hc hstage, Bool.false_eq_true, if_false]
      exact ⟨toHub_finishProbe S p, ledgerEffects_finishProbe S p⟩
    · simp [step]

/-! ## Pending requests after a caught exception -/

/-- An exception leaves nothing pending on its device. -/
theorem pending_requestFailed (H : Hub) (env : Env) (u : UUID) (err : Raised)
    (connected : Option Bool) (launchFailure : Option String) :
    ((H.call ⟨env, .requestFailed u err connected launchFailure⟩).1.ledger.health u).pending
      = none := by
  rw [Hub.pending_call]
  exact DeliveryLedger.pending_resolve (DeliveryLedger.uuid_health _ u) _ _ _ _ _

/-- A call about a device leaves every other device as it is. -/
theorem health_call_other (H : Hub) {c : Call} {u d : UUID} (hu : c.op.uuid? = some u)
    (hd : d ≠ u) : (H.call c).1.ledger.health d = H.ledger.health d := by
  have hother : Hub.concerns d (.call c) = false := by
    simpa [Hub.concerns, HubInput.uuid?, hu] using fun h => hd h.symm
  exact congrArg DeviceView.health (Hub.ignores_view d H (.call c) hother).1

/-! ## The condition -/

/-- An exception leaves alone every pending request but that of the task which raises it. -/
def ChargedToOwn (S : System) (i : Input) : Prop :=
  ∀ t, i.event.raises = some t → ∀ d p, (S.ledger.health d).pending = some p →
    (d = t.uuid → p.serial ≠ t.request.serial) →
    ((S.step i).1.ledger.health d).pending = some p

/-- An exception that a task catches arrives while the task's own request, or none, is pending
on the device. -/
def RaisedInTime (S : System) (i : Input) : Prop :=
  ∀ t, i.event.raises = some t → S.catches i = true →
    ∀ p, (S.ledger.health t.uuid).pending = some p → p.serial = t.request.serial

theorem chargedToOwn_iff (S : System) (i : Input) : ChargedToOwn S i ↔ RaisedInTime S i := by
  constructor
  · intro h t ht hc p hp
    by_contra hserial
    have hkept := h t ht t.uuid p hp fun _ => hserial
    obtain ⟨err, connected, launchFailure, hhub, -⟩ := step_caught ht hc
    rw [hhub, pending_requestFailed] at hkept
    cases hkept
  · intro h t ht d p hp hother
    cases hc : S.catches i with
    | false => rw [(step_uncaught ht hc).1, hp]
    | true =>
      have hd : d ≠ t.uuid := by
        rintro rfl
        exact hother rfl (h t ht hc p hp)
      obtain ⟨err, connected, launchFailure, hhub, -⟩ := step_caught ht hc
      rw [hhub, health_call_other _ rfl hd, hp]

/-- **An exception is charged to the request that raised it** throughout a run if and only if
every exception that a task of the run catches arrives while the task's own request, or none,
is pending on the device. -/
theorem charged_to_own_iff (options : StoredOptions) (run : List Input) :
    Machine.Along step ChargedToOwn (setUp options) run ↔
      Machine.Along step RaisedInTime (setUp options) run :=
  Machine.along_congr chargedToOwn_iff _ _

/-- Two plays on one device, 20 seconds apart; the first one's `quick_play` still runs. -/
def overtakenPlay : List Input :=
  [⟨.bare 0, .play ⟨1⟩ "http://ha/first.mp3" .playMedia none⟩,
    ⟨.bare 20, .play ⟨1⟩ "http://ha/second.mp3" .announce none⟩]

/-- The watchdog of the first play of `overtakenPlay`, 45 seconds after it began. -/
def overtakenWatchdog : Input :=
  ⟨.bare 45, .playRaises ⟨⟨1⟩, ⟨0, "http://ha/first.mp3", .playMedia, 0, 0, none⟩⟩
    ⟨⟨.timeoutError, ""⟩, none⟩ true none⟩

/-- The watchdog of the first play resolves the second one. -/
theorem not_chargedToOwn : ¬ ChargedToOwn (after {} overtakenPlay) overtakenWatchdog := by
  intro h
  have hkept := h _ rfl ⟨1⟩
    ⟨⟨1, "http://ha/second.mp3", .announce, 20000000, 20 * second, none⟩, true⟩ (by decide)
    (by decide)
  revert hkept
  decide

end System

end CastDelivery
