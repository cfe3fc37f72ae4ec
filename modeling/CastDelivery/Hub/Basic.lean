import CastDelivery.Health.History
import CastDelivery.Probe.Breaker
import CastDelivery.Repairs

/-!
# The ledger with its listeners

`Hub` is the ledger of one set-up together with the two listeners that the integration
registers on it: the circuit breaker of the probe coordinator and the repair manager, with the
issue registry. A step runs a ledger call and then, in order, the listener calls it made.
-/

namespace CastDelivery

/-- The ledger, the coordinator's options, the repair manager and the issue registry. -/
structure Hub where
  ledger : DeliveryLedger := {}
  options : ProbeOptions := probeOptions {}
  repairs : RepairManager := {}
  issues : IssueRegistry := ∅

/-- What a hub can be asked to do. -/
inductive HubInput
  | call (c : Call)
  /-- `CastProbeCoordinator.async_apply_options`. -/
  | applyOptions (options : StoredOptions)

/-- The device an input is about; a few inputs are about the whole hub. -/
def HubInput.uuid? : HubInput → Option UUID
  | .call c => c.op.uuid?
  | .applyOptions _ => none

namespace Hub

/-- `health.circuit_open_until = value`, on the health object of a device. -/
def assignCircuit (L : DeliveryLedger) (u : UUID) (value : Option Monotonic) : DeliveryLedger :=
  L.store { L.health u with circuitOpenUntil := value }

/-- Run the listener that an effect calls. -/
def runListener (env : Env) (H : Hub) : Effect → Hub
  | .called .circuitBreaker health record =>
    match H.options.asyncOnRecord env health record with
    | some value => { H with ledger := assignCircuit H.ledger health.uuid value }
    | none => H
  | .called .repairManager health record =>
    let after := H.repairs.asyncOnRecord H.issues health record
    { H with repairs := after.1, issues := after.2 }
  | _ => H

/-- Run the listeners that some effects call, in order. -/
def runListeners (env : Env) (H : Hub) (es : List Effect) : Hub :=
  es.foldl (runListener env) H

/-- Run a ledger call and its listeners. -/
def call (H : Hub) (c : Call) : Hub × List Effect :=
  let r := H.ledger.step c
  (runListeners c.env { H with ledger := r.1 } r.2, r.2)

/-- One step of a hub. -/
def step (H : Hub) : HubInput → Hub × List Effect
  | .call c => H.call c
  | .applyOptions options => ({ H with options := probeOptions options }, [])

/-! ## What the listeners leave alone -/

variable (env : Env) (H : Hub)

theorem health_assignCircuit (L : DeliveryLedger) (u : UUID) (value : Option Monotonic)
    (d : UUID) :
    (assignCircuit L u value).health d
      = if d = u then { L.health u with circuitOpenUntil := value } else L.health d := by
  unfold assignCircuit
  rw [DeliveryLedger.health_store, DeliveryLedger.uuid_health]

/-- A listener changes at most the circuit of a health object. -/
theorem health_runListener (e : Effect) (d : UUID) :
    ∃ circuit, (H.runListener env e).ledger.health d
      = { H.ledger.health d with circuitOpenUntil := circuit } := by
  unfold runListener
  split
  · split
    · next health record _ value _ =>
      rw [health_assignCircuit]
      split
      · next hd => exact ⟨value, by rw [hd]⟩
      · exact ⟨_, rfl⟩
    · exact ⟨_, rfl⟩
  · exact ⟨_, rfl⟩
  · exact ⟨_, rfl⟩

theorem health_runListeners (es : List Effect) (d : UUID) :
    ∃ circuit, (H.runListeners env es).ledger.health d
      = { H.ledger.health d with circuitOpenUntil := circuit } := by
  induction es generalizing H with
  | nil => exact ⟨_, rfl⟩
  | cons e es ih =>
    obtain ⟨_, he⟩ := H.health_runListener env e d
    obtain ⟨circuit, hes⟩ := ih (H.runListener env e)
    rw [he] at hes
    exact ⟨circuit, hes⟩

/-- After a call and its listeners, a health object is as the ledger left it but for its
circuit. -/
theorem health_call (c : Call) (d : UUID) :
    ∃ circuit, (H.call c).1.ledger.health d
      = { (H.ledger.step c).1.health d with circuitOpenUntil := circuit } :=
  health_runListeners c.env { H with ledger := (H.ledger.step c).1 } (H.ledger.step c).2 d

/-- The listeners leave the pending request as the call made it. -/
theorem pending_call (c : Call) (d : UUID) :
    ((H.call c).1.ledger.health d).pending = ((H.ledger.step c).1.health d).pending := by
  obtain ⟨circuit, hcall⟩ := H.health_call c d
  rw [hcall]

theorem request_call (c : Call) (d : UUID) :
    ((H.call c).1.ledger.health d).request = ((H.ledger.step c).1.health d).request :=
  congrArg (Option.map PendingRequest.toRequest) (H.pending_call c d)

@[simp] theorem options_runListener (e : Effect) :
    (H.runListener env e).options = H.options := by
  unfold runListener
  split
  · split <;> rfl
  · rfl
  · rfl

@[simp] theorem listeners_runListener (e : Effect) :
    (H.runListener env e).ledger.listeners = H.ledger.listeners := by
  unfold runListener
  split
  · split <;> rfl
  · rfl
  · rfl

@[simp] theorem timers_runListener (e : Effect) :
    (H.runListener env e).ledger.timers = H.ledger.timers := by
  unfold runListener
  split
  · split <;> rfl
  · rfl
  · rfl

@[simp] theorem options_runListeners (es : List Effect) :
    (H.runListeners env es).options = H.options := by
  induction es generalizing H with
  | nil => rfl
  | cons e es ih => exact (ih _).trans (options_runListener env H e)

@[simp] theorem listeners_runListeners (es : List Effect) :
    (H.runListeners env es).ledger.listeners = H.ledger.listeners := by
  induction es generalizing H with
  | nil => rfl
  | cons e es ih => exact (ih _).trans (listeners_runListener env H e)

@[simp] theorem timers_runListeners (es : List Effect) :
    (H.runListeners env es).ledger.timers = H.ledger.timers := by
  induction es generalizing H with
  | nil => rfl
  | cons e es ih => exact (ih _).trans (timers_runListener env H e)

@[simp] theorem options_call (c : Call) : (H.call c).1.options = H.options :=
  options_runListeners c.env _ _

@[simp] theorem listeners_call (c : Call) :
    (H.call c).1.ledger.listeners = (H.ledger.step c).1.listeners :=
  listeners_runListeners c.env _ _

@[simp] theorem timers_call (c : Call) :
    (H.call c).1.ledger.timers = (H.ledger.step c).1.timers :=
  timers_runListeners c.env _ _

end Hub

end CastDelivery
