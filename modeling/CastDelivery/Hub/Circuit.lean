import CastDelivery.Health.Filing
import CastDelivery.Hub.Basic

/-!
# The circuit of a device

Only `_async_on_record` writes `circuit_open_until`. So what a call leaves there is what the last
call of the listener about the device assigned, if any did (`circuit_call`), and what the
listener assigns comes from a record of a probe with outcome `OK` or `TIMEOUT`.
-/

namespace CastDelivery
namespace Hub

/-- What the circuit breaker assigns to the circuit of a device when it is called. -/
def assigned (env : Env) (options : ProbeOptions) (d : UUID) : Effect → Option (Option Monotonic)
  | .called .circuitBreaker health record =>
    if health.uuid = d then options.asyncOnRecord env health record else none
  | _ => none

variable {env : Env} {H : Hub} {d : UUID}

theorem assigned_eq_some {options : ProbeOptions} {e : Effect} {value : Option Monotonic} :
    assigned env options d e = some value ↔
      ∃ health record, e = .called .circuitBreaker health record ∧ health.uuid = d ∧
        options.asyncOnRecord env health record = some value := by
  unfold assigned
  constructor
  · intro h
    split at h
    · next health record =>
      split at h
      · next hd => exact ⟨health, record, rfl, hd, h⟩
      · cases h
    · cases h
  · rintro ⟨health, record, rfl, hd, hvalue⟩
    exact (if_pos hd).trans hvalue

theorem circuit_runListener (env : Env) (H : Hub) (e : Effect) (d : UUID) :
    ((H.runListener env e).ledger.health d).circuitOpenUntil
      = (assigned env H.options d e).getD (H.ledger.health d).circuitOpenUntil := by
  unfold runListener assigned
  split
  · next health record =>
    cases hvalue : H.options.asyncOnRecord env health record with
    | none => simp [hvalue]
    | some value =>
      simp only [health_assignCircuit]
      by_cases hd : health.uuid = d
      · simp [hd, hvalue]
      · simp [hd, Ne.symm hd]
  · simp
  · simp

/-- The last assignment among some effects stays. -/
theorem circuit_runListeners (env : Env) (H : Hub) (es : List Effect) (d : UUID) :
    ((H.runListeners env es).ledger.health d).circuitOpenUntil
      = (es.filterMap (assigned env H.options d)).getLast?.getD
          (H.ledger.health d).circuitOpenUntil := by
  induction es generalizing H with
  | nil => rfl
  | cons e es ih =>
    have hrest := ih (H.runListener env e)
    rw [options_runListener, circuit_runListener] at hrest
    rw [show H.runListeners env (e :: es) = (H.runListener env e).runListeners env es from rfl,
      hrest]
    cases hassigned : assigned env H.options d e with
    | none => rw [List.filterMap_cons_none hassigned]; rfl
    | some value =>
      rw [List.filterMap_cons_some hassigned, List.getLast?_cons]
      cases (es.filterMap (assigned env H.options d)).getLast? <;> rfl

/-- **The circuit after a call** is what its last call of the breaker assigned, if any did. -/
theorem circuit_call (H : Hub) (c : Call) (d : UUID) :
    ((H.call c).1.ledger.health d).circuitOpenUntil
      = ((H.ledger.step c).2.filterMap (assigned c.env H.options d)).getLast?.getD
          (H.ledger.health d).circuitOpenUntil := by
  have hcircuit := circuit_runListeners c.env { H with ledger := (H.ledger.step c).1 }
    (H.ledger.step c).2 d
  rw [show ((H.ledger.step c).1.health d).circuitOpenUntil
    = (H.ledger.health d).circuitOpenUntil from H.ledger.circuit_step c d] at hcircuit
  exact hcircuit

/-- Where the breaker assigns nothing the circuit stays. -/
theorem circuit_call_of_none {c : Call}
    (h : ∀ e ∈ (H.ledger.step c).2, assigned c.env H.options d e = none) :
    ((H.call c).1.ledger.health d).circuitOpenUntil = (H.ledger.health d).circuitOpenUntil := by
  rw [circuit_call, List.filterMap_eq_nil_iff.mpr h]
  rfl

/-- Where all that the breaker assigns is one value the circuit has it. -/
theorem circuit_call_of_forall {c : Call} {value : Option Monotonic}
    (hsome : ∃ e ∈ (H.ledger.step c).2, assigned c.env H.options d e = some value)
    (hall : ∀ e ∈ (H.ledger.step c).2, ∀ v, assigned c.env H.options d e = some v → v = value) :
    ((H.call c).1.ledger.health d).circuitOpenUntil = value := by
  obtain ⟨e, he, hvalue⟩ := hsome
  have hne : (H.ledger.step c).2.filterMap (assigned c.env H.options d) ≠ [] :=
    List.ne_nil_of_mem (List.mem_filterMap.mpr ⟨e, he, hvalue⟩)
  obtain ⟨last, hlast⟩ := Option.ne_none_iff_exists'.mp (mt List.getLast?_eq_none_iff.mp hne)
  obtain ⟨e', he', hlast'⟩ := List.mem_filterMap.mp (List.mem_of_getLast? hlast)
  rw [circuit_call, hlast, hall e' he' last hlast']
  rfl

end Hub

/-- The breaker assigns a value only for an `OK` or a `TIMEOUT` of a probe. -/
theorem ProbeOptions.asyncOnRecord_some {options : ProbeOptions} {env : Env}
    {health : DeviceHealth} {record : DeliveryRecord} {value : Option Monotonic}
    (h : options.asyncOnRecord env health record = some value) :
    record.source = .probe ∧ (record.outcome = .ok ∧ value = none ∨
      record.outcome = .timeout ∧ CIRCUIT_BREAKER_TIMEOUTS ≤ health.consecutiveTimeouts) := by
  unfold asyncOnRecord at h
  split_ifs at h with hsource hok htimeout
  · refine ⟨by simpa using hsource, .inl ⟨hok, ?_⟩⟩
    exact (Option.some.inj h).symm
  · exact ⟨by simpa using hsource, .inr htimeout⟩

end CastDelivery
