import CastDelivery.Sensor
import CastDelivery.System.Closing

/-!
# The readers of the breaker

Three components read `circuit_open_until`. The diagnostics and the coordinator compare it with
the time; the outcome sensor takes any value for an open circuit. Once the backoff has elapsed
the two disagree with the third, until a probe closes the circuit or opens it again
(`readersAgree_iff`).
-/

namespace CastDelivery

namespace System

variable {S : System} {env : Env} {cycle : Cycle} {d : UUID} {now : Monotonic}

/-- A cycle would probe the device if its circuit were closed. -/
def OtherwiseProbeable (S : System) (env : Env) (cycle : Cycle) (d : UUID) : Prop :=
  ∃ snapshot, S.options.decide env (d ∈ S.running) (cycle.snapshots d)
    { S.ledger.health d with circuitOpenUntil := none } = .probe snapshot

/-- The cycle skips the device because its circuit is open. -/
def SkipsOpen (S : System) (env : Env) (cycle : Cycle) (d : UUID) : Prop :=
  ∃ remaining, S.decision env cycle d = .circuitOpen remaining

/-- All readers of the breaker answer the same. -/
structure ReadersAgree (S : System) (d : UUID) (now : Monotonic) (opened : Bool) : Prop where
  sensor : ∀ urlOverride, CastOutcomeSensor.stateAttribute urlOverride (S.ledger.health d)
    "circuit_open" = some (.bool opened)
  diagnostics : ((S.ledger.health d).asDict now).lookup "circuit_open" = some (.bool opened)
  coordinator : ∀ env cycle, env.monotonic = now → OtherwiseProbeable S env cycle d →
    (SkipsOpen S env cycle d ↔ opened = true)

/-- What the diagnostics and the coordinator take for an open circuit. -/
def openAt (now : Monotonic) (health : DeviceHealth) : Bool :=
  health.circuitOpenUntil.any fun t => now < t

/-- The coordinator skips a device whose circuit is open now. -/
theorem skipsOpen_iff (hprobeable : OtherwiseProbeable S env cycle d) :
    SkipsOpen S env cycle d ↔ openAt env.monotonic (S.ledger.health d) = true := by
  obtain ⟨snapshot, hdecide⟩ := hprobeable
  obtain ⟨hreported, hrunning, hgroup, hvideo, -, hidle⟩ := decide_eq_probe.mp hdecide
  constructor
  · rintro ⟨remaining, hskips⟩
    -- with the circuit closed by now, the decision would be to probe
    by_contra hclosed
    have hdue : ProbeDue env S.options (d ∈ S.running) (cycle.snapshots d) (S.ledger.health d)
        snapshot := by
      refine ⟨hreported, hrunning, hgroup, hvideo, fun t ht => ?_, hidle⟩
      rw [openAt, ht, Option.any_some, decide_eq_true_eq] at hclosed
      exact Int.not_lt.mp hclosed
    rw [decision, decide_eq_probe.mpr hdue] at hskips
    cases hskips
  · intro hopen
    rw [openAt, Option.any_eq_true] at hopen
    obtain ⟨t, ht, hlt⟩ := hopen
    have hpositive : 0 < t - env.monotonic := Int.sub_pos.mpr (of_decide_eq_true hlt)
    have hremaining : circuitRemaining env (S.ledger.health d) = some (t - env.monotonic) := by
      rw [circuitRemaining, ht, Option.map_some]
      exact Option.filter_some_pos (decide_eq_true hpositive)
    have hgroups : (snapshot.isAudioGroup && !S.options.groups) = false := by
      cases hs : snapshot.isAudioGroup with
      | false => rfl
      | true => simp [hgroup hs]
    refine ⟨t - env.monotonic, ?_⟩
    simp [decision, ProbeOptions.decide, hreported, hrunning, hgroups, hvideo, hremaining]

/-- The diagnostics show an open circuit when the coordinator would skip the device. -/
theorem diagnostics_eq (health : DeviceHealth) (now : Monotonic) :
    (health.asDict now).lookup "circuit_open" = some (.bool (openAt now health)) := rfl

/-- The sensor shows an open circuit until the value is cleared. -/
theorem sensor_eq (urlOverride : Option String) (health : DeviceHealth) :
    CastOutcomeSensor.stateAttribute urlOverride health "circuit_open"
      = some (.bool health.circuitOpenUntil.isSome) := rfl

theorem readersAgree_iff_of (S : System) (d : UUID) (now : Monotonic) :
    (∃ opened, ReadersAgree S d now opened) ↔
      ∀ t, (S.ledger.health d).circuitOpenUntil = some t → now < t := by
  constructor
  · rintro ⟨opened, hsensor, hdiagnostics, -⟩ t ht
    have hshown := hsensor none
    rw [sensor_eq, ht] at hshown
    rw [diagnostics_eq, openAt, ht, ← hshown] at hdiagnostics
    exact of_decide_eq_true (Json.bool.inj (Option.some.inj hdiagnostics))
  · intro hlater
    have hsame : (S.ledger.health d).circuitOpenUntil.isSome = openAt now (S.ledger.health d) := by
      unfold openAt
      cases ht : (S.ledger.health d).circuitOpenUntil with
      | none => rfl
      | some t => exact (decide_eq_true (hlater t ht)).symm
    refine ⟨openAt now (S.ledger.health d), fun urlOverride => ?_, rfl, ?_⟩
    · rw [sensor_eq, hsame]
    · intro env cycle hnow hprobeable
      rw [skipsOpen_iff hprobeable, hnow]

/-- **The readers of the breaker agree** at a time after a run if and only if no backoff of the
device's circuit has elapsed by then. -/
theorem readersAgree_iff (options : StoredOptions) (run : List Input) (d : UUID)
    (now : Monotonic) :
    (∃ opened, ReadersAgree (after options run) d now opened) ↔
      ∀ t, ((after options run).ledger.health d).circuitOpenUntil = some t → now < t :=
  readersAgree_iff_of (after options run) d now

/-- One second after the backoff has elapsed, the sensor still shows an open circuit. -/
theorem not_readersAgree :
    ¬ ∃ opened, ReadersAgree (after {} announcedWhileOpen) ⟨1⟩ (931 * second) opened := by
  rw [readersAgree_iff_of]
  intro hlater
  have hnow := hlater (930 * second) (by decide)
  revert hnow
  decide

end System

end CastDelivery
