import CastDelivery.Health.Basic
import Mathlib.Algebra.Ring.Nat

/-!
# Probe options and the circuit breaker

The part of `coordinator.py` that listens to the ledger: the options that govern probing, read
with their floors applied, and the circuit breaker that probe outcomes drive.
-/

namespace CastDelivery

/-- The probing options as the config entry stores them. -/
structure StoredOptions where
  probeEnabled : Option Bool := none
  probeInterval : Option Int := none
  groupProbeEnabled : Option Bool := none
  probeVideoDevices : Option Bool := none
deriving DecidableEq, Repr

/-- `DEFAULT_PROBE_ENABLED`. -/
def DEFAULT_PROBE_ENABLED : Bool := true

/-- `DEFAULT_GROUP_PROBE_ENABLED`. -/
def DEFAULT_GROUP_PROBE_ENABLED : Bool := true

/-- `DEFAULT_PROBE_VIDEO_DEVICES`. -/
def DEFAULT_PROBE_VIDEO_DEVICES : Bool := false

/-- `DEFAULT_PROBE_INTERVAL`, in seconds. -/
def DEFAULT_PROBE_INTERVAL : Int := 300

/-- `MIN_PROBE_INTERVAL`, in seconds. -/
def MIN_PROBE_INTERVAL : ℕ := 60

/-- `ProbeOptions`. They are only ever read with the floor on the interval applied. -/
structure ProbeOptions where
  enabled : Bool
  interval : ℕ
  groups : Bool
  video : Bool
  floor : MIN_PROBE_INTERVAL ≤ interval
deriving DecidableEq

/-- `probe_options`. -/
def probeOptions (options : StoredOptions) : ProbeOptions where
  enabled := options.probeEnabled.getD DEFAULT_PROBE_ENABLED
  interval := max (options.probeInterval.getD DEFAULT_PROBE_INTERVAL).toNat MIN_PROBE_INTERVAL
  groups := options.groupProbeEnabled.getD DEFAULT_GROUP_PROBE_ENABLED
  video := options.probeVideoDevices.getD DEFAULT_PROBE_VIDEO_DEVICES
  floor := Nat.le_max_right _ _

/-- `CastProbeCoordinator._async_on_record`: the value it assigns to `circuit_open_until`, if it
assigns one. -/
def ProbeOptions.asyncOnRecord (env : Env) (options : ProbeOptions) (health : DeviceHealth)
    (record : DeliveryRecord) : Option (Option Monotonic) :=
  if record.source ≠ .probe then none
  else if record.outcome = .ok then some none
  else if record.outcome = .timeout ∧ CIRCUIT_BREAKER_TIMEOUTS ≤ health.consecutiveTimeouts then
    let exponent := health.consecutiveTimeouts - CIRCUIT_BREAKER_TIMEOUTS + 1
    let backoff := min (options.interval * 2 ^ exponent) CIRCUIT_BREAKER_MAX_BACKOFF
    some (some (env.monotonic + backoff * second))
  else none

end CastDelivery
