import CastDelivery.Basic
import CastDelivery.Lib.Dict

/-!
# Delivery health: the data

The closed vocabulary of outcomes, the records and requests of `health.py`, the health object
of a device, and the table of devices. The table is keyed by each object's own uuid, and it
is that by construction.
-/

namespace CastDelivery

/-- `DeliveryOutcome`. -/
inductive DeliveryOutcome
  | ok
  | fetchFailed
  | unreachable
  | timeout
  | templateError
  | skippedBusy
  | unknown
deriving DecidableEq, Repr

/-- `FAILURE_OUTCOMES`. -/
def FAILURE_OUTCOMES : List DeliveryOutcome :=
  [.fetchFailed, .unreachable, .timeout, .templateError]

/-- The `source` of a record: who asked for the delivery, or `observed`. -/
inductive Source
  | playMedia
  | announce
  | probe
  | observed
deriving DecidableEq, Repr

/-- The `url_source` of a record. -/
inductive UrlSource
  | override
  | internalUrl
  | externalUrl
deriving DecidableEq, Repr

/-- `DeliveryRecord`; `elapsed` is in milliseconds. -/
structure DeliveryRecord where
  uuid : UUID
  entityId : Option String
  name : Option String
  source : Source
  outcome : DeliveryOutcome
  contentId : Option String
  error : Option String
  urlSource : Option UrlSource
  responded : Bool
  requestedAt : Option DateTime
  resolvedAt : DateTime
  elapsed : Option Int
  playerState : Option String
  idleReason : Option String
  mediaSessionId : Option Int
deriving DecidableEq, Repr

/-- A `PendingRequest` apart from its timer handle. `serial` numbers the requests of one device
and stands for the identity of the Python object. -/
structure Request where
  serial : ℕ
  contentId : String
  source : Source
  requestedAt : DateTime
  started : Monotonic
  sessionAtRequest : Option Int
deriving DecidableEq, Repr

/-- `PendingRequest`; `cancelTimeout` says whether it still holds the handle of its timer. -/
structure PendingRequest extends Request where
  cancelTimeout : Bool := false
deriving DecidableEq, Repr

/-- `DeviceHealth`, with the number of requests begun so far. -/
structure DeviceHealth where
  uuid : UUID
  entityId : Option String := none
  name : Option String := none
  host : Option String := none
  port : Option ℕ := none
  lastOutcome : DeliveryOutcome := .unknown
  lastRecord : Option DeliveryRecord := none
  lastSuccess : Option DateTime := none
  lastSeen : Option DateTime := none
  consecutiveFailures : ℕ := 0
  consecutiveTimeouts : ℕ := 0
  circuitOpenUntil : Option Monotonic := none
  subnetMismatch : Option Bool := none
  pending : Option PendingRequest := none
  begun : ℕ := 0
deriving DecidableEq, Repr

/-- The request a device has pending, without its timer handle. -/
def DeviceHealth.request (h : DeviceHealth) : Option Request :=
  h.pending.map PendingRequest.toRequest

/-- `DeliveryLedger.devices`: every object sits under its own uuid. -/
structure DeviceTable where
  dict : Dict UUID DeviceHealth
  keyed : ∀ u h, dict.get? u = some h → h.uuid = u

namespace DeviceTable

/-- No devices. -/
def empty : DeviceTable := ⟨∅, by simp⟩

instance : Inhabited DeviceTable := ⟨empty⟩

/-- Read a device; one not met yet reads as a fresh `DeviceHealth`. -/
def get (t : DeviceTable) (u : UUID) : DeviceHealth :=
  (t.dict.get? u).getD { uuid := u }

/-- Store a health object. -/
def put (t : DeviceTable) (h : DeviceHealth) : DeviceTable where
  dict := t.dict.set h.uuid h
  keyed := by
    intro u g hg
    rw [Dict.get?_set] at hg
    split at hg
    · next hu => rw [← Option.some.inj hg, hu]
    · exact t.keyed u g hg

@[simp] theorem get_empty (u : UUID) : empty.get u = { uuid := u } := rfl

@[simp] theorem uuid_get (t : DeviceTable) (u : UUID) : (t.get u).uuid = u := by
  unfold get
  cases h : t.dict.get? u with
  | none => rfl
  | some g => exact t.keyed u g h

theorem get_put (t : DeviceTable) (h : DeviceHealth) (u : UUID) :
    (t.put h).get u = if u = h.uuid then h else t.get u := by
  unfold get put
  rw [Dict.get?_set]
  split <;> rfl

@[simp] theorem get_put_self (t : DeviceTable) (h : DeviceHealth) :
    (t.put h).get h.uuid = h := by
  rw [get_put, if_pos rfl]

/-- Apply to every device a change that keeps its uuid. -/
def map (t : DeviceTable) (f : DeviceHealth → DeviceHealth)
    (hf : ∀ h, (f h).uuid = h.uuid) : DeviceTable where
  dict := t.dict.mapValues f
  keyed := by
    intro u h hh
    rw [Dict.get?_mapValues, Option.map_eq_some_iff] at hh
    obtain ⟨g, hg, rfl⟩ := hh
    rw [hf, t.keyed u g hg]

theorem get_map (t : DeviceTable) {f : DeviceHealth → DeviceHealth}
    (hf : ∀ h, (f h).uuid = h.uuid) {u : UUID} (hfresh : f { uuid := u } = { uuid := u }) :
    (t.map f hf).get u = f (t.get u) := by
  unfold get map
  rw [Dict.get?_mapValues]
  cases t.dict.get? u with
  | none => exact hfresh.symm
  | some h => rfl

theorem get_put_of_ne (t : DeviceTable) {h : DeviceHealth} {u : UUID} (hne : u ≠ h.uuid) :
    (t.put h).get u = t.get u := by
  rw [get_put, if_neg hne]

end DeviceTable

end CastDelivery
