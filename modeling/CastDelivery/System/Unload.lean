import CastDelivery.Health.Timers
import CastDelivery.System.LaunchSafety

/-!
# After an unload

`async_unload_entry` removes the entities, takes the listeners off the ledger and cancels its
timers. It ends neither the probe tasks, which Home Assistant does not tie to the entry, nor the
callbacks that are queued on the event loop, nor the service calls in flight. These go on, also
after the entry is set up again, and this file says what they can do.

`Quiescent` is what a late event should do to the unloaded set-up, `Harmless` the kind of event that
does so.
-/

namespace CastDelivery

/-- The set-up a thing belongs to. -/
inductive Side
  | unloaded
  | current
deriving DecidableEq, Repr

/-- A config entry after an unload. -/
structure Unloaded where
  /-- The unloaded set-up with the tasks it left. -/
  old : System
  /-- Whether the entry keeps its `runtime_data` after an unload. -/
  keepsData : Bool
  /-- The set-up that followed. -/
  current : Option System := none

/-- The calls a service call in flight makes: it begins a request, reports a failure, or records
a failed announcement. -/
def Op.ofService : Op → Bool
  | .beginRequest _ _ source _ _ => source ≠ .probe
  | .requestFailed _ _ _ _ => true
  | .record _ call => call.source = .announce
  | _ => false

/-- The callbacks that other threads queue on the event loop. -/
def Op.queued : Op → Bool
  | .mediaStatus _ _ | .loadMediaFailed _ _ _ | .updateIdentity _ _ _ _ _ _ => true
  | _ => false

/-- What can happen after an unload. -/
inductive LateEvent
  /-- A probe of the unloaded set-up goes on, a queued callback runs, a timer that is still armed
  fires, or a refresh cycle that waited for the topology goes on. -/
  | own (i : Input)
  /-- A service call on a removed entity goes on. -/
  | service (c : Call) (ofService : c.op.ofService = true)
  /-- The entry is set up again. -/
  | setUp (options : StoredOptions)
  /-- An event of the new set-up. -/
  | live (i : Input)

namespace System

/-- `async_unload_entry`, when it returns `True`: every entity is removed and with it every
target, the listeners are off the ledger, and the ledger is shut down. -/
def asyncUnloadEntry (S : System) : System :=
  { S with
    ledger :=
      ((S.ledger.removeListener .circuitBreaker).removeListener .repairManager).asyncShutdown
    targets := ∅ }

/-- Whether an event can still happen to an unloaded set-up. -/
def survives (S : System) (i : Input) : Bool :=
  match i.event with
  | .callback (.expire timer) _ => timer ∈ S.ledger.timers
  | .callback op _ => op.queued
  | .refresh _ | .probeReturns _ | .probeRaises _ _ | .probePolls _ | .probeQuit _
  | .probeCancelled _ => true
  | _ => false

end System

namespace Unloaded

/-- A ledger call of a service call in flight. `self._ledger` reads the `runtime_data` that the
entry has by then, and raises `AttributeError` if it has none. -/
def serviceCall (U : Unloaded) (c : Call) : Unloaded × List (Side × Output) :=
  match U.current with
  | some C =>
    let r := C.ledgerCall c
    ({ U with current := some r.1 }, r.2.map fun o => (.current, o))
  | none =>
    if U.keepsData then
      let r := U.old.ledgerCall c
      ({ U with old := r.1 }, r.2.map fun o => (.unloaded, o))
    else (U, [])

/-- Run one late event. -/
def step (U : Unloaded) : LateEvent → Unloaded × List (Side × Output)
  | .own i =>
    if U.old.survives i then
      let r := U.old.step i
      ({ U with old := r.1 }, r.2.map fun o => (.unloaded, o))
    else (U, [])
  | .service c _ => U.serviceCall c
  | .setUp options =>
    match U.current with
    | some _ => (U, [])
    | none => ({ U with current := some (System.setUp options) }, [])
  | .live i =>
    match U.current with
    | some C =>
      let r := C.step i
      ({ U with current := some r.1 }, r.2.map fun o => (.current, o))
    | none => (U, [])

/-- The ledger effects of one set-up among some outputs. -/
def effectsOf (side : Side) (os : List (Side × Output)) : List Effect :=
  ledgerEffects ((os.filter fun o => o.1 = side).map Prod.snd)

/-- The devices of the probes in flight, of both set-ups. -/
def probed (U : Unloaded) : List UUID := U.old.probed ++ (U.current.map System.probed).getD []

/-- Nothing is recorded, fired or armed by the unloaded set-up in a step, and after it no two
probes are in flight on one device. -/
structure Quiescent (U : Unloaded) (e : LateEvent) : Prop where
  records : records (effectsOf .unloaded (U.step e).2) = []
  fired : firedRecords (effectsOf .unloaded (U.step e).2) = []
  timers : ∀ t ∈ (U.step e).1.old.ledger.timers, t ∈ U.old.ledger.timers
  probes : (U.step e).1.probed.Nodup

/-- The ledger call that a late event makes on the ledger of the unloaded set-up. -/
def lateCall (U : Unloaded) : LateEvent → Option Call
  | .own i => if U.old.survives i then U.old.callOf i else none
  | .service c _ =>
    match U.current with
    | some _ => none
    | none => if U.keepsData then some c else none
  | _ => none

/-- A late event begins no request. It makes no call that `appends`: none that fails a load while
the device has a pending request, no timer of the pending one, no status that is an error or
confirms the pending one, and no report of a failure or an outcome. And no cycle finds a probe due
on a device on which an old probe is in flight. -/
structure Harmless (U : Unloaded) (e : LateEvent) : Prop where
  appends : ∀ c, U.lateCall e = some c → ∀ d, U.old.ledger.appends d c.op = false
  begins : ∀ c, U.lateCall e = some c → ∀ u contentId source session timeout,
    c.op ≠ .beginRequest u contentId source session timeout
  cycles : ∀ i C cycle, e = .live i → U.current = some C → i.event = .refresh cycle →
    ∀ d ∈ U.old.probed, ¬ C.FindsDue i.env cycle d

end Unloaded
end CastDelivery
