import Mathlib.Data.Nat.Notation
import Mathlib.Logic.Function.Basic

/-!
# The internal discovery

`discovery.py` from `setup_internal_discovery` on. A set-up of the entry leaves the job
`setup_internal_discovery` to an executor thread, `async_unload_entry` ends what it started, and
the stop event of Home Assistant ends it as well. Each of the three goes on one blocking call at a
time, and a step of `Discovery.step` is what one of them does up to its next blocking call.
-/

namespace CastDelivery

/-- How far the job `setup_internal_discovery` of a set-up is. -/
inductive JobStage
  | unscheduled
  | scheduled
  /-- It acquired the lock. -/
  | locked
  /-- `runtime_data.browser = browser`. -/
  | published
  /-- `start_discovery` returned. -/
  | started
  /-- `listen_once` returned. -/
  | listening
  | returned
deriving DecidableEq, Repr

/-- How far the job `stop_discovery` of a stop listener is. -/
inductive StopStage
  | idle
  | dispatched
  /-- `browser.stop_discovery` returned. -/
  | stopped
  | returned
deriving DecidableEq, Repr

/-- The discovery of one set-up: its job, its stop listener and its browser. -/
structure Attempt where
  job : JobStage := .unscheduled
  stop : StopStage := .idle
  /-- The stop listener is on the bus. -/
  listens : Bool := false
  running : Bool := false
  /-- The calls of `browser.start_discovery`. -/
  starts : ℕ := 0
  /-- The calls of `browser.stop_discovery`. -/
  stops : ℕ := 0
deriving DecidableEq, Repr

namespace Attempt

/-- `browser.start_discovery()`. -/
def startDiscovery (a : Attempt) : Attempt := { a with running := true, starts := a.starts + 1 }

/-- `browser.stop_discovery()`. -/
def stopDiscovery (a : Attempt) : Attempt := { a with running := false, stops := a.stops + 1 }

/-- The bus takes a stop listener off and hands its job to an executor thread. -/
def dispatch (a : Attempt) : Attempt :=
  if a.listens then { a with listens := false, stop := .dispatched } else a

/-- `unsub()`: the stop listener is taken off the bus. -/
def unsub (a : Attempt) : Attempt := { a with listens := false }

end Attempt

/-- `runtime_data`. Browsers and stop listeners have the number of their set-up. -/
structure DiscoveryData where
  browser : Option ℕ := none
  unsubDiscoveryStop : Option ℕ := none
deriving DecidableEq, Repr

/-- How far `async_unload_entry` is. -/
inductive UnloadStage
  | unsubscribing (browser listener : ℕ)
  | stopping (browser : ℕ)
  | releasing (browser : ℕ)
  /-- `async_stop_internal_discovery` returned. -/
  | finishing
deriving DecidableEq, Repr

/-- The state of the config entry. -/
inductive EntryState
  | notLoaded
  | loaded
  | unloading (stage : UnloadStage)
  /-- `async_unload_entry` raised. -/
  | failedUnload
deriving DecidableEq, Repr

/-- The entry with its discovery. -/
structure Discovery where
  /-- The number of set-ups so far. -/
  count : ℕ := 0
  attempt : ℕ → Attempt := fun _ => {}
  /-- `hass.data[INTERNAL_DISCOVERY_RUNNING_KEY]`: the set-up whose job acquired it, while it is
  locked. -/
  lock : Option ℕ := none
  data : Option DiscoveryData := none
  entry : EntryState := .notLoaded

/-- The calls on the lock, each for a set-up. -/
inductive LockCall
  | acquired (setUp : ℕ)
  /-- `acquire(blocking=False)` returned `False`. -/
  | refused (setUp : ℕ)
  /-- `release()`, which raises `RuntimeError` on a free lock. -/
  | released (setUp : ℕ)
deriving DecidableEq, Repr

inductive DiscoveryEvent
  | setUp
  /-- `setup_internal_discovery` of a set-up goes on. -/
  | job (setUp : ℕ)
  /-- `EVENT_HOMEASSISTANT_STOP`. -/
  | stopEvent
  /-- `stop_discovery` of a set-up goes on. -/
  | stopJob (setUp : ℕ)
  | unload
  /-- `async_unload_entry` goes on; at its end the entry may lose its `runtime_data`. -/
  | unloadJob (deletesData : Bool)
deriving DecidableEq, Repr

namespace Discovery

/-- `runtime_data.browser`. -/
def browser (S : Discovery) : Option ℕ := S.data.bind DiscoveryData.browser

/-- Change what belongs to one set-up. -/
def modify (S : Discovery) (n : ℕ) (f : Attempt → Attempt) : Discovery :=
  { S with attempt := Function.update S.attempt n (f (S.attempt n)) }

/-- `setup_internal_discovery`. -/
def setupInternalDiscovery (S : Discovery) (n : ℕ) : Discovery × List LockCall :=
  match (S.attempt n).job with
  | .scheduled =>
    match S.lock with
    | some _ => (S.modify n fun a => { a with job := .returned }, [.refused n])
    | none => ({ S.modify n fun a => { a with job := .locked } with lock := some n }, [.acquired n])
  | .locked =>
    match S.data with
    -- without `runtime_data` the assignment raises `AttributeError`
    | none => (S.modify n fun a => { a with job := .returned }, [])
    | some data =>
      ({ S.modify n fun a => { a with job := .published } with
          data := some { data with browser := some n } }, [])
  | .published => (S.modify n fun a => { a.startDiscovery with job := .started }, [])
  | .started => (S.modify n fun a => { a with job := .listening, listens := true }, [])
  | .listening =>
    ({ S.modify n fun a => { a with job := .returned } with
        data := S.data.map fun data => { data with unsubDiscoveryStop := some n } }, [])
  | .unscheduled | .returned => (S, [])

/-- `stop_discovery`. -/
def stopDiscovery (S : Discovery) (n : ℕ) : Discovery × List LockCall :=
  match (S.attempt n).stop with
  | .dispatched => (S.modify n fun a => { a.stopDiscovery with stop := .stopped }, [])
  | .stopped =>
    match S.lock with
    | none => (S.modify n fun a => { a with stop := .returned }, [.released n])
    | some _ =>
      ({ S.modify n fun a => { a with stop := .returned } with
          lock := none
          data := S.data.map fun _ => { browser := none, unsubDiscoveryStop := none } },
        [.released n])
  | .idle | .returned => (S, [])

/-- `async_unload_entry` once the platforms are unloaded: `async_stop_internal_discovery` up to its
first blocking call. -/
def asyncUnloadEntry (S : Discovery) : Discovery :=
  match S.entry, S.data with
  -- without `runtime_data` it raises `AttributeError`
  | .loaded, none => { S with entry := .failedUnload }
  | .loaded, some data =>
    match data.browser with
    | none => { S with entry := .unloading .finishing }
    | some browser =>
      { S with
        data := some { browser := none, unsubDiscoveryStop := none }
        entry := .unloading (match data.unsubDiscoveryStop with
          | some listener => .unsubscribing browser listener
          | none => .stopping browser) }
  | _, _ => S

/-- The rest of `async_unload_entry`. -/
def continueUnload (S : Discovery) (deletesData : Bool) : Discovery × List LockCall :=
  match S.entry with
  | .unloading (.unsubscribing browser listener) =>
    ({ S.modify listener Attempt.unsub with
        entry := .unloading (.stopping browser) }, [])
  | .unloading (.stopping browser) =>
    ({ S.modify browser Attempt.stopDiscovery with entry := .unloading (.releasing browser) }, [])
  | .unloading (.releasing browser) =>
    match S.lock with
    | none => ({ S with entry := .failedUnload }, [.released browser])
    | some _ => ({ S with lock := none, entry := .unloading .finishing }, [.released browser])
  | .unloading .finishing =>
    ({ S with entry := .notLoaded, data := if deletesData then none else S.data }, [])
  | _ => (S, [])

/-- `async_setup_entry` of the integration and of the platform. -/
def asyncSetupEntry (S : Discovery) : Discovery :=
  match S.entry with
  | .notLoaded =>
    { S.modify S.count fun a => { a with job := .scheduled } with
      count := S.count + 1
      data := some {}
      entry := .loaded }
  | _ => S

/-- One event. -/
def step (S : Discovery) : DiscoveryEvent → Discovery × List LockCall
  | .setUp => (S.asyncSetupEntry, [])
  | .job n => S.setupInternalDiscovery n
  | .stopEvent => ({ S with attempt := fun n => (S.attempt n).dispatch }, [])
  | .stopJob n => S.stopDiscovery n
  | .unload => (S.asyncUnloadEntry, [])
  | .unloadJob deletesData => S.continueUnload deletesData

/-! ## Reading a discovery after a change to one set-up -/

section Modify

variable (S : Discovery) (n : ℕ) (f : Attempt → Attempt)

@[simp] theorem attempt_modify_self : (S.modify n f).attempt n = f (S.attempt n) :=
  Function.update_self _ _ _

theorem attempt_modify_of_ne {m : ℕ} (hne : m ≠ n) :
    (S.modify n f).attempt m = S.attempt m :=
  Function.update_of_ne hne _ _

end Modify

end Discovery
end CastDelivery
