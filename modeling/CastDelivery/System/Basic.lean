import CastDelivery.Hub.Basic
import CastDelivery.Probe.Coordinator
import Mathlib.Data.Finset.Erase
import Mathlib.Data.Finset.Insert

/-!
# Tracked plays and probes in flight

`System` is a hub with the tasks that begin requests on its ledger: the tracked plays of
`CastMediaPlayerEntity._async_quick_play_tracked` and the probes of
`CastProbeCoordinator._async_probe`. Each begins a request, hands `quick_play` to the executor
and goes on when that returns or raises; in between, anything else may run.

An event is one uninterrupted piece of work on the event loop: a callback, the part of a task
between two awaits, or the loop of a refresh cycle. The launched probe runs eagerly to its
first await, so its `async_begin_request` is part of the cycle. The events carry what the
outside decides: what the device reported, whether `quick_play` raised, and the clocks.
-/

namespace CastDelivery

/-- A request that a task began, on its device. -/
structure Ticket where
  uuid : UUID
  request : Request
deriving DecidableEq, Repr

/-- A task of `_async_probe`, with the request it began. -/
structure Probe extends Ticket where
  snapshot : ProbeSnapshot
deriving DecidableEq, Repr

/-- Where a probe task waits. -/
inductive Stage
  /-- For `quick_play_probe` in the executor. -/
  | playing
  /-- In the loop of `_async_wait_for_outcome`, until a deadline. -/
  | waiting (deadline : Monotonic)
  /-- For `quit_app_probe` in the executor. -/
  | quitting
deriving DecidableEq, Repr

/-- `ProbeResult`. -/
structure ProbeResult where
  checkedAt : DateTime
  decision : String
  outcome : Option DeliveryOutcome := none
deriving DecidableEq, Repr

/-- A hub with the coordinator's state and the tasks in flight. A target is named by a number
that stands for the identity of the object. -/
structure System extends Hub where
  targets : Dict UUID ℕ := ∅
  running : Finset UUID := ∅
  data : Option (Dict UUID ProbeResult) := none
  probes : List (Probe × Stage) := []
  plays : List Ticket := []

/-- What the system does to the outside. -/
inductive Output
  | ledger (e : Effect)
  /-- A probe task was created. -/
  | launched (p : Probe)
  /-- `_async_wait_for_outcome` returned an outcome to a probe. -/
  | obtained (p : Probe) (outcome : Option DeliveryOutcome)
  /-- A probe handed `quit_app_probe` to the executor. -/
  | quitApp (p : Probe)
  /-- A probe stored an outcome in the coordinator's data. -/
  | stored (p : Probe) (outcome : Option DeliveryOutcome)
deriving DecidableEq, Repr

/-- The ledger effects among some outputs. -/
def ledgerEffects (os : List Output) : List Effect :=
  os.filterMap fun
    | .ledger e => some e
    | _ => none

/-! ## Events -/

/-- The calls that reach the ledger from outside the tasks and the coordinator. -/
def Op.external : Op → Bool
  | .addListener _ | .beginRequest _ _ _ _ _ | .requestFailed _ _ _ _ => false
  | .record _ call => call.source = .announce
  | _ => true

/-- The sources of a tracked play. -/
inductive UserSource
  | playMedia
  | announce
deriving DecidableEq, Repr

/-- The source of a tracked play, as the ledger has it. -/
def UserSource.source : UserSource → Source
  | playMedia => .playMedia
  | announce => .announce

/-- What a refresh cycle reads. -/
structure Cycle where
  /-- The URL of the probe clip, unless no URL is configured. -/
  url : Option String
  /-- `rewrite_hass_url(hass, url, base)`. -/
  rewrite : String → String → String
  /-- `target.probe_snapshot()` of each target. -/
  snapshots : UUID → Option ProbeSnapshot

/-- One uninterrupted piece of work. -/
inductive Event
  | callback (op : Op) (external : op.external = true)
  /-- `_async_quick_play_tracked`, up to its executor job. -/
  | play (uuid : UUID) (contentId : String) (source : UserSource) (session : Option Int)
  | playReturns (t : Ticket)
  | playRaises (t : Ticket) (err : Raised) (connected : Bool) (launchFailure : Option String)
  /-- `_async_update_data`, from the check of the options on. -/
  | refresh (cycle : Cycle)
  | probeReturns (p : Probe)
  | probeRaises (p : Probe) (err : Raised)
  /-- The probe wakes from `asyncio.sleep(0.25)`. -/
  | probePolls (p : Probe)
  /-- `quit_app_probe` returned or raised. -/
  | probeQuit (p : Probe)
  /-- The probe's task is cancelled. -/
  | probeCancelled (p : Probe)
  | applyOptions (options : StoredOptions)
  | registerTarget (uuid : UUID) (target : ℕ)
  | unregisterTarget (uuid : UUID) (target : ℕ)

/-- An event, with what it reads while it runs. -/
structure Input where
  env : Env
  event : Event

namespace System

/-- Run a ledger call and its listeners. -/
def ledgerCall (S : System) (c : Call) : System × List Output :=
  let r := S.toHub.call c
  ({ S with toHub := r.1 }, r.2.map .ledger)

/-- The request that `async_begin_request` will begin. -/
def nextRequest (S : System) (env : Env) (u : UUID) (contentId : String) (source : Source)
    (session : Option Int) : Request where
  serial := (S.ledger.health u).begun
  contentId := contentId
  source := source
  requestedAt := env.utcnow
  started := env.monotonic
  sessionAtRequest := session

/-! ## Tracked plays -/

/-- `_async_quick_play_tracked`, up to its executor job. -/
def play (S : System) (env : Env) (u : UUID) (contentId : String) (source : UserSource)
    (session : Option Int) : System × List Output :=
  let ticket : Ticket := ⟨u, S.nextRequest env u contentId source.source session⟩
  let r := S.ledgerCall ⟨env, .beginRequest u contentId source.source session DELIVERY_TIMEOUT⟩
  ({ r.1 with plays := r.1.plays ++ [ticket] }, r.2)

/-- The `except` clauses of `_async_quick_play_tracked`. -/
def playRaises (S : System) (env : Env) (t : Ticket) (err : Raised) (connected : Bool)
    (launchFailure : Option String) : System × List Output :=
  let S := { S with plays := S.plays.erase t }
  match err.exc.cls with
  | .timeoutError => S.ledgerCall ⟨env, .requestFailed t.uuid err none none⟩
  | .homeAssistantError =>
    S.ledgerCall ⟨env, .requestFailed t.uuid err (some connected) launchFailure⟩
  | _ => (S, [])

/-! ## Probes -/

/-- Where a probe is, if it is in flight. -/
def stageOf (S : System) (p : Probe) : Option Stage :=
  (S.probes.find? fun t => t.1 = p).map Prod.snd

/-- Move a probe on. -/
def setStage (S : System) (p : Probe) (stage : Stage) : System :=
  { S with probes := S.probes.map fun t => if t.1 = p then (p, stage) else t }

/-- The `finally` clause of `_async_probe`. -/
def finishProbe (S : System) (p : Probe) : System × List Output :=
  let outcome := (S.ledger.health p.uuid).lastRecord.map DeliveryRecord.outcome
  let S :=
    { S with running := S.running.erase p.uuid, probes := S.probes.filter fun t => t.1 ≠ p }
  match S.data with
  | none => (S, [])
  | some data =>
    match data.get? p.uuid with
    | none => (S, [])
    | some result =>
      ({ S with data := some (data.set p.uuid { result with outcome := outcome }) },
        [.stored p outcome])

/-- One turn of the loop of `_async_wait_for_outcome`: what it returns, unless it sleeps. -/
def waitForOutcome (env : Env) (health : DeviceHealth) (deadline : Monotonic) :
    Option (Option DeliveryOutcome) :=
  if health.pending.any (fun pending => pending.source = .probe) then
    if deadline < env.monotonic then some none else none
  else some (health.lastRecord.map DeliveryRecord.outcome)

/-- `_async_probe` from a turn of the loop of `_async_wait_for_outcome` to its next await. -/
def waitProbe (S : System) (env : Env) (p : Probe) (deadline : Monotonic) :
    System × List Output :=
  match waitForOutcome env (S.ledger.health p.uuid) deadline with
  | none => (S.setStage p (.waiting deadline), [])
  | some outcome =>
    if outcome = some .ok ∧ p.snapshot.appIdle = true then
      (S.setStage p .quitting, [.obtained p outcome, .quitApp p])
    else
      let r := S.finishProbe p
      (r.1, .obtained p outcome :: r.2)

/-- `_async_probe` after `quick_play_probe` raised. -/
def probeRaises (S : System) (env : Env) (p : Probe) (err : Raised) : System × List Output :=
  if err.exc.cls.caught then
    let failed := S.ledgerCall ⟨env, .requestFailed p.uuid err none none⟩
    let r := failed.1.finishProbe p
    (r.1, failed.2 ++ r.2)
  else S.finishProbe p

/-- `_async_probe`, up to its executor job. -/
def launchProbe (S : System) (env : Env) (u : UUID) (snapshot : ProbeSnapshot) (url : String) :
    System × List Output :=
  let probe : Probe :=
    { uuid := u
      request := S.nextRequest env u url .probe snapshot.mediaSessionId
      snapshot := snapshot }
  let S := { S with running := insert u S.running, probes := S.probes ++ [(probe, Stage.playing)] }
  let r := S.ledgerCall
    ⟨env, .beginRequest u url .probe snapshot.mediaSessionId DELIVERY_TIMEOUT⟩
  (r.1, .launched probe :: r.2)

/-! ## Refresh cycles -/

/-- `device_url` of `_async_update_data`. -/
def deviceUrl (env : Env) (cycle : Cycle) (url : String) (u : UUID) : String :=
  match env.urlOverrides u with
  | some base => cycle.rewrite url base
  | none => url

/-- `_decide`, apart from its record. -/
def decision (S : System) (env : Env) (cycle : Cycle) (u : UUID) : Decision :=
  S.options.decide env (u ∈ S.running) (cycle.snapshots u) (S.ledger.health u)

/-- Carry out the decision for a device. -/
def actOn (S : System) (env : Env) (cycle : Cycle) (url : String) (u : UUID) :
    Decision → System × List Output
  | .probe snapshot => S.launchProbe env u snapshot (deviceUrl env cycle url u)
  | decision =>
    match decision.recordCall with
    | some call => S.ledgerCall ⟨env, .record u call⟩
    | none => (S, [])

/-- The turn of one target in the loop of `_async_update_data`, with its result. -/
def refreshDevice (S : System) (env : Env) (cycle : Cycle) (url : String) (u : UUID) :
    (System × List Output) × ProbeResult :=
  let known := S.ledgerCall ⟨env, .device u⟩
  let decision := known.1.decision env cycle u
  let r := known.1.actOn env cycle url u decision
  ((r.1, known.2 ++ r.2), { checkedAt := env.utcnow, decision := decision.text })

/-- The loop of `_async_update_data`, with the results it collects. -/
def refreshDevices (env : Env) (cycle : Cycle) (url : String) :
    List UUID → System → Dict UUID ProbeResult →
      (System × List Output) × Dict UUID ProbeResult
  | [], S, results => ((S, []), results)
  | u :: us, S, results =>
    let r := S.refreshDevice env cycle url u
    let rest := refreshDevices env cycle url us r.1.1 (results.set u r.2)
    ((rest.1.1, r.1.2 ++ rest.1.2), rest.2)

/-- `_async_update_data`, from the check of the options on; its result becomes the data unless
it raises `UpdateFailed`. The results start as a copy of the data that shares its `ProbeResult`
objects, so it makes no difference that the copy is taken before the topology is refreshed. -/
def refresh (S : System) (env : Env) (cycle : Cycle) : System × List Output :=
  let results := S.data.getD ∅
  if S.options.enabled = false then ({ S with data := some results }, [])
  else match cycle.url with
    | none => (S, [])
    | some url =>
      let r := refreshDevices env cycle url S.targets.keys S results
      ({ r.1.1 with data := some r.2 }, r.1.2)

/-! ## Steps -/

/-- Run one event. An event of a task that is not in flight, or waits elsewhere, is none. -/
def step (S : System) (i : Input) : System × List Output :=
  match i.event with
  | .callback op _ => S.ledgerCall ⟨i.env, op⟩
  | .play u contentId source session => S.play i.env u contentId source session
  | .playReturns t => ({ S with plays := S.plays.erase t }, [])
  | .playRaises t err connected launchFailure =>
    if t ∈ S.plays then S.playRaises i.env t err connected launchFailure else (S, [])
  | .refresh cycle => S.refresh i.env cycle
  | .probeReturns p =>
    match S.stageOf p with
    | some .playing =>
      S.waitProbe i.env p (i.env.monotonic + (DELIVERY_TIMEOUT + 5 : ℕ) * second)
    | _ => (S, [])
  | .probeRaises p err =>
    match S.stageOf p with
    | some .playing => S.probeRaises i.env p err
    | _ => (S, [])
  | .probePolls p =>
    match S.stageOf p with
    | some (.waiting deadline) => S.waitProbe i.env p deadline
    | _ => (S, [])
  | .probeQuit p =>
    match S.stageOf p with
    | some .quitting => S.finishProbe p
    | _ => (S, [])
  | .probeCancelled p =>
    match S.stageOf p with
    | some _ => S.finishProbe p
    | none => (S, [])
  | .applyOptions options => ({ S with options := probeOptions options }, [])
  | .registerTarget u target => ({ S with targets := S.targets.set u target }, [])
  | .unregisterTarget u target =>
    if S.targets.get? u = some target then ({ S with targets := S.targets.erase u }, [])
    else (S, [])

/-- A set-up: the repair manager and then the coordinator have registered with the ledger. -/
def setUp (options : StoredOptions) : System where
  ledger := { listeners := [.repairManager, .circuitBreaker] }
  options := probeOptions options

/-- The system after a run from a set-up. -/
def after (options : StoredOptions) (run : List Input) : System :=
  Machine.final step (setUp options) run

/-- The outputs of a run from a set-up. -/
def outputs (options : StoredOptions) (run : List Input) : List Output :=
  Machine.emitted step (setUp options) run

end System

end CastDelivery
