import CastDelivery.Health.Basic

/-!
# The delivery ledger

The operations of `DeliveryLedger` in `health.py`, one definition for each method, and `step`,
which runs one call. An operation returns the new ledger and what it did to the outside:
records appended, events fired on the bus, dispatcher signals, and calls of the registered
listeners. `timers` are the delivery timers armed on the event loop; a timer closes over its
device, its request and its timeout, as `_expire` does.

The listeners are called inside `_append` in the source. They read the health object and the
record they are given and write nothing the rest of the operation reads, so here a call is an
output that carries both, and `Hub` runs the two listeners of the integration on it.
-/

namespace CastDelivery

/-- The callbacks that register with `async_add_listener`. -/
inductive Listener
  /-- `CastProbeCoordinator._async_on_record`. -/
  | circuitBreaker
  /-- `RepairManager.async_on_record`. -/
  | repairManager
  | other (n : ℕ)
deriving DecidableEq, Repr

/-- A call of `_expire` armed with `async_call_later`. -/
structure Timer where
  uuid : UUID
  serial : ℕ
  timeout : ℕ
deriving DecidableEq, Repr

/-- The handle that cancels a timer. -/
def Timer.handle (t : Timer) : UUID × ℕ := (t.uuid, t.serial)

/-- The `observed` dictionary of a status, empty unless one is given. -/
structure Observed where
  contentId : Option String := none
  playerState : Option String := none
  idleReason : Option String := none
  mediaSessionId : Option Int := none
deriving DecidableEq, Repr

/-- The arguments of `async_media_status`. -/
structure MediaStatus extends Observed where
  playerIsIdle : Bool
deriving DecidableEq, Repr

/-- The keyword arguments of `_append`. -/
structure Delivery where
  outcome : DeliveryOutcome
  source : Source
  contentId : Option String
  error : Option String
  responded : Bool
  requestedAt : Option DateTime
  elapsed : Option Int
  observed : Observed
deriving DecidableEq, Repr

/-- `DeliveryLedger`, with the timers it has armed. -/
structure DeliveryLedger where
  records : List DeliveryRecord := []
  devices : DeviceTable := .empty
  listeners : List Listener := []
  timers : List Timer := []

/-- What an operation does to the outside. `begun` and `appended` also name the request object
an operation created or consumed. -/
inductive Effect
  | begun (uuid : UUID) (request : Request)
  /-- `self.records.append(record)`. -/
  | appended (record : DeliveryRecord) (request : Option Request)
  /-- `hass.bus.async_fire(EVENT_DELIVERY_RESULT, record.as_dict())`. -/
  | fired (record : DeliveryRecord)
  /-- `async_dispatcher_send(hass, SIGNAL_HEALTH_UPDATED, uuid)`. -/
  | dispatched (uuid : UUID)
  /-- `listener(health, record)`. -/
  | called (listener : Listener) (health : DeviceHealth) (record : DeliveryRecord)
deriving DecidableEq, Repr

/-- `IDLE_REASON_ERROR`. -/
def IDLE_REASON_ERROR : String := "ERROR"

/-- A status that reports a failed load: idle with reason `ERROR`. -/
def MediaStatus.isError (status : MediaStatus) : Bool :=
  status.playerIsIdle && status.idleReason = some IDLE_REASON_ERROR

/-- `MEDIA_PLAYER_STATE_BUFFERING`. -/
def MEDIA_PLAYER_STATE_BUFFERING : String := "BUFFERING"

/-- `MEDIA_PLAYER_STATE_PLAYING`. -/
def MEDIA_PLAYER_STATE_PLAYING : String := "PLAYING"

/-- `content_id.startswith(base)`. -/
def startsWith (contentId base : String) : Bool := base.toList.isPrefixOf contentId.toList

/-- `_url_source`. -/
def urlSource (env : Env) (uuid : UUID) (contentId : Option String) : Option UrlSource :=
  match contentId with
  | none => none
  | some url =>
    if url = "" then none
    else if (env.urlOverrides uuid).any (fun base => base ≠ "" ∧ startsWith url (base ++ "/")) then
      some .override
    else if env.internalUrl.any (fun base => base ≠ "" ∧ startsWith url base) then
      some .internalUrl
    else if env.externalUrl.any (fun base => base ≠ "" ∧ startsWith url base) then
      some .externalUrl
    else none

namespace DeviceHealth

/-- The record `_append` builds. -/
def deliveryRecord (env : Env) (health : DeviceHealth) (d : Delivery) : DeliveryRecord where
  uuid := health.uuid
  entityId := health.entityId
  name := health.name
  source := d.source
  outcome := d.outcome
  contentId := d.contentId
  error := d.error
  urlSource := urlSource env health.uuid d.contentId
  responded := d.responded
  requestedAt := d.requestedAt
  resolvedAt := env.utcnow
  elapsed := d.elapsed
  playerState := d.observed.playerState
  idleReason := d.observed.idleReason
  mediaSessionId := d.observed.mediaSessionId

/-- `last_record` and `last_outcome` after a record. -/
def setLast (health : DeviceHealth) (record : DeliveryRecord) : DeviceHealth :=
  if record.outcome ≠ .unknown ∧ record.outcome ≠ .skippedBusy then
    { health with lastRecord := some record, lastOutcome := record.outcome }
  else { health with lastRecord := some record }

/-- `last_success` and the two counters after a record. -/
def count (health : DeviceHealth) (record : DeliveryRecord) : DeviceHealth :=
  if record.outcome = .ok then
    { health with
      lastSuccess := some record.resolvedAt, consecutiveFailures := 0, consecutiveTimeouts := 0 }
  else if record.outcome ∈ FAILURE_OUTCOMES then
    if record.outcome = .timeout then
      { health with
        consecutiveFailures := health.consecutiveFailures + 1
        consecutiveTimeouts := health.consecutiveTimeouts + 1 }
    else
      { health with
        consecutiveFailures := health.consecutiveFailures + 1, consecutiveTimeouts := 0 }
  else health

/-- Everything `_append` does to the health object. -/
def account (health : DeviceHealth) (record : DeliveryRecord) : DeviceHealth :=
  (health.setLast record).count record

/-- `pending.cancel_timeout = None`. -/
def clearTimeout (health : DeviceHealth) : DeviceHealth :=
  { health with pending := health.pending.map fun p => { p with cancelTimeout := false } }

/-- The timer handle the pending request holds. -/
def handle (health : DeviceHealth) : Option (UUID × ℕ) :=
  (health.pending.filter PendingRequest.cancelTimeout).map fun p => (health.uuid, p.serial)

end DeviceHealth

namespace DeliveryLedger

/-- `deque(maxlen=LEDGER_SIZE)`: appending drops the oldest record beyond the bound. -/
def pushRecord (records : List DeliveryRecord) (record : DeliveryRecord) : List DeliveryRecord :=
  (records ++ [record]).drop (records.length + 1 - LEDGER_SIZE)

/-- `async_add_listener`. -/
def asyncAddListener (L : DeliveryLedger) (listener : Listener) : DeliveryLedger :=
  { L with listeners := L.listeners ++ [listener] }

/-- The callable that `async_add_listener` returns. -/
def removeListener (L : DeliveryLedger) (listener : Listener) : DeliveryLedger :=
  { L with listeners := L.listeners.erase listener }

/-- The health object of a device. -/
def health (L : DeliveryLedger) (uuid : UUID) : DeviceHealth := L.devices.get uuid

/-- Store a health object that an operation has changed. -/
def store (L : DeliveryLedger) (health : DeviceHealth) : DeliveryLedger :=
  { L with devices := L.devices.put health }

/-- `device`: the ledger after the health object was created on first use. -/
def device (L : DeliveryLedger) (uuid : UUID) : DeliveryLedger :=
  match L.devices.dict.get? uuid with
  | some _ => L
  | none => L.store { uuid := uuid }

/-- Call a cancel handle: the timer is no longer armed. -/
def cancel (L : DeliveryLedger) (handle : UUID × ℕ) : DeliveryLedger :=
  { L with timers := L.timers.filter fun t => t.handle ≠ handle }

/-- `_append`. -/
def append (env : Env) (L : DeliveryLedger) (health : DeviceHealth) (d : Delivery)
    (request : Option Request) : DeliveryLedger × List Effect :=
  let record := health.deliveryRecord env d
  let health := health.account record
  ({ L with records := pushRecord L.records record, devices := L.devices.put health },
    [.appended record request, .fired record, .dispatched health.uuid]
      ++ L.listeners.map fun listener => .called listener health record)

/-- The arguments with which `_resolve` appends: those of the pending request, or of an
observation if there is none. The clock counts nanoseconds, and `round` is that of the exact
difference, where Python rounds a binary fraction. -/
def resolution (env : Env) (pending : Option PendingRequest) (outcome : DeliveryOutcome)
    (error : Option String) (responded : Bool) (observed : Observed)
    (unsolicitedContentId : Option String) : Delivery :=
  match pending with
  | some pending =>
    { outcome := outcome
      source := pending.source
      contentId := some pending.contentId
      error := error
      responded := responded
      requestedAt := some pending.requestedAt
      elapsed := some (roundDiv (env.monotonic - pending.started) 1000000)
      observed := observed }
  | none =>
    { outcome := outcome
      source := .observed
      contentId := unsolicitedContentId
      error := error
      responded := responded
      requestedAt := none
      elapsed := none
      observed := observed }

/-- `_resolve`. -/
def resolve (env : Env) (L : DeliveryLedger) (health : DeviceHealth) (outcome : DeliveryOutcome)
    (error : Option String) (responded : Bool) (observed : Observed)
    (unsolicitedContentId : Option String) : DeliveryLedger × List Effect :=
  let L := match health.handle with
    | some handle => L.cancel handle
    | none => L
  L.append env { health with pending := none }
    (resolution env health.pending outcome error responded observed unsolicitedContentId)
    health.request

/-- `async_update_identity`. -/
def asyncUpdateIdentity (env : Env) (L : DeliveryLedger) (uuid : UUID)
    (entityId name host : Option String) (port : Option ℕ) (seen : Bool) : DeliveryLedger :=
  let health := L.health uuid
  L.store
    { health with
      entityId := entityId.or health.entityId
      name := name.or health.name
      host := host.or health.host
      port := port.or health.port
      lastSeen := if seen then some env.utcnow else health.lastSeen }

/-- `CastLastSuccessSensor.async_added_to_hass`, with the restored value it parsed. -/
def restoreLastSuccess (L : DeliveryLedger) (uuid : UUID) (stamp : Option DateTime) :
    DeliveryLedger :=
  let L := L.device uuid
  let health := L.health uuid
  match health.lastSuccess with
  | some _ => L
  | none => L.store { health with lastSuccess := stamp }

/-- The part of `async_begin_request` that resolves a request still pending. -/
def supersede (env : Env) (L : DeliveryLedger) (uuid : UUID) : DeliveryLedger × List Effect :=
  match (L.health uuid).pending with
  | some _ =>
    L.resolve env (L.health uuid) .unknown
      (some "superseded by a newer request before any state transition") false {} none
  | none => (L, [])

/-- The part of `async_begin_request` that stores the new request and arms its timer. -/
def startRequest (env : Env) (L : DeliveryLedger) (uuid : UUID) (contentId : String)
    (source : Source) (sessionAtRequest : Option Int) (timeout : ℕ) :
    DeliveryLedger × List Effect :=
  let health := L.health uuid
  let request : Request :=
    { serial := health.begun
      contentId := contentId
      source := source
      requestedAt := env.utcnow
      started := env.monotonic
      sessionAtRequest := sessionAtRequest }
  let timer : Timer := ⟨uuid, health.begun, timeout⟩
  ({ L with
      devices := L.devices.put
        { health with
          pending := some { toRequest := request, cancelTimeout := true }
          begun := health.begun + 1 }
      timers := L.timers ++ [timer] },
    [.begun uuid request])

/-- `async_begin_request`. -/
def asyncBeginRequest (env : Env) (L : DeliveryLedger) (uuid : UUID) (contentId : String)
    (source : Source) (sessionAtRequest : Option Int) (timeout : ℕ) :
    DeliveryLedger × List Effect :=
  let superseded := (L.device uuid).supersede env uuid
  let started := superseded.1.startRequest env uuid contentId source sessionAtRequest timeout
  (started.1, superseded.2 ++ started.2)

/-- `_expire`, the callback of a delivery timer. A timer that fires is no longer armed. -/
def expire (env : Env) (L : DeliveryLedger) (timer : Timer) : DeliveryLedger × List Effect :=
  let L := L.cancel timer.handle
  let health := L.health timer.uuid
  match health.pending with
  | some pending =>
    -- `health.pending is not pending`
    if pending.serial ≠ timer.serial then (L, [])
    else
      L.resolve env health.clearTimeout .timeout
        (some s!"no BUFFERING, PLAYING, or ERROR status within {timer.timeout}s") false {} none
  | none => (L, [])

/-- `_record_observation`. -/
def recordObservation (env : Env) (L : DeliveryLedger) (health : DeviceHealth)
    (observed : Observed) : DeliveryLedger × List Effect :=
  L.append env health
    { outcome := .fetchFailed
      source := .observed
      contentId := observed.contentId
      error := some "device reported idleReason=ERROR for media this integration did not request"
      responded := true
      requestedAt := none
      elapsed := none
      observed := observed }
    none

/-- `async_media_status`. -/
def asyncMediaStatus (env : Env) (L : DeliveryLedger) (uuid : UUID) (status : MediaStatus) :
    DeliveryLedger × List Effect :=
  let L := L.device uuid
  let health := L.health uuid
  if status.isError then
    match health.pending with
    | some pending =>
      if status.contentId ≠ none ∧ status.contentId ≠ some pending.contentId then
        L.recordObservation env health status.toObserved
      else
        L.resolve env health .fetchFailed
          (some "device reported idleReason=ERROR; it could not fetch the media") true
          status.toObserved none
    | none =>
      L.resolve env health .fetchFailed
        (some "device reported idleReason=ERROR; it could not fetch the media") true
        status.toObserved status.contentId
  else
    match health.pending with
    | none => (L, [])
    | some pending =>
      if status.contentId ≠ some pending.contentId then (L, [])
      else if status.playerState ≠ some MEDIA_PLAYER_STATE_BUFFERING ∧
          status.playerState ≠ some MEDIA_PLAYER_STATE_PLAYING then (L, [])
      else if pending.sessionAtRequest ≠ none ∧
          status.mediaSessionId = pending.sessionAtRequest then (L, [])
      else L.resolve env health .ok none true status.toObserved none

/-- The message of `async_load_media_failed`. -/
def loadFailedMessage (env : Env) (queueItemId errorCode : Option Int) : String :=
  let str (n : Option Int) : String := (n.map toString).getD "None"
  let reason := (errorCode.bind env.mediaPlayerErrorCodes).getD "unknown code"
  s!"device rejected the load: code {str errorCode} ({reason}), queue item {str queueItemId}"

/-- `async_load_media_failed`. -/
def asyncLoadMediaFailed (env : Env) (L : DeliveryLedger) (uuid : UUID)
    (queueItemId errorCode : Option Int) : DeliveryLedger × List Effect :=
  let L := L.device uuid
  let health := L.health uuid
  match health.pending with
  | none => (L, [])
  | some _ =>
    L.resolve env health .fetchFailed (some (loadFailedMessage env queueItemId errorCode)) true
      {} none

/-- The outcome, `responded` flag and text that `async_request_failed` derives from an
exception, the connection state of the entity and the receiver's last launch failure. -/
def classify (err : Raised) (connected : Option Bool) (launchFailure : Option String) :
    DeliveryOutcome × Bool × String :=
  let cause := if err.exc.cls.isPyChromecastError then some err.exc else err.cause
  let cls := cause.map Exc.cls
  let shown := cause.getD err.exc
  let text := s!"{shown.cls.name}: {shown.str}"
  if err.exc.cls = .timeoutError then
    (.timeout, false, "TimeoutError: the device did not answer before the watchdog expired")
  else if cls = some .requestTimeout then (.timeout, false, text)
  else if cls = some .requestFailed ∧ (connected = some true ∨ strOr launchFailure "" ≠ "") then
    (.fetchFailed, true,
      if strOr launchFailure "" ≠ "" then
        "device rejected the app launch: " ++ strOr launchFailure ""
      else
        "RequestFailed while connected: the device answered the request "
          ++ "with a failure (no launch error reason was reported)")
  else if cls = some .notConnected ∨ cls = some .chromecastConnectionError ∨
      cls = some .requestFailed then
    (.unreachable, false, text)
  else (.fetchFailed, true, text)

/-- `async_request_failed`. -/
def asyncRequestFailed (env : Env) (L : DeliveryLedger) (uuid : UUID) (err : Raised)
    (connected : Option Bool) (launchFailure : Option String) : DeliveryLedger × List Effect :=
  let L := L.device uuid
  let (outcome, responded, text) := classify err connected launchFailure
  L.resolve env (L.health uuid) outcome (some text) responded {} none

/-- `async_record`. -/
def asyncRecord (env : Env) (L : DeliveryLedger) (uuid : UUID) (outcome : DeliveryOutcome)
    (source : Source) (contentId error : Option String) (responded : Bool) :
    DeliveryLedger × List Effect :=
  let L := L.device uuid
  let health := L.health uuid
  if health.pending.any (fun pending => pending.source = source) then
    L.resolve env health outcome error responded {} none
  else
    L.append env health
      { outcome := outcome
        source := source
        contentId := contentId
        error := error
        responded := responded
        requestedAt := none
        elapsed := none
        observed := {} }
      none

/-- `async_shutdown`: cancel the timer of every pending request. -/
def asyncShutdown (L : DeliveryLedger) : DeliveryLedger :=
  let handles := L.devices.dict.values.filterMap DeviceHealth.handle
  { L with
    timers := L.timers.filter fun t => t.handle ∉ handles
    devices := L.devices.map DeviceHealth.clearTimeout fun _ => rfl }

end DeliveryLedger

/-! ## Runs -/

/-- The calls of `async_record` that the repository makes. -/
inductive RecordCall
  /-- `CastMediaPlayerEntity._async_template_failed`. -/
  | templateFailed (error : String)
  /-- `CastMediaPlayerEntity.async_announce`, when no TTS engine is found. -/
  | ttsEngineUnavailable (err : String)
  /-- `CastProbeCoordinator._decide`, without a snapshot. -/
  | notConnected
  /-- `CastProbeCoordinator._decide`, for a busy device. -/
  | notIdle (error : String)
deriving DecidableEq, Repr

namespace RecordCall

def outcome : RecordCall → DeliveryOutcome
  | templateFailed _ | ttsEngineUnavailable _ => .templateError
  | notConnected => .unreachable
  | notIdle _ => .skippedBusy

def source : RecordCall → Source
  | templateFailed _ | ttsEngineUnavailable _ => .announce
  | notConnected | notIdle _ => .probe

def error : RecordCall → String
  | templateFailed error => s!"template failed to render: {error}"
  | ttsEngineUnavailable err => s!"TTS engine unavailable: {err}"
  | notConnected => "no Cast channel to the device on port 8009 (entity unavailable)"
  | notIdle error => error

end RecordCall

/-- The calls of a ledger's methods. -/
inductive Op
  | addListener (listener : Listener)
  | removeListener (listener : Listener)
  | device (uuid : UUID)
  | updateIdentity (uuid : UUID) (entityId name host : Option String) (port : Option ℕ)
      (seen : Bool)
  | restoreLastSuccess (uuid : UUID) (stamp : Option DateTime)
  | beginRequest (uuid : UUID) (contentId : String) (source : Source)
      (sessionAtRequest : Option Int) (timeout : ℕ)
  | expire (timer : Timer)
  | mediaStatus (uuid : UUID) (status : MediaStatus)
  | loadMediaFailed (uuid : UUID) (queueItemId errorCode : Option Int)
  | requestFailed (uuid : UUID) (err : Raised) (connected : Option Bool)
      (launchFailure : Option String)
  | record (uuid : UUID) (call : RecordCall)
  | shutdown

/-- The device a call is about; a few calls are about the whole ledger. -/
def Op.uuid? : Op → Option UUID
  | .addListener _ | .removeListener _ | .shutdown => none
  | .device u | .updateIdentity u _ _ _ _ _ | .restoreLastSuccess u _ => some u
  | .beginRequest u _ _ _ _ => some u
  | .expire t => some t.uuid
  | .mediaStatus u _ | .loadMediaFailed u _ _ | .requestFailed u _ _ _ | .record u _ => some u

/-- A call, with what it reads while it runs. -/
structure Call where
  env : Env
  op : Op

/-- Run one call. -/
def DeliveryLedger.step (L : DeliveryLedger) (c : Call) : DeliveryLedger × List Effect :=
  match c.op with
  | .addListener listener => (L.asyncAddListener listener, [])
  | .removeListener listener => (L.removeListener listener, [])
  | .device u => (L.device u, [])
  | .updateIdentity u entityId name host port seen =>
    (L.asyncUpdateIdentity c.env u entityId name host port seen, [])
  | .restoreLastSuccess u stamp => (L.restoreLastSuccess u stamp, [])
  | .beginRequest u contentId source sessionAtRequest timeout =>
    L.asyncBeginRequest c.env u contentId source sessionAtRequest timeout
  | .expire timer => L.expire c.env timer
  | .mediaStatus u status => L.asyncMediaStatus c.env u status
  | .loadMediaFailed u queueItemId errorCode =>
    L.asyncLoadMediaFailed c.env u queueItemId errorCode
  | .requestFailed u err connected launchFailure =>
    L.asyncRequestFailed c.env u err connected launchFailure
  | .record u call =>
    L.asyncRecord c.env u call.outcome call.source none (some call.error) false
  | .shutdown => (L.asyncShutdown, [])

end CastDelivery
