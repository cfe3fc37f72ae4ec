import CastDelivery.Playback.PlayMedia

/-!
# The calls of one entity

`Entity` is a `CastMediaPlayerEntity` with the calls in flight that send requests to its device:
announcements (`async_announce`), plays (`async_play_media`) and probes. A call runs in pieces,
from one await to the next; in between, other calls, the executor and the socket client run.

An input is one such piece of work, with what it reads. A `Pause` is an await before the request
begins, and `Next` what a piece of `async_play_media` comes to. The job of `quick_play` runs in
the executor: it looks for the chromecast when it starts, and ends later.
-/

namespace CastDelivery

/-- Who made a call. -/
inductive Caller
  | announce
  | playMedia
  | probe
deriving DecidableEq, Repr

/-- The source that the requests of a caller should have. -/
def Caller.source : Caller → Source
  | announce => .announce
  | playMedia => .playMedia
  | probe => .probe

/-! ## `async_play_media` in pieces -/

/-- The media that a call is to play, with `extra`. -/
structure Media where
  mediaType : String
  mediaId : String
  extra : Dict String Json := ∅

/-- An await of `async_play_media` before its request begins. -/
inductive Pause
  /-- `media_source.async_resolve_media`. -/
  | resolveMedia (media : Media)
  /-- `_start_app` in the executor. -/
  | startApp
  /-- `cast_platforms.async_get_platforms`. -/
  | getPlatforms (media : Media)
  /-- `platform.async_play_media`, with as many platforms left to try after it. -/
  | platform (media : Media) (rest : ℕ)
  /-- `parse_playlist`. -/
  | playlist (media : Media)

/-- What a piece of `async_play_media` comes to. -/
inductive Next
  | raises
  | returns
  /-- It returns because a cast platform plays the media. -/
  | byPlatform
  | pause (p : Pause)
  /-- `_async_quick_play_tracked(app_name, app_data)`. -/
  | quickPlay (appName : Json) (appData : Dict String Json)

/-- What a call waits for is answered; `none` stands for an exception. -/
inductive Answer
  | media (answer : Option (String × String))
  | app (started : Bool)
  | platforms (count : Option ℕ)
  | platform (result : Option Bool)
  | playlist (answer : PlaylistAnswer)

/-- What a piece of work reads. -/
structure Readings where
  env : Env
  play : PlayEnv
  /-- `str(app_data.get("media_id"))`. -/
  str : Option Json → String
  /-- The session id of `self.media_status`. -/
  session : Option Int

/-- `_async_quick_play_tracked("default_media_receiver", …)` at the end of `async_play_media`. -/
def Media.playDefault (media : Media) : Next :=
  .quickPlay (.str "default_media_receiver") (appData media.mediaId media.mediaType media.extra)

/-- `async_play_media` after `parse_playlist`. -/
def Media.parsed (media : Media) : PlaylistAnswer → Next
  | .item url title =>
    { media with mediaId := url, extra := titled media.extra title : Media }.playDefault
  | .supported | .failed => media.playDefault
  | .escaped => .raises

namespace Readings

variable (R : Readings) (uuid : UUID)

/-- `async_play_media` once the media source is resolved. -/
def sourced (media : Media) : Next :=
  if media.mediaType = PlayEnv.CAST_DOMAIN then
    match R.play.playApp media.mediaId media.extra with
    | .startedApp _ => .pause .startApp
    | .quickPlay appName appData => .quickPlay appName appData
    | .raised | .byPlatform => .raises
  else .pause (.getPlatforms media)

/-- `async_play_media` once no cast platform has played the media. -/
def playUrl (media : Media) : Next :=
  match (R.play.processUrl media.mediaId).bind
      (R.play.applyUrlOverride (R.env.urlOverrides uuid)) with
  | none => .raises
  | some mediaId =>
    match R.play.kind mediaId with
    | none => .raises
    | some .hls =>
      { media with mediaId := mediaId, extra := hlsExtra media.extra : Media }.playDefault
    | some .other => { media with mediaId := mediaId : Media }.playDefault
    | some .playlist => .pause (.playlist { media with mediaId := mediaId })

/-- The loop over the cast platforms, with as many left. -/
def tryPlatforms (media : Media) : ℕ → Next
  | 0 => R.playUrl uuid media
  | rest + 1 => .pause (.platform media rest)

/-- `async_play_media`, up to its first await. -/
def startPlay (chromecast : Bool) (media : Media) : Next :=
  if chromecast = false then .raises
  else if R.play.isMediaSourceId media.mediaId then .pause (.resolveMedia media)
  else R.sourced media

/-- `async_play_media` after an await, if that is what it waits for. -/
def resume : Pause → Answer → Option Next
  | .resolveMedia media, .media answer =>
    match answer with
    | none => some .raises
    | some (mediaType, mediaId) =>
      some (R.sourced { media with mediaType := mediaType, mediaId := mediaId })
  | .startApp, .app started => some (if started then .returns else .raises)
  | .getPlatforms media, .platforms count =>
    match count with
    | none => some .raises
    | some count => some (R.tryPlatforms uuid media count)
  | .platform media rest, .platform result =>
    match result with
    | none => some .raises
    | some true => some .byPlatform
    | some false => some (R.tryPlatforms uuid media rest)
  | .playlist media, .playlist answer => some (media.parsed answer)
  | _, _ => none

end Readings

/-! ## The opening of an announcement -/

/-- `Template(message).async_render`. -/
inductive Rendering
  | rendered (text : String)
  /-- `TemplateError`. -/
  | templateError (error : String)
  /-- Any other exception. -/
  | escaped

/-- `tts.generate_media_source_id`. -/
inductive Speech
  | mediaId (mediaId : String)
  /-- `HomeAssistantError`. -/
  | unavailable (err : String)
  /-- Any other exception. -/
  | escaped

/-- What the opening of `async_announce` comes to. -/
inductive Opening
  /-- It records a failure and raises. -/
  | records (call : RecordCall)
  | escapes
  /-- It goes on to play the media. -/
  | plays (mediaId : String)

/-- `async_announce`, up to the assignment of `_request_source`. -/
def opening (rendering : Rendering) (speech : String → Speech) : Opening :=
  match rendering with
  | .templateError error => .records (.templateFailed error)
  | .escaped => .escapes
  | .rendered text =>
    if strip text = "" then .records (.templateFailed "template rendered to an empty message")
    else match speech (strip text) with
      | .mediaId mediaId => .plays mediaId
      | .unavailable err => .records (.ttsEngineUnavailable err)
      | .escaped => .escapes

/-! ## The entity -/

/-- The job of `quick_play` in the executor. The flag says whether the entity was available when
the exception was raised; nothing reads it. -/
inductive Job
  | queued
  | running
  | returned
  | raised (err : Raised) (available : Bool)
deriving DecidableEq, Repr

/-- Where a call is. -/
inductive Progress
  | paused (p : Pause)
  /-- It has begun a request and waits for its job. -/
  | playing (request : Request) (job : Job)

/-- A call in flight. -/
structure Ongoing where
  caller : Caller
  progress : Progress

/-- `LaunchFailure`, with the call whose launch the receiver answered with it. -/
structure LaunchFailure where
  reason : Option String
  appId : Option String
  call : Option ℕ
deriving DecidableEq, Repr

/-- The text that `_last_launch_failure` returns. -/
def LaunchFailure.text (failure : LaunchFailure) : String :=
  "reason=" ++ failure.reason.getD "None" ++ " app_id=" ++ failure.appId.getD "None"

/-- A `CastMediaPlayerEntity`. Its calls are numbered. -/
structure Entity where
  uuid : UUID
  ledger : DeliveryLedger := {}
  /-- `_request_source`. -/
  requestSource : Source := .playMedia
  /-- `_chromecast is not None`. -/
  chromecast : Bool := false
  available : Bool := false
  /-- `receiver_controller.launch_failure`. -/
  launchFailure : Option LaunchFailure := none
  calls : Dict ℕ Ongoing := ∅
  started : ℕ := 0

/-- The `status` of a `ConnectionStatus`. -/
inductive Connection
  | connected
  | disconnected
  | other
deriving DecidableEq, Repr

/-- A call of the ledger from elsewhere: no request of the device begins or fails there. -/
def Op.elsewhere (uuid : UUID) : Op → Bool
  | .beginRequest u _ _ _ _ | .requestFailed u _ _ _ => u ≠ uuid
  | _ => true

namespace Entity

/-- One uninterrupted piece of work. -/
inductive Event
  | announce (rendering : Rendering) (speech : String → Speech)
  | playMedia (media : Media)
  | probe (url : String)
  | answered (id : ℕ) (answer : Answer)
  | jobStarts (id : ℕ)
  /-- `quick_play` returns or raises, in the executor. -/
  | jobEnds (id : ℕ) (err : Option Raised)
  /-- The call goes on after its job. -/
  | resumes (id : ℕ)
  /-- `asyncio.timeout` expires. -/
  | watchdog (id : ℕ)
  | cancelled (id : ℕ)
  /-- `_async_connect_to_chromecast`. -/
  | connects
  /-- `new_connection_status`, or `_async_disconnect`. -/
  | connection (status : Connection)
  /-- The receiver's last launch failure changes. -/
  | launch (failure : Option LaunchFailure)
  | ledger (op : Op)

/-- An event, with what it reads. -/
structure Input where
  readings : Readings
  event : Event

/-- What the entity does. Effects on the ledger name the call that made them. -/
inductive Output
  | ledger (call : Option (ℕ × Caller)) (e : Effect)
  /-- An announcement enters the `try` in which it plays. -/
  | entered (id : ℕ)
  /-- Its `finally` clause has run. -/
  | left (id : ℕ)
  /-- A cast platform plays the media of a call. -/
  | byPlatform (id : ℕ)
  | ended (id : ℕ) (caller : Caller) (raised : Bool)
deriving DecidableEq

variable (S : Entity) (R : Readings) (id : ℕ) (caller : Caller)

/-- Run a ledger call. -/
def ledgerCall (call : Option (ℕ × Caller)) (c : Call) : Entity × List Output :=
  ({ S with ledger := (S.ledger.step c).1 }, (S.ledger.step c).2.map (.ledger call))

/-- A call takes the next number. -/
def opened : Entity := { S with started := S.started + 1 }

/-- The end of a call, with the `finally` clause of an announcement. -/
def finish (raised : Bool) : Entity × List Output :=
  if caller = .announce then
    ({ S with calls := S.calls.erase id, requestSource := .playMedia },
      [.left id, .ended id caller raised])
  else ({ S with calls := S.calls.erase id }, [.ended id caller raised])

/-- The source with which a call begins its request. -/
def sourceFor : Source := if caller = .probe then .probe else S.requestSource

/-- The request that `async_begin_request` will begin. -/
def nextRequest (contentId : String) (source : Source) : Request where
  serial := (S.ledger.health S.uuid).begun
  contentId := contentId
  source := source
  requestedAt := R.env.utcnow
  started := R.env.monotonic
  sessionAtRequest := R.session

/-- `_async_quick_play_tracked` or `_async_probe`, up to its executor job. -/
def beginPlay (contentId : String) : Entity × List Output :=
  let source := S.sourceFor caller
  let r := S.ledgerCall (some (id, caller))
    ⟨R.env, .beginRequest S.uuid contentId source R.session DELIVERY_TIMEOUT⟩
  ({ r.1 with
      calls := S.calls.set id
        ⟨caller, .playing (S.nextRequest R contentId source) .queued⟩ }, r.2)

/-- Carry out what a piece of `async_play_media` comes to. -/
def advance : Next → Entity × List Output
  | .raises => S.finish id caller true
  | .returns => S.finish id caller false
  | .byPlatform =>
    let r := S.finish id caller false
    (r.1, .byPlatform id :: r.2)
  | .pause p => ({ S with calls := S.calls.set id ⟨caller, .paused p⟩ }, [])
  | .quickPlay _ appData => S.beginPlay R id caller (R.str (appData.get? "media_id"))

/-- `_last_launch_failure`. -/
def lastLaunchFailure : Option String :=
  if S.chromecast then S.launchFailure.map LaunchFailure.text else none

/-- The call of `async_request_failed` with which a call handles an exception of its job. -/
def failureCall (err : Raised) : Option Op :=
  match caller, err.exc.cls with
  | .probe, .timeoutError | .probe, .homeAssistantError =>
    some (.requestFailed S.uuid err none none)
  | .probe, _ => none
  | _, .timeoutError => some (.requestFailed S.uuid err none none)
  | _, .homeAssistantError =>
    some (.requestFailed S.uuid err (some S.available) S.lastLaunchFailure)
  | _, _ => none

/-- A call whose job or await in the executor raises. -/
def fail (err : Raised) : Entity × List Output :=
  let r := match S.failureCall caller err with
    | some op => S.ledgerCall (some (id, caller)) ⟨R.env, op⟩
    | none => (S, [])
  let ended := r.1.finish id caller true
  (ended.1, r.2 ++ ended.2)

/-- What `asyncio.timeout` raises when it expires. -/
def watchdogError : Raised := ⟨⟨.timeoutError, ""⟩, some ⟨.other "CancelledError", ""⟩⟩

def cancelledError : Raised := ⟨⟨.other "CancelledError", ""⟩, none⟩

/-- Move the job of a call. -/
def setJob (request : Request) (job : Job) : Entity :=
  { S with calls := S.calls.set id ⟨caller, .playing request job⟩ }

/-- `self._chromecast = None` and the availability, on a new connection status. -/
def connectionStatus : Connection → Entity
  | .disconnected => { S with chromecast := false, available := false }
  | .connected => { S with available := true }
  | .other => { S with available := false }

/-- `async_announce`, up to its first await. -/
def announce (rendering : Rendering) (speech : String → Speech) : Entity × List Output :=
  match opening rendering speech with
  | .records call =>
    let r := S.opened.ledgerCall (some (S.started, .announce)) ⟨R.env, .record S.uuid call⟩
    (r.1, r.2 ++ [.ended S.started .announce true])
  | .escapes => (S.opened, [.ended S.started .announce true])
  | .plays mediaId =>
    let r := { S.opened with requestSource := .announce : Entity }.advance R S.started .announce
      (R.startPlay S.chromecast ⟨"music", mediaId, ∅⟩)
    (r.1, .entered S.started :: r.2)

/-- Run one event. An event of a call that is not in flight, or waits elsewhere, is none. -/
def step (i : Input) : Entity × List Output :=
  match i.event with
  | .announce rendering speech => S.announce i.readings rendering speech
  | .playMedia media =>
    S.opened.advance i.readings S.started .playMedia (i.readings.startPlay S.chromecast media)
  | .probe url => S.opened.beginPlay i.readings S.started .probe url
  | .answered id answer =>
    match S.calls.get? id with
    | some ⟨caller, .paused p⟩ =>
      match i.readings.resume S.uuid p answer with
      | some next => S.advance i.readings id caller next
      | none => (S, [])
    | _ => (S, [])
  | .jobStarts id =>
    match S.calls.get? id with
    | some ⟨caller, .playing request .queued⟩ =>
      (S.setJob id caller request
        (if S.chromecast then .running
          else .raised (apiError "_quick_play" unavailableError) S.available), [])
    | _ => (S, [])
  | .jobEnds id err =>
    match S.calls.get? id with
    | some ⟨caller, .playing request .running⟩ =>
      match err with
      | some err =>
        (S.setJob id caller request (.raised (apiError "_quick_play" err) S.available), [])
      | none => (S.setJob id caller request .returned, [])
    | _ => (S, [])
  | .resumes id =>
    match S.calls.get? id with
    | some ⟨caller, .playing _ .returned⟩ => S.finish id caller false
    | some ⟨caller, .playing _ (.raised err _)⟩ => S.fail i.readings id caller err
    | _ => (S, [])
  | .watchdog id =>
    match S.calls.get? id with
    | some ⟨caller, .playing _ _⟩ => S.fail i.readings id caller watchdogError
    | _ => (S, [])
  | .cancelled id =>
    match S.calls.get? id with
    | some ⟨caller, .playing _ _⟩ => S.fail i.readings id caller cancelledError
    | some ⟨caller, .paused _⟩ => S.finish id caller true
    | none => (S, [])
  | .connects => ({ S with chromecast := true, available := false, launchFailure := none }, [])
  | .connection status => (S.connectionStatus status, [])
  | .launch failure => ({ S with launchFailure := failure }, [])
  | .ledger op => if op.elsewhere S.uuid then S.ledgerCall none ⟨i.readings.env, op⟩ else (S, [])

/-- The entity of a device, when it is added. -/
def added (uuid : UUID) : Entity := { uuid := uuid }

end Entity

end CastDelivery
