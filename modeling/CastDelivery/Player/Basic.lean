import CastDelivery.Health.Ledger
import Mathlib.Data.Finset.Erase
import Mathlib.Data.Finset.Insert
import Mathlib.Data.Rat.Init

/-!
# The media player entity

What `CastMediaPlayerEntity` of `media_player.py` keeps of its connection and of the statuses it
hears, and the callbacks, connects and disconnects that change it. The callbacks come through a
`CastStatusListener` of `helpers.py`, one for each connection, which forwards them while it is
valid.

A step of `MediaPlayer.step` is a callback, or what a task of the event loop does up to its next
`await`. `_async_connect_to_chromecast` starts the socket client before it has finished, so its
rest is an event of its own, and only callbacks come before it.
-/

namespace CastDelivery

/-- `pychromecast`'s `MediaStatus`. -/
structure CastMediaStatus extends MediaStatus where
  playerIsPlaying : Bool := false
  playerIsPaused : Bool := false
  mediaIsTvshow : Bool := false
  mediaIsMovie : Bool := false
  mediaIsMusictrack : Bool := false
  duration : Option ℚ := none
  currentTime : Option ℚ := none
  /-- The URLs of `images`. -/
  images : List (Option String) := []
  title : Option String := none
  artist : Option String := none
  albumName : Option String := none
  albumArtist : Option String := none
  track : Option Int := none
  seriesTitle : Option String := none
  season : Option Int := none
  episode : Option Int := none
  supportsQueueNext : Bool := false
  supportsSeek : Bool := false
deriving DecidableEq

/-- `pychromecast`'s `CastStatus`. -/
structure CastStatus where
  volumeLevel : Option ℚ := none
  volumeMuted : Option Bool := none
  isActiveInput : Option Bool := none
  volumeControlType : String := "attenuation"
deriving DecidableEq

/-- `HomeAssistantControllerData`. -/
structure ControllerData where
  hassUrl : String
  hassUuid : String
  clientId : Option String
  refreshToken : String
deriving DecidableEq

/-- `HomeAssistantController`, with the connection whose chromecast it is registered with. -/
structure HassCastController where
  data : ControllerData
  connection : ℕ
deriving DecidableEq

/-- What the entity has heard of the groups of its device: a group with a status has a time. -/
structure GroupStatuses where
  /-- `mz_media_status`. -/
  status : Dict String (Option CastMediaStatus)
  /-- `mz_media_status_received`. -/
  received : Dict String DateTime
  keys_eq : received.keys = status.keys

/-- Nothing heard of any group. -/
def GroupStatuses.empty : GroupStatuses := ⟨∅, ∅, rfl⟩

/-- `mz_media_status[group] = status`, and the time of it. -/
def GroupStatuses.set (g : GroupStatuses) (now : DateTime) (group : String)
    (status : Option CastMediaStatus) : GroupStatuses where
  status := g.status.set group status
  received := g.received.set group now
  keys_eq := by rw [Dict.keys_set, Dict.keys_set, g.keys_eq]

/-- `CastMediaPlayerEntity`. Its connections are numbered; the number of a connection stands for
its chromecast and for its status listener. -/
structure MediaPlayer where
  uuid : UUID := ⟨0⟩
  entityId : String := ""
  /-- `_cast_info.is_audio_group`. -/
  isAudioGroup : Bool := false
  /-- The number of connections so far. -/
  connections : ℕ := 0
  /-- `_async_connect_to_chromecast` has started the chromecast and not finished. -/
  starting : Bool := false
  chromecast : Option ℕ := none
  /-- `mz_mgr is not None`. -/
  mzMgr : Bool := false
  statusListener : Option ℕ := none
  /-- The status listeners with `_valid`. -/
  valid : Finset ℕ := ∅
  /-- The status listeners that the multizone manager has for the device. -/
  registered : Finset ℕ := ∅
  available : Bool := false
  castStatus : Option CastStatus := none
  volumeLevel : Option ℚ := none
  isVolumeMuted : Option Bool := none
  mediaStatus : Option CastMediaStatus := none
  mediaStatusReceived : Option DateTime := none
  groups : GroupStatuses := .empty
  hassCastController : Option HassCastController := none

/-- What the entity does to the outside. -/
inductive PlayerOutput
  /-- `schedule_update_ha_state` or `async_write_ha_state`. -/
  | updateHaState
  /-- A call of the ledger, handed to the event loop. -/
  | ledger (op : Op)
  | registerHandler (controller : HassCastController)
  | unregisterHandler (controller : HassCastController)
  | showLovelaceView (controller : HassCastController) (viewPath : String)
      (urlPath : Option String)

/-- The callbacks of a `CastStatusListener`. -/
inductive StatusCallback
  | newCastStatus (status : Option CastStatus)
  | newMediaStatus (status : Option CastMediaStatus)
  | loadMediaFailed (queueItemId errorCode : Int)
  /-- With the groups of the device, and the status of each group that the multizone manager has a
  media controller for; `none` if `get_multizone_memberships` raises. -/
  | newConnectionStatus (status : String)
      (groups : Option (List (String × Option (Option CastMediaStatus))))
  /-- `multizone_new_media_status`, or `removed_from_multizone` without a status. -/
  | multizoneNewMediaStatus (group : String) (status : Option CastMediaStatus)

inductive PlayerEvent
  | callback (listener : ℕ) (now : DateTime) (c : StatusCallback)
  /-- `get_chromecast_from_cast_info` returns while the entry has its `runtime_data`, or not. -/
  | connected (loaded : Bool)
  /-- `_async_connect_to_chromecast` goes on after `chromecast.start`. -/
  | connectResumes (castStatus : Option CastStatus) (mediaStatus : Option CastMediaStatus)
  /-- `_async_disconnect` goes on after `disconnect`. -/
  | disconnected
  /-- The discovery signal of the device. -/
  | rediscovered (isAudioGroup : Bool)
  /-- `SIGNAL_HASS_CAST_SHOW_VIEW`. -/
  | showView (data : ControllerData) (entityId viewPath : String) (urlPath : Option String)
  /-- A `HomeAssistantController` asks to be unregistered. -/
  | unregister

/-- `CONNECTION_STATUS_CONNECTED`. -/
def CONNECTION_STATUS_CONNECTED : String := "CONNECTED"

/-- `CONNECTION_STATUS_DISCONNECTED`. -/
def CONNECTION_STATUS_DISCONNECTED : String := "DISCONNECTED"

namespace MediaPlayer

/-! ## Connecting and disconnecting -/

/-- `CastDevice._async_connect_to_chromecast`, once it has the chromecast. -/
def connect (S : MediaPlayer) (loaded : Bool) : MediaPlayer :=
  let l := S.connections
  let S := { S with chromecast := some l, connections := l + 1 }
  -- without `runtime_data` it raises `AttributeError`
  if loaded = false then S
  else
    { S with
      starting := true
      mzMgr := true
      statusListener := some l
      valid := insert l S.valid
      registered := if S.isAudioGroup then S.registered else insert l S.registered }

/-- The rest of `_async_connect_to_chromecast`. -/
def connectResumes (S : MediaPlayer) (castStatus : Option CastStatus)
    (mediaStatus : Option CastMediaStatus) : MediaPlayer × List PlayerOutput :=
  let S := { S with starting := false, available := false }
  match S.chromecast with
  -- `_get_chromecast` raises
  | none => (S, [])
  | some _ =>
    ({ S with castStatus := castStatus, mediaStatus := mediaStatus }, [.updateHaState])

/-- What `_invalidate` of the entity clears after that of `CastDevice`. -/
def clear (S : MediaPlayer) : MediaPlayer :=
  { S with
    castStatus := none
    mediaStatus := none
    mediaStatusReceived := none
    groups := .empty
    hassCastController := none }

/-- `_invalidate` with `CastStatusListener.invalidate`, and whether it raised. -/
def invalidate (S : MediaPlayer) : MediaPlayer × Bool :=
  let S := { S with chromecast := none, mzMgr := false }
  match S.statusListener with
  | none => (S.clear, false)
  | some l =>
    if S.isAudioGroup then
      (clear { S with statusListener := none, valid := S.valid.erase l }, false)
    else if l ∈ S.registered then
      (clear { S with
        statusListener := none
        valid := S.valid.erase l
        registered := S.registered.erase l }, false)
    -- `deregister_listener` raises if the listener is not registered
    else (S, true)

/-- The rest of `_async_disconnect`. -/
def disconnect (S : MediaPlayer) : MediaPlayer × List PlayerOutput :=
  let r := S.invalidate
  if r.2 then (r.1, []) else ({ r.1 with available := false }, [.updateHaState])

/-! ## Callbacks -/

/-- `new_cast_status`. -/
def newCastStatus (S : MediaPlayer) (status : Option CastStatus) :
    MediaPlayer × List PlayerOutput :=
  ({ S with
    castStatus := status
    volumeLevel := status.bind CastStatus.volumeLevel
    isVolumeMuted := status.bind CastStatus.volumeMuted }, [.updateHaState])

/-- `new_media_status`. -/
def newMediaStatus (S : MediaPlayer) (now : DateTime) (status : Option CastMediaStatus) :
    MediaPlayer × List PlayerOutput :=
  let evidence := status.toList.map fun status => .ledger (.mediaStatus S.uuid status.toMediaStatus)
  ({ S with mediaStatus := status, mediaStatusReceived := some now },
    evidence ++ [.updateHaState])

/-- `load_media_failed`. -/
def loadMediaFailed (S : MediaPlayer) (queueItemId errorCode : Int) :
    MediaPlayer × List PlayerOutput :=
  (S, [.ledger (.loadMediaFailed S.uuid (some queueItemId) (some errorCode))])

/-- `multizone_new_media_status`. -/
def multizoneNewMediaStatus (S : MediaPlayer) (now : DateTime) (group : String)
    (status : Option CastMediaStatus) : MediaPlayer × List PlayerOutput :=
  ({ S with groups := S.groups.set now group status }, [.updateHaState])

/-- The loop of `new_connection_status` over the groups. -/
def pollGroups (S : MediaPlayer) (now : DateTime) :
    List (String × Option (Option CastMediaStatus)) → MediaPlayer × List PlayerOutput
  | [] => (S, [])
  | (_, none) :: groups => S.pollGroups now groups
  | (group, some status) :: groups =>
    let r := S.multizoneNewMediaStatus now group status
    let rest := r.1.pollGroups now groups
    (rest.1, r.2 ++ rest.2)

/-- `new_connection_status`. -/
def newConnectionStatus (S : MediaPlayer) (now : DateTime) (status : String)
    (groups : Option (List (String × Option (Option CastMediaStatus)))) :
    MediaPlayer × List PlayerOutput :=
  if status = CONNECTION_STATUS_DISCONNECTED then
    let r := { S with available := false }.invalidate
    (r.1, if r.2 then [] else [.updateHaState])
  else
    let newAvailable : Bool := status = CONNECTION_STATUS_CONNECTED
    if newAvailable = S.available then (S, [])
    else
      let S := { S with available := newAvailable }
      if newAvailable && !S.isAudioGroup && S.mzMgr then
        match groups with
        | none => (S, [])
        | some groups =>
          let r := S.pollGroups now groups
          (r.1, r.2 ++ [.updateHaState])
      else (S, [.updateHaState])

/-- A callback that the status listener forwards. -/
def forward (S : MediaPlayer) (now : DateTime) : StatusCallback → MediaPlayer × List PlayerOutput
  | .newCastStatus status => S.newCastStatus status
  | .newMediaStatus status => S.newMediaStatus now status
  | .loadMediaFailed queueItemId errorCode => S.loadMediaFailed queueItemId errorCode
  | .newConnectionStatus status groups => S.newConnectionStatus now status groups
  | .multizoneNewMediaStatus group status => S.multizoneNewMediaStatus now group status

/-! ## The views of Home Assistant Cast -/

/-- `_handle_signal_show_view`. -/
def handleSignalShowView (S : MediaPlayer) (data : ControllerData) (entityId viewPath : String)
    (urlPath : Option String) : MediaPlayer × List PlayerOutput :=
  if entityId ≠ S.entityId then (S, [])
  else
    match S.chromecast, S.hassCastController with
    | none, _ => (S, [])
    | some _, some controller => (S, [.showLovelaceView controller viewPath urlPath])
    | some connection, none =>
      let controller : HassCastController := ⟨data, connection⟩
      ({ S with hassCastController := some controller },
        [.registerHandler controller, .showLovelaceView controller viewPath urlPath])

/-- `unregister` of a `HomeAssistantController`. -/
def unregister (S : MediaPlayer) : MediaPlayer × List PlayerOutput :=
  match S.hassCastController, S.chromecast with
  | some controller, some _ =>
    ({ S with hassCastController := none }, [.unregisterHandler controller])
  | _, _ => (S, [])

/-! ## One event -/

/-- What a task of the event loop does. -/
def stepLoop (S : MediaPlayer) : PlayerEvent → MediaPlayer × List PlayerOutput
  | .connected loaded => (S.connect loaded, [])
  | .disconnected => S.disconnect
  | .rediscovered isAudioGroup => ({ S with isAudioGroup := isAudioGroup }, [])
  | _ => (S, [])

/-- One event. An event that cannot come in a state does nothing. -/
def step (S : MediaPlayer) : PlayerEvent → MediaPlayer × List PlayerOutput
  | .callback l now c => if l ∈ S.valid then S.forward now c else (S, [])
  | .connectResumes castStatus mediaStatus =>
    if S.starting then S.connectResumes castStatus mediaStatus else (S, [])
  -- no callback of the event loop: these run in other threads
  | .showView data entityId viewPath urlPath =>
    S.handleSignalShowView data entityId viewPath urlPath
  | .unregister => S.unregister
  | e => if S.starting then (S, []) else S.stepLoop e

end MediaPlayer
end CastDelivery
