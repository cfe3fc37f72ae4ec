import CastDelivery.Player.Basic
import CastDelivery.Probe.Coordinator

/-!
# What the media player shows and controls

The properties of `CastMediaPlayerEntity`, the media controller of its service calls and the
snapshot it gives to the probe coordinator. A property reads the chromecast of the connection as
it is at that moment; a `Chromecast` is one such reading.

`_media_status` and `_media_controller` look for a group each on their own.
`mediaController_of_shows`: they come to the same source.

`probed_active_iff`: when a cycle probes a device that Home Assistant shows as active.
-/

namespace CastDelivery

/-- `CAST_APP_ID_HOMEASSISTANT_LOVELACE`. -/
def CAST_APP_ID_HOMEASSISTANT_LOVELACE : String := "A078F6B0"

/-- `APP_IDS_UNRELIABLE_MEDIA_INFO`. -/
def APP_IDS_UNRELIABLE_MEDIA_INFO : List String := ["Netflix"]

/-- `pychromecast.IDLE_APP_ID`. -/
def IDLE_APP_ID : String := "E8C28D3C"

/-- `CAST_TYPE_CHROMECAST`. -/
def CAST_TYPE_CHROMECAST : String := "cast"

/-- `(CAST_TYPE_AUDIO, CAST_TYPE_GROUP)`. -/
def AUDIO_CAST_TYPES : List String := ["audio", "group"]

/-- `VOLUME_CONTROL_TYPE_FIXED`. -/
def VOLUME_CONTROL_TYPE_FIXED : String := "fixed"

/-- `MEDIA_PLAYER_STATE_UNKNOWN`. -/
def MEDIA_PLAYER_STATE_UNKNOWN : String := "UNKNOWN"

/-- `pychromecast.Chromecast`. -/
structure Chromecast where
  castType : Option String
  ignoreCec : Bool
  appId : Option String
  appDisplayName : Option String
  isIdle : Bool
deriving DecidableEq

/-- `MediaPlayerState`, as far as the entity uses it. -/
inductive MediaPlayerState
  | off
  | idle
  | playing
  | paused
  | buffering
deriving DecidableEq, Repr

/-- `MediaType`, as far as the entity uses it. -/
inductive MediaType
  | tvshow
  | movie
  | music
  | video
deriving DecidableEq, Repr

/-- `MediaPlayerEntityFeature`, as far as the entity uses it. -/
inductive MediaPlayerEntityFeature
  | playMedia
  | turnOff
  | turnOn
  | volumeMute
  | volumeSet
  | pause
  | play
  | stop
  | previousTrack
  | nextTrack
  | seek
  | browseMedia
deriving DecidableEq, Repr

/-- The commands of a media controller. -/
inductive MediaCommand
  | play
  | pause
  | stop
  | queuePrev
  | queueNext
  | seek (position : ℚ)
deriving DecidableEq

/-- The method of the media controller. -/
def MediaCommand.method : MediaCommand → String
  | play => "play"
  | pause => "pause"
  | stop => "stop"
  | queuePrev => "queue_prev"
  | queueNext => "queue_next"
  | seek _ => "seek"

/-- Where a status comes from and a command goes to: the chromecast of the entity, or a group. -/
inductive StatusSource
  | own
  | group (uuid : String)
deriving DecidableEq, Repr

/-- What `pychromecast` does in a service call. -/
structure MediaControllers where
  /-- `mz_mgr.get_multizone_mediacontroller(UUID(k))`: whether it is `None`, or what it raises. -/
  getMultizoneMediacontroller : String → Except Raised Bool
  /-- What a command of a media controller raises. -/
  raises : StatusSource → MediaCommand → Option Raised

/-- Whether `pychromecast` finds the media controller of a source: the chromecast has its own. -/
def MediaControllers.find (M : MediaControllers) : StatusSource → Except Raised Bool
  | .own => .ok true
  | .group g => M.getMultizoneMediacontroller g

/-- What a service call comes to: the command that it gave to a media controller, and what it
raised. -/
structure ServiceCall where
  sent : Option (StatusSource × MediaCommand)
  raised : Option Raised
deriving DecidableEq

/-- What a service call `func` comes to if it reaches the media controller of a source. -/
def MediaControllers.deliver (M : MediaControllers) (source : StatusSource) (func : String)
    (command : MediaCommand) : ServiceCall :=
  ⟨some (source, command), (M.raises source command).map (apiError func)⟩

/-- The properties of the entity. -/
structure PlayerAttributes where
  available : Bool := false
  state : Option MediaPlayerState := none
  volumeLevel : Option ℚ := none
  isVolumeMuted : Option Bool := none
  appId : Option String := none
  appName : Option String := none
  mediaContentId : Option String := none
  mediaContentType : Option (Option MediaType) := some none
  mediaDuration : Option ℚ := none
  mediaImageUrl : Option String := none
  mediaTitle : Option String := none
  mediaArtist : Option String := none
  mediaAlbumName : Option String := none
  mediaAlbumArtist : Option String := none
  mediaTrack : Option Int := none
  mediaSeriesTitle : Option String := none
  mediaSeason : Option Int := none
  mediaEpisode : Option Int := none
  mediaPosition : Option ℚ := none
  mediaPositionUpdatedAt : Option DateTime := none
  supportedFeatures : List MediaPlayerEntityFeature

/-- `status is None or status.player_state == MEDIA_PLAYER_STATE_UNKNOWN`. -/
def isUnknown (status : Option CastMediaStatus) : Bool :=
  status.all fun status => status.playerState = some MEDIA_PLAYER_STATE_UNKNOWN

/-- The checks of `state` on a media status. -/
def CastMediaStatus.state (status : CastMediaStatus) : Option MediaPlayerState :=
  if status.playerState = some MEDIA_PLAYER_STATE_PLAYING then some .playing
  else if status.playerState = some MEDIA_PLAYER_STATE_BUFFERING then some .buffering
  else if status.playerIsPaused then some .paused
  else if status.playerIsIdle then some .idle
  else none

/-- `pychromecast` reads these properties off the player state. -/
structure CastMediaStatus.Consistent (status : CastMediaStatus) : Prop where
  paused : status.playerIsPaused = true ↔ status.playerState = some "PAUSED"
  idle : status.playerIsIdle = true ↔ status.playerState = some "IDLE"

/-- A state in which something plays, or is about to. -/
def MediaPlayerState.isActive : MediaPlayerState → Bool
  | .playing | .paused | .buffering => true
  | .off | .idle => false

namespace MediaPlayer

variable (S : MediaPlayer) (C : Chromecast)

/-- The first group whose status is known. -/
def knownGroup : Option (String × CastMediaStatus) :=
  S.groups.status.entries.findSome? fun e => if isUnknown e.2 then none else e.2.map (e.1, ·)

/-- `_media_status`. Every group with a status has a time, so the lookup of it succeeds. -/
def currentStatus : Option CastMediaStatus × Option DateTime :=
  if isUnknown S.mediaStatus then
    match S.knownGroup with
    | some (group, status) => (some status, S.groups.received.get? group)
    | none => (S.mediaStatus, S.mediaStatusReceived)
  else (S.mediaStatus, S.mediaStatusReceived)

section

variable (M : MediaControllers)

/-- `_media_controller`. -/
def mediaController : Except Raised (Option StatusSource) :=
  match S.chromecast with
  -- `_get_chromecast` raises
  | none => .error unavailableError
  | some _ =>
    if isUnknown S.mediaStatus && S.mzMgr then
      match S.knownGroup with
      | some (group, _) =>
        (M.getMultizoneMediacontroller group).map fun found =>
          if found then some (.group group) else none
      | none => .ok (some .own)
    else .ok (some .own)

/-- A service call `func` that gives a command to the media controller. -/
def send (func : String) (command : MediaCommand) : ServiceCall :=
  match S.mediaController M with
  | .error err => ⟨none, some (apiError func err)⟩
  | .ok none =>
    ⟨none, some ⟨⟨.other "AttributeError",
      s!"'NoneType' object has no attribute '{command.method}'"⟩, none⟩⟩
  | .ok (some source) => ⟨some (source, command), (M.raises source command).map (apiError func)⟩

/-- `media_play`. -/
def mediaPlay : ServiceCall := S.send M "media_play" .play

/-- `media_pause`. -/
def mediaPause : ServiceCall := S.send M "media_pause" .pause

/-- `media_stop`. -/
def mediaStop : ServiceCall := S.send M "media_stop" .stop

/-- `media_previous_track`. -/
def mediaPreviousTrack : ServiceCall := S.send M "media_previous_track" .queuePrev

/-- `media_next_track`. -/
def mediaNextTrack : ServiceCall := S.send M "media_next_track" .queueNext

/-- `media_seek`. -/
def mediaSeek (position : ℚ) : ServiceCall := S.send M "media_seek" (.seek position)

end

/-! ## Properties -/

/-- `app_id`. -/
def appId : Option String := if S.chromecast.isSome then C.appId else none

/-- `app_name`. -/
def appName : Option String := if S.chromecast.isSome then C.appDisplayName else none

/-- The app of Home Assistant Cast runs. -/
def showsLovelace : Bool := S.appId C = some CAST_APP_ID_HOMEASSISTANT_LOVELACE

/-- The display has been turned off or switched away. -/
def switchedAway (castStatus : CastStatus) : Bool :=
  C.castType = some CAST_TYPE_CHROMECAST && !C.ignoreCec && castStatus.isActiveInput = some false

/-- What `state` makes of the app alone. -/
def appState : MediaPlayerState :=
  if (S.appId C).any (· ∈ APP_IDS_UNRELIABLE_MEDIA_INFO) then .playing
  else if S.appId C = some IDLE_APP_ID ∨ S.appId C = none then .off
  else .idle

/-- `state`. -/
def state : Option MediaPlayerState :=
  match S.chromecast, S.castStatus with
  | some _, some castStatus =>
    if switchedAway C castStatus then some .off
    else if S.showsLovelace C then some .playing
    else some ((S.currentStatus.1.bind CastMediaStatus.state).getD (S.appState C))
  | _, _ => none

/-- A property of the current media status. -/
def ofStatus {α : Type} (f : CastMediaStatus → Option α) : Option α := S.currentStatus.1.bind f

/-- A property of the current media status that the app of Home Assistant Cast hides. -/
def ofMedia {α : Type} (f : CastMediaStatus → Option α) : Option α :=
  if S.showsLovelace C then none else S.ofStatus f

/-- `media_content_id`. -/
def mediaContentId : Option String := S.ofMedia C fun status => status.contentId

/-- `media_content_type`, unless `_get_chromecast` raises. -/
def mediaContentType : Option (Option MediaType) :=
  if S.showsLovelace C then some none
  else
    match S.currentStatus.1 with
    | none => some none
    | some status =>
      if status.mediaIsTvshow then some (some .tvshow)
      else if status.mediaIsMovie then some (some .movie)
      else if status.mediaIsMusictrack then some (some .music)
      else if S.chromecast = none then none
      else some (some (if C.castType.any (· ∈ AUDIO_CAST_TYPES) then .music else .video))

/-- `media_duration`. -/
def mediaDuration : Option ℚ := S.ofMedia C CastMediaStatus.duration

/-- `media_image_url`. -/
def mediaImageUrl : Option String :=
  S.ofStatus fun status => status.images.head?.join.filter (· ≠ "")

/-- `media_title`. -/
def mediaTitle : Option String := S.ofStatus CastMediaStatus.title

/-- `media_artist`. -/
def mediaArtist : Option String := S.ofStatus CastMediaStatus.artist

/-- `media_album_name`. -/
def mediaAlbumName : Option String := S.ofStatus CastMediaStatus.albumName

/-- `media_album_artist`. -/
def mediaAlbumArtist : Option String := S.ofStatus CastMediaStatus.albumArtist

/-- `media_track`. -/
def mediaTrack : Option Int := S.ofStatus CastMediaStatus.track

/-- `media_series_title`. -/
def mediaSeriesTitle : Option String := S.ofStatus CastMediaStatus.seriesTitle

/-- `media_season`. -/
def mediaSeason : Option Int := S.ofStatus CastMediaStatus.season

/-- `media_episode`. -/
def mediaEpisode : Option Int := S.ofStatus CastMediaStatus.episode

/-- `media_position`. -/
def mediaPosition : Option ℚ :=
  S.ofMedia C fun status =>
    if status.playerIsPlaying || status.playerIsPaused || status.playerIsIdle then
      status.currentTime
    else none

/-- `media_position_updated_at`. -/
def mediaPositionUpdatedAt : Option DateTime :=
  if S.showsLovelace C then none else S.currentStatus.2

/-- `supported_features`, with or without the component `media_source`. -/
def supportedFeatures (mediaSource : Bool) : List MediaPlayerEntityFeature :=
  let volume : Bool := S.castStatus.any fun status =>
    status.volumeControlType ≠ VOLUME_CONTROL_TYPE_FIXED
  let media := if S.showsLovelace C then none else S.currentStatus.1
  [.playMedia, .turnOff, .turnOn]
    ++ (if volume then [.volumeMute, .volumeSet] else [])
    ++ (if media.isSome then [.pause, .play, .stop] else [])
    ++ (if media.any CastMediaStatus.supportsQueueNext then [.previousTrack, .nextTrack] else [])
    ++ (if media.any CastMediaStatus.supportsSeek then [.seek] else [])
    ++ (if mediaSource then [.browseMedia] else [])

/-- What Home Assistant reads when it writes the state of the entity. -/
def attributes (mediaSource : Bool) : PlayerAttributes where
  available := S.available
  state := S.state C
  volumeLevel := S.volumeLevel
  isVolumeMuted := S.isVolumeMuted
  appId := S.appId C
  appName := S.appName C
  mediaContentId := S.mediaContentId C
  mediaContentType := S.mediaContentType C
  mediaDuration := S.mediaDuration C
  mediaImageUrl := S.mediaImageUrl
  mediaTitle := S.mediaTitle
  mediaArtist := S.mediaArtist
  mediaAlbumName := S.mediaAlbumName
  mediaAlbumArtist := S.mediaAlbumArtist
  mediaTrack := S.mediaTrack
  mediaSeriesTitle := S.mediaSeriesTitle
  mediaSeason := S.mediaSeason
  mediaEpisode := S.mediaEpisode
  mediaPosition := S.mediaPosition C
  mediaPositionUpdatedAt := S.mediaPositionUpdatedAt C
  supportedFeatures := S.supportedFeatures C mediaSource

/-- `probe_snapshot`. -/
def probeSnapshot : Option ProbeSnapshot :=
  match S.chromecast with
  | none => none
  | some _ =>
    if S.available = false then none
    else some {
      castType := C.castType
      isAudioGroup := S.isAudioGroup
      appId := C.appId
      appIdle := C.isIdle
      playerState := S.mediaStatus.bind fun status => status.playerState
      groupPlayerStates := S.groups.status.values.map fun status =>
        status.bind fun status => status.playerState
      mediaSessionId := S.mediaStatus.bind fun status => status.mediaSessionId }

/-! ## The source of the status -/

/-- The source whose status counts: the entity's own if it is known or no group's is, and else
the first group whose status is known. -/
def Shows : StatusSource → Prop
  | .own => isUnknown S.mediaStatus = false ∨ ∀ e ∈ S.groups.status.entries, isUnknown e.2 = true
  | .group g =>
    isUnknown S.mediaStatus = true ∧
      ∃ front status rest, S.groups.status.entries = front ++ (g, some status) :: rest ∧
        (∀ e ∈ front, isUnknown e.2 = true) ∧ isUnknown (some status) = false

/-- What the entity has last heard from a source, and when. -/
def heardFrom : StatusSource → Option CastMediaStatus × Option DateTime
  | .own => (S.mediaStatus, S.mediaStatusReceived)
  | .group g => ((S.groups.status.get? g).join, S.groups.received.get? g)

/-- The service calls reach a source and no other. They reach none, and raise, if the device is not
connected or `pychromecast` does not find the media controller of the source. -/
structure Reaches (source : StatusSource) : Prop where
  delivers : ∀ (M : MediaControllers) func command, S.chromecast.isSome = true →
    M.find source = .ok true → S.send M func command = M.deliver source func command
  raises : ∀ (M : MediaControllers) func command,
    ¬ (S.chromecast.isSome = true ∧ M.find source = .ok true) →
      (S.send M func command).sent = none ∧ (S.send M func command).raised.isSome = true

variable {S}

theorem knownGroup_eq_none :
    S.knownGroup = none ↔ ∀ e ∈ S.groups.status.entries, isUnknown e.2 = true := by
  unfold knownGroup
  rw [List.findSome?_eq_none_iff]
  refine forall₂_congr fun e _ => ?_
  cases h : e.2 with
  | none => simp [isUnknown]
  | some status => simp

theorem knownGroup_eq_some {g : String} {status : CastMediaStatus} :
    S.knownGroup = some (g, status) ↔
      ∃ front rest, S.groups.status.entries = front ++ (g, some status) :: rest ∧
        (∀ e ∈ front, isUnknown e.2 = true) ∧ isUnknown (some status) = false := by
  have hpick : ∀ e : String × Option CastMediaStatus,
      (if isUnknown e.2 then none else e.2.map (e.1, ·)) = some (g, status) ↔
        e = (g, some status) ∧ isUnknown (some status) = false := by
    rintro ⟨k, _ | status'⟩
    · simp [isUnknown]
    · cases hunknown : isUnknown (some status') with
      | true =>
        simp only [if_true, reduceCtorEq, false_iff]
        rintro ⟨he, hs⟩
        rw [← (Prod.mk.inj he).2, hunknown] at hs
        cases hs
      | false =>
        simp only [Bool.false_eq_true, if_false, Option.map_some, Option.some.injEq,
          Prod.mk.injEq]
        constructor
        · rintro ⟨rfl, rfl⟩
          exact ⟨⟨rfl, rfl⟩, hunknown⟩
        · exact fun h => h.1
  have hpass : ∀ e : String × Option CastMediaStatus,
      (if isUnknown e.2 then none else e.2.map (e.1, ·)) = none ↔ isUnknown e.2 = true := by
    rintro ⟨k, _ | status'⟩ <;> simp [isUnknown]
  unfold knownGroup
  rw [List.findSome?_eq_some_iff]
  constructor
  · rintro ⟨front, e, rest, hsplit, he, hfront⟩
    obtain ⟨rfl, hknown⟩ := (hpick e).mp he
    exact ⟨front, rest, hsplit, fun e he => (hpass e).mp (hfront e he), hknown⟩
  · rintro ⟨front, rest, hsplit, hfront, hknown⟩
    exact ⟨front, _, rest, hsplit, (hpick _).mpr ⟨rfl, hknown⟩,
      fun e he => (hpass e).mpr (hfront e he)⟩

/-- Some source counts. -/
theorem exists_shows (S : MediaPlayer) : ∃ source, S.Shows source := by
  cases hown : isUnknown S.mediaStatus with
  | false => exact ⟨.own, .inl hown⟩
  | true =>
    cases hgroup : S.knownGroup with
    | none => exact ⟨.own, .inr (knownGroup_eq_none.mp hgroup)⟩
    | some e =>
      obtain ⟨g, status⟩ := e
      obtain ⟨front, rest, h⟩ := knownGroup_eq_some.mp hgroup
      exact ⟨.group g, hown, front, status, rest, h⟩

/-- Where the entity's own status counts, no group is looked for or none is found. -/
theorem shows_own (h : S.Shows .own) : isUnknown S.mediaStatus = false ∨ S.knownGroup = none :=
  h.imp_right knownGroup_eq_none.mpr

/-- Where the status of a group counts, the entity looks for a group and finds that one. -/
theorem shows_group {g : String} (h : S.Shows (.group g)) :
    isUnknown S.mediaStatus = true ∧
      ∃ status, S.knownGroup = some (g, status) ∧ S.groups.status.get? g = some (some status) := by
  obtain ⟨hown, front, status, rest, hsplit, hfront, hknown⟩ := h
  refine ⟨hown, status, knownGroup_eq_some.mpr ⟨front, rest, hsplit, hfront, hknown⟩, ?_⟩
  rw [Dict.get?_eq_some_iff, hsplit]
  exact List.mem_append_right _ List.mem_cons_self

/-- `_media_status` returns what was heard from the source that counts. -/
theorem currentStatus_of_shows {source : StatusSource} (h : S.Shows source) :
    S.currentStatus = S.heardFrom source := by
  unfold currentStatus
  cases source with
  | own =>
    rcases shows_own h with hown | hgroup
    · rw [if_neg (by rw [hown]; exact Bool.false_ne_true), heardFrom]
    · rw [hgroup, heardFrom]
      split <;> rfl
  | group g =>
    obtain ⟨hown, status, hgroup, hget⟩ := shows_group h
    rw [if_pos hown, hgroup, heardFrom, hget]
    rfl

/-- `_media_controller` looks for the controller of the source that counts. -/
theorem mediaController_of_shows {source : StatusSource} (h : S.Shows source)
    (hmgr : S.chromecast.isSome = true → S.mzMgr = true) (M : MediaControllers) :
    S.mediaController M =
      if S.chromecast.isSome then
        (M.find source).map fun found => if found then some source else none
      else .error unavailableError := by
  unfold mediaController
  cases hc : S.chromecast with
  | none => rfl
  | some l =>
    rw [hmgr (by rw [hc]; rfl), Bool.and_true]
    cases source with
    | own =>
      rcases shows_own h with hown | hgroup
      · simp [hown, MediaControllers.find, Except.map]
      · simp [hgroup, MediaControllers.find, Except.map]
    | group g =>
      obtain ⟨hown, status, hgroup, -⟩ := shows_group h
      simp [hown, hgroup, MediaControllers.find]

/-- A service call reaches the source that counts or none. -/
theorem reaches_of_shows {source : StatusSource} (h : S.Shows source)
    (hmgr : S.chromecast.isSome = true → S.mzMgr = true) : S.Reaches source := by
  refine ⟨fun M func command hc hfinds => ?_, fun M func command hnot => ?_⟩
  · unfold send
    rw [mediaController_of_shows h hmgr, hc, hfinds]
    rfl
  · unfold send
    rw [mediaController_of_shows h hmgr]
    cases hc : S.chromecast.isSome with
    | false => exact ⟨rfl, rfl⟩
    | true =>
      cases hfind : M.find source with
      | error err => exact ⟨rfl, rfl⟩
      | ok found =>
        cases found with
        | false => exact ⟨rfl, rfl⟩
        | true => exact absurd ⟨hc, hfind⟩ hnot

/-! ## Active devices and probes -/

variable (S) in
/-- The statuses that the entity has. -/
def statuses : List CastMediaStatus :=
  S.mediaStatus.toList ++ S.groups.status.values.flatMap Option.toList

variable (S) in
/-- The device shows as active on account of its app alone. -/
structure ActiveByApp : Prop where
  connected : S.chromecast.isSome = true
  switchedOn : ∃ castStatus, S.castStatus = some castStatus ∧ switchedAway C castStatus = false
  app : S.showsLovelace C = true ∨
    (S.appId C).any (· ∈ APP_IDS_UNRELIABLE_MEDIA_INFO) = true ∧
      ∀ status, S.currentStatus.1 = some status → status.playerState ≠ some "IDLE"

theorem mem_statuses_own {status : CastMediaStatus} (h : S.mediaStatus = some status) :
    status ∈ S.statuses := by
  unfold statuses
  rw [h]
  exact List.mem_append_left _ (List.mem_singleton_self _)

theorem mem_statuses_group {g : String} {status : CastMediaStatus}
    (h : S.groups.status.get? g = some (some status)) : status ∈ S.statuses := by
  refine List.mem_append_right _ (List.mem_flatMap.mpr ⟨some status, ?_, ?_⟩)
  · exact (Dict.mem_values _ _).mpr ⟨g, h⟩
  · exact Option.mem_toList.mpr rfl

/-- The status that counts is one of those the entity has. -/
theorem mem_statuses_currentStatus {status : CastMediaStatus}
    (h : S.currentStatus.1 = some status) : status ∈ S.statuses := by
  obtain ⟨source, hsource⟩ := exists_shows S
  rw [currentStatus_of_shows hsource] at h
  cases source with
  | own => exact mem_statuses_own h
  | group g =>
    obtain ⟨-, status', -, hget⟩ := shows_group hsource
    rw [heardFrom, hget] at h
    obtain rfl : status' = status := Option.some.inj h
    exact mem_statuses_group hget

/-- A device that is not busy has no status with a busy state. -/
theorem idle_of_not_busy {snapshot : ProbeSnapshot} (h : S.probeSnapshot C = some snapshot)
    (hbusy : snapshot.busy = false) {status : CastMediaStatus} (hmem : status ∈ S.statuses) :
    isBusyState status.playerState = false := by
  unfold probeSnapshot at h
  cases hc : S.chromecast with
  | none => simp [hc] at h
  | some l =>
    simp only [hc] at h
    split at h
    · cases h
    · obtain rfl := Option.some.inj h
      simp only [ProbeSnapshot.busy, Bool.or_eq_false_iff] at hbusy
      obtain ⟨hown, hgroups⟩ := hbusy
      rcases List.mem_append.mp hmem with hmem | hmem
      · rw [Option.mem_toList] at hmem
        rw [hmem] at hown
        exact hown
      · obtain ⟨status?, hvalue, hstatus⟩ := List.mem_flatMap.mp hmem
        obtain rfl := Option.mem_toList.mp hstatus
        have hnone := List.any_eq_false.mp hgroups _ (List.mem_map_of_mem hvalue)
        simpa using hnone

theorem state_of_not_busy {status : CastMediaStatus} (hconsistent : status.Consistent)
    (h : isBusyState status.playerState = false) :
    status.state = if status.playerState = some "IDLE" then some .idle else none := by
  have hstates : ∀ state ∈ BUSY_STATES, status.playerState ≠ some state := by
    intro state hmem hstate
    rw [hstate, isBusyState, Option.any_some, decide_eq_false_iff_not] at h
    exact h hmem
  have hpaused : status.playerIsPaused = false := by
    rw [← Bool.not_eq_true, hconsistent.paused]
    exact hstates "PAUSED" (by decide)
  unfold CastMediaStatus.state
  rw [if_neg (hstates _ (by decide)), if_neg (hstates _ (by decide)), hpaused]
  by_cases hidle : status.playerState = some "IDLE"
  · rw [if_neg Bool.false_ne_true, if_pos (hconsistent.idle.mpr hidle), if_pos hidle]
  · have hidle' : status.playerIsIdle = false := by
      rw [← Bool.not_eq_true, hconsistent.idle]
      exact hidle
    rw [if_neg Bool.false_ne_true, hidle', if_neg Bool.false_ne_true, if_neg hidle]

/-- When a device shows as active. -/
theorem active_iff : (S.state C).any MediaPlayerState.isActive = true ↔
    S.chromecast.isSome = true ∧
      (∃ castStatus, S.castStatus = some castStatus ∧ switchedAway C castStatus = false) ∧
      (S.showsLovelace C = true ∨
        ((S.currentStatus.1.bind CastMediaStatus.state).getD (S.appState C)).isActive = true) := by
  unfold state
  cases hc : S.chromecast with
  | none => simp
  | some l =>
    cases hcast : S.castStatus with
    | none => simp
    | some castStatus =>
      cases haway : switchedAway C castStatus with
      | true => simp [haway, MediaPlayerState.isActive]
      | false =>
        cases hlovelace : S.showsLovelace C with
        | true => simp [haway, MediaPlayerState.isActive]
        | false => simp [haway]

theorem appState_isActive :
    (S.appState C).isActive = (S.appId C).any (· ∈ APP_IDS_UNRELIABLE_MEDIA_INFO) := by
  unfold appState
  split
  · next h =>
    rw [h]
    rfl
  · next h =>
    rw [Bool.not_eq_true] at h
    rw [h]
    split <;> rfl

/-- **A cycle probes a device that shows as active** exactly if it shows so on account of its app
alone. -/
theorem probed_active_iff (hconsistent : ∀ status ∈ S.statuses, status.Consistent) {env : Env}
    {options : ProbeOptions} {running : Bool} {health : DeviceHealth} {snapshot : ProbeSnapshot}
    (h : options.decide env running (S.probeSnapshot C) health = .probe snapshot) :
    (S.state C).any MediaPlayerState.isActive = true ↔ S.ActiveByApp C := by
  have hdue := decide_eq_probe.mp h
  have hmedia : ((S.currentStatus.1.bind CastMediaStatus.state).getD (S.appState C)).isActive = true
      ↔ (S.appId C).any (· ∈ APP_IDS_UNRELIABLE_MEDIA_INFO) = true ∧
        ∀ status, S.currentStatus.1 = some status → status.playerState ≠ some "IDLE" := by
    cases hcurrent : S.currentStatus.1 with
    | none => simp [appState_isActive]
    | some status =>
      -- the status that counts is not busy, so it says at most that the device is idle
      have hmem := mem_statuses_currentStatus hcurrent
      have hstate := state_of_not_busy (hconsistent status hmem)
        (idle_of_not_busy C hdue.reported hdue.idle hmem)
      by_cases hidle : status.playerState = some "IDLE"
      · simp [hstate, hidle, MediaPlayerState.isActive]
      · simp [hstate, hidle, appState_isActive]
  rw [active_iff, hmedia]
  exact ⟨fun h => ⟨h.1, h.2.1, h.2.2⟩, fun h => ⟨h.connected, h.switchedOn, h.app⟩⟩

/-- A connected display that runs an app without media status. -/
def streaming : MediaPlayer :=
  { chromecast := some 0, mzMgr := true, available := true, castStatus := some {} }

/-- The reading of its chromecast. -/
def netflix : Chromecast := ⟨some "cast", false, some "Netflix", some "Netflix", false⟩

theorem probed_active_iff_streaming :
    (streaming.state netflix).any MediaPlayerState.isActive = true ↔
      streaming.ActiveByApp netflix := by
  have hprobe : ProbeOptions.decide (Env.bare 0) ⟨true, 900, false, true, by decide⟩ false
      (streaming.probeSnapshot netflix) { uuid := ⟨1⟩ }
        = .probe ⟨some "cast", false, some "Netflix", false, none, [], none⟩ := by decide
  exact probed_active_iff netflix (fun status h => nomatch h) hprobe

end MediaPlayer
end CastDelivery
