import CastDelivery.Health.Ledger
import CastDelivery.Lib.Dict
import CastDelivery.Lib.Json

/-!
# Playing media

`CastMediaPlayerEntity.async_play_media`, up to the call that it makes in the end: the media
source, the cast apps and platforms, the URL that the device is given, and the settings that go
with it. What Home Assistant, `yarl`, `json` and the playlist parser answer is in `PlayEnv`.
-/

namespace CastDelivery

/-- What `parse_playlist` comes to. -/
inductive PlaylistAnswer
  /-- A playlist with a first item. -/
  | item (url : String) (title : Option String)
  /-- `PlaylistSupported`. -/
  | supported
  /-- Any other `PlaylistError`. -/
  | failed
  /-- Another exception. -/
  | escaped
deriving DecidableEq, Repr

/-! ## The URL override -/

/-- What `urls.py` reads of Home Assistant and of `yarl` to rewrite a URL. -/
structure InstanceUrls where
  /-- `is_hass_url(hass, url)`, unless it raises. -/
  isHassUrl : String → Option Bool
  /-- `get_url(hass, allow_external=False)`, unless it raises. -/
  internalUrl : Option String
  /-- `get_url(hass, allow_internal=False)`, unless it raises. -/
  externalUrl : Option String
  /-- `str(yarl.URL(url).with_scheme(…).with_host(…).with_port(…))`, for the scheme, host and port
  of a base, unless it raises. -/
  rebase : String → String → Option String

namespace InstanceUrls

variable (I : InstanceUrls)

/-- `get_url` returns a URL that the given one begins with. -/
def beginsWithOwn (url : String) : Bool :=
  I.internalUrl.any (startsWith url) || I.externalUrl.any (startsWith url)

/-- `_is_own_url`, unless it raises. -/
def isOwnUrl (url : String) : Option Bool := (I.isHassUrl url).map (· || I.beginsWithOwn url)

/-- `rewrite_hass_url`, unless it raises. -/
def rewriteHassUrl (url base : String) : Option String :=
  match I.isOwnUrl url with
  | none => none
  | some false => some url
  | some true => I.rebase url base

/-- `_apply_url_override`, where `override` is the base that is configured for the device. -/
def applyUrlOverride (override : Option String) (mediaId : String) : Option String :=
  match override with
  | none => some mediaId
  | some base => I.rewriteHassUrl mediaId base

end InstanceUrls

/-! ## What a play reads, and what it comes to -/

/-- What `async_play_media` reads and waits for. -/
structure PlayEnv extends InstanceUrls where
  /-- The entity has a chromecast. -/
  connected : Bool
  /-- `media_source.is_media_source_id(media_id)`. -/
  isMediaSourceId : String → Bool
  /-- The MIME type and the URL of `media_source.async_resolve_media`, unless it raises. -/
  resolveMedia : String → Option (String × String)
  /-- `json.loads(media_id)`, unless it raises `JSONDecodeError`. -/
  jsonLoads : String → Option Json
  /-- `platform.async_play_media` of each cast platform, unless it raises. -/
  platforms : List (String → String → Option Bool)
  /-- `async_process_play_media_url(hass, media_id)`, unless it raises. -/
  processUrl : String → Option String
  /-- `yarl.URL(url).path`, of a URL that `is_hass_url` accepted. -/
  path : String → String
  /-- `parse_playlist(hass, url)`. -/
  playlist : String → PlaylistAnswer

/-- How `async_play_media` ends. -/
inductive Play
  /-- With an exception. -/
  | raised
  /-- A cast app is started by its id. -/
  | startedApp (appId : Json)
  /-- A cast platform plays the media. -/
  | byPlatform
  /-- `_async_quick_play_tracked(app_name, app_data)`. -/
  | quickPlay (appName : Json) (appData : Dict String Json)

/-- What `async_play_media` does: which URL it has `parse_playlist` fetch, whether it adds the
settings for an HLS stream, and how it ends. -/
structure Played where
  fetched : Option String := none
  hls : Bool := false
  play : Play

namespace PlayEnv

variable (E : PlayEnv)

/-- `media_id.endswith((".m3u", ".m3u8", ".pls"))`. -/
def hasPlaylistSuffix (mediaId : String) : Bool :=
  [".m3u", ".m3u8", ".pls"].any fun suffix => suffix.toList.isSuffixOf mediaId.toList

/-- What `async_play_media` takes a URL for. -/
inductive Kind
  | hls
  | playlist
  | other
deriving DecidableEq, Repr

/-- The conditions on the URL in `async_play_media`, unless `is_hass_url` raises. -/
def kind (mediaId : String) : Option Kind :=
  match E.isHassUrl mediaId with
  | none => none
  | some true => some (if startsWith (E.path mediaId) "/api/hls/" then .hls else .other)
  | some false => some (if hasPlaylistSuffix mediaId then .playlist else .other)

end PlayEnv

/-! ## App data -/

/-- `{"media_id": media_id, "media_type": media_type, **extra}`. -/
def appData (mediaId mediaType : String) (extra : Dict String Json) : Dict String Json :=
  (((∅ : Dict String Json).set "media_id" (.str mediaId)).set "media_type" (.str mediaType)).update
    extra

/-- The extra data for an HLS stream. -/
def hlsExtra (extra : Dict String Json) : Dict String Json :=
  (extra.set "stream_type" (.str "LIVE")).set "media_info"
    (.obj [("hlsVideoSegmentFormat", .str "fmp4")])

/-- The extra data for an item of a playlist. -/
def titled (extra : Dict String Json) (title : Option String) : Dict String Json :=
  match title with
  | none => extra
  | some title =>
    if title = "" then extra else extra.set "metadata" (.obj [("title", .str title)])

namespace PlayEnv

variable (E : PlayEnv)

/-- `async_play_media`, from the check of the URL on. -/
def playUrl (mediaType mediaId : String) (extra : Dict String Json) : Played :=
  let default (mediaId : String) (extra : Dict String Json) : Play :=
    .quickPlay (.str "default_media_receiver") (appData mediaId mediaType extra)
  match E.kind mediaId with
  | none => { play := .raised }
  | some .hls => { hls := true, play := default mediaId (hlsExtra extra) }
  | some .other => { play := default mediaId extra }
  | some .playlist =>
    { fetched := some mediaId
      play := match E.playlist mediaId with
        | .item url title => default url (titled extra title)
        | .supported | .failed => default mediaId extra
        | .escaped => .raised }

/-- `app_data` for a known cast app, unless the media id is not the JSON of a dictionary; nothing
else supports the operations that follow. -/
def castAppData (mediaId : String) (extra : Dict String Json) : Option (Dict String Json) :=
  match E.jsonLoads mediaId with
  | some (.obj fields) =>
    let loaded : Dict String Json := fields.foldl (fun d field => d.set field.1 field.2) ∅
    some <| match extra.get? "metadata" with
      | some metadata => if metadata.truthy then loaded.set "metadata" metadata else loaded
      | none => loaded
  | _ => none

/-- The part of `async_play_media` for a known cast app. -/
def playApp (mediaId : String) (extra : Dict String Json) : Play :=
  match E.castAppData mediaId extra with
  | none => .raised
  | some appData =>
    match appData.get? "app_id" with
    | some appId => .startedApp appId
    | none =>
      match appData.get? "app_name" with
      | some appName => .quickPlay appName (appData.erase "app_name")
      | none => .raised

/-- The loop over the cast platforms. -/
def tryPlatforms (mediaType mediaId : String) :
    List (String → String → Option Bool) → Option Play
  | [] => none
  | platform :: platforms =>
    match platform mediaType mediaId with
    | none => some .raised
    | some true => some .byPlatform
    | some false => tryPlatforms mediaType mediaId platforms

/-- `DOMAIN`, as a media type. -/
def CAST_DOMAIN : String := "cast"

/-- The media type and the media id, after a media source was resolved. -/
def sourcedMedia (mediaType mediaId : String) : Option (String × String) :=
  if E.isMediaSourceId mediaId then E.resolveMedia mediaId else some (mediaType, mediaId)

/-- `async_play_media`. -/
def asyncPlayMedia (override : Option String) (mediaType mediaId : String)
    (extra : Dict String Json) : Played :=
  if E.connected = false then { play := .raised }
  else match E.sourcedMedia mediaType mediaId with
    | none => { play := .raised }
    | some (mediaType, mediaId) =>
      if mediaType = CAST_DOMAIN then { play := E.playApp mediaId extra }
      else match tryPlatforms mediaType mediaId E.platforms with
        | some play => { play := play }
        | none =>
          match (E.processUrl mediaId).bind (E.applyUrlOverride override) with
          | none => { play := .raised }
          | some url => E.playUrl mediaType url extra

end PlayEnv
end CastDelivery
