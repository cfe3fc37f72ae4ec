import CastDelivery.Playback.PlayMedia

/-!
# Plays with and without a URL override

`override_iff`: with an override, `async_play_media` does what it does without one, except that
the media id it gives to the default media receiver is re-based, if and only if the re-based URL
is taken for the same kind of URL as the other one, a playlist yields the re-based item there, and
no media id comes from elsewhere than the URL.

The conditions on the URL are checked after it was rewritten, and `is_hass_url` does not know the
base of an override. So the first of these fails for the HLS streams and the playlists of the
instance itself.
-/

namespace CastDelivery

variable {f : String → Option String} {mediaId mediaType : String} {extra : Dict String Json}

/-! ## App data -/

/-- Setting the media id anew in app data. -/
theorem appData_set (mediaId mediaId' mediaType : String) (extra : Dict String Json) :
    appData mediaId' mediaType extra
      = ((((∅ : Dict String Json).set "media_id" (.str mediaId)).set "media_type"
          (.str mediaType)).set "media_id" (.str mediaId')).update extra := rfl

theorem get?_appData (mediaId mediaType : String) (extra : Dict String Json) (k : String) :
    (appData mediaId mediaType extra).get? k = (extra.get? k).or
      (if k = "media_type" then some (.str mediaType)
        else if k = "media_id" then some (.str mediaId) else none) := by
  unfold appData
  rw [Dict.get?_update, Dict.get?_set, Dict.get?_set]
  rfl

/-- The media id of some app data is replaced by what `f` makes of it. -/
def mapMediaId (f : String → Option String) (data : Dict String Json) :
    Option (Dict String Json) :=
  match data.get? "media_id" with
  | some (.str mediaId) => (f mediaId).map fun url => data.set "media_id" (.str url)
  | _ => some data

/-- No media id is given, or none that `f` changes. -/
def Untouched (f : String → Option String) (given : Option Json) : Prop :=
  ∀ mediaId, given = some (.str mediaId) → f mediaId = some mediaId

theorem mapMediaId_eq_self_iff (f : String → Option String) (data : Dict String Json) :
    mapMediaId f data = some data ↔ Untouched f (data.get? "media_id") := by
  unfold mapMediaId Untouched
  split
  · next mediaId h =>
    rw [h]
    constructor
    · rintro heq mediaId' ⟨⟩
      obtain ⟨url, hurl, hset⟩ := Option.map_eq_some_iff.mp heq
      have hget := congrArg (Dict.get? · "media_id") hset
      simp only [Dict.get?_set_self, h, Option.some.injEq, Json.str.injEq] at hget
      rw [hurl, hget]
    · intro hf
      rw [hf mediaId rfl, Option.map_some, Dict.set_eq_self h]
  · next hnot =>
    refine iff_of_true rfl ?_
    intro mediaId h
    exact absurd h (hnot mediaId)

/-- The URL of a play is what the media id of its app data is, unless the extra data has one. -/
theorem mapMediaId_appData_of_none (h : extra.get? "media_id" = none) :
    mapMediaId f (appData mediaId mediaType extra) =
      (f mediaId).map fun url => appData url mediaType extra := by
  have hget : (appData mediaId mediaType extra).get? "media_id" = some (.str mediaId) := by
    rw [get?_appData, h]
    rfl
  have hset (url : String) :
      (appData mediaId mediaType extra).set "media_id" (.str url) =
        appData url mediaType extra := by
    rw [appData_set mediaId url, Dict.update_set_of_notMem (by simp [Dict.mem_keys_set]) h]
    rfl
  unfold mapMediaId
  rw [hget]
  simp only [hset]

/-- With a media id in the extra data, the URL of a play makes no difference. -/
theorem appData_of_some {given : Json} (h : extra.get? "media_id" = some given)
    (mediaId mediaId' mediaType : String) :
    appData mediaId' mediaType extra = appData mediaId mediaType extra := by
  rw [appData_set mediaId mediaId', Dict.update_set_of_mem (by simp [Dict.mem_keys_set]) h]
  rfl

/-- **App data with the media id re-based**: either the extra data has no media id and the URL is
re-based, or it has one that is left alone. -/
theorem mapMediaId_appData_iff (mediaId' : String) :
    mapMediaId f (appData mediaId mediaType extra) = some (appData mediaId' mediaType extra) ↔
      Untouched f (extra.get? "media_id") ∧
        (extra.get? "media_id" = none → f mediaId = some mediaId') := by
  cases h : extra.get? "media_id" with
  | none =>
    rw [mapMediaId_appData_of_none h]
    constructor
    · intro heq
      obtain ⟨url, hurl, hdata⟩ := Option.map_eq_some_iff.mp heq
      have hget := congrArg (Dict.get? · "media_id") hdata
      simp only [get?_appData, h] at hget
      have hsame : url = mediaId' := by simpa using hget
      exact ⟨by rintro _ ⟨⟩, fun _ => hsame ▸ hurl⟩
    · rintro ⟨-, hmedia⟩
      rw [hmedia rfl, Option.map_some]
  | some given =>
    have hget : (appData mediaId mediaType extra).get? "media_id" = some given := by
      rw [get?_appData, h]
      rfl
    rw [appData_of_some h mediaId mediaId', mapMediaId_eq_self_iff, hget]
    simp

/-! ## Titles -/

theorem get?_titled {k : String} (hk : k ≠ "metadata") (title : Option String) :
    (titled extra title).get? k = extra.get? k := by
  unfold titled
  split
  · rfl
  · split
    · rfl
    · rw [Dict.get?_set, if_neg hk]

/-- The metadata tell how the extra data was titled. -/
theorem titled_inj {title title' : Option String}
    (h : (titled extra title).get? "metadata" = (titled extra title').get? "metadata") :
    titled extra title = titled extra title' := by
  have hform : ∀ title, titled extra title = extra ∨
      ∃ value, titled extra title = extra.set "metadata" value := by
    intro title
    unfold titled
    split
    · exact .inl rfl
    · split
      · exact .inl rfl
      · exact .inr ⟨_, rfl⟩
  rcases hform title with ht | ⟨value, ht⟩
  · rcases hform title' with ht' | ⟨value', ht'⟩
    · rw [ht, ht']
    · rw [ht, ht', Dict.get?_set_self] at h
      rw [ht, ht', Dict.set_eq_self h]
  · rcases hform title' with ht' | ⟨value', ht'⟩
    · rw [ht, ht', Dict.get?_set_self] at h
      rw [ht, ht', Dict.set_eq_self h.symm]
    · rw [ht, ht', Dict.get?_set_self, Dict.get?_set_self] at h
      rw [ht, ht', Option.some.inj h]

theorem get?_mapMediaId {k : String} (hk : k ≠ "media_id") {data data' : Dict String Json}
    (h : mapMediaId f data = some data') : data'.get? k = data.get? k := by
  unfold mapMediaId at h
  split at h
  · obtain ⟨url, -, rfl⟩ := Option.map_eq_some_iff.mp h
    rw [Dict.get?_set, if_neg hk]
  · rw [Option.some.inj h]

theorem mapMediaId_titled_iff (mediaId' : String) (title title' : Option String) :
    mapMediaId f (appData mediaId mediaType (titled extra title)) =
        some (appData mediaId' mediaType (titled extra title')) ↔
      titled extra title' = titled extra title ∧ Untouched f (extra.get? "media_id") ∧
        (extra.get? "media_id" = none → f mediaId = some mediaId') := by
  have hgiven : ∀ title, (titled extra title).get? "media_id" = extra.get? "media_id" :=
    fun title => get?_titled (by decide) title
  constructor
  · intro heq
    have hmetadata := get?_mapMediaId (show "metadata" ≠ "media_id" by decide) heq
    simp only [get?_appData] at hmetadata
    have htitled : titled extra title' = titled extra title :=
      titled_inj (by simpa using hmetadata)
    rw [htitled, mapMediaId_appData_iff, hgiven] at heq
    exact ⟨htitled, heq⟩
  · rintro ⟨htitled, hrest⟩
    rw [htitled, mapMediaId_appData_iff, hgiven]
    exact hrest

/-! ## Two plays -/

/-- `f` on the media id that goes to the default media receiver. -/
def Play.mapMediaId (f : String → Option String) : Play → Option Play
  | .quickPlay (.str app) data =>
    if app = "default_media_receiver" then
      (CastDelivery.mapMediaId f data).map (.quickPlay (.str app))
    else some (.quickPlay (.str app) data)
  | play => some play

/-- One play does what another does, except that its media id is re-based: it fetches a playlist
if the other does, has the settings of an HLS stream if the other has, and ends alike. -/
structure OnlyRebased (f : String → Option String) (without played : Played) : Prop where
  fetched : played.fetched.isSome = without.fetched.isSome
  hls : played.hls = without.hls
  play : without.play.mapMediaId f = some played.play

theorem quickPlay_default_iff (data data' : Dict String Json) :
    (Play.quickPlay (.str "default_media_receiver") data).mapMediaId f
        = some (.quickPlay (.str "default_media_receiver") data') ↔
      mapMediaId f data = some data' := by
  simp [Play.mapMediaId]

theorem mapMediaId_quickPlay_ne_raised (data : Dict String Json) :
    (Play.quickPlay (.str "default_media_receiver") data).mapMediaId f ≠ some .raised := by
  simp [Play.mapMediaId]

namespace PlayEnv

variable {E : PlayEnv}

/-- What is played of a playlist: an item, or the playlist itself. -/
def found (E : PlayEnv) (url : String) : Option (String × Option String) :=
  match E.playlist url with
  | .item url title => some (url, title)
  | .supported | .failed => some (url, none)
  | .escaped => none

theorem playUrl_none (h : E.kind mediaId = none) :
    E.playUrl mediaType mediaId extra = { play := .raised } := by
  unfold playUrl
  rw [h]

theorem playUrl_hls (h : E.kind mediaId = some .hls) :
    E.playUrl mediaType mediaId extra =
      { hls := true
        play := .quickPlay (.str "default_media_receiver")
          (appData mediaId mediaType (hlsExtra extra)) } := by
  unfold playUrl
  rw [h]

theorem playUrl_other (h : E.kind mediaId = some .other) :
    E.playUrl mediaType mediaId extra =
      { play := .quickPlay (.str "default_media_receiver")
          (appData mediaId mediaType extra) } := by
  unfold playUrl
  rw [h]

/-- How a play of what was found ends. -/
def playFound (mediaType : String) (extra : Dict String Json) :
    Option (String × Option String) → Play
  | some (url, title) => .quickPlay (.str "default_media_receiver")
      (appData url mediaType (titled extra title))
  | none => .raised

theorem playUrl_playlist (h : E.kind mediaId = some .playlist) :
    E.playUrl mediaType mediaId extra =
      { fetched := some mediaId
        play := playFound mediaType extra (E.found mediaId) } := by
  unfold playUrl found
  rw [h]
  simp only
  cases E.playlist mediaId <;> rfl

/-- The items found at two URLs correspond: they have one title, and the second is the re-based
first one unless the extra data overrides both. -/
def Corresponds (f : String → Option String) (extra : Dict String Json) :
    Option (String × Option String) → Option (String × Option String) → Prop
  | none, none => True
  | some (url, title), some (url', title') =>
    titled extra title' = titled extra title ∧
      (extra.get? "media_id" = none → f url = some url')
  | _, _ => False

theorem found_iff (found found' : Option (String × Option String)) :
    (playFound mediaType extra found).mapMediaId f = some (playFound mediaType extra found') ↔
      Corresponds f extra found found' ∧
        (found ≠ none → Untouched f (extra.get? "media_id")) := by
  cases found with
  | none =>
    cases found' with
    | none => simp [playFound, Corresponds, Play.mapMediaId]
    | some item => simp [playFound, Corresponds, Play.mapMediaId]
  | some item =>
    obtain ⟨url, title⟩ := item
    cases found' with
    | none => simp [playFound, Corresponds, Play.mapMediaId]
    | some item' =>
      obtain ⟨url', title'⟩ := item'
      simp only [playFound]
      rw [quickPlay_default_iff, mapMediaId_titled_iff]
      simp only [Corresponds, ne_eq, reduceCtorEq, not_false_eq_true, true_implies, and_assoc]
      exact and_congr_right fun _ => and_comm

/-- The condition on a URL: re-basing changes neither the kind of URL it is taken for nor the item
that a playlist yields, and the extra data has no media id that re-basing changes. Where re-basing
raises, the play raises without it too. -/
structure Stable (E : PlayEnv) (f : String → Option String) (extra : Dict String Json)
    (mediaId : String) : Prop where
  raises : f mediaId = none → E.kind mediaId = none
  kind : ∀ url, f mediaId = some url → E.kind url = E.kind mediaId
  playlist : ∀ url, f mediaId = some url → E.kind mediaId = some .playlist →
    Corresponds f extra (E.found mediaId) (E.found url)
  given : E.kind mediaId ≠ none → (E.kind mediaId = some .playlist → E.found mediaId ≠ none) →
    Untouched f (extra.get? "media_id")

/-- `async_play_media` with a URL, unless making it raised. -/
def playRebased (E : PlayEnv) (mediaType : String) (extra : Dict String Json) :
    Option String → Played
  | none => { play := .raised }
  | some url => E.playUrl mediaType url extra

theorem kind_of_onlyRebased {url : String}
    (h : OnlyRebased f (E.playUrl mediaType mediaId extra) (E.playUrl mediaType url extra)) :
    E.kind url = E.kind mediaId := by
  obtain ⟨hfetched, hhls, hplay⟩ := h
  cases hk : E.kind mediaId with
  | none =>
    rw [playUrl_none hk] at hfetched hhls hplay
    cases hk' : E.kind url with
    | none => rfl
    | some kind =>
      cases kind with
      | hls =>
        rw [playUrl_hls hk'] at hhls
        cases hhls
      | other =>
        rw [playUrl_other hk'] at hplay
        cases hplay
      | playlist =>
        rw [playUrl_playlist hk'] at hfetched
        cases hfetched
  | some kind =>
    cases hk' : E.kind url with
    | none =>
      rw [playUrl_none hk'] at hfetched hhls hplay
      cases kind with
      | hls =>
        rw [playUrl_hls hk] at hhls
        cases hhls
      | other =>
        rw [playUrl_other hk] at hplay
        exact absurd hplay (mapMediaId_quickPlay_ne_raised _)
      | playlist =>
        rw [playUrl_playlist hk] at hfetched
        cases hfetched
    | some kind' =>
      revert hfetched hhls
      unfold playUrl
      rw [hk, hk']
      cases kind <;> cases kind' <;> simp

/-- A URL whose re-basing raises. -/
theorem onlyRebased_raised_iff :
    OnlyRebased f (E.playUrl mediaType mediaId extra) { play := .raised } ↔
      E.kind mediaId = none := by
  constructor
  · rintro ⟨hfetched, hhls, hplay⟩
    cases hk : E.kind mediaId with
    | none => rfl
    | some kind =>
      cases kind with
      | hls =>
        rw [playUrl_hls hk] at hhls
        cases hhls
      | other =>
        rw [playUrl_other hk] at hplay
        exact absurd hplay (mapMediaId_quickPlay_ne_raised _)
      | playlist =>
        rw [playUrl_playlist hk] at hfetched
        cases hfetched
  · intro hk
    rw [playUrl_none hk]
    exact ⟨rfl, rfl, rfl⟩

theorem playUrl_onlyRebased_iff (E : PlayEnv) (f : String → Option String)
    (mediaType mediaId : String) (extra : Dict String Json) :
    OnlyRebased f (E.playUrl mediaType mediaId extra)
        (E.playRebased mediaType extra (f mediaId)) ↔
      Stable E f extra mediaId := by
  cases hf : f mediaId with
  | none =>
    refine onlyRebased_raised_iff.trans ⟨fun hk => ?_, fun h => h.raises hf⟩
    exact ⟨fun _ => hk, by simp [hf], by simp [hf], fun h => absurd hk h⟩
  | some url =>
    show OnlyRebased f _ (E.playUrl mediaType url extra) ↔ _
    by_cases hkind : E.kind url = E.kind mediaId
    · have hsame : ∀ url', f mediaId = some url' → E.kind url' = E.kind mediaId := by
        intro url' hurl
        obtain rfl := Option.some.inj (hf.symm.trans hurl)
        exact hkind
      cases hk : E.kind mediaId with
      | none =>
        rw [hk] at hkind
        rw [playUrl_none hkind, playUrl_none hk]
        exact iff_of_true ⟨rfl, rfl, rfl⟩ ⟨fun _ => hk, hsame, by simp [hk], by simp [hk]⟩
      | some kind =>
        rw [hk] at hkind
        cases kind with
        | hls =>
          -- the stream's content type and segment format do not touch the media id
          have hextra : (hlsExtra extra).get? "media_id" = extra.get? "media_id" := by
            unfold hlsExtra
            rw [Dict.get?_set, Dict.get?_set]
            rfl
          rw [playUrl_hls hkind, playUrl_hls hk]
          constructor
          · rintro ⟨-, -, hplay⟩
            rw [quickPlay_default_iff, mapMediaId_appData_iff, hextra] at hplay
            exact ⟨by simp [hf], hsame, by simp [hk], fun _ _ => hplay.1⟩
          · rintro ⟨-, -, -, hgiven⟩
            refine ⟨rfl, rfl, ?_⟩
            rw [quickPlay_default_iff, mapMediaId_appData_iff, hextra]
            exact ⟨hgiven (by simp [hk]) (by simp [hk]), fun _ => hf⟩
        | other =>
          rw [playUrl_other hkind, playUrl_other hk]
          constructor
          · rintro ⟨-, -, hplay⟩
            rw [quickPlay_default_iff, mapMediaId_appData_iff] at hplay
            exact ⟨by simp [hf], hsame, by simp [hk], fun _ _ => hplay.1⟩
          · rintro ⟨-, -, -, hgiven⟩
            refine ⟨rfl, rfl, ?_⟩
            rw [quickPlay_default_iff, mapMediaId_appData_iff]
            exact ⟨hgiven (by simp [hk]) (by simp [hk]), fun _ => hf⟩
        | playlist =>
          -- what is played comes from the playlist that is fetched
          rw [playUrl_playlist hkind, playUrl_playlist hk]
          constructor
          · rintro ⟨-, -, hplay⟩
            obtain ⟨hcorresponds, hgiven⟩ := (found_iff _ _).mp hplay
            refine ⟨by simp [hf], hsame, ?_, fun _ h => hgiven (h hk)⟩
            intro url' hurl _
            obtain rfl := Option.some.inj (hf.symm.trans hurl)
            exact hcorresponds
          · rintro ⟨-, -, hcorresponds, hgiven⟩
            exact ⟨rfl, rfl, (found_iff _ _).mpr
              ⟨hcorresponds url hf hk, fun h => hgiven (by simp [hk]) fun _ => h⟩⟩
    · exact iff_of_false (fun h => hkind (kind_of_onlyRebased h)) fun h => hkind (h.kind url hf)

/-! ## The theorem -/

/-- The media id that the JSON for the default media receiver gives, and the URL that
`async_play_media` plays, are as the law needs them. -/
structure Rebasable (E : PlayEnv) (base mediaType mediaId : String) (extra : Dict String Json) :
    Prop where
  app : ∀ json data, E.connected = true →
    E.sourcedMedia mediaType mediaId = some (CAST_DOMAIN, json) →
    E.castAppData json extra = some data → data.get? "app_id" = none →
    data.get? "app_name" = some (.str "default_media_receiver") →
    Untouched (fun url => E.rewriteHassUrl url base) (data.get? "media_id")
  url : ∀ type media url, E.connected = true →
    E.sourcedMedia mediaType mediaId = some (type, media) → type ≠ CAST_DOMAIN →
    tryPlatforms type media E.platforms = none → E.processUrl media = some url →
    Stable E (fun url => E.rewriteHassUrl url base) extra url

theorem play_tryPlatforms {type media : String} {platforms : List (String → String → Option Bool)}
    {play : Play} (h : tryPlatforms type media platforms = some play)
    (f : String → Option String) : play.mapMediaId f = some play := by
  induction platforms with
  | nil => cases h
  | cons platform platforms ih =>
    simp only [tryPlatforms] at h
    split at h
    · cases h
      rfl
    · cases h
      rfl
    · exact ih h

theorem playApp_onlyRebased_iff (E : PlayEnv) (f : String → Option String) (json : String)
    (extra : Dict String Json) :
    OnlyRebased f { play := E.playApp json extra } { play := E.playApp json extra } ↔
      ∀ data, E.castAppData json extra = some data → data.get? "app_id" = none →
        data.get? "app_name" = some (.str "default_media_receiver") →
        Untouched f (data.get? "media_id") := by
  unfold playApp
  cases hdata : E.castAppData json extra with
  | none => exact iff_of_true ⟨rfl, rfl, rfl⟩ (by simp)
  | some data =>
    simp only [Option.some.injEq, forall_eq']
    cases hid : data.get? "app_id" with
    -- an app is started by its id, and an app by its name gets the data as they are
    | some appId => exact iff_of_true ⟨rfl, rfl, rfl⟩ (by simp)
    | none =>
      simp only [true_implies]
      cases hname : data.get? "app_name" with
      | none => exact iff_of_true ⟨rfl, rfl, rfl⟩ (by simp)
      | some appName =>
        simp only [Option.some.injEq]
        by_cases hdefault : appName = .str "default_media_receiver"
        · subst hdefault
          have hgiven : (data.erase "app_name").get? "media_id" = data.get? "media_id" := by
            rw [Dict.get?_erase]
            rfl
          rw [← hgiven, ← mapMediaId_eq_self_iff]
          constructor
          · rintro ⟨-, -, hplay⟩ -
            exact (quickPlay_default_iff _ _).mp hplay
          · intro huntouched
            exact ⟨rfl, rfl, (quickPlay_default_iff _ _).mpr (huntouched rfl)⟩
        · refine iff_of_true ⟨rfl, rfl, ?_⟩ fun h => absurd h hdefault
          cases appName with
          | str app =>
            have happ : app ≠ "default_media_receiver" := fun h => hdefault (by rw [h])
            simp [Play.mapMediaId, happ]
          | _ => rfl

/-- **An override changes only the base** of what `async_play_media` hands to the default media
receiver if and only if the URL is taken for the same kind of URL once it is re-based, a playlist
yields the re-based item there, and no media id that re-basing changes comes from the extra data
or from the JSON for a cast app. -/
theorem override_iff (E : PlayEnv) (base mediaType mediaId : String) (extra : Dict String Json) :
    OnlyRebased (fun url => E.rewriteHassUrl url base)
        (E.asyncPlayMedia none mediaType mediaId extra)
        (E.asyncPlayMedia (some base) mediaType mediaId extra) ↔
      Rebasable E base mediaType mediaId extra := by
  unfold asyncPlayMedia
  by_cases hconnected : E.connected = false
  · rw [if_pos hconnected, if_pos hconnected]
    exact iff_of_true ⟨rfl, rfl, rfl⟩ ⟨by simp [hconnected], by simp [hconnected]⟩
  · rw [if_neg hconnected, if_neg hconnected]
    have hconnected : E.connected = true := by simpa using hconnected
    cases hmedia : E.sourcedMedia mediaType mediaId with
    | none => exact iff_of_true ⟨rfl, rfl, rfl⟩ ⟨by simp [hmedia], by simp [hmedia]⟩
    | some media =>
      obtain ⟨type, media⟩ := media
      simp only
      by_cases hcast : type = CAST_DOMAIN
      · -- JSON for a cast app, which the override does not reach
        subst hcast
        rw [if_pos rfl, if_pos rfl, playApp_onlyRebased_iff]
        constructor
        · intro happ
          refine ⟨fun json data _ hsourced => ?_, fun type' media' url _ hsourced hne => ?_⟩
          · obtain ⟨-, rfl⟩ := Prod.mk.inj (Option.some.inj (hmedia.symm.trans hsourced))
            exact happ data
          · obtain ⟨rfl, -⟩ := Prod.mk.inj (Option.some.inj (hmedia.symm.trans hsourced))
            exact absurd rfl hne
        · exact fun h data => h.app media data hconnected hmedia
      · rw [if_neg hcast, if_neg hcast]
        have happ : ∀ json, E.sourcedMedia mediaType mediaId ≠ some (CAST_DOMAIN, json) := by
          intro json hsourced
          exact hcast (Prod.mk.inj (Option.some.inj (hmedia.symm.trans hsourced))).1
        cases hplatforms : tryPlatforms type media E.platforms with
        | some play =>
          -- a platform plays it, before the override is applied
          refine iff_of_true ⟨rfl, rfl, play_tryPlatforms hplatforms _⟩
            ⟨fun json _ _ hsourced => absurd hsourced (happ json), ?_⟩
          intro type' media' url _ hsourced _ hnone
          obtain ⟨rfl, rfl⟩ := Prod.mk.inj (Option.some.inj (hmedia.symm.trans hsourced))
          rw [hplatforms] at hnone
          cases hnone
        | none =>
          cases hprocessed : E.processUrl media with
          | none =>
            refine iff_of_true ⟨rfl, rfl, rfl⟩
              ⟨fun json _ _ hsourced => absurd hsourced (happ json), ?_⟩
            intro type' media' url _ hsourced _ _ hurl
            obtain ⟨rfl, rfl⟩ := Prod.mk.inj (Option.some.inj (hmedia.symm.trans hsourced))
            rw [hprocessed] at hurl
            cases hurl
          | some url =>
            have hstable := playUrl_onlyRebased_iff E (fun url => E.rewriteHassUrl url base) type
              url extra
            unfold playRebased at hstable
            refine hstable.trans ⟨fun hstable => ?_, fun h => ?_⟩
            · refine ⟨fun json _ _ hsourced => absurd hsourced (happ json), ?_⟩
              intro type' media' url' _ hsourced _ _ hurl
              obtain ⟨rfl, rfl⟩ := Prod.mk.inj (Option.some.inj (hmedia.symm.trans hsourced))
              obtain rfl := Option.some.inj (hprocessed.symm.trans hurl)
              exact hstable
            · exact h.url type media url hconnected hmedia hcast hplatforms hprocessed

/-! ## A stream of the instance itself -/

/-- An instance at `http://192.168.1.10:8123`, its pinned internal URL. -/
def pinnedInstance : PlayEnv where
  connected := true
  isMediaSourceId _ := false
  resolveMedia _ := none
  jsonLoads _ := none
  platforms := []
  processUrl url := some url
  isHassUrl url := some (startsWith url "http://192.168.1.10:8123/")
  internalUrl := some "http://192.168.1.10:8123"
  externalUrl := none
  rebase url base := some (base ++ String.ofList (url.toList.drop 24))
  path url := String.ofList ((url.toList.drop 24).takeWhile (· ≠ '?'))
  playlist _ := .supported

/-- With an override, an HLS stream of the instance loses its settings. -/
theorem not_onlyRebased :
    ¬ OnlyRebased (fun url => pinnedInstance.rewriteHassUrl url "http://10.0.0.5:8123")
      (pinnedInstance.asyncPlayMedia none "application/vnd.apple.mpegurl"
        "http://192.168.1.10:8123/api/hls/bla/master_playlist.m3u8?token=bla" ∅)
      (pinnedInstance.asyncPlayMedia (some "http://10.0.0.5:8123") "application/vnd.apple.mpegurl"
        "http://192.168.1.10:8123/api/hls/bla/master_playlist.m3u8?token=bla" ∅) := by
  intro h
  have hhls := h.hls
  revert hhls
  decide

end PlayEnv
end CastDelivery
