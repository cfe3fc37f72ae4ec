import CastDelivery.Player.Connection

/-!
# Orderly runs of the media player

A run is orderly if every connection finds no listener and the entry loaded, the device stays of
its kind, and the multizone manager knows the groups of a registered device. Then the entity shows
what it has heard on its connection and nothing else:

* `blank_without_connection`: without a connection nothing is shown but the volume.
* `flagged_features_work`: a flagged command goes to the source that supports it.
* `silent_run_shows_same`: what the entity shows changes only with a state update.
* `handlers_alternate`: at most one controller is registered with a chromecast at a time.
-/

namespace CastDelivery
namespace MediaPlayer

variable {S : MediaPlayer} {l : ℕ}

/-- An event that may come in an orderly run. -/
def Orderly (S : MediaPlayer) : PlayerEvent → Prop
  | .connected loaded => loaded = true ∧ S.statusListener = none
  | .rediscovered isAudioGroup => isAudioGroup = S.isAudioGroup
  | .callback _ _ (.newConnectionStatus _ groups) => groups.isSome = true
  | _ => True

instance (S : MediaPlayer) : ∀ e, Decidable (S.Orderly e)
  | .connected loaded => inferInstanceAs (Decidable (loaded = true ∧ S.statusListener = none))
  | .rediscovered isAudioGroup => inferInstanceAs (Decidable (isAudioGroup = S.isAudioGroup))
  | .callback _ _ (.newConnectionStatus _ groups) =>
    inferInstanceAs (Decidable (groups.isSome = true))
  | .callback _ _ (.newCastStatus _) | .callback _ _ (.newMediaStatus _)
  | .callback _ _ (.loadMediaFailed _ _) | .callback _ _ (.multizoneNewMediaStatus _ _)
  | .connectResumes _ _ | .disconnected | .showView _ _ _ _ | .unregister =>
    inferInstanceAs (Decidable True)

/-- Nothing was heard, or everything was forgotten. -/
structure Blank (S : MediaPlayer) : Prop where
  available : S.available = false
  castStatus : S.castStatus = none
  mediaStatus : S.mediaStatus = none
  mediaStatusReceived : S.mediaStatusReceived = none
  groups : S.groups = .empty
  hassCastController : S.hassCastController = none

/-- The parts of a connection come and go together. -/
structure Wired (S : MediaPlayer) : Prop where
  valid : ∀ l, l ∈ S.valid ↔ S.statusListener = some l
  chromecast : S.chromecast = S.statusListener
  mzMgr : S.mzMgr = S.statusListener.isSome
  registered : ∀ l, S.statusListener = some l → S.isAudioGroup = true ∨ l ∈ S.registered
  bounded : ∀ l, S.statusListener = some l → l < S.connections
  blank : S.statusListener = none → S.Blank
  controller : ∀ c, S.hassCastController = some c → S.statusListener = some c.connection

theorem blank_create (uuid : UUID) (entityId : String) (isAudioGroup : Bool) :
    (create uuid entityId isAudioGroup).Blank := ⟨rfl, rfl, rfl, rfl, rfl, rfl⟩

theorem wired_create (uuid : UUID) (entityId : String) (isAudioGroup : Bool) :
    (create uuid entityId isAudioGroup).Wired where
  valid _ := iff_of_false (Finset.notMem_empty _) nofun
  chromecast := rfl
  mzMgr := rfl
  registered _ h := nomatch h
  bounded _ h := nomatch h
  blank _ := blank_create uuid entityId isAudioGroup
  controller _ h := nomatch h

/-- Whatever is heard on a connection leaves it as it is. -/
theorem Wired.of_same {T : MediaPlayer} (h : S.Wired) (same : SameWiring S T)
    (hsome : S.statusListener ≠ none) : T.Wired where
  valid l := by rw [same.valid, same.statusListener, h.valid]
  chromecast := by rw [same.chromecast, same.statusListener, h.chromecast]
  mzMgr := by rw [same.mzMgr, same.statusListener, h.mzMgr]
  registered l := by
    rw [same.statusListener, same.isAudioGroup, same.registered]
    exact h.registered l
  bounded l := by
    rw [same.statusListener, same.connections]
    exact h.bounded l
  blank hnone := absurd (same.statusListener.symm.trans hnone) hsome
  controller c := by
    rw [same.hassCastController, same.statusListener]
    exact h.controller c

/-- `_invalidate` does not raise, and nothing of the connection is left. -/
theorem Wired.invalidate (h : S.Wired) (havailable : S.available = false) :
    S.invalidate.2 = false ∧ S.invalidate.1.Wired ∧ S.invalidate.1.statusListener = none := by
  rcases S.invalidate_cases with ⟨hnone, heq⟩ | ⟨l, registered, hl, heq⟩ | ⟨l, hl, hg, hr, -⟩
  · rw [heq]
    refine ⟨rfl, ⟨fun l' => ?_, hnone.symm, ?_, fun l' hl' => ?_, h.bounded, fun _ => ?_,
      fun _ hc => ?_⟩, hnone⟩
    · show l' ∈ S.valid ↔ _
      rw [h.valid]
      rfl
    · show false = S.statusListener.isSome
      rw [hnone]
      rfl
    · exact nomatch hnone.symm.trans hl'
    · exact ⟨havailable, rfl, rfl, rfl, rfl, rfl⟩
    · cases hc
  · rw [heq]
    refine ⟨rfl, ⟨fun l' => iff_of_false (fun hl' => ?_) nofun, rfl, rfl, nofun, nofun,
      fun _ => ?_, nofun⟩, rfl⟩
    · obtain ⟨hne, hmem⟩ := Finset.mem_erase.mp hl'
      exact hne (Option.some.inj (((h.valid l').mp hmem).symm.trans hl))
    · exact ⟨havailable, rfl, rfl, rfl, rfl, rfl⟩
  · rcases h.registered l hl with hgroup | hregistered
    · rw [hg] at hgroup
      cases hgroup
    · exact absurd hregistered hr

theorem Wired.unavailable (h : S.Wired) : Wired { S with available := false } :=
  ⟨h.valid, h.chromecast, h.mzMgr, h.registered, h.bounded,
    fun hnone => { h.blank hnone with available := rfl }, h.controller⟩

theorem Wired.listener_of_chromecast (h : S.Wired) (hc : S.chromecast = some l) :
    S.statusListener ≠ none := by
  rw [← h.chromecast, hc]
  exact nofun

/-- `_invalidate` leaves `available` alone. -/
theorem invalidate_available (S : MediaPlayer) (available : Bool) :
    { S with available := available }.invalidate
      = ({ S.invalidate.1 with available := available }, S.invalidate.2) := by
  unfold invalidate
  cases hl : S.statusListener with
  | none => rfl
  | some l =>
    simp only
    split
    · rfl
    · split <;> rfl

/-- `_async_disconnect` does not raise. -/
theorem Wired.disconnect_eq (h : S.Wired) :
    S.disconnect = ({ S with available := false }.invalidate.1, [.updateHaState]) := by
  have heq := invalidate_available S false
  have hraises : S.invalidate.2 = false := by
    rw [← (h.unavailable.invalidate rfl).1, heq]
  rw [heq]
  unfold disconnect
  simp only [hraises]
  rfl

theorem Wired.forward_disconnects (h : S.Wired) (now : DateTime) {c : StatusCallback}
    (hc : c.Disconnects) :
    S.forward now c = ({ S with available := false }.invalidate.1, [.updateHaState]) := by
  rw [MediaPlayer.forward_disconnects S now hc, (h.unavailable.invalidate rfl).1]
  rfl

theorem Wired.step (h : S.Wired) {e : PlayerEvent} (he : S.Orderly e) : (S.step e).1.Wired := by
  cases e with
  | callback l now c =>
    simp only [MediaPlayer.step]
    split
    · next hl =>
      by_cases hc : c.Disconnects
      · rw [h.forward_disconnects now hc]
        exact (h.unavailable.invalidate rfl).2.1
      · refine h.of_same (sameWiring_forward S now hc) ?_
        rw [(h.valid l).mp hl]
        exact Option.some_ne_none l
    · exact h
  | connected loaded =>
    obtain ⟨rfl, hnone⟩ := he
    simp only [MediaPlayer.step, stepLoop, connect]
    split
    · exact h
    · refine ⟨fun l => ?_, rfl, rfl, fun l hl => ?_, fun l hl => ?_,
        fun hnone => absurd hnone (Option.some_ne_none _), fun c hc => ?_⟩
      · show l ∈ insert S.connections S.valid ↔ some S.connections = some l
        rw [Finset.mem_insert, h.valid, hnone]
        simp [eq_comm]
      · obtain rfl := Option.some.inj hl
        show S.isAudioGroup = true ∨
          S.connections ∈ if S.isAudioGroup then S.registered else insert S.connections S.registered
        cases hgroup : S.isAudioGroup with
        | true => exact .inl rfl
        | false => exact .inr (by simp)
      · exact (Option.some.inj hl).symm.trans_lt (Nat.lt_succ_self _)
      · have hcontroller : S.hassCastController = none := (h.blank hnone).hassCastController
        exact absurd (hc.symm.trans hcontroller) (Option.some_ne_none c)
  | connectResumes castStatus mediaStatus =>
    simp only [MediaPlayer.step]
    split
    · unfold connectResumes
      simp only
      split
      · exact ⟨h.valid, h.chromecast, h.mzMgr, h.registered, h.bounded,
          fun hnone => { h.blank hnone with available := rfl }, h.controller⟩
      · next hc =>
        exact ⟨h.valid, h.chromecast, h.mzMgr, h.registered, h.bounded,
          fun hnone => absurd hnone (h.listener_of_chromecast hc), h.controller⟩
    · exact h
  | disconnected =>
    simp only [MediaPlayer.step, stepLoop]
    split
    · exact h
    · rw [h.disconnect_eq]
      exact (h.unavailable.invalidate rfl).2.1
  | rediscovered isAudioGroup =>
    have hsame : { S with isAudioGroup := isAudioGroup } = S := by
      rw [show isAudioGroup = S.isAudioGroup from he]
    simp only [MediaPlayer.step, stepLoop, hsame]
    split <;> exact h
  | showView data entityId viewPath urlPath =>
    simp only [MediaPlayer.step, handleSignalShowView]
    split
    · exact h
    · split
      · exact h
      · exact h
      · next connection hc _ =>
        refine ⟨h.valid, h.chromecast, h.mzMgr, h.registered, h.bounded,
          fun hnone => absurd hnone (h.listener_of_chromecast hc), fun c hcontroller => ?_⟩
        obtain rfl := Option.some.inj hcontroller
        exact h.chromecast.symm.trans hc
  | unregister =>
    simp only [MediaPlayer.step, unregister]
    split
    · exact ⟨h.valid, h.chromecast, h.mzMgr, h.registered, h.bounded,
        fun hnone => { h.blank hnone with hassCastController := rfl },
        fun c hc => absurd hc.symm (Option.some_ne_none c)⟩
    · exact h

/-- The parts of a connection come and go together in every orderly run. -/
theorem wired_run (uuid : UUID) (entityId : String) (isAudioGroup : Bool) {run : List PlayerEvent}
    (hrun : Machine.Along step Orderly (create uuid entityId isAudioGroup) run) :
    (Machine.final step (create uuid entityId isAudioGroup) run).Wired :=
  Machine.final_of_along (fun _ _ h he => h.step he) (wired_create uuid entityId isAudioGroup) hrun

/-! ## What is shown without a connection -/

theorem currentStatus_of_blank (h : S.Blank) : S.currentStatus = (none, none) := by
  unfold currentStatus knownGroup
  rw [h.mediaStatus, h.mediaStatusReceived, h.groups]
  rfl

theorem attributes_of_blank (h : S.Blank) (hc : S.chromecast = none) (C : Chromecast)
    (mediaSource : Bool) :
    S.attributes C mediaSource =
      { volumeLevel := S.volumeLevel
        isVolumeMuted := S.isVolumeMuted
        supportedFeatures :=
          [.playMedia, .turnOff, .turnOn] ++ if mediaSource then [.browseMedia] else [] } := by
  have hcurrent := currentStatus_of_blank h
  have hlovelace : S.showsLovelace C = false := by simp [showsLovelace, appId, hc]
  simp [attributes, state, appId, appName, mediaContentId, mediaContentType, mediaDuration,
    mediaImageUrl, mediaTitle, mediaArtist, mediaAlbumName, mediaAlbumArtist, mediaTrack,
    mediaSeriesTitle, mediaSeason, mediaEpisode, mediaPosition, mediaPositionUpdatedAt,
    supportedFeatures, ofMedia, ofStatus, hcurrent, hlovelace, hc, h.available, h.castStatus]

/-- **Without a connection nothing is shown** but the volume, in any orderly run. -/
theorem blank_without_connection (uuid : UUID) (entityId : String) (isAudioGroup : Bool)
    {run : List PlayerEvent}
    (hrun : Machine.Along step Orderly (create uuid entityId isAudioGroup) run)
    (hc : (Machine.final step (create uuid entityId isAudioGroup) run).chromecast = none)
    (C : Chromecast) (mediaSource : Bool) :
    (Machine.final step (create uuid entityId isAudioGroup) run).attributes C mediaSource =
      { volumeLevel := (Machine.final step (create uuid entityId isAudioGroup) run).volumeLevel
        isVolumeMuted := (Machine.final step (create uuid entityId isAudioGroup) run).isVolumeMuted
        supportedFeatures :=
          [.playMedia, .turnOff, .turnOn] ++ if mediaSource then [.browseMedia] else [] } := by
  have hwired := wired_run uuid entityId isAudioGroup hrun
  exact attributes_of_blank (hwired.blank (hwired.chromecast ▸ hc)) hc C mediaSource

/-- A run in which a speaker connects and loses its connection. -/
def lost : List PlayerEvent :=
  [.connected true, .connectResumes (some {}) none,
    .callback 0 5 (.newConnectionStatus "CONNECTED" (some [])),
    .callback 0 6 (.newConnectionStatus "DISCONNECTED" (some []))]

theorem blank_without_connection_lost :
    (Machine.final step (create ⟨1⟩ "media_player.speaker" false) lost).attributes netflix true
      = { supportedFeatures := [.playMedia, .turnOff, .turnOn, .browseMedia] } :=
  blank_without_connection ⟨1⟩ "media_player.speaker" false (by decide) (by decide)
    netflix true

/-! ## Features -/

theorem play_mem_supportedFeatures {C : Chromecast} {mediaSource : Bool} :
    .play ∈ S.supportedFeatures C mediaSource ↔
      S.showsLovelace C = false ∧ S.currentStatus.1.isSome = true := by
  unfold supportedFeatures
  cases S.showsLovelace C <;> cases S.currentStatus.1 <;> cases mediaSource <;> simp

theorem nextTrack_mem_supportedFeatures {C : Chromecast} {mediaSource : Bool} :
    .nextTrack ∈ S.supportedFeatures C mediaSource ↔
      S.showsLovelace C = false ∧
        S.currentStatus.1.any CastMediaStatus.supportsQueueNext = true := by
  unfold supportedFeatures
  cases S.showsLovelace C <;> cases mediaSource <;> simp

theorem seek_mem_supportedFeatures {C : Chromecast} {mediaSource : Bool} :
    .seek ∈ S.supportedFeatures C mediaSource ↔
      S.showsLovelace C = false ∧ S.currentStatus.1.any CastMediaStatus.supportsSeek = true := by
  unfold supportedFeatures
  cases S.showsLovelace C <;> cases mediaSource <;> simp

/-- A status is only there while the device is connected. -/
theorem Wired.chromecast_of_currentStatus (h : S.Wired) (hsome : S.currentStatus.1.isSome = true) :
    ∃ l, S.chromecast = some l := by
  cases hc : S.chromecast with
  | some l => exact ⟨l, rfl⟩
  | none =>
    rw [currentStatus_of_blank (h.blank (h.chromecast ▸ hc))] at hsome
    cases hsome

theorem Wired.managed (h : S.Wired) : S.Managed := by
  unfold Managed
  rw [h.chromecast, h.mzMgr]
  exact id

/-- **A flagged feature works**: where playback is flagged, the commands go to the source whose
status is shown if `pychromecast` finds its media controller, and that source supports the other
commands that are flagged. -/
theorem flagged_features_work (uuid : UUID) (entityId : String) (isAudioGroup : Bool)
    {run : List PlayerEvent}
    (hrun : Machine.Along step Orderly (create uuid entityId isAudioGroup) run)
    {C : Chromecast} {mediaSource : Bool}
    (hS : Machine.final step (create uuid entityId isAudioGroup) run = S)
    (hplay : .play ∈ S.supportedFeatures C mediaSource) :
    ∃ source status, S.Shows source ∧ (S.heardFrom source).1 = some status ∧
      (∀ M : MediaControllers, M.find source = .ok true → ∀ func command,
        S.send M func command = M.deliver source func command) ∧
      (.nextTrack ∈ S.supportedFeatures C mediaSource ↔ status.supportsQueueNext = true) ∧
      (.seek ∈ S.supportedFeatures C mediaSource ↔ status.supportsSeek = true) := by
  have hwired : S.Wired := hS ▸ wired_run uuid entityId isAudioGroup hrun
  obtain ⟨hlovelace, hsome⟩ := play_mem_supportedFeatures.mp hplay
  obtain ⟨l, hl⟩ := hwired.chromecast_of_currentStatus hsome
  obtain ⟨status, hstatus⟩ := Option.isSome_iff_exists.mp hsome
  obtain ⟨source, hsource⟩ := exists_shows S
  refine ⟨source, status, hsource, ?_, fun M hfinds func command => ?_, ?_, ?_⟩
  · rw [← currentStatus_of_shows hsource, hstatus]
  · exact (reaches_of_shows hsource hwired.managed).delivers M func command (by rw [hl]; rfl) hfinds
  · rw [nextTrack_mem_supportedFeatures, hstatus, Option.any_some, hlovelace]
    exact and_iff_right rfl
  · rw [seek_mem_supportedFeatures, hstatus, Option.any_some, hlovelace]
    exact and_iff_right rfl

theorem flagged_features_work_groupPlays :
    ∃ source status,
      (Machine.final step (create ⟨1⟩ "media_player.speaker" false) groupPlays).Shows source ∧
      ((Machine.final step (create ⟨1⟩ "media_player.speaker" false) groupPlays).heardFrom source).1
        = some status ∧
      (∀ M : MediaControllers, M.find source = .ok true → ∀ func command,
        (Machine.final step (create ⟨1⟩ "media_player.speaker" false) groupPlays).send M func
          command
          = M.deliver source func command) ∧
      (.nextTrack ∈ (Machine.final step (create ⟨1⟩ "media_player.speaker" false)
        groupPlays).supportedFeatures netflix true ↔ status.supportsQueueNext = true) ∧
      (.seek ∈ (Machine.final step (create ⟨1⟩ "media_player.speaker" false)
        groupPlays).supportedFeatures netflix true ↔ status.supportsSeek = true) :=
  flagged_features_work ⟨1⟩ "media_player.speaker" false (by decide) rfl
    (by decide)

/-! ## State updates -/

/-- What a step does without a state update: it starts a connection, finishes one that is lost
already, or changes nothing but the controller of Home Assistant Cast. -/
inductive SilentStep (S T : MediaPlayer) : Prop
  | kept (controller : Option HassCastController)
      (eq : T = { S with hassCastController := controller })
  | started (starting : S.starting = false) (starting' : T.starting = true)
      (chromecast : T.chromecast.isSome = true)
  | lost (starting : S.starting = true) (chromecast : S.chromecast = none)

theorem SilentStep.refl (S : MediaPlayer) : SilentStep S S := .kept S.hassCastController rfl

/-- A forwarded callback changes nothing without a state update. -/
theorem Wired.silent_forward (h : S.Wired) (now : DateTime) {c : StatusCallback}
    (hc : S.Orderly (.callback l now c)) (hsilent : .updateHaState ∉ (S.forward now c).2) :
    (S.forward now c).1 = S := by
  cases c with
  | newConnectionStatus status groups =>
    by_cases hstatus : status = CONNECTION_STATUS_DISCONNECTED
    · have hc' : (StatusCallback.newConnectionStatus status groups).Disconnects := hstatus
      rw [h.forward_disconnects now hc'] at hsilent
      exact absurd (List.mem_singleton_self _) hsilent
    · obtain ⟨groups, rfl⟩ := Option.isSome_iff_exists.mp hc
      simp only [forward, newConnectionStatus, if_neg hstatus] at hsilent ⊢
      split at hsilent
      · next hsame => rw [if_pos hsame]
      · split at hsilent
        · exact absurd (List.mem_append_right _ (List.mem_singleton_self _)) hsilent
        · exact absurd (List.mem_singleton_self _) hsilent
  | newCastStatus status => exact absurd (List.mem_singleton_self _) hsilent
  | newMediaStatus status =>
    exact absurd (List.mem_append_right _ (List.mem_singleton_self _)) hsilent
  | loadMediaFailed queueItemId errorCode => rfl
  | multizoneNewMediaStatus group status => exact absurd (List.mem_singleton_self _) hsilent

theorem Wired.silent_step (h : S.Wired) {e : PlayerEvent} (he : S.Orderly e)
    (hsilent : .updateHaState ∉ (S.step e).2) : SilentStep S (S.step e).1 := by
  cases e with
  | callback l now c =>
    simp only [MediaPlayer.step] at hsilent ⊢
    split
    · next hl =>
      rw [if_pos hl] at hsilent
      rw [h.silent_forward now he hsilent]
      exact .refl S
    · exact .refl S
  | connected loaded =>
    obtain ⟨rfl, -⟩ := he
    simp only [MediaPlayer.step, stepLoop, connect]
    split
    · exact .refl S
    · next hstarting => exact .started (by simpa using hstarting) rfl rfl
  | connectResumes castStatus mediaStatus =>
    simp only [MediaPlayer.step, connectResumes] at hsilent ⊢
    split
    · next hstarting =>
      simp only [hstarting, if_true] at hsilent
      cases hc : S.chromecast with
      | none => exact .lost hstarting hc
      | some l =>
        simp only [hc] at hsilent
        exact absurd (List.mem_singleton_self _) hsilent
    · exact .refl S
  | disconnected =>
    simp only [MediaPlayer.step, stepLoop, h.disconnect_eq] at hsilent ⊢
    split
    · exact .refl S
    · next hstarting =>
      rw [if_neg hstarting] at hsilent
      exact absurd (List.mem_singleton_self _) hsilent
  | rediscovered isAudioGroup =>
    have hsame : { S with isAudioGroup := isAudioGroup } = S := by
      rw [show isAudioGroup = S.isAudioGroup from he]
    simp only [MediaPlayer.step, stepLoop, hsame]
    split <;> exact .refl S
  | showView data entityId viewPath urlPath =>
    simp only [MediaPlayer.step, handleSignalShowView]
    split
    · exact .refl S
    · split
      · exact .refl S
      · exact .refl S
      · exact .kept _ rfl
  | unregister =>
    simp only [MediaPlayer.step, unregister]
    split
    · exact .kept _ rfl
    · exact .refl S

/-- **What the entity shows changes only with a state update**: a run without one, from a state of
an orderly run in which no connection is starting to another such state, leaves every property as
it was. -/
theorem silent_run_shows_same (uuid : UUID) (entityId : String) (isAudioGroup : Bool)
    {before run : List PlayerEvent}
    (hrun : Machine.Along step Orderly (create uuid entityId isAudioGroup) (before ++ run))
    (hS : Machine.final step (create uuid entityId isAudioGroup) before = S)
    (hstarting : S.starting = false) (hend : (Machine.final step S run).starting = false)
    (hsilent : .updateHaState ∉ Machine.emitted step S run) (C : Chromecast) (mediaSource : Bool) :
    (Machine.final step S run).attributes C mediaSource = S.attributes C mediaSource := by
  obtain ⟨hbefore, hafter⟩ := (Machine.along_append _ _ _).mp hrun
  rw [hS] at hafter
  have hwired : S.Wired := hS ▸ wired_run uuid entityId isAudioGroup hbefore
  -- until it ends, a silent run shows the same or is starting a connection
  have hfinal := Machine.final_of_along
    (P := fun T => T.Wired ∧ (T.starting = false ∧
      T.attributes C mediaSource = S.attributes C mediaSource ∨
        T.starting = true ∧ T.chromecast.isSome = true))
    (fun T e hT he => ?_) ⟨hwired, .inl ⟨hstarting, rfl⟩⟩
    (Machine.along_and_notMem hafter hsilent)
  · rcases hfinal.2 with ⟨-, h⟩ | ⟨h, -⟩
    · exact h
    · rw [hend] at h
      cases h
  · obtain ⟨hT, hshown⟩ := hT
    refine ⟨hT.step he.1, ?_⟩
    cases hT.silent_step he.1 he.2 with
    | kept controller heq =>
      rw [heq]
      exact hshown
    | started _ hstarting' hc => exact .inr ⟨hstarting', hc⟩
    | lost hstarting' hnone =>
      rcases hshown with ⟨h, -⟩ | ⟨-, h⟩
      · rw [hstarting'] at h
        cases h
      · rw [hnone] at h
        cases h

/-- A run that hears nothing new: the views of Home Assistant Cast, and a lost callback. -/
def quiet : List PlayerEvent :=
  [.showView ⟨"https://home", "id", none, "token"⟩ "media_player.speaker" "lovelace" none,
    .callback 7 9 (.newMediaStatus none), .unregister]

theorem silent_run_shows_same_quiet :
    (Machine.final step (Machine.final step (create ⟨1⟩ "media_player.speaker" false) groupPlays)
        quiet).attributes netflix true
      = (Machine.final step (create ⟨1⟩ "media_player.speaker" false) groupPlays).attributes
          netflix true := by
  have hemitted : Machine.emitted step
      (Machine.final step (create ⟨1⟩ "media_player.speaker" false) groupPlays) quiet
      = [.registerHandler ⟨⟨"https://home", "id", none, "token"⟩, 0⟩,
        .showLovelaceView ⟨⟨"https://home", "id", none, "token"⟩, 0⟩ "lovelace" none,
        .unregisterHandler ⟨⟨"https://home", "id", none, "token"⟩, 0⟩] := rfl
  exact silent_run_shows_same ⟨1⟩ "media_player.speaker" false (by decide) rfl (by decide)
    (by decide) (by rw [hemitted]; simp) netflix true

/-! ## Controllers of Home Assistant Cast -/

/-- What an output does to the controllers of one connection. -/
def handlerEvent (n : ℕ) : PlayerOutput → Option (Slot.Event HassCastController)
  | .registerHandler c => if c.connection = n then some (.opened c) else none
  | .unregisterHandler c => if c.connection = n then some (.closed c) else none
  | _ => none

/-- What the chromecast of a connection has registered, as far as the entity goes. -/
structure Holds (n : ℕ) (S : MediaPlayer) (held : Option HassCastController) : Prop where
  current : S.chromecast = some n → held = S.hassCastController
  coming : S.connections ≤ n → held = none

/-- Steps that neither connect nor register a controller leave what a chromecast has. -/
theorem Holds.of_kept {n : ℕ} {T : MediaPlayer} {held : Option HassCastController}
    (h : Holds n S held) (hconnections : S.connections ≤ T.connections)
    (hc : T.chromecast = none ∨ T.chromecast = S.chromecast ∧
      T.hassCastController = S.hassCastController) : Holds n T held where
  current hn := by
    rcases hc with hc | ⟨hc, hcontroller⟩
    · exact nomatch hc.symm.trans hn
    · rw [hcontroller]
      exact h.current (hc.symm.trans hn)
  coming hn := h.coming (hconnections.trans hn)

theorem handlerEvent_eq_none {n : ℕ} {os : List PlayerOutput}
    (h : ∀ o ∈ os, o = .updateHaState ∨ ∃ op, o = .ledger op) :
    os.filterMap (handlerEvent n) = [] := by
  rw [List.filterMap_eq_nil_iff]
  intro o ho
  rcases h o ho with rfl | ⟨op, rfl⟩ <;> rfl

theorem outputs_pollGroups (S : MediaPlayer) (now : DateTime)
    (groups : List (String × Option (Option CastMediaStatus))) :
    ∀ o ∈ (S.pollGroups now groups).2, o = .updateHaState := by
  induction groups generalizing S with
  | nil => exact fun o ho => absurd ho List.not_mem_nil
  | cons e groups ih =>
    obtain ⟨group, _ | status⟩ := e
    · exact ih S
    · intro o ho
      rcases List.mem_append.mp ho with ho | ho
      · exact List.mem_singleton.mp ho
      · exact ih _ o ho

theorem outputs_forward (S : MediaPlayer) (now : DateTime) (c : StatusCallback) :
    ∀ o ∈ (S.forward now c).2, o = .updateHaState ∨ ∃ op, o = .ledger op := by
  intro o ho
  by_cases hc : c.Disconnects
  · rw [MediaPlayer.forward_disconnects S now hc] at ho
    split at ho
    · cases ho
    · exact .inl (List.mem_singleton.mp ho)
  · cases c with
    | newCastStatus status => exact .inl (List.mem_singleton.mp ho)
    | newMediaStatus status =>
      rcases List.mem_append.mp ho with ho | ho
      · obtain ⟨status, -, rfl⟩ := List.mem_map.mp ho
        exact .inr ⟨_, rfl⟩
      · exact .inl (List.mem_singleton.mp ho)
    | loadMediaFailed queueItemId errorCode => exact .inr ⟨_, List.mem_singleton.mp ho⟩
    | newConnectionStatus status groups =>
      simp only [forward, newConnectionStatus, if_neg (show ¬ status = _ from hc)] at ho
      split at ho
      · cases ho
      · split at ho
        · cases groups with
          | none => cases ho
          | some groups =>
            rcases List.mem_append.mp ho with ho | ho
            · exact .inl (outputs_pollGroups _ now groups o ho)
            · exact .inl (List.mem_singleton.mp ho)
        · exact .inl (List.mem_singleton.mp ho)
    | multizoneNewMediaStatus group status => exact .inl (List.mem_singleton.mp ho)

/-- One event takes the controllers of a chromecast along a path. -/
theorem Wired.path_step (h : S.Wired) {e : PlayerEvent} (he : S.Orderly e) {n : ℕ}
    {held : Option HassCastController} (hheld : Holds n S held) :
    ∃ held', Slot.Path held ((S.step e).2.filterMap (handlerEvent n)) held' ∧
      Holds n (S.step e).1 held' := by
  have hconnections := connections_step S e
  cases e with
  | callback l now c =>
    simp only [MediaPlayer.step] at hconnections ⊢
    split
    · next hl =>
      rw [if_pos hl] at hconnections
      rw [handlerEvent_eq_none (outputs_forward S now c)]
      refine ⟨held, .nil held, hheld.of_kept hconnections ?_⟩
      by_cases hc : c.Disconnects
      · rw [h.forward_disconnects now hc]
        exact .inl (chromecast_invalidate _)
      · have same := sameWiring_forward S now hc
        exact .inr ⟨same.chromecast, same.hassCastController⟩
    · exact ⟨held, .nil held, hheld⟩
  | connected loaded =>
    obtain ⟨rfl, hnone⟩ := he
    simp only [MediaPlayer.step, stepLoop, connect]
    split
    · exact ⟨held, .nil held, hheld⟩
    · refine ⟨held, .nil held, fun hn => ?_, fun hn => hheld.coming ((Nat.le_succ _).trans hn)⟩
      -- a new connection has nothing registered yet
      have hconnection : S.connections = n := Option.some.inj hn
      rw [hheld.coming hconnection.le]
      exact (h.blank hnone).hassCastController.symm
  | connectResumes castStatus mediaStatus =>
    simp only [MediaPlayer.step, connectResumes]
    split
    · split <;> exact ⟨held, .nil held, hheld.of_kept (Nat.le_refl _) (.inr ⟨rfl, rfl⟩)⟩
    · exact ⟨held, .nil held, hheld⟩
  | disconnected =>
    simp only [MediaPlayer.step, stepLoop, h.disconnect_eq] at hconnections ⊢
    split
    · exact ⟨held, .nil held, hheld⟩
    · next hstarting =>
      rw [if_neg hstarting] at hconnections
      exact ⟨held, .nil held, hheld.of_kept hconnections (.inl (chromecast_invalidate _))⟩
  | rediscovered isAudioGroup =>
    simp only [MediaPlayer.step, stepLoop]
    split <;> exact ⟨held, .nil held, hheld.of_kept (Nat.le_refl _) (.inr ⟨rfl, rfl⟩)⟩
  | showView data entityId viewPath urlPath =>
    simp only [MediaPlayer.step, handleSignalShowView]
    split
    · exact ⟨held, .nil held, hheld⟩
    · split
      · exact ⟨held, .nil held, hheld⟩
      · exact ⟨held, .nil held, hheld⟩
      · next connection hc hnone =>
        have hbounded : connection < S.connections := h.bounded connection (h.chromecast ▸ hc)
        by_cases hn : connection = n
        · subst hn
          have hfree : held = none := (hheld.current hc).trans hnone
          subst hfree
          refine ⟨some ⟨data, connection⟩, ?_, fun _ => rfl, fun hle => ?_⟩
          · simpa [handlerEvent, List.filterMap_cons] using
              Slot.Path.opened (.nil (some (⟨data, connection⟩ : HassCastController)))
          · exact absurd hbounded (not_lt.mpr hle)
        · refine ⟨held, ?_, fun hcurrent => ?_, hheld.coming⟩
          · simpa [handlerEvent, List.filterMap_cons, hn] using Slot.Path.nil held
          · exact absurd (Option.some.inj (hc.symm.trans hcurrent)) hn
  | unregister =>
    simp only [MediaPlayer.step, unregister]
    split
    · next c connection hcontroller hc =>
      have hconnection : connection = c.connection :=
        Option.some.inj (hc.symm.trans (h.chromecast.trans (h.controller c hcontroller)))
      by_cases hn : c.connection = n
      · have hsome : held = some c :=
          (hheld.current (by rw [hc, hconnection, hn])).trans hcontroller
        subst hsome
        refine ⟨none, ?_, fun _ => rfl, fun _ => rfl⟩
        simpa [handlerEvent, hn] using Slot.Path.closed (.nil none)
      · refine ⟨held, ?_, fun hcurrent => ?_, hheld.coming⟩
        · simpa [handlerEvent, hn] using Slot.Path.nil held
        · exact absurd (hconnection.symm.trans (Option.some.inj (hc.symm.trans hcurrent))) hn
    · exact ⟨held, .nil held, hheld⟩

/-- **At most one controller is registered with a chromecast** at a time: in an orderly run, the
controllers of every connection are registered and unregistered in turn. -/
theorem handlers_alternate (uuid : UUID) (entityId : String) (isAudioGroup : Bool)
    {run : List PlayerEvent}
    (hrun : Machine.Along step Orderly (create uuid entityId isAudioGroup) run) (n : ℕ) :
    ∃ last, Slot.Path none
      ((Machine.emitted step (create uuid entityId isAudioGroup) run).filterMap (handlerEvent n))
      last := by
  have hpath : ∀ (run : List PlayerEvent) (S : MediaPlayer) (held : Option HassCastController),
      S.Wired → Holds n S held → Machine.Along step Orderly S run →
      ∃ last, Slot.Path held ((Machine.emitted step S run).filterMap (handlerEvent n)) last := by
    intro run
    induction run with
    | nil => exact fun _ held _ _ _ => ⟨held, .nil held⟩
    | cons e run ih =>
      intro S held hS hheld hrun
      obtain ⟨held', hfirst, hheld'⟩ := hS.path_step hrun.1 hheld
      obtain ⟨last, hrest⟩ := ih _ held' (hS.step hrun.1) hheld' hrun.2
      rw [Machine.emitted_cons, List.filterMap_append]
      exact ⟨last, hfirst.append hrest⟩
  exact hpath run _ none (wired_create uuid entityId isAudioGroup) ⟨nofun, fun _ => rfl⟩ hrun

theorem handlers_alternate_quiet :
    ∃ last, Slot.Path none
      ((Machine.emitted step (create ⟨1⟩ "media_player.speaker" false)
        (groupPlays ++ quiet)).filterMap (handlerEvent 0)) last :=
  handlers_alternate ⟨1⟩ "media_player.speaker" false (by decide) 0

end MediaPlayer
end CastDelivery
