import CastDelivery.Topology.Basic

/-!
# Filling out a discovery record

`fill_out_missing_chromecast_info` of `helpers.py`, which `discover_chromecast` calls with each
record of the browser: the cast type and the manufacturer come from the cache of unknown models or
over HTTP, and the flag of a dynamic group over HTTP. `fillsOut_iff` has the records for which the
result keeps what is known, is complete and does not change when it is filled out again.
-/

namespace CastDelivery

/-- `ChromecastInfo` with the services that its device answers on. -/
@[ext]
structure ChromecastRecord (Services : Type*) extends DiscoveryRecord where
  services : Services
deriving DecidableEq, Repr

/-- A cast type and a manufacturer. -/
abbrev CastDetails := Option String × Option String

/-- `unknown_models`. -/
abbrev UnknownModels := Dict (Option String) CastDetails

/-- The answers of the HTTP queries in `pychromecast.dial`. -/
structure DialAnswers (Services : Type*) where
  /-- The details that `get_cast_type` adds to a `CastInfo`. -/
  castDetails : Services → CastInfo → CastDetails
  /-- The dynamic groups of `get_multizone_status`, unless it returns `None`. -/
  dynamicGroups : Services → Option (List (Option UUID))

/-- A `CastInfo` with other details. -/
def CastInfo.withDetails (info : CastInfo) (details : CastDetails) : CastInfo :=
  { info with
    castType := details.1
    manufacturer := details.2 }

namespace DialAnswers

variable {Services : Type*} (A : DialAnswers Services)

/-- `dial.get_cast_type`. -/
def getCastType (services : Services) (info : CastInfo) : CastInfo :=
  info.withDetails (A.castDetails services info)

/-- The first half of `fill_out_missing_chromecast_info`: the `cast_info` and the cache. -/
def fillDetails (unknownModels : UnknownModels) (info : ChromecastRecord Services) :
    CastInfo × UnknownModels :=
  if info.castInfo.castType = none ∨ info.castInfo.manufacturer = none then
    match unknownModels.get? info.castInfo.modelName with
    | none =>
      let castInfo := A.getCastType info.services info.castInfo
      (castInfo,
        unknownModels.set info.castInfo.modelName (castInfo.castType, castInfo.manufacturer))
    | some details => (info.castInfo.withDetails details, unknownModels)
  else (info.castInfo, unknownModels)

/-- Whether the group itself is among the dynamic groups it answers with. -/
def answersDynamic (info : ChromecastRecord Services) : Bool :=
  match A.dynamicGroups info.services with
  | none => false
  | some groups => groups.any fun group => group = some info.uuid

/-- `fill_out_missing_chromecast_info`, with the cache that it leaves. -/
def fillOut (unknownModels : UnknownModels) (info : ChromecastRecord Services) :
    ChromecastRecord Services × UnknownModels :=
  let filled := A.fillDetails unknownModels info
  let isDynamicGroup :=
    -- the record as it came is asked, not the details that were filled in
    if info.isAudioGroup = false ∨ info.isDynamicGroup ≠ none then none
    else some (A.answersDynamic info)
  ({ services := info.services, castInfo := filled.1, isDynamicGroup := isDynamicGroup }, filled.2)

/-! ## What is to be filled out -/

/-- The details that stand for a model: those of the cache, or else the answer of the device. -/
def details (unknownModels : UnknownModels) (info : ChromecastRecord Services) : CastDetails :=
  (unknownModels.get? info.castInfo.modelName).getD (A.castDetails info.services info.castInfo)

/-- mDNS did not tell the cast type or the manufacturer. -/
def LacksDetails (info : ChromecastRecord Services) : Prop :=
  info.castInfo.castType = none ∨ info.castInfo.manufacturer = none

/-- Details that contradict nothing that is known of the device. -/
structure Extends (found : CastDetails) (info : CastInfo) : Prop where
  castType : ∀ castType, info.castType = some castType → found.1 = some castType
  manufacturer : ∀ manufacturer, info.manufacturer = some manufacturer →
    found.2 = some manufacturer

/-- The result keeps what is known. -/
structure Keeps (info result : ChromecastRecord Services) : Prop where
  uuid : result.castInfo.uuid = info.castInfo.uuid
  services : result.services = info.services
  host : result.castInfo.host = info.castInfo.host
  port : result.castInfo.port = info.castInfo.port
  modelName : result.castInfo.modelName = info.castInfo.modelName
  friendlyName : result.castInfo.friendlyName = info.castInfo.friendlyName
  details : Extends (result.castInfo.castType, result.castInfo.manufacturer) info.castInfo
  isDynamicGroup : ∀ isDynamic, info.isDynamicGroup = some isDynamic →
    result.isDynamicGroup = some isDynamic

/-- `fill_out_missing_chromecast_info` fills out what is missing and nothing else. -/
structure FillsOut (unknownModels : UnknownModels) (info : ChromecastRecord Services) : Prop where
  keeps : Keeps info (A.fillOut unknownModels info).1
  complete : (A.fillOut unknownModels info).1.isAudioGroup = true →
    (A.fillOut unknownModels info).1.isDynamicGroup ≠ none
  /-- The second time it has the cache that the first time left. -/
  idempotent : (A.fillOut (A.fillOut unknownModels info).2 (A.fillOut unknownModels info).1).1 =
    (A.fillOut unknownModels info).1

/-- The record is of a device that is no group and whose details agree with what is known. -/
structure Fillable (unknownModels : UnknownModels) (info : ChromecastRecord Services) :
    Prop where
  notFlagged : info.isDynamicGroup = none
  notGroup : info.castInfo.castType ≠ some CAST_TYPE_GROUP
  agrees : LacksDetails info → Extends (A.details unknownModels info) info.castInfo
  staysDevice : LacksDetails info →
    (A.details unknownModels info).1 ≠ some CAST_TYPE_GROUP

section

variable {A} {unknownModels : UnknownModels} {info : ChromecastRecord Services}

/-! ## The details -/

theorem fillDetails_of_known (h : ¬ LacksDetails info) :
    A.fillDetails unknownModels info = (info.castInfo, unknownModels) := if_neg h

theorem fillDetails_of_cached {found : CastDetails} (h : LacksDetails info)
    (hcached : unknownModels.get? info.castInfo.modelName = some found) :
    A.fillDetails unknownModels info = (info.castInfo.withDetails found, unknownModels) := by
  unfold fillDetails
  rw [hcached]
  exact if_pos h

theorem fillDetails_of_fetched (h : LacksDetails info)
    (hcached : unknownModels.get? info.castInfo.modelName = none) :
    A.fillDetails unknownModels info =
      (info.castInfo.withDetails (A.castDetails info.services info.castInfo),
        unknownModels.set info.castInfo.modelName
          (A.castDetails info.services info.castInfo)) := by
  unfold fillDetails
  rw [hcached]
  exact if_pos h

theorem details_of_cached {found : CastDetails}
    (hcached : unknownModels.get? info.castInfo.modelName = some found) :
    A.details unknownModels info = found := by
  unfold details
  rw [hcached]
  rfl

theorem details_of_fetched (hcached : unknownModels.get? info.castInfo.modelName = none) :
    A.details unknownModels info = A.castDetails info.services info.castInfo := by
  unfold details
  rw [hcached]
  rfl

theorem fst_fillDetails (h : LacksDetails info) :
    (A.fillDetails unknownModels info).1 =
      info.castInfo.withDetails (A.details unknownModels info) := by
  cases hcached : unknownModels.get? info.castInfo.modelName with
  | none => rw [fillDetails_of_fetched h hcached, details_of_fetched hcached]
  | some found => rw [fillDetails_of_cached h hcached, details_of_cached hcached]

/-- Details that were missing are in the cache afterwards. -/
theorem get?_snd_fillDetails (h : LacksDetails info) :
    (A.fillDetails unknownModels info).2.get? info.castInfo.modelName =
      some (A.details unknownModels info) := by
  cases hcached : unknownModels.get? info.castInfo.modelName with
  | none =>
    rw [fillDetails_of_fetched h hcached, details_of_fetched hcached]
    exact Dict.get?_set_self _ _ _
  | some found =>
    rw [fillDetails_of_cached h hcached, details_of_cached hcached]
    exact hcached

/-- The second time the details are as the first time. -/
theorem fst_fillDetails_fillOut :
    (A.fillDetails (A.fillOut unknownModels info).2 (A.fillOut unknownModels info).1).1 =
      (A.fillOut unknownModels info).1.castInfo := by
  by_cases hlacks : LacksDetails info
  · have hinfo : (A.fillOut unknownModels info).1.castInfo =
        info.castInfo.withDetails (A.details unknownModels info) := fst_fillDetails hlacks
    by_cases hagain : LacksDetails (A.fillOut unknownModels info).1
    · -- the device did not tell them, and that is in the cache now
      have hcached : (A.fillOut unknownModels info).2.get?
          (A.fillOut unknownModels info).1.castInfo.modelName =
          some (A.details unknownModels info) := by
        rw [hinfo]
        exact get?_snd_fillDetails hlacks
      rw [fillDetails_of_cached hagain hcached, hinfo]
      rfl
    · rw [fillDetails_of_known hagain]
  · have hinfo : (A.fillOut unknownModels info).1.castInfo = info.castInfo := by
      show (A.fillDetails unknownModels info).1 = info.castInfo
      rw [fillDetails_of_known hlacks]
    have hagain : ¬ LacksDetails (A.fillOut unknownModels info).1 := by
      unfold LacksDetails at hlacks ⊢
      rw [hinfo]
      exact hlacks
    rw [fillDetails_of_known hagain]

/-! ## The flag -/

theorem isDynamicGroup_fillOut_of_group (hgroup : info.isAudioGroup = true)
    (hflag : info.isDynamicGroup = none) :
    (A.fillOut unknownModels info).1.isDynamicGroup = some (A.answersDynamic info) := by
  have hmissing : ¬ (info.isAudioGroup = false ∨ info.isDynamicGroup ≠ none) := by
    rintro (hdevice | hknown)
    · rw [hgroup] at hdevice
      cases hdevice
    · exact hknown hflag
  exact if_neg hmissing

/-- A flag that is known is dropped. -/
theorem isDynamicGroup_fillOut_of_flagged (hflag : info.isDynamicGroup ≠ none) :
    (A.fillOut unknownModels info).1.isDynamicGroup = none := if_pos (.inr hflag)

theorem isDynamicGroup_fillOut_of_device (hdevice : info.isAudioGroup = false) :
    (A.fillOut unknownModels info).1.isDynamicGroup = none := if_pos (.inl hdevice)

theorem isAudioGroup_iff : info.isAudioGroup = true ↔
    info.castInfo.castType = some CAST_TYPE_GROUP := decide_eq_true_iff

/-- Filling out again drops the flag of a group. -/
theorem not_idempotent_of_flagged (hflag : (A.fillOut unknownModels info).1.isDynamicGroup ≠ none) :
    (A.fillOut (A.fillOut unknownModels info).2 (A.fillOut unknownModels info).1).1 ≠
      (A.fillOut unknownModels info).1 := by
  intro hsame
  apply hflag
  rw [← hsame]
  exact isDynamicGroup_fillOut_of_flagged hflag

theorem fillable_of_fillsOut (h : A.FillsOut unknownModels info) :
    A.Fillable unknownModels info := by
  have hnotFlagged : info.isDynamicGroup = none := by
    cases hflag : info.isDynamicGroup with
    | none => rfl
    | some isDynamic =>
      have hkept := h.keeps.isDynamicGroup isDynamic hflag
      have hdropped : (A.fillOut unknownModels info).1.isDynamicGroup = none :=
        isDynamicGroup_fillOut_of_flagged (by rw [hflag]; exact nofun)
      rw [hdropped] at hkept
      cases hkept
  have hdropped : (A.fillOut unknownModels info).1.isDynamicGroup = none := by
    -- a flag would be gone the second time
    by_contra hflag
    exact not_idempotent_of_flagged hflag h.idempotent
  have hdevice : info.isAudioGroup = false := by
    by_contra hgroup
    rw [isDynamicGroup_fillOut_of_group (Bool.not_eq_false _ ▸ hgroup) hnotFlagged] at hdropped
    cases hdropped
  refine ⟨hnotFlagged, of_decide_eq_false hdevice, ?_, ?_⟩
  · intro hlacks
    have hkept := h.keeps.details
    have hinfo : (A.fillOut unknownModels info).1.castInfo =
        info.castInfo.withDetails (A.details unknownModels info) := fst_fillDetails hlacks
    rw [hinfo] at hkept
    exact hkept
  · intro hlacks hgroup
    apply h.complete _ hdropped
    rw [isAudioGroup_iff]
    show (A.fillDetails unknownModels info).1.castType = some CAST_TYPE_GROUP
    rw [fst_fillDetails hlacks]
    exact hgroup

theorem fillsOut_of_fillable (h : A.Fillable unknownModels info) :
    A.FillsOut unknownModels info := by
  have hdevice : info.isAudioGroup = false := decide_eq_false h.notGroup
  have hdropped : (A.fillOut unknownModels info).1.isDynamicGroup = none :=
    isDynamicGroup_fillOut_of_device hdevice
  have hfilled : (A.fillOut unknownModels info).1.castInfo = info.castInfo ∨
      LacksDetails info ∧ (A.fillOut unknownModels info).1.castInfo =
        info.castInfo.withDetails (A.details unknownModels info) := by
    by_cases hlacks : LacksDetails info
    · exact .inr ⟨hlacks, fst_fillDetails hlacks⟩
    · exact .inl (congrArg Prod.fst (fillDetails_of_known hlacks))
  have hstays : (A.fillOut unknownModels info).1.isAudioGroup = false := by
    apply decide_eq_false
    rcases hfilled with hinfo | ⟨hlacks, hinfo⟩
    · rw [hinfo]
      exact h.notGroup
    · rw [hinfo]
      exact h.staysDevice hlacks
  refine ⟨?_, ?_, ?_⟩
  · have hflag : ∀ isDynamic, info.isDynamicGroup = some isDynamic →
        (A.fillOut unknownModels info).1.isDynamicGroup = some isDynamic := by
      intro isDynamic hflagged
      rw [h.notFlagged] at hflagged
      cases hflagged
    rcases hfilled with hinfo | ⟨hlacks, hinfo⟩
    · refine ⟨?_, rfl, ?_, ?_, ?_, ?_, ⟨?_, ?_⟩, hflag⟩
      all_goals rw [hinfo]
      · exact fun castType hknown => hknown
      · exact fun manufacturer hknown => hknown
    · refine ⟨?_, rfl, ?_, ?_, ?_, ?_, ?_, hflag⟩
      all_goals rw [hinfo]
      iterate 5 exact rfl
      exact h.agrees hlacks
  · intro hgroup
    rw [hstays] at hgroup
    cases hgroup
  · have hagain : (A.fillOut (A.fillOut unknownModels info).2
        (A.fillOut unknownModels info).1).1.isDynamicGroup = none :=
      isDynamicGroup_fillOut_of_device hstays
    have hinfo : (A.fillOut (A.fillOut unknownModels info).2
        (A.fillOut unknownModels info).1).1.castInfo = (A.fillOut unknownModels info).1.castInfo :=
      fst_fillDetails_fillOut
    refine ChromecastRecord.ext hinfo ?_ rfl
    rw [hagain, hdropped]

end

/-- **A record is filled out without a loss exactly if** it is of a device, not of a group, and the
cache or the device tells nothing else than what is known. -/
theorem fillsOut_iff (unknownModels : UnknownModels) (info : ChromecastRecord Services) :
    A.FillsOut unknownModels info ↔ A.Fillable unknownModels info :=
  ⟨fillable_of_fillsOut, fillsOut_of_fillable⟩

/-- A device that answers with the details of a group. -/
def groupAnswers : DialAnswers (List String) where
  castDetails _ _ := (some CAST_TYPE_GROUP, some "Google Inc.")
  dynamicGroups _ := some [some ⟨1⟩]

/-- A dynamic group of a model that mDNS does not know. -/
def unknownGroup : ChromecastRecord (List String) where
  castInfo :=
    { uuid := ⟨1⟩
      modelName := some "Stereo Pair"
      friendlyName := some "Kitchen pair"
      host := some "192.168.1.20"
      port := 32123
      castType := none }
  services := ["Stereo-Pair-1._googlecast._tcp.local."]

/-- A group that is found out over HTTP is never asked for its dynamic groups. -/
theorem not_fillsOut : ¬ groupAnswers.FillsOut ∅ unknownGroup := by
  intro h
  exact h.complete rfl rfl

end DialAnswers

end CastDelivery
