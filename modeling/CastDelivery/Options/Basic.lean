import CastDelivery.Lib.Json
import CastDelivery.Probe.Breaker
import CastDelivery.Urls.Stored

/-!
# The options flow

`CastOptionsFlowHandler` of `config_flow.py`, over the data and the options of the config entry, and
`probe_options` of `coordinator.py`, which reads the options.

A flow collects `_data` and `_options` and writes both in one update when it is done. A visit is a
flow from its first form to the update: one submission of the form `init` and, if it asks for
them, the submissions of the form `url_overrides`.
-/

namespace CastDelivery

/-! ## Entries -/

/-- A value in the data or in the options of an entry. -/
inductive ConfValue
  | bool (value : Bool)
  | int (value : Int)
  | strings (items : List String)
  /-- The value of `url_overrides`. -/
  | overrides (value : Dict String String)
  /-- A value that this integration does not write. -/
  | other (value : Json)

namespace ConfValue

/-- `bool(value)`. -/
def truthy : ConfValue → Bool
  | bool value => value
  | int value => value ≠ 0
  | strings items => !items.isEmpty
  | overrides value => !value.entries.isEmpty
  | other value => value.truthy

/-- `int(value)`, unless it raises. -/
def toInt : ConfValue → Option Int
  | bool value => some (if value then 1 else 0)
  | int value => some value
  | other (.bool value) => some (if value then 1 else 0)
  | other (.num value) => some (value.num.tdiv value.den)
  | other (.str value) => Numeral.int 10 value.toList
  | strings _ | overrides _ | other _ => none

/-- The state of a checkbox that shows the value. -/
def asBool : ConfValue → Option Bool
  | bool value => some value
  | _ => none

/-- The content of a number field that shows the value. -/
def asNumber : ConfValue → Option ℚ
  | int value => some value
  | other (.num value) => some value
  | _ => none

/-- The items of a list field that shows the value. -/
def asStrings : ConfValue → Option (List String)
  | strings items => some items
  | _ => none

end ConfValue

def CONF_KNOWN_HOSTS : String := "known_hosts"

def CONF_IGNORE_CEC : String := "ignore_cec"

def CONF_UUID : String := "uuid"

def CONF_PROBE_ENABLED : String := "probe_enabled"

def CONF_PROBE_INTERVAL : String := "probe_interval"

def CONF_GROUP_PROBE_ENABLED : String := "group_probe_enabled"

def CONF_PROBE_VIDEO_DEVICES : String := "probe_video_devices"

def CONF_URL_OVERRIDES : String := "url_overrides"

def CONF_EDIT_URL_OVERRIDES : String := "edit_url_overrides"

/-- The largest interval that `HEALTH_SCHEMA` accepts, in seconds. -/
def MAX_PROBE_INTERVAL : ℕ := 3600

/-- `HEALTH_DEFAULTS`. -/
def HEALTH_DEFAULTS : Dict String ConfValue where
  entries :=
    [(CONF_PROBE_ENABLED, .bool DEFAULT_PROBE_ENABLED),
      (CONF_PROBE_INTERVAL, .int DEFAULT_PROBE_INTERVAL),
      (CONF_GROUP_PROBE_ENABLED, .bool DEFAULT_GROUP_PROBE_ENABLED),
      (CONF_PROBE_VIDEO_DEVICES, .bool DEFAULT_PROBE_VIDEO_DEVICES)]
  nodup := by decide

/-- A config entry. -/
structure ConfigEntry where
  data : Dict String ConfValue
  options : Dict String ConfValue

/-- `options.get(CONF_URL_OVERRIDES) or {}`, of options with a dictionary there. -/
def storedOverrides (options : Dict String ConfValue) : Dict String String :=
  match options.get? CONF_URL_OVERRIDES with
  | some (.overrides value) => value
  | _ => ∅

namespace ConfigEntry

variable (entry : ConfigEntry)

/-- `url_overrides(entry)`. -/
def urlOverrides : Dict UUID String := CastDelivery.urlOverrides (storedOverrides entry.options)

/-- `probe_options(entry)`, unless it raises. -/
def probeOptions : Option ProbeOptions :=
  let options := HEALTH_DEFAULTS.update entry.options
  (options.get? CONF_PROBE_ENABLED).bind fun enabled =>
  (options.get? CONF_PROBE_INTERVAL).bind fun interval =>
  (options.get? CONF_GROUP_PROBE_ENABLED).bind fun groups =>
  (options.get? CONF_PROBE_VIDEO_DEVICES).bind fun video =>
  interval.toInt.map fun interval =>
    { enabled := enabled.truthy
      interval := max interval.toNat MIN_PROBE_INTERVAL
      groups := groups.truthy
      video := video.truthy
      floor := Nat.le_max_right _ _ }

end ConfigEntry

/-! ## Forms -/

/-- The section `health` of the form, with the fields that are filled in. -/
structure HealthForm where
  probeEnabled : Option Bool := none
  probeInterval : Option ℚ := none
  groupProbeEnabled : Option Bool := none
  probeVideoDevices : Option Bool := none
  editUrlOverrides : Option Bool := none

/-- `HEALTH_SCHEMA`, unless it raises: missing fields get their defaults. -/
def HealthForm.validate (form : HealthForm) : Option (Dict String ConfValue) :=
  let interval := form.probeInterval.getD DEFAULT_PROBE_INTERVAL
  if MIN_PROBE_INTERVAL ≤ interval ∧ interval ≤ MAX_PROBE_INTERVAL then
    some (((((Dict.empty.set CONF_PROBE_ENABLED
        (.bool (form.probeEnabled.getD DEFAULT_PROBE_ENABLED))).set CONF_PROBE_INTERVAL
        (.int interval.floor)).set CONF_GROUP_PROBE_ENABLED
        (.bool (form.groupProbeEnabled.getD DEFAULT_GROUP_PROBE_ENABLED))).set
          CONF_PROBE_VIDEO_DEVICES
        (.bool (form.probeVideoDevices.getD DEFAULT_PROBE_VIDEO_DEVICES))).set
          CONF_EDIT_URL_OVERRIDES
        (.bool (form.editUrlOverrides.getD false)))
  else none

/-- The form `init`, with the fields that are filled in. -/
structure InitForm where
  knownHosts : Option (List String) := none
  ignoreCec : Option (List String) := none
  uuid : Option (List String) := none
  health : Option HealthForm := none

/-- The form `url_overrides`. -/
structure OverrideForm where
  device : String
  url : Option String := none
  addAnother : Bool := false

/-- `_trim_items`. -/
def trimItems (items : List String) : List String :=
  (items.filter fun item => strip item ≠ "").map strip

/-- The values that the form `init` shows. -/
structure Suggested where
  knownHosts : Option ConfValue
  moreOptions : Dict String ConfValue
  health : Dict String ConfValue

namespace ConfigEntry

variable (entry : ConfigEntry)

/-- A key of the entry's data, if it is there, among the suggested values. -/
def suggestData (suggested : Dict String ConfValue) (key : String) : Dict String ConfValue :=
  match entry.data.get? key with
  | some value => suggested.set key value
  | none => suggested

/-- `async_step_init()`, the values it suggests. -/
def suggested : Suggested where
  knownHosts := entry.data.get? CONF_KNOWN_HOSTS
  moreOptions := [CONF_UUID, CONF_IGNORE_CEC].foldl entry.suggestData ∅
  health := HEALTH_DEFAULTS.entries.foldl
    (fun health default => health.set default.1 ((entry.options.get? default.1).getD default.2)) ∅

end ConfigEntry

/-- The form with the values that it shows. -/
def Suggested.form (shown : Suggested) : InitForm where
  knownHosts := shown.knownHosts.bind ConfValue.asStrings
  ignoreCec := (shown.moreOptions.get? CONF_IGNORE_CEC).bind ConfValue.asStrings
  uuid := (shown.moreOptions.get? CONF_UUID).bind ConfValue.asStrings
  health := some
    { probeEnabled := (shown.health.get? CONF_PROBE_ENABLED).bind ConfValue.asBool
      probeInterval := (shown.health.get? CONF_PROBE_INTERVAL).bind ConfValue.asNumber
      groupProbeEnabled := (shown.health.get? CONF_GROUP_PROBE_ENABLED).bind ConfValue.asBool
      probeVideoDevices := (shown.health.get? CONF_PROBE_VIDEO_DEVICES).bind ConfValue.asBool }

/-! ## `CastOptionsFlowHandler` -/

/-- `CastOptionsFlowHandler`, after the form `init`. -/
structure OptionsFlow where
  /-- `_data`. -/
  data : Dict String ConfValue
  /-- `_options`. -/
  options : Dict String ConfValue

/-- How `async_step_url_overrides` answers a submission. -/
inductive FlowResult
  /-- The form is shown again, with or without an error. -/
  | form (flow : OptionsFlow) (error : Bool)
  /-- The entry is updated. -/
  | createEntry (entry : ConfigEntry)

/-- What `async_step_url_overrides` makes of the overrides, unless the URL is invalid. -/
def editOverrides (overrides : Dict String String) (form : OverrideForm) :
    Option (Dict String String) :=
  let device := strip form.device
  let raw := strip (form.url.getD "")
  if raw = "" then some (overrides.erase device)
  else (normalizeOverride raw).map fun base => overrides.set device base

namespace OptionsFlow

variable (flow : OptionsFlow)

/-- `_async_finish`. -/
def asyncFinish : ConfigEntry := ⟨flow.data, flow.options⟩

/-- `async_step_url_overrides(user_input)`. -/
def asyncStepUrlOverrides (form : OverrideForm) : FlowResult :=
  match editOverrides (storedOverrides flow.options) form with
  | none => .form flow true
  | some overrides =>
    let flow : OptionsFlow :=
      { flow with options := flow.options.set CONF_URL_OVERRIDES (.overrides overrides) }
    if form.addAnother then .form flow false else .createEntry flow.asyncFinish

/-- The submissions of the form `url_overrides`, until the last of them updates the entry. -/
def submitOverrides : OptionsFlow → List OverrideForm → Option ConfigEntry
  | _, [] => none
  | flow, form :: forms =>
    match flow.asyncStepUrlOverrides form with
    | .form flow _ => submitOverrides flow forms
    | .createEntry entry => if forms = [] then some entry else none

end OptionsFlow

/-- `async_step_init(user_input)`, with the section `health` as the schema returns it: the flow, and
whether it goes on to the overrides. -/
def ConfigEntry.asyncStepInit (entry : ConfigEntry) (form : InitForm)
    (health : Dict String ConfValue) : OptionsFlow × Bool :=
  let data := ((entry.data.set CONF_IGNORE_CEC (.strings (trimItems (form.ignoreCec.getD [])))).set
    CONF_KNOWN_HOSTS (.strings (trimItems (form.knownHosts.getD [])))).set
    CONF_UUID (.strings (trimItems (form.uuid.getD [])))
  let editOverrides := (health.get? CONF_EDIT_URL_OVERRIDES).any ConfValue.truthy
  (⟨data, entry.options.update (health.erase CONF_EDIT_URL_OVERRIDES)⟩, editOverrides)

/-- A completed options flow: what was submitted in its forms. -/
structure Visit where
  form : InitForm
  overrides : List OverrideForm := []

/-- The entry after a visit, unless the visit cannot take place. -/
def Visit.run (visit : Visit) (entry : ConfigEntry) : Option ConfigEntry :=
  ((visit.form.health.getD {}).validate).bind fun health =>
    let step := entry.asyncStepInit visit.form health
    if step.2 then step.1.submitOverrides visit.overrides
    else if visit.overrides = [] then some step.1.asyncFinish
    else none

end CastDelivery
