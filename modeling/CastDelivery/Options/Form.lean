import CastDelivery.Health.Ledger
import CastDelivery.Options.Overrides
import CastDelivery.Urls.Override

/-!
# The form of the overrides

What the form `url_overrides` offers: the devices that the running entry knows, and the keys of the
overrides that are stored. An entry is created without options, so every override that is stored was
submitted in this form.

`offered_options`: after any flows, each of these is offered once, an override shows next to its
key, and choosing a device or a key without a URL takes exactly the override under it away.
-/

namespace CastDelivery

/-! ## The entry -/

/-- `_get_data`. -/
def getData (knownHosts : Option (List String)) : Dict String ConfValue :=
  (((∅ : Dict String ConfValue).set CONF_IGNORE_CEC (.strings [])).set CONF_KNOWN_HOSTS
    (.strings (knownHosts.getD []))).set CONF_UUID (.strings [])

/-- A submission of `FlowHandler` that creates the entry. -/
inductive ConfigForm
  /-- `async_step_config`. -/
  | config (knownHosts : Option (List String))
  /-- `async_step_confirm`. -/
  | confirm

/-- The entry that `FlowHandler` creates. -/
def ConfigForm.entry : ConfigForm → ConfigEntry
  | config knownHosts => ⟨getData (some (trimItems (knownHosts.getD []))), ∅⟩
  | confirm => ⟨getData none, ∅⟩

/-! ## What is offered -/

/-- `SelectOptionDict`. -/
structure SelectOption where
  value : String
  label : String
deriving DecidableEq, Repr

/-- `runtime.ledger.devices.values()`, where the entry runs. -/
def knownDevices (ledger : Option DeliveryLedger) : List DeviceHealth :=
  (ledger.map fun ledger => ledger.devices.dict.values).getD []

/-- `_device_label`. -/
def deviceLabel (ledger : Option DeliveryLedger) (uuid : String) : String :=
  match (knownDevices ledger).find? fun health =>
      health.uuid.str = uuid && strOr health.name "" ≠ "" with
  | some health => strOr health.name "" ++ " (" ++ strOr health.host "no address" ++ ")"
  | none => uuid

/-- `uuids.setdefault(uuid, uuid)`. -/
def setDefault (uuids : Dict String String) (uuid : String) : Dict String String :=
  match uuids.get? uuid with
  | some _ => uuids
  | none => uuids.set uuid uuid

/-- The labels of the devices in `_device_options`. -/
def deviceLabels (ledger : Option DeliveryLedger) (overrides : Dict String String) :
    Dict String String :=
  overrides.keys.foldl setDefault
    ((knownDevices ledger).foldl
      (fun uuids health => uuids.set health.uuid.str (deviceLabel ledger health.uuid.str)) ∅)

/-- The option of a device. -/
def selectOption (overrides : Dict String String) (device : String × String) : SelectOption where
  value := device.1
  label := match overrides.get? device.1 with
    | some url => device.2 ++ " [" ++ url ++ "]"
    | none => device.2

/-- `_device_options`, with `str.lower`. -/
def deviceOptions (lower : String → String) (ledger : Option DeliveryLedger)
    (overrides : Dict String String) : List SelectOption :=
  ((deviceLabels ledger overrides).entries.mergeSort
    fun a b => !decide (lower b.2 < lower a.2)).map (selectOption overrides)

/-- The flow after submissions of the form `url_overrides` that show the form again. -/
def OptionsFlow.resubmit : OptionsFlow → List OverrideForm → Option OptionsFlow
  | flow, [] => some flow
  | flow, form :: forms =>
    match flow.asyncStepUrlOverrides form with
    | .form flow _ => flow.resubmit forms
    | .createEntry _ => none

/-- The flow without the override under a key. -/
def OptionsFlow.without (flow : OptionsFlow) (key : String) : OptionsFlow :=
  { flow with
    options := flow.options.set CONF_URL_OVERRIDES
      (.overrides ((storedOverrides flow.options).erase key)) }

/-- What a form with these options is good for. A device is offered under its uuid in the usual
spelling, and an override under the key that it is stored under, which is the text that was typed:
an override that was typed in another spelling is offered beside its device. -/
structure Offers (ledger : Option DeliveryLedger) (flow : OptionsFlow)
    (options : List SelectOption) : Prop where
  nodup : (options.map SelectOption.value).Nodup
  /-- The devices that the entry knows, and the keys of the overrides. -/
  mem : ∀ key, key ∈ options.map SelectOption.value ↔
    key ∈ (storedOverrides flow.options).keys ∨
      ∃ health ∈ knownDevices ledger, health.uuid.str = key
  /-- An override shows next to its key. -/
  shows : ∀ option ∈ options, ∀ url,
    (storedOverrides flow.options).get? option.value = some url →
      ∃ label, option.label = label ++ " [" ++ url ++ "]"
  /-- Without a URL, the override under the key that is chosen is taken away, and no other. -/
  clears : ∀ option ∈ options, ∀ (url : Option String) (addAnother : Bool),
    strip (url.getD "") = "" →
      flow.asyncStepUrlOverrides ⟨option.value, url, addAnother⟩ =
        if addAnother then .form (flow.without option.value) false
        else .createEntry (flow.without option.value).asyncFinish

/-! ## Stripped keys -/

theorem last_strip (text : String) : ∀ c ∈ (strip text).toList.getLast?, isSpace c = false := by
  intro c hc
  unfold strip at hc
  rw [String.toList_ofList, List.getLast?_reverse] at hc
  have hnot := List.head?_dropWhile_not isSpace (text.toList.dropWhile isSpace).reverse
  rw [Option.mem_def.mp hc] at hnot
  exact hnot

theorem strip_strip (text : String) : strip (strip text) = strip text := by
  have h := strip_eq_self (head_strip text) (last_strip text)
  rwa [String.ofList_toList] at h

theorem strip_str (u : UUID) : strip u.str = u.str := by
  have hdigit : ∀ n < 16, isSpace (Nat.digitChar n) = false := by decide
  have hspace : ∀ c ∈ u.str.toList, isSpace c = false := by
    intro c hc
    unfold UUID.str at hc
    rw [String.toList_ofList, List.mem_flatMap] at hc
    obtain ⟨k, -, hk⟩ := hc
    have hc : c = '-' ∨ c = u.digit k := by
      split at hk
      · simpa using hk
      · exact .inr (List.mem_singleton.mp hk)
    rcases hc with rfl | rfl
    · decide
    · exact hdigit _ (Nat.mod_lt _ (by decide))
  have h := strip_eq_self (fun c hc => hspace c (List.mem_of_mem_head? hc))
    (fun c hc => hspace c (List.mem_of_mem_getLast? hc))
  rwa [String.ofList_toList] at h

/-- The keys of the overrides have no spaces around them. -/
def StrippedKeys (overrides : Dict String String) : Prop := ∀ key ∈ overrides.keys, strip key = key

theorem StrippedKeys.afterEdit {overrides : Dict String String} (h : StrippedKeys overrides)
    (form : OverrideForm) : StrippedKeys (afterEdit overrides form) := by
  unfold CastDelivery.afterEdit editOverrides
  simp only
  split
  · intro key hkey
    rw [Option.getD_some, Dict.keys_erase] at hkey
    exact h key (List.mem_filter.mp hkey).1
  · cases normalizeOverride (strip (form.url.getD "")) with
    | none => exact h
    | some base =>
      intro key hkey
      rw [Option.map_some, Option.getD_some, Dict.mem_keys_set] at hkey
      rcases hkey with rfl | hkey
      · exact strip_strip form.device
      · exact h key hkey

theorem StrippedKeys.foldl_afterEdit {overrides : Dict String String} (h : StrippedKeys overrides)
    (forms : List OverrideForm) : StrippedKeys (forms.foldl CastDelivery.afterEdit overrides) := by
  induction forms generalizing overrides with
  | nil => exact h
  | cons form forms ih => exact ih (h.afterEdit form)

theorem storedOverrides_resubmit {flow flow' : OptionsFlow} {forms : List OverrideForm}
    (h : flow.resubmit forms = some flow') :
    storedOverrides flow'.options = forms.foldl afterEdit (storedOverrides flow.options) := by
  induction forms generalizing flow with
  | nil =>
    cases h
    rfl
  | cons form forms ih =>
    rw [OptionsFlow.resubmit, OptionsFlow.asyncStepUrlOverrides] at h
    rw [List.foldl_cons, afterEdit]
    cases hedit : editOverrides (storedOverrides flow.options) form with
    | none =>
      rw [hedit] at h
      exact ih h
    | some overrides =>
      have hstored : storedOverrides (flow.options.set CONF_URL_OVERRIDES (.overrides overrides)) =
          overrides := by
        unfold storedOverrides
        rw [Dict.get?_set_self]
      rw [hedit] at h
      simp only at h
      cases hanother : form.addAnother with
      | true =>
        rw [hanother, if_pos rfl] at h
        rw [ih h, hstored]
        rfl
      | false =>
        rw [hanother, if_neg Bool.false_ne_true] at h
        cases h

theorem storedOverrides_asyncStepInit {entry : ConfigEntry} {form : InitForm}
    {health : Dict String ConfValue} (h : (form.health.getD {}).validate = some health) :
    storedOverrides (entry.asyncStepInit form health).1.options
      = storedOverrides entry.options := by
  obtain ⟨-, -, hkeys⟩ := validate_eq h
  unfold storedOverrides
  rw [get?_asyncStepInit, if_neg (by decide), hkeys]
  rfl

/-! ## What is offered after any flows -/

theorem mem_keys_setDefault (uuids : Dict String String) (uuid key : String) :
    key ∈ (setDefault uuids uuid).keys ↔ key = uuid ∨ key ∈ uuids.keys := by
  unfold setDefault
  cases hget : uuids.get? uuid with
  | some label =>
    have hmem : uuid ∈ uuids.keys := (Dict.mem_keys uuids uuid).mpr (by rw [hget]; rfl)
    constructor
    · exact .inr
    · rintro (rfl | hkey)
      · exact hmem
      · exact hkey
  | none => exact Dict.mem_keys_set uuids uuid key uuid

theorem mem_keys_foldl_setDefault (keys : List String) (uuids : Dict String String) (key : String) :
    key ∈ (keys.foldl setDefault uuids).keys ↔ key ∈ keys ∨ key ∈ uuids.keys := by
  induction keys generalizing uuids with
  | nil => simp
  | cons uuid keys ih =>
    rw [List.foldl_cons, ih, mem_keys_setDefault, List.mem_cons]
    tauto

/-- The devices that are labelled. -/
theorem mem_keys_deviceLabels (ledger : Option DeliveryLedger) (overrides : Dict String String)
    (uuid : String) : uuid ∈ (deviceLabels ledger overrides).keys ↔
      uuid ∈ overrides.keys ∨ ∃ health ∈ knownDevices ledger, health.uuid.str = uuid := by
  unfold deviceLabels
  rw [mem_keys_foldl_setDefault, Dict.mem_keys_foldl_set, List.mem_map]
  have hempty : uuid ∉ (∅ : Dict String String).keys := List.not_mem_nil
  rw [or_iff_left hempty]

theorem values_deviceOptions (lower : String → String) (ledger : Option DeliveryLedger)
    (overrides : Dict String String) :
    ((deviceOptions lower ledger overrides).map SelectOption.value).Perm
      (deviceLabels ledger overrides).keys := by
  have hvalue : SelectOption.value ∘ selectOption overrides = Prod.fst := rfl
  unfold deviceOptions
  rw [List.map_map, hvalue]
  exact (List.mergeSort_perm _ _).map Prod.fst

theorem offers {lower : String → String} {ledger : Option DeliveryLedger} {flow : OptionsFlow}
    (h : StrippedKeys (storedOverrides flow.options)) :
    Offers ledger flow (deviceOptions lower ledger (storedOverrides flow.options)) := by
  have hperm := values_deviceOptions lower ledger (storedOverrides flow.options)
  have hmem (uuid : String) := hperm.mem_iff.trans
    (mem_keys_deviceLabels ledger (storedOverrides flow.options) uuid)
  refine ⟨hperm.nodup_iff.mpr (Dict.nodup _), hmem, ?_, ?_⟩
  · intro option hoption url hurl
    obtain ⟨device, -, rfl⟩ := List.mem_map.mp hoption
    refine ⟨device.2, ?_⟩
    have hurl' : (storedOverrides flow.options).get? device.1 = some url := hurl
    simp only [selectOption, hurl']
  · intro option hoption url addAnother hurl
    have hstrip : strip option.value = option.value := by
      rcases (hmem option.value).mp (List.mem_map_of_mem hoption) with hkey | ⟨health, -, hstr⟩
      · exact h option.value hkey
      · rw [← hstr]
        exact strip_str health.uuid
    unfold OptionsFlow.asyncStepUrlOverrides editOverrides
    simp only [hurl, hstrip, if_true]
    rfl

/-- **Every override can be taken away in the form**: after any flows, and in the middle of one, the
form offers the devices that are known and the keys of the overrides, each once, and taking away the
override under the key that is chosen leaves the others as they are. -/
theorem offered_options (lower : String → String) (ledger : Option DeliveryLedger)
    {created : ConfigForm} {visits : List Visit} {entry : ConfigEntry}
    (hvisits : runVisits visits created.entry = some entry) {form : InitForm}
    {health : Dict String ConfValue} (hhealth : (form.health.getD {}).validate = some health)
    {forms : List OverrideForm} {flow : OptionsFlow}
    (hforms : (entry.asyncStepInit form health).1.resubmit forms = some flow) :
    Offers ledger flow (deviceOptions lower ledger (storedOverrides flow.options)) := by
  have hcreated : StrippedKeys (storedOverrides created.entry.options) := by
    cases created <;> exact fun key hkey => absurd hkey List.not_mem_nil
  refine offers ?_
  rw [storedOverrides_resubmit hforms, storedOverrides_asyncStepInit hhealth,
    storedOverrides_runVisits hvisits]
  exact (hcreated.foldl_afterEdit _).foldl_afterEdit _

/-- A visit in which the uuid of a speaker is typed. -/
def typedVisits : List Visit := [editVisit [typedOverride]]

/-- The form that is submitted without a change. -/
def plainForm : InitForm := {}

/-- The same speaker as the form offers it, with a base. -/
def chosenOverride : OverrideForm where
  device := "00000000-0000-0000-0000-00000000000a"
  url := some "http://10.0.0.6:8123"
  addAnother := true

/-- A ledger that knows the speaker. -/
def speakerLedger : DeliveryLedger :=
  DeliveryLedger.asyncUpdateIdentity (.bare 0) {} ⟨10⟩ none (some "Kitchen") (some "10.0.0.9")
    (some 8009) true

theorem offered_options_typed :
    ∃ entry health flow, runVisits typedVisits ConfigForm.confirm.entry = some entry ∧
      (plainForm.health.getD {}).validate = some health ∧
      (entry.asyncStepInit plainForm health).1.resubmit [chosenOverride] = some flow ∧
      Offers (some speakerLedger) flow
        (deviceOptions id (some speakerLedger) (storedOverrides flow.options)) := by
  obtain ⟨entry, hentry⟩ : ∃ entry, runVisits typedVisits ConfigForm.confirm.entry = some entry :=
    Option.isSome_iff_exists.mp (by decide)
  obtain ⟨health, hhealth⟩ : ∃ health, (plainForm.health.getD {}).validate = some health :=
    ⟨_, rfl⟩
  obtain ⟨flow, hflow⟩ :
      ∃ flow, (entry.asyncStepInit plainForm health).1.resubmit [chosenOverride] = some flow :=
    ⟨_, rfl⟩
  exact ⟨entry, health, flow, hentry, hhealth, hflow,
    offered_options id (some speakerLedger) hentry hhealth hflow⟩

end CastDelivery
