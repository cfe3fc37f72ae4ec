import CastDelivery.Diagnostics
import CastDelivery.Health.DeviceStep

/-!
# What the diagnostics disclose

`undisclosed_iff`: the download is the same for another external URL if and only if no delivery
that was given the external URL is in the ledger, is the last record of a discovered device, or is
pending on one.

The keys that are redacted hide the URL itself. The content ids of the deliveries are under other
keys, and begin with it.
-/

namespace CastDelivery

/-! ## Another external URL -/

/-- `url`, which begins with the base `X`, on the base `X'`. -/
def onBase (X X' url : String) : String :=
  X' ++ String.ofList (url.toList.drop X.toList.length)

theorem onBase_ne {X X' url : String} (hne : X ≠ X') (h : startsWith url (X ++ "/") = true) :
    onBase X X' url ≠ url := by
  intro heq
  unfold startsWith at h
  obtain ⟨rest, hrest⟩ := List.isPrefixOf_iff_prefix.mp h
  rw [String.toList_append, List.append_assoc] at hrest
  have hlists := congrArg String.toList heq
  rw [onBase, String.toList_append, String.toList_ofList, ← hrest, List.drop_left] at hlists
  exact hne (String.toList_injective (List.append_cancel_right hlists)).symm

open Json

namespace DiagnosticsState

variable (D : DiagnosticsState) (X X' : String)

/-- The delivery was given the base `X`, and not as an override. -/
def Given (uuid : UUID) (contentId : String) : Bool :=
  startsWith contentId (X ++ "/") ∧ D.urlOverrides.get? uuid ≠ some X

/-- The content id of a delivery that was given `X`, on `X'`. -/
def rebase (uuid : UUID) (contentId : String) : String :=
  if D.Given X uuid contentId then onBase X X' contentId else contentId

def rebaseRecord (record : DeliveryRecord) : DeliveryRecord :=
  { record with contentId := record.contentId.map (D.rebase X X' record.uuid) }

def rebaseHealth (health : DeviceHealth) : DeviceHealth :=
  { health with
    lastRecord := health.lastRecord.map (D.rebaseRecord X X')
    pending := health.pending.map fun pending =>
      { pending with contentId := D.rebase X X' health.uuid pending.contentId } }

/-- The state with the external URL `X'` in the place of `X`. -/
def withExternal : DiagnosticsState :=
  { D with
    externalUrl := some X'
    ledger :=
      { D.ledger with
        records := D.ledger.records.map (D.rebaseRecord X X')
        devices := D.ledger.devices.map (D.rebaseHealth X X') fun _ => rfl } }

/-- No delivery that shows in the download was given `X`. -/
structure Hidden : Prop where
  records : ∀ record ∈ D.ledger.records, ∀ contentId, record.contentId = some contentId →
    D.Given X record.uuid contentId = false
  lastRecords : ∀ u ∈ D.discovered.keys, ∀ record, (D.ledger.health u).lastRecord = some record →
    ∀ contentId, record.contentId = some contentId → D.Given X record.uuid contentId = false
  pending : ∀ u ∈ D.discovered.keys, ∀ pending, (D.ledger.health u).pending = some pending →
    D.Given X u pending.contentId = false

variable {D X X'}

theorem rebase_eq_self_iff (hne : X ≠ X') (uuid : UUID) (contentId : String) :
    D.rebase X X' uuid contentId = contentId ↔ D.Given X uuid contentId = false := by
  unfold rebase
  split
  · next h =>
    refine iff_of_false (onBase_ne hne ?_) (by simp [h])
    unfold Given at h
    exact (of_decide_eq_true h).1
  · next h => simp [h]

/-! ## The refresh -/

/-- One step of the loop: the mismatch of one device is replaced. -/
theorem health_setMismatch (L : DeliveryLedger) (v u : UUID) (value : Option Bool) :
    ((L.device v).store { (L.device v).health v with subnetMismatch := value }).health u
      = if u = v then { L.health u with subnetMismatch := value } else L.health u := by
  rw [DeliveryLedger.health_store]
  simp only [DeliveryLedger.uuid_health, DeliveryLedger.health_device]
  split
  · next h => rw [h]
  · rfl

/-- What a turn of the loop makes of the health object of a device. -/
def mismatched (T : TopologyTracker) (d : UUID) (health : DeviceHealth)
    (entry : UUID × DiscoveryRecord) : DeviceHealth :=
  if d = entry.1 then { health with subnetMismatch := T.mismatchOf entry.2.castInfo.host }
  else health

section

variable {entries : List (UUID × DiscoveryRecord)} {d : UUID}

theorem foldl_mismatched_of_forall {T : TopologyTracker} (h : ∀ entry ∈ entries, entry.1 ≠ d)
    (health : DeviceHealth) : entries.foldl (mismatched T d) health = health := by
  induction entries with
  | nil => rfl
  | cons entry entries ih =>
    rw [List.foldl_cons]
    have hfirst : mismatched T d health entry = health :=
      if_neg fun hd => h entry List.mem_cons_self hd.symm
    rw [hfirst]
    exact ih fun e he => h e (List.mem_cons_of_mem _ he)

/-- The loop changes at most the mismatch of a device, to that of the address it was discovered
at. -/
theorem foldl_mismatched (T : TopologyTracker) (hnodup : (entries.map Prod.fst).Nodup)
    (health : DeviceHealth) :
    entries.foldl (mismatched T d) health =
      ((entries.find? fun entry => entry.1 = d).map Prod.snd).elim health fun info =>
        { health with subnetMismatch := T.mismatchOf info.castInfo.host } := by
  induction entries generalizing health with
  | nil => rfl
  | cons entry entries ih =>
    obtain ⟨hfirst, hrest⟩ := List.nodup_cons.mp hnodup
    rw [List.foldl_cons]
    by_cases hd : d = entry.1
    · -- no later entry is for the same device
      have hothers : ∀ other ∈ entries, other.1 ≠ d := by
        intro other hother hsame
        exact hfirst (hd ▸ hsame ▸ List.mem_map_of_mem hother)
      rw [foldl_mismatched_of_forall hothers, List.find?_cons_of_pos (by simpa using hd.symm)]
      exact if_pos hd
    · have hkeep : mismatched T d health entry = health := if_neg hd
      rw [hkeep, ih hrest, List.find?_cons_of_neg (by simpa using fun h => hd h.symm)]

end

/-- The refresh changes at most the subnet mismatch of a device, and to a value that the ledger
has no part in. -/
theorem health_applySubnetMismatch (T : TopologyTracker) (L : DeliveryLedger) (d : UUID) :
    (applySubnetMismatch T L).health d =
      (T.infos.get? d).elim (L.health d) fun info =>
        { L.health d with subnetMismatch := T.mismatchOf info.castInfo.host } := by
  have hloop (entries : List (UUID × DiscoveryRecord)) :
      (entries.foldl (fun L entry => (L.device entry.1).store
        { (L.device entry.1).health entry.1 with
          subnetMismatch := T.mismatchOf entry.2.castInfo.host }) L).health d =
        entries.foldl (mismatched T d) (L.health d) := by
    induction entries generalizing L with
    | nil => rfl
    | cons entry entries ih =>
      rw [List.foldl_cons, List.foldl_cons, ih]
      congr 1
      exact health_setMismatch L entry.1 d (T.mismatchOf entry.2.castInfo.host)
  exact (hloop _).trans (foldl_mismatched T T.infos.nodup (L.health d))

theorem records_applySubnetMismatch (T : TopologyTracker) (L : DeliveryLedger) :
    (applySubnetMismatch T L).records = L.records := by
  unfold applySubnetMismatch
  induction T.infos.entries generalizing L with
  | nil => rfl
  | cons entry entries ih =>
    rw [List.foldl_cons, ih]
    show (L.device entry.1).records = L.records
    unfold DeliveryLedger.device
    split <;> rfl

theorem health_withExternal (L : DeliveryLedger) (u : UUID) :
    DeliveryLedger.health
      { L with
        records := L.records.map (D.rebaseRecord X X')
        devices := L.devices.map (D.rebaseHealth X X') fun _ => rfl } u
      = D.rebaseHealth X X' (L.health u) :=
  DeviceTable.get_map (f := D.rebaseHealth X X') (u := u) L.devices (fun _ => rfl) rfl

theorem health_refreshedLedger_withExternal (u : UUID) :
    (D.withExternal X X').refreshedLedger.health u
      = D.rebaseHealth X X' (D.refreshedLedger.health u) := by
  have hrefreshed : (D.withExternal X X').refreshed = D.refreshed := rfl
  unfold refreshedLedger
  rw [hrefreshed]
  cases D.refreshed with
  | none => exact health_withExternal D.ledger u
  | some T =>
    simp only [health_applySubnetMismatch]
    cases T.infos.get? u with
    | none => exact health_withExternal D.ledger u
    | some info =>
      simp only [Option.elim_some]
      rw [show (D.withExternal X X').ledger.health u = _ from health_withExternal D.ledger u]
      rfl

theorem records_refreshedLedger : D.refreshedLedger.records = D.ledger.records := by
  unfold refreshedLedger
  cases D.refreshed with
  | none => rfl
  | some T => exact records_applySubnetMismatch T D.ledger

/-- The refresh leaves what a device was sent. -/
theorem health_refreshedLedger (u : UUID) :
    (D.refreshedLedger.health u).lastRecord = (D.ledger.health u).lastRecord ∧
      (D.refreshedLedger.health u).pending = (D.ledger.health u).pending := by
  unfold refreshedLedger
  cases D.refreshed with
  | none => exact ⟨rfl, rfl⟩
  | some T =>
    simp only [health_applySubnetMismatch]
    cases T.infos.get? u <;> exact ⟨rfl, rfl⟩

/-! ## What is hidden stays the same -/

theorem rebaseRecord_of_hidden {record : DeliveryRecord}
    (h : ∀ contentId, record.contentId = some contentId →
      D.Given X record.uuid contentId = false) : D.rebaseRecord X X' record = record := by
  obtain ⟨uuid, entityId, name, source, outcome, contentId, error⟩ := record
  cases contentId with
  | none => rfl
  | some contentId =>
    have hgiven : D.Given X uuid contentId = false := h contentId rfl
    simp [rebaseRecord, rebase, hgiven]

/-- The two states have the same entry for a device whose deliveries are hidden. -/
theorem rebaseHealth_of_hidden {health : DeviceHealth}
    (hlast : ∀ record, health.lastRecord = some record → ∀ contentId,
      record.contentId = some contentId → D.Given X record.uuid contentId = false)
    (hpending : ∀ pending, health.pending = some pending →
      D.Given X health.uuid pending.contentId = false) :
    D.rebaseHealth X X' health = health := by
  have hl : health.lastRecord.map (D.rebaseRecord X X') = health.lastRecord := by
    cases h : health.lastRecord with
    | none => rfl
    | some record => rw [Option.map_some, rebaseRecord_of_hidden (hlast record h)]
  have hp : (health.pending.map fun pending =>
      { pending with contentId := D.rebase X X' health.uuid pending.contentId })
        = health.pending := by
    cases h : health.pending with
    | none => rfl
    | some pending =>
      rw [Option.map_some]
      simp [rebase, hpending pending h]
  unfold rebaseHealth
  rw [hl, hp]

theorem rebaseHealth_refreshedLedger (hX : D.Hidden X) {u : UUID} (hu : u ∈ D.discovered.keys) :
    D.rebaseHealth X X' (D.refreshedLedger.health u) = D.refreshedLedger.health u := by
  obtain ⟨hlast, hpending⟩ := health_refreshedLedger (D := D) u
  apply rebaseHealth_of_hidden
  · intro record hrecord
    exact hX.lastRecords u hu record (hlast ▸ hrecord)
  · intro pending hp
    rw [DeliveryLedger.uuid_health]
    exact hX.pending u hu pending (hpending ▸ hp)

theorem deviceAsDict_withExternal (hX : D.Hidden X) {u : UUID} (hu : u ∈ D.discovered.keys)
    (info : DiscoveryRecord) :
    (D.withExternal X X').deviceAsDict u info = D.deviceAsDict u info := by
  unfold deviceAsDict
  rw [health_refreshedLedger_withExternal, rebaseHealth_refreshedLedger hX hu]
  rfl

theorem records_withExternal :
    (D.withExternal X X').refreshedLedger.records
      = D.refreshedLedger.records.map (D.rebaseRecord X X') := by
  rw [records_refreshedLedger, records_refreshedLedger]
  rfl

theorem records_withExternal_of_hidden (hX : D.Hidden X) :
    (D.withExternal X X').refreshedLedger.records = D.refreshedLedger.records := by
  rw [records_withExternal, records_refreshedLedger]
  have hsame : D.ledger.records.map (D.rebaseRecord X X') = D.ledger.records.map id :=
    List.map_congr_left fun record hrecord => rebaseRecord_of_hidden (hX.records record hrecord)
  rw [hsame, List.map_id]

/-- The two keys of the external URL are redacted. -/
theorem redact_urlsAsDict :
    (D.withExternal X X').urlsAsDict.redact TO_REDACT = D.urlsAsDict.redact TO_REDACT := by
  simp [urlsAsDict, redact, redactFields, redactField, TO_REDACT]
  exact ⟨rfl, rfl, rfl, rfl, rfl⟩

theorem diagnostics_of_hidden (hX : D.Hidden X) :
    (D.withExternal X X').diagnostics = D.diagnostics := by
  have hdevices : (D.discovered.entries.map fun entry =>
      (D.withExternal X X').deviceAsDict entry.1 entry.2)
        = D.discovered.entries.map fun entry => D.deviceAsDict entry.1 entry.2 :=
    List.map_congr_left fun entry hentry =>
      deviceAsDict_withExternal hX (List.mem_map_of_mem hentry) entry.2
  show Json.redact TO_REDACT (obj
    [("entry", D.entryAsDict), ("urls", (D.withExternal X X').urlsAsDict),
      ("network", ofOption TopologyTracker.asDict D.refreshed),
      ("devices", arr (D.discovered.entries.map fun entry =>
        (D.withExternal X X').deviceAsDict entry.1 entry.2)),
      ("groups", (D.refreshed.map TopologyTracker.groupsAsDict).getD (arr [])),
      ("ledger", arr ((D.withExternal X X').refreshedLedger.records.map DeliveryRecord.asDict)),
      ("registry_without_discovery", D.registryWithoutDiscovery),
      ("probe", D.probeAsDict), ("repairs", ofOption RepairState.asDict D.repairs)]) = _
  rw [hdevices, records_withExternal_of_hidden hX]
  unfold diagnostics data
  simp only [Json.redact, Json.redactFields, Json.redactField, redact_urlsAsDict]

/-! ## What is not hidden shows -/

theorem ofString_redact (s : Option String) : (ofString s).redact TO_REDACT = ofString s := by
  cases s <;> rfl

/-- A record shows its content id. -/
theorem field_contentId (record : DeliveryRecord) :
    (record.asDict.redact TO_REDACT).field "content_id" = ofString record.contentId := by
  rw [field_redact (by decide)]
  exact ofString_redact record.contentId

/-- A device shows the content id it waits for. -/
theorem field_pendingContentId (u : UUID) (info : DiscoveryRecord) :
    ((D.deviceAsDict u info).redact TO_REDACT).field "pending_content_id"
      = ofString ((D.refreshedLedger.health u).pending.map fun pending => pending.contentId) := by
  rw [field_redact (by decide)]
  exact ofString_redact _

/-- A device shows its last record. -/
theorem field_lastRecord (u : UUID) (info : DiscoveryRecord) :
    ((D.deviceAsDict u info).redact TO_REDACT).field "last_record"
      = (ofOption DeliveryRecord.asDict (D.refreshedLedger.health u).lastRecord).redact
          TO_REDACT := by
  rw [field_redact (by decide)]
  rfl

theorem items_ledger : (D.diagnostics.field "ledger").items
    = (D.refreshedLedger.records.map DeliveryRecord.asDict).map (Json.redact TO_REDACT) := by
  unfold diagnostics
  rw [field_redact (by decide), items_redact]
  rfl

theorem items_devices : (D.diagnostics.field "devices").items
    = (D.discovered.entries.map fun entry =>
        D.deviceAsDict entry.1 entry.2).map (Json.redact TO_REDACT) := by
  unfold diagnostics
  rw [field_redact (by decide), items_redact]
  rfl

/-- A record that shows the same content id was not given `X`. -/
theorem given_eq_false_of_record (hne : X ≠ X') {record : DeliveryRecord}
    (h : (D.rebaseRecord X X' record).asDict.redact TO_REDACT = record.asDict.redact TO_REDACT)
    {contentId : String} (hcontent : record.contentId = some contentId) :
    D.Given X record.uuid contentId = false := by
  have hfield := congrArg (Json.field "content_id") h
  rw [field_contentId, field_contentId] at hfield
  have hid := ofString_injective hfield
  rw [rebaseRecord, hcontent, Option.map_some] at hid
  exact (rebase_eq_self_iff hne record.uuid contentId).mp (Option.some.inj hid)

theorem hidden_of_diagnostics (hne : X ≠ X')
    (h : (D.withExternal X X').diagnostics = D.diagnostics) : D.Hidden X := by
  have hledger := congrArg (fun download => (download.field "ledger").items) h
  have hdevices := congrArg (fun download => (download.field "devices").items) h
  simp only [items_ledger, records_withExternal, List.map_map] at hledger
  simp only [items_devices, List.map_map] at hdevices
  have hdevice : ∀ u ∈ D.discovered.keys, ∃ info : DiscoveryRecord,
      ((D.withExternal X X').deviceAsDict u info).redact TO_REDACT
        = (D.deviceAsDict u info).redact TO_REDACT := by
    intro u hu
    obtain ⟨entry, hentry, rfl⟩ := List.mem_map.mp hu
    exact ⟨entry.2, List.map_inj_left.mp hdevices entry hentry⟩
  constructor
  -- each place that shows a content id is equal in the two downloads, so the base is not in it
  · intro record hrecord contentId hcontent
    have hshown := List.map_inj_left.mp hledger record (records_refreshedLedger ▸ hrecord)
    exact given_eq_false_of_record hne hshown hcontent
  · intro u hu record hrecord contentId hcontent
    obtain ⟨info, hinfo⟩ := hdevice u hu
    have hshown := congrArg (Json.field "last_record") hinfo
    rw [field_lastRecord, field_lastRecord, health_refreshedLedger_withExternal] at hshown
    rw [← (health_refreshedLedger u).1] at hrecord
    rw [rebaseHealth, hrecord] at hshown
    exact given_eq_false_of_record hne hshown hcontent
  · intro u hu pending hpending
    obtain ⟨info, hinfo⟩ := hdevice u hu
    have hshown := congrArg (Json.field "pending_content_id") hinfo
    rw [field_pendingContentId, field_pendingContentId,
      health_refreshedLedger_withExternal] at hshown
    rw [← (health_refreshedLedger u).2] at hpending
    have hid := ofString_injective hshown
    rw [rebaseHealth, hpending] at hid
    have huuid := DeliveryLedger.uuid_health D.refreshedLedger u
    rw [huuid] at hid
    exact (rebase_eq_self_iff hne u pending.contentId).mp (Option.some.inj hid)

/-! ## The download -/

variable (D) in
/-- Nothing in the download depends on the external URL. -/
def Undisclosed : Prop :=
  ∀ X, D.externalUrl = some X → ∀ X', X ≠ X' → (D.withExternal X X').diagnostics = D.diagnostics

theorem exists_ne (X : String) : ∃ X', X ≠ X' := by
  refine ⟨X ++ "/", fun h => ?_⟩
  have hlength := congrArg String.length h
  rw [String.length_append] at hlength
  have hone : "/".length = 1 := rfl
  omega

/-- Nothing in the download depends on the external URL if and only if no delivery that shows in
it was given that URL. -/
theorem undisclosed_iff :
    D.Undisclosed ↔ ∀ X, D.externalUrl = some X → D.Hidden X := by
  constructor
  · intro h X hX
    obtain ⟨X', hne⟩ := exists_ne X
    exact hidden_of_diagnostics hne (h X hX X' hne)
  · intro h X hX X' _
    exact diagnostics_of_hidden (h X hX)

/-! ## A delivery through the external URL -/

/-- The clocks and URLs of an instance that is reachable at `https://home.example.org`. -/
def externalEnv : Env :=
  { Env.bare 10 with
    internalUrl := some "http://192.168.1.10:8123"
    externalUrl := some "https://home.example.org" }

/-- A player was given a file under the external URL, and did not fetch it in time. -/
def externalPlay : DiagnosticsState where
  ledger :=
    let begun := (({} : DeliveryLedger).asyncBeginRequest externalEnv ⟨1⟩
      "https://home.example.org/local/bell.mp3" .playMedia none 30).1
    (begun.expire { externalEnv with monotonic := 40 * second } ⟨⟨1⟩, 0, 30⟩).1
  topology := none
  network := ⟨some [], none, some (some "192.168.1.10"), none⟩
  repairs := none
  coordinator := none
  registry := { devices := [] }
  entryData := []
  entryOptions := []
  version := 1
  internalUrl := some "http://192.168.1.10:8123"
  externalUrl := some "https://home.example.org"
  externalUrlPinned := true
  urlOverrides := ∅
  hostname _ := none
  mac _ := none
  monotonic := 40 * second

/-- The content id of the delivery shows the external URL. -/
theorem not_undisclosed : ¬ externalPlay.Undisclosed := by
  intro h
  have hsame := h "https://home.example.org" rfl "https://other.example.net" (by decide)
  have hhidden := hidden_of_diagnostics (by decide) hsame
  have hrecord := hhidden.records (externalPlay.ledger.records.head (by decide))
    (List.head_mem _) "https://home.example.org/local/bell.mp3" (by decide)
  revert hrecord
  decide

end DiagnosticsState
end CastDelivery
