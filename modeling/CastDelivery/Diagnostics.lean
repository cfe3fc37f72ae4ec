import CastDelivery.Issues.Basic
import CastDelivery.Lib.Json
import CastDelivery.Probe.Breaker
import CastDelivery.System.Basic

/-!
# Diagnostics

`async_get_config_entry_diagnostics` of `diagnostics.py`, with the `as_dict` methods it uses.
-/

namespace CastDelivery

/-! ## The values of the vocabularies -/

/-- `outcome.value`. -/
def DeliveryOutcome.value : DeliveryOutcome → String
  | ok => "ok"
  | fetchFailed => "fetch_failed"
  | unreachable => "unreachable"
  | timeout => "timeout"
  | templateError => "template_error"
  | skippedBusy => "skipped_busy"
  | unknown => "unknown"

/-- The source of a record. -/
def Source.value : Source → String
  | playMedia => "play_media"
  | announce => "announce"
  | probe => "probe"
  | observed => "observed"

/-- The `url_source` of a record. -/
def UrlSource.value : UrlSource → String
  | override => "override"
  | internalUrl => "internal_url"
  | externalUrl => "external_url"

namespace Json

/-- An optional string. -/
def ofString : Option String → Json := ofOption str

theorem ofString_injective : Function.Injective ofString := by
  intro s t h
  cases s <;> cases t <;> simp_all [ofString, ofOption]

/-- An integer. -/
def int (n : Int) : Json := num n

/-- An optional timestamp, in ISO format. -/
def ofStamp : Option DateTime → Json := ofOption fun stamp => str (DateTime.isoformat stamp .auto)

/-- A list of strings. -/
def strings (items : List String) : Json := arr (items.map str)

/-- A dictionary of strings to optional strings. -/
def ofStrings (d : Dict String (Option String)) : Json :=
  obj (d.entries.map fun entry => (entry.1, ofString entry.2))

end Json

open Json

/-! ## `as_dict` -/

/-- `DeliveryRecord.as_dict`. -/
def DeliveryRecord.asDict (record : DeliveryRecord) : Json :=
  obj
    [("uuid", str record.uuid.str), ("entity_id", ofString record.entityId),
      ("name", ofString record.name), ("source", str record.source.value),
      ("outcome", str record.outcome.value), ("content_id", ofString record.contentId),
      ("error", ofString record.error),
      ("url_source", ofOption (fun source => str source.value) record.urlSource),
      ("responded", bool record.responded), ("requested_at", ofStamp record.requestedAt),
      ("resolved_at", ofStamp (some record.resolvedAt)),
      ("elapsed", ofOption (fun millis => num (millis / 1000)) record.elapsed),
      ("player_state", ofString record.playerState), ("idle_reason", ofString record.idleReason),
      ("media_session_id", ofOption int record.mediaSessionId)]

/-- The fields of `DeviceHealth.as_dict`. -/
def DeviceHealth.asDict (monotonic : Monotonic) (health : DeviceHealth) : List (String × Json) :=
  [("uuid", str health.uuid.str), ("entity_id", ofString health.entityId),
    ("name", ofString health.name), ("host", ofString health.host),
    ("port", ofOption (fun port => int port) health.port),
    ("last_outcome", str health.lastOutcome.value), ("last_success", ofStamp health.lastSuccess),
    ("last_seen", ofStamp health.lastSeen),
    ("consecutive_failures", int health.consecutiveFailures),
    ("consecutive_timeouts", int health.consecutiveTimeouts),
    ("circuit_open", bool (health.circuitOpenUntil.any fun t => monotonic < t)),
    ("subnet_mismatch", ofOption bool health.subnetMismatch),
    ("pending_content_id", ofString (health.pending.map fun pending => pending.contentId)),
    ("last_record", ofOption DeliveryRecord.asDict health.lastRecord)]

/-- `GroupTopology.as_dict`. -/
def GroupTopology.asDict (group : GroupTopology) : Json :=
  obj
    [("uuid", str group.uuid.str), ("name", ofString group.name),
      ("leader_ip", ofString group.leaderIp), ("advertised_port", int group.advertisedPort),
      ("is_dynamic_group", bool group.isDynamicGroup),
      ("leader_uuid", ofOption (fun u : UUID => str u.str) group.leaderUuid),
      ("member_uuids", strings (group.memberUuids.map UUID.str)),
      ("member_ips", ofStrings group.memberIps), ("subnets", ofStrings group.subnets),
      ("members_span_subnets", ofOption bool group.membersSpanSubnets)]

/-- `TopologyTracker.as_dict`, apart from its groups. -/
def TopologyTracker.groupsAsDict (T : TopologyTracker) : Json :=
  arr (T.groups.values.map GroupTopology.asDict)

/-- `TopologyTracker.as_dict`. -/
def TopologyTracker.asDict (T : TopologyTracker) : Json :=
  obj
    [("internal_host", ofString T.internalHost),
      ("internal_url_automatic", ofOption bool T.internalUrlAutomatic),
      ("multihomed", ofOption bool T.multihomed),
      ("adapter_networks", strings (T.adapterNetworks.map IPv4Network.str)),
      ("home_networks", strings (T.homeNetworks.map IPv4Network.str)),
      ("groups", T.groupsAsDict)]

/-- `RepairManager`, as `as_dict` reads it. -/
structure RepairState where
  counters : RepairManager := {}
  tracking : StaleTracking := {}
  issues : IssueRegistry := ∅

/-- A stale candidate in `RepairManager.as_dict`. -/
def StaleCandidate.asDict (c : StaleCandidate) : Json :=
  obj
    [("device_id", str c.deviceId), ("name", str c.name), ("uuid", ofString c.uuid),
      ("last_seen", ofStamp c.lastSeen), ("tracked_since", ofStamp (some c.trackedSince))]

/-- A dictionary from uuids to counts. -/
def countsAsDict (counts : Dict UUID ℕ) : Json :=
  obj (counts.entries.map fun entry => (entry.1.str, int entry.2))

/-- `RepairManager.as_dict`. -/
def RepairState.asDict (R : RepairState) : Json :=
  obj
    [("active_issues", strings (R.issues.keys.mergeSort fun a b => a ≤ b)),
      ("stale_candidates", arr (R.tracking.stale.values.map StaleCandidate.asDict)),
      ("consecutive_fetch_failures", countsAsDict R.counters.consecutiveFetchFailures),
      ("consecutive_unreachable", countsAsDict R.counters.consecutiveUnreachable)]

/-! ## The state -/

/-- The coordinator, as the diagnostics read it. -/
structure CoordinatorState where
  options : ProbeOptions
  lastUpdateSuccess : Bool
  data : Option (Dict UUID ProbeResult)

/-- What `async_get_config_entry_diagnostics` reads. -/
structure DiagnosticsState where
  ledger : DeliveryLedger
  topology : Option TopologyTracker
  network : NetworkReading
  repairs : Option RepairState
  coordinator : Option CoordinatorState
  registry : DeviceRegistry
  /-- `entry.data`. -/
  entryData : List (String × Json)
  /-- `entry.options`. -/
  entryOptions : List (String × Json)
  /-- `entry.version`. -/
  version : Int
  /-- `get_url(hass, allow_external=False)`, unless it raises. -/
  internalUrl : Option String
  /-- `get_url(hass, allow_internal=False)`, unless it raises. -/
  externalUrl : Option String
  /-- `hass.config.external_url is not None`. -/
  externalUrlPinned : Bool
  /-- `url_overrides(entry)`. -/
  urlOverrides : Dict UUID String
  /-- `urlparse(url).hostname`. -/
  hostname : String → Option String
  /-- `async_resolve_mac(hass, host)`. -/
  mac : Option String → Option String
  /-- `time.monotonic()`. -/
  monotonic : Monotonic

/-! ## The download -/

/-- `TO_REDACT`. -/
def TO_REDACT : List String := ["external_url", "external_host", "user_id", "refresh_token"]

/-- `_adapter_for`. -/
def adapterFor (host : Option String) (networks : List IPv4Network) : Option String :=
  match asIpv4 host with
  | none => none
  | some ip => (networks.find? fun net => net.contains ip).map IPv4Network.str

/-- The subnet mismatch of a device at an address. -/
def TopologyTracker.mismatchOf (T : TopologyTracker) (host : Option String) : Option Bool :=
  match asIpv4 host with
  | none => none
  | some ip =>
    if T.homeNetworks = [] then none else some !(T.homeNetworks.any fun net => net.contains ip)

/-- `_apply_subnet_mismatch`. -/
def applySubnetMismatch (T : TopologyTracker) (L : DeliveryLedger) : DeliveryLedger :=
  T.infos.entries.foldl
    (fun L entry =>
      let mismatch := T.mismatchOf entry.2.castInfo.host
      let L := L.device entry.1
      L.store { L.health entry.1 with subnetMismatch := mismatch }) L

namespace DiagnosticsState

/-- The topology after the refresh. -/
def refreshed (D : DiagnosticsState) : Option TopologyTracker :=
  D.topology.map fun T => T.asyncRefresh D.network

/-- The ledger after the refresh. -/
def refreshedLedger (D : DiagnosticsState) : DeliveryLedger :=
  match D.refreshed with
  | some T => applySubnetMismatch T D.ledger
  | none => D.ledger

/-- `networks`. -/
def networks (D : DiagnosticsState) : List IPv4Network :=
  (D.refreshed.map TopologyTracker.adapterNetworks).getD []

/-- `discovered`. -/
def discovered (D : DiagnosticsState) : Dict UUID DiscoveryRecord :=
  (D.refreshed.map TopologyTracker.infos).getD ∅

/-- The entry of a device. -/
def deviceAsDict (D : DiagnosticsState) (uuid : UUID) (info : DiscoveryRecord) : Json :=
  obj ((D.refreshedLedger.health uuid).asDict D.monotonic ++
    [("model", ofString info.castInfo.modelName),
      ("manufacturer", ofString info.castInfo.manufacturer),
      ("cast_type", ofString info.castInfo.castType), ("is_audio_group", bool info.isAudioGroup),
      ("is_dynamic_group", ofOption bool info.isDynamicGroup),
      ("subnet", ofString (adapterFor info.castInfo.host D.networks)),
      ("mac", ofString (D.mac info.castInfo.host))])

/-- `registry_without_discovery`. -/
def registryWithoutDiscovery (D : DiagnosticsState) : Json :=
  let hex := D.discovered.keys.map fun uuid => String.ofList (uuid.str.toList.filter (· ≠ '-'))
  arr ((D.registry.devices.filter fun device =>
      !(device.identifiers.any fun ident => ident.1 = DOMAIN ∧ ident.2 ∈ hex)).map fun device =>
    obj
      [("device_id", str device.id),
        ("name", ofString ((device.nameByUser.filter (· ≠ "")).or device.name)),
        ("identifiers", strings ((device.identifiers.map fun ident =>
          ident.1 ++ ":" ++ ident.2).mergeSort fun a b => a ≤ b)),
        ("disabled", bool device.disabled)])

/-- The part on the entry. -/
def entryAsDict (D : DiagnosticsState) : Json :=
  obj [("data", obj D.entryData), ("options", obj D.entryOptions), ("version", int D.version)]

/-- The part on the URLs. -/
def urlsAsDict (D : DiagnosticsState) : Json :=
  obj
    [("internal_url", ofString D.internalUrl),
      ("internal_url_pinned", bool D.network.internalUrl.isSome),
      ("internal_url_adapter", ofString (adapterFor (D.internalUrl.bind D.hostname) D.networks)),
      ("external_url", ofString D.externalUrl),
      ("external_host", ofString (D.externalUrl.bind D.hostname)),
      ("external_url_pinned", bool D.externalUrlPinned),
      ("url_overrides", obj (D.urlOverrides.entries.map fun entry =>
        (entry.1.str, str entry.2)))]

/-- The part on the probes. -/
def probeAsDict (D : DiagnosticsState) : Json :=
  obj
    [("options", ofOption (fun c : CoordinatorState => obj
        [("enabled", bool c.options.enabled), ("interval", int c.options.interval),
          ("groups", bool c.options.groups), ("video", bool c.options.video)]) D.coordinator),
      ("last_update_success", ofOption (fun c : CoordinatorState => bool c.lastUpdateSuccess)
        D.coordinator),
      ("decisions", obj (((D.coordinator.bind CoordinatorState.data).getD ∅).entries.map
        fun entry => (entry.1.str, obj
          [("checked_at", ofStamp (some entry.2.checkedAt)), ("decision", str entry.2.decision),
            ("outcome", ofOption (fun outcome : DeliveryOutcome => str outcome.value)
              entry.2.outcome)])))]

/-- `data`, before it is redacted. -/
def data (D : DiagnosticsState) : Json :=
  obj
    [("entry", D.entryAsDict), ("urls", D.urlsAsDict),
      ("network", ofOption TopologyTracker.asDict D.refreshed),
      ("devices", arr (D.discovered.entries.map fun entry => D.deviceAsDict entry.1 entry.2)),
      ("groups", (D.refreshed.map TopologyTracker.groupsAsDict).getD (arr [])),
      ("ledger", arr (D.refreshedLedger.records.map DeliveryRecord.asDict)),
      ("registry_without_discovery", D.registryWithoutDiscovery),
      ("probe", D.probeAsDict), ("repairs", ofOption RepairState.asDict D.repairs)]

/-- `async_get_config_entry_diagnostics`. -/
def diagnostics (D : DiagnosticsState) : Json := D.data.redact TO_REDACT

end DiagnosticsState
end CastDelivery
