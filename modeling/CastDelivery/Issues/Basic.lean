import CastDelivery.Lib.Numeral
import CastDelivery.DateTime
import CastDelivery.Health.Ledger
import CastDelivery.Repairs
import CastDelivery.Topology.Basic

/-!
# Issues about the topology and about stale devices

The part of `issues.py` that follows discovery: `async_device_seen`, `async_check_topology` and
`async_check_stale`, and the fix flow of `repairs.py`. Both checks run at the end of every
refresh of the topology, in one piece.

`StaleTracking` remembers in `stale` which issues it has raised. The issue registry and the
registry of devices belong to Home Assistant and outlive it.
-/

namespace CastDelivery

/-! ## Issue ids -/

/-- `ISSUE_MULTIHOMED`. -/
def ISSUE_MULTIHOMED : String := "internal_url_automatic_multihomed"

/-- `ISSUE_GROUP_SPANS`. -/
def ISSUE_GROUP_SPANS : String := "cast_group_spans_subnets"

/-- `ISSUE_STALE_DEVICE`. -/
def ISSUE_STALE_DEVICE : String := "stale_cast_device"

/-- `STALE_DEVICE_DAYS`. -/
def STALE_DEVICE_DAYS : ℕ := 7

/-- `f"{ISSUE_GROUP_SPANS}.{uuid}"`. -/
def groupSpansId (u : UUID) : String := ISSUE_GROUP_SPANS ++ "." ++ u.str

/-- `f"{ISSUE_STALE_DEVICE}.{device_id}"`. -/
def staleDeviceId (deviceId : String) : String := ISSUE_STALE_DEVICE ++ "." ++ deviceId

theorem groupSpansId_inj {u v : UUID} (h : groupSpansId u = groupSpansId v) : u = v := by
  unfold groupSpansId at h
  exact UUID.str_inj ((String.append_right_inj _).mp h)

theorem staleDeviceId_inj {a b : String} (h : staleDeviceId a = staleDeviceId b) : a = b := by
  unfold staleDeviceId at h
  exact (String.append_right_inj _).mp h

/-- The ids of the three kinds differ in their first character. -/
theorem staleDeviceId_ne_groupSpansId (a : String) (u : UUID) :
    staleDeviceId a ≠ groupSpansId u := by
  intro h
  have hhead := congrArg (fun s => s.toList.head?) h
  simp [staleDeviceId, groupSpansId, ISSUE_STALE_DEVICE, ISSUE_GROUP_SPANS] at hhead

theorem staleDeviceId_ne_multihomed (a : String) : staleDeviceId a ≠ ISSUE_MULTIHOMED := by
  intro h
  have hhead := congrArg (fun s => s.toList.head?) h
  simp [staleDeviceId, ISSUE_STALE_DEVICE, ISSUE_MULTIHOMED] at hhead

theorem groupSpansId_ne_multihomed (u : UUID) : groupSpansId u ≠ ISSUE_MULTIHOMED := by
  intro h
  have hhead := congrArg (fun s => s.toList.head?) h
  simp [groupSpansId, ISSUE_GROUP_SPANS, ISSUE_MULTIHOMED] at hhead

/-- The issue is in the registry. -/
def IssueRegistry.Active (issues : IssueRegistry) (id : String) : Prop :=
  (issues.get? id).isSome = true

instance (issues : IssueRegistry) (id : String) : Decidable (issues.Active id) :=
  inferInstanceAs (Decidable (_ = true))

theorem IssueRegistry.active_create (issues : IssueRegistry) (id id' : String) (issue : Issue) :
    (issues.create id issue).Active id' ↔ id' = id ∨ issues.Active id' := by
  unfold Active create
  rw [Dict.get?_set]
  by_cases h : id' = id <;> simp [h]

theorem IssueRegistry.active_delete (issues : IssueRegistry) (id id' : String) :
    (issues.delete id).Active id' ↔ id' ≠ id ∧ issues.Active id' := by
  unfold Active delete
  rw [Dict.get?_erase]
  by_cases h : id' = id <;> simp [h]

/-! ## Issues about the topology -/

/-- The strings of a list, each once, in order. -/
def sortedSet (strings : List String) : List String := strings.dedup.mergeSort fun a b => a ≤ b

/-- The issue `async_check_topology` raises for a host on several networks. -/
def multihomedIssue (T : TopologyTracker) : Issue where
  severity := .warning
  translationKey := ISSUE_MULTIHOMED
  placeholders :=
    [("host", strOr T.internalHost "unknown"),
      ("adapters", ", ".intercalate (T.adapterNetworks.map IPv4Network.str))]

/-- The issue `async_check_topology` raises for a group on several subnets. -/
def groupSpansIssue (uuid : UUID) (group : GroupTopology) : Issue where
  severity := .warning
  translationKey := ISSUE_GROUP_SPANS
  placeholders :=
    [("name", strOr group.name uuid.str), ("leader_ip", strOr group.leaderIp "unknown"),
      ("subnets",
        ", ".intercalate (sortedSet
          ((group.subnets.values.filterMap fun subnet => subnet).filter (· ≠ ""))))]

namespace IssueRegistry

/-- The turn of one group in the loop of `async_check_topology`. -/
def checkGroup (issues : IssueRegistry) (entry : UUID × GroupTopology) : IssueRegistry :=
  if entry.2.membersSpanSubnets = some true then
    issues.create (groupSpansId entry.1) (groupSpansIssue entry.1 entry.2)
  else issues.delete (groupSpansId entry.1)

/-- `async_check_topology`. -/
def asyncCheckTopology (issues : IssueRegistry) (T : TopologyTracker) : IssueRegistry :=
  let issues :=
    if T.multihomed = some true ∧ T.internalUrlAutomatic = some true then
      issues.create ISSUE_MULTIHOMED (multihomedIssue T)
    else issues.delete ISSUE_MULTIHOMED
  T.groups.entries.foldl checkGroup issues

end IssueRegistry

/-! ## Stale devices -/

/-- `text.replace(word, "")`, with `skip` characters of an occurrence still to be left out. -/
def withoutWord (word : List Char) : ℕ → List Char → List Char
  | _, [] => []
  | skip + 1, _ :: text => withoutWord word skip text
  | 0, c :: text =>
    if word.isPrefixOf (c :: text) then withoutWord word (word.length - 1) text
    else c :: withoutWord word 0 text

/-- `UUID(hex)`, unless it raises `ValueError`: a hexadecimal numeral of 32 characters, where a URN
prefix, curly brackets and hyphens do not count. -/
def UUID.parse (hex : String) : Option UUID :=
  let hex := withoutWord "uuid:".toList 0 (withoutWord "urn:".toList 0 hex.toList)
  let bracket (c : Char) : Bool := c = '\x7b' ∨ c = '\x7d'
  let digits := (((hex.dropWhile bracket).reverse.dropWhile bracket).reverse).filter (· ≠ '-')
  if digits.length = 32 then
    match Numeral.int 16 digits with
    | some n => if 0 ≤ n ∧ n.toNat < 1 <<< 128 then some ⟨BitVec.ofInt 128 n⟩ else none
    | none => none
  else none

/-- `DOMAIN`. -/
def DOMAIN : String := "cast"

/-- A device of the entry in the device registry. -/
structure Device where
  id : String
  /-- The pairs of a domain and an identifier, in the order in which they are looked at. -/
  identifiers : List (String × String)
  nameByUser : Option String := none
  name : Option String := none
  disabled : Bool := false
deriving DecidableEq, Repr

namespace Device

/-- `uuid_hex`: the first identifier of the domain. -/
def uuidHex (device : Device) : Option String :=
  (device.identifiers.find? fun ident => ident.1 = DOMAIN).map Prod.snd

/-- The uuid that the identifier spells, if it spells one. -/
def uuid? (device : Device) : Option UUID := device.uuidHex.bind UUID.parse

/-- `uuid_str`. -/
def uuidStr (device : Device) : Option String := device.uuid?.map UUID.str

/-- `uuid_str or device.id`. -/
def key (device : Device) : String := device.uuidStr.getD device.id

end Device

/-- The devices of the entry in the device registry. Their ids are distinct. -/
structure DeviceRegistry where
  devices : List Device := []
  nodup : (devices.map Device.id).Nodup := by decide

/-- `StaleCandidate`. -/
structure StaleCandidate where
  deviceId : String
  name : String
  uuid : Option String
  lastSeen : Option DateTime
  trackedSince : DateTime
deriving DecidableEq, Repr

/-- The issue `async_check_stale` raises. -/
def staleDeviceIssue (candidate : StaleCandidate) : Issue where
  isFixable := true
  severity := .warning
  translationKey := ISSUE_STALE_DEVICE
  placeholders :=
    [("name", candidate.name), ("days", toString STALE_DEVICE_DAYS),
      ("last_seen",
        match candidate.lastSeen with
        | some lastSeen => lastSeen.isoformat .minutes
        | none => "never since " ++ candidate.trackedSince.isoformat .minutes)]
  data := [("device_id", candidate.deviceId)]

/-- The fields of `RepairManager` that follow discovery. -/
structure StaleTracking where
  lastSeen : Dict String DateTime := ∅
  trackedSince : Dict String DateTime := ∅
  stale : Dict String StaleCandidate := ∅

/-- `now - timedelta(days=STALE_DEVICE_DAYS)`. -/
def staleThreshold (now : DateTime) : DateTime := now - STALE_DEVICE_DAYS * DateTime.day

namespace StaleTracking

/-- `async_device_seen`. -/
def asyncDeviceSeen (M : StaleTracking) (issues : IssueRegistry) (now : DateTime) (uuid : UUID) :
    StaleTracking × IssueRegistry :=
  let seen := M.stale.entries.filter fun entry => entry.2.uuid = some uuid.str
  ({ M with
      lastSeen := M.lastSeen.set uuid.str now
      stale := seen.foldl (fun stale entry => stale.erase entry.1) M.stale },
    seen.foldl (fun issues entry => issues.delete (staleDeviceId entry.1)) issues)

/-- `reference`: when the device was last seen or, if it never was, first tracked. -/
def reference (M : StaleTracking) (trackedSince : DateTime) (device : Device) : DateTime :=
  (device.uuidStr.bind M.lastSeen.get?).getD trackedSince

/-- The turn of one device in the loop of `async_check_stale`: what becomes of `tracked_since`,
and the candidate. -/
def checkDevice (M : StaleTracking) (now : DateTime) (discovered : List UUID)
    (tracked : Dict String DateTime) (device : Device) :
    Dict String DateTime × Option StaleCandidate :=
  if device.uuidStr ∈ discovered.map fun uuid => some uuid.str then (tracked, none)
  else
    let since := (tracked.get? device.key).getD now
    let tracked := tracked.set device.key since
    if staleThreshold now < M.reference since device then (tracked, none)
    else
      (tracked, some
        { deviceId := device.id
          name := strOr device.nameByUser (strOr device.name device.id)
          uuid := device.uuidStr
          lastSeen := device.uuidStr.bind M.lastSeen.get?
          trackedSince := since })

/-- The loop of `async_check_stale` over the registry. -/
def checkDevices (M : StaleTracking) (now : DateTime) (discovered : List UUID) :
    List Device → Dict String DateTime → Dict String DateTime × List StaleCandidate
  | [], tracked => (tracked, [])
  | device :: devices, tracked =>
    let r := M.checkDevice now discovered tracked device
    let rest := M.checkDevices now discovered devices r.1
    (rest.1, r.2.toList ++ rest.2)

/-- `async_check_stale`. -/
def asyncCheckStale (M : StaleTracking) (issues : IssueRegistry) (registry : DeviceRegistry)
    (now : DateTime) (discovered : List UUID) : StaleTracking × IssueRegistry :=
  let r := M.checkDevices now discovered registry.devices M.trackedSince
  let current : Dict String StaleCandidate :=
    r.2.foldl (fun current candidate => current.set candidate.deviceId candidate) ∅
  let gone := M.stale.keys.filter fun deviceId => deviceId ∉ current.keys
  let issues := gone.foldl (fun issues deviceId => issues.delete (staleDeviceId deviceId)) issues
  let issues := current.entries.foldl
    (fun issues entry => issues.create (staleDeviceId entry.1) (staleDeviceIssue entry.2)) issues
  ({ M with trackedSince := r.1, stale := current }, issues)

end StaleTracking

/-! ## The fix flow -/

/-- `StaleDeviceFlow`, waiting for the confirmation. -/
structure StaleDeviceFlow where
  issueId : String
  deviceId : String
deriving DecidableEq, Repr

/-- `async_create_fix_flow`, unless it raises `ValueError`. -/
def asyncCreateFixFlow (issueId : String) (issue : Issue) : Option StaleDeviceFlow :=
  if startsWith issueId (ISSUE_STALE_DEVICE ++ ".") then
    (issue.data.lookup "device_id").map fun deviceId => ⟨issueId, deviceId⟩
  else none

/-- Take a device out of the registry. -/
def DeviceRegistry.remove (registry : DeviceRegistry) (deviceId : String) : DeviceRegistry where
  devices := registry.devices.filter fun device => device.id ≠ deviceId
  nodup := registry.nodup.sublist (List.filter_sublist.map _)

end CastDelivery
