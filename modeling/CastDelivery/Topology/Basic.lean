import CastDelivery.Basic
import CastDelivery.Lib.Dict
import Mathlib.Data.List.Dedup
import Mathlib.Data.List.Sort

/-!
# Groups and subnets

The part of `topology.py` that the repair issues rest on: `TopologyTracker` with the discovery
records of the devices and groups, the networks of the adapters, and the placement of each group
on them.
-/

namespace CastDelivery

/-! ## Addresses -/

/-- `ipaddress.IPv4Address`. -/
structure IPv4Address where
  int : BitVec 32
deriving DecidableEq, Repr

namespace IPv4Address

/-- The `k`-th octet, most significant first. -/
def octet (a : IPv4Address) (k : ℕ) : ℕ := (a.int.toNat >>> (8 * (3 - k))) % 256

/-- `str(address)`. -/
def str (a : IPv4Address) : String :=
  ".".intercalate ((List.range 4).map fun k => toString (a.octet k))

/-- An octet: one to three digits, without a leading zero, of a value up to 255. -/
def parseOctet (digits : List Char) : Option ℕ :=
  if digits ≠ [] ∧ digits.all Char.isDigit ∧ digits.length ≤ 3 ∧
      (digits = ['0'] ∨ digits.head? ≠ some '0') then
    let value := digits.foldl (fun n c => 10 * n + (c.toNat - '0'.toNat)) 0
    if value ≤ 255 then some value else none
  else none

/-- `IPv4Address(host)`, unless it raises `ValueError`. -/
def parse (host : String) : Option IPv4Address :=
  match (host.toList.splitOn '.').mapM parseOctet with
  | some [a, b, c, d] => some ⟨BitVec.ofNat 32 (((a * 256 + b) * 256 + c) * 256 + d)⟩
  | _ => none

end IPv4Address

/-- `_as_ipv4`. An IPv6 address is no `IPv4Address` either. -/
def asIpv4 : Option String → Option IPv4Address
  | none => none
  | some host => if host = "" then none else IPv4Address.parse host

/-- `ipaddress.IPv4Network`. -/
structure IPv4Network where
  address : IPv4Address
  prefixlen : Fin 33
deriving DecidableEq, Repr

namespace IPv4Network

/-- The bits of an address that a network of this prefix length fixes. -/
def masked (a : IPv4Address) (prefixlen : Fin 33) : IPv4Address :=
  ⟨(a.int >>> (32 - prefixlen.val)) <<< (32 - prefixlen.val)⟩

/-- `IPv4Network(f"{address}/{prefixlen}", strict=False)`. -/
def ofAddress (a : IPv4Address) (prefixlen : Fin 33) : IPv4Network :=
  ⟨masked a prefixlen, prefixlen⟩

/-- `ip in net`. -/
def contains (net : IPv4Network) (ip : IPv4Address) : Bool := masked ip net.prefixlen = net.address

/-- `str(net)`. -/
def str (net : IPv4Network) : String := net.address.str ++ "/" ++ toString net.prefixlen.val

end IPv4Network

/-- `ASSUMED_PREFIX`. -/
def ASSUMED_PREFIX : Fin 33 := 24

/-! ## Discovery records -/

/-- `CAST_TYPE_GROUP`. -/
def CAST_TYPE_GROUP : String := "group"

/-- `CastInfo`, apart from its services. -/
structure CastInfo where
  uuid : UUID
  modelName : Option String := none
  friendlyName : Option String
  host : Option String
  port : ℕ
  castType : Option String
  manufacturer : Option String := none
deriving DecidableEq, Repr

/-- A discovery record: `ChromecastInfo`, as far as the tracker reads it. -/
structure DiscoveryRecord where
  castInfo : CastInfo
  isDynamicGroup : Option Bool := none
deriving DecidableEq, Repr

namespace DiscoveryRecord

def uuid (info : DiscoveryRecord) : UUID := info.castInfo.uuid

def friendlyName (info : DiscoveryRecord) : Option String := info.castInfo.friendlyName

def isAudioGroup (info : DiscoveryRecord) : Bool := info.castInfo.castType = some CAST_TYPE_GROUP

end DiscoveryRecord

/-! ## The tracker -/

/-- `GroupTopology`. -/
structure GroupTopology where
  uuid : UUID
  name : Option String
  leaderIp : Option String
  advertisedPort : ℕ
  isDynamicGroup : Bool
  leaderUuid : Option UUID
  memberUuids : List UUID
  memberIps : Dict String (Option String)
  subnets : Dict String (Option String)
  membersSpanSubnets : Option Bool

/-- An adapter of `network.async_get_adapters`. -/
structure Adapter where
  enabled : Bool
  ipv4 : List (IPv4Address × Fin 33)
deriving DecidableEq, Repr

/-- What a refresh of the topology reads. -/
structure NetworkReading where
  /-- `network.async_get_adapters(hass)`, unless it raises. -/
  adapters : Option (List Adapter)
  /-- `hass.config.internal_url`. -/
  internalUrl : Option String
  /-- The host name of `get_url(hass, allow_external=False)`, unless that raises. -/
  hostname : Option (Option String)
  /-- `multizone_manager.get_multizone_memberships(uuid)`, unless it raises `KeyError`. There may
  be no manager yet. -/
  memberships : Option (UUID → Option (List String))

/-- `TopologyTracker`. -/
structure TopologyTracker where
  infos : Dict UUID DiscoveryRecord := ∅
  groups : Dict UUID GroupTopology := ∅
  homeNetworks : List IPv4Network := []
  adapterNetworks : List IPv4Network := []
  internalHost : Option String := none
  internalUrlAutomatic : Option Bool := none
  multihomed : Option Bool := none

namespace TopologyTracker

/-- `async_record_discovery`. -/
def asyncRecordDiscovery (T : TopologyTracker) (info : DiscoveryRecord) : TopologyTracker :=
  { T with infos := T.infos.set info.uuid info }

/-- `_async_load_networks`. -/
def asyncLoadNetworks (T : TopologyTracker) (reading : NetworkReading) : TopologyTracker :=
  let adapters := reading.adapters.getD []
  let enabled := adapters.filter Adapter.enabled
  let networks := enabled.flatMap fun adapter =>
    adapter.ipv4.map fun ipv4 => IPv4Network.ofAddress ipv4.1 ipv4.2
  let T :=
    { T with
      adapterNetworks := networks
      multihomed :=
        if adapters = [] then none
        else some (2 ≤ (enabled.filter fun adapter => adapter.ipv4 ≠ []).length)
      internalUrlAutomatic := some reading.internalUrl.isNone
      internalHost := none
      homeNetworks := [] }
  match reading.hostname with
  | none => T
  | some hostname =>
    let T := { T with internalHost := hostname }
    match asIpv4 hostname with
    | none => T
    | some ip =>
      let home := networks.filter fun net => net.contains ip
      { T with
        homeNetworks := if home = [] then [IPv4Network.ofAddress ip ASSUMED_PREFIX] else home }

/-- `_subnet_of`. -/
def subnetOf (T : TopologyTracker) (host : Option String) : Option String :=
  match asIpv4 host with
  | none => none
  | some ip =>
    match T.adapterNetworks.find? fun net => net.contains ip with
    | some net => some net.str
    | none => some (IPv4Network.ofAddress ip ASSUMED_PREFIX).str

/-- `members_by_group` of `_compute_groups`. -/
def membersByGroup (T : TopologyTracker) (reading : NetworkReading) : Dict String (List UUID) :=
  match reading.memberships with
  | none => ∅
  | some memberships =>
    T.infos.entries.foldl
      (fun members entry =>
        if entry.2.isAudioGroup then members
        else ((memberships entry.1).getD []).foldl
          (fun members group =>
            members.set group ((members.get? group).getD [] ++ [entry.1])) members) ∅

/-- `hosts_to_uuid` of `_compute_groups`. -/
def hostsToUuid (T : TopologyTracker) : Dict String UUID :=
  T.infos.entries.foldl
    (fun hosts entry =>
      match entry.2.castInfo.host with
      | some host =>
        if entry.2.isAudioGroup = false ∧ host ≠ "" then hosts.set host entry.1 else hosts
      | none => hosts) ∅

/-- The topology of one group in `_compute_groups`. -/
def groupTopology (T : TopologyTracker) (reading : NetworkReading) (uuid : UUID)
    (info : DiscoveryRecord) : GroupTopology :=
  let leaderIp := info.castInfo.host.filter (· ≠ "")
  let members := (((T.membersByGroup reading).get? uuid.str).getD []).mergeSort
    fun u v => u.str ≤ v.str
  let memberIps : Dict String (Option String) := members.foldl
    (fun ips member => ips.set member.str ((T.infos.get? member).bind fun i => i.castInfo.host)) ∅
  let leader : Dict String (Option String) := (∅ : Dict String _).set "leader" (T.subnetOf leaderIp)
  let subnets : Dict String (Option String) := memberIps.entries.foldl
    (fun subnets entry => subnets.set entry.1 (T.subnetOf entry.2)) leader
  let known : List String := (subnets.values.filterMap fun subnet => subnet).dedup
  { uuid := uuid
    name := info.friendlyName
    leaderIp := leaderIp
    advertisedPort := info.castInfo.port
    isDynamicGroup := info.isDynamicGroup.getD false
    leaderUuid := leaderIp.bind T.hostsToUuid.get?
    memberUuids := members
    memberIps := memberIps
    subnets := subnets
    membersSpanSubnets := if known = [] then none else some (1 < known.length) }

/-- `_compute_groups`. -/
def computeGroups (T : TopologyTracker) (reading : NetworkReading) : TopologyTracker :=
  { T with
    groups := T.infos.entries.foldl
      (fun groups entry =>
        if entry.2.isAudioGroup then
          groups.set entry.1 (T.groupTopology reading entry.1 entry.2)
        else groups) ∅ }

/-- `async_refresh`, apart from the subnet mismatch it stores in the health objects. -/
def asyncRefresh (T : TopologyTracker) (reading : NetworkReading) : TopologyTracker :=
  (T.asyncLoadNetworks reading).computeGroups reading

@[simp] theorem infos_asyncLoadNetworks (T : TopologyTracker) (reading : NetworkReading) :
    (T.asyncLoadNetworks reading).infos = T.infos := by
  unfold asyncLoadNetworks
  cases reading.hostname with
  | none => rfl
  | some hostname =>
    simp only
    cases asIpv4 hostname <;> rfl

@[simp] theorem infos_asyncRefresh (T : TopologyTracker) (reading : NetworkReading) :
    (T.asyncRefresh reading).infos = T.infos := infos_asyncLoadNetworks T reading

/-- After a refresh there is a topology for each discovery record of a group. -/
theorem mem_groups_asyncRefresh (T : TopologyTracker) (reading : NetworkReading) (u : UUID) :
    u ∈ (T.asyncRefresh reading).groups.keys ↔
      ∃ info, T.infos.get? u = some info ∧ info.isAudioGroup = true := by
  unfold asyncRefresh computeGroups
  simp only [infos_asyncLoadNetworks]
  rw [← List.foldl_filter (p := fun entry : UUID × DiscoveryRecord => entry.2.isAudioGroup)
    (f := fun groups entry => Dict.set groups entry.1 _), Dict.mem_keys_foldl_set]
  simp only [List.mem_map, List.mem_filter, Dict.get?_eq_some_iff]
  constructor
  · rintro (⟨⟨v, info⟩, ⟨hmem, hgroup⟩, rfl⟩ | hnone)
    · exact ⟨info, hmem, hgroup⟩
    · cases hnone
  · rintro ⟨info, hmem, hgroup⟩
    exact .inl ⟨(u, info), ⟨hmem, hgroup⟩, rfl⟩

end TopologyTracker

end CastDelivery
