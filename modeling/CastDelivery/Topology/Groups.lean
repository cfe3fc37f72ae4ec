import CastDelivery.Topology.Networks
import CastDelivery.Repairs
import Mathlib.Data.Finset.Card

/-!
# The groups of a refresh

`_compute_groups` inverts the memberships that the multizone manager has for each device.
`groupsExact` compares the result with the relation between devices and groups: the members are
the devices of the group, each once, the leader is a device at the address of the group, and the
span of the subnets is that of the placed addresses.
-/

namespace CastDelivery

/-- The groups that the manager has for a device; none if it raises or is not there. -/
def NetworkReading.groupsOf (reading : NetworkReading) (u : UUID) : List String :=
  (reading.memberships.bind fun memberships => memberships u).getD []

namespace TopologyTracker

variable (T : TopologyTracker) (reading : NetworkReading)

/-! ## What the groups are to be -/

/-- The discovery record of a device that is no group. -/
def IsDevice (u : UUID) (info : DiscoveryRecord) : Prop :=
  T.infos.get? u = some info ∧ info.isAudioGroup = false

/-- The memberships of the device have the group. -/
def IsMember (group u : UUID) : Prop :=
  (∃ info, T.IsDevice u info) ∧ group.str ∈ reading.groupsOf u

/-- The address that a device was discovered at. -/
def hostOf (u : UUID) : Option String := (T.infos.get? u).bind fun info => info.castInfo.host

/-- The network is that of the leader or of a member of the group. -/
def Placed (group : UUID) (info : DiscoveryRecord) (net : IPv4Network) : Prop :=
  ∃ host ip, (host = info.castInfo.host ∨ ∃ u, T.IsMember reading group u ∧ host = T.hostOf u) ∧
    asIpv4 host = some ip ∧ T.networkOf ip = net

/-- The topology of a group is that of its memberships and addresses. -/
structure Exact (u : UUID) (info : DiscoveryRecord) (group : GroupTopology) : Prop where
  uuid : group.uuid = u
  members : ∀ v, v ∈ group.memberUuids ↔ T.IsMember reading u v
  nodup : group.memberUuids.Nodup
  sorted : group.memberUuids.Pairwise fun v w => v.str ≤ w.str
  memberIps : group.memberIps.entries = group.memberUuids.map fun v => (v.str, T.hostOf v)
  leaderIp : group.leaderIp = info.castInfo.host.filter (· ≠ "")
  leader : ∀ v, group.leaderUuid = some v →
    ∃ device ip, T.IsDevice v device ∧ device.castInfo.host = some ip ∧ group.leaderIp = some ip
  leads : ∀ v device ip, T.IsDevice v device → device.castInfo.host = some ip →
    group.leaderIp = some ip → group.leaderUuid ≠ none
  unplaced : group.membersSpanSubnets = none ↔ ∀ net, ¬ T.Placed reading u info net
  spans : group.membersSpanSubnets = some true ↔
    ∃ net net', T.Placed reading u info net ∧ T.Placed reading u info net' ∧ net ≠ net'

/-- The topologies are those of the groups among the discovery records. -/
structure GroupsExact (groups : Dict UUID GroupTopology) : Prop where
  keys : ∀ u, u ∈ groups.keys ↔ ∃ info, T.infos.get? u = some info ∧ info.isAudioGroup = true
  exact : ∀ u info group, T.infos.get? u = some info → groups.get? u = some group →
    T.Exact reading u info group

/-! ## Members -/

/-- The pairs of a group and a device that the loop over the memberships goes through. -/
def memberPairs : List (String × UUID) :=
  T.infos.entries.flatMap fun entry =>
    if entry.2.isAudioGroup then []
    else (reading.groupsOf entry.1).map fun group => (group, entry.1)

/-- The members of a group, in the order of their discovery. -/
def membersOf (group : UUID) : List UUID :=
  ((T.membersByGroup reading).get? group.str).getD []

section

variable {T reading} {u v : UUID} {info : DiscoveryRecord} {group : String}

theorem membersByGroup_eq : T.membersByGroup reading =
    (T.memberPairs reading).foldl
      (fun d p => d.set p.1 ((d.get? p.1).getD [] ++ [p.2])) ∅ := by
  unfold membersByGroup
  cases hmemberships : reading.memberships with
  | none =>
    have hnil : T.memberPairs reading = [] := by
      unfold memberPairs NetworkReading.groupsOf
      rw [hmemberships, List.flatMap_eq_nil_iff]
      intro entry _
      exact ite_self _
    rw [hnil]
    rfl
  | some memberships =>
    unfold memberPairs NetworkReading.groupsOf
    rw [hmemberships, List.foldl_flatMap]
    simp only [Option.bind_some]
    congr 1
    funext d entry
    by_cases hgroup : entry.2.isAudioGroup = true
    · rw [if_pos hgroup, if_pos hgroup]
      rfl
    · rw [if_neg hgroup, if_neg hgroup, List.foldl_map]

theorem membersOf_eq : T.membersOf reading u =
    ((T.memberPairs reading).filter fun p => p.1 = u.str).map Prod.snd := by
  unfold membersOf
  rw [membersByGroup_eq, Dict.getD_foldl_append]
  rfl

theorem mem_memberPairs : (group, v) ∈ T.memberPairs reading ↔
    (∃ info, T.IsDevice v info) ∧ group ∈ reading.groupsOf v := by
  unfold memberPairs IsDevice
  rw [List.mem_flatMap]
  constructor
  · rintro ⟨entry, hentry, hmem⟩
    by_cases hgroup : entry.2.isAudioGroup = true
    · rw [if_pos hgroup] at hmem
      exact absurd hmem List.not_mem_nil
    · rw [if_neg hgroup] at hmem
      obtain ⟨group', hgroup', hpair⟩ := List.mem_map.mp hmem
      obtain ⟨rfl, rfl⟩ := Prod.mk.inj hpair
      refine ⟨⟨entry.2, ?_, Bool.eq_false_iff.mpr hgroup⟩, hgroup'⟩
      exact (Dict.get?_eq_some_iff _ _ _).mpr hentry
  · rintro ⟨⟨info, hinfo, hdevice⟩, hgroup⟩
    refine ⟨(v, info), (Dict.get?_eq_some_iff _ _ _).mp hinfo, ?_⟩
    rw [if_neg (by rw [hdevice]; exact Bool.false_ne_true)]
    exact List.mem_map_of_mem hgroup

theorem mem_membersOf : v ∈ T.membersOf reading u ↔ T.IsMember reading u v := by
  rw [membersOf_eq]
  unfold IsMember
  rw [← mem_memberPairs]
  constructor
  · intro hmem
    obtain ⟨p, hp, rfl⟩ := List.mem_map.mp hmem
    obtain ⟨hpair, hkey⟩ := List.mem_filter.mp hp
    rw [← of_decide_eq_true hkey]
    exact hpair
  · intro hpair
    exact List.mem_map.mpr ⟨(u.str, v), List.mem_filter.mpr ⟨hpair, decide_eq_true rfl⟩, rfl⟩

theorem nodup_memberPairs (h : ∀ u, (reading.groupsOf u).Nodup) :
    (T.memberPairs reading).Nodup := by
  unfold memberPairs
  rw [List.nodup_flatMap]
  constructor
  · intro entry _
    split
    · exact List.nodup_nil
    · exact (h entry.1).map fun a b hab => (Prod.mk.inj hab).1
  · have hkeys : T.infos.entries.Pairwise fun a b => a.1 ≠ b.1 :=
      List.pairwise_map.mp T.infos.nodup
    refine hkeys.imp ?_
    intro a b hne p ha hb
    dsimp only at ha hb
    split at ha
    · exact List.not_mem_nil ha
    · split at hb
      · exact List.not_mem_nil hb
      · obtain ⟨_, -, rfl⟩ := List.mem_map.mp ha
        obtain ⟨_, -, hpair⟩ := List.mem_map.mp hb
        exact hne (Prod.mk.inj hpair).2.symm

theorem nodup_membersOf (h : ∀ u, (reading.groupsOf u).Nodup) (u : UUID) :
    (T.membersOf reading u).Nodup := by
  rw [membersOf_eq]
  refine ((nodup_memberPairs h).filter _).map_on ?_
  intro p hp q hq hsnd
  have hp : p.1 = u.str := of_decide_eq_true (List.mem_filter.mp hp).2
  have hq : q.1 = u.str := of_decide_eq_true (List.mem_filter.mp hq).2
  exact Prod.ext (hp.trans hq.symm) hsnd

/-! ## The leader -/

/-- The pair that the map of the hosts has for a record. -/
def hostPair (entry : UUID × DiscoveryRecord) : Option (String × UUID) :=
  if entry.2.isAudioGroup then none
  else (entry.2.castInfo.host.filter (· ≠ "")).map fun host => (host, entry.1)

theorem hostsToUuid_eq : T.hostsToUuid =
    (T.infos.entries.filterMap hostPair).foldl (fun d p => d.set p.1 p.2) ∅ := by
  unfold hostsToUuid
  rw [List.foldl_filterMap]
  congr 1
  funext d entry
  unfold hostPair
  cases hhost : entry.2.castInfo.host with
  | none => cases entry.2.isAudioGroup <;> rfl
  | some host =>
    by_cases hempty : host = ""
    · cases entry.2.isAudioGroup <;> simp [hempty, Option.filter]
    · cases entry.2.isAudioGroup <;> simp [hempty, Option.filter]

theorem mem_hostPairs {host : String} : (host, v) ∈ T.infos.entries.filterMap hostPair ↔
    host ≠ "" ∧ ∃ info, T.IsDevice v info ∧ info.castInfo.host = some host := by
  unfold IsDevice
  rw [List.mem_filterMap]
  constructor
  · rintro ⟨entry, hentry, hpair⟩
    unfold hostPair at hpair
    split at hpair
    · cases hpair
    · next hdevice =>
      obtain ⟨host', hhost', heq⟩ := Option.map_eq_some_iff.mp hpair
      obtain ⟨rfl, rfl⟩ := Prod.mk.inj heq
      obtain ⟨hhost, hne⟩ := Option.filter_eq_some_iff.mp hhost'
      exact ⟨of_decide_eq_true hne, entry.2,
        ⟨(Dict.get?_eq_some_iff _ _ _).mpr hentry, Bool.eq_false_iff.mpr hdevice⟩, hhost⟩
  · rintro ⟨hne, info, ⟨hinfo, hdevice⟩, hhost⟩
    refine ⟨(v, info), (Dict.get?_eq_some_iff _ _ _).mp hinfo, ?_⟩
    unfold hostPair
    rw [if_neg (by rw [hdevice]; exact Bool.false_ne_true), hhost]
    simp [Option.filter, hne]

/-- The leader that the map has for an address is a device at that address. -/
theorem of_get?_hostsToUuid {host : String} (h : T.hostsToUuid.get? host = some v) :
    host ≠ "" ∧ ∃ info, T.IsDevice v info ∧ info.castInfo.host = some host := by
  rw [hostsToUuid_eq, Dict.get?_foldl_pairs, Dict.get?_empty, Option.or_none] at h
  obtain ⟨p, hp, rfl⟩ := Option.map_eq_some_iff.mp h
  obtain ⟨hmem, hkey⟩ := List.mem_filter.mp (List.mem_of_getLast? hp)
  rw [← of_decide_eq_true hkey]
  exact mem_hostPairs.mp hmem

theorem get?_hostsToUuid_ne_none {host : String} (hhost : host ≠ "") (hdevice : T.IsDevice v info)
    (hinfo : info.castInfo.host = some host) : T.hostsToUuid.get? host ≠ none := by
  intro hnone
  rw [hostsToUuid_eq, Dict.get?_foldl_pairs, Dict.get?_empty, Option.or_none,
    Option.map_eq_none_iff, List.getLast?_eq_none_iff, List.filter_eq_nil_iff] at hnone
  exact hnone (host, v) (mem_hostPairs.mpr ⟨hhost, info, hdevice, hinfo⟩) (decide_eq_true rfl)

/-! ## The topology of one group -/

theorem perm_memberUuids :
    (T.groupTopology reading u info).memberUuids.Perm (T.membersOf reading u) :=
  List.mergeSort_perm _ _

theorem mem_memberUuids : v ∈ (T.groupTopology reading u info).memberUuids ↔
    T.IsMember reading u v := by
  rw [perm_memberUuids.mem_iff, mem_membersOf]

theorem sorted_memberUuids :
    (T.groupTopology reading u info).memberUuids.Pairwise fun v w => v.str ≤ w.str := by
  have hsorted : (T.groupTopology reading u info).memberUuids.Pairwise
      fun v w => decide (v.str ≤ w.str) = true := by
    apply List.pairwise_mergeSort
    · intro v w x hvw hwx
      exact decide_eq_true (String.le_trans (of_decide_eq_true hvw) (of_decide_eq_true hwx))
    · intro v w
      rw [Bool.or_eq_true, decide_eq_true_iff, decide_eq_true_iff]
      exact String.le_total v.str w.str
  exact hsorted.imp of_decide_eq_true

theorem get?_memberIps (hmember : T.IsMember reading u v) :
    (T.groupTopology reading u info).memberIps.get? v.str = some (T.hostOf v) := by
  have hmem : v ∈ (T.groupTopology reading u info).memberUuids := mem_memberUuids.mpr hmember
  refine Dict.get?_foldl_set_of_mem (f := UUID.str) (g := T.hostOf) hmem ?_ ∅
  intro w _ hstr
  rw [UUID.str_inj hstr]

theorem of_get?_memberIps {key : String} {host : Option String}
    (h : (T.groupTopology reading u info).memberIps.get? key = some host) :
    ∃ v, T.IsMember reading u v ∧ v.str = key ∧ T.hostOf v = host := by
  rcases Dict.get?_foldl_set UUID.str T.hostOf _ ∅ key host h with ⟨v, hv, hkey, hhost⟩ | ⟨-, hnone⟩
  · have hmem : v ∈ (T.groupTopology reading u info).memberUuids := hv
    exact ⟨v, mem_memberUuids.mp hmem, hkey, hhost⟩
  · cases hnone

/-- No uuid has a text with an `l`. -/
theorem str_ne_leader (u : UUID) : u.str ≠ "leader" := by
  intro h
  have hhead := congrArg (fun s => s.toList.head?) h
  have hdigit : ∀ d < 16, Nat.digitChar d ≠ 'l' := by decide
  simp only [UUID.str, String.toList_ofList] at hhead
  exact hdigit _ (Nat.mod_lt _ (by decide)) (Option.some.inj hhead)

theorem leader_notMem_memberIps :
    "leader" ∉ (T.groupTopology reading u info).memberIps.entries.map Prod.fst := by
  intro hkey
  have hsome := (Dict.mem_keys (T.groupTopology reading u info).memberIps "leader").mp hkey
  obtain ⟨host, hhost⟩ := Option.isSome_iff_exists.mp hsome
  obtain ⟨v, -, hstr, -⟩ := of_get?_memberIps hhost
  exact str_ne_leader v hstr

theorem subnetOf_leaderIp (host : Option String) :
    T.subnetOf (host.filter (· ≠ "")) = T.subnetOf host := by
  cases host with
  | none => rfl
  | some host =>
    by_cases hempty : host = ""
    · rw [hempty]
      rfl
    · simp [Option.filter, hempty]

theorem get?_subnets_leader :
    (T.groupTopology reading u info).subnets.get? "leader" =
      some (T.subnetOf info.castInfo.host) := by
  have hnot : "leader" ∉ (T.groupTopology reading u info).memberIps.entries.map Prod.fst :=
    leader_notMem_memberIps
  have hkeep := Dict.get?_foldl_set_of_notMem
    (g := fun e : String × Option String => T.subnetOf e.2) hnot
    ((∅ : Dict String (Option String)).set "leader"
      (T.subnetOf (info.castInfo.host.filter (· ≠ ""))))
  refine hkeep.trans ?_
  rw [Dict.get?_set_self, subnetOf_leaderIp]

theorem get?_subnets_member (hmember : T.IsMember reading u v) :
    (T.groupTopology reading u info).subnets.get? v.str = some (T.subnetOf (T.hostOf v)) := by
  have hhost : (T.groupTopology reading u info).memberIps.get? v.str = some (T.hostOf v) :=
    get?_memberIps hmember
  have hentry := (Dict.get?_eq_some_iff _ _ _).mp hhost
  refine Dict.get?_foldl_set_of_mem (g := fun e : String × Option String => T.subnetOf e.2)
    hentry ?_ _
  rintro ⟨key, host⟩ hother hkey
  have hsame := (Dict.get?_eq_some_iff _ _ _).mpr hother
  rw [show key = v.str from hkey, hhost] at hsame
  exact congrArg T.subnetOf (Option.some.inj hsame).symm

theorem of_get?_subnets {key : String} {subnet : Option String}
    (h : (T.groupTopology reading u info).subnets.get? key = some subnet) :
    subnet = T.subnetOf info.castInfo.host ∨
      ∃ v, T.IsMember reading u v ∧ subnet = T.subnetOf (T.hostOf v) := by
  rcases Dict.get?_foldl_set Prod.fst (fun e : String × Option String => T.subnetOf e.2) _ _ key
    subnet h with ⟨entry, hentry, -, hsubnet⟩ | ⟨-, hleader⟩
  · have hget : (T.groupTopology reading u info).memberIps.get? entry.1 = some entry.2 :=
      (Dict.get?_eq_some_iff _ _ _).mpr hentry
    obtain ⟨v, hmember, -, hhost⟩ := of_get?_memberIps hget
    refine .inr ⟨v, hmember, ?_⟩
    rw [hhost]
    exact hsubnet.symm
  · rw [Dict.get?_set] at hleader
    split at hleader
    · rw [subnetOf_leaderIp] at hleader
      exact .inl (Option.some.inj hleader).symm
    · cases hleader

/-- The subnets that are known are those of the placed addresses. -/
theorem mem_subnets_iff (subnet : String) :
    some subnet ∈ (T.groupTopology reading u info).subnets.values ↔
      ∃ net, T.Placed reading u info net ∧ net.str = subnet := by
  have hplace (host : Option String) : T.subnetOf host = some subnet ↔
      ∃ ip, asIpv4 host = some ip ∧ (T.networkOf ip).str = subnet := by
    rw [subnetOf_eq, Option.map_eq_some_iff]
  unfold Placed
  rw [Dict.mem_values]
  constructor
  · rintro ⟨key, hkey⟩
    rcases of_get?_subnets hkey with hleader | ⟨v, hmember, hsubnet⟩
    · obtain ⟨ip, hip, hstr⟩ := (hplace _).mp hleader.symm
      exact ⟨_, ⟨_, ip, .inl rfl, hip, rfl⟩, hstr⟩
    · obtain ⟨ip, hip, hstr⟩ := (hplace _).mp hsubnet.symm
      exact ⟨_, ⟨_, ip, .inr ⟨v, hmember, rfl⟩, hip, rfl⟩, hstr⟩
  · rintro ⟨net, ⟨host, ip, hhost, hip, rfl⟩, hstr⟩
    have hsubnet := (hplace host).mpr ⟨ip, hip, hstr⟩
    rcases hhost with rfl | ⟨v, hmember, rfl⟩
    · exact ⟨"leader", by rw [get?_subnets_leader, hsubnet]⟩
    · exact ⟨v.str, by rw [get?_subnets_member hmember, hsubnet]⟩

/-- More than one element. -/
theorem one_lt_length_dedup {α : Type*} [DecidableEq α] {as : List α} :
    1 < as.dedup.length ↔ ∃ a ∈ as, ∃ b ∈ as, a ≠ b := by
  rw [← List.card_toFinset, Finset.one_lt_card]
  simp only [List.mem_toFinset]

/-- The subnets that `members_span_subnets` counts. -/
def knownSubnets (T : TopologyTracker) (reading : NetworkReading) (u : UUID)
    (info : DiscoveryRecord) : List String :=
  (T.groupTopology reading u info).subnets.values.filterMap fun subnet => subnet

theorem mem_knownSubnets (subnet : String) : subnet ∈ T.knownSubnets reading u info ↔
    ∃ net, T.Placed reading u info net ∧ net.str = subnet := by
  unfold knownSubnets
  rw [← mem_subnets_iff, List.mem_filterMap]
  constructor
  · rintro ⟨value, hvalue, rfl⟩
    exact hvalue
  · exact fun hvalue => ⟨some subnet, hvalue, rfl⟩

theorem membersSpanSubnets_groupTopology : (T.groupTopology reading u info).membersSpanSubnets =
    if (T.knownSubnets reading u info).dedup = [] then none
    else some (decide (1 < (T.knownSubnets reading u info).dedup.length)) := rfl

/-- Whether a group spans subnets is left open if no address is placed. -/
theorem membersSpanSubnets_eq_none : (T.groupTopology reading u info).membersSpanSubnets = none ↔
    ∀ net, ¬ T.Placed reading u info net := by
  rw [membersSpanSubnets_groupTopology]
  constructor
  · intro hspan net hnet
    split at hspan
    · next hempty =>
      have hstr := List.mem_dedup.mpr ((mem_knownSubnets net.str).mpr ⟨net, hnet, rfl⟩)
      rw [hempty] at hstr
      exact List.not_mem_nil hstr
    · cases hspan
  · intro hnone
    refine if_pos (List.eq_nil_iff_forall_not_mem.mpr ?_)
    intro subnet hsubnet
    obtain ⟨net, hnet, -⟩ := (mem_knownSubnets subnet).mp (List.mem_dedup.mp hsubnet)
    exact hnone net hnet

/-- A group spans subnets if two of its addresses are placed in different networks. -/
theorem membersSpanSubnets_eq_true :
    (T.groupTopology reading u info).membersSpanSubnets = some true ↔
      ∃ net net', T.Placed reading u info net ∧ T.Placed reading u info net' ∧ net ≠ net' := by
  rw [membersSpanSubnets_groupTopology]
  constructor
  · intro hspan
    split at hspan
    · cases hspan
    · obtain ⟨s, hs, s', hs', hne⟩ :=
        one_lt_length_dedup.mp (of_decide_eq_true (Option.some.inj hspan))
      obtain ⟨net, hnet, rfl⟩ := (mem_knownSubnets s).mp hs
      obtain ⟨net', hnet', rfl⟩ := (mem_knownSubnets s').mp hs'
      exact ⟨net, net', hnet, hnet', fun hsame => hne (congrArg IPv4Network.str hsame)⟩
  · rintro ⟨net, net', hnet, hnet', hne⟩
    -- the code counts texts, and different networks have different texts
    have hstr : net.str ≠ net'.str := fun hsame => hne (IPv4Network.str_inj hsame)
    have hlength : 1 < (T.knownSubnets reading u info).dedup.length :=
      one_lt_length_dedup.mpr ⟨net.str, (mem_knownSubnets _).mpr ⟨net, hnet, rfl⟩,
        net'.str, (mem_knownSubnets _).mpr ⟨net', hnet', rfl⟩, hstr⟩
    have hsome : (T.knownSubnets reading u info).dedup ≠ [] := by
      intro hempty
      rw [hempty] at hlength
      exact absurd hlength (by decide)
    rw [if_neg hsome, decide_eq_true hlength]

/-! ## The leader -/

theorem leaderUuid_groupTopology {ip : String}
    (hip : info.castInfo.host.filter (· ≠ "") = some ip) :
    (T.groupTopology reading u info).leaderUuid = T.hostsToUuid.get? ip := by
  show (info.castInfo.host.filter (· ≠ "")).bind T.hostsToUuid.get? = T.hostsToUuid.get? ip
  rw [hip]
  rfl

/-- A leader is a device at the host of the group. -/
theorem of_leaderUuid_groupTopology
    (h : (T.groupTopology reading u info).leaderUuid = some v) :
    ∃ device ip, T.IsDevice v device ∧ device.castInfo.host = some ip ∧
      info.castInfo.host.filter (· ≠ "") = some ip := by
  obtain ⟨ip, hip, hget⟩ := Option.bind_eq_some_iff.mp h
  obtain ⟨-, device, hdevice, hhost⟩ := of_get?_hostsToUuid hget
  exact ⟨device, ip, hdevice, hhost, hip⟩

theorem leaderUuid_groupTopology_ne_none {device : DiscoveryRecord} {ip : String}
    (hdevice : T.IsDevice v device) (hhost : device.castInfo.host = some ip)
    (hip : info.castInfo.host.filter (· ≠ "") = some ip) :
    (T.groupTopology reading u info).leaderUuid ≠ none := by
  have hne : ip ≠ "" := of_decide_eq_true (Option.filter_eq_some_iff.mp hip).2
  rw [leaderUuid_groupTopology hip]
  exact get?_hostsToUuid_ne_none hne hdevice hhost

/-! ## One group -/

/-- **The topology of a group is exact.** -/
theorem exact_groupTopology (h : ∀ u, (reading.groupsOf u).Nodup) (u : UUID)
    (info : DiscoveryRecord) : T.Exact reading u info (T.groupTopology reading u info) := by
  have hnodup : (T.groupTopology reading u info).memberUuids.Nodup :=
    perm_memberUuids.nodup_iff.mpr (nodup_membersOf h u)
  refine ⟨rfl, fun v => mem_memberUuids, hnodup, sorted_memberUuids, ?_, rfl, ?_, ?_,
    membersSpanSubnets_eq_none, membersSpanSubnets_eq_true⟩
  · -- the members are different, and so are their keys
    have hkeys : ((T.groupTopology reading u info).memberUuids.map UUID.str).Nodup :=
      hnodup.map fun v w => UUID.str_inj
    exact Dict.entries_foldl_set UUID.str T.hostOf _ ∅ hkeys fun v _ hkey => List.not_mem_nil hkey
  · intro v hleader
    exact of_leaderUuid_groupTopology hleader
  · intro v device ip hdevice hhost hip
    exact leaderUuid_groupTopology_ne_none hdevice hhost hip

/-! ## All groups -/

/-- The topology that `_compute_groups` has for a uuid. -/
theorem get?_groups_computeGroups : (T.computeGroups reading).groups.get? u =
    ((T.infos.get? u).filter DiscoveryRecord.isAudioGroup).map (T.groupTopology reading u) := by
  unfold computeGroups
  simp only
  rw [← List.foldl_filter (p := fun entry : UUID × DiscoveryRecord => entry.2.isAudioGroup)
    (f := fun groups entry => Dict.set groups entry.1 _)]
  cases hinfo : (T.infos.get? u).filter DiscoveryRecord.isAudioGroup with
  | none =>
    have hnot : u ∉ (T.infos.entries.filter fun entry => entry.2.isAudioGroup).map Prod.fst := by
      intro hmem
      obtain ⟨entry, hentry, rfl⟩ := List.mem_map.mp hmem
      obtain ⟨hentry, hgroup⟩ := List.mem_filter.mp hentry
      rw [(Dict.get?_eq_some_iff _ _ _).mpr hentry, Option.filter_some, if_pos hgroup] at hinfo
      cases hinfo
    exact Dict.get?_foldl_set_of_notMem hnot ∅
  | some info =>
    obtain ⟨hget, hgroup⟩ := Option.filter_eq_some_iff.mp hinfo
    have hentry : (u, info) ∈ T.infos.entries.filter fun entry => entry.2.isAudioGroup :=
      List.mem_filter.mpr ⟨(Dict.get?_eq_some_iff _ _ _).mp hget, hgroup⟩
    refine Dict.get?_foldl_set_of_mem (f := Prod.fst) (g := fun entry : UUID × DiscoveryRecord =>
      T.groupTopology reading entry.1 entry.2) hentry ?_ ∅
    rintro ⟨v, other⟩ hother hkey
    have hget' := (Dict.get?_eq_some_iff T.infos v other).mpr (List.mem_filter.mp hother).1
    rw [show v = u from hkey, hget] at hget'
    rw [show v = u from hkey, Option.some.inj hget']

end

/-- **The groups are the inversion of the memberships.** -/
theorem groupsExact (T : TopologyTracker) (reading : NetworkReading)
    (h : ∀ u, (reading.groupsOf u).Nodup) :
    T.GroupsExact reading (T.computeGroups reading).groups := by
  constructor
  · intro u
    rw [Dict.mem_keys, get?_groups_computeGroups, Option.isSome_map]
    constructor
    · intro hsome
      obtain ⟨info, hinfo⟩ := Option.isSome_iff_exists.mp hsome
      exact ⟨info, Option.filter_eq_some_iff.mp hinfo⟩
    · rintro ⟨info, hinfo⟩
      exact Option.isSome_iff_exists.mpr ⟨info, Option.filter_eq_some_iff.mpr hinfo⟩
  · intro u info group hinfo hget
    rw [get?_groups_computeGroups, hinfo] at hget
    obtain ⟨info', hinfo', rfl⟩ := Option.map_eq_some_iff.mp hget
    obtain ⟨heq, -⟩ := Option.filter_eq_some_iff.mp hinfo'
    cases heq
    exact exact_groupTopology h u info

/-- A speaker, a display that the manager does not know, and a group that the speaker leads. -/
def kitchen : TopologyTracker where
  infos := (((∅ : Dict UUID DiscoveryRecord).set ⟨1⟩
    { castInfo :=
        { uuid := ⟨1⟩, friendlyName := some "Kitchen", host := some "192.168.1.20", port := 8009
          castType := some "audio" } }).set ⟨2⟩
    { castInfo :=
        { uuid := ⟨2⟩, friendlyName := some "Display", host := some "192.168.2.30", port := 8009
          castType := some "cast" } }).set ⟨3⟩
    { castInfo :=
        { uuid := ⟨3⟩, friendlyName := some "Downstairs", host := some "192.168.1.20", port := 32123
          castType := some CAST_TYPE_GROUP } }

/-- The manager lists the group for the speaker and raises for the display. -/
def kitchenReading : NetworkReading where
  adapters := none
  internalUrl := none
  hostname := none
  memberships := some fun u => if u = ⟨1⟩ then some [UUID.str ⟨3⟩] else none

theorem groupsExact_kitchen :
    kitchen.GroupsExact kitchenReading (kitchen.computeGroups kitchenReading).groups := by
  apply groupsExact
  intro u
  show ((if u = ⟨1⟩ then some [UUID.str ⟨3⟩] else none : Option (List String)).getD []).Nodup
  split
  · exact List.nodup_singleton _
  · exact List.nodup_nil

end TopologyTracker

end CastDelivery
