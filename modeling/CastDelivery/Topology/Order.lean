import CastDelivery.Disclosure
import CastDelivery.Topology.Groups

/-!
# The order of an enumeration

The networks are read in the order of the adapters and of their addresses, and the discovery
records in the order in which the devices were found. `_subnet_of` takes the first network that an
address is in, and the map of the hosts has the last device at an address. `orderIndependent_iff`:
the refresh depends on these orders exactly if such an address is one of a group.
-/

namespace CastDelivery

/-! ## Other orders -/

/-- The same adapter, with its addresses in another order. -/
structure Adapter.Reorders (adapter adapter' : Adapter) : Prop where
  enabled : adapter.enabled = adapter'.enabled
  ipv4 : adapter.ipv4.Perm adapter'.ipv4

/-- The same adapters in another order. -/
def ReordersAdapters (adapters adapters' : List Adapter) : Prop :=
  ∃ moved, adapters.Perm moved ∧ List.Forall₂ Adapter.Reorders moved adapters'

/-- The same reading, with the adapters and their addresses in another order. -/
structure NetworkReading.Reorders (reading reading' : NetworkReading) : Prop where
  adapters : Option.Rel ReordersAdapters reading.adapters reading'.adapters
  internalUrl : reading.internalUrl = reading'.internalUrl
  hostname : reading.hostname = reading'.hostname
  memberships : reading.memberships = reading'.memberships

theorem NetworkReading.Reorders.refl (reading : NetworkReading) : reading.Reorders reading := by
  refine ⟨?_, rfl, rfl, rfl⟩
  cases reading.adapters with
  | none => exact .none
  | some adapters =>
    exact .some ⟨adapters, .refl _, List.forall₂_same.mpr fun other _ => ⟨rfl, .refl _⟩⟩

/-- The networks of the enabled adapters. -/
def NetworkReading.networks (reading : NetworkReading) : List IPv4Network :=
  ((reading.adapters.getD []).filter Adapter.enabled).flatMap fun adapter =>
    adapter.ipv4.map fun ipv4 => IPv4Network.ofAddress ipv4.1 ipv4.2

/-- What a group shows of its topology. -/
structure GroupView where
  leaderUuid : Option UUID
  memberUuids : List UUID
  subnets : String → Option (Option String)
  membersSpanSubnets : Option Bool

def GroupTopology.view (group : GroupTopology) : GroupView :=
  ⟨group.leaderUuid, group.memberUuids, group.subnets.get?, group.membersSpanSubnets⟩

namespace TopologyTracker

variable (T : TopologyTracker) (reading : NetworkReading)

/-- Two trackers that nothing tells apart but the order of what they read. -/
structure Alike (T' : TopologyTracker) : Prop where
  subnetMismatch : ∀ (L : DeliveryLedger) (u : UUID),
    ((applySubnetMismatch T L).health u).subnetMismatch =
      ((applySubnetMismatch T' L).health u).subnetMismatch
  groups : ∀ u, (T.groups.get? u).map GroupTopology.view = (T'.groups.get? u).map GroupTopology.view

/-- A refresh does not depend on the order of the adapters, their addresses and the records. -/
def OrderIndependent : Prop :=
  ∀ (T' : TopologyTracker) (reading' : NetworkReading), T.infos.entries.Perm T'.infos.entries →
    reading.Reorders reading' → (T.asyncRefresh reading).Alike (T'.asyncRefresh reading')

/-- The addresses of a group are those of one leader and in one network each. -/
structure Unambiguous : Prop where
  leader : ∀ u info ip, T.infos.get? u = some info → info.isAudioGroup = true →
    info.castInfo.host = some ip → ip ≠ "" →
    ∀ v device w device', T.IsDevice v device → T.IsDevice w device' →
      device.castInfo.host = some ip → device'.castInfo.host = some ip → v = w
  networks : ∀ u info host ip, T.infos.get? u = some info → info.isAudioGroup = true →
    (host = info.castInfo.host ∨ ∃ v, T.IsMember reading u v ∧ host = T.hostOf v) →
    asIpv4 host = some ip → ∀ net ∈ reading.networks, ∀ net' ∈ reading.networks,
      net.contains ip = true → net'.contains ip = true → net = net'

section

variable {T reading} {T' : TopologyTracker} {reading' : NetworkReading} {u v : UUID}
  {info : DiscoveryRecord} {ip : IPv4Address}

/-! ## The networks -/

theorem adapterNetworks_asyncLoadNetworks (T : TopologyTracker) (reading : NetworkReading) :
    (T.asyncLoadNetworks reading).adapterNetworks = reading.networks := by
  unfold asyncLoadNetworks
  cases reading.hostname with
  | none => rfl
  | some hostname =>
    simp only
    cases asIpv4 hostname <;> rfl

theorem perm_networks_of_reorders {adapters adapters' : List Adapter}
    (h : List.Forall₂ Adapter.Reorders adapters adapters') :
    ((adapters.filter Adapter.enabled).flatMap fun adapter =>
      adapter.ipv4.map fun ipv4 => IPv4Network.ofAddress ipv4.1 ipv4.2).Perm
      ((adapters'.filter Adapter.enabled).flatMap fun adapter =>
        adapter.ipv4.map fun ipv4 => IPv4Network.ofAddress ipv4.1 ipv4.2) := by
  induction h with
  | nil => exact .refl _
  | @cons adapter adapter' adapters adapters' hadapter _ ih =>
    by_cases henabled : adapter.enabled = true
    · rw [List.filter_cons_of_pos henabled,
        List.filter_cons_of_pos (hadapter.enabled.symm.trans henabled), List.flatMap_cons,
        List.flatMap_cons]
      exact (hadapter.ipv4.map _).append ih
    · rw [List.filter_cons_of_neg henabled,
        List.filter_cons_of_neg (by rw [← hadapter.enabled]; exact henabled)]
      exact ih

theorem perm_networks (h : reading.Reorders reading') :
    reading.networks.Perm reading'.networks := by
  unfold NetworkReading.networks
  cases hadapters : reading.adapters with
  | none =>
    have hrel := h.adapters
    rw [hadapters] at hrel
    cases hadapters' : reading'.adapters with
    | none => exact .refl _
    | some adapters' =>
      rw [hadapters'] at hrel
      cases hrel
  | some adapters =>
    have hrel := h.adapters
    rw [hadapters] at hrel
    cases hadapters' : reading'.adapters with
    | none =>
      rw [hadapters'] at hrel
      cases hrel
    | some adapters' =>
      rw [hadapters'] at hrel
      cases hrel with
      | some hreorders =>
        obtain ⟨moved, hperm, hmoved⟩ := hreorders
        exact ((hperm.filter _).flatMap_right _).trans (perm_networks_of_reorders hmoved)

/-- Which networks are the home networks does not depend on the order. -/
theorem perm_homeNetworks (h : reading.Reorders reading') :
    (T.asyncLoadNetworks reading).homeNetworks.Perm
      (T'.asyncLoadNetworks reading').homeNetworks := by
  have hnetworks := perm_networks h
  unfold NetworkReading.networks at hnetworks
  unfold asyncLoadNetworks
  rw [← h.hostname]
  cases reading.hostname with
  | none => exact .refl _
  | some hostname =>
    simp only
    cases asIpv4 hostname with
    | none => exact .refl _
    | some ip =>
      have hhome := hnetworks.filter fun net => net.contains ip
      simp only
      split
      · next hempty =>
        rw [hempty] at hhome
        rw [if_pos hhome.symm.eq_nil]
      · next hne =>
        rw [if_neg]
        · exact hhome
        · intro hempty
          rw [hempty] at hhome
          exact hne hhome.eq_nil

theorem networkOf_congr (h : T.adapterNetworks.Perm T'.adapterNetworks)
    (honly : ∀ net ∈ T.adapterNetworks, ∀ net' ∈ T.adapterNetworks, net.contains ip = true →
      net'.contains ip = true → net = net') : T.networkOf ip = T'.networkOf ip := by
  by_cases hsome : ∃ net ∈ T.adapterNetworks, net.contains ip = true
  · obtain ⟨net, hnet, hcontains⟩ := hsome
    rw [networkOf_eq_of_mem hnet hcontains fun net' hnet' hcontains' =>
        honly net' hnet' net hnet hcontains' hcontains,
      networkOf_eq_of_mem (h.mem_iff.mp hnet) hcontains fun net' hnet' hcontains' =>
        honly net' (h.mem_iff.mpr hnet') net hnet hcontains' hcontains]
  · have hnone (net : IPv4Network) (hnet : net ∈ T.adapterNetworks) : net.contains ip = false := by
      by_contra hcontains
      exact hsome ⟨net, hnet, Bool.eq_true_of_not_eq_false hcontains⟩
    rw [networkOf_eq_assumed hnone,
      networkOf_eq_assumed fun net hnet => hnone net (h.mem_iff.mpr hnet)]

/-! ## The mismatch -/

theorem mismatchOf_congr (h : T.homeNetworks.Perm T'.homeNetworks) (host : Option String) :
    T.mismatchOf host = T'.mismatchOf host := by
  have hempty : T.homeNetworks = [] ↔ T'.homeNetworks = [] := by
    constructor
    · intro hnil
      rw [hnil] at h
      exact h.symm.eq_nil
    · intro hnil
      rw [hnil] at h
      exact h.eq_nil
  unfold mismatchOf
  cases asIpv4 host with
  | none => rfl
  | some ip =>
    simp only [hempty, h.any_eq]

/-! ## The groups -/

/-- The same records, and memberships from the same manager. -/
structure SameRecords (T : TopologyTracker) (reading : NetworkReading) (T' : TopologyTracker)
    (reading' : NetworkReading) : Prop where
  infos : T.infos.entries.Perm T'.infos.entries
  memberships : reading.memberships = reading'.memberships

theorem SameRecords.get?_infos (h : SameRecords T reading T' reading') (u : UUID) :
    T.infos.get? u = T'.infos.get? u := Dict.get?_eq_of_perm h.infos u

theorem SameRecords.isDevice_iff (h : SameRecords T reading T' reading') :
    T.IsDevice v info ↔ T'.IsDevice v info := by
  unfold IsDevice
  rw [h.get?_infos]

theorem SameRecords.hostOf_eq (h : SameRecords T reading T' reading') : T.hostOf = T'.hostOf := by
  funext v
  unfold hostOf
  rw [h.get?_infos]

theorem SameRecords.groupsOf_eq (h : SameRecords T reading T' reading') (u : UUID) :
    reading.groupsOf u = reading'.groupsOf u := by
  unfold NetworkReading.groupsOf
  rw [h.memberships]

/-- The members are sorted, so that the order of the devices does not show. -/
theorem SameRecords.memberUuids_eq (h : SameRecords T reading T' reading') :
    (T.groupTopology reading u info).memberUuids =
      (T'.groupTopology reading' u info).memberUuids := by
  have hpairs : (T.memberPairs reading).Perm (T'.memberPairs reading') := by
    unfold memberPairs
    simp only [h.groupsOf_eq]
    exact h.infos.flatMap_right _
  have hmembers : (T.membersOf reading u).Perm (T'.membersOf reading' u) := by
    rw [membersOf_eq, membersOf_eq]
    exact (hpairs.filter _).map _
  have hsorted : (T.groupTopology reading u info).memberUuids.Perm
      (T'.groupTopology reading' u info).memberUuids :=
    (perm_memberUuids.trans hmembers).trans perm_memberUuids.symm
  refine hsorted.eq_of_pairwise ?_ sorted_memberUuids sorted_memberUuids
  intro v w _ _ hvw hwv
  exact UUID.str_inj (String.le_antisymm hvw hwv)

theorem SameRecords.memberIps_eq (h : SameRecords T reading T' reading') :
    (T.groupTopology reading u info).memberIps = (T'.groupTopology reading' u info).memberIps := by
  show (T.groupTopology reading u info).memberUuids.foldl
      (fun (ips : Dict String (Option String)) member => ips.set member.str (T.hostOf member)) ∅ =
    (T'.groupTopology reading' u info).memberUuids.foldl
      (fun (ips : Dict String (Option String)) member => ips.set member.str (T'.hostOf member)) ∅
  rw [h.memberUuids_eq, h.hostOf_eq]

theorem SameRecords.subnets_eq (h : SameRecords T reading T' reading')
    (hleader : T.subnetOf info.castInfo.host = T'.subnetOf info.castInfo.host)
    (hmember : ∀ v, T.IsMember reading u v →
      T.subnetOf (T.hostOf v) = T'.subnetOf (T.hostOf v)) :
    (T.groupTopology reading u info).subnets = (T'.groupTopology reading' u info).subnets := by
  show (T.groupTopology reading u info).memberIps.entries.foldl
      (fun subnets entry => subnets.set entry.1 (T.subnetOf entry.2))
      ((∅ : Dict String (Option String)).set "leader"
        (T.subnetOf (info.castInfo.host.filter (· ≠ "")))) =
    (T'.groupTopology reading' u info).memberIps.entries.foldl
      (fun subnets entry => subnets.set entry.1 (T'.subnetOf entry.2))
      ((∅ : Dict String (Option String)).set "leader"
        (T'.subnetOf (info.castInfo.host.filter (· ≠ ""))))
  rw [subnetOf_leaderIp, subnetOf_leaderIp, hleader, ← h.memberIps_eq]
  apply List.foldl_ext
  intro subnets entry hentry
  obtain ⟨v, hv, -, hhost⟩ :=
    of_get?_memberIps ((Dict.get?_eq_some_iff _ entry.1 entry.2).mpr hentry)
  rw [← hhost, hmember v hv]

theorem SameRecords.leaderUuid_eq (h : SameRecords T reading T' reading')
    (honly : ∀ host, info.castInfo.host = some host → host ≠ "" →
      ∀ v device w device', T.IsDevice v device → T.IsDevice w device' →
        device.castInfo.host = some host → device'.castInfo.host = some host → v = w) :
    (T.groupTopology reading u info).leaderUuid =
      (T'.groupTopology reading' u info).leaderUuid := by
  cases hlead : (T.groupTopology reading u info).leaderUuid with
  | none =>
    cases hlead' : (T'.groupTopology reading' u info).leaderUuid with
    | none => rfl
    | some w =>
      obtain ⟨device, host, hdevice, hat, hleader⟩ := of_leaderUuid_groupTopology hlead'
      exact absurd hlead
        (leaderUuid_groupTopology_ne_none (h.isDevice_iff.mpr hdevice) hat hleader)
  | some v =>
    obtain ⟨device, host, hdevice, hat, hleader⟩ := of_leaderUuid_groupTopology hlead
    cases hlead' : (T'.groupTopology reading' u info).leaderUuid with
    | none =>
      exact absurd hlead'
        (leaderUuid_groupTopology_ne_none (h.isDevice_iff.mp hdevice) hat hleader)
    | some w =>
      -- both are recorded at the host of the group, and there is only one device at it
      obtain ⟨device', host', hdevice', hat', hleader'⟩ := of_leaderUuid_groupTopology hlead'
      obtain rfl := Option.some.inj (hleader.symm.trans hleader')
      obtain ⟨hhost, hne⟩ := Option.filter_eq_some_iff.mp hleader
      exact congrArg some (honly host hhost (of_decide_eq_true hne) v device w device' hdevice
        (h.isDevice_iff.mpr hdevice') hat hat')

theorem SameRecords.view_eq (h : SameRecords T reading T' reading')
    (hsubnets : (T.groupTopology reading u info).subnets =
      (T'.groupTopology reading' u info).subnets)
    (hleader : (T.groupTopology reading u info).leaderUuid =
      (T'.groupTopology reading' u info).leaderUuid) :
    (T.groupTopology reading u info).view = (T'.groupTopology reading' u info).view := by
  have hspan : (T.groupTopology reading u info).membersSpanSubnets =
      (T'.groupTopology reading' u info).membersSpanSubnets := by
    rw [membersSpanSubnets_groupTopology, membersSpanSubnets_groupTopology]
    unfold knownSubnets
    rw [hsubnets]
  unfold GroupTopology.view
  rw [hsubnets, hleader, hspan, h.memberUuids_eq]

theorem get?_groups_asyncRefresh (T : TopologyTracker) (reading : NetworkReading) (u : UUID) :
    (T.asyncRefresh reading).groups.get? u =
      ((T.infos.get? u).filter DiscoveryRecord.isAudioGroup).map
        ((T.asyncLoadNetworks reading).groupTopology reading u) := by
  unfold asyncRefresh
  rw [get?_groups_computeGroups, infos_asyncLoadNetworks]

theorem isMember_asyncLoadNetworks :
    (T.asyncLoadNetworks reading).IsMember reading' u v ↔ T.IsMember reading' u v := by
  unfold IsMember IsDevice
  rw [infos_asyncLoadNetworks]

theorem hostOf_asyncLoadNetworks : (T.asyncLoadNetworks reading).hostOf v = T.hostOf v := by
  unfold hostOf
  rw [infos_asyncLoadNetworks]

section

variable (hinfos : T.infos.entries.Perm T'.infos.entries) (hreorders : reading.Reorders reading')

include hinfos hreorders

/-- The mismatch of a device asks all home networks, so that no order shows in it. -/
theorem subnetMismatch_eq_of_reorders (L : DeliveryLedger) (u : UUID) :
    ((applySubnetMismatch (T.asyncRefresh reading) L).health u).subnetMismatch =
      ((applySubnetMismatch (T'.asyncRefresh reading') L).health u).subnetMismatch := by
  have hhome : (T.asyncRefresh reading).homeNetworks.Perm
      (T'.asyncRefresh reading').homeNetworks := perm_homeNetworks hreorders
  rw [DiagnosticsState.health_applySubnetMismatch, DiagnosticsState.health_applySubnetMismatch,
    infos_asyncRefresh, infos_asyncRefresh, Dict.get?_eq_of_perm hinfos]
  cases T'.infos.get? u with
  | none => rfl
  | some info => exact mismatchOf_congr hhome info.castInfo.host

theorem sameRecords_asyncLoadNetworks : SameRecords (T.asyncLoadNetworks reading) reading
    (T'.asyncLoadNetworks reading') reading' := by
  refine ⟨?_, hreorders.memberships⟩
  rw [infos_asyncLoadNetworks, infos_asyncLoadNetworks]
  exact hinfos

end

/-- An address that is in one network at most is placed in it whatever the order. -/
theorem subnetOf_eq_of_reorders {host : Option String} (hreorders : reading.Reorders reading')
    (honly : ∀ ip, asIpv4 host = some ip → ∀ net ∈ reading.networks, ∀ net' ∈ reading.networks,
      net.contains ip = true → net'.contains ip = true → net = net') :
    (T.asyncLoadNetworks reading).subnetOf host =
      (T'.asyncLoadNetworks reading').subnetOf host := by
  have hnetworks : (T.asyncLoadNetworks reading).adapterNetworks.Perm
      (T'.asyncLoadNetworks reading').adapterNetworks := by
    rw [adapterNetworks_asyncLoadNetworks, adapterNetworks_asyncLoadNetworks]
    exact perm_networks hreorders
  rw [subnetOf_eq, subnetOf_eq]
  apply Option.map_congr
  intro ip hip
  rw [networkOf_congr hnetworks]
  rw [adapterNetworks_asyncLoadNetworks]
  exact honly ip hip

/-- Without an ambiguous address the orders do not show. -/
theorem orderIndependent_of_unambiguous (h : T.Unambiguous reading) :
    T.OrderIndependent reading := by
  intro T' reading' hinfos hreorders
  have hsame := sameRecords_asyncLoadNetworks hinfos hreorders
  refine ⟨subnetMismatch_eq_of_reorders hinfos hreorders, ?_⟩
  intro u
  rw [get?_groups_asyncRefresh, get?_groups_asyncRefresh, ← Dict.get?_eq_of_perm hinfos,
    Option.map_map, Option.map_map]
  apply Option.map_congr
  intro info hinfo
  obtain ⟨hget, hgroup⟩ := Option.filter_eq_some_iff.mp hinfo
  have hplaced (host : Option String) (hrole : host = info.castInfo.host ∨
      ∃ v, T.IsMember reading u v ∧ host = T.hostOf v) :
      (T.asyncLoadNetworks reading).subnetOf host =
        (T'.asyncLoadNetworks reading').subnetOf host :=
    subnetOf_eq_of_reorders hreorders fun ip hip =>
      h.networks u info host ip hget hgroup hrole hip
  refine hsame.view_eq (hsame.subnets_eq (hplaced _ (.inl rfl)) ?_) (hsame.leaderUuid_eq ?_)
  · intro v hv
    rw [hostOf_asyncLoadNetworks]
    exact hplaced _ (.inr ⟨v, isMember_asyncLoadNetworks.mp hv, rfl⟩)
  · intro host hhost hne v device w device'
    unfold IsDevice
    rw [infos_asyncLoadNetworks]
    exact h.leader u info host hget hgroup hhost hne v device w device'

/-! ## Orders that show -/

/-- The device that was discovered last has its address. -/
theorem get?_hostsToUuid_of_last {front : List (UUID × DiscoveryRecord)} {host : String}
    (hlast : T.infos.entries = front ++ [(v, info)]) (hdevice : info.isAudioGroup = false)
    (hhost : info.castInfo.host = some host) (hne : host ≠ "") :
    T.hostsToUuid.get? host = some v := by
  have hpair : hostPair (v, info) = some (host, v) := by
    unfold hostPair
    rw [hdevice, hhost, Option.filter_some, if_pos (decide_eq_true hne)]
    rfl
  rw [hostsToUuid_eq, Dict.get?_foldl_pairs, hlast, List.filterMap_append, List.filterMap_cons,
    hpair, List.filterMap_nil, List.filter_append,
    List.filter_cons_of_pos (by simp), List.filter_nil, List.getLast?_concat]
  rfl

/-- A network of the reading can come first. -/
theorem exists_networks_eq_cons {net : IPv4Network} (h : net ∈ reading.networks) :
    ∃ reading', reading.Reorders reading' ∧ ∃ rest, reading'.networks = net :: rest := by
  cases hadapters : reading.adapters with
  | none =>
    unfold NetworkReading.networks at h
    rw [hadapters] at h
    cases h
  | some adapters =>
    unfold NetworkReading.networks at h
    rw [hadapters, Option.getD_some, List.mem_flatMap] at h
    obtain ⟨adapter, hadapter, hnet⟩ := h
    obtain ⟨hmem, henabled⟩ := List.mem_filter.mp hadapter
    obtain ⟨ipv4, hipv4, rfl⟩ := List.mem_map.mp hnet
    obtain ⟨before, after, rfl⟩ := List.append_of_mem hmem
    obtain ⟨first, last, hsplit⟩ := List.append_of_mem hipv4
    -- its adapter is moved to the front, and its address to the front of the adapter
    have hreorders : ReordersAdapters (before ++ adapter :: after)
        ({ adapter with ipv4 := ipv4 :: (first ++ last) } :: (before ++ after)) := by
      refine ⟨adapter :: (before ++ after), List.perm_middle, .cons ⟨rfl, ?_⟩ ?_⟩
      · rw [hsplit]
        exact List.perm_middle
      · exact List.forall₂_same.mpr fun other _ => ⟨rfl, .refl _⟩
    refine ⟨{ reading with
        adapters := some ({ adapter with ipv4 := ipv4 :: (first ++ last) } :: (before ++ after)) },
      ⟨?_, rfl, rfl, rfl⟩, ?_⟩
    · rw [hadapters]
      exact .some hreorders
    · unfold NetworkReading.networks
      rw [Option.getD_some, List.filter_cons_of_pos (by exact henabled), List.flatMap_cons,
        List.map_cons, List.cons_append]
      exact ⟨_, rfl⟩

theorem Alike.view_eq (h : (T.asyncRefresh reading).Alike (T'.asyncRefresh reading'))
    (hget : T.infos.get? u = some info) (hget' : T'.infos.get? u = some info)
    (hgroup : info.isAudioGroup = true) :
    ((T.asyncLoadNetworks reading).groupTopology reading u info).view =
      ((T'.asyncLoadNetworks reading').groupTopology reading' u info).view := by
  have hview := h.groups u
  rw [get?_groups_asyncRefresh, get?_groups_asyncRefresh, hget, hget', Option.filter_some,
    if_pos hgroup] at hview
  exact Option.some.inj hview

/-- A device at the address of the leader can come last, and is the leader then. -/
theorem OrderIndependent.leaderUuid_eq {host : String} {device : DiscoveryRecord}
    (h : T.OrderIndependent reading) (hget : T.infos.get? u = some info)
    (hgroup : info.isAudioGroup = true) (hhost : info.castInfo.host = some host) (hne : host ≠ "")
    (hdevice : T.IsDevice v device) (hat : device.castInfo.host = some host) :
    ((T.asyncLoadNetworks reading).groupTopology reading u info).leaderUuid = some v := by
  obtain ⟨infos, front, hperm, hlast⟩ :=
    Dict.exists_entries_eq_append ((Dict.get?_eq_some_iff _ _ _).mp hdevice.1)
  have hlike := h { T with infos := infos } reading hperm (.refl reading)
  have hview := hlike.view_eq hget ((Dict.get?_eq_of_perm hperm u).symm.trans hget) hgroup
  have hleader := congrArg GroupView.leaderUuid hview
  have hmoved : ({ T with infos := infos }.asyncLoadNetworks reading).infos.entries =
      front ++ [(v, device)] := by
    rw [infos_asyncLoadNetworks]
    exact hlast
  refine hleader.trans ?_
  show (({ T with infos := infos }.asyncLoadNetworks reading).groupTopology reading u
    info).leaderUuid = some v
  have hleads : info.castInfo.host.filter (· ≠ "") = some host := by
    rw [hhost, Option.filter_some, if_pos (decide_eq_true hne)]
  rw [leaderUuid_groupTopology hleads]
  exact get?_hostsToUuid_of_last hmoved hdevice.2 hat hne

/-- A network that an address of a group is in can come first, and is its subnet then. -/
theorem OrderIndependent.subnetOf_eq {host : Option String} {net : IPv4Network}
    (h : T.OrderIndependent reading) (hget : T.infos.get? u = some info)
    (hgroup : info.isAudioGroup = true)
    (hrole : host = info.castInfo.host ∨ ∃ v, T.IsMember reading u v ∧ host = T.hostOf v)
    (hip : asIpv4 host = some ip) (hnet : net ∈ reading.networks)
    (hcontains : net.contains ip = true) :
    (T.asyncLoadNetworks reading).subnetOf host = some net.str := by
  obtain ⟨reading', hreorders, rest, hfirst⟩ := exists_networks_eq_cons hnet
  have hlike := h T reading' (.refl _) hreorders
  have hview := congrArg GroupView.subnets (hlike.view_eq hget hget hgroup)
  have hmoved : (T.asyncLoadNetworks reading').subnetOf host = some net.str := by
    rw [TopologyTracker.subnetOf_eq, hip, Option.map_some]
    rw [networkOf_eq_head ((adapterNetworks_asyncLoadNetworks _ _).trans hfirst) hcontains]
  rw [← hmoved]
  rcases hrole with rfl | ⟨v, hmember, rfl⟩
  · have hleader := congrFun hview "leader"
    exact Option.some.inj (get?_subnets_leader.symm.trans (hleader.trans get?_subnets_leader))
  · have hmember' : T.IsMember reading' u v := by
      unfold IsMember NetworkReading.groupsOf at hmember ⊢
      rw [← hreorders.memberships]
      exact hmember
    have hkey := congrFun hview v.str
    have hsubnet := Option.some.inj
      ((get?_subnets_member (isMember_asyncLoadNetworks.mpr hmember)).symm.trans
        (hkey.trans (get?_subnets_member (isMember_asyncLoadNetworks.mpr hmember'))))
    rw [hostOf_asyncLoadNetworks, hostOf_asyncLoadNetworks] at hsubnet
    exact hsubnet

theorem unambiguous_of_orderIndependent (h : T.OrderIndependent reading) :
    T.Unambiguous reading := by
  constructor
  · intro u info host hget hgroup hhost hne v device w device' hv hw hat hat'
    have hleader := h.leaderUuid_eq hget hgroup hhost hne hv hat
    rw [h.leaderUuid_eq hget hgroup hhost hne hw hat'] at hleader
    exact (Option.some.inj hleader).symm
  · intro u info host ip hget hgroup hrole hip net hnet net' hnet' hcontains hcontains'
    have hsubnet := h.subnetOf_eq hget hgroup hrole hip hnet hcontains
    rw [h.subnetOf_eq hget hgroup hrole hip hnet' hcontains'] at hsubnet
    exact (IPv4Network.str_inj (Option.some.inj hsubnet)).symm

end

/-- **A refresh does not depend on an order exactly if** no address of a group is in two networks
of the adapters, and no leader's address is that of two devices. -/
theorem orderIndependent_iff (T : TopologyTracker) (reading : NetworkReading) :
    T.OrderIndependent reading ↔ T.Unambiguous reading :=
  ⟨unambiguous_of_orderIndependent, orderIndependent_of_unambiguous⟩

/-- Two adapters with overlapping networks. The leader of the group is in both, the display only
in the larger one. -/
def overlapping : NetworkReading where
  adapters := some
    [⟨true, [(⟨3232235781#32⟩, ⟨24, by decide⟩)]⟩, ⟨true, [(⟨3232235521#32⟩, ⟨16, by decide⟩)]⟩]
  internalUrl := none
  hostname := none
  memberships := some fun _ => some [UUID.str ⟨3⟩]

/-- The order of the two adapters tells whether the group spans subnets. -/
theorem not_orderIndependent : ¬ kitchen.OrderIndependent overlapping := by
  intro h
  have hip : asIpv4 (some "192.168.1.20") = some ⟨3232235796#32⟩ := by decide
  have hsame := (unambiguous_of_orderIndependent h).networks ⟨3⟩ _ _ _ rfl rfl (.inl rfl) hip
    (.ofAddress ⟨3232235781#32⟩ ⟨24, by decide⟩) (by decide)
    (.ofAddress ⟨3232235521#32⟩ ⟨16, by decide⟩) (by decide)
    (by decide) (by decide)
  exact absurd hsame (by decide)

end TopologyTracker

end CastDelivery
