import CastDelivery.Lib.Decimal
import CastDelivery.Topology.Basic

/-!
# The networks of the adapters

The topology stores networks as texts. `IPv4Network.str_inj`: a text stands for one network, so
that comparing the texts is comparing the networks.
-/

namespace CastDelivery

/-! ## The text of a network -/

namespace IPv4Address

/-- An address is determined by its octets. -/
theorem eq_of_octets {a b : IPv4Address} (h : ∀ k < 4, a.octet k = b.octet k) : a = b := by
  obtain ⟨x⟩ := a
  obtain ⟨y⟩ := b
  congr 1
  apply BitVec.eq_of_toNat_eq
  have h0 := h 0 (by decide)
  have h1 := h 1 (by decide)
  have h2 := h 2 (by decide)
  have h3 := h 3 (by decide)
  have hx := x.isLt
  have hy := y.isLt
  simp only [octet, Nat.shiftRight_eq_div_pow] at h0 h1 h2 h3
  omega

theorem toList_str (a : IPv4Address) :
    a.str.toList =
      ['.'].intercalate ((List.range 4).map fun k => Nat.toDigits 10 (a.octet k)) := by
  unfold str
  rw [String.toList_intercalate, List.map_map]
  simp only [Function.comp_def, Nat.toString_eq_repr, Nat.toList_repr]
  rfl

theorem str_inj {a b : IPv4Address} (h : a.str = b.str) : a = b := by
  have hlist := congrArg String.toList h
  rw [toList_str, toList_str] at hlist
  have hnodot (c : IPv4Address) :
      ∀ octet ∈ (List.range 4).map fun k => Nat.toDigits 10 (c.octet k), '.' ∉ octet := by
    intro octet hoctet
    obtain ⟨k, -, rfl⟩ := List.mem_map.mp hoctet
    exact notMem_toDigits (by decide) _
  have hsplit := congrArg (List.splitOn '.') hlist
  rw [List.splitOn_intercalate '.' (hnodot a) (by simp),
    List.splitOn_intercalate '.' (hnodot b) (by simp)] at hsplit
  apply eq_of_octets
  intro k hk
  exact toDigits_inj (List.map_inj_left.mp hsplit k (List.mem_range.mpr hk))

theorem slash_notMem_str (a : IPv4Address) : '/' ∉ a.str.toList := by
  rw [toList_str]
  have hoctet (k : ℕ) : '/' ∉ Nat.toDigits 10 (a.octet k) := notMem_toDigits (by decide) _
  simp [List.range_succ, List.intercalate, hoctet]

end IPv4Address

/-- `str(net)` is injective. -/
theorem IPv4Network.str_inj {net net' : IPv4Network} (h : net.str = net'.str) : net = net' := by
  have hlist := congrArg String.toList h
  have hstr (n : IPv4Network) :
      n.str.toList = n.address.str.toList ++ '/' :: Nat.toDigits 10 n.prefixlen := by
    simp [IPv4Network.str]
  rw [hstr, hstr, List.append_cons_inj_of_notMem (IPv4Address.slash_notMem_str _)
    (notMem_toDigits (by decide) _)] at hlist
  obtain ⟨haddress, -, hprefixlen⟩ := hlist
  obtain ⟨address, prefixlen⟩ := net
  obtain ⟨address', prefixlen'⟩ := net'
  have h₁ : address = address' := IPv4Address.str_inj (String.toList_inj.mp haddress)
  have h₂ : prefixlen = prefixlen' := Fin.ext (toDigits_inj hprefixlen)
  rw [h₁, h₂]

/-! ## Placement -/

namespace TopologyTracker

/-- The network that an address is placed in. -/
def networkOf (T : TopologyTracker) (ip : IPv4Address) : IPv4Network :=
  (T.adapterNetworks.find? fun net => net.contains ip).getD
    (IPv4Network.ofAddress ip ASSUMED_PREFIX)

variable {T T' : TopologyTracker} {host : Option String} {ip : IPv4Address} {net : IPv4Network}

theorem subnetOf_eq (T : TopologyTracker) (host : Option String) :
    T.subnetOf host = (asIpv4 host).map fun ip => (T.networkOf ip).str := by
  unfold subnetOf networkOf
  cases asIpv4 host with
  | none => rfl
  | some ip =>
    simp only [Option.map_some]
    cases T.adapterNetworks.find? fun net => net.contains ip <;> rfl

/-- An address that the adapters' networks do not share is placed alike in every order. -/
theorem networkOf_eq_of_mem (hmem : net ∈ T.adapterNetworks) (hcontains : net.contains ip = true)
    (honly : ∀ net' ∈ T.adapterNetworks, net'.contains ip = true → net' = net) :
    T.networkOf ip = net := by
  unfold networkOf
  cases hfind : T.adapterNetworks.find? fun net => net.contains ip with
  | none => exact absurd hcontains (List.find?_eq_none.mp hfind net hmem)
  | some found =>
    have hfound : found.contains ip = true :=
      List.find?_some (p := fun net : IPv4Network => net.contains ip) hfind
    exact honly found (List.mem_of_find?_eq_some hfind) hfound

/-- The first network comes before the others. -/
theorem networkOf_eq_head {rest : List IPv4Network} (h : T.adapterNetworks = net :: rest)
    (hcontains : net.contains ip = true) : T.networkOf ip = net := by
  unfold networkOf
  rw [h, List.find?_cons_of_pos (by exact hcontains)]
  rfl

theorem networkOf_eq_assumed (hnone : ∀ net ∈ T.adapterNetworks, net.contains ip = false) :
    T.networkOf ip = IPv4Network.ofAddress ip ASSUMED_PREFIX := by
  unfold networkOf
  have hfind : (T.adapterNetworks.find? fun net => net.contains ip) = none := by
    rw [List.find?_eq_none]
    intro net hnet
    rw [hnone net hnet]
    exact Bool.false_ne_true
  rw [hfind]
  rfl

end TopologyTracker

end CastDelivery
