import CastDelivery.Lib.Uri

/-!
# What `urls.py` uses of `yarl.URL`

A URL is split by the RFC and written in canonical form: scheme and host in lower case, the port a
plain number unless the scheme stands for it, no empty user, and a slash for an empty path in front
of a query or a fragment. The canonical form of a URL has the origin, the user and the path of the
URL (`origin_canonical`), and is read back as itself (`parse_str`, `canonical_canonical`).
-/

namespace CastDelivery

namespace URL

open Uri

/-- `yarl.URL(url)`, unless it raises. -/
def parse (url : String) : Option Uri := Uri.parse url.toList

/-- Schemes and hosts are compared in lower case. -/
def lower (s : List Char) : List Char := s.map Char.toLower

variable (u : Uri)

/-- `scheme`, empty without one. -/
def scheme : List Char := lower (u.scheme.getD [])

/-- `host`, empty without one. -/
def host : List Char := lower ((u.authority.map Authority.host).getD [])

/-- `explicit_port`. -/
def explicitPort : Option ℕ :=
  (u.authority.bind Authority.port).bind fun t =>
    if t = [] then none else some (Nat.ofDigitChars 10 t 0)

/-- `user`, empty without one. -/
def user : List Char := (cut ':' ((u.authority.bind Authority.userinfo).getD [])).1

/-- `password`. -/
def password : Option (List Char) := (cut ':' ((u.authority.bind Authority.userinfo).getD [])).2

/-- Whether the URL has a network location. -/
def hasNetloc : Bool := u.authority.any fun a => a.text ≠ []

/-- `path`, which is a slash where a network location has no path behind it. -/
def path : List Char := if u.path = [] ∧ hasNetloc u then ['/'] else u.path

/-- The port that a scheme stands for. -/
def defaultPort (scheme : List Char) : Option ℕ :=
  if scheme = "http".toList ∨ scheme = "ws".toList then some 80
  else if scheme = "https".toList ∨ scheme = "wss".toList then some 443
  else if scheme = "ftp".toList then some 21
  else none

/-- The text of a port. -/
def portText (port : Option ℕ) : Option (List Char) := port.map (Nat.toDigits 10)

/-- The port that `str` writes: not the one that the scheme stands for. -/
def shownPort : Option ℕ := (explicitPort u).filter fun port => some port ≠ defaultPort (scheme u)

/-- The path that `str` writes: the slash of an empty one in front of a query or a fragment. -/
def shownPath : List Char :=
  if u.query.getD [] ≠ [] ∨ u.fragment.getD [] ≠ [] then path u else u.path

/-- The network location that `str` writes for `a`, the one of `u`. -/
def shownAuthority (a : Authority) : Authority :=
  ⟨a.userinfo.filter (· ≠ []), lower a.host, portText (shownPort u)⟩

/-- The canonical form of a URL. Escapes and dot segments are left as they are. -/
def canonical : Uri where
  scheme := u.scheme.map lower
  authority := u.authority.map (shownAuthority u)
  path := shownPath u
  query := u.query
  fragment := u.fragment

/-- `str(url)`. -/
def str : String := String.ofList (canonical u).text

/-- `with_path(path)`. -/
def withPath (path : List Char) : Uri := { u with path := path, query := none, fragment := none }

/-- `with_scheme(scheme)`, unless it raises. -/
def withScheme (scheme : List Char) : Option Uri :=
  if hasNetloc u then some { u with scheme := some scheme } else none

/-- `with_host(host)`, unless it raises. -/
def withHost (host : List Char) : Option Uri :=
  if hasNetloc u ∧ host ≠ [] then
    some { u with authority := u.authority.map fun a => { a with host := host } }
  else none

/-- `with_port(port)`, unless it raises. -/
def withPort (port : Option ℕ) : Option Uri :=
  if hasNetloc u then
    some { u with authority := u.authority.map fun a => { a with port := portText port } }
  else none

/-- A scheme, a host and a port. -/
structure Origin where
  scheme : List Char
  host : List Char
  port : Option ℕ
deriving DecidableEq, Repr

/-- The origin of an absolute URL. -/
def origin : Option Origin :=
  if scheme u = [] ∨ host u = [] then none
  else some ⟨scheme u, host u, (explicitPort u).or (defaultPort (scheme u))⟩

/-! ## Lower case -/

section

variable {c d : Char} {s : List Char}

theorem toNat_toLower (c : Char) :
    c.toLower.toNat = if 65 ≤ c.toNat ∧ c.toNat ≤ 90 then c.toNat + 32 else c.toNat := by
  have hle (n m : UInt32) : n ≤ m ↔ n.toNat ≤ m.toNat := UInt32.le_iff_toNat_le
  unfold Char.toLower
  split
  · next hup =>
    rw [ge_iff_le, hle, hle] at hup
    have hc : 65 ≤ c.toNat ∧ c.toNat ≤ 90 := hup
    rw [if_pos hc]
    show (c.val + 32).toNat = c.toNat + 32
    rw [UInt32.toNat_add]
    show (c.toNat + 32) % 2 ^ 32 = _
    omega
  · next hup =>
    rw [ge_iff_le, hle, hle] at hup
    exact (if_neg hup).symm

theorem toLower_toLower (c : Char) : c.toLower.toLower = c.toLower := by
  apply Char.toNat_inj.mp
  rw [toNat_toLower c.toLower, toNat_toLower c]
  split
  · rw [if_neg (by omega)]
  · rfl

/-- Only a letter is the lower case of another character. -/
theorem toLower_eq_iff (hd : d.toNat < 65 ∨ 90 < d.toNat ∧ d.toNat < 97) :
    c.toLower = d ↔ c = d := by
  rw [← Char.toNat_inj, ← Char.toNat_inj, toNat_toLower]
  split <;> omega

theorem lower_lower (s : List Char) : lower (lower s) = lower s := by
  unfold lower
  rw [List.map_map]
  exact List.map_congr_left fun c _ => toLower_toLower c

theorem mem_lower_iff (hd : d.toNat < 65 ∨ 90 < d.toNat ∧ d.toNat < 97) : d ∈ lower s ↔ d ∈ s := by
  unfold lower
  rw [List.mem_map]
  constructor
  · rintro ⟨c, hc, hcd⟩
    exact (toLower_eq_iff hd).mp hcd ▸ hc
  · intro hmem
    exact ⟨d, hmem, (toLower_eq_iff hd).mpr rfl⟩

theorem lower_ne_nil (hs : s ≠ []) : lower s ≠ [] := by
  intro h
  exact hs (List.map_eq_nil_iff.mp h)

/-- A host is a host in lower case. -/
theorem hostText_lower (h : HostText s) : HostText (lower s) := by
  have hhead : (lower s).head? = some '[' ↔ s.head? = some '[' := by
    unfold lower
    rw [List.head?_map, Option.map_eq_some_iff]
    constructor
    · rintro ⟨c, hc, hlower⟩
      rw [hc, (toLower_eq_iff (by decide)).mp hlower]
    · intro hs
      exact ⟨'[', hs, by decide⟩
  refine ⟨?_, ?_, ?_⟩
  · rw [mem_lower_iff (by decide)]
    exact h.noAt
  · intro hbracket
    obtain ⟨t, rfl⟩ := h.literal (hhead.mp hbracket)
    exact ⟨lower t, List.map_append⟩
  · intro hbracket
    rw [mem_lower_iff (by decide)]
    exact h.named fun hs => hbracket (hhead.mpr hs)

theorem schemeText_lower (h : SchemeText s) : SchemeText (lower s) := by
  obtain ⟨hne, hcolon, hslash, hquestion, hhash⟩ := h
  refine ⟨lower_ne_nil hne, ?_, ?_, ?_, ?_⟩
  · rwa [mem_lower_iff (by decide)]
  · rwa [mem_lower_iff (by decide)]
  · rwa [mem_lower_iff (by decide)]
  · rwa [mem_lower_iff (by decide)]

end

/-! ## The canonical form -/

section

variable {u v : Uri} {a b : Authority} {url : String} {t : List Char} {o : Origin}

theorem scheme_ne_nil (h : scheme u ≠ []) : ∃ t, u.scheme = some t := by
  cases hu : u.scheme with
  | none => exact absurd (by rw [scheme, hu]; rfl) h
  | some t => exact ⟨t, rfl⟩

theorem host_ne_nil (h : host u ≠ []) : ∃ a, u.authority = some a ∧ a.host ≠ [] := by
  unfold host at h
  cases hu : u.authority with
  | none =>
    rw [hu] at h
    exact absurd rfl h
  | some a =>
    refine ⟨a, rfl, ?_⟩
    intro ha
    rw [hu, Option.map_some, Option.getD_some, ha] at h
    exact h rfl

theorem scheme_of_some (ht : u.scheme = some t) : scheme u = lower t := by
  rw [scheme, ht, Option.getD_some]

theorem host_of_some (ha : u.authority = some a) : host u = lower a.host := by
  rw [host, ha]
  rfl

theorem text_ne_nil (h : a.host ≠ []) : a.text ≠ [] := by
  unfold Authority.text
  intro htext
  exact h (List.append_eq_nil_iff.mp (List.append_eq_nil_iff.mp htext).2).1

theorem hasNetloc_of_some (ha : u.authority = some a) (hne : a.text ≠ []) : hasNetloc u = true := by
  unfold hasNetloc
  rw [ha]
  exact decide_eq_true hne

theorem hasNetloc_of_host (h : host u ≠ []) : hasNetloc u = true := by
  obtain ⟨a, ha, hhost⟩ := host_ne_nil h
  exact hasNetloc_of_some ha (text_ne_nil hhost)

/-- The digits of a port. -/
theorem isDigit_portText (port : Option ℕ) : ∀ c ∈ (portText port).getD [], c.isDigit := by
  intro c hc
  cases port with
  | none => exact absurd hc List.not_mem_nil
  | some n => exact Nat.isDigit_of_mem_toDigits (by decide) (by decide) hc

theorem explicitPort_portText (port : Option ℕ) :
    ((portText port).bind fun t => if t = [] then none else some (Nat.ofDigitChars 10 t 0)) =
      port := by
  cases port with
  | none => rfl
  | some n =>
    show (if Nat.toDigits 10 n = [] then none else _) = _
    rw [if_neg Nat.toDigits_ne_nil, Nat.ofDigitChars_ten_toDigits]

theorem scheme_canonical (u : Uri) : scheme (canonical u) = scheme u := by
  unfold scheme canonical
  cases u.scheme with
  | none => rfl
  | some t => exact lower_lower t

theorem host_canonical (u : Uri) : host (canonical u) = host u := by
  unfold host canonical
  cases u.authority with
  | none => rfl
  | some a => exact lower_lower a.host

theorem explicitPort_canonical (u : Uri) : explicitPort (canonical u) = shownPort u := by
  cases ha : u.authority with
  | none =>
    unfold shownPort explicitPort canonical
    rw [ha]
    rfl
  | some a =>
    unfold explicitPort canonical
    rw [ha]
    exact explicitPort_portText (shownPort u)

theorem shownPort_canonical (u : Uri) : shownPort (canonical u) = shownPort u := by
  rw [shownPort, explicitPort_canonical, scheme_canonical, shownPort, Option.filter_filter]
  simp only [Bool.and_self]

theorem origin_canonical (u : Uri) : origin (canonical u) = origin u := by
  have hport : (shownPort u).or (defaultPort (scheme u)) =
      (explicitPort u).or (defaultPort (scheme u)) := by
    unfold shownPort
    cases explicitPort u with
    | none => rfl
    | some port =>
      by_cases hdefault : some port = defaultPort (scheme u)
      · -- the port that is left out is the one that the scheme stands for
        rw [Option.filter_some_neg (by simpa using hdefault), ← hdefault]
        rfl
      · rw [Option.filter_some_pos (by simpa using hdefault)]
  unfold origin
  rw [scheme_canonical, host_canonical, explicitPort_canonical, hport]

/-- An empty user is left out. -/
theorem getD_filter (userinfo : Option (List Char)) :
    (userinfo.filter (· ≠ [])).getD [] = userinfo.getD [] := by
  cases userinfo with
  | none => rfl
  | some t =>
    by_cases ht : t = []
    · subst ht
      rfl
    · rw [Option.filter_some_pos (by simpa using ht)]

theorem userinfo_canonical (u : Uri) :
    ((canonical u).authority.bind Authority.userinfo).getD [] =
      (u.authority.bind Authority.userinfo).getD [] := by
  unfold canonical
  cases u.authority with
  | none => rfl
  | some a => exact getD_filter a.userinfo

theorem user_canonical (u : Uri) : user (canonical u) = user u := by
  unfold user
  rw [userinfo_canonical]

theorem password_canonical (u : Uri) : password (canonical u) = password u := by
  unfold password
  rw [userinfo_canonical]

/-- The origin of a URL tells which port is written. -/
theorem shownPort_of_origin (ho : origin u = some o) :
    shownPort u = o.port.filter fun port => some port ≠ defaultPort o.scheme := by
  unfold origin at ho
  split at ho
  · cases ho
  · obtain rfl := Option.some.inj ho
    unfold shownPort
    cases explicitPort u with
    | none =>
      show none = (defaultPort (scheme u)).filter _
      cases hdefault : defaultPort (scheme u) with
      | none => rfl
      | some port => rw [Option.filter_some_neg (by simp)]
    | some port => rfl

theorem shownPath_eq (hpath : u.path = v.path) (hquery : u.query = v.query)
    (hfragment : u.fragment = v.fragment) (hu : hasNetloc u = true) (hv : hasNetloc v = true) :
    shownPath u = shownPath v := by
  unfold shownPath path
  rw [hpath, hquery, hfragment, hu, hv]

theorem shownPath_canonical (h : host u ≠ []) : shownPath (canonical u) = shownPath u := by
  have hnetloc : hasNetloc (canonical u) = true :=
    hasNetloc_of_host (by rwa [host_canonical])
  unfold shownPath
  by_cases htail : u.query.getD [] ≠ [] ∨ u.fragment.getD [] ≠ []
  · have hpath : (canonical u).path = path u := if_pos htail
    have hne : path u ≠ [] := by
      unfold path
      split
      · exact List.cons_ne_nil _ _
      · next hnot =>
        intro hnil
        exact hnot ⟨hnil, hasNetloc_of_host h⟩
    have htail' : (canonical u).query.getD [] ≠ [] ∨ (canonical u).fragment.getD [] ≠ [] := htail
    rw [if_pos htail, if_pos htail', path, hpath, if_neg fun hnil => hne hnil.1]
  · have htail' : ¬ ((canonical u).query.getD [] ≠ [] ∨ (canonical u).fragment.getD [] ≠ []) :=
      htail
    rw [if_neg htail, if_neg htail']
    exact if_neg htail

/-- A canonical form is its own canonical form. -/
theorem canonical_canonical (h : host u ≠ []) : canonical (canonical u) = canonical u := by
  have hscheme : (u.scheme.map lower).map lower = u.scheme.map lower := by
    rw [Option.map_map]
    exact congrArg (u.scheme.map ·) (funext lower_lower)
  have hauthority (a : Authority) :
      shownAuthority (canonical u) (shownAuthority u a) = shownAuthority u a := by
    unfold shownAuthority
    rw [shownPort_canonical, lower_lower, Option.filter_filter]
    simp only [Bool.and_self]
  have hmap : (canonical u).authority.map (shownAuthority (canonical u)) =
      (canonical u).authority := by
    show (u.authority.map (shownAuthority u)).map _ = u.authority.map (shownAuthority u)
    rw [Option.map_map]
    exact congrArg (u.authority.map ·) (funext hauthority)
  show Uri.mk ((u.scheme.map lower).map lower) _ (shownPath (canonical u)) _ _ = canonical u
  rw [hscheme, hmap, shownPath_canonical h]
  rfl

/-- The delimiters of a URI are not in the text of a network location without them. -/
theorem notMem_authority {x : Char} {userinfo : Option (List Char)} {name : List Char}
    (port : Option ℕ) (hcolon : x ≠ ':') (hdigit : x.isDigit = false)
    (huser : x ∉ Uri.before '@' userinfo) (hname : x ∉ name) :
    x ∉ Authority.text ⟨userinfo, name, portText port⟩ := by
  unfold Authority.text
  rw [List.mem_append, List.mem_append, not_or, not_or]
  exact ⟨huser, hname, notMem_after hcolon (notMem_of_digits (isDigit_portText port) hdigit)⟩

theorem mem_before_filter {x : Char} {userinfo : Option (List Char)}
    (h : x ∈ Uri.before '@' (userinfo.filter (· ≠ []))) : x ∈ Uri.before '@' userinfo := by
  cases userinfo with
  | none => exact h
  | some t =>
    by_cases ht : t = []
    · subst ht
      exact absurd h List.not_mem_nil
    · rwa [Option.filter_some_pos (by simpa using ht)] at h

/-- The canonical form of a well-formed URL is well formed. -/
theorem wellFormed_canonical (h : u.WellFormed a) :
    (canonical u).WellFormed (shownAuthority u a) := by
  have hnot (x : Char) (hcolon : x ≠ ':') (hdigit : x.isDigit = false)
      (hlow : x.toNat < 65 ∨ 90 < x.toNat ∧ x.toNat < 97) (ha : x ∉ a.text) :
      x ∉ (shownAuthority u a).text := by
    unfold Authority.text at ha
    rw [List.mem_append, List.mem_append, not_or, not_or] at ha
    refine notMem_authority _ hcolon hdigit (fun hmem => ha.1 (mem_before_filter hmem)) ?_
    rw [mem_lower_iff hlow]
    exact ha.2.1
  have hpath : (shownPath u = [] ∨ ∃ p, shownPath u = '/' :: p) ∧
      '?' ∉ shownPath u ∧ '#' ∉ shownPath u := by
    unfold shownPath path
    split
    · split
      · exact ⟨Or.inr ⟨[], rfl⟩, by decide, by decide⟩
      · exact ⟨h.absolute, h.path⟩
    · exact ⟨h.absolute, h.path⟩
  obtain ⟨hslash, hquestion, hhash⟩ := h.authority
  refine ⟨?_, ⟨hostText_lower h.wellFormed.host, isDigit_portText _⟩, ⟨?_, ?_, ?_⟩, hpath.1,
    hpath.2, h.query⟩
  · show u.authority.map (shownAuthority u) = _
    rw [h.hasAuthority, Option.map_some]
  · exact hnot '/' (by decide) (by decide) (by decide) hslash
  · exact hnot '?' (by decide) (by decide) (by decide) hquestion
  · exact hnot '#' (by decide) (by decide) (by decide) hhash

/-- What `str` writes is read back as the canonical form. -/
theorem parse_str (ht : u.scheme = some t) (htext : SchemeText t) (h : u.WellFormed a) :
    parse (str u) = some (canonical u) := by
  unfold parse str
  rw [String.toList_ofList]
  refine Uri.parse_text (t := lower t) ?_ (schemeText_lower htext) (wellFormed_canonical h)
  show u.scheme.map lower = _
  rw [ht, Option.map_some]

theorem str_canonical (h : host u ≠ []) : str (canonical u) = str u := by
  unfold str
  rw [canonical_canonical h]

end

/-! ## Rebasing -/

/-- `u`, with the authority `a`, at the scheme, host and port of `target`. -/
def rebased (u : Uri) (a : Authority) (target : Uri) : Uri where
  scheme := some (scheme target)
  authority := some ⟨a.userinfo, host target, portText (explicitPort target)⟩
  path := u.path
  query := u.query
  fragment := u.fragment

section

variable {u target : Uri} {a b : Authority}

/-- Rebasing takes a URL with a network location to a URL. -/
theorem with_eq (ha : u.authority = some a) (hne : a.text ≠ []) (hhost : host target ≠ []) :
    (((withScheme u (scheme target)).bind (withHost · (host target))).bind
      (withPort · (explicitPort target))) = some (rebased u a target) := by
  have hscheme : withScheme u (scheme target) = some { u with scheme := some (scheme target) } :=
    if_pos (hasNetloc_of_some ha hne)
  have hh : withHost { u with scheme := some (scheme target) } (host target) =
      some { u with
        scheme := some (scheme target)
        authority := some { a with host := host target } } := by
    unfold withHost
    rw [if_pos ⟨hasNetloc_of_some ha hne, hhost⟩, ha]
    rfl
  rw [hscheme, Option.bind_some, hh, Option.bind_some]
  unfold withPort
  rw [if_pos (hasNetloc_of_some rfl (text_ne_nil hhost))]
  rfl

/-- A URL that is rebased is well formed. -/
theorem wellFormed_rebased (hu : u.WellFormed a) (htarget : target.WellFormed b) :
    (rebased u a target).WellFormed ⟨a.userinfo, host target, portText (explicitPort target)⟩ := by
  have hhost : host target = lower b.host := host_of_some htarget.hasAuthority
  have hnot (x : Char) (hcolon : x ≠ ':') (hdigit : x.isDigit = false)
      (hlow : x.toNat < 65 ∨ 90 < x.toNat ∧ x.toNat < 97) (ha : x ∉ a.text) (hb : x ∉ b.text) :
      x ∉ Authority.text ⟨a.userinfo, host target, portText (explicitPort target)⟩ := by
    unfold Authority.text at ha hb
    rw [List.mem_append, List.mem_append, not_or, not_or] at ha hb
    refine notMem_authority _ hcolon hdigit ha.1 ?_
    rw [hhost, mem_lower_iff hlow]
    exact hb.2.1
  obtain ⟨hslash, hquestion, hhash⟩ := hu.authority
  obtain ⟨hslash', hquestion', hhash'⟩ := htarget.authority
  refine ⟨rfl, ⟨?_, isDigit_portText _⟩, ⟨?_, ?_, ?_⟩, hu.absolute, hu.path, hu.query⟩
  · rw [hhost]
    exact hostText_lower htarget.wellFormed.host
  · exact hnot '/' (by decide) (by decide) (by decide) hslash hslash'
  · exact hnot '?' (by decide) (by decide) (by decide) hquestion hquestion'
  · exact hnot '#' (by decide) (by decide) (by decide) hhash hhash'

theorem scheme_rebased : scheme (rebased u a target) = scheme target := lower_lower _

theorem host_rebased : host (rebased u a target) = host target := lower_lower _

theorem explicitPort_rebased : explicitPort (rebased u a target) = explicitPort target :=
  explicitPort_portText _

theorem origin_rebased : origin (rebased u a target) = origin target := by
  unfold origin
  rw [scheme_rebased, host_rebased, explicitPort_rebased]

theorem host_ne_nil_rebased (h : host target ≠ []) : host (rebased u a target) ≠ [] := by
  rwa [host_rebased]

theorem shownPath_rebased (ha : u.authority = some a) (hne : a.text ≠ []) (h : host target ≠ []) :
    shownPath (rebased u a target) = shownPath u :=
  shownPath_eq rfl rfl rfl (hasNetloc_of_host (host_ne_nil_rebased h)) (hasNetloc_of_some ha hne)

/-- What is written of a URL that is rebased onto a canonical one. -/
theorem canonical_rebased (hport : shownPort target = explicitPort target) :
    canonical (rebased u a target) =
      { scheme := some (scheme target)
        authority :=
          some ⟨a.userinfo.filter (· ≠ []), host target, portText (explicitPort target)⟩
        path := shownPath (rebased u a target)
        query := u.query
        fragment := u.fragment } := by
  have hshown : shownPort (rebased u a target) = explicitPort target := by
    rw [shownPort, explicitPort_rebased, scheme_rebased]
    exact hport
  unfold canonical
  show Uri.mk (some (lower (scheme target)))
    (some ⟨a.userinfo.filter (· ≠ []), lower (host target), portText (shownPort _)⟩) _ _ _ = _
  rw [hshown, show lower (scheme target) = scheme target from lower_lower _,
    show lower (host target) = host target from lower_lower _]
  rfl

/-- Rebasing twice is rebasing once. -/
theorem rebased_canonical (hport : shownPort target = explicitPort target) :
    rebased (canonical (rebased u a target))
        ⟨a.userinfo.filter (· ≠ []), host target, portText (explicitPort target)⟩ target =
      canonical (rebased u a target) := by
  rw [canonical_rebased hport]
  rfl

/-- A URL with the origin of the target is rebased to what is written of it. -/
theorem canonical_rebased_of_origin (ha : u.authority = some a)
    (horigin : origin u = origin target) (hsome : origin target ≠ none) :
    canonical (rebased u a target) = canonical u := by
  obtain ⟨o, ho⟩ := Option.ne_none_iff_exists'.mp hsome
  have hu : origin u = some o := horigin.trans ho
  have hport : shownPort (rebased u a target) = shownPort u := by
    rw [shownPort_of_origin (origin_rebased.trans ho), shownPort_of_origin hu]
  obtain ⟨hscheme, hhost, hne⟩ : scheme u = scheme target ∧ host u = host target ∧
      scheme u ≠ [] ∧ host u ≠ [] := by
    unfold origin at hu ho
    split at hu
    · cases hu
    · next hsome =>
      split at ho
      · cases ho
      · obtain rfl := Option.some.inj hu
        injection Option.some.inj ho with h₁ h₂
        exact ⟨h₁.symm, h₂.symm, not_or.mp hsome⟩
  obtain ⟨t, ht⟩ := scheme_ne_nil hne.1
  have hpath : shownPath (rebased u a target) = shownPath u :=
    shownPath_eq rfl rfl rfl
      (hasNetloc_of_host (by rw [host_rebased, ← hhost]; exact hne.2)) (hasNetloc_of_host hne.2)
  show Uri.mk (some (lower (scheme target)))
    (some ⟨a.userinfo.filter (· ≠ []), lower (host target),
      portText (shownPort (rebased u a target))⟩) _ _ _ = _
  rw [hport, hpath, ← hscheme, ← hhost, scheme_of_some ht, host_of_some ha, lower_lower,
    lower_lower]
  unfold canonical shownAuthority
  rw [ht, ha]
  rfl

end

end URL

end CastDelivery
