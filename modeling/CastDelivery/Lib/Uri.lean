import Mathlib.Data.List.Basic

/-!
# Splitting and recomposing URIs

The generic syntax of RFC 3986, on lists of characters. `Uri.parse` splits a text as the expression
of its appendix B does, and its authority as section 3.2 says; `Uri.text` recomposes the
components as section 5.3 does. The text of what a text is split into is that text
(`text_parse`), and a well-formed URI is what its text is split into (`parse_text`).
-/

namespace CastDelivery
namespace Uri

/-! ## Cutting at a delimiter -/

/-- The text up to the first `c`, and what follows it. -/
def cut (c : Char) : List Char → List Char × Option (List Char)
  | [] => ([], none)
  | x :: s => if x = c then ([], some s) else (x :: (cut c s).1, (cut c s).2)

/-- The text up to the last `c`, and what follows it. -/
def cutLast (c : Char) : List Char → Option (List Char) × List Char
  | [] => (none, [])
  | x :: s =>
    match (cutLast c s).1 with
    | some t => (some (x :: t), (cutLast c s).2)
    | none => if x = c then (some [], s) else (none, x :: s)

/-- A component with its delimiter before it. -/
def after (c : Char) (t : Option (List Char)) : List Char := t.elim [] (c :: ·)

/-- A component with its delimiter behind it. -/
def before (c : Char) (t : Option (List Char)) : List Char := t.elim [] (· ++ [c])

section

variable {c : Char} {s t u : List Char}

theorem cut_eq (c : Char) (s : List Char) : (cut c s).1 ++ after c (cut c s).2 = s := by
  induction s with
  | nil => rfl
  | cons x s ih =>
    unfold cut
    split
    · next hx =>
      rw [hx]
      rfl
    · rw [List.cons_append, ih]

theorem notMem_cut (c : Char) (s : List Char) : c ∉ (cut c s).1 := by
  induction s with
  | nil => simp [cut]
  | cons x s ih =>
    unfold cut
    split
    · simp
    · next hx => simp [Ne.symm hx, ih]

theorem cut_of_notMem (h : c ∉ s) : cut c s = (s, none) := by
  induction s with
  | nil => rfl
  | cons x s ih =>
    rw [List.mem_cons, not_or] at h
    rw [cut, if_neg (Ne.symm h.1), ih h.2]

theorem cut_append (h : c ∉ s) (t : Option (List Char)) : cut c (s ++ after c t) = (s, t) := by
  cases t with
  | none =>
    show cut c (s ++ []) = _
    rw [List.append_nil, cut_of_notMem h]
  | some t =>
    show cut c (s ++ c :: t) = _
    induction s with
    | nil => rw [List.nil_append, cut, if_pos rfl]
    | cons x s ih =>
      rw [List.mem_cons, not_or] at h
      rw [List.cons_append, cut, if_neg (Ne.symm h.1), ih h.2]

/-- A part before a delimiter has no characters of its own. -/
theorem mem_of_mem_cut {x : Char} (h : x ∈ (cut c s).1) : x ∈ s := by
  rw [← cut_eq c s]
  exact List.mem_append_left _ h

theorem mem_of_mem_cut_rest {x : Char} (ht : (cut c s).2 = some t) (h : x ∈ t) : x ∈ s := by
  rw [← cut_eq c s, ht]
  exact List.mem_append_right _ (List.mem_cons_of_mem c h)

theorem cutLast_eq (c : Char) (s : List Char) :
    before c (cutLast c s).1 ++ (cutLast c s).2 = s := by
  induction s with
  | nil => rfl
  | cons x s ih =>
    unfold cutLast
    cases hs : (cutLast c s).1 with
    | some t =>
      rw [hs] at ih
      simpa [before] using ih
    | none =>
      simp only
      split
      · next hx => simp [before, hx]
      · rfl

theorem notMem_cutLast (c : Char) (s : List Char) : c ∉ (cutLast c s).2 := by
  induction s with
  | nil => simp [cutLast]
  | cons x s ih =>
    have heq := cutLast_eq c s
    unfold cutLast
    cases hs : (cutLast c s).1 with
    | some t => exact ih
    | none =>
      rw [hs] at heq
      have hrest : (cutLast c s).2 = s := heq
      rw [hrest] at ih
      simp only
      split
      · exact ih
      · next hx => simp [Ne.symm hx, ih]

theorem cutLast_of_notMem (h : c ∉ s) : cutLast c s = (none, s) := by
  induction s with
  | nil => rfl
  | cons x s ih =>
    rw [List.mem_cons, not_or] at h
    rw [cutLast, ih h.2]
    simp [Ne.symm h.1]

theorem cutLast_append (h : c ∉ s) (t : Option (List Char)) :
    cutLast c (before c t ++ s) = (t, s) := by
  cases t with
  | none => exact cutLast_of_notMem h
  | some t =>
    show cutLast c (t ++ [c] ++ s) = _
    induction t with
    | nil =>
      rw [List.nil_append, List.singleton_append, cutLast, cutLast_of_notMem h]
      simp
    | cons x t ih =>
      rw [List.cons_append, List.cons_append, cutLast, ih]

end

/-! ## The authority -/

/-- The authority of a URI. The host of an IP literal keeps its brackets. -/
structure Authority where
  userinfo : Option (List Char)
  host : List Char
  port : Option (List Char)
deriving DecidableEq, Repr

/-- A host, without the `:` of a port unless it is in brackets. -/
structure HostText (host : List Char) : Prop where
  noAt : '@' ∉ host
  literal : host.head? = some '[' → ∃ t, host = t ++ [']']
  named : host.head? ≠ some '[' → ':' ∉ host

/-- Split a host and a port. -/
def splitHost (s : List Char) : Option (List Char × Option (List Char)) :=
  if s.head? = some '[' then
    match cutLast ']' s with
    | (some t, []) => some (t ++ [']'], none)
    | (some t, ':' :: port) => some (t ++ [']'], some port)
    | _ => none
  else some (cut ':' s)

namespace Authority

def text (a : Authority) : List Char := before '@' a.userinfo ++ (a.host ++ after ':' a.port)

/-- The authority with a text, unless its brackets or its port are malformed. -/
def parse (s : List Char) : Option Authority :=
  match splitHost (cutLast '@' s).2 with
  | some (host, port) =>
    if (port.getD []).all Char.isDigit then some ⟨(cutLast '@' s).1, host, port⟩ else none
  | none => none

structure WellFormed (a : Authority) : Prop where
  host : HostText a.host
  port : ∀ c ∈ a.port.getD [], c.isDigit

end Authority

theorem mem_after {c x : Char} {t : Option (List Char)} (h : x ∈ after c t) :
    x = c ∨ x ∈ t.getD [] := by
  cases t with
  | none => exact absurd h List.not_mem_nil
  | some t => exact List.mem_cons.mp h

theorem notMem_after {c x : Char} {t : Option (List Char)} (hc : x ≠ c) (ht : x ∉ t.getD []) :
    x ∉ after c t := by
  intro h
  rcases mem_after h with hx | hx
  · exact hc hx
  · exact ht hx

theorem notMem_of_digits {x : Char} {t : List Char} (h : ∀ c ∈ t, c.isDigit)
    (hx : x.isDigit = false) : x ∉ t := by
  intro hmem
  have hdigit := h x hmem
  rw [hx] at hdigit
  exact Bool.false_ne_true hdigit

theorem splitHost_text {host : List Char} {port : Option (List Char)} (hhost : HostText host)
    (hport : ∀ c ∈ port.getD [], c.isDigit) :
    splitHost (host ++ after ':' port) = some (host, port) := by
  have hhead (hne : host ≠ []) : (host ++ after ':' port).head? = host.head? := by
    cases host with
    | nil => exact absurd rfl hne
    | cons x host => rfl
  by_cases hbracket : host.head? = some '['
  · obtain ⟨t, ht⟩ := hhost.literal hbracket
    have hne : host ≠ [] := by
      rw [ht]
      exact List.append_ne_nil_of_right_ne_nil t (List.cons_ne_nil _ _)
    have hcut : cutLast ']' (host ++ after ':' port) = (some t, after ':' port) := by
      rw [ht]
      exact cutLast_append
        (notMem_after (by decide) (notMem_of_digits hport (by decide))) (some t)
    rw [splitHost, hhead hne, if_pos hbracket, hcut, ht]
    cases port with
    | none => rfl
    | some port => rfl
  · rw [splitHost, if_neg ?_, cut_append (hhost.named hbracket)]
    cases host with
    | nil =>
      cases port with
      | none => decide
      | some port => simp [after]
    | cons x host => exact hbracket

theorem splitHost_eq {s host : List Char} {port : Option (List Char)} (hat : '@' ∉ s)
    (h : splitHost s = some (host, port)) : HostText host ∧ host ++ after ':' port = s := by
  unfold splitHost at h
  split at h
  · next hbracket =>
    have heq := cutLast_eq ']' s
    -- The text before the last bracket, and the bracket: the host.
    have hliteral (t rest : List Char) (ht : cutLast ']' s = (some t, rest)) :
        HostText (t ++ [']']) ∧ t ++ [']'] ++ rest = s := by
      rw [ht] at heq
      have hs : t ++ [']'] ++ rest = s := heq
      refine ⟨⟨?_, fun _ => ⟨t, rfl⟩, ?_⟩, hs⟩
      · intro hmem
        exact hat (hs ▸ List.mem_append_left rest hmem)
      · intro hne
        refine absurd ?_ hne
        rw [← hs] at hbracket
        cases t with
        | nil => exact absurd hbracket (by simp)
        | cons x t => exact hbracket
    split at h
    · next t ht =>
      obtain ⟨rfl, rfl⟩ := Prod.mk.inj (Option.some.inj h)
      exact hliteral t [] ht
    · next t port' ht =>
      obtain ⟨rfl, rfl⟩ := Prod.mk.inj (Option.some.inj h)
      exact hliteral t (':' :: port') ht
    · cases h
  · next hbracket =>
    have hcut : cut ':' s = (host, port) := Option.some.inj h
    have heq := cut_eq ':' s
    have hcolon := notMem_cut ':' s
    rw [hcut] at heq hcolon
    refine ⟨⟨?_, ?_, fun _ => hcolon⟩, heq⟩
    · intro hmem
      exact hat (heq ▸ List.mem_append_left _ hmem)
    · intro hhost
      refine absurd ?_ hbracket
      rw [← heq]
      show (host ++ after ':' port).head? = _
      rw [List.head?_append, hhost]
      rfl

namespace Authority

variable {a : Authority} {s : List Char}

theorem parse_text (h : a.WellFormed) : parse a.text = some a := by
  have hat : '@' ∉ a.host ++ after ':' a.port := by
    rw [List.mem_append, not_or]
    exact ⟨h.host.noAt, notMem_after (by decide) (notMem_of_digits h.port (by decide))⟩
  have hcut : cutLast '@' a.text = (a.userinfo, a.host ++ after ':' a.port) :=
    cutLast_append hat a.userinfo
  unfold parse
  simp only [hcut, splitHost_text h.host h.port]
  exact if_pos (List.all_eq_true.mpr h.port)

theorem wellFormed_parse (h : parse s = some a) : a.WellFormed ∧ a.text = s := by
  unfold parse at h
  split at h
  · next host port hsplit =>
    split at h
    · next hport =>
      obtain ⟨hhost, htext⟩ := splitHost_eq (notMem_cutLast '@' s) hsplit
      cases h
      refine ⟨⟨hhost, List.all_eq_true.mp hport⟩, ?_⟩
      show before '@' (cutLast '@' s).1 ++ (host ++ after ':' port) = s
      rw [htext, cutLast_eq]
    · cases h
  · cases h

end Authority

/-! ## The scheme and the authority in a text -/

/-- Split off a scheme, if the text has one. -/
def splitScheme (s : List Char) : Option (List Char) × List Char :=
  match (cut ':' s).2 with
  | some rest =>
    if (cut ':' s).1 = [] ∨ '/' ∈ (cut ':' s).1 then (none, s) else (some (cut ':' s).1, rest)
  | none => (none, s)

/-- Split off the text of an authority, if there is one. -/
def splitAuthority : List Char → Option (List Char) × List Char
  | '/' :: '/' :: s => (some (cut '/' s).1, after '/' (cut '/' s).2)
  | s => (none, s)

/-- The text of an authority behind its slashes. -/
def slashes (t : Option (List Char)) : List Char := t.elim [] ('/' :: '/' :: ·)

theorem splitScheme_eq (s : List Char) :
    before ':' (splitScheme s).1 ++ (splitScheme s).2 = s := by
  have heq := cut_eq ':' s
  unfold splitScheme
  split
  · next rest hrest =>
    split
    · rfl
    · rw [hrest] at heq
      show (cut ':' s).1 ++ [':'] ++ rest = s
      rw [List.append_assoc]
      exact heq
  · rfl

theorem splitScheme_append {t : List Char} (hne : t ≠ []) (hcolon : ':' ∉ t) (hslash : '/' ∉ t)
    (rest : List Char) : splitScheme (t ++ ':' :: rest) = (some t, rest) := by
  have hcut : cut ':' (t ++ ':' :: rest) = (t, some rest) := cut_append hcolon (some rest)
  unfold splitScheme
  rw [hcut]
  simp only
  rw [if_neg]
  rw [not_or]
  exact ⟨hne, hslash⟩

/-- A scheme is not empty and has none of its delimiters. -/
theorem of_splitScheme {s t : List Char} (h : (splitScheme s).1 = some t) :
    t ≠ [] ∧ ':' ∉ t ∧ '/' ∉ t ∧ ∀ x ∈ t, x ∈ s := by
  unfold splitScheme at h
  split at h
  · split at h
    · cases h
    · next hgood =>
      rw [not_or] at hgood
      cases h
      exact ⟨hgood.1, notMem_cut ':' s, hgood.2, fun x hx => mem_of_mem_cut hx⟩
  · cases h

theorem splitAuthority_eq (s : List Char) :
    slashes (splitAuthority s).1 ++ (splitAuthority s).2 = s := by
  unfold splitAuthority
  split
  · next s =>
    show '/' :: '/' :: (cut '/' s).1 ++ after '/' (cut '/' s).2 = _
    rw [List.cons_append, List.cons_append, cut_eq]
  · rfl

theorem splitAuthority_append {t : List Char} (h : '/' ∉ t) {path : List Char}
    (hpath : path = [] ∨ ∃ p, path = '/' :: p) :
    splitAuthority ('/' :: '/' :: (t ++ path)) = (some t, path) := by
  have hafter : ∃ p, path = after '/' p := by
    rcases hpath with rfl | ⟨p, rfl⟩
    · exact ⟨none, rfl⟩
    · exact ⟨some p, rfl⟩
  obtain ⟨p, rfl⟩ := hafter
  show (some (cut '/' (t ++ after '/' p)).1, after '/' (cut '/' (t ++ after '/' p)).2) = _
  rw [cut_append h]

theorem of_splitAuthority {s t : List Char} (h : (splitAuthority s).1 = some t) :
    '/' ∉ t ∧ ((splitAuthority s).2 = [] ∨ ∃ p, (splitAuthority s).2 = '/' :: p) := by
  unfold splitAuthority at h ⊢
  split at h
  · next s =>
    cases h
    refine ⟨notMem_cut '/' s, ?_⟩
    cases hrest : (cut '/' s).2 with
    | none => exact Or.inl rfl
    | some p => exact Or.inr ⟨p, rfl⟩
  · cases h

end Uri

/-! ## URIs -/

/-- A URI reference, split into its components. -/
structure Uri where
  scheme : Option (List Char)
  authority : Option Uri.Authority
  path : List Char
  query : Option (List Char)
  fragment : Option (List Char)
deriving DecidableEq, Repr

namespace Uri

/-- The text of a URI. -/
def text (u : Uri) : List Char :=
  before ':' u.scheme ++ (slashes (u.authority.map Authority.text) ++
    (u.path ++ (after '?' u.query ++ after '#' u.fragment)))

/-- A text without its query and its fragment. -/
def hierarchy (s : List Char) : List Char := (cut '?' (cut '#' s).1).1

/-- Split a text, unless its authority is malformed. -/
def parse (s : List Char) : Option Uri :=
  let query := (cut '?' (cut '#' s).1).2
  let fragment := (cut '#' s).2
  let scheme := splitScheme (hierarchy s)
  let authority := splitAuthority scheme.2
  match authority.1 with
  | none => some ⟨scheme.1, none, authority.2, query, fragment⟩
  | some t => (Authority.parse t).map fun a => ⟨scheme.1, some a, authority.2, query, fragment⟩

/-- A scheme, without the delimiters that end it. -/
structure SchemeText (t : List Char) : Prop where
  nonempty : t ≠ []
  noColon : ':' ∉ t
  noSlash : '/' ∉ t
  noQuestion : '?' ∉ t
  noHash : '#' ∉ t

/-- A URI with the authority `a`, whose components have none of the delimiters that end them. -/
structure WellFormed (u : Uri) (a : Authority) : Prop where
  hasAuthority : u.authority = some a
  wellFormed : a.WellFormed
  authority : '/' ∉ a.text ∧ '?' ∉ a.text ∧ '#' ∉ a.text
  absolute : u.path = [] ∨ ∃ p, u.path = '/' :: p
  path : '?' ∉ u.path ∧ '#' ∉ u.path
  query : '#' ∉ u.query.getD []

variable {u : Uri} {s t : List Char} {a : Authority}

/-- The components of a text that splits. -/
theorem parse_eq (h : parse s = some u) :
    u.fragment = (cut '#' s).2 ∧ u.query = (cut '?' (cut '#' s).1).2 ∧
      u.scheme = (splitScheme (hierarchy s)).1 ∧
      u.path = (splitAuthority (splitScheme (hierarchy s)).2).2 ∧
      (splitAuthority (splitScheme (hierarchy s)).2).1 = u.authority.map Authority.text ∧
      ∀ a, u.authority = some a → a.WellFormed := by
  unfold parse at h
  simp only at h
  split at h
  · next hnone =>
    cases h
    exact ⟨rfl, rfl, rfl, rfl, hnone, fun a ha => absurd ha (by simp)⟩
  · next t hsome =>
    obtain ⟨a, ha, hu⟩ := Option.map_eq_some_iff.mp h
    obtain ⟨hwell, htext⟩ := Authority.wellFormed_parse ha
    cases hu
    refine ⟨rfl, rfl, rfl, rfl, ?_, ?_⟩
    · show _ = some a.text
      rw [hsome, htext]
    · intro b hb
      cases hb
      exact hwell

theorem text_parse (h : parse s = some u) : u.text = s := by
  obtain ⟨hfragment, hquery, hscheme, hpath, hauthority, -⟩ := parse_eq h
  have hauth : slashes (u.authority.map Authority.text) ++ u.path =
      (splitScheme (hierarchy s)).2 := by
    rw [hpath, ← hauthority, splitAuthority_eq]
  calc u.text
      = before ':' u.scheme ++ (slashes (u.authority.map Authority.text) ++ u.path) ++
          after '?' u.query ++ after '#' u.fragment := by
        simp only [text, List.append_assoc]
    _ = hierarchy s ++ after '?' u.query ++ after '#' u.fragment := by
        rw [hauth, hscheme, splitScheme_eq]
    _ = s := by rw [hierarchy, hquery, cut_eq, hfragment, cut_eq]

theorem ne_of_mem_hierarchy {x : Char} (hx : x ∈ hierarchy s) : x ≠ '?' ∧ x ≠ '#' := by
  unfold hierarchy at hx
  refine ⟨?_, ?_⟩
  · rintro rfl
    exact notMem_cut '?' _ hx
  · rintro rfl
    exact notMem_cut '#' _ (mem_of_mem_cut hx)

theorem schemeText_parse (h : parse s = some u) (ht : u.scheme = some t) : SchemeText t := by
  obtain ⟨-, -, hscheme, -⟩ := parse_eq h
  rw [ht] at hscheme
  obtain ⟨hne, hcolon, hslash, hsub⟩ := of_splitScheme hscheme.symm
  refine ⟨hne, hcolon, hslash, ?_, ?_⟩
  · exact fun hmem => (ne_of_mem_hierarchy (hsub _ hmem)).1 rfl
  · exact fun hmem => (ne_of_mem_hierarchy (hsub _ hmem)).2 rfl

/-- A URI with an authority is well formed, as it is split off a text. -/
theorem wellFormed_parse (h : parse s = some u) (ha : u.authority = some a) : u.WellFormed a := by
  obtain ⟨-, hquery, -, hpath, hauthority, hwell⟩ := parse_eq h
  rw [ha] at hauthority
  obtain ⟨hnoSlash, habsolute⟩ := of_splitAuthority hauthority
  rw [← hpath] at habsolute
  have hrest (x : Char) (hx : x ∈ (splitScheme (hierarchy s)).2) :
      x ≠ '?' ∧ x ≠ '#' := by
    refine ne_of_mem_hierarchy (s := s) ?_
    rw [← splitScheme_eq (hierarchy s)]
    exact List.mem_append_right _ hx
  have htext (x : Char) (hx : x ∈ a.text) : x ≠ '?' ∧ x ≠ '#' := by
    refine hrest x ?_
    rw [← splitAuthority_eq (splitScheme (hierarchy s)).2, hauthority]
    exact List.mem_append_left _ (List.mem_cons_of_mem _ (List.mem_cons_of_mem _ hx))
  have hpathPart (x : Char) (hx : x ∈ u.path) : x ≠ '?' ∧ x ≠ '#' := by
    refine hrest x ?_
    rw [← splitAuthority_eq (splitScheme (hierarchy s)).2, ← hpath]
    exact List.mem_append_right _ hx
  refine ⟨ha, hwell a ha, ⟨hnoSlash, ?_, ?_⟩, habsolute, ⟨?_, ?_⟩, ?_⟩
  · exact fun hmem => (htext _ hmem).1 rfl
  · exact fun hmem => (htext _ hmem).2 rfl
  · exact fun hmem => (hpathPart _ hmem).1 rfl
  · exact fun hmem => (hpathPart _ hmem).2 rfl
  · intro hmem
    rw [hquery] at hmem
    cases hq : (cut '?' (cut '#' s).1).2 with
    | none =>
      rw [hq] at hmem
      exact List.not_mem_nil hmem
    | some q =>
      rw [hq] at hmem
      exact notMem_cut '#' s (mem_of_mem_cut_rest hq hmem)

theorem parse_text (hscheme : u.scheme = some t) (ht : SchemeText t) (h : u.WellFormed a) :
    parse u.text = some u := by
  obtain ⟨hne, hcolon, hslash, hquestion, hhash⟩ := ht
  obtain ⟨hauthority, hwell, ha, habsolute, hpath, hquery⟩ := h
  have hbody : u.text = t ++ ':' :: ('/' :: '/' :: (a.text ++ u.path)) ++ after '?' u.query ++
      after '#' u.fragment := by
    simp [text, slashes, hscheme, hauthority, before]
  have hfragment : cut '#' u.text =
      (t ++ ':' :: ('/' :: '/' :: (a.text ++ u.path)) ++ after '?' u.query, u.fragment) := by
    rw [hbody]
    refine cut_append ?_ u.fragment
    simp [hhash, ha, hpath, notMem_after _ hquery]
  have hq : cut '?' (t ++ ':' :: ('/' :: '/' :: (a.text ++ u.path)) ++ after '?' u.query) =
      (t ++ ':' :: ('/' :: '/' :: (a.text ++ u.path)), u.query) := by
    refine cut_append ?_ u.query
    simp [hquestion, ha, hpath]
  have hhierarchy : hierarchy u.text = t ++ ':' :: ('/' :: '/' :: (a.text ++ u.path)) := by
    rw [hierarchy, hfragment, hq]
  unfold parse
  simp only [hfragment, hq, hhierarchy, splitScheme_append hne hcolon hslash,
    splitAuthority_append ha.1 habsolute, Authority.parse_text hwell]
  rw [Option.map_some, ← hscheme, ← hauthority]

end Uri

end CastDelivery
