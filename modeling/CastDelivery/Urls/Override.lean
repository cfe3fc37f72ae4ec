import CastDelivery.Urls

/-!
# What `normalize_override` accepts

A base of an override is meant to be a pure origin, `scheme://host[:port]`, that is read back as
it was stored. `normalize_override` tests the user name of a URL and not its password, so that a
password without a user name stays in the base; `pureOrigin_iff` is the exact condition.
-/

namespace CastDelivery

/-! ## Stripping -/

section

variable {s : List Char}

theorem strip_eq_self (hhead : ∀ c ∈ s.head?, isSpace c = false)
    (hlast : ∀ c ∈ s.getLast?, isSpace c = false) : strip (String.ofList s) = String.ofList s := by
  have hfront (l : List Char) (h : ∀ c ∈ l.head?, isSpace c = false) : l.dropWhile isSpace = l := by
    cases l with
    | nil => rfl
    | cons x l =>
      have hx : isSpace x = false := h x rfl
      exact List.dropWhile_cons_of_neg (by rw [hx]; exact Bool.false_ne_true)
  have hback : ∀ c ∈ s.reverse.head?, isSpace c = false := by
    rw [List.head?_reverse]
    exact hlast
  unfold strip
  rw [String.toList_ofList, hfront s hhead, hfront s.reverse hback, List.reverse_reverse]

/-- A stripped text does not begin with a space. -/
theorem head_strip (text : String) : ∀ c ∈ (strip text).toList.head?, isSpace c = false := by
  intro c hc
  have hfront : ∀ c ∈ (text.toList.dropWhile isSpace).head?, isSpace c = false := by
    intro c hc
    have hnot := List.head?_dropWhile_not isSpace text.toList
    rw [Option.mem_def.mp hc] at hnot
    exact hnot
  unfold strip at hc
  rw [String.toList_ofList, List.head?_reverse] at hc
  -- dropping spaces at the end keeps the first character, if anything is left
  refine hfront c ?_
  have hsuffix := List.dropWhile_suffix isSpace (l := (text.toList.dropWhile isSpace).reverse)
  obtain ⟨front, hsplit⟩ := hsuffix
  have hlast : (text.toList.dropWhile isSpace).reverse.getLast? = some c := by
    rw [← hsplit, List.getLast?_append, Option.mem_def.mp hc]
    rfl
  rwa [List.getLast?_reverse] at hlast

theorem length_dropWhile_le (p : Char → Bool) (l : List Char) :
    (l.dropWhile p).length ≤ l.length := (List.dropWhile_suffix p).length_le

/-- A space at the end is stripped. -/
theorem length_strip_lt {c : Char} (hlast : s.getLast? = some c) (hc : isSpace c = true) :
    (strip (String.ofList s)).toList.length < s.length := by
  unfold strip
  rw [String.toList_ofList, String.toList_ofList, List.length_reverse]
  by_cases hnil : s.dropWhile isSpace = []
  · rw [hnil]
    cases s with
    | nil => cases hlast
    | cons x s => exact Nat.succ_pos _
  · obtain ⟨front, hsplit⟩ := List.dropWhile_suffix isSpace (l := s)
    have hc' : (s.dropWhile isSpace).getLast? = some c := by
      rw [← hsplit, List.getLast?_append] at hlast
      cases hrest : (s.dropWhile isSpace).getLast? with
      | none => exact absurd (List.getLast?_eq_none_iff.mp hrest) hnil
      | some d =>
        rw [hrest] at hlast
        exact hlast
    have hhead : (s.dropWhile isSpace).reverse.head? = some c := by
      rwa [List.head?_reverse]
    cases hrev : (s.dropWhile isSpace).reverse with
    | nil => exact absurd (List.reverse_eq_nil_iff.mp hrev) hnil
    | cons x l =>
      rw [hrev] at hhead
      obtain rfl : x = c := Option.some.inj hhead
      rw [List.dropWhile_cons_of_pos hc]
      have hlen : l.length + 1 = (s.dropWhile isSpace).length := by
        have hreverse : (s.dropWhile isSpace).reverse.length = (s.dropWhile isSpace).length :=
          List.length_reverse
        rw [← hreverse, hrev, List.length_cons]
      have hle := length_dropWhile_le isSpace l
      have hle' := length_dropWhile_le isSpace s
      omega

end

/-! ## Pure origins -/

/-- `base` is `scheme://host[:port]` of the trimmed `raw`, and is read back as itself. -/
structure PureOrigin (raw base : String) : Prop where
  origin : ∃ parsed target, URL.parse (strip raw) = some parsed ∧ URL.parse base = some target ∧
    URL.scheme target ∈ ["http".toList, "https".toList] ∧ URL.host target ≠ [] ∧
    target.authority.bind Uri.Authority.userinfo = none ∧ target.path = [] ∧ target.query = none ∧
    target.fragment = none ∧ URL.origin target = URL.origin parsed
  again : normalizeOverride base = some base

/-- The URL has no password, and its host does not end in a space without a port behind it. -/
def Plain (raw : String) : Prop :=
  ∀ parsed, URL.parse (strip raw) = some parsed → URL.password parsed = none ∧
    (URL.shownPort parsed = none → ∀ c ∈ (URL.host parsed).getLast?, isSpace c = false)

section

variable {raw base : String} {parsed : Uri} {b : Uri.Authority}

namespace Accepted

/-- The network location of a base. -/
theorem text_shownAuthority (h : Accepted raw base parsed b) :
    (URL.shownAuthority parsed b).text = Uri.before '@' (b.userinfo.filter (· ≠ [])) ++
      (URL.host parsed ++ Uri.after ':' (URL.portText (URL.shownPort parsed))) := by
  rw [URL.host_of_some h.authority]
  rfl

/-- A base without a port is no longer than what it was made of. -/
theorem length_base_le (h : Accepted raw base parsed b) (hport : URL.shownPort parsed = none) :
    base.toList.length ≤ (strip raw).toList.length := by
  obtain ⟨t, ht⟩ := h.scheme_eq
  have hraw : parsed.text = (strip raw).toList := Uri.text_parse h.parse
  have huser : (Uri.before '@' (b.userinfo.filter (· ≠ []))).length ≤
      (Uri.before '@' b.userinfo).length := by
    cases b.userinfo with
    | none => exact Nat.le_refl _
    | some s =>
      by_cases hs : s = []
      · subst hs
        exact Nat.zero_le _
      · rw [Option.filter_some_pos (by simpa using hs)]
  have hscheme : (URL.scheme parsed).length = t.length := by
    rw [URL.scheme_of_some ht, URL.lower, List.length_map]
  have hhost : (URL.host parsed).length = b.host.length := by
    rw [URL.host_of_some h.authority, URL.lower, List.length_map]
  rw [h.toList_base, h.text_shownAuthority, hport, ← hraw, Uri.text, ht, h.authority]
  simp only [List.length_append, Uri.before, Uri.slashes, Uri.after, Uri.Authority.text,
    URL.portText, Option.map_some, Option.map_none, Option.elim_some, Option.elim_none, hscheme,
    hhost, List.length_cons, List.length_nil] at huser ⊢
  omega

/-- The last character of a base is that of its host, unless a port is behind it. -/
theorem getLast?_base (h : Accepted raw base parsed b) (hport : URL.shownPort parsed = none) :
    base.toList.getLast? = (URL.host parsed).getLast? := by
  rw [h.toList_base, h.text_shownAuthority, hport]
  show (_ ++ (_ ++ (URL.host parsed ++ []))).getLast? = _
  rw [List.append_nil, List.getLast?_append, List.getLast?_append]
  cases hlast : (URL.host parsed).getLast? with
  | none => exact absurd (List.getLast?_eq_none_iff.mp hlast) h.host
  | some c => rfl

/-- A base that does not end in a space is read back as itself. -/
theorem again (h : Accepted raw base parsed b)
    (hlast : URL.shownPort parsed = none → ∀ c ∈ (URL.host parsed).getLast?, isSpace c = false) :
    normalizeOverride base = some base := by
  have hhead : ∀ c ∈ base.toList.head?, isSpace c = false := by
    intro c hc
    rw [h.toList_base] at hc
    have hscheme := h.scheme
    simp only [List.mem_cons, List.not_mem_nil, or_false] at hscheme
    rcases hscheme with hscheme | hscheme
    all_goals
      rw [hscheme] at hc
      obtain rfl : 'h' = c := Option.some.inj hc
      decide
  have hend : ∀ c ∈ base.toList.getLast?, isSpace c = false := by
    intro c hc
    cases hport : URL.shownPort parsed with
    | none =>
      rw [h.getLast?_base hport] at hc
      exact hlast hport c hc
    | some port =>
      -- behind a port the last character is a digit
      rw [h.toList_base, h.text_shownAuthority, hport] at hc
      have hdigits : c ∈ (Nat.toDigits 10 port).getLast? := by
        rw [← List.append_assoc, ← List.append_assoc, List.getLast?_append] at hc
        cases hdigit : (Nat.toDigits 10 port).getLast? with
        | none => exact absurd (List.getLast?_eq_none_iff.mp hdigit) Nat.toDigits_ne_nil
        | some d =>
          have hd : (Uri.after ':' (URL.portText (some port))).getLast? = some d := by
            show (':' :: Nat.toDigits 10 port).getLast? = some d
            rw [List.getLast?_cons, hdigit]
            rfl
          rw [hd] at hc
          exact hc
      have hc : c.isDigit = true := by
        refine URL.isDigit_portText (some port) c ?_
        exact List.mem_of_getLast? hdigits
      exact isSpace_of_isDigit hc
  have hstrip : strip base = base := by
    have hself := strip_eq_self hhead hend
    rwa [String.ofList_toList] at hself
  have hbase := h.isBase
  have hwith : URL.withPath (URL.canonical (URL.withPath parsed [])) [] =
      URL.canonical (URL.withPath parsed []) := rfl
  have hhost : URL.host (URL.withPath parsed []) ≠ [] := h.host
  obtain ⟨t, ht⟩ := h.scheme_eq
  obtain ⟨a, ha, hahost⟩ := URL.host_ne_nil h.host
  unfold normalizeOverride
  rw [hstrip, hbase.parse, Option.bind_some, if_pos ?_]
  · rw [hwith, URL.str_canonical hhost, rstripSlash_withPath h.parse ht ha hahost]
    exact congrArg some h.base.symm
  · refine ⟨?_, hbase.host, ?_, rfl, rfl, ?_⟩
    · rw [URL.scheme_canonical]
      exact h.scheme
    · unfold URL.path
      split
      · exact List.mem_cons_of_mem _ List.mem_cons_self
      · exact List.mem_cons_self
    · rw [URL.user_canonical]
      exact h.user

end Accepted

/-- **A stored override is a pure origin exactly if** it was given without a password, and its host
does not end in a space without a port behind it. -/
theorem pureOrigin_iff (raw base : String) (h : normalizeOverride raw = some base) :
    PureOrigin raw base ↔ Plain raw := by
  obtain ⟨parsed, b, hacc⟩ := accepted_of_normalizeOverride h
  constructor
  · rintro ⟨⟨parsed', target, -, htarget, -, -, huserinfo, -⟩, hagain⟩
    rintro parsed'' hparsed''
    obtain rfl := Option.some.inj (hacc.parse.symm.trans hparsed'')
    obtain rfl := Option.some.inj (hacc.isBase.parse.symm.trans htarget)
    refine ⟨?_, ?_⟩
    · have hpassword : URL.password (URL.canonical (URL.withPath parsed [])) = none := by
        unfold URL.password
        rw [huserinfo]
        rfl
      rwa [URL.password_canonical] at hpassword
    · intro hport c hc
      have hend : base.toList.getLast? = some c := (hacc.getLast?_base hport).trans hc
      -- what is stripped at its end is not read back as itself
      by_contra hspace
      have hshort := length_strip_lt hend (Bool.not_eq_false _ ▸ hspace)
      rw [String.ofList_toList] at hshort
      obtain ⟨again, b', hacc'⟩ := accepted_of_normalizeOverride hagain
      have hsame := Option.some.inj (hacc'.isBase.parse.symm.trans hacc.isBase.parse)
      have hport' : URL.shownPort again = none := by
        have hshown := congrArg URL.shownPort hsame
        rw [URL.shownPort_canonical, URL.shownPort_canonical] at hshown
        exact hshown.trans hport
      exact absurd (hacc'.length_base_le hport') (Nat.not_le.mpr hshort)
  · intro hplain
    obtain ⟨hpassword, hlast⟩ := hplain parsed hacc.parse
    have hbase := hacc.isBase
    have huserinfo : b.userinfo.filter (· ≠ []) = none := by
      have huser := hacc.user
      unfold URL.user at huser
      unfold URL.password at hpassword
      have hcut := Uri.cut_eq ':' ((parsed.authority.bind Uri.Authority.userinfo).getD [])
      rw [huser, hpassword, hacc.authority] at hcut
      have hnil : b.userinfo.getD [] = [] := hcut.symm
      cases hb : b.userinfo with
      | none => rfl
      | some s =>
        rw [hb] at hnil
        obtain rfl : s = [] := hnil
        rfl
    refine ⟨⟨parsed, _, hacc.parse, hbase.parse, ?_, hbase.host, ?_, rfl, rfl, rfl, ?_⟩,
      hacc.again hlast⟩
    · rw [URL.scheme_canonical]
      exact hacc.scheme
    · show (parsed.authority.map _).bind _ = none
      rw [hacc.authority]
      exact huserinfo
    · rw [URL.origin_canonical]
      rfl

/-- An override with a password and no user name is taken over with its password. -/
theorem not_pureOrigin :
    normalizeOverride "http://:secret@10.0.0.5:8123/" = some "http://:secret@10.0.0.5:8123" ∧
      ¬ PureOrigin "http://:secret@10.0.0.5:8123/" "http://:secret@10.0.0.5:8123" := by
  refine ⟨by decide, ?_⟩
  rintro ⟨⟨parsed, target, -, htarget, -, -, huserinfo, -⟩, -⟩
  have hsecret : ((URL.parse "http://:secret@10.0.0.5:8123").bind Uri.authority).bind
      Uri.Authority.userinfo = some ":secret".toList := by decide
  rw [htarget, Option.bind_some, huserinfo] at hsecret
  cases hsecret

theorem pureOrigin_proxy :
    PureOrigin " https://HA.example.org:08443/ " "https://ha.example.org:8443" := by
  refine (pureOrigin_iff _ _ (by decide)).mpr ?_
  intro parsed hparsed
  have hknown : URL.parse (strip " https://HA.example.org:08443/ ") =
      some ⟨some "https".toList, some ⟨none, "HA.example.org".toList, some "08443".toList⟩,
        ['/'], none, none⟩ := by decide
  obtain rfl := Option.some.inj (hknown.symm.trans hparsed)
  refine ⟨by decide, ?_⟩
  intro hport
  revert hport
  decide

end

end CastDelivery
