import CastDelivery.Health.Ledger
import CastDelivery.Playback.PlayMedia
import CastDelivery.Urls.Yarl

/-!
# Base URLs of one device

The functions of `urls.py`, over the URLs of `Urls.Yarl`. `HassUrls` is what they learn of the
instance from Home Assistant.

A URL passes for one of the instance if its origin is known or if its text begins with that of a
base of the instance. The second test also takes in hosts and ports that merely begin like the
instance's, and `rebasesOnlyOwn_iff` is the exact condition under which that does no harm.
-/

namespace CastDelivery

/-- `text.rstrip("/")`. -/
def rstripSlash (text : String) : String :=
  String.ofList (text.toList.reverse.dropWhile (· = '/')).reverse

/-- `normalize_override`. -/
def normalizeOverride (url : String) : Option String :=
  (URL.parse (strip url)).bind fun parsed =>
    if URL.scheme parsed ∈ ["http".toList, "https".toList] ∧ URL.host parsed ≠ [] ∧
        URL.path parsed ∈ [[], ['/']] ∧ parsed.query.getD [] = [] ∧ parsed.fragment.getD [] = [] ∧
        URL.user parsed = [] then
      some (rstripSlash (URL.str (URL.withPath parsed [])))
    else none

/-- What Home Assistant tells of the URLs of the instance. -/
structure HassUrls where
  /-- The origins that `is_hass_url` compares a URL with. -/
  known : List URL.Origin
  /-- `get_url(hass, allow_external=False)`, unless it raises. -/
  internalUrl : Option String
  /-- `get_url(hass, allow_internal=False)`, unless it raises. -/
  externalUrl : Option String

namespace HassUrls

variable (H : HassUrls)

/-- `is_hass_url`, unless it raises. -/
def isHassUrl (url : String) : Option Bool :=
  (URL.parse url).map fun u => (URL.origin u).any (· ∈ H.known)

/-- The last statement of `rewrite_hass_url`. -/
def rebase (url base : String) : Option String :=
  (URL.parse url).bind fun parsed => (URL.parse base).bind fun target =>
    (((URL.withScheme parsed (URL.scheme target)).bind (URL.withHost · (URL.host target))).bind
      (URL.withPort · (URL.explicitPort target))).map URL.str

/-- What `rewrite_hass_url` reads of this instance. -/
def instanceUrls : InstanceUrls where
  isHassUrl := H.isHassUrl
  internalUrl := H.internalUrl
  externalUrl := H.externalUrl
  rebase := rebase

/-- `get_url` returns a URL that the given one begins with. -/
def beginsWithOwn (url : String) : Bool := H.instanceUrls.beginsWithOwn url

/-- `_is_own_url`, unless it raises. -/
def isOwnUrl (url : String) : Option Bool := H.instanceUrls.isOwnUrl url

/-- `rewrite_hass_url`, unless it raises. -/
def rewriteHassUrl (url base : String) : Option String := H.instanceUrls.rewriteHassUrl url base

end HassUrls

/-! ## The base of an override -/

/-- A text without a slash at its end. -/
theorem rstripSlash_append (s : List Char) {t : List Char} (hne : t ≠ []) (hslash : '/' ∉ t) :
    rstripSlash (String.ofList (s ++ t)) = String.ofList (s ++ t) := by
  have hlast : (t.reverse ++ s.reverse).dropWhile (· = '/') = t.reverse ++ s.reverse := by
    cases hrev : t.reverse with
    | nil => exact absurd (List.reverse_eq_nil_iff.mp hrev) hne
    | cons x r =>
      have hx : x ≠ '/' := by
        rintro rfl
        exact hslash (List.mem_reverse.mp (hrev ▸ List.mem_cons_self))
      exact List.dropWhile_cons_of_neg (by simpa using hx)
  unfold rstripSlash
  rw [String.toList_ofList, List.reverse_append, hlast, List.reverse_append, List.reverse_reverse,
    List.reverse_reverse]

/-- The base of an override: a scheme, a host, and maybe a port, in canonical form. -/
structure IsBase (base : String) (target : Uri) (b : Uri.Authority) : Prop where
  parse : URL.parse base = some target
  canonical : URL.canonical target = target
  wellFormed : target.WellFormed b
  schemeText : Uri.SchemeText (URL.scheme target)
  host : URL.host target ≠ []

/-- What `normalize_override` accepts as `raw`, and the base that it makes of it. -/
structure Accepted (raw base : String) (parsed : Uri) (b : Uri.Authority) : Prop where
  parse : URL.parse (strip raw) = some parsed
  scheme : URL.scheme parsed ∈ ["http".toList, "https".toList]
  authority : parsed.authority = some b
  host : URL.host parsed ≠ []
  path : URL.path parsed ∈ [[], ['/']]
  query : parsed.query.getD [] = []
  fragment : parsed.fragment.getD [] = []
  user : URL.user parsed = []
  base : base = URL.str (URL.withPath parsed [])

/-- A well-formed URL that is cut down to its authority. -/
theorem wellFormed_withPath {u : Uri} {b : Uri.Authority} (h : u.WellFormed b) :
    (URL.withPath u []).WellFormed b :=
  ⟨h.hasAuthority, h.wellFormed, h.authority, Or.inl rfl, ⟨List.not_mem_nil, List.not_mem_nil⟩,
    List.not_mem_nil⟩

/-- The text of a URL that is cut down to its authority. -/
theorem text_withPath {u : Uri} {t : List Char} {b : Uri.Authority} (ht : u.scheme = some t)
    (hb : u.authority = some b) :
    (URL.canonical (URL.withPath u [])).text =
      URL.lower t ++ [':', '/', '/'] ++ (URL.shownAuthority u b).text := by
  have hpath : URL.shownPath (URL.withPath u []) = [] := rfl
  have hshown : URL.shownAuthority (URL.withPath u []) b = URL.shownAuthority u b := rfl
  unfold URL.canonical Uri.text
  rw [hpath, ← hshown]
  simp [URL.withPath, Uri.slashes, Uri.before, Uri.after, ht, hb]

theorem rstripSlash_withPath {url : String} {u : Uri} {t : List Char} {b : Uri.Authority}
    (hu : URL.parse url = some u) (ht : u.scheme = some t) (hb : u.authority = some b)
    (hhost : b.host ≠ []) :
    rstripSlash (URL.str (URL.withPath u [])) = URL.str (URL.withPath u []) := by
  have hwell := URL.wellFormed_canonical (Uri.wellFormed_parse hu hb)
  rw [URL.str, text_withPath ht hb]
  exact rstripSlash_append _ (URL.text_ne_nil (URL.lower_ne_nil hhost)) hwell.authority.1

theorem accepted_of_normalizeOverride {raw base : String} (h : normalizeOverride raw = some base) :
    ∃ parsed b, Accepted raw base parsed b := by
  obtain ⟨parsed, hparsed, h⟩ := Option.bind_eq_some_iff.mp h
  split at h
  · next hgood =>
    obtain ⟨hscheme, hhost, hpath, hquery, hfragment, huser⟩ := hgood
    have hne : URL.scheme parsed ≠ [] := by
      intro hnil
      rw [hnil] at hscheme
      revert hscheme
      decide
    obtain ⟨t, ht⟩ := URL.scheme_ne_nil hne
    obtain ⟨b, hb, hbhost⟩ := URL.host_ne_nil hhost
    refine ⟨parsed, b, hparsed, hscheme, hb, hhost, hpath, hquery, hfragment, huser, ?_⟩
    rw [← Option.some.inj h]
    exact rstripSlash_withPath hparsed ht hb hbhost
  · cases h

namespace Accepted

variable {raw base : String} {parsed : Uri} {b : Uri.Authority}

theorem scheme_eq (h : Accepted raw base parsed b) : ∃ t, parsed.scheme = some t := by
  refine URL.scheme_ne_nil ?_
  intro hnil
  have hscheme := h.scheme
  rw [hnil] at hscheme
  revert hscheme
  decide

/-- The text of a base. -/
theorem toList_base (h : Accepted raw base parsed b) :
    base.toList = URL.scheme parsed ++ [':', '/', '/'] ++ (URL.shownAuthority parsed b).text := by
  obtain ⟨t, ht⟩ := h.scheme_eq
  rw [h.base, URL.str, String.toList_ofList, text_withPath ht h.authority, URL.scheme_of_some ht]

theorem wellFormed (h : Accepted raw base parsed b) : (URL.withPath parsed []).WellFormed b :=
  wellFormed_withPath (Uri.wellFormed_parse h.parse h.authority)

/-- What is left of the URL is a base. -/
theorem isBase (h : Accepted raw base parsed b) :
    IsBase base (URL.canonical (URL.withPath parsed [])) (URL.shownAuthority parsed b) := by
  obtain ⟨t, ht⟩ := h.scheme_eq
  have htext := Uri.schemeText_parse h.parse ht
  refine ⟨?_, URL.canonical_canonical h.host, URL.wellFormed_canonical h.wellFormed, ?_, ?_⟩
  · rw [h.base]
    exact URL.parse_str ht htext h.wellFormed
  · rw [URL.scheme_canonical]
    show Uri.SchemeText (URL.lower (parsed.scheme.getD []))
    rw [ht]
    exact URL.schemeText_lower htext
  · rw [URL.host_canonical]
    exact h.host

end Accepted

theorem isBase_of_normalizeOverride {raw base : String} (h : normalizeOverride raw = some base) :
    ∃ target b, IsBase base target b := by
  obtain ⟨parsed, b, hacc⟩ := accepted_of_normalizeOverride h
  exact ⟨_, _, hacc.isBase⟩

namespace IsBase

variable {base : String} {target : Uri} {b : Uri.Authority}

/-- The port of a base is written. -/
theorem port (h : IsBase base target b) : URL.shownPort target = URL.explicitPort target := by
  rw [← URL.explicitPort_canonical, h.canonical]

theorem origin (h : IsBase base target b) : URL.origin target ≠ none := by
  unfold URL.origin
  rw [if_neg (not_or.mpr ⟨h.schemeText.nonempty, h.host⟩)]
  exact Option.some_ne_none _

end IsBase

namespace HassUrls

variable (H : HassUrls)

/-! ## Whose URLs are rebased -/

/-- The origin of a URL that `get_url` returns. -/
def baseOrigin (base : Option String) : Option URL.Origin := (base.bind URL.parse).bind URL.origin

/-- The scheme, host and port of the URL are those of a known base of the instance. -/
def Own (url : String) : Prop :=
  ∃ u o, URL.parse url = some u ∧ URL.origin u = some o ∧
    (o ∈ H.known ∨ baseOrigin H.internalUrl = some o ∨ baseOrigin H.externalUrl = some o)

/-- `out` is `url` with the scheme, host and port of `base`. -/
def Rebased (url base out : String) : Prop :=
  ∃ u target r, URL.parse url = some u ∧ URL.parse base = some target ∧ URL.parse out = some r ∧
    URL.origin target ≠ none ∧ URL.origin r = URL.origin target ∧
    r.path = URL.shownPath u ∧ r.query = u.query ∧ r.fragment = u.fragment

/-- Only the URLs of the instance are rebased. -/
structure RebasesOnlyOwn (url base : String) : Prop where
  others : ¬ H.Own url → H.rewriteHassUrl url base = some url
  rebased : H.isOwnUrl url = some true →
    ∃ out, H.rewriteHassUrl url base = some out ∧ Rebased url base out
  again : ∀ out, H.rewriteHassUrl url base = some out → H.rewriteHassUrl out base = some out

/-- The URL has the scheme, host and port of the base, and is in canonical form. -/
def AtBase (url base : String) : Prop :=
  ∃ u target, URL.parse url = some u ∧ URL.parse base = some target ∧
    URL.origin u = URL.origin target ∧ URL.str u = url

section

variable {H} {url base : String} {u target : Uri} {a b : Uri.Authority}

theorem isOwnUrl_eq (hu : URL.parse url = some u) :
    H.isOwnUrl url = some ((URL.origin u).any (· ∈ H.known) || H.beginsWithOwn url) := by
  have hhass : H.isHassUrl url = some ((URL.origin u).any (· ∈ H.known)) := by
    unfold isHassUrl
    rw [hu, Option.map_some]
  show (H.isHassUrl url).map _ = _
  rw [hhass, Option.map_some]
  rfl

theorem rewriteHassUrl_of_not_own (h : H.isOwnUrl url = some false) :
    H.rewriteHassUrl url base = some url := by
  unfold rewriteHassUrl InstanceUrls.rewriteHassUrl
  rw [show H.instanceUrls.isOwnUrl url = _ from h]

/-- A URL that passes for one of the instance is rebased. -/
theorem rewriteHassUrl_eq_rebase (h : H.isOwnUrl url = some true) :
    H.rewriteHassUrl url base = rebase url base := by
  unfold rewriteHassUrl InstanceUrls.rewriteHassUrl
  rw [show H.instanceUrls.isOwnUrl url = _ from h]
  rfl

theorem rewriteHassUrl_of_own (h : H.isOwnUrl url = some true) (hu : URL.parse url = some u)
    (ha : u.authority = some a) (hne : a.text ≠ []) (hbase : IsBase base target b) :
    H.rewriteHassUrl url base = some (URL.str (URL.rebased u a target)) := by
  rw [rewriteHassUrl_eq_rebase h]
  unfold rebase
  rw [hu, Option.bind_some, hbase.parse, Option.bind_some, URL.with_eq ha hne hbase.host]
  rfl

/-- Without a network location there is nothing to rebase. -/
theorem rewriteHassUrl_none (h : H.isOwnUrl url = some true) (hu : URL.parse url = some u)
    (hnetloc : URL.hasNetloc u = false) : H.rewriteHassUrl url base = none := by
  have hscheme (t : List Char) : URL.withScheme u t = none := by
    unfold URL.withScheme
    rw [hnetloc]
    rfl
  rw [rewriteHassUrl_eq_rebase h]
  unfold rebase
  rw [hu, Option.bind_some]
  cases URL.parse base with
  | none => rfl
  | some target =>
    rw [Option.bind_some, hscheme]
    rfl

theorem parse_rebased (hu : URL.parse url = some u) (ha : u.authority = some a)
    (hbase : IsBase base target b) :
    URL.parse (URL.str (URL.rebased u a target)) = some (URL.canonical (URL.rebased u a target)) :=
  URL.parse_str rfl hbase.schemeText
    (URL.wellFormed_rebased (Uri.wellFormed_parse hu ha) hbase.wellFormed)

theorem rebased_rewritten (hu : URL.parse url = some u) (ha : u.authority = some a)
    (hne : a.text ≠ []) (hbase : IsBase base target b) :
    Rebased url base (URL.str (URL.rebased u a target)) :=
  ⟨u, target, URL.canonical (URL.rebased u a target), hu, hbase.parse, parse_rebased hu ha hbase,
    hbase.origin, (URL.origin_canonical _).trans URL.origin_rebased,
    URL.shownPath_rebased ha hne hbase.host, rfl, rfl⟩

/-- A rewritten URL stays as it is. -/
theorem rewriteHassUrl_rebased (hu : URL.parse url = some u) (ha : u.authority = some a)
    (hbase : IsBase base target b) :
    H.rewriteHassUrl (URL.str (URL.rebased u a target)) base =
      some (URL.str (URL.rebased u a target)) := by
  have hparse := parse_rebased hu ha hbase
  cases hown : H.isOwnUrl (URL.str (URL.rebased u a target)) with
  | none =>
    rw [isOwnUrl_eq hparse] at hown
    cases hown
  | some own =>
    cases own with
    | false => exact rewriteHassUrl_of_not_own hown
    | true =>
      have hauth : (URL.canonical (URL.rebased u a target)).authority =
          some ⟨a.userinfo.filter (· ≠ []), URL.host target,
            URL.portText (URL.explicitPort target)⟩ := by
        rw [URL.canonical_rebased hbase.port]
      have hagain := rewriteHassUrl_of_own hown hparse hauth (URL.text_ne_nil hbase.host) hbase
      rwa [URL.rebased_canonical hbase.port, URL.str_canonical (URL.host_ne_nil_rebased hbase.host)]
        at hagain

/-- A URL is at the base exactly if rebasing leaves it as it is. -/
theorem atBase_iff (hu : URL.parse url = some u) (ha : u.authority = some a)
    (hbase : IsBase base target b) :
    AtBase url base ↔ URL.str (URL.rebased u a target) = url := by
  constructor
  · rintro ⟨u', target', hu', hbase', horigin, hstr⟩
    obtain rfl := Option.some.inj (hu.symm.trans hu')
    obtain rfl := Option.some.inj (hbase.parse.symm.trans hbase')
    rw [URL.str, URL.canonical_rebased_of_origin ha horigin hbase.origin]
    exact hstr
  · intro hsame
    have hparse := parse_rebased hu ha hbase
    rw [hsame, hu] at hparse
    have hcanonical : u = URL.canonical (URL.rebased u a target) := Option.some.inj hparse
    refine ⟨u, target, hu, hbase.parse, ?_, ?_⟩
    · rw [hcanonical, URL.origin_canonical, URL.origin_rebased]
    · rw [hcanonical, URL.str_canonical (URL.host_ne_nil_rebased hbase.host), hsame]

/-- A URL of a known base is absolute. -/
theorem netloc_of_origin {o : URL.Origin} (h : URL.origin u = some o) :
    ∃ a, u.authority = some a ∧ a.text ≠ [] := by
  unfold URL.origin at h
  split at h
  · cases h
  · next hsome =>
    rw [not_or] at hsome
    obtain ⟨a, ha, hhost⟩ := URL.host_ne_nil hsome.2
    exact ⟨a, ha, URL.text_ne_nil hhost⟩

/-- A URL that `is_hass_url` accepts is the instance's. -/
theorem own_of_isHassUrl (hu : URL.parse url = some u)
    (h : (URL.origin u).any (· ∈ H.known) = true) : H.Own url := by
  cases ho : URL.origin u with
  | none =>
    rw [ho] at h
    cases h
  | some o =>
    rw [ho] at h
    exact ⟨u, o, hu, ho, Or.inl (of_decide_eq_true h)⟩

/-- A URL of the instance, or at the base, has a network location. -/
theorem netloc_of_own (hu : URL.parse url = some u) (hbase : IsBase base target b)
    (h : H.Own url ∨ AtBase url base) : ∃ a, u.authority = some a ∧ a.text ≠ [] := by
  rcases h with ⟨u', o, hu', ho, -⟩ | ⟨u', target', hu', htarget, horigin, -⟩
  · obtain rfl := Option.some.inj (hu.symm.trans hu')
    exact netloc_of_origin ho
  · obtain rfl := Option.some.inj (hu.symm.trans hu')
    obtain rfl := Option.some.inj (hbase.parse.symm.trans htarget)
    obtain ⟨o, ho⟩ := Option.ne_none_iff_exists'.mp hbase.origin
    exact netloc_of_origin (horigin.trans ho)

/-- Why a URL passes for one of the instance. -/
theorem own_or_begins (hu : URL.parse url = some u) (h : H.isOwnUrl url = some true) :
    H.Own url ∨ H.beginsWithOwn url = true := by
  rw [isOwnUrl_eq hu, Option.some.injEq, Bool.or_eq_true] at h
  rcases h with hknown | hbegins
  · exact Or.inl (own_of_isHassUrl hu hknown)
  · exact Or.inr hbegins

/-- A URL that passes for one of the instance and is left unchanged is at the base already. -/
theorem atBase_of_unchanged (hu : URL.parse url = some u) (hbase : IsBase base target b)
    (hown : H.isOwnUrl url = some true) (hsame : H.rewriteHassUrl url base = some url) :
    AtBase url base := by
  by_cases hnetloc : URL.hasNetloc u = true
  · obtain ⟨a, ha, hne⟩ := (Option.any_eq_true _ _).mp hnetloc
    rw [rewriteHassUrl_of_own hown hu ha (of_decide_eq_true hne) hbase] at hsame
    exact (atBase_iff hu ha hbase).mpr (Option.some.inj hsame)
  · rw [rewriteHassUrl_none hown hu (Bool.eq_false_iff.mpr hnetloc)] at hsame
    cases hsame

end

/-- **Only the instance's own URLs are rebased exactly if** a URL that begins with one of
`get_url` is of a known base, or at the base of the override already. -/
theorem rebasesOnlyOwn_iff (url raw base : String) (u : Uri) (hurl : URL.parse url = some u)
    (hbase : normalizeOverride raw = some base) :
    H.RebasesOnlyOwn url base ↔ (H.beginsWithOwn url = true → H.Own url ∨ AtBase url base) := by
  obtain ⟨target, b, hbase⟩ := isBase_of_normalizeOverride hbase
  constructor
  · intro h hbegins
    by_cases hown : H.Own url
    · exact Or.inl hown
    · have hpasses : H.isOwnUrl url = some true := by
        rw [isOwnUrl_eq hurl, hbegins, Bool.or_true]
      exact Or.inr (atBase_of_unchanged hurl hbase hpasses (h.others hown))
  · intro h
    have hwhy (hown : H.isOwnUrl url = some true) : H.Own url ∨ AtBase url base := by
      rcases own_or_begins hurl hown with hown | hbegins
      · exact Or.inl hown
      · exact h hbegins
    cases hown : (URL.origin u).any (· ∈ H.known) || H.beginsWithOwn url with
    | false =>
      have hother : H.isOwnUrl url = some false := by rw [isOwnUrl_eq hurl, hown]
      have hsame : H.rewriteHassUrl url base = some url := rewriteHassUrl_of_not_own hother
      refine ⟨fun _ => hsame, ?_, ?_⟩
      · intro hpasses
        rw [hother] at hpasses
        cases hpasses
      · intro out hout
        obtain rfl := Option.some.inj (hsame.symm.trans hout)
        exact hsame
    | true =>
      have hpasses : H.isOwnUrl url = some true := by rw [isOwnUrl_eq hurl, hown]
      obtain ⟨a, ha, hne⟩ := netloc_of_own hurl hbase (hwhy hpasses)
      have hrewritten := rewriteHassUrl_of_own hpasses hurl ha hne hbase
      refine ⟨?_, fun _ => ⟨_, hrewritten, rebased_rewritten hurl ha hne hbase⟩, ?_⟩
      · intro hother
        have hat : AtBase url base := (hwhy hpasses).resolve_left hother
        rw [hrewritten, (atBase_iff hurl ha hbase).mp hat]
      · intro out hout
        obtain rfl := Option.some.inj (hrewritten.symm.trans hout)
        exact rewriteHassUrl_rebased hurl ha hbase

/-! ## An instance with a pinned internal URL -/

/-- An instance at `http://192.168.1.1`, its pinned internal URL. -/
def atDefaultPort : HassUrls where
  known := [⟨"http".toList, "192.168.1.1".toList, some 80⟩]
  internalUrl := some "http://192.168.1.1"
  externalUrl := none

/-- The address of a radio begins with that of the instance: its stream is rebased. -/
theorem not_rebasesOnlyOwn :
    normalizeOverride "http://10.0.0.5:8123" = some "http://10.0.0.5:8123" ∧
      ¬ atDefaultPort.RebasesOnlyOwn "http://192.168.1.10:8000/stream" "http://10.0.0.5:8123" := by
  refine ⟨by decide, ?_⟩
  intro h
  have horigin : baseOrigin (some "http://192.168.1.10:8000/stream") =
      some ⟨"http".toList, "192.168.1.10".toList, some 8000⟩ := by decide
  have hother : ¬ atDefaultPort.Own "http://192.168.1.10:8000/stream" := by
    rintro ⟨u, o, hu, ho, hown⟩
    unfold baseOrigin at horigin
    rw [Option.bind_some, hu, Option.bind_some, ho] at horigin
    cases horigin
    revert hown
    decide
  have hrewritten := h.others hother
  revert hrewritten
  decide

/-- A text-to-speech URL of that instance. -/
def speechUrl : Uri where
  scheme := some "http".toList
  authority := some ⟨none, "192.168.1.1".toList, none⟩
  path := "/api/tts.mp3".toList
  query := some "x=1".toList
  fragment := none

theorem rebasesOnlyOwn_speech :
    atDefaultPort.RebasesOnlyOwn "http://192.168.1.1/api/tts.mp3?x=1" "http://10.0.0.5:8123" := by
  refine (rebasesOnlyOwn_iff atDefaultPort _ "http://10.0.0.5:8123/" _ speechUrl (by decide)
    (by decide)).mpr ?_
  intro _
  refine Or.inl ⟨speechUrl, ⟨"http".toList, "192.168.1.1".toList, some 80⟩, ?_, ?_, Or.inl ?_⟩
  · decide
  · decide
  · decide

end HassUrls

end CastDelivery
