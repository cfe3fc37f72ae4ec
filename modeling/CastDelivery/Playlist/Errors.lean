import CastDelivery.Lib.Fallible
import CastDelivery.Playlist.M3u

/-!
# What escapes from the playlist parsers

`async_play_media` falls back to the URL of the playlist on a `PlaylistError`. Other exceptions
come out of `parse_playlist` as well: for an unknown charset, for a `Version` that is no integer,
for a percent sign in a value of a PLS playlist, and for a URL that `urlparse` does not take.
`failsOnlyWithPlaylistError_iff` has each of these accesses, and no other condition.
-/

namespace CastDelivery

/-! ## Exceptions that do not escape -/

/-- The result is no exception but a `PlaylistError`. -/
def Safe {α : Type*} (result : Except PlaylistExc α) : Prop := ∀ cls, result ≠ .error (.other cls)

section

variable {α β : Type*} {result : Except PlaylistExc α}

theorem safe_ok (a : α) : Safe (.ok a : Except PlaylistExc α) := by
  intro cls h
  cases h

theorem safe_error (message : String) : Safe (.error (.error message) : Except PlaylistExc α) := by
  intro cls h
  cases h

theorem safe_supported (message : String) :
    Safe (.error (.supported message) : Except PlaylistExc α) := by
  intro cls h
  cases h

theorem not_safe_other (cls : String) : ¬ Safe (.error (.other cls) : Except PlaylistExc α) :=
  fun h => h cls rfl

theorem safe_bind {f : α → Except PlaylistExc β} :
    Safe (result.bind f) ↔ Safe result ∧ ∀ a, result = .ok a → Safe (f a) := by
  cases result with
  | ok a =>
    constructor
    · intro h
      refine ⟨safe_ok a, ?_⟩
      intro b hb
      cases hb
      exact h
    · intro h
      exact h.2 a rfl
  | error e =>
    have hsame : Safe (Except.error e : Except PlaylistExc β) ↔
        Safe (Except.error e : Except PlaylistExc α) := by
      constructor
      · intro h cls he
        cases he
        exact h cls rfl
      · intro h cls he
        cases he
        exact h cls rfl
    constructor
    · intro h
      refine ⟨hsame.mp h, ?_⟩
      intro a ha
      cases ha
    · intro h
      exact hsame.mpr h.1

theorem safe_map {f : α → β} : Safe (result.map f) ↔ Safe result := by
  cases result with
  | ok a => exact ⟨fun _ => safe_ok a, fun _ => safe_ok (f a)⟩
  | error e =>
    constructor
    · intro h cls he
      cases he
      exact h cls rfl
    · intro h cls he
      cases he
      exact h cls rfl

/-- A loop whose turns end in one of three ways, whatever came before them. -/
theorem safe_foldlM (step : β → α → Except PlaylistExc β) (bad halts : α → Prop)
    (hbad : ∀ s a, Safe (step s a) ↔ ¬ bad a)
    (hok : ∀ s a, ¬ bad a → ¬ halts a → ∃ t, step s a = .ok t)
    (hhalts : ∀ s a t, halts a → step s a ≠ .ok t) (as : List α) (s : β) :
    Safe (as.foldlM step s) ↔
      ∀ front a rest, as = front ++ a :: rest → (∀ b ∈ front, ¬ halts b) → ¬ bad a := by
  induction as generalizing s with
  | nil =>
    constructor
    · intro _ front a rest h
      exact absurd h (by simp)
    · intro _
      exact safe_ok s
  | cons a as ih =>
    have hcons : (a :: as).foldlM step s = (step s a).bind fun t => as.foldlM step t :=
      List.foldlM_cons
    rw [hcons, safe_bind, hbad]
    constructor
    · rintro ⟨hgood, hrest⟩ front b rest hsplit hfront
      cases front with
      | nil =>
        obtain ⟨rfl, -⟩ := List.cons.inj hsplit
        exact hgood
      | cons c front =>
        obtain ⟨rfl, htail⟩ := List.cons.inj hsplit
        obtain ⟨t, ht⟩ := hok s a hgood (hfront a List.mem_cons_self)
        exact (ih t).mp (hrest t ht) front b rest htail
          fun d hd => hfront d (List.mem_cons_of_mem _ hd)
    · intro h
      refine ⟨h [] a as rfl fun b hb => absurd hb List.not_mem_nil, ?_⟩
      intro t ht
      refine (ih t).mpr ?_
      intro front b rest hsplit hfront
      refine h (a :: front) b rest (by rw [hsplit, List.cons_append]) ?_
      intro d hd
      rcases List.mem_cons.mp hd with rfl | hd
      · intro hhalt
        exact hhalts s d t hhalt ht
      · exact hfront d hd

end

namespace PlaylistEnv

open ConfigParser

variable (E : PlaylistEnv)

/-! ## The accesses -/

/-- The content types that are not read. -/
def unread (url : String) : List String := if isM3u url then HLS_CONTENT_TYPES else []

/-- The response is read, and comes out as `decoded`. -/
def Reads (url : String) (decoded : Decoded) : Prop :=
  ∃ resp, E.get url = .response resp ∧ resp.contentType ∉ unread url ∧
    E.decode (strOr resp.charset "utf-8") (resp.content.take (64 * 1024)) = decoded

/-- The value that an option of the playlist section has. -/
def option (config : Config) (name : List Char) : Config.Access :=
  config.get E.rules PLS_SECTION_PLAYLIST name

/-- The entry has a URL without a scheme or a network location. -/
def InvalidEntry (config : Config) (entry : ℕ) : Prop :=
  ∃ text, E.option config (entryOption "File" entry) = .value text ∧
    E.isUrl (String.ofList text) = some false

/-- What is read of an entry can be read. -/
structure PlainEntry (config : Config) (entry : ℕ) : Prop where
  file : E.option config (entryOption "File" entry) ≠ .failed
  url : ∀ text, E.option config (entryOption "File" entry) = .value text →
    E.urlparse (String.ofList text) ≠ none
  length : ∀ text, E.option config (entryOption "File" entry) = .value text →
    E.isUrl (String.ofList text) = some true →
    E.option config (entryOption "Length" entry) ≠ .failed
  title : ∀ text, E.option config (entryOption "File" entry) = .value text →
    E.isUrl (String.ofList text) = some true →
    E.option config (entryOption "Title" entry) ≠ .failed

/-- The playlist is of version 2. -/
def IsVersion2 (config : Config) : Prop :=
  ∃ text, E.option config "Version".toList = .value text ∧ Numeral.int 10 text = some 2

/-- What is read of a PLS playlist can be read. -/
structure PlainConfig (config : Config) : Prop where
  version : E.option config "Version".toList ≠ .failed
  integer : ∀ text, E.option config "Version".toList = .value text → Numeral.int 10 text ≠ none
  numEntries : E.IsVersion2 config → E.option config "NumberOfEntries".toList ≠ .failed
  /-- The entries up to the first one that is not valid. -/
  entries : E.IsVersion2 config → ∀ text n,
    E.option config "NumberOfEntries".toList = .value text → Numeral.int 10 text = some n →
    ∀ front entry rest, entryRange n = front ++ entry :: rest →
      (∀ earlier ∈ front, ¬ E.InvalidEntry config earlier) → E.PlainEntry config entry

/-- The line ends the parse of an M3U playlist. -/
def EndsM3u (line : String) : Prop :=
  lineKind line = .hls ∨ isEntry line = true ∧ E.isUrl line = some false

/-- What is read of the playlist can be read. -/
structure Readable (url : String) : Prop where
  charset : ¬ E.Reads url .lookupError
  /-- The entries up to the first line that ends the parse. -/
  m3u : isM3u url = true → ∀ text, E.Reads url (.text text) →
    ∀ front line rest, strippedLines text = front ++ line :: rest →
      (∀ earlier ∈ front, ¬ E.EndsM3u earlier) → isEntry line = true → E.urlparse line ≠ none
  pls : isM3u url = false → ∀ text config, E.Reads url (.text text) →
    ConfigParser.read E.rules text.toList = .ok config →
    config.hasSection PLS_SECTION_PLAYLIST = true → E.PlainConfig config

/-- `parse_playlist` returns items with URLs, or raises a `PlaylistError`. -/
structure FailsOnlyWithPlaylistError (url : String) : Prop where
  nonempty : E.parsePlaylist url ≠ .ok []
  items : ∀ playlist, E.parsePlaylist url = .ok playlist → ∀ item ∈ playlist,
    ∃ scheme netloc, E.urlparse item.url = some (scheme, netloc) ∧ scheme ≠ "" ∧ netloc ≠ ""
  errors : ∀ cls, E.parsePlaylist url ≠ .error (.other cls)
  /-- `async_play_media` falls back to the URL of the playlist. -/
  fallsBack : E.answer url ≠ .escaped

section

variable {E} {url text line : String} {config : Config} {entry : ℕ} {playlist : List PlaylistItem}

theorem isUrl_eq_none_iff : E.isUrl line = none ↔ E.urlparse line = none := Option.map_eq_none_iff

/-- A URL that is accepted has a scheme and a network location. -/
theorem of_isUrl (h : E.isUrl line = some true) :
    ∃ scheme netloc, E.urlparse line = some (scheme, netloc) ∧ scheme ≠ "" ∧ netloc ≠ "" := by
  obtain ⟨result, hresult, hparts⟩ := Option.map_eq_some_iff.mp h
  obtain ⟨hscheme, hnetloc⟩ := of_decide_eq_true hparts
  exact ⟨result.1, result.2, hresult, hscheme, hnetloc⟩

/-! ## Fetching -/

theorem safe_fetchPlaylist : Safe (E.fetchPlaylist url (unread url)) ↔
    ¬ E.Reads url .lookupError := by
  unfold fetchPlaylist Reads
  cases E.get url with
  | timeout =>
    refine ⟨?_, fun _ => safe_error _⟩
    rintro - ⟨resp, hresp, -⟩
    cases hresp
  | clientError =>
    refine ⟨?_, fun _ => safe_error _⟩
    rintro - ⟨resp, hresp, -⟩
    cases hresp
  | response resp =>
    simp only
    by_cases hunread : resp.contentType ∈ unread url
    · rw [if_pos hunread]
      refine ⟨?_, fun _ => safe_supported _⟩
      rintro - ⟨resp', hresp, hread, -⟩
      cases hresp
      exact hread hunread
    · rw [if_neg hunread]
      have hreads (decoded : Decoded) : (∃ resp', Fetched.response resp = .response resp' ∧
          resp'.contentType ∉ unread url ∧
          E.decode (strOr resp'.charset "utf-8") (resp'.content.take (64 * 1024)) = decoded) ↔
          E.decode (strOr resp.charset "utf-8") (resp.content.take (64 * 1024)) = decoded := by
        constructor
        · rintro ⟨resp', hresp, -, hdecoded⟩
          cases hresp
          exact hdecoded
        · intro hdecoded
          exact ⟨resp, rfl, hunread, hdecoded⟩
      rw [hreads]
      cases E.decode (strOr resp.charset "utf-8") (resp.content.take (64 * 1024)) with
      | text text => exact ⟨fun _ => nofun, fun _ => safe_ok text⟩
      | valueError => exact ⟨fun _ => nofun, fun _ => safe_error _⟩
      | lookupError =>
        exact ⟨fun h => absurd h (not_safe_other _), fun h => absurd rfl h⟩

theorem fetchPlaylist_eq_ok :
    E.fetchPlaylist url (unread url) = .ok text ↔ E.Reads url (.text text) := by
  unfold fetchPlaylist Reads
  constructor
  · intro h
    cases hget : E.get url with
    | timeout =>
      rw [hget] at h
      cases h
    | clientError =>
      rw [hget] at h
      cases h
    | response resp =>
      rw [hget] at h
      simp only at h
      split at h
      · cases h
      · next hunread =>
        refine ⟨resp, rfl, hunread, ?_⟩
        cases hdecode : E.decode (strOr resp.charset "utf-8") (resp.content.take (64 * 1024)) with
        | text text' =>
          rw [hdecode] at h
          cases h
          rfl
        | valueError =>
          rw [hdecode] at h
          cases h
        | lookupError =>
          rw [hdecode] at h
          cases h
  · rintro ⟨resp, hget, hunread, hdecode⟩
    rw [hget]
    simp only
    rw [if_neg hunread, hdecode]

/-! ## M3U -/

/-! One turn of the loop over the lines, by the kind of the line. -/

section

variable {s t : M3uState}

theorem safe_m3uStep : Safe (M3uState.step E.isUrl url s line) ↔
    ¬ (isEntry line = true ∧ E.urlparse line = none) := by
  unfold M3uState.step isEntry
  rw [← isUrl_eq_none_iff]
  cases lineKind line with
  | entry =>
    simp only
    cases E.isUrl line with
    | none => simp [not_safe_other]
    | some valid =>
      cases valid with
      | false => simp [safe_error]
      | true => simp [safe_ok]
  | hls => simp [safe_supported]
  | extinf length title => simp [safe_ok]
  | malformed => simp [safe_ok]
  | comment => simp [safe_ok]
  | blank => simp [safe_ok]

theorem m3uStep_ok (hparsed : ¬ (isEntry line = true ∧ E.urlparse line = none))
    (hgoes : ¬ E.EndsM3u line) : ∃ t, M3uState.step E.isUrl url s line = .ok t := by
  unfold EndsM3u isEntry at hgoes
  unfold isEntry at hparsed
  rw [← isUrl_eq_none_iff] at hparsed
  unfold M3uState.step
  cases hkind : lineKind line with
  | entry =>
    simp only
    cases hurl : E.isUrl line with
    | none => simp [hkind, hurl] at hparsed
    | some valid =>
      cases valid with
      | false => simp [hkind, hurl] at hgoes
      | true => exact ⟨_, rfl⟩
  | hls => simp [hkind] at hgoes
  | extinf length title => exact ⟨_, rfl⟩
  | malformed => exact ⟨_, rfl⟩
  | comment => exact ⟨_, rfl⟩
  | blank => exact ⟨_, rfl⟩

theorem m3uStep_ne_ok (hends : E.EndsM3u line) : M3uState.step E.isUrl url s line ≠ .ok t := by
  intro hok
  unfold M3uState.step at hok
  rcases hends with hkind | ⟨hentry, hurl⟩
  · rw [hkind] at hok
    cases hok
  · have hkind : lineKind line = .entry := of_decide_eq_true hentry
    rw [hkind] at hok
    simp only [hurl] at hok
    cases hok

/-- One turn of the loop adds an item with a URL, or nothing. -/
theorem isUrl_m3uStep (hurls : ∀ item ∈ s.playlist, E.isUrl item.url = some true)
    (h : M3uState.step E.isUrl url s line = .ok t) :
    ∀ item ∈ t.playlist, E.isUrl item.url = some true := by
  unfold M3uState.step at h
  cases hkind : lineKind line with
  | entry =>
    rw [hkind] at h
    simp only at h
    split at h
    · cases h
    · cases h
    · next hurl =>
      cases h
      intro item hitem
      rcases List.mem_append.mp hitem with hitem | hitem
      · exact hurls item hitem
      · rw [List.mem_singleton.mp hitem]
        exact hurl
  | hls =>
    rw [hkind] at h
    cases h
  -- the other lines leave the items as they are
  | extinf length title =>
    rw [hkind] at h
    cases h
    exact hurls
  | malformed =>
    rw [hkind] at h
    cases h
    exact hurls
  | comment =>
    rw [hkind] at h
    cases h
    exact hurls
  | blank =>
    rw [hkind] at h
    cases h
    exact hurls

end

theorem safe_parseM3uText : Safe (parseM3uText E.isUrl url text) ↔
    ∀ front line rest, strippedLines text = front ++ line :: rest →
      (∀ earlier ∈ front, ¬ E.EndsM3u earlier) → isEntry line = true → E.urlparse line ≠ none := by
  have hloop := safe_foldlM (M3uState.step E.isUrl url)
    (fun line => isEntry line = true ∧ E.urlparse line = none) E.EndsM3u
    (fun s line => safe_m3uStep) (fun s line => m3uStep_ok) (fun s line t => m3uStep_ne_ok)
    (strippedLines text) {}
  unfold parseM3uText parseM3uLines
  rw [safe_map, hloop]
  refine forall₅_congr fun front line rest _ _ => ?_
  rw [not_and]

/-- The items of an M3U playlist have URLs. -/
theorem isUrl_parseM3uText (h : parseM3uText E.isUrl url text = .ok playlist) :
    ∀ item ∈ playlist, E.isUrl item.url = some true := by
  obtain ⟨s, hrun, rfl⟩ := map_eq_ok.mp h
  refine foldlM_invariant (P := fun s : M3uState => ∀ item ∈ s.playlist,
    E.isUrl item.url = some true) ?_ ?_ hrun
  · intro s line t hurls hstep
    exact isUrl_m3uStep hurls hstep
  · intro item hitem
    exact absurd hitem List.not_mem_nil

/-! ## PLS -/

theorem safe_sectionGet {name : List Char} :
    Safe (E.sectionGet config name) ↔ E.option config name ≠ .failed := by
  unfold sectionGet option
  cases config.get E.rules PLS_SECTION_PLAYLIST name with
  | missing => simp [safe_ok]
  | failed => simp [not_safe_other]
  | value text => simp [safe_ok]

theorem sectionGet_ok {name : List Char} (h : E.option config name ≠ .failed) :
    ∃ value, E.sectionGet config name = .ok value := by
  unfold option at h
  unfold sectionGet
  cases hget : config.get E.rules PLS_SECTION_PLAYLIST name with
  | missing => exact ⟨none, rfl⟩
  | failed => exact absurd hget h
  | value text => exact ⟨some (String.ofList text), rfl⟩

/-- An entry is read if it is there. -/
theorem hasOption_iff {name : List Char} :
    config.hasOption E.rules PLS_SECTION_PLAYLIST name = true ↔
      E.option config name ≠ .missing := by
  refine ⟨config.get_ne_missing E.rules, ?_⟩
  unfold option Config.get Config.hasOption
  cases config.stored PLS_SECTION_PLAYLIST (E.rules.optionxform name) with
  | none => exact fun h => absurd rfl h
  | some value => exact fun _ => rfl

theorem hasOption_of_eq {name : List Char} {access : Config.Access}
    (h : E.option config name = access) (hne : access ≠ .missing) :
    config.hasOption E.rules PLS_SECTION_PLAYLIST name = true := by
  rw [hasOption_iff, h]
  exact hne

/-! One turn of the loop over the entries, by the value of the entry's file. -/

theorem plsStep_missing (hfile : E.option config (entryOption "File" entry) = .missing) :
    E.plsStep url config playlist entry = .ok playlist := by
  have hnot : ¬ config.hasOption E.rules PLS_SECTION_PLAYLIST (entryOption "File" entry) = true :=
    fun h => hasOption_iff.mp h hfile
  unfold plsStep
  simp only
  rw [if_neg hnot]

theorem plsStep_failed (hfile : E.option config (entryOption "File" entry) = .failed) :
    E.plsStep url config playlist entry = .error (.other "InterpolationError") := by
  have hthere := hasOption_of_eq hfile nofun
  unfold option at hfile
  unfold plsStep
  simp only
  rw [if_pos hthere, hfile]

section

variable {file : List Char}

theorem plsStep_raises (hfile : E.option config (entryOption "File" entry) = .value file)
    (hurl : E.isUrl (String.ofList file) = none) :
    E.plsStep url config playlist entry = .error (.other "ValueError") := by
  have hthere := hasOption_of_eq hfile nofun
  unfold option at hfile
  unfold plsStep
  simp only
  rw [if_pos hthere, hfile]
  simp only [hurl]

theorem plsStep_invalid (hfile : E.option config (entryOption "File" entry) = .value file)
    (hurl : E.isUrl (String.ofList file) = some false) :
    E.plsStep url config playlist entry =
      .error (.error ("Invalid item " ++ String.ofList file ++ " in playlist " ++ url)) := by
  have hthere := hasOption_of_eq hfile nofun
  unfold option at hfile
  unfold plsStep
  simp only
  rw [if_pos hthere, hfile]
  simp only [hurl]

theorem plsStep_valid (hfile : E.option config (entryOption "File" entry) = .value file)
    (hurl : E.isUrl (String.ofList file) = some true) :
    E.plsStep url config playlist entry =
      (E.sectionGet config (entryOption "Length" entry)).bind fun length =>
        (E.sectionGet config (entryOption "Title" entry)).map fun title =>
          playlist ++ [⟨length.map .text, title, String.ofList file⟩] := by
  have hthere := hasOption_of_eq hfile nofun
  unfold option at hfile
  unfold plsStep
  simp only
  rw [if_pos hthere, hfile]
  simp only [hurl]

end

/-- Nothing is read of an entry that is not there. -/
theorem plainEntry_of_missing (hfile : E.option config (entryOption "File" entry) = .missing) :
    E.PlainEntry config entry := by
  have hnot (text : List Char) : E.option config (entryOption "File" entry) ≠ .value text := by
    rw [hfile]
    exact nofun
  refine ⟨?_, fun text htext => absurd htext (hnot text),
    fun text htext => absurd htext (hnot text), fun text htext => absurd htext (hnot text)⟩
  rw [hfile]
  exact nofun

/-- The length and the title are read of an entry with a URL only. -/
theorem plainEntry_iff {file : List Char}
    (hfile : E.option config (entryOption "File" entry) = .value file) :
    E.PlainEntry config entry ↔ E.isUrl (String.ofList file) ≠ none ∧
      (E.isUrl (String.ofList file) = some true →
        E.option config (entryOption "Length" entry) ≠ .failed ∧
          E.option config (entryOption "Title" entry) ≠ .failed) := by
  have hsame {text : List Char}
      (htext : E.option config (entryOption "File" entry) = .value text) : file = text := by
    rw [hfile] at htext
    cases htext
    rfl
  rw [Ne, isUrl_eq_none_iff]
  constructor
  · intro h
    exact ⟨h.url file hfile, fun hurl => ⟨h.length file hfile hurl, h.title file hfile hurl⟩⟩
  · rintro ⟨hparsed, hread⟩
    refine ⟨?_, ?_, ?_, ?_⟩
    · rw [hfile]
      exact nofun
    · intro text htext
      rw [← hsame htext]
      exact hparsed
    · intro text htext hurl
      rw [← hsame htext] at hurl
      exact (hread hurl).1
    · intro text htext hurl
      rw [← hsame htext] at hurl
      exact (hread hurl).2

theorem safe_plsStep : Safe (E.plsStep url config playlist entry) ↔ E.PlainEntry config entry := by
  cases hfile : E.option config (entryOption "File" entry) with
  | missing =>
    rw [plsStep_missing hfile]
    exact ⟨fun _ => plainEntry_of_missing hfile, fun _ => safe_ok playlist⟩
  | failed =>
    rw [plsStep_failed hfile]
    exact ⟨fun h => absurd h (not_safe_other _), fun h => absurd hfile h.file⟩
  | value text =>
    rw [plainEntry_iff hfile]
    cases hurl : E.isUrl (String.ofList text) with
    | none =>
      rw [plsStep_raises hfile hurl]
      exact ⟨fun h => absurd h (not_safe_other _), fun h => absurd rfl h.1⟩
    | some valid =>
      cases valid with
      | false =>
        rw [plsStep_invalid hfile hurl]
        exact ⟨fun _ => ⟨nofun, nofun⟩, fun _ => safe_error _⟩
      | true =>
        rw [plsStep_valid hfile hurl, safe_bind, safe_sectionGet]
        constructor
        · rintro ⟨hlength, htitle⟩
          obtain ⟨value, hvalue⟩ := sectionGet_ok hlength
          exact ⟨nofun, fun _ => ⟨hlength, safe_sectionGet.mp (safe_map.mp (htitle value hvalue))⟩⟩
        · rintro ⟨-, hread⟩
          obtain ⟨hlength, htitle⟩ := hread rfl
          exact ⟨hlength, fun value _ => safe_map.mpr (safe_sectionGet.mpr htitle)⟩

theorem plsStep_ok (hplain : E.PlainEntry config entry) (hvalid : ¬ E.InvalidEntry config entry) :
    ∃ playlist', E.plsStep url config playlist entry = .ok playlist' := by
  cases hfile : E.option config (entryOption "File" entry) with
  | missing => exact ⟨playlist, plsStep_missing hfile⟩
  | failed => exact absurd hfile hplain.file
  | value text =>
    cases hurl : E.isUrl (String.ofList text) with
    | none => exact absurd (isUrl_eq_none_iff.mp hurl) (hplain.url text hfile)
    | some valid =>
      cases valid with
      | false => exact absurd ⟨text, hfile, hurl⟩ hvalid
      | true =>
        obtain ⟨length, hlength⟩ := sectionGet_ok (hplain.length text hfile hurl)
        obtain ⟨title, htitle⟩ := sectionGet_ok (hplain.title text hfile hurl)
        rw [plsStep_valid hfile hurl, hlength, htitle]
        exact ⟨_, rfl⟩

theorem plsStep_ne_ok (hinvalid : E.InvalidEntry config entry) (playlist' : List PlaylistItem) :
    E.plsStep url config playlist entry ≠ .ok playlist' := by
  obtain ⟨text, hfile, hurl⟩ := hinvalid
  rw [plsStep_invalid hfile hurl]
  exact nofun

/-- One turn of the loop adds an item with a URL, or nothing. -/
theorem isUrl_plsStep {playlist' : List PlaylistItem}
    (hurls : ∀ item ∈ playlist, E.isUrl item.url = some true)
    (h : E.plsStep url config playlist entry = .ok playlist') :
    ∀ item ∈ playlist', E.isUrl item.url = some true := by
  cases hfile : E.option config (entryOption "File" entry) with
  | missing =>
    rw [plsStep_missing hfile] at h
    cases h
    exact hurls
  | failed =>
    rw [plsStep_failed hfile] at h
    cases h
  | value text =>
    cases hurl : E.isUrl (String.ofList text) with
    | none =>
      rw [plsStep_raises hfile hurl] at h
      cases h
    | some valid =>
      cases valid with
      | false =>
        rw [plsStep_invalid hfile hurl] at h
        cases h
      | true =>
        rw [plsStep_valid hfile hurl] at h
        obtain ⟨length, -, hrest⟩ := bind_eq_ok.mp h
        obtain ⟨title, -, rfl⟩ := map_eq_ok.mp hrest
        intro item hitem
        rcases List.mem_append.mp hitem with hitem | hitem
        · exact hurls item hitem
        · rw [List.mem_singleton.mp hitem]
          exact hurl

theorem safe_version : Safe (E.version config) ↔
    E.option config "Version".toList ≠ .failed ∧
      ∀ text, E.option config "Version".toList = .value text → Numeral.int 10 text ≠ none := by
  unfold version option
  cases config.get E.rules PLS_SECTION_PLAYLIST "Version".toList with
  | missing => simp [safe_ok]
  | failed => simp [not_safe_other]
  | value text =>
    simp only
    cases hint : Numeral.int 10 text with
    | none => simp [not_safe_other, hint]
    | some v => simp [safe_ok, hint]

theorem version_eq_two : E.version config = .ok (some 2) ↔ E.IsVersion2 config := by
  unfold version IsVersion2 option
  cases config.get E.rules PLS_SECTION_PLAYLIST "Version".toList with
  | missing => simp
  | failed => simp
  | value text =>
    simp only
    cases hint : Numeral.int 10 text with
    | none => simp [hint]
    | some v => simp [hint]

theorem safe_numEntries :
    Safe (E.numEntries url config) ↔ E.option config "NumberOfEntries".toList ≠ .failed := by
  unfold numEntries option
  cases config.get E.rules PLS_SECTION_PLAYLIST "NumberOfEntries".toList with
  | missing => simp [safe_error]
  | failed => simp [not_safe_other]
  | value text =>
    simp only
    cases Numeral.int 10 text with
    | none => simp [safe_error]
    | some n => simp [safe_ok]

theorem numEntries_eq_ok {n : Int} : E.numEntries url config = .ok n ↔
    ∃ text, E.option config "NumberOfEntries".toList = .value text ∧
      Numeral.int 10 text = some n := by
  unfold numEntries option
  cases config.get E.rules PLS_SECTION_PLAYLIST "NumberOfEntries".toList with
  | missing => simp
  | failed => simp
  | value text =>
    simp only
    cases hint : Numeral.int 10 text with
    | none => simp [hint]
    | some m => simp [hint]

theorem safe_entries (n : Int) :
    Safe ((entryRange n).foldlM (E.plsStep url config) []) ↔
      ∀ front entry rest, entryRange n = front ++ entry :: rest →
        (∀ earlier ∈ front, ¬ E.InvalidEntry config earlier) → E.PlainEntry config entry := by
  have hloop := safe_foldlM (E.plsStep url config)
    (fun entry => ¬ E.PlainEntry config entry) (E.InvalidEntry config)
    (fun playlist entry => by rw [not_not]; exact safe_plsStep)
    (fun playlist entry hplain hvalid => plsStep_ok (not_not.mp hplain) hvalid)
    (fun playlist entry playlist' hinvalid => plsStep_ne_ok hinvalid playlist') (entryRange n) []
  rw [hloop]
  refine forall₅_congr fun front entry rest _ _ => ?_
  rw [not_not]

theorem safe_parsePlsConfig (hsection : config.hasSection PLS_SECTION_PLAYLIST = true) :
    Safe (E.parsePlsConfig url config) ↔ E.PlainConfig config := by
  unfold parsePlsConfig
  rw [if_pos hsection, safe_bind, safe_version]
  have hafter : (∀ version, E.version config = .ok version → Safe (if version = some 2 then
      (E.numEntries url config).bind fun entries =>
        (entryRange entries).foldlM (E.plsStep url config) []
      else .error (.error ("Invalid playlist " ++ url)))) ↔
      (E.IsVersion2 config → Safe ((E.numEntries url config).bind fun entries =>
        (entryRange entries).foldlM (E.plsStep url config) [])) := by
    rw [← version_eq_two]
    constructor
    · intro h htwo
      have hsafe := h (some 2) htwo
      rwa [if_pos rfl] at hsafe
    · intro h version hversion
      by_cases htwo : version = some 2
      · rw [if_pos htwo]
        exact h (htwo ▸ hversion)
      · rw [if_neg htwo]
        exact safe_error _
  rw [hafter, safe_bind, safe_numEntries]
  constructor
  · rintro ⟨⟨hversion, hinteger⟩, hentries⟩
    refine ⟨hversion, hinteger, fun htwo => (hentries htwo).1, ?_⟩
    intro htwo text n htext hn
    exact (safe_entries n).mp ((hentries htwo).2 n (numEntries_eq_ok.mpr ⟨text, htext, hn⟩))
  · intro h
    refine ⟨⟨h.version, h.integer⟩, fun htwo => ⟨h.numEntries htwo, ?_⟩⟩
    intro n hn
    obtain ⟨text, htext, hint⟩ := numEntries_eq_ok.mp hn
    exact (safe_entries n).mpr (h.entries htwo text n htext hint)

theorem safe_parsePlsText : Safe (E.parsePlsText url text) ↔
    ∀ config, ConfigParser.read E.rules text.toList = .ok config →
      config.hasSection PLS_SECTION_PLAYLIST = true → E.PlainConfig config := by
  unfold parsePlsText
  cases ConfigParser.read E.rules text.toList with
  | error e =>
    refine ⟨?_, fun _ => safe_error _⟩
    intro _ config hconfig
    cases hconfig
  | ok config =>
    simp only
    by_cases hsection : config.hasSection PLS_SECTION_PLAYLIST = true
    · rw [safe_parsePlsConfig hsection]
      constructor
      · intro h config' hconfig _
        cases hconfig
        exact h
      · intro h
        exact h config rfl hsection
    · constructor
      · intro _ config' hconfig hsection'
        cases hconfig
        exact absurd hsection' hsection
      · intro _
        unfold parsePlsConfig
        rw [if_neg hsection]
        exact safe_error _

/-- The items of a PLS playlist have URLs. -/
theorem isUrl_parsePlsText (h : E.parsePlsText url text = .ok playlist) :
    ∀ item ∈ playlist, E.isUrl item.url = some true := by
  unfold parsePlsText at h
  cases hread : ConfigParser.read E.rules text.toList with
  | error e =>
    rw [hread] at h
    cases h
  | ok config =>
    rw [hread] at h
    simp only [parsePlsConfig] at h
    split at h
    · obtain ⟨version, -, hversion⟩ := bind_eq_ok.mp h
      split at hversion
      · obtain ⟨n, -, hentries⟩ := bind_eq_ok.mp hversion
        refine foldlM_invariant (P := fun playlist => ∀ item ∈ playlist,
          E.isUrl item.url = some true) ?_ ?_ hentries
        · intro playlist entry playlist' hurls hstep
          exact isUrl_plsStep hurls hstep
        · intro item hitem
          exact absurd hitem List.not_mem_nil
      · cases hversion
    · cases h

/-! ## `parse_playlist` -/

/-- What is read of the playlist, and how. -/
theorem parsePlaylist_eq (E : PlaylistEnv) (url : String) :
    E.parsePlaylist url =
      ((E.fetchPlaylist url (unread url)).bind fun text =>
        if isM3u url then parseM3uText E.isUrl url text else E.parsePlsText url text).bind
          fun playlist =>
            if playlist = [] then .error (.error ("Empty playlist " ++ url)) else .ok playlist := by
  unfold parsePlaylist parseM3u parsePls unread
  cases isM3u url <;> rfl

theorem safe_parsePlaylist : Safe (E.parsePlaylist url) ↔ E.Readable url := by
  have hempty (playlist : List PlaylistItem) : Safe (if playlist = [] then
      Except.error (PlaylistExc.error ("Empty playlist " ++ url)) else .ok playlist) := by
    split
    · exact safe_error _
    · exact safe_ok _
  rw [parsePlaylist_eq, safe_bind, safe_bind, safe_fetchPlaylist]
  constructor
  · rintro ⟨⟨hcharset, htext⟩, -⟩
    refine ⟨hcharset, ?_, ?_⟩
    · intro hm3u text hreads
      have hsafe := htext text (fetchPlaylist_eq_ok.mpr hreads)
      rw [if_pos hm3u] at hsafe
      exact safe_parseM3uText.mp hsafe
    · intro hpls text config hreads hconfig hsection
      have hsafe := htext text (fetchPlaylist_eq_ok.mpr hreads)
      rw [hpls, if_neg Bool.false_ne_true] at hsafe
      exact safe_parsePlsText.mp hsafe config hconfig hsection
  · intro h
    refine ⟨⟨h.charset, ?_⟩, fun playlist _ => hempty playlist⟩
    intro text hok
    have hreads := fetchPlaylist_eq_ok.mp hok
    cases hm3u : isM3u url with
    | true =>
      rw [if_pos rfl]
      exact safe_parseM3uText.mpr (h.m3u hm3u text hreads)
    | false =>
      rw [if_neg Bool.false_ne_true]
      exact safe_parsePlsText.mpr fun config => h.pls hm3u text config hreads

/-- The items that `parse_playlist` returns. -/
theorem parsePlaylist_ok (h : E.parsePlaylist url = .ok playlist) :
    playlist ≠ [] ∧ ∀ item ∈ playlist, E.isUrl item.url = some true := by
  rw [parsePlaylist_eq] at h
  obtain ⟨items, hitems, hempty⟩ := bind_eq_ok.mp h
  obtain ⟨text, -, hparsed⟩ := bind_eq_ok.mp hitems
  split at hempty
  · cases hempty
  · next hne =>
    cases hempty
    refine ⟨hne, ?_⟩
    split at hparsed
    · exact isUrl_parseM3uText hparsed
    · exact isUrl_parsePlsText hparsed

theorem answer_ne_escaped : E.answer url ≠ .escaped ↔ Safe (E.parsePlaylist url) := by
  unfold answer
  cases hparsed : E.parsePlaylist url with
  | ok playlist =>
    refine ⟨fun _ => safe_ok playlist, fun _ => ?_⟩
    cases playlist with
    | nil => exact absurd rfl (parsePlaylist_ok hparsed).1
    | cons item items => exact nofun
  | error e =>
    cases e with
    | supported message => exact ⟨fun _ => safe_supported message, fun _ => nofun⟩
    | error message => exact ⟨fun _ => safe_error message, fun _ => nofun⟩
    | other cls => exact ⟨fun h => absurd rfl h, fun h => absurd h (not_safe_other cls)⟩

end

/-- **Only a `PlaylistError` escapes from the parser exactly if** every access that it makes can be
made. -/
theorem failsOnlyWithPlaylistError_iff (url : String) :
    E.FailsOnlyWithPlaylistError url ↔ E.Readable url := by
  rw [← safe_parsePlaylist]
  constructor
  · intro h
    exact h.errors
  · intro h
    refine ⟨?_, ?_, h, answer_ne_escaped.mpr h⟩
    · intro hempty
      exact (parsePlaylist_ok hempty).1 rfl
    · intro playlist hok item hitem
      exact of_isUrl ((parsePlaylist_ok hok).2 item hitem)

/-- Python's functions, with one encoding. -/
def serving (response : Response) : PlaylistEnv where
  get _ := .response response
  decode charset content :=
    if charset = "utf-8" then .text (String.ofList (content.map fun byte => Char.ofNat byte.toNat))
    else .lookupError
  urlparse url := (Uri.parse url.toList).map fun u =>
    (String.ofList (u.scheme.getD []),
      String.ofList ((u.authority.map Uri.Authority.text).getD []))
  lower text := text.map Char.toLower

/-- A playlist whose version is no integer. -/
def betaPlaylist : Response where
  contentType := "audio/x-scpls"
  content := "[playlist]\nVersion=2b\n".toList.map fun c => c.toNat.toUInt8

/-- A `ValueError` escapes for a `Version` that is no integer. -/
theorem not_failsOnlyWithPlaylistError :
    ¬ (serving betaPlaylist).FailsOnlyWithPlaylistError "http://radio.example/live.pls" := by
  intro h
  exact h.errors "ValueError" rfl

end PlaylistEnv

end CastDelivery
