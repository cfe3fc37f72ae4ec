import Mathlib.Data.List.Nodup
import CastDelivery.Lib.ConfigWriter
import CastDelivery.Lib.Decimal
import CastDelivery.Playlist.Errors

/-!
# PLS playlists

What `parse_pls` makes of a playlist of version 2 that was written from a list of items: the items,
in their order, in whatever order the options stand in the file. The percent signs of the values
have to be doubled, as `ConfigParser` interpolates them.
-/

namespace CastDelivery

/-- The options that `parse_pls` reads. -/
inductive PlsOption
  | version
  | numberOfEntries
  | file (entry : ℕ)
  | length (entry : ℕ)
  | title (entry : ℕ)
deriving DecidableEq, Repr

namespace PlsOption

/-- The name of an option, without the number of its entry. -/
def word : PlsOption → String
  | version => "Version"
  | numberOfEntries => "NumberOfEntries"
  | file _ => "File"
  | length _ => "Length"
  | title _ => "Title"

/-- The entry of an option. -/
def number : PlsOption → Option ℕ
  | version => none
  | numberOfEntries => none
  | file entry => some entry
  | length entry => some entry
  | title entry => some entry

/-- The number of the entry, as it stands in the name. -/
def digits (o : PlsOption) : List Char := (o.number.map (Nat.toDigits 10)).getD []

/-- The name of an option, as `parse_pls` asks for it. -/
def name (o : PlsOption) : List Char := o.word.toList ++ o.digits

theorem isDigit_of_mem_digits {o : PlsOption} {c : Char} (h : c ∈ o.digits) : c.isDigit = true := by
  unfold digits at h
  cases hentry : o.number with
  | none =>
    rw [hentry] at h
    exact absurd h List.not_mem_nil
  | some entry =>
    rw [hentry] at h
    exact Nat.isDigit_of_mem_toDigits (by decide) (by decide) h

theorem toLower_of_isDigit {c : Char} (h : c.isDigit = true) : c.toLower = c := by
  obtain ⟨-, hhigh⟩ := Numeral.toNat_of_isDigit h
  unfold Char.toLower
  rw [dif_neg]
  rintro ⟨hlow, -⟩
  have hletter : 65 ≤ c.toNat := UInt32.le_iff_toNat_le.mp hlow
  omega

theorem map_toLower_name (o : PlsOption) :
    o.name.map Char.toLower = o.word.toList.map Char.toLower ++ o.digits := by
  rw [name, List.map_append]
  congr 1
  exact (List.map_congr_left fun c hc => toLower_of_isDigit (isDigit_of_mem_digits hc)).trans
    (List.map_id _)

/-- The letter that the name of an option begins with. -/
def initial : PlsOption → Char
  | version => 'V'
  | numberOfEntries => 'N'
  | file _ => 'F'
  | length _ => 'L'
  | title _ => 'T'

theorem head?_word (o : PlsOption) : o.word.toList.head? = some o.initial := by
  cases o <;> simp [word, initial]

/-- The options differ in more than the case of their names. -/
theorem name_inj {o o' : PlsOption} (h : o.name.map Char.toLower = o'.name.map Char.toLower) :
    o = o' := by
  rw [map_toLower_name, map_toLower_name] at h
  have hinitial : o.initial.toLower = o'.initial.toLower := by
    have hhead := congrArg List.head? h
    rw [List.head?_append, List.head?_append, List.head?_map, List.head?_map, head?_word,
      head?_word] at hhead
    exact Option.some.inj hhead
  have hdigits {entry entry' : ℕ} (hword : o.word = o'.word) (hentry : o.number = some entry)
      (hentry' : o'.number = some entry') : entry = entry' := by
    rw [hword, List.append_cancel_left_eq, digits, digits, hentry, hentry'] at h
    exact toDigits_inj h
  -- the initial tells the kinds apart, and the digits tell the entries apart
  cases o <;> cases o' <;>
    first
    | rfl
    | exact congrArg _ (hdigits rfl rfl rfl)
    | exact absurd hinitial (by simp [initial])

/-- Names are made of letters and digits. -/
theorem toNat_of_mem_name {o : PlsOption} {c : Char} (h : c ∈ o.name) :
    48 ≤ c.toNat ∧ c.toNat ≤ 57 ∨ 65 ≤ c.toNat ∧ c.toNat ≤ 90 ∨ 97 ≤ c.toNat ∧ c.toNat ≤ 122 := by
  have hword : o.word.toList.all (fun c =>
      65 ≤ c.toNat && c.toNat ≤ 90 || 97 ≤ c.toNat && c.toNat ≤ 122) = true := by
    cases o <;> simp only [word] <;> decide
  rcases List.mem_append.mp h with h | h
  · exact Or.inr (by simpa using List.all_eq_true.mp hword c h)
  · exact Or.inl (Numeral.toNat_of_isDigit (isDigit_of_mem_digits h))

end PlsOption

/-! ## The options of a playlist -/

/-- The length of an item, where it is a text. -/
def lengthText (item : PlaylistItem) : Option String :=
  match item.length with
  | some (.text text) => some text
  | _ => none

/-- The options of an item. -/
def itemOptions (item : PlaylistItem) (entry : ℕ) : List (PlsOption × List Char) :=
  (.file entry, item.url.toList) ::
    (((lengthText item).map fun text => (PlsOption.length entry, text.toList)).toList ++
      (item.title.map fun text => (PlsOption.title entry, text.toList)).toList)

/-- The options of a playlist of version 2. -/
def plsOptions (items : List PlaylistItem) : List (PlsOption × List Char) :=
  (.version, ['2']) :: (.numberOfEntries, Nat.toDigits 10 items.length) ::
    items.zipIdx.flatMap fun item => itemOptions item.1 (item.2 + 1)

/-- The text of a playlist. -/
def plsText (options : List (PlsOption × List Char)) : String :=
  String.ofList (ConfigParser.write PLS_SECTION_PLAYLIST (options.map fun p => (p.1.name, p.2)))

section

variable {items : List PlaylistItem} {item : PlaylistItem} {o : PlsOption} {v : List Char}
  {entry : ℕ}

theorem mem_itemOptions : (o, v) ∈ itemOptions item entry ↔
    (o = .file entry ∧ v = item.url.toList) ∨
      (∃ text, lengthText item = some text ∧ o = .length entry ∧ v = text.toList) ∨
      ∃ text, item.title = some text ∧ o = .title entry ∧ v = text.toList := by
  unfold itemOptions
  cases lengthText item <;> cases item.title <;> simp

theorem number_of_mem_itemOptions {p : PlsOption × List Char} (h : p ∈ itemOptions item entry) :
    p.1.number = some entry := by
  rcases mem_itemOptions.mp h with ⟨ho, -⟩ | ⟨-, -, ho, -⟩ | ⟨-, -, ho, -⟩ <;> rw [ho] <;> rfl

theorem mem_plsOptions : (o, v) ∈ plsOptions items ↔
    (o = .version ∧ v = ['2']) ∨
      (o = .numberOfEntries ∧ v = Nat.toDigits 10 items.length) ∨
      ∃ i item, items[i]? = some item ∧ (o, v) ∈ itemOptions item (i + 1) := by
  unfold plsOptions
  simp only [List.mem_cons, Prod.mk.injEq, List.mem_flatMap]
  refine or_congr_right (or_congr_right ⟨?_, ?_⟩)
  · rintro ⟨⟨item, i⟩, hmem, hoption⟩
    exact ⟨i, item, List.mk_mem_zipIdx_iff_getElem?.mp hmem, hoption⟩
  · rintro ⟨i, item, hitem, hoption⟩
    exact ⟨(item, i), List.mk_mem_zipIdx_iff_getElem?.mpr hitem, hoption⟩

/-- The options of an entry are the ones of its item. -/
theorem mem_plsOptions_of_entry {i : ℕ} (hitem : items[i]? = some item)
    (ho : o.number = some (i + 1)) :
    (o, v) ∈ plsOptions items ↔ (o, v) ∈ itemOptions item (i + 1) := by
  rw [mem_plsOptions]
  constructor
  · rintro (⟨rfl, -⟩ | ⟨rfl, -⟩ | ⟨i', item', hitem', hmem⟩)
    · cases ho
    · cases ho
    · have hentry : i' + 1 = i + 1 :=
        Option.some.inj ((number_of_mem_itemOptions hmem).symm.trans ho)
      obtain rfl : i' = i := Nat.succ.inj hentry
      rw [hitem] at hitem'
      exact Option.some.inj hitem' ▸ hmem
  · intro hmem
    exact Or.inr (Or.inr ⟨i, item, hitem, hmem⟩)

/-- No option stands in a playlist twice. -/
theorem nodup_plsOptions (items : List PlaylistItem) :
    ((plsOptions items).map Prod.fst).Nodup := by
  have hitem (item : PlaylistItem) (entry : ℕ) :
      ((itemOptions item entry).map Prod.fst).Nodup := by
    unfold itemOptions
    cases lengthText item <;> cases item.title <;> simp
  have hentry {p : PlaylistItem × ℕ} {o : PlsOption}
      (ho : o ∈ (itemOptions p.1 (p.2 + 1)).map Prod.fst) : o.number = some (p.2 + 1) := by
    obtain ⟨option, hoption, rfl⟩ := List.mem_map.mp ho
    exact number_of_mem_itemOptions hoption
  have hdisjoint : items.zipIdx.Pairwise (Function.onFun List.Disjoint fun p =>
      (itemOptions p.1 (p.2 + 1)).map Prod.fst) := by
    have hnumbers : (items.zipIdx.map Prod.snd).Pairwise (· < ·) := by
      rw [List.zipIdx_map_snd]
      exact List.pairwise_lt_range'
    refine (List.pairwise_map.mp hnumbers).imp fun {p q} hlt o hp hq => ?_
    have heq : p.2 + 1 = q.2 + 1 := Option.some.inj ((hentry hp).symm.trans (hentry hq))
    omega
  unfold plsOptions
  rw [List.map_cons, List.map_cons, List.map_flatMap, List.nodup_cons, List.nodup_cons,
    List.nodup_flatMap]
  refine ⟨?_, ?_, fun p _ => hitem p.1 (p.2 + 1), hdisjoint⟩
  · rw [List.mem_cons, List.mem_flatMap]
    rintro (h | ⟨p, -, h⟩)
    · cases h
    · cases hentry h
  · rw [List.mem_flatMap]
    rintro ⟨p, -, h⟩
    cases hentry h

end

namespace PlaylistEnv

open ConfigParser

variable (E : PlaylistEnv)

/-- `text.lower()` on ASCII text. -/
def LowersAscii : Prop :=
  ∀ text : List Char, (∀ c ∈ text, c.toNat < 128) → E.lower text = text.map Char.toLower

/-- An item that can be written to a PLS playlist. -/
structure IsPlsItem (item : PlaylistItem) : Prop where
  isUrl : E.isUrl item.url = some true
  length : ∀ parts, item.length ≠ some (.parts parts)
  urlValue : IsValue E.rules item.url.toList
  lengthValue : ∀ text, item.length = some (.text text) → IsValue E.rules text.toList
  titleValue : ∀ text, item.title = some text → IsValue E.rules text.toList

variable {E}

theorem punctuated_rules : E.rules.Punctuated where
  opening := show isSpace '[' = false by decide
  closing := show isSpace ']' = false by decide
  equals := show isSpace '=' = false by decide

theorem isSection_playlist : IsSection PLS_SECTION_PLAYLIST := ⟨by decide, by decide, by decide⟩

theorem isName_name (o : PlsOption) : IsName E.rules o.name where
  nonempty h := by
    have hhead := o.head?_word
    rw [(List.append_eq_nil_iff.mp h).1] at hhead
    cases hhead
  line h := absurd (PlsOption.toNat_of_mem_name h) (by decide)
  stripped := stripped_of_forall fun c hc => by
    have hc' := PlsOption.toNat_of_mem_name hc
    simp only [rules, isSpace, Numeral.isSpace]
    simp
    omega
  delimiter c hc := by
    unfold isDelimiter
    rw [Bool.or_eq_false_iff, decide_eq_false_iff_not, decide_eq_false_iff_not]
    constructor <;> rintro rfl <;> exact absurd (PlsOption.toNat_of_mem_name hc) (by decide)
  start c hc := by
    have hc' := PlsOption.toNat_of_mem_name (List.mem_of_mem_head? hc)
    refine ⟨?_, ?_, ?_⟩ <;> rintro rfl <;> exact absurd hc' (by decide)

theorem isValue_of_isDigit {s : List Char} (h : ∀ c ∈ s, c.isDigit = true) :
    IsValue E.rules s where
  line hmem := by cases h _ hmem
  stripped := stripped_of_forall fun c hc => isSpace_of_isDigit (h c hc)

theorem isValue_of_mem {items : List PlaylistItem} (hitems : ∀ item ∈ items, E.IsPlsItem item)
    {o : PlsOption} {v : List Char} (h : (o, v) ∈ plsOptions items) : IsValue E.rules v := by
  rcases mem_plsOptions.mp h with ⟨-, rfl⟩ | ⟨-, rfl⟩ | ⟨i, item, hitem, hmem⟩
  · exact isValue_of_isDigit fun c hc => List.mem_singleton.mp hc ▸ rfl
  · exact isValue_of_isDigit fun c hc => Nat.isDigit_of_mem_toDigits (by decide) (by decide) hc
  · have hvalid := hitems item (List.mem_of_getElem? hitem)
    rcases mem_itemOptions.mp hmem with ⟨-, rfl⟩ | ⟨text, htext, -, rfl⟩ | ⟨text, htext, -, rfl⟩
    · exact hvalid.urlValue
    · refine hvalid.lengthValue text ?_
      unfold lengthText at htext
      split at htext
      · next heq => rw [heq, Option.some.inj htext]
      · cases htext
    · exact hvalid.titleValue text htext

theorem lower_name (hlower : E.LowersAscii) (o : PlsOption) :
    E.lower o.name = o.name.map Char.toLower := by
  refine hlower _ fun c hc => ?_
  have hc' := PlsOption.toNat_of_mem_name hc
  omega

theorem writable_plsOptions (hlower : E.LowersAscii) {items : List PlaylistItem}
    (hitems : ∀ item ∈ items, E.IsPlsItem item) :
    Writable E.rules ((plsOptions items).map fun p => (p.1.name, p.2)) where
  names option hoption := by
    obtain ⟨p, -, rfl⟩ := List.mem_map.mp hoption
    exact isName_name p.1
  values option hoption := by
    obtain ⟨p, hp, rfl⟩ := List.mem_map.mp hoption
    exact isValue_of_mem hitems hp
  nodup := by
    have hinj : Function.Injective fun o : PlsOption => E.lower o.name := by
      intro o o' h
      refine PlsOption.name_inj ?_
      rw [← lower_name hlower, ← lower_name hlower]
      exact h
    have hnodup := (nodup_plsOptions items).map hinj
    rw [List.map_map] at hnodup ⊢
    exact hnodup

/-! ## Reading the options -/

variable {config : Config} {items : List PlaylistItem} {url : String}

/-- The options of the playlist section are the ones of these items. -/
structure ReadsItems (E : PlaylistEnv) (config : Config) (items : List PlaylistItem) : Prop where
  value : ∀ o v, (o, v) ∈ plsOptions items → E.option config o.name = .value v
  missing : ∀ o : PlsOption, (∀ v, (o, v) ∉ plsOptions items) → E.option config o.name = .missing

/-- The text of the options is read as these options, in whatever order they stand. -/
theorem exists_readsItems (hlower : E.LowersAscii) (hitems : ∀ item ∈ items, E.IsPlsItem item)
    {options : List (PlsOption × List Char)} (hperm : options.Perm (plsOptions items)) :
    ∃ config, ConfigParser.read E.rules (plsText options).toList = .ok config ∧
      config.hasSection PLS_SECTION_PLAYLIST = true ∧ E.ReadsItems config items := by
  have hw : Writable E.rules (options.map fun p => (p.1.name, p.2)) :=
    (writable_plsOptions hlower hitems).perm (hperm.map _)
  obtain ⟨config, hread, hsection, hvalue, hmissing⟩ :=
    hw.exists_read punctuated_rules isSection_playlist
  refine ⟨config, ?_, hsection, fun o v hmem => ?_, fun o hnone => ?_⟩
  · rwa [plsText, String.toList_ofList]
  · exact hvalue _ (List.mem_map_of_mem (hperm.mem_iff.mpr hmem)) _ rfl
  · refine hmissing _ fun option hoption heq => ?_
    obtain ⟨⟨o', v⟩, hmem, rfl⟩ := List.mem_map.mp hoption
    have hsame : o' = o := by
      refine PlsOption.name_inj ?_
      rw [← lower_name hlower, ← lower_name hlower]
      exact heq
    exact hnone v (hsame ▸ hperm.mem_iff.mp hmem)

theorem sectionGet_value {name v : List Char} (h : E.option config name = .value v) :
    E.sectionGet config name = .ok (some (String.ofList v)) := by
  unfold option at h
  rw [sectionGet, h]

theorem sectionGet_missing {name : List Char} (h : E.option config name = .missing) :
    E.sectionGet config name = .ok none := by
  unfold option at h
  rw [sectionGet, h]

namespace ReadsItems

variable (h : E.ReadsItems config items)

include h

theorem sectionGet_length {i : ℕ} {item : PlaylistItem} (hitem : items[i]? = some item) :
    E.sectionGet config (entryOption "Length" (i + 1)) = .ok (lengthText item) := by
  cases htext : lengthText item with
  | none =>
    refine sectionGet_missing (h.missing (.length (i + 1)) fun v hmem => ?_)
    rcases mem_itemOptions.mp ((mem_plsOptions_of_entry hitem rfl).mp hmem)
      with ⟨ho, -⟩ | ⟨text, hsome, -⟩ | ⟨-, -, ho, -⟩
    · cases ho
    · rw [htext] at hsome
      cases hsome
    · cases ho
  | some text =>
    have hmem : (.length (i + 1), text.toList) ∈ plsOptions items :=
      (mem_plsOptions_of_entry hitem rfl).mpr
        (mem_itemOptions.mpr (Or.inr (Or.inl ⟨text, htext, rfl, rfl⟩)))
    rw [← String.ofList_toList (s := text)]
    exact sectionGet_value (h.value (.length (i + 1)) _ hmem)

theorem sectionGet_title {i : ℕ} {item : PlaylistItem} (hitem : items[i]? = some item) :
    E.sectionGet config (entryOption "Title" (i + 1)) = .ok item.title := by
  cases htext : item.title with
  | none =>
    refine sectionGet_missing (h.missing (.title (i + 1)) fun v hmem => ?_)
    rcases mem_itemOptions.mp ((mem_plsOptions_of_entry hitem rfl).mp hmem)
      with ⟨ho, -⟩ | ⟨-, -, ho, -⟩ | ⟨text, hsome, -⟩
    · cases ho
    · cases ho
    · rw [htext] at hsome
      cases hsome
  | some text =>
    have hmem : (.title (i + 1), text.toList) ∈ plsOptions items :=
      (mem_plsOptions_of_entry hitem rfl).mpr
        (mem_itemOptions.mpr (Or.inr (Or.inr ⟨text, htext, rfl, rfl⟩)))
    rw [← String.ofList_toList (s := text)]
    exact sectionGet_value (h.value (.title (i + 1)) _ hmem)

/-- A turn of the loop adds the item of its entry. -/
theorem plsStep {i : ℕ} {item : PlaylistItem} (hitem : items[i]? = some item)
    (hvalid : E.IsPlsItem item) (playlist : List PlaylistItem) :
    E.plsStep url config playlist (i + 1) = .ok (playlist ++ [item]) := by
  have hmem : (.file (i + 1), item.url.toList) ∈ plsOptions items :=
    (mem_plsOptions_of_entry hitem rfl).mpr (mem_itemOptions.mpr (Or.inl ⟨rfl, rfl⟩))
  have hurl : E.isUrl (String.ofList item.url.toList) = some true := by
    rw [String.ofList_toList]
    exact hvalid.isUrl
  have hlength : (lengthText item).map ItemLength.text = item.length := by
    unfold lengthText
    cases hcases : item.length with
    | none => rfl
    | some length =>
      cases length with
      | text text => rfl
      | parts parts => exact absurd hcases (hvalid.length parts)
  rw [plsStep_valid (h.value (.file (i + 1)) _ hmem) hurl, h.sectionGet_length hitem,
    h.sectionGet_title hitem, Except.bind, Except.map, hlength, String.ofList_toList]

/-- The loop reads as many items as there are entries before it. -/
theorem foldlM_plsStep (hitems : ∀ item ∈ items, E.IsPlsItem item) {k : ℕ}
    (hk : k ≤ items.length) :
    (entryRange k).foldlM (E.plsStep url config) [] = .ok (items.take k) := by
  induction k with
  | zero => rfl
  | succ k ih =>
    have hitem : items[k]? = some items[k] := List.getElem?_eq_getElem hk
    have hrange : entryRange (k + 1 : ℕ) = entryRange k ++ [k + 1] := by
      unfold entryRange
      rw [Int.toNat_natCast, Int.toNat_natCast, List.range_succ, List.map_append]
      rfl
    rw [hrange, List.foldlM_append, ih (Nat.le_of_succ_le hk)]
    show (Except.ok (items.take k) : Except PlaylistExc _).bind _ = _
    rw [Except.bind, List.foldlM_cons, h.plsStep hitem (hitems _ (List.getElem_mem hk)),
      List.take_add_one, hitem]
    rfl

theorem parsePlsConfig (hsection : config.hasSection PLS_SECTION_PLAYLIST = true)
    (hitems : ∀ item ∈ items, E.IsPlsItem item)
    (hcount : (Nat.toDigits 10 items.length).length ≤ Numeral.maxDigits) :
    E.parsePlsConfig url config = .ok items := by
  have hversion : E.version config = .ok (some 2) :=
    version_eq_two.mpr ⟨_, h.value .version ['2'] List.mem_cons_self, by decide⟩
  have hentries : E.numEntries url config = .ok items.length :=
    numEntries_eq_ok.mpr ⟨_, h.value .numberOfEntries _
      (List.mem_cons_of_mem _ List.mem_cons_self), Numeral.int_toDigits hcount⟩
  rw [PlaylistEnv.parsePlsConfig, if_pos hsection, hversion, Except.bind, if_pos rfl, hentries,
    Except.bind, h.foldlM_plsStep hitems le_rfl, List.take_length]

end ReadsItems

/-- **A playlist is read back**: the text of a PLS playlist is parsed to the items that it was
written from, whatever the order of its lines. -/
theorem parsePlaylist_plsText (hlower : E.LowersAscii) (hurl : isM3u url = false)
    (hne : items ≠ []) (hitems : ∀ item ∈ items, E.IsPlsItem item)
    (hcount : (Nat.toDigits 10 items.length).length ≤ Numeral.maxDigits)
    {options : List (PlsOption × List Char)} (hperm : options.Perm (plsOptions items))
    (hreads : E.Reads url (.text (plsText options))) : E.parsePlaylist url = .ok items := by
  obtain ⟨config, hconfig, hsection, hread⟩ := exists_readsItems hlower hitems hperm
  have htext : E.parsePlsText url (plsText options) = .ok items := by
    rw [parsePlsText, hconfig]
    exact hread.parsePlsConfig hsection hitems hcount
  rw [parsePlaylist_eq, fetchPlaylist_eq_ok.mpr hreads, Except.bind, hurl,
    if_neg Bool.false_ne_true, htext, Except.bind, if_neg hne]

/-- A station with a percent sign in its URL, and one without a title. -/
def stations : List PlaylistItem :=
  [⟨some (.text "-1"), some "Jazz 100%", "http://radio.example/a%20b"⟩,
    ⟨none, none, "http://radio.example/talk"⟩]

/-- The options of the stations, from the last one to the first one. -/
def reversed : List (PlsOption × List Char) := (plsOptions stations).reverse

/-- The stations as they are served. -/
def stationsPlaylist : Response where
  contentType := "audio/x-scpls"
  content := (plsText reversed).toList.map fun c => c.toNat.toUInt8

theorem parsePlaylist_plsText_stations :
    (serving stationsPlaylist).parsePlaylist "http://radio.example/live.pls" = .ok stations := by
  have hvalue {s : String} (h : '\n' ∉ s.toList ∧
      s.toList.head?.all (fun c => !isSpace c) = true ∧
      s.toList.getLast?.all (fun c => !isSpace c) = true) :
      IsValue (serving stationsPlaylist).rules s.toList :=
    ⟨h.1, fun c hc => show isSpace c = false by simpa [Option.mem_def.mp hc] using h.2.1,
      fun c hc => show isSpace c = false by simpa [Option.mem_def.mp hc] using h.2.2⟩
  refine parsePlaylist_plsText (fun text _ => rfl) (by decide) (by decide) ?_ (by decide)
    (List.reverse_perm (plsOptions stations)) ⟨stationsPlaylist, rfl, by decide, ?_⟩
  · intro item hitem
    rcases List.mem_cons.mp hitem with rfl | hitem
    · refine ⟨by decide, nofun, hvalue (by decide), ?_, ?_⟩
      · rintro text ⟨⟩
        exact hvalue (by decide)
      · rintro text ⟨⟩
        exact hvalue (by decide)
    · obtain rfl := List.mem_singleton.mp hitem
      exact ⟨by decide, nofun, hvalue (by decide), nofun, nofun⟩
  · have hshort : stationsPlaylist.content.length ≤ 64 * 1024 := by
      rw [stationsPlaylist, List.length_map, plsText, String.toList_ofList]
      decide +kernel
    have hascii : (plsText reversed).toList.all
        (fun c => Char.ofNat c.toNat.toUInt8.toNat == c) = true := by
      rw [plsText, String.toList_ofList]
      decide +kernel
    have hcontent : (stationsPlaylist.content.map fun byte => Char.ofNat byte.toNat)
        = (plsText reversed).toList := by
      rw [stationsPlaylist, List.map_map]
      refine (List.map_congr_left fun c hc => ?_).trans (List.map_id _)
      exact beq_iff_eq.mp (List.all_eq_true.mp hascii c hc)
    rw [List.take_of_length_le hshort]
    simp only [serving, strOr, hcontent, String.ofList_toList]
    rfl

end PlaylistEnv

end CastDelivery
