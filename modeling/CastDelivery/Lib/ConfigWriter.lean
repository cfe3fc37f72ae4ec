import Mathlib.Data.List.Induction
import CastDelivery.Lib.ConfigParser

/-!
# Writing configuration files

`write` is the text of a file with one section, as `ConfigParser.write` writes it but without the
spaces around the delimiter: an option on each line, and the percent signs of its value doubled for
`BasicInterpolation`. `Written.exists_read` is the round trip: the text is read, and every option
is read back from what was read, in whatever order the options were written.
-/

namespace CastDelivery
namespace ConfigParser

/-! ## The text -/

/-- A value with its percent signs doubled. -/
def escape (value : List Char) : List Char :=
  value.flatMap fun c => if c = '%' then ['%', '%'] else [c]

/-- The line of an option. -/
def optionText (option : List Char × List Char) : List Char := option.1 ++ '=' :: escape option.2

/-- The line of a section. -/
def headerText (sectname : List Char) : List Char := '[' :: (sectname ++ [']'])

/-- The text of a file with one section. -/
def write (sectname : List Char) (options : List (List Char × List Char)) : List Char :=
  (headerText sectname :: options.map optionText).flatMap (· ++ ['\n'])

/-- A text is read back as the lines it was put together from. -/
theorem lines_append {line : List Char} (h : '\n' ∉ line) (acc rest : List Char) :
    lines acc (line ++ '\n' :: rest) = (acc.reverse ++ line) :: lines [] rest := by
  induction line generalizing acc with
  | nil => simp [lines]
  | cons c line ih =>
    obtain ⟨hc, hline⟩ := not_or.mp (mt List.mem_cons.mpr h)
    rw [List.cons_append, lines, if_neg (Ne.symm hc), ih hline, List.reverse_cons,
      List.append_assoc, List.singleton_append]

theorem lines_flatMap {texts : List (List Char)} (h : ∀ text ∈ texts, '\n' ∉ text) :
    lines [] (texts.flatMap (· ++ ['\n'])) = texts := by
  induction texts with
  | nil => rfl
  | cons text texts ih =>
    rw [List.flatMap_cons, List.append_assoc, List.singleton_append,
      lines_append (h text List.mem_cons_self), ih fun t ht => h t (List.mem_cons_of_mem _ ht),
      List.reverse_nil, List.nil_append]

theorem mem_escape {value : List Char} {c : Char} : c ∈ escape value ↔ c ∈ value := by
  unfold escape
  rw [List.mem_flatMap]
  constructor
  · rintro ⟨d, hd, hc⟩
    split at hc
    · next hpercent =>
      subst hpercent
      have heq : c = '%' := by simpa using hc
      exact heq ▸ hd
    · have heq : c = d := by simpa using hc
      exact heq ▸ hd
  · intro hc
    refine ⟨c, hc, ?_⟩
    split
    · next hpercent => simp [hpercent]
    · exact List.mem_singleton_self c

theorem head?_escape (value : List Char) : (escape value).head? = value.head? := by
  cases value with
  | nil => rfl
  | cons c value =>
    rw [escape, List.flatMap_cons]
    split
    · next h => rw [h]; rfl
    · rfl

theorem getLast?_escape (value : List Char) : (escape value).getLast? = value.getLast? := by
  induction value using List.reverseRecOn with
  | nil => rfl
  | append_singleton value c =>
    rw [escape, List.flatMap_append, List.flatMap_singleton, List.getLast?_append,
      List.getLast?_append]
    split
    · next h => rw [h]; rfl
    · rfl

/-! ## Interpolation -/

variable (R : Rules)

/-- The percent signs are read back one by one. -/
theorem tokens_escape (value : List Char) :
    tokens .text (escape value) = some (value.map Token.char) := by
  induction value with
  | nil => rfl
  | cons c value ih =>
    have hcons : escape (c :: value) = (if c = '%' then ['%', '%'] else [c]) ++ escape value :=
      List.flatMap_cons
    rw [hcons]
    by_cases hc : c = '%'
    · rw [if_pos hc, List.cons_append, List.singleton_append, tokens, if_pos rfl, tokens,
        if_pos rfl, ih, hc]
      rfl
    · rw [if_neg hc, List.singleton_append, tokens, if_neg hc, ih]
      rfl

theorem mapM_expand_char (values inner : List Char → Option (List Char)) (value : List Char) :
    (value.map Token.char).mapM (expand R values inner) = some (value.map fun c => [c]) := by
  induction value with
  | nil => rfl
  | cons c value ih =>
    rw [List.map_cons, List.mapM_cons, ih]
    rfl

theorem interpolate_escape (values : List Char → Option (List Char)) (depth : ℕ)
    (value : List Char) : interpolate R values (depth + 1) (escape value) = some value := by
  rw [interpolate, tokens_escape, Option.bind_some, mapM_expand_char, Option.map_some]
  congr 1
  induction value with
  | nil => rfl
  | cons c value ih => rw [List.map_cons, List.flatten_cons, ih, List.singleton_append]

/-! ## Words that stripping leaves alone -/

/-- There is no space at either end. -/
structure Stripped (s : List Char) : Prop where
  head : ∀ c ∈ s.head?, R.isSpace c = false
  last : ∀ c ∈ s.getLast?, R.isSpace c = false

variable {R}

theorem dropWhile_of_head {p : Char → Bool} {s : List Char} (h : ∀ c ∈ s.head?, p c = false) :
    s.dropWhile p = s := by
  cases s with
  | nil => rfl
  | cons c s => exact List.dropWhile_cons_of_neg (by simp [h c rfl])

theorem Stripped.rstrip {s : List Char} (h : Stripped R s) : rstrip R s = s := by
  unfold ConfigParser.rstrip
  rw [dropWhile_of_head (by simpa [List.head?_reverse] using h.last), List.reverse_reverse]

theorem Stripped.strip {s : List Char} (h : Stripped R s) : strip R s = s := by
  unfold ConfigParser.strip
  rw [dropWhile_of_head h.head, h.rstrip]

theorem Stripped.escape {s : List Char} (h : Stripped R s) : Stripped R (escape s) :=
  ⟨by rw [head?_escape]; exact h.head, by rw [getLast?_escape]; exact h.last⟩

theorem stripped_of_forall {s : List Char} (h : ∀ c ∈ s, R.isSpace c = false) : Stripped R s :=
  ⟨fun c hc => h c (List.mem_of_mem_head? hc), fun c hc => h c (List.mem_of_mem_getLast? hc)⟩

/-- A word between two characters that are no spaces. -/
theorem stripped_of_ends {s : List Char} {c d : Char} (hhead : s.head? = some c)
    (hlast : s.getLast? = some d) (hc : R.isSpace c = false) (hd : R.isSpace d = false) :
    Stripped R s := by
  refine ⟨fun x hx => ?_, fun x hx => ?_⟩
  · rw [hhead, Option.mem_some_iff] at hx
    exact hx ▸ hc
  · rw [hlast, Option.mem_some_iff] at hx
    exact hx ▸ hd

/-! ## Reading what was written -/

/-- A word that can be written as the name of an option. -/
structure IsName (R : Rules) (name : List Char) : Prop where
  nonempty : name ≠ []
  line : '\n' ∉ name
  stripped : Stripped R name
  delimiter : ∀ c ∈ name, isDelimiter c = false
  /-- The line is neither a comment nor the header of a section. -/
  start : ∀ c ∈ name.head?, c ≠ '#' ∧ c ≠ ';' ∧ c ≠ '['

/-- A word that can be written as a value. -/
structure IsValue (R : Rules) (value : List Char) : Prop where
  line : '\n' ∉ value
  stripped : Stripped R value

/-- A word that can be written as the name of a section. -/
structure IsSection (sectname : List Char) : Prop where
  nonempty : sectname ≠ []
  line : '\n' ∉ sectname
  ne_default : sectname ≠ DEFAULTSECT

/-- The options can be written, each under a name of its own. -/
structure Writable (R : Rules) (options : List (List Char × List Char)) : Prop where
  names : ∀ option ∈ options, IsName R option.1
  values : ∀ option ∈ options, IsValue R option.2
  nodup : (options.map fun option => R.optionxform option.1).Nodup

/-- What is written does not depend on the order of the options. -/
theorem Writable.perm {options options' : List (List Char × List Char)} (h : Writable R options)
    (hperm : options'.Perm options) : Writable R options' where
  names option hoption := h.names option (hperm.mem_iff.mp hoption)
  values option hoption := h.values option (hperm.mem_iff.mp hoption)
  nodup := (hperm.map _).nodup_iff.mpr h.nodup

/-- The punctuation of a file is no space. -/
structure Rules.Punctuated (R : Rules) : Prop where
  opening : R.isSpace '[' = false
  closing : R.isSpace ']' = false
  equals : R.isSpace '=' = false

/-- What has been read behind the header and the lines of some options. -/
structure HasRead (R : Rules) (sectname : List Char) (options : List (List Char × List Char))
    (reading : Reading) : Prop where
  current : reading.sectname = some sectname
  values : ∃ read, reading.sections.get? sectname = some read ∧
    ∀ name value, read.get? name = some value ↔
      ∃ option ∈ options, R.optionxform option.1 = name ∧ value = [escape option.2]
  defaults : reading.defaults = ∅
  indentLevel : reading.indentLevel = 0
  added : ∀ place ∈ reading.added, ∃ option ∈ options, place = (sectname, R.optionxform option.1)
  bogus : reading.bogus = false

/-- The header of a section is not indented, and nothing but a header. -/
theorem readLine_header (hR : R.Punctuated) {sectname : List Char} (h : IsSection sectname) :
    readLine R {} (headerText sectname) = Reading.openSection {} sectname := by
  have hstripped : Stripped R (headerText sectname) :=
    stripped_of_ends rfl (List.getLast?_concat (l := '[' :: sectname)) hR.opening hR.closing
  have hindent : (headerText sectname).takeWhile R.isSpace = [] :=
    List.takeWhile_cons_of_neg (by simp [hR.opening])
  have hheader : header (headerText sectname) = some sectname := by
    have hcut : Uri.cutLast ']' (sectname ++ [']']) = (some sectname, []) := by
      have happend := Uri.cutLast_append (List.not_mem_nil (a := ']')) (some sectname)
      rwa [List.append_nil] at happend
    rw [headerText, header, hcut]
    exact if_neg h.nonempty
  unfold readLine
  rw [hstripped.strip, if_neg (by simp [headerText]), if_neg (by simp [headerText]), hindent]
  simp only [Reading.current, List.length_nil, hheader]

theorem exists_readLine_header (hR : R.Punctuated) {sectname : List Char}
    (h : IsSection sectname) :
    ∃ reading, readLine R {} (headerText sectname) = .ok reading ∧
      HasRead R sectname [] reading := by
  rw [readLine_header hR h]
  refine ⟨_, rfl, ?_⟩
  rw [Reading.modify, if_neg h.ne_default]
  exact
    { current := rfl
      values := ⟨∅, by simp, by simp⟩
      defaults := rfl
      indentLevel := rfl
      added := nofun
      bogus := rfl }

/-- The line of an option is no continuation, no comment and no header. -/
theorem readLine_option (hR : R.Punctuated) {option : List Char × List Char}
    (hname : IsName R option.1) (hvalue : IsValue R option.2) {sectname : List Char}
    {reading : Reading} (hcurrent : reading.sectname = some sectname)
    (hindentLevel : reading.indentLevel = 0) :
    readLine R reading (optionText option)
      = reading.setOption R sectname option.1 (escape option.2) := by
  obtain ⟨name, value⟩ := option
  obtain ⟨sections, defaults, _, optname, _, added, bogus⟩ := reading
  subst hcurrent hindentLevel
  obtain ⟨c, rest, rfl⟩ : ∃ c rest, name = c :: rest := List.exists_cons_of_ne_nil hname.nonempty
  have hc : R.isSpace c = false := hname.stripped.head c rfl
  obtain ⟨hhash, hsemicolon, hbracket⟩ := hname.start c rfl
  have hstripped : Stripped R (optionText (c :: rest, value)) := by
    refine ⟨hname.stripped.head, fun d hd => ?_⟩
    cases hlast : (escape value).getLast? with
    | none =>
      rw [List.getLast?_eq_none_iff] at hlast
      simp only [optionText, hlast, List.getLast?_concat, Option.mem_some_iff] at hd
      exact hd ▸ hR.equals
    | some e =>
      have hlast' : (optionText (c :: rest, value)).getLast? = some e := by
        rw [optionText, List.getLast?_append, List.getLast?_cons, hlast]
        rfl
      rw [hlast', Option.mem_some_iff] at hd
      exact hvalue.stripped.escape.last d (hd ▸ hlast)
  have hindent : (optionText (c :: rest, value)).takeWhile R.isSpace = [] :=
    List.takeWhile_cons_of_neg (by simp [hc])
  have hheader : header (optionText (c :: rest, value)) = none := by
    unfold header
    split
    · next s heq => exact absurd (List.cons.inj heq).1 hbracket
    · rfl
  have hoption : optionLine R (optionText (c :: rest, value)) = some (c :: rest, escape value) := by
    have hall : ∀ d ∈ c :: rest, (!isDelimiter d) = true := fun d hd => by
      rw [hname.delimiter d hd]
      rfl
    unfold optionLine optionText
    rw [List.dropWhile_append_of_pos hall, List.takeWhile_append_of_pos hall,
      List.dropWhile_cons_of_neg (p := fun d => !isDelimiter d) (by decide),
      List.takeWhile_cons_of_neg (p := fun d => !isDelimiter d) (by decide), List.append_nil]
    simp only [hname.stripped.rstrip]
  unfold readLine
  rw [hstripped.strip, if_neg (by simp [optionText, hhash, hsemicolon]),
    if_neg (by simp [optionText]), hindent]
  simp only [List.length_nil, Nat.lt_irrefl, decide_false, hheader, hoption]
  cases Reading.current _ <;> rfl

theorem HasRead.option (hR : R.Punctuated) {sectname : List Char} (hsect : IsSection sectname)
    {options : List (List Char × List Char)} {reading : Reading}
    (h : HasRead R sectname options reading) {option : List Char × List Char}
    (hname : IsName R option.1) (hvalue : IsValue R option.2)
    (hnew : ∀ earlier ∈ options, R.optionxform earlier.1 ≠ R.optionxform option.1) :
    ∃ reading', readLine R reading (optionText option) = .ok reading' ∧
      HasRead R sectname (options ++ [option]) reading' := by
  obtain ⟨read, hread, hvalues⟩ := h.values
  have hfresh : (sectname, R.optionxform option.1) ∉ reading.added := by
    intro hmem
    obtain ⟨earlier, hearlier, heq⟩ := h.added _ hmem
    exact hnew earlier hearlier (congrArg Prod.snd heq).symm
  rw [readLine_option hR hname hvalue h.current h.indentLevel, Reading.setOption,
    hname.stripped.rstrip, hvalue.stripped.escape.strip, if_neg hfresh]
  refine ⟨_, rfl, ?_⟩
  rw [Reading.modify, if_neg hsect.ne_default, hread]
  exact
    { current := h.current
      values := by
        refine ⟨read.set (R.optionxform option.1) [escape option.2], Dict.get?_set_self _ _ _, ?_⟩
        intro name value
        rw [Dict.get?_set]
        by_cases hsame : name = R.optionxform option.1
        · -- none of the options before has this name
          subst hsame
          rw [if_pos rfl]
          constructor
          · intro heq
            exact ⟨option, List.mem_concat_self, rfl, (Option.some.inj heq).symm⟩
          · rintro ⟨other, hother, hxform, rfl⟩
            rcases List.mem_append.mp hother with hother | hother
            · exact absurd hxform (hnew other hother)
            · rw [List.mem_singleton.mp hother]
        · rw [if_neg hsame, hvalues]
          constructor
          · rintro ⟨other, hother, hboth⟩
            exact ⟨other, List.mem_append_left _ hother, hboth⟩
          · rintro ⟨other, hother, hxform, hother'⟩
            rcases List.mem_append.mp hother with hother | hother
            · exact ⟨other, hother, hxform, hother'⟩
            · rw [List.mem_singleton.mp hother] at hxform
              exact absurd hxform.symm hsame
      defaults := h.defaults
      indentLevel := h.indentLevel
      added := by
        intro place hplace
        rcases List.mem_cons.mp hplace with rfl | hplace
        · exact ⟨option, List.mem_concat_self, rfl⟩
        · obtain ⟨earlier, hearlier, heq⟩ := h.added place hplace
          exact ⟨earlier, List.mem_append_left _ hearlier, heq⟩
      bogus := by simp [h.bogus, hname.nonempty] }

/-- The lines of all the options are read, one after another. -/
theorem HasRead.options (hR : R.Punctuated) {sectname : List Char} (hsect : IsSection sectname)
    {front rest : List (List Char × List Char)} {reading : Reading}
    (h : HasRead R sectname front reading) (hw : Writable R (front ++ rest)) :
    ∃ reading', (rest.map optionText).foldlM (readLine R) reading = .ok reading' ∧
      HasRead R sectname (front ++ rest) reading' := by
  induction rest generalizing front reading with
  | nil => exact ⟨reading, rfl, by rwa [List.append_nil]⟩
  | cons option rest ih =>
    have hmem : option ∈ front ++ option :: rest := by simp
    have hnew : ∀ earlier ∈ front, R.optionxform earlier.1 ≠ R.optionxform option.1 := by
      intro earlier hearlier
      have hnodup := hw.nodup
      rw [List.map_append, List.nodup_append] at hnodup
      exact hnodup.2.2 _ (List.mem_map_of_mem hearlier) _ (List.mem_map_of_mem List.mem_cons_self)
    obtain ⟨next, hnext, hread⟩ :=
      h.option hR hsect (hw.names option hmem) (hw.values option hmem) hnew
    rw [List.append_cons] at hw ⊢
    obtain ⟨reading', hrest, hread'⟩ := ih hread hw
    refine ⟨reading', ?_, hread'⟩
    rw [List.map_cons, List.foldlM_cons, hnext]
    exact hrest

theorem newline_notMem_optionText {option : List Char × List Char} (hname : IsName R option.1)
    (hvalue : IsValue R option.2) : '\n' ∉ optionText option := by
  unfold optionText
  rw [List.mem_append, List.mem_cons, mem_escape]
  rintro (h | h | h)
  · exact hname.line h
  · exact absurd h (by decide)
  · exact hvalue.line h

theorem newline_notMem_headerText {sectname : List Char} (h : IsSection sectname) :
    '\n' ∉ headerText sectname := by
  unfold headerText
  rw [List.mem_cons, List.mem_append, List.mem_singleton]
  rintro (hopening | hname | hclosing)
  · exact absurd hopening (by decide)
  · exact h.line hname
  · exact absurd hclosing (by decide)

/-- The values of a section, put together from their lines. -/
def joined (R : Rules) (options : Dict (List Char) (List (List Char))) :
    Dict (List Char) (List Char) :=
  ⟨options.entries.map fun o => (o.1, joinLines R o.2), by
    rw [List.map_map]
    exact options.nodup⟩

theorem exists_read_of_lines {text : List Char} {reading : Reading}
    (h : (lines [] text).foldlM (readLine R) ({} : Reading) = .ok reading)
    (hbogus : reading.bogus = false) :
    ∃ config, read R text = .ok config ∧
      (∀ sectname, config.sections.get? sectname
        = (reading.sections.get? sectname).map (joined R)) ∧
      config.defaults = joined R reading.defaults := by
  refine ⟨⟨⟨reading.sections.entries.map fun e => (e.1, joined R e.2), ?_⟩,
    joined R reading.defaults⟩, ?_, fun sectname => ?_, rfl⟩
  · rw [List.map_map]
    exact reading.sections.nodup
  · unfold read
    rw [h]
    exact if_neg (by simp [hbogus])
  · exact Dict.get?_mapValues reading.sections (joined R) sectname

/-- **The round trip**: the text of a section is read, and an option has the value it was written
with, under every name that compares equal to its own. -/
theorem Writable.exists_read (hR : R.Punctuated) {sectname : List Char} (hsect : IsSection sectname)
    {options : List (List Char × List Char)} (hw : Writable R options) :
    ∃ config, read R (write sectname options) = .ok config ∧ config.hasSection sectname = true ∧
      (∀ option ∈ options, ∀ name, R.optionxform name = R.optionxform option.1 →
        config.get R sectname name = .value option.2) ∧
      ∀ name, (∀ option ∈ options, R.optionxform option.1 ≠ R.optionxform name) →
        config.get R sectname name = .missing := by
  obtain ⟨opened, hheader, hopened⟩ := exists_readLine_header hR hsect
  have hall : Writable R ([] ++ options) := hw
  obtain ⟨reading, hoptions, hreading⟩ := hopened.options hR hsect hall
  have hlines : lines [] (write sectname options)
      = headerText sectname :: options.map optionText := by
    refine lines_flatMap fun text htext => ?_
    rcases List.mem_cons.mp htext with rfl | htext
    · exact newline_notMem_headerText hsect
    · obtain ⟨option, hoption, rfl⟩ := List.mem_map.mp htext
      exact newline_notMem_optionText (hw.names option hoption) (hw.values option hoption)
  have hfold : (lines [] (write sectname options)).foldlM (readLine R) ({} : Reading)
      = .ok reading := by
    rw [hlines, List.foldlM_cons, hheader]
    exact hoptions
  obtain ⟨config, hread, hsections, hdefaults⟩ := exists_read_of_lines hfold hreading.bogus
  obtain ⟨values, hvalues, hget⟩ := hreading.values
  -- nothing is stored but the options that were written
  have hstored (name : List Char) :
      config.stored sectname name = (values.get? name).map (joinLines R) := by
    have hnone : config.defaults.get? name = none := by
      rw [hdefaults, hreading.defaults]
      rfl
    rw [Config.stored, hsections, hvalues, Option.map_some, Option.bind_some, hnone, Option.or_none]
    exact Dict.get?_mapValues values (joinLines R) name
  refine ⟨config, hread, ?_, ?_, ?_⟩
  · simp [Config.hasSection, hsections, hvalues]
  · intro option hoption name hname
    have hsome : values.get? (R.optionxform name) = some [escape option.2] :=
      (hget _ _).mpr ⟨option, hoption, hname.symm, rfl⟩
    have hjoin : joinLines R [escape option.2] = escape option.2 := by
      rw [joinLines, List.intercalate_singleton, (hw.values option hoption).stripped.escape.rstrip]
    rw [Config.get, hstored, hsome, Option.map_some, hjoin]
    simp only [MAX_INTERPOLATION_DEPTH, interpolate_escape]
  · intro name hname
    have hnone : values.get? (R.optionxform name) = none := by
      refine Option.eq_none_iff_forall_ne_some.mpr fun value hvalue => ?_
      obtain ⟨option, hoption, hxform, -⟩ := (hget _ _).mp hvalue
      exact hname option hoption hxform
    rw [Config.get, hstored, hnone]
    rfl

end ConfigParser
end CastDelivery
