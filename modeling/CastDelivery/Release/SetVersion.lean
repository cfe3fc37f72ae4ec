import CastDelivery.Release.Edits

/-!
# The writer of the versions

`set_version` renders, writes and validates in three passes. The texts are kept by path, so that of
two fields in one file only the later one is rendered, and the validation reads one field for each
path, after the files are written. `allOrNothing_iff`: for which fields and files this is all or
nothing.
-/

namespace CastDelivery
namespace Release
namespace Python

variable {Path File : Type*} (P : Python Path File)

/-- The file of a field. -/
def fileOf (config : ReleaseConfig Path) (f : VersionField) : File :=
  P.locate (P.join config.repository f.path)

/-- The edit that a field asks for in its file. -/
def editOf (config : ReleaseConfig Path) (version : PyStr) (files : Files File)
    (f : VersionField) : Option Edit :=
  (P.readText config.repository f.path files).toOption.bind (P.edit f version)

/-- The last field for each path, which is the one that is written. -/
def writers [DecidableEq Path] (config : ReleaseConfig Path) : Dict Path VersionField :=
  config.versionFields.foldl (fun fields f => fields.set (P.join config.repository f.path) f) ∅

/-- The last field for each path of the configuration, which is the one that is validated. -/
def readers (config : ReleaseConfig Path) : Dict PyStr VersionField :=
  config.versionFields.foldl (fun fields f => fields.set f.path f) ∅

section

variable [DecidableEq File]

/-- The last of the fields that are written to a file. -/
def lastWriter (writers : List (Path × VersionField)) (file : File) : Option VersionField :=
  ((writers.filter fun writer => P.locate writer.1 = file).getLast?).map Prod.snd

variable [DecidableEq Path] (config : ReleaseConfig Path) (version : PyStr) (files : Files File)

/-- `set_version` sets every field or leaves every file as it is. -/
structure AllOrNothing : Prop where
  returns : (P.setVersion config version files).2 = .ok () →
    (∀ f ∈ config.versionFields,
      P.readField config.repository f (P.setVersion config version files).1 = .ok (some version)) ∧
    P.validateVersions config (P.setVersion config version files).1 = .ok version
  raises : ∀ e, (P.setVersion config version files).2 = .error e →
    (P.setVersion config version files).1 = files

/-! ## Fields and files -/

/-- The files have what these fields write. -/
def Restated (writers : List (Path × VersionField)) (file : File) : Prop :=
  ∀ g, P.lastWriter writers file = some g → ∀ e, P.editOf config version files g = some e →
    ∃ bytes raw, files file = some bytes ∧ PyStr.decode bytes = some raw ∧ e.Restates version raw

/-- A field cannot be read, or the last one for its path reads another version. -/
def Invalid : Prop :=
  (∃ f ∈ config.versionFields, ∀ value, P.readField config.repository f files ≠ .ok value) ∨
    ∃ f ∈ (readers config).values, P.readField config.repository f files ≠ .ok (some version)

/-- The fields and files for which `set_version` is all or nothing. -/
inductive Sound : Prop
  /-- It is no version, or the file of a field has no place for it: nothing is written. -/
  | refused (h : parseCalver version = none ∨
      ∃ f ∈ config.versionFields, P.editOf config version files f = none)
  /-- Every text can be written, and every field reads the version behind the last edit of its
  file. -/
  | complete
      (hencodes : ∀ g ∈ (P.writers config).values, ∀ e,
        P.editOf config version files g = some e → e.Encodes version)
      (hshows : ∀ f ∈ config.versionFields, ∀ g,
        P.lastWriter (P.writers config).entries (P.fileOf config f) = some g → ∀ e,
        P.editOf config version files g = some e → P.Shows f version e)
  /-- Every text can be written and is there already, and the files are not valid. -/
  | idle
      (hencodes : ∀ g ∈ (P.writers config).values, ∀ e,
        P.editOf config version files g = some e → e.Encodes version)
      (hrestated : ∀ file, P.Restated config version files (P.writers config).entries file)
      (hinvalid : P.Invalid config version files)
  /-- The first text that cannot be written empties a file that was empty, and every text before it
  is there already. -/
  | blocked (before : List (Path × VersionField)) (path : Path) (g : VersionField)
      (after : List (Path × VersionField))
      (hsplit : (P.writers config).entries = before ++ (path, g) :: after)
      (hencodes : ∀ writer ∈ before, ∀ e,
        P.editOf config version files writer.2 = some e → e.Encodes version)
      (hblocked : ∀ e, P.editOf config version files g = some e → ¬ e.Encodes version)
      (hempty : files (P.locate path) = some [])
      (hrestated : ∀ file, file ≠ P.locate path → P.Restated config version files before file)

end

variable {P} {config : ReleaseConfig Path} {version : PyStr} {files : Files File}
  {f g : VersionField} {e : Edit}

/-! ## Rendering -/

theorem readText_eq_ok {text : PyStr} :
    P.readText config.repository f.path files = .ok text ↔
      ∃ bytes raw, files (P.fileOf config f) = some bytes ∧ PyStr.decode bytes = some raw ∧
        raw.universalNewlines = text := by
  unfold readText fileOf
  constructor
  · intro h
    split at h
    · cases h
    · next bytes hbytes =>
      split at h
      · cases h
      · next raw hraw => exact ⟨bytes, raw, hbytes, hraw, Except.ok.inj h⟩
  · rintro ⟨bytes, raw, hbytes, hraw, rfl⟩
    rw [hbytes]
    simp only [hraw]

/-- An edit is one of what is in the file. -/
theorem editOf_eq_some : P.editOf config version files f = some e ↔
    ∃ bytes raw, files (P.fileOf config f) = some bytes ∧ PyStr.decode bytes = some raw ∧
      P.edit f version raw.universalNewlines = some e := by
  unfold editOf
  rw [Option.bind_eq_some_iff]
  constructor
  · rintro ⟨text, htext, hedit⟩
    cases hread : P.readText config.repository f.path files with
    | error exc =>
      rw [hread] at htext
      cases htext
    | ok text' =>
      rw [hread] at htext
      cases htext
      obtain ⟨bytes, raw, hbytes, hraw, rfl⟩ := readText_eq_ok.mp hread
      exact ⟨bytes, raw, hbytes, hraw, hedit⟩
  · rintro ⟨bytes, raw, hbytes, hraw, hedit⟩
    refine ⟨_, ?_, hedit⟩
    rw [readText_eq_ok.mpr ⟨bytes, raw, hbytes, hraw, rfl⟩]
    rfl

/-- A field is rendered if and only if its file has its edit. -/
theorem fieldText_eq_ok {new : PyStr} : P.fieldText config version files f = .ok new ↔
    ∃ e, P.editOf config version files f = some e ∧ e.text version = new := by
  unfold fieldText editOf
  rw [bind_eq_ok]
  constructor
  · rintro ⟨text, hread, hrender⟩
    obtain ⟨e, hedit, hnew⟩ := renderField_eq_ok.mp hrender
    rw [hread]
    exact ⟨e, hedit, hnew⟩
  · rintro ⟨e, hedit, hnew⟩
    obtain ⟨text, htext, hedit⟩ := Option.bind_eq_some_iff.mp hedit
    cases hread : P.readText config.repository f.path files with
    | error exc =>
      rw [hread] at htext
      cases htext
    | ok text' =>
      rw [hread] at htext
      cases htext
      exact ⟨text, rfl, renderField_eq_ok.mpr ⟨e, hedit, hnew⟩⟩

/-- The text that a field has its file be, if it has an edit there. -/
def newText (P : Python Path File) (config : ReleaseConfig Path) (version : PyStr)
    (files : Files File) (f : VersionField) : PyStr :=
  ((P.editOf config version files f).map (Edit.text version)).getD []

theorem newText_of_editOf (h : P.editOf config version files f = some e) :
    P.newText config version files f = e.text version := by
  unfold newText
  rw [h]
  rfl

/-- An edit can be written if and only if its text has no lone surrogate. -/
theorem exists_encode_newText (h : P.editOf config version files f = some e) :
    (∃ bytes, (P.newText config version files f).encode = some bytes) ↔ e.Encodes version := by
  obtain ⟨bytes, raw, -, hraw, hedit⟩ := editOf_eq_some.mp h
  have hscalar : raw.Scalar := PyStr.exists_encode.mp ⟨bytes, PyStr.encode_of_decode hraw⟩
  rw [newText_of_editOf h]
  exact exists_encode_text hedit (PyStr.scalar_universalNewlines hscalar)

section

variable [DecidableEq Path]

/-- Where every field has an edit, the last one for each path is rendered. -/
theorem render_eq_ok (h : ∀ f ∈ config.versionFields, P.editOf config version files f ≠ none) :
    P.render config version files =
      .ok ((P.writers config).mapValues (P.newText config version files)) := by
  have htexts : ∀ f ∈ config.versionFields,
      P.fieldText config version files f = .ok (P.newText config version files f) := by
    intro f hf
    obtain ⟨e, he⟩ := Option.ne_none_iff_exists'.mp (h f hf)
    exact fieldText_eq_ok.mpr ⟨e, he, (newText_of_editOf he).symm⟩
  exact foldlM_set (fun f => P.join config.repository f.path) htexts ∅

/-- What is written is asked for by a field. -/
theorem mem_of_mem_writers (h : g ∈ (P.writers config).values) : g ∈ config.versionFields := by
  obtain ⟨path, hpath⟩ := (Dict.mem_values _ _).mp h
  rcases Dict.get?_foldl_set _ _ _ _ _ _ hpath with ⟨f, hf, -, rfl⟩ | ⟨-, hnone⟩
  · exact hf
  · cases hnone

theorem fileOf_of_mem_writers {writer : Path × VersionField}
    (h : writer ∈ (P.writers config).entries) : P.fileOf config writer.2 = P.locate writer.1 := by
  have hget := (Dict.get?_eq_some_iff _ _ _).mpr h
  rcases Dict.get?_foldl_set _ _ _ _ _ _ hget with ⟨f, -, hpath, hf⟩ | ⟨-, hnone⟩
  · unfold fileOf
    rw [← hf, hpath]
  · cases hnone

theorem exists_editOf
    (hedits : ∀ f ∈ config.versionFields, P.editOf config version files f ≠ none)
    {writer : Path × VersionField} (h : writer ∈ (P.writers config).entries) :
    ∃ e, P.editOf config version files writer.2 = some e :=
  Option.ne_none_iff_exists'.mp (hedits _ (mem_of_mem_writers (List.mem_map_of_mem h)))

/-- Texts of edits without lone surrogates can be encoded. -/
theorem exists_encode_of_encodes
    (hedits : ∀ f ∈ config.versionFields, P.editOf config version files f ≠ none)
    {l : List (Path × VersionField)}
    (hl : ∀ writer ∈ l, writer ∈ (P.writers config).entries)
    (hencodes : ∀ writer ∈ l, ∀ e,
      P.editOf config version files writer.2 = some e → e.Encodes version) :
    ∀ writer ∈ l, ∃ bytes, (P.newText config version files writer.2).encode = some bytes := by
  intro writer hwriter
  obtain ⟨e, he⟩ := exists_editOf hedits (hl writer hwriter)
  exact (exists_encode_newText he).mpr (hencodes writer hwriter e he)

/-- Something is written to the file of a field. -/
theorem exists_lastWriter [DecidableEq File] (hf : f ∈ config.versionFields) :
    ∃ g, P.lastWriter (P.writers config).entries (P.fileOf config f) = some g := by
  have hkey : P.join config.repository f.path ∈ (P.writers config).keys :=
    (Dict.mem_keys_foldl_set _ _ _ _ _).mpr (.inl (List.mem_map_of_mem hf))
  obtain ⟨writer, hwriter, hpath⟩ := List.mem_map.mp hkey
  have hmem : writer ∈ (P.writers config).entries.filter
      fun writer => P.locate writer.1 = P.fileOf config f :=
    List.mem_filter.mpr ⟨hwriter, decide_eq_true (congrArg P.locate hpath)⟩
  unfold lastWriter
  refine Option.ne_none_iff_exists'.mp fun hnone => ?_
  rw [Option.map_eq_none_iff, List.getLast?_eq_none_iff] at hnone
  rw [hnone] at hmem
  exact List.not_mem_nil hmem

end

theorem mem_of_lastWriter [DecidableEq File] {writers : List (Path × VersionField)} {file : File}
    (h : P.lastWriter writers file = some g) :
    ∃ path, (path, g) ∈ writers ∧ P.locate path = file := by
  obtain ⟨writer, hlast, rfl⟩ := Option.map_eq_some_iff.mp h
  obtain ⟨hwriter, hfile⟩ := List.mem_filter.mp (List.mem_of_getLast? hlast)
  exact ⟨writer.1, hwriter, of_decide_eq_true hfile⟩

/-! ## Writing -/

section

variable [DecidableEq File] {writers : List (Path × VersionField)} {text : VersionField → PyStr}

/-- Texts that can be encoded are all written, and a file has the last one that is written to it. -/
theorem writeAll_ok (files : Files File)
    (h : ∀ writer ∈ writers, ∃ bytes, (text writer.2).encode = some bytes) :
    (P.writeAll (writers.map fun writer => (writer.1, text writer.2)) files).2 = .ok () ∧
      ∀ file, (P.writeAll (writers.map fun writer => (writer.1, text writer.2)) files).1 file =
        (P.lastWriter writers file).elim (files file) fun g => (text g).encode := by
  induction writers generalizing files with
  | nil => exact ⟨rfl, fun _ => rfl⟩
  | cons writer writers ih =>
    obtain ⟨⟨bytes, hbytes⟩, hrest⟩ := List.forall_mem_cons.mp h
    rw [List.map_cons, writeAll]
    simp only [hbytes]
    obtain ⟨hwritten, hfiles⟩ :=
      ih (Function.update files (P.locate writer.1) (some bytes)) hrest
    refine ⟨hwritten, fun file => ?_⟩
    rw [hfiles]
    unfold lastWriter
    by_cases hfile : P.locate writer.1 = file
    · -- the text is the last one for the file unless there is one among the rest
      rw [List.filter_cons_of_pos (by simpa using hfile), List.getLast?_cons]
      cases (writers.filter fun writer => P.locate writer.1 = file).getLast? with
      | none =>
        simp only [Option.map_none, Option.elim_none, Option.getD_none, Option.map_some,
          Option.elim_some]
        rw [hfile, Function.update_self, hbytes]
      | some last => rfl
    · rw [List.filter_cons_of_neg (by simpa using hfile)]
      cases (writers.filter fun writer => P.locate writer.1 = file).getLast? with
      | none =>
        simp only [Option.map_none, Option.elim_none]
        rw [Function.update_of_ne fun h => hfile h.symm]
      | some last => rfl

/-- The first text that cannot be encoded leaves its file empty. -/
theorem writeAll_error {before after : List (Path × VersionField)} {path : Path}
    (hbefore : ∀ writer ∈ before, ∃ bytes, (text writer.2).encode = some bytes)
    (hnone : (text g).encode = none) :
    P.writeAll ((before ++ (path, g) :: after).map fun writer => (writer.1, text writer.2)) files =
      (Function.update
        (P.writeAll (before.map fun writer => (writer.1, text writer.2)) files).1
        (P.locate path) (some []), .error (.other "UnicodeEncodeError")) := by
  induction before generalizing files with
  | nil =>
    rw [List.nil_append, List.map_cons, writeAll]
    simp only [hnone]
    rfl
  | cons writer before ih =>
    obtain ⟨⟨bytes, hbytes⟩, hrest⟩ := List.forall_mem_cons.mp hbefore
    rw [List.cons_append, List.map_cons, List.map_cons, writeAll, writeAll]
    simp only [hbytes]
    exact ih hrest

/-- The files after the new texts of some fields are written. -/
def written (P : Python Path File) (config : ReleaseConfig Path) (version : PyStr)
    (files : Files File) (writers : List (Path × VersionField)) :
    Files File × Except ReleaseExc Unit :=
  P.writeAll (writers.map fun writer => (writer.1, P.newText config version files writer.2)) files

theorem written_ok {writers : List (Path × VersionField)}
    (h : ∀ writer ∈ writers, ∃ bytes,
      (P.newText config version files writer.2).encode = some bytes) :
    (P.written config version files writers).2 = .ok () ∧
      ∀ file, (P.written config version files writers).1 file =
        (P.lastWriter writers file).elim (files file) fun g =>
          (P.newText config version files g).encode :=
  writeAll_ok files h

/-- A file has what is written to it last if and only if it has it already. -/
theorem elim_lastWriter_eq_iff (hedits : ∀ writer ∈ writers, ∃ e,
      P.editOf config version files writer.2 = some e)
    (hfiles : ∀ writer ∈ writers, P.fileOf config writer.2 = P.locate writer.1) (file : File) :
    ((P.lastWriter writers file).elim (files file) fun g =>
        (P.newText config version files g).encode) = files file ↔
      P.Restated config version files writers file := by
  unfold Restated
  cases hlast : P.lastWriter writers file with
  | none =>
    refine iff_of_true rfl ?_
    intro g hg
    cases hg
  | some g =>
    obtain ⟨path, hmem, hpath⟩ := mem_of_lastWriter hlast
    obtain ⟨e, he⟩ := hedits _ hmem
    obtain ⟨bytes, raw, hbytes, hraw, hedit⟩ := editOf_eq_some.mp he
    have hfile : P.fileOf config g = file := (hfiles _ hmem).trans hpath
    rw [hfile] at hbytes
    rw [Option.elim_some, newText_of_editOf he, hbytes, PyStr.encode_eq_iff_of_decode hraw,
      ← restates_iff hedit]
    constructor
    · intro hrestates g' hg' e' he'
      cases hg'
      cases he.symm.trans he'
      exact ⟨bytes, raw, rfl, hraw, hrestates⟩
    · intro h
      obtain ⟨bytes', raw', hbytes', hraw', hrestates⟩ := h g rfl e he
      cases hbytes'
      cases hraw.symm.trans hraw'
      exact hrestates

end

/-- What a field reads in a file that got the text of an edit. -/
theorem readField_eq_iff_shows (hversion : parseCalver version ≠ none) {files' : Files File}
    (he : P.editOf config version files g = some e)
    (hfile : files' (P.fileOf config f) = (e.text version).encode)
    (hencodes : ∃ bytes, (e.text version).encode = some bytes) :
    P.readField config.repository f files' = .ok (some version) ↔ P.Shows f version e := by
  obtain ⟨bytes, hbytes⟩ := hencodes
  obtain ⟨_, raw, -, -, hedit⟩ := editOf_eq_some.mp he
  have hread : P.readText config.repository f.path files' =
      .ok (e.text version).universalNewlines :=
    readText_eq_ok.mpr ⟨bytes, e.text version, hfile.trans hbytes, PyStr.decode_of_encode hbytes,
      rfl⟩
  unfold readField
  rw [hread, shows_iff hversion hedit]
  rfl

/-! ## Validating -/

theorem mem_of_mem_readers (h : f ∈ (readers config).values) : f ∈ config.versionFields := by
  obtain ⟨path, hpath⟩ := (Dict.mem_values _ _).mp h
  rcases Dict.get?_foldl_set _ _ _ _ _ _ hpath with ⟨g, hg, -, rfl⟩ | ⟨-, hnone⟩
  · exact hg
  · cases hnone

theorem values_readers_ne_nil : (readers config).values ≠ [] := by
  obtain ⟨f, hf⟩ := List.exists_mem_of_ne_nil _ config.nonempty
  have hkey : f.path ∈ (readers config).keys :=
    (Dict.mem_keys_foldl_set _ _ _ _ _).mpr (.inl (List.mem_map_of_mem hf))
  obtain ⟨entry, hentry, -⟩ := List.mem_map.mp hkey
  exact List.ne_nil_of_mem (List.mem_map_of_mem hentry)

/-- What a field reads, if it can be read. -/
def valueOf (P : Python Path File) (config : ReleaseConfig Path) (files : Files File)
    (f : VersionField) : Option PyStr :=
  (P.readField config.repository f files).toOption.getD none

theorem readField_eq_valueOf {value : Option PyStr}
    (h : P.readField config.repository f files = .ok value) :
    P.readField config.repository f files = .ok (P.valueOf config files f) := by
  unfold valueOf
  rw [h]
  rfl

/-- Fields that can be read are read by their paths. -/
theorem readVersions_eq_ok_iff {versions : Dict PyStr (Option PyStr)} :
    P.readVersions config files = .ok versions ↔
      (∀ f ∈ config.versionFields, ∃ value,
        P.readField config.repository f files = .ok value) ∧
        versions = (readers config).mapValues (P.valueOf config files) := by
  have hfold (h : ∀ f ∈ config.versionFields, ∃ value,
      P.readField config.repository f files = .ok value) :
      P.readVersions config files =
        .ok ((readers config).mapValues (P.valueOf config files)) := by
    have hvalues : ∀ f ∈ config.versionFields,
        P.readField config.repository f files = .ok (P.valueOf config files f) := by
      intro f hf
      obtain ⟨value, hvalue⟩ := h f hf
      exact readField_eq_valueOf hvalue
    -- the last field for a path overwrites what was read of the earlier ones
    exact foldlM_set VersionField.path hvalues ∅
  constructor
  · intro h
    have hread := exists_of_foldlM_set h
    exact ⟨hread, (Except.ok.inj ((hfold hread).symm.trans h)).symm⟩
  · rintro ⟨h, rfl⟩
    exact hfold h

/-- The files are valid if and only if every field can be read and the last one for every path
reads the version. -/
theorem validateVersions_eq_ok (hversion : (calverFullmatch version).isSome = true) :
    P.validateVersions config files = .ok version ↔ ¬ P.Invalid config version files := by
  unfold validateVersions
  rw [bind_eq_ok]
  constructor
  · rintro ⟨versions, hversions, hvalid⟩
    obtain ⟨hread, rfl⟩ := readVersions_eq_ok_iff.mp hversions
    rintro (⟨f, hf, hfails⟩ | ⟨f, hf, hother⟩)
    · obtain ⟨value, hvalue⟩ := hread f hf
      exact hfails value hvalue
    · apply hother
      obtain ⟨value, hvalue⟩ := hread f (mem_of_mem_readers hf)
      rw [readField_eq_valueOf hvalue]
      have hmem : P.valueOf config files f ∈
          ((readers config).mapValues (P.valueOf config files)).values.dedup := by
        rw [List.mem_dedup, Dict.values_mapValues]
        exact List.mem_map_of_mem hf
      split at hvalid
      · next found hdedup =>
        rw [hdedup, List.mem_singleton] at hmem
        split at hvalid
        · rw [hmem, Except.ok.inj hvalid]
        · cases hvalid
      · cases hvalid
      · cases hvalid
  · intro hvalid
    unfold Invalid at hvalid
    push Not at hvalid
    obtain ⟨hread, hlast⟩ := hvalid
    refine ⟨_, readVersions_eq_ok_iff.mpr ⟨hread, rfl⟩, ?_⟩
    have hall : ∀ value ∈ ((readers config).mapValues (P.valueOf config files)).values,
        value = some version := by
      intro value hvalue
      rw [Dict.values_mapValues] at hvalue
      obtain ⟨f, hf, rfl⟩ := List.mem_map.mp hvalue
      exact Except.ok.inj ((readField_eq_valueOf (hlast f hf)).symm.trans (hlast f hf))
    -- the set of the versions is a singleton
    have hdedup : ((readers config).mapValues (P.valueOf config files)).values.dedup =
        [some version] := by
      rw [List.eq_replicate_of_mem hall, List.replicate_dedup]
      rw [Dict.values_mapValues, List.length_map]
      exact fun hzero => values_readers_ne_nil (List.length_eq_zero_iff.mp hzero)
    simp only [hdedup]
    exact if_pos hversion

/-! ## The three passes -/

section

variable [DecidableEq Path] [DecidableEq File]

/-- What is refused raises before anything is written. -/
theorem setVersion_of_refused (h : parseCalver version = none ∨
    ∃ f ∈ config.versionFields, P.editOf config version files f = none) :
    ∃ e, P.setVersion config version files = (files, .error e) := by
  unfold setVersion
  rcases h with hparse | ⟨f, hf, hnone⟩
  · rw [hparse]
    exact ⟨_, rfl⟩
  · cases parseCalver version with
    | none => exact ⟨_, rfl⟩
    | some parsed =>
      simp only
      -- nothing is written until every field is rendered
      cases hrender : P.render config version files with
      | error e => exact ⟨e, rfl⟩
      | ok rendered =>
        obtain ⟨text, htext⟩ := exists_of_foldlM_set hrender f hf
        obtain ⟨e, he, -⟩ := fieldText_eq_ok.mp htext
        rw [hnone] at he
        cases he

/-- The files after the second pass. -/
def secondPass (P : Python Path File) (config : ReleaseConfig Path) (version : PyStr)
    (files : Files File) : Files File × Except ReleaseExc Unit :=
  P.written config version files (P.writers config).entries

section

variable (hparse : parseCalver version ≠ none)
  (hedits : ∀ f ∈ config.versionFields, P.editOf config version files f ≠ none)

include hparse hedits

/-- Where a text cannot be encoded, the call raises behind the writes before it. -/
theorem setVersion_of_unwritten {exc : ReleaseExc}
    (h : (P.secondPass config version files).2 = .error exc) :
    P.setVersion config version files = ((P.secondPass config version files).1, .error exc) := by
  obtain ⟨parsed, hparsed⟩ := Option.ne_none_iff_exists'.mp hparse
  have hpair : P.writeAll ((P.writers config).mapValues
      (P.newText config version files)).entries files =
        ((P.secondPass config version files).1, .error exc) := Prod.ext rfl h
  unfold setVersion
  rw [hparsed, render_eq_ok hedits]
  simp only
  rw [hpair]

/-- Where every text is written, the call returns if and only if the files are valid then. -/
theorem setVersion_of_written (h : (P.secondPass config version files).2 = .ok ()) :
    (P.setVersion config version files).1 = (P.secondPass config version files).1 ∧
      ((P.setVersion config version files).2 = .ok () ↔
        P.validateVersions config (P.secondPass config version files).1 = .ok version) := by
  obtain ⟨parsed, hparsed⟩ := Option.ne_none_iff_exists'.mp hparse
  have hpair : P.writeAll ((P.writers config).mapValues
      (P.newText config version files)).entries files =
        ((P.secondPass config version files).1, .ok ()) := Prod.ext rfl h
  unfold setVersion
  rw [hparsed, render_eq_ok hedits]
  simp only
  rw [hpair]
  simp only
  cases hfound : P.validateVersions config (P.secondPass config version files).1 with
  | error e => exact ⟨rfl, by simp⟩
  | ok found =>
    simp only
    by_cases hsame : found = version
    · rw [if_pos hsame, hsame]
      exact ⟨rfl, by simp⟩
    · rw [if_neg hsame]
      exact ⟨rfl, by simp [hsame]⟩

end

/-! ## All or nothing -/

/-- What does not hold of every element fails for a first one. -/
theorem exists_first {α : Type*} {p : α → Prop} {l : List α} (h : ¬ ∀ a ∈ l, p a) :
    ∃ before a after, l = before ++ a :: after ∧ (∀ b ∈ before, p b) ∧ ¬ p a := by
  classical
  obtain ⟨a, hfirst⟩ : ∃ a, l.find? (fun a => ¬ p a) = some a :=
    Option.isSome_iff_exists.mp (List.find?_isSome.mpr (by simpa using h))
  obtain ⟨ha, before, after, hsplit, hbefore⟩ := List.find?_eq_some_iff_append.mp hfirst
  exact ⟨before, a, after, hsplit, fun b hb => by simpa using hbefore b hb, by simpa using ha⟩

theorem allOrNothing_of_refused (h : parseCalver version = none ∨
    ∃ f ∈ config.versionFields, P.editOf config version files f = none) :
    P.AllOrNothing config version files := by
  obtain ⟨exc, hset⟩ := setVersion_of_refused h
  refine ⟨?_, fun _ _ => congrArg Prod.fst hset⟩
  intro hok
  rw [hset] at hok
  cases hok

section

variable (hedits : ∀ f ∈ config.versionFields, P.editOf config version files f ≠ none)

include hedits

/-- The second pass changes nothing if and only if every file has what is written to it. -/
theorem secondPass_eq_iff
    (hafter : ∀ file, (P.secondPass config version files).1 file =
      (P.lastWriter (P.writers config).entries file).elim (files file) fun g =>
        (P.newText config version files g).encode) :
    (P.secondPass config version files).1 = files ↔
      ∀ file, P.Restated config version files (P.writers config).entries file := by
  rw [funext_iff]
  refine forall_congr' fun file => ?_
  rw [hafter]
  exact elim_lastWriter_eq_iff (fun _ hwriter => exists_editOf hedits hwriter)
    (fun _ hwriter => fileOf_of_mem_writers hwriter) file

/-- A field reads the version after the second pass if and only if the last edit of its file shows
it. -/
theorem forall_readField_iff (hversion : parseCalver version ≠ none)
    (hbytes : ∀ writer ∈ (P.writers config).entries, ∃ bytes,
      (P.newText config version files writer.2).encode = some bytes)
    (hafter : ∀ file, (P.secondPass config version files).1 file =
      (P.lastWriter (P.writers config).entries file).elim (files file) fun g =>
        (P.newText config version files g).encode) :
    (∀ f ∈ config.versionFields, P.readField config.repository f
        (P.secondPass config version files).1 = .ok (some version)) ↔
      ∀ f ∈ config.versionFields, ∀ g,
        P.lastWriter (P.writers config).entries (P.fileOf config f) = some g → ∀ e,
        P.editOf config version files g = some e → P.Shows f version e := by
  have hfield : ∀ f g e, P.lastWriter (P.writers config).entries (P.fileOf config f) = some g →
      P.editOf config version files g = some e →
      (P.readField config.repository f (P.secondPass config version files).1 =
        .ok (some version) ↔ P.Shows f version e) := by
    intro f g e hg he
    obtain ⟨path, hmem, -⟩ := mem_of_lastWriter hg
    have hfile : (P.secondPass config version files).1 (P.fileOf config f) =
        (e.text version).encode := by
      rw [hafter, hg, Option.elim_some, newText_of_editOf he]
    refine readField_eq_iff_shows hversion he hfile ?_
    rw [← newText_of_editOf he]
    exact hbytes _ hmem
  constructor
  · intro h f hf g hg e he
    exact (hfield f g e hg he).mp (h f hf)
  · intro h f hf
    obtain ⟨g, hg⟩ := exists_lastWriter (P := P) hf
    obtain ⟨path, hmem, -⟩ := mem_of_lastWriter hg
    obtain ⟨e, he⟩ := exists_editOf hedits hmem
    exact (hfield f g e hg he).mpr (h f hf g hg e he)

end

section

variable (hparse : parseCalver version ≠ none)
  (hedits : ∀ f ∈ config.versionFields, P.editOf config version files f ≠ none)

include hparse hedits

/-- Where every text is written, the files are those of the edits. -/
theorem allOrNothing_iff_of_encodes
    (hencodes : ∀ g ∈ (P.writers config).values, ∀ e,
      P.editOf config version files g = some e → e.Encodes version) :
    P.AllOrNothing config version files ↔
      (∀ f ∈ config.versionFields, ∀ g,
        P.lastWriter (P.writers config).entries (P.fileOf config f) = some g → ∀ e,
        P.editOf config version files g = some e → P.Shows f version e) ∨
      (∀ file, P.Restated config version files (P.writers config).entries file) ∧
        P.Invalid config version files := by
  have hbytes := exists_encode_of_encodes hedits (fun _ hwriter => hwriter)
    fun _ hwriter => hencodes _ (List.mem_map_of_mem hwriter)
  obtain ⟨hwritten, hafter⟩ := written_ok hbytes
  obtain ⟨hfiles, hreturns⟩ := setVersion_of_written hparse hedits hwritten
  have hversion := isSome_calverFullmatch hparse
  rw [← forall_readField_iff hedits hparse hbytes hafter, ← secondPass_eq_iff hedits hafter]
  by_cases hvalid : P.validateVersions config (P.secondPass config version files).1 = .ok version
  · -- the call returns
    constructor
    · intro h
      left
      rw [← hfiles]
      exact (h.returns (hreturns.mpr hvalid)).1
    · rintro (hreads | ⟨hunchanged, hinvalid⟩)
      · refine ⟨fun _ => ?_, fun exc hraises => ?_⟩
        · rw [hfiles]
          exact ⟨hreads, hvalid⟩
        · rw [hreturns.mpr hvalid] at hraises
          cases hraises
      · rw [hunchanged] at hvalid
        exact absurd hinvalid ((validateVersions_eq_ok hversion).mp hvalid)
  · -- the call raises
    have hraises : (P.setVersion config version files).2 ≠ .ok () := fun hok =>
      hvalid (hreturns.mp hok)
    constructor
    · intro h
      right
      have hunchanged : (P.secondPass config version files).1 = files := by
        cases hresult : (P.setVersion config version files).2 with
        | error exc => exact hfiles.symm.trans (h.raises exc hresult)
        | ok _ => exact absurd hresult hraises
      refine ⟨hunchanged, ?_⟩
      rw [hunchanged, validateVersions_eq_ok hversion, not_not] at hvalid
      exact hvalid
    · rintro (hreads | ⟨hunchanged, -⟩)
      · apply absurd _ hvalid
        rw [validateVersions_eq_ok hversion]
        rintro (⟨f, hf, hfails⟩ | ⟨f, hf, hother⟩)
        · exact hfails _ (hreads f hf)
        · exact hother (hreads f (mem_of_mem_readers hf))
      · exact ⟨fun hok => absurd hok hraises, fun _ _ => hfiles.trans hunchanged⟩

/-- Where a text cannot be written, the files are those of the edits before it. -/
theorem allOrNothing_iff_of_blocked {before after : List (Path × VersionField)} {path : Path}
    (hsplit : (P.writers config).entries = before ++ (path, g) :: after)
    (hencodes : ∀ writer ∈ before, ∀ e,
      P.editOf config version files writer.2 = some e → e.Encodes version)
    (hblocked : ∀ e, P.editOf config version files g = some e → ¬ e.Encodes version) :
    P.AllOrNothing config version files ↔
      files (P.locate path) = some [] ∧
        ∀ file, file ≠ P.locate path → P.Restated config version files before file := by
  have hmem : ∀ writer ∈ before ++ (path, g) :: after, writer ∈ (P.writers config).entries :=
    fun _ hwriter => hsplit ▸ hwriter
  have hbefore : ∀ writer ∈ before, writer ∈ (P.writers config).entries := fun writer hwriter =>
    hmem writer (List.mem_append_left _ hwriter)
  have hbytes := exists_encode_of_encodes hedits hbefore hencodes
  have hnone : (P.newText config version files g).encode = none := by
    obtain ⟨e, he⟩ := exists_editOf hedits (hmem (path, g) (by simp))
    rw [Option.eq_none_iff_forall_ne_some]
    exact fun bytes hsome => hblocked e he ((exists_encode_newText he).mp ⟨bytes, hsome⟩)
  obtain ⟨-, hafter⟩ := written_ok hbytes
  have hwritten : P.secondPass config version files =
      (Function.update (P.written config version files before).1 (P.locate path) (some []),
        .error (.other "UnicodeEncodeError")) := by
    unfold secondPass
    rw [hsplit]
    exact writeAll_error hbytes hnone
  have hset := setVersion_of_unwritten hparse hedits (congrArg Prod.snd hwritten)
  have hfiles : (P.setVersion config version files).1 = files ↔
      files (P.locate path) = some [] ∧
        ∀ file, file ≠ P.locate path → P.Restated config version files before file := by
    rw [hset, hwritten]
    simp only
    rw [Function.update_eq_iff]
    refine and_congr eq_comm (forall_congr' fun file => forall_congr' fun _ => ?_)
    rw [hafter]
    exact elim_lastWriter_eq_iff
      (fun writer hwriter => exists_editOf hedits (hbefore writer hwriter))
      (fun writer hwriter => fileOf_of_mem_writers (hbefore writer hwriter)) file
  rw [← hfiles]
  -- the call raises
  constructor
  · intro h
    exact h.raises _ (congrArg Prod.snd hset)
  · intro hunchanged
    refine ⟨fun hok => ?_, fun _ _ => hunchanged⟩
    rw [hset] at hok
    cases hok

end

theorem allOrNothing_of_sound (h : P.Sound config version files) :
    P.AllOrNothing config version files := by
  by_cases hrefused : parseCalver version = none ∨
      ∃ f ∈ config.versionFields, P.editOf config version files f = none
  · exact allOrNothing_of_refused hrefused
  · push Not at hrefused
    obtain ⟨hparse, hedits⟩ := hrefused
    cases h with
    | refused h =>
      obtain hnone | ⟨f, hf, hnone⟩ := h
      · exact absurd hnone hparse
      · exact absurd hnone (hedits f hf)
    | complete hencodes hshows =>
      exact (allOrNothing_iff_of_encodes hparse hedits hencodes).mpr (.inl hshows)
    | idle hencodes hrestated hinvalid =>
      exact (allOrNothing_iff_of_encodes hparse hedits hencodes).mpr (.inr ⟨hrestated, hinvalid⟩)
    | blocked before path g after hsplit hencodes hblocked hempty hrestated =>
      exact (allOrNothing_iff_of_blocked hparse hedits hsplit hencodes hblocked).mpr
        ⟨hempty, hrestated⟩

theorem sound_of_allOrNothing (h : P.AllOrNothing config version files) :
    P.Sound config version files := by
  by_cases hrefused : parseCalver version = none ∨
      ∃ f ∈ config.versionFields, P.editOf config version files f = none
  · exact .refused hrefused
  push Not at hrefused
  obtain ⟨hparse, hedits⟩ := hrefused
  by_cases hencodes : ∀ writer ∈ (P.writers config).entries, ∀ e,
      P.editOf config version files writer.2 = some e → e.Encodes version
  · have hvalues : ∀ g ∈ (P.writers config).values, ∀ e,
        P.editOf config version files g = some e → e.Encodes version := by
      intro g hg
      obtain ⟨writer, hwriter, rfl⟩ := List.mem_map.mp hg
      exact hencodes writer hwriter
    obtain hshows | ⟨hrestated, hinvalid⟩ :=
      (allOrNothing_iff_of_encodes hparse hedits hvalues).mp h
    · exact .complete hvalues hshows
    · exact .idle hvalues hrestated hinvalid
  · obtain ⟨before, ⟨path, g⟩, after, hsplit, hbefore, hblocked⟩ := exists_first hencodes
    have hblocked : ∀ e, P.editOf config version files g = some e → ¬ e.Encodes version := by
      intro e he hok
      refine hblocked fun e' he' => ?_
      cases he.symm.trans he'
      exact hok
    obtain ⟨hempty, hrestated⟩ :=
      (allOrNothing_iff_of_blocked hparse hedits hsplit hbefore hblocked).mp h
    exact .blocked before path g after hsplit hbefore hblocked hempty hrestated

end

/-- **`set_version` is all or nothing exactly for these fields and files.** -/
theorem allOrNothing_iff [DecidableEq Path] [DecidableEq File] (P : Python Path File)
    (config : ReleaseConfig Path) (version : PyStr) (files : Files File) :
    P.AllOrNothing config version files ↔ P.Sound config version files :=
  ⟨sound_of_allOrNothing, allOrNothing_of_sound⟩

/-- **JSON fields in files of their own are set all or nothing**, as far as their texts can be
written: the usual configuration, as in the `.release.json` of this repository. -/
theorem allOrNothing_of_json [DecidableEq Path] [DecidableEq File]
    (hjson : ∀ f ∈ config.versionFields, f.isJson = true)
    (hdistinct : (config.versionFields.map (P.fileOf config)).Nodup)
    (hencodes : ∀ f ∈ config.versionFields, ∀ e,
      P.editOf config version files f = some e → e.Encodes version) :
    P.AllOrNothing config version files := by
  refine allOrNothing_of_sound (.complete ?_ ?_)
  · intro g hg
    exact hencodes g (mem_of_mem_writers hg)
  · intro f hf g hlast e he
    -- what is written to the file of the field is the field itself
    obtain ⟨path, hmem, hpath⟩ := mem_of_lastWriter hlast
    have hg : g ∈ config.versionFields := mem_of_mem_writers (List.mem_map_of_mem hmem)
    obtain rfl : g = f := List.inj_on_of_nodup_map hdistinct hg hf
      ((fileOf_of_mem_writers hmem).trans hpath)
    obtain ⟨_, raw, -, -, hedit⟩ := editOf_eq_some.mp he
    obtain ⟨data, key, old, -, hkey, -, rfl⟩ := (edit_eq_json (hjson g hg)).mp hedit
    rw [Shows, if_pos (hjson g hg)]
    exact .inl hkey

end Python

/-! ## Two fields in one file -/

/-- Python, without floating-point numbers, regular expressions and replacement fields. -/
def plainPython : Python PyStr PyStr where
  join directory path := directory ++ pyStr "/" ++ path
  locate path := path
  floats := { repr := id, reads := fun _ h => .inl ⟨h, rfl⟩ }
  compile _ := none
  formatField _ _ := none

/-- Two versions in one manifest. -/
def twoVersions : ReleaseConfig PyStr where
  repository := pyStr "/repo"
  versionFields :=
    [{ path := pyStr "manifest.json", kind := pyStr "json", key := some (pyStr "version") },
      { path := pyStr "manifest.json", kind := pyStr "json", key := some (pyStr "panel") }]
  nonempty := List.cons_ne_nil _ _
  checked := by decide

/-- The repository before the release. -/
def manifest : Files PyStr := fun path =>
  if path = pyStr "/repo/manifest.json" then
    PyStr.encode (pyStr "\x7b\"version\": \"2026.09.03.1\", \"panel\": \"2026.09.03.1\"\x7d\n")
  else none

/-- The first of the two versions is not set, and the call returns. -/
theorem not_allOrNothing :
    ¬ plainPython.AllOrNothing twoVersions (pyStr "2026.09.04.1") manifest := by
  intro h
  have hreturns :
      (plainPython.setVersion twoVersions (pyStr "2026.09.04.1") manifest).2 = .ok () := by
    decide +kernel
  have hread := (h.returns hreturns).1 _ List.mem_cons_self
  have hstale : plainPython.readField twoVersions.repository
      { path := pyStr "manifest.json", kind := pyStr "json", key := some (pyStr "version") }
      (plainPython.setVersion twoVersions (pyStr "2026.09.04.1") manifest).1 =
        .ok (some (pyStr "2026.09.03.1")) := by
    decide +kernel
  rw [hstale] at hread
  exact absurd (Except.ok.inj hread) (by decide)

end Release
end CastDelivery
