import CastDelivery.Lib.Fallible
import CastDelivery.Lib.JsonRoundTrip
import CastDelivery.Release.Basic

/-!
# The edits of the version fields

What a version field is to change in the text of its file is an `Edit`: a key of a `dict`, or the
one match of a pattern. `renderField_eq_ok`: a field is rendered if and only if the text has such an
edit. The other lemmas say from the edit which field reads the version afterwards, whether the new
text can be written, and whether the file has it already.
-/

namespace CastDelivery
namespace Release

open JsonText (Value)

/-- What a field changes in the text of its file. -/
inductive Edit
  /-- The value of a key. -/
  | json (data : List (PyStr × Value)) (key : PyStr)
  /-- The only match of a pattern, by a replacement. -/
  | regex (text : PyStr) (found : Regex.Match) (pieces : List Regex.Piece)

/-- The `dict` with the version at the key. -/
def setVersionAt (data : List (PyStr × Value)) (key version : PyStr) : List (PyStr × Value) :=
  Dict.setEntries data key (.str version)

namespace Edit

/-- The new text. -/
def text (version : PyStr) : Edit → PyStr
  | .json data key => JsonText.dumps (.obj (setVersionAt data key version)) ++ pyStr "\n"
  | .regex text found pieces => found.replaced text pieces

/-- There is no lone surrogate in what is written: in the strings of the `dict`, or in the
replacement. -/
def Encodes (version : PyStr) : Edit → Prop
  | .json data key =>
    ∀ text ∈ JsonText.texts (.obj (setVersionAt data key version)), text.Scalar
  | .regex text found pieces => (found.expand text pieces).Scalar

/-- A file has the new text already: the version is at the key and the file is what `json` writes,
or the file is the text around the match with the replacement in between. -/
def Restates (version raw : PyStr) : Edit → Prop
  | .json data key =>
    JsonText.lookup data key = some (.str version) ∧
      raw = JsonText.dumps (.obj data) ++ pyStr "\n"
  | .regex text found pieces => raw = found.replaced text pieces

end Edit

namespace Python

variable {Path File : Type*} (P : Python Path File)

/-- The edit that a field asks for in a text. -/
def edit (f : VersionField) (version text : PyStr) : Option Edit :=
  if f.isJson then
    match JsonText.loads P.floats text, f.key with
    | some (.obj data), some key =>
      match JsonText.lookup data key with
      | some (.str _) => some (.json data key)
      | _ => none
    | _, _ => none
  else
    (P.compile (orEmpty f.pattern)).bind fun pattern =>
      (Format.format P.formatField (pyStr "version") version (orEmpty f.template)).bind
        fun replacement =>
          (pattern.parseTemplate replacement).bind fun pieces =>
            match pattern.finditer text with
            | [found] => some (.regex text found pieces)
            | _ => none

/-- A field reads the version behind an edit. Another key has to have it already; a pattern has to
find it in the new text. -/
def Shows (f : VersionField) (version : PyStr) : Edit → Prop
  | .json data key =>
    if f.isJson then f.key = some key ∨ getStr data f.key = some version
    else
      P.readFieldText f (JsonText.dumps (.obj (setVersionAt data key version)) ++ pyStr "\n") =
        .ok (some version)
  | .regex text found pieces =>
    P.readFieldText f (found.replaced text pieces).universalNewlines = .ok (some version)

variable {P} {f : VersionField} {version text raw : PyStr} {e : Edit}

theorem loadDict_eq_ok {data : List (PyStr × Value)} :
    P.loadDict text = .ok data ↔ JsonText.loads P.floats text = some (.obj data) := by
  unfold loadDict
  constructor
  · intro h
    split at h
    · cases h
    · next data' hloads =>
      cases h
      exact hloads
    · cases h
  · intro h
    rw [h]

theorem edit_eq_json (hjson : f.isJson = true) :
    P.edit f version text = some e ↔
      ∃ data key old, JsonText.loads P.floats text = some (.obj data) ∧ f.key = some key ∧
        JsonText.lookup data key = some (.str old) ∧ e = .json data key := by
  unfold edit
  rw [if_pos hjson]
  constructor
  · intro h
    split at h
    · next data key hloads hkey =>
      split at h
      · next old hold =>
        cases h
        exact ⟨data, key, old, hloads, hkey, hold, rfl⟩
      · cases h
    · cases h
  · rintro ⟨data, key, old, hloads, hkey, hold, rfl⟩
    simp only [hloads, hkey, hold]

theorem edit_eq_regex (hregex : ¬ f.isJson = true) :
    P.edit f version text = some e ↔
      ∃ pattern replacement pieces found, P.compile (orEmpty f.pattern) = some pattern ∧
        Format.format P.formatField (pyStr "version") version (orEmpty f.template) =
          some replacement ∧
        pattern.parseTemplate replacement = some pieces ∧ pattern.finditer text = [found] ∧
        e = .regex text found pieces := by
  unfold edit
  rw [if_neg hregex]
  simp only [Option.bind_eq_some_iff]
  constructor
  · rintro ⟨pattern, hpattern, replacement, hreplacement, pieces, hpieces, h⟩
    split at h
    · next found hfound =>
      cases h
      exact ⟨pattern, replacement, pieces, found, hpattern, hreplacement, hpieces, hfound, rfl⟩
    · cases h
  · rintro ⟨pattern, replacement, pieces, found, hpattern, hreplacement, hpieces, hfound, rfl⟩
    refine ⟨pattern, hpattern, replacement, hreplacement, pieces, hpieces, ?_⟩
    rw [hfound]

theorem replaceOne_eq_ok {pattern replacement label new : PyStr} :
    P.replaceOne text pattern replacement label = .ok new ↔
      ∃ compiled, P.compile pattern = some compiled ∧
        compiled.subn replacement text = some (new, 1) := by
  unfold replaceOne
  constructor
  · intro h
    split at h
    · cases h
    · next updated hupdated =>
      obtain ⟨compiled, hcompiled, hsubn⟩ := Option.bind_eq_some_iff.mp hupdated
      split at h
      · next hone =>
        cases h
        rw [← hone]
        exact ⟨compiled, hcompiled, hsubn⟩
      · cases h
  · rintro ⟨compiled, hcompiled, hsubn⟩
    rw [hcompiled, Option.bind_some, hsubn]
    rfl

/-- A field is rendered if and only if the text has its edit. -/
theorem renderField_eq_ok {new : PyStr} :
    P.renderField f version text = .ok new ↔
      ∃ e, P.edit f version text = some e ∧ e.text version = new := by
  by_cases hjson : f.isJson = true
  · unfold renderField
    rw [if_pos hjson]
    simp only [edit_eq_json hjson, bind_eq_ok, loadDict_eq_ok]
    constructor
    · rintro ⟨data, hloads, h⟩
      split at h
      · next key old hkey hold =>
        cases h
        rw [hkey] at hold
        unfold getStr at hold
        split at hold
        · next old' hlookup =>
          exact ⟨_, ⟨data, key, old', hloads, hkey, hlookup, rfl⟩, rfl⟩
        · cases hold
      · cases h
    · rintro ⟨_, ⟨data, key, old, hloads, hkey, hold, rfl⟩, rfl⟩
      refine ⟨data, hloads, ?_⟩
      have hget : getStr data f.key = some old := by
        unfold getStr
        rw [hkey, Option.bind_some, hold]
      rw [hget, hkey]
      rfl
  · unfold renderField
    rw [if_neg hjson]
    simp only [edit_eq_regex hjson]
    constructor
    · intro h
      split at h
      · cases h
      · next replacement hreplacement =>
        obtain ⟨pattern, hpattern, hsubn⟩ := replaceOne_eq_ok.mp h
        obtain ⟨pieces, found, hpieces, hfound, rfl⟩ := Regex.subn_eq_some_one.mp hsubn
        exact ⟨_, ⟨pattern, replacement, pieces, found, hpattern, hreplacement, hpieces, hfound,
          rfl⟩, rfl⟩
    · rintro ⟨_, ⟨pattern, replacement, pieces, found, hpattern, hreplacement, hpieces, hfound,
        rfl⟩, rfl⟩
      rw [hreplacement]
      exact replaceOne_eq_ok.mpr ⟨pattern, hpattern,
        Regex.subn_eq_some_one.mpr ⟨pieces, found, hpieces, hfound, rfl⟩⟩

/-! ## The new text -/

/-- A `dict` that was loaded can be written with the version. -/
theorem loadable_setVersionAt {data : List (PyStr × Value)}
    (h : JsonText.loads P.floats text = some (.obj data)) (key version : PyStr) :
    JsonText.Loadable P.floats (.obj (setVersionAt data key version)) :=
  (JsonText.loadable_of_loads h).set key (.str version)

theorem lookup_setVersionAt (data : List (PyStr × Value)) (key key' version : PyStr) :
    JsonText.lookup (setVersionAt data key version) key' =
      if key' = key then some (.str version) else JsonText.lookup data key' :=
  Dict.find?_setEntries data key key' (.str version)

/-- The new text can be encoded if and only if nothing in it is a lone surrogate. -/
theorem exists_encode_text (h : P.edit f version text = some e) (htext : text.Scalar) :
    (∃ bytes, (e.text version).encode = some bytes) ↔ e.Encodes version := by
  rw [PyStr.exists_encode]
  by_cases hjson : f.isJson = true
  · obtain ⟨data, key, old, hloads, -, -, rfl⟩ := (edit_eq_json hjson).mp h
    have hscalar := JsonText.scalar_dumps (loadable_setVersionAt hloads key version)
    rw [Edit.Encodes, ← hscalar, Edit.text]
    unfold PyStr.Scalar
    rw [List.forall_mem_append]
    exact and_iff_left (by decide)
  · obtain ⟨pattern, replacement, pieces, found, -, -, -, -, rfl⟩ := (edit_eq_regex hjson).mp h
    exact Regex.Match.scalar_replaced htext pieces

/-- What a JSON edit writes has no carriage return. -/
theorem universalNewlines_dumps {data : List (PyStr × Value)}
    (h : JsonText.Loadable P.floats (.obj data)) :
    (JsonText.dumps (.obj data) ++ pyStr "\n").universalNewlines =
      JsonText.dumps (.obj data) ++ pyStr "\n" := by
  refine PyStr.universalNewlines_eq_self ?_
  rw [List.mem_append, not_or]
  exact ⟨JsonText.notMem_dumps h, by decide⟩

/-- A file has the new text already if and only if writing it changes nothing. -/
theorem restates_iff (h : P.edit f version raw.universalNewlines = some e) :
    e.Restates version raw ↔ e.text version = raw := by
  by_cases hjson : f.isJson = true
  · obtain ⟨data, key, old, hloads, -, -, rfl⟩ := (edit_eq_json hjson).mp h
    have hnew := loadable_setVersionAt hloads key version
    rw [Edit.Restates, Edit.text]
    constructor
    · rintro ⟨hlookup, rfl⟩
      cases JsonText.loadable_of_loads hloads with
      | obj hkeys _ =>
        have hsame : (⟨data, hkeys⟩ : Dict PyStr Value).set key (.str version) = ⟨data, hkeys⟩ :=
          Dict.set_eq_self hlookup
        have hdata : setVersionAt data key version = data := congrArg Dict.entries hsame
        rw [hdata]
    · rintro rfl
      -- the file is what was written, so it is read as the `dict` with the version
      rw [universalNewlines_dumps hnew] at hloads
      have hdata : setVersionAt data key version = data := by
        have hread := JsonText.loads_dumps hnew
        have hsame := Option.some.inj (hread.symm.trans hloads)
        injection hsame
      refine ⟨?_, ?_⟩
      · rw [← hdata, lookup_setVersionAt, if_pos rfl]
      · rw [hdata]
  · obtain ⟨pattern, replacement, pieces, found, -, -, -, -, rfl⟩ := (edit_eq_regex hjson).mp h
    exact eq_comm

/-- `"<missing>"` is no version. -/
theorem ne_missing (h : parseCalver version ≠ none) : version ≠ missing := by
  rintro rfl
  exact h (by decide)

/-- Which field reads the version in the new text. -/
theorem shows_iff (hversion : parseCalver version ≠ none) {g : VersionField}
    (h : P.edit g version text = some e) :
    P.Shows f version e ↔
      P.readFieldText f (e.text version).universalNewlines = .ok (some version) := by
  by_cases hjson : g.isJson = true
  · obtain ⟨data, key, old, hloads, -, -, rfl⟩ := (edit_eq_json hjson).mp h
    have hnew := loadable_setVersionAt hloads key version
    rw [Shows, Edit.text, universalNewlines_dumps hnew]
    -- a JSON field reads the `dict` that was written, a regex field its text
    by_cases hf : f.isJson = true
    · have hread : P.loadDict (JsonText.dumps (.obj (setVersionAt data key version)) ++
          pyStr "\n") = .ok (setVersionAt data key version) :=
        loadDict_eq_ok.mpr (JsonText.loads_dumps hnew)
      unfold readFieldText
      rw [if_pos hf, if_pos hf, hread]
      simp only [Except.map, Except.ok.injEq, Option.some.injEq]
      cases hkey : f.key with
      | none => simp [getStr, (ne_missing hversion).symm]
      | some key' =>
        by_cases hsame : key' = key
        · simp [getStr, lookup_setVersionAt, hsame]
        · have hget : getStr (setVersionAt data key version) (some key') =
              getStr data (some key') := by
            unfold getStr
            rw [Option.bind_some, Option.bind_some, lookup_setVersionAt, if_neg hsame]
          rw [hget]
          cases hold : getStr data (some key') with
          | none => simp [hsame, (ne_missing hversion).symm]
          | some old' => simp [hsame]
    · rw [if_neg hf]
  · obtain ⟨pattern, replacement, pieces, found, -, -, -, -, rfl⟩ := (edit_eq_regex hjson).mp h
    rfl

end Python
end Release
end CastDelivery
