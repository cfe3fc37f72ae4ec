import CastDelivery.Lib.Format
import CastDelivery.Lib.JsonText
import CastDelivery.Lib.Regex
import CastDelivery.Release.Calver
import Mathlib.Data.List.Dedup
import Mathlib.Logic.Function.Basic

/-!
# The release scripts

`release_config.py` and `set_version` of `set_version.py`: the version fields of a release, what
they read in the files, and the one writer of them. The functions of Python that the scripts call
and the paths of the file system are parameters.
-/

namespace CastDelivery
namespace Release

/-- An exception. -/
inductive ReleaseExc
  | valueError (message : PyStr)
  /-- Another class, or a `ValueError` of a called function; `Exception` is any. -/
  | other (cls : String)
deriving DecidableEq, Repr

/-! ## The configuration -/

/-- `VersionField`. -/
structure VersionField where
  path : PyStr
  kind : PyStr
  key : Option PyStr := none
  pattern : Option PyStr := none
  template : Option PyStr := none
deriving DecidableEq, Repr

/-- `text or ""`. -/
def orEmpty (text : Option PyStr) : PyStr := text.getD []

namespace VersionField

def isJson (f : VersionField) : Bool := f.kind = pyStr "json"

/-- What `load` raises for a field. -/
def complaint (f : VersionField) : Option PyStr :=
  if f.kind = pyStr "json" ∧ orEmpty f.key = [] then
    some (pyStr "json field " ++ f.path ++ pyStr " needs a key")
  else if f.kind = pyStr "regex" ∧ (orEmpty f.pattern = [] ∨ orEmpty f.template = []) then
    some (pyStr "regex field " ++ f.path ++ pyStr " needs pattern and template")
  else if f.kind ∉ [pyStr "json", pyStr "regex"] then some (pyStr "unknown field kind " ++ f.kind)
  else none

end VersionField

/-- `ReleaseConfig`, as far as the versions need it: what `load` has checked. -/
structure ReleaseConfig (Path : Type*) where
  repository : Path
  versionFields : List VersionField
  nonempty : versionFields ≠ []
  checked : versionFields.findSome? VersionField.complaint = none

/-- `load`, once `.release.json` is parsed. -/
def load {Path : Type*} (repository : Path) (fields : List VersionField) :
    Except ReleaseExc (ReleaseConfig Path) :=
  if hempty : fields = [] then
    .error (.valueError (pyStr ".release.json must list at least one version field"))
  else
    match hchecked : fields.findSome? VersionField.complaint with
    | some message => .error (.valueError message)
    | none => .ok ⟨repository, fields, hempty, hchecked⟩

/-! ## Python -/

/-- Where the paths of a configuration lead, and what of Python's library is not a definition here:
what `json` writes for floating-point numbers, which matches a regular expression has, and the
replacement fields that are more than `{version}`. -/
structure Python (Path File : Type*) where
  /-- `directory / path`. -/
  join : Path → PyStr → Path
  /-- The file at a path. -/
  locate : Path → File
  floats : JsonText.FloatRepr
  /-- `re.compile(pattern, re.MULTILINE)`, unless it raises an exception. -/
  compile : PyStr → Option Regex.Pattern
  formatField : Format.Field → PyStr → Option PyStr

/-- The bytes of the files that are there. -/
abbrev Files (File : Type*) := File → Option (List UInt8)

namespace Python

variable {Path File : Type*} (P : Python Path File)

/-- `(repository / path).read_text(encoding="utf-8")`. -/
def readText (repository : Path) (path : PyStr) (files : Files File) : Except ReleaseExc PyStr :=
  match files (P.locate (P.join repository path)) with
  | none => .error (.other "FileNotFoundError")
  | some bytes =>
    match PyStr.decode bytes with
    | none => .error (.other "UnicodeDecodeError")
    | some text => .ok text.universalNewlines

/-- `json.loads(text)`, on which `get` is called. -/
def loadDict (text : PyStr) : Except ReleaseExc (List (PyStr × JsonText.Value)) :=
  match JsonText.loads P.floats text with
  | none => .error (.other "JSONDecodeError")
  | some (.obj data) => .ok data
  | some _ => .error (.other "AttributeError")

/-! ## Reading -/

/-- `"<missing>"`. -/
def missing : PyStr := pyStr "<missing>"

/-- `data.get(key)`, if it is a `str`. -/
def getStr (data : List (PyStr × JsonText.Value)) (key : Option PyStr) : Option PyStr :=
  match key.bind (JsonText.lookup data) with
  | some (.str text) => some text
  | _ => none

/-- `match.group(1)`. -/
def group1 (pattern : Regex.Pattern) (found : Regex.Match) (text : PyStr) :
    Except ReleaseExc (Option PyStr) :=
  if 1 ≤ pattern.groups then .ok (found.group text 1) else .error (.other "IndexError")

/-- `read_field`, of the text of the file. -/
def readFieldText (f : VersionField) (text : PyStr) : Except ReleaseExc (Option PyStr) :=
  if f.isJson then
    (P.loadDict text).map fun data => some ((getStr data f.key).getD missing)
  else
    match P.compile (orEmpty f.pattern) with
    | none => .error (.other "Exception")
    | some pattern =>
      match pattern.search text with
      | none => .ok (some missing)
      | some found => group1 pattern found text

/-- `read_field`. -/
def readField (repository : Path) (f : VersionField) (files : Files File) :
    Except ReleaseExc (Option PyStr) :=
  (P.readText repository f.path files).bind (P.readFieldText f)

/-- `read_versions`. -/
def readVersions (config : ReleaseConfig Path) (files : Files File) :
    Except ReleaseExc (Dict PyStr (Option PyStr)) :=
  config.versionFields.foldlM
    (fun versions f => (P.readField config.repository f files).map (versions.set f.path)) ∅

/-- `f"{value}"`. -/
def rendered (value : Option PyStr) : PyStr := value.getD (pyStr "None")

/-- `validate_versions`. -/
def validateVersions (config : ReleaseConfig Path) (files : Files File) :
    Except ReleaseExc PyStr :=
  (P.readVersions config files).bind fun versions =>
    match versions.values.dedup with
    | [some version] =>
      if (calverFullmatch version).isSome then .ok version
      else .error (.valueError (pyStr "Invalid release version: " ++ version))
    -- `fullmatch` of `None`
    | [none] => .error (.other "TypeError")
    | _ =>
      .error (.valueError (pyStr "Component versions do not match: " ++
        (pyStr ", ").intercalate (versions.entries.map fun entry =>
          entry.1 ++ pyStr "=" ++ rendered entry.2)))

/-! ## Writing -/

/-- `_replace_one`. -/
def replaceOne (text pattern replacement label : PyStr) : Except ReleaseExc PyStr :=
  match (P.compile pattern).bind fun pattern => pattern.subn replacement text with
  | none => .error (.other "Exception")
  | some updated =>
    if updated.2 = 1 then .ok updated.1
    else .error (.valueError (pyStr "Expected exactly one " ++ label ++ pyStr "; found " ++
      pyStr (toString updated.2)))

/-- What a field has its file be, given the text of the file. -/
def renderField (f : VersionField) (version text : PyStr) : Except ReleaseExc PyStr :=
  if f.isJson then
    (P.loadDict text).bind fun data =>
      match f.key, getStr data f.key with
      | some key, some _ =>
        .ok (JsonText.dumps (.obj (Dict.setEntries data key (.str version))) ++ pyStr "\n")
      | key, _ =>
        .error (.valueError (f.path ++ pyStr " has no string " ++ rendered key))
  else
    match Format.format P.formatField (pyStr "version") version (orEmpty f.template) with
    | none => .error (.other "Exception")
    | some replacement => P.replaceOne text (orEmpty f.pattern) replacement f.path

/-- One turn of the first loop of `set_version`. -/
def fieldText (config : ReleaseConfig Path) (version : PyStr) (files : Files File)
    (f : VersionField) : Except ReleaseExc PyStr :=
  (P.readText config.repository f.path files).bind (P.renderField f version)

section

variable [DecidableEq Path] [DecidableEq File]

/-- `rendered`: the texts for the paths that are to be written. -/
def render (config : ReleaseConfig Path) (version : PyStr) (files : Files File) :
    Except ReleaseExc (Dict Path PyStr) :=
  config.versionFields.foldlM
    (fun rendered f => (P.fieldText config version files f).map
      (rendered.set (P.join config.repository f.path))) ∅

/-- The second loop of `set_version`. A file is empty before its text is encoded. -/
def writeAll : List (Path × PyStr) → Files File → Files File × Except ReleaseExc Unit
  | [], files => (files, .ok ())
  | (path, text) :: rest, files =>
    match text.encode with
    | none =>
      (Function.update files (P.locate path) (some []), .error (.other "UnicodeEncodeError"))
    | some bytes => writeAll rest (Function.update files (P.locate path) (some bytes))

/-- `set_version`, on a disk that takes every write. -/
def setVersion (config : ReleaseConfig Path) (version : PyStr) (files : Files File) :
    Files File × Except ReleaseExc Unit :=
  match parseCalver version with
  | none => (files, .error (.other "ValueError"))
  | some _ =>
    match P.render config version files with
    | .error e => (files, .error e)
    | .ok rendered =>
      match P.writeAll rendered.entries files with
      | (files', .error e) => (files', .error e)
      | (files', .ok ()) =>
        match P.validateVersions config files' with
        | .error e => (files', .error e)
        | .ok found =>
          if found = version then (files', .ok ())
          else (files',
            .error (.valueError (pyStr "Version synchronization failed after writing files")))

end

end Python
end Release
end CastDelivery
