import CastDelivery.Lib.Dict
import CastDelivery.Lib.Uri

/-!
# Configuration files

Python's `configparser.ConfigParser`, with its default settings, on lists of characters. `read` is
`read_string`: sections, options with `=` or `:`, comments on lines of their own, values that are
continued on indented lines, and no section or option twice. `get` reads a value with
`BasicInterpolation`: `%(name)s` stands for another value and `%%` for a percent sign.
-/

namespace CastDelivery
namespace ConfigParser

/-- What a parser takes from its surroundings. -/
structure Rules where
  /-- Whether a character is a space. -/
  isSpace : Char → Bool
  /-- `optionxform`, which options are compared by. -/
  optionxform : List Char → List Char

/-- The sections that were read, and the values that stand in for missing ones. -/
structure Config where
  sections : Dict (List Char) (Dict (List Char) (List Char))
  defaults : Dict (List Char) (List Char)

/-- The exceptions that reading raises. -/
inductive ReadError
  | missingSectionHeader
  | duplicateSection
  | duplicateOption
  | parsing
deriving DecidableEq, Repr

/-- `DEFAULTSECT`. -/
def DEFAULTSECT : List Char := "DEFAULT".toList

/-- `MAX_INTERPOLATION_DEPTH`. -/
def MAX_INTERPOLATION_DEPTH : ℕ := 10

variable (R : Rules)

/-- `text.rstrip()`. -/
def rstrip (s : List Char) : List Char := (s.reverse.dropWhile R.isSpace).reverse

/-- `text.strip()`. -/
def strip (s : List Char) : List Char := rstrip R (s.dropWhile R.isSpace)

/-! ## Reading -/

/-- The lines of a text, behind the characters `acc` of the first of them. -/
def lines (acc : List Char) : List Char → List (List Char)
  | [] => if acc = [] then [] else [acc.reverse]
  | c :: s => if c = '\n' then acc.reverse :: lines [] s else lines (c :: acc) s

/-- What has been read so far. -/
structure Reading where
  sections : Dict (List Char) (Dict (List Char) (List (List Char))) := ∅
  defaults : Dict (List Char) (List (List Char)) := ∅
  /-- `sectname`, where there is a section. -/
  sectname : Option (List Char) := none
  /-- `optname`. -/
  optname : Option (List Char) := none
  indentLevel : ℕ := 0
  /-- The options in `elements_added`. -/
  added : List (List Char × List Char) := []
  /-- A line could not be parsed. -/
  bogus : Bool := false

namespace Reading

/-- `cursect`, with `f` applied to it. -/
def modify (reading : Reading) (sectname : List Char)
    (f : Dict (List Char) (List (List Char)) → Dict (List Char) (List (List Char))) : Reading :=
  if sectname = DEFAULTSECT then { reading with defaults := f reading.defaults }
  else
    { reading with
      sections := reading.sections.set sectname
        (f ((reading.sections.get? sectname).getD ∅)) }

/-- The section and the option that a continuation line belongs to. -/
def current (reading : Reading) : Option (List Char × List Char) :=
  match reading.sectname, reading.optname with
  | some sectname, some optname => if optname = [] then none else some (sectname, optname)
  | _, _ => none

/-- `cursect[optname].append(value)`. -/
def append (reading : Reading) (place : List Char × List Char) (value : List Char) : Reading :=
  reading.modify place.1 fun options =>
    options.set place.2 ((options.get? place.2).getD [] ++ [value])

/-- A line that opens a section. -/
def openSection (reading : Reading) (sectname : List Char) : Except ReadError Reading :=
  if (reading.sections.get? sectname).isSome then .error .duplicateSection
  else .ok
    { reading.modify sectname id with
      sectname := some sectname
      optname := none }

/-- A line that sets an option. -/
def setOption (reading : Reading) (sectname option value : List Char) : Except ReadError Reading :=
  let optname := R.optionxform (rstrip R option)
  if (sectname, optname) ∈ reading.added then .error .duplicateOption
  else .ok
    { reading.modify sectname fun options => options.set optname [strip R value] with
      optname := some optname
      added := (sectname, optname) :: reading.added
      bogus := reading.bogus || option = [] }

end Reading

/-- `SECTCRE.match(value)`: the text up to the last bracket. -/
def header : List Char → Option (List Char)
  | '[' :: s =>
    match (Uri.cutLast ']' s).1 with
    | some name => if name = [] then none else some name
    | none => none
  | _ => none

/-- Whether a character is a delimiter of an option. -/
def isDelimiter (c : Char) : Bool := c = '=' || c = ':'

/-- `OPTCRE.match(value)`: the option and the value around the first delimiter. -/
def optionLine (value : List Char) : Option (List Char × List Char) :=
  match value.dropWhile fun c => !isDelimiter c with
  | _ :: rest => some (rstrip R (value.takeWhile fun c => !isDelimiter c), rest)
  | [] => none

/-- One turn of the loop in `_read`. -/
def readLine (reading : Reading) (line : List Char) : Except ReadError Reading :=
  let value := strip R line
  if value.head? = some '#' ∨ value.head? = some ';' then .ok reading
  else if value = [] then
    match reading.current with
    | some place => .ok (reading.append place [])
    | none => .ok reading
  else
    let curIndentLevel := (line.takeWhile R.isSpace).length
    match reading.current, decide (reading.indentLevel < curIndentLevel) with
    | some place, true => .ok (reading.append place value)
    | _, _ =>
      let reading := { reading with indentLevel := curIndentLevel }
      match header value, reading.sectname, optionLine R value with
      | some sectname, _, _ => reading.openSection sectname
      | none, none, _ => .error .missingSectionHeader
      | none, some sectname, some (option, value) => reading.setOption R sectname option value
      | none, some _, none => .ok { reading with bogus := true }

/-- The lines of a value, joined. -/
def joinLines (values : List (List Char)) : List Char :=
  rstrip R (['\n'].intercalate values)

/-- `read_string(text)`. -/
def read (text : List Char) : Except ReadError Config :=
  ((lines [] text).foldlM (readLine R) ({} : Reading)).bind fun reading =>
    if reading.bogus then .error .parsing
    else .ok
      { sections := ⟨reading.sections.entries.map fun e =>
          (e.1, ⟨e.2.entries.map fun o => (o.1, joinLines R o.2), by
            rw [List.map_map]
            exact e.2.nodup⟩), by
          rw [List.map_map]
          exact reading.sections.nodup⟩
        defaults := ⟨reading.defaults.entries.map fun o => (o.1, joinLines R o.2), by
          rw [List.map_map]
          exact reading.defaults.nodup⟩ }

/-! ## Interpolation -/

/-- A character of a value, or a reference to another value. -/
inductive Token
  | char (c : Char)
  | reference (name : List Char)
deriving DecidableEq, Repr

/-- Where in a value a character stands. -/
inductive Place
  | text
  /-- Behind a percent sign. -/
  | percent
  /-- In the parentheses of a reference, behind the characters of `name`. -/
  | name (name : List Char)
  /-- Behind the parentheses of a reference. -/
  | closed (name : List Char)

/-- The tokens of a value, unless its syntax is bad. -/
def tokens : Place → List Char → Option (List Token)
  | .text, [] => some []
  | .text, c :: s => if c = '%' then tokens .percent s else (tokens .text s).map (.char c :: ·)
  | .percent, c :: s =>
    if c = '%' then (tokens .text s).map (.char c :: ·)
    else if c = '(' then tokens (.name []) s
    else none
  | .name name, c :: s =>
    if c = ')' then if name = [] then none else tokens (.closed name) s
    else tokens (.name (name ++ [c])) s
  | .closed name, c :: s =>
    if c = 's' then (tokens .text s).map (.reference name :: ·) else none
  | _, [] => none

/-- What a token stands for, where `inner` expands a value that has a percent sign. -/
def expand (values inner : List Char → Option (List Char)) : Token → Option (List Char)
  | .char c => some [c]
  | .reference name =>
    (values (R.optionxform name)).bind fun value => if '%' ∈ value then inner value else some value

/-- `_interpolate_some`, with as many levels left as the number says, unless it raises. -/
def interpolate (values : List Char → Option (List Char)) : ℕ → List Char → Option (List Char)
  | 0, _ => none
  | depth + 1, value =>
    (tokens .text value).bind fun ts =>
      (ts.mapM (expand R values (interpolate values depth))).map List.flatten

/-! ## Access -/

namespace Config

variable (config : Config)

/-- `section in parser`. -/
def hasSection (sectname : List Char) : Bool :=
  sectname = DEFAULTSECT || (config.sections.get? sectname).isSome

/-- What is stored for an option of a section, or else as its default. -/
def stored (sectname optname : List Char) : Option (List Char) :=
  ((config.sections.get? sectname).bind (·.get? optname)).or (config.defaults.get? optname)

/-- `parser.has_option(section, option)`, for a section that is there. -/
def hasOption (sectname option : List Char) : Bool :=
  (config.stored sectname (R.optionxform option)).isSome

/-- How `parser.get` ends. -/
inductive Access
  /-- `NoOptionError`. -/
  | missing
  /-- `InterpolationError`. -/
  | failed
  | value (text : List Char)
deriving DecidableEq, Repr

/-- `parser.get(section, option)`, for a section that is there. -/
def get (sectname option : List Char) : Access :=
  match config.stored sectname (R.optionxform option) with
  | none => .missing
  | some value =>
    match interpolate R (config.stored sectname) MAX_INTERPOLATION_DEPTH value with
    | none => .failed
    | some text => .value text

/-- An option that is there is read, or its interpolation fails. -/
theorem get_ne_missing {sectname option : List Char}
    (h : config.hasOption R sectname option = true) : config.get R sectname option ≠ .missing := by
  unfold hasOption at h
  unfold get
  obtain ⟨value, hvalue⟩ := Option.isSome_iff_exists.mp h
  rw [hvalue]
  simp only
  cases interpolate R (config.stored sectname) MAX_INTERPOLATION_DEPTH value with
  | none => exact nofun
  | some text => exact nofun

end Config

end ConfigParser
end CastDelivery
