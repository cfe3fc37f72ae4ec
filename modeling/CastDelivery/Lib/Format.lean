import CastDelivery.Lib.PyStr

/-!
# Format strings

`str.format` of Python, with a keyword argument of type `str`: the syntax of the template and the
replacement field of the argument's name. What a field is that asks for more of the argument, by
an attribute, an index, another conversion or a format specification, is a parameter.
-/

namespace CastDelivery
namespace Format

/-- A replacement field. -/
structure Field where
  name : PyStr
  conversion : Option ℕ
  spec : PyStr
deriving DecidableEq

/-- A part of a template. -/
inductive Piece
  | literal (c : ℕ)
  | field (field : Field)
deriving DecidableEq

/-! ## Templates -/

/-- A field name, what ends it, and the rest. Between brackets nothing ends it. -/
def scanName : Bool → PyStr → Option (PyStr × ℕ × PyStr)
  | _, [] => none
  | true, c :: text =>
    (scanName (c ≠ 93) text).map fun result => (c :: result.1, result.2)
  | false, c :: text =>
    if c = 123 then none
    else if c = 125 ∨ c = 58 ∨ c = 33 then some ([], c, text)
    else (scanName (c = 91) text).map fun result => (c :: result.1, result.2)

/-- A format specification inside as many more braces, and the rest. -/
def scanSpec : ℕ → PyStr → Option (PyStr × PyStr)
  | _, [] => none
  | depth, c :: text =>
    if c = 123 then (scanSpec (depth + 1) text).map fun result => (c :: result.1, result.2)
    else if c = 125 then
      match depth with
      | 0 => some ([], text)
      | depth + 1 => (scanSpec depth text).map fun result => (c :: result.1, result.2)
    else (scanSpec depth text).map fun result => (c :: result.1, result.2)

/-- `parse_field`, behind the brace, and the rest. -/
def scanField (text : PyStr) : Option (Field × PyStr) :=
  (scanName false text).bind fun name =>
    if name.2.1 = 125 then some (⟨name.1, none, []⟩, name.2.2)
    else if name.2.1 = 58 then
      (scanSpec 0 name.2.2).map fun spec => (⟨name.1, none, spec.1⟩, spec.2)
    else
      match name.2.2 with
      | conversion :: c :: text =>
        if c = 125 then some (⟨name.1, some conversion, []⟩, text)
        else if c = 58 then
          (scanSpec 0 text).map fun spec => (⟨name.1, some conversion, spec.1⟩, spec.2)
        else none
      | _ => none

/-- `MarkupIterator_next`. Every turn takes a character of the template, so that its length is
enough `fuel`. -/
def parse : ℕ → PyStr → Option (List Piece)
  | _, [] => some []
  | 0, _ :: _ => none
  | fuel + 1, c :: text =>
    if (c = 123 ∨ c = 125) ∧ text.head? = some c then
      (parse fuel text.tail).map (.literal c :: ·)
    else if c = 125 then none
    else if c = 123 then
      (scanField text).bind fun field => (parse fuel field.2).map (.field field.1 :: ·)
    else (parse fuel text).map (.literal c :: ·)

/-! ## Formatting -/

/-- What a part is, for an argument of a name. There are no other arguments. -/
def render (other : Field → PyStr → Option PyStr) (name value : PyStr) :
    Piece → Option PyStr
  | .literal c => some [c]
  | .field field =>
    if field.name.takeWhile (fun c => c ≠ 46 ∧ c ≠ 91) ≠ name then none
    else if field.name = name ∧ (field.conversion = none ∨ field.conversion = some 115) ∧
        field.spec = [] then
      some value
    else other field value

/-- `template.format(**{name: value})`, unless it raises an exception. -/
def format (other : Field → PyStr → Option PyStr) (name value template : PyStr) : Option PyStr :=
  (parse template.length template).bind fun pieces =>
    (pieces.mapM (render other name value)).map List.flatten

end Format
end CastDelivery
