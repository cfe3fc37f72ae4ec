import CastDelivery.Lib.Dict
import CastDelivery.Lib.PyStr

/-!
# JSON texts

`json.loads` and `json.dumps` of Python: what they make of the code points of a text, and of a
value. The writer is that of `indent=2, ensure_ascii=False`. A number is kept by the numeral that
the writer has for it, and what it has for a floating-point number is a parameter with the law that
this text is read as the same number. The nesting of values is not limited.
-/

namespace CastDelivery
namespace JsonText

/-- What `json.loads` returns. -/
inductive Value
  | null
  | bool (value : Bool)
  /-- A number, by its numeral. -/
  | number (numeral : PyStr)
  | str (text : PyStr)
  | arr (items : List Value)
  /-- A `dict`, in the order of its keys. -/
  | obj (members : List (PyStr × Value))

/-- `data.get(key)`. -/
def lookup (members : List (PyStr × Value)) (key : PyStr) : Option Value :=
  (members.find? fun member => member.1 = key).map Prod.snd

/-! ## Numerals -/

/-- `-?`. -/
def scanMinus : PyStr → PyStr × PyStr
  | [] => ([], [])
  | c :: text => if c = 45 then ([45], text) else ([], c :: text)

/-- `0|[1-9][0-9]*`. -/
def scanInt : PyStr → Option (PyStr × PyStr)
  | [] => none
  | c :: text =>
    if c = 48 then some ([48], text)
    else if isDigit c then some (c :: text.takeWhile isDigit, text.dropWhile isDigit)
    else none

/-- `(\.[0-9]+)?`. -/
def scanFraction : PyStr → PyStr × PyStr
  | [] => ([], [])
  | c :: text =>
    if c = 46 ∧ text.takeWhile isDigit ≠ [] then
      (46 :: text.takeWhile isDigit, text.dropWhile isDigit)
    else ([], c :: text)

/-- `[-+]?`. -/
def scanSign : PyStr → PyStr × PyStr
  | [] => ([], [])
  | c :: text => if c = 43 ∨ c = 45 then ([c], text) else ([], c :: text)

/-- `([eE][-+]?[0-9]+)?`. -/
def scanExponent : PyStr → PyStr × PyStr
  | [] => ([], [])
  | c :: text =>
    if (c = 101 ∨ c = 69) ∧ (scanSign text).2.takeWhile isDigit ≠ [] then
      (c :: (scanSign text).1 ++ (scanSign text).2.takeWhile isDigit,
        (scanSign text).2.dropWhile isDigit)
    else ([], c :: text)

/-- A numeral at the beginning of a text: its integer, its fraction and exponent, and the rest. -/
def scanNumeral (text : PyStr) : Option (PyStr × PyStr × PyStr) :=
  (scanInt (scanMinus text).2).map fun int =>
    ((scanMinus text).1 ++ int.1,
      (scanFraction int.2).1 ++ (scanExponent (scanFraction int.2).2).1,
      (scanExponent (scanFraction int.2).2).2)

/-- A text is the numeral of a floating-point number. -/
def IsFloat (text : PyStr) : Prop :=
  ∃ int fraction, scanNumeral text = some (int, fraction, []) ∧ fraction ≠ []

/-- What `json.dumps` writes for `float(text)`. -/
structure FloatRepr where
  repr : PyStr → PyStr
  /-- It is a numeral that is read as the same number, or the number is not finite. -/
  reads : ∀ text, IsFloat text →
    IsFloat (repr text) ∧ repr (repr text) = repr text ∨
      repr text ∈ [pyStr "Infinity", pyStr "-Infinity"]

variable (floats : FloatRepr)

/-- A number at the beginning of a text, and the rest. -/
def scanNumber (text : PyStr) : Option (Value × PyStr) :=
  (scanNumeral text).bind fun numeral =>
    if numeral.2.1 ≠ [] then
      some (.number (floats.repr (numeral.1 ++ numeral.2.1)), numeral.2.2)
    else if maxStrDigits < (scanMinus numeral.1).2.length then none
    else some (.number (if numeral.1 = [45, 48] then [48] else numeral.1), numeral.2.2)

/-- The words, and their values. -/
def words : List (PyStr × Value) :=
  [(pyStr "null", .null), (pyStr "true", .bool true), (pyStr "false", .bool false),
    (pyStr "NaN", .number (pyStr "NaN")), (pyStr "Infinity", .number (pyStr "Infinity")),
    (pyStr "-Infinity", .number (pyStr "-Infinity"))]

/-- A word at the beginning of a text, and the rest. -/
def scanWord (text : PyStr) (word : PyStr × Value) : Option (Value × PyStr) :=
  if text.take word.1.length = word.1 then some (word.2, text.drop word.1.length) else none

/-- A value other than a string, a list or a `dict`. -/
def scanScalar (text : PyStr) : Option (Value × PyStr) :=
  (scanNumber floats text).or (words.findSome? (scanWord text))

/-! ## Strings -/

/-- A hexadecimal digit. -/
def hexValue (c : ℕ) : Option ℕ :=
  if isDigit c then some (c - 48)
  else if 97 ≤ c ∧ c ≤ 102 then some (c - 87)
  else if 65 ≤ c ∧ c ≤ 70 then some (c - 55)
  else none

/-- `_decode_uXXXX`. -/
def hexValue4 (a b c d : ℕ) : Option ℕ :=
  (hexValue a).bind fun a => (hexValue b).bind fun b => (hexValue c).bind fun c =>
    (hexValue d).map fun d => 4096 * a + 256 * b + 16 * c + d

/-- `BACKSLASH`. -/
def unescape (c : ℕ) : Option ℕ :=
  if c = 34 ∨ c = 92 ∨ c = 47 then some c
  else if c = 98 then some 8
  else if c = 102 then some 12
  else if c = 110 then some 10
  else if c = 114 then some 13
  else if c = 116 then some 9
  else none

/-- A string literal behind its first quotation mark: its code points, each with whether it was
written as a number, and the rest. -/
def scanUnits : PyStr → Option (List (ℕ × Bool) × PyStr)
  | [] => none
  | c :: text =>
    if c = 34 then some ([], text)
    else if c = 92 then
      match text with
      | 117 :: a :: b :: c :: d :: text =>
        (hexValue4 a b c d).bind fun unit =>
          (scanUnits text).map fun result => ((unit, true) :: result.1, result.2)
      | e :: text =>
        (unescape e).bind fun unit =>
          (scanUnits text).map fun result => ((unit, false) :: result.1, result.2)
      | [] => none
    -- a control character
    else if c < 32 then none
    else (scanUnits text).map fun result => ((c, false) :: result.1, result.2)

/-- Two surrogates that were written as numbers are one code point. -/
def joinSurrogates : List (ℕ × Bool) → PyStr
  | [] => []
  | [unit] => [unit.1]
  | high :: low :: units =>
    if high.2 ∧ 0xD800 ≤ high.1 ∧ high.1 ≤ 0xDBFF ∧ low.2 ∧ 0xDC00 ≤ low.1 ∧ low.1 ≤ 0xDFFF then
      (0x10000 + 1024 * (high.1 - 0xD800) + (low.1 - 0xDC00)) :: joinSurrogates units
    else high.1 :: joinSurrogates (low :: units)

/-- A string literal behind its first quotation mark, and the rest. -/
def scanString (text : PyStr) : Option (PyStr × PyStr) :=
  (scanUnits text).map fun result => (joinSurrogates result.1, result.2)

/-! ## `json.loads` -/

/-- `WHITESPACE`. -/
def isBlank (c : ℕ) : Bool := c = 32 || c = 9 || c = 10 || c = 13

/-- Skip whitespace. -/
def skip (text : PyStr) : PyStr := text.dropWhile isBlank

/-- A key and its colon. -/
def scanKey : PyStr → Option (PyStr × PyStr)
  | [] => none
  | c :: text =>
    if c = 34 then
      (scanString text).bind fun key =>
        if (skip key.2).head? = some 58 then some (key.1, skip (skip key.2).tail) else none
    else none

mutual

/-- `scan_once`: a value at the beginning of a text, and the rest. Every call takes a character of
the text before the next, so that the length of the text is enough `fuel`. -/
def scanValue : ℕ → PyStr → Option (Value × PyStr)
  | 0, _ => none
  | _ + 1, [] => none
  | fuel + 1, c :: text =>
    if c = 34 then (scanString text).map fun result => (.str result.1, result.2)
    else if c = 91 then
      if (skip text).head? = some 93 then some (.arr [], (skip text).tail)
      else (scanItems fuel (skip text)).map fun result => (.arr result.1, result.2)
    else if c = 123 then
      if (skip text).head? = some 125 then some (.obj [], (skip text).tail)
      else (scanMembers fuel [] (skip text)).map fun result => (.obj result.1, result.2)
    else scanScalar floats (c :: text)

/-- The items of a list, up to its end. -/
def scanItems : ℕ → PyStr → Option (List Value × PyStr)
  | 0, _ => none
  | fuel + 1, text =>
    (scanValue fuel text).bind fun item =>
      match skip item.2 with
      | [] => none
      | c :: text =>
        if c = 93 then some ([item.1], text)
        else if c = 44 then
          (scanItems fuel (skip text)).map fun result => (item.1 :: result.1, result.2)
        else none

/-- The members of a `dict` behind those that it has, up to its end. -/
def scanMembers : ℕ → List (PyStr × Value) → PyStr → Option (List (PyStr × Value) × PyStr)
  | 0, _, _ => none
  | fuel + 1, members, text =>
    (scanKey text).bind fun key =>
      (scanValue fuel key.2).bind fun value =>
        match skip value.2 with
        | [] => none
        | c :: text =>
          if c = 125 then some (Dict.setEntries members key.1 value.1, text)
          else if c = 44 then
            scanMembers fuel (Dict.setEntries members key.1 value.1) (skip text)
          else none

end

/-- `json.loads`, unless it raises `JSONDecodeError`. -/
def loads (text : PyStr) : Option Value :=
  -- a byte order mark
  if text.head? = some 0xFEFF then none
  else
    (scanValue floats text.length (skip text)).bind fun result =>
      if skip result.2 = [] then some result.1 else none

/-! ## `json.dumps` -/

/-- A hexadecimal digit, in lower case. -/
def hexDigit (n : ℕ) : ℕ := if n < 10 then 48 + n else 87 + n

/-- `ESCAPE_DCT`. -/
def escape (c : ℕ) : PyStr :=
  if c = 34 ∨ c = 92 then [92, c]
  else if c = 8 then [92, 98]
  else if c = 12 then [92, 102]
  else if c = 10 then [92, 110]
  else if c = 13 then [92, 114]
  else if c = 9 then [92, 116]
  else if c < 32 then [92, 117, 48, 48, hexDigit (c / 16), hexDigit (c % 16)]
  else [c]

/-- `encode_basestring`. -/
def dumpString (text : PyStr) : PyStr := 34 :: (text.flatMap escape ++ [34])

/-- `newline_indent`. -/
def newline (depth : ℕ) : PyStr := 10 :: List.replicate (2 * depth) 32

mutual

/-- `json.dumps(value, indent=2, ensure_ascii=False)`, inside as many lists and `dict`s. -/
def dump (depth : ℕ) : Value → PyStr
  | .null => pyStr "null"
  | .bool true => pyStr "true"
  | .bool false => pyStr "false"
  | .number numeral => numeral
  | .str text => dumpString text
  | .arr [] => [91, 93]
  | .arr (item :: items) =>
    91 :: (newline (depth + 1) ++ (dump (depth + 1) item ++ (dumpItems (depth + 1) items ++
      (newline depth ++ [93]))))
  | .obj [] => [123, 125]
  | .obj (member :: members) =>
    123 :: (newline (depth + 1) ++ (dumpMember (depth + 1) member ++
      (dumpMembers (depth + 1) members ++ (newline depth ++ [125]))))

/-- The items behind the first one. -/
def dumpItems (depth : ℕ) : List Value → PyStr
  | [] => []
  | item :: items => 44 :: (newline depth ++ (dump depth item ++ dumpItems depth items))

def dumpMember (depth : ℕ) : PyStr × Value → PyStr
  | (key, value) => dumpString key ++ 58 :: 32 :: dump depth value

/-- The members behind the first one. -/
def dumpMembers (depth : ℕ) : List (PyStr × Value) → PyStr
  | [] => []
  | member :: members =>
    44 :: (newline depth ++ (dumpMember depth member ++ dumpMembers depth members))

end

/-- `json.dumps(value, indent=2, ensure_ascii=False)`. -/
def dumps (value : Value) : PyStr := dump 0 value

end JsonText
end CastDelivery
