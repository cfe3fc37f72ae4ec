import CastDelivery.Lib.PyStr

/-!
# Regular expressions

`re.search` and `re.subn` of Python, behind the matcher: a compiled pattern is its matches in every
text, and what the two functions make of these follows the documentation, templates of replacements
included.
-/

namespace CastDelivery
namespace Regex

/-- A place in a text. -/
structure Span where
  start : ℕ
  stop : ℕ
  ordered : start ≤ stop
deriving DecidableEq

/-- The text at a place. -/
def Span.text (span : Span) (text : PyStr) : PyStr := (text.take span.stop).drop span.start

/-- `re.Match`: its place, and the places of its groups as far as they have a part in it. -/
structure Match where
  span : Span
  groups : List (Option Span)
deriving DecidableEq

/-- `group(index)`, which is `None` for a group without a part in the match. -/
def Match.group (found : Match) (text : PyStr) (index : ℕ) : Option PyStr :=
  if index = 0 then some (found.span.text text)
  else found.groups[index - 1]?.join.map fun span => span.text text

/-- `re.Pattern`. -/
structure Pattern where
  /-- The number of its groups. -/
  groups : ℕ
  groupindex : List (PyStr × ℕ)
  /-- The matches in a text, from its front to its end. -/
  finditer : PyStr → List Match
  inside : ∀ text, ∀ found ∈ finditer text, found.span.stop ≤ text.length
  separate : ∀ text, (finditer text).Pairwise fun a b => a.span.stop ≤ b.span.start

/-! ## Templates -/

/-- A part of a template. -/
inductive Piece
  | literal (c : ℕ)
  | group (index : ℕ)
deriving DecidableEq

/-- `OCTDIGITS`. -/
def isOctDigit (c : ℕ) : Bool := 48 ≤ c && c ≤ 55

/-- `ASCIILETTERS`. -/
def isAsciiLetter (c : ℕ) : Bool := 65 ≤ c && c ≤ 90 || 97 ≤ c && c ≤ 122

/-- `ESCAPES`. -/
def escapes : List (ℕ × ℕ) :=
  [(97, 7), (98, 8), (102, 12), (110, 10), (114, 13), (116, 9), (118, 11), (92, 92)]

/-- A line of digits that the text begins with, no longer than a bound, and the rest. -/
def scanDigits (digit : ℕ → Bool) (bound : ℕ) (text : PyStr) : PyStr × PyStr :=
  (text.takeWhile digit |>.take bound, text.drop (text.takeWhile digit |>.take bound).length)

namespace Pattern

variable (pattern : Pattern)

/-- `addgroup`. -/
def addGroup (index : ℕ) : Option Piece :=
  if index ≤ pattern.groups then some (.group index) else none

/-- The group of a name or a number in `\g<name>`. -/
def namedGroup (name : PyStr) : Option Piece :=
  if name ≠ [] ∧ name.all isDigit then pattern.addGroup (PyStr.number 10 name)
  else (pattern.groupindex.lookup name).map .group

/-- What an escape stands for, behind its backslash, and the rest. -/
def scanEscape (c : ℕ) (text : PyStr) : Option (List Piece × PyStr) :=
  if c = 103 then
    match text with
    | [] => none
    | open' :: text =>
      if open' = 60 ∧ 62 ∈ text then
        (pattern.namedGroup (text.takeWhile (· ≠ 62))).map fun piece =>
          ([piece], (text.dropWhile (· ≠ 62)).tail)
      else none
  else if c = 48 then
    some ([.literal (PyStr.number 8 (scanDigits isOctDigit 2 text).1)],
      (scanDigits isOctDigit 2 text).2)
  else if isDigit c then
    -- three octal digits are a character, anything shorter is a group
    if isOctDigit c ∧ (scanDigits isOctDigit 2 text).1.length = 2 then
      if PyStr.number 8 (c :: (scanDigits isOctDigit 2 text).1) ≤ 0o377 then
        some ([.literal (PyStr.number 8 (c :: (scanDigits isOctDigit 2 text).1))],
          (scanDigits isOctDigit 2 text).2)
      else none
    else
      (pattern.addGroup (PyStr.number 10 (c :: (scanDigits isDigit 1 text).1))).map fun piece =>
        ([piece], (scanDigits isDigit 1 text).2)
  else
    match escapes.lookup c with
    | some char => some ([.literal char], text)
    | none => if isAsciiLetter c then none else some ([.literal 92, .literal c], text)

/-- `parse_template`. Every turn takes a character of the template, so that its length is enough
`fuel`. -/
def parse : ℕ → PyStr → Option (List Piece)
  | _, [] => some []
  | 0, _ :: _ => none
  | fuel + 1, c :: text =>
    if c ≠ 92 then (parse fuel text).map (.literal c :: ·)
    else
      match text with
      | [] => none
      | e :: text =>
        (pattern.scanEscape e text).bind fun result =>
          (parse fuel result.2).map (result.1 ++ ·)

/-- The parts of a template, unless `re` raises an exception for it. -/
def parseTemplate (template : PyStr) : Option (List Piece) :=
  pattern.parse template.length template

end Pattern

/-- `expand`. -/
def Match.expand (found : Match) (text : PyStr) (pieces : List Piece) : PyStr :=
  pieces.flatMap fun piece =>
    match piece with
    | .literal c => [c]
    | .group index => (found.group text index).getD []

/-- The text from a position on, with its matches replaced. -/
def replace (text : PyStr) (pieces : List Piece) : ℕ → List Match → PyStr
  | position, [] => text.drop position
  | position, found :: later =>
    (text.take found.span.start).drop position ++
      (found.expand text pieces ++ replace text pieces found.span.stop later)

/-- `re.subn`, unless it raises an exception for the template. -/
def Pattern.subn (pattern : Pattern) (template text : PyStr) : Option (PyStr × ℕ) :=
  (pattern.parseTemplate template).map fun pieces =>
    (replace text pieces 0 (pattern.finditer text), (pattern.finditer text).length)

/-- `re.search`. -/
def Pattern.search (pattern : Pattern) (text : PyStr) : Option Match :=
  (pattern.finditer text).head?

/-! ## A single match -/

/-- The text with one match replaced. -/
def Match.replaced (found : Match) (text : PyStr) (pieces : List Piece) : PyStr :=
  text.take found.span.start ++ (found.expand text pieces ++ text.drop found.span.stop)

/-- A pattern that matches once is replaced there. -/
theorem subn_eq_some_one {pattern : Pattern} {template text updated : PyStr} :
    pattern.subn template text = some (updated, 1) ↔
      ∃ pieces found, pattern.parseTemplate template = some pieces ∧
        pattern.finditer text = [found] ∧ found.replaced text pieces = updated := by
  unfold Pattern.subn
  rw [Option.map_eq_some_iff]
  constructor
  · rintro ⟨pieces, hpieces, heq⟩
    obtain ⟨hupdated, hone⟩ := Prod.mk.inj heq
    obtain ⟨found, hfound⟩ := List.length_eq_one_iff.mp hone
    rw [hfound] at hupdated
    exact ⟨pieces, found, hpieces, hfound, hupdated⟩
  · rintro ⟨pieces, found, hpieces, hfound, rfl⟩
    refine ⟨pieces, hpieces, ?_⟩
    rw [hfound]
    rfl

/-- What is replaced without lone surrogates has none but those of the expansion. -/
theorem Match.scalar_replaced {found : Match} {text : PyStr} (htext : text.Scalar)
    (pieces : List Piece) :
    (found.replaced text pieces).Scalar ↔ (found.expand text pieces).Scalar := by
  unfold Match.replaced PyStr.Scalar
  simp only [List.forall_mem_append]
  constructor
  · exact fun h => h.2.1
  · intro h
    exact ⟨fun c hc => htext c (List.mem_of_mem_take hc), h,
      fun c hc => htext c (List.mem_of_mem_drop hc)⟩

end Regex
end CastDelivery
