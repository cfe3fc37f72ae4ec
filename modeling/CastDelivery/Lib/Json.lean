import Mathlib.Data.Rat.Defs

/-!
# JSON values

The values that Python's `json` reads and writes: `None`, booleans, numbers, strings, lists, and
dictionaries with string keys in insertion order. `redact` hides the values of some keys at any
depth; `field_redact` and `items_redact` read the rest back.
-/

namespace CastDelivery

inductive Json
  | null
  | bool (value : Bool)
  | num (value : ℚ)
  | str (value : String)
  | arr (items : List Json)
  | obj (fields : List (String × Json))
deriving Inhabited

namespace Json

/-- Truthiness. -/
def truthy : Json → Bool
  | null => false
  | bool value => value
  | num value => value ≠ 0
  | str value => value ≠ ""
  | arr items => !items.isEmpty
  | obj fields => !fields.isEmpty

/-- An optional value, with `None` for a missing one. -/
def ofOption {α : Type*} (f : α → Json) : Option α → Json
  | none => null
  | some a => f a

/-! ## Redaction -/

mutual

/-- The values of the listed keys are replaced, at any depth. -/
def redact (keys : List String) : Json → Json
  | null => null
  | bool value => bool value
  | num value => num value
  | str value => str value
  | arr items => arr (redactItems keys items)
  | obj fields => obj (redactFields keys fields)

def redactItems (keys : List String) : List Json → List Json
  | [] => []
  | item :: items => redact keys item :: redactItems keys items

def redactFields (keys : List String) : List (String × Json) → List (String × Json)
  | [] => []
  | field :: fields => redactField keys field :: redactFields keys fields

def redactField (keys : List String) : String × Json → String × Json
  | (key, value) => (key, if key ∈ keys then str "**REDACTED**" else redact keys value)

end

variable {keys : List String}

theorem redactItems_eq (items : List Json) : redactItems keys items = items.map (redact keys) := by
  induction items with
  | nil => rfl
  | cons item items ih => rw [redactItems, ih, List.map_cons]

/-- The value of a key, `None` if it is missing. -/
def field (key : String) : Json → Json
  | obj fields => (fields.lookup key).getD null
  | _ => null

/-- The items of a list. -/
def items : Json → List Json
  | arr items => items
  | _ => []

@[simp] theorem items_arr (items : List Json) : (arr items).items = items := rfl

@[simp] theorem items_redact (json : Json) :
    (json.redact keys).items = json.items.map (redact keys) := by
  cases json with
  | arr items => exact redactItems_eq items
  | _ => rfl

theorem lookup_redactFields {key : String} (hkey : key ∉ keys) (fields : List (String × Json)) :
    (redactFields keys fields).lookup key = (fields.lookup key).map (redact keys) := by
  induction fields with
  | nil => rfl
  | cons entry fields ih =>
    obtain ⟨key', value⟩ := entry
    simp only [redactFields, redactField, List.lookup_cons]
    by_cases h : key = key'
    · subst h
      simp [hkey]
    · rw [beq_false_of_ne h]
      exact ih

/-- A key that is not listed keeps its value, redacted inside. -/
theorem field_redact {key : String} (hkey : key ∉ keys) (json : Json) :
    (json.redact keys).field key = (json.field key).redact keys := by
  cases json with
  | obj fields =>
    show ((redactFields keys fields).lookup key).getD null
      = ((fields.lookup key).getD null).redact keys
    rw [lookup_redactFields hkey]
    cases fields.lookup key <;> rfl
  | _ => rfl

end Json
end CastDelivery
