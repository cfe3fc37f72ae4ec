import Mathlib.Data.List.Basic
import Mathlib.Data.List.Nodup

/-!
# A slot that holds at most one request

A slot is empty or holds one request. It is opened with a request when empty, and closed,
which gives back exactly the request it held. `Path` is any sequence of these. The point is
`Path.conserved`: along a path the requests are closed in the order they were opened, and
the ones opened and not yet closed are exactly what the slot holds. Nothing is lost, and
nothing is closed twice.
-/

namespace CastDelivery
namespace Slot

variable {ρ : Type*}

/-- What happens to a slot. -/
inductive Event (ρ : Type*)
  | opened (r : ρ)
  | closed (r : ρ)
deriving DecidableEq, Repr

/-- The requests that events opened, in order. -/
def opened : List (Event ρ) → List ρ
  | [] => []
  | .opened r :: es => r :: opened es
  | .closed _ :: es => opened es

/-- The requests that events closed, in order. -/
def closed : List (Event ρ) → List ρ
  | [] => []
  | .opened _ :: es => closed es
  | .closed r :: es => r :: closed es

theorem opened_append (es fs : List (Event ρ)) : opened (es ++ fs) = opened es ++ opened fs := by
  induction es with
  | nil => rfl
  | cons e es ih => cases e <;> simp [opened, ih]

theorem closed_append (es fs : List (Event ρ)) : closed (es ++ fs) = closed es ++ closed fs := by
  induction es with
  | nil => rfl
  | cons e es ih => cases e <;> simp [closed, ih]

/-- Closing events open nothing. -/
@[simp] theorem opened_map_closed (rs : List ρ) : opened (rs.map .closed) = [] := by
  induction rs with
  | nil => rfl
  | cons r rs ih => exact ih

/-- `Path s es t`: the events `es` take the slot from `s` to `t`. -/
inductive Path : Option ρ → List (Event ρ) → Option ρ → Prop
  | nil (s : Option ρ) : Path s [] s
  | opened {r : ρ} {es : List (Event ρ)} {t : Option ρ} :
      Path (some r) es t → Path none (.opened r :: es) t
  | closed {r : ρ} {es : List (Event ρ)} {t : Option ρ} :
      Path none es t → Path (some r) (.closed r :: es) t

theorem Path.append {s t u : Option ρ} {es fs : List (Event ρ)} (h : Path s es t)
    (h' : Path t fs u) : Path s (es ++ fs) u := by
  induction h with
  | nil => exact h'
  | opened _ ih => exact .opened (ih h')
  | closed _ ih => exact .closed (ih h')

/-- **Conservation.** What the slot held at first and what was opened since is, in order,
what was closed and what the slot holds now. -/
theorem Path.conserved {s t : Option ρ} {es : List (Event ρ)} (h : Path s es t) :
    s.toList ++ Slot.opened es = Slot.closed es ++ t.toList := by
  induction h with
  | nil s => simp [Slot.opened, Slot.closed]
  | opened _ ih => simpa [Slot.opened, Slot.closed] using ih
  | closed _ ih => simpa [Slot.opened, Slot.closed] using ih

/-- From an empty slot, the requests opened are those closed and then the one held. -/
theorem Path.opened_eq {t : Option ρ} {es : List (Event ρ)} (h : Path none es t) :
    Slot.opened es = Slot.closed es ++ t.toList := by
  simpa using h.conserved

/-- The request an opened slot holds is the last one opened, and it has not been closed
before if no request is opened twice. -/
theorem Path.held {es : List (Event ρ)} {r : ρ} (h : Path none es (some r))
    (hnodup : (Slot.opened es).Nodup) :
    (Slot.opened es).getLast? = some r ∧ r ∉ Slot.closed es := by
  have heq := h.opened_eq
  refine ⟨by simp [heq], fun hr => ?_⟩
  rw [heq, Option.toList_some] at hnodup
  exact (List.nodup_append.mp hnodup).2.2 r hr r (by simp) rfl

end Slot
end CastDelivery
