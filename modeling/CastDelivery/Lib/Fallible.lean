import CastDelivery.Lib.Dict

/-!
# Computations that may fail

Computations with values in `Except ε`: what a sequence of them, or a loop of them, returned comes
from what each of its parts returned. A loop that sets keys of a dictionary to such values is a loop
that sets them to what the values are of: `foldlM_set`.
-/

namespace CastDelivery

variable {ε α β : Type*}

/-- A sequence returns if both of its parts do. -/
theorem bind_eq_ok {result : Except ε α} {f : α → Except ε β} {b : β} :
    result.bind f = .ok b ↔ ∃ a, result = .ok a ∧ f a = .ok b := by
  cases result with
  | error e =>
    constructor
    · intro h
      cases h
    · rintro ⟨a, ha, -⟩
      cases ha
  | ok a =>
    constructor
    · intro h
      exact ⟨a, rfl, h⟩
    · rintro ⟨a', ha, hb⟩
      cases ha
      exact hb

theorem map_eq_ok {result : Except ε α} {f : α → β} {b : β} :
    result.map f = .ok b ↔ ∃ a, result = .ok a ∧ f a = b := by
  cases result with
  | error e =>
    constructor
    · intro h
      cases h
    · rintro ⟨a, ha, -⟩
      cases ha
  | ok a =>
    constructor
    · intro h
      exact ⟨a, rfl, Except.ok.inj h⟩
    · rintro ⟨a', ha, hb⟩
      cases ha
      exact congrArg Except.ok hb

/-- A loop returns if its first turn and the loop over the rest do. -/
theorem foldlM_cons_eq_ok {step : β → α → Except ε β} {a : α} {as : List α} {s t : β} :
    (a :: as).foldlM step s = .ok t ↔ ∃ u, step s a = .ok u ∧ as.foldlM step u = .ok t := by
  rw [List.foldlM_cons]
  exact bind_eq_ok

/-- What every turn of a loop keeps, the loop keeps. -/
theorem foldlM_invariant {step : β → α → Except ε β} {P : β → Prop}
    (hstep : ∀ s a t, P s → step s a = .ok t → P t) {as : List α} {s t : β} (hs : P s)
    (h : as.foldlM step s = .ok t) : P t := by
  induction as generalizing s with
  | nil =>
    cases h
    exact hs
  | cons a as ih =>
    obtain ⟨u, hturn, hrest⟩ := foldlM_cons_eq_ok.mp h
    exact ih (hstep s a u hs hturn) hrest

/-! ## Loops that set keys -/

section

variable {κ : Type*} [DecidableEq κ] {compute : α → Except ε β} {as : List α}

/-- A loop that returned has computed every value. -/
theorem exists_of_foldlM_set {key : α → κ} {acc d : Dict κ β}
    (h : as.foldlM (fun d a => (compute a).map (d.set (key a))) acc = .ok d) :
    ∀ a ∈ as, ∃ b, compute a = .ok b := by
  induction as generalizing acc with
  | nil => exact nofun
  | cons a as ih =>
    obtain ⟨d', hturn, hrest⟩ := foldlM_cons_eq_ok.mp h
    obtain ⟨b, hb, -⟩ := map_eq_ok.mp hturn
    exact List.forall_mem_cons.mpr ⟨⟨b, hb⟩, ih hrest⟩

/-- A loop that computes every value has for every key the value of what sets it last. -/
theorem foldlM_set (key : α → κ) {value : α → β} (h : ∀ a ∈ as, compute a = .ok (value a))
    (acc : Dict κ α) :
    as.foldlM (fun d a => (compute a).map (d.set (key a))) (acc.mapValues value) =
      .ok ((as.foldl (fun d a => d.set (key a) a) acc).mapValues value) := by
  induction as generalizing acc with
  | nil => rfl
  | cons a as ih =>
    obtain ⟨ha, has⟩ := List.forall_mem_cons.mp h
    refine foldlM_cons_eq_ok.mpr ⟨(acc.mapValues value).set (key a) (value a), ?_, ?_⟩
    · rw [ha]
      rfl
    · rw [← Dict.mapValues_set]
      exact ih has (acc.set (key a) a)

end

end CastDelivery
