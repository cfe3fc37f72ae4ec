import Mathlib.Data.List.Induction

/-!
# Runs of a step function that emits outputs

A step function `step : σ → ι → σ × List ο` moves a state on an input and emits outputs.
This file is about its finite runs and names nothing else:

* `final` and `emitted`, where a run ends and what it emitted on the way;
* `history_induction`, the rule behind every statement that relates a state to the whole
  history of inputs and outputs that led to it;
* `forall_prefix_iff`, the rule for properties of every beginning of a run;
* `Along` and `tally`, a property of every step of a run and the total of a measure over them;
* `exists_last_output`, the rule for states that are shown by the output that was emitted last;
* `noninterference`, the unwinding theorem: if inputs that are not kept change neither a
  view nor the visible outputs, and kept inputs act on the view alone, then two runs with
  the same kept inputs end in the same view and show the same outputs.
-/

namespace CastDelivery
namespace Machine

variable {σ ι ο ν : Type*} (step : σ → ι → σ × List ο)

/-- The state a run ends in. -/
def final (s : σ) : List ι → σ
  | [] => s
  | i :: is => final (step s i).1 is

/-- Everything a run emits, in order. -/
def emitted (s : σ) : List ι → List ο
  | [] => []
  | i :: is => (step s i).2 ++ emitted (step s i).1 is

@[simp] theorem final_nil (s : σ) : final step s [] = s := rfl

@[simp] theorem final_cons (s : σ) (i : ι) (is : List ι) :
    final step s (i :: is) = final step (step s i).1 is := rfl

@[simp] theorem emitted_nil (s : σ) : emitted step s [] = [] := rfl

@[simp] theorem emitted_cons (s : σ) (i : ι) (is : List ι) :
    emitted step s (i :: is) = (step s i).2 ++ emitted step (step s i).1 is := rfl

theorem final_append (s : σ) (is js : List ι) :
    final step s (is ++ js) = final step (final step s is) js := by
  induction is generalizing s with
  | nil => rfl
  | cons i is ih => exact ih (step s i).1

theorem emitted_append (s : σ) (is js : List ι) :
    emitted step s (is ++ js) = emitted step s is ++ emitted step (final step s is) js := by
  induction is generalizing s with
  | nil => rfl
  | cons i is ih =>
    rw [List.cons_append, emitted_cons, emitted_cons, final_cons, ih, List.append_assoc]

theorem final_concat (s : σ) (is : List ι) (i : ι) :
    final step s (is ++ [i]) = (step (final step s is) i).1 := by
  rw [final_append]
  rfl

theorem emitted_concat (s : σ) (is : List ι) (i : ι) :
    emitted step s (is ++ [i]) = emitted step s is ++ (step (final step s is) i).2 := by
  rw [emitted_append, emitted_cons, emitted_nil, List.append_nil]

/-- **History rule.** What holds of the empty history and survives one more step holds of
every history, the state it leads to and the outputs it emitted. -/
theorem history_induction {P : List ι → σ → List ο → Prop} (s : σ) (base : P [] s [])
    (next : ∀ is t os i, P is t os → P (is ++ [i]) (step t i).1 (os ++ (step t i).2))
    (is : List ι) : P is (final step s is) (emitted step s is) := by
  induction is using List.reverseRecOn with
  | nil => exact base
  | append_singleton is i ih =>
    rw [final_concat, emitted_concat]
    exact next is _ _ i ih

/-- **Invariant rule**, for a property of the state alone. -/
theorem final_invariant {P : σ → Prop} (next : ∀ t i, P t → P (step t i).1) {s : σ}
    (base : P s) (is : List ι) : P (final step s is) :=
  history_induction step (P := fun _ t _ => P t) s base (fun _ t _ i h => next t i h) is

/-- **Prefix rule.** A property of the empty run, which one more step keeps in exactly the cases
in which `Q` holds, is one of every beginning of a run if and only if `Q` holds all along. -/
theorem forall_prefix_iff {P : List ι → Prop} {Q : List ι → ι → Prop} (base : P [])
    (next : ∀ is i, P is → (P (is ++ [i]) ↔ Q is i)) (run : List ι) :
    (∀ is, is <+: run → P is) ↔ ∀ is i, is ++ [i] <+: run → Q is i := by
  constructor
  · intro h is i hprefix
    have hbefore : P is := h is ((List.prefix_append is [i]).trans hprefix)
    exact (next is i hbefore).mp (h _ hprefix)
  · intro h is
    induction is using List.reverseRecOn with
    | nil => exact fun _ => base
    | append_singleton is i ih =>
      intro hprefix
      have hbefore : P is := ih ((List.prefix_append is [i]).trans hprefix)
      exact (next is i hbefore).mpr (h is i hprefix)

/-! ## Properties and measures of the steps of a run -/

/-- Every step of a run has a property of its state and input. -/
def Along (R : σ → ι → Prop) (s : σ) : List ι → Prop
  | [] => True
  | i :: is => R s i ∧ Along R (step s i).1 is

instance decidableAlong (R : σ → ι → Prop) [∀ s i, Decidable (R s i)] :
    ∀ (s : σ) (is : List ι), Decidable (Along step R s is)
  | _, [] => inferInstanceAs (Decidable True)
  | s, i :: is =>
    have := decidableAlong R (step s i).1 is
    inferInstanceAs (Decidable (R s i ∧ Along step R (step s i).1 is))

/-- The total of a measure over the steps of a run. -/
def tally (w : σ → ι → ℕ) (s : σ) : List ι → ℕ
  | [] => 0
  | i :: is => w s i + tally w (step s i).1 is

section Steps

variable {step} {R R' : σ → ι → Prop} {w w' : σ → ι → ℕ} {P : σ → Prop}

theorem along_append (s : σ) (is js : List ι) :
    Along step R s (is ++ js) ↔ Along step R s is ∧ Along step R (final step s is) js := by
  induction is generalizing s with
  | nil => simp [Along]
  | cons i is ih => simp only [List.cons_append, Along, ih, final_cons, and_assoc]

theorem along_congr (h : ∀ s i, R s i ↔ R' s i) (s : σ) (is : List ι) :
    Along step R s is ↔ Along step R' s is := by
  induction is generalizing s with
  | nil => exact Iff.rfl
  | cons i is ih => exact and_congr (h s i) (ih _)

/-- **Agreement rule.** Along a run, two properties that agree wherever an invariant holds are
the same if the steps with the first of them keep the invariant. -/
theorem along_congr_of (h : ∀ s i, P s → (R s i ↔ R' s i))
    (next : ∀ s i, P s → R s i → P (step s i).1) {s : σ} (hs : P s) (is : List ι) :
    Along step R s is ↔ Along step R' s is := by
  induction is generalizing s with
  | nil => exact Iff.rfl
  | cons i is ih =>
    constructor
    · rintro ⟨hi, his⟩
      exact ⟨(h s i hs).mp hi, (ih (next s i hs hi)).mp his⟩
    · rintro ⟨hi, his⟩
      have hR := (h s i hs).mpr hi
      exact ⟨hR, (ih (next s i hs hR)).mpr his⟩

/-- **Strengthening rule.** Steps that keep an invariant under which they have another property
have it all along the run. -/
theorem along_mono_of (h : ∀ s i, P s → R s i → R' s i)
    (next : ∀ s i, P s → R s i → P (step s i).1) {s : σ} (hs : P s) {is : List ι}
    (hR : Along step R s is) : Along step R' s is := by
  induction is generalizing s with
  | nil => trivial
  | cons i is ih => exact ⟨h s i hs hR.1, ih (next s i hs hR.1) hR.2⟩

theorem along_of_forall {Q : ι → Prop} {s : σ} {is : List ι} (h : ∀ i ∈ is, Q i) :
    Along step (fun _ i => Q i) s is := by
  induction is generalizing s with
  | nil => trivial
  | cons i is ih =>
    exact ⟨h i List.mem_cons_self, ih fun j hj => h j (List.mem_cons_of_mem i hj)⟩

/-- What a run does not emit, none of its steps does. -/
theorem along_and_notMem {o : ο} {s : σ} {is : List ι} (hR : Along step R s is)
    (ho : o ∉ emitted step s is) :
    Along step (fun s i => R s i ∧ o ∉ (step s i).2) s is := by
  induction is generalizing s with
  | nil => trivial
  | cons i is ih =>
    rw [emitted_cons, List.mem_append, not_or] at ho
    exact ⟨⟨hR.1, ho.1⟩, ih hR.2 ho.2⟩

/-- **Relative invariant rule.** What the steps of a run keep, given their property, holds where
the run ends. -/
theorem final_of_along (next : ∀ s i, P s → R s i → P (step s i).1) {s : σ} (hs : P s)
    {is : List ι} (hR : Along step R s is) : P (final step s is) := by
  induction is generalizing s with
  | nil => exact hs
  | cons i is ih => exact ih (next s i hs hR.1) hR.2

/-- **Relative history rule.** What relates a run to where it ends, and what the steps keep, given
their property, holds of every run whose steps have the property. -/
theorem history_of_along {P : List ι → σ → Prop}
    (next : ∀ is s i, P is s → R s i → P (is ++ [i]) (step s i).1) {s : σ} (base : P [] s)
    {is : List ι} (hR : Along step R s is) : P is (final step s is) := by
  induction is using List.reverseRecOn with
  | nil => exact base
  | append_singleton is i ih =>
    obtain ⟨hbefore, hi, -⟩ := (along_append s is [i]).mp hR
    rw [final_concat]
    exact next is _ i (ih hbefore) hi

theorem filter_emitted_eq_nil {p : ο → Bool} {s : σ} {is : List ι}
    (h : Along step (fun t j => P t ∧ (step t j).2.filter p = []) s is) :
    (emitted step s is).filter p = [] := by
  induction is generalizing s with
  | nil => rfl
  | cons i is ih =>
    obtain ⟨⟨-, hi⟩, his⟩ := h
    rw [emitted_cons, List.filter_append, hi, ih his]
    rfl

/-- **Last output rule.** No step leads into `P` without an output of some kind. Then a run from
outside of `P` into it has a last step with such an output, and stays in `P` from there on. -/
theorem exists_last_output {p : ο → Bool}
    (next : ∀ s i, (step s i).2.filter p = [] → P (step s i).1 → P s) {s : σ} (hs : ¬ P s)
    {is : List ι} (hP : P (final step s is)) :
    ∃ before i after o, is = before ++ i :: after ∧
      ((step (final step s before) i).2.filter p).getLast? = some o ∧
      ((emitted step s is).filter p).getLast? = some o ∧
      Along step (fun t j => P t ∧ (step t j).2.filter p = [])
        (step (final step s before) i).1 after := by
  induction is using List.reverseRecOn with
  | nil => exact absurd hP hs
  | append_singleton is i ih =>
    rw [final_concat] at hP
    rw [emitted_concat, List.filter_append]
    cases hlast : ((step (final step s is) i).2.filter p).getLast? with
    | some o => exact ⟨is, i, [], o, rfl, hlast, by rw [List.getLast?_append, hlast]; rfl, trivial⟩
    | none =>
      have hnil := List.getLast?_eq_none_iff.mp hlast
      have hbefore := next _ i hnil hP
      obtain ⟨before, j, after, o, rfl, hj, ho, hafter⟩ := ih hbefore
      refine ⟨before, j, after ++ [i], o, by rw [List.append_assoc, List.cons_append], hj, ?_, ?_⟩
      · rw [hnil, List.append_nil]
        exact ho
      · rw [final_append, final_cons] at hbefore hnil
        exact (along_append _ _ _).mpr ⟨hafter, ⟨hbefore, hnil⟩, trivial⟩

/-- **Tally rule.** Along a run whose steps keep an invariant, a measure that is at most
another at each step is at most the other in total. -/
theorem tally_le (h : ∀ s i, P s → R s i → P (step s i).1 ∧ w s i ≤ w' s i) {s : σ} (hs : P s)
    {is : List ι} (hR : Along step R s is) : tally step w s is ≤ tally step w' s is := by
  induction is generalizing s with
  | nil => exact Nat.le_refl 0
  | cons i is ih =>
    obtain ⟨hi, his⟩ := hR
    obtain ⟨hnext, hle⟩ := h s i hs hi
    exact Nat.add_le_add hle (ih hnext his)

/-- **Growth rule.** A measure that a step raises by at most `w`, while an invariant holds, grows
by at most the total of `w` over a run. -/
theorem le_tally {m : σ → ℕ}
    (h : ∀ s i, P s → P (step s i).1 ∧ m (step s i).1 ≤ m s + w s i) {s : σ} (hs : P s)
    (is : List ι) : m (final step s is) ≤ m s + tally step w s is := by
  induction is generalizing s with
  | nil => exact Nat.le_refl _
  | cons i is ih =>
    obtain ⟨hnext, hle⟩ := h s i hs
    calc m (final step s (i :: is))
        ≤ m (step s i).1 + tally step w (step s i).1 is := ih hnext
      _ ≤ m s + w s i + tally step w (step s i).1 is := Nat.add_le_add_right hle _
      _ = m s + tally step w s (i :: is) := Nat.add_assoc _ _ _

end Steps

/-! ## Non-interference -/

section Unwinding

variable (view : σ → ν) (keep : ι → Bool) (vis : ο → Bool)

/-- A kept input acts on the view alone, and shows the same. -/
def Respects : Prop :=
  ∀ s t i, keep i = true → view s = view t →
    view (step s i).1 = view (step t i).1 ∧ (step s i).2.filter vis = (step t i).2.filter vis

/-- An input that is not kept leaves the view alone and shows nothing. -/
def Ignores : Prop :=
  ∀ s i, keep i = false → view (step s i).1 = view s ∧ (step s i).2.filter vis = []

variable {step view keep vis}

/-- From states with one view, the inputs that are not kept can be purged from either run. -/
theorem purge (own : Respects step view keep vis) (other : Ignores step view keep vis)
    (is : List ι) {s t : σ} (h : view s = view t) :
    view (final step s is) = view (final step t (is.filter keep)) ∧
      (emitted step s is).filter vis = (emitted step t (is.filter keep)).filter vis := by
  induction is generalizing s t with
  | nil => exact ⟨h, rfl⟩
  | cons i is ih =>
    cases hk : keep i with
    | true =>
      obtain ⟨hview, hout⟩ := own s t i hk h
      obtain ⟨ihview, ihout⟩ := ih hview
      rw [List.filter_cons_of_pos hk]
      refine ⟨ihview, ?_⟩
      rw [emitted_cons, emitted_cons, List.filter_append, List.filter_append, hout, ihout]
    | false =>
      obtain ⟨hview, hout⟩ := other s i hk
      obtain ⟨ihview, ihout⟩ := ih (hview.trans h)
      rw [List.filter_cons_of_neg (by simp [hk])]
      refine ⟨ihview, ?_⟩
      rw [emitted_cons, List.filter_append, hout, List.nil_append, ihout]

/-- **Unwinding theorem.** Runs from one view with the same kept inputs end in one view and
show the same outputs, whatever other inputs each of them has in between. -/
theorem noninterference (own : Respects step view keep vis)
    (other : Ignores step view keep vis) {is js : List ι}
    (hkept : is.filter keep = js.filter keep) {s t : σ} (h : view s = view t) :
    view (final step s is) = view (final step t js) ∧
      (emitted step s is).filter vis = (emitted step t js).filter vis := by
  obtain ⟨hv, ho⟩ := purge own other is h
  obtain ⟨hv', ho'⟩ := purge own other js (rfl : view t = view t)
  exact ⟨by rw [hv, hkept, hv'], by rw [ho, hkept, ho']⟩

end Unwinding

end Machine
end CastDelivery
