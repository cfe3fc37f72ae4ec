import Mathlib.Data.List.DropRight
import Mathlib.Data.List.Infix

/-!
# Counting hits and finding two in a row

Something is counted in a growing list: how many elements hit since the last one that is not
kept. A count of two is not the same as two hits in a row. `agrees_concat` says what the next
element has to look like for the two to stay the same: where it is the second hit, the element
just before it was the first.
-/

namespace CastDelivery
namespace Streak

variable {α : Type*} (keep hit : α → Bool)

/-- How many elements hit among the longest kept segment at the end. -/
def hits (l : List α) : ℕ := (l.rtakeWhile keep).countP hit

/-- Two neighbours in a list both hit. -/
def Adjacent (l : List α) : Prop := ∃ a b, [a, b] <:+: l ∧ hit a = true ∧ hit b = true

/-- A decision procedure for `Adjacent`. -/
def adjacent : List α → Bool
  | a :: b :: l => (hit a && hit b) || adjacent (b :: l)
  | _ => false

variable {keep hit} {l : List α} {a : α}

theorem adjacent_iff (l : List α) : adjacent hit l = true ↔ Adjacent hit l := by
  induction l with
  | nil => simp [adjacent, Adjacent]
  | cons a l ih =>
    cases l with
    | nil => simp [adjacent, Adjacent, List.infix_cons_iff]
    | cons b l =>
      simp only [adjacent, Bool.or_eq_true, Bool.and_eq_true, ih, Adjacent]
      constructor
      · rintro (⟨ha, hb⟩ | ⟨a', b', hin, ha, hb⟩)
        · exact ⟨a, b, ⟨[], l, rfl⟩, ha, hb⟩
        · exact ⟨a', b', List.infix_cons hin, ha, hb⟩
      · rintro ⟨a', b', hin, ha, hb⟩
        rcases List.infix_cons_iff.mp hin with hpre | hin
        · obtain ⟨haa, hpre⟩ := List.cons_prefix_cons.mp hpre
          obtain ⟨hbb, -⟩ := List.cons_prefix_cons.mp hpre
          exact .inl ⟨haa ▸ ha, hbb ▸ hb⟩
        · exact .inr ⟨a', b', hin, ha, hb⟩

instance (l : List α) : Decidable (Adjacent hit l) := decidable_of_iff _ (adjacent_iff l)

/-! ## One more element -/

theorem hits_concat (l : List α) (a : α) :
    hits keep hit (l ++ [a])
      = if keep a then hits keep hit l + (if hit a then 1 else 0) else 0 := by
  unfold hits
  rw [List.rtakeWhile_concat]
  split
  · rw [List.countP_append, List.countP_singleton]
  · rfl

/-- A pair in a longer list was there before, or the last two elements are one. -/
theorem adjacent_concat (l : List α) (a : α) :
    Adjacent hit (l ++ [a]) ↔
      Adjacent hit l ∨ hit a = true ∧ ∃ b, l.getLast? = some b ∧ hit b = true := by
  constructor
  · rintro ⟨b, c, hin, hb, hc⟩
    rcases List.infix_concat_iff.mp hin with hsuffix | hin
    · obtain ⟨l', hl⟩ := hsuffix
      have hsplit : l' ++ [b] ++ [c] = l ++ [a] := by simpa using hl
      obtain ⟨rfl, hca⟩ := List.append_inj' hsplit rfl
      obtain rfl : c = a := by simpa using hca
      exact .inr ⟨hc, b, List.getLast?_concat, hb⟩
    · exact .inl ⟨b, c, hin, hb, hc⟩
  · rintro (⟨b, c, hin, hb, hc⟩ | ⟨ha, b, hlast, hb⟩)
    · exact ⟨b, c, hin.trans (List.prefix_append l [a]).isInfix, hb, hc⟩
    · obtain ⟨l', rfl⟩ := List.getLast?_eq_some_iff.mp hlast
      exact ⟨b, a, ⟨l', [], by simp⟩, hb, ha⟩

/-- Two neighbours that hit are two hits. -/
theorem two_le_of_adjacent (h : Adjacent hit l) : 2 ≤ l.countP hit := by
  obtain ⟨a, b, hin, ha, hb⟩ := h
  have hle : [a, b].countP hit ≤ l.countP hit := hin.sublist.countP_le
  have htwo : [a, b].countP hit = 2 := by simp [ha, hb]
  omega

/-- The last element of the kept segment is the last of the list. -/
theorem getLast?_rtakeWhile {b : α} (hb : keep b = true) :
    (l.rtakeWhile keep).getLast? = some b ↔ l.getLast? = some b := by
  induction l using List.reverseRecOn with
  | nil => rfl
  | append_singleton l c =>
    rw [List.rtakeWhile_concat, List.getLast?_concat]
    split
    · rw [List.getLast?_concat]
    · next hc =>
      refine iff_of_false (by simp) fun h => hc ?_
      rw [Option.some.inj h]
      exact hb

/-! ## Counting and pairing -/

/-- Since the last element that is not kept, two hits were counted if and only if there are two
in a row. -/
def Agrees (keep hit : α → Bool) (l : List α) : Prop :=
  2 ≤ hits keep hit l ↔ Adjacent hit (l.rtakeWhile keep)

/-- **Streak rule.** The count and the pairs of a list still agree after one more element if and
only if, where that is the second hit, the element before it was the first. -/
theorem agrees_concat (hkeep : ∀ a, hit a = true → keep a = true) (h : Agrees keep hit l)
    (a : α) :
    Agrees keep hit (l ++ [a]) ↔
      (hit a = true → hits keep hit l = 1 → ∃ b, l.getLast? = some b ∧ hit b = true) := by
  unfold Agrees at h ⊢
  rw [hits_concat, List.rtakeWhile_concat]
  cases ha : hit a with
  | false =>
    -- the element does not count
    refine iff_of_true ?_ (by simp)
    cases keep a with
    | false => exact iff_of_false (by simp) fun h => by simpa using two_le_of_adjacent h
    | true =>
      rw [if_pos rfl, if_pos rfl, adjacent_concat, ha]
      simpa using h
  | true =>
    rw [if_pos (hkeep a ha), if_pos (hkeep a ha), adjacent_concat, ← h, ha]
    have hlast : (∃ b, (l.rtakeWhile keep).getLast? = some b ∧ hit b = true) ↔
        ∃ b, l.getLast? = some b ∧ hit b = true := by
      refine exists_congr fun b => and_congr_left fun hb => ?_
      exact getLast?_rtakeWhile (hkeep b hb)
    rw [hlast]
    simp only [if_true, true_and, true_implies]
    constructor
    · intro hagrees hone
      rcases hagrees.mp (by omega) with htwo | hlast
      · omega
      · exact hlast
    · intro hone
      constructor
      · intro htwo
        by_cases hhits : hits keep hit l = 1
        · exact .inr (hone hhits)
        · exact .inl (by omega)
      · rintro (htwo | ⟨b, hb, hhit⟩)
        · omega
        · -- the last element is a hit, and it is kept
          have hmem : b ∈ l.rtakeWhile keep :=
            List.mem_of_getLast? ((getLast?_rtakeWhile (hkeep b hhit)).mpr hb)
          have hpos : 0 < hits keep hit l := List.countP_pos_iff.mpr ⟨b, hmem, hhit⟩
          omega

end Streak
end CastDelivery
