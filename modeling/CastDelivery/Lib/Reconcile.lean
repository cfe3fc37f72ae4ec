import Mathlib.Data.Set.Basic

/-!
# Reconciling a registry

A manager keeps entries in a registry and a memory of the entries that it takes for its own. To
make the registry show what is the case now, it takes out the entries it remembers that are no
longer the case, and puts in those that are. The registry may hold entries that the manager does
not remember, its orphans.

* `mem_reconcile_iff`: an entry that is the case is in the registry, and one that is not is there
  only if the manager did not remember it;
* `orphans_reconcile_subset` and `orphans_subset`: a manager that remembers what it put in makes
  no orphans.
-/

namespace CastDelivery
namespace Reconcile

variable {α : Type*} {registry memory current : Set α} {a : α}

/-- The registry after a manager that remembers `memory` has reconciled it to `current`. -/
def reconcile (registry memory current : Set α) : Set α := registry \ (memory \ current) ∪ current

/-- The entries that the manager does not remember. -/
def orphans (registry memory : Set α) : Set α := registry \ memory

theorem mem_reconcile_iff :
    a ∈ reconcile registry memory current ↔ a ∈ current ∨ a ∈ orphans registry memory := by
  simp only [reconcile, orphans, Set.mem_union, Set.mem_sdiff]
  by_cases h : a ∈ current <;> simp [h]

/-- A manager that remembers what it put in makes no orphans. -/
theorem orphans_reconcile_subset :
    orphans (reconcile registry memory current) current ⊆ orphans registry memory := by
  rintro a ⟨ha, hnot⟩
  exact (mem_reconcile_iff.mp ha).resolve_left hnot

/-- Orphans come from entries that are put in or forgotten. -/
theorem orphans_subset {registry' memory' : Set α} (hregistry : registry' ⊆ registry)
    (hmemory : ∀ a ∈ registry', a ∈ memory → a ∈ memory') :
    orphans registry' memory' ⊆ orphans registry memory := by
  rintro a ⟨ha, hnot⟩
  exact ⟨hregistry ha, fun hmem => hnot (hmemory a ha hmem)⟩

end Reconcile
end CastDelivery
