import CastDelivery.Entity.Accounted

/-!
# The source of a request

`async_announce` passes its source to the request through `_request_source`, an attribute that all
calls of the entity share: it is set before `async_play_media` and reset when that returns, and
read when the request begins, several awaits later. `rightSources_iff` is the exact condition on
the order of the calls under which each request has the source of its own caller.
-/

namespace CastDelivery
namespace Entity

variable {uuid : UUID} {S : Entity} {os : List Output}

/-- Each request that a call began has the source of the caller. -/
def RightSources (os : List Output) : Prop :=
  ∀ id caller u request, .ledger (some (id, caller)) (.begun u request) ∈ os →
    request.source = caller.source

/-- Whenever an announcement begins its request, no announcement has left since the last one
entered; and whenever a direct play does, none has entered since the last one left. -/
def InTurn (os : List Output) : Prop :=
  ∀ pre id caller u request post,
    os = pre ++ .ledger (some (id, caller)) (.begun u request) :: post →
      caller ≠ .probe → (Announcing pre ↔ caller = .announce)

/-- The shared attribute gives the source of a caller exactly in its turn. -/
theorem sourceAfter_eq_iff (pre : List Output) (caller : Caller) :
    sourceAfter pre caller = caller.source ↔
      (caller ≠ .probe → (Announcing pre ↔ caller = .announce)) := by
  unfold sourceAfter
  cases caller <;> by_cases h : Announcing pre <;> simp [h, Caller.source]

theorem rightSources_iff_of_sources (h : Sources os) : RightSources os ↔ InTurn os := by
  constructor
  · intro hright pre id caller u request post heq
    rw [← sourceAfter_eq_iff, ← h pre id caller u request post heq]
    apply hright id caller u request
    rw [heq]
    exact List.mem_append_right pre List.mem_cons_self
  · intro hturn id caller u request hmem
    obtain ⟨pre, post, heq⟩ := List.append_of_mem hmem
    rw [h pre id caller u request post heq, sourceAfter_eq_iff]
    exact hturn pre id caller u request post heq

/-- **The recorded source is that of the caller**, for every request of a run, if and only if the
calls begin their requests in turn. -/
theorem rightSources_iff (uuid : UUID) (run : List Input) :
    RightSources (outputs uuid run) ↔ InTurn (outputs uuid run) :=
  rightSources_iff_of_sources (tracked_run uuid run).sources

/-! ## A play during an announcement -/

/-- A direct play while an announcement waits for its media source. -/
def playedDuringAnnouncement : List Input :=
  [⟨ttsAt 0, .connects⟩, announceAt 1 "Dinner is ready",
    ⟨castAppAt "youtube" 2, .playMedia (castApp "youtube")⟩]

theorem not_rightSources :
    ¬ RightSources (outputs ⟨1⟩ playedDuringAnnouncement) := by
  intro h
  have hsource := h 1 .playMedia ⟨1⟩ ⟨0, "clip", .announce, 2000000, 2 * second, none⟩
    (by decide +kernel)
  cases hsource

end Entity
end CastDelivery
