import CastDelivery.Hub.Basic

/-!
# Runs of the hub

A step of the hub does to a device what a `DeviceStep` does, and listeners change at most a
circuit besides. So the invariants of histories carry over from the ledger to the hub:

* `Stable`, the properties of a health object and its history that a `DeviceStep` preserves;
* `Hub.stable_run`, they survive every run of the hub;
* `Hub.listeners_run`, a run that registers no listener keeps at most those there are.
-/

namespace CastDelivery

/-- A property of a health object and the history that led to it which every `DeviceStep`
preserves. -/
def Stable (Φ : DeviceHealth → List Effect → Prop) : Prop :=
  ∀ (env : Env) (ls : List Listener) (stamp : Option DateTime) (h g : DeviceHealth)
    (fs : List Effect), DeviceStep env ls stamp h g fs → ∀ es, Φ h es → Φ g (es ++ fs)

theorem stable_conserved : Stable Conserved := fun _ _ _ _ _ _ s _ H => H.step s

theorem stable_foldOf : Stable fun h es => FoldOf (records es) h := by
  intro env ls stamp h g fs s es F
  rw [records_append]
  exact F.step s

/-- A pending request was pending at first, or begun since. -/
theorem stable_request (first : Option Request) :
    Stable fun h es => ∀ q, h.request = some q →
      first = some q ∨ q ∈ Slot.opened (slotEvents es) := by
  have hmono : ∀ (es fs : List Effect) (q : Request), q ∈ Slot.opened (slotEvents es) →
      q ∈ Slot.opened (slotEvents (es ++ fs)) := by
    intro es fs q hq
    rw [slotEvents_append, Slot.opened_append]
    exact List.mem_append_left _ hq
  intro env ls stamp h g fs s
  induction s with
  | quiet same =>
    intro es H q hq
    rw [same.request] at hq
    exact (H q hq).imp_right (hmono _ _ _)
  | restore fresh => exact fun es H q hq => (H q hq).imp_right (hmono _ _ _)
  | note d unasked =>
    intro es H q hq
    rw [DeviceHealth.request, DeviceHealth.account_pending] at hq
    exact (H q hq).imp_right (hmono _ _ _)
  | resolve pending outcome error responded observed hr =>
    intro es H q hq
    simp [DeviceHealth.request] at hq
  | @start h free u hu request serial =>
    intro es H q hq
    refine .inr (mem_opened.mpr ⟨u, List.mem_append_right _ ?_⟩)
    obtain rfl : request = q := Option.some.inj hq
    exact List.mem_cons_self
  | seq _ _ ih ih' =>
    intro es H q hq
    rw [← List.append_assoc]
    exact ih' _ (ih es H) q hq

/-- Changing the circuit of a health object is a quiet step. -/
theorem Stable.circuit {Φ : DeviceHealth → List Effect → Prop} (hΦ : Stable Φ)
    {h : DeviceHealth} {es : List Effect} (H : Φ h es) (circuit : Option Monotonic) :
    Φ { h with circuitOpenUntil := circuit } es := by
  have hquiet := hΦ (.bare 0) [] none h { h with circuitOpenUntil := circuit } []
    (.quiet ⟨rfl, rfl, rfl, rfl, rfl, rfl, rfl, rfl⟩) es H
  rwa [List.append_nil] at hquiet

/-- An input that registers no listener. -/
def HubInput.Closed : HubInput → Prop
  | .call c => ∀ listener, c.op ≠ .addListener listener
  | .applyOptions _ => True

namespace Hub

variable {Φ : DeviceHealth → List Effect → Prop} {d : UUID}

theorem stable_step (hΦ : Stable Φ) (H : Hub) (i : HubInput) {es : List Effect}
    (h : Φ (H.ledger.health d) es) :
    Φ ((H.step i).1.ledger.health d) (es ++ history d (H.step i).2) := by
  cases i with
  | applyOptions options =>
    rw [step, history, List.filter_nil, List.append_nil]
    exact h
  | call c =>
    obtain ⟨circuit, hcall⟩ := H.health_call c d
    rw [step, hcall]
    exact hΦ.circuit (hΦ _ _ _ _ _ _ (H.ledger.step_device c d) es h) circuit

/-- Stable properties survive every run of the hub. -/
theorem stable_run (hΦ : Stable Φ) (H : Hub) (is : List HubInput) {es : List Effect}
    (h : Φ (H.ledger.health d) es) :
    Φ ((Machine.final step H is).ledger.health d)
      (es ++ history d (Machine.emitted step H is)) := by
  induction is generalizing H es with
  | nil =>
    rw [Machine.emitted_nil, history, List.filter_nil, List.append_nil]
    exact h
  | cons i is ih =>
    rw [Machine.emitted_cons, history_append, ← List.append_assoc]
    exact ih _ (stable_step hΦ H i h)

theorem listeners_step (H : Hub) {i : HubInput} (hi : i.Closed) :
    (H.step i).1.ledger.listeners.Sublist H.ledger.listeners := by
  cases i with
  | applyOptions options => exact .refl _
  | call c =>
    rw [step, listeners_call]
    cases hu : c.op.uuid? with
    | some u => rw [(DeliveryLedger.actsOn_step (L := H.ledger) hu).listeners]
    | none =>
      obtain ⟨env, op⟩ := c
      cases op <;> simp only [Op.uuid?, reduceCtorEq] at hu
      case addListener listener => exact absurd rfl (hi listener)
      case removeListener listener => exact List.erase_sublist
      case shutdown => exact .refl _

/-- A run that registers no listener keeps at most those there are. -/
theorem listeners_run (H : Hub) {is : List HubInput} (his : ∀ i ∈ is, i.Closed) :
    (Machine.final step H is).ledger.listeners.Sublist H.ledger.listeners := by
  induction is generalizing H with
  | nil => exact .refl _
  | cons i is ih =>
    exact (ih _ fun j hj => his j (List.mem_cons_of_mem _ hj)).trans
      (H.listeners_step (his i List.mem_cons_self))

end Hub

end CastDelivery
