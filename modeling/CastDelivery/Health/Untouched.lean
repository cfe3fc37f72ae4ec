import CastDelivery.Health.Filing

/-!
# What deliveries leave alone

A health object holds more than its deliveries: where the device was discovered, and on which
subnet. `readsAlike_step`: what a reading of health objects says, if neither records nor requests
change it, is changed by no call of the ledger but one that names an identity or restores a
success.
-/

namespace CastDelivery

namespace DeliveryLedger

variable {α : Type*} {f : DeviceHealth → α} {L K : DeliveryLedger} {env : Env} {d u : UUID}

/-- A reading of health objects that neither a record nor a request changes. -/
structure Untouched (f : DeviceHealth → α) : Prop where
  account : ∀ h r, f (h.account r) = f h
  request : ∀ h pending begun, f { h with pending := pending, begun := begun } = f h

/-- Two ledgers read alike. -/
def ReadsAlike (f : DeviceHealth → α) (L K : DeliveryLedger) : Prop :=
  ∀ d, f (K.health d) = f (L.health d)

theorem readsAlike_device (L : DeliveryLedger) (u : UUID) : ReadsAlike f L (L.device u) :=
  fun d => congrArg f (health_device L u d)

theorem ReadsAlike.trans {M : DeliveryLedger} (h : ReadsAlike f L K) (h' : ReadsAlike f K M) :
    ReadsAlike f L M := fun d => (h' d).trans (h d)

theorem readsAlike_append (hf : Untouched f) {h : DeviceHealth} (hh : f h = f (L.health h.uuid))
    (dl : Delivery) (q : Option Request) : ReadsAlike f L (L.append env h dl q).1 := by
  intro d
  rw [health_append]
  split
  · next hd => rw [hf.account, hh, hd]
  · rfl

theorem readsAlike_resolve (hf : Untouched f) {h : DeviceHealth} (hh : f h = f (L.health h.uuid))
    (outcome : DeliveryOutcome) (error : Option String) (responded : Bool) (observed : Observed)
    (content : Option String) :
    ReadsAlike f L (L.resolve env h outcome error responded observed content).1 := by
  have hcancelled : ReadsAlike f L (h.handle.elim L L.cancel) := by
    intro d
    cases h.handle <;> rfl
  have hwithout : f h.withoutPending = f h := hf.request h none h.begun
  rw [resolve_eq]
  refine hcancelled.trans (readsAlike_append hf ?_ _ _)
  exact hwithout.trans (hh.trans (hcancelled h.uuid).symm)

theorem readsAlike_resolve_own (hf : Untouched f) (u : UUID) (outcome : DeliveryOutcome)
    (error : Option String) (responded : Bool) (observed : Observed) (content : Option String) :
    ReadsAlike f L (L.resolve env (L.health u) outcome error responded observed content).1 :=
  readsAlike_resolve hf (by rw [uuid_health]) outcome error responded observed content

theorem readsAlike_startRequest (hf : Untouched f) (contentId : String) (source : Source)
    (session : Option Int) (timeout : ℕ) :
    ReadsAlike f L (L.startRequest env u contentId source session timeout).1 := by
  intro d
  unfold startRequest
  simp only [health, DeviceTable.get_put]
  split
  · next hd =>
    have hu : d = u := hd.trans (uuid_health L u)
    rw [hu]
    exact hf.request _ _ _
  · rfl

theorem readsAlike_mediaStatus (hf : Untouched f) (status : MediaStatus) :
    ReadsAlike f L (L.asyncMediaStatus env u status).1 := by
  -- every branch but the ignored status ends in `_resolve` or `_append`
  have hresolve : ∀ outcome error responded observed content, ReadsAlike f L
      ((L.device u).resolve env (L.health u) outcome error responded observed content).1 := by
    intro outcome error responded observed content
    refine (readsAlike_device L u).trans (readsAlike_resolve hf ?_ _ _ _ _ _)
    rw [uuid_health, health_device]
  cases herror : status.isError with
  | true =>
    cases hp : (L.health u).pending with
    | none =>
      rw [mediaStatus_unsolicited hp herror]
      exact hresolve _ _ _ _ _
    | some p =>
      by_cases hblames : Blames status p.toRequest
      · rw [mediaStatus_blames hp hblames]
        exact hresolve _ _ _ _ _
      · rw [mediaStatus_other_error hp herror hblames]
        refine (readsAlike_device L u).trans (readsAlike_append hf ?_ _ _)
        rw [uuid_health, health_device]
  | false =>
    by_cases hconfirms : ∃ p, (L.health u).pending = some p ∧ Confirms status p.toRequest
    · obtain ⟨p, hp, hconfirms⟩ := hconfirms
      rw [mediaStatus_confirms hp hconfirms]
      exact hresolve _ _ _ _ _
    · push Not at hconfirms
      rw [mediaStatus_ignored herror hconfirms]
      exact readsAlike_device L u

/-- **What deliveries leave alone.** The calls that do not name an identity or restore a success
keep every such reading. -/
theorem readsAlike_step (hf : Untouched f) (L : DeliveryLedger) {c : Call}
    (hidentity : ∀ u entityId name host port seen,
      c.op ≠ .updateIdentity u entityId name host port seen)
    (hrestore : ∀ u stamp, c.op ≠ .restoreLastSuccess u stamp) : ReadsAlike f L (L.step c).1 := by
  obtain ⟨env, op⟩ := c
  cases op with
  | addListener | removeListener => exact fun _ => rfl
  | device u => exact readsAlike_device L u
  | updateIdentity u => exact absurd rfl (hidentity u _ _ _ _ _)
  | restoreLastSuccess u => exact absurd rfl (hrestore u _)
  | beginRequest u contentId source session timeout =>
    have hsuperseded : ReadsAlike f (L.device u) ((L.device u).supersede env u).1 := by
      unfold supersede
      split
      · exact readsAlike_resolve_own hf u _ _ _ _ _
      · exact fun _ => rfl
    exact (readsAlike_device L u).trans
      (hsuperseded.trans (readsAlike_startRequest hf contentId source session timeout))
  | expire timer =>
    by_cases hown : ∃ p, (L.health timer.uuid).pending = some p ∧ p.serial = timer.serial
    · obtain ⟨p, hp, hserial⟩ := hown
      have hcleared : f (L.health timer.uuid).clearTimeout = f (L.health timer.uuid) :=
        hf.request _ _ (L.health timer.uuid).begun
      show ReadsAlike f L (L.expire env timer).1
      rw [expire_own timer hp hserial]
      refine readsAlike_resolve (L := L.cancel timer.handle) hf ?_ _ _ _ _ _
      rw [hcleared]
      show f (L.health timer.uuid) = f (L.health (L.health timer.uuid).uuid)
      rw [uuid_health]
    · push Not at hown
      show ReadsAlike f L (L.expire env timer).1
      rw [expire_stale timer hown]
      exact fun _ => rfl
  | mediaStatus u status => exact readsAlike_mediaStatus hf status
  | loadMediaFailed u queueItemId errorCode =>
    refine (readsAlike_device L u).trans ?_
    simp only [step, asyncLoadMediaFailed]
    split
    · exact fun _ => rfl
    · exact readsAlike_resolve_own hf u _ _ _ _ _
  | requestFailed u err connected launchFailure =>
    exact (readsAlike_device L u).trans (readsAlike_resolve_own hf u _ _ _ _ _)
  | record u call =>
    refine (readsAlike_device L u).trans ?_
    simp only [step, asyncRecord]
    split
    · exact readsAlike_resolve_own hf u _ _ _ _ _
    · exact readsAlike_append hf (by rw [uuid_health]) _ _
  | shutdown =>
    intro d
    have hmap : L.asyncShutdown.health d = (L.health d).clearTimeout :=
      DeviceTable.get_map L.devices (f := DeviceHealth.clearTimeout) (u := d) (fun _ => rfl) rfl
    simp only [step, hmap]
    exact hf.request _ _ (L.health d).begun

end DeliveryLedger

end CastDelivery
