import CastDelivery.Health.Ledger

/-!
# What one call does to one device

Every later fact about the ledger is a fact about one device at a time, so this file says once
what a call can do to a device:

* `ActsOn u L r`: the operation that took `L` to `r` touches the health object, the timers and
  the listeners of no device but `u`, has only effects about `u`, and does to `u` a `DeviceStep`;
* `DeviceStep`, the steps of one health object: nothing that matters to deliveries, the restore
  of `last_success`, a record without a request, the resolution of the pending request, the
  start of a new one, and sequences of these;
* `step_device`, the same of every call and every device.

`TimersMatch` is the invariant between the pending request of a device and its armed timers.
-/

namespace CastDelivery

/-- The device an effect is about. -/
def Effect.uuid : Effect → UUID
  | .begun u _ => u
  | .appended record _ => record.uuid
  | .fired record => record.uuid
  | .dispatched u => u
  | .called _ health _ => health.uuid

/-- Whether an effect is about a device. -/
def Effect.about (d : UUID) (e : Effect) : Bool := e.uuid = d

/-- The value a call restores as the last success of a device. -/
def Op.restored (d : UUID) : Op → Option DateTime
  | .restoreLastSuccess u stamp => if u = d then stamp else none
  | _ => none

namespace DeviceHealth

@[simp] theorem setLast_uuid (h : DeviceHealth) (r : DeliveryRecord) :
    (h.setLast r).uuid = h.uuid := by
  unfold setLast
  split <;> rfl

@[simp] theorem setLast_pending (h : DeviceHealth) (r : DeliveryRecord) :
    (h.setLast r).pending = h.pending := by
  unfold setLast
  split <;> rfl

@[simp] theorem setLast_begun (h : DeviceHealth) (r : DeliveryRecord) :
    (h.setLast r).begun = h.begun := by
  unfold setLast
  split <;> rfl

@[simp] theorem count_uuid (h : DeviceHealth) (r : DeliveryRecord) :
    (h.count r).uuid = h.uuid := by
  unfold count
  split_ifs <;> rfl

@[simp] theorem count_pending (h : DeviceHealth) (r : DeliveryRecord) :
    (h.count r).pending = h.pending := by
  unfold count
  split_ifs <;> rfl

@[simp] theorem count_begun (h : DeviceHealth) (r : DeliveryRecord) :
    (h.count r).begun = h.begun := by
  unfold count
  split_ifs <;> rfl

@[simp] theorem account_uuid (h : DeviceHealth) (r : DeliveryRecord) :
    (h.account r).uuid = h.uuid := by
  simp [account]

@[simp] theorem account_pending (h : DeviceHealth) (r : DeliveryRecord) :
    (h.account r).pending = h.pending := by
  simp [account]

@[simp] theorem account_begun (h : DeviceHealth) (r : DeliveryRecord) :
    (h.account r).begun = h.begun := by
  simp [account]

@[simp] theorem deliveryRecord_uuid (env : Env) (h : DeviceHealth) (d : Delivery) :
    (h.deliveryRecord env d).uuid = h.uuid := rfl

@[simp] theorem clearTimeout_uuid (h : DeviceHealth) : h.clearTimeout.uuid = h.uuid := rfl

@[simp] theorem clearTimeout_request (h : DeviceHealth) :
    h.clearTimeout.request = h.request := by
  unfold request clearTimeout
  cases h.pending <;> rfl

@[simp] theorem clearTimeout_handle (h : DeviceHealth) : h.clearTimeout.handle = none := by
  unfold handle clearTimeout
  cases h.pending <;> rfl

/-- Two health objects that agree on all that deliveries change. -/
structure Same (h g : DeviceHealth) : Prop where
  uuid : g.uuid = h.uuid
  request : g.request = h.request
  begun : g.begun = h.begun
  lastOutcome : g.lastOutcome = h.lastOutcome
  lastRecord : g.lastRecord = h.lastRecord
  lastSuccess : g.lastSuccess = h.lastSuccess
  consecutiveFailures : g.consecutiveFailures = h.consecutiveFailures
  consecutiveTimeouts : g.consecutiveTimeouts = h.consecutiveTimeouts

theorem Same.refl (h : DeviceHealth) : h.Same h := ⟨rfl, rfl, rfl, rfl, rfl, rfl, rfl, rfl⟩

theorem same_clearTimeout (h : DeviceHealth) : h.Same h.clearTimeout :=
  ⟨rfl, clearTimeout_request h, rfl, rfl, rfl, rfl, rfl, rfl⟩

end DeviceHealth

/-- The effects of `_append` for a record, given the health object after it. -/
def recorded (listeners : List Listener) (health : DeviceHealth) (record : DeliveryRecord)
    (request : Option Request) : List Effect :=
  [.appended record request, .fired record, .dispatched health.uuid]
    ++ listeners.map fun listener => .called listener health record

/-- What a call does to one health object, and its effects. -/
inductive DeviceStep (env : Env) (ls : List Listener) (stamp : Option DateTime) :
    DeviceHealth → DeviceHealth → List Effect → Prop
  | quiet {h g : DeviceHealth} (same : h.Same g) : DeviceStep env ls stamp h g []
  | restore {h : DeviceHealth} (fresh : h.lastSuccess = none) :
      DeviceStep env ls stamp h { h with lastSuccess := stamp } []
  | note {h : DeviceHealth} (d : Delivery) (unasked : d.requestedAt = none) :
      DeviceStep env ls stamp h (h.account (h.deliveryRecord env d))
        (recorded ls (h.account (h.deliveryRecord env d)) (h.deliveryRecord env d) none)
  | resolve {h : DeviceHealth} {p : PendingRequest} (pending : h.pending = some p)
      (outcome : DeliveryOutcome) (error : Option String) (responded : Bool)
      (observed : Observed) {r : DeliveryRecord}
      (hr : r = h.deliveryRecord env
        (DeliveryLedger.resolution env (some p) outcome error responded observed none)) :
      DeviceStep env ls stamp h ({ h with pending := none : DeviceHealth }.account r)
        (recorded ls ({ h with pending := none : DeviceHealth }.account r) r (some p.toRequest))
  | start {h : DeviceHealth} (free : h.pending = none) {u : UUID} (hu : h.uuid = u)
      {request : Request} (serial : request.serial = h.begun) :
      DeviceStep env ls stamp h
        { h with pending := some ⟨request, true⟩, begun := h.begun + 1 }
        [.begun u request]
  | seq {h g k : DeviceHealth} {es fs : List Effect} (first : DeviceStep env ls stamp h g es)
      (rest : DeviceStep env ls stamp g k fs) : DeviceStep env ls stamp h k (es ++ fs)

theorem DeviceStep.uuid_eq {env : Env} {ls : List Listener} {stamp : Option DateTime}
    {h g : DeviceHealth} {es : List Effect} (s : DeviceStep env ls stamp h g es) :
    g.uuid = h.uuid := by
  induction s with
  | quiet same => exact same.uuid
  | seq _ _ ih ih' => exact ih'.trans ih
  | _ => simp

namespace DeliveryLedger

/-- The armed timers of a device. -/
def timersOf (L : DeliveryLedger) (d : UUID) : List Timer := L.timers.filter fun t => t.uuid = d

/-! ## Reading a ledger after its primitive updates -/

@[simp] theorem uuid_health (L : DeliveryLedger) (d : UUID) : (L.health d).uuid = d :=
  L.devices.uuid_get d

theorem health_store (L : DeliveryLedger) (h : DeviceHealth) (d : UUID) :
    (L.store h).health d = if d = h.uuid then h else L.health d :=
  DeviceTable.get_put _ _ _

@[simp] theorem timersOf_store (L : DeliveryLedger) (h : DeviceHealth) (d : UUID) :
    (L.store h).timersOf d = L.timersOf d := rfl

@[simp] theorem listeners_store (L : DeliveryLedger) (h : DeviceHealth) :
    (L.store h).listeners = L.listeners := rfl

@[simp] theorem health_device (L : DeliveryLedger) (u d : UUID) :
    (L.device u).health d = L.health d := by
  unfold device
  cases hu : L.devices.dict.get? u with
  | some _ => rfl
  | none =>
    rw [health_store]
    split
    · next hd => simp [health, DeviceTable.get, hu, hd]
    · rfl

@[simp] theorem timersOf_device (L : DeliveryLedger) (u d : UUID) :
    (L.device u).timersOf d = L.timersOf d := by
  unfold device
  split <;> rfl

@[simp] theorem listeners_device (L : DeliveryLedger) (u : UUID) :
    (L.device u).listeners = L.listeners := by
  unfold device
  split <;> rfl

@[simp] theorem health_cancel (L : DeliveryLedger) (handle : UUID × ℕ) (d : UUID) :
    (L.cancel handle).health d = L.health d := rfl

@[simp] theorem listeners_cancel (L : DeliveryLedger) (handle : UUID × ℕ) :
    (L.cancel handle).listeners = L.listeners := rfl

theorem timersOf_cancel_of_ne (L : DeliveryLedger) {u d : UUID} (hne : d ≠ u) (n : ℕ) :
    (L.cancel (u, n)).timersOf d = L.timersOf d := by
  unfold timersOf cancel
  rw [List.filter_filter]
  refine List.filter_congr fun t _ => ?_
  by_cases ht : t.uuid = d
  · simp [Timer.handle, ht, hne]
  · simp [ht]

theorem handles_cancel (L : DeliveryLedger) (handle : UUID × ℕ) (d : UUID) :
    ((L.cancel handle).timersOf d).map Timer.handle
      = ((L.timersOf d).map Timer.handle).filter (· ≠ handle) := by
  unfold timersOf cancel
  rw [List.filter_map, List.filter_filter, List.filter_filter]
  congr 1
  refine List.filter_congr fun t _ => ?_
  simp [Bool.and_comm]

theorem health_append (env : Env) (L : DeliveryLedger) (h : DeviceHealth) (dl : Delivery)
    (request : Option Request) (d : UUID) :
    (L.append env h dl request).1.health d
      = if d = h.uuid then h.account (h.deliveryRecord env dl) else L.health d := by
  unfold append health
  simp only [DeviceTable.get_put, DeviceHealth.account_uuid]

@[simp] theorem timersOf_append (env : Env) (L : DeliveryLedger) (h : DeviceHealth)
    (dl : Delivery) (request : Option Request) (d : UUID) :
    (L.append env h dl request).1.timersOf d = L.timersOf d := by
  simp only [append, timersOf]

@[simp] theorem listeners_append (env : Env) (L : DeliveryLedger) (h : DeviceHealth)
    (dl : Delivery) (request : Option Request) :
    (L.append env h dl request).1.listeners = L.listeners := by
  simp only [append]

theorem effects_append (env : Env) (L : DeliveryLedger) (h : DeviceHealth) (dl : Delivery)
    (request : Option Request) :
    (L.append env h dl request).2 = recorded L.listeners
      (h.account (h.deliveryRecord env dl)) (h.deliveryRecord env dl) request := rfl

/-! ## The timers of a device -/

/-- The pending request of a device holds the handle of the one armed timer of the device, and
without a pending request no timer of the device is armed. -/
structure TimersMatch (L : DeliveryLedger) (d : UUID) : Prop where
  armed : (L.timersOf d).map Timer.handle = (L.health d).request.toList.map fun q => (d, q.serial)
  held : ∀ p, (L.health d).pending = some p → p.cancelTimeout = true

/-! ## What the operations do -/

/-- The operation that took `L` to `r.1` with effects `r.2` acts on device `u` alone. -/
structure ActsOn (env : Env) (stamp : Option DateTime) (u : UUID) (L : DeliveryLedger)
    (r : DeliveryLedger × List Effect) : Prop where
  listeners : r.1.listeners = L.listeners
  others : ∀ d, d ≠ u → r.1.health d = L.health d ∧ r.1.timersOf d = L.timersOf d
  about : ∀ e ∈ r.2, e.uuid = u
  own : DeviceStep env L.listeners stamp (L.health u) (r.1.health u) r.2
  timers : L.TimersMatch u → r.1.TimersMatch u

variable {env : Env} {stamp : Option DateTime} {L : DeliveryLedger} {u : UUID}

theorem ActsOn.refl : ActsOn env stamp u L (L, []) :=
  ⟨rfl, fun _ _ => ⟨rfl, rfl⟩, by simp, .quiet (.refl _), id⟩

theorem ActsOn.seq {r₁ r₂ : DeliveryLedger × List Effect} (h₁ : ActsOn env stamp u L r₁)
    (h₂ : ActsOn env stamp u r₁.1 r₂) : ActsOn env stamp u L (r₂.1, r₁.2 ++ r₂.2) where
  listeners := h₂.listeners.trans h₁.listeners
  others d hd := by
    obtain ⟨hh₁, ht₁⟩ := h₁.others d hd
    obtain ⟨hh₂, ht₂⟩ := h₂.others d hd
    exact ⟨hh₂.trans hh₁, ht₂.trans ht₁⟩
  about e he := by
    rcases List.mem_append.mp he with he | he
    · exact h₁.about e he
    · exact h₂.about e he
  own := h₁.own.seq (h₁.listeners ▸ h₂.own)
  timers h := h₂.timers (h₁.timers h)

theorem ActsOn.filter_own {r : DeliveryLedger × List Effect} (h : ActsOn env stamp u L r) :
    r.2.filter (Effect.about u) = r.2 := by
  rw [List.filter_eq_self]
  intro e he
  simp [Effect.about, h.about e he]

theorem ActsOn.filter_other {r : DeliveryLedger × List Effect} (h : ActsOn env stamp u L r)
    {d : UUID} (hd : d ≠ u) : r.2.filter (Effect.about d) = [] := by
  rw [List.filter_eq_nil_iff]
  intro e he habout
  rw [Effect.about, decide_eq_true_eq, h.about e he] at habout
  exact hd habout.symm

/-- Creating the health object first changes nothing an operation can tell. -/
theorem ActsOn.of_device {r : DeliveryLedger × List Effect}
    (h : ActsOn env stamp u (L.device u) r) : ActsOn env stamp u L r := by
  have hown := h.own
  rw [listeners_device, health_device] at hown
  refine ⟨by simpa using h.listeners, fun d hd => by simpa using h.others d hd, h.about, hown,
    fun ht => h.timers ⟨?_, ?_⟩⟩
  · simpa using ht.armed
  · simpa using ht.held

/-- Storing a health object that one step without effects made, with the same request pending. -/
theorem actsOn_store {g : DeviceHealth} (own : DeviceStep env L.listeners stamp (L.health u) g [])
    (hp : g.pending = (L.health u).pending) : ActsOn env stamp u L (L.store g, []) := by
  have hu : g.uuid = u := by rw [own.uuid_eq, uuid_health]
  have hself : (L.store g).health u = g := by rw [health_store, if_pos hu.symm]
  refine ⟨rfl, fun d hd => ⟨?_, rfl⟩, by simp, ?_, fun ht => ⟨?_, ?_⟩⟩
  · rw [health_store, if_neg (by rw [hu]; exact hd)]
  · rw [hself]
    exact own
  · rw [hself, DeviceHealth.request, hp]
    exact ht.armed
  · rw [hself, hp]
    exact ht.held

theorem about_recorded {ls : List Listener} {h : DeviceHealth} {r : DeliveryRecord}
    {q : Option Request} (hr : r.uuid = h.uuid) : ∀ e ∈ recorded ls h r q, e.uuid = h.uuid := by
  intro e he
  simp only [recorded, List.mem_append, List.mem_cons, List.not_mem_nil, or_false,
    List.mem_map] at he
  rcases he with (rfl | rfl | rfl) | ⟨l, -, rfl⟩
  · exact hr
  · exact hr
  · rfl
  · rfl

/-- Appending a record without a request. -/
theorem actsOn_append (dl : Delivery) (unasked : dl.requestedAt = none) :
    ActsOn env stamp u L (L.append env (L.health u) dl none) := by
  have hself : (L.append env (L.health u) dl none).1.health u
      = (L.health u).account ((L.health u).deliveryRecord env dl) := by
    rw [health_append, if_pos (uuid_health L u).symm]
  refine ⟨rfl, fun d hd => ⟨?_, rfl⟩, ?_, ?_, fun ht => ⟨?_, ?_⟩⟩
  · rw [health_append, if_neg (by rw [uuid_health]; exact hd)]
  · rw [effects_append]
    intro e he
    rw [about_recorded (by simp) e he]
    simp
  · rw [hself, effects_append]
    exact .note dl unasked
  · rw [hself, DeviceHealth.request, DeviceHealth.account_pending]
    exact ht.armed
  · rw [hself, DeviceHealth.account_pending]
    exact ht.held

/-- What `_resolve` reads of the ledger after it cancelled the timer it holds. -/
theorem resolve_eq (L : DeliveryLedger) (h : DeviceHealth) (outcome : DeliveryOutcome)
    (error : Option String) (responded : Bool) (observed : Observed) (content : Option String) :
    L.resolve env h outcome error responded observed content
      = (h.handle.elim L L.cancel).append env { h with pending := none }
          (resolution env h.pending outcome error responded observed content) h.request := by
  unfold resolve
  cases h.handle <;> rfl

/-- Resolving leaves nothing pending. -/
theorem pending_resolve {h : DeviceHealth} (hu : h.uuid = u) (outcome : DeliveryOutcome)
    (error : Option String) (responded : Bool) (observed : Observed) (content : Option String) :
    ((L.resolve env h outcome error responded observed content).1.health u).pending = none := by
  rw [resolve_eq, health_append, if_pos (by simp [hu])]
  simp

/-- A ledger that differs from `L` at most in the armed timers of `u`. -/
structure Agrees (u : UUID) (L K : DeliveryLedger) : Prop where
  health : ∀ d, K.health d = L.health d
  listeners : K.listeners = L.listeners
  timers : ∀ d, d ≠ u → K.timersOf d = L.timersOf d

theorem Agrees.refl : Agrees u L L := ⟨fun _ => rfl, rfl, fun _ _ => rfl⟩

theorem Agrees.cancel (n : ℕ) : Agrees u L (L.cancel (u, n)) :=
  ⟨fun _ => rfl, rfl, fun _ hd => timersOf_cancel_of_ne L hd n⟩

theorem Agrees.trans {K M : DeliveryLedger} (h₁ : Agrees u L K) (h₂ : Agrees u K M) :
    Agrees u L M :=
  ⟨fun d => (h₂.health d).trans (h₁.health d), h₂.listeners.trans h₁.listeners,
    fun d hd => (h₂.timers d hd).trans (h₁.timers d hd)⟩

/-- Cancelling the handle a health object holds. -/
theorem Agrees.handle {K : DeliveryLedger} (h : DeviceHealth) (hu : h.uuid = u)
    (hK : Agrees u L K) : Agrees u L (h.handle.elim K K.cancel) := by
  unfold DeviceHealth.handle
  cases h.pending.filter PendingRequest.cancelTimeout with
  | none => exact hK
  | some p => exact hu ▸ hK.trans (hu ▸ .cancel p.serial)

/-- Resolving a health object that agrees with the stored one, in a ledger `K` that agrees with
the stored one, when that leaves no timer of the device armed. -/
theorem actsOn_resolve {K : DeliveryLedger} (hK : Agrees u L K) {h : DeviceHealth}
    (same : (L.health u).Same h) (outcome : DeliveryOutcome) (error : Option String)
    (responded : Bool) (observed : Observed) (content : Option String)
    (ht : L.TimersMatch u → (h.handle.elim K K.cancel).timersOf u = []) :
    ActsOn env stamp u L (K.resolve env h outcome error responded observed content) := by
  have hu : h.uuid = u := by rw [same.uuid, uuid_health]
  obtain ⟨hhealth, hlisteners, htimers⟩ := hK.handle h hu
  rw [resolve_eq]
  refine ⟨by rw [listeners_append, hlisteners], fun d hd => ⟨?_, ?_⟩, ?_, ?_,
    fun hm => ⟨?_, ?_⟩⟩
  · rw [health_append, if_neg (by simpa [hu] using hd), hhealth]
  · rw [timersOf_append, htimers d hd]
  · rw [effects_append]
    intro e he
    rw [about_recorded (by simp) e he]
    simpa using hu
  · rw [health_append, if_pos (by simp [hu]), effects_append, hlisteners]
    cases hp : h.pending with
    | none =>
      -- with nothing pending, the record is a note
      have hreq : h.request = none := by simp [DeviceHealth.request, hp]
      have hh : { h with pending := none : DeviceHealth } = h := by rw [← hp]
      rw [hreq, hh]
      exact (DeviceStep.quiet same).seq (.note _ rfl)
    | some p =>
      have hreq : h.request = some p.toRequest := by simp [DeviceHealth.request, hp]
      rw [hreq]
      exact (DeviceStep.quiet same).seq (.resolve hp outcome error responded observed rfl)
  · rw [timersOf_append, ht hm, health_append, if_pos (by simp [hu])]
    simp [DeviceHealth.request]
  · rw [health_append, if_pos (by simp [hu])]
    simp

/-- Cancelling the handle the pending request holds leaves no timer of the device armed. -/
theorem TimersMatch.timersOf_cancel (ht : L.TimersMatch u) :
    ((L.health u).handle.elim L L.cancel).timersOf u = [] := by
  rw [← List.map_eq_nil_iff (f := Timer.handle)]
  have harmed := ht.armed
  unfold DeviceHealth.request at harmed
  unfold DeviceHealth.handle
  cases hp : (L.health u).pending with
  | none => simpa [hp] using harmed
  | some p =>
    rw [hp] at harmed
    simp only [Option.filter, ht.held p hp, if_true, Option.map_some, uuid_health,
      Option.elim_some]
    rw [handles_cancel, harmed]
    simp

/-- Resolving the stored health object of a device. -/
theorem actsOn_resolve_stored (outcome : DeliveryOutcome) (error : Option String)
    (responded : Bool) (observed : Observed) (content : Option String) :
    ActsOn env stamp u L (L.resolve env (L.health u) outcome error responded observed content) :=
  actsOn_resolve .refl (.refl _) outcome error responded observed content
    fun ht => ht.timersOf_cancel

/-- Starting a request on a device without one. -/
theorem actsOn_startRequest (contentId : String) (source : Source)
    (sessionAtRequest : Option Int) (timeout : ℕ) (free : (L.health u).pending = none) :
    ActsOn env stamp u L (L.startRequest env u contentId source sessionAtRequest timeout) := by
  unfold startRequest
  refine ⟨rfl, fun d hd => ⟨?_, ?_⟩, by simp [Effect.uuid], ?_, fun ht => ⟨?_, ?_⟩⟩
  · exact DeviceTable.get_put_of_ne _ (by simpa using hd)
  · have hne : ¬ u = d := fun h => hd h.symm
    simp [timersOf, List.filter_append, hne]
  · simp only [health, DeviceTable.get_put]
    rw [if_pos (by simp)]
    exact .start free (uuid_health L u) rfl
  · have hreq : (L.health u).request = none := by simp [DeviceHealth.request, free]
    -- no timer of the device is armed, so the new one is the only one
    have hempty : L.timersOf u = [] := by
      have harmed := ht.armed
      rw [hreq] at harmed
      simpa using harmed
    simp only [health, DeviceTable.get_put]
    rw [if_pos (by simp)]
    simp only [timersOf, List.filter_append] at hempty ⊢
    simp [hempty, DeviceHealth.request, Timer.handle]
  · intro p hp
    simp only [health, DeviceTable.get_put] at hp
    rw [if_pos (by simp)] at hp
    rw [← Option.some.inj hp]

theorem actsOn_supersede : ActsOn env stamp u L (L.supersede env u) := by
  unfold supersede
  cases (L.health u).pending with
  | none => exact .refl
  | some p => exact actsOn_resolve_stored _ _ _ _ _

theorem supersede_free : ((L.supersede env u).1.health u).pending = none := by
  unfold supersede
  cases hp : (L.health u).pending with
  | none => exact hp
  | some p => exact pending_resolve (uuid_health L u) _ _ _ _ _

theorem actsOn_begin (contentId : String) (source : Source) (sessionAtRequest : Option Int)
    (timeout : ℕ) :
    ActsOn env stamp u L (L.asyncBeginRequest env u contentId source sessionAtRequest timeout) :=
  ActsOn.of_device <| actsOn_supersede.seq <|
    actsOn_startRequest contentId source sessionAtRequest timeout supersede_free

/-- A timer that fires without its request pending changes nothing of the device. -/
theorem actsOn_cancel (n : ℕ) (hn : ∀ p, (L.health u).pending = some p → p.serial ≠ n) :
    ActsOn env stamp u L (L.cancel (u, n), []) := by
  refine ⟨rfl, fun d hd => ⟨rfl, timersOf_cancel_of_ne L hd n⟩, by simp, .quiet (.refl _),
    fun ht => ⟨?_, ht.held⟩⟩
  rw [handles_cancel, health_cancel, ht.armed, List.filter_eq_self]
  intro handle hh
  obtain ⟨q, hq, rfl⟩ := List.mem_map.mp hh
  rw [DeviceHealth.request, Option.mem_toList, Option.map_eq_some_iff] at hq
  obtain ⟨p, hp, rfl⟩ := hq
  simpa using hn p hp

theorem actsOn_expire (timer : Timer) : ActsOn env stamp timer.uuid L (L.expire env timer) := by
  unfold expire
  simp only [health_cancel]
  cases hp : (L.health timer.uuid).pending with
  | none => exact actsOn_cancel timer.serial (by simp [hp])
  | some p =>
    simp only
    split_ifs with hserial
    · exact actsOn_cancel timer.serial (by simpa [hp] using hserial)
    · -- the timer that fired is the one the pending request holds: none is left armed
      refine actsOn_resolve (.cancel timer.serial) (DeviceHealth.same_clearTimeout _) _ _ _ _ _
        fun ht => ?_
      rw [ne_eq, not_not] at hserial
      rw [DeviceHealth.clearTimeout_handle, Option.elim_none,
        ← List.map_eq_nil_iff (f := Timer.handle), handles_cancel, ht.armed]
      simp [DeviceHealth.request, hp, hserial]

theorem actsOn_mediaStatus (status : MediaStatus) :
    ActsOn env stamp u L (L.asyncMediaStatus env u status) := by
  refine ActsOn.of_device ?_
  unfold asyncMediaStatus
  simp only [health_device]
  rw [← health_device L u u]
  cases (L.device u |>.health u).pending with
  | none =>
    -- an `ERROR` status that nobody asked for is a failure, any other is ignored
    simp only
    split_ifs
    · exact actsOn_resolve_stored _ _ _ _ _
    · exact .refl
  | some p =>
    simp only
    split_ifs
    · -- an `ERROR` status about other content is an observation
      exact actsOn_append _ rfl
    · exact actsOn_resolve_stored _ _ _ _ _
    · exact .refl
    · exact .refl
    · exact .refl
    · exact actsOn_resolve_stored _ _ _ _ _

theorem actsOn_loadMediaFailed (queueItemId errorCode : Option Int) :
    ActsOn env stamp u L (L.asyncLoadMediaFailed env u queueItemId errorCode) := by
  refine ActsOn.of_device ?_
  unfold asyncLoadMediaFailed
  simp only
  cases ((L.device u).health u).pending with
  | none => exact .refl
  | some p => exact actsOn_resolve_stored _ _ _ _ _

theorem actsOn_requestFailed (err : Raised) (connected : Option Bool)
    (launchFailure : Option String) :
    ActsOn env stamp u L (L.asyncRequestFailed env u err connected launchFailure) :=
  ActsOn.of_device (actsOn_resolve_stored _ _ _ _ _)

theorem actsOn_record (outcome : DeliveryOutcome) (source : Source)
    (contentId error : Option String) (responded : Bool) :
    ActsOn env stamp u L (L.asyncRecord env u outcome source contentId error responded) := by
  refine ActsOn.of_device ?_
  unfold asyncRecord
  simp only
  split_ifs
  · exact actsOn_resolve_stored _ _ _ _ _
  · exact actsOn_append _ rfl

theorem actsOn_updateIdentity (entityId name host : Option String) (port : Option ℕ)
    (seen : Bool) :
    ActsOn env stamp u L (L.asyncUpdateIdentity env u entityId name host port seen, []) :=
  actsOn_store (.quiet ⟨rfl, rfl, rfl, rfl, rfl, rfl, rfl, rfl⟩) rfl

theorem actsOn_restoreLastSuccess :
    ActsOn env stamp u L (L.restoreLastSuccess u stamp, []) := by
  refine ActsOn.of_device ?_
  unfold restoreLastSuccess
  simp only
  cases hs : ((L.device u).health u).lastSuccess with
  | some _ => exact .refl
  | none =>
    simp only
    exact actsOn_store (.restore hs) rfl

/-- A call about a device acts on that device alone. -/
theorem actsOn_step {c : Call} (hu : c.op.uuid? = some u) :
    ActsOn c.env (c.op.restored u) u L (L.step c) := by
  obtain ⟨env, op⟩ := c
  cases op <;> simp only [Op.uuid?, Option.some.injEq, reduceCtorEq] at hu <;> subst hu
  case device => exact ActsOn.of_device .refl
  case updateIdentity => exact actsOn_updateIdentity _ _ _ _ _
  case restoreLastSuccess u stamp =>
    rw [show (Op.restoreLastSuccess u stamp).restored u = stamp from if_pos rfl]
    exact actsOn_restoreLastSuccess
  case beginRequest => exact actsOn_begin _ _ _ _
  case expire => exact actsOn_expire _
  case mediaStatus => exact actsOn_mediaStatus _
  case loadMediaFailed => exact actsOn_loadMediaFailed _ _
  case requestFailed => exact actsOn_requestFailed _ _ _
  case record => exact actsOn_record _ _ _ _ _

/-- A call about the whole ledger has no effects and is quiet on every device. -/
theorem step_global {c : Call} (hu : c.op.uuid? = none) (d : UUID) :
    (L.step c).2 = [] ∧ (L.health d).Same ((L.step c).1.health d) := by
  obtain ⟨env, op⟩ := c
  cases op <;> simp only [Op.uuid?, reduceCtorEq] at hu
  case addListener => exact ⟨rfl, .refl _⟩
  case removeListener => exact ⟨rfl, .refl _⟩
  case shutdown =>
    refine ⟨rfl, ?_⟩
    have hmap : (L.asyncShutdown).health d = (L.health d).clearTimeout :=
      DeviceTable.get_map (f := DeviceHealth.clearTimeout) L.devices (fun _ => rfl) rfl
    show (L.health d).Same (L.asyncShutdown.health d)
    rw [hmap]
    exact DeviceHealth.same_clearTimeout _

/-- **What one call does to one device**, for every call and every device. -/
theorem step_device (L : DeliveryLedger) (c : Call) (d : UUID) :
    DeviceStep c.env L.listeners (c.op.restored d) (L.health d) ((L.step c).1.health d)
      ((L.step c).2.filter (Effect.about d)) := by
  cases hu : c.op.uuid? with
  | none =>
    obtain ⟨hnil, hsame⟩ := step_global (L := L) hu d
    rw [hnil]
    exact .quiet hsame
  | some u =>
    have hacts := actsOn_step (L := L) hu
    by_cases hd : d = u
    · rw [hd, hacts.filter_own]
      exact hacts.own
    · rw [hacts.filter_other hd, (hacts.others d hd).1]
      exact .quiet (.refl _)

/-- Every call but a shutdown keeps the pending request and the timers of a device matched. -/
theorem step_timersMatch {c : Call} (hs : c.op ≠ .shutdown) {d : UUID} (ht : L.TimersMatch d) :
    (L.step c).1.TimersMatch d := by
  cases hu : c.op.uuid? with
  | none =>
    obtain ⟨env, op⟩ := c
    cases op <;> simp only [Op.uuid?, reduceCtorEq] at hu
    case addListener => exact ⟨ht.armed, ht.held⟩
    case removeListener => exact ⟨ht.armed, ht.held⟩
    case shutdown => exact absurd rfl hs
  | some u =>
    have hacts := actsOn_step (L := L) hu
    by_cases hd : d = u
    · rw [hd] at ht ⊢
      exact hacts.timers ht
    · obtain ⟨hh, htm⟩ := hacts.others d hd
      exact ⟨by rw [hh, htm]; exact ht.armed, by rw [hh]; exact ht.held⟩

end DeliveryLedger
end CastDelivery
