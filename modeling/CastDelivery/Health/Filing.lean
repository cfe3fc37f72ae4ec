import CastDelivery.Health.Invariants

/-!
# The record of a call

A call of the ledger appends at most one record. `files_step` says which one: the operation decides
its outcome (`Op.outcome?`), and its source is that of the pending request it consumes, the one
that `async_record` was given, or `observed`. `emits_step` gives the shape of all the effects of a
call: those of one record, and last a request that begins.

`circuit_step`: no call touches `circuit_open_until`; only the listener of the coordinator does.
-/

namespace CastDelivery

/-- The outcome of the record that a call appends, if it appends one. -/
def Op.outcome? : Op → Option DeliveryOutcome
  | .beginRequest _ _ _ _ _ => some .unknown
  | .expire _ => some .timeout
  | .mediaStatus _ status => some (if status.isError then .fetchFailed else .ok)
  | .loadMediaFailed _ _ _ => some .fetchFailed
  | .requestFailed _ err connected launchFailure =>
    some (DeliveryLedger.classify err connected launchFailure).1
  | .record _ call => some call.outcome
  | _ => none

/-- A health object without its pending request. -/
def DeviceHealth.withoutPending (h : DeviceHealth) : DeviceHealth := { h with pending := none }

@[simp] theorem DeviceHealth.withoutPending_uuid (h : DeviceHealth) :
    h.withoutPending.uuid = h.uuid := rfl

theorem DeviceHealth.deliveryRecord_withoutPending (env : Env) (h : DeviceHealth) (dl : Delivery) :
    h.withoutPending.deliveryRecord env dl = h.deliveryRecord env dl := rfl

@[simp] theorem DeviceHealth.deliveryRecord_source (env : Env) (h : DeviceHealth) (dl : Delivery) :
    (h.deliveryRecord env dl).source = dl.source := rfl

@[simp] theorem DeviceHealth.account_circuitOpenUntil (h : DeviceHealth) (r : DeliveryRecord) :
    (h.account r).circuitOpenUntil = h.circuitOpenUntil := by
  unfold account setLast count
  split_ifs <;> rfl

/-- The record an effect is about. -/
def Effect.record? : Effect → Option DeliveryRecord
  | .appended record _ | .fired record | .called _ _ record => some record
  | .begun _ _ | .dispatched _ => none

theorem record?_of_mem_recorded {ls : List Listener} {h : DeviceHealth} {r r' : DeliveryRecord}
    {q : Option Request} {e : Effect} (he : e ∈ recorded ls h r q) (hr : e.record? = some r') :
    r' = r := by
  simp only [recorded, List.mem_append, List.mem_cons, List.not_mem_nil, or_false,
    List.mem_map] at he
  rcases he with (rfl | rfl | rfl) | ⟨l, -, rfl⟩
  · exact (Option.some.inj hr).symm
  · exact (Option.some.inj hr).symm
  · cases hr
  · exact (Option.some.inj hr).symm

namespace DeliveryLedger

/-- A record without a request comes from a status or from a call of `async_record`. -/
def Unasked (op : Op) (u : UUID) (source : Source) : Prop :=
  source = .observed ∨ ∃ call, op = .record u call ∧ source = call.source

/-- What a call appends, by what became of the pending request. -/
inductive Files (L : DeliveryLedger) (c : Call) : DeliveryLedger × List Effect → Prop
  | silent (L' : DeliveryLedger) : Files L c (L', [])
  | begun (L' : DeliveryLedger) (u : UUID) (q : Request) : Files L c (L', [.begun u q])
  | noted (L' : DeliveryLedger) (u : UUID) (dl : Delivery)
      (outcome : c.op.outcome? = some dl.outcome) (source : Unasked c.op u dl.source) :
      Files L c (L', recorded L.listeners
        ((L.health u).account ((L.health u).deliveryRecord c.env dl))
        ((L.health u).deliveryRecord c.env dl) none)
  | resolved (L' : DeliveryLedger) (u : UUID) (p : PendingRequest) (dl : Delivery)
      (pending : (L.health u).pending = some p) (outcome : c.op.outcome? = some dl.outcome)
      (source : dl.source = p.source) (free : (L'.health u).pending = none) :
      Files L c (L', recorded L.listeners
        ((L.health u).withoutPending.account ((L.health u).deliveryRecord c.env dl))
        ((L.health u).deliveryRecord c.env dl) (some p.toRequest))
  | superseded (L' : DeliveryLedger) (u : UUID) (p : PendingRequest) (dl : Delivery) (q : Request)
      (pending : (L.health u).pending = some p) (outcome : c.op.outcome? = some dl.outcome)
      (unknown : dl.outcome = .unknown) (source : dl.source = p.source) :
      Files L c (L', recorded L.listeners
        ((L.health u).withoutPending.account ((L.health u).deliveryRecord c.env dl))
        ((L.health u).deliveryRecord c.env dl) (some p.toRequest) ++ [.begun u q])

variable {L K : DeliveryLedger} {c : Call} {u d : UUID} {p : PendingRequest}

/-- Two ledgers with the same listeners and health objects, of which a call runs on the second. -/
structure Twin (L K : DeliveryLedger) : Prop where
  health : ∀ d, K.health d = L.health d
  listeners : K.listeners = L.listeners

theorem twin_device (L : DeliveryLedger) (u : UUID) : Twin L (L.device u) :=
  ⟨health_device L u, listeners_device L u⟩

theorem twin_cancel (L : DeliveryLedger) (handle : UUID × ℕ) : Twin L (L.cancel handle) :=
  ⟨health_cancel L handle, listeners_cancel L handle⟩

/-- What `_resolve` does to the listeners' view when a request is pending. -/
theorem resolve_pending (K : DeliveryLedger) {h : DeviceHealth} (hp : h.pending = some p)
    (env : Env) (outcome : DeliveryOutcome) (error : Option String) (responded : Bool)
    (observed : Observed) (content : Option String) :
    (K.resolve env h outcome error responded observed content).2
      = recorded K.listeners
          (h.withoutPending.account (h.deliveryRecord env
            (resolution env (some p) outcome error responded observed content)))
          (h.deliveryRecord env (resolution env (some p) outcome error responded observed content))
          (some p.toRequest) := by
  have hls : (h.handle.elim K K.cancel).listeners = K.listeners := by cases h.handle <;> rfl
  rw [resolve_eq, effects_append, hls, DeviceHealth.request, hp]
  rfl

/-- Resolving the pending request of a device files its record. -/
theorem Files.resolve (hK : Twin L K) (hp : (L.health u).pending = some p)
    {h : DeviceHealth} (hh : h.withoutPending = (L.health u).withoutPending)
    {p' : PendingRequest} (hp' : h.pending = some p') (hsame : p'.toRequest = p.toRequest)
    {outcome : DeliveryOutcome} (ho : c.op.outcome? = some outcome) (error : Option String)
    (responded : Bool) (observed : Observed) (content : Option String) :
    Files L c (K.resolve c.env h outcome error responded observed content) := by
  have hu : h.uuid = u := (congrArg DeviceHealth.uuid hh).trans (uuid_health L u)
  have hrecord : ∀ dl, h.deliveryRecord c.env dl = (L.health u).deliveryRecord c.env dl := by
    intro dl
    rw [← DeviceHealth.deliveryRecord_withoutPending, hh]
    rfl
  have hfiles : Files L c _ :=
    .resolved (K.resolve c.env h outcome error responded observed content).1 u p
      (resolution c.env (some p') outcome error responded observed content) hp ho
      (congrArg Request.source hsame) (pending_resolve hu outcome error responded observed content)
  rw [← hK.listeners, ← hh, ← hrecord, ← hsame, ← resolve_pending K hp'] at hfiles
  exact hfiles

/-- Resolving the stored health object. -/
theorem Files.resolve_stored (hK : Twin L K) (hp : (L.health u).pending = some p)
    {outcome : DeliveryOutcome} (ho : c.op.outcome? = some outcome) (error : Option String)
    (responded : Bool) (observed : Observed) (content : Option String) :
    Files L c (K.resolve c.env (L.health u) outcome error responded observed content) :=
  Files.resolve hK hp rfl hp rfl ho error responded observed content

/-- Appending a record without a request. -/
theorem Files.append (hK : Twin L K) (dl : Delivery) (ho : c.op.outcome? = some dl.outcome)
    (hs : Unasked c.op u dl.source) : Files L c (K.append c.env (L.health u) dl none) := by
  have hfiles : Files L c _ := .noted (K.append c.env (L.health u) dl none).1 u dl ho hs
  rw [← hK.listeners, ← effects_append] at hfiles
  exact hfiles

/-- Resolving without a pending request files an observation. -/
theorem Files.observe (hK : Twin L K) (hp : (L.health u).pending = none)
    {outcome : DeliveryOutcome} (ho : c.op.outcome? = some outcome) (error : Option String)
    (responded : Bool) (observed : Observed) (content : Option String) :
    Files L c (K.resolve c.env (L.health u) outcome error responded observed content) := by
  have hsame : { L.health u with pending := none } = L.health u := by rw [← hp]
  have hhandle : (L.health u).handle = none := by simp [DeviceHealth.handle, hp]
  have hrequest : (L.health u).request = none := by simp [DeviceHealth.request, hp]
  rw [resolve_eq, hhandle, hp, hrequest, hsame]
  exact .append hK _ ho (.inl rfl)

/-- **What every call appends.** -/
theorem files_step (L : DeliveryLedger) (c : Call) : Files L c (L.step c) := by
  obtain ⟨env, op⟩ := c
  -- one case for each branch of the source that files a record, `silent` for the others
  cases op with
  | addListener | removeListener | device | updateIdentity | restoreLastSuccess | shutdown =>
    exact .silent _
  | beginRequest u contentId source session timeout =>
    simp only [step, asyncBeginRequest, supersede, startRequest, health_device]
    cases hp : (L.health u).pending with
    | none => exact .begun _ u _
    | some p =>
      simp only [resolve_pending (L.device u) hp, listeners_device]
      exact .superseded _ u p _ _ hp rfl rfl rfl
  | expire timer =>
    simp only [step]
    by_cases hown : ∃ p, (L.health timer.uuid).pending = some p ∧ p.serial = timer.serial
    · obtain ⟨p, hp, hserial⟩ := hown
      rw [expire_own timer hp hserial]
      have hcleared : (L.health timer.uuid).clearTimeout.pending
          = some { p with cancelTimeout := false } := by simp [DeviceHealth.clearTimeout, hp]
      exact Files.resolve (c := ⟨env, .expire timer⟩) (h := (L.health timer.uuid).clearTimeout)
        (twin_cancel L _) hp rfl hcleared rfl rfl _ _ _ _
    · push Not at hown
      rw [expire_stale timer hown]
      exact .silent _
  | mediaStatus u status =>
    simp only [step]
    cases herror : status.isError with
    | true =>
      have ho : (Op.mediaStatus u status).outcome? = some .fetchFailed := by
        simp [Op.outcome?, herror]
      cases hp : (L.health u).pending with
      | none =>
        rw [mediaStatus_unsolicited hp herror]
        exact .observe (twin_device L u) hp ho _ _ _ _
      | some p =>
        by_cases hblames : Blames status p.toRequest
        · rw [mediaStatus_blames hp hblames]
          exact .resolve_stored (twin_device L u) hp ho _ _ _ _
        · rw [mediaStatus_other_error hp herror hblames]
          exact .append (twin_device L u) _ ho (.inl rfl)
    | false =>
      by_cases hconfirms : ∃ p, (L.health u).pending = some p ∧ Confirms status p.toRequest
      · obtain ⟨p, hp, hconfirms⟩ := hconfirms
        rw [mediaStatus_confirms hp hconfirms]
        exact .resolve_stored (twin_device L u) hp (by simp [Op.outcome?, herror]) _ _ _ _
      · push Not at hconfirms
        rw [mediaStatus_ignored herror hconfirms]
        exact .silent _
  | loadMediaFailed u queueItemId errorCode =>
    simp only [step, asyncLoadMediaFailed, health_device]
    cases hp : (L.health u).pending with
    | none => exact .silent _
    | some p => exact .resolve_stored (twin_device L u) hp rfl _ _ _ _
  | requestFailed u err connected launchFailure =>
    simp only [step, asyncRequestFailed, health_device]
    cases hp : (L.health u).pending with
    | none => exact .observe (twin_device L u) hp rfl _ _ _ _
    | some p => exact .resolve_stored (twin_device L u) hp rfl _ _ _ _
  | record u call =>
    simp only [step, asyncRecord, health_device]
    cases hp : (L.health u).pending with
    | none => exact .append (twin_device L u) _ rfl (.inr ⟨call, rfl, rfl⟩)
    | some p =>
      simp only [Option.any_some]
      split
      · exact .resolve_stored (twin_device L u) hp rfl _ _ _ _
      · exact .append (twin_device L u) _ rfl (.inr ⟨call, rfl, rfl⟩)

/-! ## What the listeners are told -/

/-- Every effect of a call that is about a record has the outcome of the call. -/
theorem outcome_record? {e : Effect} {r : DeliveryRecord} (he : e ∈ (L.step c).2)
    (hr : e.record? = some r) : c.op.outcome? = some r.outcome := by
  have hfiles := files_step L c
  generalize L.step c = after at hfiles he
  cases hfiles with
  | silent => cases he
  | begun =>
    rw [List.mem_singleton] at he
    subst he
    cases hr
  | noted L' u dl outcome | resolved L' u p dl _ outcome =>
    rw [record?_of_mem_recorded he hr]
    exact outcome
  | superseded L' u p dl q _ outcome =>
    rcases List.mem_append.mp he with he | he
    · rw [record?_of_mem_recorded he hr]
      exact outcome
    · rw [List.mem_singleton] at he
      subst he
      cases hr

/-- A listener is called with a record of the call, and with the health object after it. -/
structure Told (L : DeliveryLedger) (c : Call) (L' : DeliveryLedger) (h : DeviceHealth)
    (r : DeliveryRecord) : Prop where
  uuid : r.uuid = h.uuid
  outcome : c.op.outcome? = some r.outcome
  source : Unasked c.op h.uuid r.source ∨
    ∃ p, (L.health h.uuid).pending = some p ∧ r.source = p.source ∧
      (r.outcome ≠ .unknown → (L'.health h.uuid).pending = none)
  timeouts : r.outcome = .timeout →
    h.consecutiveTimeouts = (L.health h.uuid).consecutiveTimeouts + 1

theorem timeouts_account (h : DeviceHealth) {r : DeliveryRecord} (hr : r.outcome = .timeout) :
    (h.account r).consecutiveTimeouts = h.consecutiveTimeouts + 1 := by
  simp [DeviceHealth.account, DeviceHealth.setLast, DeviceHealth.count, FAILURE_OUTCOMES, hr]

theorem mem_recorded_called {ls : List Listener} {h h' : DeviceHealth} {r r' : DeliveryRecord}
    {q : Option Request} {l : Listener} :
    .called l h r ∈ recorded ls h' r' q ↔ l ∈ ls ∧ h = h' ∧ r = r' := by
  simp [recorded, eq_comm]

/-- The record of a call, with the health object that the listeners get. -/
structure Records (L : DeliveryLedger) (c : Call) (r : DeliveryRecord) (h : DeviceHealth) :
    Prop where
  told : Told L c (L.step c).1 h r
  only : CastDelivery.records (L.step c).2 = [r]
  about : ∀ e ∈ (L.step c).2, ∀ r', e.record? = some r' → r' = r
  called : ∀ l h' r', .called l h' r' ∈ (L.step c).2 ↔ l ∈ L.listeners ∧ h' = h ∧ r' = r

theorem Records.of_recorded {L' : DeliveryLedger} {h : DeviceHealth} {r : DeliveryRecord}
    {q : Option Request} {b : List (UUID × Request)}
    (hafter : L.step c = (L', recorded L.listeners h r q ++ b.map fun x => .begun x.1 x.2))
    (told : Told L c L' h r) : Records L c r h where
  told := by
    rw [hafter]
    exact told
  only := by
    have hbegun : CastDelivery.records (b.map fun x => .begun x.1 x.2) = [] := by
      unfold CastDelivery.records
      rw [List.filterMap_map, List.filterMap_eq_nil_iff]
      exact fun _ _ => rfl
    rw [hafter, records_append, records_recorded, hbegun]
    rfl
  about e he r' hr := by
    rw [hafter] at he
    rcases List.mem_append.mp he with he | he
    · exact record?_of_mem_recorded he hr
    · obtain ⟨b, -, rfl⟩ := List.mem_map.mp he
      cases hr
  called l h' r' := by
    rw [hafter, List.mem_append, mem_recorded_called]
    simp

/-- **What a call tells its listeners.** -/
theorem files_told (L : DeliveryLedger) (c : Call) :
    (∀ e ∈ (L.step c).2, e.record? = none) ∨ ∃ r h, Records L c r h := by
  have hfiles := files_step L c
  cases hafter : L.step c with
  | mk L' es =>
    rw [hafter] at hfiles
    cases hfiles with
    | silent | begun => exact .inl (by simp [Effect.record?])
    | noted _ u dl outcome source =>
      refine .inr ⟨_, _, .of_recorded (b := []) (hafter.trans (by rw [List.map_nil,
        List.append_nil])) ⟨by simp, outcome, .inl (by simpa using source), fun hr => ?_⟩⟩
      rw [timeouts_account _ hr]
      simp
    -- the record answers the pending request, which is gone afterwards
    | resolved _ u p dl pending outcome source free =>
      refine .inr ⟨_, _, .of_recorded (b := []) (hafter.trans (by rw [List.map_nil,
        List.append_nil])) ⟨by simp, outcome, .inr ⟨p, by simpa using pending, source,
          fun _ => by simpa using free⟩, fun hr => ?_⟩⟩
      rw [timeouts_account _ hr]
      simp [DeviceHealth.withoutPending]
    | superseded _ u p dl q pending outcome unknown source =>
      refine .inr ⟨_, _, .of_recorded (b := [(u, q)]) hafter ⟨by simp, outcome,
        .inr ⟨p, by simpa using pending, source, fun h => absurd unknown h⟩, fun hr => ?_⟩⟩
      rw [timeouts_account _ hr]
      simp [DeviceHealth.withoutPending]

/-- An effect about a record comes from the record of the call. -/
theorem records_of_effect {e : Effect} {r : DeliveryRecord} (he : e ∈ (L.step c).2)
    (hr : e.record? = some r) : ∃ h, Records L c r h := by
  rcases files_told L c with hnone | ⟨r', h, hrecords⟩
  · rw [hnone e he] at hr
    cases hr
  · rw [hrecords.about e he r hr]
    exact ⟨h, hrecords⟩

theorem told_step {l : Listener} {h : DeviceHealth} {r : DeliveryRecord}
    (hmem : .called l h r ∈ (L.step c).2) : Told L c (L.step c).1 h r := by
  obtain ⟨h', hrecords⟩ := records_of_effect hmem rfl
  obtain ⟨-, rfl, -⟩ := (hrecords.called l h r).mp hmem
  exact hrecords.told

/-- A call tells every listener the same. -/
theorem told_unique {l l' : Listener} {h h' : DeviceHealth} {r r' : DeliveryRecord}
    (hmem : .called l h r ∈ (L.step c).2) (hmem' : .called l' h' r' ∈ (L.step c).2) :
    h = h' ∧ r = r' := by
  obtain ⟨k, hrecords⟩ := records_of_effect hmem rfl
  obtain ⟨-, rfl, -⟩ := (hrecords.called l h r).mp hmem
  obtain ⟨-, rfl, rfl⟩ := (hrecords.called l' h' r').mp hmem'
  exact ⟨rfl, rfl⟩

/-- The record of a call is all that the call adds to the records of its device. -/
theorem Records.history {r : DeliveryRecord} {h : DeviceHealth} (hrecords : Records L c r h) :
    CastDelivery.records (history r.uuid (L.step c).2) = [r] := by
  have hmem : r ∈ CastDelivery.records (L.step c).2 := by
    rw [hrecords.only]
    exact List.mem_singleton_self r
  obtain ⟨q, hq⟩ := mem_records.mp hmem
  cases hu : c.op.uuid? with
  | none =>
    rw [(step_global (L := L) hu r.uuid).1] at hq
    cases hq
  | some v =>
    have hacts := actsOn_step (L := L) hu
    obtain rfl : r.uuid = v := hacts.about _ hq
    rw [CastDelivery.history, hacts.filter_own, hrecords.only]

/-! ## The effects of each operation -/

variable {env : Env}

/-- The effects of a call, by the operation called. -/
inductive Emits (ls : List Listener) : Op → List Effect → Prop
  | silent (op : Op) : Emits ls op []
  | record (op : Op) (h : DeviceHealth) (r : DeliveryRecord) (q : Option Request) :
      Emits ls op (recorded ls h r q)
  | begin (u : UUID) (contentId : String) (source : Source) (session : Option Int)
      (timeout : ℕ) {request : Request} (hs : request.source = source) :
      Emits ls (.beginRequest u contentId source session timeout) [.begun u request]
  | supersede (u : UUID) (contentId : String) (source : Source) (session : Option Int)
      (timeout : ℕ) {request : Request} (hs : request.source = source) (h : DeviceHealth)
      (r : DeliveryRecord) (q : Option Request) :
      Emits ls (.beginRequest u contentId source session timeout)
        (recorded ls h r q ++ [.begun u request])

theorem effects_resolve (env : Env) (L : DeliveryLedger) (h : DeviceHealth)
    (outcome : DeliveryOutcome) (error : Option String) (responded : Bool) (observed : Observed)
    (content : Option String) :
    ∃ h' r q, (L.resolve env h outcome error responded observed content).2
      = recorded L.listeners h' r q := by
  have hls : (h.handle.elim L L.cancel).listeners = L.listeners := by cases h.handle <;> rfl
  rw [resolve_eq, effects_append, hls]
  exact ⟨_, _, _, rfl⟩

theorem emits_resolve {K : DeliveryLedger} (hK : K.listeners = L.listeners) (op : Op)
    (h : DeviceHealth) (outcome : DeliveryOutcome) (error : Option String) (responded : Bool)
    (observed : Observed) (content : Option String) :
    Emits L.listeners op (K.resolve env h outcome error responded observed content).2 := by
  obtain ⟨h', r, q, heq⟩ := effects_resolve env K h outcome error responded observed content
  rw [heq, hK]
  exact .record op h' r q

theorem emits_append {K : DeliveryLedger} (hK : K.listeners = L.listeners) (op : Op)
    (h : DeviceHealth) (dl : Delivery) (q : Option Request) :
    Emits L.listeners op (K.append env h dl q).2 := by
  rw [effects_append, hK]
  exact .record op _ _ q

/-- **The effects of every call.** -/
theorem emits_step (L : DeliveryLedger) (c : Call) : Emits L.listeners c.op (L.step c).2 := by
  obtain ⟨env, op⟩ := c
  cases op with
  | addListener | removeListener | device | updateIdentity | restoreLastSuccess | shutdown =>
    exact .silent _
  | beginRequest u contentId source session timeout =>
    simp only [step, asyncBeginRequest, supersede, startRequest]
    cases ((L.device u).health u).pending with
    | none => exact .begin u contentId source session timeout rfl
    | some p =>
      obtain ⟨h', r, q, heq⟩ := effects_resolve env (L.device u) ((L.device u).health u) .unknown
        (some "superseded by a newer request before any state transition") false {} none
      simp only [heq, listeners_device]
      exact .supersede u contentId source session timeout rfl h' r q
  | expire timer =>
    simp only [step, expire]
    split
    · split
      · exact .silent _
      · exact emits_resolve (listeners_cancel L _) _ _ _ _ _ _ _
    · exact .silent _
  | mediaStatus u status =>
    simp only [step, asyncMediaStatus]
    cases ((L.device u).health u).pending with
    | none =>
      simp only
      split_ifs
      · exact emits_resolve (listeners_device L u) _ _ _ _ _ _ _
      · exact .silent _
    | some p =>
      simp only
      split_ifs
      · exact emits_append (listeners_device L u) _ _ _ _
      · exact emits_resolve (listeners_device L u) _ _ _ _ _ _ _
      · exact .silent _
      · exact .silent _
      · exact .silent _
      · exact emits_resolve (listeners_device L u) _ _ _ _ _ _ _
  | loadMediaFailed u queueItemId errorCode =>
    simp only [step, asyncLoadMediaFailed]
    split
    · exact .silent _
    · exact emits_resolve (listeners_device L u) _ _ _ _ _ _ _
  | requestFailed u err connected launchFailure =>
    exact emits_resolve (listeners_device L u) _ _ _ _ _ _ _
  | record u call =>
    simp only [step, asyncRecord]
    split_ifs
    · exact emits_resolve (listeners_device L u) _ _ _ _ _ _ _
    · exact emits_append (listeners_device L u) _ _ _ _

/-- A call appends at most one record. -/
theorem length_records_step (L : DeliveryLedger) (c : Call) :
    (CastDelivery.records (L.step c).2).length ≤ 1 := by
  have hemits := emits_step L c
  generalize c.op = op, (L.step c).2 = es at hemits
  cases hemits with
  | silent => exact Nat.zero_le 1
  | record => simp
  | begin => exact Nat.zero_le 1
  | supersede =>
    rw [records_append, records_recorded]
    exact Nat.le_refl 1

/-- A call that begins a request is one of `async_begin_request` with its source. -/
theorem begun_step {L : DeliveryLedger} {c : Call} {q : Request}
    (hq : q ∈ Slot.opened (slotEvents (L.step c).2)) :
    ∃ u contentId session timeout, c.op = .beginRequest u contentId q.source session timeout := by
  have hemits := emits_step L c
  generalize c.op = op, (L.step c).2 = es at hemits hq
  cases hemits with
  | silent => cases hq
  | record => simp at hq
  | begin u contentId source session timeout hs =>
    obtain rfl : q = _ := by simpa [slotEvents, Slot.opened] using hq
    exact ⟨u, contentId, session, timeout, by rw [hs]⟩
  | supersede u contentId source session timeout hs h r q' =>
    rw [slotEvents_append, slotEvents_recorded, Slot.opened_append, Slot.opened_map_closed] at hq
    obtain rfl : q = _ := by simpa [slotEvents, Slot.opened] using hq
    exact ⟨u, contentId, session, timeout, by rw [hs]⟩

/-! ## Circuits -/

/-- The circuits of every device are the same in both ledgers. -/
def SameCircuits (L K : DeliveryLedger) : Prop :=
  ∀ d, (K.health d).circuitOpenUntil = (L.health d).circuitOpenUntil

theorem SameCircuits.refl (L : DeliveryLedger) : SameCircuits L L := fun _ => rfl

theorem SameCircuits.of_health {M : DeliveryLedger} (hK : ∀ d, K.health d = L.health d)
    (h : SameCircuits K M) : SameCircuits L M := by
  intro d
  rw [h d, hK d]

theorem sameCircuits_device (L : DeliveryLedger) (u : UUID) : SameCircuits L (L.device u) := by
  intro d
  rw [health_device]

theorem sameCircuits_store {h : DeviceHealth}
    (hc : h.circuitOpenUntil = (L.health h.uuid).circuitOpenUntil) :
    SameCircuits L (L.store h) := by
  intro d
  rw [health_store]
  split
  · next hd => rw [hc, hd]
  · rfl

theorem sameCircuits_append (env : Env) {h : DeviceHealth}
    (hc : h.circuitOpenUntil = (L.health h.uuid).circuitOpenUntil) (dl : Delivery)
    (q : Option Request) : SameCircuits L (L.append env h dl q).1 := by
  intro d
  rw [health_append]
  split
  · next hd => rw [DeviceHealth.account_circuitOpenUntil, hc, hd]
  · rfl

theorem sameCircuits_resolve (env : Env) {h : DeviceHealth}
    (hc : h.circuitOpenUntil = (L.health h.uuid).circuitOpenUntil) (outcome : DeliveryOutcome)
    (error : Option String) (responded : Bool) (observed : Observed) (content : Option String) :
    SameCircuits L (L.resolve env h outcome error responded observed content).1 := by
  have hcancelled : ∀ d, (h.handle.elim L L.cancel).health d = L.health d := by
    intro d
    cases h.handle <;> rfl
  rw [resolve_eq]
  refine .of_health hcancelled (sameCircuits_append env ?_ _ _)
  rw [hcancelled]
  exact hc

theorem circuit_health (L : DeliveryLedger) (u : UUID) :
    (L.health u).circuitOpenUntil = (L.health (L.health u).uuid).circuitOpenUntil := by
  rw [uuid_health]

/-- Storing a request that begins. -/
theorem sameCircuits_startRequest (env : Env) (L : DeliveryLedger) (u : UUID)
    (contentId : String) (source : Source) (session : Option Int) (timeout : ℕ) :
    SameCircuits L (L.startRequest env u contentId source session timeout).1 := by
  intro d
  unfold startRequest
  simp only [health, DeviceTable.get_put]
  split
  · next hd =>
    rw [hd]
    exact circuit_health L u
  · rfl

theorem sameCircuits_expire (env : Env) (L : DeliveryLedger) (timer : Timer) :
    SameCircuits L (L.expire env timer).1 := by
  by_cases hown : ∃ p, (L.health timer.uuid).pending = some p ∧ p.serial = timer.serial
  · obtain ⟨p, hp, hserial⟩ := hown
    rw [expire_own timer hp hserial]
    exact .of_health (health_cancel L timer.handle)
      (sameCircuits_resolve env (L := L.cancel timer.handle)
        (h := (L.health timer.uuid).clearTimeout) (circuit_health L timer.uuid) _ _ _ _ _)
  · push Not at hown
    rw [expire_stale timer hown]
    exact fun _ => rfl

theorem sameCircuits_mediaStatus (env : Env) (L : DeliveryLedger) (u : UUID)
    (status : MediaStatus) : SameCircuits L (L.asyncMediaStatus env u status).1 := by
  -- every branch but the ignored status ends in `_resolve` or `_append`
  have hresolve : ∀ outcome error responded observed content, SameCircuits L
      ((L.device u).resolve env (L.health u) outcome error responded observed content).1 := by
    intro outcome error responded observed content
    refine .of_health (health_device L u) (sameCircuits_resolve env ?_ _ _ _ _ _)
    rw [health_device]
    exact circuit_health L u
  cases herror : status.isError with
  | true =>
    cases hp : (L.health u).pending with
    | none =>
      rw [mediaStatus_unsolicited hp herror]
      exact hresolve _ _ _ _ _
    | some p =>
      by_cases hblames : Blames status p.toRequest
      · rw [mediaStatus_blames hp hblames]
        exact hresolve _ _ _ _ _
      · rw [mediaStatus_other_error hp herror hblames]
        refine .of_health (health_device L u) (sameCircuits_append env ?_ _ _)
        rw [health_device]
        exact circuit_health L u
  | false =>
    by_cases hconfirms : ∃ p, (L.health u).pending = some p ∧ Confirms status p.toRequest
    · obtain ⟨p, hp, hconfirms⟩ := hconfirms
      rw [mediaStatus_confirms hp hconfirms]
      exact hresolve _ _ _ _ _
    · push Not at hconfirms
      rw [mediaStatus_ignored herror hconfirms]
      exact sameCircuits_device L u

/-- **No call touches a circuit.** -/
theorem circuit_step (L : DeliveryLedger) (c : Call) : SameCircuits L (L.step c).1 := by
  obtain ⟨env, op⟩ := c
  cases op with
  | addListener | removeListener => exact fun _ => rfl
  | device u => exact sameCircuits_device L u
  | updateIdentity u => exact sameCircuits_store (circuit_health L u)
  | restoreLastSuccess u stamp =>
    simp only [step, restoreLastSuccess]
    split
    · exact sameCircuits_device L u
    · exact .of_health (health_device L u) (sameCircuits_store (circuit_health _ u))
  | beginRequest u contentId source session timeout =>
    -- the request that it supersedes is resolved first
    have hsuperseded : SameCircuits (L.device u) ((L.device u).supersede env u).1 := by
      unfold supersede
      split
      · exact sameCircuits_resolve env (circuit_health _ u) _ _ _ _ _
      · exact .refl _
    intro d
    simp only [step, asyncBeginRequest]
    rw [sameCircuits_startRequest, hsuperseded, health_device]
  | expire timer => exact sameCircuits_expire env L timer
  | mediaStatus u status => exact sameCircuits_mediaStatus env L u status
  | loadMediaFailed u queueItemId errorCode =>
    refine .of_health (health_device L u) ?_
    simp only [step, asyncLoadMediaFailed]
    split
    · exact .refl _
    · exact sameCircuits_resolve env (circuit_health _ u) _ _ _ _ _
  | requestFailed u err connected launchFailure =>
    exact .of_health (health_device L u) (sameCircuits_resolve env (circuit_health _ u) _ _ _ _ _)
  | record u call =>
    refine .of_health (health_device L u) ?_
    simp only [step, asyncRecord]
    split
    · exact sameCircuits_resolve env (circuit_health _ u) _ _ _ _ _
    · exact sameCircuits_append env (circuit_health _ u) _ _
  | shutdown =>
    intro d
    have hmap : L.asyncShutdown.health d = (L.health d).clearTimeout :=
      DeviceTable.get_map L.devices (f := DeviceHealth.clearTimeout) (u := d) (fun _ => rfl) rfl
    simp only [step, hmap]
    rfl

end DeliveryLedger

end CastDelivery
