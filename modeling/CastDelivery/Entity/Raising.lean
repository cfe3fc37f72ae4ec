import CastDelivery.Entity.Run
import CastDelivery.Playback.Override

/-!
# Plays that raise

`_async_quick_play_tracked` begins a request and then waits for its job. The handlers around the
wait are for `TimeoutError` and `HomeAssistantError`; `api_error` has made one of the latter of
each `PyChromecastError`. Any other exception passes them, and leaves the request pending until
its timer records a `TIMEOUT`. `settles_iff_caught` is the exact condition under which no play
leaves its request behind.
-/

namespace CastDelivery
namespace Entity

variable {uuid : UUID} {S : Entity} {i : Input} {os : List Output} {id : ℕ} {caller : Caller}
  {request : Request} {err : Raised}

/-- A call that has begun a request ends with an exception, of its job or of the wait for it. -/
inductive Raises (S : Entity) (i : Input) (id : ℕ) (caller : Caller) (request : Request)
    (err : Raised) : Prop
  | job (available : Bool) (event : i.event = .resumes id)
      (call : S.calls.get? id = some ⟨caller, .playing request (.raised err available)⟩)
  | watchdog (job : Job) (event : i.event = .watchdog id)
      (call : S.calls.get? id = some ⟨caller, .playing request job⟩) (timeout : err = watchdogError)
  | cancelled (job : Job) (event : i.event = .cancelled id)
      (call : S.calls.get? id = some ⟨caller, .playing request job⟩)
      (cancelled : err = cancelledError)

theorem Raises.inFlight (h : Raises S i id caller request err) :
    ∃ job, S.calls.get? id = some ⟨caller, .playing request job⟩ := by
  cases h with
  | job available event call => exact ⟨_, call⟩
  | watchdog job event call => exact ⟨_, call⟩
  | cancelled job event call => exact ⟨_, call⟩

/-- The call handles its exception. -/
theorem Raises.step_eq (h : Raises S i id caller request err) :
    S.step i = S.fail i.readings id caller err := by
  cases h with
  | job available event call => simp only [Entity.step, event, call]
  | watchdog job event call timeout => simp only [Entity.step, event, call, timeout]
  | cancelled job event call cancelled => simp only [Entity.step, event, call, cancelled]

/-! ## The end of a call -/

theorem ended_mem_finish {n : ℕ} {c : Caller} {r raised : Bool} :
    .ended n c r ∈ (S.finish id caller raised).2 ↔ n = id ∧ c = caller ∧ r = raised := by
  unfold finish
  split <;> simp

theorem ended_notMem_ledgerCall {n : ℕ} {c : Caller} {r : Bool} {call : Option (ℕ × Caller)}
    {k : Call} : .ended n c r ∉ (S.ledgerCall call k).2 := by
  simp [ledgerCall]

theorem ended_mem_fail {R : Readings} {n : ℕ} {c : Caller} {r : Bool} :
    .ended n c r ∈ (S.fail R id caller err).2 ↔ n = id ∧ c = caller ∧ r = true := by
  unfold fail
  cases S.failureCall caller err with
  | none => simp [ended_mem_finish]
  | some op => simp [ended_mem_finish, ended_notMem_ledgerCall]

theorem ended_mem_advance {R : Readings} {n : ℕ} {c : Caller} {r : Bool} {next : Next}
    (h : .ended n c r ∈ (S.advance R id caller next).2) : n = id ∧ c = caller := by
  cases next with
  | raises | returns =>
    obtain ⟨hn, hc, -⟩ := ended_mem_finish.mp h
    exact ⟨hn, hc⟩
  | byPlatform =>
    simp only [advance, List.mem_cons, reduceCtorEq, false_or] at h
    obtain ⟨hn, hc, -⟩ := ended_mem_finish.mp h
    exact ⟨hn, hc⟩
  | pause p => cases h
  | quickPlay appName appData => exact absurd h ended_notMem_ledgerCall

theorem ended_mem_announce {R : Readings} {rendering : Rendering} {speech : String → Speech}
    {n : ℕ} {c : Caller} {r : Bool} (h : .ended n c r ∈ (S.announce R rendering speech).2) :
    n = S.started := by
  unfold announce at h
  split at h
  · rcases List.mem_append.mp h with h | h
    · exact absurd h ended_notMem_ledgerCall
    · exact (Output.ended.inj (List.mem_singleton.mp h)).1
  · exact (Output.ended.inj (List.mem_singleton.mp h)).1
  · simp only [List.mem_cons, reduceCtorEq, false_or] at h
    exact (ended_mem_advance h).1

theorem playing_inj {calls : Dict ℕ Ongoing} {c : Caller} {request' : Request} {job job' : Job}
    (h : calls.get? id = some ⟨caller, .playing request job⟩)
    (h' : calls.get? id = some ⟨c, .playing request' job'⟩) :
    caller = c ∧ request = request' ∧ job = job' := by
  rw [h] at h'
  simpa using h'

/-- **The exceptions of a play.** A call that has begun a request and ends with an exception is one
that handles the exception of its job, or of the wait for it. -/
theorem ended_iff_raises (h : Tracked uuid S os) {job : Job}
    (hcall : S.calls.get? id = some ⟨caller, .playing request job⟩) :
    .ended id caller true ∈ (S.step i).2 ↔ ∃ err, Raises S i id caller request err := by
  constructor
  · intro hended
    -- a call that starts has another number
    have hstarted : id ≠ S.started := Nat.ne_of_lt (h.inFlight id _ hcall)
    obtain ⟨R, event⟩ := i
    cases event with
    | announce rendering speech => exact absurd (ended_mem_announce hended) hstarted
    | playMedia media => exact absurd (ended_mem_advance hended).1 hstarted
    | probe url => exact absurd hended ended_notMem_ledgerCall
    | answered n answer =>
      simp only [Entity.step] at hended
      split at hended
      · next c p hn =>
        split at hended
        · have hid : id = n := (ended_mem_advance hended).1
          rw [← hid, hcall] at hn
          simp at hn
        · cases hended
      · cases hended
    | jobStarts n =>
      simp only [Entity.step] at hended
      split at hended <;> cases hended
    | jobEnds n err =>
      simp only [Entity.step] at hended
      split at hended
      · split at hended <;> cases hended
      · cases hended
    | resumes n =>
      simp only [Entity.step] at hended
      split at hended
      · simp [ended_mem_finish] at hended
      · next c request' err available hn =>
        obtain ⟨rfl, -, -⟩ := ended_mem_fail.mp hended
        obtain ⟨rfl, rfl, rfl⟩ := playing_inj hcall hn
        exact ⟨err, .job available rfl hn⟩
      · cases hended
    | watchdog n =>
      simp only [Entity.step] at hended
      split at hended
      · next c request' job' hn =>
        obtain ⟨rfl, -, -⟩ := ended_mem_fail.mp hended
        obtain ⟨rfl, rfl, rfl⟩ := playing_inj hcall hn
        exact ⟨_, .watchdog job rfl hn rfl⟩
      · cases hended
    | cancelled n =>
      simp only [Entity.step] at hended
      split at hended
      · next c request' job' hn =>
        obtain ⟨rfl, -, -⟩ := ended_mem_fail.mp hended
        obtain ⟨rfl, rfl, rfl⟩ := playing_inj hcall hn
        exact ⟨_, .cancelled job rfl hn rfl⟩
      · next c p hn =>
        obtain ⟨rfl, -, -⟩ := ended_mem_finish.mp hended
        rw [hcall] at hn
        simp at hn
      · cases hended
    | connects | connection | launch => cases hended
    | ledger op =>
      simp only [Entity.step] at hended
      split at hended
      · exact absurd hended ended_notMem_ledgerCall
      · cases hended
  · rintro ⟨err, hraises⟩
    rw [hraises.step_eq]
    exact ended_mem_fail.mpr ⟨rfl, rfl, rfl⟩

/-! ## What a play that raises leaves behind -/

theorem ledger_finish {raised : Bool} : (S.finish id caller raised).1.ledger = S.ledger := by
  unfold finish
  split <;> rfl

/-- `async_request_failed` leaves nothing pending. -/
theorem request_requestFailed (L : DeliveryLedger) (env : Env) (u : UUID) (err : Raised)
    (connected : Option Bool) (failure : Option String) :
    ((L.step ⟨env, .requestFailed u err connected failure⟩).1.health u).request = none := by
  have huuid := DeliveryLedger.uuid_health (L.device u) u
  exact congrArg (Option.map PendingRequest.toRequest)
    (DeliveryLedger.pending_resolve huuid (DeliveryLedger.classify err connected failure).1
      (some (DeliveryLedger.classify err connected failure).2.2)
      (DeliveryLedger.classify err connected failure).2.1 {} none)

/-- The handlers are for the exceptions that are caught. -/
theorem failureCall_eq_none_iff (S : Entity) (caller : Caller) :
    S.failureCall caller err = none ↔ err.exc.cls.caught = false := by
  unfold failureCall ExcClass.caught
  cases caller <;> cases err.exc.cls <;> simp

/-- The pending request of the device, once a call has handled an exception. -/
theorem request_fail (S : Entity) (R : Readings) (id : ℕ) (caller : Caller) (err : Raised) :
    ((S.fail R id caller err).1.ledger.health S.uuid).request
      = if err.exc.cls.caught = true then none else (S.ledger.health S.uuid).request := by
  unfold fail
  simp only [ledger_finish]
  cases hop : S.failureCall caller err with
  | none => rw [if_neg (by simp [(failureCall_eq_none_iff S caller).mp hop])]
  | some op =>
    have hcaught : err.exc.cls.caught = true := by
      by_contra hnot
      rw [Bool.not_eq_true, ← failureCall_eq_none_iff S caller, hop] at hnot
      cases hnot
    obtain ⟨connected, failure, rfl⟩ := failureCall_some hop
    rw [if_pos hcaught]
    exact request_requestFailed S.ledger R.env S.uuid err connected failure

/-- Nothing is left of a request of the device: it is not pending, and whatever happens from now on
appends no record for it. -/
structure Settled (S : Entity) (request : Request) : Prop where
  free : (S.ledger.health S.uuid).request ≠ some request
  silent : ∀ later r, r.uuid = S.uuid →
    .appended r (some request) ∉ ledgerEffects (Machine.emitted Entity.step S later)

/-- A request that was begun and is not pending has its one record already. -/
theorem settled_iff (h : Tracked uuid S os)
    (hopened : request ∈ Slot.opened (slotEvents (history uuid (ledgerEffects os)))) :
    Settled S request ↔ (S.ledger.health S.uuid).request ≠ some request := by
  refine ⟨Settled.free, fun hfree => ⟨hfree, fun later r hr happended => ?_⟩⟩
  have hclosed := h.conserved.closed_of_not_pending hopened (h.uuid_eq ▸ hfree)
  have hnodup := (h.later later).conserved.nodup_closed
  rw [ledgerEffects_append, history_append, slotEvents_append, Slot.closed_append] at hnodup
  have hagain : request ∈ Slot.closed (slotEvents (history uuid
      (ledgerEffects (Machine.emitted Entity.step S later)))) := by
    apply mem_closed.mpr
    refine ⟨r, List.mem_filter.mpr ⟨happended, ?_⟩⟩
    simp [Effect.about, Effect.uuid, hr, h.uuid_eq]
  exact (List.nodup_append.mp hnodup).2.2 request hclosed request hagain rfl

/-- A play that ends with an exception in this event leaves nothing of its request. -/
def SettlesRaised (S : Entity) (i : Input) : Prop :=
  ∀ id caller request job, S.calls.get? id = some ⟨caller, .playing request job⟩ →
    caller ≠ .probe → .ended id caller true ∈ (S.step i).2 → Settled (S.step i).1 request

/-- A play whose request is still pending ends in this event with a `TimeoutError` or a
`HomeAssistantError`, if with an exception. -/
def RaisesCaught (S : Entity) (i : Input) : Prop :=
  ∀ id caller request err, Raises S i id caller request err → caller ≠ .probe →
    (S.ledger.health S.uuid).request = some request → err.exc.cls.caught = true

theorem settlesRaised_iff (h : Tracked uuid S os) (i : Input) :
    SettlesRaised S i ↔ RaisesCaught S i := by
  -- what a play that raises leaves pending
  have hrequest : ∀ {id caller request err}, Raises S i id caller request err →
      ((S.step i).1.ledger.health (S.step i).1.uuid).request
        = if err.exc.cls.caught = true then none else (S.ledger.health S.uuid).request := by
    intro id caller request err hraises
    rw [(h.step i).uuid_eq, ← h.uuid_eq, hraises.step_eq, request_fail]
  have hsettled : ∀ {id caller request job},
      S.calls.get? id = some ⟨caller, .playing request job⟩ → (Settled (S.step i).1 request ↔
        ((S.step i).1.ledger.health (S.step i).1.uuid).request ≠ some request) := by
    intro id caller request job hcall
    apply settled_iff (h.step i)
    rw [ledgerEffects_append, history_append, slotEvents_append, Slot.opened_append]
    exact List.mem_append_left _ (h.opened_of_playing hcall)
  constructor
  · intro hsettles id caller request err hraises hcaller hpending
    obtain ⟨job, hcall⟩ := hraises.inFlight
    have hended := (ended_iff_raises h hcall).mpr ⟨err, hraises⟩
    have hfree := (hsettled hcall).mp (hsettles id caller request job hcall hcaller hended)
    by_contra hnot
    rw [hrequest hraises, if_neg hnot] at hfree
    exact hfree hpending
  · intro hcaught id caller request job hcall hcaller hended
    obtain ⟨err, hraises⟩ := (ended_iff_raises h hcall).mp hended
    rw [hsettled hcall, hrequest hraises]
    split
    · simp
    · next hnot =>
      intro hpending
      exact hnot (hcaught id caller request err hraises hcaller hpending)

/-- **Plays that raise leave no request pending** in a run if and only if each exception with which
a play ends, while its request is pending, is one of those that are handled. -/
theorem settles_iff_caught (uuid : UUID) (run : List Input) :
    Machine.Along Entity.step SettlesRaised (added uuid) run ↔
      Machine.Along Entity.step RaisesCaught (added uuid) run := by
  apply Machine.along_congr_of (P := fun S => ∃ os, Tracked uuid S os)
  · rintro S i ⟨os, h⟩
    exact settlesRaised_iff h i
  · rintro S i ⟨os, h⟩ -
    exact ⟨_, h.step i⟩
  · exact ⟨[], tracked_added uuid⟩

/-! ## An app that is not supported -/

/-- The media of a cast app. -/
def castApp (app : String) : Media :=
  ⟨"cast", "\x7b\"app_name\": \"" ++ app ++ "\", \"media_id\": \"clip\"\x7d", ∅⟩

/-- What the work of an entity reads `t` seconds after start-up, when it is asked to play media of
a cast app. -/
def castAppAt (app : String) (t : ℕ) : Readings where
  env := .bare t
  play := { PlayEnv.pinnedInstance with
    jsonLoads := fun _ => some (.obj [("app_name", .str app), ("media_id", .str "clip")]) }
  str _ := "clip"
  session := none

/-- A play of a cast app for which `quick_play` raises `NotImplementedError`. -/
def unsupportedApp : List Input :=
  [⟨castAppAt "unknown" 0, .connects⟩, ⟨castAppAt "unknown" 1, .playMedia (castApp "unknown")⟩,
    ⟨castAppAt "unknown" 1, .jobStarts 0⟩,
    ⟨castAppAt "unknown" 1, .jobEnds 0 (some ⟨⟨.other "NotImplementedError", ""⟩, none⟩)⟩]

/-- The call goes on with the exception. -/
def unsupportedRaises : Input := ⟨castAppAt "unknown" 1, .resumes 0⟩

theorem not_settlesRaised :
    ¬ SettlesRaised (after ⟨1⟩ unsupportedApp) unsupportedRaises ∧
      (records (ledgerEffects (Machine.emitted Entity.step
        (after ⟨1⟩ (unsupportedApp ++ [unsupportedRaises]))
        [⟨castAppAt "unknown" 31, .ledger (.expire ⟨⟨1⟩, 0, DELIVERY_TIMEOUT⟩)⟩]))).map
          DeliveryRecord.outcome = [.timeout] := by
  constructor
  · rw [settlesRaised_iff (tracked_run ⟨1⟩ unsupportedApp)]
    intro hcaught
    have hnot := hcaught 0 .playMedia ⟨0, "clip", .playMedia, 1000000, second, none⟩ _
      (.job false rfl rfl) (by decide) rfl
    exact absurd hnot (by decide)
  · rfl

end Entity
end CastDelivery
