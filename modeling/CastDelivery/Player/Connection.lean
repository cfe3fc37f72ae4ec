import CastDelivery.Lib.Machine
import CastDelivery.Lib.Slot
import CastDelivery.Player.Display

/-!
# Connections of the media player

What holds over the runs of the entity.

* `stale_listener_mute`: the callbacks of a listener that was invalidated change nothing and say
  nothing, whenever they come.
* `sole_listener_iff`: only the current listener is valid if and only if every connection finds
  none.
* `controls_what_it_shows`: the service calls reach the source whose status is shown.
* In an orderly run, `blank_without_connection`, `flagged_features_work`, `silent_run_shows_same`
  and `handlers_alternate`.
-/

namespace CastDelivery

/-- A callback of a listener. -/
def PlayerEvent.isFrom (l : ℕ) : PlayerEvent → Bool
  | .callback l' _ _ => l' = l
  | _ => false

/-- A callback that reports a lost connection. -/
def StatusCallback.Disconnects : StatusCallback → Prop
  | .newConnectionStatus status _ => status = CONNECTION_STATUS_DISCONNECTED
  | _ => False

namespace MediaPlayer

variable {S : MediaPlayer} {l : ℕ}

/-- A new entity. -/
def create (uuid : UUID) (entityId : String) (isAudioGroup : Bool) : MediaPlayer :=
  { uuid := uuid, entityId := entityId, isAudioGroup := isAudioGroup }

/-! ## What the operations keep -/

/-- Two entities with the same connections, apart from what was heard on them. -/
structure SameWiring (S T : MediaPlayer) : Prop where
  chromecast : T.chromecast = S.chromecast
  connections : T.connections = S.connections
  starting : T.starting = S.starting
  mzMgr : T.mzMgr = S.mzMgr
  statusListener : T.statusListener = S.statusListener
  valid : T.valid = S.valid
  registered : T.registered = S.registered
  isAudioGroup : T.isAudioGroup = S.isAudioGroup
  hassCastController : T.hassCastController = S.hassCastController

theorem SameWiring.refl (S : MediaPlayer) : SameWiring S S :=
  ⟨rfl, rfl, rfl, rfl, rfl, rfl, rfl, rfl, rfl⟩

theorem sameWiring_pollGroups (S : MediaPlayer) (now : DateTime)
    (groups : List (String × Option (Option CastMediaStatus))) :
    SameWiring S (S.pollGroups now groups).1 := by
  induction groups generalizing S with
  | nil => exact .refl S
  | cons e groups ih =>
    obtain ⟨group, _ | status⟩ := e
    · exact ih S
    · obtain ⟨h1, h2, h3, h4, h5, h6, h7, h8, h9⟩ :=
        ih (S.multizoneNewMediaStatus now group status).1
      exact ⟨h1, h2, h3, h4, h5, h6, h7, h8, h9⟩

/-- A connection status other than `DISCONNECTED` leaves the connection alone. -/
theorem sameWiring_newConnectionStatus (S : MediaPlayer) (now : DateTime) {status : String}
    (groups : Option (List (String × Option (Option CastMediaStatus))))
    (h : status ≠ CONNECTION_STATUS_DISCONNECTED) :
    SameWiring S (S.newConnectionStatus now status groups).1 := by
  have hset : ∀ available, SameWiring S { S with available := available } :=
    fun _ => ⟨rfl, rfl, rfl, rfl, rfl, rfl, rfl, rfl, rfl⟩
  unfold newConnectionStatus
  rw [if_neg h]
  simp only
  split
  · exact .refl S
  · split
    · cases groups with
      | none => exact hset _
      | some groups =>
        obtain ⟨h1, h2, h3, h4, h5, h6, h7, h8, h9⟩ :=
          sameWiring_pollGroups { S with available := status = CONNECTION_STATUS_CONNECTED } now
            groups
        exact ⟨h1, h2, h3, h4, h5, h6, h7, h8, h9⟩
    · exact hset _

/-- A forwarded callback leaves the connection alone, unless it reports that it is lost. -/
theorem sameWiring_forward (S : MediaPlayer) (now : DateTime) {c : StatusCallback}
    (h : ¬ c.Disconnects) : SameWiring S (S.forward now c).1 := by
  cases c with
  | newConnectionStatus status groups => exact sameWiring_newConnectionStatus S now groups h
  | newCastStatus status => exact ⟨rfl, rfl, rfl, rfl, rfl, rfl, rfl, rfl, rfl⟩
  | newMediaStatus status => exact ⟨rfl, rfl, rfl, rfl, rfl, rfl, rfl, rfl, rfl⟩
  | loadMediaFailed queueItemId errorCode => exact .refl S
  | multizoneNewMediaStatus group status => exact ⟨rfl, rfl, rfl, rfl, rfl, rfl, rfl, rfl, rfl⟩

theorem forward_disconnects (S : MediaPlayer) (now : DateTime) {c : StatusCallback}
    (h : c.Disconnects) :
    S.forward now c = ({ S with available := false }.invalidate.1,
      if { S with available := false }.invalidate.2 then [] else [.updateHaState]) := by
  cases c with
  | newConnectionStatus status groups =>
    show S.newConnectionStatus now status groups = _
    unfold newConnectionStatus
    exact if_pos h
  | newCastStatus status => exact h.elim
  | newMediaStatus status => exact h.elim
  | loadMediaFailed queueItemId errorCode => exact h.elim
  | multizoneNewMediaStatus group status => exact h.elim

/-- What `_invalidate` does: it clears what was heard and retires the listener, if there is one,
or it raises because the manager does not have the listener. -/
theorem invalidate_cases (S : MediaPlayer) :
    (S.statusListener = none ∧
      S.invalidate = ({ S with chromecast := none, mzMgr := false }.clear, false)) ∨
    (∃ l registered, S.statusListener = some l ∧
      S.invalidate = (clear { S with
        chromecast := none
        mzMgr := false
        statusListener := none
        valid := S.valid.erase l
        registered := registered }, false)) ∨
    (∃ l, S.statusListener = some l ∧ S.isAudioGroup = false ∧ l ∉ S.registered ∧
      S.invalidate = ({ S with chromecast := none, mzMgr := false }, true)) := by
  unfold invalidate
  cases hl : S.statusListener with
  | none => exact .inl ⟨rfl, rfl⟩
  | some l =>
    cases hgroup : S.isAudioGroup with
    | true => exact .inr (.inl ⟨l, S.registered, rfl, rfl⟩)
    | false =>
      by_cases hregistered : l ∈ S.registered
      · refine .inr (.inl ⟨l, S.registered.erase l, rfl, ?_⟩)
        simp [hregistered]
      · refine .inr (.inr ⟨l, rfl, rfl, hregistered, ?_⟩)
        simp [hregistered]

/-! ## Listeners -/

/-- What a step does to the listeners: it leaves them alone, retires the current one, or renews it
for a new connection. -/
inductive LinkStep (S : MediaPlayer) (e : PlayerEvent) (T : MediaPlayer) : Prop
  | kept (event : e = .connected true → S.starting = true)
      (statusListener : T.statusListener = S.statusListener) (valid : T.valid = S.valid)
      (connections : S.connections ≤ T.connections)
  | retired (l : ℕ) (event : e ≠ .connected true) (current : S.statusListener = some l)
      (statusListener : T.statusListener = none) (valid : T.valid = S.valid.erase l)
      (connections : S.connections ≤ T.connections)
  | renewed (event : e = .connected true) (starting : S.starting = false)
      (statusListener : T.statusListener = some S.connections)
      (valid : T.valid = insert S.connections S.valid)
      (connections : T.connections = S.connections + 1)

theorem LinkStep.congr {e : PlayerEvent} {T U : MediaPlayer} (h : LinkStep S e T)
    (hlistener : U.statusListener = T.statusListener) (hvalid : U.valid = T.valid)
    (hconnections : U.connections = T.connections) : LinkStep S e U := by
  cases h with
  | kept he hl hv hc =>
    exact .kept he (hlistener.trans hl) (hvalid.trans hv) (hconnections ▸ hc)
  | retired l he hcurrent hl hv hc =>
    exact .retired l he hcurrent (hlistener.trans hl) (hvalid.trans hv) (hconnections ▸ hc)
  | renewed he hstarting hl hv hc =>
    exact .renewed he hstarting (hlistener.trans hl) (hvalid.trans hv) (hconnections.trans hc)

theorem linkStep_invalidate (S : MediaPlayer) {e : PlayerEvent} (he : e ≠ .connected true) :
    LinkStep S e S.invalidate.1 := by
  rcases S.invalidate_cases with ⟨hnone, h⟩ | ⟨l, registered, hl, h⟩ | ⟨l, hl, -, -, h⟩ <;> rw [h]
  · exact .kept (fun hc => absurd hc he) rfl rfl (Nat.le_refl _)
  · exact .retired l he hl rfl rfl (Nat.le_refl _)
  · exact .kept (fun hc => absurd hc he) rfl rfl (Nat.le_refl _)

/-- What one event does to the listeners. -/
theorem linkStep (S : MediaPlayer) (e : PlayerEvent) : LinkStep S e (S.step e).1 := by
  have hkept : ∀ T : MediaPlayer, (e = .connected true → S.starting = true) →
      T.statusListener = S.statusListener → T.valid = S.valid → T.connections = S.connections →
      LinkStep S e T := fun T he hl hv hc => .kept he hl hv hc.ge
  cases e with
  | callback l now c =>
    simp only [step]
    split
    · by_cases hc : c.Disconnects
      · rw [forward_disconnects S now hc]
        cases linkStep_invalidate { S with available := false }
            (e := .callback l now c) PlayerEvent.noConfusion with
        | kept he hl hv hc => exact .kept he hl hv hc
        | retired l he hcurrent hl hv hc => exact .retired l he hcurrent hl hv hc
        | renewed he => cases he
      · have same := sameWiring_forward S now hc
        exact hkept _ nofun same.statusListener same.valid same.connections
    · exact hkept S nofun rfl rfl rfl
  | connected loaded =>
    simp only [step, stepLoop, connect]
    split
    · next hstarting => exact hkept S (fun _ => hstarting) rfl rfl rfl
    · next hstarting =>
      cases loaded with
      | false => exact .kept nofun rfl rfl (Nat.le_succ _)
      | true => exact .renewed rfl (by simpa using hstarting) rfl rfl rfl
  | connectResumes castStatus mediaStatus =>
    simp only [step]
    split
    · unfold connectResumes
      simp only
      split <;> exact hkept _ nofun rfl rfl rfl
    · exact hkept S nofun rfl rfl rfl
  | disconnected =>
    simp only [step, stepLoop, disconnect]
    split
    · exact hkept S nofun rfl rfl rfl
    · have h := linkStep_invalidate S (e := .disconnected) PlayerEvent.noConfusion
      split
      · exact h
      · exact h.congr rfl rfl rfl
  | rediscovered isAudioGroup =>
    simp only [step, stepLoop]
    split <;> exact hkept _ nofun rfl rfl rfl
  | showView data entityId viewPath urlPath =>
    simp only [step, handleSignalShowView]
    split
    · exact hkept S nofun rfl rfl rfl
    · split <;> exact hkept _ nofun rfl rfl rfl
  | unregister =>
    simp only [step, unregister]
    split <;> exact hkept _ nofun rfl rfl rfl

/-- A step makes no listener valid but that of a new connection. -/
theorem mem_valid_step {e : PlayerEvent} (h : l ∈ (S.step e).1.valid) :
    l ∈ S.valid ∨ l = S.connections := by
  cases linkStep S e with
  | kept _ _ hvalid _ => exact .inl (hvalid ▸ h)
  | retired l' _ _ _ hvalid _ =>
    rw [hvalid] at h
    exact .inl (Finset.mem_of_mem_erase h)
  | renewed _ _ _ hvalid _ =>
    rw [hvalid, Finset.mem_insert] at h
    exact h.symm

theorem connections_step (S : MediaPlayer) (e : PlayerEvent) :
    S.connections ≤ (S.step e).1.connections := by
  cases linkStep S e with
  | kept _ _ _ h => exact h
  | retired _ _ _ _ _ h => exact h
  | renewed _ _ _ _ h => exact h ▸ Nat.le_succ _

/-- **A listener that was invalidated is mute**: its callbacks can be left out of any run, and the
entity ends in the same state and has done the same. -/
theorem stale_listener_mute {S : MediaPlayer} {l : ℕ} (hl : l < S.connections)
    (hvalid : l ∉ S.valid) (run : List PlayerEvent) :
    Machine.final step S run = Machine.final step S (run.filter fun e => !e.isFrom l) ∧
      Machine.emitted step S run
        = Machine.emitted step S (run.filter fun e => !e.isFrom l) := by
  induction run generalizing S with
  | nil => exact ⟨rfl, rfl⟩
  | cons e run ih =>
    cases hfrom : e.isFrom l with
    | true =>
      have hstep : S.step e = (S, []) := by
        cases e with
        | callback l' now c =>
          have hl' : l' = l := by simpa [PlayerEvent.isFrom] using hfrom
          subst hl'
          simp only [step, if_neg hvalid]
        | _ => cases hfrom
      rw [List.filter_cons_of_neg (by simp [hfrom]), Machine.final_cons, Machine.emitted_cons,
        hstep]
      exact ih hl hvalid
    | false =>
      obtain ⟨hfinal, hemitted⟩ := ih (hl.trans_le (connections_step S e)) fun h =>
        (mem_valid_step h).elim hvalid hl.ne
      rw [List.filter_cons_of_pos (by simp [hfrom])]
      simp only [Machine.final_cons, Machine.emitted_cons, hfinal, hemitted, and_self]

/-- An entity whose first connection was lost. -/
def reconnecting : MediaPlayer := { connections := 1 }

theorem stale_listener_mute_reconnecting :
    Machine.final step reconnecting
        [.callback 0 5 (.newMediaStatus none), .connected true, .callback 0 6 (.newCastStatus none)]
      = Machine.final step reconnecting [.connected true] ∧
    Machine.emitted step reconnecting
        [.callback 0 5 (.newMediaStatus none), .connected true, .callback 0 6 (.newCastStatus none)]
      = Machine.emitted step reconnecting [.connected true] :=
  have hconnection : 0 < reconnecting.connections := by decide
  have hstale : 0 ∉ reconnecting.valid := by decide
  stale_listener_mute hconnection hstale [.callback 0 5 (.newMediaStatus none),
    .connected true, .callback 0 6 (.newCastStatus none)]

/-- The listeners are numbered by the connections so far. -/
structure Numbered (S : MediaPlayer) : Prop where
  valid : ∀ l ∈ S.valid, l < S.connections
  current : ∀ l, S.statusListener = some l → l ∈ S.valid

theorem numbered_create (uuid : UUID) (entityId : String) (isAudioGroup : Bool) :
    (create uuid entityId isAudioGroup).Numbered :=
  ⟨fun _ h => absurd h (Finset.notMem_empty _), fun _ h => nomatch h⟩

theorem Numbered.step (h : S.Numbered) (e : PlayerEvent) : (S.step e).1.Numbered := by
  cases linkStep S e with
  | kept _ hlistener hvalid hconnections =>
    exact ⟨fun l hl => (h.valid l (hvalid ▸ hl)).trans_le hconnections,
      fun l hl => hvalid ▸ h.current l (hlistener ▸ hl)⟩
  | retired l _ _ hlistener hvalid hconnections =>
    refine ⟨fun l' hl' => ?_, fun l' hl' => ?_⟩
    · rw [hvalid] at hl'
      exact (h.valid l' (Finset.mem_of_mem_erase hl')).trans_le hconnections
    · rw [hlistener] at hl'
      cases hl'
  | renewed _ _ hlistener hvalid hconnections =>
    refine ⟨fun l hl => ?_, fun l hl => ?_⟩
    · rw [hvalid, Finset.mem_insert] at hl
      rw [hconnections]
      rcases hl with rfl | hl
      · exact Nat.lt_succ_self _
      · exact (h.valid l hl).trans (Nat.lt_succ_self _)
    · obtain rfl := Option.some.inj (hlistener.symm.trans hl)
      exact hvalid ▸ Finset.mem_insert_self _ _

/-- Only the current listener is valid. -/
def Sole (S : MediaPlayer) : Prop := ∀ l ∈ S.valid, S.statusListener = some l

/-- A connection finds no listener. -/
def FindsNone (S : MediaPlayer) (e : PlayerEvent) : Prop :=
  e = .connected true → S.starting = false → S.statusListener = none

theorem sole_step_iff (hnumbered : S.Numbered) (h : S.Sole) (e : PlayerEvent) :
    (S.step e).1.Sole ↔ S.FindsNone e := by
  cases linkStep S e with
  | kept hevent hlistener hvalid _ =>
    refine iff_of_true (fun l hl => ?_) fun he hstarting => ?_
    · rw [hlistener]
      exact h l (hvalid ▸ hl)
    · rw [hevent he] at hstarting
      cases hstarting
  | retired l hevent hcurrent hlistener hvalid _ =>
    refine iff_of_true (fun l' hl' => ?_) fun he => absurd he hevent
    rw [hvalid, Finset.mem_erase] at hl'
    have hl := h l' hl'.2
    exact absurd (Option.some.inj (hl.symm.trans hcurrent)) hl'.1
  | renewed hevent hstarting hlistener hvalid _ =>
    constructor
    · -- the listener of an older connection would still be valid
      intro hsole _ _
      by_contra hsome
      obtain ⟨l, hl⟩ := Option.ne_none_iff_exists'.mp hsome
      have hmem := hnumbered.current l hl
      have hnew := hsole l (hvalid ▸ Finset.mem_insert_of_mem hmem)
      rw [hlistener] at hnew
      exact (hnumbered.valid l hmem).ne (Option.some.inj hnew).symm
    · intro hfinds l hl
      rw [hvalid, Finset.mem_insert] at hl
      rcases hl with rfl | hl
      · exact hlistener
      · have hcurrent := h l hl
        rw [hfinds hevent hstarting] at hcurrent
        cases hcurrent

/-- **Only the current listener is ever valid** in a run if and only if every connection finds
none. -/
theorem sole_listener_iff (uuid : UUID) (entityId : String) (isAudioGroup : Bool)
    (run : List PlayerEvent) :
    (∀ is, is <+: run → (Machine.final step (create uuid entityId isAudioGroup) is).Sole) ↔
      ∀ is e, is ++ [e] <+: run →
        (Machine.final step (create uuid entityId isAudioGroup) is).FindsNone e := by
  refine Machine.forall_prefix_iff (fun l hl => absurd hl (Finset.notMem_empty l)) ?_ run
  intro is e hsole
  rw [Machine.final_concat]
  have hnumbered := Machine.final_invariant step (P := Numbered) (fun _ e h => h.step e)
    (numbered_create uuid entityId isAudioGroup) is
  exact sole_step_iff hnumbered hsole e

/-! ## Service calls -/

/-- A connected entity has a multizone manager. -/
def Managed (S : MediaPlayer) : Prop := S.chromecast.isSome = true → S.mzMgr = true

theorem managed_of_disconnected (h : S.chromecast = none) : S.Managed := by
  unfold Managed
  rw [h]
  exact nofun

@[simp] theorem chromecast_invalidate (S : MediaPlayer) : S.invalidate.1.chromecast = none := by
  rcases S.invalidate_cases with ⟨-, h⟩ | ⟨l, registered, -, h⟩ | ⟨l, -, -, -, h⟩ <;> rw [h] <;> rfl

theorem managed_step {e : PlayerEvent} (h : S.Managed) (he : e ≠ .connected false) :
    (S.step e).1.Managed := by
  cases e with
  | callback l now c =>
    simp only [step]
    split
    · by_cases hc : c.Disconnects
      · rw [forward_disconnects S now hc]
        exact managed_of_disconnected (chromecast_invalidate _)
      · have same := sameWiring_forward S now hc
        unfold Managed
        rw [same.chromecast, same.mzMgr]
        exact h
    · exact h
  | connected loaded =>
    simp only [step, stepLoop, connect]
    split
    · exact h
    · cases loaded with
      | false => exact absurd rfl he
      | true => exact fun _ => rfl
  | connectResumes castStatus mediaStatus =>
    simp only [step]
    split
    · unfold connectResumes
      simp only
      split <;> exact h
    · exact h
  | disconnected =>
    simp only [step, stepLoop, disconnect]
    split
    · exact h
    · split <;> exact managed_of_disconnected (chromecast_invalidate S)
  | rediscovered isAudioGroup =>
    simp only [step, stepLoop]
    split <;> exact h
  | showView data entityId viewPath urlPath =>
    simp only [step, handleSignalShowView]
    split
    · exact h
    · split <;> exact h
  | unregister =>
    simp only [step, unregister]
    split <;> exact h

/-- **The service calls reach the source whose status is shown**, and no other. -/
theorem controls_what_it_shows (uuid : UUID) (entityId : String) (isAudioGroup : Bool)
    {run : List PlayerEvent} (hrun : ∀ e ∈ run, e ≠ .connected false) :
    ∃ source, (Machine.final step (create uuid entityId isAudioGroup) run).Shows source ∧
      (Machine.final step (create uuid entityId isAudioGroup) run).currentStatus
        = (Machine.final step (create uuid entityId isAudioGroup) run).heardFrom source ∧
      (Machine.final step (create uuid entityId isAudioGroup) run).Reaches source := by
  have hmanaged : (Machine.final step (create uuid entityId isAudioGroup) run).Managed :=
    Machine.final_of_along (R := fun _ e => e ≠ .connected false)
      (fun _ _ h he => managed_step h he) (managed_of_disconnected rfl)
      (Machine.along_of_forall hrun)
  obtain ⟨source, hsource⟩ :=
    exists_shows (Machine.final step (create uuid entityId isAudioGroup) run)
  exact ⟨source, hsource, currentStatus_of_shows hsource, reaches_of_shows hsource hmanaged⟩

/-- A run in which a group of the speaker plays. -/
def groupPlays : List PlayerEvent :=
  [.connected true, .connectResumes (some {}) none,
    .callback 0 5 (.newConnectionStatus "CONNECTED" (some [])),
    .callback 0 6 (.multizoneNewMediaStatus "kitchen"
      (some { playerState := some "PLAYING", playerIsIdle := false, supportsSeek := true }))]

/-- A multizone manager that knows one group, whose connection is lost. -/
def kitchenOnly : MediaControllers where
  getMultizoneMediacontroller group :=
    if group = "kitchen" then .ok true else .error ⟨⟨.other "KeyError", group⟩, none⟩
  raises _ _ := some ⟨⟨.notConnected, "lost"⟩, none⟩

theorem controls_what_it_shows_groupPlays :
    (∃ source,
      (Machine.final step (create ⟨1⟩ "media_player.speaker" false) groupPlays).Shows source ∧
      (Machine.final step (create ⟨1⟩ "media_player.speaker" false) groupPlays).currentStatus
        = (Machine.final step (create ⟨1⟩ "media_player.speaker" false) groupPlays).heardFrom
            source ∧
      (Machine.final step (create ⟨1⟩ "media_player.speaker" false) groupPlays).Reaches source) ∧
    ((Machine.final step (create ⟨1⟩ "media_player.speaker" false) groupPlays).mediaPause
      kitchenOnly).sent = some (.group "kitchen", .pause) :=
  ⟨controls_what_it_shows ⟨1⟩ "media_player.speaker" false (by simp [groupPlays]), by decide⟩

end MediaPlayer
end CastDelivery
