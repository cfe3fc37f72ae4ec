import CastDelivery.System.Charging

/-!
# Refresh cycles and requests of users

`_decide` looks at what the device reports, while a request that was begun and has not resolved
yet lives in the ledger. Until the first status arrives the device still reports itself idle,
so a cycle that falls in between probes it: `async_begin_request` supersedes the user's request
and `quick_play_probe` interrupts its playback.

`never_takes_over_iff` is the exact condition: the cycles of a run leave every pending request
of a user alone if and only if no cycle finds a probe due on a device with such a request.
-/

namespace CastDelivery

/-- The records that `_decide` makes are records of a probe. -/
theorem Decision.source_recordCall {decision : Decision} {call : RecordCall}
    (h : decision.recordCall = some call) : call.source = .probe := by
  cases decision <;> simp only [Decision.recordCall, Option.some.injEq, reduceCtorEq] at h <;>
    subst h <;> rfl

/-- A record of another source leaves the pending request alone. -/
theorem DeliveryLedger.pending_record {L : DeliveryLedger} {u : UUID} {p : PendingRequest}
    (hp : (L.health u).pending = some p) (env : Env) (call : RecordCall)
    (hs : p.source ≠ call.source) :
    ((L.step ⟨env, .record u call⟩).1.health u).pending = some p := by
  simp only [step, asyncRecord, health_device, hp, Option.any_some, hs, decide_false,
    Bool.false_eq_true, if_false]
  rw [health_append, if_pos (uuid_health L u).symm, DeviceHealth.account_pending, hp]

namespace System

variable (env : Env) (cycle : Cycle) (url : String) {S : System} {u d : UUID}

/-! ## The turn of one device -/

theorem health_ledgerCall_other (S : System) {c : Call} (hu : c.op.uuid? = some u)
    (hd : d ≠ u) : (S.ledgerCall c).1.ledger.health d = S.ledger.health d :=
  health_call_other S.toHub hu hd

theorem launched_notMem_ledgerCall (S : System) (c : Call) (P : Probe) :
    .launched P ∉ (S.ledgerCall c).2 := by
  simp [ledgerCall]

/-- What a device can tell of the turn of another one. -/
structure Elsewhere (env : Env) (cycle : Cycle) (d : UUID) (S : System)
    (r : System × List Output) : Prop where
  health : r.1.ledger.health d = S.ledger.health d
  decision : r.1.decision env cycle d = S.decision env cycle d
  launched : ∀ P, .launched P ∈ r.2 → P.uuid ≠ d
  silent : history d (ledgerEffects r.2) = []

variable {env cycle} in
theorem Elsewhere.seq {r s : System × List Output} (hr : Elsewhere env cycle d S r)
    (hs : Elsewhere env cycle d r.1 s) : Elsewhere env cycle d S (s.1, r.2 ++ s.2) where
  health := hs.health.trans hr.health
  decision := hs.decision.trans hr.decision
  launched P hP := by
    rcases List.mem_append.mp hP with hP | hP
    · exact hr.launched P hP
    · exact hs.launched P hP
  silent := by rw [ledgerEffects_append, history_append, hr.silent, hs.silent, List.append_nil]

/-- A call about another device shows nothing of this one. -/
theorem history_ledgerCall_other (S : System) {c : Call} (hu : c.op.uuid? = some u)
    (hd : d ≠ u) : history d (ledgerEffects (S.ledgerCall c).2) = [] := by
  rw [show ledgerEffects (S.ledgerCall c).2 = (S.ledger.step c).2 from ledgerEffects_map _]
  exact (DeliveryLedger.actsOn_step (L := S.ledger) hu).filter_other hd

theorem elsewhere_ledgerCall (S : System) {c : Call} (hu : c.op.uuid? = some u) (hd : d ≠ u) :
    Elsewhere env cycle d S (S.ledgerCall c) := by
  have hhealth := health_ledgerCall_other S hu hd
  refine ⟨hhealth, ?_, fun P hP => absurd hP (launched_notMem_ledgerCall S c P),
    history_ledgerCall_other S hu hd⟩
  unfold decision
  rw [hhealth, show (S.ledgerCall c).1.options = S.options from Hub.options_call S.toHub c]
  rfl

theorem elsewhere_launchProbe (S : System) (snapshot : ProbeSnapshot) (hd : d ≠ u) :
    Elsewhere env cycle d S (S.launchProbe env u snapshot url) := by
  unfold launchProbe
  refine ⟨health_ledgerCall_other _ rfl hd, ?_, fun P hP => ?_,
    history_ledgerCall_other _ rfl hd⟩
  · unfold decision
    rw [health_ledgerCall_other _ rfl hd]
    simp [ledgerCall, Finset.mem_insert, hd]
  · rcases List.mem_cons.mp hP with hP | hP
    · cases hP
      exact hd.symm
    · exact absurd hP (launched_notMem_ledgerCall _ _ P)

theorem elsewhere_actOn (S : System) (decision : Decision) (hd : d ≠ u) :
    Elsewhere env cycle d S (S.actOn env cycle url u decision) := by
  unfold actOn
  split
  · exact elsewhere_launchProbe env cycle _ S _ hd
  · split
    · exact elsewhere_ledgerCall env cycle S rfl hd
    · exact ⟨rfl, rfl, by simp, rfl⟩

theorem elsewhere_refreshDevice (S : System) (hd : d ≠ u) :
    Elsewhere env cycle d S (S.refreshDevice env cycle url u).1 :=
  (elsewhere_ledgerCall env cycle S rfl hd).seq (elsewhere_actOn env cycle url _ _ hd)

theorem elsewhere_refreshDevices {us : List UUID} (hd : d ∉ us) (S : System)
    (results : Dict UUID ProbeResult) :
    Elsewhere env cycle d S (refreshDevices env cycle url us S results).1 := by
  induction us generalizing S results with
  | nil => exact ⟨rfl, rfl, by simp [refreshDevices], rfl⟩
  | cons u us ih =>
    obtain ⟨hne, hnot⟩ := not_or.mp (mt List.mem_cons.mpr hd)
    exact (elsewhere_refreshDevice env cycle url S hne).seq (ih hnot _ _)

/-- Creating the health object first changes neither the device nor the decision. -/
theorem decision_known (S : System) (u : UUID) :
    (S.ledgerCall ⟨env, .device u⟩).1.ledger.health u = S.ledger.health u ∧
      (S.ledgerCall ⟨env, .device u⟩).1.decision env cycle u = S.decision env cycle u := by
  have hhealth : (S.ledgerCall ⟨env, .device u⟩).1.ledger.health u = S.ledger.health u :=
    DeliveryLedger.health_device S.ledger u u
  refine ⟨hhealth, ?_⟩
  unfold decision
  rw [hhealth]
  rfl

/-- A decision to probe launches one. -/
theorem launched_refreshDevice {snapshot : ProbeSnapshot}
    (h : S.decision env cycle u = .probe snapshot) :
    ∃ P, .launched P ∈ (S.refreshDevice env cycle url u).1.2 ∧ P.uuid = u := by
  unfold refreshDevice
  simp only [(decision_known env cycle S u).2, h, actOn]
  exact ⟨_, List.mem_append_right _ List.mem_cons_self, rfl⟩

/-- Any other decision leaves a pending request of a user alone. -/
theorem pending_actOn {p : PendingRequest} (hp : (S.ledger.health u).pending = some p)
    (hs : p.source ≠ .probe) {decision : Decision} (h : ∀ snapshot, decision ≠ .probe snapshot) :
    ((S.actOn env cycle url u decision).1.ledger.health u).pending = some p ∧
      ∀ P, .launched P ∉ (S.actOn env cycle url u decision).2 := by
  unfold actOn
  split
  · next snapshot => exact absurd rfl (h snapshot)
  · split
    · next call hcall =>
      refine ⟨?_, launched_notMem_ledgerCall _ _⟩
      show ((S.toHub.call ⟨env, .record u call⟩).1.ledger.health u).pending = some p
      rw [Hub.pending_call]
      exact DeliveryLedger.pending_record hp env call
        (by rw [Decision.source_recordCall hcall]; exact hs)
    · exact ⟨hp, by simp⟩

theorem pending_refreshDevice {p : PendingRequest} (hp : (S.ledger.health u).pending = some p)
    (hs : p.source ≠ .probe) (h : ∀ snapshot, S.decision env cycle u ≠ .probe snapshot) :
    ((S.refreshDevice env cycle url u).1.1.ledger.health u).pending = some p ∧
      ∀ P, .launched P ∉ (S.refreshDevice env cycle url u).1.2 := by
  obtain ⟨hhealth, hdecision⟩ := decision_known env cycle S u
  rw [← hhealth] at hp
  rw [← hdecision] at h
  obtain ⟨hpending, hlaunched⟩ := pending_actOn env cycle url hp hs h
  refine ⟨hpending, fun P hP => ?_⟩
  rcases List.mem_append.mp hP with hP | hP
  · exact launched_notMem_ledgerCall _ _ P hP
  · exact hlaunched P hP

/-! ## The loop -/

/-- A cycle that decides to probe a device launches a probe on it. -/
theorem launched_refreshDevices {us : List UUID} (hd : d ∈ us) {snapshot : ProbeSnapshot}
    (h : S.decision env cycle d = .probe snapshot) (results : Dict UUID ProbeResult) :
    ∃ P, .launched P ∈ (refreshDevices env cycle url us S results).1.2 ∧ P.uuid = d := by
  induction us generalizing S results with
  | nil => cases hd
  | cons u us ih =>
    by_cases hu : d = u
    · -- the turn of the device
      subst hu
      obtain ⟨P, hP, hu⟩ := launched_refreshDevice env cycle url h
      exact ⟨P, List.mem_append_left _ hP, hu⟩
    · -- an earlier turn, which leaves the decision as it is
      have hrest : d ∈ us := by simpa [hu] using hd
      have hdecision := (elsewhere_refreshDevice env cycle url S hu).decision
      obtain ⟨P, hP, hu⟩ := ih hrest (hdecision.trans h) _
      exact ⟨P, List.mem_append_right _ hP, hu⟩

/-- A cycle that does not leaves a pending request of a user alone. -/
theorem pending_refreshDevices {us : List UUID} (hus : us.Nodup) {p : PendingRequest}
    (hp : (S.ledger.health d).pending = some p) (hs : p.source ≠ .probe)
    (h : d ∈ us → ∀ snapshot, S.decision env cycle d ≠ .probe snapshot)
    (results : Dict UUID ProbeResult) :
    ((refreshDevices env cycle url us S results).1.1.ledger.health d).pending = some p ∧
      ∀ P, .launched P ∈ (refreshDevices env cycle url us S results).1.2 → P.uuid ≠ d := by
  induction us generalizing S results with
  | nil => exact ⟨hp, by simp [refreshDevices]⟩
  | cons u us ih =>
    obtain ⟨hnot, hrest⟩ := List.nodup_cons.mp hus
    by_cases hu : d = u
    · -- the turn of the device, after which its uuid does not come again
      subst hu
      obtain ⟨hpending, hlaunched⟩ := pending_refreshDevice env cycle url hp hs
        (h List.mem_cons_self)
      have helse := elsewhere_refreshDevices env cycle url hnot
        (S.refreshDevice env cycle url d).1.1
        (results.set d (S.refreshDevice env cycle url d).2)
      refine ⟨by rw [← hpending]; exact congrArg DeviceHealth.pending helse.health,
        fun P hP => ?_⟩
      rcases List.mem_append.mp hP with hP | hP
      · exact absurd hP (hlaunched P)
      · exact helse.launched P hP
    · -- the turn of another device
      have helse := elsewhere_refreshDevice env cycle url S hu
      obtain ⟨hpending, hlaunched⟩ := ih hrest
        (by rw [helse.health]; exact hp)
        (fun hmem snapshot => by
          rw [helse.decision]
          exact h (List.mem_cons_of_mem _ hmem) snapshot)
        (results.set u (S.refreshDevice env cycle url u).2)
      refine ⟨hpending, fun P hP => ?_⟩
      rcases List.mem_append.mp hP with hP | hP
      · exact helse.launched P hP
      · exact hlaunched P hP

/-! ## The condition -/

/-- The cycle leaves alone every pending request that is not a probe's, and launches no probe on
its device. -/
def LeavesUsersAlone (S : System) (i : Input) : Prop :=
  ∀ cycle, i.event = .refresh cycle → ∀ d p, (S.ledger.health d).pending = some p →
    p.source ≠ .probe →
    ((S.step i).1.ledger.health d).pending = some p ∧
      ∀ P, .launched P ∈ (S.step i).2 → P.uuid ≠ d

/-- A cycle with probing enabled and a URL configured finds a probe due on a target. -/
def FindsDue (S : System) (env : Env) (cycle : Cycle) (d : UUID) : Prop :=
  S.options.enabled = true ∧ cycle.url ≠ none ∧ d ∈ S.targets.keys ∧
    ∃ snapshot, ProbeDue env S.options (d ∈ S.running) (cycle.snapshots d) (S.ledger.health d)
      snapshot

/-- The cycle finds no probe due on a device with a pending request that is not a probe's. -/
def NoneDue (S : System) (i : Input) : Prop :=
  ∀ cycle, i.event = .refresh cycle → ∀ d p, (S.ledger.health d).pending = some p →
    p.source ≠ .probe → ¬ FindsDue S i.env cycle d

theorem leavesUsersAlone_iff (S : System) (i : Input) : LeavesUsersAlone S i ↔ NoneDue S i := by
  obtain ⟨env, event⟩ := i
  refine forall_congr' fun cycle => ?_
  by_cases hevent : event = .refresh cycle
  · subst hevent
    simp only [true_implies]
    refine forall_congr' fun d => forall_congr' fun p => forall_congr' fun hp =>
      forall_congr' fun hs => ?_
    simp only [step, refresh]
    constructor
    · -- a probe that is due is launched
      rintro ⟨-, hlaunched⟩ ⟨henabled, hurl, hd, snapshot, hdue⟩
      obtain ⟨url, hurl⟩ := Option.ne_none_iff_exists'.mp hurl
      simp only [henabled, hurl, Bool.true_eq_false, if_false] at hlaunched
      obtain ⟨P, hP, hu⟩ := launched_refreshDevices env cycle url hd (decide_eq_probe.mpr hdue)
        (S.data.getD ∅)
      exact hlaunched P hP hu
    · intro hnot
      split
      · exact ⟨hp, by simp⟩
      · next henabled =>
        cases hurl : cycle.url with
        | none => exact ⟨hp, by simp⟩
        | some url =>
          refine pending_refreshDevices env cycle url S.targets.nodup hp hs
            (fun hd snapshot h => ?_) _
          exact hnot ⟨by simpa using henabled, by simp [hurl], hd, snapshot,
            decide_eq_probe.mp h⟩
  · simp [hevent]

/-- **A probe never takes over a user's request** in a run if and only if no cycle of the run
finds a probe due on a device with a pending request of a user. -/
theorem never_takes_over_iff (options : StoredOptions) (run : List Input) :
    Machine.Along step LeavesUsersAlone (setUp options) run ↔
      Machine.Along step NoneDue (setUp options) run :=
  Machine.along_congr leavesUsersAlone_iff _ _

/-- A speaker that reports itself idle. -/
def idleSpeaker : ProbeSnapshot where
  castType := some "audio"
  isAudioGroup := false
  appId := none
  appIdle := true
  playerState := none
  groupPlayerStates := []
  mediaSessionId := none

/-- An announcement on a speaker that has not reported any status yet. -/
def freshAnnouncement : List Input :=
  [⟨.bare 0, .registerTarget ⟨1⟩ 0⟩, ⟨.bare 9, .play ⟨1⟩ "http://ha/tts.mp3" .announce none⟩]

/-- A cycle in which every target reports itself idle. -/
def idleCycle (s : Int) : Input :=
  ⟨.bare s, .refresh ⟨some "http://ha/probe.wav", fun url _ => url, fun _ => some idleSpeaker⟩⟩

/-- The cycle after the announcement supersedes it. -/
theorem not_leavesUsersAlone :
    ¬ LeavesUsersAlone (after {} freshAnnouncement) (idleCycle 10) := by
  intro h
  have hkept := (h _ rfl ⟨1⟩ ⟨⟨0, "http://ha/tts.mp3", .announce, 9000000, 9 * second, none⟩, true⟩
    (by decide) (by decide)).1
  revert hkept
  decide

end System

end CastDelivery
