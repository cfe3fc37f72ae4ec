import CastDelivery.System.Tasks

/-!
# The outcome a probe acts on

`_async_wait_for_outcome` polls until no request of a probe is pending and returns the outcome
of `last_record`, and the `finally` clause of `_async_probe` stores the outcome of
`last_record`. Neither asks which request that record resolved.

`probe_acts_on_own`: in every run in which no record is appended on a device between the
resolution of its probe's request and the end of the probe, and no probe ends before its request
is resolved on a device that has a record, a probe obtains, acts on and stores the outcome of its
own request.
-/

namespace CastDelivery

/-- The record that resolved the request of a task, if one did. -/
def resolutionOf (t : Ticket) (es : List Effect) : Option DeliveryRecord :=
  (recordsFor t.request (history t.uuid es)).head?

/-- After the effects `es`, a probe goes by the outcome of its own request. -/
def OwnOutcome (es : List Effect) : Output → Prop
  | .obtained p outcome | .stored p outcome =>
    outcome = (resolutionOf p.toTicket es).map DeliveryRecord.outcome
  | .quitApp p =>
    (resolutionOf p.toTicket es).map DeliveryRecord.outcome = some .ok ∧ p.snapshot.appIdle = true
  | .ledger _ | .launched _ => True

instance (es : List Effect) : DecidablePred (OwnOutcome es)
  | .obtained p outcome | .stored p outcome => inferInstanceAs
    (Decidable (outcome = (resolutionOf p.toTicket es).map DeliveryRecord.outcome))
  | .quitApp p => inferInstanceAs
    (Decidable ((resolutionOf p.toTicket es).map DeliveryRecord.outcome = some .ok ∧
      p.snapshot.appIdle = true))
  | .ledger _ | .launched _ => inferInstanceAs (Decidable True)

/-! ## The condition -/

namespace System

/-- The request of a probe is pending on its device. -/
def OwnPending (L : DeliveryLedger) (p : Probe) : Prop :=
  (L.health p.uuid).request = some p.request

instance (L : DeliveryLedger) (p : Probe) : Decidable (OwnPending L p) :=
  inferInstanceAs (Decidable ((L.health p.uuid).request = some p.request))

/-- An event does not disturb a probe: it appends no record on the device once the request of
the probe is resolved, and does not end the probe before that on a device that has a record. -/
structure Undisturbed (S : System) (i : Input) (t : Probe × Stage) : Prop where
  late : ¬ OwnPending S.ledger t.1 →
    (S.callOf i).any (fun c => S.ledger.appends t.1.uuid c.op) = false
  early : i.event.endsEarly i.env t = true → OwnPending S.ledger t.1 →
    (S.ledger.health t.1.uuid).lastRecord = none

theorem undisturbed_iff (S : System) (i : Input) (t : Probe × Stage) :
    Undisturbed S i t ↔
      (¬ OwnPending S.ledger t.1 →
        (S.callOf i).any (fun c => S.ledger.appends t.1.uuid c.op) = false) ∧
      (i.event.endsEarly i.env t = true → OwnPending S.ledger t.1 →
        (S.ledger.health t.1.uuid).lastRecord = none) :=
  ⟨fun h => ⟨h.late, h.early⟩, fun h => ⟨h.1, h.2⟩⟩

instance (S : System) (i : Input) (t : Probe × Stage) : Decidable (Undisturbed S i t) :=
  decidable_of_iff _ (undisturbed_iff S i t).symm

/-- An event disturbs no probe in flight. -/
def ProbesUndisturbed (S : System) (i : Input) : Prop := ∀ t ∈ S.probes, Undisturbed S i t

instance (S : System) (i : Input) : Decidable (ProbesUndisturbed S i) :=
  inferInstanceAs (Decidable (∀ t ∈ S.probes, Undisturbed S i t))

/-! ## What a probe can read of its device -/

/-- The history of a device with a probe in flight: the record of the probe's request, once
there is one, is the last record, and no other request of a probe is pending. -/
structure Followed (h : DeviceHealth) (es : List Effect) (p : Probe) : Prop where
  source : p.request.source = .probe
  begun : p.request ∈ Slot.opened (slotEvents es)
  last : ∀ r, .appended r (some p.request) ∈ es → (records es).getLast? = some r
  own : ∀ q, h.request = some q → q.source = .probe → q = p.request

variable {h : DeviceHealth} {es : List Effect} {p : Probe}

/-- A pending request has no record. -/
theorem recordsFor_pending (H : Conserved h es) {q : Request} (hq : h.request = some q) :
    recordsFor q es = [] := by
  have hpath := H.path
  rw [hq] at hpath
  rw [← List.length_eq_zero_iff, length_recordsFor, List.count_eq_zero]
  exact (hpath.held H.nodup_opened).2

/-- Once the request of the probe is resolved, its record is `last_record`. -/
theorem Followed.resolved (F : Followed h es p) (H : Conserved h es)
    (fold : FoldOf (records es) h) (hq : h.request ≠ some p.request) :
    (recordsFor p.request es).head? = h.lastRecord := by
  obtain ⟨r, hr⟩ := mem_closed.mp (H.closed_of_not_pending F.begun hq)
  obtain ⟨r', hr'⟩ : ∃ r', (recordsFor p.request es).head? = some r' := by
    rw [← Option.isSome_iff_exists, List.isSome_head?]
    exact List.ne_nil_of_mem (mem_recordsFor.mpr hr)
  rw [hr', fold.lastRecord, F.last r' (mem_recordsFor.mp (List.mem_of_mem_head? hr'))]

/-- What a probe reads of its device if it goes by its own request. -/
def reads (h : DeviceHealth) (p : Probe) : Option DeliveryOutcome :=
  if h.request = some p.request then none else h.lastRecord.map DeliveryRecord.outcome

theorem Followed.reads (F : Followed h es p) (H : Conserved h es) (fold : FoldOf (records es) h) :
    ((recordsFor p.request es).head?).map DeliveryRecord.outcome = System.reads h p := by
  unfold System.reads
  split
  · next hq =>
    rw [recordsFor_pending H hq]
    rfl
  · next hq => rw [F.resolved H fold hq]

/-! ## One event -/

variable {S : System} {i : Input}

/-- **An undisturbed probe is still followed after an event.** -/
theorem Followed.step (F : Followed (S.ledger.health p.uuid) es p)
    (H : Conserved (S.ledger.health p.uuid) es) (hd : p.uuid ∈ S.running)
    (late : ¬ OwnPending S.ledger p →
      (S.callOf i).any (fun c => S.ledger.appends p.uuid c.op) = false) :
    Followed ((S.step i).1.ledger.health p.uuid)
      (es ++ history p.uuid (ledgerEffects (S.step i).2)) p where
  source := F.source
  begun := by
    rw [slotEvents_append, Slot.opened_append]
    exact List.mem_append_left _ F.begun
  last r hr := by
    have hone := length_records_turn (S := S) i hd
    rw [records_append]
    rcases List.mem_append.mp hr with hr | hr
    · -- the request is resolved already, so the event appends no record
      have hresolved : ¬ OwnPending S.ledger p := fun hq =>
        List.ne_nil_of_mem (mem_recordsFor.mpr hr) (recordsFor_pending H hq)
      have hsilent := records_turn (i := i) hd fun c hc => by simpa [hc] using late hresolved
      rw [hsilent, List.append_nil]
      exact F.last r hr
    · -- the event appends the record of the request, and no other
      obtain ⟨r', hr'⟩ := List.length_eq_one_iff.mp
        (le_antisymm hone (List.length_pos_of_mem (mem_records.mpr ⟨_, hr⟩)))
      have hmem : r ∈ records (history p.uuid (ledgerEffects (S.step i).2)) :=
        mem_records.mpr ⟨_, hr⟩
      rw [hr', List.mem_singleton] at hmem
      rw [hr', hmem, List.getLast?_concat]
  own q hq hs := F.own q (request_turn hd hq hs) hs

/-- A probe that a cycle launched is followed. -/
theorem followed_launched {t : Probe × Stage} (hnew : Launched S t)
    (H : Conserved (S.ledger.health t.1.uuid) es) :
    Followed (S.ledger.health t.1.uuid) es t.1 where
  source := hnew.source
  begun := by
    have hpath := H.path
    rw [hnew.pending] at hpath
    exact List.mem_of_getLast? (hpath.held H.nodup_opened).1
  last r hr := by
    have hnone := recordsFor_pending H hnew.pending
    exact absurd hnone (List.ne_nil_of_mem (mem_recordsFor.mpr hr))
  own q hq _ := by
    rw [hnew.pending] at hq
    exact (Option.some.inj hq).symm

/-- The invariant of the probes in flight. -/
structure ProbesFollowed (S : System) (es : List Effect) : Prop where
  tracked : Tracked S
  followed : ∀ t ∈ S.probes, Followed (S.ledger.health t.1.uuid) (history t.1.uuid es) t.1
  quitting : ∀ t ∈ S.probes, t.2 = .quitting →
    t.1.request ∈ Slot.closed (slotEvents (history t.1.uuid es))

theorem Followed.not_pending (F : Followed h es p) (hnone : NoProbePending h) :
    h.request ≠ some p.request := by
  intro hq
  obtain ⟨pending, hp, hrequest⟩ := Option.map_eq_some_iff.mp hq
  rw [NoProbePending, hp] at hnone
  have hs : pending.source = .probe := by rw [← F.source, ← hrequest]
  simp [hs] at hnone

/-- After an event that disturbs no probe, the probes that were in flight are still followed. -/
theorem ProbesFollowed.still (P : ProbesFollowed S es)
    (before : ∀ d, Conserved (S.ledger.health d) (history d es)) (hi : ProbesUndisturbed S i)
    {t : Probe × Stage} (ht : t ∈ S.probes) :
    Followed ((S.step i).1.ledger.health t.1.uuid)
      (history t.1.uuid (es ++ ledgerEffects (S.step i).2)) t.1 := by
  rw [history_append]
  exact (P.followed t ht).step (before _) (P.tracked.running t ht) (hi t ht).late

/-- **Events that disturb no probe keep the invariant of the probes.** -/
theorem ProbesFollowed.step (P : ProbesFollowed S es)
    (before : ∀ d, Conserved (S.ledger.health d) (history d es))
    (after : ∀ d, Conserved ((S.step i).1.ledger.health d)
      (history d (es ++ ledgerEffects (S.step i).2)))
    (hi : ProbesUndisturbed S i) :
    ProbesFollowed (S.step i).1 (es ++ ledgerEffects (S.step i).2) where
  tracked := tracked_step P.tracked i
  followed t ht := by
    cases origin_step i ht with
    | kept stage hbefore _ => exact P.still (t := (t.1, stage)) before hi hbefore
    | launched hnew => exact followed_launched hnew (after _)
  quitting t ht hquit := by
    -- a probe quits once its request is no longer pending, so the request was answered
    cases origin_step i ht with
    | kept stage hbefore hquitting =>
      rw [history_append, slotEvents_append, Slot.closed_append]
      refine List.mem_append_left _ ?_
      rcases hquitting hquit with hstage | hnone
      · exact P.quitting (t.1, stage) hbefore hstage
      · have F := P.followed (t.1, stage) hbefore
        exact (before _).closed_of_not_pending F.begun (F.not_pending hnone)
    | launched hnew =>
      rw [hnew.playing] at hquit
      cases hquit

/-! ## What a probe reads when it acts -/

/-- An output, of probes in flight, that goes by what they can read in the ledger. -/
inductive ReadsOwn (ps : List (Probe × Stage)) (L : DeliveryLedger) : Output → Prop
  | ledger (e : Effect) : ReadsOwn ps L (.ledger e)
  | launched (p : Probe) : ReadsOwn ps L (.launched p)
  | obtained {p : Probe} {stage : Stage} (hp : (p, stage) ∈ ps) {outcome : Option DeliveryOutcome}
      (ho : outcome = reads (L.health p.uuid) p) : ReadsOwn ps L (.obtained p outcome)
  | stored {p : Probe} {stage : Stage} (hp : (p, stage) ∈ ps) {outcome : Option DeliveryOutcome}
      (ho : outcome = reads (L.health p.uuid) p) : ReadsOwn ps L (.stored p outcome)
  | quitApp {p : Probe} {stage : Stage} (hp : (p, stage) ∈ ps)
      (ok : reads (L.health p.uuid) p = some .ok) (idle : p.snapshot.appIdle = true) :
      ReadsOwn ps L (.quitApp p)

variable {ps : List (Probe × Stage)} {L : DeliveryLedger} {stage : Stage} {o : Output}

theorem readsOwn_ledgerCall {c : Call} (ho : o ∈ (S.ledgerCall c).2) : ReadsOwn ps L o := by
  obtain ⟨e, -, rfl⟩ := List.mem_map.mp ho
  exact .ledger e

theorem readsOwn_refreshDevice {env : Env} {cycle : Cycle} {url : String} {u : UUID}
    (ho : o ∈ (S.refreshDevice env cycle url u).1.2) : ReadsOwn ps L o := by
  unfold refreshDevice actOn launchProbe at ho
  simp only at ho
  rcases List.mem_append.mp ho with ho | ho
  · exact readsOwn_ledgerCall ho
  · split at ho
    · rcases List.mem_cons.mp ho with rfl | ho
      · exact .launched _
      · exact readsOwn_ledgerCall ho
    · split at ho
      · exact readsOwn_ledgerCall ho
      · cases ho

theorem readsOwn_refreshDevices {env : Env} {cycle : Cycle} {url : String} {us : List UUID}
    {results : Dict UUID ProbeResult}
    (ho : o ∈ (refreshDevices env cycle url us S results).1.2) : ReadsOwn ps L o := by
  induction us generalizing S results with
  | nil => cases ho
  | cons u us ih =>
    rcases List.mem_append.mp ho with ho | ho
    · exact readsOwn_refreshDevice ho
    · exact ih ho

/-- The `finally` clause reads the own outcome, unless the request is pending and the device has
a record. -/
theorem readsOwn_finishProbe (hp : (p, stage) ∈ ps)
    (early : OwnPending S.ledger p → (S.ledger.health p.uuid).lastRecord = none)
    (ho : o ∈ (S.finishProbe p).2) : ReadsOwn ps S.ledger o := by
  rw [outputs_finishProbe ho]
  refine .stored hp ?_
  unfold reads
  split
  · next hq =>
    rw [early hq]
    rfl
  · rfl

/-- `_async_wait_for_outcome` returns the own outcome: at the deadline nothing, and otherwise
that of a device with no request of a probe pending. -/
theorem reads_waitForOutcome {env : Env} {deadline : Monotonic} {outcome : Option DeliveryOutcome}
    (F : Followed h es p) (hw : waitForOutcome env h deadline = some outcome) :
    outcome = reads h p ∧ (h.request = some p.request → deadline < env.monotonic) := by
  unfold waitForOutcome at hw
  split at hw
  · next hany =>
    split at hw
    · next hlate =>
      obtain ⟨pending, hp, hs⟩ := (Option.any_eq_true ..).mp hany
      have hrequest : h.request = some pending.toRequest := by rw [DeviceHealth.request, hp]; rfl
      rw [F.own _ hrequest (of_decide_eq_true hs)] at hrequest
      refine ⟨?_, fun _ => hlate⟩
      rw [reads, if_pos hrequest]
      exact (Option.some.inj hw).symm
    · cases hw
  · next hnone =>
    have hother := F.not_pending (by simpa [NoProbePending] using hnone)
    refine ⟨?_, fun hq => absurd hq hother⟩
    rw [reads, if_neg hother]
    exact (Option.some.inj hw).symm

theorem readsOwn_waitProbe (hp : (p, stage) ∈ ps) {env : Env} {deadline : Monotonic}
    (F : Followed (S.ledger.health p.uuid) es p)
    (early : deadline < env.monotonic → OwnPending S.ledger p →
      (S.ledger.health p.uuid).lastRecord = none)
    (ho : o ∈ (S.waitProbe env p deadline).2) : ReadsOwn ps S.ledger o := by
  unfold waitProbe at ho
  split at ho
  · cases ho
  · next outcome hw =>
    obtain ⟨houtcome, hdeadline⟩ := reads_waitForOutcome F hw
    split at ho
    · next hok =>
      rcases List.mem_cons.mp ho with rfl | ho
      · exact .obtained hp houtcome
      · rw [List.mem_singleton] at ho
        rw [ho]
        exact .quitApp hp (houtcome ▸ hok.1) hok.2
    · rcases List.mem_cons.mp ho with rfl | ho
      · exact .obtained hp houtcome
      · exact readsOwn_finishProbe hp (fun hq => early (hdeadline hq) hq) ho

theorem Move.readsOwn {r : System × List Output} (h : Move S i r) (P : ProbesFollowed S es)
    (before : ∀ d, Conserved (S.ledger.health d) (history d es)) (hi : ProbesUndisturbed S i)
    (ho : o ∈ r.2) : ReadsOwn S.probes r.1.ledger o := by
  cases h with
  | idle | options => cases ho
  | call => exact readsOwn_ledgerCall ho
  | cycle => exact readsOwn_refreshDevices ho
  | wait p stage deadline hp late =>
    rw [toHub_waitProbe]
    exact readsOwn_waitProbe hp (P.followed _ hp) (fun hl hq => (hi _ hp).early (late hl) hq) ho
  | fail p err hp =>
    rw [toHub_finishProbe]
    rcases List.mem_append.mp ho with ho | ho
    · exact readsOwn_ledgerCall ho
    · refine readsOwn_finishProbe hp (fun hq => ?_) ho
      -- `async_request_failed` leaves nothing pending
      have hnone := pending_requestFailed S.toHub i.env p.uuid err none none
      rw [OwnPending, DeviceHealth.request] at hq
      rw [show (S.ledgerCall _).1.ledger = (S.toHub.call _).1.ledger from rfl, hnone] at hq
      cases hq
  | finish p stage hp ends =>
    rw [toHub_finishProbe]
    refine readsOwn_finishProbe hp (fun hq => ?_) ho
    rcases ends with rfl | hends
    · -- a probe quits an app only when its request is resolved
      obtain ⟨r, hr⟩ := mem_closed.mp (P.quitting _ hp rfl)
      exact absurd (recordsFor_pending (before p.uuid) hq)
        (List.ne_nil_of_mem (mem_recordsFor.mpr hr))
    · exact (hi _ hp).early hends hq

/-- **An event that disturbs no probe makes probes go by what they can read of their own
request.** -/
theorem readsOwn_step (P : ProbesFollowed S es)
    (before : ∀ d, Conserved (S.ledger.health d) (history d es)) (hi : ProbesUndisturbed S i)
    (ho : o ∈ (S.step i).2) : ReadsOwn S.probes (S.step i).1.ledger o :=
  (move_step S i).readsOwn P before hi ho

/-! ## Runs -/

/-- What goes by what a followed probe can read goes by its own outcome. -/
theorem ReadsOwn.ownOutcome (hr : ReadsOwn S.probes L o)
    (F : ∀ t ∈ S.probes, Followed (L.health t.1.uuid) (history t.1.uuid es) t.1)
    (H : ∀ d, Conserved (L.health d) (history d es))
    (fold : ∀ d, FoldOf (records (history d es)) (L.health d)) : OwnOutcome es o := by
  have hread : ∀ {p stage}, (p, stage) ∈ S.probes →
      (resolutionOf p.toTicket es).map DeliveryRecord.outcome = reads (L.health p.uuid) p :=
    fun hp => (F _ hp).reads (H _) (fold _)
  cases hr with
  | ledger | launched => trivial
  | obtained hp ho | stored hp ho => exact ho.trans (hread hp).symm
  | quitApp hp ok idle => exact ⟨(hread hp).trans ok, idle⟩

variable (options : StoredOptions)

theorem conserved_concat (run : List Input) (i : Input) (d : UUID) :
    Conserved (((after options run).step i).1.ledger.health d)
      (history d (ledgerEffects (outputs options run) ++
        ledgerEffects ((after options run).step i).2)) := by
  have hlonger := conserved options d (run ++ [i])
  rwa [after, historyOf, outputs, Machine.final_concat, Machine.emitted_concat,
    ledgerEffects_append] at hlonger

theorem foldOf_concat (run : List Input) (i : Input) (d : UUID) :
    FoldOf (records (history d (ledgerEffects (outputs options run) ++
        ledgerEffects ((after options run).step i).2)))
      (((after options run).step i).1.ledger.health d) := by
  have hlonger := foldOf options d (run ++ [i])
  rwa [after, historyOf, outputs, Machine.final_concat, Machine.emitted_concat,
    ledgerEffects_append] at hlonger

/-- In a run of events that disturb no probe, the invariant of the probes holds at the end. -/
theorem probesFollowed_run {run : List Input}
    (h : Machine.Along step ProbesUndisturbed (setUp options) run) :
    ProbesFollowed (after options run) (ledgerEffects (outputs options run)) := by
  induction run using List.reverseRecOn with
  | nil => exact ⟨⟨by simp [setUp, after], by simp [setUp, after]⟩, by simp [setUp, after],
      by simp [setUp, after]⟩
  | append_singleton run i ih =>
    rw [Machine.along_append] at h
    rw [outputs, after, Machine.emitted_concat, Machine.final_concat, ledgerEffects_append]
    exact (ih h.1).step (conserved options · run) (conserved_concat options run i) h.2.1

/-- **A probe acts on its own outcome** in every run in which no record is appended on a device
between the resolution of its probe's request and the end of the probe, and no probe ends before
its request is resolved on a device that has a record. -/
theorem probe_acts_on_own (run : List Input)
    (h : Machine.Along step ProbesUndisturbed (setUp options) run) (before : List Input) (i : Input)
    (hbefore : before ++ [i] <+: run) (o : Output) (ho : o ∈ ((after options before).step i).2) :
    OwnOutcome (ledgerEffects (outputs options (before ++ [i]))) o := by
  obtain ⟨rest, rfl⟩ := hbefore
  rw [Machine.along_append, Machine.along_append] at h
  obtain ⟨⟨hrun, hi, -⟩, -⟩ := h
  have P := probesFollowed_run options hrun
  have hr := readsOwn_step P (conserved options · before) hi ho
  rw [outputs, Machine.emitted_concat, ledgerEffects_append]
  exact hr.ownOutcome (fun t ht => P.still (conserved options · before) hi ht)
    (conserved_concat options before i) (foldOf_concat options before i)

/-- The probe that `idleCycle 10` launches. -/
def idleProbe : Probe where
  uuid := ⟨1⟩
  request := ⟨0, "http://ha/probe.wav", .probe, 10000000, 10 * second, none⟩
  snapshot := idleSpeaker

/-- A probe whose clip the speaker plays. -/
def playedProbe : List Input :=
  [⟨.bare 0, .registerTarget ⟨1⟩ 0⟩, idleCycle 10,
    ⟨.bare 11,
      .callback (.mediaStatus ⟨1⟩ ⟨⟨"http://ha/probe.wav", "PLAYING", none, some 1⟩, false⟩) rfl⟩]

/-- A probe that an announcement supersedes before its `quick_play` returns; the speaker plays
the announcement. -/
def overtakenProbe : List Input :=
  [⟨.bare 0, .registerTarget ⟨1⟩ 0⟩, idleCycle 10,
    ⟨.bare 11, .play ⟨1⟩ "http://ha/tts.mp3" .announce none⟩,
    ⟨.bare 12,
      .callback (.mediaStatus ⟨1⟩ ⟨⟨"http://ha/tts.mp3", "PLAYING", none, some 1⟩, false⟩) rfl⟩]

/-- `quick_play` of the probe returns. -/
def idleProbeReturns : Input := ⟨.bare 13, .probeReturns idleProbe⟩

theorem probe_acts_on_own_played :
    OwnOutcome (ledgerEffects (outputs {} (playedProbe ++ [idleProbeReturns])))
      (.quitApp idleProbe) :=
  probe_acts_on_own {} (playedProbe ++ [idleProbeReturns]) (by decide) playedProbe
    idleProbeReturns (List.prefix_refl _) (.quitApp idleProbe) (by decide)

/-- The overtaken probe quits the app, although its own request was superseded. -/
theorem not_ownOutcome :
    .quitApp idleProbe ∈ ((after {} overtakenProbe).step idleProbeReturns).2 ∧
      ¬ OwnOutcome (ledgerEffects (outputs {} (overtakenProbe ++ [idleProbeReturns])))
        (.quitApp idleProbe) := by
  decide

end System

end CastDelivery
