import CastDelivery.Discovery.Basic
import CastDelivery.Lib.Machine

/-!
# The discovery follows the entry

`follows_entry`: the lock is released once by the set-up that acquired it, every started browser is
stopped once, an unload leaves no browser running and the lock free, and the next set-up gets the
lock, in every run whose steps are `Orderly`.

`not_followsEntry` shows that the source needs this. A stop event whose job has not run yet when the
entry is unloaded stops the browser and releases the lock a second time, and a job that runs only
after the unload starts a browser that nothing stops.
-/

namespace CastDelivery

/-- `listen_once` has returned. -/
def JobStage.Listens (job : JobStage) : Prop := job = .listening ∨ job = .returned

/-- The unload goes for the browser of a set-up. -/
def UnloadStage.GoesFor (stage : UnloadStage) (n : ℕ) : Prop :=
  (∃ listener, stage = .unsubscribing n listener) ∨ stage = .stopping n

namespace Discovery

/-! ## What follows the entry -/

/-- The unload of a set-up has completed. -/
def HasUnloaded (S : Discovery) (n : ℕ) : Prop :=
  n < S.count ∧ (S.entry = .notLoaded ∨ n + 1 < S.count)

/-- One step follows the entry. -/
structure Follows (S : Discovery) (event : DiscoveryEvent) : Prop where
  /-- A release ends the acquire of its own set-up. -/
  released : ∀ n, .released n ∈ (S.step event).2 → S.lock = some n
  obtained : ∀ n, .refused n ∉ (S.step event).2
  once : ∀ n, ((S.step event).1.attempt n).starts ≤ 1 ∧ ((S.step event).1.attempt n).stops ≤ 1
  /-- After its unload, or its stop job, a browser that was started has been stopped. -/
  stopped : ∀ n, (S.step event).1.HasUnloaded n ∨ ((S.step event).1.attempt n).stop = .returned →
    ((S.step event).1.attempt n).starts ≤ ((S.step event).1.attempt n).stops
  unloaded : ∀ n, (S.step event).1.HasUnloaded n →
    ((S.step event).1.attempt n).running = false ∧ (S.step event).1.lock ≠ some n
  free : (S.step event).1.entry = .notLoaded → (S.step event).1.lock = none

/-- The steps that keep the three apart: a job acquires the lock while its set-up is loaded and
starts a browser that was not stopped yet, an unload finds no job between the lock and the
browser's publication and no stop job under way, and a stop event finds no listener but that of the
published browser. -/
def Orderly (S : Discovery) : DiscoveryEvent → Prop
  | .job n =>
    ((S.attempt n).job = .scheduled → S.entry = .loaded ∧ n + 1 = S.count) ∧
      ((S.attempt n).job = .published → (S.attempt n).stops = 0)
  | .stopEvent => ∀ n < S.count, (S.attempt n).listens = true → S.browser = some n
  | .unload => S.entry = .loaded → ∀ n < S.count, (S.attempt n).job ≠ .locked ∧
      ((S.attempt n).stop = .idle ∨ (S.attempt n).stop = .returned)
  | _ => True

instance (S : Discovery) : DecidablePred S.Orderly
  | .job n => inferInstanceAs (Decidable (
      ((S.attempt n).job = .scheduled → S.entry = .loaded ∧ n + 1 = S.count) ∧
        ((S.attempt n).job = .published → (S.attempt n).stops = 0)))
  | .stopEvent => inferInstanceAs (Decidable (
      ∀ n < S.count, (S.attempt n).listens = true → S.browser = some n))
  | .unload => inferInstanceAs (Decidable (S.entry = .loaded → ∀ n < S.count,
      (S.attempt n).job ≠ .locked ∧
        ((S.attempt n).stop = .idle ∨ (S.attempt n).stop = .returned)))
  | .setUp | .stopJob _ | .unloadJob _ => inferInstanceAs (Decidable True)

/-! ## The standing of a set-up -/

/-- The unload of the set-up has stopped its browser, or has found none. -/
structure Ended (a : Attempt) : Prop where
  stopped : a.running = false
  notLocked : a.job ≠ .locked
  quiet : a.stop = .idle ∨ a.stop = .returned
  starts : a.starts ≤ a.stops
  stops : a.stops ≤ 1
  published : a.job = .published → a.stops = 1

/-- The unload of the set-up has taken its browser, and not stopped it yet. -/
structure Taken (a : Attempt) : Prop where
  idle : a.stop = .idle
  notLocked : a.job ≠ .locked
  notScheduled : a.job ≠ .scheduled
  starts : a.starts ≤ 1
  stops : a.stops = 0
  published : a.job = .published → a.starts = 0

/-- How the last set-up stands: the state of the entry, the lock, the published browser, and what
belongs to the set-up itself. -/
inductive Standing (n : ℕ) : EntryState → Option ℕ → Option ℕ → Attempt → Prop
  | scheduled : Standing n .loaded none none { job := .scheduled }
  | locked : Standing n .loaded (some n) none { job := .locked }
  | published : Standing n .loaded (some n) (some n) { job := .published }
  | started : Standing n .loaded (some n) (some n)
      { job := .started, running := true, starts := 1 }
  | listening {job : JobStage} (h : job.Listens) : Standing n .loaded (some n) (some n)
      { job := job, listens := true, running := true, starts := 1 }
  | dispatched {job : JobStage} (h : job.Listens) : Standing n .loaded (some n) (some n)
      { job := job, stop := .dispatched, running := true, starts := 1 }
  | stopped {job : JobStage} (h : job.Listens) : Standing n .loaded (some n) (some n)
      { job := job, stop := .stopped, starts := 1, stops := 1 }
  | ended {job : JobStage} (h : job.Listens) : Standing n .loaded none none
      { job := job, stop := .returned, starts := 1, stops := 1 }
  | taken {stage : UnloadStage} {a : Attempt} (hstage : stage.GoesFor n) (h : Taken a) :
      Standing n (.unloading stage) (some n) none a
  | releasing {a : Attempt} (h : Ended a) :
      Standing n (.unloading (.releasing n)) (some n) none a
  | unloaded {entry : EntryState} {a : Attempt}
      (hentry : entry = .unloading .finishing ∨ entry = .notLoaded) (h : Ended a) :
      Standing n entry none none a

variable {S : Discovery} {n : ℕ} {e : EntryState} {l b : Option ℕ} {a : Attempt}

/-- The lock and the published browser are those of the last set-up. -/
theorem Standing.own (h : Standing n e l b a) {m : ℕ} (hne : m ≠ n) :
    l ≠ some m ∧ b ≠ some m := by
  cases h <;> simp [hne.symm]

/-- The invariant of orderly runs. -/
structure Settled (S : Discovery) : Prop where
  fresh : ∀ n, S.count ≤ n → S.attempt n = {}
  past : ∀ n, n + 1 < S.count → Ended (S.attempt n)
  last : ∀ n, n + 1 = S.count → Standing n S.entry S.lock S.browser (S.attempt n)
  data : S.entry = .loaded → S.data ≠ none
  unused : S.count = 0 → S.entry = .notLoaded ∧ S.lock = none

/-! ## The job goes on -/

/-- Two states that differ in what belongs to the set-ups themselves, or in the stored remover of
a stop listener. -/
structure SameEntry (S S' : Discovery) : Prop where
  count : S'.count = S.count
  entry : S'.entry = S.entry
  lock : S'.lock = S.lock
  browser : S'.browser = S.browser
  data : S.data ≠ none → S'.data ≠ none

theorem sameEntry_modify (S : Discovery) (n : ℕ) (f : Attempt → Attempt) :
    SameEntry S (S.modify n f) := ⟨rfl, rfl, rfl, rfl, id⟩

theorem sameEntry_unsub (S : Discovery) (n : ℕ) (f : Attempt → Attempt) :
    SameEntry S { S.modify n f with
      data := S.data.map fun data => { data with unsubDiscoveryStop := some n } } := by
  refine ⟨rfl, rfl, rfl, ?_, by simp⟩
  show (S.data.map _).bind DiscoveryData.browser = S.data.bind DiscoveryData.browser
  cases S.data <;> rfl

/-- After `listen_once` the job only stores the remover of the listener. -/
theorem step_job_listens (h : (S.attempt n).job.Listens) :
    SameEntry S (S.step (.job n)).1 ∧
      (S.step (.job n)).1.attempt n = { S.attempt n with job := .returned } := by
  rcases h with h | h
  · simp only [step, setupInternalDiscovery, h]
    exact ⟨sameEntry_unsub S n _, attempt_modify_self S n _⟩
  · simp only [step, setupInternalDiscovery, h]
    exact ⟨⟨rfl, rfl, rfl, rfl, id⟩, by rw [← h]⟩

/-- The job of a set-up whose unload has stopped the browser cannot start it again. -/
theorem Ended.job (h : Ended (S.attempt n)) (hscheduled : (S.attempt n).job ≠ .scheduled)
    (hpublished : (S.attempt n).job = .published → (S.attempt n).stops = 0) :
    SameEntry S (S.step (.job n)).1 ∧ Ended ((S.step (.job n)).1.attempt n) := by
  cases hjob : (S.attempt n).job with
  | scheduled => exact absurd hjob hscheduled
  | locked => exact absurd hjob h.notLocked
  | published =>
    -- the unload has stopped this browser before it was started
    have hone := h.published hjob
    rw [hpublished hjob] at hone
    cases hone
  | started =>
    simp only [step, setupInternalDiscovery, hjob]
    refine ⟨sameEntry_modify S n _, ?_⟩
    rw [attempt_modify_self]
    exact ⟨h.stopped, by simp, h.quiet, h.starts, h.stops, by simp⟩
  | listening =>
    obtain ⟨hsame, hattempt⟩ := step_job_listens (.inl hjob)
    refine ⟨hsame, ?_⟩
    rw [hattempt]
    exact ⟨h.stopped, by simp, h.quiet, h.starts, h.stops, by simp⟩
  | unscheduled | returned =>
    simp only [step, setupInternalDiscovery, hjob]
    exact ⟨⟨rfl, rfl, rfl, rfl, id⟩, h⟩

/-- The job of a set-up whose browser the unload has taken may still start it. -/
theorem Taken.job (h : Taken (S.attempt n)) :
    SameEntry S (S.step (.job n)).1 ∧ Taken ((S.step (.job n)).1.attempt n) := by
  cases hjob : (S.attempt n).job with
  | scheduled => exact absurd hjob h.notScheduled
  | locked => exact absurd hjob h.notLocked
  | published =>
    simp only [step, setupInternalDiscovery, hjob]
    refine ⟨sameEntry_modify S n _, ?_⟩
    rw [attempt_modify_self]
    have hstarts := h.published hjob
    exact ⟨h.idle, by simp, by simp, by simp [Attempt.startDiscovery, hstarts], h.stops, by simp⟩
  | started =>
    simp only [step, setupInternalDiscovery, hjob]
    refine ⟨sameEntry_modify S n _, ?_⟩
    rw [attempt_modify_self]
    exact ⟨h.idle, by simp, by simp, h.starts, h.stops, by simp⟩
  | listening =>
    obtain ⟨hsame, hattempt⟩ := step_job_listens (.inl hjob)
    refine ⟨hsame, ?_⟩
    rw [hattempt]
    exact ⟨h.idle, by simp, by simp, h.starts, h.stops, by simp⟩
  | unscheduled | returned =>
    simp only [step, setupInternalDiscovery, hjob]
    exact ⟨⟨rfl, rfl, rfl, rfl, id⟩, h⟩

/-- The job of the last set-up: the lock, the browser, the start, the listener. -/
theorem Standing.job (h : Standing n S.entry S.lock S.browser (S.attempt n))
    (hdata : S.entry = .loaded → S.data ≠ none) (ho : S.Orderly (.job n)) :
    Standing n (S.step (.job n)).1.entry (S.step (.job n)).1.lock (S.step (.job n)).1.browser
      ((S.step (.job n)).1.attempt n) := by
  obtain ⟨hscheduled, hpublished⟩ := ho
  have hlistens := step_job_listens (S := S) (n := n)
  have hended := Ended.job (S := S) (n := n)
  have htaken := Taken.job (S := S) (n := n)
  generalize ha : S.attempt n = a at *
  generalize he : S.entry = e at *
  generalize hl : S.lock = l at *
  generalize hb : S.browser = b at *
  cases h with
  | scheduled =>
    simp only [step, setupInternalDiscovery, ha, hl]
    show Standing n S.entry (some n) S.browser ((S.modify n _).attempt n)
    rw [he, hb, attempt_modify_self, ha]
    exact .locked
  | locked =>
    cases hd : S.data with
    | none => exact absurd hd (hdata rfl)
    | some data =>
      simp only [step, setupInternalDiscovery, ha, hd]
      show Standing n S.entry S.lock (some n) ((S.modify n _).attempt n)
      rw [he, hl, attempt_modify_self, ha]
      exact .published
  | published =>
    simp only [step, setupInternalDiscovery, ha]
    show Standing n S.entry S.lock S.browser ((S.modify n _).attempt n)
    rw [he, hl, hb, attempt_modify_self, ha]
    exact .started
  | started =>
    simp only [step, setupInternalDiscovery, ha]
    show Standing n S.entry S.lock S.browser ((S.modify n _).attempt n)
    rw [he, hl, hb, attempt_modify_self, ha]
    exact .listening (.inl rfl)
  | listening hjob =>
    obtain ⟨hsame, hattempt⟩ := hlistens hjob
    rw [hsame.entry, hsame.lock, hsame.browser, hattempt, he, hl, hb]
    exact .listening (.inr rfl)
  | dispatched hjob =>
    obtain ⟨hsame, hattempt⟩ := hlistens hjob
    rw [hsame.entry, hsame.lock, hsame.browser, hattempt, he, hl, hb]
    exact .dispatched (.inr rfl)
  | stopped hjob =>
    obtain ⟨hsame, hattempt⟩ := hlistens hjob
    rw [hsame.entry, hsame.lock, hsame.browser, hattempt, he, hl, hb]
    exact .stopped (.inr rfl)
  | ended hjob =>
    obtain ⟨hsame, hattempt⟩ := hlistens hjob
    rw [hsame.entry, hsame.lock, hsame.browser, hattempt, he, hl, hb]
    exact .ended (.inr rfl)
  | taken hstage h =>
    obtain ⟨hsame, hattempt⟩ := htaken h
    rw [hsame.entry, hsame.lock, hsame.browser, he, hl, hb]
    exact .taken hstage hattempt
  | releasing h =>
    have hnot : a.job ≠ .scheduled := fun hjob => by cases (hscheduled hjob).1
    obtain ⟨hsame, hattempt⟩ := hended h hnot hpublished
    rw [hsame.entry, hsame.lock, hsame.browser, he, hl, hb]
    exact .releasing hattempt
  | unloaded hentry h =>
    have hnot : a.job ≠ .scheduled := by
      intro hjob
      have hloaded := (hscheduled hjob).1
      rcases hentry with rfl | rfl <;> cases hloaded
    obtain ⟨hsame, hattempt⟩ := hended h hnot hpublished
    rw [hsame.entry, hsame.lock, hsame.browser, he, hl, hb]
    exact .unloaded hentry hattempt

/-! ## The other steps of the last set-up -/

/-- The stop event dispatches the listener of the last set-up while its browser is published. -/
theorem Standing.stopEvent (h : Standing n e l b a) (ho : a.listens = true → b = some n) :
    Standing n e l b a.dispatch := by
  -- without a published browser there is no listener that the event could dispatch
  have hsame : b = none → a.dispatch = a := by
    intro hb
    have hsilent : a.listens = false := by
      by_contra hlistens
      have hsome := ho (by simpa using hlistens)
      rw [hb] at hsome
      cases hsome
    unfold Attempt.dispatch
    rw [hsilent]
    rfl
  cases h with
  | scheduled => exact .scheduled
  | locked => exact .locked
  | published => exact .published
  | started => exact .started
  | listening hjob => exact .dispatched hjob
  | dispatched hjob => exact .dispatched hjob
  | stopped hjob => exact .stopped hjob
  | ended hjob => exact .ended hjob
  | taken hstage h =>
    rw [hsame rfl]
    exact .taken hstage h
  | releasing h =>
    rw [hsame rfl]
    exact .releasing h
  | unloaded hentry h =>
    rw [hsame rfl]
    exact .unloaded hentry h

theorem step_stopJob_quiet (h : (S.attempt n).stop = .idle ∨ (S.attempt n).stop = .returned) :
    S.step (.stopJob n) = (S, []) := by
  rcases h with h | h <;> simp only [step, stopDiscovery, h]

/-- The job of the stop listener goes on: the stop, and then the release. -/
theorem Standing.stopJob (h : Standing n S.entry S.lock S.browser (S.attempt n)) :
    Standing n (S.step (.stopJob n)).1.entry (S.step (.stopJob n)).1.lock
      (S.step (.stopJob n)).1.browser ((S.step (.stopJob n)).1.attempt n) := by
  by_cases hquiet : (S.attempt n).stop = .idle ∨ (S.attempt n).stop = .returned
  · rw [step_stopJob_quiet hquiet]
    exact h
  · generalize ha : S.attempt n = a at *
    generalize he : S.entry = e at *
    generalize hl : S.lock = l at *
    generalize hb : S.browser = b at *
    -- a stop listener that is under way finds the entry loaded
    cases h with
    | dispatched hjob =>
      simp only [step, stopDiscovery, ha]
      show Standing n S.entry S.lock S.browser ((S.modify n _).attempt n)
      rw [he, hl, hb, attempt_modify_self, ha]
      exact .stopped hjob
    | stopped hjob =>
      simp only [step, stopDiscovery, ha, hl]
      show Standing n S.entry none ((S.data.map _).bind DiscoveryData.browser)
        ((S.modify n _).attempt n)
      rw [he, attempt_modify_self, ha]
      cases S.data <;> exact .ended hjob
    | taken _ h => exact absurd (.inl h.idle) hquiet
    | releasing h => exact absurd h.quiet hquiet
    | unloaded _ h => exact absurd h.quiet hquiet
    | _ => exact absurd (by simp) hquiet

/-- An unload takes the browser of the last set-up, or finds none. -/
theorem Standing.unload (h : Standing n S.entry S.lock S.browser (S.attempt n))
    (ho : S.entry = .loaded → (S.attempt n).job ≠ .locked ∧
      ((S.attempt n).stop = .idle ∨ (S.attempt n).stop = .returned))
    (hloaded : S.entry = .loaded) (hdata : S.data ≠ none) :
    Standing n (S.step .unload).1.entry (S.step .unload).1.lock (S.step .unload).1.browser
      ((S.step .unload).1.attempt n) := by
  obtain ⟨hlocked, hquiet⟩ := ho hloaded
  cases hd : S.data with
  | none => exact absurd hd hdata
  | some data =>
    have hbrowser : S.browser = data.browser := by rw [browser, hd, Option.bind_some]
    cases hb : data.browser with
    | none =>
      -- no browser is published: the unload has nothing to stop
      have hstep : S.step .unload = ({ S with entry := .unloading .finishing }, []) := by
        simp only [step, asyncUnloadEntry, hloaded, hd, hb]
      rw [hstep]
      show Standing n (.unloading .finishing) S.lock S.browser (S.attempt n)
      rw [hbrowser, hb, hloaded] at h
      rw [hbrowser, hb]
      generalize S.attempt n = a at *
      generalize S.lock = l at *
      cases h with
      | scheduled => exact .unloaded (.inl rfl) (by constructor <;> simp)
      | locked => exact absurd rfl hlocked
      | ended hjob =>
        refine .unloaded (.inl rfl) ?_
        rcases hjob with rfl | rfl <;> constructor <;> simp
      | unloaded hentry h => exact .unloaded (.inl rfl) h
    | some browser =>
      have hstep : ∃ stage : UnloadStage, stage.GoesFor browser ∧
          S.step .unload = ({ S with data := some {}, entry := .unloading stage }, []) := by
        simp only [step, asyncUnloadEntry, hloaded, hd, hb]
        cases data.unsubDiscoveryStop with
        | none => exact ⟨_, .inr rfl, rfl⟩
        | some listener => exact ⟨_, .inl ⟨listener, rfl⟩, rfl⟩
      obtain ⟨stage, hstage, hstep⟩ := hstep
      rw [hstep]
      show Standing n (.unloading stage) S.lock none (S.attempt n)
      rw [hbrowser, hb, hloaded] at h
      generalize S.attempt n = a at *
      generalize S.lock = l at *
      cases h with
      | published => exact .taken hstage (by constructor <;> simp)
      | started => exact .taken hstage (by constructor <;> simp)
      | listening hjob =>
        refine .taken hstage ?_
        rcases hjob with rfl | rfl <;> constructor <;> simp
      | dispatched => simp at hquiet
      | stopped => simp at hquiet

theorem Taken.unsub (h : Taken a) : Taken a.unsub :=
  ⟨h.idle, h.notLocked, h.notScheduled, h.starts, h.stops, h.published⟩

theorem Ended.unsub (h : Ended a) : Ended a.unsub :=
  ⟨h.stopped, h.notLocked, h.quiet, h.starts, h.stops, h.published⟩

theorem Taken.stopDiscovery (h : Taken a) : Ended a.stopDiscovery where
  stopped := rfl
  notLocked := h.notLocked
  quiet := .inl h.idle
  starts := by
    have hle := h.starts
    show a.starts ≤ a.stops + 1
    omega
  stops := by
    have hstops := h.stops
    show a.stops + 1 ≤ 1
    omega
  published _ := by
    show a.stops + 1 = 1
    rw [h.stops]

/-! ## The invariant of orderly runs -/

theorem settled_init : Settled {} :=
  ⟨fun _ _ => rfl, fun _ h => absurd h (Nat.not_lt_zero _), fun n h => absurd h n.succ_ne_zero,
    fun h => absurd h (by decide), fun _ => ⟨rfl, rfl⟩⟩

theorem attempt_job_of_ne {m : ℕ} (hne : m ≠ n) :
    (S.step (.job n)).1.attempt m = S.attempt m := by
  simp only [step, setupInternalDiscovery]
  split
  · split <;> exact Function.update_of_ne hne _ _
  · split <;> exact Function.update_of_ne hne _ _
  · exact Function.update_of_ne hne _ _
  · exact Function.update_of_ne hne _ _
  · exact Function.update_of_ne hne _ _
  · rfl
  · rfl

theorem frame_job : (S.step (.job n)).1.count = S.count ∧
    (S.step (.job n)).1.entry = S.entry ∧ (S.data ≠ none → (S.step (.job n)).1.data ≠ none) := by
  simp only [step, setupInternalDiscovery]
  split
  · split <;> exact ⟨rfl, rfl, id⟩
  · split
    · exact ⟨rfl, rfl, id⟩
    · exact ⟨rfl, rfl, by simp⟩
  · exact ⟨rfl, rfl, id⟩
  · exact ⟨rfl, rfl, id⟩
  · exact ⟨rfl, rfl, by simp⟩
  · exact ⟨rfl, rfl, id⟩
  · exact ⟨rfl, rfl, id⟩

/-- A change to the last set-up `n` that may also take an older stop listener off the bus. -/
theorem Settled.of_last (h : Settled S) (hn : n + 1 = S.count) {T : Discovery}
    (hcount : T.count = S.count) (hdata : T.entry = .loaded → T.data ≠ none)
    (hother : ∀ m, m ≠ n → T.attempt m = S.attempt m ∨ T.attempt m = (S.attempt m).unsub)
    (hlast : Standing n T.entry T.lock T.browser (T.attempt n)) : Settled T := by
  refine ⟨fun m hm => ?_, fun m hm => ?_, fun m hm => ?_, hdata, fun hm => ?_⟩
  · rw [hcount] at hm
    have hfresh := h.fresh m hm
    rcases hother m (by omega) with heq | heq
    · rw [heq, hfresh]
    · rw [heq, hfresh]
      rfl
  · rw [hcount] at hm
    rcases hother m (by omega) with heq | heq
    · rw [heq]
      exact h.past m hm
    · rw [heq]
      exact (h.past m hm).unsub
  · obtain rfl : m = n := by omega
    exact hlast
  · omega

theorem Settled.job (h : Settled S) (ho : S.Orderly (.job n)) : Settled (S.step (.job n)).1 := by
  obtain ⟨hcount, hentry, hdata⟩ := frame_job (S := S) (n := n)
  rcases Nat.lt_trichotomy (n + 1) S.count with hpast | hlast | hfresh
  · -- the job of a set-up that is over
    have hnot : (S.attempt n).job ≠ .scheduled := fun hjob => by have := (ho.1 hjob).2; omega
    obtain ⟨hsame, hended⟩ := (h.past n hpast).job hnot ho.2
    refine ⟨fun m hm => ?_, fun m hm => ?_, fun m hm => ?_, fun hm => ?_, fun hm => ?_⟩
    · rw [hcount] at hm
      rw [attempt_job_of_ne (by omega)]
      exact h.fresh m hm
    · by_cases hmn : m = n
      · subst hmn
        exact hended
      · rw [hcount] at hm
        rw [attempt_job_of_ne hmn]
        exact h.past m hm
    · rw [hcount] at hm
      rw [hsame.entry, hsame.lock, hsame.browser, attempt_job_of_ne (by omega)]
      exact h.last m hm
    · rw [hentry] at hm
      exact hdata (h.data hm)
    · rw [hcount] at hm
      omega
  · -- the job of the last set-up
    have hstanding := (h.last n hlast).job h.data ho
    exact h.of_last hlast hcount (fun hm => hdata (h.data (hentry ▸ hm)))
      (fun m hm => .inl (attempt_job_of_ne hm)) hstanding
  · -- no job is scheduled
    have hstep : S.step (.job n) = (S, []) := by
      simp only [step, setupInternalDiscovery, h.fresh n (by omega)]
    rw [hstep]
    exact h

theorem Settled.stopEvent (h : Settled S) (ho : S.Orderly .stopEvent) :
    Settled (S.step .stopEvent).1 where
  fresh n hn := by
    show (S.attempt n).dispatch = {}
    rw [h.fresh n hn]
    rfl
  past n hn := by
    have hpast : n + 1 < S.count := hn
    show Ended (S.attempt n).dispatch
    have hsilent : (S.attempt n).listens ≠ true := by
      intro hlistens
      have hbrowser := ho n (Nat.lt_of_succ_lt hpast) hlistens
      obtain ⟨k, hk⟩ : ∃ k, k + 1 = S.count := ⟨S.count - 1, by omega⟩
      exact ((h.last k hk).own (by omega)).2 hbrowser
    unfold Attempt.dispatch
    rw [if_neg hsilent]
    exact h.past n hn
  last n hn := (h.last n hn).stopEvent (ho n (Nat.lt_of_lt_of_eq n.lt_succ_self hn))
  data := h.data
  unused := h.unused

theorem frame_stopJob : (S.step (.stopJob n)).1.count = S.count ∧
    (S.step (.stopJob n)).1.entry = S.entry ∧
    (S.data ≠ none → (S.step (.stopJob n)).1.data ≠ none) ∧
    ∀ m, m ≠ n → (S.step (.stopJob n)).1.attempt m = S.attempt m := by
  simp only [step, stopDiscovery]
  split
  · exact ⟨rfl, rfl, id, fun m hm => Function.update_of_ne hm _ _⟩
  · split
    · exact ⟨rfl, rfl, id, fun m hm => Function.update_of_ne hm _ _⟩
    · exact ⟨rfl, rfl, by simp, fun m hm => Function.update_of_ne hm _ _⟩
  · exact ⟨rfl, rfl, id, fun _ _ => rfl⟩
  · exact ⟨rfl, rfl, id, fun _ _ => rfl⟩

theorem Settled.stopJob (h : Settled S) : Settled (S.step (.stopJob n)).1 := by
  by_cases hlast : n + 1 = S.count
  · obtain ⟨hcount, hentry, hdata, hother⟩ := frame_stopJob (S := S) (n := n)
    exact h.of_last hlast hcount (fun hm => hdata (h.data (hentry ▸ hm)))
      (fun m hm => .inl (hother m hm)) (h.last n hlast).stopJob
  · -- the stop listener of no other set-up was dispatched
    have hquiet : (S.attempt n).stop = .idle ∨ (S.attempt n).stop = .returned := by
      rcases Nat.lt_or_ge (n + 1) S.count with hpast | hge
      · exact (h.past n hpast).quiet
      · rw [h.fresh n (by omega)]
        exact .inl rfl
    rw [step_stopJob_quiet hquiet]
    exact h

theorem step_unload_of_ne (hloaded : S.entry ≠ .loaded) : S.step .unload = (S, []) := by
  cases he : S.entry with
  | loaded => exact absurd he hloaded
  | _ => simp only [step, asyncUnloadEntry, he]

theorem frame_unload (hloaded : S.entry = .loaded) : (S.step .unload).1.count = S.count ∧
    (S.step .unload).1.attempt = S.attempt ∧ (S.step .unload).1.entry ≠ .loaded := by
  cases hd : S.data with
  | none =>
    simp only [step, asyncUnloadEntry, hloaded, hd]
    exact ⟨trivial, trivial, by simp⟩
  | some data =>
    simp only [step, asyncUnloadEntry, hloaded, hd]
    split <;> exact ⟨rfl, rfl, by simp⟩

/-- Only an entry that was never set up has no last set-up. -/
theorem Settled.exists_last (h : Settled S) (hentry : S.entry ≠ .notLoaded) :
    ∃ n, n + 1 = S.count := by
  have hpos : S.count ≠ 0 := fun hzero => hentry (h.unused hzero).1
  exact ⟨S.count - 1, by omega⟩

theorem Settled.unload (h : Settled S) (ho : S.Orderly .unload) :
    Settled (S.step .unload).1 := by
  by_cases hloaded : S.entry = .loaded
  · obtain ⟨hcount, hattempt, hentry⟩ := frame_unload hloaded
    obtain ⟨n, hn⟩ := h.exists_last (by simp [hloaded])
    have hstanding := (h.last n hn).unload (fun he => ho he n (by omega)) hloaded (h.data hloaded)
    exact h.of_last hn hcount (fun hm => absurd hm hentry)
      (fun m _ => .inl (congrFun hattempt m)) hstanding
  · rw [step_unload_of_ne hloaded]
    exact h

/-- An entry that is not loaded left nothing behind. -/
theorem Settled.notLoaded (h : Settled S) (hentry : S.entry = .notLoaded) :
    S.lock = none ∧ ∀ n < S.count, Ended (S.attempt n) := by
  rcases Nat.eq_zero_or_pos S.count with hzero | hpos
  · exact ⟨(h.unused hzero).2, fun n hn => absurd hn (by omega)⟩
  · have hlast := h.last (S.count - 1) (by omega)
    rw [hentry] at hlast
    have hover : S.lock = none ∧ Ended (S.attempt (S.count - 1)) := by
      generalize S.lock = l at *
      generalize S.browser = b at *
      cases hlast with
      | unloaded _ hended => exact ⟨rfl, hended⟩
    refine ⟨hover.1, fun n hn => ?_⟩
    rcases Nat.lt_or_ge (n + 1) S.count with hpast | hge
    · exact h.past n hpast
    · obtain rfl : n = S.count - 1 := by omega
      exact hover.2

theorem Settled.setUp (h : Settled S) : Settled (S.step .setUp).1 := by
  cases hentry : S.entry with
  | notLoaded =>
    have hstep : (S.step .setUp).1 = { S.modify S.count fun a => { a with job := .scheduled } with
        count := S.count + 1, data := some {}, entry := .loaded } := by
      simp only [step, asyncSetupEntry, hentry]
    obtain ⟨hlock, hended⟩ := h.notLoaded hentry
    rw [hstep]
    refine ⟨fun m hm => ?_, fun m hm => ?_, fun m hm => ?_, fun _ => ?_, fun hm => ?_⟩
    · have hle : S.count + 1 ≤ m := hm
      show (S.modify S.count fun a => { a with job := .scheduled }).attempt m = {}
      rw [attempt_modify_of_ne _ _ _ (by omega)]
      exact h.fresh m (by omega)
    · have hlt : m + 1 < S.count + 1 := hm
      show Ended ((S.modify S.count fun a => { a with job := .scheduled }).attempt m)
      rw [attempt_modify_of_ne _ _ _ (by omega)]
      exact hended m (by omega)
    · obtain rfl : m = S.count := Nat.succ.inj hm
      show Standing S.count .loaded S.lock none
        ((S.modify S.count fun a => { a with job := .scheduled }).attempt S.count)
      rw [hlock, attempt_modify_self, h.fresh S.count (Nat.le_refl _)]
      exact .scheduled
    · simp
    · exact absurd hm (Nat.succ_ne_zero S.count)
  | _ =>
    have hstep : S.step .setUp = (S, []) := by simp only [step, asyncSetupEntry, hentry]
    rw [hstep]
    exact h

/-- The unload goes on, on the browser of the last set-up `n`. -/
theorem Settled.continueUnload (h : Settled S) {stage : UnloadStage}
    (hentry : S.entry = .unloading stage) (hn : n + 1 = S.count) (deletesData : Bool) :
    Settled (S.step (.unloadJob deletesData)).1 := by
  have hstanding := h.last n hn
  rw [hentry] at hstanding
  generalize hl : S.lock = l at *
  generalize hb : S.browser = b at *
  cases hstanding with
  | taken hstage htaken =>
    -- the listener may be that of an older set-up, the browser is that of the last one
    rcases hstage with ⟨listener, rfl⟩ | rfl
    · simp only [Discovery.step, Discovery.continueUnload, hentry]
      refine h.of_last hn ?_ ?_ ?_ ?_
      · rfl
      · simp
      · intro m hm
        by_cases hml : m = listener
        · subst hml
          exact .inr (attempt_modify_self S m _)
        · exact .inl (attempt_modify_of_ne S listener _ hml)
      · show Standing n (.unloading (.stopping n)) S.lock S.browser
          ((S.modify listener Attempt.unsub).attempt n)
        rw [hl, hb]
        refine .taken (.inr rfl) ?_
        by_cases hnl : n = listener
        · subst hnl
          rw [attempt_modify_self]
          exact htaken.unsub
        · rw [attempt_modify_of_ne _ _ _ hnl]
          exact htaken
    · simp only [Discovery.step, Discovery.continueUnload, hentry]
      refine h.of_last hn ?_ ?_ ?_ ?_
      · rfl
      · simp
      · exact fun m hm => .inl (attempt_modify_of_ne S n _ hm)
      · show Standing n (.unloading (.releasing n)) S.lock S.browser
          ((S.modify n Attempt.stopDiscovery).attempt n)
        rw [hl, hb, attempt_modify_self]
        exact .releasing htaken.stopDiscovery
  | releasing hended =>
    simp only [Discovery.step, Discovery.continueUnload, hentry, hl]
    refine h.of_last hn ?_ ?_ ?_ ?_
    · rfl
    · simp
    · exact fun m _ => .inl rfl
    · show Standing n (.unloading .finishing) none S.browser (S.attempt n)
      rw [hb]
      exact .unloaded (.inl rfl) hended
  | unloaded hover hended =>
    obtain rfl : stage = .finishing := by
      rcases hover with hover | hover
      · exact EntryState.unloading.inj hover
      · cases hover
    simp only [Discovery.step, Discovery.continueUnload, hentry]
    refine h.of_last hn ?_ ?_ ?_ ?_
    · rfl
    · simp
    · exact fun m _ => .inl rfl
    · show Standing n .notLoaded S.lock
        ((if deletesData then none else S.data).bind DiscoveryData.browser) (S.attempt n)
      have hbrowser : S.data.bind DiscoveryData.browser = none := hb
      rw [hl]
      cases deletesData with
      | true => exact .unloaded (.inr rfl) hended
      | false =>
        show Standing n .notLoaded none (S.data.bind DiscoveryData.browser) (S.attempt n)
        rw [hbrowser]
        exact .unloaded (.inr rfl) hended

theorem Settled.unloadJob (h : Settled S) (deletesData : Bool) :
    Settled (S.step (.unloadJob deletesData)).1 := by
  cases hentry : S.entry with
  | unloading stage =>
    obtain ⟨n, hn⟩ := h.exists_last (by simp [hentry])
    exact h.continueUnload hentry hn deletesData
  | _ =>
    have hstep : S.step (.unloadJob deletesData) = (S, []) := by
      simp only [Discovery.step, Discovery.continueUnload, hentry]
    rw [hstep]
    exact h

theorem Settled.step (h : Settled S) (event : DiscoveryEvent) (ho : S.Orderly event) :
    Settled (S.step event).1 := by
  cases event with
  | setUp => exact h.setUp
  | job n => exact h.job ho
  | stopEvent => exact h.stopEvent ho
  | stopJob n => exact h.stopJob
  | unload => exact h.unload ho
  | unloadJob deletesData => exact h.unloadJob deletesData

/-! ## Orderly runs follow the entry -/

theorem Standing.counts (h : Standing n e l b a) : a.starts ≤ 1 ∧ a.stops ≤ 1 := by
  cases h with
  | taken _ h => exact ⟨h.starts, by rw [h.stops]; exact Nat.zero_le 1⟩
  | releasing h => exact ⟨Nat.le_trans h.starts h.stops, h.stops⟩
  | unloaded _ h => exact ⟨Nat.le_trans h.starts h.stops, h.stops⟩
  | _ => simp

/-- A stop listener that has returned has stopped the browser. -/
theorem Standing.returned (h : Standing n e l b a) (hreturned : a.stop = .returned) :
    a.starts ≤ a.stops := by
  cases h with
  | taken _ h =>
    rw [h.idle] at hreturned
    cases hreturned
  | releasing h => exact h.starts
  | unloaded _ h => exact h.starts
  | ended => exact Nat.le_refl 1
  | _ => cases hreturned

/-- A stop job that comes to the release finds the lock of its set-up. -/
theorem Standing.lock_of_stopped (h : Standing n e l b a) (hstopped : a.stop = .stopped) :
    l = some n := by
  cases h with
  | stopped => rfl
  | taken => rfl
  | releasing => rfl
  | unloaded _ h =>
    rcases h.quiet with hquiet | hquiet <;> rw [hquiet] at hstopped <;> cases hstopped
  | _ => cases hstopped

/-- An unload that comes to the release finds the lock of its set-up. -/
theorem Standing.lock_of_releasing {k : ℕ}
    (h : Standing n (.unloading (.releasing k)) l b a) : k = n ∧ l = some n := by
  cases h with
  | taken hstage => rcases hstage with ⟨listener, hstage⟩ | hstage <;> cases hstage
  | releasing => exact ⟨rfl, rfl⟩
  | unloaded hentry => rcases hentry with hentry | hentry <;> cases hentry

namespace Settled

variable (h : Settled S)
include h

theorem counts (n : ℕ) : (S.attempt n).starts ≤ 1 ∧ (S.attempt n).stops ≤ 1 := by
  rcases Nat.lt_trichotomy (n + 1) S.count with hpast | hlast | hfresh
  · exact ⟨Nat.le_trans (h.past n hpast).starts (h.past n hpast).stops, (h.past n hpast).stops⟩
  · exact (h.last n hlast).counts
  · rw [h.fresh n (by omega)]
    simp

theorem ended (hunloaded : S.HasUnloaded n) : Ended (S.attempt n) := by
  obtain ⟨hn, hentry | hpast⟩ := hunloaded
  · exact (h.notLoaded hentry).2 n hn
  · exact h.past n hpast

theorem stopped (hover : S.HasUnloaded n ∨ (S.attempt n).stop = .returned) :
    (S.attempt n).starts ≤ (S.attempt n).stops := by
  rcases hover with hunloaded | hreturned
  · exact (h.ended hunloaded).starts
  · rcases Nat.lt_trichotomy (n + 1) S.count with hpast | hlast | hfresh
    · exact (h.past n hpast).starts
    · exact (h.last n hlast).returned hreturned
    · rw [h.fresh n (by omega)] at hreturned
      cases hreturned

theorem lock_ne (hunloaded : S.HasUnloaded n) : S.lock ≠ some n := by
  obtain ⟨hn, hentry | hpast⟩ := hunloaded
  · rw [(h.notLoaded hentry).1]
    simp
  · exact ((h.last (S.count - 1) (by omega)).own (by omega)).1

theorem obtained_job (ho : S.Orderly (.job n)) (m : ℕ) :
    .refused m ∉ (S.step (.job n)).2 := by
  simp only [Discovery.step, setupInternalDiscovery]
  split
  · next hjob =>
    -- the set-up is loaded and its job has not run, so the lock is free
    obtain ⟨hloaded, hlast⟩ := ho.1 hjob
    have hlock : S.lock = none := by
      have hstanding := h.last n hlast
      rw [hloaded] at hstanding
      generalize S.lock = l at *
      generalize S.browser = b at *
      generalize S.attempt n = a at *
      cases hstanding with
      | scheduled => rfl
      | locked => cases hjob
      | published => cases hjob
      | started => cases hjob
      | listening hlistens | dispatched hlistens | stopped hlistens =>
        rcases hlistens with rfl | rfl <;> cases hjob
      | ended => rfl
      | unloaded => rfl
    rw [hlock]
    simp
  · split <;> simp
  · simp
  · simp
  · simp
  · simp
  · simp

theorem obtained (event : DiscoveryEvent) (ho : S.Orderly event) (m : ℕ) :
    .refused m ∉ (S.step event).2 := by
  cases event with
  | job n => exact h.obtained_job ho m
  | stopJob n =>
    simp only [Discovery.step, Discovery.stopDiscovery]
    split
    · simp
    · split <;> simp
    · simp
    · simp
  | unloadJob deletesData =>
    simp only [Discovery.step, Discovery.continueUnload]
    split
    · simp
    · simp
    · split <;> simp
    · simp
    · simp
  | _ => simp [Discovery.step]

theorem released (event : DiscoveryEvent) (m : ℕ) (hm : .released m ∈ (S.step event).2) :
    S.lock = some m := by
  cases event with
  | setUp | stopEvent | unload => simp [Discovery.step] at hm
  | job n =>
    revert hm
    simp only [Discovery.step, setupInternalDiscovery]
    split
    · split <;> simp
    · split <;> simp
    all_goals simp
  | stopJob n =>
    cases hstop : (S.attempt n).stop with
    | stopped =>
      obtain rfl : m = n := by
        simp only [Discovery.step, Discovery.stopDiscovery, hstop] at hm
        split at hm <;> simpa using hm
      rcases Nat.lt_trichotomy (m + 1) S.count with hpast | hlast | hfresh
      · rcases (h.past m hpast).quiet with hquiet | hquiet <;> rw [hstop] at hquiet <;> cases hquiet
      · exact (h.last m hlast).lock_of_stopped hstop
      · rw [h.fresh m (by omega)] at hstop
        cases hstop
    | _ => simp [Discovery.step, Discovery.stopDiscovery, hstop] at hm
  | unloadJob deletesData =>
    cases hentry : S.entry with
    | unloading stage =>
      cases stage with
      | releasing k =>
        obtain rfl : m = k := by
          simp only [Discovery.step, Discovery.continueUnload, hentry] at hm
          split at hm <;> simpa using hm
        rcases Nat.eq_zero_or_pos S.count with hzero | hpos
        · rw [(h.unused hzero).1] at hentry
          cases hentry
        · have hlast := h.last (S.count - 1) (by omega)
          rw [hentry] at hlast
          obtain ⟨rfl, hlock⟩ := hlast.lock_of_releasing
          exact hlock
      | _ => simp [Discovery.step, Discovery.continueUnload, hentry] at hm
    | _ => simp [Discovery.step, Discovery.continueUnload, hentry] at hm

end Settled

/-- **The discovery follows the entry.** -/
theorem follows_entry {run : List DiscoveryEvent} (h : Machine.Along step Orderly {} run) :
    Machine.Along step Follows {} run := by
  refine Machine.along_mono_of (P := Settled) (fun S event hS ho => ?_)
    (fun S event hS ho => hS.step event ho) settled_init h
  have hnext := hS.step event ho
  exact ⟨hS.released event, hS.obtained event ho, hnext.counts, fun n => hnext.stopped,
    fun n hn => ⟨(hnext.ended hn).stopped, hnext.lock_ne hn⟩, fun hn => (hnext.notLoaded hn).1⟩

/-- A reload of the entry, at leisure. -/
def reload : List DiscoveryEvent :=
  [.setUp, .job 0, .job 0, .job 0, .job 0, .job 0, .unload, .unloadJob true, .unloadJob true,
    .unloadJob true, .unloadJob true, .setUp, .job 1, .job 1, .job 1]

theorem follows_entry_reload :
    Machine.Along step Orderly {} reload ∧ Machine.Along step Follows {} reload :=
  ⟨by decide, follows_entry (by decide)⟩

/-- The stop event is dispatched, the entry is unloaded, and then the job of the stop listener
runs. -/
def stopThenUnload : List DiscoveryEvent :=
  [.setUp, .job 0, .job 0, .job 0, .job 0, .job 0, .stopEvent, .unload, .unloadJob true,
    .unloadJob true, .unloadJob true, .stopJob 0, .stopJob 0]

/-- The entry is unloaded before its job has run. -/
def unloadBeforeJob : List DiscoveryEvent :=
  [.setUp, .unload, .unloadJob false, .job 0, .job 0, .job 0]

/-- The lock is released while it is free, or a browser runs after the unload. -/
theorem not_followsEntry : ¬ Machine.Along step Follows {} stopThenUnload ∧
    ¬ Machine.Along step Follows {} unloadBeforeJob := by
  constructor
  · intro h
    have hrun : Machine.Along step Follows {} (stopThenUnload.dropLast ++ [.stopJob 0]) := h
    obtain ⟨-, hlast, -⟩ := (Machine.along_append _ _ _).mp hrun
    have hheld := hlast.released 0 (by decide)
    revert hheld
    decide
  · intro h
    have hrun : Machine.Along step Follows {} (unloadBeforeJob.dropLast ++ [.job 0]) := h
    obtain ⟨-, hlast, -⟩ := (Machine.along_append _ _ _).mp hrun
    have hunloaded := hlast.unloaded 0 (by
      unfold HasUnloaded
      decide)
    revert hunloaded
    decide

end Discovery
end CastDelivery
