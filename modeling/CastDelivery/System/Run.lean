import CastDelivery.Hub.Run
import CastDelivery.System.Moves

/-!
# Runs of the system are runs of its hub

Whatever the interleaving of the tasks, each event makes the hub take a few inputs, with the
same effects, and moves tasks along: `drives_step`, and for runs `drives_run`. So the invariants
of histories hold of every run of the system (`conserved`, `foldOf`), and its hub keeps at most
the two listeners of the set-up.
-/

namespace CastDelivery

@[simp] theorem ledgerEffects_nil : ledgerEffects [] = [] := rfl

@[simp] theorem ledgerEffects_append (os ps : List Output) :
    ledgerEffects (os ++ ps) = ledgerEffects os ++ ledgerEffects ps := List.filterMap_append

@[simp] theorem ledgerEffects_map (es : List Effect) :
    ledgerEffects (es.map .ledger) = es := by
  induction es with
  | nil => rfl
  | cons e es ih => exact congrArg (e :: ·) ih

namespace System

/-- What took `S` to `r.1` with outputs `r.2` was, for the hub, a run of inputs that registers
no listener. -/
structure Drives (S : System) (r : System × List Output) (is : List HubInput) : Prop where
  hub : r.1.toHub = Machine.final Hub.step S.toHub is
  effects : ledgerEffects r.2 = Machine.emitted Hub.step S.toHub is
  closed : ∀ i ∈ is, i.Closed

/-- What took `S` to `r.1` was some such run. -/
def Driven (S : System) (r : System × List Output) : Prop := ∃ is, Drives S r is

variable {S S' : System} {r s : System × List Output}

/-- A step that leaves the hub alone. -/
theorem Driven.idle (hhub : r.1.toHub = S.toHub) (heffects : ledgerEffects r.2 = []) :
    Driven S r :=
  ⟨[], hhub, heffects, by simp⟩

theorem Driven.seq (hr : Driven S r) (hs : Driven r.1 s) : Driven S (s.1, r.2 ++ s.2) := by
  obtain ⟨is, hhub, heffects, hclosed⟩ := hr
  obtain ⟨js, hhub', heffects', hclosed'⟩ := hs
  refine ⟨is ++ js, ?_, ?_, ?_⟩
  · rw [hhub', hhub, Machine.final_append]
  · rw [ledgerEffects_append, heffects, heffects', hhub, Machine.emitted_append]
  · intro i hi
    rcases List.mem_append.mp hi with hi | hi
    · exact hclosed i hi
    · exact hclosed' i hi

/-- The same step, between states with the same hubs. -/
theorem Driven.congr (hr : Driven S r) (hbefore : S'.toHub = S.toHub)
    (hafter : s.1.toHub = r.1.toHub) (heffects : ledgerEffects s.2 = ledgerEffects r.2) :
    Driven S' s := by
  obtain ⟨is, hhub, heffects', hclosed⟩ := hr
  exact ⟨is, by rw [hafter, hhub, hbefore], by rw [heffects, heffects', hbefore], hclosed⟩

theorem driven_ledgerCall (S : System) (c : Call) (hc : ∀ l, c.op ≠ .addListener l) :
    Driven S (S.ledgerCall c) := by
  refine ⟨[.call c], rfl, ?_, by simpa [HubInput.Closed] using hc⟩
  simp [ledgerCall, Hub.step]

@[simp] theorem toHub_finishProbe (S : System) (p : Probe) :
    (S.finishProbe p).1.toHub = S.toHub := by
  unfold finishProbe
  cases S.data with
  | none => rfl
  | some data =>
    simp only
    cases data.get? p.uuid <;> rfl

@[simp] theorem ledgerEffects_finishProbe (S : System) (p : Probe) :
    ledgerEffects (S.finishProbe p).2 = [] := by
  unfold finishProbe
  cases S.data with
  | none => rfl
  | some data =>
    simp only
    cases data.get? p.uuid <;> rfl

theorem driven_finishProbe (S : System) (p : Probe) : Driven S (S.finishProbe p) :=
  .idle (toHub_finishProbe S p) (ledgerEffects_finishProbe S p)

@[simp] theorem toHub_waitProbe (S : System) (env : Env) (p : Probe) (deadline : Monotonic) :
    (S.waitProbe env p deadline).1.toHub = S.toHub := by
  unfold waitProbe
  split
  · rfl
  · split
    · rfl
    · exact toHub_finishProbe S p

@[simp] theorem ledgerEffects_waitProbe (S : System) (env : Env) (p : Probe)
    (deadline : Monotonic) : ledgerEffects (S.waitProbe env p deadline).2 = [] := by
  unfold waitProbe
  split
  · rfl
  · split
    · rfl
    · exact ledgerEffects_finishProbe S p

theorem driven_waitProbe (S : System) (env : Env) (p : Probe) (deadline : Monotonic) :
    Driven S (S.waitProbe env p deadline) :=
  .idle (toHub_waitProbe S env p deadline) (ledgerEffects_waitProbe S env p deadline)

theorem driven_actOn (S : System) (env : Env) (cycle : Cycle) (url : String) (u : UUID)
    (decision : Decision) : Driven S (S.actOn env cycle url u decision) := by
  unfold actOn
  split
  · unfold launchProbe
    exact (driven_ledgerCall _ _ (by simp)).congr rfl rfl rfl
  · split
    · exact driven_ledgerCall _ _ (by simp)
    · exact .idle rfl rfl

theorem driven_refreshDevices (env : Env) (cycle : Cycle) (url : String) (us : List UUID)
    (S : System) (results : Dict UUID ProbeResult) :
    Driven S (refreshDevices env cycle url us S results).1 := by
  induction us generalizing S results with
  | nil => exact .idle rfl rfl
  | cons u us ih =>
    have hdevice : Driven S (S.refreshDevice env cycle url u).1 :=
      (driven_ledgerCall S _ (by simp)).seq (driven_actOn ..)
    exact hdevice.seq (ih _ _)

theorem Move.driven {i : Input} (h : Move S i r) : Driven S r := by
  cases h with
  | idle hub => exact .idle hub rfl
  | options options => exact ⟨[.applyOptions options], rfl, rfl, by simp [HubInput.Closed]⟩
  | call c plays hc => exact (driven_ledgerCall S c (callOf_closed hc)).congr rfl rfl rfl
  | cycle => exact (driven_refreshDevices ..).congr rfl rfl rfl
  | wait => exact driven_waitProbe ..
  | fail p err => exact (driven_ledgerCall S _ (by simp)).seq (driven_finishProbe ..)
  | finish => exact driven_finishProbe ..

/-- **Every event is, for the hub, a run of inputs that registers no listener.** -/
theorem driven_step (S : System) (i : Input) : Driven S (S.step i) := (move_step S i).driven

/-- Every run is, for the hub, a run of inputs that registers no listener. -/
theorem driven_run (S : System) (run : List Input) :
    Driven S (Machine.final step S run, Machine.emitted step S run) := by
  induction run generalizing S with
  | nil => exact .idle rfl rfl
  | cons i run ih => exact (driven_step S i).seq (ih _)

/-- What a stable property says of a device survives what drives the hub. -/
theorem Driven.stable (hr : Driven S r) {Φ : DeviceHealth → List Effect → Prop}
    (hΦ : Stable Φ) (d : UUID) (es : List Effect) (h : Φ (S.ledger.health d) es) :
    Φ (r.1.ledger.health d) (es ++ history d (ledgerEffects r.2)) := by
  obtain ⟨is, hhub, heffects, -⟩ := hr
  rw [hhub, heffects]
  exact Hub.stable_run hΦ S.toHub is h

/-- A request pending after what drives the hub was pending before, or begun by it. -/
theorem Driven.request (hr : Driven S r) (d : UUID) (q : Request)
    (hq : (r.1.ledger.health d).request = some q) :
    (S.ledger.health d).request = some q ∨
      q ∈ Slot.opened (slotEvents (history d (ledgerEffects r.2))) :=
  hr.stable (stable_request (S.ledger.health d).request) d [] (fun _ h => .inl h) q hq

/-! ## Runs from a set-up -/

variable (options : StoredOptions)

/-- The history of a device in a run from a set-up. -/
def historyOf (d : UUID) (run : List Input) : List Effect :=
  history d (ledgerEffects (outputs options run))

theorem historyOf_concat (d : UUID) (run : List Input) (i : Input) :
    historyOf options d (run ++ [i])
      = historyOf options d run ++ history d (ledgerEffects ((after options run).step i).2) := by
  rw [historyOf, outputs, Machine.emitted_concat, ledgerEffects_append, history_append]
  rfl

/-- In every run of the system, the requests of a device are conserved. -/
theorem conserved (d : UUID) (run : List Input) :
    Conserved ((after options run).ledger.health d) (historyOf options d run) :=
  (driven_run (setUp options) run).stable stable_conserved d [] ⟨.nil _, rfl, by simp⟩

/-- In every run of the system, the health object of a device is the fold of its records. -/
theorem foldOf (d : UUID) (run : List Input) :
    FoldOf (records (historyOf options d run)) ((after options run).ledger.health d) :=
  (driven_run (setUp options) run).stable stable_foldOf d [] ⟨rfl, rfl, rfl, rfl⟩

/-- No run registers a listener a second time. -/
theorem listeners_nodup (run : List Input) : (after options run).ledger.listeners.Nodup := by
  obtain ⟨is, hhub, -, hclosed⟩ := driven_run (setUp options) run
  have hsub := Hub.listeners_run (setUp options).toHub hclosed
  rw [← hhub] at hsub
  exact List.Nodup.sublist hsub (by simp [setUp])

end System

end CastDelivery
