import CastDelivery.Entity.Basic
import CastDelivery.Health.Timers

/-!
# Runs of an entity

`Tracked` relates an entity to everything it did since it was added:

* its ledger is the ledger of a run of ledger calls, with the effects that it put out;
* the numbers of its calls are below the next one, and a call that waits for its job has begun
  the request that it holds;
* `_request_source` is what the last announcement that entered or left has made it, and each
  request was begun with the source that this gives.

Each of the operations that a step is made of keeps it, and so does every step.
-/

namespace CastDelivery
namespace Entity

/-- The effects on the ledger, in order. -/
def ledgerEffects (os : List Output) : List Effect :=
  os.filterMap fun
    | .ledger _ e => some e
    | _ => none

/-- The call that an output names. -/
def Output.call? : Output → Option ℕ
  | .ledger call _ => call.map Prod.fst
  | .entered id | .left id | .byPlatform id | .ended id _ _ => some id

/-- Whether an output is an announcement that enters (`true`) or has left (`false`) the `try` in
which it plays. -/
def Output.mark? : Output → Option Bool
  | .entered _ => some true
  | .left _ => some false
  | _ => none

/-- The last announcement to enter or leave the `try` entered it. -/
def Announcing (os : List Output) : Prop := (os.filterMap Output.mark?).getLast? = some true

instance (os : List Output) : Decidable (Announcing os) :=
  inferInstanceAs (Decidable ((os.filterMap Output.mark?).getLast? = some true))

/-- The source of a request that a call begins after these outputs. -/
def sourceAfter (os : List Output) (caller : Caller) : Source :=
  if caller = .probe then .probe else if Announcing os then .announce else .playMedia

/-- The entity after a run. -/
def after (uuid : UUID) (run : List Input) : Entity := Machine.final step (added uuid) run

/-- What the entity did in a run. -/
def outputs (uuid : UUID) (run : List Input) : List Output :=
  Machine.emitted step (added uuid) run

section

variable {os outs : List Output} {call : Option (ℕ × Caller)}

@[simp] theorem ledgerEffects_append (os outs : List Output) :
    ledgerEffects (os ++ outs) = ledgerEffects os ++ ledgerEffects outs :=
  List.filterMap_append

theorem mem_ledgerEffects {e : Effect} :
    e ∈ ledgerEffects os ↔ ∃ call, .ledger call e ∈ os := by
  simp only [ledgerEffects, List.mem_filterMap]
  constructor
  · rintro ⟨o, ho, he⟩
    cases o <;> simp only [Option.some.injEq, reduceCtorEq] at he
    case ledger call e' => exact ⟨call, he ▸ ho⟩
  · rintro ⟨call, ho⟩
    exact ⟨_, ho, rfl⟩

@[simp] theorem ledgerEffects_map_ledger (call : Option (ℕ × Caller)) (es : List Effect) :
    ledgerEffects (es.map (.ledger call)) = es := by
  rw [ledgerEffects, List.filterMap_map]
  exact List.filterMap_some

@[simp] theorem filterMap_mark_ledger (call : Option (ℕ × Caller)) (es : List Effect) :
    (es.map (Output.ledger call)).filterMap Output.mark? = [] := by
  rw [List.filterMap_map, List.filterMap_eq_nil_iff]
  exact fun _ _ => rfl

/-- Outputs without an entry or an exit keep the last mark. -/
theorem announcing_append (os : List Output) (h : outs.filterMap Output.mark? = []) :
    Announcing (os ++ outs) ↔ Announcing os := by
  unfold Announcing
  rw [List.filterMap_append, h, List.append_nil]

theorem sourceAfter_append (h : outs.filterMap Output.mark? = []) (caller : Caller) :
    sourceAfter (os ++ outs) caller = sourceAfter os caller := by
  unfold sourceAfter
  simp only [announcing_append os h]

end

/-- Every request that a call began has the source that the marks before it give. -/
def Sources (os : List Output) : Prop :=
  ∀ pre id caller u request post,
    os = pre ++ .ledger (some (id, caller)) (.begun u request) :: post →
      request.source = sourceAfter pre caller

/-- The sources of one more list of outputs. -/
theorem Sources.append {os outs : List Output} (h : Sources os)
    (houts : ∀ pre id caller u request post,
      outs = pre ++ .ledger (some (id, caller)) (.begun u request) :: post →
        request.source = sourceAfter (os ++ pre) caller) : Sources (os ++ outs) := by
  intro pre id caller u request post heq
  rcases List.append_eq_append_iff.mp heq with ⟨rest, hpre, hrest⟩ | ⟨rest, hos, hrest⟩
  · rw [hpre]
    exact houts rest id caller u request post hrest
  · cases rest with
    | nil =>
      rw [List.append_nil] at hos
      have hsource := houts [] id caller u request post hrest.symm
      rwa [List.append_nil, hos] at hsource
    | cons o rest =>
      rw [List.cons_append, List.cons.injEq] at hrest
      apply h pre id caller u request rest
      rw [hos, hrest.1]

/-- Outputs in which no call begins a request add no source. -/
theorem Sources.append_none {os outs : List Output} (h : Sources os)
    (hnone : ∀ id caller u request,
      .ledger (some (id, caller)) (.begun u request) ∉ outs) : Sources (os ++ outs) := by
  apply h.append
  intro pre id caller u request post heq
  apply absurd _ (hnone id caller u request)
  rw [heq]
  exact List.mem_append_right pre List.mem_cons_self

/-- An exception is handled with `async_request_failed`, or not at all. -/
theorem failureCall_some {S : Entity} {caller : Caller} {err : Raised} {op : Op}
    (hop : S.failureCall caller err = some op) :
    ∃ connected failure, op = .requestFailed S.uuid err connected failure := by
  unfold failureCall at hop
  split at hop <;> simp only [Option.some.injEq, reduceCtorEq] at hop
  all_goals exact ⟨_, _, hop.symm⟩

/-- An entity, and everything it did since it was added. -/
structure Tracked (uuid : UUID) (S : Entity) (os : List Output) : Prop where
  uuid_eq : S.uuid = uuid
  ledger : ∃ calls, S.ledger = ledgerAfter calls ∧ ledgerEffects os = effectsOf calls
  inFlight : ∀ id ongoing, S.calls.get? id = some ongoing → id < S.started
  named : ∀ o ∈ os, ∀ id, o.call? = some id → id < S.started
  begun : ∀ id caller request job, S.calls.get? id = some ⟨caller, .playing request job⟩ →
    .ledger (some (id, caller)) (.begun uuid request) ∈ os
  requestSource : S.requestSource = if Announcing os then .announce else .playMedia
  sources : Sources os

theorem tracked_added (uuid : UUID) : Tracked uuid (added uuid) [] where
  uuid_eq := rfl
  ledger := ⟨[], rfl, rfl⟩
  inFlight id ongoing h := by simp [added] at h
  named o ho := by cases ho
  begun id caller request job h := by simp [added] at h
  requestSource := rfl
  sources pre id caller u request post h := by simp at h

namespace Tracked

variable {uuid : UUID} {S : Entity} {R : Readings} {os : List Output} {id : ℕ} {caller : Caller}

theorem opened (h : Tracked uuid S os) : Tracked uuid S.opened os where
  uuid_eq := h.uuid_eq
  ledger := h.ledger
  inFlight id ongoing hid := Nat.lt_succ_of_lt (h.inFlight id ongoing hid)
  named o ho id hid := Nat.lt_succ_of_lt (h.named o ho id hid)
  begun := h.begun
  requestSource := h.requestSource
  sources := h.sources

/-- A call puts out something that is no effect on the ledger. `_request_source` follows it if it
is an entry or an exit of an announcement. -/
theorem emit (h : Tracked uuid S os) {o : Output} (hid : ∀ n, o.call? = some n → n < S.started)
    (hledger : ∀ call e, o ≠ .ledger call e) (source : Source)
    (hsource : source = if Announcing (os ++ [o]) then .announce else .playMedia) :
    Tracked uuid { S with requestSource := source } (os ++ [o]) where
  uuid_eq := h.uuid_eq
  ledger := by
    obtain ⟨calls, hcalls, heffects⟩ := h.ledger
    have hnone : ledgerEffects [o] = [] := by
      rw [List.eq_nil_iff_forall_not_mem]
      intro e he
      obtain ⟨call, ho⟩ := mem_ledgerEffects.mp he
      exact hledger call e (List.mem_singleton.mp ho).symm
    refine ⟨calls, hcalls, ?_⟩
    rw [ledgerEffects_append, hnone, List.append_nil, heffects]
  inFlight := h.inFlight
  named o' ho n hn := by
    rcases List.mem_append.mp ho with ho | ho
    · exact h.named o' ho n hn
    · apply hid
      rwa [← List.mem_singleton.mp ho]
  begun n c request job hn := List.mem_append_left _ (h.begun n c request job hn)
  requestSource := hsource
  sources := h.sources.append_none fun n c u request ho =>
    hledger _ _ (List.mem_singleton.mp ho).symm

/-- An announcement enters the `try` in which it plays. -/
theorem enter (h : Tracked uuid S os) (hid : id < S.started) :
    Tracked uuid { S with requestSource := .announce } (os ++ [.entered id]) := by
  apply h.emit (o := .entered id) (fun n hn => Option.some.inj hn ▸ hid) (by simp) .announce
  rw [if_pos]
  simp [Announcing, Output.mark?]

/-- Something a call puts out that is neither an effect nor an entry nor an exit. -/
theorem report (h : Tracked uuid S os) {o : Output} (hid : ∀ n, o.call? = some n → n < S.started)
    (hledger : ∀ call e, o ≠ .ledger call e) (hmark : o.mark? = none) :
    Tracked uuid S (os ++ [o]) := by
  have hmarks : [o].filterMap Output.mark? = [] := by simp [hmark]
  apply h.emit hid hledger S.requestSource
  simp only [announcing_append os hmarks]
  exact h.requestSource

theorem erase (h : Tracked uuid S os) (id : ℕ) :
    Tracked uuid { S with calls := S.calls.erase id } os := by
  have hcalls : ∀ n ongoing, (S.calls.erase id).get? n = some ongoing →
      S.calls.get? n = some ongoing := by
    intro n ongoing hn
    rw [Dict.get?_erase] at hn
    split at hn
    · cases hn
    · exact hn
  exact ⟨h.uuid_eq, h.ledger, fun n ongoing hn => h.inFlight n ongoing (hcalls n ongoing hn),
    h.named, fun n c request job hn => h.begun n c request job (hcalls n _ hn), h.requestSource,
    h.sources⟩

/-- A call ends. -/
theorem finish (h : Tracked uuid S os) (hid : id < S.started) (caller : Caller) (raised : Bool) :
    Tracked uuid (S.finish id caller raised).1 (os ++ (S.finish id caller raised).2) := by
  have hcall : ∀ o : Output, o.call? = some id → ∀ n, o.call? = some n → n < S.started := by
    intro o ho n hn
    exact Option.some.inj (ho.symm.trans hn) ▸ hid
  have herased : Tracked uuid { S with calls := S.calls.erase id } os := h.erase id
  unfold Entity.finish
  split
  · have hleft : Tracked uuid
        { S with calls := S.calls.erase id, requestSource := .playMedia } (os ++ [.left id]) := by
      apply herased.emit (o := .left id) (hcall _ rfl) (by simp) .playMedia
      rw [if_neg]
      simp [Announcing, Output.mark?]
    have hended := hleft.report (o := .ended id caller raised) (hcall _ rfl) (by simp) rfl
    rw [List.append_assoc] at hended
    exact hended
  · exact herased.report (o := .ended id caller raised) (hcall _ rfl) (by simp) rfl

/-- A ledger call runs, for a call that is in flight or from elsewhere; a request that it begins
for a call has the source that the marks so far give. -/
theorem ledgerCall (h : Tracked uuid S os) (call : Option (ℕ × Caller)) (c : Call)
    (hid : ∀ n, call.map Prod.fst = some n → n < S.started)
    (hsource : ∀ n k, call = some (n, k) → ∀ u contentId source session timeout,
      c.op = .beginRequest u contentId source session timeout → source = sourceAfter os k) :
    Tracked uuid (S.ledgerCall call c).1 (os ++ (S.ledgerCall call c).2) where
  uuid_eq := h.uuid_eq
  ledger := by
    obtain ⟨calls, hledger, heffects⟩ := h.ledger
    refine ⟨calls ++ [c], ?_, ?_⟩
    · rw [ledgerAfter_concat, ← hledger]
      rfl
    · rw [ledgerEffects_append, heffects, effectsOf_concat, ← hledger]
      exact congrArg _ (ledgerEffects_map_ledger call _)
  inFlight := h.inFlight
  named o ho n hn := by
    rcases List.mem_append.mp ho with ho | ho
    · exact h.named o ho n hn
    · obtain ⟨e, -, rfl⟩ := List.mem_map.mp ho
      exact hid n hn
  begun n k request job hn := List.mem_append_left _ (h.begun n k request job hn)
  requestSource := by
    simp only [announcing_append os (filterMap_mark_ledger call _), Entity.ledgerCall]
    exact h.requestSource
  sources := by
    apply h.sources.append
    intro pre n k u request post heq
    have hmem : .ledger (some (n, k)) (.begun u request) ∈ (S.ledgerCall call c).2 := by
      rw [heq]
      exact List.mem_append_right pre List.mem_cons_self
    obtain ⟨e, he, heq'⟩ := List.mem_map.mp hmem
    obtain ⟨hcall, rfl⟩ := Output.ledger.inj heq'
    -- the outputs before it are effects too, so they hold no mark
    have hpre : pre.filterMap Output.mark? = [] := by
      have hmarks := filterMap_mark_ledger call (S.ledger.step c).2
      rw [show (S.ledger.step c).2.map (Output.ledger call) = _ from heq, List.filterMap_append,
        List.append_eq_nil_iff] at hmarks
      exact hmarks.1
    obtain ⟨v, contentId, session, timeout, hop⟩ :=
      DeliveryLedger.begun_step (mem_opened.mpr ⟨u, he⟩)
    rw [sourceAfter_append hpre]
    exact hsource n k hcall v contentId request.source session timeout hop

/-- A call goes on to wait for something: with a request only if it has begun it. -/
theorem setCall (h : Tracked uuid S os) (hid : id < S.started) (progress : Progress)
    (hbegun : ∀ request job, progress = .playing request job →
      .ledger (some (id, caller)) (.begun uuid request) ∈ os) :
    Tracked uuid { S with calls := S.calls.set id ⟨caller, progress⟩ } os where
  uuid_eq := h.uuid_eq
  ledger := h.ledger
  inFlight n ongoing hn := by
    rw [Dict.get?_set] at hn
    split at hn
    · next heq => exact heq ▸ hid
    · exact h.inFlight n ongoing hn
  named := h.named
  begun n k request job hn := by
    rw [Dict.get?_set] at hn
    split at hn
    · next heq =>
      obtain ⟨rfl, hprogress⟩ := Ongoing.mk.inj (Option.some.inj hn)
      rw [heq]
      exact hbegun request job hprogress
    · exact h.begun n k request job hn
  requestSource := h.requestSource
  sources := h.sources

/-- The source with which a call begins its request is the one that the marks so far give. -/
theorem sourceFor_eq (h : Tracked uuid S os) (caller : Caller) :
    S.sourceFor caller = sourceAfter os caller := by
  unfold sourceFor sourceAfter
  rw [h.requestSource]

theorem beginPlay (h : Tracked uuid S os) (hid : id < S.started) (contentId : String) :
    Tracked uuid (S.beginPlay R id caller contentId).1
      (os ++ (S.beginPlay R id caller contentId).2) := by
  have hcall : Tracked uuid _ _ := h.ledgerCall (some (id, caller))
    ⟨R.env, .beginRequest S.uuid contentId (S.sourceFor caller) R.session DELIVERY_TIMEOUT⟩
    (fun n hn => Option.some.inj hn ▸ hid)
    (fun n k hk v content source session timeout hop => by
      obtain ⟨rfl, rfl⟩ := Prod.mk.inj (Option.some.inj hk)
      rw [← h.sourceFor_eq]
      injection hop with _ _ hsource
      exact hsource.symm)
  apply hcall.setCall hid
  intro request job hprogress
  -- the request that it holds is the one that the ledger has just begun
  obtain ⟨rfl, -⟩ := Progress.playing.inj hprogress
  apply List.mem_append_right
  rw [← h.uuid_eq]
  apply List.mem_map_of_mem
  exact DeliveryLedger.begins_begin S.ledger R.env S.uuid contentId (S.sourceFor caller) R.session
    DELIVERY_TIMEOUT

theorem advance (h : Tracked uuid S os) (R : Readings) (hid : id < S.started) (caller : Caller)
    (next : Next) :
    Tracked uuid (S.advance R id caller next).1 (os ++ (S.advance R id caller next).2) := by
  cases next with
  | raises => exact h.finish hid caller true
  | returns => exact h.finish hid caller false
  | byPlatform =>
    have hplayed : Tracked uuid S (os ++ [.byPlatform id]) :=
      h.report (fun n hn => Option.some.inj hn ▸ hid) (by simp) rfl
    have hfinish := hplayed.finish hid caller false
    rw [List.append_assoc] at hfinish
    exact hfinish
  | pause p =>
    rw [Entity.advance, List.append_nil]
    apply h.setCall hid
    intro request job hprogress
    cases hprogress
  | quickPlay appName appData => exact h.beginPlay hid _

/-- The job of a call that has begun its request moves. -/
theorem setJob (h : Tracked uuid S os) {request : Request} {job : Job}
    (hcall : S.calls.get? id = some ⟨caller, .playing request job⟩) (job' : Job) :
    Tracked uuid (S.setJob id caller request job') (os ++ []) := by
  rw [List.append_nil]
  apply h.setCall (h.inFlight _ _ hcall)
  intro request' job'' hprogress
  obtain ⟨rfl, -⟩ := Progress.playing.inj hprogress
  exact h.begun _ _ _ _ hcall

theorem fail (h : Tracked uuid S os) (hid : id < S.started) (err : Raised) :
    Tracked uuid (S.fail R id caller err).1 (os ++ (S.fail R id caller err).2) := by
  unfold Entity.fail
  cases hop : S.failureCall caller err with
  | none => exact h.finish hid caller true
  | some op =>
    have hcall : Tracked uuid _ _ := h.ledgerCall (some (id, caller)) ⟨R.env, op⟩
      (fun n hn => Option.some.inj hn ▸ hid)
      (fun n k hk v content source session timeout hbegin => by
        obtain ⟨connected, failure, hfailed⟩ := failureCall_some hop
        exact absurd (hfailed.symm.trans hbegin) (by simp))
    have hfinish := hcall.finish hid caller true
    rw [List.append_assoc] at hfinish
    exact hfinish

theorem announce (h : Tracked uuid S os) (rendering : Rendering) (speech : String → Speech) :
    Tracked uuid (S.announce R rendering speech).1
      (os ++ (S.announce R rendering speech).2) := by
  have hid : S.started < S.opened.started := Nat.lt_succ_self S.started
  have hname : ∀ n, some S.started = some n → n < S.opened.started := by
    intro n hn
    exact Option.some.inj hn ▸ hid
  unfold Entity.announce
  split
  · next call hopening =>
    have hcall : Tracked uuid _ _ := h.opened.ledgerCall (some (S.started, .announce))
      ⟨R.env, .record S.uuid call⟩ hname (by simp)
    have hended := hcall.report (o := .ended S.started .announce true) hname (by simp) rfl
    rw [List.append_assoc] at hended
    exact hended
  · exact h.opened.report hname (by simp) rfl
  · next mediaId hopening =>
    have hadvance := (h.opened.enter hid).advance R hid .announce
      (R.startPlay S.chromecast ⟨"music", mediaId, ∅⟩)
    rw [List.append_assoc] at hadvance
    exact hadvance

/-- **Every event keeps an entity tracked.** -/
theorem step (h : Tracked uuid S os) (i : Input) :
    Tracked uuid (S.step i).1 (os ++ (S.step i).2) := by
  -- an event of a call that is not in flight does nothing
  have hidle : Tracked uuid S (os ++ []) := by rwa [List.append_nil]
  obtain ⟨R, event⟩ := i
  cases event with
  | announce rendering speech => exact h.announce rendering speech
  | playMedia media => exact h.opened.advance _ (Nat.lt_succ_self S.started) _ _
  | probe url => exact h.opened.beginPlay (Nat.lt_succ_self S.started) url
  | answered id answer =>
    simp only [Entity.step]
    split
    · next c p hcall =>
      split
      · exact h.advance _ (h.inFlight _ _ hcall) _ _
      · exact hidle
    · exact hidle
  | jobStarts id =>
    simp only [Entity.step]
    split
    · next c request hcall => exact h.setJob hcall _
    · exact hidle
  | jobEnds id err =>
    simp only [Entity.step]
    split
    · next c request hcall => split <;> exact h.setJob hcall _
    · exact hidle
  | resumes id =>
    simp only [Entity.step]
    split
    · next c request hcall => exact h.finish (h.inFlight _ _ hcall) _ false
    · next c request err available hcall => exact h.fail (h.inFlight _ _ hcall) err
    · exact hidle
  | watchdog id =>
    simp only [Entity.step]
    split
    · next c request job hcall => exact h.fail (h.inFlight _ _ hcall) _
    · exact hidle
  | cancelled id =>
    simp only [Entity.step]
    split
    · next c request job hcall => exact h.fail (h.inFlight _ _ hcall) _
    · next c p hcall => exact h.finish (h.inFlight _ _ hcall) _ true
    · exact hidle
  | connects | launch failure =>
    exact ⟨h.uuid_eq, hidle.ledger, h.inFlight, hidle.named, hidle.begun, hidle.requestSource,
      hidle.sources⟩
  | connection status =>
    cases status <;> exact ⟨h.uuid_eq, hidle.ledger, h.inFlight, hidle.named, hidle.begun,
      hidle.requestSource, hidle.sources⟩
  | ledger op =>
    simp only [Entity.step]
    split
    · exact h.ledgerCall none _ (by simp) (by simp)
    · exact hidle

end Tracked

/-- A tracked entity stays tracked in every run that follows. -/
theorem Tracked.later {uuid : UUID} {S : Entity} {os : List Output} (h : Tracked uuid S os)
    (later : List Input) :
    Tracked uuid (Machine.final Entity.step S later)
      (os ++ Machine.emitted Entity.step S later) := by
  induction later generalizing S os with
  | nil =>
    rw [Machine.emitted_nil, List.append_nil]
    exact h
  | cons i later ih =>
    rw [Machine.emitted_cons, ← List.append_assoc]
    exact ih (h.step i)

/-- **Every run keeps an entity tracked.** -/
theorem tracked_run (uuid : UUID) (run : List Input) :
    Tracked uuid (after uuid run) (outputs uuid run) := (tracked_added uuid).later run

/-- In every run, the requests of the device are conserved. -/
theorem Tracked.conserved {uuid : UUID} {S : Entity} {os : List Output}
    (h : Tracked uuid S os) :
    Conserved (S.ledger.health uuid) (history uuid (ledgerEffects os)) := by
  obtain ⟨calls, hledger, heffects⟩ := h.ledger
  rw [hledger, heffects]
  exact conserved_run uuid calls

/-- The request of a call that waits for its job is one that the device was asked for. -/
theorem Tracked.opened_of_playing {uuid : UUID} {S : Entity} {os : List Output}
    (h : Tracked uuid S os) {id : ℕ} {caller : Caller} {request : Request} {job : Job}
    (hcall : S.calls.get? id = some ⟨caller, .playing request job⟩) :
    request ∈ Slot.opened (slotEvents (history uuid (ledgerEffects os))) := by
  have hbegun : .begun uuid request ∈ ledgerEffects os :=
    mem_ledgerEffects.mpr ⟨_, h.begun id caller request job hcall⟩
  apply mem_opened.mpr
  exact ⟨uuid, List.mem_filter.mpr ⟨hbegun, by simp [Effect.about, Effect.uuid]⟩⟩

end Entity
end CastDelivery
