import CastDelivery.Diagnostics
import CastDelivery.Health.Filing

/-!
# The outcome sensor

`CastOutcomeSensor` of `sensor.py`. Its state is `last_outcome`, which `UNKNOWN` and
`SKIPPED_BUSY` leave alone; its attributes are taken from `last_record`, which every record
overwrites. `evidenced_iff`: state and attributes belong to one record exactly as long as the
device's last record is of neither kind.
-/

namespace CastDelivery

open Json

/-- The attributes that `extra_state_attributes` takes from a record. -/
def evidence (record : Option DeliveryRecord) : List (String × Json) :=
  [("source", ofOption (fun record => str record.source.value) record),
    ("content_id", ofOption (fun record => ofString record.contentId) record),
    ("url_source",
      ofOption (fun record => ofOption (fun source => str source.value) record.urlSource) record),
    ("error", ofOption (fun record => ofString record.error) record),
    ("responded", ofOption (fun record => bool record.responded) record),
    ("elapsed",
      ofOption (fun record => ofOption (fun millis => num (millis / 1000)) record.elapsed) record),
    ("player_state", ofOption (fun record => ofString record.playerState) record),
    ("idle_reason", ofOption (fun record => ofString record.idleReason) record),
    ("checked_at", ofOption (fun record => ofStamp (some record.resolvedAt)) record)]

/-- The names of these attributes. -/
def evidenceKeys : List String :=
  ["source", "content_id", "url_source", "error", "responded", "elapsed", "player_state",
    "idle_reason", "checked_at"]

namespace CastOutcomeSensor

/-- `native_value`. -/
def nativeValue (health : DeviceHealth) : String := health.lastOutcome.value

/-- `extra_state_attributes`; `urlOverride` is `url_overrides(entry).get(health.uuid)`. -/
def extraStateAttributes (urlOverride : Option String) (health : DeviceHealth) :
    List (String × Json) :=
  evidence health.lastRecord ++
    [("consecutive_failures", int health.consecutiveFailures),
      ("consecutive_timeouts", int health.consecutiveTimeouts),
      ("circuit_open", bool health.circuitOpenUntil.isSome),
      ("subnet_mismatch", ofOption bool health.subnetMismatch),
      ("url_override", ofString urlOverride), ("host", ofString health.host),
      ("port", ofOption (fun port => int port) health.port)]

/-- An attribute. -/
def stateAttribute (urlOverride : Option String) (health : DeviceHealth) (key : String) :
    Option Json :=
  (extraStateAttributes urlOverride health).lookup key

theorem stateAttribute_evidence (urlOverride : Option String) (health : DeviceHealth) {key : String}
    (hkey : key ∈ evidenceKeys) :
    stateAttribute urlOverride health key = (evidence health.lastRecord).lookup key := by
  simp only [evidenceKeys, List.mem_cons, List.not_mem_nil, or_false] at hkey
  rcases hkey with rfl | rfl | rfl | rfl | rfl | rfl | rfl | rfl | rfl <;> rfl

end CastOutcomeSensor

/-! ## Records that say nothing of the device -/

/-- The first character of an error. -/
def initial (error : Option String) : Option Char := error.bind fun text => text.toList.head?

/-- The evidence of a superseded request or of a busy device: there was no answer, and the error
says so. -/
def Beside (error : Option String) (responded : Bool) : Prop :=
  responded = false ∧ (initial error = some 's' ∨ initial error = some 'd')

instance (error : Option String) (responded : Bool) : Decidable (Beside error responded) :=
  inferInstanceAs (Decidable (responded = false ∧ _))

theorem initial_append {text : String} (h : text.toList ≠ []) (rest : String) :
    initial (some (text ++ rest)) = initial (some text) := by
  unfold initial
  rw [Option.bind_some, Option.bind_some, String.toList_append, List.head?_append_of_ne_nil _ h]

namespace DeliveryLedger

variable {L : DeliveryLedger} {env : Env}

/-- The error and the `responded` flag of a record are those that `_resolve` is given. -/
theorem appended_resolve_evidence {h : DeviceHealth} {outcome : DeliveryOutcome}
    {error : Option String} {responded : Bool} {observed : Observed} {content : Option String}
    {q : Option Request} {r : DeliveryRecord}
    (hr : .appended r q ∈ (L.resolve env h outcome error responded observed content).2) :
    r.error = error ∧ r.responded = responded := by
  rw [resolve_eq] at hr
  obtain ⟨rfl, rfl⟩ := appended_append hr
  unfold DeviceHealth.deliveryRecord resolution
  cases h.pending <;> exact ⟨rfl, rfl⟩

/-- A failure that counts as no answer has the name of its class in its text. -/
theorem initial_classify (err : Raised) (connected : Option Bool) (failure : Option String)
    (h : (classify err connected failure).2.1 = false) :
    initial (some (classify err connected failure).2.2) ≠ some 's' ∧
      initial (some (classify err connected failure).2.2) ≠ some 'd' := by
  unfold classify at h ⊢
  simp only at h ⊢
  generalize (if err.exc.cls.isPyChromecastError = true then some err.exc else err.cause) = cause
    at h ⊢
  split
  · decide
  · next htimeout =>
    rw [if_neg htimeout] at h
    cases cause with
    | none => simp at h
    | some e =>
      rw [Option.map_some] at h ⊢
      simp only [Option.some.injEq] at h ⊢
      -- the text starts with the name of the class of the cause
      have hname : ∀ cls, e.cls = cls → cls.name.toList ≠ [] →
          initial (some (toString ((some e).getD err.exc).cls.name ++ toString ": "
            ++ toString ((some e).getD err.exc).str)) = initial (some cls.name) := by
        intro cls hcls hne
        rw [String.append_assoc, Option.getD_some, hcls]
        exact initial_append hne _
      split_ifs at h ⊢ with hrequest hrefused htransport
      · rw [hname _ hrequest (by decide)]
        decide
      · rcases htransport with hcls | hcls | hcls
        all_goals
          rw [hname _ hcls (by decide)]
          decide

theorem initial_busyError (snapshot : ProbeSnapshot) :
    initial (some snapshot.busyError) = some 'd' := by
  obtain ⟨rest, hrest⟩ : ∃ rest, snapshot.busyError = "device not idle: player_state=" ++ rest := by
    unfold ProbeSnapshot.busyError
    simp only [String.append_assoc]
    exact ⟨_, rfl⟩
  rw [hrest, initial_append]
  · decide
  · decide

/-- Of the calls of `async_record`, the one for a busy device says so. -/
theorem beside_recordCall {call : RecordCall}
    (hbusy : ∀ error, call = .notIdle error →
      ∃ snapshot : ProbeSnapshot, error = snapshot.busyError) :
    Beside (some call.error) false ↔ ¬ (call.outcome ≠ .unknown ∧ call.outcome ≠ .skippedBusy) := by
  cases call with
  | templateFailed error =>
    have hinitial : initial (some (RecordCall.templateFailed error).error) = some 't' := by
      unfold RecordCall.error
      rw [initial_append]
      · decide
      · decide
    simp [Beside, hinitial, RecordCall.outcome]
  | ttsEngineUnavailable error =>
    have hinitial : initial (some (RecordCall.ttsEngineUnavailable error).error) = some 'T' := by
      unfold RecordCall.error
      rw [initial_append]
      · decide
      · decide
    simp [Beside, hinitial, RecordCall.outcome]
  | notConnected => decide
  | notIdle error =>
    obtain ⟨snapshot, rfl⟩ := hbusy error rfl
    have hinitial : initial (some (RecordCall.notIdle snapshot.busyError).error) = some 'd' :=
      initial_busyError snapshot
    simp [Beside, hinitial, RecordCall.outcome]

/-- The evidence of a record shows whether the record is decisive. -/
def Shows (r : DeliveryRecord) : Prop := Beside r.error r.responded ↔ Decisive r = false

theorem shows_append {h : DeviceHealth} {dl : Delivery} {r : DeliveryRecord} {q q' : Option Request}
    (hiff : Beside dl.error dl.responded ↔ ¬ (dl.outcome ≠ .unknown ∧ dl.outcome ≠ .skippedBusy))
    (hr : .appended r q ∈ (L.append env h dl q').2) : Shows r := by
  obtain ⟨rfl, -⟩ := appended_append hr
  rw [Shows, Decisive, decide_eq_false_iff_not]
  exact hiff

theorem shows_resolve {h : DeviceHealth} {outcome : DeliveryOutcome} {error : Option String}
    {responded : Bool} {observed : Observed} {content : Option String} {r : DeliveryRecord}
    {q : Option Request}
    (hiff : Beside error responded ↔ ¬ (outcome ≠ .unknown ∧ outcome ≠ .skippedBusy))
    (hr : .appended r q ∈ (L.resolve env h outcome error responded observed content).2) :
    Shows r := by
  obtain ⟨rfl, rfl⟩ := appended_resolve_evidence hr
  obtain ⟨rfl, -, -⟩ := appended_resolve hr
  rw [Shows, hiff, Decisive, decide_eq_false_iff_not]

/-- A record of an answer says something of the device. -/
theorem beside_answered {outcome : DeliveryOutcome} (error : Option String)
    (h : outcome = .ok ∨ outcome = .fetchFailed) :
    Beside error true ↔ ¬ (outcome ≠ .unknown ∧ outcome ≠ .skippedBusy) := by
  refine iff_of_false (fun hbeside => Bool.noConfusion hbeside.1) (not_not_intro ?_)
  rcases h with rfl | rfl <;> decide

/-- **What the evidence of a record shows.** A record without an answer whose error is that of a
superseded request or of a busy device is one that is not decisive, and there are no others. -/
theorem shows_step {c : Call} {r : DeliveryRecord} {q : Option Request}
    (hbusy : ∀ u error, c.op = .record u (.notIdle error) →
      ∃ snapshot : ProbeSnapshot, error = snapshot.busyError)
    (hr : .appended r q ∈ (L.step c).2) : Shows r := by
  obtain ⟨env, op⟩ := c
  cases op with
  | addListener | removeListener | device | updateIdentity | restoreLastSuccess | shutdown =>
    cases hr
  | beginRequest u contentId source session timeout =>
    simp only [step, asyncBeginRequest, startRequest, List.mem_append, List.mem_singleton,
      reduceCtorEq, or_false] at hr
    unfold supersede at hr
    split at hr
    · exact shows_resolve (by decide) hr
    · cases hr
  | expire timer =>
    simp only [step, expire] at hr
    split at hr
    · split at hr
      · cases hr
      · refine shows_resolve (iff_of_false ?_ (by decide)) hr
        rw [Beside, initial_append (by simp), initial_append (by decide)]
        decide
    · cases hr
  | mediaStatus u status =>
    simp only [step, asyncMediaStatus] at hr
    cases hp : ((L.device u).health u).pending with
    | none =>
      simp only [hp] at hr
      split_ifs at hr
      · exact shows_resolve (beside_answered _ (.inr rfl)) hr
      · cases hr
    | some p =>
      simp only [hp] at hr
      split_ifs at hr
      · exact shows_append (beside_answered _ (.inr rfl)) hr
      · exact shows_resolve (beside_answered _ (.inr rfl)) hr
      · cases hr
      · cases hr
      · cases hr
      · exact shows_resolve (beside_answered _ (.inl rfl)) hr
  | loadMediaFailed u queueItemId errorCode =>
    simp only [step, asyncLoadMediaFailed] at hr
    split at hr
    · cases hr
    · exact shows_resolve (beside_answered _ (.inr rfl)) hr
  | requestFailed u err connected failure =>
    refine shows_resolve (iff_of_false ?_ (not_not_intro ?_)) hr
    · rintro ⟨hresponded, hinitial⟩
      obtain ⟨hs, hd⟩ := initial_classify err connected failure hresponded
      exact hinitial.elim hs hd
    · have hdecisive : ∀ outcome ∈ FAILURE_OUTCOMES,
          outcome ≠ .unknown ∧ outcome ≠ .skippedBusy := by decide
      exact hdecisive _ (classify_failure err connected failure)
  | record u call =>
    have hiff := beside_recordCall fun error herror => hbusy u error (congrArg _ herror)
    simp only [step, asyncRecord] at hr
    split at hr
    · exact shows_resolve hiff hr
    · exact shows_append hiff hr

end DeliveryLedger

/-! ## State and evidence -/

/-- In a run, a busy device is recorded with the text that `_decide` makes of its snapshot. -/
def BusyTexts (calls : List Call) : Prop :=
  ∀ c ∈ calls, ∀ u error, c.op = .record u (.notIdle error) →
    ∃ snapshot : ProbeSnapshot, error = snapshot.busyError

theorem shows_run (d : UUID) (calls : List Call) :
    BusyTexts calls → ∀ r ∈ records (historyOf d calls), DeliveryLedger.Shows r := by
  refine Machine.history_induction DeliveryLedger.step
    (P := fun calls _ es => BusyTexts calls → ∀ r ∈ records (history d es),
      DeliveryLedger.Shows r) {} (fun _ r hr => by cases hr) ?_ calls
  intro calls L es c ih hbusy r hr
  rw [history_append, records_append] at hr
  rcases List.mem_append.mp hr with hr | hr
  · exact ih (fun c' hc' => hbusy c' (List.mem_append_left _ hc')) r hr
  · obtain ⟨q, hq⟩ := mem_records.mp hr
    exact DeliveryLedger.shows_step (hbusy c (by simp)) (List.mem_of_mem_filter hq)

/-- The last record of a device that is neither `UNKNOWN` nor `SKIPPED_BUSY`. -/
def lastDecisive (d : UUID) (calls : List Call) : Option DeliveryRecord :=
  ((records (historyOf d calls)).filter Decisive).getLast?

/-- After a run, the state of a device's sensor and the evidence in its attributes are those of the
last record that says something of the device. -/
structure Evidenced (d : UUID) (calls : List Call) : Prop where
  state : CastOutcomeSensor.nativeValue ((ledgerAfter calls).health d)
    = (((lastDecisive d calls).map DeliveryRecord.outcome).getD .unknown).value
  attributes : ∀ urlOverride, ∀ key ∈ evidenceKeys,
    CastOutcomeSensor.stateAttribute urlOverride ((ledgerAfter calls).health d) key
      = (evidence (lastDecisive d calls)).lookup key

theorem getLast?_filter_of_getLast? {α : Type*} {p : α → Bool} {l : List α} {a : α}
    (h : l.getLast? = some a) (hp : p a = true) : (l.filter p).getLast? = some a := by
  obtain ⟨init, rfl⟩ := List.getLast?_eq_some_iff.mp h
  rw [List.filter_append, List.filter_cons_of_pos hp, List.filter_nil, List.getLast?_concat]

/-- The evidence can be that of the state only if the last record says something of the device. -/
theorem Evidenced.decisive {d : UUID} {calls : List Call} (h : Evidenced d calls)
    (hbusy : BusyTexts calls) {r : DeliveryRecord}
    (hlast : (records (historyOf d calls)).getLast? = some r) : Decisive r = true := by
  have hfold := foldOf_run d calls
  by_contra hnot
  -- the attributes show a record that stands beside the outcomes, the state does not
  have hbeside : Beside r.error r.responded :=
    (shows_run d calls hbusy r (List.mem_of_getLast? hlast)).mpr (Bool.not_eq_true _ ▸ hnot)
  have hshown : ∀ key ∈ evidenceKeys,
      (evidence (some r)).lookup key = (evidence (lastDecisive d calls)).lookup key := by
    intro key hkey
    rw [← h.attributes none key hkey,
      CastOutcomeSensor.stateAttribute_evidence none _ hkey, hfold.lastRecord, hlast]
  have herror := hshown "error" (by decide)
  have hresponded := hshown "responded" (by decide)
  cases hdecisive : lastDecisive d calls with
  | none =>
    rw [hdecisive] at herror
    have hnone : ofString r.error = ofString none := Option.some.inj herror
    obtain ⟨-, hinitial⟩ := hbeside
    rw [ofString_injective hnone] at hinitial
    simp [initial] at hinitial
  | some r' =>
    rw [hdecisive] at herror hresponded
    have herror' : ofString r.error = ofString r'.error := Option.some.inj herror
    have hresponded' : bool r.responded = bool r'.responded := Option.some.inj hresponded
    rw [ofString_injective herror', bool.inj hresponded'] at hbeside
    obtain ⟨hmem, hr'⟩ := List.mem_filter.mp (List.mem_of_getLast? hdecisive)
    rw [(shows_run d calls hbusy r' hmem).mp hbeside] at hr'
    cases hr'

theorem evidenced_of_decisive {d : UUID} {calls : List Call}
    (hlast : ∀ r, (records (historyOf d calls)).getLast? = some r → Decisive r = true) :
    Evidenced d calls := by
  have hfold := foldOf_run d calls
  have hsame : lastDecisive d calls = ((ledgerAfter calls).health d).lastRecord := by
    rw [hfold.lastRecord, lastDecisive]
    cases hrecord : (records (historyOf d calls)).getLast? with
    | none =>
      rw [List.getLast?_eq_none_iff.mp hrecord]
      rfl
    | some r => exact getLast?_filter_of_getLast? hrecord (hlast r hrecord)
  constructor
  · rw [CastOutcomeSensor.nativeValue, hfold.lastOutcome, lastDecisive]
  · intro urlOverride key hkey
    rw [hsame, CastOutcomeSensor.stateAttribute_evidence urlOverride _ hkey]

/-- **The evidence of the sensor belongs to its state** after a run of ledger operations if and only
if the device's last record, if it has one, is neither `UNKNOWN` nor `SKIPPED_BUSY`. -/
theorem evidenced_iff (d : UUID) (calls : List Call) (hbusy : BusyTexts calls) :
    Evidenced d calls ↔
      ∀ r, (records (historyOf d calls)).getLast? = some r → Decisive r = true :=
  ⟨fun h _ hlast => h.decisive hbusy hlast, evidenced_of_decisive⟩

/-- The evidence of a delivery that the device confirmed. -/
theorem evidenced_confirmed : Evidenced ⟨1⟩ [playCall, playingCall] := by
  have hbusy : BusyTexts [playCall, playingCall] := by
    intro c hc u error hop
    simp only [List.mem_cons, List.not_mem_nil, or_false] at hc
    rcases hc with rfl | rfl <;> cases hop
  apply (evidenced_iff ⟨1⟩ [playCall, playingCall] hbusy).mpr
  intro r hlast
  have hdecisive : (records (historyOf ⟨1⟩ [playCall, playingCall])).getLast?.map Decisive
      = some true := by
    decide +kernel
  rw [hlast] at hdecisive
  exact Option.some.inj hdecisive

/-! ## A speaker that plays music when a probe is due -/

/-- A speaker that plays music. -/
def playingSnapshot : ProbeSnapshot where
  castType := some "audio"
  isAudioGroup := false
  appId := some "CC32E753"
  appIdle := false
  playerState := some "PLAYING"
  groupPlayerStates := []
  mediaSessionId := some 3

/-- A clip is played and confirmed, as `playCall` and `playingCall`; then a probe is skipped. -/
def skippedProbe : List Call :=
  [playCall, playingCall, ⟨.bare 60, .record ⟨1⟩ (.notIdle playingSnapshot.busyError)⟩]

theorem busyTexts_skippedProbe : BusyTexts skippedProbe := by
  intro c hc u error hop
  simp only [skippedProbe, List.mem_cons, List.not_mem_nil, or_false] at hc
  rcases hc with rfl | rfl | rfl
  · cases hop
  · cases hop
  · obtain ⟨-, herror⟩ := Op.record.inj hop
    exact ⟨playingSnapshot, (RecordCall.notIdle.inj herror).symm⟩

/-- The sensor shows the evidence of the skipped probe next to `ok`. -/
theorem not_evidenced :
    BusyTexts skippedProbe ∧ ¬ Evidenced ⟨1⟩ skippedProbe ∧
      CastOutcomeSensor.nativeValue ((ledgerAfter skippedProbe).health ⟨1⟩) = "ok" := by
  refine ⟨busyTexts_skippedProbe, fun h => ?_, by decide +kernel⟩
  have hlast : (records (historyOf ⟨1⟩ skippedProbe)).getLast?.map Decisive = some false := by
    decide +kernel
  obtain ⟨r, hr, hdecisive⟩ := Option.map_eq_some_iff.mp hlast
  rw [h.decisive busyTexts_skippedProbe hr] at hdecisive
  cases hdecisive

end CastDelivery
