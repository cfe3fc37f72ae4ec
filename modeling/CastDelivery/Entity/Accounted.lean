import CastDelivery.Entity.Raising

/-!
# What becomes of an announcement

`async_announce` records a failure of the template and of the TTS engine, and its request is
recorded once it has begun. In between it can fail without a trace: the chromecast may be gone,
and the media source, a cast platform or the URL may raise.

`undisturbed` names the inputs that spoil no announcement: the chromecast is there, what it waits
for is answered, and its request begins in its turn. In a run of such inputs every announcement
ends in one of three ways that leave a trace (`Covered`), and so `accounted_of_undisturbed`.
-/

namespace CastDelivery

/-- The one record of `async_record` has the source that it is given. -/
theorem DeliveryLedger.records_record (L : DeliveryLedger) (env : Env) (u : UUID)
    (call : RecordCall) :
    ∃ r, CastDelivery.records (L.step ⟨env, .record u call⟩).2 = [r] ∧ r.source = call.source := by
  simp only [step, asyncRecord, health_device]
  cases hp : (L.health u).pending with
  | none =>
    simp only [Option.any_none, Bool.false_eq_true, if_false, effects_append, records_recorded]
    exact ⟨_, rfl, rfl⟩
  | some p =>
    by_cases hsource : p.source = call.source
    · simp only [Option.any_some, hsource, decide_true, if_true, resolve_pending _ hp,
        records_recorded]
      exact ⟨_, rfl, hsource⟩
    · simp only [Option.any_some, hsource, decide_false, Bool.false_eq_true, if_false,
        effects_append, records_recorded]
      exact ⟨_, rfl, rfl⟩

namespace Entity

variable {uuid : UUID} {S : Entity} {i : Input} {os outs : List Output} {id : ℕ}

/-- The effects on the ledger of one call. -/
def effectsBy (id : ℕ) (os : List Output) : List Effect :=
  os.filterMap fun
    | .ledger call e => if call.map Prod.fst = some id then some e else none
    | _ => none

/-- The records of source `announce` that a call has appended. -/
def announceRecords (id : ℕ) (os : List Output) : List DeliveryRecord :=
  (records (effectsBy id os)).filter fun r => r.source = .announce

/-- An announcement has begun a request of its source, or has appended one record of its source,
or a cast platform plays its media. -/
def Accounted (id : ℕ) (os : List Output) : Prop :=
  (∃ u request, .ledger (some (id, .announce)) (.begun u request) ∈ os ∧
      request.source = .announce) ∨
    (announceRecords id os).length = 1 ∨ .byPlatform id ∈ os

/-! ## Announcements that nothing disturbs -/

/-- The URL of the media is processed, rewritten and recognised, and a request that begins now
begins as one of an announcement. -/
def processes (S : Entity) (R : Readings) (media : Media) : Bool :=
  match (R.play.processUrl media.mediaId).bind
      (R.play.applyUrlOverride (R.env.urlOverrides S.uuid)) with
  | none => false
  | some mediaId =>
    match R.play.kind mediaId with
    | none => false
    | some .playlist => true
    | some _ => S.requestSource = .announce

/-- The JSON for a cast app names the app, and gives no id of one. -/
def namesApp (R : Readings) (mediaId : String) (extra : Dict String Json) : Bool :=
  match R.play.castAppData mediaId extra with
  | none => false
  | some appData => (appData.get? "app_id").isNone && (appData.get? "app_name").isSome

/-- What an announcement waits for is answered without an exception, and so that it can go on. -/
def serves (S : Entity) (R : Readings) : Pause → Answer → Bool
  | .resolveMedia _, .media none => false
  | .resolveMedia media, .media (some (mediaType, mediaId)) =>
    mediaType ≠ PlayEnv.CAST_DOMAIN ||
      (namesApp R mediaId media.extra && S.requestSource = .announce)
  | .startApp, .app _ => false
  | .getPlatforms _, .platforms none => false
  | .getPlatforms media, .platforms (some count) => count ≠ 0 || S.processes R media
  | .platform _ _, .platform none => false
  | .platform _ _, .platform (some true) => true
  | .platform media rest, .platform (some false) => rest ≠ 0 || S.processes R media
  | .playlist _, .playlist answer => answer ≠ .escaped && S.requestSource = .announce
  | _, _ => true

/-- An announcement can start: what raises is a `TemplateError` or the `HomeAssistantError` of a
TTS engine, and the chromecast is there for a message that is spoken. -/
def opens (S : Entity) (rendering : Rendering) (speech : String → Speech) : Bool :=
  match rendering with
  | .templateError _ => true
  | .escaped => false
  | .rendered text =>
    strip text = "" || match speech (strip text) with
      | .mediaId _ => S.chromecast
      | .unavailable _ => true
      | .escaped => false

/-- The event spoils no announcement. -/
def undisturbed (S : Entity) (i : Input) : Bool :=
  match i.event with
  | .announce rendering speech => S.opens rendering speech
  | .answered id answer =>
    match S.calls.get? id with
    | some ⟨.announce, .paused p⟩ => S.serves i.readings p answer
    | _ => true
  | .cancelled id =>
    match S.calls.get? id with
    | some ⟨.announce, .paused _⟩ => false
    | _ => true
  | _ => true

/-! ## Ends that leave a trace -/

/-- An announcement that ends in this event leaves a trace: the event is its start and records a
failure, or a cast platform has just played its media, or it has begun a request of its source. -/
inductive Covered (S : Entity) (i : Input) (id : ℕ) : Prop
  | recorded (rendering : Rendering) (speech : String → Speech) (call : RecordCall)
      (event : i.event = .announce rendering speech)
      (records : opening rendering speech = .records call)
  | byPlatform (event : i.event = .answered id (.platform (some true)))
  | requested (request : Request) (job : Job)
      (call : S.calls.get? id = some ⟨.announce, .playing request job⟩)
      (source : request.source = .announce)

/-- Every announcement that ends in this event leaves a trace. -/
def CoversEnds (S : Entity) (i : Input) : Prop :=
  ∀ id raised, .ended id .announce raised ∈ (S.step i).2 → Covered S i id

theorem effectsBy_append (id : ℕ) (os outs : List Output) :
    effectsBy id (os ++ outs) = effectsBy id os ++ effectsBy id outs :=
  List.filterMap_append

/-- A call that has not started yet has done nothing. -/
theorem effectsBy_started (h : Tracked uuid S os) : effectsBy S.started os = [] := by
  rw [effectsBy, List.filterMap_eq_nil_iff]
  intro o ho
  cases o with
  | ledger call e =>
    have hne : call.map Prod.fst ≠ some S.started := by
      intro heq
      exact Nat.lt_irrefl _ (h.named _ ho S.started heq)
    simp [hne]
  | _ => rfl

theorem effectsBy_ledgerCall (S : Entity) (id : ℕ) (caller : Caller) (c : Call) :
    effectsBy id (S.ledgerCall (some (id, caller)) c).2 = (S.ledger.step c).2 := by
  have hown :
      (fun e : Effect => if (some (id, caller)).map Prod.fst = some id then some e else none)
        = some := by
    funext e
    exact if_pos rfl
  rw [effectsBy, ledgerCall, List.filterMap_map]
  show List.filterMap (fun e => if (some (id, caller)).map Prod.fst = some id then some e else none)
    _ = _
  rw [hown, List.filterMap_some]

/-- The opening of an announcement records with its source. -/
theorem source_opening {rendering : Rendering} {speech : String → Speech} {call : RecordCall}
    (hopening : opening rendering speech = .records call) : call.source = .announce := by
  unfold opening at hopening
  split at hopening
  · exact (Opening.records.inj hopening) ▸ rfl
  · cases hopening
  · split at hopening
    · exact (Opening.records.inj hopening) ▸ rfl
    · split at hopening
      · cases hopening
      · exact (Opening.records.inj hopening) ▸ rfl
      · cases hopening

/-- A failure in the opening of an announcement appends one record. -/
theorem accounted_recorded (h : Tracked uuid S os) {rendering : Rendering}
    {speech : String → Speech} {call : RecordCall}
    (hopening : opening rendering speech = .records call) (R : Readings) :
    Accounted S.started (os ++ (S.announce R rendering speech).2) := by
  obtain ⟨r, hrecords, hsource⟩ := S.ledger.records_record R.env S.uuid call
  have hone : announceRecords S.started (os ++ (S.announce R rendering speech).2) = [r] := by
    unfold announceRecords announce
    simp only [hopening]
    rw [effectsBy_append, effectsBy_started h, effectsBy_append]
    have hcall := effectsBy_ledgerCall S.opened S.started .announce ⟨R.env, .record S.uuid call⟩
    have hended : effectsBy S.started [.ended S.started .announce true] = [] := rfl
    rw [hcall, hended, List.nil_append, List.append_nil]
    show ((CastDelivery.records (S.ledger.step _).2).filter _) = _
    rw [hrecords, List.filter_cons_of_pos (by simp [hsource, source_opening hopening]),
      List.filter_nil]
  refine .inr (.inl ?_)
  rw [hone]
  rfl

/-- The answer of a cast platform that plays the media of a call. -/
theorem byPlatform_mem {R : Readings} {raised : Bool} {caller : Caller}
    (hended : .ended id caller raised ∈
      (S.step ⟨R, .answered id (.platform (some true))⟩).2) :
    .byPlatform id ∈ (S.step ⟨R, .answered id (.platform (some true))⟩).2 := by
  simp only [Entity.step] at hended ⊢
  split at hended
  · next c p hcall =>
    cases p with
    | platform media rest =>
      show .byPlatform id ∈ (S.advance R id c .byPlatform).2
      exact List.mem_cons_self
    | _ => cases hended
  · cases hended

theorem accounted_of_covered_step (h : Tracked uuid S os) {raised : Bool}
    (hended : .ended id .announce raised ∈ (S.step i).2) (hcovered : Covered S i id) :
    Accounted id (os ++ (S.step i).2) := by
  obtain ⟨R, event⟩ := i
  cases hcovered with
  | recorded rendering speech call hevent records =>
    obtain rfl : event = .announce rendering speech := hevent
    obtain rfl : id = S.started := ended_mem_announce hended
    exact accounted_recorded h records R
  | byPlatform hevent =>
    obtain rfl : event = .answered id (.platform (some true)) := hevent
    exact .inr (.inr (List.mem_append_right _ (byPlatform_mem hended)))
  | requested request job call source =>
    exact .inl ⟨uuid, request, List.mem_append_left _ (h.begun _ _ _ _ call), source⟩

/-! ## Requests of announcements -/

/-- The requests of the announcements in flight have their source. -/
def Attributed (S : Entity) : Prop :=
  ∀ id request job, S.calls.get? id = some ⟨.announce, .playing request job⟩ →
    request.source = .announce

section

variable {R : Readings} {caller : Caller} {next : Next}

theorem Attributed.set (h : Attributed S) {progress : Progress}
    (hsource : caller = .announce → ∀ request job, progress = .playing request job →
      request.source = .announce) :
    Attributed { S with calls := S.calls.set id ⟨caller, progress⟩ } := by
  intro n request job hn
  rw [Dict.get?_set] at hn
  split at hn
  · obtain ⟨hcaller, hprogress⟩ := Ongoing.mk.inj (Option.some.inj hn)
    exact hsource hcaller request job hprogress
  · exact h n request job hn

theorem Attributed.finish (h : Attributed S) (raised : Bool) :
    Attributed (S.finish id caller raised).1 := by
  intro n request job hn
  have hcalls : (S.finish id caller raised).1.calls = S.calls.erase id := by
    unfold Entity.finish
    split <;> rfl
  rw [hcalls, Dict.get?_erase] at hn
  split at hn
  · cases hn
  · exact h n request job hn

theorem Attributed.fail (h : Attributed S) (err : Raised) :
    Attributed (S.fail R id caller err).1 := by
  unfold Entity.fail
  cases S.failureCall caller err with
  | none => exact h.finish true
  | some op =>
    have hcall : Attributed (S.ledgerCall (some (id, caller)) ⟨R.env, op⟩).1 := h
    exact hcall.finish true

theorem Attributed.beginPlay (h : Attributed S) {contentId : String}
    (hsource : caller = .announce → S.requestSource = .announce) :
    Attributed (S.beginPlay R id caller contentId).1 := by
  refine Attributed.set (S := (S.ledgerCall _ _).1) h ?_
  rintro rfl request job hplaying
  obtain ⟨rfl, -⟩ := Progress.playing.inj hplaying
  exact hsource rfl

theorem Attributed.advance (h : Attributed S) (hsource : caller = .announce →
      ∀ appName appData, next = .quickPlay appName appData → S.requestSource = .announce) :
    Attributed (S.advance R id caller next).1 := by
  cases next with
  | raises | returns | byPlatform => exact h.finish _
  | pause p => exact h.set fun _ request job hp => nomatch hp
  | quickPlay appName appData =>
    exact h.beginPlay fun hcaller => hsource hcaller appName appData rfl

/-- An announcement goes on to wait, or begins its request in its turn. -/
def GoesOn (S : Entity) (next : Next) : Prop :=
  (∃ p, next = .pause p) ∨
    ∃ appName appData, next = .quickPlay appName appData ∧ S.requestSource = .announce

theorem goesOn_playUrl {media : Media} (hprocesses : S.processes R media = true) :
    S.GoesOn (R.playUrl S.uuid media) := by
  unfold processes at hprocesses
  unfold Readings.playUrl
  cases hmediaId : (R.play.processUrl media.mediaId).bind
      (R.play.applyUrlOverride (R.env.urlOverrides S.uuid)) with
  | none =>
    rw [hmediaId] at hprocesses
    cases hprocesses
  | some mediaId =>
    rw [hmediaId] at hprocesses
    simp only at hprocesses ⊢
    cases hkind : R.play.kind mediaId with
    | none =>
      rw [hkind] at hprocesses
      cases hprocesses
    | some kind =>
      rw [hkind] at hprocesses
      cases kind with
      | playlist => exact .inl ⟨_, rfl⟩
      | hls | other => exact .inr ⟨_, _, rfl, of_decide_eq_true hprocesses⟩

/-- The URL is tried once no platform is left. -/
theorem goesOn_tryPlatforms {media : Media} {count : ℕ}
    (hcount : (count ≠ 0 || S.processes R media) = true) :
    S.GoesOn (R.tryPlatforms S.uuid media count) := by
  cases count with
  | zero => exact goesOn_playUrl (by simpa using hcount)
  | succ rest => exact .inl ⟨_, rfl⟩

theorem goesOn_sourced {media : Media}
    (hserves : media.mediaType = PlayEnv.CAST_DOMAIN →
      namesApp R media.mediaId media.extra = true ∧ S.requestSource = .announce) :
    S.GoesOn (R.sourced media) := by
  unfold Readings.sourced
  split
  · next hcast =>
    obtain ⟨hnames, hsource⟩ := hserves hcast
    unfold namesApp at hnames
    unfold PlayEnv.playApp
    cases hdata : R.play.castAppData media.mediaId media.extra with
    | none =>
      rw [hdata] at hnames
      cases hnames
    | some appData =>
      rw [hdata] at hnames
      simp only at hnames ⊢
      rw [Bool.and_eq_true, Option.isNone_iff_eq_none, Option.isSome_iff_exists] at hnames
      obtain ⟨hid, appName, hname⟩ := hnames
      simp only [hid, hname]
      exact .inr ⟨_, _, rfl, hsource⟩
  · exact .inl ⟨_, rfl⟩

/-- An announcement that is served goes on, or has its media played by a cast platform. -/
theorem resume_of_serves {p : Pause} {answer : Answer} (hserves : S.serves R p answer = true)
    (hnext : R.resume S.uuid p answer = some next) :
    S.GoesOn next ∨ (answer = .platform (some true) ∧ next = .byPlatform) := by
  cases p with
  | resolveMedia media =>
    cases answer with
    | media answer =>
      cases answer with
      | none => cases hserves
      | some answer =>
        obtain ⟨mediaType, mediaId⟩ := answer
        obtain rfl := Option.some.inj hnext
        refine .inl (goesOn_sourced fun hcast => ?_)
        have htype : mediaType = PlayEnv.CAST_DOMAIN := hcast
        simpa [serves, htype] using hserves
    | _ => cases hnext
  | startApp =>
    cases answer with
    | app started => cases hserves
    | _ => cases hnext
  | getPlatforms media =>
    cases answer with
    | platforms count =>
      cases count with
      | none => cases hserves
      | some count =>
        obtain rfl := Option.some.inj hnext
        exact .inl (goesOn_tryPlatforms hserves)
    | _ => cases hnext
  | platform media rest =>
    cases answer with
    | platform result =>
      cases result with
      | none => cases hserves
      | some played =>
        cases played with
        | true =>
          obtain rfl := Option.some.inj hnext
          exact .inr ⟨rfl, rfl⟩
        | false =>
          obtain rfl := Option.some.inj hnext
          exact .inl (goesOn_tryPlatforms hserves)
    | _ => cases hnext
  | playlist media =>
    cases answer with
    | playlist answer =>
      obtain rfl := Option.some.inj hnext
      have hparsed : answer ≠ .escaped ∧ S.requestSource = .announce := by
        simpa [serves] using hserves
      refine .inl (.inr ?_)
      cases answer with
      | escaped => exact absurd rfl hparsed.1
      | item | supported | failed => exact ⟨_, _, rfl, hparsed.2⟩
    | _ => cases hnext

/-- An announcement that can start records its failure, or goes on to wait. -/
theorem announce_of_opens {rendering : Rendering} {speech : String → Speech}
    (hopens : S.opens rendering speech = true) :
    (∃ call, opening rendering speech = .records call) ∨
      ∃ mediaId p, opening rendering speech = .plays mediaId ∧
        R.startPlay S.chromecast ⟨"music", mediaId, ∅⟩ = .pause p := by
  unfold opens at hopens
  unfold opening
  cases rendering with
  | templateError error => exact .inl ⟨_, rfl⟩
  | escaped => cases hopens
  | rendered text =>
    simp only at hopens ⊢
    by_cases hempty : strip text = ""
    · rw [if_pos hempty]
      exact .inl ⟨_, rfl⟩
    · rw [if_neg hempty]
      rw [decide_eq_false hempty, Bool.false_or] at hopens
      cases hspeech : speech (strip text) with
      | mediaId mediaId =>
        rw [hspeech] at hopens
        have hchromecast : S.chromecast = true := hopens
        -- the media type of an announcement is not that of a cast app
        have hwaits : ∃ p, R.startPlay S.chromecast ⟨"music", mediaId, ∅⟩ = .pause p := by
          rw [hchromecast]
          unfold Readings.startPlay Readings.sourced
          rw [if_neg (by decide)]
          split
          · exact ⟨_, rfl⟩
          · rw [if_neg (show "music" ≠ PlayEnv.CAST_DOMAIN by decide)]
            exact ⟨_, rfl⟩
        obtain ⟨p, hp⟩ := hwaits
        exact .inr ⟨mediaId, p, rfl, hp⟩
      | unavailable err => exact .inl ⟨_, rfl⟩
      | escaped =>
        rw [hspeech] at hopens
        cases hopens

end

/-- **The requests of announcements have their source** as long as nothing disturbs them. -/
theorem attributed_step (h : Attributed S) (hundisturbed : S.undisturbed i = true) :
    Attributed (S.step i).1 := by
  obtain ⟨R, event⟩ := i
  cases event with
  | announce rendering speech =>
    simp only [Entity.step, Entity.announce]
    rcases announce_of_opens (R := R) hundisturbed with
      ⟨call, hopening⟩ | ⟨mediaId, p, hopening, hp⟩
    · rw [hopening]
      exact h
    · simp only [hopening, hp]
      have hentered : Attributed { S.opened with requestSource := .announce } := h
      exact hentered.set fun _ request job hplaying => by cases hplaying
  | playMedia media =>
    have hopened : Attributed S.opened := h
    exact hopened.advance fun hcaller => by cases hcaller
  | probe url =>
    have hopened : Attributed S.opened := h
    exact hopened.beginPlay fun hcaller => by cases hcaller
  | answered id answer =>
    simp only [Entity.step]
    split
    · next caller p hcall =>
      split
      · next next hnext =>
        refine h.advance ?_
        rintro rfl appName appData rfl
        have hserves : S.serves R p answer = true := by
          simpa [undisturbed, hcall] using hundisturbed
        rcases resume_of_serves hserves hnext with
          (⟨p', hp'⟩ | ⟨_, _, -, hsource⟩) | ⟨-, hplatform⟩
        · cases hp'
        · exact hsource
        · cases hplatform
      · exact h
    · exact h
  | jobStarts id =>
    simp only [Entity.step]
    split
    · next caller request hcall =>
      exact h.set fun hcaller request' job hplaying => by
        obtain ⟨rfl, -⟩ := Progress.playing.inj hplaying
        subst hcaller
        exact h _ _ _ hcall
    · exact h
  | jobEnds id err =>
    simp only [Entity.step]
    split
    · next caller request hcall =>
      have hsame (job : Job) : Attributed (S.setJob id caller request job) :=
        h.set fun hcaller request' job hplaying => by
          obtain ⟨rfl, -⟩ := Progress.playing.inj hplaying
          subst hcaller
          exact h _ _ _ hcall
      split <;> exact hsame _
    · exact h
  | resumes id =>
    simp only [Entity.step]
    split
    · exact h.finish false
    · exact h.fail _
    · exact h
  | watchdog id =>
    simp only [Entity.step]
    split
    · exact h.fail _
    · exact h
  | cancelled id =>
    simp only [Entity.step]
    split
    · exact h.fail _
    · exact h.finish true
    · exact h
  | connects | launch failure => exact h
  | connection status => cases status <;> exact h
  | ledger op =>
    simp only [Entity.step]
    split <;> exact h

/-- An announcement that nothing disturbs leaves a trace when it ends. -/
theorem coversEnds_of_undisturbed (hattributed : Attributed S)
    (hundisturbed : S.undisturbed i = true) : CoversEnds S i := by
  intro id raised hended
  -- with a request in flight its source is known
  have hplaying (request : Request) (job : Job)
      (hcall : S.calls.get? id = some ⟨.announce, .playing request job⟩) : Covered S i id :=
    .requested request job hcall (hattributed id request job hcall)
  obtain ⟨R, event⟩ := i
  cases event with
  | announce rendering speech =>
    rcases announce_of_opens (R := R) hundisturbed with
      ⟨call, hopening⟩ | ⟨mediaId, p, hopening, hp⟩
    · exact .recorded rendering speech call rfl hopening
    · simp only [Entity.step, Entity.announce, hopening, hp, advance] at hended
      simp at hended
  | playMedia media =>
    cases (ended_mem_advance hended).2
  | probe url => exact absurd hended ended_notMem_ledgerCall
  | answered n answer =>
    simp only [Entity.step] at hended
    split at hended
    · next caller p hcall =>
      split at hended
      · next next hnext =>
        obtain ⟨rfl, rfl⟩ := ended_mem_advance hended
        have hserves : S.serves R p answer = true := by
          simpa [undisturbed, hcall] using hundisturbed
        rcases resume_of_serves hserves hnext with
          (⟨p', rfl⟩ | ⟨appName, appData, rfl, -⟩) | ⟨rfl, -⟩
        · cases hended
        · exact absurd hended ended_notMem_ledgerCall
        · exact .byPlatform rfl
      · cases hended
    · cases hended
  | jobStarts n =>
    simp only [Entity.step] at hended
    split at hended <;> cases hended
  | jobEnds n err =>
    simp only [Entity.step] at hended
    split at hended
    · split at hended <;> cases hended
    · cases hended
  | resumes n =>
    simp only [Entity.step] at hended
    split at hended
    · next caller request hcall =>
      obtain ⟨rfl, rfl, -⟩ := ended_mem_finish.mp hended
      exact hplaying _ _ hcall
    · next caller request err available hcall =>
      obtain ⟨rfl, rfl, -⟩ := ended_mem_fail.mp hended
      exact hplaying _ _ hcall
    · cases hended
  | watchdog n =>
    simp only [Entity.step] at hended
    split at hended
    · next caller request job hcall =>
      obtain ⟨rfl, rfl, -⟩ := ended_mem_fail.mp hended
      exact hplaying _ _ hcall
    · cases hended
  | cancelled n =>
    simp only [Entity.step] at hended
    split at hended
    · next caller request job hcall =>
      obtain ⟨rfl, rfl, -⟩ := ended_mem_fail.mp hended
      exact hplaying _ _ hcall
    · next caller p hcall =>
      -- it is not cancelled while it waits
      obtain ⟨rfl, rfl, -⟩ := ended_mem_finish.mp hended
      simp [undisturbed, hcall] at hundisturbed
    · cases hended
  | connects | connection | launch => cases hended
  | ledger op =>
    simp only [Entity.step] at hended
    split at hended
    · exact absurd hended ended_notMem_ledgerCall
    · cases hended

/-- In a run that disturbs no announcement, the requests of announcements have their source. -/
theorem attributed_run (uuid : UUID) {run : List Input}
    (hundisturbed : Machine.Along Entity.step (fun S i => S.undisturbed i = true) (added uuid)
      run) :
    Attributed (after uuid run) := by
  refine Machine.final_of_along (P := Attributed) (fun _ _ h hi => attributed_step h hi) ?_
    hundisturbed
  intro id request job hcall
  simp [added] at hcall

/-- **Every announcement of a run is accounted for** when it ends, if the inputs of the run disturb
none: the chromecast is there when it starts, what it waits for is answered without an exception,
its URL is processed, JSON for a cast app names the app and gives no id, it is not cancelled before
its request, and its request begins in its turn. -/
theorem accounted_of_undisturbed (uuid : UUID) (run : List Input)
    (hundisturbed : Machine.Along Entity.step (fun S i => S.undisturbed i = true) (added uuid) run)
    (before : List Input) (i : Input) (hbefore : before ++ [i] <+: run) (id : ℕ) (raised : Bool)
    (hended : .ended id .announce raised ∈ ((after uuid before).step i).2) :
    Accounted id (outputs uuid (before ++ [i])) := by
  obtain ⟨rest, hrun⟩ := hbefore
  rw [← hrun, List.append_assoc, Machine.along_append] at hundisturbed
  obtain ⟨hearlier, hi, -⟩ := hundisturbed
  have htracked := tracked_run uuid before
  have hcovers : CoversEnds (after uuid before) i :=
    coversEnds_of_undisturbed (attributed_run uuid hearlier) hi
  rw [outputs, Machine.emitted_concat]
  exact accounted_of_covered_step htracked hended (hcovers id raised hended)

/-! ## Announcements of a TTS engine -/

/-- `str` of a value of the app data. -/
def strOf : Option Json → String
  | some (.str text) => text
  | _ => "None"

/-- What the work of an entity reads `t` seconds after start-up, on an instance whose media sources
are those of the TTS engine. -/
def ttsAt (t : ℕ) : Readings where
  env := .bare t
  play := { PlayEnv.pinnedInstance with
    isMediaSourceId := fun mediaId => startsWith mediaId "media-source://" }
  str := strOf
  session := none

/-- An announcement of a text. -/
def announceAt (t : ℕ) (text : String) : Input :=
  ⟨ttsAt t, .announce (.rendered text) fun text => .mediaId ("media-source://tts/" ++ text)⟩

/-- What the media source of an announcement resolves to. -/
def clipAt (t id : ℕ) : Input :=
  ⟨ttsAt t, .answered id (.media (some ("audio/mpeg", "http://192.168.1.10:8123/clip.mp3")))⟩

/-- An announcement for which there is a cast platform, up to the platform's answer. -/
def announced (t id : ℕ) : List Input :=
  [announceAt t "Dinner is ready", clipAt t id, ⟨ttsAt t, .answered id (.platforms (some 1))⟩]

/-- The first is declined by the platform and sent to the device. -/
def sent : List Input :=
  ⟨ttsAt 0, .connects⟩ :: announced 1 0 ++ [⟨ttsAt 1, .answered 0 (.platform (some false))⟩,
    ⟨ttsAt 1, .jobStarts 0⟩, ⟨ttsAt 2, .jobEnds 0 none⟩]

/-- The call returns. -/
def sentReturns : Input := ⟨ttsAt 2, .resumes 0⟩

/-- The template of the second cannot be rendered. -/
def templateFails : Input :=
  ⟨ttsAt 3, .announce (.templateError "unexpected end") fun _ => .escaped⟩

/-- The cast platform plays the third. -/
def platformPlays : Input := ⟨ttsAt 4, .answered 2 (.platform (some true))⟩

/-- Three announcements, one for each way to end. -/
def announcements : List Input :=
  sent ++ [sentReturns] ++ [templateFails] ++ (announced 4 2 ++ [platformPlays])

theorem accounted_announcements :
    Accounted 0 (outputs ⟨1⟩ (sent ++ [sentReturns])) ∧
      Accounted 1 (outputs ⟨1⟩ (sent ++ [sentReturns] ++ [templateFails])) ∧
      Accounted 2 (outputs ⟨1⟩ (sent ++ [sentReturns] ++ [templateFails] ++ announced 4 2 ++
        [platformPlays])) := by
  have hundisturbed : Machine.Along Entity.step (fun S i => S.undisturbed i = true) (added ⟨1⟩)
      announcements := by decide +kernel
  exact
    ⟨accounted_of_undisturbed ⟨1⟩ announcements hundisturbed sent sentReturns ⟨_, rfl⟩ 0 false
      (by decide +kernel),
    accounted_of_undisturbed ⟨1⟩ announcements hundisturbed (sent ++ [sentReturns]) templateFails
      ⟨_, rfl⟩ 1 true (by decide +kernel),
    accounted_of_undisturbed ⟨1⟩ announcements hundisturbed
      (sent ++ [sentReturns] ++ [templateFails] ++ announced 4 2) platformPlays ⟨[], rfl⟩ 2 false
      (by decide +kernel)⟩

/-- An announcement on a device whose chromecast is gone. -/
def announceOffline : Input := announceAt 1 "Dinner is ready"

theorem not_accounted :
    .ended 0 .announce true ∈ outputs ⟨1⟩ [announceOffline] ∧
      ¬ Accounted 0 (outputs ⟨1⟩ [announceOffline]) := by
  have houtputs : outputs ⟨1⟩ [announceOffline]
      = [.entered 0, .left 0, .ended 0 .announce true] := by
    decide +kernel
  rw [houtputs]
  constructor
  · simp
  · rintro (⟨u, request, hbegun, -⟩ | hrecords | hplatform)
    · simp at hbegun
    · cases hrecords
    · simp at hplatform

end Entity

end CastDelivery
