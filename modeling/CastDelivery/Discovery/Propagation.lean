import CastDelivery.Health.DeviceStep
import CastDelivery.Lib.Machine
import CastDelivery.Topology.Basic

/-!
# Who learns of a discovery

`discover_chromecast` runs on the threads of the browser, and hands one callback after the other
to the event loop: the topology tracker, the ledger and the devices each keep a copy of the record.
The callbacks of two threads may alternate, and an entity that has been created is not connected
to the signal before `async_added_to_hass`.

`readers_agree`: once nothing about a device is under way, all of them have the last record, in
every run whose steps are `Orderly` for that device: the threads discover it in turn, and its entity
is not added with a record that the tracker and the signal have got over.
-/

namespace CastDelivery

/-- The threads on which the browser calls `add_cast` and `update_cast`. -/
inductive DiscoveryThread
  | zeroconf
  | hostBrowser
deriving DecidableEq, Repr

/-- The other thread. -/
def DiscoveryThread.other : DiscoveryThread → DiscoveryThread
  | .zeroconf => .hostBrowser
  | .hostBrowser => .zeroconf

theorem DiscoveryThread.other_ne (thread : DiscoveryThread) : thread.other ≠ thread := by
  cases thread <;> decide

theorem DiscoveryThread.eq_or_eq_other (thread thread' : DiscoveryThread) :
    thread' = thread ∨ thread' = thread.other := by
  cases thread <;> cases thread' <;> decide

/-- The callbacks of `discover_chromecast`, without `async_device_seen`. -/
inductive CallKind
  /-- `topology.async_record_discovery`. -/
  | recordDiscovery
  /-- `ledger.async_update_identity`. -/
  | updateIdentity
  /-- `SIGNAL_CAST_DISCOVERED`. -/
  | castDiscovered
deriving DecidableEq, Repr

/-- A callback for the event loop. -/
structure LoopCall where
  kind : CallKind
  info : DiscoveryRecord
deriving DecidableEq, Repr

/-- A `CastDevice`, with its `_cast_info`. -/
inductive DeviceStage
  | absent
  /-- An entity that waits for `async_added_to_hass`. -/
  | created (info : DiscoveryRecord)
  /-- The device is connected to `SIGNAL_CAST_DISCOVERED`. -/
  | connected (info : DiscoveryRecord)
deriving DecidableEq, Repr

/-- The event loop and the threads of the browser, with the readers of the records. -/
structure DiscoveryReaders where
  /-- The callbacks that each thread has still to hand over. -/
  posts : DiscoveryThread → List LoopCall := fun _ => []
  /-- The callbacks that the event loop has still to run. -/
  ready : List LoopCall := []
  tracker : TopologyTracker := {}
  ledger : DeliveryLedger := {}
  device : UUID → DeviceStage := fun _ => .absent
  /-- `runtime_data.added_health_devices`. -/
  addedHealth : List UUID := []

inductive ReadersEvent
  /-- `discover_chromecast` on one of the threads, once the record is filled out. -/
  | discovered (thread : DiscoveryThread) (info : DiscoveryRecord)
  /-- A thread calls `call_soon_threadsafe`. -/
  | posts (thread : DiscoveryThread)
  /-- The event loop runs a callback. -/
  | runs (env : Env)
  /-- `async_added_to_hass` of an entity. -/
  | addedToHass (env : Env) (uuid : UUID) (entityId : String)
  /-- `_async_tear_down` of a device ends. -/
  | removed (uuid : UUID)

/-- The callbacks of `discover_chromecast`, in its order. -/
def discoverChromecast (info : DiscoveryRecord) : List LoopCall :=
  [⟨.recordDiscovery, info⟩, ⟨.updateIdentity, info⟩, ⟨.castDiscovered, info⟩]

/-- `_async_create_cast_device` for a device that is not there, and `_async_cast_discovered` for
one that is. A dynamic group is set up as it is created. -/
def DeviceStage.castDiscovered (wanted : Bool) (info : DiscoveryRecord) : DeviceStage → DeviceStage
  | .absent =>
    if wanted = false then .absent
    else if info.isDynamicGroup = some true then .connected info
    else .created info
  | .created old => .created old
  | .connected _ => .connected info

/-- An entity that the sensor platform adds. -/
structure HealthSensor where
  info : DiscoveryRecord
  key : String
deriving DecidableEq, Repr

/-- `_attr_unique_id`. -/
def HealthSensor.uniqueId (sensor : HealthSensor) : String :=
  sensor.info.uuid.str ++ "_" ++ sensor.key

/-- The sensors of a device, `CastGroupLeaderSensor` for a group only. -/
def healthSensors (info : DiscoveryRecord) : List HealthSensor :=
  [⟨info, "tts_outcome"⟩, ⟨info, "last_tts_success"⟩] ++
    if info.isAudioGroup then [⟨info, "leader"⟩] else []

namespace DiscoveryReaders

/-- The handler `async_cast_discovered` of the sensor platform. -/
def addHealthSensors (wanted : UUID → Bool) (S : DiscoveryReaders) (env : Env)
    (info : DiscoveryRecord) : DiscoveryReaders × List HealthSensor :=
  if wanted info.uuid = false ∨ info.isDynamicGroup = some true ∨ info.uuid ∈ S.addedHealth then
    (S, [])
  else
    ({ S with
        addedHealth := S.addedHealth ++ [info.uuid]
        ledger := S.ledger.asyncUpdateIdentity env info.uuid none info.friendlyName
          info.castInfo.host (some info.castInfo.port) true },
      healthSensors info)

/-- The handlers of the media player platform. -/
def castDiscovered (wanted : UUID → Bool) (S : DiscoveryReaders) (info : DiscoveryRecord) :
    DiscoveryReaders :=
  { S with
    device := Function.update S.device info.uuid
      ((S.device info.uuid).castDiscovered (wanted info.uuid) info) }

/-- The callback `async_record_discovery`, `async_update_identity` or the signal handlers. -/
def perform (wanted : UUID → Bool) (S : DiscoveryReaders) (env : Env) (call : LoopCall) :
    DiscoveryReaders × List HealthSensor :=
  let info := call.info
  match call.kind with
  | .recordDiscovery => ({ S with tracker := S.tracker.asyncRecordDiscovery info }, [])
  | .updateIdentity =>
    ({ S with
        ledger := S.ledger.asyncUpdateIdentity env info.uuid none info.friendlyName
          info.castInfo.host (some info.castInfo.port) true }, [])
  | .castDiscovered => (S.castDiscovered wanted info).addHealthSensors wanted env info

/-- `async_added_to_hass`. -/
def asyncAddedToHass (S : DiscoveryReaders) (env : Env) (uuid : UUID) (entityId : String) :
    DiscoveryReaders :=
  match S.device uuid with
  | .created info =>
    { S with
      ledger := S.ledger.asyncUpdateIdentity env uuid (some entityId) info.friendlyName
        info.castInfo.host (some info.castInfo.port) false
      device := Function.update S.device uuid (.connected info) }
  | _ => S

/-- `_async_tear_down`: the device is taken off `added_cast_devices`. -/
def asyncTearDown (S : DiscoveryReaders) (uuid : UUID) : DiscoveryReaders :=
  match S.device uuid with
  | .connected _ => { S with device := Function.update S.device uuid .absent }
  | _ => S

/-- `discover_chromecast` on a thread. -/
def discover (S : DiscoveryReaders) (thread : DiscoveryThread) (info : DiscoveryRecord) :
    DiscoveryReaders :=
  { S with posts := Function.update S.posts thread (S.posts thread ++ discoverChromecast info) }

/-- A thread hands its next callback over. -/
def post (S : DiscoveryReaders) (thread : DiscoveryThread) : DiscoveryReaders :=
  match S.posts thread with
  | [] => S
  | call :: rest =>
    { S with
      posts := Function.update S.posts thread rest
      ready := S.ready ++ [call] }

/-- One event, with the sensors it adds. -/
def step (wanted : UUID → Bool) (S : DiscoveryReaders) :
    ReadersEvent → DiscoveryReaders × List HealthSensor
  | .discovered thread info => (S.discover thread info, [])
  | .posts thread => (S.post thread, [])
  | .runs env =>
    match S.ready with
    | [] => (S, [])
    | call :: rest => perform wanted { S with ready := rest } env call
  | .addedToHass env uuid entityId => (S.asyncAddedToHass env uuid entityId, [])
  | .removed uuid => (S.asyncTearDown uuid, [])

/-! ## What is under way -/

/-- The callbacks about a device that have not run yet. -/
def underWay (S : DiscoveryReaders) (u : UUID) : List LoopCall :=
  (S.ready ++ S.posts .zeroconf ++ S.posts .hostBrowser).filter fun call => call.info.uuid = u

/-- The last record that was discovered of a device. -/
def latest (u : UUID) (run : List ReadersEvent) : Option DiscoveryRecord :=
  (run.filterMap fun
    | .discovered _ info => if info.uuid = u then some info else none
    | _ => none).getLast?

/-- A reader has a record of a device. The ledger keeps an old name or host if there is no new one;
an entity that was not added does not read. -/
def Knows (S : DiscoveryReaders) (u : UUID) (info : DiscoveryRecord) : CallKind → Prop
  | .recordDiscovery => S.tracker.infos.get? u = some info
  | .updateIdentity =>
    (∀ name, info.friendlyName = some name → (S.ledger.health u).name = some name) ∧
      (∀ host, info.castInfo.host = some host → (S.ledger.health u).host = some host) ∧
      (S.ledger.health u).port = some info.castInfo.port
  | .castDiscovered => ∀ own, S.device u = .connected own → own = info

/-- `async_added_to_hass` may run for a device: where its entity waits for that, an
`async_update_identity` about the device is still to run, or no callback about it is and the
tracker has the very record that the entity was created with. -/
def MayAdd (u : UUID) (S : DiscoveryReaders) : DeviceStage → Prop
  | .created own =>
    (∃ call ∈ S.underWay u, call.kind = .updateIdentity) ∨
      S.underWay u = [] ∧ S.tracker.infos.get? u = some own
  | _ => True

/-- What keeps the readers of a device together: a thread does not discover it while the other has
callbacks about it to hand over, and `async_added_to_hass` runs only where it may. In particular
it does not run where a newer record has reached the tracker and the signal, but found the entity
waiting. -/
def Orderly (u : UUID) (S : DiscoveryReaders) : ReadersEvent → Prop
  | .discovered thread info =>
    info.uuid = u → ∀ call ∈ S.posts thread.other, call.info.uuid ≠ u
  | .addedToHass _ uuid _ => uuid = u → S.MayAdd u (S.device u)
  | _ => True

instance (u : UUID) (S : DiscoveryReaders) : DecidablePred (S.MayAdd u)
  | .created own => inferInstanceAs (Decidable (
      (∃ call ∈ S.underWay u, call.kind = .updateIdentity) ∨
        S.underWay u = [] ∧ S.tracker.infos.get? u = some own))
  | .absent | .connected _ => inferInstanceAs (Decidable True)

instance (u : UUID) (S : DiscoveryReaders) : DecidablePred (Orderly u S)
  | .discovered thread info => inferInstanceAs (Decidable (
      info.uuid = u → ∀ call ∈ S.posts thread.other, call.info.uuid ≠ u))
  | .addedToHass _ uuid _ => inferInstanceAs (Decidable (uuid = u → S.MayAdd u (S.device u)))
  | .posts _ | .runs _ | .removed _ => inferInstanceAs (Decidable True)

/-! ## The calls under way -/

variable {wanted : UUID → Bool} {S : DiscoveryReaders} {u : UUID} {info : DiscoveryRecord}

/-- One thread at most has calls about a device to hand over. -/
def Alone (u : UUID) (S : DiscoveryReaders) : Prop :=
  ∃ thread : DiscoveryThread, ∀ call ∈ S.posts thread.other, call.info.uuid ≠ u

theorem filter_eq_nil_of_alone {calls : List LoopCall} (h : ∀ call ∈ calls, call.info.uuid ≠ u) :
    (calls.filter fun call => call.info.uuid = u) = [] :=
  List.filter_eq_nil_iff.mpr fun call hcall => by simpa using h call hcall

/-- With one thread at most, the calls under way are its own behind those that are ready. -/
theorem underWay_of_alone {thread : DiscoveryThread}
    (h : ∀ call ∈ S.posts thread.other, call.info.uuid ≠ u) :
    S.underWay u = (S.ready ++ S.posts thread).filter fun call => call.info.uuid = u := by
  have hnone := filter_eq_nil_of_alone h
  unfold underWay
  cases thread with
  | zeroconf =>
    dsimp only [DiscoveryThread.other] at hnone
    rw [List.filter_append, hnone, List.append_nil]
  | hostBrowser =>
    dsimp only [DiscoveryThread.other] at hnone
    rw [List.filter_append, List.filter_append, hnone, List.append_nil, List.filter_append]

/-- A discovery puts its calls behind all that are under way. -/
theorem underWay_discovered {thread : DiscoveryThread} (hu : info.uuid = u)
    (h : ∀ call ∈ S.posts thread.other, call.info.uuid ≠ u) :
    (S.discover thread info).underWay u =
      S.underWay u ++ discoverChromecast info := by
  have hother : ∀ call ∈ (S.discover thread info).posts thread.other,
      call.info.uuid ≠ u := by
    intro call hcall
    refine h call ?_
    cases thread <;> exact hcall
  have hown : (S.discover thread info).posts thread =
      S.posts thread ++ discoverChromecast info := Function.update_self ..
  have hcalls : (discoverChromecast info).filter (fun call => call.info.uuid = u) =
      discoverChromecast info := by simp [discoverChromecast, hu]
  rw [underWay_of_alone hother, underWay_of_alone h, hown, ← List.append_assoc,
    List.filter_append, hcalls]
  rfl

theorem underWay_discovered_of_ne {thread : DiscoveryThread}
    (hu : info.uuid ≠ u) :
    (S.discover thread info).underWay u = S.underWay u := by
  have hcalls : (discoverChromecast info).filter (fun call => call.info.uuid = u) = [] := by
    simp [discoverChromecast, hu]
  unfold underWay
  cases thread <;> simp [discover, hcalls, Function.update]

theorem alone_discovered (hS : S.Alone u) {thread : DiscoveryThread}
    (h : Orderly u S (.discovered thread info)) :
    (S.discover thread info).Alone u := by
  by_cases hu : info.uuid = u
  · refine ⟨thread, fun call hcall => h hu call ?_⟩
    cases thread <;> exact hcall
  · obtain ⟨alone, halone⟩ := hS
    refine ⟨alone, fun call hcall => ?_⟩
    dsimp only [discover] at hcall
    by_cases hthread : alone.other = thread
    · subst hthread
      rw [Function.update_self, List.mem_append] at hcall
      rcases hcall with hold | hnew
      · exact halone call hold
      · simp only [discoverChromecast, List.mem_cons, List.not_mem_nil, or_false] at hnew
        rcases hnew with rfl | rfl | rfl <;> exact hu
    · rw [Function.update_of_ne hthread] at hcall
      exact halone call hcall

/-- Handing a call over changes neither the calls under way nor their order. -/
theorem underWay_posts (hS : S.Alone u) (thread : DiscoveryThread) :
    (S.post thread).underWay u = S.underWay u ∧
      (S.post thread).Alone u := by
  obtain ⟨alone, halone⟩ := hS
  unfold post
  split
  · exact ⟨rfl, alone, halone⟩
  · next call rest hposts =>
    rcases alone.eq_or_eq_other thread with rfl | rfl
    · have hother : ∀ c ∈ Function.update S.posts thread rest thread.other, c.info.uuid ≠ u := by
        rwa [Function.update_of_ne thread.other_ne]
      refine ⟨?_, thread, hother⟩
      rw [underWay_of_alone halone, underWay_of_alone hother]
      dsimp only
      rw [Function.update_self, hposts, List.append_assoc]
      rfl
    · -- the call is about another device
      have hcalls : ∀ c ∈ call :: rest, c.info.uuid ≠ u := hposts ▸ halone
      have hother : ∀ c ∈ Function.update S.posts alone.other rest alone.other,
          c.info.uuid ≠ u := by
        rw [Function.update_self]
        exact fun c hc => hcalls c (List.mem_cons_of_mem _ hc)
      refine ⟨?_, alone, hother⟩
      rw [underWay_of_alone halone, underWay_of_alone hother]
      dsimp only
      rw [Function.update_of_ne alone.other_ne.symm, List.append_assoc, List.filter_append,
        List.filter_append,
        List.filter_cons_of_neg (by simpa using hcalls call List.mem_cons_self), List.filter_nil,
        List.nil_append, List.filter_append]

/-- The event loop runs the first call under way, or one about another device. -/
theorem underWay_runs {call : LoopCall} {rest : List LoopCall} (h : S.ready = call :: rest) :
    S.underWay u = (if call.info.uuid = u then [call] else []) ++
      { S with ready := rest }.underWay u := by
  unfold underWay
  rw [h]
  by_cases hu : call.info.uuid = u
  · simp [hu]
  · simp [hu]

/-! ## What the readers will know -/

/-- The record of the last call of one kind. -/
def lastCall (kind : CallKind) (calls : List LoopCall) : Option DiscoveryRecord :=
  (calls.filter fun call => call.kind = kind).getLast?.map LoopCall.info

theorem lastCall_append (kind : CallKind) (calls calls' : List LoopCall) :
    lastCall kind (calls ++ calls') = (lastCall kind calls').or (lastCall kind calls) := by
  unfold lastCall
  rw [List.filter_append, List.getLast?_append, Option.map_or]

theorem lastCall_discoverChromecast (kind : CallKind) (info : DiscoveryRecord) :
    lastCall kind (discoverChromecast info) = some info := by cases kind <;> rfl

theorem kind_ne_of_lastCall {kind : CallKind} {calls : List LoopCall}
    (h : lastCall kind calls = none) {call : LoopCall} (hcall : call ∈ calls) :
    call.kind ≠ kind := by
  intro hkind
  have hfilter := List.getLast?_eq_none_iff.mp (Option.map_eq_none_iff.mp h)
  exact List.filter_eq_nil_iff.mp hfilter call hcall (by simpa using hkind)

/-- A reader will have a record, once it has been called by what is under way. -/
def Eventually (S : DiscoveryReaders) (u : UUID) (info : DiscoveryRecord) (kind : CallKind) :
    Prop :=
  (∀ last, lastCall kind (S.underWay u) = some last → last = info) ∧
    (lastCall kind (S.underWay u) = none → S.Knows u info kind)

theorem health_asyncUpdateIdentity_of_ne {d : UUID} (hd : d ≠ u) (env : Env) (L : DeliveryLedger)
    (entityId name host : Option String) (port : Option ℕ) (seen : Bool) :
    (L.asyncUpdateIdentity env u entityId name host port seen).health d = L.health d := by
  unfold DeliveryLedger.asyncUpdateIdentity
  rw [DeliveryLedger.health_store]
  exact if_neg fun h => hd (h.trans (DeliveryLedger.uuid_health L u))

/-- The ledger takes over the identity of a record. -/
theorem knows_updateIdentity {L : DeliveryLedger} (env : Env) (entityId : Option String)
    (seen : Bool)
    (h : S.ledger = L.asyncUpdateIdentity env u entityId info.friendlyName info.castInfo.host
      (some info.castInfo.port) seen) : S.Knows u info .updateIdentity := by
  unfold Knows
  rw [h]
  unfold DeliveryLedger.asyncUpdateIdentity
  rw [DeliveryLedger.health_store, if_pos (DeliveryLedger.uuid_health L u).symm]
  refine ⟨fun name hname => ?_, fun host hhost => ?_, rfl⟩
  · dsimp only
    rw [hname]
    rfl
  · dsimp only
    rw [hhost]
    rfl

/-- The sensor platform has sensors for a device, or adds them and tells the ledger. -/
theorem addHealthSensors_cases (wanted : UUID → Bool) (S : DiscoveryReaders) (env : Env)
    (info : DiscoveryRecord) :
    S.addHealthSensors wanted env info = (S, []) ∨
      wanted info.uuid = true ∧ info.isDynamicGroup ≠ some true ∧ info.uuid ∉ S.addedHealth ∧
        S.addHealthSensors wanted env info =
          ({ S with
              addedHealth := S.addedHealth ++ [info.uuid]
              ledger := S.ledger.asyncUpdateIdentity env info.uuid none info.friendlyName
                info.castInfo.host (some info.castInfo.port) true },
            healthSensors info) := by
  unfold addHealthSensors
  split
  · exact .inl rfl
  · next h =>
    obtain ⟨hwanted, hdynamic, hadded⟩ : _ ∧ _ ∧ _ := by simpa only [not_or] using h
    exact .inr ⟨by simpa using hwanted, hdynamic, hadded, rfl⟩

/-- Of the readers, the sensor platform touches the ledger alone. -/
theorem frame_addHealthSensors (wanted : UUID → Bool) (S : DiscoveryReaders) (env : Env)
    (info : DiscoveryRecord) :
    (S.addHealthSensors wanted env info).1.posts = S.posts ∧
      (S.addHealthSensors wanted env info).1.ready = S.ready ∧
      (S.addHealthSensors wanted env info).1.tracker = S.tracker ∧
      (S.addHealthSensors wanted env info).1.device = S.device := by
  rcases addHealthSensors_cases wanted S env info with h | ⟨-, -, -, h⟩ <;> rw [h] <;>
    exact ⟨rfl, rfl, rfl, rfl⟩

theorem device_castDiscovered (wanted : UUID → Bool) (S : DiscoveryReaders)
    (info : DiscoveryRecord) :
    (S.castDiscovered wanted info).device = Function.update S.device info.uuid
      ((S.device info.uuid).castDiscovered (wanted info.uuid) info) := rfl

/-- A call that is run gives its record to its reader. -/
theorem knows_perform_self (env : Env) (call : LoopCall) (hu : call.info.uuid = u) :
    (S.perform wanted env call).1.Knows u call.info call.kind := by
  obtain ⟨kind, info⟩ := call
  subst hu
  cases kind with
  | recordDiscovery => exact Dict.get?_set_self _ _ _
  | updateIdentity => exact knows_updateIdentity env none true rfl
  | castDiscovered =>
    intro own hown
    obtain ⟨-, -, -, hdevice⟩ :=
      frame_addHealthSensors wanted (S.castDiscovered wanted info) env info
    dsimp only [perform] at hown
    rw [hdevice, device_castDiscovered, Function.update_self] at hown
    unfold DeviceStage.castDiscovered at hown
    split at hown
    · split at hown
      · cases hown
      · split at hown
        · exact (DeviceStage.connected.inj hown).symm
        · cases hown
    · cases hown
    · exact (DeviceStage.connected.inj hown).symm

/-- A call for another reader, or about another device, does not matter, unless it is a signal with
which the sensor platform tells the ledger another record. -/
theorem knows_perform (env : Env) {call : LoopCall} {kind : CallKind}
    (hne : call.info.uuid = u → call.kind ≠ kind)
    (hsensors : call.info.uuid = u → call.kind = .castDiscovered → kind = .updateIdentity →
      call.info = info) (h : S.Knows u info kind) :
    (S.perform wanted env call).1.Knows u info kind := by
  obtain ⟨calledKind, called⟩ := call
  cases calledKind with
  | recordDiscovery =>
    cases kind with
    | recordDiscovery =>
      have hu : u ≠ called.uuid := fun hu => hne hu.symm rfl
      exact (Dict.get?_set _ _ _ _).trans ((if_neg hu).trans h)
    | updateIdentity | castDiscovered => exact h
  | updateIdentity =>
    cases kind with
    | updateIdentity =>
      have hu : u ≠ called.uuid := fun hu => hne hu.symm rfl
      unfold Knows at h ⊢
      dsimp only [perform]
      rwa [health_asyncUpdateIdentity_of_ne hu]
    | recordDiscovery | castDiscovered => exact h
  | castDiscovered =>
    obtain ⟨-, -, htracker, hdevice⟩ :=
      frame_addHealthSensors wanted (S.castDiscovered wanted called) env called
    cases kind with
    | recordDiscovery =>
      unfold Knows at h ⊢
      dsimp only [perform]
      rwa [htracker]
    | updateIdentity =>
      dsimp only [perform]
      rcases addHealthSensors_cases wanted (S.castDiscovered wanted called) env called with
        heq | ⟨-, -, -, heq⟩
      · rw [heq]
        exact h
      · rw [heq]
        by_cases hu : called.uuid = u
        · obtain rfl : called = info := hsensors hu rfl rfl
          subst hu
          exact knows_updateIdentity env none true rfl
        · unfold Knows at h ⊢
          dsimp only [castDiscovered]
          rwa [health_asyncUpdateIdentity_of_ne (Ne.symm hu)]
    | castDiscovered =>
      have hu : u ≠ called.uuid := fun hu => hne hu.symm rfl
      intro own hown
      dsimp only [perform] at hown
      rw [hdevice, device_castDiscovered, Function.update_of_ne hu] at hown
      exact h own hown

/-- Calls as the discoveries of a device leave them: behind each call there is a signal, and behind
a signal that is not the last call there is an identity. -/
def InTurn : List LoopCall → Prop
  | [] => True
  | call :: rest =>
    (call.kind ≠ .castDiscovered → ∃ later ∈ rest, later.kind = .castDiscovered) ∧
      (call.kind = .castDiscovered → rest = [] ∨ ∃ later ∈ rest, later.kind = .updateIdentity) ∧
      InTurn rest

theorem inTurn_append {calls : List LoopCall} (h : InTurn calls) (info : DiscoveryRecord) :
    InTurn (calls ++ discoverChromecast info) := by
  induction calls with
  | nil => simp [InTurn, discoverChromecast]
  | cons call rest ih =>
    refine ⟨fun hkind => ?_, fun _ => .inr ?_, ih h.2.2⟩
    · obtain ⟨later, hlater, hsignal⟩ := h.1 hkind
      exact ⟨later, List.mem_append_left _ hlater, hsignal⟩
    · exact ⟨⟨.updateIdentity, info⟩, List.mem_append_right _ (by simp [discoverChromecast]), rfl⟩

theorem InTurn.exists_signal {calls : List LoopCall} (h : InTurn calls) (hne : calls ≠ []) :
    ∃ call ∈ calls, call.kind = .castDiscovered := by
  cases calls with
  | nil => exact absurd rfl hne
  | cons call rest =>
    by_cases hkind : call.kind = .castDiscovered
    · exact ⟨call, List.mem_cons_self, hkind⟩
    · obtain ⟨later, hlater, hsignal⟩ := h.1 hkind
      exact ⟨later, List.mem_cons_of_mem _ hlater, hsignal⟩

/-! ## The invariant -/

/-- The readers of a device converge to the last record of a run. -/
structure Converges (wanted : UUID → Bool) (u : UUID) (run : List ReadersEvent)
    (S : DiscoveryReaders) : Prop where
  alone : S.Alone u
  inTurn : InTurn (S.underWay u)
  eventually : ∀ info kind, latest u run = some info → S.Eventually u info kind
  present : wanted u = true → .removed u ∉ run → latest u run ≠ none → S.device u = .absent →
    ∃ call ∈ S.underWay u, call.kind = .castDiscovered

variable {run : List ReadersEvent}

theorem latest_concat_discovered (thread : DiscoveryThread) (hu : info.uuid = u) :
    latest u (run ++ [.discovered thread info]) = some info := by
  unfold latest
  rw [List.filterMap_append, List.getLast?_append]
  simp [hu]

theorem latest_concat_of_ne {e : ReadersEvent}
    (h : ∀ thread info, e = .discovered thread info → info.uuid ≠ u) :
    latest u (run ++ [e]) = latest u run := by
  unfold latest
  rw [List.filterMap_append, List.getLast?_append]
  cases e with
  | discovered thread info => simp [h thread info rfl]
  | _ => rfl

/-- An event that leaves the calls under way as they are, and takes no record from a reader. -/
theorem Converges.keeps {S' : DiscoveryReaders} {e : ReadersEvent}
    (hS : Converges wanted u run S)
    (he : ∀ thread info, e = .discovered thread info → info.uuid ≠ u)
    (halone : S'.Alone u) (hway : S'.underWay u = S.underWay u)
    (hknows : ∀ info kind, latest u run = some info → S.Knows u info kind →
      lastCall kind (S.underWay u) = none → S'.Knows u info kind)
    (hdevice : e ≠ .removed u → S'.device u = .absent → S.device u = .absent) :
    Converges wanted u (run ++ [e]) S' where
  alone := halone
  inTurn := by
    rw [hway]
    exact hS.inTurn
  eventually info kind hlast := by
    rw [latest_concat_of_ne he] at hlast
    obtain ⟨hcalls, hknown⟩ := hS.eventually info kind hlast
    unfold Eventually
    rw [hway]
    exact ⟨hcalls, fun hnone => hknows info kind hlast (hknown hnone) hnone⟩
  present hwanted hremoved hlast habsent := by
    rw [latest_concat_of_ne he] at hlast
    rw [List.mem_append, List.mem_singleton, not_or] at hremoved
    rw [hway]
    exact hS.present hwanted hremoved.1 hlast (hdevice (Ne.symm hremoved.2) habsent)

theorem Converges.discovered (hS : Converges wanted u run S) {thread : DiscoveryThread}
    (hu : info.uuid = u) (h : Orderly u S (.discovered thread info)) :
    Converges wanted u (run ++ [.discovered thread info])
      (S.discover thread info) := by
  have hway := underWay_discovered hu (h hu)
  refine ⟨alone_discovered hS.alone h, ?_, fun latest kind hlatest => ?_, fun _ _ _ _ => ?_⟩
  · rw [hway]
    exact inTurn_append hS.inTurn info
  · rw [latest_concat_discovered thread hu] at hlatest
    obtain rfl := Option.some.inj hlatest
    have hlast : lastCall kind ((S.discover thread info).underWay u) =
        some info := by
      rw [hway, lastCall_append, lastCall_discoverChromecast]
      rfl
    unfold Eventually
    rw [hlast]
    exact ⟨fun last h => (Option.some.inj h).symm, fun h => nomatch h⟩
  · rw [hway]
    exact ⟨⟨.castDiscovered, info⟩, by simp [discoverChromecast], rfl⟩

theorem queues_perform (env : Env) (call : LoopCall) :
    (S.perform wanted env call).1.posts = S.posts ∧
      (S.perform wanted env call).1.ready = S.ready := by
  unfold perform
  dsimp only
  split
  · exact ⟨rfl, rfl⟩
  · exact ⟨rfl, rfl⟩
  · obtain ⟨hposts, hready, -⟩ :=
      frame_addHealthSensors wanted (S.castDiscovered wanted call.info) env call.info
    exact ⟨hposts, hready⟩

theorem underWay_perform (env : Env) (call : LoopCall) :
    (S.perform wanted env call).1.underWay u = S.underWay u := by
  obtain ⟨hposts, hready⟩ := @queues_perform wanted S env call
  unfold underWay
  rw [hposts, hready]

theorem alone_perform (env : Env) (call : LoopCall) (h : S.Alone u) :
    (S.perform wanted env call).1.Alone u := by
  unfold Alone
  rwa [(queues_perform env call).1]

/-- What is absent after a call was absent before, and the call was not its discovery. -/
theorem device_perform {env : Env} {call : LoopCall} (hwanted : wanted u = true)
    (h : (S.perform wanted env call).1.device u = .absent) :
    S.device u = .absent ∧ (call.info.uuid = u → call.kind ≠ .castDiscovered) := by
  obtain ⟨kind, info⟩ := call
  cases kind with
  | recordDiscovery => exact ⟨h, fun _ hkind => nomatch hkind⟩
  | updateIdentity => exact ⟨h, fun _ hkind => nomatch hkind⟩
  | castDiscovered =>
    obtain ⟨-, -, -, hdevice⟩ :=
      frame_addHealthSensors wanted (S.castDiscovered wanted info) env info
    dsimp only [perform] at h
    rw [hdevice, device_castDiscovered] at h
    by_cases hu : info.uuid = u
    · subst hu
      rw [Function.update_self, hwanted] at h
      unfold DeviceStage.castDiscovered at h
      split at h
      · rw [if_neg (by decide)] at h
        split at h <;> cases h
      · cases h
      · cases h
    · rw [Function.update_of_ne (Ne.symm hu)] at h
      exact ⟨h, fun hu' => absurd hu' hu⟩

/-- The event loop runs a call of the device: the record of the last call of each kind, if it is
this one, is known now. -/
theorem Eventually.runs {S' : DiscoveryReaders} {kind : CallKind} {call : LoopCall} {env : Env}
    (h : S.Eventually u info kind)
    (hway : S.underWay u = (if call.info.uuid = u then [call] else []) ++ S'.underWay u)
    (hsensors : call.info.uuid = u → call.kind = .castDiscovered →
      lastCall .updateIdentity (S'.underWay u) = none → call.info = info)
    (hsame : ∀ kind, S.Knows u info kind → S'.Knows u info kind) :
    (S'.perform wanted env call).1.Eventually u info kind := by
  obtain ⟨hcalls, hknown⟩ := h
  unfold Eventually
  rw [underWay_perform]
  rw [hway, lastCall_append] at hcalls hknown
  refine ⟨fun last hlast => hcalls last (by rw [hlast]; rfl), fun hnone => ?_⟩
  rw [hnone, Option.none_or] at hcalls hknown
  by_cases hcall : call.info.uuid = u ∧ call.kind = kind
  · obtain ⟨hu, rfl⟩ := hcall
    have hlast : call.info = info := hcalls call.info (by simp [hu, lastCall])
    rw [← hlast]
    exact knows_perform_self env call hu
  · refine knows_perform env (fun hu hkind => hcall ⟨hu, hkind⟩)
      (fun hu hsignal hkind => hsensors hu hsignal (hkind ▸ hnone)) (hsame kind (hknown ?_))
    by_cases hu : call.info.uuid = u
    · have hkind : call.kind ≠ kind := fun hkind => hcall ⟨hu, hkind⟩
      simp [hu, hkind, lastCall]
    · simp [hu, lastCall]

theorem Converges.runs (hS : Converges wanted u run S) (env : Env) :
    Converges wanted u (run ++ [.runs env]) (S.step wanted (.runs env)).1 := by
  have he : ∀ thread info, ReadersEvent.runs env = .discovered thread info → info.uuid ≠ u :=
    fun _ _ h => nomatch h
  dsimp only [DiscoveryReaders.step]
  split
  · exact hS.keeps he hS.alone rfl (fun _ _ _ h _ => h) fun _ h => h
  · next call rest hready =>
    have hway := underWay_runs (u := u) hready
    have hturn : InTurn ({ S with ready := rest }.underWay u) := by
      have hS' := hS.inTurn
      rw [hway] at hS'
      split at hS'
      · exact hS'.2.2
      · exact hS'
    refine ⟨alone_perform env call hS.alone, ?_, fun info kind hlatest => ?_,
      fun hwanted hremoved hlatest habsent => ?_⟩
    · rwa [underWay_perform]
    · rw [latest_concat_of_ne he] at hlatest
      refine (hS.eventually info kind hlatest).runs hway (fun hu hsignal hnone => ?_)
        fun kind h => by cases kind <;> exact h
      -- nothing is behind the signal, so its record is the last one
      have hturn' := hS.inTurn
      rw [hway, if_pos hu, List.singleton_append] at hturn'
      rcases hturn'.2.1 hsignal with hnil | ⟨later, hlater, hkind⟩
      · obtain ⟨hcalls, -⟩ := hS.eventually info .castDiscovered hlatest
        refine hcalls call.info ?_
        rw [hway, if_pos hu, List.singleton_append, hnil]
        simp [lastCall, hsignal]
      · exact absurd hkind (kind_ne_of_lastCall hnone hlater)
    · rw [latest_concat_of_ne he] at hlatest
      rw [List.mem_append, not_or] at hremoved
      obtain ⟨hbefore, hnot⟩ := device_perform hwanted habsent
      obtain ⟨c, hc, hkind⟩ := hS.present hwanted hremoved.1 hlatest hbefore
      rw [underWay_perform]
      rw [hway, List.mem_append] at hc
      rcases hc with hfirst | hrest
      · by_cases hu : call.info.uuid = u
        · rw [if_pos hu, List.mem_singleton] at hfirst
          exact absurd (hfirst ▸ hkind) (hnot hu)
        · rw [if_neg hu] at hfirst
          cases hfirst
      · exact ⟨c, hrest, hkind⟩

/-- An entity that may be added takes its record to the ledger only where the ledger has it, or
will get a newer one. -/
theorem Converges.addedToHass (hS : Converges wanted u run S) (env : Env) (uuid : UUID)
    (entityId : String) (h : Orderly u S (.addedToHass env uuid entityId)) :
    Converges wanted u (run ++ [.addedToHass env uuid entityId])
      (S.asyncAddedToHass env uuid entityId) := by
  have he : ∀ thread info, ReadersEvent.addedToHass env uuid entityId = .discovered thread info →
      info.uuid ≠ u := fun _ _ h => nomatch h
  unfold asyncAddedToHass
  split
  · next own hcreated =>
    refine hS.keeps he hS.alone rfl (fun info kind hlatest hknown hnone => ?_) fun _ habsent => ?_
    · by_cases hu : uuid = u
      · subst hu
        have hmay := h rfl
        rw [hcreated] at hmay
        rcases hmay with ⟨call, hcall, hkind⟩ | ⟨hidle, htracker⟩
        · -- the identity that is still to come has a discovery signal behind it
          cases kind with
          | recordDiscovery => exact hknown
          | updateIdentity => exact absurd hkind (kind_ne_of_lastCall hnone hcall)
          | castDiscovered =>
            obtain ⟨signal, hmem, hsignal⟩ := hS.inTurn.exists_signal (List.ne_nil_of_mem hcall)
            exact absurd hsignal (kind_ne_of_lastCall hnone hmem)
        · have hown : own = info := by
            obtain ⟨-, hknows⟩ := hS.eventually info .recordDiscovery hlatest
            rw [hidle] at hknows
            exact Option.some.inj (htracker.symm.trans (hknows rfl))
          subst hown
          cases kind with
          | recordDiscovery => exact hknown
          | updateIdentity => exact knows_updateIdentity env (some entityId) false rfl
          | castDiscovered =>
            intro other hother
            dsimp only at hother
            rw [Function.update_self] at hother
            exact (DeviceStage.connected.inj hother).symm
      · cases kind with
        | recordDiscovery => exact hknown
        | updateIdentity =>
          unfold Knows at hknown ⊢
          dsimp only
          rwa [health_asyncUpdateIdentity_of_ne (Ne.symm hu)]
        | castDiscovered =>
          intro other hother
          dsimp only at hother
          rw [Function.update_of_ne (Ne.symm hu)] at hother
          exact hknown other hother
    · dsimp only at habsent
      by_cases hu : u = uuid
      · subst hu
        rw [Function.update_self] at habsent
        cases habsent
      · rwa [Function.update_of_ne hu] at habsent
  · exact hS.keeps he hS.alone rfl (fun _ _ _ h _ => h) fun _ h => h

theorem Converges.removed (hS : Converges wanted u run S) (uuid : UUID) :
    Converges wanted u (run ++ [.removed uuid]) (S.asyncTearDown uuid) := by
  have he : ∀ thread info, ReadersEvent.removed uuid = .discovered thread info → info.uuid ≠ u :=
    fun _ _ h => nomatch h
  unfold asyncTearDown
  split
  · refine hS.keeps he hS.alone rfl (fun info kind _ h _ => ?_) fun hne habsent => ?_
    · cases kind with
      | recordDiscovery | updateIdentity => exact h
      | castDiscovered =>
        intro own hown
        dsimp only at hown
        by_cases hu : u = uuid
        · subst hu
          rw [Function.update_self] at hown
          cases hown
        · rw [Function.update_of_ne hu] at hown
          exact h own hown
    · dsimp only at habsent
      rwa [Function.update_of_ne fun hu => hne (by rw [hu])] at habsent
  · exact hS.keeps he hS.alone rfl (fun _ _ _ h _ => h) fun _ h => h

theorem Converges.posts (hS : Converges wanted u run S) (thread : DiscoveryThread) :
    Converges wanted u (run ++ [.posts thread]) (S.post thread) := by
  obtain ⟨hway, halone⟩ := underWay_posts hS.alone thread
  have hdevice : (S.post thread).device = S.device := by
    unfold post
    split <;> rfl
  refine hS.keeps (fun _ _ h => nomatch h) halone hway (fun info kind _ h _ => ?_) fun _ h => ?_
  · unfold post
    split
    · exact h
    · cases kind <;> exact h
  · rwa [hdevice] at h

theorem Converges.step (hS : Converges wanted u run S) {e : ReadersEvent} (he : Orderly u S e) :
    Converges wanted u (run ++ [e]) (S.step wanted e).1 := by
  cases e with
  | discovered thread info =>
    by_cases hu : info.uuid = u
    · exact hS.discovered hu he
    · have halone := alone_discovered hS.alone he
      refine hS.keeps ?_ halone (underWay_discovered_of_ne hu) (fun _ kind _ h _ => ?_)
        fun _ h => h
      · rintro _ _ ⟨⟩
        exact hu
      · cases kind <;> exact h
  | posts thread => exact hS.posts thread
  | runs env => exact hS.runs env
  | addedToHass env uuid entityId => exact hS.addedToHass env uuid entityId he
  | removed uuid => exact hS.removed uuid

theorem converges_start (wanted : UUID → Bool) (u : UUID) : Converges wanted u [] {} where
  alone := ⟨.zeroconf, fun _ h => nomatch h⟩
  inTurn := trivial
  eventually _ _ h := nomatch h
  present _ _ h := absurd rfl h

/-- **The readers agree.** In a run whose steps are orderly for a device, once nothing about it is
under way, the tracker, the ledger and the device itself have the last record that was discovered
of it. There is such a device, unless it is not wanted or has been removed. -/
theorem readers_agree {wanted : UUID → Bool} {u : UUID} {run : List ReadersEvent}
    {info : DiscoveryRecord} (horderly : Machine.Along (step wanted) (Orderly u) {} run)
    (hlatest : latest u run = some info)
    (hidle : (Machine.final (step wanted) {} run).underWay u = []) :
    (∀ kind, (Machine.final (step wanted) {} run).Knows u info kind) ∧
      ((Machine.final (step wanted) {} run).device u = .absent →
        wanted u = false ∨ .removed u ∈ run) := by
  have hfinal : Converges wanted u run (Machine.final (step wanted) {} run) :=
    Machine.history_of_along (fun _ _ _ hS he => hS.step he) (converges_start wanted u) horderly
  constructor
  · intro kind
    obtain ⟨-, hknows⟩ := hfinal.eventually info kind hlatest
    rw [hidle] at hknows
    exact hknows rfl
  · intro habsent
    by_contra hnot
    obtain ⟨hwanted, hremoved⟩ := not_or.mp hnot
    obtain ⟨call, hcall, -⟩ := hfinal.present (by simpa using hwanted) hremoved
      (by rw [hlatest]; exact Option.some_ne_none info) habsent
    rw [hidle] at hcall
    cases hcall

/-- A speaker, at one address and then at another. -/
def speakerAt (host : String) : DiscoveryRecord where
  castInfo :=
    { uuid := ⟨1⟩, friendlyName := some "Kitchen", host := some host, port := 8009,
      castType := some "audio" }

/-- The speaker is discovered, added and discovered at its new address by the other thread. -/
def speakerMoves : List ReadersEvent :=
  [.discovered .zeroconf (speakerAt "10.0.0.2"), .posts .zeroconf, .posts .zeroconf,
    .posts .zeroconf, .runs (.bare 0), .runs (.bare 0), .runs (.bare 0),
    .addedToHass (.bare 1) ⟨1⟩ "media_player.kitchen",
    .discovered .hostBrowser (speakerAt "10.0.0.3"), .posts .hostBrowser, .posts .hostBrowser,
    .posts .hostBrowser, .runs (.bare 2), .runs (.bare 2), .runs (.bare 2)]

/-- `readers_agree` where a speaker moves. -/
theorem readers_agree_speakerMoves :
    (∀ kind, (Machine.final (step fun _ => true) {} speakerMoves).Knows ⟨1⟩
      (speakerAt "10.0.0.3") kind) ∧
      ((Machine.final (step fun _ => true) {} speakerMoves).device ⟨1⟩ = .absent →
        true = false ∨ .removed ⟨1⟩ ∈ speakerMoves) :=
  readers_agree (by decide) (by decide) (by decide)

-- the calls of two threads alternate: the ledger keeps the old address
example :
    let run := [.discovered .zeroconf (speakerAt "10.0.0.2"),
      .discovered .hostBrowser (speakerAt "10.0.0.3"), .posts .zeroconf, .posts .hostBrowser,
      .posts .hostBrowser, .posts .zeroconf, .runs (.bare 0), .runs (.bare 0), .runs (.bare 0),
      .runs (.bare 0)]
    ((Machine.final (step fun _ => true) {} run).tracker.infos.get? ⟨1⟩,
      ((Machine.final (step fun _ => true) {} run).ledger.health ⟨1⟩).host) =
      (some (speakerAt "10.0.0.3"), some "10.0.0.2") := by decide

end DiscoveryReaders
end CastDelivery
