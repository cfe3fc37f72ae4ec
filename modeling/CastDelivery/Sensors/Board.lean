import CastDelivery.Hub.Circuit
import CastDelivery.Sensor
import CastDelivery.Topology.Order

/-!
# The health sensors and what they write

The sensors of `sensor.py` are not polled. Home Assistant shows the state that a sensor wrote last:
one when it is added, and one at every `SIGNAL_HEALTH_UPDATED` of its device, for a group leader
at every `SIGNAL_TOPOLOGY_UPDATED`.

A step of `SensorBoard.step` is a callback of the event loop; its outputs are the states it writes.
`write_state` says what these are. `_append` sends the signal before it calls the listeners, so the
circuit that an outcome sensor writes is the one before the coordinator hears of the record.
-/

namespace CastDelivery

open Json

/-! ## The sensors -/

/-- The classes of sensors. -/
inductive SensorKind
  | outcome
  | lastSuccess
  | groupLeader
deriving DecidableEq, Repr

/-- A sensor entity. -/
structure SensorEntity where
  kind : SensorKind
  uuid : UUID
deriving DecidableEq, Repr

/-- What a sensor writes to the state machine. -/
structure SensorState where
  nativeValue : Json
  attributes : List (String × Json)

/-- A state attribute. -/
def SensorState.attribute (state : SensorState) (key : String) : Option Json :=
  state.attributes.lookup key

/-- A call of `async_write_ha_state`. -/
structure StateWrite where
  sensor : SensorEntity
  state : SensorState

/-- A call of a method of the ledger. What the last-success sensor restores is no such call. -/
structure LedgerCall extends Call where
  notRestored : ∀ uuid stamp, op ≠ .restoreLastSuccess uuid stamp

namespace CastGroupLeaderSensor

/-- `native_value`. -/
def nativeValue (group : Option GroupTopology) : Option String :=
  group.bind GroupTopology.leaderIp

/-- `extra_state_attributes`. -/
def extraStateAttributes (group : Option GroupTopology) : List (String × Json) :=
  match group.map GroupTopology.asDict with
  | some (obj data) =>
    data.filter fun field => !List.contains ["uuid", "name", "leader_ip"] field.1
  | _ => []

end CastGroupLeaderSensor

/-! ## One set-up of the entry -/

/-- What the sensors read of a set-up, and the sensors themselves. -/
structure SensorBoard where
  hub : Hub := {}
  topology : TopologyTracker := {}
  /-- The options of the entry that the coordinator reads. -/
  options : StoredOptions := {}
  /-- `url_overrides(entry)`. -/
  urlOverrides : Dict UUID String := ∅
  /-- The sensors that Home Assistant has. -/
  added : List SensorEntity := []

/-- What the event loop may run. -/
inductive SensorEvent
  | called (c : LedgerCall)
  /-- `async_record_discovery`. -/
  | discovered (info : DiscoveryRecord)
  /-- `async_refresh`, from the network on. -/
  | refreshed (reading : NetworkReading)
  /-- The entry is given other options. -/
  | optionsStored (options : StoredOptions) (urlOverrides : Dict UUID String)
  /-- The update listener of the entry, some time after that. -/
  | configEntryUpdated
  /-- A sensor is added. A last-success sensor finds a value to restore, or none. -/
  | addedToHass (sensor : SensorEntity) (restored : Option DateTime)
  | removed (sensor : SensorEntity)

/-- The call names what discovery knows of a device, with its address. -/
def Op.Identifies (op : Op) (d : UUID) : Prop :=
  ∃ entityId name host port seen, op = .updateIdentity d entityId name host port seen

/-- The event is a call that names the address of a device. -/
def SensorEvent.Identifies (d : UUID) : SensorEvent → Prop
  | .called c => c.op.Identifies d
  | _ => False

/-- The event gives the entry other options. -/
def SensorEvent.StoresOptions : SensorEvent → Prop
  | .optionsStored _ _ => True
  | _ => False

namespace SensorBoard

/-- The same with another ledger. -/
def withLedger (B : SensorBoard) (ledger : DeliveryLedger) : SensorBoard :=
  { B with hub := { B.hub with ledger := ledger } }

/-- The health object of a device. -/
def health (B : SensorBoard) (uuid : UUID) : DeviceHealth := B.hub.ledger.health uuid

/-- What a sensor shows now. -/
def shown (B : SensorBoard) (sensor : SensorEntity) : SensorState :=
  match sensor.kind with
  | .outcome =>
    ⟨str (CastOutcomeSensor.nativeValue (B.health sensor.uuid)),
      CastOutcomeSensor.extraStateAttributes (B.urlOverrides.get? sensor.uuid)
        (B.health sensor.uuid)⟩
  | .lastSuccess => ⟨ofStamp (B.health sensor.uuid).lastSuccess, []⟩
  | .groupLeader =>
    let group := B.topology.groups.get? sensor.uuid
    ⟨ofString (CastGroupLeaderSensor.nativeValue group),
      CastGroupLeaderSensor.extraStateAttributes group⟩

/-- `async_write_ha_state`. -/
def write (B : SensorBoard) (sensor : SensorEntity) : StateWrite := ⟨sensor, B.shown sensor⟩

/-- `SIGNAL_HEALTH_UPDATED` of a device. -/
def healthUpdated (B : SensorBoard) (uuid : UUID) : List StateWrite :=
  (B.added.filter fun sensor => sensor.uuid = uuid ∧ sensor.kind ≠ .groupLeader).map B.write

/-- `SIGNAL_TOPOLOGY_UPDATED` of a group. -/
def topologyUpdated (B : SensorBoard) (uuid : UUID) : List StateWrite :=
  (B.added.filter fun sensor => sensor.uuid = uuid ∧ sensor.kind = .groupLeader).map B.write

/-- What becomes of an effect of a ledger call. -/
def runEffect (env : Env) (B : SensorBoard) : Effect → SensorBoard × List StateWrite
  | .dispatched uuid => (B, B.healthUpdated uuid)
  | e => ({ B with hub := B.hub.runListener env e }, [])

/-- A call of the ledger, with its signal and its listeners. A call appends at most one record, and
what it does to a request after that no sensor shows. -/
def call (B : SensorBoard) (c : Call) : SensorBoard × List StateWrite :=
  let r := B.hub.ledger.step c
  (Machine.final (runEffect c.env) (B.withLedger r.1) r.2,
    Machine.emitted (runEffect c.env) (B.withLedger r.1) r.2)

/-- A turn of the loop of `_apply_subnet_mismatch`. -/
def applyMismatch (B : SensorBoard) (entry : UUID × DiscoveryRecord) :
    SensorBoard × List StateWrite :=
  let mismatch := B.topology.mismatchOf entry.2.castInfo.host
  let ledger := B.hub.ledger.device entry.1
  let health := ledger.health entry.1
  if health.subnetMismatch = mismatch then (B.withLedger ledger, [])
  else
    let B := B.withLedger (ledger.store { health with subnetMismatch := mismatch })
    (B, B.healthUpdated entry.1)

/-- `async_refresh`. -/
def refresh (B : SensorBoard) (reading : NetworkReading) : SensorBoard × List StateWrite :=
  let B := { B with topology := B.topology.asyncRefresh reading }
  let applied := Machine.final applyMismatch B B.topology.infos.entries
  (applied, Machine.emitted applyMismatch B B.topology.infos.entries ++
    applied.topology.groups.keys.flatMap applied.topologyUpdated)

/-- `config_entry_updated`. -/
def configEntryUpdated (B : SensorBoard) : SensorBoard × List StateWrite :=
  let B := { B with hub := { B.hub with options := probeOptions B.options } }
  (B, B.hub.ledger.devices.dict.keys.flatMap B.healthUpdated)

/-- `async_added_to_hass` and the first write. A sensor that is there already is not added. -/
def asyncAddedToHass (B : SensorBoard) (sensor : SensorEntity) (restored : Option DateTime) :
    SensorBoard × List StateWrite :=
  if B.added.contains sensor then (B, [])
  else
    let ledger := match sensor.kind with
      | .outcome => B.hub.ledger.device sensor.uuid
      | .lastSuccess => B.hub.ledger.restoreLastSuccess sensor.uuid restored
      | .groupLeader => B.hub.ledger
    let B := { B.withLedger ledger with added := B.added ++ [sensor] }
    (B, [B.write sensor])

/-- One callback. -/
def step (B : SensorBoard) : SensorEvent → SensorBoard × List StateWrite
  | .called c => B.call c.toCall
  | .discovered info => ({ B with topology := B.topology.asyncRecordDiscovery info }, [])
  | .refreshed reading => B.refresh reading
  | .optionsStored options urlOverrides =>
    ({ B with options := options, urlOverrides := urlOverrides }, [])
  | .configEntryUpdated => B.configEntryUpdated
  | .addedToHass sensor restored => B.asyncAddedToHass sensor restored
  | .removed sensor => ({ B with added := B.added.filter fun other => other ≠ sensor }, [])

/-- The writes of a sensor. -/
def writesOf (sensor : SensorEntity) (writes : List StateWrite) : List StateWrite :=
  writes.filter fun w => w.sensor = sensor

/-- The state of a sensor in Home Assistant. -/
def lastWritten (sensor : SensorEntity) (writes : List StateWrite) : Option SensorState :=
  (writesOf sensor writes).getLast?.map StateWrite.state

/-! ## What a callback leaves alone -/

variable {B : SensorBoard} {env : Env} {d : UUID} {w : StateWrite}

@[simp] theorem health_withLedger (B : SensorBoard) (ledger : DeliveryLedger) (d : UUID) :
    (B.withLedger ledger).health d = ledger.health d := rfl

theorem mem_healthUpdated {uuid : UUID} : w ∈ B.healthUpdated uuid ↔
    ∃ sensor ∈ B.added, sensor.uuid = uuid ∧ sensor.kind ≠ .groupLeader ∧ B.write sensor = w := by
  simp [healthUpdated, and_assoc]

theorem mem_topologyUpdated {uuid : UUID} : w ∈ B.topologyUpdated uuid ↔
    ∃ sensor ∈ B.added, sensor.uuid = uuid ∧ sensor.kind = .groupLeader ∧ B.write sensor = w := by
  simp [topologyUpdated, and_assoc]

/-- The effects of a call change the hub alone, as its listeners do. -/
theorem final_runEffect (env : Env) (B : SensorBoard) (es : List Effect) :
    Machine.final (runEffect env) B es = { B with hub := B.hub.runListeners env es } := by
  induction es generalizing B with
  | nil => rfl
  | cons e es ih =>
    have hfirst : (runEffect env B e).1 = { B with hub := B.hub.runListener env e } := by
      cases e <;> rfl
    rw [Machine.final_cons, hfirst, ih]
    rfl

theorem call_fst (B : SensorBoard) (c : Call) :
    (B.call c).1 = { B with hub := (B.hub.call c).1 } := final_runEffect c.env _ _

@[simp] theorem call_topology (c : Call) : (B.call c).1.topology = B.topology := by rw [call_fst]

@[simp] theorem call_urlOverrides (c : Call) : (B.call c).1.urlOverrides = B.urlOverrides := by
  rw [call_fst]

@[simp] theorem call_added (c : Call) : (B.call c).1.added = B.added := by rw [call_fst]

/-- Nothing is written but at a signal. -/
theorem emitted_runEffect_of_forall {es : List Effect} (h : ∀ e ∈ es, ∀ uuid, e ≠ .dispatched uuid)
    (B : SensorBoard) : Machine.emitted (runEffect env) B es = [] := by
  induction es generalizing B with
  | nil => rfl
  | cons e es ih =>
    have hfirst : (runEffect env B e).2 = [] := by
      cases e with
      | dispatched uuid => exact absurd rfl (h _ List.mem_cons_self uuid)
      | _ => rfl
    rw [Machine.emitted_cons, hfirst, ih fun e he => h e (List.mem_cons_of_mem _ he)]
    rfl

/-- The signal of a record comes before its listeners. -/
theorem emitted_runEffect_recorded (env : Env) (B : SensorBoard) (ls : List Listener)
    (h : DeviceHealth) (r : DeliveryRecord) (q : Option Request) (es : List Effect)
    (hes : ∀ e ∈ es, ∀ uuid, e ≠ .dispatched uuid) :
    Machine.emitted (runEffect env) B (recorded ls h r q ++ es) = B.healthUpdated h.uuid := by
  have hrest : ∀ e ∈ (ls.map fun l => Effect.called l h r) ++ es, ∀ uuid,
      e ≠ .dispatched uuid := by
    intro e he uuid
    rcases List.mem_append.mp he with hcalled | hlast
    · obtain ⟨l, -, rfl⟩ := List.mem_map.mp hcalled
      exact Effect.noConfusion
    · exact hes e hlast uuid
  have hfirst : Machine.emitted (runEffect env) B
      [.appended r q, .fired r, .dispatched h.uuid] = B.healthUpdated h.uuid := List.append_nil _
  have hsame : Machine.final (runEffect env) B
      [.appended r q, .fired r, .dispatched h.uuid] = B := rfl
  unfold recorded
  rw [List.append_assoc, Machine.emitted_append, hfirst, hsame, emitted_runEffect_of_forall hrest,
    List.append_nil]

/-- **What a call writes**: nothing, if it appends no record, or the sensors of the device of its
record, with the ledger after the call and before the listeners. -/
theorem call_snd (B : SensorBoard) (c : Call) :
    ((B.call c).2 = [] ∧ ∀ e ∈ (B.hub.ledger.step c).2, ∃ uuid q, e = .begun uuid q) ∨
      ∃ h r q, (∀ e ∈ recorded B.hub.ledger.listeners h r q, e ∈ (B.hub.ledger.step c).2) ∧
        (B.call c).2 = (B.withLedger (B.hub.ledger.step c).1).healthUpdated h.uuid := by
  have hemits := B.hub.ledger.emits_step c
  unfold call
  generalize c.op = op at hemits
  generalize B.hub.ledger.step c = r at hemits ⊢
  obtain ⟨ledger, es⟩ := r
  cases hemits with
  | silent => exact .inl ⟨rfl, fun e he => absurd he List.not_mem_nil⟩
  | record op h r q =>
    refine .inr ⟨h, r, q, fun e he => he, ?_⟩
    have hnone : ∀ e ∈ ([] : List Effect), ∀ uuid, e ≠ .dispatched uuid := by simp
    have hwrites := emitted_runEffect_recorded c.env (B.withLedger ledger)
      B.hub.ledger.listeners h r q [] hnone
    rw [List.append_nil] at hwrites
    exact hwrites
  | begin u contentId source session timeout =>
    exact .inl ⟨rfl, fun e he => ⟨u, _, List.mem_singleton.mp he⟩⟩
  | supersede u contentId source session timeout hs h r q =>
    refine .inr ⟨h, r, q, fun e he => List.mem_append_left _ he, ?_⟩
    refine emitted_runEffect_recorded c.env (B.withLedger ledger) B.hub.ledger.listeners h r q
      _ fun e he uuid => ?_
    rw [List.mem_singleton.mp he]
    exact Effect.noConfusion

/-- Another circuit for a device. -/
def withCircuit (B : SensorBoard) (uuid : UUID) (circuit : Option Monotonic) : SensorBoard :=
  B.withLedger (Hub.assignCircuit B.hub.ledger uuid circuit)

theorem health_withCircuit (B : SensorBoard) (uuid : UUID) (circuit : Option Monotonic) :
    (B.withCircuit uuid circuit).health uuid =
      { B.health uuid with circuitOpenUntil := circuit } := by
  show (Hub.assignCircuit B.hub.ledger uuid circuit).health uuid = _
  rw [Hub.health_assignCircuit, if_pos rfl]
  rfl

/-- A sensor reads the health of its device, its override and its group. -/
theorem shown_congr {C : SensorBoard} (sensor : SensorEntity)
    (hhealth : C.health sensor.uuid = B.health sensor.uuid)
    (hoverride : C.urlOverrides = B.urlOverrides) (htopology : C.topology = B.topology) :
    C.shown sensor = B.shown sensor := by
  unfold shown
  rw [hhealth, hoverride, htopology]

/-- The listeners of a call change at most the circuit, and the call itself does not. -/
theorem health_call (B : SensorBoard) (c : Call) (d : UUID) :
    ∃ circuit, (B.call c).1.health d =
      { (B.hub.ledger.step c).1.health d with circuitOpenUntil := circuit } := by
  rw [call_fst]
  exact B.hub.health_call c d

/-! ## The subnets -/

section Subnets

variable (B : SensorBoard) (entry : UUID × DiscoveryRecord)

theorem applyMismatch_fst : ∃ ledger, (B.applyMismatch entry).1 = B.withLedger ledger ∧
    ∀ d, ledger.health d = DiagnosticsState.mismatched B.topology d (B.health d) entry := by
  unfold applyMismatch DiagnosticsState.mismatched
  simp only
  split
  · next hsame =>
    refine ⟨_, rfl, fun d => ?_⟩
    rw [DeliveryLedger.health_device] at hsame ⊢
    split
    · next hd => rw [hd, ← hsame]; rfl
    · rfl
  · exact ⟨_, rfl, fun d => DiagnosticsState.health_setMismatch _ _ _ _⟩

/-- A turn writes sensors of its device, as they are after it. -/
theorem mem_applyMismatch (hw : w ∈ (B.applyMismatch entry).2) :
    w.sensor.uuid = entry.1 ∧ w = (B.applyMismatch entry).1.write w.sensor := by
  unfold applyMismatch at hw ⊢
  simp only at hw ⊢
  split at hw
  · cases hw
  · next hne =>
    rw [if_neg hne]
    obtain ⟨sensor, -, huuid, -, rfl⟩ := mem_healthUpdated.mp hw
    exact ⟨huuid, rfl⟩

/-- A turn that does not write a sensor of its device leaves the device as it is. -/
theorem applyMismatch_silent {sensor : SensorEntity} (hadded : sensor ∈ B.added)
    (huuid : sensor.uuid = entry.1) (hkind : sensor.kind ≠ .groupLeader)
    (hsilent : writesOf sensor (B.applyMismatch entry).2 = []) :
    (B.applyMismatch entry).1.health entry.1 = B.health entry.1 := by
  unfold applyMismatch at hsilent ⊢
  simp only at hsilent ⊢
  split at hsilent
  · next hsame =>
    rw [if_pos hsame]
    exact DeliveryLedger.health_device _ _ _
  · have hwrite := List.filter_eq_nil_iff.mp hsilent _
      (mem_healthUpdated.mpr ⟨sensor, hadded, huuid, hkind, rfl⟩)
    exact absurd (decide_eq_true rfl) hwrite

variable (entries : List (UUID × DiscoveryRecord))

theorem applyMismatch_added : (B.applyMismatch entry).1.added = B.added := by
  obtain ⟨ledger, hledger, -⟩ := B.applyMismatch_fst entry
  rw [hledger]
  rfl

/-- The loop changes the ledger alone. -/
theorem final_applyMismatch : ∃ ledger,
    Machine.final applyMismatch B entries = B.withLedger ledger ∧ ∀ d,
      ledger.health d = entries.foldl (DiagnosticsState.mismatched B.topology d) (B.health d) := by
  induction entries generalizing B with
  | nil => exact ⟨B.hub.ledger, rfl, fun _ => rfl⟩
  | cons entry entries ih =>
    obtain ⟨ledger, hfirst, hturn⟩ := B.applyMismatch_fst entry
    obtain ⟨last, hlast, hrest⟩ := ih (B.withLedger ledger)
    refine ⟨last, ?_, fun d => ?_⟩
    · rw [Machine.final_cons, hfirst, hlast]
      rfl
    · rw [hrest d, List.foldl_cons, ← hturn d]
      rfl

variable {B entries}

/-- **The writes of the loop.** Every device has its turn once. So what is written there is what
the sensors show after the loop. -/
theorem mem_emitted_applyMismatch (hnodup : (entries.map Prod.fst).Nodup)
    (hw : w ∈ Machine.emitted applyMismatch B entries) :
    w = (Machine.final applyMismatch B entries).write w.sensor := by
  induction entries generalizing B with
  | nil => cases hw
  | cons entry entries ih =>
    obtain ⟨hfirst, hrest⟩ := List.nodup_cons.mp hnodup
    rw [Machine.emitted_cons, List.mem_append] at hw
    rw [Machine.final_cons]
    rcases hw with hw | hw
    · obtain ⟨huuid, hwrite⟩ := B.mem_applyMismatch entry hw
      -- the later turns are about other devices
      have hothers : ∀ e ∈ entries, e.1 ≠ w.sensor.uuid := by
        intro e he heq
        rw [← huuid, ← heq] at hfirst
        exact hfirst (List.mem_map_of_mem he)
      obtain ⟨ledger, hfinal, hhealth⟩ := (B.applyMismatch entry).1.final_applyMismatch entries
      have hsame : ((B.applyMismatch entry).1.withLedger ledger).health w.sensor.uuid =
          (B.applyMismatch entry).1.health w.sensor.uuid :=
        (hhealth _).trans (DiagnosticsState.foldl_mismatched_of_forall hothers _)
      rw [hfinal]
      calc w = (B.applyMismatch entry).1.write w.sensor := hwrite
        _ = ((B.applyMismatch entry).1.withLedger ledger).write w.sensor :=
          congrArg (StateWrite.mk w.sensor) (shown_congr w.sensor hsame rfl rfl).symm
    · exact ih hrest hw

/-- A loop that does not write a sensor leaves the health of its device as it is. -/
theorem health_final_applyMismatch {sensor : SensorEntity} (hadded : sensor ∈ B.added)
    (hkind : sensor.kind ≠ .groupLeader)
    (hsilent : writesOf sensor (Machine.emitted applyMismatch B entries) = []) :
    (Machine.final applyMismatch B entries).health sensor.uuid = B.health sensor.uuid := by
  induction entries generalizing B with
  | nil => rfl
  | cons entry entries ih =>
    unfold writesOf at hsilent
    rw [Machine.emitted_cons, List.filter_append, List.append_eq_nil_iff] at hsilent
    rw [Machine.final_cons, ih (B.applyMismatch_added entry ▸ hadded) hsilent.2]
    by_cases huuid : sensor.uuid = entry.1
    · rw [huuid]
      exact B.applyMismatch_silent entry hadded huuid hkind hsilent.1
    · obtain ⟨ledger, hledger, hhealth⟩ := B.applyMismatch_fst entry
      rw [hledger]
      exact (hhealth sensor.uuid).trans (if_neg huuid)

end Subnets

/-! ## What is written -/

/-- A refresh changes the topology and, in the ledger, mismatches. -/
theorem refresh_fst (B : SensorBoard) (reading : NetworkReading) :
    ∃ ledger, (B.refresh reading).1 =
        { B.withLedger ledger with topology := B.topology.asyncRefresh reading } ∧
      ∀ d, ∃ mismatch, ledger.health d = { B.health d with subnetMismatch := mismatch } := by
  obtain ⟨ledger, hfinal, hhealth⟩ := final_applyMismatch
    { B with topology := B.topology.asyncRefresh reading }
    (B.topology.asyncRefresh reading).infos.entries
  refine ⟨ledger, hfinal, fun d => ?_⟩
  rw [hhealth d, DiagnosticsState.foldl_mismatched _ (Dict.nodup _)]
  cases (B.topology.asyncRefresh reading).infos.entries.find? fun entry => entry.1 = d with
  | none => exact ⟨_, rfl⟩
  | some entry => exact ⟨_, rfl⟩

@[simp] theorem refresh_topology (reading : NetworkReading) :
    (B.refresh reading).1.topology = B.topology.asyncRefresh reading := by
  obtain ⟨ledger, hfst, -⟩ := B.refresh_fst reading
  rw [hfst]

@[simp] theorem refresh_urlOverrides (reading : NetworkReading) :
    (B.refresh reading).1.urlOverrides = B.urlOverrides := by
  obtain ⟨ledger, hfst, -⟩ := B.refresh_fst reading
  rw [hfst]
  rfl

@[simp] theorem refresh_added (reading : NetworkReading) :
    (B.refresh reading).1.added = B.added := by
  obtain ⟨ledger, hfst, -⟩ := B.refresh_fst reading
  rw [hfst]
  rfl

theorem health_restoreLastSuccess (L : DeliveryLedger) (uuid : UUID) (stamp : Option DateTime)
    (d : UUID) : ∃ success, (L.restoreLastSuccess uuid stamp).health d =
        { L.health d with lastSuccess := success } ∧
      (d ≠ uuid → success = (L.health d).lastSuccess) := by
  unfold DeliveryLedger.restoreLastSuccess
  simp only [DeliveryLedger.health_device]
  split
  · exact ⟨_, DeliveryLedger.health_device L uuid d, fun _ => rfl⟩
  · rw [DeliveryLedger.health_store, DeliveryLedger.health_device]
    split
    · next hd =>
      rw [DeliveryLedger.uuid_health] at hd
      exact ⟨stamp, by rw [hd], fun hne => absurd hd hne⟩
    · exact ⟨_, rfl, fun _ => rfl⟩

/-- A sensor that is added writes itself. It changes at most the last success of its device. -/
theorem asyncAddedToHass_eq (B : SensorBoard) (sensor : SensorEntity)
    (restored : Option DateTime) :
    (sensor ∈ B.added ∧ B.asyncAddedToHass sensor restored = (B, [])) ∨
      (sensor ∉ B.added ∧ ∃ ledger, B.asyncAddedToHass sensor restored =
          ({ B.withLedger ledger with added := B.added ++ [sensor] },
            [{ B.withLedger ledger with added := B.added ++ [sensor] }.write sensor]) ∧
        ∀ d, ∃ success, ledger.health d = { B.health d with lastSuccess := success } ∧
          (⟨.lastSuccess, d⟩ ≠ sensor → success = (B.health d).lastSuccess)) := by
  unfold asyncAddedToHass
  split
  · next hmem => exact .inl ⟨List.contains_iff_mem.mp hmem, rfl⟩
  · next hmem =>
    refine .inr ⟨fun h => hmem (List.contains_iff_mem.mpr h), _, rfl, fun d => ?_⟩
    obtain ⟨kind, uuid⟩ := sensor
    cases kind with
    | outcome => exact ⟨_, DeliveryLedger.health_device _ _ _, fun _ => rfl⟩
    | lastSuccess =>
      obtain ⟨success, hd, hother⟩ := health_restoreLastSuccess B.hub.ledger uuid restored d
      refine ⟨success, hd, fun hne => hother ?_⟩
      rintro rfl
      exact hne rfl
    | groupLeader => exact ⟨_, rfl, fun _ => rfl⟩

@[simp] theorem asyncAddedToHass_topology (sensor : SensorEntity) (restored : Option DateTime) :
    (B.asyncAddedToHass sensor restored).1.topology = B.topology := by
  unfold asyncAddedToHass
  split <;> rfl

@[simp] theorem asyncAddedToHass_urlOverrides (sensor : SensorEntity)
    (restored : Option DateTime) :
    (B.asyncAddedToHass sensor restored).1.urlOverrides = B.urlOverrides := by
  unfold asyncAddedToHass
  split <;> rfl

/-- **What is written** is what the sensor shows when the callback is over, with the circuit of
before: the listeners of a record come after its signal. -/
theorem write_state (B : SensorBoard) (e : SensorEvent) (hw : w ∈ (B.step e).2) :
    w = ((B.step e).1.withCircuit w.sensor.uuid (B.health w.sensor.uuid).circuitOpenUntil).write
      w.sensor := by
  -- it is enough to compare the health object of the sensor's device
  have hcircuit (C D : SensorBoard) (hwrite : w = C.write w.sensor)
      (hhealth : { D.health w.sensor.uuid with
        circuitOpenUntil := (B.health w.sensor.uuid).circuitOpenUntil } = C.health w.sensor.uuid)
      (hoverride : D.urlOverrides = C.urlOverrides) (htopology : D.topology = C.topology) :
      w = (D.withCircuit w.sensor.uuid (B.health w.sensor.uuid).circuitOpenUntil).write
        w.sensor := by
    have hsame := (health_withCircuit D _ _).trans hhealth
    exact hwrite.trans
      (congrArg (StateWrite.mk w.sensor) (shown_congr w.sensor hsame hoverride htopology).symm)
  have hfresh (C : SensorBoard) (hwrite : w = C.write w.sensor)
      (hkept : (C.health w.sensor.uuid).circuitOpenUntil =
        (B.health w.sensor.uuid).circuitOpenUntil) :
      w = (C.withCircuit w.sensor.uuid (B.health w.sensor.uuid).circuitOpenUntil).write
        w.sensor := hcircuit C C hwrite (by rw [← hkept]) rfl rfl
  cases e with
  | called c =>
    rcases B.call_snd c.toCall with ⟨hnone, -⟩ | ⟨h, r, q, -, hwrites⟩
    · have hmem : w ∈ (B.call c.toCall).2 := hw
      rw [hnone] at hmem
      cases hmem
    · have hmem : w ∈ (B.call c.toCall).2 := hw
      rw [hwrites] at hmem
      obtain ⟨sensor, -, -, -, rfl⟩ := mem_healthUpdated.mp hmem
      obtain ⟨circuit, hcall⟩ := B.health_call c.toCall sensor.uuid
      have hkept := B.hub.ledger.circuit_step c.toCall sensor.uuid
      refine hcircuit (B.withLedger (B.hub.ledger.step c.toCall).1) (B.call c.toCall).1 rfl ?_ ?_ ?_
      · show { (B.call c.toCall).1.health sensor.uuid with
          circuitOpenUntil := (B.hub.ledger.health sensor.uuid).circuitOpenUntil } = _
        rw [hcall, ← hkept]
        rfl
      · exact call_urlOverrides c.toCall
      · exact call_topology c.toCall
  | discovered info => cases hw
  | refreshed reading =>
    obtain ⟨ledger, hfst, hhealth⟩ := B.refresh_fst reading
    refine hfresh (B.refresh reading).1 ?_ ?_
    · rcases List.mem_append.mp hw with hloop | hsignal
      · exact mem_emitted_applyMismatch (B.topology.asyncRefresh reading).infos.nodup hloop
      · obtain ⟨group, -, hmem⟩ := List.mem_flatMap.mp hsignal
        obtain ⟨sensor, -, -, -, rfl⟩ := mem_topologyUpdated.mp hmem
        rfl
    · obtain ⟨mismatch, hd⟩ := hhealth w.sensor.uuid
      have hkept := congrArg DeviceHealth.circuitOpenUntil hd
      rw [hfst]
      exact hkept
  | optionsStored options urlOverrides => cases hw
  | configEntryUpdated =>
    obtain ⟨uuid, -, hmem⟩ := List.mem_flatMap.mp hw
    obtain ⟨sensor, -, -, -, rfl⟩ := mem_healthUpdated.mp hmem
    exact hfresh B.configEntryUpdated.1 rfl rfl
  | addedToHass sensor restored =>
    rcases B.asyncAddedToHass_eq sensor restored with ⟨-, hsame⟩ | ⟨-, ledger, hnew, hhealth⟩
    · have hmem : w ∈ (B.asyncAddedToHass sensor restored).2 := hw
      rw [hsame] at hmem
      cases hmem
    · have hmem : w ∈ (B.asyncAddedToHass sensor restored).2 := hw
      show w = ((B.asyncAddedToHass sensor restored).1.withCircuit _ _).write _
      rw [hnew] at hmem ⊢
      have hwrite : w = _ := List.mem_singleton.mp hmem
      refine hfresh _ ?_ ?_
      · rw [hwrite]
        rfl
      · obtain ⟨success, hd, -⟩ := hhealth w.sensor.uuid
        have hkept := congrArg DeviceHealth.circuitOpenUntil hd
        exact hkept
  | removed sensor => cases hw

end SensorBoard
end CastDelivery
