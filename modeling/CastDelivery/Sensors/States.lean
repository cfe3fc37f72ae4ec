import CastDelivery.Health.Untouched
import CastDelivery.Sensors.Board

/-!
# The states of the health sensors

What Home Assistant shows of a sensor is the state of its last write, and what the sensor would show
by now may be another.

* `state_fresh`: a last-success sensor and the leader sensor of a tracked group always show the
  current state.
* `outcome_state`: what an outcome sensor shows is current but for a circuit that was switched
  right after the last write, an address that discovery has changed since, and an override of
  options that have not been applied yet.
-/

namespace CastDelivery

open Json

namespace SensorBoard

variable {B : SensorBoard} {env : Env} {d : UUID} {w : StateWrite}

/-! ## What is not written -/

/-- Two health objects of which an outcome sensor shows the same but for the address. -/
structure SameEvidence (h g : DeviceHealth) : Prop where
  lastOutcome : g.lastOutcome = h.lastOutcome
  lastRecord : g.lastRecord = h.lastRecord
  consecutiveFailures : g.consecutiveFailures = h.consecutiveFailures
  consecutiveTimeouts : g.consecutiveTimeouts = h.consecutiveTimeouts
  circuitOpenUntil : g.circuitOpenUntil = h.circuitOpenUntil
  subnetMismatch : g.subnetMismatch = h.subnetMismatch

theorem SameEvidence.refl (h : DeviceHealth) : SameEvidence h h := ⟨rfl, rfl, rfl, rfl, rfl, rfl⟩

theorem SameEvidence.trans {h g k : DeviceHealth} (h₁ : SameEvidence h g)
    (h₂ : SameEvidence g k) : SameEvidence h k where
  lastOutcome := h₂.lastOutcome.trans h₁.lastOutcome
  lastRecord := h₂.lastRecord.trans h₁.lastRecord
  consecutiveFailures := h₂.consecutiveFailures.trans h₁.consecutiveFailures
  consecutiveTimeouts := h₂.consecutiveTimeouts.trans h₁.consecutiveTimeouts
  circuitOpenUntil := h₂.circuitOpenUntil.trans h₁.circuitOpenUntil
  subnetMismatch := h₂.subnetMismatch.trans h₁.subnetMismatch

theorem account_placement (h : DeviceHealth) (r : DeliveryRecord) :
    ((h.account r).subnetMismatch, (h.account r).host, (h.account r).port) =
      (h.subnetMismatch, h.host, h.port) := by
  unfold DeviceHealth.account DeviceHealth.setLast DeviceHealth.count
  split_ifs <;> rfl

/-- The placement of a device is changed by no call but one that names its address. -/
theorem placement_step (L : DeliveryLedger) {c : Call}
    (hrestore : ∀ u stamp, c.op ≠ .restoreLastSuccess u stamp) (d : UUID) :
    ((L.step c).1.health d).subnetMismatch = (L.health d).subnetMismatch ∧
      (¬ c.op.Identifies d → ((L.step c).1.health d).host = (L.health d).host ∧
        ((L.step c).1.health d).port = (L.health d).port) := by
  by_cases hidentity : ∃ u entityId name host port seen,
      c.op = .updateIdentity u entityId name host port seen
  · obtain ⟨u, entityId, name, host, port, seen, hop⟩ := hidentity
    obtain ⟨env, op⟩ := c
    obtain rfl : op = _ := hop
    have hhealth : ((L.asyncUpdateIdentity env u entityId name host port seen).health d) = _ :=
      DeliveryLedger.health_store _ _ _
    simp only [DeliveryLedger.uuid_health] at hhealth
    show ((L.asyncUpdateIdentity env u entityId name host port seen).health d).subnetMismatch = _ ∧
      (_ → ((L.asyncUpdateIdentity env u entityId name host port seen).health d).host = _ ∧
        ((L.asyncUpdateIdentity env u entityId name host port seen).health d).port = _)
    rw [hhealth]
    split
    · next hd =>
      refine ⟨by rw [hd], fun hnot => absurd ⟨entityId, name, host, port, seen, ?_⟩ hnot⟩
      rw [hd]
    · exact ⟨rfl, fun _ => ⟨rfl, rfl⟩⟩
  · have huntouched : DeliveryLedger.Untouched fun h : DeviceHealth =>
        (h.subnetMismatch, h.host, h.port) := ⟨account_placement, fun _ _ _ => rfl⟩
    have hread := DeliveryLedger.readsAlike_step huntouched L
      (fun u entityId name host port seen hop =>
        hidentity ⟨u, entityId, name, host, port, seen, hop⟩) hrestore d
    rw [Prod.mk.injEq, Prod.mk.injEq] at hread
    exact ⟨hread.1, fun _ => hread.2⟩

/-- What a call without a record leaves of a device. -/
theorem sameRecord_of_begun {ls : List Listener} {h g : DeviceHealth} {es : List Effect}
    (hstep : DeviceStep env ls none h g es) (hes : ∀ e ∈ es, ∃ uuid q, e = .begun uuid q) :
    g.lastOutcome = h.lastOutcome ∧ g.lastRecord = h.lastRecord ∧
      g.lastSuccess = h.lastSuccess ∧ g.consecutiveFailures = h.consecutiveFailures ∧
      g.consecutiveTimeouts = h.consecutiveTimeouts := by
  have hrecorded (k : DeviceHealth) (r : DeliveryRecord) (q : Option Request) :
      ¬ ∀ e ∈ recorded ls k r q, ∃ uuid q', e = .begun uuid q' := by
    intro hall
    obtain ⟨_, _, hbegun⟩ := hall (.fired r) (by simp [recorded])
    cases hbegun
  induction hstep with
  | quiet same =>
    exact ⟨same.lastOutcome, same.lastRecord, same.lastSuccess, same.consecutiveFailures,
      same.consecutiveTimeouts⟩
  | restore fresh => exact ⟨rfl, rfl, fresh.symm, rfl, rfl⟩
  | note => exact absurd hes (hrecorded _ _ _)
  | resolve => exact absurd hes (hrecorded _ _ _)
  | start => exact ⟨rfl, rfl, rfl, rfl, rfl⟩
  | seq _ _ ih ih' =>
    obtain ⟨h1, h2, h3, h4, h5⟩ := ih fun e he => hes e (List.mem_append_left _ he)
    obtain ⟨k1, k2, k3, k4, k5⟩ := ih' fun e he => hes e (List.mem_append_right _ he)
    exact ⟨k1.trans h1, k2.trans h2, k3.trans h3, k4.trans h4, k5.trans h5⟩

/-- A call leaves what the sensors show of a device alone, or it writes all its sensors. -/
theorem call_silent (B : SensorBoard) (c : LedgerCall) (d : UUID) :
    (B.call c.toCall).2 = (B.withLedger (B.hub.ledger.step c.toCall).1).healthUpdated d ∨
      (SameEvidence (B.health d) ((B.call c.toCall).1.health d) ∧
        ((B.call c.toCall).1.health d).lastSuccess = (B.health d).lastSuccess) := by
  have hplacement := (placement_step B.hub.ledger c.notRestored d).1
  have hstamp : c.op.restored d = none := by
    cases hop : c.op with
    | restoreLastSuccess u stamp => exact absurd hop (c.notRestored u stamp)
    | _ => rfl
  have hstep := B.hub.ledger.step_device c.toCall d
  rw [hstamp] at hstep
  -- without a record about the device the listeners do not touch its circuit either
  have hsilent (hbegun : ∀ e ∈ (B.hub.ledger.step c.toCall).2.filter (Effect.about d),
      ∃ uuid q, e = .begun uuid q) :
      SameEvidence (B.health d) ((B.call c.toCall).1.health d) ∧
        ((B.call c.toCall).1.health d).lastSuccess = (B.health d).lastSuccess := by
    obtain ⟨houtcome, hrecord, hsuccess, hfailures, htimeouts⟩ := sameRecord_of_begun hstep hbegun
    have hcircuit : ((B.hub.call c.toCall).1.ledger.health d).circuitOpenUntil =
        (B.hub.ledger.health d).circuitOpenUntil := by
      refine Hub.circuit_call_of_none fun e he => ?_
      by_contra hassigned
      obtain ⟨value, hvalue⟩ := Option.ne_none_iff_exists'.mp hassigned
      obtain ⟨h, r, rfl, hd, -⟩ := Hub.assigned_eq_some.mp hvalue
      obtain ⟨_, _, hnot⟩ := hbegun _ (List.mem_filter.mpr ⟨he, decide_eq_true hd⟩)
      cases hnot
    rw [call_fst]
    obtain ⟨circuit, hcall⟩ := B.hub.health_call c.toCall d
    rw [hcall] at hcircuit
    have hhealth : ({ B with hub := (B.hub.call c.toCall).1 } : SensorBoard).health d = _ := hcall
    rw [hhealth]
    exact ⟨⟨houtcome, hrecord, hfailures, htimeouts, hcircuit, hplacement⟩, hsuccess⟩
  rcases B.call_snd c.toCall with ⟨-, hbegun⟩ | ⟨h, r, q, hmem, hwrites⟩
  · exact .inr (hsilent fun e he => hbegun e (List.mem_filter.mp he).1)
  · by_cases hd : h.uuid = d
    · exact .inl (hd ▸ hwrites)
    · -- all effects of a call are about one device, and this one is about another
      refine .inr (hsilent ?_)
      have hsignal : Effect.dispatched h.uuid ∈ (B.hub.ledger.step c.toCall).2 :=
        hmem _ (by simp [recorded])
      have hnone : (B.hub.ledger.step c.toCall).2.filter (Effect.about d) = [] := by
        cases hu : c.op.uuid? with
        | none =>
          rw [(DeliveryLedger.step_global (L := B.hub.ledger) hu d).1]
          rfl
        | some u =>
          have hacts := DeliveryLedger.actsOn_step (L := B.hub.ledger) hu
          have huuid : h.uuid = u := hacts.about _ hsignal
          exact hacts.filter_other fun hdu => hd (huuid.trans hdu.symm)
      rw [hnone]
      exact fun e he => absurd he List.not_mem_nil

/-- A sensor is added with a write. -/
theorem added_of_silent (B : SensorBoard) (e : SensorEvent) {sensor : SensorEntity}
    (hsilent : writesOf sensor (B.step e).2 = []) (hadded : sensor ∈ (B.step e).1.added) :
    sensor ∈ B.added := by
  cases e with
  | called c =>
    have hmem : sensor ∈ (B.call c.toCall).1.added := hadded
    rw [call_added] at hmem
    exact hmem
  | refreshed reading =>
    have hmem : sensor ∈ (B.refresh reading).1.added := hadded
    rw [refresh_added] at hmem
    exact hmem
  | addedToHass other restored =>
    have hmem : sensor ∈ (B.asyncAddedToHass other restored).1.added := hadded
    have hnone : writesOf sensor (B.asyncAddedToHass other restored).2 = [] := hsilent
    rcases B.asyncAddedToHass_eq other restored with ⟨-, hsame⟩ | ⟨-, ledger, hnew, -⟩
    · rw [hsame] at hmem
      exact hmem
    · rw [hnew] at hmem hnone
      rcases List.mem_append.mp hmem with hold | hlast
      · exact hold
      · rw [List.mem_singleton.mp hlast] at hnone
        exact absurd (decide_eq_true rfl)
          (List.filter_eq_nil_iff.mp hnone _ (List.mem_singleton_self _))
  | removed other => exact (List.mem_filter.mp hadded).1
  | discovered | optionsStored | configEntryUpdated => exact hadded

/-- An event that does not write a sensor of a device leaves what it shows of the health alone,
but for the address. -/
theorem sameEvidence_of_silent (B : SensorBoard) (e : SensorEvent) {sensor : SensorEntity}
    (hadded : sensor ∈ B.added) (hkind : sensor.kind ≠ .groupLeader)
    (hsilent : writesOf sensor (B.step e).2 = []) :
    SameEvidence (B.health sensor.uuid) ((B.step e).1.health sensor.uuid) ∧
      (sensor.kind = .lastSuccess →
        ((B.step e).1.health sensor.uuid).lastSuccess = (B.health sensor.uuid).lastSuccess) := by
  cases e with
  | called c =>
    rcases B.call_silent c sensor.uuid with hwrites | ⟨hevidence, hsuccess⟩
    · have hnone : writesOf sensor (B.call c.toCall).2 = [] := hsilent
      rw [hwrites] at hnone
      have hmem := mem_healthUpdated (B := B.withLedger (B.hub.ledger.step c.toCall).1)
        |>.mpr ⟨sensor, hadded, rfl, hkind, rfl⟩
      exact absurd (decide_eq_true rfl) (List.filter_eq_nil_iff.mp hnone _ hmem)
    · exact ⟨hevidence, fun _ => hsuccess⟩
  | refreshed reading =>
    have hloop := (List.append_eq_nil_iff.mp
      ((List.filter_append _ _).symm.trans hsilent)).1
    have hsame := health_final_applyMismatch
      (B := { B with topology := B.topology.asyncRefresh reading }) hadded hkind hloop
    have hhealth : (B.refresh reading).1.health sensor.uuid = B.health sensor.uuid := hsame
    show SameEvidence _ ((B.refresh reading).1.health _) ∧
      (_ → ((B.refresh reading).1.health _).lastSuccess = _)
    rw [hhealth]
    exact ⟨.refl _, fun _ => rfl⟩
  | addedToHass other restored =>
    have hnone : writesOf sensor (B.asyncAddedToHass other restored).2 = [] := hsilent
    show SameEvidence _ ((B.asyncAddedToHass other restored).1.health _) ∧
      (_ → ((B.asyncAddedToHass other restored).1.health _).lastSuccess = _)
    rcases B.asyncAddedToHass_eq other restored with ⟨-, hsame⟩ | ⟨hother, ledger, hnew, hhealth⟩
    · rw [hsame]
      exact ⟨.refl _, fun _ => rfl⟩
    · obtain ⟨success, hd, hsuccess⟩ := hhealth sensor.uuid
      rw [hnew]
      show SameEvidence _ (ledger.health sensor.uuid) ∧
        (_ → (ledger.health sensor.uuid).lastSuccess = _)
      rw [hd]
      refine ⟨⟨rfl, rfl, rfl, rfl, rfl, rfl⟩, fun hlast => hsuccess ?_⟩
      -- the sensor is not the one that is added now
      rintro rfl
      obtain ⟨kind, uuid⟩ := sensor
      obtain rfl : kind = .lastSuccess := hlast
      exact hother hadded
  | discovered | optionsStored | configEntryUpdated | removed => exact ⟨.refl _, fun _ => rfl⟩

/-- The address of a device is changed by the calls that name it. -/
theorem address_step (B : SensorBoard) (e : SensorEvent) (d : UUID)
    (hidentifies : ¬ e.Identifies d) :
    ((B.step e).1.health d).host = (B.health d).host ∧
      ((B.step e).1.health d).port = (B.health d).port := by
  cases e with
  | called c =>
    obtain ⟨circuit, hcall⟩ := B.health_call c.toCall d
    have haddress := (placement_step B.hub.ledger c.notRestored d).2 hidentifies
    show ((B.call c.toCall).1.health d).host = _ ∧ ((B.call c.toCall).1.health d).port = _
    rw [hcall]
    exact haddress
  | refreshed reading =>
    obtain ⟨ledger, hfst, hhealth⟩ := B.refresh_fst reading
    obtain ⟨mismatch, hd⟩ := hhealth d
    show ((B.refresh reading).1.health d).host = _ ∧ ((B.refresh reading).1.health d).port = _
    rw [hfst]
    show (ledger.health d).host = _ ∧ (ledger.health d).port = _
    rw [hd]
    exact ⟨rfl, rfl⟩
  | addedToHass other restored =>
    show ((B.asyncAddedToHass other restored).1.health d).host = _ ∧
      ((B.asyncAddedToHass other restored).1.health d).port = _
    rcases B.asyncAddedToHass_eq other restored with ⟨-, hsame⟩ | ⟨-, ledger, hnew, hhealth⟩
    · rw [hsame]
      exact ⟨rfl, rfl⟩
    · obtain ⟨success, hd, -⟩ := hhealth d
      rw [hnew]
      show (ledger.health d).host = _ ∧ (ledger.health d).port = _
      rw [hd]
      exact ⟨rfl, rfl⟩
  | discovered | optionsStored | configEntryUpdated | removed => exact ⟨rfl, rfl⟩

/-- The overrides are changed with the options alone. -/
theorem urlOverrides_step (B : SensorBoard) (e : SensorEvent)
    (hoptions : ¬ e.StoresOptions) :
    (B.step e).1.urlOverrides = B.urlOverrides := by
  cases e with
  | called c => exact call_urlOverrides c.toCall
  | refreshed reading => exact refresh_urlOverrides reading
  | addedToHass other restored => exact asyncAddedToHass_urlOverrides other restored
  | optionsStored options urlOverrides => exact absurd trivial hoptions
  | discovered | configEntryUpdated | removed => rfl

/-- A group that is tracked after an event that does not write its leader sensor was there before,
as it is. -/
theorem group_of_silent (B : SensorBoard) (e : SensorEvent)
    (hadded : ⟨.groupLeader, d⟩ ∈ B.added)
    (hsilent : writesOf ⟨.groupLeader, d⟩ (B.step e).2 = [])
    (htracked : ((B.step e).1.topology.groups.get? d).isSome = true) :
    (B.step e).1.topology.groups.get? d = B.topology.groups.get? d := by
  cases e with
  | called c =>
    exact congrArg (fun T => TopologyTracker.groups T |>.get? d) (call_topology c.toCall)
  | refreshed reading =>
    -- the signal of a tracked group writes its leader sensor
    have hsignal := (List.append_eq_nil_iff.mp ((List.filter_append _ _).symm.trans hsilent)).2
    have hkey : d ∈ (B.refresh reading).1.topology.groups.keys := (Dict.mem_keys _ d).mpr htracked
    have hmem : ⟨.groupLeader, d⟩ ∈ (B.refresh reading).1.added := by
      rw [refresh_added]
      exact hadded
    have hwrite := List.mem_flatMap.mpr ⟨d, hkey,
      mem_topologyUpdated.mpr ⟨⟨.groupLeader, d⟩, hmem, rfl, rfl, rfl⟩⟩
    exact absurd (decide_eq_true rfl) (List.filter_eq_nil_iff.mp hsignal _ hwrite)
  | addedToHass other restored =>
    exact congrArg (fun T => TopologyTracker.groups T |>.get? d)
      (asyncAddedToHass_topology other restored)
  | discovered | optionsStored | configEntryUpdated | removed => rfl

/-! ## The attributes of an outcome sensor -/

theorem lookup_cons_congr {β : Type*} {key k : String} {v v' : β} {l l' : List (String × β)}
    (hv : key = k → v = v') (hl : l.lookup key = l'.lookup key) :
    ((k, v) :: l).lookup key = ((k, v') :: l').lookup key := by
  rw [List.lookup_cons, List.lookup_cons, hl]
  split
  · next hk => rw [hv (eq_of_beq hk)]
  · rfl

/-- What an attribute of an outcome sensor depends on. -/
theorem stateAttribute_congr {override override' : Option String} {h g : DeviceHealth}
    {key : String} (hrecord : g.lastRecord = h.lastRecord)
    (hfailures : g.consecutiveFailures = h.consecutiveFailures)
    (htimeouts : g.consecutiveTimeouts = h.consecutiveTimeouts)
    (hmismatch : g.subnetMismatch = h.subnetMismatch)
    (hcircuit : key = "circuit_open" → g.circuitOpenUntil.isSome = h.circuitOpenUntil.isSome)
    (hoverride : key = "url_override" → override' = override)
    (hhost : key = "host" → g.host = h.host) (hport : key = "port" → g.port = h.port) :
    CastOutcomeSensor.stateAttribute override' g key =
      CastOutcomeSensor.stateAttribute override h key := by
  unfold CastOutcomeSensor.stateAttribute CastOutcomeSensor.extraStateAttributes
  rw [List.lookup_append, List.lookup_append, hrecord, hfailures, htimeouts, hmismatch]
  congr 1
  refine lookup_cons_congr (fun _ => rfl) (lookup_cons_congr (fun _ => rfl)
    (lookup_cons_congr (fun hkey => ?_) (lookup_cons_congr (fun _ => rfl)
      (lookup_cons_congr (fun hkey => ?_) (lookup_cons_congr (fun hkey => ?_)
        (lookup_cons_congr (fun hkey => ?_) rfl))))))
  · rw [hcircuit hkey]
  · rw [hoverride hkey]
  · rw [hhost hkey]
  · rw [hport hkey]

theorem stateAttribute_circuit (override : Option String) (h : DeviceHealth) :
    CastOutcomeSensor.stateAttribute override h "circuit_open" =
      some (bool h.circuitOpenUntil.isSome) := rfl

/-! ## The last write of a sensor -/

variable {start : SensorBoard} {run before after : List SensorEvent} {e : SensorEvent}
  {sensor : SensorEntity} {written : SensorState}

/-- `e` is the last event of a run in which a sensor wrote its state, and Home Assistant shows the
state it wrote. -/
structure LastWrite (start : SensorBoard) (run : List SensorEvent) (sensor : SensorEntity)
    (written : SensorState) (before : List SensorEvent) (e : SensorEvent)
    (after : List SensorEvent) : Prop where
  run_eq : run = before ++ e :: after
  wrote : lastWritten sensor (step (Machine.final step start before) e).2 = some written
  silent : writesOf sensor
    (Machine.emitted step (step (Machine.final step start before) e).1 after) = []
  shows : lastWritten sensor (Machine.emitted step start run) = some written

/-- The steps after the last write of a sensor. -/
def Silent (sensor : SensorEntity) (B : SensorBoard) (e : SensorEvent) : Prop :=
  sensor ∈ B.added ∧ writesOf sensor (B.step e).2 = []

/-- A sensor that was added wrote its state. -/
theorem exists_lastWrite (hnew : start.added = [])
    (hadded : sensor ∈ (Machine.final step start run).added) :
    ∃ before e after written, LastWrite start run sensor written before e after ∧
      Machine.Along step (Silent sensor) (step (Machine.final step start before) e).1 after := by
  obtain ⟨before, e, after, w, hrun, hwrote, hshows, hafter⟩ :=
    Machine.exists_last_output (P := fun B : SensorBoard => sensor ∈ B.added)
      (p := fun w : StateWrite => w.sensor = sensor)
      (fun (B : SensorBoard) e hsilent hmem => B.added_of_silent e hsilent hmem)
      (by rw [hnew]; exact List.not_mem_nil) hadded
  refine ⟨before, e, after, w.state, ⟨hrun, ?_, ?_, ?_⟩, hafter⟩
  · exact congrArg (Option.map StateWrite.state) hwrote
  · exact Machine.filter_emitted_eq_nil hafter
  · exact congrArg (Option.map StateWrite.state) hshows

/-- The state that was written last, by what the sensor showed after that event. -/
theorem LastWrite.written_eq (h : LastWrite start run sensor written before e after) :
    written = ((step (Machine.final step start before) e).1.withCircuit sensor.uuid
      ((Machine.final step start before).health sensor.uuid).circuitOpenUntil).shown sensor := by
  obtain ⟨w, hlast, rfl⟩ := Option.map_eq_some_iff.mp h.wrote
  obtain ⟨hmem, hsensor⟩ := List.mem_filter.mp (List.mem_of_getLast? hlast)
  obtain rfl : w.sensor = sensor := of_decide_eq_true hsensor
  exact congrArg StateWrite.state (write_state _ e hmem)

/-- **The fresh sensors.** In every run, Home Assistant shows of a last-success sensor and of the
leader sensor of a tracked group what they would show now. -/
theorem state_fresh (hnew : start.added = [])
    (hadded : sensor ∈ (Machine.final step start run).added) (hkind : sensor.kind ≠ .outcome)
    (htracked : sensor.kind = .groupLeader →
      ((Machine.final step start run).topology.groups.get? sensor.uuid).isSome = true) :
    lastWritten sensor (Machine.emitted step start run) =
      some ((Machine.final step start run).shown sensor) := by
  obtain ⟨before, e, after, written, hlast, hafter⟩ := exists_lastWrite hnew hadded
  rw [hlast.shows, hlast.written_eq]
  congr 1
  have hfinal : Machine.final step start run =
      Machine.final step (step (Machine.final step start before) e).1 after := by
    rw [hlast.run_eq, Machine.final_append, Machine.final_cons]
  rw [hfinal] at htracked ⊢
  generalize (step (Machine.final step start before) e).1 = C at hafter htracked ⊢
  generalize ((Machine.final step start before).health sensor.uuid).circuitOpenUntil = circuit
  obtain ⟨kind, d⟩ := sensor
  cases kind with
  | outcome => exact absurd rfl hkind
  | lastSuccess =>
    have hsuccess : ((Machine.final step C after).health d).lastSuccess =
        (C.health d).lastSuccess :=
      Machine.final_of_along (P := fun D => (D.health d).lastSuccess = (C.health d).lastSuccess)
        (fun D i hD hi =>
          ((D.sameEvidence_of_silent i hi.1 (by simp) hi.2).2 rfl).trans hD) rfl hafter
    show SensorState.mk (ofStamp ((C.withCircuit d circuit).health d).lastSuccess) [] =
      SensorState.mk (ofStamp ((Machine.final step C after).health d).lastSuccess) []
    rw [health_withCircuit, hsuccess]
  | groupLeader =>
    -- as long as the group is tracked no refresh went by without a write
    have hgroup := Machine.final_of_along (P := fun D : SensorBoard =>
        (D.topology.groups.get? d).isSome = true →
          D.topology.groups.get? d = C.topology.groups.get? d)
      (fun D i hD hi htracked =>
        have hstep := D.group_of_silent i hi.1 hi.2 htracked
        hstep.trans (hD (hstep ▸ htracked))) (fun _ => rfl) hafter (htracked rfl)
    show SensorState.mk _ _ = SensorState.mk _ _
    rw [hgroup]
    rfl

/-- A speaker group is discovered, its leader sensor is added, and the topology is refreshed. -/
def tracksGroup : List SensorEvent :=
  [.discovered ⟨⟨⟨7⟩, none, some "Downstairs", some "10.0.0.5", 42000, some "group", none⟩, none⟩,
    .addedToHass ⟨.groupLeader, ⟨7⟩⟩ none, .refreshed ⟨none, none, none, none⟩]

theorem state_fresh_tracksGroup :
    lastWritten ⟨.groupLeader, ⟨7⟩⟩ (Machine.emitted step {} tracksGroup) =
      some ((Machine.final step {} tracksGroup).shown ⟨.groupLeader, ⟨7⟩⟩) :=
  state_fresh rfl (by decide) (by decide) fun _ => by rfl

/-- The event changed whether the circuit of a device is open. -/
def Switches (d : UUID) (B : SensorBoard) (e : SensorEvent) : Prop :=
  ((B.step e).1.health d).circuitOpenUntil.isSome ≠ (B.health d).circuitOpenUntil.isSome

/-- Why an outcome sensor may still show an attribute that is no longer current: its last write,
in `e`, came before the circuit was switched, or the attribute was changed after it. -/
inductive Outdated (d : UUID) (B : SensorBoard) (e : SensorEvent) (after : List SensorEvent) :
    String → Prop
  | circuit (h : Switches d B e) : Outdated d B e after "circuit_open"
  | host (h : ∃ i ∈ after, i.Identifies d) : Outdated d B e after "host"
  | port (h : ∃ i ∈ after, i.Identifies d) : Outdated d B e after "port"
  | urlOverride (h : ∃ i ∈ after, i.StoresOptions) : Outdated d B e after "url_override"

/-- Without a call that names it, a device keeps its address over a run. -/
theorem address_final (C : SensorBoard) {d : UUID} (h : ¬ ∃ i ∈ after, i.Identifies d) :
    ((Machine.final step C after).health d).host = (C.health d).host ∧
      ((Machine.final step C after).health d).port = (C.health d).port :=
  Machine.final_of_along
    (P := fun D : SensorBoard =>
      (D.health d).host = (C.health d).host ∧ (D.health d).port = (C.health d).port)
    (fun D i hD hi =>
      have hstep := D.address_step i d hi
      ⟨hstep.1.trans hD.1, hstep.2.trans hD.2⟩) ⟨rfl, rfl⟩
    (Machine.along_of_forall fun i hi hidentifies => h ⟨i, hi, hidentifies⟩)

theorem urlOverrides_final (C : SensorBoard) (h : ¬ ∃ i ∈ after, i.StoresOptions) :
    (Machine.final step C after).urlOverrides = C.urlOverrides :=
  Machine.final_of_along (P := fun D : SensorBoard => D.urlOverrides = C.urlOverrides)
    (fun D i hD hi => (D.urlOverrides_step i hi).trans hD) rfl
    (Machine.along_of_forall fun i hi hoptions => h ⟨i, hi, hoptions⟩)

/-- **The outcome sensor.** In every run, Home Assistant shows of an outcome sensor the current
state, and of its attributes the current ones apart from those that are outdated. Its
`circuit_open` is wrong if and only if the event of the last write opened or closed the circuit. -/
theorem outcome_state (hnew : start.added = []) {d : UUID}
    (hadded : ⟨.outcome, d⟩ ∈ (Machine.final step start run).added) :
    ∃ before e after written, LastWrite start run ⟨.outcome, d⟩ written before e after ∧
      written.nativeValue = ((Machine.final step start run).shown ⟨.outcome, d⟩).nativeValue ∧
      (∀ key, written.attribute key ≠
          ((Machine.final step start run).shown ⟨.outcome, d⟩).attribute key →
        Outdated d (Machine.final step start before) e after key) ∧
      (written.attribute "circuit_open" ≠
          ((Machine.final step start run).shown ⟨.outcome, d⟩).attribute "circuit_open" ↔
        Switches d (Machine.final step start before) e) := by
  obtain ⟨before, e, after, written, hlast, hafter⟩ := exists_lastWrite hnew hadded
  refine ⟨before, e, after, written, hlast, ?_⟩
  have hfinal : Machine.final step start run =
      Machine.final step (step (Machine.final step start before) e).1 after := by
    rw [hlast.run_eq, Machine.final_append, Machine.final_cons]
  have hwritten := hlast.written_eq
  rw [hfinal]
  -- `B` is the board before the last write and `C` the one after it
  generalize Machine.final step start before = B at hafter hwritten ⊢
  have hevidence : SameEvidence ((step B e).1.health d)
      ((Machine.final step (step B e).1 after).health d) :=
    Machine.final_of_along (P := fun D => SameEvidence ((step B e).1.health d) (D.health d))
      (fun D i hD hi => hD.trans (D.sameEvidence_of_silent i hi.1 (by simp) hi.2).1) (.refl _)
      hafter
  have hcircuit : ((Machine.final step (step B e).1 after).health d).circuitOpenUntil.isSome =
      ((step B e).1.health d).circuitOpenUntil.isSome :=
    congrArg Option.isSome hevidence.circuitOpenUntil
  have hattribute (key : String) : written.attribute key =
      CastOutcomeSensor.stateAttribute ((step B e).1.urlOverrides.get? d)
        { (step B e).1.health d with circuitOpenUntil := (B.health d).circuitOpenUntil } key := by
    rw [hwritten, ← health_withCircuit]
    rfl
  have hlive (key : String) :
      ((Machine.final step (step B e).1 after).shown ⟨.outcome, d⟩).attribute key =
        CastOutcomeSensor.stateAttribute
          ((Machine.final step (step B e).1 after).urlOverrides.get? d)
          ((Machine.final step (step B e).1 after).health d) key := rfl
  refine ⟨?_, fun key hne => ?_, ?_⟩
  · have houtcome := congrArg (fun outcome : DeliveryOutcome => str outcome.value)
      hevidence.lastOutcome
    rw [hwritten]
    show str (CastOutcomeSensor.nativeValue (((step B e).1.withCircuit d _).health d)) = _
    rw [health_withCircuit]
    exact houtcome.symm
  · by_contra hcurrent
    refine hne ?_
    rw [hattribute, hlive]
    refine Eq.symm (stateAttribute_congr ?_ ?_ ?_ ?_ ?_ ?_ ?_ ?_)
    · exact hevidence.lastRecord
    · exact hevidence.consecutiveFailures
    · exact hevidence.consecutiveTimeouts
    · exact hevidence.subnetMismatch
    · rintro rfl
      by_contra hswitched
      exact hcurrent (.circuit fun hsame => hswitched (hcircuit.trans hsame))
    · rintro rfl
      rw [urlOverrides_final _ fun h => hcurrent (.urlOverride h)]
    · rintro rfl
      exact (address_final _ fun h => hcurrent (.host h)).1
    · rintro rfl
      exact (address_final _ fun h => hcurrent (.port h)).2
  · rw [hattribute, hlive, stateAttribute_circuit, stateAttribute_circuit, hcircuit]
    unfold Switches
    rw [not_iff_not, Option.some.injEq, Json.bool.injEq]
    exact eq_comm

/-- Two probes of a speaker hang. The second timeout opens the circuit. -/
def hungProbes : List SensorEvent :=
  [.called ⟨⟨Env.bare 0, .addListener .circuitBreaker⟩, by simp⟩,
    .addedToHass ⟨.outcome, ⟨1⟩⟩ none,
    .called ⟨⟨Env.bare 0, .beginRequest ⟨1⟩ "http://ha/clip" .probe none 30⟩, by simp⟩,
    .called ⟨⟨Env.bare 30, .expire ⟨⟨1⟩, 0, 30⟩⟩, by simp⟩,
    .called ⟨⟨Env.bare 900, .beginRequest ⟨1⟩ "http://ha/clip" .probe none 30⟩, by simp⟩,
    .called ⟨⟨Env.bare 930, .expire ⟨⟨1⟩, 1, 30⟩⟩, by simp⟩]

theorem outcome_state_hungProbes :
    ∃ before e after written, LastWrite {} hungProbes ⟨.outcome, ⟨1⟩⟩ written before e after ∧
      written.nativeValue =
        ((Machine.final step {} hungProbes).shown ⟨.outcome, ⟨1⟩⟩).nativeValue ∧
      (∀ key, written.attribute key ≠
          ((Machine.final step {} hungProbes).shown ⟨.outcome, ⟨1⟩⟩).attribute key →
        Outdated ⟨1⟩ (Machine.final step {} before) e after key) ∧
      (written.attribute "circuit_open" ≠
          ((Machine.final step {} hungProbes).shown ⟨.outcome, ⟨1⟩⟩).attribute "circuit_open" ↔
        Switches ⟨1⟩ (Machine.final step {} before) e) :=
  outcome_state rfl (by decide)

-- the circuit is open, and Home Assistant shows that it is not
example : ((Machine.final step {} hungProbes).shown ⟨.outcome, ⟨1⟩⟩).attribute "circuit_open" =
    some (bool true) := by rfl

example : (lastWritten ⟨.outcome, ⟨1⟩⟩ (Machine.emitted step {} hungProbes)).bind
    (fun state => state.attribute "circuit_open") = some (bool false) := by rfl

end SensorBoard
end CastDelivery
