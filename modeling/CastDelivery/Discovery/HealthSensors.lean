import CastDelivery.Discovery.Propagation
import CastDelivery.Repairs

/-!
# The sensors of the discovered devices

The sensor platform adds the sensors of a device with the first record it accepts.
`health_sensors`: they have unique ids, whatever is discovered on the two threads and in whatever
order the event loop runs their calls.
-/

namespace CastDelivery

/-! ## Unique ids -/

theorem UUID.length_str (u : UUID) : u.str.toList.length = 36 := by
  unfold UUID.str
  rw [String.toList_ofList, List.length_flatMap]
  have hlen : ∀ k, (if k ∈ [8, 12, 16, 20] then ['-', u.digit k] else [u.digit k]).length =
      if k ∈ [8, 12, 16, 20] then 2 else 1 := fun k => by split <;> rfl
  simp only [hlen]
  decide

theorem HealthSensor.uniqueId_inj {s t : HealthSensor} (h : s.uniqueId = t.uniqueId) :
    s.info.uuid = t.info.uuid ∧ s.key = t.key := by
  have hlist := congrArg String.toList h
  unfold uniqueId at hlist
  simp only [String.toList_append, List.append_assoc] at hlist
  obtain ⟨huuid, hrest⟩ := List.append_inj hlist
    ((UUID.length_str s.info.uuid).trans (UUID.length_str t.info.uuid).symm)
  exact ⟨UUID.str_inj (String.toList_inj.mp huuid),
    String.toList_inj.mp (List.append_cancel_left hrest)⟩

theorem info_of_mem {info : DiscoveryRecord} {sensor : HealthSensor}
    (h : sensor ∈ healthSensors info) : sensor.info = info := by
  unfold healthSensors at h
  simp only [List.mem_append, List.mem_cons, List.not_mem_nil, or_false] at h
  rcases h with (rfl | rfl) | h
  · rfl
  · rfl
  · split at h
    · exact (List.mem_singleton.mp h) ▸ rfl
    · cases h

/-- The sensors of distinct devices have distinct ids. -/
theorem nodup_uniqueId {infos : List DiscoveryRecord}
    (h : (infos.map DiscoveryRecord.uuid).Nodup) :
    ((infos.flatMap healthSensors).map HealthSensor.uniqueId).Nodup := by
  rw [List.map_flatMap, List.nodup_flatMap]
  constructor
  · intro info _
    have hkeys : ((healthSensors info).map HealthSensor.key).Nodup := by
      unfold healthSensors
      split <;> simp
    rw [List.Nodup, List.pairwise_map] at hkeys ⊢
    exact hkeys.imp fun hne hid => hne (HealthSensor.uniqueId_inj hid).2
  · rw [List.Nodup, List.pairwise_map] at h
    refine h.imp fun hne id hid hid' => ?_
    obtain ⟨s, hs, rfl⟩ := List.mem_map.mp hid
    obtain ⟨t, ht, hst⟩ := List.mem_map.mp hid'
    obtain ⟨huuid, -⟩ := HealthSensor.uniqueId_inj hst
    rw [info_of_mem hs, info_of_mem ht] at huuid
    exact hne huuid.symm

theorem filter_healthSensors (info : DiscoveryRecord) (u : UUID) :
    ((healthSensors info).filter fun sensor => sensor.info.uuid = u) =
      if info.uuid = u then healthSensors info else [] := by
  split
  · next hu =>
    exact List.filter_eq_self.mpr fun sensor hs => by rw [info_of_mem hs]; exact decide_eq_true hu
  · next hu =>
    exact List.filter_eq_nil_iff.mpr fun sensor hs => by rw [info_of_mem hs]; simpa using hu

/-- The sensors of one of the devices are those of its record. -/
theorem filter_flatMap_healthSensors {infos : List DiscoveryRecord}
    (h : (infos.map DiscoveryRecord.uuid).Nodup) {info : DiscoveryRecord} (hinfo : info ∈ infos) :
    ((infos.flatMap healthSensors).filter fun sensor => sensor.info.uuid = info.uuid) =
      healthSensors info := by
  induction infos with
  | nil => cases hinfo
  | cons first rest ih =>
    obtain ⟨hfirst, hrest⟩ := List.nodup_cons.mp h
    rw [List.flatMap_cons, List.filter_append, filter_healthSensors]
    rcases List.mem_cons.mp hinfo with rfl | hmem
    · have hnone : ((rest.flatMap healthSensors).filter fun sensor =>
          sensor.info.uuid = info.uuid) = [] := by
        refine List.filter_eq_nil_iff.mpr fun sensor hs => ?_
        obtain ⟨other, hother, hsensor⟩ := List.mem_flatMap.mp hs
        rw [info_of_mem hsensor]
        have hne : other.uuid ≠ info.uuid := fun hu => hfirst (List.mem_map.mpr ⟨other, hother, hu⟩)
        simpa using hne
      rw [if_pos rfl, hnone, List.append_nil]
    · have hne : first.uuid ≠ info.uuid := fun hu => hfirst (List.mem_map.mpr ⟨info, hmem, hu.symm⟩)
      rw [if_neg hne, List.nil_append, ih hrest hmem]

namespace DiscoveryReaders

/-- The sensor platform accepts a record. -/
def Accepts (wanted : UUID → Bool) (info : DiscoveryRecord) : Prop :=
  wanted info.uuid = true ∧ info.isDynamicGroup ≠ some true

/-- A record was discovered. -/
def Discovered (run : List ReadersEvent) (info : DiscoveryRecord) : Prop :=
  ∃ thread, .discovered thread info ∈ run

/-- The calls that have not run yet. -/
def calls (S : DiscoveryReaders) : List LoopCall :=
  S.ready ++ S.posts .zeroconf ++ S.posts .hostBrowser

/-- The sensors that a run adds, and what is to come. -/
structure Senses (wanted : UUID → Bool) (run : List ReadersEvent) (S : DiscoveryReaders)
    (sensors : List HealthSensor) (infos : List DiscoveryRecord) : Prop where
  sensors_eq : sensors = infos.flatMap healthSensors
  added : infos.map DiscoveryRecord.uuid = S.addedHealth
  nodup : S.addedHealth.Nodup
  accepted : ∀ info ∈ infos, Accepts wanted info ∧ Discovered run info
  calls : ∀ call ∈ S.calls, Discovered run call.info
  covered : ∀ info, Discovered run info → Accepts wanted info →
    info.uuid ∈ S.addedHealth ∨ ⟨.castDiscovered, info⟩ ∈ S.calls

variable {wanted : UUID → Bool} {run : List ReadersEvent} {S : DiscoveryReaders}
  {sensors : List HealthSensor} {infos : List DiscoveryRecord}

theorem Discovered.concat {info : DiscoveryRecord} (h : Discovered run info) (e : ReadersEvent) :
    Discovered (run ++ [e]) info := by
  obtain ⟨thread, hmem⟩ := h
  exact ⟨thread, List.mem_append_left _ hmem⟩

/-- An event that adds no sensors and leaves the calls as they are. -/
theorem Senses.keeps {S' : DiscoveryReaders} {e : ReadersEvent}
    (hS : Senses wanted run S sensors infos) (he : ∀ thread info, e ≠ .discovered thread info)
    (hadded : S'.addedHealth = S.addedHealth) (hcalls : ∀ call, call ∈ S'.calls ↔ call ∈ S.calls) :
    Senses wanted (run ++ [e]) S' sensors infos where
  sensors_eq := hS.sensors_eq
  added := hS.added.trans hadded.symm
  nodup := by
    rw [hadded]
    exact hS.nodup
  accepted info hinfo :=
    ⟨(hS.accepted info hinfo).1, (hS.accepted info hinfo).2.concat e⟩
  calls call hcall := (hS.calls call ((hcalls call).mp hcall)).concat e
  covered info hdiscovered haccepts := by
    obtain ⟨thread, hmem⟩ := hdiscovered
    rw [List.mem_append, List.mem_singleton] at hmem
    rcases hmem with hold | rfl
    · rw [hadded, hcalls]
      exact hS.covered info ⟨thread, hold⟩ haccepts
    · exact absurd rfl (he thread info)

theorem mem_calls_discover (S : DiscoveryReaders) (thread : DiscoveryThread)
    (info : DiscoveryRecord) (call : LoopCall) :
    call ∈ (S.discover thread info).calls ↔ call ∈ S.calls ∨ call ∈ discoverChromecast info := by
  cases thread <;> simp [DiscoveryReaders.calls, discover, Function.update, or_assoc, or_comm,
    or_left_comm]

theorem mem_calls_post (S : DiscoveryReaders) (thread : DiscoveryThread) (call : LoopCall) :
    call ∈ (S.post thread).calls ↔ call ∈ S.calls := by
  unfold post
  split
  · exact Iff.rfl
  · next first rest hposts =>
    cases thread <;> simp [DiscoveryReaders.calls, Function.update, hposts, or_assoc, or_comm,
      or_left_comm]

theorem Senses.discovered (hS : Senses wanted run S sensors infos) (thread : DiscoveryThread)
    (info : DiscoveryRecord) :
    Senses wanted (run ++ [.discovered thread info]) (S.discover thread info) sensors infos where
  sensors_eq := hS.sensors_eq
  added := hS.added
  nodup := hS.nodup
  accepted other hother := ⟨(hS.accepted other hother).1, (hS.accepted other hother).2.concat _⟩
  calls call hcall := by
    rcases (mem_calls_discover S thread info call).mp hcall with hold | hnew
    · exact (hS.calls call hold).concat _
    · have hinfo : call.info = info := by
        simp only [discoverChromecast, List.mem_cons, List.not_mem_nil, or_false] at hnew
        rcases hnew with rfl | rfl | rfl <;> rfl
      exact ⟨thread, by rw [hinfo]; simp⟩
  covered other hdiscovered haccepts := by
    obtain ⟨thread', hmem⟩ := hdiscovered
    rw [List.mem_append, List.mem_singleton] at hmem
    rw [mem_calls_discover]
    rcases hmem with hold | hnew
    · exact (hS.covered other ⟨thread', hold⟩ haccepts).imp_right .inl
    · obtain ⟨-, rfl⟩ := ReadersEvent.discovered.inj hnew
      exact .inr (.inr (by simp [discoverChromecast]))

/-- A call adds no sensors and is no signal of an accepted device that has none, or it adds the
sensors of such a device. -/
theorem sensors_perform (wanted : UUID → Bool) (S : DiscoveryReaders) (env : Env)
    (call : LoopCall) :
    ((S.perform wanted env call).1.addedHealth = S.addedHealth ∧
        (S.perform wanted env call).2 = [] ∧
        (call.kind = .castDiscovered → Accepts wanted call.info →
          call.info.uuid ∈ S.addedHealth)) ∨
      (Accepts wanted call.info ∧ call.info.uuid ∉ S.addedHealth ∧
        (S.perform wanted env call).1.addedHealth = S.addedHealth ++ [call.info.uuid] ∧
        (S.perform wanted env call).2 = healthSensors call.info) := by
  obtain ⟨kind, info⟩ := call
  cases kind with
  | recordDiscovery => exact .inl ⟨rfl, rfl, fun h => nomatch h⟩
  | updateIdentity => exact .inl ⟨rfl, rfl, fun h => nomatch h⟩
  | castDiscovered =>
    dsimp only [DiscoveryReaders.perform, addHealthSensors]
    split
    · next h =>
      refine .inl ⟨rfl, rfl, fun _ haccepts => ?_⟩
      rcases h with hwanted | hdynamic | hadded
      · rw [haccepts.1] at hwanted
        cases hwanted
      · exact absurd hdynamic haccepts.2
      · exact hadded
    · next h =>
      obtain ⟨hwanted, hdynamic, hadded⟩ : _ ∧ _ ∧ _ := by simpa only [not_or] using h
      exact .inr ⟨⟨by simpa using hwanted, hdynamic⟩, hadded, rfl, rfl⟩

/-- A call is run. The sensors it adds are those of its record. -/
theorem Senses.perform (hS : Senses wanted run S sensors infos) {call : LoopCall}
    {rest : List LoopCall} (hready : S.ready = call :: rest) (env : Env) :
    ∃ infos', Senses wanted (run ++ [.runs env])
      ({ S with ready := rest }.perform wanted env call).1
      (sensors ++ ({ S with ready := rest }.perform wanted env call).2) infos' := by
  have hcalls : ∀ c, c ∈ S.calls ↔ c = call ∨ c ∈ { S with ready := rest }.calls := by
    intro c
    simp [DiscoveryReaders.calls, hready]
  have hqueues : ({ S with ready := rest }.perform wanted env call).1.calls =
      { S with ready := rest }.calls := by
    obtain ⟨hposts, hrest⟩ := @queues_perform wanted { S with ready := rest } env call
    unfold DiscoveryReaders.calls
    rw [hposts, hrest]
  have hdiscovered : ∀ info, Discovered (run ++ [.runs env]) info → Discovered run info := by
    rintro info ⟨thread, hmem⟩
    rw [List.mem_append, List.mem_singleton] at hmem
    exact ⟨thread, hmem.resolve_right fun h => nomatch h⟩
  have hcall : Discovered run call.info := hS.calls call ((hcalls call).mpr (.inl rfl))
  rcases sensors_perform wanted { S with ready := rest } env call with
    ⟨hadded, hnone, hknown⟩ | ⟨haccepts, hnew, hadded, hsensors⟩
  · refine ⟨infos, ?_, ?_, ?_, ?_, ?_, ?_⟩
    · rw [hnone, List.append_nil]
      exact hS.sensors_eq
    · rw [hadded]
      exact hS.added
    · rw [hadded]
      exact hS.nodup
    · exact fun info hinfo => ⟨(hS.accepted info hinfo).1, (hS.accepted info hinfo).2.concat _⟩
    · intro c hc
      rw [hqueues] at hc
      exact (hS.calls c ((hcalls c).mpr (.inr hc))).concat _
    · intro info hinfo haccepts
      rw [hadded, hqueues]
      rcases hS.covered info (hdiscovered info hinfo) haccepts with hmem | hmem
      · exact .inl hmem
      · rcases (hcalls _).mp hmem with rfl | hlater
        · exact .inl (hknown rfl haccepts)
        · exact .inr hlater
  · refine ⟨infos ++ [call.info], ?_, ?_, ?_, ?_, ?_, ?_⟩
    · rw [hsensors, hS.sensors_eq, List.flatMap_append, List.flatMap_singleton]
    · rw [hadded, List.map_append, hS.added]
      rfl
    · rw [hadded]
      refine List.nodup_append.mpr ⟨hS.nodup, List.nodup_singleton _, ?_⟩
      rintro u hu _ hv rfl
      exact hnew (List.mem_singleton.mp hv ▸ hu)
    · intro info hinfo
      rcases List.mem_append.mp hinfo with hold | hlast
      · exact ⟨(hS.accepted info hold).1, (hS.accepted info hold).2.concat _⟩
      · rw [List.mem_singleton.mp hlast]
        exact ⟨haccepts, hcall.concat _⟩
    · intro c hc
      rw [hqueues] at hc
      exact (hS.calls c ((hcalls c).mpr (.inr hc))).concat _
    · intro info hinfo haccepts'
      rw [hadded, hqueues, List.mem_append, List.mem_singleton]
      rcases hS.covered info (hdiscovered info hinfo) haccepts' with hmem | hmem
      · exact .inl (.inl hmem)
      · rcases (hcalls _).mp hmem with rfl | hlater
        · exact .inl (.inr rfl)
        · exact .inr hlater

theorem Senses.step (hS : Senses wanted run S sensors infos) (e : ReadersEvent) :
    ∃ infos', Senses wanted (run ++ [e]) (S.step wanted e).1
      (sensors ++ (S.step wanted e).2) infos' := by
  cases e with
  | discovered thread info =>
    refine ⟨infos, ?_⟩
    have h := hS.discovered thread info
    rwa [← List.append_nil sensors] at h
  | posts thread =>
    refine ⟨infos, ?_⟩
    have hadded : (S.post thread).addedHealth = S.addedHealth := by
      unfold post
      split <;> rfl
    have h := hS.keeps (e := .posts thread) (fun _ _ h => nomatch h) hadded
      (mem_calls_post S thread)
    rwa [← List.append_nil sensors] at h
  | runs env =>
    dsimp only [DiscoveryReaders.step]
    split
    · refine ⟨infos, ?_⟩
      have h := hS.keeps (e := .runs env) (fun _ _ h => nomatch h) rfl fun _ => Iff.rfl
      rwa [← List.append_nil sensors] at h
    · next call rest hready => exact hS.perform hready env
  | addedToHass env uuid entityId =>
    refine ⟨infos, ?_⟩
    have hsame : (S.asyncAddedToHass env uuid entityId).addedHealth = S.addedHealth ∧
        (S.asyncAddedToHass env uuid entityId).calls = S.calls := by
      unfold asyncAddedToHass
      split <;> exact ⟨rfl, rfl⟩
    have h := hS.keeps (e := .addedToHass env uuid entityId) (fun _ _ h => nomatch h) hsame.1
      fun call => by rw [hsame.2]
    rwa [← List.append_nil sensors] at h
  | removed uuid =>
    refine ⟨infos, ?_⟩
    have hsame : (S.asyncTearDown uuid).addedHealth = S.addedHealth ∧
        (S.asyncTearDown uuid).calls = S.calls := by
      unfold asyncTearDown
      split <;> exact ⟨rfl, rfl⟩
    have h := hS.keeps (e := .removed uuid) (fun _ _ h => nomatch h) hsame.1
      fun call => by rw [hsame.2]
    rwa [← List.append_nil sensors] at h

theorem senses_start (wanted : UUID → Bool) : Senses wanted [] {} [] [] where
  sensors_eq := rfl
  added := rfl
  nodup := List.nodup_nil
  accepted _ h := nomatch h
  calls _ h := nomatch h
  covered _ h := by
    obtain ⟨_, hmem⟩ := h
    cases hmem

/-- **The health sensors.** In every run the sensors that were added have distinct unique ids.
Those of a device are the sensors of one of its records, which was discovered and accepted, and
every device with such a record has them once nothing about it is under way. -/
theorem health_sensors (wanted : UUID → Bool) (run : List ReadersEvent) :
    ((Machine.emitted (step wanted) {} run).map HealthSensor.uniqueId).Nodup ∧
      (∀ sensor ∈ Machine.emitted (step wanted) {} run,
        Accepts wanted sensor.info ∧ Discovered run sensor.info ∧
          ((Machine.emitted (step wanted) {} run).filter fun other =>
            other.info.uuid = sensor.info.uuid) = healthSensors sensor.info) ∧
      ∀ info, Discovered run info → Accepts wanted info →
        (Machine.final (step wanted) {} run).underWay info.uuid = [] →
          ∃ sensor ∈ Machine.emitted (step wanted) {} run, sensor.info.uuid = info.uuid := by
  obtain ⟨infos, hfinal⟩ := Machine.history_induction (step wanted)
    (P := fun run S sensors => ∃ infos, Senses wanted run S sensors infos) {}
    ⟨[], senses_start wanted⟩ (fun _ _ _ e ⟨_, hS⟩ => hS.step e) run
  have hnodup : (infos.map DiscoveryRecord.uuid).Nodup := by
    rw [hfinal.added]
    exact hfinal.nodup
  rw [hfinal.sensors_eq]
  refine ⟨nodup_uniqueId hnodup, fun sensor hsensor => ?_, fun info hdisc haccepts hidle => ?_⟩
  · obtain ⟨info, hinfo, hmem⟩ := List.mem_flatMap.mp hsensor
    rw [info_of_mem hmem]
    exact ⟨(hfinal.accepted info hinfo).1, (hfinal.accepted info hinfo).2,
      filter_flatMap_healthSensors hnodup hinfo⟩
  · rcases hfinal.covered info hdisc haccepts with hadded | hcall
    · rw [← hfinal.added] at hadded
      obtain ⟨other, hother, huuid⟩ := List.mem_map.mp hadded
      exact ⟨⟨other, "tts_outcome"⟩,
        List.mem_flatMap.mpr ⟨other, hother, by simp [healthSensors]⟩, huuid⟩
    · have hway : ⟨.castDiscovered, info⟩ ∈
          (Machine.final (step wanted) {} run).underWay info.uuid :=
        List.mem_filter.mpr ⟨hcall, decide_eq_true rfl⟩
      rw [hidle] at hway
      cases hway

end DiscoveryReaders
end CastDelivery
