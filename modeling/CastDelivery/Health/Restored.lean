import CastDelivery.Health.Invariants

/-!
# The last success across restarts

A set-up of the entry begins with an empty ledger. When it is added, `CastLastSuccessSensor` of
`sensor.py` restores what Home Assistant has kept of it, unless a delivery has succeeded by then.

`last_success_kept`: if Home Assistant has kept what the sensor showed last, the sensor shows when
the last delivery of all set-ups succeeded. What the ledger records after the sensor is removed,
before `async_unload_entry` shuts the ledger down, is not shown, and not kept.
-/

namespace CastDelivery

/-- A set-up of the entry until the sensor of a device is removed. -/
inductive SensorLife
  /-- The device is not discovered, and its sensor is not added. -/
  | absent
  /-- The sensor is added in between the calls to the ledger; `async_get_last_sensor_data` gives the
  value `restored`. -/
  | added (before : List Call) (env : Env) (restored : Option DateTime) (after : List Call)

namespace SensorLife

/-- The calls to the ledger, with that of `async_added_to_hass`. -/
def calls (d : UUID) : SensorLife → List Call
  | absent => []
  | added before env restored after => before ++ ⟨env, .restoreLastSuccess d restored⟩ :: after

/-- Nothing but the sensor restores a value for the device. -/
def Plain (d : UUID) : SensorLife → Prop
  | absent => True
  | added before _ _ after => ∀ c ∈ before ++ after, c.op.restored d = none

/-- What a restored sensor is given is what it showed when it was removed. -/
def Restores (shown : Option DateTime) : SensorLife → Prop
  | absent => True
  | added _ _ restored _ => restored = shown

/-- What the sensor showed last, and the records of the device until then. -/
def step (d : UUID) (shown : Option DateTime) (life : SensorLife) :
    Option DateTime × List DeliveryRecord :=
  match life with
  | absent => (shown, [])
  | added .. =>
    (((ledgerAfter (life.calls d)).health d).lastSuccess, records (historyOf d (life.calls d)))

/-- The sensor restores the value that it is given, whenever it is added. -/
theorem restoredIn_calls {d : UUID} {restored : Option DateTime} {before after : List Call}
    {env : Env} (h : (added before env restored after).Plain d) :
    restoredIn d ((added before env restored after).calls d) = restored := by
  have hnone {calls : List Call} (hcalls : ∀ c ∈ calls, c.op.restored d = none) :
      restoredIn d calls = none := List.findSome?_eq_none_iff.mpr hcalls
  have hbefore := hnone fun c hc => h c (List.mem_append_left _ hc)
  have hafter := hnone fun c hc => h c (List.mem_append_right _ hc)
  unfold restoredIn at hbefore hafter ⊢
  rw [calls, List.findSome?_append, hbefore, Option.none_or, List.findSome?_cons]
  cases restored with
  | none => simpa [Op.restored] using hafter
  | some stamp => simp [Op.restored]

theorem lastOk_step {d : UUID} {shown : Option DateTime} {life : SensorLife} (h : life.Plain d)
    (hrestores : life.Restores shown) :
    (step d shown life).1 = (lastOk (step d shown life).2).or shown := by
  cases life with
  | absent => rfl
  | added before env restored after =>
    obtain rfl : restored = shown := hrestores
    dsimp only [step]
    rw [lastSuccess_run, restoredIn_calls h]

/-- **The last success is kept**: over any number of set-ups, the sensor shows when the last
successful delivery to the device was resolved, if what it showed is what it is given again. -/
theorem last_success_kept {d : UUID} {lives : List SensorLife} (h : ∀ life ∈ lives, life.Plain d)
    (hrestores : Machine.Along (step d) Restores none lives) :
    Machine.final (step d) none lives = lastOk (Machine.emitted (step d) none lives) := by
  induction lives using List.reverseRecOn with
  | nil => rfl
  | append_singleton lives life ih =>
    have hplain : life.Plain d := h life List.mem_concat_self
    obtain ⟨hbefore, hlife, -⟩ := (Machine.along_append _ _ _).mp hrestores
    rw [Machine.final_concat, Machine.emitted_concat, lastOk_append, lastOk_step hplain hlife,
      ih (fun l hl => h l (List.mem_append_left _ hl)) hbefore]

/-- A delivery succeeds; then the device is gone, and comes back. -/
def comesBack : List SensorLife :=
  [.added [] (.bare 0) none [playCall, playingCall], .absent, .added [] (.bare 9) (some 1000000) []]

theorem last_success_kept_comesBack :
    Machine.final (step ⟨1⟩) none comesBack = lastOk (Machine.emitted (step ⟨1⟩) none comesBack) ∧
      (Machine.final (step ⟨1⟩) none comesBack).isSome = true := by
  have hshown : some 1000000 =
      (step ⟨1⟩ none (.added [] (.bare 0) none [playCall, playingCall])).1 := by
    decide +kernel
  have hrestores : Machine.Along (step ⟨1⟩) Restores none comesBack :=
    ⟨rfl, trivial, hshown, trivial⟩
  refine ⟨last_success_kept (fun life hlife => ?_) hrestores, by decide +kernel⟩
  simp only [comesBack, List.mem_cons, List.not_mem_nil, or_false] at hlife
  rcases hlife with rfl | rfl | rfl
  · intro c hc
    simp only [List.nil_append, List.mem_cons, List.not_mem_nil, or_false] at hc
    rcases hc with rfl | rfl <;> rfl
  · trivial
  · exact fun c hc => absurd hc List.not_mem_nil

end SensorLife
end CastDelivery
