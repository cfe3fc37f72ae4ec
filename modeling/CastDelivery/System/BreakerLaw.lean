import CastDelivery.System.LaunchSafety

/-!
# What opens a circuit

The breaker reads `consecutive_timeouts`, a counter that the timeouts of every source move, while
the documentation speaks of consecutive probe timeouts. `opens_iff` says exactly when an event
opens a circuit and for how long; `breaker_law_iff` is the exact condition under which this is
what the records of probes alone would give: whenever a probe times out, as many timeouts end the
device's records as end its records of probes, or both numbers reach the longest backoff.
-/

namespace CastDelivery

/-- How many `TIMEOUT` records end the decisive records of a device. -/
def endingTimeouts (rs : List DeliveryRecord) : ℕ := (trailingTimeouts (rs.filter Decisive)).length

/-- The records of probes. -/
def ofProbes (rs : List DeliveryRecord) : List DeliveryRecord :=
  rs.filter fun r => r.source = .probe

theorem endingTimeouts_concat (rs : List DeliveryRecord) {r : DeliveryRecord}
    (ho : r.outcome = .timeout) : endingTimeouts (rs ++ [r]) = endingTimeouts rs + 1 := by
  have hr : Decisive r = true := by simp [Decisive, ho]
  unfold endingTimeouts
  rw [filter_decisive_concat_pos rs hr]
  simp [trailingTimeouts, ho]

theorem ofProbes_concat (rs : List DeliveryRecord) {r : DeliveryRecord}
    (hs : r.source = .probe) : ofProbes (rs ++ [r]) = ofProbes rs ++ [r] := by
  simp [ofProbes, List.filter_append, hs]

/-- The backoff for a number of consecutive probe timeouts, in seconds. -/
def ProbeOptions.backoff (options : ProbeOptions) (n : ℕ) : ℕ :=
  min (options.interval * 2 ^ (n - 1)) CIRCUIT_BREAKER_MAX_BACKOFF

/-- Two numbers of timeouts give the same backoff if they are equal or both reach the cap. -/
theorem ProbeOptions.backoff_succ_inj {options : ProbeOptions} {m n : ℕ} :
    options.backoff (m + 1) = options.backoff (n + 1) ↔
      m = n ∨ CIRCUIT_BREAKER_MAX_BACKOFF ≤ options.interval * 2 ^ m ∧
        CIRCUIT_BREAKER_MAX_BACKOFF ≤ options.interval * 2 ^ n := by
  have hpos : 0 < options.interval := lt_of_lt_of_le (by decide) options.floor
  have hinj : options.interval * 2 ^ m = options.interval * 2 ^ n ↔ m = n := by
    rw [Nat.mul_right_inj (Nat.ne_of_gt hpos)]
    exact Nat.pow_right_inj (Nat.le_refl 2)
  unfold backoff
  rw [Nat.add_sub_cancel, Nat.add_sub_cancel, ← hinj]
  omega

/-- What the breaker assigns for a timeout of a probe. -/
theorem ProbeOptions.asyncOnRecord_timeout {options : ProbeOptions} {env : Env}
    {health : DeviceHealth} {record : DeliveryRecord} (hs : record.source = .probe)
    (ho : record.outcome = .timeout) (value : Option Monotonic) :
    options.asyncOnRecord env health record = some value ↔
      CIRCUIT_BREAKER_TIMEOUTS ≤ health.consecutiveTimeouts ∧
        value = some (env.monotonic
          + options.backoff health.consecutiveTimeouts * second) := by
  have hok : record.outcome ≠ .ok := by rw [ho]; decide
  unfold asyncOnRecord
  rw [if_neg (not_not.mpr hs), if_neg hok]
  by_cases hc : CIRCUIT_BREAKER_TIMEOUTS ≤ health.consecutiveTimeouts
  · rw [if_pos ⟨ho, hc⟩]
    have hexponent : health.consecutiveTimeouts - CIRCUIT_BREAKER_TIMEOUTS + 1
        = health.consecutiveTimeouts - 1 := by
      unfold CIRCUIT_BREAKER_TIMEOUTS at hc ⊢
      omega
    simp only [hexponent, Option.some.injEq, hc, true_and]
    exact eq_comm
  · rw [if_neg fun h => hc h.2]
    simp [hc]

namespace System

variable {S : System} {i : Input} {d : UUID}

/-- An event appends a record of a probe on the device that timed out. -/
def TimesOutProbe (S : System) (i : Input) (d : UUID) : Prop :=
  ∃ r ∈ records (history d (ledgerEffects (S.step i).2)), r.source = .probe ∧ r.outcome = .timeout

/-- What a timeout of a probe on a device does, if an event appends one. -/
structure ProbeTimeout (S : System) (i : Input) (d : UUID) (r : DeliveryRecord)
    (h : DeviceHealth) : Prop where
  source : r.source = .probe
  outcome : r.outcome = .timeout
  uuid : h.uuid = d
  only : records (history d (ledgerEffects (S.step i).2)) = [r]
  timeouts : h.consecutiveTimeouts = (S.ledger.health d).consecutiveTimeouts + 1
  called : ∀ l h' r', .called l h' r' ∈ ledgerEffects (S.step i).2 ↔
    l ∈ S.ledger.listeners ∧ h' = h ∧ r' = r

theorem probeTimeout_of_effect {e : Effect} {r : DeliveryRecord}
    (he : e ∈ ledgerEffects (S.step i).2) (hr : e.record? = some r) (hs : r.source = .probe)
    (ho : r.outcome = .timeout) (hd : r.uuid = d) : ∃ h, ProbeTimeout S i d r h := by
  obtain ⟨c, -, heffects⟩ := call_of_record he hr (.inr ho)
  rw [heffects] at he
  obtain ⟨h, hrecords⟩ := DeliveryLedger.records_of_effect he hr
  have huuid : h.uuid = d := hrecords.told.uuid.symm.trans hd
  refine ⟨h, hs, ho, huuid, ?_, ?_, ?_⟩
  · rw [heffects, ← hd]
    exact hrecords.history
  · rw [hrecords.told.timeouts ho, huuid]
  · rw [heffects]
    exact hrecords.called

/-- What an event that times a probe out appends and tells the listeners. -/
theorem probeTimeout_of_timesOut (h : TimesOutProbe S i d) : ∃ r h, ProbeTimeout S i d r h := by
  obtain ⟨r, hr, hs, ho⟩ := h
  obtain ⟨q, hq⟩ := mem_records.mp hr
  obtain ⟨he, habout⟩ := List.mem_filter.mp hq
  exact ⟨r, probeTimeout_of_effect he rfl hs ho (of_decide_eq_true habout)⟩

/-- **What opens a circuit, and for how long.** -/
theorem opens_iff {backoff : ℕ} : Opens S i d backoff ↔
    TimesOutProbe S i d ∧ .circuitBreaker ∈ S.ledger.listeners ∧
      (S.ledger.health d).consecutiveTimeouts ≠ 0 ∧
      backoff = S.options.backoff ((S.ledger.health d).consecutiveTimeouts + 1) := by
  constructor
  · rintro ⟨e, he, hassigned⟩
    obtain ⟨health, record, rfl, hd, hvalue⟩ := Hub.assigned_eq_some.mp hassigned
    obtain ⟨hs, hdecisive⟩ := ProbeOptions.asyncOnRecord_some hvalue
    have ho : record.outcome = .timeout := by
      rcases hdecisive with ⟨-, h⟩ | ⟨h, -⟩
      · cases h
      · exact h
    obtain ⟨h, htimeout⟩ := probeTimeout_of_effect he rfl hs ho rfl
    obtain ⟨hlistens, rfl, -⟩ := (htimeout.called _ _ _).mp he
    obtain rfl : record.uuid = d := htimeout.uuid.symm.trans hd
    obtain ⟨hcount, hopen⟩ := (ProbeOptions.asyncOnRecord_timeout hs ho _).mp hvalue
    -- the breaker reads the counter that this record has raised
    have hmem : record ∈ records (history record.uuid (ledgerEffects (S.step i).2)) := by
      rw [htimeout.only]
      exact List.mem_singleton_self record
    rw [htimeout.timeouts] at hcount hopen
    refine ⟨⟨record, hmem, hs, ho⟩, hlistens, ?_, ?_⟩
    · unfold CIRCUIT_BREAKER_TIMEOUTS at hcount
      omega
    · have hproduct := Int.add_left_cancel (Option.some.inj hopen)
      exact Int.ofNat.inj (Int.eq_of_mul_eq_mul_right (by decide) hproduct)
  · rintro ⟨htimes, hlistens, hcount, rfl⟩
    obtain ⟨r, h, htimeout⟩ := probeTimeout_of_timesOut htimes
    refine ⟨.called .circuitBreaker h r, (htimeout.called _ _ _).mpr ⟨hlistens, rfl, rfl⟩, ?_⟩
    refine Hub.assigned_eq_some.mpr ⟨h, r, rfl, htimeout.uuid, ?_⟩
    rw [ProbeOptions.asyncOnRecord_timeout htimeout.source htimeout.outcome, htimeout.timeouts]
    refine ⟨?_, rfl⟩
    unfold CIRCUIT_BREAKER_TIMEOUTS
    omega

/-! ## The law -/

/-- Whenever an event opens the circuit of a device, it does so after two or more consecutive
timeouts of probes and for the backoff of their number. -/
def OpensAsDocumented (options : StoredOptions) (d : UUID) (before : List Input) (i : Input) :
    Prop :=
  ∀ backoff, Opens (after options before) i d backoff →
    CIRCUIT_BREAKER_TIMEOUTS
        ≤ endingTimeouts (ofProbes (records (historyOf options d (before ++ [i])))) ∧
      backoff = (after options before).options.backoff
        (endingTimeouts (ofProbes (records (historyOf options d (before ++ [i])))))

/-- When a probe times out on a device whose records end in timeouts while the breaker listens,
its records of probes end in as many, or in so many that both numbers reach the cap. -/
def ProbesAlone (options : StoredOptions) (d : UUID) (before : List Input) (i : Input) : Prop :=
  TimesOutProbe (after options before) i d →
    .circuitBreaker ∈ (after options before).ledger.listeners →
    endingTimeouts (records (historyOf options d before)) ≠ 0 →
    endingTimeouts (ofProbes (records (historyOf options d before))) ≠ 0 ∧
      (endingTimeouts (records (historyOf options d before))
          = endingTimeouts (ofProbes (records (historyOf options d before))) ∨
        CIRCUIT_BREAKER_MAX_BACKOFF ≤ (after options before).options.interval
            * 2 ^ endingTimeouts (records (historyOf options d before)) ∧
          CIRCUIT_BREAKER_MAX_BACKOFF ≤ (after options before).options.interval
            * 2 ^ endingTimeouts (ofProbes (records (historyOf options d before))))

theorem opensAsDocumented_iff (options : StoredOptions) (d : UUID) (before : List Input)
    (i : Input) : OpensAsDocumented options d before i ↔ ProbesAlone options d before i := by
  have hcounter : ((after options before).ledger.health d).consecutiveTimeouts
      = endingTimeouts (records (historyOf options d before)) := (foldOf options d before).timeouts
  -- the timeout of the probe is one more in both counts
  have hcounted : TimesOutProbe (after options before) i d →
      endingTimeouts (ofProbes (records (historyOf options d (before ++ [i]))))
        = endingTimeouts (ofProbes (records (historyOf options d before))) + 1 := by
    intro htimes
    obtain ⟨r, h, htimeout⟩ := probeTimeout_of_timesOut htimes
    rw [historyOf_concat, records_append, htimeout.only, ofProbes_concat _ htimeout.source,
      endingTimeouts_concat _ htimeout.outcome]
  unfold OpensAsDocumented ProbesAlone
  simp only [opens_iff, hcounter]
  constructor
  · intro hlaw htimes hlistens hcount
    obtain ⟨htwo, hbackoff⟩ := hlaw _ ⟨htimes, hlistens, hcount, rfl⟩
    rw [hcounted htimes] at htwo hbackoff
    refine ⟨?_, ProbeOptions.backoff_succ_inj.mp hbackoff⟩
    unfold CIRCUIT_BREAKER_TIMEOUTS at htwo
    omega
  · rintro halone _ ⟨htimes, hlistens, hcount, rfl⟩
    obtain ⟨hprobes, hsame⟩ := halone htimes hlistens hcount
    rw [hcounted htimes]
    refine ⟨?_, ProbeOptions.backoff_succ_inj.mpr hsame⟩
    unfold CIRCUIT_BREAKER_TIMEOUTS
    omega

/-- **The breaker law.** In a run, every record that opens a circuit does so as documented if and
only if the timeouts that a timeout of a probe finds at the end of the device's records are
those of probes, but for numbers that reach the cap. -/
theorem breaker_law_iff (options : StoredOptions) (run : List Input) :
    (∀ d before i, before ++ [i] <+: run → OpensAsDocumented options d before i) ↔
      ∀ d before i, before ++ [i] <+: run → ProbesAlone options d before i := by
  simp only [opensAsDocumented_iff]

/-- A `play_media` times out on a speaker, and then a probe is on its way. -/
def hungPlayThenProbe : List Input :=
  [⟨.bare 0, .registerTarget ⟨1⟩ 0⟩, ⟨.bare 1, .play ⟨1⟩ "http://ha/song.mp3" .playMedia none⟩,
    ⟨.bare 31, .callback (.expire ⟨⟨1⟩, 0, DELIVERY_TIMEOUT⟩) (Eq.refl true)⟩, idleCycle 40]

/-- The first timeout of a probe opens the circuit, since a timeout of a user came before it. -/
theorem not_opensAsDocumented :
    ¬ OpensAsDocumented {} ⟨1⟩ hungPlayThenProbe (hungProbe 1 40) := by
  intro hlaw
  have htwo := (hlaw 600 (by decide)).1
  revert htwo
  decide

end System
end CastDelivery
