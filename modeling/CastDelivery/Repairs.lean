import CastDelivery.Health.Basic

/-!
# Repair issues

The part of `issues.py` that follows delivery records: `RepairManager.async_on_record`, which
counts failures per device and raises or clears two issues per device in the issue registry.
The registry is a dictionary from issue ids, as the strings the source builds, to issues.

`fetchFailedId_inj` and its like say that the ids of two devices, or of the two kinds of
issue, never collide, since `str(uuid)` is injective.
-/

namespace CastDelivery

/-! ## Issue ids -/

/-- `ISSUE_FETCH_FAILED`. -/
def ISSUE_FETCH_FAILED : String := "tts_fetch_failed"

/-- `ISSUE_UNREACHABLE`. -/
def ISSUE_UNREACHABLE : String := "cast_device_unreachable"

/-- `FETCH_FAILURES_BEFORE_ISSUE`. -/
def FETCH_FAILURES_BEFORE_ISSUE : ℕ := 2

/-- `f"{ISSUE_FETCH_FAILED}.{uuid}"`. -/
def fetchFailedId (u : UUID) : String := ISSUE_FETCH_FAILED ++ "." ++ u.str

/-- `f"{ISSUE_UNREACHABLE}.{uuid}"`. -/
def unreachableId (u : UUID) : String := ISSUE_UNREACHABLE ++ "." ++ u.str

theorem digitChar_inj : ∀ a < 16, ∀ b < 16, Nat.digitChar a = Nat.digitChar b → a = b := by
  decide

theorem UUID.nibble_eq {u v : UUID} {k : ℕ} (h : u.digit k = v.digit k) :
    (u.int.toNat >>> (4 * (31 - k))) % 16 = (v.int.toNat >>> (4 * (31 - k))) % 16 :=
  digitChar_inj _ (Nat.mod_lt _ (by decide)) _ (Nat.mod_lt _ (by decide)) h

/-- A uuid is determined by its 32 digits. -/
theorem UUID.eq_of_digits {u v : UUID} (h : ∀ k < 32, u.digit k = v.digit k) : u = v := by
  obtain ⟨x⟩ := u
  obtain ⟨y⟩ := v
  congr 1
  apply BitVec.eq_of_getLsbD_eq
  intro i hi
  -- bit `i` is bit `i % 4` of the digit at place `i / 4` from the right
  have hdigit := UUID.nibble_eq (h (31 - i / 4) (by omega))
  have hplace : 4 * (31 - (31 - i / 4)) = 4 * (i / 4) := by omega
  rw [hplace] at hdigit
  have hbit : ∀ n : ℕ, n.testBit i = ((n >>> (4 * (i / 4))) % 2 ^ 4).testBit (i % 4) := by
    intro n
    rw [Nat.testBit_mod_two_pow, Nat.testBit_shiftRight,
      show 4 * (i / 4) + i % 4 = i by omega]
    simp [show i % 4 < 4 by omega]
  rw [BitVec.getLsbD, BitVec.getLsbD, hbit, hbit y.toNat]
  exact congrArg (Nat.testBit · (i % 4)) hdigit

/-- Blocks of equal lengths are read back from their concatenation. -/
theorem eq_of_flatMap_eq {α β : Type*} {f g : α → List β} :
    ∀ {l : List α}, (∀ a ∈ l, (f a).length = (g a).length) → l.flatMap f = l.flatMap g →
      ∀ a ∈ l, f a = g a
  | [], _, _ => by simp
  | b :: l, hlen, h => by
    rw [List.flatMap_cons, List.flatMap_cons] at h
    obtain ⟨hb, hl⟩ := List.append_inj h (hlen b List.mem_cons_self)
    have hrest := eq_of_flatMap_eq (fun a ha => hlen a (List.mem_cons_of_mem _ ha)) hl
    intro a ha
    rcases List.mem_cons.mp ha with rfl | ha
    · exact hb
    · exact hrest a ha

/-- `str(uuid)` is injective. -/
theorem UUID.str_inj {u v : UUID} (h : u.str = v.str) : u = v := by
  unfold UUID.str at h
  rw [String.ofList_inj] at h
  have hblocks := eq_of_flatMap_eq (fun k _ => by split <;> rfl) h
  refine UUID.eq_of_digits fun k hk => ?_
  have hblock := hblocks k (List.mem_range.mpr hk)
  split at hblock <;> simpa using hblock

theorem fetchFailedId_inj {u v : UUID} (h : fetchFailedId u = fetchFailedId v) : u = v := by
  unfold fetchFailedId at h
  exact UUID.str_inj ((String.append_right_inj _).mp h)

theorem unreachableId_inj {u v : UUID} (h : unreachableId u = unreachableId v) : u = v := by
  unfold unreachableId at h
  exact UUID.str_inj ((String.append_right_inj _).mp h)

/-- The ids of the two kinds differ in their first character. -/
theorem fetchFailedId_ne_unreachableId (u v : UUID) : fetchFailedId u ≠ unreachableId v := by
  intro h
  have hhead := congrArg (fun s => s.toList.head?) h
  simp [fetchFailedId, unreachableId, ISSUE_FETCH_FAILED, ISSUE_UNREACHABLE] at hhead

/-! ## The issue registry -/

/-- `ir.IssueSeverity`, as far as the integration uses it. -/
inductive IssueSeverity
  | error
  | warning
deriving DecidableEq, Repr

/-- An entry of the issue registry. -/
structure Issue where
  isFixable : Bool := false
  severity : IssueSeverity
  translationKey : String
  placeholders : List (String × String)
  data : List (String × String) := []
deriving DecidableEq, Repr

/-- The issues of the integration's domain, by their ids. -/
abbrev IssueRegistry := Dict String Issue

/-- `RepairManager._create`. -/
def IssueRegistry.create (issues : IssueRegistry) (id : String) (issue : Issue) : IssueRegistry :=
  issues.set id issue

/-- `RepairManager._delete`. -/
def IssueRegistry.delete (issues : IssueRegistry) (id : String) : IssueRegistry :=
  issues.erase id

/-! ## The repair manager -/

/-- The counters of `RepairManager` that follow delivery records. -/
structure RepairManager where
  consecutiveFetchFailures : Dict UUID ℕ := ∅
  consecutiveUnreachable : Dict UUID ℕ := ∅

/-- `str(url_source)`, with the text for a URL of neither kind. -/
def urlSourceText : Option UrlSource → String
  | some .override => "override"
  | some .internalUrl => "internal_url"
  | some .externalUrl => "external_url"
  | none => "a URL outside Home Assistant"

/-- The issue `async_on_record` raises for repeated fetch failures. -/
def fetchFailedIssue (health : DeviceHealth) (record : DeliveryRecord) (count : ℕ) : Issue where
  severity := .error
  translationKey := ISSUE_FETCH_FAILED
  placeholders :=
    [("name", strOr health.name health.uuid.str), ("entity_id", strOr health.entityId ""),
      ("host", strOr health.host "unknown"), ("url_source", urlSourceText record.urlSource),
      ("count", toString count), ("error", strOr record.error "")]

/-- The issue `async_on_record` raises for a device that repeatedly was unreachable. -/
def unreachableIssue (health : DeviceHealth) (record : DeliveryRecord) (count : ℕ) : Issue where
  severity := .error
  translationKey := ISSUE_UNREACHABLE
  placeholders :=
    [("name", strOr health.name health.uuid.str), ("entity_id", strOr health.entityId ""),
      ("host", strOr health.host "unknown"), ("count", toString count),
      ("error", strOr record.error "")]

namespace RepairManager

/-- `self.consecutive_fetch_failures.get(uuid, 0)`. -/
def fetchFailures (m : RepairManager) (u : UUID) : ℕ :=
  (m.consecutiveFetchFailures.get? u).getD 0

/-- `self.consecutive_unreachable.get(uuid, 0)`. -/
def unreachable (m : RepairManager) (u : UUID) : ℕ := (m.consecutiveUnreachable.get? u).getD 0

/-- `RepairManager.async_on_record`. -/
def asyncOnRecord (m : RepairManager) (issues : IssueRegistry) (health : DeviceHealth)
    (record : DeliveryRecord) : RepairManager × IssueRegistry :=
  let uuid := health.uuid
  match record.outcome with
  | .fetchFailed =>
    let count := m.fetchFailures uuid + 1
    ({ m with consecutiveFetchFailures := m.consecutiveFetchFailures.set uuid count },
      if FETCH_FAILURES_BEFORE_ISSUE ≤ count then
        issues.create (fetchFailedId uuid) (fetchFailedIssue health record count)
      else issues)
  | .unreachable =>
    let count := m.unreachable uuid + 1
    ({ m with consecutiveUnreachable := m.consecutiveUnreachable.set uuid count },
      if FETCH_FAILURES_BEFORE_ISSUE ≤ count then
        issues.create (unreachableId uuid) (unreachableIssue health record count)
      else issues)
  | .ok =>
    ({ consecutiveFetchFailures := m.consecutiveFetchFailures.set uuid 0
       consecutiveUnreachable := m.consecutiveUnreachable.set uuid 0 },
      (issues.delete (fetchFailedId uuid)).delete (unreachableId uuid))
  | .timeout | .templateError | .skippedBusy | .unknown => (m, issues)

end RepairManager

end CastDelivery
