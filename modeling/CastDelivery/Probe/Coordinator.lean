import CastDelivery.Health.Ledger
import CastDelivery.Probe.Breaker

/-!
# Probe decisions

What `coordinator.py` knows about a device when a probe is due, and `_decide`, which turns it
into a decision. The source returns the decision as its text; here it is a value with the text
beside it, so that the cycle can tell the decisions apart.
-/

namespace CastDelivery

/-- `BUSY_STATES`. -/
def BUSY_STATES : List String :=
  [MEDIA_PLAYER_STATE_PLAYING, MEDIA_PLAYER_STATE_BUFFERING, "PAUSED"]

/-- `ProbeSnapshot`. -/
structure ProbeSnapshot where
  castType : Option String
  isAudioGroup : Bool
  appId : Option String
  appIdle : Bool
  playerState : Option String
  groupPlayerStates : List (Option String)
  mediaSessionId : Option Int
deriving DecidableEq, Repr

/-- `state in BUSY_STATES`. -/
def isBusyState (state : Option String) : Bool := state.any (· ∈ BUSY_STATES)

/-- `ProbeSnapshot.busy`. -/
def ProbeSnapshot.busy (snapshot : ProbeSnapshot) : Bool :=
  isBusyState snapshot.playerState || snapshot.groupPlayerStates.any isBusyState

/-! ## The text of a busy device -/

/-- A character within `repr(s)`; characters beyond ASCII are taken as printable. -/
def reprChar (quote : String) (c : Char) : String :=
  let s := String.singleton c
  if s = "\\" ∨ s = quote then "\\" ++ s
  else if s = "\n" then "\\n"
  else if s = "\r" then "\\r"
  else if s = "\t" then "\\t"
  else if c.toNat < 32 ∨ c.toNat = 127 then
    "\\x" ++ String.ofList [Nat.digitChar (c.toNat / 16), Nat.digitChar (c.toNat % 16)]
  else s

/-- `repr` of a player state. -/
def reprState : Option String → String
  | none => "None"
  | some s =>
    let has (q : String) : Bool := s.toList.any fun c => String.singleton c = q
    let quote := if has "'" && !has "\"" then "\"" else "'"
    quote ++ String.join (s.toList.map (reprChar quote)) ++ quote

/-- The error with which a busy device is skipped. -/
def ProbeSnapshot.busyError (snapshot : ProbeSnapshot) : String :=
  let str (x : Option String) : String := x.getD "None"
  let states := "[" ++ ", ".intercalate (snapshot.groupPlayerStates.map reprState) ++ "]"
  "device not idle: player_state=" ++ str snapshot.playerState ++ " group_states=" ++ states
    ++ " app_id=" ++ str snapshot.appId

/-! ## Decisions -/

/-- The results of `_decide`. -/
inductive Decision
  | stillRunning
  | notConnected
  | groupsDisabled
  | videoSkipped
  | circuitOpen (remaining : Monotonic)
  | skippedBusy (snapshot : ProbeSnapshot)
  | probe (snapshot : ProbeSnapshot)
deriving DecidableEq, Repr

namespace Decision

/-- The text that `_decide` returns. -/
def text : Decision → String
  | stillRunning => "skipped: previous probe still running"
  | notConnected => "unreachable: not connected"
  | groupsDisabled => "skipped: group probing disabled"
  | videoSkipped => "skipped: video devices are not probed (CEC could wake a display)"
  | circuitOpen remaining => s!"skipped: circuit open for {roundDiv remaining second}s more"
  | skippedBusy _ => "skipped_busy"
  | probe _ => "probe"

/-- The record that `_decide` makes on its way. -/
def recordCall : Decision → Option RecordCall
  | notConnected => some .notConnected
  | skippedBusy snapshot => some (.notIdle snapshot.busyError)
  | _ => none

end Decision

/-- A video device that the options exclude. -/
def ProbeOptions.excludesVideo (options : ProbeOptions) (snapshot : ProbeSnapshot) : Bool :=
  !snapshot.isAudioGroup && snapshot.castType ≠ some "audio" && snapshot.castType ≠ none
    && !options.video

/-- `health.circuit_open_until - time.monotonic()`, while it is positive. -/
def circuitRemaining (env : Env) (health : DeviceHealth) : Option Monotonic :=
  (health.circuitOpenUntil.map (· - env.monotonic)).filter (0 < ·)

/-- `CastProbeCoordinator._decide`. -/
def ProbeOptions.decide (env : Env) (options : ProbeOptions) (running : Bool)
    (snapshot : Option ProbeSnapshot) (health : DeviceHealth) : Decision :=
  if running then .stillRunning
  else match snapshot with
    | none => .notConnected
    | some snapshot =>
      if snapshot.isAudioGroup && !options.groups then .groupsDisabled
      else if options.excludesVideo snapshot then .videoSkipped
      else match circuitRemaining env health with
        | some remaining => .circuitOpen remaining
        | none => if snapshot.busy then .skippedBusy snapshot else .probe snapshot

/-- What has to hold of a device for a cycle to probe it. -/
structure ProbeDue (env : Env) (options : ProbeOptions) (running : Bool)
    (reported : Option ProbeSnapshot) (health : DeviceHealth) (snapshot : ProbeSnapshot) :
    Prop where
  reported : reported = some snapshot
  notRunning : running = false
  group : snapshot.isAudioGroup = true → options.groups = true
  video : options.excludesVideo snapshot = false
  circuit : ∀ t, health.circuitOpenUntil = some t → t ≤ env.monotonic
  idle : snapshot.busy = false

theorem circuitRemaining_eq_none {env : Env} {health : DeviceHealth} :
    circuitRemaining env health = none ↔
      ∀ t, health.circuitOpenUntil = some t → t ≤ env.monotonic := by
  unfold circuitRemaining
  cases health.circuitOpenUntil with
  | none => simp
  | some t => simp [Option.filter_some]

/-- `_decide` returns `probe` in exactly the states in which a probe is due. -/
theorem decide_eq_probe {env : Env} {options : ProbeOptions} {running : Bool}
    {reported : Option ProbeSnapshot} {health : DeviceHealth} {snapshot : ProbeSnapshot} :
    options.decide env running reported health = .probe snapshot ↔
      ProbeDue env options running reported health snapshot := by
  unfold ProbeOptions.decide
  constructor
  · intro h
    cases hrunning : running with
    | true => simp [hrunning] at h
    | false =>
      cases reported with
      | none => simp [hrunning] at h
      | some s =>
        cases hcircuit : circuitRemaining env health with
        | some remaining =>
          simp only [hrunning, hcircuit, Bool.false_eq_true, if_false] at h
          split_ifs at h
        | none =>
          simp only [hrunning, hcircuit, Bool.false_eq_true, if_false] at h
          split_ifs at h with hgroup hvideo hbusy
          obtain rfl : s = snapshot := Decision.probe.inj h
          exact ⟨rfl, rfl, by simpa using hgroup, by simpa using hvideo,
            circuitRemaining_eq_none.mp hcircuit, by simpa using hbusy⟩
  · rintro ⟨rfl, hrunning, hgroup, hvideo, hcircuit, hidle⟩
    have hg : (snapshot.isAudioGroup && !options.groups) = false := by
      cases hs : snapshot.isAudioGroup with
      | false => rfl
      | true => simp [hgroup hs]
    simp [hrunning, hg, hvideo, circuitRemaining_eq_none.mpr hcircuit, hidle]

end CastDelivery
