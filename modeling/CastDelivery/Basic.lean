import CastDelivery.Lib.Numeral

/-!
# What the integration reads from outside, and its constants

The identifiers, clocks and exceptions the integration handles, the constants of `const.py`,
and `Env`, the values one callback reads from Home Assistant while it runs. A callback runs
to its end on the event loop, so one reading of each clock stands for all it makes.

A `datetime` is a count of microseconds and a reading of `time.monotonic()` a count of
nanoseconds, both as integers.
-/

namespace CastDelivery

/-- `uuid.UUID`. -/
structure UUID where
  int : BitVec 128
deriving DecidableEq, Repr, Inhabited

/-- The `k`-th hexadecimal digit of a uuid, most significant first. -/
def UUID.digit (u : UUID) (k : ℕ) : Char :=
  Nat.digitChar ((u.int.toNat >>> (4 * (31 - k))) % 16)

/-- `str(uuid)`: 32 hexadecimal digits in groups of 8, 4, 4, 4 and 12. -/
def UUID.str (u : UUID) : String :=
  String.ofList ((List.range 32).flatMap fun k =>
    if k ∈ [8, 12, 16, 20] then ['-', u.digit k] else [u.digit k])

/-- A `datetime`, in microseconds. -/
abbrev DateTime := Int

/-- A reading of `time.monotonic()`, in nanoseconds. -/
abbrev Monotonic := Int

/-- Nanoseconds in a second. -/
def second : Monotonic := 1000000000

/-- `n / d` rounded to an integer, ties to even, for positive `d`. -/
def roundDiv (n d : Int) : Int :=
  let q := n / d
  let r := n % d
  if 2 * r < d then q else if d < 2 * r then q + 1 else if q % 2 = 0 then q else q + 1

/-! ## `const.py` -/

/-- `DELIVERY_TIMEOUT`, in seconds. -/
def DELIVERY_TIMEOUT : ℕ := 30

/-- `CIRCUIT_BREAKER_TIMEOUTS`. -/
def CIRCUIT_BREAKER_TIMEOUTS : ℕ := 2

/-- `CIRCUIT_BREAKER_MAX_BACKOFF`, in seconds. -/
def CIRCUIT_BREAKER_MAX_BACKOFF : ℕ := 3600

/-- `LEDGER_SIZE`. -/
def LEDGER_SIZE : ℕ := 50

/-! ## Exceptions -/

/-- The classes of exceptions the integration tells apart. -/
inductive ExcClass
  | timeoutError
  | homeAssistantError
  | requestTimeout
  | requestFailed
  | notConnected
  | chromecastConnectionError
  /-- Any other subclass of `PyChromecastError`. -/
  | otherPyChromecast (name : String)
  /-- Any other exception. -/
  | other (name : String)
deriving DecidableEq, Repr

/-- `type(e).__name__`. -/
def ExcClass.name : ExcClass → String
  | .timeoutError => "TimeoutError"
  | .homeAssistantError => "HomeAssistantError"
  | .requestTimeout => "RequestTimeout"
  | .requestFailed => "RequestFailed"
  | .notConnected => "NotConnected"
  | .chromecastConnectionError => "ChromecastConnectionError"
  | .otherPyChromecast name => name
  | .other name => name

/-- `isinstance(e, PyChromecastError)`. -/
def ExcClass.isPyChromecastError : ExcClass → Bool
  | .requestTimeout | .requestFailed | .notConnected | .chromecastConnectionError => true
  | .otherPyChromecast _ => true
  | .timeoutError | .homeAssistantError | .other _ => false

/-- `except (TimeoutError, HomeAssistantError)`. -/
def ExcClass.caught (cls : ExcClass) : Bool := cls = .timeoutError ∨ cls = .homeAssistantError

/-- An exception: its class and `str(e)`. -/
structure Exc where
  cls : ExcClass
  str : String
deriving DecidableEq, Repr

/-- A raised exception with its `__cause__`. -/
structure Raised where
  exc : Exc
  cause : Option Exc
deriving DecidableEq, Repr

/-- `HomeAssistantError("Chromecast is not available.")`. -/
def unavailableError : Raised := ⟨⟨.homeAssistantError, "Chromecast is not available."⟩, none⟩

/-- `api_error`, on what its function raises; `func` is the name of the function. -/
def apiError (func : String) (err : Raised) : Raised :=
  if err.exc.cls.isPyChromecastError then
    ⟨⟨.homeAssistantError, s!"CastMediaPlayerEntity.{func} Failed: {err.exc.str}"⟩, some err.exc⟩
  else err

/-! ## Strings -/

/-- Whether `str.strip` removes a character: one that `int` skips, or a separator of ASCII. -/
def isSpace (c : Char) : Bool := Numeral.isSpace c || (28 ≤ c.toNat && c.toNat ≤ 31)

theorem isSpace_of_isDigit {c : Char} (h : c.isDigit = true) : isSpace c = false := by
  obtain ⟨hlow, hhigh⟩ := Numeral.toNat_of_isDigit h
  unfold isSpace
  rw [Numeral.isSpace_of_isDigit h, Bool.false_or]
  simp
  omega

/-- `text.strip()`. -/
def strip (text : String) : String :=
  String.ofList ((text.toList.dropWhile isSpace).reverse.dropWhile isSpace).reverse

/-! ## Readings -/

/-- Truthiness of an optional string, as Python's `x or default` uses it. -/
def strOr (x : Option String) (default : String) : String :=
  match x with
  | none => default
  | some s => if s = "" then default else s

/-- What one callback reads from Home Assistant and from `pychromecast`'s tables. -/
structure Env where
  /-- `dt_util.utcnow()`. -/
  utcnow : DateTime
  /-- `time.monotonic()`. -/
  monotonic : Monotonic
  /-- `url_overrides(self.entry).get(uuid)`. -/
  urlOverrides : UUID → Option String
  /-- `get_url(hass, allow_internal=False)`, if there is one. -/
  externalUrl : Option String
  /-- `get_url(hass, allow_external=False)`, if there is one. -/
  internalUrl : Option String
  /-- `MEDIA_PLAYER_ERROR_CODES.get(code)`. -/
  mediaPlayerErrorCodes : Int → Option String

/-- Readings `s` seconds after both clocks were zero, with no URL configured. -/
def Env.bare (s : Int) : Env where
  utcnow := s * 1000000
  monotonic := s * second
  urlOverrides _ := none
  externalUrl := none
  internalUrl := none
  mediaPlayerErrorCodes _ := none

end CastDelivery
