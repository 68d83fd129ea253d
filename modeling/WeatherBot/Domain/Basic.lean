import WeatherBot.Common.Except
import WeatherBot.Common.Calendar
import WeatherBot.Common.JsonText

/-!
# Errors and the runtime

* `Error`: an exception, its class and its message.
* `Runtime`: the parts of the Python runtime that the model does not spell out,
  as functions.
-/

namespace WeatherBot.Domain

open WeatherBot.Common

/-! ## Exceptions -/

/-- The class of an exception: `domain/errors.py`, `persistence/errors.py`, and the built-in
classes that the code raises or lets through. -/
inductive ErrorKind where
  | valueError
  | typeError
  /-- `decimal.InvalidOperation`: a result with more digits than the context has. -/
  | invalidOperation
  | overflowError
  | keyError
  | invalidTransition
  | invariantViolation
  | duplicateEventConflict
  | aggregateNotFound
  | persistenceError
  | schemaVersionError
  | corruptLedgerError
  | duplicateIntentError
  | concurrentDecisionError
  | recoveryRequiredError
  /-- `sqlite3.IntegrityError`. -/
  | integrityError
  | assertionError
deriving DecidableEq, Repr

/-- An exception. -/
structure Error where
  kind : ErrorKind
  message : String
deriving DecidableEq, Repr

namespace Error

def valueError (message : String) : Error := ⟨.valueError, message⟩
def typeError (message : String) : Error := ⟨.typeError, message⟩
def invalidTransition (message : String) : Error := ⟨.invalidTransition, message⟩
def invariantViolation (message : String) : Error := ⟨.invariantViolation, message⟩
def duplicateEventConflict (message : String) : Error := ⟨.duplicateEventConflict, message⟩
def aggregateNotFound (message : String) : Error := ⟨.aggregateNotFound, message⟩

end Error

/-! ## The runtime -/

/-- What the code takes from Python's library: the Unicode case mappings, URL parsing, the time
zone database, `repr` of a text and SHA-256. -/
structure Runtime where
  upper : CaseMapping
  lower : CaseMapping
  casefold : CaseMapping
  /-- `urlparse` finds the scheme `http` or `https` and a network location. -/
  isHttpUrl : String → Bool
  /-- `ZoneInfo(name)` does not raise. -/
  zoneKnown : String → Bool
  /-- The local date of an instant in a zone; `none` outside years 1 to 9999. -/
  localDate : String → ℤ → Option Date
  /-- The instant of a local date and a time of day in microseconds. -/
  localInstant : String → Date → ℕ → ℤ
  /-- `repr` of a text. -/
  repr : String → String
  /-- `hashlib.sha256` of a text in UTF-8, in hexadecimal. -/
  sha256 : String → String
  /-- `hashlib.sha256` of `json.dumps(value, sort_keys=True, separators=(",", ":"))`. -/
  sha256Json : Json → String

/-- A runtime for ASCII texts with UTC as its only time zone. A text is its own hash. -/
def Runtime.utc : Runtime where
  upper := .asciiUpper
  lower := .asciiLower
  casefold := .asciiLower
  isHttpUrl url := ("http://".isPrefixOf url || "https://".isPrefixOf url)
  zoneKnown name := name == "UTC"
  localDate _ instant :=
    if 0 ≤ instant then Date.fromordinal ((instant / dayMicros).toNat + 1) else none
  localInstant _ date micros := (date.toordinal - 1) * dayMicros + micros
  repr s := "'" ++ s ++ "'"
  sha256 s := s
  sha256Json := Json.dumps

end WeatherBot.Domain
