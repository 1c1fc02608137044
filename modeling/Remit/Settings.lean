import Remit.Numeral
import Remit.Text.Blank
import Remit.Text.Quoted

/-!
# Store settings

The ledger's settings come from four environment variables: the database location,
taken as it is, and three numbers (the connection count, a 32-bit number, and two
timeouts in milliseconds, 64-bit numbers). A number is trimmed of blanks and read in
decimal; an unset variable takes its default. The numbers are read in a fixed order,
and the first that fails to read is the error.

The main statements: `ofEnv_unset` (with nothing set, the defaults) and
`readNumber_unset`.
-/

set_option autoImplicit false

namespace Remit

/-- The settings of the store (`src/src/config.rs:14-21`). -/
structure Settings where
  databaseUrl : String
  maxConnections : Nat
  busyTimeoutMs : Nat
  operationTimeoutMs : Nat
  deriving DecidableEq, Repr

/-- A variable, by name, whose value is not a number of its width. -/
structure SettingError where
  name : String
  raw : String
  reason : NumeralError
  deriving DecidableEq, Repr

namespace SettingError

/-- The printed message, showing the value as it was set, quoted (`src/src/config.rs:53-68`). -/
def message (e : SettingError) : String :=
  "Invalid value " ++ Text.quote e.raw ++ " for " ++ e.name ++ ": " ++ e.reason.message

end SettingError

namespace Settings

/-- The variable naming the database (`src/src/config.rs:5`). -/
def urlVariable : String := "PAYMENTS_DATABASE_URL"

/-- The variable with the number of connections (`src/src/config.rs:6`). -/
def connectionsVariable : String := "PAYMENTS_MAX_CONNECTIONS"

/-- The variable with the time to wait on a busy database (`src/src/config.rs:7`). -/
def busyVariable : String := "PAYMENTS_BUSY_TIMEOUT_MS"

/-- The variable with the time an operation may take (`src/src/config.rs:8`). -/
def operationVariable : String := "PAYMENTS_OPERATION_TIMEOUT_MS"

/-- The settings when no variable is set: an in-memory database, four connections, five
seconds of waiting on a busy database, and ten seconds per operation (`src/src/config.rs:23-32`). -/
def defaults : Settings := ⟨"sqlite::memory:", 4, 5000, 10000⟩

/-- Reads the number in a variable, trimmed, or the default when it is unset
(`src/src/config.rs:53-68`). -/
def readNumber (lookup : String → Option String) (name : String) (w : Width)
    (default : Nat) : Except SettingError Nat :=
  match lookup name with
  | none => .ok default
  | some raw =>
    match w.read 10 (Text.trimBlank raw) with
    | .ok n => .ok n.toNat
    | .error e => .error ⟨name, raw, e⟩

/-- Reads the settings from the environment (`src/src/config.rs:39-50`). -/
def ofEnv (lookup : String → Option String) : Except SettingError Settings := do
  let url := (lookup urlVariable).getD defaults.databaseUrl
  let connections ← readNumber lookup connectionsVariable Width.u32 defaults.maxConnections
  let busy ← readNumber lookup busyVariable Width.u64 defaults.busyTimeoutMs
  let operation ← readNumber lookup operationVariable Width.u64 defaults.operationTimeoutMs
  pure ⟨url, connections, busy, operation⟩

/-- A number setting that is not set takes its default. -/
theorem readNumber_unset (name : String) (w : Width) (default : Nat) :
    readNumber (fun _ => none) name w default = .ok default := rfl

/-- With no variable set, the settings are the defaults. -/
theorem ofEnv_unset : ofEnv (fun _ => none) = .ok defaults := rfl

end Settings

end Remit
