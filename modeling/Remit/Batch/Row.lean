import Remit.Csv.Reader
import Remit.Money.Decimal.Scientific
import Remit.Text.Blank
import Remit.Ids

/-!
# Command rows

A command file is comma separated text whose first record names the columns (a byte
order mark opening the text is passed over by the reader). Every field, names included,
is trimmed of blanks. Columns are found by name in any order and unknown ones are ignored:
`type` (`open`, `send`, `request`, `approve` or `reject`), `user`, and the optional
`counterparty`, `transfer` and `amount`, where an empty field is absent.

Every record must have as many fields as the names. A record's fields are decoded from
left to right and the first that fails is the error; after them, a missing `type`,
`user` or `amount` column is reported, in that order. Integers are read in decimal,
or in hexadecimal after `0x`; an amount plainly or with an exponent.

The main statements: `decodeField_ignored` (an unknown column changes nothing) and
`finishRow_missing_type`.
-/

set_option autoImplicit false

namespace Remit

/-- What a row asks for (`src/src/csv.rs:20-28`). -/
inductive RowKind where
  | openAccount
  | send
  | request
  | approve
  | reject
  deriving DecidableEq, Repr

namespace RowKind

/-- The name of the kind in a command file. -/
def name : RowKind → String
  | .openAccount => "open"
  | .send => "send"
  | .request => "request"
  | .approve => "approve"
  | .reject => "reject"

/-- All kinds, in the order they are listed in messages. -/
def all : List RowKind := [.openAccount, .send, .request, .approve, .reject]

/-- The kind with the name, if any. -/
def ofName? (s : String) : Option RowKind := all.find? (·.name = s)

/-- Every kind of row is read back from its printed name. -/
theorem ofName?_name (k : RowKind) : ofName? k.name = some k := by
  cases k <;> rfl

end RowKind

/-- One decoded command row (`src/src/csv.rs:6-18`). -/
structure CommandRow where
  kind : RowKind
  user : UserId
  counterparty : Option UserId
  transfer : Option TransferId
  amount : Option Decimal
  deriving DecidableEq, Repr

/-- Why a record is not a command row. -/
inductive FieldError where
  /-- The `type` field names no kind. -/
  | unknownKind (text : String)
  /-- An integer field, by column number, does not read. -/
  | badInteger (column : Nat) (e : NumeralError)
  /-- The amount does not read. -/
  | badAmount (e : DecimalError)
  /-- A column name appears twice. -/
  | duplicate (name : String)
  /-- A needed column is missing. -/
  | missing (name : String)
  deriving DecidableEq, Repr

namespace FieldError

/-- The list of kind names, for the message about an unknown kind. -/
def expectedKinds : String :=
  ", ".intercalate (RowKind.all.map fun k => "`" ++ k.name ++ "`")

/-- The printed message. -/
def message : FieldError → String
  | .unknownKind t => "unknown variant `" ++ t ++ "`, expected one of " ++ expectedKinds
  | .badInteger col e => "field " ++ toString col ++ ": " ++ e.message
  | .badAmount e => e.message
  | .duplicate n => "duplicate field `" ++ n ++ "`"
  | .missing n => "missing field `" ++ n ++ "`"

end FieldError

/-- Why a record of a command file does not give a row. -/
inductive ReadError where
  /-- The record has another number of fields than the names. -/
  | shape (pos : Csv.Position) (found expected : Nat)
  /-- A field does not decode. -/
  | decode (pos : Csv.Position) (e : FieldError)
  deriving DecidableEq, Repr

namespace ReadError

/-- Where a record is, as printed. -/
def place (p : Csv.Position) : String :=
  "record " ++ toString p.record ++ " (line: " ++ toString p.line ++ ", byte: " ++
    toString p.byte ++ ")"

/-- The printed message. -/
def message : ReadError → String
  | .shape p found expected =>
    "CSV error: " ++ place p ++ ": found record with " ++ toString found ++
      " fields, but the previous record has " ++ toString expected ++ " fields"
  | .decode p e => "CSV deserialize error: " ++ place p ++ ": " ++ e.message

end ReadError

/-- A row being decoded: each column once seen, and what it held. -/
structure RowDraft where
  kind : Option RowKind := none
  user : Option UserId := none
  counterparty : Option (Option UserId) := none
  transfer : Option (Option TransferId) := none
  amount : Option (Option Decimal) := none
  deriving DecidableEq, Repr

/-- Reads a signed 64-bit integer field: hexadecimal after `0x`, else decimal. -/
def readInteger (column : Nat) (s : String) : Except FieldError Int :=
  let r := if s.startsWith "0x" then Width.i64.read 16 (s.drop 2).toString
    else Width.i64.read 10 s
  match r with
  | .ok n => .ok n
  | .error e => .error (.badInteger column e)

/-- Reads an optional integer field: empty is absent. -/
def readOptInteger (column : Nat) (s : String) : Except FieldError (Option Int) :=
  if s.isEmpty then .ok none else (readInteger column s).map some

/-- Reads an optional amount field: empty is absent (`src/src/csv.rs:16-17`). -/
def readOptAmount (s : String) : Except FieldError (Option Decimal) :=
  if s.isEmpty then .ok none
  else
    match Decimal.parseField s with
    | .ok d => .ok (some d)
    | .error e => .error (.badAmount e)

/-- Fails when the column was seen already. -/
def once {α : Type} (seen : Option α) (name : String) : Except FieldError Unit :=
  if seen.isSome then .error (.duplicate name) else .ok ()

/-- Takes one field of the record into the row being decoded. -/
def decodeField (d : RowDraft) (column : Nat) (name value : String) : Except FieldError RowDraft :=
  match name with
  | "type" => do
    once d.kind name
    match RowKind.ofName? value with
    | some k => pure { d with kind := some k }
    | none => throw (.unknownKind value)
  | "user" => do
    once d.user name
    let n ← readInteger column value
    pure { d with user := some ⟨n⟩ }
  | "counterparty" => do
    once d.counterparty name
    let n ← readOptInteger column value
    pure { d with counterparty := some (n.map UserId.mk) }
  | "transfer" => do
    once d.transfer name
    let n ← readOptInteger column value
    pure { d with transfer := some (n.map TransferId.mk) }
  | "amount" => do
    once d.amount name
    let a ← readOptAmount value
    pure { d with amount := some a }
  | _ => pure d

/-- The row, once every field is taken: `type`, `user` and `amount` must have been seen. -/
def finishRow (d : RowDraft) : Except FieldError CommandRow :=
  match d.kind, d.user, d.amount with
  | none, _, _ => .error (.missing "type")
  | some _, none, _ => .error (.missing "user")
  | some _, some _, none => .error (.missing "amount")
  | some k, some u, some a => .ok ⟨k, u, d.counterparty.getD none, d.transfer.getD none, a⟩

/-- Decodes the fields, paired with their names, from left to right. -/
def decodeFields (d : RowDraft) (column : Nat) : List (String × String) → Except FieldError RowDraft
  | [] => .ok d
  | (name, value) :: rest => do
    let d' ← decodeField d column name value
    decodeFields d' (column + 1) rest

/-- The names of a command file's first record, trimmed. -/
def columnNames (fields : List String) : List String :=
  fields.map Text.trimBlank

/-- Decodes a record under the column names (`src/src/csv.rs:6-18`). -/
def decodeRecord (names : List String) (r : Csv.Record) : Except ReadError CommandRow :=
  if r.fields.length ≠ names.length then .error (.shape r.pos r.fields.length names.length)
  else
    match decodeFields {} 0 (names.zip (r.fields.map Text.trimBlank)) >>= finishRow with
    | .ok row => .ok row
    | .error e => .error (.decode r.pos e)

/-- The rows of a command file, one per record after the names (`src/src/csv.rs:30-41`). -/
def commandRows (text : String) : List (Except ReadError CommandRow) :=
  match Csv.records text with
  | [] => []
  | header :: rest => rest.map (decodeRecord (columnNames header.fields))

/-- A column that is not one of the five leaves the row as it was. -/
theorem decodeField_ignored (d : RowDraft) (column : Nat) (name value : String)
    (h : name ∉ ["type", "user", "counterparty", "transfer", "amount"]) :
    decodeField d column name value = .ok d := by
  simp only [List.mem_cons, List.not_mem_nil, or_false, not_or] at h
  obtain ⟨h1, h2, h3, h4, h5⟩ := h
  unfold decodeField
  split <;> first | rfl | contradiction

/-- A row without a `type` column is refused for it first. -/
theorem finishRow_missing_type (d : RowDraft) (h : d.kind = none) :
    finishRow d = .error (.missing "type") := by
  simp [finishRow, h]

end Remit
