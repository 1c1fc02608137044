import Remit.Batch.Row
import Remit.Operation

/-!
# Running a command file

Each row of a command file acts as the user in its `user` column, on one ledger, in
order. An open row needs an amount; a send or request row an amount and then a
counterparty; an approve or reject row a transfer. A row is then one operation on the
ledger: an open row opens an account, and the others act through the user's session.
A row that cannot be decoded, lacks what its kind needs, or is refused by the ledger is
skipped, and the next row runs on the ledger as the skipped one left it.
-/

set_option autoImplicit false

namespace Remit

/-- Why a row was skipped (`src/src/payments.rs:107-119`). -/
inductive RowFault where
  /-- The record did not decode. -/
  | read (e : ReadError)
  /-- An open, send or request row without an amount. -/
  | noAmount (user : UserId)
  /-- A send or request row without a counterparty. -/
  | noCounterparty (user : UserId)
  /-- An approve or reject row without a transfer. -/
  | noTransfer (user : UserId)
  /-- The ledger refused the row. -/
  | ledger (f : Fault)
  deriving DecidableEq, Repr

namespace RowFault

/-- The printed message. -/
def message : RowFault → String
  | .read e => "Error parsing row: " ++ e.message
  | .noAmount u => "No amount found in row for user " ++ toString u
  | .noCounterparty u => "No counterparty found in row for user " ++ toString u
  | .noTransfer u => "No transfer found in row for user " ++ toString u
  | .ledger f => f.message

end RowFault

/-- A present value, or the fault for its absence (`src/src/payments.rs:107-119`). -/
def require {α : Type} (v : Option α) (f : RowFault) : Except RowFault α :=
  match v with
  | some a => .ok a
  | none => .error f

namespace CommandRow

/-- The operation a row asks for, once the values its kind needs are present
(`src/src/payments.rs:39-104`). -/
def operation (row : CommandRow) : Except RowFault Operation :=
  match row.kind with
  | .openAccount => do
    let a ← require row.amount (.noAmount row.user)
    pure (.openAccount row.user a)
  | .send => do
    let a ← require row.amount (.noAmount row.user)
    let u ← require row.counterparty (.noCounterparty row.user)
    pure (.session row.user (.send u a))
  | .request => do
    let a ← require row.amount (.noAmount row.user)
    let u ← require row.counterparty (.noCounterparty row.user)
    pure (.session row.user (.request u a))
  | .approve => do
    let t ← require row.transfer (.noTransfer row.user)
    pure (.session row.user (.approve t))
  | .reject => do
    let t ← require row.transfer (.noTransfer row.user)
    pure (.session row.user (.reject t))

/-- Runs one command row (`src/src/payments.rs:27-37`). -/
def handle (row : CommandRow) : Call RowFault Unit := do
  let op ← MonadExcept.ofExcept row.operation
  let _ ← EStateM.adaptExcept RowFault.ledger op.call
  pure ()

end CommandRow

namespace Ledger

/-- Runs decoded rows in order, each on the ledger the row before it left; each row's
outcome, and the ledger at the end (`src/src/main.rs:34-45`). -/
def runRows (l : Ledger) : List (Except ReadError CommandRow) → List (Except RowFault Unit) × Ledger
  | [] => ([], l)
  | r :: rest =>
    let (outcome, l') : Except RowFault Unit × Ledger :=
      match r with
      | .error e => (.error (.read e), l)
      | .ok row => (row.handle.answer l, row.handle.after l)
    let (outcomes, final) := l'.runRows rest
    (outcome :: outcomes, final)

/-- A batch of no rows answers nothing and leaves the ledger as it was. -/
theorem runRows_nil (l : Ledger) : l.runRows [] = ([], l) := rfl

end Ledger

/-- Runs a command file on an empty ledger: each row's outcome and the final ledger
(`src/src/main.rs:32-45`). -/
def runFile (text : String) : List (Except RowFault Unit) × Ledger :=
  Ledger.empty.runRows (commandRows text)

end Remit
