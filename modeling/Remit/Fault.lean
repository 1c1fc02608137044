import Remit.Money.Decimal
import Remit.Ids
import Remit.Transfer.Kind

/-!
# Faults

Every way an operation on the ledger can fail, as a cause with the values that explain
it. Causes fall into six kinds (validation, not found, unauthorized, insufficient
funds, invalid state transition, unavailable), and a fault's message is its kind's
sentence around the cause's detail. Only an unavailable store is worth trying again;
no operation of this library makes one, because the ledger is a value and never busy.

The main statements: `message_eq` (a message is the kind's sentence around the
detail) and `retryable_eq_false` (no cause is worth retrying).
-/

set_option autoImplicit false

namespace Remit

/-- The six kinds of failure (`src/src/domain/error.rs:7-20`). -/
inductive FaultKind where
  | validation
  | notFound
  | unauthorized
  | insufficientFunds
  | invalidTransition
  | unavailable
  deriving DecidableEq, Repr, Inhabited

namespace FaultKind

/-- The kind's printed name. -/
def name : FaultKind → String
  | .validation => "Validation"
  | .notFound => "NotFound"
  | .unauthorized => "Unauthorized"
  | .insufficientFunds => "InsufficientFunds"
  | .invalidTransition => "InvalidStateTransition"
  | .unavailable => "Unavailable"

/-- The kind printed under a name. -/
def ofName? (s : String) : Option FaultKind :=
  [FaultKind.validation, .notFound, .unauthorized, .insufficientFunds, .invalidTransition,
    .unavailable].find? (fun k => k.name = s)

/-- The sentence of the kind around a detail; unauthorized and insufficient funds have
no detail (`src/src/domain/error.rs:8-19`). -/
def describe (k : FaultKind) (detail : String) : String :=
  match k with
  | .validation => "Validation failed: " ++ detail
  | .notFound => "Not found: " ++ detail
  | .unauthorized => "Caller is not allowed to act on this transfer"
  | .insufficientFunds => "Insufficient funds"
  | .invalidTransition => "Invalid state transition: " ++ detail
  | .unavailable => "Store unavailable: " ++ detail

/-- Only a store that is unavailable may work when asked again (`src/src/domain/error.rs:24-28`). -/
def retryable (k : FaultKind) : Bool := k == .unavailable

/-- Every kind of fault is read back from its printed name. -/
theorem ofName?_name (k : FaultKind) : ofName? k.name = some k := by
  cases k <;> rfl

end FaultKind

/-- Why an operation failed (`src/src/domain/error.rs:5-20`). -/
inductive Fault where
  /-- An amount that is zero or negative where a positive one is needed. -/
  | notPositive (amount : Decimal)
  /-- An amount with a non-zero digit past the cents. -/
  | tooPrecise (amount : Decimal)
  /-- An amount whose cents do not fit in 64 bits. -/
  | outOfRange (amount : Decimal)
  /-- A transfer from an account to itself. -/
  | selfTransfer (account : AccountId)
  /-- A transfer that would be stored already rejected. -/
  | bornRejected
  /-- An account opened with less than nothing. -/
  | negativeOpening (amount : Decimal)
  /-- A second account for a user. -/
  | userTaken (user : UserId)
  /-- A request where only a send is taken. -/
  | notASend (kind : Kind)
  /-- A credit that would carry a balance past the largest 64-bit number of cents. -/
  | creditOverflow (amount : Decimal) (account : AccountId)
  /-- No account has the id. -/
  | noAccount (account : AccountId)
  /-- The user has no account. -/
  | noAccountOfUser (user : UserId)
  /-- No transfer has the id. -/
  | noTransfer (transfer : TransferId)
  /-- A decision on a transfer that was never made. -/
  | unrecorded
  /-- A transfer between accounts that do not both exist. -/
  | missingParty
  /-- The caller is not the account the action belongs to. -/
  | unauthorized
  /-- The payer's balance does not cover the amount. -/
  | insufficientFunds
  /-- A second send or request on one transfer. -/
  | alreadyRecorded
  /-- A decision on a transfer that is no longer pending. -/
  | alreadySettled (status : Status)
  /-- A move of a stored transfer to a status that is not final. -/
  | notTerminal (transfer : TransferId) (status : Status)
  /-- A move of a stored transfer that is no longer pending. -/
  | alreadyResolved (transfer : TransferId) (status : Status)
  /-- An event that the engine does not commit in its place. -/
  | outOfPlace (event : String)
  /-- A command that yielded no event, so that nothing was committed. -/
  | noChange
  deriving DecidableEq, Repr

namespace Fault

/-- The kind of a fault. -/
def kind : Fault → FaultKind
  | .notPositive _ | .tooPrecise _ | .outOfRange _ | .selfTransfer _ | .bornRejected
  | .negativeOpening _ | .userTaken _ | .notASend _ | .creditOverflow _ _ => .validation
  | .noAccount _ | .noAccountOfUser _ | .noTransfer _ | .unrecorded | .missingParty => .notFound
  | .unauthorized => .unauthorized
  | .insufficientFunds => .insufficientFunds
  | .alreadyRecorded | .alreadySettled _ | .notTerminal _ _ | .alreadyResolved _ _
  | .outOfPlace _ | .noChange => .invalidTransition

/-- What the fault is about, in the words its kind's sentence frames. -/
def detail : Fault → String
  | .notPositive a => "amount must be positive, got " ++ a.render
  | .tooPrecise a => "amount " ++ a.render ++ " has more than 2 fractional digits"
  | .outOfRange a => "amount " ++ a.render ++ " is out of range"
  | .selfTransfer a => "account " ++ toString a ++ " cannot transfer to itself"
  | .bornRejected => "a transfer cannot be created rejected"
  | .negativeOpening a => "opening balance cannot be negative, got " ++ a.render
  | .userTaken u => "user " ++ toString u ++ " already has an account"
  | .notASend k => "expected a send, got a " ++ k.name
  | .creditOverflow a t =>
    "crediting " ++ a.render ++ " would overflow the balance of account " ++ toString t
  | .noAccount a => "account " ++ toString a
  | .noAccountOfUser u => "account of user " ++ toString u
  | .noTransfer t => "transfer " ++ toString t
  | .unrecorded => "transfer"
  | .missingParty => "FOREIGN KEY constraint failed"
  | .unauthorized => ""
  | .insufficientFunds => ""
  | .alreadyRecorded => "transfer already recorded"
  | .alreadySettled s => "transfer is already " ++ s.name
  | .notTerminal t s => "transfer " ++ toString t ++ " cannot be moved to " ++ s.name
  | .alreadyResolved t s => "transfer " ++ toString t ++ " is already " ++ s.name
  | .outOfPlace e => e ++ " cannot be applied here"
  | .noChange => "command produced no change"

/-- The printed message (`src/src/domain/error.rs:8-19`). -/
def message (f : Fault) : String := f.kind.describe f.detail

/-- Whether asking again may succeed (`src/src/domain/error.rs:25-27`). -/
def retryable (f : Fault) : Bool := f.kind.retryable

/-- A fault's message is its kind's sentence around its detail. -/
theorem message_eq (f : Fault) : f.message = f.kind.describe f.detail := rfl

/-- No fault of the ledger is worth retrying. -/
theorem retryable_eq_false (f : Fault) : f.retryable = false := by
  cases f <;> rfl

end Fault

end Remit
