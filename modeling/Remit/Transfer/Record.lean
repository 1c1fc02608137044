import Remit.Transfer.Lifecycle

/-!
# Stored transfers and drafts

A stored transfer carries its id, kind, status, payer, payee and amount in cents. A
draft is a transfer before it has an id, with its amount still as given; storing a
draft validates it first: the amount above zero, two different accounts, a status other
than rejected, and the amount a whole number of cents within 64 bits, in that order.

The main statements: `validate_eq_ok_iff` (exactly the drafts meeting the four
conditions are valid) and `lifecycle_send` (a stored send is what a sent event makes).
-/

set_option autoImplicit false

namespace Remit

/-- A transfer as the ledger stores it (`src/src/domain/transfer/record.rs:11-19`). -/
structure TransferRecord where
  id : TransferId
  kind : Kind
  status : Status
  payer : AccountId
  payee : AccountId
  amount : Int
  deriving DecidableEq, Repr

namespace TransferRecord

/-- Whether the account is the payer or the payee (`src/src/domain/transfer/record.rs:22-24`). -/
def involves (r : TransferRecord) (a : AccountId) : Bool :=
  r.payer == a || r.payee == a

/-- The account that takes the role. -/
def party (r : TransferRecord) : Role → AccountId
  | .payer => r.payer
  | .payee => r.payee

/-- The amount as a decimal with two places (`src/src/domain/props.rs:35-37`). -/
def decimal (r : TransferRecord) : Decimal := Decimal.ofCents r.amount

/-- The life of the stored transfer, as far as it has gone
(`src/src/domain/transfer/aggregate.rs:86-97`). -/
def lifecycle (r : TransferRecord) : Lifecycle :=
  Lifecycle.ofParts r.kind r.status r.payer r.payee r.decimal

end TransferRecord

/-- A transfer about to be stored (`src/src/domain/transfer/record.rs:29-35`). -/
structure Draft where
  kind : Kind
  status : Status
  payer : AccountId
  payee : AccountId
  amount : Decimal
  deriving DecidableEq, Repr

namespace Draft

/-- A send, settled the moment it is stored (`src/src/domain/transfer/record.rs:39-47`). -/
def send (payer payee : AccountId) (amount : Decimal) : Draft :=
  ⟨.send, .approved, payer, payee, amount⟩

/-- A request, pending until its payer decides (`src/src/domain/transfer/record.rs:49-57`). -/
def request (payer payee : AccountId) (amount : Decimal) : Draft :=
  ⟨.request, .pending, payer, payee, amount⟩

/-- The checks a draft passes before it is stored, in order, giving its cents
(`src/src/domain/transfer/record.rs:59-81`). -/
def validate (d : Draft) : Except Fault Int :=
  if !d.amount.isPositive then .error (.notPositive d.amount)
  else if d.payer = d.payee then .error (.selfTransfer d.payer)
  else if d.status = .rejected then .error .bornRejected
  else d.amount.toCents

/-- The stored form of a valid draft under an id (`src/src/store/sqlite.rs:490-499`). -/
def toRecord (d : Draft) (id : TransferId) (cents : Int) : TransferRecord :=
  ⟨id, d.kind, d.status, d.payer, d.payee, cents⟩

/-- A draft is valid exactly when its amount is positive and converts to cents, its
accounts differ, and it is not rejected. -/
theorem validate_eq_ok_iff (d : Draft) (c : Int) :
    d.validate = .ok c ↔
      d.amount.isPositive = true ∧ d.payer ≠ d.payee ∧ d.status ≠ .rejected ∧
        d.amount.toCents = .ok c := by
  unfold validate
  by_cases hp : d.amount.isPositive = true
  · by_cases hq : d.payer = d.payee
    · simp [hp, hq]
    · by_cases hs : d.status = .rejected
      · simp [hp, hq, hs]
      · simp [hp, hq, hs]
  · simp [hp]

end Draft

/-- A stored send is the state that its sent event makes. -/
theorem lifecycle_send (r : TransferRecord) (h : r.kind = .send) (hs : r.status = .approved) :
    r.lifecycle = Lifecycle.fresh.apply (.sent r.payer r.payee r.decimal) := by
  simp [TransferRecord.lifecycle, Lifecycle.apply, h, hs]

end Remit
