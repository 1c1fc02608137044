import Remit.Proofs.Resolution

/-!
# Marking a stored transfer

The store moves a stored transfer out of pending by a compare-and-swap on its status: the new
status must be final, the transfer must exist, and it must still be pending; only then is its
status written, and nothing else is. Approving a request is one unit that first claims the
status in this way and then moves the amount from the payer to the payee; when the payer
cannot cover the amount, or the payee's balance would pass `2 ^ 63 - 1` cents, the whole unit
is undone, the claim included, so the transfer is still pending and the ledger as it was.

`Ledger.settleRule` and `Ledger.approvalRule` state both units' outcomes, read off the stored
transfer and the balances of its two accounts; the units follow them on every ledger whose log
is well formed (`transfer_marking_follows_rules`). The messages are the store's own, which
name the transfer's id (`transfer 3 is already Approved`), unlike the transfer life's.
-/

set_option autoImplicit false

namespace Remit

namespace Ledger

/-- The transfers with the one under the id marked with the status. -/
def marked (l : Ledger) (t : TransferId) (s : Status) : List TransferRecord :=
  l.transfers.map fun x => if x.id = t then { x with status := s } else x

/-- How moving a stored transfer to a status comes out: what the caller gets, and the
ledger after it. -/
def settleRule (l : Ledger) (t : TransferId) (s : Status) : EStateM.Result Fault Ledger Unit :=
  if s = .pending then .error (.notTerminal t .pending) l
  else
    match l.findTransfer? t with
    | none => .error (.noTransfer t) l
    | some r =>
      if r.status ≠ .pending then .error (.alreadyResolved t r.status) l
      else .ok () { l with transfers := l.marked t s }

/-- How approving a stored transfer comes out, read off the transfer and the balances of its
payer and payee: what the caller gets, and the ledger after it. -/
def approvalRule (l : Ledger) (t : TransferId) : EStateM.Result Fault Ledger TransferRecord :=
  match l.findTransfer? t with
  | none => .error (.noTransfer t) l
  | some r =>
    if r.status ≠ .pending then .error (.alreadyResolved t r.status) l
    else if l.centsOf r.payer < r.amount then .error .insufficientFunds l
    else if maxBalance < l.centsOf r.payee + r.amount then
      .error (.creditOverflow (Decimal.ofCents r.amount) r.payee) l
    else
      .ok { r with status := .approved }
        ⟨paid l.accounts r.payer r.payee r.amount, l.marked t .approved⟩

/-- Changing a transfer's status leaves the transfers marked with that status. -/
theorem transfers_restatus (l : Ledger) (t : TransferId) (s : Status) :
    (l.restatus t s).transfers = l.marked t s :=
  rfl

/-- Settling follows the rule on every ledger: the status asked for is checked first, then
the transfer is looked up, then its status is compared. -/
theorem run_write_settle (l : Ledger) (t : TransferId) (s : Status) :
    (Call.write (·.settle t s)).run l = l.settleRule t s := by
  rw [Call.run_write]
  by_cases hs : s = .pending
  · subst hs
    simp [settle, settleRule, Status.isTerminal]
  · have hterm : s.isTerminal = true := (Status.isTerminal_iff s).mpr hs
    cases hr : l.findTransfer? t with
    | none => simp [settle, settleRule, hs, hterm, hr]
    | some r =>
      by_cases hp : r.status = .pending
      · simp [settle, settleRule, hs, hterm, hr, hp, restatus, marked]
      · simp [settle, settleRule, hs, hterm, hr, hp]

/-- Approving follows the rule on a ledger whose log is well formed, where the payer and
payee of every stored transfer exist and its amount is a valid number of cents. -/
theorem run_unit_approve (l : Ledger) (hl : l.Logged) (t : TransferId) :
    (Call.unit (·.approve t)).run l = l.approvalRule t := by
  rw [Call.run_unit]
  cases hr : l.findTransfer? t with
  | none => simp [approve, settle, Status.isTerminal, hr, approvalRule, bind, Except.bind]
  | some r =>
    by_cases hp : r.status = .pending
    · -- the claim succeeds, so the money decides the outcome
      rw [approve_of_pending hl hr hp]
      by_cases hcover : l.centsOf r.payer < r.amount
      · simp [approvalRule, hr, hp, hcover]
      · by_cases hroom : maxBalance - r.amount < l.centsOf r.payee
        · have hover : maxBalance < l.centsOf r.payee + r.amount := by omega
          simp [approvalRule, hr, hp, hcover, hroom, hover]
        · have hfit : ¬ maxBalance < l.centsOf r.payee + r.amount := by omega
          simp [approvalRule, hr, hp, hcover, hroom, hfit, transfers_restatus]
    · simp [approve, settle, Status.isTerminal, hr, hp, approvalRule, bind, Except.bind]

end Ledger

/-- On a ledger whose log is well formed, settling a stored transfer follows
`Ledger.settleRule` and approving one follows `Ledger.approvalRule`: a refusal of either
leaves the ledger as it was, also after the approval has claimed the status. -/
theorem transfer_marking_follows_rules (l : Ledger) (hl : l.Logged) (t : TransferId)
    (s : Status) :
    (Call.write (·.settle t s)).run l = l.settleRule t s ∧
      (Call.unit (·.approve t)).run l = l.approvalRule t :=
  ⟨Ledger.run_write_settle l t s, Ledger.run_unit_approve l hl t⟩

/-- A pending request of 0.30 between an account holding 1.00 and an empty one is rejected
and, in its place, approved. -/
theorem transfer_marking_follows_rules_request :
    let l : Ledger := ⟨[⟨⟨1⟩, ⟨1⟩, 100⟩, ⟨⟨2⟩, ⟨2⟩, 0⟩], [⟨⟨1⟩, .request, .pending, ⟨1⟩, ⟨2⟩, 30⟩]⟩
    l.Logged ∧
      ((Call.write (·.settle ⟨1⟩ .rejected)).run l = l.settleRule ⟨1⟩ .rejected ∧
        (Call.unit (·.approve ⟨1⟩)).run l = l.approvalRule ⟨1⟩) := by
  intro l
  have hl : l.Logged := ⟨⟨rfl, rfl⟩, by decide, by decide⟩
  exact ⟨hl, transfer_marking_follows_rules l hl _ _⟩

end Remit
