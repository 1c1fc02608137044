import Remit.Ledger.Funds

/-!
# Storing and settling transfers

A draft is stored under the next transfer id once it validates and both of its
accounts exist. A send is recorded together with its money: the draft is validated,
must be a send, and is stored only after the money has moved. A stored transfer is
settled by moving it from pending to a final status, and only from pending; approving
a request moves it to approved and moves its money in the same step, so a request
whose payer cannot pay stays pending.

The main statements: `insert_transfers` (storing appends one record under the next
id), `settle_pending` (what settling needs), and `settle_accounts` (settling moves no
money).
-/

set_option autoImplicit false

namespace Remit

namespace Ledger

/-- Stores a valid draft between two existing accounts under the next transfer id
(`src/src/store/sqlite.rs:468-500`). -/
def insert (l : Ledger) (d : Draft) : Except Fault (TransferRecord × Ledger) := do
  let c ← d.validate
  match l.findAccount? d.payer, l.findAccount? d.payee with
  | some _, some _ =>
    let r := d.toRecord l.nextTransferId c
    pure (r, { l with transfers := l.transfers ++ [r] })
  | _, _ => throw .missingParty

/-- Stores a draft and gives its id; no money moves (`src/src/store/sqlite.rs:243-251`). -/
def create (l : Ledger) (d : Draft) : Except Fault (TransferId × Ledger) := do
  let (r, l') ← l.insert d
  pure (r.id, l')

/-- Records a send: the draft validates, is a send, its money moves, and it is stored
(`src/src/store/sqlite.rs:330-354`). -/
def recordSend (l : Ledger) (d : Draft) : Except Fault (TransferRecord × Ledger) := do
  let _ ← d.validate
  if d.kind ≠ .send then throw (.notASend d.kind)
  let l' ← l.moveFunds d.payer d.payee d.amount
  l'.insert d

/-- Moves a stored transfer from pending to a final status (`src/src/store/sqlite.rs:436-466`). -/
def settle (l : Ledger) (t : TransferId) (s : Status) : Except Fault Ledger :=
  if !s.isTerminal then .error (.notTerminal t s)
  else
    match l.findTransfer? t with
    | none => .error (.noTransfer t)
    | some r =>
      if r.status = .pending then .ok (l.restatus t s) else .error (.alreadyResolved t r.status)

/-- Approves a pending transfer and moves its money, in one step; gives the transfer
as it stands after the approval (`src/src/store/sqlite.rs:356-380`). -/
def approve (l : Ledger) (t : TransferId) : Except Fault (TransferRecord × Ledger) := do
  let l₁ ← l.settle t .approved
  let r ← l₁.findTransfer t
  let l₂ ← l₁.moveFunds r.payer r.payee r.decimal
  pure (r, l₂)

/-- Storing a draft appends its record under the next id. -/
theorem insert_transfers (l l' : Ledger) (d : Draft) (r : TransferRecord)
    (h : l.insert d = .ok (r, l')) :
    r.id = l.nextTransferId ∧ l'.transfers = l.transfers ++ [r] ∧ l'.accounts = l.accounts := by
  simp only [insert, bind, Except.bind] at h
  split at h
  · cases h
  · split at h
    · simp only [pure, Except.pure, Except.ok.injEq, Prod.mk.injEq] at h
      obtain ⟨rfl, rfl⟩ := h
      exact ⟨rfl, rfl, rfl⟩
    · cases h

/-- Settling needs a final status and a stored pending transfer. -/
theorem settle_pending (l l' : Ledger) (t : TransferId) (s : Status)
    (h : l.settle t s = .ok l') :
    s.isTerminal = true ∧ ∃ r, l.findTransfer? t = some r ∧ r.status = .pending ∧
      l' = l.restatus t s := by
  unfold settle at h
  split at h
  · cases h
  · next hs =>
    refine ⟨by simpa using hs, ?_⟩
    split at h
    · cases h
    · next r hr =>
      split at h
      · next hp =>
        cases h
        exact ⟨r, hr, hp, rfl⟩
      · cases h

/-- Settling moves no money. -/
theorem settle_accounts (l l' : Ledger) (t : TransferId) (s : Status) (h : l.settle t s = .ok l') :
    l'.accounts = l.accounts := by
  obtain ⟨-, r, -, -, rfl⟩ := settle_pending l l' t s h
  rfl

end Ledger

end Remit
