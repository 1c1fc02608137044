import Remit.Ledger.Basic

/-!
# Opening accounts and moving money

An account opens with a balance of whole cents, not negative, for a user who has none
yet; it takes the next account id. Money moves from a payer to a payee in one step that
either happens whole or not at all: the amount must be positive and a whole number of
cents, the payer is debited only if the balance covers it, and the payee is credited
only if the balance stays within 64 bits. A failure at the credit leaves the debit
undone, because the failed step returns no ledger.

The main statements: `openAccount_total` (opening adds the opening balance to the sum
of all balances), `moveFunds_transfers` (moving money stores no transfer) and
`move_self` (no account pays itself).
-/

set_option autoImplicit false

namespace Remit

namespace Ledger

/-- The largest balance an account can hold, in cents: `2 ^ 63 - 1`. -/
def maxBalance : Int := 9223372036854775807

/-- Opens an account for the user with the opening balance. The checks, in order: the
balance converts to cents, it is not negative, and the user has no account yet
(`src/src/store/sqlite.rs:137-177`). -/
def openAccount (l : Ledger) (u : UserId) (opening : Decimal) :
    Except Fault (Account × Ledger) := do
  let c ← opening.toCents
  if c < 0 then throw (.negativeOpening opening)
  if (l.findUser? u).isSome then throw (.userTaken u)
  let a : Account := ⟨l.nextAccountId, u, c⟩
  pure (a, { l with accounts := l.accounts ++ [a] })

/-- Takes `c` cents from the account if its balance covers them
(`src/src/store/sqlite.rs:397-413`). -/
def debit (l : Ledger) (a : AccountId) (c : Int) : Except Fault Ledger :=
  match l.findAccount? a with
  | none => .error (.noAccount a)
  | some x => if c ≤ x.balance then .ok (l.adjust a (· - c)) else .error .insufficientFunds

/-- Gives `c` cents to the account if its balance stays within 64 bits; `amount` is the
amount as it was asked for, for the message (`src/src/store/sqlite.rs:415-431`). -/
def credit (l : Ledger) (a : AccountId) (c : Int) (amount : Decimal) : Except Fault Ledger :=
  match l.findAccount? a with
  | none => .error (.noAccount a)
  | some x =>
    if x.balance ≤ maxBalance - c then .ok (l.adjust a (· + c))
    else .error (.creditOverflow amount a)

/-- Moves the amount from the payer to the payee: a positive amount of whole cents,
debited first and credited second (`src/src/store/sqlite.rs:383-434`). -/
def moveFunds (l : Ledger) (payer payee : AccountId) (amount : Decimal) : Except Fault Ledger := do
  let c ← amount.transferCents
  let l' ← l.debit payer c
  l'.credit payee c amount

/-- Moves money between two different accounts (`src/src/store/sqlite.rs:218-238`). -/
def move (l : Ledger) (payer payee : AccountId) (amount : Decimal) : Except Fault Ledger :=
  if payer = payee then .error (.selfTransfer payer) else l.moveFunds payer payee amount

/-- A debit that goes through stores no transfer. -/
theorem debit_transfers (l l' : Ledger) (a : AccountId) (c : Int) (h : l.debit a c = .ok l') :
    l'.transfers = l.transfers := by
  unfold debit at h
  split at h
  · cases h
  · split at h
    · cases h
      rfl
    · cases h

/-- A credit that goes through stores no transfer. -/
theorem credit_transfers (l l' : Ledger) (a : AccountId) (c : Int) (amount : Decimal)
    (h : l.credit a c amount = .ok l') : l'.transfers = l.transfers := by
  unfold credit at h
  split at h
  · cases h
  · split at h
    · cases h
      rfl
    · cases h

/-- Moving money stores no transfer. -/
theorem moveFunds_transfers (l l' : Ledger) (p q : AccountId) (amount : Decimal)
    (h : l.moveFunds p q amount = .ok l') : l'.transfers = l.transfers := by
  simp only [moveFunds, bind, Except.bind] at h
  split at h
  · cases h
  · split at h
    · cases h
    · next l1 h1 =>
      rw [credit_transfers l1 l' q _ amount h, debit_transfers l l1 p _ h1]

/-- No account pays itself. -/
theorem move_self (l : Ledger) (a : AccountId) (amount : Decimal) :
    l.move a a amount = .error (.selfTransfer a) := by
  simp [move]

/-- Opening an account adds its opening balance to the total. -/
theorem openAccount_total (l l' : Ledger) (u : UserId) (opening : Decimal) (a : Account)
    (h : l.openAccount u opening = .ok (a, l')) : l'.total = l.total + a.balance := by
  simp only [openAccount, bind, Except.bind] at h
  split at h
  · cases h
  · split at h
    · cases h
    · split at h
      · cases h
      · simp only [pure, Except.pure, Except.ok.injEq, Prod.mk.injEq] at h
        obtain ⟨rfl, rfl⟩ := h
        simp [total, balanceSum_append, balanceSum]

end Ledger

end Remit
