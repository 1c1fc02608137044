import Remit.Transfer.Record

/-!
# The ledger

The ledger holds accounts and transfers, each list in the order of its ids. Ids are
handed out one after another from 1: the next account id is one more than the number
of accounts, the next transfer id one more than the number of transfers. Nothing is ever
deleted, and a failed operation returns no new ledger at all, so a failure never uses
up an id.

This module has the ledger's reads and the two writes that the operations are made of:
changing one account's balance and changing one transfer's status.

The main statements: `total_adjust` (changing one balance changes the total by the
change), `accounts_adjust_length`, and `findAccount?_adjust`.
-/

set_option autoImplicit false

namespace Remit

/-- An account: its id, its user and its balance in cents (`src/src/domain/account/mod.rs:7-11`). -/
structure Account where
  id : AccountId
  user : UserId
  balance : Int
  deriving DecidableEq, Repr

/-- The accounts and transfers, each in the order of its ids (`src/src/store/sqlite.rs:33-53`). -/
structure Ledger where
  accounts : List Account := []
  transfers : List TransferRecord := []
  deriving DecidableEq, Repr

namespace Ledger

/-- The ledger with no accounts and no transfers. -/
def empty : Ledger := {}

/-- The id the next opened account gets. -/
def nextAccountId (l : Ledger) : AccountId := ⟨l.accounts.length + 1⟩

/-- The id the next stored transfer gets. -/
def nextTransferId (l : Ledger) : TransferId := ⟨l.transfers.length + 1⟩

/-- The account with the id, if any. -/
def findAccount? (l : Ledger) (a : AccountId) : Option Account :=
  l.accounts.find? (·.id == a)

/-- The account of the user, if any. -/
def findUser? (l : Ledger) (u : UserId) : Option Account :=
  l.accounts.find? (·.user == u)

/-- The transfer with the id, if any. -/
def findTransfer? (l : Ledger) (t : TransferId) : Option TransferRecord :=
  l.transfers.find? (·.id == t)

/-- The account with the id (`src/src/store/sqlite.rs:502-513`). -/
def findAccount (l : Ledger) (a : AccountId) : Except Fault Account :=
  match l.findAccount? a with
  | some x => .ok x
  | none => .error (.noAccount a)

/-- The account of the user (`src/src/store/sqlite.rs:193-204`). -/
def findUser (l : Ledger) (u : UserId) : Except Fault Account :=
  match l.findUser? u with
  | some x => .ok x
  | none => .error (.noAccountOfUser u)

/-- The transfer with the id (`src/src/store/sqlite.rs:515-529`). -/
def findTransfer (l : Ledger) (t : TransferId) : Except Fault TransferRecord :=
  match l.findTransfer? t with
  | some r => .ok r
  | none => .error (.noTransfer t)

/-- The balance of the account with the id, as a decimal with two places
(`src/src/store/sqlite.rs:187-191`). -/
def balanceOf (l : Ledger) (a : AccountId) : Except Fault Decimal := do
  let x ← l.findAccount a
  pure (Decimal.ofCents x.balance)

/-- The transfers that the account pays or receives, newest first
(`src/src/store/sqlite.rs:261-280`). -/
def history (l : Ledger) (a : AccountId) : List TransferRecord :=
  (l.transfers.filter (·.involves a)).reverse

/-- The pending transfers in which the account takes the role, newest first
(`src/src/store/sqlite.rs:282-307`). -/
def pending (l : Ledger) (a : AccountId) (r : Role) : List TransferRecord :=
  (l.transfers.filter (fun x => x.party r == a && x.status == .pending)).reverse

/-- The sum of the balances of a list of accounts. -/
def balanceSum : List Account → Int
  | [] => 0
  | x :: xs => x.balance + balanceSum xs

/-- The sum of all balances. -/
def total (l : Ledger) : Int :=
  balanceSum l.accounts

/-- Changes the balance of the account with the id by `f`. -/
def adjust (l : Ledger) (a : AccountId) (f : Int → Int) : Ledger :=
  { l with accounts := l.accounts.map fun x => if x.id = a then { x with balance := f x.balance } else x }

/-- Sets the status of the transfer with the id. -/
def restatus (l : Ledger) (t : TransferId) (s : Status) : Ledger :=
  { l with transfers := l.transfers.map fun r => if r.id = t then { r with status := s } else r }

/-- Changing a balance keeps the number of accounts. -/
theorem accounts_adjust_length (l : Ledger) (a : AccountId) (f : Int → Int) :
    (l.adjust a f).accounts.length = l.accounts.length := by
  simp [adjust]

/-- Changing a balance leaves the transfers as they were. -/
theorem transfers_adjust (l : Ledger) (a : AccountId) (f : Int → Int) :
    (l.adjust a f).transfers = l.transfers := rfl

/-- Changing a transfer's status leaves the accounts as they were. -/
theorem accounts_restatus (l : Ledger) (t : TransferId) (s : Status) :
    (l.restatus t s).accounts = l.accounts := rfl

/-- Looking an account up after a balance changed finds it with the changed balance if it is the
account changed, and as it was otherwise. -/
theorem findAccount?_adjust (l : Ledger) (a b : AccountId) (f : Int → Int) :
    (l.adjust a f).findAccount? b =
      (l.findAccount? b).map fun x => if x.id = a then { x with balance := f x.balance } else x := by
  simp only [findAccount?, adjust, List.find?_map]
  have hp : ((fun x : Account => x.id == b) ∘
      fun x => if x.id = a then { x with balance := f x.balance } else x) =
      (fun x => x.id == b) := by
    funext x
    by_cases h : x.id = a <;> simp [h]
  rw [hp]

/-- Changing the balance of one account leaves what looking up another id finds. -/
theorem findAccount?_adjust_of_ne (l : Ledger) {a b : AccountId} (f : Int → Int) (h : b ≠ a) :
    (l.adjust a f).findAccount? b = l.findAccount? b := by
  rw [findAccount?_adjust]
  cases hx : l.findAccount? b with
  | none => rfl
  | some x =>
    have hid : x.id = b := by simpa using List.find?_some hx
    simp [hid, h]

/-- The sum of the balances of two lists of accounts, one after the other, is the sum of their sums.
-/
theorem balanceSum_append (xs ys : List Account) :
    balanceSum (xs ++ ys) = balanceSum xs + balanceSum ys := by
  induction xs with
  | nil => simp [balanceSum]
  | cons x xs ih =>
    simp only [List.cons_append, balanceSum, ih]
    omega

/-- The sum over a list after changing the entries with one id, when that id appears once. -/
theorem sum_map_adjust (xs : List Account) (a : AccountId) (f : Int → Int) (x : Account)
    (hx : xs.find? (·.id == a) = some x) (huniq : (xs.filter (·.id == a)).length = 1) :
    balanceSum (xs.map fun y => if y.id = a then { y with balance := f y.balance } else y) =
      balanceSum xs + (f x.balance - x.balance) := by
  induction xs with
  | nil => simp at hx
  | cons y ys ih =>
    by_cases hy : y.id = a
    · simp only [List.find?_cons, hy, beq_self_eq_true, Option.some.injEq] at hx
      subst hx
      have hrest : (ys.filter (·.id == a)).length = 0 := by
        simp [hy] at huniq
        simpa using huniq
      have hnone : ∀ z ∈ ys, z.id ≠ a := by
        intro z hz hza
        have : z ∈ ys.filter (·.id == a) := by simp [hz, hza]
        rw [List.length_eq_zero_iff.mp hrest] at this
        simp at this
      have hmap : (ys.map fun y => if y.id = a then { y with balance := f y.balance } else y) = ys := by
        rw [List.map_congr_left (g := id)]
        · simp
        · intro z hz
          simp [hnone z hz]
      simp [balanceSum, hy, hmap]
      omega
    · simp only [List.find?_cons, show (y.id == a) = false by simpa using hy] at hx
      have huniq' : (ys.filter (·.id == a)).length = 1 := by
        simpa [List.filter_cons, hy] using huniq
      simp only [List.map_cons, balanceSum, if_neg hy]
      rw [ih hx huniq']
      omega

/-- Changing the balance of an account whose id is unique changes the total by the change. -/
theorem total_adjust (l : Ledger) (a : AccountId) (f : Int → Int) (x : Account)
    (hx : l.findAccount? a = some x) (huniq : (l.accounts.filter (·.id == a)).length = 1) :
    (l.adjust a f).total = l.total + (f x.balance - x.balance) :=
  sum_map_adjust l.accounts a f x hx huniq

end Ledger

end Remit
