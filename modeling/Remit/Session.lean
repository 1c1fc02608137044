import Remit.Engine

/-!
# Sessions

A user acts through a session: the user's account, found by user id, on whose behalf
the engine is called. A session sends to and requests from other users by their user
ids, which are turned into accounts first; it decides, lists and shows transfers as
its own account.

The main statements: `Member.sendTo_run` (a session's send is the engine's send between
the two users' accounts) and `Ledger.member_eq_ok_iff`.
-/

set_option autoImplicit false

namespace Remit

/-- A user together with the account that the user acts as (`src/src/access.rs:60-73`). -/
structure Member where
  account : AccountId
  user : UserId
  deriving DecidableEq, Repr

namespace Ledger

/-- Opens a session for the user (`src/src/access.rs:45-53`). -/
def member (l : Ledger) (u : UserId) : Except Fault Member := do
  let a ← l.findUser u
  pure ⟨a.id, a.user⟩

/-- A user is a member exactly when the user has an account, the member acting as that account. -/
theorem member_eq_ok_iff (l : Ledger) (u : UserId) (m : Member) :
    l.member u = .ok m ↔ ∃ a, l.findUser? u = some a ∧ m = ⟨a.id, a.user⟩ := by
  unfold member findUser
  cases ha : l.findUser? u with
  | none => simp [bind, Except.bind]
  | some a =>
    simp only [bind, Except.bind, pure, Except.pure, Except.ok.injEq, Option.some.injEq]
    constructor
    · intro h
      exact ⟨a, rfl, h.symm⟩
    · rintro ⟨b, rfl, rfl⟩
      rfl

end Ledger

namespace Member

/-- The session's balance (`src/src/access.rs:75-77`). -/
def balance (m : Member) (l : Ledger) : Except Fault Decimal :=
  l.balanceOf m.account

/-- Sends money to another user's account (`src/src/access.rs:79-90`). -/
def sendTo (m : Member) (u : UserId) (amount : Decimal) : Call Fault TransferRecord := do
  let payee ← Call.read (·.findUser u)
  Engine.send m.account payee.id amount

/-- Asks another user's account for money (`src/src/access.rs:92-103`). -/
def requestFrom (m : Member) (u : UserId) (amount : Decimal) : Call Fault TransferRecord := do
  let payer ← Call.read (·.findUser u)
  Engine.request m.account payer.id amount

/-- Decides a transfer as the session's account (`src/src/access.rs:105-111, 134-143`). -/
def decide (m : Member) (t : TransferId) (d : Decision) : Call Fault TransferRecord :=
  Engine.resolve m.account t d

/-- The session's transfers, newest first (`src/src/access.rs:113-118`). -/
def history (m : Member) (l : Ledger) : List TransferRecord :=
  l.history m.account

/-- The session's pending transfers in a role, newest first (`src/src/access.rs:120-125`). -/
def pending (m : Member) (l : Ledger) (r : Role) : List TransferRecord :=
  l.pending m.account r

/-- A transfer of the session's account (`src/src/access.rs:127-132`). -/
def transfer (m : Member) (l : Ledger) (t : TransferId) : Except Fault TransferRecord :=
  l.details m.account t

/-- A member's send to a user with an account is the engine's send from the member's account to the
user's. -/
theorem sendTo_run (m : Member) (l : Ledger) (u : UserId) (amount : Decimal) (a : Account)
    (h : l.findUser? u = some a) :
    (m.sendTo u amount).run l = (Engine.send m.account a.id amount).run l := by
  simp [sendTo, Ledger.findUser, h]

end Member

end Remit
