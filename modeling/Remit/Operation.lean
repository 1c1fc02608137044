import Remit.Session
import Remit.Report

/-!
# Operations on a ledger

Every operation that can be asked of a ledger, as a value, and what each one answers.
`Operation.call` is the call an operation makes: a unit of the store, a read, or an
engine command; a session operation first finds the user's account. `Ledger.runOps`
runs operations one after another, each on the ledger the one before it left.

The main statement: `Operation.after_call_of_isReading` (the reading operations never
change the ledger).
-/

set_option autoImplicit false

namespace Remit

/-- What a session does on behalf of its user. -/
inductive SessionAct where
  | whoami
  | balance
  | send (payee : UserId) (amount : Decimal)
  | request (payer : UserId) (amount : Decimal)
  | approve (t : TransferId)
  | reject (t : TransferId)
  | history
  | pending (role : Role)
  | transfer (t : TransferId)
  deriving DecidableEq, Repr

/-- An operation on the ledger. -/
inductive Operation where
  | openAccount (user : UserId) (balance : Decimal)
  | account (id : AccountId)
  | balance (id : AccountId)
  | accountOfUser (user : UserId)
  | accounts
  | move (payer payee : AccountId) (amount : Decimal)
  | validate (d : Draft)
  | create (d : Draft)
  | recordSend (d : Draft)
  | transfer (id : TransferId)
  | history (account : AccountId)
  | pending (account : AccountId) (role : Role)
  | settle (id : TransferId) (status : Status)
  | approve (id : TransferId)
  | report
  | send (caller payee : AccountId) (amount : Decimal)
  | request (caller payer : AccountId) (amount : Decimal)
  | resolve (caller : AccountId) (id : TransferId) (decision : Decision)
  | details (caller : AccountId) (id : TransferId)
  | session (user : UserId) (act : SessionAct)
  deriving DecidableEq, Repr

namespace Operation

/-- Whether an operation only reads the ledger. -/
def isReading : Operation → Bool
  | .account _ | .balance _ | .accountOfUser _ | .accounts | .validate _ | .transfer _
  | .history _ | .pending _ _ | .report | .details _ _ => true
  | .session _ .whoami | .session _ .balance | .session _ .history | .session _ (.pending _)
  | .session _ (.transfer _) => true
  | _ => false

end Operation

/-- What an operation answers. -/
inductive Reply where
  | done
  | account (a : Account)
  | accounts (as : List Account)
  | amount (d : Decimal)
  | transferId (t : TransferId)
  | transfer (r : TransferRecord)
  | transfers (rs : List TransferRecord)
  | text (s : String)
  | member (m : Member)
  deriving DecidableEq, Repr

namespace Member

/-- Runs one session act as the member. -/
def act (m : Member) : SessionAct → Call Fault Reply
  | .whoami => pure (.member m)
  | .balance => .amount <$> Call.read m.balance
  | .send u a => .transfer <$> m.sendTo u a
  | .request u a => .transfer <$> m.requestFrom u a
  | .approve t => .transfer <$> m.decide t .approve
  | .reject t => .transfer <$> m.decide t .reject
  | .history => Call.read fun l => .ok (.transfers (m.history l))
  | .pending r => Call.read fun l => .ok (.transfers (m.pending l r))
  | .transfer t => .transfer <$> Call.read (m.transfer · t)

end Member

namespace Operation

/-- The call that an operation makes. -/
def call : Operation → Call Fault Reply
  | .openAccount u b => .account <$> Call.unit (·.openAccount u b)
  | .account a => .account <$> Call.read (·.findAccount a)
  | .balance a => .amount <$> Call.read (·.balanceOf a)
  | .accountOfUser u => .account <$> Call.read (·.findUser u)
  | .accounts => Call.read fun l => .ok (.accounts l.accounts)
  | .move p q a => (fun _ => .done) <$> Call.write (·.move p q a)
  | .validate d => (fun _ => .done) <$> Call.read fun _ => d.validate
  | .create d => .transferId <$> Call.unit (·.create d)
  | .recordSend d => .transfer <$> Call.unit (·.recordSend d)
  | .transfer t => .transfer <$> Call.read (·.findTransfer t)
  | .history a => Call.read fun l => .ok (.transfers (l.history a))
  | .pending a r => Call.read fun l => .ok (.transfers (l.pending a r))
  | .settle t s => (fun _ => .done) <$> Call.write (·.settle t s)
  | .approve t => .transfer <$> Call.unit (·.approve t)
  | .report => Call.read fun l => .ok (.text l.report)
  | .send c q a => .transfer <$> Engine.send c q a
  | .request c p a => .transfer <$> Engine.request c p a
  | .resolve c t d => .transfer <$> Engine.resolve c t d
  | .details c t => .transfer <$> Call.read (·.details c t)
  | .session u a => do
    let m ← Call.read (·.member u)
    m.act a

/-- A reading operation leaves the ledger as it was, whatever it answers. -/
theorem after_call_of_isReading (l : Ledger) (op : Operation) (hr : op.isReading = true) :
    op.call.after l = l := by
  cases op with
  | session u a =>
    rw [call, Call.after_bind, Call.run_read]
    cases l.member u with
    | error f => rfl
    | ok m =>
      cases a <;> simp_all [Operation.isReading, Member.act]
  | _ => simp_all [Operation.isReading, call]

end Operation

namespace Ledger

/-- Runs operations one after another, each on the ledger the one before it left: what
each answered, and the ledger at the end. -/
def runOps (l : Ledger) : List Operation → List (Except Fault Reply) × Ledger
  | [] => ([], l)
  | op :: ops =>
    let (rs, l') := (op.call.after l).runOps ops
    (op.call.answer l :: rs, l')

/-- A run of no operations answers nothing and leaves the ledger as it was. -/
@[simp] theorem runOps_nil (l : Ledger) : l.runOps [] = ([], l) := rfl

/-- A run of operations answers the first operation's answer, then runs the rest on the ledger that
the first left. -/
@[simp] theorem runOps_cons (l : Ledger) (op : Operation) (ops : List Operation) :
    l.runOps (op :: ops) =
      (op.call.answer l :: ((op.call.after l).runOps ops).1, ((op.call.after l).runOps ops).2) :=
  rfl

end Ledger

end Remit
