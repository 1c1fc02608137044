import Remit.Money.Cents
import Remit.Fault

/-!
# The life of a transfer

A transfer is decided one command at a time. A new transfer takes a send or a request
and becomes recorded; a recorded request takes one decision from its payer. Each
accepted command yields exactly one event, and applying the event gives the next
state; a refused command yields a fault and leaves the state as it was.

The checks run in a fixed order. For a send or a request: the transfer must be new,
the amount above zero and a whole number of cents within 64 bits, and the two accounts
different. For a decision: the transfer must be recorded with both parties, the caller
must be its payer, and it must still be pending.

The main statements: `handle_send_ok` and `handle_request_ok` (a valid new transfer is
accepted with the matching event), `apply_handle_recorded` (an accepted send or request
records the transfer), and `handle_resolve_eq_ok` (what a decision needs to be taken).
-/

set_option autoImplicit false

namespace Remit

/-- What a caller asks of a transfer (`src/src/domain/transfer/command.rs:6-31`). -/
inductive Command where
  /-- The payer sends money to the payee. -/
  | send (payer payee : AccountId) (amount : Decimal)
  /-- The payee asks the payer for money. -/
  | request (payer payee : AccountId) (amount : Decimal)
  /-- The caller decides a pending request. -/
  | resolve (caller : AccountId) (decision : Decision)
  deriving DecidableEq, Repr

/-- What happened to a transfer (`src/src/domain/transfer/event.rs:7-55`). -/
inductive Event where
  | sent (payer payee : AccountId) (amount : Decimal)
  | requested (payer payee : AccountId) (amount : Decimal)
  | approved (payer payee : AccountId) (amount : Decimal)
  | rejected (payer payee : AccountId)
  deriving DecidableEq, Repr

namespace Event

/-- The event's printed name (`src/src/domain/transfer/event.rs:15-23`). -/
def name : Event → String
  | .sent .. => "FundsSent"
  | .requested .. => "FundsRequested"
  | .approved .. => "RequestApproved"
  | .rejected .. => "RequestRejected"

end Event

/-- What is known of a transfer: whether it is recorded, and its kind, status, parties
and amount once they are set (`src/src/domain/transfer/aggregate.rs:22-30`). -/
structure Lifecycle where
  recorded : Bool := false
  kind : Option Kind := none
  status : Option Status := none
  payer : Option AccountId := none
  payee : Option AccountId := none
  amount : Decimal := Decimal.zero
  deriving DecidableEq, Repr

namespace Lifecycle

/-- A transfer about which nothing is known yet. -/
def fresh : Lifecycle := {}

/-- A stored transfer, as its life has made it (`src/src/domain/transfer/aggregate.rs:86-97`). -/
def ofParts (kind : Kind) (status : Status) (payer payee : AccountId) (amount : Decimal) :
    Lifecycle :=
  { recorded := true, kind := some kind, status := some status, payer := some payer,
    payee := some payee, amount }

/-- The state after an event. A send is approved at once and a request starts pending;
a decision changes the status only (`src/src/domain/transfer/aggregate.rs:58-83`). -/
def apply (t : Lifecycle) : Event → Lifecycle
  | .sent p q a => ofParts .send .approved p q a
  | .requested p q a => ofParts .request .pending p q a
  | .approved .. => { t with status := some .approved }
  | .rejected .. => { t with status := some .rejected }

/-- The state after a sequence of events, in order. -/
def replay (t : Lifecycle) (es : List Event) : Lifecycle :=
  es.foldl apply t

/-- A send or a request needs a transfer that is not recorded yet
(`src/src/domain/transfer/aggregate.rs:157-165`). -/
def requireNew (t : Lifecycle) : Except Fault Unit :=
  if t.recorded then .error .alreadyRecorded else .ok ()

/-- The payer and payee of a recorded transfer (`src/src/domain/transfer/aggregate.rs:192-199`). -/
def parties (t : Lifecycle) : Except Fault (AccountId × AccountId) :=
  match t.recorded, t.payer, t.payee with
  | true, some p, some q => .ok (p, q)
  | _, _, _ => .error .unrecorded

/-- A decision needs a pending transfer (`src/src/domain/transfer/aggregate.rs:213-222`). -/
def requirePending (t : Lifecycle) : Except Fault Unit :=
  match t.status with
  | some .pending => .ok ()
  | some s => .error (.alreadySettled s)
  | none => .error .unrecorded

/-- An amount that a transfer may carry (`src/src/domain/transfer/aggregate.rs:167-176`). -/
def requireAmount (a : Decimal) : Except Fault Unit :=
  match a.transferCents with
  | .ok _ => .ok ()
  | .error f => .error f

/-- A transfer needs two different accounts (`src/src/domain/transfer/aggregate.rs:178-190`). -/
def requireDistinct (p q : AccountId) : Except Fault Unit :=
  if p = q then .error (.selfTransfer p) else .ok ()

/-- The checks of a new transfer, in order: new, amount, distinct accounts
(`src/src/domain/transfer/aggregate.rs:100-132`). -/
def checkNew (t : Lifecycle) (p q : AccountId) (a : Decimal) : Except Fault Unit := do
  t.requireNew
  requireAmount a
  requireDistinct p q

/-- Decides a command: the one event it yields, or why it is refused
(`src/src/domain/transfer/aggregate.rs:100-154, 202-211`). -/
def handle (t : Lifecycle) : Command → Except Fault Event
  | .send p q a => do
    t.checkNew p q a
    pure (.sent p q a)
  | .request p q a => do
    t.checkNew p q a
    pure (.requested p q a)
  | .resolve c d => do
    let (p, q) ← t.parties
    if c ≠ p then throw .unauthorized
    t.requirePending
    match d with
    | .approve => pure (.approved p q t.amount)
    | .reject => pure (.rejected p q)

/-- Handles a command as the engine receives it: the events it yields, in order, or why it is
refused. Each accepted command yields a list of one event
(`src/src/domain/transfer/aggregate.rs:46-56`). -/
def handleEvents (t : Lifecycle) : Command → Except Fault (List Event)
  | .send p q a => do
    t.checkNew p q a
    pure [.sent p q a]
  | .request p q a => do
    t.checkNew p q a
    pure [.requested p q a]
  | .resolve c d => do
    let (p, q) ← t.parties
    if c ≠ p then throw .unauthorized
    t.requirePending
    let e := match d with
      | .approve => Event.approved p q t.amount
      | .reject => Event.rejected p q
    pure [e]

/-- A transfer not yet recorded, with an amount it may carry between two different accounts, passes
the checks of a new transfer. -/
theorem checkNew_eq_ok (t : Lifecycle) (p q : AccountId) (a : Decimal) (hnew : t.recorded = false)
    (ha : ∃ c, a.transferCents = .ok c) (hpq : p ≠ q) : t.checkNew p q a = .ok () := by
  obtain ⟨c, hc⟩ := ha
  simp [checkNew, requireNew, hnew, requireAmount, hc, requireDistinct, hpq]
  rfl

/-- A new transfer with a valid amount between two accounts is sent. -/
theorem handle_send_ok (t : Lifecycle) (p q : AccountId) (a : Decimal) (hnew : t.recorded = false)
    (ha : ∃ c, a.transferCents = .ok c) (hpq : p ≠ q) :
    t.handle (.send p q a) = .ok (.sent p q a) := by
  simp only [handle, checkNew_eq_ok t p q a hnew ha hpq]
  rfl

/-- A new transfer with a valid amount between two accounts is requested. -/
theorem handle_request_ok (t : Lifecycle) (p q : AccountId) (a : Decimal)
    (hnew : t.recorded = false) (ha : ∃ c, a.transferCents = .ok c) (hpq : p ≠ q) :
    t.handle (.request p q a) = .ok (.requested p q a) := by
  simp only [handle, checkNew_eq_ok t p q a hnew ha hpq]
  rfl

/-- After an accepted send or request the transfer is recorded. -/
theorem apply_handle_recorded (t : Lifecycle) (p q : AccountId) (a : Decimal) (e : Event)
    (h : t.handle (.send p q a) = .ok e ∨ t.handle (.request p q a) = .ok e) :
    (t.apply e).recorded = true := by
  rcases h with h | h <;>
  · simp only [handle, bind, Except.bind] at h
    split at h
    · cases h
    · cases h
      rfl

/-- A decision is taken exactly on a recorded, pending transfer whose payer calls. -/
theorem handle_resolve_eq_ok (t : Lifecycle) (c : AccountId) (d : Decision) (e : Event) :
    t.handle (.resolve c d) = .ok e ↔
      ∃ q, t.parties = .ok (c, q) ∧ t.status = some .pending ∧
        e = (match d with
          | .approve => Event.approved c q t.amount
          | .reject => Event.rejected c q) := by
  constructor
  · intro h
    simp only [handle, bind, Except.bind] at h
    split at h
    · cases h
    · next pq hpq =>
      obtain ⟨p, q⟩ := pq
      simp only at h
      split at h
      · cases h
      · next hcp =>
        have hc : c = p := Decidable.of_not_not hcp
        subst hc
        simp only [pure, Except.pure] at h
        cases hs : t.status with
        | none => simp [requirePending, hs] at h
        | some s =>
          cases s with
          | pending =>
            simp only [requirePending, hs] at h
            refine ⟨q, hpq, rfl, ?_⟩
            cases d <;> (simp only at h; cases h; rfl)
          | approved => simp [requirePending, hs] at h
          | rejected => simp [requirePending, hs] at h
  · rintro ⟨q, hpq, hs, rfl⟩
    simp only [handle, bind, Except.bind, hpq, ne_eq, not_true_eq_false, if_false]
    simp only [requirePending, hs]
    cases d <;> rfl

/-- An accepted command yields exactly one event, the one that `handle` decides, and a refused
command is refused with the fault that `handle` gives. -/
theorem handleEvents_eq (t : Lifecycle) (c : Command) :
    t.handleEvents c = (fun e => [e]) <$> t.handle c := by
  cases c with
  | send p q a =>
    simp only [handleEvents, handle, bind, Except.bind]
    cases t.checkNew p q a <;> rfl
  | request p q a =>
    simp only [handleEvents, handle, bind, Except.bind]
    cases t.checkNew p q a <;> rfl
  | resolve c d =>
    simp only [handleEvents, handle, bind, Except.bind]
    cases t.parties with
    | error f => rfl
    | ok pq =>
      obtain ⟨p, q⟩ := pq
      by_cases hc : c = p
      · subst hc
        simp only [ne_eq, not_true_eq_false, if_false]
        cases t.requirePending with
        | error f => rfl
        | ok u => cases d <;> rfl
      · simp [hc, throw, throwThe, MonadExceptOf.throw, Functor.map, Except.map]

end Lifecycle

end Remit
