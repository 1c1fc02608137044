import Remit.Ledger.Transfers

/-!
# The transfer engine

The engine runs the commands of the transfer life on the ledger. Each command is first
decided by the transfer's life (`Lifecycle.handle`), which yields one event; the event
is then committed by one unit of the store: a sent event records the send with its
money, a requested event stores the request, an approved event approves the stored
request with its money, and a rejected event settles it as rejected.

An engine command is a `Call`: reads of the ledger and units of the store, one after
another. A unit writes the whole of its change or nothing (it is one transaction of the
store, or one statement), and what it wrote stays written when a later step of the call
fails: the call ends with its answer or its fault, and with the ledger as its units left
it. A request reads its transfer back after storing it, and a rejection after settling it.

A send or a request starts from a transfer that does not exist yet, so its event is
committed with no transfer id; a decision is about a stored transfer, whose id goes
with its event.
-/

set_option autoImplicit false

namespace Remit

/-- A call on the ledger: reads and units of the store, one after another. A fault stops
the call and keeps the ledger as the steps before it left it. -/
abbrev Call (ε : Type) := EStateM ε Ledger

namespace Call

/-- One unit of the store: it writes its whole new ledger, or fails and writes nothing
(`src/src/store/sqlite.rs:104-132`). -/
def unit {α : Type} (u : Ledger → Except Fault (α × Ledger)) : Call Fault α := fun l =>
  match u l with
  | .ok (a, l') => .ok a l'
  | .error f => .error f l

/-- A unit of the store that answers with its new ledger only. -/
def write (u : Ledger → Except Fault Ledger) : Call Fault Unit :=
  unit fun l => (u l).map ((), ·)

/-- A read of the ledger. -/
def read {α : Type} (r : Ledger → Except Fault α) : Call Fault α := fun l =>
  match r l with
  | .ok a => .ok a l
  | .error f => .error f l

/-- What a call started on `l` answers. -/
def answer {ε α : Type} (c : Call ε α) (l : Ledger) : Except ε α :=
  match c.run l with
  | .ok a _ => .ok a
  | .error e _ => .error e

/-- The ledger that a call started on `l` leaves, whether it answered or failed. -/
def after {ε α : Type} (c : Call ε α) (l : Ledger) : Ledger :=
  match c.run l with
  | .ok _ l' => l'
  | .error _ l' => l'

/-- A unit of the store answers with its value and writes its new ledger, or fails and writes
nothing. -/
@[simp] theorem run_unit {α : Type} (u : Ledger → Except Fault (α × Ledger)) (l : Ledger) :
    (unit u).run l = match u l with
      | .ok (a, l') => .ok a l'
      | .error f => .error f l := rfl

/-- A unit that answers with its ledger writes it, or fails and writes nothing. -/
@[simp] theorem run_write (u : Ledger → Except Fault Ledger) (l : Ledger) :
    (write u).run l = match u l with
      | .ok l' => .ok () l'
      | .error f => .error f l := by
  simp only [write, run_unit]
  cases u l <;> rfl

/-- A read answers from the ledger and leaves it as it was. -/
@[simp] theorem run_read {α : Type} (r : Ledger → Except Fault α) (l : Ledger) :
    (read r).run l = match r l with
      | .ok a => .ok a l
      | .error f => .error f l := rfl

/-- Changing a call's answer changes neither its faults nor the ledger it leaves. -/
@[simp] theorem run_map {ε α β : Type} (f : α → β) (c : Call ε α) (l : Ledger) :
    (f <$> c).run l = match c.run l with
      | .ok a l' => .ok (f a) l'
      | .error e l' => .error e l' := by
  change EStateM.map f c l = match c l with
    | .ok a l' => .ok (f a) l'
    | .error e l' => .error e l'
  unfold EStateM.map
  cases c l <;> rfl

/-- A decision made outside the ledger answers or fails, and leaves the ledger as it was. -/
@[simp] theorem run_ofExcept {ε α : Type} (r : Except ε α) (l : Ledger) :
    (MonadExcept.ofExcept r : Call ε α).run l = match r with
      | .ok a => .ok a l
      | .error e => .error e l := by
  cases r <;> rfl

/-- A call that only answers leaves the ledger as it was. -/
@[simp] theorem after_pure {ε α : Type} (a : α) (l : Ledger) : (pure a : Call ε α).after l = l :=
  rfl

/-- A read leaves the ledger as it was, whether it answers or fails. -/
@[simp] theorem after_read {α : Type} (r : Ledger → Except Fault α) (l : Ledger) :
    (read r).after l = l := by
  simp only [after, run_read]
  cases r l <;> rfl

/-- Changing a call's answer keeps the ledger it leaves. -/
@[simp] theorem after_map {ε α β : Type} (f : α → β) (c : Call ε α) (l : Ledger) :
    (f <$> c).after l = c.after l := by
  simp only [after, run_map]
  cases c.run l <;> rfl

/-- Two calls, one after the other, leave what the second leaves after the first answered, and what
the first left if it failed. -/
theorem after_bind {ε α β : Type} (x : Call ε α) (f : α → Call ε β) (l : Ledger) :
    (x >>= f).after l = match x.run l with
      | .ok a l' => (f a).after l'
      | .error _ l' => l' := by
  simp only [after, EStateM.run_bind]
  cases x.run l <;> rfl

/-- A call that answered on a ledger has that answer there. -/
@[simp] theorem answer_of_run_ok {ε α : Type} {c : Call ε α} {l l' : Ledger} {a : α}
    (h : c.run l = .ok a l') : c.answer l = .ok a := by
  simp [answer, h]

/-- A call that failed on a ledger has that fault for its answer there. -/
@[simp] theorem answer_of_run_error {ε α : Type} {c : Call ε α} {l l' : Ledger} {e : ε}
    (h : c.run l = .error e l') : c.answer l = .error e := by
  simp [answer, h]

/-- A call that answered leaves the ledger it answered with. -/
@[simp] theorem after_of_run_ok {ε α : Type} {c : Call ε α} {l l' : Ledger} {a : α}
    (h : c.run l = .ok a l') : c.after l = l' := by
  simp [after, h]

/-- A call that failed leaves the ledger it failed with. -/
@[simp] theorem after_of_run_error {ε α : Type} {c : Call ε α} {l l' : Ledger} {e : ε}
    (h : c.run l = .error e l') : c.after l = l' := by
  simp [after, h]

end Call

namespace Engine

/-- Commits one event of a transfer, given the id of the stored transfer when there is
one (`src/src/engine.rs:165-193`). -/
def commit (t? : Option TransferId) (e : Event) : Call Fault TransferRecord :=
  match e, t? with
  | .sent p q a, none => Call.unit (·.recordSend (Draft.send p q a))
  | .requested p q a, none => do
    let id ← Call.unit (·.create (Draft.request p q a))
    Call.read (·.findTransfer id)
  | .approved .., some t => Call.unit (·.approve t)
  | .rejected .., some t => do
    Call.write (·.settle t .rejected)
    Call.read (·.findTransfer t)
  | e, _ => throw (.outOfPlace e.name)

/-- Commits the events of a command one after another, each by `commit`, and answers with the
transfer that the last one gave; a command that yielded no event is refused, having changed
nothing (`src/src/engine.rs:149-163`). -/
def commitEvents (t? : Option TransferId) (es : List Event) : Call Fault TransferRecord := do
  let committed ← es.foldlM (fun _ e => some <$> commit t? e) (none : Option TransferRecord)
  match committed with
  | some r => pure r
  | none => throw .noChange

/-- The caller sends money to the payee (`src/src/engine.rs:38-60`). -/
def send (caller payee : AccountId) (amount : Decimal) : Call Fault TransferRecord := do
  let es ← MonadExcept.ofExcept (Lifecycle.fresh.handleEvents (.send caller payee amount))
  let _ ← Call.read (·.findAccount payee)
  commitEvents none es

/-- The caller asks the payer for money (`src/src/engine.rs:64-86`). -/
def request (caller payer : AccountId) (amount : Decimal) : Call Fault TransferRecord := do
  let es ← MonadExcept.ofExcept (Lifecycle.fresh.handleEvents (.request payer caller amount))
  let _ ← Call.read (·.findAccount payer)
  commitEvents none es

/-- The caller decides a stored transfer (`src/src/engine.rs:93-117`). -/
def resolve (caller : AccountId) (t : TransferId) (d : Decision) : Call Fault TransferRecord := do
  let r ← Call.read (·.findTransfer t)
  let es ← MonadExcept.ofExcept (r.lifecycle.handleEvents (.resolve caller d))
  commitEvents (some t) es

/-- A command that yielded no event is refused, and nothing is committed. -/
theorem commitEvents_nil (t? : Option TransferId) : commitEvents t? [] = throw .noChange := rfl

/-- The one event of a command is committed by `commit` alone. -/
theorem commitEvents_singleton (t? : Option TransferId) (e : Event) :
    commitEvents t? [e] = commit t? e := by
  funext l
  change ((commitEvents t? [e]).run l) = (commit t? e).run l
  simp only [commitEvents, List.foldlM_cons, List.foldlM_nil, EStateM.run_bind, Call.run_map]
  cases (commit t? e).run l <;> rfl

/-- Handing on a decision's one event as a list of it, to a call that takes a list of one event
as the event alone, is handing on the event. -/
theorem ofExcept_singleton_bind {α : Type} (x : Except Fault Event) {k : List Event → Call Fault α}
    {k' : Event → Call Fault α} (hk : ∀ e, k [e] = k' e) :
    (MonadExcept.ofExcept ((fun e => [e]) <$> x) >>= k) = (MonadExcept.ofExcept x >>= k') := by
  cases x with
  | error f => rfl
  | ok e => exact hk e

/-- The send, with the one event that its life yields committed directly. -/
theorem send_eq (caller payee : AccountId) (amount : Decimal) :
    send caller payee amount = (do
      let e ← MonadExcept.ofExcept (Lifecycle.fresh.handle (.send caller payee amount))
      let _ ← Call.read (·.findAccount payee)
      commit none e) := by
  simp only [send, Lifecycle.handleEvents_eq]
  exact ofExcept_singleton_bind _ fun e => by simp only [commitEvents_singleton]

/-- The request, with the one event that its life yields committed directly. -/
theorem request_eq (caller payer : AccountId) (amount : Decimal) :
    request caller payer amount = (do
      let e ← MonadExcept.ofExcept (Lifecycle.fresh.handle (.request payer caller amount))
      let _ ← Call.read (·.findAccount payer)
      commit none e) := by
  simp only [request, Lifecycle.handleEvents_eq]
  exact ofExcept_singleton_bind _ fun e => by simp only [commitEvents_singleton]

/-- The decision, with the one event that the stored transfer's life yields committed
directly. -/
theorem resolve_eq (caller : AccountId) (t : TransferId) (d : Decision) :
    resolve caller t d = (do
      let r ← Call.read (·.findTransfer t)
      let e ← MonadExcept.ofExcept (r.lifecycle.handle (.resolve caller d))
      commit (some t) e) := by
  simp only [resolve, Lifecycle.handleEvents_eq]
  congr
  funext r
  exact ofExcept_singleton_bind _ fun e => by simp only [commitEvents_singleton]

end Engine

namespace Ledger

/-- A stored transfer, shown only to its payer and payee (`src/src/engine.rs:135-147`). -/
def details (l : Ledger) (caller : AccountId) (t : TransferId) : Except Fault TransferRecord := do
  let r ← l.findTransfer t
  if r.involves caller then pure r else throw .unauthorized

end Ledger

end Remit
