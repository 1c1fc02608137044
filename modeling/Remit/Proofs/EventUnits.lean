import Remit.Proofs.Approvals
import Remit.Proofs.Story

/-!
# One event, one unit

The engine lets the transfer's life handle a command (`Lifecycle.handleEvents`) and commits
the events it yields one after another (`Engine.commitEvents`), each by `Engine.commit` with
the id of the stored transfer it is about. The answer is the transfer of the last event, and
a command that yielded no event is refused as having changed nothing (`Fault.noChange`).
`commit` has an arm for a sent or a requested event with no id, and for an approved or a
rejected event with the id (`Engine.takes`); every other pairing falls through to a refusal,
`Fault.outOfPlace`, and `commit` never refuses so exactly on the pairings it takes
(`Engine.commit_noFallback_iff`). Those two refusals are the engine's fallbacks
(`Fault.isFallback`).

Whatever the state of the transfer, an accepted command yields exactly one event: a send its
sent event, a request its requested event, and a decision the payer's approval or rejection
(`Lifecycle.handleEvents_send`, `Lifecycle.handleEvents_request`,
`Lifecycle.handleEvents_resolve`). So the loop commits once, with a pairing that `commit`
takes. No unit of the store and no check of the life refuses with a fallback either
(`Ledger.recordSend_noFallback`, `Ledger.approve_noFallback`, `Lifecycle.handle_noFallback`).

The main statement is `commands_commit_one_unit`: every command of the engine that goes
through has committed exactly one unit of the store, the one its event calls for
(`Engine.Committed`), and no command of the engine, on any ledger, ends in a fallback.
-/

set_option autoImplicit false

namespace Remit

namespace Fault

/-- Whether the fault is one of the engine's own fallbacks: a command that yielded no event,
or an event that it does not commit in its place (`src/src/engine.rs:160-162, 189-192`). -/
def isFallback : Fault → Bool
  | .noChange | .outOfPlace _ => true
  | _ => false

/-- The engine's fallbacks are the command with no event and the event out of place. -/
theorem isFallback_iff (f : Fault) :
    f.isFallback = true ↔ f = .noChange ∨ ∃ s, f = .outOfPlace s := by
  cases f <;> simp [isFallback]

/-- Only an invalid transition can be one of the engine's fallbacks. -/
theorem isFallback_eq_false_of_kind {f : Fault} (h : f.kind ≠ .invalidTransition) :
    f.isFallback = false := by
  cases f <;> simp_all [kind, isFallback]

end Fault

/-- The computation fails, if at all, with a fault other than the engine's fallbacks. -/
def NoFallback {α : Type} (x : Except Fault α) : Prop :=
  ∀ f, x = .error f → f.isFallback = false

section NoFallback

variable {α β : Type}

/-- A value is no fallback. -/
@[simp] theorem noFallback_ok (a : α) : NoFallback (.ok a : Except Fault α) := by
  intro f h
  cases h

/-- A failure is no fallback exactly when its fault is none. -/
@[simp] theorem noFallback_error_iff {f : Fault} :
    NoFallback (.error f : Except Fault α) ↔ f.isFallback = false :=
  ⟨fun h => h f rfl, fun h g hg => by cases hg; exact h⟩

/-- A fault thrown is no fallback exactly when it is none. -/
@[simp] theorem noFallback_throw_iff {f : Fault} :
    NoFallback (throw f : Except Fault α) ↔ f.isFallback = false :=
  noFallback_error_iff

/-- Two steps that end in no fallback, one after the other, end in none. -/
theorem NoFallback.bind {x : Except Fault α} {g : α → Except Fault β} (hx : NoFallback x)
    (hg : ∀ a, NoFallback (g a)) : NoFallback (x >>= g) := by
  intro f hf
  cases h : x with
  | error e =>
    rw [h] at hf
    cases hf
    exact hx f h
  | ok a =>
    rw [h] at hf
    exact hg a f hf

/-- Changing the value of a step keeps its faults. -/
theorem NoFallback.map {x : Except Fault α} (g : α → β) (hx : NoFallback x) :
    NoFallback (g <$> x) := by
  rw [map_eq_pure_bind]
  exact hx.bind fun a => noFallback_ok (g a)

/-- A choice between two steps that end in no fallback ends in none. -/
theorem noFallback_ite {b : Prop} [Decidable b] {x y : Except Fault α} (hx : NoFallback x)
    (hy : NoFallback y) : NoFallback (if b then x else y) := by
  split
  · exact hx
  · exact hy

end NoFallback

namespace Decimal

/-- Converting an amount to cents fails only as too precise or out of range. -/
theorem toCents_noFallback (d : Decimal) : NoFallback d.toCents := by
  intro f h
  rcases toCents_eq_error h with rfl | rfl <;> rfl

/-- Checking an amount that a transfer may carry fails only as not positive, or as its
conversion does. -/
theorem transferCents_noFallback (d : Decimal) : NoFallback d.transferCents := by
  unfold transferCents
  split
  · exact toCents_noFallback d
  · simp [Fault.isFallback]

end Decimal

/-- Validating a draft fails only with a validation fault. -/
theorem Draft.validate_noFallback (d : Draft) : NoFallback d.validate := fun _ h =>
  Fault.isFallback_eq_false_of_kind (by rw [Draft.validate_error_kind h]; decide)

namespace Lifecycle

/-- The checks of a new transfer refuse it as recorded, for its amount, or for its two
accounts. -/
theorem checkNew_noFallback (t : Lifecycle) (p q : AccountId) (a : Decimal) :
    NoFallback (t.checkNew p q a) := by
  have hnew : NoFallback t.requireNew := by
    unfold requireNew
    split <;> simp [Fault.isFallback]
  have hamount : NoFallback (requireAmount a) := by
    unfold requireAmount
    split
    · simp
    · next f hf => exact noFallback_error_iff.mpr (a.transferCents_noFallback f hf)
  have hdistinct : NoFallback (requireDistinct p q) := by
    unfold requireDistinct
    split <;> simp [Fault.isFallback]
  exact hnew.bind fun _ => hamount.bind fun _ => hdistinct

/-- No check of the life refuses a command with one of the engine's fallbacks. -/
theorem handle_noFallback (t : Lifecycle) (c : Command) : NoFallback (t.handle c) := by
  cases c with
  | send p q a => exact (t.checkNew_noFallback p q a).bind fun _ => noFallback_ok _
  | request p q a => exact (t.checkNew_noFallback p q a).bind fun _ => noFallback_ok _
  | resolve c d =>
    have hparties : NoFallback t.parties := by
      unfold parties
      split <;> simp [Fault.isFallback]
    have hpending : NoFallback t.requirePending := by
      unfold requirePending
      split <;> simp [Fault.isFallback]
    have hpayer : NoFallback (throw .unauthorized : Except Fault Unit) :=
      noFallback_throw_iff.mpr rfl
    -- what follows the payer's check: the pending check, then the decision's event
    have hrest : ∀ e : Event, NoFallback (t.requirePending >>= fun _ => pure e) :=
      fun e => hpending.bind fun _ => noFallback_ok e
    refine hparties.bind fun pq => ?_
    obtain ⟨p, q⟩ := pq
    cases d <;> exact noFallback_ite (hpayer.bind fun _ => hrest _) (hrest _)

/-- Handling a command as the engine receives it refuses it as `handle` does. -/
theorem handleEvents_noFallback (t : Lifecycle) (c : Command) :
    NoFallback (t.handleEvents c) := by
  rw [handleEvents_eq]
  exact (t.handle_noFallback c).map _

variable {s : Lifecycle} {es : List Event}

/-- An accepted command yields the one event that `handle` decides. -/
theorem handleEvents_eq_ok {c : Command} :
    s.handleEvents c = .ok es ↔ ∃ e, s.handle c = .ok e ∧ es = [e] := by
  rw [handleEvents_eq]
  cases s.handle c <;> simp [Functor.map, Except.map, eq_comm]

/-- Whatever the state of the transfer, a send it accepts yields exactly its sent event. -/
theorem handleEvents_send {p q : AccountId} {a : Decimal}
    (h : s.handleEvents (.send p q a) = .ok es) : es = [.sent p q a] := by
  obtain ⟨e, he, rfl⟩ := handleEvents_eq_ok.mp h
  rw [handle_send_eq_ok he]

/-- Whatever the state of the transfer, a request it accepts yields exactly its requested
event. -/
theorem handleEvents_request {p q : AccountId} {a : Decimal}
    (h : s.handleEvents (.request p q a) = .ok es) : es = [.requested p q a] := by
  obtain ⟨e, he, rfl⟩ := handleEvents_eq_ok.mp h
  rw [handle_request_eq_ok he]

/-- Whatever the state of the transfer, a decision it accepts yields exactly the payer's
approval or rejection of it. -/
theorem handleEvents_resolve {c : AccountId} {d : Decision}
    (h : s.handleEvents (.resolve c d) = .ok es) :
    ∃ q, es = [Event.ofDecision c q s.amount d] := by
  obtain ⟨e, he, rfl⟩ := handleEvents_eq_ok.mp h
  obtain ⟨q, -, -, rfl⟩ := (handle_resolve_eq_ok s c d e).mp he
  exact ⟨q, by cases d <;> rfl⟩

end Lifecycle

namespace Ledger

section Units

variable (l : Ledger)

/-- Looking an account up fails only as not found. -/
theorem findAccount_noFallback (a : AccountId) : NoFallback (l.findAccount a) := by
  unfold findAccount
  split <;> simp [Fault.isFallback]

/-- Looking a transfer up fails only as not found. -/
theorem findTransfer_noFallback (t : TransferId) : NoFallback (l.findTransfer t) := by
  unfold findTransfer
  split <;> simp [Fault.isFallback]

/-- A debit fails only for a missing account or a balance that does not cover it. -/
theorem debit_noFallback (a : AccountId) (c : Int) : NoFallback (l.debit a c) := by
  unfold debit
  split
  · simp [Fault.isFallback]
  · split <;> simp [Fault.isFallback]

/-- A credit fails only for a missing account or a balance that would overflow. -/
theorem credit_noFallback (a : AccountId) (c : Int) (m : Decimal) :
    NoFallback (l.credit a c m) := by
  unfold credit
  split
  · simp [Fault.isFallback]
  · split <;> simp [Fault.isFallback]

/-- Moving money fails only as its amount, its debit or its credit does. -/
theorem moveFunds_noFallback (p q : AccountId) (m : Decimal) : NoFallback (l.moveFunds p q m) :=
  m.transferCents_noFallback.bind fun c =>
    (l.debit_noFallback p c).bind fun l₁ => l₁.credit_noFallback q c m

/-- Storing a draft fails only as its validation does, or for a missing party. -/
theorem insert_noFallback (d : Draft) : NoFallback (l.insert d) := by
  refine d.validate_noFallback.bind fun c => ?_
  split
  · exact noFallback_ok _
  · exact noFallback_throw_iff.mpr rfl

/-- Creating a transfer fails only as storing its draft does. -/
theorem create_noFallback (d : Draft) : NoFallback (l.create d) :=
  (l.insert_noFallback d).bind fun ⟨_, _⟩ => noFallback_ok _

/-- Recording a send fails only as its validation, its kind, its money or its storing does. -/
theorem recordSend_noFallback (d : Draft) : NoFallback (l.recordSend d) := by
  have hkind : NoFallback (throw (.notASend d.kind) : Except Fault Unit) :=
    noFallback_throw_iff.mpr rfl
  have hrest : NoFallback (l.moveFunds d.payer d.payee d.amount >>= fun l₁ => l₁.insert d) :=
    (l.moveFunds_noFallback _ _ _).bind fun l₁ => l₁.insert_noFallback d
  exact d.validate_noFallback.bind fun _ => noFallback_ite (hkind.bind fun _ => hrest) hrest

/-- Settling a transfer fails only for a status that is not final, a missing transfer, or one
no longer pending. -/
theorem settle_noFallback (t : TransferId) (s : Status) : NoFallback (l.settle t s) := by
  unfold settle
  split
  · simp [Fault.isFallback]
  · split
    · simp [Fault.isFallback]
    · split <;> simp [Fault.isFallback]

/-- Approving a transfer fails only as its settling, its reading or its money does. -/
theorem approve_noFallback (t : TransferId) : NoFallback (l.approve t) :=
  (l.settle_noFallback t .approved).bind fun l₁ =>
    (l₁.findTransfer_noFallback t).bind fun r =>
      (l₁.moveFunds_noFallback r.payer r.payee r.decimal).bind fun _ => noFallback_ok _

end Units

end Ledger

namespace Call

/-- The call, started on any ledger, fails if at all with a fault other than the engine's
fallbacks. -/
def NoFallback {α : Type} (c : Call Fault α) : Prop :=
  ∀ l f l', c.run l = .error f l' → f.isFallback = false

variable {α β : Type}

/-- A unit of the store ends in a fallback only if its change does. -/
theorem noFallback_unit {u : Ledger → Except Fault (α × Ledger)}
    (h : ∀ l, Remit.NoFallback (u l)) : NoFallback (unit u) := by
  intro l f l' hrun
  rw [run_unit] at hrun
  split at hrun
  · cases hrun
  · next g hg =>
    cases hrun
    exact h l f hg

/-- A unit that answers with its ledger ends in a fallback only if its change does. -/
theorem noFallback_write {u : Ledger → Except Fault Ledger} (h : ∀ l, Remit.NoFallback (u l)) :
    NoFallback (write u) :=
  noFallback_unit fun l => (h l).map ((), ·)

/-- A read of the ledger ends in a fallback only if the reading does. -/
theorem noFallback_read {r : Ledger → Except Fault α} (h : ∀ l, Remit.NoFallback (r l)) :
    NoFallback (read r) := by
  intro l f l' hrun
  rw [run_read] at hrun
  split at hrun
  · cases hrun
  · next g hg =>
    cases hrun
    exact h l f hg

/-- Two calls that end in no fallback, one after the other, end in none. -/
theorem NoFallback.bind {x : Call Fault α} {g : α → Call Fault β} (hx : NoFallback x)
    (hg : ∀ a, NoFallback (g a)) : NoFallback (x >>= g) := by
  intro l f l' hrun
  rw [EStateM.run_bind] at hrun
  cases h : x.run l with
  | ok a l₁ =>
    rw [h] at hrun
    exact hg a l₁ f l' hrun
  | error e l₁ =>
    rw [h] at hrun
    cases hrun
    exact hx l f _ h

/-- A decision of the life, followed by a call that ends in no fallback for every value the
decision can give, ends in none. -/
theorem noFallback_ofExcept_bind {x : Except Fault α} {g : α → Call Fault β}
    (hx : Remit.NoFallback x) (hg : ∀ a, x = .ok a → NoFallback (g a)) :
    NoFallback (MonadExcept.ofExcept x >>= g) := by
  intro l f l' hrun
  rw [EStateM.run_bind, run_ofExcept] at hrun
  cases h : x with
  | ok a =>
    rw [h] at hrun
    exact hg a h l f l' hrun
  | error e =>
    rw [h] at hrun
    cases hrun
    exact hx f h

/-- A call that ends in no fallback never fails with one. -/
theorem NoFallback.ne_error {c : Call Fault α} (h : NoFallback c) {f : Fault}
    (hf : f.isFallback = true) (l l' : Ledger) : c.run l ≠ .error f l' := by
  intro hrun
  rw [h l f l' hrun] at hf
  cases hf

/-- A call followed by a read that answered: the call answered, and the read answered on the
ledger the call left. -/
theorem run_bind_read_ok {x : Call Fault α} {r : α → Ledger → Except Fault β} {l l' : Ledger}
    {b : β} (h : (x >>= fun a => read (r a)).run l = .ok b l') :
    ∃ a, x.run l = .ok a l' ∧ r a l' = .ok b := by
  rw [EStateM.run_bind] at h
  cases hx : x.run l with
  | ok a l₁ =>
    rw [hx] at h
    dsimp only at h
    rw [run_read] at h
    split at h
    · cases h
      exact ⟨a, rfl, by assumption⟩
    · cases h
  | error f l₁ =>
    rw [hx] at h
    cases h

end Call

namespace Engine

/-- Whether `commit` has an arm for the event with the id: an event that starts a transfer
comes with no id, a decision with the id of the stored transfer it decides
(`src/src/engine.rs:171-188`). -/
def takes : Option TransferId → Event → Bool
  | none, .sent .. | none, .requested .. => true
  | some _, .approved .. | some _, .rejected .. => true
  | _, _ => false

/-- An event that `commit` has no arm for is refused as out of place. -/
theorem commit_of_takes_eq_false {t? : Option TransferId} {e : Event} (h : takes t? e = false) :
    commit t? e = throw (.outOfPlace e.name) := by
  match t?, e with
  | none, .sent .. | none, .requested .. | some _, .approved .. | some _, .rejected .. =>
    simp [takes] at h
  | none, .approved .. | none, .rejected .. | some _, .sent .. | some _, .requested .. => rfl

/-- `commit` never ends in a fallback exactly when it has an arm for the event with the id. -/
theorem commit_noFallback_iff (t? : Option TransferId) (e : Event) :
    Call.NoFallback (commit t? e) ↔ takes t? e = true := by
  constructor
  · intro h
    by_contra hne
    rw [Bool.not_eq_true] at hne
    -- without an arm, `commit` refuses the event on every ledger, the empty one among them
    have hrun : (commit t? e).run Ledger.empty = .error (.outOfPlace e.name) Ledger.empty := by
      rw [commit_of_takes_eq_false hne]
      rfl
    exact h.ne_error rfl Ledger.empty Ledger.empty hrun
  · intro h
    match t?, e with
    | none, .sent p q a => exact Call.noFallback_unit fun l => l.recordSend_noFallback _
    | none, .requested p q a =>
      exact (Call.noFallback_unit fun l => l.create_noFallback _).bind fun t =>
        Call.noFallback_read fun l => l.findTransfer_noFallback t
    | some t, .approved .. => exact Call.noFallback_unit fun l => l.approve_noFallback t
    | some t, .rejected .. =>
      exact (Call.noFallback_write fun l => l.settle_noFallback t _).bind fun _ =>
        Call.noFallback_read fun l => l.findTransfer_noFallback t
    | none, .approved .. | none, .rejected .. | some _, .sent .. | some _, .requested .. =>
      simp [takes] at h

/-- The loop over no event ends in the fallback on every ledger, and the loop over one event
ends in none exactly when `commit` takes that event with the id. -/
theorem commitEvents_noFallback_iff (t? : Option TransferId) (e : Event) :
    ¬ Call.NoFallback (commitEvents t? []) ∧
      (Call.NoFallback (commitEvents t? [e]) ↔ takes t? e = true) := by
  refine ⟨fun h => ?_, by rw [commitEvents_singleton]; exact commit_noFallback_iff t? e⟩
  have hrun : (commitEvents t? []).run Ledger.empty = .error .noChange Ledger.empty := rfl
  exact h.ne_error rfl Ledger.empty Ledger.empty hrun

/-- What committing the event with the id did when it went through: the one unit of the store
that the event calls for, and the transfer it answers with, read back after a request or a
rejection (`src/src/engine.rs:171-188`). An event out of place commits nothing. -/
def Committed (l : Ledger) : Option TransferId → Event → TransferRecord → Ledger → Prop
  | none, .sent p q a, r, l' => l.recordSend (Draft.send p q a) = .ok (r, l')
  | none, .requested p q a, r, l' =>
    ∃ t, l.create (Draft.request p q a) = .ok (t, l') ∧ l'.findTransfer t = .ok r
  | some t, .approved .., r, l' => l.approve t = .ok (r, l')
  | some t, .rejected .., r, l' => l.settle t .rejected = .ok l' ∧ l'.findTransfer t = .ok r
  | _, _, _, _ => False

/-- A commit that goes through has committed the one unit its event calls for. -/
theorem commit_run_ok {t? : Option TransferId} {e : Event} {l l' : Ledger} {r : TransferRecord}
    (h : (commit t? e).run l = .ok r l') : Committed l t? e r l' := by
  match t?, e with
  | none, .sent p q a => exact Call.unit_run_ok h
  | none, .requested p q a =>
    -- the read-back leaves the ledger that the unit wrote
    obtain ⟨t, hc, hr⟩ := Call.run_bind_read_ok (by simpa only [commit] using h)
    exact ⟨t, Call.unit_run_ok hc, hr⟩
  | some t, .approved p q a => exact Call.unit_run_ok h
  | some t, .rejected p q =>
    obtain ⟨_, hs, hr⟩ := Call.run_bind_read_ok (by simpa only [commit] using h)
    exact ⟨Call.write_run_ok hs, hr⟩
  | none, .approved .. | none, .rejected .. | some _, .sent .. | some _, .requested .. =>
    cases h

/-- A send ends in no fallback: its one event is sent, and goes to `commit` with no id. -/
theorem send_noFallback (c x : AccountId) (m : Decimal) : Call.NoFallback (send c x m) :=
  Call.noFallback_ofExcept_bind (Lifecycle.handleEvents_noFallback _ _) fun _ hes =>
    (Call.noFallback_read fun l => l.findAccount_noFallback x).bind fun _ => by
      rw [Lifecycle.handleEvents_send hes]
      exact ((commitEvents_noFallback_iff none _).2).mpr rfl

/-- A request ends in no fallback: its one event is requested, and goes to `commit` with no
id. -/
theorem request_noFallback (c x : AccountId) (m : Decimal) : Call.NoFallback (request c x m) :=
  Call.noFallback_ofExcept_bind (Lifecycle.handleEvents_noFallback _ _) fun _ hes =>
    (Call.noFallback_read fun l => l.findAccount_noFallback x).bind fun _ => by
      rw [Lifecycle.handleEvents_request hes]
      exact ((commitEvents_noFallback_iff none _).2).mpr rfl

/-- A decision ends in no fallback: its one event is the payer's approval or rejection, and
goes to `commit` with the id of the transfer. -/
theorem resolve_noFallback (c : AccountId) (t : TransferId) (d : Decision) :
    Call.NoFallback (resolve c t d) :=
  (Call.noFallback_read fun l => l.findTransfer_noFallback t).bind fun _ =>
    Call.noFallback_ofExcept_bind (Lifecycle.handleEvents_noFallback _ _) fun _ hes => by
      obtain ⟨q, rfl⟩ := Lifecycle.handleEvents_resolve hes
      exact ((commitEvents_noFallback_iff (some t) _).2).mpr (by cases d <;> rfl)

variable {l l' : Ledger} {r : TransferRecord}

/-- A request that goes through has committed its requested event: stored the request and
read it back. -/
theorem request_committed {c x : AccountId} {m : Decimal} (h : (request c x m).run l = .ok r l') :
    Committed l none (.requested x c m) r l' := by
  rw [run_request] at h
  cases he : Lifecycle.fresh.handle (.request x c m) with
  | error f =>
    rw [he] at h
    cases h
  | ok e =>
    rw [he] at h
    obtain rfl := Lifecycle.handle_request_eq_ok he
    cases hx : l.findAccount x with
    | error f =>
      rw [hx] at h
      cases h
    | ok _ =>
      rw [hx] at h
      exact commit_run_ok h

/-- A decision that goes through has committed the payer's approval or rejection of the
transfer. -/
theorem resolve_committed {c : AccountId} {t : TransferId} {d : Decision}
    (h : (resolve c t d).run l = .ok r l') :
    ∃ q a, Committed l (some t) (Event.ofDecision c q a d) r l' := by
  rw [run_resolve] at h
  cases hr : l.findTransfer t with
  | error f =>
    rw [hr] at h
    cases h
  | ok r₀ =>
    rw [hr] at h
    dsimp only at h
    cases he : r₀.lifecycle.handle (.resolve c d) with
    | error f =>
      rw [he] at h
      cases h
    | ok e =>
      rw [he] at h
      obtain ⟨q, -, -, rfl⟩ := (Lifecycle.handle_resolve_eq_ok _ c d e).mp he
      refine ⟨q, r₀.lifecycle.amount, ?_⟩
      cases d <;> exact commit_run_ok h

end Engine

/-- Whatever the state of the transfer, its life handles every command of the engine with
exactly one event, the one its arm of `commit` takes: a send's sent event and a request's
requested event, committed with no id, and a decision's approval or rejection by the payer,
committed with the id of the transfer. So on every ledger a send, a request or a decision that
goes through has committed exactly one unit of the store, the one its event calls for, and no
command of the engine ends in a fallback: neither as having produced no change nor for an
event out of its place. -/
theorem commands_commit_one_unit (l : Ledger) (c x : AccountId) (m : Decimal) (t : TransferId)
    (d : Decision) :
    (∀ (s : Lifecycle) (es : List Event), s.handleEvents (.send c x m) = .ok es →
      es = [.sent c x m]) ∧
    (∀ (s : Lifecycle) (es : List Event), s.handleEvents (.request x c m) = .ok es →
      es = [.requested x c m]) ∧
    (∀ (s : Lifecycle) (es : List Event), s.handleEvents (.resolve c d) = .ok es →
      ∃ q, es = [Event.ofDecision c q s.amount d]) ∧
    (∀ r l', (Engine.send c x m).run l = .ok r l' →
      l.recordSend (Draft.send c x m) = .ok (r, l')) ∧
    (∀ r l', (Engine.request c x m).run l = .ok r l' →
      ∃ t', l.create (Draft.request x c m) = .ok (t', l') ∧ l'.findTransfer t' = .ok r) ∧
    (∀ r l', (Engine.resolve c t d).run l = .ok r l' →
      (d = .approve ∧ l.approve t = .ok (r, l')) ∨
        (d = .reject ∧ l.settle t .rejected = .ok l' ∧ l'.findTransfer t = .ok r)) ∧
    (∀ (f : Fault) (l' : Ledger), (f = .noChange ∨ ∃ s, f = .outOfPlace s) →
      (Engine.send c x m).run l ≠ .error f l' ∧ (Engine.request c x m).run l ≠ .error f l' ∧
        (Engine.resolve c t d).run l ≠ .error f l') := by
  refine ⟨fun _ _ => Lifecycle.handleEvents_send, fun _ _ => Lifecycle.handleEvents_request,
    fun _ _ => Lifecycle.handleEvents_resolve, fun _ _ => Engine.send_run_ok,
    fun _ _ => Engine.request_committed, fun r l' h => ?_, fun f l' hf => ?_⟩
  · -- the decision's event fixes which of the two units committed it
    obtain ⟨q, a, hc⟩ := Engine.resolve_committed h
    cases d with
    | approve => exact .inl ⟨rfl, hc⟩
    | reject => exact .inr ⟨rfl, hc⟩
  · have hfb : f.isFallback = true := (Fault.isFallback_iff f).mpr hf
    exact ⟨(Engine.send_noFallback c x m).ne_error hfb l l',
      (Engine.request_noFallback c x m).ne_error hfb l l',
      (Engine.resolve_noFallback c t d).ne_error hfb l l'⟩

end Remit
