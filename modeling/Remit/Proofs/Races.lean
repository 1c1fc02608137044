import Mathlib.Logic.Function.Iterate
import Mathlib.Logic.Relation
import Remit.Proofs.Approvals

/-!
# Decisions racing on one transfer

Several callers may decide one stored transfer at the same time. Each decision runs as the
engine runs it, in atomic steps: it reads the transfer, lets the transfer's life decide on
what it read (`Lifecycle.handle`), commits the event by one unit of the store, and for a
rejection reads the transfer back. The steps of all the calls interleave in any order, and
between them other calls commit their own units: openings, sends, requests, decisions on
other transfers (`Ledger.Aside`). A call on its own ends as the engine's decision ends
(`Stage.next_four_resolve`).

What makes the race safe is the store, not the life: every caller may have read the
transfer pending, but the approval unit and the rejection's settling move it out of pending
only from pending. So at most one call succeeds (`Race.SoleSuccess`); a step of a call moves
money only when an approval succeeds, and moves the transfer's amount from its payer to its
payee (`Race.StepPays`), and after that no step of a call moves any (`Race.PaysOnce`); a call
the life let through either commits or is refused by its unit (`Race.UnitOutcomes`).

When every call is an approval by the payer, the transfer starts pending, and whenever an
approval unit finds it pending the payer can cover it and the payee's balance can take it
(`Ledger.Covered`), the first approval unit to run succeeds, and once every call has ended
exactly one has succeeded and every other one has failed with an invalid transition
(`Race.OneWinner`). If the payee's balance cannot take the amount, every approval fails with
the credit overflow instead (`approvals_to_a_full_payee_all_fail`).

The main statement is `decisions_on_a_transfer_commit_once`. It rests on the invariant
`Race.Sound`, kept by a step of a call (`Race.Sound.call`) and by a unit beside the race
(`Race.Sound.other`), and for the approvals on `Race.Approving`, whose step lemma is
`approval_next_cases`.
-/

set_option autoImplicit false

namespace Remit

/-- The decision that an event carries out, if it is a decision's. -/
def Event.decision? : Event → Option Decision
  | .approved .. => some .approve
  | .rejected .. => some .reject
  | _ => none

/-- A transfer's event of a decision is an event of that decision. -/
theorem TransferRecord.decision?_decided (r : TransferRecord) (d : Decision) :
    (r.decided d).decision? = some d := by
  cases d <;> rfl

/-- Where one decision call on a transfer stands between two of its steps. -/
inductive Stage where
  /-- Nothing is done yet. -/
  | start
  /-- The transfer is read: the snapshot that its life decides on. -/
  | read (r : TransferRecord)
  /-- The life has decided on the snapshot, and the event waits for its unit. -/
  | decided (e : Event)
  /-- A rejection is settled, and the transfer is to be read back. -/
  | settled
  /-- The call has answered, or failed. -/
  | done (answer : Except Fault TransferRecord)
  deriving DecidableEq, Repr

namespace Stage

/-- One step of a decision by the caller `c` with `d` on the transfer `t`, from the ledger `l`:
the stage after it, and the ledger after it. A finished call stays as it is. -/
def next (t : TransferId) (c : AccountId) (d : Decision) (l : Ledger) : Stage → Stage × Ledger
  | .start =>
    match l.findTransfer t with
    | .ok r => (.read r, l)
    | .error f => (.done (.error f), l)
  | .read r =>
    match r.lifecycle.handle (.resolve c d) with
    | .ok e => (.decided e, l)
    | .error f => (.done (.error f), l)
  | .decided (.approved ..) =>
    match l.approve t with
    | .ok (r, l') => (.done (.ok r), l')
    | .error f => (.done (.error f), l)
  | .decided (.rejected ..) =>
    match l.settle t .rejected with
    | .ok l' => (.settled, l')
    | .error f => (.done (.error f), l)
  | .decided e => (.done (.error (.outOfPlace e.name)), l)
  | .settled =>
    match l.findTransfer t with
    | .ok r => (.done (.ok r), l)
    | .error f => (.done (.error f), l)
  | .done a => (.done a, l)

/-- Whether the call's unit has gone through. -/
def committed : Stage → Bool
  | .settled | .done (.ok _) => true
  | _ => false

/-- Whether the call has answered. -/
def succeeded : Stage → Bool
  | .done (.ok _) => true
  | _ => false

/-- Whether the call has read the transfer and not yet ended. -/
def midway : Stage → Bool
  | .read _ | .decided _ | .settled => true
  | _ => false

/-- A call on its own, with no other step between its steps, has ended after four steps, as
the engine's decision ends: with its answer, and with the ledger it leaves. -/
theorem next_four_resolve (t : TransferId) (c : AccountId) (d : Decision) (l : Ledger) :
    (fun x : Stage × Ledger => x.1.next t c d x.2)^[4] (.start, l) =
      (.done ((Engine.resolve c t d).answer l), (Engine.resolve c t d).after l) := by
  simp only [Function.iterate_succ, Function.iterate_zero, Function.comp_apply, id,
    Call.answer, Call.after, Engine.run_resolve]
  cases hf : l.findTransfer t with
  | error f => simp [next, hf]
  | ok r =>
    cases he : r.lifecycle.handle (.resolve c d) with
    | error f => simp [next, hf, he]
    | ok e =>
      cases e with
      | sent p q a =>
        simp only [next, hf, he]
        rfl
      | requested p q a =>
        simp only [next, hf, he]
        rfl
      | approved p q a =>
        simp only [next, hf, he, Engine.run_commit_approved]
        cases l.approve t with
        | error f => rfl
        | ok x => rfl
      | rejected p q =>
        simp only [next, hf, he, Engine.run_commit_rejected]
        cases l.settle t .rejected with
        | error f => rfl
        | ok l' =>
          dsimp only
          cases l'.findTransfer t <;> rfl

/-! ### One step of a call -/

section Steps

variable {t : TransferId} {c : AccountId} {d : Decision} {l : Ledger}

/-- A call at its start reads the transfer, or ends with the fault that it is missing. -/
theorem next_start :
    Stage.start.next t c d l =
      ((match l.findTransfer? t with
        | some r => .read r
        | none => .done (.error (.noTransfer t))), l) := by
  cases h : l.findTransfer? t <;> simp [next, Ledger.findTransfer, h]

/-- The life's decision on a snapshot: only its payer may decide it, and only while it is
pending. -/
theorem next_read (r : TransferRecord) :
    (Stage.read r).next t c d l =
      (if c ≠ r.payer then .done (.error .unauthorized)
        else if r.status ≠ .pending then .done (.error (.alreadySettled r.status))
        else .decided (r.decided d), l) := by
  simp only [next, TransferRecord.handle_resolve]
  split_ifs <;> rfl

/-- A settled rejection reads the transfer back, or ends with the fault that it is missing. -/
theorem next_settled :
    Stage.settled.next t c d l =
      ((match l.findTransfer? t with
        | some r => .done (.ok r)
        | none => .done (.error (.noTransfer t))), l) := by
  cases h : l.findTransfer? t <;> simp [next, Ledger.findTransfer, h]

/-- A call that has ended stays as it is and leaves the ledger as it was. -/
theorem next_done (a : Except Fault TransferRecord) : (Stage.done a).next t c d l = (.done a, l) :=
  rfl

/-- What one step of a call can do: leave the ledger as it was, and then commit the call only
if it had committed already; commit an approval by the approval unit; or commit a rejection by
settling the transfer. -/
theorem next_cases (s : Stage) :
    ((s.next t c d l).2 = l ∧ ((s.next t c d l).1.committed = true → s.committed = true)) ∨
    (∃ e r, s = .decided e ∧ e.decision? = some .approve ∧
      l.approve t = .ok (r, (s.next t c d l).2) ∧ (s.next t c d l).1 = .done (.ok r)) ∨
    (∃ e, s = .decided e ∧ e.decision? = some .reject ∧
      l.settle t .rejected = .ok (s.next t c d l).2 ∧ (s.next t c d l).1 = .settled) := by
  cases s with
  | start =>
    left
    rw [next_start]
    cases l.findTransfer? t <;> simp [committed]
  | read r =>
    left
    rw [next_read]
    split_ifs <;> simp [committed]
  | decided e =>
    cases e with
    | approved p q a =>
      cases h : l.approve t with
      | error f => exact .inl (by simp [next, h, committed])
      | ok x =>
        obtain ⟨r, l'⟩ := x
        exact .inr (.inl ⟨_, r, rfl, rfl, by simp [next, h], by simp [next, h]⟩)
    | rejected p q =>
      cases h : l.settle t .rejected with
      | error f => exact .inl (by simp [next, h, committed])
      | ok l' => exact .inr (.inr ⟨_, rfl, rfl, by simp [next, h], by simp [next, h]⟩)
    | sent p q a => exact .inl (by simp [next, committed])
    | requested p q a => exact .inl (by simp [next, committed])
  | settled =>
    left
    rw [next_settled]
    cases l.findTransfer? t <;> simp [committed]
  | done a => exact .inl (by simp [next_done])

/-- Every step of a call leaves the ledger as it was or makes one write of the store. -/
theorem next_writes (s : Stage) : (s.next t c d l).2 = l ∨ Writes l (s.next t c d l).2 := by
  rcases @next_cases t c d l s with ⟨hsame, -⟩ | ⟨e, r, -, -, happ, -⟩ | ⟨e, -, -, hset, -⟩
  · exact .inl hsame
  · exact .inr (.approve happ)
  · exact .inr (.settle hset)

/-- A call that has decided next settles or ends. -/
theorem next_decided_fst (e : Event) :
    ((Stage.decided e).next t c d l).1 = .settled ∨
      ∃ a, ((Stage.decided e).next t c d l).1 = .done a := by
  cases e with
  | approved p q a =>
    cases h : l.approve t with
    | error f => exact .inr ⟨.error f, by simp [next, h]⟩
    | ok x => exact .inr ⟨.ok x.1, by simp [next, h]⟩
  | rejected p q =>
    cases h : l.settle t .rejected with
    | error f => exact .inr ⟨.error f, by simp [next, h]⟩
    | ok l' => exact .inl (by simp [next, h])
  | sent p q a => exact .inr ⟨_, rfl⟩
  | requested p q a => exact .inr ⟨_, rfl⟩

/-- A call decides only on what it read: a snapshot of which the caller is the payer and that
is pending, and the event is the life's decision on it. -/
theorem decided_of_next {s : Stage} {e : Event} (h : (s.next t c d l).1 = .decided e) :
    ∃ r, s = .read r ∧ c = r.payer ∧ r.status = .pending ∧ e = r.decided d := by
  cases s with
  | start =>
    rw [next_start] at h
    cases hf : l.findTransfer? t <;> simp [hf] at h
  | read r =>
    rw [next_read] at h
    split_ifs at h with hc hp
    exact ⟨r, rfl, not_not.mp hc, not_not.mp hp, (Stage.decided.inj h).symm⟩
  | decided e' =>
    rcases @next_decided_fst t c d l e' with hs | ⟨a, ha⟩ <;> simp_all
  | settled =>
    rw [next_settled] at h
    cases hf : l.findTransfer? t <;> simp [hf] at h
  | done a => simp [next_done] at h

/-- A call settles only from a decided rejection. -/
theorem settled_of_next {s : Stage} (h : (s.next t c d l).1 = .settled) :
    ∃ e, s = .decided e ∧ e.decision? = some .reject := by
  cases s with
  | start =>
    rw [next_start] at h
    cases hf : l.findTransfer? t <;> simp [hf] at h
  | read r =>
    rw [next_read] at h
    split_ifs at h
  | decided e =>
    cases e with
    | rejected p q => exact ⟨_, rfl, rfl⟩
    | approved p q a =>
      cases hx : l.approve t with
      | error f => simp [next, hx] at h
      | ok x => simp [next, hx] at h
    | sent p q a => simp [next] at h
    | requested p q a => simp [next] at h
  | settled =>
    rw [next_settled] at h
    cases hf : l.findTransfer? t <;> simp [hf] at h
  | done a => simp [next_done] at h

/-- A call that is midway after a step was midway before it, or has just read the stored
transfer. -/
theorem midway_of_next {s : Stage} (h : (s.next t c d l).1.midway = true) :
    s.midway = true ∨ ∃ r, l.findTransfer? t = some r := by
  cases s with
  | start =>
    rw [next_start] at h
    cases hf : l.findTransfer? t with
    | none => simp [hf, midway] at h
    | some r => exact .inr ⟨r, rfl⟩
  | read r => exact .inl rfl
  | decided e => exact .inl rfl
  | settled => exact .inl rfl
  | done a => simp [next_done, midway] at h

/-- A call that has answered has gone through its unit. -/
theorem committed_of_succeeded {s : Stage} (h : s.succeeded = true) : s.committed = true := by
  cases s with
  | done a => cases a <;> simp_all [succeeded, committed]
  | _ => simp [succeeded] at h

/-- A call has succeeded exactly when it has ended with a transfer. -/
theorem succeeded_iff {s : Stage} : s.succeeded = true ↔ ∃ r, s = .done (.ok r) := by
  cases s with
  | done a => cases a <;> simp [succeeded]
  | _ => simp [succeeded]

/-- A call that has gone through its unit but not answered is settled. -/
theorem settled_of_committed {s : Stage} (hc : s.committed = true) (hs : s.succeeded = false) :
    s = .settled := by
  cases s with
  | settled => rfl
  | done a => cases a <;> simp_all [committed, succeeded]
  | _ => simp [committed] at hc

/-- A call that has succeeded takes no further step. -/
theorem next_of_succeeded {s : Stage} (h : s.succeeded = true) : s.next t c d l = (s, l) := by
  obtain ⟨r, rfl⟩ := succeeded_iff.mp h
  rfl

end Steps

end Stage

/-- A decision call on the raced transfer: who calls, what they decide, and where the call
stands. -/
structure Resolver where
  caller : AccountId
  decision : Decision
  stage : Stage
  deriving DecidableEq, Repr

/-- The call's next step on the transfer `t` from the ledger `l`: the call after it, and the
ledger after it. -/
def Resolver.next (c : Resolver) (t : TransferId) (l : Ledger) : Resolver × Ledger :=
  let n := c.stage.next t c.caller c.decision l
  ({ c with stage := n.1 }, n.2)

/-- A step of a resolving call moves its stage, and keeps its caller and decision. -/
@[simp] theorem Resolver.next_fst (c : Resolver) (t : TransferId) (l : Ledger) :
    (c.next t l).1 = { c with stage := (c.stage.next t c.caller c.decision l).1 } :=
  rfl

/-- A step of a resolving call leaves the ledger that its stage's step leaves. -/
@[simp] theorem Resolver.next_snd (c : Resolver) (t : TransferId) (l : Ledger) :
    (c.next t l).2 = (c.stage.next t c.caller c.decision l).2 :=
  rfl

namespace Ledger

/-- A unit that another call commits beside the decisions on the transfer `t`: an opening, a
send, a request, or a decision on another transfer. -/
inductive Aside (t : TransferId) (l : Ledger) : Ledger → Prop
  | openAccount {u : UserId} {b : Decimal} {a : Account} {l' : Ledger} :
      l.openAccount u b = .ok (a, l') → Aside t l l'
  | send {p q : AccountId} {m : Decimal} {r : TransferRecord} {l' : Ledger} :
      l.recordSend (Draft.send p q m) = .ok (r, l') → Aside t l l'
  | request {p q : AccountId} {m : Decimal} {t' : TransferId} {l' : Ledger} :
      l.create (Draft.request p q m) = .ok (t', l') → Aside t l l'
  | approve {t' : TransferId} {r : TransferRecord} {l' : Ledger} :
      t' ≠ t → l.approve t' = .ok (r, l') → Aside t l l'
  | reject {t' : TransferId} {l' : Ledger} :
      t' ≠ t → l.settle t' .rejected = .ok l' → Aside t l l'

/-- While the transfer `t` is pending, its payer can cover it and its payee's balance can take
it. -/
def Covered (l : Ledger) (t : TransferId) : Prop :=
  ∀ r, l.findTransfer? t = some r → r.status = .pending →
    r.amount ≤ l.centsOf r.payer ∧ l.centsOf r.payee + r.amount ≤ maxBalance

end Ledger

/-! ### The store under the race -/

namespace Ledger

variable {l l' : Ledger} {t : TransferId}

/-- Every unit of the store keeps a stored transfer, changed as a stored transfer may change. -/
theorem findTransfer?_commits (hn : l.Numbered) (hc : Commits l l') {r : TransferRecord}
    (hr : l.findTransfer? t = some r) : ∃ r', l'.findTransfer? t = some r' ∧ r.Becomes r' :=
  (logStep_commits hn hc).find?_becomes hr

/-- Every unit beside the race is a unit of the store. -/
theorem Aside.commits (h : Aside t l l') : Commits l l' := by
  cases h with
  | openAccount h => exact .openAccount h
  | send h => exact .write (.recordSend h)
  | request h => exact .write (.create h)
  | approve _ h => exact .write (.approve h)
  | reject _ h => exact .write (.settle h)

/-- A unit beside the decisions on a transfer leaves its stored record as it was. -/
theorem Aside.findTransfer? (h : Aside t l l') {r : TransferRecord}
    (hr : l.findTransfer? t = some r) : l'.findTransfer? t = some r := by
  have hid : r.id = t := by simpa using List.find?_some hr
  -- a stored transfer keeps its place when records are appended after it
  have happend : ∀ new : List TransferRecord, l'.transfers = l.transfers ++ new →
      l'.findTransfer? t = some r := by
    intro new hnew
    simp only [Ledger.findTransfer?, hnew, List.find?_append]
    rw [show l.transfers.find? (·.id == t) = some r from hr]
    rfl
  -- and keeps its status when another transfer is marked
  have hmarked : ∀ {t' : TransferId} {s : Status}, t' ≠ t →
      l'.transfers = (l.restatus t' s).transfers → l'.findTransfer? t = some r := by
    intro t' s hne hmark
    change l'.transfers.find? (·.id == t) = some r
    rw [hmark]
    change (l.restatus t' s).findTransfer? t = some r
    rw [findTransfer?_restatus, hr]
    simp [hid, Ne.symm hne]
  cases h with
  | openAccount ho =>
    obtain ⟨-, -, -, -, -, -, htr⟩ := openAccount_eq_ok ho
    exact happend [] (by rw [htr, List.append_nil])
  | send hs =>
    obtain ⟨-, l₁, hm, hi⟩ := recordSend_eq_ok hs
    obtain ⟨-, -, -, -, -, htr, -⟩ := insert_eq_ok hi
    exact happend _ (by rw [htr, moveFunds_transfers _ _ _ _ _ hm])
  | request hc =>
    obtain ⟨r', hi, -⟩ := create_eq_ok hc
    obtain ⟨-, -, -, -, -, htr, -⟩ := insert_eq_ok hi
    exact happend _ htr
  | approve hne ha =>
    obtain ⟨-, -, -, -, hm⟩ := approve_eq_ok ha
    exact hmarked hne (moveFunds_transfers _ _ _ _ _ hm)
  | reject hne hs =>
    obtain ⟨-, -, -, -, rfl⟩ := settle_pending _ _ _ _ hs
    exact hmarked hne rfl

/-- An approval of a transfer that is no longer pending fails with the status it found. -/
theorem approve_of_settled {r : TransferRecord} (hr : l.findTransfer? t = some r)
    (hs : r.status ≠ .pending) : l.approve t = .error (.alreadyResolved t r.status) := by
  simp [approve, settle, hr, hs, bind, Except.bind, Status.isTerminal]

/-- How the approval unit refuses a stored transfer of a well-formed ledger: it is no longer
pending, or the payer cannot cover it, or the payee's balance cannot take it. -/
theorem approve_eq_error (hl : l.Logged) {r : TransferRecord} (hr : l.findTransfer? t = some r)
    {f : Fault} (h : l.approve t = .error f) :
    (r.status ≠ .pending ∧ f = .alreadyResolved t r.status) ∨
      (r.status = .pending ∧ (f = .insufficientFunds ∨ f = .creditOverflow r.decimal r.payee)) := by
  by_cases hp : r.status = .pending
  · rw [approve_of_pending hl hr hp] at h
    refine .inr ⟨hp, ?_⟩
    split at h
    · exact .inl (Except.error.inj h).symm
    · split at h
      · exact .inr (Except.error.inj h).symm
      · cases h
  · rw [approve_of_settled hr hp] at h
    exact .inl ⟨hp, (Except.error.inj h).symm⟩

/-- A rejection's settling fails only on a transfer that is no longer pending, with the status it
found. -/
theorem settle_rejected_eq_error {r : TransferRecord} (hr : l.findTransfer? t = some r)
    {f : Fault} (h : l.settle t .rejected = .error f) :
    r.status ≠ .pending ∧ f = .alreadyResolved t r.status := by
  by_cases hp : r.status = .pending
  · rw [settle_of_pending hr hp .rejected rfl] at h
    cases h
  · simp only [settle, Status.isTerminal, Bool.not_true, hr, hp, if_false] at h
    exact ⟨hp, (Except.error.inj h).symm⟩

/-- An approval that goes through on a well-formed ledger found the transfer pending, marks it
approved, and moves its amount from its payer to its payee. -/
theorem approve_pays (hl : l.Logged) {r : TransferRecord} (h : l.approve t = .ok (r, l')) :
    ∃ r₀, l.findTransfer? t = some r₀ ∧ r₀.status = .pending ∧ r = { r₀ with status := .approved } ∧
      l' = ⟨paid l.accounts r₀.payer r₀.payee r₀.amount, (l.restatus t .approved).transfers⟩ := by
  obtain ⟨r₀, hr₀, hp, -⟩ := approve_claims h
  rw [approve_of_pending hl hr₀ hp] at h
  refine ⟨r₀, hr₀, hp, ?_⟩
  split at h
  · cases h
  · split at h
    · cases h
    · simp only [Except.ok.injEq, Prod.mk.injEq] at h
      exact ⟨h.1.symm, h.2.symm⟩

end Ledger

/-- Decision calls racing on one transfer, and the ledger they share. -/
structure Race where
  transfer : TransferId
  ledger : Ledger
  calls : List Resolver

namespace Race

/-- The race after its call `i`, which is `c`, has taken its next step. -/
def advance (g : Race) (i : Nat) (c : Resolver) : Race :=
  let n := c.next g.transfer g.ledger
  { g with ledger := n.2, calls := g.calls.set i n.1 }

/-- One step of the race: one of its calls takes its next step, or another call commits a
unit that `O` allows beside the race. -/
inductive Step (O : Ledger → Ledger → Prop) : Race → Race → Prop
  | call {g : Race} {i : Nat} {c : Resolver} : g.calls[i]? = some c → Step O g (g.advance i c)
  | other {g : Race} {l : Ledger} : O g.ledger l → Step O g { g with ledger := l }

/-- The races that a race comes to, step after step, its calls' steps in any order. -/
def Reach (O : Ledger → Ledger → Prop) : Race → Race → Prop :=
  Relation.ReflTransGen (Step O)

/-! ### What the race guarantees -/

/-- At most one call has succeeded, and the transfer is then in the status that the call's
decision asks for. -/
def SoleSuccess (g : Race) : Prop :=
  ∀ (i : Nat) (a : Resolver), g.calls[i]? = some a → a.stage.succeeded = true →
    (∃ r, g.ledger.findTransfer? g.transfer = some r ∧ r.status = a.decision.target) ∧
    ∀ (j : Nat) (b : Resolver), g.calls[j]? = some b → b.stage.succeeded = true → j = i

/-- What a step of a call does to the balances: the step at which an approval succeeds moves
the pending transfer's amount, at least a cent, from its payer to its payee, and every other
step of a call leaves every balance as it was. -/
def StepPays (g : Race) : Prop :=
  ∀ (i : Nat) (c : Resolver), g.calls[i]? = some c →
    let n := c.next g.transfer g.ledger
    if c.decision = .approve ∧ c.stage.succeeded = false ∧ n.1.stage.succeeded = true then
      ∃ r, g.ledger.findTransfer? g.transfer = some r ∧ r.status = .pending ∧ 0 < r.amount ∧
        n.2.accounts = Ledger.paid g.ledger.accounts r.payer r.payee r.amount
    else n.2.accounts = g.ledger.accounts

/-- Once a step of a call has moved money, no later step of a call moves any. -/
def PaysOnce (O : Ledger → Ledger → Prop) (g : Race) : Prop :=
  ∀ (i : Nat) (c : Resolver), g.calls[i]? = some c → (g.advance i c).ledger.accounts ≠ g.ledger.accounts →
    ∀ g', Reach O (g.advance i c) g' → ∀ (j : Nat) (b : Resolver), g'.calls[j]? = some b →
      (g'.advance j b).ledger.accounts = g'.ledger.accounts

/-- A call that the life let through commits, or is refused by its unit and leaves the ledger
as it was: because the transfer is no longer pending, or, for an approval of the pending
transfer, because the payer cannot cover it or the payee's balance cannot take it. A settled
rejection answers when it reads the transfer back. -/
def UnitOutcomes (g : Race) : Prop :=
  ∀ (i : Nat) (c : Resolver), g.calls[i]? = some c →
    let n := c.next g.transfer g.ledger
    (∀ e, c.stage = .decided e → n.1.stage.committed = true ∨
      ∃ f r, n.1.stage = .done (.error f) ∧ n.2 = g.ledger ∧
        g.ledger.findTransfer? g.transfer = some r ∧
        ((r.status ≠ .pending ∧ f = .alreadyResolved g.transfer r.status) ∨
          (c.decision = .approve ∧ r.status = .pending ∧
            (f = .insufficientFunds ∨ f = .creditOverflow r.decimal r.payee)))) ∧
    (c.stage = .settled → n.1.stage.succeeded = true)

/-- Every call has answered or failed. -/
def Finished (g : Race) : Prop :=
  ∀ c ∈ g.calls, ∃ a, c.stage = .done a

/-- One call has succeeded, and every other call has failed with an invalid transition. -/
def OneWinner (g : Race) : Prop :=
  ∃ (i : Nat) (a : Resolver) (r : TransferRecord), g.calls[i]? = some a ∧ a.stage = .done (.ok r) ∧
    ∀ (j : Nat) (b : Resolver), j ≠ i → g.calls[j]? = some b →
      ∃ f, b.stage = .done (.error f) ∧ f.kind = .invalidTransition

/-! ### Steps of the race -/

variable {O : Ledger → Ledger → Prop} {g g' : Race}

/-- A step of a call keeps the transfer that the race is on. -/
@[simp] theorem advance_transfer (g : Race) (i : Nat) (c : Resolver) :
    (g.advance i c).transfer = g.transfer :=
  rfl

/-- A step of a call leaves the ledger that the call's step leaves. -/
@[simp] theorem advance_ledger (g : Race) (i : Nat) (c : Resolver) :
    (g.advance i c).ledger = (c.stage.next g.transfer c.caller c.decision g.ledger).2 :=
  rfl

/-- A step of a call moves that call's stage. -/
theorem advance_self {i : Nat} {c : Resolver} (hi : g.calls[i]? = some c) :
    (g.advance i c).calls[i]? =
      some { c with stage := (c.stage.next g.transfer c.caller c.decision g.ledger).1 } :=
  List.getElem?_set_self (List.getElem?_eq_some_iff.mp hi).1

/-- A step of a call leaves every other call as it was. -/
theorem advance_other {i j : Nat} (c : Resolver) (h : i ≠ j) :
    (g.advance i c).calls[j]? = g.calls[j]? :=
  List.getElem?_set_ne h

/-- Every call after a step is a call from before it, or the call that stepped. -/
theorem mem_advance {i : Nat} {c b : Resolver} (hb : b ∈ (g.advance i c).calls) :
    b ∈ g.calls ∨ b = { c with stage := (c.stage.next g.transfer c.caller c.decision g.ledger).1 } :=
  List.mem_or_eq_of_mem_set hb

/-- A step of the race keeps the transfer that it is on. -/
theorem Step.transfer (hs : Step O g g') : g'.transfer = g.transfer := by
  cases hs <;> rfl

/-- Every race reached keeps the transfer that it is on. -/
theorem Reach.transfer (h : Reach O g g') : g'.transfer = g.transfer := by
  induction h with
  | refl => rfl
  | tail _ hs ih => rw [hs.transfer, ih]

/-- A step of the race leaves the ledger as it was or makes one unit of the store. -/
theorem Step.commits (hO : ∀ l l', O l l' → Ledger.Aside g.transfer l l') (hs : Step O g g') :
    g'.ledger = g.ledger ∨ Commits g.ledger g'.ledger := by
  cases hs with
  | call hi =>
    rcases Stage.next_writes _ with hsame | hw
    · exact .inl hsame
    · exact .inr (.write hw)
  | other ho => exact .inr (hO _ _ ho).commits

/-- The race after its calls have taken steps in the order that the schedule names them; a name
with no call is skipped. -/
def runSchedule (g : Race) : List Nat → Race
  | [] => g
  | i :: is =>
    match g.calls[i]? with
    | some c => (g.advance i c).runSchedule is
    | none => g.runSchedule is

/-- Every schedule of the calls' steps is a way the race can go. -/
theorem reach_runSchedule (g : Race) (is : List Nat) : Reach O g (g.runSchedule is) := by
  induction is generalizing g with
  | nil => exact Relation.ReflTransGen.refl
  | cons i is ih =>
    rw [runSchedule]
    cases hi : g.calls[i]? with
    | none => exact ih g
    | some c => exact Relation.ReflTransGen.head (Step.call hi) (ih _)

/-- Every race reached has as many calls as it started with. -/
theorem Reach.length_calls (h : Reach O g g') : g'.calls.length = g.calls.length := by
  induction h with
  | refl => rfl
  | tail _ hs ih =>
    cases hs with
    | call hi => rw [← ih]; exact List.length_set
    | other ho => exact ih

/-! ### What every race keeps -/

/-- What every race keeps from its start: the log stays well formed; a call between its read
and its end has seen the transfer stored; a decided event is of its call's decision; a settled
call is a rejection; and at most one call has committed, the transfer being then in the status
that its decision asks for. -/
structure Sound (g : Race) : Prop where
  logged : g.ledger.Logged
  stored : ∀ c ∈ g.calls, c.stage.midway = true → ∃ r, g.ledger.findTransfer? g.transfer = some r
  decided : ∀ c ∈ g.calls, ∀ e, c.stage = .decided e → e.decision? = some c.decision
  settled : ∀ c ∈ g.calls, c.stage = .settled → c.decision = .reject
  claims : ∀ (i : Nat) (a : Resolver), g.calls[i]? = some a → a.stage.committed = true →
    (∃ r, g.ledger.findTransfer? g.transfer = some r ∧ r.status = a.decision.target) ∧
    ∀ (j : Nat) (b : Resolver), g.calls[j]? = some b → b.stage.committed = true → j = i

/-- A race whose calls are all at their start, on a ledger with a well-formed log, keeps the
invariant. -/
theorem sound_start (hl : g.ledger.Logged) (hstart : ∀ c ∈ g.calls, c.stage = .start) :
    g.Sound where
  logged := hl
  stored c hc hm := by simp [hstart c hc, Stage.midway] at hm
  decided c hc e he := by simp [hstart c hc] at he
  settled c hc hs := by simp [hstart c hc] at hs
  claims i a ha hcom := by simp [hstart a (List.mem_of_getElem? ha), Stage.committed] at hcom

/-- While the transfer is pending, no call has committed. -/
theorem Sound.uncommitted (h : g.Sound) {r : TransferRecord}
    (hr : g.ledger.findTransfer? g.transfer = some r) (hp : r.status = .pending) {j : Nat}
    {b : Resolver} (hb : g.calls[j]? = some b) : b.stage.committed = false := by
  by_contra hcom
  obtain ⟨⟨r', hr', hs⟩, -⟩ := h.claims j b hb (by simpa using hcom)
  rw [hr, Option.some.injEq] at hr'
  subst hr'
  exact (Status.isTerminal_iff _).mp (Decision.target_isTerminal b.decision) (hs ▸ hp)

/-- A call that has decided has decided by its own decision. -/
theorem Sound.decision_eq (h : g.Sound) {c : Resolver} (hc : c ∈ g.calls) {e : Event}
    (hs : c.stage = .decided e) {d : Decision} (he : e.decision? = some d) : c.decision = d := by
  have := h.decided c hc e hs
  rw [he, Option.some.injEq] at this
  exact this.symm

/-- A step of a call either leaves the ledger as it was and commits the call only if it had
committed already, or claims the pending transfer for the call's decision by one write. -/
theorem Sound.call_cases (h : g.Sound) {i : Nat} {c : Resolver} (hi : g.calls[i]? = some c) :
    let n := c.stage.next g.transfer c.caller c.decision g.ledger
    (n.2 = g.ledger ∧ (n.1.committed = true → c.stage.committed = true)) ∨
    (∃ r, g.ledger.findTransfer? g.transfer = some r ∧ r.status = .pending ∧
      n.2.findTransfer? g.transfer = some { r with status := c.decision.target } ∧
      n.1.committed = true ∧ Writes g.ledger n.2) := by
  intro n
  have hc : c ∈ g.calls := List.mem_of_getElem? hi
  rcases @Stage.next_cases g.transfer c.caller c.decision g.ledger c.stage with
    hsame | ⟨e, r, hs, he, happ, hn⟩ | ⟨e, hs, he, hset, hn⟩
  · exact .inl hsame
  · -- the approval unit went through, so the call decided an approval
    have hd := h.decision_eq hc hs he
    obtain ⟨r₀, hr₀, hp, hafter⟩ := Ledger.approve_claims happ
    refine .inr ⟨r₀, hr₀, hp, by rw [hd]; exact hafter, ?_, .approve happ⟩
    rw [show n.1 = .done (.ok r) from hn]
    rfl
  · have hd := h.decision_eq hc hs he
    obtain ⟨-, r₀, hr₀, hp, hafter⟩ := Ledger.settle_pending _ _ _ _ hset
    refine .inr ⟨r₀, hr₀, hp, ?_, ?_, .settle hset⟩
    · rw [hafter, hd]
      exact Ledger.findTransfer?_restatus_self hr₀ .rejected
    · rw [show n.1 = .settled from hn]
      rfl

/-- A step of any call keeps the invariant. -/
theorem Sound.call (h : g.Sound) {i : Nat} {c : Resolver} (hi : g.calls[i]? = some c) :
    (g.advance i c).Sound := by
  have hc : c ∈ g.calls := List.mem_of_getElem? hi
  -- the stored transfer stays stored through the step
  have hkeep : ∀ r, g.ledger.findTransfer? g.transfer = some r →
      ∃ r', (g.advance i c).ledger.findTransfer? g.transfer = some r' := by
    intro r hr
    rcases @Stage.next_writes g.transfer c.caller c.decision g.ledger c.stage with hsame | hw
    · exact ⟨r, by rw [advance_ledger, hsame]; exact hr⟩
    · obtain ⟨r', hr', -⟩ := Ledger.findTransfer?_commits h.logged.numbered (.write hw) hr
      exact ⟨r', hr'⟩
  refine ⟨?_, ?_, ?_, ?_, ?_⟩
  · rcases @Stage.next_writes g.transfer c.caller c.decision g.ledger c.stage with hsame | hw
    · rw [advance_ledger, hsame]
      exact h.logged
    · exact h.logged.commits (.write hw)
  · intro b hb hm
    rcases mem_advance hb with hold | rfl
    · obtain ⟨r, hr⟩ := h.stored b hold hm
      exact hkeep r hr
    · rcases Stage.midway_of_next hm with hmid | ⟨r, hr⟩
      · obtain ⟨r, hr⟩ := h.stored c hc hmid
        exact hkeep r hr
      · exact hkeep r hr
  · intro b hb e he
    rcases mem_advance hb with hold | rfl
    · exact h.decided b hold e he
    · obtain ⟨r, -, -, -, rfl⟩ := Stage.decided_of_next he
      exact TransferRecord.decision?_decided r c.decision
  · intro b hb hs
    rcases mem_advance hb with hold | rfl
    · exact h.settled b hold hs
    · obtain ⟨e, he, hrej⟩ := Stage.settled_of_next hs
      exact h.decision_eq hc he hrej
  · intro j b hb hbc
    rcases h.call_cases hi with ⟨hsame, hcom⟩ | ⟨r, hr, hp, hafter, -, -⟩
    · -- nothing is claimed: every committed call had committed already, on the same ledger
      have hold : ∀ (j : Nat) (b : Resolver), (g.advance i c).calls[j]? = some b →
          b.stage.committed = true →
          ∃ b₀, g.calls[j]? = some b₀ ∧ b₀.stage.committed = true ∧ b₀.decision = b.decision := by
        intro j b hb hbc
        by_cases hij : i = j
        · subst hij
          rw [advance_self hi, Option.some.injEq] at hb
          subst hb
          exact ⟨c, hi, hcom hbc, rfl⟩
        · rw [advance_other c hij] at hb
          exact ⟨b, hb, hbc, rfl⟩
      obtain ⟨b₀, hb₀, hb₀c, hdec⟩ := hold j b hb hbc
      obtain ⟨⟨r, hr, hs⟩, huniq⟩ := h.claims j b₀ hb₀ hb₀c
      refine ⟨⟨r, by rw [advance_ledger, hsame]; exact hr, hdec ▸ hs⟩, ?_⟩
      intro j' b' hb' hb'c
      obtain ⟨b₁, hb₁, hb₁c, -⟩ := hold j' b' hb' hb'c
      exact huniq j' b₁ hb₁ hb₁c
    · -- the call claims the pending transfer: no call had committed, so it is the only one
      have honly : ∀ (j : Nat) (b : Resolver), (g.advance i c).calls[j]? = some b →
          b.stage.committed = true → j = i ∧ b.decision = c.decision := by
        intro j b hb hbc
        by_cases hij : i = j
        · subst hij
          rw [advance_self hi, Option.some.injEq] at hb
          exact ⟨rfl, by rw [← hb]⟩
        · rw [advance_other c hij] at hb
          rw [h.uncommitted hr hp hb] at hbc
          cases hbc
      obtain ⟨rfl, hdec⟩ := honly j b hb hbc
      exact ⟨⟨_, hafter, by rw [hdec]⟩, fun j' b' hb' hb'c => (honly j' b' hb' hb'c).1⟩

/-- A unit beside the race keeps the invariant. -/
theorem Sound.other (h : g.Sound) {l : Ledger} (ha : Ledger.Aside g.transfer g.ledger l) :
    ({ g with ledger := l } : Race).Sound where
  logged := h.logged.commits ha.commits
  stored c hc hm := by
    obtain ⟨r, hr⟩ := h.stored c hc hm
    exact ⟨r, ha.findTransfer? hr⟩
  decided := h.decided
  settled := h.settled
  claims i a hi hcom := by
    obtain ⟨⟨r, hr, hs⟩, huniq⟩ := h.claims i a hi hcom
    exact ⟨⟨r, ha.findTransfer? hr, hs⟩, huniq⟩

/-- Every race that a sound race comes to is sound. -/
theorem Reach.sound (hO : ∀ l l', O l l' → Ledger.Aside g.transfer l l') (h : Reach O g g')
    (h₀ : g.Sound) : g'.Sound := by
  induction h with
  | refl => exact h₀
  | tail hr hs ih =>
    cases hs with
    | call hi => exact ih.call hi
    | other ho => exact ih.other (by rw [Reach.transfer hr]; exact hO _ _ ho)

/-! ### What follows for the calls and the money -/

theorem Sound.soleSuccess (h : g.Sound) : g.SoleSuccess := by
  intro i a ha hsucc
  obtain ⟨hstatus, huniq⟩ := h.claims i a ha (Stage.committed_of_succeeded hsucc)
  exact ⟨hstatus, fun j b hb hbs => huniq j b hb (Stage.committed_of_succeeded hbs)⟩

/-- Under the invariant, a step of a call moves money only when an approval succeeds, and then the
transfer's amount from payer to payee. -/
theorem Sound.stepPays (h : g.Sound) : g.StepPays := by
  intro i c hi
  have hc : c ∈ g.calls := List.mem_of_getElem? hi
  rcases @Stage.next_cases g.transfer c.caller c.decision g.ledger c.stage with
    ⟨hsame, hcom⟩ | ⟨e, r, hs, he, happ, hn⟩ | ⟨e, hs, he, hset, hn⟩
  · dsimp only
    split_ifs with hcond
    · -- a step that commits no write commits only a call that had settled, a rejection
      obtain ⟨hd, hbefore, hafter⟩ := hcond
      have hsettled :=
        Stage.settled_of_committed (hcom (Stage.committed_of_succeeded hafter)) hbefore
      rw [h.settled c hc hsettled] at hd
      cases hd
    · exact congrArg Ledger.accounts hsame
  · have hd := h.decision_eq hc hs he
    obtain ⟨r₀, hr₀, hp, -, hl'⟩ := Ledger.approve_pays h.logged happ
    have hpos : 0 < r₀.amount := by
      have := (h.logged.amounts r₀ (List.mem_of_find?_eq_some hr₀)).1
      omega
    dsimp only
    split_ifs with hcond
    · exact ⟨r₀, hr₀, hp, hpos, congrArg Ledger.accounts hl'⟩
    · refine (hcond ⟨hd, by rw [hs]; rfl, ?_⟩).elim
      show (Stage.next g.transfer c.caller c.decision g.ledger c.stage).1.succeeded = true
      rw [hn]
      rfl
  · have hd := h.decision_eq hc hs he
    dsimp only
    split_ifs with hcond
    · rw [hd] at hcond
      exact absurd hcond.1 (by decide)
    · exact Ledger.settle_accounts _ _ _ _ hset

/-- A step of a call that changes the balances is an approval that took the pending transfer to
approved. -/
theorem approved_of_pays {i : Nat} {c : Resolver}
    (hne : (g.advance i c).ledger.accounts ≠ g.ledger.accounts) :
    ∃ r, g.ledger.findTransfer? g.transfer = some r ∧ r.status = .pending ∧
      (g.advance i c).ledger.findTransfer? g.transfer = some { r with status := .approved } := by
  rcases @Stage.next_cases g.transfer c.caller c.decision g.ledger c.stage with
    ⟨hsame, -⟩ | ⟨e, r, -, -, happ, -⟩ | ⟨e, -, -, hset, -⟩
  · exact absurd (congrArg Ledger.accounts hsame) hne
  · exact Ledger.approve_claims happ
  · exact absurd (Ledger.settle_accounts _ _ _ _ hset) hne

/-- A transfer that is no longer pending keeps its record through every later step. -/
theorem Reach.settled_record (hO : ∀ l l', O l l' → Ledger.Aside g.transfer l l')
    (h : Reach O g g') (h₀ : g.Sound) {r : TransferRecord}
    (hr : g.ledger.findTransfer? g.transfer = some r) (hs : r.status ≠ .pending) :
    g'.ledger.findTransfer? g'.transfer = some r := by
  induction h with
  | refl => exact hr
  | tail hreach hstep ih =>
    have hb := Reach.sound hO hreach h₀
    rw [hstep.transfer]
    rcases hstep.commits (by rw [Reach.transfer hreach]; exact hO) with hsame | hcom
    · rw [hsame]
      exact ih
    · obtain ⟨r', hr', hbec⟩ := Ledger.findTransfer?_commits hb.logged.numbered hcom ih
      rw [hbec.eq_of_settled hs] at hr'
      exact hr'

/-- Under the invariant, once a step of a call has moved money, no later step of a call moves any.
-/
theorem Sound.paysOnce (hO : ∀ l l', O l l' → Ledger.Aside g.transfer l l') (h : g.Sound) :
    g.PaysOnce O := by
  intro i c hi hne g' hreach j b hb
  obtain ⟨r, -, -, hafter⟩ := approved_of_pays hne
  have h₁ : (g.advance i c).Sound := h.call hi
  have hO₁ : ∀ l l', O l l' → Ledger.Aside (g.advance i c).transfer l l' := hO
  -- from the paying step on, the transfer stays approved, and no approval unit goes through
  have hkept := Reach.settled_record hO₁ hreach h₁ hafter (by simp)
  by_contra hne'
  obtain ⟨r', hr', hp', -⟩ := approved_of_pays hne'
  rw [hkept, Option.some.injEq] at hr'
  rw [← hr'] at hp'
  cases hp'

/-- Under the invariant, a call the life let through commits or is refused by its unit. -/
theorem Sound.unitOutcomes (h : g.Sound) : g.UnitOutcomes := by
  intro i c hi
  dsimp only
  simp only [Resolver.next_fst, Resolver.next_snd]
  have hc : c ∈ g.calls := List.mem_of_getElem? hi
  refine ⟨fun e hs => ?_, fun hs => ?_⟩
  · -- the call read the transfer, so it is stored
    obtain ⟨r, hr⟩ := h.stored c hc (by rw [hs]; rfl)
    rw [hs]
    cases e with
    | approved p q a =>
      have hd := h.decision_eq hc hs rfl
      cases happ : g.ledger.approve g.transfer with
      | ok x => exact .inl (by simp [Stage.next, happ, Stage.committed])
      | error f =>
        refine .inr ⟨f, r, by simp [Stage.next, happ], by simp [Stage.next, happ], hr, ?_⟩
        rcases Ledger.approve_eq_error h.logged hr happ with hsettled | ⟨hp, hf⟩
        · exact .inl hsettled
        · exact .inr ⟨hd, hp, hf⟩
    | rejected p q =>
      cases hset : g.ledger.settle g.transfer .rejected with
      | ok l' => exact .inl (by simp [Stage.next, hset, Stage.committed])
      | error f =>
        refine .inr ⟨f, r, by simp [Stage.next, hset], by simp [Stage.next, hset], hr, ?_⟩
        exact .inl (Ledger.settle_rejected_eq_error hr hset)
    | sent p q a => simpa [Event.decision?] using h.decided c hc _ hs
    | requested p q a => simpa [Event.decision?] using h.decided c hc _ hs
  · -- a settled rejection reads back the stored transfer
    obtain ⟨r, hr⟩ := h.stored c hc (by rw [hs]; rfl)
    rw [hs, Stage.next_settled, hr]
    rfl

/-! ### Approvals by the payer -/

/-- Some call has succeeded. -/
def Won (g : Race) : Prop :=
  ∃ (j : Nat) (b : Resolver), g.calls[j]? = some b ∧ b.stage.succeeded = true

/-- Once some call has succeeded, some call has succeeded after any further step. -/
theorem Won.advance {i : Nat} {c : Resolver} (hi : g.calls[i]? = some c) (hw : g.Won) :
    (g.advance i c).Won := by
  obtain ⟨j, b, hb, hbs⟩ := hw
  by_cases hij : i = j
  · subst hij
    rw [hi, Option.some.injEq] at hb
    subst hb
    refine ⟨i, _, advance_self hi, ?_⟩
    rw [Stage.next_of_succeeded hbs]
    exact hbs
  · exact ⟨j, b, by rw [advance_other _ hij]; exact hb, hbs⟩

/-- What a race of approvals by the payer `p` keeps: every call is the payer's approval; the
transfer stays stored with its payer; until a call has succeeded the transfer is covered; once
it is no longer pending, a call has succeeded; a snapshot read is of the payer's transfer, and
one no longer pending was read after a success; and a call that failed failed with an invalid
transition, after a success. -/
structure Approving (g : Race) (p : AccountId) : Prop where
  votes : ∀ c ∈ g.calls, c.caller = p ∧ c.decision = .approve
  stored : ∃ r, g.ledger.findTransfer? g.transfer = some r ∧ r.payer = p
  covered : ¬ g.Won → g.ledger.Covered g.transfer
  won : ∀ r, g.ledger.findTransfer? g.transfer = some r → r.status ≠ .pending → g.Won
  snapshots : ∀ c ∈ g.calls, ∀ r, c.stage = .read r → r.payer = p ∧ (r.status ≠ .pending → g.Won)
  refusals : ∀ c ∈ g.calls, ∀ f, c.stage = .done (.error f) → f.kind = .invalidTransition ∧ g.Won

end Race

section Approval

variable {l : Ledger} {t : TransferId} {p : AccountId} {s : Stage} {r₀ : TransferRecord} {W : Prop}

/-- One step of an approval by the payer `p` of the transfer `t`, stored as `r₀`, where `W` says
that some approval has won: the step reads the stored transfer, or lets the life refuse a
snapshot that is no longer pending, or is refused by the approval unit once one has won, or,
while none has, wins, with the payer covering the amount and the payee's balance taking it. -/
theorem approval_next_cases (hl : l.Logged) (hr₀ : l.findTransfer? t = some r₀)
    (hpay : r₀.payer = p) (hwon : r₀.status ≠ .pending → W) (hW : W → r₀.status = .approved)
    (hcov : ¬ W → l.Covered t)
    (hsnap : ∀ r, s = .read r → r.payer = p ∧ (r.status ≠ .pending → W))
    (hdec : ∀ e, s = .decided e → e.decision? = some .approve) (hset : s ≠ .settled)
    (hdone : ∀ f, s = .done (.error f) → f.kind = .invalidTransition ∧ W) :
    ((s.next t p .approve l).2 = l ∧
      (∀ r, (s.next t p .approve l).1 = .read r → r.payer = p ∧ (r.status ≠ .pending → W)) ∧
      ∀ f, (s.next t p .approve l).1 = .done (.error f) → f.kind = .invalidTransition ∧ W) ∨
    ((s.next t p .approve l).1.succeeded = true ∧
      ∃ r, (s.next t p .approve l).2.findTransfer? t = some r ∧ r.payer = p) := by
  cases s with
  | start =>
    -- the read finds the stored transfer
    rw [Stage.next_start, hr₀]
    refine .inl ⟨rfl, fun r hr => ?_, fun f hf => by cases hf⟩
    cases hr
    exact ⟨hpay, hwon⟩
  | read r =>
    obtain ⟨hrpay, hrwon⟩ := hsnap r rfl
    rw [Stage.next_read, if_neg (by rw [hrpay]; exact not_not.mpr rfl)]
    refine .inl ⟨rfl, fun r' hr' => ?_, fun f hf => ?_⟩
    · split_ifs at hr'
    · split_ifs at hf with hp
      cases hf
      exact ⟨rfl, hrwon hp⟩
  | decided e =>
    cases e with
    | approved p' q' a' =>
      by_cases hw : W
      · -- once an approval has won, the unit finds the transfer approved and refuses
        have happ := Ledger.approve_of_settled hr₀ (by rw [hW hw]; decide)
        refine .inl ⟨by simp [Stage.next, happ], fun r hr => by simp [Stage.next, happ] at hr,
          fun f hf => ?_⟩
        simp only [Stage.next, happ, Stage.done.injEq, Except.error.injEq] at hf
        subst hf
        exact ⟨rfl, hw⟩
      · -- while none has, the transfer is pending and covered, and the unit goes through
        have hp : r₀.status = .pending := not_not.mp (fun h => hw (hwon h))
        obtain ⟨hcover, hroom⟩ := hcov hw r₀ hr₀ hp
        have happ := Ledger.approve_of_pending hl hr₀ hp
        rw [if_neg (by omega), if_neg (by omega)] at happ
        refine .inr ⟨by simp [Stage.next, happ, Stage.succeeded], { r₀ with status := .approved },
          ?_, hpay⟩
        simp only [Stage.next, happ]
        exact Ledger.findTransfer?_restatus_self hr₀ .approved
    | rejected p' q' => simp [Event.decision?] at hdec
    | sent p' q' a' => simp [Event.decision?] at hdec
    | requested p' q' a' => simp [Event.decision?] at hdec
  | settled => exact absurd rfl hset
  | done a =>
    rw [Stage.next_done]
    refine .inl ⟨rfl, fun r hr => (by cases hr), fun f hf => ?_⟩
    cases hf
    exact hdone f rfl

end Approval

namespace Race

variable {O : Ledger → Ledger → Prop} {g g' : Race} {p : AccountId}

/-- A step of any call keeps the invariant of approvals by the payer. -/
theorem Approving.call (h : g.Approving p) (hs : g.Sound) {i : Nat} {c : Resolver}
    (hi : g.calls[i]? = some c) : (g.advance i c).Approving p := by
  have hc : c ∈ g.calls := List.mem_of_getElem? hi
  have hwon : g.Won → (g.advance i c).Won := Won.advance hi
  obtain ⟨r₀, hr₀, hpay⟩ := h.stored
  -- a call that has won has approved the transfer
  have hW : g.Won → r₀.status = .approved := by
    rintro ⟨j, b, hb, hbs⟩
    obtain ⟨⟨r, hr, hst⟩, -⟩ := hs.claims j b hb (Stage.committed_of_succeeded hbs)
    rw [hr₀, Option.some.injEq] at hr
    rw [hr, hst, (h.votes b (List.mem_of_getElem? hb)).2]
    rfl
  obtain ⟨caller, decision, stage⟩ := c
  obtain ⟨rfl, rfl⟩ := h.votes _ hc
  have hset : stage ≠ .settled := fun hst => by
    have := hs.settled _ hc hst
    cases this
  -- the step changes the stage only, so every call is still the payer's approval
  have hvotes : ∀ b ∈ (g.advance i ⟨caller, .approve, stage⟩).calls,
      b.caller = caller ∧ b.decision = .approve := by
    intro b hb
    rcases mem_advance hb with hold | rfl
    · exact h.votes b hold
    · exact ⟨rfl, rfl⟩
  rcases approval_next_cases hs.logged hr₀ hpay (h.won r₀ hr₀) hW h.covered (h.snapshots _ hc)
    (hs.decided _ hc) hset (h.refusals _ hc) with ⟨hsame, hread, herr⟩ | ⟨hsucc, r, hr, hrpay⟩
  · -- the ledger is as it was, and the call read, decided, or was refused after a success
    refine ⟨hvotes, ⟨r₀, by rw [advance_ledger, hsame]; exact hr₀, hpay⟩, fun hn => ?_,
      fun r hr hp => ?_, ?_, ?_⟩
    · rw [advance_ledger, hsame]
      exact h.covered (fun hw => hn (hwon hw))
    · rw [advance_ledger, hsame] at hr
      exact hwon (h.won r hr hp)
    · intro b hb r hr
      rcases mem_advance hb with hold | rfl
      · obtain ⟨hrp, hrw⟩ := h.snapshots b hold r hr
        exact ⟨hrp, fun hp => hwon (hrw hp)⟩
      · obtain ⟨hrp, hrw⟩ := hread r hr
        exact ⟨hrp, fun hp => hwon (hrw hp)⟩
    · intro b hb f hf
      rcases mem_advance hb with hold | rfl
      · obtain ⟨hk, hw⟩ := h.refusals b hold f hf
        exact ⟨hk, hwon hw⟩
      · obtain ⟨hk, hw⟩ := herr f hf
        exact ⟨hk, hwon hw⟩
  · -- the call won
    have hwon' : (g.advance i _).Won := ⟨i, _, advance_self hi, hsucc⟩
    refine ⟨hvotes, ⟨r, hr, hrpay⟩, fun hn => absurd hwon' hn, fun _ _ _ => hwon', ?_, ?_⟩
    · intro b hb r' hr'
      rcases mem_advance hb with hold | rfl
      · exact ⟨(h.snapshots b hold r' hr').1, fun _ => hwon'⟩
      · obtain ⟨x, hx⟩ := Stage.succeeded_iff.mp hsucc
        rw [hx] at hr'
        cases hr'
    · intro b hb f hf
      rcases mem_advance hb with hold | rfl
      · exact ⟨(h.refusals b hold f hf).1, hwon'⟩
      · obtain ⟨x, hx⟩ := Stage.succeeded_iff.mp hsucc
        rw [hx] at hf
        cases hf

/-- A unit beside the race that keeps the transfer covered keeps the invariant of approvals by the
payer. -/
theorem Approving.other (h : g.Approving p) {l : Ledger} (ha : Ledger.Aside g.transfer g.ledger l)
    (hcov : g.ledger.Covered g.transfer → l.Covered g.transfer) :
    ({ g with ledger := l } : Race).Approving p where
  votes := h.votes
  stored := by
    obtain ⟨r, hr, hp⟩ := h.stored
    exact ⟨r, ha.findTransfer? hr, hp⟩
  covered hn := hcov (h.covered hn)
  won r hr hp := by
    obtain ⟨r₀, hr₀, -⟩ := h.stored
    rw [ha.findTransfer? hr₀, Option.some.injEq] at hr
    subst hr
    exact h.won r₀ hr₀ hp
  snapshots := h.snapshots
  refusals := h.refusals

/-- A race of approvals by the payer, all at their start on a covered pending transfer, keeps the
invariant of approvals. -/
theorem approving_start (hstart : ∀ c ∈ g.calls, c.stage = .start) {r : TransferRecord}
    (hr : g.ledger.findTransfer? g.transfer = some r) (hp : r.status = .pending)
    (hvotes : ∀ c ∈ g.calls, c.caller = r.payer ∧ c.decision = .approve)
    (hcov : g.ledger.Covered g.transfer) : g.Approving r.payer where
  votes := hvotes
  stored := ⟨r, hr, rfl⟩
  covered _ := hcov
  won r' hr' hp' := by
    rw [hr, Option.some.injEq] at hr'
    subst hr'
    exact absurd hp hp'
  snapshots c hc r' hs := by simp [hstart c hc] at hs
  refusals c hc f hf := by simp [hstart c hc] at hf

/-- Every race that a race of the payer's approvals comes to is one, as long as the other units
keep the transfer covered. -/
theorem Reach.approving
    (hO : ∀ l l', O l l' → Ledger.Aside g.transfer l l' ∧
      (l.Covered g.transfer → l'.Covered g.transfer))
    (h : Reach O g g') (h₀ : g.Sound) (ha : g.Approving p) : g'.Approving p := by
  induction h with
  | refl => exact ha
  | tail hr hs ih =>
    have hb := Reach.sound (fun l l' ho => (hO l l' ho).1) hr h₀
    cases hs with
    | call hi => exact ih.call hb hi
    | other ho =>
      have hother := hO _ _ ho
      rw [← Reach.transfer hr] at hother
      exact ih.other hother.1 hother.2

/-- Once every approval has ended, one has succeeded and every other one failed with an invalid
transition. -/
theorem Approving.oneWinner (h : g.Approving p) (hs : g.Sound) (hf : g.Finished)
    (hne : g.calls ≠ []) : g.OneWinner := by
  -- the first call succeeded, or failed after a success
  have hwon : g.Won := by
    obtain ⟨c₀, hc₀⟩ : ∃ c₀, g.calls[0]? = some c₀ := by
      cases hcalls : g.calls with
      | nil => exact absurd hcalls hne
      | cons c₀ _ => exact ⟨c₀, rfl⟩
    obtain ⟨a, ha⟩ := hf c₀ (List.mem_of_getElem? hc₀)
    cases a with
    | ok r => exact ⟨0, c₀, hc₀, by rw [ha]; rfl⟩
    | error f => exact (h.refusals c₀ (List.mem_of_getElem? hc₀) f ha).2
  obtain ⟨i, a, ha, hsucc⟩ := hwon
  obtain ⟨r, hr⟩ := Stage.succeeded_iff.mp hsucc
  refine ⟨i, a, r, ha, hr, fun j b hji hb => ?_⟩
  obtain ⟨x, hx⟩ := hf b (List.mem_of_getElem? hb)
  cases x with
  | ok r' => exact absurd ((hs.soleSuccess i a ha hsucc).2 j b hb (by rw [hx]; rfl)) hji
  | error f => exact ⟨f, hx, (h.refusals b (List.mem_of_getElem? hb) f hx).1⟩

end Race

/-- Decision calls racing on one transfer, each in its atomic steps, interleaved in any order
with one another and with the units of other calls that `O` allows: at every point at most one
call has succeeded; a step of a call moves money only as the approval that succeeds, and then
the transfer's amount from its payer to its payee; after a step of a call has moved money, no
later one does; and a call that the life let through either commits or is refused by its unit,
because the transfer is no longer pending or, for an approval, because the payer cannot cover
it or the payee's balance cannot take it. When every call is an approval by the payer of a
pending transfer, at least one, the transfer is covered, and the other units keep it covered,
then once every call has ended one has succeeded and every other one failed with an invalid
transition. -/
theorem decisions_on_a_transfer_commit_once (g₀ : Race) (hl : g₀.ledger.Logged)
    (hstart : ∀ c ∈ g₀.calls, c.stage = .start) (O : Ledger → Ledger → Prop)
    (hO : ∀ l l', O l l' → Ledger.Aside g₀.transfer l l') :
    (∀ g, Race.Reach O g₀ g → g.SoleSuccess ∧ g.StepPays ∧ g.PaysOnce O ∧ g.UnitOutcomes) ∧
    ∀ r, g₀.ledger.findTransfer? g₀.transfer = some r → r.status = .pending →
      (∀ c ∈ g₀.calls, c.caller = r.payer ∧ c.decision = .approve) → g₀.calls ≠ [] →
      g₀.ledger.Covered g₀.transfer →
      (∀ l l', O l l' → l.Covered g₀.transfer → l'.Covered g₀.transfer) →
      ∀ g, Race.Reach O g₀ g → g.Finished → g.OneWinner := by
  have h₀ : g₀.Sound := Race.sound_start hl hstart
  refine ⟨fun g hreach => ?_, fun r hr hp hvotes hne hcov hkeep g hreach hf => ?_⟩
  · have hg := Race.Reach.sound hO hreach h₀
    have hOg : ∀ l l', O l l' → Ledger.Aside g.transfer l l' := by
      rw [Race.Reach.transfer hreach]
      exact hO
    exact ⟨hg.soleSuccess, hg.stepPays, hg.paysOnce hOg, hg.unitOutcomes⟩
  · have happ := Race.Reach.approving (fun l l' ho => ⟨hO l l' ho, hkeep l l' ho⟩) hreach h₀
      (Race.approving_start hstart hr hp hvotes hcov)
    have hne' : g.calls ≠ [] := by
      rw [← List.length_pos_iff, Race.Reach.length_calls hreach, List.length_pos_iff]
      exact hne
    exact happ.oneWinner (Race.Reach.sound hO hreach h₀) hf hne'

/-- Eight approvals by the payer of a request of 30.00 to an account holding nothing, the payer
holding 100.00: beside any other units, and alone. -/
theorem decisions_on_a_transfer_commit_once_eight_approvals :
    let g₀ : Race := ⟨⟨1⟩, ⟨[⟨⟨1⟩, ⟨1⟩, 10000⟩, ⟨⟨2⟩, ⟨2⟩, 0⟩],
      [⟨⟨1⟩, .request, .pending, ⟨1⟩, ⟨2⟩, 3000⟩]⟩, List.replicate 8 ⟨⟨1⟩, .approve, .start⟩⟩
    g₀.ledger.Logged ∧ (∀ c ∈ g₀.calls, c.stage = .start) ∧ g₀.ledger.Covered g₀.transfer ∧
      (∀ g, Race.Reach (Ledger.Aside g₀.transfer) g₀ g → g.SoleSuccess ∧ g.StepPays ∧
        g.PaysOnce (Ledger.Aside g₀.transfer) ∧ g.UnitOutcomes) ∧
      ∀ g, Race.Reach (fun _ _ => False) g₀ g → g.Finished → g.OneWinner := by
  intro g₀
  have hl : g₀.ledger.Logged := ⟨⟨rfl, rfl⟩, by decide, by decide⟩
  have hstart : ∀ c ∈ g₀.calls, c.stage = .start := by
    intro c hc
    rw [(List.mem_replicate.mp hc).2]
  have hr : g₀.ledger.findTransfer? g₀.transfer = some ⟨⟨1⟩, .request, .pending, ⟨1⟩, ⟨2⟩, 3000⟩ :=
    rfl
  have hcov : g₀.ledger.Covered g₀.transfer := by
    intro r hr' _
    rw [hr, Option.some.injEq] at hr'
    subst hr'
    exact ⟨by decide, by decide⟩
  have hvotes : ∀ c ∈ g₀.calls, c.caller = ⟨1⟩ ∧ c.decision = .approve := by
    intro c hc
    rw [(List.mem_replicate.mp hc).2]
    exact ⟨rfl, rfl⟩
  refine ⟨hl, hstart, hcov,
    (decisions_on_a_transfer_commit_once g₀ hl hstart _ (fun _ _ h => h)).1, ?_⟩
  exact (decisions_on_a_transfer_commit_once g₀ hl hstart (fun _ _ => False)
    (fun _ _ h => h.elim)).2 _ hr rfl hvotes (by simp [g₀]) hcov (fun _ _ h => h.elim)

/-- Two approvals by the payer, who holds 100.00, of a pending request of 1.00 to an account
that holds the largest balance, run one after the other: both fail with the credit overflow,
so no approval succeeds. -/
theorem approvals_to_a_full_payee_all_fail :
    let g₀ : Race := ⟨⟨1⟩, ⟨[⟨⟨1⟩, ⟨1⟩, 10000⟩, ⟨⟨2⟩, ⟨2⟩, 9223372036854775807⟩],
      [⟨⟨1⟩, .request, .pending, ⟨1⟩, ⟨2⟩, 100⟩]⟩, List.replicate 2 ⟨⟨1⟩, .approve, .start⟩⟩
    let g := g₀.runSchedule [0, 0, 0, 1, 1, 1]
    g₀.ledger.findTransfer? g₀.transfer = some ⟨⟨1⟩, .request, .pending, ⟨1⟩, ⟨2⟩, 100⟩ ∧
      100 ≤ g₀.ledger.centsOf ⟨1⟩ ∧
      (∀ c ∈ g₀.calls, c.caller = ⟨1⟩ ∧ c.decision = .approve ∧ c.stage = .start) ∧
      Race.Reach (fun _ _ => False) g₀ g ∧ g.Finished ∧
      g.calls.map (·.stage) = List.replicate 2 (.done (.error (.creditOverflow ⟨false, 100, 2⟩ ⟨2⟩))) ∧
      ¬ g.OneWinner := by
  intro g₀ g
  have hg : g.calls = List.replicate 2
      ⟨⟨1⟩, .approve, .done (.error (.creditOverflow ⟨false, 100, 2⟩ ⟨2⟩))⟩ := by decide
  refine ⟨rfl, by decide, fun c hc => ?_, Race.reach_runSchedule g₀ _, fun c hc => ?_, by rw [hg]; rfl,
    ?_⟩
  · rw [(List.mem_replicate.mp hc).2]
    exact ⟨rfl, rfl, rfl⟩
  · rw [hg] at hc
    rw [(List.mem_replicate.mp hc).2]
    exact ⟨_, rfl⟩
  · rintro ⟨i, a, r, ha, hr, -⟩
    rw [hg] at ha
    rw [(List.mem_replicate.mp (List.mem_of_getElem? ha)).2] at hr
    cases hr

end Remit
