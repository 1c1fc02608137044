import Remit.Proofs.Story

/-!
# A stored transfer is the state its events make

The engine decides a stored transfer on a snapshot: the life's state read off the stored record
(`TransferRecord.lifecycle`). The life itself is event sourced: its state is what its events
make from a fresh transfer (`Lifecycle.replay`). For every record of a kind and status that the
engine stores (a send approved, a request pending, approved or rejected) the two agree: replaying
the events the engine produced for it, a send's sent event, or a request's requested event then
its decision if any, makes the snapshot's state, with the amount as it was asked for in place of
the amount read back in cents (`TransferRecord.replay_events`). The two amounts are written
differently (`25` and `25.00`) and have the same value, so the states are alike
(`Lifecycle.Alike`), and alike states answer every command alike: the same refusal, or events
that differ in how their amounts are written only (`Lifecycle.Alike.handle`). So the decision
the engine takes on the snapshot is the one the life would take on its own history
(`snapshot_replays_events`).
-/

set_option autoImplicit false

namespace Remit

namespace Event

/-- Two events alike: the same event between the same accounts, with amounts of the same
value. -/
inductive Alike : Event → Event → Prop
  | sent (p q : AccountId) {a a' : Decimal} (h : a.value = a'.value) :
      Alike (.sent p q a) (.sent p q a')
  | requested (p q : AccountId) {a a' : Decimal} (h : a.value = a'.value) :
      Alike (.requested p q a) (.requested p q a')
  | approved (p q : AccountId) {a a' : Decimal} (h : a.value = a'.value) :
      Alike (.approved p q a) (.approved p q a')
  | rejected (p q : AccountId) : Alike (.rejected p q) (.rejected p q)

/-- Every event is alike to itself. -/
theorem Alike.refl (e : Event) : e.Alike e := by
  cases e with
  | sent p q a => exact .sent p q rfl
  | requested p q a => exact .requested p q rfl
  | approved p q a => exact .approved p q rfl
  | rejected p q => exact .rejected p q

end Event

/-- Two answers of a transfer's life alike: the same refusal, or alike events. -/
def AnswersAlike : Except Fault Event → Except Fault Event → Prop
  | .error f, .error f' => f = f'
  | .ok e, .ok e' => e.Alike e'
  | _, _ => False

/-- Every answer is alike to itself. -/
theorem AnswersAlike.refl (x : Except Fault Event) : AnswersAlike x x := by
  cases x with
  | error f => exact rfl
  | ok e => exact Event.Alike.refl e

namespace Lifecycle

/-- Two states of a transfer alike: they agree on everything, and their amounts have the same
value however each is written. -/
structure Alike (t t' : Lifecycle) : Prop where
  recorded : t.recorded = t'.recorded
  kind : t.kind = t'.kind
  status : t.status = t'.status
  payer : t.payer = t'.payer
  payee : t.payee = t'.payee
  amount : t.amount.value = t'.amount.value

/-- Two lifecycles built from the same parts with amounts of the same value are alike. -/
theorem alike_ofParts (k : Kind) (s : Status) (p q : AccountId) {a a' : Decimal}
    (h : a.value = a'.value) : (ofParts k s p q a).Alike (ofParts k s p q a') :=
  ⟨rfl, rfl, rfl, rfl, rfl, h⟩

namespace Alike

variable {t t' : Lifecycle}

/-- Alike lifecycles check a new transfer alike. -/
theorem checkNew (h : t.Alike t') (p q : AccountId) (a : Decimal) :
    t.checkNew p q a = t'.checkNew p q a := by
  simp only [Lifecycle.checkNew, requireNew, h.recorded]

/-- Alike lifecycles have the same parties. -/
theorem parties (h : t.Alike t') : t.parties = t'.parties := by
  simp only [Lifecycle.parties, h.recorded, h.payer, h.payee]

/-- Alike lifecycles agree on whether the transfer is pending. -/
theorem requirePending (h : t.Alike t') : t.requirePending = t'.requirePending := by
  simp only [Lifecycle.requirePending, h.status]

/-- A decision on alike states: the checks read only what the states share, and an approval's
event carries each state's own amount. -/
theorem handle_resolve (h : t.Alike t') (c : AccountId) (d : Decision) :
    AnswersAlike (t.handle (.resolve c d)) (t'.handle (.resolve c d)) := by
  simp only [handle, h.parties, h.requirePending, bind, Except.bind]
  cases t'.parties with
  | error f => exact rfl
  | ok pq =>
    obtain ⟨p, q⟩ := pq
    by_cases hc : c = p
    · simp only [hc, ne_eq, not_true_eq_false, if_false]
      cases t'.requirePending with
      | error f => exact rfl
      | ok u =>
        cases d with
        | approve => exact Event.Alike.approved p q h.amount
        | reject => exact Event.Alike.rejected p q
    · simp only [hc, ne_eq, not_false_eq_true, if_true]
      exact rfl

/-- Alike states answer every command alike. -/
theorem handle (h : t.Alike t') (c : Command) : AnswersAlike (t.handle c) (t'.handle c) := by
  cases c with
  | send p q a =>
    rw [handle_send, handle_send, h.checkNew]
    exact AnswersAlike.refl _
  | request p q a =>
    rw [handle_request, handle_request, h.checkNew]
    exact AnswersAlike.refl _
  | resolve c d => exact h.handle_resolve c d

end Alike

end Lifecycle

namespace TransferRecord

/-- The events the engine produced for a stored transfer, the first one carrying the amount `m`
the transfer was asked for: a send was sent; a request was requested, and then approved or
rejected as its status says. -/
def events (r : TransferRecord) (m : Decimal) : List Event :=
  match r.kind, r.status with
  | .send, _ => [.sent r.payer r.payee m]
  | .request, .pending => [.requested r.payer r.payee m]
  | .request, .approved => [.requested r.payer r.payee m, .approved r.payer r.payee r.decimal]
  | .request, .rejected => [.requested r.payer r.payee m, .rejected r.payer r.payee]

/-- Replaying a stored transfer's events makes its kind, status and parties, with the amount
the first event carried. -/
theorem replay_events (r : TransferRecord) (m : Decimal) (hk : r.kind = .send → r.status = .approved) :
    Lifecycle.fresh.replay (r.events m) = Lifecycle.ofParts r.kind r.status r.payer r.payee m := by
  unfold events
  cases hkind : r.kind with
  | send =>
    rw [hk hkind]
    rfl
  | request =>
    cases r.status <;> rfl

end TransferRecord

/-- A stored transfer of a kind and status that the engine produces, asked for with an amount `m`
that converts to its cents, is alike the state its events make from a fresh transfer, and the
same state when the events carry the amount read back from the store; so on every command the
snapshot answers as the event history does: the same refusal, or alike events. -/
theorem snapshot_replays_events (r : TransferRecord) (m : Decimal)
    (hm : m.toCents = .ok r.amount) (hk : r.kind = .send → r.status = .approved) :
    r.lifecycle = Lifecycle.fresh.replay (r.events r.decimal) ∧
      r.lifecycle.Alike (Lifecycle.fresh.replay (r.events m)) ∧
      ∀ c : Command,
        AnswersAlike (r.lifecycle.handle c) ((Lifecycle.fresh.replay (r.events m)).handle c) := by
  -- the amount asked for and the one read back are both the cents over a hundred
  have hvalue : r.decimal.value = m.value := by
    obtain ⟨hv, -⟩ := (Decimal.toCents_eq_ok_iff m r.amount).mp hm
    rw [TransferRecord.decimal, Decimal.value_ofCents, ← hv]
    ring
  have halike : r.lifecycle.Alike (Lifecycle.fresh.replay (r.events m)) := by
    rw [r.replay_events m hk]
    exact Lifecycle.alike_ofParts _ _ _ _ hvalue
  exact ⟨(r.replay_events r.decimal hk).symm, halike, halike.handle⟩

/-- An approved request of 25.00, asked for as 25. -/
theorem snapshot_replays_events_approved :
    let r : TransferRecord := ⟨⟨1⟩, .request, .approved, ⟨1⟩, ⟨2⟩, 2500⟩
    let m : Decimal := ⟨false, 25, 0⟩
    (m.toCents = .ok r.amount ∧ (r.kind = .send → r.status = .approved)) ∧
      r.lifecycle = Lifecycle.fresh.replay (r.events r.decimal) ∧
      r.lifecycle.Alike (Lifecycle.fresh.replay (r.events m)) ∧
      ∀ c : Command,
        AnswersAlike (r.lifecycle.handle c) ((Lifecycle.fresh.replay (r.events m)).handle c) :=
  ⟨⟨by decide, nofun⟩,
    snapshot_replays_events ⟨⟨1⟩, .request, .approved, ⟨1⟩, ⟨2⟩, 2500⟩ ⟨false, 25, 0⟩
      (by decide) nofun⟩

end Remit
