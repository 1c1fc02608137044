import Remit.Proofs.Admission

/-!
# A transfer's life tells one story

A transfer's life takes commands one at a time: an accepted command yields its event and the
event is applied, a refused one leaves the state as it was (`Lifecycle.step`). Whatever
commands come, in whatever order, the accepted ones tell one of four stories
(`Lifecycle.Story`): nothing yet; one send; one request; or one request and then one decision
of its payer. So at most one send or request is ever accepted, and before every accepted
decision; a decision is accepted only on a request, only from the request's payer, and only
once. Every state on the way is well formed (`Lifecycle.WellFormed`): a transfer not yet
recorded knows nothing, and a recorded one knows its kind, its status and its two parties,
which differ, and carries an amount above zero of whole cents within 64 bits, a send being
approved. Once the status is final the life refuses every command, so the status never
changes again (`commands_tell_one_story`).

The proof is one step lemma (`Lifecycle.Story.step`), by cases on the story so far and on the
command, and its run lemma by induction on the commands (`Lifecycle.Story.run`).
-/

set_option autoImplicit false

namespace Remit

/-- The event of the payer's decision on a request. -/
def Event.ofDecision (p q : AccountId) (a : Decimal) : Decision → Event
  | .approve => .approved p q a
  | .reject => .rejected p q

namespace Lifecycle

/-- Takes one command: an accepted command's event is applied, a refused command changes
nothing. -/
def step (t : Lifecycle) (c : Command) : Lifecycle :=
  match t.handle c with
  | .ok e => t.apply e
  | .error _ => t

/-- The state after the commands, taken in order. -/
def run (t : Lifecycle) (cs : List Command) : Lifecycle :=
  cs.foldl step t

/-- The command with its event if the state accepts it, and nothing if it refuses it. -/
def acceptedBy (t : Lifecycle) (c : Command) : List (Command × Event) :=
  match t.handle c with
  | .ok e => [(c, e)]
  | .error _ => []

/-- The accepted commands of a run, in order, each with its event. -/
def accepted (t : Lifecycle) : List Command → List (Command × Event)
  | [] => []
  | c :: cs => t.acceptedBy c ++ (t.step c).accepted cs

/-- Running no commands leaves the lifecycle as it was. -/
@[simp] theorem run_nil (t : Lifecycle) : t.run [] = t := rfl

/-- Running a command and then the rest is running the rest from the lifecycle the command led to.
-/
@[simp] theorem run_cons (t : Lifecycle) (c : Command) (cs : List Command) :
    t.run (c :: cs) = (t.step c).run cs := rfl

/-- Running two lists of commands one after the other is running them joined. -/
theorem run_append (t : Lifecycle) (cs ds : List Command) :
    t.run (cs ++ ds) = (t.run cs).run ds := by
  simp [run]

/-- A refused command changes nothing and is not accepted. -/
theorem step_of_error {t : Lifecycle} {c : Command} {f : Fault} (h : t.handle c = .error f) :
    t.step c = t ∧ t.acceptedBy c = [] := by
  simp [step, acceptedBy, h]

/-- An accepted command applies its event and is accepted with it. -/
theorem step_of_ok {t : Lifecycle} {c : Command} {e : Event} (h : t.handle c = .ok e) :
    t.step c = t.apply e ∧ t.acceptedBy c = [(c, e)] := by
  simp [step, acceptedBy, h]

/-- A recorded transfer takes no second send or request. -/
theorem checkNew_of_recorded {t : Lifecycle} (h : t.recorded = true) (p q : AccountId)
    (a : Decimal) : t.checkNew p q a = .error .alreadyRecorded := by
  simp [checkNew, requireNew, h, bind, Except.bind]

/-- A transfer that is not pending takes no decision. -/
theorem handle_resolve_of_not_pending {t : Lifecycle} (h : t.status ≠ some .pending)
    (c : AccountId) (d : Decision) : ∃ f, t.handle (.resolve c d) = .error f := by
  cases hr : t.handle (.resolve c d) with
  | error f => exact ⟨f, rfl⟩
  | ok e =>
    obtain ⟨-, -, hs, -⟩ := (handle_resolve_eq_ok t c d e).mp hr
    exact absurd hs h

/-- A recorded transfer that is no longer pending refuses every command. -/
theorem refuses_of_settled {t : Lifecycle} (hr : t.recorded = true)
    (hs : t.status ≠ some .pending) (c : Command) : ∃ f, t.handle c = .error f := by
  cases c with
  | send p q a => exact ⟨_, by rw [handle_send, checkNew_of_recorded hr]⟩
  | request p q a => exact ⟨_, by rw [handle_request, checkNew_of_recorded hr]⟩
  | resolve c d => exact handle_resolve_of_not_pending hs c d

/-- The payer's decision on a pending request yields the decision's event; anyone else's is
refused. -/
theorem handle_resolve_requested (p q : AccountId) (a : Decimal) (c : AccountId) (d : Decision) :
    (ofParts .request .pending p q a).handle (.resolve c d) =
      if c = p then .ok (.ofDecision p q a d) else .error .unauthorized := by
  by_cases hc : c = p
  · subst hc
    rw [if_pos rfl, handle_resolve_eq_ok]
    exact ⟨q, rfl, rfl, by cases d <;> rfl⟩
  · simp [handle, parties, ofParts, hc, bind, Except.bind, throw, throwThe, MonadExceptOf.throw]

/-- The stories a transfer's life can tell: the accepted commands, each with its event, and the
state they left. A send or a request is accepted only when it is transferable, and a decision
only from the payer of a request. -/
inductive Story : List (Command × Event) → Lifecycle → Prop
  | fresh : Story [] fresh
  | sent {p q : AccountId} {a : Decimal} (h : Transferable p q a) :
      Story [(.send p q a, .sent p q a)] (ofParts .send .approved p q a)
  | requested {p q : AccountId} {a : Decimal} (h : Transferable p q a) :
      Story [(.request p q a, .requested p q a)] (ofParts .request .pending p q a)
  | decided {p q : AccountId} {a : Decimal} (h : Transferable p q a) (d : Decision) :
      Story [(.request p q a, .requested p q a), (.resolve p d, .ofDecision p q a d)]
        (ofParts .request d.target p q a)

/-- What every state of a transfer's life satisfies: before it is recorded it knows nothing;
once recorded it knows its kind, status and parties, its amount is transferable between them,
and a send is approved. -/
structure WellFormed (t : Lifecycle) : Prop where
  blank : t.recorded = false →
    t.kind = none ∧ t.status = none ∧ t.payer = none ∧ t.payee = none ∧ t.amount = .zero
  known : t.recorded = true → ∃ k s p q, t.kind = some k ∧ t.status = some s ∧
    t.payer = some p ∧ t.payee = some q ∧ Transferable p q t.amount ∧ (k = .send → s = .approved)

namespace Story

variable {hist : List (Command × Event)} {t : Lifecycle}

/-- A recorded state well formed in its kind, status and parties. -/
theorem wellFormed_ofParts {k : Kind} {s : Status} {p q : AccountId} {a : Decimal}
    (h : Transferable p q a) (hk : k = .send → s = .approved) : (ofParts k s p q a).WellFormed :=
  ⟨nofun, fun _ => ⟨k, s, p, q, rfl, rfl, rfl, rfl, h, hk⟩⟩

/-- Every lifecycle that a story of accepted commands reaches is well formed. -/
theorem wellFormed (h : Story hist t) : t.WellFormed := by
  cases h with
  | fresh => exact ⟨fun _ => ⟨rfl, rfl, rfl, rfl, rfl⟩, nofun⟩
  | sent h => exact wellFormed_ofParts h fun _ => rfl
  | requested h => exact wellFormed_ofParts h nofun
  | decided h d => exact wellFormed_ofParts h nofun

/-- A state whose status is final is recorded and no longer pending. -/
theorem settled {s : Status} (h : Story hist t) (hs : t.status = some s) (hp : s ≠ .pending) :
    t.recorded = true ∧ t.status ≠ some .pending := by
  refine ⟨?_, by rw [hs]; simpa using hp⟩
  cases h with
  | fresh => cases hs
  | _ => rfl

/-- A refused command keeps the story. -/
theorem of_error {c : Command} {f : Fault} (h : Story hist t) (hc : t.handle c = .error f) :
    Story (hist ++ t.acceptedBy c) (t.step c) := by
  obtain ⟨hstep, hacc⟩ := step_of_error hc
  rw [hstep, hacc, List.append_nil]
  exact h

/-- One command carries a story on: a fresh transfer takes a transferable send or request, a
pending request takes its payer's decision, and everything else is refused. -/
theorem step (h : Story hist t) (c : Command) : Story (hist ++ t.acceptedBy c) (t.step c) := by
  cases h with
  | fresh =>
    cases c with
    | send p q a =>
      cases hc : Lifecycle.fresh.checkNew p q a with
      | error f => exact Story.fresh.of_error (by rw [handle_send, hc])
      | ok u =>
        obtain ⟨hstep, hacc⟩ := step_of_ok (t := Lifecycle.fresh) (by rw [handle_send, hc])
        rw [hstep, hacc]
        exact .sent ((checkNew_fresh_eq_ok_iff p q a).mp hc)
    | request p q a =>
      cases hc : Lifecycle.fresh.checkNew p q a with
      | error f => exact Story.fresh.of_error (by rw [handle_request, hc])
      | ok u =>
        obtain ⟨hstep, hacc⟩ := step_of_ok (t := Lifecycle.fresh) (by rw [handle_request, hc])
        rw [hstep, hacc]
        exact .requested ((checkNew_fresh_eq_ok_iff p q a).mp hc)
    | resolve c d => exact Story.fresh.of_error (f := .unrecorded) rfl
  | sent hp =>
    obtain ⟨hr, hsp⟩ := (Story.sent hp).settled rfl (by decide : Status.approved ≠ .pending)
    obtain ⟨f, hc⟩ := refuses_of_settled hr hsp c
    exact (Story.sent hp).of_error hc
  | @requested p q a hp =>
    -- only a decision can be taken now, and only from the payer
    cases c with
    | send p' q' a' =>
      exact (Story.requested hp).of_error (by rw [handle_send, checkNew_of_recorded rfl])
    | request p' q' a' =>
      exact (Story.requested hp).of_error (by rw [handle_request, checkNew_of_recorded rfl])
    | resolve c d =>
      by_cases hc : c = p
      · subst hc
        obtain ⟨hstep, hacc⟩ := step_of_ok (t := ofParts .request .pending c q a)
          (c := .resolve c d) (by rw [handle_resolve_requested, if_pos rfl])
        rw [hstep, hacc]
        cases d <;> exact .decided hp _
      · exact (Story.requested hp).of_error (by rw [handle_resolve_requested, if_neg hc])
  | decided hp d =>
    have hd : d.target ≠ .pending := (Status.isTerminal_iff _).mp (Decision.target_isTerminal d)
    obtain ⟨hr, hsp⟩ := (Story.decided hp d).settled rfl hd
    obtain ⟨f, hc⟩ := refuses_of_settled hr hsp c
    exact (Story.decided hp d).of_error hc

/-- A run carries a story on through every command. -/
theorem run (h : Story hist t) (cs : List Command) :
    Story (hist ++ t.accepted cs) (t.run cs) := by
  induction cs generalizing hist t with
  | nil => simpa [accepted] using h
  | cons c cs ih =>
    rw [accepted, run_cons, ← List.append_assoc]
    exact ih (h.step c)

/-- A state whose status is final stays as it is, whatever commands follow. -/
theorem run_of_settled {s : Status} (h : Story hist t) (hs : t.status = some s)
    (hp : s ≠ .pending) (cs : List Command) : t.run cs = t := by
  obtain ⟨hr, hsp⟩ := h.settled hs hp
  induction cs with
  | nil => rfl
  | cons c cs ih =>
    obtain ⟨f, hc⟩ := refuses_of_settled hr hsp c
    rw [run_cons, (step_of_error hc).1, ih]

end Story

end Lifecycle

/-- Run any commands on a fresh transfer, each accepted command's event applied and each
refused command changing nothing. The accepted commands tell one of the four stories: none, one
send, one request, or one request and then one decision of the request's payer, each send or
request transferable. Every state reached is well formed, and once its status is approved or
rejected no later command changes it. -/
theorem commands_tell_one_story (cs : List Command) :
    Lifecycle.Story (Lifecycle.fresh.accepted cs) (Lifecycle.fresh.run cs) ∧
      (Lifecycle.fresh.run cs).WellFormed ∧
      ∀ (ds : List Command) (s : Status), (Lifecycle.fresh.run cs).status = some s →
        s ≠ .pending → (Lifecycle.fresh.run (cs ++ ds)).status = some s := by
  have h : Lifecycle.Story (Lifecycle.fresh.accepted cs) (Lifecycle.fresh.run cs) := by
    simpa using Lifecycle.Story.fresh.run cs
  refine ⟨h, h.wellFormed, fun ds s hs hp => ?_⟩
  rw [Lifecycle.run_append, h.run_of_settled hs hp ds, hs]

end Remit
