import Remit.Proofs.Resolution

/-!
# An approval goes through at most once

The money of a stored request moves when an approval of it commits: the store's approval
unit claims the transfer from pending to approved and moves its amount in the same step,
whether the store is asked directly or through the engine's or a session's approving decision
(`Operation.approvalOf`, `Operation.approval_commits`). A transfer that is no longer pending
keeps its record in every later state (`Ledger.findTransfer?_settled_runOps`, from how one
step may change the log), and an approval of it is refused
(`Operation.approval_refused_of_settled`). So over every run from the empty ledger an
approval of a transfer goes through at most once, and never after a send was stored settled
(`approvals_never_repeat`).

The store's `recordSend` does not always store a settled send: it checks that the draft is
a send, but stores it with the status the draft gives, so a send can be stored pending after
its money moved, and an approval then moves that money a second time
(`recordSend_pending_then_approve_moves_twice`).
-/

set_option autoImplicit false

namespace Remit

namespace Operation

/-- The transfer whose approval an operation asks for: the store's approval unit, and the
engine's and a session's approving decision. -/
def approvalOf : Operation → Option TransferId
  | .approve t => some t
  | .resolve _ t .approve => some t
  | .session _ (.approve t) => some t
  | _ => none

end Operation

namespace Engine

/-- An approving decision that goes through has committed the approval unit. -/
theorem resolve_approve_run_ok {l l' : Ledger} {c : AccountId} {t : TransferId}
    {r : TransferRecord} (h : (resolve c t .approve).run l = .ok r l') :
    l.approve t = .ok (r, l') := by
  rw [run_resolve] at h
  cases hf : l.findTransfer t with
  | error f => simp [hf] at h
  | ok r₀ =>
    simp only [hf] at h
    cases he : r₀.lifecycle.handle (.resolve c .approve) with
    | error f => simp [he] at h
    | ok e =>
      -- the life answers an approval with the approved event of the stored transfer
      have hev : e = r₀.decided .approve := by
        rw [TransferRecord.handle_resolve] at he
        split at he
        · cases he
        · split at he
          · cases he
          · exact (Except.ok.inj he).symm
      subst hev
      simp only [he, TransferRecord.decided, run_commit_approved] at h
      cases ha : l.approve t with
      | error f => simp [ha] at h
      | ok p =>
        obtain ⟨r', l''⟩ := p
        simp only [ha, EStateM.Result.ok.injEq] at h
        obtain ⟨rfl, rfl⟩ := h
        rfl

end Engine

namespace Ledger

/-- An approval that commits found the transfer pending and leaves it approved. -/
theorem approve_claims {l l' : Ledger} {t : TransferId} {r : TransferRecord}
    (h : l.approve t = .ok (r, l')) :
    ∃ r₀, l.findTransfer? t = some r₀ ∧ r₀.status = .pending ∧
      l'.findTransfer? t = some { r₀ with status := .approved } := by
  obtain ⟨r₀, hr₀, hp, -, hm⟩ := approve_eq_ok h
  have ht : l'.transfers = (l.restatus t .approved).transfers := moveFunds_transfers _ _ _ _ _ hm
  refine ⟨r₀, hr₀, hp, ?_⟩
  simp only [findTransfer?, ht]
  exact findTransfer?_restatus_self hr₀ .approved

end Ledger

namespace Operation

/-- An approval that goes through, however it was asked for, committed the approval unit. -/
theorem approval_commits {op : Operation} {t : TransferId} (hop : op.approvalOf = some t)
    {l l' : Ledger} {rep : Reply} (h : op.call.run l = .ok rep l') :
    ∃ r, l.approve t = .ok (r, l') := by
  -- a decision answers what the engine's decision answered, as a transfer
  have hdecide : ∀ {c : AccountId} {l₀ : Ledger},
      (Reply.transfer <$> Engine.resolve c t .approve).run l₀ = .ok rep l' →
        ∃ r, l₀.approve t = .ok (r, l') := by
    intro c l₀ hrun
    rw [Call.run_map] at hrun
    cases hres : (Engine.resolve c t .approve).run l₀ with
    | error f l₁ => simp [hres] at hrun
    | ok r l₁ =>
      simp only [hres, EStateM.Result.ok.injEq] at hrun
      obtain ⟨-, rfl⟩ := hrun
      exact ⟨r, Engine.resolve_approve_run_ok hres⟩
  cases op with
  | approve t' =>
    simp only [approvalOf, Option.some.injEq] at hop
    subst hop
    simp only [call, Call.run_map] at h
    cases hu : (Call.unit fun l => l.approve t').run l with
    | error f l₁ => simp [hu] at h
    | ok r l₁ =>
      simp only [hu, EStateM.Result.ok.injEq] at h
      obtain ⟨-, rfl⟩ := h
      exact ⟨r, Call.unit_run_ok hu⟩
  | resolve c t' d =>
    cases d with
    | approve =>
      simp only [approvalOf, Option.some.injEq] at hop
      subst hop
      exact hdecide h
    | reject => simp [approvalOf] at hop
  | session u a =>
    cases a with
    | approve t' =>
      simp only [approvalOf, Option.some.injEq] at hop
      subst hop
      simp only [call, EStateM.run_bind, Call.run_read] at h
      cases hm : l.member u with
      | error f => simp [hm] at h
      | ok m =>
        simp only [hm, Member.act, Member.decide] at h
        exact hdecide h
    | _ => simp [approvalOf] at hop
  | _ => simp [approvalOf] at hop

/-- An approval of a transfer that is no longer pending is refused. -/
theorem approval_refused_of_settled {op : Operation} {t : TransferId}
    (hop : op.approvalOf = some t) {l : Ledger} {r : TransferRecord}
    (hr : l.findTransfer? t = some r) (hs : r.status ≠ .pending) :
    (op.call.answer l).isOk = false := by
  cases hrun : op.call.run l with
  | error f l' => simp [Call.answer_of_run_error hrun, Except.isOk, Except.toBool]
  | ok rep l' =>
    obtain ⟨r', ha⟩ := approval_commits hop hrun
    obtain ⟨r₀, hr₀, hp, -⟩ := Ledger.approve_claims ha
    rw [hr] at hr₀
    cases hr₀
    exact absurd hp hs

end Operation

/-- A stored transfer stays stored through a step of the log, as a transfer may change. -/
theorem LogStep.find?_becomes {ts ts' : List TransferRecord} (h : LogStep ts ts')
    {t : TransferId} {r : TransferRecord} (hr : ts.find? (·.id == t) = some r) :
    ∃ r', ts'.find? (·.id == t) = some r' ∧ r.Becomes r' := by
  obtain ⟨old, new, rfl, hf, -⟩ := h
  -- the transfers stored before keep their ids, each becoming its record after the step
  have hold : ∃ r', old.find? (·.id == t) = some r' ∧ r.Becomes r' := by
    induction hf with
    | nil => cases hr
    | @cons a b as bs hab _ ih =>
      have hid : b.id = a.id := by rw [hab.1]
      by_cases ha : a.id = t
      · rw [List.find?_cons_of_pos (by simpa using ha), Option.some.injEq] at hr
        subst hr
        exact ⟨b, List.find?_cons_of_pos (by simpa [hid] using ha), hab⟩
      · rw [List.find?_cons_of_neg (by simpa using ha)] at hr
        rw [List.find?_cons_of_neg (by simpa [hid] using ha)]
        exact ih hr
  obtain ⟨r', hr', hb⟩ := hold
  exact ⟨r', by rw [List.find?_append, hr']; rfl, hb⟩

/-- A transfer that is no longer pending keeps its record through a step of the log. -/
theorem LogStep.find?_settled {ts ts' : List TransferRecord} (h : LogStep ts ts')
    {t : TransferId} {r : TransferRecord} (hr : ts.find? (·.id == t) = some r)
    (hs : r.status ≠ .pending) : ts'.find? (·.id == t) = some r := by
  obtain ⟨r', hr', hb⟩ := h.find?_becomes hr
  rw [hr', hb.eq_of_settled hs]

namespace Ledger

/-- On a ledger whose log is well formed, a transfer that is no longer pending keeps its record
through any operation. -/
theorem findTransfer?_settled_call {l : Ledger} (hl : l.Logged) (op : Operation)
    {t : TransferId} {r : TransferRecord} (hr : l.findTransfer? t = some r)
    (hs : r.status ≠ .pending) : (op.call.after l).findTransfer? t = some r :=
  (hl.call op).2.find?_settled hr hs

/-- On a ledger whose log is well formed, a transfer that is no longer pending keeps its record
through any run of operations. -/
theorem findTransfer?_settled_runOps {l : Ledger} (hl : l.Logged) (ops : List Operation)
    {t : TransferId} {r : TransferRecord} (hr : l.findTransfer? t = some r)
    (hs : r.status ≠ .pending) : (l.runOps ops).2.findTransfer? t = some r := by
  induction ops generalizing l with
  | nil => exact hr
  | cons op ops ih =>
    rw [runOps_cons]
    exact ih (hl.call op).1 (findTransfer?_settled_call hl op hr hs)

/-- A send that the store records from a settled draft is stored settled. -/
theorem recordSend_settled {l l' : Ledger} {d : Draft} {r : TransferRecord} (hl : l.Logged)
    (h : l.recordSend d = .ok (r, l')) (hd : d.status = .approved) :
    l'.findTransfer? r.id = some r ∧ r.status = .approved := by
  obtain ⟨-, l₁, hm, hi⟩ := recordSend_eq_ok h
  obtain ⟨c, -, -, -, rfl, htr, -⟩ := insert_eq_ok hi
  have hn : l'.Numbered := (hl.commits (.write (.recordSend h))).numbered
  exact ⟨hn.findTransfer?_of_mem (by simp [htr]), hd⟩

end Ledger

/-- Over every run from the empty ledger, once an approval of a transfer has gone through, or
a send stored from a settled draft has taken its id, every later approval of that transfer
is refused, however it is asked for: an approval goes through at most once per transfer. -/
theorem approvals_never_repeat (ops₁ ops₂ : List Operation) (op₁ op₂ : Operation)
    (t : TransferId) :
    let l₁ := (Ledger.empty.runOps ops₁).2
    let l₂ := ((op₁.call.after l₁).runOps ops₂).2
    op₂.approvalOf = some t →
    ((op₁.approvalOf = some t ∧ (op₁.call.answer l₁).isOk = true) ∨
      (∃ d r, op₁ = .recordSend d ∧ d.status = .approved ∧
        op₁.call.answer l₁ = .ok (.transfer r) ∧ r.id = t)) →
    (op₂.call.answer l₂).isOk = false := by
  intro l₁ l₂ hop₂ hfirst
  have hl₁ : l₁.Logged := Ledger.logged_empty.runOps ops₁
  -- after the first operation the transfer is stored and no longer pending
  obtain ⟨r, hr, hs⟩ : ∃ r, (op₁.call.after l₁).findTransfer? t = some r ∧ r.status ≠ .pending := by
    rcases hfirst with ⟨hop₁, hok⟩ | ⟨d, r, rfl, hd, hans, rfl⟩
    · cases hrun : op₁.call.run l₁ with
      | error f l' => simp [Call.answer_of_run_error hrun, Except.isOk, Except.toBool] at hok
      | ok rep l' =>
        obtain ⟨r', ha⟩ := Operation.approval_commits hop₁ hrun
        obtain ⟨r₀, -, -, hafter⟩ := Ledger.approve_claims ha
        exact ⟨_, by rw [Call.after_of_run_ok hrun]; exact hafter, by simp⟩
    · cases hrun : (Operation.recordSend d).call.run l₁ with
      | error f l' => rw [Call.answer_of_run_error hrun] at hans; cases hans
      | ok rep l' =>
        rw [Call.answer_of_run_ok hrun] at hans
        cases hans
        have hafter := Call.after_of_run_ok hrun
        simp only [Operation.call, Call.run_map] at hrun
        cases hu : (Call.unit fun l => l.recordSend d).run l₁ with
        | error f l₀ => simp [hu] at hrun
        | ok r' l₀ =>
          simp only [hu, EStateM.Result.ok.injEq, Reply.transfer.injEq] at hrun
          obtain ⟨rfl, rfl⟩ := hrun
          obtain ⟨hfound, happ⟩ := Ledger.recordSend_settled hl₁ (Call.unit_run_ok hu) hd
          refine ⟨r', ?_, by rw [happ]; decide⟩
          rw [hafter]
          exact hfound
  have hl' : (op₁.call.after l₁).Logged := (hl₁.call op₁).1
  exact Operation.approval_refused_of_settled hop₂ (Ledger.findTransfer?_settled_runOps hl' ops₂ hr hs) hs

/-- Two accounts and a request of 0.10 between them: the first approval goes through, and a
second one is refused. -/
theorem approvals_never_repeat_second_approval :
    let ops₁ : List Operation := [.openAccount ⟨1⟩ ⟨false, 100, 0⟩, .openAccount ⟨2⟩ ⟨false, 0, 0⟩,
      .create ⟨.request, .pending, ⟨1⟩, ⟨2⟩, ⟨false, 10, 2⟩⟩]
    let l₁ := (Ledger.empty.runOps ops₁).2
    (Operation.approve ⟨1⟩).approvalOf = some ⟨1⟩ ∧
      ((Operation.approve ⟨1⟩).call.answer l₁).isOk = true ∧
      ((Operation.approve ⟨1⟩).call.answer
        (((Operation.approve ⟨1⟩).call.after l₁).runOps []).2).isOk = false := by
  intro ops₁ l₁
  have hok : ((Operation.approve ⟨1⟩).call.answer l₁).isOk = true := rfl
  exact ⟨rfl, hok, approvals_never_repeat ops₁ [] _ _ ⟨1⟩ rfl (.inl ⟨rfl, hok⟩)⟩

/-- A send stored pending by the store, after its 10.00 moved, is then approved, and the
10.00 moves a second time. -/
theorem recordSend_pending_then_approve_moves_twice :
    let opened : List Operation := [.openAccount ⟨1⟩ ⟨false, 10000, 2⟩, .openAccount ⟨2⟩ ⟨false, 0, 2⟩]
    let send : Operation := .recordSend ⟨.send, .pending, ⟨1⟩, ⟨2⟩, ⟨false, 1000, 2⟩⟩
    (Ledger.empty.runOps (opened ++ [send])).1.getLast? =
        some (.ok (.transfer ⟨⟨1⟩, .send, .pending, ⟨1⟩, ⟨2⟩, 1000⟩)) ∧
      (Ledger.empty.runOps (opened ++ [send])).2.accounts = [⟨⟨1⟩, ⟨1⟩, 9000⟩, ⟨⟨2⟩, ⟨2⟩, 1000⟩] ∧
      (Ledger.empty.runOps (opened ++ [send, .approve ⟨1⟩])).1.getLast? =
        some (.ok (.transfer ⟨⟨1⟩, .send, .approved, ⟨1⟩, ⟨2⟩, 1000⟩)) ∧
      (Ledger.empty.runOps (opened ++ [send, .approve ⟨1⟩])).2.accounts =
        [⟨⟨1⟩, ⟨1⟩, 8000⟩, ⟨⟨2⟩, ⟨2⟩, 2000⟩] :=
  ⟨rfl, rfl, rfl, rfl⟩

end Remit
