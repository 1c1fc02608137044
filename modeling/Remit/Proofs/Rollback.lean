import Remit.Proofs.Commits

/-!
# A refused call changes nothing

Whatever fails, at whatever depth, leaves the ledger as it was: a check before any
write, a unit of the store that fails after its first write (the unit is undone whole),
or an engine command whose unit succeeded, since the reads that follow such a unit
cannot fail. The ledger after a failure is the same value as before, so its accounts,
balances, transfers, statuses and next ids are all the same.

For a command file this means that the rows that are refused can be deleted: the others
then go through as before and the file ends on the same ledger, so with the same report
(`runRows_kept`).
-/

set_option autoImplicit false

namespace Remit

namespace Ledger

/-- The rows of a run that went through, in order. -/
def keptRows (l : Ledger) (rows : List (Except ReadError CommandRow)) :
    List (Except ReadError CommandRow) :=
  ((rows.zip (l.runRows rows).1).filter (·.2.isOk)).map (·.1)

/-- A row that could not be read answers its reading error and leaves the ledger to the rows after
it. -/
theorem runRows_error_cons (l : Ledger) (e : ReadError) (rest : List (Except ReadError CommandRow)) :
    l.runRows (.error e :: rest) = (.error (.read e) :: (l.runRows rest).1, (l.runRows rest).2) :=
  rfl

/-- A row that was read answers what handling it answered, and the rows after it run on the ledger
it left. -/
theorem runRows_ok_cons (l : Ledger) (row : CommandRow) (rest : List (Except ReadError CommandRow)) :
    l.runRows (.ok row :: rest) =
      (row.handle.answer l :: ((row.handle.after l).runRows rest).1,
        ((row.handle.after l).runRows rest).2) :=
  rfl

/-- A row that is refused, or that does not decode, is dropped from the kept rows, and
the rows after it are kept from the same ledger. -/
theorem keptRows_cons_refused (l : Ledger) (r : Except ReadError CommandRow)
    (rest : List (Except ReadError CommandRow)) (f : RowFault)
    (hr : ∀ row, r = .ok row → row.handle.answer l = .error f) :
    l.keptRows (r :: rest) = l.keptRows rest := by
  cases r with
  | error e => simp [keptRows, runRows_error_cons, Except.isOk, Except.toBool]
  | ok row =>
    have hf := hr row rfl
    cases hrun : row.handle.run l with
    | ok a l' => rw [Call.answer_of_run_ok hrun] at hf; cases hf
    | error f' l' =>
      have hl : l' = l := (row.handle_within).error l f' l' hrun
      subst hl
      simp [keptRows, runRows_ok_cons, Call.answer_of_run_error hrun,
        Call.after_of_run_error hrun, Except.isOk, Except.toBool]

/-- Deleting the refused rows leaves every other row going through, and the run ends on
the same ledger. -/
theorem runRows_kept (l : Ledger) (rows : List (Except ReadError CommandRow)) :
    l.runRows (l.keptRows rows) = ((l.keptRows rows).map fun _ => .ok (), (l.runRows rows).2) := by
  -- on the rows, from any ledger: a refused row is dropped and the next row starts from
  -- the same ledger, a row that goes through starts both runs again from the same ledger
  induction rows generalizing l with
  | nil => rfl
  | cons r rest ih =>
    cases r with
    | error e =>
      rw [keptRows_cons_refused l _ rest (.read e) (fun _ h => by cases h), runRows_error_cons]
      exact ih l
    | ok row =>
      cases hrun : row.handle.run l with
      | ok a l' =>
        have hkeep : l.keptRows (.ok row :: rest) = .ok row :: l'.keptRows rest := by
          simp [keptRows, runRows_ok_cons, Call.answer_of_run_ok hrun,
            Call.after_of_run_ok hrun, Except.isOk, Except.toBool]
        rw [hkeep, runRows_ok_cons, Call.answer_of_run_ok hrun, Call.after_of_run_ok hrun, ih l',
          runRows_ok_cons, Call.after_of_run_ok hrun]
        rfl
      | error f l' =>
        rw [keptRows_cons_refused l _ rest f
          (fun _ h => by cases h; exact Call.answer_of_run_error hrun)]
        have hl : l' = l := (row.handle_within).error l f l' hrun
        rw [runRows_ok_cons, Call.after_of_run_error hrun, hl]
        exact ih l

end Ledger

/-- A refused call leaves the ledger as it was: every operation (the store's units, the
engine's commands, openings and the session's acts) and every row of a command file. So
deleting the refused rows of a command file leaves the other rows going through and the
run ending on the same ledger, with the same report. -/
theorem refused_call_keeps_ledger :
    (∀ (op : Operation) (l : Ledger) (f : Fault) (l' : Ledger), op.call.run l = .error f l' → l' = l) ∧
    (∀ (row : CommandRow) (l : Ledger) (f : RowFault) (l' : Ledger),
      row.handle.run l = .error f l' → l' = l) ∧
    (∀ (l : Ledger) (rows : List (Except ReadError CommandRow)),
      let kept := ((rows.zip (l.runRows rows).1).filter (·.2.isOk)).map (·.1)
      l.runRows kept = (kept.map fun _ => .ok (), (l.runRows rows).2) ∧
        (l.runRows kept).2.report = (l.runRows rows).2.report) := by
  refine ⟨fun op => (op.call_within).error, fun row => (row.handle_within).error, ?_⟩
  intro l rows
  have hrun := l.runRows_kept rows
  exact ⟨hrun, congrArg (fun r => r.2.report) hrun⟩

/-- An approval whose payee's balance cannot take the money claims the transfer and debits
the payer before its credit is refused; the ledger it leaves is the one it started from, so the
payer holds its 100 cents again and the request is pending again. -/
theorem refused_call_keeps_ledger_overflow :
    let l : Ledger := ⟨[⟨⟨1⟩, ⟨1⟩, 100⟩, ⟨⟨2⟩, ⟨2⟩, Ledger.maxBalance⟩],
      [⟨⟨1⟩, .request, .pending, ⟨1⟩, ⟨2⟩, 100⟩]⟩
    ((l.settle ⟨1⟩ .approved).bind fun l₁ => l₁.debit ⟨1⟩ 100) =
        .ok ⟨[⟨⟨1⟩, ⟨1⟩, 0⟩, ⟨⟨2⟩, ⟨2⟩, Ledger.maxBalance⟩],
          [⟨⟨1⟩, .request, .approved, ⟨1⟩, ⟨2⟩, 100⟩]⟩ ∧
      (Operation.approve ⟨1⟩).call.answer l = .error (.creditOverflow (Decimal.ofCents 100) ⟨2⟩) ∧
      ((Operation.approve ⟨1⟩).call.after l).findAccount? ⟨1⟩ = some ⟨⟨1⟩, ⟨1⟩, 100⟩ ∧
      ((Operation.approve ⟨1⟩).call.after l).findTransfer? ⟨1⟩ =
        some ⟨⟨1⟩, .request, .pending, ⟨1⟩, ⟨2⟩, 100⟩ := by
  intro l
  have hclaim : ((l.settle ⟨1⟩ .approved).bind fun l₁ => l₁.debit ⟨1⟩ 100) =
      .ok ⟨[⟨⟨1⟩, ⟨1⟩, 0⟩, ⟨⟨2⟩, ⟨2⟩, Ledger.maxBalance⟩],
        [⟨⟨1⟩, .request, .approved, ⟨1⟩, ⟨2⟩, 100⟩]⟩ := rfl
  have hrun : (Operation.approve ⟨1⟩).call.run l =
      .error (.creditOverflow (Decimal.ofCents 100) ⟨2⟩) ((Operation.approve ⟨1⟩).call.after l) :=
    rfl
  -- the refusal leaves the ledger it started from, whatever the unit wrote on the way
  have hafter : (Operation.approve ⟨1⟩).call.after l = l := refused_call_keeps_ledger.1 _ _ _ _ hrun
  refine ⟨hclaim, Call.answer_of_run_error hrun, ?_, ?_⟩ <;> rw [hafter] <;> rfl

end Remit
