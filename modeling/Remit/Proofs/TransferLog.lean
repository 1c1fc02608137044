import Mathlib.Data.List.Forall2
import Remit.Proofs.Units

/-!
# The log of transfers only grows and settles

Every transfer the ledger stores is between two different accounts that exist, for at
least one cent within 64 bits (`Ledger.Logged`). From one state to the next the log
changes only as `LogStep` allows: the transfers stored before stay, in their order, with
their id, kind, payer, payee and amount; a status moves at most once, out of pending and
into a final one (`TransferRecord.Becomes`); and the transfers stored in the step come
after them, none of them rejected.

Both hold of every unit of the store (`Logged.commits`, `logStep_commits`). Since a call
writes at most one unit, they hold of every call, hence of every pair of consecutive states
of a run from the empty ledger (`transfers_only_grow_and_settle`).
-/

set_option autoImplicit false

namespace Remit

namespace TransferRecord

/-- How a stored transfer may change in one step: everything but its status stays, and
the status stays or leaves pending for another. -/
def Becomes (r r' : TransferRecord) : Prop :=
  r' = { r with status := r'.status } ∧
    (r'.status = r.status ∨ (r.status = .pending ∧ r'.status ≠ .pending))

instance (r r' : TransferRecord) : Decidable (r.Becomes r') :=
  inferInstanceAs (Decidable (_ ∧ _))

/-- Every stored transfer may stay as it is. -/
theorem Becomes.refl (r : TransferRecord) : r.Becomes r :=
  ⟨rfl, .inl rfl⟩

/-- A pending transfer may be settled. -/
theorem Becomes.settle {r : TransferRecord} (hp : r.status = .pending) {s : Status}
    (hs : s ≠ .pending) : r.Becomes { r with status := s } :=
  ⟨rfl, .inr ⟨hp, hs⟩⟩

/-- A transfer out of pending never changes again. -/
theorem Becomes.eq_of_settled {r r' : TransferRecord} (h : r.Becomes r')
    (hs : r.status ≠ .pending) : r' = r := by
  obtain ⟨hkeep, hst | ⟨hp, -⟩⟩ := h
  · rw [hkeep, hst]
  · exact absurd hp hs

example : (⟨⟨1⟩, .request, .pending, ⟨1⟩, ⟨2⟩, 5⟩ : TransferRecord).Becomes
    ⟨⟨1⟩, .request, .rejected, ⟨1⟩, ⟨2⟩, 5⟩ := by decide

example : ¬ (⟨⟨1⟩, .request, .rejected, ⟨1⟩, ⟨2⟩, 5⟩ : TransferRecord).Becomes
    ⟨⟨1⟩, .request, .approved, ⟨1⟩, ⟨2⟩, 5⟩ := by decide

end TransferRecord

/-- How the log of transfers may change in one step: the transfers stored before stay, in
their order, each becoming itself or its settled form, and the transfers stored in the
step come after them, none of them rejected. -/
def LogStep (ts ts' : List TransferRecord) : Prop :=
  ∃ old new, ts' = old ++ new ∧ List.Forall₂ TransferRecord.Becomes ts old ∧
    ∀ r ∈ new, r.status ≠ .rejected

namespace LogStep

/-- A log may stay as it is in one step. -/
theorem refl (ts : List TransferRecord) : LogStep ts ts :=
  ⟨ts, [], by rw [List.append_nil], List.forall₂_same.mpr fun r _ => .refl r,
    fun _ h => by cases h⟩

/-- Storing a transfer that is not rejected. -/
theorem append (ts : List TransferRecord) {r : TransferRecord} (hr : r.status ≠ .rejected) :
    LogStep ts (ts ++ [r]) :=
  ⟨ts, [r], rfl, List.forall₂_same.mpr fun r _ => .refl r,
    fun x hx => by rw [List.mem_singleton.mp hx]; exact hr⟩

/-- Changing transfers in place, each as a transfer may change. -/
theorem map (ts : List TransferRecord) {f : TransferRecord → TransferRecord}
    (hf : ∀ r ∈ ts, r.Becomes (f r)) : LogStep ts (ts.map f) :=
  ⟨ts.map f, [], by rw [List.append_nil], List.forall₂_map_right_iff.mpr (List.forall₂_same.mpr hf),
    fun _ h => by cases h⟩

end LogStep

namespace Ledger

variable {l l' : Ledger}

/-- Settling the transfer that the lookup found pending changes it, and no other, as a
transfer may change. -/
theorem logStep_restatus (hn : l.Numbered) {t : TransferId} {r₀ : TransferRecord}
    (hr₀ : l.findTransfer? t = some r₀) (hp : r₀.status = .pending) {s : Status}
    (hs : s ≠ .pending) : LogStep l.transfers (l.restatus t s).transfers := by
  apply LogStep.map
  intro r hr
  by_cases hid : r.id = t
  · rw [if_pos hid, hn.eq_of_findTransfer? hr hid hr₀]
    exact .settle hp hs
  · rw [if_neg hid]
    exact .refl r

/-- What each unit of the store does to the log. -/
theorem logStep_commits (hn : l.Numbered) (hc : Commits l l') :
    LogStep l.transfers l'.transfers := by
  cases hc with
  | openAccount ho =>
    obtain ⟨-, -, -, -, -, -, htr⟩ := openAccount_eq_ok ho
    rw [htr]
    exact .refl _
  | write hw =>
    cases hw with
    | move hm =>
      rw [moveFunds_transfers _ _ _ _ _ (move_eq_ok hm).2]
      exact .refl _
    | create hc =>
      obtain ⟨r, hi, -⟩ := create_eq_ok hc
      obtain ⟨c, hv, -, -, rfl, htr, -⟩ := insert_eq_ok hi
      rw [htr]
      exact .append _ ((Draft.validate_eq_ok_iff _ _).mp hv).2.2.1
    | recordSend hr =>
      obtain ⟨-, l₁, hm, hi⟩ := recordSend_eq_ok hr
      obtain ⟨c, hv, -, -, rfl, htr, -⟩ := insert_eq_ok hi
      rw [htr, moveFunds_transfers _ _ _ _ _ hm]
      exact .append _ ((Draft.validate_eq_ok_iff _ _).mp hv).2.2.1
    | settle hs =>
      obtain ⟨hterm, r₀, hr₀, hp, rfl⟩ := settle_pending _ _ _ _ hs
      exact logStep_restatus hn hr₀ hp ((Status.isTerminal_iff _).mp hterm)
    | approve ha =>
      obtain ⟨r₀, hr₀, hp, -, hm⟩ := approve_eq_ok ha
      rw [moveFunds_transfers _ _ _ _ _ hm]
      exact logStep_restatus hn hr₀ hp (by decide)

/-- Every stored transfer is between two different accounts of the ledger and carries at
least one cent within 64 bits. -/
structure Logged (l : Ledger) : Prop where
  numbered : l.Numbered
  parties : ∀ r ∈ l.transfers,
    r.payer ≠ r.payee ∧ r.payer ∈ l.accounts.map (·.id) ∧ r.payee ∈ l.accounts.map (·.id)
  amounts : ∀ r ∈ l.transfers, 1 ≤ r.amount ∧ Width.i64.holds r.amount = true

/-- The empty ledger has a well-formed log. -/
theorem logged_empty : empty.Logged :=
  ⟨Numbered.empty, (fun _ h => by cases h), (fun _ h => by cases h)⟩

namespace Logged

/-- The transfers stay while accounts are only added or changed in balance. -/
theorem of_transfers (h : l.Logged) (hn : l'.Numbered) (ht : l'.transfers = l.transfers)
    (hids : ∀ a ∈ l.accounts.map (·.id), a ∈ l'.accounts.map (·.id)) : l'.Logged := by
  refine ⟨hn, ?_, ?_⟩
  · intro r hr
    rw [ht] at hr
    obtain ⟨hne, hp, hq⟩ := h.parties r hr
    exact ⟨hne, hids _ hp, hids _ hq⟩
  · rw [ht]
    exact h.amounts

/-- Moving money between accounts keeps the log well formed. -/
theorem moveFunds (h : l.Logged) {p q : AccountId} {m : Decimal}
    (hm : l.moveFunds p q m = .ok l') : l'.Logged :=
  h.of_transfers (h.numbered.moveFunds hm) (moveFunds_transfers _ _ _ _ _ hm)
    fun a ha => by rw [accountIds_moveFunds hm]; exact ha

/-- A stored draft passed its checks: two different existing accounts, and an amount
above zero that converts to cents. -/
theorem insert (h : l.Logged) {d : Draft} {r : TransferRecord} (hi : l.insert d = .ok (r, l')) :
    l'.Logged := by
  obtain ⟨c, hv, hp, hq, rfl, htr, hacc⟩ := insert_eq_ok hi
  obtain ⟨hpos, hne, -, hc⟩ := (Draft.validate_eq_ok_iff _ _).mp hv
  refine ⟨h.numbered.insert hi, ?_, ?_⟩
  · intro x hx
    rw [htr, List.mem_append, List.mem_singleton] at hx
    rw [hacc]
    rcases hx with hx | rfl
    · exact h.parties x hx
    · exact ⟨hne, mem_accountIds_of_findAccount? hp, mem_accountIds_of_findAccount? hq⟩
  · intro x hx
    rw [htr, List.mem_append, List.mem_singleton] at hx
    rcases hx with hx | rfl
    · exact h.amounts x hx
    · exact ⟨Decimal.toCents_pos hpos hc, Decimal.toCents_holds hc⟩

/-- Changing a transfer's status keeps the log well formed. -/
theorem restatus (h : l.Logged) (t : TransferId) (s : Status) : (l.restatus t s).Logged := by
  -- a status change keeps every transfer's parties and amount
  have hmem : ∀ r ∈ (l.restatus t s).transfers, ∃ r₀ ∈ l.transfers,
      r.payer = r₀.payer ∧ r.payee = r₀.payee ∧ r.amount = r₀.amount := by
    intro r hr
    obtain ⟨r₀, hr₀, rfl⟩ := List.mem_map.mp hr
    refine ⟨r₀, hr₀, ?_⟩
    by_cases hid : r₀.id = t <;> simp [hid]
  refine ⟨h.numbered.restatus t s, ?_, ?_⟩
  · intro r hr
    obtain ⟨r₀, hr₀, hp, hq, -⟩ := hmem r hr
    rw [hp, hq, accounts_restatus]
    exact h.parties r₀ hr₀
  · intro r hr
    obtain ⟨r₀, hr₀, -, -, ha⟩ := hmem r hr
    rw [ha]
    exact h.amounts r₀ hr₀

/-- Opening an account keeps the log well formed. -/
theorem openAccount (h : l.Logged) {u : UserId} {b : Decimal} {a : Account}
    (ho : l.openAccount u b = .ok (a, l')) : l'.Logged := by
  obtain ⟨-, -, -, -, -, hacc, htr⟩ := openAccount_eq_ok ho
  refine h.of_transfers (h.numbered.openAccount ho) htr fun x hx => ?_
  rw [hacc, List.map_append]
  exact List.mem_append_left _ hx

/-- Every unit of the store keeps the log well formed. -/
theorem commits (h : l.Logged) (hc : Commits l l') : l'.Logged :=
  hc.preserves (fun h hm => h.moveFunds hm) (fun h hi => h.insert hi) (fun t s h => h.restatus t s)
    (fun h ho => h.openAccount ho) h

/-- One call keeps the log well formed and changes it as one step may. -/
theorem call (h : l.Logged) (op : Operation) :
    (op.call.after l).Logged ∧ LogStep l.transfers (op.call.after l).transfers := by
  -- a call writes one unit at most
  rcases (Operation.call_within op).after l with hkeep | hc
  · rw [hkeep]
    exact ⟨h, .refl _⟩
  · exact ⟨h.commits hc, logStep_commits h.numbered hc⟩

/-- Every run of operations keeps the log well formed. -/
theorem runOps (h : l.Logged) (ops : List Operation) : (l.runOps ops).2.Logged := by
  induction ops generalizing l with
  | nil => exact h
  | cons op ops ih =>
    rw [runOps_cons]
    exact ih (h.call op).1

end Logged

end Ledger

/-- In every state that a run from the empty ledger reaches, each stored transfer is
between two different existing accounts for at least one cent; and the next operation,
whatever it is, keeps every stored transfer in its place, changing at most its status and
that only out of pending, and stores no transfer rejected. -/
theorem transfers_only_grow_and_settle (ops : List Operation) (op : Operation) :
    let l := (Ledger.empty.runOps ops).2
    (∀ r ∈ l.transfers, r.payer ≠ r.payee ∧ 1 ≤ r.amount ∧
        r.payer ∈ l.accounts.map (·.id) ∧ r.payee ∈ l.accounts.map (·.id)) ∧
      LogStep l.transfers (op.call.after l).transfers := by
  intro l
  have hl : l.Logged := Ledger.logged_empty.runOps ops
  refine ⟨fun r hr => ?_, (hl.call op).2⟩
  obtain ⟨hne, hp, hq⟩ := hl.parties r hr
  exact ⟨hne, (hl.amounts r hr).1, hp, hq⟩

end Remit
