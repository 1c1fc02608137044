import Remit.Proofs.Units

/-!
# Money is neither made nor lost

Whatever operations are run from the empty ledger, in whatever order and with whatever
arguments, every balance stays within `0 … 2 ^ 63 - 1`, no user holds two accounts, and
the sum of all balances is the sum of the opening balances of the accounts that were
opened (`runOps_conserves_money`).

Each unit keeps the first two (`Ledger.Funded`): an opening checks that its balance is not
negative and that the user has none, a debit that the payer covers the amount, a credit
that the payee's balance stays within 64 bits, and the amount of a transfer is positive;
because ids are numbered, the account a debit or a credit changes is the one whose balance
it checked. A move takes from one balance what it gives to another (`Funded.writes`), and
an opening adds its balance (`Funded.openAccount`). A call writes one unit at most
(`Operation.after_cases`), and a run is induction on its calls (`Ledger.runOps_induction`).
Since every unit of a call is a whole unit of the store, the same holds however the units
of several calls interleave.
-/

set_option autoImplicit false

namespace Remit

namespace Operation

/-- The account an operation opened, read off its answer. -/
def openedBy : Operation → Except Fault Reply → List Account
  | .openAccount _ _, .ok (.account a) => [a]
  | _, _ => []

/-- The accounts that the openings of a run opened, as they were when opened, read off
the answers of the run. -/
def opened : List Operation → List (Except Fault Reply) → List Account
  | op :: ops, r :: rs => op.openedBy r ++ opened ops rs
  | _, _ => []

/-- An operation that opens no account reads no opened account off any answer. -/
theorem openedBy_of_opens {op : Operation} (ho : op.opens = false) (r : Except Fault Reply) :
    op.openedBy r = [] := by
  cases op <;> simp_all [opens, openedBy]

end Operation

namespace Ledger

/-- What every run keeps of the accounts: numbered ids, every balance within
`0 … 2 ^ 63 - 1`, and one account per user. -/
structure Funded (l : Ledger) : Prop where
  numbered : l.Numbered
  balances : ∀ a ∈ l.accounts, 0 ≤ a.balance ∧ a.balance ≤ maxBalance
  users : (l.accounts.map (·.user)).Nodup

/-- The empty ledger keeps the invariant. -/
theorem funded_empty : empty.Funded :=
  ⟨Numbered.empty, (fun _ h => by cases h), List.nodup_nil⟩

/-- The total of a ledger depends on its accounts only. -/
theorem total_of_accounts {l l' : Ledger} (h : l'.accounts = l.accounts) : l'.total = l.total := by
  simp [total, h]

namespace Funded

variable {l l' : Ledger}

/-- A numbered ledger with the accounts of a funded one is funded. -/
theorem of_accounts (h : l.Funded) (hn : l'.Numbered) (ha : l'.accounts = l.accounts) :
    l'.Funded :=
  ⟨hn, ha ▸ h.balances, ha ▸ h.users⟩

/-- Changing the balance of the account that the lookup found keeps the accounts funded
when the new balance is within range. -/
theorem adjust (h : l.Funded) {p : AccountId} {f : Int → Int} {x : Account}
    (hx : l.findAccount? p = some x) (hf : 0 ≤ f x.balance ∧ f x.balance ≤ maxBalance) :
    (l.adjust p f).Funded := by
  refine ⟨h.numbered.adjust p f, ?_, ?_⟩
  · intro z hz
    obtain ⟨z₀, hz₀, rfl⟩ := List.mem_map.mp hz
    by_cases hp : z₀.id = p
    · -- the changed account is the one the lookup found, whose new balance is checked
      have hfind := h.numbered.findAccount?_of_mem hz₀
      rw [hp, hx, Option.some.injEq] at hfind
      subst hfind
      simpa [hp] using hf
    · simpa [hp] using h.balances z₀ hz₀
  · have husers : (l.adjust p f).accounts.map (·.user) = l.accounts.map (·.user) := by
      simp only [Ledger.adjust, List.map_map]
      congr 1
      funext z
      by_cases hz : z.id = p <;> simp [hz]
    rw [husers]
    exact h.users

/-- The total after changing the balance of the account that the lookup found. -/
theorem total_adjust (h : l.Funded) {p : AccountId} {f : Int → Int} {x : Account}
    (hx : l.findAccount? p = some x) :
    (l.adjust p f).total = l.total + (f x.balance - x.balance) :=
  Ledger.total_adjust l p f x hx (filter_key_length h.numbered.accountIds_nodup hx)

/-- A debit of a nonnegative sum keeps the invariant and lowers the total by that sum. -/
theorem debit (h : l.Funded) {p : AccountId} {c : Int} (hc : 0 ≤ c) (hd : l.debit p c = .ok l') :
    l'.Funded ∧ l'.total = l.total - c := by
  obtain ⟨x, hx, hcx, rfl⟩ := debit_eq_ok hd
  have hxr := h.balances x (List.mem_of_find?_eq_some hx)
  refine ⟨h.adjust hx ⟨by omega, by omega⟩, ?_⟩
  rw [h.total_adjust hx]
  omega

/-- A credit of a nonnegative sum keeps the invariant and raises the total by that sum. -/
theorem credit (h : l.Funded) {q : AccountId} {c : Int} {m : Decimal} (hc : 0 ≤ c)
    (hcr : l.credit q c m = .ok l') : l'.Funded ∧ l'.total = l.total + c := by
  obtain ⟨y, hy, hcy, rfl⟩ := credit_eq_ok hcr
  have hyr := h.balances y (List.mem_of_find?_eq_some hy)
  refine ⟨h.adjust hy ⟨by omega, by omega⟩, ?_⟩
  rw [h.total_adjust hy]
  omega

/-- Moving money keeps the accounts funded and the total as it was. -/
theorem moveFunds (h : l.Funded) {p q : AccountId} {m : Decimal}
    (hm : l.moveFunds p q m = .ok l') : l'.Funded ∧ l'.total = l.total := by
  obtain ⟨c, hc, l₁, hd, hcr⟩ := moveFunds_eq_ok hm
  have hpos := Decimal.transferCents_pos hc
  obtain ⟨h₁, ht₁⟩ := h.debit (by omega) hd
  obtain ⟨h₂, ht₂⟩ := h₁.credit (by omega) hcr
  exact ⟨h₂, by omega⟩

/-- Recording a transfer keeps the invariant and leaves the total as it was. -/
theorem insert (h : l.Funded) {d : Draft} {r : TransferRecord} (hi : l.insert d = .ok (r, l')) :
    l'.Funded ∧ l'.total = l.total := by
  obtain ⟨-, -, -, -, -, -, hacc⟩ := insert_eq_ok hi
  exact ⟨h.of_accounts (h.numbered.insert hi) hacc, total_of_accounts hacc⟩

/-- Changing a transfer's status keeps the invariant and leaves the total as it was. -/
theorem restatus (h : l.Funded) (t : TransferId) (s : Status) :
    (l.restatus t s).Funded ∧ (l.restatus t s).total = l.total :=
  ⟨h.of_accounts (h.numbered.restatus t s) rfl, rfl⟩

/-- Opening an account keeps the accounts funded and adds its balance to the total. -/
theorem openAccount (h : l.Funded) {u : UserId} {b : Decimal} {a : Account}
    (ho : l.openAccount u b = .ok (a, l')) : l'.Funded ∧ l'.total = l.total + a.balance := by
  obtain ⟨c, hc, hnn, hu, rfl, hacc, -⟩ := openAccount_eq_ok ho
  have hle : c ≤ maxBalance := (Decimal.holds_i64.mp (Decimal.toCents_holds hc)).2
  refine ⟨⟨h.numbered.openAccount ho, ?_, ?_⟩, ?_⟩
  · intro z hz
    rw [hacc, List.mem_append, List.mem_singleton] at hz
    rcases hz with hz | rfl
    · exact h.balances z hz
    · exact ⟨hnn, hle⟩
  · -- the user had no account, so its id is not among the users
    rw [hacc, List.map_append, List.nodup_append]
    refine ⟨h.users, by simp, ?_⟩
    intro v hv w hw
    simp only [List.map_cons, List.map_nil, List.mem_singleton] at hw
    subst hw
    obtain ⟨z, hz, rfl⟩ := List.mem_map.mp hv
    intro hzu
    have := List.find?_eq_none.mp hu z hz
    simp [hzu] at this
  · simp [total, hacc, balanceSum_append, balanceSum]

/-- A write that opens no account keeps the accounts funded and the total as it was. -/
theorem writes (h : l.Funded) (hw : Writes l l') : l'.Funded ∧ l'.total = l.total :=
  -- each step keeps the total, so the total at the start is the one kept
  hw.preserves (P := fun x => x.Funded ∧ x.total = l.total)
    (fun hx hm => let ⟨hf, ht⟩ := hx.1.moveFunds hm; ⟨hf, ht.trans hx.2⟩)
    (fun hx hi => let ⟨hf, ht⟩ := hx.1.insert hi; ⟨hf, ht.trans hx.2⟩)
    (fun t s hx => let ⟨hf, ht⟩ := hx.1.restatus t s; ⟨hf, ht.trans hx.2⟩)
    ⟨h, rfl⟩

end Funded

end Ledger

namespace Operation

variable {l : Ledger}

/-- What one call does, given the relation `R` by which a call that opens nothing writes:
it keeps the ledger, or writes by `R`, and then it opened nothing; or it opened the
account that its answer names. -/
theorem after_cases {R : Ledger → Ledger → Prop} (op : Operation)
    (hR : op.opens = false → Call.Within R op.call) (l : Ledger) :
    (op.call.after l = l ∧ op.openedBy (op.call.answer l) = []) ∨
      (R l (op.call.after l) ∧ op.openedBy (op.call.answer l) = []) ∨
      ∃ u b a, l.openAccount u b = .ok (a, op.call.after l) ∧
        op.openedBy (op.call.answer l) = [a] := by
  cases ho : op.opens with
  | false =>
    rw [openedBy_of_opens ho]
    rcases (hR ho).after l with hkeep | hw
    · exact .inl ⟨hkeep, rfl⟩
    · exact .inr (.inl ⟨hw, rfl⟩)
  | true =>
    obtain ⟨u, b, rfl⟩ : ∃ u b, op = .openAccount u b := by
      cases op <;> simp_all [opens]
    cases hopen : l.openAccount u b with
    | error f =>
      have hrun : (openAccount u b).call.run l = .error f l := by
        rw [run_call_openAccount, hopen]
      rw [Call.after_of_run_error hrun, Call.answer_of_run_error hrun]
      exact .inl ⟨rfl, rfl⟩
    | ok p =>
      obtain ⟨a, l'⟩ := p
      have hrun : (openAccount u b).call.run l = .ok (.account a) l' := by
        rw [run_call_openAccount, hopen]
      rw [Call.after_of_run_ok hrun, Call.answer_of_run_ok hrun]
      exact .inr (.inr ⟨u, b, a, hopen, rfl⟩)

/-- One operation keeps the accounts funded, and the total grows by the balance of the
account it opened, if it opened one. -/
theorem call_funded (op : Operation) (h : l.Funded) :
    (op.call.after l).Funded ∧
      (op.call.after l).total = l.total + Ledger.balanceSum (op.openedBy (op.call.answer l)) := by
  rcases op.after_cases (call_within_writes op) l with
    ⟨hkeep, hnone⟩ | ⟨hw, hnone⟩ | ⟨u, b, a, hopen, hone⟩
  · rw [hkeep, hnone]
    exact ⟨h, by rw [Ledger.balanceSum, Int.add_zero]⟩
  · rw [hnone, Ledger.balanceSum, Int.add_zero]
    exact h.writes hw
  · rw [hone]
    obtain ⟨hf, ht⟩ := h.openAccount hopen
    exact ⟨hf, by simp [Ledger.balanceSum, ht]⟩

end Operation

namespace Ledger

/-- What every operation keeps, together with the accounts it opened, a run keeps. -/
theorem runOps_induction {P : List Account → Ledger → Prop} (ops : List Operation)
    (hstep : ∀ op ∈ ops, ∀ opened l, P opened l →
      P (opened ++ op.openedBy (op.call.answer l)) (op.call.after l))
    (opened : List Account) (l : Ledger) (h : P opened l) :
    P (opened ++ Operation.opened ops (l.runOps ops).1) (l.runOps ops).2 := by
  induction ops generalizing opened l with
  | nil =>
    simp only [runOps_nil, Operation.opened, List.append_nil]
    exact h
  | cons op ops ih =>
    have h₁ := hstep op (List.mem_cons_self ..) opened l h
    have h₂ := ih (fun o ho => hstep o (List.mem_cons_of_mem _ ho)) _ _ h₁
    rw [runOps_cons, Operation.opened, ← List.append_assoc]
    exact h₂

/-- A run keeps the accounts funded, and the total grows by the balances of the accounts
that its openings opened. -/
theorem Funded.runOps {l : Ledger} (h : l.Funded) (ops : List Operation) :
    (l.runOps ops).2.Funded ∧
      (l.runOps ops).2.total = l.total + balanceSum (Operation.opened ops (l.runOps ops).1) := by
  -- along the run, the total is the starting total and the balances opened so far
  have hrun := runOps_induction (P := fun opened x => x.Funded ∧ x.total = l.total + balanceSum opened)
    ops (fun op _ opened x hx => by
      obtain ⟨hf, ht⟩ := op.call_funded hx.1
      exact ⟨hf, by rw [ht, hx.2, balanceSum_append, Int.add_assoc]⟩)
    [] l ⟨h, by rw [balanceSum, Int.add_zero]⟩
  rw [List.nil_append] at hrun
  exact hrun

end Ledger

/-- From the empty ledger, every run of operations keeps every balance within
`0 … 2 ^ 63 - 1` and one account per user, and its total is what its openings brought. -/
theorem runOps_conserves_money (ops : List Operation) :
    let run := Ledger.empty.runOps ops
    (∀ a ∈ run.2.accounts, 0 ≤ a.balance ∧ a.balance ≤ Ledger.maxBalance) ∧
      (run.2.accounts.map (·.user)).Nodup ∧
      run.2.total = Ledger.balanceSum (Operation.opened ops run.1) := by
  intro run
  obtain ⟨hf, ht⟩ := Ledger.funded_empty.runOps ops
  refine ⟨hf.balances, hf.users, ?_⟩
  have hempty : Ledger.empty.total = 0 := rfl
  rw [ht, hempty, Int.zero_add]

end Remit
