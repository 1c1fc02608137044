import Remit.Proofs.TransferLog

/-!
# Deciding a stored transfer

The payer of a pending request approves or rejects it through the engine: the transfer is
read, its life decides the command (`Lifecycle.handle`), and one unit of the store commits
the decision. On a ledger whose log is well formed (`Ledger.Logged`, which every run keeps)
all of this comes to a short rule, `Ledger.decisionRule`, read off the stored transfer and
the balances of its two accounts: a missing transfer is not found; a caller who is not the
payer is refused, whatever the status; a transfer that is no longer pending is refused with
the life's message, which names no id; a rejection marks the transfer; an approval is
refused when the payer cannot cover the amount, then when the payee's balance would pass
`2 ^ 63 - 1` cents, and otherwise marks the transfer approved and moves its amount. Every
refusal leaves the ledger as it was.

The main statement is `resolve_follows_decisionRule`. It rests on
`TransferRecord.handle_resolve` (the life's decision on a stored transfer),
`Ledger.moveFunds_ofCents` (moving a stored amount) and `Ledger.approve_of_pending` (the
approval unit on a pending transfer), which the sessions and the races of decisions use too.
-/

set_option autoImplicit false

namespace Remit

namespace TransferRecord

/-- The event that a decision on the stored transfer yields. -/
def decided (r : TransferRecord) : Decision → Event
  | .approve => .approved r.payer r.payee r.decimal
  | .reject => .rejected r.payer r.payee

/-- A stored transfer's life knows its payer and payee. -/
theorem parties_lifecycle (r : TransferRecord) : r.lifecycle.parties = .ok (r.payer, r.payee) :=
  rfl

/-- A stored transfer's life takes a decision only while it is pending, and otherwise names its
status. -/
theorem requirePending_lifecycle (r : TransferRecord) :
    r.lifecycle.requirePending =
      if r.status = .pending then .ok () else .error (.alreadySettled r.status) := by
  cases hs : r.status <;> simp [Lifecycle.requirePending, lifecycle, Lifecycle.ofParts, hs]

/-- The life's decision on a stored transfer: only its payer may decide it, and only while it
is pending. -/
theorem handle_resolve (r : TransferRecord) (c : AccountId) (d : Decision) :
    r.lifecycle.handle (.resolve c d) =
      if c ≠ r.payer then .error .unauthorized
      else if r.status ≠ .pending then .error (.alreadySettled r.status)
      else .ok (r.decided d) := by
  simp only [Lifecycle.handle, parties_lifecycle, bind, Except.bind]
  by_cases hc : c = r.payer
  · subst hc
    rw [requirePending_lifecycle]
    by_cases hp : r.status = .pending
    · cases d <;> simp [hp, decided, pure, Except.pure, lifecycle, Lifecycle.ofParts]
    · simp [hp]
  · simp [hc, throw, throwThe, MonadExceptOf.throw]

end TransferRecord

namespace Ledger

/-- The balance of the account with the id, in cents (none counts as zero). -/
def centsOf (l : Ledger) (a : AccountId) : Int :=
  match l.findAccount? a with
  | some x => x.balance
  | none => 0

/-- The accounts after `c` cents went from the account `p` to the account `q`, every other
balance as it was. -/
def paid (accounts : List Account) (p q : AccountId) (c : Int) : List Account :=
  accounts.map fun x =>
    { x with balance := x.balance + ((if x.id = q then c else 0) - (if x.id = p then c else 0)) }

/-- How a decision on a transfer comes out, read off the stored transfer and the balances of
its payer and payee: what the caller gets, and the ledger after it. -/
def decisionRule (l : Ledger) (c : AccountId) (t : TransferId) (d : Decision) :
    EStateM.Result Fault Ledger TransferRecord :=
  match l.findTransfer? t with
  | none => .error (.noTransfer t) l
  | some r =>
    if c ≠ r.payer then .error .unauthorized l
    else if r.status ≠ .pending then .error (.alreadySettled r.status) l
    else
      let marked (s : Status) : List TransferRecord :=
        l.transfers.map fun x => if x.id = t then { x with status := s } else x
      match d with
      | .reject => .ok { r with status := .rejected } { l with transfers := marked .rejected }
      | .approve =>
        if l.centsOf r.payer < r.amount then .error .insufficientFunds l
        else if maxBalance < l.centsOf r.payee + r.amount then
          .error (.creditOverflow (Decimal.ofCents r.amount) r.payee) l
        else
          .ok { r with status := .approved }
            ⟨paid l.accounts r.payer r.payee r.amount, marked .approved⟩

/-! ### Reads and single writes -/

theorem findTransfer_of_find? {l : Ledger} {t : TransferId} {r : TransferRecord}
    (h : l.findTransfer? t = some r) : l.findTransfer t = .ok r := by
  simp [findTransfer, h]

/-- The cents of an account that exists are its balance. -/
theorem centsOf_of_find? {l : Ledger} {a : AccountId} {x : Account}
    (h : l.findAccount? a = some x) : l.centsOf a = x.balance := by
  simp [centsOf, h]

/-- On a ledger whose ids are numbered, every account id in use finds its account. -/
theorem Numbered.findAccount?_of_mem_ids {l : Ledger} (hn : l.Numbered) {a : AccountId}
    (ha : a ∈ l.accounts.map (·.id)) : ∃ x, l.findAccount? a = some x := by
  obtain ⟨x, hx, rfl⟩ := List.mem_map.mp ha
  exact ⟨x, hn.findAccount?_of_mem hx⟩

/-- A pending transfer is settled to any final status by changing its status alone. -/
theorem settle_of_pending {l : Ledger} {t : TransferId} {r : TransferRecord}
    (h : l.findTransfer? t = some r) (hp : r.status = .pending) (s : Status)
    (hs : s.isTerminal = true) : l.settle t s = .ok (l.restatus t s) := by
  simp [settle, hs, h, hp]

/-- Taking cents from one account and giving them to another is paying them. -/
theorem adjust_adjust (l : Ledger) (p q : AccountId) (c : Int) :
    (l.adjust p (· - c)).adjust q (· + c) = { l with accounts := paid l.accounts p q c } := by
  simp only [adjust, paid, List.map_map]
  congr 1
  apply List.map_congr_left
  intro x _
  obtain ⟨i, u, b⟩ := x
  by_cases hp : i = p <;> by_cases hq : i = q
  · subst hp hq
    simp
  · subst hp
    simp [hq]
    omega
  · subst hq
    simp [hp]
  · simp [hp, hq]

/-- Moving a stored amount of cents between two different accounts that exist: refused when
the payer cannot cover it, then when the payee's balance would pass `2 ^ 63 - 1` cents, and
otherwise the amount leaves the payer's balance for the payee's. -/
theorem moveFunds_ofCents {l : Ledger} {p q : AccountId} {x y : Account}
    (hx : l.findAccount? p = some x) (hy : l.findAccount? q = some y) (hpq : p ≠ q) {c : Int}
    (hc : 1 ≤ c) (hfits : Width.i64.holds c = true) :
    l.moveFunds p q (Decimal.ofCents c) =
      if x.balance < c then .error .insufficientFunds
      else if maxBalance - c < y.balance then .error (.creditOverflow (Decimal.ofCents c) q)
      else .ok { l with accounts := paid l.accounts p q c } := by
  have hcents : (Decimal.ofCents c).transferCents = .ok c :=
    Decimal.transferCents_ofCents (by omega) hfits
  -- the debit leaves the payee's account as it was, since the payee is another account
  have hy' : (l.adjust p (· - c)).findAccount? q = some y := by
    rw [findAccount?_adjust_of_ne l _ (Ne.symm hpq), hy]
  by_cases hcover : x.balance < c
  · have hno : ¬ c ≤ x.balance := by omega
    simp [moveFunds, hcents, debit, hx, hno, hcover, bind, Except.bind]
  · by_cases hroom : maxBalance - c < y.balance
    · have hcx : c ≤ x.balance := by omega
      have hno : ¬ y.balance ≤ maxBalance - c := by omega
      simp [moveFunds, hcents, debit, hx, hcx, hcover, credit, hy', hno, hroom, bind, Except.bind]
    · have hle : y.balance ≤ maxBalance - c := by omega
      have hcx : c ≤ x.balance := by omega
      simp [moveFunds, hcents, debit, hx, hcx, hcover, credit, hy', hle, hroom, bind,
        Except.bind, adjust_adjust]

/-- The approval unit on a pending transfer of a well-formed ledger: refused when the payer
cannot cover the amount, then when the payee's balance would pass `2 ^ 63 - 1` cents, and
otherwise the transfer is marked approved and its amount goes from the payer to the payee. -/
theorem approve_of_pending {l : Ledger} (hl : l.Logged) {t : TransferId} {r : TransferRecord}
    (hr : l.findTransfer? t = some r) (hp : r.status = .pending) :
    l.approve t =
      if l.centsOf r.payer < r.amount then .error .insufficientFunds
      else if maxBalance - r.amount < l.centsOf r.payee then
        .error (.creditOverflow (Decimal.ofCents r.amount) r.payee)
      else
        .ok ({ r with status := .approved },
          ⟨paid l.accounts r.payer r.payee r.amount, (l.restatus t .approved).transfers⟩) := by
  have hmem := List.mem_of_find?_eq_some hr
  obtain ⟨hne, hpids, hqids⟩ := hl.parties r hmem
  obtain ⟨hpos, hfits⟩ := hl.amounts r hmem
  obtain ⟨x, hx⟩ := hl.numbered.findAccount?_of_mem_ids hpids
  obtain ⟨y, hy⟩ := hl.numbered.findAccount?_of_mem_ids hqids
  -- the unit claims the status first; the accounts it then moves money between are those of `l`
  have hx' : (l.restatus t .approved).findAccount? r.payer = some x := hx
  have hy' : (l.restatus t .approved).findAccount? r.payee = some y := hy
  have hmove := moveFunds_ofCents hx' hy' hne hpos hfits
  have hfind := findTransfer_of_find? (findTransfer?_restatus_self hr .approved)
  rw [centsOf_of_find? hx, centsOf_of_find? hy]
  have hdec : ({ r with status := .approved } : TransferRecord).decimal = Decimal.ofCents r.amount :=
    rfl
  simp only [approve, bind, Except.bind, settle_of_pending hr hp .approved rfl, hfind]
  rw [hdec, hmove]
  by_cases hcover : x.balance < r.amount
  · simp [hcover]
  · by_cases hroom : maxBalance - r.amount < y.balance
    · simp [hcover, hroom]
    · simp [hcover, hroom, pure, Except.pure, restatus]

end Ledger

namespace Engine

/-- A decision runs in three steps: it reads the transfer, lets its life decide, and commits
the event. -/
theorem run_resolve (l : Ledger) (c : AccountId) (t : TransferId) (d : Decision) :
    (resolve c t d).run l =
      match l.findTransfer t with
      | .error f => .error f l
      | .ok r =>
        match r.lifecycle.handle (.resolve c d) with
        | .error f => .error f l
        | .ok e => (commit (some t) e).run l := by
  simp only [resolve_eq, EStateM.run_bind, Call.run_read]
  cases l.findTransfer t with
  | error f => rfl
  | ok r =>
    simp only [Call.run_ofExcept]
    cases r.lifecycle.handle (.resolve c d) <;> rfl

/-- An approval is committed by the approval unit alone. -/
theorem run_commit_approved (l : Ledger) (t : TransferId) (p q : AccountId) (a : Decimal) :
    (commit (some t) (.approved p q a)).run l =
      match l.approve t with
      | .ok (r, l') => .ok r l'
      | .error f => .error f l := by
  cases h : l.approve t with
  | error f => simp [commit, h]
  | ok p =>
    obtain ⟨r, l'⟩ := p
    simp [commit, h]

/-- A rejection is committed by settling the transfer, which is then read back. -/
theorem run_commit_rejected (l : Ledger) (t : TransferId) (p q : AccountId) :
    (commit (some t) (.rejected p q)).run l =
      match l.settle t .rejected with
      | .error f => .error f l
      | .ok l' =>
        match l'.findTransfer t with
        | .ok r => .ok r l'
        | .error f => .error f l' := by
  simp only [commit, EStateM.run_bind, Call.run_write, Call.run_read]
  cases l.settle t .rejected with
  | error f => rfl
  | ok l' =>
    dsimp only
    cases l'.findTransfer t <;> rfl

end Engine

/-- On a ledger whose log is well formed, deciding a transfer follows the rule: not found,
then refused unless the caller is the payer, then refused unless the transfer is pending;
a rejection marks it; an approval is refused when the payer cannot cover it or the payee's
balance would overflow, and otherwise marks it and moves its amount. -/
theorem resolve_follows_decisionRule (l : Ledger) (hl : l.Logged) (c : AccountId)
    (t : TransferId) (d : Decision) : (Engine.resolve c t d).run l = l.decisionRule c t d := by
  rw [Engine.run_resolve]
  cases hr : l.findTransfer? t with
  | none => simp [Ledger.findTransfer, hr, Ledger.decisionRule]
  | some r =>
    rw [Ledger.findTransfer_of_find? hr]
    dsimp only
    rw [TransferRecord.handle_resolve]
    by_cases hc : c = r.payer
    · by_cases hp : r.status = .pending
      · rw [if_neg (not_not.mpr hc), if_neg (not_not.mpr hp)]
        cases d with
        | reject =>
          -- settling claims the pending transfer, and the read back finds it rejected
          have hsettle := Ledger.settle_of_pending hr hp .rejected rfl
          have hfind :=
            Ledger.findTransfer_of_find? (Ledger.findTransfer?_restatus_self hr .rejected)
          simp only [TransferRecord.decided, Engine.run_commit_rejected, hsettle, hfind]
          simp [Ledger.decisionRule, hr, hc, hp, Ledger.restatus]
        | approve =>
          simp only [TransferRecord.decided, Engine.run_commit_approved,
            Ledger.approve_of_pending hl hr hp]
          by_cases hcover : l.centsOf r.payer < r.amount
          · simp [Ledger.decisionRule, hr, hc, hp, hcover]
          · by_cases hroom : Ledger.maxBalance - r.amount < l.centsOf r.payee
            · have hover : Ledger.maxBalance < l.centsOf r.payee + r.amount := by omega
              simp [Ledger.decisionRule, hr, hc, hp, hcover, hroom, hover]
            · have hfit : ¬ Ledger.maxBalance < l.centsOf r.payee + r.amount := by omega
              simp [Ledger.decisionRule, hr, hc, hp, hcover, hroom, hfit, Ledger.restatus]
      · simp [Ledger.decisionRule, hr, hc, hp]
    · simp [Ledger.decisionRule, hr, hc]

/-- A payer with 1.00 approves a request of 0.30 from an account holding nothing. -/
theorem resolve_follows_decisionRule_approval :
    let l : Ledger := ⟨[⟨⟨1⟩, ⟨1⟩, 100⟩, ⟨⟨2⟩, ⟨2⟩, 0⟩], [⟨⟨1⟩, .request, .pending, ⟨1⟩, ⟨2⟩, 30⟩]⟩
    l.Logged ∧ (Engine.resolve ⟨1⟩ ⟨1⟩ .approve).run l = l.decisionRule ⟨1⟩ ⟨1⟩ .approve := by
  intro l
  have hl : l.Logged := ⟨⟨rfl, rfl⟩, by decide, by decide⟩
  exact ⟨hl, resolve_follows_decisionRule l hl _ _ _⟩

end Remit
