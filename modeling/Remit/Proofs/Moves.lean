import Remit.Proofs.Conservation
import Remit.Proofs.Resolution

/-!
# Moving money between two accounts

The store moves an amount from a payer to a payee in one unit. Its checks run in a fixed
order: two different accounts; an amount above zero; an amount of whole cents within 64
bits; a payer that exists; a payer's balance that covers the amount; a payee that exists;
and a payee's balance that stays within `2 ^ 63 - 1` cents once credited.
`Ledger.transferRule` states the outcome read off the amount and the two balances alone,
and the unit follows it (`atomic_transfer_follows_transferRule`). The debit runs before the
payee is even looked at, so a payer who cannot pay is refused before a missing payee is
noticed; and a refused credit undoes the debit with the rest of the unit, so every refusal
leaves the ledger as it was.

On a ledger whose balances lie in `0 … 2 ^ 63 - 1` (`Ledger.Funded`), the numbers the two
guarded statements compute stay in that range: the bound `2 ^ 63 - 1` less the amount, which
the credit compares against, and the balances each statement writes. So no balance is ever
written below zero, and no computation leaves the signed 64-bit range.

The guarded debit and credit between two different accounts (`Ledger.run_write_moveFunds`)
are also the money half of every send the engine records.
-/

set_option autoImplicit false

namespace Remit

namespace Decimal

/-- An amount a transfer may carry is a positive amount, and it carries its cents. -/
theorem transferCents_eq_ok_iff {m : Decimal} {u : Int} :
    m.transferCents = .ok u ↔ m.isPositive = true ∧ m.toCents = .ok u := by
  unfold transferCents
  cases m.isPositive <;> simp

end Decimal

namespace Ledger

/-- How moving an amount between two accounts comes out, read off the amount and the
balances of the two accounts: what the caller gets, and the ledger after it. -/
def transferRule (l : Ledger) (p q : AccountId) (m : Decimal) :
    EStateM.Result Fault Ledger Unit :=
  if p = q then .error (.selfTransfer p) l
  else if m.isPositive = false then .error (.notPositive m) l
  else
    match m.toCents with
    | .error f => .error f l
    | .ok u =>
      match l.findAccount? p with
      | none => .error (.noAccount p) l
      | some x =>
        if x.balance < u then .error .insufficientFunds l
        else
          match l.findAccount? q with
          | none => .error (.noAccount q) l
          | some y =>
            if maxBalance - u < y.balance then .error (.creditOverflow m q) l
            else .ok () { l with accounts := paid l.accounts p q u }

/-- The guarded debit and credit between two different accounts follow the rule; a step
that refuses writes nothing, the debit before a refused credit included. -/
theorem run_write_moveFunds (l : Ledger) {p q : AccountId} (hpq : p ≠ q) (m : Decimal) :
    (Call.write (·.moveFunds p q m)).run l = l.transferRule p q m := by
  rw [Call.run_write, transferRule, if_neg hpq]
  cases hpos : m.isPositive with
  | false => simp [moveFunds, Decimal.transferCents, hpos, bind, Except.bind]
  | true =>
    cases hu : m.toCents with
    | error f => simp [moveFunds, Decimal.transferCents, hpos, hu, bind, Except.bind]
    | ok u =>
      -- the amount is whole cents: what is left is the debit, then the credit
      have hm : l.moveFunds p q m = (l.debit p u).bind (·.credit q u m) := by
        simp only [moveFunds, Decimal.transferCents_eq_ok_iff.mpr ⟨hpos, hu⟩, bind]
        rfl
      rw [hm]
      cases hx : l.findAccount? p with
      | none => simp [debit, hx, Except.bind]
      | some x =>
        by_cases hcover : x.balance < u
        · have hno : ¬ u ≤ x.balance := by omega
          simp [debit, hx, hno, hcover, Except.bind]
        · -- the debit is made; the credit looks the payee up in the debited ledger, where
          -- it finds what it would have found before
          have hcx : u ≤ x.balance := by omega
          have hq := findAccount?_adjust_of_ne l (· - u) (Ne.symm hpq)
          cases hy : l.findAccount? q with
          | none => simp [debit, hx, hcx, hcover, credit, hq, hy, Except.bind]
          | some y =>
            by_cases hroom : maxBalance - u < y.balance
            · have hno : ¬ y.balance ≤ maxBalance - u := by omega
              simp [debit, hx, hcx, hcover, credit, hq, hy, hno, hroom, Except.bind]
            · have hle : y.balance ≤ maxBalance - u := by omega
              simp [debit, hx, hcx, hcover, credit, hq, hy, hle, hroom, Except.bind, adjust_adjust]

/-- A move that the rule lets through had whole cents to move and found both accounts, and
its ledger is the one where those cents went from the payer to the payee. -/
theorem transferRule_eq_ok {l l₁ : Ledger} {p q : AccountId} {m : Decimal} {a : Unit}
    (h : l.transferRule p q m = .ok a l₁) :
    ∃ u x y, m.toCents = .ok u ∧ l.findAccount? p = some x ∧ l.findAccount? q = some y ∧
      l₁ = { l with accounts := paid l.accounts p q u } := by
  -- each check of the rule either refuses, which contradicts `h`, or names what it found
  unfold transferRule at h
  split at h
  · cases h
  split at h
  · cases h
  split at h
  · cases h
  rename_i u hu
  split at h
  · cases h
  rename_i x hx
  split at h
  · cases h
  split at h
  · cases h
  rename_i y hy
  split at h
  · cases h
  cases h
  exact ⟨u, x, y, hu, hx, hy, rfl⟩

end Ledger

/-- Moving money between two accounts follows `Ledger.transferRule`: the checks in their
order, and a refusal that leaves the ledger as it was. On a ledger whose balances lie in
`0 … 2 ^ 63 - 1`, the bound the credit compares against is a 64-bit number, and the debit and
then the credit each leave every balance in `0 … 2 ^ 63 - 1`. -/
theorem atomic_transfer_follows_transferRule (l : Ledger) (hl : l.Funded) (p q : AccountId)
    (m : Decimal) :
    (Call.write (·.move p q m)).run l = l.transferRule p q m ∧
      ∀ u, m.transferCents = .ok u →
        Width.i64.holds (Ledger.maxBalance - u) = true ∧
          ∀ l₁, l.debit p u = .ok l₁ → l₁.Funded ∧
            ∀ l₂, l₁.credit q u m = .ok l₂ → l₂.Funded := by
  refine ⟨?_, ?_⟩
  · by_cases hpq : p = q
    · subst hpq
      simp [Ledger.move_self, Ledger.transferRule]
    · have hmove : (fun l : Ledger => l.move p q m) = (·.moveFunds p q m) := by
        funext l
        simp [Ledger.move, hpq]
      rw [hmove]
      exact Ledger.run_write_moveFunds l hpq m
  · intro u hu
    have hpos := Decimal.transferCents_pos hu
    have hfit : u ≤ 9223372036854775807 :=
      (Decimal.holds_i64.mp (Decimal.toCents_holds (Decimal.transferCents_eq_ok_iff.mp hu).2)).2
    have hbound : -9223372036854775808 ≤ Ledger.maxBalance - u ∧
        Ledger.maxBalance - u ≤ 9223372036854775807 := by
      unfold Ledger.maxBalance
      omega
    refine ⟨Decimal.holds_i64.mpr hbound, ?_⟩
    intro l₁ hd
    have h₁ := (hl.debit (by omega) hd).1
    exact ⟨h₁, fun l₂ hc => (h₁.credit (by omega) hc).1⟩

/-- A ledger of two accounts, the first holding 1.00, moves 0.30 to the second. -/
theorem atomic_transfer_follows_transferRule_two_accounts :
    let l : Ledger := ⟨[⟨⟨1⟩, ⟨1⟩, 100⟩, ⟨⟨2⟩, ⟨2⟩, 0⟩], []⟩
    let m : Decimal := ⟨false, 30, 2⟩
    l.Funded ∧
      ((Call.write (·.move ⟨1⟩ ⟨2⟩ m)).run l = l.transferRule ⟨1⟩ ⟨2⟩ m ∧
        ∀ u, m.transferCents = .ok u →
          Width.i64.holds (Ledger.maxBalance - u) = true ∧
            ∀ l₁, l.debit ⟨1⟩ u = .ok l₁ → l₁.Funded ∧
              ∀ l₂, l₁.credit ⟨2⟩ u m = .ok l₂ → l₂.Funded) := by
  intro l m
  have hl : l.Funded := ⟨⟨rfl, rfl⟩, by decide, by decide⟩
  exact ⟨hl, atomic_transfer_follows_transferRule l hl _ _ _⟩

end Remit
