import Remit.Ledger.Funds

/-!
# Opening accounts

What opening an account answers, case by case in the order of its checks: an opening
balance that is no whole number of cents within 64 bits is refused with the conversion's
fault; a negative one is refused; a user who already has an account is refused; and
otherwise the account is added under the next account id, with the balance in cents,
and looking the user up finds it.

The main statement is `openAccount_outcome`; `findUser?_append_fresh` is the lookup step
it rests on.
-/

set_option autoImplicit false

namespace Remit

namespace Ledger

/-- Adding an account for a user who had none makes the user's lookup find it. -/
theorem findUser?_append_fresh (l : Ledger) (a : Account) (h : l.findUser? a.user = none) :
    (l.accounts ++ [a]).find? (·.user == a.user) = some a := by
  unfold findUser? at h
  rw [List.find?_append, h]
  simp

/-- Opening an account, case by case in the order of its checks. -/
theorem openAccount_outcome (l : Ledger) (u : UserId) (m : Decimal) :
    (∀ f, m.toCents = .error f → l.openAccount u m = .error f) ∧
    (∀ c, m.toCents = .ok c → c < 0 → l.openAccount u m = .error (.negativeOpening m)) ∧
    (∀ c, m.toCents = .ok c → 0 ≤ c → (l.findUser? u).isSome = true →
      l.openAccount u m = .error (.userTaken u)) ∧
    (∀ c, m.toCents = .ok c → 0 ≤ c → l.findUser? u = none →
      ∃ l', l.openAccount u m = .ok (⟨l.nextAccountId, u, c⟩, l') ∧
        l'.accounts = l.accounts ++ [⟨l.nextAccountId, u, c⟩] ∧
        l'.transfers = l.transfers ∧
        l'.findUser? u = some ⟨l.nextAccountId, u, c⟩) := by
  refine ⟨?_, ?_, ?_, ?_⟩
  · intro f hf
    simp [openAccount, hf, bind, Except.bind]
  · intro c hc hneg
    simp [openAccount, hc, hneg, bind, Except.bind, throw, throwThe, MonadExceptOf.throw]
  · intro c hc hnn hu
    have hnot : ¬ c < 0 := Int.not_lt.mpr hnn
    simp [openAccount, hc, hnot, hu, bind, Except.bind, throw, throwThe, MonadExceptOf.throw]
  · intro c hc hnn hu
    have hnot : ¬ c < 0 := Int.not_lt.mpr hnn
    refine ⟨{ l with accounts := l.accounts ++ [⟨l.nextAccountId, u, c⟩] }, ?_, rfl, rfl, ?_⟩
    · simp [openAccount, hc, hnot, hu, bind, Except.bind, pure, Except.pure]
    · exact findUser?_append_fresh l ⟨l.nextAccountId, u, c⟩ hu

/-- The first account of an empty ledger, for user 7 with 12.34, gets id 1 and 1234 cents. -/
theorem openAccount_outcome_first :
    Decimal.toCents ⟨false, 1234, 2⟩ = .ok 1234 ∧
      ∃ l', Ledger.empty.openAccount ⟨7⟩ ⟨false, 1234, 2⟩ = .ok (⟨⟨1⟩, ⟨7⟩, 1234⟩, l') ∧
        l'.accounts = [⟨⟨1⟩, ⟨7⟩, 1234⟩] ∧ l'.transfers = [] ∧
        l'.findUser? ⟨7⟩ = some ⟨⟨1⟩, ⟨7⟩, 1234⟩ := by
  have hc : Decimal.toCents ⟨false, 1234, 2⟩ = .ok 1234 := by rfl
  exact ⟨hc, (openAccount_outcome Ledger.empty ⟨7⟩ ⟨false, 1234, 2⟩).2.2.2 1234 hc (by decide) rfl⟩

end Ledger

end Remit
