import Remit.Proofs.Sends
import Remit.Proofs.WholeCents

/-!
# The checks of a new transfer agree

Three places check a new transfer before anything is written: the transfer's life, when a
fresh transfer takes a send or a request (`Lifecycle.checkNew`); the store, when it validates
a draft before storing it (`Draft.validate`); and the store's move of money, before it touches
a balance (`Ledger.moveChecks`, all that `Ledger.move` does before its debit, by
`Ledger.move_eq_moveChecks`). They check in different orders, and the draft's check also
refuses a draft born rejected. Yet on a draft that is pending or approved they accept the same
transfers: an amount above zero, a hundred times which is a whole number within 64 bits,
between two different accounts (`Transferable`). Each refuses every other transfer with a
validation fault, and when only one of the three conditions fails all three refuse with the
same fault, so with the same message (`new_transfer_checks_agree`). A transfer that the life
accepts therefore passes every later check of the store: the draft the engine stores for it
validates, and its amount is one a move may carry.
-/

set_option autoImplicit false

namespace Remit

namespace Decimal

/-- A hundred times the amount is a whole number within the signed 64-bit range. -/
def WholeCents (m : Decimal) : Prop :=
  ∃ n : ℤ, 100 * m.value = n ∧ Width.i64.holds n = true

/-- An amount is a whole number of cents exactly when it converts to cents. -/
theorem wholeCents_iff (m : Decimal) : m.WholeCents ↔ ∃ u, m.toCents = .ok u := by
  simp only [WholeCents, toCents_eq_ok_iff]

/-- A guard that fails gives the fault it was written with. -/
theorem error_of_ite {b : Prop} [Decidable b] {x : Int} {e f : Fault}
    (h : (if b then .ok x else .error e : Except Fault Int) = .error f) : f = e := by
  by_cases hb : b
  · simp [hb] at h
  · simp only [hb, if_false, Except.error.injEq] at h
    exact h.symm

/-- A conversion to cents that fails says the amount is too precise or out of range. -/
theorem toCents_eq_error {m : Decimal} {f : Fault} (h : m.toCents = .error f) :
    f = .tooPrecise m ∨ f = .outOfRange m := by
  unfold toCents at h
  split at h
  · cases h
    exact .inl rfl
  · exact .inr (error_of_ite h)

/-- Every failure to convert an amount to cents is a validation fault. -/
theorem toCents_error_kind {m : Decimal} {f : Fault} (h : m.toCents = .error f) :
    f.kind = .validation := by
  rcases toCents_eq_error h with rfl | rfl <;> rfl

end Decimal

/-- What every check of a new transfer asks of it: an amount above zero, a hundred times which
is a whole number within 64 bits, between two different accounts. -/
structure Transferable (p q : AccountId) (m : Decimal) : Prop where
  positive : 0 < m.value
  whole : m.WholeCents
  distinct : p ≠ q

/-- Exactly one of the three conditions of `Transferable` fails. -/
def OneFails (p q : AccountId) (m : Decimal) : Prop :=
  (¬ 0 < m.value ∧ m.WholeCents ∧ p ≠ q) ∨ (0 < m.value ∧ ¬ m.WholeCents ∧ p ≠ q) ∨
    (0 < m.value ∧ m.WholeCents ∧ p = q)

/-- The conditions as the checks test them: the sign and coefficient, the conversion to
cents, and the two ids. -/
theorem transferable_iff {p q : AccountId} {m : Decimal} :
    Transferable p q m ↔ m.isPositive = true ∧ (∃ u, m.toCents = .ok u) ∧ p ≠ q := by
  rw [Decimal.isPositive_iff, ← Decimal.wholeCents_iff]
  exact ⟨fun h => ⟨h.positive, h.whole, h.distinct⟩, fun ⟨hp, hw, hd⟩ => ⟨hp, hw, hd⟩⟩

namespace Lifecycle

/-- A fresh transfer takes a send or a request exactly when it is transferable. -/
theorem checkNew_fresh_eq_ok_iff (p q : AccountId) (m : Decimal) :
    fresh.checkNew p q m = .ok () ↔ Transferable p q m := by
  rw [transferable_iff, checkNew_fresh]
  cases hpos : m.isPositive with
  | false => simp
  | true =>
    cases hc : m.toCents with
    | error f => simp
    | ok u => by_cases hpq : p = q <;> simp [hpq]

/-- Every refusal of a new transfer by its checks is a validation fault. -/
theorem checkNew_fresh_error_kind {p q : AccountId} {m : Decimal} {f : Fault}
    (h : fresh.checkNew p q m = .error f) : f.kind = .validation := by
  rw [checkNew_fresh] at h
  split at h
  · cases h
    rfl
  · split at h
    · next f' hc =>
      cases h
      exact Decimal.toCents_error_kind hc
    · split at h
      · cases h
        rfl
      · cases h

/-- A send or a request that the life accepts passed the checks of a new transfer. -/
theorem checkNew_of_handle_ok {t : Lifecycle} {p q : AccountId} {m : Decimal} {e : Event}
    (h : t.handle (.send p q m) = .ok e ∨ t.handle (.request p q m) = .ok e) :
    t.checkNew p q m = .ok () := by
  rcases h with h | h
  · rw [handle_send] at h
    split at h
    · cases h
    · assumption
  · rw [handle_request] at h
    split at h
    · cases h
    · assumption

end Lifecycle

namespace Draft

/-- A draft that is not rejected validates exactly when its transfer is transferable. -/
theorem validate_ok_iff_transferable (k : Kind) {s : Status} (hs : s ≠ .rejected)
    (p q : AccountId) (m : Decimal) :
    (∃ u, (⟨k, s, p, q, m⟩ : Draft).validate = .ok u) ↔ Transferable p q m := by
  simp only [validate_eq_ok_iff, transferable_iff]
  constructor
  · rintro ⟨u, hpos, hpq, -, hu⟩
    exact ⟨hpos, ⟨u, hu⟩, hpq⟩
  · rintro ⟨hpos, ⟨u, hu⟩, hpq⟩
    exact ⟨u, hpos, hpq, hs, hu⟩

/-- Every refusal of a draft by its validation is a validation fault. -/
theorem validate_error_kind {d : Draft} {f : Fault} (h : d.validate = .error f) :
    f.kind = .validation := by
  unfold validate at h
  split at h
  · cases h
    rfl
  · split at h
    · cases h
      rfl
    · split at h
      · cases h
        rfl
      · exact Decimal.toCents_error_kind h

end Draft

/-- A transferable send or request passes the store's checks again: both of its drafts
validate, and its amount is one a move may carry, all with the same cents. -/
theorem Transferable.drafts_validate {p q : AccountId} {m : Decimal} (h : Transferable p q m) :
    ∃ u, (Draft.send p q m).validate = .ok u ∧ (Draft.request p q m).validate = .ok u ∧
      m.transferCents = .ok u := by
  obtain ⟨hpos, ⟨u, hu⟩, hpq⟩ := transferable_iff.mp h
  refine ⟨u, ?_, ?_, Decimal.transferCents_eq_ok_iff.mpr ⟨hpos, hu⟩⟩
  · exact (Draft.validate_eq_ok_iff _ u).mpr ⟨hpos, hpq, nofun, hu⟩
  · exact (Draft.validate_eq_ok_iff _ u).mpr ⟨hpos, hpq, nofun, hu⟩

namespace Ledger

/-- The checks a move of money makes before it touches a balance: two different accounts,
then an amount a transfer may carry. It gives the amount's cents. -/
def moveChecks (p q : AccountId) (m : Decimal) : Except Fault Int :=
  if p = q then .error (.selfTransfer p) else m.transferCents

/-- A move of money is its checks, then the debit and the credit of the checked cents. -/
theorem move_eq_moveChecks (l : Ledger) (p q : AccountId) (m : Decimal) :
    l.move p q m = (moveChecks p q m).bind fun u => (l.debit p u).bind (·.credit q u m) := by
  unfold move moveChecks
  by_cases hpq : p = q
  · simp [hpq, Except.bind]
  · simp only [hpq, if_false]
    rfl

/-- The checks of a move of money pass exactly on what a transfer may carry between two accounts. -/
theorem moveChecks_ok_iff (p q : AccountId) (m : Decimal) :
    (∃ u, moveChecks p q m = .ok u) ↔ Transferable p q m := by
  simp only [moveChecks, transferable_iff]
  by_cases hpq : p = q
  · simp [hpq]
  · simp only [hpq, if_false, Decimal.transferCents_eq_ok_iff, ne_eq, not_false_eq_true, and_true]
    exact ⟨fun ⟨u, hp, hu⟩ => ⟨hp, u, hu⟩, fun ⟨hp, u, hu⟩ => ⟨u, hp, hu⟩⟩

/-- Every refusal of a move of money by its checks is a validation fault. -/
theorem moveChecks_error_kind {p q : AccountId} {m : Decimal} {f : Fault}
    (h : moveChecks p q m = .error f) : f.kind = .validation := by
  unfold moveChecks Decimal.transferCents at h
  split at h
  · cases h
    rfl
  · split at h
    · exact Decimal.toCents_error_kind h
    · cases h
      rfl

end Ledger

/-- When only one condition fails, the three checks refuse with the same fault: the amount's
sign, the conversion's own fault, or the self-transfer. -/
theorem same_fault_of_oneFails {p q : AccountId} {m : Decimal} (k : Kind) {s : Status}
    (hs : s ≠ .rejected) (h : OneFails p q m) :
    ∃ f, Lifecycle.fresh.checkNew p q m = .error f ∧
      (⟨k, s, p, q, m⟩ : Draft).validate = .error f ∧ Ledger.moveChecks p q m = .error f := by
  simp only [Lifecycle.checkNew_fresh, Draft.validate, Ledger.moveChecks, Decimal.transferCents]
  rcases h with ⟨hpos, -, hpq⟩ | ⟨hpos, hwhole, hpq⟩ | ⟨hpos, ⟨u, hu⟩, rfl⟩
  · -- only the sign fails: each check refuses the amount as not positive
    have hp : m.isPositive = false := by
      rw [← Bool.not_eq_true, Decimal.isPositive_iff]
      exact hpos
    exact ⟨.notPositive m, by simp [hp], by simp [hp], by simp [hpq, hp]⟩
  · -- only the cents fail: each check passes on to the conversion and reports its fault
    have hp : m.isPositive = true := (Decimal.isPositive_iff m).mpr hpos
    obtain ⟨f, hf⟩ : ∃ f, m.toCents = .error f := by
      cases hc : m.toCents with
      | error f => exact ⟨f, rfl⟩
      | ok u => exact absurd ((Decimal.wholeCents_iff m).mpr ⟨u, hc⟩) hwhole
    exact ⟨f, by simp [hp, hf], by simp [hp, hpq, hs, hf], by simp [hpq, hp, hf]⟩
  · -- only the accounts fail: each check reaches the self-transfer
    have hp : m.isPositive = true := (Decimal.isPositive_iff m).mpr hpos
    have hc : m.toCents = .ok u := (Decimal.toCents_eq_ok_iff m u).mpr hu
    exact ⟨.selfTransfer p, by simp [hp, hc], by simp [hp], by simp⟩

/-- The transfer's life on a fresh transfer, the store's validation of a draft that is pending
or approved, and the checks of a move of money before it touches a balance accept exactly the
transferable inputs; each refuses every other input with a validation fault, and when only one
condition fails the three refuse with the same fault. A move does nothing else before its
debit, and once the life accepts a send or a request, the drafts the store validates for it
validate and its amount is one a move may carry. -/
theorem new_transfer_checks_agree (p q : AccountId) (m : Decimal) (k : Kind) (s : Status)
    (hs : s ≠ .rejected) :
    (Lifecycle.fresh.checkNew p q m = .ok () ↔ Transferable p q m) ∧
    ((∃ u, (⟨k, s, p, q, m⟩ : Draft).validate = .ok u) ↔ Transferable p q m) ∧
    ((∃ u, Ledger.moveChecks p q m = .ok u) ↔ Transferable p q m) ∧
    (∀ f, Lifecycle.fresh.checkNew p q m = .error f ∨ (⟨k, s, p, q, m⟩ : Draft).validate = .error f ∨
        Ledger.moveChecks p q m = .error f → f.kind = .validation) ∧
    (OneFails p q m → ∃ f, Lifecycle.fresh.checkNew p q m = .error f ∧
        (⟨k, s, p, q, m⟩ : Draft).validate = .error f ∧ Ledger.moveChecks p q m = .error f) ∧
    (∀ l : Ledger, l.move p q m =
        (Ledger.moveChecks p q m).bind fun u => (l.debit p u).bind (·.credit q u m)) ∧
    (∀ e, Lifecycle.fresh.handle (.send p q m) = .ok e ∨
        Lifecycle.fresh.handle (.request p q m) = .ok e →
      ∃ u, (Draft.send p q m).validate = .ok u ∧ (Draft.request p q m).validate = .ok u ∧
        m.transferCents = .ok u) := by
  refine ⟨Lifecycle.checkNew_fresh_eq_ok_iff p q m, Draft.validate_ok_iff_transferable k hs p q m,
    Ledger.moveChecks_ok_iff p q m, ?_, same_fault_of_oneFails k hs,
    fun l => Ledger.move_eq_moveChecks l p q m, ?_⟩
  · rintro f (h | h | h)
    · exact Lifecycle.checkNew_fresh_error_kind h
    · exact Draft.validate_error_kind h
    · exact Ledger.moveChecks_error_kind h
  · rintro e he
    exact ((Lifecycle.checkNew_fresh_eq_ok_iff p q m).mp
      (Lifecycle.checkNew_of_handle_ok he)).drafts_validate

/-- An approved send of 25 between accounts 1 and 2. -/
theorem new_transfer_checks_agree_send :
    Status.approved ≠ .rejected ∧
      let p : AccountId := ⟨1⟩
      let q : AccountId := ⟨2⟩
      let m : Decimal := ⟨false, 25, 0⟩
      (Lifecycle.fresh.checkNew p q m = .ok () ↔ Transferable p q m) ∧
      ((∃ u, (⟨.send, .approved, p, q, m⟩ : Draft).validate = .ok u) ↔ Transferable p q m) ∧
      ((∃ u, Ledger.moveChecks p q m = .ok u) ↔ Transferable p q m) ∧
      (∀ f, Lifecycle.fresh.checkNew p q m = .error f ∨
          (⟨.send, .approved, p, q, m⟩ : Draft).validate = .error f ∨
          Ledger.moveChecks p q m = .error f → f.kind = .validation) ∧
      (OneFails p q m → ∃ f, Lifecycle.fresh.checkNew p q m = .error f ∧
          (⟨.send, .approved, p, q, m⟩ : Draft).validate = .error f ∧
          Ledger.moveChecks p q m = .error f) ∧
      (∀ l : Ledger, l.move p q m =
          (Ledger.moveChecks p q m).bind fun u => (l.debit p u).bind (·.credit q u m)) ∧
      (∀ e, Lifecycle.fresh.handle (.send p q m) = .ok e ∨
          Lifecycle.fresh.handle (.request p q m) = .ok e →
        ∃ u, (Draft.send p q m).validate = .ok u ∧ (Draft.request p q m).validate = .ok u ∧
          m.transferCents = .ok u) :=
  ⟨by decide, new_transfer_checks_agree ⟨1⟩ ⟨2⟩ ⟨false, 25, 0⟩ .send .approved (by decide)⟩

end Remit
