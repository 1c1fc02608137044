import Mathlib.Algebra.Order.Field.Rat
import Mathlib.Tactic.Ring
import Remit.Proofs.Units

/-!
# Whole cents, exactly

An amount converts to the number of cents it stands for, exactly, or not at all. The value of
a decimal is its signed coefficient over ten to its scale (`Decimal.value`). A hundred times
the value is a whole number exactly when the normal form keeps at most two places; the
conversion then gives that number when it lies in the signed 64-bit range and says the amount
is out of range when it does not, and past two places it says the amount is too precise
(`cents_exact`). This holds of every sign, coefficient and scale, a zero with a minus sign
included; it needs none of the bounds that decimals read from text keep. Cents convert back
to a decimal with two places whose value is the cents over a hundred, and that decimal
converts to the same cents exactly when they lie in the 64-bit range. An amount counts as
positive exactly when its value is above zero (`isPositive_iff`).

The proof rests on the normal form. Dropping trailing zeros keeps the value and stops at a
coefficient that ten does not divide, unless no places are left (`stripZeros_stripped`). Such
a coefficient over more than two places is no whole number of cents (`not_whole_of_two_lt`),
while a coefficient whose normal form keeps at most two places is a multiple of ten to the
places past the cents (`pow10_dvd_coefficient`), so the division the conversion makes is exact.

The conversion computes the cents directly; the decimal library gets them by bringing the
amount to two places and reading its signed coefficient, widening it only while it stays within
96 bits. The two agree on every decimal (`toCents_eq_rescaled`).
-/

set_option autoImplicit false

namespace Remit

namespace Decimal

/-- The number a decimal stands for. -/
def value (d : Decimal) : ℚ := d.mantissa / 10 ^ d.scale

/-- An amount is positive exactly when the number it stands for is above zero; a zero with a
minus sign is not. -/
theorem isPositive_iff (d : Decimal) : d.isPositive = true ↔ 0 < d.value := by
  have hpow : (0 : ℚ) < 10 ^ d.scale := pow_pos (by norm_num) _
  unfold isPositive value mantissa
  cases d.negative
  · simp [lt_div_iff₀ hpow]
  · simp only [Bool.not_true, Bool.false_and, Bool.false_eq_true, if_true, false_iff, not_lt]
    exact div_nonpos_of_nonpos_of_nonneg (by simp) hpow.le

/-- The power of ten computed by the conversion is the power of ten. -/
theorem pow10_eq (n : Nat) : pow10 n = 10 ^ n := by
  induction n with
  | zero => rfl
  | succ n ih => rw [pow10, ih, Nat.pow_succ]

/-- The power of ten, cast to an integer, is the integer power of ten. -/
theorem cast_pow10 (n : Nat) : ((pow10 n : Nat) : ℤ) = 10 ^ n := by
  rw [pow10_eq, Nat.cast_pow]
  rfl

/-- Dropping trailing zeros stops at a coefficient that ten does not divide, unless no places
are left. -/
theorem stripZeros_stripped (m s : Nat) :
    (stripZeros m s).2 = 0 ∨ ¬ 10 ∣ (stripZeros m s).1 := by
  induction s generalizing m with
  | zero => simp [stripZeros]
  | succ s ih =>
    simp only [stripZeros]
    split
    · exact ih _
    · next h => exact .inr fun hd => h (Nat.mod_eq_zero_of_dvd hd)

/-- A hundred times the value is the integer `n` exactly when a hundred times the signed
coefficient is `n` times ten to the scale. -/
theorem hundred_mul_value_eq_iff (d : Decimal) (n : ℤ) :
    100 * d.value = n ↔ 100 * d.mantissa = n * 10 ^ d.scale := by
  unfold value
  rw [mul_div_assoc', div_eq_iff (pow_ne_zero _ (by norm_num))]
  constructor <;> intro h <;> exact_mod_cast h

/-- A coefficient whose normal form keeps more than two places is no whole number of cents. -/
theorem not_whole_of_two_lt {d : Decimal} (hn : 2 < d.normalize.scale) (n : Nat) :
    100 * d.coefficient ≠ n * pow10 d.scale := by
  intro h
  -- the normal form keeps places, so ten does not divide its coefficient
  have hstripped : ¬ 10 ∣ d.normalize.coefficient :=
    (stripZeros_stripped d.coefficient d.scale).resolve_left (by
      change ¬ d.normalize.scale = 0
      omega)
  -- cancelling the dropped zeros leaves a hundred times the normal coefficient a multiple of
  -- ten to more than two places
  rw [← normalize_coefficient_mul d, pow10_split (normalize_scale_le d), ← Nat.mul_assoc,
    ← Nat.mul_assoc] at h
  have hcancel : 100 * d.normalize.coefficient = n * pow10 d.normalize.scale :=
    Nat.eq_of_mul_eq_mul_right (pow10_pos _) h
  rw [pow10_split (show 3 ≤ d.normalize.scale by omega), Nat.mul_comm (pow10 3),
    ← Nat.mul_assoc] at hcancel
  change 100 * d.normalize.coefficient = n * pow10 (d.normalize.scale - 3) * 1000 at hcancel
  exact hstripped ⟨n * pow10 (d.normalize.scale - 3), by omega⟩

/-- A coefficient whose normal form keeps at most two places, brought to two places: the
cents that the conversion computes, before their sign and their range. -/
theorem hundred_mul_coefficient {d : Decimal} (hn : d.normalize.scale ≤ 2) :
    100 * d.coefficient =
      (if d.scale ≤ 2 then d.coefficient * pow10 (2 - d.scale)
        else d.coefficient / pow10 (d.scale - 2)) * pow10 d.scale := by
  split
  · next hs =>
    rw [Nat.mul_assoc, ← pow10_add, Nat.sub_add_cancel hs]
    exact Nat.mul_comm 100 _
  · next hs =>
    -- past two places the division is exact, since the dropped places are zeros
    obtain ⟨q, hq⟩ := pow10_dvd_coefficient hn
    rw [hq, Nat.mul_div_cancel_left _ (pow10_pos _), pow10_split (show 2 ≤ d.scale by omega)]
    change 100 * (pow10 (d.scale - 2) * q) = q * (100 * pow10 (d.scale - 2))
    ring

/-- An amount whose normal form keeps at most two places is a whole number of cents, and the
conversion gives that number when it fits in 64 bits. -/
theorem toCents_of_whole {d : Decimal} (hn : d.normalize.scale ≤ 2) :
    ∃ n : ℤ, 100 * d.value = n ∧
      d.toCents = if Width.i64.holds n then .ok n else .error (.outOfRange d) := by
  have h100 := hundred_mul_coefficient hn
  generalize hU : (if d.scale ≤ 2 then d.coefficient * pow10 (2 - d.scale)
    else d.coefficient / pow10 (d.scale - 2)) = U at h100
  refine ⟨if d.negative then -(U : ℤ) else U, ?_, ?_⟩
  · rw [hundred_mul_value_eq_iff, mantissa, ← cast_pow10]
    have hz : (100 : ℤ) * d.coefficient = U * pow10 d.scale := by exact_mod_cast h100
    cases d.negative
    · simpa using hz
    · simp only [if_true]
      rw [mul_neg, hz, neg_mul]
  · unfold toCents
    rw [if_neg (by omega), hU]

/-- An amount whose normal form keeps more than two places is no whole number of cents, and
the conversion says it is too precise. -/
theorem toCents_of_two_lt {d : Decimal} (hn : 2 < d.normalize.scale) :
    (∀ n : ℤ, 100 * d.value ≠ n) ∧ d.toCents = .error (.tooPrecise d) := by
  refine ⟨fun n h => ?_, by simp [toCents, hn]⟩
  rw [hundred_mul_value_eq_iff, mantissa, ← cast_pow10] at h
  -- dropping the signs leaves an equation of naturals that the normal form rules out
  have habs := congrArg Int.natAbs h
  rw [Int.natAbs_mul, Int.natAbs_mul] at habs
  have hm : (if d.negative then -(d.coefficient : ℤ) else d.coefficient).natAbs = d.coefficient := by
    cases d.negative <;> simp
  rw [hm] at habs
  exact not_whole_of_two_lt hn n.natAbs (by simpa using habs)

/-- An amount has at most one value in cents. -/
theorem eq_of_hundred_mul_value {d : Decimal} {n n' : ℤ} (h : 100 * d.value = n)
    (h' : 100 * d.value = n') : n = n' := by
  exact_mod_cast h.symm.trans h'

/-- The conversion gives `n` exactly when `n` is a hundred times the value and fits in 64
bits. -/
theorem toCents_eq_ok_iff (d : Decimal) (n : ℤ) :
    d.toCents = .ok n ↔ 100 * d.value = n ∧ Width.i64.holds n = true := by
  by_cases hn : d.normalize.scale ≤ 2
  · obtain ⟨n₀, hv, ht⟩ := toCents_of_whole hn
    rw [ht]
    constructor
    · intro h
      split at h
      · next hi =>
        cases h
        exact ⟨hv, hi⟩
      · cases h
    · rintro ⟨hv', hi⟩
      obtain rfl := eq_of_hundred_mul_value hv hv'
      simp [hi]
  · obtain ⟨hno, ht⟩ := toCents_of_two_lt (d := d) (by omega)
    rw [ht]
    simp only [reduceCtorEq, false_iff, not_and]
    exact fun h => absurd h (hno n)

/-- The conversion says "out of range" exactly when a hundred times the value is a whole number
beyond 64 bits. -/
theorem toCents_eq_outOfRange_iff (d : Decimal) :
    d.toCents = .error (.outOfRange d) ↔
      ∃ n : ℤ, 100 * d.value = n ∧ Width.i64.holds n = false := by
  by_cases hn : d.normalize.scale ≤ 2
  · obtain ⟨n, hv, ht⟩ := toCents_of_whole hn
    rw [ht]
    constructor
    · intro h
      split at h
      · cases h
      · next hi => exact ⟨n, hv, by simpa using hi⟩
    · rintro ⟨n', hv', hi⟩
      obtain rfl := eq_of_hundred_mul_value hv hv'
      simp [hi]
  · obtain ⟨hno, ht⟩ := toCents_of_two_lt (d := d) (by omega)
    rw [ht]
    simp only [Except.error.injEq, reduceCtorEq, false_iff, not_exists, not_and]
    exact fun n h => absurd h (hno n)

/-- The conversion says "too precise" exactly when a hundred times the value is no whole
number. -/
theorem toCents_eq_tooPrecise_iff (d : Decimal) :
    d.toCents = .error (.tooPrecise d) ↔ ∀ n : ℤ, 100 * d.value ≠ n := by
  by_cases hn : d.normalize.scale ≤ 2
  · obtain ⟨n, hv, ht⟩ := toCents_of_whole hn
    rw [ht]
    constructor
    · intro h
      split at h <;> cases h
    · intro h
      exact absurd hv (h n)
  · obtain ⟨hno, ht⟩ := toCents_of_two_lt (d := d) (by omega)
    exact ⟨fun _ => hno, fun _ => ht⟩

/-- The value of cents as a decimal is the cents over a hundred. -/
theorem value_ofCents (u : ℤ) : (ofCents u).value = u / 100 := by
  simp only [value, ofCents, mantissa_ofInt]
  norm_num [ofInt]

/-- Cents as a decimal convert back to themselves exactly when they fit in 64 bits. -/
theorem toCents_ofCents_eq_ok_iff (u : ℤ) :
    (ofCents u).toCents = .ok u ↔ Width.i64.holds u = true :=
  ⟨toCents_holds, toCents_ofCents u⟩

/-! ### The library's steps

The decimal library converts in three steps: it normalizes the amount to count its places,
brings it to two places, and takes its signed coefficient if that fits in 64 bits. Bringing a
decimal to fewer places drops digits, rounding half up on the first one dropped
(`dropPlaces`); bringing it to more places multiplies the coefficient by ten one place at a
time and stops before a product that would not fit in 96 bits, leaving fewer places than
asked for. `toCents` gives what these steps give on every decimal (`toCents_eq_rescaled`):
when the widening stops short, the coefficient is already too large for 64 bits, and so are
the cents. -/

/-- Adds up to `k` places to a coefficient, one zero at a time, while it stays below `2 ^ 96`:
the new coefficient and the number of places added. -/
def widen (c : Nat) : Nat → Nat × Nat
  | 0 => (c, 0)
  | k + 1 =>
    if c * 10 < mantissaBound then
      let w := widen (c * 10) k
      (w.1, w.2 + 1)
    else (c, 0)

/-- Brings a decimal to `s` places as the decimal library does; a zero only takes the places,
at most `maxScale` of them. -/
def rescale (d : Decimal) (s : Nat) : Decimal :=
  if d.coefficient = 0 then { d with scale := min s maxScale }
  else if s ≤ d.scale then d.dropPlaces (d.scale - s)
  else
    let w := widen d.coefficient (s - d.scale)
    { d with coefficient := w.1, scale := d.scale + w.2 }

/-- Widening adds zeros to the coefficient, at most as many as asked for, and stops short only
before a coefficient of 96 bits. -/
theorem widen_spec (c k : Nat) :
    (widen c k).1 = c * pow10 (widen c k).2 ∧ (widen c k).2 ≤ k ∧
      ((widen c k).2 = k ∨ mantissaBound ≤ (widen c k).1 * 10) := by
  induction k generalizing c with
  | zero => simp [widen, pow10]
  | succ k ih =>
    unfold widen
    split
    · dsimp only
      obtain ⟨h1, h2, h3⟩ := ih (c * 10)
      refine ⟨?_, by omega, by omega⟩
      rw [h1, pow10, Nat.mul_assoc, Nat.mul_comm 10]
    · next h => exact ⟨by simp [pow10], by simp, .inr (by omega)⟩

/-- A number of 64 bits is less than `2 ^ 63` away from zero, whatever its sign. -/
theorem holds_signed_eq_false (b : Bool) {n : Nat} (h : 9223372036854775809 ≤ n) :
    Width.i64.holds (if b then -(n : ℤ) else n) = false := by
  cases b <;> simp [Width.holds, Width.i64] <;> omega

/-- Brought to two places, an amount whose normal form keeps at most two places has as its
mantissa the signed cents `toCents` computes, unless the widening stopped short, and then
neither fits in 64 bits. -/
theorem rescale_two_mantissa {d : Decimal} (hn : d.normalize.scale ≤ 2) {u : Nat}
    (hu : (if d.scale ≤ 2 then d.coefficient * pow10 (2 - d.scale)
      else d.coefficient / pow10 (d.scale - 2)) = u) :
    (d.rescale 2).mantissa = (if d.negative then -(u : ℤ) else u) ∨
      (Width.i64.holds (if d.negative then -(u : ℤ) else u) = false ∧
        Width.i64.holds (d.rescale 2).mantissa = false) := by
  by_cases hz : d.coefficient = 0
  · -- a zero keeps its sign, and its mantissa is zero
    left
    have hu0 : u = 0 := by
      rw [← hu, hz]
      split <;> simp
    simp [rescale, hz, mantissa, hu0]
  by_cases hs : 2 ≤ d.scale
  · left
    rcases Nat.eq_or_lt_of_le hs with h2 | h2
    · -- already two places: nothing to do
      have hr : d.rescale 2 = d := by simp [rescale, hz, ← h2, dropPlaces]
      rw [if_pos (by omega), ← h2, Nat.sub_self, pow10, Nat.mul_one] at hu
      simp [hr, mantissa, hu]
    · -- past two places the dropped digits are zeros, so no rounding happens
      obtain ⟨t, ht⟩ := pow10_dvd_coefficient hn
      obtain ⟨k, hk⟩ : ∃ k, d.scale - 2 = k + 1 := ⟨d.scale - 3, by omega⟩
      have hq : d.coefficient / pow10 k = t * 10 := by
        rw [ht, hk, pow10, show pow10 k * 10 * t = pow10 k * (t * 10) by ring,
          Nat.mul_div_cancel_left _ (pow10_pos k)]
      rw [if_neg (by omega), ht, Nat.mul_div_cancel_left _ (pow10_pos _)] at hu
      have hr : d.rescale 2 = ⟨d.negative, t, 2⟩ := by
        simp [rescale, hz, hs, hk, dropPlaces, hq]
        omega
      simp [hr, mantissa, hu]
  · -- fewer than two places: the coefficient is widened while it stays within 96 bits
    obtain ⟨h1, h2, h3⟩ := widen_spec d.coefficient (2 - d.scale)
    have hr : d.rescale 2 = ⟨d.negative, (widen d.coefficient (2 - d.scale)).1,
        d.scale + (widen d.coefficient (2 - d.scale)).2⟩ := by
      simp [rescale, hz, hs]
    rw [if_pos (by omega)] at hu
    rcases h3 with h3 | h3
    · left
      rw [← h3, ← h1] at hu
      simp [hr, mantissa, hu]
    · -- it stopped short, so the widened coefficient passes `2 ^ 96 / 10`, and the cents are
      -- at least the widened coefficient
      right
      have hbound : (mantissaBound : Nat) = 79228162514264337593543950336 := rfl
      have hmore : (widen d.coefficient (2 - d.scale)).1 ≤ u := by
        rw [← hu, h1]
        exact Nat.mul_le_mul_left _ (Nat.le_of_dvd (pow10_pos _) (pow10_dvd_pow10 h2))
      refine ⟨holds_signed_eq_false _ (by omega), ?_⟩
      rw [hr]
      exact holds_signed_eq_false d.negative (n := (widen d.coefficient (2 - d.scale)).1)
        (by omega)

/-- The conversion is the library's: normalize to count the places, bring the amount to two
places, and take its signed coefficient if it fits in 64 bits. -/
theorem toCents_eq_rescaled (d : Decimal) :
    d.toCents =
      if 2 < d.normalize.scale then .error (.tooPrecise d)
      else if Width.i64.holds (d.rescale 2).mantissa then .ok (d.rescale 2).mantissa
      else .error (.outOfRange d) := by
  unfold toCents
  by_cases hn : 2 < d.normalize.scale
  · simp [hn]
  · rw [if_neg hn, if_neg hn]
    dsimp only
    generalize hu : (if d.scale ≤ 2 then d.coefficient * pow10 (2 - d.scale)
      else d.coefficient / pow10 (d.scale - 2)) = u
    rcases rescale_two_mantissa (by omega) hu with h | ⟨h1, h2⟩
    · rw [h]
    · simp only [h1, h2, Bool.false_eq_true, if_false]

end Decimal

/-- An amount converts to exactly its cents: a hundred times its value when that is a whole
number in the signed 64-bit range, "out of range" when it is a whole number beyond it, and "too
precise" when it is no whole number. Cents convert back to a decimal with two places and the
value of the cents over a hundred, which converts to the same cents exactly when they fit in
64 bits. -/
theorem cents_exact (d : Decimal) (u : ℤ) :
    ((∀ n : ℤ, d.toCents = .ok n ↔ 100 * d.value = n ∧ Width.i64.holds n = true) ∧
      (d.toCents = .error (.outOfRange d) ↔
        ∃ n : ℤ, 100 * d.value = n ∧ Width.i64.holds n = false) ∧
      (d.toCents = .error (.tooPrecise d) ↔ ∀ n : ℤ, 100 * d.value ≠ n)) ∧
    (Decimal.ofCents u).scale = 2 ∧ (Decimal.ofCents u).value = u / 100 ∧
      ((Decimal.ofCents u).toCents = .ok u ↔ Width.i64.holds u = true) :=
  ⟨⟨Decimal.toCents_eq_ok_iff d, Decimal.toCents_eq_outOfRange_iff d,
      Decimal.toCents_eq_tooPrecise_iff d⟩,
    Decimal.ofCents_scale u, Decimal.value_ofCents u, Decimal.toCents_ofCents_eq_ok_iff u⟩

end Remit
