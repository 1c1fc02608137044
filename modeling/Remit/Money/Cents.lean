import Remit.Fault
import Remit.Numeral

/-!
# Cents

The ledger keeps money as whole cents in a signed 64-bit integer. An amount converts
to cents when it has no non-zero digit past the second place and its cents fit in 64
bits; trailing zeros past the cents (`1.500`) do not count. Cents convert back to a
decimal with exactly two places.

The main statements: `toCents_ofCents` (cents in range read back as themselves) and
`ofCents_scale`.
-/

set_option autoImplicit false

namespace Remit

namespace Decimal

/-- A number of cents as a decimal with two places (`src/src/domain/props.rs:35-37`). -/
def ofCents (c : Int) : Decimal := ofInt c 2

/-- The amount in cents, exactly: a non-zero digit past the cents is too precise, and
cents outside the signed 64-bit range are out of range (`src/src/domain/props.rs:41-54`). -/
def toCents (d : Decimal) : Except Fault Int :=
  if 2 < d.normalize.scale then .error (.tooPrecise d)
  else
    let units := if d.scale ≤ 2 then d.coefficient * pow10 (2 - d.scale)
      else d.coefficient / pow10 (d.scale - 2)
    let c : Int := if d.negative then -(units : Int) else units
    if Width.i64.holds c then .ok c else .error (.outOfRange d)

/-- An amount a transfer may carry: above zero, and convertible to cents
(`src/src/domain/transfer/aggregate.rs:167-176`). -/
def transferCents (d : Decimal) : Except Fault Int :=
  if d.isPositive then d.toCents else .error (.notPositive d)

/-- A number of cents is written with exactly two places. -/
theorem ofCents_scale (c : Int) : (ofCents c).scale = 2 := rfl

/-- The normal form of a number of cents keeps at most two places. -/
theorem normalize_scale_ofCents_le (c : Int) : (ofCents c).normalize.scale ≤ 2 :=
  normalize_scale_le (ofCents c)

/-- Cents in the 64-bit range convert to a decimal and back unchanged. -/
theorem toCents_ofCents (c : Int) (h : Width.i64.holds c = true) :
    (ofCents c).toCents = .ok c := by
  have hn : ¬ 2 < (ofCents c).normalize.scale :=
    Nat.not_lt.mpr (normalize_scale_ofCents_le c)
  have hc : (if decide (c < 0) = true then -((c.natAbs * 1 : Nat) : Int)
      else ((c.natAbs * 1 : Nat) : Int)) = c := by
    by_cases hneg : c < 0
    · simp only [hneg, decide_true, if_true]
      omega
    · simp only [hneg, decide_false, Bool.false_eq_true, if_false]
      omega
  unfold toCents
  rw [if_neg hn]
  simp only [ofCents, ofInt, pow10, Nat.le_refl, if_true, Nat.sub_self]
  rw [hc, h]
  rfl

end Decimal

end Remit
