/-!
# Exact decimals

A decimal is a sign, a coefficient and a scale: its value is `coefficient / 10 ^ scale`,
negated when the sign is set. The scale belongs to the decimal and not only to its value:
`1.50` and `1.5` are the same number, yet each prints with the places it was written
with. The sign belongs to it as well: a small negative number rounded to fewer places can
become a zero that keeps its minus sign, and that zero prints as `-0.0`. Decimals built
from digits with `ofParts` never carry the sign on a zero.

Coefficients read from text stay below `2 ^ 96` and scales at most 28; the bounds are
checked where decimals are made, and nothing here relies on them.

Printing writes the coefficient's digits with a point `scale` places from the right,
padding with zeros on the left, after a minus sign when the sign is set.

The main statements: `normalize_coefficient` (dropping trailing zeros keeps the value),
`normalize_scale_le` (it never adds places) and `mantissa_ofInt` (a signed integer and a
scale give back that integer as the mantissa).
-/

set_option autoImplicit false

namespace Remit

/-- A decimal number: the coefficient scaled down by `10 ^ scale`, negated when
`negative` is set (`src/src/domain/props.rs:26-30`). -/
structure Decimal where
  negative : Bool
  coefficient : Nat
  scale : Nat
  deriving DecidableEq, Repr, Inhabited

namespace Decimal

/-- Coefficients stay below this bound, `2 ^ 96`: they have 96 bits. -/
def mantissaBound : Nat := 79228162514264337593543950336

/-- The largest number of places a decimal has. -/
def maxScale : Nat := 28

/-- The power `10 ^ n`, by recursion on `n`. -/
def pow10 : Nat → Nat
  | 0 => 1
  | n + 1 => pow10 n * 10

/-- Every power of ten is positive. -/
theorem pow10_pos (n : Nat) : 0 < pow10 n := by
  induction n with
  | zero => decide
  | succ n ih => simp only [pow10]; omega

/-- A decimal from its sign, coefficient and scale; a zero coefficient drops the sign. -/
def ofParts (negative : Bool) (coefficient scale : Nat) : Decimal :=
  ⟨negative && coefficient != 0, coefficient, scale⟩

/-- The decimal with this signed mantissa and scale. -/
def ofInt (m : Int) (scale : Nat) : Decimal :=
  ⟨decide (m < 0), m.natAbs, scale⟩

/-- The signed coefficient. -/
def mantissa (d : Decimal) : Int :=
  if d.negative then -(d.coefficient : Int) else d.coefficient

/-- A decimal built from a whole number and a scale has that number as its mantissa. -/
theorem mantissa_ofInt (m : Int) (scale : Nat) : (ofInt m scale).mantissa = m := by
  simp only [mantissa, ofInt]
  by_cases h : m < 0
  · simp only [h, decide_true, if_true]
    omega
  · simp only [h, decide_false, Bool.false_eq_true, if_false]
    omega

/-- Zero, with no places. -/
def zero : Decimal := ⟨false, 0, 0⟩

/-- Whether the decimal is above zero; a zero with a sign is not. -/
def isPositive (d : Decimal) : Bool := !d.negative && decide (0 < d.coefficient)

/-- The decimal digits of a natural number, most significant first, and none for zero. -/
def digitsOf (n : Nat) : List Char :=
  if n = 0 then [] else Nat.toDigits 10 n

/-- The printed form: the digits of the coefficient with a point `scale` places from the
right, at least one digit before the point, zeros padded on the left, and a minus sign
when the sign is set. -/
def render (d : Decimal) : String :=
  let ds := digitsOf d.coefficient
  let padded := List.replicate (d.scale - ds.length) '0' ++ ds
  let cut := padded.length - d.scale
  let whole := padded.take cut
  let frac := padded.drop cut
  let body := (if whole.isEmpty then ['0'] else whole) ++
    (if d.scale = 0 then [] else '.' :: frac)
  String.ofList ((if d.negative then ['-'] else []) ++ body)

instance : ToString Decimal := ⟨render⟩

/-- Drops trailing zero digits of `m` while places remain, one place per zero. -/
def stripZeros (m : Nat) : Nat → Nat × Nat
  | 0 => (m, 0)
  | s + 1 => if m % 10 = 0 then stripZeros (m / 10) s else (m, s + 1)

/-- The same number with no trailing zeros after the point; a zero loses its sign. -/
def normalize (d : Decimal) : Decimal :=
  let p := stripZeros d.coefficient d.scale
  ofParts d.negative p.1 p.2

/-- Drops `k` places, rounding on the first digit dropped: five and up round the
coefficient up, away from zero. The sign stays, also on a zero. -/
def dropPlaces (d : Decimal) (k : Nat) : Decimal :=
  match k with
  | 0 => d
  | k + 1 =>
    let q := d.coefficient / pow10 k
    ⟨d.negative, q / 10 + (if 5 ≤ q % 10 then 1 else 0), d.scale - (k + 1)⟩

/-- Stripping trailing zeros never raises the scale. -/
theorem stripZeros_snd_le (m : Nat) (s : Nat) : (stripZeros m s).2 ≤ s := by
  induction s generalizing m with
  | zero => simp [stripZeros]
  | succ s ih =>
    simp only [stripZeros]
    split
    · exact Nat.le_succ_of_le (ih _)
    · exact Nat.le_refl _

/-- Stripping trailing zeros keeps the value: the stripped coefficient and scale stand for the same
number. -/
theorem stripZeros_value (m : Nat) (s : Nat) :
    (stripZeros m s).1 * pow10 s = m * pow10 (stripZeros m s).2 := by
  induction s generalizing m with
  | zero => simp [stripZeros]
  | succ s ih =>
    simp only [stripZeros]
    split
    · next h =>
      have hm : m = m / 10 * 10 := (Nat.div_mul_cancel (Nat.dvd_of_mod_eq_zero h)).symm
      rw [show pow10 (s + 1) = pow10 s * 10 from rfl, ← Nat.mul_assoc, ih (m / 10)]
      generalize (stripZeros (m / 10) s).2 = k
      calc m / 10 * pow10 k * 10 = m / 10 * 10 * pow10 k := by
            rw [Nat.mul_assoc, Nat.mul_comm (pow10 k) 10, ← Nat.mul_assoc]
        _ = m * pow10 k := by rw [← hm]
    · rfl

/-- Normalizing never adds places. -/
theorem normalize_scale_le (d : Decimal) : d.normalize.scale ≤ d.scale :=
  stripZeros_snd_le d.coefficient d.scale

/-- Normalizing keeps the value: the coefficients agree once brought to the same scale. -/
theorem normalize_coefficient (d : Decimal) :
    d.normalize.coefficient * pow10 d.scale = d.coefficient * pow10 d.normalize.scale :=
  stripZeros_value d.coefficient d.scale

end Decimal

end Remit
