import Remit.Money.Decimal

/-!
# Reading decimals

The reader turns text such as `-1_000.50` into a decimal, keeping the places written.
Its grammar: an optional sign as the very first character, digits with at most one
point among them, and `_` anywhere after the first digit as a separator that is skipped.
Anything else is an unknown character. Texts with an exponent are read elsewhere, by
`Decimal.parse`; this reader knows no exponent.

Coefficients have 96 bits and at most 28 places. A text shorter than 18 bytes reaches
neither bound and is read digit by digit. A longer text is read in two stages:

* In the narrow stage the coefficient is below `narrowLimit`, which leaves room for one
  more digit in 64 bits. Once 28 places are read, the character right after the last
  place decides a rounding, a separator there counting as a zero: five and up round away
  from zero. The rest of the text must still be digits and separators.
* Once the coefficient reaches `narrowLimit`, the wide stage reads the remaining
  characters. Once 28 places are read, separators are skipped and the first digit after
  them decides the rounding. After the point, a digit that would overflow the coefficient
  decides the rounding itself, and a rounding that overflows with no place to give up is
  the error even when the text goes on badly; before the point such a digit is an error.
  Here too the rest of the text must be digits and separators.

The main statements: `readPlain_empty` (the empty text is refused as empty),
`readTail_nil` and `roundOn_below` (a dropped digit below five keeps the coefficient).
-/

set_option autoImplicit false

namespace Remit

/-- Why a text is not a decimal. -/
inductive DecimalError where
  /-- The text is empty. -/
  | empty
  /-- A character that is no digit, sign, point or separator, or a sign after the start. -/
  | unknownChar
  /-- No digit at all, as in `-` or `.`. -/
  | noDigits
  /-- A second point. -/
  | twoPoints
  /-- The whole part has more digits than the coefficient holds. -/
  | tooManyDigits
  /-- A separator before the first digit. -/
  | leadingSeparator
  /-- Rounding up carried the coefficient past its bound with no place left to drop. -/
  | roundingOverflow
  /-- The text is neither a plain decimal nor one with an exponent. -/
  | unreadable
  /-- An exponent asks for more places than a decimal has. -/
  | scaleTooLarge (scale : Nat)
  /-- An exponent makes the number larger than a coefficient holds. -/
  | tooLarge
  deriving DecidableEq, Repr

namespace DecimalError

/-- The sentence that describes the error. -/
def message : DecimalError → String
  | .empty => "Invalid decimal: empty"
  | .unknownChar => "Invalid decimal: unknown character"
  | .noDigits => "Invalid decimal: no digits found"
  | .twoPoints => "Invalid decimal: two decimal points"
  | .tooManyDigits => "Invalid decimal: overflow from too many digits"
  | .leadingSeparator => "Invalid decimal: must start lead with a number"
  | .roundingOverflow => "Invalid decimal: overflow from mantissa after rounding"
  | .unreadable => "Failed to parse"
  | .scaleTooLarge s => "Scale exceeds the maximum precision allowed: " ++ toString s ++ " > 28"
  | .tooLarge => "Number exceeds maximum value that can be represented."

/-- The error for a character that the grammar has no place for. -/
def ofStray (c : Char) : DecimalError :=
  if c = '.' then .twoPoints
  else if c = '_' then .leadingSeparator
  else .unknownChar

end DecimalError

namespace Decimal

/-- The value of an ASCII digit. -/
def digitOf (c : Char) : Option Nat :=
  if c.isDigit then some (c.toNat - '0'.toNat) else none

/-- Reads the text after the last place kept: digits and separators only. The result is
the digit that decides the rounding, `decided` if it is known already and otherwise the
first digit met. -/
def readTail (decided : Option Nat) : List Char → Except DecimalError (Option Nat)
  | [] => .ok decided
  | c :: rest =>
    match digitOf c with
    | some d => readTail (some (decided.getD d)) rest
    | none => if c = '_' then readTail decided rest else .error (DecimalError.ofStray c)

/-- Rounds the coefficient `m` on the first dropped digit. When rounding up overflows
the coefficient, one more place is given up; with none left it is an error. -/
def roundOn (neg : Bool) (m scale : Nat) (digit : Nat) : Except DecimalError Decimal :=
  if 5 ≤ digit then
    if mantissaBound ≤ m + 1 then
      if scale = 0 then .error .roundingOverflow
      else .ok (ofParts neg ((m + 1 + 4) / 10) (scale - 1))
    else .ok (ofParts neg (m + 1) scale)
  else .ok (ofParts neg m scale)

/-- Coefficients from this bound on may overflow 64 bits with one more digit; a long
text is then read by `readWide`. -/
def narrowLimit : Nat := 1844674407370954906

/-- The digit that a character decides a rounding with: a separator counts as a zero. -/
def roundingDigit (c : Char) : Except DecimalError Nat :=
  match digitOf c with
  | some d => .ok d
  | none => if c = '_' then .ok 0 else .error (DecimalError.ofStray c)

/-- Reads the rest of a long text once the coefficient `m` has outgrown the narrow stage:
`point` tells whether the point is read and `scale` counts the places. -/
def readWide (point neg : Bool) (m scale : Nat) : List Char → Except DecimalError Decimal
  | [] => .ok (ofParts neg m scale)
  | c :: rest =>
    match digitOf c with
    | some d =>
      let m' := m * 10 + d
      if mantissaBound ≤ m' then
        if point then roundOn neg m scale d >>= fun v => readTail none rest >>= fun _ => .ok v
        else .error .tooManyDigits
      else
        let scale' := if point then scale + 1 else scale
        if point && maxScale ≤ scale' then
          readTail none rest >>= fun r => roundOn neg m' scale' (r.getD 0)
        else readWide point neg m' scale' rest
    | none =>
      if c = '.' && !point then readWide true neg m scale rest
      else if c = '_' then readWide point neg m scale rest
      else .error (DecimalError.ofStray c)

/-- What the reading has gathered so far. -/
structure Scan where
  neg : Bool := false
  point : Bool := false
  seen : Bool := false
  digits : Nat := 0
  scale : Nat := 0

/-- Reads the characters of a plain decimal in the narrow stage; `long` tells whether the
text has 18 bytes or more, and `first` whether `c` is the text's first character, where a
sign may stand. -/
def readFrom (long first : Bool) (st : Scan) : List Char → Except DecimalError Decimal
  | [] => if st.seen then .ok (ofParts st.neg st.digits st.scale) else .error .noDigits
  | c :: rest =>
    match digitOf c with
    | some d =>
      let m := st.digits * 10 + d
      let scale := if st.point then st.scale + 1 else st.scale
      match rest with
      | [] => .ok (ofParts st.neg m scale)
      | n :: more =>
        if st.point && long && maxScale ≤ scale then
          roundingDigit n >>= fun r => readTail (some r) more >>= fun _ => roundOn st.neg m scale r
        else if long && narrowLimit ≤ m then readWide st.point st.neg m scale rest
        else readFrom long false { st with seen := true, digits := m, scale } rest
    | none =>
      if c = '.' && !st.point then readFrom long false { st with point := true } rest
      else if c = '-' && first then readFrom long false { st with neg := true } rest
      else if c = '+' && first then readFrom long false st rest
      else if c = '_' && st.seen then readFrom long false st rest
      else .error (DecimalError.ofStray c)

/-- Reads a plain decimal, written without an exponent. -/
def readPlain (s : String) : Except DecimalError Decimal :=
  match s.toList with
  | [] => .error .empty
  | cs => readFrom (18 ≤ s.utf8ByteSize) true {} cs

/-- The empty text is refused as empty. -/
theorem readPlain_empty : readPlain "" = .error .empty := rfl

/-- With nothing after the last place kept, the rounding digit is the one already known. -/
theorem readTail_nil (decided : Option Nat) : readTail decided [] = .ok decided := rfl

/-- A dropped digit below five keeps the coefficient and the scale. -/
theorem roundOn_below (neg : Bool) (m scale digit : Nat) (h : digit < 5) :
    roundOn neg m scale digit = .ok (ofParts neg m scale) := by
  simp [roundOn, Nat.not_le.mpr h]

end Decimal

end Remit
