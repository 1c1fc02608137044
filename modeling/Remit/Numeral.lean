/-!
# Integer numerals

Reading a whole number of a fixed width from text. One optional sign comes first (a
minus only for a signed width), then digits of the radix; the digits are read from
left to right and the first fault met decides the error, so `99999999999x` is too
large for 32 bits before its `x` is seen.

The main statement: `read_eq_error_empty_iff` (only the empty text is refused as
empty).
-/

set_option autoImplicit false

namespace Remit

/-- Why a text is not a number of the wanted width. -/
inductive NumeralError where
  /-- The text is empty. -/
  | empty
  /-- A character is not a digit of the radix, or a sign stands alone. -/
  | invalidDigit
  /-- The value is above the largest number of the width. -/
  | tooLarge
  /-- The value is below the smallest number of the width. -/
  | tooSmall
  deriving DecidableEq, Repr

namespace NumeralError

/-- The sentence that describes the error. -/
def message : NumeralError → String
  | .empty => "cannot parse integer from empty string"
  | .invalidDigit => "invalid digit found in string"
  | .tooLarge => "number too large to fit in target type"
  | .tooSmall => "number too small to fit in target type"

end NumeralError

/-- The range of integers that a fixed-width integer type holds, both ends included. -/
structure Width where
  lo : Int
  hi : Int
  deriving DecidableEq, Repr

namespace Width

/-- Unsigned 32-bit numbers: from `0` to `2 ^ 32 - 1`. -/
def u32 : Width := ⟨0, 4294967295⟩

/-- Unsigned 64-bit numbers: from `0` to `2 ^ 64 - 1`. -/
def u64 : Width := ⟨0, 18446744073709551615⟩

/-- Signed 64-bit numbers, in two's complement: from `-2 ^ 63` to `2 ^ 63 - 1`. -/
def i64 : Width := ⟨-9223372036854775808, 9223372036854775807⟩

/-- Whether a number lies in the width. -/
def holds (w : Width) (n : Int) : Bool :=
  w.lo ≤ n && n ≤ w.hi

end Width

/-- The value of a character as a digit of the radix (at most sixteen), if it is one.
Letters count in either case. -/
def digitValue (radix : Nat) (c : Char) : Option Nat :=
  let v : Option Nat :=
    if '0' ≤ c ∧ c ≤ '9' then some (c.toNat - '0'.toNat)
    else if 'a' ≤ c ∧ c ≤ 'f' then some (c.toNat - 'a'.toNat + 10)
    else if 'A' ≤ c ∧ c ≤ 'F' then some (c.toNat - 'A'.toNat + 10)
    else none
  match v with
  | some d => if d < radix then some d else none
  | none => none

/-- Reads digits onto the magnitude `acc`, for a negative number when `neg` holds; the
first character that is no digit, or the first digit that takes the value out of the
width, ends the reading with that error. -/
def readDigits (w : Width) (radix : Nat) (neg : Bool) (acc : Nat) :
    List Char → Except NumeralError Int
  | [] => .ok (if neg then -(acc : Int) else acc)
  | c :: rest =>
    match digitValue radix c with
    | none => .error .invalidDigit
    | some d =>
      let acc' := acc * radix + d
      if neg then
        if -(acc' : Int) < w.lo then .error .tooSmall else readDigits w radix neg acc' rest
      else
        if w.hi < (acc' : Int) then .error .tooLarge else readDigits w radix neg acc' rest

namespace Width

/-- Reads a number of the width in the radix. A leading `+` is allowed, a leading `-`
only for a width with negative numbers; a sign with no digits after it is an invalid
digit (`src/src/csv.rs:12-15`). -/
def read (w : Width) (radix : Nat) (s : String) : Except NumeralError Int :=
  match s.toList with
  | [] => .error .empty
  | ['+'] => .error .invalidDigit
  | ['-'] => .error .invalidDigit
  | '+' :: rest => readDigits w radix false 0 rest
  | '-' :: rest =>
    if w.lo < 0 then readDigits w radix true 0 rest
    else readDigits w radix false 0 ('-' :: rest)
  | cs => readDigits w radix false 0 cs

end Width

/-- Reading only the empty text reports the empty error. -/
theorem read_eq_error_empty_iff (w : Width) (radix : Nat) (s : String) :
    w.read radix s = .error .empty ↔ s = "" := by
  have hdig : ∀ (neg : Bool) (acc : Nat) (cs : List Char),
      readDigits w radix neg acc cs ≠ .error .empty := by
    intro neg acc cs
    induction cs generalizing acc with
    | nil => simp [readDigits]
    | cons c rest ih =>
      simp only [readDigits]
      split
      · simp
      · split
        · split
          · simp
          · exact ih _
        · split
          · simp
          · exact ih _
  constructor
  · intro h
    unfold Width.read at h
    split at h
    · next hs => exact String.toList_eq_nil_iff.mp hs
    · simp at h
    · simp at h
    · exact absurd h (hdig _ _ _)
    · split at h
      · exact absurd h (hdig _ _ _)
      · exact absurd h (hdig _ _ _)
    · exact absurd h (hdig _ _ _)
  · intro h
    subst h
    rfl

end Remit
