import Remit.Money.Decimal.Reader
import Remit.Numeral

/-!
# Decimals with an exponent

A text such as `1.5e3` is a plain decimal, an `e` or `E`, and an exponent: an unsigned
32-bit number with an optional sign. A negative exponent adds places (`1.5e-2` is
`0.015`), and places past the 28th are dropped again with rounding; a non-negative one
first removes places and then, once none are left, makes the coefficient larger, so the
result of `1.5e3` is the whole number `1500`. Either way the exponent may not pass 28.

A text with an exponent mark is read with its exponent as a whole: the plain reader reads
the part before the mark. `Decimal.parse` reads amounts given in requests;
`Decimal.parseField` reads those of command files, where any failure of a text without an
exponent mark is reported as unreadable.

The main statements: `readExponent_no_e` (a text without an exponent mark is
unreadable this way), `parse_of_plain` (such a text is read plainly) and
`parseField_plain_error`.
-/

set_option autoImplicit false

namespace Remit

namespace Decimal

/-- The letters that start an exponent. -/
def isExponentMark (c : Char) : Bool := c == 'e' || c == 'E'

/-- The text before and after the first `e` or `E`, if there is one. -/
def splitExponent (s : String) : Option (String × String) :=
  match s.toList.dropWhile (fun c => !isExponentMark c) with
  | [] => none
  | _ :: after =>
    some (String.ofList (s.toList.takeWhile (fun c => !isExponentMark c)), String.ofList after)

/-- Moves the point of `d` by a non-negative exponent `e`. An exponent within the places
only removes places. A larger one must not exceed the largest scale, 28; the result is
then the whole number `coefficient * 10 ^ (e - scale)`, with no places, and too large when
it reaches the coefficient bound. -/
def shiftUp (d : Decimal) (e : Nat) : Except DecimalError Decimal :=
  if e ≤ d.scale then .ok { d with scale := d.scale - e }
  else if maxScale < e then .error (.scaleTooLarge e)
  else
    let c := d.coefficient * pow10 (e - d.scale)
    if mantissaBound ≤ c then .error .tooLarge else .ok (ofParts d.negative c 0)

/-- Moves the point of `d` left by `e` places, at most 28. Places beyond 28 in all are
dropped again with rounding, so the result has at most 28. -/
def shiftDown (d : Decimal) (e : Nat) : Except DecimalError Decimal :=
  if maxScale < e then .error (.scaleTooLarge e)
  else
    let s := d.scale + e
    if s ≤ maxScale then .ok { d with scale := s }
    else .ok (dropPlaces { d with scale := s } (s - maxScale))

/-- Reads a decimal written with an exponent. -/
def readExponent (s : String) : Except DecimalError Decimal :=
  match splitExponent s with
  | none => .error .unreadable
  | some (base, exp) =>
    match readPlain base with
    | .error e => .error e
    | .ok d =>
      match exp.toList with
      | '-' :: digits =>
        match Width.u32.read 10 (String.ofList digits) with
        | .error _ => .error .unreadable
        | .ok e => shiftDown d e.toNat
      | _ =>
        match Width.u32.read 10 exp with
        | .error _ => .error .unreadable
        | .ok e => shiftUp d e.toNat

/-- Reads an amount: a text with an exponent mark is read with its exponent, any other
as a plain decimal. -/
def parse (s : String) : Except DecimalError Decimal :=
  if s.toList.any isExponentMark then readExponent s else readPlain s

/-- Reads an amount as given in a command file: as `parse` does, but when that fails the
error reported is the exponent reading's, which for a text without an exponent mark is
that it could not be read (`src/src/csv.rs:16-17`). -/
def parseField (s : String) : Except DecimalError Decimal :=
  match parse s with
  | .ok d => .ok d
  | .error _ => readExponent s

/-- A text with no exponent mark cannot be read with an exponent. -/
theorem readExponent_no_e (s : String) (h : ∀ c ∈ s.toList, isExponentMark c = false) :
    readExponent s = .error .unreadable := by
  have hall : ∀ l : List Char, (∀ c ∈ l, isExponentMark c = false) →
      l.dropWhile (fun c => !isExponentMark c) = [] := by
    intro l hl
    induction l with
    | nil => rfl
    | cons a rest ih =>
      rw [List.dropWhile_cons]
      simp [hl a (by simp), ih (fun c hc => hl c (by simp [hc]))]
  have hdrop := hall s.toList h
  have hsplit : splitExponent s = none := by
    unfold splitExponent
    rw [hdrop]
  unfold readExponent
  rw [hsplit]

/-- A text with no exponent mark is read as a plain decimal. -/
theorem parse_of_plain (s : String) (h : ∀ c ∈ s.toList, isExponentMark c = false) :
    parse s = readPlain s := by
  have hany : s.toList.any isExponentMark = false := by
    rw [List.any_eq_false]
    intro c hc
    simp [h c hc]
  simp [parse, hany]

/-- In a command file, a text without an exponent mark that is not a plain decimal could
not be read. -/
theorem parseField_plain_error (s : String) (h : ∀ c ∈ s.toList, isExponentMark c = false)
    (e : DecimalError) (he : readPlain s = .error e) : parseField s = .error .unreadable := by
  simp [parseField, parse_of_plain s h, he, readExponent_no_e s h]

end Decimal

end Remit
