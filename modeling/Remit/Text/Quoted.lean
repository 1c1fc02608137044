import Remit.Text.GraphemeExtend
import Remit.Text.Printable

/-!
# Quoted text

How a raw text is shown inside an error message: between double quotes, with the
quote and the backslash escaped, the tab, carriage return, line feed and NUL written
as `\t`, `\r`, `\n`, `\0`, and every character that does not print on its own or that
extends the character before it written as `\u{hex}`.

The main statements: `quote_of_plain` (a text of plain printable ASCII is shown as is,
between quotes) and `quoteChar_ne_nil` (every character is shown by at least one
character).
-/

set_option autoImplicit false

namespace Remit.Text

/-- A character that is written as `\u{hex}` rather than as itself: one that extends the
character before it, which would otherwise attach to that character or to the quote, or
one that does not print. -/
def isHidden (c : Char) : Bool :=
  isGraphemeExtend c || !isPrintable c

/-- The lowercase hexadecimal digits of a number, without leading zeros. -/
def hexDigits (n : Nat) : List Char :=
  Nat.toDigits 16 n

/-- How one character is shown between the quotes. -/
def quoteChar (c : Char) : List Char :=
  if c = '\t' then ['\\', 't']
  else if c = '\r' then ['\\', 'r']
  else if c = '\n' then ['\\', 'n']
  else if c = '\\' then ['\\', '\\']
  else if c = '"' then ['\\', '"']
  else if c = '\x00' then ['\\', '0']
  else if isHidden c then ['\\', 'u', '\x7b'] ++ hexDigits c.toNat ++ ['\x7d']
  else [c]

/-- The text between double quotes, each character shown by `quoteChar` (`src/src/config.rs:65`). -/
def quote (s : String) : String :=
  String.ofList ('"' :: (s.toList.flatMap quoteChar ++ ['"']))

/-- Every character is shown by at least one character. -/
theorem quoteChar_ne_nil (c : Char) : quoteChar c ≠ [] := by
  unfold quoteChar
  repeat' split
  all_goals simp

/-- A printable ASCII character other than the quote and the backslash is shown as
itself. -/
theorem quoteChar_of_plain (c : Char) (hlo : 0x20 ≤ c.toNat) (hhi : c.toNat < 0x7F)
    (hq : c ≠ '"') (hb : c ≠ '\\') : quoteChar c = [c] := by
  have ht : c ≠ '\t' := fun h => by subst h; simp at hlo
  have hr : c ≠ '\r' := fun h => by subst h; simp at hlo
  have hn : c ≠ '\n' := fun h => by subst h; simp at hlo
  have hz : c ≠ '\x00' := fun h => by subst h; simp at hlo
  have hh : isHidden c = false := by
    have hg := isGraphemeExtend_of_lt c (by omega)
    have hp := isPrintable_ascii c hhi
    simp only [isHidden, hg, hp, Bool.false_or, Bool.not_eq_false', decide_eq_true_eq]
    exact hlo
  simp [quoteChar, ht, hr, hn, hb, hq, hz, hh]

/-- A text of printable ASCII characters other than the quote and the backslash is
shown as itself between quotes. -/
theorem quote_of_plain (s : String)
    (h : ∀ c ∈ s.toList, 0x20 ≤ c.toNat ∧ c.toNat < 0x7F ∧ c ≠ '"' ∧ c ≠ '\\') :
    quote s = String.ofList ('"' :: (s.toList ++ ['"'])) := by
  unfold quote
  have hmap : s.toList.flatMap quoteChar = s.toList := by
    have key : ∀ l : List Char, (∀ c ∈ l, 0x20 ≤ c.toNat ∧ c.toNat < 0x7F ∧ c ≠ '"' ∧
        c ≠ '\\') → l.flatMap quoteChar = l := by
      intro l
      induction l with
      | nil => intro; rfl
      | cons a rest ih =>
        intro hl
        obtain ⟨h1, h2, h3, h4⟩ := hl a (by simp)
        rw [List.flatMap_cons, quoteChar_of_plain a h1 h2 h3 h4,
          ih (fun c hc => hl c (by simp [hc]))]
        rfl
    exact key _ h
  rw [hmap]

end Remit.Text
