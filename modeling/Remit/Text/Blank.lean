/-!
# Blank characters

The characters of Unicode's `White_Space` property, and trimming by them. Core's
`Char.isWhitespace` knows only a handful of ASCII characters; text read from command
files and from settings is trimmed by the whole property, so a no-break space or an
ideographic space around a value is dropped as well.

The main statements: `isBlank_of_isWhitespace` (the property contains core's class) and
`trimBlank_eq_self` (a text with no blank at either end is its own trim).
-/

set_option autoImplicit false

namespace Remit.Text

/-- A character of Unicode's `White_Space` property: the ASCII tab, line feed, vertical
tab, form feed, carriage return and space, next line, no-break space, ogham space mark,
the spaces from en quad to hair space, line and paragraph separator, narrow no-break
space, medium mathematical space and ideographic space. -/
def isBlank (c : Char) : Bool :=
  let n := c.toNat
  (0x09 ≤ n && n ≤ 0x0D) || n == 0x20 || n == 0x85 || n == 0xA0 || n == 0x1680 ||
    (0x2000 ≤ n && n ≤ 0x200A) || n == 0x2028 || n == 0x2029 || n == 0x202F ||
    n == 0x205F || n == 0x3000

/-- The text without its leading and trailing blank characters
(`src/src/csv.rs:34, src/src/config.rs:63`). -/
def trimBlank (s : String) : String :=
  String.ofList ((s.toList.dropWhile isBlank).reverse.dropWhile isBlank).reverse

/-- Every character that core counts as whitespace is blank. -/
theorem isBlank_of_isWhitespace (c : Char) (h : c.isWhitespace = true) : isBlank c = true := by
  simp only [Char.isWhitespace, Bool.or_eq_true, decide_eq_true_eq] at h
  have hv : c.toNat = c.val.toNat := rfl
  rcases h with ((h | h) | h) | h <;>
    · subst h
      decide

/-- Trimming a list of characters that neither starts nor ends with a blank keeps it. -/
theorem trimBlank_eq_self (s : String)
    (hfirst : ∀ c, s.toList.head? = some c → isBlank c = false)
    (hlast : ∀ c, s.toList.getLast? = some c → isBlank c = false) :
    trimBlank s = s := by
  unfold trimBlank
  cases hs : s.toList with
  | nil =>
    simp [← String.toList_inj, hs]
  | cons a rest =>
    have ha : isBlank a = false := hfirst a (by simp [hs])
    have hdrop : (a :: rest).dropWhile isBlank = a :: rest := by
      simp [ha]
    rw [hdrop]
    cases hr : (a :: rest).reverse with
    | nil => simp at hr
    | cons b tail =>
      have hb : (a :: rest).getLast? = some b := by
        rw [List.getLast?_eq_head?_reverse, hr]
        rfl
      have hbl : isBlank b = false := hlast b (by rw [hs]; exact hb)
      have hdrop2 : (b :: tail).dropWhile isBlank = b :: tail := by
        simp [hbl]
      rw [hdrop2, ← hr, List.reverse_reverse, ← hs, String.ofList_toList]

end Remit.Text
