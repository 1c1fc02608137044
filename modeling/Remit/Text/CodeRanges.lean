/-!
# Sets of code points

A property of characters that a standard gives by a table is kept here as a list of
ranges of code points, each with both ends included, in increasing order and apart from
one another. Membership is a search through the ranges.

The main statements: `inRanges_cons` (the search looks at the first range, then the rest)
and `inRanges_eq_false` (a code point below every range is in none).
-/

set_option autoImplicit false

namespace Remit.Text

/-- Whether the code point lies in one of the ranges, both ends included. -/
def inRanges (rs : List (Nat × Nat)) (n : Nat) : Bool :=
  rs.any fun r => r.1 ≤ n && n ≤ r.2

/-- No code point lies in an empty table. -/
theorem inRanges_nil (n : Nat) : inRanges [] n = false := rfl

/-- A code point lies in a table exactly when it lies in its first range or in the rest. -/
theorem inRanges_cons (r : Nat × Nat) (rs : List (Nat × Nat)) (n : Nat) :
    inRanges (r :: rs) n = ((r.1 ≤ n && n ≤ r.2) || inRanges rs n) := by
  simp [inRanges]

/-- A code point below the start of every range is in none of them. -/
theorem inRanges_eq_false (rs : List (Nat × Nat)) (n : Nat) (h : ∀ r ∈ rs, n < r.1) :
    inRanges rs n = false := by
  induction rs with
  | nil => rfl
  | cons r rest ih =>
    rw [inRanges_cons, ih (fun x hx => h x (by simp [hx]))]
    have hr := h r (by simp)
    simp only [Bool.or_false, Bool.and_eq_false_iff, decide_eq_false_iff_not, Nat.not_le]
    omega

end Remit.Text
