/-!
# Sets of characters

A set is written as the increasing list of the code points at which membership changes: a
character belongs to it when an odd number of them lie at or below it. The tables of this folder
have this form.
-/

namespace Stencil

/-- A set of characters, given by the code points at which membership changes. -/
structure CharSet where
  boundaries : List Nat

namespace CharSet

/-- Whether `n` belongs to the set, after some boundaries that leave it `inside` or not. -/
def behind (n : Nat) (inside : Bool) : List Nat → Bool
  | [] => inside
  | boundary :: rest => if boundary ≤ n then behind n (!inside) rest else inside

/-- Whether `c` lies behind an odd number of boundaries. -/
def contains (s : CharSet) (c : Char) : Bool := behind c.toNat false s.boundaries

theorem behind_eq (n : Nat) (inside : Bool) (boundaries : List Nat) :
    behind n inside boundaries =
      (inside != ((boundaries.takeWhile (· ≤ n)).length % 2 == 1)) := by
  induction boundaries generalizing inside with
  | nil => cases inside <;> rfl
  | cons boundary rest ih =>
    by_cases h : boundary ≤ n
    · rw [behind, if_pos h, ih]
      rcases Nat.mod_two_eq_zero_or_one (rest.takeWhile (· ≤ n)).length with e | e <;>
        cases inside <;> simp [h, e, Nat.add_mod]
    · cases inside <;> simp [behind, h]

/-- Membership counts the boundaries at or below a character. -/
theorem contains_eq (s : CharSet) (c : Char) :
    s.contains c = ((s.boundaries.takeWhile (· ≤ c.toNat)).length % 2 == 1) := by
  simp [contains, behind_eq]

end CharSet

end Stencil
