/-! Sets of code points written as increasing lists of closed ranges. -/

namespace Phrasebook.Unicode

/-- Whether one of the ranges, which stand in increasing order, holds the code point. -/
def inRanges (n : Nat) : List (Nat × Nat) → Bool
  | [] => false
  | (low, high) :: rest =>
    -- Later ranges only start higher, so a code point below this one is in none of them.
    if n < low then false else n ≤ high || inRanges n rest

/-- A code point found by the search lies in one of the ranges. -/
theorem exists_of_inRanges {n : Nat} {ranges : List (Nat × Nat)} (found : inRanges n ranges = true) :
    ∃ range ∈ ranges, range.1 ≤ n ∧ n ≤ range.2 := by
  -- The search stops at the first range that holds the code point.
  induction ranges with
  | nil => simp [inRanges] at found
  | cons range rest ih =>
    rw [inRanges] at found
    split at found
    · simp at found
    · rcases Bool.or_eq_true _ _ ▸ found with inside | later
      · exact ⟨range, by simp, by omega, by simpa using inside⟩
      · obtain ⟨other, member, bounds⟩ := ih later
        exact ⟨other, by simp [member], bounds⟩

end Phrasebook.Unicode
