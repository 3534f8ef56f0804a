/-!
Sets of code points given as ascending closed ranges. The character classes that need more than a
few comparisons are stored in this form.
-/

namespace PlatformGate.Text

abbrev RangeTable := List (Nat × Nat)

namespace RangeTable

def covers (table : RangeTable) (point : Nat) : Bool :=
  table.any fun range => range.1 ≤ point && point ≤ range.2

theorem covers_iff {table : RangeTable} {point : Nat} :
    table.covers point = true ↔ ∃ range ∈ table, range.1 ≤ point ∧ point ≤ range.2 := by
  simp [covers, List.any_eq_true]

end RangeTable

end PlatformGate.Text
