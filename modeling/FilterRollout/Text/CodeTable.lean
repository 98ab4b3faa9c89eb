/-! Sets of characters written as ranges of code points, the form in which character properties are published. -/

namespace FilterRollout.Text

/-- Inclusive ranges of code points in ascending order. -/
abbrev CodeTable := List (Nat × Nat)

/-- Whether the code point of `c` lies in one of the ranges. -/
def CodeTable.contains (table : CodeTable) (c : Char) : Bool :=
  table.any fun range => range.1 ≤ c.toNat && c.toNat ≤ range.2

end FilterRollout.Text
