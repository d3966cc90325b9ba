/-!
# Classes of characters given by ranges

The larger character classes of Unicode are tables of code point ranges.  This
file says what it means to be in such a table.
-/

namespace PaperHtml

/-- A table of code point ranges, each with its first and its last code point. -/
abbrev RangeTable := List (Nat × Nat)

/-- Whether a character lies in one of the ranges. -/
def RangeTable.mem (table : RangeTable) (c : Char) : Bool :=
  table.any fun range => range.1 ≤ c.toNat && c.toNat ≤ range.2

end PaperHtml
