/-!
# Ranges of characters

A property of characters is a list of tables, each a list of ranges of code points, both ends
included.
-/

namespace Provision

/-- Whether the code point of a character lies in a range of one of the tables. -/
def inRanges (tables : List (List (Nat × Nat))) (c : Char) : Bool :=
  tables.any fun table => table.any fun range => range.1 ≤ c.toNat && c.toNat ≤ range.2

end Provision
