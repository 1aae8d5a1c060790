/-! # Sets of code points given by ranges

`CodeRanges` lists closed ranges, as the tables of character properties do; `CodeRanges.has` is
membership.
-/

namespace LexicalRules.Text
set_option autoImplicit false

/-- Closed ranges of code points, least and greatest member of each. -/
abbrev CodeRanges := List (Nat × Nat)

def CodeRanges.has (rs : CodeRanges) (n : Nat) : Bool :=
  rs.any fun r => r.1 ≤ n && n ≤ r.2

end LexicalRules.Text
