import LexicalRules.Token

/-! # Listings

One line per token: its kind, its lexeme between quotes, and where it starts and ends.
-/

namespace LexicalRules
set_option autoImplicit false

/-- The line of a token, line feed included. -/
def Token.line (t : Token) : String :=
  t.kind.name ++ " " ++ Text.quoted t.lexeme ++ " @ " ++ t.start.digits ++ "-" ++ t.stop.digits ++
    "\n"

def listing (ts : List Token) : String :=
  String.join (ts.map Token.line)

end LexicalRules
