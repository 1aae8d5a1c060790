import LexicalRules.Location
import LexicalRules.TokenKind
import LexicalRules.Text.Quoted

/-! # Tokens

A token is a kind, a lexeme and the stretch of text it was read from. It ends at the caret position
right behind its last character; a token for a character that nothing else claims is the exception
and ends where it starts.
-/

namespace LexicalRules
set_option autoImplicit false

structure Token where
  kind : TokenKind
  lexeme : String
  start : Location
  stop : Location
  deriving DecidableEq, Repr

namespace Token

/-- The end of file as it stands for a token that is not there: no lexeme, no real place. -/
def endOfFile : Token where
  kind := .endOfFile
  lexeme := ""
  start := .origin
  stop := .origin

instance : Inhabited Token := ⟨endOfFile⟩

def hasKind (t : Token) (k : TokenKind) : Bool :=
  decide (t.kind = k)

/-- A token in words: where it starts, its kind and its lexeme. -/
def describe (t : Token) : String :=
  "[" ++ t.start.describe ++ "](" ++ t.kind.name ++ ", " ++ t.lexeme ++ ")"

/-- A token in full, its lexeme quoted. -/
def inspect (t : Token) : String :=
  t.kind.name ++ "(" ++ Text.quoted t.lexeme ++ ") @ " ++ t.start.digits ++ ".." ++ t.stop.digits

end Token

end LexicalRules
