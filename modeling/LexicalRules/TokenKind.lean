/-! # Kinds of tokens

Sixteen kinds are built in: those the scan itself produces, and a fallback. All others are `custom`
and carry their name. `TokenKind.ofName` finds the kind of a name, so a built-in name always stands
for the built-in kind; a custom kind made by hand with such a name stays a different kind.
-/

namespace LexicalRules
set_option autoImplicit false

inductive TokenKind where
  | space
  | tab
  | carriageReturn
  | lineFeed
  /-- A carriage return and line feed, where line breaks are tokens. -/
  | newline
  | word
  | string
  | integer
  | unsignedInteger
  | double
  | float
  | byte
  /-- A comment up to the end of its line. -/
  | endOfLineComment
  /-- A comment between delimiters. -/
  | multiLineComment
  | endOfFile
  | fallback
  | custom (name : String)
  deriving DecidableEq, Repr, Inhabited

namespace TokenKind

def name : TokenKind → String
  | space => "Space"
  | tab => "Tab"
  | carriageReturn => "CarriageReturn"
  | lineFeed => "LineFeed"
  | newline => "Newline"
  | word => "Word"
  | string => "String"
  | integer => "Integer"
  | unsignedInteger => "UnsignedInteger"
  | double => "Double"
  | float => "Float"
  | byte => "Byte"
  | endOfLineComment => "EndOfLineComment"
  | multiLineComment => "MultiLineComment"
  | endOfFile => "EndOfFile"
  | fallback => "_Default"
  | custom n => n

def builtins : List TokenKind :=
  [space, tab, carriageReturn, lineFeed, newline, word, string, integer, unsignedInteger, double,
   float, byte, endOfLineComment, multiLineComment, endOfFile, fallback]

def isBuiltin : TokenKind → Bool
  | custom _ => false
  | _ => true

/-- The kind that a name stands for. -/
def ofName (n : String) : TokenKind :=
  (builtins.find? fun k => k.name == n).getD (custom n)

def ofChar (c : Char) : TokenKind :=
  ofName (String.singleton c)

def isComment : TokenKind → Bool
  | endOfLineComment => true
  | multiLineComment => true
  | _ => false

@[simp] theorem name_ofName (n : String) : (ofName n).name = n := by
  unfold ofName
  cases h : builtins.find? fun k => k.name == n with
  | none => rfl
  | some k =>
    have hk := List.find?_some h
    simpa using hk

theorem ofName_name (k : TokenKind) (h : k.isBuiltin = true) : ofName k.name = k := by
  cases k with
  | custom n => simp [isBuiltin] at h
  | _ => decide +kernel

end TokenKind

end LexicalRules
