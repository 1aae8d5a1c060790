import LexicalRules.TokenKind

/-! # Rules

A rule says which text stands for which kind of token. A literal rule compares its match text and
puts its replacement into the token. An enclosed rule has delimiters: it compares the left one, and
the body of the token runs up to the right one. A rule with a left delimiter always has a right one,
which is the left one again unless it is given.
-/

namespace LexicalRules
set_option autoImplicit false

structure Rule where
  kind : TokenKind
  matchText : String
  /-- The lexeme of the tokens that a literal rule makes. -/
  replacement : String
  left : String
  right : String
  ignoreCase : Bool
  right_ne : left ≠ "" → right ≠ ""
  deriving DecidableEq

namespace Rule

/-- The right delimiter that goes with `left`: `right`, or `left` again where `right` is empty. -/
def closing (left right : String) : String :=
  if right = "" then left else right

theorem closing_ne (left right : String) (h : left ≠ "") : closing left right ≠ "" := by
  unfold closing
  split
  · exact h
  · assumption

def literal (kind : TokenKind) (text : String) : Rule where
  kind := kind
  matchText := text
  replacement := text
  left := ""
  right := ""
  ignoreCase := false
  right_ne := fun h => absurd rfl h

def withReplacement (r : Rule) (text : String) : Rule :=
  { r with replacement := text }

def enclosedBy (r : Rule) (left right : String) : Rule :=
  { r with left := left, right := closing left right, right_ne := closing_ne left right }

/-- The rule, comparing without regard to case if `b` is set. -/
def ignoringCase (r : Rule) (b : Bool) : Rule :=
  { r with ignoreCase := b }

/-- A rule with delimiters, whose match text is the left one. -/
def enclosed (kind : TokenKind) (left right : String) : Rule :=
  (literal kind left).enclosedBy left right

/-- The number of characters of the match text; longer rules are tried first. -/
def length (r : Rule) : Nat :=
  r.matchText.length

def isEmpty (r : Rule) : Bool :=
  r.matchText.isEmpty

def isEnclosed (r : Rule) : Bool :=
  !r.left.isEmpty

/-- The text that is compared: the left delimiter of an enclosed rule, else the match text. -/
def pattern (r : Rule) : String :=
  if r.isEnclosed then r.left else r.matchText

@[simp] theorem length_literal (kind : TokenKind) (text : String) :
    (literal kind text).length = text.length := rfl

@[simp] theorem kind_ignoringCase (r : Rule) (b : Bool) : (r.ignoringCase b).kind = r.kind := rfl

@[simp] theorem length_ignoringCase (r : Rule) (b : Bool) :
    (r.ignoringCase b).length = r.length := rfl

@[simp] theorem pattern_ignoringCase (r : Rule) (b : Bool) :
    (r.ignoringCase b).pattern = r.pattern := rfl

end Rule

end LexicalRules
