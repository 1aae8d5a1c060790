import LexicalRules.Location
import LexicalRules.TokenKind
import LexicalRules.Text.Blank
import LexicalRules.Text.Letter

/-! # Settings

The options of a scan, with the defaults of a rule file that says nothing, and the classes of
characters that they decide: what starts a word, what continues one, what starts a number.
-/

namespace LexicalRules
set_option autoImplicit false

structure Settings where
  /-- Characters besides letters, numbers and the underscore that continue a word. -/
  wordIncluded : String := ""
  /-- Characters besides letters and the underscore that start a word. -/
  wordStarters : String := "_"
  /-- The kind of characters that nothing else claims, each its own kind unless given. -/
  catchAll : Option TokenKind := none
  skipWhitespace : Bool := true
  commentsAsTokens : Bool := false
  ignoreCase : Bool := false
  /-- Every character counts one column and there is one line only. -/
  allOneLine : Bool := false
  allowNegatives : Bool := false
  negativeChar : Char := '-'
  /-- Where white space is skipped: a carriage return and line feed is a token of its own. -/
  newlinesAsTokens : Bool := false
  tabSize : Nat := 4
  /-- Backslash escapes stand for other characters in strings. -/
  parseEscapeSequences : Bool := true
  deriving DecidableEq, Repr, Inhabited

namespace Settings

def metric (s : Settings) : Metric where
  tabSize := s.tabSize
  singleLine := s.allOneLine

def isWordStart (s : Settings) (c : Char) : Bool :=
  c == '_' || Text.isLetter c || s.wordStarters.toList.contains c

def isWordContinue (s : Settings) (c : Char) : Bool :=
  c == '_' || Text.isLetterOrNumeric c || s.wordIncluded.toList.contains c

def isNegativeSign (s : Settings) (c : Char) : Bool :=
  s.allowNegatives && c == s.negativeChar

def isNumberStart (s : Settings) (c : Char) : Bool :=
  c.isDigit || s.isNegativeSign c

/-- The kind of unclaimed characters, if one is set; a blank name sets none. -/
def catchAllKind (s : Settings) : Option TokenKind :=
  s.catchAll.filter fun k => !Text.isBlankText k.name

/-- Whether `c` is passed over between tokens: a NUL always, white space if it is skipped and no
line break can be a token. -/
def isSilent (s : Settings) (c : Char) : Bool :=
  c == '\x00' || (Text.isBlank c && s.skipWhitespace && !s.newlinesAsTokens)

end Settings

end LexicalRules
