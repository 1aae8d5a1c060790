import LexicalRules.Body
import LexicalRules.Lexer
import LexicalRules.Numeral

/-! # Pieces

`Lexer.piece` cuts one token off a text that starts with a character that is not passed over. It says
what the token is and how many characters it takes; places do not matter here. The steps are tried in
this order: white space that is a token, words, rules, numbers, and at last the character by itself.
-/

namespace LexicalRules
set_option autoImplicit false

/-- A token without its place. -/
structure Piece where
  kind : TokenKind
  lexeme : List Char
  /-- The number of characters that it takes; a text that ends first gives what it has. -/
  size : Nat
  /-- Whether the token ends where it starts, though it takes text. -/
  inPlace : Bool := false
  deriving DecidableEq, Repr

namespace Lexer

/-- The kind of a white space character that is a token by itself. -/
def whitespaceKind : Char → Option TokenKind
  | ' ' => some .space
  | '\t' => some .tab
  | '\r' => some .carriageReturn
  | '\n' => some .lineFeed
  | _ => none

/-- White space as a token: a carriage return and line feed where white space is skipped, a single
character where it is not. -/
def whitespacePiece (lx : Lexer) (c : Char) (cs : List Char) : Option Piece :=
  if !Text.isBlank c then none
  else if !lx.settings.skipWhitespace then
    (whitespaceKind c).map fun k => ⟨k, [c], 1, false⟩
  else if lx.settings.newlinesAsTokens && c == '\r' && cs.head? == some '\n' then
    some ⟨.newline, ['\r', '\n'], 2, false⟩
  else none

/-- The token of a rule whose opening text takes the first `opening` characters of `text`. -/
def rulePiece (lx : Lexer) (r : Rule) (opening : Nat) (text : List Char) : Piece :=
  let body := r.body lx.settings.parseEscapeSequences (text.drop opening)
  ⟨r.kind, body.lexeme, opening + body.size, false⟩

/-- The characters that go on with a word: NULs belong to its text but not to the word. -/
def wordTail (lx : Lexer) (cs : List Char) : List Char :=
  cs.takeWhile fun c => c == '\x00' || lx.settings.isWordContinue c

def wordOf (lx : Lexer) (c : Char) (cs : List Char) : List Char :=
  c :: (lx.wordTail cs).filter (· != '\x00')

/-- A word, which belongs to the first rule that spells it. -/
def wordPiece (lx : Lexer) (c : Char) (cs : List Char) : Option Piece :=
  if lx.settings.isWordStart c then
    let size := 1 + (lx.wordTail cs).length
    match lx.ruleOfWord (lx.wordOf c cs) with
    | some r => some (lx.rulePiece r size (c :: cs))
    | none => some ⟨.word, lx.wordOf c cs, size, false⟩
  else none

/-- The token of the first rule whose pattern stands at the head of `text`. -/
def matchPiece (lx : Lexer) (text : List Char) : Option Piece :=
  (lx.ruleAt text).map fun r => lx.rulePiece r r.pattern.length text

def numberPiece (lx : Lexer) (c : Char) (cs : List Char) : Option Piece :=
  if lx.settings.isNumberStart c then
    let g := Numeral.gather lx.settings.isNegativeSign true false (c :: cs)
    some ⟨g.kind, g.lexeme, g.size, false⟩
  else none

def unclaimedPiece (lx : Lexer) (c : Char) : Piece :=
  ⟨lx.settings.catchAllKind.getD (.ofChar c), [c], 1, true⟩

def piece (lx : Lexer) (c : Char) (cs : List Char) : Piece :=
  (lx.whitespacePiece c cs <|> lx.wordPiece c cs <|> lx.matchPiece (c :: cs) <|>
    lx.numberPiece c cs).getD (lx.unclaimedPiece c)

/-! ## Every piece takes text -/

theorem whitespacePiece_size_pos (lx : Lexer) (c : Char) (cs : List Char) (p : Piece)
    (h : lx.whitespacePiece c cs = some p) : 0 < p.size := by
  unfold whitespacePiece at h
  split at h
  · simp at h
  · split at h
    · obtain ⟨k, _, rfl⟩ := Option.map_eq_some_iff.mp h
      exact Nat.one_pos
    · split at h
      · cases h
        exact Nat.two_pos
      · simp at h

theorem wordPiece_size_pos (lx : Lexer) (c : Char) (cs : List Char) (p : Piece)
    (h : lx.wordPiece c cs = some p) : 0 < p.size := by
  unfold wordPiece at h
  split at h
  · split at h
    · cases h
      simp only [rulePiece]
      omega
    · cases h
      show 0 < 1 + (lx.wordTail cs).length
      omega
  · simp at h

theorem matchPiece_size_pos (lx : Lexer) (text : List Char) (p : Piece)
    (h : lx.matchPiece text = some p) : 0 < p.size := by
  obtain ⟨r, hr, rfl⟩ := Option.map_eq_some_iff.mp h
  have hp := lx.pattern_ne_of_ruleAt text r hr
  simp only [rulePiece]
  omega

theorem numberPiece_size_pos (lx : Lexer) (c : Char) (cs : List Char) (p : Piece)
    (h : lx.numberPiece c cs = some p) : 0 < p.size := by
  unfold numberPiece at h
  split at h
  · rename_i hc
    cases h
    exact Numeral.gather_size_pos lx.settings c cs hc
  · simp at h

theorem piece_size_pos (lx : Lexer) (c : Char) (cs : List Char) :
    0 < (lx.piece c cs).size := by
  unfold piece
  cases hb : lx.whitespacePiece c cs with
  | some p => exact whitespacePiece_size_pos lx c cs p hb
  | none =>
    cases hw : lx.wordPiece c cs with
    | some p => exact wordPiece_size_pos lx c cs p hw
    | none =>
      cases hm : lx.matchPiece (c :: cs) with
      | some p => exact matchPiece_size_pos lx (c :: cs) p hm
      | none =>
        cases hn : lx.numberPiece c cs with
        | some p => exact numberPiece_size_pos lx c cs p hn
        | none => exact Nat.one_pos

end Lexer

end LexicalRules
