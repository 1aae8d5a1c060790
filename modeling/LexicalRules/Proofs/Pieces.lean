import LexicalRules.Piece
import Mathlib.Tactic.SplitIfs

/-! # The ways to a piece

`Lexer.Makes` has one case for each way in which a token is cut off a text, with all that is known in
that case, and `makes_piece` says that `Lexer.piece` always goes one of these ways. What holds of every
piece is shown case by case: `piece_inPlace` says which tokens end where they start, and
`piece_kind_ne_endOfFile` where the kind `endOfFile` can come from.
-/

namespace LexicalRules
set_option autoImplicit false

theorem TokenKind.name_ofChar_length (c : Char) : (TokenKind.ofChar c).name.length = 1 := by
  have hn : (TokenKind.ofChar c).name = String.singleton c := TokenKind.name_ofName _
  rw [hn]
  simp

/-- The kind that a character names is none whose name is not a single character. -/
theorem TokenKind.ofChar_ne {k : TokenKind} (h : k.name.length ≠ 1) (c : Char) : ofChar c ≠ k := by
  rintro rfl
  exact h (name_ofChar_length c)

/-- The kinds of numbers. -/
def TokenKind.numbers : List TokenKind :=
  [integer, unsignedInteger, double, float, byte]

namespace Lexer

/-- The ways in which the text `c :: cs` makes a piece, in the order in which they are tried. -/
inductive Makes (lx : Lexer) (c : Char) (cs : List Char) : Piece → Prop where
  | blank (k : TokenKind) (hb : Text.isBlank c = true)
      (hs : lx.settings.skipWhitespace = false) (hk : whitespaceKind c = some k) :
      Makes lx c cs ⟨k, [c], 1, false⟩
  | lineBreak (ds : List Char) (hs : lx.settings.skipWhitespace = true)
      (hn : lx.settings.newlinesAsTokens = true) (hc : c = '\r') (hd : cs = '\n' :: ds) :
      Makes lx c cs ⟨.newline, ['\r', '\n'], 2, false⟩
  | word (hb : lx.whitespacePiece c cs = none) (hw : lx.settings.isWordStart c = true)
      (hr : lx.ruleOfWord (lx.wordOf c cs) = none) :
      Makes lx c cs ⟨.word, lx.wordOf c cs, 1 + (lx.wordTail cs).length, false⟩
  | wordRule (r : Rule) (hb : lx.whitespacePiece c cs = none)
      (hw : lx.settings.isWordStart c = true) (hr : lx.ruleOfWord (lx.wordOf c cs) = some r) :
      Makes lx c cs (lx.rulePiece r (1 + (lx.wordTail cs).length) (c :: cs))
  | rule (r : Rule) (hb : lx.whitespacePiece c cs = none)
      (hw : lx.settings.isWordStart c = false) (hr : lx.ruleAt (c :: cs) = some r) :
      Makes lx c cs (lx.rulePiece r r.pattern.length (c :: cs))
  | number (hb : lx.whitespacePiece c cs = none) (hw : lx.settings.isWordStart c = false)
      (hr : lx.ruleAt (c :: cs) = none) (hn : lx.settings.isNumberStart c = true) :
      Makes lx c cs ⟨(Numeral.read lx.settings (c :: cs)).kind,
        (Numeral.read lx.settings (c :: cs)).lexeme,
        (Numeral.read lx.settings (c :: cs)).written.length, false⟩
  | unclaimed (hb : lx.whitespacePiece c cs = none) (hw : lx.settings.isWordStart c = false)
      (hr : lx.ruleAt (c :: cs) = none) (hn : lx.settings.isNumberStart c = false) :
      Makes lx c cs (lx.unclaimedPiece c)

theorem makes_whitespacePiece (lx : Lexer) (c : Char) (cs : List Char) (p : Piece)
    (h : lx.whitespacePiece c cs = some p) : lx.Makes c cs p := by
  unfold whitespacePiece at h
  split at h
  · simp at h
  · rename_i hb
    split at h
    · rename_i hs
      obtain ⟨k, hk, rfl⟩ := Option.map_eq_some_iff.mp h
      exact .blank k (by simpa using hb) (by simpa using hs) hk
    · rename_i hs
      split at h
      · rename_i hn
        cases h
        simp only [Bool.and_eq_true, beq_iff_eq] at hn
        obtain ⟨ds, rfl⟩ := List.head?_eq_some_iff.mp hn.2
        exact .lineBreak ds (by simpa using hs) hn.1.1 hn.1.2 rfl
      · simp at h

theorem piece_of_word (lx : Lexer) (c : Char) (cs : List Char)
    (hb : lx.whitespacePiece c cs = none) (hw : lx.settings.isWordStart c = true)
    (hr : lx.ruleOfWord (lx.wordOf c cs) = none) :
    lx.piece c cs = ⟨.word, lx.wordOf c cs, 1 + (lx.wordTail cs).length, false⟩ := by
  simp [piece, hb, wordPiece, hw, hr]

theorem piece_of_wordRule (lx : Lexer) (c : Char) (cs : List Char) (r : Rule)
    (hb : lx.whitespacePiece c cs = none) (hw : lx.settings.isWordStart c = true)
    (hr : lx.ruleOfWord (lx.wordOf c cs) = some r) :
    lx.piece c cs = lx.rulePiece r (1 + (lx.wordTail cs).length) (c :: cs) := by
  simp [piece, hb, wordPiece, hw, hr]

/-- A character that starts no word is no letter, and so no suffix of a whole number. -/
theorem not_suffix_of_isWordStart (s : Settings) (c : Char) (h : s.isWordStart c = false) :
    c ≠ 'u' ∧ c ≠ 'b' := by
  have hl : Text.isLetter c = false := by
    simp only [Settings.isWordStart, Bool.or_eq_false_iff] at h
    exact h.1.2
  have hu : Text.isLetter 'u' = true := by decide
  have hb : Text.isLetter 'b' = true := by decide
  constructor
  · rintro rfl
    cases hl.symm.trans hu
  · rintro rfl
    cases hl.symm.trans hb

theorem piece_of_number (lx : Lexer) (c : Char) (cs : List Char)
    (hb : lx.whitespacePiece c cs = none) (hw : lx.settings.isWordStart c = false)
    (hr : lx.ruleAt (c :: cs) = none) (hn : lx.settings.isNumberStart c = true) :
    lx.piece c cs = ⟨(Numeral.read lx.settings (c :: cs)).kind,
      (Numeral.read lx.settings (c :: cs)).lexeme,
      (Numeral.read lx.settings (c :: cs)).written.length, false⟩ := by
  have hread := Numeral.gather_eq_read lx.settings c cs (not_suffix_of_isWordStart _ c hw)
  simp only [piece, hb, wordPiece, hw, matchPiece, hr, numberPiece, hn, hread, Numeral.kind_gathered,
    Numeral.size_gathered]
  rfl

theorem makes_piece (lx : Lexer) (c : Char) (cs : List Char) : lx.Makes c cs (lx.piece c cs) := by
  cases hb : lx.whitespacePiece c cs with
  | some p =>
    have he : lx.piece c cs = p := by simp [piece, hb]
    rw [he]
    exact lx.makes_whitespacePiece c cs p hb
  | none =>
    by_cases hw : lx.settings.isWordStart c = true
    · cases hr : lx.ruleOfWord (lx.wordOf c cs) with
      | some r =>
        rw [lx.piece_of_wordRule c cs r hb hw hr]
        exact .wordRule r hb hw hr
      | none =>
        rw [lx.piece_of_word c cs hb hw hr]
        exact .word hb hw hr
    · have hw' : lx.settings.isWordStart c = false := by simpa using hw
      cases hr : lx.ruleAt (c :: cs) with
      | some r =>
        have he : lx.piece c cs = lx.rulePiece r r.pattern.length (c :: cs) := by
          simp [piece, hb, wordPiece, hw, matchPiece, hr]
        rw [he]
        exact .rule r hb hw' hr
      | none =>
        by_cases hn : lx.settings.isNumberStart c = true
        · rw [lx.piece_of_number c cs hb hw' hr hn]
          exact .number hb hw' hr hn
        · have he : lx.piece c cs = lx.unclaimedPiece c := by
            simp [piece, hb, wordPiece, hw, matchPiece, hr, numberPiece, hn]
          rw [he]
          exact .unclaimed hb hw' hr (by simpa using hn)

/-- Rules play a part only in what is found at a place and for a word. -/
theorem piece_congr (lx lx' : Lexer) (hs : lx'.settings = lx.settings)
    (hat : lx'.ruleAt = lx.ruleAt) (hword : lx'.ruleOfWord = lx.ruleOfWord) :
    lx'.piece = lx.piece := by
  funext c cs
  simp only [piece, whitespacePiece, wordPiece, matchPiece, numberPiece, unclaimedPiece, rulePiece,
    wordOf, wordTail, hs, hat, hword]

/-! ## Tokens without extent -/

/-- Whether the character at the head of `text` is no white space token and starts neither a word nor
a number, and no rule stands there. -/
def isUnclaimed (lx : Lexer) (text : List Char) : Bool :=
  match text with
  | [] => false
  | c :: cs =>
    (lx.whitespacePiece c cs).isNone && !lx.settings.isWordStart c && (lx.ruleAt text).isNone &&
      !lx.settings.isNumberStart c

/-- The tokens that end where they start are those of unclaimed characters. -/
theorem piece_inPlace (lx : Lexer) (c : Char) (cs : List Char) :
    (lx.piece c cs).inPlace = lx.isUnclaimed (c :: cs) := by
  have h := lx.makes_piece c cs
  cases hp : lx.piece c cs with
  | mk kind lexeme size inPlace =>
    rw [hp] at h
    cases h with
    | blank k hb hs hk => simp [isUnclaimed, whitespacePiece, hb, hs, hk]
    | lineBreak ds hs hn hc hd =>
      subst hc hd
      have hb : Text.isBlank '\r' = true := by decide
      simp [isUnclaimed, whitespacePiece, hb, hs, hn]
    | word hb hw hr => simp [isUnclaimed, hw]
    | wordRule r hb hw hr => simp [isUnclaimed, hw]
    | rule r hb hw hr => simp [isUnclaimed, hr]
    | number hb hw hr hn => simp [isUnclaimed, hn]
    | unclaimed hb hw hr hn => simp [isUnclaimed, hb, hw, hr, hn]

/-! ## Kinds -/

theorem whitespaceKind_mem (c : Char) (k : TokenKind) (h : whitespaceKind c = some k) :
    k ∈ [TokenKind.space, .tab, .carriageReturn, .lineFeed] := by
  unfold whitespaceKind at h
  split at h <;> cases h <;> decide

theorem mem_rules_of_ruleAt (lx : Lexer) (text : List Char) (r : Rule)
    (h : lx.ruleAt text = some r) : r ∈ lx.rules :=
  List.mem_of_find?_eq_some h

theorem mem_rules_of_ruleOfWord (lx : Lexer) (word : List Char) (r : Rule)
    (h : lx.ruleOfWord word = some r) : r ∈ lx.rules :=
  List.mem_of_find?_eq_some h

theorem numeral_kind_mem (n : Numeral) : n.kind ∈ TokenKind.numbers := by
  unfold Numeral.kind
  split_ifs <;> decide

theorem unclaimedPiece_kind_ne (lx : Lexer) {k : TokenKind} (hn : k.name.length ≠ 1)
    (hk : lx.settings.catchAllKind ≠ some k) (c : Char) : (lx.unclaimedPiece c).kind ≠ k := by
  cases h : lx.settings.catchAllKind with
  | none => simpa [unclaimedPiece, h] using TokenKind.ofChar_ne hn c
  | some j =>
    rw [h] at hk
    simpa [unclaimedPiece, h] using hk

/-- Where kinds come from: what holds of the kinds that each way can give holds of every piece. -/
theorem piece_kind_of (lx : Lexer) (c : Char) (cs : List Char) (P : TokenKind → Prop)
    (hblank : Text.isBlank c = true → ∀ k, whitespaceKind c = some k → P k)
    (hbreak : P .newline) (hword : P .word) (hrule : ∀ r ∈ lx.rules, P r.kind)
    (hnumber : ∀ n : Numeral, P n.kind)
    (hunclaimed : lx.whitespacePiece c cs = none → P (lx.unclaimedPiece c).kind) :
    P (lx.piece c cs).kind := by
  have h := lx.makes_piece c cs
  cases hp : lx.piece c cs with
  | mk kind lexeme size inPlace =>
    rw [hp] at h
    cases h with
    | blank k hb hs hk => exact hblank hb _ hk
    | lineBreak ds hs hn hc hd => exact hbreak
    | word hb hw hr => exact hword
    | wordRule r hb hw hr => exact hrule r (lx.mem_rules_of_ruleOfWord _ r hr)
    | rule r hb hw hr => exact hrule r (lx.mem_rules_of_ruleAt _ r hr)
    | number hb hw hr hn => exact hnumber _
    | unclaimed hb hw hr hn => exact hunclaimed hb

/-- The kind `endOfFile` comes from a rule or from the kind of unclaimed characters only. -/
theorem piece_kind_ne_endOfFile (lx : Lexer) (hr : ∀ r ∈ lx.rules, r.kind ≠ .endOfFile)
    (hk : lx.settings.catchAllKind ≠ some .endOfFile) (c : Char) (cs : List Char) :
    (lx.piece c cs).kind ≠ .endOfFile := by
  apply lx.piece_kind_of c cs (· ≠ .endOfFile)
  · intro _ k hck
    exact ne_of_mem_of_not_mem (whitespaceKind_mem c k hck) (by decide)
  · decide
  · decide
  · exact hr
  · exact fun n => ne_of_mem_of_not_mem (numeral_kind_mem n) (by decide)
  · exact fun _ => lx.unclaimedPiece_kind_ne (by decide) hk c

end Lexer

end LexicalRules
