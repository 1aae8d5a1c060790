import LexicalRules.Proofs.Lexemes
import LexicalRules.Proofs.Order

/-! # Whole words

A word takes every character that continues it, and a rule has it only as a whole.

* `Lexer.Continues`: the stretch of a text that goes on with a word, all of it.
* `Scan.TakesWord`: what a step does at a word. Its token takes the whole of it, no later token starts
  inside, and a rule makes the token only if it spells the word without its NULs (`Scan.MadeOfWord`).
* `Lexer.PlainWord`: how a word looks that no rule has.

The main statement is `words_whole`.
-/

namespace LexicalRules
set_option autoImplicit false

namespace Lexer

/-! ## The run of a word -/

/-- `run` goes on with a word, NULs included, and what follows it in `behind` does not. -/
structure Continues (lx : Lexer) (run behind : List Char) : Prop where
  inside : ∀ x ∈ run, x = '\x00' ∨ lx.settings.isWordContinue x = true
  stops : ∀ x ∈ behind.head?, x ≠ '\x00' ∧ lx.settings.isWordContinue x = false

theorem drop_wordTail (lx : Lexer) (cs : List Char) :
    cs.drop (lx.wordTail cs).length =
      cs.dropWhile fun x => x == '\x00' || lx.settings.isWordContinue x := by
  have hd : lx.wordTail cs ++ cs.dropWhile _ = cs := List.takeWhile_append_dropWhile
  exact List.append_cancel_left ((lx.wordTail_append_drop cs).trans hd.symm)

theorem continues_wordTail (lx : Lexer) (cs : List Char) :
    lx.Continues (lx.wordTail cs) (cs.drop (lx.wordTail cs).length) where
  inside x hx := by
    have hp := List.mem_takeWhile_imp hx
    simpa using hp
  stops x hx := by
    rw [drop_wordTail] at hx
    have hp := List.head?_dropWhile_not
      (fun x => x == '\x00' || lx.settings.isWordContinue x) cs
    rw [Option.mem_def.mp hx] at hp
    simpa using hp

end Lexer

/-! ## Steps at words -/

namespace Scan

/-- The scan behind `n` more tokens, whatever their kinds. -/
def onward : Nat → Scan → Scan
  | 0, s => s
  | n + 1, s => onward n s.step.2

theorem behindGap_suffix (s : Scan) : s.behindGap <:+ s.rest :=
  List.dropWhile_suffix _

theorem step_rest_suffix (s : Scan) : s.step.2.rest <:+ s.rest := by
  cases hb : s.behindGap with
  | nil =>
    rw [s.step_of_nil hb]
    exact List.nil_suffix
  | cons c cs =>
    rw [s.step_of_cons c cs hb]
    exact (List.drop_suffix _ _).trans (hb ▸ s.behindGap_suffix)

theorem onward_rest_suffix (n : Nat) (s : Scan) : (s.onward n).rest <:+ s.rest := by
  induction n generalizing s with
  | zero => exact List.suffix_rfl
  | succ n ih => exact (ih s.step.2).trans s.step_rest_suffix

/-- Whose token the step of `s` gives for a word in front of `behind`. -/
inductive MadeOfWord (s : Scan) (word behind : List Char) : Prop where
  /-- No rule spells the word, and the token is the word itself. -/
  | plain (hkind : s.step.1.kind = .word) (hlexeme : s.step.1.lexeme.toList = word)
      (hrest : s.step.2.rest = behind) (hrules : ∀ r ∈ s.lexer.rules, s.lexer.spells word r = false)
  /-- The token is that of a rule that spells the whole word. -/
  | ofRule (r : Rule) (hmem : r ∈ s.lexer.rules) (hne : r.pattern ≠ "")
      (hsame : Text.sameText (s.lexer.ignoresCase r) word r.pattern.toList = true)
      (hkind : s.step.1.kind = r.kind)
      (hlexeme : s.step.1.lexeme.toList =
        (r.body s.lexer.settings.parseEscapeSequences behind).lexeme)
      (hrest : s.step.2.rest =
        behind.drop (r.body s.lexer.settings.parseEscapeSequences behind).size)

/-- What the step of `s` does with the word that `c` and the characters of `run` make up. -/
structure TakesWord (s : Scan) (c : Char) (run behind : List Char) : Prop where
  /-- The token takes the whole word. -/
  takes : s.step.2.rest <:+ behind
  /-- No later token starts inside the word. -/
  apart : ∀ n, (s.step.2.onward n).behindGap <:+ behind
  /-- A rule has the word without its NULs, all of it, or none has it. -/
  made : s.MadeOfWord (Lexer.withoutNuls (c :: run)) behind

theorem MadeOfWord.takes {s : Scan} {word behind : List Char} (h : s.MadeOfWord word behind) :
    s.step.2.rest <:+ behind := by
  cases h with
  | plain _ _ hrest => exact hrest ▸ List.suffix_rfl
  | ofRule r _ _ _ _ _ hrest => exact hrest ▸ List.drop_suffix _ _

section Word
variable (s : Scan) (c : Char) (cs : List Char) (hgap : s.behindGap = c :: cs)
  (hb : s.lexer.whitespacePiece c cs = none) (hw : s.lexer.settings.isWordStart c = true)
include hgap hb hw

theorem step_word (hr : s.lexer.ruleOfWord (s.lexer.wordOf c cs) = none) :
    s.step.1.kind = .word ∧ s.step.1.lexeme.toList = s.lexer.wordOf c cs ∧
      s.step.2.rest = cs.drop (s.lexer.wordTail cs).length := by
  rw [s.step_of_cons c cs hgap]
  simp only [Cut.token, Lexer.cutAt, s.lexer.piece_of_word c cs hb hw hr, String.toList_ofList,
    Nat.add_comm 1, List.drop_succ_cons, and_self]

theorem step_wordRule (r : Rule) (hr : s.lexer.ruleOfWord (s.lexer.wordOf c cs) = some r) :
    s.step.1.kind = r.kind ∧
      s.step.1.lexeme.toList = (r.body s.lexer.settings.parseEscapeSequences
        (cs.drop (s.lexer.wordTail cs).length)).lexeme ∧
      s.step.2.rest = (cs.drop (s.lexer.wordTail cs).length).drop
        (r.body s.lexer.settings.parseEscapeSequences
          (cs.drop (s.lexer.wordTail cs).length)).size := by
  have hd : (c :: cs).drop (1 + (s.lexer.wordTail cs).length) =
      cs.drop (s.lexer.wordTail cs).length := by
    rw [Nat.add_comm, List.drop_succ_cons]
  rw [s.step_of_cons c cs hgap]
  simp only [Cut.token, Lexer.cutAt, s.lexer.piece_of_wordRule c cs r hb hw hr, Lexer.rulePiece,
    String.toList_ofList, true_and]
  rw [hd, ← hd, List.drop_drop]
  exact ⟨rfl, rfl⟩

theorem madeOfWord :
    s.MadeOfWord (s.lexer.wordOf c cs) (cs.drop (s.lexer.wordTail cs).length) := by
  cases hr : s.lexer.ruleOfWord (s.lexer.wordOf c cs) with
  | none =>
    obtain ⟨hkind, hlexeme, hrest⟩ := s.step_word c cs hgap hb hw hr
    refine .plain hkind hlexeme hrest fun r hmem => ?_
    exact Bool.eq_false_iff.mpr (List.find?_eq_none.mp hr r hmem)
  | some r =>
    obtain ⟨hkind, hlexeme, hrest⟩ := s.step_wordRule c cs hgap hb hw r hr
    have hspells : s.lexer.spells (s.lexer.wordOf c cs) r = true := List.find?_some hr
    obtain ⟨hne, hsame⟩ := (s.lexer.spells_iff _ r).mp hspells
    exact .ofRule r (s.lexer.mem_rules_of_ruleOfWord _ r hr) hne hsame hkind hlexeme hrest

/-- The step at a word takes all that goes on with it. -/
theorem takesWord :
    s.TakesWord c (s.lexer.wordTail cs) (cs.drop (s.lexer.wordTail cs).length) := by
  have hword : Lexer.withoutNuls (c :: s.lexer.wordTail cs) = s.lexer.wordOf c cs := by
    rw [← s.lexer.take_word c cs]
    exact s.lexer.withoutNuls_take c cs (s.ne_nul_of_behindGap c cs hgap)
  have hmade := s.madeOfWord c cs hgap hb hw
  exact {
    takes := hmade.takes
    apart := fun n => (behindGap_suffix _).trans ((onward_rest_suffix n _).trans hmade.takes)
    made := hword ▸ hmade }

end Word

end Scan

/-! ## Words that no rule has -/

theorem Text.sameText_nil (ignoreCase : Bool) (c : Char) (cs : List Char) :
    sameText ignoreCase (c :: cs) [] = false := by
  have hne : lowercase c ≠ [] := lowercase_ne_nil c
  cases ignoreCase <;> simp [sameText, lowercaseAll, hne]

namespace Lexer

/-- A word that no rule has. -/
structure PlainWord (lx : Lexer) (word : List Char) : Prop where
  spelled : ∃ c cs, word = c :: cs ∧ lx.settings.isWordStart c = true ∧
    ∀ x ∈ cs, lx.settings.isWordContinue x = true
  noNul : '\x00' ∉ word
  unclaimed : ∀ r ∈ lx.rules, Text.sameText (lx.ignoresCase r) word r.pattern.toList = false

section Plain
variable (lx : Lexer)

theorem plainWord_wordOf (c : Char) (cs : List Char) (hc : c ≠ '\x00')
    (hw : lx.settings.isWordStart c = true) (hr : lx.ruleOfWord (lx.wordOf c cs) = none) :
    lx.PlainWord (lx.wordOf c cs) where
  spelled := by
    refine ⟨c, _, rfl, hw, fun x hx => ?_⟩
    obtain ⟨hmem, hnul⟩ := List.mem_filter.mp hx
    exact ((lx.continues_wordTail cs).inside x hmem).resolve_left (by simpa using hnul)
  noNul := by simp [wordOf, hc.symm]
  unclaimed r hmem := by
    have hspells := List.find?_eq_none.mp hr r hmem
    by_cases hempty : r.pattern = ""
    · rw [hempty]
      exact Text.sameText_nil _ c _
    · rw [spells_iff, not_and] at hspells
      exact Bool.eq_false_iff.mpr (hspells hempty)

variable (hrules : ∀ r ∈ lx.rules, r.kind ≠ .word) (hk : lx.settings.catchAllKind ≠ some .word)
include hrules hk

/-- Where neither rules nor unclaimed characters are of this kind, it comes from words alone. -/
theorem plainWord_of_piece (c : Char) (cs : List Char) (hc : c ≠ '\x00')
    (hkind : (lx.piece c cs).kind = .word) : lx.PlainWord (lx.piece c cs).lexeme := by
  have h := lx.makes_piece c cs
  cases hp : lx.piece c cs with
  | mk kind lexeme size inPlace =>
    rw [hp] at h hkind
    cases h with
    | blank k hb hs hw =>
      exact absurd hkind (ne_of_mem_of_not_mem (whitespaceKind_mem c _ hw) (by decide))
    | lineBreak ds hs hn hd he => cases hkind
    | word hb hw hr => exact lx.plainWord_wordOf c cs hc hw hr
    | wordRule r hb hw hr => exact absurd hkind (hrules r (lx.mem_rules_of_ruleOfWord _ r hr))
    | rule r hb hw hr => exact absurd hkind (hrules r (lx.mem_rules_of_ruleAt _ r hr))
    | number hb hw hr hn =>
      exact absurd hkind (ne_of_mem_of_not_mem (numeral_kind_mem _) (by decide))
    | unclaimed hb hw hr hn => exact absurd hkind (lx.unclaimedPiece_kind_ne (by decide) hk c)

theorem plainWord_of_mem_tokenize (text : String) (t : Token) (ht : t ∈ lx.tokenize text)
    (hkind : t.kind = .word) : lx.PlainWord t.lexeme.toList := by
  have hmem := (lx.tokenize_sublist text).subset ht
  rw [Scan.allTokens, List.mem_append] at hmem
  rcases hmem with hcut | hend
  · obtain ⟨before, d, after, hcuts, rfl⟩ := exists_cut_of_mem_tokensFrom _ _ _ t hcut
    have hplain : d.piece.kind = .word → lx.PlainWord d.piece.lexeme := by
      refine lx.forall_cuts (fun d => d.piece.kind = .word → lx.PlainWord d.piece.lexeme) ?_
        text.toList d (hcuts ▸ List.mem_append_right _ List.mem_cons_self)
      intro rest c cs hgap
      exact lx.plainWord_of_piece hrules hk c cs (lx.ne_nul_of_dropWhile rest c cs hgap)
    simpa [Cut.token] using hplain hkind
  · rw [List.mem_singleton.mp hend] at hkind
    cases hkind

end Plain

/-- **Words are whole.** The token at a word takes all that goes on with it, and a rule makes that token
only if it spells all of the word. Where nothing else is of this kind, the tokens of kind `word` are
words that no rule has. -/
theorem words_whole (lx : Lexer) :
    (∀ (s : Scan) (c : Char) (cs : List Char), s.lexer = lx → s.behindGap = c :: cs →
      lx.whitespacePiece c cs = none → lx.settings.isWordStart c = true →
      ∃ run behind, cs = run ++ behind ∧ lx.Continues run behind ∧ s.TakesWord c run behind) ∧
    ((∀ r ∈ lx.rules, r.kind ≠ .word) → lx.settings.catchAllKind ≠ some .word →
      ∀ (text : String) (t : Token), t ∈ lx.tokenize text → t.kind = .word →
        lx.PlainWord t.lexeme.toList) := by
  refine ⟨?_, lx.plainWord_of_mem_tokenize⟩
  rintro s c cs rfl hgap hb hw
  exact ⟨_, _, (s.lexer.wordTail_append_drop cs).symm, s.lexer.continues_wordTail cs,
    s.takesWord c cs hgap hb hw⟩

def ofLet : Lexer :=
  ofRules [.literal (.custom "Let") "let"] {}

/-- A keyword with a NUL inside, and a word that the keyword is only the beginning of. -/
theorem words_whole_keyword :
    ((ofLet.scan "le\x00t letter").behindGap = 'l' :: "e\x00t letter".toList ∧
      ofLet.whitespacePiece 'l' "e\x00t letter".toList = none ∧
      ofLet.settings.isWordStart 'l' = true ∧
      ∃ run behind, "e\x00t letter".toList = run ++ behind ∧ ofLet.Continues run behind ∧
        (ofLet.scan "le\x00t letter").TakesWord 'l' run behind) ∧
    (∀ r ∈ ofLet.rules, r.kind ≠ .word) ∧ ofLet.settings.catchAllKind ≠ some .word ∧
    ⟨.word, "letter", ⟨0, 5⟩, ⟨0, 11⟩⟩ ∈ ofLet.tokenize "le\x00t letter" ∧
    ofLet.PlainWord "letter".toList := by
  have hgap : (ofLet.scan "le\x00t letter").behindGap = 'l' :: "e\x00t letter".toList := by
    decide +kernel
  have hb : ofLet.whitespacePiece 'l' "e\x00t letter".toList = none := by decide +kernel
  have hw : ofLet.settings.isWordStart 'l' = true := by decide +kernel
  have hrules : ∀ r ∈ ofLet.rules, r.kind ≠ .word := by decide +kernel
  have hk : ofLet.settings.catchAllKind ≠ some .word := by decide +kernel
  have ht : ⟨.word, "letter", ⟨0, 5⟩, ⟨0, 11⟩⟩ ∈ ofLet.tokenize "le\x00t letter" := by
    decide +kernel
  exact ⟨⟨hgap, hb, hw, (words_whole ofLet).1 _ 'l' _ rfl hgap hb hw⟩, hrules, hk, ht,
    (words_whole ofLet).2 hrules hk _ _ ht rfl⟩

end Lexer

end LexicalRules
