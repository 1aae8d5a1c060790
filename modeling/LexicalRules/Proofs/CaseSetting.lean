import LexicalRules.Proofs.Cuts

/-! # Case as a setting and as a mark

Case is ignored for a rule if the settings say so for all rules or the rule says so itself. A comparison
sees no more than whether one of them does, and nothing but comparisons sees either: not the order of
trial, not closing delimiters, not the classes of characters. So the setting can be moved into the rules:
`Lexer.markingRules` is the lexer in which rules alone say it, and it gives the same tokens. The main
statement is `tokenize_ignoreCase`.
-/

namespace LexicalRules
set_option autoImplicit false

namespace Lexer

/-- Rules keep their order of trial when something else about them is changed than their length. -/
theorem inOrder_map (f : Rule → Rule) (hf : ∀ r, (f r).length = r.length) (rules : List Rule) :
    inOrder (rules.map f) = (inOrder rules).map f := by
  refine (List.map_mergeSort ?_).symm
  intro a _ b _
  simp only [mayPrecede, hf]

/-! ## The setting moved into the rules -/

section Marking
variable (lx : Lexer)

/-- The rule, marked if case is ignored for it at all. -/
def marking (r : Rule) : Rule :=
  r.ignoringCase (lx.ignoresCase r)

/-- The lexer whose settings do not ignore case, with a mark on each rule that case is ignored for. -/
def markingRules : Lexer where
  rules := lx.rules.map lx.marking
  settings := { lx.settings with ignoreCase := false }
  longestFirst := List.pairwise_map.mpr lx.longestFirst

theorem markingRules_ofRules (rules : List Rule) (settings : Settings) :
    (ofRules rules settings).markingRules =
      ofRules (rules.map fun r => r.ignoringCase (settings.ignoreCase || r.ignoreCase))
        { settings with ignoreCase := false } := by
  simp only [markingRules, ofRules, Lexer.mk.injEq, and_true]
  exact (inOrder_map _ (fun r => r.length_ignoringCase _) rules).symm

theorem rules_markingRules : lx.markingRules.rules = lx.rules.map lx.marking := rfl

theorem ignoresCase_marking (r : Rule) :
    lx.markingRules.ignoresCase (lx.marking r) = lx.ignoresCase r := rfl

/-! Both lexers find the same rules, up to the marks. -/

theorem standsAt_marking (text : List Char) (r : Rule) :
    lx.markingRules.standsAt text (lx.marking r) = lx.standsAt text r := by
  simp only [standsAt, ignoresCase_marking]
  simp only [marking, Rule.pattern_ignoringCase]

theorem spells_marking (word : List Char) (r : Rule) :
    lx.markingRules.spells word (lx.marking r) = lx.spells word r := by
  simp only [spells, ignoresCase_marking]
  simp only [marking, Rule.pattern_ignoringCase]

theorem ruleAt_markingRules (text : List Char) :
    lx.markingRules.ruleAt text = (lx.ruleAt text).map lx.marking := by
  have hfun : lx.markingRules.standsAt text ∘ lx.marking = lx.standsAt text :=
    funext (lx.standsAt_marking text)
  rw [ruleAt, rules_markingRules, List.find?_map, hfun, ruleAt]

theorem ruleOfWord_markingRules (word : List Char) :
    lx.markingRules.ruleOfWord word = (lx.ruleOfWord word).map lx.marking := by
  have hfun : lx.markingRules.spells word ∘ lx.marking = lx.spells word :=
    funext (lx.spells_marking word)
  rw [ruleOfWord, rules_markingRules, List.find?_map, hfun, ruleOfWord]

/-! What a rule that has been found makes of the text does not depend on its mark. -/

theorem rulePiece_marking (r : Rule) (opening : Nat) (text : List Char) :
    lx.markingRules.rulePiece (lx.marking r) opening text = lx.rulePiece r opening text := by
  simp only [rulePiece, marking, markingRules, Rule.kind_ignoringCase, Rule.body_ignoringCase]

theorem matchPiece_markingRules (text : List Char) :
    lx.markingRules.matchPiece text = lx.matchPiece text := by
  have hfun : (fun r => lx.markingRules.rulePiece r r.pattern.length text) ∘ lx.marking =
      fun r => lx.rulePiece r r.pattern.length text :=
    funext fun r => lx.rulePiece_marking r r.pattern.length text
  rw [matchPiece, ruleAt_markingRules, Option.map_map, hfun, matchPiece]

theorem wordPiece_markingRules (c : Char) (cs : List Char) :
    lx.markingRules.wordPiece c cs = lx.wordPiece c cs := by
  have hword : lx.markingRules.wordOf c cs = lx.wordOf c cs := rfl
  have htail : lx.markingRules.wordTail cs = lx.wordTail cs := rfl
  have hstart : lx.markingRules.settings.isWordStart c = lx.settings.isWordStart c := rfl
  unfold wordPiece
  rw [hword, htail, hstart, ruleOfWord_markingRules]
  cases lx.ruleOfWord (lx.wordOf c cs) with
  | none => rfl
  | some r => simp only [Option.map_some, rulePiece_marking]

theorem piece_markingRules : lx.markingRules.piece = lx.piece := by
  funext c cs
  -- White space, numbers and unclaimed characters know no rules, and no setting that is changed.
  have hblank : lx.markingRules.whitespacePiece c cs = lx.whitespacePiece c cs := rfl
  have hnumber : lx.markingRules.numberPiece c cs = lx.numberPiece c cs := rfl
  have hunclaimed : lx.markingRules.unclaimedPiece c = lx.unclaimedPiece c := rfl
  rw [piece, piece, hblank, hnumber, hunclaimed, wordPiece_markingRules, matchPiece_markingRules]

theorem tokenize_markingRules (text : String) :
    lx.markingRules.tokenize text = lx.tokenize text := by
  apply tokenize_congr
  · rfl
  · rfl
  · exact lx.piece_markingRules
  · rfl

end Marking

/-- **The setting marks every rule.** To ignore case by the settings is to mark each rule as ignoring case
and to leave the settings without it: every text has the same tokens. -/
theorem tokenize_ignoreCase (rules : List Rule) (settings : Settings)
    (h : settings.ignoreCase = true) (text : String) :
    (ofRules rules settings).tokenize text =
      (ofRules (rules.map fun r => r.ignoringCase true)
        { settings with ignoreCase := false }).tokenize text := by
  have hm := markingRules_ofRules rules settings
  simp only [h, Bool.true_or] at hm
  rw [← hm, tokenize_markingRules]

/-- A keyword, and a delimiter that is a word and whose closing text keeps its case. -/
def caseRules : List Rule :=
  [.literal (.custom "Let") "let", .enclosed (.custom "Block") "begin" "end"]

theorem tokenize_ignoreCase_keywords :
    ({ ignoreCase := true } : Settings).ignoreCase = true ∧
    (ofRules caseRules { ignoreCase := true }).tokenize "LET Begin END end" =
      (ofRules (caseRules.map fun r => r.ignoringCase true) {}).tokenize "LET Begin END end" :=
  ⟨rfl, tokenize_ignoreCase caseRules { ignoreCase := true } rfl "LET Begin END end"⟩

end Lexer

end LexicalRules
