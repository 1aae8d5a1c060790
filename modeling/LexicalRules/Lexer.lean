import LexicalRules.Rule
import LexicalRules.Settings
import LexicalRules.Text.Lowercase

/-! # Rule tables

A `Lexer` is a table of rules with the settings it scans under. The rules stand in the order in which
they are tried, longest match text first; rules of the same length keep the order in which they were
given. A rule with an empty pattern never applies, since its tokens would take no text.
-/

namespace LexicalRules
set_option autoImplicit false

structure Lexer where
  rules : List Rule
  settings : Settings
  longestFirst : rules.Pairwise fun a b => b.length ≤ a.length

namespace Lexer

/-- Whether `a` may be tried before `b`: its match text is at least as long. -/
def mayPrecede (a b : Rule) : Bool :=
  decide (b.length ≤ a.length)

/-- The order of trial: longest match text first, otherwise as given. -/
def inOrder (rules : List Rule) : List Rule :=
  rules.mergeSort mayPrecede

theorem mayPrecede_trans (a b c : Rule) (hab : mayPrecede a b = true) (hbc : mayPrecede b c = true) :
    mayPrecede a c = true := by
  simp only [mayPrecede, decide_eq_true_eq] at *
  omega

theorem mayPrecede_total (a b : Rule) : (mayPrecede a b || mayPrecede b a) = true := by
  simp only [mayPrecede, Bool.or_eq_true, decide_eq_true_eq]
  omega

theorem inOrder_longestFirst (rules : List Rule) :
    (inOrder rules).Pairwise fun a b => b.length ≤ a.length := by
  have h : (inOrder rules).Pairwise fun a b => mayPrecede a b = true :=
    List.pairwise_mergeSort mayPrecede_trans mayPrecede_total rules
  simpa [mayPrecede] using h

theorem inOrder_perm (rules : List Rule) : (inOrder rules).Perm rules :=
  List.mergeSort_perm rules _

def ofRules (rules : List Rule) (settings : Settings) : Lexer where
  rules := inOrder rules
  settings := settings
  longestFirst := inOrder_longestFirst rules

theorem mem_rules_ofRules (rules : List Rule) (settings : Settings) (r : Rule) :
    r ∈ (ofRules rules settings).rules ↔ r ∈ rules :=
  (inOrder_perm rules).mem_iff

def ignoresCase (lx : Lexer) (r : Rule) : Bool :=
  lx.settings.ignoreCase || r.ignoreCase

/-- Whether the pattern of `r` stands at the head of `text`: as many characters of the text as the
pattern has, or all of a shorter text, are the same as the pattern. -/
def standsAt (lx : Lexer) (text : List Char) (r : Rule) : Bool :=
  !r.pattern.isEmpty &&
    Text.sameText (lx.ignoresCase r) (text.take r.pattern.length) r.pattern.toList

/-- Whether the pattern of `r` is the whole word `word`. -/
def spells (lx : Lexer) (word : List Char) (r : Rule) : Bool :=
  !r.pattern.isEmpty && Text.sameText (lx.ignoresCase r) word r.pattern.toList

/-- The first rule whose pattern stands at the head of `text`. -/
def ruleAt (lx : Lexer) (text : List Char) : Option Rule :=
  lx.rules.find? (lx.standsAt text)

/-- The first rule whose pattern is the word `word`. -/
def ruleOfWord (lx : Lexer) (word : List Char) : Option Rule :=
  lx.rules.find? (lx.spells word)

theorem standsAt_iff (lx : Lexer) (text : List Char) (r : Rule) :
    lx.standsAt text r = true ↔ r.pattern ≠ "" ∧
      Text.sameText (lx.ignoresCase r) (text.take r.pattern.length) r.pattern.toList = true := by
  simp [standsAt]

theorem spells_iff (lx : Lexer) (word : List Char) (r : Rule) :
    lx.spells word r = true ↔
      r.pattern ≠ "" ∧ Text.sameText (lx.ignoresCase r) word r.pattern.toList = true := by
  simp [spells]

theorem pattern_ne_of_ruleAt (lx : Lexer) (text : List Char) (r : Rule)
    (h : lx.ruleAt text = some r) : 0 < r.pattern.length := by
  have hs := (lx.standsAt_iff text r).mp (List.find?_some h)
  have hne : r.pattern.length ≠ 0 := fun h0 => hs.1 (String.length_eq_zero_iff.mp h0)
  omega

end Lexer

end LexicalRules
