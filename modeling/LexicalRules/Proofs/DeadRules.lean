import LexicalRules.Proofs.Cuts
import LexicalRules.Proofs.Pieces
import LexicalRules.Proofs.Selection

/-! # Dead rules

A rule is dead if it can never be found: its pattern is empty, or a rule that is tried before it has the
same pattern and compares at least as freely. Taking a dead rule out leaves the others in their order, so
that the same rules are found at every position and for every word (`find?_without`), and every text has
the same tokens: `ofRules_without_dead`.
-/

namespace LexicalRules
set_option autoImplicit false

/-- Texts that are the same stay so where case is ignored. -/
theorem Text.sameText_mono (a b : Bool) (hab : a = true → b = true) (s t : List Char)
    (h : sameText a s t = true) : sameText b s t = true := by
  cases a with
  | true => rwa [hab rfl]
  | false =>
    rw [(sameText_exact s t).mp h]
    exact sameText_self b t

namespace Lexer

/-! ## Rules with one pattern -/

section OnePattern
variable (lx : Lexer) (q r : Rule) (hp : q.pattern = r.pattern)
  (hc : lx.ignoresCase r = true → lx.ignoresCase q = true)
include hp hc

theorem standsAt_of_pattern_eq (text : List Char) (h : lx.standsAt text r = true) :
    lx.standsAt text q = true := by
  rw [standsAt_iff] at h ⊢
  rw [hp]
  exact ⟨h.1, Text.sameText_mono _ _ hc _ _ h.2⟩

theorem spells_of_pattern_eq (word : List Char) (h : lx.spells word r = true) :
    lx.spells word q = true := by
  rw [spells_iff] at h ⊢
  rw [hp]
  exact ⟨h.1, Text.sameText_mono _ _ hc _ _ h.2⟩

end OnePattern

/-! ## Tables without a rule -/

section Removed
variable (settings : Settings) (before : List Rule) (r : Rule) (after : List Rule)

/-- A rule is not missed where one that is tried before it applies whenever it does. -/
theorem find?_without (applies : Rule → Bool)
    (h : applies r = true → ∃ q, TriedBefore before r after q ∧ applies q = true) :
    (inOrder (before ++ after)).find? applies = (inOrder (before ++ r :: after)).find? applies := by
  obtain ⟨front, back, hwith, hwithout, hfront⟩ := inOrder_insert before r after
  rw [hwith, hwithout, List.find?_append, List.find?_append]
  cases hf : front.find? applies with
  | some q => rfl
  | none =>
    have hr : ¬applies r = true := by
      intro hr
      obtain ⟨q, hq, ha⟩ := h hr
      exact List.find?_eq_none.mp hf q ((hfront q).mpr hq) ha
    rw [List.find?_cons_of_neg hr]

/-- The rule `r`, given behind `before` and in front of `after`, can never be found. -/
inductive Dead : Prop where
  | empty (h : r.pattern = "")
  /-- A rule tried before it has its pattern and ignores case if it does. -/
  | shadowed (q : Rule) (hq : TriedBefore before r after q) (hp : q.pattern = r.pattern)
      (hc : (settings.ignoreCase || r.ignoreCase) = true →
        (settings.ignoreCase || q.ignoreCase) = true)

variable {settings before r after}

theorem Dead.standsAt (h : Dead settings before r after) (lx : Lexer) (hs : lx.settings = settings)
    (text : List Char) (hr : lx.standsAt text r = true) :
    ∃ q, TriedBefore before r after q ∧ lx.standsAt text q = true := by
  subst hs
  cases h with
  | empty h => simp [Lexer.standsAt, h] at hr
  | shadowed q hq hp hc => exact ⟨q, hq, lx.standsAt_of_pattern_eq q r hp hc text hr⟩

theorem Dead.spells (h : Dead settings before r after) (lx : Lexer) (hs : lx.settings = settings)
    (word : List Char) (hr : lx.spells word r = true) :
    ∃ q, TriedBefore before r after q ∧ lx.spells word q = true := by
  subst hs
  cases h with
  | empty h => simp [Lexer.spells, h] at hr
  | shadowed q hq hp hc => exact ⟨q, hq, lx.spells_of_pattern_eq q r hp hc word hr⟩

theorem piece_without_dead (h : Dead settings before r after) :
    (ofRules (before ++ after) settings).piece = (ofRules (before ++ r :: after) settings).piece := by
  apply piece_congr
  · rfl
  · funext text
    exact find?_without before r after _ (h.standsAt (ofRules (before ++ r :: after) settings) rfl text)
  · funext word
    exact find?_without before r after _ (h.spells (ofRules (before ++ r :: after) settings) rfl word)

end Removed

/-- **Dead rules do not matter.** Where a rule is taken out, the others are tried in the order they had,
with those in front that are longer, or as long and given earlier; and if the rule is dead, every text
has the tokens that it had with the rule. -/
theorem ofRules_without_dead (settings : Settings) (before : List Rule) (r : Rule)
    (after : List Rule) :
    (∃ front back, (ofRules (before ++ r :: after) settings).rules = front ++ r :: back ∧
      (ofRules (before ++ after) settings).rules = front ++ back ∧
      ∀ q, q ∈ front ↔ TriedBefore before r after q) ∧
    (Dead settings before r after → ∀ text : String,
      (ofRules (before ++ after) settings).tokenize text =
        (ofRules (before ++ r :: after) settings).tokenize text) := by
  refine ⟨inOrder_insert before r after, ?_⟩
  intro h text
  apply tokenize_congr
  · rfl
  · rfl
  · exact piece_without_dead h
  · rfl

/-- A delimiter of a longer name, which ignores case. -/
def branchRule : Rule :=
  ((Rule.literal (.custom "Branch") "branch").enclosedBy "if" "fi").ignoringCase true

/-- A keyword that the delimiter keeps from being found. -/
theorem ofRules_without_dead_keyword :
    Dead {} [] (.literal (.custom "Other") "if") [branchRule] ∧
    (ofRules [branchRule] {}).tokenize "IF x fi" =
      (ofRules [.literal (.custom "Other") "if", branchRule] {}).tokenize "IF x fi" := by
  have h : Dead {} [] (.literal (.custom "Other") "if") [branchRule] :=
    .shadowed _ (.inr ⟨List.mem_singleton_self _, by decide⟩) (by decide) (by decide)
  exact ⟨h, (ofRules_without_dead {} [] _ _).2 h "IF x fi"⟩

end Lexer

end LexicalRules
