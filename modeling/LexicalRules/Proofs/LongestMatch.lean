import LexicalRules.Lexer

/-! # Longest matches

Rules are tried in the order of their match texts, longest first, but it is their patterns that are
compared with the text. `Lexer.LongestWins` says that the rule found at the head of a text has the
longest pattern of all that stand there. `longestWins_iff` says for which rules this can be relied on:
those whose match text is as long as their pattern. An enclosed rule with a match text of another length
takes a place in the order where its left delimiter does not belong.
-/

namespace LexicalRules
set_option autoImplicit false

namespace Rule

/-- Whether the match text is as long as the pattern. A rule with a single character as its left
delimiter may as well have no match text: no shorter pattern can win over it. -/
def sortsByPattern (r : Rule) : Bool :=
  max 1 r.length == max 1 r.pattern.length

@[simp] theorem pattern_literal (kind : TokenKind) (text : String) :
    (literal kind text).pattern = text := rfl

theorem sortsByPattern_literal (kind : TokenKind) (text : String) :
    (literal kind text).sortsByPattern = true := by
  simp [sortsByPattern]

theorem length_eq_of_pattern_empty (r : Rule) (h : r.pattern.length = 0) : r.length = 0 := by
  unfold pattern at h
  split at h
  · rename_i hl
    simp only [isEnclosed, Bool.not_eq_true', String.isEmpty_eq_false_iff] at hl
    exact absurd (String.length_eq_zero_iff.mp h) hl
  · exact h

end Rule

namespace Lexer

/-- No rule that stands at the head of `text` has a longer pattern than the one that is found there. -/
def LongestWins (lx : Lexer) (text : List Char) : Prop :=
  ∀ r, lx.ruleAt text = some r → ∀ q ∈ lx.rules, lx.standsAt text q = true →
    q.pattern.length ≤ r.pattern.length

/-- The rule that is found has the longest match text of those that stand there. -/
theorem length_le_of_ruleAt (lx : Lexer) (text : List Char) (r q : Rule)
    (h : lx.ruleAt text = some r) (hq : q ∈ lx.rules) (hs : lx.standsAt text q = true) :
    q.length ≤ r.length := by
  obtain ⟨-, before, after, hsplit, hnot⟩ := List.find?_eq_some_iff_append.mp h
  have hp := lx.longestFirst
  rw [hsplit] at hp hq
  rcases List.mem_append.mp hq with hm | hm
  · have hn := hnot q hm
    simp [hs] at hn
  · rcases List.mem_cons.mp hm with rfl | hm
    · exact Nat.le_refl _
    · exact (List.pairwise_cons.mp (List.pairwise_append.mp hp).2.1).1 q hm

theorem longestWins_of_sortsByPattern (lx : Lexer)
    (h : ∀ q ∈ lx.rules, q.sortsByPattern = true) (text : List Char) : lx.LongestWins text := by
  intro r hr q hq hs
  have hle := lx.length_le_of_ruleAt text r q hr hq hs
  have hpos := lx.pattern_ne_of_ruleAt text r hr
  have hsr := h r (List.mem_of_find?_eq_some hr)
  have hsq := h q hq
  simp only [Rule.sortsByPattern, beq_iff_eq] at hsr hsq
  omega

/-! ## Two rules -/

theorem inOrder_pair (a b : Rule) (h : b.length ≤ a.length) : inOrder [a, b] = [a, b] :=
  List.mergeSort_of_pairwise (by simp [mayPrecede, h])

theorem standsAt_of_take (lx : Lexer) (text : List Char) (r : Rule) (hp : 0 < r.pattern.length)
    (ht : text.take r.pattern.length = r.pattern.toList) : lx.standsAt text r = true := by
  have hne : r.pattern ≠ "" := by
    rintro h
    rw [h] at hp
    exact absurd hp (by decide)
  simp [standsAt, hne, ht]

/-- Where the first of two rules has the shorter pattern, a text at which both stand breaks the law. -/
theorem not_longestWins_pair (settings : Settings) (a b : Rule) (text : List Char)
    (hle : b.length ≤ a.length) (hlt : a.pattern.length < b.pattern.length)
    (hpos : 0 < a.pattern.length)
    (ha : text.take a.pattern.length = a.pattern.toList)
    (hb : text.take b.pattern.length = b.pattern.toList) :
    ¬(ofRules [a, b] settings).LongestWins text := by
  intro h
  have hrules : (ofRules [a, b] settings).rules = [a, b] := inOrder_pair a b hle
  have hsa := (ofRules [a, b] settings).standsAt_of_take text a hpos ha
  have hsb := (ofRules [a, b] settings).standsAt_of_take text b (by omega) hb
  have hfound : (ofRules [a, b] settings).ruleAt text = some a := by
    rw [ruleAt, hrules]
    exact List.find?_cons_of_pos hsa
  have hlong := h a hfound b (by simp [hrules]) hsb
  omega

/-- A rule whose match text is longer than its pattern wins over a longer literal. -/
theorem not_longestWins_of_lt (settings : Settings) (r : Rule) (hpos : 0 < r.pattern.length)
    (h : r.pattern.length < r.length) :
    ¬(ofRules [r, .literal .word (r.pattern ++ "x")] settings).LongestWins
      (r.pattern ++ "x").toList := by
  have hx : (r.pattern ++ "x").length = r.pattern.length + 1 := String.length_append _ _
  have hlen : r.pattern.toList.length = r.pattern.length := String.length_toList
  apply not_longestWins_pair settings r _ _ _ _ hpos
  · rw [String.toList_append, ← hlen]
    exact List.take_left
  · rw [Rule.pattern_literal, ← String.length_toList]
    exact List.take_length
  · rw [Rule.length_literal, hx]
    exact h
  · rw [Rule.pattern_literal, hx]
    exact Nat.lt_succ_self _

/-- A rule whose match text is shorter than its pattern loses against a shorter literal. -/
theorem not_longestWins_of_gt (settings : Settings) (r : Rule) (hpos : 2 ≤ r.pattern.length)
    (h : r.length < r.pattern.length) :
    ¬(ofRules [.literal .word (String.ofList r.pattern.toList.dropLast), r] settings).LongestWins
      r.pattern.toList := by
  have hlen : r.pattern.toList.length = r.pattern.length := String.length_toList
  have hx : (String.ofList r.pattern.toList.dropLast).length = r.pattern.length - 1 := by
    rw [String.length_ofList, List.length_dropLast, hlen]
  apply not_longestWins_pair settings _ r
  · rw [Rule.length_literal, hx]
    omega
  · rw [Rule.pattern_literal, hx]
    omega
  · rw [Rule.pattern_literal, hx]
    omega
  · rw [Rule.pattern_literal, hx, String.toList_ofList, List.dropLast_eq_take, hlen]
  · rw [← hlen]
    exact List.take_length

/-- **When the longest match wins.** A rule can be relied on, in every company of rules that can be
relied on, if and only if it sorts by its pattern. -/
theorem longestWins_iff (settings : Settings) (r : Rule) :
    (∀ (rules : List Rule) (text : List Char), (∀ q ∈ rules, q = r ∨ q.sortsByPattern = true) →
        (ofRules rules settings).LongestWins text) ↔
      r.sortsByPattern = true := by
  constructor
  · intro h
    rw [← Bool.not_eq_false]
    intro hn
    simp only [Rule.sortsByPattern, beq_eq_false_iff_ne] at hn
    have hempty := r.length_eq_of_pattern_empty
    -- A rule that sorts too high beats a longer literal, one that sorts too low loses to a shorter one.
    by_cases hlong : r.pattern.length < r.length
    · have hlaw := h [r, .literal .word (r.pattern ++ "x")] (r.pattern ++ "x").toList
        (by simp [Rule.sortsByPattern_literal])
      exact not_longestWins_of_lt settings r (by omega) hlong hlaw
    · have hlaw := h [.literal .word (String.ofList r.pattern.toList.dropLast), r]
        r.pattern.toList (by simp [Rule.sortsByPattern_literal])
      exact not_longestWins_of_gt settings r (by omega) (by omega) hlaw
  · intro hr rules text hq
    apply longestWins_of_sortsByPattern
    intro q hm
    rcases hq q ((mem_rules_ofRules rules settings q).mp hm) with rfl | hs
    · exact hr
    · exact hs

/-- A delimiter with a longer match text wins over a longer operator: of `<<`, only the first `<` is
taken as an opening delimiter. -/
theorem not_longestWins_delimiter :
    ¬(ofRules [(Rule.literal (.custom "Tag") "tag").enclosedBy "<" ">",
      .literal (.custom "Shift") "<<"] {}).LongestWins "<<".toList :=
  not_longestWins_pair {} _ _ _ (by decide) (by decide) (by decide) (by decide) (by decide)

end Lexer

end LexicalRules
