import LexicalRules.Lexer

/-! # Matching in place

A rule is compared with a whole word, or in place with as many characters of a text as its pattern has.
`Lexer.AcceptsInPlace` says that a text which the rule spells is also found where more text follows, and
that it is just what is taken then. `acceptsInPlace_iff` says when: texts that differ in case have the
same length unless one of them has more capital i's with a dot, whose small letter is two characters.
-/

namespace LexicalRules
set_option autoImplicit false

namespace Text

/-! ## Texts that differ in case -/

/-- The character whose lowercase mapping has two characters. -/
def dottedI : Char :=
  Char.ofNat 0x130

theorem length_lowercase (c : Char) : (lowercase c).length = 1 + [c].count dottedI := by
  by_cases hc : c = dottedI
  · subst hc
    rfl
  · have hn : c.toNat ≠ 0x130 := by
      intro h
      apply hc
      rw [dottedI, ← h, Char.ofNat_toNat]
    rw [List.count_singleton, if_neg (by simpa using hc), lowercase, if_neg hn]
    split
    · rfl
    · split <;> rfl

theorem length_lowercaseAll (s : List Char) :
    (lowercaseAll s).length = s.length + s.count dottedI := by
  induction s with
  | nil => rfl
  | cons c cs ih =>
    have hc := length_lowercase c
    have hcount : (c :: cs).count dottedI = [c].count dottedI + cs.count dottedI := by
      rw [← List.count_append, List.singleton_append]
    simp only [lowercaseAll, List.flatMap_cons, List.length_append, List.length_cons] at *
    omega

section SameText
variable {ignoreCase : Bool} {s t u : List Char}

theorem sameText_folded : sameText true s t = true ↔ lowercaseAll s = lowercaseAll t := by
  simp [sameText]

theorem sameText_symm (h : sameText ignoreCase s t = true) : sameText ignoreCase t s = true := by
  cases ignoreCase with
  | false => exact (sameText_exact t s).mpr ((sameText_exact s t).mp h).symm
  | true => exact sameText_folded.mpr (sameText_folded.mp h).symm

theorem sameText_trans (hst : sameText ignoreCase s t = true) (htu : sameText ignoreCase t u = true) :
    sameText ignoreCase s u = true := by
  cases ignoreCase with
  | false => rwa [(sameText_exact s t).mp hst]
  | true => exact sameText_folded.mpr ((sameText_folded.mp hst).trans (sameText_folded.mp htu))

theorem length_of_sameText (h : sameText ignoreCase s t = true) :
    s.length + s.count dottedI = t.length + t.count dottedI := by
  cases ignoreCase with
  | false => rw [(sameText_exact s t).mp h]
  | true =>
    rw [← length_lowercaseAll, ← length_lowercaseAll, sameText_folded.mp h]

/-- No text is the same as a longer one that starts with it, whether or not case is ignored. -/
theorem eq_of_sameText_of_isPrefix (hp : s <+: t) (h : sameText ignoreCase s t = true) : s = t := by
  have hlen := length_of_sameText h
  have hle := hp.length_le
  have hcount := hp.sublist.count_le dottedI
  exact hp.eq_of_length (by omega)

end SameText

theorem take_append_eq_left_iff (u v : List Char) (n : Nat) :
    (u ++ v).take n = u ↔ n = u.length ∨ u.length < n ∧ v = [] := by
  constructor
  · intro h
    have hlen := congrArg List.length h
    rw [List.length_take, List.length_append] at hlen
    by_cases hn : n = u.length
    · exact .inl hn
    · exact .inr ⟨by omega, List.length_eq_zero_iff.mp (by omega)⟩
  · rintro (rfl | ⟨hn, rfl⟩)
    · exact List.take_left
    · rw [List.append_nil]
      exact List.take_of_length_le (Nat.le_of_lt hn)

end Text

namespace Lexer
variable (lx : Lexer) (r : Rule) (u v : List Char)

/-- The rule `r` stands where `v` follows the text `u`, and its pattern takes `u` and no more. -/
structure AcceptsInPlace : Prop where
  stands : lx.standsAt (u ++ v) r = true
  takes : (u ++ v).take r.pattern.length = u
  leaves : (u ++ v).drop r.pattern.length = v

variable {r u}

/-- Where a rule spells `u`, it stands at `u` in front of more text if and only if it takes just `u`. -/
theorem standsAt_append_iff (h : lx.spells u r = true) :
    lx.standsAt (u ++ v) r = true ↔ (u ++ v).take r.pattern.length = u := by
  rw [spells_iff] at h
  rw [standsAt_iff]
  constructor
  · rintro ⟨-, hs⟩
    have hsame := Text.sameText_trans hs (Text.sameText_symm h.2)
    rcases List.prefix_or_prefix_of_prefix (List.take_prefix _ (u ++ v)) (List.prefix_append u v)
      with hp | hp
    · exact Text.eq_of_sameText_of_isPrefix hp hsame
    · exact (Text.eq_of_sameText_of_isPrefix hp (Text.sameText_symm hsame)).symm
  · intro ht
    rw [ht]
    exact h

theorem acceptsInPlace_iff_standsAt (h : lx.spells u r = true) :
    lx.AcceptsInPlace r u v ↔ lx.standsAt (u ++ v) r = true := by
  refine ⟨fun ha => ha.stands, ?_⟩
  intro hs
  have ht := (lx.standsAt_append_iff v h).mp hs
  refine ⟨hs, ht, ?_⟩
  have ha := List.take_append_drop r.pattern.length (u ++ v)
  rw [ht] at ha
  exact List.append_cancel_left ha

/-- **What is accepted in place.** A text that a rule spells is found and taken in place if and only if
it has as many dotted capital i's as the pattern, or has more of them and nothing follows. Where case
matters, that is always so. -/
theorem acceptsInPlace_iff (h : lx.spells u r = true) :
    (lx.AcceptsInPlace r u v ↔
      u.count Text.dottedI = r.pattern.toList.count Text.dottedI ∨
      r.pattern.toList.count Text.dottedI < u.count Text.dottedI ∧ v = []) ∧
    (lx.AcceptsInPlace r u v ↔ lx.standsAt (u ++ v) r = true) ∧
    (lx.ignoresCase r = false → lx.AcceptsInPlace r u v) := by
  have hsame := ((lx.spells_iff u r).mp h).2
  have hlen := Text.length_of_sameText hsame
  rw [String.length_toList] at hlen
  have hiff : lx.AcceptsInPlace r u v ↔ r.pattern.length = u.length ∨
      u.length < r.pattern.length ∧ v = [] := by
    rw [lx.acceptsInPlace_iff_standsAt v h, lx.standsAt_append_iff v h, Text.take_append_eq_left_iff]
  have heq : r.pattern.length = u.length ↔
      u.count Text.dottedI = r.pattern.toList.count Text.dottedI := by omega
  have hlt : u.length < r.pattern.length ↔
      r.pattern.toList.count Text.dottedI < u.count Text.dottedI := by omega
  refine ⟨?_, lx.acceptsInPlace_iff_standsAt v h, ?_⟩
  · rw [hiff, heq, hlt]
  · intro hc
    rw [hc, Text.sameText_exact] at hsame
    rw [hiff, heq, hsame]
    exact .inl rfl

/-- A rule for a plus sign and a small i with its dot, two characters that are one in capitals. -/
def dottedRule : Rule :=
  (Rule.literal (.custom "Plus") "+i\u0307").ignoringCase true

def ofDotted : Lexer :=
  ofRules [dottedRule] {}

/-- At the end of a text the capital letter is accepted. -/
theorem acceptsInPlace_iff_lastDotted :
    ofDotted.spells "+\u0130".toList dottedRule = true ∧
    (ofDotted.AcceptsInPlace dottedRule "+\u0130".toList [] ↔
      "+\u0130".toList.count Text.dottedI = dottedRule.pattern.toList.count Text.dottedI ∨
      dottedRule.pattern.toList.count Text.dottedI < "+\u0130".toList.count Text.dottedI ∧
        ([] : List Char) = []) ∧
    (ofDotted.AcceptsInPlace dottedRule "+\u0130".toList [] ↔
      ofDotted.standsAt ("+\u0130".toList ++ []) dottedRule = true) ∧
    (ofDotted.ignoresCase dottedRule = false →
      ofDotted.AcceptsInPlace dottedRule "+\u0130".toList []) := by
  have h : ofDotted.spells "+\u0130".toList dottedRule = true := by decide +kernel
  exact ⟨h, acceptsInPlace_iff ofDotted [] h⟩

/-- In front of a semicolon it is not, though the rule spells it. -/
theorem not_acceptsInPlace_dotted :
    ¬∀ u v : List Char, u ≠ [] → ofDotted.spells u dottedRule = true →
      ofDotted.AcceptsInPlace dottedRule u v := by
  intro h
  have ha := h "+\u0130".toList [';'] (by decide) (by decide +kernel)
  exact absurd ha.stands (by decide +kernel)

end Lexer

end LexicalRules
