import LexicalRules.Scan

/-! # The rule that is selected

A lexer tries its rules in the order of a stable sort and takes the first one that applies.

* `Lexer.IsSelected`: which rule that is, said of the rules as they are given: the longest that applies,
  and of several as long as it the first.
* `Lexer.Rearranged`: the same rules in another order, those of one length as before.

The order of trial is known by the rules of each length alone (`eq_inOrder`). From this follow the place
at which a single rule is put (`inOrder_insert`), the rule that is found (`find?_inOrder_iff`), and which
orders of declaration make the same table (`inOrder_eq_iff`). The main statement is `ofRules_selects`.
-/

namespace LexicalRules
set_option autoImplicit false

namespace Lexer

/-! ## Rules of one length -/

/-- The rules with match texts of `n` characters. -/
def ofLength (n : Nat) (rules : List Rule) : List Rule :=
  rules.filter fun r => r.length = n

theorem mem_ofLength (n : Nat) (rules : List Rule) (r : Rule) :
    r ∈ ofLength n rules ↔ r ∈ rules ∧ r.length = n := by
  simp [ofLength]

theorem ofLength_cons (n : Nat) (r : Rule) (rules : List Rule) :
    ofLength n (r :: rules) = if r.length = n then r :: ofLength n rules else ofLength n rules := by
  simp [ofLength, List.filter_cons]

theorem ofLength_append (n : Nat) (rules rules' : List Rule) :
    ofLength n (rules ++ rules') = ofLength n rules ++ ofLength n rules' :=
  List.filter_append _ _

theorem ofLength_filter (n : Nat) (p : Nat → Prop) [DecidablePred p] (rules : List Rule) :
    ofLength n (rules.filter fun r => p r.length) = if p n then ofLength n rules else [] := by
  unfold ofLength
  rw [List.filter_filter]
  split
  · rename_i hp
    apply List.filter_congr
    intro r _
    by_cases hr : r.length = n <;> simp [hr, hp]
  · rename_i hp
    rw [List.filter_eq_nil_iff]
    intro r _
    by_cases hr : r.length = n <;> simp [hr, hp]

/-- Rules of one length stay as they are given. -/
theorem ofLength_inOrder (n : Nat) (rules : List Rule) :
    ofLength n (inOrder rules) = ofLength n rules := by
  have hpair : (ofLength n rules).Pairwise fun a b => mayPrecede a b = true := by
    rw [List.pairwise_iff_forall_sublist]
    intro a b hab
    have ha := (mem_ofLength n rules a).mp (hab.subset (by simp))
    have hb := (mem_ofLength n rules b).mp (hab.subset (by simp))
    simp only [mayPrecede, decide_eq_true_eq]
    omega
  have hsub : (ofLength n rules).Sublist (inOrder rules) :=
    List.sublist_mergeSort mayPrecede_trans mayPrecede_total hpair List.filter_sublist
  have hn : ofLength n (ofLength n rules) = ofLength n rules := by
    simp [ofLength, List.filter_filter]
  have hlen : (ofLength n rules).length = (ofLength n (inOrder rules)).length :=
    ((inOrder_perm rules).filter _).length_eq.symm
  have hof : (ofLength n (ofLength n rules)).Sublist (ofLength n (inOrder rules)) := hsub.filter _
  rw [hn] at hof
  exact (hof.eq_of_length hlen).symm

theorem length_le_of_mem_cons (a b : Rule) (rules : List Rule)
    (h : (b :: rules).Pairwise fun a b => b.length ≤ a.length) (ha : a ∈ b :: rules) :
    a.length ≤ b.length := by
  rcases List.mem_cons.mp ha with rfl | hm
  · exact Nat.le_refl _
  · exact (List.pairwise_cons.mp h).1 a hm

theorem mem_of_ofLength_eq (rules rules' : List Rule)
    (h : ∀ n, ofLength n rules = ofLength n rules') (r : Rule) (hr : r ∈ rules) : r ∈ rules' := by
  have hm : r ∈ ofLength r.length rules := (mem_ofLength _ _ _).mpr ⟨hr, rfl⟩
  rw [h] at hm
  exact ((mem_ofLength _ _ _).mp hm).1

/-- Lists in order that have the same rules of each length are the same. -/
theorem eq_of_ofLength_eq (rules rules' : List Rule)
    (hl : rules.Pairwise fun a b => b.length ≤ a.length)
    (hl' : rules'.Pairwise fun a b => b.length ≤ a.length)
    (h : ∀ n, ofLength n rules = ofLength n rules') : rules = rules' := by
  induction rules generalizing rules' with
  | nil =>
    cases rules' with
    | nil => rfl
    | cons b bs =>
      have hb := mem_of_ofLength_eq _ _ (fun n => (h n).symm) b List.mem_cons_self
      exact absurd hb List.not_mem_nil
  | cons a as ih =>
    cases rules' with
    | nil =>
      have ha := mem_of_ofLength_eq _ _ h a List.mem_cons_self
      exact absurd ha List.not_mem_nil
    | cons b bs =>
      -- Both heads are longest, so that they stand first among the rules of one length.
      have hab : b.length = a.length := by
        have ha := length_le_of_mem_cons a b bs hl' (mem_of_ofLength_eq _ _ h a List.mem_cons_self)
        have hb := length_le_of_mem_cons b a as hl
          (mem_of_ofLength_eq _ _ (fun n => (h n).symm) b List.mem_cons_self)
        omega
      have hhead := h a.length
      rw [ofLength_cons, ofLength_cons, if_pos rfl, if_pos hab, List.cons.injEq] at hhead
      obtain ⟨rfl, -⟩ := hhead
      congr 1
      apply ih bs (List.pairwise_cons.mp hl).2 (List.pairwise_cons.mp hl').2
      intro n
      have hn := h n
      rw [ofLength_cons, ofLength_cons] at hn
      split at hn
      · exact (List.cons.inj hn).2
      · exact hn

/-- What is in order and has the given rules of each length is the order of trial. -/
theorem eq_inOrder (table rules : List Rule)
    (hl : table.Pairwise fun a b => b.length ≤ a.length)
    (h : ∀ n, ofLength n table = ofLength n rules) : table = inOrder rules := by
  apply eq_of_ofLength_eq table _ hl (inOrder_longestFirst rules)
  intro n
  rw [h, ofLength_inOrder]

/-! ## The place of one rule -/

/-- `q` is tried before the rule `r` that is given behind `before` and in front of `after`: it is longer,
or as long and given earlier. -/
def TriedBefore (before : List Rule) (r : Rule) (after : List Rule) (q : Rule) : Prop :=
  q ∈ before ∧ r.length ≤ q.length ∨ q ∈ after ∧ r.length < q.length

theorem longestFirst_append (front back : List Rule) (n : Nat)
    (hf : front.Pairwise fun a b => b.length ≤ a.length)
    (hb : back.Pairwise fun a b => b.length ≤ a.length)
    (hfront : ∀ q ∈ front, n ≤ q.length) (hback : ∀ q ∈ back, q.length ≤ n) :
    (front ++ back).Pairwise fun a b => b.length ≤ a.length := by
  refine List.pairwise_append.mpr ⟨hf, hb, ?_⟩
  intro a ha b hm
  exact Nat.le_trans (hback b hm) (hfront a ha)

section Insert
variable (before : List Rule) (r : Rule) (after : List Rule)

/-- The rules that are tried before `r`, as they are given. -/
def ahead : List Rule :=
  before.filter (fun q => r.length ≤ q.length) ++ after.filter fun q => r.length < q.length

/-- The rules that `r` is tried before, as they are given. -/
def behind : List Rule :=
  before.filter (fun q => q.length < r.length) ++ after.filter fun q => q.length ≤ r.length

theorem mem_inOrder_ahead (q : Rule) :
    q ∈ inOrder (ahead before r after) ↔ TriedBefore before r after q := by
  rw [(inOrder_perm _).mem_iff]
  simp [ahead, TriedBefore]

theorem le_length_of_mem_ahead (q : Rule) (h : q ∈ inOrder (ahead before r after)) :
    r.length ≤ q.length := by
  rcases (mem_inOrder_ahead before r after q).mp h with hq | hq
  · exact hq.2
  · exact Nat.le_of_lt hq.2

theorem length_le_of_mem_behind (q : Rule) (h : q ∈ inOrder (behind before r after)) :
    q.length ≤ r.length := by
  rw [(inOrder_perm _).mem_iff] at h
  simp only [behind, List.mem_append, List.mem_filter, decide_eq_true_eq] at h
  omega

/-- Of each length, the rules ahead of `r` and those behind it are all that are given. -/
theorem ofLength_ahead_append_behind (n : Nat) :
    ofLength n (ahead before r after) ++ ofLength n (r :: behind before r after) =
        ofLength n (before ++ r :: after) ∧
      ofLength n (ahead before r after) ++ ofLength n (behind before r after) =
        ofLength n (before ++ after) := by
  simp only [ofLength_append, ofLength_cons, ahead, behind,
    ofLength_filter n (r.length ≤ ·), ofLength_filter n (r.length < ·),
    ofLength_filter n (· < r.length), ofLength_filter n (· ≤ r.length)]
  rcases Nat.lt_trichotomy r.length n with hn | hn | hn
  · simp [hn, Nat.le_of_lt hn, Nat.ne_of_lt hn, Nat.not_lt_of_lt hn, Nat.not_le_of_lt hn]
  · simp [hn]
  · simp [hn, Nat.le_of_lt hn, Nat.ne_of_gt hn, Nat.not_lt_of_lt hn, Nat.not_le_of_lt hn]

/-- One rule more leaves the others in their order and stands right behind those tried before it. -/
theorem inOrder_insert :
    ∃ front back, inOrder (before ++ r :: after) = front ++ r :: back ∧
      inOrder (before ++ after) = front ++ back ∧ ∀ q, q ∈ front ↔ TriedBefore before r after q := by
  have hfront := le_length_of_mem_ahead before r after
  have hback := length_le_of_mem_behind before r after
  refine ⟨inOrder (ahead before r after), inOrder (behind before r after), ?_, ?_,
    mem_inOrder_ahead before r after⟩
  · refine (eq_inOrder _ _ ?_ ?_).symm
    · apply longestFirst_append _ _ r.length (inOrder_longestFirst _)
      · exact List.pairwise_cons.mpr ⟨hback, inOrder_longestFirst _⟩
      · exact hfront
      · exact List.forall_mem_cons.mpr ⟨Nat.le_refl _, hback⟩
    · intro n
      rw [← (ofLength_ahead_append_behind before r after n).1]
      simp only [ofLength_append, ofLength_cons, ofLength_inOrder]
  · refine (eq_inOrder _ _ ?_ ?_).symm
    · exact longestFirst_append _ _ r.length (inOrder_longestFirst _) (inOrder_longestFirst _)
        hfront hback
    · intro n
      rw [← (ofLength_ahead_append_behind before r after n).2]
      simp only [ofLength_append, ofLength_inOrder]

end Insert

/-! ## The rule that is found -/

/-- `r` is the longest of the rules that apply, and of several as long as it the first that is given. -/
def IsSelected (applies : Rule → Bool) (rules : List Rule) (r : Rule) : Prop :=
  ∃ before after, rules = before ++ r :: after ∧ applies r = true ∧
    (∀ q ∈ before, applies q = true → q.length < r.length) ∧
    ∀ q ∈ after, applies q = true → q.length ≤ r.length

section Applies
variable (applies : Rule → Bool)

theorem IsSelected.find? {applies : Rule → Bool} {rules : List Rule} {r : Rule}
    (h : IsSelected applies rules r) : (inOrder rules).find? applies = some r := by
  obtain ⟨before, after, rfl, hr, hbefore, hafter⟩ := h
  obtain ⟨front, back, horder, -, hfront⟩ := inOrder_insert before r after
  rw [horder]
  refine List.find?_eq_some_iff_append.mpr ⟨hr, front, back, rfl, ?_⟩
  intro q hq
  rw [Bool.not_eq_true', ← Bool.not_eq_true]
  intro ha
  rcases (hfront q).mp hq with ⟨hm, hle⟩ | ⟨hm, hlt⟩
  · exact Nat.not_lt_of_le hle (hbefore q hm ha)
  · exact Nat.not_le_of_lt hlt (hafter q hm ha)

theorem IsSelected.length_le {applies : Rule → Bool} {rules : List Rule} {r q : Rule}
    (h : IsSelected applies rules r) (hq : q ∈ rules) (ha : applies q = true) :
    q.length ≤ r.length := by
  obtain ⟨before, after, rfl, -, hbefore, hafter⟩ := h
  rcases List.mem_append.mp hq with hm | hm
  · exact Nat.le_of_lt (hbefore q hm ha)
  · rcases List.mem_cons.mp hm with rfl | hm
    · exact Nat.le_refl _
    · exact hafter q hm ha

theorem exists_isSelected (rules : List Rule) (h : ∃ r ∈ rules, applies r = true) :
    ∃ r, IsSelected applies rules r := by
  induction rules with
  | nil => simp at h
  | cons q qs ih =>
    by_cases hqs : ∃ r ∈ qs, applies r = true
    · obtain ⟨r, hr⟩ := ih hqs
      by_cases hq : applies q = true ∧ r.length ≤ q.length
      · refine ⟨q, [], qs, rfl, hq.1, by simp, ?_⟩
        intro s hs ha
        exact Nat.le_trans (hr.length_le hs ha) hq.2
      · obtain ⟨before, after, rfl, ha, hbefore, hafter⟩ := hr
        refine ⟨r, q :: before, after, rfl, ha, ?_, hafter⟩
        intro s hs hsa
        rcases List.mem_cons.mp hs with rfl | hs
        · exact Nat.lt_of_not_le fun hle => hq ⟨hsa, hle⟩
        · exact hbefore s hs hsa
    · obtain ⟨r, hr, ha⟩ := h
      rcases List.mem_cons.mp hr with rfl | hm
      · exact ⟨r, [], qs, rfl, ha, by simp, fun s hs hsa => absurd ⟨s, hs, hsa⟩ hqs⟩
      · exact absurd ⟨r, hm, ha⟩ hqs

/-- **The rule that is found** in the order of trial is the one that is selected. -/
theorem find?_inOrder_iff (rules : List Rule) (r : Rule) :
    (inOrder rules).find? applies = some r ↔ IsSelected applies rules r := by
  constructor
  · intro h
    have hm : r ∈ rules := (inOrder_perm rules).mem_iff.mp (List.mem_of_find?_eq_some h)
    obtain ⟨s, hs⟩ := exists_isSelected applies rules ⟨r, hm, List.find?_some h⟩
    rw [hs.find?] at h
    cases h
    exact hs
  · exact IsSelected.find?

end Applies

/-! ## Orders of declaration -/

/-- The same rules in another order, which leaves those of one length as they were. -/
structure Rearranged (rules rules' : List Rule) : Prop where
  perm : rules'.Perm rules
  sameOrder : ∀ r ∈ rules, (rules'.filter fun q => q.length = r.length) =
    rules.filter fun q => q.length = r.length

theorem Rearranged.ofLength_eq {rules rules' : List Rule} (h : Rearranged rules rules') (n : Nat) :
    ofLength n rules' = ofLength n rules := by
  by_cases hn : ∃ r ∈ rules, r.length = n
  · obtain ⟨r, hr, rfl⟩ := hn
    exact h.sameOrder r hr
  · have hempty : ∀ l : List Rule, l.Perm rules → ofLength n l = [] := by
      intro l hl
      rw [ofLength, List.filter_eq_nil_iff]
      intro r hr
      have hne := fun he => hn ⟨r, hl.mem_iff.mp hr, he⟩
      simpa using hne
    rw [hempty rules' h.perm, hempty rules (.refl _)]

theorem inOrder_eq_iff (rules rules' : List Rule) :
    inOrder rules' = inOrder rules ↔ Rearranged rules rules' := by
  constructor
  · intro h
    refine ⟨?_, ?_⟩
    · exact (inOrder_perm rules').symm.trans (h ▸ inOrder_perm rules)
    · intro r _
      have ht := ofLength_inOrder r.length rules'
      rw [h, ofLength_inOrder] at ht
      exact ht.symm
  · intro h
    apply eq_inOrder _ _ (inOrder_longestFirst rules')
    intro n
    rw [ofLength_inOrder, h.ofLength_eq]

/-- **The selected rule.** At every position and for every word the longest rule that applies is taken,
of several the first; so two declarations of rules make the same table if and only if they differ in the
order of rules of different lengths at most, and then every text has the same tokens. -/
theorem ofRules_selects (rules : List Rule) (settings : Settings) :
    (∀ (text : List Char) (r : Rule), (ofRules rules settings).ruleAt text = some r ↔
      IsSelected ((ofRules rules settings).standsAt text) rules r) ∧
    (∀ (word : List Char) (r : Rule), (ofRules rules settings).ruleOfWord word = some r ↔
      IsSelected ((ofRules rules settings).spells word) rules r) ∧
    ∀ rules' : List Rule,
      ((ofRules rules' settings).rules = (ofRules rules settings).rules ↔ Rearranged rules rules') ∧
      (Rearranged rules rules' → ∀ text : String,
        (ofRules rules' settings).tokenize text = (ofRules rules settings).tokenize text) := by
  refine ⟨fun text => find?_inOrder_iff _ rules, fun word => find?_inOrder_iff _ rules, ?_⟩
  intro rules'
  refine ⟨inOrder_eq_iff rules rules', ?_⟩
  intro h text
  have htable : ofRules rules' settings = ofRules rules settings := by
    simp only [ofRules, (inOrder_eq_iff rules rules').mpr h]
  rw [htable]

def eqRule : Rule := .literal (.custom "Eq") "="

def sameRule : Rule := .literal (.custom "Same") "=="

def isRule : Rule := .literal (.custom "Is") "=="

/-- Two operators of one length, and a shorter one that may come anywhere. -/
theorem ofRules_selects_operators :
    Rearranged [eqRule, sameRule, isRule] [sameRule, eqRule, isRule] ∧
    (ofRules [sameRule, eqRule, isRule] {}).tokenize "a == b" =
      (ofRules [eqRule, sameRule, isRule] {}).tokenize "a == b" := by
  have h : Rearranged [eqRule, sameRule, isRule] [sameRule, eqRule, isRule] :=
    ⟨by decide, by decide⟩
  exact ⟨h, ((ofRules_selects _ {}).2.2 _).2 h "a == b"⟩

end Lexer

end LexicalRules
