import LexicalRules.Proofs.Cuts
import LexicalRules.Proofs.Pieces

/-! # Tokens cover their text

`Lexer.Covers` says that the gaps and tokens of a scan account for the whole text: each character is
passed over or belongs to one token, and all places are those reached by counting. The main statement is
`tokenize_covers`, for every lexer that keeps its comments and makes no token of kind `endOfFile` itself.
-/

namespace LexicalRules
set_option autoImplicit false

namespace Lexer

/-- The scan of `text` cuts it into `cuts` and ends behind the gap `last`. -/
structure Covers (lx : Lexer) (text : String) (cuts : List Cut) (last : List Char) : Prop where
  splits : text.toList = (cuts.flatMap fun c => c.gap ++ c.taken) ++ last
  gap_silent : ∀ c ∈ cuts, ∀ x ∈ c.gap, lx.settings.isSilent x = true
  last_silent : ∀ x ∈ last, lx.settings.isSilent x = true
  taken_ne : ∀ c ∈ cuts, c.taken ≠ []
  length_eq : (lx.tokenize text).length = cuts.length + 1
  ending : (lx.tokenize text)[cuts.length]? =
    some ⟨.endOfFile, "EndOfFile", lx.settings.placeBehind text.toList,
      lx.settings.placeBehind text.toList⟩
  /-- The token of each cut, as it comes out of the scan, and the scan behind it. -/
  token : ∀ before c after, cuts = before ++ c :: after → ∃ t s,
    ((lx.scan text).take before.length).2.next? = some (t, s) ∧
    (lx.tokenize text)[before.length]? = some t ∧
    t.kind ≠ .endOfFile ∧
    t.start = lx.settings.placeBehind (before.flatMap Cut.text ++ c.gap) ∧
    t.stop =
      (if lx.isUnclaimed (c.taken ++ (after.flatMap Cut.text ++ last)) then t.start
        else lx.settings.placeBehind (before.flatMap Cut.text ++ c.gap ++ c.taken)) ∧
    s.here = lx.settings.placeBehind (before.flatMap Cut.text ++ c.gap ++ c.taken)

theorem cutAt_taken_ne_nil (lx : Lexer) (text : List Char) (c : Char) (cs : List Char) :
    (lx.cutAt text c cs).taken ≠ [] := by
  have hp := lx.piece_size_pos c cs
  intro h
  have hl := congrArg List.length h
  simp only [cutAt, List.length_take, List.length_cons, List.length_nil] at hl
  omega

theorem cutAt_gap_silent (lx : Lexer) (text : List Char) (c : Char) (cs : List Char) :
    ∀ x ∈ (lx.cutAt text c cs).gap, lx.settings.isSilent x = true := by
  intro x hx
  exact List.mem_takeWhile_imp hx

theorem keeps_of_commentsAsTokens (s : Scan) (hc : s.lexer.settings.commentsAsTokens = true)
    (k : TokenKind) : s.keeps k = true := by
  simp [Scan.keeps, hc]

theorem tokenize_eq_tokensFrom (lx : Lexer) (text : String)
    (hc : lx.settings.commentsAsTokens = true)
    (hk : ∀ c ∈ lx.cuts text.toList, c.piece.kind ≠ .endOfFile) :
    lx.tokenize text = tokensFrom lx.settings.metric .origin (lx.cuts text.toList) ++
      [endMarker (lx.settings.placeBehind text.toList)] := by
  have h := lx.tokenize_of_forall_ne text hk
  rwa [List.filter_eq_self.mpr fun t _ => keeps_of_commentsAsTokens _ hc t.kind] at h

theorem getElem?_tokensFrom (m : Metric) (l : Location) (before : List Cut) (c : Cut)
    (after : List Cut) (ts : List Token) :
    (tokensFrom m l (before ++ c :: after) ++ ts)[before.length]? =
      some (c.token m (l.travel m (before.flatMap Cut.text))) := by
  rw [tokensFrom_append, tokensFrom, List.append_assoc, List.getElem?_append_right (by simp)]
  simp

theorem token_stop_of_cuts (lx : Lexer) (before : List Cut) (c : Cut) (after : List Cut)
    (text : List Char) (l : Location) (h : lx.cuts text = before ++ c :: after) :
    (c.token lx.settings.metric l).stop =
      if lx.isUnclaimed (c.taken ++ (after.flatMap Cut.text ++ lx.lastGap text)) then
        (c.token lx.settings.metric l).start
      else l.travel lx.settings.metric c.text := by
  obtain ⟨d, ds, hd, hp⟩ := lx.piece_of_cuts before c after text h
  rw [← hd, ← lx.piece_inPlace d ds, ← hp]
  rfl

theorem covers_cuts (lx : Lexer) (text : String) (hc : lx.settings.commentsAsTokens = true)
    (hk : ∀ c ∈ lx.cuts text.toList, c.piece.kind ≠ .endOfFile) :
    lx.Covers text (lx.cuts text.toList) (lx.lastGap text.toList) := by
  have htok := lx.tokenize_eq_tokensFrom text hc hk
  refine ⟨?_, ?_, ?_, ?_, ?_, ?_, ?_⟩
  · exact (lx.cuts_append_lastGap text.toList).symm
  · exact lx.forall_cuts _ (fun text c cs _ => lx.cutAt_gap_silent text c cs) text.toList
  · exact List.all_eq_true.mp (lx.lastGap_silent text.toList)
  · exact lx.forall_cuts _ (fun text c cs _ => lx.cutAt_taken_ne_nil text c cs) text.toList
  · simp [htok]
  · rw [htok, List.getElem?_append_right (by simp)]
    simp [endMarker, Scan.endLexeme]
  · intro before c after hcuts
    have hkept : ∀ b ∈ lx.cuts text.toList,
        b.piece.kind ≠ .endOfFile ∧ (lx.scan text).keeps b.piece.kind = true :=
      fun b hb => ⟨hk b hb, keeps_of_commentsAsTokens (lx.scan text) hc b.piece.kind⟩
    have hnext := Scan.next?_take_cuts before c after (lx.scan text) rfl hcuts hkept
    -- Whether the token ends where it starts depends on all that follows in the text.
    have hstop := lx.token_stop_of_cuts before c after text.toList
      (lx.settings.placeBehind (before.flatMap Cut.text)) hcuts
    have htext : before.flatMap Cut.text ++ c.gap ++ c.taken =
        before.flatMap Cut.text ++ c.text := List.append_assoc _ _ _
    refine ⟨_, _, hnext, ?_, ?_, ?_, ?_, ?_⟩
    · rw [htok, hcuts]
      exact getElem?_tokensFrom _ _ before c after _
    · exact hk c (by simp [hcuts])
    · rw [lx.settings.placeBehind_append]
      rfl
    · rw [htext, lx.settings.placeBehind_append]
      exact hstop
    · rw [htext]
      simp [Scan.behind, Settings.placeBehind, Scan.metric, scan]

theorem cuts_kind_ne_endOfFile (lx : Lexer) (hr : ∀ r ∈ lx.rules, r.kind ≠ .endOfFile)
    (hk : lx.settings.catchAllKind ≠ some .endOfFile) (text : List Char) :
    ∀ c ∈ lx.cuts text, c.piece.kind ≠ .endOfFile := by
  apply forall_cuts
  intro text c cs _
  exact lx.piece_kind_ne_endOfFile hr hk c cs

/-! ## Lexers of rules -/

section Rules
variable (rules : List Rule) (settings : Settings)

theorem rules_ofRules_kind_ne (hr : ∀ r ∈ rules, r.kind ≠ .endOfFile) :
    ∀ r ∈ (ofRules rules settings).rules, r.kind ≠ .endOfFile := by
  intro r hm
  exact hr r ((mem_rules_ofRules rules settings r).mp hm)

/-- **Coverage.** Every character is passed over or belongs to one token, and every place is the one
that counting leads to. -/
theorem tokenize_covers (text : String) (hc : settings.commentsAsTokens = true)
    (hr : ∀ r ∈ rules, r.kind ≠ .endOfFile) (hk : settings.catchAllKind ≠ some .endOfFile) :
    ∃ cuts last, (ofRules rules settings).Covers text cuts last := by
  have hne := rules_ofRules_kind_ne rules settings hr
  exact ⟨_, _, covers_cuts _ text hc (cuts_kind_ne_endOfFile _ hne hk text.toList)⟩

end Rules

/-- A comment rule: gaps, a word with a NUL, a comment and an unclaimed character. -/
theorem tokenize_covers_comment :
    ({ commentsAsTokens := true } : Settings).commentsAsTokens = true ∧
      (∀ r ∈ [Rule.literal .endOfLineComment "#"], r.kind ≠ .endOfFile) ∧
      ({ commentsAsTokens := true } : Settings).catchAllKind ≠ some .endOfFile ∧
      ∃ cuts last, (ofRules [.literal .endOfLineComment "#"] { commentsAsTokens := true }).Covers
        "a\x00b # c\n$" cuts last := by
  have hr : ∀ r ∈ [Rule.literal .endOfLineComment "#"], r.kind ≠ .endOfFile := by decide
  have hk : ({ commentsAsTokens := true } : Settings).catchAllKind ≠ some .endOfFile := by decide
  exact ⟨rfl, hr, hk, tokenize_covers _ _ "a\x00b # c\n$" rfl hr hk⟩

end Lexer

end LexicalRules
