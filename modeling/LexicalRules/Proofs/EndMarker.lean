import LexicalRules.Proofs.Coverage

/-! # Where a scan ends

A scan ends with the first token of kind `endOfFile`, whatever made it. `Lexer.EndsAtEnd` says that it
ends where it should: the whole text has been scanned, and the last token is the end marker at the place
behind the text. `endsAtEnd_iff` says when that is so: if a piece of the text has that kind at all, it is
the last of the text and looks like the end marker. This is never in question when no rule and no kind
of unclaimed characters has the kind `endOfFile`.
-/

namespace LexicalRules
set_option autoImplicit false

theorem getLast?_upToEnd_filter (p : Token → Bool) (ts us : List Token) (t : Token)
    (hp : p t = true) (ht : t.kind = .endOfFile) (h : ∀ u ∈ ts, u.kind ≠ .endOfFile) :
    (upToEnd ((ts ++ t :: us).filter p)).getLast? = some t := by
  have hts : ∀ u ∈ ts.filter p, u.kind ≠ .endOfFile :=
    fun u hu => h u (List.mem_filter.mp hu).1
  rw [List.filter_append, List.filter_cons_of_pos hp, upToEnd_append _ _ hts]
  simp [upToEnd, ht]

namespace Scan

theorem drain_rest_of_ne (s : Scan) (hf : s.finished = false) (hk : s.step.1.kind ≠ .endOfFile) :
    s.drain.2.rest = s.step.2.drain.2.rest := by
  cases hc : s.keeps s.step.1.kind with
  | true => rw [s.drain_of_kept hf hk hc]
  | false => rw [s.drain_of_dropped hf hk hc]

theorem drain_rest_behind (before after : List Cut) (s : Scan) (hf : s.finished = false)
    (h : s.lexer.cuts s.rest = before ++ after) (hb : ∀ b ∈ before, b.piece.kind ≠ .endOfFile) :
    s.drain.2.rest = (s.behind before).drain.2.rest := by
  induction before generalizing s with
  | nil => rfl
  | cons b before ih =>
    obtain ⟨hs, hr⟩ := s.step_of_cuts b (before ++ after) h
    have hk : s.step.1.kind ≠ .endOfFile := by
      rw [hs]
      exact hb b List.mem_cons_self
    rw [s.drain_rest_of_ne hf hk, hs]
    have hi := ih (s.behind [b]) hf hr fun d hd => hb d (List.mem_cons_of_mem b hd)
    rw [behind_append] at hi
    exact hi

/-- Where a cut has the kind `endOfFile`, the first of them leaves the rest of the text unread. -/
theorem drain_rest_of_first (before : List Cut) (c : Cut) (after : List Cut) (s : Scan)
    (hf : s.finished = false) (h : s.lexer.cuts s.rest = before ++ c :: after)
    (hb : ∀ b ∈ before, b.piece.kind ≠ .endOfFile) (hc : c.piece.kind = .endOfFile) :
    s.drain.2.rest = after.flatMap Cut.text ++ s.lexer.lastGap s.rest := by
  have hcuts := cuts_behind before (c :: after) s h
  obtain ⟨hs, -⟩ := (s.behind before).step_of_cuts c after hcuts
  have hk : (s.behind before).step.1.kind = .endOfFile := by
    rw [hs]
    exact hc
  rw [drain_rest_behind before (c :: after) s hf h hb, drain_of_end (s.behind before) hf hk, hs,
    behind_append]
  exact rest_behind (before ++ [c]) after s (by simp [h])

theorem drain_rest_of_forall_ne (s : Scan) (hf : s.finished = false)
    (h : ∀ c ∈ s.lexer.cuts s.rest, c.piece.kind ≠ .endOfFile) : s.drain.2.rest = [] := by
  have hall : s.lexer.cuts s.rest = s.lexer.cuts s.rest ++ [] := (List.append_nil _).symm
  have hcuts := cuts_behind _ [] s hall
  have hnil : (s.behind (s.lexer.cuts s.rest)).behindGap = [] := by
    cases hg : (s.behind (s.lexer.cuts s.rest)).behindGap with
    | nil => rfl
    | cons c cs =>
      have hcons := s.lexer.cuts_of_cons _ c cs hg
      rw [hcuts] at hcons
      cases hcons
  have hstep := (s.behind (s.lexer.cuts s.rest)).step_of_nil hnil
  rw [drain_rest_behind _ [] s hf hall h,
    drain_of_end (s.behind (s.lexer.cuts s.rest)) hf (by rw [hstep]; rfl), hstep]

end Scan

namespace Lexer

/-- The scan of `text` reads all of it and ends with the end marker behind it. -/
def EndsAtEnd (lx : Lexer) (text : String) : Prop :=
  (lx.tokenize text).getLast? =
      some ⟨.endOfFile, "EndOfFile", lx.settings.placeBehind text.toList,
        lx.settings.placeBehind text.toList⟩ ∧
    (lx.scan text).drain.2.rest = []

theorem getLast?_tokenize_of_first (lx : Lexer) (text : String) (before : List Cut) (c : Cut)
    (after : List Cut) (h : lx.cuts text.toList = before ++ c :: after)
    (hb : ∀ b ∈ before, b.piece.kind ≠ .endOfFile) (hc : c.piece.kind = .endOfFile) :
    (lx.tokenize text).getLast? =
      some (c.token lx.settings.metric (lx.settings.placeBehind (before.flatMap Cut.text))) := by
  have hr := (lx.scan text).remaining_eq rfl
  have hall : (lx.scan text).allTokens =
      tokensFrom lx.settings.metric .origin (before ++ c :: after) ++
        [endMarker (lx.settings.placeBehind text.toList)] := by
    rw [← h]
    rfl
  rw [tokenize, hr, hall, tokensFrom_append, tokensFrom, List.append_assoc, List.cons_append]
  apply getLast?_upToEnd_filter
  · rw [show (c.token lx.settings.metric _).kind = .endOfFile from hc]
    exact (lx.scan text).keeps_endOfFile
  · exact hc
  · intro t ht
    obtain ⟨b, hm, hk⟩ := kind_of_mem_tokensFrom _ _ _ t ht
    rw [hk]
    exact hb b hm

theorem endsAtEnd_of_forall_ne (lx : Lexer) (text : String)
    (h : ∀ c ∈ lx.cuts text.toList, c.piece.kind ≠ .endOfFile) : lx.EndsAtEnd text := by
  constructor
  · rw [lx.tokenize_of_forall_ne text h, List.getLast?_concat]
    rfl
  · exact (lx.scan text).drain_rest_of_forall_ne rfl h

theorem endsAtEnd_iff_of_first (lx : Lexer) (text : String) (before : List Cut) (c : Cut)
    (after : List Cut) (h : lx.cuts text.toList = before ++ c :: after)
    (hb : ∀ b ∈ before, b.piece.kind ≠ .endOfFile) (hc : c.piece.kind = .endOfFile) :
    lx.EndsAtEnd text ↔
      (before ++ [c]).flatMap Cut.text = text.toList ∧
      c.token lx.settings.metric (lx.settings.placeBehind (before.flatMap Cut.text)) =
        endMarker (lx.settings.placeBehind text.toList) := by
  have ht : (before ++ [c]).flatMap Cut.text ++
      (after.flatMap Cut.text ++ lx.lastGap text.toList) = text.toList := by
    have ha := lx.cuts_append_lastGap text.toList
    rw [h] at ha
    simpa using ha
  have hrest : (lx.scan text).drain.2.rest = after.flatMap Cut.text ++ lx.lastGap text.toList :=
    Scan.drain_rest_of_first before c after (lx.scan text) rfl h hb hc
  have hread : after.flatMap Cut.text ++ lx.lastGap text.toList = [] ↔
      (before ++ [c]).flatMap Cut.text = text.toList := by
    constructor
    · intro hn
      rw [← ht, hn, List.append_nil]
    · intro he
      exact List.append_right_eq_self.mp (ht.trans he.symm)
  rw [EndsAtEnd, lx.getLast?_tokenize_of_first text before c after h hb hc, hrest, hread,
    Option.some_inj, and_comm]
  rfl

theorem exists_first (cuts : List Cut) :
    (∀ c ∈ cuts, c.piece.kind ≠ .endOfFile) ∨
      ∃ before c after, cuts = before ++ c :: after ∧
        (∀ b ∈ before, b.piece.kind ≠ .endOfFile) ∧ c.piece.kind = .endOfFile := by
  cases hf : cuts.find? (fun c => decide (c.piece.kind = .endOfFile)) with
  | none =>
    left
    simpa using hf
  | some c =>
    right
    obtain ⟨hc, before, after, hsplit, hb⟩ := List.find?_eq_some_iff_append.mp hf
    exact ⟨before, c, after, hsplit, by simpa using hb, by simpa using hc⟩

section Rules
variable (rules : List Rule) (settings : Settings)

/-- **Where a scan ends.** The end is missed exactly when the first piece of kind `endOfFile` leaves
text unread or differs from the end marker. -/
theorem endsAtEnd_iff :
    (∀ text : String, (ofRules rules settings).EndsAtEnd text ↔
      ∀ before c after, (ofRules rules settings).cuts text.toList = before ++ c :: after →
        (∀ b ∈ before, b.piece.kind ≠ .endOfFile) → c.piece.kind = .endOfFile →
        (before ++ [c]).flatMap Cut.text = text.toList ∧
        c.token settings.metric (settings.placeBehind (before.flatMap Cut.text)) =
          endMarker (settings.placeBehind text.toList)) ∧
    ((∀ r ∈ rules, r.kind ≠ .endOfFile) → settings.catchAllKind ≠ some .endOfFile →
      ∀ text : String, (ofRules rules settings).EndsAtEnd text) := by
  constructor
  · intro text
    constructor
    · intro h before c after hcuts hb hc
      exact (endsAtEnd_iff_of_first _ text before c after hcuts hb hc).mp h
    · intro h
      rcases exists_first ((ofRules rules settings).cuts text.toList) with
        hne | ⟨before, c, after, hcuts, hb, hc⟩
      · exact endsAtEnd_of_forall_ne _ text hne
      · exact (endsAtEnd_iff_of_first _ text before c after hcuts hb hc).mpr
          (h before c after hcuts hb hc)
  · intro hr hk text
    have hne := rules_ofRules_kind_ne rules settings hr
    exact endsAtEnd_of_forall_ne _ text (cuts_kind_ne_endOfFile _ hne hk text.toList)

end Rules

/-- A rule of kind `endOfFile` ends the scan where its text stands. -/
theorem not_endsAtEnd_rule :
    ¬(ofRules [.literal .endOfFile "end"] {}).EndsAtEnd "a end b" := by
  intro h
  have hlast : ((ofRules [.literal .endOfFile "end"] {}).tokenize "a end b").getLast? =
      some ⟨.endOfFile, "end", ⟨0, 2⟩, ⟨0, 5⟩⟩ := by decide +kernel
  rw [EndsAtEnd, hlast, Option.some_inj] at h
  exact absurd h.1 (by decide)

end Lexer

end LexicalRules
