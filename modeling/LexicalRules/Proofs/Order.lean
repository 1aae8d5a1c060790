import LexicalRules.Proofs.Cuts
import LexicalRules.Proofs.Travel

/-! # The order of places in a scan

Lines never go back along the tokens of a scan, and places do not either where nothing sets the column
back. `Advancing` says so of a list of tokens, in an order that is given; `advancing_tokensFrom` is the
induction over the cuts. A single token may end before it starts, for a carriage return goes back to the
first column: `Cut.StepsBack` tells which, and `start_le_stop_iff` says that there are no others.
-/

namespace LexicalRules
set_option autoImplicit false

/-- No token ends before it starts, and none starts before an earlier one ends. -/
structure Advancing (R : Location → Location → Prop) (ts : List Token) : Prop where
  start_stop : ∀ t ∈ ts, R t.start t.stop
  stop_start : ts.Pairwise fun t u => R t.stop u.start

theorem Advancing.sublist {R : Location → Location → Prop} {ts us : List Token}
    (h : Advancing R us) (hs : ts.Sublist us) : Advancing R ts :=
  ⟨fun t ht => h.start_stop t (hs.subset ht), h.stop_start.sublist hs⟩

theorem upToEnd_sublist (ts : List Token) : (upToEnd ts).Sublist ts := by
  induction ts with
  | nil => exact List.Sublist.refl []
  | cons t ts ih =>
    unfold upToEnd
    split
    · exact (List.nil_sublist ts).cons_cons t
    · exact ih.cons_cons t

theorem Scan.remaining_sublist (s : Scan) (hf : s.finished = false) :
    s.remaining.Sublist s.allTokens := by
  rw [s.remaining_eq hf]
  exact (upToEnd_sublist _).trans List.filter_sublist

/-! ## Along the cuts of a text -/

section Along
variable {R : Location → Location → Prop} {m : Metric}

theorem Cut.advancing_token (c : Cut) (l : Location) (h : Forwards R m c.text) :
    R l (c.token m l).start ∧ R (c.token m l).start (c.token m l).stop ∧
      R (c.token m l).stop (l.travel m c.text) := by
  have hgap : R l (l.travel m c.gap) :=
    (h.subset (List.subset_append_left c.gap c.taken)).travel l
  have htaken : R (l.travel m c.gap) (l.travel m c.text) := by
    rw [Cut.text, Location.travel_append]
    exact (h.subset (List.subset_append_right c.gap c.taken)).travel _
  refine ⟨hgap, ?_⟩
  cases hp : c.piece.inPlace with
  | true => simpa [token, hp] using ⟨h.refl _, htaken⟩
  | false => simpa [token, hp] using ⟨htaken, h.refl _⟩

theorem advancing_tokensFrom (cs : List Cut) (last : List Char) (l : Location)
    (h : Forwards R m (cs.flatMap Cut.text ++ last)) :
    Advancing R (tokensFrom m l cs ++ [endMarker (l.travel m (cs.flatMap Cut.text ++ last))]) ∧
      ∀ t ∈ tokensFrom m l cs ++ [endMarker (l.travel m (cs.flatMap Cut.text ++ last))],
        R l t.start := by
  -- Along the cuts, from any place on: the rest starts where the first cut ends, or behind that.
  induction cs generalizing l with
  | nil =>
    refine ⟨⟨?_, by simp [tokensFrom]⟩, ?_⟩
    · simpa [tokensFrom] using h.refl _
    · simpa [tokensFrom] using h.travel l
  | cons c cs ih =>
    rw [List.flatMap_cons, List.append_assoc] at h ⊢
    obtain ⟨hstart, hstop, hnext⟩ :=
      c.advancing_token l (h.subset (List.subset_append_left _ _))
    have hc : R l (l.travel m c.text) := h.trans hstart (h.trans hstop hnext)
    obtain ⟨hrest, hbehind⟩ := ih (l.travel m c.text) (h.subset (List.subset_append_right _ _))
    rw [Location.travel_append, tokensFrom, List.cons_append]
    refine ⟨⟨?_, List.pairwise_cons.mpr ⟨?_, hrest.stop_start⟩⟩, ?_⟩
    · exact List.forall_mem_cons.mpr ⟨hstop, hrest.start_stop⟩
    · exact fun t ht => h.trans hnext (hbehind t ht)
    · exact List.forall_mem_cons.mpr ⟨hstart, fun t ht => h.trans hc (hbehind t ht)⟩

theorem Scan.advancing_allTokens (s : Scan) (h : Forwards R s.metric s.rest) :
    Advancing R s.allTokens := by
  rw [← s.lexer.cuts_append_lastGap s.rest] at h
  have ha := (advancing_tokensFrom (s.lexer.cuts s.rest) (s.lexer.lastGap s.rest) s.here h).1
  rwa [s.lexer.cuts_append_lastGap s.rest] at ha

end Along

/-! ## Tokens that step back -/

/-- Whether the text of a cut leads back from the column `n`: it holds a carriage return and no line
feed, and is narrower than `n` behind its last carriage return. -/
def Cut.StepsBack (m : Metric) (n : Nat) (c : Cut) : Prop :=
  c.piece.inPlace = false ∧ m.singleLine = false ∧ '\n' ∉ c.taken ∧
    ∃ u v, c.taken = u ++ '\r' :: v ∧ '\r' ∉ v ∧ m.width v < n

theorem Cut.start_le_stop (m : Metric) (l : Location) (c : Cut) :
    (c.token m l).start ≤ (c.token m l).stop ↔
      ¬c.StepsBack m (c.token m l).start.column := by
  cases hp : c.piece.inPlace with
  | true => simpa [token, StepsBack, hp] using Location.le_refl _
  | false =>
    have h := Location.le_travel_iff m (l.travel m c.gap) c.taken
    simpa [token, text, StepsBack, hp] using h

namespace Lexer

theorem tokenize_sublist (lx : Lexer) (text : String) :
    (lx.tokenize text).Sublist (lx.scan text).allTokens :=
  (lx.scan text).remaining_sublist rfl

/-- **Which tokens end before they start.** None but those whose text steps back. -/
theorem start_le_stop_iff (lx : Lexer) (text : String) (t : Token) (h : t ∈ lx.tokenize text) :
    (t = endMarker (lx.settings.placeBehind text.toList) ∧ t.start ≤ t.stop) ∨
    ∃ before c after, lx.cuts text.toList = before ++ c :: after ∧
      t = c.token lx.settings.metric (lx.settings.placeBehind (before.flatMap Cut.text)) ∧
      (t.start ≤ t.stop ↔ ¬c.StepsBack lx.settings.metric t.start.column) := by
  have hm : t ∈ (lx.scan text).allTokens := (lx.tokenize_sublist text).subset h
  rcases List.mem_append.mp hm with hm | hm
  · obtain ⟨before, c, after, hcuts, ht⟩ := exists_cut_of_mem_tokensFrom _ _ _ t hm
    refine .inr ⟨before, c, after, hcuts, ht, ?_⟩
    rw [ht]
    exact c.start_le_stop _ _
  · have ht := List.mem_singleton.mp hm
    refine .inl ⟨ht, ?_⟩
    rw [ht]
    exact Location.le_refl _

/-- A lexer without rules that keeps white space. -/
def ofBlanks : Lexer :=
  ofRules [] { skipWhitespace := false }

/-- A carriage return that is a token steps back to the first column. -/
theorem start_le_stop_iff_carriageReturn :
    ∃ t, t ∈ ofBlanks.tokenize "a\r" ∧
      t = ⟨.carriageReturn, "\r", ⟨0, 1⟩, ⟨0, 0⟩⟩ ∧
      ((t = endMarker (ofBlanks.settings.placeBehind "a\r".toList) ∧ t.start ≤ t.stop) ∨
      ∃ before c after, ofBlanks.cuts "a\r".toList = before ++ c :: after ∧
        t = c.token ofBlanks.settings.metric
          (ofBlanks.settings.placeBehind (before.flatMap Cut.text)) ∧
        (t.start ≤ t.stop ↔ ¬c.StepsBack ofBlanks.settings.metric t.start.column)) := by
  have h : (⟨.carriageReturn, "\r", ⟨0, 1⟩, ⟨0, 0⟩⟩ : Token) ∈ ofBlanks.tokenize "a\r" := by
    decide +kernel
  exact ⟨_, h, rfl, start_le_stop_iff ofBlanks "a\r" _ h⟩

theorem not_start_le_stop_carriageReturn :
    ¬∀ t ∈ ofBlanks.tokenize "a\r", t.start ≤ t.stop := by
  decide +kernel

/-- **Places along a scan.** Lines never go back from token to token, and neither do places where
there is only one line or no carriage return. -/
theorem tokenize_advancing (lx : Lexer) (text : String) :
    Advancing (fun a b => a.line ≤ b.line) (lx.tokenize text) ∧
    (lx.settings.allOneLine = true ∨ '\r' ∉ text.toList →
      Advancing (· ≤ ·) (lx.tokenize text)) := by
  have hs := lx.tokenize_sublist text
  constructor
  · exact ((lx.scan text).advancing_allTokens (Location.forwards_line _ _)).sublist hs
  · intro h
    exact ((lx.scan text).advancing_allTokens (Location.forwards_le _ _ h)).sublist hs

/-- Tabs without width, a line feed and an unclaimed character. -/
theorem tokenize_advancing_tabs :
    '\r' ∉ "a\t\n$\tb".toList ∧ Advancing (· ≤ ·)
      ((ofRules [] { skipWhitespace := false, tabSize := 0 }).tokenize "a\t\n$\tb") := by
  have h : '\r' ∉ "a\t\n$\tb".toList := by decide
  exact ⟨h, (tokenize_advancing _ "a\t\n$\tb").2 (.inr h)⟩

end Lexer

end LexicalRules
