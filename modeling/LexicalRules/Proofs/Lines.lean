import LexicalRules.Proofs.Coverage
import LexicalRules.Proofs.Travel
import Mathlib.Data.List.Find

/-! # Scanning line by line

Most lexers never look past a line feed: `Lexer.ReadsByLine` says which. A text that is put together
from two at a line feed then has the tokens of the two, those of the second further down. The main
statements are `piece_append_break`, that a piece is the same whether the text ends or a line feed
follows, `cuts_append_break` for all pieces of a text, and `tokenize_append_break` for its tokens.
-/

namespace LexicalRules
set_option autoImplicit false

/-! ## A line feed ends what the end of the text ends -/

theorem takeWhile_append_break (p : Char → Bool) (hp : p '\n' = false) (cs b : List Char) :
    (cs ++ '\n' :: b).takeWhile p = cs.takeWhile p := by
  rw [List.takeWhile_append]
  split
  · -- All of the text is taken, so that only the line feed stops it.
    rename_i h
    have he : cs.takeWhile p = cs := (List.takeWhile_prefix p).eq_of_length h
    simp [hp, he]
  · rfl

/-- A text without line feeds does not reach over one. -/
theorem take_append_break (p : List Char) (hp : '\n' ∉ p) (cs b : List Char) :
    (cs ++ '\n' :: b).take p.length = p ↔ cs.take p.length = p := by
  by_cases hl : p.length ≤ cs.length
  · rw [List.take_append_of_le_length hl]
  · have hm : '\n' ∈ (cs ++ '\n' :: b).take p.length := by
      obtain ⟨k, hk⟩ : ∃ k, p.length - cs.length = k + 1 := ⟨p.length - cs.length - 1, by omega⟩
      simp [List.take_append, hk]
    constructor
    · intro h
      rw [h] at hm
      exact absurd hm hp
    · intro h
      have hlen := congrArg List.length h
      rw [List.length_take] at hlen
      omega

theorem Body.restOfLine_append_break (cs b : List Char) :
    restOfLine (cs ++ '\n' :: b) = restOfLine cs :=
  takeWhile_append_break _ (by decide) cs b

namespace Numeral

theorem gather_append_break (isSign : Char → Bool) (point : Bool) (cs b : List Char) :
    gather isSign false point (cs ++ '\n' :: b) = gather isSign false point cs := by
  induction cs generalizing point with
  | nil => simp [gather, show Char.isDigit '\n' = false by decide]
  | cons c cs ih => simp only [List.cons_append, gather, ih]

theorem gather_cons_append_break (isSign : Char → Bool) (first point : Bool) (c : Char)
    (cs b : List Char) :
    gather isSign first point (c :: cs ++ '\n' :: b) = gather isSign first point (c :: cs) := by
  simp only [List.cons_append, gather, gather_append_break]

end Numeral

/-! ## Places further down -/

def Location.below (n : Nat) (l : Location) : Location :=
  ⟨l.line + n, l.column⟩

def Token.below (n : Nat) (t : Token) : Token :=
  { t with start := t.start.below n, stop := t.stop.below n }

theorem Location.after_below (m : Metric) (n : Nat) (l : Location) (c : Char) :
    (l.below n).after m c = (l.after m c).below n := by
  unfold after below
  split_ifs
  · rfl
  · simp only [mk.injEq, and_true]
    omega
  all_goals rfl

theorem Location.travel_below (m : Metric) (n : Nat) (l : Location) (s : List Char) :
    (l.below n).travel m s = (l.travel m s).below n := by
  induction s generalizing l with
  | nil => rfl
  | cons c s ih => rw [travel_cons, travel_cons, after_below, ih]

/-- Behind a line feed a text goes on at the beginning of its line. -/
theorem Location.travel_break (m : Metric) (hm : m.singleLine = false) (s : List Char) :
    origin.travel m (s ++ ['\n']) = origin.below (1 + s.count '\n') := by
  have hl := travel_line m hm origin s
  have ha : (origin.travel m s).after m '\n' = ⟨(origin.travel m s).line + 1, 0⟩ := by
    simp [after, hm]
  rw [travel_append, travel_cons, travel_nil, ha, hl, Nat.add_assoc, Nat.add_comm (s.count '\n')]
  rfl

theorem Cut.token_below (m : Metric) (n : Nat) (l : Location) (c : Cut) :
    c.token m (l.below n) = (c.token m l).below n := by
  simp only [token, Token.below, Location.travel_below, apply_ite (Location.below n)]

theorem tokensFrom_below (m : Metric) (n : Nat) (l : Location) (cs : List Cut) :
    tokensFrom m (l.below n) cs = (tokensFrom m l cs).map (Token.below n) := by
  induction cs generalizing l with
  | nil => rfl
  | cons c cs ih =>
    rw [tokensFrom, tokensFrom, c.token_below, Location.travel_below, ih, List.map_cons]

/-! ## Lexers that read line by line -/

namespace Lexer

/-- Line feeds are passed over, and nothing that the lexer reads goes on behind one. -/
structure ReadsByLine (lx : Lexer) : Prop where
  skips : lx.settings.skipWhitespace = true
  passes : lx.settings.newlinesAsTokens = false
  manyLines : lx.settings.allOneLine = false
  exact : lx.settings.ignoreCase = false
  word_ends : '\n' ∉ lx.settings.wordIncluded.toList
  catchAll_ne : lx.settings.catchAllKind ≠ some .endOfFile
  rule_exact : ∀ r ∈ lx.rules, r.ignoreCase = false
  pattern_ends : ∀ r ∈ lx.rules, '\n' ∉ r.pattern.toList
  rule_ne_multiLine : ∀ r ∈ lx.rules, r.kind ≠ .multiLineComment
  rule_ne_endOfFile : ∀ r ∈ lx.rules, r.kind ≠ .endOfFile
  enclosed_line : ∀ r ∈ lx.rules, r.isEnclosed = true → r.kind = .endOfLineComment

theorem wordTail_length_le (lx : Lexer) (c : Char) (cs : List Char) :
    1 + (lx.wordTail cs).length ≤ (c :: cs).length := by
  have hl : (lx.wordTail cs).length ≤ cs.length := (List.takeWhile_prefix _).length_le
  rw [List.length_cons]
  omega

namespace ReadsByLine
variable {lx : Lexer} (h : lx.ReadsByLine)
include h

theorem isSilent_break : lx.settings.isSilent '\n' = true := by
  have hb : Text.isBlank '\n' = true := by decide
  simp [Settings.isSilent, hb, h.skips, h.passes]

theorem isWordContinue_break : lx.settings.isWordContinue '\n' = false := by
  have hl : Text.isLetterOrNumeric '\n' = false := by decide
  have hi := h.word_ends
  simp [Settings.isWordContinue, hl, hi]

theorem whitespacePiece_eq_none (c : Char) (cs : List Char) :
    lx.whitespacePiece c cs = none := by
  simp [whitespacePiece, h.skips, h.passes]

theorem form_eq (r : Rule) (hr : r ∈ lx.rules) : r.form = .literal ∨ r.form = .line := by
  have hm := h.rule_ne_multiLine r hr
  have he := h.enclosed_line r hr
  cases hk : r.kind with
  | endOfLineComment =>
    right
    simp [Rule.form, hk]
  | multiLineComment => exact absurd hk hm
  | _ =>
    left
    have hd : r.isEnclosed = false := by
      cases hi : r.isEnclosed with
      | false => rfl
      | true =>
        have hc := he hi
        rw [hk] at hc
        cases hc
    simp [Rule.form, hk, hd]

/-! ### Pieces -/

theorem body_append_break (r : Rule) (hr : r ∈ lx.rules) (escapes : Bool) (cs b : List Char) :
    r.body escapes (cs ++ '\n' :: b) = r.body escapes cs := by
  rcases h.form_eq r hr with hf | hf
  · simp [Rule.body, hf]
  · simp [Rule.body, hf, Body.ofLine, Body.restOfLine_append_break]

theorem body_size_le (r : Rule) (hr : r ∈ lx.rules) (escapes : Bool) (cs : List Char) :
    (r.body escapes cs).size ≤ cs.length := by
  rcases h.form_eq r hr with hf | hf
  · simp [Rule.body, hf]
  · have hl := (Body.restOfLine_isPrefix cs).length_le
    simpa [Rule.body, hf, Body.ofLine] using hl

theorem rulePiece_append_break (r : Rule) (hr : r ∈ lx.rules) (opening : Nat)
    (text b : List Char) (ho : opening ≤ text.length) :
    lx.rulePiece r opening (text ++ '\n' :: b) = lx.rulePiece r opening text := by
  simp only [rulePiece, List.drop_append_of_le_length ho, h.body_append_break r hr]

theorem rulePiece_size_le (r : Rule) (hr : r ∈ lx.rules) (opening : Nat) (text : List Char)
    (ho : opening ≤ text.length) : (lx.rulePiece r opening text).size ≤ text.length := by
  have hb := h.body_size_le r hr lx.settings.parseEscapeSequences (text.drop opening)
  rw [List.length_drop] at hb
  simp only [rulePiece]
  omega

theorem standsAt_iff (text : List Char) (r : Rule) (hr : r ∈ lx.rules) :
    lx.standsAt text r = true ↔
      r.pattern ≠ "" ∧ text.take r.pattern.toList.length = r.pattern.toList := by
  have hi : lx.ignoresCase r = false := by simp [ignoresCase, h.exact, h.rule_exact r hr]
  rw [String.length_toList]
  simp [standsAt, hi, Text.sameText_exact]

theorem standsAt_append_break (text b : List Char) (r : Rule) (hr : r ∈ lx.rules) :
    lx.standsAt (text ++ '\n' :: b) r = lx.standsAt text r := by
  rw [Bool.eq_iff_iff, h.standsAt_iff _ r hr, h.standsAt_iff _ r hr,
    take_append_break r.pattern.toList (h.pattern_ends r hr)]

theorem ruleAt_append_break (text b : List Char) :
    lx.ruleAt (text ++ '\n' :: b) = lx.ruleAt text :=
  List.find?_congr fun r hr => h.standsAt_append_break text b r hr

theorem pattern_length_le (text : List Char) (r : Rule) (hr : lx.ruleAt text = some r) :
    r.pattern.length ≤ text.length := by
  have hs := (h.standsAt_iff text r (lx.mem_rules_of_ruleAt text r hr)).mp (List.find?_some hr)
  have hl := congrArg List.length hs.2
  rw [List.length_take, String.length_toList] at hl
  omega

theorem wordTail_append_break (cs b : List Char) :
    lx.wordTail (cs ++ '\n' :: b) = lx.wordTail cs := by
  have hp : (('\n' == '\x00') || lx.settings.isWordContinue '\n') = false := by
    rw [h.isWordContinue_break]
    decide
  exact takeWhile_append_break _ hp cs b

theorem wordPiece_append_break (c : Char) (cs b : List Char) :
    lx.wordPiece c (cs ++ '\n' :: b) = lx.wordPiece c cs := by
  have hword : lx.wordOf c (cs ++ '\n' :: b) = lx.wordOf c cs := by
    rw [wordOf, wordOf, h.wordTail_append_break]
  simp only [wordPiece, h.wordTail_append_break, hword]
  cases hr : lx.ruleOfWord (lx.wordOf c cs) with
  | none => rfl
  | some r =>
    have hp := h.rulePiece_append_break r (lx.mem_rules_of_ruleOfWord _ r hr)
      (1 + (lx.wordTail cs).length) (c :: cs) b (lx.wordTail_length_le c cs)
    rw [List.cons_append] at hp
    simp only [hp]

theorem matchPiece_append_break (text b : List Char) :
    lx.matchPiece (text ++ '\n' :: b) = lx.matchPiece text := by
  rw [matchPiece, matchPiece, h.ruleAt_append_break]
  cases hr : lx.ruleAt text with
  | none => rfl
  | some r =>
    have hp := h.rulePiece_append_break r (lx.mem_rules_of_ruleAt text r hr) r.pattern.length
      text b (h.pattern_length_le text r hr)
    simp only [Option.map_some, hp]

/-- **A line feed cuts a piece where the end of the text cuts it.** -/
theorem piece_append_break (c : Char) (cs b : List Char) :
    lx.piece c (cs ++ '\n' :: b) = lx.piece c cs := by
  have hm := h.matchPiece_append_break (c :: cs) b
  have hn : lx.numberPiece c (cs ++ '\n' :: b) = lx.numberPiece c cs := by
    have hg := Numeral.gather_cons_append_break lx.settings.isNegativeSign true false c cs b
    rw [List.cons_append] at hg
    simp only [numberPiece, hg]
  rw [List.cons_append] at hm
  simp only [piece, h.whitespacePiece_eq_none, h.wordPiece_append_break, hm, hn]

theorem piece_size_le (c : Char) (cs : List Char) :
    (lx.piece c cs).size ≤ (c :: cs).length := by
  have hmk := lx.makes_piece c cs
  cases hp : lx.piece c cs with
  | mk kind lexeme size inPlace =>
    rw [hp] at hmk
    cases hmk with
    | blank k hb hs hk => simp
    | lineBreak ds hs hn hc hd => simp [hd]
    | word hb hw hr => exact lx.wordTail_length_le c cs
    | wordRule r hb hw hr =>
      exact h.rulePiece_size_le r (lx.mem_rules_of_ruleOfWord _ r hr) _ _
        (lx.wordTail_length_le c cs)
    | rule r hb hw hr =>
      exact h.rulePiece_size_le r (lx.mem_rules_of_ruleAt _ r hr) _ _
        (h.pattern_length_le _ r hr)
    | number hb hw hr hn => exact (Numeral.written_isPrefix lx.settings (c :: cs)).length_le
    | unclaimed hb hw hr hn => simp

/-! ### Cuts -/

theorem cutAt_append_break (a b : List Char) (c : Char) (cs : List Char)
    (hd : a.dropWhile lx.settings.isSilent = c :: cs) :
    lx.cutAt (a ++ '\n' :: b) c (cs ++ '\n' :: b) = lx.cutAt a c cs := by
  have hgap : (a ++ '\n' :: b).takeWhile lx.settings.isSilent =
      a.takeWhile lx.settings.isSilent := by
    have ha := congrArg List.length
      (List.takeWhile_append_dropWhile (p := lx.settings.isSilent) (l := a))
    rw [hd, List.length_append, List.length_cons] at ha
    rw [List.takeWhile_append, if_neg (by omega)]
  have htaken : (c :: (cs ++ '\n' :: b)).take (lx.piece c cs).size =
      (c :: cs).take (lx.piece c cs).size :=
    List.take_append_of_le_length (h.piece_size_le c cs)
  simp only [cutAt, h.piece_append_break, hgap, htaken]

/-- **The cuts of a text are those of its lines.** The line feed and the gap in front of it go to the
first cut behind. -/
theorem cuts_append_break (a b : List Char) :
    lx.cuts (a ++ '\n' :: b) = lx.cuts a ++ withGap (lx.lastGap a ++ ['\n']) (lx.cuts b) := by
  -- Along the cuts of the first text: each is cut as before, and when none is left, all that remains
  -- of it goes into the gap with the line feed.
  fun_induction cuts lx a with
  | case1 a hd =>
    have hg : ∀ x ∈ a ++ ['\n'], lx.settings.isSilent x = true := by
      intro x hx
      rcases List.mem_append.mp hx with hx | hx
      · exact List.dropWhile_eq_nil_iff.mp hd x hx
      · rw [List.mem_singleton.mp hx]
        exact h.isSilent_break
    rw [lx.lastGap_of_nil a hd, List.append_cons, lx.cuts_append_silent _ b hg, List.nil_append]
  | case2 a c cs hd ih =>
    have hd' : (a ++ '\n' :: b).dropWhile lx.settings.isSilent = c :: (cs ++ '\n' :: b) := by
      simp [List.dropWhile_append, hd]
    have hdrop : (c :: (cs ++ '\n' :: b)).drop (lx.piece c cs).size =
        (c :: cs).drop (lx.piece c cs).size ++ '\n' :: b :=
      List.drop_append_of_le_length (h.piece_size_le c cs)
    rw [lx.cuts_of_cons _ c _ hd', h.cutAt_append_break a b c cs hd, h.piece_append_break, hdrop, ih,
      lx.lastGap_of_cons a c cs hd, List.cons_append]

/-! ### Tokens -/

theorem cuts_kind_ne (text : List Char) : ∀ c ∈ lx.cuts text, c.piece.kind ≠ .endOfFile :=
  lx.cuts_kind_ne_endOfFile h.rule_ne_endOfFile h.catchAll_ne text

/-- The second text starts where the line feed leads, in the first column. -/
theorem tokensFrom_append_break (a b : List Char) :
    tokensFrom lx.settings.metric .origin (lx.cuts (a ++ '\n' :: b)) =
      tokensFrom lx.settings.metric .origin (lx.cuts a) ++
        (tokensFrom lx.settings.metric .origin (lx.cuts b)).map
          (Token.below (1 + a.count '\n')) := by
  have hplace : (Location.origin.travel lx.settings.metric
      ((lx.cuts a).flatMap Cut.text)).travel lx.settings.metric (lx.lastGap a ++ ['\n']) =
      Location.origin.below (1 + a.count '\n') := by
    rw [← Location.travel_append, ← List.append_assoc, lx.cuts_append_lastGap]
    exact Location.travel_break _ h.manyLines a
  rw [h.cuts_append_break, tokensFrom_append, tokensFrom_withGap, hplace, tokensFrom_below]

theorem placeBehind_append_break (a b : List Char) :
    lx.settings.placeBehind (a ++ '\n' :: b) =
      (lx.settings.placeBehind b).below (1 + a.count '\n') := by
  rw [List.append_cons, Settings.placeBehind_append, Settings.placeBehind,
    Location.travel_break _ h.manyLines, Location.travel_below]
  rfl

end ReadsByLine

/-- **Scanning line by line.** A text that is put together at a line feed has the tokens of its two
parts: those of the first but its end marker, and those of the second, as many lines further down as
the first part has. -/
theorem tokenize_append_break (lx : Lexer) (h : lx.ReadsByLine) (a b : String) :
    ∃ ts e, lx.tokenize a = ts ++ [e] ∧ e.kind = .endOfFile ∧ (∀ t ∈ ts, t.kind ≠ .endOfFile) ∧
      lx.tokenize (a ++ "\n" ++ b) =
        ts ++ (lx.tokenize b).map (Token.below (1 + a.toList.count '\n')) := by
  have htext : (a ++ "\n" ++ b).toList = a.toList ++ '\n' :: b.toList := by simp
  refine ⟨_, _, lx.tokenize_of_forall_ne a (h.cuts_kind_ne a.toList), rfl, ?_, ?_⟩
  · intro t ht
    obtain ⟨c, hc, hk⟩ := kind_of_mem_tokensFrom _ _ _ t (List.mem_filter.mp ht).1
    rw [hk]
    exact h.cuts_kind_ne a.toList c hc
  · rw [lx.tokenize_of_forall_ne (a ++ "\n" ++ b) (h.cuts_kind_ne _),
      lx.tokenize_of_forall_ne b (h.cuts_kind_ne _), htext, h.tokensFrom_append_break,
      h.placeBehind_append_break, List.filter_append, List.map_append, List.append_assoc,
      List.filter_map]
    rfl

/-- A lexer for bindings and comments, which is one that reads line by line. -/
def ofBindings : Lexer :=
  ofRules [.literal (.custom "Let") "let", .literal (.custom "Assign") "=",
    .literal (.custom "Semicolon") ";", .literal .endOfLineComment "//"] {}

theorem tokenize_append_break_bindings :
    ofBindings.ReadsByLine ∧ ∃ ts e,
      ofBindings.tokenize "let a = 1;\n// alias" = ts ++ [e] ∧ e.kind = .endOfFile ∧
      (∀ t ∈ ts, t.kind ≠ .endOfFile) ∧
      ofBindings.tokenize ("let a = 1;\n// alias" ++ "\n" ++ "let b = a;\n") =
        ts ++ (ofBindings.tokenize "let b = a;\n").map (Token.below 2) := by
  have h : ofBindings.ReadsByLine := by
    refine ⟨rfl, rfl, rfl, rfl, by decide, by decide, ?_, ?_, ?_, ?_, ?_⟩
    all_goals
      simp only [ofBindings, mem_rules_ofRules]
      decide
  exact ⟨h, tokenize_append_break ofBindings h "let a = 1;\n// alias" "let b = a;\n"⟩

end Lexer

end LexicalRules
