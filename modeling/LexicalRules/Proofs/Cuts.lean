import LexicalRules.Scan
import Mathlib.Data.List.TakeWhile

/-! # The cuts of a text

`Lexer.cuts` cuts up a whole text. A `Cut` is a stretch that is passed over and the stretch that a token
takes; places play no part in it, nor does the end of a scan. `tokensFrom` puts the tokens of cuts in
their places. The main statements are `cuts_append_lastGap`, that nothing of a text is lost, and
`Scan.remaining_eq`, that a scan gives out the tokens of the cuts and the end marker, less those that are
not kept, up to the first of kind `endOfFile`.
-/

namespace LexicalRules
set_option autoImplicit false

/-- The text of one token, with the gap in front of it. -/
structure Cut where
  gap : List Char
  taken : List Char
  piece : Piece
  deriving DecidableEq, Repr

namespace Cut

def text (c : Cut) : List Char :=
  c.gap ++ c.taken

/-- The token of a cut whose text starts at `l`. -/
def token (m : Metric) (l : Location) (c : Cut) : Token where
  kind := c.piece.kind
  lexeme := String.ofList c.piece.lexeme
  start := l.travel m c.gap
  stop := if c.piece.inPlace then l.travel m c.gap else l.travel m c.text

end Cut

/-- The tokens of cuts whose text starts at `l`. -/
def tokensFrom (m : Metric) : Location → List Cut → List Token
  | _, [] => []
  | l, c :: cs => c.token m l :: tokensFrom m (l.travel m c.text) cs

@[simp] theorem tokensFrom_length (m : Metric) (l : Location) (cs : List Cut) :
    (tokensFrom m l cs).length = cs.length := by
  induction cs generalizing l with
  | nil => rfl
  | cons c cs ih => simp [tokensFrom, ih]

theorem tokensFrom_append (m : Metric) (l : Location) (cs ds : List Cut) :
    tokensFrom m l (cs ++ ds) =
      tokensFrom m l cs ++ tokensFrom m (l.travel m (cs.flatMap Cut.text)) ds := by
  induction cs generalizing l with
  | nil => rfl
  | cons c cs ih => simp [tokensFrom, ih]

theorem exists_cut_of_mem_tokensFrom (m : Metric) (l : Location) (cs : List Cut) (t : Token)
    (h : t ∈ tokensFrom m l cs) : ∃ before c after, cs = before ++ c :: after ∧
      t = c.token m (l.travel m (before.flatMap Cut.text)) := by
  induction cs generalizing l with
  | nil => cases h
  | cons c cs ih =>
    rw [tokensFrom, List.mem_cons] at h
    rcases h with rfl | h
    · exact ⟨[], c, cs, rfl, rfl⟩
    · obtain ⟨before, d, after, rfl, rfl⟩ := ih _ h
      exact ⟨c :: before, d, after, rfl, by simp⟩

theorem kind_of_mem_tokensFrom (m : Metric) (l : Location) (cs : List Cut) (t : Token)
    (h : t ∈ tokensFrom m l cs) : ∃ c ∈ cs, t.kind = c.piece.kind := by
  obtain ⟨before, c, after, rfl, rfl⟩ := exists_cut_of_mem_tokensFrom m l cs t h
  exact ⟨c, by simp, rfl⟩

/-- The place that counting all of `s` leads to, from the beginning of a text. -/
def Settings.placeBehind (settings : Settings) (s : List Char) : Location :=
  Location.origin.travel settings.metric s

theorem Settings.placeBehind_append (settings : Settings) (s t : List Char) :
    settings.placeBehind (s ++ t) = (settings.placeBehind s).travel settings.metric t := by
  simp [placeBehind]

/-- The token that stands for the end of a text that ends at `l`. -/
def endMarker (l : Location) : Token where
  kind := .endOfFile
  lexeme := Scan.endLexeme
  start := l
  stop := l

@[simp] theorem endMarker_kind (l : Location) : (endMarker l).kind = .endOfFile := rfl

@[simp] theorem endMarker_start (l : Location) : (endMarker l).start = l := rfl

@[simp] theorem endMarker_stop (l : Location) : (endMarker l).stop = l := rfl

/-! ## Cutting up a text -/

namespace Lexer

/-- The cut at the head of `text`, where `c :: cs` is left behind the gap. -/
def cutAt (lx : Lexer) (text : List Char) (c : Char) (cs : List Char) : Cut where
  gap := text.takeWhile lx.settings.isSilent
  taken := (c :: cs).take (lx.piece c cs).size
  piece := lx.piece c cs

/-- The cuts of a text, one for each token that it holds. -/
def cuts (lx : Lexer) (text : List Char) : List Cut :=
  match _h : text.dropWhile lx.settings.isSilent with
  | [] => []
  | c :: cs => lx.cutAt text c cs :: lx.cuts ((c :: cs).drop (lx.piece c cs).size)
termination_by text.length
decreasing_by
  have hle : (c :: cs).length ≤ text.length := _h ▸ (List.dropWhile_suffix _).length_le
  have hp := lx.piece_size_pos c cs
  simp only [List.length_drop, List.length_cons] at *
  omega

theorem cuts_of_nil (lx : Lexer) (text : List Char)
    (h : text.dropWhile lx.settings.isSilent = []) : lx.cuts text = [] := by
  rw [cuts]
  split
  · rfl
  · simp_all

theorem cuts_of_cons (lx : Lexer) (text : List Char) (c : Char) (cs : List Char)
    (h : text.dropWhile lx.settings.isSilent = c :: cs) :
    lx.cuts text = lx.cutAt text c cs :: lx.cuts ((c :: cs).drop (lx.piece c cs).size) := by
  rw [cuts]
  split
  · simp_all
  · rename_i d ds hd
    rw [h] at hd
    cases hd
    rfl

/-- What is left of a text behind its last token. -/
def lastGap (lx : Lexer) (text : List Char) : List Char :=
  text.drop ((lx.cuts text).flatMap Cut.text).length

theorem cutAt_text_append (lx : Lexer) (text : List Char) (c : Char) (cs : List Char)
    (h : text.dropWhile lx.settings.isSilent = c :: cs) :
    (lx.cutAt text c cs).text ++ (c :: cs).drop (lx.piece c cs).size = text := by
  simp only [Cut.text, cutAt, List.append_assoc, List.take_append_drop]
  rw [← h, List.takeWhile_append_dropWhile]

theorem lastGap_of_nil (lx : Lexer) (text : List Char)
    (h : text.dropWhile lx.settings.isSilent = []) : lx.lastGap text = text := by
  simp [lastGap, lx.cuts_of_nil text h]

theorem drop_cutAt (lx : Lexer) (text : List Char) (c : Char) (cs : List Char)
    (h : text.dropWhile lx.settings.isSilent = c :: cs) :
    text.drop (lx.cutAt text c cs).text.length = (c :: cs).drop (lx.piece c cs).size := by
  have hd : ((lx.cutAt text c cs).text ++ (c :: cs).drop (lx.piece c cs).size).drop
      (lx.cutAt text c cs).text.length = (c :: cs).drop (lx.piece c cs).size := List.drop_left
  rwa [lx.cutAt_text_append text c cs h] at hd

theorem take_cutAt (lx : Lexer) (text : List Char) (c : Char) (cs : List Char)
    (h : text.dropWhile lx.settings.isSilent = c :: cs) :
    text.take (lx.cutAt text c cs).text.length = (lx.cutAt text c cs).text := by
  have ht : ((lx.cutAt text c cs).text ++ (c :: cs).drop (lx.piece c cs).size).take
      (lx.cutAt text c cs).text.length = (lx.cutAt text c cs).text := List.take_left
  rwa [lx.cutAt_text_append text c cs h] at ht

theorem lastGap_of_cons (lx : Lexer) (text : List Char) (c : Char) (cs : List Char)
    (h : text.dropWhile lx.settings.isSilent = c :: cs) :
    lx.lastGap text = lx.lastGap ((c :: cs).drop (lx.piece c cs).size) := by
  unfold lastGap
  rw [lx.cuts_of_cons text c cs h, List.flatMap_cons, List.length_append, ← List.drop_drop,
    lx.drop_cutAt text c cs h]

/-- **Nothing of a text is lost.** The cuts, gaps included, and the last gap are the text. -/
theorem cuts_append_lastGap (lx : Lexer) (text : List Char) :
    (lx.cuts text).flatMap Cut.text ++ lx.lastGap text = text := by
  fun_induction cuts lx text with
  | case1 text h => simp [lx.lastGap_of_nil text h]
  | case2 text c cs h ih =>
    rw [List.flatMap_cons, lx.lastGap_of_cons text c cs h, List.append_assoc, ih]
    exact lx.cutAt_text_append text c cs h

theorem lastGap_silent (lx : Lexer) (text : List Char) :
    (lx.lastGap text).all lx.settings.isSilent = true := by
  fun_induction cuts lx text with
  | case1 text h =>
    rw [lx.lastGap_of_nil text h, List.all_eq_true]
    exact List.dropWhile_eq_nil_iff.mp h
  | case2 text c cs h ih => rw [lx.lastGap_of_cons text c cs h, ih]

theorem forall_cuts (lx : Lexer) (P : Cut → Prop)
    (hP : ∀ text c cs, text.dropWhile lx.settings.isSilent = c :: cs → P (lx.cutAt text c cs))
    (text : List Char) : ∀ d ∈ lx.cuts text, P d := by
  fun_induction cuts lx text with
  | case1 text h => simp
  | case2 text c cs h ih =>
    intro d hd
    rcases List.mem_cons.mp hd with rfl | hd
    · exact hP text c cs h
    · exact ih d hd

theorem cuts_eq_cons (lx : Lexer) (text : List Char) (b : Cut) (bs : List Cut)
    (h : lx.cuts text = b :: bs) :
    ∃ c cs, text.dropWhile lx.settings.isSilent = c :: cs ∧ b = lx.cutAt text c cs ∧
      bs = lx.cuts ((c :: cs).drop (lx.piece c cs).size) := by
  cases hd : text.dropWhile lx.settings.isSilent with
  | nil =>
    rw [lx.cuts_of_nil text hd] at h
    cases h
  | cons c cs =>
    rw [lx.cuts_of_cons text c cs hd] at h
    injection h with h1 h2
    exact ⟨c, cs, rfl, h1.symm, h2.symm⟩

/-- The piece of a cut is the one at the head of all that follows the gap of the cut. -/
theorem piece_of_cuts (lx : Lexer) (before : List Cut) (b : Cut) (after : List Cut)
    (text : List Char) (h : lx.cuts text = before ++ b :: after) :
    ∃ c cs, c :: cs = b.taken ++ (after.flatMap Cut.text ++ lx.lastGap text) ∧
      b.piece = lx.piece c cs := by
  induction before generalizing text with
  | nil =>
    obtain ⟨c, cs, hd, rfl, rfl⟩ := lx.cuts_eq_cons text b after h
    refine ⟨c, cs, ?_, rfl⟩
    rw [lx.lastGap_of_cons text c cs hd, lx.cuts_append_lastGap]
    exact (List.take_append_drop _ _).symm
  | cons d before ih =>
    obtain ⟨c, cs, hd, -, hr⟩ := lx.cuts_eq_cons text d (before ++ b :: after) h
    rw [lx.lastGap_of_cons text c cs hd]
    exact ih _ hr.symm

/-- The cuts of a text that has come to stand behind the gap `g`. -/
def withGap (g : List Char) : List Cut → List Cut
  | [] => []
  | c :: cs => { c with gap := g ++ c.gap } :: cs

theorem cuts_append_silent (lx : Lexer) (g b : List Char)
    (hg : ∀ x ∈ g, lx.settings.isSilent x = true) :
    lx.cuts (g ++ b) = withGap g (lx.cuts b) := by
  have hd : (g ++ b).dropWhile lx.settings.isSilent = b.dropWhile lx.settings.isSilent :=
    List.dropWhile_append_of_pos hg
  cases hb : b.dropWhile lx.settings.isSilent with
  | nil =>
    rw [lx.cuts_of_nil b hb, lx.cuts_of_nil _ (hd.trans hb)]
    rfl
  | cons c cs =>
    rw [lx.cuts_of_cons b c cs hb, lx.cuts_of_cons _ c cs (hd.trans hb)]
    simp only [withGap, cutAt, List.takeWhile_append_of_pos hg]

theorem tokensFrom_withGap (m : Metric) (l : Location) (g : List Char) (cs : List Cut) :
    tokensFrom m l (withGap g cs) = tokensFrom m (l.travel m g) cs := by
  cases cs with
  | nil => rfl
  | cons c cs => simp [withGap, tokensFrom, Cut.token, Cut.text]

theorem cuts_congr (lx lx' : Lexer) (hs : lx'.settings.isSilent = lx.settings.isSilent)
    (hp : lx'.piece = lx.piece) (text : List Char) : lx'.cuts text = lx.cuts text := by
  fun_induction cuts lx text with
  | case1 text h =>
    rw [← hs] at h
    exact lx'.cuts_of_nil text h
  | case2 text c cs h ih =>
    rw [← hs] at h
    rw [lx'.cuts_of_cons text c cs h, hp, ih]
    simp only [cutAt, hs, hp]

end Lexer

/-! ## What a scan gives out -/

/-- The tokens up to the first of kind `endOfFile`, that one included. -/
def upToEnd : List Token → List Token
  | [] => []
  | t :: ts => if t.kind = .endOfFile then [t] else t :: upToEnd ts

theorem upToEnd_append (ts us : List Token) (h : ∀ t ∈ ts, t.kind ≠ .endOfFile) :
    upToEnd (ts ++ us) = ts ++ upToEnd us := by
  induction ts with
  | nil => rfl
  | cons t ts ih =>
    have ht := h t List.mem_cons_self
    have hts := ih fun u hu => h u (List.mem_cons_of_mem t hu)
    simp [upToEnd, ht, hts]

namespace Scan

theorem next?_lexer {s s' : Scan} {t : Token} (h : s.next? = some (t, s')) :
    s'.lexer = s.lexer := by
  fun_induction next? s with
  | case1 s hf => cases h
  | case2 s hf hk =>
    cases h
    exact s.step_lexer
  | case3 s hf hk hc =>
    have hs : s.step.2 = s' := by rw [Option.some.inj h]
    rw [← hs, step_lexer]
  | case4 s hf hk hc ih => rw [ih h, step_lexer]

theorem take_lexer (n : Nat) (s : Scan) : (s.take n).2.lexer = s.lexer := by
  induction n generalizing s with
  | zero => rfl
  | succ n ih =>
    cases h : s.next? with
    | none => simp [take, h]
    | some p =>
      obtain ⟨t, s'⟩ := p
      simp only [take, h]
      rw [ih s', next?_lexer h]

/-- The token at `n` is the one that comes next when `n` tokens have been asked for. -/
theorem getElem?_remaining (n : Nat) (s : Scan) :
    s.remaining[n]? = (s.take n).2.next?.map Prod.fst := by
  induction n generalizing s with
  | zero =>
    cases h : s.next? with
    | none => simp [take, h, remaining_of_next?_eq_none h]
    | some p => simp [take, h, remaining_of_next?_eq_some h]
  | succ n ih =>
    cases h : s.next? with
    | none => simp [take, h, remaining_of_next?_eq_none h]
    | some p =>
      obtain ⟨t, s'⟩ := p
      rw [remaining_of_next?_eq_some h, List.getElem?_cons_succ, ih s']
      simp [take, h]

theorem step_of_nil (s : Scan) (h : s.behindGap = []) :
    s.step = (endMarker s.start, { s with rest := [], here := s.start }) := by
  unfold step
  rw [h]
  rfl

theorem step_of_cons (s : Scan) (c : Char) (cs : List Char) (h : s.behindGap = c :: cs) :
    s.step = ((s.lexer.cutAt s.rest c cs).token s.metric s.here,
      { s with
        rest := (c :: cs).drop (s.lexer.piece c cs).size
        here := s.here.travel s.metric (s.lexer.cutAt s.rest c cs).text }) := by
  unfold step
  rw [h]
  simp only [Cut.token, Cut.text, Lexer.cutAt, Location.travel_append, start, gap]

/-- All tokens of the text that is left, whatever their kinds, and the end marker. -/
def allTokens (s : Scan) : List Token :=
  tokensFrom s.metric s.here (s.lexer.cuts s.rest) ++ [endMarker (s.here.travel s.metric s.rest)]

theorem allTokens_of_nil (s : Scan) (h : s.behindGap = []) : s.allTokens = [s.step.1] := by
  have hg : s.gap = s.rest := by
    have ha := List.takeWhile_append_dropWhile (p := s.lexer.settings.isSilent) (l := s.rest)
    rwa [show s.rest.dropWhile s.lexer.settings.isSilent = [] from h, List.append_nil] at ha
  rw [allTokens, s.lexer.cuts_of_nil s.rest h, s.step_of_nil h, start, hg]
  rfl

theorem allTokens_of_cons (s : Scan) (c : Char) (cs : List Char) (h : s.behindGap = c :: cs) :
    s.allTokens = s.step.1 :: s.step.2.allTokens := by
  have ht := s.lexer.cutAt_text_append s.rest c cs h
  have hm : s.step.2.metric = s.metric := by simp [metric]
  unfold allTokens
  rw [hm, s.step_lexer, s.lexer.cuts_of_cons s.rest c cs h, s.step_of_cons c cs h, tokensFrom,
    ← Location.travel_append, ht, List.cons_append]

theorem allTokens_head (s : Scan) : ∃ ts, s.allTokens = s.step.1 :: ts := by
  cases h : s.behindGap with
  | nil => exact ⟨[], s.allTokens_of_nil h⟩
  | cons c cs => exact ⟨_, s.allTokens_of_cons c cs h⟩

theorem behindGap_ne_nil_of_kind (s : Scan) (h : s.step.1.kind ≠ .endOfFile) :
    ∃ c cs, s.behindGap = c :: cs := by
  cases hb : s.behindGap with
  | nil =>
    rw [s.step_of_nil hb] at h
    exact absurd rfl h
  | cons c cs => exact ⟨c, cs, rfl⟩

theorem allTokens_of_kind (s : Scan) (h : s.step.1.kind ≠ .endOfFile) :
    s.allTokens = s.step.1 :: s.step.2.allTokens := by
  obtain ⟨c, cs, hb⟩ := s.behindGap_ne_nil_of_kind h
  exact s.allTokens_of_cons c cs hb

/-! A scan that is under way does one of three things with the token of a step. -/

theorem next?_of_end (s : Scan) (hf : s.finished = false) (hk : s.step.1.kind = .endOfFile) :
    s.next? = some (s.step.1, { s.step.2 with finished := true }) := by
  rw [next?]
  simp [hf, hk]

theorem next?_of_kept (s : Scan) (hf : s.finished = false) (hk : s.step.1.kind ≠ .endOfFile)
    (hc : s.keeps s.step.1.kind = true) : s.next? = some (s.step.1, s.step.2) := by
  rw [next?]
  simp [hf, hk, hc]

theorem next?_of_dropped (s : Scan) (hf : s.finished = false) (hk : s.step.1.kind ≠ .endOfFile)
    (hc : s.keeps s.step.1.kind = false) : s.next? = s.step.2.next? := by
  rw [next?]
  simp [hf, hk, hc]

theorem drain_of_end (s : Scan) (hf : s.finished = false) (hk : s.step.1.kind = .endOfFile) :
    s.drain = ([s.step.1], { s.step.2 with finished := true }) := by
  rw [drain_of_next?_eq_some (s.next?_of_end hf hk), drain_of_next?_eq_none (by simp [next?])]

theorem drain_of_kept (s : Scan) (hf : s.finished = false) (hk : s.step.1.kind ≠ .endOfFile)
    (hc : s.keeps s.step.1.kind = true) :
    s.drain = (s.step.1 :: s.step.2.drain.1, s.step.2.drain.2) :=
  drain_of_next?_eq_some (s.next?_of_kept hf hk hc)

theorem drain_of_dropped (s : Scan) (hf : s.finished = false) (hk : s.step.1.kind ≠ .endOfFile)
    (hc : s.keeps s.step.1.kind = false) : s.drain = s.step.2.drain := by
  have hn := s.next?_of_dropped hf hk hc
  cases hp : s.step.2.next? with
  | none =>
    have hf' := (next?_eq_none_iff s.step.2).mp hp
    rw [step_finished, hf] at hf'
    cases hf'
  | some p => rw [drain_of_next?_eq_some hp, drain_of_next?_eq_some (hn.trans hp)]

theorem keeps_endOfFile (s : Scan) : s.keeps .endOfFile = true := by
  simp [keeps, TokenKind.isComment]

theorem keeps_step (s : Scan) : s.step.2.keeps = s.keeps := by
  funext k
  simp [keeps]

/-- **What a scan gives out**: the kept tokens of its text, up to the first of kind `endOfFile`. -/
theorem remaining_eq (s : Scan) (hf : s.finished = false) :
    s.remaining = upToEnd (s.allTokens.filter fun t => s.keeps t.kind) := by
  -- By the length of the text: a step that does not end the scan shortens it, kept or not.
  by_cases hk : s.step.1.kind = .endOfFile
  · obtain ⟨ts, hts⟩ := s.allTokens_head
    rw [remaining, s.drain_of_end hf hk, hts]
    simp [hk, s.keeps_endOfFile, upToEnd]
  · have hlt := s.step_rest_lt_of_kind hk
    have ih := remaining_eq s.step.2 (by rw [step_finished, hf])
    rw [keeps_step, remaining] at ih
    rw [s.allTokens_of_kind hk, remaining]
    cases hc : s.keeps s.step.1.kind with
    | true =>
      rw [s.drain_of_kept hf hk hc, ih]
      simp [hc, hk, upToEnd]
    | false =>
      rw [s.drain_of_dropped hf hk hc, ih]
      simp [hc]
termination_by s.rest.length

/-- A text whose tokens are all of another kind than `endOfFile` is scanned to its end. -/
theorem remaining_of_forall_ne (s : Scan) (hf : s.finished = false)
    (h : ∀ c ∈ s.lexer.cuts s.rest, c.piece.kind ≠ .endOfFile) :
    s.remaining =
      ((tokensFrom s.metric s.here (s.lexer.cuts s.rest)).filter fun t => s.keeps t.kind) ++
        [endMarker (s.here.travel s.metric s.rest)] := by
  rw [s.remaining_eq hf, allTokens, List.filter_append, upToEnd_append]
  · simp [endMarker, s.keeps_endOfFile, upToEnd]
  · intro t ht
    obtain ⟨c, hc, hk⟩ := kind_of_mem_tokensFrom _ _ _ t ((List.mem_filter.mp ht).1)
    rw [hk]
    exact h c hc

/-- The scan that has come `before` far: the text and the caret behind those cuts. -/
def behind (s : Scan) (before : List Cut) : Scan :=
  { s with
    rest := s.rest.drop (before.flatMap Cut.text).length
    here := s.here.travel s.metric (before.flatMap Cut.text) }

theorem behind_append (s : Scan) (before after : List Cut) :
    (s.behind before).behind after = s.behind (before ++ after) := by
  simp [behind, metric]

theorem step_of_cuts (s : Scan) (b : Cut) (bs : List Cut) (h : s.lexer.cuts s.rest = b :: bs) :
    s.step = (b.token s.metric s.here, s.behind [b]) ∧
      s.lexer.cuts (s.behind [b]).rest = bs := by
  obtain ⟨c, cs, hb, rfl, rfl⟩ := s.lexer.cuts_eq_cons s.rest b bs h
  have hr : s.behind [s.lexer.cutAt s.rest c cs] =
      { s with
        rest := (c :: cs).drop (s.lexer.piece c cs).size
        here := s.here.travel s.metric (s.lexer.cutAt s.rest c cs).text } := by
    simp [behind, s.lexer.drop_cutAt s.rest c cs hb]
  rw [hr]
  exact ⟨s.step_of_cons c cs hb, rfl⟩

theorem cuts_behind (before after : List Cut) (s : Scan)
    (h : s.lexer.cuts s.rest = before ++ after) : s.lexer.cuts (s.behind before).rest = after := by
  induction before generalizing s with
  | nil => exact h
  | cons b before ih =>
    obtain ⟨-, hr⟩ := s.step_of_cuts b (before ++ after) h
    have hi := ih (s.behind [b]) hr
    rw [behind_append] at hi
    exact hi

theorem rest_behind (before after : List Cut) (s : Scan)
    (h : s.lexer.cuts s.rest = before ++ after) :
    (s.behind before).rest = after.flatMap Cut.text ++ s.lexer.lastGap s.rest := by
  have ht := s.lexer.cuts_append_lastGap s.rest
  rw [h, List.flatMap_append, List.append_assoc] at ht
  have hd : (before.flatMap Cut.text ++ (after.flatMap Cut.text ++ s.lexer.lastGap s.rest)).drop
      (before.flatMap Cut.text).length = after.flatMap Cut.text ++ s.lexer.lastGap s.rest :=
    List.drop_left
  rwa [ht] at hd

/-- The token of a cut comes next once those before it have been given out, all of them kept. -/
theorem next?_take_cuts (before : List Cut) (c : Cut) (after : List Cut) (s : Scan)
    (hf : s.finished = false) (h : s.lexer.cuts s.rest = before ++ c :: after)
    (hk : ∀ d ∈ s.lexer.cuts s.rest, d.piece.kind ≠ .endOfFile ∧ s.keeps d.piece.kind = true) :
    (s.take before.length).2.next? =
      some (c.token s.metric (s.here.travel s.metric (before.flatMap Cut.text)),
        s.behind (before ++ [c])) := by
  induction before generalizing s with
  | nil =>
    obtain ⟨hs, -⟩ := s.step_of_cuts c after h
    obtain ⟨hc, hkept⟩ := hk c (by simp [h])
    have hn := s.next?_of_kept hf (by rw [hs]; exact hc) (by rw [hs]; exact hkept)
    rw [hs] at hn
    exact hn
  | cons b before ih =>
    obtain ⟨hs, hr⟩ := s.step_of_cuts b (before ++ c :: after) h
    obtain ⟨hb, hkept⟩ := hk b (by simp [h])
    have hn := s.next?_of_kept hf (by rw [hs]; exact hb) (by rw [hs]; exact hkept)
    rw [hs] at hn
    have hks : ∀ d ∈ s.lexer.cuts (s.behind [b]).rest,
        d.piece.kind ≠ .endOfFile ∧ s.keeps d.piece.kind = true := by
      intro d hd
      rw [hr] at hd
      apply hk
      rw [h]
      exact List.mem_cons_of_mem b hd
    have hi := ih (s.behind [b]) hf hr hks
    rw [behind_append] at hi
    simp only [List.length_cons, take, hn]
    rw [hi]
    simp [behind, metric]

end Scan

namespace Lexer

theorem tokenize_of_forall_ne (lx : Lexer) (text : String)
    (h : ∀ c ∈ lx.cuts text.toList, c.piece.kind ≠ .endOfFile) :
    lx.tokenize text =
      ((tokensFrom lx.settings.metric .origin (lx.cuts text.toList)).filter
        fun t => (lx.scan text).keeps t.kind) ++
      [endMarker (lx.settings.placeBehind text.toList)] :=
  (lx.scan text).remaining_of_forall_ne rfl h

/-! ## Two lexers that cut the same pieces -/

section Congr
variable (lx lx' : Lexer) (hm : lx'.settings.metric = lx.settings.metric)
  (hs : lx'.settings.isSilent = lx.settings.isSilent) (hp : lx'.piece = lx.piece) (text : String)
include hm hs hp

theorem allTokens_congr : (lx'.scan text).allTokens = (lx.scan text).allTokens := by
  have hcuts := lx.cuts_congr lx' hs hp text.toList
  simp only [Scan.allTokens, Scan.metric, scan, hcuts, hm]

theorem tokenize_congr
    (hc : lx'.settings.commentsAsTokens = lx.settings.commentsAsTokens) :
    lx'.tokenize text = lx.tokenize text := by
  have hkeeps : (lx'.scan text).keeps = (lx.scan text).keeps := by
    funext k
    simp only [Scan.keeps, scan, hc]
  rw [tokenize, tokenize, Scan.remaining_eq _ rfl, Scan.remaining_eq _ rfl, hkeeps,
    allTokens_congr lx lx' hm hs hp]

end Congr

end Lexer

end LexicalRules
