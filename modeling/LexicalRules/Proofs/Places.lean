import LexicalRules.Caret
import LexicalRules.Proofs.Cuts
import LexicalRules.Proofs.Travel
import Mathlib.Data.List.DropRight

/-! # Places as counts

The place behind a text can be read off the text, without a caret that goes through it:
`Location.counted` is made of its line feeds, and of the width of what stands behind its last line feed or
carriage return. `Location.travel_origin` says so by induction along the text.

However a caret is moved, it comes to the place behind the text that it has taken (`Caret.run_here`), and
scans move theirs no other way (`Scan.take_caret`). The main statement is `Caret.run_counted`.
-/

namespace LexicalRules
set_option autoImplicit false

/-! ## The place behind a text -/

/-- The characters behind the last line feed or carriage return. -/
def lastStretch (s : List Char) : List Char :=
  s.rtakeWhile fun c => c != '\n' && c != '\r'

/-- The place behind a text that starts at the origin. -/
def Location.counted (m : Metric) (s : List Char) : Location :=
  if m.singleLine then ⟨0, s.length⟩ else ⟨s.count '\n', m.width (lastStretch s)⟩

theorem Metric.width_append (m : Metric) (s t : List Char) :
    m.width (s ++ t) = m.width s + m.width t := by
  induction s with
  | nil => simp [width]
  | cons c s ih => simp [width, ih, Nat.add_assoc]

theorem lastStretch_concat (s : List Char) (c : Char) :
    lastStretch (s ++ [c]) = if c = '\n' ∨ c = '\r' then [] else lastStretch s ++ [c] := by
  unfold lastStretch
  split
  · rename_i h
    refine List.rtakeWhile_concat_neg _ _ c ?_
    rcases h with rfl | rfl <;> simp
  · rename_i h
    exact List.rtakeWhile_concat_pos _ _ c (by simpa using h)

namespace Location

/-- One more character moves the place that has been counted as it moves a caret. -/
theorem counted_concat (m : Metric) (s : List Char) (c : Char) :
    counted m (s ++ [c]) = (counted m s).after m c := by
  cases hm : m.singleLine with
  | true => simp [counted, after, hm]
  | false =>
    by_cases hn : c = '\n'
    · subst hn
      simp [counted, after, hm, lastStretch_concat, Metric.width]
    · have hlines : (s ++ [c]).count '\n' = s.count '\n' := by
        rw [List.count_append, List.count_singleton, if_neg (by simpa using hn), Nat.add_zero]
      by_cases hr : c = '\r'
      · subst hr
        simp [counted, after, hm, hlines, lastStretch_concat, Metric.width]
      · have hwidth : m.width (lastStretch (s ++ [c])) =
            m.width (lastStretch s) + if c = '\t' then m.tabSize else 1 := by
          simp [lastStretch_concat, hn, hr, Metric.width_append, Metric.width]
        simp only [counted, after, hm, hn, hr, hlines, hwidth, if_false, Bool.false_eq_true]
        split <;> rfl

theorem travel_origin (m : Metric) (s : List Char) : origin.travel m s = counted m s := by
  induction s using List.reverseRecOn with
  | nil => simp [counted, lastStretch, Metric.width, origin]
  | append_singleton s c ih => rw [travel_append, ih, counted_concat, travel_cons, travel_nil]

end Location

/-! ## Moving a caret -/

namespace Caret

/-- The ways in which a caret is moved. -/
inductive Call where
  | advance
  | advanceBy (n : Nat)
  deriving DecidableEq, Repr

/-- The number of characters that a call is to take. -/
def Call.size : Call → Nat
  | advance => 1
  | advanceBy n => n

def call (c : Caret) : Call → Caret
  | .advance => c.advance.2
  | .advanceBy n => c.advanceBy n

def run (c : Caret) (calls : List Call) : Caret :=
  calls.foldl call c

/-- The windows that calls find in front of them, one behind the other. -/
def consumed (c : Caret) : List Call → List Char
  | [] => []
  | a :: calls => c.window a.size ++ (c.call a).consumed calls

theorem call_eq (c : Caret) (a : Call) : c.call a = c.advanceBy a.size := by
  cases a with
  | advance => exact c.advance_snd
  | advanceBy n => rfl

theorem run_cons (c : Caret) (a : Call) (calls : List Call) :
    c.run (a :: calls) = (c.call a).run calls := rfl

theorem consumed_append_rest (c : Caret) (calls : List Call) :
    c.consumed calls ++ (c.run calls).rest = c.rest := by
  induction calls generalizing c with
  | nil => rfl
  | cons a calls ih =>
    rw [consumed, run_cons, List.append_assoc, ih, call_eq, window_append_rest]

theorem run_here (c : Caret) (calls : List Call) :
    (c.run calls).here = c.here.travel c.metric (c.consumed calls) := by
  induction calls generalizing c with
  | nil => rfl
  | cons a calls ih =>
    rw [run_cons, ih, consumed, Location.travel_append, call_eq, advanceBy_eq]

end Caret

/-! ## Carets of scans -/

namespace Scan

def caret (s : Scan) : Caret where
  rest := s.rest
  here := s.here
  metric := s.metric

theorem step_caret (s : Scan) : ∃ n, s.step.2.caret = s.caret.advanceBy n := by
  cases hb : s.behindGap with
  | nil =>
    have hg : s.gap ++ s.behindGap = s.rest := List.takeWhile_append_dropWhile
    rw [hb, List.append_nil] at hg
    refine ⟨s.rest.length, ?_⟩
    rw [s.step_of_nil hb, Caret.advanceBy_eq]
    simp [caret, Caret.window, start, hg, metric]
  | cons c cs =>
    refine ⟨(s.lexer.cutAt s.rest c cs).text.length, ?_⟩
    rw [s.step_of_cons c cs hb, Caret.advanceBy_eq]
    simp only [caret, Caret.window, s.lexer.take_cutAt s.rest c cs hb,
      s.lexer.drop_cutAt s.rest c cs hb, metric]

theorem next?_caret {s s' : Scan} {t : Token} (h : s.next? = some (t, s')) :
    ∃ n, s'.caret = s.caret.advanceBy n := by
  fun_induction next? s with
  | case1 s hf => cases h
  | case2 s hf hk =>
    cases h
    exact s.step_caret
  | case3 s hf hk hc =>
    have hs : s.step.2 = s' := by rw [Option.some.inj h]
    rw [← hs]
    exact s.step_caret
  | case4 s hf hk hc ih =>
    obtain ⟨m, hm⟩ := s.step_caret
    obtain ⟨n, hn⟩ := ih h
    exact ⟨m + n, by rw [hn, hm, Caret.advanceBy_advanceBy]⟩

theorem take_caret (n : Nat) (s : Scan) : ∃ m, (s.take n).2.caret = s.caret.advanceBy m := by
  induction n generalizing s with
  | zero => exact ⟨0, rfl⟩
  | succ n ih =>
    cases h : s.next? with
    | none => exact ⟨0, by simp [take, h, Caret.advanceBy]⟩
    | some p =>
      obtain ⟨t, s'⟩ := p
      obtain ⟨k, hk⟩ := next?_caret h
      obtain ⟨m, hm⟩ := ih s'
      refine ⟨k + m, ?_⟩
      simp only [take, h]
      rw [hm, hk, Caret.advanceBy_advanceBy]

end Scan

/-- **Places are counts.** However a caret is moved through a text, it takes the windows in front of it,
which are the text up to what is left, and comes to the place that is read off what it has taken. The
carets of scans are moved in this way. -/
theorem Caret.run_counted (rules : List Rule) (settings : Settings) (text : String) :
    (∀ calls : List Call,
      (ofText settings text).consumed calls ++ ((ofText settings text).run calls).rest =
        text.toList ∧
      ((ofText settings text).run calls).here =
        .counted settings.metric ((ofText settings text).consumed calls)) ∧
    ∀ n, ∃ m, (((Lexer.ofRules rules settings).scan text).take n).2.caret =
      (ofText settings text).advanceBy m := by
  constructor
  · intro calls
    refine ⟨consumed_append_rest _ calls, ?_⟩
    rw [run_here]
    exact Location.travel_origin settings.metric _
  · intro n
    exact Scan.take_caret n ((Lexer.ofRules rules settings).scan text)

/-- A carriage return goes back to the first column, and the last call runs into the end. -/
example :
    ((Caret.ofText {} "a\n\tb\r\tc").run [.advanceBy 6, .advance, .advanceBy 9]).here = ⟨1, 5⟩ := by
  decide +kernel

end LexicalRules
