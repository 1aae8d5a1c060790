import LexicalRules.Settings

/-! # Carets

A `Caret` stands in a text: it knows what is left of the text, the place it has come to, and how
characters move it. It goes on by one character or by several, and stops where the text ends.
-/

namespace LexicalRules
set_option autoImplicit false

structure Caret where
  rest : List Char
  here : Location
  metric : Metric
  deriving DecidableEq, Repr

namespace Caret

/-- The caret at the beginning of `text`. -/
def ofText (settings : Settings) (text : String) : Caret where
  rest := text.toList
  here := .origin
  metric := settings.metric

/-- The next `n` characters, or fewer where the text ends first. -/
def window (c : Caret) (n : Nat) : List Char :=
  c.rest.take n

/-- Takes the next character, if there is one. -/
def advance (c : Caret) : Option Char × Caret :=
  match c.rest with
  | [] => (none, c)
  | x :: xs => (some x, { c with rest := xs, here := c.here.after c.metric x })

/-- Takes up to `n` characters. -/
def advanceBy : Nat → Caret → Caret
  | 0, c => c
  | n + 1, c =>
    match c.advance with
    | (none, c') => c'
    | (some _, c') => advanceBy n c'

/-! ## Where a caret comes to -/

theorem advance_of_nil (c : Caret) (h : c.rest = []) : c.advance = (none, c) := by
  rw [advance, h]

theorem advance_of_cons (c : Caret) (x : Char) (xs : List Char) (h : c.rest = x :: xs) :
    c.advance = (some x, { c with rest := xs, here := c.here.after c.metric x }) := by
  rw [advance, h]

/-- Taking up to `n` characters takes the window of `n` characters, no more and no less. -/
theorem advanceBy_eq (n : Nat) (c : Caret) : c.advanceBy n =
    { c with rest := c.rest.drop n, here := c.here.travel c.metric (c.window n) } := by
  induction n generalizing c with
  | zero => rfl
  | succ n ih =>
    unfold advanceBy
    cases h : c.rest with
    | nil =>
      have hw : c.window (n + 1) = [] := by rw [window, h, List.take_nil]
      rw [c.advance_of_nil h, hw, List.drop_nil, Location.travel_nil, ← h]
    | cons x xs =>
      have hw : c.window (n + 1) = x :: xs.take n := by rw [window, h, List.take_succ_cons]
      rw [c.advance_of_cons x xs h, hw, Location.travel_cons]
      exact ih _

theorem advance_snd (c : Caret) : c.advance.2 = c.advanceBy 1 := by
  unfold advanceBy
  cases h : c.rest with
  | nil => rw [c.advance_of_nil h]
  | cons x xs =>
    rw [c.advance_of_cons x xs h]
    rfl

theorem advanceBy_advanceBy (m n : Nat) (c : Caret) :
    (c.advanceBy m).advanceBy n = c.advanceBy (m + n) := by
  simp only [advanceBy_eq, window, List.drop_drop, List.take_add, Location.travel_append]

theorem window_append_rest (c : Caret) (n : Nat) : c.window n ++ (c.advanceBy n).rest = c.rest := by
  rw [advanceBy_eq]
  exact List.take_append_drop n c.rest

end Caret

end LexicalRules
