/-! # Places in a text

* `Location`: a zero-based line and column, ordered by line first.
* `Metric`: how characters move the caret. A line feed starts a line, a carriage return only goes
  back to the first column, a tab counts `tabSize` columns and all else one; on a single line every
  character counts one column.
* `Location.travel`: the place reached by walking over some text.
-/

namespace LexicalRules
set_option autoImplicit false

/-- A caret position, zero-based. -/
structure Location where
  line : Nat
  column : Nat
  deriving DecidableEq, Repr, Inhabited

structure Metric where
  tabSize : Nat
  singleLine : Bool
  deriving DecidableEq, Repr

namespace Location

def origin : Location := ⟨0, 0⟩

/-! ## Order -/

instance : LT Location where
  lt a b := a.line < b.line ∨ (a.line = b.line ∧ a.column < b.column)

instance : LE Location where
  le a b := a.line < b.line ∨ (a.line = b.line ∧ a.column ≤ b.column)

theorem lt_iff (a b : Location) :
    a < b ↔ a.line < b.line ∨ (a.line = b.line ∧ a.column < b.column) := Iff.rfl

theorem le_iff (a b : Location) :
    a ≤ b ↔ a.line < b.line ∨ (a.line = b.line ∧ a.column ≤ b.column) := Iff.rfl

instance (a b : Location) : Decidable (a < b) := decidable_of_iff _ (lt_iff a b).symm

instance (a b : Location) : Decidable (a ≤ b) := decidable_of_iff _ (le_iff a b).symm

instance : Ord Location where
  compare a b := (compare a.line b.line).then (compare a.column b.column)

theorem le_refl (a : Location) : a ≤ a := Or.inr ⟨rfl, Nat.le_refl _⟩

theorem le_trans {a b c : Location} (hab : a ≤ b) (hbc : b ≤ c) : a ≤ c := by
  rw [le_iff] at *
  omega

/-! ## Moving the caret -/

/-- The place right after the character `c` that stands at `l`. -/
def after (m : Metric) (l : Location) (c : Char) : Location :=
  if m.singleLine then ⟨l.line, l.column + 1⟩
  else if c = '\n' then ⟨l.line + 1, 0⟩
  else if c = '\r' then ⟨l.line, 0⟩
  else if c = '\t' then ⟨l.line, l.column + m.tabSize⟩
  else ⟨l.line, l.column + 1⟩

/-- The place right after the text `s` that starts at `l`. -/
def travel (m : Metric) (l : Location) (s : List Char) : Location :=
  s.foldl (after m) l

@[simp] theorem travel_nil (m : Metric) (l : Location) : travel m l [] = l := rfl

@[simp] theorem travel_cons (m : Metric) (l : Location) (c : Char) (s : List Char) :
    travel m l (c :: s) = travel m (after m l c) s := rfl

@[simp] theorem travel_append (m : Metric) (l : Location) (s t : List Char) :
    travel m l (s ++ t) = travel m (travel m l s) t := by
  simp [travel, List.foldl_append]

/-! ## Text -/

def describe (l : Location) : String :=
  "line " ++ toString l.line ++ ", column " ++ toString l.column

/-- A location in digits, line and column joined by a colon. -/
def digits (l : Location) : String :=
  toString l.line ++ ":" ++ toString l.column

end Location

end LexicalRules
