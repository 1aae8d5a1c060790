import LexicalRules.Proofs.IndexCursor

/-! # Going back

A program that tries something out keeps the index of its cursor and jumps back to it. In between stand
`CursorAction`s: moves over the tokens that the cursor has, whether they succeed or fail, and questions.
The flag of a cursor that moves have led to follows from its index (`FlagFollows`), and no action changes
the tokens or what stands behind them (`moveTo_act`). So the jump leads to the very cursor that was left,
and a copy of it need not be kept.
-/

namespace LexicalRules
set_option autoImplicit false

/-! ## Actions -/

/-- Whether a move leaves the cursor its tokens, and what stands where they run out. -/
def CursorMove.StaysWithin : CursorMove → Prop
  | withEndToken _ => False
  | load _ => False
  | loadAt _ _ => False
  | _ => True

/-- What a program does between keeping an index and jumping back to it. -/
inductive CursorAction where
  | move (m : CursorMove) (h : m.StaysWithin)
  /-- Finds something out about the cursor and leaves it as it is. -/
  | ask {α : Type} (question : TokenCursor → α)

namespace TokenCursor

def act (c : TokenCursor) : CursorAction → TokenCursor
  | .move m _ => c.move m
  | .ask _ => c

def perform (c : TokenCursor) (actions : List CursorAction) : TokenCursor :=
  actions.foldl act c

/-! ## The flag -/

/-- The flag says what the index says. -/
def FlagFollows (c : TokenCursor) : Prop :=
  c.atEnd = beyond c.tokens c.index

theorem flagFollows_startingAt (tokens : Array Token) (index : UInt64) :
    (startingAt tokens index).FlagFollows := rfl

theorem flagFollows_moveTo (c : TokenCursor) (index : UInt64) : (c.moveTo index).FlagFollows := rfl

section Following
variable {c : TokenCursor} (h : c.FlagFollows)
include h

theorem FlagFollows.advance : c.advance.2.FlagFollows := by
  cases hp : c.peek with
  | none =>
    rw [advance_of_none hp]
    exact h
  | some t =>
    rw [advance_of_some hp]
    exact c.flagFollows_moveTo (c.index + 1)

theorem FlagFollows.pass (k : TokenKind) : (c.pass k).FlagFollows := by
  unfold TokenCursor.pass
  split
  · exact c.flagFollows_moveTo (c.index + 1)
  · exact h

theorem FlagFollows.move (m : CursorMove) : (c.move m).FlagFollows := by
  cases m with
  | withEndToken b => exact h
  | load tokens => exact flagFollows_moveTo _ 0
  | loadAt tokens index => exact flagFollows_moveTo _ index
  | rewind => exact c.flagFollows_moveTo 0
  | moveTo index => exact c.flagFollows_moveTo index
  | advance => exact h.advance
  | advanceIf k =>
    rw [TokenCursor.move, advanceIf_snd]
    exact h.pass k
  | consume k message =>
    rw [TokenCursor.move, consume_snd]
    exact h.pass k
  | consumeOr k e =>
    rw [TokenCursor.move, consumeOr_snd]
    exact h.pass k
  | copy => exact h

/-- A jump to where the cursor is leads nowhere else. -/
theorem moveTo_index : c.moveTo c.index = c := by
  unfold moveTo
  rw [← h]

end Following

theorem FlagFollows.run {c : TokenCursor} (h : c.FlagFollows) (moves : List CursorMove) :
    (c.run moves).FlagFollows := by
  induction moves generalizing c with
  | nil => exact h
  | cons m moves ih => exact ih (h.move m)

/-! ## The jump back -/

section Jumps
variable (c : TokenCursor) (index : UInt64)

theorem moveTo_moveTo (other : UInt64) : (c.moveTo other).moveTo index = c.moveTo index := rfl

theorem moveTo_advance : c.advance.2.moveTo index = c.moveTo index := by
  cases hp : c.peek with
  | none => rw [advance_of_none hp]
  | some t => rw [advance_of_some hp, moveTo_moveTo]

theorem moveTo_pass (k : TokenKind) : (c.pass k).moveTo index = c.moveTo index := by
  unfold pass
  split
  · exact c.moveTo_moveTo index (c.index + 1)
  · rfl

/-- Wherever an action leads, a jump from there leads where it would have led before. -/
theorem moveTo_act (a : CursorAction) : (c.act a).moveTo index = c.moveTo index := by
  cases a with
  | ask question => rfl
  | move m h =>
    rw [act]
    cases m with
    | withEndToken b => exact h.elim
    | load tokens => exact h.elim
    | loadAt tokens other => exact h.elim
    | rewind => exact c.moveTo_moveTo index 0
    | moveTo other => exact c.moveTo_moveTo index other
    | advance => exact c.moveTo_advance index
    | advanceIf k => rw [move, advanceIf_snd, moveTo_pass]
    | consume k message => rw [move, consume_snd, moveTo_pass]
    | consumeOr k e => rw [move, consumeOr_snd, moveTo_pass]
    | copy => rfl

theorem moveTo_perform (actions : List CursorAction) :
    (c.perform actions).moveTo index = c.moveTo index := by
  induction actions generalizing c with
  | nil => rfl
  | cons a actions ih =>
    calc ((c.act a).perform actions).moveTo index
        = (c.act a).moveTo index := ih (c.act a)
      _ = c.moveTo index := c.moveTo_act index a

end Jumps

/-- **Going back.** Of every cursor that moves lead to, the index is enough to come back to it: whatever
is tried out from there, the jump to its index gives the same cursor, flags included. -/
theorem moveTo_perform_run (tokens : Array Token) (start : UInt64) (moves : List CursorMove)
    (actions : List CursorAction) :
    (((startingAt tokens start).run moves).perform actions).moveTo
        ((startingAt tokens start).run moves).index =
      (startingAt tokens start).run moves := by
  have hflag := (flagFollows_startingAt tokens start).run moves
  rw [moveTo_perform]
  exact moveTo_index hflag

end TokenCursor

end LexicalRules
