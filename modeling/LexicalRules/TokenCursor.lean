import LexicalRules.Token

/-! # Walking through tokens

A `TokenCursor` is an array of tokens and a 64-bit index into it, which may lie beyond its end. Queries
look at the token under the cursor or near it. Moves give a result together with the cursor behind
them; a move that fails gives back the cursor it had. The lemmas at the end say where moves lead.

`CursorError` says that a cursor was used where it has no token; `ParseError` that another token is
wanted than the one that is there.
-/

namespace LexicalRules
set_option autoImplicit false

/-! ## Errors -/

inductive CursorError where
  | pastEnd
  | noCurrent (index : UInt64)
  | noPrevious
  deriving DecidableEq, Repr

def CursorError.message : CursorError → String
  | pastEnd => "unable to advance past end"
  | noCurrent index => "unable to retrieve current token at index " ++ toString index.toNat
  | noPrevious => "failed getting previous token"

/-- A token that is not the wanted one, and what to say about it. -/
structure ParseError where
  token : Token
  message : String
  deriving DecidableEq, Repr

namespace ParseError

def location (e : ParseError) : Location :=
  e.token.start

def describe (e : ParseError) : String :=
  "[" ++ e.location.describe ++ "] " ++ e.message

end ParseError

/-! ## Cursors -/

structure TokenCursor where
  tokens : Array Token
  index : UInt64
  /-- Whether the index lies beyond the tokens; kept up to date by every move. -/
  atEnd : Bool
  /-- Whether there is an end of file token where the tokens run out. -/
  endsInToken : Bool
  deriving DecidableEq, Repr

namespace TokenCursor

def beyond (tokens : Array Token) (index : UInt64) : Bool :=
  tokens.size ≤ index.toNat

def startingAt (tokens : Array Token) (index : UInt64) : TokenCursor where
  tokens := tokens
  index := index
  atEnd := beyond tokens index
  endsInToken := false

def ofTokens (tokens : Array Token) : TokenCursor :=
  startingAt tokens 0

/-- The cursor with or without an end of file token where the tokens run out. -/
def withEndToken (c : TokenCursor) (b : Bool) : TokenCursor :=
  { c with endsInToken := b }

/-! ## Jumps -/

def moveTo (c : TokenCursor) (index : UInt64) : TokenCursor :=
  { c with index := index, atEnd := beyond c.tokens index }

def rewind (c : TokenCursor) : TokenCursor :=
  c.moveTo 0

def loadAt (c : TokenCursor) (tokens : Array Token) (index : UInt64) : TokenCursor :=
  { c with tokens := tokens }.moveTo index

def load (c : TokenCursor) (tokens : Array Token) : TokenCursor :=
  c.loadAt tokens 0

/-! ## Queries -/

def peek (c : TokenCursor) : Option Token :=
  if c.atEnd then none else c.tokens[c.index.toNat]?

/-- The token under the cursor, or the end of file token if the cursor has one. -/
def current (c : TokenCursor) : Except CursorError Token :=
  match c.peek with
  | some t => .ok t
  | none => if c.endsInToken then .ok .endOfFile else .error (.noCurrent c.index)

/-- The token behind the cursor. -/
def previous? (c : TokenCursor) : Option Token :=
  if c.index = 0 then none else c.tokens[(c.index - 1).toNat]?

/-- The token behind the cursor, which should be there. -/
def previous (c : TokenCursor) : Except CursorError Token :=
  match c.previous? with
  | some t => .ok t
  | none => .error .noPrevious

def previousOr (c : TokenCursor) (t : Token) : Token :=
  c.previous?.getD t

def check (c : TokenCursor) (k : TokenKind) : Bool :=
  c.peek.any fun t => t.hasKind k

def checkLexeme (c : TokenCursor) (s : String) : Bool :=
  c.peek.any fun t => t.lexeme == s

/-- The sum of two indices, if it is an index. -/
def addIndex? (i j : UInt64) : Option UInt64 :=
  if i.toNat + j.toNat < UInt64.size then some (i + j) else none

/-- Whether the token `offset` places ahead has the kind `k`. -/
def peekCheck (c : TokenCursor) (offset : UInt64) (k : TokenKind) : Bool :=
  ((addIndex? c.index offset).bind fun i => c.tokens[i.toNat]?).any fun t => t.hasKind k

/-! ## Moves -/

def advance (c : TokenCursor) : Except CursorError Unit × TokenCursor :=
  match c.peek with
  | none => (.error .pastEnd, c)
  | some _ =>
    let index := c.index + 1
    (.ok (), { c with index := index, atEnd := beyond c.tokens index || c.atEnd })

/-- Moves to the next token if the one under the cursor has the kind `k`, and says whether it did. -/
def advanceIf (c : TokenCursor) (k : TokenKind) : Bool × TokenCursor :=
  if c.check k then
    match c.advance with
    | (.ok _, c') => (true, c')
    | (.error _, c') => (false, c')
  else (false, c)

def take (c : TokenCursor) (k : TokenKind) : Option Token × TokenCursor :=
  match c.peek with
  | none => (none, c)
  | some t =>
    match c.advanceIf k with
    | (true, c') => (some t, c')
    | (false, c') => (none, c')

/-- The token that an error about the cursor's place points at: the one under the cursor, else the one
behind it, else an end of file. -/
def culprit (c : TokenCursor) : Token :=
  (c.peek <|> c.previous?).getD .endOfFile

/-- Takes the token under the cursor, which should have the kind `k`. -/
def consume (c : TokenCursor) (k : TokenKind) (message : String) :
    Except ParseError Token × TokenCursor :=
  match c.take k with
  | (some t, c') => (.ok t, c')
  | (none, c') => (.error ⟨c'.culprit, message⟩, c')

/-- Takes the token under the cursor, which should have the kind `k`, or fails with `e`. -/
def consumeOr {ε : Type} (c : TokenCursor) (k : TokenKind) (e : ε) :
    Except ε Token × TokenCursor :=
  match c.take k with
  | (some t, c') => (.ok t, c')
  | (none, c') => (.error e, c')

/-! ## What queries find -/

/-- A sum that is no index is one of no token, where the tokens can be counted in 64 bits. -/
theorem getElem?_addIndex? (tokens : Array Token) (h : tokens.size < UInt64.size) (i j : UInt64) :
    ((addIndex? i j).bind fun n => tokens[n.toNat]?) = tokens[i.toNat + j.toNat]? := by
  unfold addIndex?
  split
  · rename_i hlt
    have hsum : (i + j).toNat = i.toNat + j.toNat := by
      rw [UInt64.toNat_add]
      exact Nat.mod_eq_of_lt hlt
    rw [Option.bind_some, hsum]
  · rw [Option.bind_none, Array.getElem?_eq_none (by omega)]

theorem previous?_of_zero (c : TokenCursor) (h : c.index.toNat = 0) : c.previous? = none := by
  have hi : c.index = 0 := UInt64.toNat_inj.mp h
  rw [previous?, if_pos hi]

theorem previous?_of_succ (c : TokenCursor) (i : Nat) (h : c.index.toNat = i + 1) :
    c.previous? = c.tokens[i]? := by
  have hne : c.index ≠ 0 := by
    intro h0
    rw [h0, UInt64.toNat_zero] at h
    omega
  have hone : (1 : UInt64) ≤ c.index := by
    rw [UInt64.le_iff_toNat_le, UInt64.toNat_one]
    omega
  have hpred : (c.index - 1).toNat = i := by
    rw [UInt64.toNat_sub_of_le _ _ hone, UInt64.toNat_one, h, Nat.add_sub_cancel]
  rw [previous?, if_neg hne, hpred]

/-! ## Where moves lead

A move that goes on leads to the next index, and one that fails leads nowhere. -/

section Moves
variable {c : TokenCursor} {k : TokenKind}

theorem advance_of_none (h : c.peek = none) : c.advance = (.error .pastEnd, c) := by
  rw [advance, h]

theorem atEnd_of_some {t : Token} (h : c.peek = some t) : c.atEnd = false := by
  cases hc : c.atEnd with
  | false => rfl
  | true => simp [peek, hc] at h

theorem advance_of_some {t : Token} (h : c.peek = some t) :
    c.advance = (.ok (), c.moveTo (c.index + 1)) := by
  rw [advance, h]
  simp only [atEnd_of_some h, Bool.or_false, moveTo]

theorem peek_of_check (h : c.check k = true) : ∃ t, c.peek = some t ∧ t.kind = k := by
  rw [check, Option.any_eq_true] at h
  obtain ⟨t, ht, hk⟩ := h
  exact ⟨t, ht, of_decide_eq_true hk⟩

theorem advanceIf_of_check (h : c.check k = true) :
    c.advanceIf k = (true, c.moveTo (c.index + 1)) := by
  obtain ⟨t, ht, -⟩ := peek_of_check h
  rw [advanceIf, if_pos h, advance_of_some ht]

theorem advanceIf_of_not_check (h : c.check k = false) : c.advanceIf k = (false, c) := by
  rw [advanceIf, h]
  rfl

theorem take_of_check (h : c.check k = true) :
    ∃ t, c.peek = some t ∧ t.kind = k ∧ c.take k = (some t, c.moveTo (c.index + 1)) := by
  obtain ⟨t, ht, hk⟩ := peek_of_check h
  refine ⟨t, ht, hk, ?_⟩
  rw [take, ht, advanceIf_of_check h]

theorem take_of_not_check (h : c.check k = false) : c.take k = (none, c) := by
  unfold take
  split
  · rfl
  · rw [advanceIf_of_not_check h]

end Moves

end TokenCursor

end LexicalRules
