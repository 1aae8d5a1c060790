import LexicalRules.TokenCursor

/-! # Cursors as indices

An `IndexCursor` is what a cursor stands for: tokens, a number and whether an end token stands where the
tokens run out. It caches nothing and its index is any number, so that its queries are lookups at sums.
`TokenCursor.Tracks` relates a cursor to it, `Tracks.move` says that every move keeps them in step, and
`run_answersLike` that they give the same answers after all moves that a program can make.
-/

namespace LexicalRules
set_option autoImplicit false

/-! ## Moves -/

/-- What a program can do to a cursor. -/
inductive CursorMove where
  | withEndToken (b : Bool)
  | load (tokens : Array Token)
  | loadAt (tokens : Array Token) (index : UInt64)
  | rewind
  | moveTo (index : UInt64)
  | advance
  | advanceIf (k : TokenKind)
  | consume (k : TokenKind) (message : String)
  | consumeOr {ε : Type} (k : TokenKind) (e : ε)
  /-- Goes on with a copy of the cursor. -/
  | copy

/-- Whether the tokens that a move brings can be counted in 64 bits. -/
def CursorMove.Fits : CursorMove → Prop
  | load tokens => tokens.size < UInt64.size
  | loadAt tokens _ => tokens.size < UInt64.size
  | _ => True

namespace TokenCursor

def move (c : TokenCursor) : CursorMove → TokenCursor
  | .withEndToken b => c.withEndToken b
  | .load tokens => c.load tokens
  | .loadAt tokens index => c.loadAt tokens index
  | .rewind => c.rewind
  | .moveTo index => c.moveTo index
  | .advance => c.advance.2
  | .advanceIf k => (c.advanceIf k).2
  | .consume k message => (c.consume k message).2
  | .consumeOr k e => (c.consumeOr k e).2
  | .copy => c

def run (c : TokenCursor) (moves : List CursorMove) : TokenCursor :=
  moves.foldl move c

end TokenCursor

/-! ## The cursor that is an index -/

structure IndexCursor where
  tokens : Array Token
  index : Nat
  endsInToken : Bool

namespace IndexCursor

def startingAt (tokens : Array Token) (index : Nat) : IndexCursor where
  tokens := tokens
  index := index
  endsInToken := false

def isAtEnd (d : IndexCursor) : Bool :=
  d.tokens.size ≤ d.index

theorem isAtEnd_eq_false_iff (d : IndexCursor) :
    d.isAtEnd = false ↔ d.index < d.tokens.size := by
  rw [isAtEnd, decide_eq_false_iff_not, Nat.not_le]

def current (d : IndexCursor) : Except CursorError Token :=
  match d.tokens[d.index]? with
  | some t => .ok t
  | none =>
    if d.endsInToken then .ok .endOfFile else .error (.noCurrent (UInt64.ofNat d.index))

def previous? (d : IndexCursor) : Option Token :=
  match d.index with
  | 0 => none
  | i + 1 => d.tokens[i]?

def previous (d : IndexCursor) : Except CursorError Token :=
  match d.previous? with
  | some t => .ok t
  | none => .error .noPrevious

def previousOr (d : IndexCursor) (t : Token) : Token :=
  d.previous?.getD t

def peekCheck (d : IndexCursor) (offset : Nat) (k : TokenKind) : Bool :=
  d.tokens[d.index + offset]?.any fun t => t.hasKind k

def check (d : IndexCursor) (k : TokenKind) : Bool :=
  d.peekCheck 0 k

def checkLexeme (d : IndexCursor) (s : String) : Bool :=
  d.tokens[d.index]?.any fun t => t.lexeme == s

def next (d : IndexCursor) : IndexCursor :=
  { d with index := d.index + 1 }

/-- The next token if the one at the index has the kind `k`. -/
def pass (d : IndexCursor) (k : TokenKind) : IndexCursor :=
  if d.check k then d.next else d

def move (d : IndexCursor) : CursorMove → IndexCursor
  | .withEndToken b => { d with endsInToken := b }
  | .load tokens => { d with tokens := tokens, index := 0 }
  | .loadAt tokens index => { d with tokens := tokens, index := index.toNat }
  | .rewind => { d with index := 0 }
  | .moveTo index => { d with index := index.toNat }
  | .advance => if d.isAtEnd then d else d.next
  | .advanceIf k => d.pass k
  | .consume k _ => d.pass k
  | .consumeOr k _ => d.pass k
  | .copy => d

def run (d : IndexCursor) (moves : List CursorMove) : IndexCursor :=
  moves.foldl move d

end IndexCursor

namespace TokenCursor

/-! ## Passing a token -/

section Passing
variable {c : TokenCursor} {k : TokenKind}

/-- The cursor behind the token under it if that has the kind `k`. -/
def pass (c : TokenCursor) (k : TokenKind) : TokenCursor :=
  if c.check k then c.moveTo (c.index + 1) else c

theorem advanceIf_snd : (c.advanceIf k).2 = c.pass k := by
  cases h : c.check k with
  | true => simp [pass, h, advanceIf_of_check h]
  | false => simp [pass, h, advanceIf_of_not_check h]

theorem take_snd : (c.take k).2 = c.pass k := by
  cases h : c.check k with
  | true =>
    obtain ⟨t, -, -, ht⟩ := take_of_check h
    simp [pass, h, ht]
  | false => simp [pass, h, take_of_not_check h]

theorem consume_snd (message : String) : (c.consume k message).2 = c.pass k := by
  rw [← take_snd, consume]
  split
  · rename_i h
    rw [h]
  · rename_i h
    rw [h]

theorem consumeOr_snd {ε : Type} (e : ε) : (c.consumeOr k e).2 = c.pass k := by
  rw [← take_snd, consumeOr]
  split
  · rename_i h
    rw [h]
  · rename_i h
    rw [h]

end Passing

/-! ## Cursors in step -/

/-- The cursor stands for `d`, its flag is up to date and its tokens can be counted in 64 bits. -/
structure Tracks (c : TokenCursor) (d : IndexCursor) : Prop where
  tokens : c.tokens = d.tokens
  index : c.index.toNat = d.index
  endsInToken : c.endsInToken = d.endsInToken
  atEnd : c.atEnd = beyond c.tokens c.index
  size_lt : c.tokens.size < UInt64.size

theorem tracks_startingAt (tokens : Array Token) (index : UInt64)
    (h : tokens.size < UInt64.size) :
    (startingAt tokens index).Tracks (.startingAt tokens index.toNat) :=
  ⟨rfl, rfl, rfl, rfl, h⟩

namespace Tracks
variable {c : TokenCursor} {d : IndexCursor} (h : c.Tracks d)
include h

/-! ### Queries -/

theorem isAtEnd : c.atEnd = d.isAtEnd := by
  rw [h.atEnd, beyond, h.tokens, h.index, IndexCursor.isAtEnd]

theorem atEnd_iff : c.atEnd = true ↔ c.tokens.size ≤ c.index.toNat := by
  rw [h.atEnd, beyond, decide_eq_true_eq]

theorem peek : c.peek = d.tokens[d.index]? := by
  have he := h.atEnd_iff
  rw [h.tokens, h.index] at he
  unfold TokenCursor.peek
  rw [h.tokens, h.index]
  split
  · rename_i hat
    exact (Array.getElem?_eq_none (he.mp hat)).symm
  · rfl

theorem current : c.current = d.current := by
  have hi : c.index = UInt64.ofNat d.index := by rw [← h.index, UInt64.ofNat_toNat]
  cases ht : d.tokens[d.index]? with
  | none => simp only [TokenCursor.current, IndexCursor.current, h.peek, ht, h.endsInToken, hi]
  | some t => simp only [TokenCursor.current, IndexCursor.current, h.peek, ht]

theorem checkLexeme (s : String) : c.checkLexeme s = d.checkLexeme s := by
  rw [TokenCursor.checkLexeme, IndexCursor.checkLexeme, h.peek]

theorem check (k : TokenKind) : c.check k = d.check k := by
  rw [TokenCursor.check, IndexCursor.check, IndexCursor.peekCheck, h.peek, Nat.add_zero]

theorem peekCheck (offset : UInt64) (k : TokenKind) :
    c.peekCheck offset k = d.peekCheck offset.toNat k := by
  rw [TokenCursor.peekCheck, getElem?_addIndex? c.tokens h.size_lt, h.tokens, h.index,
    IndexCursor.peekCheck]

theorem previous? : c.previous? = d.previous? := by
  have hi := h.index
  unfold IndexCursor.previous?
  cases hd : d.index with
  | zero => exact c.previous?_of_zero (hi.trans hd)
  | succ i =>
    rw [c.previous?_of_succ i (hi.trans hd), h.tokens]

theorem previous : c.previous = d.previous := by
  cases ht : d.previous? with
  | none => simp only [TokenCursor.previous, IndexCursor.previous, h.previous?, ht]
  | some t => simp only [TokenCursor.previous, IndexCursor.previous, h.previous?, ht]

theorem previousOr (t : Token) : c.previousOr t = d.previousOr t := by
  rw [TokenCursor.previousOr, IndexCursor.previousOr, h.previous?]

/-! ### Moves -/

theorem moveTo (index : UInt64) : (c.moveTo index).Tracks { d with index := index.toNat } :=
  ⟨h.tokens, rfl, h.endsInToken, rfl, h.size_lt⟩

theorem loadAt (tokens : Array Token) (hsize : tokens.size < UInt64.size) (index : UInt64) :
    (c.loadAt tokens index).Tracks { d with tokens := tokens, index := index.toNat } :=
  ⟨rfl, rfl, h.endsInToken, rfl, hsize⟩

theorem withEndToken (b : Bool) : (c.withEndToken b).Tracks { d with endsInToken := b } :=
  ⟨h.tokens, h.index, rfl, h.atEnd, h.size_lt⟩

/-- Where there is a token, the next index is one too. -/
theorem toNat_add_one (ht : d.isAtEnd = false) :
    c.index.toNat + 1 < UInt64.size ∧ (c.index + 1).toNat = d.index + 1 := by
  have hsize := h.size_lt
  have hlt := d.isAtEnd_eq_false_iff.mp ht
  have hadd : c.index.toNat + 1 < UInt64.size := by
    rw [h.tokens] at hsize
    rw [h.index]
    omega
  refine ⟨hadd, ?_⟩
  rw [UInt64.toNat_add, UInt64.toNat_one, Nat.mod_eq_of_lt hadd, h.index]

theorem next (ht : d.isAtEnd = false) : (c.moveTo (c.index + 1)).Tracks d.next := by
  have hn := h.moveTo (c.index + 1)
  rwa [(h.toNat_add_one ht).2] at hn

theorem advance : c.advance.2.Tracks (if d.isAtEnd then d else d.next) := by
  cases hd : d.isAtEnd with
  | true =>
    have hp : c.peek = none := by
      rw [TokenCursor.peek, h.isAtEnd, hd]
      rfl
    rw [advance_of_none hp]
    exact h
  | false =>
    have hlt := d.isAtEnd_eq_false_iff.mp hd
    rw [advance_of_some (h.peek.trans (Array.getElem?_eq_getElem hlt))]
    exact h.next hd

theorem pass (k : TokenKind) : (c.pass k).Tracks (d.pass k) := by
  have hk := h.check k
  unfold TokenCursor.pass IndexCursor.pass
  rw [hk]
  cases hd : d.check k with
  | true =>
    rw [hd] at hk
    obtain ⟨t, ht, -⟩ := peek_of_check hk
    have he : d.isAtEnd = false := h.isAtEnd.symm.trans (atEnd_of_some ht)
    exact h.next he
  | false => exact h

/-- **One move.** Whatever is done to both cursors keeps them in step. -/
theorem move (m : CursorMove) (hm : m.Fits) : (c.move m).Tracks (d.move m) := by
  cases m with
  | withEndToken b => exact h.withEndToken b
  | load tokens => exact h.loadAt tokens hm 0
  | loadAt tokens index => exact h.loadAt tokens hm index
  | rewind => exact h.moveTo 0
  | moveTo index => exact h.moveTo index
  | advance => exact h.advance
  | advanceIf k =>
    have hp := h.pass k
    rwa [← advanceIf_snd] at hp
  | consume k message =>
    have hp := h.pass k
    rwa [← consume_snd message] at hp
  | consumeOr k e =>
    have hp := h.pass k
    rwa [← consumeOr_snd e] at hp
  | copy => exact h

end Tracks

theorem Tracks.run {c : TokenCursor} {d : IndexCursor} (h : c.Tracks d) (moves : List CursorMove)
    (hm : ∀ m ∈ moves, m.Fits) : (c.run moves).Tracks (d.run moves) := by
  induction moves generalizing c d with
  | nil => exact h
  | cons m moves ih =>
    have hstep := h.move m (hm m List.mem_cons_self)
    exact ih hstep fun n hn => hm n (List.mem_cons_of_mem m hn)

/-! ## Answers -/

/-- The cursor answers every query as `d` does. Its flag says where it is, going on is no overflow, and
looking ahead is a lookup at a sum of numbers. -/
structure AnswersLike (c : TokenCursor) (d : IndexCursor) : Prop where
  tokens : c.tokens = d.tokens
  index : c.index.toNat = d.index
  atEnd_iff : c.atEnd = true ↔ c.tokens.size ≤ c.index.toNat
  increment : c.advance.1 = .ok () →
    c.index.toNat + 1 < UInt64.size ∧ c.advance.2.index.toNat = c.index.toNat + 1
  isAtEnd : c.atEnd = d.isAtEnd
  current : c.current = d.current
  check : ∀ k, c.check k = d.check k
  checkLexeme : ∀ s, c.checkLexeme s = d.checkLexeme s
  peekCheck : ∀ offset k, c.peekCheck offset k = d.peekCheck offset.toNat k
  previous : c.previous = d.previous
  previous? : c.previous? = d.previous?
  previousOr : ∀ t, c.previousOr t = d.previousOr t
  peekCheck_iff : ∀ (offset : UInt64) k, c.peekCheck offset k = true ↔
    ∃ t, c.tokens[c.index.toNat + offset.toNat]? = some t ∧ t.kind = k
  peekCheck_zero : ∀ k, c.peekCheck 0 k = c.check k

namespace Tracks
variable {c : TokenCursor} {d : IndexCursor} (h : c.Tracks d)
include h

theorem increment (ha : c.advance.1 = .ok ()) :
    c.index.toNat + 1 < UInt64.size ∧ c.advance.2.index.toNat = c.index.toNat + 1 := by
  cases hp : c.peek with
  | none =>
    rw [advance_of_none hp] at ha
    cases ha
  | some t =>
    have hd : d.isAtEnd = false := h.isAtEnd.symm.trans (atEnd_of_some hp)
    obtain ⟨hlt, hadd⟩ := h.toNat_add_one hd
    rw [advance_of_some hp, h.index]
    exact ⟨by rwa [h.index] at hlt, hadd⟩

theorem peekCheck_iff (offset : UInt64) (k : TokenKind) : c.peekCheck offset k = true ↔
    ∃ t, c.tokens[c.index.toNat + offset.toNat]? = some t ∧ t.kind = k := by
  rw [h.peekCheck, IndexCursor.peekCheck, Option.any_eq_true, h.tokens, h.index]
  simp only [Token.hasKind, decide_eq_true_eq]

theorem peekCheck_zero (k : TokenKind) : c.peekCheck 0 k = c.check k := by
  rw [h.peekCheck, h.check, UInt64.toNat_zero, IndexCursor.check]

end Tracks

/-- **A cursor is an index.** Whatever is done to a cursor, it answers as one that is only tokens, a
number and a flag, to which the same is done, as long as the tokens can be counted in 64 bits. -/
theorem run_answersLike (tokens : Array Token) (moves : List CursorMove)
    (htokens : tokens.size < UInt64.size) (hmoves : ∀ m ∈ moves, m.Fits) :
    ((ofTokens tokens).run moves).AnswersLike ((IndexCursor.startingAt tokens 0).run moves) ∧
    ∀ index : UInt64, ((startingAt tokens index).run moves).AnswersLike
      ((IndexCursor.startingAt tokens index.toNat).run moves) := by
  have key : ∀ index : UInt64, ((startingAt tokens index).run moves).AnswersLike
      ((IndexCursor.startingAt tokens index.toNat).run moves) := by
    intro index
    have h := (tracks_startingAt tokens index htokens).run moves hmoves
    exact {
      tokens := h.tokens
      index := h.index
      atEnd_iff := h.atEnd_iff
      increment := h.increment
      isAtEnd := h.isAtEnd
      current := h.current
      check := h.check
      checkLexeme := h.checkLexeme
      peekCheck := h.peekCheck
      previous := h.previous
      previous? := h.previous?
      previousOr := h.previousOr
      peekCheck_iff := h.peekCheck_iff
      peekCheck_zero := h.peekCheck_zero }
  exact ⟨key 0, key⟩

/-- To the last index of all, where there is no token, and on in other tokens. -/
def farMoves : List CursorMove :=
  [.moveTo 18446744073709551615, .advance,
    .loadAt #[⟨.word, "a", ⟨0, 0⟩, ⟨0, 1⟩⟩, .endOfFile] 0, .consumeOr .word "no word", .copy]

theorem run_answersLike_farMoves :
    #[Token.endOfFile].size < UInt64.size ∧ (∀ m ∈ farMoves, m.Fits) ∧
    ((startingAt #[Token.endOfFile] 0).run farMoves).AnswersLike
      ((IndexCursor.startingAt #[Token.endOfFile] 0).run farMoves) := by
  have htokens : #[Token.endOfFile].size < UInt64.size := by decide
  have hmoves : ∀ m ∈ farMoves, m.Fits := by
    simp [farMoves, CursorMove.Fits, UInt64.size]
  exact ⟨htokens, hmoves, (run_answersLike #[Token.endOfFile] farMoves htokens hmoves).2 0⟩

end TokenCursor

end LexicalRules
