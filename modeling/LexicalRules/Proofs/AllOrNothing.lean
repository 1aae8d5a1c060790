import LexicalRules.Proofs.IndexCursor

/-! # All or nothing

A move that takes the token under a cursor goes on by just this token, or fails and leaves the cursor as it
was. `advance` takes any token, the other moves one of a given kind.

* `TokenCursor.Passes`: one cursor is another one behind one more token.
* `TokenCursor.Tries`: a move passes the token if it succeeds, changes nothing if not, and it is said when
  it succeeds.
* `TokenCursor.Takes`: which token a move hands out and which errors it may fail with.
* `Culprit`: the token that an error points at, said of the tokens and an index alone.

`consume` is `consumeOr` with an error about the place of the cursor (`consume_eq_consumeOr`), so that both
are one argument. The main statement is `run_allOrNothing`.
-/

namespace LexicalRules
set_option autoImplicit false

/-- The token that an error at an index points at: the one there, else the one before it, else an end of
file. -/
inductive Culprit (tokens : Array Token) : Nat → Token → Prop where
  | current (i : Nat) (t : Token) (h : tokens[i]? = some t) : Culprit tokens i t
  | previous (i : Nat) (t : Token) (hend : tokens[i + 1]? = none) (h : tokens[i]? = some t) :
      Culprit tokens (i + 1) t
  | nowhere (i : Nat) (hend : tokens[i]? = none) (hbefore : ∀ j, i = j + 1 → tokens[j]? = none) :
      Culprit tokens i .endOfFile

namespace TokenCursor

/-! ## Outcomes -/

/-- `c'` is the cursor `c` behind one more token. -/
structure Passes (c c' : TokenCursor) : Prop where
  index : c'.index.toNat = c.index.toNat + 1
  tokens : c'.tokens = c.tokens
  endsInToken : c'.endsInToken = c.endsInToken
  atEnd_iff : c'.atEnd = true ↔ c'.tokens.size ≤ c'.index.toNat

/-- A move from `c` to `c'` that succeeds just where `wanted` holds; `ok` says that it does. -/
structure Tries (c : TokenCursor) (wanted ok : Prop) (c' : TokenCursor) : Prop where
  ok_iff : ok ↔ wanted
  passes : ok → c.Passes c'
  unchanged : ¬ok → c' = c

/-- `t` is the token under `c`, has the kind `k`, and is the one behind `c'`. -/
structure HandsOut (c : TokenCursor) (k : TokenKind) (t : Token) (c' : TokenCursor) : Prop where
  token : c.tokens[c.index.toNat]? = some t
  current : c.current = .ok t
  kind : t.kind = k
  previous : c'.previous = .ok t

/-- A move that hands out the token under `c` if that has the kind `k`, and fails with an error as in
`E` if not. -/
structure Takes {ε : Type} (c : TokenCursor) (k : TokenKind) (E : ε → Prop)
    (out : Except ε Token × TokenCursor) : Prop where
  tries : c.Tries (c.check k = true) (∃ t, out.1 = .ok t) out.2
  handsOut : ∀ t, out.1 = .ok t → c.HandsOut k t out.2
  error : ∀ e, out.1 = .error e → E e

/-- What the moves that take a token do at `c`, and what the questions say that they depend on. -/
structure AllOrNothing (c : TokenCursor) : Prop where
  atEnd_iff : c.atEnd = true ↔ c.tokens.size ≤ c.index.toNat
  check_iff : ∀ k, c.check k = true ↔ ∃ t, c.tokens[c.index.toNat]? = some t ∧ t.kind = k
  advance : c.Tries (c.atEnd = false) (c.advance.1 = .ok ()) c.advance.2
  advance_error : c.atEnd = true → c.advance.1 = .error .pastEnd
  advanceIf : ∀ k, c.Tries (c.check k = true) ((c.advanceIf k).1 = true) (c.advanceIf k).2
  consume : ∀ k message, c.Takes k
    (fun e => e.message = message ∧ Culprit c.tokens c.index.toNat e.token) (c.consume k message)
  consumeOr : ∀ {ε : Type} k (e : ε), c.Takes k (fun e' => e' = e) (c.consumeOr k e)
  /-- An end token where the tokens run out has no part in it. -/
  withEndToken : ∀ b k message,
    ((c.withEndToken b).consume k message).1 = (c.consume k message).1

/-! ## Moves for tokens of one kind -/

section Kinds
variable {c : TokenCursor} {k : TokenKind}

theorem pass_of_check (h : c.check k = true) : c.pass k = c.moveTo (c.index + 1) := by
  rw [pass, if_pos h]

theorem pass_of_not_check (h : ¬c.check k = true) : c.pass k = c := by
  rw [pass, if_neg h]

theorem advanceIf_fst : (c.advanceIf k).1 = c.check k := by
  cases h : c.check k with
  | true => rw [advanceIf_of_check h]
  | false => rw [advanceIf_of_not_check h]

theorem consumeOr_of_check (h : c.check k = true) :
    ∃ t, c.peek = some t ∧ t.kind = k ∧
      ∀ {ε : Type} (e : ε), c.consumeOr k e = (.ok t, c.moveTo (c.index + 1)) := by
  obtain ⟨t, ht, hk, htake⟩ := take_of_check h
  refine ⟨t, ht, hk, ?_⟩
  intro ε e
  rw [consumeOr, htake]

theorem consumeOr_of_not_check {ε : Type} (h : c.check k = false) (e : ε) :
    c.consumeOr k e = (.error e, c) := by
  rw [consumeOr, take_of_not_check h]

theorem consume_eq_consumeOr (message : String) :
    c.consume k message = c.consumeOr k ⟨c.culprit, message⟩ := by
  cases h : c.check k with
  | true =>
    obtain ⟨t, -, -, ht⟩ := take_of_check h
    rw [consume, consumeOr, ht]
  | false => rw [consume, consumeOr, take_of_not_check h]

theorem consumeOr_withEndToken {ε : Type} (b : Bool) (e : ε) :
    ((c.withEndToken b).consumeOr k e).1 = (c.consumeOr k e).1 := by
  have hpeek : (c.withEndToken b).peek = c.peek := rfl
  have hcheck : (c.withEndToken b).check k = c.check k := rfl
  cases h : c.check k with
  | true =>
    obtain ⟨t, ht, -, hc⟩ := consumeOr_of_check h
    obtain ⟨u, hu, -, hb⟩ := consumeOr_of_check (hcheck.trans h)
    rw [hpeek, ht] at hu
    cases hu
    rw [hc, hb]
  | false => rw [consumeOr_of_not_check h, consumeOr_of_not_check (hcheck.trans h)]

end Kinds

/-! ## Cursors in step with an index -/

namespace Tracks
variable {c : TokenCursor} {d : IndexCursor} (h : c.Tracks d)
include h

theorem passes (hd : d.isAtEnd = false) : c.Passes (c.moveTo (c.index + 1)) where
  index := by
    rw [h.index]
    exact (h.toNat_add_one hd).2
  tokens := rfl
  endsInToken := rfl
  atEnd_iff := (h.next hd).atEnd_iff

theorem isAtEnd_of_check {k : TokenKind} (hk : c.check k = true) : d.isAtEnd = false := by
  obtain ⟨t, ht, -⟩ := peek_of_check hk
  exact h.isAtEnd.symm.trans (atEnd_of_some ht)

theorem tries_advance : c.Tries (c.atEnd = false) (c.advance.1 = .ok ()) c.advance.2 := by
  cases hp : c.peek with
  | none =>
    have hend : ¬c.atEnd = false := by
      intro hf
      have hlt := d.isAtEnd_eq_false_iff.mp (h.isAtEnd.symm.trans hf)
      rw [h.peek, Array.getElem?_eq_getElem hlt] at hp
      cases hp
    rw [advance_of_none hp]
    have hfail : ¬(Except.error CursorError.pastEnd : Except CursorError Unit) = .ok () := by
      intro ha
      cases ha
    exact ⟨iff_of_false hfail hend, fun ha => absurd ha hfail, fun _ => rfl⟩
  | some t =>
    have hf := atEnd_of_some hp
    rw [advance_of_some hp]
    exact ⟨iff_of_true rfl hf, fun _ => h.passes (h.isAtEnd.symm.trans hf), fun ha => absurd rfl ha⟩

/-- All moves for tokens of a kind lead where `pass` leads. -/
theorem tries_pass (k : TokenKind) (ok : Prop) (hok : ok ↔ c.check k = true) (c' : TokenCursor)
    (hc : c' = c.pass k) : c.Tries (c.check k = true) ok c' where
  ok_iff := hok
  passes ha := by
    have hk := hok.mp ha
    rw [hc, pass_of_check hk]
    exact h.passes (h.isAtEnd_of_check hk)
  unchanged ha := by
    rw [hc, pass_of_not_check fun hk => ha (hok.mpr hk)]

theorem handsOut {k : TokenKind} {t : Token} (ht : c.peek = some t) (hk : t.kind = k) :
    c.HandsOut k t (c.moveTo (c.index + 1)) where
  token := by
    rw [h.tokens, h.index, ← h.peek, ht]
  current := by
    rw [TokenCursor.current, ht]
  kind := hk
  previous := by
    have hd : d.isAtEnd = false := h.isAtEnd.symm.trans (atEnd_of_some ht)
    have hprev : d.next.previous? = some t := h.peek.symm.trans ht
    rw [(h.next hd).previous, IndexCursor.previous, hprev]

theorem takes_consumeOr {ε : Type} (k : TokenKind) (e : ε) :
    c.Takes k (fun e' => e' = e) (c.consumeOr k e) := by
  cases hk : c.check k with
  | true =>
    obtain ⟨t, ht, htk, hout⟩ := consumeOr_of_check hk
    have hok : (∃ u, (c.consumeOr k e).1 = .ok u) ↔ c.check k = true :=
      ⟨fun _ => hk, fun _ => ⟨t, by rw [hout]⟩⟩
    refine ⟨h.tries_pass k _ hok _ (consumeOr_snd e), ?_, ?_⟩
    · intro u hu
      rw [hout] at hu ⊢
      cases hu
      exact h.handsOut ht htk
    · intro e' he
      rw [hout] at he
      cases he
  | false =>
    have hout := consumeOr_of_not_check hk e
    have hok : (∃ u, (c.consumeOr k e).1 = .ok u) ↔ c.check k = true := by
      simp [hout, hk]
    refine ⟨h.tries_pass k _ hok _ (consumeOr_snd e), ?_, ?_⟩
    · intro u hu
      rw [hout] at hu
      cases hu
    · intro e' he
      rw [hout] at he
      cases he
      rfl

/-- What the cursor blames is what the tokens and its index say. -/
theorem culprit : Culprit c.tokens c.index.toNat c.culprit := by
  have hpeek : c.peek = c.tokens[c.index.toNat]? := by rw [h.peek, h.tokens, h.index]
  cases ht : c.peek with
  | some t =>
    have he : c.culprit = t := by simp [TokenCursor.culprit, ht]
    rw [he]
    exact .current _ t (hpeek.symm.trans ht)
  | none =>
    have hend := hpeek.symm.trans ht
    cases hi : c.index.toNat with
    | zero =>
      have he : c.culprit = .endOfFile := by
        simp [TokenCursor.culprit, ht, c.previous?_of_zero hi]
      rw [he]
      exact .nowhere 0 (by rwa [hi] at hend) fun j hj => nomatch hj
    | succ i =>
      rw [hi] at hend
      have hprev := c.previous?_of_succ i hi
      cases hu : c.tokens[i]? with
      | some u =>
        have he : c.culprit = u := by simp [TokenCursor.culprit, ht, hprev, hu]
        rw [he]
        exact .previous i u hend hu
      | none =>
        have he : c.culprit = .endOfFile := by simp [TokenCursor.culprit, ht, hprev, hu]
        rw [he]
        refine .nowhere (i + 1) hend ?_
        intro j hj
        rwa [← Nat.succ.inj hj]

theorem takes_consume (k : TokenKind) (message : String) : c.Takes k
    (fun e => e.message = message ∧ Culprit c.tokens c.index.toNat e.token)
    (c.consume k message) := by
  have ht := h.takes_consumeOr k (⟨c.culprit, message⟩ : ParseError)
  rw [← consume_eq_consumeOr] at ht
  refine ⟨ht.tries, ht.handsOut, ?_⟩
  intro e he
  rw [ht.error e he]
  exact ⟨rfl, h.culprit⟩

theorem allOrNothing : c.AllOrNothing where
  atEnd_iff := h.atEnd_iff
  check_iff k := by
    rw [← h.peekCheck_zero, h.peekCheck_iff, UInt64.toNat_zero, Nat.add_zero]
  advance := h.tries_advance
  advance_error hend := by
    have hp : c.peek = none := by rw [TokenCursor.peek, if_pos hend]
    rw [advance_of_none hp]
  advanceIf k := h.tries_pass k _ (by rw [advanceIf_fst]) _ advanceIf_snd
  consume := h.takes_consume
  consumeOr := h.takes_consumeOr
  withEndToken b k message := by
    rw [consume_eq_consumeOr, consume_eq_consumeOr, consumeOr_withEndToken]
    rfl

end Tracks

/-- **All or nothing.** Wherever a cursor has come to, its moves take the whole token under it or change
nothing, as long as the tokens can be counted in 64 bits. -/
theorem run_allOrNothing (tokens : Array Token) (start : UInt64) (moves : List CursorMove)
    (htokens : tokens.size < UInt64.size) (hmoves : ∀ m ∈ moves, m.Fits) :
    ((startingAt tokens start).run moves).AllOrNothing :=
  ((tracks_startingAt tokens start htokens).run moves hmoves).allOrNothing

/-- A single word. -/
def wordTokens : Array Token :=
  #[⟨.word, "a", ⟨0, 0⟩, ⟨0, 1⟩⟩]

/-- Past the word, to where an end token stands for tokens that are not there. -/
def endMoves : List CursorMove :=
  [.withEndToken true, .advanceIf .integer, .consume .word "no word", .consumeOr .word "no word"]

/-- The end token is not taken there, and the error is about the word. -/
theorem run_allOrNothing_endMoves :
    wordTokens.size < UInt64.size ∧ (∀ m ∈ endMoves, m.Fits) ∧
    ((startingAt wordTokens 0).run endMoves).AllOrNothing ∧
    ((startingAt wordTokens 0).run endMoves).current = .ok .endOfFile ∧
    (((startingAt wordTokens 0).run endMoves).consume .endOfFile "no end").1 =
      .error ⟨⟨.word, "a", ⟨0, 0⟩, ⟨0, 1⟩⟩, "no end"⟩ := by
  have htokens : wordTokens.size < UInt64.size := by decide
  have hmoves : ∀ m ∈ endMoves, m.Fits := by simp [endMoves, CursorMove.Fits]
  exact ⟨htokens, hmoves, run_allOrNothing wordTokens 0 endMoves htokens hmoves, rfl, rfl⟩

end TokenCursor

end LexicalRules
