import LexicalRules.Proofs.Cuts
import LexicalRules.TokenCursor

/-! # One end

A scan gives out one token of kind `endOfFile` and nothing behind it, whatever rules it has. A cursor
over its tokens therefore finds that kind at the last index and nowhere else. `TokenCursor.Seeks` is the
loop that advances until it stands on a kind. The main statements are `seeks_iff`, where this loop ends
if only the last token has the kind, and `tokenize_ends_once`.
-/

namespace LexicalRules
set_option autoImplicit false

/-! ## The tokens of a scan -/

theorem upToEnd_of_mem (ts : List Token) (e : Token) (he : e ∈ ts) (hk : e.kind = .endOfFile) :
    ∃ us u, upToEnd ts = us ++ [u] ∧ u.kind = .endOfFile ∧ ∀ t ∈ us, t.kind ≠ .endOfFile := by
  induction ts with
  | nil => cases he
  | cons t ts ih =>
    by_cases ht : t.kind = .endOfFile
    · exact ⟨[], t, by simp [upToEnd, ht], ht, by simp⟩
    · have hm : e ∈ ts := by
        rcases List.mem_cons.mp he with rfl | hm
        · exact absurd hk ht
        · exact hm
      obtain ⟨us, u, hus, hu, hne⟩ := ih hm
      refine ⟨t :: us, u, by simp [upToEnd, ht, hus], hu, ?_⟩
      intro v hv
      rcases List.mem_cons.mp hv with rfl | hv
      · exact ht
      · exact hne v hv

namespace Scan

theorem remaining_eq_append_end (s : Scan) (hf : s.finished = false) :
    ∃ ts e, s.remaining = ts ++ [e] ∧ e.kind = .endOfFile ∧ ∀ t ∈ ts, t.kind ≠ .endOfFile := by
  rw [s.remaining_eq hf]
  apply upToEnd_of_mem _ (endMarker (s.here.travel s.metric s.rest))
  · simp [allTokens, endMarker, s.keeps_endOfFile]
  · rfl

theorem take_length_le (n : Nat) (s : Scan) : (s.take n).1.length ≤ n := by
  induction n generalizing s with
  | zero => exact Nat.le_refl 0
  | succ n ih =>
    cases h : s.next? with
    | none => simp [take, h]
    | some p =>
      have hl := ih p.2
      simp only [take, h, List.length_cons]
      omega

theorem remaining_length_le (s : Scan) : s.remaining.length ≤ s.rest.length + 1 := by
  have hl : s.remaining.length ≤ s.left := s.take_length_le s.left
  unfold left at hl
  split at hl <;> omega

theorem next?_of_remaining_length_le (n : Nat) (s : Scan) (h : s.remaining.length ≤ n) :
    (s.take n).2.next? = none := by
  have hn := getElem?_remaining n s
  rw [List.getElem?_eq_none h] at hn
  exact Option.map_eq_none_iff.mp hn.symm

end Scan

/-! ## Cursors that look for a kind -/

namespace TokenCursor

/-- The loop that advances until the token under the cursor has the kind `k`: it leads from the first
cursor to the second, and no advance fails on the way. -/
inductive Seeks (k : TokenKind) : TokenCursor → TokenCursor → Prop where
  | found (c : TokenCursor) (h : c.check k = true) : Seeks k c c
  | onward (c c' d : TokenCursor) (h : c.check k = false) (ha : c.advance = (.ok (), c'))
      (hs : Seeks k c' d) : Seeks k c d

theorem Seeks.unique {k : TokenKind} {c d e : TokenCursor} (hd : Seeks k c d) (he : Seeks k c e) :
    d = e := by
  induction hd with
  | found c h =>
    cases he with
    | found _ _ => rfl
    | onward _ c' _ hn _ _ =>
      rw [h] at hn
      cases hn
  | onward c c' d h ha _ ih =>
    cases he with
    | found _ hc =>
      rw [h] at hc
      cases hc
    | onward _ c'' _ _ hb hs =>
      rw [ha] at hb
      cases hb
      exact ih hs

section Starting
variable (tokens : Array Token) (i : UInt64)

theorem peek_startingAt : (startingAt tokens i).peek = tokens[i.toNat]? := by
  simp only [peek, startingAt, beyond]
  by_cases h : tokens.size ≤ i.toNat
  · simp [h]
  · simp [h]

theorem check_startingAt (k : TokenKind) :
    (startingAt tokens i).check k = tokens[i.toNat]?.any fun t => t.hasKind k := by
  rw [check, peek_startingAt]

theorem advance_startingAt (h : i.toNat < tokens.size) :
    (startingAt tokens i).advance = (.ok (), startingAt tokens (i + 1)) := by
  have hp : (startingAt tokens i).peek = some tokens[i.toNat] := by
    rw [peek_startingAt, Array.getElem?_eq_getElem h]
  rw [advance_of_some hp]
  rfl

end Starting

/-- The kind `k` is that of the last token and of no other. -/
def OnlyLast (k : TokenKind) (tokens : Array Token) : Prop :=
  ∀ (i : Nat) (t : Token), tokens[i]? = some t → (t.kind = k ↔ i + 1 = tokens.size)

variable {k : TokenKind} {tokens : Array Token}

theorem OnlyLast.check_iff (h : OnlyLast k tokens) (i : UInt64) (hi : i.toNat < tokens.size) :
    (startingAt tokens i).check k = true ↔ i.toNat + 1 = tokens.size := by
  have hg : tokens[i.toNat]? = some tokens[i.toNat] := Array.getElem?_eq_getElem hi
  rw [check_startingAt, hg, ← h i.toNat tokens[i.toNat] hg]
  simp [Token.hasKind]

theorem OnlyLast.seeks (h : OnlyLast k tokens) (last : UInt64) (hl : last.toNat + 1 = tokens.size)
    (i : UInt64) (hi : i.toNat < tokens.size) :
    Seeks k (startingAt tokens i) (startingAt tokens last) := by
  -- By the number of tokens behind the cursor: only the last one stops the loop.
  induction hn : last.toNat - i.toNat generalizing i with
  | zero =>
    have he : i = last := UInt64.toNat_inj.mp (by omega)
    subst he
    exact .found _ ((h.check_iff i hi).mpr hl)
  | succ n ih =>
    have hc : (startingAt tokens i).check k = false := by
      rw [← Bool.not_eq_true, h.check_iff i hi]
      omega
    have hlt := last.toNat_lt
    have hs : (i + 1).toNat = i.toNat + 1 := by
      rw [UInt64.toNat_add]
      exact Nat.mod_eq_of_lt (by simp only [UInt64.toNat_one]; omega)
    exact .onward _ _ _ hc (advance_startingAt tokens i hi) (ih (i + 1) (by omega) (by omega))

/-- **Where the loop ends.** From any token it comes to the last one, and to no other place. -/
theorem OnlyLast.seeks_iff (h : OnlyLast k tokens) (last : UInt64)
    (hl : last.toNat + 1 = tokens.size) (i : UInt64) (hi : i.toNat < tokens.size)
    (c : TokenCursor) : Seeks k (startingAt tokens i) c ↔ c = startingAt tokens last := by
  have hs := h.seeks last hl i hi
  constructor
  · exact fun hc => hc.unique hs
  · rintro rfl
    exact hs

theorem onlyLast_of_append (ts : List Token) (e : Token) (he : e.kind = k)
    (hne : ∀ t ∈ ts, t.kind ≠ k) : OnlyLast k (ts ++ [e]).toArray := by
  intro i t ht
  rw [List.getElem?_toArray] at ht
  rw [List.size_toArray, List.length_append, List.length_singleton]
  rcases Nat.lt_trichotomy i ts.length with hi | hi | hi
  · rw [List.getElem?_append_left hi] at ht
    have hk := hne t (List.mem_of_getElem? ht)
    exact ⟨fun h => absurd h hk, fun h => by omega⟩
  · subst hi
    rw [List.getElem?_concat_length, Option.some_inj] at ht
    subst ht
    exact ⟨fun _ => rfl, fun _ => he⟩
  · rw [List.getElem?_eq_none (by simp; omega)] at ht
    cases ht

end TokenCursor

namespace Lexer

theorem onlyLast_tokenize (lx : Lexer) (text : String) :
    TokenCursor.OnlyLast .endOfFile (lx.tokenize text).toArray := by
  obtain ⟨ts, e, hts, he, hne⟩ := (lx.scan text).remaining_eq_append_end rfl
  rw [tokenize, hts]
  exact TokenCursor.onlyLast_of_append ts e he hne

theorem tokenize_length_le (lx : Lexer) (text : String) :
    (lx.tokenize text).length ≤ text.length + 1 := by
  rw [← String.length_toList]
  exact (lx.scan text).remaining_length_le

/-- **One end.** The last token is the only one of kind `endOfFile` and none comes behind it; a cursor
finds it at the last index only, and a loop that advances to it gets there from everywhere, as long as
the characters of the text can be counted in an index. -/
theorem tokenize_ends_once (lx : Lexer) (text : String) :
    (∃ ts e, lx.tokenize text = ts ++ [e] ∧ e.kind = .endOfFile ∧
      ∀ t ∈ ts, t.kind ≠ .endOfFile) ∧
    (∀ n, (lx.tokenize text).length ≤ n → ((lx.scan text).take n).2.next? = none) ∧
    (∀ i : UInt64, i.toNat < (lx.tokenize text).length →
      ((TokenCursor.startingAt (lx.tokenize text).toArray i).check .endOfFile = true ↔
        i.toNat + 1 = (lx.tokenize text).length)) ∧
    (text.length < UInt64.size → ∃ last : UInt64, last.toNat + 1 = (lx.tokenize text).length ∧
      ∀ (i : UInt64) (c : TokenCursor), i.toNat < (lx.tokenize text).length →
        (TokenCursor.Seeks .endOfFile
            (TokenCursor.startingAt (lx.tokenize text).toArray i) c ↔
          c = TokenCursor.startingAt (lx.tokenize text).toArray last)) := by
  have honly := lx.onlyLast_tokenize text
  have hend := (lx.scan text).remaining_eq_append_end rfl
  have hsize : (lx.tokenize text).toArray.size = (lx.tokenize text).length := List.size_toArray
  refine ⟨hend, ?_, ?_, ?_⟩
  · intro n hn
    exact Scan.next?_of_remaining_length_le n (lx.scan text) hn
  · intro i hi
    rw [← hsize] at hi ⊢
    exact honly.check_iff i hi
  · intro hlen
    have hle := lx.tokenize_length_le text
    have hpos : 0 < (lx.tokenize text).length := by
      obtain ⟨ts, e, hts, -⟩ := hend
      rw [tokenize, hts, List.length_append, List.length_singleton]
      omega
    -- The index of the last token is a number that a cursor can hold.
    have hl : (UInt64.ofNat ((lx.tokenize text).length - 1)).toNat + 1 =
        (lx.tokenize text).length := by
      rw [UInt64.toNat_ofNat_of_lt' (by omega)]
      omega
    refine ⟨_, hl, ?_⟩
    intro i c hi
    rw [← hsize] at hi hl
    exact honly.seeks_iff _ hl i hi c

/-- A rule of kind `endOfFile` in the middle of a text: its token is the last, and the loop stops there. -/
theorem tokenize_ends_once_rule :
    "a end b".length < UInt64.size ∧ ∃ last : UInt64,
      last.toNat + 1 = ((ofRules [.literal .endOfFile "end"] {}).tokenize "a end b").length ∧
      ∀ (i : UInt64) (c : TokenCursor),
        i.toNat < ((ofRules [.literal .endOfFile "end"] {}).tokenize "a end b").length →
        (TokenCursor.Seeks .endOfFile (TokenCursor.startingAt
            ((ofRules [.literal .endOfFile "end"] {}).tokenize "a end b").toArray i) c ↔
          c = TokenCursor.startingAt
            ((ofRules [.literal .endOfFile "end"] {}).tokenize "a end b").toArray last) := by
  have h : "a end b".length < UInt64.size := by decide
  exact ⟨h, (tokenize_ends_once _ "a end b").2.2.2 h⟩

end Lexer

end LexicalRules
