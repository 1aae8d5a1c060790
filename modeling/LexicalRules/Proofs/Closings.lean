import LexicalRules.Piece
import Mathlib.Order.Bounds.Basic

/-! # Where bodies end

A body goes up to the first place where its closing text stands, or takes all of the text where there is
no such place: `UpTo`. The two kinds of bodies differ in the places that count. For a verbatim body it
is every place (`Body.places`); for a body with escapes it is a place that is not inside a pair of a
backslash and the character behind it (`Body.openPlaces`). `Escape.Reads` says what a text with such
pairs is read as. The main statements are `rulePiece_closes_outside`, for strings with escapes, and
`rulePiece_eq_verbatimPiece`, for verbatim bodies and for the strings that are no different from them.
-/

namespace LexicalRules
set_option autoImplicit false

/-! ## Up to the first of some places -/

/-- The part of `text` in front of the first of `places`; all of it if there are none. -/
inductive UpTo (places : Set Nat) (text : List Char) : List Char → Prop where
  | first (i : Nat) (h : IsLeast places i) : UpTo places text (text.take i)
  | all (h : places = ∅) : UpTo places text text

namespace UpTo
variable {places behind : Set Nat} {text raw : List Char}

theorem eq_take (h : UpTo places text raw) {i : Nat} (hi : IsLeast places i) :
    raw = text.take i := by
  cases h with
  | first j hj => rw [hj.unique hi]
  | all he =>
    rw [he] at hi
    exact absurd hi.1 (Set.notMem_empty i)

theorem eq_self (h : UpTo places text raw) (he : places = ∅) : raw = text := by
  cases h with
  | first j hj =>
    rw [he] at hj
    exact absurd hj.1 (Set.notMem_empty j)
  | all => rfl

/-- A part that is not all of the text is as long as the first place says. -/
theorem isLeast (h : UpTo places text raw) (hne : raw ≠ text) : IsLeast places raw.length := by
  cases h with
  | first j hj =>
    have hl : j ≤ text.length := by
      by_contra hlong
      exact hne (List.take_of_length_le (by omega))
    rwa [List.length_take_of_le hl]
  | all => exact absurd rfl hne

theorem of_zero_mem (h : 0 ∈ places) : UpTo places text [] :=
  .first 0 ⟨h, fun _ _ => Nat.zero_le _⟩

/-- The first `k` characters make no difference where all places are behind them. -/
theorem shift (k : Nat) (hp : places = (· + k) '' behind) (h : UpTo behind (text.drop k) raw) :
    UpTo places text (text.take k ++ raw) := by
  subst hp
  cases h with
  | first i hi =>
    rw [← List.take_add, Nat.add_comm]
    refine .first (i + k) ⟨⟨i, hi.1, rfl⟩, ?_⟩
    rintro _ ⟨j, hj, rfl⟩
    exact Nat.add_le_add_right (hi.2 hj) k
  | all he =>
    rw [List.take_append_drop]
    exact .all (by rw [he, Set.image_empty])

end UpTo

/-! ## Verbatim bodies -/

namespace Body

/-- The places of `text` at which `close` stands. -/
def places (close text : List Char) : Set Nat :=
  {i | close <+: text.drop i}

theorem places_cons {close : List Char} {c : Char} {cs : List Char}
    (h : ¬close <+: c :: cs) : places close (c :: cs) = (· + 1) '' places close cs := by
  ext i
  cases i with
  | zero => simpa [places] using h
  | succ i => simp [places]

theorem verbatim_upTo (close text : List Char) :
    UpTo (places close text) text (verbatim close text) := by
  induction text with
  | nil =>
    by_cases h : close = []
    · exact .of_zero_mem (by simp [places, h])
    · exact .all (by simp [places, h])
  | cons c cs ih =>
    unfold verbatim
    split
    · rename_i h
      exact .of_zero_mem (List.isPrefixOf_iff_prefix.mp h)
    · rename_i h
      rw [List.isPrefixOf_iff_prefix] at h
      exact UpTo.shift 1 (places_cons h) ih

/-! ## Bodies with escapes -/

/-- The places of `text` that are reached outside a pair, reading from the left: a backslash at which
`close` does not stand makes a pair with the character behind it. -/
inductive Outside (close text : List Char) : Nat → Prop where
  | start : Outside close text 0
  | single (i : Nat) (c : Char) (hc : text[i]? = some c) (hb : c = '\\' → close <+: text.drop i)
      (h : Outside close text i) : Outside close text (i + 1)
  | pair (i : Nat) (hb : text[i]? = some '\\') (hn : ¬close <+: text.drop i)
      (hd : i + 1 < text.length) (h : Outside close text i) : Outside close text (i + 2)

/-- The places of `text` at which `close` stands outside a pair. -/
def openPlaces (close text : List Char) : Set Nat :=
  {i | Outside close text i ∧ close <+: text.drop i}

/-- Where all places but the first are at least `k` far, reading can as well start at `k`. -/
theorem outside_drop {close text : List Char} {k : Nat} (hpos : 0 < k)
    (hk : Outside close text k) (hfar : ∀ j, Outside close text j → j = 0 ∨ k ≤ j)
    (i : Nat) :
    Outside close text (i + k) ↔ Outside close (text.drop k) i := by
  have hget : ∀ j, (text.drop k)[j]? = text[j + k]? := by
    intro j
    rw [List.getElem?_drop, Nat.add_comm]
  have hdrop : ∀ j, (text.drop k).drop j = text.drop (j + k) := by
    intro j
    rw [List.drop_drop, Nat.add_comm]
  constructor
  · intro h
    generalize hj : i + k = j at h
    induction h generalizing i with
    | start =>
      obtain rfl : i = 0 := by omega
      exact .start
    | single j c hc hb h ih =>
      rcases hfar j h with rfl | hle
      · obtain rfl : i = 0 := by omega
        exact .start
      · obtain ⟨i, rfl⟩ : ∃ i', i = i' + 1 := ⟨i - 1, by omega⟩
        obtain rfl : j = i + k := by omega
        exact .single i c (by rwa [hget]) (by rwa [hdrop]) (ih i rfl)
    | pair j hb hn hd h ih =>
      rcases hfar j h with rfl | hle
      · -- A pair at the beginning leaves no place inside it, so that `k` is behind the pair.
        obtain rfl : i = 0 := by
          by_contra hi
          obtain rfl : k = 1 := by omega
          cases hk with
          | single _ c hc hs _ => exact hn (hs (Option.some.inj (hc.symm.trans hb)))
        exact .start
      · obtain ⟨i, rfl⟩ : ∃ i', i = i' + 2 := ⟨i - 2, by omega⟩
        obtain rfl : j = i + k := by omega
        exact .pair i (by rwa [hget]) (by rwa [hdrop]) (by rw [List.length_drop]; omega) (ih i rfl)
  · intro h
    induction h with
    | start => simpa using hk
    | single i c hc hb h ih =>
      rw [hget] at hc
      rw [hdrop] at hb
      have hs := Outside.single (i + k) c hc hb ih
      rwa [Nat.add_right_comm] at hs
    | pair i hb hn hd h ih =>
      rw [hget] at hb
      rw [hdrop] at hn
      rw [List.length_drop] at hd
      have hp := Outside.pair (i + k) hb hn (by omega) ih
      rwa [Nat.add_right_comm] at hp

theorem openPlaces_drop {close text : List Char} {k : Nat} (hpos : 0 < k)
    (hk : Outside close text k) (hfar : ∀ j, Outside close text j → j = 0 ∨ k ≤ j)
    (hn : ¬close <+: text) :
    openPlaces close text = (· + k) '' openPlaces close (text.drop k) := by
  ext j
  constructor
  · rintro ⟨ho, hs⟩
    rcases hfar j ho with rfl | hle
    · exact absurd hs hn
    · obtain ⟨i, rfl⟩ : ∃ i, j = i + k := ⟨j - k, by omega⟩
      refine ⟨i, ⟨(outside_drop hpos hk hfar i).mp ho, ?_⟩, rfl⟩
      rwa [List.drop_drop, Nat.add_comm]
  · rintro ⟨i, ⟨ho, hs⟩, rfl⟩
    refine ⟨(outside_drop hpos hk hfar i).mpr ho, ?_⟩
    rwa [List.drop_drop, Nat.add_comm] at hs

theorem escaped_upTo (close text : List Char) :
    UpTo (openPlaces close text) text (escaped close text) := by
  fun_induction escaped close text with
  | case1 =>
    by_cases h : close = []
    · exact .of_zero_mem ⟨.start, by simp [h]⟩
    · exact .all (by simp [openPlaces, h])
  | case2 c cs h => exact .of_zero_mem ⟨.start, List.isPrefixOf_iff_prefix.mp h⟩
  | case3 h =>
    -- A backslash that ends the text has nothing behind it that would make it a pair.
    rw [List.isPrefixOf_iff_prefix] at h
    refine .all (Set.eq_empty_iff_forall_notMem.mpr ?_)
    rintro i ⟨ho, hs⟩
    cases ho with
    | start => exact h hs
    | single i c hc hb ho =>
      obtain ⟨hi, hc⟩ := List.getElem?_eq_some_iff.mp hc
      obtain rfl : i = 0 := by simpa using hi
      exact h (hb hc.symm)
    | pair i hb hn hd ho => simp at hd
  | case4 d ds h ih =>
    rw [List.isPrefixOf_iff_prefix] at h
    have hpair : Outside close ('\\' :: d :: ds) 2 := .pair 0 rfl h (by simp) .start
    refine UpTo.shift 2 (openPlaces_drop Nat.two_pos hpair ?_ h) ih
    intro j hj
    cases hj with
    | start => exact .inl rfl
    | single i c hc hb ho =>
      cases i with
      | zero => exact absurd (hb (Option.some.inj hc).symm) h
      | succ i => exact .inr (by omega)
    | pair i hb hn hd ho => exact .inr (by omega)
  | case5 c cs h hc ih =>
    rw [List.isPrefixOf_iff_prefix] at h
    have hsingle : Outside close (c :: cs) 1 := .single 0 c rfl (fun hb => absurd hb hc) .start
    exact UpTo.shift 1 (openPlaces_drop Nat.one_pos hsingle (fun j _ => by omega) h) ih

/-! ## What a body takes -/

section Size
variable {places : Set Nat} {text raw : List Char}

theorem drop_sizeThrough_of_isLeast (close : List Char) (h : UpTo places text raw) {i : Nat}
    (hi : IsLeast places i) :
    text.drop (sizeThrough close raw text) = text.drop (i + close.length) := by
  rw [h.eq_take hi, sizeThrough, List.length_take]
  split
  · rw [Nat.min_eq_left (by omega)]
  · rw [List.drop_of_length_le (by omega), List.drop_of_length_le (by omega)]

theorem drop_sizeThrough_of_empty (close : List Char) (h : UpTo places text raw)
    (he : places = ∅) : text.drop (sizeThrough close raw text) = [] := by
  rw [h.eq_self he, sizeThrough, if_neg (Nat.lt_irrefl _), List.drop_length]

end Size

end Body

/-! ## Reading pairs -/

namespace Escape

/-- What a text with escapes is read as, pair by pair from the left. An unknown pair stays as it is
written, and a backslash that ends the text stands for nothing. -/
inductive Reads : (raw text : List Char) → Prop where
  | nil : Reads [] []
  | plain (c : Char) (raw text : List Char) (hc : c ≠ '\\') (h : Reads raw text) :
      Reads (c :: raw) (c :: text)
  | known (x c : Char) (raw text : List Char) (hx : resolve x = some c) (h : Reads raw text) :
      Reads ('\\' :: x :: raw) (c :: text)
  | unknown (x : Char) (raw text : List Char) (hx : resolve x = none) (h : Reads raw text) :
      Reads ('\\' :: x :: raw) ('\\' :: x :: text)
  | cut : Reads ['\\'] []

theorem reads_decode (raw : List Char) : Reads raw (decode raw) := by
  fun_induction decode raw with
  | case1 => exact .nil
  | case2 => exact .cut
  | case3 x ds ih =>
    unfold Escape.pair
    split
    · rename_i c hx
      exact .known x c ds _ hx ih
    · rename_i hx
      exact .unknown x ds _ hx ih
  | case4 c cs hc ih => exact .plain c cs _ hc ih

/-- Every text is read in one way. -/
theorem reads_iff (raw text : List Char) : Reads raw text ↔ decode raw = text := by
  constructor
  · intro h
    induction h with
    | nil => exact decode_nil
    | plain c raw text hc h ih => rw [decode_cons c raw hc, ih]
    | known x c raw text hx h ih => simp [Escape.pair, hx, ih]
    | unknown x raw text hx h ih => simp [Escape.pair, hx, ih]
    | cut => rfl
  · rintro rfl
    exact reads_decode raw

end Escape

/-! ## Pieces -/

/-- A piece of `source` with this lexeme, which leaves this rest of it. -/
structure Piece.Leaves (p : Piece) (source lexeme rest : List Char) : Prop where
  lexeme_eq : p.lexeme = lexeme
  rest_eq : source.drop p.size = rest

/-- The token of a rule, behind its opening text, whose body is taken as it stands. -/
def Rule.verbatimPiece (r : Rule) (opening : Nat) (text : List Char) : Piece :=
  let body := Body.ofVerbatim r.right.toList (text.drop opening)
  ⟨r.kind, body.lexeme, opening + body.size, false⟩

/-- Behind its opening text a token leaves what its body leaves. -/
theorem Piece.leaves_of_body (kind : TokenKind) (opening text : List Char) (body : Body) :
    Piece.Leaves ⟨kind, body.lexeme, opening.length + body.size, false⟩ (opening ++ text)
      body.lexeme (text.drop body.size) :=
  ⟨rfl, by rw [← List.drop_drop, List.drop_left]⟩

theorem Rule.verbatimPiece_leaves (r : Rule) (opening text : List Char) :
    (r.verbatimPiece opening.length (opening ++ text)).Leaves (opening ++ text)
      (Body.verbatim r.right.toList text)
      (text.drop (Body.sizeThrough r.right.toList (Body.verbatim r.right.toList text) text)) := by
  have h := Piece.leaves_of_body r.kind opening text (Body.ofVerbatim r.right.toList text)
  rw [verbatimPiece, List.drop_left]
  exact h

namespace Lexer

theorem rulePiece_leaves_escaped (lx : Lexer) (r : Rule)
    (hescapes : lx.settings.parseEscapeSequences = true) (hf : r.form = .escaped)
    (opening text : List Char) :
    (lx.rulePiece r opening.length (opening ++ text)).Leaves (opening ++ text)
      (Escape.decode (Body.escaped r.right.toList text))
      (text.drop (Body.sizeThrough r.right.toList (Body.escaped r.right.toList text) text)) := by
  have hread := Body.ofString_eq_ofEscaped r.right.toList text
  have h := Piece.leaves_of_body r.kind opening text (Body.ofEscaped r.right.toList text)
  rw [rulePiece, List.drop_left, hescapes, Rule.body, hf]
  simp only [hread]
  exact h

/-- **Where strings end.** A string with escapes ends at the first place outside a pair where its closing
text stands. What it takes is read pair by pair, and where there is no such place it takes all. -/
theorem rulePiece_closes_outside (lx : Lexer) (r : Rule)
    (hescapes : lx.settings.parseEscapeSequences = true) (hk : r.kind = .string)
    (he : r.isEnclosed = true) (opening text : List Char) :
    (lx.rulePiece r opening.length (opening ++ text)).kind = .string ∧
    (∀ i, IsLeast (Body.openPlaces r.right.toList text) i →
      ∃ lexeme, Escape.Reads (text.take i) lexeme ∧
        (lx.rulePiece r opening.length (opening ++ text)).Leaves (opening ++ text) lexeme
          (text.drop (i + r.right.length))) ∧
    (Body.openPlaces r.right.toList text = ∅ →
      ∃ lexeme, Escape.Reads text lexeme ∧
        (lx.rulePiece r opening.length (opening ++ text)).Leaves (opening ++ text) lexeme []) := by
  have hf : r.form = .escaped := by simp [Rule.form, hk, he]
  have hup := Body.escaped_upTo r.right.toList text
  have hleaves := lx.rulePiece_leaves_escaped r hescapes hf opening text
  refine ⟨hk, ?_, ?_⟩
  · intro i hi
    rw [Body.drop_sizeThrough_of_isLeast _ hup hi, hup.eq_take hi, String.length_toList]
      at hleaves
    exact ⟨_, Escape.reads_decode _, hleaves⟩
  · intro hempty
    rw [Body.drop_sizeThrough_of_empty _ hup hempty, hup.eq_self hempty] at hleaves
    exact ⟨_, Escape.reads_decode _, hleaves⟩

/-- A closing text that starts with a backslash: it also stands at the second of two backslashes, but
there inside a pair. -/
theorem rulePiece_closes_outside_backslash :
    IsLeast (Body.openPlaces ['\\', '>']
      ['a', '\\', 'n', '\\', 'q', '\\', '\\', '>', '\\', '>', 'c']) 8 ∧
    ((ofRules [] {}).rulePiece (.enclosed .string "<" "\\>") 1
      ['<', 'a', '\\', 'n', '\\', 'q', '\\', '\\', '>', '\\', '>', 'c']).Leaves
        ['<', 'a', '\\', 'n', '\\', 'q', '\\', '\\', '>', '\\', '>', 'c']
        ['a', '\n', '\\', 'q', '\\', '>'] ['c'] := by
  have hup := Body.escaped_upTo ['\\', '>']
    ['a', '\\', 'n', '\\', 'q', '\\', '\\', '>', '\\', '>', 'c']
  have hi : IsLeast (Body.openPlaces ['\\', '>']
      ['a', '\\', 'n', '\\', 'q', '\\', '\\', '>', '\\', '>', 'c']) 8 :=
    hup.isLeast (by decide)
  have hright : (Rule.enclosed .string "<" "\\>").right.toList = ['\\', '>'] := by decide
  obtain ⟨-, hfirst, -⟩ := rulePiece_closes_outside (ofRules [] {}) (.enclosed .string "<" "\\>")
    rfl rfl (by decide) ['<'] ['a', '\\', 'n', '\\', 'q', '\\', '\\', '>', '\\', '>', 'c']
  rw [hright] at hfirst
  obtain ⟨lexeme, hreads, hleaves⟩ := hfirst 8 hi
  have hlexeme : ['a', '\n', '\\', 'q', '\\', '>'] = lexeme := (Escape.reads_iff _ _).mp hreads
  rw [← hlexeme] at hleaves
  exact ⟨hi, hleaves⟩

/-- **Where verbatim bodies end.** A verbatim body ends at the first place where its closing text stands,
and takes all where there is none. The token of a string rule is no different where escapes are not
looked at, or where no backslash stands in front of that place. -/
theorem rulePiece_eq_verbatimPiece (lx : Lexer) (r : Rule) (opening text : List Char) :
    (∀ i, IsLeast (Body.places r.right.toList text) i →
      (r.verbatimPiece opening.length (opening ++ text)).Leaves (opening ++ text) (text.take i)
        (text.drop (i + r.right.length))) ∧
    (Body.places r.right.toList text = ∅ →
      (r.verbatimPiece opening.length (opening ++ text)).Leaves (opening ++ text) text []) ∧
    (r.form = .verbatim →
      lx.rulePiece r opening.length (opening ++ text) =
        r.verbatimPiece opening.length (opening ++ text)) ∧
    (r.kind = .string → r.isEnclosed = true →
      (lx.settings.parseEscapeSequences = false ∨
        ∀ raw, UpTo (Body.places r.right.toList text) text raw → '\\' ∉ raw) →
      lx.rulePiece r opening.length (opening ++ text) =
        r.verbatimPiece opening.length (opening ++ text)) := by
  have hup := Body.verbatim_upTo r.right.toList text
  have hleaves := r.verbatimPiece_leaves opening text
  refine ⟨?_, ?_, ?_, ?_⟩
  · intro i hi
    rwa [Body.drop_sizeThrough_of_isLeast _ hup hi, hup.eq_take hi, String.length_toList]
      at hleaves
  · intro hempty
    rwa [Body.drop_sizeThrough_of_empty _ hup hempty, hup.eq_self hempty] at hleaves
  · intro hf
    simp only [rulePiece, Rule.body, hf, Rule.verbatimPiece]
  · intro hk he hplain
    have hf : r.form = .escaped := by simp [Rule.form, hk, he]
    have hbackslash : lx.settings.parseEscapeSequences = true →
        '\\' ∉ Body.verbatim r.right.toList text := by
      intro hon
      rcases hplain with hoff | hplain
      · rw [hoff] at hon
        cases hon
      · exact hplain _ hup
    have hread := Body.ofString_eq_ofVerbatim _ r.right.toList text hbackslash
    simp only [rulePiece, Rule.body, hf, Rule.verbatimPiece, List.drop_left, hread]

/-- A closing text that overlaps itself, behind a NUL. -/
theorem rulePiece_eq_verbatimPiece_brackets :
    IsLeast (Body.places [']', ']'] ['a', '\x00', ']', ']', ']', 'b']) 2 ∧
    (∀ raw, UpTo (Body.places [']', ']'] ['a', '\x00', ']', ']', ']', 'b'])
      ['a', '\x00', ']', ']', ']', 'b'] raw → '\\' ∉ raw) ∧
    ((ofRules [] {}).rulePiece (.enclosed .string "[[" "]]") 2
      ['[', '[', 'a', '\x00', ']', ']', ']', 'b']).Leaves
        ['[', '[', 'a', '\x00', ']', ']', ']', 'b'] ['a', '\x00'] [']', 'b'] := by
  have hup := Body.verbatim_upTo [']', ']'] ['a', '\x00', ']', ']', ']', 'b']
  have hi : IsLeast (Body.places [']', ']'] ['a', '\x00', ']', ']', ']', 'b']) 2 :=
    hup.isLeast (by decide)
  have hplain : ∀ raw, UpTo (Body.places [']', ']'] ['a', '\x00', ']', ']', ']', 'b'])
      ['a', '\x00', ']', ']', ']', 'b'] raw → '\\' ∉ raw := by
    intro raw hraw
    rw [hraw.eq_take hi]
    decide
  have hright : (Rule.enclosed .string "[[" "]]").right.toList = [']', ']'] := by decide
  obtain ⟨hfirst, -, -, hstring⟩ := rulePiece_eq_verbatimPiece (ofRules [] {})
    (.enclosed .string "[[" "]]") ['[', '['] ['a', '\x00', ']', ']', ']', 'b']
  rw [hright] at hfirst hstring
  have hsame := hstring rfl (by decide) (.inr hplain)
  have hleaves := hfirst 2 hi
  rw [← hsame] at hleaves
  exact ⟨hi, hplain, hleaves⟩

end Lexer

end LexicalRules
