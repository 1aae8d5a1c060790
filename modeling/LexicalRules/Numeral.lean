import LexicalRules.Settings

/-! # Numbers

A number is written as an optional sign, digits, optionally a point and more digits, and optionally a
suffix letter: `f` or `d` behind a point, `u` or `b` where there is none. `Numeral.read` takes as much
of a text as has this shape; the suffix decides the kind and is not part of the lexeme.

A scan reads numbers character by character, with flags for the beginning and the point:
`Numeral.gather`. Where it starts on no suffix letter, this finds what `Numeral.read` finds
(`gather_eq_read`).
-/

namespace LexicalRules
set_option autoImplicit false

structure Numeral where
  sign : Option Char
  whole : List Char
  /-- The digits behind the point, if there is a point. -/
  fraction : Option (List Char)
  suffix : Option Char
  deriving DecidableEq, Repr

namespace Numeral

/-- The sign at the head of a text. A point is never a sign, it starts the fraction. -/
def signOf (s : Settings) : List Char → Option Char
  | [] => none
  | c :: _ => if s.isNegativeSign c && c != '.' then some c else none

/-- The fraction at the head of a text: a point and all digits behind it. -/
def fractionOf : List Char → Option (List Char)
  | '.' :: cs => some (cs.takeWhile Char.isDigit)
  | _ => none

/-- The suffix at the head of a text, for a number with or without a point. -/
def suffixOf (point : Bool) : List Char → Option Char
  | [] => none
  | c :: _ =>
    if point then (if c = 'f' ∨ c = 'd' then some c else none)
    else if c = 'u' ∨ c = 'b' then some c else none

/-- The point and the digits behind it as they are written. -/
def fractionText : Option (List Char) → List Char
  | some ds => '.' :: ds
  | none => []

def read (s : Settings) (text : List Char) : Numeral :=
  let sign := signOf s text
  let unsigned := text.drop sign.toList.length
  let whole := unsigned.takeWhile Char.isDigit
  let behindWhole := unsigned.drop whole.length
  let fraction := fractionOf behindWhole
  let behind := behindWhole.drop (fractionText fraction).length
  ⟨sign, whole, fraction, suffixOf fraction.isSome behind⟩

/-- The number as it is written, without its suffix. -/
def lexeme (n : Numeral) : List Char :=
  n.sign.toList ++ n.whole ++ fractionText n.fraction

def written (n : Numeral) : List Char :=
  n.lexeme ++ n.suffix.toList

/-- The kind of number, from its point and its suffix. -/
def kind (n : Numeral) : TokenKind :=
  if n.fraction.isSome then
    (if n.suffix = some 'f' then .float else .double)
  else if n.suffix = some 'u' then .unsignedInteger
  else if n.suffix = some 'b' then .byte
  else .integer

/-- The number at the head of a text, which takes no sign. -/
def unsigned (text : List Char) : Numeral :=
  let whole := text.takeWhile Char.isDigit
  let behindWhole := text.drop whole.length
  let fraction := fractionOf behindWhole
  ⟨none, whole, fraction,
    suffixOf fraction.isSome (behindWhole.drop (fractionText fraction).length)⟩

def withSign (sign : Option Char) (n : Numeral) : Numeral :=
  { n with sign := sign }

theorem lexeme_withSign (sign : Option Char) (n : Numeral) :
    (n.withSign sign).lexeme = sign.toList ++ (n.withSign none).lexeme := by
  simp [withSign, lexeme, List.append_assoc]

theorem read_eq_withSign (s : Settings) (text : List Char) :
    read s text =
      (unsigned (text.drop (signOf s text).toList.length)).withSign (signOf s text) := rfl

/-! ## Character by character -/

/-- What has been gathered of a number: its lexeme, whether a point is part of it, and its suffix. -/
structure Gathered where
  lexeme : List Char
  point : Bool
  suffix : Option Char
  deriving DecidableEq, Repr

namespace Gathered

def prepend (c : Char) (g : Gathered) : Gathered :=
  { g with lexeme := c :: g.lexeme }

/-- The number of characters that it takes. -/
def size (g : Gathered) : Nat :=
  g.lexeme.length + g.suffix.toList.length

theorem size_prepend (c : Char) (g : Gathered) : (g.prepend c).size = g.size + 1 := by
  simp only [size, prepend, List.length_cons]
  omega

def kind (g : Gathered) : TokenKind :=
  match g.point, g.suffix with
  | true, some 'f' => .float
  | true, _ => .double
  | false, some 'u' => .unsignedInteger
  | false, some 'b' => .byte
  | false, _ => .integer

end Gathered

/-- Reads a number character by character. `first` says that there is nothing in front of the next
character, where alone a sign may stand, and `point` that there is a point. -/
def gather (isSign : Char → Bool) : (first point : Bool) → List Char → Gathered
  | _, point, [] => ⟨[], point, none⟩
  | first, point, c :: cs =>
    if c.isDigit then (gather isSign false point cs).prepend c
    else if c == '.' && !point then (gather isSign false true cs).prepend c
    else if (c == 'f' || c == 'd') && point then ⟨[], point, some c⟩
    else if (c == 'u' || c == 'b') && !point then ⟨[], point, some c⟩
    else if isSign c && first then (gather isSign false point cs).prepend c
    else ⟨[], point, none⟩

/-- Where a number starts, at least one character belongs to it. -/
theorem gather_size_pos (s : Settings) (c : Char) (cs : List Char)
    (h : s.isNumberStart c = true) : 0 < (gather s.isNegativeSign true false (c :: cs)).size := by
  unfold gather
  split
  · rw [Gathered.size_prepend]
    exact Nat.succ_pos _
  · rename_i hd
    have hn : s.isNegativeSign c = true := by simpa [Settings.isNumberStart, hd] using h
    split
    · rw [Gathered.size_prepend]
      exact Nat.succ_pos _
    · simp only [Bool.and_false, Bool.false_eq_true, if_false]
      split
      · exact Nat.one_pos
      · rw [if_pos (by simp [hn]), Gathered.size_prepend]
        exact Nat.succ_pos _

/-- The number as the loop gathers it. -/
def gathered (n : Numeral) : Gathered :=
  ⟨n.lexeme, n.fraction.isSome, n.suffix⟩

theorem size_gathered (n : Numeral) : n.gathered.size = n.written.length := by
  simp [gathered, Gathered.size, written]

theorem kind_gathered (n : Numeral) : n.gathered.kind = n.kind := by
  unfold Gathered.kind kind gathered
  split <;> simp_all

/-! What the loop gathers is shown from the end of a number to its beginning: behind the point, behind
the sign, and with the sign. -/

theorem gather_behindPoint (isSign : Char → Bool) (text : List Char) :
    gather isSign false true text =
      ⟨text.takeWhile Char.isDigit, true,
        suffixOf true (text.drop (text.takeWhile Char.isDigit).length)⟩ := by
  induction text with
  | nil => rfl
  | cons c cs ih =>
    by_cases hd : c.isDigit = true
    · simp [gather, hd, ih, Gathered.prepend]
    · by_cases hs : c = 'f' ∨ c = 'd' <;> simp [gather, hd, suffixOf, hs]

theorem gather_unsigned (isSign : Char → Bool) (text : List Char) :
    gather isSign false false text = (unsigned text).gathered := by
  induction text with
  | nil => rfl
  | cons c cs ih =>
    by_cases hd : c.isDigit = true
    · have hgather : gather isSign false false (c :: cs) =
          (gather isSign false false cs).prepend c := by simp [gather, hd]
      rw [hgather, ih]
      simp [unsigned, gathered, lexeme, hd, Gathered.prepend]
    · by_cases hp : c = '.'
      · subst hp
        have hgather : gather isSign false false ('.' :: cs) =
            (gather isSign false true cs).prepend '.' := by simp [gather, hd]
        rw [hgather, gather_behindPoint]
        simp [unsigned, gathered, lexeme, hd, Gathered.prepend, fractionOf, fractionText]
      · have hfraction : fractionOf (c :: cs) = none := by simp [fractionOf, hp]
        by_cases hs : c = 'u' ∨ c = 'b' <;>
          simp [gather, unsigned, gathered, lexeme, hd, hp, hs, hfraction, fractionText, suffixOf]

/-- Reading character by character finds the number at the head of a text, unless a suffix letter stands
there: that may be a sign, but it is taken for a suffix. -/
theorem gather_eq_read (s : Settings) (c : Char) (cs : List Char) (hc : c ≠ 'u' ∧ c ≠ 'b') :
    gather s.isNegativeSign true false (c :: cs) = (read s (c :: cs)).gathered := by
  by_cases hs : (s.isNegativeSign c && c != '.') = true
  · have hread : read s (c :: cs) = (unsigned cs).withSign (some c) := by
      simp [read_eq_withSign, signOf, hs]
    have hgather : gather s.isNegativeSign true false (c :: cs) =
        (gather s.isNegativeSign false false cs).prepend c := by
      rw [Bool.and_eq_true, bne_iff_ne] at hs
      simp [gather, hs.1, hs.2, hc.1, hc.2]
    rw [hgather, gather_unsigned, hread]
    rfl
  · have hread : read s (c :: cs) = unsigned (c :: cs) := by
      simp [read_eq_withSign, signOf, hs, withSign, unsigned]
    have hgather : gather s.isNegativeSign true false (c :: cs) =
        gather s.isNegativeSign false false (c :: cs) := by
      -- with no sign there, it makes no difference that one might stand there
      by_cases hp : c = '.'
      · simp [gather, hp]
      · have hn : s.isNegativeSign c = false := by simpa [hp] using hs
        simp [gather, hn]
    rw [hgather, gather_unsigned, hread]

/-- A sign that is a suffix letter makes the difference. -/
example : gather (· == 'u') true false ['u', '1'] = ⟨[], false, some 'u'⟩ ∧
    (read { allowNegatives := true, negativeChar := 'u' } ['u', '1']).gathered =
      ⟨['u', '1'], false, none⟩ := by decide

/-! ## What is read stands at the head of the text -/

theorem signOf_isPrefix (s : Settings) (text : List Char) : (signOf s text).toList <+: text := by
  unfold signOf
  split
  · exact List.nil_prefix
  · split
    · exact List.cons_prefix_cons.mpr ⟨rfl, List.nil_prefix⟩
    · exact List.nil_prefix

theorem fractionOf_isPrefix (text : List Char) : fractionText (fractionOf text) <+: text := by
  unfold fractionOf
  split
  · exact List.cons_prefix_cons.mpr ⟨rfl, List.takeWhile_prefix _⟩
  · exact List.nil_prefix

theorem suffixOf_isPrefix (point : Bool) (text : List Char) :
    (suffixOf point text).toList <+: text := by
  unfold suffixOf
  split
  · exact List.nil_prefix
  · rename_i c cs
    have hc : (some c).toList <+: c :: cs := List.cons_prefix_cons.mpr ⟨rfl, List.nil_prefix⟩
    split
    · split
      · exact hc
      · exact List.nil_prefix
    · split
      · exact hc
      · exact List.nil_prefix

/-- What stands at the head of a text and what stands behind it there go together. -/
theorem append_isPrefix {a b text : List Char} (ha : a <+: text) (hb : b <+: text.drop a.length) :
    a ++ b <+: text := by
  obtain ⟨t, rfl⟩ := ha
  rw [List.drop_left] at hb
  exact (List.prefix_append_right_inj a).mpr hb

theorem written_isPrefix (s : Settings) (text : List Char) : (read s text).written <+: text := by
  have h1 := signOf_isPrefix s text
  have h2 : (read s text).whole <+: text.drop (read s text).sign.toList.length :=
    List.takeWhile_prefix _
  have h3 := append_isPrefix h1 h2
  have h4 : fractionText (read s text).fraction <+:
      text.drop ((read s text).sign.toList ++ (read s text).whole).length := by
    rw [List.length_append, ← List.drop_drop]
    exact fractionOf_isPrefix _
  have h5 := append_isPrefix h3 h4
  have h6 : (read s text).suffix.toList <+: text.drop (read s text).lexeme.length := by
    unfold lexeme
    rw [List.length_append, List.length_append, ← List.drop_drop, ← List.drop_drop]
    exact suffixOf_isPrefix _ _
  exact append_isPrefix h5 h6

/-- Where a number starts, at least one character belongs to it. -/
theorem written_ne_nil (s : Settings) (c : Char) (cs : List Char) (h : s.isNumberStart c = true) :
    (read s (c :: cs)).written ≠ [] := by
  by_cases hs : (s.isNegativeSign c && c != '.') = true
  · simp [read, written, lexeme, signOf, hs]
  · by_cases hd : c.isDigit = true
    · simp [read, written, lexeme, signOf, hs, hd]
    · have hp : c = '.' := by
        simp [Settings.isNumberStart, hd] at h
        simpa [h] using hs
      subst hp
      simp [read, written, lexeme, signOf, fractionOf, fractionText, Char.isDigit]

end Numeral

end LexicalRules
