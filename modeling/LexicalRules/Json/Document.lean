import LexicalRules.Json.Outline
import LexicalRules.Json.Strings

/-! # From JSON text to outlines

`Outline.value` reads one value at the head of a text. Its second result is the text behind the value,
or nothing if the text breaks off within it. The readers for values, elements and members call each
other to a given depth; `Outline.value_eq_of_depth_le` says that beyond `Outline.depth` of a text the
depth does not matter, because what is left behind a value is shorter than what was there. A `Document`
is a value with nothing but blanks behind it.
-/

namespace LexicalRules.Json
set_option autoImplicit false

/-! ## Blanks, literals, numbers and strings -/

def isJsonBlank (c : Char) : Bool :=
  c == ' ' || c == '\n' || c == '\t' || c == '\r'

def skipBlanks (s : List Char) : List Char :=
  s.dropWhile isJsonBlank

theorem skipBlanks_length_le (s : List Char) : (skipBlanks s).length ≤ s.length :=
  (List.dropWhile_suffix _).length_le

theorem length_lt_of_skipBlanks {s r : List Char} {c : Char} (h : skipBlanks s = c :: r) :
    r.length < s.length := by
  have hle := skipBlanks_length_le s
  rw [h, List.length_cons] at hle
  omega

/-- The text behind the letters `letters` at its head. -/
def afterLetters : (letters s : List Char) → Except Fault (List Char)
  | [], s => .ok s
  | _ :: _, [] => .error .truncated
  | l :: ls, c :: s => if c = l then afterLetters ls s else .error .malformed

theorem afterLetters_length_le (letters s r : List Char) (h : afterLetters letters s = .ok r) :
    r.length ≤ s.length := by
  fun_induction afterLetters letters s with
  | case1 =>
    cases h
    exact Nat.le_refl _
  | case2 => cases h
  | case3 ls c s ih =>
    have hr := ih h
    simp only [List.length_cons]
    omega
  | case4 => cases h

/-- The break of a number that lacks a digit where the text `s` stands. -/
def digitBreak (s : List Char) : Break where
  read := if s.isEmpty then .truncated else .malformed
  skipped := .malformed

/-- The digits at the head of a text, of which there must be one, and what is behind them. -/
def someDigits (s : List Char) : Except Break (List Char × List Char) :=
  match s.takeWhile Char.isDigit with
  | [] => .error (digitBreak s)
  | d :: ds => .ok (d :: ds, s.dropWhile Char.isDigit)

/-- The digits before the point: a zero stands alone. -/
def wholeDigits (s : List Char) : Except Break (List Char × List Char) :=
  match someDigits s with
  | .error b => .error b
  | .ok (ds, r) =>
    if ds.head? = some '0' ∧ ds.length ≠ 1 then .error (.same .malformed) else .ok (ds, r)

/-- The digits behind the point, if a point stands at the head of a text. -/
def fractionDigits : List Char → Except Break (Option (List Char) × List Char)
  | '.' :: s =>
    match someDigits s with
    | .error b => .error b
    | .ok (ds, r) => .ok (some ds, r)
  | s => .ok (none, s)

def afterSign : List Char → List Char
  | '+' :: s => s
  | '-' :: s => s
  | s => s

/-- The sign and the digits of an exponent, if the letter of one stands at the head of a text. -/
def exponentDigits : List Char → Except Break (Option (Bool × List Char) × List Char)
  | [] => .ok (none, [])
  | c :: s =>
    if c = 'e' ∨ c = 'E' then
      match someDigits (afterSign s) with
      | .error b => .error b
      | .ok (ds, r) => .ok (some (s.head? == some '-', ds), r)
    else .ok (none, c :: s)

/-- The number at the head of a text, and the text behind it. -/
def figure (s : List Char) : Except Break (Figure × List Char) :=
  let negative := s.head? == some '-'
  match wholeDigits (if negative then s.tail else s) with
  | .error b => .error b
  | .ok (whole, behindWhole) =>
    match fractionDigits behindWhole with
    | .error b => .error b
    | .ok (fraction, behindFraction) =>
      match exponentDigits behindFraction with
      | .error b => .error b
      | .ok (exponent, rest) => .ok (⟨negative, whole, fraction, exponent⟩, rest)

theorem someDigits_rest_length {s ds r : List Char} (h : someDigits s = .ok (ds, r)) :
    r.length < s.length := by
  unfold someDigits at h
  split at h
  · cases h
  · rename_i d ds' hd
    cases h
    have hs := congrArg List.length (List.takeWhile_append_dropWhile (p := Char.isDigit) (l := s))
    rw [hd, List.length_append, List.length_cons] at hs
    omega

theorem wholeDigits_rest_length {s ds r : List Char} (h : wholeDigits s = .ok (ds, r)) :
    r.length < s.length := by
  unfold wholeDigits at h
  split at h
  · cases h
  · rename_i hd
    split at h
    · cases h
    · cases h
      exact someDigits_rest_length hd

theorem fractionDigits_rest_length {s r : List Char} {x : Option (List Char)}
    (h : fractionDigits s = .ok (x, r)) : r.length ≤ s.length := by
  unfold fractionDigits at h
  split at h
  · split at h
    · cases h
    · rename_i hd
      cases h
      exact Nat.le_of_lt (Nat.lt_succ_of_lt (someDigits_rest_length hd))
  · cases h
    exact Nat.le_refl _

theorem afterSign_length_le (s : List Char) : (afterSign s).length ≤ s.length := by
  unfold afterSign
  split <;> simp

theorem exponentDigits_rest_length {s r : List Char} {x : Option (Bool × List Char)}
    (h : exponentDigits s = .ok (x, r)) : r.length ≤ s.length := by
  unfold exponentDigits at h
  split at h
  · cases h
    exact Nat.le_refl _
  · rename_i c s'
    split at h
    · split at h
      · cases h
      · rename_i hd
        cases h
        have h1 := someDigits_rest_length hd
        have h2 := afterSign_length_le s'
        simp only [List.length_cons]
        omega
    · cases h
      exact Nat.le_refl _

theorem figure_rest_length {s r : List Char} {f : Figure} (h : figure s = .ok (f, r)) :
    r.length < s.length := by
  unfold figure at h
  dsimp only at h
  split at h
  · cases h
  · rename_i whole behindWhole hw
    split at h
    · cases h
    · rename_i fraction behindFraction hf
      split at h
      · cases h
      · rename_i exponent rest he
        cases h
        have h1 := wholeDigits_rest_length hw
        have h2 := fractionDigits_rest_length hf
        have h3 := exponentDigits_rest_length he
        have h4 : (if (s.head? == some '-') = true then s.tail else s).length ≤ s.length := by
          split <;> simp
        omega

/-! ## Values -/

/-- The literal whose letters behind the first are `letters`, which stand at the head of `s`. -/
def literalAt (v : Outline) (letters s : List Char) : Outline × Option (List Char) :=
  match afterLetters letters s with
  | .ok r => (v, some r)
  | .error f => (.broken (.same f), none)

/-- The string behind whose opening quote `s` stands. -/
def stringAt (s : List Char) : Outline × Option (List Char) :=
  match codeUnits s with
  | (us, .ok r) => (.string ((joinUnits us).map String.ofList), some r)
  | (us, .error f) => (.broken (stringBreak us f), none)

def numberAt (s : List Char) : Outline × Option (List Char) :=
  match figure s with
  | .ok (f, r) => (.number f, some r)
  | .error b => (.broken b, none)

/-- The name of a member at the head of `s`, behind blanks, and the text behind it. -/
def keyAt (s : List Char) : Except Break (Option String × List Char) :=
  match skipBlanks s with
  | [] => .error (.same .truncated)
  | c :: r =>
    if c = '"' then
      match codeUnits r with
      | (us, .ok r') => .ok ((joinUnits us).map String.ofList, r')
      | (us, .error f) => .error (stringBreak us f)
    else .error (.same .malformed)

mutual
def Outline.value : Nat → List Char → Outline × Option (List Char)
  | 0, _ => (.broken (.same .truncated), none)
  | n + 1, s =>
    match skipBlanks s with
    | [] => (.broken (.same .truncated), none)
    | c :: r =>
      if c = 'n' then literalAt .null ['u', 'l', 'l'] r
      else if c = 't' then literalAt (.bool true) ['r', 'u', 'e'] r
      else if c = 'f' then literalAt (.bool false) ['a', 'l', 's', 'e'] r
      else if c = '"' then stringAt r
      else if c = '-' ∨ c.isDigit then numberAt (c :: r)
      else if c = '[' then
        match skipBlanks r with
        | [] => (.array [] (some .truncated), none)
        | d :: r' =>
          if d = ']' then (.array [] none, some r')
          else
            let x := Outline.items n r
            (.array x.1 x.2.1, x.2.2)
      else if c = '{' then
        match skipBlanks r with
        | [] => (.object [] (some (.same .truncated)), none)
        | d :: r' =>
          if d = '}' then (.object [] none, some r')
          else
            let x := Outline.members n r
            (.object x.1 x.2.1, x.2.2)
      else (.broken (.same .malformed), none)

/-- The elements at the head of a text up to their closing bracket. -/
def Outline.items : Nat → List Char → List Outline × Option Fault × Option (List Char)
  | 0, _ => ([], some .truncated, none)
  | n + 1, s =>
    match Outline.value n s with
    | (v, none) => ([v], none, none)
    | (v, some r) =>
      match skipBlanks r with
      | [] => ([v], some .truncated, none)
      | c :: r' =>
        if c = ',' then
          let x := Outline.items n r'
          (v :: x.1, x.2)
        else if c = ']' then ([v], none, some r')
        else ([v], some .malformed, none)

/-- The members at the head of a text up to their closing brace. -/
def Outline.members :
    Nat → List Char → List (Option String × Outline) × Option Break × Option (List Char)
  | 0, _ => ([], some (.same .truncated), none)
  | n + 1, s =>
    match keyAt s with
    | .error b => ([], some b, none)
    | .ok (key, behindKey) =>
      match skipBlanks behindKey with
      | [] => ([(key, .broken (.same .truncated))], none, none)
      | d :: behindColon =>
        if d = ':' then
          match Outline.value n behindColon with
          | (v, none) => ([(key, v)], none, none)
          | (v, some r) =>
            match skipBlanks r with
            | [] => ([(key, v)], some (.same .truncated), none)
            | c :: r' =>
              if c = ',' then
                let x := Outline.members n r'
                ((key, v) :: x.1, x.2)
              else if c = '}' then ([(key, v)], none, some r')
              else ([(key, v)], some (.same .malformed), none)
        else ([(key, .broken (.same .malformed))], none, none)
end

/-! ## What is left is shorter -/

theorem literalAt_rest_length {v v' : Outline} {letters s r : List Char}
    (h : literalAt v letters s = (v', some r)) : r.length ≤ s.length := by
  unfold literalAt at h
  split at h
  · rename_i r' hr
    cases h
    exact afterLetters_length_le letters s _ hr
  · cases h

theorem stringAt_rest_length {v : Outline} {s r : List Char} (h : stringAt s = (v, some r)) :
    r.length < s.length := by
  unfold stringAt at h
  split at h
  · rename_i us r' hr
    cases h
    exact codeUnits_rest_length s _ (by rw [hr])
  · cases h

theorem numberAt_rest_length {v : Outline} {s r : List Char} (h : numberAt s = (v, some r)) :
    r.length < s.length := by
  unfold numberAt at h
  split at h
  · rename_i f r' hr
    cases h
    exact figure_rest_length hr
  · cases h

theorem keyAt_rest_length {k : Option String} {s r : List Char} (h : keyAt s = .ok (k, r)) :
    r.length < s.length := by
  unfold keyAt at h
  split at h
  · cases h
  · rename_i c r' hs
    split at h
    · split at h
      · rename_i us r'' hr
        cases h
        exact Nat.lt_trans (codeUnits_rest_length r' _ (by rw [hr])) (length_lt_of_skipBlanks hs)
      · cases h
    · cases h

namespace Outline

/-- What is left of `s` in a result, if anything is, is shorter than `s`. -/
def Shortens {α : Type} (s : List Char) (rest : α → Option (List Char)) (x : α) : Prop :=
  ∀ r, rest x = some r → r.length < s.length

theorem value_shortens_succ (n : Nat) (s : List Char)
    (hi : ∀ r, Shortens r (fun x => x.2.2) (items n r))
    (hm : ∀ r, Shortens r (fun x => x.2.2) (members n r)) :
    Shortens s Prod.snd (value (n + 1) s) := by
  intro r h
  unfold value at h
  split at h
  · cases h
  · rename_i c t hs
    have ht := length_lt_of_skipBlanks hs
    split at h
    · exact Nat.lt_of_le_of_lt (literalAt_rest_length (Prod.ext rfl h)) ht
    split at h
    · exact Nat.lt_of_le_of_lt (literalAt_rest_length (Prod.ext rfl h)) ht
    split at h
    · exact Nat.lt_of_le_of_lt (literalAt_rest_length (Prod.ext rfl h)) ht
    split at h
    · exact Nat.lt_trans (stringAt_rest_length (Prod.ext rfl h)) ht
    split at h
    · have hc := numberAt_rest_length (Prod.ext rfl h)
      have hle := skipBlanks_length_le s
      rw [hs] at hle
      omega
    split at h
    · split at h
      · cases h
      · rename_i d t' ht'
        have htt := length_lt_of_skipBlanks ht'
        split at h
        · cases h
          omega
        · have hl := hi t r h
          omega
    split at h
    · split at h
      · cases h
      · rename_i d t' ht'
        have htt := length_lt_of_skipBlanks ht'
        split at h
        · cases h
          omega
        · have hl := hm t r h
          omega
    · cases h

theorem items_shortens_succ (n : Nat) (s : List Char)
    (hv : ∀ r, Shortens r Prod.snd (value n r))
    (hi : ∀ r, Shortens r (fun x => x.2.2) (items n r)) :
    Shortens s (fun x => x.2.2) (items (n + 1) s) := by
  intro r h
  unfold items at h
  split at h
  · cases h
  · rename_i v t hvt
    have ht := hv s t (by rw [hvt])
    split at h
    · cases h
    · rename_i c t' hs
      have htt := length_lt_of_skipBlanks hs
      split at h
      · have hl := hi t' r h
        omega
      · split at h
        · cases h
          omega
        · cases h

theorem members_shortens_succ (n : Nat) (s : List Char)
    (hv : ∀ r, Shortens r Prod.snd (value n r))
    (hm : ∀ r, Shortens r (fun x => x.2.2) (members n r)) :
    Shortens s (fun x => x.2.2) (members (n + 1) s) := by
  intro r h
  unfold members at h
  split at h
  · cases h
  · rename_i key t hk
    have ht := keyAt_rest_length hk
    split at h
    · cases h
    · rename_i d u hs
      have hu := length_lt_of_skipBlanks hs
      split at h
      · split at h
        · cases h
        · rename_i v w hvw
          have hw := hv u w (by rw [hvw])
          split at h
          · cases h
          · rename_i c x hx
            have hxw := length_lt_of_skipBlanks hx
            split at h
            · have hl := hm x r h
              omega
            · split at h
              · cases h
                omega
              · cases h
      · cases h

theorem shortens (n : Nat) :
    (∀ s, Shortens s Prod.snd (value n s)) ∧ (∀ s, Shortens s (fun x => x.2.2) (items n s)) ∧
      (∀ s, Shortens s (fun x => x.2.2) (members n s)) := by
  induction n with
  | zero =>
    refine ⟨fun s r h => ?_, fun s r h => ?_, fun s r h => ?_⟩
    · rw [value] at h
      cases h
    · rw [items] at h
      cases h
    · rw [members] at h
      cases h
  | succ n ih =>
    obtain ⟨hv, hi, hm⟩ := ih
    exact ⟨fun s => value_shortens_succ n s hi hm, fun s => items_shortens_succ n s hv hi,
      fun s => members_shortens_succ n s hv hm⟩

theorem value_rest_length {n : Nat} {s r : List Char} {v : Outline}
    (h : value n s = (v, some r)) : r.length < s.length :=
  (shortens n).1 s r (by rw [h])

/-! ## Depth -/

/-- A depth that no text exceeds: every two calls take a character. -/
def depth (s : List Char) : Nat :=
  2 * s.length + 1

/-- One step more of depth changes nothing once the depth is enough. -/
theorem step_eq (n : Nat) :
    (∀ s, 2 * s.length + 1 ≤ n → value (n + 1) s = value n s) ∧
      (∀ s, 2 * s.length + 2 ≤ n → items (n + 1) s = items n s) ∧
      (∀ s, 2 * s.length + 2 ≤ n → members (n + 1) s = members n s) := by
  induction n with
  | zero => exact ⟨fun s h => by omega, fun s h => by omega, fun s h => by omega⟩
  | succ n ih =>
    obtain ⟨hv, hi, hm⟩ := ih
    refine ⟨fun s h => ?_, fun s h => ?_, fun s h => ?_⟩
    · rw [value, value]
      cases hs : skipBlanks s with
      | nil => rfl
      | cons c r =>
        have hr := length_lt_of_skipBlanks hs
        dsimp only
        rw [hi r (by omega), hm r (by omega)]
    · rw [items, items, hv s (by omega)]
      cases hvs : value n s with
      | mk v rest => cases rest with
        | none => rfl
        | some r =>
          have hr := value_rest_length hvs
          dsimp only
          cases hs : skipBlanks r with
          | nil => rfl
          | cons c r' =>
            have hr' := length_lt_of_skipBlanks hs
            dsimp only
            rw [hi r' (by omega)]
    · rw [members, members]
      cases hk : keyAt s with
      | error b => rfl
      | ok p =>
        obtain ⟨key, t⟩ := p
        have ht := keyAt_rest_length hk
        dsimp only
        cases hs : skipBlanks t with
        | nil => rfl
        | cons d u =>
          have hu := length_lt_of_skipBlanks hs
          dsimp only
          rw [hv u (by omega)]
          cases hvu : value n u with
          | mk v rest => cases rest with
            | none => rfl
            | some w =>
              have hw := value_rest_length hvu
              dsimp only
              cases hx : skipBlanks w with
              | nil => rfl
              | cons c x =>
                have hxw := length_lt_of_skipBlanks hx
                dsimp only
                rw [hm x (by omega)]

/-- Beyond the depth of a text, the depth does not matter. -/
theorem value_eq_of_depth_le {n : Nat} {s : List Char} (h : depth s ≤ n) :
    value n s = value (depth s) s := by
  induction n with
  | zero =>
    unfold depth at h
    omega
  | succ n ih =>
    by_cases hn : depth s ≤ n
    · rw [(step_eq n).1 s hn, ih hn]
    · have he : depth s = n + 1 := by omega
      rw [he]

end Outline

/-! ## Documents -/

/-- A text that should hold one value: its outline, and the fault behind it if there is one. -/
structure Document where
  value : Outline
  ending : Option Fault

namespace Document

def ofText (s : String) : Document :=
  match Outline.value (Outline.depth s.toList) s.toList with
  | (v, none) => ⟨v, none⟩
  | (v, some r) => ⟨v, if (skipBlanks r).isEmpty then none else some .malformed⟩

/-- Reads a text whose value `reading` understands. -/
def read {α : Type} (reading : Outline → Except Fault α) (s : String) : Except Fault α := do
  let document := ofText s
  let x ← reading document.value
  match document.ending with
  | some f => throw f
  | none => return x

end Document

end LexicalRules.Json
