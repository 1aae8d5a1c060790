import LexicalRules.Json.Document
import Mathlib.Data.List.Basic
import Mathlib.Tactic.SplitIfs

/-! # Reading what was written

The text that `Json.text` writes for a value is read as the outline of that value. Strings go through
their escapes (`codeUnits_text`), numbers through their digits (`figure_numberText`), and values by one
induction over all three readers (`value_text`), with any text behind them that a number cannot run on
into. The main statement is `Document.ofText_render`.
-/

namespace LexicalRules.Json
set_option autoImplicit false

/-! ## Strings -/

/-- The three ways to write a character: a sign for it, its number, or the character itself. -/
theorem stringChar_cases (c : Char) :
    (∃ e, shortEscape? e = some c ∧ stringChar c = ['\\', e]) ∨
    (c.toNat < 0x20 ∧ stringChar c = '\\' :: 'u' :: fourDigits c.toNat) ∨
    (c ≠ '"' ∧ c ≠ '\\' ∧ 0x20 ≤ c.toNat ∧ stringChar c = [c]) := by
  unfold stringChar
  split_ifs with hquote hbackslash hb hf hn hr ht hcontrol
  · exact .inl ⟨'"', by rw [hquote]; rfl, rfl⟩
  · exact .inl ⟨'\\', by rw [hbackslash]; rfl, rfl⟩
  · exact .inl ⟨'b', by rw [hb]; rfl, rfl⟩
  · exact .inl ⟨'f', by rw [hf]; rfl, rfl⟩
  · exact .inl ⟨'n', by rw [hn]; rfl, rfl⟩
  · exact .inl ⟨'r', by rw [hr]; rfl, rfl⟩
  · exact .inl ⟨'t', by rw [ht]; rfl, rfl⟩
  · exact .inr (.inl ⟨hcontrol, rfl⟩)
  · exact .inr (.inr ⟨hquote, hbackslash, by omega, rfl⟩)

theorem codeUnits_shortEscape (e c : Char) (r : List Char) (h : shortEscape? e = some c) :
    codeUnits ('\\' :: e :: r) = withUnit (.char c) (codeUnits r) := by
  have hu : e ≠ 'u' := by
    rintro rfl
    cases h
  rw [codeUnits]
  · rw [h]
  all_goals simp_all

theorem hexUnit?_of_lt : ∀ n < 0x20, fourDigits n =
      ['0', '0', Nat.digitChar (n / 16 % 16), Nat.digitChar (n % 16)] ∧
    hexUnit? '0' '0' (Nat.digitChar (n / 16 % 16)) (Nat.digitChar (n % 16)) = some n := by
  decide

theorem codeUnits_fourDigits (n : Nat) (r : List Char) (h : n < 0x20) :
    codeUnits ('\\' :: 'u' :: fourDigits n ++ r) = withUnit (.escaped n) (codeUnits r) := by
  obtain ⟨hd, hu⟩ := hexUnit?_of_lt n h
  simp [codeUnits, hd, hu]

theorem codeUnits_plain (c : Char) (r : List Char) (hq : c ≠ '"') (hb : c ≠ '\\')
    (hc : 0x20 ≤ c.toNat) : codeUnits (c :: r) = withUnit (.char c) (codeUnits r) := by
  have hlt : ¬c.toNat < 0x20 := Nat.not_lt.mpr hc
  rw [codeUnits]
  · rw [if_neg hlt]
  all_goals simp_all

theorem joinUnits_char (c : Char) (us : List CodeUnit) :
    joinUnits (.char c :: us) = (joinUnits us).map (c :: ·) := by
  rw [joinUnits]

theorem joinUnits_escaped (n : Nat) (us : List CodeUnit) (h : n < 0x20) :
    joinUnits (.escaped n :: us) = (joinUnits us).map (Char.ofNat n :: ·) := by
  have hl : isLeading n = false := by simp [isLeading]; omega
  have ht : isTrailing n = false := by simp [isTrailing]; omega
  cases us with
  | nil => simp [joinUnits, hl, ht]
  | cons u us =>
    cases u with
    | char c => simp [joinUnits, hl, ht]
    | escaped m => simp [joinUnits, hl, ht]

/-- Each character is written as one unit, which stands for that character. -/
theorem codeUnits_stringChar (c : Char) (r : List Char) :
    ∃ u, codeUnits (stringChar c ++ r) = withUnit u (codeUnits r) ∧
      ∀ us, joinUnits (u :: us) = (joinUnits us).map (c :: ·) := by
  obtain ⟨e, he, hs⟩ | ⟨hc, hs⟩ | ⟨hq, hb, hc, hs⟩ := stringChar_cases c
  · rw [hs]
    exact ⟨.char c, codeUnits_shortEscape e c r he, joinUnits_char c⟩
  · rw [hs]
    refine ⟨.escaped c.toNat, codeUnits_fourDigits c.toNat r hc, fun us => ?_⟩
    rw [joinUnits_escaped c.toNat us hc, Char.ofNat_toNat]
  · rw [hs]
    exact ⟨.char c, codeUnits_plain c r hq hb hc, joinUnits_char c⟩

theorem codeUnits_text (s r : List Char) :
    ∃ us, codeUnits (s.flatMap stringChar ++ '"' :: r) = (us, .ok r) ∧ joinUnits us = some s := by
  induction s with
  | nil => exact ⟨[], by simp [codeUnits], rfl⟩
  | cons c s ih =>
    obtain ⟨us, hus, hj⟩ := ih
    obtain ⟨u, hu, hc⟩ := codeUnits_stringChar c (s.flatMap stringChar ++ '"' :: r)
    refine ⟨u :: us, ?_, ?_⟩
    · rw [List.flatMap_cons, List.append_assoc, hu, hus]
      rfl
    · rw [hc, hj]
      rfl

theorem stringAt_text (s : String) (r : List Char) :
    stringAt (s.toList.flatMap stringChar ++ '"' :: r) = (.string (some s), some r) := by
  obtain ⟨us, hus, hj⟩ := codeUnits_text s.toList r
  rw [stringAt, hus]
  simp [hj]

theorem keyAt_stringText (k : String) (r : List Char) :
    keyAt (stringText k ++ r) = .ok (some k, r) := by
  obtain ⟨us, hus, hj⟩ := codeUnits_text k.toList r
  simp [keyAt, stringText, skipBlanks, isJsonBlank, hus, hj]

/-! ## Numbers -/

/-- Whether a number that stands in front of `r` ends there. -/
def EndsNumber (r : List Char) : Prop :=
  ∀ c ∈ r.head?, c.isDigit = false ∧ c ≠ '.' ∧ c ≠ 'e' ∧ c ≠ 'E'

theorem digits_head (n : Nat) (h : (digits n).head? = some '0') : digits n = ['0'] := by
  unfold digits at *
  induction n using Nat.strongRecOn with
  | _ n ih =>
    by_cases hn : n < 10
    · rw [Nat.toDigits_of_lt_base hn] at h ⊢
      rw [List.head?_singleton, Option.some_inj] at h
      rw [h]
    · -- The first digit is that of a tenth of the number, which is no zero.
      have hdiv := Nat.toDigits_of_base_le (b := 10) (by decide) (Nat.not_lt.mp hn)
      rw [hdiv, List.head?_append_of_ne_nil _ Nat.toDigits_ne_nil] at h
      have hzero := ih (n / 10) (by omega) h
      have hval := Nat.ofDigitChars_toDigits (b := 10) (n := n / 10) (by decide) (by decide)
      rw [hzero] at hval
      have hten : n / 10 = 0 := hval.symm
      omega

theorem someDigits_append (ds r : List Char) (hne : ds ≠ []) (hd : ∀ c ∈ ds, c.isDigit = true)
    (hr : EndsNumber r) : someDigits (ds ++ r) = .ok (ds, r) := by
  have htake : r.takeWhile Char.isDigit = [] := by
    cases r with
    | nil => rfl
    | cons c r => simp [(hr c rfl).1]
  have hdrop : r.dropWhile Char.isDigit = r := by
    cases r with
    | nil => rfl
    | cons c r => simp [(hr c rfl).1]
  obtain ⟨d, ds, rfl⟩ := List.exists_cons_of_ne_nil hne
  rw [someDigits, List.takeWhile_append_of_pos hd, List.dropWhile_append_of_pos hd, htake, hdrop,
    List.append_nil]

theorem isDigit_of_mem_digits (n : Nat) : ∀ c ∈ digits n, c.isDigit = true :=
  fun _ hc => Nat.isDigit_of_mem_toDigits (by decide) (by decide) hc

theorem wholeDigits_digits (n : Nat) (r : List Char) (hr : EndsNumber r) :
    wholeDigits (digits n ++ r) = .ok (digits n, r) := by
  rw [wholeDigits, someDigits_append (digits n) r Nat.toDigits_ne_nil (isDigit_of_mem_digits n) hr]
  have hzero : ¬((digits n).head? = some '0' ∧ (digits n).length ≠ 1) := by
    rintro ⟨hh, hl⟩
    rw [digits_head n hh] at hl
    exact hl rfl
  simp only [if_neg hzero]

theorem fractionDigits_of_endsNumber (r : List Char) (hr : EndsNumber r) :
    fractionDigits r = .ok (none, r) := by
  rw [fractionDigits.eq_def]
  split
  · exact absurd rfl (hr '.' rfl).2.1
  · rfl

theorem exponentDigits_of_endsNumber (r : List Char) (hr : EndsNumber r) :
    exponentDigits r = .ok (none, r) := by
  cases r with
  | nil => rfl
  | cons c r =>
    obtain ⟨-, -, he, hE⟩ := hr c rfl
    rw [exponentDigits, if_neg (by simp [he, hE])]

/-- How the digits of a natural number begin. -/
theorem digits_eq_cons (n : Nat) : ∃ d ds, digits n = d :: ds ∧ d.isDigit = true := by
  obtain ⟨d, ds, hd⟩ := List.exists_cons_of_ne_nil (Nat.toDigits_ne_nil (n := n) (b := 10))
  refine ⟨d, ds, hd, isDigit_of_mem_digits n d ?_⟩
  rw [digits, hd]
  exact List.mem_cons_self

theorem figure_numberText (n : Int) (r : List Char) (hr : EndsNumber r) :
    figure (numberText n ++ r) = .ok (⟨n < 0, digits n.natAbs, none, none⟩, r) := by
  have hwhole := wholeDigits_digits n.natAbs r hr
  have hfraction := fractionDigits_of_endsNumber r hr
  have hexponent := exponentDigits_of_endsNumber r hr
  unfold figure
  by_cases hn : n < 0
  · simp [numberText, hn, hwhole, hfraction, hexponent]
  · obtain ⟨d, ds, hd, hdigit⟩ := digits_eq_cons n.natAbs
    have hminus : d ≠ '-' := by
      rintro rfl
      cases hdigit
    have hhead : ((digits n.natAbs ++ r).head? == some '-') = false := by
      simp [hd, hminus]
    simp only [numberText, hn, if_false, hhead, Bool.false_eq_true, hwhole, hfraction, hexponent,
      decide_false]

theorem numberAt_numberText (n : Int) (r : List Char) (hr : EndsNumber r) :
    numberAt (numberText n ++ r) = (Outline.ofJson (.number n), some r) := by
  rw [numberAt, figure_numberText n r hr]
  rfl

/-- A number begins with a minus sign or a digit. -/
theorem numberText_eq_cons (n : Int) :
    ∃ c s, numberText n = c :: s ∧ (c = '-' ∨ c.isDigit = true) := by
  unfold numberText
  split
  · exact ⟨'-', _, rfl, .inl rfl⟩
  · obtain ⟨d, ds, hd, hdigit⟩ := digits_eq_cons n.natAbs
    exact ⟨d, ds, hd, .inr hdigit⟩

/-! ## Values -/

theorem skipBlanks_cons (c : Char) (s : List Char) (h : isJsonBlank c = false) :
    skipBlanks (c :: s) = c :: s := by
  simp [skipBlanks, h]

/-- A value begins with no blank and no closing bracket. -/
theorem text_eq_cons (v : Json) :
    ∃ c s, v.text = c :: s ∧ isJsonBlank c = false ∧ c ≠ ']' := by
  cases v with
  | null => exact ⟨'n', _, by rw [text], by decide, by decide⟩
  | bool b => cases b with
    | true => exact ⟨'t', _, by rw [text], by decide, by decide⟩
    | false => exact ⟨'f', _, by rw [text], by decide, by decide⟩
  | number n =>
    obtain ⟨c, s, hs, hc⟩ := numberText_eq_cons n
    refine ⟨c, s, by rw [text, hs], ?_, ?_⟩
    · rcases hc with rfl | hc
      · decide
      · by_contra hb
        simp only [isJsonBlank, Bool.not_eq_false, Bool.or_eq_true, beq_iff_eq] at hb
        rcases hb with ((rfl | rfl) | rfl) | rfl <;> cases hc
    · rintro rfl
      rcases hc with hc | hc <;> cases hc
  | string s => exact ⟨'"', _, by rw [text, stringText]; rfl, by decide, by decide⟩
  | array items => exact ⟨'[', _, by rw [text]; rfl, by decide, by decide⟩
  | object members => exact ⟨'{', _, by rw [text]; rfl, by decide, by decide⟩

theorem endsNumber_cons (c : Char) (r : List Char) (hd : c.isDigit = false) (hp : c ≠ '.')
    (he : c ≠ 'e') (hE : c ≠ 'E') : EndsNumber (c :: r) := by
  intro d hd'
  rw [List.head?_cons, Option.mem_some] at hd'
  subst hd'
  exact ⟨hd, hp, he, hE⟩

theorem itemsText_cons_cons (v w : Json) (vs : List Json) :
    itemsText (v :: w :: vs) = v.text ++ ',' :: itemsText (w :: vs) := by
  simp [itemsText]

theorem membersText_cons_cons (k : String) (v : Json) (m : String × Json)
    (ms : List (String × Json)) :
    membersText ((k, v) :: m :: ms) =
      stringText k ++ ':' :: (v.text ++ ',' :: membersText (m :: ms)) := by
  simp [membersText]

theorem itemsText_eq_cons (v : Json) (vs : List Json) :
    ∃ c s, itemsText (v :: vs) = c :: s ∧ isJsonBlank c = false ∧ c ≠ ']' := by
  obtain ⟨c, s, hs, hc⟩ := text_eq_cons v
  cases vs with
  | nil => exact ⟨c, s, by rw [itemsText, hs], hc⟩
  | cons w vs => exact ⟨c, _, by rw [itemsText_cons_cons, hs]; rfl, hc⟩

theorem membersText_eq_cons (m : String × Json) (ms : List (String × Json)) :
    ∃ s, membersText (m :: ms) = '"' :: s := by
  obtain ⟨k, v⟩ := m
  cases ms with
  | nil => exact ⟨_, by rw [membersText, stringText]; rfl⟩
  | cons m ms => exact ⟨_, by rw [membersText_cons_cons, stringText]; rfl⟩

namespace Outline

theorem value_numberText (n : Nat) (i : Int) (r : List Char) (hr : EndsNumber r) :
    value (n + 1) (numberText i ++ r) = (ofJson (.number i), some r) := by
  obtain ⟨c, s, hs, hc⟩ := numberText_eq_cons i
  have hblank : isJsonBlank c = false := by
    obtain ⟨d, t, ht, hb, -⟩ := text_eq_cons (.number i)
    rw [text, hs] at ht
    cases ht
    exact hb
  have hne : c ≠ 'n' ∧ c ≠ 't' ∧ c ≠ 'f' ∧ c ≠ '"' := by
    refine ⟨?_, ?_, ?_, ?_⟩ <;> rintro rfl <;> rcases hc with hc | hc <;> cases hc
  have hnumber := numberAt_numberText i r hr
  rw [hs, List.cons_append] at hnumber ⊢
  rw [value, skipBlanks_cons c _ hblank]
  simp only [hne, hc, if_false, if_true, hnumber]

theorem value_itemsText (n : Nat) (v : Json) (vs : List Json) (r : List Char)
    (h : items n (itemsText (v :: vs) ++ ']' :: r) = (ofItems (v :: vs), none, some r)) :
    value (n + 1) (text (.array (v :: vs)) ++ r) = (ofJson (.array (v :: vs)), some r) := by
  obtain ⟨c, s, hs, hblank, hclose⟩ := itemsText_eq_cons v vs
  have ht : text (.array (v :: vs)) ++ r = '[' :: (itemsText (v :: vs) ++ ']' :: r) := by
    simp [text]
  rw [hs, List.cons_append] at h ht
  rw [ht, value, skipBlanks_cons '[' _ (by decide)]
  simp [skipBlanks_cons c _ hblank, hclose, h, ofJson]

theorem value_membersText (n : Nat) (m : String × Json) (ms : List (String × Json))
    (r : List Char)
    (h : members n (membersText (m :: ms) ++ '}' :: r) = (ofMembers (m :: ms), none, some r)) :
    value (n + 1) (text (.object (m :: ms)) ++ r) = (ofJson (.object (m :: ms)), some r) := by
  obtain ⟨s, hs⟩ := membersText_eq_cons m ms
  have ht : text (.object (m :: ms)) ++ r = '{' :: (membersText (m :: ms) ++ '}' :: r) := by
    simp [text]
  rw [hs, List.cons_append] at h ht
  rw [ht, value, skipBlanks_cons '{' _ (by decide)]
  simp [skipBlanks_cons '"' _ (by decide), h, ofJson]

theorem items_cons (n : Nat) (v : Outline) (s r : List Char) (c : Char)
    (hv : value n s = (v, some (c :: r))) (hb : isJsonBlank c = false) :
    items (n + 1) s =
      if c = ',' then (v :: (items n r).1, (items n r).2)
      else if c = ']' then ([v], none, some r)
      else ([v], some .malformed, none) := by
  rw [items, hv]
  simp only [skipBlanks_cons c r hb]

theorem members_cons (n : Nat) (k : String) (v : Outline) (s r : List Char) (c : Char)
    (hv : value n s = (v, some (c :: r))) (hb : isJsonBlank c = false) :
    members (n + 1) (stringText k ++ ':' :: s) =
      if c = ',' then ((some k, v) :: (members n r).1, (members n r).2)
      else if c = '}' then ([(some k, v)], none, some r)
      else ([(some k, v)], some (.same .malformed), none) := by
  rw [members, keyAt_stringText]
  simp only [skipBlanks_cons ':' s (by decide), if_true, hv, skipBlanks_cons c r hb]

theorem endsNumber_comma (r : List Char) : EndsNumber (',' :: r) :=
  endsNumber_cons ',' r rfl (by decide) (by decide) (by decide)

/- The bounds count two calls a character, as `depth` does; brackets and commas pay for the steps from
a value to its parts. -/
mutual
/-- A written value is read back, whatever stands behind it that is no part of a number. -/
theorem value_text : ∀ (v : Json) (n : Nat) (r : List Char), 2 * v.text.length ≤ n →
    EndsNumber r → value n (v.text ++ r) = (ofJson v, some r)
  | v, 0, r, h, _ => by
    obtain ⟨c, s, hs, -⟩ := text_eq_cons v
    rw [hs] at h
    simp at h
  | .null, n + 1, r, _, _ => by
    simp [text, value, skipBlanks, isJsonBlank, literalAt, afterLetters, ofJson]
  | .bool true, n + 1, r, _, _ => by
    simp [text, value, skipBlanks, isJsonBlank, literalAt, afterLetters, ofJson]
  | .bool false, n + 1, r, _, _ => by
    simp [text, value, skipBlanks, isJsonBlank, literalAt, afterLetters, ofJson]
  | .number i, n + 1, r, _, hr => by
    rw [text]
    exact value_numberText n i r hr
  | .string s, n + 1, r, _, _ => by
    simp [text, stringText, value, skipBlanks, isJsonBlank, stringAt_text, ofJson]
  | .array [], n + 1, r, _, _ => by
    simp [text, itemsText, value, skipBlanks, isJsonBlank, ofJson, ofItems]
  | .array (v :: vs), n + 1, r, h, _ => by
    have hlen : (text (.array (v :: vs))).length = (itemsText (v :: vs)).length + 2 := by
      simp [text]
    exact value_itemsText n v vs r (items_text v vs n r (by omega))
  | .object [], n + 1, r, _, _ => by
    simp [text, membersText, value, skipBlanks, isJsonBlank, ofJson, ofMembers]
  | .object (m :: ms), n + 1, r, h, _ => by
    have hlen : (text (.object (m :: ms))).length = (membersText (m :: ms)).length + 2 := by
      simp [text]
    exact value_membersText n m ms r (members_text m ms n r (by omega))

theorem items_text : ∀ (v : Json) (vs : List Json) (n : Nat) (r : List Char),
    2 * (itemsText (v :: vs)).length + 1 ≤ n →
    items n (itemsText (v :: vs) ++ ']' :: r) = (ofItems (v :: vs), none, some r)
  | _, _, 0, _, h => by omega
  | v, [], n + 1, r, h => by
    rw [itemsText] at h ⊢
    have hr := endsNumber_cons ']' r rfl (by decide) (by decide) (by decide)
    have hv := value_text v n (']' :: r) (by omega) hr
    rw [items_cons n _ _ r ']' hv (by decide)]
    simp [ofItems]
  | v, w :: ws, n + 1, r, h => by
    rw [itemsText_cons_cons] at h ⊢
    rw [List.length_append, List.length_cons] at h
    rw [List.append_assoc, List.cons_append]
    have hv := value_text v n _ (by omega) (endsNumber_comma (itemsText (w :: ws) ++ ']' :: r))
    have hvs := items_text w ws n r (by omega)
    rw [items_cons n _ _ _ ',' hv (by decide), hvs]
    simp [ofItems]

theorem members_text : ∀ (m : String × Json) (ms : List (String × Json)) (n : Nat)
    (r : List Char), 2 * (membersText (m :: ms)).length + 1 ≤ n →
    members n (membersText (m :: ms) ++ '}' :: r) = (ofMembers (m :: ms), none, some r)
  | _, _, 0, _, h => by omega
  | (k, v), [], n + 1, r, h => by
    rw [membersText] at h ⊢
    rw [List.length_append, List.length_cons] at h
    rw [List.append_assoc, List.cons_append]
    have hr := endsNumber_cons '}' r rfl (by decide) (by decide) (by decide)
    have hv := value_text v n ('}' :: r) (by omega) hr
    rw [members_cons n k _ _ r '}' hv (by decide)]
    simp [ofMembers]
  | (k, v), m :: ms, n + 1, r, h => by
    rw [membersText_cons_cons] at h ⊢
    rw [List.length_append, List.length_cons, List.length_append, List.length_cons] at h
    rw [List.append_assoc, List.cons_append, List.append_assoc, List.cons_append]
    have hv := value_text v n _ (by omega)
      (endsNumber_comma (membersText (m :: ms) ++ '}' :: r))
    have hms := members_text m ms n r (by omega)
    rw [members_cons n k _ _ _ ',' hv (by decide), hms]
    simp [ofMembers]
end

end Outline

namespace Document

/-- **What was written is read back.** The text of a value holds that value and nothing else. -/
theorem ofText_render (v : Json) : ofText v.render = ⟨Outline.ofJson v, none⟩ := by
  have hv := Outline.value_text v (Outline.depth v.text) []
    (by unfold Outline.depth; omega) (by intro c hc; cases hc)
  rw [List.append_nil] at hv
  simp [ofText, render, hv, skipBlanks]

theorem read_of_ofText {α : Type} (reading : Outline → Except Fault α) (s : String) (v : Outline)
    (h : ofText s = ⟨v, none⟩) : read reading s = reading v := by
  rw [read, h]
  cases reading v with
  | error f => rfl
  | ok x => rfl

/-- What is understood of a text is what is understood of its value. -/
theorem reading_of_read {α : Type} {reading : Outline → Except Fault α} {s : String} {x : α}
    (h : read reading s = .ok x) : reading (ofText s).value = .ok x := by
  unfold read at h
  cases hv : reading (ofText s).value with
  | error f => simp [hv, bind, Except.bind] at h
  | ok y =>
    cases he : (ofText s).ending with
    | none => simpa [hv, he, bind, Except.bind, pure, Except.pure] using h
    | some f =>
      simp only [hv, he, bind, Except.bind] at h
      cases h

end Document

end LexicalRules.Json
