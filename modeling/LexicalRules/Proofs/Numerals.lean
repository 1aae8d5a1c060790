import LexicalRules.Proofs.Lexemes

/-! # Numbers and their grammar

`Numeral.Allowed` is the grammar of numbers: what a sign, the digits on both sides of a point and a
suffix may be. Where a number starts, the scan takes the longest text that is one, and it makes no
difference how that text is taken apart: `Scan.step_longestNumber`. The grammar asks for no digit, so that a
sign alone is a number too; `numberToken_hasDigit_iff` says which tokens these are.
-/

namespace LexicalRules
set_option autoImplicit false

namespace Numeral

/-! ## The grammar -/

/-- What the settings allow as a number. A point is never a sign. -/
structure Allowed (s : Settings) (n : Numeral) : Prop where
  sign : ∀ c ∈ n.sign, s.allowNegatives = true ∧ c = s.negativeChar ∧ c ≠ '.'
  whole : ∀ c ∈ n.whole, c.isDigit = true
  fraction : ∀ ds ∈ n.fraction, ∀ c ∈ ds, c.isDigit = true
  suffix : ∀ c ∈ n.suffix, n.fraction.isSome = true ∧ (c = 'f' ∨ c = 'd') ∨
    n.fraction = none ∧ (c = 'u' ∨ c = 'b')

/-- The kind of a number that is written as `lexeme` with this suffix. -/
def kindOf (lexeme : List Char) (suffix : Option Char) : TokenKind :=
  match suffix with
  | some 'f' => .float
  | some 'u' => .unsignedInteger
  | some 'b' => .byte
  | _ => if '.' ∈ lexeme then .double else .integer

section Grammar
variable {s : Settings} {n : Numeral}

theorem Allowed.point_mem_lexeme (h : n.Allowed s) : '.' ∈ n.lexeme ↔ n.fraction.isSome = true := by
  have hsign : '.' ∉ n.sign.toList := by
    intro hp
    exact (h.sign '.' (Option.mem_toList.mp hp)).2.2 rfl
  have hwhole : '.' ∉ n.whole := by
    intro hp
    exact absurd (h.whole '.' hp) (by decide)
  cases hf : n.fraction with
  | none => simp [lexeme, fractionText, hf, hsign, hwhole]
  | some ds => simp [lexeme, fractionText, hf]

theorem Allowed.kind_eq (h : n.Allowed s) : n.kind = kindOf n.lexeme n.suffix := by
  have hpoint := h.point_mem_lexeme
  cases hx : n.suffix with
  | none => simp [kind, kindOf, hx, hpoint]
  | some x =>
    rcases h.suffix x hx with ⟨hf, rfl | rfl⟩ | ⟨hf, rfl | rfl⟩
    all_goals simp [kind, kindOf, hx, hf, hpoint]

end Grammar

/-! ## What is read is allowed -/

theorem sign_of_signOf (s : Settings) (text : List Char) (c : Char) (h : signOf s text = some c) :
    ∃ cs, text = c :: cs ∧ s.isNegativeSign c = true ∧ c ≠ '.' := by
  unfold signOf at h
  split at h
  · cases h
  · split at h
    · rename_i hc
      cases h
      rw [Bool.and_eq_true, bne_iff_ne] at hc
      exact ⟨_, rfl, hc⟩
    · cases h

theorem isDigit_of_fractionOf (text ds : List Char) (h : fractionOf text = some ds) :
    ∀ c ∈ ds, c.isDigit = true := by
  unfold fractionOf at h
  split at h
  · cases h
    exact fun c hc => List.mem_takeWhile_imp hc
  · cases h

theorem letter_of_suffixOf (point : Bool) (text : List Char) (c : Char)
    (h : suffixOf point text = some c) :
    point = true ∧ (c = 'f' ∨ c = 'd') ∨ point = false ∧ (c = 'u' ∨ c = 'b') := by
  unfold suffixOf at h
  split at h
  · cases h
  · split at h
    all_goals
      split at h
      · cases h
        simp_all
      · cases h

theorem read_allowed (s : Settings) (text : List Char) : (read s text).Allowed s where
  sign := by
    intro c hc
    obtain ⟨-, -, hn, hp⟩ := sign_of_signOf s text c hc
    rw [Settings.isNegativeSign, Bool.and_eq_true, beq_iff_eq] at hn
    exact ⟨hn.1, hn.2, hp⟩
  whole := fun c hc => List.mem_takeWhile_imp hc
  fraction := fun ds hds => isDigit_of_fractionOf _ ds hds
  suffix := by
    intro c hc
    have hl := letter_of_suffixOf _ _ c hc
    rwa [Option.isSome_eq_false_iff, Option.isNone_iff_eq_none] at hl

/-! ## Without a sign -/

section Unsigned
variable {s : Settings} {n : Numeral}

/-- Digits may go on behind a number, but no other number comes before them. -/
theorem lexeme_isPrefix_unsigned (h : n.Allowed s) (behind : List Char) :
    (n.withSign none).lexeme <+:
      (unsigned ((n.withSign none).lexeme ++ behind)).lexeme := by
  have hwhole := h.whole
  cases hf : n.fraction with
  | none =>
    simp [unsigned, lexeme, withSign, hf, fractionText, List.takeWhile_append_of_pos hwhole]
  | some ds =>
    have hds := h.fraction ds hf
    simp [unsigned, lexeme, withSign, hf, fractionText, List.takeWhile_append_of_pos hwhole,
      List.takeWhile_append_of_pos hds, fractionOf]

/-- A suffix ends a number, whatever stands behind it. -/
theorem unsigned_of_suffix (h : n.Allowed s) {x : Char} (hx : n.suffix = some x)
    (behind : List Char) :
    unsigned ((n.withSign none).written ++ behind) = n.withSign none := by
  have hwhole := h.whole
  rcases h.suffix x hx with ⟨hf, rfl | rfl⟩ | ⟨hf, rfl | rfl⟩
  case inr.inl | inr.inr =>
    simp [unsigned, written, lexeme, withSign, hf, hx, fractionText,
      List.takeWhile_append_of_pos hwhole, fractionOf, suffixOf]
  all_goals
    obtain ⟨ds, hf⟩ := Option.isSome_iff_exists.mp hf
    have hds := h.fraction ds hf
    simp [unsigned, written, lexeme, withSign, hf, hx, fractionText,
      List.takeWhile_append_of_pos hwhole, List.takeWhile_append_of_pos hds, fractionOf, suffixOf]

end Unsigned

/-! ## The longest number -/

section Longest
variable {s : Settings} {m : Numeral}

/-- A number with the sign that is read is part of the number that is read; with a suffix it is all of
it. -/
theorem read_of_sign (h : m.Allowed s) (behind : List Char)
    (hsign : signOf s (m.written ++ behind) = m.sign) :
    m.lexeme <+: (read s (m.written ++ behind)).lexeme ∧
      (m.suffix ≠ none → read s (m.written ++ behind) = m) := by
  have hlexeme : m.lexeme = m.sign.toList ++ (m.withSign none).lexeme := lexeme_withSign m.sign m
  have hdrop : (m.written ++ behind).drop m.sign.toList.length =
      (m.withSign none).written ++ behind := by
    simp [written, lexeme, withSign, List.append_assoc]
  rw [read_eq_withSign, hsign, hdrop]
  constructor
  · have hp := lexeme_isPrefix_unsigned h (m.suffix.toList ++ behind)
    rw [← List.append_assoc] at hp
    rw [hlexeme, lexeme_withSign m.sign]
    exact (List.prefix_append_right_inj _).mpr hp
  · intro hne
    obtain ⟨x, hx⟩ := Option.ne_none_iff_exists'.mp hne
    rw [unsigned_of_suffix h hx behind]
    rfl

/-- Without a sign the first character is a digit, the point, or a suffix that goes with no point. -/
theorem Allowed.head_cases (h : m.Allowed s) (hsign : m.sign = none) {c : Char}
    (hhead : m.written.head? = some c) :
    (∃ w, m.whole = c :: w) ∨ c = '.' ∨ c = 'u' ∨ c = 'b' := by
  cases hw : m.whole with
  | cons d w =>
    obtain rfl : d = c := by simpa [written, lexeme, hsign, hw] using hhead
    exact .inl ⟨w, rfl⟩
  | nil =>
    cases hf : m.fraction with
    | some ds =>
      have hp : '.' = c := by simpa [written, lexeme, fractionText, hsign, hw, hf] using hhead
      exact .inr (.inl hp.symm)
    | none =>
      have hx : m.suffix = some c := by
        simpa [written, lexeme, fractionText, hsign, hw, hf] using hhead
      rcases h.suffix c hx with ⟨hpoint, -⟩ | ⟨-, hc⟩
      · simp [hf] at hpoint
      · exact .inr (.inr hc)

/-- The sign may be a digit. A number that starts with it has the same text with and without a sign. -/
theorem exists_signed (h : m.Allowed s) {c : Char} {cs : List Char} (hc : c ≠ 'u' ∧ c ≠ 'b')
    (hp : m.written <+: c :: cs) (hne : m.written ≠ []) :
    ∃ n : Numeral, n.Allowed s ∧ signOf s (c :: cs) = n.sign ∧ n.lexeme = m.lexeme ∧
      n.suffix = m.suffix := by
  have hhead : m.written.head? = some c := by
    obtain ⟨x, t, hw⟩ := List.exists_cons_of_ne_nil hne
    rw [hw, List.cons_prefix_cons] at hp
    rw [hw, hp.1, List.head?_cons]
  cases hm : m.sign with
  | some x =>
    obtain ⟨ha, hx, hpoint⟩ := h.sign x hm
    obtain rfl : x = c := by simpa [written, lexeme, hm] using hhead
    exact ⟨m, h, by simp [signOf, Settings.isNegativeSign, ha, hx.symm, hpoint, hm], rfl, rfl⟩
  | none =>
    cases hs : signOf s (c :: cs) with
    | none => exact ⟨m, h, hm.symm, rfl, rfl⟩
    | some x =>
      obtain ⟨_, ht, hx, hpoint⟩ := sign_of_signOf s _ x hs
      obtain rfl : c = x := (List.cons.inj ht).1
      rw [Settings.isNegativeSign, Bool.and_eq_true, beq_iff_eq] at hx
      rcases h.head_cases hm hhead with ⟨w, hw⟩ | hdot | hsuffix
      · refine ⟨⟨some c, w, m.fraction, m.suffix⟩, ⟨?_, ?_, h.fraction, h.suffix⟩, rfl, ?_, rfl⟩
        · rintro _ ⟨⟩
          exact ⟨hx.1, hx.2, hpoint⟩
        · exact fun e he => h.whole e (hw ▸ List.mem_cons_of_mem c he)
        · simp [lexeme, hm, hw]
      · exact absurd hdot hpoint
      · exact absurd hsuffix (not_or.mpr hc)

/-- A number at the head of the text is no longer than the one that is read, and if it is as long, it has
the same lexeme and suffix. -/
theorem read_of_isPrefix (h : m.Allowed s) {c : Char} {cs : List Char} (hc : c ≠ 'u' ∧ c ≠ 'b')
    (hp : m.written <+: c :: cs) (hne : m.written ≠ []) :
    m.written.length ≤ (read s (c :: cs)).written.length ∧
    (m.written = (read s (c :: cs)).written →
      m.lexeme = (read s (c :: cs)).lexeme ∧ m.suffix = (read s (c :: cs)).suffix) := by
  obtain ⟨n, hn, hsign, hlexeme, hsuffix⟩ := exists_signed h hc hp hne
  have hwritten : n.written = m.written := by rw [written, written, hlexeme, hsuffix]
  obtain ⟨behind, ht⟩ := hp
  rw [← hwritten] at ht
  rw [← ht] at hsign ⊢
  obtain ⟨hpre, hread⟩ := read_of_sign hn behind hsign
  rw [← hwritten, ← hlexeme, ← hsuffix]
  by_cases hx : n.suffix = none
  · have hw : n.written = n.lexeme := by simp [written, hx]
    generalize read s (n.written ++ behind) = r at hpre ⊢
    have hle := hpre.length_le
    have hr : r.written.length = r.lexeme.length + r.suffix.toList.length := by simp [written]
    rw [hw]
    refine ⟨by omega, fun he => ?_⟩
    rw [← he] at hr
    have hs : r.suffix.toList = [] := List.length_eq_zero_iff.mp (by omega)
    exact ⟨hpre.eq_of_length (by omega), hx.trans (Option.toList_eq_nil_iff.mp hs).symm⟩
  · rw [hread hx]
    exact ⟨Nat.le_refl _, fun _ => ⟨rfl, rfl⟩⟩

/-- `n` is the longest number at the head of `text`, with `rest` behind it. However its text is taken
apart, the lexeme and the suffix are the same. -/
structure Longest (s : Settings) (text : List Char) (n : Numeral) (rest : List Char) : Prop where
  allowed : n.Allowed s
  text_eq : text = n.written ++ rest
  longest : ∀ m : Numeral, m.Allowed s → m.written <+: text →
    m.written.length ≤ n.written.length
  parts : ∀ m : Numeral, m.Allowed s → m.written = n.written →
    m.lexeme = n.lexeme ∧ m.suffix = n.suffix

theorem read_longest (c : Char) (cs : List Char) (hn : s.isNumberStart c = true)
    (hc : c ≠ 'u' ∧ c ≠ 'b') :
    Longest s (c :: cs) (read s (c :: cs))
      ((c :: cs).drop (read s (c :: cs)).written.length) where
  allowed := read_allowed s (c :: cs)
  text_eq := (List.prefix_iff_eq_append.mp (written_isPrefix s (c :: cs))).symm
  longest := by
    intro m hm hp
    by_cases hne : m.written = []
    · rw [hne]
      exact Nat.zero_le _
    · exact (read_of_isPrefix hm hc hp hne).1
  parts := by
    intro m hm he
    have hne : m.written ≠ [] := he ▸ written_ne_nil s c cs hn
    exact (read_of_isPrefix hm hc (he ▸ written_isPrefix s (c :: cs)) hne).2 he

end Longest

end Numeral

/-! ## Numbers in a scan -/

namespace Lexer

/-- A number starts at the head of `text`: nothing that is tried before numbers applies there. -/
structure NumberAt (lx : Lexer) (text : List Char) : Prop where
  noWord : lx.NoWordAt text
  noRule : lx.ruleAt text = none
  start : ∃ c ∈ text.head?, lx.settings.isNumberStart c = true

theorem numberAt_cons_iff (lx : Lexer) (c : Char) (cs : List Char) :
    lx.NumberAt (c :: cs) ↔ lx.whitespacePiece c cs = none ∧ lx.settings.isWordStart c = false ∧
      lx.ruleAt (c :: cs) = none ∧ lx.settings.isNumberStart c = true := by
  constructor
  · intro h
    exact ⟨by simpa [blankAt] using h.noWord.notBlank, h.noWord.notStart c rfl, h.noRule,
      by simpa using h.start⟩
  · rintro ⟨hb, hw, hr, hn⟩
    exact ⟨lx.noWordAt_cons c cs hb hw, hr, c, rfl, hn⟩

theorem NumberAt.exists_cons {lx : Lexer} {text : List Char} (h : lx.NumberAt text) :
    ∃ c cs, text = c :: cs ∧ lx.settings.isNumberStart c = true := by
  obtain ⟨c, hc, hn⟩ := h.start
  obtain ⟨cs, rfl⟩ := List.head?_eq_some_iff.mp hc
  exact ⟨c, cs, rfl, hn⟩

/-- No number starts with a letter, since words come first. -/
theorem NumberAt.not_letter {lx : Lexer} {c : Char} {cs : List Char} (h : lx.NumberAt (c :: cs)) :
    c ≠ 'u' ∧ c ≠ 'b' := by
  obtain ⟨-, hw, -, -⟩ := (lx.numberAt_cons_iff c cs).mp h
  exact not_suffix_of_isWordStart _ c hw

theorem NumberAt.piece_eq {lx : Lexer} {c : Char} {cs : List Char} (h : lx.NumberAt (c :: cs)) :
    lx.piece c cs = ⟨(Numeral.read lx.settings (c :: cs)).kind,
      (Numeral.read lx.settings (c :: cs)).lexeme,
      (Numeral.read lx.settings (c :: cs)).written.length, false⟩ := by
  obtain ⟨hb, hw, hr, hn⟩ := (lx.numberAt_cons_iff c cs).mp h
  exact lx.piece_of_number c cs hb hw hr hn

end Lexer

/-- **Numbers are the longest there are.** Where a number starts, a step takes the longest text of the
grammar. The token has that text without the suffix, and the two tell its kind. -/
theorem Scan.step_longestNumber (s : Scan) (h : s.lexer.NumberAt s.behindGap) :
    ∃ n : Numeral, n.Longest s.lexer.settings s.behindGap s.step.2.rest ∧
      s.step.1.lexeme.toList = n.lexeme ∧ s.step.1.kind = Numeral.kindOf n.lexeme n.suffix := by
  obtain ⟨c, cs, hg, hn⟩ := h.exists_cons
  rw [hg] at h ⊢
  have hlongest := Numeral.read_longest c cs hn h.not_letter
  have hpiece := h.piece_eq
  rw [s.step_of_cons c cs hg]
  refine ⟨Numeral.read s.lexer.settings (c :: cs), ?_, ?_, ?_⟩
  · simpa only [hpiece] using hlongest
  · simp [Cut.token, Lexer.cutAt, hpiece]
  · simpa only [Cut.token, Lexer.cutAt, hpiece] using hlongest.allowed.kind_eq

/-- A lexer without rules whose sign is a digit. -/
def Lexer.ofFours : Lexer :=
  ofRules [] { allowNegatives := true, negativeChar := '4' }

/-- A sign that is a digit, a point with no digits behind it, and a suffix. -/
theorem Scan.step_longestNumber_sign :
    (Lexer.ofFours.scan " 42.f5").behindGap = ['4', '2', '.', 'f', '5'] ∧
    Lexer.ofFours.NumberAt (Lexer.ofFours.scan " 42.f5").behindGap ∧
    ∃ n : Numeral, n.Longest Lexer.ofFours.settings (Lexer.ofFours.scan " 42.f5").behindGap
        (Lexer.ofFours.scan " 42.f5").step.2.rest ∧
      (Lexer.ofFours.scan " 42.f5").step.1.lexeme.toList = n.lexeme ∧
      (Lexer.ofFours.scan " 42.f5").step.1.kind = Numeral.kindOf n.lexeme n.suffix := by
  have hg : (Lexer.ofFours.scan " 42.f5").behindGap = ['4', '2', '.', 'f', '5'] := by
    decide +kernel
  have h : Lexer.ofFours.NumberAt (Lexer.ofFours.scan " 42.f5").behindGap := by
    rw [hg, Lexer.numberAt_cons_iff]
    decide +kernel
  exact ⟨hg, h, Scan.step_longestNumber (Lexer.ofFours.scan " 42.f5") h⟩

/-! ## Numbers without digits -/

namespace Numeral

def startsWithDigit (text : List Char) : Bool :=
  text.head?.any Char.isDigit

/-- Whether `text` starts with a sign that no digit follows, neither at once nor behind a point. A sign
that is a point is that point itself. -/
def BareSign (s : Settings) : List Char → Prop
  | [] => False
  | c :: cs =>
    s.isNegativeSign c = true ∧ c.isDigit = false ∧ startsWithDigit cs = false ∧
      (c ≠ '.' → ∀ ds, cs = '.' :: ds → startsWithDigit ds = false)

theorem any_takeWhile_isDigit (text : List Char) :
    (text.takeWhile Char.isDigit).any Char.isDigit = startsWithDigit text := by
  cases text with
  | nil => rfl
  | cons c cs => cases hc : c.isDigit <;> simp [startsWithDigit, hc]

theorem takeWhile_isDigit_eq_nil {text : List Char} (h : startsWithDigit text = false) :
    text.takeWhile Char.isDigit = [] := by
  cases text with
  | nil => rfl
  | cons c cs =>
    have hc : c.isDigit = false := by simpa [startsWithDigit] using h
    simp [hc]

theorem fractionOf_cases (text : List Char) :
    (∃ ds, text = '.' :: ds ∧
      fractionText (fractionOf text) = '.' :: ds.takeWhile Char.isDigit) ∨
    ((∀ ds, text ≠ '.' :: ds) ∧ fractionText (fractionOf text) = []) := by
  unfold fractionOf
  split
  · exact .inl ⟨_, rfl, rfl⟩
  · rename_i h
    exact .inr ⟨fun ds hds => h ds hds, rfl⟩

theorem lexeme_point (s : Settings) (cs : List Char) :
    (read s ('.' :: cs)).lexeme = '.' :: cs.takeWhile Char.isDigit := by
  simp [read, signOf, lexeme, fractionOf, fractionText]

theorem lexeme_sign (s : Settings) (c : Char) (cs : List Char)
    (hn : s.isNegativeSign c = true) (hc : c ≠ '.') :
    (read s (c :: cs)).lexeme = c :: (unsigned cs).lexeme := by
  simp [read_eq_withSign, signOf, hn, hc, lexeme, withSign, unsigned]

theorem lexeme_unsigned {text : List Char} (h : startsWithDigit text = false) :
    (unsigned text).lexeme = fractionText (fractionOf text) := by
  simp [unsigned, lexeme, takeWhile_isDigit_eq_nil h]

theorem hasDigit_of_isDigit (s : Settings) (c : Char) (cs : List Char) (hd : c.isDigit = true) :
    (read s (c :: cs)).lexeme.any Char.isDigit = true := by
  by_cases hs : (s.isNegativeSign c && c != '.') = true <;> simp [read, lexeme, signOf, hs, hd]

theorem hasDigit_unsigned (text : List Char) :
    (unsigned text).lexeme.any Char.isDigit = true ↔
      startsWithDigit text = true ∨ ∃ ds, text = '.' :: ds ∧ startsWithDigit ds = true := by
  cases ht : startsWithDigit text with
  | true =>
    have hany := any_takeWhile_isDigit text
    simp [unsigned, lexeme, hany, ht]
  | false =>
    rw [lexeme_unsigned ht]
    rcases fractionOf_cases text with ⟨ds, rfl, hds⟩ | ⟨hno, hds⟩
    · have hany := any_takeWhile_isDigit ds
      simp [hds, hany, show Char.isDigit '.' = false by decide]
    · simp [hds, hno]

theorem lexeme_of_bareSign (s : Settings) (c : Char) (cs : List Char)
    (h : BareSign s (c :: cs)) :
    (read s (c :: cs)).lexeme = [s.negativeChar] ∨
      (read s (c :: cs)).lexeme = [s.negativeChar, '.'] := by
  obtain ⟨hn, -, hcs, hds⟩ := h
  have hc : c = s.negativeChar := by
    rw [Settings.isNegativeSign, Bool.and_eq_true, beq_iff_eq] at hn
    exact hn.2
  by_cases hp : c = '.'
  · subst hp
    rw [lexeme_point, takeWhile_isDigit_eq_nil hcs]
    exact .inl (congrArg (fun c => [c]) hc)
  · rw [lexeme_sign s c cs hn hp, lexeme_unsigned hcs, hc]
    rcases fractionOf_cases cs with ⟨ds, hd, he⟩ | ⟨-, he⟩
    · rw [he, takeWhile_isDigit_eq_nil (hds hp ds hd)]
      exact .inr rfl
    · rw [he]
      exact .inl rfl

theorem hasDigit_iff (s : Settings) (c : Char) (cs : List Char) (h : s.isNumberStart c = true) :
    (read s (c :: cs)).lexeme.any Char.isDigit = true ↔ ¬BareSign s (c :: cs) := by
  cases hd : c.isDigit with
  | true => simp [hasDigit_of_isDigit s c cs hd, BareSign, hd]
  | false =>
    have hn : s.isNegativeSign c = true := by simpa [Settings.isNumberStart, hd] using h
    by_cases hp : c = '.'
    · subst hp
      have hany := any_takeWhile_isDigit cs
      simp [lexeme_point, hany, BareSign, hn, hd]
    · have hbare : BareSign s (c :: cs) ↔ startsWithDigit cs = false ∧
          ∀ ds, cs = '.' :: ds → startsWithDigit ds = false := by
        simp [BareSign, hn, hd, hp]
      rw [lexeme_sign s c cs hn hp, List.any_cons, hd, Bool.false_or, hasDigit_unsigned, hbare,
        not_and_or, Bool.not_eq_false]
      simp

end Numeral

namespace Lexer

/-- `t` is a token of `text` for a number, with which the text `source` that was left there starts. -/
structure NumberToken (lx : Lexer) (text : String) (t : Token) (source : List Char) : Prop where
  mem : t ∈ lx.tokenize text
  number : lx.NumberAt source
  cut : ∃ before b after, lx.cuts text.toList = before ++ b :: after ∧
    source = b.taken ++ (after.flatMap Cut.text ++ lx.lastGap text.toList) ∧
    t = b.token lx.settings.metric (lx.settings.placeBehind (before.flatMap Cut.text))

theorem NumberToken.lexeme_eq {lx : Lexer} {text : String} {t : Token} {source : List Char}
    (h : lx.NumberToken text t source) :
    t.lexeme.toList = (Numeral.read lx.settings source).lexeme := by
  obtain ⟨before, b, after, hcuts, hsource, rfl⟩ := h.cut
  obtain ⟨c, cs, hc, hpiece⟩ := lx.piece_of_cuts before b after text.toList hcuts
  have hn := h.number
  rw [hsource, ← hc] at hn ⊢
  simp [Cut.token, hpiece, hn.piece_eq]

/-- **Which numbers have no digit.** None but the signs that no digit follows; their lexemes are the sign,
alone or with a point. -/
theorem numberToken_hasDigit_iff (lx : Lexer) (text : String) (t : Token) (source : List Char)
    (h : lx.NumberToken text t source) :
    (t.lexeme.toList.any Char.isDigit = true ↔ ¬Numeral.BareSign lx.settings source) ∧
    (Numeral.BareSign lx.settings source →
      t.lexeme.toList = [lx.settings.negativeChar] ∨
        t.lexeme.toList = [lx.settings.negativeChar, '.']) := by
  obtain ⟨c, cs, hsource, hn⟩ := h.number.exists_cons
  rw [h.lexeme_eq, hsource]
  exact ⟨Numeral.hasDigit_iff lx.settings c cs hn, Numeral.lexeme_of_bareSign lx.settings c cs⟩

/-- A lexer without rules that reads negative numbers. -/
def ofSigns : Lexer :=
  ofRules [] { allowNegatives := true }

/-- A sign, a point and a suffix, with a number behind them. -/
theorem numberToken_hasDigit_iff_point :
    ofSigns.NumberToken "-.f 5" ⟨.float, "-.", ⟨0, 0⟩, ⟨0, 3⟩⟩ ['-', '.', 'f', ' ', '5'] ∧
    ("-.".toList.any Char.isDigit = true ↔
      ¬Numeral.BareSign ofSigns.settings ['-', '.', 'f', ' ', '5']) ∧
    Numeral.BareSign ofSigns.settings ['-', '.', 'f', ' ', '5'] ∧
    ("-.".toList = [ofSigns.settings.negativeChar] ∨
      "-.".toList = [ofSigns.settings.negativeChar, '.']) := by
  have hnumber : ofSigns.NumberAt ['-', '.', 'f', ' ', '5'] := by
    rw [numberAt_cons_iff]
    decide +kernel
  have h : ofSigns.NumberToken "-.f 5" ⟨.float, "-.", ⟨0, 0⟩, ⟨0, 3⟩⟩ ['-', '.', 'f', ' ', '5'] := by
    refine ⟨by decide +kernel, hnumber, [], ⟨[], ['-', '.', 'f'], ⟨.float, ['-', '.'], 3, false⟩⟩,
      [⟨[' '], ['5'], ⟨.integer, ['5'], 1, false⟩⟩], ?_, ?_, ?_⟩
    · decide +kernel
    · decide +kernel
    · decide +kernel
  have hbare : Numeral.BareSign ofSigns.settings ['-', '.', 'f', ' ', '5'] := by
    refine ⟨by decide +kernel, by decide, by decide, ?_⟩
    rintro - _ ⟨⟩
    decide
  obtain ⟨hiff, hlexeme⟩ := numberToken_hasDigit_iff ofSigns "-.f 5" _ _ h
  exact ⟨h, hiff, hbare, hlexeme hbare⟩

/-- A sign alone is a number without a digit. -/
theorem not_numberToken_hasDigit_minus :
    ¬∀ (t : Token) (source : List Char), ofSigns.NumberToken "-" t source →
      t.lexeme.toList.any Char.isDigit = true := by
  intro hall
  have hnumber : ofSigns.NumberAt ['-'] := by
    rw [numberAt_cons_iff]
    decide +kernel
  have h : ofSigns.NumberToken "-" ⟨.integer, "-", ⟨0, 0⟩, ⟨0, 1⟩⟩ ['-'] := by
    refine ⟨by decide +kernel, hnumber, [], ⟨[], ['-'], ⟨.integer, ['-'], 1, false⟩⟩, [], ?_, ?_, ?_⟩
    · decide +kernel
    · decide +kernel
    · decide +kernel
  exact absurd (hall _ _ h) (by decide +kernel)

end Lexer

end LexicalRules
