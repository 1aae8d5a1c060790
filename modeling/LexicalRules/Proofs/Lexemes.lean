import LexicalRules.Proofs.Coverage

/-! # Lexemes and their texts

What the lexeme of a token has to do with the text that the token takes. `Lexer.Renders` has one case for
each way in which tokens are made: white space and unclaimed characters are their own lexemes, words lose
their NULs, numbers lose their suffix, and a rule has its opening text, its body and its closing text in
this order. The main statements are `renders_piece`, for one piece, and `tokenize_renders`, for the
tokens of a whole scan.
-/

namespace LexicalRules
set_option autoImplicit false

/-! ## Bodies -/

namespace Body

/-- A verbatim body is all of the text or stops where `close` stands. -/
theorem verbatim_closes (close text : List Char) :
    verbatim close text = text ∨ verbatim close text ++ close <+: text := by
  induction text with
  | nil => exact .inl rfl
  | cons c cs ih =>
    unfold verbatim
    split
    · rename_i hc
      exact .inr (List.isPrefixOf_iff_prefix.mp hc)
    · rcases ih with h | h
      · exact .inl (congrArg (c :: ·) h)
      · exact .inr (List.cons_prefix_cons.mpr ⟨rfl, h⟩)

theorem escaped_closes (close text : List Char) :
    escaped close text = text ∨ escaped close text ++ close <+: text := by
  fun_induction escaped close text with
  | case1 => exact .inl rfl
  | case2 c cs hc => exact .inr (List.isPrefixOf_iff_prefix.mp hc)
  | case3 => exact .inl rfl
  | case4 d ds _ ih =>
    rcases ih with h | h
    · exact .inl (congrArg (fun s => '\\' :: d :: s) h)
    · exact .inr (List.cons_prefix_cons.mpr ⟨rfl, List.cons_prefix_cons.mpr ⟨rfl, h⟩⟩)
  | case5 c cs _ _ ih =>
    rcases ih with h | h
    · exact .inl (congrArg (c :: ·) h)
    · exact .inr (List.cons_prefix_cons.mpr ⟨rfl, h⟩)

/-- Whether `closing` ends a body that `close` should end: it does, or the text ends first. -/
def Ends (close closing behind : List Char) : Prop :=
  closing = close ∨ closing = [] ∧ behind = []

theorem exists_take_sizeThrough (close raw text : List Char)
    (h : raw = text ∨ raw ++ close <+: text) :
    ∃ closing, text.take (sizeThrough close raw text) = raw ++ closing ∧
      raw ++ closing ++ text.drop (sizeThrough close raw text) = text ∧
      Ends close closing (text.drop (sizeThrough close raw text)) := by
  have key : ∀ closing, text.take (sizeThrough close raw text) = raw ++ closing →
      raw ++ closing ++ text.drop (sizeThrough close raw text) = text := by
    intro closing ht
    rw [← ht, List.take_append_drop]
  rcases h with rfl | ⟨behind, rfl⟩
  · have hs : sizeThrough close raw raw = raw.length := by simp [sizeThrough]
    have ht : raw.take (sizeThrough close raw raw) = raw ++ [] := by simp [hs]
    exact ⟨[], ht, key [] ht, .inr ⟨rfl, by simp [hs]⟩⟩
  · have hs : sizeThrough close raw (raw ++ close ++ behind) = (raw ++ close).length := by
      unfold sizeThrough
      simp only [List.length_append]
      split <;> omega
    have ht : (raw ++ close ++ behind).take (sizeThrough close raw (raw ++ close ++ behind)) =
        raw ++ close := by
      rw [hs]
      exact List.take_left
    exact ⟨close, ht, key close ht, .inl rfl⟩

end Body

namespace Rule
variable (r : Rule) (escapes : Bool) (text : List Char)

theorem body_of_literal (hf : r.form = .literal) :
    r.body escapes text = ⟨r.replacement.toList, 0⟩ := by
  simp [body, hf]

theorem body_of_line (hf : r.form = .line) :
    ∃ line, line <+: text ∧ r.body escapes text = ⟨line, line.length⟩ :=
  ⟨_, Body.restOfLine_isPrefix text, by simp [body, hf, Body.ofLine]⟩

theorem body_of_verbatim (hf : r.form = .verbatim) :
    ∃ raw, (raw = text ∨ raw ++ r.right.toList <+: text) ∧
      r.body escapes text = ⟨raw, Body.sizeThrough r.right.toList raw text⟩ :=
  ⟨_, Body.verbatim_closes r.right.toList text, by simp [body, hf, Body.ofVerbatim]⟩

theorem body_of_escaped (hf : r.form = .escaped) :
    ∃ raw, (raw = text ∨ raw ++ r.right.toList <+: text) ∧
      r.body escapes text = ⟨if escapes then Escape.decode raw else raw,
        Body.sizeThrough r.right.toList raw text⟩ := by
  cases escapes with
  | true =>
    have hread := Body.ofString_eq_ofEscaped r.right.toList text
    exact ⟨_, Body.escaped_closes r.right.toList text, by simp [body, hf, hread, Body.ofEscaped]⟩
  | false =>
    have hread := Body.ofString_eq_ofVerbatim false r.right.toList text nofun
    exact ⟨_, Body.verbatim_closes r.right.toList text, by simp [body, hf, hread, Body.ofVerbatim]⟩

theorem form_cases :
    (r.form = .literal ∧ r.isEnclosed = false ∧ r.kind ≠ .endOfLineComment ∧
      r.kind ≠ .multiLineComment) ∨
    (r.form = .line ∧ r.kind = .endOfLineComment) ∨
    (r.form = .verbatim ∧ (r.kind = .multiLineComment ∨
      r.isEnclosed = true ∧ r.kind ≠ .endOfLineComment ∧ r.kind ≠ .string)) ∨
    (r.form = .escaped ∧ r.isEnclosed = true ∧ r.kind = .string) := by
  cases hk : r.kind <;> cases he : r.isEnclosed <;> simp [form, hk, he]

end Rule

theorem Numeral.suffixOf_mem (point : Bool) (text : List Char) (x : Char)
    (h : suffixOf point text = some x) : x ∈ ['f', 'd', 'u', 'b'] := by
  unfold suffixOf at h
  split at h
  · cases h
  · split at h
    all_goals
      split at h
      · rename_i hx
        cases h
        rcases hx with rfl | rfl <;> decide
      · cases h

namespace Lexer

/-! ## Ways to a lexeme -/

def withoutNuls (s : List Char) : List Char :=
  s.filter (· != '\x00')

/-- Whether the white space at the head of `text` is a token. -/
def blankAt (lx : Lexer) : List Char → Bool
  | [] => false
  | c :: cs => (lx.whitespacePiece c cs).isSome

/-- A word with all its NULs stands in front of `behind`. -/
structure WordAt (lx : Lexer) (word behind : List Char) : Prop where
  notBlank : lx.blankAt (word ++ behind) = false
  whole : ∃ c tail, word = c :: tail ∧ lx.settings.isWordStart c = true ∧
    lx.wordTail (tail ++ behind) = tail

/-- Neither white space that is a token nor a word stands at the head of `text`. -/
structure NoWordAt (lx : Lexer) (text : List Char) : Prop where
  notBlank : lx.blankAt text = false
  notStart : ∀ c ∈ text.head?, lx.settings.isWordStart c = false

/-- `opening` is the text in front of `behind` that makes `r` apply: a whole word, or what the pattern
is compared with in place. -/
inductive Opens (lx : Lexer) (r : Rule) (opening behind : List Char) : Prop where
  | word (hw : lx.WordAt opening behind) (hr : lx.ruleOfWord (withoutNuls opening) = some r)
      (hp : Text.sameText (lx.ignoresCase r) (withoutNuls opening) r.pattern.toList = true)
  | inPlace (hw : lx.NoWordAt (opening ++ behind)) (hr : lx.ruleAt (opening ++ behind) = some r)
      (hp : Text.sameText (lx.ignoresCase r) opening r.pattern.toList = true)

/-- The text in front of `behind` is taken for a token of this kind and lexeme. -/
inductive Renders (lx : Lexer) (behind : List Char) :
    List Char → TokenKind → List Char → Prop where
  | blank (c : Char) (k : TokenKind) (hs : lx.settings.skipWhitespace = false)
      (hk : whitespaceKind c = some k) : Renders lx behind [c] k [c]
  | lineBreak (hs : lx.settings.skipWhitespace = true)
      (hn : lx.settings.newlinesAsTokens = true) :
      Renders lx behind ['\r', '\n'] .newline ['\r', '\n']
  | word (s : List Char) (hw : lx.WordAt s behind) (hr : lx.ruleOfWord (withoutNuls s) = none) :
      Renders lx behind s .word (withoutNuls s)
  | number (n : Numeral) (hw : lx.NoWordAt (n.lexeme ++ n.suffix.toList ++ behind))
      (hr : lx.ruleAt (n.lexeme ++ n.suffix.toList ++ behind) = none)
      (hd : ∃ c ∈ (n.lexeme ++ n.suffix.toList).head?, lx.settings.isNumberStart c = true)
      (hn : Numeral.read lx.settings (n.lexeme ++ n.suffix.toList ++ behind) = n)
      (hs : ∀ x ∈ n.suffix, x ∈ ['f', 'd', 'u', 'b']) :
      Renders lx behind (n.lexeme ++ n.suffix.toList) n.kind n.lexeme
  | literal (r : Rule) (opening : List Char) (ho : lx.Opens r opening behind)
      (he : r.isEnclosed = false) (hl : r.kind ≠ .endOfLineComment)
      (hm : r.kind ≠ .multiLineComment) :
      Renders lx behind opening r.kind r.replacement.toList
  | line (r : Rule) (opening body : List Char) (ho : lx.Opens r opening (body ++ behind))
      (hk : r.kind = .endOfLineComment) :
      Renders lx behind (opening ++ body) r.kind body
  | verbatim (r : Rule) (opening body closing : List Char)
      (ho : lx.Opens r opening (body ++ closing ++ behind))
      (hk : r.kind = .multiLineComment ∨
        r.isEnclosed = true ∧ r.kind ≠ .endOfLineComment ∧ r.kind ≠ .string)
      (hc : Body.Ends r.right.toList closing behind) :
      Renders lx behind (opening ++ body ++ closing) r.kind body
  | escaped (r : Rule) (opening raw closing : List Char)
      (ho : lx.Opens r opening (raw ++ closing ++ behind)) (he : r.isEnclosed = true)
      (hk : r.kind = .string) (hc : Body.Ends r.right.toList closing behind) :
      Renders lx behind (opening ++ raw ++ closing) r.kind
        (if lx.settings.parseEscapeSequences then Escape.decode raw else raw)
  | unclaimed (c : Char) (hu : lx.isUnclaimed (c :: behind) = true) :
      Renders lx behind [c] (lx.settings.catchAllKind.getD (.ofChar c)) [c]

/-- NULs are passed over, so no token starts at one. -/
theorem ne_nul_of_dropWhile (lx : Lexer) (text : List Char) (c : Char) (cs : List Char)
    (h : text.dropWhile lx.settings.isSilent = c :: cs) : c ≠ '\x00' := by
  rintro rfl
  have hs := List.head?_dropWhile_not lx.settings.isSilent text
  rw [h] at hs
  simp [Settings.isSilent] at hs

/-! ## Tokens of rules -/

theorem renders_rulePiece (lx : Lexer) (r : Rule) (n : Nat) (text : List Char)
    (ho : lx.Opens r (text.take n) (text.drop n)) :
    lx.Renders (text.drop (lx.rulePiece r n text).size) (text.take (lx.rulePiece r n text).size)
      r.kind (lx.rulePiece r n text).lexeme := by
  have hp : lx.rulePiece r n text =
      ⟨r.kind, (r.body lx.settings.parseEscapeSequences (text.drop n)).lexeme,
        n + (r.body lx.settings.parseEscapeSequences (text.drop n)).size, false⟩ := rfl
  simp only [hp]
  rw [List.take_add, ← List.drop_drop]
  -- From here on only the opening text and what stands behind it matter.
  generalize text.take n = opening at ho ⊢
  generalize text.drop n = rest at ho ⊢
  rcases r.form_cases with ⟨hf, he, hl, hm⟩ | ⟨hf, hk⟩ | ⟨hf, hk⟩ | ⟨hf, he, hk⟩
  · rw [r.body_of_literal _ rest hf]
    simpa using Renders.literal r opening ho he hl hm
  · obtain ⟨line, ⟨behind, rfl⟩, hb⟩ := r.body_of_line lx.settings.parseEscapeSequences rest hf
    rw [hb]
    simpa using Renders.line r opening line ho hk
  · obtain ⟨raw, hraw, hb⟩ := r.body_of_verbatim lx.settings.parseEscapeSequences rest hf
    obtain ⟨closing, ht, hd, hc⟩ := Body.exists_take_sizeThrough _ raw rest hraw
    rw [hb]
    simp only
    rw [ht, ← List.append_assoc]
    exact .verbatim r opening raw closing (by rwa [hd]) hk hc
  · obtain ⟨raw, hraw, hb⟩ := r.body_of_escaped lx.settings.parseEscapeSequences rest hf
    obtain ⟨closing, ht, hd, hc⟩ := Body.exists_take_sizeThrough _ raw rest hraw
    rw [hb]
    simp only
    rw [ht, ← List.append_assoc]
    exact .escaped r opening raw closing (by rwa [hd]) he hk hc

/-! ## Pieces -/

theorem sameText_of_ruleOfWord (lx : Lexer) (word : List Char) (r : Rule)
    (h : lx.ruleOfWord word = some r) :
    Text.sameText (lx.ignoresCase r) word r.pattern.toList = true :=
  ((lx.spells_iff word r).mp (List.find?_some h)).2

theorem sameText_of_ruleAt (lx : Lexer) (text : List Char) (r : Rule)
    (h : lx.ruleAt text = some r) :
    Text.sameText (lx.ignoresCase r) (text.take r.pattern.length) r.pattern.toList = true :=
  ((lx.standsAt_iff text r).mp (List.find?_some h)).2

theorem take_wordTail (lx : Lexer) (cs : List Char) :
    cs.take (lx.wordTail cs).length = lx.wordTail cs :=
  (List.prefix_iff_eq_take.mp (List.takeWhile_prefix _)).symm

theorem wordTail_append_drop (lx : Lexer) (cs : List Char) :
    lx.wordTail cs ++ cs.drop (lx.wordTail cs).length = cs := by
  have ha := List.take_append_drop (lx.wordTail cs).length cs
  rwa [take_wordTail] at ha

section Piece
variable (lx : Lexer) (c : Char) (cs : List Char)

theorem take_word : (c :: cs).take (1 + (lx.wordTail cs).length) = c :: lx.wordTail cs := by
  rw [Nat.add_comm, List.take_succ_cons, take_wordTail]

theorem wordAt_take (hb : lx.whitespacePiece c cs = none)
    (hw : lx.settings.isWordStart c = true) :
    lx.WordAt ((c :: cs).take (1 + (lx.wordTail cs).length))
      ((c :: cs).drop (1 + (lx.wordTail cs).length)) := by
  refine ⟨?_, c, lx.wordTail cs, lx.take_word c cs, hw, ?_⟩
  · rw [List.take_append_drop]
    simp [blankAt, hb]
  · rw [Nat.add_comm, List.drop_succ_cons, wordTail_append_drop]

theorem noWordAt_cons (hb : lx.whitespacePiece c cs = none)
    (hw : lx.settings.isWordStart c = false) : lx.NoWordAt (c :: cs) :=
  ⟨by simp [blankAt, hb], by simpa using hw⟩

theorem withoutNuls_take (hc : c ≠ '\x00') :
    withoutNuls ((c :: cs).take (1 + (lx.wordTail cs).length)) = lx.wordOf c cs := by
  rw [take_word]
  simp [withoutNuls, wordOf, hc]

theorem renders_number (hb : lx.whitespacePiece c cs = none)
    (hw : lx.settings.isWordStart c = false) (hr : lx.ruleAt (c :: cs) = none)
    (hn : lx.settings.isNumberStart c = true) :
    lx.Renders ((c :: cs).drop (Numeral.read lx.settings (c :: cs)).written.length)
      ((c :: cs).take (Numeral.read lx.settings (c :: cs)).written.length)
      (Numeral.read lx.settings (c :: cs)).kind (Numeral.read lx.settings (c :: cs)).lexeme := by
  have ht := (List.prefix_iff_eq_take.mp (Numeral.written_isPrefix lx.settings (c :: cs))).symm
  have ha := List.take_append_drop (Numeral.read lx.settings (c :: cs)).written.length (c :: cs)
  rw [ht] at ha ⊢
  refine .number _ ?_ ?_ ⟨c, ?_, hn⟩ ?_ ?_
  · exact ha.symm ▸ lx.noWordAt_cons c cs hb hw
  · exact ha.symm ▸ hr
  · obtain ⟨d, ds, hd⟩ :=
      List.exists_cons_of_ne_nil (Numeral.written_ne_nil lx.settings c cs hn)
    rw [hd, List.cons_append, List.cons.injEq] at ha
    have hh : (Numeral.read lx.settings (c :: cs)).written.head? = some c := by
      rw [hd, ha.1, List.head?_cons]
    exact hh
  · exact congrArg (Numeral.read lx.settings) ha
  · intro x hx
    exact Numeral.suffixOf_mem _ _ x hx

/-- **Pieces are faithful.** A piece that is cut off a text renders what it takes of it. -/
theorem renders_piece (hc : c ≠ '\x00') :
    lx.Renders ((c :: cs).drop (lx.piece c cs).size) ((c :: cs).take (lx.piece c cs).size)
      (lx.piece c cs).kind (lx.piece c cs).lexeme := by
  have h := lx.makes_piece c cs
  cases hp : lx.piece c cs with
  | mk kind lexeme size inPlace =>
    rw [hp] at h
    cases h with
    | blank k hb hs hk => exact .blank c kind hs hk
    | lineBreak ds hs hn hc hd =>
      subst hc hd
      exact .lineBreak hs hn
    | word hb hw hr =>
      have hword := lx.withoutNuls_take c cs hc
      have hren := Renders.word _ (lx.wordAt_take c cs hb hw) (by rwa [hword])
      rwa [hword] at hren
    | wordRule r hb hw hr =>
      apply lx.renders_rulePiece
      have hword := lx.withoutNuls_take c cs hc
      refine .word (lx.wordAt_take c cs hb hw) ?_ ?_
      · rwa [hword]
      · rw [hword]
        exact lx.sameText_of_ruleOfWord _ r hr
    | rule r hb hw hr =>
      apply lx.renders_rulePiece
      refine .inPlace ?_ ?_ (lx.sameText_of_ruleAt _ r hr)
      · rw [List.take_append_drop]
        exact lx.noWordAt_cons c cs hb hw
      · rwa [List.take_append_drop]
    | number hb hw hr hn => exact lx.renders_number c cs hb hw hr hn
    | unclaimed hb hw hr hn =>
      exact .unclaimed c (by simp [isUnclaimed, hb, hw, hr, hn])

end Piece

end Lexer

/-! ## Scans -/

namespace Scan

theorem ne_nul_of_behindGap (s : Scan) (c : Char) (cs : List Char) (h : s.behindGap = c :: cs) :
    c ≠ '\x00' :=
  s.lexer.ne_nul_of_dropWhile s.rest c cs h

/-- What one step takes: the gap and the text of its token, unless only the end is left. -/
theorem step_renders (s : Scan) :
    (s.behindGap = [] ∧ s.step.1 = endMarker s.start) ∨
    ∃ taken, taken ≠ [] ∧ s.rest = s.gap ++ taken ++ s.step.2.rest ∧
      s.lexer.Renders s.step.2.rest taken s.step.1.kind s.step.1.lexeme.toList := by
  cases h : s.behindGap with
  | nil =>
    refine .inl ⟨rfl, ?_⟩
    rw [s.step_of_nil h]
  | cons c cs =>
    refine .inr ⟨(s.lexer.cutAt s.rest c cs).taken, ?_, ?_, ?_⟩
    · exact s.lexer.cutAt_taken_ne_nil s.rest c cs
    · rw [s.step_of_cons c cs h]
      exact (s.lexer.cutAt_text_append s.rest c cs h).symm
    · rw [s.step_of_cons c cs h]
      simpa [Cut.token, Lexer.cutAt] using
        s.lexer.renders_piece c cs (s.ne_nul_of_behindGap c cs h)

theorem next?_of_commentsAsTokens (s : Scan) (hc : s.lexer.settings.commentsAsTokens = true)
    (t : Token) (s' : Scan) (h : s.next? = some (t, s')) :
    t = s.step.1 ∧ s'.rest = s.step.2.rest := by
  have hf : s.finished = false := by
    rw [← Bool.not_eq_true, ← next?_eq_none_iff, h]
    exact Option.some_ne_none _
  by_cases hk : s.step.1.kind = .endOfFile
  · rw [s.next?_of_end hf hk] at h
    cases h
    exact ⟨rfl, rfl⟩
  · rw [s.next?_of_kept hf hk (Lexer.keeps_of_commentsAsTokens s hc _)] at h
    cases h
    exact ⟨rfl, rfl⟩

end Scan

namespace Lexer

/-- **Lexemes are faithful.** Where comments are tokens, each token of a scan renders the text that the
scan takes for it, but for the one that stands for the end of the text. -/
theorem tokenize_renders (lx : Lexer) (hc : lx.settings.commentsAsTokens = true) (text : String)
    (n : Nat) (t : Token) (h : (lx.tokenize text)[n]? = some t) :
    ∃ s s', ((lx.scan text).take n).2 = s ∧ s.next? = some (t, s') ∧
      ((s.behindGap = [] ∧ t = endMarker s.start) ∨
        ∃ taken, taken ≠ [] ∧ s.rest = s.gap ++ taken ++ s'.rest ∧
          lx.Renders s'.rest taken t.kind t.lexeme.toList) := by
  have hlx : ((lx.scan text).take n).2.lexer = lx := Scan.take_lexer n (lx.scan text)
  have hn := Scan.getElem?_remaining n (lx.scan text)
  rw [show (lx.scan text).remaining = lx.tokenize text from rfl, h] at hn
  obtain ⟨⟨u, s'⟩, hnext, rfl⟩ := Option.map_eq_some_iff.mp hn.symm
  refine ⟨_, s', rfl, hnext, ?_⟩
  obtain ⟨hu, hrest⟩ := Scan.next?_of_commentsAsTokens _ (by rwa [hlx]) u s' hnext
  have hr := ((lx.scan text).take n).2.step_renders
  rwa [← hu, ← hrest, hlx] at hr

/-- A lexer for strings in quotes that keeps its comments. -/
def ofQuotes : Lexer :=
  ofRules [.enclosed .string "\"" ""] { commentsAsTokens := true }

/-- A string with an escape, between a gap and the end of the text. -/
theorem tokenize_renders_string :
    ofQuotes.settings.commentsAsTokens = true ∧
    (ofQuotes.tokenize "x \"a\\tb\"")[1]? = some ⟨.string, "a\tb", ⟨0, 2⟩, ⟨0, 8⟩⟩ ∧
    ∃ s s', ((ofQuotes.scan "x \"a\\tb\"").take 1).2 = s ∧
      s.next? = some (⟨.string, "a\tb", ⟨0, 2⟩, ⟨0, 8⟩⟩, s') ∧
      ((s.behindGap = [] ∧
          (⟨.string, "a\tb", ⟨0, 2⟩, ⟨0, 8⟩⟩ : Token) = endMarker s.start) ∨
        ∃ taken, taken ≠ [] ∧ s.rest = s.gap ++ taken ++ s'.rest ∧
          ofQuotes.Renders s'.rest taken .string "a\tb".toList) := by
  have h : (ofQuotes.tokenize "x \"a\\tb\"")[1]? =
      some ⟨.string, "a\tb", ⟨0, 2⟩, ⟨0, 8⟩⟩ := by decide +kernel
  exact ⟨rfl, h, tokenize_renders ofQuotes rfl _ 1 _ h⟩

end Lexer

end LexicalRules
