import LexicalRules.Piece

/-! # Texts between quotes

`Escape.Writes` relates a text to all ways of writing it between quotes: plainly, or with known pairs.
`decode_of_writes` says that each of them stands for the text, `escaped_of_writes` that none of them is
cut short, and `rulePiece_of_writes` puts the two together for the tokens of string rules.
-/

namespace LexicalRules
set_option autoImplicit false

namespace Escape

/-- The ways to write a text that is followed by `quote`. A character stands for itself, unless it is a
backslash or the quote, and a known pair stands for its character, whether it is needed or not. -/
inductive Writes (quote : Char) : (written text : List Char) → Prop where
  | nil : Writes quote [] []
  | plain (c : Char) (written text : List Char) (hb : c ≠ '\\') (hq : c ≠ quote)
      (h : Writes quote written text) : Writes quote (c :: written) (c :: text)
  | pair (x c : Char) (written text : List Char) (hx : resolve x = some c)
      (h : Writes quote written text) : Writes quote ('\\' :: x :: written) (c :: text)

/-- The way that has no pair it can do without. -/
def encode (quote : Char) (text : List Char) : List Char :=
  text.flatMap fun c => if c = '\\' ∨ c = quote then ['\\', c] else [c]

section Quote
variable {quote : Char}

/-- Every text can be written where the quote itself can be. -/
theorem writes_encode (hq : resolve quote = some quote) (text : List Char) :
    Writes quote (encode quote text) text := by
  induction text with
  | nil => exact .nil
  | cons c text ih =>
    unfold encode at ih ⊢
    rw [List.flatMap_cons]
    split
    · rename_i hc
      refine .pair c c _ text ?_ ih
      rcases hc with rfl | rfl
      · rfl
      · exact hq
    · rename_i hc
      rw [not_or] at hc
      exact .plain c _ text hc.1 hc.2 ih

theorem decode_of_writes {written text : List Char} (h : Writes quote written text) :
    decode written = text := by
  induction h with
  | nil => exact decode_nil
  | plain c written text hb hq h ih => rw [decode_cons c written hb, ih]
  | pair x c written text hx h ih =>
    rw [decode_backslash_cons, ih, Escape.pair, hx]
    rfl

end Quote

end Escape

/-- The quote that comes next is the one behind what is written. -/
theorem Body.escaped_of_writes {quote : Char} (hquote : quote ≠ '\\') {written text : List Char}
    (h : Escape.Writes quote written text) (tail : List Char) :
    escaped [quote] (written ++ quote :: tail) = written := by
  have hstarts : ∀ (c : Char) (s : List Char),
      [quote].isPrefixOf (c :: s) = true ↔ c = quote := by
    intro c s
    rw [List.isPrefixOf_iff_prefix, List.cons_prefix_cons]
    exact ⟨fun hc => hc.1.symm, fun hc => ⟨hc.symm, List.nil_prefix⟩⟩
  induction h with
  | nil => exact escaped_of_isPrefixOf _ _ _ ((hstarts _ _).mpr rfl)
  | plain c written text hb hq h ih =>
    rw [List.cons_append, escaped_cons _ _ _ (mt (hstarts _ _).mp hq) hb, ih]
  | pair x c written text hx h ih =>
    rw [List.cons_append, List.cons_append,
      escaped_pair _ _ _ (mt (hstarts _ _).mp hquote.symm), ih]

theorem Rule.body_of_writes (r : Rule) {quote : Char} (hquote : quote ≠ '\\')
    (hf : r.form = .escaped) (hr : r.right = String.singleton quote) {written text : List Char}
    (h : Escape.Writes quote written text) (tail : List Char) :
    r.body true (written ++ quote :: tail) = ⟨text, (written ++ [quote]).length⟩ := by
  have hright : r.right.toList = [quote] := by rw [hr, String.toList_singleton]
  have hraw := Body.escaped_of_writes hquote h tail
  have hsize : Body.sizeThrough [quote] written (written ++ quote :: tail) =
      (written ++ [quote]).length := by simp [Body.sizeThrough]
  rw [Rule.body, hf]
  simp only [hright]
  rw [Body.ofString_eq_ofEscaped, Body.ofEscaped, hraw, Escape.decode_of_writes h, hsize]

namespace Lexer

/-- **What is written is read.** Every text can be written between quotes, and whichever way it is
written, the token of a string rule has the text for its lexeme and ends with the closing quote. -/
theorem rulePiece_of_writes (lx : Lexer) (r : Rule) (quote : Char)
    (hquote : quote = '"' ∨ quote = '\'') (hescapes : lx.settings.parseEscapeSequences = true)
    (hk : r.kind = .string) (he : r.isEnclosed = true) (hr : r.right = String.singleton quote)
    (text : List Char) :
    (∃ written, Escape.Writes quote written text) ∧
    ∀ opening written tail source : List Char, Escape.Writes quote written text →
      source = opening ++ written ++ quote :: tail →
      (lx.rulePiece r opening.length source).kind = .string ∧
      (lx.rulePiece r opening.length source).lexeme = text ∧
      source.take (lx.rulePiece r opening.length source).size = opening ++ written ++ [quote] ∧
      source.drop (lx.rulePiece r opening.length source).size = tail := by
  have hresolve : Escape.resolve quote = some quote := by
    rcases hquote with rfl | rfl <;> rfl
  have hne : quote ≠ '\\' := by
    rcases hquote with rfl | rfl <;> decide
  have hf : r.form = .escaped := by simp [Rule.form, hk, he]
  refine ⟨⟨_, Escape.writes_encode hresolve text⟩, ?_⟩
  rintro opening written tail source h rfl
  have hbody := r.body_of_writes hne hf hr h tail
  have hpiece : lx.rulePiece r opening.length (opening ++ written ++ quote :: tail) =
      ⟨.string, text, (opening ++ written ++ [quote]).length, false⟩ := by
    rw [rulePiece, List.append_assoc, List.drop_left, hescapes, hbody, hk, ← List.length_append,
      List.append_assoc]
  have htext : opening ++ written ++ quote :: tail = (opening ++ written ++ [quote]) ++ tail := by
    simp
  rw [hpiece, htext]
  exact ⟨rfl, rfl, List.take_left, List.drop_left⟩

/-- A quote, a line feed, a NUL and a backslash that are written as pairs, and a line feed that is
not, in front of more text with a quote. -/
theorem rulePiece_of_writes_quotes :
    Escape.Writes '"' ['a', '\\', '"', '\\', 'n', '\n', '\\', '0', '\\', '\\']
      ['a', '"', '\n', '\n', '\x00', '\\'] ∧
    ((ofRules [] {}).rulePiece (.enclosed .string "\"" "\"") 1
      "\"a\\\"\\n\n\\0\\\\\"b\"".toList).lexeme = ['a', '"', '\n', '\n', '\x00', '\\'] ∧
    "\"a\\\"\\n\n\\0\\\\\"b\"".toList.drop
      ((ofRules [] {}).rulePiece (.enclosed .string "\"" "\"") 1
        "\"a\\\"\\n\n\\0\\\\\"b\"".toList).size = ['b', '"'] := by
  have hw : Escape.Writes '"' ['a', '\\', '"', '\\', 'n', '\n', '\\', '0', '\\', '\\']
      ['a', '"', '\n', '\n', '\x00', '\\'] := by
    refine .plain 'a' _ _ (by decide) (by decide) ?_
    refine .pair '"' '"' _ _ rfl ?_
    refine .pair 'n' '\n' _ _ rfl ?_
    refine .plain '\n' _ _ (by decide) (by decide) ?_
    refine .pair '0' '\x00' _ _ rfl ?_
    exact .pair '\\' '\\' _ _ rfl .nil
  have h := (rulePiece_of_writes (ofRules [] {}) (.enclosed .string "\"" "\"") '"' (.inl rfl) rfl rfl
    (by decide) (by decide) ['a', '"', '\n', '\n', '\x00', '\\']).2 ['"'] _ ['b', '"'] _ hw rfl
  exact ⟨hw, h.2.1, h.2.2.2⟩

end Lexer

end LexicalRules
