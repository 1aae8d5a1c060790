import LexicalRules.Listing
import LexicalRules.Proofs.Order
import LexicalRules.Proofs.Pieces
import LexicalRules.Proofs.QuotedText
import Mathlib.Data.List.Forall2

/-! # The lines of a listing

A line of a listing has the name of a kind as it is, and nothing else in it can break the line
(`count_line`). Where no kind has a line feed in its name, the listing is therefore one line for each
token, and it tells the tokens apart: `listing_eq_iff`, which holds in the same way for all ways of
quoting (`lines_eq_iff`). Names with line feeds are not kept from
listings. They come from rules, from the kind of unclaimed characters and, where line breaks are looked
at and nothing claims them, from the line feed itself: `oneLineEach_iff`.
-/

namespace LexicalRules
set_option autoImplicit false

/-! ## Places in digits -/

namespace Location

theorem toList_digits (l : Location) :
    l.digits.toList = Nat.toDigits 10 l.line ++ ':' :: Nat.toDigits 10 l.column := by
  simp [digits]

theorem isDigit_of_mem_digits (l : Location) (c : Char) (h : c ∈ l.digits.toList) :
    c.isDigit = true ∨ c = ':' := by
  rw [toList_digits, List.mem_append, List.mem_cons] at h
  rcases h with h | h | h
  · exact .inl (Nat.isDigit_of_mem_toDigits (by decide) (by decide) h)
  · exact .inr h
  · exact .inl (Nat.isDigit_of_mem_toDigits (by decide) (by decide) h)

theorem notMem_digits (l : Location) : '-' ∉ l.digits.toList ∧ '"' ∉ l.digits.toList ∧
    '\n' ∉ l.digits.toList := by
  refine ⟨fun h => ?_, fun h => ?_, fun h => ?_⟩
  all_goals
    have hd := l.isDigit_of_mem_digits _ h
    revert hd
    decide

theorem digits_injective {l m : Location} (h : l.digits.toList = m.digits.toList) : l = m := by
  have hcolon : ∀ n, ':' ∉ Nat.toDigits 10 n := by
    intro n hn
    exact absurd (Nat.isDigit_of_mem_toDigits (by decide) (by decide) hn) (by decide)
  rw [toList_digits, toList_digits] at h
  obtain ⟨hline, hcolumn⟩ := Text.append_cons_inj_first (hcolon _) (hcolon _) h
  have hl := Text.toDigits_injective (by decide : 1 < 10) (by decide) _ _ hline
  have hc := Text.toDigits_injective (by decide : 1 < 10) (by decide) _ _ hcolumn
  cases l
  cases m
  simp_all

end Location

/-! ## One line -/

namespace Token

/-- Where a token stands, as it is written behind its lexeme. -/
def places (t : Token) : List Char :=
  ' ' :: '@' :: ' ' :: (t.start.digits.toList ++ '-' :: t.stop.digits.toList)

/-- The line of a token without the line feed that ends it, where `q` writes the lexeme. -/
def lineText (q : Char → List Char) (t : Token) : List Char :=
  t.kind.name.toList ++ ' ' :: '"' :: t.lexeme.toList.flatMap q ++ '"' :: t.places

theorem toList_line (t : Token) : t.line.toList = t.lineText Text.quotedChar ++ ['\n'] := by
  simp [line, lineText, places, Text.quoted, Text.quotedChars]

theorem notMem_places (t : Token) : '"' ∉ t.places ∧ '\n' ∉ t.places := by
  simp [places, t.start.notMem_digits, t.stop.notMem_digits]

theorem count_lineText {q : Char → List Char} (hq : Text.Quotes q) (t : Token) :
    (t.lineText q).count '\n' = t.kind.name.toList.count '\n' := by
  have hlexeme : (t.lexeme.toList.flatMap q).count '\n' = 0 := by
    simp [List.count_eq_zero, hq.lineFeed_notMem]
  have hplaces : t.places.count '\n' = 0 := List.count_eq_zero.mpr t.notMem_places.2
  simp [lineText, hlexeme, hplaces]

/-- Besides the name of the kind, only the end of the line is a line feed. -/
theorem count_line (t : Token) :
    t.line.toList.count '\n' = t.kind.name.toList.count '\n' + 1 := by
  rw [toList_line, List.count_append, count_lineText Text.quotes_quotedChar]
  rfl

theorem lineFeed_notMem_lineText {q : Char → List Char} (hq : Text.Quotes q) (t : Token)
    (h : '\n' ∉ t.kind.name.toList) : '\n' ∉ t.lineText q := by
  rw [← List.count_eq_zero, t.count_lineText hq]
  exact List.count_eq_zero.mpr h

/-- The same kind by name, the same lexeme and the same places. -/
structure SameLine (t u : Token) : Prop where
  kind : t.kind.name = u.kind.name
  lexeme : t.lexeme = u.lexeme
  start : t.start = u.start
  stop : t.stop = u.stop

theorem SameLine.lineText_eq {t u : Token} (h : t.SameLine u) (q : Char → List Char) :
    t.lineText q = u.lineText q := by
  simp only [lineText, places, h.kind, h.lexeme, h.start, h.stop]

theorem places_injective {t u : Token} (h : t.places = u.places) :
    t.start = u.start ∧ t.stop = u.stop := by
  simp only [places, List.cons.injEq, true_and] at h
  obtain ⟨hstart, hstop⟩ :=
    Text.append_cons_inj_first t.start.notMem_digits.1 u.start.notMem_digits.1 h
  exact ⟨Location.digits_injective hstart, Location.digits_injective hstop⟩

/-- A line is read from its end: the places have no quote, so that the last quote is the one behind the
lexeme, and the quote in front of the lexeme is found by the space in front of it. -/
theorem sameLine_of_lineText {q : Char → List Char} (hq : Text.Quotes q) {t u : Token}
    (h : t.lineText q = u.lineText q) : t.SameLine u := by
  obtain ⟨hfront, hplaces⟩ := Text.append_cons_inj_last t.notMem_places.1 u.notMem_places.1 h
  obtain ⟨hkind, hlexeme⟩ := hq.append_quoted_inj hfront
  obtain ⟨hstart, hstop⟩ := places_injective hplaces
  exact ⟨String.toList_inj.mp hkind, String.toList_inj.mp hlexeme, hstart, hstop⟩

end Token

/-! ## All lines -/

/-- The lines of some tokens, where `q` writes the lexemes. -/
def lines (q : Char → List Char) (ts : List Token) : List Char :=
  ts.flatMap fun t => t.lineText q ++ ['\n']

theorem lines_cons (q : Char → List Char) (t : Token) (ts : List Token) :
    lines q (t :: ts) = t.lineText q ++ '\n' :: lines q ts := by
  simp [lines]

theorem lines_cons_ne_nil (q : Char → List Char) (t : Token) (ts : List Token) :
    lines q (t :: ts) ≠ [] := by
  simp [lines_cons]

theorem toList_listing (ts : List Token) : (listing ts).toList = lines Text.quotedChar ts := by
  induction ts with
  | nil => rfl
  | cons t ts ih =>
    have hline : (listing (t :: ts)).toList = t.line.toList ++ (listing ts).toList := by
      simp [listing]
    rw [hline, t.toList_line, ih, lines_cons, List.append_assoc]
    rfl

/-- **Line feeds are counted.** One for each token and those of the names of their kinds. -/
theorem count_listing (ts : List Token) :
    (listing ts).toList.count '\n' =
      ts.length + (ts.flatMap fun t => t.kind.name.toList).count '\n' := by
  induction ts with
  | nil => rfl
  | cons t ts ih =>
    have hline : (listing (t :: ts)).toList = t.line.toList ++ (listing ts).toList := by
      simp [listing]
    rw [hline, List.count_append, t.count_line, ih, List.flatMap_cons, List.count_append,
      List.length_cons]
    omega

/-- Lines tell the tokens apart in whichever way their lexemes are quoted. -/
theorem lines_eq_iff {q : Char → List Char} (hq : Text.Quotes q) (ts us : List Token)
    (ht : ∀ t ∈ ts, '\n' ∉ t.kind.name.toList) (hu : ∀ u ∈ us, '\n' ∉ u.kind.name.toList) :
    lines q ts = lines q us ↔ List.Forall₂ Token.SameLine ts us := by
  constructor
  · intro h
    induction ts generalizing us with
    | nil =>
      cases us with
      | nil => exact .nil
      | cons u us => exact absurd h.symm (lines_cons_ne_nil q u us)
    | cons t ts ih =>
      cases us with
      | nil => exact absurd h (lines_cons_ne_nil q t ts)
      | cons u us =>
        rw [lines_cons, lines_cons] at h
        rw [List.forall_mem_cons] at ht hu
        obtain ⟨hline, hrest⟩ := Text.append_cons_inj_first
          (t.lineFeed_notMem_lineText hq ht.1) (u.lineFeed_notMem_lineText hq hu.1) h
        exact .cons (Token.sameLine_of_lineText hq hline) (ih us ht.2 hu.2 hrest)
  · intro h
    induction h with
    | nil => rfl
    | cons htu _ ih =>
      rw [List.forall_mem_cons] at ht hu
      rw [lines_cons, lines_cons, htu.lineText_eq, ih ht.2 hu.2]

/-- **Listings are unambiguous.** Tokens whose kinds have no line feed in their names are listed in the
same way only if they are the same, but for the difference between a built-in kind and a custom one of
its name. -/
theorem listing_eq_iff (ts us : List Token) (ht : ∀ t ∈ ts, '\n' ∉ t.kind.name.toList)
    (hu : ∀ u ∈ us, '\n' ∉ u.kind.name.toList) :
    listing ts = listing us ↔ List.Forall₂ Token.SameLine ts us := by
  rw [← String.toList_inj, toList_listing, toList_listing]
  exact lines_eq_iff Text.quotes_quotedChar ts us ht hu

/-- A name that imitates a lexeme and places, and a lexeme that imitates the end of a line. -/
theorem listing_eq_iff_imitations :
    (∀ t ∈ [(⟨.custom "a \"b\" @ 0:0-0:1", "c", ⟨0, 0⟩, ⟨0, 1⟩⟩ : Token)],
      '\n' ∉ t.kind.name.toList) ∧
    (∀ u ∈ [(⟨.custom "a", "b\" @ 0:0-0:1 \"c", ⟨0, 0⟩, ⟨0, 1⟩⟩ : Token)],
      '\n' ∉ u.kind.name.toList) ∧
    listing [⟨.custom "a \"b\" @ 0:0-0:1", "c", ⟨0, 0⟩, ⟨0, 1⟩⟩] ≠
      listing [⟨.custom "a", "b\" @ 0:0-0:1 \"c", ⟨0, 0⟩, ⟨0, 1⟩⟩] := by
  have ht : ∀ t ∈ [(⟨.custom "a \"b\" @ 0:0-0:1", "c", ⟨0, 0⟩, ⟨0, 1⟩⟩ : Token)],
      '\n' ∉ t.kind.name.toList := by decide
  have hu : ∀ u ∈ [(⟨.custom "a", "b\" @ 0:0-0:1 \"c", ⟨0, 0⟩, ⟨0, 1⟩⟩ : Token)],
      '\n' ∉ u.kind.name.toList := by decide
  refine ⟨ht, hu, fun h => ?_⟩
  cases (listing_eq_iff _ _ ht hu).mp h with
  | cons hline _ => exact absurd hline.lexeme (by decide)

/-! ## One line for each token -/

/-- Whether a listing has as many lines as it has tokens. -/
def OneLineEach (ts : List Token) : Prop :=
  (listing ts).toList.count '\n' = ts.length

theorem oneLineEach_iff_forall (ts : List Token) :
    OneLineEach ts ↔ ∀ t ∈ ts, '\n' ∉ t.kind.name.toList := by
  have hcount : (ts.flatMap fun t => t.kind.name.toList).count '\n' = 0 ↔
      ∀ t ∈ ts, '\n' ∉ t.kind.name.toList := by
    simp [List.count_eq_zero]
  rw [OneLineEach, count_listing, ← hcount]
  omega

/-- Whether a line feed that nothing claims is a token that has the line feed for its kind. -/
structure Settings.NamesBreaks (s : Settings) : Prop where
  skipped : s.skipWhitespace = true
  seen : s.newlinesAsTokens = true
  unnamed : s.catchAllKind = none

theorem TokenKind.lineFeed_notMem_of_isBuiltin (k : TokenKind) (h : k.isBuiltin = true) :
    '\n' ∉ k.name.toList := by
  cases k with
  | custom n => cases h
  | _ => decide

theorem TokenKind.lineFeed_mem_ofChar (c : Char) (h : '\n' ∈ (ofChar c).name.toList) : c = '\n' := by
  rw [ofChar, name_ofName, String.toList_singleton, List.mem_singleton] at h
  exact h.symm

namespace Lexer

/-- Where a kind with a line feed in its name can come from. -/
def BreaksLine (rules : List Rule) (settings : Settings) (k : TokenKind) : Prop :=
  (∃ r ∈ rules, r.kind = k) ∨ settings.catchAllKind = some k ∨
    settings.NamesBreaks ∧ k = .ofChar '\n'

theorem unclaimedPiece_breaksLine (lx : Lexer) (c : Char) (cs : List Char)
    (hc : lx.settings.isSilent c = false) (hb : lx.whitespacePiece c cs = none)
    (h : '\n' ∈ (lx.unclaimedPiece c).kind.name.toList) :
    BreaksLine lx.rules lx.settings (lx.unclaimedPiece c).kind := by
  cases hk : lx.settings.catchAllKind with
  | some k => exact .inr (.inl (by simp [unclaimedPiece, hk]))
  | none =>
    have hkind : (lx.unclaimedPiece c).kind = .ofChar c := by simp [unclaimedPiece, hk]
    rw [hkind] at h ⊢
    obtain rfl := TokenKind.lineFeed_mem_ofChar c h
    have hblank : Text.isBlank '\n' = true := by decide
    have hskip : lx.settings.skipWhitespace = true := by
      cases hs : lx.settings.skipWhitespace with
      | true => rfl
      | false => simp [whitespacePiece, hblank, hs, whitespaceKind] at hb
    have hseen : lx.settings.newlinesAsTokens = true := by
      simpa [Settings.isSilent, hblank, hskip] using hc
    exact .inr (.inr ⟨⟨hskip, hseen, hk⟩, rfl⟩)

theorem piece_breaksLine (lx : Lexer) (c : Char) (cs : List Char)
    (hc : lx.settings.isSilent c = false) (h : '\n' ∈ (lx.piece c cs).kind.name.toList) :
    BreaksLine lx.rules lx.settings (lx.piece c cs).kind := by
  revert h
  apply lx.piece_kind_of c cs
    fun k => '\n' ∈ k.name.toList → BreaksLine lx.rules lx.settings k
  · intro _ k hk h
    have hblanks : ∀ k ∈ [TokenKind.space, .tab, .carriageReturn, .lineFeed],
        k.isBuiltin = true := by decide
    exact absurd h (k.lineFeed_notMem_of_isBuiltin (hblanks k (whitespaceKind_mem c k hk)))
  · exact fun h => absurd h (by decide)
  · exact fun h => absurd h (by decide)
  · exact fun r hr _ => .inl ⟨r, hr, rfl⟩
  · intro n h
    have hnumbers : ∀ k ∈ TokenKind.numbers, k.isBuiltin = true := by decide
    exact absurd h (n.kind.lineFeed_notMem_of_isBuiltin (hnumbers _ (numeral_kind_mem n)))
  · exact lx.unclaimedPiece_breaksLine c cs hc

theorem breaksLine_of_mem_tokenize (lx : Lexer) (text : String) (t : Token)
    (ht : t ∈ lx.tokenize text) (h : '\n' ∈ t.kind.name.toList) :
    BreaksLine lx.rules lx.settings t.kind := by
  have hm : t ∈ (lx.scan text).allTokens := (lx.tokenize_sublist text).subset ht
  rcases List.mem_append.mp hm with hm | hm
  · obtain ⟨c, hc, hk⟩ := kind_of_mem_tokensFrom _ _ _ t hm
    rw [hk] at h ⊢
    refine lx.forall_cuts (fun d => '\n' ∈ d.piece.kind.name.toList →
      BreaksLine lx.rules lx.settings d.piece.kind) ?_ text.toList c hc h
    intro rest d ds hd
    apply lx.piece_breaksLine d ds
    have hhead := List.head?_dropWhile_not lx.settings.isSilent rest
    simpa [hd] using hhead
  · rw [List.mem_singleton.mp hm, endMarker_kind] at h
    exact absurd h (by decide)

section Rules
variable (rules : List Rule) (settings : Settings) (text : String)

/-- **One line for each token.** A listing has a line for each token and one more for each line feed in
the name of a kind. Such names come from rules, from the kind of unclaimed characters, and from line
feeds that nothing claims where line breaks can be tokens. -/
theorem oneLineEach_iff :
    (OneLineEach ((ofRules rules settings).tokenize text) ↔
      ∀ t ∈ (ofRules rules settings).tokenize text, '\n' ∉ t.kind.name.toList) ∧
    (listing ((ofRules rules settings).tokenize text)).toList.count '\n' =
      ((ofRules rules settings).tokenize text).length +
        (((ofRules rules settings).tokenize text).flatMap fun t => t.kind.name.toList).count '\n' ∧
    ∀ t ∈ (ofRules rules settings).tokenize text, '\n' ∈ t.kind.name.toList →
      BreaksLine rules settings t.kind := by
  refine ⟨oneLineEach_iff_forall _, count_listing _, fun t ht h => ?_⟩
  rcases breaksLine_of_mem_tokenize _ text t ht h with ⟨r, hr, hk⟩ | hrest
  · exact .inl ⟨r, (mem_rules_ofRules rules settings r).mp hr, hk⟩
  · exact .inr hrest

end Rules

/-- A line feed that is a token of its own takes two lines of a listing. -/
theorem not_oneLineEach_lineFeed :
    ¬OneLineEach ((ofRules [] { newlinesAsTokens := true }).tokenize "\n") := by
  have hlisting : listing ((ofRules [] { newlinesAsTokens := true }).tokenize "\n") =
      "\n \"\\n\" @ 0:0-0:0\nEndOfFile \"EndOfFile\" @ 1:0-1:0\n" := by decide +kernel
  have htokens : ((ofRules [] { newlinesAsTokens := true }).tokenize "\n").length = 2 := by
    decide +kernel
  rw [OneLineEach, hlisting, htokens]
  decide

end Lexer

end LexicalRules
