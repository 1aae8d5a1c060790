import LexicalRules.Proofs.Cuts
import Mathlib.Data.List.Forall2

/-! # Places never decide

Kinds and lexemes do not depend on where tokens stand. `Token.Alike` compares tokens without their
places, and `remaining_alike` compares two scans: they give out the same tokens, one by one, if they cut
the text they have left in the same way and keep the same kinds, wherever their carets are. Neither the
way in which characters are counted nor what has been read before has a part in that:
`tokenize_placeFree`.
-/

namespace LexicalRules
set_option autoImplicit false

/-- The same kind and lexeme, wherever the tokens stand. -/
structure Token.Alike (t u : Token) : Prop where
  kind : t.kind = u.kind
  lexeme : t.lexeme = u.lexeme

/-! ## Lists of tokens -/

theorem upToEnd_alike {ts us : List Token} (h : List.Forall₂ Token.Alike ts us) :
    List.Forall₂ Token.Alike (upToEnd ts) (upToEnd us) := by
  induction h with
  | nil => exact .nil
  | cons ht _ ih =>
    simp only [upToEnd, ht.kind]
    split
    · exact .cons ht .nil
    · exact .cons ht ih

theorem filter_alike (p : TokenKind → Bool) {ts us : List Token}
    (h : List.Forall₂ Token.Alike ts us) :
    List.Forall₂ Token.Alike (ts.filter fun t => p t.kind) (us.filter fun t => p t.kind) := by
  apply List.rel_filter _ h
  intro t u htu
  simp only [htu.kind]

theorem tokensFrom_alike (m m' : Metric) (l l' : Location) (cs : List Cut) :
    List.Forall₂ Token.Alike (tokensFrom m l cs) (tokensFrom m' l' cs) := by
  induction cs generalizing l l' with
  | nil => exact .nil
  | cons c cs ih => exact .cons ⟨rfl, rfl⟩ (ih _ _)

/-! ## Two scans -/

namespace Scan
variable (s s' : Scan) (hcuts : s'.lexer.cuts s'.rest = s.lexer.cuts s.rest)
include hcuts

theorem allTokens_alike : List.Forall₂ Token.Alike s.allTokens s'.allTokens := by
  have htokens := tokensFrom_alike s.metric s'.metric s.here s'.here (s.lexer.cuts s.rest)
  have hend : List.Forall₂ Token.Alike [endMarker (s.here.travel s.metric s.rest)]
      [endMarker (s'.here.travel s'.metric s'.rest)] := .cons ⟨rfl, rfl⟩ .nil
  unfold allTokens
  rw [hcuts]
  exact List.rel_append htokens hend

/-- **Two scans side by side.** What a scan gives out is decided by the cuts of the text that is left
and by the kinds that are kept. -/
theorem remaining_alike (hkeeps : s'.keeps = s.keeps) (hf : s.finished = false)
    (hf' : s'.finished = false) : List.Forall₂ Token.Alike s.remaining s'.remaining := by
  rw [s.remaining_eq hf, s'.remaining_eq hf', hkeeps]
  exact upToEnd_alike (filter_alike s.keeps (s.allTokens_alike s' hcuts))

end Scan

namespace Lexer

section Rules
variable (rules : List Rule) (settings : Settings)

theorem cuts_counted (tabSize : Nat) (allOneLine : Bool) (text : List Char) :
    (ofRules rules { settings with tabSize := tabSize, allOneLine := allOneLine }).cuts text =
      (ofRules rules settings).cuts text := by
  apply cuts_congr
  · rfl
  · rfl

/-- **Places never decide.** Settings that count characters in another way give the same kinds and
lexemes, and so does a scan that is begun anew where another one has come to. -/
theorem tokenize_placeFree (text : String) :
    (∀ (tabSize : Nat) (allOneLine : Bool),
      List.Forall₂ Token.Alike ((ofRules rules settings).tokenize text)
        ((ofRules rules { settings with
          tabSize := tabSize, allOneLine := allOneLine }).tokenize text)) ∧
    ∀ (n : Nat) (s : Scan), (((ofRules rules settings).scan text).take n).2 = s →
      s.finished = false →
      List.Forall₂ Token.Alike s.remaining
        ((ofRules rules settings).tokenize (String.ofList s.rest)) := by
  constructor
  · intro tabSize allOneLine
    apply Scan.remaining_alike
    · exact cuts_counted rules settings tabSize allOneLine text.toList
    · rfl
    · rfl
    · rfl
  · intro n s hs hf
    have hlexer : s.lexer = ofRules rules settings := by
      rw [← hs, Scan.take_lexer]
      rfl
    apply Scan.remaining_alike
    · rw [hlexer]
      simp only [scan, String.toList_ofList]
    · funext k
      simp only [Scan.keeps, hlexer]
      rfl
    · exact hf
    · rfl

end Rules

/-- A scan that has come behind a tab and goes on with an unclaimed character. -/
theorem tokenize_placeFree_tab :
    ∃ s, (((ofRules [] {}).scan "a\tb $").take 2).2 = s ∧ s.finished = false ∧
      List.Forall₂ Token.Alike s.remaining
        ((ofRules [] {}).tokenize (String.ofList s.rest)) := by
  have hf : (((ofRules [] {}).scan "a\tb $").take 2).2.finished = false := by decide +kernel
  exact ⟨_, rfl, hf, (tokenize_placeFree [] {} "a\tb $").2 2 _ rfl hf⟩

end Lexer

end LexicalRules
