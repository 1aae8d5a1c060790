import LexicalRules.Proofs.Coverage
import LexicalRules.Proofs.OneEnd

/-! # What settings leave out

Comments that are not kept, and white space that is skipped, are left out of a scan and change nothing
else in it. `tokenize_without_comments` and `tokenize_without_blanks` say so: what is given out without
them is what is given out with them, less their tokens, every other token in its place. Comments are
cut off the text in either case, so that only the last step differs. White space is not, for it goes
into the gaps where it is skipped: `tokensFrom_skipping` follows two scans through the text.
-/

namespace LexicalRules
set_option autoImplicit false

namespace TokenKind

/-- The kinds of white space characters that are tokens by themselves. -/
def blanks : List TokenKind :=
  [space, tab, carriageReturn, lineFeed]

theorem not_isComment (k : TokenKind) :
    (!k.isComment) = decide (k ≠ .endOfLineComment ∧ k ≠ .multiLineComment) := by
  cases k <;> simp [isComment]

end TokenKind

/-- A filter that keeps the kind `endOfFile` may come before or after the cut at the first such token. -/
theorem upToEnd_filter (p : Token → Bool) (hp : ∀ t, t.kind = .endOfFile → p t = true)
    (ts : List Token) : upToEnd (ts.filter p) = (upToEnd ts).filter p := by
  induction ts with
  | nil => rfl
  | cons t ts ih =>
    by_cases hk : t.kind = .endOfFile
    · simp [upToEnd, hk, hp t hk]
    · cases ht : p t with
      | true => simp [upToEnd, hk, ht, ih]
      | false => simp [upToEnd, hk, ht, ih]

namespace Lexer

/-! ## Comments -/

/-- The lexer, keeping comments or not. -/
def keeping (lx : Lexer) (b : Bool) : Lexer :=
  { lx with settings := { lx.settings with commentsAsTokens := b } }

section Comments
variable (lx : Lexer) (text : String)

theorem allTokens_keeping (b : Bool) :
    ((lx.keeping b).scan text).allTokens = (lx.scan text).allTokens :=
  lx.allTokens_congr (lx.keeping b) rfl rfl rfl text

theorem tokenize_keeping_true :
    (lx.keeping true).tokenize text = upToEnd (lx.scan text).allTokens := by
  have hkeeps : ∀ t ∈ (lx.scan text).allTokens,
      ((lx.keeping true).scan text).keeps t.kind = true :=
    fun t _ => keeps_of_commentsAsTokens _ rfl t.kind
  rw [tokenize, Scan.remaining_eq _ rfl, allTokens_keeping, List.filter_eq_self.mpr hkeeps]

theorem tokenize_keeping_false :
    (lx.keeping false).tokenize text =
      upToEnd ((lx.scan text).allTokens.filter
        fun t => t.kind ≠ .endOfLineComment ∧ t.kind ≠ .multiLineComment) := by
  have hkeeps : ∀ t ∈ (lx.scan text).allTokens, ((lx.keeping false).scan text).keeps t.kind =
      decide (t.kind ≠ .endOfLineComment ∧ t.kind ≠ .multiLineComment) :=
    fun t _ => t.kind.not_isComment
  rw [tokenize, Scan.remaining_eq _ rfl, allTokens_keeping, List.filter_congr hkeeps]

end Comments

/-! ## White space -/

/-- The lexer, skipping white space or not. -/
def skipping (lx : Lexer) (b : Bool) : Lexer :=
  { lx with settings := { lx.settings with skipWhitespace := b } }

/-! The first character of a text either goes into the gap of the first cut, or the cut starts there. -/

theorem tokensFrom_of_silent (lx : Lexer) (m : Metric) (l : Location) (c : Char) (cs : List Char)
    (h : lx.settings.isSilent c = true) :
    tokensFrom m l (lx.cuts (c :: cs)) = tokensFrom m (l.after m c) (lx.cuts cs) := by
  have hg : ∀ x ∈ [c], lx.settings.isSilent x = true := by simpa using h
  have hc := lx.cuts_append_silent [c] cs hg
  rw [List.singleton_append] at hc
  rw [hc, tokensFrom_withGap, Location.travel_cons, Location.travel_nil]

theorem cuts_of_not_silent (lx : Lexer) (c : Char) (cs : List Char)
    (h : lx.settings.isSilent c = false) :
    lx.cuts (c :: cs) = ⟨[], (c :: cs).take (lx.piece c cs).size, lx.piece c cs⟩ ::
      lx.cuts ((c :: cs).drop (lx.piece c cs).size) := by
  have hd : (c :: cs).dropWhile lx.settings.isSilent = c :: cs := by simp [h]
  have hg : (c :: cs).takeWhile lx.settings.isSilent = [] := by simp [h]
  rw [lx.cuts_of_cons (c :: cs) c cs hd, cutAt, hg]

section Skipping
variable (lx : Lexer)

theorem isSilent_skipping (hn : lx.settings.newlinesAsTokens = false) (c : Char) :
    (lx.skipping true).settings.isSilent c = (c == '\x00' || Text.isBlank c) ∧
      (lx.skipping false).settings.isSilent c = (c == '\x00') := by
  simp [skipping, Settings.isSilent, hn]

theorem piece_skipping (b : Bool) (c : Char) (cs : List Char) (h : Text.isBlank c = false) :
    (lx.skipping b).piece c cs = lx.piece c cs := by
  have hs : (lx.skipping b).whitespacePiece c cs = none := by simp [whitespacePiece, h]
  have hl : lx.whitespacePiece c cs = none := by simp [whitespacePiece, h]
  unfold piece
  rw [hs, hl]
  rfl

theorem piece_of_blank (c : Char) (cs : List Char) (h : c ∈ [' ', '\t', '\r', '\n']) :
    ∃ k ∈ TokenKind.blanks, (lx.skipping false).piece c cs = ⟨k, [c], 1, false⟩ := by
  simp only [List.mem_cons, List.not_mem_nil, or_false] at h
  rcases h with rfl | rfl | rfl | rfl
  · exact ⟨.space, by decide, rfl⟩
  · exact ⟨.tab, by decide, rfl⟩
  · exact ⟨.carriageReturn, by decide, rfl⟩
  · exact ⟨.lineFeed, by decide, rfl⟩

/-- No rule makes white space tokens, and no kind of unclaimed characters is one of theirs. -/
structure NoBlankKinds : Prop where
  rule : ∀ r ∈ lx.rules, r.kind ∉ TokenKind.blanks
  catchAll : ∀ k, lx.settings.catchAllKind = some k → k ∉ TokenKind.blanks

end Skipping

namespace NoBlankKinds
variable {lx : Lexer} (h : lx.NoBlankKinds)
include h

theorem unclaimedPiece_kind (c : Char) : (lx.unclaimedPiece c).kind ∉ TokenKind.blanks := by
  intro hm
  have hname : ∀ k ∈ TokenKind.blanks, k.name.length ≠ 1 := by decide
  exact lx.unclaimedPiece_kind_ne (hname _ hm) (fun hk => h.catchAll _ hk hm) c rfl

theorem piece_kind (c : Char) (cs : List Char) (hc : Text.isBlank c = false) :
    (lx.piece c cs).kind ∉ TokenKind.blanks := by
  apply lx.piece_kind_of c cs (· ∉ TokenKind.blanks)
  · intro hb
    rw [hc] at hb
    cases hb
  · decide
  · decide
  · exact h.rule
  · intro n
    have hnumbers : ∀ k ∈ TokenKind.numbers, k ∉ TokenKind.blanks := by decide
    exact hnumbers _ (numeral_kind_mem n)
  · exact fun _ => h.unclaimedPiece_kind c

/-- **White space, character by character.** Along a text whose white space has kinds, the tokens where
it is skipped are those where it is not, less its own. -/
theorem tokensFrom_skipping (hn : lx.settings.newlinesAsTokens = false) (m : Metric) :
    ∀ (l : Location) (text : List Char),
    (∀ c ∈ text, Text.isBlank c = true → c ∈ [' ', '\t', '\r', '\n']) →
    tokensFrom m l ((lx.skipping true).cuts text) =
      (tokensFrom m l ((lx.skipping false).cuts text)).filter fun t => t.kind ∉ TokenKind.blanks
  | l, [], _ => by
    rw [cuts_of_nil _ [] rfl, cuts_of_nil _ [] rfl]
    rfl
  | l, c :: cs, ht => by
    obtain ⟨hskip, hkeep⟩ := lx.isSilent_skipping hn c
    have hcs : ∀ d ∈ cs, Text.isBlank d = true → d ∈ [' ', '\t', '\r', '\n'] :=
      fun d hd => ht d (List.mem_cons_of_mem c hd)
    by_cases hnul : c = '\x00'
    · -- A NUL goes into the gap of both scans.
      subst hnul
      rw [tokensFrom_of_silent _ m l _ cs (by simp [hskip]),
        tokensFrom_of_silent _ m l _ cs (by simp [hkeep])]
      exact tokensFrom_skipping hn m _ cs hcs
    · have hkept : (lx.skipping false).settings.isSilent c = false := by simp [hkeep, hnul]
      rw [cuts_of_not_silent _ c cs hkept]
      cases hb : Text.isBlank c with
      | true =>
        -- White space goes into the gap of the one and is a token of the other.
        obtain ⟨k, hk, hpiece⟩ := lx.piece_of_blank c cs (ht c List.mem_cons_self hb)
        rw [tokensFrom_of_silent _ m l c cs (by simp [hskip, hb]), hpiece, tokensFrom,
          List.filter_cons_of_neg]
        · exact tokensFrom_skipping hn m _ cs hcs
        · simpa [Cut.token] using hk
      | false =>
        -- All else is cut off alike.
        have hsize := lx.piece_size_pos c cs
        have hsame : (lx.skipping true).settings.isSilent c = false := by simp [hskip, hnul, hb]
        rw [cuts_of_not_silent _ c cs hsame, lx.piece_skipping true c cs hb,
          lx.piece_skipping false c cs hb, tokensFrom, tokensFrom, List.filter_cons_of_pos]
        · congr 1
          apply tokensFrom_skipping hn m
          exact fun d hd => ht d (List.mem_of_mem_drop hd)
        · exact decide_eq_true (h.piece_kind c cs hb)
termination_by _ text => text.length
decreasing_by
  all_goals
    simp only [List.length_drop, List.length_cons]
    omega

theorem allTokens_skipping (hn : lx.settings.newlinesAsTokens = false) (text : String)
    (ht : ∀ c ∈ text.toList, Text.isBlank c = true → c ∈ [' ', '\t', '\r', '\n']) :
    ((lx.skipping true).scan text).allTokens =
      ((lx.skipping false).scan text).allTokens.filter fun t => t.kind ∉ TokenKind.blanks := by
  have htokens := h.tokensFrom_skipping hn lx.settings.metric .origin text.toList ht
  have hend : ([endMarker (Location.origin.travel lx.settings.metric text.toList)].filter
      fun t => t.kind ∉ TokenKind.blanks) =
        [endMarker (Location.origin.travel lx.settings.metric text.toList)] := by
    simp [TokenKind.blanks]
  unfold Scan.allTokens
  rw [List.filter_append]
  exact congrArg₂ (· ++ ·) htokens hend.symm

end NoBlankKinds

section Rules
variable (rules : List Rule) (settings : Settings)

/-- **Comments are filtered out.** The tokens without comments are those with comments that are none,
and the last token is the same. -/
theorem tokenize_without_comments (text : String) :
    (ofRules rules { settings with commentsAsTokens := false }).tokenize text =
      ((ofRules rules { settings with commentsAsTokens := true }).tokenize text).filter
        (fun t => t.kind ≠ .endOfLineComment ∧ t.kind ≠ .multiLineComment) ∧
    ((ofRules rules { settings with commentsAsTokens := false }).tokenize text).getLast? =
      ((ofRules rules { settings with commentsAsTokens := true }).tokenize text).getLast? := by
  have htrue := (ofRules rules settings).tokenize_keeping_true text
  have hfalse := (ofRules rules settings).tokenize_keeping_false text
  rw [upToEnd_filter _ (by simp +contextual), ← htrue] at hfalse
  refine ⟨hfalse, ?_⟩
  -- The last token is of kind `endOfFile`, which no filter of comments takes away.
  obtain ⟨ts, e, hts, he, -⟩ :=
    (((ofRules rules settings).keeping true).scan text).remaining_eq_append_end rfl
  have hall : ((ofRules rules settings).keeping true).tokenize text = ts ++ [e] := hts
  rw [hall, List.filter_append, List.filter_cons_of_pos (by simp [he]), List.filter_nil] at hfalse
  calc (((ofRules rules settings).keeping false).tokenize text).getLast?
      = some e := by rw [hfalse, List.getLast?_concat]
    _ = (((ofRules rules settings).keeping true).tokenize text).getLast? := by
      rw [hall, List.getLast?_concat]

/-- **White space is filtered out.** If nothing but white space has its kinds, the tokens of a text
where it is skipped are those where it is not that have other kinds. -/
theorem tokenize_without_blanks (text : String)
    (hrules : ∀ r ∈ rules, r.kind ∉ TokenKind.blanks)
    (hcatch : ∀ k, settings.catchAllKind = some k → k ∉ TokenKind.blanks)
    (hlines : settings.newlinesAsTokens = false)
    (htext : ∀ c ∈ text.toList, Text.isBlank c = true → c ∈ [' ', '\t', '\r', '\n']) :
    (ofRules rules { settings with skipWhitespace := true }).tokenize text =
      ((ofRules rules { settings with skipWhitespace := false }).tokenize text).filter
        fun t => t.kind ∉ TokenKind.blanks := by
  have hkinds : (ofRules rules settings).NoBlankKinds :=
    ⟨fun r hr => hrules r ((mem_rules_ofRules rules settings r).mp hr), hcatch⟩
  have hall : ((ofRules rules { settings with skipWhitespace := true }).scan text).allTokens =
      ((ofRules rules { settings with skipWhitespace := false }).scan text).allTokens.filter
        fun t => t.kind ∉ TokenKind.blanks :=
    hkinds.allTokens_skipping hlines text htext
  -- The kinds that are kept are the same, and the order of two filters does not matter.
  rw [tokenize, tokenize, Scan.remaining_eq _ rfl, Scan.remaining_eq _ rfl, ← upToEnd_filter, hall,
    List.filter_filter, List.filter_filter]
  · congr 1
    apply List.filter_congr
    intro t _
    exact Bool.and_comm _ _
  · intro t ht
    simp [ht, TokenKind.blanks]

end Rules

/-- Rules whose patterns and bodies hold white space. -/
def spacedRules : List Rule :=
  [.enclosed .string "\"" "\"", .literal .endOfLineComment "# "]

/-- White space between tokens, in a word, in a string and in a comment. -/
def spacedText : String :=
  "a b\t\"c d\"\r\n# e $"

theorem tokenize_without_blanks_spacedText :
    (∀ r ∈ spacedRules, r.kind ∉ TokenKind.blanks) ∧
    (∀ k, ({ wordIncluded := " " } : Settings).catchAllKind = some k → k ∉ TokenKind.blanks) ∧
    ({ wordIncluded := " " } : Settings).newlinesAsTokens = false ∧
    (∀ c ∈ spacedText.toList, Text.isBlank c = true → c ∈ [' ', '\t', '\r', '\n']) ∧
    (ofRules spacedRules { wordIncluded := " ", skipWhitespace := true }).tokenize spacedText =
      ((ofRules spacedRules { wordIncluded := " ", skipWhitespace := false }).tokenize
        spacedText).filter fun t => t.kind ∉ TokenKind.blanks := by
  have hrules : ∀ r ∈ spacedRules, r.kind ∉ TokenKind.blanks := by decide
  have hcatch : ∀ k, ({ wordIncluded := " " } : Settings).catchAllKind = some k →
      k ∉ TokenKind.blanks := by
    intro k hk
    cases hk
  have hall : (spacedText.toList.all fun c =>
      !Text.isBlank c || [' ', '\t', '\r', '\n'].contains c) = true := by decide
  have htext : ∀ c ∈ spacedText.toList,
      Text.isBlank c = true → c ∈ [' ', '\t', '\r', '\n'] := by
    intro c hc hb
    simpa [hb] using List.all_eq_true.mp hall c hc
  exact ⟨hrules, hcatch, rfl, htext,
    tokenize_without_blanks spacedRules { wordIncluded := " " } spacedText hrules hcatch rfl htext⟩

end Lexer

end LexicalRules
