import LexicalRules.Json.Model
import LexicalRules.Proofs.JsonText
import LexicalRules.Proofs.Records

/-! # Data in JSON is read back

A `Format` is how some data is written and read. It `ReadsBack` if the text that is written for a value
is read as that value, with each kind of token as its name stands for (`TokenKind.standard`): a custom
kind with a built-in name becomes the built-in kind, and nothing else changes. Whatever has been read is
therefore read back as it is. The main statement is that all formats of the library do.
-/

namespace LexicalRules
open Json
set_option autoImplicit false

/-! ## Kinds and their names -/

namespace TokenKind

/-- The kind that the name of `k` stands for. -/
def standard (k : TokenKind) : TokenKind :=
  ofName k.name

def BearsBuiltinName (k : TokenKind) : Prop :=
  ∃ b ∈ builtins, k = custom b.name

@[simp] theorem standard_ofName (n : String) : (ofName n).standard = ofName n := by
  rw [standard, name_ofName]

theorem isBuiltin_of_mem {b : TokenKind} (h : b ∈ builtins) : b.isBuiltin = true := by
  revert b
  decide

theorem standard_eq_self_iff (k : TokenKind) : k.standard = k ↔ ¬k.BearsBuiltinName := by
  constructor
  · rintro h ⟨b, hb, rfl⟩
    have hstandard : (custom b.name).standard = b := b.ofName_name (isBuiltin_of_mem hb)
    have hbuiltin := isBuiltin_of_mem hb
    rw [hstandard] at h
    rw [h] at hbuiltin
    cases hbuiltin
  · intro h
    cases k with
    | custom n =>
      have hnone : builtins.find? (fun b => b.name == n) = none := by
        rw [List.find?_eq_none]
        intro b hb hn
        exact h ⟨b, hb, by rw [beq_iff_eq.mp hn]⟩
      rw [standard, ofName, name, hnone]
      rfl
    | _ => exact ofName_name _ rfl

end TokenKind

/-! ## Values of fields -/

namespace Json

@[simp] theorem ofJson_object (ms : List (String × Json)) :
    Outline.ofJson (.object ms) = .object (Outline.ofMembers ms) none := by
  rw [Outline.ofJson]

@[simp] theorem ofMembers_nil : Outline.ofMembers [] = [] := by
  rw [Outline.ofMembers]

@[simp] theorem ofMembers_cons (k : String) (v : Json) (ms : List (String × Json)) :
    Outline.ofMembers ((k, v) :: ms) = (some k, .ofJson v) :: Outline.ofMembers ms := by
  rw [Outline.ofMembers]

@[simp] theorem ofMembers_append (ms ns : List (String × Json)) :
    Outline.ofMembers (ms ++ ns) = Outline.ofMembers ms ++ Outline.ofMembers ns := by
  induction ms with
  | nil => rw [ofMembers_nil, List.nil_append, List.nil_append]
  | cons m ms ih => rw [List.cons_append, ofMembers_cons, ofMembers_cons, ih, List.cons_append]

@[simp] theorem text_ofJson (s : String) : Reading.text (.ofJson (.string s)) = .ok s := by
  rw [Outline.ofJson, Reading.text]

@[simp] theorem flag_ofJson (b : Bool) : Reading.flag (.ofJson (.bool b)) = .ok b := by
  rw [Outline.ofJson, Reading.flag]

@[simp] theorem letter_ofJson (c : Char) :
    Reading.letter (.ofJson (.string (String.singleton c))) = .ok c := by
  rw [Outline.ofJson]
  simp [Reading.letter]

@[simp] theorem optional_null {α : Type} (r : Reading α) : r.optional (.ofJson .null) = .ok none := by
  rw [Outline.ofJson, Reading.optional]

/-- Where a string is written, something is there. -/
@[simp] theorem optional_string {α : Type} (r : Reading α) (s : String) :
    r.optional (.ofJson (.string s)) = (r (.ofJson (.string s))).map some := by
  rw [Outline.ofJson, Reading.optional]
  simp

theorem digitsValue_digits (n : Nat) : digitsValue (digits n) = n :=
  Nat.ofDigitChars_toDigits (by decide) (by decide)

theorem count_ofJson (n : Nat) (h : n ≤ maxCount) :
    Reading.count (.ofJson (.number n)) = .ok n := by
  have hneg : ¬(n : Int) < 0 := by omega
  simp [Outline.ofJson, Reading.count, Figure.count?, digitsValue_digits, hneg, h]

theorem count_le {v : Outline} {n : Nat} (h : Reading.count v = .ok n) : n ≤ maxCount := by
  unfold Reading.count at h
  split at h
  · split at h
    · rename_i f m hm
      cases h
      unfold Figure.count? at hm
      split at hm
      · rename_i hc
        cases hm
        simp only [Bool.and_eq_true, decide_eq_true_eq] at hc
        exact hc.2
      · cases hm
    · cases h
  · cases h

end Json

theorem TokenKind.reading_string (n : String) :
    TokenKind.reading (.ofJson (.string n)) = .ok (ofName n) := by
  rw [TokenKind.reading, text_ofJson]
  rfl

theorem TokenKind.reading_ofJson (k : TokenKind) :
    TokenKind.reading (.ofJson k.toJson) = .ok k.standard :=
  reading_string k.name

theorem TokenKind.standard_of_reading {v : Outline} {k : TokenKind}
    (h : TokenKind.reading v = .ok k) : k.standard = k := by
  obtain ⟨s, -, rfl⟩ := map_eq_ok_iff.mp h
  exact standard_ofName s

theorem TokenKind.standard_of_optional {v : Outline} {o : Option TokenKind}
    (h : TokenKind.reading.optional v = .ok o) : ∀ k ∈ o, k.standard = k := by
  unfold Reading.optional at h
  split at h
  · cases h
    intro k hk
    cases hk
  · obtain ⟨k, hk, rfl⟩ := map_eq_ok_iff.mp h
    intro l hl
    cases hl
    exact standard_of_reading hk

/-! ## Formats -/

/-- How data is written and read. -/
structure Format (α : Type) where
  toJson : α → Json
  reading : Reading α
  /-- Whether the counts in it have 32 bits, as they are read. -/
  Fits : α → Prop
  kinds : α → List TokenKind
  mapKinds : (TokenKind → TokenKind) → α → α

/-- What is written is read as it was, but for custom kinds that bear built-in names; these become
built-in kinds. What was read bears none. -/
structure Format.ReadsBack {α : Type} (F : Format α) : Prop where
  read_render : ∀ x, F.Fits x →
    Document.read F.reading (F.toJson x).render = .ok (F.mapKinds TokenKind.standard x)
  read_render_iff : ∀ x, F.Fits x →
    (Document.read F.reading (F.toJson x).render = .ok x ↔
      ∀ k ∈ F.kinds x, ¬k.BearsBuiltinName)
  read_render_of_read : ∀ text x, Document.read F.reading text = .ok x →
    Document.read F.reading (F.toJson x).render = .ok x

/-- A format reads back if it does so for outlines, and keeps its promises about kinds and counts. -/
theorem Format.readsBack {α : Type} (F : Format α)
    (hread : ∀ x, F.Fits x → F.reading (.ofJson (F.toJson x)) =
      .ok (F.mapKinds TokenKind.standard x))
    (hkinds : ∀ x, F.mapKinds TokenKind.standard x = x ↔ ∀ k ∈ F.kinds x, k.standard = k)
    (hfits : ∀ v x, F.reading v = .ok x → F.Fits x ∧ F.mapKinds TokenKind.standard x = x) :
    F.ReadsBack := by
  have hrender : ∀ x, F.Fits x →
      Document.read F.reading (F.toJson x).render = .ok (F.mapKinds TokenKind.standard x) := by
    intro x hx
    rw [Document.read_of_ofText _ _ _ (Document.ofText_render (F.toJson x))]
    exact hread x hx
  refine ⟨hrender, ?_, ?_⟩
  · intro x hx
    rw [hrender x hx, Except.ok.injEq, hkinds x]
    simp only [TokenKind.standard_eq_self_iff]
  · intro text x h
    obtain ⟨hx, hstandard⟩ := hfits _ x (Document.reading_of_read h)
    rw [hrender x hx, hstandard]

/-! ## Locations and kinds -/

def Location.Fits (l : Location) : Prop :=
  l.line ≤ maxCount ∧ l.column ≤ maxCount

theorem Location.reading_ofJson (l : Location) (h : l.Fits) :
    Location.reading (.ofJson l.toJson) = .ok l := by
  simp [Location.reading, Location.shape, Location.toJson, Shape.read, Shape.ofMembers,
    Shape.complete, Field.of, Except.map, count_ofJson _ h.1, count_ofJson _ h.2]

theorem Location.fits_of_reading {v : Outline} {l : Location} (h : Location.reading v = .ok l) :
    l.Fits := by
  refine Shape.read_keeps Location.Fits ?_ v h ⟨Nat.zero_le _, Nat.zero_le _⟩
  simp only [Location.shape, List.forall_mem_cons, List.not_mem_nil, false_imp_iff, implies_true,
    and_true]
  refine ⟨Field.keeps_of ?_, Field.keeps_of ?_⟩
  · intro v n hn l hl
    exact ⟨count_le hn, hl.2⟩
  · intro v n hn l hl
    exact ⟨hl.1, count_le hn⟩

def Location.format : Format Location where
  toJson := Location.toJson
  reading := Location.reading
  Fits := Location.Fits
  kinds _ := []
  mapKinds _ l := l

theorem Location.format_readsBack : Location.format.ReadsBack := by
  refine Location.format.readsBack Location.reading_ofJson ?_ ?_
  · intro l
    simp [Location.format]
  · intro v l h
    exact ⟨Location.fits_of_reading h, rfl⟩

def TokenKind.format : Format TokenKind where
  toJson := TokenKind.toJson
  reading := TokenKind.reading
  Fits _ := True
  kinds k := [k]
  mapKinds change k := change k

theorem TokenKind.format_readsBack : TokenKind.format.ReadsBack := by
  refine TokenKind.format.readsBack (fun k _ => TokenKind.reading_ofJson k) ?_ ?_
  · intro k
    simp [TokenKind.format]
  · intro v k h
    exact ⟨trivial, TokenKind.standard_of_reading h⟩

/-! ## Tokens -/

def Token.format : Format Token where
  toJson := Token.toJson
  reading := Token.reading
  Fits t := t.start.Fits ∧ t.stop.Fits
  kinds t := [t.kind]
  mapKinds change t := { t with kind := change t.kind }

theorem Token.reading_ofJson (t : Token) (h : Token.format.Fits t) :
    Token.reading (.ofJson t.toJson) = .ok { t with kind := t.kind.standard } := by
  simp [Token.reading, Token.shape, Token.toJson, Shape.read, Shape.ofMembers, Shape.complete,
    Field.of, Except.map, TokenKind.reading_ofJson, Location.reading_ofJson _ h.1,
    Location.reading_ofJson _ h.2]

theorem Token.fits_of_reading {v : Outline} {t : Token} (h : Token.reading v = .ok t) :
    Token.format.Fits t ∧ t.kind.standard = t.kind := by
  have horigin : Location.origin.Fits := ⟨Nat.zero_le _, Nat.zero_le _⟩
  refine Shape.read_keeps (fun t => Token.format.Fits t ∧ t.kind.standard = t.kind) ?_ v h
    ⟨⟨horigin, horigin⟩, by decide⟩
  simp only [Token.shape, List.forall_mem_cons, List.not_mem_nil, false_imp_iff, implies_true,
    and_true]
  refine ⟨Field.keeps_of ?_, Field.keeps_of ?_, Field.keeps_of ?_, Field.keeps_of ?_⟩
  · intro v k hk t ht
    exact ⟨ht.1, TokenKind.standard_of_reading hk⟩
  · intro v s hs t ht
    exact ht
  · intro v l hl t ht
    exact ⟨⟨Location.fits_of_reading hl, ht.1.2⟩, ht.2⟩
  · intro v l hl t ht
    exact ⟨⟨ht.1.1, Location.fits_of_reading hl⟩, ht.2⟩

theorem Token.format_readsBack : Token.format.ReadsBack := by
  refine Token.format.readsBack Token.reading_ofJson ?_ ?_
  · rintro ⟨k, s, start, stop⟩
    simp [Token.format]
  · intro v t h
    obtain ⟨hfits, hkind⟩ := Token.fits_of_reading h
    refine ⟨hfits, ?_⟩
    simp only [Token.format, hkind]

/-! ## Settings -/

def Settings.format : Format Settings where
  toJson := Settings.toJson
  reading := Settings.reading
  Fits s := s.tabSize ≤ maxCount
  kinds s := s.catchAll.toList
  mapKinds change s := { s with catchAll := s.catchAll.map change }

theorem Settings.reading_ofJson (s : Settings) (h : Settings.format.Fits s) :
    Settings.reading (.ofJson s.toJson) =
      .ok { s with catchAll := s.catchAll.map TokenKind.standard } := by
  cases hc : s.catchAll <;>
    simp [Settings.reading, Settings.shape, Settings.toJson, Shape.read, Shape.ofMembers,
      Shape.complete, Field.of, Except.map, TokenKind.toJson, TokenKind.reading_string,
      TokenKind.standard, count_ofJson _ h, hc]

theorem Settings.fits_of_reading {v : Outline} {s : Settings} (h : Settings.reading v = .ok s) :
    Settings.format.Fits s ∧ ∀ k ∈ s.catchAll, k.standard = k := by
  refine Shape.read_keeps
    (fun s => Settings.format.Fits s ∧ ∀ k ∈ s.catchAll, k.standard = k) ?_ v h
    ⟨show 4 ≤ maxCount by decide, nofun⟩
  simp only [Settings.shape, List.forall_mem_cons, List.not_mem_nil, false_imp_iff, implies_true,
    and_true]
  refine ⟨?_, ?_, Field.keeps_of ?_, ?_, ?_, ?_, ?_, ?_, ?_, ?_, Field.keeps_of ?_, ?_⟩
  case refine_3 =>
    intro v o ho s hs
    exact ⟨hs.1, TokenKind.standard_of_optional ho⟩
  case refine_11 =>
    intro v n hn s hs
    exact ⟨count_le hn, hs.2⟩
  -- the other fields are neither counts nor kinds
  all_goals exact Field.keeps_of fun _ _ _ _ hs => hs

theorem Settings.mapKinds_eq_self (s : Settings) :
    Settings.format.mapKinds TokenKind.standard s = s ↔ ∀ k ∈ s.catchAll, k.standard = k := by
  rcases s with ⟨included, starters, catchAll⟩
  cases catchAll with
  | none => simp [Settings.format]
  | some k => simp [Settings.format]

theorem Settings.format_readsBack : Settings.format.ReadsBack := by
  refine Settings.format.readsBack Settings.reading_ofJson ?_ ?_
  · intro s
    rw [Settings.mapKinds_eq_self]
    simp [Settings.format]
  · intro v s h
    obtain ⟨hfits, hkinds⟩ := Settings.fits_of_reading h
    exact ⟨hfits, s.mapKinds_eq_self.mpr hkinds⟩

/-! ## Rules -/

namespace RuleEntry

theorem textMember_optional {k s : String} {set : RuleEntry → String → RuleEntry} {e : RuleEntry}
    (he : set e "" = e) :
    (∃ v change, Outline.ofMembers (textMember k s) = [(some k, v)] ∧
      (Field.of k false Reading.text set).put v = .ok change ∧ change e = set e s) ∨
    (Outline.ofMembers (textMember k s) = [] ∧ e = set e s) := by
  unfold textMember
  by_cases hs : s = ""
  · rw [if_pos hs, hs, he]
    exact .inr ⟨ofMembers_nil, rfl⟩
  · rw [if_neg hs, ofMembers_cons, ofMembers_nil]
    exact .inl ⟨_, _, rfl, Field.put_of (text_ofJson s), rfl⟩

theorem reading_members (e : RuleEntry) :
    shape.read ⟨.fallback, "", none, "", "", false⟩ (.ofJson (.object e.members)) =
      .ok { e with kind := e.kind.standard } := by
  obtain ⟨kind, text, replacement, left, right, ignoreCase⟩ := e
  simp only [members, ofJson_object, ofMembers_append, List.append_assoc, ofMembers_cons,
    Shape.read, List.cons_append]
  rw [Shape.ofMembers_of_takes (.field "kind" _ _ _ rfl List.not_mem_nil
      (Field.put_of (TokenKind.reading_ofJson kind))),
    Shape.ofMembers_of_takes (.field "text" _ _ _ rfl (by decide)
      (Field.put_of (text_ofJson text))),
    ofMembers_nil, List.nil_append, ← List.append_nil (Outline.ofMembers (ite _ _ _))]
  -- the other members one after the other, each with the entry as it is behind it
  refine Shape.ofMembers_optional "replacement" ⟨kind.standard, text, replacement, "", "", false⟩
    rfl (List.Subset.refl _) (by decide) ?_ fun seen₁ hsub₁ hnames₁ => ?_
  · cases replacement with
    | none => exact .inr ⟨ofMembers_nil, rfl⟩
    | some s =>
      refine .inl ⟨.ofJson (.string s), _, by simp, Field.put_of (a := some s) ?_, rfl⟩
      rw [optional_string, text_ofJson]
      rfl
  refine Shape.ofMembers_optional "left" ⟨kind.standard, text, replacement, left, "", false⟩
    rfl hnames₁ (by decide) (textMember_optional rfl) fun seen₂ hsub₂ hnames₂ => ?_
  refine Shape.ofMembers_optional "right" ⟨kind.standard, text, replacement, left, right, false⟩
    rfl hnames₂ (by decide) (textMember_optional rfl) fun seen₃ hsub₃ hnames₃ => ?_
  refine Shape.ofMembers_optional "ignore_case"
    ⟨kind.standard, text, replacement, left, right, ignoreCase⟩ rfl hnames₃ (by decide) ?_
    fun seen₄ hsub₄ _ => ?_
  · cases ignoreCase with
    | false => exact .inr ⟨ofMembers_nil, rfl⟩
    | true => exact .inl ⟨.ofJson (.bool true), _, by simp, Field.put_of (flag_ofJson true), rfl⟩
  have hkind : "kind" ∈ seen₄ := hsub₄ (hsub₃ (hsub₂ (hsub₁ (by decide))))
  have hcomplete : shape.complete seen₄ = true := by
    simp [Shape.complete, shape, Field.of, hkind]
  exact Shape.ofMembers_nil_ok.mpr ⟨rfl, hcomplete, rfl⟩

/-- The rule of what is written about `r`, with any kind. -/
theorem rule_ofRule (r : Rule) (k : TokenKind) :
    rule { ofRule r with kind := k } = { r with kind := k } := by
  obtain ⟨kind, text, replacement, left, right, ignoreCase, hright⟩ := r
  have hclosing : Rule.closing left right = right := by
    unfold Rule.closing
    by_cases hr : right = ""
    · have hl : left = "" := by
        by_contra hl
        exact hright hl hr
      rw [if_pos hr, hl, hr]
    · rw [if_neg hr]
  by_cases hreplacement : replacement = text
  · simp [rule, ofRule, hreplacement, Rule.literal, Rule.enclosedBy, Rule.ignoringCase, hclosing]
  · simp [rule, ofRule, hreplacement, Rule.literal, Rule.enclosedBy, Rule.ignoringCase,
      Rule.withReplacement, hclosing]

end RuleEntry

theorem Rule.reading_ofJson (r : Rule) :
    Rule.reading (.ofJson r.toJson) = .ok { r with kind := r.kind.standard } := by
  exact map_eq_ok_iff.mpr ⟨_, RuleEntry.reading_members (RuleEntry.ofRule r),
    RuleEntry.rule_ofRule r r.kind.standard⟩

theorem Rule.standard_of_reading {v : Outline} {r : Rule} (h : Rule.reading v = .ok r) :
    r.kind.standard = r.kind := by
  obtain ⟨e, he, rfl⟩ := map_eq_ok_iff.mp h
  have hkind : e.kind.standard = e.kind := by
    refine Shape.read_keeps (fun e => e.kind.standard = e.kind) ?_ v he (by decide)
    simp only [RuleEntry.shape, List.forall_mem_cons, List.not_mem_nil, false_imp_iff,
      implies_true, and_true]
    refine ⟨Field.keeps_of fun _ _ hk _ _ => TokenKind.standard_of_reading hk, ?_, ?_, ?_, ?_, ?_⟩
    -- the other fields leave the kind alone
    all_goals exact Field.keeps_of fun _ _ _ _ hk => hk
  obtain ⟨kind, text, replacement, left, right, ignoreCase⟩ := e
  cases replacement with
  | none => exact hkind
  | some s => exact hkind

def Rule.format : Format Rule where
  toJson := Rule.toJson
  reading := Rule.reading
  Fits _ := True
  kinds r := [r.kind]
  mapKinds change r := { r with kind := change r.kind }

theorem Rule.format_readsBack : Rule.format.ReadsBack := by
  refine Rule.format.readsBack (fun r _ => Rule.reading_ofJson r) ?_ ?_
  · rintro ⟨k, text, replacement, left, right, ignoreCase, hright⟩
    simp [Rule.format]
  · intro v r h
    refine ⟨trivial, ?_⟩
    simp only [Rule.format, Rule.standard_of_reading h]

/-! ## All formats -/

/-- **Locations, kinds, tokens, settings and rules are read back.** -/
theorem formats_readBack :
    Location.format.ReadsBack ∧ TokenKind.format.ReadsBack ∧ Token.format.ReadsBack ∧
      Settings.format.ReadsBack ∧ Rule.format.ReadsBack :=
  ⟨Location.format_readsBack, TokenKind.format_readsBack, Token.format_readsBack,
    Settings.format_readsBack, Rule.format_readsBack⟩

/-- A custom kind that bears the name of words comes back as the kind of words; a rule with a left
delimiter only comes back as it is. -/
theorem formats_readBack_wordToken :
    Document.read Token.format.reading
        (Token.format.toJson ⟨.custom "Word", "a", ⟨0, 0⟩, ⟨0, 1⟩⟩).render =
      .ok ⟨.word, "a", ⟨0, 0⟩, ⟨0, 1⟩⟩ ∧
    Document.read Rule.format.reading
        (Rule.format.toJson (.enclosed .string "'" "")).render = .ok (.enclosed .string "'" "") := by
  obtain ⟨-, -, htoken, -, hrule⟩ := formats_readBack
  have hfits : Token.format.Fits ⟨.custom "Word", "a", ⟨0, 0⟩, ⟨0, 1⟩⟩ :=
    ⟨⟨by decide, by decide⟩, ⟨by decide, by decide⟩⟩
  have hstandard : ∀ k ∈ Rule.format.kinds (.enclosed .string "'" ""), ¬k.BearsBuiltinName := by
    intro k hk
    rw [← TokenKind.standard_eq_self_iff, List.mem_singleton.mp hk]
    decide
  exact ⟨htoken.read_render _ hfits, (hrule.read_render_iff _ trivial).mpr hstandard⟩

end LexicalRules
