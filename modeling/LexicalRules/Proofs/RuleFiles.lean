import LexicalRules.RuleFile
import LexicalRules.Proofs.ReadBack
import LexicalRules.Proofs.Records

/-! # What a rule file depends on

A rule file is three records within each other: its sections, its settings and its rules. The fields of
each are independent, so the order of members does not matter, and settings and rules may have other
members, which the sections may not. `RuleFile.Rewrites` relates the members of two rule files that say
the same; the main statement `RuleFile.parse_of_members` is about all texts with such members.
-/

namespace LexicalRules
open Json
set_option autoImplicit false

/-! ## Independence -/

theorem Settings.shape_independent : Settings.shape.Independent := by
  unfold Shape.Independent Settings.shape
  simp only [List.pairwise_cons, List.forall_mem_cons, List.not_mem_nil, false_imp_iff,
    implies_true, and_true, List.Pairwise.nil]
  repeat' constructor
  all_goals exact Field.commutes_of fun _ _ _ => rfl

theorem RuleEntry.shape_independent : RuleEntry.shape.Independent := by
  unfold Shape.Independent RuleEntry.shape
  simp only [List.pairwise_cons, List.forall_mem_cons, List.not_mem_nil, false_imp_iff,
    implies_true, and_true, List.Pairwise.nil]
  repeat' constructor
  all_goals exact Field.commutes_of fun _ _ _ => rfl

theorem RuleFile.shape_independent : RuleFile.shape.Independent := by
  unfold Shape.Independent RuleFile.shape
  simp only [List.pairwise_cons, List.forall_mem_cons, List.not_mem_nil, false_imp_iff,
    implies_true, and_true, List.Pairwise.nil]
  exact Field.commutes_of fun _ _ _ => rfl

/-! ## Settings and rules with other members -/

theorem Settings.reading_of_widens {v w : Outline} {s : Settings} (hw : Settings.shape.Widens v w)
    (h : Settings.reading v = .ok s) : Settings.reading w = .ok s :=
  Shape.read_of_widens Settings.shape_independent rfl hw h

theorem Rule.reading_of_widens {v w : Outline} {r : Rule} (hw : RuleEntry.shape.Widens v w)
    (h : Rule.reading v = .ok r) : Rule.reading w = .ok r := by
  obtain ⟨e, he, hrule⟩ := map_eq_ok_iff.mp h
  have hentry := Shape.read_of_widens RuleEntry.shape_independent rfl hw he
  exact map_eq_ok_iff.mpr ⟨e, hentry, hrule⟩

/-! ## What settings are without their members -/

/-- The settings that none of `names` names have their defaults. -/
structure Settings.DefaultBeside (names : List (Option String)) (s : Settings) : Prop where
  wordIncluded : some "word_included" ∉ names → s.wordIncluded = ({} : Settings).wordIncluded
  wordStarters : some "word_starters" ∉ names → s.wordStarters = ({} : Settings).wordStarters
  catchAll : some "catch_all" ∉ names → s.catchAll = ({} : Settings).catchAll
  skipWhitespace : some "skip_whitespace" ∉ names →
    s.skipWhitespace = ({} : Settings).skipWhitespace
  commentsAsTokens : some "comments_as_tokens" ∉ names →
    s.commentsAsTokens = ({} : Settings).commentsAsTokens
  ignoreCase : some "ignore_case" ∉ names → s.ignoreCase = ({} : Settings).ignoreCase
  allOneLine : some "all_one_line" ∉ names → s.allOneLine = ({} : Settings).allOneLine
  allowNegatives : some "allow_negatives" ∉ names →
    s.allowNegatives = ({} : Settings).allowNegatives
  negativeChar : some "negative_char" ∉ names → s.negativeChar = ({} : Settings).negativeChar
  newlinesAsTokens : some "newlines_as_tokens" ∉ names →
    s.newlinesAsTokens = ({} : Settings).newlinesAsTokens
  tabSize : some "tab_size" ∉ names → s.tabSize = ({} : Settings).tabSize
  parseEscapeSequences : some "parse_escape_sequences" ∉ names →
    s.parseEscapeSequences = ({} : Settings).parseEscapeSequences

theorem Settings.defaultBeside_default (names : List (Option String)) :
    Settings.DefaultBeside names {} := by
  constructor <;> exact fun _ => rfl

/-- A field that is named changes nothing that is not. -/
theorem Settings.keeps_defaultBeside (names : List (Option String)) :
    ∀ f ∈ Settings.shape.fields, some f.name ∈ names → f.Keeps (Settings.DefaultBeside names) := by
  simp only [Settings.shape, List.forall_mem_cons, List.not_mem_nil, false_imp_iff, implies_true,
    and_true]
  refine ⟨?_, ?_, ?_, ?_, ?_, ?_, ?_, ?_, ?_, ?_, ?_, ?_⟩ <;> intro hname <;>
    refine Field.keeps_of fun v a _ s hs => ?_
  · exact { hs with wordIncluded := fun h => absurd hname h }
  · exact { hs with wordStarters := fun h => absurd hname h }
  · exact { hs with catchAll := fun h => absurd hname h }
  · exact { hs with skipWhitespace := fun h => absurd hname h }
  · exact { hs with commentsAsTokens := fun h => absurd hname h }
  · exact { hs with ignoreCase := fun h => absurd hname h }
  · exact { hs with allOneLine := fun h => absurd hname h }
  · exact { hs with allowNegatives := fun h => absurd hname h }
  · exact { hs with negativeChar := fun h => absurd hname h }
  · exact { hs with newlinesAsTokens := fun h => absurd hname h }
  · exact { hs with tabSize := fun h => absurd hname h }
  · exact { hs with parseEscapeSequences := fun h => absurd hname h }

theorem Settings.defaultBeside_of_reading {members : List (Option String × Outline)}
    {ending : Option Break} {s : Settings}
    (h : Settings.reading (.object members ending) = .ok s) :
    s.DefaultBeside (members.map Prod.fst) := by
  refine Shape.ofMembers_keeps _ members ?_ h (Settings.defaultBeside_default _)
  intro f hf _ hname
  exact Settings.keeps_defaultBeside _ f hf hname

/-! ## Sections -/

namespace RuleFile

/-- A section and one that says the same: the members of its records in any order, and other members
among them. -/
inductive RewritesSection : Option String × Outline → Option String × Outline → Prop where
  | settings (v w : Outline) (h : Settings.shape.Widens v w) :
      RewritesSection (some "settings", v) (some "settings", w)
  | rules (vs ws : List Outline) (h : List.Forall₂ RuleEntry.shape.Widens vs ws) :
      RewritesSection (some "rules", .array vs none) (some "rules", .array ws none)

/-- The sections `ns` say what `ms` say, in any order. -/
def Rewrites (ms ns : List (Option String × Outline)) : Prop :=
  ∃ mid, List.Forall₂ RewritesSection ms mid ∧ mid.Perm ns

theorem takes_of_rewritesSection (m n : Option String × Outline) (hmn : RewritesSection m n)
    (seen : List String) (x : RuleFile) (seen' : List String) (x' : RuleFile)
    (h : shape.Takes seen x m seen' x') : shape.Takes seen x n seen' x' := by
  cases h with
  | passed k v hf hs hv => cases hs
  | field k f v change hf hs hp =>
    cases hmn with
    | settings v w hw =>
      obtain rfl : f = _ := (Option.some.inj hf).symm
      obtain ⟨s, hv, rfl⟩ := Field.exists_of_put hp
      exact .field _ _ w _ hf hs (Field.put_of (Settings.reading_of_widens hw hv))
    | rules vs ws hw =>
      obtain rfl : f = _ := (Option.some.inj hf).symm
      obtain ⟨rs, hv, rfl⟩ := Field.exists_of_put hp
      have hws : Rule.reading.list (.array ws none) = .ok rs :=
        Reading.list_replaced (r := Rule.reading) (fun _ _ _ => Rule.reading_of_widens) hw hv
      exact .field _ _ (.array ws none) _ hf hs (Field.put_of hws)

theorem reading_of_rewrites {ms ns : List (Option String × Outline)} {f : RuleFile}
    (hr : Rewrites ms ns) (h : reading (.object ms none) = .ok f) :
    reading (.object ns none) = .ok f := by
  obtain ⟨mid, hmid, hperm⟩ := hr
  have hmiddle : shape.ofMembers none mid [] {} = .ok f :=
    Shape.ofMembers_replaced takes_of_rewritesSection hmid h
  exact Shape.ofMembers_perm shape_independent hperm hmiddle

theorem settings_of_mem {ms : List (Option String × Outline)} {v : Outline} {f : RuleFile}
    (hm : (some "settings", v) ∈ ms) (h : reading (.object ms none) = .ok f) :
    Settings.reading v = .ok f.settings := by
  refine Shape.ofMembers_field (P := fun f => Settings.reading v = .ok f.settings)
    shape_independent hm rfl h ?_ ?_
  · intro change hp z
    obtain ⟨s, hs, rfl⟩ := Field.exists_of_put hp
    exact hs
  · simp only [shape, List.forall_mem_cons, List.not_mem_nil, false_imp_iff, implies_true, and_true]
    refine ⟨fun h => absurd rfl h, fun _ => Field.keeps_of fun _ _ _ _ h => h⟩

theorem settings_of_not_mem {ms : List (Option String × Outline)} {f : RuleFile}
    (hm : some "settings" ∉ ms.map Prod.fst) (h : reading (.object ms none) = .ok f) :
    f.settings = {} := by
  refine Shape.ofMembers_keeps (fun f => f.settings = {}) ms ?_ h rfl
  simp only [shape, List.forall_mem_cons, List.not_mem_nil, false_imp_iff, implies_true, and_true]
  exact ⟨fun _ hname => absurd hname hm, fun _ _ => Field.keeps_of fun _ _ _ _ h => h⟩

/-- **What a rule file depends on.** Of a text that is read as `f`: all texts with the same sections are
read as `f` too; no text with one more section can be read; and where the settings do not name one, it
has its default. -/
theorem parse_of_members (text : String) (ms : List (Option String × Outline)) (f : RuleFile)
    (htext : Document.ofText text = ⟨.object ms none, none⟩) (hf : parse text = .ok f) :
    (∀ text' ns, Document.ofText text' = ⟨.object ns none, none⟩ → Rewrites ms ns →
      parse text' = .ok f) ∧
    (∀ text' before after name v, ms = before ++ after →
      Document.ofText text' = ⟨.object (before ++ (some name, v) :: after) none, none⟩ →
      name ≠ "settings" → name ≠ "rules" → parse text' = .error .unexpected) ∧
    (∀ members, (some "settings", .object members none) ∈ ms →
      f.settings.DefaultBeside (members.map Prod.fst)) ∧
    (some "settings" ∉ ms.map Prod.fst → f.settings = {}) := by
  have hread : reading (.object ms none) = .ok f :=
    (Document.read_of_ofText reading text _ htext).symm.trans hf
  refine ⟨?_, ?_, ?_, ?_⟩
  · intro text' ns htext' hr
    unfold parse
    rw [Document.read_of_ofText _ _ _ htext']
    exact reading_of_rewrites hr hread
  · intro text' before after name v hms htext' hsettings hrules
    have hname : ∀ g ∈ shape.fields, g.name ≠ name := by
      simp only [shape, List.forall_mem_cons, List.not_mem_nil, false_imp_iff, implies_true,
        and_true]
      exact ⟨hsettings.symm, hrules.symm⟩
    unfold parse
    rw [Document.read_of_ofText _ _ _ htext']
    rw [hms] at hread
    exact Shape.ofMembers_foreign rfl name v hname before after hread
  · intro members hm
    exact Settings.defaultBeside_of_reading (settings_of_mem hm hread)
  · intro hm
    exact settings_of_not_mem hm hread

/-- The sections change places, and settings and rule get a member that nobody knows; as a section it
is refused. -/
theorem parse_of_members_let :
    parse (Json.object
      [("rules", .array [.object [("text", .string "let"), ("note", .null), ("kind", .string "Let")]]),
       ("settings", .object [("tabs", .array [.bool true]), ("tab_size", .number 2)])]).render =
      .ok ⟨{ tabSize := 2 }, [.literal (.custom "Let") "let"]⟩ ∧
    parse (Json.object
      [("settings", .object [("tab_size", .number 2)]), ("note", .null),
       ("rules", .array [.object [("kind", .string "Let"), ("text", .string "let")]])]).render =
      .error .unexpected := by
  have hsettings : Settings.shape.Widens
      (.object [(some "tab_size", .ofJson (.number 2))] none)
      (.object [(some "tabs", .array [.bool true] none), (some "tab_size", .ofJson (.number 2))]
        none) := by
    refine .members _ _ [(some "tabs", .array [.bool true] none)] ?_ (List.Perm.refl _)
    intro m hm
    obtain rfl := List.mem_singleton.mp hm
    exact ⟨"tabs", rfl, by decide, .array _ fun v hv => List.mem_singleton.mp hv ▸ .bool true⟩
  have hrule : RuleEntry.shape.Widens
      (.object [(some "kind", .string (some "Let")), (some "text", .string (some "let"))] none)
      (.object [(some "text", .string (some "let")), (some "note", .null),
        (some "kind", .string (some "Let"))] none) := by
    refine .members _ _ [(some "note", .null)] ?_
      (@List.perm_append_comm _ [_] [_, _])
    intro m hm
    obtain rfl := List.mem_singleton.mp hm
    exact ⟨"note", rfl, by decide, .null⟩
  have hparse : parse (Json.object
      [("settings", .object [("tab_size", .number 2)]),
       ("rules", .array [.object [("kind", .string "Let"), ("text", .string "let")]])]).render =
      .ok ⟨{ tabSize := 2 }, [.literal (.custom "Let") "let"]⟩ := by
    rw [parse, Document.read_of_ofText _ _ _ (Document.ofText_render _)]
    decide +kernel
  obtain ⟨hsame, hforeign, -, -⟩ := parse_of_members _ _ _ (Document.ofText_render _) hparse
  refine ⟨hsame _ _ (Document.ofText_render _) ⟨_, ?_, List.Perm.swap _ _ _⟩, ?_⟩
  · exact .cons (.settings _ _ hsettings) (.cons (.rules _ _ (.cons hrule .nil)) .nil)
  · exact hforeign _ [_] [_] "note" .null rfl (Document.ofText_render _) (by decide) (by decide)

end RuleFile

end LexicalRules
