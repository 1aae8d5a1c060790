import LexicalRules.Json.Record
import LexicalRules.Rule
import LexicalRules.Settings
import LexicalRules.Token

/-! # The data of the library in JSON

Locations, kinds, tokens, rules and settings, each with `toJson`, which writes it, and `reading`, which
reads it. A kind is its name. A rule is written without the members that say nothing new; what a
rule file says of a rule is a `RuleEntry`, from which the rule is built.
-/

namespace LexicalRules
open Json
set_option autoImplicit false

/-! ## Locations -/

namespace Location

def shape : Shape Location where
  fields :=
    [.of "line" true Reading.count fun l n => { l with line := n },
     .of "column" true Reading.count fun l n => { l with column := n }]
  strict := false

def reading : Reading Location :=
  shape.read origin

def toJson (l : Location) : Json :=
  .object [("line", .number l.line), ("column", .number l.column)]

end Location

/-! ## Kinds -/

namespace TokenKind

def reading : Reading TokenKind := fun v =>
  (Reading.text v).map ofName

def toJson (k : TokenKind) : Json :=
  .string k.name

end TokenKind

/-! ## Tokens -/

namespace Token

def shape : Shape Token where
  fields :=
    [.of "kind" true TokenKind.reading fun t k => { t with kind := k },
     .of "lexeme" true Reading.text fun t s => { t with lexeme := s },
     .of "start" true Location.reading fun t l => { t with start := l },
     .of "end" true Location.reading fun t l => { t with stop := l }]
  strict := false

def reading : Reading Token :=
  shape.read endOfFile

def toJson (t : Token) : Json :=
  .object
    [("kind", t.kind.toJson), ("lexeme", .string t.lexeme), ("start", t.start.toJson),
     ("end", t.stop.toJson)]

end Token

/-! ## Rules -/

/-- What is written about a rule. -/
structure RuleEntry where
  kind : TokenKind
  text : String := ""
  replacement : Option String := none
  left : String := ""
  right : String := ""
  ignoreCase : Bool := false
  deriving DecidableEq, Repr

namespace RuleEntry

def shape : Shape RuleEntry where
  fields :=
    [.of "kind" true TokenKind.reading fun e k => { e with kind := k },
     .of "text" false Reading.text fun e s => { e with text := s },
     .of "replacement" false Reading.text.optional fun e s => { e with replacement := s },
     .of "left" false Reading.text fun e s => { e with left := s },
     .of "right" false Reading.text fun e s => { e with right := s },
     .of "ignore_case" false Reading.flag fun e b => { e with ignoreCase := b }]
  strict := false

def rule (e : RuleEntry) : Rule :=
  let enclosed := (Rule.literal e.kind e.text).enclosedBy e.left e.right
  let replaced := match e.replacement with
    | some s => enclosed.withReplacement s
    | none => enclosed
  replaced.ignoringCase e.ignoreCase

def ofRule (r : Rule) : RuleEntry where
  kind := r.kind
  text := r.matchText
  replacement := if r.replacement = r.matchText then none else some r.replacement
  left := r.left
  right := r.right
  ignoreCase := r.ignoreCase

/-- A text member that is left out where it is empty. -/
def textMember (name value : String) : List (String × Json) :=
  if value = "" then [] else [(name, .string value)]

/-- The members that are written for an entry. -/
def members (e : RuleEntry) : List (String × Json) :=
  [("kind", e.kind.toJson), ("text", .string e.text)] ++
    (match e.replacement with
      | some s => [("replacement", .string s)]
      | none => []) ++
    textMember "left" e.left ++ textMember "right" e.right ++
    (if e.ignoreCase then [("ignore_case", .bool true)] else [])

end RuleEntry

namespace Rule

def reading : Reading Rule := fun v =>
  (RuleEntry.shape.read ⟨.fallback, "", none, "", "", false⟩ v).map RuleEntry.rule

def toJson (r : Rule) : Json :=
  .object (RuleEntry.ofRule r).members

end Rule

/-! ## Settings -/

namespace Settings

def shape : Shape Settings where
  fields :=
    [.of "word_included" false Reading.text fun s x => { s with wordIncluded := x },
     .of "word_starters" false Reading.text fun s x => { s with wordStarters := x },
     .of "catch_all" false TokenKind.reading.optional fun s x => { s with catchAll := x },
     .of "skip_whitespace" false Reading.flag fun s x => { s with skipWhitespace := x },
     .of "comments_as_tokens" false Reading.flag fun s x => { s with commentsAsTokens := x },
     .of "ignore_case" false Reading.flag fun s x => { s with ignoreCase := x },
     .of "all_one_line" false Reading.flag fun s x => { s with allOneLine := x },
     .of "allow_negatives" false Reading.flag fun s x => { s with allowNegatives := x },
     .of "negative_char" false Reading.letter fun s x => { s with negativeChar := x },
     .of "newlines_as_tokens" false Reading.flag fun s x => { s with newlinesAsTokens := x },
     .of "tab_size" false Reading.count fun s x => { s with tabSize := x },
     .of "parse_escape_sequences" false Reading.flag fun s x =>
       { s with parseEscapeSequences := x }]
  strict := false

/-- Reads settings; those that are not mentioned have their defaults. -/
def reading : Reading Settings :=
  shape.read {}

def toJson (s : Settings) : Json :=
  .object
    [("word_included", .string s.wordIncluded),
     ("word_starters", .string s.wordStarters),
     ("catch_all", match s.catchAll with
       | some k => k.toJson
       | none => .null),
     ("skip_whitespace", .bool s.skipWhitespace),
     ("comments_as_tokens", .bool s.commentsAsTokens),
     ("ignore_case", .bool s.ignoreCase),
     ("all_one_line", .bool s.allOneLine),
     ("allow_negatives", .bool s.allowNegatives),
     ("negative_char", .string (String.singleton s.negativeChar)),
     ("newlines_as_tokens", .bool s.newlinesAsTokens),
     ("tab_size", .number s.tabSize),
     ("parse_escape_sequences", .bool s.parseEscapeSequences)]

end Settings

end LexicalRules
