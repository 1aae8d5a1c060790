import LexicalRules.FileStore
import LexicalRules.Listing
import LexicalRules.RuleFile
import LexicalRules.Scan

/-! # The command line

`CommandLine.run` takes the arguments behind the program's name and a way to read files, and gives the
exit code, the output and the complaint of a run. Rules are read before the text they are for, so of
two unusable files the rule file is the one that is complained about.
-/

namespace LexicalRules
set_option autoImplicit false

/-! ## Loading -/

inductive LoadError where
  | unreadable (path : String) (fault : ReadFault)
  | malformed (path : String) (fault : Json.Fault)
  deriving DecidableEq, Repr

def Json.Fault.message : Json.Fault → String
  | malformed => "the text is not JSON"
  | truncated => "the text ends too early"
  | unexpected => "the text does not describe rules"

/-- A load error in words, where `wording` has the words for what is wrong with JSON. -/
def LoadError.message (wording : Json.Fault → String) : LoadError → String
  | unreadable path fault => "cannot read '" ++ path ++ "': " ++ fault.message
  | malformed path fault => "malformed rule file '" ++ path ++ "': " ++ wording fault

/-- The rule file whose text is what was read from `path`. -/
def RuleFile.ofRead (path : String) : Except ReadFault String → Except LoadError RuleFile
  | .error fault => .error (.unreadable path fault)
  | .ok text =>
    match RuleFile.parse text with
    | .error fault => .error (.malformed path fault)
    | .ok rules => .ok rules

section
variable {m : Type → Type} [Monad m]

def loadRules (readFile : String → m (Except ReadFault String)) (path : String) :
    m (Except LoadError RuleFile) := do
  return RuleFile.ofRead path (← readFile path)

/-- The listing of the tokens of `file` under the rules of `rules`. -/
def listFile (readFile : String → m (Except ReadFault String)) (file rules : String) :
    m (Except LoadError String) := do
  match ← loadRules readFile rules with
  | .error e => return .error e
  | .ok ruleFile =>
    match ← readFile file with
    | .error fault => return .error (.unreadable file fault)
    | .ok text => return .ok (listing (ruleFile.lexer.tokenize text))

end

/-! ## Arguments -/

namespace CommandLine

structure ListArguments where
  file : Option String := none
  rules : Option String := none
  deriving DecidableEq, Repr

def rulesOption : String := "--rules"

/-- The value that is written into the option itself, behind an equals sign. -/
def inlineRules? (arg : String) : Option String :=
  let opening := (rulesOption ++ "=").toList
  if opening.isPrefixOf arg.toList then some (String.ofList (arg.toList.drop opening.length))
  else none

def isOption (arg : String) : Bool :=
  arg.toList.head? == some '-'

/-- What an argument that is not the value of another one adds: the first that is no option is the
file. -/
def ListArguments.single (found : ListArguments) (arg : String) : ListArguments :=
  match inlineRules? arg with
  | some path => { found with rules := some path }
  | none =>
    if !isOption arg && found.file.isNone then { found with file := some arg } else found

/-- Goes through the arguments of a listing. The last rule file counts; the option for it counts as one
only with a value behind it. -/
def ListArguments.gather : List String → ListArguments → ListArguments
  | [], found => found
  | [arg], found => found.single arg
  | arg :: value :: args, found =>
    if arg = rulesOption then gather args { found with rules := some value }
    else gather (value :: args) (found.single arg)

/-! ## Runs -/

/-- What a run has to complain about. -/
inductive Complaint where
  /-- The arguments of a listing lack a file. -/
  | usage
  | unknownCommand (name : String)
  | load (error : LoadError)
  deriving DecidableEq, Repr

/-- A complaint in words, where `wording` has the words for what is wrong with JSON. -/
def Complaint.text (wording : Json.Fault → String) : Complaint → String
  | usage => "Usage: rulex lex <file> --rules <rules.json>\n"
  | unknownCommand name => "Unknown command: " ++ name ++ "\n\n"
  | load error => "error: " ++ error.message wording ++ "\n"

structure Outcome where
  code : UInt32
  output : String
  complaint : Option Complaint
  deriving DecidableEq, Repr

def Outcome.success (output : String) : Outcome := ⟨0, output, none⟩

def Outcome.failure (output : String) (complaint : Complaint) : Outcome := ⟨1, output, some complaint⟩

def usage : String :=
  String.join
    ["rulex - rule-driven lexer\n",
     "\n",
     "Usage: rulex <command> [options]\n",
     "\n",
     "Commands:\n",
     "  lex <file> --rules <rules.json>   Print the tokens of <file>\n",
     "  help                              Show this help message\n",
     "  version                           Show version information\n",
     "\n",
     "Environment:\n",
     "  RULEX_LOG    Tracing filter (falls back to RUST_LOG)\n"]

def version : String := "rulex 0.1.0\n"

section
variable {m : Type → Type} [Monad m]

def runList (readFile : String → m (Except ReadFault String)) (args : List String) : m Outcome := do
  match ListArguments.gather args {} with
  | ⟨some file, some rules⟩ =>
    match ← listFile readFile file rules with
    | .ok text => return .success text
    | .error e => return .failure "" (.load e)
  | _ => return .failure "" .usage

def run (readFile : String → m (Except ReadFault String)) : List String → m Outcome
  | [] => return .success usage
  | command :: args =>
    if command = "lex" then runList readFile args
    else if command ∈ ["help", "--help", "-h"] then return .success usage
    else if command ∈ ["version", "--version", "-V"] then return .success version
    else return .failure usage (.unknownCommand command)

end

end CommandLine

end LexicalRules
