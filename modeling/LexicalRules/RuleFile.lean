import LexicalRules.Json.Document
import LexicalRules.Json.Model
import LexicalRules.Lexer

/-! # Rule files

A rule file is a JSON text with settings and rules; either may be missing, and nothing else may be
there.
-/

namespace LexicalRules
open Json
set_option autoImplicit false

structure RuleFile where
  settings : Settings := {}
  rules : List Rule := []
  deriving DecidableEq

namespace RuleFile

def shape : Shape RuleFile where
  fields :=
    [.of "settings" false Settings.reading fun f s => { f with settings := s },
     .of "rules" false Rule.reading.list fun f rs => { f with rules := rs }]
  strict := true

def reading : Reading RuleFile :=
  shape.read {}

def parse (text : String) : Except Fault RuleFile :=
  Document.read reading text

def lexer (f : RuleFile) : Lexer :=
  .ofRules f.rules f.settings

end RuleFile

end LexicalRules
