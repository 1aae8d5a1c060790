import LexicalRules.Json.Fault
import LexicalRules.Json.Figure
import LexicalRules.Json.Value

/-! # JSON texts as far as they can be read

An `Outline` is what a text holds up to its first break: a value like any other where it holds one, and
a value with a break in it where it does not. So the members of an object that stand before a break are
there, and whoever reads them in order finds what is wrong in the order of the text.

* `Outline.mismatch`: the fault of an outline that is not what is wanted.
* `Outline.pass`: passes over an outline that nobody wants; only its grammar counts.
* `Outline.ofJson`: the outline of a whole value.
-/

namespace LexicalRules.Json
set_option autoImplicit false

/-- A JSON text as far as it can be read. -/
inductive Outline where
  | null
  | bool (b : Bool)
  | number (f : Figure)
  /-- A string, without its text if escapes in it are half a pair. -/
  | string (s : Option String)
  /-- The elements, and the fault that stands behind them in place of a bracket. -/
  | array (items : List Outline) (ending : Option Fault)
  /-- The members, and the break that stands behind them in place of a brace. -/
  | object (members : List (Option String × Outline)) (ending : Option Break)
  | broken (b : Break)
  deriving Inhabited, Repr

namespace Outline

/-- The fault of an outline that is not what is wanted. Scalars are read to their end first, so a fault
in one of them comes before the mismatch; the contents of brackets are not looked at. -/
def mismatch : Outline → Fault
  | number f => if f.overflows then .malformed else .unexpected
  | string none => .malformed
  | broken b => b.read
  | _ => .unexpected

mutual
def pass : Outline → Except Fault Unit
  | array items ending => do
    passItems items
    match ending with
    | some f => throw f
    | none => pure ()
  | object members ending => do
    passMembers members
    match ending with
    | some b => throw b.skipped
    | none => pure ()
  | broken b => throw b.skipped
  | _ => pure ()

def passItems : List Outline → Except Fault Unit
  | [] => pure ()
  | v :: vs => do
    pass v
    passItems vs

def passMembers : List (Option String × Outline) → Except Fault Unit
  | [] => pure ()
  | (_, v) :: ms => do
    pass v
    passMembers ms
end

mutual
def ofJson : Json → Outline
  | .null => null
  | .bool b => bool b
  | .number n => number ⟨n < 0, digits n.natAbs, none, none⟩
  | .string s => string (some s)
  | .array items => array (ofItems items) none
  | .object members => object (ofMembers members) none

def ofItems : List Json → List Outline
  | [] => []
  | v :: vs => ofJson v :: ofItems vs

def ofMembers : List (String × Json) → List (Option String × Outline)
  | [] => []
  | (k, v) :: ms => (some k, ofJson v) :: ofMembers ms
end

end Outline

end LexicalRules.Json
