import LexicalRules.Json.Outline

/-! # Reading records

A record is written as an object of its fields in any order, or as an array of them in their order. A
`Shape` lists the fields with what each reads and sets. Reading goes through the text in order, so the
first fault of the text is the one that counts:

* no field may come twice, and a strict shape has no members but its fields;
* a required field must be there by the end; the others keep what they were;
* an array may stop early, but has nothing behind its last field.

The first section reads the values that fields have.
-/

namespace LexicalRules.Json
set_option autoImplicit false

/-! ## Values of fields -/

/-- A way to read an outline. -/
abbrev Reading (α : Type) := Outline → Except Fault α

namespace Reading

def text : Reading String
  | .string (some s) => .ok s
  | v => .error v.mismatch

def flag : Reading Bool
  | .bool b => .ok b
  | v => .error v.mismatch

def count : Reading Nat
  | .number f =>
    match f.count? with
    | some n => .ok n
    | none => .error (Outline.number f).mismatch
  | v => .error v.mismatch

def letter : Reading Char
  | .string (some s) =>
    match s.toList with
    | [c] => .ok c
    | _ => .error .unexpected
  | v => .error v.mismatch

/-- What `r` reads, or null for its absence. -/
def optional {α : Type} (r : Reading α) : Reading (Option α)
  | .null => .ok none
  | v => (r v).map some

def list {α : Type} (r : Reading α) : Reading (List α)
  | .array items ending =>
    match items.mapM r, ending with
    | .error f, _ => .error f
    | .ok _, some f => .error f
    | .ok xs, none => .ok xs
  | v => .error v.mismatch

end Reading

/-! ## Records -/

/-- A field of a record `σ`: its name, whether it must be there, and how a record changes by it. -/
structure Field (σ : Type) where
  name : String
  required : Bool
  put : Reading (σ → σ)

/-- A field that holds what `r` reads. -/
def Field.of {σ α : Type} (name : String) (required : Bool) (r : Reading α) (set : σ → α → σ) :
    Field σ where
  name := name
  required := required
  put v := (r v).map fun x record => set record x

/-- The fields of a record in order, and whether it may have no other members. -/
structure Shape (σ : Type) where
  fields : List (Field σ)
  strict : Bool

namespace Shape

def complete {σ : Type} (shape : Shape σ) (seen : List String) : Bool :=
  shape.fields.all fun f => !f.required || seen.contains f.name

/-- Reads members in order into the record `x`, where the fields `seen` have come before. The break at
the end, or the lack of a field, shows only when all members have been read. -/
def ofMembers {σ : Type} (shape : Shape σ) (ending : Option Break) :
    List (Option String × Outline) → List String → σ → Except Fault σ
  | [], seen, x =>
    match ending with
    | some b => .error b.read
    | none => if shape.complete seen then .ok x else .error .unexpected
  | (none, _) :: _, _, _ => .error .malformed
  | (some k, v) :: ms, seen, x =>
    match shape.fields.find? fun f => f.name == k with
    | some f =>
      if seen.contains k then .error .unexpected
      else match f.put v with
        | .ok change => ofMembers shape ending ms (k :: seen) (change x)
        | .error e => .error e
    | none =>
      if shape.strict then .error .unexpected
      else match v.pass with
        | .ok _ => ofMembers shape ending ms seen x
        | .error e => .error e

/-- Reads elements in order into the record `x`, a field for each. -/
def ofItems {σ : Type} (ending : Option Fault) :
    List (Field σ) → List Outline → σ → Except Fault σ
  | [], [], x =>
    match ending with
    | some e => .error e
    | none => .ok x
  | [], _ :: _, _ => .error .malformed
  | f :: fs, v :: vs, x =>
    match f.put v with
    | .ok change => ofItems ending fs vs (change x)
    | .error e => .error e
  | f :: fs, [], x =>
    match ending with
    | some e => .error e
    | none => if (f :: fs).any Field.required then .error .unexpected else .ok x

/-- Reads a record that is `start` where the text says nothing. -/
def read {σ : Type} (shape : Shape σ) (start : σ) : Reading σ
  | .object members ending => shape.ofMembers ending members [] start
  | .array items ending => ofItems ending shape.fields items start
  | v => .error v.mismatch

end Shape

end LexicalRules.Json
