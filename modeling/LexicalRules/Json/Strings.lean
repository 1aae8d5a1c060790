import LexicalRules.Json.Fault

/-! # Strings as they are written in JSON

A string is read in two steps. `codeUnits` reads what stands between the quotes as characters and
escaped code units, which is all that is needed to find the closing quote; `joinUnits` makes a text of
them, where escaped surrogates have to come in pairs.
-/

namespace LexicalRules.Json
set_option autoImplicit false

/-- What is written in a string. -/
inductive CodeUnit where
  | char (c : Char)
  /-- A code unit of sixteen bits, written as an escape. -/
  | escaped (n : Nat)
  deriving DecidableEq, Repr

def hexValue? (c : Char) : Option Nat :=
  if '0' ≤ c ∧ c ≤ '9' then some (c.toNat - '0'.toNat)
  else if 'a' ≤ c ∧ c ≤ 'f' then some (c.toNat - 'a'.toNat + 10)
  else if 'A' ≤ c ∧ c ≤ 'F' then some (c.toNat - 'A'.toNat + 10)
  else none

/-- The code unit of four hexadecimal digits. -/
def hexUnit? (a b c d : Char) : Option Nat := do
  let a ← hexValue? a
  let b ← hexValue? b
  let c ← hexValue? c
  let d ← hexValue? d
  return ((a * 16 + b) * 16 + c) * 16 + d

/-- The character of an escape with a single letter or sign. -/
def shortEscape? (c : Char) : Option Char :=
  match c with
  | '"' => some '"'
  | '\\' => some '\\'
  | '/' => some '/'
  | 'b' => some '\x08'
  | 'f' => some '\x0c'
  | 'n' => some '\n'
  | 'r' => some '\r'
  | 't' => some '\t'
  | _ => none

/-- Whether a text has fewer than four bytes in UTF-8. -/
def endsWithinFour (s : List Char) : Bool :=
  (String.ofList (s.take 4)).utf8ByteSize < 4

/-- Puts one more unit in front of what was read. -/
def withUnit (u : CodeUnit) (r : List CodeUnit × Except Fault (List Char)) :
    List CodeUnit × Except Fault (List Char) :=
  (u :: r.1, r.2)

/-- Reads a string behind its opening quote: its units, and the text behind its closing quote or the
fault that comes first. -/
def codeUnits : List Char → List CodeUnit × Except Fault (List Char)
  | [] => ([], .error .truncated)
  | '"' :: r => ([], .ok r)
  | '\\' :: [] => ([], .error .truncated)
  | '\\' :: 'u' :: a :: b :: c :: d :: r =>
    match hexUnit? a b c d with
    | some n => withUnit (.escaped n) (codeUnits r)
    | none => ([], .error .malformed)
  | '\\' :: 'u' :: r => ([], .error (if endsWithinFour r then .truncated else .malformed))
  | '\\' :: e :: r =>
    match shortEscape? e with
    | some c => withUnit (.char c) (codeUnits r)
    | none => ([], .error .malformed)
  | c :: r => if c.toNat < 0x20 then ([], .error .malformed) else withUnit (.char c) (codeUnits r)

theorem codeUnits_rest_length (s r : List Char) (h : (codeUnits s).2 = .ok r) :
    r.length < s.length := by
  fun_induction codeUnits s with
  | case4 =>
    rename_i ih
    have hr := ih h
    simp only [List.length_cons]
    omega
  | case7 =>
    rename_i ih
    have hr := ih h
    simp only [List.length_cons]
    omega
  | case10 =>
    rename_i ih
    have hr := ih h
    simp only [List.length_cons]
    omega
  | _ => simp_all

/-! ## Surrogates -/

def isLeading (n : Nat) : Bool := 0xd800 ≤ n && n < 0xdc00

def isTrailing (n : Nat) : Bool := 0xdc00 ≤ n && n < 0xe000

def pairChar (n m : Nat) : Char :=
  Char.ofNat (0x10000 + (n - 0xd800) * 0x400 + (m - 0xdc00))

/-- The text of some units; none if half a pair stands alone. -/
def joinUnits : List CodeUnit → Option (List Char)
  | [] => some []
  | .char c :: us => (joinUnits us).map (c :: ·)
  | .escaped n :: .escaped m :: us =>
    if isLeading n then
      if isTrailing m then (joinUnits us).map (pairChar n m :: ·) else none
    else if isTrailing n then none
    else (joinUnits (.escaped m :: us)).map (Char.ofNat n :: ·)
  | .escaped n :: us =>
    if isLeading n || isTrailing n then none else (joinUnits us).map (Char.ofNat n :: ·)

/-- The units without a first half at their end, whose second half may have been cut off. -/
def settledUnits (us : List CodeUnit) : List CodeUnit :=
  match us.getLast? with
  | some (.escaped n) => if isLeading n then us.dropLast else us
  | _ => us

/-- The break of a string that has the fault `f` behind the units `us`: half a pair among them comes
first for those who want the text. -/
def stringBreak (us : List CodeUnit) (f : Fault) : Break where
  read := if (joinUnits (settledUnits us)).isSome then f else .malformed
  skipped := f

end LexicalRules.Json
