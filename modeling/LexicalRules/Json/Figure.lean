/-! # Numbers as they are written in JSON

A `Figure` holds the digits of a written number. Only two things are asked of it: whether it is a
count, that is a natural number below 2^32 written without point, exponent or sign, and whether it
lies beyond the numbers of double precision, in which case it cannot be read at all.
-/

namespace LexicalRules.Json
set_option autoImplicit false

/-- A written number, its digits as they stand. -/
structure Figure where
  negative : Bool
  whole : List Char
  /-- The digits behind the point, if there is a point. -/
  fraction : Option (List Char)
  /-- Whether the exponent is negative, and its digits, if there is an exponent. -/
  exponent : Option (Bool × List Char)
  deriving DecidableEq, Repr

def digitsValue (ds : List Char) : Nat :=
  ds.foldl (fun n d => 10 * n + (d.toNat - '0'.toNat)) 0

/-! ## Counts -/

def maxCount : Nat := 4294967295

def Figure.count? (f : Figure) : Option Nat :=
  if !f.negative && f.fraction.isNone && f.exponent.isNone && digitsValue f.whole ≤ maxCount then
    some (digitsValue f.whole)
  else none

/-! ## Range -/

/-- `n` rounded to 53 binary digits, a half to the even neighbour. -/
def roundDouble (n : Nat) : Nat :=
  if n < Nat.pow 2 53 then n
  else
    let unit := Nat.pow 2 (n.log2 - 52)
    let low := n % unit
    let down := n / unit
    if 2 * low < unit ∨ (2 * low = unit ∧ down % 2 = 0) then down * unit else (down + 1) * unit

/-- Whether the significand `m` times ten to the power `e`, both in double precision, is too large for
double precision. -/
def exceedsDouble (m e : Nat) : Bool :=
  Nat.pow 2 1024 ≤ roundDouble (roundDouble m * roundDouble (Nat.pow 10 e))

/-- Takes digits into a significand below 2^64 and counts those that went in; the first that does not
fit ends it. -/
def takeDigits (m : Nat) : List Char → Nat × Nat
  | [] => (m, 0)
  | d :: ds =>
    let next := 10 * m + (d.toNat - '0'.toNat)
    if next < Nat.pow 2 64 then
      let (m', n) := takeDigits next ds
      (m', n + 1)
    else (m, 0)

def exponentValue : Option (Bool × List Char) → Int
  | none => 0
  | some (true, ds) => -(digitsValue ds : Int)
  | some (false, ds) => digitsValue ds

/-- Whether a figure lies beyond double precision. The significand is as many leading digits as fit
into 64 bits; the digits before the point that do not fit count as a power of ten. -/
def Figure.overflows (f : Figure) : Bool :=
  let (m, used) := takeDigits 0 f.whole
  let (m', behind) := takeDigits m (f.fraction.getD [])
  let power := (f.whole.length - used : Int) - behind + exponentValue f.exponent
  m' != 0 && 0 ≤ power && (308 < power || exceedsDouble m' power.toNat)

end LexicalRules.Json
