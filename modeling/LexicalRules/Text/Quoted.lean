import LexicalRules.Text.Unprintable

/-! # Quoted text

`quoted` writes a text between double quotes so that every character of it can be seen: quotes and
backslashes get a backslash, the common controls their letter, and what does not print on its own
its code point in hexadecimal.
-/

namespace LexicalRules.Text
set_option autoImplicit false

/-- The hexadecimal digits of `n`, small letters, no leading zeros. -/
def hexDigits (n : Nat) : List Char :=
  Nat.toDigits 16 n

/-- How one character is written inside quotes. -/
def quotedChar (c : Char) : List Char :=
  if c = '"' then ['\\', '"']
  else if c = '\\' then ['\\', '\\']
  else if c = '\x00' then ['\\', '0']
  else if c = '\t' then ['\\', 't']
  else if c = '\n' then ['\\', 'n']
  else if c = '\r' then ['\\', 'r']
  else if isUnprintable c || isExtender c then '\\' :: 'u' :: '{' :: hexDigits c.toNat ++ ['}']
  else [c]

def quotedChars (s : List Char) : List Char :=
  '"' :: s.flatMap quotedChar ++ ['"']

def quoted (s : String) : String :=
  String.ofList (quotedChars s.toList)

end LexicalRules.Text
