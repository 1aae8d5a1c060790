/-! # Backslash escapes

A backslash and the character behind it stand for one character, if the pair is known. `resolve` is
the table of known pairs and `decode` reads a whole body: known pairs are replaced, unknown ones stay
as they are written, and a backslash that ends the body stands for nothing.
-/

namespace LexicalRules.Escape
set_option autoImplicit false

/-- The character that a backslash and `c` stand for. -/
def resolve (c : Char) : Option Char :=
  match c with
  | 'n' => some '\n'
  | 't' => some '\t'
  | 'r' => some '\r'
  | 'a' => some '\x07'
  | 'b' => some '\x08'
  | 'v' => some '\x0b'
  | 'f' => some '\x0c'
  | '"' => some '"'
  | '\'' => some '\''
  | '0' => some '\x00'
  | '\\' => some '\\'
  | _ => none

/-- What the pair of a backslash and `c` is read as. -/
def pair (c : Char) : List Char :=
  match resolve c with
  | some d => [d]
  | none => ['\\', c]

/-- The text that a body with escapes stands for. -/
def decode : List Char → List Char
  | [] => []
  | c :: cs =>
    if c = '\\' then
      match cs with
      | [] => []
      | d :: ds => pair d ++ decode ds
    else c :: decode cs

@[simp] theorem decode_nil : decode [] = [] := by
  simp [decode]

@[simp] theorem decode_backslash_cons (d : Char) (s : List Char) :
    decode ('\\' :: d :: s) = pair d ++ decode s := by
  simp [decode]

theorem decode_cons (c : Char) (s : List Char) (h : c ≠ '\\') :
    decode (c :: s) = c :: decode s := by
  cases s <;> simp [decode, h]

end LexicalRules.Escape
