import LexicalRules.Escape
import LexicalRules.Rule

/-! # Bodies of tokens

What a rule's token takes from the text behind its opening text:

* `ofLine`: up to the next line break;
* `ofVerbatim`: up to the first place where the closing text stands;
* `ofString`: likewise, but where escapes are looked at no closing text starts inside a pair of a
  backslash and the character behind it.

A body whose closing text never comes runs to the end of the text. `Rule.body` chooses by the rule.

A string is read character by character, with a flag for a backslash that is still to be read with the
character behind it (`readString`). What this comes to has two parts: `ofString_eq_ofVerbatim`, where
pairs play no part, and `ofString_eq_ofEscaped`, which finds the end first (`escaped`) and then reads
the pairs in front of it (`Escape.decode`).
-/

namespace LexicalRules
set_option autoImplicit false

/-- A body: what becomes the lexeme, and how many characters it takes, closing text included. -/
structure Body where
  lexeme : List Char
  size : Nat
  deriving DecidableEq, Repr

namespace Body

/-- The characters of `text` before its first line break. -/
def restOfLine (text : List Char) : List Char :=
  text.takeWhile fun c => c != '\r' && c != '\n'

theorem restOfLine_isPrefix (text : List Char) : restOfLine text <+: text :=
  List.takeWhile_prefix _

/-- The characters of `text` before the first place where `close` stands. -/
def verbatim (close : List Char) : List Char → List Char
  | [] => []
  | c :: cs => if close.isPrefixOf (c :: cs) then [] else c :: verbatim close cs

/-- The characters of `text` before the first place, not inside a backslash pair, where `close`
stands. -/
def escaped (close : List Char) : List Char → List Char
  | [] => []
  | c :: cs =>
    if close.isPrefixOf (c :: cs) then []
    else if c = '\\' then
      match cs with
      | [] => ['\\']
      | d :: ds => '\\' :: d :: escaped close ds
    else c :: escaped close cs

theorem escaped_of_isPrefixOf (close : List Char) (c : Char) (cs : List Char)
    (h : close.isPrefixOf (c :: cs) = true) : escaped close (c :: cs) = [] := by
  rw [escaped.eq_def]
  simp only [h, if_true]

theorem escaped_cons (close : List Char) (c : Char) (cs : List Char)
    (h : ¬close.isPrefixOf (c :: cs) = true) (hc : c ≠ '\\') :
    escaped close (c :: cs) = c :: escaped close cs := by
  rw [escaped.eq_def]
  simp only [h, hc, if_false, Bool.false_eq_true]

theorem escaped_pair (close : List Char) (d : Char) (ds : List Char)
    (h : ¬close.isPrefixOf ('\\' :: d :: ds) = true) :
    escaped close ('\\' :: d :: ds) = '\\' :: d :: escaped close ds := by
  rw [escaped.eq_def]
  simp only [h, if_true, if_false, Bool.false_eq_true]

/-- The characters taken by the raw body `raw` of `text`: `close` goes with it unless the text ends
first. -/
def sizeThrough (close raw text : List Char) : Nat :=
  if raw.length < text.length then raw.length + close.length else raw.length

theorem sizeThrough_nil_cons (close : List Char) (c : Char) (cs : List Char) :
    sizeThrough close [] (c :: cs) = close.length := by
  simp [sizeThrough]

theorem sizeThrough_cons_cons (close : List Char) (c d : Char) (raw text : List Char) :
    sizeThrough close (c :: raw) (d :: text) = sizeThrough close raw text + 1 := by
  simp only [sizeThrough, List.length_cons, Nat.add_lt_add_iff_right]
  split
  · exact Nat.add_right_comm _ _ _
  · rfl

/-- A body that is a comment up to the end of the line; the line break stays. -/
def ofLine (text : List Char) : Body :=
  ⟨restOfLine text, (restOfLine text).length⟩

def ofVerbatim (close text : List Char) : Body :=
  ⟨verbatim close text, sizeThrough close (verbatim close text) text⟩

def ofEscaped (close text : List Char) : Body :=
  ⟨Escape.decode (escaped close text), sizeThrough close (escaped close text) text⟩

/-! ## Strings -/

/-- The body that takes one more character in front, which is read as `shown`. -/
def prepend (shown : List Char) (b : Body) : Body :=
  ⟨shown ++ b.lexeme, b.size + 1⟩

/-- Reads a string character by character. `pending` says that a backslash has just been read: the
character behind it is read together with it and closes nothing. Without `escapes` a backslash is a
character like any other. -/
def readString (escapes : Bool) (close : List Char) : (pending : Bool) → List Char → Body
  | _, [] => ⟨[], 0⟩
  | pending, c :: cs =>
    if !pending && close.isPrefixOf (c :: cs) then ⟨[], close.length⟩
    else if pending then (readString escapes close false cs).prepend (Escape.pair c)
    else if c == '\\' && escapes then (readString escapes close true cs).prepend []
    else (readString escapes close false cs).prepend [c]

def ofString (escapes : Bool) (close text : List Char) : Body :=
  readString escapes close false text

section OneMore
variable (escapes : Bool) (close : List Char) (c : Char) (cs : List Char)

theorem ofString_of_isPrefixOf (h : close.isPrefixOf (c :: cs) = true) :
    ofString escapes close (c :: cs) = ⟨[], close.length⟩ := by
  simp [ofString, readString, h]

theorem ofString_cons (h : ¬close.isPrefixOf (c :: cs) = true) (hc : c = '\\' → escapes = false) :
    ofString escapes close (c :: cs) = (ofString escapes close cs).prepend [c] := by
  have hs : (c == '\\' && escapes) = false := by
    by_cases he : c = '\\'
    · rw [hc he, Bool.and_false]
    · rw [beq_eq_false_iff_ne.mpr he, Bool.false_and]
  simp [ofString, readString, h, hs]

theorem ofString_pair (h : ¬close.isPrefixOf ('\\' :: c :: cs) = true) :
    ofString true close ('\\' :: c :: cs) =
      ((ofString true close cs).prepend (Escape.pair c)).prepend [] := by
  simp [ofString, readString, h]

end OneMore

/-- Where escapes are not looked at, or there are none in front of the closing text, a string is read as
a verbatim body is. -/
theorem ofString_eq_ofVerbatim (escapes : Bool) (close text : List Char)
    (h : escapes = true → '\\' ∉ verbatim close text) :
    ofString escapes close text = ofVerbatim close text := by
  -- The flag is never set in front of the closing text: what would set it is a backslash with escapes on.
  induction text with
  | nil => rfl
  | cons c cs ih =>
    unfold ofVerbatim
    unfold verbatim at h ⊢
    split
    · rename_i hs
      rw [ofString_of_isPrefixOf escapes close c cs hs, sizeThrough_nil_cons]
    · rename_i hs
      rw [if_neg hs] at h
      have hc : c = '\\' → escapes = false := by
        rintro rfl
        exact Bool.eq_false_iff.mpr fun he => h he List.mem_cons_self
      have hcs := ih fun he => List.not_mem_of_not_mem_cons (h he)
      rw [ofString_cons escapes close c cs hs hc, hcs, sizeThrough_cons_cons]
      rfl

/-- Where escapes are looked at, the end of a string may be found first and its pairs read then. -/
theorem ofString_eq_ofEscaped (close text : List Char) :
    ofString true close text = ofEscaped close text := by
  unfold ofEscaped
  -- The flag is set only between the two characters of a pair, so that the cases are those of `escaped`.
  fun_induction escaped close text with
  | case1 => rfl
  | case2 c cs h =>
    rw [ofString_of_isPrefixOf true close c cs h, sizeThrough_nil_cons, Escape.decode_nil]
  | case3 h => simp [ofString, readString, h, sizeThrough, prepend, Escape.decode]
  | case4 d ds h ih =>
    rw [ofString_pair close d ds h, ih, sizeThrough_cons_cons, sizeThrough_cons_cons,
      Escape.decode_backslash_cons]
    rfl
  | case5 c cs h hc ih =>
    rw [ofString_cons true close c cs h (fun he => absurd he hc), ih, sizeThrough_cons_cons,
      Escape.decode_cons c _ hc]
    rfl

example : ofString true ['"'] ['a', '\\', '"', 'b', '"', 'c'] = ⟨['a', '"', 'b'], 5⟩ := by decide

example : ofString false ['"'] ['a', '\\', '"', 'b', '"', 'c'] = ⟨['a', '\\'], 3⟩ := by decide

end Body

namespace Rule

/-- The ways in which a rule goes on behind its opening text. -/
inductive Form where
  | literal
  | line
  /-- The body runs to the right delimiter. -/
  | verbatim
  /-- The body runs to the right delimiter and may hold escapes. -/
  | escaped
  deriving DecidableEq, Repr

/-- The form of a rule: comment kinds have theirs whether or not the rule has delimiters. -/
def form (r : Rule) : Form :=
  match r.kind with
  | .endOfLineComment => .line
  | .multiLineComment => .verbatim
  | .string => if r.isEnclosed then .escaped else .literal
  | _ => if r.isEnclosed then .verbatim else .literal

/-- The body of a rule's token in the text behind its opening text; `escapes` says whether escapes
are decoded at all. -/
def body (escapes : Bool) (r : Rule) (text : List Char) : Body :=
  match r.form with
  | .literal => ⟨r.replacement.toList, 0⟩
  | .line => .ofLine text
  | .verbatim => .ofVerbatim r.right.toList text
  | .escaped => .ofString escapes r.right.toList text

@[simp] theorem body_ignoringCase (escapes : Bool) (r : Rule) (b : Bool) (text : List Char) :
    (r.ignoringCase b).body escapes text = r.body escapes text := rfl

end Rule

end LexicalRules
