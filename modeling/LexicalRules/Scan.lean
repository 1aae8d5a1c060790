import LexicalRules.Piece
import LexicalRules.Token

/-! # Scans

A `Scan` is the state of reading tokens off a text: what is left of it, the caret, and whether the
last token has been given out. `Scan.step` reads one token, comments included, and `Scan.next?` gives
out the next one; the last one is the first of kind `endOfFile`, at the latest the one at the end of
the text. `Scan.remaining` lists all that are still to come, and `Lexer.tokenize` those of a text.
The main statements are that steps shorten the text, so that a scan comes to its end, and that
`remaining` unfolds by `next?`.
-/

namespace LexicalRules
set_option autoImplicit false

structure Scan where
  lexer : Lexer
  rest : List Char
  here : Location
  finished : Bool

def Lexer.scan (lx : Lexer) (text : String) : Scan where
  lexer := lx
  rest := text.toList
  here := .origin
  finished := false

namespace Scan

def endLexeme : String := "EndOfFile"

def metric (s : Scan) : Metric :=
  s.lexer.settings.metric

def gap (s : Scan) : List Char :=
  s.rest.takeWhile s.lexer.settings.isSilent

def behindGap (s : Scan) : List Char :=
  s.rest.dropWhile s.lexer.settings.isSilent

def start (s : Scan) : Location :=
  s.here.travel s.metric s.gap

/-- The next token, whatever its kind, and the scan behind it. -/
def step (s : Scan) : Token × Scan :=
  match s.behindGap with
  | [] => (⟨.endOfFile, endLexeme, s.start, s.start⟩, { s with rest := [], here := s.start })
  | c :: cs =>
    let p := s.lexer.piece c cs
    let stop := s.start.travel s.metric ((c :: cs).take p.size)
    (⟨p.kind, String.ofList p.lexeme, s.start, if p.inPlace then s.start else stop⟩,
      { s with rest := (c :: cs).drop p.size, here := stop })

@[simp] theorem step_lexer (s : Scan) : s.step.2.lexer = s.lexer := by
  unfold step
  split <;> rfl

@[simp] theorem step_finished (s : Scan) : s.step.2.finished = s.finished := by
  unfold step
  split <;> rfl

theorem behindGap_length_le (s : Scan) : s.behindGap.length ≤ s.rest.length :=
  (List.dropWhile_suffix _).length_le

theorem step_rest_lt (s : Scan) (h : s.behindGap ≠ []) :
    s.step.2.rest.length < s.rest.length := by
  have hle := s.behindGap_length_le
  unfold step
  split
  · contradiction
  · rename_i c cs hcs
    have hp := s.lexer.piece_size_pos c cs
    rw [hcs] at hle
    simp only [List.length_drop, List.length_cons] at *
    omega

/-- Only the end of the text or a token of that kind ends a scan. -/
theorem step_rest_lt_of_kind (s : Scan) (h : s.step.1.kind ≠ .endOfFile) :
    s.step.2.rest.length < s.rest.length := by
  apply step_rest_lt
  intro hnil
  apply h
  unfold step
  rw [hnil]

/-- Whether a token of kind `k` is given out under the scan's settings. -/
def keeps (s : Scan) (k : TokenKind) : Bool :=
  s.lexer.settings.commentsAsTokens || !k.isComment

/-- The next token that is given out and the scan behind it; none when the scan is finished. -/
def next? (s : Scan) : Option (Token × Scan) :=
  if s.finished then none
  else if s.step.1.kind = .endOfFile then some (s.step.1, { s.step.2 with finished := true })
  else if s.keeps s.step.1.kind then some s.step
  else s.step.2.next?
termination_by s.rest.length
decreasing_by
  apply step_rest_lt_of_kind
  assumption

/-- A bound for the number of tokens still to come. -/
def left (s : Scan) : Nat :=
  if s.finished then 0 else s.rest.length + 1

theorem next?_left_lt {s s' : Scan} {t : Token} (h : s.next? = some (t, s')) :
    s'.left < s.left := by
  fun_induction next? s with
  | case1 s hf => cases h
  | case2 s hf hk =>
    cases h
    simp [left, hf]
  | case3 s hf hk hc =>
    have hs : s.step.2 = s' := by rw [Option.some.inj h]
    have hl := s.step_rest_lt_of_kind hk
    rw [← hs]
    simp only [left, step_finished, hf, Bool.false_eq_true, if_false]
    omega
  | case4 s hf hk hc ih =>
    have hl := s.step_rest_lt_of_kind hk
    have hn := ih h
    simp only [left, step_finished, hf, Bool.false_eq_true, if_false] at hn ⊢
    omega

/-- A scan has another token unless it is finished. -/
theorem next?_eq_none_iff (s : Scan) : s.next? = none ↔ s.finished = true := by
  fun_induction next? s with
  | case1 s hf => simp [hf]
  | case2 s hf hk => simp [hf]
  | case3 s hf hk hc => simp [hf]
  | case4 s hf hk hc ih => simpa using ih

/-! ## Many tokens -/

/-- The next tokens, up to `n` of them, and the scan behind them. -/
def take : Nat → Scan → List Token × Scan
  | 0, s => ([], s)
  | n + 1, s =>
    match s.next? with
    | none => ([], s)
    | some (t, s') =>
      let r := take n s'
      (t :: r.1, r.2)

/-- The tokens still to come, and the finished scan behind them. -/
def drain (s : Scan) : List Token × Scan :=
  s.take s.left

def remaining (s : Scan) : List Token :=
  s.drain.1

/-- No more than the bound comes, however many are asked for. -/
theorem take_of_left_le (n : Nat) (s : Scan) (h : s.left ≤ n) : s.take n = s.drain := by
  have key : ∀ (m n : Nat) (s : Scan), s.left ≤ m → s.left ≤ n → s.take m = s.take n := by
    intro m
    induction m with
    | zero =>
      intro n s hm hn
      have hf : s.finished = true := by
        unfold left at hm
        split at hm
        · assumption
        · omega
      cases n with
      | zero => rfl
      | succ n => simp [take, (next?_eq_none_iff s).mpr hf]
    | succ m ih =>
      intro n s hm hn
      cases hnext : s.next? with
      | none => cases n with
        | zero => simp [take, hnext]
        | succ n => simp [take, hnext]
      | some p =>
        obtain ⟨t, s'⟩ := p
        have hl := next?_left_lt hnext
        cases n with
        | zero => omega
        | succ n =>
          have he := ih n s' (by omega) (by omega)
          simp [take, hnext, he]
  exact key n s.left s h (Nat.le_refl _)

theorem drain_of_next?_eq_none {s : Scan} (h : s.next? = none) : s.drain = ([], s) := by
  rw [← take_of_left_le (s.left + 1) s (Nat.le_succ _)]
  simp [take, h]

theorem drain_of_next?_eq_some {s s' : Scan} {t : Token} (h : s.next? = some (t, s')) :
    s.drain = (t :: s'.drain.1, s'.drain.2) := by
  have hl := next?_left_lt h
  rw [← take_of_left_le (s.left + 1) s (Nat.le_succ _)]
  simp [take, h, take_of_left_le s.left s' (by omega)]

theorem remaining_of_next?_eq_none {s : Scan} (h : s.next? = none) : s.remaining = [] := by
  rw [remaining, drain_of_next?_eq_none h]

theorem remaining_of_next?_eq_some {s s' : Scan} {t : Token} (h : s.next? = some (t, s')) :
    s.remaining = t :: s'.remaining := by
  rw [remaining, drain_of_next?_eq_some h, remaining]

end Scan

def Lexer.tokenize (lx : Lexer) (text : String) : List Token :=
  (lx.scan text).remaining

end LexicalRules
