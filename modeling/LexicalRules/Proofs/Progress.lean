import LexicalRules.Proofs.Cuts

/-! # Progress

Every step of a scan takes text while there is any, whatever the rules. The loops around a step are
therefore short, and this module counts their steps.

* `Scan.Gives s n t s'`: looking for the next token makes exactly `n` steps, all but the last of them for
  comments that are dropped, and gives out `t`.
* `Scan.Collects s n ts e`: listing the tokens still to come makes exactly `n` steps in all.

`exists_gives` and `exists_collects` say that such runs exist, no longer than the text and one step more.
-/

namespace LexicalRules
set_option autoImplicit false

namespace Scan

/-! ## One step -/

/-- Where only silent characters are left, the step takes them all. -/
theorem step_rest_lt_of_ne_nil (s : Scan) (h : s.rest ≠ []) :
    s.step.2.rest.length < s.rest.length := by
  cases hb : s.behindGap with
  | nil =>
    rw [s.step_of_nil hb]
    exact List.length_pos_iff.mpr h
  | cons c cs =>
    apply s.step_rest_lt
    rw [hb]
    exact List.cons_ne_nil c cs

/-! ## The loop for one token -/

inductive Gives : Scan → Nat → Token → Scan → Prop where
  | last (s : Scan) (hf : s.finished = false) (hk : s.step.1.kind = .endOfFile) :
      Gives s 1 s.step.1 { s.step.2 with finished := true }
  | kept (s : Scan) (hf : s.finished = false) (hk : s.step.1.kind ≠ .endOfFile)
      (hc : s.keeps s.step.1.kind = true) : Gives s 1 s.step.1 s.step.2
  | dropped (s : Scan) (n : Nat) (t : Token) (s' : Scan) (hf : s.finished = false)
      (hk : s.step.1.kind ≠ .endOfFile) (hc : s.keeps s.step.1.kind = false)
      (h : Gives s.step.2 n t s') : Gives s (n + 1) t s'

theorem Gives.next? {s s' : Scan} {n : Nat} {t : Token} (h : s.Gives n t s') :
    s.next? = some (t, s') := by
  induction h with
  | last s hf hk => exact s.next?_of_end hf hk
  | kept s hf hk hc => exact s.next?_of_kept hf hk hc
  | dropped s n t s' hf hk hc _ ih => rw [s.next?_of_dropped hf hk hc, ih]

theorem Gives.pos {s s' : Scan} {n : Nat} {t : Token} (h : s.Gives n t s') : 0 < n := by
  cases h with
  | last => exact Nat.one_pos
  | kept => exact Nat.one_pos
  | dropped _ n => exact Nat.succ_pos n

theorem left_of_unfinished {s : Scan} (hf : s.finished = false) : s.left = s.rest.length + 1 := by
  simp [left, hf]

theorem left_of_finished {s : Scan} (hf : s.finished = true) : s.left = 0 := by
  simp [left, hf]

/-- The steps of the loop are paid for by the text that they take. -/
theorem exists_gives (s : Scan) (hf : s.finished = false) :
    ∃ n t s', s.Gives n t s' ∧ n + s'.left ≤ s.left := by
  rw [left_of_unfinished hf]
  by_cases hk : s.step.1.kind = .endOfFile
  · refine ⟨1, s.step.1, _, .last s hf hk, ?_⟩
    rw [left_of_finished rfl]
    omega
  · have hlt := s.step_rest_lt_of_kind hk
    have hf' : s.step.2.finished = false := by rw [step_finished, hf]
    cases hc : s.keeps s.step.1.kind with
    | true =>
      refine ⟨1, s.step.1, s.step.2, .kept s hf hk hc, ?_⟩
      rw [left_of_unfinished hf']
      omega
    | false =>
      obtain ⟨n, t, s', hg, hn⟩ := exists_gives s.step.2 hf'
      rw [left_of_unfinished hf'] at hn
      exact ⟨n + 1, t, s', .dropped s n t s' hf hk hc hg, by omega⟩
termination_by s.rest.length

/-! ## The loop for all tokens -/

inductive Collects : Scan → Nat → List Token → Scan → Prop where
  | done (s : Scan) (hf : s.finished = true) : Collects s 0 [] s
  | onward (s s' e : Scan) (m n : Nat) (t : Token) (ts : List Token) (hg : s.Gives m t s')
      (hr : Collects s' n ts e) : Collects s (m + n) (t :: ts) e

theorem Collects.drain {s e : Scan} {n : Nat} {ts : List Token} (h : s.Collects n ts e) :
    s.drain = (ts, e) := by
  induction h with
  | done s hf => exact drain_of_next?_eq_none ((next?_eq_none_iff s).mpr hf)
  | onward s s' e m n t ts hg _ ih => rw [drain_of_next?_eq_some hg.next?, ih]

theorem Collects.length_le {s e : Scan} {n : Nat} {ts : List Token} (h : s.Collects n ts e) :
    ts.length ≤ n := by
  induction h with
  | done => exact Nat.le_refl 0
  | onward s s' e m n t ts hg _ ih =>
    have hm := hg.pos
    simp only [List.length_cons]
    omega

theorem exists_collects (s : Scan) : ∃ n ts e, s.Collects n ts e ∧ n ≤ s.left := by
  -- By what is left: every turn of the loop makes a step, which is paid for.
  cases hf : s.finished with
  | true => exact ⟨0, [], s, .done s hf, Nat.zero_le _⟩
  | false =>
    obtain ⟨m, t, s', hg, hm⟩ := s.exists_gives hf
    have hpos := hg.pos
    obtain ⟨n, ts, e, hc, hn⟩ := exists_collects s'
    exact ⟨m + n, t :: ts, e, .onward s s' e m n t ts hg hc, by omega⟩
termination_by s.left

end Scan

namespace Lexer

/-- **Scans come to their end.** Whatever the rules and settings, a step shortens what is left of a
text, the loop for the next token makes no more steps than that has characters and one more, and so does
the whole scan of a text, which cannot give out more tokens either. -/
theorem scan_terminates (rules : List Rule) (settings : Settings) :
    (∀ s : Scan, s.lexer = ofRules rules settings → s.rest ≠ [] →
      s.step.2.rest.length < s.rest.length) ∧
    (∀ s : Scan, s.lexer = ofRules rules settings → s.finished = false →
      ∃ n t s', s.Gives n t s' ∧ s.next? = some (t, s') ∧ n ≤ s.rest.length + 1) ∧
    ∀ text : String, ∃ n e,
      ((ofRules rules settings).scan text).Collects n
        ((ofRules rules settings).tokenize text) e ∧
      n ≤ text.length + 1 ∧ ((ofRules rules settings).tokenize text).length ≤ text.length + 1 := by
  refine ⟨fun s _ h => s.step_rest_lt_of_ne_nil h, ?_, ?_⟩
  · intro s _ hf
    obtain ⟨n, t, s', hg, hn⟩ := s.exists_gives hf
    rw [Scan.left_of_unfinished hf] at hn
    exact ⟨n, t, s', hg, hg.next?, by omega⟩
  · intro text
    obtain ⟨n, ts, e, hc, hn⟩ := ((ofRules rules settings).scan text).exists_collects
    have hleft : ((ofRules rules settings).scan text).left = text.length + 1 := by
      rw [Scan.left_of_unfinished rfl, ← String.length_toList]
      rfl
    have hts : (ofRules rules settings).tokenize text = ts := by
      rw [tokenize, Scan.remaining, hc.drain]
    rw [hleft] at hn
    rw [hts]
    exact ⟨n, e, hc, hn, Nat.le_trans hc.length_le hn⟩

/-- Rules that take little: a comment without delimiters, an empty text, an empty left delimiter, and a
NUL. -/
def meagreRules : List Rule :=
  [.literal .multiLineComment "#", .literal (.custom "Nothing") "", .enclosed .string "" "'",
    .literal (.custom "Null") "\x00"]

theorem scan_terminates_meagreRules :
    ((ofRules meagreRules {}).scan "##\x00").rest ≠ [] ∧
    ((ofRules meagreRules {}).scan "##\x00").finished = false ∧
    ((ofRules meagreRules {}).scan "##\x00").step.2.rest.length <
      ((ofRules meagreRules {}).scan "##\x00").rest.length ∧
    ∃ n t s', ((ofRules meagreRules {}).scan "##\x00").Gives n t s' ∧
      ((ofRules meagreRules {}).scan "##\x00").next? = some (t, s') ∧
      n ≤ ((ofRules meagreRules {}).scan "##\x00").rest.length + 1 := by
  have hrest : ((ofRules meagreRules {}).scan "##\x00").rest ≠ [] := by decide
  have hterm := scan_terminates meagreRules {}
  exact ⟨hrest, rfl, hterm.1 _ rfl hrest, hterm.2.1 _ rfl rfl⟩

end Lexer

end LexicalRules
