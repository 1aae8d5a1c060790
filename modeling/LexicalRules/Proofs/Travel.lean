import LexicalRules.Location
import Mathlib.Tactic.SplitIfs

/-! # How far a text leads

Where `Location.travel` comes to, seen from where it starts. Lines only go up; columns go back at line
feeds and carriage returns, and `Metric.width` is what all other characters add to them. `Forwards` says
of a text that each of its characters leads forwards in some order of places. `le_travel_iff` says
exactly which texts lead back in the order of places.
-/

namespace LexicalRules
set_option autoImplicit false

/-- The columns that `s` takes on one line. -/
def Metric.width (m : Metric) : List Char → Nat
  | [] => 0
  | c :: cs => (if c = '\t' then m.tabSize else 1) + m.width cs

/-- The characters of `s` lead forwards along `R`, wherever they stand. -/
structure Forwards (R : Location → Location → Prop) (m : Metric) (s : List Char) : Prop where
  refl : ∀ l, R l l
  trans : ∀ {a b c}, R a b → R b c → R a c
  after : ∀ c ∈ s, ∀ l, R l (l.after m c)

theorem Forwards.subset {R : Location → Location → Prop} {m : Metric} {s t : List Char}
    (h : Forwards R m s) (ht : t ⊆ s) : Forwards R m t :=
  ⟨h.refl, h.trans, fun c hc => h.after c (ht hc)⟩

theorem Forwards.travel {R : Location → Location → Prop} {m : Metric} {s : List Char}
    (h : Forwards R m s) (l : Location) : R l (l.travel m s) := by
  induction s generalizing l with
  | nil => exact h.refl l
  | cons c s ih =>
    have hc := h.after c List.mem_cons_self l
    have hs := ih (h.subset (List.subset_cons_self c s)) (l.after m c)
    exact h.trans hc hs

theorem exists_last_of_mem (a : Char) (s : List Char) (h : a ∈ s) :
    ∃ u v, s = u ++ a :: v ∧ a ∉ v := by
  obtain ⟨u, v, hs, hu⟩ := List.eq_append_cons_of_mem (List.mem_reverse.mpr h)
  refine ⟨v.reverse, u.reverse, ?_, by simpa using hu⟩
  simpa using congrArg List.reverse hs

namespace Location

/-! ## Lines -/

theorem line_le_after (m : Metric) (l : Location) (c : Char) : l.line ≤ (l.after m c).line := by
  unfold after
  split
  · exact Nat.le_refl _
  · split
    · exact Nat.le_succ _
    · split
      · exact Nat.le_refl _
      · split <;> exact Nat.le_refl _

theorem forwards_line (m : Metric) (s : List Char) :
    Forwards (fun a b => a.line ≤ b.line) m s where
  refl _ := Nat.le_refl _
  trans := Nat.le_trans
  after c _ l := l.line_le_after m c

/-- Where there are lines at all, each line feed starts one. -/
theorem travel_line (m : Metric) (hm : m.singleLine = false) (l : Location)
    (s : List Char) : (l.travel m s).line = l.line + s.count '\n' := by
  induction s generalizing l with
  | nil => rfl
  | cons c s ih =>
    have hc : (l.after m c).line = l.line + if c = '\n' then 1 else 0 := by
      unfold after
      split_ifs <;> simp_all
    rw [travel_cons, ih, hc, List.count_cons]
    simp only [beq_iff_eq]
    omega

/-! ## Columns -/

theorem le_after (m : Metric) (l : Location) (c : Char) (h : m.singleLine = true ∨ c ≠ '\r') :
    l ≤ l.after m c := by
  rw [le_iff]
  unfold after
  split_ifs with hs hn hr ht
  · exact .inr ⟨rfl, Nat.le_succ _⟩
  · exact .inl (Nat.lt_succ_self _)
  · rcases h with h | h
    · exact absurd h hs
    · exact absurd hr h
  · exact .inr ⟨rfl, Nat.le_add_right _ _⟩
  · exact .inr ⟨rfl, Nat.le_succ _⟩

theorem forwards_le (m : Metric) (s : List Char) (h : m.singleLine = true ∨ '\r' ∉ s) :
    Forwards (· ≤ ·) m s where
  refl := le_refl
  trans := le_trans
  after c hc l := by
    apply l.le_after m c
    rcases h with h | h
    · exact .inl h
    · exact .inr fun he => h (he ▸ hc)

theorem travel_of_line (m : Metric) (hm : m.singleLine = false) (l : Location) (s : List Char)
    (hn : '\n' ∉ s) (hr : '\r' ∉ s) : l.travel m s = ⟨l.line, l.column + m.width s⟩ := by
  induction s generalizing l with
  | nil => rfl
  | cons c s ih =>
    rw [List.mem_cons, not_or] at hn hr
    have hc : l.after m c = ⟨l.line, l.column + if c = '\t' then m.tabSize else 1⟩ := by
      simp only [after, hm, Ne.symm hn.1, Ne.symm hr.1, if_false, Bool.false_eq_true]
      split <;> rfl
    rw [travel_cons, hc, ih _ hn.2 hr.2, Metric.width, Nat.add_assoc]

/-- Behind its last carriage return a text without line feeds leads along the line it started on. -/
theorem travel_return (m : Metric) (hm : m.singleLine = false) (l : Location) (s t : List Char)
    (hn : '\n' ∉ s ++ '\r' :: t) (hr : '\r' ∉ t) :
    l.travel m (s ++ '\r' :: t) = ⟨l.line, m.width t⟩ := by
  simp only [List.mem_append, List.mem_cons, not_or] at hn
  have hs : (l.travel m s).line = l.line := by
    rw [l.travel_line m hm s, List.count_eq_zero.mpr hn.1, Nat.add_zero]
  have hc : (l.travel m s).after m '\r' = ⟨l.line, 0⟩ := by simp [after, hm, hs]
  rw [travel_append, travel_cons, hc, travel_of_line m hm _ t hn.2.2 hr, Nat.zero_add]

/-- **Which texts lead back.** Only a text of one line does that goes back to the first column and is
narrower behind its last carriage return than the column it started in. -/
theorem le_travel_iff (m : Metric) (l : Location) (s : List Char) :
    l ≤ l.travel m s ↔ ¬(m.singleLine = false ∧ '\n' ∉ s ∧
      ∃ u v, s = u ++ '\r' :: v ∧ '\r' ∉ v ∧ m.width v < l.column) := by
  constructor
  · rintro hle ⟨hm, hn, u, v, rfl, hr, hw⟩
    rw [travel_return m hm l u v hn hr, le_iff] at hle
    simp only at hle
    omega
  · intro h
    by_cases hf : m.singleLine = true ∨ '\r' ∉ s
    · exact (forwards_le m s hf).travel l
    · rw [not_or, Bool.not_eq_true, Classical.not_not] at hf
      obtain ⟨hm, hr⟩ := hf
      by_cases hn : '\n' ∈ s
      · have hl := l.travel_line m hm s
        have hc := List.count_pos_iff.mpr hn
        exact (le_iff _ _).mpr (.inl (by omega))
      · obtain ⟨u, v, rfl, hv⟩ := exists_last_of_mem '\r' s hr
        have hw : l.column ≤ m.width v :=
          Nat.le_of_not_lt fun hlt => h ⟨hm, hn, u, v, rfl, hv, hlt⟩
        rw [travel_return m hm l u v hn hv, le_iff]
        exact .inr ⟨rfl, hw⟩

end Location

end LexicalRules
