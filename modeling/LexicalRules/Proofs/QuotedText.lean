import LexicalRules.Escape
import LexicalRules.Text.Quoted
import Mathlib.Data.List.Basic
import Mathlib.Data.List.Chain
import Mathlib.Tactic.SplitIfs

/-! # What can be read off quoted text

A character is written between quotes as a pair, as its number or plainly, and no way of writing one is
the beginning of a way of writing another. `Quotes` asks for no more than this, so that it makes no
difference which characters are written by number. Two consequences are used for listings: quoted text
has no line feed, and where it stands behind a space it shows where it begins, whatever is in front of
that (`Quotes.append_quoted_inj`). The reason for the latter is that the quotes inside it stand behind
backslashes, while the one that opens it stands behind a space.
-/

namespace LexicalRules.Text
set_option autoImplicit false

/-! ## Splitting at a character -/

/-- Two texts that go on with the same character for the first time are split by it. -/
theorem append_cons_inj_first {x : Char} {u v a b : List Char} (hu : x ∉ u) (hv : x ∉ v)
    (h : u ++ x :: a = v ++ x :: b) : u = v ∧ a = b := by
  induction u generalizing v with
  | nil =>
    cases v with
    | nil => exact ⟨rfl, (List.cons.inj h).2⟩
    | cons d v => exact absurd (List.cons.inj h).1 fun hd => hv (hd ▸ List.mem_cons_self)
  | cons c u ih =>
    cases v with
    | nil => exact absurd (List.cons.inj h).1 fun hc => hu (hc ▸ List.mem_cons_self)
    | cons d v =>
      obtain ⟨hc, ht⟩ := List.cons.inj h
      obtain ⟨hu', hv'⟩ := ih (List.not_mem_of_not_mem_cons hu) (List.not_mem_of_not_mem_cons hv) ht
      exact ⟨by rw [hc, hu'], hv'⟩

theorem append_cons_inj_last {x : Char} {u v a b : List Char} (ha : x ∉ a) (hb : x ∉ b)
    (h : u ++ x :: a = v ++ x :: b) : u = v ∧ a = b := by
  have hr : a.reverse ++ x :: u.reverse = b.reverse ++ x :: v.reverse := by
    simpa using congrArg List.reverse h
  obtain ⟨ha', hu'⟩ := append_cons_inj_first (mt List.mem_reverse.mp ha) (mt List.mem_reverse.mp hb) hr
  exact ⟨List.reverse_inj.mp hu', List.reverse_inj.mp ha'⟩

/-! ## Digits -/

section Digits
variable {b : Nat} (hb : 1 < b)
include hb

theorem exists_of_mem_toDigits (n : Nat) (c : Char) (h : c ∈ Nat.toDigits b n) :
    ∃ d < b, c = Nat.digitChar d := by
  induction n using Nat.strongRecOn with
  | ind n ih =>
    rw [Nat.toDigits_eq_if hb] at h
    split at h
    · rename_i hn
      exact ⟨n, hn, List.mem_singleton.mp h⟩
    · rename_i hn
      rw [List.mem_append, List.mem_singleton] at h
      rcases h with h | h
      · exact ih (n / b) (Nat.div_lt_self (by omega) hb) h
      · exact ⟨n % b, Nat.mod_lt n (by omega), h⟩

theorem toDigits_injective (h16 : b ≤ 16) (n m : Nat) (h : Nat.toDigits b n = Nat.toDigits b m) :
    n = m := by
  have hdigit : ∀ d e : Nat, d < b → e < b → Nat.digitChar d = Nat.digitChar e → d = e := by
    have hall : ∀ d < 16, ∀ e < 16, Nat.digitChar d = Nat.digitChar e → d = e := by decide
    intro d e hd he
    exact hall d (by omega) e (by omega)
  induction n using Nat.strongRecOn generalizing m with
  | ind n ih =>
    rw [Nat.toDigits_eq_if hb, Nat.toDigits_eq_if hb (n := m)] at h
    split at h <;> split at h
    · rename_i hn hm
      exact hdigit n m hn hm (List.singleton_inj.mp h)
    · have hl := congrArg List.length h
      have hp := Nat.length_toDigits_pos (b := b) (n := m / b)
      simp only [List.length_append, List.length_singleton] at hl
      omega
    · have hl := congrArg List.length h
      have hp := Nat.length_toDigits_pos (b := b) (n := n / b)
      simp only [List.length_append, List.length_singleton] at hl
      omega
    · obtain ⟨hfront, hlast⟩ := List.append_inj' h rfl
      have hq := ih (n / b) (Nat.div_lt_self (by omega) hb) (m / b) hfront
      have hr := hdigit _ _ (Nat.mod_lt n (by omega)) (Nat.mod_lt m (by omega))
        (List.singleton_inj.mp hlast)
      rw [← Nat.div_add_mod n b, ← Nat.div_add_mod m b, hq, hr]

end Digits

theorem notMem_hexDigits (n : Nat) : '}' ∉ hexDigits n ∧ '"' ∉ hexDigits n ∧ '\n' ∉ hexDigits n := by
  have hall : ∀ d < 16, Nat.digitChar d ≠ '}' ∧ Nat.digitChar d ≠ '"' ∧ Nat.digitChar d ≠ '\n' := by
    decide
  refine ⟨fun h => ?_, fun h => ?_, fun h => ?_⟩
  all_goals
    obtain ⟨d, hd, hc⟩ := exists_of_mem_toDigits (by decide : 1 < 16) n _ h
    have hne := hall d hd
    simp [← hc] at hne

/-! ## Characters between quotes -/

/-- `q` writes each character as a pair that stands for it, as its number, or plainly. -/
def Quotes (q : Char → List Char) : Prop :=
  ∀ c, (∃ x, Escape.resolve x = some c ∧ q c = ['\\', x]) ∨
    q c = '\\' :: 'u' :: '{' :: hexDigits c.toNat ++ ['}'] ∨
    (c ≠ '"' ∧ c ≠ '\\' ∧ c ≠ '\n' ∧ q c = [c])

theorem quotes_quotedChar : Quotes quotedChar := by
  intro c
  unfold quotedChar
  split_ifs with hquote hbackslash hnul htab hn hr hunprintable
  · exact .inl ⟨'"', by rw [hquote]; rfl, rfl⟩
  · exact .inl ⟨'\\', by rw [hbackslash]; rfl, rfl⟩
  · exact .inl ⟨'0', by rw [hnul]; rfl, rfl⟩
  · exact .inl ⟨'t', by rw [htab]; rfl, rfl⟩
  · exact .inl ⟨'n', by rw [hn]; rfl, rfl⟩
  · exact .inl ⟨'r', by rw [hr]; rfl, rfl⟩
  · exact .inr (.inl rfl)
  · exact .inr (.inr ⟨hquote, hbackslash, hn, rfl⟩)

/-- The quotes of `s` stand behind backslashes. -/
def QuotesMarked (s : List Char) : Prop :=
  s.IsChain fun a b => b = '"' → a = '\\'

theorem quotesMarked_of_notMem {s : List Char} (h : '"' ∉ s) : QuotesMarked s := by
  induction s with
  | nil => exact .nil
  | cons c s ih =>
    have hs := List.not_mem_of_not_mem_cons h
    refine List.isChain_cons.mpr ⟨fun d hd hq => ?_, ih hs⟩
    exact absurd (List.mem_of_mem_head? hd) (hq ▸ hs)

namespace Quotes
variable {q : Char → List Char} (hq : Quotes q)
include hq

theorem append_inj {c d : Char} {a b : List Char} (h : q c ++ a = q d ++ b) : c = d ∧ a = b := by
  have hu : Escape.resolve 'u' = none := rfl
  obtain ⟨x, hx, hc⟩ | hc | ⟨-, hc', -, hc⟩ := hq c <;>
    obtain ⟨y, hy, hd⟩ | hd | ⟨-, hd', -, hd⟩ := hq d <;>
    rw [hc, hd] at h
  · simp only [List.cons_append, List.nil_append, List.cons.injEq, true_and] at h
    obtain ⟨rfl, rfl⟩ := h
    exact ⟨Option.some.inj (hx.symm.trans hy), rfl⟩
  · simp only [List.cons_append, List.nil_append, List.cons.injEq, true_and] at h
    rw [h.1, hu] at hx
    cases hx
  · exact absurd (List.cons.inj h).1.symm hd'
  · simp only [List.cons_append, List.nil_append, List.cons.injEq, true_and] at h
    rw [← h.1, hu] at hy
    cases hy
  · simp only [List.cons_append, List.append_assoc, List.nil_append, List.cons.injEq,
      true_and] at h
    obtain ⟨hn, rfl⟩ := append_cons_inj_first (notMem_hexDigits _).1 (notMem_hexDigits _).1 h
    have hnum := toDigits_injective (by decide : 1 < 16) (by decide) _ _ hn
    exact ⟨by rw [← Char.ofNat_toNat c, hnum, Char.ofNat_toNat], rfl⟩
  · exact absurd (List.cons.inj h).1.symm hd'
  · exact absurd (List.cons.inj h).1 hc'
  · exact absurd (List.cons.inj h).1 hc'
  · exact List.cons.inj h

theorem ne_nil (c : Char) : q c ≠ [] := by
  obtain ⟨x, -, hc⟩ | hc | ⟨-, -, -, hc⟩ := hq c <;> rw [hc] <;> exact List.cons_ne_nil _ _

/-- What stands between the quotes tells the text. -/
theorem flatMap_inj {s t : List Char} (h : s.flatMap q = t.flatMap q) : s = t := by
  induction s generalizing t with
  | nil =>
    cases t with
    | nil => rfl
    | cons d t =>
      exact absurd (List.append_eq_nil_iff.mp h.symm).1 (hq.ne_nil d)
  | cons c s ih =>
    cases t with
    | nil => exact absurd (List.append_eq_nil_iff.mp h).1 (hq.ne_nil c)
    | cons d t =>
      obtain ⟨hc, hs⟩ := hq.append_inj h
      rw [hc, ih hs]

theorem lineFeed_notMem (c : Char) : '\n' ∉ q c := by
  obtain ⟨x, hx, hc⟩ | hc | ⟨-, -, hn, hc⟩ := hq c
  · have hne : x ≠ '\n' := by
      rintro rfl
      cases hx
    simp [hc, hne.symm]
  · simp [hc, (notMem_hexDigits _).2.2]
  · simp [hc, Ne.symm hn]

/-! ### The quote that opens -/

theorem quotesMarked (c : Char) : QuotesMarked (q c) := by
  obtain ⟨x, -, hc⟩ | hc | ⟨-, -, -, hc⟩ := hq c
  · rw [hc]
    exact .cons_cons (fun _ => rfl) (.singleton x)
  · apply quotesMarked_of_notMem
    simp [hc, (notMem_hexDigits _).2.1]
  · rw [hc]
    exact .singleton c

theorem head?_flatMap (s : List Char) : (s.flatMap q).head? ≠ some '"' := by
  cases s with
  | nil => simp
  | cons c s =>
    obtain ⟨x, -, hc⟩ | hc | ⟨hquote, -, -, hc⟩ := hq c
    · simp [hc]
    · simp [hc]
    · simp [hc, hquote]

theorem quotesMarked_flatMap (s : List Char) : QuotesMarked (s.flatMap q) := by
  induction s with
  | nil => exact .nil
  | cons c s ih =>
    rw [List.flatMap_cons]
    refine List.isChain_append.mpr ⟨hq.quotesMarked c, ih, fun a _ b hb hquote => ?_⟩
    exact absurd (hquote ▸ hb) (hq.head?_flatMap s)

/-- A text in front of a space and quoted text cannot reach over the opening quote. -/
theorem eq_nil_of_append_quoted {s t w : List Char}
    (h : ' ' :: '"' :: s.flatMap q = w ++ ' ' :: '"' :: t.flatMap q) : w = [] := by
  match w with
  | [] => rfl
  | [c] =>
    have hquote : '"' = ' ' := (List.cons.inj (List.cons.inj h).2).1
    cases hquote
  | c :: d :: w =>
    have hs : s.flatMap q = w ++ ' ' :: '"' :: t.flatMap q :=
      (List.cons.inj (List.cons.inj h).2).2
    have hmarked := hq.quotesMarked_flatMap s
    rw [hs] at hmarked
    have hspace : ' ' = '\\' := (List.isChain_append_cons_cons.mp hmarked).2.1 rfl
    cases hspace

/-- **Quoted text is found again.** Behind a space it shows where it begins and what it stands for,
whatever stands in front of it. -/
theorem append_quoted_inj {u v s t : List Char}
    (h : u ++ ' ' :: '"' :: s.flatMap q = v ++ ' ' :: '"' :: t.flatMap q) :
    u = v ∧ s = t := by
  have huv : u = v := by
    rcases List.append_eq_append_iff.mp h with ⟨w, hv, hw⟩ | ⟨w, hu, hw⟩
    · rw [hv, hq.eq_nil_of_append_quoted hw, List.append_nil]
    · rw [hu, hq.eq_nil_of_append_quoted hw, List.append_nil]
  rw [huv, List.append_cancel_left_eq, List.cons.injEq, List.cons.injEq] at h
  exact ⟨huv, hq.flatMap_inj h.2.2⟩

end Quotes

end LexicalRules.Text
