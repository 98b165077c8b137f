import Mathlib.Order.Lattice
import Mathlib.Data.List.Basic
import Mathlib.Tactic.Common

/-!
# Pairing two sorted lists

Two increasing lists of the same length are paired element by element.  The pair of
an element is told by its rank, the number of smaller elements, alone
(`mem_zip_iff`), so the pairing keeps the order (`lt_iff_of_mem_zip`).
-/

namespace SortedPairing

variable {α β : Type*} [LinearOrder α] [LinearOrder β]

/-- The number of elements below this one. -/
def rank (l : List α) (a : α) : Nat := l.countP fun b => decide (b < a)

theorem rank_cons (b : α) (l : List α) (a : α) :
    rank (b :: l) a = rank l a + if b < a then 1 else 0 := by
  simp [rank, List.countP_cons]

/-- Below the first element of an increasing list there is nothing. -/
theorem rank_head {a : α} {l : List α} (h : (a :: l).Pairwise (· < ·)) : rank (a :: l) a = 0 := by
  rw [rank, List.countP_eq_zero]
  intro b hb
  rw [decide_eq_true_iff, not_lt]
  rcases List.mem_cons.mp hb with rfl | hb
  · exact le_rfl
  · exact le_of_lt (List.rel_of_pairwise_cons h hb)

/-- Below the others there is the first element, too. -/
theorem rank_tail {a b : α} {l : List α} (h : (a :: l).Pairwise (· < ·)) (hb : b ∈ l) :
    rank (a :: l) b = rank l b + 1 := by
  rw [rank_cons, if_pos (List.rel_of_pairwise_cons h hb)]

theorem rank_le {l : List α} {a b : α} (h : a ≤ b) : rank l a ≤ rank l b := by
  refine List.countP_mono_left fun c _ hc => ?_
  rw [decide_eq_true_iff] at hc ⊢
  exact lt_of_lt_of_le hc h

/-- An element is counted below everything greater. -/
theorem rank_lt {l : List α} {a b : α} (ha : a ∈ l) (h : a < b) : rank l a < rank l b := by
  induction l with
  | nil => cases ha
  | cons c l ih =>
      rw [rank_cons, rank_cons]
      rcases List.mem_cons.mp ha with rfl | ha
      · rw [if_neg (lt_irrefl a), if_pos h]
        exact Nat.lt_succ_of_le (rank_le (le_of_lt h))
      · have hrest := ih ha
        by_cases hca : c < a
        · rw [if_pos hca, if_pos (lt_trans hca h)]
          omega
        · rw [if_neg hca]
          omega

theorem rank_lt_iff {l : List α} {a b : α} (ha : a ∈ l) : rank l a < rank l b ↔ a < b := by
  constructor
  · intro h
    by_contra hnot
    exact Nat.not_le.mpr h (rank_le (not_lt.mp hnot))
  · exact rank_lt ha

/-- **Elements are paired by rank.** -/
theorem mem_zip_iff {l : List α} {m : List β} (hl : l.Pairwise (· < ·)) (hm : m.Pairwise (· < ·))
    (hlength : l.length = m.length) {a : α} {b : β} :
    (a, b) ∈ l.zip m ↔ a ∈ l ∧ b ∈ m ∧ rank l a = rank m b := by
  induction l generalizing m with
  | nil => simp
  | cons a' l ih =>
      cases m with
      | nil => cases hlength
      | cons b' m =>
          have hrest := ih hl.of_cons hm.of_cons (Nat.succ.inj hlength)
          rw [List.zip_cons_cons, List.mem_cons, hrest]
          constructor
          · rintro (⟨⟨⟩⟩ | ⟨ha, hb, hrank⟩)
            · exact ⟨List.mem_cons_self, List.mem_cons_self, by rw [rank_head hl, rank_head hm]⟩
            · refine ⟨List.mem_cons_of_mem _ ha, List.mem_cons_of_mem _ hb, ?_⟩
              rw [rank_tail hl ha, rank_tail hm hb, hrank]
          · rintro ⟨ha, hb, hrank⟩
            -- both are first in their lists, or neither is
            rcases List.mem_cons.mp ha with rfl | ha
            · rcases List.mem_cons.mp hb with rfl | hb
              · exact Or.inl rfl
              · rw [rank_head hl, rank_tail hm hb] at hrank
                omega
            · rcases List.mem_cons.mp hb with rfl | hb
              · rw [rank_head hm, rank_tail hl ha] at hrank
                omega
              · rw [rank_tail hl ha, rank_tail hm hb] at hrank
                exact Or.inr ⟨ha, hb, Nat.succ.inj hrank⟩

/-- Greater elements have greater partners. -/
theorem lt_iff_of_mem_zip {l : List α} {m : List β} (hl : l.Pairwise (· < ·))
    (hm : m.Pairwise (· < ·)) (hlength : l.length = m.length) {a a' : α} {b b' : β}
    (h : (a, b) ∈ l.zip m) (h' : (a', b') ∈ l.zip m) : a < a' ↔ b < b' := by
  obtain ⟨ha, hb, hrank⟩ := (mem_zip_iff hl hm hlength).mp h
  obtain ⟨-, -, hrank'⟩ := (mem_zip_iff hl hm hlength).mp h'
  rw [← rank_lt_iff ha, ← rank_lt_iff hb, hrank, hrank']

end SortedPairing
