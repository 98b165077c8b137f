import Mathlib.Data.List.Perm.Subperm
import Std.Data.ExtTreeSet.Lemmas

/-!
# Counting in ordered sets

A set that is built from a list, or compared with one by counting, says how the
list is made up: its size is the length of the list only without repetitions,
and a list without repetitions lists the whole set only if it meets it as often
as the set has elements.
-/

namespace OrderedSet

variable {α : Type*} [Ord α] [Std.TransOrd α] [Std.LawfulEqOrd α]

theorem nodup_toList (s : Std.ExtTreeSet α) : s.toList.Nodup :=
  s.distinct_toList.imp Std.ReflCmp.ne_of_cmp_ne_eq

/-- A set made from a list is as large as the list exactly if nothing repeats. -/
theorem size_ofList_eq_length_iff {l : List α} :
    (Std.ExtTreeSet.ofList l).size = l.length ↔ l.Nodup := by
  classical
  constructor
  · intro hsize
    have hsub : (Std.ExtTreeSet.ofList l).toList ⊆ l := by
      intro a ha
      simpa using ha
    have hlength : l.length = (Std.ExtTreeSet.ofList l).toList.length := by
      rw [Std.ExtTreeSet.length_toList, hsize]
    have hperm := ((nodup_toList _).subperm hsub).perm_of_length_le (Nat.le_of_eq hlength)
    exact hperm.nodup_iff.mp (nodup_toList _)
  · intro hnodup
    apply Std.ExtTreeSet.size_ofList
    refine hnodup.imp fun {a b} hne => ?_
    simpa using hne

/-- Without repetitions, a list meets a set as often as the set has elements
exactly if it lists all of them. -/
theorem length_filter_eq_size_iff [DecidableEq α] {s : Std.ExtTreeSet α} {l : List α}
    (hnodup : l.Nodup) :
    (l.filter fun a => decide (a ∈ s)).length = s.size ↔ ∀ a ∈ s, a ∈ l := by
  have hlisted : (l.filter fun a => decide (a ∈ s)).Nodup := hnodup.filter _
  constructor
  · intro hsize a ha
    have hsub : (l.filter fun a => decide (a ∈ s)) ⊆ s.toList := by
      intro b hb
      simpa using (List.mem_filter.mp hb).2
    have hlength : s.toList.length = (l.filter fun a => decide (a ∈ s)).length := by
      rw [Std.ExtTreeSet.length_toList, hsize]
    have hperm := (hlisted.subperm hsub).perm_of_length_le (Nat.le_of_eq hlength)
    exact (List.mem_filter.mp (hperm.mem_iff.mpr (Std.ExtTreeSet.mem_toList.mpr ha))).1
  · intro hall
    have hperm : (l.filter fun a => decide (a ∈ s)).Perm s.toList := by
      refine (List.perm_ext_iff_of_nodup hlisted (nodup_toList s)).mpr fun a => ?_
      rw [List.mem_filter, Std.ExtTreeSet.mem_toList, decide_eq_true_iff]
      exact ⟨And.right, fun ha => ⟨hall a ha, ha⟩⟩
    rw [hperm.length_eq, Std.ExtTreeSet.length_toList]

end OrderedSet
