import Mathlib.Data.List.Perm.Subperm
import Mathlib.Data.List.Basic
import Mathlib.Logic.Function.Basic

/-! # A pool whose members are free or referenced, each exactly once

The pool has `n` numbered members, a flag for each that says whether it is free, and the list of
all references to members that anybody holds. The partition is stated by counting, so that moving
a reference between holders is a permutation and changes nothing.
-/
namespace Pool
set_option autoImplicit false

def Partition (n : Nat) (free : Nat → Bool) (refs : List Nat) : Prop :=
  ∀ i, (free i).toNat + refs.count i = if i < n then 1 else 0

variable {n : Nat} {free : Nat → Bool} {refs refs' : List Nat} {i : Nat}

theorem Partition.perm (h : Partition n free refs) (hPerm : refs.Perm refs') :
    Partition n free refs' := by
  intro i
  rw [← hPerm.count_eq]
  exact h i

theorem Partition.lt_of_mem (h : Partition n free refs) (hi : i ∈ refs) : i < n := by
  have hCount : 0 < refs.count i := List.count_pos_iff.mpr hi
  have hSum := h i
  split at hSum
  · assumption
  · omega

theorem Partition.lt_of_free (h : Partition n free refs) (hi : free i = true) : i < n := by
  have hSum := h i
  rw [hi] at hSum
  split at hSum
  · assumption
  · simp at hSum

theorem Partition.free_eq_false (h : Partition n free refs) (hi : i ∈ refs) : free i = false := by
  have hCount : 0 < refs.count i := List.count_pos_iff.mpr hi
  have hSum := h i
  cases hFree : free i
  · rfl
  · rw [hFree] at hSum
    split at hSum <;> simp at hSum
    omega

theorem Partition.not_mem (h : Partition n free refs) (hi : free i = true) : i ∉ refs := by
  intro hMem
  rw [h.free_eq_false hMem] at hi
  cases hi

theorem Partition.mem_of_not_free (h : Partition n free refs) (hLt : i < n)
    (hi : free i = false) : i ∈ refs := by
  have hSum := h i
  rw [hi, if_pos hLt] at hSum
  apply List.count_pos_iff.mp
  simp at hSum
  omega

theorem Partition.nodup (h : Partition n free refs) : refs.Nodup := by
  rw [List.nodup_iff_count]
  intro i
  have hSum := h i
  split at hSum <;> omega

theorem Partition.length_le (h : Partition n free refs) : refs.length ≤ n := by
  have hSub : refs ⊆ List.range n := fun i hi => List.mem_range.mpr (h.lt_of_mem hi)
  simpa using (h.nodup.subperm hSub).length_le

theorem Partition.exists_free (h : Partition n free refs) (hLen : refs.length < n) :
    ∃ i, i < n ∧ free i = true := by
  by_contra hNone
  have hSub : List.range n ⊆ refs := by
    intro i hi
    have hLt : i < n := List.mem_range.mp hi
    refine h.mem_of_not_free hLt ?_
    cases hFree : free i
    · rfl
    · exact absurd ⟨i, hLt, hFree⟩ hNone
  have hLe : n ≤ refs.length := by
    simpa using (List.nodup_range.subperm hSub).length_le
  omega

theorem Partition.take (h : Partition n free refs) (hi : free i = true) :
    Partition n (Function.update free i false) (i :: refs) := by
  intro j
  have hSum := h j
  by_cases hj : j = i
  · subst hj
    rw [hi] at hSum
    rw [Function.update_self, List.count_cons_self]
    simp at hSum ⊢
    omega
  · rw [Function.update_of_ne hj, List.count_cons_of_ne (Ne.symm hj)]
    exact hSum

theorem Partition.release (h : Partition n free (i :: refs)) :
    Partition n (Function.update free i true) refs := by
  intro j
  have hSum := h j
  by_cases hj : j = i
  · subst hj
    rw [h.free_eq_false List.mem_cons_self, List.count_cons_self] at hSum
    rw [Function.update_self]
    simp at hSum ⊢
    omega
  · rw [List.count_cons_of_ne (Ne.symm hj)] at hSum
    rw [Function.update_of_ne hj]
    exact hSum

theorem partition_all_free (hFree : ∀ i, free i = decide (i < n)) : Partition n free [] := by
  intro i
  rw [hFree i]
  by_cases hi : i < n <;> simp [hi]

end Pool
