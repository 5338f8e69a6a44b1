import Mathlib.Data.List.Basic

/-! # Pieces of a memory

A read of `n` cells from a position on fails when it leaves the memory. A piece lies at a position
when that read gives it.
-/
set_option autoImplicit false

namespace Piece
variable {α : Type}

def slice (data : List α) (i n : Nat) : Option (List α) :=
  if i + n ≤ data.length then some ((data.drop i).take n) else none

def At (data : List α) (i : Nat) (p : List α) : Prop := slice data i p.length = some p

variable {data p q front back : List α} {i n : Nat} {a : α}

theorem at_iff : At data i p ↔ i + p.length ≤ data.length ∧ (data.drop i).take p.length = p := by
  unfold At slice
  constructor
  · intro h
    split at h
    · rename_i hLe
      exact ⟨hLe, Option.some.inj h⟩
    · cases h
  · rintro ⟨hLe, hEq⟩
    rw [if_pos hLe, hEq]

theorem At.le (h : At data i p) : i + p.length ≤ data.length := (at_iff.mp h).1

theorem At.slice (h : At data i p) (hn : p.length = n) : slice data i n = some p := hn ▸ h

theorem slice_of_le (h : i + n ≤ data.length) : ∃ p, p.length = n ∧ At data i p := by
  have hLength : ((data.drop i).take n).length = n := by
    rw [List.length_take, List.length_drop]
    omega
  refine ⟨(data.drop i).take n, hLength, at_iff.mpr ⟨?_, ?_⟩⟩ <;> rw [hLength]
  exact h

theorem slice_eq_some_iff : slice data i n = some p ↔ p.length = n ∧ At data i p := by
  constructor
  · intro h
    have hLe : i + n ≤ data.length := by
      by_contra hGt
      rw [slice, if_neg hGt] at h
      cases h
    obtain ⟨q, hLength, hAt⟩ := slice_of_le hLe
    rw [hAt.slice hLength] at h
    cases h
    exact ⟨hLength, hAt⟩
  · rintro ⟨hLength, hAt⟩
    exact hAt.slice hLength

theorem at_middle (front p back : List α) : At (front ++ (p ++ back)) front.length p := by
  refine at_iff.mpr ⟨?_, ?_⟩
  · simp only [List.length_append]
    omega
  · rw [List.drop_left, List.take_left]

theorem at_zero (p back : List α) : At (p ++ back) 0 p := at_middle [] p back

theorem At.split (h : At data i p) :
    data = data.take i ++ (p ++ data.drop (i + p.length)) := by
  obtain ⟨-, hEq⟩ := at_iff.mp h
  have hDrop : data.drop i = p ++ data.drop (i + p.length) := by
    rw [← List.drop_drop]
    conv_lhs => rw [← List.take_append_drop p.length (data.drop i), hEq]
  rw [← hDrop, List.take_append_drop]

theorem at_nil_iff : At data i [] ↔ i ≤ data.length := by
  rw [at_iff]
  simp

theorem at_append_iff : At data i (p ++ q) ↔ At data i p ∧ At data (i + p.length) q := by
  simp only [at_iff, List.length_append]
  constructor
  · rintro ⟨hLe, hEq⟩
    have hTake : (data.drop i).take p.length = p := by
      have h := congrArg (List.take p.length) hEq
      rwa [List.take_take, Nat.min_eq_left (Nat.le_add_right _ _), List.take_left] at h
    have hDrop : ((data.drop i).drop p.length).take q.length = q := by
      have h := congrArg (List.drop p.length) hEq
      rwa [List.drop_take, Nat.add_sub_cancel_left, List.drop_left] at h
    rw [List.drop_drop] at hDrop
    exact ⟨⟨by omega, hTake⟩, by omega, hDrop⟩
  · rintro ⟨⟨-, hp⟩, hLe, hq⟩
    rw [← List.drop_drop] at hq
    refine ⟨by omega, ?_⟩
    rw [List.take_add, hp, hq]

theorem at_cons_iff : At data i (a :: p) ↔ data[i]? = some a ∧ At data (i + 1) p := by
  have hHead : At data i [a] ↔ data[i]? = some a := by
    rw [at_iff]
    constructor
    · rintro ⟨hLe, hEq⟩
      have h := congrArg (fun l : List α => l[0]?) hEq
      rwa [List.length_singleton, List.getElem?_take_of_lt Nat.zero_lt_one,
        List.getElem?_drop, Nat.add_zero] at h
    · intro h
      obtain ⟨hi, rfl⟩ := List.getElem?_eq_some_iff.mp h
      refine ⟨hi, ?_⟩
      rw [List.drop_eq_getElem_cons hi]
      rfl
  rw [← hHead]
  exact at_append_iff (p := [a])

theorem At.unique (hp : At data i p) (hq : At data i q) (h : p.length = q.length) : p = q := by
  have hSlice := hp.slice h
  rw [hq.slice rfl] at hSlice
  exact (Option.some.inj hSlice).symm

theorem At.append_right (h : At front i p) (back : List α) : At (front ++ back) i p := by
  rw [h.split, List.append_assoc, List.append_assoc]
  have hLe := h.le
  have hAt := at_middle (front.take i) p (front.drop (i + p.length) ++ back)
  rwa [List.length_take, Nat.min_eq_left (by omega)] at hAt

theorem At.take (h : At data i p) (hn : i + p.length ≤ n) : At (data.take n) i p := by
  obtain ⟨hLe, hEq⟩ := at_iff.mp h
  refine at_iff.mpr ⟨?_, ?_⟩
  · rw [List.length_take]
    omega
  · rw [List.drop_take, List.take_take, Nat.min_eq_left (by omega), hEq]

end Piece
