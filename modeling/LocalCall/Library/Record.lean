import LocalCall.Library.Piece
import LocalCall.Library.BigEndian
import Mathlib.Logic.Equiv.Defs

/-! # Records of a fixed size

A record is written as a number of cells, and any cells of that number are some record. So a field
that lies in a memory is read from it, and a stretch of the right size is a row of records.
-/
set_option autoImplicit false

structure Record (α β : Type) where
  size : Nat
  write : α → List β
  ofCells : List β → α
  length_write : ∀ a, (write a).length = size
  ofCells_write : ∀ a, ofCells (write a) = a
  write_ofCells : ∀ l : List β, l.length = size → write (ofCells l) = l

namespace Record
open Piece
variable {α β γ : Type} (R : Record α β)

attribute [simp] length_write

/-- The record at the position `i`, none if it leaves the memory. -/
def read (data : List β) (i : Nat) : Option α := (slice data i R.size).map R.ofCells

/-- The records one behind the other from the position `i` on. -/
def readAll (data : List β) (i : Nat) : Nat → Option (List α)
  | 0 => some []
  | n + 1 =>
    match R.read data i with
    | none => none
    | some a => (readAll data (i + R.size) n).map (a :: ·)

variable {R} {data : List β} {i : Nat} {a : α} {as : List α}

theorem read_eq_some_iff : R.read data i = some a ↔ At data i (R.write a) := by
  rw [read, Option.map_eq_some_iff]
  constructor
  · rintro ⟨l, hSlice, rfl⟩
    obtain ⟨hLength, hAt⟩ := slice_eq_some_iff.mp hSlice
    rwa [R.write_ofCells l hLength]
  · intro hAt
    exact ⟨R.write a, hAt.slice (R.length_write a), R.ofCells_write a⟩

theorem read_of_le (h : i + R.size ≤ data.length) : ∃ a, R.read data i = some a := by
  obtain ⟨p, hLength, hAt⟩ := slice_of_le h
  exact ⟨R.ofCells p, by rw [read, hAt.slice hLength]; rfl⟩

theorem write_injective {b : α} (h : R.write a = R.write b) : a = b := by
  rw [← R.ofCells_write a, h, R.ofCells_write]

variable (R)

@[simp] theorem length_flatMap_write (as : List α) :
    (as.flatMap R.write).length = R.size * as.length := by
  induction as with
  | nil => rfl
  | cons a as ih =>
    rw [List.flatMap_cons, List.length_append, ih, R.length_write, List.length_cons,
      Nat.mul_succ, Nat.add_comm]

variable {R}

theorem readAll_of_at (h : At data i (as.flatMap R.write)) :
    R.readAll data i as.length = some as := by
  induction as generalizing i with
  | nil => rfl
  | cons a as ih =>
    rw [List.flatMap_cons, at_append_iff, R.length_write] at h
    rw [List.length_cons, readAll, read_eq_some_iff.mpr h.1, ih h.2]
    rfl

variable (R)

theorem exists_flatMap_write {l : List β} {n : Nat} (h : l.length = R.size * n) :
    ∃ as : List α, as.length = n ∧ as.flatMap R.write = l := by
  induction n generalizing l with
  | zero => exact ⟨[], rfl, (List.length_eq_zero_iff.mp h).symm⟩
  | succ n ih =>
    rw [Nat.mul_succ] at h
    have hHead : (l.take R.size).length = R.size := by
      rw [List.length_take]
      omega
    have hTail : (l.drop R.size).length = R.size * n := by
      rw [List.length_drop]
      omega
    obtain ⟨as, hLength, hWrite⟩ := ih hTail
    refine ⟨R.ofCells (l.take R.size) :: as, by rw [List.length_cons, hLength], ?_⟩
    rw [List.flatMap_cons, hWrite, R.write_ofCells _ hHead, List.take_append_drop]

theorem exists_write_append {l : List β} (h : R.size ≤ l.length) :
    ∃ a rest, l = R.write a ++ rest ∧ l.length = R.size + rest.length := by
  have hHead : (l.take R.size).length = R.size := by
    rw [List.length_take]
    omega
  refine ⟨R.ofCells (l.take R.size), l.drop R.size, ?_, ?_⟩
  · rw [R.write_ofCells _ hHead, List.take_append_drop]
  · rw [List.length_drop]
    omega

/-! ## Records made of records -/

def prod (S : Record γ β) : Record (α × γ) β where
  size := R.size + S.size
  write x := R.write x.1 ++ S.write x.2
  ofCells l := (R.ofCells (l.take R.size), S.ofCells (l.drop R.size))
  length_write x := by rw [List.length_append, R.length_write, S.length_write]
  ofCells_write x := by
    rw [List.take_left' (R.length_write x.1), List.drop_left' (R.length_write x.1),
      R.ofCells_write, S.ofCells_write]
  write_ofCells l h := by
    have hHead : (l.take R.size).length = R.size := by
      rw [List.length_take]
      omega
    have hTail : (l.drop R.size).length = S.size := by
      rw [List.length_drop]
      omega
    rw [R.write_ofCells _ hHead, S.write_ofCells _ hTail, List.take_append_drop]

/-- The same cells under another name for what they say. -/
def equiv (e : γ ≃ α) : Record γ β where
  size := R.size
  write c := R.write (e c)
  ofCells l := e.symm (R.ofCells l)
  length_write c := R.length_write (e c)
  ofCells_write c := by rw [R.ofCells_write, Equiv.symm_apply_apply]
  write_ofCells l h := by rw [Equiv.apply_symm_apply, R.write_ofCells l h]

/-- A number of `w` bits in `k` bytes. -/
def word (w k : Nat) (hw : 2 ^ w = 256 ^ k) : Record (BitVec w) UInt8 where
  size := k
  write x := BigEndian.bytes k x.toNat
  ofCells l := BitVec.ofNat w (BigEndian.value l)
  length_write x := BigEndian.length_bytes k x.toNat
  ofCells_write x := by
    rw [BigEndian.value_bytes_of_lt (hw ▸ x.isLt), BitVec.ofNat_toNat, BitVec.setWidth_eq]
  write_ofCells l h := by
    have hLt : BigEndian.value l < 2 ^ w := by rw [hw, ← h]; exact BigEndian.value_lt l
    rw [BitVec.toNat_ofNat, Nat.mod_eq_of_lt hLt, ← h, BigEndian.bytes_value]

def byte : Record UInt8 UInt8 where
  size := 1
  write b := [b]
  ofCells l := l.getD 0 0
  length_write _ := rfl
  ofCells_write _ := rfl
  write_ofCells l h := by
    obtain ⟨b, rfl⟩ := List.length_eq_one_iff.mp h
    rfl

end Record
