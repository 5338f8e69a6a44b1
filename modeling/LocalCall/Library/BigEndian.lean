import Mathlib.Data.List.Induction
import Mathlib.Algebra.Ring.Nat

/-! # Numbers of a fixed width, the highest byte first -/
set_option autoImplicit false

namespace BigEndian

def bytes : Nat → Nat → List UInt8
  | 0, _ => []
  | k + 1, n => bytes k (n / 256) ++ [UInt8.ofNat n]

def value (l : List UInt8) : Nat := l.foldl (fun n b => 256 * n + b.toNat) 0

@[simp] theorem length_bytes (k n : Nat) : (bytes k n).length = k := by
  induction k generalizing n with
  | zero => rfl
  | succ k ih => rw [bytes, List.length_append, ih, List.length_singleton]

theorem value_concat (l : List UInt8) (b : UInt8) : value (l ++ [b]) = 256 * value l + b.toNat := by
  rw [value, List.foldl_append]
  rfl

theorem value_lt (l : List UInt8) : value l < 256 ^ l.length := by
  induction l using List.reverseRecOn with
  | nil => decide
  | append_singleton l b ih =>
    have hByte : b.toNat < 256 := b.toNat_lt
    rw [value_concat, List.length_append, List.length_singleton, Nat.pow_succ]
    omega

theorem value_bytes (k n : Nat) : value (bytes k n) = n % 256 ^ k := by
  induction k generalizing n with
  | zero => rw [Nat.pow_zero, Nat.mod_one]; rfl
  | succ k ih =>
    have hByte : (UInt8.ofNat n).toNat = n % 256 := UInt8.toNat_ofNat'
    rw [bytes, value_concat, ih, hByte, Nat.pow_succ, Nat.mul_comm (256 ^ k) 256, Nat.mod_mul]
    exact Nat.add_comm _ _

theorem value_bytes_of_lt {k n : Nat} (h : n < 256 ^ k) : value (bytes k n) = n := by
  rw [value_bytes, Nat.mod_eq_of_lt h]

theorem bytes_value (l : List UInt8) : bytes l.length (value l) = l := by
  induction l using List.reverseRecOn with
  | nil => rfl
  | append_singleton l b ih =>
    have hByte : b.toNat < 256 := b.toNat_lt
    have hHigh : (256 * value l + b.toNat) / 256 = value l := by omega
    have hLow : UInt8.ofNat (256 * value l + b.toNat) = b := by
      apply UInt8.toNat_inj.mp
      rw [UInt8.toNat_ofNat']
      omega
    rw [List.length_append, List.length_singleton, value_concat, bytes, hHigh, hLow, ih]

/-- The words of one width that a sequence of numbers is written as. -/
def words (k : Nat) (ns : List Nat) : List UInt8 := ns.flatMap (bytes k)

@[simp] theorem length_words (k : Nat) (ns : List Nat) : (words k ns).length = k * ns.length := by
  induction ns with
  | nil => rfl
  | cons n ns ih =>
    rw [words, List.flatMap_cons, List.length_append, length_bytes, List.length_cons]
    change k + (words k ns).length = _
    rw [ih, Nat.mul_succ, Nat.add_comm]

theorem words_get {k : Nat} (ns : List Nat) {i : Nat} (hi : i < ns.length) :
    ((words k ns).drop (k * i)).take k = bytes k ns[i] := by
  induction ns generalizing i with
  | nil => exact absurd hi (Nat.not_lt_zero i)
  | cons n ns ih =>
    cases i with
    | zero =>
      rw [Nat.mul_zero, List.drop_zero, words, List.flatMap_cons]
      exact List.take_left' (length_bytes k n)
    | succ i =>
      have hSplit : k * (i + 1) = (bytes k n).length + k * i := by
        rw [length_bytes, Nat.mul_succ, Nat.add_comm]
      rw [words, List.flatMap_cons, hSplit, List.drop_length_add_append]
      exact ih (Nat.lt_of_succ_lt_succ hi)

/-- The numbers that a sequence of words is read as. -/
def values (k m : Nat) (l : List UInt8) : List Nat :=
  (List.range m).map fun i => value ((l.drop (k * i)).take k)

theorem words_values {k m : Nat} {l : List UInt8} (hl : l.length = k * m) :
    words k (values k m l) = l := by
  induction m generalizing l with
  | zero => rw [Nat.mul_zero] at hl; rw [List.length_eq_zero_iff.mp hl]; rfl
  | succ m ih =>
    have hHead : (l.take k).length = k := by
      rw [List.length_take, hl, Nat.mul_succ]
      omega
    have hTail : (l.drop k).length = k * m := by
      rw [List.length_drop, hl, Nat.mul_succ, Nat.add_sub_cancel]
    have hValues : values k (m + 1) l = value (l.take k) :: values k m (l.drop k) := by
      rw [values, List.range_succ_eq_map, List.map_cons, List.map_map, Nat.mul_zero,
        List.drop_zero]
      congr 1
      apply List.map_congr_left
      intro i _
      change value ((l.drop (k * (i + 1))).take k) = _
      rw [List.drop_drop, Nat.mul_succ, Nat.add_comm (k * i) k]
    have hBytes : bytes k (value (l.take k)) = l.take k := by
      have h := bytes_value (l.take k)
      rwa [hHead] at h
    rw [hValues, words, List.flatMap_cons, hBytes]
    change _ ++ words k _ = _
    rw [ih hTail, List.take_append_drop]

end BigEndian
