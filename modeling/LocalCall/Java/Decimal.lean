import Mathlib.Algebra.Ring.Nat
import LocalCall.Java.Text

/-! # Reading a decimal number back -/
namespace LocalCall.Java
set_option autoImplicit false

theorem toNat_of_isDigit {c : Char} (h : c.isDigit = true) : 48 ≤ c.toNat ∧ c.toNat < 58 := by
  rw [Char.isDigit, Bool.and_eq_true, decide_eq_true_eq, decide_eq_true_eq] at h
  exact ⟨h.1, Nat.lt_succ_of_le h.2⟩

theorem digit_of_isDigit {c : Char} (h : c.isDigit = true) : digit c = some (c.toNat - 48) := by
  obtain ⟨hLow, hHigh⟩ := toNat_of_isDigit h
  have hZero : (decide (0x30 ≤ c.toNat) && decide (c.toNat < 0x30 + 10)) = true := by
    rw [decide_eq_true hLow, decide_eq_true hHigh]
    rfl
  have hFind : (digitZeros.find? fun z => z ≤ c.toNat && c.toNat < z + 10) = some 0x30 :=
    List.find?_cons_of_pos hZero
  rw [digit, hFind]
  rfl

theorem foldl_digits {s : Text} (h : ∀ c ∈ s, c.isDigit = true) (n : Nat) :
    s.foldl (fun acc c => acc.bind fun n => (digit c).map fun d => 10 * n + d) (some n) =
      some (Nat.ofDigitChars 10 s n) := by
  induction s generalizing n with
  | nil => rfl
  | cons c s ih =>
    have hNext : (some n).bind (fun n => (digit c).map fun d => 10 * n + d) =
        some (10 * n + (c.toNat - 48)) := by
      rw [Option.bind_some, digit_of_isDigit (h c List.mem_cons_self), Option.map_some]
    rw [List.foldl_cons, hNext, ih fun c hc => h c (List.mem_cons_of_mem _ hc),
      Nat.ofDigitChars_cons]
    rfl

theorem digitsValue_of_digits {s : Text} (hNonempty : s ≠ []) (h : ∀ c ∈ s, c.isDigit = true) :
    digitsValue s = some (Nat.ofDigitChars 10 s 0) := by
  cases s with
  | nil => exact absurd rfl hNonempty
  | cons c s => exact foldl_digits h 0

theorem parseInt_of_digits {s : Text} (hNonempty : s ≠ []) (h : ∀ c ∈ s, c.isDigit = true)
    (hSmall : Nat.ofDigitChars 10 s 0 < 2 ^ 31) :
    parseInt s = some (Nat.ofDigitChars 10 s 0 : Int) := by
  have hRange : (decide (-2 ^ 31 ≤ (Nat.ofDigitChars 10 s 0 : Int)) &&
      decide ((Nat.ofDigitChars 10 s 0 : Int) < 2 ^ 31)) = true := by
    rw [Bool.and_eq_true, decide_eq_true_eq, decide_eq_true_eq]
    omega
  rw [parseInt]
  · rw [digitsValue_of_digits hNonempty h]
    exact Option.filter_some_pos hRange
  · rintro s' rfl
    exact absurd (h '-' List.mem_cons_self) (by decide)
  · rintro s' rfl
    exact absurd (h '+' List.mem_cons_self) (by decide)

theorem digitsValue_digits (n : Nat) : digitsValue (Nat.toDigits 10 n) = some n := by
  rw [digitsValue_of_digits Nat.toDigits_ne_nil fun c hc => isDigit_of_mem_digits hc,
    Nat.ofDigitChars_ten_toDigits]

theorem decimal_ne_nil (i : Int) : decimal i ≠ [] := by
  cases i with
  | ofNat n => exact Nat.toDigits_ne_nil
  | negSucc n => exact List.cons_ne_nil _ _

theorem parseInt_decimal {i : Int} (hLow : -2 ^ 31 ≤ i) (hHigh : i < 2 ^ 31) :
    parseInt (decimal i) = some i := by
  have hRange : (decide (-2 ^ 31 ≤ i) && decide (i < 2 ^ 31)) = true := by
    rw [decide_eq_true hLow, decide_eq_true hHigh]
    rfl
  cases i with
  | ofNat n =>
    rw [parseInt]
    · rw [decimal, digitsValue_digits]
      exact Option.filter_some_pos hRange
    · exact minus_not_head_digits n
    · rintro s hPlus
      have hMem : '+' ∈ decimal (.ofNat n) := hPlus ▸ List.mem_cons_self
      exact absurd (isDigit_of_mem_digits hMem) (by decide)
  | negSucc n =>
    rw [decimal, parseInt, digitsValue_digits]
    exact Option.filter_some_pos hRange

end LocalCall.Java
