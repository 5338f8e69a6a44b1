import Mathlib.Algebra.Ring.Int.Defs
import Mathlib.Algebra.Ring.Nat

/-! # The arithmetic of `int`

A `jint` is modelled as the integer that it is, and `wrap` brings the result of an operation back
into its range.
-/
namespace LocalCall.Java
set_option autoImplicit false

def wrap (n : Int) : Int := n.bmod (2 ^ 32)

/-- `j & ~1` -/
def clearLowBit (j : Int) : Int := (BitVec.ofInt 32 j &&& ~~~1#32).toInt

theorem wrap_eq_self {n : Int} (h0 : -2 ^ 31 ≤ n) (h : n < 2 ^ 31) : wrap n = n := by
  unfold wrap
  rw [Int.bmod_def]
  split <;> omega

theorem wrap_lt (n : Int) : wrap n < 2 ^ 31 := by
  unfold wrap
  rw [Int.bmod_def]
  split <;> omega

theorem wrap_succ {n : Int} (h0 : 0 ≤ n) (h : n < 2 ^ 31) :
    wrap (n + 1) = if n < 2 ^ 31 - 1 then n + 1 else -2 ^ 31 := by
  unfold wrap
  rw [Int.bmod_def]
  split <;> split <;> omega

theorem clearLowBit_natCast {j : Nat} (h : j < 2 ^ 31) : clearLowBit j = 2 * (j / 2 : Nat) := by
  have hHalf : (j &&& 4294967294) / 2 = j / 2 := by
    rw [Nat.and_div_two, Nat.and_two_pow_sub_one_eq_mod (j / 2) 31]
    omega
  have hEven : (j &&& 4294967294) % 2 = 0 := by
    rw [← Nat.and_one_is_mod, Nat.and_assoc]
    simp
  have hMask : (BitVec.ofInt 32 j &&& ~~~1#32).toNat = j &&& 4294967294 := by
    rw [BitVec.toNat_and, BitVec.ofInt_natCast, BitVec.toNat_ofNat, Nat.mod_eq_of_lt (by omega)]
    rfl
  rw [clearLowBit, BitVec.toInt_eq_toNat_of_lt (by rw [hMask]; omega), hMask]
  omega

end LocalCall.Java
