import Mathlib.Algebra.Ring.Nat

/-! # The address that a C string spells

`inet_addr` takes one to four numbers separated by dots, each decimal, octal or hexadecimal as in
C; the last one fills the remaining bytes, and white space ends the string. Everything else is
`INADDR_NONE`. Strings are lists of byte values, and the result is already in host order.
-/
namespace LocalCall.Jni
set_option autoImplicit false

def inaddrNone : BitVec 32 := 0xffffffff

def digitValue (c : Nat) : Option Nat :=
  if 48 ≤ c ∧ c ≤ 57 then some (c - 48)
  else if 97 ≤ c ∧ c ≤ 102 then some (c - 87)
  else if 65 ≤ c ∧ c ≤ 70 then some (c - 55)
  else none

def inetDigits (base : Nat) : List Nat → Nat → Nat × List Nat
  | [], value => (value, [])
  | c :: s, value =>
    match digitValue c with
    | some d => if d < base then inetDigits base s (value * base + d) else (value, c :: s)
    | none => (value, c :: s)

def inetNumber (s : List Nat) : Option (Nat × List Nat) :=
  match s with
  | 48 :: c :: s =>
    if c = 120 ∨ c = 88 then
      let (value, rest) := inetDigits 16 s 0
      if rest.length = s.length then none else some (value, rest)
    else some (inetDigits 8 (c :: s) 0)
  | c :: s => if 48 ≤ c ∧ c ≤ 57 then some (inetDigits 10 (c :: s) 0) else none
  | [] => none

def inetEnds : List Nat → Bool
  | [] => true
  | c :: _ => c = 32 || (9 ≤ c && c ≤ 13)

/-- The numbers of the string, when at most `dots` dots separate them. -/
def inetNumbers : Nat → List Nat → List Nat → Option (List Nat)
  | dots, numbers, s =>
    match inetNumber s with
    | none => none
    | some (value, rest) =>
      match dots, rest with
      | dots + 1, 46 :: rest =>
        if value ≤ 0xff then inetNumbers dots (numbers ++ [value]) rest else none
      | _, rest => if inetEnds rest then some (numbers ++ [value]) else none

def inetAddr (s : List Nat) : BitVec 32 :=
  match inetNumbers 3 [] s with
  | some [a] => if a < 2 ^ 32 then BitVec.ofNat 32 a else inaddrNone
  | some [a, b] => if b < 2 ^ 24 then BitVec.ofNat 32 (a * 2 ^ 24 + b) else inaddrNone
  | some [a, b, c] =>
    if c < 2 ^ 16 then BitVec.ofNat 32 (a * 2 ^ 24 + b * 2 ^ 16 + c) else inaddrNone
  | some [a, b, c, d] =>
    if d < 2 ^ 8 then BitVec.ofNat 32 (a * 2 ^ 24 + b * 2 ^ 16 + c * 2 ^ 8 + d) else inaddrNone
  | _ => inaddrNone

end LocalCall.Jni
