import Mathlib.Algebra.Ring.Int.Defs
import Mathlib.Data.List.DropRight

/-! # The Java string operations that the application uses

A string is the list of its code points. `utf16` gives the code units that the native side gets
from `GetStringChars`; nothing else in the application looks below the level of characters.
-/
namespace LocalCall.Java
set_option autoImplicit false

abbrev Text := List Char

def contains : Text → Text → Bool
  | [], sub => sub.isEmpty
  | c :: s, sub => sub.isPrefixOf (c :: s) || contains s sub

/-- What `String.valueOf` and string concatenation write for an `int`. -/
def decimal : Int → Text
  | .ofNat n => Nat.toDigits 10 n
  | .negSucc n => '-' :: Nat.toDigits 10 (n + 1)

def orNull : Option Text → Text
  | none => "null".toList
  | some s => s

/-- `split(":")`: trailing empty pieces are dropped, and a string without a colon is its own
only piece. -/
def split (s : Text) : List Text :=
  if ':' ∈ s then (s.splitOn ':').rdropWhile List.isEmpty else [s]

/-- The zeros of the decimal digits of the basic plane, which `Character.digit` accepts. -/
def digitZeros : List Nat :=
  [0x0030, 0x0660, 0x06F0, 0x07C0, 0x0966, 0x09E6, 0x0A66, 0x0AE6, 0x0B66, 0x0BE6, 0x0C66, 0x0CE6,
    0x0D66, 0x0E50, 0x0ED0, 0x0F20, 0x1040, 0x1090, 0x17E0, 0x1810, 0x1946, 0x19D0, 0x1A80, 0x1A90,
    0x1B50, 0x1BB0, 0x1C40, 0x1C50, 0xA620, 0xA8D0, 0xA900, 0xA9D0, 0xAA50, 0xABF0, 0xFF10]

def digit (c : Char) : Option Nat :=
  (digitZeros.find? fun z => z ≤ c.toNat && c.toNat < z + 10).map fun z => c.toNat - z

def digitsValue : Text → Option Nat
  | [] => none
  | s => s.foldl (fun acc c => acc.bind fun n => (digit c).map fun d => 10 * n + d) (some 0)

/-- `Integer.valueOf`; none is the `NumberFormatException`. -/
def parseInt (s : Text) : Option Int :=
  let value : Option Int :=
    match s with
    | '-' :: s => (digitsValue s).map fun n => -(n : Int)
    | '+' :: s => (digitsValue s).map fun n => (n : Int)
    | s => (digitsValue s).map fun n => (n : Int)
  value.filter fun i => -2 ^ 31 ≤ i && i < 2 ^ 31

def afterDigits : Nat → Text → List Text
  | 0, _ => []
  | _, [] => []
  | n + 1, c :: s => if c.isDigit then s :: afterDigits n s else []

def afterDot : Text → Option Text
  | '.' :: s => some s
  | _ => none

/-- The pattern `[0-9]{1,3}\.[0-9]{1,3}\.[0-9]{1,3}\.[0-9]{1,3}` at the start of the string. -/
def afterQuad (s : Text) : List Text :=
  let field := fun rests : List Text => (rests.filterMap afterDot).flatMap (afterDigits 3)
  field (field (field (afterDigits 3 s)))

/-- `mPattern.matcher(ip).find()`: the pattern occurs somewhere in the string. -/
def mPatternFind (s : Text) : Bool := s.tails.any fun t => !(afterQuad t).isEmpty

def utf16 (s : Text) : List Nat :=
  s.flatMap fun c =>
    if c.toNat < 0x10000 then [c.toNat]
    else [0xD800 + (c.toNat - 0x10000) / 0x400, 0xDC00 + (c.toNat - 0x10000) % 0x400]

theorem contains_iff_isInfix (s sub : Text) : contains s sub = true ↔ sub <:+: s := by
  induction s with
  | nil => rw [contains, List.isEmpty_iff, List.infix_nil]
  | cons c s ih =>
    rw [contains, Bool.or_eq_true, ih, List.isPrefixOf_iff_prefix, List.infix_cons_iff]

theorem contains_append_right (sub rest : Text) : contains (sub ++ rest) sub = true := by
  rw [contains_iff_isInfix]
  exact (List.prefix_append sub rest).isInfix

theorem isDigit_of_mem_digits {c : Char} {n : Nat} (h : c ∈ Nat.toDigits 10 n) :
    c.isDigit = true :=
  Nat.isDigit_of_mem_toDigits (by decide) (by decide) h

theorem isDigit_digitChar (d : Fin 10) : (Nat.digitChar d.val).isDigit = true := by
  rw [Nat.isDigit_digitChar]
  exact decide_eq_true d.isLt

theorem colon_not_mem_digits (n : Nat) : ':' ∉ Nat.toDigits 10 n := by
  intro h
  have hDigit : ':'.isDigit = true := isDigit_of_mem_digits h
  exact absurd hDigit (by decide)

theorem colon_not_mem_decimal (i : Int) : ':' ∉ decimal i := by
  cases i with
  | ofNat n => exact colon_not_mem_digits n
  | negSucc n =>
    intro h
    rcases List.mem_cons.mp h with h | h
    · exact absurd h (by decide)
    · exact colon_not_mem_digits (n + 1) h

theorem digits_injective {m n : Nat} (h : Nat.toDigits 10 m = Nat.toDigits 10 n) : m = n := by
  have hValue := congrArg (fun s => Nat.ofDigitChars 10 s 0) h
  simpa only [Nat.ofDigitChars_ten_toDigits] using hValue

theorem minus_not_head_digits (n : Nat) (s : Text) : Nat.toDigits 10 n ≠ '-' :: s := by
  intro h
  have hMem : '-' ∈ Nat.toDigits 10 n := h ▸ List.mem_cons_self
  have hDigit : '-'.isDigit = true := isDigit_of_mem_digits hMem
  exact absurd hDigit (by decide)

theorem decimal_injective {i j : Int} (h : decimal i = decimal j) : i = j := by
  cases i with
  | ofNat m =>
    cases j with
    | ofNat n => exact congrArg Int.ofNat (digits_injective h)
    | negSucc n => exact absurd h (minus_not_head_digits m _)
  | negSucc m =>
    cases j with
    | ofNat n => exact absurd h.symm (minus_not_head_digits n _)
    | negSucc n =>
      have hDigits := digits_injective (List.cons.inj h).2
      exact congrArg Int.negSucc (Nat.succ.inj hDigits)

end LocalCall.Java
