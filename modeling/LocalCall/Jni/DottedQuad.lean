import LocalCall.Java.Inet4Address
import LocalCall.Jni.Rtp
import Mathlib.Data.List.Infix

/-! # How `inet_addr` reads a dotted quad

A dotted quad is four octets, each of one to three decimal digits. To `inet_addr` an octet with a
leading zero is octal, and a digit that is not octal ends it.
-/
namespace LocalCall.Jni
open Java
set_option autoImplicit false

def numberOf (base : Nat) (digits : List (Fin 10)) : Nat :=
  digits.foldl (fun n d => n * base + d.val) 0

structure Octet where
  digits : List (Fin 10)
  nonempty : digits ≠ []
  length_le : digits.length ≤ 3
  value_le : numberOf 10 digits ≤ 255
  deriving DecidableEq

def digitBytes (digits : List (Fin 10)) : List Nat := digits.map fun d => 48 + d.val

namespace Octet

def value (o : Octet) : Nat := numberOf 10 o.digits

def text (o : Octet) : Text := o.digits.map fun d => Nat.digitChar d.val

def bytes (o : Octet) : List Nat := digitBytes o.digits

def startsWithZero (o : Octet) : Bool := o.digits.head?.any fun d => d.val = 0

/-- What `inet_addr` reads for the octet; none when it stops at a digit. -/
def read (o : Octet) : Option Nat :=
  if o.startsWithZero && !o.digits.tail.isEmpty then
    if o.digits.tail.all fun d => d.val < 8 then some (numberOf 8 o.digits.tail) else none
  else some o.value

end Octet

structure DottedQuad where
  first : Octet
  second : Octet
  third : Octet
  fourth : Octet
  deriving DecidableEq

namespace DottedQuad

def octets (q : DottedQuad) : List Octet := [q.first, q.second, q.third, q.fourth]

def text (q : DottedQuad) : Text := dotted (q.octets.map Octet.text)

def bytes (q : DottedQuad) : List Nat :=
  q.first.bytes ++ 46 :: (q.second.bytes ++ 46 :: (q.third.bytes ++ 46 :: q.fourth.bytes))

def address (q : DottedQuad) : BitVec 32 :=
  BitVec.ofNat 32
    (q.first.value * 2 ^ 24 + q.second.value * 2 ^ 16 + q.third.value * 2 ^ 8 + q.fourth.value)

end DottedQuad

section Digits

def Ended (rest : List Nat) : Prop := rest = [] ∨ ∃ s, rest = 46 :: s

theorem digitValue_digit (d : Fin 10) : digitValue (48 + d.val) = some d.val := by
  rw [digitValue, if_pos (by omega), Nat.add_sub_cancel_left]

theorem inetDigits_ended {rest : List Nat} (h : Ended rest) (base value : Nat) :
    inetDigits base rest value = (value, rest) := by
  rcases h with rfl | ⟨s, rfl⟩
  · rfl
  · rfl

theorem inetDigits_digits {base : Nat} {digits : List (Fin 10)} {rest : List Nat}
    (h : ∀ d ∈ digits, d.val < base) (hRest : Ended rest) (value : Nat) :
    inetDigits base (digitBytes digits ++ rest) value =
      (digits.foldl (fun n d => n * base + d.val) value, rest) := by
  induction digits generalizing value with
  | nil => exact inetDigits_ended hRest base value
  | cons d digits ih =>
    have hHere : d.val < base := h d List.mem_cons_self
    rw [digitBytes, List.map_cons, List.cons_append, inetDigits, digitValue_digit]
    dsimp only
    rw [if_pos hHere]
    exact ih (fun e he => h e (List.mem_cons_of_mem d he)) (value * base + d.val)

/-- A digit that is too large for the base is left over. -/
theorem inetDigits_stops {base : Nat} {digits : List (Fin 10)} (h : ∃ d ∈ digits, base ≤ d.val)
    (rest : List Nat) (value : Nat) :
    ∃ read d s, inetDigits base (digitBytes digits ++ rest) value = (read, (48 + d) :: s) ∧
      d < 10 := by
  induction digits generalizing value with
  | nil =>
    obtain ⟨d, hd, -⟩ := h
    cases hd
  | cons d digits ih =>
    rw [digitBytes, List.map_cons, List.cons_append, inetDigits, digitValue_digit]
    dsimp only
    split
    · rename_i hHere
      apply ih
      obtain ⟨e, he, hLarge⟩ := h
      rcases List.mem_cons.mp he with rfl | he
      · exact absurd hHere (Nat.not_lt.mpr hLarge)
      · exact ⟨e, he, hLarge⟩
    · exact ⟨value, d.val, _, rfl, d.isLt⟩

theorem inetNumber_zero (d : Fin 10) (s : List Nat) :
    inetNumber (48 :: (48 + d.val) :: s) = some (inetDigits 8 ((48 + d.val) :: s) 0) := by
  rw [inetNumber, if_neg (by omega)]

theorem inetNumber_decimal {d : Fin 10} (h : d ≠ 0) (s : List Nat) :
    inetNumber ((48 + d.val) :: s) = some (inetDigits 10 ((48 + d.val) :: s) 0) := by
  have hPos : d.val ≠ 0 := Fin.val_ne_of_ne h
  rw [inetNumber]
  · rw [if_pos (by omega)]
  · rintro c s' hZero
    omega

theorem inetNumbers_end {s : List Nat} {v : Nat} (h : inetNumber s = some (v, [])) (dots : Nat)
    (numbers : List Nat) : inetNumbers dots numbers s = some (numbers ++ [v]) := by
  rw [inetNumbers, h]
  cases dots with
  | zero => rfl
  | succ dots => rfl

theorem inetNumbers_digit {s rest : List Nat} {v d : Nat}
    (h : inetNumber s = some (v, (48 + d) :: rest)) (hd : d < 10) (dots : Nat)
    (numbers : List Nat) : inetNumbers dots numbers s = none := by
  have hEnds : inetEnds ((48 + d) :: rest) = false := by
    simp only [inetEnds, Bool.or_eq_false_iff, Bool.and_eq_false_iff, decide_eq_false_iff_not]
    omega
  rw [inetNumbers, h]
  dsimp only
  split
  · rename_i hDot
    have hByte := (List.cons.inj hDot).1
    omega
  · exact if_neg (by rw [hEnds]; exact Bool.false_ne_true)

end Digits

namespace Octet

variable {o : Octet} {rest : List Nat}

/-- Only a zero that another digit follows makes an octet octal. -/
theorem octal_or_decimal (o : Octet) :
    (∃ d ds, o.digits = 0 :: d :: ds ∧ o.startsWithZero = true ∧
      o.read =
        if (d :: ds).all fun e => e.val < 8 then some (numberOf 8 (d :: ds)) else none) ∨
    o.read = some o.value ∧ (o.startsWithZero = false ∨ o.value < 8) ∧
      ∀ rest, Ended rest → inetNumber (o.bytes ++ rest) = some (o.value, rest) := by
  have hAll : ∀ d ∈ o.digits, d.val < 10 := fun d _ => d.isLt
  cases hDigits : o.digits with
  | nil => exact absurd hDigits o.nonempty
  | cons d ds =>
    have hStart : o.startsWithZero = decide (d.val = 0) := by rw [startsWithZero, hDigits]; rfl
    obtain rfl | hd := eq_or_ne d 0
    · cases ds with
      | nil =>
        have hZero : o.value = 0 := by rw [value, hDigits]; rfl
        -- a zero alone: octal or decimal makes no difference
        refine Or.inr ⟨?_, Or.inr (by omega), fun rest hRest => ?_⟩
        · rw [read, hDigits, List.tail_cons, List.isEmpty_nil, Bool.not_true, Bool.and_false]
          rfl
        · rw [bytes, value, hDigits]
          rcases hRest with rfl | ⟨s, rfl⟩
          · rfl
          · rfl
      | cons e es =>
        refine Or.inl ⟨e, es, rfl, hStart, ?_⟩
        rw [read, hDigits, hStart]
        rfl
    · have hOther : o.startsWithZero = false := by
        rw [hStart]
        exact decide_eq_false (Fin.val_ne_of_ne hd)
      refine Or.inr ⟨?_, Or.inl hOther, fun rest hRest => ?_⟩
      · rw [read, hOther]
        rfl
      · have hDigit := inetNumber_decimal hd (digitBytes ds ++ rest)
        have hNumber := inetDigits_digits hAll hRest 0
        rw [hDigits] at hNumber
        rw [bytes, value, hDigits]
        exact hDigit.trans (congrArg some hNumber)

theorem inetNumber_octal (d : Fin 10) (ds : List (Fin 10)) (rest : List Nat) :
    inetNumber (digitBytes (0 :: d :: ds) ++ rest) =
      some (inetDigits 8 (digitBytes (d :: ds) ++ rest) 0) :=
  inetNumber_zero d (digitBytes ds ++ rest)

theorem inetNumber_of_read {v : Nat} (h : o.read = some v) (hRest : Ended rest) :
    inetNumber (o.bytes ++ rest) = some (v, rest) := by
  rcases o.octal_or_decimal with ⟨d, ds, hDigits, -, hRead⟩ | ⟨hRead, -, hNumber⟩
  · obtain ⟨hOctal, hValue⟩ := Option.ite_none_right_eq_some.mp (hRead.symm.trans h)
    have hSmall : ∀ e ∈ d :: ds, e.val < 8 := fun e he =>
      of_decide_eq_true (List.all_eq_true.mp hOctal e he)
    rw [bytes, hDigits, inetNumber_octal, inetDigits_digits hSmall hRest]
    cases hValue
    rfl
  · cases hRead.symm.trans h
    exact hNumber rest hRest

theorem inetNumber_of_read_none (h : o.read = none) (rest : List Nat) :
    ∃ v d s, inetNumber (o.bytes ++ rest) = some (v, (48 + d) :: s) ∧ d < 10 := by
  rcases o.octal_or_decimal with ⟨d, ds, hDigits, -, hRead⟩ | ⟨hRead, -⟩
  · have hSome : ¬ ∀ e ∈ d :: ds, e.val < 8 := by
      intro hAll
      rw [hRead, if_pos (List.all_eq_true.mpr fun e he => decide_eq_true (hAll e he))] at h
      cases h
    push Not at hSome
    obtain ⟨v, e, s, hStop, he⟩ := inetDigits_stops hSome rest 0
    rw [bytes, hDigits, inetNumber_octal, hStop]
    exact ⟨v, e, s, rfl, he⟩
  · cases hRead.symm.trans h

theorem short_octal {d : Fin 10} {ds : List (Fin 10)} (h : o.digits = 0 :: d :: ds) :
    ds = [] ∨ ∃ e, ds = [e] := by
  have hLength := o.length_le
  rw [h] at hLength
  cases ds with
  | nil => exact Or.inl rfl
  | cons e es =>
    cases es with
    | nil => exact Or.inr ⟨e, rfl⟩
    | cons _ _ =>
      simp only [List.length_cons] at hLength
      omega

theorem read_le {v : Nat} (h : o.read = some v) : v ≤ 255 := by
  rcases o.octal_or_decimal with ⟨d, ds, hDigits, -, hRead⟩ | ⟨hRead, -⟩
  · obtain ⟨-, hValue⟩ := Option.ite_none_right_eq_some.mp (hRead.symm.trans h)
    rcases short_octal hDigits with rfl | ⟨e, rfl⟩
    · simp only [numberOf, List.foldl_cons, List.foldl_nil, Option.some_inj] at hValue
      omega
    · simp only [numberOf, List.foldl_cons, List.foldl_nil, Option.some_inj] at hValue
      omega
  · cases hRead.symm.trans h
    exact o.value_le

theorem read_eq_value_iff (o : Octet) :
    o.read = some o.value ↔ o.startsWithZero = false ∨ o.value < 8 := by
  rcases o.octal_or_decimal with ⟨d, ds, hDigits, hZero, hRead⟩ | ⟨hRead, hPlain, -⟩
  · rw [hRead, Option.ite_none_right_eq_some, hZero, value, hDigits, Option.some_inj]
    rw [or_iff_right Bool.noConfusion]
    rcases short_octal hDigits with rfl | ⟨e, rfl⟩
    · simp [numberOf]
    · simp [numberOf]
      omega
  · exact iff_of_true hRead hPlain

theorem inetNumbers_dot (o : Octet) (dots : Nat) (numbers rest : List Nat) :
    inetNumbers (dots + 1) numbers (o.bytes ++ 46 :: rest) =
      o.read.bind fun v => inetNumbers dots (numbers ++ [v]) rest := by
  cases hRead : o.read with
  | some v =>
    rw [inetNumbers, inetNumber_of_read hRead (Or.inr ⟨rest, rfl⟩)]
    exact if_pos (read_le hRead)
  | none =>
    obtain ⟨v, d, s, hNumber, hd⟩ := inetNumber_of_read_none hRead (46 :: rest)
    exact inetNumbers_digit hNumber hd (dots + 1) numbers

theorem inetNumbers_last (o : Octet) (dots : Nat) (numbers : List Nat) :
    inetNumbers dots numbers o.bytes = o.read.map fun v => numbers ++ [v] := by
  rw [← List.append_nil o.bytes]
  cases hRead : o.read with
  | some v => exact inetNumbers_end (inetNumber_of_read hRead (Or.inl rfl)) dots numbers
  | none =>
    obtain ⟨v, d, s, hNumber, hd⟩ := inetNumber_of_read_none hRead []
    exact inetNumbers_digit hNumber hd dots numbers

theorem value_lt (o : Octet) : o.value < 256 := Nat.lt_succ_of_le o.value_le

end Octet

namespace DottedQuad

theorem inetNumbers_bytes (q : DottedQuad) :
    inetNumbers 3 [] q.bytes =
      q.first.read.bind fun a => q.second.read.bind fun b => q.third.read.bind fun c =>
        q.fourth.read.map fun d => [a, b, c, d] := by
  rw [bytes, Octet.inetNumbers_dot]
  congr 1
  funext a
  rw [Octet.inetNumbers_dot]
  congr 1
  funext b
  rw [Octet.inetNumbers_dot]
  congr 1
  funext c
  exact Octet.inetNumbers_last q.fourth 0 [a, b, c]

theorem address_injective {a b c d a' b' c' d' : Nat} (ha : a < 256) (hb : b < 256) (hc : c < 256)
    (hd : d < 256) (ha' : a' < 256) (hb' : b' < 256) (hc' : c' < 256) (hd' : d' < 256)
    (h : BitVec.ofNat 32 (a * 2 ^ 24 + b * 2 ^ 16 + c * 2 ^ 8 + d) =
      BitVec.ofNat 32 (a' * 2 ^ 24 + b' * 2 ^ 16 + c' * 2 ^ 8 + d')) :
    a = a' ∧ b = b' ∧ c = c' ∧ d = d' := by
  have hNat := congrArg BitVec.toNat h
  rw [BitVec.toNat_ofNat, BitVec.toNat_ofNat] at hNat
  omega

theorem address_eq_none_iff (q : DottedQuad) :
    q.address = inaddrNone ↔ ∀ o ∈ q.octets, o.value = 255 := by
  simp only [octets, List.mem_cons, List.not_mem_nil, or_false, forall_eq_or_imp, forall_eq]
  constructor
  · intro hNone
    exact address_injective q.first.value_lt q.second.value_lt q.third.value_lt q.fourth.value_lt
      (by decide) (by decide) (by decide) (by decide) hNone
  · rintro ⟨hFirst, hSecond, hThird, hFourth⟩
    rw [address, hFirst, hSecond, hThird, hFourth]
    rfl

theorem inetAddr_of_reads {q : DottedQuad} {a b c d : Nat} (ha : q.first.read = some a)
    (hb : q.second.read = some b) (hc : q.third.read = some c) (hd : q.fourth.read = some d) :
    inetAddr q.bytes = BitVec.ofNat 32 (a * 2 ^ 24 + b * 2 ^ 16 + c * 2 ^ 8 + d) := by
  have hLast : d < 2 ^ 8 := Nat.lt_succ_of_le (Octet.read_le hd)
  rw [inetAddr, inetNumbers_bytes, ha, hb, hc, hd]
  exact if_pos hLast

theorem reads_of_inetAddr {q : DottedQuad} (h : inetAddr q.bytes ≠ inaddrNone) :
    ∃ a b c d, q.first.read = some a ∧ q.second.read = some b ∧ q.third.read = some c ∧
      q.fourth.read = some d := by
  cases hNumbers : inetNumbers 3 [] q.bytes with
  | none =>
    rw [inetAddr, hNumbers] at h
    exact absurd rfl h
  | some numbers =>
    rw [inetNumbers_bytes] at hNumbers
    obtain ⟨a, ha, hNumbers⟩ := Option.bind_eq_some_iff.mp hNumbers
    obtain ⟨b, hb, hNumbers⟩ := Option.bind_eq_some_iff.mp hNumbers
    obtain ⟨c, hc, hNumbers⟩ := Option.bind_eq_some_iff.mp hNumbers
    obtain ⟨d, hd, -⟩ := Option.map_eq_some_iff.mp hNumbers
    exact ⟨a, b, c, d, ha, hb, hc, hd⟩

theorem inetAddr_eq_address_iff {q : DottedQuad} (hSome : q.address ≠ inaddrNone) :
    inetAddr q.bytes = q.address ↔ ∀ o ∈ q.octets, o.read = some o.value := by
  simp only [octets, List.mem_cons, List.not_mem_nil, or_false, forall_eq_or_imp, forall_eq]
  constructor
  · intro hEq
    obtain ⟨a, b, c, d, ha, hb, hc, hd⟩ := reads_of_inetAddr (hEq ▸ hSome)
    rw [inetAddr_of_reads ha hb hc hd] at hEq
    have hValues := address_injective (Nat.lt_succ_of_le (Octet.read_le ha))
      (Nat.lt_succ_of_le (Octet.read_le hb)) (Nat.lt_succ_of_le (Octet.read_le hc))
      (Nat.lt_succ_of_le (Octet.read_le hd)) q.first.value_lt q.second.value_lt q.third.value_lt
      q.fourth.value_lt hEq
    rw [ha, hb, hc, hd, hValues.1, hValues.2.1, hValues.2.2.1, hValues.2.2.2]
    exact ⟨rfl, rfl, rfl, rfl⟩
  · rintro ⟨ha, hb, hc, hd⟩
    exact inetAddr_of_reads ha hb hc hd

section Copy

theorem digit_unit (d : Fin 10) : utf16 [Nat.digitChar d.val] = [48 + d.val] := by
  revert d
  decide

theorem utf16_append (s t : Text) : utf16 (s ++ t) = utf16 s ++ utf16 t := List.flatMap_append

theorem utf16_octet (o : Octet) : utf16 o.text = o.bytes := by
  rw [Octet.text, Octet.bytes]
  induction o.digits with
  | nil => rfl
  | cons d ds ih =>
    rw [List.map_cons, ← List.singleton_append, utf16_append, digit_unit, ih]
    rfl

theorem text_eq (q : DottedQuad) :
    q.text = q.first.text ++ '.' :: (q.second.text ++ '.' :: (q.third.text ++ '.' ::
      q.fourth.text)) := by
  simp [text, octets, dotted, List.intercalate_cons_cons]

theorem utf16_text (q : DottedQuad) : utf16 q.text = q.bytes := by
  have hDot : ∀ s, utf16 ('.' :: s) = 46 :: utf16 s := fun s => rfl
  simp only [text_eq, utf16_append, hDot, utf16_octet, bytes]

theorem length_bytes (q : DottedQuad) : q.bytes.length ≤ 15 := by
  have hOctet : ∀ o : Octet, o.bytes.length ≤ 3 := by
    intro o
    rw [Octet.bytes, digitBytes, List.length_map]
    exact o.length_le
  have hFirst := hOctet q.first
  have hSecond := hOctet q.second
  have hThird := hOctet q.third
  have hFourth := hOctet q.fourth
  simp only [bytes, List.length_append, List.length_cons]
  omega

theorem mem_bytes {q : DottedQuad} {b : Nat} (h : b ∈ q.bytes) : 46 ≤ b ∧ b < 58 := by
  have hOctet : ∀ o : Octet, b ∈ o.bytes → 46 ≤ b ∧ b < 58 := by
    intro o hMem
    obtain ⟨d, -, rfl⟩ := List.mem_map.mp hMem
    omega
  simp only [bytes, List.mem_append, List.mem_cons] at h
  rcases h with h | rfl | h | rfl | h | rfl | h
  · exact hOctet _ h
  · decide
  · exact hOctet _ h
  · decide
  · exact hOctet _ h
  · decide
  · exact hOctet _ h

theorem copyIp_text (q : DottedQuad) : copyIp q.text = .ok q.bytes := by
  have hUnits : (utf16 q.text).map (fun unit => unit % 256) = q.bytes := by
    have hByte : ∀ b ∈ q.bytes, b % 256 = b := by
      intro b hb
      have hSmall := (mem_bytes hb).2
      omega
    rw [utf16_text, List.map_congr_left hByte, List.map_id']
  have hLength := q.length_bytes
  rw [copyIp, hUnits, bufSize, if_neg (by omega), if_neg (by omega)]
  refine congrArg Except.ok (List.takeWhile_eq_self_iff.mpr fun b hb => ?_)
  have hPos := (mem_bytes hb).1
  exact decide_eq_true (by omega)

end Copy

section Pattern

theorem isField_text (o : Octet) : IsField o.text := by
  refine ⟨?_, ?_, fun c hc => ?_⟩
  · exact fun hNil => o.nonempty (List.map_eq_nil_iff.mp hNil)
  · rw [Octet.text, List.length_map]
    exact o.length_le
  · obtain ⟨d, -, rfl⟩ := List.mem_map.mp hc
    exact isDigit_digitChar d

theorem mPatternFind_text (q : DottedQuad) : mPatternFind q.text = true :=
  mPatternFind_dotted (isField_text q.first) (isField_text q.second) (isField_text q.third)
    (isField_text q.fourth)

end Pattern

end DottedQuad
end LocalCall.Jni
