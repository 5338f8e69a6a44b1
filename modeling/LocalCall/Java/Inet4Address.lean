import LocalCall.Java.Text
import Mathlib.Data.List.Infix

/-! # IPv4 addresses and the text that `getHostAddress` writes for them -/
namespace LocalCall.Java
set_option autoImplicit false

structure Inet4Address where
  first : UInt8
  second : UInt8
  third : UInt8
  fourth : UInt8
  deriving DecidableEq

def dotted (pieces : List Text) : Text := ['.'].intercalate pieces

theorem not_mem_digits {c : Char} (h : c.isDigit = false) (n : Nat) : c ∉ Nat.toDigits 10 n := by
  intro hMem
  have hDigit : c.isDigit = true := isDigit_of_mem_digits hMem
  rw [h] at hDigit
  cases hDigit

theorem dotted_injective {ps qs : List Text} (hp : ∀ p ∈ ps, '.' ∉ p) (hq : ∀ q ∈ qs, '.' ∉ q)
    (hp₀ : ps ≠ []) (hq₀ : qs ≠ []) (h : dotted ps = dotted qs) : ps = qs := by
  calc
    ps = (dotted ps).splitOn '.' := (List.splitOn_intercalate '.' hp hp₀).symm
    _ = (dotted qs).splitOn '.' := congrArg _ h
    _ = qs := List.splitOn_intercalate '.' hq hq₀

theorem not_mem_dotted {c : Char} {ps : List Text} (hDot : c ≠ '.') (h : ∀ p ∈ ps, c ∉ p) :
    c ∉ dotted ps := by
  induction ps with
  | nil => exact List.not_mem_nil
  | cons p ps ih =>
    cases ps with
    | nil => simpa [dotted] using h p List.mem_cons_self
    | cons q ps =>
      rw [dotted, List.intercalate_cons_cons]
      have hRest : c ∉ dotted (q :: ps) := ih fun r hr => h r (List.mem_cons_of_mem p hr)
      simp only [List.mem_append, List.mem_singleton, not_or]
      exact ⟨⟨h p List.mem_cons_self, hDot⟩, hRest⟩

section Contains

variable {sub : Text}

theorem prefix_of_prefix_append_dot (h : '.' ∉ sub) {s rest : Text}
    (hPrefix : sub <+: s ++ '.' :: rest) : sub <+: s := by
  induction s generalizing sub with
  | nil =>
    cases sub with
    | nil => exact List.nil_prefix
    | cons c sub =>
      obtain ⟨rfl, -⟩ := List.cons_prefix_cons.mp hPrefix
      exact absurd List.mem_cons_self h
  | cons d s ih =>
    cases sub with
    | nil => exact List.nil_prefix
    | cons c sub =>
      obtain ⟨rfl, hRest⟩ := List.cons_prefix_cons.mp hPrefix
      exact List.cons_prefix_cons.mpr ⟨rfl, ih (fun hDot => h (List.mem_cons_of_mem c hDot)) hRest⟩

theorem infix_append_dot_iff (h : '.' ∉ sub) (s rest : Text) :
    sub <:+: s ++ '.' :: rest ↔ sub <:+: s ∨ sub <:+: rest := by
  induction s with
  | nil =>
    rw [List.nil_append, List.infix_cons_iff, List.infix_nil]
    refine or_congr_left ⟨fun hPrefix => ?_, ?_⟩
    · exact List.prefix_nil.mp (prefix_of_prefix_append_dot (s := []) h hPrefix)
    · rintro rfl
      exact List.nil_prefix
  | cons c s ih =>
    rw [List.cons_append, List.infix_cons_iff, ih, ← List.cons_append, List.infix_cons_iff,
      or_assoc]
    refine or_congr_left ⟨prefix_of_prefix_append_dot h, fun hPrefix => ?_⟩
    exact hPrefix.trans (List.prefix_append _ _)

theorem contains_dotted_iff (h : '.' ∉ sub) (hNonempty : sub ≠ []) (ps : List Text) :
    contains (dotted ps) sub = true ↔ ∃ p ∈ ps, contains p sub = true := by
  induction ps with
  | nil => simpa [dotted, contains] using hNonempty
  | cons p ps ih =>
    cases ps with
    | nil => simp [dotted]
    | cons q ps =>
      have hText : dotted (p :: q :: ps) = p ++ '.' :: dotted (q :: ps) := by
        rw [dotted, List.intercalate_cons_cons, dotted, List.append_assoc]
        rfl
      rw [hText, contains_iff_isInfix, infix_append_dot_iff h, ← contains_iff_isInfix,
        ← contains_iff_isInfix, ih]
      simp

end Contains

section Pattern

/-- One to three digits, as the pattern has them between the dots. -/
structure IsField (s : Text) : Prop where
  nonempty : s ≠ []
  length_le : s.length ≤ 3
  digits : ∀ c ∈ s, c.isDigit = true

theorem mem_afterDigits {s : Text} {n : Nat} (hNonempty : s ≠ []) (hn : s.length ≤ n)
    (h : ∀ c ∈ s, c.isDigit = true) (rest : Text) : rest ∈ afterDigits n (s ++ rest) := by
  induction s generalizing n with
  | nil => exact absurd rfl hNonempty
  | cons c s ih =>
    obtain ⟨n, rfl⟩ : ∃ m, n = m + 1 := Nat.exists_eq_add_one.mpr (by
      rw [List.length_cons] at hn
      omega)
    rw [List.cons_append, afterDigits, if_pos (h c List.mem_cons_self)]
    cases s with
    | nil => exact List.mem_cons_self
    | cons d s =>
      have hShort : (d :: s).length ≤ n := Nat.le_of_succ_le_succ hn
      have hDigits : ∀ c' ∈ d :: s, c'.isDigit = true := fun c' hc =>
        h c' (List.mem_cons_of_mem c hc)
      exact List.mem_cons_of_mem _ (ih (List.cons_ne_nil d s) hShort hDigits)

theorem mem_field {rests : List Text} {s rest : Text} (hField : IsField s)
    (h : '.' :: (s ++ rest) ∈ rests) :
    rest ∈ (rests.filterMap afterDot).flatMap (afterDigits 3) := by
  apply List.mem_flatMap.mpr
  exact ⟨s ++ rest, List.mem_filterMap.mpr ⟨_, h, rfl⟩,
    mem_afterDigits hField.nonempty hField.length_le hField.digits rest⟩

theorem mPatternFind_dotted {a b c d : Text} (ha : IsField a) (hb : IsField b) (hc : IsField c)
    (hd : IsField d) : mPatternFind (dotted [a, b, c, d]) = true := by
  have hQuad : [] ∈ afterQuad (dotted [a, b, c, d]) := by
    have hText : dotted [a, b, c, d] = a ++ '.' :: (b ++ '.' :: (c ++ '.' :: d)) := by
      simp [dotted, List.intercalate_cons_cons]
    rw [hText, afterQuad]
    apply mem_field hd
    apply mem_field hc
    apply mem_field hb
    rw [List.append_nil]
    exact mem_afterDigits ha.nonempty ha.length_le ha.digits _
  rw [mPatternFind, List.any_eq_true]
  refine ⟨dotted [a, b, c, d], (List.mem_tails _ _).mpr (List.suffix_refl _), ?_⟩
  rw [Bool.not_eq_true', List.isEmpty_eq_false_iff]
  exact List.ne_nil_of_mem hQuad

end Pattern

namespace Inet4Address

def octets (a : Inet4Address) : List UInt8 := [a.first, a.second, a.third, a.fourth]

def getHostAddress (a : Inet4Address) : Text := dotted (a.octets.map fun o => decimal o.toNat)

theorem not_mem_octets {c : Char} (h : c.isDigit = false) (a : Inet4Address) :
    ∀ p ∈ a.octets.map (fun o => decimal o.toNat), c ∉ p := by
  intro p hp
  obtain ⟨o, -, rfl⟩ := List.mem_map.mp hp
  exact not_mem_digits h o.toNat

theorem colon_not_mem_getHostAddress (a : Inet4Address) : ':' ∉ a.getHostAddress :=
  not_mem_dotted (by decide) (a.not_mem_octets rfl)

theorem getHostAddress_ne_nil (a : Inet4Address) : a.getHostAddress ≠ [] := by
  rw [getHostAddress, dotted, octets, List.map_cons, List.map_cons, List.intercalate_cons_cons]
  apply List.append_ne_nil_of_left_ne_nil
  exact List.append_ne_nil_of_right_ne_nil _ (List.cons_ne_nil _ _)

theorem getHostAddress_injective {a b : Inet4Address}
    (h : a.getHostAddress = b.getHostAddress) : a = b := by
  have hPieces := dotted_injective (a.not_mem_octets rfl) (b.not_mem_octets rfl)
    (List.cons_ne_nil _ _) (List.cons_ne_nil _ _) h
  have hOctets : a.octets = b.octets := by
    apply List.map_injective_iff.mpr _ hPieces
    intro o o' hDecimal
    exact UInt8.toNat_inj.mp (Int.ofNat.inj (decimal_injective hDecimal))
  cases a
  cases b
  simpa [octets] using hOctets

theorem isField_decimal (o : UInt8) : IsField (decimal o.toNat) := by
  have hLength : ∀ n : Fin 256, (Nat.toDigits 10 n.val).length ≤ 3 := by decide +kernel
  exact ⟨Nat.toDigits_ne_nil, hLength ⟨o.toNat, o.toNat_lt⟩, fun c hc => isDigit_of_mem_digits hc⟩

theorem mPatternFind_getHostAddress (a : Inet4Address) :
    mPatternFind a.getHostAddress = true :=
  mPatternFind_dotted (isField_decimal a.first) (isField_decimal a.second)
    (isField_decimal a.third) (isField_decimal a.fourth)

end Inet4Address
end LocalCall.Java
