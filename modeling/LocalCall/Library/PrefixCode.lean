import Mathlib.Data.List.Basic

/-! # Codes in which no code word begins another

The decoder takes one unit after another and keeps those that do not make up a code word yet, so
it can be stopped anywhere. What it keeps of a stream that was cut off is the beginning of the one
word that was cut.
-/
set_option autoImplicit false

structure PrefixCode (α β : Type) where
  encode : α → List β
  complete : List β → Option α
  encode_ne_nil : ∀ a, encode a ≠ []
  complete_encode : ∀ a, complete (encode a) = some a
  complete_part : ∀ a pre post, encode a = pre ++ post → post ≠ [] → complete pre = none

namespace PrefixCode
variable {α β : Type} (code : PrefixCode α β)

def encodeAll (as : List α) : List β := as.flatMap code.encode

/-- What the units make of those kept so far: the symbols, and the units kept after them. -/
def decode (kept : List β) : List β → List α × List β
  | [] => ([], kept)
  | b :: bs =>
    match code.complete (kept ++ [b]) with
    | some a => (a :: (decode [] bs).1, (decode [] bs).2)
    | none => decode (kept ++ [b]) bs

@[simp] theorem encodeAll_nil : code.encodeAll [] = [] := rfl

@[simp] theorem encodeAll_cons (a : α) (as : List α) :
    code.encodeAll (a :: as) = code.encode a ++ code.encodeAll as := rfl

@[simp] theorem encodeAll_append (as bs : List α) :
    code.encodeAll (as ++ bs) = code.encodeAll as ++ code.encodeAll bs := List.flatMap_append

theorem encodeAll_eq_nil {as : List α} (h : code.encodeAll as = []) : as = [] := by
  cases as with
  | nil => rfl
  | cons a as =>
    obtain ⟨hNil, -⟩ := List.append_eq_nil_iff.mp h
    exact absurd hNil (code.encode_ne_nil a)

@[simp] theorem decode_nil (kept : List β) : code.decode kept [] = ([], kept) := rfl

theorem decode_append (kept xs ys : List β) :
    code.decode kept (xs ++ ys) =
      ((code.decode kept xs).1 ++ (code.decode (code.decode kept xs).2 ys).1,
        (code.decode (code.decode kept xs).2 ys).2) := by
  induction xs generalizing kept with
  | nil => rfl
  | cons x xs ih =>
    simp only [List.cons_append, decode]
    cases code.complete (kept ++ [x]) with
    | some a => simp only [ih, List.cons_append]
    | none => simp only [ih]

theorem decode_part {a : α} {kept bs post : List β} (h : code.encode a = kept ++ bs ++ post)
    (hPost : post ≠ []) : code.decode kept bs = ([], kept ++ bs) := by
  induction bs generalizing kept with
  | nil => rw [decode, List.append_nil]
  | cons b bs ih =>
    have hSplit : code.encode a = (kept ++ [b]) ++ (bs ++ post) := by
      rw [h]
      simp
    have hPart := code.complete_part a (kept ++ [b]) (bs ++ post) hSplit
      (List.append_ne_nil_of_right_ne_nil bs hPost)
    simp only [decode, hPart]
    rw [ih (by rw [h]; simp), List.append_assoc, List.singleton_append]

@[simp] theorem decode_encode (a : α) : code.decode [] (code.encode a) = ([a], []) := by
  obtain hNil | ⟨pre, b, hConcat⟩ := List.eq_nil_or_concat (code.encode a)
  · exact absurd hNil (code.encode_ne_nil a)
  · rw [List.concat_eq_append] at hConcat
    have hSplit : code.encode a = [] ++ pre ++ [b] := hConcat
    have hPre : code.decode [] pre = ([], pre) :=
      code.decode_part hSplit (List.cons_ne_nil b [])
    have hComplete := code.complete_encode a
    rw [hConcat] at hComplete ⊢
    rw [decode_append, hPre]
    simp [decode, hComplete]

@[simp] theorem decode_encode_append (a : α) (bs : List β) :
    code.decode [] (code.encode a ++ bs) =
      (a :: (code.decode [] bs).1, (code.decode [] bs).2) := by
  rw [decode_append, decode_encode]
  rfl

theorem decode_encodeAll_append (as : List α) (bs : List β) :
    code.decode [] (code.encodeAll as ++ bs) =
      (as ++ (code.decode [] bs).1, (code.decode [] bs).2) := by
  induction as with
  | nil => rfl
  | cons a as ih => rw [encodeAll_cons, List.append_assoc, decode_encode_append, ih]; rfl

/-- A cut through the words falls into one of them, or before it. -/
theorem decode_take (as : List α) (k : Nat) (hk : k < (code.encodeAll as).length) :
    ∃ before a after, as = before ++ a :: after ∧
      (code.encodeAll before).length ≤ k ∧
      k < (code.encodeAll before).length + (code.encode a).length ∧
      code.decode [] ((code.encodeAll as).take k) =
        (before, (code.encode a).take (k - (code.encodeAll before).length)) := by
  induction as generalizing k with
  | nil => cases hk
  | cons a as ih =>
    rw [encodeAll_cons, List.length_append] at hk
    by_cases hHere : k < (code.encode a).length
    · refine ⟨[], a, as, rfl, Nat.zero_le k, by simpa using hHere, ?_⟩
      rw [encodeAll_cons, List.take_append_of_le_length (Nat.le_of_lt hHere)]
      have hPost : (code.encode a).drop k ≠ [] := by
        intro hNil
        have hLength := congrArg List.length hNil
        rw [List.length_drop, List.length_nil] at hLength
        omega
      have hSplit : code.encode a = [] ++ (code.encode a).take k ++ (code.encode a).drop k :=
        (List.take_append_drop k _).symm
      exact code.decode_part hSplit hPost
    · obtain ⟨before, a', after, rfl, hLe, hLt, hDecode⟩ :=
        ih (k - (code.encode a).length) (by omega)
      refine ⟨a :: before, a', after, rfl, ?_, ?_, ?_⟩
      · rw [encodeAll_cons, List.length_append]
        omega
      · rw [encodeAll_cons, List.length_append]
        omega
      · rw [encodeAll_cons, List.take_append, List.take_of_length_le (Nat.le_of_not_lt hHere),
          decode_encode_append, hDecode, encodeAll_cons, List.length_append, Nat.sub_sub]

end PrefixCode
