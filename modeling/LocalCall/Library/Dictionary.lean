import Mathlib.Data.List.Nodup
import Mathlib.Data.List.Count

/-! # Dictionaries kept as lists

The entries stand in the order in which they were added, each key once. Storing a value leaves the
keys where they are; how many values have a property changes by the value that is replaced.
-/
namespace Dictionary
set_option autoImplicit false

universe u v w
variable {K : Type u} {V : Type v}

def keys (l : List (K × V)) : List K := l.map Prod.fst

/-- The number of values with a property. -/
def tally (p : V → Bool) (l : List (K × V)) : Nat := l.countP fun x => p x.2

theorem tally_cons (p : V → Bool) (k : K) (v : V) (l : List (K × V)) :
    tally p ((k, v) :: l) = tally p l + (p v).toNat := by
  rw [tally, tally, List.countP_cons]
  cases p v <;> rfl

theorem tally_append (p : V → Bool) (l l' : List (K × V)) :
    tally p (l ++ l') = tally p l + tally p l' := List.countP_append

variable [DecidableEq K]

def lookup (k : K) (l : List (K × V)) : Option V := (l.find? fun x => x.1 = k).map Prod.snd

/-- The value of `k` is `v` from now on, if `k` is a key. -/
def store (k : K) (v : V) (l : List (K × V)) : List (K × V) :=
  l.map fun x => if x.1 = k then (k, v) else x

section
variable {k k' : K} {v v' : V} {l l' : List (K × V)} {p : V → Bool}

@[simp] theorem keys_store : keys (store k v l) = keys l := by
  rw [keys, keys, store, List.map_map]
  apply List.map_congr_left
  intro x hx
  by_cases h : x.1 = k <;> simp [h]

@[simp] theorem length_store : (store k v l).length = l.length := List.length_map _

theorem lookup_cons (x : K × V) : lookup k (x :: l) = if x.1 = k then some x.2 else lookup k l := by
  by_cases h : x.1 = k
  · rw [if_pos h, lookup, List.find?_cons_of_pos (by simp [h])]
    rfl
  · rw [if_neg h, lookup, List.find?_cons_of_neg (by simp [h])]
    rfl

theorem lookup_eq_none_iff : lookup k l = none ↔ k ∉ keys l := by
  induction l with
  | nil => simp [lookup, keys]
  | cons x l ih =>
    rw [lookup_cons]
    by_cases h : x.1 = k
    · simp [keys, h]
    · rw [if_neg h, ih]
      simp [keys, Ne.symm h]

theorem exists_lookup (h : k ∈ keys l) : ∃ v, lookup k l = some v := by
  apply Option.ne_none_iff_exists'.mp
  intro hNone
  exact lookup_eq_none_iff.mp hNone h

theorem mem_keys_of_lookup (h : lookup k l = some v) : k ∈ keys l := by
  by_contra hNot
  rw [lookup_eq_none_iff.mpr hNot] at h
  cases h

theorem lookup_append (h : k ∉ keys l) : lookup k (l ++ l') = lookup k l' := by
  induction l with
  | nil => rfl
  | cons x l ih =>
    have hNe : x.1 ≠ k := fun hEq => h (hEq ▸ List.mem_cons_self)
    rw [List.cons_append, lookup_cons, if_neg hNe]
    exact ih fun hMem => h (List.mem_cons_of_mem _ hMem)

theorem lookup_append_left (h : k ∈ keys l) : lookup k (l ++ l') = lookup k l := by
  induction l with
  | nil => exact absurd h List.not_mem_nil
  | cons x l ih =>
    rw [List.cons_append, lookup_cons, lookup_cons]
    by_cases hx : x.1 = k
    · rw [if_pos hx, if_pos hx]
    · rw [if_neg hx, if_neg hx]
      rcases List.mem_cons.mp h with hEq | hMem
      · exact absurd hEq.symm hx
      · exact ih hMem

theorem lookup_store_self (h : k ∈ keys l) : lookup k (store k v l) = some v := by
  induction l with
  | nil => exact absurd h List.not_mem_nil
  | cons x l ih =>
    rw [store, List.map_cons, lookup_cons]
    by_cases hx : x.1 = k
    · rw [if_pos hx, if_pos rfl]
    · rw [if_neg hx, if_neg hx]
      rcases List.mem_cons.mp h with hEq | hMem
      · exact absurd hEq.symm hx
      · exact ih hMem

theorem lookup_store_ne (h : k' ≠ k) : lookup k' (store k v l) = lookup k' l := by
  induction l with
  | nil => rfl
  | cons x l ih =>
    rw [store, List.map_cons, lookup_cons, lookup_cons]
    by_cases hx : x.1 = k
    · rw [if_pos hx, if_neg (Ne.symm h), if_neg fun hEq => h (hEq.symm.trans hx)]
      exact ih
    · rw [if_neg hx]
      by_cases hx' : x.1 = k'
      · rw [if_pos hx', if_pos hx']
      · rw [if_neg hx', if_neg hx']
        exact ih

theorem lookup_of_mem (hNodup : (keys l).Nodup) (h : (k, v) ∈ l) : lookup k l = some v := by
  induction l with
  | nil => exact absurd h List.not_mem_nil
  | cons x l ih =>
    obtain ⟨hFresh, hNodup⟩ := List.nodup_cons.mp hNodup
    rw [lookup_cons]
    rcases List.mem_cons.mp h with rfl | hMem
    · rw [if_pos rfl]
    · have hNe : x.1 ≠ k := fun hEq => hFresh (hEq ▸ List.mem_map_of_mem hMem)
      rw [if_neg hNe]
      exact ih hNodup hMem

theorem mem_of_lookup (h : lookup k l = some v) : (k, v) ∈ l := by
  induction l with
  | nil => cases h
  | cons x l ih =>
    rw [lookup_cons] at h
    split at h
    · rename_i hEq
      cases hEq
      cases h
      exact List.mem_cons_self
    · exact List.mem_cons_of_mem _ (ih h)

theorem store_of_not_mem (h : k ∉ keys l) : store k v l = l := by
  rw [store]
  conv_rhs => rw [← List.map_id l]
  apply List.map_congr_left
  intro x hx
  have hNe : x.1 ≠ k := fun hEq => h (hEq ▸ List.mem_map_of_mem hx)
  rw [if_neg hNe]
  rfl

theorem around (hNodup : (keys (l ++ (k, v) :: l')).Nodup) :
    lookup k (l ++ (k, v) :: l') = some v ∧
      ∀ v', store k v' (l ++ (k, v) :: l') = l ++ (k, v') :: l' := by
  have hLookup := lookup_of_mem hNodup (List.mem_append_right l List.mem_cons_self)
  rw [keys, List.map_append, List.map_cons, List.nodup_middle] at hNodup
  have hFresh := (List.nodup_cons.mp hNodup).1
  rw [List.mem_append, not_or] at hFresh
  refine ⟨hLookup, fun v' => ?_⟩
  have hBefore : l.map (fun x => if x.1 = k then (k, v') else x) = l := store_of_not_mem hFresh.1
  have hAfter : l'.map (fun x => if x.1 = k then (k, v') else x) = l' :=
    store_of_not_mem hFresh.2
  rw [store, List.map_append, List.map_cons, hBefore, hAfter, if_pos rfl]

theorem exists_around (hNodup : (keys l).Nodup) (hOld : lookup k l = some v) :
    ∃ before after, l = before ++ (k, v) :: after ∧
      ∀ v', store k v' l = before ++ (k, v') :: after := by
  obtain ⟨before, after, rfl⟩ := List.append_of_mem (mem_of_lookup hOld)
  exact ⟨before, after, rfl, (around hNodup).2⟩

theorem tally_store (p : V → Bool) (v' : V) (hNodup : (keys l).Nodup)
    (hOld : lookup k l = some v) :
    tally p (store k v' l) + (p v).toNat = tally p l + (p v').toNat := by
  obtain ⟨before, after, hSplit, hStore⟩ := exists_around hNodup hOld
  rw [hStore, hSplit, tally_append, tally_append, tally_cons, tally_cons]
  omega

theorem flatMap_keys {C : Type w} (f : K → V → List C) (hNodup : (keys l).Nodup) :
    l.flatMap (fun x => f x.1 x.2) =
      (keys l).flatMap fun k => ((lookup k l).map (f k)).getD [] := by
  rw [keys, List.flatMap_map]
  apply List.flatMap_congr
  intro x hx
  rw [lookup_of_mem hNodup hx]
  rfl

end
end Dictionary
