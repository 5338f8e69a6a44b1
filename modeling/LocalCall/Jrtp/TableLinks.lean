import LocalCall.Library.LinkedList
import LocalCall.Jrtp.KeyHashTable
import Mathlib.Data.List.Perm.Subperm

/-! # The links of the hash table

`Linked` says of a table that its elements lie in the list in a given order and each in the bucket of
its index, the last one added at the front. One lemma for each member function says what the
function makes of such a table.
-/
namespace LocalCall.Jrtp
set_option autoImplicit false

open LinkedList

namespace RTPKeyHashTable

variable {K V : Type}

def link (t : RTPKeyHashTable K V) (field : HashElement K V → Option Address) (a : Address) :
    Option Address := (t.heap a).bind field

def keyAt (t : RTPKeyHashTable K V) (a : Address) : Option K := (t.heap a).map HashElement.key

def indexAt (t : RTPKeyHashTable K V) (a : Address) : Option Nat :=
  (t.heap a).map HashElement.hashindex

def entryAt (t : RTPKeyHashTable K V) (a : Address) : Option (K × V) :=
  (t.heap a).map fun e => (e.key, e.element)

def bucket (t : RTPKeyHashTable K V) (addrs : List Address) (i : Nat) : List Address :=
  (addrs.filter fun a => t.indexAt a = some i).reverse

/-- The table holds the elements at `addrs`, in this order, and nothing else is allocated. -/
structure Linked (getIndex : K → Nat) (hashsize : Nat) (t : RTPKeyHashTable K V)
    (addrs : List Address) : Prop where
  hNodup : addrs.Nodup
  hBound : ∀ a ∈ addrs, a < t.allocated
  hHeap : ∀ a, (t.heap a).isSome ↔ a ∈ addrs
  hKeys : (addrs.map t.keyAt).Nodup
  hIndex : ∀ a e, t.heap a = some e → e.hashindex = getIndex e.key ∧ getIndex e.key < hashsize
  hList : Chain (t.link HashElement.listnext) (t.link HashElement.listprev) none addrs none
  hFirst : t.firsthashelem = addrs.head?
  hLast : t.lasthashelem = addrs.getLast?
  hBucket : ∀ i, Chain (t.link HashElement.hashnext) (t.link HashElement.hashprev) none
    (t.bucket addrs i) none
  hTable : ∀ i < hashsize, t.table i = (t.bucket addrs i).head?

section
variable {getIndex : K → Nat} {hashsize : Nat} {t : RTPKeyHashTable K V} {addrs : List Address}
  {a b : Address} {e : HashElement K V}

theorem link_of_heap {field : HashElement K V → Option Address} (h : t.heap a = some e) :
    t.link field a = field e := by
  rw [link, h]
  rfl

theorem mem_bucket {i : Nat} : a ∈ t.bucket addrs i ↔ a ∈ addrs ∧ t.indexAt a = some i := by
  rw [bucket, List.mem_reverse, List.mem_filter, decide_eq_true_iff]

theorem nodup_bucket (h : addrs.Nodup) (i : Nat) : (t.bucket addrs i).Nodup :=
  List.nodup_reverse.mpr (h.filter _)

namespace Linked
variable (h : Linked getIndex hashsize t addrs)
include h

theorem exists_heap (ha : a ∈ addrs) : ∃ e, t.heap a = some e :=
  Option.isSome_iff_exists.mp ((h.hHeap a).mpr ha)

theorem mem_of_heap (ha : t.heap a = some e) : a ∈ addrs :=
  (h.hHeap a).mp (by rw [ha]; rfl)

theorem list_neighbours (ha : t.heap a = some e) :
    ∃ l₁ l₂, addrs = l₁ ++ a :: l₂ ∧ e.listprev = l₁.getLast? ∧ e.listnext = l₂.head? := by
  obtain ⟨l₁, l₂, hSplit⟩ := List.append_of_mem (h.mem_of_heap ha)
  have hList := h.hList
  rw [hSplit] at hList
  refine ⟨l₁, l₂, hSplit, ?_, ?_⟩
  · rw [← hList.prev_eq, link_of_heap ha]
  · rw [← hList.next_eq, link_of_heap ha]

theorem bucket_neighbours (ha : t.heap a = some e) :
    ∃ l₁ l₂, t.bucket addrs e.hashindex = l₁ ++ a :: l₂ ∧ e.hashprev = l₁.getLast? ∧
      e.hashnext = l₂.head? := by
  have hMem : a ∈ t.bucket addrs e.hashindex := by
    refine mem_bucket.mpr ⟨h.mem_of_heap ha, ?_⟩
    rw [indexAt, ha]
    rfl
  obtain ⟨l₁, l₂, hSplit⟩ := List.append_of_mem hMem
  have hBucket := h.hBucket e.hashindex
  rw [hSplit] at hBucket
  refine ⟨l₁, l₂, hSplit, ?_, ?_⟩
  · rw [← hBucket.prev_eq, link_of_heap ha]
  · rw [← hBucket.next_eq, link_of_heap ha]

theorem listprev_mem (ha : t.heap a = some e) (hb : e.listprev = some b) : b ∈ addrs := by
  obtain ⟨l₁, l₂, hSplit, hBack, -⟩ := h.list_neighbours ha
  rw [hSplit]
  exact List.mem_append_left _ (List.mem_of_mem_getLast? (hBack.symm.trans hb))

theorem listnext_mem (ha : t.heap a = some e) (hb : e.listnext = some b) : b ∈ addrs := by
  obtain ⟨l₁, l₂, hSplit, -, hForth⟩ := h.list_neighbours ha
  rw [hSplit]
  exact List.mem_append_right _
    (List.mem_cons_of_mem a (List.mem_of_mem_head? (hForth.symm.trans hb)))

theorem hashprev_mem (ha : t.heap a = some e) (hb : e.hashprev = some b) :
    b ∈ t.bucket addrs e.hashindex := by
  obtain ⟨l₁, l₂, hSplit, hBack, -⟩ := h.bucket_neighbours ha
  rw [hSplit]
  exact List.mem_append_left _ (List.mem_of_mem_getLast? (hBack.symm.trans hb))

theorem hashnext_mem (ha : t.heap a = some e) (hb : e.hashnext = some b) :
    b ∈ t.bucket addrs e.hashindex := by
  obtain ⟨l₁, l₂, hSplit, -, hForth⟩ := h.bucket_neighbours ha
  rw [hSplit]
  exact List.mem_append_right _
    (List.mem_cons_of_mem a (List.mem_of_mem_head? (hForth.symm.trans hb)))

theorem length_le : addrs.length ≤ t.allocated := by
  have hSub : addrs ⊆ List.range t.allocated := fun a ha => List.mem_range.mpr (h.hBound a ha)
  have hLength := (List.Nodup.subperm h.hNodup hSub).length_le
  rwa [List.length_range] at hLength

end Linked

/-! ## Searching -/

theorem find_chain [DecidableEq K] {k : K} {before : Option Address} (l : List Address)
    (hChain : Chain (t.link HashElement.hashnext) (t.link HashElement.hashprev) before l none)
    (hHeap : ∀ a ∈ l, (t.heap a).isSome) {fuel : Nat} (hFuel : l.length ≤ fuel) :
    t.find k fuel l.head? = some (l.find? fun a => t.keyAt a = some k) := by
  induction l generalizing before fuel with
  | nil => cases fuel <;> rfl
  | cons a l ih =>
    cases fuel with
    | zero => exact absurd hFuel (Nat.not_succ_le_zero _)
    | succ fuel =>
      obtain ⟨-, hForth, hRest⟩ := hChain
      obtain ⟨e, he⟩ := Option.isSome_iff_exists.mp (hHeap a List.mem_cons_self)
      have hNext : e.hashnext = l.head? := by
        have hLink : t.link HashElement.hashnext a = e.hashnext := link_of_heap he
        rw [← hLink, hForth, Option.or_none]
      have hTail := ih hRest (fun b hb => hHeap b (List.mem_cons_of_mem a hb))
        (Nat.le_of_succ_le_succ hFuel)
      have hKey : t.keyAt a = some e.key := by rw [keyAt, he]; rfl
      rw [List.head?_cons, find, he, Option.bind_some]
      by_cases hFound : e.key = k
      · rw [if_pos hFound, List.find?_cons_of_pos (by simp [hKey, hFound])]
      · rw [if_neg hFound, hNext, hTail, List.find?_cons_of_neg (by simp [hKey, hFound])]

/-- The search in a bucket finds the element of the key, if there is one in the table. -/
theorem Linked.find_spec [DecidableEq K] (h : Linked getIndex hashsize t addrs) {k : K}
    (hValid : getIndex k < hashsize) :
    ∃ found, t.find k t.allocated (t.table (getIndex k)) = some found ∧
      (∀ a ∈ found, a ∈ addrs ∧ t.keyAt a = some k) ∧
      (found = none → ∀ a ∈ addrs, t.keyAt a ≠ some k) := by
  have hHeap : ∀ a ∈ t.bucket addrs (getIndex k), (t.heap a).isSome := fun a ha =>
    (h.hHeap a).mpr (mem_bucket.mp ha).1
  have hFuel : (t.bucket addrs (getIndex k)).length ≤ t.allocated := by
    rw [bucket, List.length_reverse]
    exact Nat.le_trans (List.length_filter_le _ _) h.length_le
  refine ⟨(t.bucket addrs (getIndex k)).find? fun a => t.keyAt a = some k, ?_, ?_, ?_⟩
  · rw [h.hTable _ hValid]
    exact find_chain _ (h.hBucket _) hHeap hFuel
  · intro a ha
    have hKey := List.find?_some ha
    exact ⟨(mem_bucket.mp (List.mem_of_find?_eq_some ha)).1, of_decide_eq_true hKey⟩
  · intro hNone a ha hKey
    obtain ⟨e, he⟩ := h.exists_heap ha
    have hOwn : e.key = k := by
      rw [keyAt, he] at hKey
      exact Option.some.inj hKey
    have hMem : a ∈ t.bucket addrs (getIndex k) := by
      refine mem_bucket.mpr ⟨ha, ?_⟩
      rw [indexAt, he, Option.map_some, (h.hIndex a e he).1, hOwn]
    exact absurd (decide_eq_true hKey) (List.find?_eq_none.mp hNone a hMem)

/-! ## Taking an element out -/

def afterHash (e : HashElement K V) (b : Address) (x : HashElement K V) : HashElement K V :=
  { x with
    hashnext := if e.hashprev = some b then e.hashnext else x.hashnext
    hashprev := if e.hashnext = some b then e.hashprev else x.hashprev }

def afterList (e : HashElement K V) (b : Address) (x : HashElement K V) : HashElement K V :=
  { x with
    listnext := if e.listprev = some b then e.listnext else x.listnext
    listprev := if e.listnext = some b then e.listprev else x.listprev }

theorem assign_heap {f : HashElement K V → HashElement K V} (ha : (t.heap a).isSome) :
    ∃ t', t.assign a f = some t' ∧
      (∀ b, t'.heap b = (t.heap b).map fun x => if a = b then f x else x) ∧
      t' = { t with heap := t'.heap } := by
  obtain ⟨e, he⟩ := Option.isSome_iff_exists.mp ha
  refine ⟨{ t with heap := Function.update t.heap a (some (f e)) }, ?_, ?_, rfl⟩
  · rw [assign, he]
    rfl
  · intro b
    by_cases hb : a = b
    · subst hb
      rw [he]
      simp
    · change Function.update t.heap a _ b = _
      rw [Function.update_of_ne (Ne.symm hb)]
      simp [hb]

theorem assignIfAny_heap {f : HashElement K V → HashElement K V} {p : Option Address}
    (hp : ∀ a ∈ p, (t.heap a).isSome) :
    ∃ t', t.assignIfAny p f = some t' ∧
      (∀ b, t'.heap b = (t.heap b).map fun x => if p = some b then f x else x) ∧
      t' = { t with heap := t'.heap } := by
  cases p with
  | none => exact ⟨t, rfl, fun b => by simp, rfl⟩
  | some a =>
    obtain ⟨t', hAssign, hHeap, hRest⟩ := assign_heap (f := f) (hp a rfl)
    refine ⟨t', hAssign, fun b => ?_, hRest⟩
    rw [hHeap]
    simp

theorem unlinkHash_heap (hBack : ∀ a ∈ e.hashprev, (t.heap a).isSome)
    (hForth : ∀ a ∈ e.hashnext, (t.heap a).isSome) :
    ∃ t', t.unlinkHash e = some t' ∧ (∀ b, t'.heap b = (t.heap b).map (afterHash e b)) ∧
      t' = { t with
        heap := t'.heap
        table := if e.hashprev = none then Function.update t.table e.hashindex e.hashnext
          else t.table } := by
  cases hPrev : e.hashprev with
  | none =>
    obtain ⟨t', hAssign, hHeap, hRest⟩ := assignIfAny_heap
      (t := { t with table := Function.update t.table e.hashindex e.hashnext })
      (f := fun e => { e with hashprev := none }) hForth
    refine ⟨t', ?_, fun b => ?_, hRest⟩
    · rw [unlinkHash, hPrev]
      exact hAssign
    · rw [hHeap]
      congr 1
      funext x
      rw [afterHash, hPrev]
      by_cases hb : e.hashnext = some b <;> simp [hb]
  | some p =>
    obtain ⟨t₁, hAssign₁, hHeap₁, hRest₁⟩ := assign_heap
      (f := fun x : HashElement K V => { x with hashnext := e.hashnext }) (hBack p hPrev)
    have hForth₁ : ∀ a ∈ e.hashnext, (t₁.heap a).isSome := by
      intro a ha
      rw [hHeap₁, Option.isSome_map]
      exact hForth a ha
    obtain ⟨t₂, hAssign₂, hHeap₂, hRest₂⟩ := assignIfAny_heap (t := t₁)
      (f := fun x => { x with hashprev := some p }) hForth₁
    refine ⟨t₂, ?_, fun b => ?_, ?_⟩
    · rw [unlinkHash, hPrev]
      change (t.assign p _).bind _ = _
      rw [hAssign₁]
      exact hAssign₂
    · rw [hHeap₂, hHeap₁, Option.map_map]
      congr 1
      funext x
      rw [afterHash, hPrev]
      by_cases hb : p = b <;> by_cases hb' : e.hashnext = some b <;> simp [hb, hb']
    · rw [hRest₂, hRest₁]
      rfl

theorem unlinkList_heap (hBack : ∀ a ∈ e.listprev, (t.heap a).isSome)
    (hForth : ∀ a ∈ e.listnext, (t.heap a).isSome) :
    ∃ t', t.unlinkList e = some t' ∧ (∀ b, t'.heap b = (t.heap b).map (afterList e b)) ∧
      t' = { t with
        heap := t'.heap
        firsthashelem := if e.listprev = none then e.listnext else t.firsthashelem
        lasthashelem := if e.listnext = none then e.listprev else t.lasthashelem } := by
  cases hPrev : e.listprev with
  | none =>
    cases hNext : e.listnext with
    | none =>
      refine ⟨{ t with firsthashelem := none, lasthashelem := none }, ?_, fun b => ?_, rfl⟩
      · rw [unlinkList, hPrev, hNext]
      · have hSame : afterList e b = id := by
          funext x
          rw [afterList, hPrev, hNext]
          rfl
        rw [hSame, Option.map_id]
        rfl
    | some n =>
      obtain ⟨t', hAssign, hHeap, hRest⟩ := assign_heap
        (t := { t with firsthashelem := some n })
        (f := fun e => { e with listprev := none }) (hForth n hNext)
      refine ⟨t', ?_, fun b => ?_, ?_⟩
      · rw [unlinkList, hPrev, hNext]
        exact hAssign
      · rw [hHeap]
        congr 1
        funext x
        rw [afterList, hPrev, hNext]
        by_cases hb : n = b <;> simp [hb]
      · rw [hRest]
        rfl
  | some p =>
    cases hNext : e.listnext with
    | none =>
      obtain ⟨t', hAssign, hHeap, hRest⟩ := assign_heap
        (f := fun x : HashElement K V => { x with listnext := none }) (hBack p hPrev)
      refine ⟨{ t' with lasthashelem := some p }, ?_, fun b => ?_, ?_⟩
      · rw [unlinkList, hPrev, hNext]
        change (t.assign p _).map _ = _
        rw [hAssign]
        rfl
      · change t'.heap b = _
        rw [hHeap]
        congr 1
        funext x
        rw [afterList, hPrev, hNext]
        by_cases hb : p = b <;> simp [hb]
      · rw [hRest]
        rfl
    | some n =>
      obtain ⟨t₁, hAssign₁, hHeap₁, hRest₁⟩ := assign_heap
        (f := fun x : HashElement K V => { x with listnext := some n }) (hBack p hPrev)
      have hForth₁ : (t₁.heap n).isSome := by
        rw [hHeap₁, Option.isSome_map]
        exact hForth n hNext
      obtain ⟨t₂, hAssign₂, hHeap₂, hRest₂⟩ := assign_heap (t := t₁)
        (f := fun x => { x with listprev := some p }) hForth₁
      refine ⟨t₂, ?_, fun b => ?_, ?_⟩
      · rw [unlinkList, hPrev, hNext]
        change (t.assign p _).bind _ = _
        rw [hAssign₁]
        exact hAssign₂
      · rw [hHeap₂, hHeap₁, Option.map_map]
        congr 1
        funext x
        rw [afterList, hPrev, hNext]
        by_cases hb : p = b <;> by_cases hb' : n = b <;> simp [hb, hb']
      · rw [hRest₂, hRest₁]
        rfl

theorem bucket_congr {t' : RTPKeyHashTable K V} {i : Nat}
    (hIndex : ∀ b ∈ addrs, t'.indexAt b = t.indexAt b) :
    t'.bucket addrs i = t.bucket addrs i := by
  rw [bucket, bucket, List.filter_congr fun b hb => by rw [hIndex b hb]]

theorem bucket_append {l₁ l₂ : List Address} {i : Nat} :
    t.bucket (l₁ ++ l₂) i = t.bucket l₂ i ++ t.bucket l₁ i := by
  rw [bucket, List.filter_append, List.reverse_append]
  rfl

theorem bucket_cons {l : List Address} {i : Nat} : t.bucket (a :: l) i =
    if t.indexAt a = some i then t.bucket l i ++ [a] else t.bucket l i := by
  rw [bucket, List.filter_cons]
  split
  · rename_i h
    rw [if_pos (of_decide_eq_true h), List.reverse_cons]
    rfl
  · rename_i h
    rw [if_neg fun h' => h (decide_eq_true h')]
    rfl

/-- What is left of a table when the element at `a` is taken out of both of its chains. -/
structure TakenOut (t t' : RTPKeyHashTable K V) (a : Address) (e : HashElement K V) : Prop where
  hHeap : ∀ b, t'.heap b = if b = a then none else
    (t.heap b).map fun x => afterList e b (afterHash e b x)
  hTable : t'.table = if e.hashprev = none then Function.update t.table e.hashindex e.hashnext
    else t.table
  hFirst : t'.firsthashelem = if e.listprev = none then e.listnext else t.firsthashelem
  hLast : t'.lasthashelem = if e.listnext = none then e.listprev else t.lasthashelem
  hAllocated : t'.allocated = t.allocated
  hCursor : t'.curhashelem = some e.listnext

theorem Linked.takeOut (h : Linked getIndex hashsize t addrs) (ha : t.heap a = some e)
    (hCursor : t.curhashelem = some (some a)) :
    ∃ t', t.deleteCurrentElement = some (t', .done) ∧ TakenOut t t' a e := by
  have hIn : ∀ b ∈ addrs, (t.heap b).isSome := fun b hb => (h.hHeap b).mpr hb
  obtain ⟨t₁, hHash, hHeap₁, hRest₁⟩ := unlinkHash_heap
    (fun b hb => hIn b (mem_bucket.mp (h.hashprev_mem ha hb)).1)
    (fun b hb => hIn b (mem_bucket.mp (h.hashnext_mem ha hb)).1)
  have hIn₁ : ∀ b ∈ addrs, (t₁.heap b).isSome := by
    intro b hb
    rw [hHeap₁, Option.isSome_map]
    exact hIn b hb
  obtain ⟨t₂, hList, hHeap₂, hRest₂⟩ := unlinkList_heap (t := t₁) (e := e)
    (fun b hb => hIn₁ b (h.listprev_mem ha hb)) (fun b hb => hIn₁ b (h.listnext_mem ha hb))
  refine ⟨{ t₂ with
    heap := Function.update t₂.heap a none
    curhashelem := some e.listnext }, ?_, ?_, ?_, ?_, ?_, ?_, rfl⟩
  · rw [deleteCurrentElement, hCursor]
    change (t.heap a).bind _ = _
    rw [ha, Option.bind_some, hHash, Option.bind_some, hList]
    rfl
  · intro b
    by_cases hb : b = a
    · subst hb
      rw [if_pos rfl]
      exact Function.update_self _ _ _
    · rw [if_neg hb]
      change Function.update t₂.heap a none b = _
      rw [Function.update_of_ne hb, hHeap₂, hHeap₁, Option.map_map]
      rfl
  · change t₂.table = _
    rw [hRest₂, hRest₁]
  · change t₂.firsthashelem = _
    rw [hRest₂, hRest₁]
  · change t₂.lasthashelem = _
    rw [hRest₂, hRest₁]
  · change t₂.allocated = _
    rw [hRest₂, hRest₁]

namespace TakenOut
variable {t' : RTPKeyHashTable K V} (hOut : TakenOut t t' a e)
include hOut

theorem heap_ne (hb : b ≠ a) : t'.heap b =
    (t.heap b).map fun x => afterList e b (afterHash e b x) := by
  rw [hOut.hHeap, if_neg hb]

theorem entryAt_ne (hb : b ≠ a) : t'.entryAt b = t.entryAt b := by
  rw [entryAt, entryAt, hOut.heap_ne hb, Option.map_map]
  rfl

theorem keyAt_ne (hb : b ≠ a) : t'.keyAt b = t.keyAt b := by
  rw [keyAt, keyAt, hOut.heap_ne hb, Option.map_map]
  rfl

theorem indexAt_ne (hb : b ≠ a) : t'.indexAt b = t.indexAt b := by
  rw [indexAt, indexAt, hOut.heap_ne hb, Option.map_map]
  rfl

theorem link_ne {field back forth : HashElement K V → Option Address}
    (hField : ∀ b x, field (afterList e b (afterHash e b x)) =
      if back e = some b then forth e else field x)
    (hAllocated : ∀ b, back e = some b → (t.heap b).isSome) (ha : t.heap a = some e)
    (hb : b ≠ a) : t'.link field b =
      if t.link back a = some b then t.link forth a else t.link field b := by
  rw [link, hOut.heap_ne hb, link_of_heap ha, link_of_heap ha, link]
  cases hHeap : t.heap b with
  | none =>
    rw [if_neg]
    · rfl
    · intro hBack
      have hSome := hAllocated b hBack
      rw [hHeap] at hSome
      cases hSome
  | some x => exact hField b x

end TakenOut

theorem Linked.takenOut {t' : RTPKeyHashTable K V} {l₁ l₂ : List Address}
    (h : Linked getIndex hashsize t (l₁ ++ a :: l₂)) (ha : t.heap a = some e)
    (hOut : TakenOut t t' a e) : Linked getIndex hashsize t' (l₁ ++ l₂) := by
  have hSub : (l₁ ++ l₂).Sublist (l₁ ++ a :: l₂) :=
    (List.Sublist.refl l₁).append (List.sublist_cons_self a l₂)
  have hNotMem : a ∉ l₁ ++ l₂ := by
    intro hMem
    have hNodup := h.hNodup
    rw [List.nodup_middle] at hNodup
    exact (List.nodup_cons.mp hNodup).1 hMem
  have hNe : ∀ b ∈ l₁ ++ l₂, b ≠ a := fun b hb hEq => hNotMem (hEq ▸ hb)
  have hIn : ∀ b ∈ l₁ ++ a :: l₂, (t.heap b).isSome := fun b hb => (h.hHeap b).mpr hb
  have hIndexes : ∀ b ∈ l₁ ++ l₂, t'.indexAt b = t.indexAt b :=
    fun b hb => hOut.indexAt_ne (hNe b hb)
  have hOwn : t.indexAt a = some e.hashindex := by rw [indexAt, ha]; rfl
  have hBefore : e.listprev = l₁.getLast? := by
    rw [← h.hList.prev_eq, link_of_heap ha]
  have hAfter : e.listnext = l₂.head? := by
    rw [← h.hList.next_eq, link_of_heap ha]
  have hBucket : ∀ i, t'.bucket (l₁ ++ l₂) i = t.bucket l₂ i ++ t.bucket l₁ i := by
    intro i
    rw [bucket_congr hIndexes, bucket_append]
  have hHere : t.bucket (l₁ ++ a :: l₂) e.hashindex =
      t.bucket l₂ e.hashindex ++ a :: t.bucket l₁ e.hashindex := by
    rw [bucket_append, bucket_cons, if_pos hOwn, List.append_assoc]
    rfl
  have hThere : ∀ i, i ≠ e.hashindex →
      t.bucket (l₁ ++ a :: l₂) i = t.bucket l₂ i ++ t.bucket l₁ i := by
    intro i hi
    rw [bucket_append, bucket_cons, if_neg]
    rw [hOwn]
    exact fun hEq => hi (Option.some.inj hEq).symm
  have hHashNext : ∀ b, b ≠ a → t'.link HashElement.hashnext b =
      if t.link HashElement.hashprev a = some b then t.link HashElement.hashnext a
      else t.link HashElement.hashnext b := fun b hb =>
    hOut.link_ne (fun _ _ => rfl)
      (fun c hc => hIn c (mem_bucket.mp (h.hashprev_mem ha hc)).1) ha hb
  have hHashPrev : ∀ b, b ≠ a → t'.link HashElement.hashprev b =
      if t.link HashElement.hashnext a = some b then t.link HashElement.hashprev a
      else t.link HashElement.hashprev b := fun b hb =>
    hOut.link_ne (fun _ _ => rfl)
      (fun c hc => hIn c (mem_bucket.mp (h.hashnext_mem ha hc)).1) ha hb
  have hChainHere := h.hBucket e.hashindex
  have hNodupHere := nodup_bucket (t := t) h.hNodup e.hashindex
  rw [hHere] at hChainHere hNodupHere
  refine ⟨hSub.nodup h.hNodup, ?_, ?_, ?_, ?_, ?_, ?_, ?_, ?_, ?_⟩
  · intro b hb
    rw [hOut.hAllocated]
    exact h.hBound b (hSub.subset hb)
  · intro b
    rw [hOut.hHeap]
    by_cases hb : b = a
    · subst hb
      rw [if_pos rfl]
      exact ⟨fun hSome => absurd hSome Bool.false_ne_true, fun hMem => absurd hMem hNotMem⟩
    · rw [if_neg hb, Option.isSome_map, h.hHeap, List.mem_append, List.mem_append, List.mem_cons]
      exact or_congr_right (or_iff_right hb)
  · rw [List.map_congr_left fun b hb => hOut.keyAt_ne (hNe b hb)]
    exact (hSub.map t.keyAt).nodup h.hKeys
  · intro b x hx
    rw [hOut.hHeap] at hx
    split at hx
    · cases hx
    · obtain ⟨y, hy, rfl⟩ := Option.map_eq_some_iff.mp hx
      exact h.hIndex b y hy
  · exact h.hList.unlink h.hNodup
      (fun b hb => hOut.link_ne (fun _ _ => rfl) (fun c hc => hIn c (h.listprev_mem ha hc)) ha hb)
      (fun b hb => hOut.link_ne (fun _ _ => rfl) (fun c hc => hIn c (h.listnext_mem ha hc)) ha hb)
  · rw [hOut.hFirst, hBefore, hAfter, h.hFirst]
    cases l₁ with
    | nil => rfl
    | cons b l₁ => rw [if_neg (by simp)]; rfl
  · rw [hOut.hLast, hBefore, hAfter, h.hLast]
    cases l₂ with
    | nil => rw [List.append_nil]; rfl
    | cons b l₂ =>
      rw [if_neg (by simp)]
      simp [List.getLast?_append]
  · intro i
    rw [hBucket]
    by_cases hi : i = e.hashindex
    · subst hi
      exact hChainHere.unlink hNodupHere hHashNext hHashPrev
    · rw [← hThere i hi]
      have hApart : ∀ b ∈ t.bucket (l₁ ++ a :: l₂) i, b ∉ t.bucket (l₁ ++ a :: l₂) e.hashindex := by
        intro b hb hb'
        have hEq := (mem_bucket.mp hb).2.symm.trans (mem_bucket.mp hb').2
        exact hi (Option.some.inj hEq)
      have hSelf : ∀ b ∈ t.bucket (l₁ ++ a :: l₂) i, b ≠ a := by
        intro b hb hEq
        have hOther := (mem_bucket.mp hb).2
        rw [hEq, hOwn] at hOther
        exact hi (Option.some.inj hOther).symm
      apply (h.hBucket i).congr
      · intro b hb
        rw [hHashNext b (hSelf b hb), if_neg]
        rw [link_of_heap ha]
        exact fun hEq => hApart b hb (h.hashprev_mem ha hEq)
      · intro b hb
        rw [hHashPrev b (hSelf b hb), if_neg]
        rw [link_of_heap ha]
        exact fun hEq => hApart b hb (h.hashnext_mem ha hEq)
  · intro i hi
    have hPrev : e.hashprev = (t.bucket l₂ e.hashindex).getLast? := by
      rw [← hChainHere.prev_eq, link_of_heap ha]
    have hNext : e.hashnext = (t.bucket l₁ e.hashindex).head? := by
      rw [← hChainHere.next_eq, link_of_heap ha]
    rw [hBucket, hOut.hTable, hPrev, hNext]
    by_cases hIndex : i = e.hashindex
    · subst hIndex
      have hOld := h.hTable e.hashindex hi
      rw [hHere] at hOld
      cases hRest : t.bucket l₂ e.hashindex with
      | nil => rw [List.getLast?_nil, if_pos rfl, Function.update_self]; rfl
      | cons b rest =>
        rw [hRest] at hOld
        rw [if_neg (by simp), hOld]
        rfl
    · have hOld := h.hTable i hi
      rw [hThere i hIndex] at hOld
      rw [← hOld]
      split
      · rw [Function.update_of_ne hIndex]
      · rfl

/-! ## Adding an element -/

/-- A table with a new element for `k` in front of its bucket and behind the list. -/
structure Added (getIndex : K → Nat) (t t' : RTPKeyHashTable K V) (k : K) (v : V) : Prop where
  hNew : t'.heap t.allocated =
    some ⟨getIndex k, k, v, none, t.table (getIndex k), t.lasthashelem, none⟩
  hHeap : ∀ b, b ≠ t.allocated → t'.heap b = (t.heap b).map fun x => { x with
    hashprev := if t.table (getIndex k) = some b then some t.allocated else x.hashprev
    listnext := if t.lasthashelem = some b then some t.allocated else x.listnext }
  hTable : t'.table = Function.update t.table (getIndex k) (some t.allocated)
  hFirst : t'.firsthashelem = t.firsthashelem.or (some t.allocated)
  hLast : t'.lasthashelem = some t.allocated
  hAllocated : t'.allocated = t.allocated + 1
  hCursor : t'.curhashelem = t.curhashelem

theorem appendToList_heap {n : Address} (hEmpty : t.firsthashelem = none ↔ t.lasthashelem = none)
    (hLast : ∀ a ∈ t.lasthashelem, a ≠ n ∧ (t.heap a).isSome) (hNew : (t.heap n).isSome) :
    ∃ t', t.appendToList n = some t' ∧
      (∀ b, t'.heap b = (t.heap b).map fun x => { x with
        listnext := if t.lasthashelem = some b then some n else x.listnext
        listprev := if n = b then t.lasthashelem.or x.listprev else x.listprev }) ∧
      t' = { t with
        heap := t'.heap
        firsthashelem := t.firsthashelem.or (some n)
        lasthashelem := some n } := by
  cases hLastIs : t.lasthashelem with
  | none =>
    have hFirst := hEmpty.mpr hLastIs
    refine ⟨{ t with firsthashelem := some n, lasthashelem := some n }, ?_, fun b => ?_, ?_⟩
    · rw [appendToList, hFirst]
    · have hSame : ∀ x : HashElement K V, { x with
          listnext := if (none : Option Address) = some b then some n else x.listnext
          listprev := if n = b then (none : Option Address).or x.listprev else x.listprev } = x := by
        intro x
        simp
      simp only [hSame, Option.map_id']
    · rw [hFirst]
      rfl
  | some last =>
    obtain ⟨hNe, hHeap⟩ := hLast last hLastIs
    obtain ⟨first, hFirst⟩ : ∃ first, t.firsthashelem = some first := by
      apply Option.ne_none_iff_exists'.mp
      intro hNone
      rw [hEmpty.mp hNone] at hLastIs
      cases hLastIs
    obtain ⟨t₁, hAssign₁, hHeap₁, hRest₁⟩ := assign_heap
      (f := fun e : HashElement K V => { e with listnext := some n }) hHeap
    have hNew₁ : (t₁.heap n).isSome := by
      rw [hHeap₁, Option.isSome_map]
      exact hNew
    obtain ⟨t₂, hAssign₂, hHeap₂, hRest₂⟩ := assign_heap
      (f := fun e : HashElement K V => { e with listprev := some last }) hNew₁
    refine ⟨{ t₂ with lasthashelem := some n }, ?_, fun b => ?_, ?_⟩
    · rw [appendToList, hFirst, hLastIs]
      change (t.assign last _).bind _ = _
      rw [hAssign₁]
      change (t₁.assign n _).map _ = _
      rw [hAssign₂]
      rfl
    · change t₂.heap b = _
      rw [hHeap₂, hHeap₁, Option.map_map]
      congr 1
      funext x
      by_cases hb : last = b <;> by_cases hb' : n = b <;> simp [hb, hb']
    · rw [hRest₂, hRest₁, hFirst]
      rfl

theorem Linked.add [DecidableEq K] (h : Linked getIndex hashsize t addrs) {k : K} (v : V)
    (hValid : getIndex k < hashsize) (hKey : ∀ a ∈ addrs, t.keyAt a ≠ some k) :
    ∃ t', t.addElement getIndex hashsize k v = some (t', .done) ∧ Added getIndex t t' k v := by
  obtain ⟨found, hFind, hFound, -⟩ := h.find_spec hValid
  have hNone : found = none := by
    cases found with
    | none => rfl
    | some a => exact absurd (hFound a rfl).2 (hKey a (hFound a rfl).1)
  rw [hNone] at hFind
  have hFresh : ∀ a ∈ addrs, a ≠ t.allocated := fun a ha => Nat.ne_of_lt (h.hBound a ha)
  have hFront : ∀ a ∈ t.table (getIndex k), a ∈ addrs := by
    intro a ha
    rw [h.hTable _ hValid] at ha
    exact (mem_bucket.mp (List.mem_of_mem_head? ha)).1
  have hLastMem : ∀ a ∈ t.lasthashelem, a ∈ addrs := by
    intro a ha
    rw [h.hLast] at ha
    exact List.mem_of_mem_getLast? ha
  have hApart : t.table (getIndex k) ≠ some t.allocated := fun hEq => hFresh _ (hFront _ hEq) rfl
  have hApart' : t.lasthashelem ≠ some t.allocated := fun hEq => hFresh _ (hLastMem _ hEq) rfl
  let t₁ : RTPKeyHashTable K V := { t with
    heap := Function.update t.heap t.allocated
      (some ⟨getIndex k, k, v, none, t.table (getIndex k), none, none⟩)
    allocated := t.allocated + 1
    table := Function.update t.table (getIndex k) (some t.allocated) }
  have hOld₁ : ∀ b, b ≠ t.allocated → t₁.heap b = t.heap b :=
    fun b hb => Function.update_of_ne hb _ _
  have hNew₁ : t₁.heap t.allocated =
      some ⟨getIndex k, k, v, none, t.table (getIndex k), none, none⟩ := Function.update_self _ _ _
  obtain ⟨t₂, hAssign₂, hHeap₂, hRest₂⟩ := assignIfAny_heap (t := t₁)
    (f := fun e => { e with hashprev := some t.allocated }) (p := t.table (getIndex k)) (by
      intro a ha
      rw [hOld₁ a (hFresh a (hFront a ha))]
      exact (h.hHeap a).mpr (hFront a ha))
  have hFirst₂ : t₂.firsthashelem = t.firsthashelem := by rw [hRest₂]
  have hLast₂ : t₂.lasthashelem = t.lasthashelem := by rw [hRest₂]
  obtain ⟨t₃, hAppend, hHeap₃, hRest₃⟩ := appendToList_heap (t := t₂) (n := t.allocated)
    (by
      rw [hFirst₂, hLast₂, h.hFirst, h.hLast, List.head?_eq_none_iff, List.getLast?_eq_none_iff])
    (by
      intro a ha
      rw [hLast₂] at ha
      have hMem := hLastMem a ha
      refine ⟨hFresh a hMem, ?_⟩
      rw [hHeap₂, Option.isSome_map, hOld₁ a (hFresh a hMem)]
      exact (h.hHeap a).mpr hMem)
    (by
      rw [hHeap₂, hNew₁]
      rfl)
  rw [hFirst₂] at hRest₃
  rw [hLast₂] at hHeap₃
  refine ⟨t₃, ?_, ?_, ?_, ?_, ?_, ?_, ?_, ?_⟩
  · rw [addElement, if_neg (Nat.not_le.mpr hValid), hFind, Option.bind_some]
    change (t₁.assignIfAny _ _).bind _ = _
    rw [hAssign₂, Option.bind_some, hAppend]
    rfl
  · rw [hHeap₃, hHeap₂, hNew₁, Option.map_some, if_neg hApart, Option.map_some, if_neg hApart',
      if_pos rfl, Option.or_none]
  · intro b hb
    rw [hHeap₃, hHeap₂, hOld₁ b hb, Option.map_map]
    congr 1
    funext x
    by_cases hb' : t.table (getIndex k) = some b <;> simp [hb', Ne.symm hb]
  · rw [hRest₃, hRest₂]
  · rw [hRest₃]
  · rw [hRest₃]
  · rw [hRest₃, hRest₂]
  · rw [hRest₃, hRest₂]

namespace Added
variable {t' : RTPKeyHashTable K V} {k : K} {v : V} (hAdded : Added getIndex t t' k v)
include hAdded

theorem entryAt_ne (hb : b ≠ t.allocated) : t'.entryAt b = t.entryAt b := by
  rw [entryAt, entryAt, hAdded.hHeap b hb, Option.map_map]
  rfl

theorem keyAt_ne (hb : b ≠ t.allocated) : t'.keyAt b = t.keyAt b := by
  rw [keyAt, keyAt, hAdded.hHeap b hb, Option.map_map]
  rfl

theorem indexAt_ne (hb : b ≠ t.allocated) : t'.indexAt b = t.indexAt b := by
  rw [indexAt, indexAt, hAdded.hHeap b hb, Option.map_map]
  rfl

theorem entryAt_new : t'.entryAt t.allocated = some (k, v) := by
  rw [entryAt, hAdded.hNew]
  rfl

theorem keyAt_new : t'.keyAt t.allocated = some k := by
  rw [keyAt, hAdded.hNew]
  rfl

theorem indexAt_new : t'.indexAt t.allocated = some (getIndex k) := by
  rw [indexAt, hAdded.hNew]
  rfl

theorem link_same {field : HashElement K V → Option Address}
    (hField : ∀ x p n, field { x with hashprev := p, listnext := n } = field x)
    (hb : b ≠ t.allocated) : t'.link field b = t.link field b := by
  rw [link, link, hAdded.hHeap b hb]
  cases t.heap b with
  | none => rfl
  | some x => exact hField x _ _

theorem link_changed {field : HashElement K V → Option Address} {other : Option Address}
    (hField : ∀ x, field { x with
        hashprev := if t.table (getIndex k) = some b then some t.allocated else x.hashprev
        listnext := if t.lasthashelem = some b then some t.allocated else x.listnext } =
      if other = some b then some t.allocated else field x)
    (hHeap : (t.heap b).isSome) (hb : b ≠ t.allocated) :
    t'.link field b = if other = some b then some t.allocated else t.link field b := by
  rw [link, link, hAdded.hHeap b hb]
  obtain ⟨x, hx⟩ := Option.isSome_iff_exists.mp hHeap
  rw [hx]
  exact hField x

end Added

theorem Linked.added {t' : RTPKeyHashTable K V} {k : K} {v : V}
    (h : Linked getIndex hashsize t addrs) (hValid : getIndex k < hashsize)
    (hKey : ∀ a ∈ addrs, t.keyAt a ≠ some k) (hAdded : Added getIndex t t' k v) :
    Linked getIndex hashsize t' (addrs ++ [t.allocated]) := by
  have hFresh : ∀ a ∈ addrs, a ≠ t.allocated := fun a ha => Nat.ne_of_lt (h.hBound a ha)
  have hNotMem : t.allocated ∉ addrs := fun hMem => hFresh _ hMem rfl
  have hIn : ∀ a ∈ addrs, (t.heap a).isSome := fun a ha => (h.hHeap a).mpr ha
  have hBucket : ∀ i, t'.bucket (addrs ++ [t.allocated]) i =
      if getIndex k = i then t.allocated :: t.bucket addrs i else t.bucket addrs i := by
    intro i
    rw [bucket_append, bucket_congr fun a ha => hAdded.indexAt_ne (hFresh a ha), bucket_cons,
      hAdded.indexAt_new]
    by_cases hi : getIndex k = i
    · rw [if_pos (congrArg some hi), if_pos hi]
      rfl
    · rw [if_neg fun hEq => hi (Option.some.inj hEq), if_neg hi]
      rfl
  have hMem : ∀ {i : Nat}, ∀ a ∈ t.bucket addrs i, a ∈ addrs := fun a ha => (mem_bucket.mp ha).1
  have hHashNext : ∀ a ∈ addrs, t'.link HashElement.hashnext a = t.link HashElement.hashnext a :=
    fun a ha => hAdded.link_same (fun _ _ _ => rfl) (hFresh a ha)
  have hHashPrev : ∀ a ∈ addrs, t'.link HashElement.hashprev a =
      if t.table (getIndex k) = some a then some t.allocated
      else t.link HashElement.hashprev a :=
    fun a ha => hAdded.link_changed (fun _ => rfl) (hIn a ha) (hFresh a ha)
  have hListPrev : ∀ a ∈ addrs, t'.link HashElement.listprev a = t.link HashElement.listprev a :=
    fun a ha => hAdded.link_same (fun _ _ _ => rfl) (hFresh a ha)
  have hListNext : ∀ a ∈ addrs, t'.link HashElement.listnext a =
      if t.lasthashelem = some a then some t.allocated else t.link HashElement.listnext a :=
    fun a ha => hAdded.link_changed (fun _ => rfl) (hIn a ha) (hFresh a ha)
  refine ⟨?_, ?_, ?_, ?_, ?_, ?_, ?_, ?_, ?_, ?_⟩
  · rw [List.nodup_append]
    refine ⟨h.hNodup, List.nodup_singleton _, fun a ha b hb => ?_⟩
    rw [List.mem_singleton.mp hb]
    exact hFresh a ha
  · intro a ha
    rw [hAdded.hAllocated]
    rcases List.mem_append.mp ha with ha | ha
    · exact Nat.lt_succ_of_lt (h.hBound a ha)
    · rw [List.mem_singleton.mp ha]
      exact Nat.lt_succ_self _
  · intro a
    rw [List.mem_append, List.mem_singleton]
    by_cases ha : a = t.allocated
    · rw [ha, hAdded.hNew]
      exact ⟨fun _ => Or.inr rfl, fun _ => rfl⟩
    · rw [hAdded.hHeap a ha, Option.isSome_map, h.hHeap]
      exact (or_iff_left ha).symm
  · rw [List.map_append, List.map_congr_left fun a ha => hAdded.keyAt_ne (hFresh a ha),
      List.nodup_append]
    refine ⟨h.hKeys, List.nodup_singleton _, ?_⟩
    intro x hx y hy
    obtain ⟨a, ha, rfl⟩ := List.mem_map.mp hx
    rw [List.mem_singleton.mp hy, hAdded.keyAt_new]
    exact hKey a ha
  · intro a e ha
    by_cases hNew : a = t.allocated
    · rw [hNew, hAdded.hNew] at ha
      cases ha
      exact ⟨rfl, hValid⟩
    · rw [hAdded.hHeap a hNew] at ha
      obtain ⟨x, hx, rfl⟩ := Option.map_eq_some_iff.mp ha
      exact h.hIndex a x hx
  · refine h.hList.pushBack h.hNodup ⟨?_, ?_⟩ hListPrev ?_
    · rw [link, hAdded.hNew]
      rfl
    · rw [link, hAdded.hNew, ← h.hLast]
      rfl
    · rw [← h.hLast]
      exact hListNext
  · rw [hAdded.hFirst, h.hFirst, List.head?_append]
    rfl
  · rw [hAdded.hLast, List.getLast?_concat]
  · intro i
    rw [hBucket]
    split
    · rename_i hi
      refine (h.hBucket i).pushFront (nodup_bucket h.hNodup i) ⟨?_, ?_⟩
        (fun a ha => hHashNext a (hMem a ha)) ?_
      · rw [link, hAdded.hNew, ← h.hTable i (hi ▸ hValid), hi]
        rfl
      · rw [link, hAdded.hNew]
        rfl
      · intro a ha
        rw [← h.hTable i (hi ▸ hValid), ← hi]
        exact hHashPrev a (hMem a ha)
    · rename_i hi
      refine (h.hBucket i).congr (fun a ha => hHashNext a (hMem a ha)) fun a ha => ?_
      rw [hHashPrev a (hMem a ha), if_neg]
      intro hEq
      rw [h.hTable _ hValid] at hEq
      have hHere := (mem_bucket.mp (List.mem_of_mem_head? hEq)).2
      have hThere := (mem_bucket.mp ha).2
      exact hi (Option.some.inj (hHere.symm.trans hThere))
  · intro i hi
    rw [hAdded.hTable, hBucket]
    by_cases hIndex : getIndex k = i
    · rw [if_pos hIndex, hIndex, Function.update_self]
      rfl
    · rw [if_neg hIndex, Function.update_of_ne (Ne.symm hIndex)]
      exact h.hTable i hi

/-! ## Clearing the table -/

theorem freeList_spec {before : Option Address} (l : List Address)
    (hChain : Chain (t.link HashElement.listnext) (t.link HashElement.listprev) before l none)
    (hNodup : l.Nodup) (hHeap : ∀ a ∈ l, (t.heap a).isSome) {fuel : Nat}
    (hFuel : l.length ≤ fuel) :
    ∃ t', freeList fuel l.head? t = some t' ∧
      (∀ b, t'.heap b = if b ∈ l then none else t.heap b) ∧ t' = { t with heap := t'.heap } := by
  induction l generalizing t before fuel with
  | nil => exact ⟨t, by cases fuel <;> rfl, fun b => (if_neg List.not_mem_nil).symm, rfl⟩
  | cons a l ih =>
    cases fuel with
    | zero => exact absurd hFuel (Nat.not_succ_le_zero _)
    | succ fuel =>
      obtain ⟨hFresh, hNodup⟩ := List.nodup_cons.mp hNodup
      obtain ⟨-, hForth, hRest⟩ := hChain
      obtain ⟨e, he⟩ := Option.isSome_iff_exists.mp (hHeap a List.mem_cons_self)
      have hNext : e.listnext = l.head? := by
        have hLink : t.link HashElement.listnext a = e.listnext := link_of_heap he
        rw [← hLink, hForth, Option.or_none]
      let t₁ : RTPKeyHashTable K V := { t with heap := Function.update t.heap a none }
      have hSame : ∀ b ∈ l, t₁.heap b = t.heap b := by
        intro b hb
        apply Function.update_of_ne
        rintro rfl
        exact hFresh hb
      have hLinks : ∀ field, ∀ b ∈ l, t₁.link field b = t.link field b := fun field b hb => by
        rw [link, link, hSame b hb]
      obtain ⟨t', hFree, hHeap', hTable⟩ := ih (t := t₁)
        (hRest.congr (hLinks _) (hLinks _)) hNodup
        (fun b hb => hSame b hb ▸ hHeap b (List.mem_cons_of_mem a hb))
        (Nat.le_of_succ_le_succ hFuel)
      refine ⟨t', ?_, fun b => ?_, hTable⟩
      · rw [List.head?_cons, freeList, he, Option.bind_some, hNext]
        exact hFree
      · rw [hHeap']
        by_cases hb : b = a
        · subst hb
          rw [if_neg hFresh, if_pos List.mem_cons_self]
          exact Function.update_self _ _ _
        · have hHere : t₁.heap b = t.heap b := Function.update_of_ne hb _ _
          rw [hHere]
          by_cases hMem : b ∈ l
          · rw [if_pos hMem, if_pos (List.mem_cons_of_mem a hMem)]
          · rw [if_neg hMem, if_neg (List.not_mem_cons_of_ne_of_not_mem hb hMem)]

theorem Linked.clear (h : Linked getIndex hashsize t addrs) :
    ∃ t', t.clear hashsize = some t' ∧ Linked getIndex hashsize t' [] ∧ (∀ a, t'.heap a = none) ∧
      t'.curhashelem = t.curhashelem ∧ t'.allocated = t.allocated := by
  let t₁ : RTPKeyHashTable K V :=
    { t with table := fun i => if i < hashsize then none else t.table i }
  obtain ⟨t₂, hFree, hHeap, hRest⟩ := freeList_spec (t := t₁) addrs h.hList h.hNodup
    (fun a ha => (h.hHeap a).mpr ha) h.length_le
  have hNone : ∀ a, t₂.heap a = none := by
    intro a
    rw [hHeap]
    by_cases ha : a ∈ addrs
    · exact if_pos ha
    · rw [if_neg ha]
      exact Option.not_isSome_iff_eq_none.mp (mt (h.hHeap a).mp ha)
  refine ⟨{ t₂ with firsthashelem := none, lasthashelem := none }, ?_, ?_, hNone, ?_, ?_⟩
  · rw [← h.hFirst] at hFree
    rw [RTPKeyHashTable.clear]
    change (freeList t.allocated t.firsthashelem t₁).map _ = _
    rw [hFree]
    rfl
  · refine ⟨List.nodup_nil, fun a ha => absurd ha List.not_mem_nil, fun a => ?_, List.nodup_nil,
      fun a e ha => ?_, trivial, rfl, rfl, fun _ => trivial, fun i hi => ?_⟩
    · change (t₂.heap a).isSome ↔ _
      rw [hNone]
      exact ⟨fun hSome => absurd hSome Bool.false_ne_true, fun hMem => absurd hMem List.not_mem_nil⟩
    · change t₂.heap a = some e at ha
      rw [hNone] at ha
      cases ha
    · change t₂.table i = none
      rw [hRest]
      exact if_pos hi
  · change t₂.curhashelem = _
    rw [hRest]
  · change t₂.allocated = _
    rw [hRest]

end
end RTPKeyHashTable
end LocalCall.Jrtp
