import LocalCall.Library.Transition
import LocalCall.Jrtp.TableLinks

/-! # The table as an ordered dictionary

Whatever is called on a new table, the pointers give the answers of `CursorTable`, and the calls
that go through a pointer without a value or to a freed element are those it refuses.
-/
namespace LocalCall.Jrtp
set_option autoImplicit false

open Transition

namespace CursorTable

variable {K V : Type} [DecidableEq K] {s : CursorTable K V} {k : K}

/-- The entries around a key, and its value. -/
theorem around {v : V} {e₁ e₂ : List (K × V)}
    (hEntries : s.entries = e₁ ++ (k, v) :: e₂) (hNodup : s.keys.Nodup) :
    s.entriesBefore k = e₁ ∧ s.entriesAfter k = e₂ ∧ s.valueOf k = some v := by
  have hBefore : ∀ y ∈ e₁, y.1 ≠ k := by
    intro y hy hEq
    rw [keys, hEntries, List.map_append, List.map_cons, List.nodup_append] at hNodup
    exact hNodup.2.2 y.1 (List.mem_map_of_mem hy) k List.mem_cons_self hEq
  have hSkip : ∀ y ∈ e₁, decide (y.1 ≠ k) = true := fun y hy => decide_eq_true (hBefore y hy)
  have hMiss : e₁.find? (fun x => x.1 = k) = none := by
    rw [List.find?_eq_none]
    exact fun y hy hEq => hBefore y hy (of_decide_eq_true hEq)
  refine ⟨?_, ?_, ?_⟩
  · rw [entriesBefore, hEntries, List.takeWhile_append_of_pos hSkip,
      List.takeWhile_cons_of_neg (by simp), List.append_nil]
  · rw [entriesAfter, hEntries, List.dropWhile_append_of_pos hSkip,
      List.dropWhile_cons_of_neg (by simp)]
    rfl
  · rw [valueOf, hEntries, List.find?_append, hMiss, Option.none_or,
      List.find?_cons_of_pos (by simp)]
    rfl

/-- `while (HasCurrentElement())`: the elements that are to go are deleted, the cursor steps over
the others. At most `fuel` tests; the elements it came by. -/
def sweep {σ : Type} (perform : σ → TableCall K V → Option (σ × Answer K V)) (dead : V → Bool) :
    Nat → σ → Option (σ × List V)
  | 0, _ => none
  | fuel + 1, t =>
    (perform t .hasCurrentElement).bind fun x =>
      match x.2 with
      | .truth true =>
        (perform x.1 .getCurrentElement).bind fun x =>
          match x.2 with
          | .element v =>
            (perform x.1 (if dead v then .deleteCurrentElement else .gotoNextElement)).bind
              fun x => (sweep perform dead fuel x.1).map fun y => (y.1, v :: y.2)
          | _ => none
      | _ => some (x.1, [])

/-- A walk with the elements of `rest` still before it. -/
theorem sweep_eq (valid : K → Bool) (dead : V → Bool) (kept rest : List (K × V))
    (hNodup : ((kept ++ rest).map Prod.fst).Nodup) {fuel : Nat} (hFuel : rest.length < fuel) :
    sweep (perform valid) dead fuel
        ⟨kept ++ rest, cursorOf (rest.head?.map Prod.fst)⟩ =
      some (⟨kept ++ rest.filter fun x => !dead x.2, .nowhere⟩, rest.map Prod.snd) := by
  induction rest generalizing kept fuel with
  | nil =>
    cases fuel with
    | zero => exact absurd hFuel (Nat.not_lt_zero _)
    | succ fuel => rfl
  | cons x rest ih =>
    cases fuel with
    | zero => exact absurd hFuel (Nat.not_lt_zero _)
    | succ fuel =>
      obtain ⟨k, v⟩ := x
      have hFuel : rest.length < fuel := Nat.lt_of_succ_lt_succ hFuel
      obtain ⟨hBefore, hAfter, hValue⟩ := around
        (s := ⟨kept ++ (k, v) :: rest, .onKey k⟩) rfl hNodup
      have hGet : perform valid ⟨kept ++ (k, v) :: rest, .onKey k⟩ .getCurrentElement =
          some (⟨kept ++ (k, v) :: rest, .onKey k⟩, .element v) := by
        change (valueOf _ k).map _ = _
        rw [hValue]
        rfl
      change ((perform valid ⟨kept ++ (k, v) :: rest, .onKey k⟩
        .getCurrentElement).bind _) = _
      rw [hGet, Option.bind_some]
      dsimp only
      cases hDead : dead v with
      | true =>
        have hRest := ih kept (by
          rw [List.map_append, List.map_cons, List.nodup_middle] at hNodup
          rw [List.map_append]
          exact (List.nodup_cons.mp hNodup).2) hFuel
        rw [if_pos rfl]
        change Option.map _ (sweep _ dead fuel (CursorTable.mk (entriesBefore _ k ++
          entriesAfter _ k) (cursorOf ((entriesAfter _ k).head?.map _)))) = _
        rw [hBefore, hAfter, hRest, List.filter_cons_of_neg (by simp [hDead])]
        rfl
      | false =>
        have hRest := ih (kept ++ [(k, v)]) (by
          rw [List.append_assoc]
          exact hNodup) hFuel
        rw [List.append_assoc, List.singleton_append, List.append_assoc,
          List.singleton_append] at hRest
        rw [if_neg (by decide)]
        change Option.map _ (sweep _ dead fuel (CursorTable.mk (kept ++ (k, v) :: rest)
          (cursorOf ((entriesAfter _ k).head?.map _)))) = _
        rw [hAfter, hRest, List.filter_cons_of_pos (by simp [hDead])]
        rfl

end CursorTable

namespace RTPKeyHashTable

variable {K V : Type}

/-- Where the cursor stands, as the dictionary sees it. -/
def Points (t : RTPKeyHashTable K V) : Cursor K → Option (Option Address) → Prop
  | .indeterminate, none => True
  | .nowhere, some none => True
  | .dangling, some (some a) => t.heap a = none ∧ a < t.allocated
  | .onKey k, some (some a) => t.keyAt a = some k
  | _, _ => False

/-- The elements at `addrs` are the entries of the dictionary, in its order. -/
structure Holds (getIndex : K → Nat) (hashsize : Nat) (t : RTPKeyHashTable K V)
    (s : CursorTable K V) (addrs : List Address) : Prop where
  hLinked : Linked getIndex hashsize t addrs
  hEntries : addrs.map t.entryAt = s.entries.map some
  hCursor : t.Points s.cursor t.curhashelem

def Refines (getIndex : K → Nat) (hashsize : Nat) (t : RTPKeyHashTable K V)
    (s : CursorTable K V) : Prop :=
  ∃ addrs, Holds getIndex hashsize t s addrs

section
variable {getIndex : K → Nat} {hashsize : Nat} {t t' : RTPKeyHashTable K V}
  {s : CursorTable K V} {addrs : List Address} {a : Address} {k : K}

theorem keyAt_eq : t.keyAt a = (t.entryAt a).map Prod.fst := by
  rw [keyAt, entryAt, Option.map_map]
  rfl

theorem map_keyAt {l : List Address} {entries : List (K × V)}
    (h : l.map t.entryAt = entries.map some) :
    l.map t.keyAt = (entries.map Prod.fst).map some := by
  have hMap := congrArg (List.map (Option.map Prod.fst)) h
  rw [List.map_map, List.map_map] at hMap
  rw [List.map_map]
  calc
    l.map t.keyAt = l.map (Option.map Prod.fst ∘ t.entryAt) :=
      List.map_congr_left fun a _ => keyAt_eq
    _ = entries.map (Option.map Prod.fst ∘ some) := hMap
    _ = entries.map (some ∘ Prod.fst) := rfl

theorem points_cursorOf {o : Option Address} {x : Option K} (h : o.map t.keyAt = x.map some) :
    t.Points (CursorTable.cursorOf x) (some o) := by
  cases x with
  | none =>
    rw [Option.map_none, Option.map_eq_none_iff] at h
    rw [h]
    trivial
  | some k =>
    obtain ⟨a, rfl, hKey⟩ := Option.map_eq_some_iff.mp h
    exact hKey

theorem Points.congr {c : Cursor K} {o : Option (Option Address)} (h : t.Points c o)
    (hKey : ∀ a k, t.keyAt a = some k → t'.keyAt a = some k)
    (hFree : ∀ a, a < t.allocated → t.heap a = none → t'.heap a = none)
    (hAllocated : t.allocated ≤ t'.allocated) : t'.Points c o := by
  match c, o, h with
  | .indeterminate, none, _ => trivial
  | .nowhere, some none, _ => trivial
  | .dangling, some (some a), ⟨hNone, hBound⟩ =>
    exact ⟨hFree a hBound hNone, Nat.lt_of_lt_of_le hBound hAllocated⟩
  | .onKey k, some (some a), h => exact hKey a k h

namespace Holds
variable (h : Holds getIndex hashsize t s addrs)
include h

theorem keys_eq : addrs.map t.keyAt = s.keys.map some := map_keyAt h.hEntries

theorem mem_keys : k ∈ s.keys ↔ ∃ a ∈ addrs, t.keyAt a = some k := by
  rw [← List.mem_map, h.keys_eq, List.mem_map]
  constructor
  · intro hMem
    exact ⟨k, hMem, rfl⟩
  · rintro ⟨x, hMem, hx⟩
    exact Option.some.inj hx ▸ hMem

theorem nodup_keys : s.keys.Nodup := by
  have hKeys := h.hLinked.hKeys
  rw [h.keys_eq] at hKeys
  exact hKeys.of_map some

theorem split [DecidableEq K] {l₁ l₂ : List Address} (hSplit : addrs = l₁ ++ a :: l₂)
    (hKey : t.keyAt a = some k) :
    l₁.map t.entryAt = (s.entriesBefore k).map some ∧
      l₂.map t.entryAt = (s.entriesAfter k).map some ∧
      ∃ v, t.entryAt a = some (k, v) ∧ s.valueOf k = some v := by
  have hEntries := h.hEntries
  rw [hSplit, List.map_append, List.map_cons] at hEntries
  obtain ⟨e₁, rest, hSplit', h₁, hRest⟩ := List.map_eq_append_iff.mp hEntries.symm
  obtain ⟨⟨k', v⟩, e₂, rfl, hHere, h₂⟩ := List.map_eq_cons_iff.mp hRest
  have hk : k' = k := by
    rw [keyAt_eq, ← hHere] at hKey
    exact Option.some.inj hKey
  subst hk
  obtain ⟨hBefore, hAfter, hValue⟩ := CursorTable.around hSplit' h.nodup_keys
  rw [hBefore, hAfter]
  exact ⟨h₁.symm, h₂.symm, v, hHere.symm, hValue⟩

end Holds

theorem refines_new (hashsize : Nat) :
    Refines getIndex hashsize (new : RTPKeyHashTable K V) CursorTable.new := by
  refine ⟨[], ⟨⟨List.nodup_nil, fun a ha => absurd ha List.not_mem_nil, fun a => ?_,
    List.nodup_nil, fun a e ha => ?_, trivial, rfl, rfl, fun _ => trivial, fun _ _ => rfl⟩,
    rfl, trivial⟩⟩
  · exact ⟨fun hSome => absurd hSome Bool.false_ne_true, fun hMem => absurd hMem List.not_mem_nil⟩
  · cases ha

theorem Linked.withCursor (h : Linked getIndex hashsize t addrs) (c : Option (Option Address)) :
    Linked getIndex hashsize { t with curhashelem := c } addrs :=
  ⟨h.hNodup, h.hBound, h.hHeap, h.hKeys, h.hIndex, h.hList, h.hFirst, h.hLast, h.hBucket,
    h.hTable⟩

theorem Holds.withCursor (h : Holds getIndex hashsize t s addrs) {c : Option (Option Address)}
    {c' : Cursor K} (hPoints : t.Points c' c) :
    Refines getIndex hashsize { t with curhashelem := c } { s with cursor := c' } :=
  ⟨addrs, h.hLinked.withCursor c, h.hEntries, by
    match c', c, hPoints with
    | .indeterminate, none, _ => trivial
    | .nowhere, some none, _ => trivial
    | .dangling, some (some a), hPoints => exact hPoints
    | .onKey k, some (some a), hPoints => exact hPoints⟩

def Same (getIndex : K → Nat) (hashsize : Nat) (x : RTPKeyHashTable K V × Answer K V)
    (y : CursorTable K V × Answer K V) : Prop :=
  Refines getIndex hashsize x.1 y.1 ∧ x.2 = y.2

/-! ## One lemma for each member function -/

theorem Refines.gotoFirstElement (h : Refines getIndex hashsize t s) :
    Refines getIndex hashsize t.gotoFirstElement s.gotoFirstElement := by
  obtain ⟨addrs, h⟩ := h
  apply h.withCursor
  apply points_cursorOf
  rw [h.hLinked.hFirst, ← List.head?_map, ← List.head?_map, h.keys_eq]

theorem Refines.gotoLastElement (h : Refines getIndex hashsize t s) :
    Refines getIndex hashsize t.gotoLastElement s.gotoLastElement := by
  obtain ⟨addrs, h⟩ := h
  apply h.withCursor
  apply points_cursorOf
  rw [h.hLinked.hLast, ← List.getLast?_map, ← List.getLast?_map, h.keys_eq]

theorem Refines.hasCurrentElement (h : Refines getIndex hashsize t s) :
    t.hasCurrentElement = s.hasCurrentElement := by
  obtain ⟨addrs, h⟩ := h
  have hCursor := h.hCursor
  rw [RTPKeyHashTable.hasCurrentElement, CursorTable.hasCurrentElement]
  match hc : s.cursor, ho : t.curhashelem, hCursor with
  | .indeterminate, none, _ => rfl
  | .nowhere, some none, _ => rfl
  | .dangling, some (some a), _ => rfl
  | .onKey k, some (some a), _ => rfl

theorem Holds.onKey (h : Holds getIndex hashsize t s addrs) (hCursor : s.cursor = .onKey k) :
    ∃ a e l₁ l₂, t.curhashelem = some (some a) ∧ t.heap a = some e ∧ t.keyAt a = some k ∧
      addrs = l₁ ++ a :: l₂ ∧ e.listprev = l₁.getLast? ∧ e.listnext = l₂.head? := by
  have hPoints := h.hCursor
  rw [hCursor] at hPoints
  match hCur : t.curhashelem, hPoints with
  | some (some a), hKey =>
    obtain ⟨e, he, -⟩ := Option.map_eq_some_iff.mp hKey
    obtain ⟨l₁, l₂, hSplit, hPrev, hNext⟩ := h.hLinked.list_neighbours he
    exact ⟨a, e, l₁, l₂, rfl, he, hKey, hSplit, hPrev, hNext⟩

theorem Holds.dangling (h : Holds getIndex hashsize t s addrs) (hCursor : s.cursor = .dangling) :
    ∃ a, t.curhashelem = some (some a) ∧ t.heap a = none := by
  have hPoints := h.hCursor
  rw [hCursor] at hPoints
  match hCur : t.curhashelem, hPoints with
  | some (some a), hFree => exact ⟨a, rfl, hFree.1⟩

theorem Holds.nowhere_iff (h : Holds getIndex hashsize t s addrs) :
    s.cursor = .nowhere ↔ t.curhashelem = some none := by
  have hPoints := h.hCursor
  match hc : s.cursor, ho : t.curhashelem, hPoints with
  | .indeterminate, none, _ => simp
  | .nowhere, some none, _ => simp
  | .dangling, some (some a), _ => simp
  | .onKey k, some (some a), _ => simp

theorem Holds.indeterminate_iff (h : Holds getIndex hashsize t s addrs) :
    s.cursor = .indeterminate ↔ t.curhashelem = none := by
  have hPoints := h.hCursor
  match hc : s.cursor, ho : t.curhashelem, hPoints with
  | .indeterminate, none, _ => simp
  | .nowhere, some none, _ => simp
  | .dangling, some (some a), _ => simp
  | .onKey k, some (some a), _ => simp

/-- A step of the cursor, along a link that leads where `target` says. -/
theorem Refines.moveCursor {field : HashElement K V → Option Address} {target : K → Option K}
    (h : Refines getIndex hashsize t s)
    (hTarget : ∀ addrs a e l₁ l₂ k, Holds getIndex hashsize t s addrs → t.heap a = some e →
      t.keyAt a = some k → addrs = l₁ ++ a :: l₂ → e.listprev = l₁.getLast? →
      e.listnext = l₂.head? → (field e).map t.keyAt = (target k).map some) :
    Option.Rel (Refines getIndex hashsize) (t.moveCursor field) (s.moveCursor target) := by
  obtain ⟨addrs, h⟩ := h
  rw [RTPKeyHashTable.moveCursor, CursorTable.moveCursor]
  cases hc : s.cursor with
  | indeterminate =>
    rw [h.indeterminate_iff.mp hc]
    exact Option.Rel.none
  | dangling =>
    obtain ⟨a, hCur, hFree⟩ := h.dangling hc
    simp only [hCur, hFree]
    exact Option.Rel.none
  | nowhere =>
    rw [h.nowhere_iff.mp hc]
    exact Option.Rel.some ⟨addrs, h⟩
  | onKey k =>
    obtain ⟨a, e, l₁, l₂, hCur, he, hKey, hSplit, hPrev, hNext⟩ := h.onKey hc
    simp only [hCur, he]
    apply Option.Rel.some
    apply h.withCursor
    exact points_cursorOf (hTarget addrs a e l₁ l₂ k h he hKey hSplit hPrev hNext)

theorem Refines.clear (h : Refines getIndex hashsize t s) :
    ∃ t', t.clear hashsize = some t' ∧ Refines getIndex hashsize t' s.clear := by
  obtain ⟨addrs, h⟩ := h
  obtain ⟨t', hClear, hLinked, hHeap, hCursor, hAllocated⟩ := h.hLinked.clear
  refine ⟨t', hClear, [], hLinked, rfl, ?_⟩
  have hPoints := h.hCursor
  rw [CursorTable.clear, hCursor]
  match hc : s.cursor, ho : t.curhashelem, hPoints with
  | .indeterminate, none, _ => trivial
  | .nowhere, some none, _ => trivial
  | .dangling, some (some a), hFree => exact ⟨hHeap a, hAllocated ▸ hFree.2⟩
  | .onKey k, some (some a), hKey =>
    obtain ⟨e, he, -⟩ := Option.map_eq_some_iff.mp hKey
    refine ⟨hHeap a, ?_⟩
    rw [hAllocated]
    exact h.hLinked.hBound a (h.hLinked.mem_of_heap he)

variable [DecidableEq K]

theorem Refines.gotoNextElement (h : Refines getIndex hashsize t s) :
    Option.Rel (Refines getIndex hashsize) t.gotoNextElement s.gotoNextElement := by
  apply h.moveCursor
  intro addrs a e l₁ l₂ k h he hKey hSplit hPrev hNext
  rw [hNext, ← List.head?_map, ← List.head?_map, map_keyAt (h.split hSplit hKey).2.1,
    List.head?_map, List.head?_map]

theorem Refines.gotoPreviousElement (h : Refines getIndex hashsize t s) :
    Option.Rel (Refines getIndex hashsize) t.gotoPreviousElement s.gotoPreviousElement := by
  apply h.moveCursor
  intro addrs a e l₁ l₂ k h he hKey hSplit hPrev hNext
  rw [hPrev, ← List.getLast?_map, map_keyAt (h.split hSplit hKey).1, List.getLast?_map,
    List.getLast?_map]

theorem Refines.currentKey (h : Refines getIndex hashsize t s) :
    t.current.map HashElement.key = s.currentKey ∧
      t.current.map HashElement.element = s.currentKey.bind s.valueOf := by
  obtain ⟨addrs, h⟩ := h
  rw [current, CursorTable.currentKey]
  cases hc : s.cursor with
  | indeterminate =>
    rw [h.indeterminate_iff.mp hc]
    exact ⟨rfl, rfl⟩
  | dangling =>
    obtain ⟨a, hCur, hFree⟩ := h.dangling hc
    rw [hCur]
    change (t.heap a).map _ = none ∧ (t.heap a).map _ = none
    rw [hFree]
    exact ⟨rfl, rfl⟩
  | nowhere =>
    rw [h.nowhere_iff.mp hc]
    exact ⟨rfl, rfl⟩
  | onKey k =>
    obtain ⟨a, e, l₁, l₂, hCur, he, hKey, hSplit, -⟩ := h.onKey hc
    obtain ⟨-, -, v, hEntry, hValue⟩ := h.split hSplit hKey
    rw [hCur]
    change (t.heap a).map _ = some k ∧ (t.heap a).map _ = s.valueOf k
    rw [hValue]
    rw [entryAt, he] at hEntry
    rw [he]
    obtain ⟨hk, hv⟩ := Prod.mk.inj (Option.some.inj hEntry)
    exact ⟨congrArg some hk, congrArg some hv⟩

theorem Holds.find (h : Holds getIndex hashsize t s addrs) (hValid : getIndex k < hashsize) :
    ∃ found, t.find k t.allocated (t.table (getIndex k)) = some found ∧
      t.Points (if k ∈ s.keys then .onKey k else .nowhere) (some found) ∧
      found.isSome = decide (k ∈ s.keys) := by
  obtain ⟨found, hFind, hFound, hMissing⟩ := h.hLinked.find_spec hValid
  refine ⟨found, hFind, ?_⟩
  cases found with
  | none =>
    have hNot : k ∉ s.keys := by
      rw [h.mem_keys]
      rintro ⟨a, ha, hKey⟩
      exact hMissing rfl a ha hKey
    rw [if_neg hNot]
    exact ⟨trivial, (decide_eq_false hNot).symm⟩
  | some a =>
    have hMem : k ∈ s.keys := h.mem_keys.mpr ⟨a, hFound a rfl⟩
    rw [if_pos hMem]
    exact ⟨(hFound a rfl).2, (decide_eq_true hMem).symm⟩

theorem Refines.gotoElement (h : Refines getIndex hashsize t s) (k : K) :
    ∃ x, t.gotoElement getIndex hashsize k = some x ∧
      Same getIndex hashsize x (s.gotoElement (fun k => getIndex k < hashsize) k) := by
  rw [RTPKeyHashTable.gotoElement, CursorTable.gotoElement]
  by_cases hValid : getIndex k < hashsize
  · obtain ⟨addrs, h⟩ := h
    obtain ⟨found, hFind, hPoints, hSome⟩ := h.find hValid
    rw [if_neg (Nat.not_le.mpr hValid), hFind, if_pos (decide_eq_true hValid)]
    refine ⟨({ t with curhashelem := some found },
      if found.isSome then .done else .failed .keyNotFound), rfl, ?_⟩
    rw [hSome]
    by_cases hMem : k ∈ s.keys
    · rw [if_pos hMem] at hPoints
      rw [if_pos hMem, if_pos (decide_eq_true hMem)]
      exact ⟨h.withCursor hPoints, rfl⟩
    · rw [if_neg hMem] at hPoints
      rw [if_neg hMem, if_neg (by simp [hMem])]
      exact ⟨h.withCursor hPoints, rfl⟩
  · rw [if_pos (Nat.not_lt.mp hValid), if_neg (by simp [hValid])]
    exact ⟨_, rfl, h, rfl⟩

theorem Refines.hasElement (h : Refines getIndex hashsize t s) (k : K) :
    t.hasElement getIndex hashsize k =
      some (decide (getIndex k < hashsize) && decide (k ∈ s.keys)) := by
  rw [RTPKeyHashTable.hasElement]
  by_cases hValid : getIndex k < hashsize
  · obtain ⟨addrs, h⟩ := h
    obtain ⟨found, hFind, -, hSome⟩ := h.find hValid
    rw [if_neg (Nat.not_le.mpr hValid), hFind, Option.map_some, hSome, decide_eq_true hValid,
      Bool.true_and]
  · rw [if_pos (Nat.not_lt.mp hValid), decide_eq_false hValid, Bool.false_and]

theorem Refines.deleteCurrentElement (h : Refines getIndex hashsize t s) :
    Option.Rel (Same getIndex hashsize) t.deleteCurrentElement s.deleteCurrentElement := by
  obtain ⟨addrs, h⟩ := h
  rw [CursorTable.deleteCurrentElement]
  cases hc : s.cursor with
  | indeterminate =>
    rw [RTPKeyHashTable.deleteCurrentElement, h.indeterminate_iff.mp hc]
    exact Option.Rel.none
  | dangling =>
    obtain ⟨a, hCur, hFree⟩ := h.dangling hc
    rw [RTPKeyHashTable.deleteCurrentElement]
    simp only [hCur, hFree]
    exact Option.Rel.none
  | nowhere =>
    rw [RTPKeyHashTable.deleteCurrentElement, h.nowhere_iff.mp hc]
    exact Option.Rel.some ⟨⟨addrs, h⟩, rfl⟩
  | onKey k =>
    obtain ⟨a, e, l₁, l₂, hCur, he, hKey, hSplit, -, hNext⟩ := h.onKey hc
    obtain ⟨hBefore, hAfter, -⟩ := h.split hSplit hKey
    obtain ⟨t', hDelete, hOut⟩ := h.hLinked.takeOut he hCur
    have hLinked := h.hLinked
    rw [hSplit] at hLinked
    have hNe : ∀ b ∈ l₁ ++ l₂, b ≠ a := by
      intro b hb hEq
      have hNodup := hLinked.hNodup
      rw [List.nodup_middle] at hNodup
      exact (List.nodup_cons.mp hNodup).1 (hEq ▸ hb)
    rw [hDelete]
    refine Option.Rel.some ⟨⟨l₁ ++ l₂, hLinked.takenOut he hOut, ?_, ?_⟩, rfl⟩
    · rw [List.map_congr_left fun b hb => hOut.entryAt_ne (hNe b hb), List.map_append, hBefore,
        hAfter, ← List.map_append]
    · rw [hOut.hCursor, hNext]
      apply points_cursorOf
      rw [← List.head?_map,
        List.map_congr_left fun b hb => hOut.keyAt_ne (hNe b (List.mem_append_right l₁ hb)),
        map_keyAt hAfter, List.head?_map, List.head?_map]

theorem Refines.deleteElement (h : Refines getIndex hashsize t s) (k : K) :
    Option.Rel (Same getIndex hashsize) (t.deleteElement getIndex hashsize k)
      (s.deleteElement (fun k => getIndex k < hashsize) k) := by
  obtain ⟨⟨t₁, ans⟩, hGoto, hSame⟩ := h.gotoElement k
  rw [RTPKeyHashTable.deleteElement, CursorTable.deleteElement, hGoto, Option.bind_some]
  cases hGoto' : s.gotoElement (fun k => getIndex k < hashsize) k with
  | mk s₁ ans' =>
    rw [hGoto'] at hSame
    obtain ⟨hRefines, rfl⟩ := hSame
    cases ans with
    | failed e => exact Option.Rel.some ⟨hRefines, rfl⟩
    | done => exact hRefines.deleteCurrentElement
    | truth b => exact hRefines.deleteCurrentElement
    | key k => exact hRefines.deleteCurrentElement
    | element v => exact hRefines.deleteCurrentElement

theorem Refines.addElement (h : Refines getIndex hashsize t s) (k : K) (v : V) :
    ∃ x, t.addElement getIndex hashsize k v = some x ∧
      Same getIndex hashsize x (s.addElement (fun k => getIndex k < hashsize) k v) := by
  rw [CursorTable.addElement]
  by_cases hValid : getIndex k < hashsize
  · obtain ⟨addrs, h⟩ := h
    rw [if_pos (decide_eq_true hValid)]
    by_cases hMem : k ∈ s.keys
    · obtain ⟨found, hFind, -, hSome⟩ := h.find hValid
      rw [decide_eq_true hMem] at hSome
      rw [if_pos hMem, RTPKeyHashTable.addElement, if_neg (Nat.not_le.mpr hValid), hFind,
        Option.bind_some, if_pos hSome]
      exact ⟨_, rfl, ⟨addrs, h⟩, rfl⟩
    · have hKey : ∀ a ∈ addrs, t.keyAt a ≠ some k := fun a ha hEq =>
        hMem (h.mem_keys.mpr ⟨a, ha, hEq⟩)
      have hFresh : ∀ a ∈ addrs, a ≠ t.allocated :=
        fun a ha => Nat.ne_of_lt (h.hLinked.hBound a ha)
      obtain ⟨t', hAdd, hAdded⟩ := h.hLinked.add v hValid hKey
      rw [if_neg hMem, hAdd]
      refine ⟨_, rfl, ⟨addrs ++ [t.allocated], h.hLinked.added hValid hKey hAdded, ?_, ?_⟩, rfl⟩
      · rw [List.map_append, List.map_congr_left fun a ha => hAdded.entryAt_ne (hFresh a ha),
          h.hEntries, List.map_append, List.map_singleton, hAdded.entryAt_new]
        rfl
      · rw [hAdded.hCursor]
        refine h.hCursor.congr ?_ ?_ (by rw [hAdded.hAllocated]; exact Nat.le_succ _)
        · intro a k hEq
          obtain ⟨e, he, -⟩ := Option.map_eq_some_iff.mp hEq
          rw [hAdded.keyAt_ne (hFresh a (h.hLinked.mem_of_heap he)), hEq]
        · intro a hBound hNone
          rw [hAdded.hHeap a (Nat.ne_of_lt hBound), hNone]
          rfl
  · rw [RTPKeyHashTable.addElement, if_pos (Nat.not_lt.mp hValid), if_neg (by simp [hValid])]
    exact ⟨_, rfl, h, rfl⟩

/-- Every call is refused by both or answered alike. -/
theorem Refines.perform (h : Refines getIndex hashsize t s) (c : TableCall K V) :
    Option.Rel (Same getIndex hashsize) (t.perform getIndex hashsize c)
      (s.perform (fun k => getIndex k < hashsize) c) := by
  cases c with
  | gotoFirstElement => exact Option.Rel.some ⟨h.gotoFirstElement, rfl⟩
  | gotoLastElement => exact Option.Rel.some ⟨h.gotoLastElement, rfl⟩
  | hasCurrentElement =>
    rw [RTPKeyHashTable.perform, CursorTable.perform, h.hasCurrentElement]
    cases s.hasCurrentElement with
    | none => exact Option.Rel.none
    | some b => exact Option.Rel.some ⟨h, rfl⟩
  | deleteCurrentElement => exact h.deleteCurrentElement
  | getCurrentElement =>
    have hValue := h.currentKey.2
    rw [RTPKeyHashTable.perform, CursorTable.perform, ← hValue]
    cases t.current with
    | none => exact Option.Rel.none
    | some e => exact Option.Rel.some ⟨h, rfl⟩
  | getCurrentKey =>
    have hKey := h.currentKey.1
    rw [RTPKeyHashTable.perform, CursorTable.perform, ← hKey]
    cases t.current with
    | none => exact Option.Rel.none
    | some e => exact Option.Rel.some ⟨h, rfl⟩
  | gotoElement k =>
    obtain ⟨x, hGoto, hSame⟩ := h.gotoElement k
    rw [RTPKeyHashTable.perform, hGoto]
    exact Option.Rel.some hSame
  | hasElement k =>
    rw [RTPKeyHashTable.perform, h.hasElement k]
    exact Option.Rel.some ⟨h, rfl⟩
  | gotoNextElement => exact rel_map h.gotoNextElement fun _ _ hRefines => ⟨hRefines, rfl⟩
  | gotoPreviousElement =>
    exact rel_map h.gotoPreviousElement fun _ _ hRefines => ⟨hRefines, rfl⟩
  | clear =>
    obtain ⟨t', hClear, hRefines⟩ := h.clear
    rw [RTPKeyHashTable.perform, hClear]
    exact Option.Rel.some ⟨hRefines, rfl⟩
  | addElement k v =>
    obtain ⟨x, hAdd, hSame⟩ := h.addElement k v
    rw [RTPKeyHashTable.perform, hAdd]
    exact Option.Rel.some hSame
  | deleteElement k => exact h.deleteElement k

/-! ## Whole runs -/

def answering {σ : Type} (perform : σ → TableCall K V → Option (σ × Answer K V))
    (x : σ × List (Answer K V)) (c : TableCall K V) : Option (σ × List (Answer K V)) :=
  (perform x.1 c).map fun y => (y.1, x.2 ++ [y.2])

theorem Refines.run (h : Refines getIndex hashsize t s) (calls : List (TableCall K V)) :
    Option.Rel (fun x y => Refines getIndex hashsize x.1 y.1 ∧ x.2 = y.2)
      (run (answering (RTPKeyHashTable.perform getIndex hashsize)) (t, []) calls)
      (run (answering (CursorTable.perform fun k => getIndex k < hashsize)) (s, []) calls) := by
  let R : RTPKeyHashTable K V × List (Answer K V) → CursorTable K V × List (Answer K V) → Prop :=
    fun x y => Refines getIndex hashsize x.1 y.1 ∧ x.2 = y.2
  have hKeep {x : RTPKeyHashTable K V × List (Answer K V)}
      {y : CursorTable K V × List (Answer K V)} {c : TableCall K V} (hR : R x y) :
      Option.Rel R (answering (RTPKeyHashTable.perform getIndex hashsize) x c)
        (answering (CursorTable.perform fun k => getIndex k < hashsize) y c) := by
    apply rel_map (hR.1.perform c)
    rintro ⟨t, ans⟩ ⟨s, -⟩ ⟨hRefines, rfl⟩
    exact ⟨hRefines, congrArg (· ++ [ans]) hR.2⟩
  have hStart : R (t, []) (s, []) := ⟨h, rfl⟩
  have hAlways : Always (answering (CursorTable.perform fun k => getIndex k < hashsize))
      (fun _ => True) (s, []) calls :=
    always_of_invariant (fun _ _ => trivial) (fun _ => trivial) trivial
  exact run_lockstep (fun {x y c} hR _ => hKeep (x := x) (y := y) (c := c) hR) hStart hAlways

/-- Every sequence of calls is refused at the same call, and gets the same answers before it. -/
theorem answers_eq (getIndex : K → Nat) (hashsize : Nat) (calls : List (TableCall K V)) :
    (run (answering (perform getIndex hashsize)) (new, []) calls).map Prod.snd =
      (run (answering (CursorTable.perform fun k => getIndex k < hashsize))
        (CursorTable.new, []) calls).map Prod.snd :=
  map_eq_of_rel ((refines_new hashsize).run calls) And.right

theorem Refines.sweep (dead : V → Bool) (fuel : Nat) (h : Refines getIndex hashsize t s) :
    Option.Rel (fun x y => Refines getIndex hashsize x.1 y.1 ∧ x.2 = y.2)
      (CursorTable.sweep (RTPKeyHashTable.perform getIndex hashsize) dead fuel t)
      (CursorTable.sweep (CursorTable.perform fun k => getIndex k < hashsize) dead fuel s) := by
  induction fuel generalizing t s with
  | zero => exact Option.Rel.none
  | succ fuel ih =>
    apply rel_bind (h.perform .hasCurrentElement)
    rintro ⟨t₁, ans⟩ ⟨s₁, -⟩ ⟨h₁, rfl⟩
    dsimp only
    split
    · apply rel_bind (h₁.perform .getCurrentElement)
      rintro ⟨t₂, ans⟩ ⟨s₂, -⟩ ⟨h₂, rfl⟩
      dsimp only
      split
      · rename_i v
        apply rel_bind (h₂.perform _)
        rintro ⟨t₃, ans⟩ ⟨s₃, ans'⟩ hSame
        apply rel_map (ih hSame.1)
        rintro ⟨t₄, seen⟩ ⟨s₄, -⟩ ⟨h₄, rfl⟩
        exact ⟨h₄, rfl⟩
      · exact Option.Rel.none
    · exact Option.Rel.some ⟨h₁, rfl⟩

theorem Refines.sweep_spec (h : Refines getIndex hashsize t s) (dead : V → Bool) :
    ∃ t', CursorTable.sweep (RTPKeyHashTable.perform getIndex hashsize) dead
        (s.entries.length + 1) t.gotoFirstElement = some (t', s.entries.map Prod.snd) ∧
      Refines getIndex hashsize t' ⟨s.entries.filter fun e => !dead e.2, .nowhere⟩ := by
  have hSweep := h.gotoFirstElement.sweep dead (s.entries.length + 1)
  obtain ⟨addrs, hHolds⟩ := h
  have hEq := CursorTable.sweep_eq (fun k => getIndex k < hashsize) dead [] s.entries
    hHolds.nodup_keys (Nat.lt_succ_self _)
  have hStart : s.gotoFirstElement =
      ⟨[] ++ s.entries, CursorTable.cursorOf (s.entries.head?.map Prod.fst)⟩ := by
    rw [CursorTable.gotoFirstElement, CursorTable.keys, List.head?_map]
    rfl
  rw [hStart, hEq] at hSweep
  cases hWalk : CursorTable.sweep (RTPKeyHashTable.perform getIndex hashsize) dead
      (s.entries.length + 1) t.gotoFirstElement with
  | none =>
    rw [hWalk] at hSweep
    cases hSweep
  | some x =>
    rw [hWalk] at hSweep
    cases hSweep with
    | some hSame => exact ⟨x.1, congrArg some (Prod.ext rfl hSame.2), hSame.1⟩

/-- Whatever was called before, a walk comes by every entry once, in the order in which they were
added, and from then on the table answers as the dictionary of those that stay. -/
theorem sweep_run (getIndex : K → Nat) (hashsize : Nat) (dead : V → Bool)
    (calls : List (TableCall K V)) :
    Option.Rel (fun x y => ∃ t', CursorTable.sweep (perform getIndex hashsize) dead
        (y.1.entries.length + 1) x.1.gotoFirstElement = some (t', y.1.entries.map Prod.snd) ∧
        ∀ more, (run (answering (perform getIndex hashsize)) (t', []) more).map Prod.snd =
          (run (answering (CursorTable.perform fun k => getIndex k < hashsize))
            (⟨y.1.entries.filter fun e => !dead e.2, .nowhere⟩, []) more).map Prod.snd)
      (run (answering (perform getIndex hashsize)) (new, []) calls)
      (run (answering (CursorTable.perform fun k => getIndex k < hashsize))
        (CursorTable.new, []) calls) := by
  apply rel_imp ((refines_new hashsize).run calls)
  intro x y hxy
  obtain ⟨t', hWalk, hRefines⟩ := hxy.1.sweep_spec dead
  exact ⟨t', hWalk, fun more => map_eq_of_rel (hRefines.run more) And.right⟩

end
end RTPKeyHashTable
end LocalCall.Jrtp
