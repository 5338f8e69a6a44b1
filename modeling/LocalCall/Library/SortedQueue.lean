import Mathlib.Data.List.Sort

/-! # A queue in the order of its keys, with one element for each key -/
set_option autoImplicit false

namespace SortedQueue

universe u v w
variable {α : Type u} {κ : Type v} {κ' : Type w} [LinearOrder κ] (key : α → κ)

def Ordered (q : List α) : Prop := q.Pairwise fun a b => key a < key b

def enqueue (a : α) : List α → List α
  | [] => [a]
  | b :: q =>
    if key a < key b then a :: b :: q
    else if key b < key a then b :: enqueue a q
    else b :: q

def enqueueAll (q : List α) (as : List α) : List α := as.foldl (fun q a => enqueue key a q) q

/-- The elements that come first with their key. -/
def Firsts (as : List α) (x : α) : Prop :=
  ∃ before after, as = before ++ x :: after ∧ ∀ b ∈ before, key b ≠ key x

variable {key} {a x : α} {q as bs : List α}

theorem Ordered.eq_of_mem_iff {q' : List α} (hq : Ordered key q) (hq' : Ordered key q')
    (h : ∀ x, x ∈ q ↔ x ∈ q') : q = q' :=
  have : Std.Irrefl fun a b : α => key a < key b := ⟨fun a => lt_irrefl (key a)⟩
  have : Std.Antisymm fun a b : α => key a < key b := ⟨fun _ _ h h' => absurd h' (lt_asymm h)⟩
  List.Pairwise.eq_of_mem_iff hq hq' (fun {x} => h x)

theorem enqueue_map {β : Type u} {key' : β → κ'} [LinearOrder κ'] (f : α → β)
    (h : ∀ b ∈ q, (key' (f a) < key' (f b) ↔ key a < key b) ∧
      (key' (f b) < key' (f a) ↔ key b < key a)) :
    enqueue key' (f a) (q.map f) = (enqueue key a q).map f := by
  induction q with
  | nil => rfl
  | cons b q ih =>
    obtain ⟨hBelow, hAbove⟩ := h b List.mem_cons_self
    have hRest := ih fun c hc => h c (List.mem_cons_of_mem b hc)
    rw [List.map_cons, enqueue, enqueue, hRest]
    simp only [hBelow, hAbove]
    split
    · rfl
    · split <;> rfl

theorem mem_enqueue (hq : Ordered key q) :
    x ∈ enqueue key a q ↔ x ∈ q ∨ x = a ∧ ∀ b ∈ q, key b ≠ key a := by
  induction q with
  | nil => simp [enqueue]
  | cons b q ih =>
    obtain ⟨hHead, hTail⟩ := List.pairwise_cons.mp hq
    rw [enqueue]
    split
    · rename_i hLt
      have hNew : ∀ c ∈ b :: q, key c ≠ key a := by
        intro c hc
        rcases List.mem_cons.mp hc with rfl | hc
        · exact (ne_of_lt hLt).symm
        · exact (ne_of_lt (lt_trans hLt (hHead c hc))).symm
      rw [List.mem_cons, or_comm]
      exact or_congr_right ⟨fun h => ⟨h, hNew⟩, fun h => h.1⟩
    · split
      · rename_i hGt
        rw [List.mem_cons, List.mem_cons, ih hTail, or_assoc, List.forall_mem_cons]
        exact or_congr_right (or_congr_right (and_congr_right fun _ =>
          ⟨fun h => ⟨ne_of_lt hGt, h⟩, fun h => h.2⟩))
      · rename_i hLe hGe
        have hEq : key b = key a := le_antisymm (not_lt.mp hLe) (not_lt.mp hGe)
        exact ⟨Or.inl, fun h => h.resolve_right fun hNew => hNew.2 b List.mem_cons_self hEq⟩

theorem ordered_enqueue (hq : Ordered key q) (a : α) : Ordered key (enqueue key a q) := by
  induction q with
  | nil => exact List.pairwise_singleton _ _
  | cons b q ih =>
    obtain ⟨hHead, hTail⟩ := List.pairwise_cons.mp hq
    rw [enqueue]
    split
    · rename_i hLt
      refine List.pairwise_cons.mpr ⟨fun c hc => ?_, hq⟩
      rcases List.mem_cons.mp hc with rfl | hc
      · exact hLt
      · exact lt_trans hLt (hHead c hc)
    · split
      · rename_i hGt
        refine List.pairwise_cons.mpr ⟨fun c hc => ?_, ih hTail⟩
        rcases (mem_enqueue hTail).mp hc with hc | ⟨rfl, -⟩
        · exact hHead c hc
        · exact hGt
      · exact hq

theorem ordered_enqueueAll (hq : Ordered key q) (as : List α) : Ordered key (enqueueAll key q as) := by
  induction as generalizing q with
  | nil => exact hq
  | cons a as ih => exact ih (ordered_enqueue hq a)

theorem enqueueAll_append : enqueueAll key q (as ++ bs) = enqueueAll key (enqueueAll key q as) bs :=
  List.foldl_append

/-- What is queued are the elements that were there and the first ones with each new key. -/
theorem mem_enqueueAll (hq : Ordered key q) :
    x ∈ enqueueAll key q as ↔ x ∈ q ∨ Firsts key as x ∧ ∀ b ∈ q, key b ≠ key x := by
  induction as generalizing q with
  | nil =>
    refine ⟨Or.inl, fun h => h.resolve_right ?_⟩
    rintro ⟨⟨before, after, hSplit, -⟩, -⟩
    cases before <;> cases hSplit
  | cons a as ih =>
    change x ∈ enqueueAll key (enqueue key a q) as ↔ _
    rw [ih (ordered_enqueue hq a), mem_enqueue hq]
    constructor
    · rintro ((hx | ⟨rfl, hNew⟩) | ⟨⟨before, after, rfl, hBefore⟩, hNew⟩)
      · exact Or.inl hx
      · exact Or.inr ⟨⟨[], as, rfl, fun b hb => absurd hb List.not_mem_nil⟩, hNew⟩
      · refine Or.inr ⟨⟨a :: before, after, rfl, ?_⟩,
          fun b hb => hNew b ((mem_enqueue hq).mpr (Or.inl hb))⟩
        intro b hb
        rcases List.mem_cons.mp hb with rfl | hb
        · intro hKey
          by_cases hThere : ∀ c ∈ q, key c ≠ key b
          · exact hNew b ((mem_enqueue hq).mpr (Or.inr ⟨rfl, hThere⟩)) hKey
          · simp only [not_forall, not_not] at hThere
            obtain ⟨c, hc, hSame⟩ := hThere
            exact hNew c ((mem_enqueue hq).mpr (Or.inl hc)) (hSame.trans hKey)
        · exact hBefore b hb
    · rintro (hx | ⟨⟨before, after, hSplit, hBefore⟩, hNew⟩)
      · exact Or.inl (Or.inl hx)
      · cases before with
        | nil =>
          cases hSplit
          exact Or.inl (Or.inr ⟨rfl, hNew⟩)
        | cons b before =>
          cases hSplit
          refine Or.inr ⟨⟨before, after, rfl, fun c hc => hBefore c (List.mem_cons_of_mem _ hc)⟩, ?_⟩
          intro c hc
          rcases (mem_enqueue hq).mp hc with hc | ⟨rfl, -⟩
          · exact hNew c hc
          · exact hBefore c List.mem_cons_self

end SortedQueue
