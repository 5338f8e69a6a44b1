import Mathlib.Data.List.Nodup
import Mathlib.Data.List.Induction

/-! # Doubly linked lists

The links are two functions on addresses. `Chain` says that they lead through a list of addresses
and back; the rules say what changing the links at an end of a stretch does to it, and put the
stretches together again.
-/
set_option autoImplicit false

namespace LinkedList

universe u
variable {α : Type u}

/-- From the first address of the list, behind `before`, to its last, in front of `after`. -/
def Chain (next prev : α → Option α) : Option α → List α → Option α → Prop
  | _, [], _ => True
  | before, a :: l, after =>
    prev a = before ∧ next a = l.head?.or after ∧ Chain next prev (some a) l after

section
variable {next prev next' prev' : α → Option α} {before after x y : Option α} {a : α}
  {l l₁ l₂ : List α}

theorem chain_append : Chain next prev before (l₁ ++ l₂) after ↔
    Chain next prev before l₁ (l₂.head?.or after) ∧
      Chain next prev (l₁.getLast?.or before) l₂ after := by
  induction l₁ generalizing before with
  | nil => exact ⟨fun h => ⟨trivial, h⟩, fun h => h.2⟩
  | cons a l₁ ih =>
    have hHead : (l₁ ++ l₂).head?.or after = l₁.head?.or (l₂.head?.or after) := by
      cases l₁ <;> rfl
    have hLast : (a :: l₁).getLast?.or before = l₁.getLast?.or (some a) := by
      rw [List.getLast?_cons]
      cases l₁.getLast? <;> rfl
    rw [List.cons_append, Chain, Chain, ih, hHead, hLast, and_assoc, and_assoc]

theorem chain_middle : Chain next prev before (l₁ ++ a :: l₂) after ↔
    Chain next prev before l₁ (some a) ∧ prev a = l₁.getLast?.or before ∧
      next a = l₂.head?.or after ∧ Chain next prev (some a) l₂ after := by
  rw [chain_append, Chain]
  rfl

theorem Chain.congr (h : Chain next prev before l after)
    (hNext : ∀ a ∈ l, next' a = next a) (hPrev : ∀ a ∈ l, prev' a = prev a) :
    Chain next' prev' before l after := by
  induction l generalizing before with
  | nil => exact trivial
  | cons a l ih =>
    obtain ⟨hBack, hForth, hRest⟩ := h
    refine ⟨(hPrev a List.mem_cons_self).trans hBack, (hNext a List.mem_cons_self).trans hForth,
      ih hRest (fun b hb => hNext b (List.mem_cons_of_mem a hb))
        (fun b hb => hPrev b (List.mem_cons_of_mem a hb))⟩

theorem Chain.setAfter (h : Chain next prev before l x) (hNodup : l.Nodup)
    (hPrev : ∀ a ∈ l, prev' a = prev a) (hNext : ∀ a ∈ l, l.getLast? ≠ some a → next' a = next a)
    (hLast : ∀ a ∈ l.getLast?, next' a = y) : Chain next' prev' before l y := by
  induction l using List.reverseRecOn with
  | nil => exact trivial
  | append_singleton l a _ =>
    obtain ⟨hFront, hBack, -, -⟩ := chain_middle.mp h
    have hOther : ∀ b ∈ l, (l ++ [a]).getLast? ≠ some b := by
      intro b hb hEq
      rw [List.getLast?_concat, Option.some.injEq] at hEq
      exact (List.nodup_append.mp hNodup).2.2 b hb a (List.mem_singleton_self a) hEq.symm
    refine chain_middle.mpr ⟨hFront.congr ?_ ?_, ?_, ?_, trivial⟩
    · intro b hb
      exact hNext b (List.mem_append_left _ hb) (hOther b hb)
    · intro b hb
      exact hPrev b (List.mem_append_left _ hb)
    · exact (hPrev a (List.mem_append_right _ (List.mem_singleton_self a))).trans hBack
    · exact hLast a List.getLast?_concat

theorem Chain.setBefore (h : Chain next prev x l after) (hNodup : l.Nodup)
    (hNext : ∀ a ∈ l, next' a = next a) (hPrev : ∀ a ∈ l, l.head? ≠ some a → prev' a = prev a)
    (hHead : ∀ a ∈ l.head?, prev' a = y) : Chain next' prev' y l after := by
  cases l with
  | nil => exact trivial
  | cons a l =>
    obtain ⟨-, hForth, hRest⟩ := h
    refine ⟨hHead a rfl, (hNext a List.mem_cons_self).trans hForth, hRest.congr ?_ ?_⟩
    · intro b hb
      exact hNext b (List.mem_cons_of_mem a hb)
    · intro b hb
      apply hPrev b (List.mem_cons_of_mem a hb)
      intro hEq
      cases hEq
      exact (List.nodup_cons.mp hNodup).1 hb

theorem Chain.next_eq (h : Chain next prev none (l₁ ++ a :: l₂) none) : next a = l₂.head? := by
  obtain ⟨-, -, hForth, -⟩ := chain_middle.mp h
  rw [hForth, Option.or_none]

theorem Chain.prev_eq (h : Chain next prev none (l₁ ++ a :: l₂) none) : prev a = l₁.getLast? := by
  obtain ⟨-, hBack, -, -⟩ := chain_middle.mp h
  rw [hBack, Option.or_none]

end

/-! ## Whole lists -/

section
variable [DecidableEq α] {next prev next' prev' : α → Option α} {a : α} {l l₁ l₂ : List α}

/-- An address is taken out: its neighbours are linked to each other. -/
theorem Chain.unlink (h : Chain next prev none (l₁ ++ a :: l₂) none)
    (hNodup : (l₁ ++ a :: l₂).Nodup)
    (hNext : ∀ b, b ≠ a → next' b = if prev a = some b then next a else next b)
    (hPrev : ∀ b, b ≠ a → prev' b = if next a = some b then prev a else prev b) :
    Chain next' prev' none (l₁ ++ l₂) none := by
  obtain ⟨hFront, hBack, hForth, hRest⟩ := chain_middle.mp h
  obtain ⟨hNodup₁, hNodup₂, hApart⟩ := List.nodup_append.mp hNodup
  obtain ⟨hFresh, hNodup₂⟩ := List.nodup_cons.mp hNodup₂
  rw [Option.or_none] at hBack hForth
  have hNe₁ : ∀ b ∈ l₁, b ≠ a := fun b hb => hApart b hb a List.mem_cons_self
  have hNe₂ : ∀ b ∈ l₂, b ≠ a := fun b hb hEq => hFresh (hEq ▸ hb)
  have hSplit : ∀ b ∈ l₁, b ∉ l₂ := fun b hb hb' =>
    hApart b hb b (List.mem_cons_of_mem a hb') rfl
  refine chain_append.mpr ⟨hFront.setAfter hNodup₁ ?_ ?_ ?_, hRest.setBefore hNodup₂ ?_ ?_ ?_⟩
  · intro b hb
    rw [hPrev b (hNe₁ b hb), if_neg]
    intro hEq
    rw [hForth] at hEq
    exact hSplit b hb (List.mem_of_mem_head? hEq)
  · intro b hb hNotLast
    rw [hNext b (hNe₁ b hb), if_neg]
    rwa [hBack]
  · intro b hb
    rw [hNext b (hNe₁ b (List.mem_of_mem_getLast? hb)), if_pos (hBack.trans hb), hForth,
      Option.or_none]
  · intro b hb
    rw [hNext b (hNe₂ b hb), if_neg]
    intro hEq
    rw [hBack] at hEq
    exact hSplit b (List.mem_of_mem_getLast? hEq) hb
  · intro b hb hNotHead
    rw [hPrev b (hNe₂ b hb), if_neg]
    rwa [hForth]
  · intro b hb
    rw [hPrev b (hNe₂ b (List.mem_of_mem_head? hb)), if_pos (hForth.trans hb), hBack,
      Option.or_none]

theorem Chain.pushFront (h : Chain next prev none l none) (hNodup : l.Nodup)
    (hNew : next' a = l.head? ∧ prev' a = none) (hNext : ∀ b ∈ l, next' b = next b)
    (hPrev : ∀ b ∈ l, prev' b = if l.head? = some b then some a else prev b) :
    Chain next' prev' none (a :: l) none := by
  refine ⟨hNew.2, ?_, h.setBefore hNodup hNext ?_ ?_⟩
  · rw [hNew.1, Option.or_none]
  · intro b hb hNotHead
    rw [hPrev b hb, if_neg hNotHead]
  · intro b hb
    rw [hPrev b (List.mem_of_mem_head? hb)]
    exact if_pos hb

theorem Chain.pushBack (h : Chain next prev none l none) (hNodup : l.Nodup)
    (hNew : next' a = none ∧ prev' a = l.getLast?) (hPrev : ∀ b ∈ l, prev' b = prev b)
    (hNext : ∀ b ∈ l, next' b = if l.getLast? = some b then some a else next b) :
    Chain next' prev' none (l ++ [a]) none := by
  refine chain_middle.mpr ⟨h.setAfter hNodup hPrev ?_ ?_, ?_, ?_, trivial⟩
  · intro b hb hNotLast
    rw [hNext b hb, if_neg hNotLast]
  · intro b hb
    rw [hNext b (List.mem_of_mem_getLast? hb)]
    exact if_pos hb
  · rw [hNew.2, Option.or_none]
  · exact hNew.1

end
end LinkedList
