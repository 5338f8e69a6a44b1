import Mathlib.Algebra.Ring.Int.Defs
import LocalCall.Library.Transition
import LocalCall.Socket.SocketExt

/-! # The reset with which the output thread begins

The application has the output queue from the constructor on; the output thread empties it and
frees its buffers one by one when a connection is there, whoever holds them.
-/
namespace LocalCall.Socket.SocketExt
open Data Transition
set_option autoImplicit false

variable {B : Type}

/-- Where the application stands in generating, filling and offering a buffer. -/
inductive AppPc where
  | idle
  | scan (i : Nat)
  | claim (i : Nat)
  | poll
  | filling (i : Nat)
  deriving DecidableEq, Repr

structure Shared (B : Type) where
  output : Output B
  app : AppPc
  deriving DecidableEq

/-- `next` is a statement of `generateBufferData`. -/
inductive SharedStep (B : Type) where
  | generateBufferData
  | next
  | fill (data : List B)
  | offerCustom
  | output (answer : Answer)
  | stop
  | closeStream
  deriving DecidableEq, Repr

def AppPc.held : AppPc → List Nat
  | .filling i => [i]
  | _ => []

def OutputPc.held : OutputPc → List Nat
  | .write tempBufferData | .recycle tempBufferData => [tempBufferData]
  | _ => []

def Output.refs (s : Output B) : List Nat := s.mOutputFrameBufferQueue.queue ++ s.thread.held

namespace Shared

def start [Zero B] (mFrameSize : Nat) : Shared B := ⟨.start mFrameSize, .idle⟩

def queue (s : Shared B) : FrameBufferQueue B := s.output.mOutputFrameBufferQueue

def withQueue (s : Shared B) (q : FrameBufferQueue B) : Shared B :=
  { s with output := { s.output with mOutputFrameBufferQueue := q } }

def next (s : Shared B) : Option (Shared B) :=
  match s.app with
  | .scan i =>
    if i < s.queue.mDataBuffer.length then
      some { s with app := if s.queue.isFree i then .claim i else .scan (i + 1) }
    else some { s with app := .poll }
  | .claim i => some { s.withQueue (s.queue.setState i 0) with app := .filling i }
  | .poll =>
    some { s.withQueue s.queue.pollCustom.2 with
      app := match s.queue.pollCustom.1 with
        | some i => .filling i
        | none => .idle }
  | _ => none

def step (s : Shared B) : SharedStep B → Option (Shared B)
  | .generateBufferData => if s.app = .idle then some { s with app := .scan 0 } else none
  | .next => s.next
  | .fill data =>
    match s.app with
    | .filling i =>
      if data.length = s.output.mFrameSize then some (s.withQueue (s.queue.setBuffer i data)) else none
    | _ => none
  | .offerCustom =>
    match s.app with
    | .filling i => some { s.withQueue (s.queue.offerCustom (some i)) with app := .idle }
    | _ => none
  | .output answer => (outputStep answer s.output).map fun (output, _, _) => { s with output }
  | .stop => some { s with output := { s.output with mStreamStopFlag := true } }
  | .closeStream => some { s with output := { s.output with mOutputStream := false } }

def refs (s : Shared B) : List Nat := s.app.held ++ s.output.refs

/-- No buffer that anybody refers to is marked free, and none that is queued or being written is
about to be handed out. -/
structure Kept (s : Shared B) : Prop where
  marked : ∀ i ∈ s.refs, s.queue.isFree i = false
  handed : ∀ i, s.app = .claim i → i ∉ s.queue.queue ∧ i ∉ s.output.thread.held

/-- The reset comes to a buffer that is neither queued nor being filled. -/
def Unused (s : Shared B) : SharedStep B → Prop
  | .output .done => ∀ i, s.output.thread = .resetBuffer i → i < s.queue.mDataBuffer.length →
      i ∉ s.queue.queue ∧ s.app ≠ .filling i
  | _ => True

structure Inv (s : Shared B) : Prop where
  nodup : s.refs.Nodup
  claiming : ∀ i, s.app = .claim i → s.queue.isFree i = true

section Steps

variable {s s' : Shared B} {e : SharedStep B}

theorem not_mem_held {pc : AppPc} {i : Nat} : i ∉ pc.held ↔ pc ≠ .filling i := by
  cases pc <;> simp [AppPc.held, eq_comm]

theorem Inv.kept_iff (h : s.Inv) : s.Kept ↔ ∀ i ∈ s.refs, s.queue.isFree i = false := by
  refine ⟨Kept.marked, fun hMarked => ⟨hMarked, ?_⟩⟩
  intro i hClaim
  have hNot : i ∉ s.refs := by
    intro hMem
    exact absurd (h.claiming i hClaim) (hMarked i hMem ▸ Bool.false_ne_true)
  rw [refs, Output.refs, List.mem_append, List.mem_append, not_or, not_or] at hNot
  exact hNot.2

theorem Inv.of_same (h : s.Inv) (hKept : s.Kept) (hFree : s'.queue.isFree = s.queue.isFree)
    (hRefs : s'.refs.Subperm s.refs) (hClaim : ∀ i, s'.app = .claim i → s.queue.isFree i = true) :
    s'.Inv ∧ s'.Kept := by
  obtain ⟨l, hPerm, hSub⟩ := hRefs
  have hInv : s'.Inv := ⟨hPerm.nodup_iff.mp (h.nodup.sublist hSub), fun i hi => hFree ▸ hClaim i hi⟩
  refine ⟨hInv, hInv.kept_iff.mpr fun i hi => ?_⟩
  rw [hFree]
  exact hKept.marked i (hSub.subset (hPerm.mem_iff.mpr hi))

theorem Inv.claim {i : Nat} (h : s.Inv) (hKept : s.Kept) (hApp : s.app = .claim i) :
    let s' : Shared B := { s.withQueue (s.queue.setState i 0) with app := .filling i }
    s'.Inv ∧ s'.Kept := by
  intro s'
  have hFree : s.queue.isFree i = true := h.claiming i hApp
  have hNot : i ∉ s.refs := by
    intro hMem
    exact absurd hFree (hKept.marked i hMem ▸ Bool.false_ne_true)
  have hRefs : s'.refs = i :: s.refs := by rw [refs, refs, hApp]; rfl
  have hInv : s'.Inv := ⟨hRefs ▸ List.nodup_cons.mpr ⟨hNot, h.nodup⟩, nofun⟩
  refine ⟨hInv, hInv.kept_iff.mpr fun j hj => ?_⟩
  rw [hRefs] at hj
  rcases List.mem_cons.mp hj with rfl | hMem
  · exact s.queue.setState_isFree_self j 0 (by decide)
  · have hji : j ≠ i := fun hEq => hNot (hEq ▸ hMem)
    exact (s.queue.setState_isFree_of_ne i j 0 hji).trans (hKept.marked j hMem)

theorem Inv.next (h : s.Inv) (hKept : s.Kept) (hStep : s.next = some s') : s'.Inv ∧ s'.Kept := by
  unfold Shared.next at hStep
  split at hStep <;> rename_i hApp
  · have hRefs : s.refs = s.output.refs := by rw [refs, hApp]; rfl
    split at hStep
    · cases hStep
      refine h.of_same hKept rfl ?_ ?_
      · rw [hRefs, refs]
        dsimp only
        split <;> exact List.Subperm.refl _
      · intro j hClaim
        dsimp only at hClaim
        split at hClaim
        · cases hClaim; assumption
        · cases hClaim
    · cases hStep
      exact h.of_same hKept rfl (hRefs ▸ List.Subperm.refl _) nofun
  · cases hStep
    exact h.claim hKept hApp
  · have hRefs : s.refs = s.queue.queue ++ s.output.thread.held := by rw [refs, hApp]; rfl
    cases hStep
    obtain ⟨hEmpty, hPoll⟩ | ⟨i, rest, hQueue, hPoll⟩ := s.queue.pollCustom_cases
    · rw [hPoll]
      exact h.of_same hKept rfl (hRefs ▸ List.Subperm.refl _) nofun
    · rw [hPoll]
      refine h.of_same hKept rfl ?_ nofun
      rw [hRefs, hQueue]
      exact List.Subperm.refl _
  · cases hStep

theorem Inv.of_freed {i : Nat} (h : s.Inv) (hKept : s.Kept)
    (hFree : s'.queue.isFree = (s.queue.setState i (-1)).isFree) (hApp : s'.app = s.app)
    (hRefs : s'.refs.Sublist s.refs) : s'.Inv ∧ (i ∉ s'.refs → s'.Kept) := by
  have hOther : ∀ j, j ≠ i → s'.queue.isFree j = s.queue.isFree j := by
    intro j hji
    rw [hFree]
    exact s.queue.setState_isFree_of_ne i j (-1) hji
  have hInv : s'.Inv := by
    refine ⟨h.nodup.sublist hRefs, fun j hClaim => ?_⟩
    have hStill := h.claiming j (hApp ▸ hClaim)
    by_cases hji : j = i
    · subst hji
      rw [hFree, s.queue.setState_isFree_of_free j hStill, hStill]
    · rw [hOther j hji, hStill]
  refine ⟨hInv, fun hNot => hInv.kept_iff.mpr fun j hj => ?_⟩
  have hji : j ≠ i := fun hEq => hNot (hEq ▸ hj)
  rw [hOther j hji]
  exact hKept.marked j (hRefs.subset hj)

theorem refs_of_held_eq_nil {s : Output B} (h : s.thread.held = []) :
    s.refs = s.mOutputFrameBufferQueue.queue := by
  rw [Output.refs, h, List.append_nil]

/-- What a step of the output thread does to marks and references. -/
theorem outputStep_cases {answer : Answer} {s s' : Output B} {sent : List B × List (List B)}
    (hStep : outputStep answer s = some (s', sent)) :
    (s'.mOutputFrameBufferQueue.isFree = s.mOutputFrameBufferQueue.isFree ∧
        s'.refs.Subperm s.refs ∧
        ∀ i, s.thread = .resetBuffer i → ¬ i < s.mOutputFrameBufferQueue.mDataBuffer.length) ∨
      ∃ i, s'.mOutputFrameBufferQueue = s.mOutputFrameBufferQueue.setState i (-1) ∧
        s'.refs = s.mOutputFrameBufferQueue.queue ∧
        (s.thread = .recycle i ∨ answer = .done ∧ s.thread = .resetBuffer i ∧
          i < s.mOutputFrameBufferQueue.mDataBuffer.length) := by
  unfold outputStep at hStep
  dsimp only at hStep
  split at hStep <;> rename_i hThread
  · cases hStep
    exact Or.inl ⟨rfl, (List.nil_sublist _).subperm, fun i hNow => absurd (hThread ▸ hNow) nofun⟩
  · split at hStep
    · cases hStep
      exact Or.inr ⟨_, rfl, List.append_nil _, Or.inr ⟨rfl, hThread, ‹_›⟩⟩
    · cases hStep
      refine Or.inl ⟨rfl, ?_, fun i hNow => ?_⟩
      · rw [refs_of_held_eq_nil (s := s) (hThread ▸ rfl), refs_of_held_eq_nil rfl]
      · cases hThread.symm.trans hNow
        assumption
  · cases hStep
    refine Or.inl ⟨rfl, ?_, fun i hNow => absurd (hThread ▸ hNow) nofun⟩
    rw [refs_of_held_eq_nil (s := s) (hThread ▸ rfl), refs_of_held_eq_nil]
    dsimp only
    split <;> rfl
  · cases hStep
    refine Or.inl ⟨rfl, ?_, fun i hNow => absurd (hThread ▸ hNow) nofun⟩
    rw [refs_of_held_eq_nil (s := s) (hThread ▸ rfl), Output.refs]
    obtain ⟨hEmpty, hPoll⟩ | ⟨i, rest, hQueue, hPoll⟩ := s.mOutputFrameBufferQueue.pollCustom_cases
    · rw [hPoll, hEmpty]
      exact List.Subperm.refl _
    · rw [hPoll, hQueue]
      exact (List.perm_append_singleton i rest).subperm
  · split at hStep
    · cases hStep
      refine Or.inl ⟨rfl, ?_, fun i hNow => absurd (hThread ▸ hNow) nofun⟩
      rw [Output.refs, Output.refs, hThread]
      exact List.Subperm.refl _
    · cases hStep
      refine Or.inl ⟨rfl, ?_, fun i hNow => absurd (hThread ▸ hNow) nofun⟩
      rw [refs_of_held_eq_nil rfl]
      exact (List.sublist_append_left _ _).subperm
  · split at hStep
    · obtain ⟨-, hNext⟩ := Option.ite_none_right_eq_some.mp hStep
      cases hNext
      refine Or.inl ⟨rfl, ?_, fun i hNow => absurd (hThread ▸ hNow) nofun⟩
      rw [refs_of_held_eq_nil rfl]
      exact (List.sublist_append_left _ _).subperm
    · cases hStep
  · cases hStep
    exact Or.inr ⟨_, rfl, List.append_nil _, Or.inl hThread⟩
  · cases hStep

theorem Inv.output {answer : Answer} {output : Output B} {sent : List B × List (List B)}
    (h : s.Inv) (hKept : s.Kept) (hStep : outputStep answer s.output = some (output, sent)) :
    Shared.Inv { s with output } ∧
      (Shared.Kept { s with output } ↔ Unused s (.output answer)) := by
  obtain ⟨hFree, hRefs, hReset⟩ | ⟨i, hQueue, hRefs, hFrees⟩ := outputStep_cases hStep
  · have hSame : Shared.Inv { s with output } ∧ Shared.Kept { s with output } :=
      h.of_same hKept hFree ((List.subperm_append_left s.app.held).mpr hRefs) h.claiming
    obtain ⟨hInv, hNext⟩ := hSame
    refine ⟨hInv, iff_of_true hNext ?_⟩
    unfold Unused
    split
    · exact fun i hNow hLt => absurd hLt (hReset i hNow)
    · trivial
  · have hSub : (s.app.held ++ output.refs).Sublist s.refs :=
      (hRefs ▸ List.sublist_append_left _ _ : output.refs.Sublist s.output.refs).append_left _
    have hFreed : Shared.Inv { s with output } ∧
        (i ∉ s.app.held ++ output.refs → Shared.Kept { s with output }) :=
      h.of_freed hKept (congrArg FrameBufferQueue.isFree hQueue) rfl hSub
    obtain ⟨hInv, hNext⟩ := hFreed
    refine ⟨hInv, ?_⟩
    rcases hFrees with hRecycle | ⟨rfl, hReset, hLt⟩
    · have hNot : i ∉ s.app.held ++ output.refs := by
        have hNodup := h.nodup
        rw [refs, Output.refs, hRecycle, ← List.append_assoc] at hNodup
        rw [hRefs]
        exact fun hMem => (List.nodup_append.mp hNodup).2.2 i hMem i (List.mem_singleton_self i) rfl
      refine iff_of_true (hNext hNot) ?_
      unfold Unused
      split
      · exact fun j hNow => absurd (hRecycle.symm.trans hNow) nofun
      · trivial
    · have hNot : i ∉ s.app.held ++ output.refs ↔ i ∉ s.queue.queue ∧ s.app ≠ .filling i := by
        rw [hRefs, List.mem_append, not_or, and_comm, not_mem_held]
        rfl
      have hMarked : output.mOutputFrameBufferQueue.isFree i = true := by
        rw [hQueue, FrameBufferQueue.setState_isFree _ i (-1) hLt, Function.update_self]
        rfl
      constructor
      · intro hKept' j hNow _
        cases hReset.symm.trans hNow
        refine hNot.mp fun hMem => ?_
        exact absurd hMarked (hKept'.marked i hMem ▸ Bool.false_ne_true)
      · exact fun hUnused => hNext (hNot.mpr (hUnused i hReset hLt))

theorem Inv.step (h : s.Inv) (hKept : s.Kept) (hStep : step s e = some s') :
    s'.Inv ∧ (s'.Kept ↔ Unused s e) := by
  have hSame : s'.Inv ∧ s'.Kept → Unused s e → s'.Inv ∧ (s'.Kept ↔ Unused s e) :=
    fun hNext hUnused => ⟨hNext.1, iff_of_true hNext.2 hUnused⟩
  cases e with
  | generateBufferData =>
    obtain ⟨hIdle, hNext⟩ := Option.ite_none_right_eq_some.mp hStep
    cases hNext
    refine hSame (h.of_same hKept rfl ?_ nofun) trivial
    rw [refs, refs, hIdle]
    exact List.Subperm.refl _
  | next => exact hSame (h.next hKept hStep) trivial
  | fill data =>
    unfold Shared.step at hStep
    dsimp only at hStep
    split at hStep
    · obtain ⟨-, hNext⟩ := Option.ite_none_right_eq_some.mp hStep
      cases hNext
      exact hSame (h.of_same hKept (s.queue.setBuffer_isFree _ data) (List.Subperm.refl _)
        h.claiming) trivial
    · cases hStep
  | offerCustom =>
    unfold Shared.step at hStep
    dsimp only at hStep
    split at hStep <;> rename_i hApp
    · cases hStep
      refine hSame (h.of_same hKept rfl ?_ nofun) trivial
      rename_i i
      have hPerm : (s.queue.queue ++ [i] ++ s.output.thread.held).Perm
          (i :: (s.queue.queue ++ s.output.thread.held)) := by
        rw [List.append_assoc]
        exact List.perm_middle
      rw [refs, refs, hApp]
      exact hPerm.subperm
    · cases hStep
  | output answer =>
    obtain ⟨⟨output, sent⟩, hOutput, hNext⟩ := Option.map_eq_some_iff.mp hStep
    cases hNext
    exact h.output hKept hOutput
  | stop =>
    cases hStep
    exact hSame (h.of_same hKept rfl (List.Subperm.refl _) h.claiming) trivial
  | closeStream =>
    cases hStep
    exact hSame (h.of_same hKept rfl (List.Subperm.refl _) h.claiming) trivial

end Steps

theorem inv_start [Zero B] (mFrameSize : Nat) : (start mFrameSize : Shared B).Inv :=
  ⟨List.nodup_nil, nofun⟩

/-- No buffer in use is marked free, exactly in the runs in which the reset comes only to buffers
that are neither queued nor being filled. -/
theorem always_kept_iff [Zero B] (mFrameSize : Nat) (es : List (SharedStep B)) :
    Always step Kept (start mFrameSize) es ↔ Meets step Unused (start mFrameSize) es := by
  have hKeep : ∀ {s : Shared B} {e s'}, s.Inv → s.Kept → step s e = some s' → s'.Kept → s'.Inv :=
    fun hInv hKept hStep _ => (hInv.step hKept hStep).1
  have hExact : ∀ {s : Shared B} {e s'}, s.Inv → s.Kept → step s e = some s' →
      (s'.Kept ↔ Unused s e) := fun hInv hKept hStep => (hInv.step hKept hStep).2
  exact always_iff_meets hKeep hExact (inv_start mFrameSize)
    ((inv_start mFrameSize).kept_iff.mpr nofun)

/-- The application fills a buffer when the connection is made, and gets it a second time while it
is in the queue. -/
def connectedLate : List (SharedStep Nat) :=
  [.generateBufferData, .next, .next, .output .done, .output .done, .fill [7], .offerCustom,
    .generateBufferData, .next]

theorem reset_frees_in_use : ¬ Always step Kept (start 1) connectedLate := by
  intro hAlways
  have hHanded := (hAlways.last rfl).handed 0 rfl
  exact absurd hHanded.1 (by decide +kernel)

end Shared
end LocalCall.Socket.SocketExt
