import Mathlib.Algebra.Ring.Int.Defs
import LocalCall.Library.Transition
import LocalCall.Socket.SocketExt

/-! # The input loop at the end of the stream

A read that reports the end of the stream is taken like one that has brought nothing, so nothing
that the loop tests changes.
-/
namespace LocalCall.Socket.SocketExt
open Data Transition
set_option autoImplicit false

variable {B : Type}

inductive ReceiverStep where
  | input (answer : Answer)
  | callback (answer : Answer)
  deriving DecidableEq, Repr

/-- The two threads of the receiving end, with what is left of the stream. -/
def receiverStep (s : Input B × List B) : ReceiverStep → Option (Input B × List B)
  | .input answer => inputStep answer s.1 s.2
  | .callback answer => (callbackStep answer s.1).map fun receiver => (receiver, s.2)

/-- No read throws: each brings bytes or reports the end of the stream. -/
def Reads : ReceiverStep → Prop
  | .input (.threw _) => False
  | _ => True

def Left (s : Input B) : Prop :=
  s.thread = .ended ∨ s.mStreamStopFlag = true ∨ s.mInputStream = false

def readResult : ReceiverStep → Option Answer
  | .input .done | .callback _ => none
  | .input answer => some answer

section Steps

variable {s s' : Input B} {wire wire' : List B} {answer : Answer}

theorem not_left_advance (h : ¬ Left s) (count : Nat) : ¬ Left (s.advance count) := by
  unfold Left Input.advance at *
  grind

theorem not_left_store (h : ¬ Left s) (bytes : List B) : ¬ Left (s.store bytes) := by
  unfold Left Input.store at *
  grind

theorem not_left_inputStep (h : ¬ Left s) (hReads : Reads (.input answer))
    (hStep : inputStep answer s wire = some (s', wire')) : ¬ Left s' := by
  have hAdvance := not_left_advance h 0
  have hStored := fun bytes => not_left_advance (not_left_store h bytes)
  unfold inputStep at hStep
  dsimp only at hStep
  unfold Left at h ⊢
  split at hStep <;> grind [Reads, Left]

theorem not_left_callbackStep (h : ¬ Left s) (hStep : callbackStep answer s = some s') :
    ¬ Left s' := by
  unfold callbackStep at hStep
  dsimp only at hStep
  unfold Left at h ⊢
  split at hStep <;> grind

theorem exists_inputStep (h : ¬ Left s) (wire : List B) :
    ∃ next, inputStep (if s.thread = .read then .eof else .done) s wire = some next := by
  cases hThread : s.thread with
  | ended => exact absurd (Or.inl hThread) h
  | resetBuffer i | test | scan i =>
    simp only [inputStep, hThread, reduceCtorEq, if_false]
    split <;> exact ⟨_, rfl⟩
  | reset | claim i | poll | read | offer | recycle =>
    simp only [inputStep, hThread, reduceCtorEq, if_false, if_true]
    exact ⟨_, rfl⟩

end Steps

theorem not_left_start [Zero B] (mFrameSize : Nat) : ¬ Left (.start mFrameSize : Input B) := by
  simp [Left, Input.start]

theorem reads_of_results {es : List ReceiverStep} {counts : List Nat} {m : Nat}
    (h : es.filterMap readResult = counts.map .count ++ List.replicate m .eof) :
    ∀ e ∈ es, Reads e := by
  intro e he
  unfold Reads
  split
  · rename_i k
    have hMem : Answer.threw k ∈ es.filterMap readResult := List.mem_filterMap.mpr ⟨_, he, rfl⟩
    rw [h, List.mem_append, List.mem_map, List.mem_replicate] at hMem
    rcases hMem with ⟨_, _, hCount⟩ | ⟨_, hEof⟩
    · cases hCount
    · cases hEof
  · trivial

theorem not_left_run {s s' : Input B × List B} {es : List ReceiverStep} (h : ¬ Left s.1)
    (hReads : ∀ e ∈ es, Reads e) (hRun : run receiverStep s es = some s') : ¬ Left s'.1 := by
  induction es generalizing s with
  | nil => cases hRun; exact h
  | cons e es ih =>
    obtain ⟨mid, hStep, hRun⟩ := Option.bind_eq_some_iff.mp hRun
    obtain ⟨hFirst, hRest⟩ := List.forall_mem_cons.mp hReads
    refine ih ?_ hRest hRun
    cases e with
    | input answer => exact not_left_inputStep h hFirst hStep
    | callback answer =>
      obtain ⟨receiver, hCallback, rfl⟩ := Option.map_eq_some_iff.mp hStep
      exact not_left_callbackStep h hCallback

/-- Whatever the reads bring before the end of the stream, and however often they report it, the
thread stays in its loop with the connection open, and has a statement to go on with. -/
theorem input_loop_never_left [Zero B] (mFrameSize : Nat) (stream : List B) (counts : List Nat)
    (m : Nat) (es : List ReceiverStep) (s' : Input B × List B)
    (hResults : es.filterMap readResult = counts.map .count ++ List.replicate m .eof)
    (hRun : run receiverStep (.start mFrameSize, stream) es = some s') :
    ¬ Left s'.1 ∧
      ∃ answer next, (answer = .done ∨ answer = .eof) ∧
        receiverStep s' (.input answer) = some next := by
  have hNot := not_left_run (not_left_start mFrameSize) (reads_of_results hResults) hRun
  obtain ⟨next, hNext⟩ := exists_inputStep hNot s'.2
  refine ⟨hNot, _, next, ?_, hNext⟩
  split
  · exact Or.inr rfl
  · exact Or.inl rfl

/-- Three bytes in frames of two, then the end of the stream, twice. -/
def threeBytes : List ReceiverStep :=
  List.replicate 10 (.input .done) ++ [.input (.count 2), .input .done, .input .done, .input .done,
    .input .done, .input .done, .input (.count 1), .input .done, .input .eof, .input .done,
    .input .eof]

theorem threeBytes_not_left :
    ∃ s', run receiverStep (.start 2, [1, 2, (3 : Int)]) threeBytes = some s' ∧ ¬ Left s'.1 := by
  obtain ⟨s', hRun⟩ : ∃ s', run receiverStep (.start 2, [1, 2, (3 : Int)]) threeBytes = some s' :=
    Option.isSome_iff_exists.mp (by decide +kernel)
  exact ⟨s', hRun, (input_loop_never_left 2 _ [2, 1] 2 threeBytes s' rfl hRun).1⟩

/-- No number of further reads ends the loop. -/
theorem threeBytes_never_ends :
    ¬ ∃ m es s', es.filterMap readResult = [.count 2, .count 1] ++ List.replicate m .eof ∧
      run receiverStep (.start 2, [1, 2, (3 : Int)]) es = some s' ∧ Left s'.1 := by
  rintro ⟨m, es, s', hResults, hRun, hLeft⟩
  have hReads : ∀ e ∈ es, Reads e := @reads_of_results es [2, 1] m hResults
  exact not_left_run (not_left_start 2) hReads hRun hLeft

end LocalCall.Socket.SocketExt
