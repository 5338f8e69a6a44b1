import Mathlib.Algebra.Ring.Int.Defs
import LocalCall.Utils.AudioDevices

/-! # How long the queues of the audio thread get

Both queues are constructed with the size that bounds the older frame queue. The class they are of
ignores it: a frame is allocated for each call, and nothing is taken out to make room.
-/
namespace LocalCall.Utils.QueueBound
open Data AudioSync AudioDevices Transition
set_option autoImplicit false

variable {S : Type}

/-- The first argument of both constructor calls in `init`. -/
def queueSize : Nat := 100

def Bounded (s : Ledger S) : Prop :=
  s.audio.mInputFrameBufferQueue.queue.length ≤ queueSize ∧
    s.audio.mOutputFrameBufferQueue.queue.length ≤ queueSize

instance : DecidablePred (@Bounded S) := fun _ => inferInstanceAs (Decidable (_ ∧ _))

def captures (a : AudioSync S) (input : AudioInput S) : Bool :=
  if a.ended || a.interrupted then false
  else
    match processNext input.comesUp a with
    | .error _ => false
    | .ok a => active a.mAudioRecord && !input.captured.isEmpty

/-- A frame that arrives finds fewer than the size waiting. -/
def FindsRoom (s : Ledger S) : Step S → Prop
  | .writeDataToPlayer data => data.length = frameSizeAudio →
    s.audio.mInputFrameBufferQueue.queue.length < queueSize
  | .iterate input => captures s.audio input = true →
    s.audio.mOutputFrameBufferQueue.queue.length < queueSize
  | _ => True

/-- The frames that the queues allocate are of the size of the class. -/
structure Framed (a : AudioSync S) : Prop where
  input : a.mInputFrameBufferQueue.mDatasize = frameSizeAudio
  output : a.mOutputFrameBufferQueue.mDatasize = frameSizeAudio

section Turn

variable {a a' : AudioSync S}

theorem pollCustom_queue (q : FrameBufferQueueNew S) :
    q.pollCustom.2.queue.length ≤ q.queue.length ∧ q.pollCustom.2.mDatasize = q.mDatasize := by
  rw [FrameBufferQueueNew.pollCustom]
  split
  · exact ⟨Nat.le_refl _, rfl⟩
  · exact ⟨List.length_tail ▸ Nat.sub_le _ 1, rfl⟩

theorem generateBufferData_of_framed [Zero S] {q : FrameBufferQueueNew S}
    (h : q.mDatasize = frameSizeAudio) :
    q.generateBufferData = ⟨some (List.replicate frameSizeAudio 0)⟩ := by
  rw [FrameBufferQueueNew.generateBufferData, h]
  rfl

theorem writeDataToPlayer_framed [Zero S] (h : Framed a) (data : List S) :
    a.writeDataToPlayer data =
      if data.length = frameSizeAudio then
        { a with mInputFrameBufferQueue := a.mInputFrameBufferQueue.offerCustom ⟨some data⟩ }
      else a := by
  rw [AudioSync.writeDataToPlayer, generateBufferData_of_framed h.input]

def capturedFrame [Zero S] (captured : List S) : BufferDataExt S :=
  ⟨some (readInto captured (List.replicate frameSizeAudio 0))⟩

theorem processRecoderData_framed [Zero S] (h : Framed a) (captured : List S) :
    a.processRecoderData captured =
      if active a.mAudioRecord && !captured.isEmpty then
        { a with mOutputFrameBufferQueue :=
            a.mOutputFrameBufferQueue.offerCustom (capturedFrame captured) }
      else a := by
  rw [AudioSync.processRecoderData, generateBufferData_of_framed h.output]
  cases active a.mAudioRecord with
  | false => rfl
  | true =>
    cases captured with
    | nil => rfl
    | cons x captured => rfl

theorem processPlayerData_queues (a : AudioSync S) :
    a.processPlayerData.mInputFrameBufferQueue = a.mInputFrameBufferQueue.pollCustom.2 ∧
      a.processPlayerData.mOutputFrameBufferQueue = a.mOutputFrameBufferQueue ∧
      a.processPlayerData.mAudioRecord = a.mAudioRecord ∧
      a.processPlayerData.ended = a.ended := by
  rw [AudioSync.processPlayerData]
  split
  · rename_i hPoll
    rw [hPoll]
    exact ⟨rfl, rfl, rfl, rfl⟩
  · rename_i hPoll
    rw [hPoll]
    split <;> exact ⟨rfl, rfl, rfl, rfl⟩

theorem turn_queues [Zero S] (h : Framed a) (captured : List S) :
    let b := a.processPlayerData.processRecoderData captured
    b.mInputFrameBufferQueue = a.mInputFrameBufferQueue.pollCustom.2 ∧
      b.mOutputFrameBufferQueue =
        (if active a.mAudioRecord && !captured.isEmpty then
          a.mOutputFrameBufferQueue.offerCustom (capturedFrame captured)
        else a.mOutputFrameBufferQueue) ∧
      b.ended = a.ended := by
  obtain ⟨hInput, hOutput, hRecord, hEnded⟩ := processPlayerData_queues a
  have hFramed : Framed a.processPlayerData :=
    ⟨hInput ▸ (pollCustom_queue _).2.trans h.input, hOutput ▸ h.output⟩
  dsimp only
  rw [processRecoderData_framed hFramed, hRecord, hOutput]
  split
  · exact ⟨hInput, rfl, hEnded⟩
  · exact ⟨hInput, hOutput, hEnded⟩

def SameQueues (a a' : AudioSync S) : Prop :=
  a'.mInputFrameBufferQueue = a.mInputFrameBufferQueue ∧
    a'.mOutputFrameBufferQueue = a.mOutputFrameBufferQueue

theorem SameQueues.framed (hSame : SameQueues a a') (h : Framed a) : Framed a' :=
  ⟨hSame.1 ▸ h.input, hSame.2 ▸ h.output⟩

/-- A turn does nothing any more, or ends the loop, or plays and captures. -/
theorem iterate_cases [Zero S] (a : AudioSync S) (input : AudioInput S) :
    (captures a input = false ∧ a.iterate input = a) ∨
      (∃ a', captures a input = false ∧ SameQueues a a' ∧ a.iterate input = a'.finish) ∨
      ∃ a', captures a input = (active a'.mAudioRecord && !input.captured.isEmpty) ∧
        SameQueues a a' ∧ a'.ended = a.ended ∧
        a.iterate input = a'.processPlayerData.processRecoderData input.captured := by
  have hOutput := output_processNext input.comesUp a
  obtain ⟨hInput, -, hEnded⟩ := AudioPlayback.samePlayer_processNext input.comesUp a
  rw [captures, AudioSync.iterate]
  cases hOver : a.ended with
  | true => exact Or.inl ⟨rfl, rfl⟩
  | false =>
    cases hInterrupted : a.interrupted with
    | true => exact Or.inr (Or.inl ⟨a, rfl, ⟨rfl, rfl⟩, rfl⟩)
    | false =>
      cases hNext : processNext input.comesUp a with
      | error a' =>
        rw [hNext] at hOutput hInput
        exact Or.inr (Or.inl ⟨a', rfl, ⟨hInput, hOutput⟩, rfl⟩)
      | ok a' =>
        rw [hNext] at hOutput hInput hEnded
        exact Or.inr (Or.inr ⟨a', rfl, ⟨hInput, hOutput⟩, hEnded.trans hOver, rfl⟩)

theorem finish_queues (a : AudioSync S) :
    a.finish.ended = true ∧
      a.finish.mInputFrameBufferQueue = a.mInputFrameBufferQueue.reset.clear ∧
      a.finish.mOutputFrameBufferQueue = a.mOutputFrameBufferQueue.reset.clear := by
  obtain ⟨-, hEnded, hInput, hOutput⟩ := AudioPlayback.finish_player a
  exact ⟨hEnded, hInput, hOutput⟩

theorem Framed.iterate [Zero S] (h : Framed a) (input : AudioInput S) :
    Framed (a.iterate input) := by
  rcases iterate_cases a input with
    ⟨-, hSame⟩ | ⟨a', -, hQueues, hFinish⟩ | ⟨a', -, hQueues, -, hTurn⟩
  · rw [hSame]
    exact h
  · obtain ⟨-, hInput, hOutput⟩ := finish_queues a'
    have h' := hQueues.framed h
    rw [hFinish]
    exact ⟨hInput ▸ h'.input, hOutput ▸ h'.output⟩
  · have h' := hQueues.framed h
    obtain ⟨hInput, hOutput, -⟩ := turn_queues h' input.captured
    rw [hTurn]
    refine ⟨hInput ▸ (pollCustom_queue _).2.trans h'.input, ?_⟩
    rw [hOutput]
    split
    · exact h'.output
    · exact h'.output

theorem ended_of_captures {input : AudioInput S} (h : captures a input = true) :
    a.ended = false := by
  cases hEnded : a.ended with
  | false => rfl
  | true =>
    rw [captures, hEnded] at h
    cases h

theorem iterate_output [Zero S] (h : Framed a) (input : AudioInput S) :
    (captures a input = true ∧ (a.iterate input).ended = false ∧
        (a.iterate input).mOutputFrameBufferQueue =
          a.mOutputFrameBufferQueue.offerCustom (capturedFrame input.captured)) ∨
      (captures a input = false ∧ (a.iterate input).ended = a.ended ∧
        (a.iterate input).mOutputFrameBufferQueue = a.mOutputFrameBufferQueue) ∨
      captures a input = false ∧ (a.iterate input).ended = true ∧
        (a.iterate input).mOutputFrameBufferQueue = a.mOutputFrameBufferQueue.reset.clear := by
  rcases iterate_cases a input with
    ⟨hNone, hSame⟩ | ⟨a', hNone, hQueues, hFinish⟩ | ⟨a', hCaptures, hQueues, hEnded, hTurn⟩
  · rw [hSame]
    exact Or.inr (Or.inl ⟨hNone, rfl, rfl⟩)
  · obtain ⟨hOver, -, hOutput⟩ := finish_queues a'
    rw [hQueues.2] at hOutput
    rw [hFinish]
    exact Or.inr (Or.inr ⟨hNone, hOver, hOutput⟩)
  · obtain ⟨-, hOutput, hStill⟩ := turn_queues (hQueues.framed h) input.captured
    rw [hQueues.2, ← hCaptures] at hOutput
    rw [hTurn, hStill, hEnded, hOutput]
    cases hNow : captures a input with
    | true => exact Or.inl ⟨rfl, ended_of_captures hNow, rfl⟩
    | false => exact Or.inr (Or.inl ⟨rfl, rfl, rfl⟩)

theorem iterate_of_captures [Zero S] (h : Framed a) {input : AudioInput S}
    (hCaptures : captures a input = true) :
    (a.iterate input).ended = false ∧ (a.iterate input).mOutputFrameBufferQueue =
      a.mOutputFrameBufferQueue.offerCustom (capturedFrame input.captured) := by
  rcases iterate_output h input with ⟨-, hOffered⟩ | ⟨hNone, -⟩ | ⟨hNone, -⟩
  · exact hOffered
  · exact absurd (hNone.symm.trans hCaptures) Bool.false_ne_true
  · exact absurd (hNone.symm.trans hCaptures) Bool.false_ne_true

theorem iterate_input [Zero S] (h : Framed a) (input : AudioInput S) :
    (a.iterate input).mInputFrameBufferQueue.queue.length ≤
      a.mInputFrameBufferQueue.queue.length := by
  rcases iterate_cases a input with
    ⟨-, hSame⟩ | ⟨a', -, -, hFinish⟩ | ⟨a', -, hQueues, -, hTurn⟩
  · rw [hSame]
  · obtain ⟨-, hInput, -⟩ := finish_queues a'
    rw [hFinish, hInput]
    exact Nat.zero_le _
  · obtain ⟨hInput, -⟩ := turn_queues (hQueues.framed h) input.captured
    rw [hTurn, hInput, hQueues.1]
    exact (pollCustom_queue _).1

theorem readDataFromRecorder_queues (a : AudioSync S) :
    a.readDataFromRecorder.2.mInputFrameBufferQueue = a.mInputFrameBufferQueue ∧
      a.readDataFromRecorder.2.mOutputFrameBufferQueue = a.mOutputFrameBufferQueue.pollCustom.2 := by
  rw [AudioSync.readDataFromRecorder]
  split
  · rename_i hPoll
    rw [hPoll]
    exact ⟨rfl, rfl⟩
  · rename_i hPoll
    rw [hPoll]
    exact ⟨rfl, rfl⟩

theorem Framed.readDataFromRecorder (h : Framed a) : Framed a.readDataFromRecorder.2 := by
  obtain ⟨hInput, hOutput⟩ := readDataFromRecorder_queues a
  exact ⟨hInput ▸ h.input, hOutput ▸ (pollCustom_queue _).2.trans h.output⟩

theorem length_offerCustom_le_iff (q : FrameBufferQueueNew S) (bd : BufferDataExt S) :
    (q.offerCustom bd).queue.length ≤ queueSize ↔ q.queue.length < queueSize := by
  rw [FrameBufferQueueNew.offerCustom, List.length_append, List.length_singleton]
  exact Nat.succ_le_iff

theorem framed_new : Framed (new : AudioSync S) := ⟨rfl, rfl⟩

end Turn
section Runs

variable [Zero S] {s s' : Ledger S} {e : Step S}

theorem framed_step (h : Framed s.audio) (hStep : AudioDevices.step s e = some s') :
    Framed s'.audio := by
  cases e with
  | command cmd => cases hStep; exact ⟨h.input, h.output⟩
  | interrupt => cases hStep; exact ⟨h.input, h.output⟩
  | iterate input => cases hStep; exact h.iterate input
  | writeDataToPlayer data =>
    cases hStep
    dsimp only
    rw [writeDataToPlayer_framed h]
    split
    · exact ⟨h.input, h.output⟩
    · exact h
  | readDataFromRecorder =>
    cases hStep
    exact h.readDataFromRecorder

theorem bounded_step_iff (h : Framed s.audio) (hBounded : Bounded s)
    (hStep : AudioDevices.step s e = some s') : Bounded s' ↔ FindsRoom s e := by
  obtain ⟨hInput, hOutput⟩ := hBounded
  cases e with
  | command cmd => cases hStep; exact iff_of_true ⟨hInput, hOutput⟩ trivial
  | interrupt => cases hStep; exact iff_of_true ⟨hInput, hOutput⟩ trivial
  | iterate input =>
    cases hStep
    have hPlayed := Nat.le_trans (iterate_input h input) hInput
    refine (and_iff_right hPlayed).trans ?_
    rw [FindsRoom]
    rcases iterate_output h input with
      ⟨hCaptures, -, hQueue⟩ | ⟨hNone, -, hQueue⟩ | ⟨hNone, -, hQueue⟩
    · rw [hQueue, length_offerCustom_le_iff]
      exact ⟨fun hRoom _ => hRoom, fun hRoom => hRoom hCaptures⟩
    · rw [hQueue]
      exact iff_of_true hOutput fun hNow => absurd (hNone.symm.trans hNow) Bool.false_ne_true
    · rw [hQueue]
      refine iff_of_true (Nat.zero_le _) fun hNow => ?_
      exact absurd (hNone.symm.trans hNow) Bool.false_ne_true
  | writeDataToPlayer data =>
    cases hStep
    rw [Bounded, FindsRoom]
    dsimp only
    rw [writeDataToPlayer_framed h]
    by_cases hFrame : data.length = frameSizeAudio
    · rw [if_pos hFrame]
      refine (and_iff_left hOutput).trans ?_
      rw [length_offerCustom_le_iff]
      exact ⟨fun hRoom _ => hRoom, fun hRoom => hRoom hFrame⟩
    · rw [if_neg hFrame]
      exact iff_of_true ⟨hInput, hOutput⟩ fun hNow => absurd hNow hFrame
  | readDataFromRecorder =>
    cases hStep
    obtain ⟨hSame, hPolled⟩ := readDataFromRecorder_queues s.audio
    refine iff_of_true ⟨hSame ▸ hInput, ?_⟩ trivial
    dsimp only
    rw [hPolled]
    exact Nat.le_trans (pollCustom_queue _).1 hOutput

theorem run_writes (h : Framed s.audio) {data : List S} (hFrame : data.length = frameSizeAudio)
    (n : Nat) :
    ∃ s', run AudioDevices.step s (List.replicate n (.writeDataToPlayer data)) = some s' ∧
      s'.audio.mInputFrameBufferQueue.queue.length =
        s.audio.mInputFrameBufferQueue.queue.length + n := by
  induction n generalizing s with
  | zero => exact ⟨s, rfl, rfl⟩
  | succ n ih =>
    have hStep : AudioDevices.step s (.writeDataToPlayer data) =
        some { s with audio := s.audio.writeDataToPlayer data } := rfl
    obtain ⟨s', hRun, hLength⟩ := ih (framed_step h hStep)
    refine ⟨s', hRun, ?_⟩
    rw [hLength, writeDataToPlayer_framed h, if_pos hFrame]
    simp only [FrameBufferQueueNew.offerCustom, List.length_append, List.length_singleton]
    omega

end Runs

/-- Each queue stays within the size it was constructed with exactly if no frame ever arrives
while that many wait. -/
theorem always_bounded_iff [Zero S] (steps : List (Step S)) :
    Always AudioDevices.step Bounded (start : Ledger S) steps ↔
      Meets AudioDevices.step FindsRoom start steps := by
  have hKeep : ∀ {s : Ledger S} {e s'}, Framed s.audio → Bounded s →
      AudioDevices.step s e = some s' → Bounded s' → Framed s'.audio :=
    fun h _ hStep _ => framed_step h hStep
  exact always_iff_meets hKeep bounded_step_iff framed_new ⟨Nat.zero_le _, Nat.zero_le _⟩

/-- No size bounds the frames that wait to be played. -/
theorem exists_run_longer [Zero S] (n : Nat) :
    ∃ steps s, run AudioDevices.step (start : Ledger S) steps = some s ∧
      n < s.audio.mInputFrameBufferQueue.queue.length := by
  have hFrame : (List.replicate frameSizeAudio (0 : S)).length = frameSizeAudio :=
    List.length_replicate
  obtain ⟨s, hRun, hLength⟩ := run_writes (s := start) framed_new hFrame (n + 1)
  refine ⟨_, s, hRun, ?_⟩
  rw [hLength]
  exact Nat.lt_add_left _ (Nat.lt_succ_self n)

theorem not_always_bounded_unpolled :
    ¬ Always AudioDevices.step Bounded (start : Ledger Int)
      (List.replicate 101 (.writeDataToPlayer (List.replicate 160 0))) := by
  intro hAlways
  obtain ⟨s, hRun, hLength⟩ := run_writes (s := (start : Ledger Int)) framed_new
    (List.length_replicate : (List.replicate 160 (0 : Int)).length = frameSizeAudio) 101
  have hInput := (hAlways.last hRun).1
  rw [hLength] at hInput
  exact absurd hInput (by decide)

end LocalCall.Utils.QueueBound
