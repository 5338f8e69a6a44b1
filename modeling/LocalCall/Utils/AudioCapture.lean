import LocalCall.Utils.AudioRecorder
import LocalCall.Utils.QueueBound

/-! # Recording without gaps

The audio thread allocates a frame for each read and queues it whole, also where the read has
filled only its front. Beside the state stand the samples captured and the frames handed out.
-/
namespace LocalCall.Utils.AudioCapture
open Data AudioSync AudioDevices QueueBound Transition Blocks
set_option autoImplicit false

variable {S : Type}

structure Recording (S : Type) where
  audio : AudioSync S
  captured : List S
  handed : List (List S)
  deriving DecidableEq

/-- A read of the microphone asks for a frame and returns no more than that. -/
def step [Zero S] (s : Recording S) : Step S → Option (Recording S)
  | .command cmd => some { s with audio := s.audio.offer cmd }
  | .interrupt => some { s with audio := s.audio.interrupt }
  | .iterate input =>
    if input.captured.length ≤ frameSizeAudio then
      some { s with
        audio := s.audio.iterate input
        captured := s.captured ++ if captures s.audio input then input.captured else [] }
    else none
  | .writeDataToPlayer data => some { s with audio := s.audio.writeDataToPlayer data }
  | .readDataFromRecorder =>
    some { s with
      audio := s.audio.readDataFromRecorder.2
      handed := s.handed ++ s.audio.readDataFromRecorder.1.toList }

def start : Recording S := ⟨.new, [], []⟩

def waiting (a : AudioSync S) : List (List S) :=
  a.mOutputFrameBufferQueue.queue.filterMap BufferDataExt.mBufferExt

/-- The frames handed out are those of the captured samples, and until the loop ends the ones
that are missing wait. -/
structure GapFree (s : Recording S) : Prop where
  handed : s.handed <+: blocks frameSizeAudio s.captured
  none_missing : s.audio.ended = false →
    blocks frameSizeAudio s.captured = s.handed ++ waiting s.audio

/-- A read that gets samples gets a whole frame. -/
def FullRead (s : Recording S) : Step S → Prop
  | .iterate input => captures s.audio input = true → input.captured.length = frameSizeAudio
  | _ => True

structure Whole (s : Recording S) (frames : List (List S)) : Prop where
  framed : Framed s.audio
  sizes : ∀ frame ∈ frames, frame.length = frameSizeAudio
  captured : s.captured = frames.flatten
  handed : s.handed <+: frames
  waits : s.audio.ended = false → frames = s.handed ++ waiting s.audio
  emptied : s.audio.ended = true → s.audio.mOutputFrameBufferQueue.queue = []

section Runs

variable {s s' : Recording S} {frames : List (List S)}

theorem Whole.blocks_eq (h : Whole s frames) : blocks frameSizeAudio s.captured = frames := by
  rw [h.captured, blocks_flatten AudioRecorder.frameSizeAudio_pos h.sizes]

theorem Whole.gapFree (h : Whole s frames) : GapFree s := by
  constructor
  · rw [h.blocks_eq]
    exact h.handed
  · rw [h.blocks_eq]
    exact h.waits

theorem whole_start : Whole (start : Recording S) [] where
  framed := framed_new
  sizes := nofun
  captured := rfl
  handed := List.prefix_refl _
  waits _ := rfl
  emptied _ := rfl

theorem Whole.congr (h : Whole s frames) {a : AudioSync S} (hFramed : Framed a)
    (hQueue : a.mOutputFrameBufferQueue = s.audio.mOutputFrameBufferQueue)
    (hEnded : a.ended = s.audio.ended) : Whole { s with audio := a } frames where
  framed := hFramed
  sizes := h.sizes
  captured := h.captured
  handed := h.handed
  waits := by
    rw [waiting, hQueue, hEnded]
    exact h.waits
  emptied := by
    rw [hQueue, hEnded]
    exact h.emptied

/-- What is handed out was waiting, and is a whole frame if all that wait are. -/
theorem waiting_readDataFromRecorder (a : AudioSync S)
    (hSizes : ∀ frame ∈ waiting a, frame.length = frameSizeAudio) :
    waiting a = a.readDataFromRecorder.1.toList ++ waiting a.readDataFromRecorder.2 := by
  rw [AudioSync.readDataFromRecorder, FrameBufferQueueNew.pollCustom]
  by_cases hZero : a.mOutputFrameBufferQueue.mCount = 0
  · rw [if_pos hZero]
    rfl
  · rw [if_neg hZero]
    rw [waiting] at hSizes ⊢
    cases hQueue : a.mOutputFrameBufferQueue.queue with
    | nil => rfl
    | cons bd rest =>
      rw [hQueue] at hSizes
      obtain ⟨buffer⟩ := bd
      cases buffer with
      | none => rfl
      | some frame =>
        have hSize : frame.length = frameSizeAudio := hSizes frame List.mem_cons_self
        have hTake : frame.take frameSizeAudio = frame := List.take_of_length_le (Nat.le_of_eq hSize)
        change frame :: rest.filterMap _ = frame.take frameSizeAudio :: rest.filterMap _
        rw [hTake]

theorem ended_readDataFromRecorder (a : AudioSync S) :
    a.readDataFromRecorder.2.ended = a.ended := by
  rw [AudioSync.readDataFromRecorder]
  split <;> rfl

theorem waiting_eq_nil {a : AudioSync S} (h : a.mOutputFrameBufferQueue.queue = []) :
    waiting a = [] := by
  rw [waiting, h]
  rfl

theorem Whole.waiting_sizes (h : Whole s frames) :
    ∀ frame ∈ waiting s.audio, frame.length = frameSizeAudio := by
  intro frame hFrame
  cases hEnded : s.audio.ended with
  | true =>
    rw [waiting_eq_nil (h.emptied hEnded)] at hFrame
    cases hFrame
  | false =>
    apply h.sizes
    rw [h.waits hEnded]
    exact List.mem_append_right _ hFrame

theorem Whole.readDataFromRecorder (h : Whole s frames) :
    Whole { s with
      audio := s.audio.readDataFromRecorder.2
      handed := s.handed ++ s.audio.readDataFromRecorder.1.toList } frames := by
  have hWaiting := waiting_readDataFromRecorder s.audio h.waiting_sizes
  have hEnded := ended_readDataFromRecorder s.audio
  have hMore : s.audio.ended = false → frames =
      s.handed ++ s.audio.readDataFromRecorder.1.toList ++ waiting s.audio.readDataFromRecorder.2 := by
    intro hRunning
    rw [List.append_assoc, ← hWaiting]
    exact h.waits hRunning
  constructor
  case framed => exact h.framed.readDataFromRecorder
  case sizes => exact h.sizes
  case captured => exact h.captured
  case handed =>
    cases hOver : s.audio.ended with
    | true =>
      rw [waiting_eq_nil (h.emptied hOver)] at hWaiting
      dsimp only
      rw [(List.append_eq_nil_iff.mp hWaiting.symm).1, List.append_nil]
      exact h.handed
    | false => exact ⟨_, (hMore hOver).symm⟩
  case waits =>
    intro hRunning
    exact hMore (hEnded ▸ hRunning)
  case emptied =>
    intro hOver
    have hNone := h.emptied (hEnded ▸ hOver)
    have hLess := (pollCustom_queue s.audio.mOutputFrameBufferQueue).1
    obtain ⟨-, hOutput⟩ := readDataFromRecorder_queues s.audio
    rw [hNone] at hLess
    dsimp only
    rw [hOutput]
    exact List.eq_nil_of_length_eq_zero (Nat.le_zero.mp hLess)

theorem readInto_full [Zero S] {captured : List S} (h : captured.length = frameSizeAudio) :
    capturedFrame captured = ⟨some captured⟩ := by
  have hRest : (List.replicate captured.length (0 : S)).drop captured.length = [] :=
    List.drop_eq_nil_of_le (Nat.le_of_eq List.length_replicate)
  rw [capturedFrame, readInto, List.length_replicate, ← h, List.take_length, hRest,
    List.append_nil]

theorem waiting_offerCustom {a a' : AudioSync S} {bd : BufferDataExt S}
    (hQueue : a'.mOutputFrameBufferQueue = a.mOutputFrameBufferQueue.offerCustom bd) :
    waiting a' = waiting a ++ bd.mBufferExt.toList := by
  rw [waiting, hQueue, FrameBufferQueueNew.offerCustom, List.filterMap_append, waiting]
  obtain ⟨_ | frame⟩ := bd <;> rfl

variable [Zero S] {input : AudioInput S}

theorem Whole.captureWhole (h : Whole s frames) (hCaptures : captures s.audio input = true)
    (hFull : input.captured.length = frameSizeAudio) :
    Whole { s with
      audio := s.audio.iterate input
      captured := s.captured ++ input.captured } (frames ++ [input.captured]) := by
  have hWaits := h.waits (ended_of_captures hCaptures)
  obtain ⟨hEnded, hQueue⟩ := iterate_of_captures h.framed hCaptures
  have hMore := waiting_offerCustom hQueue
  rw [readInto_full hFull, Option.toList_some] at hMore
  have hFrames : frames ++ [input.captured] = s.handed ++ waiting (s.audio.iterate input) := by
    rw [hMore, ← List.append_assoc, ← hWaits]
  constructor
  case framed => exact h.framed.iterate input
  case sizes =>
    intro frame hFrame
    rcases List.mem_append.mp hFrame with hOld | hNew
    · exact h.sizes frame hOld
    · rw [List.mem_singleton.mp hNew]
      exact hFull
  case captured =>
    rw [List.flatten_append, ← h.captured]
    simp
  case handed => exact ⟨_, hFrames.symm⟩
  case waits => exact fun _ => hFrames
  case emptied =>
    intro hOver
    exact absurd (hEnded.symm.trans hOver) Bool.false_ne_true

/-- A turn without samples adds no frame; if it ends the loop those that wait are gone. -/
theorem Whole.captureNothing (h : Whole s frames) (hNone : captures s.audio input = false) :
    Whole { s with audio := s.audio.iterate input } frames := by
  have hFramed := h.framed.iterate input
  rcases iterate_output h.framed input with
    ⟨hCaptures, -⟩ | ⟨-, hEnded, hQueue⟩ | ⟨-, hEnded, hQueue⟩
  · exact absurd (hNone.symm.trans hCaptures) Bool.false_ne_true
  · exact h.congr hFramed hQueue hEnded
  · constructor
    case framed => exact hFramed
    case sizes => exact h.sizes
    case captured => exact h.captured
    case handed => exact h.handed
    case waits =>
      intro hRunning
      exact absurd (hRunning.symm.trans hEnded) Bool.false_ne_true
    case emptied =>
      intro _
      dsimp only
      rw [hQueue]
      rfl

theorem Whole.not_gapFree (h : Whole s frames) (hCaptures : captures s.audio input = true)
    (hShort : input.captured.length < frameSizeAudio) :
    ¬ GapFree { s with
      audio := s.audio.iterate input
      captured := s.captured ++ input.captured } := by
  intro hFree
  have hWaits := h.waits (ended_of_captures hCaptures)
  obtain ⟨hEnded, hQueue⟩ := iterate_of_captures h.framed hCaptures
  have hMore := waiting_offerCustom hQueue
  have hBlocks : blocks frameSizeAudio (s.captured ++ input.captured) = frames := by
    rw [h.captured, blocks_flatten_append AudioRecorder.frameSizeAudio_pos h.sizes hShort]
  have hAll := hFree.none_missing hEnded
  dsimp only at hAll
  rw [hBlocks, hMore, ← List.append_assoc, ← hWaits] at hAll
  exact absurd (List.self_eq_append_right.mp hAll) (List.cons_ne_nil _ _)

/-- While every read gets a whole frame the next step keeps it so exactly if its read does. -/
theorem step_spec {e : Step S} (h : Whole s frames) (hStep : step s e = some s') :
    (FullRead s e ∧ ∃ frames', Whole s' frames') ∨ ¬ FullRead s e ∧ ¬ GapFree s' := by
  cases e with
  | command cmd =>
    cases hStep
    exact Or.inl ⟨trivial, frames, h.congr ⟨h.framed.input, h.framed.output⟩ rfl rfl⟩
  | interrupt =>
    cases hStep
    exact Or.inl ⟨trivial, frames, h.congr ⟨h.framed.input, h.framed.output⟩ rfl rfl⟩
  | iterate input =>
    obtain ⟨hFits, hNext⟩ := Option.ite_none_right_eq_some.mp hStep
    cases hNext
    cases hCaptures : captures s.audio input with
    | true =>
      rw [if_pos rfl]
      rcases Nat.lt_or_eq_of_le hFits with hShort | hFull
      · refine Or.inr ⟨fun hRead => ?_, h.not_gapFree hCaptures hShort⟩
        exact absurd (hRead hCaptures) (Nat.ne_of_lt hShort)
      · exact Or.inl ⟨fun _ => hFull, _, h.captureWhole hCaptures hFull⟩
    | false =>
      rw [if_neg Bool.false_ne_true, List.append_nil]
      refine Or.inl ⟨fun hNow => ?_, _, h.captureNothing hCaptures⟩
      exact absurd (hCaptures.symm.trans hNow) Bool.false_ne_true
  | writeDataToPlayer data =>
    cases hStep
    refine Or.inl ⟨trivial, frames, ?_⟩
    rw [writeDataToPlayer_framed h.framed]
    split
    · exact h.congr ⟨h.framed.input, h.framed.output⟩ rfl rfl
    · exact h
  | readDataFromRecorder =>
    cases hStep
    exact Or.inl ⟨trivial, frames, h.readDataFromRecorder⟩

end Runs

/-- The recorder with a thread of its own delivers the frames of the captured samples for all
counts; the audio thread hands out the same ones exactly if each read gets a whole frame. -/
theorem always_gapFree_iff [Zero S] (steps : List (Step S)) :
    (∀ (reads : List (List S)) (r : AudioRecorder S),
        run AudioRecorder.turn AudioRecorder.start reads = some r →
        r.delivered = blocks frameSizeAudio reads.flatten) ∧
      (Always step GapFree (start : Recording S) steps ↔ Meets step FullRead start steps) := by
  refine ⟨fun reads r hRun => AudioRecorder.delivered_eq_blocks hRun, ?_⟩
  have hKeep : ∀ {s : Recording S} {e s'}, (∃ frames, Whole s frames) → GapFree s →
      step s e = some s' → GapFree s' → ∃ frames, Whole s' frames := by
    rintro s e s' ⟨frames, h⟩ - hStep hFree
    rcases step_spec h hStep with ⟨-, hNext⟩ | ⟨-, hGap⟩
    · exact hNext
    · exact absurd hFree hGap
  have hExact : ∀ {s : Recording S} {e s'}, (∃ frames, Whole s frames) → GapFree s →
      step s e = some s' → (GapFree s' ↔ FullRead s e) := by
    rintro s e s' ⟨frames, h⟩ - hStep
    rcases step_spec h hStep with ⟨hFull, frames', hNext⟩ | ⟨hShort, hGap⟩
    · exact iff_of_true hNext.gapFree hFull
    · exact iff_of_false hGap hShort
  exact always_iff_meets hKeep hExact ⟨[], whole_start⟩ whole_start.gapFree

/-- A read that gets half a frame, and one that gets the other half. -/
theorem not_always_gapFree_halfRead :
    ¬ Always step GapFree (start : Recording Int)
      [.command .startRecorder, .iterate ⟨true, List.replicate 80 1⟩,
        .iterate ⟨true, List.replicate 80 1⟩] := by
  rintro ⟨-, hRest⟩
  have hFree := (hRest _ rfl).2 _ rfl |>.head
  have hAll := hFree.none_missing rfl
  revert hAll
  decide +kernel

end LocalCall.Utils.AudioCapture
