import LocalCall.Utils.AudioSpec
import LocalCall.Library.Transition

/-! # What the player plays

The callers write arrays of their own and may change them afterwards; the loop polls a frame in
each turn. Beside the state stand the frames accepted, as they were at the call, and the frames
polled, each with whether a track was active at that moment.
-/
namespace LocalCall.Utils.AudioPlayback
open Data AudioSync
set_option autoImplicit false

variable {S : Type}

structure Playback (S : Type) where
  audio : AudioSync S
  arrays : List (List S)
  accepted : List (List S)
  polled : List (Option (List S) × Bool)
  deriving DecidableEq

/-- An array keeps its length when its owner changes it. -/
inductive Step (S : Type) where
  | allocate (data : List S)
  | mutate (k : Nat) (data : List S)
  | writeDataToPlayer (k : Nat)
  | command (cmd : Command)
  | iterate (captured : List S)
  | readDataFromRecorder
  | interrupt
  deriving DecidableEq

/-- The frame that the next turn of the loop polls. -/
def polledNext (a : AudioSync S) : Option (Option (List S) × Bool) :=
  if a.ended || a.interrupted then none
  else
    match processNext true a with
    | .error _ => none
    | .ok a =>
      a.mInputFrameBufferQueue.pollCustom.1.map fun bd => (bd.mBufferExt, active a.mAudioTrack)

def step [Zero S] (s : Playback S) : Step S → Option (Playback S)
  | .allocate data => some { s with arrays := s.arrays ++ [data] }
  | .mutate k data =>
    match s.arrays[k]? with
    | some old =>
      if data.length = old.length then some { s with arrays := s.arrays.set k data } else none
    | none => none
  | .writeDataToPlayer k =>
    s.arrays[k]?.map fun data =>
      { s with
        audio := s.audio.writeDataToPlayer data
        accepted := if data.length = frameSizeAudio then s.accepted ++ [data] else s.accepted }
  | .command cmd => some { s with audio := s.audio.offer cmd }
  | .iterate captured =>
    some { s with
      audio := s.audio.iterate ⟨true, captured⟩
      polled := s.polled ++ (polledNext s.audio).toList }
  | .readDataFromRecorder => some { s with audio := s.audio.readDataFromRecorder.2 }
  | .interrupt => some { s with audio := s.audio.interrupt }

def start : Playback S := ⟨.new, [], [], []⟩

def waiting (a : AudioSync S) : List (Option (List S)) :=
  a.mInputFrameBufferQueue.queue.map BufferDataExt.mBufferExt

/-- What was played are the accepted frames in their order, without those that were polled while
no track was active; until the loop ends an accepted frame has been polled or waits. -/
structure Lossless (s : Playback S) : Prop where
  input_counted : s.audio.mInputFrameBufferQueue.Counted
  output_counted : s.audio.mOutputFrameBufferQueue.Counted
  played : s.audio.played.map some = (s.polled.filter Prod.snd).map Prod.fst
  polled : (s.polled.map Prod.fst).IsPrefix (s.accepted.map some)
  accepted : ∀ frame ∈ s.accepted, frame.length = frameSizeAudio
  none_lost : s.audio.ended = false →
    s.accepted.map some = s.polled.map Prod.fst ++ waiting s.audio

structure Inv (s : Playback S) : Prop extends Lossless s where
  mDatasize : s.audio.mInputFrameBufferQueue.mDatasize = frameSizeAudio

section Turn

variable {a a' : AudioSync S}

/-- The fields that only the queue of the player and its track touch. -/
def SamePlayer (a a' : AudioSync S) : Prop :=
  a'.mInputFrameBufferQueue = a.mInputFrameBufferQueue ∧ a'.played = a.played ∧
    a'.ended = a.ended

theorem SamePlayer.trans {a'' : AudioSync S} (h : SamePlayer a a') (h' : SamePlayer a' a'') :
    SamePlayer a a'' :=
  ⟨h'.1.trans h.1, h'.2.1.trans h.2.1, h'.2.2.trans h.2.2⟩

theorem samePlayer_stopAudioPlayer (a : AudioSync S) : SamePlayer a a.stopAudioPlayer := by
  rw [SamePlayer, stopAudioPlayer]
  split
  · split <;> exact ⟨rfl, rfl, rfl⟩
  · exact ⟨rfl, rfl, rfl⟩

theorem samePlayer_stopAudioRecorder (a : AudioSync S) : SamePlayer a a.stopAudioRecorder := by
  rw [SamePlayer, stopAudioRecorder]
  split
  · split <;> exact ⟨rfl, rfl, rfl⟩
  · exact ⟨rfl, rfl, rfl⟩

theorem samePlayer_processCommand (comesUp : Bool) (cmd : Command) (a : AudioSync S) :
    SamePlayer a (after (processCommand comesUp cmd a)) := by
  cases cmd with
  | startPlayer =>
    simp only [processCommand, startAudioPlayer]
    split
    · exact ⟨rfl, rfl, rfl⟩
    · split <;> exact ⟨rfl, rfl, rfl⟩
  | stopPlayer => exact samePlayer_stopAudioPlayer a
  | startRecorder =>
    simp only [processCommand, startAudioRecorder]
    split
    · exact ⟨rfl, rfl, rfl⟩
    · split <;> exact ⟨rfl, rfl, rfl⟩
  | stopRecorder => exact samePlayer_stopAudioRecorder a
  | default => exact ⟨rfl, rfl, rfl⟩

theorem samePlayer_processNext (comesUp : Bool) (a : AudioSync S) :
    SamePlayer a (after (processNext comesUp a)) := by
  rw [processNext]
  split
  · exact ⟨rfl, rfl, rfl⟩
  · exact samePlayer_processCommand comesUp _ _

theorem processRecoderData_player [Zero S] (captured : List S) (a : AudioSync S)
    (h : a.mOutputFrameBufferQueue.Counted) :
    SamePlayer a (a.processRecoderData captured) ∧
      (a.processRecoderData captured).mOutputFrameBufferQueue.Counted := by
  rw [processRecoderData]
  split
  · dsimp only
    split
    · split
      · exact ⟨⟨rfl, rfl, rfl⟩, h⟩
      · exact ⟨⟨rfl, rfl, rfl⟩, h.offerCustom _⟩
    · exact ⟨⟨rfl, rfl, rfl⟩, h⟩
  · exact ⟨⟨rfl, rfl, rfl⟩, h⟩

theorem readDataFromRecorder_player (h : a.mOutputFrameBufferQueue.Counted) :
    SamePlayer a a.readDataFromRecorder.2 ∧
      a.readDataFromRecorder.2.mOutputFrameBufferQueue.Counted := by
  rw [readDataFromRecorder]
  obtain ⟨-, hPoll⟩ | ⟨b, bs, -, hPoll⟩ := h.pollCustom_cases
  · rw [hPoll]
    exact ⟨⟨rfl, rfl, rfl⟩, h⟩
  · rw [hPoll]
    exact ⟨⟨rfl, rfl, rfl⟩, rfl⟩

theorem finish_player (a : AudioSync S) :
    a.finish.played = a.played ∧ a.finish.ended = true ∧
      a.finish.mInputFrameBufferQueue = a.mInputFrameBufferQueue.reset.clear ∧
      a.finish.mOutputFrameBufferQueue = a.mOutputFrameBufferQueue.reset.clear := by
  obtain ⟨hInput, hPlayed, hOver⟩ := (samePlayer_stopAudioPlayer { a with
    mCommandQueue := []
    mInputFrameBufferQueue := a.mInputFrameBufferQueue.reset.clear
    mOutputFrameBufferQueue := a.mOutputFrameBufferQueue.reset.clear
    ended := true }).trans (samePlayer_stopAudioRecorder _)
  refine ⟨hPlayed, hOver, hInput, ?_⟩
  rw [finish, output_stopAudioRecorder, output_stopAudioPlayer]

theorem iterate_running [Zero S] (captured : List S) (hEnded : a.ended = false)
    (hInterrupted : a.interrupted = false) :
    ∃ a', processNext true a = .ok a' ∧
      a.iterate ⟨true, captured⟩ = a'.processPlayerData.processRecoderData captured := by
  have hNext : ∃ a', processNext true a = .ok a' := by
    rw [processNext]
    split
    · exact ⟨a, rfl⟩
    · obtain ⟨a', hOk, -⟩ := processCommand_up _ _
      exact ⟨a', hOk⟩
  obtain ⟨a', hOk⟩ := hNext
  refine ⟨a', hOk, ?_⟩
  simp only [iterate, hEnded, hInterrupted, hOk, Bool.false_eq_true, if_false]

/-- What is polled is played if a track is active, and leaves the queue either way. -/
theorem processPlayerData_polled (h : a.mInputFrameBufferQueue.Counted) :
    (a.mInputFrameBufferQueue.queue = [] ∧ a.mInputFrameBufferQueue.pollCustom.1 = none ∧
      a.processPlayerData = a) ∨
    ∃ b bs, a.mInputFrameBufferQueue.queue = b :: bs ∧
      a.mInputFrameBufferQueue.pollCustom.1 = some b ∧
      a.processPlayerData = { a with
        mInputFrameBufferQueue :=
          { a.mInputFrameBufferQueue with queue := bs, mCount := bs.length }
        played := a.played ++ if active a.mAudioTrack then b.mBufferExt.toList else [] } := by
  obtain ⟨hEmpty, hPoll⟩ | ⟨b, bs, hQueue, hPoll⟩ := h.pollCustom_cases
  · refine Or.inl ⟨hEmpty, by rw [hPoll], ?_⟩
    rw [processPlayerData, hPoll]
  · refine Or.inr ⟨b, bs, hQueue, by rw [hPoll], ?_⟩
    rw [processPlayerData, hPoll]
    obtain ⟨buffer⟩ := b
    cases active a.mAudioTrack with
    | false =>
      rw [if_neg Bool.false_ne_true, List.append_nil]
      rfl
    | true =>
      rw [if_pos rfl]
      cases buffer with
      | none =>
        rw [Option.toList_none, List.append_nil]
        rfl
      | some frame => rfl

end Turn

theorem inv_start : Inv (start : Playback S) where
  input_counted := rfl
  output_counted := rfl
  played := rfl
  polled := List.prefix_refl _
  accepted _ hFrame := absurd hFrame List.not_mem_nil
  none_lost _ := rfl
  mDatasize := rfl

section Runs

variable {s s' : Playback S}

theorem Inv.samePlayer (h : Inv s) {a : AudioSync S} (hSame : SamePlayer s.audio a)
    (hOutput : a.mOutputFrameBufferQueue.Counted) : Inv { s with audio := a } := by
  obtain ⟨hInput, hPlayed, hOver⟩ := hSame
  constructor
  case toLossless =>
    constructor
    case input_counted => exact hInput ▸ h.input_counted
    case output_counted => exact hOutput
    case played => rw [hPlayed]; exact h.played
    case polled => exact h.polled
    case accepted => exact h.accepted
    case none_lost => rw [hOver, waiting, hInput]; exact h.none_lost
  case mDatasize => exact hInput ▸ h.mDatasize

theorem Inv.finish (h : Inv s) : Inv { s with audio := s.audio.finish } := by
  obtain ⟨hPlayed, hOver, hInput, hOutput⟩ := finish_player s.audio
  constructor
  case toLossless =>
    constructor
    case input_counted => rw [hInput]; rfl
    case output_counted => rw [hOutput]; rfl
    case played => rw [hPlayed]; exact h.played
    case polled => exact h.polled
    case accepted => exact h.accepted
    case none_lost => intro hEnded; rw [hOver] at hEnded; cases hEnded
  case mDatasize => rw [hInput]; exact h.mDatasize

/-- The frame at the head of the queue is polled, and played if a track is active. -/
theorem Inv.framePolled (h : Inv s) (hEnded : s.audio.ended = false) {a : AudioSync S}
    {b : BufferDataExt S} {bs : List (BufferDataExt S)} {onTrack : Bool}
    (hFull : s.audio.mInputFrameBufferQueue.queue = b :: bs)
    (hInput : a.mInputFrameBufferQueue =
      { s.audio.mInputFrameBufferQueue with queue := bs, mCount := bs.length })
    (hPlayed : a.played = s.audio.played ++ if onTrack then b.mBufferExt.toList else [])
    (hOutput : a.mOutputFrameBufferQueue.Counted) :
    Inv { s with audio := a, polled := s.polled ++ [(b.mBufferExt, onTrack)] } := by
  have hWaiting := h.none_lost hEnded
  rw [waiting, hFull, List.map_cons] at hWaiting
  -- what waits was accepted, so it is an array
  obtain ⟨frame, hFrame⟩ : ∃ frame, b.mBufferExt = some frame := by
    have hMem : b.mBufferExt ∈ s.accepted.map some := by
      rw [hWaiting]
      exact List.mem_append_right _ List.mem_cons_self
    obtain ⟨frame, -, hEq⟩ := List.mem_map.mp hMem
    exact ⟨frame, hEq.symm⟩
  have hLeft : s.accepted.map some =
      (s.polled ++ [(b.mBufferExt, onTrack)]).map Prod.fst ++ bs.map BufferDataExt.mBufferExt := by
    rw [hWaiting, List.map_append, List.append_assoc]
    rfl
  constructor
  case toLossless =>
    constructor
    case input_counted => rw [hInput]; rfl
    case output_counted => exact hOutput
    case played =>
      dsimp only
      rw [hPlayed, hFrame, List.map_append, h.played, List.filter_append, List.map_append]
      cases onTrack <;> rfl
    case polled => exact ⟨_, hLeft.symm⟩
    case accepted => exact h.accepted
    case none_lost =>
      intro _
      rw [waiting, hInput]
      exact hLeft
  case mDatasize => rw [hInput, ← h.mDatasize]

variable [Zero S]

theorem Inv.iterate (h : Inv s) (captured : List S) :
    Inv { s with
      audio := s.audio.iterate ⟨true, captured⟩
      polled := s.polled ++ (polledNext s.audio).toList } := by
  cases hEnded : s.audio.ended with
  | true =>
    have hSame : s.audio.iterate ⟨true, captured⟩ = s.audio := by rw [AudioSync.iterate, hEnded]; rfl
    have hNone : polledNext s.audio = none := by rw [polledNext, hEnded]; rfl
    rw [hSame, hNone, Option.toList_none, List.append_nil]
    exact h
  | false =>
    cases hInterrupted : s.audio.interrupted with
    | true =>
      have hFinish : s.audio.iterate ⟨true, captured⟩ = s.audio.finish := by
        rw [AudioSync.iterate, hEnded, hInterrupted]
        rfl
      have hNone : polledNext s.audio = none := by rw [polledNext, hEnded, hInterrupted]; rfl
      rw [hFinish, hNone, Option.toList_none, List.append_nil]
      exact h.finish
    | false =>
      obtain ⟨a, hOk, hIterate⟩ := iterate_running captured hEnded hInterrupted
      have hNext := samePlayer_processNext true s.audio
      have hOutput := output_processNext true s.audio
      rw [hOk, after] at hNext hOutput
      have hCounted : a.mOutputFrameBufferQueue.Counted := hOutput ▸ h.output_counted
      have hPolledNext : polledNext s.audio = a.mInputFrameBufferQueue.pollCustom.1.map
          fun bd => (bd.mBufferExt, active a.mAudioTrack) := by
        simp only [polledNext, hEnded, hInterrupted, hOk, Bool.or_false, Bool.false_eq_true,
          if_false]
      have hCaptured := processRecoderData_player captured a.processPlayerData
      rw [hIterate, hPolledNext]
      obtain ⟨-, hPoll, hTurn⟩ | ⟨b, bs, hFull, hPoll, hTurn⟩ :=
        processPlayerData_polled (hNext.1 ▸ h.input_counted)
      · rw [hTurn] at hCaptured ⊢
        obtain ⟨hSame, hOutput'⟩ := hCaptured hCounted
        rw [hPoll, Option.map_none, Option.toList_none, List.append_nil]
        exact h.samePlayer (hNext.trans hSame) hOutput'
      · rw [hTurn] at hCaptured ⊢
        obtain ⟨⟨hInput', hPlayed', -⟩, hOutput'⟩ := hCaptured hCounted
        obtain ⟨hInput, hPlayed, -⟩ := hNext
        rw [hPoll, Option.map_some, Option.toList_some]
        exact h.framePolled hEnded (hInput ▸ hFull) (hInput'.trans (by rw [hInput]))
          (hPlayed'.trans (by rw [hPlayed])) hOutput'

theorem Inv.writeDataToPlayer (h : Inv s) (data : List S) :
    Inv { s with
      audio := s.audio.writeDataToPlayer data
      accepted := if data.length = frameSizeAudio then s.accepted ++ [data] else s.accepted } := by
  by_cases hLen : data.length = frameSizeAudio
  · have hWrite : s.audio.writeDataToPlayer data = { s.audio with
        mInputFrameBufferQueue := s.audio.mInputFrameBufferQueue.offerCustom ⟨some data⟩ } := by
      rw [AudioSync.writeDataToPlayer, if_pos hLen]
      simp only [FrameBufferQueueNew.generateBufferData, BufferDataExt.new, h.mDatasize]
      rfl
    rw [hWrite, if_pos hLen]
    constructor
    case toLossless =>
      constructor
      case input_counted => exact h.input_counted.offerCustom _
      case output_counted => exact h.output_counted
      case played => exact h.played
      case polled =>
        dsimp only
        rw [List.map_append]
        exact h.polled.trans (List.prefix_append _ _)
      case accepted =>
        intro frame hFrame
        rcases List.mem_append.mp hFrame with hFrame | hFrame
        · exact h.accepted frame hFrame
        · rw [List.mem_singleton.mp hFrame, hLen]
      case none_lost =>
        intro hEnded
        dsimp only [waiting, FrameBufferQueueNew.offerCustom]
        rw [List.map_append, List.map_append, h.none_lost hEnded, List.append_assoc]
        rfl
    case mDatasize => exact h.mDatasize
  · have hSame : s.audio.writeDataToPlayer data = s.audio := by
      rw [AudioSync.writeDataToPlayer, if_neg hLen]
    rw [hSame, if_neg hLen]
    exact h

theorem Inv.step {e : Step S} (h : Inv s) (hStep : step s e = some s') : Inv s' := by
  cases e with
  | allocate data =>
    cases hStep
    exact { h with }
  | mutate k data =>
    rw [AudioPlayback.step] at hStep
    split at hStep
    · split at hStep
      · cases hStep
        exact { h with }
      · cases hStep
    · cases hStep
  | writeDataToPlayer k =>
    obtain ⟨data, -, rfl⟩ := Option.map_eq_some_iff.mp hStep
    exact h.writeDataToPlayer data
  | command cmd =>
    cases hStep
    exact { h with }
  | iterate captured =>
    cases hStep
    exact h.iterate captured
  | readDataFromRecorder =>
    cases hStep
    obtain ⟨hPlayer, hCounted⟩ := readDataFromRecorder_player h.output_counted
    exact h.samePlayer hPlayer hCounted
  | interrupt =>
    cases hStep
    exact { h with }

end Runs

/-- However the writes, the commands and the turns of the loop follow each other. -/
theorem always_lossless [Zero S] (steps : List (Step S)) :
    Transition.Always step Lossless (start : Playback S) steps := by
  apply Transition.always_of_invariant _ _ inv_start
  · intro s e s' hInv hStep
    exact Inv.step hInv hStep
  · intro s hInv
    exact hInv.toLossless

end LocalCall.Utils.AudioPlayback
