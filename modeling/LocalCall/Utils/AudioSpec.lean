import LocalCall.Utils.AudioSync

/-! # What the loop of the audio thread does to the devices and to the captured frames

While the devices come up, a command has the same effect whenever it is processed, so the devices
after draining the queue are settled as soon as the commands are in it. The frames waiting for the
pump threads only ever hold samples that were captured, or the zeros of a fresh buffer.
-/
namespace LocalCall.Utils
open Data Replica
set_option autoImplicit false

namespace AudioSync
variable {S : Type}

section Devices

structure Devices where
  recorder : Bool
  player : Bool
  deriving DecidableEq

def devices (a : AudioSync S) : Devices := ⟨active a.mAudioRecord, active a.mAudioTrack⟩

/-- What a command does to devices that come up when they are constructed. -/
def switch (d : Devices) : Command → Devices
  | .startPlayer => { d with player := true }
  | .stopPlayer => { d with player := false }
  | .startRecorder => { d with recorder := true }
  | .stopRecorder => { d with recorder := false }
  | .default => d

def drained (a : AudioSync S) : Devices := settled switch a.devices a.mCommandQueue

@[simp] theorem drained_offer (cmd : Command) (a : AudioSync S) :
    (a.offer cmd).drained = switch a.drained cmd :=
  settled_concat a.devices a.mCommandQueue cmd

@[simp] theorem drained_startPlayer (a : AudioSync S) :
    a.startPlayer.drained = { a.drained with player := true } := drained_offer _ _

@[simp] theorem drained_stopPlayer (a : AudioSync S) :
    a.stopPlayer.drained = { a.drained with player := false } := drained_offer _ _

@[simp] theorem drained_startRecorder (a : AudioSync S) :
    a.startRecorder.drained = { a.drained with recorder := true } := drained_offer _ _

@[simp] theorem drained_stopRecorder (a : AudioSync S) :
    a.stopRecorder.drained = { a.drained with recorder := false } := drained_offer _ _

def Running (a : AudioSync S) : Prop := a.ended = false ∧ a.interrupted = false

theorem devices_stopAudioPlayer (a : AudioSync S) :
    a.stopAudioPlayer.devices = { a.devices with player := false } := by
  unfold stopAudioPlayer devices
  cases hTrack : a.mAudioTrack with
  | none => simp [active, hTrack]
  | some d => cases hUp : d.initialized <;> simp [active, hTrack, hUp]

theorem devices_stopAudioRecorder (a : AudioSync S) :
    a.stopAudioRecorder.devices = { a.devices with recorder := false } := by
  unfold stopAudioRecorder devices
  cases hRecord : a.mAudioRecord with
  | none => simp [active, hRecord]
  | some d => cases hUp : d.initialized <;> simp [active, hRecord, hUp]

theorem stopAudioPlayer_frame (a : AudioSync S) :
    a.stopAudioPlayer.mCommandQueue = a.mCommandQueue ∧
      a.stopAudioPlayer.ended = a.ended ∧ a.stopAudioPlayer.interrupted = a.interrupted := by
  rw [stopAudioPlayer]
  split
  · split <;> exact ⟨rfl, rfl, rfl⟩
  · exact ⟨rfl, rfl, rfl⟩

theorem stopAudioRecorder_frame (a : AudioSync S) :
    a.stopAudioRecorder.mCommandQueue = a.mCommandQueue ∧
      a.stopAudioRecorder.ended = a.ended ∧ a.stopAudioRecorder.interrupted = a.interrupted := by
  rw [stopAudioRecorder]
  split
  · split <;> exact ⟨rfl, rfl, rfl⟩
  · exact ⟨rfl, rfl, rfl⟩

theorem processCommand_up (cmd : Command) (a : AudioSync S) :
    ∃ a', processCommand true cmd a = .ok a' ∧ a'.devices = switch a.devices cmd ∧
      a'.mCommandQueue = a.mCommandQueue ∧ a'.ended = a.ended ∧ a'.interrupted = a.interrupted := by
  cases cmd with
  | startPlayer =>
    simp only [processCommand, startAudioPlayer]
    split
    · rename_i hActive
      exact ⟨a, rfl, by simp only [devices, switch, hActive], rfl, rfl, rfl⟩
    · exact ⟨_, rfl, rfl, rfl, rfl, rfl⟩
  | stopPlayer => exact ⟨_, rfl, devices_stopAudioPlayer a, stopAudioPlayer_frame a⟩
  | startRecorder =>
    simp only [processCommand, startAudioRecorder]
    split
    · rename_i hActive
      exact ⟨a, rfl, by simp only [devices, switch, hActive], rfl, rfl, rfl⟩
    · exact ⟨_, rfl, rfl, rfl, rfl, rfl⟩
  | stopRecorder => exact ⟨_, rfl, devices_stopAudioRecorder a, stopAudioRecorder_frame a⟩
  | default => exact ⟨a, rfl, rfl, rfl, rfl, rfl⟩

theorem processPlayerData_frame (a : AudioSync S) :
    a.processPlayerData.devices = a.devices ∧
      a.processPlayerData.mCommandQueue = a.mCommandQueue ∧
      a.processPlayerData.ended = a.ended ∧ a.processPlayerData.interrupted = a.interrupted := by
  rw [processPlayerData]
  split
  · exact ⟨rfl, rfl, rfl, rfl⟩
  · split <;> exact ⟨rfl, rfl, rfl, rfl⟩

theorem processRecoderData_frame [Zero S] (captured : List S) (a : AudioSync S) :
    (a.processRecoderData captured).devices = a.devices ∧
      (a.processRecoderData captured).mCommandQueue = a.mCommandQueue ∧
      (a.processRecoderData captured).ended = a.ended ∧
      (a.processRecoderData captured).interrupted = a.interrupted := by
  rw [processRecoderData]
  split
  · dsimp only
    split
    · split <;> exact ⟨rfl, rfl, rfl, rfl⟩
    · exact ⟨rfl, rfl, rfl, rfl⟩
  · exact ⟨rfl, rfl, rfl, rfl⟩

theorem readDataFromRecorder_frame (a : AudioSync S) :
    a.readDataFromRecorder.2.drained = a.drained ∧
      (a.Running → a.readDataFromRecorder.2.Running) := by
  rw [readDataFromRecorder]
  split <;> exact ⟨rfl, id⟩

theorem writeDataToPlayer_frame [Zero S] (data : List S) (a : AudioSync S) :
    (a.writeDataToPlayer data).drained = a.drained ∧
      (a.Running → (a.writeDataToPlayer data).Running) := by
  rw [writeDataToPlayer]
  split
  · dsimp only
    split <;> exact ⟨rfl, id⟩
  · exact ⟨rfl, id⟩

theorem drained_iterate [Zero S] (input : AudioInput S) (a : AudioSync S)
    (hUp : input.comesUp = true) (hRunning : a.Running) :
    (a.iterate input).drained = a.drained ∧
      (a.iterate input).mCommandQueue = a.mCommandQueue.tail ∧ (a.iterate input).Running := by
  obtain ⟨hEnded, hInterrupted⟩ := hRunning
  have hNext : ∃ a', processNext true a = .ok a' ∧ a'.drained = a.drained ∧
      a'.mCommandQueue = a.mCommandQueue.tail ∧ a'.Running := by
    cases hQueue : a.mCommandQueue with
    | nil => exact ⟨a, by rw [processNext, hQueue], rfl, hQueue, hEnded, hInterrupted⟩
    | cons cmd rest =>
      obtain ⟨a', hOk, hDevices, hRest, hE, hI⟩ :=
        processCommand_up cmd { a with mCommandQueue := rest }
      refine ⟨a', by rw [processNext, hQueue]; exact hOk, ?_, hRest, hE.trans hEnded,
        hI.trans hInterrupted⟩
      rw [drained, hRest, hDevices, drained, hQueue]
      rfl
  obtain ⟨a', hOk, hDrained, hTail, hE, hI⟩ := hNext
  have hTurn : a.iterate input = (a'.processPlayerData).processRecoderData input.captured := by
    simp only [iterate, hEnded, hInterrupted, hUp, hOk, Bool.false_eq_true, if_false]
  obtain ⟨hD₁, hQ₁, hE₁, hI₁⟩ := processPlayerData_frame a'
  obtain ⟨hD₂, hQ₂, hE₂, hI₂⟩ := processRecoderData_frame input.captured a'.processPlayerData
  rw [hTurn]
  refine ⟨?_, hQ₂.trans (hQ₁.trans hTail), hE₂.trans (hE₁.trans hE), hI₂.trans (hI₁.trans hI)⟩
  rw [drained, hD₂, hQ₂, hD₁, hQ₁]
  exact hDrained

theorem drained_run [Zero S] (inputs : List (AudioInput S)) (a : AudioSync S)
    (hUp : ∀ input ∈ inputs, input.comesUp = true) (hRunning : a.Running) :
    (inputs.foldl (fun a input => a.iterate input) a).drained = a.drained ∧
      (inputs.foldl (fun a input => a.iterate input) a).mCommandQueue =
        a.mCommandQueue.drop inputs.length := by
  induction inputs generalizing a with
  | nil => exact ⟨rfl, rfl⟩
  | cons input inputs ih =>
    obtain ⟨hSame, hTail, hStill⟩ := drained_iterate input a (hUp input List.mem_cons_self) hRunning
    obtain ⟨hDrained, hDropped⟩ :=
      ih (a.iterate input) (fun i hi => hUp i (List.mem_cons_of_mem input hi)) hStill
    refine ⟨hDrained.trans hSame, hDropped.trans ?_⟩
    rw [hTail, List.length_cons, List.drop_tail]

/-- `drained` is what it says: the devices whenever the loop has run until its queue is empty. -/
theorem drained_eq_iff [Zero S] (a : AudioSync S) (hRunning : a.Running) (d : Devices) :
    a.drained = d ↔ ∀ inputs : List (AudioInput S), (∀ input ∈ inputs, input.comesUp = true) →
      (inputs.foldl (fun a input => a.iterate input) a).mCommandQueue = [] →
      (inputs.foldl (fun a input => a.iterate input) a).devices = d := by
  have hEmpty : ∀ a' : AudioSync S, a'.mCommandQueue = [] → a'.drained = a'.devices := by
    intro a' hNil
    rw [drained, hNil, settled_nil]
  constructor
  · rintro rfl inputs hUp hNil
    rw [← hEmpty _ hNil, (drained_run inputs a hUp hRunning).1]
  · intro h
    have hUp : ∀ input ∈ List.replicate a.mCommandQueue.length (⟨true, []⟩ : AudioInput S),
        input.comesUp = true := by
      intro input hMem
      rw [List.eq_of_mem_replicate hMem]
    obtain ⟨hDrained, hDropped⟩ := drained_run _ a hUp hRunning
    rw [List.length_replicate, List.drop_length] at hDropped
    rw [← hDrained, hEmpty _ hDropped]
    exact h _ hUp hDropped

end Devices

section Frames
variable (p : S → Prop)

/-- The samples waiting for the pump threads all satisfy `p`. -/
def Outputs (a : AudioSync S) : Prop :=
  ∀ bd ∈ a.mOutputFrameBufferQueue.queue, ∀ frame, bd.mBufferExt = some frame → ∀ x ∈ frame, p x

variable {p}

theorem Outputs.congr {a a' : AudioSync S} (h : Outputs p a)
    (hQueue : a'.mOutputFrameBufferQueue = a.mOutputFrameBufferQueue) : Outputs p a' := by
  rw [Outputs, hQueue]
  exact h

theorem Outputs.of_nil {a : AudioSync S} (h : a.mOutputFrameBufferQueue.queue = []) :
    Outputs p a := by
  intro bd hbd
  rw [h] at hbd
  cases hbd

def after : Except (AudioSync S) (AudioSync S) → AudioSync S
  | .ok a => a
  | .error a => a

theorem output_stopAudioPlayer (a : AudioSync S) :
    a.stopAudioPlayer.mOutputFrameBufferQueue = a.mOutputFrameBufferQueue := by
  rw [stopAudioPlayer]
  split
  · split <;> rfl
  · rfl

theorem output_stopAudioRecorder (a : AudioSync S) :
    a.stopAudioRecorder.mOutputFrameBufferQueue = a.mOutputFrameBufferQueue := by
  rw [stopAudioRecorder]
  split
  · split <;> rfl
  · rfl

theorem output_processCommand (comesUp : Bool) (cmd : Command) (a : AudioSync S) :
    (after (processCommand comesUp cmd a)).mOutputFrameBufferQueue = a.mOutputFrameBufferQueue := by
  cases cmd with
  | startPlayer =>
    simp only [processCommand, startAudioPlayer]
    split
    · rfl
    · split <;> rfl
  | stopPlayer => exact output_stopAudioPlayer a
  | startRecorder =>
    simp only [processCommand, startAudioRecorder]
    split
    · rfl
    · split <;> rfl
  | stopRecorder => exact output_stopAudioRecorder a
  | default => rfl

theorem output_processNext (comesUp : Bool) (a : AudioSync S) :
    (after (processNext comesUp a)).mOutputFrameBufferQueue = a.mOutputFrameBufferQueue := by
  rw [processNext]
  split
  · rfl
  · exact output_processCommand comesUp _ _

theorem Outputs.processPlayerData {a : AudioSync S} (h : Outputs p a) :
    Outputs p a.processPlayerData := by
  refine h.congr ?_
  rw [AudioSync.processPlayerData]
  split
  · rfl
  · split <;> rfl

theorem Outputs.finish (a : AudioSync S) : Outputs p a.finish := by
  refine Outputs.of_nil ?_
  rw [AudioSync.finish, output_stopAudioRecorder, output_stopAudioPlayer]
  rfl

theorem readInto_forall {captured buffer : List S} (hCaptured : ∀ x ∈ captured, p x)
    (hBuffer : ∀ x ∈ buffer, p x) : ∀ x ∈ readInto captured buffer, p x := by
  intro x hx
  rcases List.mem_append.mp hx with hx | hx
  · exact hCaptured x (List.mem_of_mem_take hx)
  · exact hBuffer x (List.mem_of_mem_drop hx)

theorem Outputs.processRecoderData [Zero S] {a : AudioSync S} (h : Outputs p a) (hZero : p 0)
    {captured : List S} (hCaptured : ∀ x ∈ captured, p x) :
    Outputs p (a.processRecoderData captured) := by
  rw [AudioSync.processRecoderData]
  split
  · dsimp only
    split
    · rename_i buffer hBuffer
      split
      · exact h
      · have hFresh : ∀ x ∈ buffer, p x := by
          intro x hx
          simp only [FrameBufferQueueNew.generateBufferData, BufferDataExt.new] at hBuffer
          split at hBuffer
          · cases hBuffer
          · cases hBuffer
            rw [List.eq_of_mem_replicate hx]
            exact hZero
        intro bd hbd frame hFrame
        rcases List.mem_append.mp hbd with hbd | hbd
        · exact h bd hbd frame hFrame
        · cases List.mem_singleton.mp hbd
          cases hFrame
          exact readInto_forall hCaptured hFresh
    · exact h
  · exact h

theorem Outputs.iterate [Zero S] {a : AudioSync S} (h : Outputs p a) (hZero : p 0)
    {input : AudioInput S} (hCaptured : ∀ x ∈ input.captured, p x) :
    Outputs p (a.iterate input) := by
  have hNext := output_processNext input.comesUp a
  rw [AudioSync.iterate]
  split
  · exact h
  · split
    · exact Outputs.finish a
    · split
      · exact Outputs.finish _
      · rename_i a' hOk
        rw [hOk] at hNext
        exact ((h.congr hNext).processPlayerData).processRecoderData hZero hCaptured

theorem Outputs.readDataFromRecorder {a : AudioSync S} (h : Outputs p a) :
    Outputs p a.readDataFromRecorder.2 ∧
      ∀ data, a.readDataFromRecorder.1 = some data → ∀ x ∈ data, p x := by
  have hPoll := a.mOutputFrameBufferQueue.mem_of_pollCustom
  rw [AudioSync.readDataFromRecorder]
  generalize a.mOutputFrameBufferQueue.pollCustom = polled at hPoll
  obtain ⟨bd | bd, q⟩ := polled
  · exact ⟨fun bd hbd => h bd (hPoll bd (Or.inr hbd)), fun data hData => by cases hData⟩
  · refine ⟨fun bd' hbd => h bd' (hPoll bd' (Or.inr hbd)), fun data hData x hx => ?_⟩
    obtain ⟨frame, hFrame, rfl⟩ := Option.map_eq_some_iff.mp hData
    exact h bd (hPoll bd (Or.inl rfl)) frame hFrame x (List.mem_of_mem_take hx)

end Frames
end AudioSync
end LocalCall.Utils
