import LocalCall.Data.FrameBufferQueueNew
import LocalCall.Library.Replica

/-! # The audio thread

`AudioSync` owns the track and the recorder, and one thread runs its loop: take a command, play a
frame, capture a frame. The other threads only put commands and frames into its queues. What the
devices answer is an input of each iteration: whether a device that is constructed comes up
initialised, and the samples that a read of the microphone returns (none for an error code).
-/
namespace LocalCall.Utils
open Data
set_option autoImplicit false

inductive Command where
  | startPlayer | stopPlayer | startRecorder | stopRecorder | default
  deriving DecidableEq

structure Device where
  number : Nat
  initialized : Bool
  deriving DecidableEq

/-- Not null and not in `STATE_UNINITIALIZED`: the test in front of every use of a device. -/
def active (device : Option Device) : Bool := device.any fun d => d.initialized

def frameSizeAudio : Nat := 160

/-- The fields of the class, then what the devices have been through: how many were constructed,
which were released, the frames written to a track, and how the thread stands. -/
structure AudioSync (S : Type) where
  mAudioTrack : Option Device
  mAudioRecord : Option Device
  mCommandQueue : List Command
  mInputFrameBufferQueue : FrameBufferQueueNew S
  mOutputFrameBufferQueue : FrameBufferQueueNew S
  constructed : Nat
  released : List Nat
  played : List (List S)
  interrupted : Bool
  ended : Bool
  deriving DecidableEq

structure AudioInput (S : Type) where
  comesUp : Bool
  captured : List S

namespace AudioSync
variable {S : Type}

def new : AudioSync S where
  mAudioTrack := none
  mAudioRecord := none
  mCommandQueue := []
  mInputFrameBufferQueue := .new 100 frameSizeAudio
  mOutputFrameBufferQueue := .new 100 frameSizeAudio
  constructed := 0
  released := []
  played := []
  interrupted := false
  ended := false

def offer (cmd : Command) (a : AudioSync S) : AudioSync S :=
  { a with mCommandQueue := a.mCommandQueue ++ [cmd] }

def startPlayer : AudioSync S → AudioSync S := offer .startPlayer
def stopPlayer : AudioSync S → AudioSync S := offer .stopPlayer
def startRecorder : AudioSync S → AudioSync S := offer .startRecorder
def stopRecorder : AudioSync S → AudioSync S := offer .stopRecorder

def interrupt (a : AudioSync S) : AudioSync S := { a with interrupted := true }

def writeDataToPlayer [Zero S] (data : List S) (a : AudioSync S) : AudioSync S :=
  if data.length = frameSizeAudio then
    let bd : BufferDataExt S := a.mInputFrameBufferQueue.generateBufferData
    match bd.mBufferExt with
    | some _ =>
      { a with mInputFrameBufferQueue := a.mInputFrameBufferQueue.offerCustom ⟨some data⟩ }
    | none =>
      { a with mInputFrameBufferQueue := a.mInputFrameBufferQueue.recycleBufferData bd }
  else a

def readDataFromRecorder (a : AudioSync S) : Option (List S) × AudioSync S :=
  match a.mOutputFrameBufferQueue.pollCustom with
  | (none, q) => (none, { a with mOutputFrameBufferQueue := q })
  | (some bd, q) =>
    (bd.mBufferExt.map (List.take frameSizeAudio),
      { a with mOutputFrameBufferQueue := q.recycleBufferData bd })

/-- `play` throws on a track that did not come up; the field keeps that track. -/
def startAudioPlayer (comesUp : Bool) (a : AudioSync S) : Except (AudioSync S) (AudioSync S) :=
  if active a.mAudioTrack then .ok a
  else
    let a := { a with
      mAudioTrack := some ⟨a.constructed, comesUp⟩
      constructed := a.constructed + 1 }
    if comesUp then .ok a else .error a

def stopAudioPlayer (a : AudioSync S) : AudioSync S :=
  match a.mAudioTrack with
  | some d =>
    if d.initialized then
      { a with mAudioTrack := none, released := a.released ++ [d.number] }
    else a
  | none => a

def startAudioRecorder (comesUp : Bool) (a : AudioSync S) : Except (AudioSync S) (AudioSync S) :=
  if active a.mAudioRecord then .ok a
  else
    let a := { a with
      mAudioRecord := some ⟨a.constructed, comesUp⟩
      constructed := a.constructed + 1 }
    if comesUp then .ok a else .error a

def stopAudioRecorder (a : AudioSync S) : AudioSync S :=
  match a.mAudioRecord with
  | some d =>
    if d.initialized then
      { a with mAudioRecord := none, released := a.released ++ [d.number] }
    else a
  | none => a

def processCommand (comesUp : Bool) (cmd : Command) (a : AudioSync S) :
    Except (AudioSync S) (AudioSync S) :=
  match cmd with
  | .startPlayer => startAudioPlayer comesUp a
  | .stopPlayer => .ok a.stopAudioPlayer
  | .startRecorder => startAudioRecorder comesUp a
  | .stopRecorder => .ok a.stopAudioRecorder
  | .default => .ok a

def processPlayerData (a : AudioSync S) : AudioSync S :=
  match a.mInputFrameBufferQueue.pollCustom with
  | (none, q) => { a with mInputFrameBufferQueue := q }
  | (some bd, q) =>
    match active a.mAudioTrack, bd.mBufferExt with
    | true, some frame =>
      { a with mInputFrameBufferQueue := q.recycleBufferData bd, played := a.played ++ [frame] }
    | _, _ => { a with mInputFrameBufferQueue := q.recycleBufferData bd }

def readInto (captured buffer : List S) : List S :=
  captured.take buffer.length ++ buffer.drop captured.length

def processRecoderData [Zero S] (captured : List S) (a : AudioSync S) : AudioSync S :=
  if active a.mAudioRecord then
    let bd : BufferDataExt S := a.mOutputFrameBufferQueue.generateBufferData
    match bd.mBufferExt with
    | some buffer =>
      if captured.isEmpty then
        { a with mOutputFrameBufferQueue := a.mOutputFrameBufferQueue.recycleBufferData bd }
      else
        { a with
          mOutputFrameBufferQueue :=
            a.mOutputFrameBufferQueue.offerCustom ⟨some (readInto captured buffer)⟩ }
    | none => { a with mOutputFrameBufferQueue := a.mOutputFrameBufferQueue.recycleBufferData bd }
  else a

def finish (a : AudioSync S) : AudioSync S :=
  let a := { a with
    mCommandQueue := []
    mInputFrameBufferQueue := a.mInputFrameBufferQueue.reset.clear
    mOutputFrameBufferQueue := a.mOutputFrameBufferQueue.reset.clear
    ended := true }
  a.stopAudioPlayer.stopAudioRecorder

def processNext (comesUp : Bool) (a : AudioSync S) : Except (AudioSync S) (AudioSync S) :=
  match a.mCommandQueue with
  | [] => .ok a
  | cmd :: rest => processCommand comesUp cmd { a with mCommandQueue := rest }

/-- One turn of the loop in `run`, the test of the interrupt flag included; an exception of a
device leads to the `finally` block. -/
def iterate [Zero S] (input : AudioInput S) (a : AudioSync S) : AudioSync S :=
  if a.ended then a
  else if a.interrupted then finish a
  else
    match processNext input.comesUp a with
    | .error a => finish a
    | .ok a => processRecoderData input.captured a.processPlayerData

end AudioSync
end LocalCall.Utils
