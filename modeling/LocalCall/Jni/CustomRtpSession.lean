import LocalCall.Jni.Rtp

/-! # The packets that the poll thread receives

`ProcessRTPPacket` hands the payload of a packet to the codec and the samples to the Java
callback. A pointer into the packet is a function from offsets to bytes: the payload lies at its
start, and what follows it is whatever else lies in memory.
-/
namespace LocalCall.Jni
open Java
set_option autoImplicit false

variable {S K : Type}

/-- What `buffer[i]` reads, when the payload is followed in memory by the bytes of `after`. -/
def payloadData (payload : List UInt8) (after : Nat → UInt8) (i : Nat) : UInt8 :=
  if h : i < payload.length then payload[i] else after (i - payload.length)

namespace JavaRtp

/-- The arguments that `callBackFromNative` is called with. Neither the return code nor the size
that the caller passes is used. -/
def callJavaCallBack (_returncode : Int) (buffer : List S) (_size : Nat) (j : JavaRtp K) :
    List S × Nat :=
  (buffer.take j.mSpeexRtp.getFrameSize, j.mSpeexRtp.getFrameSize)

/-- `ProcessRTPPacket`, and what the callback receives. `buffer11` holds what lay on the stack;
the length of the payload goes to the log only. -/
def processRTPPacket (codec : SpeexCodec S K) (buffer : Nat → UInt8) (buffer11 : List S)
    (j : JavaRtp K) : JavaRtp K × Int × Option (List S × Nat) :=
  let (speex, buffer11, ree) := j.mSpeexRtp.decode codec buffer buffer11 j.mSpeexRtp.getFrameSize
  let j := { j with mSpeexRtp := speex }
  (j, ree, some (j.callJavaCallBack 0 buffer11 j.mSpeexRtp.getFrameSize))

end JavaRtp

inductive NativeCall (S : Type) where
  | openRtp (port : Int) (outcome : CreateOutcome)
  | closeRtp
  | addRtpDestinationIp (ip : Text)
  | write (data : List S)
  | packet (payload : List UInt8) (after : Nat → UInt8) (buffer11 : List S)

namespace Rtp

def native (codec : SpeexCodec S K) (r : Rtp K) : NativeCall S → Rtp K
  | .openRtp port outcome => (r.openRtp port outcome).2
  | .closeRtp => r.closeRtp.2
  | .addRtpDestinationIp ip => (r.addRtpDestinationIp ip).2
  | .write data => (r.write codec data).2
  | .packet payload after buffer11 =>
    ⟨r.mJavaRtp.map fun j => (j.processRTPPacket codec (payloadData payload after) buffer11).1⟩

def nativeRun (codec : SpeexCodec S K) (r : Rtp K) (calls : List (NativeCall S)) : Rtp K :=
  calls.foldl (native codec) r

end Rtp
end LocalCall.Jni
