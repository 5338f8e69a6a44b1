import LocalCall.Java.Text
import LocalCall.Jni.CustomSpeex
import LocalCall.Jni.InetAddr
import LocalCall.Jni.Jrtp

/-! # The native methods of Rtp

The field `mJavaRtp` holds a `JavaRtp` or nothing; a `JavaRtp` owns a session and a codec, which
its constructor allocates and nothing else changes. A call returns its result, or what it threw,
together with the object as the call left it.
-/
namespace LocalCall.Jni
open Java
set_option autoImplicit false

variable {S K : Type}

/-- How a call can fail to return. `undefinedBehaviour` marks a native call that wrote or read
outside a buffer: nothing can be said about what follows it. -/
inductive Thrown where
  | runtimeException (message : String)
  | nullPointerException
  | undefinedBehaviour
  deriving DecidableEq

structure JavaRtp (K : Type) where
  mIsOpen : Bool
  mFrameSize : Nat
  mPortBase : BitVec 16
  mMyRTPSession : RTPSession
  mSpeexRtp : CustomSpeex K
  deriving DecidableEq

def JavaRtp.new (state : K) : JavaRtp K := ⟨false, 0, 0, .new, .new state⟩

structure Rtp (K : Type) where
  mJavaRtp : Option (JavaRtp K)
  deriving DecidableEq

/-- The fifty-byte buffer of `addRtpDestinationIp`, and the bytes of the C string that the copy
loop leaves in it: the units of the string cut to a byte, up to the first zero byte. -/
def bufSize : Nat := 50

def copyIp (ip : Text) : Except Thrown (List Nat) :=
  let bytes := (utf16 ip).map fun unit => unit % 256
  if bufSize < bytes.length then .error .undefinedBehaviour
  else if bytes.length = bufSize ∧ 0 ∉ bytes then .error .undefinedBehaviour
  else .ok (bytes.takeWhile fun b => b ≠ 0)

theorem copyIp_error {ip : Text} {e : Thrown} (h : copyIp ip = .error e) :
    e = .undefinedBehaviour := by
  unfold copyIp at h
  dsimp only at h
  split at h
  · exact (Except.error.inj h).symm
  · split at h
    · exact (Except.error.inj h).symm
    · cases h

namespace Rtp

def new (state : K) : Rtp K := ⟨some (.new state)⟩

def nativeRease (_r : Rtp K) : Rtp K := ⟨none⟩

def payloadType : Nat := 101

def openRtp (port : Int) (outcome : CreateOutcome) (r : Rtp K) : Except Thrown Bool × Rtp K :=
  match r.mJavaRtp with
  | none => (.error (.runtimeException "openRtp ERROR jrtp == NULL"), r)
  | some j =>
    if j.mIsOpen then (.error (.runtimeException "openRtp ERROR has opened"), r)
    else
      let j := { j with mPortBase := BitVec.ofInt 16 port }
      let framesize := j.mSpeexRtp.getFrameSize
      if framesize = 0 then
        (.error (.runtimeException "openRtp ERROR framesize == 0"), ⟨some j⟩)
      else
        let j := { j with mFrameSize := framesize }
        match j.mMyRTPSession.create outcome with
        | .error _ => (.ok false, ⟨some j⟩)
        | .ok s =>
          match s.setDefaultPayloadType (BitVec.ofNat 8 payloadType) with
          | .error _ => (.ok false, ⟨some { j with mMyRTPSession := s }⟩)
          | .ok s =>
            match s.setDefaultMark false with
            | .error _ => (.ok false, ⟨some { j with mMyRTPSession := s }⟩)
            | .ok s =>
              match s.setDefaultTimestampIncrement 160 with
              | .error _ => (.ok false, ⟨some { j with mMyRTPSession := s }⟩)
              | .ok s => (.ok true, ⟨some { j with mMyRTPSession := s, mIsOpen := true }⟩)

def closeRtp (r : Rtp K) : Except Thrown Unit × Rtp K :=
  match r.mJavaRtp with
  | none => (.error (.runtimeException "closeRtp ERROR jrtp == NULL"), r)
  | some j =>
    if j.mIsOpen then
      (.ok (), ⟨some { j with mMyRTPSession := j.mMyRTPSession.byeDestroy, mIsOpen := false }⟩)
    else (.error (.runtimeException "closeRtp ERROR has opened"), r)

def addRtpDestinationIp (ip : Text) (r : Rtp K) : Except Thrown Unit × Rtp K :=
  match r.mJavaRtp with
  | none => (.error (.runtimeException "addRtpDestinationIp ERROR jrtp == NULL"), r)
  | some j =>
    match copyIp ip with
    | .error e => (.error e, r)
    | .ok cstring =>
      let addr : RTPIPv4Address := ⟨inetAddr cstring, j.mPortBase⟩
      let s := j.mMyRTPSession
      (.ok (), ⟨some { j with mMyRTPSession := s.checked (s.addDestination addr) }⟩)

/-- `write`: the two branches move the timestamp, one through the argument of `SendPacket` and
one through the default increment. -/
def write (codec : SpeexCodec S K) (data : List S) (r : Rtp K) : Except Thrown Unit × Rtp K :=
  match r.mJavaRtp with
  | none => (.error (.runtimeException "write ERROR jrtp == NULL"), r)
  | some j =>
    let framesize := j.mSpeexRtp.getFrameSize
    if data.length ≠ framesize then (.ok (), r)
    else
      let (speex, bufout, lenth) := j.mSpeexRtp.encode codec data framesize
      let s := j.mMyRTPSession
      if lenth = -1 then
        (.ok (), ⟨some { j with
          mSpeexRtp := speex
          mMyRTPSession := s.checked s.incrementTimestampDefault }⟩)
      else
        (.ok (), ⟨some { j with
          mSpeexRtp := speex
          mMyRTPSession := s.checked
            (s.sendPacket (bufout.take lenth.toNat) payloadType false 8000) }⟩)

end Rtp
end LocalCall.Jni
