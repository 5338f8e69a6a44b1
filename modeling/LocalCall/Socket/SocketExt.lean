import LocalCall.Data.FrameBufferQueue

/-! # The frames of a socket

The output loop of one end writes whole buffers, the input loop of the other end cuts what it
reads into buffers again, and a third thread hands these to the callback. A step of a thread makes
at most one access to what it shares with another; a generation of a buffer is the scan of the
array, buffer by buffer. The bytes are generic, nothing computes with them.
-/
namespace LocalCall.Socket.SocketExt
open Data
set_option autoImplicit false

variable {B : Type}

inductive OutputPc where
  | reset
  | resetBuffer (i : Nat)
  | test | poll
  | write (tempBufferData : Nat)
  | recycle (tempBufferData : Nat)
  | ended
  deriving DecidableEq, Repr

/-- Where the input thread stands. `scan` looks at a buffer and `claim` takes the one it found;
`offer` and `recycle` follow a read that filled the buffer or left it empty. -/
inductive InputPc where
  | reset
  | resetBuffer (i : Nat)
  | test
  | scan (i : Nat)
  | claim (i : Nat)
  | poll | read | offer | recycle | ended
  deriving DecidableEq, Repr

inductive CallbackPc where
  | test | poll
  | dispatch (temp : Nat)
  | dataCallback (temp : Nat)
  | recycle (temp : Nat)
  | ended
  deriving DecidableEq, Repr

structure Output (B : Type) where
  mFrameSize : Nat
  mOutputFrameBufferQueue : FrameBufferQueue B
  mStreamStopFlag : Bool
  mOutputStream : Bool
  thread : OutputPc
  deriving DecidableEq

/-- What the receiving end uses; `delivered` records the arguments of `dataCallback`, as they were
at the call. -/
structure Input (B : Type) where
  mFrameSize : Nat
  mInputFrameBufferQueue : FrameBufferQueue B
  mStreamStopFlag : Bool
  mInputStream : Bool
  mIDataCallback : Bool
  thread : InputPc
  tempBufferData : Option Nat
  tempbuffer : List B
  index : Nat
  callback : CallbackPc
  delivered : List (Option (List B))
  deriving DecidableEq

def initFrameBuffer [Zero B] (mFrameSize : Nat) : FrameBufferQueue B := .new 5 mFrameSize

def Output.start [Zero B] (mFrameSize : Nat) : Output B :=
  ⟨mFrameSize, initFrameBuffer mFrameSize, false, true, .reset⟩

def Input.start [Zero B] (mFrameSize : Nat) : Input B where
  mFrameSize
  mInputFrameBufferQueue := initFrameBuffer mFrameSize
  mStreamStopFlag := false
  mInputStream := true
  mIDataCallback := true
  thread := .reset
  tempBufferData := none
  tempbuffer := List.replicate mFrameSize 0
  index := 0
  callback := .test
  delivered := []

inductive ClientStep (B : Type) where
  | generate
  | fill (i : Nat) (data : List B)
  | offer (i : Nat)
  | recycle (i : Nat)
  deriving DecidableEq, Repr

def clientStep (s : Output B) : ClientStep B → Option (Output B)
  | .generate =>
    some { s with mOutputFrameBufferQueue := s.mOutputFrameBufferQueue.generateBufferData.2 }
  | .fill i data =>
    if data.length = s.mFrameSize then
      some { s with mOutputFrameBufferQueue := s.mOutputFrameBufferQueue.setBuffer i data }
    else none
  | .offer i =>
    some { s with mOutputFrameBufferQueue := s.mOutputFrameBufferQueue.offerCustom (some i) }
  | .recycle i =>
    some { s with mOutputFrameBufferQueue := s.mOutputFrameBufferQueue.recycleBufferData (some i) }

inductive Answer where
  | done
  | count (k : Nat)
  | eof
  | threw (k : Nat)
  deriving DecidableEq, Repr

/-- A step of the output thread, with the bytes that it puts on the stream and the frame that it
has written. A write that throws may have sent the first `k` bytes of its frame. -/
def outputStep (answer : Answer) (s : Output B) : Option (Output B × List B × List (List B)) :=
  let q := s.mOutputFrameBufferQueue
  match s.thread, answer with
  | .reset, .done =>
    some ({ s with
      mOutputFrameBufferQueue := { q with queue := [] }, thread := .resetBuffer 0 }, [], [])
  | .resetBuffer i, .done =>
    if i < q.mDataBuffer.length then
      some ({ s with
        mOutputFrameBufferQueue := q.setState i (-1), thread := .resetBuffer (i + 1) }, [], [])
    else some ({ s with thread := .test }, [], [])
  | .test, .done =>
    some ({ s with
      thread := if !s.mStreamStopFlag && s.mOutputStream then .poll else .ended }, [], [])
  | .poll, .done =>
    some ({ s with
      mOutputFrameBufferQueue := q.pollCustom.2
      thread := match q.pollCustom.1 with
        | some tempBufferData => .write tempBufferData
        | none => .test }, [], [])
  | .write i, .done =>
    match q.content i with
    | some mBuffer => some ({ s with thread := .recycle i }, mBuffer, [mBuffer])
    | none => some ({ s with mStreamStopFlag := true, thread := .test }, [], [])
  | .write i, .threw k =>
    match q.content i with
    | some mBuffer =>
      if k < mBuffer.length then
        some ({ s with mStreamStopFlag := true, thread := .test }, mBuffer.take k, [])
      else none
    | none => none
  | .recycle i, .done =>
    some ({ s with
      mOutputFrameBufferQueue := q.recycleBufferData (some i), thread := .test }, [], [])
  | _, _ => none

def Input.buffer (s : Input B) : List B :=
  (s.tempBufferData.bind s.mInputFrameBufferQueue.content).getD s.tempbuffer

def Input.stored (s : Input B) (bytes : List B) : List B :=
  s.buffer.take s.index ++ bytes ++ s.buffer.drop (s.index + bytes.length)

def Input.store (s : Input B) (bytes : List B) : Input B :=
  match s.tempBufferData with
  | some i =>
    if (s.mInputFrameBufferQueue.content i).isSome then
      { s with
        mInputFrameBufferQueue := s.mInputFrameBufferQueue.setBuffer i (s.stored bytes) }
    else { s with tempbuffer := s.stored bytes }
  | none => { s with tempbuffer := s.stored bytes }

def Input.advance (s : Input B) (count : Nat) : Input B :=
  if s.index + count = s.mFrameSize then { s with index := 0, thread := .offer }
  else if s.index + count = 0 then { s with index := 0, thread := .recycle }
  else { s with index := s.index + count, thread := .test }

/-- A step of the input thread, with what it leaves of the stream. A read returns at least one
byte and no more than there are or fit, or it reports the end of the stream, or it throws. -/
def inputStep (answer : Answer) (s : Input B) (wire : List B) : Option (Input B × List B) :=
  let q := s.mInputFrameBufferQueue
  match s.thread, answer with
  | .reset, .done =>
    some ({ s with
      mInputFrameBufferQueue := { q with queue := [] }, thread := .resetBuffer 0 }, wire)
  | .resetBuffer i, .done =>
    if i < q.mDataBuffer.length then
      some ({ s with
        mInputFrameBufferQueue := q.setState i (-1), thread := .resetBuffer (i + 1) }, wire)
    else some ({ s with thread := .test }, wire)
  | .test, .done =>
    if !s.mStreamStopFlag && s.mInputStream then
      some ({ s with thread := if s.index = 0 then .scan 0 else .read }, wire)
    else some ({ s with thread := .ended }, wire)
  | .scan i, .done =>
    if i < q.mDataBuffer.length then
      some ({ s with thread := if q.isFree i then .claim i else .scan (i + 1) }, wire)
    else some ({ s with thread := .poll }, wire)
  | .claim i, .done =>
    some ({ s with
      mInputFrameBufferQueue := q.setState i 0
      tempBufferData := some i, thread := .read }, wire)
  | .poll, .done =>
    some ({ s with
      mInputFrameBufferQueue := q.pollCustom.2
      tempBufferData := q.pollCustom.1, thread := .read }, wire)
  | .read, .count k =>
    if 0 < k ∧ k ≤ wire.length ∧ k ≤ s.buffer.length - s.index then
      some ((s.store (wire.take k)).advance k, wire.drop k)
    else none
  | .read, .eof => some (s.advance 0, wire)
  | .read, .threw _ => some ({ s with mStreamStopFlag := true, thread := .test }, wire)
  | .offer, .done =>
    some ({ s with
      mInputFrameBufferQueue := q.offerCustom s.tempBufferData, thread := .test }, wire)
  | .recycle, .done =>
    some ({ s with
      mInputFrameBufferQueue := q.recycleBufferData s.tempBufferData, thread := .test }, wire)
  | _, _ => none

/-- A step of the callback thread; only the callback throws what the loop does not catch. -/
def callbackStep (answer : Answer) (s : Input B) : Option (Input B) :=
  let q := s.mInputFrameBufferQueue
  match s.callback, answer with
  | .test, .done => some { s with callback := if s.mStreamStopFlag then .ended else .poll }
  | .poll, .done =>
    some { s with
      mInputFrameBufferQueue := q.pollCustom.2
      callback := match q.pollCustom.1 with
        | some temp => .dispatch temp
        | none => .test }
  | .dispatch temp, .done =>
    if s.mIDataCallback then
      some { s with
        delivered := s.delivered ++ [q.content temp], callback := .dataCallback temp }
    else some { s with callback := .recycle temp }
  | .dataCallback temp, .done => some { s with callback := .recycle temp }
  | .dataCallback _, .threw _ => some { s with callback := .ended }
  | .recycle temp, .done =>
    some { s with
      mInputFrameBufferQueue := q.recycleBufferData (some temp), callback := .test }
  | _, _ => none

/-- One direction of a connection. The stream between the ends is reliable and ordered, and
`written` records the frames that the output loop has written whole. -/
structure Connection (B : Type) where
  sender : Output B
  receiver : Input B
  wire : List B
  written : List (List B)
  deriving DecidableEq

/-- The handlers of an exception and the stop methods close the streams of their end as well, and
they run on any of its threads. -/
inductive Step (B : Type) where
  | client (op : ClientStep B)
  | output (answer : Answer)
  | input (answer : Answer)
  | callback (answer : Answer)
  | setIDataCallback (callback : Bool)
  | stopSender | closeSenderStream | stopReceiver | closeReceiverStream
  deriving DecidableEq, Repr

def Connection.start [Zero B] (mFrameSize : Nat) : Connection B :=
  ⟨.start mFrameSize, .start mFrameSize, [], []⟩

def step (c : Connection B) : Step B → Option (Connection B)
  | .client op =>
    (clientStep c.sender op).map fun sender => { c with sender }
  | .output answer =>
    (outputStep answer c.sender).map fun (sender, bytes, frames) =>
      { c with sender, wire := c.wire ++ bytes, written := c.written ++ frames }
  | .input answer =>
    (inputStep answer c.receiver c.wire).map fun (receiver, wire) => { c with receiver, wire }
  | .callback answer =>
    (callbackStep answer c.receiver).map fun receiver => { c with receiver }
  | .setIDataCallback callback =>
    some { c with receiver := { c.receiver with mIDataCallback := callback } }
  | .stopSender => some { c with sender := { c.sender with mStreamStopFlag := true } }
  | .closeSenderStream => some { c with sender := { c.sender with mOutputStream := false } }
  | .stopReceiver => some { c with receiver := { c.receiver with mStreamStopFlag := true } }
  | .closeReceiverStream => some { c with receiver := { c.receiver with mInputStream := false } }

end LocalCall.Socket.SocketExt
