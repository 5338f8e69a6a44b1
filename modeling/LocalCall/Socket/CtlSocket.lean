import LocalCall.Socket.CtlServerSocket

/-! # The control client

The thread connects once and reads lines. A connect that times out runs `process` again inside the
handler, so the frames of `process` that are still to leave are counted. `closeConnect` may be
called any number of times, on another thread.
-/
namespace LocalCall.Socket
open Java
set_option autoImplicit false

inductive ClientPc where
  | notStarted | connect | getOutputStream | getInputStream | connected
  | readLine | read
  | deliver (ret : Text)
  | closeStream (pc : ClosePc)
  | disconnected
  | finallyBlock (pc : ClosePc)
  | ended
  deriving DecidableEq

/-- Where `closeConnect` stands: it closes the streams, then the streams and the socket. -/
inductive ClientCloserPc where
  | idle
  | closeStream (pc : ClosePc)
  | closeSocket (pc : ClosePc)
  deriving DecidableEq

/-- `frames` counts the calls of `process` around the running one. -/
structure CtlSocket where
  streams : Streams
  mHost : Text
  mPort : Int
  thread : ClientPc
  frames : Nat
  closer : ClientCloserPc
  issued : List CallBack
  deriving DecidableEq

namespace CtlSocket

def new : CtlSocket := ⟨⟨some 0, none, none⟩, [], 0, .notStarted, 0, .idle, []⟩

def connectServer (host : Text) (port : Int) (s : CtlSocket) : CtlSocket :=
  { s with mHost := host, mPort := port, thread := .connect }

def issue (cb : CallBack) (s : CtlSocket) : CtlSocket := { s with issued := s.issued ++ [cb] }

def caught (s : CtlSocket) : CtlSocket := { s with thread := .closeStream .testOutput }

/-- The outer `finally` block, which each frame runs on its way out. -/
def leave (s : CtlSocket) : CtlSocket := { s with thread := .finallyBlock .testOutput }

inductive ConnectAnswer where
  | connected
  | timedOut
  | threw
  deriving DecidableEq

def connectStep (answer : ConnectAnswer) (s : CtlSocket) : Option CtlSocket :=
  match s.thread, answer with
  | .connect, .connected =>
    if s.streams.mSocket.isSome then some { s with thread := .getOutputStream } else some s.leave
  | .connect, .timedOut =>
    if s.streams.mSocket.isSome then some { s with frames := s.frames + 1 } else some s.leave
  | .connect, .threw => some s.leave
  | _, _ => none

def threadStep (answer : Answer) (s : CtlSocket) : Option CtlSocket :=
  match s.thread, answer with
  | .getOutputStream, .done =>
    match s.streams.mSocket with
    | none => some s.caught
    | some c => some { s with
        streams := { s.streams with mOutputStream := some c }, thread := .getInputStream }
  | .getOutputStream, .threw => some s.caught
  | .getInputStream, .done =>
    match s.streams.mSocket with
    | none => some s.caught
    | some c => some { s with
        streams := { s.streams with mInputStream := some c }, thread := .connected }
  | .getInputStream, .threw => some s.caught
  | .connected, .done => some { s.issue .connected with thread := .readLine }
  | .connected, .threw => some (s.issue .connected).caught
  | .readLine, .done =>
    if s.streams.mInputStream.isSome then some { s with thread := .read } else some s.caught
  | .read, .line ret => some { s with thread := .deliver ret }
  | .read, .eof => some s.caught
  | .read, .threw => some s.caught
  | .deliver ret, .done => some { s.issue (.line ret) with thread := .readLine }
  | .deliver ret, .threw => some (s.issue (.line ret)).caught
  | .closeStream .testSocket, .done => some { s with thread := .disconnected }
  | .closeStream .nullPointer, .done => some s.leave
  | .closeStream pc, .done =>
    let (streams, pc) := s.streams.closeStream pc
    some { s with streams, thread := .closeStream pc }
  | .disconnected, .done => some (s.issue .disconnected).leave
  | .disconnected, .threw => some (s.issue .disconnected).leave
  | .finallyBlock .returned, .done =>
    match s.frames with
    | 0 => some { s with thread := .ended }
    | frames + 1 => some { s with frames, thread := .finallyBlock .testOutput }
  | .finallyBlock .nullPointer, .done =>
    match s.frames with
    | 0 => some { s with thread := .ended }
    | frames + 1 => some { s with frames, thread := .finallyBlock .testOutput }
  | .finallyBlock pc, .done =>
    let (streams, pc) := s.streams.closeSocket false pc
    some { s with streams, thread := .finallyBlock pc }
  | .finallyBlock .closeSocket, .threw =>
    let (streams, pc) := s.streams.closeSocket true .closeSocket
    some { s with streams, thread := .finallyBlock pc }
  | _, _ => none

def closerStep (threw : Bool) (s : CtlSocket) : CtlSocket :=
  match s.closer with
  | .idle => { s with closer := .closeStream .testOutput }
  | .closeStream .testSocket => { s with closer := .closeSocket .testOutput }
  | .closeStream .nullPointer => { s with closer := .idle }
  | .closeStream pc =>
    let (streams, pc) := s.streams.closeStream pc
    { s with streams, closer := .closeStream pc }
  | .closeSocket .returned => { s with closer := .idle }
  | .closeSocket .nullPointer => { s with closer := .idle }
  | .closeSocket pc =>
    let (streams, pc) := s.streams.closeSocket threw pc
    { s with streams, closer := .closeSocket pc }

inductive Step where
  | connect (answer : ConnectAnswer)
  | thread (answer : Answer)
  | closer (threw : Bool)
  deriving DecidableEq

def step (s : CtlSocket) : Step → Option CtlSocket
  | .connect answer => s.connectStep answer
  | .thread answer => s.threadStep answer
  | .closer threw => some (s.closerStep threw)

def closeConnect (s : CtlSocket) : CtlSocket := { s with streams := .none }

end CtlSocket
end LocalCall.Socket
