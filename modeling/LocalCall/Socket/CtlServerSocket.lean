import LocalCall.Socket.Streams

/-! # The control server

One thread accepts connections and reads lines; `close` is called on another thread. A step of
the thread comes with the answer of the call it makes, and `issued` records the callbacks with
the number of the connection they are about. No method of the class closes `mServerSocket`.
-/
namespace LocalCall.Socket
open Java
set_option autoImplicit false

structure ServerSocket where
  port : Nat
  closed : Bool
  deriving DecidableEq

inductive CallBack where
  | connected
  | line (ret : Text)
  | disconnected
  deriving DecidableEq

def CallBack.command : CallBack → Text
  | .connected => "server socket connected".toList
  | .line ret => ret
  | .disconnected => "server socket disconnected".toList

inductive Answer where
  | done
  | threw
  | line (ret : Text)
  | eof
  deriving DecidableEq

/-- Where the thread stands in `process`; `read` is inside `readLine`, with the stream at hand. -/
inductive ServerPc where
  | notStarted | test | accept | getOutputStream | getInputStream | connected
  | readLine | read
  | deliver (ret : Option Text)
  | finallyBlock (pc : ClosePc)
  | ended
  deriving DecidableEq

/-- Where `close` stands; having returned, it remembers how many connections there were. -/
inductive CloserPc where
  | notCalled | called
  | closing (pc : ClosePc)
  | returned (connections : Nat)
  | threw
  deriving DecidableEq

structure CtlServerSocket where
  mServerSocket : Option ServerSocket
  streams : Streams
  mPort : Int
  mStop : Bool
  thread : ServerPc
  closer : CloserPc
  connections : Nat
  issued : List (Nat × CallBack)
  deriving DecidableEq

namespace CtlServerSocket

def new : CtlServerSocket := ⟨none, .none, 0, false, .notStarted, .notCalled, 0, []⟩

/-- `open`, with the port that `new ServerSocket(0)` obtained, or none when that failed. -/
def «open» (opened : Option Nat) (s : CtlServerSocket) : Int × CtlServerSocket :=
  if s.mServerSocket.isSome then (-1, s)
  else
    let s := match opened with
      | some port => { s with mServerSocket := some ⟨port, false⟩, mPort := port }
      | none => s
    if 0 < s.mPort then (s.mPort, { s with mStop := false, thread := .test })
    else (-1, { s with mServerSocket := none })

def opened (port : Nat) : CtlServerSocket :=
  { new with mServerSocket := some ⟨port, false⟩, mPort := port, thread := .test }

theorem open_new (port : Nat) (h : 0 < port) :
    CtlServerSocket.new.open (some port) = ((port : Int), opened port) := by
  simp [CtlServerSocket.open, CtlServerSocket.new, opened, h]

theorem open_new_failed {port : Option Nat} (h : ∀ p ∈ port, p = 0) :
    (CtlServerSocket.new.open port).1 = -1 ∧
      (CtlServerSocket.new.open port).2.mServerSocket = none := by
  cases port with
  | none => exact ⟨rfl, rfl⟩
  | some p =>
    cases h p rfl
    exact ⟨rfl, rfl⟩

def getPort (s : CtlServerSocket) : Int := s.mPort

def current (s : CtlServerSocket) : Nat := s.connections - 1

def issue (cb : CallBack) (s : CtlServerSocket) : CtlServerSocket :=
  { s with issued := s.issued ++ [(s.current, cb)] }

def caught (s : CtlServerSocket) : CtlServerSocket :=
  { s with thread := .finallyBlock .testOutput }

/-- A step of the thread. The callback is not null: `open` was called with one. -/
def threadStep (answer : Answer) (s : CtlServerSocket) : Option CtlServerSocket :=
  match s.thread, answer with
  | .test, .done => some { s with thread := if s.mStop then .ended else .accept }
  | .accept, .done =>
    some { s with
      streams := { s.streams with mSocket := some s.connections }
      connections := s.connections + 1
      thread := .getOutputStream }
  | .accept, .threw => some s.caught
  | .getOutputStream, .done =>
    match s.streams.mSocket with
    | none => some s.caught
    | some c => some { s with
        streams := { s.streams with mOutputStream := some c }, thread := .getInputStream }
  | .getOutputStream, .threw => some s.caught
  | .getInputStream, .done =>
    match s.streams.mSocket with
    | none => some s.caught
    | some c => some { s with
        streams := { s.streams with mInputStream := some c }, thread := .connected }
  | .getInputStream, .threw => some s.caught
  | .connected, .done => some { s.issue .connected with thread := .readLine }
  | .connected, .threw => some (s.issue .connected).caught
  | .readLine, .done =>
    if s.streams.mInputStream.isSome then some { s with thread := .read } else some s.caught
  | .read, .line ret => some { s with thread := .deliver (some ret) }
  | .read, .eof => some { s with thread := .deliver none }
  | .read, .threw => some s.caught
  | .deliver (some ret), .done => some { s.issue (.line ret) with thread := .readLine }
  | .deliver (some ret), .threw => some (s.issue (.line ret)).caught
  | .deliver none, .done => some (s.issue .disconnected).caught
  | .deliver none, .threw => some (s.issue .disconnected).caught
  | .finallyBlock .returned, .done => some { s with thread := .test }
  | .finallyBlock .nullPointer, .done => some { s with thread := .ended }
  | .finallyBlock pc, .done =>
    let (streams, pc) := s.streams.closeSocket false pc
    some { s with streams, thread := .finallyBlock pc }
  | .finallyBlock .closeSocket, .threw =>
    let (streams, pc) := s.streams.closeSocket true .closeSocket
    some { s with streams, thread := .finallyBlock pc }
  | _, _ => none

def closerStep (threw : Bool) (s : CtlServerSocket) : Option CtlServerSocket :=
  match s.closer with
  | .notCalled => some { s with closer := .called }
  | .called => some { s with mStop := true, closer := .closing .testOutput }
  | .closing .returned => some { s with closer := .returned s.connections }
  | .closing .nullPointer => some { s with closer := .threw }
  | .closing pc =>
    let (streams, pc) := s.streams.closeSocket threw pc
    some { s with streams, closer := .closing pc }
  | .returned _ => none
  | .threw => none

inductive Step where
  | thread (answer : Answer)
  | closer (threw : Bool)
  deriving DecidableEq

def step (s : CtlServerSocket) : Step → Option CtlServerSocket
  | .thread answer => s.threadStep answer
  | .closer threw => s.closerStep threw

/-- `close`, run without a step of the thread in between. -/
def close (s : CtlServerSocket) : CtlServerSocket :=
  { s with mStop := true, streams := .none, closer := .returned s.connections }

theorem threadStep_port {answer : Answer} {s s' : CtlServerSocket}
    (h : s.threadStep answer = some s') :
    s'.mServerSocket = s.mServerSocket ∧ s'.mPort = s.mPort := by
  unfold threadStep at h
  split at h
  all_goals first
    | (cases h; exact ⟨rfl, rfl⟩)
    | (split at h <;> cases h <;> exact ⟨rfl, rfl⟩)
    | cases h

theorem closerStep_port {threw : Bool} {s s' : CtlServerSocket}
    (h : s.closerStep threw = some s') :
    s'.mServerSocket = s.mServerSocket ∧ s'.mPort = s.mPort := by
  unfold closerStep at h
  split at h
  all_goals first
    | (cases h; exact ⟨rfl, rfl⟩)
    | cases h

theorem closerStep_frame {threw : Bool} {s s' : CtlServerSocket}
    (hStep : s.closerStep threw = some s') :
    s'.thread = s.thread ∧ s'.connections = s.connections ∧ s'.issued = s.issued := by
  rw [closerStep] at hStep
  split at hStep
  all_goals cases hStep
  all_goals exact ⟨rfl, rfl, rfl⟩

end CtlServerSocket
end LocalCall.Socket
