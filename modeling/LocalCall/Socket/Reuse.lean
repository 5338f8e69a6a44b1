import LocalCall.Library.Transition

/-! # One socket object, connected again and again

The stop flag, the socket and the two streams are fields of the object, so the loops of all its
connections share them. A starter connects in a thread of its own and sets up what it then finds
in the field.
-/
namespace LocalCall.Socket.Reuse
open Transition
set_option autoImplicit false

inductive Loop where
  | input | output | callback
  deriving DecidableEq

/-- `closing` is the handler of an exception after its first statement. -/
inductive LoopPc where
  | test | body | closing | ended
  deriving DecidableEq

/-- The three loops on the streams of one socket; `finished` says that it has been stopped, or that
one of its loops has failed. -/
structure Connection where
  socket : Nat
  finished : Bool
  loops : Loop → LoopPc

inductive StarterPc where
  | newServerSocket | accept | newSocket | startStream | ended
  deriving DecidableEq

/-- `isClosed` is that of the socket in the field, and `sockets` counts those there have been. -/
structure SocketExt where
  mServerSocket : Bool
  mSocket : Option Nat
  isClosed : Bool
  mOutputStream : Option Nat
  mInputStream : Option Nat
  mStreamStopFlag : Bool
  sockets : Nat
  starters : List StarterPc
  connections : List Connection

inductive Answer where
  | done | threw
  deriving DecidableEq

inductive Event where
  | startServerSocket
  | startSocket
  | stopServerSocket
  | stopSocket
  | starter (i : Nat) (answer : Answer)
  | loop (k : Nat) (l : Loop) (answer : Answer)
  deriving DecidableEq

def Connection.setPc (l : Loop) (pc : LoopPc) (c : Connection) : Connection :=
  { c with loops := fun l' => if l' = l then pc else c.loops l' }

def Connection.endAt (socket : Nat) (c : Connection) : Connection :=
  if c.socket = socket then { c with finished := true } else c

namespace SocketExt

def new : SocketExt where
  mServerSocket := false
  mSocket := none
  isClosed := false
  mOutputStream := none
  mInputStream := none
  mStreamStopFlag := false
  sockets := 0
  starters := []
  connections := []

def closeServerSocket (s : SocketExt) : SocketExt := { s with mServerSocket := false }

/-- A socket that is closed already stays in the field. -/
def closeSocket (s : SocketExt) : SocketExt :=
  if s.isClosed then s else { s with mSocket := none }

/-- To close a stream closes its socket. -/
def closeStreams (s : SocketExt) : SocketExt :=
  { s with
    isClosed := s.isClosed || (s.mSocket.isSome &&
      (s.mOutputStream == s.mSocket || s.mInputStream == s.mSocket))
    mOutputStream := none
    mInputStream := none }

def endConnections (socket : Nat) (s : SocketExt) : SocketExt :=
  { s with connections := s.connections.map (.endAt socket) }

/-- What the two stop methods do to the socket. -/
def stopSocket (s : SocketExt) : SocketExt :=
  match s.mSocket with
  | some socket => if s.isClosed then s else (s.endConnections socket).closeSocket
  | none => s

/-- The streams of the socket in the field, with a thread for each of the three loops. -/
def setUp (socket : Nat) (s : SocketExt) : SocketExt :=
  { s with
    mOutputStream := some socket
    mInputStream := some socket
    connections := s.connections ++ [⟨socket, false, fun _ => .test⟩] }

def connected (s : SocketExt) : SocketExt :=
  { s with mSocket := some s.sockets, isClosed := false, sockets := s.sockets + 1 }

def setStarter (i : Nat) (pc : StarterPc) (s : SocketExt) : SocketExt :=
  { s with starters := s.starters.set i pc }

/-- A thread of `startServerSocket` or `startSocket`; a field that a stop has cleared makes it end,
and a closed socket throws. -/
def starterStep (i : Nat) (answer : Answer) (s : SocketExt) : Option SocketExt :=
  match s.starters[i]?, answer with
  | some .newServerSocket, .done => some ({ s with mServerSocket := true }.setStarter i .accept)
  | some .newServerSocket, .threw => some (s.closeServerSocket.closeSocket.setStarter i .ended)
  | some .accept, .done => some (s.connected.setStarter i .startStream)
  | some .accept, .threw => some (s.closeServerSocket.closeSocket.setStarter i .ended)
  | some .newSocket, .done => some (s.connected.setStarter i .startStream)
  | some .newSocket, .threw => some (s.closeSocket.setStarter i .ended)
  | some .startStream, .done =>
    match s.mSocket with
    | none => some (s.setStarter i .ended)
    | some socket => if s.isClosed then none else some ((s.setUp socket).setStarter i .ended)
  | some .startStream, .threw =>
    s.mSocket.map fun _ => s.closeStreams.closeServerSocket.closeSocket.setStarter i .ended
  | _, _ => none

def setLoop (k : Nat) (l : Loop) (pc : LoopPc) (s : SocketExt) : SocketExt :=
  { s with connections := s.connections.modify k (.setPc l pc) }

def goesOn (s : SocketExt) : Loop → Bool
  | .input => !s.mStreamStopFlag && s.mInputStream.isSome
  | .output => !s.mStreamStopFlag && s.mOutputStream.isSome
  | .callback => !s.mStreamStopFlag

/-- Loop `l` of the connection `k`. The callback loop does not catch what its callback throws. -/
def loopStep (k : Nat) (l : Loop) (answer : Answer) (s : SocketExt) : Option SocketExt :=
  match s.connections[k]? with
  | none => none
  | some c =>
    match c.loops l, answer with
    | .test, .done => some (s.setLoop k l (if s.goesOn l then .body else .ended))
    | .body, .done => some (s.setLoop k l .test)
    | .body, .threw =>
      if l = .callback then some ((s.endConnections c.socket).setLoop k l .ended)
      else
        some ({ s.endConnections c.socket with mStreamStopFlag := true }.setLoop k l .closing)
    | .closing, .done => some (s.closeStreams.closeServerSocket.closeSocket.setLoop k l .test)
    | _, _ => none

def step (s : SocketExt) : Event → Option SocketExt
  | .startServerSocket => some { s with starters := s.starters ++ [.newServerSocket] }
  | .startSocket => some { s with starters := s.starters ++ [.newSocket] }
  | .stopServerSocket => some s.closeServerSocket.stopSocket
  | .stopSocket => some s.stopSocket
  | .starter i answer => s.starterStep i answer
  | .loop k l answer => s.loopStep k l answer

/-- The loops of the connection are on its streams, and go on: each finds the flag clear and the
streams there. -/
def GoesOn (s : SocketExt) (c : Connection) : Prop :=
  s.mStreamStopFlag = false ∧ s.mOutputStream = some c.socket ∧ s.mInputStream = some c.socket ∧
    ∀ l, c.loops l ≠ .ended

/-- A connection goes on from its set-up until it is stopped or fails. -/
def Reusable (s : SocketExt) : Prop := ∀ c ∈ s.connections, c.finished = false → s.GoesOn c

/-- The handler has set the flag first. -/
def Flagged (s : SocketExt) : Prop :=
  ∀ c ∈ s.connections, ∀ l, c.loops l = .closing → s.mStreamStopFlag = true

def view (s : SocketExt) : Bool × Option Nat × Option Nat × List Connection :=
  (s.mStreamStopFlag, s.mOutputStream, s.mInputStream, s.connections)

end SocketExt

def Event.Fails : Event → Prop
  | .loop _ l .threw => l ≠ .callback
  | _ => False

/-- An object, and what has happened to it. -/
structure SocketTrace where
  object : SocketExt
  past : List Event

namespace SocketTrace

def new : SocketTrace := ⟨.new, []⟩

def step (t : SocketTrace) (e : Event) : Option SocketTrace :=
  (t.object.step e).map fun s => ⟨s, t.past ++ [e]⟩

def NoneFailed (t : SocketTrace) : Prop := ∀ e ∈ t.past, ¬ e.Fails

/-- The flag says whether a loop has failed. -/
def Told (t : SocketTrace) : Prop := t.object.mStreamStopFlag = false ↔ t.NoneFailed

end SocketTrace

namespace SocketExt

section Steps

variable {s s' : SocketExt} {e : Event}

theorem view_closeSocket (s : SocketExt) : s.closeSocket.view = s.view := by
  unfold closeSocket
  split <;> rfl

theorem endAt_loops (socket : Nat) (c : Connection) : (c.endAt socket).loops = c.loops := by
  unfold Connection.endAt
  split <;> rfl

theorem endAt_over (socket : Nat) (c : Connection) :
    (c.endAt socket).finished = false ↔ c.finished = false ∧ c.socket ≠ socket := by
  unfold Connection.endAt
  split <;> simp [*]

theorem endAt_socket (socket : Nat) (c : Connection) : (c.endAt socket).socket = c.socket := by
  unfold Connection.endAt
  split <;> rfl

theorem Flagged.endConnections (h : s.Flagged) (socket : Nat) :
    (s.endConnections socket).Flagged := by
  intro c hc l hClosing
  obtain ⟨c, hMem, rfl⟩ := List.mem_map.mp hc
  rw [endAt_loops] at hClosing
  exact h c hMem l hClosing

theorem Reusable.endConnections (h : s.Reusable) (socket : Nat) :
    (s.endConnections socket).Reusable := by
  intro c hc hOver
  obtain ⟨c, hMem, rfl⟩ := List.mem_map.mp hc
  obtain ⟨hFlag, hOutput, hInput, hLoops⟩ := h c hMem ((endAt_over socket c).mp hOver).1
  exact ⟨hFlag, (endAt_socket socket c).symm ▸ hOutput, (endAt_socket socket c).symm ▸ hInput,
    (endAt_loops socket c).symm ▸ hLoops⟩

theorem mem_setLoop {k : Nat} {l : Loop} {pc : LoopPc} {c : Connection}
    (hc : c ∈ (s.setLoop k l pc).connections) :
    c ∈ s.connections ∨ ∃ c', s.connections[k]? = some c' ∧ c = c'.setPc l pc := by
  obtain ⟨j, hj⟩ := List.mem_iff_getElem?.mp hc
  rw [setLoop, List.getElem?_modify] at hj
  obtain ⟨c', hGet, hEq⟩ := Option.map_eq_some_iff.mp hj
  split at hEq
  · rename_i hkj
    exact Or.inr ⟨c', hkj ▸ hGet, hEq.symm⟩
  · exact Or.inl (hEq ▸ List.mem_of_getElem? hGet)

theorem Flagged.setLoop {k : Nat} {l : Loop} {pc : LoopPc} (h : s.Flagged)
    (hPc : pc = .closing → s.mStreamStopFlag = true) : (s.setLoop k l pc).Flagged := by
  intro c hc l' hClosing
  rcases mem_setLoop hc with hMem | ⟨c', hGet, rfl⟩
  · exact h c hMem l' hClosing
  · dsimp only [Connection.setPc] at hClosing
    split at hClosing
    · exact hPc hClosing
    · exact h c' (List.mem_of_getElem? hGet) l' hClosing

theorem Reusable.setLoop {k : Nat} {l : Loop} {pc : LoopPc} (h : s.Reusable)
    (hPc : pc = .ended → ∀ c, s.connections[k]? = some c → c.finished = true) :
    (s.setLoop k l pc).Reusable := by
  intro c hc hOver
  rcases mem_setLoop hc with hMem | ⟨c', hGet, rfl⟩
  · exact h c hMem hOver
  · obtain ⟨hFlag, hOutput, hInput, hLoops⟩ := h c' (List.mem_of_getElem? hGet) hOver
    refine ⟨hFlag, hOutput, hInput, fun l' hEnded => ?_⟩
    dsimp only [Connection.setPc] at hEnded
    split at hEnded
    · exact absurd (hPc hEnded c' hGet) (hOver ▸ Bool.false_ne_true)
    · exact hLoops l' hEnded

theorem flag_closeSocket (s : SocketExt) : s.closeSocket.mStreamStopFlag = s.mStreamStopFlag :=
  congrArg Prod.fst (view_closeSocket s)

theorem flag_stopSocket (s : SocketExt) : s.stopSocket.mStreamStopFlag = s.mStreamStopFlag := by
  unfold stopSocket
  split
  · split
    · rfl
    · exact flag_closeSocket _
  · rfl

theorem flag_starterStep {i : Nat} {answer : Answer} (hStep : s.starterStep i answer = some s') :
    s'.mStreamStopFlag = s.mStreamStopFlag := by
  unfold starterStep at hStep
  split at hStep
  · cases hStep; rfl
  · cases hStep; exact flag_closeSocket _
  · cases hStep; rfl
  · cases hStep; exact flag_closeSocket _
  · cases hStep; rfl
  · cases hStep; exact flag_closeSocket _
  · split at hStep
    · cases hStep; rfl
    · obtain ⟨-, hNext⟩ := Option.ite_none_left_eq_some.mp hStep
      cases hNext
      rfl
  · obtain ⟨socket, -, hNext⟩ := Option.map_eq_some_iff.mp hStep
    cases hNext
    exact flag_closeSocket _
  · cases hStep

theorem flag_loopStep {k : Nat} {l : Loop} {answer : Answer}
    (hStep : s.loopStep k l answer = some s') :
    s'.mStreamStopFlag = false ↔
      s.mStreamStopFlag = false ∧ ¬ (Event.loop k l answer).Fails := by
  unfold loopStep at hStep
  split at hStep
  · cases hStep
  · split at hStep
    · cases hStep
      exact (and_iff_left not_false).symm
    · cases hStep
      exact (and_iff_left not_false).symm
    · split at hStep <;> rename_i hLoop
      · cases hStep
        exact (and_iff_left (not_not_intro hLoop)).symm
      · cases hStep
        exact iff_of_false nofun fun h => h.2 hLoop
    · cases hStep
      change s.closeStreams.closeServerSocket.closeSocket.mStreamStopFlag = false ↔ _
      rw [flag_closeSocket]
      exact (and_iff_left not_false).symm
    · cases hStep

theorem flag_step (hStep : s.step e = some s') :
    s'.mStreamStopFlag = false ↔ s.mStreamStopFlag = false ∧ ¬ e.Fails := by
  cases e with
  | startServerSocket => cases hStep; exact (and_iff_left not_false).symm
  | startSocket => cases hStep; exact (and_iff_left not_false).symm
  | stopServerSocket =>
    cases hStep
    rw [flag_stopSocket]
    exact (and_iff_left not_false).symm
  | stopSocket =>
    cases hStep
    rw [flag_stopSocket]
    exact (and_iff_left not_false).symm
  | starter i answer =>
    rw [flag_starterStep hStep]
    exact (and_iff_left not_false).symm
  | loop k l answer => exact flag_loopStep hStep

end Steps

end SocketExt

namespace SocketTrace
open SocketExt

variable {t t' : SocketTrace} {s' : SocketExt} {e : Event}

theorem Told.step (h : t.Told) (hStep : t.step e = some t') : t'.Told := by
  obtain ⟨s, hNext, rfl⟩ := Option.map_eq_some_iff.mp hStep
  change s.mStreamStopFlag = false ↔ ∀ e' ∈ t.past ++ [e], ¬ e'.Fails
  rw [flag_step hNext, List.forall_mem_append, List.forall_mem_singleton]
  exact and_congr_left fun _ => h

end SocketTrace

namespace SocketExt

end SocketExt
end LocalCall.Socket.Reuse
