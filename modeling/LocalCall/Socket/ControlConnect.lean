import LocalCall.Library.Transition
import LocalCall.Socket.CtlSocket

/-! # Closing a control client while it connects

`closeConnect` clears the very fields that the thread uses. Where the thread uses them inside the
inner `try` the exception is caught; at the call of `connect` and in the two `finally` blocks it
leaves `run`.
-/
namespace LocalCall.Socket.CtlSocket
open Java Transition
set_option autoImplicit false

/-- `inConnect` says that the thread has called `connect` and waits in it, `escaping` that an
exception has been thrown which nothing in `process` catches, and `closed` that `close` has been
called on the socket. -/
structure Running where
  ctl : CtlSocket
  inConnect : Bool
  escaping : Bool
  closed : Bool
  deriving DecidableEq

inductive RunStep where
  | callConnect
  | connectReturns (answer : ConnectAnswer)
  | thread (answer : Answer)
  | closer (threw : Bool)
  deriving DecidableEq

def usesOutput (pc : ClientPc) : Bool :=
  pc == .closeStream .closeOutput || pc == .finallyBlock .closeOutput

def usesInput (pc : ClientPc) : Bool :=
  pc == .closeStream .closeInput || pc == .finallyBlock .closeInput

/-- What no `catch` is around, or none that fits: a null field in a `finally` block, and an
exception of the last callback. -/
def throwsOut (answer : Answer) (s : CtlSocket) : Bool :=
  usesOutput s.thread && s.streams.mOutputStream.isNone ||
  usesInput s.thread && s.streams.mInputStream.isNone ||
  s.thread == .finallyBlock .closeSocket && s.streams.mSocket.isNone ||
  s.thread == .disconnected && answer == .threw

/-- The ports that `InetSocketAddress` takes. -/
def ValidPort (port : Int) : Prop := 0 ≤ port ∧ port ≤ 65535

instance : DecidablePred ValidPort := fun _ => inferInstanceAs (Decidable (_ ∧ _))

namespace Running

def connectServer (host : Text) (port : Int) : Running :=
  ⟨CtlSocket.new.connectServer host port, false, false, false⟩

def calls (s : Running) : Bool := s.ctl.thread == .connect && !s.inConnect

def usesSocket (s : Running) : Bool := s.ctl.thread == .finallyBlock .closeSocket || s.calls

def callConnect (s : Running) : Running :=
  if s.ctl.streams.mSocket.isSome ∧ ValidPort s.ctl.mPort then { s with inConnect := true }
  else { s with ctl := s.ctl.leave, escaping := true }

def connectReturns (answer : ConnectAnswer) (s : Running) : Running :=
  match answer with
  | .connected => { s with ctl := { s.ctl with thread := .getOutputStream }, inConnect := false }
  | .timedOut => { s with ctl := { s.ctl with frames := s.ctl.frames + 1 }, inConnect := false }
  | .threw => { s with ctl := s.ctl.leave, inConnect := false }

def step (s : Running) : RunStep → Option Running
  | .callConnect => if s.calls then some s.callConnect else none
  | .connectReturns answer =>
    if s.ctl.thread = .connect ∧ s.inConnect = true then some (s.connectReturns answer) else none
  | .thread answer =>
    (s.ctl.threadStep answer).map fun ctl =>
      { s with
        ctl
        escaping := s.escaping || throwsOut answer s.ctl
        closed := s.closed ||
          (s.ctl.thread == .finallyBlock .closeSocket && s.ctl.streams.mSocket.isSome) }
  | .closer threw =>
    some { s with
      ctl := s.ctl.closerStep threw
      closed := s.closed ||
        (s.ctl.closer == .closeSocket .closeSocket && s.ctl.streams.mSocket.isSome) }

/-- No exception is leaving `run`, and the thread's next statement throws none. -/
structure NoEscape (s : Running) : Prop where
  escaping : s.escaping = false
  output : usesOutput s.ctl.thread = true → s.ctl.streams.mOutputStream.isSome = true
  input : usesInput s.ctl.thread = true → s.ctl.streams.mInputStream.isSome = true
  socket : s.usesSocket = true → s.ctl.streams.mSocket.isSome = true
  port : s.calls = true → ValidPort s.ctl.mPort

def ClosedDown (s : Running) : Prop :=
  s.ctl.thread = .ended → s.ctl.closer = .idle →
    s.ctl.streams.mOutputStream = none ∧ s.ctl.streams.mInputStream = none ∧ s.closed = true

structure EndsWell (s : Running) : Prop where
  noEscape : s.NoEscape
  closedDown : s.ClosedDown

/-- `closeConnect` clears no field that the thread has found set and is about to use, nor the
socket of a thread that has not called `connect` yet, or calls it again; and the last callback
does not throw. -/
def LeavesFields (s : Running) : RunStep → Prop
  | .callConnect => True
  | .connectReturns answer => answer = .timedOut → s.ctl.streams.mSocket.isSome = true
  | .thread answer => s.ctl.thread = .disconnected → answer ≠ .threw
  | .closer threw =>
    match s.ctl.closer with
    | .closeStream .closeOutput | .closeSocket .closeOutput => usesOutput s.ctl.thread = false
    | .closeStream .closeInput | .closeSocket .closeInput => usesInput s.ctl.thread = false
    | .closeSocket .closeSocket => threw = false → s.usesSocket = false
    | _ => True

/-- The statements of the last `closeSocket` have done their work when the thread is past them. -/
structure Inv (s : Running) : Prop where
  socket : s.ctl.streams.mSocket = none → s.closed = true
  past : ∀ pc, s.ctl.thread = .finallyBlock pc → s.ctl.streams.Past pc
  returned : s.ctl.thread = .finallyBlock .returned → s.closed = true
  ended : s.ctl.thread = .ended →
    s.ctl.streams.mOutputStream = none ∧ s.ctl.streams.mInputStream = none ∧ s.closed = true
  thrown : s.ctl.thread ≠ .finallyBlock .nullPointer ∧ s.ctl.thread ≠ .closeStream .nullPointer
  port : ValidPort s.ctl.mPort

section Steps

variable {s s' : Running} {e : RunStep}

/-- A statement of the thread is one of the closing methods, or leaves the socket alone and comes
to one of those at its beginning. -/
theorem threadStep_cases {answer : Answer} {ctl ctl' : CtlSocket}
    (hStep : ctl.threadStep answer = some ctl') :
    (∃ pc, ctl.thread = .closeStream pc ∧ pc ≠ .testSocket ∧
      ctl' = { ctl with
        streams := (ctl.streams.closeStream pc).1
        thread := .closeStream (ctl.streams.closeStream pc).2 }) ∨
    (∃ threw pc, ctl.thread = .finallyBlock pc ∧ pc ≠ .returned ∧
      ctl' = { ctl with
        streams := (ctl.streams.closeSocket threw pc).1
        thread := .finallyBlock (ctl.streams.closeSocket threw pc).2 }) ∨
    (∀ pc, ctl'.thread = .closeStream pc ∨ ctl'.thread = .finallyBlock pc → pc = .testOutput) ∧
      (ctl'.thread = .ended → ctl'.streams = ctl.streams ∧
        (ctl.thread = .finallyBlock .returned ∨ ctl.thread = .finallyBlock .nullPointer)) ∧
      ctl'.thread ≠ .connect ∧ ctl'.streams.mSocket = ctl.streams.mSocket ∧
      ctl'.mPort = ctl.mPort ∧ ctl.thread ≠ .finallyBlock .closeSocket := by
  unfold CtlSocket.threadStep at hStep
  split at hStep
  all_goals try split at hStep
  all_goals cases hStep
  all_goals first
    | refine Or.inr (Or.inr ?_)
      simp_all [issue, caught, leave]
      done
    | skip
  · rename_i pc hTest _ hThread _ streams next hNext
    exact Or.inl ⟨pc, hThread, hTest, by rw [hNext]⟩
  · rename_i pc hReturned _ hThread _ streams next hNext
    exact Or.inr (Or.inl ⟨false, pc, hThread, hReturned, by rw [hNext]⟩)
  · rename_i hThread _ streams next hNext
    exact Or.inr (Or.inl ⟨true, .closeSocket, hThread, nofun, by rw [hNext]⟩)

/-- The thread uses a field right after it has found it set, and `connect` it calls first. -/
theorem uses_threadStep {answer : Answer} {ctl ctl' : CtlSocket}
    (hStep : ctl.threadStep answer = some ctl') :
    (usesOutput ctl'.thread = true → ctl'.streams.mOutputStream.isSome = true) ∧
      (usesInput ctl'.thread = true → ctl'.streams.mInputStream.isSome = true) ∧
      (ctl'.thread = .finallyBlock .closeSocket → ctl'.streams.mSocket.isSome = true) ∧
      ctl'.thread ≠ .connect := by
  obtain ⟨pc, hThread, hTest, rfl⟩ | ⟨threw, pc, hThread, -, rfl⟩ |
    ⟨hBegins, -, hConnect, -⟩ := threadStep_cases hStep
  · by_cases hClose : pc = .closeSocket
    · subst hClose
      exact ⟨nofun, nofun, nofun, nofun⟩
    · rw [Streams.closeStream_eq_closeSocket hTest hClose false]
      obtain ⟨hOutput, hInput, -⟩ := Streams.closeSocket_uses false pc ctl.streams
      refine ⟨?_, ?_, nofun, nofun⟩
      · simpa [usesOutput] using hOutput
      · simpa [usesInput] using hInput
  · obtain ⟨hOutput, hInput, hSocket⟩ := Streams.closeSocket_uses threw pc ctl.streams
    refine ⟨?_, ?_, ?_, nofun⟩
    · simpa [usesOutput] using hOutput
    · simpa [usesInput] using hInput
    · simpa using hSocket
  · refine ⟨fun hUses => ?_, fun hUses => ?_, fun hUses => ?_, hConnect⟩
    · rw [usesOutput, Bool.or_eq_true, beq_iff_eq, beq_iff_eq] at hUses
      cases hBegins _ hUses
    · rw [usesInput, Bool.or_eq_true, beq_iff_eq, beq_iff_eq] at hUses
      cases hBegins _ hUses
    · cases hBegins _ (Or.inr hUses)

theorem throwsOut_eq (h : s.NoEscape) (answer : Answer) :
    throwsOut answer s.ctl = (s.ctl.thread == .disconnected && answer == .threw) := by
  obtain ⟨-, hOutput, hInput, hSocket, -⟩ := h
  have hOutput' : (usesOutput s.ctl.thread && s.ctl.streams.mOutputStream.isNone) = false := by
    cases hUses : usesOutput s.ctl.thread with
    | false => rfl
    | true => rw [← Option.not_isSome, hOutput hUses]; rfl
  have hInput' : (usesInput s.ctl.thread && s.ctl.streams.mInputStream.isNone) = false := by
    cases hUses : usesInput s.ctl.thread with
    | false => rfl
    | true => rw [← Option.not_isSome, hInput hUses]; rfl
  have hSocket' : (s.ctl.thread == .finallyBlock .closeSocket &&
      s.ctl.streams.mSocket.isNone) = false := by
    cases hUses : s.ctl.thread == .finallyBlock .closeSocket with
    | false => rfl
    | true => rw [← Option.not_isSome, hSocket (by rw [usesSocket, hUses]; rfl)]; rfl
  rw [throwsOut, hOutput', hInput', hSocket']
  rfl

theorem noEscape_threadStep {answer : Answer} (h : s.NoEscape)
    (hStep : step s (.thread answer) = some s') :
    s'.NoEscape ↔ s.LeavesFields (.thread answer) := by
  obtain ⟨ctl, hThread, rfl⟩ := Option.map_eq_some_iff.mp hStep
  obtain ⟨hOutput, hInput, hSocket, hConnect⟩ := uses_threadStep hThread
  have hCalls : Running.calls ⟨ctl, s.inConnect, s.escaping || throwsOut answer s.ctl, s.closed ||
      (s.ctl.thread == .finallyBlock .closeSocket && s.ctl.streams.mSocket.isSome)⟩ = false := by
    simp [calls, hConnect]
  have hLeaves : s.LeavesFields (.thread answer) ↔ throwsOut answer s.ctl = false := by
    rw [throwsOut_eq h, LeavesFields]
    cases answer <;> simp
  rw [hLeaves]
  constructor
  · intro hNext
    exact (Bool.or_eq_false_iff.mp hNext.escaping).2
  · intro hNone
    refine ⟨?_, hOutput, hInput, ?_, fun hNow => absurd hNow (hCalls ▸ Bool.false_ne_true)⟩
    · dsimp only
      rw [h.escaping, hNone]
      rfl
    · intro hUses
      rw [usesSocket, hCalls, Bool.or_false] at hUses
      exact hSocket (eq_of_beq hUses)

theorem noEscape_callConnect (h : s.NoEscape) (hStep : step s .callConnect = some s') :
    s'.NoEscape := by
  obtain ⟨hCalls, hStep⟩ := Option.ite_none_right_eq_some.mp hStep
  cases hStep
  have hSocket : s.ctl.streams.mSocket.isSome = true := h.socket (by simp [usesSocket, hCalls])
  obtain ⟨hThread, -⟩ := Bool.and_eq_true_iff.mp hCalls
  rw [callConnect, if_pos ⟨hSocket, h.port hCalls⟩]
  refine ⟨h.escaping, h.output, h.input, fun _ => hSocket, fun hAgain => ?_⟩
  simp [calls] at hAgain

theorem noEscape_connectReturns {answer : ConnectAnswer} (h : s.NoEscape)
    (hPort : ValidPort s.ctl.mPort) (hStep : step s (.connectReturns answer) = some s') :
    s'.NoEscape ↔ s.LeavesFields (.connectReturns answer) := by
  obtain ⟨⟨hThread, -⟩, hStep⟩ := Option.ite_none_right_eq_some.mp hStep
  cases hStep
  cases answer with
  | connected => exact ⟨fun _ => nofun, fun _ => ⟨h.escaping, nofun, nofun, nofun, nofun⟩⟩
  | threw => exact ⟨fun _ => nofun, fun _ => ⟨h.escaping, nofun, nofun, nofun, nofun⟩⟩
  | timedOut =>
    have hCalls : (s.connectReturns .timedOut).calls = true := by
      simp [connectReturns, calls, hThread]
    constructor
    · intro hNext _
      exact hNext.socket (by rw [usesSocket, hCalls, Bool.or_true])
    · intro hLeaves
      exact ⟨h.escaping, h.output, h.input, fun _ => hLeaves rfl, fun _ => hPort⟩

theorem closerStep_frame (threw : Bool) (ctl : CtlSocket) :
    (ctl.closerStep threw).thread = ctl.thread ∧ (ctl.closerStep threw).mPort = ctl.mPort := by
  unfold closerStep
  split <;> exact ⟨rfl, rfl⟩

theorem noEscape_closing_iff {ctl : CtlSocket} {closed : Bool} (h : s.NoEscape)
    (hThread : ctl.thread = s.ctl.thread) (hPort : ctl.mPort = s.ctl.mPort) :
    Running.NoEscape { s with ctl, closed } ↔
      (usesOutput s.ctl.thread = true → ctl.streams.mOutputStream.isSome = true) ∧
      (usesInput s.ctl.thread = true → ctl.streams.mInputStream.isSome = true) ∧
      (s.usesSocket = true → ctl.streams.mSocket.isSome = true) := by
  have hCalls : Running.calls { s with ctl, closed } = s.calls := by rw [calls, calls, hThread]
  have hUses : Running.usesSocket { s with ctl, closed } = s.usesSocket := by
    rw [usesSocket, usesSocket, hCalls, hThread]
  constructor
  · rintro ⟨-, hOutput, hInput, hSocket, -⟩
    exact ⟨hThread ▸ hOutput, hThread ▸ hInput, hUses ▸ hSocket⟩
  · rintro ⟨hOutput, hInput, hSocket⟩
    refine ⟨h.escaping, ?_, ?_, ?_, ?_⟩
    · exact fun hNow => hOutput (hThread ▸ hNow)
    · exact fun hNow => hInput (hThread ▸ hNow)
    · exact fun hNow => hSocket (hUses ▸ hNow)
    · exact fun hNow => hPort ▸ h.port (hCalls ▸ hNow)

theorem noEscape_closer {threw : Bool} (h : s.NoEscape)
    (hStep : step s (.closer threw) = some s') :
    s'.NoEscape ↔ s.LeavesFields (.closer threw) := by
  obtain ⟨hThread, hPort⟩ := closerStep_frame threw s.ctl
  cases hStep
  rw [noEscape_closing_iff h hThread hPort]
  obtain ⟨-, hOutput, hInput, hSocket, -⟩ := h
  cases hCloser : s.ctl.closer with
  | idle => simpa [closerStep, LeavesFields, hCloser] using ⟨hOutput, hInput, hSocket⟩
  | closeStream pc =>
    cases pc <;> simp_all [closerStep, LeavesFields, Streams.closeStream]
  | closeSocket pc =>
    cases pc <;> simp_all [closerStep, LeavesFields, Streams.closeSocket, Streams.closeStream]
    -- What is left is the socket, which is there or not and whose `close` may throw.
    cases hNow : s.ctl.streams.mSocket <;> cases threw <;> simp_all

theorem closedStep_socket {threw : Bool} {pc : ClosePc} {streams : Streams} {closed : Bool}
    (h : streams.mSocket = none → closed = true)
    (hNow : (streams.closeSocket threw pc).1.mSocket = none) :
    (closed || (pc == .closeSocket && streams.mSocket.isSome)) = true := by
  obtain ⟨-, -, hCleared⟩ := Streams.closeSocket_clears threw pc streams
  rcases hCleared hNow with hBefore | ⟨rfl, hSome⟩
  · rw [h hBefore, Bool.true_or]
  · rw [hSome]
    simp

theorem Inv.streamStep {pc : ClosePc} (hInv : s.Inv) (h : s.NoEscape)
    (hThread : s.ctl.thread = .closeStream pc) {escaping : Bool} :
    Inv { s with
      ctl := { s.ctl with
        streams := (s.ctl.streams.closeStream pc).1
        thread := .closeStream (s.ctl.streams.closeStream pc).2 }
      escaping } := by
  have hThrown : (s.ctl.streams.closeStream pc).2 ≠ .nullPointer := by
    refine Streams.closeStream_ne_nullPointer ?_ ?_ ?_
    · rintro rfl
      exact hInv.thrown.2 hThread
    · rintro rfl
      exact h.output (by rw [hThread]; rfl)
    · rintro rfl
      exact h.input (by rw [hThread]; rfl)
  refine ⟨fun hNow => ?_, nofun, nofun, nofun, ⟨nofun, fun hNull => ?_⟩, hInv.port⟩
  · exact hInv.socket (by cases pc <;> exact hNow)
  · exact hThrown (ClientPc.closeStream.inj hNull)

theorem Inv.finallyStep {threw : Bool} {pc : ClosePc} (hInv : s.Inv) (h : s.NoEscape)
    (hThread : s.ctl.thread = .finallyBlock pc) (hPc : pc ≠ .returned) {escaping : Bool} :
    Inv { s with
      ctl := { s.ctl with
        streams := (s.ctl.streams.closeSocket threw pc).1
        thread := .finallyBlock (s.ctl.streams.closeSocket threw pc).2 }
      escaping
      closed := s.closed || (pc == .closeSocket && s.ctl.streams.mSocket.isSome) } := by
  have hThrown : (s.ctl.streams.closeSocket threw pc).2 ≠ .nullPointer := by
    refine Streams.closeSocket_ne_nullPointer ?_ ?_ ?_ ?_
    · rintro rfl
      exact hInv.thrown.1 hThread
    · rintro rfl
      exact h.output (by rw [hThread]; rfl)
    · rintro rfl
      exact h.input (by rw [hThread]; rfl)
    · rintro rfl
      exact h.socket (by rw [usesSocket, hThread]; rfl)
  refine ⟨closedStep_socket hInv.socket, ?_, fun hReturned => ?_, nofun, ⟨fun hNull => ?_, nofun⟩,
    hInv.port⟩
  · rintro _ ⟨⟩
    exact (hInv.past pc hThread).closeSocket threw
  · rcases Streams.closeSocket_returned (ClientPc.finallyBlock.inj hReturned) with
      rfl | hNone | ⟨rfl, hSome⟩
    · exact absurd rfl hPc
    · exact Bool.or_eq_true_iff.mpr (Or.inl (hInv.socket hNone))
    · exact Bool.or_eq_true_iff.mpr (Or.inr (by rw [hSome]; rfl))
  · exact hThrown (ClientPc.finallyBlock.inj hNull)

theorem closed_of_ne (h : s.ctl.thread ≠ .finallyBlock .closeSocket) :
    (s.closed || (s.ctl.thread == .finallyBlock .closeSocket && s.ctl.streams.mSocket.isSome)) =
      s.closed := by
  rw [beq_eq_false_iff_ne.mpr h]
  exact Bool.or_false _

theorem Inv.threadStep {answer : Answer} (hInv : s.Inv) (h : s.NoEscape)
    (hStep : step s (.thread answer) = some s') : s'.Inv := by
  obtain ⟨ctl, hThread, rfl⟩ := Option.map_eq_some_iff.mp hStep
  obtain ⟨pc, hHere, -, rfl⟩ | ⟨threw, pc, hHere, hPc, rfl⟩ |
    ⟨hBegins, hEnded, hConnect, hSocket, hPort, hElse⟩ := threadStep_cases hThread
  · rw [closed_of_ne (by rw [hHere]; exact nofun)]
    exact hInv.streamStep h hHere
  · have hSame : (s.ctl.thread == .finallyBlock .closeSocket) = (pc == .closeSocket) := by
      rw [hHere, Bool.eq_iff_iff]
      simp
    rw [hSame]
    exact hInv.finallyStep h hHere hPc
  · rw [closed_of_ne hElse]
    refine ⟨fun hNow => hInv.socket (hSocket ▸ hNow), fun pc hNow => ?_, fun hNow => ?_,
      fun hNow => ?_, ⟨fun hNow => ?_, fun hNow => ?_⟩, hPort ▸ hInv.port⟩
    · rw [hBegins pc (Or.inr hNow)]
      exact Streams.past_testOutput _
    · cases hBegins _ (Or.inr hNow)
    · obtain ⟨hStreams, hFrom⟩ := hEnded hNow
      have hReturned := hFrom.resolve_right hInv.thrown.1
      have hPast := hInv.past _ hReturned
      rw [hStreams]
      exact ⟨hPast.output nofun nofun, hPast.input (Or.inr (Or.inr rfl)), hInv.returned hReturned⟩
    · cases hBegins _ (Or.inr hNow)
    · cases hBegins _ (Or.inl hNow)

theorem Inv.connectReturns (hInv : s.Inv) (answer : ConnectAnswer) :
    (s.connectReturns answer).Inv := by
  cases answer with
  | connected => exact ⟨hInv.socket, nofun, nofun, nofun, ⟨nofun, nofun⟩, hInv.port⟩
  | timedOut => exact ⟨hInv.socket, hInv.past, hInv.returned, hInv.ended, hInv.thrown, hInv.port⟩
  | threw =>
    refine ⟨hInv.socket, ?_, nofun, nofun, ⟨nofun, nofun⟩, hInv.port⟩
    rintro _ ⟨⟩
    exact Streams.past_testOutput _

theorem closerStep_clears (threw : Bool) (ctl : CtlSocket) :
    (ctl.streams.mOutputStream = none → (ctl.closerStep threw).streams.mOutputStream = none) ∧
    (ctl.streams.mInputStream = none → (ctl.closerStep threw).streams.mInputStream = none) ∧
    ((ctl.closerStep threw).streams.mSocket = none → ctl.streams.mSocket = none ∨
      ctl.closer = .closeSocket .closeSocket ∧ ctl.streams.mSocket.isSome = true) := by
  unfold closerStep
  split
  · exact ⟨id, id, Or.inl⟩
  · exact ⟨id, id, Or.inl⟩
  · exact ⟨id, id, Or.inl⟩
  · rename_i pc hTest hNull hCloser
    cases pc with
    | closeOutput => exact ⟨fun _ => rfl, id, Or.inl⟩
    | closeInput => exact ⟨id, fun _ => rfl, Or.inl⟩
    | _ => exact ⟨id, id, Or.inl⟩
  · exact ⟨id, id, Or.inl⟩
  · exact ⟨id, id, Or.inl⟩
  · rename_i pc hReturned hNull hCloser
    obtain ⟨hOutput, hInput, hSocket⟩ := Streams.closeSocket_clears threw pc ctl.streams
    refine ⟨hOutput, hInput, fun hNow => (hSocket hNow).imp_right ?_⟩
    rintro ⟨rfl, hSome⟩
    exact ⟨hCloser, hSome⟩

theorem Inv.closerStep {threw : Bool} (hInv : s.Inv) (hStep : step s (.closer threw) = some s') :
    s'.Inv := by
  obtain ⟨hThread, hPort⟩ := closerStep_frame threw s.ctl
  obtain ⟨hOutput, hInput, hSocket⟩ := closerStep_clears threw s.ctl
  cases hStep
  have hClosed {c : Bool} (h : s.closed = true) : (s.closed || c) = true := by
    rw [h, Bool.true_or]
  refine ⟨fun hNow => ?_, fun pc hNow => ?_, fun hNow => hClosed (hInv.returned (hThread ▸ hNow)),
    fun hNow => ?_, hThread.symm ▸ hInv.thrown, hPort.symm ▸ hInv.port⟩
  · rcases hSocket hNow with hBefore | ⟨hCloser, hSome⟩
    · exact hClosed (hInv.socket hBefore)
    · simp [hCloser, hSome]
  · obtain ⟨hPastOutput, hPastInput⟩ := hInv.past pc (hThread ▸ hNow)
    exact ⟨fun hTest hClose => hOutput (hPastOutput hTest hClose),
      fun hPast => hInput (hPastInput hPast)⟩
  · obtain ⟨hEndOutput, hEndInput, hEndClosed⟩ := hInv.ended (hThread ▸ hNow)
    exact ⟨hOutput hEndOutput, hInput hEndInput, hClosed hEndClosed⟩

theorem Inv.step (hInv : s.Inv) (h : s.NoEscape) (hStep : step s e = some s') : s'.Inv := by
  cases e with
  | callConnect =>
    have hNext := noEscape_callConnect h hStep
    obtain ⟨-, hStep⟩ := Option.ite_none_right_eq_some.mp hStep
    cases hStep
    unfold callConnect at hNext ⊢
    split
    · exact ⟨hInv.socket, hInv.past, hInv.returned, hInv.ended, hInv.thrown, hInv.port⟩
    · rename_i hBad
      rw [if_neg hBad] at hNext
      exact nomatch hNext.escaping
  | connectReturns answer =>
    obtain ⟨-, hStep⟩ := Option.ite_none_right_eq_some.mp hStep
    cases hStep
    exact hInv.connectReturns answer
  | thread answer => exact hInv.threadStep h hStep
  | closer threw => exact hInv.closerStep hStep

theorem noEscape_step (hInv : s.Inv) (h : s.NoEscape) (hStep : step s e = some s') :
    s'.NoEscape ↔ s.LeavesFields e := by
  cases e with
  | callConnect => exact ⟨fun _ => trivial, fun _ => noEscape_callConnect h hStep⟩
  | connectReturns answer => exact noEscape_connectReturns h hInv.port hStep
  | thread answer => exact noEscape_threadStep h hStep
  | closer threw => exact noEscape_closer h hStep

/-- No statement sets a field that the thread is about to use, so that its next step throws. -/
theorem escaping_of_not_noEscape (h : ¬ s.NoEscape) (hThread : ∀ threw, e ≠ .closer threw)
    (hStep : step s e = some s') : s'.escaping = true := by
  rw [← Bool.not_eq_false]
  intro hQuiet
  apply h
  cases e with
  | callConnect =>
    obtain ⟨hCalls, hStep⟩ := Option.ite_none_right_eq_some.mp hStep
    cases hStep
    obtain ⟨hConnect, -⟩ := Bool.and_eq_true_iff.mp hCalls
    have hConnect := eq_of_beq hConnect
    unfold callConnect at hQuiet
    split at hQuiet
    · rename_i hFine
      refine ⟨hQuiet, ?_, ?_, fun _ => hFine.1, fun _ => hFine.2⟩
      · rw [hConnect]
        exact nofun
      · rw [hConnect]
        exact nofun
    · contradiction
  | connectReturns answer =>
    obtain ⟨⟨hConnect, hIn⟩, hStep⟩ := Option.ite_none_right_eq_some.mp hStep
    cases hStep
    have hCalls : s.calls = false := by rw [calls, hIn, Bool.not_true, Bool.and_false]
    have hUses : s.usesSocket = false := by rw [usesSocket, hCalls, hConnect]; rfl
    refine ⟨by cases answer <;> exact hQuiet, ?_, ?_, fun hNow => ?_, fun hNow => ?_⟩
    · rw [hConnect]
      exact nofun
    · rw [hConnect]
      exact nofun
    · rw [hUses] at hNow
      contradiction
    · rw [hCalls] at hNow
      contradiction
  | thread answer =>
    obtain ⟨ctl, hNext, rfl⟩ := Option.map_eq_some_iff.mp hStep
    obtain ⟨hEscaping, hNone⟩ := Bool.or_eq_false_iff.mp hQuiet
    simp only [throwsOut, Bool.or_eq_false_iff] at hNone
    obtain ⟨⟨⟨hOutput, hInput⟩, hSocket⟩, -⟩ := hNone
    have hCalls : s.calls = false := by
      cases hConnect : s.ctl.thread with
      | connect => simp [CtlSocket.threadStep, hConnect] at hNext
      | _ => rw [calls, hConnect]; rfl
    refine ⟨hEscaping, fun hUses => ?_, fun hUses => ?_, fun hUses => ?_, fun hNow => ?_⟩
    · rw [hUses, Bool.true_and] at hOutput
      rw [← Option.not_isNone, hOutput]
      rfl
    · rw [hUses, Bool.true_and] at hInput
      rw [← Option.not_isNone, hInput]
      rfl
    · rw [usesSocket, hCalls, Bool.or_false] at hUses
      rw [hUses, Bool.true_and] at hSocket
      rw [← Option.not_isNone, hSocket]
      rfl
    · rw [hCalls] at hNow
      contradiction
  | closer threw => exact absurd rfl (hThread threw)

theorem connectStep_eq (answer : ConnectAnswer) (hThread : s.ctl.thread = .connect)
    (hSocket : s.ctl.streams.mSocket.isSome = true) (hPort : ValidPort s.ctl.mPort) :
    s.ctl.connectStep answer = some (s.callConnect.connectReturns answer).ctl := by
  rw [callConnect, if_pos ⟨hSocket, hPort⟩]
  cases answer <;> simp [connectStep, connectReturns, hThread, hSocket]

end Steps

theorem Inv.endsWell {s : Running} (hInv : s.Inv) (h : s.NoEscape) : s.EndsWell :=
  ⟨h, fun hEnded _ => hInv.ended hEnded⟩

theorem inv_connectServer (host : Text) {port : Int} (hPort : ValidPort port) :
    (connectServer host port).Inv :=
  ⟨nofun, nofun, nofun, nofun, ⟨nofun, nofun⟩, hPort⟩

theorem noEscape_connectServer (host : Text) (port : Int) :
    (connectServer host port).NoEscape ↔ ValidPort port :=
  ⟨fun h => h.port rfl, fun hPort => ⟨rfl, nofun, nofun, fun _ => rfl, fun _ => hPort⟩⟩

/-- However the closer, the thread and the network interleave, no exception leaves `run` and all
is closed in the end exactly when the port is one and `closeConnect` leaves the fields alone. -/
theorem always_endsWell_iff (host : Text) (port : Int) (es : List RunStep) :
    Always step EndsWell (connectServer host port) es ↔
      ValidPort port ∧ Meets step LeavesFields (connectServer host port) es := by
  have hRuns (hPort : ValidPort port) : Always step EndsWell (connectServer host port) es ↔
      Meets step LeavesFields (connectServer host port) es := by
    have hStart := inv_connectServer host hPort
    have hKeep {s s' : Running} {e : RunStep} (hInv : s.Inv) (h : s.EndsWell)
        (hStep : step s e = some s') (_ : s'.EndsWell) : s'.Inv := hInv.step h.noEscape hStep
    have hExact {s s' : Running} {e : RunStep} (hInv : s.Inv) (h : s.EndsWell)
        (hStep : step s e = some s') : s'.EndsWell ↔ s.LeavesFields e := by
      rw [← noEscape_step hInv h.noEscape hStep]
      exact ⟨fun hNext => hNext.noEscape, (hInv.step h.noEscape hStep).endsWell⟩
    exact always_iff_meets hKeep hExact hStart
      (hStart.endsWell ((noEscape_connectServer host port).mpr hPort))
  constructor
  · intro hAlways
    have hPort := (noEscape_connectServer host port).mp hAlways.head.noEscape
    exact ⟨hPort, (hRuns hPort).mp hAlways⟩
  · rintro ⟨hPort, hMeets⟩
    exact (hRuns hPort).mpr hMeets

/-- `disconnectServer` comes before the first statement of the thread. -/
theorem closed_before_connect :
    ¬ Always step EndsWell (connectServer [] 8888)
      (List.replicate 10 (.closer false) ++ [.callConnect]) := by
  have hEscapes : (run step (connectServer [] 8888)
      (List.replicate 10 (.closer false) ++ [.callConnect])).map escaping = some true := by
    decide +kernel
  obtain ⟨s, hRun, hEscapes⟩ := Option.map_eq_some_iff.mp hEscapes
  intro hAlways
  exact absurd (hAlways.last hRun).noEscape.escaping (by rw [hEscapes]; exact Bool.noConfusion)

end Running
end LocalCall.Socket.CtlSocket
