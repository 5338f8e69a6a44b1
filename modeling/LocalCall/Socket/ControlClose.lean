import LocalCall.Library.Transition
import LocalCall.Socket.CtlServerSocket

/-! # Closing the control server

`close` sets `mStop` and closes the streams of a connection. The thread tests `mStop` between two
connections only, so one that waits in `accept` takes one more connection, and the server socket
is never closed at all.
-/
namespace LocalCall.Socket.CtlServerSocket
open Java Transition
set_option autoImplicit false

theorem run_close {s : CtlServerSocket} (h : s.closer = .notCalled) :
    run CtlServerSocket.step s (List.replicate (6 + s.streams.mOutputStream.toList.length +
      s.streams.mInputStream.toList.length + s.streams.mSocket.toList.length) (.closer false)) =
      some s.close := by
  obtain ⟨socket, ⟨mSocket, mOutputStream, mInputStream⟩, port, stop, thread, closer, connections,
    issued⟩ := s
  cases h
  cases mSocket <;> cases mOutputStream <;> cases mInputStream <;> rfl

/-- Only the first `n` connections were ever accepted, and the callbacks are about them. -/
def NoneAfter (n : Nat) (s : CtlServerSocket) : Prop :=
  s.connections = n ∧ ∀ cb ∈ s.issued, cb.1 < n

/-- Once `close` has returned, no connection is taken and no callback of a later one issued. -/
def Stopped (s : CtlServerSocket) : Prop :=
  match s.closer with
  | .returned n => s.NoneAfter n
  | _ => True

/-- Once `close` has returned, the server socket is closed as well. -/
def ClosedDown (s : CtlServerSocket) : Prop :=
  s.Stopped ∧
    match s.closer with
    | .returned _ => ∀ socket ∈ s.mServerSocket, socket.closed = true
    | _ => True

def NotReturning (s : CtlServerSocket) : Step → Prop
  | .thread _ => True
  | .closer _ => s.closer ≠ .closing .returned

/-- The step is not a connection taken by `accept` after `close` has returned. -/
def NotAccepting (s : CtlServerSocket) : Step → Prop
  | .thread answer =>
    match s.closer with
    | .returned _ => ¬ (s.thread = .accept ∧ answer = .done)
    | _ => True
  | .closer _ => True

def Serving (s : CtlServerSocket) : Prop :=
  match s.thread with
  | .getOutputStream | .getInputStream | .connected | .readLine | .read | .deliver _ => True
  | _ => False

theorem threadStep_accepts {answer : Answer} {s s' : CtlServerSocket}
    (hStep : s.threadStep answer = some s') :
    s'.closer = s.closer ∧ s'.mStop = s.mStop ∧ (s'.thread = .accept → s.mStop = false) ∧
      ((s.thread = .accept ∧ answer = .done ∧ s'.connections = s.connections + 1 ∧
          s'.issued = s.issued) ∨
        (¬ (s.thread = .accept ∧ answer = .done) ∧ s'.connections = s.connections ∧
          (s'.Serving → s.Serving) ∧
          (s'.issued = s.issued ∨
            s.Serving ∧ ∃ cb, s'.issued = s.issued ++ [(s.current, cb)]))) := by
  simp only [threadStep] at hStep
  split at hStep
  all_goals try split at hStep
  all_goals cases hStep
  all_goals simp_all [Serving, issue, caught, current]

theorem closerStep_returned {threw : Bool} {s s' : CtlServerSocket}
    (hStep : s.closerStep threw = some s') (n : Nat) :
    s'.closer = .returned n ↔ s.closer = .closing .returned ∧ s.connections = n := by
  rw [closerStep] at hStep
  split at hStep
  all_goals cases hStep
  all_goals simp_all

structure Numbered (s : CtlServerSocket) : Prop where
  serving : s.Serving → 0 < s.connections
  issued : ∀ cb ∈ s.issued, cb.1 < s.connections

theorem numbered_opened (port : Nat) : (opened port).Numbered := by
  refine ⟨fun hServing => ?_, fun cb hMem => ?_⟩
  · cases hServing
  · cases hMem

theorem Numbered.step {e : Step} {s s' : CtlServerSocket} (h : s.Numbered)
    (hStep : s.step e = some s') : s'.Numbered := by
  cases e with
  | closer threw =>
    obtain ⟨hThread, hConnections, hIssued⟩ := closerStep_frame hStep
    refine ⟨fun hServing => ?_, ?_⟩
    · rw [Serving, hThread] at hServing
      rw [hConnections]
      exact h.serving hServing
    · rw [hConnections, hIssued]
      exact h.issued
  | thread answer =>
    obtain ⟨_, _, _, ⟨_, _, hConnections, hIssued⟩ | ⟨_, hConnections, hKept, hIssued⟩⟩ :=
      threadStep_accepts hStep
    · refine ⟨fun _ => ?_, fun cb hMem => ?_⟩
      · omega
      · rw [hIssued] at hMem
        have hBefore := h.issued cb hMem
        omega
    · refine ⟨fun hServing => ?_, fun cb hMem => ?_⟩
      · rw [hConnections]
        exact h.serving (hKept hServing)
      · rw [hConnections]
        rcases hIssued with hIssued | ⟨hServing, kind, hIssued⟩
        · rw [hIssued] at hMem
          exact h.issued cb hMem
        · rw [hIssued] at hMem
          rcases List.mem_append.mp hMem with hOld | hNew
          · exact h.issued cb hOld
          · have hPositive := h.serving hServing
            rw [List.mem_singleton.mp hNew, current]
            dsimp only
            omega

theorem stopped_step {e : Step} {s s' : CtlServerSocket} (h : s.Numbered) (hStopped : s.Stopped)
    (hStep : s.step e = some s') : s'.Stopped ↔ s.NotAccepting e := by
  cases e with
  | closer threw =>
    refine iff_of_true ?_ trivial
    have hNumbered : s'.Numbered := h.step hStep
    rw [Stopped]
    split
    · rename_i n hReturned
      obtain ⟨_, hConnections, _⟩ := closerStep_frame hStep
      obtain ⟨_, rfl⟩ := (closerStep_returned hStep n).mp hReturned
      rw [← hConnections]
      exact ⟨rfl, hNumbered.issued⟩
    · trivial
  | thread answer =>
    obtain ⟨hCloser, _, _, hCases⟩ := threadStep_accepts hStep
    unfold Stopped NotAccepting
    rw [hCloser]
    rw [Stopped] at hStopped
    split
    · rename_i n hReturned
      rw [hReturned] at hStopped
      obtain ⟨hCount, hIssued⟩ := hStopped
      rcases hCases with ⟨hAccept, hDone, hConnections, _⟩ | ⟨hNot, hConnections, hKept, hMore⟩
      · refine iff_of_false (fun hNone => ?_) (fun hNot => hNot ⟨hAccept, hDone⟩)
        have hSame := hNone.1
        omega
      · refine iff_of_true ⟨hConnections.trans hCount, ?_⟩ hNot
        rw [← hCount, ← hConnections]
        exact (h.step hStep).issued
    · exact Iff.rfl

theorem listening_step {e : Step} {s s' : CtlServerSocket} (hStep : s.step e = some s') :
    s'.mServerSocket = s.mServerSocket := by
  cases e with
  | thread answer => exact (threadStep_port hStep).1
  | closer threw => exact (closerStep_port hStep).1

structure Listening (port : Nat) (s : CtlServerSocket) : Prop where
  socket : s.mServerSocket = some ⟨port, false⟩
  numbered : s.Numbered

theorem Listening.step {port : Nat} {e : Step} {s s' : CtlServerSocket} (h : s.Listening port)
    (hStep : s.step e = some s') : s'.Listening port :=
  ⟨(listening_step hStep).trans h.socket, h.numbered.step hStep⟩

theorem Listening.closedDown_iff {port : Nat} {s : CtlServerSocket} (h : s.Listening port) :
    s.ClosedDown ↔ ∀ n, s.closer ≠ .returned n := by
  constructor
  · rintro ⟨_, hClosed⟩ n hReturned
    rw [hReturned] at hClosed
    cases hClosed ⟨port, false⟩ h.socket
  · intro hNot
    unfold ClosedDown Stopped
    split
    · rename_i n hReturned
      exact absurd hReturned (hNot n)
    · exact ⟨trivial, trivial⟩

theorem Listening.closedDown_step {port : Nat} {e : Step} {s s' : CtlServerSocket}
    (h : s.Listening port) (hClosed : s.ClosedDown) (hStep : s.step e = some s') :
    s'.ClosedDown ↔ s.NotReturning e := by
  have hNot := h.closedDown_iff.mp hClosed
  rw [(h.step hStep).closedDown_iff]
  cases e with
  | thread answer =>
    obtain ⟨hCloser, _⟩ := threadStep_accepts hStep
    rw [hCloser]
    exact iff_of_true hNot trivial
  | closer threw =>
    constructor
    · intro hStill hReturns
      exact hStill s.connections ((closerStep_returned hStep _).mpr ⟨hReturns, rfl⟩)
    · intro hReturns n hReturned
      exact hReturns ((closerStep_returned hStep n).mp hReturned).1

theorem listening_opened (port : Nat) : (opened port).Listening port :=
  ⟨rfl, numbered_opened port⟩

structure LastOne (s : CtlServerSocket) : Prop where
  stopping : s.closer ≠ .notCalled → s.closer ≠ .called → s.mStop = true
  accepted : ∀ n, s.closer = .returned n →
    n ≤ s.connections ∧ s.connections ≤ n + 1 ∧ (s.thread = .accept → s.connections = n)

theorem LastOne.step {e : Step} {s s' : CtlServerSocket} (h : s.LastOne)
    (hStep : s.step e = some s') : s'.LastOne := by
  cases e with
  | thread answer =>
    obtain ⟨hCloser, hStop, hAccept, hCases⟩ := threadStep_accepts hStep
    refine ⟨?_, fun n hReturned => ?_⟩
    · rw [hCloser, hStop]
      exact h.stopping
    · rw [hCloser] at hReturned
      obtain ⟨hLow, hHigh, hHere⟩ := h.accepted n hReturned
      have hSet : s.mStop = true :=
        h.stopping (fun hEq => nomatch hReturned.symm.trans hEq)
          (fun hEq => nomatch hReturned.symm.trans hEq)
      have hAway : s'.thread ≠ .accept := fun hThere => by
        rw [hAccept hThere] at hSet
        cases hSet
      rcases hCases with ⟨hThread, _, hConnections, _⟩ | ⟨_, hConnections, _⟩
      · have hSame := hHere hThread
        exact ⟨by omega, by omega, fun hThere => absurd hThere hAway⟩
      · exact ⟨by omega, by omega, fun hThere => absurd hThere hAway⟩
  | closer threw =>
    obtain ⟨_, hConnections, _⟩ := closerStep_frame hStep
    refine ⟨fun hNotCalled hCalled => ?_, fun n hReturned => ?_⟩
    · have hSet := h.stopping
      simp only [CtlServerSocket.step, closerStep] at hStep
      split at hStep
      all_goals cases hStep
      all_goals simp_all
    · obtain ⟨_, rfl⟩ := (closerStep_returned hStep n).mp hReturned
      exact ⟨hConnections.ge, by omega, fun _ => hConnections⟩

/-- In any run, at most one connection is taken after `close` has returned. -/
theorem accepted_after_close (port : Nat) {steps : List Step} {s : CtlServerSocket} {n : Nat}
    (hRun : run CtlServerSocket.step (.opened port) steps = some s)
    (hReturned : s.closer = .returned n) : n ≤ s.connections ∧ s.connections ≤ n + 1 := by
  have hStart : (opened port).LastOne := ⟨fun hCalled => absurd rfl hCalled, nofun⟩
  have hLast := run_invariant (fun {_ _ _} h hStep => LastOne.step h hStep) hStart hRun
  obtain ⟨hLow, hHigh, _⟩ := hLast.accepted n hReturned
  exact ⟨hLow, hHigh⟩

theorem always_closedDown_iff (port : Nat) (steps : List Step) :
    Always CtlServerSocket.step ClosedDown (.opened port) steps ↔
      Meets CtlServerSocket.step NotReturning (.opened port) steps := by
  have hListening := listening_opened port
  refine always_iff_meets (fun hInv _ hStep _ => Listening.step hInv hStep)
    (fun hInv hClosed hStep => Listening.closedDown_step hInv hClosed hStep) hListening ?_
  exact hListening.closedDown_iff.mpr fun n hReturned => nomatch hReturned

theorem always_stopped_iff (port : Nat) (steps : List Step) :
    Always CtlServerSocket.step Stopped (.opened port) steps ↔
      Meets CtlServerSocket.step NotAccepting (.opened port) steps :=
  always_iff_meets (fun hInv _ hStep _ => Numbered.step hInv hStep)
    (fun hInv hStopped hStep => stopped_step hInv hStopped hStep) (numbered_opened port) trivial

instance : DecidablePred Stopped := fun s => by
  unfold Stopped NoneAfter
  split <;> infer_instance

instance : DecidablePred ClosedDown := fun s => by
  rw [ClosedDown]
  split <;> infer_instance

instance (s : CtlServerSocket) : (e : Step) → Decidable (s.NotReturning e)
  | .thread _ => inferInstanceAs (Decidable True)
  | .closer _ => inferInstanceAs (Decidable (_ ≠ _))

instance (s : CtlServerSocket) : (e : Step) → Decidable (s.NotAccepting e)
  | .thread _ => by
    simp only [NotAccepting]
    split <;> infer_instance
  | .closer _ => inferInstanceAs (Decidable True)

end LocalCall.Socket.CtlServerSocket
