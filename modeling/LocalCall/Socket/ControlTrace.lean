import LocalCall.Library.Transition
import LocalCall.Socket.CtlSocket

/-! # The callbacks of the control threads

The server reports each connection and its end, in between the lines it reads. A thread that leaves
the reading loop through an exception reports no end; the client reports one on every way out, also
when there was nothing to report the end of. The callbacks are paired as long as neither happens.
-/
namespace LocalCall.Socket
open Java Transition
set_option autoImplicit false

/-- Where the callbacks issued so far stand: between two connections, within one, or nowhere that
a sequence of complete sessions passes through. -/
inductive Session where
  | between
  | within (connection : Nat)
  | broken
  deriving DecidableEq

def Session.follow : Session → Nat × CallBack → Session
  | .between, (c, .connected) => .within c
  | .within c, (c', .line _) => if c = c' then .within c else .broken
  | .within c, (c', .disconnected) => if c = c' then .between else .broken
  | _, _ => .broken

def sessionOf (issued : List (Nat × CallBack)) : Session := issued.foldl Session.follow .between

@[simp] theorem sessionOf_concat (issued : List (Nat × CallBack)) (cb : Nat × CallBack) :
    sessionOf (issued ++ [cb]) = (sessionOf issued).follow cb := by
  rw [sessionOf, List.foldl_append]
  rfl

@[simp] theorem Session.follow_broken (cb : Nat × CallBack) :
    Session.broken.follow cb = .broken := rfl

namespace CtlServerSocket

/-- Each "connected" is followed by one "disconnected" of the same connection, before the next
"connected" and before the thread ends. -/
def Paired (s : CtlServerSocket) : Prop :=
  sessionOf s.issued ≠ .broken ∧ (s.thread = .ended → sessionOf s.issued = .between)

/-- The thread does not leave the reading loop through an exception: neither a callback nor
`readLine` throws, and the stream to read from is there. -/
def InOrder (s : CtlServerSocket) : Step → Prop
  | .closer _ => True
  | .thread answer =>
    match s.thread with
    | .connected => answer ≠ .threw
    | .readLine => s.streams.mInputStream.isSome = true
    | .read => answer ≠ .threw
    | .deliver (some _) => answer ≠ .threw
    | _ => True

def sessionAt (s : CtlServerSocket) : Session :=
  match s.thread with
  | .readLine => .within s.current
  | .read => .within s.current
  | .deliver _ => .within s.current
  | _ => .between

/-- A session is open that the thread will not report the end of. -/
def Abandoned (s : CtlServerSocket) : Prop :=
  sessionOf s.issued = .broken ∨
    (∃ c, sessionOf s.issued = .within c) ∧ sessionAt s = .between

/-- The four kinds of steps: outside a session, the report of a new one, a step within it with or
without a line, and the report of its end. A step out of order leaves the session open. -/
theorem threadStep_cases {answer : Answer} {s s' : CtlServerSocket}
    (hStep : s.threadStep answer = some s') :
    (s.InOrder (.thread answer) ∧ s.sessionAt = .between ∧ s'.sessionAt = .between ∧
      s'.issued = s.issued) ∨
    (s.sessionAt = .between ∧
      (s.InOrder (.thread answer) ∧ s'.sessionAt = .within s.current ∨
        ¬ s.InOrder (.thread answer) ∧ s'.sessionAt = .between) ∧
      s'.issued = s.issued ++ [(s.current, .connected)]) ∨
    (s.sessionAt = .within s.current ∧
      (s.InOrder (.thread answer) ∧ s'.sessionAt = .within s.current ∨
        ¬ s.InOrder (.thread answer) ∧ s'.sessionAt = .between) ∧
      (s'.issued = s.issued ∨ ∃ ret, s'.issued = s.issued ++ [(s.current, .line ret)])) ∨
    (s.InOrder (.thread answer) ∧ s.sessionAt = .within s.current ∧ s'.sessionAt = .between ∧
      s'.issued = s.issued ++ [(s.current, .disconnected)]) := by
  simp only [threadStep] at hStep
  split at hStep
  all_goals try split at hStep
  all_goals cases hStep
  all_goals simp_all [InOrder, sessionAt, issue, caught, current]

def Reported (s : CtlServerSocket) : Prop := sessionOf s.issued = s.sessionAt

theorem Reported.paired {s : CtlServerSocket} (h : s.Reported) : s.Paired := by
  refine ⟨?_, fun hEnded => ?_⟩
  · rw [h, sessionAt]
    split <;> exact fun hEq => nomatch hEq
  · rw [h, sessionAt, hEnded]

theorem closerStep_session {threw : Bool} {s s' : CtlServerSocket}
    (h : s.closerStep threw = some s') : s'.issued = s.issued ∧ s'.sessionAt = s.sessionAt := by
  obtain ⟨hThread, hConnections, hIssued⟩ := closerStep_frame h
  refine ⟨hIssued, ?_⟩
  rw [sessionAt, sessionAt, hThread, current, current, hConnections]

theorem Reported.step {e : Step} {s s' : CtlServerSocket} (h : s.Reported) (hOrder : s.InOrder e)
    (hStep : s.step e = some s') : s'.Reported := by
  cases e with
  | closer threw =>
    obtain ⟨hIssued, hSession⟩ := closerStep_session hStep
    rw [Reported, hIssued, hSession]
    exact h
  | thread answer =>
    rcases threadStep_cases hStep with ⟨_, hOut, hOut', hIssued⟩ |
      ⟨hOut, hWhere, hIssued⟩ | ⟨hIn, hWhere, hIssued⟩ | ⟨_, hIn, hOut', hIssued⟩
    · rw [Reported, hIssued, h, hOut, hOut']
    · obtain ⟨_, hIn'⟩ := hWhere.resolve_right fun hBad => hBad.1 hOrder
      rw [Reported, hIssued, sessionOf_concat, h, hOut, hIn']
      rfl
    · obtain ⟨_, hIn'⟩ := hWhere.resolve_right fun hBad => hBad.1 hOrder
      rcases hIssued with hIssued | ⟨ret, hIssued⟩
      · rw [Reported, hIssued, h, hIn, hIn']
      · rw [Reported, hIssued, sessionOf_concat, h, hIn, hIn', Session.follow, if_pos rfl]
    · rw [Reported, hIssued, sessionOf_concat, h, hIn, hOut', Session.follow, if_pos rfl]

theorem Reported.abandoned {e : Step} {s s' : CtlServerSocket} (h : s.Reported)
    (hOrder : ¬ s.InOrder e) (hStep : s.step e = some s') : s'.Abandoned := by
  cases e with
  | closer threw => exact absurd trivial hOrder
  | thread answer =>
    rcases threadStep_cases hStep with ⟨hFine, _⟩ | ⟨hOut, hWhere, hIssued⟩ |
      ⟨hIn, hWhere, hIssued⟩ | ⟨hFine, _⟩
    · exact absurd hFine hOrder
    · obtain ⟨_, hOut'⟩ := hWhere.resolve_left fun hFine => hOrder hFine.1
      refine Or.inr ⟨⟨s.current, ?_⟩, hOut'⟩
      rw [hIssued, sessionOf_concat, h, hOut]
      rfl
    · obtain ⟨_, hOut'⟩ := hWhere.resolve_left fun hFine => hOrder hFine.1
      refine Or.inr ⟨⟨s.current, ?_⟩, hOut'⟩
      rcases hIssued with hIssued | ⟨ret, hIssued⟩
      · rw [hIssued, h, hIn]
      · rw [hIssued, sessionOf_concat, h, hIn, Session.follow, if_pos rfl]
    · exact absurd hFine hOrder

theorem Abandoned.step {e : Step} {s s' : CtlServerSocket} (h : s.Abandoned)
    (hStep : s.step e = some s') : s'.Abandoned := by
  cases e with
  | closer threw =>
    obtain ⟨hIssued, hSession⟩ := closerStep_session hStep
    rw [Abandoned, hIssued, hSession]
    exact h
  | thread answer =>
    rcases h with hBroken | ⟨⟨c, hOpen⟩, hOut⟩
    · left
      rcases threadStep_cases hStep with ⟨_, _, _, hIssued⟩ | ⟨_, _, hIssued⟩ |
        ⟨_, _, hIssued | ⟨ret, hIssued⟩⟩ | ⟨_, _, _, hIssued⟩
      · rw [hIssued, hBroken]
      · rw [hIssued, sessionOf_concat, hBroken, Session.follow_broken]
      · rw [hIssued, hBroken]
      · rw [hIssued, sessionOf_concat, hBroken, Session.follow_broken]
      · rw [hIssued, sessionOf_concat, hBroken, Session.follow_broken]
    · rcases threadStep_cases hStep with ⟨_, _, hOut', hIssued⟩ | ⟨_, _, hIssued⟩ |
        ⟨hIn, _⟩ | ⟨_, hIn, _⟩
      · exact Or.inr ⟨⟨c, hIssued ▸ hOpen⟩, hOut'⟩
      · -- a second connection is reported before the end of the first
        left
        rw [hIssued, sessionOf_concat, hOpen]
        rfl
      · rw [hOut] at hIn
        cases hIn
      · rw [hOut] at hIn
        cases hIn

theorem Abandoned.not_paired {s : CtlServerSocket} (h : s.Abandoned) (hEnded : s.thread = .ended) :
    ¬ s.Paired := by
  rintro ⟨hWhole, hComplete⟩
  rcases h with hBroken | ⟨⟨c, hOpen⟩, _⟩
  · exact hWhole hBroken
  · rw [hComplete hEnded] at hOpen
    cases hOpen

theorem reported_opened (port : Nat) : (opened port).Reported := rfl

theorem Reported.paired_iff {steps : List Step} {s s' : CtlServerSocket} (h : s.Reported)
    (hRun : run CtlServerSocket.step s steps = some s') (hEnded : s'.thread = .ended) :
    s'.Paired ↔ Meets CtlServerSocket.step InOrder s steps := by
  constructor
  · intro hPaired
    induction steps generalizing s with
    | nil => trivial
    | cons e steps ih =>
      intro mid hStep
      rw [run_cons, hStep, Option.bind_some] at hRun
      have hOrder : s.InOrder e := by
        by_contra hOrder
        have hLeft := run_invariant (fun {_ _ _} hAbandoned hNext => hAbandoned.step hNext)
          (h.abandoned hOrder hStep) hRun
        exact hLeft.not_paired hEnded hPaired
      exact ⟨hOrder, ih (h.step hOrder hStep) hRun⟩
  · intro hOrder
    have hAlways := always_of_meets Reported.step Reported.paired h hOrder
    exact hAlways.last hRun

end CtlServerSocket

namespace CtlSocket

def connecting (host : Text) (port : Int) : CtlSocket := CtlSocket.new.connectServer host port

/-- "disconnected" is issued at most once, and only after "connected"; once the thread has ended,
it has been issued if and only if "connected" has. -/
def Paired (s : CtlSocket) : Prop :=
  s.issued.count .disconnected ≤ s.issued.count .connected ∧ s.issued.count .connected ≤ 1 ∧
    (s.thread = .ended → s.issued.count .disconnected = s.issued.count .connected)

/-- The streams of a connected socket are there to be set up, and nobody nulls a stream between
the test and the use of it in `closeStream`. -/
def Undisturbed (s : CtlSocket) : Step → Prop
  | .thread answer =>
    match s.thread with
    | .getOutputStream => answer ≠ .threw ∧ s.streams.mSocket.isSome = true
    | .getInputStream => answer ≠ .threw ∧ s.streams.mSocket.isSome = true
    | .closeStream pc =>
      (pc = .closeOutput → s.streams.mOutputStream.isSome = true) ∧
        (pc = .closeInput → s.streams.mInputStream.isSome = true)
    | _ => True
  | _ => True

def Reported (s : CtlSocket) : Prop :=
  match s.thread with
  | .readLine | .read | .deliver _ | .disconnected =>
    s.issued.count .connected = 1 ∧ s.issued.count .disconnected = 0
  | .closeStream pc =>
    pc ≠ .nullPointer ∧ s.issued.count .connected = 1 ∧ s.issued.count .disconnected = 0
  | .finallyBlock _ | .ended =>
    s.issued.count .connected ≤ 1 ∧ s.issued.count .disconnected = s.issued.count .connected
  | _ => s.issued.count .connected = 0 ∧ s.issued.count .disconnected = 0

theorem Reported.paired {s : CtlSocket} (h : s.Reported) : s.Paired := by
  unfold Reported at h
  rw [Paired]
  split at h
  all_goals simp_all

theorem Reported.connectStep {answer : ConnectAnswer} {s s' : CtlSocket} (h : s.Reported)
    (hStep : s.connectStep answer = some s') : s'.Reported := by
  simp only [CtlSocket.connectStep] at hStep
  split at hStep
  all_goals try split at hStep
  all_goals cases hStep
  all_goals simp_all [Reported, leave]

theorem Reported.closerStep {threw : Bool} {s : CtlSocket} (h : s.Reported) :
    (s.closerStep threw).Reported := by
  have hFrame : (s.closerStep threw).thread = s.thread ∧
      (s.closerStep threw).issued = s.issued := by
    rw [CtlSocket.closerStep]
    split <;> exact ⟨rfl, rfl⟩
  obtain ⟨hThread, hIssued⟩ := hFrame
  rw [Reported, hThread, hIssued]
  exact h

theorem Reported.threadStep {answer : Answer} {s s' : CtlSocket} (h : s.Reported)
    (hClear : s.Undisturbed (.thread answer)) (hStep : s.threadStep answer = some s') :
    s'.Reported := by
  have hClosing : ∀ pc, s.thread = .closeStream pc →
      (s.streams.closeStream pc).2 ≠ .nullPointer := by
    intro pc hPc
    rw [Reported, hPc] at h
    rw [Undisturbed, hPc] at hClear
    exact Streams.closeStream_ne_nullPointer h.1 hClear.1 hClear.2
  simp only [CtlSocket.threadStep] at hStep
  split at hStep
  all_goals try split at hStep
  all_goals cases hStep
  all_goals simp_all [Reported, Undisturbed, issue, caught, leave]

theorem Reported.step {e : Step} {s s' : CtlSocket} (h : s.Reported) (hClear : s.Undisturbed e)
    (hStep : s.step e = some s') : s'.Reported := by
  cases e with
  | connect answer => exact h.connectStep hStep
  | thread answer => exact h.threadStep hClear hStep
  | closer threw =>
    cases hStep
    exact h.closerStep

theorem reported_connecting (host : Text) (port : Int) : (connecting host port).Reported :=
  ⟨rfl, rfl⟩

end CtlSocket

section Traces

/-- The callbacks of the server are paired in every run in which the thread leaves the reading loop
at the end of the stream only, and a run in which the thread ends has them paired in no other
case. Those of the client are paired when its streams can be set up and nobody nulls a stream
while the thread closes it. -/
theorem callBacks_paired (port : Nat) (steps : List CtlServerSocket.Step) (host : Text)
    (clientPort : Int) (clientSteps : List CtlSocket.Step) :
    (Meets CtlServerSocket.step CtlServerSocket.InOrder (.opened port) steps →
      Always CtlServerSocket.step CtlServerSocket.Paired (.opened port) steps) ∧
    (∀ s, run CtlServerSocket.step (.opened port) steps = some s → s.thread = .ended →
      (s.Paired ↔ Meets CtlServerSocket.step CtlServerSocket.InOrder (.opened port) steps)) ∧
    (Meets CtlSocket.step CtlSocket.Undisturbed (.connecting host clientPort) clientSteps →
      Always CtlSocket.step CtlSocket.Paired (.connecting host clientPort) clientSteps) := by
  refine ⟨fun hOrder => ?_, fun s hRun hEnded => ?_, fun hClear => ?_⟩
  · exact always_of_meets CtlServerSocket.Reported.step CtlServerSocket.Reported.paired
      (CtlServerSocket.reported_opened port) hOrder
  · exact (CtlServerSocket.reported_opened port).paired_iff hRun hEnded
  · exact always_of_meets CtlSocket.Reported.step CtlSocket.Reported.paired
      (CtlSocket.reported_connecting host clientPort) hClear

instance : DecidablePred CtlServerSocket.Paired := fun _ => inferInstanceAs (Decidable (_ ∧ _))

instance : DecidablePred CtlSocket.Paired := fun _ => inferInstanceAs (Decidable (_ ∧ _))

instance (s : CtlServerSocket) : (e : CtlServerSocket.Step) → Decidable (s.InOrder e)
  | .closer _ => inferInstanceAs (Decidable True)
  | .thread _ => by
    simp only [CtlServerSocket.InOrder]
    split <;> infer_instance

instance (s : CtlSocket) : (e : CtlSocket.Step) → Decidable (s.Undisturbed e)
  | .thread _ => by
    simp only [CtlSocket.Undisturbed]
    split <;> infer_instance
  | .connect _ => inferInstanceAs (Decidable True)
  | .closer _ => inferInstanceAs (Decidable True)

def accepting : List CtlServerSocket.Step :=
  [.thread .done, .thread .done, .thread .done, .thread .done, .thread .done, .thread .done]

/-- The `finally` block of the server thread with all three fields set. -/
def cleaningUp : List CtlServerSocket.Step :=
  [.thread .done, .thread .done, .thread .done, .thread .done, .thread .done, .thread .done,
    .thread .done]

theorem callBacks_paired_in_order :
    Always CtlServerSocket.step CtlServerSocket.Paired (.opened 5000)
        (accepting ++ [.thread (.line "up".toList), .thread .done, .thread .done, .thread .eof,
          .thread .done] ++ cleaningUp) ∧
      Always CtlSocket.step CtlSocket.Paired (.connecting "192.168.1.3".toList 5000)
        [.connect .timedOut, .connect .connected, .thread .done, .thread .done, .thread .done,
          .thread .done, .thread .eof, .thread .done, .thread .done, .thread .done, .thread .done,
          .thread .done, .thread .done] := by
  obtain ⟨hServer, _, hClient⟩ := callBacks_paired 5000
    (accepting ++ [.thread (.line "up".toList), .thread .done, .thread .done, .thread .eof,
      .thread .done] ++ cleaningUp) "192.168.1.3".toList 5000
    [.connect .timedOut, .connect .connected, .thread .done, .thread .done, .thread .done,
      .thread .done, .thread .eof, .thread .done, .thread .done, .thread .done, .thread .done,
      .thread .done, .thread .done]
  exact ⟨hServer (by decide +kernel), hClient (by decide +kernel)⟩

/-- A connection is reset, and the server accepts the next one; a client is closed between its
connect and the set-up of its streams. -/
theorem not_callBacks_paired_reset :
    ¬ Always CtlServerSocket.step CtlServerSocket.Paired (.opened 5000)
        (accepting ++ [.thread .threw] ++ cleaningUp ++ accepting) ∧
      ¬ Always CtlSocket.step CtlSocket.Paired (.connecting "192.168.1.3".toList 5000)
        [.connect .connected, .closer false, .closer false, .closer false, .closer false,
          .closer false, .closer false, .closer false, .closer false, .thread .done,
          .thread .done, .thread .done, .thread .done, .thread .done] := by
  decide +kernel

end Traces
end LocalCall.Socket
