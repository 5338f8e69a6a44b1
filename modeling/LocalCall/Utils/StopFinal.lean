import LocalCall.Utils.SenderThread
import LocalCall.Utils.MultiCastReceiver

/-! # Stopping the two discovery threads

A thread is started once, and its first statement clears the flag that a stop sets. What a stop
promises is said of the state in which it has returned, over everything that may still happen.
-/
namespace LocalCall.Utils
open Java Transition
set_option autoImplicit false

structure SenderLife where
  begun : Bool
  state : SenderThread
  deriving DecidableEq

inductive SenderCall where
  | startSend
  | stopSend
  | notifyAll
  | spuriousWakeUp
  | thread (answer : SenderAnswer)
  deriving DecidableEq

namespace SenderLife

def new (ctl : Int) : SenderLife := ⟨false, SenderThread.startSend ctl⟩

/-- `Thread.start` throws to the caller when the thread has been started before. -/
def startSend (s : SenderLife) : SenderLife :=
  if s.state.mStop then { s with begun := true } else s

def step (s : SenderLife) : SenderCall → Option SenderLife
  | .startSend => some s.startSend
  | .stopSend => some { s with state := s.state.stopSend }
  | .notifyAll => s.state.notifyAll.map fun t => { s with state := t }
  | .spuriousWakeUp => (senderStep s.state .spuriousWakeUp).map fun t => { s with state := t }
  | .thread answer =>
    if s.begun then (s.state.threadStep answer).map fun t => { s with state := t } else none

def sent (s : SenderLife) : Nat := s.state.sender.sent.length

def sending (s : SenderLife) : Nat := if s.state.thread = .send then 1 else 0

/-- The thread waits, and no call is on its way to wake it. -/
def Forgotten (s : SenderLife) : Prop := s.state.thread = .waiting ∧ s.state.notifying = 0

instance : DecidablePred Forgotten := fun _ => inferInstanceAs (Decidable (_ ∧ _))

def ofThread : SenderCall → Nat
  | .thread _ => 1
  | _ => 0

/-- At most the `send` in progress, and at most five statements more until the thread has
ended, which nothing keeps it from reaching. -/
def Final (s : SenderLife) : Prop :=
  ∀ es s', run step s es = some s' →
    s'.sent ≤ s.sent + s.sending ∧ (es.map ofThread).sum ≤ 5 ∧ ¬ s'.Forgotten

/-- A call of `stopSend` in the state `s` is final once it has returned. -/
def StopFinal (s : SenderLife) : Prop :=
  ∀ es s', .notifyAll ∈ es → run step { s with state := s.state.stopSend } es = some s' → s'.Final

/-- The thread is past its first statement, and not on its way into `wait`. -/
def Ready (s : SenderThread) : Prop :=
  match s.thread with
  | .started | .enter => False
  | .send | .sleep | .testWait => s.mWait = false
  | _ => True

instance : DecidablePred Ready := fun s => by unfold Ready; split <;> infer_instance

/-- What holds from the write of the flag on. -/
structure Stopping (s : SenderLife) : Prop where
  stop : s.state.mStop = true
  ready : Ready s.state
  notified : s.state.thread = .wait ∨ s.state.thread = .waiting → 0 < s.state.notifying

/-- The statements that are left, with the flag set. -/
def remaining : SenderPc → Nat
  | .ended => 0
  | .finallyBlock => 1
  | .test => 2
  | .construct | .testWait | .woken | .waiting => 3
  | .sleep | .wait => 4
  | .send => 5
  | .started | .enter => 5

end SenderLife

inductive StopPc where
  | idle | check | leave | close | clear | threw
  deriving DecidableEq

structure ReceiverLife where
  begun : Bool
  state : MultiCastReceiver
  stopping : StopPc
  deriving DecidableEq

/-- `controller` is a statement of `stopReceive`. -/
inductive ReceiverCall where
  | startReceive
  | stopReceive
  | controller
  | thread (answer : ReceiverAnswer)
  deriving DecidableEq

namespace ReceiverLife

def new : ReceiverLife := ⟨false, MultiCastReceiver.startReceive, .idle⟩

def startReceive (r : ReceiverLife) : ReceiverLife :=
  if r.state.mStop then { r with begun := true } else r

def stopReceive (r : ReceiverLife) : ReceiverLife :=
  { r with state := { r.state with mStop := true }, stopping := .check }

/-- The field is read again by each statement, and a null one throws to the caller, as a missing
group does; an `IOException` of `leaveGroup` is caught. -/
def controllerStep (r : ReceiverLife) : Option ReceiverLife :=
  match r.stopping with
  | .check =>
    some { r with stopping := if r.state.mReceiveMulticastSocket = some false then .leave else .idle }
  | .leave =>
    some { r with
      stopping := if r.state.mReceiveMulticastSocket.isSome ∧ r.state.mInetSocketAddressGroup then
        .close else .threw }
  | .close =>
    match r.state.mReceiveMulticastSocket with
    | some _ =>
      some { r with
        state := { r.state with mReceiveMulticastSocket := some true }
        stopping := .clear }
    | none => some { r with stopping := .threw }
  | .clear =>
    some { r with
      state := { r.state with mReceiveMulticastSocket := none }
      stopping := .idle }
  | .idle | .threw => none

def step (r : ReceiverLife) : ReceiverCall → Option ReceiverLife
  | .startReceive => if r.stopping = .idle then some r.startReceive else none
  | .stopReceive => if r.stopping = .idle then some r.stopReceive else none
  | .controller => r.controllerStep
  | .thread answer =>
    if r.begun then (r.state.threadStep answer).map fun t => { r with state := t } else none

def calledBack (r : ReceiverLife) : Nat := r.state.passedOn.length

def receiving (r : ReceiverLife) : Nat := if r.state.thread = .receive then 1 else 0

/-- The thread receives from a socket that nobody is closing. -/
def Blocked (r : ReceiverLife) : Prop :=
  r.stopping = .idle ∧ r.state.thread = .receive ∧ r.state.mReceiveMulticastSocket = some false

instance : DecidablePred Blocked := fun _ => inferInstanceAs (Decidable (_ ∧ _ ∧ _))

def ofThread : ReceiverCall → Nat
  | .thread _ => 1
  | _ => 0

/-- As for the sender; there are six statements at most. -/
def Final (r : ReceiverLife) : Prop :=
  ∀ es r', run step r es = some r' →
    r'.calledBack ≤ r.calledBack + r.receiving ∧ (es.map ofThread).sum ≤ 6 ∧ ¬ r'.Blocked

/-- A call of `stopReceive` in the state `r` is final once it has returned. -/
def StopFinal (r : ReceiverLife) : Prop :=
  ∀ es r', run step r.stopReceive es = some r' → r'.stopping = .idle → r'.Final

structure Stopping (r : ReceiverLife) : Prop where
  stop : r.state.mStop = true
  begun : r.state.thread ≠ .started
  closed : ¬ r.Blocked

def remaining : ReceiverPc → Nat
  | .ended => 0
  | .finallyBlock => 1
  | .test => 2
  | .receive | .join => 3
  | .group => 4
  | .bind => 5
  | .construct => 6
  | .started => 6

end ReceiverLife

namespace SenderLife

theorem length_sent_turn (localIp : Option Inet4Address) (sends : Bool) (m : MultiCastSender) :
    (SenderThread.turn localIp sends m).sent.length = m.sent.length + sends.toNat := by
  rw [SenderThread.turn]
  cases sends with
  | true => rw [if_pos rfl, MultiCastSender.iterate_eq, List.length_append]; rfl
  | false => rfl

theorem Stopping.threadStep {b : Bool} {t t' : SenderThread} {answer : SenderAnswer}
    (h : Stopping ⟨b, t⟩) (hStep : t.threadStep answer = some t') :
    Stopping ⟨b, t'⟩ ∧ remaining t'.thread + 1 ≤ remaining t.thread := by
  obtain ⟨hStop, hReady, hNotified⟩ := h
  dsimp only at hStop hReady hNotified
  unfold SenderThread.threadStep at hStep
  refine ⟨⟨?_, ?_, ?_⟩, ?_⟩
  · split at hStep <;> grind [Ready]
  · split at hStep <;> grind [Ready]
  · split at hStep <;> grind [Ready]
  · split at hStep <;> grind [Ready, remaining]

theorem Stopping.sent_threadStep {b : Bool} {t t' : SenderThread} {answer : SenderAnswer}
    (h : Stopping ⟨b, t⟩) (hStep : t.threadStep answer = some t') :
    sent ⟨b, t'⟩ + sending ⟨b, t'⟩ ≤ sent ⟨b, t⟩ + sending ⟨b, t⟩ := by
  have hStop := h.stop
  unfold SenderThread.threadStep at hStep
  split at hStep <;> grind [sent, sending, length_sent_turn]

theorem Stopping.notifyAll {b : Bool} {t t' : SenderThread} (h : Stopping ⟨b, t⟩)
    (hStep : t.notifyAll = some t') :
    Stopping ⟨b, t'⟩ ∧ sent ⟨b, t'⟩ + sending ⟨b, t'⟩ = sent ⟨b, t⟩ + sending ⟨b, t⟩ ∧
      remaining t'.thread = remaining t.thread := by
  obtain ⟨hStop, hReady, -⟩ := h
  dsimp only at hStop hReady
  obtain ⟨hIn, hNext⟩ := Option.ite_none_left_eq_some.mp hStep
  have hWait : t.thread ≠ .wait := fun hWait => hIn (Or.inr hWait)
  cases hNext
  by_cases hWaiting : t.thread = .waiting
  · rw [if_pos hWaiting]
    refine ⟨⟨hStop, trivial, nofun⟩, ?_, ?_⟩
    · simp [sent, sending, hWaiting]
    · rw [hWaiting]; rfl
  · rw [if_neg hWaiting]
    exact ⟨⟨hStop, hReady, fun hNow => absurd hNow (not_or.mpr ⟨hWait, hWaiting⟩)⟩, rfl, rfl⟩

theorem Stopping.step {s s' : SenderLife} {e : SenderCall} (h : s.Stopping)
    (hStep : step s e = some s') :
    s'.Stopping ∧ s'.sent + s'.sending ≤ s.sent + s.sending ∧
      remaining s'.state.thread + ofThread e ≤ remaining s.state.thread := by
  cases e with
  | startSend =>
    cases hStep
    rw [SenderLife.startSend, if_pos h.stop]
    exact ⟨⟨h.stop, h.ready, h.notified⟩, Nat.le_refl _, Nat.le_refl _⟩
  | stopSend =>
    cases hStep
    exact ⟨⟨rfl, h.ready, fun _ => Nat.succ_pos _⟩, Nat.le_refl _, Nat.le_refl _⟩
  | notifyAll =>
    obtain ⟨t', hNotify, rfl⟩ := Option.map_eq_some_iff.mp hStep
    obtain ⟨hNext, hSent, hRemaining⟩ := h.notifyAll hNotify
    exact ⟨hNext, hSent.le, hRemaining.le⟩
  | spuriousWakeUp =>
    obtain ⟨t', hWake, rfl⟩ := Option.map_eq_some_iff.mp hStep
    obtain ⟨hWaiting, hNext⟩ := Option.ite_none_right_eq_some.mp hWake
    cases hNext
    refine ⟨⟨h.stop, trivial, nofun⟩, ?_, ?_⟩
    · simp [sent, sending, hWaiting]
    · rw [hWaiting]; exact Nat.le_refl 3
  | thread answer =>
    obtain ⟨-, hBegun⟩ := Option.ite_none_right_eq_some.mp hStep
    obtain ⟨t', hThread, rfl⟩ := Option.map_eq_some_iff.mp hBegun
    obtain ⟨hNext, hRemaining⟩ := h.threadStep hThread
    exact ⟨hNext, h.sent_threadStep hThread, hRemaining⟩

theorem remaining_le (pc : SenderPc) : remaining pc ≤ 5 := by cases pc <;> decide

theorem Stopping.final {s : SenderLife} (h : s.Stopping) : s.Final := by
  intro es s' hRun
  have hThread : ∀ {s : SenderLife} {e : SenderCall} {s'}, Stopping s → True →
      SenderLife.step s e = some s' →
      Stopping s' ∧ remaining s'.state.thread + ofThread e ≤ remaining s.state.thread :=
    fun hStopping _ hStep => ⟨(hStopping.step hStep).1, (hStopping.step hStep).2.2⟩
  have hSent : ∀ {t : SenderLife} {e : SenderCall} {t'},
      Stopping t ∧ t.sent + t.sending ≤ s.sent + s.sending →
      SenderLife.step t e = some t' →
      Stopping t' ∧ t'.sent + t'.sending ≤ s.sent + s.sending :=
    fun h hStep => ⟨(h.1.step hStep).1, (h.1.step hStep).2.1.trans h.2⟩
  obtain ⟨hNext, hSteps⟩ := run_potential @hThread h (fun _ _ => trivial) hRun
  obtain ⟨-, hBound⟩ := run_invariant @hSent ⟨h, Nat.le_refl _⟩ hRun
  refine ⟨(Nat.le_add_right _ _).trans hBound, ?_, ?_⟩
  · exact ((Nat.le_add_left _ _).trans hSteps).trans (remaining_le _)
  · rintro ⟨hWaiting, hNone⟩
    exact absurd (hNext.notified (Or.inr hWaiting)) (hNone ▸ Nat.lt_irrefl 0)

theorem Ready.stopFinal {s : SenderLife} (h : Ready s.state) : s.StopFinal := by
  intro es s' _ hRun
  have hStart : Stopping { s with state := s.state.stopSend } :=
    ⟨rfl, h, fun _ => Nat.succ_pos s.state.notifying⟩
  have hKeep : ∀ {t : SenderLife} {e : SenderCall} {t'}, Stopping t →
      SenderLife.step t e = some t' → Stopping t' := fun hStopping hStep => (hStopping.step hStep).1
  exact (run_invariant @hKeep hStart hRun).final

theorem run_notifyAll {s : SenderLife}
    (h : s.state.thread ≠ .wait ∧ s.state.thread ≠ .waiting) (n : Nat)
    (hCalls : s.state.notifying = n) :
    run SenderLife.step s (List.replicate n .notifyAll) =
      some { s with state := { s.state with notifying := 0 } } := by
  induction n generalizing s with
  | zero =>
    obtain ⟨begun, sender, mStop, mWait, pc, notifying⟩ := s
    cases hCalls
    rfl
  | succ n ih =>
    obtain ⟨hWait, hWaiting⟩ := h
    have hStep : SenderLife.step s .notifyAll =
        some { s with state := { s.state with notifying := n } } := by
      simp [SenderLife.step, SenderThread.notifyAll, hCalls, hWait, hWaiting]
    rw [List.replicate_succ, run_cons, hStep]
    exact ih ⟨hWait, hWaiting⟩ rfl

theorem not_final_of_waits {s : SenderLife} (es : List SenderCall) (s' : SenderLife)
    (hRun : run SenderLife.step s es = some s') (h : s'.Forgotten) : ¬ s.Final :=
  fun hFinal => (hFinal es s' hRun).2.2 h

/-- Every notification comes before the thread's next statement; then it waits, or clears the flag
and advertises. -/
theorem not_final_of_not_ready (begun mWait : Bool) (sender : MultiCastSender) (pc : SenderPc)
    (h : ¬ Ready ⟨sender, true, mWait, pc, 0⟩) : ¬ Final ⟨begun, ⟨sender, true, mWait, pc, 0⟩⟩ := by
  dsimp only [Ready] at h
  cases pc with
  | started =>
    intro hFinal
    have hLate := (hFinal [.startSend, .thread .done, .thread .done, .thread .done,
      .thread (.turn none true)] _ rfl).1
    rw [sent, length_sent_turn] at hLate
    exact absurd hLate (Nat.not_succ_le_self _)
  | enter =>
    exact not_final_of_waits [.startSend, .thread .done, .thread .done] _ rfl ⟨rfl, rfl⟩
  | send =>
    rw [Bool.not_eq_false] at h
    subst h
    exact not_final_of_waits [.startSend, .thread (.turn none true), .thread .done, .thread .done,
      .thread .done, .thread .done] _ rfl ⟨rfl, rfl⟩
  | sleep =>
    rw [Bool.not_eq_false] at h
    subst h
    exact not_final_of_waits [.startSend, .thread .done, .thread .done, .thread .done,
      .thread .done] _ rfl ⟨rfl, rfl⟩
  | testWait =>
    rw [Bool.not_eq_false] at h
    subst h
    exact not_final_of_waits [.startSend, .thread .done, .thread .done, .thread .done] _ rfl
      ⟨rfl, rfl⟩
  | construct | test | wait | waiting | woken | finallyBlock | ended => exact absurd trivial h

theorem stopFinal_iff (s : SenderLife) : s.StopFinal ↔ Ready s.state := by
  constructor
  · intro hFinal
    by_contra hReady
    obtain ⟨begun, sender, mStop, mWait, pc, notifying⟩ := s
    have hWait : pc ≠ .wait ∧ pc ≠ .waiting := by
      constructor <;> rintro rfl <;> exact hReady trivial
    have hRun := run_notifyAll (s := ⟨begun, sender, true, mWait, pc, notifying + 1⟩) hWait _ rfl
    have hNow := hFinal _ _ (List.mem_replicate.mpr ⟨Nat.succ_ne_zero _, rfl⟩) hRun
    exact not_final_of_not_ready begun mWait sender pc hReady hNow
  · exact Ready.stopFinal

end SenderLife

namespace ReceiverLife

theorem length_passedOn_receive (temp : Text) (localIp : Option Text) (r : MultiCastReceiver) :
    (r.receive temp localIp).passedOn.length ≤ r.passedOn.length + 1 := by
  unfold MultiCastReceiver.receive
  dsimp only
  split <;> split <;> simp

theorem stop_threadStep {t t' : MultiCastReceiver} {answer : ReceiverAnswer}
    (hStop : t.mStop = true) (hBegun : t.thread ≠ .started)
    (hStep : t.threadStep answer = some t') :
    t'.mStop = true ∧ t'.thread ≠ .started ∧ t'.thread ≠ .receive ∧
      remaining t'.thread + 1 ≤ remaining t.thread := by
  have hClose : ∀ {r}, t.closeSocket = some r → r.mStop = t.mStop := by
    intro r hClosed
    unfold MultiCastReceiver.closeSocket at hClosed
    grind
  have hReceive : ∀ temp localIp, (t.receive temp localIp).mStop = t.mStop := by
    intro temp localIp
    unfold MultiCastReceiver.receive
    grind
  unfold MultiCastReceiver.threadStep at hStep
  split at hStep <;> grind [remaining]

theorem thread_threadStep {t t' : MultiCastReceiver} {answer : ReceiverAnswer}
    (hStep : t.threadStep answer = some t') : t'.thread ≠ .started := by
  unfold MultiCastReceiver.threadStep at hStep
  split at hStep <;> grind

theorem calledBack_threadStep {t t' : MultiCastReceiver} {answer : ReceiverAnswer}
    (hStep : t.threadStep answer = some t') :
    t'.passedOn.length ≤ t.passedOn.length + if t.thread = .receive then 1 else 0 := by
  have hClose : ∀ {r}, t.closeSocket = some r → r.passedOn = t.passedOn := by
    intro r hClosed
    unfold MultiCastReceiver.closeSocket at hClosed
    grind
  unfold MultiCastReceiver.threadStep at hStep
  split at hStep <;> grind [length_passedOn_receive]

theorem Stopping.controllerStep {r r' : ReceiverLife} (h : r.Stopping)
    (hStep : r.controllerStep = some r') :
    r'.Stopping ∧ r'.calledBack = r.calledBack ∧ r'.state.thread = r.state.thread := by
  obtain ⟨hStop, hBegun, -⟩ := h
  unfold ReceiverLife.controllerStep at hStep
  refine ⟨⟨?_, ?_, ?_⟩, ?_, ?_⟩
  · split at hStep <;> grind
  · split at hStep <;> grind
  · unfold Blocked
    split at hStep <;> grind
  · split at hStep <;> grind [calledBack]
  · split at hStep <;> grind

theorem Stopping.step {r r' : ReceiverLife} {e : ReceiverCall} (h : r.Stopping)
    (hStep : step r e = some r') :
    r'.Stopping ∧ r'.calledBack + r'.receiving ≤ r.calledBack + r.receiving ∧
      remaining r'.state.thread + ofThread e ≤ remaining r.state.thread := by
  cases e with
  | startReceive =>
    obtain ⟨-, hNext⟩ := Option.ite_none_right_eq_some.mp hStep
    cases hNext
    rw [ReceiverLife.startReceive, if_pos h.stop]
    exact ⟨⟨h.stop, h.begun, h.closed⟩, Nat.le_refl _, Nat.le_refl _⟩
  | stopReceive =>
    obtain ⟨-, hNext⟩ := Option.ite_none_right_eq_some.mp hStep
    cases hNext
    exact ⟨⟨rfl, h.begun, nofun⟩, Nat.le_refl _, Nat.le_refl _⟩
  | controller =>
    obtain ⟨hNext, hCalled, hThread⟩ := h.controllerStep hStep
    refine ⟨hNext, ?_, ?_⟩
    · rw [receiving, receiving, hCalled, hThread]
    · rw [hThread]; exact Nat.le_refl _
  | thread answer =>
    obtain ⟨-, hBegun⟩ := Option.ite_none_right_eq_some.mp hStep
    obtain ⟨t', hThread, rfl⟩ := Option.map_eq_some_iff.mp hBegun
    obtain ⟨hStop, hPast, hReceive, hRemaining⟩ := stop_threadStep h.stop h.begun hThread
    refine ⟨⟨hStop, hPast, fun hBlocked => hReceive hBlocked.2.1⟩, ?_, hRemaining⟩
    have hCalled := calledBack_threadStep hThread
    rwa [receiving, if_neg hReceive]

theorem remaining_le (pc : ReceiverPc) : remaining pc ≤ 6 := by cases pc <;> decide

theorem Stopping.final {r : ReceiverLife} (h : r.Stopping) : r.Final := by
  intro es r' hRun
  have hThread : ∀ {r : ReceiverLife} {e : ReceiverCall} {r'}, Stopping r → True →
      ReceiverLife.step r e = some r' →
      Stopping r' ∧ remaining r'.state.thread + ofThread e ≤ remaining r.state.thread :=
    fun hStopping _ hStep => ⟨(hStopping.step hStep).1, (hStopping.step hStep).2.2⟩
  have hCalled : ∀ {t : ReceiverLife} {e : ReceiverCall} {t'},
      Stopping t ∧ t.calledBack + t.receiving ≤ r.calledBack + r.receiving →
      ReceiverLife.step t e = some t' →
      Stopping t' ∧ t'.calledBack + t'.receiving ≤ r.calledBack + r.receiving :=
    fun h hStep => ⟨(h.1.step hStep).1, (h.1.step hStep).2.1.trans h.2⟩
  obtain ⟨hNext, hSteps⟩ := run_potential @hThread h (fun _ _ => trivial) hRun
  obtain ⟨-, hBound⟩ := run_invariant @hCalled ⟨h, Nat.le_refl _⟩ hRun
  refine ⟨(Nat.le_add_right _ _).trans hBound, ?_, hNext.closed⟩
  exact ((Nat.le_add_left _ _).trans hSteps).trans (remaining_le _)

/-- The thread has the socket of its own making. -/
def Unopened (r : ReceiverLife) : Prop :=
  r.state.thread = .started → r.state.mReceiveMulticastSocket = none

theorem Unopened.step {r r' : ReceiverLife} {e : ReceiverCall} (h : r.Unopened)
    (hStep : step r e = some r') : r'.Unopened := by
  unfold Unopened at h ⊢
  cases e with
  | startReceive =>
    obtain ⟨-, hNext⟩ := Option.ite_none_right_eq_some.mp hStep
    cases hNext
    rw [ReceiverLife.startReceive]
    split <;> exact h
  | stopReceive =>
    obtain ⟨-, hNext⟩ := Option.ite_none_right_eq_some.mp hStep
    cases hNext
    exact h
  | controller =>
    unfold ReceiverLife.step ReceiverLife.controllerStep at hStep
    dsimp only at hStep
    split at hStep <;> grind
  | thread answer =>
    obtain ⟨-, hBegun⟩ := Option.ite_none_right_eq_some.mp hStep
    obtain ⟨t', hThread, rfl⟩ := Option.map_eq_some_iff.mp hBegun
    intro hStarted
    exact absurd hStarted (thread_threadStep hThread)

theorem not_final_of_started {r : ReceiverLife} (hIdle : r.stopping = .idle)
    (hStarted : r.state.thread = .started) (hStop : r.state.mStop = true) : ¬ r.Final := by
  obtain ⟨begun, ⟨mSelfIp, mReceiveMulticastSocket, mInetSocketAddressGroup, mStop, pc, passedOn⟩,
    stopping⟩ := r
  dsimp only at hIdle hStarted hStop
  subst hIdle hStarted hStop
  intro hFinal
  have hPassed : ((MultiCastReceiver.mk mSelfIp (some false) true false .receive passedOn).receive
      [] none).passedOn = passedOn ++ [[]] := by
    unfold MultiCastReceiver.receive
    dsimp only
    split <;> grind
  have hLate : ((MultiCastReceiver.mk mSelfIp (some false) true false .receive passedOn).receive
      [] none).passedOn.length ≤ passedOn.length :=
    (hFinal [.startReceive, .thread .done, .thread .done, .thread .done, .thread .done,
      .thread .done, .thread .done, .thread (.received [] none)] _ rfl).1
  rw [hPassed, List.length_append] at hLate
  exact absurd hLate (Nat.not_succ_le_self _)

theorem stopFinal_iff {es : List ReceiverCall} {r : ReceiverLife}
    (hRun : run ReceiverLife.step new es = some r) :
    r.StopFinal ↔ r.state.thread ≠ .started := by
  have hKeep : ∀ {t : ReceiverLife} {e : ReceiverCall} {t'}, Unopened t →
      ReceiverLife.step t e = some t' → Unopened t' := fun hUnopened hStep => hUnopened.step hStep
  have hUnopened : r.Unopened := run_invariant @hKeep (fun _ => rfl) hRun
  constructor
  · intro hFinal hStarted
    have hCheck : run ReceiverLife.step r.stopReceive [.controller] =
        some { r.stopReceive with stopping := .idle } := by
      simp [ReceiverLife.step, ReceiverLife.stopReceive, ReceiverLife.controllerStep,
        hUnopened hStarted]
    have hReturned := hFinal [.controller] _ hCheck rfl
    exact not_final_of_started (r := { r.stopReceive with stopping := .idle }) rfl hStarted rfl
      hReturned
  · intro hPast es r' hCall hReturned
    have hStart : Stopping r.stopReceive := ⟨rfl, hPast, nofun⟩
    have hKeep : ∀ {t : ReceiverLife} {e : ReceiverCall} {t'}, Stopping t →
        ReceiverLife.step t e = some t' → Stopping t' :=
      fun hStopping hStep => (hStopping.step hStep).1
    exact (run_invariant @hKeep hStart hCall).final

end ReceiverLife

/-- A stop is final exactly if it finds the thread past the statement that clears the flag and,
for a sender that is suspended, not yet on its way into `wait`. -/
theorem discovery_stop_final_iff (s : SenderLife) (es : List ReceiverCall) {r : ReceiverLife}
    (hRun : run ReceiverLife.step .new es = some r) :
    (s.StopFinal ↔ SenderLife.Ready s.state) ∧ (r.StopFinal ↔ r.state.thread ≠ .started) :=
  ⟨s.stopFinal_iff, ReceiverLife.stopFinal_iff hRun⟩

def sentTwice : List SenderCall :=
  [.startSend, .thread .done, .thread .done, .thread .done, .thread (.turn none true),
    .thread .done, .thread .done, .thread .done, .thread (.turn none true)]

def receivedTwice : List ReceiverCall :=
  [.startReceive, .thread .done, .thread .done, .thread .done, .thread .done, .thread .done,
    .thread .done, .thread (.received ['9'] none), .thread .done, .thread (.received ['9'] none)]

theorem discovery_stopped_in_time :
    (∃ s, run SenderLife.step (.new 5000) sentTwice = some s ∧ s.sent = 2 ∧ s.StopFinal) ∧
      ∃ r, run ReceiverLife.step .new receivedTwice = some r ∧
        r.state.passedOn.length = 2 ∧ r.StopFinal := by
  refine ⟨⟨_, rfl, rfl, ?_⟩, _, rfl, by decide +kernel, ?_⟩
  · exact (discovery_stop_final_iff _ receivedTwice rfl).1.mpr (by decide +kernel)
  · exact (discovery_stop_final_iff (.new 5000) receivedTwice rfl).2.mpr (by decide +kernel)

/-- Stopped right after the start, each thread has yet to clear the flag, and goes on. -/
theorem stop_lost :
    (∃ s, run SenderLife.step (.new 5000) [.startSend, .stopSend, .notifyAll] = some s ∧
      ¬ s.Final) ∧
    ∃ r, run ReceiverLife.step .new [.startReceive, .stopReceive, .controller] = some r ∧
      r.stopping = .idle ∧ ¬ r.Final := by
  constructor
  · refine ⟨_, rfl, fun hFinal => ?_⟩
    have hLate := (hFinal [.thread .done, .thread .done, .thread .done, .thread (.turn none true),
      .thread .done, .thread .done, .thread .done, .thread (.turn none true)] _ rfl).1
    exact absurd hLate (by decide +kernel)
  · refine ⟨_, rfl, rfl, fun hFinal => ?_⟩
    have hLate := (hFinal [.thread .done, .thread .done, .thread .done, .thread .done,
      .thread .done, .thread .done, .thread (.received ['9'] none), .thread .done,
      .thread (.received ['9'] none)] _ rfl).1
    exact absurd hLate (by decide +kernel)

end LocalCall.Utils
