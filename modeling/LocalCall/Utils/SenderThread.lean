import LocalCall.Library.Transition
import LocalCall.Java.Inet4Address
import LocalCall.Utils.MultiCastSender

/-! # Suspending and stopping the advertising thread

The thread tests the two flags outside the monitor and then waits in it without testing again.
A caller writes its flag first and notifies later, and a notification that finds nobody waiting
is gone.
-/
namespace LocalCall.Utils
open Java Transition
set_option autoImplicit false

inductive SenderPc where
  | started | construct | test | send | sleep | testWait | enter | wait | waiting | woken
  | finallyBlock | ended
  deriving DecidableEq

/-- `notifying` counts the calls that have written their flag and not notified yet. -/
structure SenderThread where
  sender : MultiCastSender
  mStop : Bool
  mWait : Bool
  thread : SenderPc
  notifying : Nat
  deriving DecidableEq

/-- `turn` is a turn up to its `send`, which may throw; `threw` is any other exception. -/
inductive SenderAnswer where
  | done
  | threw
  | turn (localIp : Option Inet4Address) (sends : Bool)
  deriving DecidableEq

inductive SenderEvent where
  | thread (answer : SenderAnswer)
  | waitSend (flag : Bool)
  | stopSend
  | notifyAll
  | spuriousWakeUp
  deriving DecidableEq

namespace SenderThread

def startSend (ctl : Int) : SenderThread where
  sender := .new ctl
  mStop := true
  mWait := false
  thread := .started
  notifying := 0

def waitSend (flag : Bool) (s : SenderThread) : SenderThread :=
  { s with mWait := flag, notifying := if flag then s.notifying else s.notifying + 1 }

def stopSend (s : SenderThread) : SenderThread :=
  { s with mStop := true, notifying := s.notifying + 1 }

def notifyAll (s : SenderThread) : Option SenderThread :=
  if s.notifying = 0 ∨ s.thread = .wait then none
  else some { s with
    notifying := s.notifying - 1
    thread := if s.thread = .waiting then .woken else s.thread }

def hostText (localIp : Option Inet4Address) : Option Text :=
  localIp.map Inet4Address.getHostAddress

/-- The loop's turn up to `send`: the string is kept even where sending it throws. -/
def turn (localIp : Option Inet4Address) (sends : Bool) (m : MultiCastSender) : MultiCastSender :=
  let m' := m.iterate (hostText localIp)
  if sends then m' else { m' with sent := m.sent }

def threadStep (answer : SenderAnswer) (s : SenderThread) : Option SenderThread :=
  match s.thread, answer with
  | .started, .done => some { s with mStop := false, thread := .construct }
  | .construct, .done => some { s with thread := .test }
  | .test, .done => some { s with thread := if s.mStop then .finallyBlock else .send }
  | .send, .turn localIp sends =>
    some { s with
      sender := turn localIp sends s.sender
      thread := if sends then .sleep else .finallyBlock }
  | .sleep, .done => some { s with thread := .testWait }
  | .testWait, .done => some { s with thread := if s.mWait then .enter else .test }
  | .enter, .done => some { s with thread := .wait }
  | .wait, .done => some { s with thread := .waiting }
  | .woken, .done => some { s with thread := .test }
  | .construct, .threw | .sleep, .threw | .waiting, .threw =>
    some { s with thread := .finallyBlock }
  | .finallyBlock, .done => some { s with thread := .ended }
  | _, _ => none

end SenderThread

open SenderThread

def senderStep (s : SenderThread) : SenderEvent → Option SenderThread
  | .thread answer => s.threadStep answer
  | .waitSend flag => some (s.waitSend flag)
  | .stopSend => some s.stopSend
  | .notifyAll => s.notifyAll
  | .spuriousWakeUp => if s.thread = .waiting then some { s with thread := .woken } else none

/-- A thread that waits with no notification to come is one that is meant to. -/
def NoLostWakeUp (s : SenderThread) : Prop :=
  s.thread = .waiting → s.notifying = 0 → s.mWait = true ∧ s.mStop = false

instance : DecidablePred NoLostWakeUp :=
  fun s => inferInstanceAs (Decidable (s.thread = .waiting → s.notifying = 0 → _))

/-- The thread goes into `wait` with the flags still as it has tested them, or before some call
has notified. -/
def StillMeant (s : SenderThread) : SenderEvent → Prop
  | .thread .done => s.thread = .wait → s.notifying = 0 → s.mWait = true ∧ s.mStop = false
  | _ => True

def inTurn : SenderPc → Bool
  | .send | .sleep | .testWait | .enter | .wait => true
  | _ => false

def suspending : SenderPc → Bool
  | .enter | .wait => true
  | _ => false

/-- No call takes back what the thread has tested and is about to act on. -/
def OutOfTurn (s : SenderThread) : SenderEvent → Prop
  | .waitSend false => suspending s.thread = false
  | .stopSend => inTurn s.thread = false
  | _ => True

structure AsTested (s : SenderThread) : Prop where
  stop : inTurn s.thread = true → s.mStop = false
  wait : suspending s.thread = true → s.mWait = true
  meant : NoLostWakeUp s

section Steps

variable {s s' : SenderThread} {e : SenderEvent}

theorem waiting_threadStep {answer : SenderAnswer} (hStep : s.threadStep answer = some s')
    (hWaiting : s'.thread = .waiting) :
    s.thread = .wait ∧ answer = .done ∧ s' = { s with thread := .waiting } := by
  unfold SenderThread.threadStep at hStep
  split at hStep
  · cases hStep; cases hWaiting
  · cases hStep; cases hWaiting
  · cases hStep; dsimp only at hWaiting; split at hWaiting <;> cases hWaiting
  · cases hStep; dsimp only at hWaiting; split at hWaiting <;> cases hWaiting
  · cases hStep; cases hWaiting
  · cases hStep; dsimp only at hWaiting; split at hWaiting <;> cases hWaiting
  · cases hStep; cases hWaiting
  · cases hStep; exact ⟨‹_›, rfl, rfl⟩
  · cases hStep; cases hWaiting
  · cases hStep; cases hWaiting
  · cases hStep; cases hWaiting
  · cases hStep; cases hWaiting
  · cases hStep; cases hWaiting
  · cases hStep

theorem sender_threadStep {answer : SenderAnswer} (hStep : s.threadStep answer = some s') :
    s'.sender = match answer with
      | .turn localIp sends => turn localIp sends s.sender
      | _ => s.sender := by
  unfold SenderThread.threadStep at hStep
  split at hStep <;> cases hStep <;> rfl

/-- Only the turns of the loop touch what is kept and sent. -/
theorem sender_senderStep (hStep : senderStep s e = some s') :
    (∃ localIp sends, e = .thread (.turn localIp sends) ∧
        s'.sender = turn localIp sends s.sender) ∨
      (∀ localIp sends, e ≠ .thread (.turn localIp sends)) ∧ s'.sender = s.sender := by
  cases e with
  | thread answer =>
    have hSender := sender_threadStep hStep
    cases answer with
    | turn localIp sends => exact Or.inl ⟨localIp, sends, rfl, hSender⟩
    | done => exact Or.inr ⟨nofun, hSender⟩
    | threw => exact Or.inr ⟨nofun, hSender⟩
  | waitSend flag => cases hStep; exact Or.inr ⟨nofun, rfl⟩
  | stopSend => cases hStep; exact Or.inr ⟨nofun, rfl⟩
  | notifyAll =>
    obtain ⟨-, hNext⟩ := Option.ite_none_left_eq_some.mp hStep
    cases hNext
    exact Or.inr ⟨nofun, rfl⟩
  | spuriousWakeUp =>
    obtain ⟨-, hNext⟩ := Option.ite_none_right_eq_some.mp hStep
    cases hNext
    exact Or.inr ⟨nofun, rfl⟩

/-- The only ways into a state in which the thread waits. -/
theorem waiting_cases (hStep : senderStep s e = some s') (hWaiting : s'.thread = .waiting) :
    (e = .thread .done ∧ s.thread = .wait ∧ s' = { s with thread := .waiting }) ∨
      s.thread = .waiting ∧
        ((∃ flag, e = .waitSend flag ∧ s' = s.waitSend flag) ∨ e = .stopSend ∧ s' = s.stopSend) := by
  cases e with
  | thread answer =>
    obtain ⟨hWait, rfl, hNext⟩ := waiting_threadStep hStep hWaiting
    exact Or.inl ⟨rfl, hWait, hNext⟩
  | waitSend flag =>
    cases hStep
    exact Or.inr ⟨hWaiting, Or.inl ⟨flag, rfl, rfl⟩⟩
  | stopSend =>
    cases hStep
    exact Or.inr ⟨hWaiting, Or.inr ⟨rfl, rfl⟩⟩
  | notifyAll =>
    obtain ⟨-, hNext⟩ := Option.ite_none_left_eq_some.mp hStep
    cases hNext
    dsimp only at hWaiting
    split at hWaiting
    · cases hWaiting
    · contradiction
  | spuriousWakeUp =>
    obtain ⟨-, hNext⟩ := Option.ite_none_right_eq_some.mp hStep
    cases hNext
    cases hWaiting

theorem NoLostWakeUp.waitSend (h : NoLostWakeUp s) (flag : Bool) :
    NoLostWakeUp (s.waitSend flag) := by
  intro hWaiting hNone
  cases flag with
  | false => exact absurd hNone (Nat.succ_ne_zero s.notifying)
  | true => exact ⟨rfl, (h hWaiting hNone).2⟩

theorem NoLostWakeUp.stopSend (s : SenderThread) : NoLostWakeUp s.stopSend :=
  fun _ hNone => absurd hNone (Nat.succ_ne_zero s.notifying)

theorem noLostWakeUp_step_iff (h : NoLostWakeUp s) (hStep : senderStep s e = some s') :
    NoLostWakeUp s' ↔ StillMeant s e := by
  constructor
  · intro hNext
    unfold StillMeant
    split
    · intro hWait
      unfold senderStep SenderThread.threadStep at hStep
      rw [hWait] at hStep
      cases hStep
      exact hNext rfl
    · trivial
  · intro hMeant hWaiting
    obtain ⟨rfl, hWait, rfl⟩ | ⟨-, ⟨flag, rfl, rfl⟩ | ⟨rfl, rfl⟩⟩ := waiting_cases hStep hWaiting
    · exact hMeant hWait
    · exact h.waitSend flag hWaiting
    · exact NoLostWakeUp.stopSend s hWaiting

theorem tested_threadStep {answer : SenderAnswer} (hStep : s.threadStep answer = some s') :
    (inTurn s'.thread = true → s'.mStop = s.mStop ∧ (inTurn s.thread = true ∨ s.mStop = false)) ∧
      (suspending s'.thread = true →
        s'.mWait = s.mWait ∧ (suspending s.thread = true ∨ s.mWait = true)) := by
  unfold SenderThread.threadStep at hStep
  split at hStep <;> cases hStep <;> grind [inTurn, suspending]

theorem AsTested.threadStep {answer : SenderAnswer} (h : AsTested s)
    (hStep : s.threadStep answer = some s') : AsTested s' := by
  obtain ⟨hTurn, hSuspending⟩ := tested_threadStep hStep
  refine ⟨?_, ?_, ?_⟩
  · intro hIn
    obtain ⟨hSame, hBefore | hClear⟩ := hTurn hIn
    · rw [hSame, h.stop hBefore]
    · rw [hSame, hClear]
  · intro hIn
    obtain ⟨hSame, hBefore | hSet⟩ := hSuspending hIn
    · rw [hSame, h.wait hBefore]
    · rw [hSame, hSet]
  · apply (noLostWakeUp_step_iff (e := .thread answer) h.meant hStep).mpr
    unfold StillMeant
    split
    · intro hWait _
      exact ⟨h.wait (by rw [hWait]; rfl), h.stop (by rw [hWait]; rfl)⟩
    · trivial

theorem AsTested.step (h : AsTested s) (hOut : OutOfTurn s e) (hStep : senderStep s e = some s') :
    AsTested s' := by
  cases e with
  | thread answer => exact h.threadStep hStep
  | waitSend flag =>
    cases hStep
    refine ⟨h.stop, ?_, h.meant.waitSend flag⟩
    intro hIn
    cases flag with
    | false => exact absurd (Eq.trans (Eq.symm hIn) hOut) (by decide)
    | true => rfl
  | stopSend =>
    cases hStep
    refine ⟨?_, h.wait, NoLostWakeUp.stopSend s⟩
    intro hIn
    exact absurd (Eq.trans (Eq.symm hIn) hOut) (by decide)
  | notifyAll =>
    obtain ⟨-, hNext⟩ := Option.ite_none_left_eq_some.mp hStep
    cases hNext
    by_cases hWaiting : s.thread = .waiting
    · rw [if_pos hWaiting]
      exact ⟨nofun, nofun, nofun⟩
    · rw [if_neg hWaiting]
      exact ⟨h.stop, h.wait, fun hNow => absurd hNow hWaiting⟩
  | spuriousWakeUp =>
    obtain ⟨-, hNext⟩ := Option.ite_none_right_eq_some.mp hStep
    cases hNext
    exact ⟨nofun, nofun, nofun⟩

end Steps

/-- No wake-up is lost in a run exactly if the thread, each time it waits, would find the flags
as it has tested them, had it tested them again inside the monitor. -/
theorem always_noLostWakeUp_iff (ctl : Int) (es : List SenderEvent) :
    Always senderStep NoLostWakeUp (startSend ctl) es ↔
      Meets senderStep StillMeant (startSend ctl) es := by
  have hExact : ∀ {s e s'}, True → NoLostWakeUp s → senderStep s e = some s' →
      (NoLostWakeUp s' ↔ StillMeant s e) := fun _ hP hStep => noLostWakeUp_step_iff hP hStep
  exact always_iff_meets (fun _ _ _ _ => trivial) hExact trivial nofun

/-- The condition in terms of the calls: none that stops or resumes the thread comes between its
test of the flag and its `wait`. -/
theorem always_noLostWakeUp_of_outOfTurn (ctl : Int) (es : List SenderEvent)
    (h : Meets senderStep OutOfTurn (startSend ctl) es) :
    Always senderStep NoLostWakeUp (startSend ctl) es := by
  have hKeep : ∀ {s e s'}, AsTested s → OutOfTurn s e → senderStep s e = some s' → AsTested s' :=
    fun hTested hOut hStep => hTested.step hOut hStep
  exact always_of_meets hKeep AsTested.meant ⟨nofun, nofun, nofun⟩ h

def turnsAt (localIps : List (Option Inet4Address)) : List SenderEvent :=
  [.thread .done, .thread .done] ++ localIps.flatMap fun localIp =>
    [.thread .done, .thread (.turn localIp true), .thread .done, .thread .done]

/-- The thread is resumed, or stopped, after it has tested the flag and before it waits. -/
def resumedTooSoon : List SenderEvent :=
  [.thread .done, .thread .done, .thread .done, .thread (.turn none true), .waitSend true,
    .thread .done, .thread .done, .waitSend false, .notifyAll, .thread .done, .thread .done]

def stoppedTooSoon : List SenderEvent :=
  [.thread .done, .thread .done, .thread .done, .thread (.turn none true), .waitSend true,
    .stopSend, .notifyAll, .thread .done, .thread .done, .thread .done, .thread .done]

theorem wakeUp_lost : ¬ Always senderStep NoLostWakeUp (startSend 5000) resumedTooSoon ∧
    ¬ Always senderStep NoLostWakeUp (startSend 5000) stoppedTooSoon := by
  decide +kernel

end LocalCall.Utils
