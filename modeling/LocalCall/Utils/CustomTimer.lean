import Mathlib.Data.List.Pairwise
import LocalCall.Library.Transition

/-! # The timer of the two Wi-Fi classes

The handler runs in a thread of its own, and `stopTimer` in the thread of the caller: a stop may
come between any two statements of the handler. Nothing records that the timer has ended.
-/
namespace LocalCall.Utils
open Transition
set_option autoImplicit false

inductive TimerCall where
  | checkBreakFlag (ret : Bool)
  | checkBreakFlagOver
  deriving DecidableEq

/-- `received`, `over`, `check`, `again` and `quit` are the statements of `handleMessage`. -/
inductive TimerPc where
  | idle | received | over | check | again | quit | done
  deriving DecidableEq

inductive StopTimerPc where
  | idle | removeMessages | quit
  deriving DecidableEq

/-- `stops` counts the calls of `stopTimer` that have found a callback. -/
structure CustomTimer where
  mTiles : Int
  mTimerCallback : Bool
  messages : Nat
  looping : Bool
  handler : TimerPc
  stopper : StopTimerPc
  stops : Nat
  calls : List TimerCall
  deriving DecidableEq

/-- The answer of `handler` is that of `checkBreakFlag`, where it is called. -/
inductive TimerEvent where
  | startTimer
  | stopTimer
  | stopper
  | message
  | handler (ret : Bool)
  deriving DecidableEq

namespace CustomTimer

def new (times : Int) : CustomTimer where
  mTiles := times
  mTimerCallback := false
  messages := 0
  looping := true
  handler := .idle
  stopper := .idle
  stops := 0
  calls := []

/-- A looper that has quit takes no message. -/
def sendEmptyMessage (t : CustomTimer) : CustomTimer :=
  if t.looping then { t with messages := t.messages + 1 } else t

def startTimer (t : CustomTimer) : CustomTimer :=
  { t with mTimerCallback := true }.sendEmptyMessage

def checkBreakFlagOver (t : CustomTimer) : CustomTimer :=
  if t.mTimerCallback then { t with calls := t.calls ++ [.checkBreakFlagOver] } else t

/-- `stopTimer` up to `removeMessages`. -/
def stopTimer (t : CustomTimer) : CustomTimer :=
  { t.checkBreakFlagOver with
    stopper := .removeMessages
    stops := if t.mTimerCallback then t.stops + 1 else t.stops }

def stopperStep (t : CustomTimer) : Option CustomTimer :=
  match t.stopper with
  | .idle => none
  | .removeMessages => some { t with messages := 0, stopper := .quit }
  | .quit => some { t with looping := false, stopper := .idle }

def handlerStep (ret : Bool) (t : CustomTimer) : Option CustomTimer :=
  match t.handler with
  | .idle | .done => none
  | .received =>
    if t.mTiles ≤ 0 then some { t with handler := .over }
    else some { t with mTiles := t.mTiles - 1, handler := .check }
  | .over => some { t.checkBreakFlagOver with handler := .quit }
  | .check =>
    if t.mTimerCallback then
      some { t with
        handler := if ret then .quit else .again
        calls := t.calls ++ [.checkBreakFlag ret] }
    else some { t with handler := .again }
  | .again => some { t.sendEmptyMessage with handler := .idle }
  | .quit => some { t with looping := false, handler := .done }

def step (t : CustomTimer) : TimerEvent → Option CustomTimer
  | .startTimer => some t.startTimer
  | .stopTimer => if t.stopper = .idle then some t.stopTimer else none
  | .stopper => t.stopperStep
  | .message =>
    if t.looping ∧ t.handler = .idle ∧ t.messages ≠ 0 then
      some { t with messages := t.messages - 1, handler := .received }
    else none
  | .handler ret => t.handlerStep ret

def isCheck : TimerCall → Bool
  | .checkBreakFlag _ => true
  | .checkBreakFlagOver => false

def isOutcome : TimerCall → Bool
  | .checkBreakFlag ret => ret
  | .checkBreakFlagOver => true

/-- No `checkBreakFlagOver` comes after an outcome. -/
def Once (calls : List TimerCall) : Prop :=
  calls.Pairwise fun a b => b = .checkBreakFlagOver → isOutcome a = false

instance : DecidablePred Once := fun calls => by unfold Once; infer_instance

structure OneOutcome (times : Int) (t : CustomTimer) : Prop where
  checks : t.calls.countP isCheck ≤ times.toNat
  once : Once t.calls

instance (times : Int) : DecidablePred (OneOutcome times) := fun t =>
  decidable_of_iff (t.calls.countP isCheck ≤ times.toNat ∧ Once t.calls)
    ⟨fun h => ⟨h.1, h.2⟩, fun h => ⟨h.1, h.2⟩⟩

/-- A tick that is taken off is a check, made or about to be made; and what the timer has reported
shows in the places of the two threads. -/
structure Ledger (times : Int) (t : CustomTimer) : Prop where
  ticks : t.calls.countP isCheck + (if t.handler = .check then 1 else 0) + t.mTiles.toNat ≤
    times.toNat
  outcomes : t.calls.countP isOutcome =
    t.stops + if t.handler = .quit ∨ t.handler = .done then 1 else 0
  callback : t.messages ≠ 0 ∨ t.handler ≠ .idle → t.mTimerCallback = true

/-- A stop comes before the timer has reported or ended, and the timer does not run out in the
middle of one. -/
def Placed (t : CustomTimer) : TimerEvent → Prop
  | .stopTimer => t.mTimerCallback = true → t.stops = 0 ∧ t.handler ≠ .quit ∧ t.handler ≠ .done
  | .handler _ => t.handler = .over → t.stops = 0
  | _ => True

instance (t : CustomTimer) (e : TimerEvent) : Decidable (Placed t e) := by
  unfold Placed
  split <;> infer_instance

section Steps

variable {times : Int} {t t' : CustomTimer} {e : TimerEvent}

theorem ledger_new (times : Int) : Ledger times (new times) :=
  ⟨Nat.le_of_eq (Nat.zero_add _), rfl, by simp [new]⟩

theorem Ledger.startTimer (h : Ledger times t) : Ledger times t.startTimer := by
  unfold CustomTimer.startTimer sendEmptyMessage
  split
  · exact ⟨h.ticks, h.outcomes, fun _ => rfl⟩
  · exact ⟨h.ticks, h.outcomes, fun _ => rfl⟩

theorem Ledger.stopTimer (h : Ledger times t) : Ledger times t.stopTimer := by
  unfold CustomTimer.stopTimer checkBreakFlagOver
  split
  · refine ⟨?_, ?_, h.callback⟩
    · rw [List.countP_append]
      exact h.ticks
    · rw [List.countP_append, h.outcomes, Nat.add_right_comm]
      rfl
  · exact ⟨h.ticks, h.outcomes, h.callback⟩

theorem Ledger.stopperStep (h : Ledger times t) (hStep : t.stopperStep = some t') :
    Ledger times t' := by
  unfold CustomTimer.stopperStep at hStep
  split at hStep
  · cases hStep
  · cases hStep
    exact ⟨h.ticks, h.outcomes, fun hBusy => h.callback (Or.inr (by simpa using hBusy))⟩
  · cases hStep
    exact ⟨h.ticks, h.outcomes, h.callback⟩

theorem Ledger.handlerStep {ret : Bool} (h : Ledger times t)
    (hStep : t.handlerStep ret = some t') : Ledger times t' := by
  obtain ⟨hTicks, hOutcomes, hCallback⟩ := h
  have hSet : t.handler ≠ .idle → t.mTimerCallback = true := fun hBusy => hCallback (Or.inr hBusy)
  unfold CustomTimer.handlerStep at hStep
  split at hStep <;> rename_i hHandler <;>
    simp only [hHandler, ne_eq, reduceCtorEq, not_false_eq_true, forall_const, if_true, if_false,
      or_self, true_or, or_true] at hTicks hOutcomes hSet
  · cases hStep
  · cases hStep
  · split at hStep
    · cases hStep
      exact ⟨hTicks, hOutcomes, fun _ => hSet⟩
    · cases hStep
      refine ⟨?_, hOutcomes, fun _ => hSet⟩
      dsimp only
      rw [if_pos rfl]
      omega
  · cases hStep
    rw [checkBreakFlagOver, if_pos hSet]
    refine ⟨?_, ?_, fun _ => hSet⟩
    · rw [List.countP_append]
      exact hTicks
    · rw [List.countP_append, hOutcomes]
      rfl
  · rw [if_pos hSet] at hStep
    cases hStep
    refine ⟨?_, ?_, fun _ => hSet⟩
    · cases ret <;> simpa [List.countP_append, isCheck] using hTicks
    · cases ret <;> simp [List.countP_append, isOutcome, hOutcomes]
  · cases hStep
    unfold sendEmptyMessage
    split
    · exact ⟨hTicks, hOutcomes, fun _ => hSet⟩
    · exact ⟨hTicks, hOutcomes, fun _ => hSet⟩
  · cases hStep
    exact ⟨hTicks, hOutcomes, fun _ => hSet⟩

theorem Ledger.step (h : Ledger times t) (hStep : step t e = some t') : Ledger times t' := by
  cases e with
  | startTimer => cases hStep; exact h.startTimer
  | stopTimer =>
    obtain ⟨-, hNext⟩ := Option.ite_none_right_eq_some.mp hStep
    cases hNext
    exact h.stopTimer
  | stopper => exact h.stopperStep hStep
  | message =>
    obtain ⟨⟨-, hIdle, hSome⟩, hNext⟩ := Option.ite_none_right_eq_some.mp hStep
    cases hNext
    obtain ⟨hTicks, hOutcomes, hCallback⟩ := h
    rw [hIdle] at hTicks hOutcomes
    exact ⟨hTicks, hOutcomes, fun _ => hCallback (Or.inl hSome)⟩
  | handler ret => exact h.handlerStep hStep

theorem calls_sendEmptyMessage (t : CustomTimer) : t.sendEmptyMessage.calls = t.calls := by
  unfold sendEmptyMessage
  split <;> rfl

/-- The calls that a step makes. -/
theorem calls_step (hStep : step t e = some t') :
    (t'.calls = t.calls ∧ (e = .stopTimer → t.mTimerCallback = false) ∧
        (t.handler = .over → (∃ ret, e = .handler ret) → t.mTimerCallback = false)) ∨
      (∃ ret, t'.calls = t.calls ++ [.checkBreakFlag ret] ∧ e = .handler ret ∧
        t.handler = .check) ∨
      t'.calls = t.calls ++ [.checkBreakFlagOver] ∧ t.mTimerCallback = true ∧
        (e = .stopTimer ∨ (∃ ret, e = .handler ret) ∧ t.handler = .over) := by
  cases e with
  | startTimer =>
    cases hStep
    exact Or.inl ⟨calls_sendEmptyMessage _, nofun, nofun⟩
  | stopTimer =>
    obtain ⟨-, hNext⟩ := Option.ite_none_right_eq_some.mp hStep
    cases hNext
    unfold CustomTimer.stopTimer checkBreakFlagOver
    split
    · exact Or.inr (Or.inr ⟨rfl, ‹_›, Or.inl rfl⟩)
    · exact Or.inl ⟨rfl, fun _ => Bool.not_eq_true _ ▸ ‹¬ t.mTimerCallback = true›, nofun⟩
  | stopper =>
    unfold CustomTimer.step CustomTimer.stopperStep at hStep
    dsimp only at hStep
    split at hStep <;> cases hStep <;> exact Or.inl ⟨rfl, nofun, nofun⟩
  | message =>
    obtain ⟨-, hNext⟩ := Option.ite_none_right_eq_some.mp hStep
    cases hNext
    exact Or.inl ⟨rfl, nofun, nofun⟩
  | handler ret =>
    unfold CustomTimer.step CustomTimer.handlerStep at hStep
    dsimp only at hStep
    split at hStep <;> grind [checkBreakFlagOver, calls_sendEmptyMessage]

theorem once_append_check {calls : List TimerCall} (h : Once calls) (ret : Bool) :
    Once (calls ++ [.checkBreakFlag ret]) :=
  List.pairwise_append.mpr ⟨h, List.pairwise_singleton _ _, by simp⟩

theorem once_append_over {calls : List TimerCall} (h : Once calls) :
    Once (calls ++ [.checkBreakFlagOver]) ↔ calls.countP isOutcome = 0 := by
  rw [List.countP_eq_zero]
  constructor
  · intro hAppend a ha hOut
    have hBefore := (List.pairwise_append.mp hAppend).2.2 a ha _ (List.mem_singleton_self _) rfl
    exact absurd hOut (hBefore ▸ Bool.false_ne_true)
  · intro hNone
    refine List.pairwise_append.mpr ⟨h, List.pairwise_singleton _ _, ?_⟩
    intro a ha b _ _
    exact Bool.eq_false_iff.mpr (hNone a ha)

theorem oneOutcome_step_iff (h : Ledger times t) (hOne : OneOutcome times t)
    (hStep : step t e = some t') : OneOutcome times t' ↔ Placed t e := by
  have hTicks := (h.step hStep).ticks
  have hChecks : t'.calls.countP isCheck ≤ times.toNat := by omega
  have hOnce : OneOutcome times t' ↔ Once t'.calls := ⟨OneOutcome.once, fun h => ⟨hChecks, h⟩⟩
  rw [hOnce]
  rcases calls_step hStep with ⟨hSame, hNoStop, hNoOver⟩ | ⟨ret, hCheck, rfl, hHandler⟩ |
    ⟨hOver, hSet, rfl | ⟨⟨ret, rfl⟩, hHandler⟩⟩
  · rw [hSame]
    refine iff_of_true hOne.once ?_
    unfold Placed
    split
    · intro hSet
      exact absurd hSet (hNoStop rfl ▸ Bool.false_ne_true)
    · intro hHandler
      have hSet := h.callback (Or.inr (by rw [hHandler]; nofun))
      exact absurd hSet (hNoOver hHandler ⟨_, rfl⟩ ▸ Bool.false_ne_true)
    · trivial
  · rw [hCheck]
    refine iff_of_true (once_append_check hOne.once ret) ?_
    intro hOver
    exact absurd (hHandler.symm.trans hOver) (by decide)
  · rw [hOver, once_append_over hOne.once, h.outcomes]
    simp [Placed, hSet]
  · rw [hOver, once_append_over hOne.once, h.outcomes, hHandler]
    simp [Placed, hHandler]

/-- A timer that nobody stops: it loops until it has ended, and has a message on its way. -/
structure Unstopped (t : CustomTimer) : Prop where
  stopper : t.stopper = .idle
  stops : t.stops = 0
  looping : t.looping = true ∨ t.handler = .done
  onItsWay : t.mTimerCallback = true → t.handler = .idle → t.messages ≠ 0

theorem unstopped_new (times : Int) : Unstopped (new times) :=
  ⟨rfl, rfl, Or.inl rfl, nofun⟩

theorem Unstopped.startTimer (h : Unstopped t) : Unstopped t.startTimer := by
  unfold CustomTimer.startTimer sendEmptyMessage
  obtain hLooping | hDone := h.looping
  · rw [if_pos hLooping]
    exact ⟨h.stopper, h.stops, h.looping, fun _ _ => Nat.succ_ne_zero _⟩
  · split
    · exact ⟨h.stopper, h.stops, h.looping, fun _ _ => Nat.succ_ne_zero _⟩
    · exact ⟨h.stopper, h.stops, h.looping, fun _ hIdle => absurd (hIdle.symm.trans hDone) (by decide)⟩

def messagesLeft (t : CustomTimer) : Nat :=
  match t.handler with
  | .idle | .check | .again => t.mTiles.toNat + 1
  | .received => t.mTiles.toNat
  | .over | .quit | .done => 0

def statementsLeft (t : CustomTimer) : Nat :=
  match t.handler with
  | .idle => 4 * t.mTiles.toNat + 4
  | .received => 4 * t.mTiles.toNat + 3
  | .check => 4 * t.mTiles.toNat + 6
  | .again => 4 * t.mTiles.toNat + 5
  | .over => 2
  | .quit => 1
  | .done => 0

def isMessage : TimerEvent → Nat
  | .message => 1
  | _ => 0

def ofHandler : TimerEvent → Nat
  | .message | .handler _ => 1
  | _ => 0

theorem Unstopped.handlerStep {ret : Bool} (h : Unstopped t)
    (hStep : t.handlerStep ret = some t') :
    Unstopped t' ∧ messagesLeft t' ≤ messagesLeft t ∧ statementsLeft t' + 1 ≤ statementsLeft t := by
  obtain ⟨hStopper, hStops, hLooping, -⟩ := h
  unfold CustomTimer.handlerStep at hStep
  refine ⟨⟨?_, ?_, ?_, ?_⟩, ?_, ?_⟩
  · split at hStep <;> grind [checkBreakFlagOver, sendEmptyMessage]
  · split at hStep <;> grind [checkBreakFlagOver, sendEmptyMessage]
  · split at hStep <;> grind [checkBreakFlagOver, sendEmptyMessage]
  · split at hStep <;> grind [checkBreakFlagOver, sendEmptyMessage]
  · unfold messagesLeft
    split at hStep <;> grind [checkBreakFlagOver, sendEmptyMessage]
  · unfold statementsLeft
    split at hStep <;> grind [checkBreakFlagOver, sendEmptyMessage]

theorem left_startTimer (t : CustomTimer) :
    messagesLeft t.startTimer = messagesLeft t ∧ statementsLeft t.startTimer = statementsLeft t := by
  unfold CustomTimer.startTimer sendEmptyMessage
  split <;> exact ⟨rfl, rfl⟩

theorem Unstopped.step (h : Unstopped t) (hEvent : e ≠ .stopTimer) (hStep : step t e = some t') :
    Unstopped t' ∧ messagesLeft t' + isMessage e ≤ messagesLeft t ∧
      statementsLeft t' + ofHandler e ≤ statementsLeft t := by
  cases e with
  | startTimer =>
    cases hStep
    obtain ⟨hMessages, hStatements⟩ := left_startTimer t
    exact ⟨h.startTimer, Nat.le_of_eq hMessages, Nat.le_of_eq hStatements⟩
  | stopTimer => contradiction
  | stopper =>
    unfold CustomTimer.step CustomTimer.stopperStep at hStep
    rw [h.stopper] at hStep
    cases hStep
  | message =>
    obtain ⟨⟨hLooping, hIdle, -⟩, hNext⟩ := Option.ite_none_right_eq_some.mp hStep
    cases hNext
    refine ⟨⟨h.stopper, h.stops, Or.inl hLooping, nofun⟩, ?_, ?_⟩
    · simp [messagesLeft, isMessage, hIdle]
    · simp [statementsLeft, ofHandler, hIdle]
  | handler ret => exact h.handlerStep hStep

theorem exists_handlerStep (hIdle : t.handler ≠ .idle) (hDone : t.handler ≠ .done) :
    ∃ t', t.handlerStep false = some t' := by
  unfold CustomTimer.handlerStep
  split
  · contradiction
  · contradiction
  · split <;> exact ⟨_, rfl⟩
  · exact ⟨_, rfl⟩
  · split <;> exact ⟨_, rfl⟩
  · exact ⟨_, rfl⟩
  · exact ⟨_, rfl⟩

theorem Unstopped.goes_on (h : Unstopped t) (hLedger : Ledger times t)
    (hSet : t.mTimerCallback = true) :
    (t.handler = .done ∧ t.calls.countP isOutcome = 1) ∨
      t.calls.countP isOutcome ≤ 1 ∧ ∃ e t', ofHandler e = 1 ∧ CustomTimer.step t e = some t' := by
  have hOutcomes := hLedger.outcomes
  rw [h.stops, Nat.zero_add] at hOutcomes
  by_cases hDone : t.handler = .done
  · rw [if_pos (Or.inr hDone)] at hOutcomes
    exact Or.inl ⟨hDone, hOutcomes⟩
  · have hAtMost : t.calls.countP isOutcome ≤ 1 := by
      rw [hOutcomes]
      split <;> decide
    refine Or.inr ⟨hAtMost, ?_⟩
    by_cases hIdle : t.handler = .idle
    · have hLooping := h.looping.resolve_right hDone
      exact ⟨.message, _, rfl, if_pos ⟨hLooping, hIdle, h.onItsWay hSet hIdle⟩⟩
    · obtain ⟨t', hNext⟩ := exists_handlerStep hIdle hDone
      exact ⟨.handler false, t', rfl, hNext⟩

end Steps

theorem oneOutcome_new (times : Int) : OneOutcome times (new times) :=
  ⟨Nat.zero_le _, List.Pairwise.nil⟩

theorem always_oneOutcome_iff (times : Int) (es : List TimerEvent) :
    Always step (OneOutcome times) (new times) es ↔ Meets step Placed (new times) es := by
  have hKeep : ∀ {t e t'}, Ledger times t → OneOutcome times t → step t e = some t' →
      OneOutcome times t' → Ledger times t' := fun hLedger _ hStep _ => hLedger.step hStep
  have hExact : ∀ {t e t'}, Ledger times t → OneOutcome times t → step t e = some t' →
      (OneOutcome times t' ↔ Placed t e) := oneOutcome_step_iff
  exact always_iff_meets hKeep hExact (ledger_new times) (oneOutcome_new times)

theorem run_unstopped {times : Int} {es : List TimerEvent} {t : CustomTimer}
    (hRun : run step (new times) es = some t) (hNoStop : ∀ e ∈ es, e ≠ .stopTimer) :
    Unstopped t ∧ (es.map isMessage).sum ≤ times.toNat + 1 ∧
      (es.map ofHandler).sum ≤ 4 * times.toNat + 4 := by
  have hMessages : ∀ {t : CustomTimer} {e : TimerEvent} {t'}, Unstopped t → e ≠ .stopTimer →
      step t e = some t' → Unstopped t' ∧ messagesLeft t' + isMessage e ≤ messagesLeft t :=
    fun h hEvent hStep => ⟨(h.step hEvent hStep).1, (h.step hEvent hStep).2.1⟩
  have hStatements : ∀ {t : CustomTimer} {e : TimerEvent} {t'}, Unstopped t → e ≠ .stopTimer →
      step t e = some t' → Unstopped t' ∧ statementsLeft t' + ofHandler e ≤ statementsLeft t :=
    fun h hEvent hStep => ⟨(h.step hEvent hStep).1, (h.step hEvent hStep).2.2⟩
  obtain ⟨hNext, hCount⟩ := run_potential @hMessages (unstopped_new times) hNoStop hRun
  obtain ⟨-, hSteps⟩ := run_potential @hStatements (unstopped_new times) hNoStop hRun
  refine ⟨hNext, ?_, ?_⟩
  · exact Nat.le_trans (Nat.le_add_left _ _) hCount
  · exact Nat.le_trans (Nat.le_add_left _ _) hSteps

theorem run_ledger {times : Int} {es : List TimerEvent} {t : CustomTimer}
    (hRun : run step (new times) es = some t) : Ledger times t := by
  have hKeep : ∀ {t : CustomTimer} {e : TimerEvent} {t'}, Ledger times t → step t e = some t' →
      Ledger times t' := fun h hStep => h.step hStep
  exact run_invariant @hKeep (ledger_new times) hRun

/-- One outcome is reported exactly in the runs that place their stops before it; without a stop
the timer ends, within one message more than it has ticks, and has then reported once. -/
theorem timer_reports_once_iff (times : Int) (es : List TimerEvent) :
    (Always step (OneOutcome times) (new times) es ↔ Meets step Placed (new times) es) ∧
      ∀ t, run step (new times) es = some t → (∀ e ∈ es, e ≠ .stopTimer) →
        (es.map isMessage).sum ≤ times.toNat + 1 ∧
        (es.map ofHandler).sum ≤ 4 * times.toNat + 4 ∧
        (t.mTimerCallback = true →
          (t.handler = .done ∧ t.calls.countP isOutcome = 1) ∨
            t.calls.countP isOutcome ≤ 1 ∧ ∃ e t', ofHandler e = 1 ∧ step t e = some t') := by
  refine ⟨always_oneOutcome_iff times es, fun t hRun hNoStop => ?_⟩
  obtain ⟨hUnstopped, hMessages, hStatements⟩ := run_unstopped hRun hNoStop
  exact ⟨hMessages, hStatements, fun hSet => hUnstopped.goes_on (run_ledger hRun) hSet⟩

def succeeds : List TimerEvent := [.message, .handler true, .handler true, .handler true]

def ticks : List TimerEvent := [.message, .handler false, .handler false, .handler false]

theorem timer_reports_once_thirdTick :
    Always step (OneOutcome 7) (new 7) (.startTimer :: ticks ++ ticks ++ succeeds) ∧
      ((.startTimer :: ticks ++ ticks ++ succeeds).map isMessage).sum ≤ 8 :=
  ⟨(timer_reports_once_iff 7 _).1.mpr (by decide +kernel),
    ((timer_reports_once_iff 7 _).2 _ rfl (by decide)).1⟩

/-- Stopped when it has succeeded, or twice, the timer reports a failure too much. -/
theorem reported_again :
    ¬ Always step (OneOutcome 1) (new 1) (.startTimer :: succeeds ++ [.stopTimer]) ∧
      ¬ Always step (OneOutcome 7) (new 7)
        [.startTimer, .stopTimer, .stopper, .stopper, .stopTimer] := by
  decide +kernel

end CustomTimer
end LocalCall.Utils
