import LocalCall.Data.FrameBufferQueueNew
import LocalCall.Library.Transition
import Mathlib.Algebra.Ring.Int.Defs

/-! # The unsynchronised counter of the frame queue

One thread offers frames and another polls them. `mCount++` and `mCount--` read and write the
counter in two steps, so one thread can write back a count that the other has changed since; and
the counter goes up before the frame is there to be polled.
-/
namespace LocalCall.Data
open Transition
set_option autoImplicit false

variable {S : Type}

/-- Where `offerCustom` is: `write` carries the count that was read. -/
inductive OfferPc (S : Type) where
  | idle
  | read (data : BufferDataExt S)
  | write (data : BufferDataExt S) (count : Int)
  | offer (data : BufferDataExt S)
  deriving DecidableEq

inductive PollPc where
  | idle | test | read | write (count : Int) | poll
  deriving DecidableEq

/-- `returned` records what each `pollCustom` returned, and how many frames were queued then. -/
structure CounterRace (S : Type) where
  queue : FrameBufferQueueNew S
  producer : OfferPc S
  consumer : PollPc
  returned : List (Option (BufferDataExt S) × Nat)
  deriving DecidableEq

inductive RaceEvent (S : Type) where
  | offerCustom (data : Option (BufferDataExt S))
  | producer
  | pollCustom
  | consumer
  deriving DecidableEq

namespace CounterRace

def start (size datasize : Nat) : CounterRace S := ⟨.new size datasize, .idle, .idle, []⟩

def answer (data : Option (BufferDataExt S)) (s : CounterRace S) : CounterRace S :=
  { s with consumer := .idle, returned := s.returned ++ [(data, s.queue.queue.length)] }

def producerStep (s : CounterRace S) : Option (CounterRace S) :=
  match s.producer with
  | .idle => none
  | .read data => some { s with producer := .write data s.queue.mCount }
  | .write data count =>
    some { s with queue := { s.queue with mCount := count + 1 }, producer := .offer data }
  | .offer data =>
    some { s with
      queue := { s.queue with queue := s.queue.queue ++ [data] }
      producer := .idle }

def consumerStep (s : CounterRace S) : Option (CounterRace S) :=
  match s.consumer with
  | .idle => none
  | .test => some (if s.queue.mCount = 0 then s.answer none else { s with consumer := .read })
  | .read => some { s with consumer := .write s.queue.mCount }
  | .write count =>
    some { s with queue := { s.queue with mCount := count - 1 }, consumer := .poll }
  | .poll =>
    let s' := s.answer s.queue.queue.head?
    some { s' with queue := { s.queue with queue := s.queue.queue.tail } }

end CounterRace

open CounterRace

/-- A thread makes its next call when it is out of the last one; null is not offered. -/
def raceStep (s : CounterRace S) : RaceEvent S → Option (CounterRace S)
  | .offerCustom data =>
    match s.producer, data with
    | .idle, some data => some { s with producer := .read data }
    | .idle, none => some s
    | _, _ => none
  | .producer => s.producerStep
  | .pollCustom => if s.consumer = .idle then some { s with consumer := .test } else none
  | .consumer => s.consumerStep

/-- Between calls the counter is the length of the queue, and no poll has returned null with a
frame queued. -/
structure Settled (s : CounterRace S) : Prop where
  counted : s.producer = .idle → s.consumer = .idle →
    s.queue.mCount = s.queue.queue.length ∧ 0 ≤ s.queue.mCount
  none_empty : ∀ answer ∈ s.returned, answer.1 = none → answer.2 = 0

instance [DecidableEq S] : DecidablePred (@Settled S) := fun s =>
  decidable_of_iff
    ((s.producer = .idle → s.consumer = .idle →
        s.queue.mCount = s.queue.queue.length ∧ 0 ≤ s.queue.mCount) ∧
      ∀ answer ∈ s.returned, answer.1 = none → answer.2 = 0)
    ⟨fun h => ⟨h.1, h.2⟩, fun h => ⟨h.counted, h.none_empty⟩⟩

/-- A write finds the count as it was read, and a poll finds a frame. -/
def Undisturbed (s : CounterRace S) : RaceEvent S → Prop
  | .producer => ∀ data count, s.producer = .write data count → s.queue.mCount = count
  | .consumer =>
    (∀ count, s.consumer = .write count → s.queue.mCount = count) ∧
      (s.consumer = .poll → s.queue.queue ≠ [])
  | _ => True

def OfferPc.ahead : OfferPc S → Int
  | .offer _ => 1
  | _ => 0

def PollPc.ahead : PollPc → Int
  | .poll => 1
  | _ => 0

/-- By how much the counter is off. -/
def drift (s : CounterRace S) : Int :=
  s.queue.mCount - s.queue.queue.length - s.producer.ahead + s.consumer.ahead

/-- What a step adds to the drift: a write takes back the updates made since the read, a poll of
an empty queue does not take the frame that it was counted for. -/
def lost (s : CounterRace S) : RaceEvent S → Int
  | .producer =>
    match s.producer with
    | .write _ count => count - s.queue.mCount
    | _ => 0
  | .consumer =>
    match s.consumer with
    | .write count => count - s.queue.mCount
    | .poll => if s.queue.queue = [] then -1 else 0
    | _ => 0
  | _ => 0

section Steps

variable {s s' : CounterRace S} {e : RaceEvent S}

theorem drift_producerStep (hStep : s.producerStep = some s') :
    drift s' = drift s + lost s .producer := by
  rw [producerStep] at hStep
  rw [drift, drift, lost]
  cases hProducer : s.producer with
  | idle =>
    rw [hProducer] at hStep
    cases hStep
  | read data =>
    rw [hProducer] at hStep
    cases hStep
    simp only [OfferPc.ahead, Int.add_zero]
  | write data count =>
    rw [hProducer] at hStep
    cases hStep
    simp only [OfferPc.ahead]
    omega
  | offer data =>
    rw [hProducer] at hStep
    cases hStep
    simp only [OfferPc.ahead, List.length_append, List.length_singleton]
    omega

theorem drift_consumerStep (hStep : s.consumerStep = some s') :
    drift s' = drift s + lost s .consumer := by
  rw [consumerStep] at hStep
  rw [drift, drift, lost]
  cases hConsumer : s.consumer with
  | idle =>
    rw [hConsumer] at hStep
    cases hStep
  | test =>
    rw [hConsumer] at hStep
    cases hStep
    by_cases hZero : s.queue.mCount = 0
    · simp only [if_pos hZero, answer, PollPc.ahead, Int.add_zero]
    · simp only [if_neg hZero, PollPc.ahead, Int.add_zero]
  | read =>
    rw [hConsumer] at hStep
    cases hStep
    simp only [PollPc.ahead, Int.add_zero]
  | write count =>
    rw [hConsumer] at hStep
    cases hStep
    simp only [PollPc.ahead]
    omega
  | poll =>
    rw [hConsumer] at hStep
    cases hStep
    cases hQueue : s.queue.queue with
    | nil => simp [answer, PollPc.ahead]
    | cons data rest =>
      simp only [answer, PollPc.ahead, List.tail_cons, List.length_cons, reduceCtorEq, if_false]
      omega

theorem drift_raceStep (hStep : raceStep s e = some s') : drift s' = drift s + lost s e := by
  cases e with
  | offerCustom data =>
    unfold raceStep at hStep
    dsimp only at hStep
    split at hStep
    · rename_i hIdle
      cases hStep
      simp only [drift, lost, hIdle, OfferPc.ahead, Int.add_zero]
    · cases hStep
      exact (Int.add_zero _).symm
    · cases hStep
  | producer => exact drift_producerStep hStep
  | pollCustom =>
    obtain ⟨hIdle, hNext⟩ := Option.ite_none_right_eq_some.mp hStep
    cases hNext
    simp only [drift, lost, hIdle, PollPc.ahead, Int.add_zero]
  | consumer => exact drift_consumerStep hStep

theorem lost_eq_zero_iff (s : CounterRace S) (e : RaceEvent S) :
    lost s e = 0 ↔ Undisturbed s e := by
  cases e with
  | offerCustom data => exact iff_of_true rfl trivial
  | producer =>
    rw [lost, Undisturbed]
    cases s.producer with
    | write data count =>
      dsimp only
      constructor
      · rintro hLost _ _ ⟨⟩
        omega
      · intro hSame
        have hCount := hSame data count rfl
        omega
    | idle => exact iff_of_true rfl nofun
    | read data => exact iff_of_true rfl nofun
    | offer data => exact iff_of_true rfl nofun
  | pollCustom => exact iff_of_true rfl trivial
  | consumer =>
    rw [lost, Undisturbed]
    cases s.consumer with
    | write count =>
      dsimp only
      constructor
      · refine fun hLost => ⟨?_, nofun⟩
        rintro _ ⟨⟩
        omega
      · rintro ⟨hSame, -⟩
        have hCount := hSame count rfl
        omega
    | poll =>
      dsimp only
      constructor
      · intro hLost
        refine ⟨nofun, fun _ hEmpty => ?_⟩
        rw [if_pos hEmpty] at hLost
        exact absurd hLost (by decide)
      · rintro ⟨-, hFrame⟩
        exact if_neg (hFrame rfl)
    | idle => exact iff_of_true rfl ⟨nofun, nofun⟩
    | test => exact iff_of_true rfl ⟨nofun, nofun⟩
    | read => exact iff_of_true rfl ⟨nofun, nofun⟩

instance (s : CounterRace S) (e : RaceEvent S) : Decidable (Undisturbed s e) :=
  decidable_of_iff _ (lost_eq_zero_iff s e)

theorem drift_run {es : List (RaceEvent S)} (h : Meets raceStep Undisturbed s es)
    (hRun : run raceStep s es = some s') : drift s' = drift s := by
  induction es generalizing s with
  | nil =>
    cases hRun
    rfl
  | cons e es ih =>
    obtain ⟨mid, hStep, hRun⟩ := Option.bind_eq_some_iff.mp hRun
    obtain ⟨hNow, hRest⟩ := h mid hStep
    rw [ih hRest hRun, drift_raceStep hStep, (lost_eq_zero_iff s e).mpr hNow, Int.add_zero]

theorem drift_of_between (hProducer : s.producer = .idle) (hConsumer : s.consumer = .idle) :
    drift s = s.queue.mCount - s.queue.queue.length := by
  rw [drift, hProducer, hConsumer]
  simp only [OfferPc.ahead, PollPc.ahead]
  omega

/-- The counter is not off, and so far no null has hidden a frame. -/
structure InStep (s : CounterRace S) : Prop where
  drift : drift s = 0
  none_empty : ∀ answer ∈ s.returned, answer.1 = none → answer.2 = 0

theorem InStep.settled (h : InStep s) : Settled s := by
  refine ⟨?_, h.none_empty⟩
  intro hProducer hConsumer
  have hDrift := h.drift
  rw [drift_of_between hProducer hConsumer] at hDrift
  constructor
  · omega
  · omega

theorem returned_consumerStep (hStep : s.consumerStep = some s') :
    s'.returned = s.returned ∨
      (s.consumer = .test ∧ s.queue.mCount = 0 ∧
        s'.returned = s.returned ++ [(none, s.queue.queue.length)]) ∨
      s.consumer = .poll ∧
        s'.returned = s.returned ++ [(s.queue.queue.head?, s.queue.queue.length)] := by
  rw [consumerStep] at hStep
  split at hStep
  · cases hStep
  · rename_i hTest
    by_cases hZero : s.queue.mCount = 0
    · rw [if_pos hZero] at hStep
      cases hStep
      exact Or.inr (Or.inl ⟨hTest, hZero, rfl⟩)
    · rw [if_neg hZero] at hStep
      cases hStep
      exact Or.inl rfl
  · cases hStep
    exact Or.inl rfl
  · cases hStep
    exact Or.inl rfl
  · rename_i hPoll
    cases hStep
    exact Or.inr (Or.inr ⟨hPoll, rfl⟩)

theorem InStep.empty_of_test (h : InStep s) (hTest : s.consumer = .test)
    (hZero : s.queue.mCount = 0) : s.queue.queue.length = 0 := by
  have hDrift := h.drift
  rw [Data.drift, hTest, hZero] at hDrift
  simp only [PollPc.ahead] at hDrift
  have hAhead : 0 ≤ s.producer.ahead := by
    cases s.producer <;> simp only [OfferPc.ahead] <;> omega
  omega

theorem InStep.step (h : InStep s) (hUndisturbed : Undisturbed s e)
    (hStep : raceStep s e = some s') : InStep s' := by
  refine ⟨?_, ?_⟩
  · rw [drift_raceStep hStep, (lost_eq_zero_iff s e).mpr hUndisturbed, h.drift]
    rfl
  · cases e with
    | offerCustom data =>
      unfold raceStep at hStep
      dsimp only at hStep
      split at hStep <;> cases hStep <;> exact h.none_empty
    | producer =>
      change s.producerStep = some s' at hStep
      rw [producerStep] at hStep
      split at hStep <;> cases hStep <;> exact h.none_empty
    | pollCustom =>
      obtain ⟨-, hNext⟩ := Option.ite_none_right_eq_some.mp hStep
      cases hNext
      exact h.none_empty
    | consumer =>
      intro given hMem hNone
      rcases returned_consumerStep hStep with hSame | ⟨hTest, hZero, hMore⟩ | ⟨hPoll, hMore⟩
      · exact h.none_empty given (hSame ▸ hMem) hNone
      · rw [hMore] at hMem
        rcases List.mem_append.mp hMem with hOld | hNew
        · exact h.none_empty given hOld hNone
        · rw [List.mem_singleton.mp hNew]
          exact h.empty_of_test hTest hZero
      · rw [hMore] at hMem
        rcases List.mem_append.mp hMem with hOld | hNew
        · exact h.none_empty given hOld hNone
        · rw [List.mem_singleton.mp hNew] at hNone
          exact absurd (List.head?_eq_none_iff.mp hNone) (hUndisturbed.2 hPoll)

end Steps

theorem inStep_start (size datasize : Nat) : InStep (start size datasize : CounterRace S) :=
  ⟨rfl, nofun⟩

theorem always_settled_of_undisturbed (size datasize : Nat) (es : List (RaceEvent S))
    (h : Meets raceStep Undisturbed (start size datasize) es) :
    Always raceStep Settled (start size datasize) es := by
  have hKeep : ∀ {s : CounterRace S} {e s'}, InStep s → Undisturbed s e →
      raceStep s e = some s' → InStep s' :=
    fun hIn hUndisturbed hStep => hIn.step hUndisturbed hStep
  exact always_of_meets hKeep InStep.settled (inStep_start size datasize) h

def takingTurns (a b : BufferDataExt Int) : List (RaceEvent Int) :=
  [.offerCustom (some a), .producer, .producer, .producer,
    .pollCustom, .consumer, .consumer, .consumer, .offerCustom (some b), .producer, .consumer,
    .producer, .producer, .pollCustom, .consumer, .consumer, .consumer, .consumer]

theorem always_settled_takingTurns :
    Meets raceStep Undisturbed (start 100 1) (takingTurns ⟨some [1]⟩ ⟨some [2]⟩) ∧
      Always raceStep Settled (start 100 1) (takingTurns ⟨some [1]⟩ ⟨some [2]⟩) := by
  have hMeets : Meets raceStep Undisturbed (start 100 1)
      (takingTurns ⟨some [1]⟩ ⟨some [2]⟩) := by decide +kernel
  exact ⟨hMeets, always_settled_of_undisturbed 100 1 _ hMeets⟩

/-- A single disturbance is enough: however long the threads then go on undisturbed, the counter
is off whenever both are between calls. -/
theorem miscounted_after_one {size datasize : Nat} {pre post : List (RaceEvent S)}
    {e : RaceEvent S} {s mid s' : CounterRace S}
    (hPre : Meets raceStep Undisturbed (start size datasize) pre)
    (hRunPre : run raceStep (start size datasize) pre = some s)
    (hStep : raceStep s e = some mid) (hDisturbed : ¬ Undisturbed s e)
    (hPost : Meets raceStep Undisturbed mid post) (hRunPost : run raceStep mid post = some s')
    (hProducer : s'.producer = .idle) (hConsumer : s'.consumer = .idle) :
    s'.queue.mCount ≠ s'.queue.queue.length := by
  intro hCounted
  have hZero : drift s' = 0 := by
    rw [drift_of_between hProducer hConsumer, hCounted, Int.sub_self]
  have hStart : drift s = 0 := (drift_run hPre hRunPre).trans (inStep_start size datasize).drift
  have hLost : lost s e = 0 := by
    calc
      lost s e = drift s + lost s e := by rw [hStart, Int.zero_add]
      _ = drift mid := (drift_raceStep hStep).symm
      _ = drift s' := (drift_run hPost hRunPost).symm
      _ = 0 := hZero
  exact hDisturbed ((lost_eq_zero_iff s e).mp hLost)

section Atomic

variable {s : CounterRace S}

theorem run_offerCustom (hIdle : s.producer = .idle) (data : BufferDataExt S) :
    run raceStep s [.offerCustom (some data), .producer, .producer, .producer] =
      some { s with queue := s.queue.offerCustom data } := by
  simp [raceStep, producerStep, hIdle, FrameBufferQueueNew.offerCustom]

theorem run_pollCustom (hIdle : s.consumer = .idle) :
    run raceStep s ([.pollCustom, .consumer] ++
        if s.queue.mCount = 0 then [] else [.consumer, .consumer, .consumer]) =
      some { s with
        queue := s.queue.pollCustom.2
        returned := s.returned ++ [(s.queue.pollCustom.1, s.queue.queue.length)] } := by
  by_cases hZero : s.queue.mCount = 0
  · simp [raceStep, consumerStep, hIdle, hZero, answer, FrameBufferQueueNew.pollCustom]
  · simp [raceStep, consumerStep, hIdle, hZero, answer, FrameBufferQueueNew.pollCustom]

end Atomic

/-- The producer reads the count while the consumer is between its read and its write. -/
def lostUpdate (a b : BufferDataExt Int) : List (RaceEvent Int) :=
  [.offerCustom (some a), .producer, .producer, .producer,
    .pollCustom, .consumer, .consumer, .offerCustom (some b), .producer, .producer, .producer,
    .consumer, .consumer, .pollCustom, .consumer]

/-- The consumer polls between the count and the frame. -/
def polledTooSoon (a : BufferDataExt Int) : List (RaceEvent Int) :=
  [.offerCustom (some a), .producer, .producer,
    .pollCustom, .consumer, .consumer, .consumer, .consumer, .producer, .pollCustom, .consumer]

theorem not_always_settled :
    ¬ Always raceStep Settled (start 100 1) (lostUpdate ⟨some [1]⟩ ⟨some [2]⟩) ∧
      ¬ Always raceStep Settled (start 100 1) (polledTooSoon ⟨some [1]⟩) := by
  decide +kernel

end LocalCall.Data
