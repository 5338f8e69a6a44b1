import Mathlib.Algebra.Ring.Int.Defs
import LocalCall.Data.FrameBufferQueue
import LocalCall.Data.FrameBufferQueueNew
import LocalCall.Library.Transition

/-! # The frame queue with buffers of two kinds

At its bound the queue hands out its oldest buffer instead of a fresh one, and one list holds
buffers of bytes and buffers of shorts. So a request gets the other kind when that is the oldest.
-/
namespace LocalCall.Data
open Transition
set_option autoImplicit false

variable {B S : Type}

inductive Kind where
  | byte | short
  deriving DecidableEq

/-- An object of the class `BufferData`, which may be of the extended class. -/
inductive Buffer (B S : Type) where
  | plain (data : BufferData B)
  | ext (data : BufferDataExt S)
  deriving DecidableEq

namespace Buffer

def kind : Buffer B S → Kind
  | .plain _ => .byte
  | .ext _ => .short

/-- The constructors of the extended class leave the array of bytes null. -/
def mBuffer : Buffer B S → Option (List B)
  | .plain data => data.mBuffer
  | .ext _ => none

def asExt : Buffer B S → Option (BufferDataExt S)
  | .plain _ => none
  | .ext data => some data

def mBufferExt (data : Buffer B S) : Option (List S) := data.asExt.bind (·.mBufferExt)

def write (bytes : List B) (shorts : List S) : Buffer B S → Buffer B S
  | .plain data =>
    .plain { data with
      mBuffer := data.mBuffer.map fun old => if bytes.length = old.length then bytes else old }
  | .ext data =>
    .ext ⟨data.mBufferExt.map fun old => if shorts.length = old.length then shorts else old⟩

end Buffer

structure FrameBufferQueueExt (B S : Type) where
  queue : List (Buffer B S)
  mCount : Int
  mBufferCount : Int
  mBufferSize : Int
  deriving DecidableEq

namespace FrameBufferQueueExt

def SIZE : Int := 3

def ofSize (size datasize : Int) : FrameBufferQueueExt B S :=
  ⟨[], 0, if SIZE < size then size else SIZE, datasize⟩

def new (datasize : Int) : FrameBufferQueueExt B S := ⟨[], 0, SIZE, datasize⟩

def clearCustom (q : FrameBufferQueueExt B S) : FrameBufferQueueExt B S :=
  { q with mCount := 0, queue := [] }

def pollCustom (q : FrameBufferQueueExt B S) : Option (Buffer B S) × FrameBufferQueueExt B S :=
  if q.mCount = 0 then (none, q)
  else (q.queue.head?, { q with queue := q.queue.tail, mCount := q.mCount - 1 })

/-- A buffer that is not of the extended class leaves the queue all the same. -/
def pollCustomShort (q : FrameBufferQueueExt B S) :
    Option (BufferDataExt S) × FrameBufferQueueExt B S :=
  if q.mCount = 0 then (none, q)
  else (q.queue.head?.bind Buffer.asExt,
    { q with queue := q.queue.tail, mCount := q.mCount - 1 })

def offerCustom (q : FrameBufferQueueExt B S) : Option (Buffer B S) → FrameBufferQueueExt B S
  | some data => { q with queue := q.queue ++ [data], mCount := q.mCount + 1 }
  | none => q

/-- A buffer with an array of the size; none is the `NegativeArraySizeException`. -/
def allocate {α : Type} (size : Int) (new : Nat → α) : Option α :=
  if size < 0 then none else some (new size.toNat)

def generateBufferData [Zero B] (q : FrameBufferQueueExt B S) :
    Option (Option (Buffer B S) × FrameBufferQueueExt B S) :=
  if q.mBufferCount ≤ q.mCount then some q.pollCustom
  else (allocate q.mBufferSize BufferData.new).map fun data => (some (.plain data), q)

def generateBufferDataShort [Zero S] (q : FrameBufferQueueExt B S) :
    Option (Option (BufferDataExt S) × FrameBufferQueueExt B S) :=
  if q.mBufferCount ≤ q.mCount then some q.pollCustomShort
  else (allocate q.mBufferSize BufferDataExt.new).map fun data => (some data, q)

theorem new_eq_ofSize (datasize : Int) :
    (new datasize : FrameBufferQueueExt B S) = ofSize SIZE datasize := rfl

def generate [Zero B] [Zero S] (q : FrameBufferQueueExt B S) :
    Kind → Option (Option (Buffer B S) × FrameBufferQueueExt B S)
  | .byte => q.generateBufferData
  | .short => q.generateBufferDataShort.map fun (ret, q) => (ret.map .ext, q)

/-- The queue and the client that generates buffers for it. `pending` is the buffer that has been
generated and not been offered yet, and `last` says what the last call that generates has
returned: none is null, and also an exception. -/
structure Client (B S : Type) where
  q : FrameBufferQueueExt B S
  pending : Option (Buffer B S)
  last : Option (Kind × Option (Buffer B S))
  deriving DecidableEq

inductive Call (B S : Type) where
  | clearCustom
  | pollCustom
  | pollCustomShort
  | write (bytes : List B) (shorts : List S)
  | offerCustom
  | generate (kind : Kind)
  deriving DecidableEq

namespace Client

def start (q : FrameBufferQueueExt B S) : Client B S := ⟨q, none, none⟩

def record (kind : Kind) (s : Client B S) :
    Option (Option (Buffer B S) × FrameBufferQueueExt B S) → Client B S
  | some (ret, q) => ⟨q, ret, some (kind, ret)⟩
  | none => { s with last := some (kind, none) }

/-- A buffer that has been generated is offered before the next call that generates. -/
def step [Zero B] [Zero S] (s : Client B S) : Call B S → Option (Client B S)
  | .clearCustom => some { s with q := s.q.clearCustom }
  | .pollCustom => some { s with q := s.q.pollCustom.2 }
  | .pollCustomShort => some { s with q := s.q.pollCustomShort.2 }
  | .write bytes shorts => some { s with pending := s.pending.map (.write bytes shorts) }
  | .offerCustom => some { s with q := s.q.offerCustom s.pending, pending := none }
  | .generate kind => if s.pending.isSome then none else some (s.record kind (s.q.generate kind))

end Client

def Fits (datasize : Int) (kind : Kind) (data : Buffer B S) : Prop :=
  match kind with
  | .byte => ∃ array, data.mBuffer = some array ∧ (array.length : Int) = datasize
  | .short => ∃ array, data.mBufferExt = some array ∧ (array.length : Int) = datasize

/-- What the queue promises: a counter in step with the list, the bound, and a buffer of the kind
and size asked for. -/
structure Represents (size datasize : Int) (s : Client B S) : Prop where
  counted : s.q.mCount = s.q.queue.length
  bounded : s.q.mCount ≤ max size 3
  returned : ∀ kind ret, s.last = some (kind, ret) →
    ∃ data, ret = some data ∧ Fits datasize kind data

/-- There are arrays of the size, and the oldest buffer of a queue at its bound is of the kind. -/
def OldestFits (s : Client B S) : Call B S → Prop
  | .generate kind => 0 < s.q.mBufferSize ∧
    (s.q.mBufferCount ≤ s.q.mCount → s.q.queue.head?.map Buffer.kind = some kind)
  | _ => True

section Polling

variable {q : FrameBufferQueueExt B S}

theorem pollCustomShort_queue (q : FrameBufferQueueExt B S) :
    q.pollCustomShort.2 = q.pollCustom.2 := by
  rw [pollCustomShort, pollCustom]
  split <;> rfl

theorem pollCustom_cases (h : q.mCount = q.queue.length) :
    (q.queue = [] ∧ q.pollCustom = (none, q) ∧ q.pollCustomShort = (none, q)) ∨
    ∃ data rest, q.queue = data :: rest ∧
      q.pollCustom = (some data, { q with queue := rest, mCount := rest.length }) ∧
      q.pollCustomShort = (data.asExt, { q with queue := rest, mCount := rest.length }) := by
  cases hQueue : q.queue with
  | nil =>
    rw [hQueue] at h
    exact Or.inl ⟨rfl, if_pos h, if_pos h⟩
  | cons data rest =>
    rw [hQueue, List.length_cons] at h
    have hSome : q.mCount ≠ 0 := by omega
    have hLeft : q.mCount - 1 = rest.length := by omega
    refine Or.inr ⟨data, rest, rfl, ?_, ?_⟩
    · rw [pollCustom, if_neg hSome, hQueue, hLeft]
      rfl
    · rw [pollCustomShort, if_neg hSome, hQueue, hLeft]
      rfl

def taken (data : Buffer B S) : Kind → Option (Buffer B S)
  | .byte => some data
  | .short => data.asExt.map .ext

def fresh [Zero B] [Zero S] (size : Nat) : Kind → Buffer B S
  | .byte => .plain (.new size)
  | .short => .ext (.new size)

theorem generate_cases [Zero B] [Zero S] (h : q.mCount = q.queue.length)
    (hBound : 0 < q.mBufferCount) (kind : Kind) :
    (q.mBufferCount ≤ q.mCount ∧ ∃ data rest, q.queue = data :: rest ∧
      q.generate kind =
        some (taken data kind, { q with queue := rest, mCount := rest.length })) ∨
    q.mCount < q.mBufferCount ∧
      q.generate kind =
        if q.mBufferSize < 0 then none else some (some (fresh q.mBufferSize.toNat kind), q) := by
  by_cases hFull : q.mBufferCount ≤ q.mCount
  · obtain ⟨hEmpty, -⟩ | ⟨data, rest, hQueue, hPoll, hPollShort⟩ := pollCustom_cases h
    · rw [hEmpty] at h
      simp at h
      omega
    · refine Or.inl ⟨hFull, data, rest, hQueue, ?_⟩
      cases kind with
      | byte => rw [generate, generateBufferData, if_pos hFull, hPoll]; rfl
      | short => rw [generate, generateBufferDataShort, if_pos hFull, hPollShort]; rfl
  · refine Or.inr ⟨by omega, ?_⟩
    cases kind with
    | byte =>
      rw [generate, generateBufferData, if_neg hFull, allocate]
      split <;> rfl
    | short =>
      rw [generate, generateBufferDataShort, if_neg hFull, allocate]
      split <;> rfl

end Polling

/-- What every order of the calls keeps: whoever has generated a buffer has room to offer it. -/
structure InStep (size : Int) (s : Client B S) : Prop where
  counted : s.q.mCount = s.q.queue.length
  limit : s.q.mBufferCount = max size 3
  bounded : s.q.mCount ≤ s.q.mBufferCount
  room : s.pending.isSome = true → s.q.mCount < s.q.mBufferCount

structure Inv (size datasize : Int) (s : Client B S) : Prop extends InStep size s where
  size_eq : s.q.mBufferSize = datasize
  whole : ∀ data, data ∈ s.q.queue ∨ s.pending = some data →
    0 < datasize ∧ Fits datasize data.kind data

section Arrays

variable {datasize : Int}

theorem length_written {α : Type} (new : List α) (array : Option (List α)) :
    (∃ written, (array.map fun old => if new.length = old.length then new else old) = some written ∧
      (written.length : Int) = datasize) ↔
    ∃ old, array = some old ∧ (old.length : Int) = datasize := by
  cases array with
  | none => simp
  | some old =>
    simp only [Option.map_some, Option.some_inj, exists_eq_left']
    split
    · rename_i hLength
      rw [hLength]
    · rfl

theorem fits_write (bytes : List B) (shorts : List S) (kind : Kind) (data : Buffer B S) :
    Fits datasize kind (data.write bytes shorts) ↔ Fits datasize kind data := by
  cases kind with
  | byte =>
    cases data with
    | plain data => exact length_written bytes data.mBuffer
    | ext data => rfl
  | short =>
    cases data with
    | plain data => rfl
    | ext data => exact length_written shorts data.mBufferExt

theorem kind_write (bytes : List B) (shorts : List S) (data : Buffer B S) :
    (data.write bytes shorts).kind = data.kind := by
  cases data <;> rfl

theorem kind_fresh [Zero B] [Zero S] (n : Nat) (kind : Kind) :
    (fresh n kind : Buffer B S).kind = kind := by
  cases kind <;> rfl

theorem length_new {α : Type} [Zero α] (hSize : 0 ≤ datasize) :
    (∃ array, (if datasize.toNat = 0 then none else some (List.replicate datasize.toNat (0 : α))) =
      some array ∧ (array.length : Int) = datasize) ↔ 0 < datasize := by
  split
  · simp
    omega
  · simp
    omega

theorem fits_fresh [Zero B] [Zero S] (hSize : 0 ≤ datasize) (kind : Kind) :
    Fits datasize kind (fresh datasize.toNat kind : Buffer B S) ↔ 0 < datasize := by
  cases kind with
  | byte => exact length_new (α := B) hSize
  | short => exact length_new (α := S) hSize

theorem fits_taken {data : Buffer B S} (h : Fits datasize data.kind data) (kind : Kind) :
    (∃ ret, taken data kind = some ret ∧ Fits datasize kind ret) ↔ data.kind = kind := by
  cases data with
  | plain data =>
    cases kind with
    | byte => exact iff_of_true ⟨_, rfl, h⟩ rfl
    | short => exact iff_of_false nofun nofun
  | ext data =>
    cases kind with
    | byte =>
      refine iff_of_false ?_ nofun
      rintro ⟨_, ⟨⟩, array, hNone, -⟩
      cases hNone
    | short => exact iff_of_true ⟨_, rfl, h⟩ rfl

theorem eq_of_taken {data ret : Buffer B S} {kind : Kind} (h : taken data kind = some ret) :
    ret = data := by
  cases kind with
  | byte => exact (Option.some.inj h).symm
  | short =>
    cases data with
    | plain data => cases h
    | ext data => exact (Option.some.inj h).symm

end Arrays

section Steps

variable {size datasize : Int} {s s' : Client B S} {e : Call B S}

theorem InStep.poll (h : InStep size s) : InStep size { s with q := s.q.pollCustom.2 } := by
  obtain ⟨hCounted, hLimit, hBounded, hRoom⟩ := h
  obtain ⟨-, hPoll, -⟩ | ⟨data, rest, hQueue, hPoll, -⟩ := pollCustom_cases hCounted
  · rw [hPoll]
    exact ⟨hCounted, hLimit, hBounded, hRoom⟩
  · rw [hPoll]
    rw [hQueue, List.length_cons] at hCounted
    have hLess : (rest.length : Int) < s.q.mBufferCount := by omega
    exact ⟨rfl, hLimit, Int.le_of_lt hLess, fun _ => hLess⟩

theorem inStep_start (size datasize : Int) :
    InStep size (Client.start (ofSize size datasize : FrameBufferQueueExt B S)) := by
  have hLimit : (ofSize size datasize : FrameBufferQueueExt B S).mBufferCount = max size 3 := by
    change (if 3 < size then size else 3) = max size 3
    by_cases hLarge : 3 < size
    · rw [if_pos hLarge]
      omega
    · rw [if_neg hLarge]
      omega
  refine ⟨rfl, hLimit, ?_, nofun⟩
  rw [Client.start, hLimit]
  change (0 : Int) ≤ max size 3
  omega

theorem InStep.represents_iff (h : InStep size s) :
    Represents size datasize s ↔
      ∀ kind ret, s.last = some (kind, ret) → ∃ data, ret = some data ∧ Fits datasize kind data := by
  constructor
  · intro hRepresents
    exact hRepresents.returned
  · intro hReturned
    exact ⟨h.counted, h.limit ▸ h.bounded, hReturned⟩

theorem whole_poll (h : Inv size datasize s) :
    s.q.pollCustom.2.mBufferSize = datasize ∧
      ∀ data, data ∈ s.q.pollCustom.2.queue ∨ s.pending = some data →
        0 < datasize ∧ Fits datasize data.kind data := by
  obtain ⟨-, hPoll, -⟩ | ⟨first, rest, hQueue, hPoll, -⟩ := pollCustom_cases h.counted
  · rw [hPoll]
    exact ⟨h.size_eq, h.whole⟩
  · rw [hPoll]
    refine ⟨h.size_eq, fun data hData => h.whole data (hData.imp_left fun hRest => ?_)⟩
    rw [hQueue]
    exact List.mem_cons_of_mem first hRest

theorem InStep.bound_pos (h : InStep size s) : 0 < s.q.mBufferCount := by
  have hLimit := h.limit
  omega

variable [Zero B] [Zero S]

theorem InStep.step (h : InStep size s) (hStep : s.step e = some s') : InStep size s' := by
  obtain ⟨hCounted, hLimit, hBounded, hRoom⟩ := id h
  have hPos : 0 < s.q.mBufferCount := by omega
  cases e with
  | clearCustom =>
    cases hStep
    exact ⟨rfl, hLimit, Int.le_of_lt hPos, fun _ => hPos⟩
  | pollCustom =>
    cases hStep
    exact h.poll
  | pollCustomShort =>
    cases hStep
    rw [pollCustomShort_queue]
    exact h.poll
  | write bytes shorts =>
    cases hStep
    refine ⟨hCounted, hLimit, hBounded, fun hPending => hRoom ?_⟩
    rwa [Option.isSome_map] at hPending
  | offerCustom =>
    cases hStep
    cases hPending : s.pending with
    | none => exact ⟨hCounted, hLimit, hBounded, nofun⟩
    | some data =>
      rw [hPending] at hRoom
      have hLess := hRoom rfl
      refine ⟨?_, hLimit, ?_, nofun⟩
      · rw [offerCustom, List.length_append, hCounted]
        rfl
      · rw [offerCustom]
        dsimp only
        omega
  | generate kind =>
    obtain ⟨-, hStep⟩ := Option.ite_none_left_eq_some.mp hStep
    cases hStep
    obtain ⟨hFull, data, rest, hQueue, hGenerate⟩ | ⟨hLess, hGenerate⟩ :=
      generate_cases hCounted hPos kind
    · rw [hGenerate]
      rw [hQueue, List.length_cons] at hCounted
      have hLess : (rest.length : Int) < s.q.mBufferCount := by omega
      exact ⟨rfl, hLimit, Int.le_of_lt hLess, fun _ => hLess⟩
    · rw [hGenerate]
      split
      · exact ⟨hCounted, hLimit, hBounded, hRoom⟩
      · exact ⟨hCounted, hLimit, hBounded, fun _ => hLess⟩

/-- The counter and the bound are right whatever kinds are mixed. -/
theorem always_inStep (size datasize : Int) (es : List (Call B S)) :
    Always Client.step (InStep size) (.start (ofSize size datasize)) es :=
  always_of_invariant InStep.step id (inStep_start size datasize)

theorem Inv.step (h : Inv size datasize s) (hStep : s.step e = some s')
    (hNext : Represents size datasize s') : Inv size datasize s' := by
  have hInStep : InStep size s' := h.toInStep.step hStep
  have hWhole := h.whole
  cases e with
  | clearCustom =>
    cases hStep
    exact ⟨hInStep, h.size_eq, fun data hData => hWhole data (hData.imp_left nofun)⟩
  | pollCustom =>
    cases hStep
    exact ⟨hInStep, (whole_poll h).1, (whole_poll h).2⟩
  | pollCustomShort =>
    cases hStep
    refine ⟨hInStep, ?_, ?_⟩
    · rw [pollCustomShort_queue]
      exact (whole_poll h).1
    · rw [pollCustomShort_queue]
      exact (whole_poll h).2
  | write bytes shorts =>
    cases hStep
    refine ⟨hInStep, h.size_eq, ?_⟩
    rintro data (hQueue | hPending)
    · exact hWhole data (Or.inl hQueue)
    · obtain ⟨old, hOld, rfl⟩ := Option.map_eq_some_iff.mp hPending
      rw [kind_write, fits_write]
      exact hWhole old (Or.inr hOld)
  | offerCustom =>
    cases hStep
    cases hPending : s.pending with
    | none =>
      rw [hPending] at hInStep
      refine ⟨hInStep, h.size_eq, fun data hData => hWhole data (Or.inl ?_)⟩
      exact hData.resolve_right nofun
    | some offered =>
      rw [hPending] at hInStep
      refine ⟨hInStep, h.size_eq, fun data hData => hWhole data ?_⟩
      rcases List.mem_append.mp (hData.resolve_right nofun) with hQueue | hOffered
      · exact Or.inl hQueue
      · exact Or.inr (hPending.trans (congrArg some (List.mem_singleton.mp hOffered).symm))
  | generate kind =>
    obtain ⟨-, hStep⟩ := Option.ite_none_left_eq_some.mp hStep
    cases hStep
    obtain ⟨-, first, rest, hQueue, hGenerate⟩ | ⟨-, hGenerate⟩ :=
      generate_cases h.counted h.bound_pos kind
    · rw [hGenerate] at hInStep ⊢
      refine ⟨hInStep, h.size_eq, fun data hData => hWhole data (Or.inl ?_)⟩
      rw [hQueue]
      rcases hData with hRest | hTaken
      · exact List.mem_cons_of_mem first hRest
      · rw [eq_of_taken hTaken]
        exact List.mem_cons_self
    · rw [hGenerate] at hInStep hNext ⊢
      split at hNext
      · rename_i hNegative
        rw [if_pos hNegative] at hInStep ⊢
        exact ⟨hInStep, h.size_eq, hWhole⟩
      · rename_i hSize
        rw [if_neg hSize] at hInStep ⊢
        refine ⟨hInStep, h.size_eq, ?_⟩
        rintro data (hData | hFresh)
        · exact hWhole data (Or.inl hData)
        · obtain ⟨ret, hRet, hFits⟩ := hNext.returned kind _ rfl
          cases hRet
          cases hFresh
          rw [kind_fresh]
          rw [h.size_eq] at hFits hSize ⊢
          exact ⟨(fits_fresh (Int.not_lt.mp hSize) kind).mp hFits, hFits⟩

theorem represents_generate {kind : Kind} (h : Inv size datasize s)
    (hStep : s.step (.generate kind) = some s') :
    Represents size datasize s' ↔ OldestFits s (.generate kind) := by
  rw [(h.toInStep.step hStep).represents_iff, OldestFits, h.size_eq]
  obtain ⟨-, hStep⟩ := Option.ite_none_left_eq_some.mp hStep
  cases hStep
  obtain ⟨hFull, first, rest, hQueue, hGenerate⟩ | ⟨hLess, hGenerate⟩ :=
    generate_cases h.counted h.bound_pos kind
  · obtain ⟨hPos, hFits⟩ := h.whole first (Or.inl (by rw [hQueue]; exact List.mem_cons_self))
    rw [hGenerate, hQueue, List.head?_cons, Option.map_some, Option.some_inj,
      ← fits_taken hFits kind]
    constructor
    · intro hReturned
      exact ⟨hPos, fun _ => hReturned kind _ rfl⟩
    · rintro ⟨-, hOldest⟩ _ _ ⟨⟩
      exact hOldest hFull
  · rw [hGenerate, h.size_eq]
    have hAny {p : Prop} : (s.q.mBufferCount ≤ s.q.mCount → p) := fun hFull => by omega
    split
    · rename_i hNegative
      refine iff_of_false (fun hReturned => ?_) fun hOldest => ?_
      · obtain ⟨ret, hNull, -⟩ := hReturned kind none rfl
        cases hNull
      · omega
    · rename_i hSize
      rw [← fits_fresh (B := B) (S := S) (Int.not_lt.mp hSize) kind]
      constructor
      · intro hReturned
        obtain ⟨ret, hRet, hFits⟩ := hReturned kind _ rfl
        cases hRet
        exact ⟨hFits, hAny⟩
      · rintro ⟨hFits, -⟩ _ _ ⟨⟩
        exact ⟨_, rfl, hFits⟩

theorem represents_step (h : Inv size datasize s) (hNow : Represents size datasize s)
    (hStep : s.step e = some s') : Represents size datasize s' ↔ OldestFits s e := by
  cases e with
  | generate kind => exact represents_generate h hStep
  | clearCustom | pollCustom | pollCustomShort | write bytes shorts | offerCustom =>
    have hInStep := h.toInStep.step hStep
    cases hStep
    exact iff_of_true (hInStep.represents_iff.mpr hNow.returned) trivial

end Steps

/-- The queue keeps its promise exactly while each call that generates at the bound finds a buffer
of its own kind in front. -/
theorem always_represents_iff [Zero B] [Zero S] (size datasize : Int) (es : List (Call B S)) :
    Always Client.step (Represents size datasize) (.start (ofSize size datasize)) es ↔
      Meets Client.step OldestFits (.start (ofSize size datasize)) es := by
  have hStart : InStep size (Client.start (ofSize size datasize : FrameBufferQueueExt B S)) :=
    inStep_start size datasize
  have hKeep {s s' : Client B S} {e : Call B S} (h : Inv size datasize s)
      (_ : Represents size datasize s) (hStep : s.step e = some s')
      (hNext : Represents size datasize s') : Inv size datasize s' := h.step hStep hNext
  have hExact {s s' : Client B S} {e : Call B S} (h : Inv size datasize s)
      (hNow : Represents size datasize s) (hStep : s.step e = some s') :
      Represents size datasize s' ↔ OldestFits s e := represents_step h hNow hStep
  exact always_iff_meets hKeep hExact ⟨hStart, rfl, nofun⟩ (hStart.represents_iff.mpr nofun)

/-- Three buffers of bytes fill the queue, and a call for shorts gets null. -/
theorem short_at_bytes : ¬ ∀ es : List (Call Int Int),
    Always Client.step (Represents 3 1) (.start (ofSize 3 1)) es := by
  have hNull : (run Client.step (Client.start (ofSize 3 1 : FrameBufferQueueExt Int Int))
      [.generate .byte, .offerCustom, .generate .byte, .offerCustom, .generate .byte,
        .offerCustom, .generate .short]).map Client.last = some (some (.short, none)) := by
    decide +kernel
  obtain ⟨s, hRun, hLast⟩ := Option.map_eq_some_iff.mp hNull
  intro hAll
  obtain ⟨data, hData, -⟩ := ((hAll _).last hRun).returned .short none hLast
  cases hData

end FrameBufferQueueExt
end LocalCall.Data
