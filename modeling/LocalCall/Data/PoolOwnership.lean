import LocalCall.Data.FrameBufferQueue
import LocalCall.Library.Transition

/-! # Ownership of the pooled buffers

One producer and one consumer share the pool, and each holds at most one buffer. The operations
are the four atomic ones of the queue; what the clients obey is only that they give back what
they hold before they ask for more.
-/
namespace LocalCall.Data.PoolOwnership
set_option autoImplicit false

variable {S : Type}

structure Clients (S : Type) where
  pool : FrameBufferQueue S
  producer : Option Nat
  consumer : Option Nat
  deriving DecidableEq

/-- The producer offers or recycles what it generated, the consumer recycles what it polled. -/
inductive Operation where
  | generate | offer | recycleGenerated | poll | recyclePolled
  deriving DecidableEq, Repr

def start [Zero S] (size : Int) (datasize : Nat) : Clients S := ⟨.new size datasize, none, none⟩

def step (s : Clients S) : Operation → Option (Clients S)
  | .generate =>
    match s.producer with
    | none =>
      some { s with
        pool := s.pool.generateBufferData.2
        producer := s.pool.generateBufferData.1 }
    | some _ => none
  | .offer =>
    s.producer.map fun data =>
      { s with pool := s.pool.offerCustom (some data), producer := none }
  | .recycleGenerated =>
    s.producer.map fun data =>
      { s with pool := s.pool.recycleBufferData (some data), producer := none }
  | .poll =>
    match s.consumer with
    | none =>
      some { s with pool := s.pool.pollCustom.2, consumer := s.pool.pollCustom.1 }
    | some _ => none
  | .recyclePolled =>
    s.consumer.map fun data =>
      { s with pool := s.pool.recycleBufferData (some data), consumer := none }

inductive Place where
  | free | queued | producer | consumer
  deriving DecidableEq, Repr

def Clients.At (s : Clients S) (i : Nat) : Place → Prop
  | .free => s.pool.isFree i = true
  | .queued => i ∈ s.pool.queue
  | .producer => s.producer = some i
  | .consumer => s.consumer = some i

/-- A generation hands out a buffer, and what it discards for it is the oldest frame of the queue
in a pool without a free buffer. -/
structure Generates (q : FrameBufferQueue S) : Prop where
  not_null : q.generateBufferData.1 ≠ none
  discards : q.generateBufferData.2.queue ≠ q.queue →
    (∀ i, q.isFree i = false) ∧
      ∃ i, q.generateBufferData.1 = some i ∧ q.queue = i :: q.generateBufferData.2.queue

structure Partitioned (n : Nat) (s : Clients S) : Prop where
  length_eq : s.pool.mDataBuffer.length = n
  lt : ∀ {i p}, s.At i p → i < n
  one_place : ∀ {i}, i < n → ∃! p, s.At i p
  queued_once : s.pool.queue.Nodup
  queued_le : s.pool.queue.length ≤ n
  generates : s.producer = none → Generates s.pool

def Clients.held (s : Clients S) : List Nat := s.producer.toList ++ s.consumer.toList

structure Inv (n : Nat) (s : Clients S) : Prop where
  length_eq : s.pool.mDataBuffer.length = n
  owned : s.pool.Owned s.held

theorem inv_start [Zero S] (size : Int) (datasize : Nat) :
    Inv (FrameBufferQueue.poolSize size) (start size datasize : Clients S) := by
  constructor
  · exact List.length_replicate
  · exact FrameBufferQueue.new_owned size datasize

theorem Inv.step {n : Nat} {s s' : Clients S} {op : Operation} (h : Inv n s)
    (hStep : step s op = some s') : Inv n s' := by
  obtain ⟨pool, producer, consumer⟩ := s
  obtain ⟨hLen, hOwned⟩ := h
  cases op with
  | generate =>
    cases producer with
    | some i => cases hStep
    | none =>
      cases hStep
      constructor
      · rw [pool.generateBufferData_length]
        exact hLen
      · exact hOwned.generateBufferData
  | offer =>
    cases producer with
    | none => cases hStep
    | some i =>
      cases hStep
      exact ⟨hLen, hOwned.offerCustom⟩
  | recycleGenerated =>
    cases producer with
    | none => cases hStep
    | some i =>
      cases hStep
      exact ⟨(pool.setState_length i (-1)).trans hLen, hOwned.recycleBufferData⟩
  | poll =>
    cases consumer with
    | some i => cases hStep
    | none =>
      cases hStep
      refine ⟨hLen, hOwned.pollCustom.perm ?_⟩
      rw [Clients.held, Clients.held, Option.toList_none, List.append_nil]
      exact List.perm_append_comm
  | recyclePolled =>
    cases consumer with
    | none => cases hStep
    | some i =>
      cases hStep
      refine ⟨(pool.setState_length i (-1)).trans hLen, ?_⟩
      apply FrameBufferQueue.Owned.recycleBufferData
      rw [Clients.held, Option.toList_none, List.append_nil]
      exact hOwned.perm List.perm_append_comm

theorem mem_held {s : Clients S} {i : Nat} :
    i ∈ s.held ↔ s.producer = some i ∨ s.consumer = some i := by
  rw [Clients.held, List.mem_append, Option.mem_toList, Option.mem_toList]

/-- A producer without a buffer leaves one of the pool free or in the queue. -/
theorem Inv.generates {n : Nat} {s : Clients S} (h : Inv n s) (hSize : 2 ≤ n)
    (hNone : s.producer = none) : Generates s.pool := by
  have hHeld : s.held.length ≤ 1 := by
    rw [Clients.held, hNone]
    cases s.consumer <;> simp
  by_cases hFull : s.pool.queue.length + s.held.length < n
  · rw [← h.length_eq] at hFull
    obtain ⟨i, -, hGen⟩ := h.owned.generateBufferData_free hFull
    constructor
    · rw [hGen]
      exact Option.some_ne_none i
    · rw [hGen]
      exact fun hDiscards => absurd rfl hDiscards
  · obtain ⟨i, -, hGen⟩ | ⟨hFree, hGen⟩ := s.pool.generateBufferData_cases
    · constructor
      · rw [hGen]
        exact Option.some_ne_none i
      · rw [hGen]
        exact fun hDiscards => absurd rfl hDiscards
    · obtain ⟨hEmpty, -⟩ | ⟨i, rest, hQueue, hPoll⟩ := s.pool.pollCustom_cases
      · rw [hEmpty, List.length_nil] at hFull
        omega
      · rw [hPoll] at hGen
        constructor
        · rw [hGen]
          exact Option.some_ne_none i
        · intro _
          refine ⟨hFree, i, ?_, ?_⟩
          · rw [hGen]
          · rw [hGen, hQueue]

theorem Inv.one_place {n i : Nat} {s : Clients S} (h : Inv n s) (hLt : i < n) :
    ∃! p, s.At i p := by
  have hPart : Pool.Partition n s.pool.isFree (s.pool.queue ++ s.held) := h.length_eq ▸ h.owned
  obtain ⟨-, hHeld, hApart⟩ := List.nodup_append.mp hPart.nodup
  have hFree : s.pool.isFree i = true →
      i ∉ s.pool.queue ∧ s.producer ≠ some i ∧ s.consumer ≠ some i := by
    intro hi
    have hNot := hPart.not_mem hi
    rw [List.mem_append, mem_held, not_or, not_or] at hNot
    exact hNot
  have hQueue : i ∈ s.pool.queue → s.producer ≠ some i ∧ s.consumer ≠ some i := by
    intro hi
    have hNot : i ∉ s.held := fun hMem => hApart i hi i hMem rfl
    rw [mem_held, not_or] at hNot
    exact hNot
  have hProducer : s.producer = some i → s.consumer ≠ some i := by
    intro hp hc
    rw [Clients.held, hp, hc] at hHeld
    exact (List.nodup_cons.mp hHeld).1 List.mem_cons_self
  have hUnique : ∀ p p', s.At i p → s.At i p' → p' = p := by
    intro p p' hAt hAt'
    cases p <;> cases p' <;> simp_all [Clients.At]
  cases hState : s.pool.isFree i with
  | true => exact ⟨.free, hState, fun p hp => hUnique .free p hState hp⟩
  | false =>
    have hMem := hPart.mem_of_not_free hLt hState
    rw [List.mem_append, mem_held] at hMem
    rcases hMem with hAt | hAt | hAt
    · exact ⟨.queued, hAt, fun p hp => hUnique .queued p hAt hp⟩
    · exact ⟨.producer, hAt, fun p hp => hUnique .producer p hAt hp⟩
    · exact ⟨.consumer, hAt, fun p hp => hUnique .consumer p hAt hp⟩

theorem Inv.partitioned {n : Nat} {s : Clients S} (h : Inv n s) (hSize : 2 ≤ n) :
    Partitioned n s := by
  have hPart : Pool.Partition n s.pool.isFree (s.pool.queue ++ s.held) := h.length_eq ▸ h.owned
  refine ⟨h.length_eq, ?_, h.one_place, ?_, ?_, h.generates hSize⟩
  · intro i p hAt
    cases p with
    | free => exact hPart.lt_of_free hAt
    | queued => exact hPart.lt_of_mem (List.mem_append_left _ hAt)
    | producer => exact hPart.lt_of_mem (List.mem_append_right _ (mem_held.mpr (Or.inl hAt)))
    | consumer => exact hPart.lt_of_mem (List.mem_append_right _ (mem_held.mpr (Or.inr hAt)))
  · exact (List.nodup_append.mp hPart.nodup).1
  · have hLen := hPart.length_le
    rw [List.length_append] at hLen
    omega

theorem two_le_poolSize (size : Int) : 2 ≤ FrameBufferQueue.poolSize size := by
  rw [FrameBufferQueue.poolSize]
  split
  · omega
  · exact Nat.le_refl 2

theorem always_partitioned [Zero S] (size : Int) (datasize : Nat) (ops : List Operation) :
    Transition.Always step (Partitioned (FrameBufferQueue.poolSize size))
      (start size datasize : Clients S) ops := by
  apply Transition.always_of_invariant _ _ (inv_start size datasize)
  · intro s e s' hInv hStep
    exact hInv.step hStep
  · intro s hInv
    exact hInv.partitioned (two_le_poolSize size)

end LocalCall.Data.PoolOwnership
