import Mathlib.Data.List.Basic

/-! # The frame queue that allocates a buffer for each frame

The queue is generic in the samples: nothing here computes with them, and a fresh buffer holds
the zero that `new short[size]` fills it with. `mCount` is the separate counter that the Java
class keeps beside the length of the queue it extends.
-/
namespace LocalCall.Data
set_option autoImplicit false

variable {S : Type}

/-- A buffer of the extended kind; `mBufferExt` is null when it was built with size zero. -/
structure BufferDataExt (S : Type) where
  mBufferExt : Option (List S)
  deriving DecidableEq

def BufferDataExt.new [Zero S] (size : Nat) : BufferDataExt S :=
  ⟨if size = 0 then none else some (List.replicate size 0)⟩

structure FrameBufferQueueNew (S : Type) where
  queue : List (BufferDataExt S)
  mCount : Int
  mDatasize : Nat
  deriving DecidableEq

namespace FrameBufferQueueNew

/-- The constructor takes a size as well and leaves it unused: its pool is commented out. -/
def new (_size datasize : Nat) : FrameBufferQueueNew S := ⟨[], 0, datasize⟩

def pollCustom (q : FrameBufferQueueNew S) :
    Option (BufferDataExt S) × FrameBufferQueueNew S :=
  if q.mCount = 0 then (none, q)
  else (q.queue.head?, { q with queue := q.queue.tail, mCount := q.mCount - 1 })

def recycleBufferData (q : FrameBufferQueueNew S) (_data : BufferDataExt S) :
    FrameBufferQueueNew S := q

def offerCustom (q : FrameBufferQueueNew S) (data : BufferDataExt S) : FrameBufferQueueNew S :=
  { q with queue := q.queue ++ [data], mCount := q.mCount + 1 }

/-- `clear` is inherited and leaves the counter alone. -/
def clear (q : FrameBufferQueueNew S) : FrameBufferQueueNew S := { q with queue := [] }

def reset (q : FrameBufferQueueNew S) : FrameBufferQueueNew S :=
  { q with mCount := 0, queue := [] }

def generateBufferData [Zero S] (q : FrameBufferQueueNew S) : BufferDataExt S :=
  .new q.mDatasize

@[simp] theorem recycleBufferData_eq (q : FrameBufferQueueNew S) (data : BufferDataExt S) :
    q.recycleBufferData data = q := rfl

theorem mem_of_pollCustom (q : FrameBufferQueueNew S) (data : BufferDataExt S)
    (h : q.pollCustom.1 = some data ∨ data ∈ q.pollCustom.2.queue) : data ∈ q.queue := by
  unfold pollCustom at h
  split at h
  · rcases h with h | h
    · cases h
    · exact h
  · rcases h with h | h
    · exact List.mem_of_mem_head? h
    · exact List.mem_of_mem_tail h

def Counted (q : FrameBufferQueueNew S) : Prop := q.mCount = q.queue.length

section Counting

variable {q : FrameBufferQueueNew S}

theorem counted_new (size datasize : Nat) : (new size datasize : FrameBufferQueueNew S).Counted :=
  rfl

theorem counted_reset (q : FrameBufferQueueNew S) : q.reset.clear.Counted := rfl

theorem Counted.offerCustom (h : q.Counted) (data : BufferDataExt S) :
    (q.offerCustom data).Counted := by
  rw [Counted, FrameBufferQueueNew.offerCustom, List.length_append, h]
  rfl

theorem Counted.pollCustom_cases (h : q.Counted) :
    (q.queue = [] ∧ q.pollCustom = (none, q)) ∨
    ∃ b bs, q.queue = b :: bs ∧
      q.pollCustom = (some b, { q with queue := bs, mCount := bs.length }) := by
  cases hQueue : q.queue with
  | nil =>
    rw [Counted, hQueue] at h
    exact Or.inl ⟨rfl, if_pos h⟩
  | cons b bs =>
    rw [Counted, hQueue, List.length_cons] at h
    have hLeft : q.mCount - 1 = bs.length := by omega
    refine Or.inr ⟨b, bs, rfl, ?_⟩
    rw [FrameBufferQueueNew.pollCustom, if_neg (by omega), hQueue, hLeft]
    rfl

theorem Counted.pollCustom (h : q.Counted) : q.pollCustom.2.Counted := by
  obtain ⟨-, hPoll⟩ | ⟨b, bs, -, hPoll⟩ := h.pollCustom_cases
  · rw [hPoll]
    exact h
  · rw [hPoll]
    rfl

end Counting

end FrameBufferQueueNew
end LocalCall.Data
