import LocalCall.Library.Pool

/-! # The frame queue that recycles a fixed array of buffers

Buffers are shared by reference: the queue and its clients hold positions of `mDataBuffer`, and
whoever writes to a buffer writes to the one that everybody sees. The pool is generic in the
samples; the flag that picks bytes or shorts in the Java constructor picks the type here, and
`mBuffer` stands for `mBufferExt` when it picks shorts.
-/
namespace LocalCall.Data
set_option autoImplicit false

variable {S : Type}

/-- `mState` is -1 in a free buffer and 0 in one that is in use; a buffer of size zero has no
array. -/
structure BufferData (S : Type) where
  mBuffer : Option (List S)
  mState : Int
  deriving DecidableEq

def BufferData.new [Zero S] (size : Nat) : BufferData S :=
  ⟨if size = 0 then none else some (List.replicate size 0), -1⟩

/-- The array is allocated by both constructors, so the tests of it against null are left out. -/
structure FrameBufferQueue (S : Type) where
  mDataBuffer : List (BufferData S)
  queue : List Nat
  deriving DecidableEq

namespace FrameBufferQueue

def SIZE : Nat := 2

def poolSize (size : Int) : Nat := if 2 ≤ size then size.toNat else SIZE

def new [Zero S] (size : Int) (datasize : Nat) : FrameBufferQueue S :=
  ⟨List.replicate (poolSize size) (.new datasize), []⟩

def setState (q : FrameBufferQueue S) (i : Nat) (v : Int) : FrameBufferQueue S :=
  { q with mDataBuffer := q.mDataBuffer.modify i fun b => { b with mState := v } }

/-- A client overwrites the array of a buffer; there is nothing to overwrite in an empty one. -/
def setBuffer (q : FrameBufferQueue S) (i : Nat) (data : List S) : FrameBufferQueue S :=
  { q with
    mDataBuffer := q.mDataBuffer.modify i fun b => { b with mBuffer := b.mBuffer.map fun _ => data } }

def content (q : FrameBufferQueue S) (i : Nat) : Option (List S) :=
  q.mDataBuffer[i]?.bind BufferData.mBuffer

def isFree (q : FrameBufferQueue S) (i : Nat) : Bool :=
  q.mDataBuffer[i]?.any (·.mState == -1)

def pollCustom (q : FrameBufferQueue S) : Option Nat × FrameBufferQueue S :=
  (q.queue.head?, { q with queue := q.queue.tail })

def recycleBufferData (q : FrameBufferQueue S) : Option Nat → FrameBufferQueue S
  | some data => q.setState data (-1)
  | none => q

def offerCustom (q : FrameBufferQueue S) : Option Nat → FrameBufferQueue S
  | some data => { q with queue := q.queue ++ [data] }
  | none => q

def reset (q : FrameBufferQueue S) : FrameBufferQueue S :=
  { mDataBuffer := q.mDataBuffer.map fun b => { b with mState := -1 }, queue := [] }

/-- The first free buffer of the array, else the oldest one in the queue. -/
def generateBufferData (q : FrameBufferQueue S) : Option Nat × FrameBufferQueue S :=
  match q.mDataBuffer.findIdx? (·.mState == -1) with
  | some i => (some i, q.setState i 0)
  | none => q.pollCustom

section Operations

variable (q : FrameBufferQueue S) (i j : Nat) (v : Int) (data : List S)

@[simp] theorem setState_queue : (q.setState i v).queue = q.queue := rfl

@[simp] theorem setBuffer_queue : (q.setBuffer i data).queue = q.queue := rfl

@[simp] theorem setState_length :
    (q.setState i v).mDataBuffer.length = q.mDataBuffer.length := List.length_modify ..

@[simp] theorem setBuffer_length :
    (q.setBuffer i data).mDataBuffer.length = q.mDataBuffer.length := List.length_modify ..

@[simp] theorem setState_content : (q.setState i v).content = q.content := by
  funext j
  simp only [content, setState, List.getElem?_modify]
  split <;> cases q.mDataBuffer[j]? <;> rfl

@[simp] theorem setBuffer_isFree : (q.setBuffer i data).isFree = q.isFree := by
  funext j
  simp only [isFree, setBuffer, List.getElem?_modify]
  split <;> cases q.mDataBuffer[j]? <;> rfl

theorem setBuffer_content_self :
    (q.setBuffer i data).content i = (q.content i).map fun _ => data := by
  simp only [content, setBuffer, List.getElem?_modify_eq]
  cases q.mDataBuffer[i]? <;> rfl

theorem setBuffer_content_of_ne (h : j ≠ i) :
    (q.setBuffer i data).content j = q.content j := by
  simp only [content, setBuffer, List.getElem?_modify_ne _ _ (Ne.symm h)]

theorem setState_isFree (h : i < q.mDataBuffer.length) :
    (q.setState i v).isFree = Function.update q.isFree i (v == -1) := by
  funext j
  by_cases hj : j = i
  · subst hj
    rw [Function.update_self]
    simp only [isFree, setState, List.getElem?_modify_eq, List.getElem?_eq_getElem h]
    rfl
  · rw [Function.update_of_ne hj]
    simp only [isFree, setState, List.getElem?_modify_ne _ _ (Ne.symm hj)]

theorem setState_isFree_of_free (h : q.isFree i = true) :
    (q.setState i (-1)).isFree = q.isFree := by
  funext j
  by_cases hj : j = i
  · subst hj
    rw [h]
    simp only [isFree, setState, List.getElem?_modify_eq]
    cases hGet : q.mDataBuffer[j]? with
    | none => rw [isFree, hGet] at h; cases h
    | some b => rfl
  · simp only [isFree, setState, List.getElem?_modify_ne _ _ (Ne.symm hj)]

theorem setState_isFree_of_ne (h : j ≠ i) : (q.setState i v).isFree j = q.isFree j := by
  simp only [isFree, setState, List.getElem?_modify_ne _ _ (Ne.symm h)]

theorem setState_isFree_self (h : v ≠ -1) : (q.setState i v).isFree i = false := by
  simp only [isFree, setState, List.getElem?_modify_eq]
  cases q.mDataBuffer[i]? with
  | none => rfl
  | some b => exact beq_false_of_ne h

theorem isFree_lt (h : q.isFree i = true) : i < q.mDataBuffer.length := by
  by_contra hLt
  rw [isFree, List.getElem?_eq_none (Nat.le_of_not_lt hLt)] at h
  cases h

theorem generateBufferData_cases :
    (∃ i, q.isFree i = true ∧ q.generateBufferData = (some i, q.setState i 0)) ∨
    ((∀ i, q.isFree i = false) ∧ q.generateBufferData = q.pollCustom) := by
  rw [generateBufferData]
  cases hFind : q.mDataBuffer.findIdx? (·.mState == -1) with
  | some i =>
    obtain ⟨hLt, hFree, -⟩ := List.findIdx?_eq_some_iff_getElem.mp hFind
    refine Or.inl ⟨i, ?_, rfl⟩
    rw [isFree, List.getElem?_eq_getElem hLt]
    exact hFree
  | none =>
    refine Or.inr ⟨fun i => ?_, rfl⟩
    rw [isFree]
    cases hGet : q.mDataBuffer[i]? with
    | none => rfl
    | some b => exact List.findIdx?_eq_none_iff.mp hFind b (List.mem_of_getElem? hGet)

theorem pollCustom_cases :
    (q.queue = [] ∧ q.pollCustom = (none, q)) ∨
    ∃ i rest, q.queue = i :: rest ∧ q.pollCustom = (some i, { q with queue := rest }) := by
  rw [pollCustom]
  obtain ⟨mDataBuffer, queue⟩ := q
  cases queue with
  | nil => exact Or.inl ⟨rfl, rfl⟩
  | cons i rest => exact Or.inr ⟨i, rest, rfl, rfl⟩

@[simp] theorem generateBufferData_length :
    q.generateBufferData.2.mDataBuffer.length = q.mDataBuffer.length := by
  obtain ⟨i, -, hGen⟩ | ⟨-, hGen⟩ := q.generateBufferData_cases
  · rw [hGen]
    exact q.setState_length i 0
  · rw [hGen]
    rfl

end Operations

/-- Every buffer of the pool is free, or in the queue or in `held`, and that once. -/
def Owned (q : FrameBufferQueue S) (held : List Nat) : Prop :=
  Pool.Partition q.mDataBuffer.length q.isFree (q.queue ++ held)

section Ownership

variable {q : FrameBufferQueue S} {i : Nat} {held held' : List Nat}

theorem new_isFree [Zero S] (size : Int) (datasize i : Nat) :
    (new size datasize : FrameBufferQueue S).isFree i = decide (i < poolSize size) := by
  simp only [new, isFree, List.getElem?_replicate]
  by_cases hi : i < poolSize size
  · rw [if_pos hi, decide_eq_true hi]
    rfl
  · rw [if_neg hi, decide_eq_false hi]
    rfl

theorem new_owned [Zero S] (size : Int) (datasize : Nat) :
    (new size datasize : FrameBufferQueue S).Owned [] := by
  apply Pool.partition_all_free
  intro i
  rw [new_isFree, new, List.length_replicate]

theorem Owned.perm (h : q.Owned held) (hPerm : held.Perm held') : q.Owned held' :=
  Pool.Partition.perm h (hPerm.append_left q.queue)

theorem Owned.offerCustom (h : q.Owned (i :: held)) : (q.offerCustom (some i)).Owned held := by
  rw [Owned, FrameBufferQueue.offerCustom, List.append_assoc]
  exact h

theorem Owned.recycleBufferData (h : q.Owned (i :: held)) :
    (q.recycleBufferData (some i)).Owned held := by
  have hHead : Pool.Partition q.mDataBuffer.length q.isFree (i :: (q.queue ++ held)) :=
    Pool.Partition.perm h List.perm_middle
  rw [Owned, FrameBufferQueue.recycleBufferData, setState_length, setState_queue,
    setState_isFree q i _ (hHead.lt_of_mem List.mem_cons_self)]
  exact hHead.release

theorem Owned.claim (h : q.Owned held) (hFree : q.isFree i = true) :
    (q.setState i 0).Owned (i :: held) := by
  rw [Owned, setState_length, setState_queue, setState_isFree q i _ (q.isFree_lt i hFree)]
  exact (Pool.Partition.take h hFree).perm List.perm_middle.symm

theorem Owned.pollCustom (h : q.Owned held) :
    q.pollCustom.2.Owned (q.pollCustom.1.toList ++ held) := by
  obtain ⟨hEmpty, hPoll⟩ | ⟨i, rest, hQueue, hPoll⟩ := q.pollCustom_cases
  · rw [hPoll]
    exact h
  · rw [Owned, hQueue] at h
    rw [hPoll]
    exact Pool.Partition.perm h List.perm_middle.symm

theorem Owned.generateBufferData (h : q.Owned held) :
    q.generateBufferData.2.Owned (q.generateBufferData.1.toList ++ held) := by
  obtain ⟨i, hFree, hGen⟩ | ⟨-, hGen⟩ := q.generateBufferData_cases
  · rw [hGen]
    exact h.claim hFree
  · rw [hGen]
    exact h.pollCustom

theorem Owned.setBuffer (h : q.Owned held) (data : List S) : (q.setBuffer i data).Owned held := by
  rw [Owned, setBuffer_length, setBuffer_queue, setBuffer_isFree]
  exact h

theorem Owned.generateBufferData_free (h : q.Owned held)
    (hLen : q.queue.length + held.length < q.mDataBuffer.length) :
    ∃ i, q.isFree i = true ∧ q.generateBufferData = (some i, q.setState i 0) := by
  rw [← List.length_append] at hLen
  obtain ⟨j, -, hFree⟩ := Pool.Partition.exists_free h hLen
  obtain hTaken | ⟨hNone, -⟩ := q.generateBufferData_cases
  · exact hTaken
  · rw [hNone j] at hFree
    cases hFree

end Ownership

end FrameBufferQueue
end LocalCall.Data
