import LocalCall.Socket.SocketExt

/-! # Who owns the buffers of the input queue

The input thread, the callback thread and the queue own the buffers of the pool apart from each
other, save for those that a thread took with it when it ended. Each step of the two threads keeps
that, the single writes of the reset and of the scan included.
-/
namespace LocalCall.Socket.SocketExt
open Data
set_option autoImplicit false

variable {B : Type}

def CallbackPc.held : CallbackPc → List Nat
  | .dispatch temp | .dataCallback temp | .recycle temp => [temp]
  | _ => []

def Input.inputHeld (s : Input B) : List Nat :=
  match s.thread with
  | .read | .offer | .recycle => s.tempBufferData.toList
  | .test => if s.index = 0 then [] else s.tempBufferData.toList
  | _ => []

def Input.Owns (s : Input B) : Prop :=
  ∃ lost, s.mInputFrameBufferQueue.Owned (s.inputHeld ++ s.callback.held ++ lost)

def InputPc.Resetting : InputPc → Prop
  | .reset | .resetBuffer _ => True
  | _ => False

def InputPc.BetweenFrames : InputPc → Prop
  | .test | .read | .ended => False
  | _ => True

def Sized (F : Nat) (q : FrameBufferQueue B) : Prop :=
  ∀ i < q.mDataBuffer.length, ∃ data, q.content i = some data ∧ data.length = F

structure Received (F : Nat) (s : Input B) : Prop where
  mFrameSize : s.mFrameSize = F
  sized : Sized F s.mInputFrameBufferQueue
  tempbuffer : s.tempbuffer.length = F
  temp_lt : ∀ i, s.tempBufferData = some i → i < s.mInputFrameBufferQueue.mDataBuffer.length
  index_lt : s.index < F
  between : s.thread.BetweenFrames → s.index = 0
  resetting : s.thread.Resetting →
    s.mInputFrameBufferQueue.queue = [] ∧
      ∀ i < s.mInputFrameBufferQueue.mDataBuffer.length, s.mInputFrameBufferQueue.isFree i = true
  claiming : ∀ i, s.thread = .claim i → s.mInputFrameBufferQueue.isFree i = true
  owns : s.Owns

section Buffers

variable {F : Nat} {s : Input B} {i : Nat}

theorem Sized.setState {q : FrameBufferQueue B} (h : Sized F q) (v : Int) :
    Sized F (q.setState i v) := by
  intro j hj
  rw [FrameBufferQueue.setState_length] at hj
  rw [FrameBufferQueue.setState_content]
  exact h j hj

theorem Sized.setBuffer {q : FrameBufferQueue B} (h : Sized F q) {data : List B}
    (hData : data.length = F) : Sized F (q.setBuffer i data) := by
  intro j hj
  rw [FrameBufferQueue.setBuffer_length] at hj
  by_cases hji : j = i
  · subst hji
    obtain ⟨old, hOld, -⟩ := h j hj
    refine ⟨data, ?_, hData⟩
    rw [q.setBuffer_content_self, hOld]
    rfl
  · rw [q.setBuffer_content_of_ne i j data hji]
    exact h j hj

theorem Sized.generateBufferData {q : FrameBufferQueue B} (h : Sized F q) :
    Sized F q.generateBufferData.2 := by
  obtain ⟨i, -, hGen⟩ | ⟨-, hGen⟩ := q.generateBufferData_cases
  · rw [hGen]
    exact h.setState 0
  · rw [hGen]
    exact h

theorem Sized.length_eq {q : FrameBufferQueue B} (h : Sized F q) {data : List B}
    (hi : q.content i = some data) : data.length = F := by
  have hLt : i < q.mDataBuffer.length := by
    by_contra hLt
    rw [FrameBufferQueue.content, List.getElem?_eq_none (Nat.le_of_not_lt hLt)] at hi
    cases hi
  obtain ⟨data', hContent, hLen⟩ := h i hLt
  rw [hi] at hContent
  cases hContent
  exact hLen

theorem sized_new [Zero B] (hF : 0 < F) : Sized F (initFrameBuffer F : FrameBufferQueue B) := by
  intro i hi
  rw [initFrameBuffer, FrameBufferQueue.new, List.length_replicate] at hi
  refine ⟨List.replicate F 0, ?_, List.length_replicate⟩
  simp only [initFrameBuffer, FrameBufferQueue.new, FrameBufferQueue.content,
    List.getElem?_replicate, if_pos hi, Option.bind_some, BufferData.new, if_neg (by omega : F ≠ 0)]

theorem Received.length_buffer (h : Received F s) : s.buffer.length = F := by
  rw [Input.buffer]
  cases hTemp : s.tempBufferData with
  | none => exact h.tempbuffer
  | some i =>
    obtain ⟨data, hContent, hLen⟩ := h.sized i (h.temp_lt i hTemp)
    rw [Option.bind_some, hContent]
    exact hLen

theorem Received.length_stored (h : Received F s) {bytes : List B}
    (hFits : s.index + bytes.length ≤ F) : (s.stored bytes).length = F := by
  have hLen := h.length_buffer
  rw [Input.stored, List.length_append, List.length_append, List.length_take, List.length_drop]
  omega

theorem Received.take_stored (h : Received F s) (bytes : List B) :
    (s.stored bytes).take (s.index + bytes.length) = s.buffer.take s.index ++ bytes := by
  have hLen : (s.buffer.take s.index ++ bytes).length = s.index + bytes.length := by
    have hBuffer := h.length_buffer
    have hIndex := h.index_lt
    rw [List.length_append, List.length_take]
    omega
  rw [Input.stored, ← hLen]
  exact List.take_left

theorem Received.store_cases (h : Received F s) (bytes : List B) :
    (s.tempBufferData = none ∧ s.store bytes = { s with tempbuffer := s.stored bytes }) ∨
    ∃ i, s.tempBufferData = some i ∧
      s.store bytes =
        { s with mInputFrameBufferQueue := s.mInputFrameBufferQueue.setBuffer i (s.stored bytes) } := by
  rw [Input.store]
  cases hTemp : s.tempBufferData with
  | none => exact Or.inl ⟨rfl, rfl⟩
  | some i =>
    obtain ⟨data, hContent, -⟩ := h.sized i (h.temp_lt i hTemp)
    refine Or.inr ⟨i, rfl, ?_⟩
    simp only [hContent, Option.isSome_some, if_true]

theorem Received.buffer_store (h : Received F s) (bytes : List B) :
    (s.store bytes).buffer = s.stored bytes := by
  obtain ⟨hTemp, hStore⟩ | ⟨i, hTemp, hStore⟩ := h.store_cases bytes
  · rw [hStore, Input.buffer, hTemp]
    rfl
  · obtain ⟨data, hContent, -⟩ := h.sized i (h.temp_lt i hTemp)
    rw [hStore, Input.buffer, hTemp, Option.bind_some, FrameBufferQueue.setBuffer_content_self,
      hContent]
    rfl

end Buffers

section InputThread

variable {F : Nat} {s s' : Input B} {wire wire' : List B} {answer : Answer}

theorem Input.Owns.of_held (h : s.Owns) (hPool : s'.mInputFrameBufferQueue = s.mInputFrameBufferQueue)
    (hHeld : s'.inputHeld ++ s'.callback.held = s.inputHeld ++ s.callback.held) : s'.Owns := by
  obtain ⟨lost, hOwned⟩ := h
  exact ⟨lost, by rwa [hPool, hHeld]⟩

theorem Input.Owns.drop (h : s.Owns) (hPool : s'.mInputFrameBufferQueue = s.mInputFrameBufferQueue)
    (dropped : List Nat)
    (hPerm : (s.inputHeld ++ s.callback.held).Perm (s'.inputHeld ++ s'.callback.held ++ dropped)) :
    s'.Owns := by
  obtain ⟨lost, hOwned⟩ := h
  refine ⟨dropped ++ lost, ?_⟩
  rw [hPool, ← List.append_assoc]
  exact hOwned.perm (hPerm.append_right lost)

theorem advance_cases (s : Input B) (count : Nat) :
    (s.index + count = s.mFrameSize ∧ s.advance count = { s with index := 0, thread := .offer }) ∨
    (s.index + count = 0 ∧ s.advance count = { s with index := 0, thread := .recycle }) ∨
    (s.index + count ≠ s.mFrameSize ∧ s.index + count ≠ 0 ∧
      s.advance count = { s with index := s.index + count, thread := .test }) := by
  rw [Input.advance]
  split
  · exact Or.inl ⟨‹_›, rfl⟩
  · split
    · exact Or.inr (Or.inl ⟨‹_›, rfl⟩)
    · exact Or.inr (Or.inr ⟨‹_›, ‹_›, rfl⟩)

/-- After a read the thread still holds its buffer: a frame is either done or begun. -/
theorem Received.advance (h : Received F s) (hThread : s.thread = .read) {count : Nat}
    (hFits : s.index + count ≤ F) : Received F (s.advance count) := by
  have hHeld : s.inputHeld = s.tempBufferData.toList := by rw [Input.inputHeld, hThread]
  obtain ⟨-, hAdvance⟩ | ⟨-, hAdvance⟩ | ⟨hFull, hBegun, hAdvance⟩ := advance_cases s count
  · rw [hAdvance]
    exact { h with
      index_lt := Nat.zero_lt_of_lt h.index_lt
      between := fun _ => rfl
      resetting := fun hReset => hReset.elim
      claiming := fun i hi => InputPc.noConfusion hi
      owns := h.owns.of_held rfl (by rw [hHeld]; rfl) }
  · rw [hAdvance]
    exact { h with
      index_lt := Nat.zero_lt_of_lt h.index_lt
      between := fun _ => rfl
      resetting := fun hReset => hReset.elim
      claiming := fun i hi => InputPc.noConfusion hi
      owns := h.owns.of_held rfl (by rw [hHeld]; rfl) }
  · rw [hAdvance]
    rw [h.mFrameSize] at hFull
    exact { h with
      index_lt := Nat.lt_of_le_of_ne hFits hFull
      between := fun hBetween => hBetween.elim
      resetting := fun hReset => hReset.elim
      claiming := fun i hi => InputPc.noConfusion hi
      owns := h.owns.of_held rfl (by
        rw [hHeld, Input.inputHeld]
        exact congrArg (· ++ _) (if_neg hBegun)) }

theorem Received.store (h : Received F s) (bytes : List B)
    (hFits : s.index + bytes.length ≤ F) : Received F (s.store bytes) := by
  have hLen := h.length_stored hFits
  obtain ⟨-, hStore⟩ | ⟨i, -, hStore⟩ := h.store_cases bytes
  · rw [hStore]
    exact { h with tempbuffer := hLen }
  · rw [hStore]
    obtain ⟨lost, hOwned⟩ := h.owns
    exact { h with
      sized := h.sized.setBuffer hLen
      temp_lt := fun j hj => (FrameBufferQueue.setBuffer_length ..).symm ▸ h.temp_lt j hj
      resetting := fun hReset => by
        obtain ⟨hEmpty, hFree⟩ := h.resetting hReset
        refine ⟨hEmpty, fun j hj => ?_⟩
        rw [FrameBufferQueue.setBuffer_length] at hj
        rw [FrameBufferQueue.setBuffer_isFree]
        exact hFree j hj
      claiming := fun j hj => by
        rw [FrameBufferQueue.setBuffer_isFree]
        exact h.claiming j hj
      owns := ⟨lost, hOwned.setBuffer _⟩ }

theorem store_fields (s : Input B) (bytes : List B) :
    (s.store bytes).thread = s.thread ∧ (s.store bytes).index = s.index ∧
      (s.store bytes).mFrameSize = s.mFrameSize ∧ (s.store bytes).delivered = s.delivered ∧
      (s.store bytes).callback = s.callback ∧
      (s.store bytes).tempBufferData = s.tempBufferData ∧
      (s.store bytes).mInputFrameBufferQueue.queue = s.mInputFrameBufferQueue.queue := by
  rw [Input.store]
  split
  · split <;> exact ⟨rfl, rfl, rfl, rfl, rfl, rfl, rfl⟩
  · exact ⟨rfl, rfl, rfl, rfl, rfl, rfl, rfl⟩

theorem Received.goto (h : Received F s) (stop : Bool) (pc : InputPc)
    (hBetween : pc.BetweenFrames → s.index = 0) (hReset : ¬ pc.Resetting)
    (hClaim : ∀ i, pc = .claim i → s.mInputFrameBufferQueue.isFree i = true)
    (hHeld : ({ s with thread := pc } : Input B).inputHeld = s.inputHeld) :
    Received F { s with mStreamStopFlag := stop, thread := pc } :=
  { h with
    between := hBetween
    resetting := fun h => absurd h hReset
    claiming := hClaim
    owns := h.owns.of_held rfl (congrArg (· ++ s.callback.held) hHeld) }

theorem Received.abandon (h : Received F s) (stop : Bool) (pc : InputPc)
    (hPc : pc = .ended ∨ pc = .test ∧ s.index = 0) :
    Received F { s with mStreamStopFlag := stop, thread := pc } := by
  have hHeld : ({ s with mStreamStopFlag := stop, thread := pc } : Input B).inputHeld = [] := by
    obtain rfl | ⟨rfl, hIndex⟩ := hPc
    · rfl
    · exact if_pos hIndex
  obtain rfl | ⟨rfl, -⟩ := hPc
  all_goals exact { h with
    between := fun hBetween => hBetween.elim
    resetting := fun hReset => hReset.elim
    claiming := fun i hi => InputPc.noConfusion hi
    owns := h.owns.drop rfl s.inputHeld (by
      rw [hHeld]
      exact List.perm_append_comm) }

/-- After a frame the thread offers the buffer that it holds or recycles it. -/
theorem Received.giveBack (h : Received F s) (hThread : s.thread = .offer ∨ s.thread = .recycle)
    {q : FrameBufferQueue B}
    (hLen : q.mDataBuffer.length = s.mInputFrameBufferQueue.mDataBuffer.length)
    (hContent : q.content = s.mInputFrameBufferQueue.content)
    (hGive : ∀ held, s.mInputFrameBufferQueue.Owned (s.tempBufferData.toList ++ held) →
      q.Owned held) :
    Received F { s with mInputFrameBufferQueue := q, thread := .test } := by
  have hIndex : s.index = 0 := h.between (by obtain h | h := hThread <;> rw [h] <;> trivial)
  have hInput : s.inputHeld = s.tempBufferData.toList := by
    rw [Input.inputHeld]
    obtain h | h := hThread <;> rw [h]
  have hAfter : ({ s with mInputFrameBufferQueue := q, thread := .test } : Input B).inputHeld = [] :=
    if_pos hIndex
  obtain ⟨lost, hOwned⟩ := h.owns
  rw [hInput, List.append_assoc] at hOwned
  exact { h with
    sized := fun i hi => by
      rw [hLen] at hi
      rw [hContent]
      exact h.sized i hi
    temp_lt := fun i hi => hLen.symm ▸ h.temp_lt i hi
    between := fun hBetween => hBetween.elim
    resetting := fun hReset => hReset.elim
    claiming := fun i hi => InputPc.noConfusion hi
    owns := ⟨lost, by rw [hAfter]; exact hGive _ hOwned⟩ }

/-- The reset of the queue, and that of one buffer after another, leaves the free ones free. -/
theorem Received.reset (h : Received F s) (hReset : s.thread.Resetting) (i : Nat)
    {q : FrameBufferQueue B} (hSized : Sized F q) (hEmpty : q.queue = [])
    (hLen : q.mDataBuffer.length = s.mInputFrameBufferQueue.mDataBuffer.length)
    (hSame : q.isFree = s.mInputFrameBufferQueue.isFree) :
    Received F { s with mInputFrameBufferQueue := q, thread := .resetBuffer i } := by
  have hBetween : s.thread.BetweenFrames := by
    revert hReset
    cases s.thread <;> first | exact fun _ => trivial | exact False.elim
  have hInput : s.inputHeld = [] := by
    rw [Input.inputHeld]
    revert hReset
    cases s.thread <;> first | exact fun _ => rfl | exact False.elim
  obtain ⟨hOldEmpty, hFree⟩ := h.resetting hReset
  obtain ⟨lost, hOwned⟩ := h.owns
  have hQueue : s.mInputFrameBufferQueue.queue = q.queue := hOldEmpty.trans hEmpty.symm
  rw [FrameBufferQueue.Owned, hInput, hQueue, ← hLen, ← hSame] at hOwned
  exact { h with
    sized := hSized
    temp_lt := fun j hj => hLen.symm ▸ h.temp_lt j hj
    between := fun _ => h.between hBetween
    resetting := fun _ => ⟨hEmpty, by rw [hLen, hSame]; exact hFree⟩
    claiming := fun i hi => InputPc.noConfusion hi
    owns := ⟨lost, hOwned⟩ }

theorem Received.begin (h : Received F s) {q : FrameBufferQueue B} {temp : Option Nat}
    {lost : List Nat} (hSized : Sized F q)
    (hOwned : q.Owned (temp.toList ++ s.callback.held ++ lost)) :
    Received F { s with mInputFrameBufferQueue := q, tempBufferData := temp, thread := .read } :=
  { h with
    sized := hSized
    temp_lt := fun _ hi => Pool.Partition.lt_of_mem hOwned (List.mem_append_right _
      (List.mem_append_left _ (List.mem_append_left _ (Option.mem_toList.mpr hi))))
    between := fun hBetween => hBetween.elim
    resetting := fun hReset => hReset.elim
    claiming := fun _ hi => InputPc.noConfusion hi
    owns := ⟨lost, hOwned⟩ }

theorem Received.inputStep (h : Received F s)
    (hStep : inputStep answer s wire = some (s', wire')) : Received F s' := by
  unfold SocketExt.inputStep at hStep
  dsimp only at hStep
  split at hStep
  case h_1 hThread =>
    cases hStep
    exact h.reset (by rw [hThread]; trivial) 0 h.sized rfl rfl rfl
  case h_2 i hThread =>
    have hReset : s.thread.Resetting := by rw [hThread]; trivial
    split at hStep
    · rename_i hLt
      cases hStep
      obtain ⟨hEmpty, hFree⟩ := h.resetting hReset
      exact h.reset hReset _ (h.sized.setState (-1)) hEmpty
        (s.mInputFrameBufferQueue.setState_length i (-1))
        (s.mInputFrameBufferQueue.setState_isFree_of_free i (hFree i hLt))
    · cases hStep
      have hIndex : s.index = 0 := h.between (by rw [hThread]; trivial)
      have hInput : s.inputHeld = [] := by rw [Input.inputHeld, hThread]
      exact h.goto _ _ False.elim id (fun i hi => InputPc.noConfusion hi)
        ((if_pos hIndex).trans hInput.symm)
  case h_3 hThread =>
    split at hStep
    · cases hStep
      by_cases hIndex : s.index = 0
      · have hInput : s.inputHeld = [] := by rw [Input.inputHeld, hThread]; exact if_pos hIndex
        rw [if_pos hIndex]
        exact h.goto _ _ (fun _ => hIndex) id (fun i hi => InputPc.noConfusion hi) hInput.symm
      · have hInput : s.inputHeld = s.tempBufferData.toList := by
          rw [Input.inputHeld, hThread]
          exact if_neg hIndex
        rw [if_neg hIndex]
        exact h.goto _ _ False.elim id (fun i hi => InputPc.noConfusion hi) hInput.symm
    · cases hStep
      exact h.abandon _ _ (Or.inl rfl)
  case h_4 i hThread =>
    have hInput : s.inputHeld = [] := by rw [Input.inputHeld, hThread]
    have hIndex : s.index = 0 := h.between (by rw [hThread]; trivial)
    split at hStep
    · cases hStep
      by_cases hFree : s.mInputFrameBufferQueue.isFree i = true
      · rw [if_pos hFree]
        exact h.goto _ _ (fun _ => hIndex) id (fun j hj => by cases hj; exact hFree) hInput.symm
      · rw [if_neg hFree]
        exact h.goto _ _ (fun _ => hIndex) id (fun i hi => InputPc.noConfusion hi) hInput.symm
    · cases hStep
      exact h.goto _ _ (fun _ => hIndex) id (fun i hi => InputPc.noConfusion hi) hInput.symm
  case h_5 i hThread =>
    cases hStep
    have hInput : s.inputHeld = [] := by rw [Input.inputHeld, hThread]
    obtain ⟨lost, hOwned⟩ := h.owns
    rw [hInput, List.nil_append] at hOwned
    exact h.begin (h.sized.setState 0) (hOwned.claim (h.claiming i hThread))
  case h_6 hThread =>
    cases hStep
    have hInput : s.inputHeld = [] := by rw [Input.inputHeld, hThread]
    obtain ⟨lost, hOwned⟩ := h.owns
    rw [hInput, List.nil_append] at hOwned
    exact h.begin h.sized (by rw [List.append_assoc]; exact hOwned.pollCustom)
  case h_7 k hThread =>
    split at hStep
    · rename_i hCount
      cases hStep
      have hLen := h.length_buffer
      have hIndex := h.index_lt
      have hTake : (wire.take k).length = k := by rw [List.length_take]; omega
      have hStored := h.store (wire.take k) (by omega)
      obtain ⟨hThread', hIndex', -⟩ := store_fields s (wire.take k)
      exact hStored.advance (hThread'.trans hThread) (by omega)
    · cases hStep
  case h_8 hThread =>
    cases hStep
    exact h.advance hThread (Nat.le_of_lt h.index_lt)
  case h_9 k hThread =>
    cases hStep
    by_cases hIndex : s.index = 0
    · exact h.abandon _ _ (Or.inr ⟨rfl, hIndex⟩)
    · have hInput : s.inputHeld = s.tempBufferData.toList := by rw [Input.inputHeld, hThread]
      exact h.goto _ _ False.elim id (fun i hi => InputPc.noConfusion hi)
        ((if_neg hIndex).trans hInput.symm)
  case h_10 hThread =>
    cases hStep
    refine h.giveBack (Or.inl hThread) ?_ ?_ ?_
    · cases s.tempBufferData <;> rfl
    · cases s.tempBufferData <;> rfl
    · cases s.tempBufferData with
      | none => exact fun lost hOwned => hOwned
      | some i => exact fun lost hOwned => hOwned.offerCustom
  case h_11 hThread =>
    cases hStep
    refine h.giveBack (Or.inr hThread) ?_ ?_ ?_
    · cases s.tempBufferData with
      | none => rfl
      | some i => exact s.mInputFrameBufferQueue.setState_length i (-1)
    · cases s.tempBufferData with
      | none => rfl
      | some i => exact s.mInputFrameBufferQueue.setState_content i (-1)
    · cases s.tempBufferData with
      | none => exact fun lost hOwned => hOwned
      | some i => exact fun lost hOwned => hOwned.recycleBufferData
  case h_12 => cases hStep

end InputThread

section CallbackThread

variable {F : Nat} {s s' : Input B} {answer : Answer}

theorem Received.callbackGoto (h : Received F s) (delivered : List (Option (List B)))
    (pc : CallbackPc) (dropped : List Nat) (hHeld : s.callback.held = pc.held ++ dropped) :
    Received F { s with delivered := delivered, callback := pc } :=
  { h with
    owns := h.owns.drop rfl dropped (by
      rw [hHeld, ← List.append_assoc]
      exact List.Perm.refl _) }

theorem Received.callbackStep (h : Received F s) (hStep : callbackStep answer s = some s') :
    Received F s' := by
  unfold SocketExt.callbackStep at hStep
  dsimp only at hStep
  split at hStep
  case h_1 hThread =>
    cases hStep
    refine h.callbackGoto s.delivered _ [] ?_
    rw [hThread]
    split <;> rfl
  case h_2 hThread =>
    cases hStep
    obtain ⟨-, hPoll⟩ | ⟨i, rest, hQueue, hPoll⟩ := s.mInputFrameBufferQueue.pollCustom_cases
    · rw [hPoll]
      exact h.callbackGoto s.delivered .test [] (by rw [hThread]; rfl)
    · obtain ⟨lost, hOwned⟩ := h.owns
      have hPolled := hOwned.pollCustom
      rw [hThread, hPoll, CallbackPc.held.eq_def, List.append_nil] at hPolled
      have hMoved : ([i] ++ (s.inputHeld ++ lost)).Perm (s.inputHeld ++ [i] ++ lost) := by
        rw [← List.append_assoc]
        exact List.perm_append_comm.append_right lost
      rw [hPoll]
      exact { h with
        resetting := fun hReset => by
          obtain ⟨hEmpty, -⟩ := h.resetting hReset
          rw [hQueue] at hEmpty
          cases hEmpty
        owns := ⟨lost, hPolled.perm hMoved⟩ }
  case h_3 temp hThread =>
    split at hStep
    · cases hStep
      exact h.callbackGoto _ _ [] (by rw [hThread]; rfl)
    · cases hStep
      exact h.callbackGoto s.delivered _ [] (by rw [hThread]; rfl)
  case h_4 temp hThread =>
    cases hStep
    exact h.callbackGoto s.delivered _ [] (by rw [hThread]; rfl)
  case h_5 temp k hThread =>
    cases hStep
    exact h.callbackGoto s.delivered _ [temp] (by rw [hThread]; rfl)
  case h_6 temp hThread =>
    cases hStep
    obtain ⟨lost, hOwned⟩ := h.owns
    rw [hThread] at hOwned
    have hHead := hOwned.perm (List.perm_append_comm.append_right lost)
    have hLt : temp < s.mInputFrameBufferQueue.mDataBuffer.length :=
      Pool.Partition.lt_of_mem hHead (List.mem_append_right _ List.mem_cons_self)
    have hLen := s.mInputFrameBufferQueue.setState_length temp (-1)
    have hFree {j : Nat} (hj : s.mInputFrameBufferQueue.isFree j = true) :
        (s.mInputFrameBufferQueue.setState temp (-1)).isFree j = true := by
      rw [s.mInputFrameBufferQueue.setState_isFree temp (-1) hLt, Function.update_apply]
      split
      · rfl
      · exact hj
    exact { h with
      sized := h.sized.setState (-1)
      temp_lt := fun j hj => hLen.symm ▸ h.temp_lt j hj
      resetting := fun hReset => by
        obtain ⟨hEmpty, hAll⟩ := h.resetting hReset
        exact ⟨hEmpty, fun j hj => hFree (hAll j (hLen ▸ hj))⟩
      claiming := fun j hj => hFree (h.claiming j hj)
      owns := ⟨lost, by
        change (s.mInputFrameBufferQueue.recycleBufferData _).Owned (s.inputHeld ++ [] ++ lost)
        rw [List.append_nil]
        exact hHead.recycleBufferData⟩ }
  case h_7 => cases hStep

end CallbackThread

end LocalCall.Socket.SocketExt
