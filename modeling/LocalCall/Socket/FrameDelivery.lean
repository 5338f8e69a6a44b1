import Mathlib.Algebra.Ring.Int.Defs
import LocalCall.Socket.FrameOwnership
import LocalCall.Library.Transition

/-! # Delivery of whole frames

What the input thread has read of the current frame and what is still on the stream are together
the frames that are not read yet; the frames delivered and those on their way to the callback are
some of the ones read, in order.
-/
namespace LocalCall.Socket.SocketExt
open Data
set_option autoImplicit false

variable {B : Type}

def Input.begun (s : Input B) : List B := s.buffer.take s.index

def Input.dispatching (s : Input B) : List (Option (List B)) :=
  match s.callback with
  | .dispatch temp => [s.mInputFrameBufferQueue.content temp]
  | _ => []

def Input.offering (s : Input B) : List (Option (List B)) :=
  match s.thread with
  | .offer => s.tempBufferData.toList.map s.mInputFrameBufferQueue.content
  | _ => []

/-- The frames on their way to the callback, the one that comes next first. -/
def Input.pending (s : Input B) : List (Option (List B)) :=
  s.dispatching ++ s.mInputFrameBufferQueue.queue.map s.mInputFrameBufferQueue.content ++ s.offering

section Effects

variable {F : Nat} {s s' : Input B} {wire wire' : List B} {answer : Answer}

/-- What a step of the input thread does to the stream and to the frames on their way: it leaves
the bytes where they are in the order, or it completes a frame. -/
structure InputEffect (F : Nat) (s : Input B) (wire : List B) (s' : Input B) (wire' : List B) :
    Prop where
  delivered : s'.delivered = s.delivered
  callback : s'.callback = s.callback
  unchanged : ∀ i, i ∈ s.mInputFrameBufferQueue.queue ∨ i ∈ s.callback.held →
    s'.mInputFrameBufferQueue.content i = s.mInputFrameBufferQueue.content i
  stream : (s'.begun ++ wire' = s.begun ++ wire ∧ s'.pending.Sublist s.pending) ∨
    ∃ frame : List B, frame.length = F ∧ s'.begun = [] ∧ frame ++ wire' = s.begun ++ wire ∧
      s'.pending.Sublist (s.pending ++ [some frame])

theorem begun_congr_of_index_eq_zero (h : s.index = 0) (h' : s'.index = 0) :
    s'.begun = s.begun := by
  rw [Input.begun, Input.begun, h, h', List.take_zero, List.take_zero]

theorem buffer_congr (hTemp : s'.tempBufferData = s.tempBufferData)
    (hTempbuffer : s'.tempbuffer = s.tempbuffer)
    (hContent : s'.mInputFrameBufferQueue.content = s.mInputFrameBufferQueue.content) :
    s'.buffer = s.buffer := by
  rw [Input.buffer, Input.buffer, hTemp, hTempbuffer, hContent]

theorem dispatching_congr (hCallback : s'.callback = s.callback)
    (hContent : ∀ i ∈ s.callback.held,
      s'.mInputFrameBufferQueue.content i = s.mInputFrameBufferQueue.content i) :
    s'.dispatching = s.dispatching := by
  rw [Input.dispatching, Input.dispatching, hCallback]
  cases hPc : s.callback with
  | dispatch temp => exact congrArg ([·]) (hContent temp (by rw [hPc]; exact List.mem_cons_self))
  | _ => rfl

theorem InputEffect.quiet (hDelivered : s'.delivered = s.delivered)
    (hCallback : s'.callback = s.callback)
    (hContent : s'.mInputFrameBufferQueue.content = s.mInputFrameBufferQueue.content)
    (hQueue : s'.mInputFrameBufferQueue.queue.Sublist s.mInputFrameBufferQueue.queue)
    (hOffering : s'.offering = []) (hBegun : s'.begun = s.begun) :
    InputEffect F s wire s' wire := by
  have hSame := fun i (_ : i ∈ s.callback.held) => congrFun hContent i
  refine ⟨hDelivered, hCallback, fun i _ => congrFun hContent i, Or.inl ⟨by rw [hBegun], ?_⟩⟩
  rw [Input.pending, Input.pending, dispatching_congr hCallback hSame, hContent, hOffering]
  apply List.Sublist.append
  · exact (List.Sublist.refl _).append (hQueue.map _)
  · exact List.nil_sublist _

theorem Received.apart (h : Received F s) {i : Nat} (hHeld : i ∈ s.inputHeld) :
    i ∉ s.mInputFrameBufferQueue.queue ∧ i ∉ s.callback.held := by
  obtain ⟨lost, hOwned⟩ := h.owns
  obtain ⟨-, hNodup, hQueue⟩ := List.nodup_append.mp (Pool.Partition.nodup hOwned)
  obtain ⟨hThreads, -, -⟩ := List.nodup_append.mp hNodup
  obtain ⟨-, -, hCallback⟩ := List.nodup_append.mp hThreads
  constructor
  · exact fun hi => hQueue i hi i (List.mem_append_left _ (List.mem_append_left _ hHeld)) rfl
  · exact fun hi => hCallback i hHeld i hi rfl

theorem Received.store_unchanged (h : Received F s) (hThread : s.thread = .read) (bytes : List B)
    {i : Nat} (hi : i ∈ s.mInputFrameBufferQueue.queue ∨ i ∈ s.callback.held) :
    (s.store bytes).mInputFrameBufferQueue.content i = s.mInputFrameBufferQueue.content i := by
  obtain ⟨-, hStore⟩ | ⟨j, hTemp, hStore⟩ := h.store_cases bytes
  · rw [hStore]
  · have hHeld : j ∈ s.inputHeld := by
      rw [Input.inputHeld, hThread, hTemp]
      exact List.mem_cons_self
    obtain ⟨hQueue, hCallback⟩ := h.apart hHeld
    rw [hStore]
    apply FrameBufferQueue.setBuffer_content_of_ne
    rintro rfl
    exact hi.elim hQueue hCallback

theorem Received.offered_sublist (h : Received F s) :
    (s.tempBufferData.toList.map s.mInputFrameBufferQueue.content).Sublist [some s.buffer] := by
  cases hTemp : s.tempBufferData with
  | none => exact List.nil_sublist _
  | some i =>
    obtain ⟨data, hContent, -⟩ := h.sized i (h.temp_lt i hTemp)
    rw [Input.buffer, hTemp, Option.bind_some, hContent, Option.toList_some, List.map_singleton,
      hContent]
    exact List.Sublist.refl _

theorem Received.store_effect (h : Received F s) (hThread : s.thread = .read) {k : Nat}
    (hWire : k ≤ wire.length) (hCount : 0 < k) (hFits : s.index + k ≤ F) :
    InputEffect F s wire ((s.store (wire.take k)).advance k) (wire.drop k) := by
  have hTake : (wire.take k).length = k := by rw [List.length_take]; omega
  have hUnchanged := fun i => h.store_unchanged hThread (wire.take k) (i := i)
  have hLen : (s.stored (wire.take k)).length = F := h.length_stored (by omega)
  have hStored := h.take_stored (wire.take k)
  have hBuffer := h.buffer_store (wire.take k)
  have hReceived := h.store (wire.take k) (by omega)
  obtain ⟨-, hIndex, hFrameSize, hDelivered, hCallback, -, hQueue⟩ := store_fields s (wire.take k)
  generalize s.store (wire.take k) = t at *
  have hRead : s.buffer.take s.index ++ wire.take k ++ wire.drop k = s.begun ++ wire := by
    rw [List.append_assoc, List.take_append_drop, Input.begun]
  -- the frames on their way lie in buffers that the read does not touch
  have hPending : s.pending =
      t.dispatching ++ t.mInputFrameBufferQueue.queue.map t.mInputFrameBufferQueue.content := by
    rw [Input.pending, Input.offering, hThread,
      dispatching_congr hCallback fun i hi => hUnchanged i (Or.inr hi), hQueue,
      List.map_congr_left fun i hi => hUnchanged i (Or.inl hi)]
    exact List.append_nil _
  rw [hTake] at hStored
  obtain ⟨hFull, hAdvance⟩ | ⟨hZero, -⟩ | ⟨-, -, hAdvance⟩ := advance_cases t k
  · rw [hIndex, hFrameSize, h.mFrameSize] at hFull
    rw [hFull, List.take_of_length_le (Nat.le_of_eq hLen)] at hStored
    rw [hAdvance]
    refine ⟨hDelivered, hCallback, hUnchanged, Or.inr ⟨t.buffer, ?_, rfl, ?_, ?_⟩⟩
    · rw [hBuffer, hLen]
    · rw [hBuffer, hStored, hRead]
    · rw [hPending]
      exact (List.Sublist.refl _).append hReceived.offered_sublist
  · omega
  · rw [hAdvance]
    refine ⟨hDelivered, hCallback, hUnchanged, Or.inl ⟨?_, ?_⟩⟩
    · change t.buffer.take (t.index + k) ++ wire.drop k = s.begun ++ wire
      rw [hBuffer, hIndex, hStored, hRead]
    · rw [hPending]
      change (_ ++ []).Sublist _
      rw [List.append_nil]
      exact List.Sublist.refl _

theorem Received.inputStep_effect (h : Received F s)
    (hStep : SocketExt.inputStep answer s wire = some (s', wire')) : InputEffect F s wire s' wire' := by
  unfold SocketExt.inputStep at hStep
  dsimp only at hStep
  split at hStep
  case h_1 hThread =>
    cases hStep
    exact InputEffect.quiet rfl rfl rfl (List.nil_sublist _) rfl rfl
  case h_2 i hThread =>
    split at hStep
    · cases hStep
      have hContent := s.mInputFrameBufferQueue.setState_content i (-1)
      exact InputEffect.quiet rfl rfl hContent (List.Sublist.refl _) rfl
        (congrArg (List.take s.index) (buffer_congr rfl rfl hContent))
    · cases hStep
      exact InputEffect.quiet rfl rfl rfl (List.Sublist.refl _) rfl rfl
  case h_3 hThread =>
    split at hStep
    · cases hStep
      refine InputEffect.quiet rfl rfl rfl (List.Sublist.refl _) ?_ rfl
      rw [Input.offering]
      by_cases hIndex : s.index = 0
      · rw [if_pos hIndex]
      · rw [if_neg hIndex]
    · cases hStep
      exact InputEffect.quiet rfl rfl rfl (List.Sublist.refl _) rfl rfl
  case h_4 i hThread =>
    split at hStep
    · cases hStep
      refine InputEffect.quiet rfl rfl rfl (List.Sublist.refl _) ?_ rfl
      rw [Input.offering]
      by_cases hFree : s.mInputFrameBufferQueue.isFree i = true
      · rw [if_pos hFree]
      · rw [if_neg hFree]
    · cases hStep
      exact InputEffect.quiet rfl rfl rfl (List.Sublist.refl _) rfl rfl
  case h_5 i hThread =>
    cases hStep
    have hIndex : s.index = 0 := h.between (by rw [hThread]; trivial)
    exact InputEffect.quiet rfl rfl (s.mInputFrameBufferQueue.setState_content i 0)
      (List.Sublist.refl _) rfl
      (begun_congr_of_index_eq_zero hIndex hIndex)
  case h_6 hThread =>
    cases hStep
    have hIndex : s.index = 0 := h.between (by rw [hThread]; trivial)
    exact InputEffect.quiet rfl rfl rfl (List.tail_sublist _) rfl
      (begun_congr_of_index_eq_zero hIndex hIndex)
  case h_7 k hThread =>
    split at hStep
    · rename_i hRead
      cases hStep
      obtain ⟨hCount, hWire, hRoom⟩ := hRead
      have hLen := h.length_buffer
      have hIndex := h.index_lt
      exact h.store_effect hThread hWire hCount (by omega)
    · cases hStep
  case h_8 hThread =>
    cases hStep
    have hIndex := h.index_lt
    obtain ⟨hFull, -⟩ | ⟨hZero, hAdvance⟩ | ⟨-, -, hAdvance⟩ := advance_cases s 0
    · rw [h.mFrameSize] at hFull
      omega
    · rw [hAdvance]
      exact InputEffect.quiet rfl rfl rfl (List.Sublist.refl _) rfl
        (begun_congr_of_index_eq_zero hZero rfl)
    · rw [hAdvance]
      exact InputEffect.quiet rfl rfl rfl (List.Sublist.refl _) rfl rfl
  case h_9 k hThread =>
    cases hStep
    exact InputEffect.quiet rfl rfl rfl (List.Sublist.refl _) rfl rfl
  case h_10 hThread =>
    cases hStep
    have hIndex : s.index = 0 := h.between (by rw [hThread]; trivial)
    have hPending : s.pending = s.dispatching ++
        (s.mInputFrameBufferQueue.queue.map s.mInputFrameBufferQueue.content ++
          s.tempBufferData.toList.map s.mInputFrameBufferQueue.content) := by
      rw [Input.pending, Input.offering, hThread, List.append_assoc]
    cases hTemp : s.tempBufferData with
    | none =>
      exact InputEffect.quiet rfl rfl rfl (List.Sublist.refl _) rfl
        (begun_congr_of_index_eq_zero hIndex hIndex)
    | some i =>
      rw [hTemp] at hPending
      refine ⟨rfl, rfl, fun _ _ => rfl, Or.inl ⟨?_, ?_⟩⟩
      · exact congrArg (· ++ wire) (begun_congr_of_index_eq_zero hIndex hIndex)
      · rw [hPending, ← List.map_append]
        change (s.dispatching ++ (s.mInputFrameBufferQueue.queue ++ [i]).map _ ++ []).Sublist _
        rw [List.append_nil]
        exact List.Sublist.refl _
  case h_11 hThread =>
    cases hStep
    have hIndex : s.index = 0 := h.between (by rw [hThread]; trivial)
    refine InputEffect.quiet rfl rfl ?_ ?_ rfl
      (begun_congr_of_index_eq_zero hIndex hIndex)
    · cases s.tempBufferData with
      | none => rfl
      | some i => exact s.mInputFrameBufferQueue.setState_content i (-1)
    · cases s.tempBufferData <;> exact List.Sublist.refl _
  case h_12 => cases hStep

/-- What a step of the callback thread does: it takes the next frame out of the queue, delivers it
or drops it. -/
structure CallbackEffect (s s' : Input B) : Prop where
  begun : s'.begun = s.begun
  content : s'.mInputFrameBufferQueue.content = s.mInputFrameBufferQueue.content
  pending : (s'.delivered ++ s'.pending).Sublist (s.delivered ++ s.pending)
  calling : ∀ temp, s'.callback = .dataCallback temp →
    s'.delivered.getLast? = some (s'.mInputFrameBufferQueue.content temp)

theorem begun_congr (hIndex : s'.index = s.index) (hTemp : s'.tempBufferData = s.tempBufferData)
    (hTempbuffer : s'.tempbuffer = s.tempbuffer)
    (hContent : s'.mInputFrameBufferQueue.content = s.mInputFrameBufferQueue.content) :
    s'.begun = s.begun := by
  rw [Input.begun, Input.begun, hIndex, buffer_congr hTemp hTempbuffer hContent]

theorem CallbackEffect.goto (pc : CallbackPc) (hFrom : s.dispatching = [])
    (hTo : ({ s with callback := pc } : Input B).dispatching = [])
    (hCalling : ∀ temp, pc ≠ .dataCallback temp) : CallbackEffect s { s with callback := pc } := by
  refine ⟨rfl, rfl, ?_, fun temp hTemp => absurd hTemp (hCalling temp)⟩
  rw [Input.pending, Input.pending, hFrom, hTo]
  exact List.Sublist.refl _

theorem callbackStep_effect (hStep : callbackStep answer s = some s') : CallbackEffect s s' := by
  unfold callbackStep at hStep
  dsimp only at hStep
  split at hStep
  case h_1 hThread =>
    cases hStep
    have hFrom : s.dispatching = [] := by rw [Input.dispatching, hThread]
    apply CallbackEffect.goto _ hFrom
    · rw [Input.dispatching]
      by_cases hStop : s.mStreamStopFlag <;> simp only [hStop] <;> rfl
    · intro temp
      by_cases hStop : s.mStreamStopFlag <;> simp only [hStop] <;> exact CallbackPc.noConfusion
  case h_2 hThread =>
    cases hStep
    have hFrom : s.dispatching = [] := by rw [Input.dispatching, hThread]
    obtain ⟨-, hPoll⟩ | ⟨i, rest, hQueue, hPoll⟩ := s.mInputFrameBufferQueue.pollCustom_cases
    · rw [hPoll]
      exact CallbackEffect.goto .test hFrom rfl fun temp => CallbackPc.noConfusion
    · rw [hPoll]
      refine ⟨rfl, rfl, ?_, fun temp hTemp => CallbackPc.noConfusion hTemp⟩
      rw [Input.pending, Input.pending, hFrom, hQueue]
      exact List.Sublist.refl _
  case h_3 temp hThread =>
    have hFrom : s.dispatching = [s.mInputFrameBufferQueue.content temp] := by
      rw [Input.dispatching, hThread]
    split at hStep
    · cases hStep
      refine ⟨rfl, rfl, ?_, ?_⟩
      · rw [Input.pending, Input.pending, hFrom, List.append_assoc]
        exact List.Sublist.refl _
      · intro temp' hTemp
        cases hTemp
        exact List.getLast?_concat
    · cases hStep
      refine ⟨rfl, rfl, ?_, fun temp hTemp => CallbackPc.noConfusion hTemp⟩
      rw [Input.pending, Input.pending, hFrom]
      apply (List.Sublist.refl _).append
      exact (List.sublist_append_right _ _).append (List.Sublist.refl _)
  case h_4 temp hThread =>
    cases hStep
    have hFrom : s.dispatching = [] := by rw [Input.dispatching, hThread]
    exact CallbackEffect.goto _ hFrom rfl fun temp => CallbackPc.noConfusion
  case h_5 temp k hThread =>
    cases hStep
    have hFrom : s.dispatching = [] := by rw [Input.dispatching, hThread]
    exact CallbackEffect.goto _ hFrom rfl fun temp => CallbackPc.noConfusion
  case h_6 temp hThread =>
    cases hStep
    have hFrom : s.dispatching = [] := by rw [Input.dispatching, hThread]
    have hContent := s.mInputFrameBufferQueue.setState_content temp (-1)
    refine ⟨begun_congr rfl rfl rfl hContent, hContent, ?_,
      fun temp hTemp => CallbackPc.noConfusion hTemp⟩
    have hPending : s.pending = ({ s with
        mInputFrameBufferQueue := s.mInputFrameBufferQueue.recycleBufferData (some temp)
        callback := .test } : Input B).pending := by
      rw [Input.pending, Input.pending, hFrom, Input.offering, Input.offering]
      dsimp only [FrameBufferQueue.recycleBufferData]
      rw [hContent]
      rfl
    rw [hPending]
  case h_7 => cases hStep

end Effects

/-- A write has thrown, and the flag keeps the output thread from another one. -/
def Output.Broken (s : Output B) : Prop :=
  s.mStreamStopFlag = true ∧ (s.thread = .test ∨ s.thread = .ended)

structure Sends (F : Nat) (s : Output B) : Prop where
  mFrameSize : s.mFrameSize = F
  sized : Sized F s.mOutputFrameBufferQueue

section Sending

variable {F : Nat} {s s' : Output B} {answer : Answer} {bytes : List B} {frames : List (List B)}

theorem Sends.clientStep {op : ClientStep B} (h : Sends F s) (hStep : clientStep s op = some s') :
    Sends F s' ∧ s'.mStreamStopFlag = s.mStreamStopFlag ∧ s'.thread = s.thread := by
  cases op with
  | generate =>
    cases hStep
    exact ⟨⟨h.mFrameSize, h.sized.generateBufferData⟩, rfl, rfl⟩
  | fill i data =>
    rw [SocketExt.clientStep] at hStep
    split at hStep
    · rename_i hData
      cases hStep
      exact ⟨⟨h.mFrameSize, h.sized.setBuffer (hData.trans h.mFrameSize)⟩, rfl, rfl⟩
    · cases hStep
  | offer i =>
    cases hStep
    exact ⟨⟨h.mFrameSize, h.sized⟩, rfl, rfl⟩
  | recycle i =>
    cases hStep
    exact ⟨⟨h.mFrameSize, h.sized.setState (-1)⟩, rfl, rfl⟩

/-- What a step of the output thread puts on the stream: nothing, a frame, or a part of one, after
which it puts nothing there any more. -/
inductive Puts (F : Nat) (s s' : Output B) : List B → List (List B) → Prop where
  | nothing (h : s.Broken → s'.Broken) : Puts F s s' [] []
  | frame (h : ¬ s.Broken) (data : List B) (hData : data.length = F) : Puts F s s' data [data]
  | part (h : ¬ s.Broken) (h' : s'.Broken) (data : List B) (hData : data.length < F) :
    Puts F s s' data []

theorem Sends.outputStep (h : Sends F s)
    (hStep : outputStep answer s = some (s', bytes, frames)) :
    Sends F s' ∧ Puts F s s' bytes frames := by
  have hNotBroken {pc : OutputPc} (hThread : s.thread = pc) (hTest : pc ≠ .test)
      (hEnded : pc ≠ .ended) : ¬ s.Broken := by
    rintro ⟨-, hPc⟩
    rw [hThread] at hPc
    exact hPc.elim hTest hEnded
  unfold SocketExt.outputStep at hStep
  dsimp only at hStep
  split at hStep
  case h_1 hThread =>
    cases hStep
    have hNot := hNotBroken hThread OutputPc.noConfusion OutputPc.noConfusion
    exact ⟨⟨h.mFrameSize, h.sized⟩, .nothing fun hBroken => absurd hBroken hNot⟩
  case h_2 i hThread =>
    have hNot := hNotBroken hThread OutputPc.noConfusion OutputPc.noConfusion
    split at hStep
    · cases hStep
      exact ⟨⟨h.mFrameSize, h.sized.setState (-1)⟩, .nothing fun hBroken => absurd hBroken hNot⟩
    · cases hStep
      exact ⟨⟨h.mFrameSize, h.sized⟩, .nothing fun hBroken => absurd hBroken hNot⟩
  case h_3 hThread =>
    cases hStep
    refine ⟨⟨h.mFrameSize, h.sized⟩, .nothing fun hBroken => ⟨hBroken.1, Or.inr ?_⟩⟩
    rw [hBroken.1]
    rfl
  case h_4 hThread =>
    cases hStep
    have hNot := hNotBroken hThread OutputPc.noConfusion OutputPc.noConfusion
    exact ⟨⟨h.mFrameSize, h.sized⟩, .nothing fun hBroken => absurd hBroken hNot⟩
  case h_5 i hThread =>
    have hNot := hNotBroken hThread OutputPc.noConfusion OutputPc.noConfusion
    split at hStep
    · rename_i mBuffer hContent
      cases hStep
      exact ⟨⟨h.mFrameSize, h.sized⟩, .frame hNot _ (h.sized.length_eq hContent)⟩
    · cases hStep
      exact ⟨⟨h.mFrameSize, h.sized⟩, .nothing fun hBroken => absurd hBroken hNot⟩
  case h_6 i k hThread =>
    have hNot := hNotBroken hThread OutputPc.noConfusion OutputPc.noConfusion
    split at hStep
    · rename_i mBuffer hContent
      split at hStep
      · rename_i hPart
        cases hStep
        have hLen := h.sized.length_eq hContent
        refine ⟨⟨h.mFrameSize, h.sized⟩, .part hNot ⟨rfl, Or.inl rfl⟩ _ ?_⟩
        rw [List.length_take]
        omega
      · cases hStep
    · cases hStep
  case h_7 i hThread =>
    cases hStep
    have hNot := hNotBroken hThread OutputPc.noConfusion OutputPc.noConfusion
    exact ⟨⟨h.mFrameSize, h.sized.setState (-1)⟩, .nothing fun hBroken => absurd hBroken hNot⟩
  case h_8 => cases hStep

end Sending

/-- How the frames written are cut: `completed` has been read and `rest` has not, and `broken` is
what a write that threw has left at the end of the stream. -/
structure Cut (F : Nat) (c : Connection B) (completed rest : List (List B)) (broken : List B) :
    Prop where
  written : c.written = completed ++ rest
  unread : rest.flatten ++ broken = c.receiver.begun ++ c.wire
  broken_lt : broken.length < F
  last : broken ≠ [] → c.sender.Broken
  in_order : (c.receiver.delivered ++ c.receiver.pending).Sublist (completed.map some)

structure Inv (F : Nat) (c : Connection B) : Prop where
  sends : Sends F c.sender
  lengths : ∀ frame ∈ c.written, frame.length = F
  received : Received F c.receiver
  cut : ∃ completed rest broken, Cut F c completed rest broken
  calling : ∀ temp, c.receiver.callback = .dataCallback temp →
    c.receiver.delivered.getLast? = some (c.receiver.mInputFrameBufferQueue.content temp)

/-- The buffers given to the callback hold frames that were sent, in the order in which they were
sent and each frame once, and nobody writes to a buffer in the queue or with the callback. -/
structure Delivers (c : Connection B) : Prop where
  in_order : c.receiver.delivered.Sublist (c.written.map some)
  calling : ∀ temp, c.receiver.callback = .dataCallback temp →
    c.receiver.delivered.getLast? = some (c.receiver.mInputFrameBufferQueue.content temp)
  unchanged : ∀ e c', step c e = some c' →
    ∀ i, i ∈ c.receiver.mInputFrameBufferQueue.queue ∨ i ∈ c.receiver.callback.held →
      c'.receiver.mInputFrameBufferQueue.content i = c.receiver.mInputFrameBufferQueue.content i

section Runs

variable {F : Nat} {c c' : Connection B}

theorem first_unread {rest : List (List B)} {frame broken wire : List B}
    (hLengths : ∀ f ∈ rest, f.length = F) (hBroken : broken.length < F) (hFrame : frame.length = F)
    (h : rest.flatten ++ broken = frame ++ wire) :
    ∃ rest', rest = frame :: rest' ∧ rest'.flatten ++ broken = wire := by
  cases rest with
  | nil =>
    have hLen := congrArg List.length h
    rw [List.flatten_nil, List.nil_append, List.length_append] at hLen
    omega
  | cons f rest =>
    rw [List.flatten_cons, List.append_assoc] at h
    obtain ⟨rfl, hRest⟩ := List.append_inj h ((hLengths f List.mem_cons_self).trans hFrame.symm)
    exact ⟨rest, rfl, hRest⟩

theorem Cut.input {completed rest : List (List B)} {broken wire : List B} {s : Input B}
    (h : Cut F c completed rest broken) (hLengths : ∀ frame ∈ c.written, frame.length = F)
    (hEffect : InputEffect F c.receiver c.wire s wire) :
    ∃ completed rest, Cut F { c with receiver := s, wire := wire } completed rest broken := by
  obtain ⟨hStream, hPending⟩ | ⟨frame, hFrame, hBegun, hStream, hPending⟩ := hEffect.stream
  · refine ⟨completed, rest, h.written, h.unread.trans hStream.symm, h.broken_lt, h.last, ?_⟩
    rw [hEffect.delivered]
    exact ((List.Sublist.refl _).append hPending).trans h.in_order
  · have hRest : ∀ f ∈ rest, f.length = F := fun f hf =>
      hLengths f (by rw [h.written]; exact List.mem_append_right _ hf)
    obtain ⟨rest', rfl, hUnread⟩ :=
      first_unread hRest h.broken_lt hFrame (h.unread.trans hStream.symm)
    refine ⟨completed ++ [frame], rest', ?_, ?_, h.broken_lt, h.last, ?_⟩
    · rw [h.written, List.append_assoc]
      rfl
    · rw [hBegun, hUnread]
      rfl
    · rw [hEffect.delivered, List.map_append]
      refine ((List.Sublist.refl _).append hPending).trans ?_
      rw [← List.append_assoc]
      exact h.in_order.append (List.Sublist.refl _)

theorem Cut.output {completed rest : List (List B)} {broken bytes : List B}
    {frames : List (List B)} {s : Output B} (h : Cut F c completed rest broken)
    (hPuts : Puts F c.sender s bytes frames) :
    ∃ rest broken, Cut F { c with
      sender := s, wire := c.wire ++ bytes, written := c.written ++ frames } completed rest broken := by
  have hNil (hNot : ¬ c.sender.Broken) : broken = [] := by
    by_contra hBroken
    exact hNot (h.last hBroken)
  cases hPuts with
  | nothing hKeep =>
    refine ⟨rest, broken, ?_, ?_, h.broken_lt, fun hBroken => hKeep (h.last hBroken), h.in_order⟩
    · exact (List.append_nil _).trans h.written
    · exact h.unread.trans (congrArg (_ ++ ·) (List.append_nil c.wire).symm)
  | frame hNot data hData =>
    have hUnread := h.unread
    rw [hNil hNot, List.append_nil] at hUnread
    refine ⟨rest ++ [bytes], [], ?_, ?_, Nat.zero_lt_of_lt h.broken_lt,
      fun hBroken => absurd rfl hBroken, h.in_order⟩
    · exact (congrArg (· ++ [bytes]) h.written).trans (List.append_assoc _ _ _)
    · rw [List.append_nil, List.flatten_append, List.flatten_singleton, hUnread, List.append_assoc]
  | part hNot hBroken data hData =>
    have hUnread := h.unread
    rw [hNil hNot, List.append_nil] at hUnread
    refine ⟨rest, bytes, (List.append_nil _).trans h.written, ?_, hData, fun _ => hBroken,
      h.in_order⟩
    rw [hUnread, List.append_assoc]

theorem Puts.lengths {s s' : Output B} {bytes : List B} {frames : List (List B)}
    (h : Puts F s s' bytes frames) : ∀ frame ∈ frames, frame.length = F := by
  cases h with
  | nothing => exact fun _ hFrame => absurd hFrame List.not_mem_nil
  | frame _ _ hData =>
    intro frame hFrame
    rw [List.mem_singleton.mp hFrame]
    exact hData
  | part => exact fun _ hFrame => absurd hFrame List.not_mem_nil

theorem Inv.step (h : Inv F c) {e : Step B} (hStep : step c e = some c') : Inv F c' := by
  obtain ⟨hSends, hLengths, hReceived, ⟨completed, rest, broken, hCut⟩, hCalling⟩ := h
  cases e with
  | client op =>
    obtain ⟨sender, hClient, rfl⟩ := Option.map_eq_some_iff.mp hStep
    obtain ⟨hSends', hStop, hThread⟩ := hSends.clientStep hClient
    have hKeep : c.sender.Broken → sender.Broken := by
      rw [Output.Broken, Output.Broken, hStop, hThread]
      exact id
    exact ⟨hSends', hLengths, hReceived,
      ⟨completed, rest, broken, { hCut with last := fun hBroken => hKeep (hCut.last hBroken) }⟩,
      hCalling⟩
  | output answer =>
    obtain ⟨⟨sender, bytes, frames⟩, hOutput, rfl⟩ := Option.map_eq_some_iff.mp hStep
    obtain ⟨hSends', hPuts⟩ := hSends.outputStep hOutput
    refine ⟨hSends', ?_, hReceived, ⟨completed, hCut.output hPuts⟩, hCalling⟩
    intro frame hFrame
    exact (List.mem_append.mp hFrame).elim (hLengths frame) (hPuts.lengths frame)
  | input answer =>
    obtain ⟨⟨receiver, wire⟩, hInput, rfl⟩ := Option.map_eq_some_iff.mp hStep
    have hEffect := hReceived.inputStep_effect hInput
    obtain ⟨completed', rest', hCut'⟩ := hCut.input hLengths hEffect
    refine ⟨hSends, hLengths, hReceived.inputStep hInput, ⟨completed', rest', broken, hCut'⟩, ?_⟩
    intro temp hTemp
    have hPc : c.receiver.callback = .dataCallback temp := hEffect.callback.symm.trans hTemp
    have hHeld : temp ∈ c.receiver.callback.held := by
      rw [hPc]
      exact List.mem_cons_self
    rw [hEffect.delivered, hEffect.unchanged temp (Or.inr hHeld)]
    exact hCalling temp hPc
  | callback answer =>
    obtain ⟨receiver, hCallback, rfl⟩ := Option.map_eq_some_iff.mp hStep
    have hEffect := callbackStep_effect hCallback
    refine ⟨hSends, hLengths, hReceived.callbackStep hCallback,
      ⟨completed, rest, broken, hCut.written, ?_, hCut.broken_lt, hCut.last, ?_⟩, hEffect.calling⟩
    · rw [hEffect.begun]
      exact hCut.unread
    · exact hEffect.pending.trans hCut.in_order
  | setIDataCallback callback =>
    cases hStep
    exact ⟨hSends, hLengths, { hReceived with }, ⟨completed, rest, broken, { hCut with }⟩, hCalling⟩
  | stopSender =>
    cases hStep
    exact ⟨{ hSends with }, hLengths, hReceived, ⟨completed, rest, broken,
      { hCut with last := fun hBroken => ⟨rfl, (hCut.last hBroken).2⟩ }⟩, hCalling⟩
  | closeSenderStream =>
    cases hStep
    exact ⟨{ hSends with }, hLengths, hReceived, ⟨completed, rest, broken,
      { hCut with last := fun hBroken => hCut.last hBroken }⟩, hCalling⟩
  | stopReceiver =>
    cases hStep
    exact ⟨hSends, hLengths, { hReceived with }, ⟨completed, rest, broken, { hCut with }⟩, hCalling⟩
  | closeReceiverStream =>
    cases hStep
    exact ⟨hSends, hLengths, { hReceived with }, ⟨completed, rest, broken, { hCut with }⟩, hCalling⟩

theorem Inv.unchanged (h : Inv F c) {e : Step B} (hStep : SocketExt.step c e = some c') {i : Nat}
    (hi : i ∈ c.receiver.mInputFrameBufferQueue.queue ∨ i ∈ c.receiver.callback.held) :
    c'.receiver.mInputFrameBufferQueue.content i =
      c.receiver.mInputFrameBufferQueue.content i := by
  cases e with
  | client op => obtain ⟨sender, -, rfl⟩ := Option.map_eq_some_iff.mp hStep; rfl
  | output answer => obtain ⟨sender, -, rfl⟩ := Option.map_eq_some_iff.mp hStep; rfl
  | input answer =>
    obtain ⟨⟨receiver, wire⟩, hInput, rfl⟩ := Option.map_eq_some_iff.mp hStep
    exact (h.received.inputStep_effect hInput).unchanged i hi
  | callback answer =>
    obtain ⟨receiver, hCallback, rfl⟩ := Option.map_eq_some_iff.mp hStep
    exact congrFun (callbackStep_effect hCallback).content i
  | setIDataCallback | stopSender | closeSenderStream | stopReceiver | closeReceiverStream =>
    cases hStep
    rfl

theorem Inv.delivers (h : Inv F c) : Delivers c := by
  obtain ⟨completed, rest, broken, hCut⟩ := h.cut
  refine ⟨?_, h.calling, fun e c' hStep i hi => h.unchanged hStep hi⟩
  have hDelivered : c.receiver.delivered.Sublist (completed.map some) :=
    (List.sublist_append_left _ _).trans hCut.in_order
  rw [hCut.written, List.map_append]
  exact hDelivered.trans (List.sublist_append_left _ _)

theorem received_start [Zero B] (hF : 0 < F) : Received F (Input.start F : Input B) where
  mFrameSize := rfl
  sized := sized_new hF
  tempbuffer := List.length_replicate
  temp_lt _ hi := nomatch hi
  index_lt := hF
  between _ := rfl
  resetting _ := by
    refine ⟨rfl, fun i hi => ?_⟩
    rw [Input.start, initFrameBuffer, FrameBufferQueue.new, List.length_replicate] at hi
    rw [Input.start, initFrameBuffer, FrameBufferQueue.new_isFree, decide_eq_true hi]
  claiming _ hi := InputPc.noConfusion hi
  owns := ⟨[], FrameBufferQueue.new_owned 5 F⟩

theorem inv_start [Zero B] (hF : 0 < F) : Inv F (Connection.start F : Connection B) where
  sends := ⟨rfl, sized_new hF⟩
  lengths _ hFrame := absurd hFrame List.not_mem_nil
  received := received_start hF
  cut := ⟨[], [], [], rfl, rfl, hF, fun hBroken => absurd rfl hBroken, List.Sublist.refl _⟩
  calling _ hTemp := CallbackPc.noConfusion hTemp

end Runs

theorem always_delivers [Zero B] (F : Nat) (hF : 0 < F) (steps : List (Step B)) :
    Transition.Always step Delivers (Connection.start F) steps := by
  apply Transition.always_of_invariant _ _ (inv_start hF)
  · intro c e c' hInv hStep
    exact hInv.step hStep
  · intro c hInv
    exact hInv.delivers

/-- One frame in two reads, up to the end of its callback. -/
theorem always_delivers_two_reads :
    Transition.Always step Delivers (Connection.start 2)
      (List.replicate 7 (Step.output .done) ++
        ([.client .generate, .client (.fill 0 [(1 : Int), 2]), .client (.offer 0)] :
          List (Step Int)) ++
        List.replicate 3 (Step.output .done) ++ List.replicate 10 (Step.input .done) ++
        ([.input (.count 1), .input .done, .input (.count 1), .input .done] : List (Step Int)) ++
        List.replicate 5 (Step.callback .done)) :=
  always_delivers 2 (by decide) _

end LocalCall.Socket.SocketExt
