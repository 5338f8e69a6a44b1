import LocalCall.Library.Blocks
import LocalCall.Library.Transition
import LocalCall.Utils.AudioSync

/-! # The recorder with a thread of its own

A read asks for what the buffer still has room for, and the callback gets the buffer once it is
full. The buffer is the same one each time, so what was delivered is what it held at the call.
-/
namespace LocalCall.Utils
open Transition Blocks
set_option autoImplicit false

variable {S : Type}

structure AudioRecorder (S : Type) where
  readBuffer : List S
  index : Nat
  delivered : List (List S)
  deriving DecidableEq

namespace AudioRecorder

def start [Zero S] : AudioRecorder S := ⟨List.replicate frameSizeAudio 0, 0, []⟩

/-- A turn of the loop; the read returns at most what it was asked for, and nothing for an error
code. -/
def turn (r : AudioRecorder S) (captured : List S) : Option (AudioRecorder S) :=
  if captured.length ≤ frameSizeAudio - r.index then
    let readBuffer :=
      r.readBuffer.take r.index ++ captured ++ r.readBuffer.drop (r.index + captured.length)
    let index := r.index + captured.length
    if index = frameSizeAudio then
      some { readBuffer, index := 0, delivered := r.delivered ++ [readBuffer] }
    else some { r with readBuffer, index }
  else none

/-- The samples so far are those delivered and those in the buffer below the index. -/
structure Holds (stream : List S) (r : AudioRecorder S) : Prop where
  size : r.readBuffer.length = frameSizeAudio
  index_lt : r.index < frameSizeAudio
  delivered : ∀ frame ∈ r.delivered, frame.length = frameSizeAudio
  stream : stream = r.delivered.flatten ++ r.readBuffer.take r.index

theorem frameSizeAudio_pos : 0 < frameSizeAudio := by decide

theorem holds_start [Zero S] : Holds [] (start : AudioRecorder S) where
  size := List.length_replicate
  index_lt := frameSizeAudio_pos
  delivered := nofun
  stream := rfl

theorem Holds.turn {stream captured : List S} {r r' : AudioRecorder S} (h : Holds stream r)
    (hTurn : r.turn captured = some r') : Holds (stream ++ captured) r' := by
  obtain ⟨hFits, hNext⟩ := Option.ite_none_right_eq_some.mp hTurn
  have hSize := h.size
  have hIndex := h.index_lt
  have hFront : (r.readBuffer.take r.index).length = r.index := by
    rw [List.length_take]
    omega
  have hLength : (r.readBuffer.take r.index ++ captured ++
      r.readBuffer.drop (r.index + captured.length)).length = frameSizeAudio := by
    simp only [List.length_append, hFront, List.length_drop]
    omega
  dsimp only at hNext
  split at hNext
  · rename_i hFull
    cases hNext
    have hNothing : r.readBuffer.drop (r.index + captured.length) = [] :=
      List.drop_eq_nil_of_le (by omega)
    constructor
    · exact hLength
    · exact frameSizeAudio_pos
    · intro frame hFrame
      rcases List.mem_append.mp hFrame with hOld | hNew
      · exact h.delivered frame hOld
      · rw [List.mem_singleton.mp hNew]
        exact hLength
    · rw [h.stream, hNothing]
      simp
  · rename_i hOpen
    cases hNext
    constructor
    · exact hLength
    · dsimp only
      omega
    · exact h.delivered
    · have hTake : (r.readBuffer.take r.index ++ captured).length = r.index + captured.length := by
        rw [List.length_append, hFront]
      dsimp only
      rw [h.stream, ← hTake, List.take_left, List.append_assoc]

theorem Holds.run {stream : List S} {reads : List (List S)} {r r' : AudioRecorder S}
    (h : Holds stream r) (hRun : Transition.run AudioRecorder.turn r reads = some r') :
    Holds (stream ++ reads.flatten) r' := by
  induction reads generalizing stream r with
  | nil =>
    cases hRun
    rw [List.flatten_nil, List.append_nil]
    exact h
  | cons captured reads ih =>
    obtain ⟨mid, hTurn, hRun⟩ := Option.bind_eq_some_iff.mp hRun
    rw [List.flatten_cons, ← List.append_assoc]
    exact ih (h.turn hTurn) hRun

theorem delivered_eq_blocks [Zero S] {reads : List (List S)} {r : AudioRecorder S}
    (hRun : Transition.run AudioRecorder.turn start reads = some r) :
    r.delivered = blocks frameSizeAudio reads.flatten := by
  have h := holds_start.run hRun
  have hRest : (r.readBuffer.take r.index).length < frameSizeAudio := by
    have hIndex := h.index_lt
    rw [List.length_take]
    omega
  rw [List.nil_append] at h
  rw [h.stream, blocks_flatten_append frameSizeAudio_pos h.delivered hRest]

end AudioRecorder
end LocalCall.Utils
