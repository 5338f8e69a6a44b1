import LocalCall.Jni.SpeexJni

/-! # What `encodeExt` makes of several frames

The loop over the samples counts in the variable of the loop over the frames, and leaves it at the
frame size. One frame is encoded as it should be; of several the first is, and nothing else, or
the call does not come back.
-/
namespace LocalCall.Jni
set_option autoImplicit false

variable {S F K : Type}

def Effect.isFrameCall : Effect S F → Bool
  | .preprocessRun _ | .encode _ => true
  | _ => false

def frameCalls (log : List (Effect S F)) : List (Effect S F) := log.filter Effect.isFrameCall

def frameCount (size : Int) (frameSize : Nat) : Nat := (size.toNat + frameSize - 1) / frameSize

def frame (lin : List S) (offset : Int) (frameSize k : Nat) : List S :=
  (lin.drop (offset.toNat + k * frameSize)).take frameSize

def frames (lin : List S) (offset size : Int) (frameSize : Nat) : List (List S) :=
  (List.range (frameCount size frameSize)).map (frame lin offset frameSize)

structure EncodedFrame (F K : Type) where
  vad : Int
  input : List F
  bits : List Bool
  state : K

namespace FloatCodec

def encodeFrame (codec : FloatCodec S F K) (frameSize : Nat) (state : K) (samples : List S) :
    EncodedFrame F K :=
  let (state, buffer, vad) := codec.preprocessRun state samples
  let input := (buffer.take frameSize).map codec.toFloat
  let (state, bits) := codec.encode state input
  { vad, input, bits, state }

def encodeFrames (codec : FloatCodec S F K) (frameSize : Nat) :
    K → List (List S) → List (Effect S F) × List Bool
  | _, [] => ([], [])
  | state, samples :: rest =>
    let first := codec.encodeFrame frameSize state samples
    let (calls, more) := codec.encodeFrames frameSize first.state rest
    (.preprocessRun samples :: .encode first.input :: calls, first.bits ++ more)

def AllSpeech (codec : FloatCodec S F K) (frameSize : Nat) : K → List (List S) → Prop
  | _, [] => True
  | state, samples :: rest =>
    let first := codec.encodeFrame frameSize state samples
    first.vad ≠ 0 ∧ codec.AllSpeech frameSize first.state rest

end FloatCodec

namespace SpeexJni

/-- The call comes back, has preprocessed and encoded every frame once and in order, and the bytes
that it returns hold all that was encoded. -/
def EncodesAll (codec : FloatCodec S F K) (stack lin : List S) (offset : Int)
    (encoded : List UInt8) (size : Int) (c : SpeexJni S F K) : Prop :=
  let all := codec.encodeFrames c.encFrameSize c.state (frames lin offset size c.encFrameSize)
  ∃ fuel c' encoded' ret,
    c.speexEncodeExt codec fuel stack lin offset encoded size = (c', encoded', some ret) ∧
      frameCalls c'.log = frameCalls c.log ++ all.1 ∧
      all.2 <+: bitsOfBytes (encoded'.take ret.toNat)

/-- There is one frame, and its encoding has room in the buffer and in the array. -/
def OneFrameFits (codec : FloatCodec S F K) (lin : List S) (offset : Int)
    (encoded : List UInt8) (size : Int) (c : SpeexJni S F K) : Prop :=
  let first := codec.encodeFrame c.encFrameSize c.state (frame lin offset c.encFrameSize 0)
  size ≤ c.encFrameSize ∧ first.bits.length ≤ 8 * c.encFrameSize ∧
    first.bits.length ≤ 8 * encoded.length

theorem copyInput_eq (toFloat : S → F) (buffer : List S) (left i : Nat) (input : List F) :
    copyInput toFloat buffer left i input =
      (i + left, input ++ ((buffer.drop i).take left).map toFloat) := by
  induction left generalizing i input with
  | zero => simp [copyInput]
  | succ left ih =>
    rw [copyInput, ih]
    refine Prod.ext (by dsimp only; omega) ?_
    dsimp only
    cases hAt : buffer[i]? with
    | none =>
      have hEnd : buffer.length ≤ i := List.getElem?_eq_none_iff.mp hAt
      rw [List.drop_of_length_le hEnd, List.drop_of_length_le (by omega)]
      simp
    | some sample =>
      obtain ⟨hLt, rfl⟩ := List.getElem?_eq_some_iff.mp hAt
      rw [List.drop_eq_getElem_cons hLt, List.take_succ_cons, List.map_cons,
        List.append_assoc]
      rfl

theorem frameCalls_append (log log' : List (Effect S F)) :
    frameCalls (log ++ log') = frameCalls log ++ frameCalls log' := List.filter_append _ _

/-- The loop after a turn on a frame that is judged speech: whichever frame it was, the variable
of the loop is left behind the frame size. -/
def EncodeLoop.next (codec : FloatCodec S F K) (samples : List S) (l : EncodeLoop S F K) :
    EncodeLoop S F K :=
  let e := codec.encodeFrame l.c.encFrameSize l.c.state samples
  { i := l.c.encFrameSize + 1
    buffer := (codec.preprocessRun l.c.state samples).2.1
    c := { l.c with
      state := e.state
      ebits := { l.c.ebits.reset with bits := e.bits }
      log := l.c.log ++ [.preprocessRun samples, .reset, .encode e.input] } }

section Turns

variable {codec : FloatCodec S F K} {lin : List S} {offset nsamples : Int}

theorem encodeTurn_speech {l : EncodeLoop S F K} {samples : List S}
    (hSamples : getShortArrayRegion lin (offset + l.i * l.c.encFrameSize) l.c.encFrameSize
      l.buffer = samples)
    (hSpeech : (codec.encodeFrame l.c.encFrameSize l.c.state samples).vad ≠ 0) :
    encodeTurn codec lin offset l = ((l.next codec samples).c, some (l.next codec samples)) := by
  unfold EncodeLoop.next
  unfold FloatCodec.encodeFrame at hSpeech ⊢
  unfold encodeTurn
  rw [hSamples]
  dsimp only at hSpeech ⊢
  rw [if_neg hSpeech, copyInput_eq, List.drop_zero]
  simp [record, SpeexBits.reset]

theorem encodeTurn_silent {l : EncodeLoop S F K} {c : SpeexJni S F K}
    (h : encodeTurn codec lin offset l = (c, none)) :
    ∃ samples, c.log = l.c.log ++ [.preprocessRun samples] := by
  unfold encodeTurn at h
  dsimp only at h
  split at h
  · cases h
    exact ⟨_, rfl⟩
  · cases h

theorem encodeTurn_next {l l' : EncodeLoop S F K} {c : SpeexJni S F K}
    (h : encodeTurn codec lin offset l = (c, some l')) :
    l'.i = l.c.encFrameSize + 1 ∧ l'.c.encFrameSize = l.c.encFrameSize := by
  unfold encodeTurn at h
  dsimp only at h
  rw [copyInput_eq] at h
  split at h
  · cases h
  · cases h
    exact ⟨by rw [Nat.zero_add]; rfl, rfl⟩

theorem encodeLoop_done {l : EncodeLoop S F K} (h : nsamples ≤ l.i) (fuel : Nat) :
    encodeLoop codec lin offset nsamples fuel l = (l.c, some true) := by
  unfold encodeLoop
  rw [if_neg (by omega)]

theorem encodeLoop_zero {l : EncodeLoop S F K} (h : l.i < nsamples) :
    encodeLoop codec lin offset nsamples 0 l = (l.c, none) := by
  unfold encodeLoop
  rw [if_pos h]

theorem encodeLoop_succ {l l' : EncodeLoop S F K} {c : SpeexJni S F K} (h : l.i < nsamples)
    (hTurn : encodeTurn codec lin offset l = (c, some l')) (fuel : Nat) :
    encodeLoop codec lin offset nsamples (fuel + 1) l =
      encodeLoop codec lin offset nsamples fuel l' := by
  rw [encodeLoop, if_pos h, hTurn]

/-- With more frames than that, every turn comes to the frame behind the frame size again: only
silence ends the loop. -/
theorem encodeLoop_stuck {fuel : Nat} {l : EncodeLoop S F K} {c : SpeexJni S F K} {ended : Bool}
    (hi : l.i = l.c.encFrameSize + 1) (hMore : l.i < nsamples)
    (h : encodeLoop codec lin offset nsamples fuel l = (c, some ended)) :
    ended = false ∧ ∃ log samples, c.log = log ++ [.preprocessRun samples] := by
  induction fuel generalizing l with
  | zero =>
    rw [encodeLoop, if_pos hMore] at h
    cases h
  | succ fuel ih =>
    rw [encodeLoop, if_pos hMore] at h
    cases hTurn : encodeTurn codec lin offset l with
    | mk c' next =>
      rw [hTurn] at h
      cases next with
      | none =>
        cases h
        exact ⟨rfl, _, encodeTurn_silent hTurn⟩
      | some l' =>
        obtain ⟨hNext, hFrame⟩ := encodeTurn_next hTurn
        have hi' : l'.i = l'.c.encFrameSize + 1 := by rw [hNext, hFrame]
        exact ih hi' (by omega) h

end Turns

section Spec

variable {codec : FloatCodec S F K} {frameSize : Nat}

theorem length_encodeFrames (state : K) (fs : List (List S)) :
    (codec.encodeFrames frameSize state fs).1.length = 2 * fs.length := by
  induction fs generalizing state with
  | nil => rfl
  | cons samples rest ih =>
    rw [FloatCodec.encodeFrames, List.length_cons, List.length_cons, ih, List.length_cons]
    omega

theorem encodeFrames_last (state : K) {fs : List (List S)} (h : fs ≠ []) :
    ∃ calls input, (codec.encodeFrames frameSize state fs).1 = calls ++ [.encode input] := by
  induction fs generalizing state with
  | nil => exact absurd rfl h
  | cons samples rest ih =>
    rw [FloatCodec.encodeFrames]
    cases rest with
    | nil => exact ⟨[_], _, rfl⟩
    | cons samples' rest =>
      obtain ⟨calls, input, hCalls⟩ := ih (codec.encodeFrame frameSize state samples).state
        (List.cons_ne_nil _ _)
      dsimp only
      rw [hCalls]
      exact ⟨_ :: _ :: calls, input, rfl⟩

theorem frameCount_eq {size : Int} (hSize : 0 < size) (hFrame : 0 < frameSize) :
    (frameCount size frameSize : Int) = (size - 1).tdiv frameSize + 1 := by
  obtain ⟨n, rfl⟩ : ∃ n : Nat, size = n + 1 := ⟨(size - 1).toNat, by omega⟩
  have hCount : frameCount (n + 1 : Int) frameSize = n / frameSize + 1 := by
    rw [frameCount, show (n + 1 : Int).toNat + frameSize - 1 = n + frameSize by omega,
      Nat.add_div_right n hFrame]
  rw [hCount, Int.add_sub_cancel]
  rfl

theorem frameCount_eq_one_iff {size : Int} (hSize : 0 < size) (hFrame : 0 < frameSize) :
    frameCount size frameSize = 1 ↔ size ≤ frameSize := by
  have hLess : frameCount size frameSize < 2 ↔ size.toNat + frameSize - 1 < 2 * frameSize :=
    Nat.div_lt_iff_lt_mul hFrame
  have hLeast : 1 ≤ frameCount size frameSize ↔ 1 * frameSize ≤ size.toNat + frameSize - 1 :=
    Nat.le_div_iff_mul_le hFrame
  omega

@[simp] theorem length_setArrayRegion {α : Type} (array new : List α) :
    (setArrayRegion array new).length = array.length := by
  unfold setArrayRegion
  split
  · rw [List.length_append, List.length_drop]
    omega
  · rfl

theorem prefix_returned_iff (ebits : SpeexBits) (frameSize : Nat) (encoded : List UInt8) :
    ebits.bits <+: bitsOfBytes ((setArrayRegion encoded (ebits.write frameSize)).take
        (ebits.write frameSize).length) ↔
      ebits.bits.length ≤ 8 * frameSize ∧ ebits.bits.length ≤ 8 * encoded.length := by
  have hOut := SpeexBits.length_write frameSize ebits
  constructor
  · intro h
    have hLength := h.length_le
    rw [length_bitsOfBytes, List.length_take, length_setArrayRegion] at hLength
    omega
  · rintro ⟨hFrame, hArray⟩
    rw [setArrayRegion, if_pos (by omega), List.take_left']
    · exact SpeexBits.prefix_write (by omega)
    · rfl

end Spec

section Call

variable {codec : FloatCodec S F K} {stack lin : List S} {offset size : Int}
  {encoded : List UInt8} {c d : SpeexJni S F K} {fuel : Nat}

theorem speexEncodeExt_of_loop {ended : Option Bool} (hOpen : 0 < c.codecOpen)
    (hLoop : encodeLoop codec lin offset ((size - 1).tdiv c.encFrameSize + 1) fuel
      ⟨0, stack, c.record [.divide]⟩ = (d, ended)) :
    c.speexEncodeExt codec fuel stack lin offset encoded size =
      match ended with
      | none => (d, encoded, none)
      | some false => (d.record [.returned 0], encoded, some 0)
      | some true =>
        let out := d.ebits.write d.encFrameSize
        (d.record [.write, .returned out.length], setArrayRegion encoded out,
          some out.length) := by
  have hGuard : ¬(c.record [.divide]).codecOpen = 0 := by
    change ¬c.codecOpen = 0
    omega
  have hLoop' : encodeLoop codec lin offset
      ((size - 1).tdiv (c.record [.divide]).encFrameSize + 1) fuel ⟨0, stack, c.record [.divide]⟩ =
      (d, ended) := hLoop
  unfold speexEncodeExt
  dsimp only
  rw [if_neg hGuard, hLoop']
  cases ended with
  | none => rfl
  | some ended => cases ended <;> rfl

theorem first_turn (hOffset : 0 ≤ offset) (hLin : offset + c.encFrameSize ≤ lin.length)
    (hSpeech : (codec.encodeFrame c.encFrameSize c.state
      (frame lin offset c.encFrameSize 0)).vad ≠ 0) (stack : List S) :
    let samples := frame lin offset c.encFrameSize 0
    let first := codec.encodeFrame c.encFrameSize c.state samples
    ∃ l : EncodeLoop S F K,
      encodeTurn codec lin offset ⟨0, stack, c.record [.divide]⟩ = (l.c, some l) ∧
        l.i = c.encFrameSize + 1 ∧ l.c.encFrameSize = c.encFrameSize ∧
        frameCalls l.c.log = frameCalls c.log ++ [.preprocessRun samples, .encode first.input] ∧
        l.c.ebits.bits = first.bits := by
  have hSamples : getShortArrayRegion lin (offset + (0 : Nat) * c.encFrameSize) c.encFrameSize
      stack = frame lin offset c.encFrameSize 0 := by
    rw [Int.ofNat_zero, Int.zero_mul, Int.add_zero, getShortArrayRegion, if_pos ⟨hOffset, hLin⟩,
      frame, Nat.zero_mul, Nat.add_zero]
  refine ⟨_, encodeTurn_speech hSamples hSpeech, rfl, rfl, ?_, rfl⟩
  change frameCalls ((c.log ++ [.divide]) ++ _) = _
  rw [frameCalls_append, frameCalls_append, List.append_assoc]
  rfl

/-- One frame: the first turn is the last, and the call returns what `write` made of it. -/
theorem encodesAll_iff_of_one (hOpen : 0 < c.codecOpen) (hFrame : 0 < c.encFrameSize)
    (hSize : 0 < size) (hOne : size ≤ c.encFrameSize) (hOffset : 0 ≤ offset)
    (hLin : offset + c.encFrameSize ≤ lin.length)
    (hSpeech : (codec.encodeFrame c.encFrameSize c.state
      (frame lin offset c.encFrameSize 0)).vad ≠ 0) :
    EncodesAll codec stack lin offset encoded size c ↔
      OneFrameFits codec lin offset encoded size c := by
  obtain ⟨l, hTurn, hi, hFrameSize, hCalls, hBits⟩ := first_turn hOffset hLin hSpeech stack
  have hCount : frameCount size c.encFrameSize = 1 := (frameCount_eq_one_iff hSize hFrame).mpr hOne
  have hSamples := frameCount_eq hSize hFrame
  rw [hCount] at hSamples
  have hFrames : frames lin offset size c.encFrameSize = [frame lin offset c.encFrameSize 0] := by
    rw [frames, hCount]
    rfl
  have hFirst : ((0 : Nat) : Int) < (size - 1).tdiv c.encFrameSize + 1 := by omega
  have hLoop (fuel : Nat) : encodeLoop codec lin offset ((size - 1).tdiv c.encFrameSize + 1)
      (fuel + 1) ⟨0, stack, c.record [.divide]⟩ = (l.c, some true) := by
    rw [encodeLoop_succ hFirst hTurn, encodeLoop_done (by omega)]
  have hReturned := prefix_returned_iff l.c.ebits l.c.encFrameSize encoded
  rw [hFrameSize, hBits] at hReturned
  unfold EncodesAll OneFrameFits
  rw [hFrames, FloatCodec.encodeFrames, FloatCodec.encodeFrames]
  dsimp only
  rw [List.append_nil, and_iff_right hOne, ← hReturned]
  constructor
  · rintro ⟨fuel, c', encoded', ret, hCall, -, hPrefix⟩
    cases fuel with
    | zero =>
      rw [speexEncodeExt_of_loop hOpen (encodeLoop_zero hFirst)] at hCall
      cases hCall
    | succ fuel =>
      rw [speexEncodeExt_of_loop hOpen (hLoop fuel)] at hCall
      cases hCall
      rw [hFrameSize] at hPrefix
      exact hPrefix
  · intro hPrefix
    refine ⟨1, _, _, _, speexEncodeExt_of_loop hOpen (hLoop 0), ?_, ?_⟩
    · rw [← hCalls]
      exact (frameCalls_append _ _).trans (List.append_nil _)
    · rw [hFrameSize]
      exact hPrefix

/-- A call that returns, whatever the number of frames, has made the two calls for the first frame
and no others, or the preprocessor's was its last. -/
theorem frameCalls_of_returned {c' : SpeexJni S F K} {encoded' : List UInt8} {ret : Int}
    (hOpen : 0 < c.codecOpen) (hFrame : 0 < c.encFrameSize) (hSize : 0 < size)
    (hOffset : 0 ≤ offset) (hLin : offset + c.encFrameSize ≤ lin.length)
    (hSpeech : (codec.encodeFrame c.encFrameSize c.state
      (frame lin offset c.encFrameSize 0)).vad ≠ 0)
    (hCall : c.speexEncodeExt codec fuel stack lin offset encoded size =
      (c', encoded', some ret)) :
    (∃ samples input,
      frameCalls c'.log = frameCalls c.log ++ [.preprocessRun samples, .encode input]) ∨
      ∃ calls samples, frameCalls c'.log = calls ++ [.preprocessRun samples] := by
  obtain ⟨l, hTurn, hi, hFrameSize, hCalls, -⟩ := first_turn hOffset hLin hSpeech stack
  have hFirst : ((0 : Nat) : Int) < (size - 1).tdiv c.encFrameSize + 1 := by
    have hQuot : 0 ≤ (size - 1).tdiv c.encFrameSize := Int.tdiv_nonneg (by omega) (by omega)
    omega
  cases fuel with
  | zero =>
    rw [speexEncodeExt_of_loop hOpen (encodeLoop_zero hFirst)] at hCall
    cases hCall
  | succ fuel =>
    cases hRest : encodeLoop codec lin offset ((size - 1).tdiv c.encFrameSize + 1) fuel l with
    | mk d ended =>
      have hLoop := (encodeLoop_succ hFirst hTurn fuel).trans hRest
      rw [speexEncodeExt_of_loop hOpen hLoop] at hCall
      by_cases hDone : (size - 1).tdiv c.encFrameSize + 1 ≤ l.i
      · rw [encodeLoop_done hDone] at hRest
        cases hRest
        cases hCall
        refine .inl ⟨_, _, Eq.trans ?_ hCalls⟩
        exact (frameCalls_append _ _).trans (List.append_nil _)
      · cases ended with
        | none => cases hCall
        | some ended =>
          obtain ⟨rfl, log, samples, hSilent⟩ :=
            encodeLoop_stuck (by rw [hi, hFrameSize]) (by omega) hRest
          cases hCall
          refine .inr ⟨frameCalls log, samples, ?_⟩
          change frameCalls (d.log ++ [.returned 0]) = _
          rw [hSilent, frameCalls_append, frameCalls_append]
          exact List.append_nil _

/-- Several frames should come to more than two calls, the last of them the encoder's. -/
theorem not_encodesAll_of_more (hOpen : 0 < c.codecOpen) (hFrame : 0 < c.encFrameSize)
    (hSize : 0 < size) (hMore : c.encFrameSize < size) (hOffset : 0 ≤ offset)
    (hLin : offset + c.encFrameSize ≤ lin.length)
    (hSpeech : (codec.encodeFrame c.encFrameSize c.state
      (frame lin offset c.encFrameSize 0)).vad ≠ 0) :
    ¬EncodesAll codec stack lin offset encoded size c := by
  have hNotOne := mt (frameCount_eq_one_iff hSize hFrame).mp (by omega)
  have hPos : 0 < frameCount size c.encFrameSize := Nat.div_pos (by omega) hFrame
  have hLength : (frames lin offset size c.encFrameSize).length =
      frameCount size c.encFrameSize := by
    rw [frames, List.length_map, List.length_range]
  rintro ⟨fuel, c', encoded', ret, hCall, hLog, -⟩
  obtain ⟨samples, input, hTwo⟩ | ⟨calls, samples, hSilent⟩ :=
    frameCalls_of_returned hOpen hFrame hSize hOffset hLin hSpeech hCall
  · rw [hTwo] at hLog
    have hLengths := congrArg List.length (List.append_cancel_left hLog)
    rw [length_encodeFrames, hLength] at hLengths
    exact hNotOne (Nat.eq_of_mul_eq_mul_left (by decide) hLengths.symm)
  · have hNonempty : frames lin offset size c.encFrameSize ≠ [] := by
      intro hNil
      rw [hNil, List.length_nil] at hLength
      omega
    obtain ⟨calls', input, hLast⟩ := encodeFrames_last c.state hNonempty
    rw [hSilent, hLast] at hLog
    have hEnds := congrArg List.getLast? hLog
    simp at hEnds

/-- On an open codec, with every frame judged speech, the call encodes all frames exactly when
there is one, and its encoding has room. -/
theorem encodesAll_iff (codec : FloatCodec S F K) (stack lin : List S) (offset size : Int)
    (encoded : List UInt8) (c : SpeexJni S F K) (hOpen : 0 < c.codecOpen)
    (hFrame : 0 < c.encFrameSize) (hSize : 0 < size) (hOffset : 0 ≤ offset)
    (hLin : offset + frameCount size c.encFrameSize * c.encFrameSize ≤ lin.length)
    (hSpeech : codec.AllSpeech c.encFrameSize c.state
      (frames lin offset size c.encFrameSize)) :
    EncodesAll codec stack lin offset encoded size c ↔
      OneFrameFits codec lin offset encoded size c := by
  have hPos : 0 < frameCount size c.encFrameSize := Nat.div_pos (by omega) hFrame
  have hLinFirst : offset + c.encFrameSize ≤ lin.length := by
    have hLeast : c.encFrameSize ≤ frameCount size c.encFrameSize * c.encFrameSize :=
      Nat.le_mul_of_pos_left _ hPos
    omega
  have hSpeechFirst : (codec.encodeFrame c.encFrameSize c.state
      (frame lin offset c.encFrameSize 0)).vad ≠ 0 := by
    obtain ⟨n, hn⟩ := Nat.exists_eq_add_of_lt hPos
    rw [frames, hn, Nat.zero_add, List.range_succ_eq_map, List.map_cons] at hSpeech
    exact hSpeech.1
  by_cases hOne : size ≤ c.encFrameSize
  · exact encodesAll_iff_of_one hOpen hFrame hSize hOne hOffset hLinFirst hSpeechFirst
  · have hNot : ¬EncodesAll codec stack lin offset encoded size c :=
      not_encodesAll_of_more hOpen hFrame hSize (by omega) hOffset hLinFirst hSpeechFirst
    exact iff_of_false hNot fun hFits => hOne hFits.1

end Call

def signCodec : FloatCodec Int Int Unit where
  preprocessRun := fun state samples => (state, samples, 1)
  encodeInt := fun state samples bits => (state, bits ++ samples.map fun s => decide (0 < s))
  decodeInt := fun state _ output => (state, output, 0)
  encode := fun state input => (state, input.map fun s => decide (0 < s))
  decode := fun state _ output => (state, output, 0)
  init := fun _ => ()
  toFloat := id
  toShort := id

theorem allSpeech_signCodec (frameSize : Nat) (state : Unit) (fs : List (List Int)) :
    signCodec.AllSpeech frameSize state fs := by
  induction fs generalizing state with
  | nil => trivial
  | cons samples rest ih => exact ⟨Int.one_ne_zero, ih _⟩

theorem encodesAll_one_frame :
    EncodesAll signCodec [] (List.replicate 160 1) 0 (List.replicate 160 0) 160
      ((loaded ()).speexOpen signCodec 8).1 := by
  refine (encodesAll_iff signCodec [] (List.replicate 160 1) 0 160 (List.replicate 160 0)
    ((loaded ()).speexOpen signCodec 8).1 (by decide) (by decide) (by decide) (by decide)
    (by decide +kernel) (allSpeech_signCodec _ _ _)).mpr ?_
  exact ⟨by decide, by decide +kernel, by decide +kernel⟩

/-- Two frames: the second is not encoded. -/
theorem not_encodesAll :
    ¬∀ (codec : FloatCodec Int Int Unit) (stack lin : List Int) (offset size : Int)
      (encoded : List UInt8) (c : SpeexJni Int Int Unit), 0 < c.codecOpen →
      0 < c.encFrameSize → 0 < size → 0 ≤ offset →
      offset + frameCount size c.encFrameSize * c.encFrameSize ≤ lin.length →
      codec.AllSpeech c.encFrameSize c.state (frames lin offset size c.encFrameSize) →
      EncodesAll codec stack lin offset encoded size c := by
  intro h
  let c : SpeexJni Int Int Unit := ((loaded ()).speexOpen signCodec 8).1
  have hAll : EncodesAll signCodec [] (List.replicate 320 1) 0 (List.replicate 160 0) 320 c :=
    h signCodec [] _ 0 320 _ c (by decide) (by decide) (by decide) (by decide)
      (by decide +kernel) (allSpeech_signCodec _ _ _)
  exact not_encodesAll_of_more (by decide) (by decide) (by decide) (by decide) (by decide)
    (by decide +kernel) (by decide) hAll

end SpeexJni

end LocalCall.Jni
