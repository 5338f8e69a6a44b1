import LocalCall.Jni.CustomRtpSession

/-! # What the callback receives depends on

First the sizes that no call changes: they fix the number of bytes that a received packet is read
at. From them it follows for which payloads the samples delivered are those of the payload.
-/
namespace LocalCall.Jni
set_option autoImplicit false

variable {S K : Type} (codec : SpeexCodec S K)

section Sizes

/-- Both frame sizes are those of the narrowband mode, and the bit buffer holds that many chars. -/
structure CustomSpeex.Sized (c : CustomSpeex K) : Prop where
  enc : c.encFrameSize = nbFrameSize
  dec : c.decFrameSize = nbFrameSize
  buf : nbFrameSize ≤ c.dbits.bufSize

theorem CustomSpeex.sized_new (state : K) : (CustomSpeex.new state).Sized :=
  ⟨rfl, rfl, (by decide : nbFrameSize ≤ SpeexBits.maxCharsPerFrame)⟩

theorem SpeexBits.bufSize_le_readFrom (chars : Nat → UInt8) (len : Nat) (b : SpeexBits) :
    b.bufSize ≤ (b.readFrom chars len).bufSize := by
  rw [readFrom]
  dsimp only
  split <;> omega

theorem CustomSpeex.Sized.encode {c : CustomSpeex K} (h : c.Sized) (samples : List S)
    (size : Int) : (c.encode codec samples size).1.Sized := by
  rw [CustomSpeex.encode]
  split
  · exact h
  · dsimp only
    split
    · exact ⟨h.enc, h.dec, h.buf⟩
    · exact ⟨h.enc, h.dec, h.buf⟩

theorem CustomSpeex.Sized.decode {c : CustomSpeex K} (h : c.Sized) (chars : Nat → UInt8)
    (out : List S) (size : Int) : (c.decode codec chars out size).1.Sized := by
  rw [CustomSpeex.decode]
  split
  · exact h
  · exact ⟨h.enc, h.dec, h.buf.trans (SpeexBits.bufSize_le_readFrom _ _ _)⟩

def Rtp.Sized (r : Rtp K) : Prop := ∀ j ∈ r.mJavaRtp, j.mSpeexRtp.Sized

theorem Rtp.sized_some {j : JavaRtp K} (h : j.mSpeexRtp.Sized) : (⟨some j⟩ : Rtp K).Sized := by
  intro j' hj'
  cases hj'
  exact h

theorem Rtp.Sized.openRtp {r : Rtp K} (h : r.Sized) (port : Int) (outcome : CreateOutcome) :
    (r.openRtp port outcome).2.Sized := by
  rw [Rtp.openRtp]
  split
  · exact h
  · rename_i j hj
    have hCodec : j.mSpeexRtp.Sized := h j hj
    dsimp only
    split
    · exact h
    · -- each way out leaves the codec of the object alone
      repeat' split
      all_goals exact Rtp.sized_some hCodec

theorem Rtp.Sized.closeRtp {r : Rtp K} (h : r.Sized) : r.closeRtp.2.Sized := by
  rw [Rtp.closeRtp]
  split
  · exact h
  · rename_i j hj
    split
    · exact Rtp.sized_some (h j hj : j.mSpeexRtp.Sized)
    · exact h

theorem Rtp.Sized.addRtpDestinationIp {r : Rtp K} (h : r.Sized) (ip : Java.Text) :
    (r.addRtpDestinationIp ip).2.Sized := by
  rw [Rtp.addRtpDestinationIp]
  split
  · exact h
  · rename_i j hj
    split
    · exact h
    · exact Rtp.sized_some (h j hj : j.mSpeexRtp.Sized)

theorem Rtp.Sized.write {r : Rtp K} (h : r.Sized) (data : List S) :
    (r.write codec data).2.Sized := by
  rw [Rtp.write]
  split
  · exact h
  · rename_i j hj
    have hNext := (h j hj : j.mSpeexRtp.Sized).encode codec data j.mSpeexRtp.getFrameSize
    dsimp only
    split
    · exact h
    · split
      · exact Rtp.sized_some hNext
      · exact Rtp.sized_some hNext

theorem Rtp.Sized.native {r : Rtp K} (h : r.Sized) (call : NativeCall S) :
    (r.native codec call).Sized := by
  cases call with
  | openRtp port outcome => exact h.openRtp port outcome
  | closeRtp => exact h.closeRtp
  | addRtpDestinationIp ip => exact h.addRtpDestinationIp ip
  | write data => exact h.write codec data
  | packet payload after buffer11 =>
    intro j' hj'
    obtain ⟨j, hj, rfl⟩ := Option.map_eq_some_iff.mp hj'
    exact (h j hj).decode codec _ _ _

theorem Rtp.Sized.nativeRun {r : Rtp K} (h : r.Sized) (calls : List (NativeCall S)) :
    (r.nativeRun codec calls).Sized := by
  induction calls generalizing r with
  | nil => exact h
  | cons call calls ih => exact ih (h.native codec call)

theorem Rtp.sized_new (state : K) : (Rtp.new state).Sized :=
  Rtp.sized_some (CustomSpeex.sized_new state)

end Sizes

section Payload

theorem map_payloadData (payload : List UInt8) (after : Nat → UInt8) :
    (List.range payload.length).map (payloadData payload after) = payload := by
  refine List.ext_getElem (by simp) fun i hi hp => ?_
  simp [payloadData, hp]

/-- The bits handed to the library are those of the payload, the callback gets the samples exactly
when the decoder succeeded, and no byte behind the payload makes a difference to it. -/
def DeliversPayload (j : JavaRtp K) (payload : List UInt8) (after : Nat → UInt8)
    (buffer11 : List S) : Prop :=
  let chars := payloadData payload after
  let decoded := j.mSpeexRtp.decode codec chars buffer11 j.mSpeexRtp.getFrameSize
  let heard := j.processRTPPacket codec chars buffer11
  heard.1.mSpeexRtp.dbits.bits = bitsOfBytes payload ∧
    heard.2.2 = (if decoded.2.2 = 0 then
      some (decoded.2.1.take CustomSpeex.nbFrameSize, CustomSpeex.nbFrameSize) else none) ∧
    ∀ after', (j.processRTPPacket codec (payloadData payload after') buffer11).2.2 = heard.2.2

theorem decode_of_sized {c : CustomSpeex K} (h : c.Sized) (chars : Nat → UInt8) (out : List S) :
    let bits := bitsOfBytes ((List.range CustomSpeex.nbFrameSize).map chars)
    (c.decode codec chars out c.getFrameSize).1.dbits.bits = bits ∧
      (c.decode codec chars out c.getFrameSize).2 = (codec.decodeInt c.state bits out).2 := by
  have hGuard : ¬ ((c.getFrameSize : Int) ≤ 0 ∨ (c.getFrameSize : Int) ≠ c.encFrameSize) := by
    rw [CustomSpeex.getFrameSize, h.enc]
    decide
  have hRead : ((c.dbits.reset.readFrom chars c.decFrameSize).bits) =
      bitsOfBytes ((List.range CustomSpeex.nbFrameSize).map chars) := by
    have hMin : min CustomSpeex.nbFrameSize
        (if c.dbits.bufSize < CustomSpeex.nbFrameSize ∧ c.dbits.owner = true then
          CustomSpeex.nbFrameSize else c.dbits.bufSize) = CustomSpeex.nbFrameSize := by
      have hBuf := h.buf
      split <;> omega
    simp only [SpeexBits.readFrom, SpeexBits.reset, h.dec, hMin]
  rw [CustomSpeex.decode, if_neg hGuard]
  dsimp only
  rw [hRead]
  exact ⟨rfl, rfl⟩

/-- The number of bytes handed on is the frame size and the status is never looked at, so the
payload is delivered exactly when it is 160 bytes long and the decoder accepts it. -/
theorem deliversPayload_iff (state : K) (history : List (NativeCall S)) (j : JavaRtp K)
    (hj : ((Rtp.new state).nativeRun codec history).mJavaRtp = some j)
    (payload : List UInt8) (after : Nat → UInt8) (buffer11 : List S) :
    DeliversPayload codec j payload after buffer11 ↔
      payload.length = CustomSpeex.nbFrameSize ∧
        (codec.decodeInt j.mSpeexRtp.state (bitsOfBytes payload) buffer11).2.2 = 0 := by
  have hSized : j.mSpeexRtp.Sized := (Rtp.sized_new state).nativeRun codec history j hj
  obtain ⟨hBits, hDecoded⟩ := decode_of_sized codec hSized (payloadData payload after) buffer11
  have hFrame : ∀ chars, ((j.mSpeexRtp.decode codec chars buffer11
      j.mSpeexRtp.getFrameSize).1.getFrameSize) = CustomSpeex.nbFrameSize := fun chars =>
    (hSized.decode codec chars buffer11 _).enc
  have hHeard : ∀ chars, (j.processRTPPacket codec chars buffer11).2.2 =
      some ((j.mSpeexRtp.decode codec chars buffer11 j.mSpeexRtp.getFrameSize).2.1.take
        CustomSpeex.nbFrameSize, CustomSpeex.nbFrameSize) := by
    intro chars
    simp only [JavaRtp.processRTPPacket, JavaRtp.callJavaCallBack, hFrame]
  constructor
  · rintro ⟨hHanded, hCallback, _⟩
    have hLength : payload.length = CustomSpeex.nbFrameSize := by
      have hEq := congrArg List.length (hBits.symm.trans hHanded)
      simp only [length_bitsOfBytes, List.length_map, List.length_range] at hEq
      omega
    refine ⟨hLength, ?_⟩
    rw [hDecoded, ← hLength, map_payloadData, hHeard] at hCallback
    by_contra hStatus
    rw [if_neg hStatus] at hCallback
    cases hCallback
  · rintro ⟨hLength, hStatus⟩
    rw [← hLength, map_payloadData] at hBits hDecoded
    refine ⟨hBits, ?_, fun after' => ?_⟩
    · rw [hHeard, hDecoded, if_pos hStatus]
    · obtain ⟨_, hOther⟩ := decode_of_sized codec hSized (payloadData payload after') buffer11
      rw [← hLength, map_payloadData] at hOther
      rw [hHeard, hHeard, hOther, hDecoded]

theorem deliversPayload_full_frame :
    DeliversPayload (silentCodec Unit) (JavaRtp.new ()) (List.replicate 160 7) (fun _ => 0)
      (List.replicate 160 ()) :=
  (deliversPayload_iff (silentCodec Unit) () [] (JavaRtp.new ()) rfl (List.replicate 160 7)
    (fun _ => 0) (List.replicate 160 ())).mpr ⟨List.length_replicate, rfl⟩

theorem not_deliversPayload_short :
    ¬ DeliversPayload (silentCodec Unit) (JavaRtp.new ()) (List.replicate 38 7) (fun _ => 0)
      (List.replicate 160 ()) := by
  rintro ⟨hHanded, _, _⟩
  obtain ⟨hBits, _⟩ := decode_of_sized (silentCodec Unit) (CustomSpeex.sized_new ())
    (payloadData (List.replicate 38 7) fun _ => 0) (List.replicate 160 ())
  have hLength := congrArg List.length (hBits.symm.trans hHanded)
  simp only [length_bitsOfBytes, List.length_map, List.length_range, List.length_replicate,
    CustomSpeex.nbFrameSize] at hLength
  omega

end Payload
end LocalCall.Jni
