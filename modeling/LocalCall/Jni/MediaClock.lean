import Mathlib.Algebra.Ring.Nat
import LocalCall.Jni.Rtp

/-! # The media clock of the packets sent

A frame that is sent and a frame that is suppressed go through different calls of the session. The
first section says what one write does to the timestamp, the second follows a run of writes, and
the last compares the timestamps with the number of frames written.
-/
namespace LocalCall.Jni
open Java
set_option autoImplicit false

variable {S K : Type}

def openedRtp (state : K) (port : Int) (ssrc timestamp : BitVec 32) (seqnr : BitVec 16) : Rtp K :=
  ((Rtp.new state).openRtp port (.created ssrc timestamp seqnr)).2

def heard (codec : SpeexCodec S K) (state : K) (frame : List S) : K × Bool :=
  let (state, samples, vad) := codec.preprocessRun state frame
  if vad = 0 then (state, false) else ((codec.encodeInt state samples []).1, true)

def voiceActivity (codec : SpeexCodec S K) : K → List (List S) → List Bool
  | _, [] => []
  | state, frame :: frames =>
    (heard codec state frame).2 :: voiceActivity codec (heard codec state frame).1 frames

def stateAfter (codec : SpeexCodec S K) (state : K) (frames : List (List S)) : K :=
  frames.foldl (fun state frame => (heard codec state frame).1) state

def writeAll (codec : SpeexCodec S K) (frames : List (List S)) (r : Rtp K) : Rtp K :=
  frames.foldl (fun r frame => (r.write codec frame).2) r

def sentPackets (r : Rtp K) : List SentPacket :=
  match r.mJavaRtp with
  | none => []
  | some j => j.mMyRTPSession.sent

def packetsOf (codec : SpeexCodec S K) (r : Rtp K) (frame : List S) : List SentPacket :=
  (sentPackets (r.write codec frame).2).drop (sentPackets r).length

/-- Each packet carries the initial timestamp plus 160 ticks for each frame written before. -/
def MediaClock (codec : SpeexCodec S K) (r : Rtp K) (start : BitVec 32)
    (frames : List (List S)) : Prop :=
  ∀ before frame after, frames = before ++ frame :: after →
    ∀ p ∈ packetsOf codec (writeAll codec before r) frame,
      p.packet.timestamp = start + BitVec.ofNat 32 (160 * before.length)

section OneWrite
variable (codec : SpeexCodec S K)

theorem encode_silent (c : CustomSpeex K) (frame : List S) (hSize : 0 < c.encFrameSize)
    (hSilent : (heard codec c.state frame).2 = false) :
    c.encode codec frame c.encFrameSize =
      ({ c with state := (heard codec c.state frame).1 }, [], -1) := by
  have hGuard : ¬ ((c.encFrameSize : Int) ≤ 0 ∨ (c.encFrameSize : Int) ≠ c.encFrameSize) := by omega
  have hVad : (codec.preprocessRun c.state frame).2.2 = 0 := by
    by_contra hSpeech
    simp [heard, hSpeech] at hSilent
  rw [CustomSpeex.encode, if_neg hGuard, heard]
  simp only [hVad, if_true]

theorem encode_speech (c : CustomSpeex K) (frame : List S) (hSize : 0 < c.encFrameSize)
    (hSpeech : (heard codec c.state frame).2 = true) :
    ∃ ebits out, c.encode codec frame c.encFrameSize =
        ({ c with state := (heard codec c.state frame).1, ebits }, out, (out.length : Int)) ∧
      out.length ≤ c.encFrameSize := by
  have hGuard : ¬ ((c.encFrameSize : Int) ≤ 0 ∨ (c.encFrameSize : Int) ≠ c.encFrameSize) := by omega
  have hVad : (codec.preprocessRun c.state frame).2.2 ≠ 0 := by
    intro hVad
    simp [heard, hVad] at hSpeech
  rw [CustomSpeex.encode, if_neg hGuard, heard]
  simp only [hVad, if_false]
  exact ⟨_, _, rfl, SpeexBits.length_write_le _ _⟩

theorem buildPacket_ok (b : RTPPacketBuilder) (data : List UInt8) (inc : BitVec 32)
    (hMax : b.maxpacksize = RTPSession.defaultPacketSize)
    (hData : data.length ≤ CustomSpeex.nbFrameSize) :
    b.buildPacket data Rtp.payloadType false inc =
      .ok (⟨Rtp.payloadType, data, b.seqnr, b.timestamp, b.ssrc, false⟩,
        { b with timestamp := b.timestamp + inc, seqnr := b.seqnr + 1 }) := by
  have hPt : ¬ 127 < Rtp.payloadType := by decide
  have hRtcp : ¬ (Rtp.payloadType = 72 ∨ Rtp.payloadType = 73) := by decide
  have hFits : ¬ (0 < b.maxpacksize ∧
      b.maxpacksize < RTPPacketBuilder.headerSize + data.length) := by
    rw [hMax]
    simp only [RTPSession.defaultPacketSize, RTPPacketBuilder.headerSize,
      CustomSpeex.nbFrameSize] at hData ⊢
    omega
  rw [RTPPacketBuilder.buildPacket, if_neg hPt, if_neg hRtcp, if_neg hFits]

/-- A session as `openRtp` leaves it, with the timestamp, codec state and packets of the moment. -/
def Ready (r : Rtp K) (timestamp : BitVec 32) (state : K) (sent : List SentPacket) : Prop :=
  ∃ j, r.mJavaRtp = some j ∧ j.mSpeexRtp.encFrameSize = CustomSpeex.nbFrameSize ∧
    j.mSpeexRtp.state = state ∧ j.mMyRTPSession.created = true ∧
    j.mMyRTPSession.packetbuilder.maxpacksize = RTPSession.defaultPacketSize ∧
    j.mMyRTPSession.packetbuilder.defaulttimestampinc = some 160 ∧
    j.mMyRTPSession.packetbuilder.timestamp = timestamp ∧ j.mMyRTPSession.sent = sent

theorem ready_openedRtp (state : K) (port : Int) (ssrc timestamp : BitVec 32)
    (seqnr : BitVec 16) : Ready (openedRtp state port ssrc timestamp seqnr) timestamp state [] :=
  ⟨_, rfl, rfl, rfl, rfl, rfl, rfl, rfl, rfl⟩

variable {r : Rtp K} {timestamp : BitVec 32} {state : K} {sent : List SentPacket}

theorem Ready.sentPackets_eq (h : Ready r timestamp state sent) : sentPackets r = sent := by
  obtain ⟨j, hj, _, _, _, _, _, _, hSent⟩ := h
  rw [sentPackets, hj]
  exact hSent

theorem Ready.write_silent (h : Ready r timestamp state sent) {frame : List S}
    (hLength : frame.length = CustomSpeex.nbFrameSize)
    (hSilent : (heard codec state frame).2 = false) :
    Ready (r.write codec frame).2 (timestamp + 160) (heard codec state frame).1 sent := by
  obtain ⟨j, hj, hSize, rfl, hCreated, hMax, hInc, rfl, rfl⟩ := h
  have hFrame : ¬ frame.length ≠ j.mSpeexRtp.getFrameSize := by
    rw [CustomSpeex.getFrameSize, hSize, not_not]
    exact hLength
  have hEncode := encode_silent codec j.mSpeexRtp frame (by rw [hSize]; decide) hSilent
  have hWrite : (r.write codec frame).2 = ⟨some { j with
      mSpeexRtp := { j.mSpeexRtp with state := (heard codec j.mSpeexRtp.state frame).1 }
      mMyRTPSession := j.mMyRTPSession.checked j.mMyRTPSession.incrementTimestampDefault }⟩ := by
    rw [Rtp.write, hj]
    simp only [hFrame, if_false]
    rw [CustomSpeex.getFrameSize, hEncode]
    rfl
  rw [hWrite, RTPSession.checked_incrementTimestampDefault _ 160 hCreated hInc]
  exact ⟨_, rfl, hSize, rfl, hCreated, hMax, hInc, rfl, rfl⟩

theorem Ready.write_speech (h : Ready r timestamp state sent) {frame : List S}
    (hLength : frame.length = CustomSpeex.nbFrameSize)
    (hSpeech : (heard codec state frame).2 = true) :
    ∃ p : SentPacket, p.packet.timestamp = timestamp ∧
      Ready (r.write codec frame).2 (timestamp + 8000) (heard codec state frame).1
        (sent ++ [p]) := by
  obtain ⟨j, hj, hSize, rfl, hCreated, hMax, hInc, rfl, rfl⟩ := h
  have hFrame : ¬ frame.length ≠ j.mSpeexRtp.getFrameSize := by
    rw [CustomSpeex.getFrameSize, hSize, not_not]
    exact hLength
  obtain ⟨ebits, out, hEncode, hOut⟩ :=
    encode_speech codec j.mSpeexRtp frame (by rw [hSize]; decide) hSpeech
  have hSent : ¬ ((out.length : Int) = -1) := by omega
  have hBuild := buildPacket_ok j.mMyRTPSession.packetbuilder (out.take out.length) 8000 hMax
    (by rw [List.take_length]; exact hSize ▸ hOut)
  have hWrite : (r.write codec frame).2 = ⟨some { j with
      mSpeexRtp := { j.mSpeexRtp with state := (heard codec j.mSpeexRtp.state frame).1, ebits }
      mMyRTPSession := j.mMyRTPSession.checked (j.mMyRTPSession.sendPacket
        (out.take out.length) Rtp.payloadType false 8000) }⟩ := by
    rw [Rtp.write, hj]
    simp only [hFrame, if_false]
    rw [CustomSpeex.getFrameSize, hEncode]
    simp only [hSent, if_false, Int.toNat_natCast]
  rw [hWrite, RTPSession.checked_sendPacket _ _ _ _ _ hCreated hBuild]
  exact ⟨⟨_, j.mMyRTPSession.destinations⟩, rfl, _, rfl, hSize, rfl, hCreated, hMax, hInc, rfl, rfl⟩

theorem Ready.packetsOf_silent (h : Ready r timestamp state sent) {frame : List S}
    (hLength : frame.length = CustomSpeex.nbFrameSize)
    (hSilent : (heard codec state frame).2 = false) : packetsOf codec r frame = [] := by
  rw [packetsOf, (h.write_silent codec hLength hSilent).sentPackets_eq, h.sentPackets_eq,
    List.drop_length]

theorem Ready.packetsOf_speech (h : Ready r timestamp state sent) {frame : List S}
    (hLength : frame.length = CustomSpeex.nbFrameSize)
    (hSpeech : (heard codec state frame).2 = true) :
    ∃ p : SentPacket, p.packet.timestamp = timestamp ∧ packetsOf codec r frame = [p] := by
  obtain ⟨p, hStamp, hNext⟩ := h.write_speech codec hLength hSpeech
  refine ⟨p, hStamp, ?_⟩
  rw [packetsOf, hNext.sentPackets_eq, h.sentPackets_eq, List.drop_left]

end OneWrite

section Run
variable (codec : SpeexCodec S K)

def ticks (activity : List Bool) : Nat :=
  (activity.map fun speech => if speech then 8000 else 160).sum

theorem ticks_eq (activity : List Bool) :
    ticks activity = 160 * activity.length + 7840 * activity.count true := by
  induction activity with
  | nil => rfl
  | cons speech activity ih =>
    have hCons : ticks (speech :: activity) = (if speech then 8000 else 160) + ticks activity := rfl
    cases speech with
    | false =>
      rw [hCons, ih, List.length_cons, List.count_cons_of_ne (by decide), if_neg (by decide)]
      omega
    | true =>
      rw [hCons, ih, List.length_cons, List.count_cons_self, if_pos rfl]
      omega

theorem voiceActivity_append (state : K) (before after : List (List S)) :
    voiceActivity codec state (before ++ after) =
      voiceActivity codec state before ++
        voiceActivity codec (stateAfter codec state before) after := by
  induction before generalizing state with
  | nil => rfl
  | cons frame before ih =>
    rw [List.cons_append, voiceActivity, voiceActivity, ih, List.cons_append]
    rfl

@[simp] theorem length_voiceActivity (state : K) (frames : List (List S)) :
    (voiceActivity codec state frames).length = frames.length := by
  induction frames generalizing state with
  | nil => rfl
  | cons frame frames ih => rw [voiceActivity, List.length_cons, ih, List.length_cons]

theorem exists_speech_frame (state : K) (frames : List (List S)) (n : Nat)
    (hMany : n < (voiceActivity codec state frames).count true) :
    ∃ before frame after, frames = before ++ frame :: after ∧
      (heard codec (stateAfter codec state before) frame).2 = true ∧
      (voiceActivity codec state before).count true = n := by
  induction frames generalizing state n with
  | nil => exact absurd hMany (Nat.not_lt_zero n)
  | cons first frames ih =>
    rw [voiceActivity] at hMany
    cases hFirst : (heard codec state first).2 with
    | false =>
      rw [hFirst, List.count_cons_of_ne (by decide)] at hMany
      obtain ⟨before, frame, after, rfl, hSpeech, hCount⟩ := ih _ n hMany
      refine ⟨first :: before, frame, after, rfl, hSpeech, ?_⟩
      rw [voiceActivity, hFirst, List.count_cons_of_ne (by decide)]
      exact hCount
    | true =>
      cases n with
      | zero => exact ⟨[], first, frames, rfl, hFirst, rfl⟩
      | succ n =>
        rw [hFirst, List.count_cons_self] at hMany
        obtain ⟨before, frame, after, rfl, hSpeech, hCount⟩ := ih _ n (Nat.lt_of_succ_lt_succ hMany)
        refine ⟨first :: before, frame, after, rfl, hSpeech, ?_⟩
        rw [voiceActivity, hFirst, List.count_cons_self]
        exact congrArg (· + 1) hCount

theorem Ready.writeAll {r : Rtp K} {timestamp : BitVec 32} {state : K} {sent : List SentPacket}
    (h : Ready r timestamp state sent) {frames : List (List S)}
    (hLength : ∀ frame ∈ frames, frame.length = CustomSpeex.nbFrameSize) :
    ∃ sent', Ready (writeAll codec frames r)
      (timestamp + BitVec.ofNat 32 (ticks (voiceActivity codec state frames)))
      (stateAfter codec state frames) sent' := by
  induction frames generalizing r timestamp state sent with
  | nil => exact ⟨sent, by simpa [Jni.writeAll, voiceActivity, ticks, stateAfter] using h⟩
  | cons frame frames ih =>
    have hFrame := hLength frame List.mem_cons_self
    have hRest := fun f hf => hLength f (List.mem_cons_of_mem frame hf)
    have hTicks : ticks (voiceActivity codec state (frame :: frames)) =
        (if (heard codec state frame).2 then 8000 else 160) +
          ticks (voiceActivity codec (heard codec state frame).1 frames) := rfl
    rw [hTicks, BitVec.ofNat_add, ← BitVec.add_assoc]
    cases hHeard : (heard codec state frame).2 with
    | false => exact ih (h.write_silent codec hFrame hHeard) hRest
    | true =>
      obtain ⟨p, _, hNext⟩ := h.write_speech codec hFrame hHeard
      exact ih hNext hRest

theorem Ready.mediaClock_iff {r : Rtp K} {timestamp : BitVec 32} {state : K}
    {sent : List SentPacket} (h : Ready r timestamp state sent) {frames : List (List S)}
    (hLength : ∀ frame ∈ frames, frame.length = CustomSpeex.nbFrameSize) :
    MediaClock codec r timestamp frames ↔ ∀ before frame after, frames = before ++ frame :: after →
      (heard codec (stateAfter codec state before) frame).2 = true →
      BitVec.ofNat 32 (ticks (voiceActivity codec state before)) =
        BitVec.ofNat 32 (160 * before.length) := by
  constructor
  · intro hClock before frame after hSplit hSpeech
    obtain ⟨sent', hReady⟩ := h.writeAll codec
      fun f hf => hLength f (hSplit ▸ List.mem_append_left _ hf)
    have hFrame := hLength frame (hSplit ▸ List.mem_append_right _ List.mem_cons_self)
    obtain ⟨p, hStamp, hPackets⟩ := hReady.packetsOf_speech codec hFrame hSpeech
    have hRight := hClock before frame after hSplit p (hPackets ▸ List.mem_singleton_self p)
    rw [hStamp] at hRight
    exact BitVec.add_right_inj _ |>.mp hRight
  · intro hTicks before frame after hSplit p hp
    obtain ⟨sent', hReady⟩ := h.writeAll codec
      fun f hf => hLength f (hSplit ▸ List.mem_append_left _ hf)
    have hFrame := hLength frame (hSplit ▸ List.mem_append_right _ List.mem_cons_self)
    cases hHeard : (heard codec (stateAfter codec state before) frame).2 with
    | false =>
      rw [hReady.packetsOf_silent codec hFrame hHeard] at hp
      cases hp
    | true =>
      obtain ⟨q, hStamp, hPackets⟩ := hReady.packetsOf_speech codec hFrame hHeard
      rw [hPackets, List.mem_singleton] at hp
      rw [hp, hStamp, hTicks before frame after hSplit hHeard]

/-- `SendPacket` moves the clock by 8000 where the session was created with 160, so the clock is
right for the packets of a session exactly when at most one of its frames is speech. -/
theorem mediaClock_iff_at_most_one_speech_frame (state : K) (port : Int)
    (ssrc timestamp : BitVec 32) (seqnr : BitVec 16) (frames : List (List S))
    (hLength : ∀ frame ∈ frames, frame.length = CustomSpeex.nbFrameSize) :
    MediaClock codec (openedRtp state port ssrc timestamp seqnr) timestamp frames ↔
      (voiceActivity codec state frames).count true ≤ 1 := by
  have hReady := ready_openedRtp state port ssrc timestamp seqnr
  rw [hReady.mediaClock_iff codec hLength]
  constructor
  · intro hTicks
    by_contra hMany
    obtain ⟨before, frame, after, hSplit, hSpeech, hCount⟩ :=
      exists_speech_frame codec state frames 1 (Nat.lt_of_not_le hMany)
    have hEq := congrArg BitVec.toNat (hTicks before frame after hSplit hSpeech)
    rw [ticks_eq, hCount, length_voiceActivity] at hEq
    simp only [BitVec.toNat_ofNat] at hEq
    omega
  · intro hFew before frame after hSplit hSpeech
    rw [hSplit, voiceActivity_append, List.count_append, voiceActivity, hSpeech,
      List.count_cons_self] at hFew
    have hNone : (voiceActivity codec state before).count true = 0 := by omega
    rw [ticks_eq, hNone, length_voiceActivity, Nat.mul_zero, Nat.add_zero]

/-- A frame is judged to be speech when its first sample is not silent. -/
def hearingCodec : SpeexCodec Bool Unit :=
  { silentCodec Bool with
    preprocessRun := fun state samples =>
      (state, samples, if samples.head? = some true then 1 else 0) }

def oneWord : List (List Bool) :=
  [List.replicate 160 false, List.replicate 160 false, List.replicate 160 true,
    List.replicate 160 false]

theorem mediaClock_oneWord : MediaClock hearingCodec (openedRtp () 40018 0 0 0) 0 oneWord :=
  (mediaClock_iff_at_most_one_speech_frame hearingCodec () 40018 0 0 0 oneWord
    (by decide +kernel)).mpr (by decide +kernel)

def talkingCodec : SpeexCodec Unit Unit :=
  { silentCodec Unit with preprocessRun := fun state samples => (state, samples, 1) }

theorem not_mediaClock_two_frames :
    ¬ MediaClock talkingCodec (openedRtp () 40018 0 0 0) 0
      [List.replicate 160 (), List.replicate 160 ()] := by
  intro hClock
  have hReady := ready_openedRtp () 40018 0 0 0
  have hFrames : ∀ frame ∈ [List.replicate 160 (), List.replicate 160 ()],
      frame.length = CustomSpeex.nbFrameSize := by
    intro frame hMem
    have hSame : frame = List.replicate 160 () := by
      simpa only [List.mem_cons, List.not_mem_nil, or_false, or_self] using hMem
    rw [hSame, List.length_replicate]
    rfl
  have hTicks := (hReady.mediaClock_iff talkingCodec hFrames).mp hClock
    [List.replicate 160 ()] (List.replicate 160 ()) [] rfl rfl
  exact absurd hTicks (by decide)

end Run
end LocalCall.Jni
