import LocalCall.Jrtp.RtcpHeader

/-! # The packets of a compound packet

The constructors of `rtcpsrpacket.cpp`, `rtcprrpacket.cpp`, `rtcpbyepacket.cpp` and
`rtcpapppacket.cpp` find out whether a packet has the format of its type, and the accessors read it
when it has. A pointer is an offset into the packet, and a read that leaves the packet has a result
of its own, so that it can be shown never to happen.
-/
namespace LocalCall.Jrtp
set_option autoImplicit false

open Piece

/-- Why a constructor does not know the format: it returns early, or reads behind the packet. -/
inductive Stop where
  | unknownFormat
  | outside
  deriving DecidableEq

def word32 : Record (BitVec 32) UInt8 := Record.word 32 4 rfl

structure RTCPSenderReport where
  ntptimemsw : BitVec 32
  ntptimelsw : BitVec 32
  rtptimestamp : BitVec 32
  packetcount : BitVec 32
  octetcount : BitVec 32
  deriving DecidableEq

structure RTCPReceiverReport where
  ssrc : BitVec 32
  fractionlost : UInt8
  packetslost : BitVec 24
  exthighseqnr : BitVec 32
  jitter : BitVec 32
  lsr : BitVec 32
  dlsr : BitVec 32
  deriving DecidableEq

namespace RTCPSenderReport

def record : Record RTCPSenderReport UInt8 :=
  (word32.prod (word32.prod (word32.prod (word32.prod word32)))).equiv {
    toFun := fun r => (r.ntptimemsw, r.ntptimelsw, r.rtptimestamp, r.packetcount, r.octetcount)
    invFun := fun x => ⟨x.1, x.2.1, x.2.2.1, x.2.2.2.1, x.2.2.2.2⟩
    left_inv := fun _ => rfl
    right_inv := fun _ => rfl }

end RTCPSenderReport

namespace RTCPReceiverReport

def record : Record RTCPReceiverReport UInt8 :=
  (word32.prod (Record.byte.prod ((Record.word 24 3 rfl).prod
    (word32.prod (word32.prod (word32.prod word32)))))).equiv {
      toFun := fun r =>
        (r.ssrc, r.fractionlost, r.packetslost, r.exthighseqnr, r.jitter, r.lsr, r.dlsr)
      invFun := fun x =>
        ⟨x.1, x.2.1, x.2.2.1, x.2.2.2.1, x.2.2.2.2.1, x.2.2.2.2.2.1, x.2.2.2.2.2.2⟩
      left_inv := fun _ => rfl
      right_inv := fun _ => rfl }

/-- `GetLostPacketCount` with its test for a negative number. -/
def getLostPacketCount (r : RTCPReceiverReport) : Int :=
  let count := r.packetslost.setWidth 32
  (if count &&& 0x00800000#32 ≠ 0 then count ||| 0xFF000000#32 else count).toInt

/-- The test finds the sign of the 24 bits. -/
theorem getLostPacketCount_eq (r : RTCPReceiverReport) :
    r.getLostPacketCount = r.packetslost.toInt := by
  have hBit : r.packetslost.setWidth 32 &&& 0x00800000#32 ≠ 0 ↔ r.packetslost.msb = true := by
    have hTwoPow : 0x00800000#32 = BitVec.twoPow 32 23 := rfl
    have hSign : r.packetslost.msb = r.packetslost.getLsbD 23 :=
      BitVec.msb_eq_getLsbD_last r.packetslost
    rw [hTwoPow, BitVec.and_twoPow, hSign, BitVec.getLsbD_setWidth]
    cases r.packetslost.getLsbD 23 <;> decide
  have hExtend : (r.packetslost.signExtend 32).toInt = r.packetslost.toInt :=
    BitVec.toInt_signExtend_of_le (by decide)
  rw [getLostPacketCount, ← hExtend]
  congr 1
  by_cases hSign : r.packetslost.msb = true
  · rw [if_pos (hBit.mpr hSign), BitVec.signExtend_eq_not_setWidth_not_of_msb_true hSign]
    have hHigh : ∀ i < 32, (0xFF000000#32).getLsbD i = decide (24 ≤ i) := by decide
    apply BitVec.eq_of_getLsbD_eq
    intro i hi
    rw [BitVec.getLsbD_or, hHigh i hi]
    simp only [BitVec.getLsbD_not, BitVec.getLsbD_setWidth]
    by_cases hLow : i < 24
    · have hBelow : ¬ 24 ≤ i := Nat.not_le_of_lt hLow
      simp [hi, hLow, hBelow]
    · have hAbove : 24 ≤ i := Nat.le_of_not_lt hLow
      simp [hi, hAbove]
  · rw [if_neg (mt hBit.mp hSign),
      BitVec.signExtend_eq_setWidth_of_msb_false (Bool.eq_false_iff.mpr hSign)]

end RTCPReceiverReport

/-! ## The padding -/

/-- What every constructor begins with, the length of the packet without its padding. -/
def unpadded (hdr : RTCPCommonHeader) (data : List UInt8) : Except Stop Nat :=
  if hdr.padding then
    match data[data.length - 1]? with
    | none => .error .outside
    | some padcount =>
      if padcount.toNat % 4 ≠ 0 then .error .unknownFormat
      else if data.length ≤ padcount.toNat then .error .unknownFormat
      else .ok (data.length - padcount.toNat)
  else .ok data.length

/-- The constructor of a packet that goes on with `check` behind the padding. -/
def constructed {α : Type} (check : RTCPCommonHeader → Nat → Except Stop α) (data : List UInt8) :
    Except Stop α :=
  match RTCPCommonHeader.record.read data 0 with
  | none => .error .outside
  | some hdr =>
    match unpadded hdr data with
    | .error e => .error e
    | .ok len => check hdr len

/-- A packet is its header, a body and a padding that says in its last byte how long it is. The last
byte of a body may say that there is none. -/
structure Layout (hdr : RTCPCommonHeader) (body pad data : List UInt8) : Prop where
  hData : data = hdr.write ++ (body ++ pad)
  hPad : hdr.padding = true →
    pad.length % 4 = 0 ∧ data.getLast?.map UInt8.toNat = some pad.length
  hNoPad : hdr.padding = false → pad = []

namespace Layout
variable {hdr : RTCPCommonHeader} {body pad data : List UInt8} (h : Layout hdr body pad data)
include h

theorem length : data.length = 4 + body.length + pad.length := by
  rw [h.hData, List.length_append, List.length_append, RTCPCommonHeader.length_write,
    RTCPCommonHeader.size]
  omega

theorem read : RTCPCommonHeader.record.read data 0 = some hdr := by
  rw [Record.read_eq_some_iff, h.hData]
  exact at_zero _ _

theorem body_at : At data 4 body := by
  rw [h.hData]
  exact at_middle hdr.write body pad

theorem unpadded_eq : unpadded hdr data = .ok (4 + body.length) := by
  have hLength := h.length
  unfold unpadded
  cases hPadding : hdr.padding with
  | false =>
    have hNil := h.hNoPad hPadding
    rw [hNil, List.length_nil, Nat.add_zero] at hLength
    rw [← hLength]
    rfl
  | true =>
    obtain ⟨hFour, hLast⟩ := h.hPad hPadding
    rw [List.getLast?_eq_getElem?] at hLast
    obtain ⟨padcount, hByte, hCount⟩ := Option.map_eq_some_iff.mp hLast
    rw [if_pos rfl, hByte]
    dsimp only
    rw [hCount, if_neg (by omega), if_neg (by omega)]
    congr 1
    omega

end Layout

theorem unpadded_ok {hdr : RTCPCommonHeader} {data : List UInt8} {len : Nat}
    (hRead : RTCPCommonHeader.record.read data 0 = some hdr) (h : unpadded hdr data = .ok len)
    (hLen : 4 ≤ len) : ∃ body pad, Layout hdr body pad data ∧ len = 4 + body.length := by
  have hSplit := (Record.read_eq_some_iff.mp hRead).split
  rw [List.take_zero, List.nil_append, Nat.zero_add] at hSplit
  change data = hdr.write ++ data.drop hdr.write.length at hSplit
  rw [RTCPCommonHeader.length_write, RTCPCommonHeader.size] at hSplit
  have hSize := congrArg List.length hSplit
  rw [List.length_append, RTCPCommonHeader.length_write, RTCPCommonHeader.size] at hSize
  unfold unpadded at h
  cases hPadding : hdr.padding with
  | false =>
    rw [hPadding, if_neg Bool.false_ne_true] at h
    cases h
    refine ⟨data.drop 4, [], ⟨?_, ?_, fun _ => rfl⟩, hSize⟩
    · rw [List.append_nil]
      exact hSplit
    · intro hTrue
      rw [hPadding] at hTrue
      cases hTrue
  | true =>
    rw [hPadding, if_pos rfl] at h
    split at h
    · cases h
    rename_i padcount hByte
    split at h
    · cases h
    rename_i hFour
    split at h
    · cases h
    rename_i hShort
    cases h
    have hPadLength : (data.drop (data.length - padcount.toNat)).length = padcount.toNat := by
      rw [List.length_drop]
      omega
    have hBody : data.drop 4 = (data.drop 4).take (data.length - padcount.toNat - 4) ++
        data.drop (data.length - padcount.toNat) := by
      have hJoin : data.length - padcount.toNat = 4 + (data.length - padcount.toNat - 4) := by
        omega
      conv_rhs => rw [hJoin, ← List.drop_drop, Nat.add_sub_cancel_left]
      exact (List.take_append_drop _ _).symm
    refine ⟨(data.drop 4).take (data.length - padcount.toNat - 4),
      data.drop (data.length - padcount.toNat), ⟨?_, ?_, ?_⟩, ?_⟩
    · rw [← hBody]
      exact hSplit
    · intro _
      rw [hPadLength, List.getLast?_eq_getElem?, hByte]
      exact ⟨by omega, rfl⟩
    · intro hFalse
      rw [hPadding] at hFalse
      cases hFalse
    · rw [List.length_take, List.length_drop]
      omega

section
variable {α : Type} {check : RTCPCommonHeader → Nat → Except Stop α} {data : List UInt8} {a : α}

/-- A packet of a known format has a layout in which the rest of the constructor accepts it. -/
theorem constructed_eq_ok_iff (hShort : ∀ hdr len, check hdr len = .ok a → 4 ≤ len) :
    constructed check data = .ok a ↔
      ∃ hdr body pad, Layout hdr body pad data ∧ check hdr (4 + body.length) = .ok a := by
  constructor
  · intro h
    unfold constructed at h
    split at h
    · cases h
    rename_i hdr hRead
    split at h
    · cases h
    rename_i len hLen
    obtain ⟨body, pad, hLayout, rfl⟩ := unpadded_ok hRead hLen (hShort hdr len h)
    exact ⟨hdr, body, pad, hLayout, h⟩
  · rintro ⟨hdr, body, pad, hLayout, h⟩
    unfold constructed
    rw [hLayout.read]
    dsimp only
    rw [hLayout.unpadded_eq]
    exact h

theorem unpadded_le {hdr : RTCPCommonHeader} {len : Nat} (h : unpadded hdr data = .ok len) :
    len ≤ data.length := by
  unfold unpadded at h
  repeat' split at h
  all_goals cases h
  · exact Nat.sub_le _ _
  · exact Nat.le_refl _

theorem constructed_ne_outside (hSize : 4 ≤ data.length)
    (hCheck : ∀ hdr len, len ≤ data.length → check hdr len ≠ .error .outside) :
    constructed check data ≠ .error .outside := by
  unfold constructed
  split
  · rename_i hRead
    obtain ⟨hdr, hSome⟩ := RTCPCommonHeader.record.read_of_le (i := 0)
      (by rwa [Nat.zero_add] : 0 + 4 ≤ data.length)
    rw [hSome] at hRead
    cases hRead
  rename_i hdr _
  split
  · rename_i e hUnpadded
    rintro ⟨⟩
    unfold unpadded at hUnpadded
    split at hUnpadded
    swap
    · cases hUnpadded
    split at hUnpadded
    · rename_i hNone
      rw [List.getElem?_eq_none_iff] at hNone
      omega
    · repeat' split at hUnpadded
      all_goals cases hUnpadded
  · rename_i len hLen
    exact hCheck hdr len (unpadded_le hLen)

end

end LocalCall.Jrtp
