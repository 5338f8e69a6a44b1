import LocalCall.Library.Record
import LocalCall.Jrtp.RtpHeader

/-! # The common header of the RTCP packets

`RTCPCommonHeader` of `rtpstructs.h`, with the bit fields of a little-endian machine.
-/
namespace LocalCall.Jrtp
set_option autoImplicit false

open BigEndian

structure RTCPCommonHeader where
  count : BitVec 5
  padding : Bool
  version : BitVec 2
  packettype : BitVec 8
  length : BitVec 16
  deriving DecidableEq

namespace RTCPCommonHeader

def size : Nat := 4

/-- The bit fields of the first byte from the lowest bit on. -/
def flagsByte (h : RTCPCommonHeader) : UInt8 :=
  UInt8.ofNat (h.count.toNat + 32 * h.padding.toNat + 64 * h.version.toNat)

def write (h : RTCPCommonHeader) : List UInt8 :=
  h.flagsByte :: UInt8.ofNat h.packettype.toNat :: bytes 2 h.length.toNat

def ofBytes (l : List UInt8) : RTCPCommonHeader where
  count := BitVec.ofNat 5 (l.getD 0 0).toNat
  padding := (l.getD 0 0).toNat.testBit 5
  version := BitVec.ofNat 2 ((l.getD 0 0).toNat / 64)
  packettype := BitVec.ofNat 8 (l.getD 1 0).toNat
  length := BitVec.ofNat 16 (value ((l.drop 2).take 2))

@[simp] theorem length_write (h : RTCPCommonHeader) : h.write.length = size := by
  simp [write, size]

theorem toNat_flagsByte (h : RTCPCommonHeader) :
    h.flagsByte.toNat = h.count.toNat + 32 * h.padding.toNat + 64 * h.version.toNat := by
  have hCount := h.count.isLt
  have hVersion := h.version.isLt
  have hPadding := h.padding.toNat_le
  apply UInt8.toNat_ofNat_of_lt
  change _ < 256
  omega

theorem ofBytes_write (h : RTCPCommonHeader) : ofBytes h.write = h := by
  have hCount := h.count.isLt
  have hVersion := h.version.isLt
  have hType := h.packettype.isLt
  have hFlags := toNat_flagsByte h
  have hTypeByte : (UInt8.ofNat h.packettype.toNat).toNat = h.packettype.toNat :=
    UInt8.toNat_ofNat_of_lt hType
  have hPadding : h.flagsByte.toNat.testBit 5 = h.padding := by
    rw [hFlags, Nat.testBit_eq_decide_div_mod_eq]
    cases h.padding <;> simp <;> omega
  have hCountBits : BitVec.ofNat 5 h.flagsByte.toNat = h.count := by
    have hBound := h.padding.toNat_le
    apply BitVec.eq_of_toNat_eq
    rw [BitVec.toNat_ofNat, hFlags]
    omega
  have hVersionBits : BitVec.ofNat 2 (h.flagsByte.toNat / 64) = h.version := by
    have hBound := h.padding.toNat_le
    apply BitVec.eq_of_toNat_eq
    rw [BitVec.toNat_ofNat, hFlags]
    omega
  have hTypeBits : BitVec.ofNat 8 (UInt8.ofNat h.packettype.toNat).toNat = h.packettype := by
    rw [hTypeByte, BitVec.ofNat_toNat, BitVec.setWidth_eq]
  have hLength : (bytes 2 h.length.toNat).take 2 = bytes 2 h.length.toNat :=
    List.take_of_length_le (Nat.le_of_eq (length_bytes _ _))
  change RTCPCommonHeader.mk (BitVec.ofNat 5 h.flagsByte.toNat) (h.flagsByte.toNat.testBit 5)
    (BitVec.ofNat 2 (h.flagsByte.toNat / 64))
    (BitVec.ofNat 8 (UInt8.ofNat h.packettype.toNat).toNat)
    (BitVec.ofNat 16 (value ((bytes 2 h.length.toNat).take 2))) = h
  rw [hCountBits, hPadding, hVersionBits, hTypeBits, hLength,
    RTPHeader.ofNat_value_bytes (by decide)]

theorem write_ofBytes {l : List UInt8} (hl : l.length = size) : (ofBytes l).write = l := by
  obtain ⟨b0, b1, rest, rfl⟩ : ∃ b0 b1 rest, l = b0 :: b1 :: rest := by
    match l, hl with
    | b0 :: b1 :: rest, _ => exact ⟨b0, b1, rest, rfl⟩
  have h0 := b0.toNat_lt
  have h1 := b1.toNat_lt
  have hRest : rest.length = 2 := Nat.add_right_cancel (m := 2) hl
  change UInt8.ofNat ((BitVec.ofNat 5 b0.toNat).toNat + 32 * (b0.toNat.testBit 5).toNat +
      64 * (BitVec.ofNat 2 (b0.toNat / 64)).toNat) ::
    UInt8.ofNat (BitVec.ofNat 8 b1.toNat).toNat ::
      bytes 2 (BitVec.ofNat 16 (value (rest.take 2))).toNat = b0 :: b1 :: rest
  rw [List.take_of_length_le (Nat.le_of_eq hRest), RTPHeader.bytes_ofNat_value (by decide) hRest]
  congr 1
  · apply UInt8.toNat_inj.mp
    rw [UInt8.toNat_ofNat', BitVec.toNat_ofNat, BitVec.toNat_ofNat, Nat.toNat_testBit]
    omega
  · congr 1
    apply UInt8.toNat_inj.mp
    rw [UInt8.toNat_ofNat', BitVec.toNat_ofNat]
    omega

def record : Record RTCPCommonHeader UInt8 where
  size := size
  write := write
  ofCells := ofBytes
  length_write := length_write
  ofCells_write := ofBytes_write
  write_ofCells _ h := write_ofBytes h

end RTCPCommonHeader

end LocalCall.Jrtp
