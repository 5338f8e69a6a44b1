import LocalCall.Library.BigEndian

/-! # The fixed header of an RTP packet

`RTPHeader` of `rtpstructs.h`, with the bit fields of a little-endian machine.
-/
namespace LocalCall.Jrtp
set_option autoImplicit false

open BigEndian

def rtpVersion : BitVec 2 := 2

structure RTPHeader where
  csrccount : BitVec 4
  extension : Bool
  padding : Bool
  version : BitVec 2
  payloadtype : BitVec 7
  marker : Bool
  sequencenumber : BitVec 16
  timestamp : BitVec 32
  ssrc : BitVec 32
  deriving DecidableEq

namespace RTPHeader

def size : Nat := 12

/-- The bit fields of the first byte from the lowest bit on. -/
def flagsByte (h : RTPHeader) : UInt8 :=
  UInt8.ofNat (h.csrccount.toNat + 16 * h.extension.toNat + 32 * h.padding.toNat +
    64 * h.version.toNat)

def typeByte (h : RTPHeader) : UInt8 := UInt8.ofNat (h.payloadtype.toNat + 128 * h.marker.toNat)

def write (h : RTPHeader) : List UInt8 :=
  h.flagsByte :: h.typeByte ::
    (bytes 2 h.sequencenumber.toNat ++ bytes 4 h.timestamp.toNat ++ bytes 4 h.ssrc.toNat)

def read (l : List UInt8) : RTPHeader where
  csrccount := BitVec.ofNat 4 (l.getD 0 0).toNat
  extension := (l.getD 0 0).toNat.testBit 4
  padding := (l.getD 0 0).toNat.testBit 5
  version := BitVec.ofNat 2 ((l.getD 0 0).toNat / 64)
  payloadtype := BitVec.ofNat 7 (l.getD 1 0).toNat
  marker := (l.getD 1 0).toNat.testBit 7
  sequencenumber := BitVec.ofNat 16 (value ((l.drop 2).take 2))
  timestamp := BitVec.ofNat 32 (value ((l.drop 4).take 4))
  ssrc := BitVec.ofNat 32 (value ((l.drop 8).take 4))

@[simp] theorem length_write (h : RTPHeader) : h.write.length = size := by
  simp [write, size]

theorem ofNat_value_bytes {k w : Nat} (hw : 2 ^ w = 256 ^ k) (x : BitVec w) :
    BitVec.ofNat w (value (bytes k x.toNat)) = x := by
  rw [value_bytes_of_lt (hw ▸ x.isLt), BitVec.ofNat_toNat, BitVec.setWidth_eq]

theorem bytes_ofNat_value {k w : Nat} (hw : 2 ^ w = 256 ^ k) {l : List UInt8} (hl : l.length = k) :
    bytes k (BitVec.ofNat w (value l)).toNat = l := by
  have hLt : value l < 2 ^ w := by rw [hw, ← hl]; exact value_lt l
  rw [BitVec.toNat_ofNat, Nat.mod_eq_of_lt hLt, ← hl, bytes_value]

theorem toNat_flagsByte (h : RTPHeader) : h.flagsByte.toNat =
    h.csrccount.toNat + 16 * h.extension.toNat + 32 * h.padding.toNat + 64 * h.version.toNat := by
  have hCount := h.csrccount.isLt
  have hVersion := h.version.isLt
  have hExtension := h.extension.toNat_le
  have hPadding := h.padding.toNat_le
  apply UInt8.toNat_ofNat_of_lt
  change _ < 256
  omega

theorem toNat_typeByte (h : RTPHeader) :
    h.typeByte.toNat = h.payloadtype.toNat + 128 * h.marker.toNat := by
  have hType := h.payloadtype.isLt
  have hMarker := h.marker.toNat_le
  apply UInt8.toNat_ofNat_of_lt
  change _ < 256
  omega

theorem read_flagsByte (h : RTPHeader) :
    BitVec.ofNat 4 h.flagsByte.toNat = h.csrccount ∧ h.flagsByte.toNat.testBit 4 = h.extension ∧
      h.flagsByte.toNat.testBit 5 = h.padding ∧
      BitVec.ofNat 2 (h.flagsByte.toNat / 64) = h.version := by
  have hCount := h.csrccount.isLt
  have hVersion := h.version.isLt
  rw [toNat_flagsByte, Nat.testBit_eq_decide_div_mod_eq, Nat.testBit_eq_decide_div_mod_eq]
  refine ⟨?_, ?_, ?_, ?_⟩
  · apply BitVec.eq_of_toNat_eq
    rw [BitVec.toNat_ofNat]
    omega
  · cases h.extension <;> cases h.padding <;> simp <;> omega
  · cases h.extension <;> cases h.padding <;> simp <;> omega
  · have hExtension := h.extension.toNat_le
    have hPadding := h.padding.toNat_le
    apply BitVec.eq_of_toNat_eq
    rw [BitVec.toNat_ofNat]
    omega

theorem read_typeByte (h : RTPHeader) :
    BitVec.ofNat 7 h.typeByte.toNat = h.payloadtype ∧ h.typeByte.toNat.testBit 7 = h.marker := by
  have hType := h.payloadtype.isLt
  rw [toNat_typeByte, Nat.testBit_eq_decide_div_mod_eq]
  constructor
  · apply BitVec.eq_of_toNat_eq
    rw [BitVec.toNat_ofNat]
    omega
  · cases h.marker <;> simp <;> omega

theorem drop_write (h : RTPHeader) (rest : List UInt8) (i : Nat) :
    (h.write ++ rest).drop (i + 2) =
      (bytes 2 h.sequencenumber.toNat ++ (bytes 4 h.timestamp.toNat ++
        (bytes 4 h.ssrc.toNat ++ rest))).drop i := by
  rw [← List.append_assoc, ← List.append_assoc]
  rfl

theorem read_write (h : RTPHeader) (rest : List UInt8) : read (h.write ++ rest) = h := by
  obtain ⟨hCount, hExtension, hPadding, hVersion⟩ := read_flagsByte h
  obtain ⟨hType, hMarker⟩ := read_typeByte h
  have hSeq : ((h.write ++ rest).drop 2).take 2 = bytes 2 h.sequencenumber.toNat := by
    rw [drop_write h rest 0, List.drop_zero, List.take_left' (length_bytes _ _)]
  have hTime : ((h.write ++ rest).drop 4).take 4 = bytes 4 h.timestamp.toNat := by
    rw [drop_write h rest 2, List.drop_left' (length_bytes _ _),
      List.take_left' (length_bytes _ _)]
  have hSource : ((h.write ++ rest).drop 8).take 4 = bytes 4 h.ssrc.toNat := by
    have hLength : (bytes 2 h.sequencenumber.toNat ++ bytes 4 h.timestamp.toNat).length = 6 := by
      simp
    rw [drop_write h rest 6, ← List.append_assoc, List.drop_left' hLength,
      List.take_left' (length_bytes _ _)]
  rw [read, hSeq, hTime, hSource, ofNat_value_bytes (by decide), ofNat_value_bytes (by decide),
    ofNat_value_bytes (by decide)]
  change RTPHeader.mk (BitVec.ofNat 4 h.flagsByte.toNat) (h.flagsByte.toNat.testBit 4)
    (h.flagsByte.toNat.testBit 5) (BitVec.ofNat 2 (h.flagsByte.toNat / 64))
    (BitVec.ofNat 7 h.typeByte.toNat) (h.typeByte.toNat.testBit 7) _ _ _ = h
  rw [hCount, hExtension, hPadding, hVersion, hType, hMarker]

theorem write_read {l : List UInt8} (hl : size ≤ l.length) : (read l).write = l.take size := by
  obtain ⟨b0, b1, rest, rfl⟩ : ∃ b0 b1 rest, l = b0 :: b1 :: rest := by
    match l, hl with
    | b0 :: b1 :: rest, _ => exact ⟨b0, b1, rest, rfl⟩
  have h0 := b0.toNat_lt
  have h1 := b1.toNat_lt
  have hRest : 10 ≤ rest.length := Nat.le_of_add_le_add_right (b := 2) hl
  have hWord : ∀ i k w : Nat, 2 ^ w = 256 ^ k → i + k ≤ 10 →
      bytes k (BitVec.ofNat w (value ((rest.drop i).take k))).toNat = (rest.drop i).take k := by
    intro i k w hw hik
    apply bytes_ofNat_value hw
    rw [List.length_take, List.length_drop]
    omega
  have hTail : (rest.drop 0).take 2 ++ (rest.drop 2).take 4 ++ (rest.drop 6).take 4 =
      rest.take 10 := by
    rw [List.drop_zero, ← List.take_add, ← List.take_add]
  change UInt8.ofNat ((BitVec.ofNat 4 b0.toNat).toNat + 16 * (b0.toNat.testBit 4).toNat +
      32 * (b0.toNat.testBit 5).toNat + 64 * (BitVec.ofNat 2 (b0.toNat / 64)).toNat) ::
    UInt8.ofNat ((BitVec.ofNat 7 b1.toNat).toNat + 128 * (b1.toNat.testBit 7).toNat) ::
      (bytes 2 (BitVec.ofNat 16 (value ((rest.drop 0).take 2))).toNat ++
        bytes 4 (BitVec.ofNat 32 (value ((rest.drop 2).take 4))).toNat ++
        bytes 4 (BitVec.ofNat 32 (value ((rest.drop 6).take 4))).toNat) =
    b0 :: b1 :: rest.take 10
  rw [hWord 0 2 16 (by decide) (by decide), hWord 2 4 32 (by decide) (by decide),
    hWord 6 4 32 (by decide) (by decide), hTail]
  congr 1
  · apply UInt8.toNat_inj.mp
    rw [UInt8.toNat_ofNat', BitVec.toNat_ofNat, BitVec.toNat_ofNat, Nat.toNat_testBit,
      Nat.toNat_testBit]
    omega
  · congr 1
    apply UInt8.toNat_inj.mp
    rw [UInt8.toNat_ofNat', BitVec.toNat_ofNat, Nat.toNat_testBit]
    omega

end RTPHeader

end LocalCall.Jrtp
