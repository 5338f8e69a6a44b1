import LocalCall.Jrtp.RtpHeader
import LocalCall.Jni.Jrtp
import LocalCall.Jrtp.RtpTime
import Mathlib.Data.List.Basic

/-! # RTP packets as bytes

`rtppacket.cpp`. A pointer into the packet is its offset there. What lies
in memory behind a received datagram is a parameter of the parser, since the parser reads the length
of a header extension before it knows that the datagram has one.
-/
namespace LocalCall.Jrtp
set_option autoImplicit false

open BigEndian

def maxCSRCs : Nat := 15
def rtcpTypeSR : Nat := 200
def rtcpTypeRR : Nat := 201

inductive RTPPacketError where
  | tooManyCSRCs | badPayloadType | dataExceedsMaxSize | invalidPacket
  deriving DecidableEq

structure RTPRawPacket where
  data : List UInt8
  senderaddress : Jni.RTPIPv4Address
  receivetime : RTPTime
  isrtp : Bool
  deriving DecidableEq

structure HeaderExtension where
  extid : BitVec 16
  numwords : BitVec 16
  data : List UInt8
  hLength : data.length = 4 * numwords.toNat
  deriving DecidableEq

namespace HeaderExtension

def headerSize : Nat := 4

def write (e : HeaderExtension) : List UInt8 :=
  bytes 2 e.extid.toNat ++ bytes 2 e.numwords.toNat ++ e.data

@[simp] theorem length_write (e : HeaderExtension) :
    e.write.length = headerSize + 4 * e.numwords.toNat := by
  simp only [write, List.length_append, length_bytes, e.hLength, headerSize]

end HeaderExtension

/-- What a packet is built from; `numcsrcs` is the length of the list. -/
structure RTPFields where
  payloadtype : BitVec 8
  payload : List UInt8
  seqnr : BitVec 16
  timestamp : BitVec 32
  ssrc : BitVec 32
  marker : Bool
  csrcs : List (BitVec 32)
  extension : Option HeaderExtension
  deriving DecidableEq

/-- `payload` and `extension` are offsets into `packet`. -/
structure RTPPacket where
  hasextension : Bool
  hasmarker : Bool
  numcsrcs : Nat
  payloadtype : Nat
  extseqnr : BitVec 32
  timestamp : BitVec 32
  ssrc : BitVec 32
  packet : List UInt8
  payload : Nat
  payloadlength : Nat
  extid : BitVec 16
  extension : Nat
  extensionlength : Nat
  deriving DecidableEq

namespace RTPPacket

def getCSRC (p : RTPPacket) (num : Nat) : BitVec 32 :=
  if p.numcsrcs ≤ num then 0
  else BitVec.ofNat 32 (value ((p.packet.drop (RTPHeader.size + 4 * num)).take 4))

def getPayloadData (p : RTPPacket) : List UInt8 := (p.packet.drop p.payload).take p.payloadlength

def getExtensionData (p : RTPPacket) : List UInt8 :=
  (p.packet.drop p.extension).take p.extensionlength

end RTPPacket

def header (f : RTPFields) (padding : Bool) : RTPHeader where
  csrccount := BitVec.ofNat 4 f.csrcs.length
  extension := f.extension.isSome
  padding := padding
  version := rtpVersion
  payloadtype := f.payloadtype.setWidth 7
  marker := f.marker
  sequencenumber := f.seqnr
  timestamp := f.timestamp
  ssrc := f.ssrc

def csrcBytes (f : RTPFields) : List UInt8 := words 4 (f.csrcs.map BitVec.toNat)

def extensionBytes (f : RTPFields) : List UInt8 := (f.extension.map HeaderExtension.write).getD []

/-- The datagram of the fields `f` with the padding `pad` behind the payload. -/
def datagram (f : RTPFields) (pad : List UInt8) : List UInt8 :=
  (header f (!pad.isEmpty)).write ++
    (csrcBytes f ++ (extensionBytes f ++ (f.payload ++ pad)))

def payloadOffset (f : RTPFields) : Nat :=
  RTPHeader.size + 4 * f.csrcs.length + (extensionBytes f).length

/-- `RTPPacket::BuildPacket`, which never fills in the pointer to the extension. -/
def buildPacket (f : RTPFields) (maxsize : Nat) : Except RTPPacketError RTPPacket :=
  if maxCSRCs < f.csrcs.length then .error .tooManyCSRCs
  else if 127 < f.payloadtype.toNat then .error .badPayloadType
  else if f.payloadtype.toNat = 72 ∨ f.payloadtype.toNat = 73 then .error .badPayloadType
  else if 0 < maxsize ∧ maxsize < payloadOffset f + f.payload.length then
    .error .dataExceedsMaxSize
  else
    .ok {
      hasextension := f.extension.isSome
      hasmarker := f.marker
      numcsrcs := f.csrcs.length
      payloadtype := f.payloadtype.toNat
      extseqnr := f.seqnr.setWidth 32
      timestamp := f.timestamp
      ssrc := f.ssrc
      packet := datagram f []
      payload := payloadOffset f
      payloadlength := f.payload.length
      extid := (f.extension.map HeaderExtension.extid).getD 0
      extension := 0
      extensionlength := 4 * ((f.extension.map HeaderExtension.numwords).getD 0).toNat }

def readExtensionHeader (packetbytes : List UInt8) (beyond : Nat → UInt8) (offset : Nat) :
    BitVec 16 × BitVec 16 :=
  let byte := fun i => packetbytes.getD (offset + i) (beyond (offset + i))
  (BitVec.ofNat 16 (value [byte 0, byte 1]), BitVec.ofNat 16 (value [byte 2, byte 3]))

def numpadbytes (packetbytes : List UInt8) : Nat :=
  if (RTPHeader.read packetbytes).padding then
    (packetbytes.getD (packetbytes.length - 1) 0).toNat
  else 0

def csrcEnd (packetbytes : List UInt8) : Nat :=
  RTPHeader.size + 4 * (RTPHeader.read packetbytes).csrccount.toNat

/-- The identifier and the length in words, zeros when there is no extension. -/
def exthdr (beyond : Nat → UInt8) (packetbytes : List UInt8) : BitVec 16 × BitVec 16 :=
  if (RTPHeader.read packetbytes).extension then
    readExtensionHeader packetbytes beyond (csrcEnd packetbytes)
  else (0, 0)

def payloadoffset (beyond : Nat → UInt8) (packetbytes : List UInt8) : Nat :=
  if (RTPHeader.read packetbytes).extension then
    csrcEnd packetbytes + HeaderExtension.headerSize + 4 * (exthdr beyond packetbytes).2.toNat
  else csrcEnd packetbytes

/-- `RTPPacket::ParseRawPacket`; `beyond` is the memory behind the datagram. -/
def parseRawPacket (beyond : Nat → UInt8) (rawpack : RTPRawPacket) :
    Except RTPPacketError RTPPacket :=
  let packetbytes := rawpack.data
  let rtpheader := RTPHeader.read packetbytes
  let payloadlength : Int :=
    packetbytes.length - numpadbytes packetbytes - payloadoffset beyond packetbytes
  if rawpack.isrtp = false then .error .invalidPacket
  else if packetbytes.length < RTPHeader.size then .error .invalidPacket
  else if rtpheader.version ≠ rtpVersion then .error .invalidPacket
  else if rtpheader.marker ∧ (rtpheader.payloadtype.toNat = rtcpTypeSR % 128 ∨
      rtpheader.payloadtype.toNat = rtcpTypeRR % 128) then .error .invalidPacket
  else if rtpheader.padding ∧ numpadbytes packetbytes = 0 then .error .invalidPacket
  else if payloadlength < 0 then .error .invalidPacket
  else
    .ok {
      hasextension := rtpheader.extension
      hasmarker := rtpheader.marker
      numcsrcs := rtpheader.csrccount.toNat
      payloadtype := rtpheader.payloadtype.toNat
      extseqnr := rtpheader.sequencenumber.setWidth 32
      timestamp := rtpheader.timestamp
      ssrc := rtpheader.ssrc
      packet := packetbytes
      payload := payloadoffset beyond packetbytes
      payloadlength := payloadlength.toNat
      extid := (exthdr beyond packetbytes).1
      extension :=
        if rtpheader.extension then csrcEnd packetbytes + HeaderExtension.headerSize else 0
      extensionlength := 4 * (exthdr beyond packetbytes).2.toNat }

/-! ## The datagrams that are accepted -/

/-- What the parser asks of the fields and the padding of a datagram. -/
structure Wire (f : RTPFields) (pad : List UInt8) : Prop where
  hCsrcs : f.csrcs.length ≤ maxCSRCs
  hType : f.payloadtype.toNat ≤ 127
  hReport : ¬ (f.marker = true ∧ (f.payloadtype.toNat = 72 ∨ f.payloadtype.toNat = 73))
  hPad : pad ≠ [] → pad.length < 256 ∧ pad.getLast? = some (UInt8.ofNat pad.length)

def layout (f : RTPFields) (pad : List UInt8) : RTPPacket where
  hasextension := f.extension.isSome
  hasmarker := f.marker
  numcsrcs := f.csrcs.length
  payloadtype := f.payloadtype.toNat
  extseqnr := f.seqnr.setWidth 32
  timestamp := f.timestamp
  ssrc := f.ssrc
  packet := datagram f pad
  payload := payloadOffset f
  payloadlength := f.payload.length
  extid := (f.extension.map HeaderExtension.extid).getD 0
  extension :=
    if f.extension.isSome then RTPHeader.size + 4 * f.csrcs.length + HeaderExtension.headerSize
    else 0
  extensionlength := 4 * ((f.extension.map HeaderExtension.numwords).getD 0).toNat

@[simp] theorem length_csrcBytes (f : RTPFields) : (csrcBytes f).length = 4 * f.csrcs.length := by
  rw [csrcBytes, length_words, List.length_map]

theorem length_datagram (f : RTPFields) (pad : List UInt8) :
    (datagram f pad).length = payloadOffset f + f.payload.length + pad.length := by
  simp only [datagram, payloadOffset, List.length_append, RTPHeader.length_write,
    length_csrcBytes]
  omega

theorem read_datagram (f : RTPFields) (pad : List UInt8) :
    RTPHeader.read (datagram f pad) = header f (!pad.isEmpty) := RTPHeader.read_write _ _

theorem getD_last_datagram (f : RTPFields) {pad : List UInt8} {b : UInt8}
    (hPad : pad.getLast? = some b) :
    (datagram f pad).getD ((datagram f pad).length - 1) 0 = b := by
  have hLast : (datagram f pad).getLast? = some b := by
    rw [datagram, List.getLast?_append, List.getLast?_append, List.getLast?_append,
      List.getLast?_append, hPad]
    rfl
  rw [List.getLast?_eq_getElem?] at hLast
  rw [List.getD_eq_getElem?_getD, hLast]
  rfl

theorem readExtensionHeader_append (front rest : List UInt8) (e : HeaderExtension)
    (beyond : Nat → UInt8) :
    readExtensionHeader (front ++ (e.write ++ rest)) beyond front.length =
      (e.extid, e.numwords) := by
  have hByte : ∀ i : Nat, (front ++ (e.write ++ rest)).getD (front.length + i)
      (beyond (front.length + i)) = (e.write ++ rest).getD i (beyond (front.length + i)) := by
    intro i
    rw [List.getD_eq_getElem?_getD, List.getD_eq_getElem?_getD,
      List.getElem?_append_right (Nat.le_add_right _ _), Nat.add_sub_cancel_left]
  have hId := RTPHeader.ofNat_value_bytes (k := 2) (w := 16) (by decide) e.extid
  have hWords := RTPHeader.ofNat_value_bytes (k := 2) (w := 16) (by decide) e.numwords
  simp only [readExtensionHeader, hByte]
  rw [← hId, ← hWords]
  rfl

section
variable {f : RTPFields} {pad : List UInt8} (hWire : Wire f pad)

theorem csrccount_header (padding : Bool) (hCsrcs : f.csrcs.length ≤ maxCSRCs) :
    (header f padding).csrccount.toNat = f.csrcs.length := by
  change (BitVec.ofNat 4 f.csrcs.length).toNat = _
  rw [BitVec.toNat_ofNat]
  apply Nat.mod_eq_of_lt
  exact Nat.lt_succ_of_le hCsrcs

theorem payloadtype_header (padding : Bool) (hType : f.payloadtype.toNat ≤ 127) :
    (header f padding).payloadtype.toNat = f.payloadtype.toNat := by
  change (f.payloadtype.setWidth 7).toNat = _
  rw [BitVec.toNat_setWidth]
  exact Nat.mod_eq_of_lt (Nat.lt_succ_of_le hType)

include hWire

theorem csrcEnd_datagram : csrcEnd (datagram f pad) = RTPHeader.size + 4 * f.csrcs.length := by
  rw [csrcEnd, read_datagram, csrccount_header _ hWire.hCsrcs]

theorem exthdr_datagram (beyond : Nat → UInt8) : exthdr beyond (datagram f pad) =
    ((f.extension.map HeaderExtension.extid).getD 0,
      (f.extension.map HeaderExtension.numwords).getD 0) := by
  rw [exthdr, read_datagram]
  cases hExt : f.extension with
  | none => rw [if_neg (by simp [header, hExt])]; rfl
  | some e =>
    have hFront : ((header f (!pad.isEmpty)).write ++ csrcBytes f).length =
        csrcEnd (datagram f pad) := by
      rw [csrcEnd_datagram hWire, List.length_append, RTPHeader.length_write, length_csrcBytes]
    have hData : datagram f pad =
        ((header f (!pad.isEmpty)).write ++ csrcBytes f) ++ (e.write ++ (f.payload ++ pad)) := by
      rw [datagram, extensionBytes, hExt, List.append_assoc]
      rfl
    rw [if_pos (by simp [header, hExt]), ← hFront, hData, readExtensionHeader_append]
    rfl

theorem payloadoffset_datagram (beyond : Nat → UInt8) :
    payloadoffset beyond (datagram f pad) = payloadOffset f := by
  rw [payloadoffset, exthdr_datagram hWire, read_datagram, csrcEnd_datagram hWire, payloadOffset]
  cases hExt : f.extension with
  | none =>
    rw [if_neg (by simp [header, hExt]), extensionBytes, hExt]
    rfl
  | some e =>
    rw [if_pos (by simp [header, hExt]), extensionBytes, hExt]
    change _ = _ + e.write.length
    rw [HeaderExtension.length_write, Nat.add_assoc]
    rfl

theorem numpadbytes_datagram : numpadbytes (datagram f pad) = pad.length := by
  rw [numpadbytes, read_datagram]
  cases hPad : pad with
  | nil => rfl
  | cons b rest =>
    obtain ⟨hShort, hLast⟩ := hWire.hPad (by simp [hPad])
    rw [hPad] at hShort hLast
    rw [if_pos (by rfl), getD_last_datagram f hLast]
    exact UInt8.toNat_ofNat_of_lt hShort

theorem parseRawPacket_datagram (beyond : Nat → UInt8) {rawpack : RTPRawPacket}
    (hRtp : rawpack.isrtp = true) (hData : rawpack.data = datagram f pad) :
    parseRawPacket beyond rawpack = .ok (layout f pad) := by
  have hSize := length_datagram f pad
  have hOffset : RTPHeader.size ≤ payloadOffset f := by unfold payloadOffset; omega
  have hCount := csrccount_header (!pad.isEmpty) hWire.hCsrcs
  have hType := payloadtype_header (!pad.isEmpty) hWire.hType
  have hLength : ((datagram f pad).length : Int) - numpadbytes (datagram f pad) -
      payloadoffset beyond (datagram f pad) = f.payload.length := by
    rw [numpadbytes_datagram hWire, payloadoffset_datagram hWire]
    omega
  unfold parseRawPacket
  simp only [hData, hLength]
  rw [read_datagram, if_neg (by rw [hRtp]; decide), if_neg (by omega), if_neg (by simp [header]),
    if_neg, if_neg, if_neg (by omega)]
  · rw [payloadoffset_datagram hWire, exthdr_datagram hWire, csrcEnd_datagram hWire, hCount,
      hType, Int.toNat_natCast]
    rfl
  · rintro ⟨hPadded, hNone⟩
    rw [numpadbytes_datagram hWire, List.length_eq_zero_iff] at hNone
    rw [hNone] at hPadded
    cases hPadded
  · rw [hType]
    exact hWire.hReport

end

theorem readExtensionHeader_inside {l : List UInt8} (beyond : Nat → UInt8) {i : Nat}
    (hi : i + HeaderExtension.headerSize ≤ l.length) :
    (l.drop i).take HeaderExtension.headerSize =
      bytes 2 (readExtensionHeader l beyond i).1.toNat ++
        bytes 2 (readExtensionHeader l beyond i).2.toNat := by
  have hDrop : 4 ≤ (l.drop i).length := by
    rw [List.length_drop]
    exact Nat.le_sub_of_add_le (Nat.add_comm i 4 ▸ hi)
  obtain ⟨b0, b1, b2, b3, rest, hRest⟩ : ∃ b0 b1 b2 b3 rest,
      l.drop i = b0 :: b1 :: b2 :: b3 :: rest := by
    match hl : l.drop i, hDrop with
    | b0 :: b1 :: b2 :: b3 :: rest, _ => exact ⟨b0, b1, b2, b3, rest, rfl⟩
  have hByte : ∀ j : Nat, l.getD (i + j) (beyond (i + j)) =
      (b0 :: b1 :: b2 :: b3 :: rest).getD j (beyond (i + j)) := by
    intro j
    rw [← hRest, List.getD_eq_getElem?_getD, List.getD_eq_getElem?_getD, List.getElem?_drop]
  have hRead : readExtensionHeader l beyond i =
      (BitVec.ofNat 16 (value [b0, b1]), BitVec.ofNat 16 (value [b2, b3])) := by
    simp only [readExtensionHeader, hByte]
    rfl
  rw [hRead, RTPHeader.bytes_ofNat_value (by decide) (by rfl),
    RTPHeader.bytes_ofNat_value (by decide) (by rfl), hRest]
  rfl

def fieldsOf (beyond : Nat → UInt8) (data : List UInt8)
    (hSize : payloadoffset beyond data ≤ data.length) : RTPFields :=
  let h := RTPHeader.read data
  { payloadtype := h.payloadtype.setWidth 8
    payload := (data.drop (payloadoffset beyond data)).take
      (data.length - numpadbytes data - payloadoffset beyond data)
    seqnr := h.sequencenumber
    timestamp := h.timestamp
    ssrc := h.ssrc
    marker := h.marker
    csrcs := (values 4 h.csrccount.toNat
      ((data.drop RTPHeader.size).take (4 * h.csrccount.toNat))).map (BitVec.ofNat 32)
    extension :=
      if hExt : h.extension then
        some {
          extid := (exthdr beyond data).1
          numwords := (exthdr beyond data).2
          data := (data.drop (csrcEnd data + HeaderExtension.headerSize)).take
            (4 * (exthdr beyond data).2.toNat)
          hLength := by
            rw [payloadoffset, if_pos hExt] at hSize
            rw [List.length_take, List.length_drop]
            omega }
      else none }

section
variable {beyond : Nat → UInt8} {data : List UInt8}

def padOf (data : List UInt8) : List UInt8 := data.drop (data.length - numpadbytes data)

theorem length_padOf (hFit : numpadbytes data ≤ data.length) :
    (padOf data).length = numpadbytes data := by
  rw [padOf, List.length_drop]
  omega

theorem padding_padOf (hFit : numpadbytes data ≤ data.length)
    (hPadded : (RTPHeader.read data).padding = true → numpadbytes data ≠ 0) :
    (!(padOf data).isEmpty) = (RTPHeader.read data).padding := by
  have hLength := length_padOf hFit
  cases hFlag : (RTPHeader.read data).padding with
  | false =>
    rw [numpadbytes, hFlag, if_neg (by decide), List.length_eq_zero_iff] at hLength
    rw [hLength]
    rfl
  | true =>
    have hNe := hPadded hFlag
    rw [← hLength] at hNe
    cases hPad : padOf data with
    | nil => rw [hPad] at hNe; exact absurd rfl hNe
    | cons b rest => rfl

theorem header_fieldsOf (hSize : payloadoffset beyond data ≤ data.length) {padding : Bool}
    (hPadding : padding = (RTPHeader.read data).padding)
    (hVersion : (RTPHeader.read data).version = rtpVersion) :
    header (fieldsOf beyond data hSize) padding = RTPHeader.read data := by
  have hCount : BitVec.ofNat 4 (fieldsOf beyond data hSize).csrcs.length =
      (RTPHeader.read data).csrccount := by
    simp [fieldsOf, values]
  have hExt : (fieldsOf beyond data hSize).extension.isSome = (RTPHeader.read data).extension := by
    cases h : (RTPHeader.read data).extension <;> simp [fieldsOf, h]
  have hType : ((RTPHeader.read data).payloadtype.setWidth 8).setWidth 7 =
      (RTPHeader.read data).payloadtype := by
    rw [BitVec.setWidth_setWidth_of_le _ (by decide), BitVec.setWidth_eq]
  rw [header, hCount, hExt, hPadding, ← hVersion]
  change RTPHeader.mk _ _ _ _ (((RTPHeader.read data).payloadtype.setWidth 8).setWidth 7) _ _ _ _ =
    RTPHeader.read data
  rw [hType]
  rfl

theorem csrcBytes_fieldsOf (hSize : payloadoffset beyond data ≤ data.length)
    (hCsrcs : csrcEnd data ≤ data.length) :
    csrcBytes (fieldsOf beyond data hSize) =
      (data.drop RTPHeader.size).take (csrcEnd data - RTPHeader.size) := by
  have hCount : csrcEnd data - RTPHeader.size = 4 * (RTPHeader.read data).csrccount.toNat := by
    rw [csrcEnd, Nat.add_sub_cancel_left]
  have hLength : ((data.drop RTPHeader.size).take (csrcEnd data - RTPHeader.size)).length =
      4 * (RTPHeader.read data).csrccount.toNat := by
    rw [List.length_take, List.length_drop, hCount]
    rw [csrcEnd] at hCsrcs
    omega
  have hSmall : ∀ l : List UInt8, ∀ m : Nat,
      ((values 4 m l).map (BitVec.ofNat 32)).map BitVec.toNat = values 4 m l := by
    intro l m
    rw [List.map_map]
    conv_rhs => rw [← List.map_id (values 4 m l)]
    apply List.map_congr_left
    intro n hn
    obtain ⟨i, -, rfl⟩ := List.mem_map.mp hn
    have hLt : value ((l.drop (4 * i)).take 4) < 256 ^ 4 :=
      Nat.lt_of_lt_of_le (value_lt _) (Nat.pow_le_pow_right (by decide) (List.length_take_le _ _))
    change (BitVec.ofNat 32 _).toNat = _
    rw [BitVec.toNat_ofNat]
    exact Nat.mod_eq_of_lt hLt
  rw [csrcBytes]
  change words 4 (((values 4 (RTPHeader.read data).csrccount.toNat _).map _).map _) = _
  rw [hSmall, ← hCount]
  rw [hCount] at hLength ⊢
  exact words_values hLength

theorem extensionBytes_fieldsOf (hSize : payloadoffset beyond data ≤ data.length) :
    extensionBytes (fieldsOf beyond data hSize) =
      (data.drop (csrcEnd data)).take (payloadoffset beyond data - csrcEnd data) := by
  cases hExt : (RTPHeader.read data).extension with
  | false =>
    have hNone : (fieldsOf beyond data hSize).extension = none := by simp [fieldsOf, hExt]
    rw [extensionBytes, hNone, payloadoffset, hExt, if_neg (by decide), Nat.sub_self,
      List.take_zero]
    rfl
  | true =>
    have hOffset : payloadoffset beyond data =
        csrcEnd data + HeaderExtension.headerSize + 4 * (exthdr beyond data).2.toNat := by
      rw [payloadoffset, if_pos hExt]
    have hHere : exthdr beyond data = readExtensionHeader data beyond (csrcEnd data) := by
      rw [exthdr, if_pos hExt]
    have hHeader := readExtensionHeader_inside beyond (l := data) (i := csrcEnd data) (by omega)
    rw [← hHere] at hHeader
    have hSpan : payloadoffset beyond data - csrcEnd data =
        HeaderExtension.headerSize + 4 * (exthdr beyond data).2.toNat := by omega
    rw [hSpan, List.take_add, hHeader, List.drop_drop, extensionBytes, fieldsOf, dif_pos hExt]
    rfl

theorem payload_fieldsOf (hSize : payloadoffset beyond data ≤ data.length)
    (hFit : numpadbytes data + payloadoffset beyond data ≤ data.length) :
    (fieldsOf beyond data hSize).payload ++ padOf data =
      data.drop (payloadoffset beyond data) := by
  have hPad : padOf data = (data.drop (payloadoffset beyond data)).drop
      (data.length - numpadbytes data - payloadoffset beyond data) := by
    rw [padOf, List.drop_drop]
    congr 1
    omega
  rw [hPad]
  exact List.take_append_drop _ _

theorem csrcEnd_le_payloadoffset (beyond : Nat → UInt8) (data : List UInt8) :
    csrcEnd data ≤ payloadoffset beyond data := by
  rw [payloadoffset]
  split
  · omega
  · exact Nat.le_refl _

/-- Fields and padding put together again: the datagram they were read from. -/
theorem datagram_fieldsOf (hSize : payloadoffset beyond data ≤ data.length)
    (hFit : numpadbytes data + payloadoffset beyond data ≤ data.length)
    (hVersion : (RTPHeader.read data).version = rtpVersion)
    (hPadded : (RTPHeader.read data).padding = true → numpadbytes data ≠ 0) :
    datagram (fieldsOf beyond data hSize) (padOf data) = data := by
  have hEnd := csrcEnd_le_payloadoffset beyond data
  have hHeader : RTPHeader.size ≤ csrcEnd data := Nat.le_add_right _ _
  rw [datagram, header_fieldsOf hSize (padding_padOf (by omega) hPadded) hVersion,
    RTPHeader.write_read (by omega), csrcBytes_fieldsOf hSize (by omega),
    extensionBytes_fieldsOf hSize, payload_fieldsOf hSize hFit]
  have hRest : (data.drop (csrcEnd data)).take (payloadoffset beyond data - csrcEnd data) ++
      data.drop (payloadoffset beyond data) = data.drop (csrcEnd data) := by
    have h := List.take_append_drop (payloadoffset beyond data - csrcEnd data)
      (data.drop (csrcEnd data))
    rwa [List.drop_drop, Nat.add_sub_cancel' hEnd] at h
  have hCsrcs : (data.drop RTPHeader.size).take (csrcEnd data - RTPHeader.size) ++
      data.drop (csrcEnd data) = data.drop RTPHeader.size := by
    have h := List.take_append_drop (csrcEnd data - RTPHeader.size) (data.drop RTPHeader.size)
    rwa [List.drop_drop, Nat.add_sub_cancel' hHeader] at h
  rw [hRest, hCsrcs, List.take_append_drop]

theorem wire_fieldsOf (hSize : payloadoffset beyond data ≤ data.length)
    (hFit : numpadbytes data + payloadoffset beyond data ≤ data.length)
    (hReport : ¬ ((RTPHeader.read data).marker = true ∧
      ((RTPHeader.read data).payloadtype.toNat = rtcpTypeSR % 128 ∨
        (RTPHeader.read data).payloadtype.toNat = rtcpTypeRR % 128))) :
    Wire (fieldsOf beyond data hSize) (padOf data) where
  hCsrcs := by
    have hCount := (RTPHeader.read data).csrccount.isLt
    simp only [fieldsOf, List.length_map, values, List.length_range]
    exact Nat.le_of_lt_succ hCount
  hType := by
    have hType := (RTPHeader.read data).payloadtype.isLt
    simp only [fieldsOf, BitVec.toNat_setWidth]
    omega
  hReport := by
    have hType := (RTPHeader.read data).payloadtype.isLt
    have hSame : (fieldsOf beyond data hSize).payloadtype.toNat =
        (RTPHeader.read data).payloadtype.toNat := by
      simp only [fieldsOf, BitVec.toNat_setWidth]
      omega
    rw [hSame]
    exact hReport
  hPad := by
    intro hNe
    have hLength : (padOf data).length = numpadbytes data := length_padOf (by omega)
    have hPositive : 0 < numpadbytes data := hLength ▸ List.length_pos_iff.mpr hNe
    have hPadding : (RTPHeader.read data).padding = true := by
      cases h : (RTPHeader.read data).padding with
      | false =>
        rw [numpadbytes, h, if_neg (by decide)] at hPositive
        exact absurd hPositive (Nat.lt_irrefl 0)
      | true => rfl
    have hByte : (data.getD (data.length - 1) 0).toNat = numpadbytes data := by
      rw [numpadbytes, if_pos hPadding]
    have hLast : (padOf data).getLast? = some (data.getD (data.length - 1) 0) := by
      rw [padOf, List.getLast?_drop, if_neg (by omega), List.getLast?_eq_getElem?,
        List.getD_eq_getElem?_getD, List.getElem?_eq_getElem (by omega)]
      rfl
    constructor
    · rw [hLength, ← hByte]
      exact UInt8.toNat_lt _
    · rw [hLast, hLength, ← hByte, UInt8.ofNat_toNat]

end

/-- The datagrams that are accepted, and the packet that each of them becomes. -/
theorem parseRawPacket_eq_ok_iff (beyond : Nat → UInt8) (rawpack : RTPRawPacket) (p : RTPPacket) :
    parseRawPacket beyond rawpack = .ok p ↔
      rawpack.isrtp = true ∧
        ∃ f pad, Wire f pad ∧ rawpack.data = datagram f pad ∧ p = layout f pad := by
  constructor
  · intro h
    have hParsed := h
    unfold parseRawPacket at h
    simp only at h
    split at h
    · cases h
    rename_i hRtp
    split at h
    · cases h
    split at h
    · cases h
    rename_i hVersion
    split at h
    · cases h
    rename_i hReport
    split at h
    · cases h
    rename_i hPadded
    split at h
    · cases h
    rename_i hLength
    have hFit : numpadbytes rawpack.data + payloadoffset beyond rawpack.data ≤
        rawpack.data.length := by omega
    have hSize : payloadoffset beyond rawpack.data ≤ rawpack.data.length := by omega
    have hWire := wire_fieldsOf hSize hFit hReport
    have hData := datagram_fieldsOf hSize hFit (not_not.mp hVersion)
      (fun hFlag hNone => hPadded ⟨hFlag, hNone⟩)
    have hRtp : rawpack.isrtp = true := Bool.eq_true_of_not_eq_false hRtp
    rw [parseRawPacket_datagram hWire beyond hRtp hData.symm] at hParsed
    exact ⟨hRtp, _, _, hWire, hData.symm, (Except.ok.inj hParsed).symm⟩
  · rintro ⟨hRtp, f, pad, hWire, hData, rfl⟩
    exact parseRawPacket_datagram hWire beyond hRtp hData

theorem parseRawPacket_error {beyond : Nat → UInt8} {rawpack : RTPRawPacket} {e : RTPPacketError}
    (h : parseRawPacket beyond rawpack = .error e) : e = .invalidPacket := by
  unfold parseRawPacket at h
  simp only at h
  repeat' split at h
  all_goals cases h
  all_goals rfl

/-- The length of an extension is read before it is known to lie in the datagram; whatever it is
read as out there, the datagram fares the same. -/
theorem parseRawPacket_beyond (beyond beyond' : Nat → UInt8) (rawpack : RTPRawPacket) :
    parseRawPacket beyond rawpack = parseRawPacket beyond' rawpack := by
  cases h : parseRawPacket beyond rawpack with
  | ok p =>
    have hAccepted := (parseRawPacket_eq_ok_iff beyond rawpack p).mp h
    exact ((parseRawPacket_eq_ok_iff beyond' rawpack p).mpr hAccepted).symm
  | error e =>
    cases h' : parseRawPacket beyond' rawpack with
    | ok p =>
      have hAccepted := (parseRawPacket_eq_ok_iff beyond' rawpack p).mp h'
      rw [(parseRawPacket_eq_ok_iff beyond rawpack p).mpr hAccepted] at h
      cases h
    | error e' => rw [parseRawPacket_error h, parseRawPacket_error h']

end LocalCall.Jrtp
