import LocalCall.Library.Transition
import LocalCall.Jrtp.CompoundPacket

/-! # The builder of compound packets

`RTCPCompoundPacketBuilder` gathers reports, source descriptions, data of the application and
leavings, and `EndBuild` writes them into one datagram, with at most 31 of a kind in a packet. A
receiver reads back what was gathered.
-/
namespace LocalCall.Jrtp
set_option autoImplicit false

open Transition Piece

inductive CompPackError where
  | alreadyBuilding | alreadyBuilt | maxPacketSizeTooSmall | bufferSizeTooSmall | notBuilding
  | alreadyGotReport | notEnoughBytesLeft | reportNotStarted | noCurrentSource | invalidItemType
  | tooManySSRCs | illegalSubtype | illegalAppDataLength | appDataLenTooBig | noReportPresent

def rtpMinPacketSize : Nat := 600

/-- A subtraction of two numbers of the type `size_t` of a 32-bit machine. -/
def sizeSub (a b : Nat) : Nat := (a + 2 ^ 32 - b % 2 ^ 32) % 2 ^ 32

abbrev Text := { l : List UInt8 // l.length < 256 }

/-- The first `headerlength` bytes of `headerdata` are used. -/
structure Report where
  isSR : Bool
  headerdata : List UInt8
  headerlength : Nat
  reportblocks : List (List UInt8)

structure SDESSource where
  ssrc : BitVec 32
  items : List (List UInt8)
  totalitemsize : Nat

def packetsFor (n : Nat) : Nat := if n % 31 ≠ 0 then n / 31 + 1 else n / 31

namespace Report

def clear (r : Report) : Report := { r with reportblocks := [], isSR := false, headerlength := 0 }

def neededFor (r : Report) (n : Nat) : Nat :=
  n * 24 + packetsFor n * (4 + 4) + (if r.isSR then 20 else 0)

def neededBytes (r : Report) : Nat :=
  if r.reportblocks.length = 0 then
    if r.headerlength = 0 then 0 else 4 + r.headerlength
  else r.neededFor r.reportblocks.length

def neededBytesWithExtraReportBlock (r : Report) : Nat := r.neededFor (r.reportblocks.length + 1)

end Report

namespace SDESSource

/-- With `n` bytes of items: the zero behind them, the alignment, and the SSRC. -/
def neededFor (n : Nat) : Nat :=
  let x := n + 1
  let r := x % 4
  (if r ≠ 0 then x + (4 - r) else x) + 4

def neededBytes (s : SDESSource) : Nat := neededFor s.totalitemsize

def neededBytesWithExtraItem (itemdatalength : Nat) (s : SDESSource) : Nat :=
  neededFor (s.totalitemsize + 2 + itemdatalength)

def addItem (buf : List UInt8) (s : SDESSource) : SDESSource :=
  { s with totalitemsize := s.totalitemsize + buf.length, items := s.items ++ [buf] }

end SDESSource

/-! ## The source descriptions, the last of which is the current one -/

namespace SDES

def neededBytes (sources : List SDESSource) : Nat :=
  if sources = [] then 0
  else (sources.map SDESSource.neededBytes).sum + packetsFor sources.length * 4

def neededBytesWithExtraItem (itemdatalength : Nat) (sources : List SDESSource) : Nat :=
  match sources.getLast? with
  | none => 0
  | some current =>
    (sources.dropLast.map SDESSource.neededBytes).sum +
      current.neededBytesWithExtraItem itemdatalength + packetsFor sources.length * 4

/-- Nothing is needed for the first source. -/
def neededBytesWithExtraSource (sources : List SDESSource) : Nat :=
  if sources = [] then 0
  else (sources.map SDESSource.neededBytes).sum + 4 * 2 + packetsFor (sources.length + 1) * 4

def addSSRC (ssrc : BitVec 32) (sources : List SDESSource) : List SDESSource :=
  sources ++ [⟨ssrc, [], 0⟩]

def addItem (buf : List UInt8) (sources : List SDESSource) : List SDESSource :=
  match sources.getLast? with
  | none => []
  | some current => sources.dropLast ++ [current.addItem buf]

end SDES

/-- `rtcppacklist` is the list of the packets, which are made into objects as a receiver makes
them. -/
structure RTCPCompoundPacketBuilder where
  compoundpacket : Option (List UInt8)
  compoundpacketlength : Nat
  rtcppacklist : List (List UInt8)
  maximumpacketsize : Nat
  external : Bool
  arebuilding : Bool
  report : Report
  sdes : List SDESSource
  byepackets : List (List UInt8)
  byesize : Nat
  apppackets : List (List UInt8)
  appsize : Nat

def builtHeader (packettype count length : Nat) : RTCPCommonHeader where
  count := BitVec.ofNat 5 count
  padding := false
  version := rtpVersion
  packettype := BitVec.ofNat 8 packettype
  length := BitVec.ofNat 16 (length / 4 - 1)

def builtPacket (packettype count : Nat) (body : List UInt8) : List UInt8 :=
  (builtHeader packettype count (4 + body.length)).write ++ body

/-- The loop of `EndBuild` over the report blocks; the flag is set for the first packet of a sender
report. -/
def reportPackets (headerdata : List UInt8) (headerlength : Nat) (isSR : Bool)
    (blocks : List (List UInt8)) : List (List UInt8) :=
  (if isSR then
    builtPacket rtcpTypeSR (blocks.take 31).length
      (headerdata.take headerlength ++ (blocks.take 31).flatten)
  else
    builtPacket rtcpTypeRR (blocks.take 31).length
      (headerdata.take 4 ++ (blocks.take 31).flatten)) ::
  if blocks.drop 31 = [] then []
  else reportPackets headerdata headerlength false (blocks.drop 31)
termination_by blocks.length
decreasing_by
  rename_i hMore
  rw [List.drop_eq_nil_iff] at hMore
  rw [List.length_drop]
  omega

def writeSources : Nat → List SDESSource → List UInt8
  | _, [] => []
  | offset, s :: sources =>
    let offset := offset + 4 + s.items.flatten.length + 1
    let r := offset % 4
    let num := if r ≠ 0 then 4 - r else 0
    word32.write s.ssrc ++ (s.items.flatten ++ 0 :: List.replicate num 0) ++
      writeSources (offset + num) sources

def sdesPackets (sources : List SDESSource) : List (List UInt8) :=
  builtPacket rtcpTypeSDES (sources.take 31).length (writeSources 4 (sources.take 31)) ::
  if sources.drop 31 = [] then [] else sdesPackets (sources.drop 31)
termination_by sources.length
decreasing_by
  rename_i hMore
  rw [List.drop_eq_nil_iff] at hMore
  rw [List.length_drop]
  omega

/-- The block holds the low 24 bits of `packetslost`. -/
def reportBlock (ssrc : BitVec 32) (fractionlost : UInt8)
    (packetslost exthighestseq jitter lsr dlsr : BitVec 32) : RTCPReceiverReport :=
  ⟨ssrc, fractionlost, packetslost.setWidth 24, exthighestseq, jitter, lsr, dlsr⟩

def itemId : SDESItem → UInt8
  | .cname => 1
  | .name => 2
  | .email => 3
  | .phone => 4
  | .location => 5
  | .tool => 6
  | .note => 7

def byeSize (numssrcs reasonlength : Nat) : Nat × Nat :=
  let packsize := 4 + 4 * numssrcs
  if 0 < reasonlength then
    let packsize := packsize + 1 + reasonlength
    let r := packsize % 4
    if r ≠ 0 then (packsize + (4 - r), 4 - r) else (packsize, 0)
  else (packsize, 0)

def byePacket (ssrcs : List (BitVec 32)) (reasondata : Text) : List UInt8 :=
  let (packsize, zerobytes) := byeSize ssrcs.length reasondata.1.length
  let last :=
    if reasondata.1.length ≠ 0 then
      UInt8.ofNat reasondata.1.length :: (reasondata.1 ++ List.replicate zerobytes 0)
    else []
  (builtHeader rtcpTypeBYE ssrcs.length packsize).write ++ (ssrcs.flatMap word32.write ++ last)

def appPacket (subtype : UInt8) (ssrc name : BitVec 32) (appdata : List UInt8) : List UInt8 :=
  (builtHeader rtcpTypeAPP subtype.toNat (4 + 4 * 2 + appdata.length)).write ++
    (word32.write ssrc ++ (word32.write name ++ appdata))

namespace RTCPCompoundPacketBuilder

def new : RTCPCompoundPacketBuilder :=
  ⟨none, 0, [], 0, false, false, ⟨false, [], 0, []⟩, [], [], 0, [], 0⟩

def clearBuildBuffers (b : RTCPCompoundPacketBuilder) : RTCPCompoundPacketBuilder :=
  { b with
    report := b.report.clear
    sdes := []
    byepackets := []
    apppackets := []
    byesize := 0
    appsize := 0 }

def initBuild (external : Bool) (size : BitVec 32) (b : RTCPCompoundPacketBuilder) :
    Except CompPackError RTCPCompoundPacketBuilder :=
  if b.arebuilding then .error .alreadyBuilding
  else if b.compoundpacket.isSome then .error .alreadyBuilt
  else if size.toNat < rtpMinPacketSize then
    .error (if external then .bufferSizeTooSmall else .maxPacketSizeTooSmall)
  else
    .ok { b with
      maximumpacketsize := size.toNat
      external
      byesize := 0
      appsize := 0
      arebuilding := true }

def startSenderReport (senderssrc : BitVec 32) (info : RTCPSenderReport)
    (b : RTCPCompoundPacketBuilder) : Except CompPackError RTCPCompoundPacketBuilder :=
  if !b.arebuilding then .error .notBuilding
  else if b.report.headerlength ≠ 0 then .error .alreadyGotReport
  else
    let totalsize := b.byesize + b.appsize + SDES.neededBytes b.sdes
    let sizeleft := sizeSub b.maximumpacketsize totalsize
    if sizeleft < 4 + 4 + 20 then .error .notEnoughBytesLeft
    else
      .ok { b with report := { b.report with
        headerlength := 4 + 20
        isSR := true
        headerdata := word32.write senderssrc ++ RTCPSenderReport.record.write info } }

def startReceiverReport (senderssrc : BitVec 32) (b : RTCPCompoundPacketBuilder) :
    Except CompPackError RTCPCompoundPacketBuilder :=
  if !b.arebuilding then .error .notBuilding
  else if b.report.headerlength ≠ 0 then .error .alreadyGotReport
  else
    let totalsize := b.byesize + b.appsize + SDES.neededBytes b.sdes
    let sizeleft := sizeSub b.maximumpacketsize totalsize
    if sizeleft < 4 + 4 then .error .notEnoughBytesLeft
    else
      .ok { b with report := { b.report with
        headerlength := 4
        isSR := false
        headerdata := word32.write senderssrc } }

def addReportBlock (ssrc : BitVec 32) (fractionlost : UInt8)
    (packetslost exthighestseq jitter lsr dlsr : BitVec 32) (b : RTCPCompoundPacketBuilder) :
    Except CompPackError RTCPCompoundPacketBuilder :=
  if !b.arebuilding then .error .notBuilding
  else if b.report.headerlength = 0 then .error .reportNotStarted
  else
    let totalothersize := b.byesize + b.appsize + SDES.neededBytes b.sdes
    if b.maximumpacketsize < totalothersize + b.report.neededBytesWithExtraReportBlock then
      .error .notEnoughBytesLeft
    else
      let rr := reportBlock ssrc fractionlost packetslost exthighestseq jitter lsr dlsr
      .ok { b with report := { b.report with
        reportblocks := b.report.reportblocks ++ [RTCPReceiverReport.record.write rr] } }

def addSDESSource (ssrc : BitVec 32) (b : RTCPCompoundPacketBuilder) :
    Except CompPackError RTCPCompoundPacketBuilder :=
  if !b.arebuilding then .error .notBuilding
  else
    let totalotherbytes := b.byesize + b.appsize + b.report.neededBytes
    if b.maximumpacketsize < totalotherbytes + SDES.neededBytesWithExtraSource b.sdes then
      .error .notEnoughBytesLeft
    else .ok { b with sdes := SDES.addSSRC ssrc b.sdes }

def addSDESNormalItem (t : SDESType) (itemdata : Text) (b : RTCPCompoundPacketBuilder) :
    Except CompPackError RTCPCompoundPacketBuilder :=
  if !b.arebuilding then .error .notBuilding
  else if b.sdes = [] then .error .noCurrentSource
  else
    match t with
    | .item i =>
      let totalotherbytes := b.byesize + b.appsize + b.report.neededBytes
      if b.maximumpacketsize <
          SDES.neededBytesWithExtraItem itemdata.1.length b.sdes + totalotherbytes then
        .error .notEnoughBytesLeft
      else
        let buf := itemId i :: UInt8.ofNat itemdata.1.length :: itemdata.1
        .ok { b with sdes := SDES.addItem buf b.sdes }
    | _ => .error .invalidItemType

def addBYEPacket (ssrcs : List (BitVec 32)) (reasondata : Text) (b : RTCPCompoundPacketBuilder) :
    Except CompPackError RTCPCompoundPacketBuilder :=
  if !b.arebuilding then .error .notBuilding
  else if 31 < ssrcs.length then .error .tooManySSRCs
  else
    let packsize := (byeSize ssrcs.length reasondata.1.length).1
    let totalotherbytes :=
      b.appsize + b.byesize + SDES.neededBytes b.sdes + b.report.neededBytes
    if b.maximumpacketsize < totalotherbytes + packsize then .error .notEnoughBytesLeft
    else
      .ok { b with
        byepackets := b.byepackets ++ [byePacket ssrcs reasondata]
        byesize := b.byesize + packsize }

def addAPPPacket (subtype : UInt8) (ssrc name : BitVec 32) (appdata : List UInt8)
    (b : RTCPCompoundPacketBuilder) : Except CompPackError RTCPCompoundPacketBuilder :=
  if !b.arebuilding then .error .notBuilding
  else if 31 < subtype.toNat then .error .illegalSubtype
  else if appdata.length % 4 ≠ 0 then .error .illegalAppDataLength
  else
    let appdatawords := appdata.length / 4
    if 65535 < appdatawords + 2 then .error .appDataLenTooBig
    else
      let packsize := 4 + 4 * 2 + appdata.length
      let totalotherbytes :=
        b.appsize + b.byesize + SDES.neededBytes b.sdes + b.report.neededBytes
      if b.maximumpacketsize < totalotherbytes + packsize then .error .notEnoughBytesLeft
      else
        .ok { b with
          apppackets := b.apppackets ++ [appPacket subtype ssrc name appdata]
          appsize := b.appsize + packsize }

def totalSize (b : RTCPCompoundPacketBuilder) : Nat :=
  b.appsize + b.byesize + b.report.neededBytes + SDES.neededBytes b.sdes

def endBuild (b : RTCPCompoundPacketBuilder) : Except CompPackError RTCPCompoundPacketBuilder :=
  if !b.arebuilding then .error .notBuilding
  else if b.report.headerlength = 0 then .error .noReportPresent
  else
    let packets :=
      reportPackets b.report.headerdata b.report.headerlength b.report.isSR
        b.report.reportblocks ++
      (if b.sdes = [] then [] else sdesPackets b.sdes) ++ b.apppackets ++ b.byepackets
    .ok { b.clearBuildBuffers with
      compoundpacket := some packets.flatten
      compoundpacketlength := b.totalSize
      rtcppacklist := packets
      arebuilding := false }

end RTCPCompoundPacketBuilder

inductive CompoundCall where
  | initBuild (external : Bool) (size : BitVec 32)
  | startSenderReport (senderssrc : BitVec 32) (info : RTCPSenderReport)
  | startReceiverReport (senderssrc : BitVec 32)
  | addReportBlock (ssrc : BitVec 32) (fractionlost : UInt8)
      (packetslost exthighestseq jitter lsr dlsr : BitVec 32)
  | addSDESSource (ssrc : BitVec 32)
  | addSDESNormalItem (t : SDESType) (itemdata : Text)
  | addBYEPacket (ssrcs : List (BitVec 32)) (reasondata : Text)
  | addAPPPacket (subtype : UInt8) (ssrc name : BitVec 32) (appdata : List UInt8)
  | endBuild

def RTCPCompoundPacketBuilder.perform (b : RTCPCompoundPacketBuilder) :
    CompoundCall → Except CompPackError RTCPCompoundPacketBuilder
  | .initBuild external size => b.initBuild external size
  | .startSenderReport senderssrc info => b.startSenderReport senderssrc info
  | .startReceiverReport senderssrc => b.startReceiverReport senderssrc
  | .addReportBlock ssrc fractionlost packetslost exthighestseq jitter lsr dlsr =>
    b.addReportBlock ssrc fractionlost packetslost exthighestseq jitter lsr dlsr
  | .addSDESSource ssrc => b.addSDESSource ssrc
  | .addSDESNormalItem t itemdata => b.addSDESNormalItem t itemdata
  | .addBYEPacket ssrcs reasondata => b.addBYEPacket ssrcs reasondata
  | .addAPPPacket subtype ssrc name appdata => b.addAPPPacket subtype ssrc name appdata
  | .endBuild => b.endBuild

/-! ## The bytes that are needed -/

theorem sizeSub_of_le {a b : Nat} (ha : a < 2 ^ 32) (h : b ≤ a) : sizeSub a b = a - b := by
  unfold sizeSub
  omega

theorem packetsFor_add (n : Nat) : packetsFor (n + 31) = packetsFor n + 1 := by
  unfold packetsFor
  split <;> split <;> omega

theorem packetsFor_of_le {n : Nat} (hPos : 0 < n) (h : n ≤ 31) : packetsFor n = 1 := by
  unfold packetsFor
  split <;> omega

namespace SDES

theorem neededBytes_addSSRC (ssrc : BitVec 32) {sources : List SDESSource} (h : sources ≠ []) :
    neededBytes (addSSRC ssrc sources) = neededBytesWithExtraSource sources := by
  have hAfter : addSSRC ssrc sources ≠ [] := List.append_ne_nil_of_right_ne_nil _ (by simp)
  have hNew : SDESSource.neededBytes ⟨ssrc, [], 0⟩ = 4 * 2 := rfl
  rw [neededBytes, if_neg hAfter, neededBytesWithExtraSource, if_neg h, addSSRC, List.map_append,
    List.sum_append, List.length_append, List.map_singleton, List.sum_singleton, hNew]
  rfl

theorem neededBytes_addItem (buf : List UInt8) (n : Nat) (hLength : buf.length = 2 + n)
    {sources : List SDESSource} (h : sources ≠ []) :
    neededBytes (addItem buf sources) = neededBytesWithExtraItem n sources := by
  obtain ⟨front, current, rfl⟩ := List.eq_nil_or_concat' sources |>.resolve_left h
  have hAdded : addItem buf (front ++ [current]) = front ++ [current.addItem buf] := by
    rw [addItem, List.getLast?_concat, List.dropLast_concat]
  have hNeeded : (current.addItem buf).neededBytes = current.neededBytesWithExtraItem n := by
    change SDESSource.neededFor (current.totalitemsize + buf.length) = _
    rw [hLength, ← Nat.add_assoc]
    rfl
  rw [hAdded, neededBytes, if_neg (List.append_ne_nil_of_right_ne_nil _ (by simp)),
    neededBytesWithExtraItem, List.getLast?_concat, List.dropLast_concat, List.map_append,
    List.sum_append, List.map_singleton, List.sum_singleton, hNeeded, List.length_append,
    List.length_append]
  rfl

end SDES

theorem length_builtPacket (packettype count : Nat) (body : List UInt8) :
    (builtPacket packettype count body).length = 4 + body.length := by
  rw [builtPacket, List.length_append, RTCPCommonHeader.length_write]
  rfl

theorem length_flatten_of_forall {α : Type} {n : Nat} {bs : List (List α)}
    (h : ∀ b ∈ bs, b.length = n) : bs.flatten.length = bs.length * n := by
  induction bs with
  | nil => exact (Nat.zero_mul n).symm
  | cons b bs ih =>
    rw [List.flatten_cons, List.length_append, h b List.mem_cons_self,
      ih fun b' hb' => h b' (List.mem_cons_of_mem b hb'), List.length_cons, Nat.succ_mul,
      Nat.add_comm]

/-- The report packets are as long as `NeededBytes` says. -/
theorem length_reportPackets {headerdata : List UInt8} {headerlength : Nat} {isSR : Bool}
    {blocks : List (List UInt8)} (hBlocks : ∀ b ∈ blocks, b.length = 24)
    (hShort : (headerdata.take 4).length = 4)
    (hData : isSR = true → (headerdata.take headerlength).length = 24) :
    (reportPackets headerdata headerlength isSR blocks).flatten.length =
      blocks.length * 24 + (if blocks.length = 0 then 1 else packetsFor blocks.length) * 8 +
        (if isSR then 20 else 0) := by
  fun_induction reportPackets headerdata headerlength isSR blocks with
  | case1 isSR blocks ih =>
    have hTake : (blocks.take 31).flatten.length = (blocks.take 31).length * 24 :=
      length_flatten_of_forall fun b hb => hBlocks b (List.mem_of_mem_take hb)
    have hFirst : (if isSR = true then
        builtPacket rtcpTypeSR (blocks.take 31).length
          (headerdata.take headerlength ++ (blocks.take 31).flatten)
      else
        builtPacket rtcpTypeRR (blocks.take 31).length
          (headerdata.take 4 ++ (blocks.take 31).flatten)).length =
        8 + (blocks.take 31).length * 24 + (if isSR then 20 else 0) := by
      cases isSR with
      | true =>
        rw [if_pos rfl, if_pos rfl, length_builtPacket, List.length_append, hData rfl, hTake]
        omega
      | false =>
        rw [if_neg Bool.false_ne_true, if_neg Bool.false_ne_true, length_builtPacket,
          List.length_append, hShort, hTake]
        omega
    rw [List.flatten_cons, List.length_append, hFirst, List.length_take]
    by_cases hLast : blocks.drop 31 = []
    · rw [if_pos hLast]
      rw [List.drop_eq_nil_iff] at hLast
      rw [Nat.min_eq_right hLast, List.flatten_nil, List.length_nil]
      by_cases hNone : blocks.length = 0
      · rw [if_pos hNone]
        omega
      · rw [if_neg hNone, packetsFor_of_le (by omega) hLast]
        omega
    · rw [if_neg hLast]
      have hMore := hLast
      have hRest := ih hMore (fun b hb => hBlocks b (List.mem_of_mem_drop hb)) (by rintro ⟨⟩)
      rw [List.drop_eq_nil_iff, Nat.not_le] at hMore
      have hSplit : blocks.length = blocks.length - 31 + 31 := by omega
      have hCount : packetsFor blocks.length = packetsFor (blocks.length - 31) + 1 := by
        conv_lhs => rw [hSplit, packetsFor_add]
      rw [hRest, List.length_drop, if_neg (by omega : ¬ blocks.length - 31 = 0),
        if_neg (by omega : ¬ blocks.length = 0), hCount, if_neg Bool.false_ne_true]
      omega

/-- What a source takes in a packet, wherever it stands in it. -/
theorem length_writeSources {offset : Nat} {sources : List SDESSource} (hOffset : offset % 4 = 0)
    (hItems : ∀ s ∈ sources, s.items.flatten.length = s.totalitemsize) :
    (writeSources offset sources).length = (sources.map SDESSource.neededBytes).sum ∧
      (writeSources offset sources).length % 4 = 0 := by
  induction sources generalizing offset with
  | nil => exact ⟨rfl, rfl⟩
  | cons s sources ih =>
    have hHere := hItems s List.mem_cons_self
    have hNeeded : s.neededBytes =
        4 + (s.items.flatten.length + 1 + (4 - (s.items.flatten.length + 1) % 4) % 4) := by
      rw [SDESSource.neededBytes, SDESSource.neededFor, ← hHere]
      split <;> omega
    have hNum : (if (offset + 4 + s.items.flatten.length + 1) % 4 ≠ 0 then
        4 - (offset + 4 + s.items.flatten.length + 1) % 4 else 0) =
          (4 - (s.items.flatten.length + 1) % 4) % 4 := by
      split <;> omega
    obtain ⟨hRest, hFour⟩ := @ih (offset + 4 + s.items.flatten.length + 1 +
      (4 - (s.items.flatten.length + 1) % 4) % 4) (by omega)
      fun t ht => hItems t (List.mem_cons_of_mem s ht)
    have hWord : (word32.write s.ssrc).length = 4 := word32.length_write _
    have hWrite : (writeSources offset (s :: sources)).length = s.neededBytes +
        (writeSources (offset + 4 + s.items.flatten.length + 1 +
          (4 - (s.items.flatten.length + 1) % 4) % 4) sources).length := by
      rw [writeSources, hNum, List.length_append, List.length_append, List.length_append,
        List.length_cons, List.length_replicate, hWord, hNeeded]
      omega
    rw [hWrite, List.map_cons, List.sum_cons, hRest]
    rw [hRest] at hFour
    exact ⟨rfl, by omega⟩

theorem length_sdesPackets {sources : List SDESSource} (hSome : sources ≠ [])
    (hItems : ∀ s ∈ sources, s.items.flatten.length = s.totalitemsize) :
    (sdesPackets sources).flatten.length = SDES.neededBytes sources := by
  fun_induction sdesPackets sources with
  | case1 sources ih =>
    have hPos : 0 < sources.length := List.length_pos_iff.mpr hSome
    have hHere := (@length_writeSources 4 (sources.take 31) rfl
      fun s hs => hItems s (List.mem_of_mem_take hs)).1
    rw [List.flatten_cons, List.length_append, length_builtPacket, hHere, SDES.neededBytes,
      if_neg hSome]
    split
    · rename_i hLast
      rw [List.drop_eq_nil_iff] at hLast
      rw [List.take_of_length_le hLast, packetsFor_of_le hPos hLast, List.flatten_nil,
        List.length_nil]
      omega
    · rename_i hMore
      have hRest := ih hMore hMore fun s hs => hItems s (List.mem_of_mem_drop hs)
      have hSum : (sources.map SDESSource.neededBytes).sum =
          ((sources.take 31).map SDESSource.neededBytes).sum +
            ((sources.drop 31).map SDESSource.neededBytes).sum := by
        conv_lhs => rw [← List.take_append_drop 31 sources]
        rw [List.map_append, List.sum_append]
      rw [hRest, SDES.neededBytes, if_neg hMore, hSum]
      rw [List.drop_eq_nil_iff, Nat.not_le] at hMore
      have hSplit : sources.length = sources.length - 31 + 31 := by omega
      have hCount : packetsFor sources.length = packetsFor (sources.length - 31) + 1 := by
        conv_lhs => rw [hSplit, packetsFor_add]
      rw [hCount, List.length_drop]
      omega

end LocalCall.Jrtp
