import Mathlib.Algebra.Ring.Int.Defs
import LocalCall.Jrtp.CompoundBuilder

/-! # From the builder of compound packets to a receiver

`Gathered` is what the builder is for: what the calls gave it, in the order in which they came, and
what the packets made of it say. Over every run of calls a receiver of the datagram that is built
reads just that.
-/
namespace LocalCall.Jrtp
set_option autoImplicit false

open Transition Piece

/-- The arguments of `AddReportBlock`. -/
structure GivenBlock where
  ssrc : BitVec 32
  fractionlost : UInt8
  packetslost : BitVec 32
  exthighestseq : BitVec 32
  jitter : BitVec 32
  lsr : BitVec 32
  dlsr : BitVec 32

structure Gathered where
  report : Option (BitVec 32 × Option RTCPSenderReport)
  blocks : List GivenBlock
  sources : List (BitVec 32 × List (SDESItem × Text))
  apps : List (UInt8 × BitVec 32 × BitVec 32 × List UInt8)
  byes : List (List (BitVec 32) × Text)

namespace Gathered

def new : Gathered := ⟨none, [], [], [], []⟩

/-- What a call adds that does not fail. -/
def add (g : Gathered) : CompoundCall → Gathered
  | .initBuild _ _ => g
  | .startSenderReport senderssrc info => { g with report := some (senderssrc, some info) }
  | .startReceiverReport senderssrc => { g with report := some (senderssrc, none) }
  | .addReportBlock ssrc fractionlost packetslost exthighestseq jitter lsr dlsr =>
    { g with blocks := g.blocks ++
        [⟨ssrc, fractionlost, packetslost, exthighestseq, jitter, lsr, dlsr⟩] }
  | .addSDESSource ssrc => { g with sources := g.sources ++ [(ssrc, [])] }
  | .addSDESNormalItem (.item i) itemdata =>
    { g with sources := g.sources.dropLast ++
        (g.sources.getLast?.map fun x => (x.1, x.2 ++ [(i, itemdata)])).toList }
  | .addSDESNormalItem _ _ => g
  | .addBYEPacket ssrcs reasondata => { g with byes := g.byes ++ [(ssrcs, reasondata)] }
  | .addAPPPacket subtype ssrc name appdata =>
    { g with apps := g.apps ++ [(subtype, ssrc, name, appdata)] }
  | .endBuild => g

/-- Of the number of lost packets there is room for the low 24 bits. -/
def blockContents (x : GivenBlock) : RTCPReceiverReport where
  ssrc := x.ssrc
  fractionlost := x.fractionlost
  packetslost := x.packetslost.setWidth 24
  exthighseqnr := x.exthighestseq
  jitter := x.jitter
  lsr := x.lsr
  dlsr := x.dlsr

/-- The first packet carries the report on the sender, and each at most 31 blocks. -/
def reportContents (senderssrc : BitVec 32) (info : Option RTCPSenderReport)
    (blocks : List RTCPReceiverReport) : List RTCPContents :=
  (match info with
    | some info => .sr senderssrc info (blocks.take 31)
    | none => .rr senderssrc (blocks.take 31)) ::
  if (blocks.drop 31).isEmpty then [] else reportContents senderssrc none (blocks.drop 31)
termination_by blocks.length
decreasing_by
  rename_i hMore
  rw [List.isEmpty_iff, List.drop_eq_nil_iff] at hMore
  rw [List.length_drop]
  omega

def sourceContents (x : BitVec 32 × List (SDESItem × Text)) :
    BitVec 32 × List (SDESType × List UInt8) :=
  (x.1, x.2.map fun i => (.item i.1, i.2.1))

def sdesContents (chunks : List (BitVec 32 × List (SDESType × List UInt8))) :
    List RTCPContents :=
  .sdes (chunks.take 31) ::
  if (chunks.drop 31).isEmpty then [] else sdesContents (chunks.drop 31)
termination_by chunks.length
decreasing_by
  rename_i hMore
  rw [List.isEmpty_iff, List.drop_eq_nil_iff] at hMore
  rw [List.length_drop]
  omega

def appContents (x : UInt8 × BitVec 32 × BitVec 32 × List UInt8) : RTCPContents :=
  .app (BitVec.ofNat 5 x.1.toNat) x.2.1 x.2.2.1 x.2.2.2

/-- A reason of no length is not written. -/
def byeContents (x : List (BitVec 32) × Text) : RTCPContents :=
  .bye x.1 (if x.2.1.length ≠ 0 then some x.2.1 else none)

def contents (g : Gathered) : List RTCPContents :=
  (match g.report with
    | none => []
    | some (senderssrc, info) =>
      reportContents senderssrc info (g.blocks.map blockContents)) ++
  (if g.sources.isEmpty then [] else sdesContents (g.sources.map sourceContents)) ++
  g.apps.map appContents ++ g.byes.map byeContents

end Gathered

/-- A number of lost packets for which there is room is read as it was given. -/
theorem getLostPacketCount_blockContents {x : GivenBlock} (hLow : -2 ^ 23 ≤ x.packetslost.toInt)
    (hHigh : x.packetslost.toInt < 2 ^ 23) :
    (Gathered.blockContents x).getLostPacketCount = x.packetslost.toInt := by
  rw [RTCPReceiverReport.getLostPacketCount_eq]
  change (x.packetslost.setWidth 24).toInt = _
  have hLt := x.packetslost.isLt
  have hInt := BitVec.toInt_eq_toNat_cond x.packetslost
  rw [BitVec.toInt_setWidth]
  simp only [Int.bmod]
  split at hInt <;> split <;> omega

/-! ## Packets that are built -/

/-- A packet without padding that is as long as its header says and is read for `c`. -/
def Wellbuilt (packet : List UInt8) (c : RTCPContents) : Prop :=
  ∃ hdr, Framed hdr packet ∧ hdr.padding = false ∧ hdr.packettype.toNat = c.packettype ∧
    SaysOnly packet (some c)

theorem saysOnly_of_says {hdr : RTCPCommonHeader} {packet : List UInt8} {c : RTCPContents}
    (hRead : RTCPCommonHeader.record.read packet 0 = some hdr) (h : Says packet c) :
    SaysOnly packet (some c) := by
  obtain ⟨p, r, -, -, hSays⟩ := reads_construct hRead
  cases (hSays c).mpr h
  exact hSays

theorem wellbuilt_of_body {packettype count : Nat} {body : List UInt8} {c : RTCPContents}
    (hSize : 4 + body.length ≤ 2 ^ 18) (hFour : body.length % 4 = 0)
    (hBody : Body (builtHeader packettype count (4 + body.length)) body c) :
    Wellbuilt (builtPacket packettype count body) c := by
  have hLayout : Layout (builtHeader packettype count (4 + body.length)) body []
      (builtPacket packettype count body) := by
    refine ⟨?_, ?_, fun _ => rfl⟩
    · rw [builtPacket, List.append_nil]
    · rintro ⟨⟩
  have hLength : (builtPacket packettype count body).length =
      packetLength (builtHeader packettype count (4 + body.length)) := by
    rw [length_builtPacket]
    change _ = ((BitVec.ofNat 16 ((4 + body.length) / 4 - 1)).toNat + 1) * 4
    rw [BitVec.toNat_ofNat]
    omega
  exact ⟨_, ⟨Record.read_eq_some_iff.mp hLayout.read, rfl, hLength⟩, rfl, hBody.type,
    saysOnly_of_says hLayout.read (.known hLayout hBody)⟩

/-- Packets in a row are a compound packet, if the first is a report. -/
theorem compound_of_wellbuilt {first : Bool} {packet : List UInt8} {packets : List (List UInt8)}
    {c : RTCPContents} {contents : List RTCPContents}
    (h : List.Forall₂ Wellbuilt (packet :: packets) (c :: contents))
    (hFirst : first = true → c.packettype = rtcpTypeSR ∨ c.packettype = rtcpTypeRR) :
    Compound first (packet :: packets).flatten (packet :: packets) := by
  induction packets generalizing first packet c contents with
  | nil =>
    cases h with
    | cons hHere _ =>
      obtain ⟨hdr, hFramed, -, hKind, -⟩ := hHere
      rw [List.flatten_cons, List.flatten_nil, List.append_nil]
      refine .last hFramed fun hTrue => ?_
      rw [isReport, hKind]
      simpa using hFirst hTrue
  | cons packet' packets ih =>
    cases h with
    | cons hHere hRest =>
      obtain ⟨hdr, hFramed, hPadding, hKind, -⟩ := hHere
      rw [List.flatten_cons]
      refine .cons hFramed (fun hTrue => ?_) hPadding ?_
      · rw [isReport, hKind]
        simpa using hFirst hTrue
      · cases hRest with
        | cons hNext hLast =>
          exact ih (.cons hNext hLast) (by rintro ⟨⟩)

theorem receiveRTCP_of_wellbuilt {packets : List (List UInt8)} {c : RTCPContents}
    {contents : List RTCPContents} (h : List.Forall₂ Wellbuilt packets (c :: contents))
    (hFirst : c.packettype = rtcpTypeSR ∨ c.packettype = rtcpTypeRR) :
    receiveRTCP packets.flatten = some (some ((c :: contents).map some)) := by
  obtain ⟨r, hReceive, hSpec⟩ := receiveRTCP_spec packets.flatten
  have hSays : List.Forall₂ SaysOnly packets ((c :: contents).map some) := by
    rw [List.forall₂_map_right_iff]
    refine h.imp ?_
    rintro packet c ⟨-, -, -, -, hSays⟩
    exact hSays
  cases hPackets : packets with
  | nil =>
    rw [hPackets] at h
    cases h
  | cons packet packets' =>
    rw [hPackets] at h hSays hReceive hSpec
    rw [hReceive, (hSpec _).mpr ⟨_, compound_of_wellbuilt h fun _ => hFirst, hSays⟩]

def headerBytes (senderssrc : BitVec 32) (info : Option RTCPSenderReport) : List UInt8 :=
  word32.write senderssrc ++ (info.map RTCPSenderReport.record.write).getD []

theorem flatten_map_take (blocks : List RTCPReceiverReport) (n : Nat) :
    ((blocks.map RTCPReceiverReport.record.write).take n).flatten =
      (blocks.take n).flatMap RTCPReceiverReport.record.write := by
  rw [← List.map_take]
  rfl

theorem toNat_count {α : Type} (packettype length : Nat) (l : List α) :
    (l.take 31).length = (builtHeader packettype (l.take 31).length length).count.toNat := by
  change _ = (BitVec.ofNat 5 _).toNat
  rw [BitVec.toNat_ofNat, List.length_take]
  omega

theorem wellbuilt_reports {senderssrc : BitVec 32} {info : Option RTCPSenderReport}
    {blocks : List RTCPReceiverReport} {headerdata : List UInt8} {headerlength : Nat}
    (hShort : headerdata.take 4 = word32.write senderssrc)
    (hData : ∀ i ∈ info, headerdata.take headerlength = headerBytes senderssrc info)
    (hSize : ∀ p ∈ reportPackets headerdata headerlength info.isSome
      (blocks.map RTCPReceiverReport.record.write), p.length ≤ 2 ^ 18) :
    List.Forall₂ Wellbuilt
      (reportPackets headerdata headerlength info.isSome
        (blocks.map RTCPReceiverReport.record.write))
      (Gathered.reportContents senderssrc info blocks) := by
  fun_induction Gathered.reportContents senderssrc info blocks with
  | case1 info blocks ih =>
    rw [reportPackets, flatten_map_take, List.length_take, List.length_map, ← List.length_take,
      List.forall_mem_cons] at hSize
    rw [reportPackets, flatten_map_take, List.length_take, List.length_map, ← List.length_take]
    obtain ⟨hHere, hRest⟩ := hSize
    refine .cons ?_ ?_
    · have hBlocks := RTCPReceiverReport.record.length_flatMap_write (blocks.take 31)
      change _ = 24 * _ at hBlocks
      have hWord : (word32.write senderssrc).length = 4 := word32.length_write _
      cases info with
      | none =>
        rw [if_neg (by rintro ⟨⟩), length_builtPacket, hShort] at hHere
        rw [if_neg (by rintro ⟨⟩), hShort]
        refine wellbuilt_of_body hHere ?_ (.rr senderssrc (blocks.take 31) rfl (toNat_count _ _ _))
        rw [List.length_append, hWord, hBlocks]
        omega
      | some info =>
        have hHeader : headerdata.take headerlength =
            word32.write senderssrc ++ RTCPSenderReport.record.write info := hData info rfl
        have hInfo : (RTCPSenderReport.record.write info).length = 20 :=
          RTCPSenderReport.record.length_write _
        rw [if_pos Option.isSome_some, length_builtPacket, hHeader, List.append_assoc] at hHere
        rw [if_pos Option.isSome_some, hHeader, List.append_assoc]
        refine wellbuilt_of_body hHere ?_
          (.sr senderssrc info (blocks.take 31) rfl (toNat_count _ _ _))
        rw [List.length_append, List.length_append, hWord, hInfo, hBlocks]
        omega
    · rw [← List.map_drop] at hRest ⊢
      by_cases hLast : blocks.drop 31 = []
      · rw [hLast]
        exact .nil
      · have hMore : ¬ (blocks.drop 31).map RTCPReceiverReport.record.write = [] := by
          rwa [List.map_eq_nil_iff]
        rw [if_neg hMore] at hRest
        rw [if_neg hMore, if_neg (by rwa [List.isEmpty_iff])]
        exact ih (by rwa [List.isEmpty_iff]) (by rintro i ⟨⟩) hRest

def sourceOf (x : BitVec 32 × List RTCPSDESPacket.Item) : SDESSource :=
  ⟨x.1, x.2.map RTCPSDESPacket.Item.write, (RTCPSDESPacket.writeItems x.2).length⟩

def chunkOf (x : BitVec 32 × List RTCPSDESPacket.Item) : RTCPSDESPacket.Chunk where
  ssrc := x.1
  items := x.2
  align := List.replicate
    (RTCPSDESPacket.alignment ((RTCPSDESPacket.writeItems x.2).length + 1)) 0
  hAlign := List.length_replicate

theorem writeSources_map {offset : Nat} {sources : List (BitVec 32 × List RTCPSDESPacket.Item)}
    (hOffset : offset % 4 = 0) : writeSources offset (sources.map sourceOf) =
      RTCPSDESPacket.writeChunks (sources.map chunkOf) := by
  induction sources generalizing offset with
  | nil => rfl
  | cons x sources ih =>
    have hItems : (sourceOf x).items.flatten = RTCPSDESPacket.writeItems x.2 := rfl
    have hNum : (if (offset + 4 + (RTCPSDESPacket.writeItems x.2).length + 1) % 4 ≠ 0 then
        4 - (offset + 4 + (RTCPSDESPacket.writeItems x.2).length + 1) % 4 else 0) =
          RTCPSDESPacket.alignment ((RTCPSDESPacket.writeItems x.2).length + 1) := by
      unfold RTCPSDESPacket.alignment
      split <;> omega
    have hRest := @ih (offset + 4 + (RTCPSDESPacket.writeItems x.2).length + 1 +
      RTCPSDESPacket.alignment ((RTCPSDESPacket.writeItems x.2).length + 1)) (by
        unfold RTCPSDESPacket.alignment
        omega)
    rw [List.map_cons, writeSources, hItems, hNum, hRest]
    rfl

theorem wellbuilt_sdes {sources : List (BitVec 32 × List RTCPSDESPacket.Item)}
    {chunks : List (BitVec 32 × List (SDESType × List UInt8))}
    (hSame : chunks = (sources.map chunkOf).map RTCPSDESPacket.Chunk.contents)
    (hSize : ∀ p ∈ sdesPackets (sources.map sourceOf), p.length ≤ 2 ^ 18) :
    List.Forall₂ Wellbuilt (sdesPackets (sources.map sourceOf)) (Gathered.sdesContents chunks) := by
  fun_induction Gathered.sdesContents chunks generalizing sources with
  | case1 chunks ih =>
    have hChunks : writeSources 4 ((sources.map sourceOf).take 31) =
        RTCPSDESPacket.writeChunks ((sources.take 31).map chunkOf) := by
      rw [← List.map_take]
      exact writeSources_map rfl
    have hFour : (RTCPSDESPacket.writeChunks ((sources.take 31).map chunkOf)).length % 4 = 0 := by
      generalize (sources.take 31).map chunkOf = chunks
      induction chunks with
      | nil => rfl
      | cons c chunks ih =>
        have hHere := c.length_write_mod
        rw [RTCPSDESPacket.writeChunks, List.flatMap_cons, List.length_append]
        change (_ + (RTCPSDESPacket.writeChunks chunks).length) % 4 = 0
        omega
    have hContents : ((sources.take 31).map chunkOf).map RTCPSDESPacket.Chunk.contents =
        chunks.take 31 := by
      rw [hSame, List.map_take, List.map_take]
    have hCount : ((sources.take 31).map chunkOf).length = (sources.take 31).length :=
      List.length_map _
    rw [sdesPackets, hChunks, List.length_take, List.length_map, ← List.length_take,
      List.forall_mem_cons] at hSize
    rw [sdesPackets, hChunks, List.length_take, List.length_map, ← List.length_take]
    obtain ⟨hHere, hRest⟩ := hSize
    refine .cons ?_ ?_
    · rw [length_builtPacket] at hHere
      rw [← hContents]
      exact wellbuilt_of_body hHere hFour
        (.sdes _ rfl (hCount.trans (toNat_count _ _ _)))
    · rw [← List.map_drop] at hRest ⊢
      have hDrop : chunks.drop 31 =
          ((sources.drop 31).map chunkOf).map RTCPSDESPacket.Chunk.contents := by
        rw [hSame, List.map_drop, List.map_drop]
      by_cases hLast : sources.drop 31 = []
      · rw [hDrop, hLast]
        exact .nil
      · have hMore : ¬ (sources.drop 31).map sourceOf = [] := by rwa [List.map_eq_nil_iff]
        have hChunksMore : ¬ (chunks.drop 31).isEmpty = true := by
          rwa [List.isEmpty_iff, hDrop, List.map_eq_nil_iff, List.map_eq_nil_iff]
        rw [if_neg hMore] at hRest
        rw [if_neg hMore, if_neg hChunksMore]
        exact ih hChunksMore hDrop hRest

theorem wellbuilt_app {subtype : UInt8} {ssrc name : BitVec 32} {appdata : List UInt8}
    (hFour : appdata.length % 4 = 0)
    (hSize : (appPacket subtype ssrc name appdata).length ≤ 2 ^ 18) :
    Wellbuilt (appPacket subtype ssrc name appdata)
      (Gathered.appContents (subtype, ssrc, name, appdata)) := by
  have hBody : (word32.write ssrc ++ (word32.write name ++ appdata)).length =
      8 + appdata.length := by
    rw [List.length_append, List.length_append, Record.length_write, Record.length_write]
    change 4 + (4 + _) = _
    omega
  have hPacket : appPacket subtype ssrc name appdata = builtPacket rtcpTypeAPP subtype.toNat
      (word32.write ssrc ++ (word32.write name ++ appdata)) := by
    rw [appPacket, builtPacket, hBody, ← Nat.add_assoc]
  rw [hPacket] at hSize ⊢
  rw [length_builtPacket] at hSize
  exact wellbuilt_of_body hSize (by omega) (.app ssrc name appdata rfl)

def reasonBytes (ssrcs : List (BitVec 32)) (reason : Text) : List UInt8 :=
  if reason.1.length ≠ 0 then
    UInt8.ofNat reason.1.length ::
      (reason.1 ++ List.replicate (byeSize ssrcs.length reason.1.length).2 0)
  else []

theorem length_reasonBytes (ssrcs : List (BitVec 32)) (reason : Text) :
    4 + (4 * ssrcs.length + (reasonBytes ssrcs reason).length) =
        (byeSize ssrcs.length reason.1.length).1 ∧
      (4 * ssrcs.length + (reasonBytes ssrcs reason).length) % 4 = 0 := by
  unfold reasonBytes
  split
  · rename_i hSome
    rw [List.length_cons, List.length_append, List.length_replicate]
    unfold byeSize
    dsimp only
    rw [if_pos (Nat.pos_of_ne_zero hSome)]
    split <;> dsimp only <;> omega
  · rename_i hNone
    unfold byeSize
    dsimp only
    rw [if_neg (by omega), List.length_nil]
    exact ⟨rfl, by omega⟩

theorem byePacket_eq (ssrcs : List (BitVec 32)) (reason : Text) :
    byePacket ssrcs reason = builtPacket rtcpTypeBYE ssrcs.length
      (ssrcs.flatMap word32.write ++ reasonBytes ssrcs reason) := by
  have hSsrcs : (ssrcs.flatMap word32.write).length = 4 * ssrcs.length :=
    word32.length_flatMap_write ssrcs
  rw [builtPacket, List.length_append, hSsrcs, (length_reasonBytes ssrcs reason).1]
  rfl

theorem length_byePacket (ssrcs : List (BitVec 32)) (reason : Text) :
    (byePacket ssrcs reason).length = (byeSize ssrcs.length reason.1.length).1 := by
  have hSsrcs : (ssrcs.flatMap word32.write).length = 4 * ssrcs.length :=
    word32.length_flatMap_write ssrcs
  rw [byePacket_eq, length_builtPacket, List.length_append, hSsrcs,
    (length_reasonBytes ssrcs reason).1]

theorem wellbuilt_bye {ssrcs : List (BitVec 32)} {reason : Text} (hCount : ssrcs.length ≤ 31)
    (hSize : (byePacket ssrcs reason).length ≤ 2 ^ 18) :
    Wellbuilt (byePacket ssrcs reason) (Gathered.byeContents (ssrcs, reason)) := by
  have hSsrcs : (ssrcs.flatMap word32.write).length = 4 * ssrcs.length :=
    word32.length_flatMap_write ssrcs
  have hReason : LeavingReason (reasonBytes ssrcs reason)
      (if reason.1.length ≠ 0 then some reason.1 else none) := by
    unfold reasonBytes
    split
    · exact .some reason.1 _ reason.2
    · exact .none
  rw [byePacket_eq] at hSize ⊢
  rw [length_builtPacket] at hSize
  refine wellbuilt_of_body hSize ?_ (.bye ssrcs _ _ rfl ?_ hReason)
  · rw [List.length_append, hSsrcs]
    exact (length_reasonBytes ssrcs reason).2
  · change _ = (BitVec.ofNat 5 _).toNat
    rw [BitVec.toNat_ofNat]
    omega

/-! ## What the builder holds -/

def textItem (i : SDESItem) (itemdata : Text) : RTCPSDESPacket.Item :=
  ⟨itemId i, itemdata.1, by cases i <;> decide, itemdata.2⟩

theorem contents_textItem (i : SDESItem) (itemdata : Text) :
    (textItem i itemdata).contents = (.item i, itemdata.1) := by
  cases i <;> rfl

def writtenSource (x : BitVec 32 × List (SDESItem × Text)) :
    BitVec 32 × List RTCPSDESPacket.Item :=
  (x.1, x.2.map fun i => textItem i.1 i.2)

theorem contents_writtenSource (x : BitVec 32 × List (SDESItem × Text)) :
    (chunkOf (writtenSource x)).contents = Gathered.sourceContents x := by
  have hItems : (x.2.map fun i => textItem i.1 i.2).map RTCPSDESPacket.Item.contents =
      x.2.map fun i => (.item i.1, i.2.1) := by
    rw [List.map_map]
    exact List.map_congr_left fun i _ => contents_textItem i.1 i.2
  exact congrArg (Prod.mk x.1) hItems

def writtenBlock (x : GivenBlock) : RTCPReceiverReport :=
  reportBlock x.ssrc x.fractionlost x.packetslost x.exthighestseq x.jitter x.lsr x.dlsr

theorem writtenBlock_eq (x : GivenBlock) : writtenBlock x = Gathered.blockContents x := rfl

/-- The buffers of a builder are what was gathered, written down. -/
structure Holds (b : RTCPCompoundPacketBuilder) (g : Gathered) : Prop where
  hNoReport : g.report = none → b.report.headerlength = 0 ∧ b.report.isSR = false ∧ g.blocks = []
  hReport : ∀ ssrc info, g.report = some (ssrc, info) → b.report.isSR = info.isSome ∧
    b.report.headerdata = headerBytes ssrc info ∧
      b.report.headerlength = (headerBytes ssrc info).length
  hBlocks : b.report.reportblocks =
    (g.blocks.map writtenBlock).map RTCPReceiverReport.record.write
  hSdes : b.sdes = (g.sources.map writtenSource).map sourceOf
  hApps : b.apppackets = g.apps.map fun x => appPacket x.1 x.2.1 x.2.2.1 x.2.2.2
  hAppSize : b.appsize = b.apppackets.flatten.length
  hAppData : ∀ x ∈ g.apps, x.2.2.2.length % 4 = 0
  hByes : b.byepackets = g.byes.map fun x => byePacket x.1 x.2
  hByeSize : b.byesize = b.byepackets.flatten.length
  hByeCount : ∀ x ∈ g.byes, x.1.length ≤ 31

def builtPackets (b : RTCPCompoundPacketBuilder) : List (List UInt8) :=
  reportPackets b.report.headerdata b.report.headerlength b.report.isSR b.report.reportblocks ++
    (if b.sdes = [] then [] else sdesPackets b.sdes) ++ b.apppackets ++ b.byepackets

theorem length_headerBytes (ssrc : BitVec 32) (info : Option RTCPSenderReport) :
    (headerBytes ssrc info).length = if info.isSome then 24 else 4 := by
  rw [headerBytes, List.length_append, Record.length_write]
  cases info with
  | none => rfl
  | some info =>
    have hInfo := RTCPSenderReport.record.length_write info
    exact congrArg (4 + ·) hInfo

namespace Holds
variable {b : RTCPCompoundPacketBuilder} {g : Gathered} (h : Holds b g)
include h

theorem headerlength_eq_zero_iff : b.report.headerlength = 0 ↔ g.report = none := by
  constructor
  · intro hZero
    cases hReport : g.report with
    | none => rfl
    | some x =>
      obtain ⟨-, -, hLength⟩ := h.hReport x.1 x.2 hReport
      rw [hZero, length_headerBytes] at hLength
      split at hLength <;> cases hLength
  · exact fun hNone => (h.hNoReport hNone).1

/-- `EndBuild` allocates the bytes that it writes. -/
theorem length_builtPackets (hStarted : b.report.headerlength ≠ 0) :
    (builtPackets b).flatten.length = b.totalSize := by
  obtain ⟨⟨ssrc, info⟩, hSome⟩ : ∃ x, g.report = some x := by
    rw [Ne, h.headerlength_eq_zero_iff] at hStarted
    exact Option.ne_none_iff_exists'.mp hStarted
  obtain ⟨hSR, hData, hLength⟩ := h.hReport ssrc info hSome
  have hWord : (word32.write ssrc).length = 4 := word32.length_write _
  have hReports : (reportPackets b.report.headerdata b.report.headerlength b.report.isSR
      b.report.reportblocks).flatten.length = b.report.neededBytes := by
    rw [length_reportPackets]
    · rw [Report.neededBytes, Report.neededFor]
      by_cases hNone : b.report.reportblocks.length = 0
      · rw [if_pos hNone, if_pos hNone, if_neg hStarted, hNone, hLength, length_headerBytes, hSR]
        cases info.isSome <;> rfl
      · rw [if_neg hNone, if_neg hNone]
    · rw [h.hBlocks]
      intro block hBlock
      obtain ⟨r, -, rfl⟩ := List.mem_map.mp hBlock
      exact RTCPReceiverReport.record.length_write r
    · rw [hData, headerBytes, List.take_left' hWord, hWord]
    · intro hTrue
      rw [hData, hLength, List.take_length, length_headerBytes, ← hSR, hTrue]
      rfl
  have hSources : (if b.sdes = [] then [] else sdesPackets b.sdes).flatten.length =
      SDES.neededBytes b.sdes := by
    by_cases hNone : b.sdes = []
    · rw [if_pos hNone, hNone]
      rfl
    · rw [if_neg hNone]
      apply length_sdesPackets hNone
      rw [h.hSdes]
      intro s hs
      obtain ⟨x, -, rfl⟩ := List.mem_map.mp hs
      rfl
  simp only [builtPackets, List.flatten_append, List.length_append, hReports, hSources,
    ← h.hAppSize, ← h.hByeSize, RTCPCompoundPacketBuilder.totalSize]
  omega

/-- The packets that are written say what was gathered. -/
theorem wellbuilt (hStarted : b.report.headerlength ≠ 0) (hSize : b.totalSize ≤ 2 ^ 18) :
    List.Forall₂ Wellbuilt (builtPackets b) g.contents := by
  obtain ⟨⟨ssrc, info⟩, hSome⟩ : ∃ x, g.report = some x := by
    rw [Ne, h.headerlength_eq_zero_iff] at hStarted
    exact Option.ne_none_iff_exists'.mp hStarted
  obtain ⟨hSR, hData, hLength⟩ := h.hReport ssrc info hSome
  have hAll : ∀ p ∈ builtPackets b, p.length ≤ 2 ^ 18 := by
    intro p hp
    refine Nat.le_trans ?_ hSize
    rw [← h.length_builtPackets hStarted]
    exact (List.sublist_flatten_of_mem hp).length_le
  unfold builtPackets at hAll ⊢
  simp only [List.forall_mem_append] at hAll
  obtain ⟨⟨⟨hReports, hSources⟩, hApps⟩, hByes⟩ := hAll
  have hWord : (word32.write ssrc).length = 4 := word32.length_write _
  rw [Gathered.contents, hSome]
  refine List.rel_append (List.rel_append (List.rel_append ?_ ?_) ?_) ?_
  · rw [h.hBlocks, hSR] at hReports ⊢
    have hBlocks : g.blocks.map writtenBlock = g.blocks.map Gathered.blockContents :=
      List.map_congr_left fun x _ => writtenBlock_eq x
    rw [hBlocks] at hReports ⊢
    apply wellbuilt_reports _ _ hReports
    · rw [hData, headerBytes, List.take_left' hWord]
    · intro i _
      rw [hData, hLength, List.take_length]
  · rw [h.hSdes] at hSources ⊢
    cases hNone : g.sources with
    | nil => exact .nil
    | cons x sources =>
      rw [hNone] at hSources
      refine wellbuilt_sdes ?_ hSources
      rw [List.map_map, List.map_map]
      exact (List.map_congr_left fun y _ => contents_writtenSource y).symm
  · rw [h.hApps] at hApps ⊢
    rw [List.forall₂_map_left_iff, List.forall₂_map_right_iff, List.forall₂_same]
    intro x hx
    exact wellbuilt_app (h.hAppData x hx) (hApps _ (List.mem_map_of_mem hx))
  · rw [h.hByes] at hByes ⊢
    rw [List.forall₂_map_left_iff, List.forall₂_map_right_iff, List.forall₂_same]
    intro x hx
    exact wellbuilt_bye (h.hByeCount x hx) (hByes _ (List.mem_map_of_mem hx))

end Holds

/-- The calls that add something and do not fail, with what they check and what they do. -/
inductive Adds (b : RTCPCompoundPacketBuilder) :
    CompoundCall → RTCPCompoundPacketBuilder → Prop where
  | senderReport (ssrc : BitVec 32) (info : RTCPSenderReport) (hNone : b.report.headerlength = 0)
      (hFits : 4 + 4 + 20 ≤ sizeSub b.maximumpacketsize
        (b.byesize + b.appsize + SDES.neededBytes b.sdes)) :
      Adds b (.startSenderReport ssrc info) { b with report := { b.report with
        headerlength := 4 + 20
        isSR := true
        headerdata := word32.write ssrc ++ RTCPSenderReport.record.write info } }
  | receiverReport (ssrc : BitVec 32) (hNone : b.report.headerlength = 0)
      (hFits : 4 + 4 ≤ sizeSub b.maximumpacketsize
        (b.byesize + b.appsize + SDES.neededBytes b.sdes)) :
      Adds b (.startReceiverReport ssrc) { b with report := { b.report with
        headerlength := 4
        isSR := false
        headerdata := word32.write ssrc } }
  | block (ssrc : BitVec 32) (fractionlost : UInt8)
      (packetslost exthighestseq jitter lsr dlsr : BitVec 32)
      (hSome : b.report.headerlength ≠ 0)
      (hFits : b.byesize + b.appsize + SDES.neededBytes b.sdes +
        b.report.neededBytesWithExtraReportBlock ≤ b.maximumpacketsize) :
      Adds b (.addReportBlock ssrc fractionlost packetslost exthighestseq jitter lsr dlsr)
        { b with report := { b.report with
          reportblocks := b.report.reportblocks ++ [RTCPReceiverReport.record.write
            (reportBlock ssrc fractionlost packetslost exthighestseq jitter lsr dlsr)] } }
  | source (ssrc : BitVec 32)
      (hFits : b.byesize + b.appsize + b.report.neededBytes +
        SDES.neededBytesWithExtraSource b.sdes ≤ b.maximumpacketsize) :
      Adds b (.addSDESSource ssrc) { b with sdes := SDES.addSSRC ssrc b.sdes }
  | item (i : SDESItem) (itemdata : Text) (hSome : b.sdes ≠ [])
      (hFits : SDES.neededBytesWithExtraItem itemdata.1.length b.sdes +
        (b.byesize + b.appsize + b.report.neededBytes) ≤ b.maximumpacketsize) :
      Adds b (.addSDESNormalItem (.item i) itemdata)
        { b with sdes := SDES.addItem (textItem i itemdata).write b.sdes }
  | bye (ssrcs : List (BitVec 32)) (reasondata : Text) (hCount : ssrcs.length ≤ 31)
      (hFits : b.appsize + b.byesize + SDES.neededBytes b.sdes + b.report.neededBytes +
        (byeSize ssrcs.length reasondata.1.length).1 ≤ b.maximumpacketsize) :
      Adds b (.addBYEPacket ssrcs reasondata)
        { b with
          byepackets := b.byepackets ++ [byePacket ssrcs reasondata]
          byesize := b.byesize + (byeSize ssrcs.length reasondata.1.length).1 }
  | app (subtype : UInt8) (ssrc name : BitVec 32) (appdata : List UInt8)
      (hFour : appdata.length % 4 = 0)
      (hFits : b.appsize + b.byesize + SDES.neededBytes b.sdes + b.report.neededBytes +
        (4 + 4 * 2 + appdata.length) ≤ b.maximumpacketsize) :
      Adds b (.addAPPPacket subtype ssrc name appdata)
        { b with
          apppackets := b.apppackets ++ [appPacket subtype ssrc name appdata]
          appsize := b.appsize + (4 + 4 * 2 + appdata.length) }

/-- Everything that a call may do. -/
theorem perform_cases {b b' : RTCPCompoundPacketBuilder} {c : CompoundCall}
    (h : b.perform c = .ok b') :
    (b.arebuilding = true ∧ Adds b c b') ∨
      (∃ external size, c = .initBuild external size ∧ b.initBuild external size = .ok b') ∨
        (c = .endBuild ∧ b.endBuild = .ok b') := by
  cases c with
  | initBuild external size => exact .inr (.inl ⟨external, size, rfl, h⟩)
  | endBuild => exact .inr (.inr ⟨rfl, h⟩)
  | startSenderReport ssrc info =>
    simp only [RTCPCompoundPacketBuilder.perform,
      RTCPCompoundPacketBuilder.startSenderReport] at h
    repeat' split at h
    all_goals cases h
    rename_i hBuilding hNone hFits
    exact .inl ⟨by simpa using hBuilding,
      .senderReport ssrc info (by simpa using hNone) (Nat.le_of_not_lt hFits)⟩
  | startReceiverReport ssrc =>
    simp only [RTCPCompoundPacketBuilder.perform,
      RTCPCompoundPacketBuilder.startReceiverReport] at h
    repeat' split at h
    all_goals cases h
    rename_i hBuilding hNone hFits
    exact .inl ⟨by simpa using hBuilding,
      .receiverReport ssrc (by simpa using hNone) (Nat.le_of_not_lt hFits)⟩
  | addReportBlock ssrc fractionlost packetslost exthighestseq jitter lsr dlsr =>
    simp only [RTCPCompoundPacketBuilder.perform,
      RTCPCompoundPacketBuilder.addReportBlock] at h
    repeat' split at h
    all_goals cases h
    rename_i hBuilding hSome hFits
    exact .inl ⟨by simpa using hBuilding,
      .block ssrc fractionlost packetslost exthighestseq jitter lsr dlsr hSome
        (Nat.le_of_not_lt hFits)⟩
  | addSDESSource ssrc =>
    simp only [RTCPCompoundPacketBuilder.perform, RTCPCompoundPacketBuilder.addSDESSource] at h
    repeat' split at h
    all_goals cases h
    rename_i hBuilding hFits
    exact .inl ⟨by simpa using hBuilding, .source ssrc (Nat.le_of_not_lt hFits)⟩
  | addSDESNormalItem t itemdata =>
    simp only [RTCPCompoundPacketBuilder.perform,
      RTCPCompoundPacketBuilder.addSDESNormalItem] at h
    repeat' split at h
    all_goals cases h
    rename_i hBuilding hSome _ i hFits
    exact .inl ⟨by simpa using hBuilding, .item i itemdata hSome (Nat.le_of_not_lt hFits)⟩
  | addBYEPacket ssrcs reasondata =>
    simp only [RTCPCompoundPacketBuilder.perform, RTCPCompoundPacketBuilder.addBYEPacket] at h
    repeat' split at h
    all_goals cases h
    rename_i hBuilding hCount hFits
    exact .inl ⟨by simpa using hBuilding,
      .bye ssrcs reasondata (Nat.le_of_not_lt hCount) (Nat.le_of_not_lt hFits)⟩
  | addAPPPacket subtype ssrc name appdata =>
    simp only [RTCPCompoundPacketBuilder.perform, RTCPCompoundPacketBuilder.addAPPPacket] at h
    repeat' split at h
    all_goals cases h
    rename_i hBuilding hType hFour hWords hFits
    exact .inl ⟨by simpa using hBuilding,
      .app subtype ssrc name appdata (by simpa using hFour) (Nat.le_of_not_lt hFits)⟩

theorem initBuild_cases {b b' : RTCPCompoundPacketBuilder} {external : Bool} {size : BitVec 32}
    (h : b.initBuild external size = .ok b') :
    b.arebuilding = false ∧ b.compoundpacket = none ∧ rtpMinPacketSize ≤ size.toNat ∧
      b' = { b with
        maximumpacketsize := size.toNat
        external
        byesize := 0
        appsize := 0
        arebuilding := true } := by
  unfold RTCPCompoundPacketBuilder.initBuild at h
  repeat' split at h
  all_goals cases h
  rename_i hBuilding hPacket hSize
  exact ⟨by simpa using hBuilding, by simpa using hPacket, Nat.le_of_not_lt hSize, rfl⟩

theorem endBuild_cases {b b' : RTCPCompoundPacketBuilder} (h : b.endBuild = .ok b') :
    b.arebuilding = true ∧ b.report.headerlength ≠ 0 ∧
      b' = { b.clearBuildBuffers with
        compoundpacket := some (builtPackets b).flatten
        compoundpacketlength := b.totalSize
        rtcppacklist := builtPackets b
        arebuilding := false } := by
  unfold RTCPCompoundPacketBuilder.endBuild at h
  split at h
  · cases h
  split at h
  · cases h
  rename_i hBuilding hStarted
  cases h
  exact ⟨by simpa using hBuilding, hStarted, rfl⟩

theorem Adds.same {b b' : RTCPCompoundPacketBuilder} {c : CompoundCall} (h : Adds b c b') :
    b'.arebuilding = b.arebuilding ∧ b'.compoundpacket = b.compoundpacket ∧
      b'.maximumpacketsize = b.maximumpacketsize := by
  cases h <;> exact ⟨rfl, rfl, rfl⟩

/-- What is added to the buffers is what is added to the things gathered. -/
theorem Holds.add {b b' : RTCPCompoundPacketBuilder} {g : Gathered} {c : CompoundCall}
    (h : Holds b g) (hAdds : Adds b c b') : Holds b' (g.add c) := by
  cases hAdds with
  | senderReport ssrc info hNone hFits =>
    refine { h with hNoReport := by rintro ⟨⟩, hReport := ?_, hBlocks := h.hBlocks }
    rintro ssrc' info' ⟨⟩
    refine ⟨rfl, rfl, ?_⟩
    rw [length_headerBytes]
    rfl
  | receiverReport ssrc hNone hFits =>
    refine { h with hNoReport := by rintro ⟨⟩, hReport := ?_, hBlocks := h.hBlocks }
    rintro ssrc' info' ⟨⟩
    exact ⟨rfl, (List.append_nil _).symm, rfl⟩
  | block ssrc fractionlost packetslost exthighestseq jitter lsr dlsr hSome hFits =>
    refine { h with hNoReport := ?_, hReport := h.hReport, hBlocks := ?_ }
    · intro hNone
      exact absurd ((h.headerlength_eq_zero_iff).mpr hNone) hSome
    · change _ ++ _ = List.map _ (List.map _ (_ ++ [_]))
      rw [List.map_append, List.map_append, h.hBlocks]
      rfl
  | source ssrc hFits =>
    refine { h with hSdes := ?_ }
    change _ ++ _ = List.map _ (List.map _ (_ ++ [_]))
    rw [List.map_append, List.map_append, h.hSdes]
    rfl
  | item i itemdata hSome hFits =>
    refine { h with hSdes := ?_ }
    have hSources : g.sources ≠ [] := by
      rintro hNil
      exact hSome (by rw [h.hSdes, hNil]; rfl)
    obtain ⟨front, x, hLast⟩ := (List.eq_nil_or_concat' g.sources).resolve_left hSources
    have hAdd : (g.add (.addSDESNormalItem (.item i) itemdata)).sources =
        front ++ [(x.1, x.2 ++ [(i, itemdata)])] := by
      change g.sources.dropLast ++ _ = _
      rw [hLast, List.dropLast_concat, List.getLast?_concat]
      rfl
    have hSource : (sourceOf (writtenSource x)).addItem (textItem i itemdata).write =
        sourceOf (writtenSource (x.1, x.2 ++ [(i, itemdata)])) := by
      simp only [sourceOf, writtenSource, SDESSource.addItem, RTCPSDESPacket.writeItems,
        List.map_append, List.flatMap_append, List.length_append, List.map_cons, List.map_nil,
        List.flatMap_cons, List.flatMap_nil, List.append_nil]
    rw [hAdd]
    change SDES.addItem _ b.sdes = _
    rw [h.hSdes, hLast, List.map_append, List.map_append, List.map_singleton, List.map_singleton,
      SDES.addItem, List.getLast?_concat, List.dropLast_concat]
    dsimp only
    rw [hSource, List.map_append, List.map_append, List.map_singleton, List.map_singleton]
  | bye ssrcs reasondata hCount hFits =>
    refine { h with hByes := ?_, hByeSize := ?_, hByeCount := ?_ }
    · change _ ++ _ = List.map _ (_ ++ [_])
      rw [List.map_append, h.hByes]
      rfl
    · change b.byesize + _ = (b.byepackets ++ [_]).flatten.length
      rw [List.flatten_append, List.length_append, h.hByeSize, List.flatten_singleton,
        length_byePacket]
    · intro x hx
      rcases List.mem_append.mp hx with hx | hx
      · exact h.hByeCount x hx
      · rw [List.mem_singleton.mp hx]
        exact hCount
  | app subtype ssrc name appdata hFour hFits =>
    refine { h with hApps := ?_, hAppSize := ?_, hAppData := ?_ }
    · change _ ++ _ = List.map _ (_ ++ [_])
      rw [List.map_append, h.hApps]
      rfl
    · have hLength : (appPacket subtype ssrc name appdata).length = 4 + 4 * 2 + appdata.length := by
        rw [appPacket, List.length_append, List.length_append, List.length_append,
          RTCPCommonHeader.length_write, Record.length_write, Record.length_write]
        change 4 + (4 + (4 + _)) = _
        omega
      change b.appsize + _ = (b.apppackets ++ [_]).flatten.length
      rw [List.flatten_append, List.length_append, h.hAppSize, List.flatten_singleton, hLength]
    · intro x hx
      rcases List.mem_append.mp hx with hx | hx
      · exact h.hAppData x hx
      · rw [List.mem_singleton.mp hx]
        exact hFour

/-! ## The size -/

theorem Holds.blocks_of_no_report {b : RTCPCompoundPacketBuilder} {g : Gathered} (h : Holds b g)
    (hNone : b.report.headerlength = 0) : b.report.reportblocks = [] := by
  rw [h.hBlocks, (h.hNoReport (h.headerlength_eq_zero_iff.mp hNone)).2.2]
  rfl

/-- A call keeps to the maximum, but the first source is not counted before it is added, and when
that made the packet too large the room for a report wraps around. -/
theorem Adds.totalSize {b b' : RTCPCompoundPacketBuilder} {g : Gathered} {c : CompoundCall}
    (h : Holds b g) (hAdds : Adds b c b') :
    ((∃ ssrc, c = .addSDESSource ssrc) ∧ b.sdes = [] ∧ b'.report = b.report ∧
        b.totalSize ≤ b.maximumpacketsize ∧ b'.totalSize = b.totalSize + 12) ∨
      ((b.sdes ≠ [] ∨ ∀ ssrc, c ≠ .addSDESSource ssrc) ∧ b'.report.headerlength ≠ 0 ∧
        b.report.headerlength = 0 ∧ b'.totalSize ≤ b.totalSize + 28 ∧
        (b.totalSize ≤ b.maximumpacketsize → b.maximumpacketsize < 2 ^ 32 →
          b'.totalSize ≤ b.maximumpacketsize)) ∨
      ((b.sdes ≠ [] ∨ ∀ ssrc, c ≠ .addSDESSource ssrc) ∧
        b'.totalSize ≤ b.maximumpacketsize) := by
  -- without a report the other parts are all there is
  have hReportless : b.report.headerlength = 0 → b.report.neededBytes = 0 := by
    intro hNone
    rw [Report.neededBytes, h.blocks_of_no_report hNone, if_pos List.length_nil, if_pos hNone]
  unfold RTCPCompoundPacketBuilder.totalSize
  cases hAdds with
  | senderReport ssrc info hNone hFits =>
    have hBefore := hReportless hNone
    have hAfter : ({ b.report with
        headerlength := 4 + 20
        isSR := true
        headerdata := word32.write ssrc ++ RTCPSenderReport.record.write info } :
          Report).neededBytes = 28 := by
      rw [Report.neededBytes, h.blocks_of_no_report hNone]
      rfl
    refine .inr (.inl ⟨.inr (by rintro _ ⟨⟩), by rintro ⟨⟩, hNone, ?_, ?_⟩)
    · rw [hAfter]
      dsimp only
      omega
    · intro hTotal hMax
      rw [sizeSub_of_le hMax (by omega)] at hFits
      rw [hAfter]
      dsimp only
      omega
  | receiverReport ssrc hNone hFits =>
    have hBefore := hReportless hNone
    have hAfter : ({ b.report with
        headerlength := 4
        isSR := false
        headerdata := word32.write ssrc } : Report).neededBytes = 8 := by
      rw [Report.neededBytes, h.blocks_of_no_report hNone]
      rfl
    refine .inr (.inl ⟨.inr (by rintro _ ⟨⟩), by rintro ⟨⟩, hNone, ?_, ?_⟩)
    · rw [hAfter]
      dsimp only
      omega
    · intro hTotal hMax
      rw [sizeSub_of_le hMax (by omega)] at hFits
      rw [hAfter]
      dsimp only
      omega
  | block ssrc fractionlost packetslost exthighestseq jitter lsr dlsr hSome hFits =>
    refine .inr (.inr ⟨.inr (by rintro _ ⟨⟩), ?_⟩)
    have hAfter : ∀ (r : Report) (x : List UInt8),
        ({ r with reportblocks := r.reportblocks ++ [x] } : Report).neededBytes =
          r.neededBytesWithExtraReportBlock := by
      intro r x
      have hLength : (r.reportblocks ++ [x]).length = r.reportblocks.length + 1 := by
        rw [List.length_append, List.length_singleton]
      rw [Report.neededBytes, Report.neededBytesWithExtraReportBlock]
      dsimp only
      rw [hLength, if_neg (Nat.succ_ne_zero _)]
      rfl
    rw [hAfter]
    dsimp only
    omega
  | source ssrc hFits =>
    by_cases hNone : b.sdes = []
    · have hFirst : SDES.neededBytes (SDES.addSSRC ssrc []) = 12 := by
        change SDES.neededBytes [_] = 12
        rw [SDES.neededBytes, if_neg (List.cons_ne_nil _ _), List.map_singleton,
          List.sum_singleton, List.length_singleton, packetsFor_of_le one_pos (by decide)]
        rfl
      have hNothing : SDES.neededBytes [] = 0 := rfl
      have hUncounted : SDES.neededBytesWithExtraSource [] = 0 := rfl
      rw [hNone, hUncounted] at hFits
      refine .inl ⟨⟨ssrc, rfl⟩, hNone, rfl, ?_, ?_⟩
      · rw [hNone, hNothing]
        omega
      · rw [hNone, hNothing]
        dsimp only
        rw [hFirst]
    · refine .inr (.inr ⟨.inl hNone, ?_⟩)
      rw [SDES.neededBytes_addSSRC ssrc hNone]
      dsimp only
      omega
  | item i itemdata hSome hFits =>
    refine .inr (.inr ⟨.inr (by rintro _ ⟨⟩), ?_⟩)
    rw [SDES.neededBytes_addItem _ itemdata.1.length (textItem i itemdata).length_write hSome]
    dsimp only
    omega
  | bye ssrcs reasondata hCount hFits =>
    refine .inr (.inr ⟨.inr (by rintro _ ⟨⟩), ?_⟩)
    dsimp only
    omega
  | app subtype ssrc name appdata hFour hFits =>
    refine .inr (.inr ⟨.inr (by rintro _ ⟨⟩), ?_⟩)
    dsimp only
    omega

theorem Holds.totalSize_new {b : RTCPCompoundPacketBuilder} (h : Holds b .new) :
    b.totalSize = 0 := by
  have hHeader := (h.hNoReport rfl).1
  have hSdes : b.sdes = [] := h.hSdes
  have hApps : b.apppackets = [] := h.hApps
  have hByes : b.byepackets = [] := h.hByes
  rw [RTCPCompoundPacketBuilder.totalSize, h.hAppSize, h.hByeSize, hApps, hByes,
    Report.neededBytes, h.blocks_of_no_report hHeader, if_pos List.length_nil, if_pos hHeader,
    hSdes]
  rfl

/-! ## Runs -/

structure CompoundTrace where
  builder : RTCPCompoundPacketBuilder
  gathered : Gathered

namespace CompoundTrace

def new : CompoundTrace := ⟨.new, .new⟩

def step (t : CompoundTrace) (c : CompoundCall) : Option CompoundTrace :=
  match t.builder.perform c with
  | .error _ => some t
  | .ok b => some ⟨b, t.gathered.add c⟩

/-- A datagram that was built is as long as the builder says, at most 40 bytes too long for the
maximum, and read by a receiver for what was gathered. The lengths of the packets fit in their
headers. -/
def Delivered (t : CompoundTrace) : Prop :=
  ∀ data, t.builder.compoundpacket = some data → data.length = t.builder.compoundpacketlength ∧
    (t.builder.maximumpacketsize + 40 ≤ 2 ^ 18 →
      data.length ≤ t.builder.maximumpacketsize + 40 ∧
        receiveRTCP data = some (some (t.gathered.contents.map some)))

def Bounded (b : RTCPCompoundPacketBuilder) : Prop :=
  b.maximumpacketsize + 40 ≤ 2 ^ 18 → b.totalSize ≤ b.maximumpacketsize + 40 ∧
    (b.report.headerlength = 0 → b.totalSize ≤ b.maximumpacketsize + 12)

structure Inv (t : CompoundTrace) : Prop where
  hHolds : t.builder.compoundpacket = none → Holds t.builder t.gathered
  hIdle : t.builder.compoundpacket = none → t.builder.arebuilding = false → t.gathered = .new
  hBuilding : t.builder.arebuilding = true → t.builder.compoundpacket = none
  hBounded : t.builder.compoundpacket = none → Bounded t.builder
  hDelivered : t.Delivered

theorem Inv.adds {t : CompoundTrace} {b : RTCPCompoundPacketBuilder} {c : CompoundCall}
    (h : t.Inv) (hBuilding : t.builder.arebuilding = true) (hAdds : Adds t.builder c b) :
    Inv ⟨b, t.gathered.add c⟩ := by
  obtain ⟨hArebuilding, hPacket, hMax⟩ := hAdds.same
  have hNone := h.hBuilding hBuilding
  have hHolds := h.hHolds hNone
  refine ⟨fun _ => hHolds.add hAdds, ?_, fun _ => hPacket.trans hNone, ?_, ?_⟩
  · intro _ hFalse
    change b.arebuilding = false at hFalse
    rw [hArebuilding, hBuilding] at hFalse
    cases hFalse
  · intro _ hSmall
    change b.maximumpacketsize + 40 ≤ _ at hSmall
    change b.totalSize ≤ b.maximumpacketsize + 40 ∧
      (b.report.headerlength = 0 → b.totalSize ≤ b.maximumpacketsize + 12)
    rw [hMax] at hSmall ⊢
    obtain ⟨hSize, hReportless⟩ := h.hBounded hNone hSmall
    rcases hAdds.totalSize hHolds with
      ⟨-, -, -, hFits, hTotal⟩ | ⟨-, hStarted, hBefore, hTotal, -⟩ | ⟨-, hFits⟩
    · exact ⟨by omega, fun _ => by omega⟩
    · have hRoom := hReportless hBefore
      exact ⟨by omega, fun hZero => absurd hZero hStarted⟩
    · exact ⟨by omega, fun _ => by omega⟩
  · intro data hData
    change b.compoundpacket = some data at hData
    rw [hPacket, hNone] at hData
    cases hData

theorem holds_new (b : RTCPCompoundPacketBuilder) (hHeader : b.report.headerlength = 0)
    (hSR : b.report.isSR = false) (hBlocks : b.report.reportblocks = []) (hSdes : b.sdes = [])
    (hApps : b.apppackets = []) (hAppSize : b.appsize = 0) (hByes : b.byepackets = [])
    (hByeSize : b.byesize = 0) : Holds b .new := by
  refine ⟨fun _ => ⟨hHeader, hSR, rfl⟩, by rintro _ _ ⟨⟩, hBlocks, hSdes, hApps, ?_, by rintro _ ⟨⟩,
    hByes, ?_, by rintro _ ⟨⟩⟩
  · rw [hAppSize, hApps]
    rfl
  · rw [hByeSize, hByes]
    rfl

theorem Inv.initBuild {t : CompoundTrace} {b : RTCPCompoundPacketBuilder} {external : Bool}
    {size : BitVec 32} (h : t.Inv) (hInit : t.builder.initBuild external size = .ok b) :
    Inv ⟨b, t.gathered.add (.initBuild external size)⟩ := by
  obtain ⟨hBuilding, hNone, -, hAfter⟩ := initBuild_cases hInit
  have hIdle := h.hIdle hNone hBuilding
  have hHolds := h.hHolds hNone
  rw [hIdle] at hHolds
  have hGathered : t.gathered.add (.initBuild external size) = .new := hIdle
  obtain ⟨hHeader, hSR, -⟩ := hHolds.hNoReport rfl
  have hStarted : Holds b .new := by
    rw [hAfter]
    exact holds_new _ hHeader hSR hHolds.hBlocks hHolds.hSdes hHolds.hApps rfl hHolds.hByes rfl
  have hPacket : b.compoundpacket = none := by rw [hAfter, hNone]
  rw [hGathered]
  refine ⟨fun _ => hStarted, fun _ _ => rfl, fun _ => hPacket, fun _ _ => ?_, ?_⟩
  · change b.totalSize ≤ b.maximumpacketsize + 40 ∧
      (b.report.headerlength = 0 → b.totalSize ≤ b.maximumpacketsize + 12)
    rw [hStarted.totalSize_new]
    exact ⟨Nat.zero_le _, fun _ => Nat.zero_le _⟩
  · intro data hData
    change b.compoundpacket = some data at hData
    rw [hPacket] at hData
    cases hData

theorem contents_eq_cons {g : Gathered} (h : g.report ≠ none) : ∃ c contents,
    g.contents = c :: contents ∧ (c.packettype = rtcpTypeSR ∨ c.packettype = rtcpTypeRR) := by
  obtain ⟨⟨ssrc, info⟩, hSome⟩ := Option.ne_none_iff_exists'.mp h
  obtain ⟨c, contents, hContents, hFirst⟩ : ∃ c contents,
      Gathered.reportContents ssrc info (g.blocks.map Gathered.blockContents) = c :: contents ∧
        (c.packettype = rtcpTypeSR ∨ c.packettype = rtcpTypeRR) := by
    unfold Gathered.reportContents
    cases info with
    | none => exact ⟨_, _, rfl, .inr rfl⟩
    | some info => exact ⟨_, _, rfl, .inl rfl⟩
  rw [Gathered.contents, hSome]
  dsimp only
  rw [hContents]
  exact ⟨c, _, rfl, hFirst⟩

theorem Inv.endBuild {t : CompoundTrace} {b : RTCPCompoundPacketBuilder} (h : t.Inv)
    (hEnd : t.builder.endBuild = .ok b) : Inv ⟨b, t.gathered.add .endBuild⟩ := by
  obtain ⟨hBuilding, hStarted, rfl⟩ := endBuild_cases hEnd
  have hNone := h.hBuilding hBuilding
  have hHolds := h.hHolds hNone
  refine ⟨by rintro ⟨⟩, by rintro ⟨⟩, by rintro ⟨⟩, by rintro ⟨⟩, ?_⟩
  intro data hData
  have hPackets : data = (builtPackets t.builder).flatten := (Option.some.inj hData).symm
  refine ⟨hPackets ▸ hHolds.length_builtPackets hStarted, fun hSmall => ?_⟩
  change t.builder.maximumpacketsize + 40 ≤ 2 ^ 18 at hSmall
  have hSize := (h.hBounded hNone hSmall).1
  have hBuilt := hHolds.wellbuilt hStarted (Nat.le_trans hSize hSmall)
  obtain ⟨c, contents, hContents, hFirst⟩ :=
    contents_eq_cons (mt hHolds.headerlength_eq_zero_iff.mpr hStarted)
  constructor
  · rw [hPackets, hHolds.length_builtPackets hStarted]
    exact hSize
  · change receiveRTCP data = some (some (t.gathered.contents.map some))
    rw [hContents] at hBuilt ⊢
    rw [hPackets]
    exact receiveRTCP_of_wellbuilt hBuilt hFirst

theorem Inv.step {t t' : CompoundTrace} {c : CompoundCall} (h : t.Inv)
    (hStep : t.step c = some t') : t'.Inv := by
  unfold CompoundTrace.step at hStep
  split at hStep
  · cases hStep
    exact h
  rename_i b hPerform
  cases hStep
  rcases perform_cases hPerform with
    ⟨hBuilding, hAdds⟩ | ⟨external, size, rfl, hInit⟩ | ⟨rfl, hEnd⟩
  · exact h.adds hBuilding hAdds
  · exact h.initBuild hInit
  · exact h.endBuild hEnd

theorem inv_new : Inv new := by
  refine ⟨fun _ => ?_, fun _ _ => rfl, by rintro ⟨⟩, ?_, by rintro _ ⟨⟩⟩
  · exact holds_new _ rfl rfl rfl rfl rfl rfl rfl rfl
  · exact fun _ _ => ⟨Nat.zero_le _, fun _ => Nat.zero_le _⟩

theorem always_delivered (cs : List CompoundCall) : Always step Delivered new cs :=
  always_of_invariant Inv.step Inv.hDelivered inv_new

end CompoundTrace

end LocalCall.Jrtp
