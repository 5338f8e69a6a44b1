import LocalCall.Library.Transition
import LocalCall.Jrtp.PacketContents
import LocalCall.Jrtp.Sources

/-! # The packet builder

`RTPPacketBuilder` numbers the packets of one SSRC. Over every run of calls the packets since the
last new SSRC have consecutive sequence numbers and the timestamps of the increments before them,
and each is a datagram from which a receiver gets these fields back.
-/
namespace LocalCall.Jrtp
set_option autoImplicit false

open Transition

inductive PackBuildError where
  | notInit | alreadyInit | invalidMaxPacketSize
  | csrcListFull | csrcAlreadyInList | csrcNotInList
  | defaultPayloadTypeNotSet | defaultMarkNotSet | defaultTsIncNotSet
  | packet (e : RTPPacketError)

/-- The first `numcsrcs` entries of the CSRC array are the list `csrcs`, a default is none until it
is set, and `buffer` is the last packet, none when nothing was written to the memory. -/
structure RTPPacketBuilder where
  maxpacksize : Nat
  buffer : Option (List UInt8)
  packetlength : Nat
  numpayloadbytes : BitVec 32
  numpackets : BitVec 32
  init : Bool
  ssrc : BitVec 32
  timestamp : BitVec 32
  seqnr : BitVec 16
  defaulttimestampinc : Option (BitVec 32)
  defaultpayloadtype : Option (BitVec 8)
  defaultmark : Option Bool
  csrcs : List (BitVec 32)
  lastwallclocktime : RTPTime
  lastrtptimestamp : BitVec 32
  prevrtptimestamp : BitVec 32

namespace RTPPacketBuilder

structure Drawn where
  ssrc : BitVec 32
  timestamp : BitVec 32
  seqnr : BitVec 16

/-- The other fields of a constructed builder are never read before they are set. -/
def new : RTPPacketBuilder :=
  ⟨0, none, 0, 0, 0, false, 0, 0, 0, none, none, none, [], ⟨0, 0⟩, 0, 0⟩

def createNewSSRC (r : Drawn) (b : RTPPacketBuilder) : RTPPacketBuilder :=
  { b with
    ssrc := r.ssrc
    timestamp := r.timestamp
    seqnr := r.seqnr
    numpayloadbytes := 0
    numpackets := 0 }

/-- `CreateNewSSRC(sources)`: of the numbers drawn for the SSRC, the first that no source has. -/
def createNewSSRCFor (sources : RTPSources) (drawn : List (BitVec 32)) (timestamp : BitVec 32)
    (seqnr : BitVec 16) (b : RTPPacketBuilder) : Option RTPPacketBuilder :=
  (drawn.find? fun ssrc => !sources.gotEntry ssrc).map fun ssrc =>
    b.createNewSSRC ⟨ssrc, timestamp, seqnr⟩

def initBuilder (max : Nat) (r : Drawn) (b : RTPPacketBuilder) :
    Except PackBuildError RTPPacketBuilder :=
  if b.init then .error .alreadyInit
  else if max = 0 then .error .invalidMaxPacketSize
  else
    .ok { b.createNewSSRC r with
      maxpacksize := max
      buffer := none
      packetlength := 0
      defaulttimestampinc := none
      defaultpayloadtype := none
      defaultmark := none
      csrcs := []
      init := true }

def destroy (b : RTPPacketBuilder) : RTPPacketBuilder :=
  if b.init then { b with buffer := none, init := false } else b

/-- There is no check for `init` here. -/
def setMaximumPacketSize (max : Nat) (b : RTPPacketBuilder) :
    Except PackBuildError RTPPacketBuilder :=
  if max = 0 then .error .invalidMaxPacketSize
  else .ok { b with buffer := none, maxpacksize := max }

def addCSRC (csrc : BitVec 32) (b : RTPPacketBuilder) : Except PackBuildError RTPPacketBuilder :=
  if !b.init then .error .notInit
  else if maxCSRCs ≤ b.csrcs.length then .error .csrcListFull
  else if b.csrcs.contains csrc then .error .csrcAlreadyInList
  else .ok { b with csrcs := b.csrcs ++ [csrc] }

/-- The last CSRC is moved in the place of the deleted one. -/
def deleteCSRC (csrc : BitVec 32) (b : RTPPacketBuilder) :
    Except PackBuildError RTPPacketBuilder :=
  if !b.init then .error .notInit
  else if b.csrcs.contains csrc then
    let i := b.csrcs.idxOf csrc
    let numcsrcs := b.csrcs.length - 1
    let moved :=
      if 0 < numcsrcs ∧ numcsrcs ≠ i then b.csrcs.set i (b.csrcs.getD numcsrcs 0) else b.csrcs
    .ok { b with csrcs := moved.take numcsrcs }
  else .error .csrcNotInList

def clearCSRCList (b : RTPPacketBuilder) : RTPPacketBuilder :=
  if b.init then { b with csrcs := [] } else b

def fields (data : List UInt8) (pt : BitVec 8) (mark : Bool) (extension : Option HeaderExtension)
    (b : RTPPacketBuilder) : RTPFields where
  payloadtype := pt
  payload := data
  seqnr := b.seqnr
  timestamp := b.timestamp
  ssrc := b.ssrc
  marker := mark
  csrcs := b.csrcs
  extension := extension

/-- `now` is what the clock shows, which is read for the first packet with a timestamp. -/
def privateBuildPacket (data : List UInt8) (pt : BitVec 8) (mark : Bool)
    (timestampinc : BitVec 32) (extension : Option HeaderExtension) (now : RTPTime)
    (b : RTPPacketBuilder) : Except PackBuildError RTPPacketBuilder :=
  match buildPacket (b.fields data pt mark extension) b.maxpacksize with
  | .error e => .error (.packet e)
  | .ok p =>
    let b :=
      if b.numpackets = 0 ∨ b.timestamp ≠ b.prevrtptimestamp then
        { b with
          lastwallclocktime := now
          lastrtptimestamp := b.timestamp
          prevrtptimestamp := b.timestamp }
      else b
    .ok { b with
      buffer := some p.packet
      packetlength := p.packet.length
      numpayloadbytes := b.numpayloadbytes + BitVec.ofNat 32 p.payloadlength
      numpackets := b.numpackets + 1
      timestamp := b.timestamp + timestampinc
      seqnr := b.seqnr + 1 }

def buildPacketWith (data : List UInt8) (pt : BitVec 8) (mark : Bool) (timestampinc : BitVec 32)
    (extension : Option HeaderExtension) (now : RTPTime) (b : RTPPacketBuilder) :
    Except PackBuildError RTPPacketBuilder :=
  if !b.init then .error .notInit
  else b.privateBuildPacket data pt mark timestampinc extension now

def buildPacketDefault (data : List UInt8) (extension : Option HeaderExtension) (now : RTPTime)
    (b : RTPPacketBuilder) : Except PackBuildError RTPPacketBuilder :=
  if !b.init then .error .notInit
  else
    match b.defaultpayloadtype, b.defaultmark, b.defaulttimestampinc with
    | none, _, _ => .error .defaultPayloadTypeNotSet
    | some _, none, _ => .error .defaultMarkNotSet
    | some _, some _, none => .error .defaultTsIncNotSet
    | some pt, some mark, some timestampinc =>
      b.privateBuildPacket data pt mark timestampinc extension now

def setDefaultPayloadType (pt : BitVec 8) (b : RTPPacketBuilder) :
    Except PackBuildError RTPPacketBuilder :=
  if !b.init then .error .notInit else .ok { b with defaultpayloadtype := some pt }

def setDefaultMark (m : Bool) (b : RTPPacketBuilder) : Except PackBuildError RTPPacketBuilder :=
  if !b.init then .error .notInit else .ok { b with defaultmark := some m }

def setDefaultTimestampIncrement (timestampinc : BitVec 32) (b : RTPPacketBuilder) :
    Except PackBuildError RTPPacketBuilder :=
  if !b.init then .error .notInit else .ok { b with defaulttimestampinc := some timestampinc }

def incrementTimestamp (inc : BitVec 32) (b : RTPPacketBuilder) :
    Except PackBuildError RTPPacketBuilder :=
  if !b.init then .error .notInit else .ok { b with timestamp := b.timestamp + inc }

def incrementTimestampDefault (b : RTPPacketBuilder) : Except PackBuildError RTPPacketBuilder :=
  if !b.init then .error .notInit
  else
    match b.defaulttimestampinc with
    | none => .error .defaultTsIncNotSet
    | some inc => .ok { b with timestamp := b.timestamp + inc }

end RTPPacketBuilder

inductive BuilderCall where
  | initBuilder (max : Nat) (r : RTPPacketBuilder.Drawn)
  | destroy
  | setMaximumPacketSize (max : Nat)
  | addCSRC (csrc : BitVec 32)
  | deleteCSRC (csrc : BitVec 32)
  | clearCSRCList
  | createNewSSRC (r : RTPPacketBuilder.Drawn)
  | createNewSSRCFor (sources : RTPSources) (drawn : List (BitVec 32))
      (timestamp : BitVec 32) (seqnr : BitVec 16)
  | buildPacketWith (data : List UInt8) (pt : BitVec 8) (mark : Bool) (timestampinc : BitVec 32)
      (extension : Option HeaderExtension) (now : RTPTime)
  | buildPacketDefault (data : List UInt8) (extension : Option HeaderExtension) (now : RTPTime)
  | setDefaultPayloadType (pt : BitVec 8)
  | setDefaultMark (m : Bool)
  | setDefaultTimestampIncrement (timestampinc : BitVec 32)
  | incrementTimestamp (inc : BitVec 32)
  | incrementTimestampDefault

namespace RTPPacketBuilder

/-- The outcome of a call; none as long as every SSRC drawn is in use. -/
def perform (b : RTPPacketBuilder) : BuilderCall → Option (Except PackBuildError RTPPacketBuilder)
  | .initBuilder max r => some (b.initBuilder max r)
  | .destroy => some (.ok b.destroy)
  | .setMaximumPacketSize max => some (b.setMaximumPacketSize max)
  | .addCSRC csrc => some (b.addCSRC csrc)
  | .deleteCSRC csrc => some (b.deleteCSRC csrc)
  | .clearCSRCList => some (.ok b.clearCSRCList)
  | .createNewSSRC r => some (.ok (b.createNewSSRC r))
  | .createNewSSRCFor sources drawn timestamp seqnr =>
    (b.createNewSSRCFor sources drawn timestamp seqnr).map .ok
  | .buildPacketWith data pt mark timestampinc extension now =>
    some (b.buildPacketWith data pt mark timestampinc extension now)
  | .buildPacketDefault data extension now => some (b.buildPacketDefault data extension now)
  | .setDefaultPayloadType pt => some (b.setDefaultPayloadType pt)
  | .setDefaultMark m => some (b.setDefaultMark m)
  | .setDefaultTimestampIncrement inc => some (b.setDefaultTimestampIncrement inc)
  | .incrementTimestamp inc => some (b.incrementTimestamp inc)
  | .incrementTimestampDefault => some b.incrementTimestampDefault

/-! ## The CSRC list -/

/-- Deleting moves the last CSRC, and takes the deleted one out. -/
theorem perm_deleteCSRC {csrc : BitVec 32} {b b' : RTPPacketBuilder}
    (h : b.deleteCSRC csrc = .ok b') :
    b'.csrcs.Perm (b.csrcs.erase csrc) ∧ b' = { b with csrcs := b'.csrcs } := by
  unfold deleteCSRC at h
  split at h
  · cases h
  split at h
  swap
  · cases h
  rename_i hMem
  cases h
  refine ⟨?_, rfl⟩
  obtain ⟨front, back, hSplit, hFront⟩ := List.eq_append_cons_of_mem (List.contains_iff_mem.mp hMem)
  have hIndex : b.csrcs.idxOf csrc = front.length := by
    rw [hSplit, List.idxOf_append, if_neg hFront, List.idxOf_cons_self, Nat.zero_add]
  have hErase : b.csrcs.erase csrc = front ++ back := by
    rw [hSplit, List.erase_append_right _ hFront, List.erase_cons_head]
  dsimp only
  rw [hErase, hIndex, hSplit]
  -- the deleted one is the last one, or the last one takes its place
  rcases List.eq_nil_or_concat' back with rfl | ⟨back, last, rfl⟩
  · have hLength : (front ++ [csrc]).length - 1 = front.length := by
      rw [List.length_append]
      rfl
    rw [hLength, if_neg (fun h => h.2 rfl), List.take_left, List.append_nil]
  · have hLength : (front ++ csrc :: (back ++ [last])).length - 1 =
        (front ++ csrc :: back).length := by
      simp only [List.length_append, List.length_cons, List.length_nil]
      omega
    have hLast :
        (front ++ csrc :: (back ++ [last])).getD (front ++ csrc :: back).length 0 = last := by
      have hSame : front ++ csrc :: (back ++ [last]) = (front ++ csrc :: back) ++ [last] := by simp
      rw [hSame, List.getD_eq_getElem?_getD, List.getElem?_concat_length]
      rfl
    have hMoved : (front ++ csrc :: (back ++ [last])).set front.length last =
        (front ++ last :: back) ++ [last] := by
      rw [List.set_append_right _ _ (Nat.le_refl _), Nat.sub_self]
      simp
    have hTake : (front ++ csrc :: back).length = (front ++ last :: back).length := by
      simp only [List.length_append, List.length_cons]
    have hApart : 0 < (front ++ csrc :: back).length ∧
        (front ++ csrc :: back).length ≠ front.length := by
      simp only [List.length_append, List.length_cons]
      omega
    rw [hLength, if_pos hApart, hLast, hMoved, hTake, List.take_left]
    exact List.Perm.append_left front (List.perm_append_singleton last back).symm

/-! ## Building a packet -/

structure Builds (b b' : RTPPacketBuilder) (data : List UInt8) (inc : BitVec 32) (now : RTPTime)
    (p : RTPPacket) : Prop where
  hBuffer : b'.buffer = some p.packet
  hSeqnr : b'.seqnr = b.seqnr + 1
  hTimestamp : b'.timestamp = b.timestamp + inc
  hSsrc : b'.ssrc = b.ssrc
  hCsrcs : b'.csrcs = b.csrcs
  hPackets : b'.numpackets = b.numpackets + 1
  hOctets : b'.numpayloadbytes = b.numpayloadbytes + BitVec.ofNat 32 data.length
  hClock : if b.numpackets = 0 ∨ b.timestamp ≠ b.prevrtptimestamp then
      b'.lastwallclocktime = now ∧ b'.lastrtptimestamp = b.timestamp ∧
        b'.prevrtptimestamp = b.timestamp
    else b'.lastwallclocktime = b.lastwallclocktime ∧ b'.lastrtptimestamp = b.lastrtptimestamp ∧
      b'.prevrtptimestamp = b.prevrtptimestamp

theorem payloadlength_buildPacket {f : RTPFields} {maxsize : Nat} {p : RTPPacket}
    (h : buildPacket f maxsize = .ok p) : p.payloadlength = f.payload.length := by
  unfold buildPacket at h
  repeat' split at h
  all_goals cases h
  rfl

theorem privateBuildPacket_ok {b b' : RTPPacketBuilder} {data : List UInt8} {pt : BitVec 8}
    {mark : Bool} {inc : BitVec 32} {extension : Option HeaderExtension} {now : RTPTime}
    (h : b.privateBuildPacket data pt mark inc extension now = .ok b') :
    ∃ p, buildPacket (b.fields data pt mark extension) b.maxpacksize = .ok p ∧
      Builds b b' data inc now p := by
  unfold privateBuildPacket at h
  cases hPacket : buildPacket (b.fields data pt mark extension) b.maxpacksize with
  | error e =>
    rw [hPacket] at h
    cases h
  | ok p =>
    have hLength : p.payloadlength = data.length := payloadlength_buildPacket hPacket
    rw [hPacket] at h
    refine ⟨p, rfl, ?_⟩
    by_cases hFresh : b.numpackets = 0 ∨ b.timestamp ≠ b.prevrtptimestamp
    · rw [if_pos hFresh] at h
      cases h
      refine ⟨rfl, rfl, rfl, rfl, rfl, rfl, by rw [← hLength], ?_⟩
      rw [if_pos hFresh]
      exact ⟨rfl, rfl, rfl⟩
    · rw [if_neg hFresh] at h
      cases h
      refine ⟨rfl, rfl, rfl, rfl, rfl, rfl, by rw [← hLength], ?_⟩
      rw [if_neg hFresh]
      exact ⟨rfl, rfl, rfl⟩

end RTPPacketBuilder

/-! ## Runs -/

/-- A packet with what was added to the timestamp before it since the SSRC is in use. -/
structure BuiltPacket where
  fields : RTPFields
  datagram : List UInt8
  advanced : BitVec 32
  time : RTPTime

/-- A builder, what was drawn with the SSRC in use, what was added to the timestamp since then, and
the packets that were built. -/
structure BuilderTrace where
  builder : RTPPacketBuilder
  drawn : RTPPacketBuilder.Drawn
  advanced : BitVec 32
  built : List BuiltPacket

namespace BuilderTrace

def new : BuilderTrace := ⟨.new, ⟨0, 0, 0⟩, 0, []⟩

def build (x : BuilderTrace) (b : RTPPacketBuilder) (data : List UInt8) (pt : BitVec 8)
    (mark : Bool) (timestampinc : BitVec 32) (extension : Option HeaderExtension)
    (now : RTPTime) : BuilderTrace :=
  { x with
    builder := b
    advanced := x.advanced + timestampinc
    built := x.built ++ [⟨x.builder.fields data pt mark extension, b.buffer.getD [], x.advanced,
      now⟩] }

/-- What a call draws, it says itself. -/
def follow (x : BuilderTrace) (b : RTPPacketBuilder) : BuilderCall → BuilderTrace
  | .initBuilder _ r => ⟨b, r, 0, []⟩
  | .createNewSSRC r => ⟨b, r, 0, []⟩
  | .createNewSSRCFor sources drawn timestamp seqnr =>
    ⟨b, ⟨(drawn.find? fun ssrc => !sources.gotEntry ssrc).getD 0, timestamp, seqnr⟩, 0, []⟩
  | .buildPacketWith data pt mark timestampinc extension now =>
    x.build b data pt mark timestampinc extension now
  | .buildPacketDefault data extension now =>
    x.build b data (x.builder.defaultpayloadtype.getD 0) (x.builder.defaultmark.getD false)
      (x.builder.defaulttimestampinc.getD 0) extension now
  | .incrementTimestamp inc => { x with builder := b, advanced := x.advanced + inc }
  | .incrementTimestampDefault =>
    { x with builder := b, advanced := x.advanced + x.builder.defaulttimestampinc.getD 0 }
  | _ => { x with builder := b }

/-- A call that reports an error has changed nothing. -/
def step (x : BuilderTrace) (c : BuilderCall) : Option BuilderTrace :=
  (x.builder.perform c).map fun
    | .error _ => x
    | .ok b => x.follow b c

def Received (y : BuiltPacket) : Prop :=
  ∀ (beyond : Nat → UInt8) (rawpack : RTPRawPacket), rawpack.isrtp = true →
    rawpack.data = y.datagram → ∃ p, parseRawPacket beyond rawpack = .ok p ∧ p.Carries y.fields

/-- The time and the timestamp for the sender reports are those of the first of the last packets in a
row that have the timestamp of the very last one. -/
def ClockRead (x : BuilderTrace) : Prop :=
  x.built ≠ [] → ∃ before y after, x.built = before ++ y :: after ∧
    y.time = x.builder.lastwallclocktime ∧
    (∀ z ∈ y :: after, z.fields.timestamp = x.builder.lastrtptimestamp) ∧
    (x.built.length ≤ 2 ^ 32 →
      ∀ z, before.getLast? = some z → z.fields.timestamp ≠ x.builder.lastrtptimestamp)

structure Numbered (x : BuilderTrace) : Prop where
  hSeq : x.built.map (·.fields.seqnr) =
    (List.range x.built.length).map fun i => x.drawn.seqnr + BitVec.ofNat 16 i
  hStamp : ∀ y ∈ x.built, y.fields.timestamp = x.drawn.timestamp + y.advanced
  hSsrc : ∀ y ∈ x.built, y.fields.ssrc = x.drawn.ssrc
  hCsrcs : ∀ y ∈ x.built, y.fields.csrcs.Nodup
  hReceived : ∀ y ∈ x.built, Received y
  hPackets : x.builder.numpackets = BitVec.ofNat 32 x.built.length
  hOctets : x.builder.numpayloadbytes =
    BitVec.ofNat 32 (x.built.map (·.fields.payload.length)).sum
  hClock : x.ClockRead

structure Inv (x : BuilderTrace) : Prop where
  hSeqnr : x.builder.seqnr = x.drawn.seqnr + BitVec.ofNat 16 x.built.length
  hTimestamp : x.builder.timestamp = x.drawn.timestamp + x.advanced
  hSsrc : x.builder.ssrc = x.drawn.ssrc
  hList : x.builder.csrcs.Nodup
  hPrev : ∀ y, x.built.getLast? = some y →
    x.builder.prevrtptimestamp = y.fields.timestamp ∧
      x.builder.lastrtptimestamp = y.fields.timestamp
  hNumbered : x.Numbered

structure Counts (b b' : RTPPacketBuilder) : Prop where
  hSeqnr : b'.seqnr = b.seqnr
  hSsrc : b'.ssrc = b.ssrc
  hPackets : b'.numpackets = b.numpackets
  hOctets : b'.numpayloadbytes = b.numpayloadbytes
  hTime : b'.lastwallclocktime = b.lastwallclocktime
  hLast : b'.lastrtptimestamp = b.lastrtptimestamp
  hPrev : b'.prevrtptimestamp = b.prevrtptimestamp

theorem Inv.advance {x : BuilderTrace} (h : x.Inv) {b : RTPPacketBuilder} {inc : BitVec 32}
    (hCounts : Counts x.builder b) (hStamp : b.timestamp = x.builder.timestamp + inc)
    (hList : b.csrcs.Nodup) : Inv { x with builder := b, advanced := x.advanced + inc } where
  hSeqnr := hCounts.hSeqnr.trans h.hSeqnr
  hTimestamp := by rw [hStamp, h.hTimestamp, BitVec.add_assoc]
  hSsrc := hCounts.hSsrc.trans h.hSsrc
  hList := hList
  hPrev y hy := by
    rw [hCounts.hPrev, hCounts.hLast]
    exact h.hPrev y hy
  hNumbered :=
    { hSeq := h.hNumbered.hSeq
      hStamp := h.hNumbered.hStamp
      hSsrc := h.hNumbered.hSsrc
      hCsrcs := h.hNumbered.hCsrcs
      hReceived := h.hNumbered.hReceived
      hPackets := hCounts.hPackets.trans h.hNumbered.hPackets
      hOctets := hCounts.hOctets.trans h.hNumbered.hOctets
      hClock := by
        rw [ClockRead, hCounts.hTime, hCounts.hLast]
        exact h.hNumbered.hClock }

theorem Inv.stay {x : BuilderTrace} (h : x.Inv) {b : RTPPacketBuilder}
    (hCounts : Counts x.builder b) (hStamp : b.timestamp = x.builder.timestamp)
    (hList : b.csrcs.Nodup) : Inv { x with builder := b } := by
  have hSame := h.advance hCounts (hStamp.trans (BitVec.add_zero _).symm) hList
  rwa [BitVec.add_zero] at hSame

theorem inv_drawn {b : RTPPacketBuilder} {r : RTPPacketBuilder.Drawn} (hSsrc : b.ssrc = r.ssrc)
    (hTimestamp : b.timestamp = r.timestamp) (hSeqnr : b.seqnr = r.seqnr)
    (hPackets : b.numpackets = 0) (hOctets : b.numpayloadbytes = 0) (hList : b.csrcs.Nodup) :
    Inv ⟨b, r, 0, []⟩ where
  hSeqnr := hSeqnr.trans (BitVec.add_zero _).symm
  hTimestamp := hTimestamp.trans (BitVec.add_zero _).symm
  hSsrc := hSsrc
  hList := hList
  hPrev y hy := by cases hy
  hNumbered :=
    { hSeq := rfl
      hStamp := fun y hy => absurd hy List.not_mem_nil
      hSsrc := fun y hy => absurd hy List.not_mem_nil
      hCsrcs := fun y hy => absurd hy List.not_mem_nil
      hReceived := fun y hy => absurd hy List.not_mem_nil
      hPackets := hPackets
      hOctets := hOctets
      hClock := fun hNe => absurd rfl hNe }

theorem Inv.built_ne_nil {x : BuilderTrace} (h : x.Inv) (hLater : x.builder.numpackets ≠ 0) :
    x.built ≠ [] := by
  intro hNil
  have hCount := h.hNumbered.hPackets
  rw [hNil] at hCount
  exact hLater hCount

theorem Inv.stamped {x : BuilderTrace} (h : x.Inv) {b : RTPPacketBuilder} {data : List UInt8}
    {inc : BitVec 32} {now : RTPTime} {p : RTPPacket}
    (hBuilds : RTPPacketBuilder.Builds x.builder b data inc now p) :
    b.prevrtptimestamp = x.builder.timestamp ∧ b.lastrtptimestamp = x.builder.timestamp := by
  have hClock := hBuilds.hClock
  split at hClock
  · exact ⟨hClock.2.2, hClock.2.1⟩
  · rename_i hLater
    rw [not_or, not_not] at hLater
    have hNe := h.built_ne_nil hLater.1
    obtain ⟨hPrev, hLast⟩ := h.hPrev _ (List.getLast?_eq_some_getLast hNe)
    refine ⟨hClock.2.2.trans hLater.2.symm, ?_⟩
    rw [hClock.2.1, hLast, ← hPrev, hLater.2]

/-- The clock is read for the first packet and for every new timestamp. -/
theorem Inv.clockRead {x : BuilderTrace} (h : x.Inv) {b : RTPPacketBuilder} {y : BuiltPacket}
    (hStamp : y.fields.timestamp = x.builder.timestamp) {data : List UInt8} {inc : BitVec 32}
    {p : RTPPacket} (hBuilds : RTPPacketBuilder.Builds x.builder b data inc y.time p)
    (advanced : BitVec 32) : ClockRead ⟨b, x.drawn, advanced, x.built ++ [y]⟩ := by
  intro _
  obtain ⟨-, hLastStamp⟩ := h.stamped hBuilds
  have hClock := hBuilds.hClock
  split at hClock
  · rename_i hFirst
    refine ⟨x.built, y, [], rfl, hClock.1.symm, ?_, ?_⟩
    · intro z hz
      rw [List.mem_singleton.mp hz, hStamp]
      exact hLastStamp.symm
    · intro hLength z hz
      rcases hFirst with hNone | hMoved
      · exfalso
        have hCount := congrArg BitVec.toNat (h.hNumbered.hPackets.symm.trans hNone)
        change (x.built ++ [y]).length ≤ 2 ^ 32 at hLength
        rw [List.length_append, List.length_singleton] at hLength
        rw [BitVec.toNat_ofNat, Nat.mod_eq_of_lt (by omega)] at hCount
        have hNil : x.built = [] := List.length_eq_zero_iff.mp hCount
        rw [hNil] at hz
        cases hz
      · change z.fields.timestamp ≠ b.lastrtptimestamp
        rw [hLastStamp, ← (h.hPrev z hz).1]
        exact hMoved.symm
  · rename_i hLater
    rw [not_or, not_not] at hLater
    have hNe := h.built_ne_nil hLater.1
    obtain ⟨before, first, after, hSplit, hTime, hSame, hApart⟩ := h.hNumbered.hClock hNe
    refine ⟨before, first, after ++ [y], ?_, hTime.trans hClock.1.symm, ?_, ?_⟩
    · change x.built ++ [y] = _
      rw [hSplit, List.append_assoc]
      rfl
    · intro z hz
      change z.fields.timestamp = b.lastrtptimestamp
      rw [← List.cons_append] at hz
      rcases List.mem_append.mp hz with hz | hz
      · rw [hClock.2.1]
        exact hSame z hz
      · rw [List.mem_singleton.mp hz, hStamp, hLastStamp]
    · intro hLength z hz
      change z.fields.timestamp ≠ b.lastrtptimestamp
      rw [hClock.2.1]
      change (x.built ++ [y]).length ≤ 2 ^ 32 at hLength
      rw [List.length_append] at hLength
      exact hApart (by omega) z hz

theorem Inv.build {x : BuilderTrace} (h : x.Inv) {b : RTPPacketBuilder} {data : List UInt8}
    {pt : BitVec 8} {mark : Bool} {inc : BitVec 32} {extension : Option HeaderExtension}
    {now : RTPTime}
    (hBuild : x.builder.privateBuildPacket data pt mark inc extension now = .ok b) :
    (x.build b data pt mark inc extension now).Inv := by
  obtain ⟨p, hPacket, hBuilds⟩ := RTPPacketBuilder.privateBuildPacket_ok hBuild
  have hNumbered := h.hNumbered
  obtain ⟨hPrev, hLast⟩ := h.stamped hBuilds
  let y : BuiltPacket :=
    ⟨x.builder.fields data pt mark extension, b.buffer.getD [], x.advanced, now⟩
  have hLength : (x.built ++ [y]).length = x.built.length + 1 := by
    rw [List.length_append, List.length_singleton]
  have hAll : ∀ {P : BuiltPacket → Prop}, (∀ z ∈ x.built, P z) → P y →
      ∀ z ∈ x.built ++ [y], P z := by
    intro P hOld hNew z hz
    rcases List.mem_append.mp hz with hz | hz
    · exact hOld z hz
    · rw [List.mem_singleton.mp hz]
      exact hNew
  have hReceived : Received y := by
    intro beyond rawpack hRtp hData
    have hBuffer : y.datagram = p.packet := by
      change b.buffer.getD [] = p.packet
      rw [hBuilds.hBuffer]
      rfl
    obtain ⟨q, hParse, -, hCarries⟩ :=
      parseRawPacket_buildPacket beyond hPacket hRtp (hData.trans hBuffer)
    exact ⟨q, hParse, (hCarries _).mpr rfl⟩
  refine ⟨?_, ?_, hBuilds.hSsrc.trans h.hSsrc, ?_, ?_, ⟨?_, ?_, ?_, ?_, ?_, ?_, ?_, ?_⟩⟩
  · change b.seqnr = x.drawn.seqnr + BitVec.ofNat 16 (x.built ++ [y]).length
    rw [hBuilds.hSeqnr, h.hSeqnr, hLength, BitVec.ofNat_add, BitVec.add_assoc]
    rfl
  · change b.timestamp = x.drawn.timestamp + (x.advanced + inc)
    rw [hBuilds.hTimestamp, h.hTimestamp, BitVec.add_assoc]
  · change b.csrcs.Nodup
    rw [hBuilds.hCsrcs]
    exact h.hList
  · intro z hz
    change (x.built ++ [y]).getLast? = some z at hz
    rw [List.getLast?_concat] at hz
    cases hz
    exact ⟨hPrev, hLast⟩
  · change (x.built ++ [y]).map (·.fields.seqnr) = (List.range (x.built ++ [y]).length).map _
    rw [hLength, List.range_succ, List.map_append, List.map_append, hNumbered.hSeq]
    exact congrArg _ (congrArg (fun n => [n]) h.hSeqnr)
  · exact hAll hNumbered.hStamp h.hTimestamp
  · exact hAll hNumbered.hSsrc h.hSsrc
  · exact hAll hNumbered.hCsrcs h.hList
  · exact hAll hNumbered.hReceived hReceived
  · change b.numpackets = BitVec.ofNat 32 (x.built ++ [y]).length
    rw [hBuilds.hPackets, hNumbered.hPackets, hLength, BitVec.ofNat_add]
    rfl
  · change b.numpayloadbytes =
      BitVec.ofNat 32 ((x.built ++ [y]).map (·.fields.payload.length)).sum
    rw [hBuilds.hOctets, hNumbered.hOctets, List.map_append, List.sum_append, BitVec.ofNat_add]
    rfl
  · exact h.clockRead rfl hBuilds _

/-! ## Every call -/

theorem Inv.step {x x' : BuilderTrace} {c : BuilderCall} (h : x.Inv) (hStep : x.step c = some x') :
    x'.Inv := by
  obtain ⟨r, hPerform, rfl⟩ := Option.map_eq_some_iff.mp hStep
  cases r with
  | error e => exact h
  | ok b =>
    cases c with
    | initBuilder max r =>
      have hPerform := Option.some.inj hPerform
      unfold RTPPacketBuilder.initBuilder at hPerform
      repeat' split at hPerform
      all_goals cases hPerform
      exact inv_drawn rfl rfl rfl rfl rfl List.nodup_nil
    | destroy =>
      cases hPerform
      change Inv { x with builder := x.builder.destroy }
      rw [RTPPacketBuilder.destroy]
      split
      · exact h.stay ⟨rfl, rfl, rfl, rfl, rfl, rfl, rfl⟩ rfl h.hList
      · exact h
    | setMaximumPacketSize max =>
      have hPerform := Option.some.inj hPerform
      unfold RTPPacketBuilder.setMaximumPacketSize at hPerform
      split at hPerform <;> cases hPerform
      exact h.stay ⟨rfl, rfl, rfl, rfl, rfl, rfl, rfl⟩ rfl h.hList
    | addCSRC csrc =>
      have hPerform := Option.some.inj hPerform
      unfold RTPPacketBuilder.addCSRC at hPerform
      split at hPerform
      · cases hPerform
      split at hPerform
      · cases hPerform
      split at hPerform
      · cases hPerform
      rename_i hNew
      cases hPerform
      refine h.stay ⟨rfl, rfl, rfl, rfl, rfl, rfl, rfl⟩ rfl ?_
      rw [List.nodup_append]
      refine ⟨h.hList, List.nodup_singleton _, ?_⟩
      intro a ha c hc hEq
      rw [hEq, List.mem_singleton.mp hc] at ha
      exact hNew (List.contains_iff_mem.mpr ha)
    | deleteCSRC csrc =>
      obtain ⟨hPerm, hEq⟩ := RTPPacketBuilder.perm_deleteCSRC (Option.some.inj hPerform)
      change Inv { x with builder := b }
      have hCounts : Counts x.builder b := by
        rw [hEq]
        exact ⟨rfl, rfl, rfl, rfl, rfl, rfl, rfl⟩
      refine h.stay hCounts ?_ (hPerm.nodup_iff.mpr (h.hList.erase csrc))
      rw [hEq]
    | clearCSRCList =>
      cases hPerform
      change Inv { x with builder := x.builder.clearCSRCList }
      rw [RTPPacketBuilder.clearCSRCList]
      split
      · exact h.stay ⟨rfl, rfl, rfl, rfl, rfl, rfl, rfl⟩ rfl List.nodup_nil
      · exact h
    | createNewSSRC r =>
      cases hPerform
      exact inv_drawn rfl rfl rfl rfl rfl h.hList
    | createNewSSRCFor sources drawn timestamp seqnr =>
      obtain ⟨b', hCreate, hOk⟩ := Option.map_eq_some_iff.mp hPerform
      cases hOk
      obtain ⟨ssrc, hFree, rfl⟩ := Option.map_eq_some_iff.mp hCreate
      have hDrawn : ssrc = (drawn.find? fun ssrc => !sources.gotEntry ssrc).getD 0 := by
        rw [hFree]
        rfl
      exact inv_drawn hDrawn rfl rfl rfl rfl h.hList
    | buildPacketWith data pt mark inc extension now =>
      have hPerform := Option.some.inj hPerform
      unfold RTPPacketBuilder.buildPacketWith at hPerform
      split at hPerform
      · cases hPerform
      exact h.build hPerform
    | buildPacketDefault data extension now =>
      have hPerform := Option.some.inj hPerform
      unfold RTPPacketBuilder.buildPacketDefault at hPerform
      split at hPerform
      · cases hPerform
      split at hPerform
      · cases hPerform
      · cases hPerform
      · cases hPerform
      rename_i pt mark inc hType hMark hInc
      have hSame : x.follow b (.buildPacketDefault data extension now) =
          x.build b data pt mark inc extension now := by
        rw [follow, hType, hMark, hInc]
        rfl
      change Inv (x.follow b (.buildPacketDefault data extension now))
      rw [hSame]
      exact h.build hPerform
    | setDefaultPayloadType pt =>
      have hPerform := Option.some.inj hPerform
      unfold RTPPacketBuilder.setDefaultPayloadType at hPerform
      split at hPerform <;> cases hPerform
      exact h.stay ⟨rfl, rfl, rfl, rfl, rfl, rfl, rfl⟩ rfl h.hList
    | setDefaultMark m =>
      have hPerform := Option.some.inj hPerform
      unfold RTPPacketBuilder.setDefaultMark at hPerform
      split at hPerform <;> cases hPerform
      exact h.stay ⟨rfl, rfl, rfl, rfl, rfl, rfl, rfl⟩ rfl h.hList
    | setDefaultTimestampIncrement inc =>
      have hPerform := Option.some.inj hPerform
      unfold RTPPacketBuilder.setDefaultTimestampIncrement at hPerform
      split at hPerform <;> cases hPerform
      exact h.stay ⟨rfl, rfl, rfl, rfl, rfl, rfl, rfl⟩ rfl h.hList
    | incrementTimestamp inc =>
      have hPerform := Option.some.inj hPerform
      unfold RTPPacketBuilder.incrementTimestamp at hPerform
      split at hPerform <;> cases hPerform
      exact h.advance ⟨rfl, rfl, rfl, rfl, rfl, rfl, rfl⟩ rfl h.hList
    | incrementTimestampDefault =>
      have hPerform := Option.some.inj hPerform
      unfold RTPPacketBuilder.incrementTimestampDefault at hPerform
      split at hPerform
      · cases hPerform
      split at hPerform
      · cases hPerform
      rename_i inc hInc
      cases hPerform
      have hSame : x.builder.defaulttimestampinc.getD 0 = inc := by
        rw [hInc]
        rfl
      refine h.advance ⟨rfl, rfl, rfl, rfl, rfl, rfl, rfl⟩ ?_ h.hList
      rw [hSame]

theorem inv_new : new.Inv := inv_drawn rfl rfl rfl rfl rfl List.nodup_nil

theorem always_numbered (cs : List BuilderCall) : Always step Numbered new cs :=
  always_of_invariant Inv.step Inv.hNumbered inv_new

end BuilderTrace
end LocalCall.Jrtp
