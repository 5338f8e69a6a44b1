import Mathlib.Data.Finset.Insert

/-! # What the application uses of the RTP library

A session builds packets with a running timestamp and sequence number and sends each of them to
every member of its destination set. Nothing here removes a destination: `DeleteDestination` and
`ClearDestinations` exist in the library, and the application calls neither.
-/
namespace LocalCall.Jni
set_option autoImplicit false

structure RTPIPv4Address where
  ip : BitVec 32
  port : BitVec 16
  deriving DecidableEq

structure RTPPacket where
  payloadtype : Nat
  payload : List UInt8
  seqnr : BitVec 16
  timestamp : BitVec 32
  ssrc : BitVec 32
  marker : Bool
  deriving DecidableEq

inductive RTPError where
  | sessionNotCreated | sessionAlreadyCreated | transmissionFailed
  | packetBadPayloadType | packetDataExceedsMaxSize
  | hashtableElementAlreadyExists | packbuildDefaultTsIncNotSet
  deriving DecidableEq

/-- `numcsrcs` is zero throughout; the counters behind the sender reports are left out. -/
structure RTPPacketBuilder where
  maxpacksize : Nat
  ssrc : BitVec 32
  timestamp : BitVec 32
  seqnr : BitVec 16
  defaultpayloadtype : Option (BitVec 8)
  defaultmark : Option Bool
  defaulttimestampinc : Option (BitVec 32)
  deriving DecidableEq

namespace RTPPacketBuilder

def headerSize : Nat := 12

/-- `PrivateBuildPacket` without a header extension, and the checks of `RTPPacket::BuildPacket`:
the increment is added after the packet has been built. -/
def buildPacket (b : RTPPacketBuilder) (data : List UInt8) (pt : Nat) (mark : Bool)
    (timestampinc : BitVec 32) : Except RTPError (RTPPacket × RTPPacketBuilder) :=
  if 127 < pt then .error .packetBadPayloadType
  else if pt = 72 ∨ pt = 73 then .error .packetBadPayloadType
  else if 0 < b.maxpacksize ∧ b.maxpacksize < headerSize + data.length then
    .error .packetDataExceedsMaxSize
  else
    .ok (⟨pt, data, b.seqnr, b.timestamp, b.ssrc, mark⟩,
      { b with timestamp := b.timestamp + timestampinc, seqnr := b.seqnr + 1 })

def incrementTimestampDefault (b : RTPPacketBuilder) : Except RTPError RTPPacketBuilder :=
  match b.defaulttimestampinc with
  | none => .error .packbuildDefaultTsIncNotSet
  | some inc => .ok { b with timestamp := b.timestamp + inc }

end RTPPacketBuilder

/-- A packet as `SendRTPData` hands it to the socket: once for each destination of that moment. -/
structure SentPacket where
  packet : RTPPacket
  destinations : Finset RTPIPv4Address
  deriving DecidableEq

/-- What `Create` ends with: a failure, or the random numbers that a new packet builder draws. -/
inductive CreateOutcome where
  | failed
  | created (ssrc timestamp : BitVec 32) (seqnr : BitVec 16)
  deriving DecidableEq

structure RTPSession where
  created : Bool
  packetbuilder : RTPPacketBuilder
  destinations : Finset RTPIPv4Address
  sent : List SentPacket
  deriving DecidableEq

namespace RTPSession

def defaultPacketSize : Nat := 1400

def new : RTPSession where
  created := false
  packetbuilder := ⟨0, 0, 0, 0, none, none, none⟩
  destinations := ∅
  sent := []

/-- The transmitter and the packet builder of a created session are new ones. -/
def create (outcome : CreateOutcome) (s : RTPSession) : Except RTPError RTPSession :=
  if s.created then .error .sessionAlreadyCreated
  else
    match outcome with
    | .failed => .error .transmissionFailed
    | .created ssrc timestamp seqnr =>
      .ok { s with
        created := true
        packetbuilder := ⟨defaultPacketSize, ssrc, timestamp, seqnr, none, none, none⟩
        destinations := ∅ }

def setDefaultPayloadType (pt : BitVec 8) (s : RTPSession) : Except RTPError RTPSession :=
  if s.created then
    .ok { s with packetbuilder := { s.packetbuilder with defaultpayloadtype := some pt } }
  else .error .sessionNotCreated

def setDefaultMark (m : Bool) (s : RTPSession) : Except RTPError RTPSession :=
  if s.created then
    .ok { s with packetbuilder := { s.packetbuilder with defaultmark := some m } }
  else .error .sessionNotCreated

def setDefaultTimestampIncrement (inc : BitVec 32) (s : RTPSession) :
    Except RTPError RTPSession :=
  if s.created then
    .ok { s with packetbuilder := { s.packetbuilder with defaulttimestampinc := some inc } }
  else .error .sessionNotCreated

def byeDestroy (s : RTPSession) : RTPSession :=
  if s.created then { s with created := false, destinations := ∅ } else s

def addDestination (addr : RTPIPv4Address) (s : RTPSession) : Except RTPError RTPSession :=
  if s.created then
    if addr ∈ s.destinations then .error .hashtableElementAlreadyExists
    else .ok { s with destinations := insert addr s.destinations }
  else .error .sessionNotCreated

def sendPacket (data : List UInt8) (pt : Nat) (mark : Bool) (timestampinc : BitVec 32)
    (s : RTPSession) : Except RTPError RTPSession :=
  if s.created then
    match s.packetbuilder.buildPacket data pt mark timestampinc with
    | .error e => .error e
    | .ok (packet, builder) =>
      .ok { s with packetbuilder := builder, sent := s.sent ++ [⟨packet, s.destinations⟩] }
  else .error .sessionNotCreated

def incrementTimestampDefault (s : RTPSession) : Except RTPError RTPSession :=
  if s.created then
    match s.packetbuilder.incrementTimestampDefault with
    | .error e => .error e
    | .ok builder => .ok { s with packetbuilder := builder }
  else .error .sessionNotCreated

/-- `checkerror` only logs: the caller goes on with the session that the failed call left. -/
def checked (s : RTPSession) : Except RTPError RTPSession → RTPSession
  | .ok s' => s'
  | .error _ => s

theorem checked_incrementTimestampDefault (s : RTPSession) (inc : BitVec 32)
    (h : s.created = true) (hInc : s.packetbuilder.defaulttimestampinc = some inc) :
    s.checked s.incrementTimestampDefault =
      { s with packetbuilder :=
        { s.packetbuilder with timestamp := s.packetbuilder.timestamp + inc } } := by
  simp only [incrementTimestampDefault, RTPPacketBuilder.incrementTimestampDefault, hInc, if_pos h,
    checked]

theorem checked_sendPacket (s : RTPSession) (data : List UInt8) (pt : Nat) (mark : Bool)
    (inc : BitVec 32) (h : s.created = true) {packet : RTPPacket} {builder : RTPPacketBuilder}
    (hBuild : s.packetbuilder.buildPacket data pt mark inc = .ok (packet, builder)) :
    s.checked (s.sendPacket data pt mark inc) =
      { s with packetbuilder := builder, sent := s.sent ++ [⟨packet, s.destinations⟩] } := by
  rw [sendPacket, if_pos h, hBuild, checked]

theorem checked_addDestination (addr : RTPIPv4Address) (s : RTPSession) (h : s.created = true) :
    s.checked (s.addDestination addr) = { s with destinations := insert addr s.destinations } := by
  rw [addDestination, if_pos h]
  split
  · rename_i hMem
    rw [checked, Finset.insert_eq_of_mem hMem]
  · rfl

theorem sendPacket_frame (s : RTPSession) (data : List UInt8) (pt : Nat) (mark : Bool)
    (inc : BitVec 32) :
    (s.checked (s.sendPacket data pt mark inc)).created = s.created ∧
      (s.checked (s.sendPacket data pt mark inc)).destinations = s.destinations := by
  rw [sendPacket]
  split
  · cases s.packetbuilder.buildPacket data pt mark inc <;> exact ⟨rfl, rfl⟩
  · exact ⟨rfl, rfl⟩

theorem incrementTimestampDefault_frame (s : RTPSession) :
    (s.checked s.incrementTimestampDefault).created = s.created ∧
      (s.checked s.incrementTimestampDefault).destinations = s.destinations := by
  rw [incrementTimestampDefault]
  split
  · cases s.packetbuilder.incrementTimestampDefault <;> exact ⟨rfl, rfl⟩
  · exact ⟨rfl, rfl⟩

end RTPSession
end LocalCall.Jni
