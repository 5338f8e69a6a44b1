import LocalCall.Jni.Jrtp
import LocalCall.Jrtp.PacketBuilder

/-! # The session over the packet builder of the library

The session of the application keeps the fields of what it sends. Over the builder of the library
it sends datagrams, and over every run of calls these are the same packets to the same
destinations.
-/
namespace LocalCall.Jrtp
set_option autoImplicit false

inductive SessionCall where
  | create (outcome : Jni.CreateOutcome)
  | setDefaultPayloadType (pt : BitVec 8)
  | setDefaultMark (m : Bool)
  | setDefaultTimestampIncrement (inc : BitVec 32)
  | addDestination (addr : Jni.RTPIPv4Address)
  | sendPacket (data : List UInt8) (pt : BitVec 8) (mark : Bool) (timestampinc : BitVec 32)
      (now : RTPTime)
  | incrementTimestampDefault
  | byeDestroy

/-- A call on the session of the application, which goes on after an error. -/
def sessionStep (s : Jni.RTPSession) : SessionCall → Jni.RTPSession
  | .create outcome => s.checked (s.create outcome)
  | .setDefaultPayloadType pt => s.checked (s.setDefaultPayloadType pt)
  | .setDefaultMark m => s.checked (s.setDefaultMark m)
  | .setDefaultTimestampIncrement inc => s.checked (s.setDefaultTimestampIncrement inc)
  | .addDestination addr => s.checked (s.addDestination addr)
  | .sendPacket data pt mark timestampinc _ =>
    s.checked (s.sendPacket data pt.toNat mark timestampinc)
  | .incrementTimestampDefault => s.checked s.incrementTimestampDefault
  | .byeDestroy => s.byeDestroy

/-- What is sent is a datagram with its destinations. -/
structure WireSession where
  created : Bool
  packetbuilder : RTPPacketBuilder
  destinations : Finset Jni.RTPIPv4Address
  sent : List (List UInt8 × Finset Jni.RTPIPv4Address)

namespace WireSession

def new : WireSession := ⟨false, .new, ∅, []⟩

/-- A call that the session passes on to its builder; none if there is an error. -/
def onBuilder (call : RTPPacketBuilder → Except PackBuildError RTPPacketBuilder)
    (s : WireSession) : Option WireSession :=
  if s.created then
    match call s.packetbuilder with
    | .error _ => none
    | .ok b => some { s with packetbuilder := b }
  else none

def create (outcome : Jni.CreateOutcome) (s : WireSession) : Option WireSession :=
  if s.created then none
  else
    match outcome with
    | .failed => none
    | .created ssrc timestamp seqnr =>
      match s.packetbuilder.initBuilder Jni.RTPSession.defaultPacketSize
          ⟨ssrc, timestamp, seqnr⟩ with
      | .error _ => none
      | .ok b => some { s with created := true, packetbuilder := b, destinations := ∅ }

def addDestination (addr : Jni.RTPIPv4Address) (s : WireSession) : Option WireSession :=
  if s.created then
    if addr ∈ s.destinations then none
    else some { s with destinations := insert addr s.destinations }
  else none

def sendPacket (data : List UInt8) (pt : BitVec 8) (mark : Bool) (timestampinc : BitVec 32)
    (now : RTPTime) (s : WireSession) : Option WireSession :=
  (s.onBuilder (·.buildPacketWith data pt mark timestampinc none now)).map fun s' =>
    { s' with sent := s'.sent ++ [(s'.packetbuilder.buffer.getD [], s'.destinations)] }

def byeDestroy (s : WireSession) : WireSession :=
  if s.created then
    { s with created := false, packetbuilder := s.packetbuilder.destroy, destinations := ∅ }
  else s

def step (s : WireSession) : SessionCall → WireSession
  | .create outcome => (s.create outcome).getD s
  | .setDefaultPayloadType pt => (s.onBuilder (·.setDefaultPayloadType pt)).getD s
  | .setDefaultMark m => (s.onBuilder (·.setDefaultMark m)).getD s
  | .setDefaultTimestampIncrement inc =>
    (s.onBuilder (·.setDefaultTimestampIncrement inc)).getD s
  | .addDestination addr => (s.addDestination addr).getD s
  | .sendPacket data pt mark timestampinc now =>
    (s.sendPacket data pt mark timestampinc now).getD s
  | .incrementTimestampDefault => (s.onBuilder RTPPacketBuilder.incrementTimestampDefault).getD s
  | .byeDestroy => s.byeDestroy

end WireSession

/-! ## The builders -/

structure SameBuilder (j : Jni.RTPPacketBuilder) (b : RTPPacketBuilder) : Prop where
  hInit : b.init = true
  hMax : b.maxpacksize = j.maxpacksize
  hSsrc : b.ssrc = j.ssrc
  hTimestamp : b.timestamp = j.timestamp
  hSeqnr : b.seqnr = j.seqnr
  hType : b.defaultpayloadtype = j.defaultpayloadtype
  hMark : b.defaultmark = j.defaultmark
  hInc : b.defaulttimestampinc = j.defaulttimestampinc
  hCsrcs : b.csrcs = []

def wireFields (p : Jni.RTPPacket) : RTPFields where
  payloadtype := BitVec.ofNat 8 p.payloadtype
  payload := p.payload
  seqnr := p.seqnr
  timestamp := p.timestamp
  ssrc := p.ssrc
  marker := p.marker
  csrcs := []
  extension := none

def OnWire (packet : Jni.RTPPacket) (bytes : List UInt8) : Prop :=
  ∀ (beyond : Nat → UInt8) (rawpack : RTPRawPacket), rawpack.isrtp = true →
    rawpack.data = bytes → ∃ p, parseRawPacket beyond rawpack = .ok p ∧
      p.Carries (wireFields packet) ∧ p.payloadtype = packet.payloadtype

theorem privateBuildPacket_settings {b b' : RTPPacketBuilder} {data : List UInt8} {pt : BitVec 8}
    {mark : Bool} {inc : BitVec 32} {extension : Option HeaderExtension} {now : RTPTime}
    (h : b.privateBuildPacket data pt mark inc extension now = .ok b') :
    b'.init = b.init ∧ b'.maxpacksize = b.maxpacksize ∧
      b'.defaultpayloadtype = b.defaultpayloadtype ∧ b'.defaultmark = b.defaultmark ∧
        b'.defaulttimestampinc = b.defaulttimestampinc := by
  unfold RTPPacketBuilder.privateBuildPacket at h
  split at h
  · cases h
  by_cases hFresh : b.numpackets = 0 ∨ b.timestamp ≠ b.prevrtptimestamp
  · rw [if_pos hFresh] at h
    cases h
    exact ⟨rfl, rfl, rfl, rfl, rfl⟩
  · rw [if_neg hFresh] at h
    cases h
    exact ⟨rfl, rfl, rfl, rfl, rfl⟩

namespace SameBuilder
variable {j : Jni.RTPPacketBuilder} {b : RTPPacketBuilder} (h : SameBuilder j b)
include h

theorem started : ¬ (!b.init) = true := by
  rw [h.hInit]
  exact Bool.false_ne_true

theorem buildPacket_error {data : List UInt8} {pt : BitVec 8} {mark : Bool} {inc : BitVec 32}
    {now : RTPTime} {e : RTPPacketError}
    (hBuild : Jrtp.buildPacket (b.fields data pt mark none) b.maxpacksize = .error e) :
    b.buildPacketWith data pt mark inc none now = .error (.packet e) := by
  rw [RTPPacketBuilder.buildPacketWith, h.hInit, RTPPacketBuilder.privateBuildPacket, hBuild]
  rfl

theorem buildPacket_ok {data : List UInt8} {pt : BitVec 8} {mark : Bool} {inc : BitVec 32}
    {now : RTPTime} {p : RTPPacket}
    (hBuild : Jrtp.buildPacket (b.fields data pt mark none) b.maxpacksize = .ok p) :
    ∃ b', b.buildPacketWith data pt mark inc none now = .ok b' ∧ b'.buffer = some p.packet ∧
      SameBuilder { j with timestamp := j.timestamp + inc, seqnr := j.seqnr + 1 } b' := by
  obtain ⟨b', hPrivate⟩ : ∃ b', b.privateBuildPacket data pt mark inc none now = .ok b' := by
    rw [RTPPacketBuilder.privateBuildPacket, hBuild]
    exact ⟨_, rfl⟩
  obtain ⟨q, hSame, hBuilds⟩ := RTPPacketBuilder.privateBuildPacket_ok hPrivate
  cases hBuild.symm.trans hSame
  obtain ⟨hInit, hMax, hType, hMark, hInc⟩ := privateBuildPacket_settings hPrivate
  refine ⟨b', ?_, hBuilds.hBuffer, ?_⟩
  · rw [RTPPacketBuilder.buildPacketWith, h.hInit, hPrivate]
    rfl
  · exact {
      hInit := hInit.trans h.hInit
      hMax := hMax.trans h.hMax
      hSsrc := hBuilds.hSsrc.trans h.hSsrc
      hTimestamp := by rw [hBuilds.hTimestamp, h.hTimestamp]
      hSeqnr := by rw [hBuilds.hSeqnr, h.hSeqnr]
      hType := hType.trans h.hType
      hMark := hMark.trans h.hMark
      hInc := hInc.trans h.hInc
      hCsrcs := hBuilds.hCsrcs.trans h.hCsrcs }

/-- The two builders fail together, or build the same packet. -/
theorem buildPacket (data : List UInt8) (pt : BitVec 8) (mark : Bool) (inc : BitVec 32)
    (now : RTPTime) :
    (∃ e e', j.buildPacket data pt.toNat mark inc = .error e ∧
      b.buildPacketWith data pt mark inc none now = .error e') ∨
    ∃ packet j' b' bytes, j.buildPacket data pt.toNat mark inc = .ok (packet, j') ∧
      b.buildPacketWith data pt mark inc none now = .ok b' ∧ SameBuilder j' b' ∧
        b'.buffer = some bytes ∧ OnWire packet bytes := by
  have hOffset : payloadOffset (b.fields data pt mark none) = Jni.RTPPacketBuilder.headerSize := by
    change RTPHeader.size + 4 * b.csrcs.length + 0 = _
    rw [h.hCsrcs]
    rfl
  have hCount : ¬ maxCSRCs < (b.fields data pt mark none).csrcs.length := by
    change ¬ maxCSRCs < b.csrcs.length
    rw [h.hCsrcs]
    exact Nat.not_lt_zero _
  have hSize : 0 < b.maxpacksize ∧
      b.maxpacksize < payloadOffset (b.fields data pt mark none) + data.length ↔
      0 < j.maxpacksize ∧ j.maxpacksize < Jni.RTPPacketBuilder.headerSize + data.length := by
    rw [hOffset, h.hMax]
  unfold Jni.RTPPacketBuilder.buildPacket
  by_cases hHigh : 127 < pt.toNat
  · have hBuild : Jrtp.buildPacket (b.fields data pt mark none) b.maxpacksize =
        .error .badPayloadType := by
      rw [Jrtp.buildPacket, if_neg hCount]
      exact if_pos hHigh
    exact .inl ⟨_, _, if_pos hHigh, h.buildPacket_error hBuild⟩
  by_cases hReport : pt.toNat = 72 ∨ pt.toNat = 73
  · have hBuild : Jrtp.buildPacket (b.fields data pt mark none) b.maxpacksize =
        .error .badPayloadType := by
      rw [Jrtp.buildPacket, if_neg hCount]
      exact (if_neg hHigh).trans (if_pos hReport)
    exact .inl ⟨_, _, (if_neg hHigh).trans (if_pos hReport), h.buildPacket_error hBuild⟩
  rw [if_neg hHigh, if_neg hReport]
  by_cases hLong : 0 < j.maxpacksize ∧
      j.maxpacksize < Jni.RTPPacketBuilder.headerSize + data.length
  · have hBuild : Jrtp.buildPacket (b.fields data pt mark none) b.maxpacksize =
        .error .dataExceedsMaxSize := by
      rw [Jrtp.buildPacket, if_neg hCount]
      exact (if_neg hHigh).trans ((if_neg hReport).trans (if_pos (hSize.mpr hLong)))
    exact .inl ⟨_, _, if_pos hLong, h.buildPacket_error hBuild⟩
  · obtain ⟨p, hBuild⟩ : ∃ p, Jrtp.buildPacket (b.fields data pt mark none) b.maxpacksize =
        .ok p := by
      rw [Jrtp.buildPacket, if_neg hCount]
      exact ⟨_, (if_neg hHigh).trans ((if_neg hReport).trans (if_neg (mt hSize.mp hLong)))⟩
    obtain ⟨b', hWith, hBuffer, hSame⟩ := h.buildPacket_ok hBuild
    refine .inr ⟨⟨pt.toNat, data, j.seqnr, j.timestamp, j.ssrc, mark⟩, _, b', _, if_neg hLong,
      hWith, hSame, hBuffer, ?_⟩
    intro beyond rawpack hRtp hData
    obtain ⟨q, hParse, -, hCarries⟩ := parseRawPacket_buildPacket beyond hBuild hRtp hData
    have hFields : wireFields ⟨pt.toNat, data, j.seqnr, j.timestamp, j.ssrc, mark⟩ =
        b.fields data pt mark none := by
      rw [wireFields, RTPPacketBuilder.fields, h.hSeqnr, h.hTimestamp, h.hSsrc, h.hCsrcs,
        BitVec.ofNat_toNat, BitVec.setWidth_eq]
    have hHere := (hCarries _).mpr hFields
    refine ⟨q, hParse, hHere, ?_⟩
    rw [hHere.hType, hFields]
    rfl

end SameBuilder

/-! ## The sessions -/

structure Represents (s : Jni.RTPSession) (w : WireSession) : Prop where
  hCreated : w.created = s.created
  hDestinations : w.destinations = s.destinations
  hBuilder : s.created = true → SameBuilder s.packetbuilder w.packetbuilder
  hIdle : s.created = false → w.packetbuilder.init = false
  hSent : List.Forall₂ (fun x y => OnWire x.packet y.1 ∧ y.2 = x.destinations) s.sent w.sent

namespace Represents
variable {s : Jni.RTPSession} {w : WireSession} (h : Represents s w)
include h

theorem not_created (hFalse : s.created = false) : ¬ w.created = true := by
  rw [h.hCreated, hFalse]
  exact Bool.false_ne_true

theorem withBuilder {j : Jni.RTPPacketBuilder} {b : RTPPacketBuilder} (hCreated : s.created = true)
    (hSame : SameBuilder j b) :
    Represents { s with packetbuilder := j } { w with packetbuilder := b } := by
  refine { h with hBuilder := fun _ => hSame, hIdle := ?_ }
  intro hFalse
  cases hCreated.symm.trans hFalse

/-- A call that both sessions pass on to their builders. -/
theorem onBuilder {call : RTPPacketBuilder → Except PackBuildError RTPPacketBuilder}
    {r : Except Jni.RTPError Jni.RTPSession}
    (hIdle : s.created = false → ∃ e, r = .error e)
    (hCall : s.created = true →
      (∃ e e', r = .error e ∧ call w.packetbuilder = .error e') ∨
        ∃ j b, r = .ok { s with packetbuilder := j } ∧ call w.packetbuilder = .ok b ∧
          SameBuilder j b) :
    Represents (s.checked r) ((w.onBuilder call).getD w) := by
  unfold WireSession.onBuilder
  cases hCreated : s.created with
  | false =>
    obtain ⟨e, rfl⟩ := hIdle hCreated
    rw [if_neg (h.not_created hCreated)]
    exact h
  | true =>
    rw [if_pos (h.hCreated.trans hCreated)]
    rcases hCall hCreated with ⟨e, e', rfl, hError⟩ | ⟨j, b, rfl, hOk, hSame⟩
    · rw [hError]
      exact h
    · rw [hOk]
      exact h.withBuilder hCreated hSame

theorem create (outcome : Jni.CreateOutcome) :
    Represents (s.checked (s.create outcome)) ((w.create outcome).getD w) := by
  unfold Jni.RTPSession.create WireSession.create
  cases hCreated : s.created with
  | true =>
    rw [if_pos rfl, if_pos (h.hCreated.trans hCreated)]
    exact h
  | false =>
    rw [if_neg Bool.false_ne_true, if_neg (h.not_created hCreated)]
    cases outcome with
    | failed => exact h
    | created ssrc timestamp seqnr =>
      have hIdle := h.hIdle hCreated
      have hSize : ¬ Jni.RTPSession.defaultPacketSize = 0 := by decide
      dsimp only
      rw [RTPPacketBuilder.initBuilder, hIdle, if_neg Bool.false_ne_true, if_neg hSize]
      refine ⟨rfl, rfl, fun _ => ?_, by rintro ⟨⟩, h.hSent⟩
      exact ⟨rfl, rfl, rfl, rfl, rfl, rfl, rfl, rfl, rfl⟩

theorem sendPacket (data : List UInt8) (pt : BitVec 8) (mark : Bool) (inc : BitVec 32)
    (now : RTPTime) :
    Represents (s.checked (s.sendPacket data pt.toNat mark inc))
      ((w.sendPacket data pt mark inc now).getD w) := by
  unfold Jni.RTPSession.sendPacket WireSession.sendPacket WireSession.onBuilder
  cases hCreated : s.created with
  | false =>
    rw [if_neg Bool.false_ne_true, if_neg (h.not_created hCreated)]
    exact h
  | true =>
    rw [if_pos rfl, if_pos (h.hCreated.trans hCreated)]
    rcases (h.hBuilder hCreated).buildPacket data pt mark inc now with
      ⟨e, e', hError, hError'⟩ | ⟨packet, j, b, bytes, hOk, hOk', hSame, hBuffer, hWire⟩
    · dsimp only
      rw [hError, hError']
      exact h
    · dsimp only
      rw [hOk, hOk']
      refine ⟨h.hCreated.trans hCreated, h.hDestinations, fun _ => hSame, by rintro ⟨⟩, ?_⟩
      refine List.rel_append h.hSent (.cons ⟨?_, h.hDestinations⟩ .nil)
      change OnWire packet (b.buffer.getD [])
      rw [hBuffer]
      exact hWire

theorem addDestination (addr : Jni.RTPIPv4Address) :
    Represents (s.checked (s.addDestination addr)) ((w.addDestination addr).getD w) := by
  unfold Jni.RTPSession.addDestination WireSession.addDestination
  rw [h.hDestinations]
  cases hCreated : s.created with
  | false =>
    rw [if_neg Bool.false_ne_true, if_neg (h.not_created hCreated)]
    exact h
  | true =>
    rw [if_pos rfl, if_pos (h.hCreated.trans hCreated)]
    split
    · exact h
    · exact ⟨h.hCreated.trans hCreated, rfl, fun _ => h.hBuilder hCreated, by rintro ⟨⟩, h.hSent⟩

theorem byeDestroy : Represents s.byeDestroy w.byeDestroy := by
  unfold Jni.RTPSession.byeDestroy WireSession.byeDestroy
  cases hCreated : s.created with
  | false =>
    rw [if_neg Bool.false_ne_true, if_neg (h.not_created hCreated)]
    exact h
  | true =>
    rw [if_pos rfl, if_pos (h.hCreated.trans hCreated)]
    refine ⟨rfl, rfl, by rintro ⟨⟩, fun _ => ?_, h.hSent⟩
    change w.packetbuilder.destroy.init = false
    rw [RTPPacketBuilder.destroy, if_pos (h.hBuilder hCreated).hInit]

theorem step (c : SessionCall) : Represents (sessionStep s c) (w.step c) := by
  cases c with
  | create outcome => exact h.create outcome
  | addDestination addr => exact h.addDestination addr
  | sendPacket data pt mark inc now => exact h.sendPacket data pt mark inc now
  | byeDestroy => exact h.byeDestroy
  | setDefaultPayloadType pt =>
    refine h.onBuilder (fun hFalse => ?_) fun hCreated => .inr ?_
    · exact ⟨_, if_neg (by rw [hFalse]; exact Bool.false_ne_true)⟩
    · have hSame := h.hBuilder hCreated
      refine ⟨_, { w.packetbuilder with defaultpayloadtype := some pt }, if_pos hCreated, ?_,
        { hSame with hType := rfl }⟩
      exact if_neg hSame.started
  | setDefaultMark m =>
    refine h.onBuilder (fun hFalse => ?_) fun hCreated => .inr ?_
    · exact ⟨_, if_neg (by rw [hFalse]; exact Bool.false_ne_true)⟩
    · have hSame := h.hBuilder hCreated
      refine ⟨_, { w.packetbuilder with defaultmark := some m }, if_pos hCreated, ?_,
        { hSame with hMark := rfl }⟩
      exact if_neg hSame.started
  | setDefaultTimestampIncrement inc =>
    refine h.onBuilder (fun hFalse => ?_) fun hCreated => .inr ?_
    · exact ⟨_, if_neg (by rw [hFalse]; exact Bool.false_ne_true)⟩
    · have hSame := h.hBuilder hCreated
      refine ⟨_, { w.packetbuilder with defaulttimestampinc := some inc }, if_pos hCreated, ?_,
        { hSame with hInc := rfl }⟩
      exact if_neg hSame.started
  | incrementTimestampDefault =>
    refine h.onBuilder (fun hFalse => ?_) fun hCreated => ?_
    · exact ⟨_, if_neg (by rw [hFalse]; exact Bool.false_ne_true)⟩
    · have hSame := h.hBuilder hCreated
      unfold Jni.RTPSession.incrementTimestampDefault
      rw [if_pos hCreated]
      cases hInc : s.packetbuilder.defaulttimestampinc with
      | none =>
        refine .inl ⟨.packbuildDefaultTsIncNotSet, .defaultTsIncNotSet, ?_, ?_⟩
        · rw [Jni.RTPPacketBuilder.incrementTimestampDefault, hInc]
        · rw [RTPPacketBuilder.incrementTimestampDefault, if_neg hSame.started, hSame.hInc, hInc]
      | some inc =>
        have hBuilder : w.packetbuilder.incrementTimestampDefault =
            .ok { w.packetbuilder with timestamp := w.packetbuilder.timestamp + inc } := by
          simp only [RTPPacketBuilder.incrementTimestampDefault, if_neg hSame.started, hSame.hInc,
            hInc]
        refine .inr ⟨{ s.packetbuilder with timestamp := s.packetbuilder.timestamp + inc }, _, ?_,
          hBuilder, { hSame with hTimestamp := ?_ }⟩
        · simp only [Jni.RTPPacketBuilder.incrementTimestampDefault, hInc]
        · change w.packetbuilder.timestamp + inc = s.packetbuilder.timestamp + inc
          rw [hSame.hTimestamp]

end Represents

/-- Over every run of calls the same packets are sent, as datagrams, to the same destinations. -/
theorem represents_run (cs : List SessionCall) :
    Represents (cs.foldl sessionStep .new) (cs.foldl WireSession.step .new) := by
  have hNew : Represents .new .new := ⟨rfl, rfl, by rintro ⟨⟩, fun _ => rfl, .nil⟩
  generalize Jni.RTPSession.new = s at hNew
  generalize WireSession.new = w at hNew
  induction cs generalizing s w with
  | nil => exact hNew
  | cons c cs ih => exact ih _ _ (hNew.step c)

end LocalCall.Jrtp
