import LocalCall.Jrtp.SdesPacket

/-! # What an RTCP packet says

The packets of the five types as a receiver constructs and reads them, against the format that their
bytes have.
-/
namespace LocalCall.Jrtp
set_option autoImplicit false

open Piece

/-- What the accessors of a packet give. Between a reason for leaving that is empty and none the
reader of a BYE packet can tell. -/
inductive RTCPContents where
  | sr (senderssrc : BitVec 32) (info : RTCPSenderReport) (reports : List RTCPReceiverReport)
  | rr (senderssrc : BitVec 32) (reports : List RTCPReceiverReport)
  | sdes (chunks : List (BitVec 32 × List (SDESType × List UInt8)))
  | bye (ssrcs : List (BitVec 32)) (reason : Option (List UInt8))
  | app (subtype : BitVec 5) (ssrc name : BitVec 32) (appdata : List UInt8)
  | unknown (packettype : BitVec 8)

/-- The objects of a compound packet; the flag is `knownformat`. -/
inductive RTCPObject where
  | sr (data : List UInt8) (knownformat : Bool)
  | rr (data : List UInt8) (knownformat : Bool)
  | sdes (p : RTCPSDESPacket)
  | bye (data : List UInt8) (knownformat : Bool) (reasonoffset : Nat)
  | app (data : List UInt8) (knownformat : Bool) (appdatalen : Nat)
  | unknown (data : List UInt8)

def reportCheck (expectedlength : Nat) (hdr : RTCPCommonHeader) (len : Nat) : Except Stop Unit :=
  if expectedlength + 24 * hdr.count.toNat ≠ len then .error .unknownFormat else .ok ()

namespace RTCPSRPacket

def check : RTCPCommonHeader → Nat → Except Stop Unit := reportCheck (4 + 4 + 20)

def read (data : List UInt8) : Option RTCPContents := do
  let hdr ← RTCPCommonHeader.record.read data 0
  let senderssrc ← word32.read data 4
  let info ← RTCPSenderReport.record.read data (4 + 4)
  let reports ← RTCPReceiverReport.record.readAll data (4 + 4 + 20) hdr.count.toNat
  return .sr senderssrc info reports

end RTCPSRPacket

namespace RTCPRRPacket

def check : RTCPCommonHeader → Nat → Except Stop Unit := reportCheck (4 + 4)

def read (data : List UInt8) : Option RTCPContents := do
  let hdr ← RTCPCommonHeader.record.read data 0
  let senderssrc ← word32.read data 4
  let reports ← RTCPReceiverReport.record.readAll data (4 + 4) hdr.count.toNat
  return .rr senderssrc reports

end RTCPRRPacket

namespace RTCPBYEPacket

/-- The offset of the reason for leaving, zero if there is none. -/
def check (data : List UInt8) (hdr : RTCPCommonHeader) (len : Nat) : Except Stop Nat :=
  let ssrclen := hdr.count.toNat * 4 + 4
  if len < ssrclen then .error .unknownFormat
  else if ssrclen < len then
    match data[ssrclen]? with
    | none => .error .outside
    | some reaslen =>
      if len - ssrclen - 1 < reaslen.toNat then .error .unknownFormat else .ok ssrclen
  else .ok 0

def readReason (data : List UInt8) (reasonoffset : Nat) : Option (Option (List UInt8)) :=
  if reasonoffset = 0 then some none
  else do
    let reasonlen ← data[reasonoffset]?
    let reason ← slice data (reasonoffset + 1) reasonlen.toNat
    return some reason

def read (data : List UInt8) (reasonoffset : Nat) : Option RTCPContents := do
  let hdr ← RTCPCommonHeader.record.read data 0
  let ssrcs ← word32.readAll data 4 hdr.count.toNat
  let reason ← readReason data reasonoffset
  return .bye ssrcs reason

end RTCPBYEPacket

namespace RTCPAPPPacket

def check (_ : RTCPCommonHeader) (len : Nat) : Except Stop Nat :=
  if len < 4 + 4 * 2 then .error .unknownFormat else .ok (len - (4 + 4 * 2))

def read (data : List UInt8) (appdatalen : Nat) : Option RTCPContents := do
  let hdr ← RTCPCommonHeader.record.read data 0
  let ssrc ← word32.read data 4
  let name ← word32.read data (4 + 4)
  let appdata ← slice data (4 + 4 * 2) appdatalen
  return .app hdr.count ssrc name appdata

end RTCPAPPPacket

def rtcpTypeSDES : Nat := 202
def rtcpTypeBYE : Nat := 203
def rtcpTypeAPP : Nat := 204

/-- What a constructor comes to: none if it reads behind the packet. -/
def attempt {α : Type} : Except Stop α → Option (Option α)
  | .error .outside => none
  | .error .unknownFormat => some none
  | .ok a => some (some a)

/-- The object that `ParseData` makes of a packet. -/
def construct (hdr : RTCPCommonHeader) (data : List UInt8) : Option RTCPObject :=
  if hdr.packettype.toNat = rtcpTypeSR then
    (attempt (constructed RTCPSRPacket.check data)).map fun known => .sr data known.isSome
  else if hdr.packettype.toNat = rtcpTypeRR then
    (attempt (constructed RTCPRRPacket.check data)).map fun known => .rr data known.isSome
  else if hdr.packettype.toNat = rtcpTypeSDES then
    (attempt (constructed (RTCPSDESPacket.check data) data)).map fun known =>
      .sdes ⟨data, known.isSome, none, 0, 0⟩
  else if hdr.packettype.toNat = rtcpTypeBYE then
    (attempt (constructed (RTCPBYEPacket.check data) data)).map fun known =>
      .bye data known.isSome (known.getD 0)
  else if hdr.packettype.toNat = rtcpTypeAPP then
    (attempt (constructed RTCPAPPPacket.check data)).map fun known =>
      .app data known.isSome (known.getD 0)
  else some (.unknown data)

/-- What is read of an object, nothing if its format is not known; none if a read leaves the
packet. -/
def RTCPObject.read : RTCPObject → Option (Option RTCPContents)
  | .sr data true => (RTCPSRPacket.read data).map some
  | .rr data true => (RTCPRRPacket.read data).map some
  | .sdes p => if p.knownformat then p.read.map fun chunks => some (.sdes chunks) else some none
  | .bye data true reasonoffset => (RTCPBYEPacket.read data reasonoffset).map some
  | .app data true appdatalen => (RTCPAPPPacket.read data appdatalen).map some
  | .unknown data =>
    (RTCPCommonHeader.record.read data 0).map fun hdr => some (.unknown hdr.packettype)
  | _ => some none

/-! ## The format -/

/-- What may stand behind the sources of a BYE packet, and the reason for leaving that it gives. -/
inductive LeavingReason : List UInt8 → Option (List UInt8) → Prop where
  | none : LeavingReason [] none
  | some (reason rest : List UInt8) (hReason : reason.length < 256) :
      LeavingReason (UInt8.ofNat reason.length :: (reason ++ rest)) (some reason)

/-- The bodies of the types that have a format, and what they say. -/
inductive Body (hdr : RTCPCommonHeader) : List UInt8 → RTCPContents → Prop where
  | sr (senderssrc : BitVec 32) (info : RTCPSenderReport) (reports : List RTCPReceiverReport)
      (hType : hdr.packettype.toNat = rtcpTypeSR) (hCount : reports.length = hdr.count.toNat) :
      Body hdr
        (word32.write senderssrc ++ (RTCPSenderReport.record.write info ++
          reports.flatMap RTCPReceiverReport.record.write))
        (.sr senderssrc info reports)
  | rr (senderssrc : BitVec 32) (reports : List RTCPReceiverReport)
      (hType : hdr.packettype.toNat = rtcpTypeRR) (hCount : reports.length = hdr.count.toNat) :
      Body hdr (word32.write senderssrc ++ reports.flatMap RTCPReceiverReport.record.write)
        (.rr senderssrc reports)
  | sdes (chunks : List RTCPSDESPacket.Chunk)
      (hType : hdr.packettype.toNat = rtcpTypeSDES) (hCount : chunks.length = hdr.count.toNat) :
      Body hdr (RTCPSDESPacket.writeChunks chunks)
        (.sdes (chunks.map RTCPSDESPacket.Chunk.contents))
  | bye (ssrcs : List (BitVec 32)) (last : List UInt8) (reason : Option (List UInt8))
      (hType : hdr.packettype.toNat = rtcpTypeBYE) (hCount : ssrcs.length = hdr.count.toNat)
      (hReason : LeavingReason last reason) :
      Body hdr (ssrcs.flatMap word32.write ++ last) (.bye ssrcs reason)
  | app (ssrc name : BitVec 32) (appdata : List UInt8)
      (hType : hdr.packettype.toNat = rtcpTypeAPP) :
      Body hdr (word32.write ssrc ++ (word32.write name ++ appdata))
        (.app hdr.count ssrc name appdata)

def RTCPContents.packettype : RTCPContents → Nat
  | .sr _ _ _ => rtcpTypeSR
  | .rr _ _ => rtcpTypeRR
  | .sdes _ => rtcpTypeSDES
  | .bye _ _ => rtcpTypeBYE
  | .app _ _ _ _ => rtcpTypeAPP
  | .unknown packettype => packettype.toNat

theorem Body.type {hdr : RTCPCommonHeader} {body : List UInt8} {c : RTCPContents}
    (h : Body hdr body c) : hdr.packettype.toNat = c.packettype := by
  cases h <;> assumption

def knownTypes : List Nat := [rtcpTypeSR, rtcpTypeRR, rtcpTypeSDES, rtcpTypeBYE, rtcpTypeAPP]

theorem Body.type_mem {hdr : RTCPCommonHeader} {body : List UInt8} {c : RTCPContents}
    (h : Body hdr body c) : hdr.packettype.toNat ∈ knownTypes := by
  cases h <;> simp [knownTypes, *]

inductive Says (data : List UInt8) : RTCPContents → Prop where
  | known {hdr : RTCPCommonHeader} {body pad : List UInt8} {c : RTCPContents}
      (hLayout : Layout hdr body pad data) (hBody : Body hdr body c) : Says data c
  | unknown {hdr : RTCPCommonHeader} (hHeader : At data 0 hdr.write)
      (hType : hdr.packettype.toNat ∉ knownTypes) : Says data (.unknown hdr.packettype)

/-- What is shown of each of the constructors, and the reads of the packets that it accepts. -/
structure Format {α : Type} (data : List UInt8) (packettype : Nat)
    (check : RTCPCommonHeader → Nat → Except Stop α) (read : α → Option RTCPContents) : Prop where
  hShort : ∀ hdr len a, check hdr len = .ok a → 4 ≤ len
  hInside : ∀ hdr len, len ≤ data.length → check hdr len ≠ .error .outside
  hSound : ∀ hdr body pad a, hdr.packettype.toNat = packettype → Layout hdr body pad data →
    check hdr (4 + body.length) = .ok a → ∃ c, Body hdr body c ∧ read a = some c
  hComplete : ∀ hdr body pad c, hdr.packettype.toNat = packettype → Layout hdr body pad data →
    Body hdr body c → ∃ a, check hdr (4 + body.length) = .ok a ∧ read a = some c

/-- An object is read for what its bytes say, and only the packets that say nothing are of an
unknown format. -/
def Reads (data : List UInt8) (object : Option RTCPObject) : Prop :=
  ∃ p c, object = some p ∧ p.read = some c ∧ ∀ c', c = some c' ↔ Says data c'

theorem Format.attempt {α : Type} {data : List UInt8} {packettype : Nat}
    {check : RTCPCommonHeader → Nat → Except Stop α} {read : α → Option RTCPContents}
    (h : Format data packettype check read) (hKnown : packettype ∈ knownTypes)
    {hdr : RTCPCommonHeader} (hRead : RTCPCommonHeader.record.read data 0 = some hdr)
    (hType : hdr.packettype.toNat = packettype) :
    ∃ known c, attempt (constructed check data) = some known ∧
      known.elim (some none) (fun a => (read a).map some) = some c ∧
        ∀ c', c = some c' ↔ Says data c' := by
  have hHeader : ∀ {hdr' body pad}, Layout hdr' body pad data → hdr' = hdr := by
    intro hdr' body pad hLayout
    exact Option.some.inj (hLayout.read.symm.trans hRead)
  have hSays : ∀ c', Says data c' → ∃ body pad, Layout hdr body pad data ∧ Body hdr body c' := by
    intro c' hSays
    cases hSays with
    | known hLayout hBody =>
      cases hHeader hLayout
      exact ⟨_, _, hLayout, hBody⟩
    | unknown hHere hUnknown =>
      have hSame := (Record.read_eq_some_iff (R := RTCPCommonHeader.record)).mpr hHere
      cases hRead.symm.trans hSame
      exact absurd (hType ▸ hKnown) hUnknown
  have hSize : 4 ≤ data.length := by
    have hLe := (Record.read_eq_some_iff.mp hRead).le
    change 0 + hdr.write.length ≤ _ at hLe
    rw [RTCPCommonHeader.length_write, Nat.zero_add] at hLe
    exact hLe
  cases hResult : constructed check data with
  | error e =>
    cases e with
    | outside => exact absurd hResult (constructed_ne_outside hSize h.hInside)
    | unknownFormat =>
      refine ⟨none, none, rfl, rfl, ?_⟩
      intro c'
      constructor
      · rintro ⟨⟩
      · intro hSaid
        obtain ⟨body, pad, hLayout, hBody⟩ := hSays c' hSaid
        obtain ⟨a, hCheck, -⟩ := h.hComplete hdr body pad c' hType hLayout hBody
        rw [(constructed_eq_ok_iff (h.hShort · · a)).mpr ⟨hdr, body, pad, hLayout, hCheck⟩]
          at hResult
        cases hResult
  | ok a =>
    obtain ⟨hdr', body, pad, hLayout, hCheck⟩ :=
      (constructed_eq_ok_iff (h.hShort · · a)).mp hResult
    cases hHeader hLayout
    obtain ⟨c, hBody, hContents⟩ := h.hSound _ body pad a hType hLayout hCheck
    refine ⟨some a, some c, rfl, congrArg (Option.map some) hContents, ?_⟩
    intro c'
    constructor
    · rintro ⟨⟩
      exact .known hLayout hBody
    · intro hSaid
      obtain ⟨body', pad', hLayout', hBody'⟩ := hSays c' hSaid
      obtain ⟨a', hCheck', hContents'⟩ := h.hComplete _ body' pad' c' hType hLayout' hBody'
      have hOk := (constructed_eq_ok_iff (h.hShort · · a')).mpr
        ⟨_, body', pad', hLayout', hCheck'⟩
      rw [hResult] at hOk
      cases hOk
      exact hContents.symm.trans hContents'

theorem reportCheck_eq_ok_iff {expectedlength len : Nat} {hdr : RTCPCommonHeader} {u : Unit} :
    reportCheck expectedlength hdr len = .ok u ↔ expectedlength + 24 * hdr.count.toNat = len := by
  unfold reportCheck
  split
  · rename_i hNe
    constructor
    · rintro ⟨⟩
    · intro h
      exact absurd h hNe
  · rename_i hEq
    exact ⟨fun _ => Decidable.not_not.mp hEq, fun _ => rfl⟩

theorem reportCheck_ne_outside {expectedlength len : Nat} {hdr : RTCPCommonHeader} :
    reportCheck expectedlength hdr len ≠ .error .outside := by
  unfold reportCheck
  split <;> rintro ⟨⟩

theorem RTCPSRPacket.read_eq {hdr : RTCPCommonHeader} {data pad : List UInt8}
    {senderssrc : BitVec 32} {info : RTCPSenderReport} {reports : List RTCPReceiverReport}
    (hLayout : Layout hdr (word32.write senderssrc ++ (RTCPSenderReport.record.write info ++
      reports.flatMap RTCPReceiverReport.record.write)) pad data)
    (hCount : reports.length = hdr.count.toNat) :
    read data = some (.sr senderssrc info reports) := by
  have hAt := hLayout.body_at
  rw [at_append_iff, at_append_iff, Record.length_write, Record.length_write] at hAt
  obtain ⟨hSsrc, hInfo, hReports⟩ := hAt
  have hReports : RTCPReceiverReport.record.readAll data (4 + 4 + 20) hdr.count.toNat =
      some reports := by
    rw [← hCount]
    exact Record.readAll_of_at hReports
  have hInfo : RTCPSenderReport.record.read data (4 + 4) = some info :=
    Record.read_eq_some_iff.mpr hInfo
  simp only [read, hLayout.read, Record.read_eq_some_iff.mpr hSsrc, hInfo, hReports,
    Option.bind_eq_bind, Option.bind_some, Option.pure_def]

theorem RTCPSRPacket.format (data : List UInt8) :
    Format data rtcpTypeSR check (fun _ => read data) where
  hShort hdr len a h := by
    have hLen := reportCheck_eq_ok_iff.mp h
    omega
  hInside _ _ _ := reportCheck_ne_outside
  hSound hdr body pad a hType hLayout hCheck := by
    have hLen : 28 + 24 * hdr.count.toNat = 4 + body.length := reportCheck_eq_ok_iff.mp hCheck
    obtain ⟨senderssrc, rest, rfl, hRest⟩ := word32.exists_write_append (l := body) (by
      change 4 ≤ _
      omega)
    obtain ⟨info, blocks, rfl, hBlocks⟩ := RTCPSenderReport.record.exists_write_append (l := rest)
      (by
        change _ = 4 + _ at hRest
        change 20 ≤ _
        omega)
    obtain ⟨reports, hCount, rfl⟩ := RTCPReceiverReport.record.exists_flatMap_write (l := blocks)
      (n := hdr.count.toNat) (by
        change _ = 4 + _ at hRest
        change _ = 20 + _ at hBlocks
        change _ = 24 * _
        omega)
    exact ⟨_, .sr senderssrc info reports hType hCount, read_eq hLayout hCount⟩
  hComplete hdr body pad c hType hLayout hBody := by
    have hKind := hBody.type
    cases hBody with
    | sr senderssrc info reports hType hCount =>
      refine ⟨(), reportCheck_eq_ok_iff.mpr ?_, read_eq hLayout hCount⟩
      simp only [List.length_append, Record.length_write, Record.length_flatMap_write]
      change 28 + _ = 4 + (4 + (20 + 24 * _))
      omega
    | _ => exact absurd (hType.symm.trans hKind) (Nat.ne_of_beq_eq_false rfl)

theorem RTCPRRPacket.read_eq {hdr : RTCPCommonHeader} {data pad : List UInt8}
    {senderssrc : BitVec 32} {reports : List RTCPReceiverReport}
    (hLayout : Layout hdr (word32.write senderssrc ++
      reports.flatMap RTCPReceiverReport.record.write) pad data)
    (hCount : reports.length = hdr.count.toNat) :
    read data = some (.rr senderssrc reports) := by
  have hAt := hLayout.body_at
  rw [at_append_iff, Record.length_write] at hAt
  obtain ⟨hSsrc, hReports⟩ := hAt
  have hReports : RTCPReceiverReport.record.readAll data (4 + 4) hdr.count.toNat =
      some reports := by
    rw [← hCount]
    exact Record.readAll_of_at hReports
  simp only [read, hLayout.read, Record.read_eq_some_iff.mpr hSsrc, hReports,
    Option.bind_eq_bind, Option.bind_some, Option.pure_def]

theorem RTCPRRPacket.format (data : List UInt8) :
    Format data rtcpTypeRR check (fun _ => read data) where
  hShort hdr len a h := by
    have hLen := reportCheck_eq_ok_iff.mp h
    omega
  hInside _ _ _ := reportCheck_ne_outside
  hSound hdr body pad a hType hLayout hCheck := by
    have hLen : 8 + 24 * hdr.count.toNat = 4 + body.length := reportCheck_eq_ok_iff.mp hCheck
    obtain ⟨senderssrc, blocks, rfl, hBlocks⟩ := word32.exists_write_append (l := body) (by
      change 4 ≤ _
      omega)
    obtain ⟨reports, hCount, rfl⟩ := RTCPReceiverReport.record.exists_flatMap_write (l := blocks)
      (n := hdr.count.toNat) (by
        change _ = 4 + _ at hBlocks
        change _ = 24 * _
        omega)
    exact ⟨_, .rr senderssrc reports hType hCount, read_eq hLayout hCount⟩
  hComplete hdr body pad c hType hLayout hBody := by
    have hKind := hBody.type
    cases hBody with
    | rr senderssrc reports hType hCount =>
      refine ⟨(), reportCheck_eq_ok_iff.mpr ?_, read_eq hLayout hCount⟩
      simp only [List.length_append, Record.length_write, Record.length_flatMap_write]
      change 8 + _ = 4 + (4 + 24 * _)
      omega
    | _ => exact absurd (hType.symm.trans hKind) (Nat.ne_of_beq_eq_false rfl)

theorem RTCPSDESPacket.format (data : List UInt8) (p : RTCPSDESPacket) (hData : p.data = data)
    (hKnown : p.knownformat = true) :
    Format data rtcpTypeSDES (check data) (fun _ => p.read.map .sdes) where
  hShort _ _ _ h := four_le_of_check h
  hInside _ _ h := check_ne_outside h
  hSound hdr body pad a hType hLayout hCheck := by
    obtain ⟨chunks, hCount, rfl⟩ := (check_eq_ok_iff hLayout).mp hCheck
    refine ⟨_, .sdes chunks hType hCount, ?_⟩
    rw [read_eq hKnown (hData ▸ hLayout) hCount]
    rfl
  hComplete hdr body pad c hType hLayout hBody := by
    have hKind := hBody.type
    cases hBody with
    | sdes chunks hType hCount =>
      refine ⟨(), (check_eq_ok_iff hLayout).mpr ⟨chunks, hCount, rfl⟩, ?_⟩
      rw [read_eq hKnown (hData ▸ hLayout) hCount]
      rfl
    | _ => exact absurd (hType.symm.trans hKind) (Nat.ne_of_beq_eq_false rfl)

theorem RTCPBYEPacket.read_eq {hdr : RTCPCommonHeader} {data pad last : List UInt8}
    {ssrcs : List (BitVec 32)} {reason : Option (List UInt8)}
    (hLayout : Layout hdr (ssrcs.flatMap word32.write ++ last) pad data)
    (hCount : ssrcs.length = hdr.count.toNat) (hReason : LeavingReason last reason) :
    ∃ reasonoffset,
      check data hdr (4 + (ssrcs.flatMap word32.write ++ last).length) = .ok reasonoffset ∧
        read data reasonoffset = some (.bye ssrcs reason) := by
  have hAt := hLayout.body_at
  rw [at_append_iff, Record.length_flatMap_write] at hAt
  obtain ⟨hSsrcs, hLast⟩ := hAt
  have hSsrcs : word32.readAll data 4 hdr.count.toNat = some ssrcs := by
    rw [← hCount]
    exact Record.readAll_of_at hSsrcs
  have hLength : (ssrcs.flatMap word32.write).length = hdr.count.toNat * 4 := by
    rw [Record.length_flatMap_write, hCount]
    exact Nat.mul_comm _ _
  have hPlace : 4 + word32.size * ssrcs.length = hdr.count.toNat * 4 + 4 := by
    rw [hCount]
    change 4 + 4 * _ = _
    omega
  rw [hPlace] at hLast
  rw [List.length_append, hLength]
  cases hReason with
  | none =>
    refine ⟨0, ?_, ?_⟩
    · rw [check, List.length_nil, if_neg (by omega), if_neg (by omega)]
    · simp only [read, hLayout.read, hSsrcs, readReason, if_true, Option.bind_eq_bind,
        Option.bind_some, Option.pure_def]
  | some reason rest hSmall =>
    obtain ⟨hByte, hRest⟩ := at_cons_iff.mp hLast
    have hReason := (at_append_iff.mp hRest).1
    have hValue : (UInt8.ofNat reason.length).toNat = reason.length :=
      UInt8.toNat_ofNat_of_lt hSmall
    refine ⟨hdr.count.toNat * 4 + 4, ?_, ?_⟩
    · rw [check, List.length_cons, List.length_append, if_neg (by omega), if_pos (by omega),
        hByte]
      dsimp only
      rw [hValue, if_neg (by omega)]
    · simp only [read, hLayout.read, hSsrcs, readReason, hByte, hValue, hReason.slice rfl,
        Option.bind_eq_bind, Option.bind_some, Option.pure_def]
      rfl

theorem RTCPBYEPacket.format (data : List UInt8) :
    Format data rtcpTypeBYE (check data) (read data) where
  hShort hdr len a h := by
    unfold check at h
    dsimp only at h
    split at h
    · cases h
    · omega
  hInside hdr len hLen := by
    unfold check
    dsimp only
    split
    · rintro ⟨⟩
    split
    · split
      · rename_i hNone
        rw [List.getElem?_eq_none_iff] at hNone
        omega
      · split <;> rintro ⟨⟩
    · rintro ⟨⟩
  hSound hdr body pad a hType hLayout hCheck := by
    have hKeep := hCheck
    unfold check at hCheck
    dsimp only at hCheck
    split at hCheck
    · cases hCheck
    rename_i hEnough
    have hBody : body.take (4 * hdr.count.toNat) ++ body.drop (4 * hdr.count.toNat) = body :=
      List.take_append_drop _ _
    obtain ⟨ssrcs, hCount, hSsrcs⟩ := word32.exists_flatMap_write
      (l := body.take (4 * hdr.count.toNat)) (n := hdr.count.toNat) (by
        rw [List.length_take]
        change min _ _ = 4 * _
        omega)
    obtain ⟨reason, hReason⟩ :
        ∃ reason, LeavingReason (body.drop (4 * hdr.count.toNat)) reason := by
      cases hLast : body.drop (4 * hdr.count.toNat) with
      | nil => exact ⟨none, .none⟩
      | cons reaslen tail =>
        have hTail := congrArg List.length hLast
        rw [List.length_drop, List.length_cons] at hTail
        have hAt := hLayout.body_at
        rw [← hBody, at_append_iff, hLast, at_cons_iff, List.length_take] at hAt
        have hPlace : 4 + min (4 * hdr.count.toNat) body.length = hdr.count.toNat * 4 + 4 := by
          omega
        rw [hPlace] at hAt
        rw [if_pos (by omega), hAt.2.1] at hCheck
        dsimp only at hCheck
        split at hCheck
        · cases hCheck
        rename_i hFits
        have hTake : (tail.take reaslen.toNat).length = reaslen.toNat := by
          rw [List.length_take]
          omega
        refine ⟨some (tail.take reaslen.toNat), ?_⟩
        have hSome := LeavingReason.some (tail.take reaslen.toNat) (tail.drop reaslen.toNat)
          (by rw [hTake]; exact reaslen.toNat_lt)
        rwa [hTake, UInt8.ofNat_toNat, List.take_append_drop] at hSome
    rw [← hSsrcs] at hBody
    rw [← hBody] at hLayout hKeep ⊢
    obtain ⟨reasonoffset, hOffset, hRead⟩ := read_eq hLayout hCount hReason
    rw [hKeep] at hOffset
    cases hOffset
    exact ⟨_, .bye ssrcs _ reason hType hCount hReason, hRead⟩
  hComplete hdr body pad c hType hLayout hBody := by
    have hKind := hBody.type
    cases hBody with
    | bye ssrcs last reason hType hCount hReason => exact read_eq hLayout hCount hReason
    | _ => exact absurd (hType.symm.trans hKind) (Nat.ne_of_beq_eq_false rfl)

theorem RTCPAPPPacket.read_eq {hdr : RTCPCommonHeader} {data pad appdata : List UInt8}
    {ssrc name : BitVec 32}
    (hLayout : Layout hdr (word32.write ssrc ++ (word32.write name ++ appdata)) pad data) :
    read data appdata.length = some (.app hdr.count ssrc name appdata) := by
  have hAt := hLayout.body_at
  rw [at_append_iff, at_append_iff, Record.length_write, Record.length_write] at hAt
  obtain ⟨hSsrc, hName, hData⟩ := hAt
  have hName : word32.read data (4 + 4) = some name := Record.read_eq_some_iff.mpr hName
  have hData : slice data (4 + 4 * 2) appdata.length = some appdata := hData
  simp only [read, hLayout.read, Record.read_eq_some_iff.mpr hSsrc, hName, hData,
    Option.bind_eq_bind, Option.bind_some, Option.pure_def]

theorem RTCPAPPPacket.format (data : List UInt8) :
    Format data rtcpTypeAPP check (read data) where
  hShort hdr len a h := by
    unfold check at h
    split at h
    · cases h
    · omega
  hInside _ _ _ := by
    unfold check
    split <;> rintro ⟨⟩
  hSound hdr body pad a hType hLayout hCheck := by
    unfold check at hCheck
    split at hCheck
    · cases hCheck
    rename_i hEnough
    cases hCheck
    obtain ⟨ssrc, rest, rfl, hRest⟩ := word32.exists_write_append (l := body) (by
      change 4 ≤ _
      omega)
    obtain ⟨name, appdata, rfl, hData⟩ := word32.exists_write_append (l := rest) (by
      change _ = 4 + _ at hRest
      change 4 ≤ _
      omega)
    refine ⟨_, .app ssrc name appdata hType, ?_⟩
    have hLen : 4 + (word32.write ssrc ++ (word32.write name ++ appdata)).length - (4 + 4 * 2) =
        appdata.length := by
      change _ = 4 + _ at hRest
      change _ = 4 + _ at hData
      omega
    rw [hLen]
    exact read_eq hLayout
  hComplete hdr body pad c hType hLayout hBody := by
    have hKind := hBody.type
    cases hBody with
    | app ssrc name appdata hType =>
      refine ⟨appdata.length, ?_, read_eq hLayout⟩
      have hLen : (word32.write ssrc ++ (word32.write name ++ appdata)).length =
          8 + appdata.length := by
        rw [List.length_append, List.length_append, Record.length_write, Record.length_write]
        change 4 + (4 + _) = _
        omega
      rw [check, hLen, if_neg (by omega)]
      congr 1
      omega
    | _ => exact absurd (hType.symm.trans hKind) (Nat.ne_of_beq_eq_false rfl)

/-- Whatever a packet is, its object is read for what the bytes say. -/
theorem reads_construct {hdr : RTCPCommonHeader} {data : List UInt8}
    (hRead : RTCPCommonHeader.record.read data 0 = some hdr) : Reads data (construct hdr data) := by
  unfold construct
  split
  · rename_i hType
    obtain ⟨known, c, hAttempt, hContents, hSays⟩ :=
      (RTCPSRPacket.format data).attempt (by decide) hRead hType
    refine ⟨_, c, by rw [hAttempt]; rfl, ?_, hSays⟩
    cases known <;> exact hContents
  split
  · rename_i hType
    obtain ⟨known, c, hAttempt, hContents, hSays⟩ :=
      (RTCPRRPacket.format data).attempt (by decide) hRead hType
    refine ⟨_, c, by rw [hAttempt]; rfl, ?_, hSays⟩
    cases known <;> exact hContents
  split
  · rename_i hType
    obtain ⟨known, c, hAttempt, hContents, hSays⟩ :=
      (RTCPSDESPacket.format data ⟨data, true, none, 0, 0⟩ rfl rfl).attempt (by decide) hRead hType
    refine ⟨_, c, by rw [hAttempt]; rfl, ?_, hSays⟩
    cases known with
    | none => exact hContents
    | some u =>
      rw [← hContents]
      exact (Option.map_map _ _ _).symm
  split
  · rename_i hType
    obtain ⟨known, c, hAttempt, hContents, hSays⟩ :=
      (RTCPBYEPacket.format data).attempt (by decide) hRead hType
    refine ⟨_, c, by rw [hAttempt]; rfl, ?_, hSays⟩
    cases known <;> exact hContents
  split
  · rename_i hType
    obtain ⟨known, c, hAttempt, hContents, hSays⟩ :=
      (RTCPAPPPacket.format data).attempt (by decide) hRead hType
    refine ⟨_, c, by rw [hAttempt]; rfl, ?_, hSays⟩
    cases known <;> exact hContents
  rename_i hSR hRR hSDES hBYE hAPP
  have hUnknown : hdr.packettype.toNat ∉ knownTypes := by
    simp only [knownTypes, List.mem_cons, List.not_mem_nil, or_false, not_or]
    exact ⟨hSR, hRR, hSDES, hBYE, hAPP⟩
  refine ⟨_, some (.unknown hdr.packettype), rfl, by rw [RTCPObject.read, hRead]; rfl, ?_⟩
  intro c
  constructor
  · rintro ⟨⟩
    exact .unknown (Record.read_eq_some_iff.mp hRead) hUnknown
  · intro h
    cases h with
    | known hLayout hBody =>
      cases hRead.symm.trans hLayout.read
      exact absurd hBody.type_mem hUnknown
    | unknown hHeader hType =>
      have hSame := (Record.read_eq_some_iff (R := RTCPCommonHeader.record)).mpr hHeader
      cases hRead.symm.trans hSame
      rfl

end LocalCall.Jrtp
