import LocalCall.Jrtp.RtpPacket

/-! # What an RTP packet tells its receiver

The accessors of a parsed packet against the fields that its sender built it from.
-/
namespace LocalCall.Jrtp
set_option autoImplicit false

open BigEndian

structure RTPPacket.Carries (p : RTPPacket) (f : RTPFields) : Prop where
  hType : p.payloadtype = f.payloadtype.toNat
  hMarker : p.hasmarker = f.marker
  hSeq : p.extseqnr = f.seqnr.setWidth 32
  hTimestamp : p.timestamp = f.timestamp
  hSsrc : p.ssrc = f.ssrc
  hCount : p.numcsrcs = f.csrcs.length
  hCsrcs : ∀ i (hi : i < f.csrcs.length), p.getCSRC i = f.csrcs[i]
  hExtension : p.hasextension = f.extension.isSome
  hExtensionData : ∀ e ∈ f.extension, p.extid = e.extid ∧ p.getExtensionData = e.data
  hPayload : p.getPayloadData = f.payload

theorem getPayloadData_layout (f : RTPFields) (pad : List UInt8) :
    (layout f pad).getPayloadData = f.payload := by
  have hFront : ((header f (!pad.isEmpty)).write ++ csrcBytes f ++ extensionBytes f).length =
      payloadOffset f := by
    simp only [List.length_append, RTPHeader.length_write, length_csrcBytes, payloadOffset]
  change ((datagram f pad).drop (payloadOffset f)).take f.payload.length = _
  rw [datagram, ← List.append_assoc, ← List.append_assoc, List.drop_left' hFront, List.take_left]

theorem getCSRC_layout (f : RTPFields) (pad : List UInt8) {i : Nat} (hi : i < f.csrcs.length) :
    (layout f pad).getCSRC i = f.csrcs[i] := by
  have hIndex : i < (f.csrcs.map BitVec.toNat).length := by rwa [List.length_map]
  have hShort : 4 * i + 4 ≤ (csrcBytes f).length := by
    rw [length_csrcBytes]
    omega
  have hWord : ((datagram f pad).drop (RTPHeader.size + 4 * i)).take 4 =
      bytes 4 f.csrcs[i].toNat := by
    rw [datagram, ← RTPHeader.length_write (header f (!pad.isEmpty)),
      List.drop_length_add_append, List.drop_append_of_le_length (by omega),
      List.take_append_of_le_length (by rw [List.length_drop]; omega), csrcBytes,
      words_get _ hIndex, List.getElem_map]
  have hInside : ¬ (layout f pad).numcsrcs ≤ i := Nat.not_le.mpr hi
  rw [RTPPacket.getCSRC, if_neg hInside]
  change BitVec.ofNat 32 (value (((datagram f pad).drop (RTPHeader.size + 4 * i)).take 4)) = _
  rw [hWord, RTPHeader.ofNat_value_bytes (by decide)]

theorem getExtensionData_layout (f : RTPFields) (pad : List UInt8) {e : HeaderExtension}
    (hExt : f.extension = some e) : (layout f pad).getExtensionData = e.data := by
  have hFront : ((header f (!pad.isEmpty)).write ++ csrcBytes f ++
      (bytes 2 e.extid.toNat ++ bytes 2 e.numwords.toNat)).length =
      RTPHeader.size + 4 * f.csrcs.length + HeaderExtension.headerSize := by
    simp only [List.length_append, RTPHeader.length_write, length_csrcBytes, length_bytes]
    rfl
  have hData : datagram f pad = ((header f (!pad.isEmpty)).write ++ csrcBytes f ++
      (bytes 2 e.extid.toNat ++ bytes 2 e.numwords.toNat)) ++ (e.data ++ (f.payload ++ pad)) := by
    simp only [datagram, extensionBytes, hExt, Option.map_some, Option.getD_some,
      HeaderExtension.write, List.append_assoc]
  have hLayout : (layout f pad).getExtensionData = ((datagram f pad).drop
      (RTPHeader.size + 4 * f.csrcs.length + HeaderExtension.headerSize)).take
        (4 * e.numwords.toNat) := by
    simp only [RTPPacket.getExtensionData, layout, hExt, Option.isSome_some, if_true,
      Option.map_some, Option.getD_some]
  rw [hLayout, hData, List.drop_left' hFront, List.take_left' e.hLength]

theorem carries_layout (f : RTPFields) (pad : List UInt8) : (layout f pad).Carries f where
  hType := rfl
  hMarker := rfl
  hSeq := rfl
  hTimestamp := rfl
  hSsrc := rfl
  hCount := rfl
  hCsrcs := fun _ hi => getCSRC_layout f pad hi
  hExtension := rfl
  hExtensionData := by
    intro e hExt
    refine ⟨?_, getExtensionData_layout f pad hExt⟩
    change (f.extension.map HeaderExtension.extid).getD 0 = e.extid
    rw [Option.mem_def.mp hExt]
    rfl
  hPayload := getPayloadData_layout f pad

/-- A packet carries at most one set of fields. -/
theorem carries_unique {p : RTPPacket} {f g : RTPFields} (hf : p.Carries f) (hg : p.Carries g) :
    f = g := by
  obtain ⟨pt, payload, seq, ts, ssrc, marker, csrcs, ext⟩ := f
  obtain ⟨pt', payload', seq', ts', ssrc', marker', csrcs', ext'⟩ := g
  have hType : pt = pt' := BitVec.eq_of_toNat_eq (hf.hType.symm.trans hg.hType)
  have hSeq : seq = seq' := by
    have h : seq.setWidth 32 = seq'.setWidth 32 := hf.hSeq.symm.trans hg.hSeq
    have h' := congrArg (BitVec.setWidth 16) h
    rwa [BitVec.setWidth_setWidth_of_le _ (by decide), BitVec.setWidth_setWidth_of_le _ (by decide),
      BitVec.setWidth_eq, BitVec.setWidth_eq] at h'
  have hCsrcs : csrcs = csrcs' := by
    apply List.ext_getElem (hf.hCount.symm.trans hg.hCount)
    intro i hi hi'
    exact (hf.hCsrcs i hi).symm.trans (hg.hCsrcs i hi')
  have hExt : ext = ext' := by
    have hSome : ext.isSome = ext'.isSome := hf.hExtension.symm.trans hg.hExtension
    cases ext with
    | none =>
      cases ext' with
      | none => rfl
      | some e' => cases hSome
    | some e =>
      cases ext' with
      | none => cases hSome
      | some e' =>
        obtain ⟨hId, hData⟩ := hf.hExtensionData e rfl
        obtain ⟨hId', hData'⟩ := hg.hExtensionData e' rfl
        have hId : e.extid = e'.extid := hId.symm.trans hId'
        have hData : e.data = e'.data := hData.symm.trans hData'
        have hWords : e.numwords = e'.numwords := by
          apply BitVec.eq_of_toNat_eq
          have hLength := e.hLength
          rw [hData, e'.hLength] at hLength
          omega
        obtain ⟨id, words, data, _⟩ := e
        obtain ⟨id', words', data', _⟩ := e'
        cases hId
        cases hData
        cases hWords
        rfl
  cases hType
  cases hSeq
  cases hCsrcs
  cases hExt
  cases hf.hTimestamp.symm.trans hg.hTimestamp
  cases hf.hSsrc.symm.trans hg.hSsrc
  cases hf.hMarker.symm.trans hg.hMarker
  cases hf.hPayload.symm.trans hg.hPayload
  rfl

theorem buildPacket_ok {f : RTPFields} {maxsize : Nat} {q : RTPPacket}
    (h : buildPacket f maxsize = .ok q) :
    Wire f [] ∧ f.payloadtype.toNat ≠ 72 ∧ f.payloadtype.toNat ≠ 73 ∧ q.packet = datagram f [] ∧
      (0 < maxsize → q.packet.length ≤ maxsize) := by
  unfold buildPacket at h
  split at h
  · cases h
  rename_i hCsrcs
  split at h
  · cases h
  rename_i hType
  split at h
  · cases h
  rename_i hReport
  split at h
  · cases h
  rename_i hSize
  cases h
  rw [not_or] at hReport
  refine ⟨⟨Nat.le_of_not_lt hCsrcs, Nat.le_of_not_lt hType, ?_, fun hNe => absurd rfl hNe⟩,
    hReport.1, hReport.2, rfl, ?_⟩
  · rintro ⟨-, h | h⟩
    · exact hReport.1 h
    · exact hReport.2 h
  · intro hMax
    change (datagram f []).length ≤ maxsize
    rw [length_datagram, List.length_nil]
    omega

/-- What was put into a packet is what its receiver finds in it, and nothing else is. -/
theorem parseRawPacket_buildPacket (beyond : Nat → UInt8) {f : RTPFields} {maxsize : Nat}
    {q : RTPPacket} (hBuild : buildPacket f maxsize = .ok q) {rawpack : RTPRawPacket}
    (hRtp : rawpack.isrtp = true) (hData : rawpack.data = q.packet) :
    ∃ p, parseRawPacket beyond rawpack = .ok p ∧ p.packet = q.packet ∧
      ∀ g, p.Carries g ↔ g = f := by
  obtain ⟨hWire, -, -, hPacket, -⟩ := buildPacket_ok hBuild
  refine ⟨layout f [], parseRawPacket_datagram hWire beyond hRtp (hData.trans hPacket),
    hPacket.symm, fun g => ⟨fun hg => carries_unique hg (carries_layout f []), ?_⟩⟩
  rintro rfl
  exact carries_layout g []

/-- A marked packet with two contributing sources and one word of header extension. -/
def mixedFields : RTPFields where
  payloadtype := 96
  payload := [1, 2, 3]
  seqnr := 65535
  timestamp := 160
  ssrc := 7
  marker := true
  csrcs := [8, 9]
  extension := some ⟨1, 1, [4, 5, 6, 7], rfl⟩

theorem parseRawPacket_mixedFields : ∃ q p, buildPacket mixedFields 64 = .ok q ∧
    parseRawPacket (fun _ => 0) ⟨q.packet, ⟨0, 0⟩, ⟨0, 0⟩, true⟩ = .ok p ∧
      p.Carries mixedFields := by
  have hBuild : ∃ q, buildPacket mixedFields 64 = .ok q := ⟨_, rfl⟩
  obtain ⟨q, hBuild⟩ := hBuild
  obtain ⟨p, hParse, -, hCarries⟩ := @parseRawPacket_buildPacket (fun _ => 0) _ _ q hBuild
    ⟨q.packet, ⟨0, 0⟩, ⟨0, 0⟩, true⟩ rfl rfl
  exact ⟨q, p, hBuild, hParse, (hCarries mixedFields).mpr rfl⟩

/-- The datagrams that can be built are the accepted ones without padding whose payload type is not
one of the two that `BuildPacket` keeps clear of. -/
theorem exists_buildPacket_iff (beyond : Nat → UInt8) (data : List UInt8)
    (sender : Jni.RTPIPv4Address) (receivetime : RTPTime) :
    (∃ f q, buildPacket f 0 = .ok q ∧ q.packet = data) ↔
      ∃ p, parseRawPacket beyond ⟨data, sender, receivetime, true⟩ = .ok p ∧
        (RTPHeader.read data).padding = false ∧ p.payloadtype ≠ 72 ∧ p.payloadtype ≠ 73 := by
  constructor
  · rintro ⟨f, q, hBuild, hData⟩
    obtain ⟨hWire, hSR, hRR, hPacket, -⟩ := buildPacket_ok hBuild
    have hData : data = datagram f [] := hData.symm.trans hPacket
    refine ⟨layout f [], parseRawPacket_datagram hWire beyond rfl hData, ?_, hSR, hRR⟩
    rw [hData, read_datagram]
    rfl
  · rintro ⟨p, hParse, hPadding, hSR, hRR⟩
    obtain ⟨-, f, pad, hWire, hData, rfl⟩ := (parseRawPacket_eq_ok_iff beyond _ p).mp hParse
    have hData : data = datagram f pad := hData
    rw [hData, read_datagram] at hPadding
    have hPad : pad = [] := by
      cases pad with
      | nil => rfl
      | cons b rest => cases hPadding
    cases hPad
    have hReport : ¬ (f.payloadtype.toNat = 72 ∨ f.payloadtype.toNat = 73) :=
      not_or.mpr ⟨hSR, hRR⟩
    have hBuild : ∃ q, buildPacket f 0 = .ok q := by
      unfold buildPacket
      rw [if_neg (Nat.not_lt.mpr hWire.hCsrcs), if_neg (Nat.not_lt.mpr hWire.hType),
        if_neg hReport, if_neg (by omega)]
      exact ⟨_, rfl⟩
    obtain ⟨q, hBuild⟩ := hBuild
    obtain ⟨-, -, -, hPacket, -⟩ := buildPacket_ok hBuild
    exact ⟨f, q, hBuild, hPacket.trans hData.symm⟩

end LocalCall.Jrtp
