import LocalCall.Jrtp.RtcpContents

/-! # Compound packets

`RTCPCompoundPacket::ParseData` cuts a datagram into its packets. It accepts the datagrams that have
the format of a compound packet, and no read of it or of the accessors leaves the datagram.
-/
namespace LocalCall.Jrtp
set_option autoImplicit false

open Piece

def packetLength (hdr : RTCPCommonHeader) : Nat := (hdr.length.toNat + 1) * 4

def isReport (hdr : RTCPCommonHeader) : Bool :=
  hdr.packettype.toNat = rtcpTypeSR || hdr.packettype.toNat = rtcpTypeRR

/-- The loop of `ParseData`: none if a read leaves the datagram, and no list for an invalid one. -/
def parseLoop (first : Bool) (data : List UInt8) : Option (Option (List RTCPObject)) :=
  match RTCPCommonHeader.record.read data 0 with
  | none => none
  | some rtcphdr =>
    if rtcphdr.version ≠ rtpVersion then some none
    else if first && !isReport rtcphdr then some none
    else if data.length < packetLength rtcphdr then some none
    else if rtcphdr.padding && packetLength rtcphdr ≠ data.length then some none
    else
      match construct rtcphdr (data.take (packetLength rtcphdr)) with
      | none => none
      | some p =>
        if 4 ≤ (data.drop (packetLength rtcphdr)).length then
          (parseLoop false (data.drop (packetLength rtcphdr))).map fun l => l.map (p :: ·)
        else if data.drop (packetLength rtcphdr) ≠ [] then some none
        else some (some [p])
termination_by data.length
decreasing_by
  rw [List.length_drop]
  unfold packetLength at *
  omega

def parseData (data : List UInt8) : Option (Option (List RTCPObject)) :=
  if data.length < 4 then some none else parseLoop true data

def receiveRTCP (data : List UInt8) : Option (Option (List (Option RTCPContents))) :=
  match parseData data with
  | none => none
  | some none => some none
  | some (some objects) => (objects.mapM RTCPObject.read).map some

/-! ## The format -/

structure Framed (hdr : RTCPCommonHeader) (packet : List UInt8) : Prop where
  hHeader : At packet 0 hdr.write
  hVersion : hdr.version = rtpVersion
  hLength : packet.length = packetLength hdr

/-- The packets of a datagram. The first is a report, if the flag is set, and only the last may be
padded. -/
inductive Compound : Bool → List UInt8 → List (List UInt8) → Prop where
  | last {first : Bool} {hdr : RTCPCommonHeader} {packet : List UInt8} (hFramed : Framed hdr packet)
      (hFirst : first = true → isReport hdr = true) : Compound first packet [packet]
  | cons {first : Bool} {hdr : RTCPCommonHeader} {packet rest : List UInt8}
      {packets : List (List UInt8)} (hFramed : Framed hdr packet)
      (hFirst : first = true → isReport hdr = true) (hPadding : hdr.padding = false)
      (hRest : Compound false rest packets) :
      Compound first (packet ++ rest) (packet :: packets)

theorem Framed.four_le {hdr : RTCPCommonHeader} {packet : List UInt8} (h : Framed hdr packet) :
    4 ≤ packet.length := by
  rw [h.hLength, packetLength]
  omega

theorem Compound.four_le {first : Bool} {data : List UInt8} {packets : List (List UInt8)}
    (h : Compound first data packets) : 4 ≤ data.length := by
  cases h with
  | last hFramed _ => exact hFramed.four_le
  | cons hFramed _ _ _ =>
    rw [List.length_append]
    exact Nat.le_add_right_of_le hFramed.four_le

/-- The header of a datagram says where its first packet ends. -/
theorem Compound.inv {first : Bool} {data : List UInt8} {packets : List (List UInt8)}
    (h : Compound first data packets) {hdr : RTCPCommonHeader} (hHeader : At data 0 hdr.write) :
    hdr.version = rtpVersion ∧ (first = true → isReport hdr = true) ∧
      packetLength hdr ≤ data.length ∧
      ((packetLength hdr = data.length ∧ packets = [data]) ∨
        (hdr.padding = false ∧ ∃ packets', packets = data.take (packetLength hdr) :: packets' ∧
          Compound false (data.drop (packetLength hdr)) packets')) := by
  cases h with
  | last hFramed hFirst =>
    cases RTCPCommonHeader.record.write_injective (hHeader.unique hFramed.hHeader
      ((RTCPCommonHeader.length_write _).trans (RTCPCommonHeader.length_write _).symm))
    exact ⟨hFramed.hVersion, hFirst, Nat.le_of_eq hFramed.hLength.symm,
      .inl ⟨hFramed.hLength.symm, rfl⟩⟩
  | @cons _ hdr' packet rest packets hFramed hFirst hPadding hRest =>
    have hHere := hFramed.hHeader.append_right rest
    cases RTCPCommonHeader.record.write_injective (hHeader.unique hHere
      ((RTCPCommonHeader.length_write _).trans (RTCPCommonHeader.length_write _).symm))
    have hLength := hFramed.hLength
    refine ⟨hFramed.hVersion, hFirst, ?_, .inr ⟨hPadding, packets, ?_, ?_⟩⟩
    · rw [List.length_append, hLength]
      exact Nat.le_add_right _ _
    · rw [← hLength, List.take_left]
    · rwa [← hLength, List.drop_left]

def Objects (packets : List (List UInt8)) (objects : List RTCPObject) : Prop :=
  List.Forall₂ (fun packet p => ∃ hdr, RTCPCommonHeader.record.read packet 0 = some hdr ∧
    construct hdr packet = some p) packets objects

theorem parseLoop_spec (first : Bool) (data : List UInt8) (hSize : 4 ≤ data.length) :
    ∃ r, parseLoop first data = some r ∧
      ∀ objects, r = some objects ↔
        ∃ packets, Compound first data packets ∧ Objects packets objects := by
  induction hn : data.length using Nat.strong_induction_on generalizing first data with
  | h n ih =>
    obtain ⟨hdr, hRead⟩ := RTCPCommonHeader.record.read_of_le (i := 0)
      (by rwa [Nat.zero_add] : 0 + 4 ≤ data.length)
    have hHeader := Record.read_eq_some_iff.mp hRead
    -- a datagram that the loop leaves early has not the format
    have hReject : (∀ packets, ¬ Compound first data packets) →
        ∀ objects : List RTCPObject, (none : Option (List RTCPObject)) = some objects ↔
          ∃ packets, Compound first data packets ∧ Objects packets objects := by
      intro hNot objects
      constructor
      · rintro ⟨⟩
      · rintro ⟨packets, hCompound, -⟩
        exact absurd hCompound (hNot packets)
    rw [parseLoop, hRead]
    dsimp only
    split
    · rename_i hVersion
      exact ⟨none, rfl, hReject fun packets h => hVersion (h.inv hHeader).1⟩
    rename_i hVersion
    split
    · rename_i hFirst
      simp only [Bool.and_eq_true, Bool.not_eq_true'] at hFirst
      refine ⟨none, rfl, hReject fun packets h => ?_⟩
      have hReport := (h.inv hHeader).2.1 hFirst.1
      rw [hFirst.2] at hReport
      cases hReport
    rename_i hFirst
    split
    · rename_i hLong
      exact ⟨none, rfl, hReject fun packets h => by have := (h.inv hHeader).2.2.1; omega⟩
    rename_i hLong
    split
    · rename_i hPadding
      simp only [Bool.and_eq_true, decide_eq_true_eq] at hPadding
      refine ⟨none, rfl, hReject fun packets h => ?_⟩
      obtain ⟨-, -, -, ⟨hWhole, -⟩ | ⟨hNone, -⟩⟩ := h.inv hHeader
      · exact hPadding.2 hWhole
      · rw [hNone] at hPadding
        cases hPadding.1
    rename_i hPadding
    have hFirst : first = true → isReport hdr = true := by
      intro h
      rw [h, Bool.true_and, Bool.not_eq_true'] at hFirst
      exact Bool.not_eq_false _ ▸ hFirst
    have hFour : 4 ≤ packetLength hdr := by
      unfold packetLength
      omega
    have hTake : (data.take (packetLength hdr)).length = packetLength hdr := by
      rw [List.length_take]
      omega
    have hHere : At (data.take (packetLength hdr)) 0 hdr.write := by
      apply hHeader.take
      change 0 + hdr.write.length ≤ _
      rwa [RTCPCommonHeader.length_write, Nat.zero_add]
    have hFramed : Framed hdr (data.take (packetLength hdr)) :=
      ⟨hHere, Decidable.not_not.mp hVersion, hTake⟩
    have hReadHere : RTCPCommonHeader.record.read (data.take (packetLength hdr)) 0 = some hdr :=
      Record.read_eq_some_iff.mpr hHere
    obtain ⟨p, -, hConstruct, -⟩ := reads_construct hReadHere
    have hLength : (data.drop (packetLength hdr)).length = data.length - packetLength hdr :=
      List.length_drop
    rw [hConstruct]
    dsimp only
    split
    · rename_i hMore
      obtain ⟨r, hParse, hSpec⟩ := ih (data.drop (packetLength hdr)).length
        (by omega) false (data.drop (packetLength hdr)) hMore rfl
      have hNoPadding : hdr.padding = false := by
        cases hPad : hdr.padding with
        | false => rfl
        | true =>
          rw [hPad, Bool.true_and, decide_eq_true_eq, Decidable.not_not] at hPadding
          omega
      refine ⟨r.map (p :: ·), by rw [hParse]; rfl, ?_⟩
      intro objects
      constructor
      · intro h
        obtain ⟨objects', hObjects, rfl⟩ := Option.map_eq_some_iff.mp h
        obtain ⟨packets, hCompound, hForall⟩ := (hSpec objects').mp hObjects
        have hCons := Compound.cons hFramed hFirst hNoPadding hCompound
        rw [List.take_append_drop] at hCons
        exact ⟨_, hCons, .cons ⟨hdr, hReadHere, hConstruct⟩ hForall⟩
      · rintro ⟨packets, hCompound, hForall⟩
        obtain ⟨-, -, -, ⟨hWhole, -⟩ | ⟨-, packets', rfl, hRest⟩⟩ := hCompound.inv hHeader
        · omega
        cases hForall with
        | @cons _ p' _ objects' hObject hForall =>
          obtain ⟨hdr', hRead', hConstruct'⟩ := hObject
          cases hReadHere.symm.trans hRead'
          cases hConstruct.symm.trans hConstruct'
          exact Option.map_eq_some_iff.mpr
            ⟨objects', (hSpec objects').mpr ⟨packets', hRest, hForall⟩, rfl⟩
    rename_i hEnd
    split
    · rename_i hLeft
      refine ⟨none, rfl, hReject fun packets h => ?_⟩
      obtain ⟨-, -, -, ⟨hWhole, -⟩ | ⟨-, packets', -, hRest⟩⟩ := h.inv hHeader
      · exact hLeft (List.length_eq_zero_iff.mp (by omega))
      · exact hEnd hRest.four_le
    rename_i hLeft
    have hWhole : data.take (packetLength hdr) = data := by
      have hNil := Decidable.not_not.mp hLeft
      have hAll := List.take_append_drop (packetLength hdr) data
      rwa [hNil, List.append_nil] at hAll
    refine ⟨some [p], rfl, ?_⟩
    intro objects
    rw [hWhole] at hFramed hReadHere hConstruct
    constructor
    · rintro ⟨⟩
      exact ⟨[data], .last hFramed hFirst, .cons ⟨hdr, hReadHere, hConstruct⟩ .nil⟩
    · rintro ⟨packets, hCompound, hForall⟩
      obtain ⟨-, -, -, ⟨-, rfl⟩ | ⟨-, packets', -, hRest⟩⟩ := hCompound.inv hHeader
      · cases hForall with
        | cons hObject hNil =>
          cases hNil
          obtain ⟨hdr', hRead', hConstruct'⟩ := hObject
          cases hReadHere.symm.trans hRead'
          cases hConstruct.symm.trans hConstruct'
          rfl
      · exact absurd hRest.four_le hEnd

/-- An object that is read for nothing else than this. -/
def SaysOnly (packet : List UInt8) (c : Option RTCPContents) : Prop :=
  ∀ c', c = some c' ↔ Says packet c'

theorem saysOnly_unique {packet : List UInt8} {c d : Option RTCPContents}
    (hc : SaysOnly packet c) (hd : SaysOnly packet d) : c = d :=
  Option.ext fun c' => (hc c').trans (hd c').symm

theorem mapM_read {packets : List (List UInt8)} {objects : List RTCPObject}
    (h : Objects packets objects) :
    ∃ contents, objects.mapM RTCPObject.read = some contents ∧
      List.Forall₂ SaysOnly packets contents := by
  induction h with
  | nil => exact ⟨[], rfl, .nil⟩
  | @cons packet p packets objects hObject _ ih =>
    obtain ⟨hdr, hRead, hConstruct⟩ := hObject
    obtain ⟨p', c, hObject, hContents, hSays⟩ := reads_construct hRead
    cases hConstruct.symm.trans hObject
    obtain ⟨contents, hMap, hForall⟩ := ih
    refine ⟨c :: contents, ?_, .cons hSays hForall⟩
    rw [List.mapM_cons, hContents, hMap]
    rfl

theorem objects_exist {first : Bool} {data : List UInt8} {packets : List (List UInt8)}
    (h : Compound first data packets) : ∃ objects, Objects packets objects := by
  have hHere : ∀ {hdr packet}, Framed hdr packet →
      ∃ p hdr, RTCPCommonHeader.record.read packet 0 = some hdr ∧ construct hdr packet = some p := by
    intro hdr packet hFramed
    have hRead : RTCPCommonHeader.record.read packet 0 = some hdr :=
      Record.read_eq_some_iff.mpr hFramed.hHeader
    obtain ⟨p, -, hConstruct, -⟩ := reads_construct hRead
    exact ⟨p, hdr, hRead, hConstruct⟩
  induction h with
  | last hFramed _ =>
    obtain ⟨p, hObject⟩ := hHere hFramed
    exact ⟨[p], .cons hObject .nil⟩
  | cons hFramed _ _ _ ih =>
    obtain ⟨p, hObject⟩ := hHere hFramed
    obtain ⟨objects, hObjects⟩ := ih
    exact ⟨p :: objects, .cons hObject hObjects⟩

/-- No read of a datagram leaves it. The datagrams of the format are accepted and no others, and
each of their packets is read for what its bytes say. -/
theorem receiveRTCP_spec (data : List UInt8) :
    ∃ r, receiveRTCP data = some r ∧ ∀ contents, r = some contents ↔
      ∃ packets, Compound true data packets ∧ List.Forall₂ SaysOnly packets contents := by
  unfold receiveRTCP parseData
  split
  · rename_i hNone
    split at hNone
    · cases hNone
    · rename_i hSize
      obtain ⟨r, hParse, -⟩ := parseLoop_spec true data (Nat.le_of_not_lt hSize)
      rw [hNone] at hParse
      cases hParse
  · rename_i hReject
    refine ⟨none, rfl, fun contents => ?_⟩
    constructor
    · rintro ⟨⟩
    · rintro ⟨packets, hCompound, -⟩
      split at hReject
      · rename_i hShort
        exact absurd hCompound.four_le (Nat.not_le.mpr hShort)
      · rename_i hSize
        obtain ⟨r, hParse, hSpec⟩ := parseLoop_spec true data (Nat.le_of_not_lt hSize)
        cases hReject.symm.trans hParse
        obtain ⟨objects, hObjects⟩ := objects_exist hCompound
        cases (hSpec objects).mpr ⟨packets, hCompound, hObjects⟩
  · rename_i objects hAccept
    split at hAccept
    · cases hAccept
    rename_i hSize
    obtain ⟨r, hParse, hSpec⟩ := parseLoop_spec true data (Nat.le_of_not_lt hSize)
    cases hAccept.symm.trans hParse
    obtain ⟨packets, hCompound, hObjects⟩ := (hSpec objects).mp rfl
    obtain ⟨contents, hMap, hForall⟩ := mapM_read hObjects
    refine ⟨some contents, by rw [hMap]; rfl, fun contents' => ?_⟩
    constructor
    · rintro ⟨⟩
      exact ⟨packets, hCompound, hForall⟩
    · rintro ⟨packets', hCompound', hForall'⟩
      obtain ⟨objects', hObjects'⟩ := objects_exist hCompound'
      cases (hSpec objects').mpr ⟨packets', hCompound', hObjects'⟩
      obtain ⟨contents'', hMap', hForall''⟩ := mapM_read hObjects'
      cases hMap.symm.trans hMap'
      have hUnique : Relator.RightUnique (List.Forall₂ SaysOnly) :=
        Relator.RightUnique.forall₂ fun _ _ _ => saysOnly_unique
      rw [hUnique hForall'' hForall']

end LocalCall.Jrtp
