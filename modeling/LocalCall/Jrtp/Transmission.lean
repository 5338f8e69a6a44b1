import LocalCall.Jrtp.PacketBuilder
import LocalCall.Jrtp.RawPackets

/-! # From one session to another

The datagrams of one sender, in the order in which they were built, come to a receiver that polls
whenever it likes. Each packet is passed on once, in that order, for as long as the extended
sequence numbers last.
-/
namespace LocalCall.Jrtp
set_option autoImplicit false

open Dictionary SortedQueue Transition

/-- What a session sends under one SSRC. -/
structure Stream where
  ssrc : BitVec 32
  seqnr : BitVec 16
  packet : Nat → RTPFields
  hSsrc : ∀ n, (packet n).ssrc = ssrc
  hSeqnr : ∀ n, (packet n).seqnr = seqnr + BitVec.ofNat 16 n
  hCsrcs : ∀ n, (packet n).csrcs = []
  hWire : ∀ n, Wire (packet n) []
  sender : Jni.RTPIPv4Address

namespace Stream
variable (st : Stream)

/-- The first number is the sequence number, or a cycle where that is zero. -/
def number (n : Nat) : Nat := RTPSourceStats.firstNumber st.seqnr.toNat + n

def queued (n : Nat) : RTPPacket :=
  { layout (st.packet n) [] with extseqnr := BitVec.ofNat 32 (st.number n) }

def limit : Nat := RTPSourceStats.lastNumber - RTPSourceStats.cycle

theorem number_lt {n : Nat} (h : n < limit) : st.number n < RTPSourceStats.lastNumber := by
  have hSeq := st.seqnr.isLt
  unfold number RTPSourceStats.firstNumber
  unfold limit at h
  unfold RTPSourceStats.cycle RTPSourceStats.lastNumber at *
  split <;> omega

theorem number_queued {n : Nat} (h : n < limit) :
    RTPInternalSourceData.number (st.queued n) = st.number n := by
  have hLt := st.number_lt h
  unfold RTPSourceStats.lastNumber at hLt
  change (BitVec.ofNat 32 (st.number n)).toNat = _
  rw [BitVec.toNat_ofNat]
  omega

theorem seqnr_eq (n : Nat) : (st.packet n).seqnr.toNat = st.number n % RTPSourceStats.cycle := by
  have hSeq := st.seqnr.isLt
  rw [st.hSeqnr, BitVec.toNat_add, BitVec.toNat_ofNat]
  unfold number RTPSourceStats.firstNumber RTPSourceStats.cycle
  split <;> omega

theorem numberAfter_eq (n : Nat) :
    RTPSourceStats.numberAfter (st.number n) (st.packet (n + 1)).seqnr.toNat =
      st.number (n + 1) := by
  have hNext : st.number (n + 1) = st.number n + 1 := rfl
  rw [st.seqnr_eq, hNext]
  unfold RTPSourceStats.numberAfter RTPSourceStats.cycle
  split
  · omega
  · split <;> omega

theorem extseqnr_eq (n : Nat) : (layout (st.packet n) []).extseqnr =
    BitVec.ofNat 32 (st.packet n).seqnr.toNat := by
  change (st.packet n).seqnr.setWidth 32 = _
  apply BitVec.eq_of_toNat_eq
  rw [BitVec.toNat_setWidth, BitVec.toNat_ofNat]

theorem queued_of_number {n : Nat} {extseqnr : BitVec 32} (h : extseqnr.toNat = st.number n) :
    { layout (st.packet n) [] with extseqnr } = st.queued n := by
  rw [queued, ← h, BitVec.ofNat_toNat, BitVec.setWidth_eq]

theorem counted_first {s : RTPSourceStats} (hSent : s.sentdata = false) (hCycles : s.numcycles = 0)
    (receivetime : RTPTime) (ownpacket : Bool) :
    (s.processPacket (layout (st.packet 0) []) receivetime ownpacket).1.Counted (st.number 0) ∧
      (s.processPacket (layout (st.packet 0) []) receivetime ownpacket).2 = st.queued 0 := by
  have hSeq : (st.packet 0).seqnr.toNat < RTPSourceStats.cycle := (st.packet 0).seqnr.isLt
  obtain ⟨hCounted, hNumber⟩ := RTPSourceStats.counted_acceptPacket hCycles hSeq
  have hFirst : RTPSourceStats.firstNumber (st.packet 0).seqnr.toNat = st.number 0 := by
    rw [st.hSeqnr, BitVec.add_zero]
    rfl
  rw [← st.extseqnr_eq, hFirst] at hCounted hNumber
  unfold RTPSourceStats.processPacket
  rw [if_neg (by rw [hSent]; exact Bool.false_ne_true)]
  exact ⟨hCounted, st.queued_of_number hNumber⟩

theorem counted_later {s : RTPSourceStats} {n : Nat} (h : s.Counted (st.number n))
    (hLimit : n < limit) (receivetime : RTPTime) (ownpacket : Bool) :
    (s.processPacket (layout (st.packet (n + 1)) []) receivetime ownpacket).1.Counted
        (st.number (n + 1)) ∧
      (s.processPacket (layout (st.packet (n + 1)) []) receivetime ownpacket).2 =
        st.queued (n + 1) := by
  have hSeq : (st.packet (n + 1)).seqnr.toNat < RTPSourceStats.cycle :=
    (st.packet (n + 1)).seqnr.isLt
  obtain ⟨hCounted, hNumber⟩ := RTPSourceStats.counted_extendSeqnr h (st.number_lt hLimit) hSeq
  have hMax : max (st.number n) (st.number (n + 1)) = st.number (n + 1) :=
    Nat.max_eq_right (Nat.le_succ _)
  rw [st.numberAfter_eq, ← st.extseqnr_eq] at hCounted hNumber
  rw [hMax] at hCounted
  unfold RTPSourceStats.processPacket
  rw [if_pos h.1]
  exact ⟨hCounted, st.queued_of_number hNumber⟩

end Stream

namespace RTPSources

theorem store_concat {others : List (BitVec 32 × RTPInternalSourceData)} {ssrc : BitVec 32}
    {d d' : RTPInternalSourceData} (h : ssrc ∉ keys others) :
    Dictionary.store ssrc d' (others ++ [(ssrc, d)]) = others ++ [(ssrc, d')] := by
  rw [Dictionary.store, List.map_append, List.map_singleton, if_pos rfl]
  congr 1
  conv_rhs => rw [← List.map_id others]
  refine List.map_congr_left fun e he => if_neg ?_
  rintro rfl
  exact h (List.mem_map_of_mem he)

theorem sources_processRTPPacket {s s₁ : RTPSources} {p : RTPPacket} {t : RTPTime} {a : RTPAddress}
    {d : RTPInternalSourceData} (hCsrcs : p.numcsrcs = 0)
    (hGet : s.getSourceData true p.ssrc a = (s₁, some d)) :
    (s.processRTPPacket p t a).1.sources =
      Dictionary.store p.ssrc (d.processRTPPacket p t).1 s₁.sources := by
  have hNone : csrcs p = [] := by rw [csrcs, hCsrcs]; rfl
  rw [processRTPPacket, hGet]
  dsimp only
  rw [hNone]
  split <;> rfl

theorem sources_first {s : RTPSources} {p : RTPPacket} (t : RTPTime) (a : RTPAddress)
    (hCsrcs : p.numcsrcs = 0) (hOthers : p.ssrc ∉ keys s.sources) :
    (s.processRTPPacket p t a).1.sources = s.sources ++
      [(p.ssrc,
        (((RTPInternalSourceData.new p.ssrc).setDataAddress true a).processRTPPacket p t).1)] := by
  have hLookup : lookup p.ssrc s.sources = none := lookup_eq_none_iff.mpr hOthers
  rcases getSourceData_cases s true p.ssrc a with ⟨-, hGet⟩ | ⟨d, hSome, -⟩ | ⟨d, d', hSome, -⟩
  · rw [sources_processRTPPacket hCsrcs hGet]
    change Dictionary.store _ _
      (Dictionary.store _ _ (s.obtainSourceDataInstance p.ssrc).1.sources) = _
    rw [sources_obtain, hLookup]
    dsimp only
    rw [store_concat hOthers, store_concat hOthers]
  · cases hLookup.symm.trans hSome
  · cases hLookup.symm.trans hSome

theorem sources_later {s : RTPSources} {p : RTPPacket} (t : RTPTime) {a : Jni.RTPIPv4Address}
    {others : List (BitVec 32 × RTPInternalSourceData)} {d : RTPInternalSourceData}
    (hCsrcs : p.numcsrcs = 0) (hSources : s.sources = others ++ [(p.ssrc, d)])
    (hOthers : p.ssrc ∉ keys others) (hAddress : d.rtpaddr = some (some a)) :
    (s.processRTPPacket p t (some a)).1.sources =
      others ++ [(p.ssrc, (d.processRTPPacket p t).1)] := by
  have hLookup : lookup p.ssrc s.sources = some d := by
    rw [hSources, lookup_append hOthers, lookup_cons, if_pos rfl]
  have hCheck : d.checkCollision (some a) true = some d := by
    simp [RTPInternalSourceData.checkCollision, RTPInternalSourceData.dataAddress, hAddress,
      isSameAddress]
  rcases getSourceData_cases s true p.ssrc (some a) with
    ⟨hNone, -⟩ | ⟨d₁, hSome, hFails, -⟩ | ⟨d₁, d₂, hSome, hPasses, hGet⟩
  · cases hLookup.symm.trans hNone
  · cases hLookup.symm.trans hSome
    cases hCheck.symm.trans hFails
  · cases hLookup.symm.trans hSome
    cases hCheck.symm.trans hPasses
    rw [sources_processRTPPacket hCsrcs hGet]
    change Dictionary.store _ _
      (Dictionary.store _ _ (s.obtainSourceDataInstance p.ssrc).1.sources) = _
    rw [sources_obtain, hLookup]
    dsimp only
    rw [hSources, store_concat hOthers, store_concat hOthers]

end RTPSources

/-! ## Where a stream comes from -/

namespace BuilderTrace

def Laid (y : BuiltPacket) : Prop := Wire y.fields [] ∧ y.datagram = datagram y.fields []

theorem laid_build {x : BuilderTrace} (h : ∀ y ∈ x.built, Laid y) {b : RTPPacketBuilder}
    {data : List UInt8} {pt : BitVec 8} {mark : Bool} {inc : BitVec 32}
    {extension : Option HeaderExtension} {now : RTPTime}
    (hBuild : x.builder.privateBuildPacket data pt mark inc extension now = .ok b) :
    ∀ y ∈ (x.build b data pt mark inc extension now).built, Laid y := by
  obtain ⟨p, hPacket, hBuilds⟩ := RTPPacketBuilder.privateBuildPacket_ok hBuild
  obtain ⟨hWire, -, -, hData, -⟩ := buildPacket_ok hPacket
  intro y hy
  rcases List.mem_append.mp hy with hy | hy
  · exact h y hy
  · rw [List.mem_singleton.mp hy]
    refine ⟨hWire, ?_⟩
    change b.buffer.getD [] = _
    rw [hBuilds.hBuffer]
    exact hData

theorem laid_step {x x' : BuilderTrace} {c : BuilderCall} (h : ∀ y ∈ x.built, Laid y)
    (hStep : x.step c = some x') : ∀ y ∈ x'.built, Laid y := by
  obtain ⟨r, hPerform, rfl⟩ := Option.map_eq_some_iff.mp hStep
  cases r with
  | error e => exact h
  | ok b =>
    cases c with
    | initBuilder | createNewSSRC | createNewSSRCFor =>
      exact fun y hy => absurd hy List.not_mem_nil
    | buildPacketWith data pt mark inc extension now =>
      have hPerform := Option.some.inj hPerform
      unfold RTPPacketBuilder.buildPacketWith at hPerform
      split at hPerform
      · cases hPerform
      exact laid_build h hPerform
    | buildPacketDefault data extension now =>
      have hPerform := Option.some.inj hPerform
      unfold RTPPacketBuilder.buildPacketDefault at hPerform
      split at hPerform
      · cases hPerform
      split at hPerform
      · cases hPerform
      · cases hPerform
      · cases hPerform
      rename_i pt mark inc hType hMark hInc
      refine laid_build h ?_
      rw [hType, hMark, hInc]
      exact hPerform
    | _ => exact h

/-- The packets that were built, and then empty ones. -/
def continued (x : BuilderTrace) (n : Nat) : RTPFields :=
  match x.built[n]? with
  | some y => y.fields
  | none => ⟨0, [], x.drawn.seqnr + BitVec.ofNat 16 n, x.drawn.timestamp, x.drawn.ssrc, false, [],
      none⟩

theorem continued_eq {x : BuilderTrace} {n : Nat} {y : BuiltPacket} (h : x.built[n]? = some y) :
    x.continued n = y.fields := by
  rw [continued, h]

theorem continued_of {x : BuilderTrace} {P : RTPFields → Prop} (n : Nat)
    (hBuilt : ∀ y, x.built[n]? = some y → P y.fields)
    (hEmpty : P ⟨0, [], x.drawn.seqnr + BitVec.ofNat 16 n, x.drawn.timestamp, x.drawn.ssrc, false,
      [], none⟩) : P (x.continued n) := by
  unfold continued
  split
  · rename_i y hSome
    exact hBuilt y hSome
  · exact hEmpty

theorem Numbered.seqnr_eq {x : BuilderTrace} (h : x.Numbered) {n : Nat} {y : BuiltPacket}
    (hSome : x.built[n]? = some y) : y.fields.seqnr = x.drawn.seqnr + BitVec.ofNat 16 n := by
  have hAt := congrArg (·[n]?) h.hSeq
  obtain ⟨hLt, -⟩ := List.getElem?_eq_some_iff.mp hSome
  simp only [List.getElem?_map, hSome, List.getElem?_range hLt, Option.map_some,
    Option.some.injEq] at hAt
  exact hAt

/-- What was built without CSRCs under the SSRC in use is the beginning of a stream. -/
def Streams (sender : Jni.RTPIPv4Address) (x : BuilderTrace) : Prop :=
  (∀ y ∈ x.built, y.fields.csrcs = []) →
    ∃ st : Stream, st.ssrc = x.drawn.ssrc ∧ st.seqnr = x.drawn.seqnr ∧ st.sender = sender ∧
      ∀ n y, x.built[n]? = some y →
        st.packet n = y.fields ∧ datagram (st.packet n) [] = y.datagram

theorem streams_of {x : BuilderTrace} (h : x.Numbered) (hLaid : ∀ y ∈ x.built, Laid y)
    (sender : Jni.RTPIPv4Address) : x.Streams sender := by
  intro hNone
  have hMem {n : Nat} {y : BuiltPacket} (hSome : x.built[n]? = some y) : y ∈ x.built :=
    List.mem_of_getElem? hSome
  refine ⟨⟨x.drawn.ssrc, x.drawn.seqnr, x.continued, fun n => ?_, fun n => ?_, fun n => ?_,
    fun n => ?_, sender⟩, rfl, rfl, rfl, fun n y hSome => ⟨continued_eq hSome, ?_⟩⟩
  · exact continued_of (P := fun f => f.ssrc = x.drawn.ssrc) n
      (fun y hSome => h.hSsrc y (hMem hSome)) rfl
  · exact continued_of (P := fun f => f.seqnr = x.drawn.seqnr + BitVec.ofNat 16 n) n
      (fun y hSome => h.seqnr_eq hSome) rfl
  · exact continued_of (P := fun f => f.csrcs = []) n (fun y hSome => hNone y (hMem hSome)) rfl
  · refine continued_of (P := fun f => Wire f []) n (fun y hSome => (hLaid y (hMem hSome)).1)
      ⟨?_, ?_, ?_, ?_⟩
    · exact Nat.zero_le _
    · exact Nat.zero_le _
    · rintro ⟨hMark, -⟩
      cases hMark
    · exact fun hNe => absurd rfl hNe
  · change datagram (x.continued n) [] = y.datagram
    rw [continued_eq hSome]
    exact (hLaid y (hMem hSome)).2.symm

theorem always_streams (sender : Jni.RTPIPv4Address) (cs : List BuilderCall) :
    Always step (Streams sender) new cs := by
  have hKeep {x x' : BuilderTrace} {c : BuilderCall} (h : x.Inv ∧ ∀ y ∈ x.built, Laid y)
      (hStep : x.step c = some x') : x'.Inv ∧ ∀ y ∈ x'.built, Laid y :=
    ⟨h.1.step hStep, laid_step h.2 hStep⟩
  have hNew : new.Inv ∧ ∀ y ∈ new.built, Laid y :=
    ⟨inv_new, fun y hy => absurd hy List.not_mem_nil⟩
  exact always_of_invariant hKeep (fun h => streams_of h.1.hNumbered h.2 sender) hNew

end BuilderTrace

/-! ## Runs -/

inductive TransmissionEvent where
  | datagram (beyond : Nat → UInt8) (receivetime : RTPTime)
  | pollThreadStep

/-- The table of the receiver, how many datagrams came, and the packets that were passed on. -/
structure Transmission where
  sources : RTPSources
  heard : Nat
  passed : List RTPPacket

namespace Transmission

open RTPSources CustomRTPSession

variable (st : Stream)

def new (own : BitVec 32) : Transmission := ⟨(RTPSources.new.createOwnSSRC own).1, 0, []⟩

def step (x : Transmission) : TransmissionEvent → Option Transmission
  | .datagram beyond receivetime =>
    (processRawPacket beyond (fun _ => false) false
      ⟨datagram (st.packet x.heard) [], st.sender, receivetime, true⟩
      { x.sources with owncollision := false }).map fun y =>
        { x with sources := y.1, heard := x.heard + 1 }
  | .pollThreadStep => (onPollThreadStep x.sources).map fun y =>
      { x with sources := y.1, passed := x.passed ++ y.2.map Prod.snd }

/-- The packet shows the fields, and its number ends with the sequence number. -/
structure Shows (p : RTPPacket) (f : RTPFields) : Prop where
  hPayload : p.getPayloadData = f.payload
  hTimestamp : p.timestamp = f.timestamp
  hSsrc : p.ssrc = f.ssrc
  hMarker : p.hasmarker = f.marker
  hType : p.payloadtype = f.payloadtype.toNat
  hSeqnr : p.extseqnr.setWidth 16 = f.seqnr

/-- What was passed on and what waits is what came, in the order of the sender. -/
def InOrder (x : Transmission) : Prop :=
  x.heard ≤ Stream.limit → ∃ waits,
    waiting x.sources.sources = waits.map (fun p => (st.ssrc, p)) ∧
      List.Forall₂ Shows (x.passed ++ waits) ((List.range x.heard).map st.packet)

theorem shows_queued (n : Nat) : Shows (st.queued n) (st.packet n) := by
  refine ⟨getPayloadData_layout _ _, rfl, rfl, rfl, rfl, ?_⟩
  apply BitVec.eq_of_toNat_eq
  change ((BitVec.ofNat 32 (st.number n)).setWidth 16).toNat = _
  rw [st.seqnr_eq, BitVec.toNat_setWidth, BitVec.toNat_ofNat]
  unfold RTPSourceStats.cycle
  omega

structure Queued (x : Transmission) (d : RTPInternalSourceData) : Prop where
  hCounted : d.stats.Counted (st.number (x.heard - 1))
  hQueue : x.passed ++ d.packetlist = (List.range x.heard).map st.queued

/-- The source of the stream after its first packet. -/
structure Follows (x : Transmission) (d : RTPInternalSourceData) : Prop where
  hHeard : 0 < x.heard
  hAddress : d.rtpaddr = some (some st.sender)
  hValidated : d.validated = true
  hQueued : x.heard ≤ Stream.limit → Queued st x d

structure Inv (x : Transmission) : Prop where
  hTable : ∃ others, st.ssrc ∉ keys others ∧ (keys others).Nodup ∧
    (∀ e ∈ others, e.2.packetlist = []) ∧
      ((x.heard = 0 ∧ x.passed = [] ∧ x.sources.sources = others) ∨
        ∃ d, x.sources.sources = others ++ [(st.ssrc, d)] ∧ Follows st x d)

theorem waiting_others {others : List (BitVec 32 × RTPInternalSourceData)}
    (h : ∀ e ∈ others, e.2.packetlist = []) : waiting others = [] := by
  refine List.flatMap_eq_nil_iff.mpr fun e he => ?_
  rw [h e he]
  rfl

theorem waiting_concat {others : List (BitVec 32 × RTPInternalSourceData)} {ssrc : BitVec 32}
    {d : RTPInternalSourceData} (h : ∀ e ∈ others, e.2.packetlist = []) :
    waiting (others ++ [(ssrc, d)]) = d.packetlist.map fun p => (ssrc, p) := by
  rw [waiting, List.flatMap_append]
  change waiting others ++ _ = _
  rw [waiting_others h, List.nil_append, List.flatMap_singleton]

theorem Queued.ordered {x : Transmission} {d : RTPInternalSourceData} (h : Queued st x d)
    (hLimit : x.heard ≤ Stream.limit) :
    Ordered RTPInternalSourceData.number d.packetlist ∧
      ∀ p ∈ d.packetlist, RTPInternalSourceData.number p < st.number x.heard := by
  have hNumbers : ∀ n ∈ List.range x.heard,
      RTPInternalSourceData.number (st.queued n) = st.number n := fun n hn =>
    st.number_queued (Nat.lt_of_lt_of_le (List.mem_range.mp hn) hLimit)
  have hAll : Ordered RTPInternalSourceData.number ((List.range x.heard).map st.queued) := by
    rw [Ordered, List.pairwise_map]
    refine List.pairwise_lt_range.imp_of_mem ?_
    intro m n hm hn hLt
    rw [hNumbers m hm, hNumbers n hn]
    exact Nat.add_lt_add_left hLt _
  rw [← h.hQueue] at hAll
  refine ⟨(List.pairwise_append.mp hAll).2.1, fun p hp => ?_⟩
  have hMem : p ∈ (List.range x.heard).map st.queued :=
    h.hQueue ▸ List.mem_append_right _ hp
  obtain ⟨n, hn, rfl⟩ := List.mem_map.mp hMem
  rw [hNumbers n hn]
  exact Nat.add_lt_add_left (List.mem_range.mp hn) _

theorem Queued.inOrder {x : Transmission} {d : RTPInternalSourceData} (h : Queued st x d) :
    List.Forall₂ Shows (x.passed ++ d.packetlist) ((List.range x.heard).map st.packet) := by
  rw [h.hQueue, List.forall₂_map_left_iff, List.forall₂_map_right_iff, List.forall₂_same]
  exact fun n _ => shows_queued st n

theorem Inv.inOrder {x : Transmission} (h : Inv st x) : x.InOrder st := by
  intro hLimit
  obtain ⟨others, -, -, hNothing, ⟨hHeard, hPassed, hSources⟩ | ⟨d, hSources, hFollows⟩⟩ := h.hTable
  · refine ⟨[], ?_, ?_⟩
    · rw [hSources]
      exact waiting_others hNothing
    · rw [hPassed, hHeard]
      exact .nil
  · refine ⟨d.packetlist, ?_, (hFollows.hQueued hLimit).inOrder⟩
    rw [hSources, waiting_concat hNothing]

theorem Inv.poll {x x' : Transmission} (h : Inv st x)
    (hStep : x.step st .pollThreadStep = some x') : Inv st x' := by
  obtain ⟨y, hPoll, rfl⟩ := Option.map_eq_some_iff.mp hStep
  obtain ⟨others, hFresh, hKeys, hNothing, hCases⟩ := h.hTable
  have hEmptied : ∀ e ∈ others.map emptied, e.2.packetlist = [] := by
    intro e he
    obtain ⟨e, -, rfl⟩ := List.mem_map.mp he
    rfl
  rcases hCases with ⟨hHeard, hPassed, hSources⟩ | ⟨d, hSources, hFollows⟩
  · rw [onPollThreadStep_eq (by rwa [hSources])
      (by rw [hSources]; exact fun e he => .inr (hNothing e he)), hSources] at hPoll
    cases hPoll
    refine ⟨others.map emptied, by rwa [keys_emptied], by rwa [keys_emptied], hEmptied,
      .inl ⟨hHeard, ?_, rfl⟩⟩
    rw [waiting_others hNothing, hPassed]
    rfl
  · have hNodup : (keys (others ++ [(st.ssrc, d)])).Nodup := by
      rw [keys, List.map_append]
      exact hKeys.append (List.nodup_singleton _) (List.disjoint_singleton.mpr hFresh)
    have hReady : Ready (others ++ [(st.ssrc, d)]) := by
      intro e he
      rcases List.mem_append.mp he with he | he
      · exact .inr (hNothing e he)
      · rw [List.mem_singleton.mp he]
        exact .inl hFollows.hValidated
    rw [onPollThreadStep_eq (by rwa [hSources]) (by rwa [hSources]), hSources] at hPoll
    cases hPoll
    refine ⟨others.map emptied, by rwa [keys_emptied], by rwa [keys_emptied], hEmptied,
      .inr ⟨{ d with packetlist := [] }, ?_, ⟨hFollows.hHeard, hFollows.hAddress,
        hFollows.hValidated, fun hLimit => ?_⟩⟩⟩
    · exact List.map_append
    · obtain ⟨hCounted, hQueue⟩ := hFollows.hQueued hLimit
      refine ⟨hCounted, ?_⟩
      change x.passed ++ (waiting (others ++ [(st.ssrc, d)])).map Prod.snd ++ [] = _
      rw [waiting_concat hNothing, List.map_map, List.append_nil, ← hQueue]
      exact congrArg (x.passed ++ ·) (List.map_id _)

theorem processRawPacket_datagram (beyond : Nat → UInt8) (receivetime : RTPTime) (n : Nat)
    (s : RTPSources) : processRawPacket beyond (fun _ => false) false
      ⟨datagram (st.packet n) [], st.sender, receivetime, true⟩ s =
        some ((s.processRTPPacket (layout (st.packet n) []) receivetime (some st.sender)).1,
          true) := by
  rw [processRawPacket]
  dsimp only
  rw [if_pos rfl, parseRawPacket_datagram (st.hWire n) beyond rfl rfl]
  rfl

theorem rtpaddr_processRTPPacket (d : RTPInternalSourceData) (p : RTPPacket) (t : RTPTime) :
    (d.processRTPPacket p t).1.rtpaddr = d.rtpaddr := by
  unfold RTPInternalSourceData.processRTPPacket
  dsimp only
  split <;> rfl

theorem queued_first (receivetime : RTPTime) {s : RTPSources} : Queued st ⟨s, 1, []⟩
    (((RTPInternalSourceData.new st.ssrc).setDataAddress true (some st.sender)).processRTPPacket
      (layout (st.packet 0) []) receivetime).1 := by
  obtain ⟨hCounted, hNumbered⟩ :=
    st.counted_first (s := RTPSourceStats.new) rfl rfl receivetime false
  constructor
  · rw [RTPInternalSourceData.stats_processRTPPacket]
    exact hCounted
  · have hEmpty : Ordered RTPInternalSourceData.number ((RTPInternalSourceData.new
        st.ssrc).setDataAddress true (some st.sender)).packetlist := List.Pairwise.nil
    rw [RTPInternalSourceData.packetlist_processRTPPacket hEmpty]
    change [RTPInternalSourceData.numbered _ _ _] = [st.queued 0]
    rw [← hNumbered]
    rfl

/-- A packet after the first goes to the end of the queue. -/
theorem Queued.later {x : Transmission} {d : RTPInternalSourceData} (h : Queued st x d)
    (hHeard : 0 < x.heard) (hLimit : x.heard < Stream.limit) (receivetime : RTPTime)
    {s : RTPSources} : Queued st ⟨s, x.heard + 1, x.passed⟩
      (d.processRTPPacket (layout (st.packet x.heard) []) receivetime).1 := by
  have hBefore : x.heard - 1 + 1 = x.heard := by omega
  obtain ⟨hCounted, hNumbered⟩ :=
    st.counted_later h.hCounted (by omega) receivetime d.ownssrc
  rw [hBefore] at hCounted hNumbered
  obtain ⟨hOrdered, hBelow⟩ := h.ordered st (Nat.le_of_lt hLimit)
  have hLast : d.numbered (layout (st.packet x.heard) []) receivetime = st.queued x.heard :=
    hNumbered
  constructor
  · rw [RTPInternalSourceData.stats_processRTPPacket]
    exact hCounted
  · have hEnd := @RTPInternalSourceData.enqueue_append (st.queued x.heard) d.packetlist [] (by
      rw [st.number_queued hLimit]
      exact hBelow)
    rw [List.append_nil] at hEnd
    rw [RTPInternalSourceData.packetlist_processRTPPacket hOrdered, hLast, hEnd]
    change x.passed ++ (d.packetlist ++ [st.queued x.heard]) = _
    rw [← List.append_assoc, h.hQueue, List.range_succ, List.map_append]
    rfl

theorem Inv.datagram {x x' : Transmission} {beyond : Nat → UInt8} {receivetime : RTPTime}
    (h : Inv st x) (hStep : x.step st (.datagram beyond receivetime) = some x') : Inv st x' := by
  rw [step, processRawPacket_datagram] at hStep
  cases hStep
  obtain ⟨others, hFresh, hKeys, hNothing, hCases⟩ := h.hTable
  have hSsrc : (layout (st.packet x.heard) []).ssrc = st.ssrc := st.hSsrc x.heard
  have hCsrcs : (layout (st.packet x.heard) []).numcsrcs = 0 := by
    change (st.packet x.heard).csrcs.length = 0
    rw [st.hCsrcs]
    rfl
  refine ⟨others, hFresh, hKeys, hNothing, .inr ?_⟩
  rcases hCases with ⟨hHeard, hPassed, hSources⟩ | ⟨d, hSources, hFollows⟩
  · have hFirst := @sources_first { x.sources with owncollision := false } _ receivetime
      (some st.sender) hCsrcs (by
        rw [hSsrc]
        exact hSources ▸ hFresh)
    rw [hSsrc] at hFirst
    refine ⟨_, hFirst.trans (congrArg (· ++ _) hSources), Nat.succ_pos _, ?_, ?_, fun _ => ?_⟩
    · rw [rtpaddr_processRTPPacket]
      rfl
    · exact RTPInternalSourceData.validated_processRTPPacket _ _ _
    · rw [hPassed, hHeard]
      exact queued_first st receivetime
  · have hLater := @sources_later { x.sources with owncollision := false } _ receivetime st.sender
      others d hCsrcs (by
        rw [hSsrc]
        exact hSources) (by rwa [hSsrc]) hFollows.hAddress
    rw [hSsrc] at hLater
    refine ⟨_, hLater, Nat.succ_pos _, ?_, ?_, fun hLimit => ?_⟩
    · rw [rtpaddr_processRTPPacket]
      exact hFollows.hAddress
    · exact RTPInternalSourceData.validated_processRTPPacket _ _ _
    · have hBefore : x.heard < Stream.limit := hLimit
      exact (hFollows.hQueued (Nat.le_of_lt hBefore)).later st hFollows.hHeard hBefore receivetime

theorem inv_new {own : BitVec 32} (hOwn : own ≠ st.ssrc) : Inv st (new own) := by
  have hSources : (new own).sources.sources = [(own,
      ((RTPInternalSourceData.new own).setOwnSSRC.setDataAddress true none).setDataAddress
        false none)] := by
    change Dictionary.store own _ (RTPSources.new.obtainSourceDataInstance own).1.sources = _
    rw [sources_obtain]
    exact @store_concat [] own _ _ List.not_mem_nil
  refine ⟨_, ?_, ?_, ?_, .inl ⟨rfl, rfl, hSources⟩⟩
  · rintro hMem
    exact hOwn (List.mem_singleton.mp hMem).symm
  · exact List.nodup_singleton _
  · intro e he
    rw [List.mem_singleton.mp he]
    rfl

/-- What a session with another SSRC hears of a stream is in order. -/
theorem always_inOrder {own : BitVec 32} (hOwn : own ≠ st.ssrc) (es : List TransmissionEvent) :
    Always (step st) (InOrder st) (new own) es := by
  have hKeep {x x' : Transmission} {e : TransmissionEvent} (h : Inv st x)
      (hStep : x.step st e = some x') : Inv st x' := by
    cases e with
    | datagram beyond receivetime => exact h.datagram st hStep
    | pollThreadStep => exact h.poll st hStep
  exact always_of_invariant hKeep (Inv.inOrder st) (inv_new st hOwn)

/-- Frames of one byte whose sequence numbers wrap around after the second. -/
def wrapping : Stream where
  ssrc := 7
  seqnr := 65534
  packet n := ⟨96, [UInt8.ofNat n], 65534 + BitVec.ofNat 16 n, BitVec.ofNat 32 (160 * n), 7, false,
    [], none⟩
  hSsrc _ := rfl
  hSeqnr _ := rfl
  hCsrcs _ := rfl
  hWire n := by
    have hType : (96 : BitVec 8).toNat ≤ 127 := by decide
    exact ⟨Nat.zero_le _, hType, fun hMark => Bool.false_ne_true hMark.1, fun hNe => absurd rfl hNe⟩
  sender := ⟨2, 4000⟩

def heardTwice : List TransmissionEvent :=
  [.pollThreadStep, .datagram (fun _ => 0) ⟨1, 0⟩, .datagram (fun _ => 0) ⟨1, 20000⟩,
    .datagram (fun _ => 0) ⟨1, 40000⟩, .pollThreadStep, .datagram (fun _ => 255) ⟨1, 60000⟩,
    .pollThreadStep]

theorem always_inOrder_wrapping :
    Always (step wrapping) (InOrder wrapping) (new 5) heardTwice ∧
      (run (step wrapping) (new 5) heardTwice).map (fun x => x.passed.map RTPPacket.extseqnr) =
        some [65534, 65535, 65536, 65537] :=
  ⟨always_inOrder wrapping (by decide) heardTwice, by decide +kernel⟩

end Transmission

end LocalCall.Jrtp
