import LocalCall.Jrtp.CompoundRoundTrip
import LocalCall.Jrtp.PollThread

/-! # From a datagram to the source table

`ProcessRawPacket` parses a datagram and has the source table process it. When it returns an error
the poll thread ends, and nothing that is sent to the session is heard any more.
-/
namespace LocalCall.Jrtp
set_option autoImplicit false

open Transition

/-- What the source table reads of a packet. -/
def RTCPContents.packet : RTCPContents → RTCPPacket
  | .sr senderssrc _ reports => .sr senderssrc (reports.map RTCPReceiverReport.ssrc)
  | .rr senderssrc reports => .rr senderssrc (reports.map RTCPReceiverReport.ssrc)
  | .sdes chunks => .sdes chunks
  | .bye ssrcs reason => .bye ssrcs (reason.getD [])
  | .app _ _ _ _ => .app
  | .unknown _ => .unknown

/-- An unknown format is passed over like an unknown type. -/
def RTCPPacket.ofContents : Option RTCPContents → RTCPPacket
  | some c => c.packet
  | none => .unknown

namespace RTCPPacket

def items : RTCPPacket → List (SDESType × List UInt8)
  | .sdes chunks => chunks.flatMap Prod.snd
  | _ => []

def Short (p : RTCPPacket) : Prop := ∀ i ∈ p.items, i.2.length ≤ sdesMaxItemLength

def Legal (p : RTCPPacket) : Prop := ∀ i ∈ p.items, i.1 ≠ .unknown

theorem short_of_saysOnly {packet : List UInt8} {c : Option RTCPContents}
    (h : SaysOnly packet c) : (ofContents c).Short := by
  rintro ⟨t, itemdata⟩ hItem
  cases c with
  | none => cases hItem
  | some c =>
    have hSays := (h c).mp rfl
    cases hSays with
    | unknown hHeader hType => cases hItem
    | known hLayout hBody =>
      cases hBody with
      | sdes chunks hType hCount =>
        simp only [ofContents, RTCPContents.packet, items, List.mem_flatMap, List.mem_map] at hItem
        obtain ⟨_, ⟨c, -, rfl⟩, hItem⟩ := hItem
        obtain ⟨i, -, hEq⟩ := List.mem_map.mp hItem
        cases hEq
        exact Nat.le_of_lt_succ i.hLength
      | _ => cases hItem

theorem short_of_forall₂ {packets : List (List UInt8)} {contents : List (Option RTCPContents)}
    (h : List.Forall₂ SaysOnly packets contents) : ∀ c ∈ contents, (ofContents c).Short := by
  induction h with
  | nil => rintro _ ⟨⟩
  | cons hHere _ ih => exact List.forall_mem_cons.mpr ⟨short_of_saysOnly hHere, ih⟩

end RTCPPacket

/-! ## The errors of the source table -/

theorem RTPInternalSourceData.processSDESItem_ok {item : SDESItem} {data : List UInt8}
    (hShort : data.length ≤ sdesMaxItemLength) (receivetime : RTPTime)
    (d : RTPInternalSourceData) : (d.processSDESItem item data receivetime).2.1 = true := by
  have hSet : ∀ (i : SDESItem) (d : RTPInternalSourceData), (d.setItem i data).2 = true := by
    intro i d
    rw [setItem, if_neg (Nat.not_lt.mpr hShort)]
  cases item <;> simp only [processSDESItem]
  all_goals first | exact hSet _ _ | split <;> first | rfl | exact hSet _ _

namespace RTPSources

variable {receivetime : RTPTime} {senderaddress : RTPAddress}

theorem processSDESNormalItem_ok {ssrc : BitVec 32} {i : SDESItem} {itemdata : List UInt8}
    (hShort : itemdata.length ≤ sdesMaxItemLength) (s : RTPSources) :
    (s.processSDESNormalItem ssrc (.item i) itemdata receivetime senderaddress).2 = true := by
  simp only [processSDESNormalItem]
  split
  · rfl
  · exact RTPInternalSourceData.processSDESItem_ok hShort receivetime _

theorem processSDESItems_ok_iff {sdesssrc : BitVec 32} {items : List (SDESType × List UInt8)}
    (hShort : ∀ i ∈ items, i.2.length ≤ sdesMaxItemLength) (s : RTPSources) :
    (processSDESItems sdesssrc receivetime senderaddress items s).2 = true ↔
      ∀ i ∈ items, i.1 ≠ .unknown := by
  induction items generalizing s with
  | nil => simp [processSDESItems]
  | cons i items ih =>
    obtain ⟨t, itemdata⟩ := i
    have hRest := ih fun i hi => hShort i (List.mem_cons_of_mem _ hi)
    have hHere := hShort _ List.mem_cons_self
    rw [List.forall_mem_cons]
    cases t with
    | priv =>
      rw [processSDESItems, hRest]
      exact (and_iff_right (by rintro ⟨⟩)).symm
    | unknown =>
      refine iff_of_false ?_ fun h => h.1 rfl
      rintro ⟨⟩
    | item t =>
      have hOk : (s.processSDESNormalItem sdesssrc (.item t) itemdata receivetime
          senderaddress).2 = true := processSDESNormalItem_ok hHere s
      simp only [processSDESItems]
      split
      · rename_i s' hItem
        rw [hItem] at hOk
        cases hOk
      · rename_i s' hItem
        rw [hRest s']
        exact (and_iff_right (by rintro ⟨⟩)).symm

theorem processSDESChunks_ok_iff {chunks : List (BitVec 32 × List (SDESType × List UInt8))}
    (hShort : (RTCPPacket.sdes chunks).Short) (s : RTPSources) :
    (processSDESChunks receivetime senderaddress chunks s).2 = true ↔
      (RTCPPacket.sdes chunks).Legal := by
  induction chunks generalizing s with
  | nil => exact iff_of_true rfl (by rintro _ ⟨⟩)
  | cons chunk chunks ih =>
    obtain ⟨sdesssrc, items⟩ := chunk
    have hItems : (RTCPPacket.sdes ((sdesssrc, items) :: chunks)).items =
        items ++ (RTCPPacket.sdes chunks).items := rfl
    unfold RTCPPacket.Short at hShort ih
    unfold RTCPPacket.Legal at ih ⊢
    rw [hItems, List.forall_mem_append] at hShort
    rw [hItems, List.forall_mem_append]
    have hHere := @processSDESItems_ok_iff receivetime senderaddress sdesssrc items hShort.1 s
    rw [← hHere, processSDESChunks]
    split
    · rename_i s' hEq
      rw [hEq]
      exact iff_of_false Bool.false_ne_true fun h => absurd h.1 Bool.false_ne_true
    · rename_i s' hEq
      rw [hEq, ih hShort.2]
      exact (and_iff_right rfl).symm

theorem processRTCPPacket_ok_iff {p : RTCPPacket} (hShort : p.Short)
    (ownssrc : Option (BitVec 32)) (s : RTPSources) :
    (s.processRTCPPacket ownssrc receivetime senderaddress p).2 = true ↔ p.Legal := by
  cases p with
  | sdes chunks => exact processSDESChunks_ok_iff hShort s
  | _ => exact iff_of_true rfl (by rintro _ ⟨⟩)

theorem processRTCPPackets_ok_iff {packets : List RTCPPacket} (hShort : ∀ p ∈ packets, p.Short)
    (ownssrc : Option (BitVec 32)) (s : RTPSources) :
    (processRTCPPackets ownssrc receivetime senderaddress packets s).2 = true ↔
      ∀ p ∈ packets, p.Legal := by
  induction packets generalizing s with
  | nil => exact iff_of_true rfl (by rintro _ ⟨⟩)
  | cons p packets ih =>
    rw [List.forall_mem_cons] at hShort ⊢
    have hHere := @processRTCPPacket_ok_iff receivetime senderaddress p hShort.1 ownssrc s
    rw [← hHere, processRTCPPackets]
    split
    · rename_i s' hEq
      rw [hEq]
      exact iff_of_false Bool.false_ne_true fun h => absurd h.1 Bool.false_ne_true
    · rename_i s' hEq
      rw [hEq, ih hShort.2]
      exact (and_iff_right rfl).symm

end RTPSources

/-! ## `ProcessRawPacket` -/

/-- The items of the source descriptions in a datagram have the types 1 to 8. -/
def LegalItems (data : List UInt8) : Prop :=
  ∀ packets contents, Compound true data packets → List.Forall₂ SaysOnly packets contents →
    ∀ c ∈ contents, (RTCPPacket.ofContents c).Legal

section Receiver
variable (beyond : Nat → UInt8) (comesFromThisTransmitter : Jni.RTPIPv4Address → Bool)
  (acceptownpackets : Bool)

/-- Whether there is no error; none if a read leaves the datagram. -/
def RTPSources.processRawPacket (rawpack : RTPRawPacket) (s : RTPSources) :
    Option (RTPSources × Bool) :=
  let ownpacket := comesFromThisTransmitter rawpack.senderaddress
  -- the address of own packets is NULL
  let senderaddress : RTPAddress := if ownpacket then none else some rawpack.senderaddress
  if rawpack.isrtp then
    match parseRawPacket beyond rawpack with
    | .error .invalidPacket => some (s, true)
    | .error _ => some (s, false)
    | .ok rtppack =>
      if ownpacket && !acceptownpackets then some (s, true)
      else some ((s.processRTPPacket rtppack rawpack.receivetime senderaddress).1, true)
  else
    match receiveRTCP rawpack.data with
    | none => none
    | some none => some (s, true)
    | some (some contents) =>
      if ownpacket && !acceptownpackets then some (s, true)
      else some (s.processRTCPCompoundPacket (contents.map RTCPPacket.ofContents)
        rawpack.receivetime senderaddress)

/-- A datagram that is dropped, or has no item that is in error. -/
def Harmless (rawpack : RTPRawPacket) : Prop :=
  rawpack.isrtp = true ∨
    (comesFromThisTransmitter rawpack.senderaddress = true ∧ acceptownpackets = false) ∨
      LegalItems rawpack.data

/-- The state after a datagram is the one after a call of the table, or the same. -/
theorem RTPSources.processRawPacket_spec (rawpack : RTPRawPacket) (s : RTPSources) :
    ∃ s' status,
      s.processRawPacket beyond comesFromThisTransmitter acceptownpackets rawpack =
        some (s', status) ∧
      (s' = s ∨ ∃ e, s.perform e = some s') ∧
      (status = true ↔ Harmless comesFromThisTransmitter acceptownpackets rawpack) := by
  unfold processRawPacket
  dsimp only
  by_cases hRtp : rawpack.isrtp = true
  · rw [if_pos hRtp]
    have hHarmless : Harmless comesFromThisTransmitter acceptownpackets rawpack := .inl hRtp
    split
    · exact ⟨s, true, rfl, .inl rfl, iff_of_true rfl hHarmless⟩
    · rename_i e hNot hError
      exact absurd (parseRawPacket_error hError) hNot
    · rename_i rtppack hParse
      split
      · exact ⟨s, true, rfl, .inl rfl, iff_of_true rfl hHarmless⟩
      · exact ⟨_, true, rfl, .inr ⟨.processRTPPacket rtppack rawpack.receivetime _, rfl⟩,
          iff_of_true rfl hHarmless⟩
  · rw [if_neg hRtp]
    obtain ⟨r, hReceive, hSpec⟩ := receiveRTCP_spec rawpack.data
    rw [hReceive]
    cases r with
    | none =>
      refine ⟨s, true, rfl, .inl rfl, iff_of_true rfl (.inr (.inr ?_))⟩
      intro packets contents hCompound hSays
      cases (hSpec contents).mpr ⟨packets, hCompound, hSays⟩
    | some contents =>
      obtain ⟨packets, hCompound, hSays⟩ := (hSpec contents).mp rfl
      dsimp only
      by_cases hOwn : (comesFromThisTransmitter rawpack.senderaddress && !acceptownpackets) = true
      · rw [if_pos hOwn]
        refine ⟨s, true, rfl, .inl rfl, iff_of_true rfl (.inr (.inl ?_))⟩
        simpa using hOwn
      · rw [if_neg hOwn]
        refine ⟨_, _, rfl, .inr ⟨.processRTCPCompoundPacket (contents.map RTCPPacket.ofContents)
          rawpack.receivetime _, rfl⟩, ?_⟩
        have hShort : ∀ p ∈ contents.map RTCPPacket.ofContents, p.Short := by
          intro p hp
          obtain ⟨c, hc, rfl⟩ := List.mem_map.mp hp
          exact RTCPPacket.short_of_forall₂ hSays c hc
        rw [processRTCPPackets_ok_iff hShort, List.forall_mem_map]
        constructor
        · intro hLegal
          refine .inr (.inr ?_)
          intro packets' contents' hCompound' hSays'
          cases (hSpec contents').mpr ⟨packets', hCompound', hSays'⟩
          exact hLegal
        · rintro (hTrue | hDropped | hLegal)
          · exact absurd hTrue hRtp
          · exact absurd (by simpa using hDropped) hOwn
          · exact hLegal packets contents hCompound hSays

end Receiver

/-! ## The poll thread -/

/-- The table, and whether the thread is still in its loop. -/
structure RTPPollThread where
  sources : RTPSources
  running : Bool

/-- Timeouts, what follows a collision, and what other threads do are calls of the table. -/
inductive ThreadEvent where
  | rawPacket (beyond : Nat → UInt8) (comesFromThisTransmitter : Jni.RTPIPv4Address → Bool)
      (rawpack : RTPRawPacket)
  | pollThreadStep
  | call (e : SourcesCall)

namespace RTPPollThread

open RTPSources CustomRTPSession

variable (acceptownpackets : Bool)

def new : RTPPollThread := ⟨.new, true⟩

/-- One turn of the loop of `ProcessPolledData`, or of the loop of the thread behind it. -/
def step (x : RTPPollThread) : ThreadEvent → Option RTPPollThread
  | .rawPacket beyond comesFromThisTransmitter rawpack =>
    if x.running then
      (processRawPacket beyond comesFromThisTransmitter acceptownpackets rawpack
        { x.sources with owncollision := false }).map fun y => ⟨y.1, y.2⟩
    else none
  | .pollThreadStep =>
    if x.running then (onPollThreadStep x.sources).map fun y => ⟨y.1, true⟩ else none
  | .call e => (x.sources.perform e).map fun s => { x with sources := s }

def Running (x : RTPPollThread) : Prop := x.running = true

def Acceptable : ThreadEvent → Prop
  | .rawPacket _ comesFromThisTransmitter rawpack =>
    Harmless comesFromThisTransmitter acceptownpackets rawpack
  | _ => True

theorem running_step_iff {x x' : RTPPollThread} {e : ThreadEvent} (hRunning : x.Running)
    (hStep : x.step acceptownpackets e = some x') :
    x'.Running ↔ Acceptable acceptownpackets e := by
  cases e with
  | rawPacket beyond comesFromThisTransmitter rawpack =>
    obtain ⟨s', status, hProcess, -, hStatus⟩ := processRawPacket_spec beyond
      comesFromThisTransmitter acceptownpackets rawpack { x.sources with owncollision := false }
    rw [step, if_pos (show x.running = true from hRunning), hProcess] at hStep
    cases hStep
    exact hStatus
  | pollThreadStep =>
    rw [step, if_pos (show x.running = true from hRunning)] at hStep
    obtain ⟨y, -, rfl⟩ := Option.map_eq_some_iff.mp hStep
    exact iff_of_true rfl trivial
  | call e =>
    obtain ⟨s', -, rfl⟩ := Option.map_eq_some_iff.mp hStep
    exact iff_of_true hRunning trivial

theorem always_running_iff (es : List ThreadEvent) :
    Always (step acceptownpackets) Running new es ↔
      Meets (step acceptownpackets) (fun _ => Acceptable acceptownpackets) new es := by
  have hKeep {x x' : RTPPollThread} {e : ThreadEvent} (_ : True) (_ : x.Running)
      (_ : x.step acceptownpackets e = some x') (_ : x'.Running) : True := trivial
  have hExact {x x' : RTPPollThread} {e : ThreadEvent} (_ : True) (hRunning : x.Running)
      (hStep : x.step acceptownpackets e = some x') :
      x'.Running ↔ Acceptable acceptownpackets e :=
    running_step_iff acceptownpackets hRunning hStep
  exact always_iff_meets hKeep hExact trivial rfl

def unknownSource : BitVec 32 × List RTCPSDESPacket.Item := (0, [⟨9, [], by decide, by decide⟩])

def unknownItem : RTPRawPacket where
  data := (reportPackets (word32.write 0) 4 false [] ++
    sdesPackets ([unknownSource].map sourceOf)).flatten
  senderaddress := ⟨0, 0⟩
  receivetime := ⟨0, 0⟩
  isrtp := false

theorem not_legalItems : ¬ LegalItems unknownItem.data := by
  have hReports := @wellbuilt_reports 0 none [] (word32.write 0) 4 rfl (by rintro _ ⟨⟩) (by
    rw [List.map_nil, reportPackets]
    decide)
  have hSources := @wellbuilt_sdes [unknownSource] [(0, [(.unknown, [])])] rfl (by
    rw [List.map_singleton, sdesPackets]
    decide)
  have hContents : Gathered.reportContents 0 none [] ++
      Gathered.sdesContents [(0, [(.unknown, [])])] =
        [.rr 0 [], .sdes [(0, [(.unknown, [])])]] := by
    unfold Gathered.reportContents Gathered.sdesContents
    rfl
  have hAll := List.rel_append hReports hSources
  dsimp only at hAll
  rw [hContents] at hAll
  have hReceive := receiveRTCP_of_wellbuilt hAll (.inr rfl)
  obtain ⟨r, hSame, hSpec⟩ := receiveRTCP_spec unknownItem.data
  cases hSame.symm.trans hReceive
  obtain ⟨packets, hCompound, hSays⟩ := (hSpec _).mp rfl
  intro hLegal
  exact hLegal packets _ hCompound hSays _ (List.mem_cons_of_mem _ List.mem_cons_self) _
    List.mem_cons_self rfl

theorem not_always_running : ∃ es, ¬ Always (step false) Running new es := by
  refine ⟨[.rawPacket (fun _ => 0) (fun _ => false) unknownItem], fun h => ?_⟩
  obtain ⟨s', status, hProcess, -⟩ :=
    processRawPacket_spec (fun _ => 0) (fun _ => false) false unknownItem RTPSources.new
  have hStep : new.step false (.rawPacket (fun _ => 0) (fun _ => false) unknownItem) =
      some ⟨s', status⟩ := by
    change (processRawPacket (fun _ => 0) (fun _ => false) false unknownItem
      RTPSources.new).map _ = _
    rw [hProcess]
    rfl
  have hRunning : new.Running := rfl
  have hHarmless := (running_step_iff false hRunning hStep).mp (h.2 _ hStep)
  rcases hHarmless with hRtp | ⟨hOwn, -⟩ | hLegal
  · cases hRtp
  · cases hOwn
  · exact not_legalItems hLegal

/-- Whatever datagram comes, its processing returns, and a turn behind it passes on all packets. -/
structure Safe (x : RTPPollThread) : Prop where
  hSound : x.sources.Sound
  hReturns : ∀ beyond comesFromThisTransmitter rawpack,
    (x.sources.processRawPacket beyond comesFromThisTransmitter acceptownpackets
      rawpack).isSome = true
  hPasses : ∃ s', onPollThreadStep x.sources = some (s', waiting x.sources.sources) ∧
    waiting s'.sources = []

def Inv (s : RTPSources) : Prop := s.Sound ∧ Ready s.sources

theorem settled_of_inv {s : RTPSources} (h : Inv s) :
    PollTrace.Settled ⟨s, waiting s.sources, [], []⟩ := by
  refine ⟨h.1, h.2, ?_⟩
  change (waiting s.sources).Perm ([] ++ waiting s.sources ++ [])
  rw [List.nil_append, List.append_nil]

theorem Inv.perform {s s' : RTPSources} {e : SourcesCall} (h : Inv s)
    (hStep : s.perform e = some s') : Inv s' := by
  have hSettled := (settled_of_inv h).step (e := .call e) (by rw [PollTrace.step, hStep]; rfl)
  exact ⟨hSettled.hSound, hSettled.hReady⟩

theorem Inv.pollThreadStep {s : RTPSources} {y : RTPSources × List (BitVec 32 × RTPPacket)}
    (h : Inv s) (hStep : onPollThreadStep s = some y) : Inv y.1 := by
  have hSettled := (settled_of_inv h).step (e := .pollThreadStep)
    (by rw [PollTrace.step, hStep]; rfl)
  exact ⟨hSettled.hSound, hSettled.hReady⟩

theorem Inv.step {x x' : RTPPollThread} {e : ThreadEvent} {acceptownpackets : Bool}
    (h : Inv x.sources) (hStep : x.step acceptownpackets e = some x') : Inv x'.sources := by
  unfold RTPPollThread.step at hStep
  split at hStep
  · rename_i beyond comesFromThisTransmitter rawpack
    split at hStep
    · obtain ⟨s', status, hProcess, hCall, -⟩ := processRawPacket_spec beyond
        comesFromThisTransmitter acceptownpackets rawpack { x.sources with owncollision := false }
      have hCleared : Inv { x.sources with owncollision := false } :=
        h.perform (e := .clearOwnCollisionFlag) rfl
      rw [hProcess] at hStep
      cases hStep
      rcases hCall with rfl | ⟨e, hPerform⟩
      · exact hCleared
      · exact hCleared.perform hPerform
    · cases hStep
  · split at hStep
    · obtain ⟨y, hPoll, rfl⟩ := Option.map_eq_some_iff.mp hStep
      exact h.pollThreadStep hPoll
    · cases hStep
  · obtain ⟨s', hPerform, rfl⟩ := Option.map_eq_some_iff.mp hStep
    exact h.perform hPerform

theorem always_safe (es : List ThreadEvent) :
    Always (step acceptownpackets) (Safe acceptownpackets) new es := by
  have hNew : Inv RTPSources.new := ⟨sound_new, fun _ he => absurd he List.not_mem_nil⟩
  have hKeep {x x' : RTPPollThread} {e : ThreadEvent} (h : Inv x.sources)
      (hStep : x.step acceptownpackets e = some x') : Inv x'.sources := h.step hStep
  refine always_of_invariant hKeep ?_ hNew
  intro x h
  refine ⟨h.1, ?_, _, onPollThreadStep_eq h.1.hKeys h.2, ?_⟩
  · intro beyond comesFromThisTransmitter rawpack
    obtain ⟨s', status, hProcess, -⟩ := processRawPacket_spec beyond comesFromThisTransmitter
      acceptownpackets rawpack x.sources
    rw [hProcess]
    rfl
  · exact PollTrace.waiting_emptied x.sources.sources

end RTPPollThread

end LocalCall.Jrtp
