import LocalCall.Jrtp.SourceChanges
import LocalCall.Jrtp.SourceCounters

/-! # Whose packets a source hands out

The collision check binds a source to the address that it was first heard from: as long as the
source is in the table, everything that is handed out for it comes from there.
-/
namespace LocalCall.Jrtp
set_option autoImplicit false

open Dictionary Transition SortedQueue

/-- The packet came from the address, before it was given its number here. -/
def CameFrom (arrived : List (RTPPacket × RTPAddress)) (ssrc : BitVec 32) (a : RTPAddress)
    (q : RTPPacket) : Prop :=
  ∃ p, (p, a) ∈ arrived ∧ p.ssrc = ssrc ∧ q = { p with extseqnr := q.extseqnr }

theorem CameFrom.mono {arrived arrived' : List (RTPPacket × RTPAddress)} {ssrc : BitVec 32}
    {a : RTPAddress} {q : RTPPacket} (h : CameFrom arrived ssrc a q) (hSub : arrived ⊆ arrived') :
    CameFrom arrived' ssrc a q := by
  obtain ⟨p, hMem, hRest⟩ := h
  exact ⟨p, hSub hMem, hRest⟩

namespace RTPInternalSourceData

variable {d d' d'' : RTPInternalSourceData} {arrived : List (RTPPacket × RTPAddress)}
  {ssrc : BitVec 32}

/-- What becomes of a source in a call that brings the packets `arrived`. -/
structure Continues (arrived : List (RTPPacket × RTPAddress)) (ssrc : BitVec 32)
    (d d' : RTPInternalSourceData) : Prop where
  hAddress : ∀ a, d.rtpaddr = some a → d'.rtpaddr = some a
  hRtcp : ∀ a, d.rtcpaddr = some a → d'.rtcpaddr = some a
  hHost : d.SameHost → d'.SameHost
  hOrdered : Ordered number d.packetlist → Ordered number d'.packetlist
  hQueue : ∀ q ∈ d'.packetlist,
    q ∈ d.packetlist ∨ ∃ a, d'.rtpaddr = some a ∧ CameFrom arrived ssrc a q

theorem Tends.continues (h : Tends d d') : Continues arrived ssrc d d' where
  hAddress := h.hAddress
  hRtcp := h.hRtcp
  hHost := h.hHost
  hOrdered hOrdered := by rwa [h.hQueue]
  hQueue q hq := Or.inl (h.hQueue ▸ hq)

theorem Continues.trans (h : Continues arrived ssrc d d') (h' : Continues arrived ssrc d' d'') :
    Continues arrived ssrc d d'' where
  hAddress a ha := h'.hAddress a (h.hAddress a ha)
  hRtcp a ha := h'.hRtcp a (h.hRtcp a ha)
  hHost hSame := h'.hHost (h.hHost hSame)
  hOrdered hOrdered := h'.hOrdered (h.hOrdered hOrdered)
  hQueue q hq := by
    rcases h'.hQueue q hq with hq | hNew
    · rcases h.hQueue q hq with hOld | ⟨a, ha, hCame⟩
      · exact Or.inl hOld
      · exact Or.inr ⟨a, h'.hAddress a ha, hCame⟩
    · exact Or.inr hNew

/-- A packet that gets through is queued for the address that it came from. -/
theorem continues_processRTPPacket {a : RTPAddress} (hAddress : d.rtpaddr = some a)
    (rtppack : RTPPacket) (receivetime : RTPTime) :
    Continues [(rtppack, a)] rtppack.ssrc d (d.processRTPPacket rtppack receivetime).1 := by
  have hSame : (d.processRTPPacket rtppack receivetime).1.rtpaddr = d.rtpaddr ∧
      (d.processRTPPacket rtppack receivetime).1.rtcpaddr = d.rtcpaddr := by
    unfold processRTPPacket
    simp only
    split <;> exact ⟨rfl, rfl⟩
  refine ⟨fun b hb => hSame.1.trans hb, fun b hb => hSame.2.trans hb, ?_, ?_, ?_⟩
  · rw [SameHost, SameHost, hSame.1, hSame.2]
    exact id
  · intro hOrdered
    rw [packetlist_processRTPPacket hOrdered]
    exact ordered_enqueue hOrdered _
  · intro q hq
    have hPerm := perm_processRTPPacket (Eq.refl (d.processRTPPacket rtppack receivetime))
    rcases List.mem_append.mp (hPerm.mem_iff.mp hq) with hNew | hOld
    · split at hNew
      · rw [List.mem_singleton.mp hNew]
        exact Or.inr ⟨a, hSame.1.trans hAddress, rtppack, List.mem_singleton_self _, rfl, rfl⟩
      · cases hNew
    · exact Or.inl hOld

/-- A packet is taken from the front of the queue. -/
theorem getNextPacket_spec : Continues arrived ssrc d d.getNextPacket.1 ∧
    ∀ q, d.getNextPacket.2 = some q → q ∈ d.packetlist := by
  have hSame : Continues arrived ssrc d d := (Tends.refl d).continues
  rw [getNextPacket]
  split
  · cases hQueue : d.packetlist with
    | nil =>
      refine ⟨hSame, ?_⟩
      rintro q ⟨⟩
    | cons p packetlist =>
      refine ⟨⟨fun _ => id, fun _ => id, id, ?_, ?_⟩, ?_⟩
      · intro hOrdered
        rw [hQueue] at hOrdered
        exact (List.pairwise_cons.mp hOrdered).2
      · intro q hq
        rw [hQueue]
        exact Or.inl (List.mem_cons_of_mem p hq)
      · rintro q ⟨⟩
        exact List.mem_cons_self
  · refine ⟨hSame, ?_⟩
    rintro q ⟨⟩

end RTPInternalSourceData

namespace RTPSources

open RTPInternalSourceData

def arrivals : SourcesCall → List (RTPPacket × RTPAddress)
  | .processRTPPacket rtppack _ senderaddress => [(rtppack, senderaddress)]
  | _ => []

/-- The RTCP messages of a call that get through, each to whom and from where. -/
def messages (s : RTPSources) : SourcesCall → List (BitVec 32 × RTPAddress)
  | .processRTCPCompoundPacket packets receivetime senderaddress =>
    (gotThrough receivetime senderaddress
      (packets.flatMap (RTCPMessage.ofPacket s.owndata)) s).map fun ssrc => (ssrc, senderaddress)
  | _ => []

theorem rtcpaddr_messages {s s' : RTPSources} {e : SourcesCall} (hStep : s.perform e = some s')
    {ssrc : BitVec 32} {a : RTPAddress} (h : (ssrc, a) ∈ s.messages e) :
    ∃ d, lookup ssrc s'.sources = some d ∧ d.rtcpaddr = some a := by
  cases e with
  | processRTCPCompoundPacket packets receivetime senderaddress =>
    cases hStep
    obtain ⟨k, hThrough, hEq⟩ := List.mem_map.mp h
    cases hEq
    rw [processRTCPCompoundPacket, processRTCPPackets_eq]
    exact rtcpaddr_gotThrough hThrough
  | _ => cases h

/-- Everything that is in the table after a call continues what was there. -/
theorem continues_perform {s s' : RTPSources} {e : SourcesCall} (h : s.Sound)
    (hStep : s.perform e = some s') {k : BitVec 32} {d' : RTPInternalSourceData}
    (hHere : lookup k s'.sources = some d') :
    Continues (arrivals e) k ((lookup k s.sources).getD (.new k)) d' := by
  cases changes_perform h.hKeys hStep with
  | tended hKeeps => exact (hKeeps.hSources k d' hHere).continues
  | @queued p t a s₁ s₂ d hGet hBefore hAddress hLookup hQueued hAfter =>
    have hLast := hAfter.hSources k d' hHere
    rw [hQueued] at hLast
    by_cases hk : k = p.ssrc
    · subst hk
      rw [lookup_store_self (mem_keys_of_lookup hLookup)] at hLast
      have hFirst := hBefore.hSources p.ssrc d hLookup
      exact hFirst.continues.trans
        ((continues_processRTPPacket hAddress p t).trans hLast.continues)
    · rw [lookup_store_ne hk] at hLast
      exact (hBefore.extend hLast).continues
  | @polled ssrc d hLookup hOut hSources =>
    rw [hSources] at hHere
    by_cases hk : k = ssrc
    · subst hk
      cases (lookup_store_self (mem_keys_of_lookup hLookup)).symm.trans hHere
      rw [hLookup]
      exact getNextPacket_spec.1
    · rw [lookup_store_ne hk] at hHere
      rw [hHere]
      exact (Tends.refl d').continues
  | removed visit hSources hTends =>
    rw [hSources] at hHere
    obtain ⟨d, hOld, hKept⟩ := lookup_kept h.hKeys hHere
    rw [hOld]
    exact (hTends k d d' hKept).continues

theorem mem_handedOut {s : RTPSources} {e : SourcesCall} {k : BitVec 32} {q : RTPPacket}
    (h : (k, q) ∈ s.handedOut e) : ∃ d, lookup k s.sources = some d ∧ q ∈ d.packetlist := by
  cases e with
  | getNextPacket =>
    rw [handedOut, Option.mem_toList] at h
    obtain ⟨e, hCurrent, h⟩ := Option.bind_eq_some_iff.mp h
    obtain ⟨q', hGet, hEq⟩ := Option.map_eq_some_iff.mp h
    cases hEq
    obtain ⟨x, hGet, hOut⟩ := Option.bind_eq_some_iff.mp hGet
    obtain ⟨ssrc, d, hSame, hLookup, rfl⟩ | rfl := getNextPacket_cases hGet
    · cases hCurrent.symm.trans hSame
      exact ⟨d, hLookup, (@getNextPacket_spec d [] ssrc).2 q hOut⟩
    · cases hOut
  | _ => cases h

end RTPSources

/-- A table with the packets that came in, and, for the sources that are still there, the RTCP
messages that got through and the packets that were handed out. -/
structure HeardTrace where
  sources : RTPSources
  arrived : List (RTPPacket × RTPAddress)
  messages : List (BitVec 32 × RTPAddress)
  polled : List (BitVec 32 × RTPPacket)

namespace HeardTrace

open RTPSources RTPInternalSourceData

def new : HeardTrace := ⟨.new, [], [], []⟩

def step (x : HeardTrace) (e : SourcesCall) : Option HeardTrace :=
  (x.sources.perform e).map fun sources => ⟨sources, x.arrived ++ arrivals e,
    (x.messages ++ x.sources.messages e).filter fun y => sources.gotEntry y.1,
    (x.polled ++ x.sources.handedOut e).filter fun y => sources.gotEntry y.1⟩

/-- The packets of each source that wait or were handed out came from the one address of the source,
and the RTCP messages that got through from its one RTCP address, on the same host; what waits is in
order, each number once. -/
def OneSender (x : HeardTrace) : Prop :=
  ∀ ssrc d, lookup ssrc x.sources.sources = some d →
    d.SameHost ∧ Ordered number d.packetlist ∧
      (∀ a, (ssrc, a) ∈ x.messages → d.rtcpaddr = some a) ∧
        ∀ q, q ∈ d.packetlist ∨ (ssrc, q) ∈ x.polled →
          ∃ a, d.rtpaddr = some a ∧ CameFrom x.arrived ssrc a q

structure Bound (x : HeardTrace) : Prop where
  hSound : x.sources.Sound
  hMessages : ∀ y ∈ x.messages, y.1 ∈ keys x.sources.sources
  hPolled : ∀ y ∈ x.polled, y.1 ∈ keys x.sources.sources
  hSender : x.OneSender

theorem Bound.step {x x' : HeardTrace} {e : SourcesCall} (h : x.Bound)
    (hStep : x.step e = some x') : x'.Bound := by
  obtain ⟨s', hPerform, rfl⟩ := Option.map_eq_some_iff.mp hStep
  refine ⟨(perform_spec h.hSound hPerform).1, ?_, ?_, ?_⟩
  · intro y hy
    exact of_decide_eq_true (List.mem_filter.mp hy).2
  · intro y hy
    exact of_decide_eq_true (List.mem_filter.mp hy).2
  · intro ssrc d' hd'
    have hContinues := continues_perform h.hSound hPerform hd'
    have hOlder : ∀ a q, CameFrom x.arrived ssrc a q →
        CameFrom (x.arrived ++ arrivals e) ssrc a q :=
      fun a q hCame => hCame.mono (List.subset_append_left _ _)
    have hTold : ∀ a, (ssrc, a) ∈ x.sources.messages e → d'.rtcpaddr = some a := by
      intro a ha
      obtain ⟨d, hd, hAddress⟩ := rtcpaddr_messages hPerform ha
      cases hd.symm.trans hd'
      exact hAddress
    -- a source that enters the table has nothing waiting and nothing was handed out for it
    cases hBefore : lookup ssrc x.sources.sources with
    | none =>
      rw [hBefore] at hContinues
      refine ⟨hContinues.hHost ?_, hContinues.hOrdered List.Pairwise.nil, ?_, ?_⟩
      · rintro a b ⟨⟩
      · intro a ha
        rcases List.mem_append.mp (List.mem_filter.mp ha).1 with hOld | hNew
        · exact absurd (h.hMessages _ hOld) (lookup_eq_none_iff.mp hBefore)
        · exact hTold a hNew
      · rintro q (hq | hq)
        · rcases hContinues.hQueue q hq with hOld | ⟨a, ha, hCame⟩
          · cases hOld
          · exact ⟨a, ha, hCame.mono (List.subset_append_right _ _)⟩
        · exfalso
          have hAbsent := lookup_eq_none_iff.mp hBefore
          rcases List.mem_append.mp (List.mem_filter.mp hq).1 with hOld | hNew
          · exact hAbsent (h.hPolled _ hOld)
          · obtain ⟨d, hd, -⟩ := mem_handedOut hNew
            exact hAbsent (mem_keys_of_lookup hd)
    | some d =>
      rw [hBefore] at hContinues
      obtain ⟨hHost, hOrdered, hMessages, hQueue⟩ := h.hSender ssrc d hBefore
      have hOld : ∀ q, q ∈ d.packetlist ∨ (ssrc, q) ∈ x.polled →
          ∃ a, d'.rtpaddr = some a ∧ CameFrom (x.arrived ++ arrivals e) ssrc a q := by
        intro q hq
        obtain ⟨a, ha, hCame⟩ := hQueue q hq
        exact ⟨a, hContinues.hAddress a ha, hOlder a q hCame⟩
      refine ⟨hContinues.hHost hHost, hContinues.hOrdered hOrdered, ?_, ?_⟩
      · intro a ha
        rcases List.mem_append.mp (List.mem_filter.mp ha).1 with hOld | hNew
        · exact hContinues.hRtcp a (hMessages a hOld)
        · exact hTold a hNew
      rintro q (hq | hq)
      · rcases hContinues.hQueue q hq with hq | ⟨a, ha, hCame⟩
        · exact hOld q (Or.inl hq)
        · exact ⟨a, ha, hCame.mono (List.subset_append_right _ _)⟩
      · rcases List.mem_append.mp (List.mem_filter.mp hq).1 with hq | hNew
        · exact hOld q (Or.inr hq)
        · obtain ⟨d₁, hd₁, hq⟩ := mem_handedOut hNew
          cases hBefore.symm.trans hd₁
          exact hOld q (Or.inl hq)

theorem always_oneSender (es : List SourcesCall) : Always step OneSender new es := by
  refine always_of_invariant Bound.step Bound.hSender ⟨sound_new, ?_, ?_, ?_⟩
  · intro y hy
    cases hy
  · intro y hy
    cases hy
  · intro ssrc d hd
    cases hd

end HeardTrace
end LocalCall.Jrtp
