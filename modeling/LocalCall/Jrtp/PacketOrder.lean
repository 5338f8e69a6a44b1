import LocalCall.Jrtp.SourceData

/-! # The packets of one source between two polls

A poll takes every packet out of the queue of a source. When the packets arrive in the window of the
highest sequence number, each poll hands out what arrived since the last one in the order in which
it was sent, whatever the network did to that order.
-/
namespace LocalCall.Jrtp
set_option autoImplicit false

open Transition SortedQueue RTPSourceStats

namespace RTPInternalSourceData

/-- `while ((pack = sess.GetNextPacket()) != NULL)`, as often as `fuel` says. -/
def drain : Nat → RTPInternalSourceData → RTPInternalSourceData × List RTPPacket
  | 0, d => (d, [])
  | fuel + 1, d =>
    match d.getNextPacket with
    | (d, none) => (d, [])
    | (d, some pack) => ((drain fuel d).1, pack :: (drain fuel d).2)

theorem drain_eq {d : RTPInternalSourceData} (hValidated : d.validated = true) {fuel : Nat}
    (hFuel : d.packetlist.length ≤ fuel) :
    d.drain fuel = ({ d with packetlist := [] }, d.packetlist) := by
  obtain ⟨packetlist, ssrc, own, csrc, bye, validated, sender, stats, sdes, rtp, rtcp, t, r⟩ := d
  cases hValidated
  induction packetlist generalizing fuel with
  | nil => cases fuel <;> rfl
  | cons p packetlist ih =>
    cases fuel with
    | zero => exact absurd hFuel (Nat.not_succ_le_zero _)
    | succ fuel =>
      have hRest := ih (Nat.le_of_succ_le_succ hFuel)
      change ((drain fuel _).1, p :: (drain fuel _).2) = _
      rw [hRest]

def poll (d : RTPInternalSourceData) : RTPInternalSourceData × List RTPPacket :=
  if d.hasData then d.drain (d.packetlist.length + 1) else (d, [])

theorem poll_eq {d : RTPInternalSourceData} (h : d.validated = true ∨ d.packetlist = []) :
    d.poll = ({ d with packetlist := [] }, d.packetlist) := by
  rw [poll]
  split
  · rename_i hData
    rw [hasData, Bool.and_eq_true] at hData
    exact drain_eq hData.1 (Nat.le_succ _)
  · rename_i hData
    have hEmpty : d.packetlist = [] := by
      rcases h with hValidated | hEmpty
      · rw [hasData, hValidated, Bool.true_and, Bool.not_eq_true', Bool.not_eq_false,
          List.isEmpty_iff] at hData
        exact hData
      · exact hEmpty
    obtain ⟨packetlist, ssrc, own, csrc, bye, validated, sender, stats, sdes, rtp, rtcp, t, r⟩ := d
    cases hEmpty
    rfl

end RTPInternalSourceData

inductive SourceEvent where
  | arrive (e : Arrival)
  | poll

/-- A source, the numbers it gave, what arrived since the last poll, and for every poll what had
arrived and what it handed out. -/
structure SourceTrace where
  source : RTPInternalSourceData
  numbers : List (Int × BitVec 32)
  pending : List Arrival
  polls : List (List Arrival × List RTPPacket)

namespace SourceTrace

open RTPInternalSourceData

def new (ssrc : BitVec 32) : SourceTrace := ⟨.new ssrc, [], [], []⟩

def arrivals (t : SourceTrace) : Arrivals := ⟨t.source.stats, t.numbers⟩

def step (t : SourceTrace) : SourceEvent → Option SourceTrace
  | .arrive e =>
    if e.Counts t.numbers.isEmpty ∧ e.ownpacket = t.source.ownssrc then
      some { t with
        source := (t.source.processRTPPacket e.pack e.receivetime).1
        numbers := t.numbers ++ [(e.number, (t.source.numbered e.pack e.receivetime).extseqnr)]
        pending := t.pending ++ [e] }
    else none
  | .poll =>
    some { t with
      source := t.source.poll.1
      pending := []
      polls := t.polls ++ [(t.pending, t.source.poll.2)] }

def handedOut (e : Arrival) : RTPPacket := { e.pack with extseqnr := BitVec.ofInt 32 e.number }

/-- Of the packets with one number the first, and these in the order of their sender. -/
def InOrder (arrived : List Arrival) (handed : List RTPPacket) : Prop :=
  ∃ es : List Arrival, Ordered Arrival.number es ∧
    (∀ e, e ∈ es ↔ Firsts Arrival.number arrived e) ∧ handed = es.map handedOut

def PollsInOrder (t : SourceTrace) : Prop := ∀ p ∈ t.polls, InOrder p.1 p.2

def Timely (t : SourceTrace) : SourceEvent → Prop
  | .arrive e => t.arrivals.Timely e
  | .poll => True

instance (t : SourceTrace) : (e : SourceEvent) → Decidable (t.Timely e)
  | .arrive e => inferInstanceAs (Decidable (t.arrivals.Timely e))
  | .poll => inferInstanceAs (Decidable True)

structure Queued (t : SourceTrace) : Prop where
  hTracked : t.arrivals.Tracked
  hFaithful : t.arrivals.Faithful
  hValidated : t.source.validated = true ∨ t.source.packetlist = []
  hNumbers : ∀ e ∈ t.pending, (number (handedOut e) : Int) = e.number
  hQueue : t.source.packetlist = (enqueueAll Arrival.number [] t.pending).map handedOut
  hPolls : t.PollsInOrder

theorem queued_new (ssrc : BitVec 32) : (new ssrc).Queued where
  hTracked := Arrivals.tracked_new
  hFaithful := fun _ hx => absurd hx List.not_mem_nil
  hValidated := Or.inr rfl
  hNumbers := fun _ he => absurd he List.not_mem_nil
  hQueue := rfl
  hPolls := fun _ hp => absurd hp List.not_mem_nil

theorem mem_enqueueAll_nil {as : List Arrival} {e : Arrival} :
    e ∈ enqueueAll Arrival.number [] as ↔ Firsts Arrival.number as e := by
  rw [mem_enqueueAll List.Pairwise.nil]
  constructor
  · rintro (h | ⟨h, -⟩)
    · exact absurd h List.not_mem_nil
    · exact h
  · exact fun h => Or.inr ⟨h, fun b hb => absurd hb List.not_mem_nil⟩

theorem pending_of_mem {as : List Arrival} {e : Arrival}
    (h : e ∈ enqueueAll Arrival.number [] as) : e ∈ as := by
  obtain ⟨before, after, rfl, -⟩ := mem_enqueueAll_nil.mp h
  exact List.mem_append_right _ List.mem_cons_self

theorem inOrder_enqueueAll (as : List Arrival) :
    InOrder as ((enqueueAll Arrival.number [] as).map handedOut) :=
  ⟨_, ordered_enqueueAll List.Pairwise.nil as, fun _ => mem_enqueueAll_nil, rfl⟩

theorem Queued.ordered {t : SourceTrace} (h : t.Queued) : Ordered number t.source.packetlist := by
  rw [h.hQueue, Ordered, List.pairwise_map]
  refine (ordered_enqueueAll List.Pairwise.nil t.pending).imp_of_mem ?_
  intro a b ha hb hLt
  have hA := h.hNumbers a (pending_of_mem ha)
  have hB := h.hNumbers b (pending_of_mem hb)
  omega

theorem queued_arrive {t t' : SourceTrace} {e : Arrival} (h : t.Queued)
    (hTimely : t.arrivals.Timely e) (hStep : t.step (.arrive e) = some t') : t'.Queued := by
  rw [step] at hStep
  split at hStep
  swap
  · cases hStep
  rename_i hGuard
  cases hStep
  obtain ⟨hCounts, hOwn⟩ := hGuard
  have hReceive : t.arrivals.receive e = some
      ⟨(t.source.processRTPPacket e.pack e.receivetime).1.stats,
        t.numbers ++ [(e.number, (t.source.numbered e.pack e.receivetime).extseqnr)]⟩ := by
    rw [Arrivals.receive, stats_processRTPPacket, numbered]
    change (if e.Counts t.numbers.isEmpty then _ else _) = _
    rw [if_pos hCounts, hOwn]
    rfl
  obtain ⟨x, hNumbers, hWindow, hNext⟩ := Arrivals.receive_spec h.hTracked hReceive
  have hSame : (t.source.numbered e.pack e.receivetime).extseqnr = x := by
    have hLast := List.append_cancel_left hNumbers
    exact (Prod.mk.inj (List.cons.inj hLast).1).2
  have hGiven := hWindow.mpr hTimely
  have hLt := hCounts.2.1
  have hOut : handedOut e = t.source.numbered e.pack e.receivetime := by
    have hExt : BitVec.ofInt 32 e.number = (t.source.numbered e.pack e.receivetime).extseqnr := by
      rw [hSame, ← hGiven]
      apply BitVec.eq_of_toNat_eq
      rw [BitVec.toNat_ofInt]
      omega
    rw [handedOut, hExt]
    rfl
  have hNumber : (number (handedOut e) : Int) = e.number := by
    rw [hOut, number, hSame]
    exact hGiven
  refine ⟨hNext (by unfold lastNumber at *; omega), ?_, Or.inl (validated_processRTPPacket _ _ _),
    ?_, ?_, h.hPolls⟩
  · exact (Arrivals.faithful_concat h.hFaithful hNumbers).mpr hGiven
  · intro e' he'
    rcases List.mem_append.mp he' with he' | he'
    · exact h.hNumbers e' he'
    · rw [List.mem_singleton.mp he']
      exact hNumber
  · change (t.source.processRTPPacket e.pack e.receivetime).1.packetlist = _
    rw [packetlist_processRTPPacket h.ordered, h.hQueue, ← hOut, enqueueAll_append]
    apply enqueue_map
    intro b hb
    have hB := h.hNumbers b (pending_of_mem hb)
    omega

theorem queued_poll {t t' : SourceTrace} (h : t.Queued) (hStep : t.step .poll = some t') :
    t'.Queued := by
  cases hStep
  have hPoll := poll_eq h.hValidated
  refine ⟨?_, h.hFaithful, ?_, fun e he => absurd he List.not_mem_nil, ?_, ?_⟩
  · change (Arrivals.mk t.source.poll.1.stats t.numbers).Tracked
    rw [hPoll]
    exact h.hTracked
  · right
    change t.source.poll.1.packetlist = []
    rw [hPoll]
  · change t.source.poll.1.packetlist = _
    rw [hPoll]
    rfl
  · intro p hp
    rcases List.mem_append.mp hp with hp | hp
    · exact h.hPolls p hp
    · rw [List.mem_singleton.mp hp, hPoll, h.hQueue]
      exact inOrder_enqueueAll t.pending

/-- In every run in which the packets arrive in the window, every poll hands out in the order of the
sender what arrived since the poll before it, and each number once. -/
theorem always_pollsInOrder (ssrc : BitVec 32) (es : List SourceEvent)
    (hTimely : Meets step Timely (new ssrc) es) : Always step PollsInOrder (new ssrc) es := by
  have hKeep {t t' : SourceTrace} {e : SourceEvent} (h : t.Queued) (hG : t.Timely e)
      (hStep : t.step e = some t') : t'.Queued := by
    cases e with
    | arrive e => exact queued_arrive h hG hStep
    | poll => exact queued_poll h hStep
  exact always_of_meets hKeep Queued.hPolls (queued_new ssrc) hTimely

def oneByte (seq : BitVec 32) : RTPPacket where
  hasextension := false
  hasmarker := false
  numcsrcs := 0
  payloadtype := 96
  extseqnr := seq
  timestamp := 0
  ssrc := 1
  packet := List.replicate 13 0
  payload := 12
  payloadlength := 1
  extid := 0
  extension := 0
  extensionlength := 0

/-- The last packet of a cycle, then the second and the first of the next, and one of them again. -/
def reordered : List SourceEvent :=
  [.arrive ⟨65535, oneByte 65535, ⟨0, 0⟩, false⟩, .arrive ⟨65537, oneByte 1, ⟨0, 0⟩, false⟩,
    .arrive ⟨65536, oneByte 0, ⟨0, 0⟩, false⟩, .arrive ⟨65537, oneByte 1, ⟨0, 0⟩, false⟩, .poll]

theorem pollsInOrder_reordered : Always step PollsInOrder (new 1) reordered :=
  always_pollsInOrder 1 reordered (by decide +kernel)

example : ((run step (new 1) reordered).map fun t => t.polls.map fun p => p.2.map number) =
    some [[65535, 65536, 65537]] := by decide +kernel

end SourceTrace
end LocalCall.Jrtp
