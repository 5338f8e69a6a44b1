import Mathlib.Algebra.Ring.Nat
import LocalCall.Library.Transition
import LocalCall.Jrtp.RtpPacket

/-! # Sequence numbers that do not wrap around

`RTPSourceStats::ProcessPacket` extends the sixteen bits of a packet by the cycles it has counted.
The jitter, a floating point number, is left out; without the support for probation, which is not
compiled in, every packet is accepted.
-/
namespace LocalCall.Jrtp
set_option autoImplicit false

structure RTPSourceStats where
  sentdata : Bool
  packetsreceived : BitVec 32
  /-- Shifted left by sixteen bits. -/
  numcycles : BitVec 32
  baseseqnr : BitVec 32
  exthighseqnr : BitVec 32
  prevexthighseqnr : BitVec 32
  prevtimestamp : BitVec 32
  prevpacktime : RTPTime
  lastmsgtime : RTPTime
  lastrtptime : RTPTime
  lastnotetime : RTPTime
  numnewpackets : BitVec 32
  savedextseqnr : BitVec 32
  deriving DecidableEq

namespace RTPSourceStats

def new : RTPSourceStats :=
  ⟨false, 0, 0, 0, 0, 0, 0, ⟨0, 0⟩, ⟨0, 0⟩, ⟨0, 0⟩, ⟨0, 0⟩, 0, 0⟩

/-- `ACCEPTPACKETCODE`: the numbers that the first packet sets. -/
def acceptPacket (extseqnr : BitVec 32) (s : RTPSourceStats) : RTPSourceStats × BitVec 32 :=
  let baseseqnr := if extseqnr = 0 then 0x0000FFFF else extseqnr - 1
  let numcycles := if extseqnr = 0 then 0x00010000 else s.numcycles
  ({ s with
      sentdata := true
      packetsreceived := s.packetsreceived + 1
      numnewpackets := s.numnewpackets + 1
      baseseqnr, numcycles
      exthighseqnr := baseseqnr + 1
      prevexthighseqnr := baseseqnr
      savedextseqnr := baseseqnr }, baseseqnr + 1)

def extendSeqnr (seqnr : BitVec 32) (s : RTPSourceStats) : RTPSourceStats × BitVec 32 :=
  let maxseq16 : BitVec 16 := s.exthighseqnr.setWidth 16
  let s := { s with
    packetsreceived := s.packetsreceived + 1
    numnewpackets := s.numnewpackets + 1 }
  if maxseq16.setWidth 32 ≤ seqnr then
    ({ s with exthighseqnr := s.numcycles + seqnr }, s.numcycles + seqnr)
  else
    let dif1 : BitVec 16 := seqnr.setWidth 16 - maxseq16
    let dif2 : BitVec 16 := maxseq16 - seqnr.setWidth 16
    if dif1 < dif2 then
      let numcycles := s.numcycles + 0x00010000
      ({ s with numcycles, exthighseqnr := numcycles + seqnr }, numcycles + seqnr)
    else (s, s.numcycles + seqnr)

def processPacket (pack : RTPPacket) (receivetime : RTPTime) (ownpacket : Bool)
    (s : RTPSourceStats) : RTPSourceStats × RTPPacket :=
  let (s, extseqnr) :=
    if s.sentdata then s.extendSeqnr pack.extseqnr else s.acceptPacket pack.extseqnr
  ({ s with
      prevpacktime := receivetime
      prevtimestamp := pack.timestamp
      lastmsgtime := receivetime
      lastrtptime := if ownpacket then s.lastrtptime else receivetime },
    { pack with extseqnr })

def cycle : Nat := 65536

/-- The numbers after packets of which `high` is the highest. -/
def Counted (s : RTPSourceStats) (high : Nat) : Prop :=
  s.sentdata = true ∧ s.exthighseqnr.toNat = high ∧ s.numcycles.toNat = cycle * (high / cycle)

def firstNumber (seq : Nat) : Nat := if seq = 0 then cycle else seq

def numberAfter (high seq : Nat) : Nat :=
  if high % cycle ≤ seq then cycle * (high / cycle) + seq
  else if seq + 32768 < high % cycle then cycle * (high / cycle) + cycle + seq
  else cycle * (high / cycle) + seq

theorem counted_acceptPacket {s : RTPSourceStats} {seq : Nat} (hCycles : s.numcycles = 0)
    (hSeq : seq < cycle) :
    ((s.acceptPacket (BitVec.ofNat 32 seq)).1).Counted (firstNumber seq) ∧
      (s.acceptPacket (BitVec.ofNat 32 seq)).2.toNat = firstNumber seq := by
  by_cases hZero : seq = 0
  · subst hZero
    exact ⟨⟨rfl, rfl, rfl⟩, rfl⟩
  · have hNat : (BitVec.ofNat 32 seq).toNat = seq := by
      rw [BitVec.toNat_ofNat]
      unfold cycle at hSeq
      omega
    have hNe : BitVec.ofNat 32 seq ≠ 0 := by
      intro h
      rw [h] at hNat
      exact hZero hNat.symm
    have hNumber : (BitVec.ofNat 32 seq - 1 + 1).toNat = firstNumber seq := by
      rw [BitVec.sub_add_cancel, hNat, firstNumber, if_neg hZero]
    have hGiven : (s.acceptPacket (BitVec.ofNat 32 seq)).2 = BitVec.ofNat 32 seq - 1 + 1 := by
      rw [acceptPacket]
      simp only [if_neg hNe]
    refine ⟨⟨rfl, (congrArg BitVec.toNat hGiven).trans hNumber, ?_⟩,
      (congrArg BitVec.toNat hGiven).trans hNumber⟩
    rw [acceptPacket, firstNumber, if_neg hZero, Nat.div_eq_of_lt hSeq]
    simp only [if_neg hNe, hCycles]
    rfl

/-- Below this number the cycles fit in their 32 bits, also after another one. -/
def lastNumber : Nat := 65535 * 65536

theorem counted_extendSeqnr {s : RTPSourceStats} {high seq : Nat} (h : s.Counted high)
    (hHigh : high < lastNumber) (hSeq : seq < cycle) :
    ((s.extendSeqnr (BitVec.ofNat 32 seq)).1).Counted (max high (numberAfter high seq)) ∧
      (s.extendSeqnr (BitVec.ofNat 32 seq)).2.toNat = numberAfter high seq := by
  obtain ⟨hSent, hExt, hCycles⟩ := h
  unfold cycle lastNumber at *
  have hNat : (BitVec.ofNat 32 seq).toNat = seq := by
    rw [BitVec.toNat_ofNat]
    omega
  have hNat16 : ((BitVec.ofNat 32 seq).setWidth 16).toNat = seq := by
    rw [BitVec.toNat_setWidth, hNat]
    omega
  have hMax : (s.exthighseqnr.setWidth 16).toNat = high % 65536 := by
    rw [BitVec.toNat_setWidth, hExt]
  have hMax32 : ((s.exthighseqnr.setWidth 16).setWidth 32).toNat = high % 65536 := by
    rw [BitVec.toNat_setWidth, hMax]
    omega
  have hFull : (0x00010000 : BitVec 32).toNat = 65536 := by simp
  have hHere : (s.numcycles + BitVec.ofNat 32 seq).toNat = 65536 * (high / 65536) + seq := by
    rw [BitVec.toNat_add, hCycles, hNat]
    omega
  have hNext : (s.numcycles + 0x00010000).toNat = 65536 * (high / 65536) + 65536 := by
    rw [BitVec.toNat_add, hCycles, hFull]
    omega
  have hThere : (s.numcycles + 0x00010000 + BitVec.ofNat 32 seq).toNat =
      65536 * (high / 65536) + 65536 + seq := by
    rw [BitVec.toNat_add, hNext, hNat]
    omega
  have hUp : (s.exthighseqnr.setWidth 16).setWidth 32 ≤ BitVec.ofNat 32 seq ↔
      high % 65536 ≤ seq := by
    rw [BitVec.le_def, hMax32, hNat]
  have hFar : high % 65536 ≤ seq ∨
      ((BitVec.ofNat 32 seq).setWidth 16 - s.exthighseqnr.setWidth 16 <
        s.exthighseqnr.setWidth 16 - (BitVec.ofNat 32 seq).setWidth 16 ↔
      seq + 32768 < high % 65536) := by
    rw [BitVec.lt_def, BitVec.toNat_sub, BitVec.toNat_sub, hMax, hNat16]
    omega
  unfold numberAfter Counted cycle
  by_cases hCase : high % 65536 ≤ seq
  · simp only [extendSeqnr, if_pos (hUp.mpr hCase), if_pos hCase]
    refine ⟨⟨hSent, ?_, ?_⟩, hHere⟩
    · omega
    · omega
  · have hFar := hFar.resolve_left hCase
    by_cases hCase' : seq + 32768 < high % 65536
    · simp only [extendSeqnr, if_neg (mt hUp.mp hCase), if_pos (hFar.mpr hCase'), if_neg hCase,
        if_pos hCase']
      refine ⟨⟨hSent, ?_, ?_⟩, hThere⟩
      · omega
      · omega
    · simp only [extendSeqnr, if_neg (mt hUp.mp hCase), if_neg (mt hFar.mp hCase'),
        if_neg hCase, if_neg hCase']
      refine ⟨⟨hSent, ?_, ?_⟩, hHere⟩
      · omega
      · omega

/-- The packets that get their own number when `high` is the highest so far: one of the same cycle
that is not more than half a cycle late, or one of the next that is less than half a cycle ahead. -/
def InWindow (high : Nat) (n : Int) : Prop :=
  n / cycle = high / cycle ∧ (high : Int) ≤ n + 32768 ∨
    n / cycle = high / cycle + 1 ∧ n < high + 32768

instance (high : Nat) (n : Int) : Decidable (InWindow high n) := by unfold InWindow; infer_instance

theorem numberAfter_eq_iff (high : Nat) (n : Int) :
    (numberAfter high (n % cycle).toNat : Int) = n ↔ InWindow high n := by
  unfold numberAfter InWindow cycle
  split
  · omega
  · split <;> omega

theorem firstNumber_eq {n : Int} (hFirst : 1 ≤ n ∧ n ≤ cycle) :
    (firstNumber (n % cycle).toNat : Int) = n := by
  unfold firstNumber cycle at *
  split <;> omega

end RTPSourceStats

/-! ## Runs of arrivals -/

open Transition RTPSourceStats

structure Arrival where
  number : Int
  pack : RTPPacket
  receivetime : RTPTime
  ownpacket : Bool

/-- The numbers count from the cycle of the first packet to arrive, those before it from zero
downwards, and they end before the last cycle of 32 bits. -/
def Arrival.Counts (e : Arrival) (first : Bool) : Prop :=
  e.pack.extseqnr = BitVec.ofNat 32 (e.number % cycle).toNat ∧ e.number < lastNumber ∧
    (first = true → 1 ≤ e.number ∧ e.number ≤ cycle)

instance (e : Arrival) (first : Bool) : Decidable (e.Counts first) := by
  unfold Arrival.Counts
  infer_instance

/-- The statistics of a source and what it received: the number of each packet in the count of its
sender, and the extended sequence number that it was given. -/
structure Arrivals where
  stats : RTPSourceStats
  numbers : List (Int × BitVec 32)

namespace Arrivals

def new : Arrivals := ⟨RTPSourceStats.new, []⟩

def highest (a : Arrivals) : Nat := (a.numbers.map fun x => x.2.toNat).foldl max 0

def receive (a : Arrivals) (e : Arrival) : Option Arrivals :=
  if e.Counts a.numbers.isEmpty then
    let (stats, pack) := a.stats.processPacket e.pack e.receivetime e.ownpacket
    some ⟨stats, a.numbers ++ [(e.number, pack.extseqnr)]⟩
  else none

/-- Every packet has the extended number that its sender counted. -/
def Faithful (a : Arrivals) : Prop := ∀ x ∈ a.numbers, (x.2.toNat : Int) = x.1

instance (a : Arrivals) : Decidable a.Faithful := by unfold Faithful; infer_instance

/-- The next packet is the first or lies in the window of the highest so far. -/
def Timely (a : Arrivals) (e : Arrival) : Prop :=
  a.numbers = [] ∨ InWindow a.highest e.number

instance (a : Arrivals) (e : Arrival) : Decidable (a.Timely e) := by unfold Timely; infer_instance

/-- The counters know the highest number given, as long as the last cycle is not reached. -/
def Tracked (a : Arrivals) : Prop :=
  (a.numbers = [] → a.stats.sentdata = false ∧ a.stats.numcycles = 0) ∧
    (a.numbers ≠ [] → a.stats.Counted a.highest ∧ a.highest < lastNumber)

theorem tracked_new : new.Tracked := ⟨fun _ => ⟨rfl, rfl⟩, fun h => absurd rfl h⟩

theorem receive_inv {a a' : Arrivals} {e : Arrival} (h : a.receive e = some a') :
    e.Counts a.numbers.isEmpty ∧
      a'.stats = (a.stats.processPacket e.pack e.receivetime e.ownpacket).1 ∧
      a'.numbers = a.numbers ++
        [(e.number, (a.stats.processPacket e.pack e.receivetime e.ownpacket).2.extseqnr)] := by
  unfold receive at h
  split at h
  · rename_i hCounts
    cases h
    exact ⟨hCounts, rfl, rfl⟩
  · cases h

theorem highest_concat {a a' : Arrivals} {x : Int × BitVec 32}
    (h : a'.numbers = a.numbers ++ [x]) : a'.highest = max a.highest x.2.toNat := by
  rw [highest, h, List.map_append, List.foldl_append]
  rfl

/-- A step in one line: the number that it gives and the state it leaves. -/
theorem receive_spec {a a' : Arrivals} {e : Arrival} (hTracked : a.Tracked)
    (h : a.receive e = some a') :
    ∃ x : BitVec 32, a'.numbers = a.numbers ++ [(e.number, x)] ∧
      ((x.toNat : Int) = e.number ↔ a.Timely e) ∧ (x.toNat < lastNumber → a'.Tracked) := by
  obtain ⟨⟨hSeq, -, hFirst⟩, hStats, hNumbers⟩ := receive_inv h
  have hSmall : (e.number % cycle).toNat < cycle := by
    unfold cycle
    omega
  have hNe : a'.numbers ≠ [] := by
    rw [hNumbers]
    exact List.append_ne_nil_of_right_ne_nil _ (List.cons_ne_nil _ _)
  have hHigh := highest_concat hNumbers
  refine ⟨_, hNumbers, ?_⟩
  by_cases hEmpty : a.numbers = []
  · obtain ⟨hSent, hCycles⟩ := hTracked.1 hEmpty
    obtain ⟨hCounted, hNumber⟩ := counted_acceptPacket hCycles hSmall
    rw [← hSeq] at hCounted hNumber
    have hTest : ¬ a.stats.sentdata = true := by rw [hSent]; decide
    have hGiven : (a.stats.processPacket e.pack e.receivetime e.ownpacket).2.extseqnr.toNat =
        firstNumber (e.number % cycle).toNat := by
      simp only [processPacket, if_neg hTest]
      exact hNumber
    have hOwn := firstNumber_eq (hFirst (by rw [hEmpty]; rfl))
    have hZero : a.highest = 0 := by rw [highest, hEmpty]; rfl
    rw [hGiven]
    refine ⟨⟨fun _ => Or.inl hEmpty, fun _ => hOwn⟩, fun hLast => ⟨fun hNil => absurd hNil hNe, ?_⟩⟩
    intro _
    rw [hHigh, hZero, Nat.zero_max, hGiven, hStats]
    simp only [processPacket, if_neg hTest]
    exact ⟨hCounted, hLast⟩
  · obtain ⟨hBefore, hBelow⟩ := hTracked.2 hEmpty
    obtain ⟨hCounted, hNumber⟩ := counted_extendSeqnr hBefore hBelow hSmall
    rw [← hSeq] at hCounted hNumber
    have hGiven : (a.stats.processPacket e.pack e.receivetime e.ownpacket).2.extseqnr.toNat =
        numberAfter a.highest (e.number % cycle).toNat := by
      simp only [processPacket, if_pos hBefore.1]
      exact hNumber
    rw [hGiven]
    refine ⟨(numberAfter_eq_iff _ _).trans ⟨Or.inr, ?_⟩, fun hLast => ?_⟩
    · rintro (hNil | hWindow)
      · exact absurd hNil hEmpty
      · exact hWindow
    · refine ⟨fun hNil => absurd hNil hNe, fun _ => ?_⟩
      rw [hHigh, hGiven, hStats]
      simp only [processPacket, if_pos hBefore.1]
      exact ⟨hCounted, Nat.max_lt.mpr ⟨hBelow, hLast⟩⟩

theorem faithful_concat {a a' : Arrivals} {n : Int} {x : BitVec 32} (hFaithful : a.Faithful)
    (hNumbers : a'.numbers = a.numbers ++ [(n, x)]) : a'.Faithful ↔ (x.toNat : Int) = n := by
  constructor
  · intro h
    exact h (n, x) (hNumbers ▸ List.mem_append_right _ List.mem_cons_self)
  · intro h y hy
    rw [hNumbers, List.mem_append, List.mem_singleton] at hy
    rcases hy with hy | rfl
    · exact hFaithful y hy
    · exact h

theorem tracked_of_faithful {a a' : Arrivals} {e : Arrival} (hTracked : a.Tracked)
    (hFaithful : a.Faithful) (hStep : a.receive e = some a') (hFaithful' : a'.Faithful) :
    a'.Tracked := by
  obtain ⟨x, hNumbers, -, hNext⟩ := receive_spec hTracked hStep
  obtain ⟨⟨-, hLast, -⟩, -, -⟩ := receive_inv hStep
  have hOwn := (faithful_concat hFaithful hNumbers).mp hFaithful'
  apply hNext
  omega

/-- The packets keep the numbers of their sender exactly in the runs in which each of them arrives
in the window of those before it: a packet of the cycle before the highest is always too late. -/
theorem always_faithful_iff (es : List Arrival) :
    Always receive Faithful new es ↔ Meets receive Timely new es := by
  have hExact {a a' : Arrivals} {e : Arrival} (hTracked : a.Tracked) (hFaithful : a.Faithful)
      (hStep : a.receive e = some a') : a'.Faithful ↔ a.Timely e := by
    obtain ⟨x, hNumbers, hTimely, -⟩ := receive_spec hTracked hStep
    exact (faithful_concat hFaithful hNumbers).trans hTimely
  exact always_iff_meets tracked_of_faithful hExact tracked_new
    (fun x hx => absurd hx List.not_mem_nil)

end Arrivals
end LocalCall.Jrtp
