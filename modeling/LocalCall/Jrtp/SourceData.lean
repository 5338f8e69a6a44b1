import LocalCall.Library.SortedQueue
import LocalCall.Jrtp.SourceStats

/-! # One participant of a session

`RTPInternalSourceData` and what it inherits. The contents of sender and receiver reports are left
out: nothing but the jitter reads them. The address of a participant is `none` until it is set, and
`some none` for the own session.
-/
namespace LocalCall.Jrtp
set_option autoImplicit false

open SortedQueue

inductive SDESItem where
  | cname | name | email | phone | location | tool | note
  deriving DecidableEq

def sdesMaxItemLength : Nat := 255

structure RTPInternalSourceData where
  packetlist : List RTPPacket
  ssrc : BitVec 32
  ownssrc : Bool
  iscsrc : Bool
  receivedbye : Bool
  validated : Bool
  issender : Bool
  stats : RTPSourceStats
  sdesInf : SDESItem → List UInt8
  rtpaddr : Option (Option Jni.RTPIPv4Address)
  rtcpaddr : Option (Option Jni.RTPIPv4Address)
  byetime : RTPTime
  byereason : List UInt8

namespace RTPInternalSourceData

def new (ssrc : BitVec 32) : RTPInternalSourceData where
  packetlist := []
  ssrc := ssrc
  ownssrc := false
  iscsrc := false
  receivedbye := false
  validated := false
  issender := false
  stats := RTPSourceStats.new
  sdesInf := fun _ => []
  rtpaddr := none
  rtcpaddr := none
  byetime := ⟨0, 0⟩
  byereason := []

def isActive (d : RTPInternalSourceData) : Bool := d.validated && !d.receivedbye

def hasData (d : RTPInternalSourceData) : Bool := d.validated && !d.packetlist.isEmpty

def getNextPacket (d : RTPInternalSourceData) : RTPInternalSourceData × Option RTPPacket :=
  if d.validated then
    match d.packetlist with
    | [] => (d, none)
    | p :: packetlist => ({ d with packetlist }, some p)
  else (d, none)

/-- The walk from the end of the list to the place of a packet: `before`, backwards, is what it has
not passed. There is no place next to a packet of the same number. -/
def insertBack (pack : RTPPacket) : List RTPPacket → List RTPPacket → Option (List RTPPacket)
  | [], after => some (pack :: after)
  | p :: before, after =>
    if pack.extseqnr < p.extseqnr then insertBack pack before (p :: after)
    else if p.extseqnr < pack.extseqnr then some (before.reverse ++ p :: pack :: after)
    else none

/-- `ProcessRTPPacket`, and whether the packet was stored. The source is validated before the packet
is queued, so that the limit for sources on probation is never met. -/
def processRTPPacket (rtppack : RTPPacket) (receivetime : RTPTime) (d : RTPInternalSourceData) :
    RTPInternalSourceData × Bool :=
  let (stats, pack) := d.stats.processPacket rtppack receivetime d.ownssrc
  let d := { d with stats, validated := true, issender := if d.ownssrc then d.issender else true }
  match insertBack pack d.packetlist.reverse [] with
  | some packetlist => ({ d with packetlist }, true)
  | none => (d, false)

def setLastMessageTime (t : RTPTime) (d : RTPInternalSourceData) : RTPInternalSourceData :=
  { d with stats := { d.stats with lastmsgtime := t } }

def setLastNoteTime (t : RTPTime) (d : RTPInternalSourceData) : RTPInternalSourceData :=
  { d with stats := { d.stats with lastnotetime := t } }

/-- `SetNonPrivateItem`, and whether it reports no error. -/
def setItem (item : SDESItem) (data : List UInt8) (d : RTPInternalSourceData) :
    RTPInternalSourceData × Bool :=
  if sdesMaxItemLength < data.length then (d, false)
  else ({ d with sdesInf := fun i => if i = item then data else d.sdesInf i }, true)

/-- `ProcessSDESItem`: whether there is no error, and whether another CNAME was there before. -/
def processSDESItem (item : SDESItem) (data : List UInt8) (receivetime : RTPTime)
    (d : RTPInternalSourceData) : RTPInternalSourceData × Bool × Bool :=
  let d := d.setLastMessageTime receivetime
  match item with
  | .cname =>
    if d.sdesInf .cname = [] then
      ({ (d.setItem .cname data).1 with validated := true }, true, false)
    else (d, true, d.sdesInf .cname ≠ data)
  | .name | .email | .tool =>
    if d.sdesInf item = [] then ((d.setItem item data).1, (d.setItem item data).2, false)
    else (d, true, false)
  | .phone | .location => ((d.setItem item data).1, (d.setItem item data).2, false)
  | .note =>
    let d := d.setLastNoteTime receivetime
    ((d.setItem .note data).1, (d.setItem .note data).2, false)

def processBYEPacket (reason : List UInt8) (receivetime : RTPTime) (d : RTPInternalSourceData) :
    RTPInternalSourceData :=
  { d.setLastMessageTime receivetime with
    byetime := receivetime
    byereason := reason
    receivedbye := true }

def sentRTPPacket (now : RTPTime) (d : RTPInternalSourceData) : RTPInternalSourceData :=
  if d.ownssrc then
    { d with
      issender := true
      stats := { d.stats with lastrtptime := now, lastmsgtime := now } }
  else d

def setOwnSSRC (d : RTPInternalSourceData) : RTPInternalSourceData :=
  { d with ownssrc := true, validated := true }

def setCSRC (d : RTPInternalSourceData) : RTPInternalSourceData :=
  { d with validated := true, iscsrc := true }

def clearSenderFlag (d : RTPInternalSourceData) : RTPInternalSourceData :=
  { d with issender := false }

def clearNote (d : RTPInternalSourceData) : RTPInternalSourceData := (d.setItem .note []).1

/-! ## The queue of packets -/

def number (p : RTPPacket) : Nat := p.extseqnr.toNat

theorem enqueue_append {pack : RTPPacket} {front rest : List RTPPacket}
    (h : ∀ p ∈ front, number p < number pack) :
    enqueue number pack (front ++ rest) = front ++ enqueue number pack rest := by
  induction front with
  | nil => rfl
  | cons p front ih =>
    have hHere := h p List.mem_cons_self
    rw [List.cons_append, enqueue, if_neg (Nat.lt_asymm hHere), if_pos hHere,
      ih fun q hq => h q (List.mem_cons_of_mem p hq)]
    rfl

theorem enqueue_below {pack : RTPPacket} {rest : List RTPPacket}
    (h : ∀ p ∈ rest, number pack < number p) : enqueue number pack rest = pack :: rest := by
  cases rest with
  | nil => rfl
  | cons p rest => rw [enqueue, if_pos (h p List.mem_cons_self)]

/-- The walk from the back finds the place in the order, unless the number is taken. -/
theorem insertBack_spec {pack : RTPPacket} (before after : List RTPPacket)
    (hOrdered : Ordered number (before.reverse ++ after))
    (hAfter : ∀ p ∈ after, number pack < number p) :
    (insertBack pack before after).getD (before.reverse ++ after) =
      enqueue number pack (before.reverse ++ after) := by
  induction before generalizing after with
  | nil =>
    rw [insertBack, List.reverse_nil, List.nil_append, enqueue_below hAfter]
    rfl
  | cons p before ih =>
    have hSplit : (p :: before).reverse ++ after = before.reverse ++ p :: after := by
      rw [List.reverse_cons, List.append_assoc]
      rfl
    rw [hSplit] at hOrdered ⊢
    have hBefore : ∀ q ∈ before.reverse, number q < number p := fun q hq =>
      (List.pairwise_append.mp hOrdered).2.2 q hq p List.mem_cons_self
    rw [insertBack]
    split
    · rename_i hBelow
      apply ih (p :: after) hOrdered
      intro q hq
      rcases List.mem_cons.mp hq with rfl | hq
      · exact hBelow
      · exact hAfter q hq
    · split
      · rename_i hAbove
        have hFront : ∀ q ∈ before.reverse ++ [p], number q < number pack := by
          intro q hq
          rcases List.mem_append.mp hq with hq | hq
          · exact Nat.lt_trans (hBefore q hq) hAbove
          · rw [List.mem_singleton.mp hq]
            exact hAbove
        have hEnqueue : enqueue number pack ((before.reverse ++ [p]) ++ after) =
            (before.reverse ++ [p]) ++ enqueue number pack after := enqueue_append hFront
        rw [List.append_assoc, enqueue_below hAfter, List.append_assoc] at hEnqueue
        exact hEnqueue.symm
      · rename_i hBelow hAbove
        have hBelow : ¬ number pack < number p := hBelow
        have hAbove : ¬ number p < number pack := hAbove
        have hSame : number p = number pack := by omega
        rw [enqueue_append fun q hq => hSame ▸ hBefore q hq, enqueue, if_neg hBelow,
          if_neg hAbove]
        rfl

/-- Wherever its place is, nothing is lost and only the packet is added. -/
theorem insertBack_perm {pack : RTPPacket} {before after l : List RTPPacket}
    (h : insertBack pack before after = some l) : l.Perm (pack :: (before.reverse ++ after)) := by
  induction before generalizing after with
  | nil =>
    cases h
    exact List.Perm.refl _
  | cons p before ih =>
    have hSplit : (p :: before).reverse ++ after = before.reverse ++ p :: after := by
      rw [List.reverse_cons, List.append_assoc]
      rfl
    rw [hSplit]
    rw [insertBack] at h
    split at h
    · exact ih h
    · split at h
      · cases h
        have hMiddle := @List.perm_middle _ pack (before.reverse ++ [p]) after
        rwa [List.append_assoc, List.append_assoc] at hMiddle
      · cases h

def numbered (rtppack : RTPPacket) (receivetime : RTPTime) (d : RTPInternalSourceData) :
    RTPPacket := (d.stats.processPacket rtppack receivetime d.ownssrc).2

theorem packetlist_processRTPPacket {d : RTPInternalSourceData}
    (hOrdered : Ordered number d.packetlist) (rtppack : RTPPacket) (receivetime : RTPTime) :
    (d.processRTPPacket rtppack receivetime).1.packetlist =
      enqueue number (d.numbered rtppack receivetime) d.packetlist := by
  have hSpec := @insertBack_spec (d.numbered rtppack receivetime) d.packetlist.reverse []
    (by rwa [List.reverse_reverse, List.append_nil]) (fun p hp => absurd hp List.not_mem_nil)
  rw [List.reverse_reverse, List.append_nil] at hSpec
  unfold processRTPPacket
  unfold numbered at hSpec ⊢
  simp only
  cases h : insertBack (d.stats.processPacket rtppack receivetime d.ownssrc).2
      d.packetlist.reverse [] with
  | none => rw [h] at hSpec; exact hSpec
  | some packetlist => rw [h] at hSpec; exact hSpec

theorem perm_processRTPPacket {d d' : RTPInternalSourceData} {rtppack : RTPPacket}
    {receivetime : RTPTime} {stored : Bool}
    (h : d.processRTPPacket rtppack receivetime = (d', stored)) : d'.packetlist.Perm
      ((if stored then [d.numbered rtppack receivetime] else []) ++ d.packetlist) := by
  unfold processRTPPacket at h
  unfold numbered
  simp only at h
  cases hInsert : insertBack (d.stats.processPacket rtppack receivetime d.ownssrc).2
      d.packetlist.reverse [] with
  | none =>
    rw [hInsert] at h
    cases h
    exact List.Perm.refl _
  | some packetlist =>
    have hPerm := insertBack_perm hInsert
    rw [List.reverse_reverse, List.append_nil] at hPerm
    rw [hInsert] at h
    cases h
    exact hPerm

@[simp] theorem validated_processRTPPacket (rtppack : RTPPacket) (receivetime : RTPTime)
    (d : RTPInternalSourceData) :
    (d.processRTPPacket rtppack receivetime).1.validated = true := by
  unfold processRTPPacket
  simp only
  split <;> rfl

@[simp] theorem stats_processRTPPacket (rtppack : RTPPacket) (receivetime : RTPTime)
    (d : RTPInternalSourceData) : (d.processRTPPacket rtppack receivetime).1.stats =
      (d.stats.processPacket rtppack receivetime d.ownssrc).1 := by
  unfold processRTPPacket
  simp only
  split <;> rfl

@[simp] theorem ownssrc_processRTPPacket (rtppack : RTPPacket) (receivetime : RTPTime)
    (d : RTPInternalSourceData) :
    (d.processRTPPacket rtppack receivetime).1.ownssrc = d.ownssrc := by
  unfold processRTPPacket
  simp only
  split <;> rfl

end RTPInternalSourceData
end LocalCall.Jrtp
