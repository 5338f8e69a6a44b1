import LocalCall.Jni.Rtp
import LocalCall.Library.Transition

/-! # The native object behind a Java one

The Java field holds the address of a `JavaRtp`, or zero. Addresses are the numbers of the objects
in the order of their construction; deleting an object that was deleted before would be recorded
like any other deletion, and a call on one is undefined behaviour.
-/
namespace LocalCall.Jni
open Java Transition
set_option autoImplicit false

variable {S K : Type}

namespace RTPSession

/-- What the destructor does; it sends no packet. -/
def destroy (s : RTPSession) : RTPSession :=
  if s.created then { s with created := false, destinations := ∅ } else s

end RTPSession

structure RtpHandle (K : Type) where
  mJavaRtp : Option Nat
  objects : List (JavaRtp K)
  deleted : List Nat
  deriving DecidableEq

inductive HandleCall (S K : Type) where
  | nativeSetup (state : K)
  | nativeRease
  | openRtp (port : Int) (outcome : CreateOutcome)
  | closeRtp
  | addRtpDestinationIp (ip : Text)
  | write (data : List S)

namespace RtpHandle

def start : RtpHandle K := ⟨none, [], []⟩

/-- `delete`: the destructor destroys the session. -/
def delete (i : Nat) (h : RtpHandle K) : RtpHandle K :=
  { h with
    objects := h.objects.modify i fun j => { j with mMyRTPSession := j.mMyRTPSession.destroy }
    deleted := h.deleted ++ [i] }

def setJavaRtp (jr : Option Nat) (h : RtpHandle K) : RtpHandle K :=
  match h.mJavaRtp with
  | some old => { h.delete old with mJavaRtp := jr }
  | none => { h with mJavaRtp := jr }

def nativeSetup (state : K) (h : RtpHandle K) : RtpHandle K :=
  { h with objects := h.objects ++ [JavaRtp.new state] }.setJavaRtp (some h.objects.length)

def nativeRease (h : RtpHandle K) : RtpHandle K := h.setJavaRtp none

/-- What a native method finds at the address in the field; none is a use after the deletion. -/
def getJavaRtp (h : RtpHandle K) : Option (Rtp K) :=
  match h.mJavaRtp with
  | none => some ⟨none⟩
  | some i => if i ∈ h.deleted then none else h.objects[i]?.map fun j => ⟨some j⟩

def onJavaRtp {α : Type} (method : Rtp K → Except Thrown α × Rtp K) (h : RtpHandle K) :
    Except Thrown α × RtpHandle K :=
  match h.getJavaRtp with
  | none => (.error .undefinedBehaviour, h)
  | some r =>
    let (result, r) := method r
    match h.mJavaRtp, r.mJavaRtp with
    | some i, some j => (result, { h with objects := h.objects.set i j })
    | _, _ => (result, h)

def openRtp (port : Int) (outcome : CreateOutcome) :
    RtpHandle K → Except Thrown Bool × RtpHandle K :=
  onJavaRtp (Rtp.openRtp port outcome)

def closeRtp : RtpHandle K → Except Thrown Unit × RtpHandle K := onJavaRtp Rtp.closeRtp

def addRtpDestinationIp (ip : Text) : RtpHandle K → Except Thrown Unit × RtpHandle K :=
  onJavaRtp (Rtp.addRtpDestinationIp ip)

def write (codec : SpeexCodec S K) (data : List S) :
    RtpHandle K → Except Thrown Unit × RtpHandle K :=
  onJavaRtp (Rtp.write codec data)

end RtpHandle

/-- Beside the object stands the port of the call that opened the session, while it is open. -/
structure Opened (K : Type) where
  handle : RtpHandle K
  openedWith : Option Int
  deriving DecidableEq

/-- What a call returned decides how the run goes on: after undefined behaviour it does not. -/
def goesOn {α : Type} (openedWith : Option α → Option Int) :
    Except Thrown α × RtpHandle K → Option (Opened K)
  | (.error .undefinedBehaviour, _) => none
  | (.error _, handle) => some ⟨handle, openedWith none⟩
  | (.ok a, handle) => some ⟨handle, openedWith (some a)⟩

def handleStep (codec : SpeexCodec S K) (s : Opened K) : HandleCall S K → Option (Opened K)
  | .nativeSetup state => some ⟨s.handle.nativeSetup state, none⟩
  | .nativeRease => some ⟨s.handle.nativeRease, none⟩
  | .openRtp port outcome =>
    goesOn (fun result => if result = some true then some port else s.openedWith)
      (s.handle.openRtp port outcome)
  | .closeRtp =>
    goesOn (fun result => if result.isSome then none else s.openedWith) s.handle.closeRtp
  | .addRtpDestinationIp ip =>
    goesOn (fun _ => s.openedWith) (s.handle.addRtpDestinationIp ip)
  | .write data => goesOn (fun _ => s.openedWith) (s.handle.write codec data)

def Opened.start : Opened K := ⟨.start, none⟩

def RtpHandle.current (h : RtpHandle K) : Option (JavaRtp K) :=
  h.mJavaRtp.bind fun i => h.objects[i]?

/-- A session has been created at the port, with the numbers that its packet builder drew. -/
structure JavaRtp.OpenAt (port : Int) (ssrc timestamp : BitVec 32) (seqnr : BitVec 16)
    (j : JavaRtp K) : Prop where
  isOpen : j.mIsOpen = true
  port : j.mPortBase = BitVec.ofInt 16 port
  created : j.mMyRTPSession.created = true
  builder : j.mMyRTPSession.packetbuilder =
    ⟨RTPSession.defaultPacketSize, ssrc, timestamp, seqnr, some 101, some false, some 160⟩
  destinations : j.mMyRTPSession.destinations = ∅

/-- The field is zero or holds the one object that is not deleted, each object is deleted once at
most, and an object is as open as its session, at the port that the session was created with. -/
structure LifeCycle (s : Opened K) : Prop where
  only_undeleted : ∀ i, s.handle.mJavaRtp = some i ↔
    i < s.handle.objects.length ∧ i ∉ s.handle.deleted
  deleted_once : s.handle.deleted.Nodup
  second_rease : s.handle.nativeRease.nativeRease = s.handle.nativeRease
  flag : ∀ j ∈ s.handle.current, j.mIsOpen = true ↔ j.mMyRTPSession.created = true
  port : ∀ j ∈ s.handle.current, j.mIsOpen = true →
    ∃ port, s.openedWith = some port ∧ j.mPortBase = BitVec.ofInt 16 port
  destinations : ∀ j ∈ s.handle.current, ∀ addr ∈ j.mMyRTPSession.destinations,
    addr.port = j.mPortBase
  open_throws : ∀ j ∈ s.handle.current, j.mIsOpen = true → ∀ port outcome,
    s.handle.openRtp port outcome =
      (.error (.runtimeException "openRtp ERROR has opened"), s.handle)
  open_creates : ∀ j ∈ s.handle.current, j.mIsOpen = false → ∀ port ssrc timestamp seqnr,
    ∃ handle, s.handle.openRtp port (.created ssrc timestamp seqnr) = (.ok true, handle) ∧
      ∃ j' ∈ handle.current, j'.OpenAt port ssrc timestamp seqnr
  open_fails : ∀ j ∈ s.handle.current, j.mIsOpen = false → ∀ port,
    ∃ handle, s.handle.openRtp port .failed = (.ok false, handle) ∧
      ∃ j' ∈ handle.current, j'.mIsOpen = false ∧ j'.mMyRTPSession.created = false
  close_destroys : ∀ j ∈ s.handle.current, j.mIsOpen = true →
    ∃ handle, s.handle.closeRtp = (.ok (), handle) ∧
      ∃ j' ∈ handle.current, j'.mIsOpen = false ∧ j'.mMyRTPSession.created = false
  close_throws : ∀ j ∈ s.handle.current, j.mIsOpen = false →
    s.handle.closeRtp = (.error (.runtimeException "closeRtp ERROR has opened"), s.handle)

theorem CustomSpeex.getFrameSize_encode (codec : SpeexCodec S K) (samples : List S) (size : Int)
    (c : CustomSpeex K) : (c.encode codec samples size).1.getFrameSize = c.getFrameSize := by
  rw [CustomSpeex.encode]
  split
  · rfl
  · dsimp only
    split
    · rfl
    · rfl

structure JavaRtp.Sound (openedWith : Option Int) (j : JavaRtp K) : Prop where
  flag : j.mIsOpen = j.mMyRTPSession.created
  frame : j.mSpeexRtp.getFrameSize = CustomSpeex.nbFrameSize
  port : j.mIsOpen = true → ∃ port, openedWith = some port ∧ j.mPortBase = BitVec.ofInt 16 port
  closed : j.mIsOpen = false → j.mMyRTPSession.destinations = ∅
  destinations : ∀ addr ∈ j.mMyRTPSession.destinations, addr.port = j.mPortBase

section Object

variable {openedWith : Option Int} {j : JavaRtp K}

theorem JavaRtp.sound_new (openedWith : Option Int) (state : K) :
    (JavaRtp.new state).Sound openedWith where
  flag := rfl
  frame := rfl
  port := nofun
  closed _ := rfl
  destinations addr hAddr := absurd hAddr (Finset.notMem_empty addr)

theorem JavaRtp.Sound.setPortBase (h : j.Sound openedWith) (hClosed : j.mIsOpen = false)
    (port : BitVec 16) (framesize : Nat) :
    ({ j with mPortBase := port, mFrameSize := framesize }).Sound openedWith where
  flag := h.flag
  frame := h.frame
  port hOpen := absurd (hClosed.symm.trans hOpen) Bool.false_ne_true
  closed := h.closed
  destinations addr hAddr := by
    dsimp only at hAddr
    rw [h.closed hClosed] at hAddr
    exact absurd hAddr (Finset.notMem_empty addr)

theorem JavaRtp.Sound.openRtp_created (h : j.Sound openedWith) (hClosed : j.mIsOpen = false)
    (port : Int) (ssrc timestamp : BitVec 32) (seqnr : BitVec 16) :
    ∃ j', Rtp.openRtp port (.created ssrc timestamp seqnr) ⟨some j⟩ = (.ok true, ⟨some j'⟩) ∧
      j'.OpenAt port ssrc timestamp seqnr ∧ j'.Sound (some port) := by
  have hCreated : j.mMyRTPSession.created = false := h.flag.symm.trans hClosed
  have hFrame : j.mSpeexRtp.getFrameSize ≠ 0 := by
    rw [h.frame]
    decide
  have hCall : ∃ session, Rtp.openRtp port (.created ssrc timestamp seqnr) ⟨some j⟩ =
      (.ok true, ⟨some { j with
        mIsOpen := true
        mFrameSize := j.mSpeexRtp.getFrameSize
        mPortBase := BitVec.ofInt 16 port
        mMyRTPSession := session }⟩) ∧
      session.created = true ∧ session.destinations = ∅ ∧ session.packetbuilder =
        ⟨RTPSession.defaultPacketSize, ssrc, timestamp, seqnr, some 101, some false, some 160⟩ := by
    simp only [Rtp.openRtp, RTPSession.create, RTPSession.setDefaultPayloadType,
      RTPSession.setDefaultMark, RTPSession.setDefaultTimestampIncrement, hClosed, hFrame,
      hCreated, Bool.false_eq_true, if_false, if_true]
    exact ⟨_, rfl, rfl, rfl, rfl⟩
  obtain ⟨session, hCall, hNow, hEmpty, hBuilder⟩ := hCall
  refine ⟨_, hCall, ⟨rfl, rfl, hNow, hBuilder, hEmpty⟩, ?_⟩
  constructor
  · exact hNow.symm
  · exact h.frame
  · exact fun _ => ⟨port, rfl, rfl⟩
  · exact fun _ => hEmpty
  · intro addr hAddr
    exact absurd (hEmpty ▸ hAddr) (Finset.notMem_empty addr)

theorem JavaRtp.Sound.openRtp_failed (h : j.Sound openedWith) (hClosed : j.mIsOpen = false)
    (port : Int) :
    ∃ j', Rtp.openRtp port .failed ⟨some j⟩ = (.ok false, ⟨some j'⟩) ∧
      (j'.mIsOpen = false ∧ j'.mMyRTPSession.created = false) ∧ j'.Sound openedWith := by
  have hCreated : j.mMyRTPSession.created = false := h.flag.symm.trans hClosed
  have hFrame : j.mSpeexRtp.getFrameSize ≠ 0 := by
    rw [h.frame]
    decide
  have hReady := h.setPortBase hClosed (BitVec.ofInt 16 port) j.mSpeexRtp.getFrameSize
  refine ⟨{ j with
    mPortBase := BitVec.ofInt 16 port
    mFrameSize := j.mSpeexRtp.getFrameSize }, ?_, ⟨hClosed, hCreated⟩, hReady⟩
  simp only [Rtp.openRtp, RTPSession.create, hClosed, hFrame, hCreated, Bool.false_eq_true,
    if_false]

theorem JavaRtp.Sound.openRtp (h : j.Sound openedWith) (port : Int) (outcome : CreateOutcome) :
    ∃ result j', Rtp.openRtp port outcome ⟨some j⟩ = (result, ⟨some j'⟩) ∧
      result ≠ .error .undefinedBehaviour ∧
      j'.Sound (if result.toOption = some true then some port else openedWith) := by
  cases hOpen : j.mIsOpen with
  | true =>
    refine ⟨.error (.runtimeException "openRtp ERROR has opened"), j, ?_, nofun, h⟩
    simp only [Rtp.openRtp, hOpen, if_true]
  | false =>
    cases outcome with
    | failed =>
      obtain ⟨j', hCall, -, hSound⟩ := h.openRtp_failed hOpen port
      exact ⟨.ok false, j', hCall, nofun, hSound⟩
    | created ssrc timestamp seqnr =>
      obtain ⟨j', hCall, -, hSound⟩ := h.openRtp_created hOpen port ssrc timestamp seqnr
      exact ⟨.ok true, j', hCall, nofun, hSound⟩

theorem JavaRtp.Sound.closeRtp_open (h : j.Sound openedWith) (hOpen : j.mIsOpen = true) :
    ∃ j', Rtp.closeRtp ⟨some j⟩ = (.ok (), ⟨some j'⟩) ∧
      (j'.mIsOpen = false ∧ j'.mMyRTPSession.created = false) ∧ j'.Sound none := by
  have hCreated : j.mMyRTPSession.created = true := h.flag.symm.trans hOpen
  refine ⟨_, by simp only [Rtp.closeRtp, hOpen, if_true]; rfl, ?_⟩
  rw [RTPSession.byeDestroy, if_pos hCreated]
  refine ⟨⟨rfl, rfl⟩, ?_⟩
  constructor
  · rfl
  · exact h.frame
  · nofun
  · exact fun _ => rfl
  · exact fun addr hAddr => absurd hAddr (Finset.notMem_empty addr)

theorem JavaRtp.Sound.closeRtp (h : j.Sound openedWith) :
    ∃ result j', Rtp.closeRtp ⟨some j⟩ = (result, ⟨some j'⟩) ∧
      result ≠ .error .undefinedBehaviour ∧
      j'.Sound (if result.toOption.isSome then none else openedWith) := by
  cases hOpen : j.mIsOpen with
  | false =>
    refine ⟨.error (.runtimeException "closeRtp ERROR has opened"), j, ?_, nofun, h⟩
    simp only [Rtp.closeRtp, hOpen, Bool.false_eq_true, if_false]
  | true =>
    obtain ⟨j', hCall, -, hSound⟩ := h.closeRtp_open hOpen
    exact ⟨.ok (), j', hCall, nofun, hSound⟩

theorem JavaRtp.Sound.congr (h : j.Sound openedWith) {session : RTPSession} {speex : CustomSpeex K}
    (hFrame : speex.getFrameSize = j.mSpeexRtp.getFrameSize)
    (hCreated : session.created = j.mMyRTPSession.created)
    (hDestinations : session.destinations = j.mMyRTPSession.destinations) :
    ({ j with mMyRTPSession := session, mSpeexRtp := speex }).Sound openedWith where
  flag := h.flag.trans hCreated.symm
  frame := hFrame.trans h.frame
  port := h.port
  closed hClosed := hDestinations.trans (h.closed hClosed)
  destinations addr hAddr := h.destinations addr (hDestinations ▸ hAddr)

theorem JavaRtp.Sound.addDestination (h : j.Sound openedWith) (ip : BitVec 32) :
    ({ j with mMyRTPSession :=
        j.mMyRTPSession.checked (j.mMyRTPSession.addDestination ⟨ip, j.mPortBase⟩) }).Sound
      openedWith := by
  cases hCreated : j.mMyRTPSession.created with
  | false =>
    rw [RTPSession.addDestination, hCreated, if_neg Bool.false_ne_true, RTPSession.checked]
    exact h
  | true =>
    rw [RTPSession.checked_addDestination _ _ hCreated]
    constructor
    · exact h.flag
    · exact h.frame
    · exact h.port
    · intro hClosed
      exact absurd (hClosed.symm.trans (h.flag.trans hCreated)) Bool.false_ne_true
    · intro addr hAddr
      rcases Finset.mem_insert.mp hAddr with rfl | hOld
      · rfl
      · exact h.destinations addr hOld

theorem JavaRtp.Sound.addRtpDestinationIp (h : j.Sound openedWith) (ip : Text) :
    ∃ result j', Rtp.addRtpDestinationIp ip ⟨some j⟩ = (result, ⟨some j'⟩) ∧
      j'.Sound openedWith := by
  rw [Rtp.addRtpDestinationIp]
  cases copyIp ip with
  | error e => exact ⟨.error e, j, rfl, h⟩
  | ok cstring => exact ⟨.ok (), _, rfl, h.addDestination (inetAddr cstring)⟩

theorem JavaRtp.Sound.write (codec : SpeexCodec S K) (h : j.Sound openedWith) (data : List S) :
    ∃ j', Rtp.write codec data ⟨some j⟩ = (.ok (), ⟨some j'⟩) ∧ j'.Sound openedWith := by
  have hFrame := CustomSpeex.getFrameSize_encode codec data j.mSpeexRtp.getFrameSize j.mSpeexRtp
  rw [Rtp.write]
  dsimp only
  split
  · exact ⟨j, rfl, h⟩
  · split
    · obtain ⟨hCreated, hDestinations⟩ :=
        RTPSession.incrementTimestampDefault_frame j.mMyRTPSession
      exact ⟨_, rfl, h.congr hFrame hCreated hDestinations⟩
    · obtain ⟨hCreated, hDestinations⟩ :=
        RTPSession.sendPacket_frame j.mMyRTPSession _ Rtp.payloadType false 8000
      exact ⟨_, rfl, h.congr hFrame hCreated hDestinations⟩

end Object

section Ledger

variable {h : RtpHandle K} {openedWith : Option Int}

/-- Each object is in one place: deleted once, or in the field. -/
def RtpHandle.Owns (h : RtpHandle K) : Prop :=
  (h.deleted ++ h.mJavaRtp.toList).Perm (List.range h.objects.length)

theorem RtpHandle.setJavaRtp_spec (jr : Option Nat) (h : RtpHandle K) :
    (h.setJavaRtp jr).mJavaRtp = jr ∧
      (h.setJavaRtp jr).objects.length = h.objects.length ∧
      (h.setJavaRtp jr).deleted = h.deleted ++ h.mJavaRtp.toList := by
  rw [setJavaRtp]
  cases h.mJavaRtp with
  | none => exact ⟨rfl, rfl, (List.append_nil _).symm⟩
  | some old => exact ⟨rfl, List.length_modify _ _ _, rfl⟩

theorem RtpHandle.Owns.only (hOwns : h.Owns) (i : Nat) :
    h.mJavaRtp = some i ↔ i < h.objects.length ∧ i ∉ h.deleted := by
  have hPlace : i ∈ h.deleted ++ h.mJavaRtp.toList ↔ i < h.objects.length :=
    hOwns.mem_iff.trans List.mem_range
  obtain ⟨-, -, hApart⟩ := List.nodup_append.mp (hOwns.nodup_iff.mpr List.nodup_range)
  constructor
  · intro hField
    have hMem : i ∈ h.mJavaRtp.toList := Option.mem_toList.mpr hField
    refine ⟨hPlace.mp (List.mem_append_right _ hMem), fun hDeleted => ?_⟩
    exact hApart i hDeleted i hMem rfl
  · rintro ⟨hLt, hNot⟩
    rcases List.mem_append.mp (hPlace.mpr hLt) with hDeleted | hField
    · exact absurd hDeleted hNot
    · exact Option.mem_toList.mp hField

theorem RtpHandle.Owns.once (hOwns : h.Owns) : h.deleted.Nodup :=
  (List.nodup_append.mp (hOwns.nodup_iff.mpr List.nodup_range)).1

theorem RtpHandle.Owns.nativeRease (hOwns : h.Owns) : h.nativeRease.Owns := by
  obtain ⟨hField, hLength, hDeleted⟩ := setJavaRtp_spec none h
  rw [Owns, RtpHandle.nativeRease, hField, hLength, hDeleted, Option.toList_none, List.append_nil]
  exact hOwns

theorem RtpHandle.Owns.nativeSetup (hOwns : h.Owns) (state : K) : (h.nativeSetup state).Owns := by
  obtain ⟨hField, hLength, hDeleted⟩ := setJavaRtp_spec (some h.objects.length)
    { h with objects := h.objects ++ [JavaRtp.new state] }
  rw [Owns, RtpHandle.nativeSetup, hField, hLength, hDeleted, List.length_append,
    List.length_singleton, List.range_succ]
  exact hOwns.append_right [h.objects.length]

theorem RtpHandle.current_nativeSetup (hOwns : h.Owns) (state : K) :
    (h.nativeSetup state).current = some (JavaRtp.new state) := by
  rw [current, RtpHandle.nativeSetup, setJavaRtp]
  cases hField : h.mJavaRtp with
  | none => simp
  | some old =>
    obtain ⟨hLt, -⟩ := (hOwns.only old).mp hField
    have hOther : old ≠ h.objects.length := Nat.ne_of_lt hLt
    simp [RtpHandle.delete, List.getElem?_modify, hOther]

theorem RtpHandle.second_rease (h : RtpHandle K) : h.nativeRease.nativeRease = h.nativeRease := by
  obtain ⟨hField, -⟩ := setJavaRtp_spec none h
  have hNone : h.nativeRease.mJavaRtp = none := hField
  rw [RtpHandle.nativeRease, setJavaRtp, hNone]
  dsimp only
  rw [← hNone]

theorem RtpHandle.Owns.set (hOwns : h.Owns) (i : Nat) (j : JavaRtp K) :
    { h with objects := h.objects.set i j }.Owns := by
  rw [Owns, List.length_set]
  exact hOwns

theorem RtpHandle.onJavaRtp_some {α : Type} (hOwns : h.Owns) {i : Nat} {j j' : JavaRtp K}
    (hField : h.mJavaRtp = some i) (hObject : h.objects[i]? = some j)
    {method : Rtp K → Except Thrown α × Rtp K} {result : Except Thrown α}
    (hMethod : method ⟨some j⟩ = (result, ⟨some j'⟩)) :
    h.onJavaRtp method = (result, { h with objects := h.objects.set i j' }) := by
  obtain ⟨-, hNot⟩ := (hOwns.only i).mp hField
  rw [onJavaRtp, getJavaRtp, hField]
  dsimp only
  rw [if_neg hNot, hObject, Option.map_some]
  dsimp only
  rw [hMethod]

theorem RtpHandle.onJavaRtp_current {α : Type} (hOwns : h.Owns) {j j' : JavaRtp K}
    (hCurrent : h.current = some j) {method : Rtp K → Except Thrown α × Rtp K}
    {result : Except Thrown α} (hMethod : method ⟨some j⟩ = (result, ⟨some j'⟩)) :
    ∃ handle, h.onJavaRtp method = (result, handle) ∧ handle.Owns ∧ handle.current = some j' := by
  obtain ⟨i, hField, hObject⟩ := Option.bind_eq_some_iff.mp hCurrent
  refine ⟨_, onJavaRtp_some hOwns hField hObject hMethod, hOwns.set i j', ?_⟩
  obtain ⟨hLt, -⟩ := List.getElem?_eq_some_iff.mp hObject
  rw [current, hField]
  exact List.getElem?_set_self hLt

theorem RtpHandle.onJavaRtp_same {α : Type} (hOwns : h.Owns) {j : JavaRtp K}
    (hCurrent : h.current = some j) {method : Rtp K → Except Thrown α × Rtp K}
    {result : Except Thrown α} (hMethod : method ⟨some j⟩ = (result, ⟨some j⟩)) :
    h.onJavaRtp method = (result, h) := by
  obtain ⟨i, hField, hObject⟩ := Option.bind_eq_some_iff.mp hCurrent
  rw [onJavaRtp_some hOwns hField hObject hMethod]
  obtain ⟨hLt, rfl⟩ := List.getElem?_eq_some_iff.mp hObject
  rw [List.set_getElem_self hLt]

theorem RtpHandle.Owns.mJavaRtp_eq_none (hOwns : h.Owns) (hCurrent : h.current = none) :
    h.mJavaRtp = none := by
  rw [Option.eq_none_iff_forall_ne_some]
  intro i hField
  obtain ⟨hLt, -⟩ := (hOwns.only i).mp hField
  rw [current, hField] at hCurrent
  exact Nat.not_le.mpr hLt (List.getElem?_eq_none_iff.mp hCurrent)

theorem RtpHandle.onJavaRtp_none {α : Type} (hField : h.mJavaRtp = none)
    {method : Rtp K → Except Thrown α × Rtp K} :
    h.onJavaRtp method = ((method ⟨none⟩).1, h) := by
  rw [onJavaRtp, getJavaRtp, hField]

end Ledger

structure Kept (s : Opened K) : Prop where
  owns : s.handle.Owns
  sound : ∀ j ∈ s.handle.current, j.Sound s.openedWith

section Steps

variable {s s' : Opened K}

theorem Kept.lifeCycle (h : Kept s) : LifeCycle s := by
  constructor
  case only_undeleted => exact h.owns.only
  case deleted_once => exact h.owns.once
  case second_rease => exact s.handle.second_rease
  case flag =>
    intro j hj
    rw [(h.sound j hj).flag]
  case port => exact fun j hj => (h.sound j hj).port
  case destinations => exact fun j hj => (h.sound j hj).destinations
  case open_throws =>
    intro j hj hOpen port outcome
    apply RtpHandle.onJavaRtp_same h.owns hj
    simp only [Rtp.openRtp, hOpen, if_true]
  case open_creates =>
    intro j hj hClosed port ssrc timestamp seqnr
    obtain ⟨j', hCall, hAt, -⟩ := (h.sound j hj).openRtp_created hClosed port ssrc timestamp seqnr
    obtain ⟨handle, hOpened, -, hNow⟩ := RtpHandle.onJavaRtp_current h.owns hj hCall
    exact ⟨handle, hOpened, j', hNow, hAt⟩
  case open_fails =>
    intro j hj hClosed port
    obtain ⟨j', hCall, hStill, -⟩ := (h.sound j hj).openRtp_failed hClosed port
    obtain ⟨handle, hFailed, -, hNow⟩ := RtpHandle.onJavaRtp_current h.owns hj hCall
    exact ⟨handle, hFailed, j', hNow, hStill⟩
  case close_destroys =>
    intro j hj hOpen
    obtain ⟨j', hCall, hOver, -⟩ := (h.sound j hj).closeRtp_open hOpen
    obtain ⟨handle, hClosed, -, hNow⟩ := RtpHandle.onJavaRtp_current h.owns hj hCall
    exact ⟨handle, hClosed, j', hNow, hOver⟩
  case close_throws =>
    intro j hj hClosed
    apply RtpHandle.onJavaRtp_same h.owns hj
    simp only [Rtp.closeRtp, hClosed, Bool.false_eq_true, if_false]

theorem kept_start : Kept (Opened.start : Opened K) where
  owns := List.Perm.refl _
  sound := nofun

theorem goesOn_eq {α : Type} {openedWith : Option α → Option Int} {result : Except Thrown α}
    {handle : RtpHandle K} (hStep : goesOn openedWith (result, handle) = some s') :
    s' = ⟨handle, openedWith result.toOption⟩ := by
  unfold goesOn at hStep
  split at hStep
  · cases hStep
  · rename_i hSame
    cases hSame
    cases hStep
    rfl
  · rename_i hSame
    cases hSame
    cases hStep
    rfl

/-- A method that keeps the object in the field sound keeps everything else too. -/
theorem Kept.method {α : Type} (h : Kept s) {method : Rtp K → Except Thrown α × Rtp K}
    {openedWith : Option α → Option Int}
    (hMethod : ∀ j : JavaRtp K, j.Sound s.openedWith → ∃ result j',
      method ⟨some j⟩ = (result, ⟨some j'⟩) ∧ j'.Sound (openedWith result.toOption))
    (hStep : goesOn openedWith (s.handle.onJavaRtp method) = some s') : Kept s' := by
  cases hCurrent : s.handle.current with
  | none =>
    have hField := h.owns.mJavaRtp_eq_none hCurrent
    rw [RtpHandle.onJavaRtp_none hField] at hStep
    rw [goesOn_eq hStep]
    exact ⟨h.owns, fun j hj => nomatch hCurrent.symm.trans hj⟩
  | some j =>
    obtain ⟨result, j', hCall, hSound⟩ := hMethod j (h.sound j hCurrent)
    obtain ⟨handle, hNow, hOwns, hCurrent'⟩ := RtpHandle.onJavaRtp_current h.owns hCurrent hCall
    rw [hNow] at hStep
    rw [goesOn_eq hStep]
    refine ⟨hOwns, fun k hk => ?_⟩
    cases hCurrent'.symm.trans hk
    exact hSound

theorem Kept.step {codec : SpeexCodec S K} {c : HandleCall S K} (h : Kept s)
    (hStep : handleStep codec s c = some s') : Kept s' := by
  cases c with
  | nativeSetup state =>
    cases hStep
    refine ⟨h.owns.nativeSetup state, fun j hj => ?_⟩
    rw [RtpHandle.current_nativeSetup h.owns state] at hj
    cases hj
    exact JavaRtp.sound_new none state
  | nativeRease =>
    cases hStep
    refine ⟨h.owns.nativeRease, fun j hj => ?_⟩
    obtain ⟨hField, -⟩ := RtpHandle.setJavaRtp_spec none s.handle
    dsimp only at hj
    rw [RtpHandle.current, RtpHandle.nativeRease, hField] at hj
    cases hj
  | openRtp port outcome =>
    rw [handleStep, RtpHandle.openRtp] at hStep
    refine h.method (fun j hj => ?_) hStep
    obtain ⟨result, j', hCall, -, hSound⟩ := hj.openRtp port outcome
    exact ⟨result, j', hCall, hSound⟩
  | closeRtp =>
    rw [handleStep, RtpHandle.closeRtp] at hStep
    refine h.method (fun j hj => ?_) hStep
    obtain ⟨result, j', hCall, -, hSound⟩ := hj.closeRtp
    exact ⟨result, j', hCall, hSound⟩
  | addRtpDestinationIp ip =>
    rw [handleStep, RtpHandle.addRtpDestinationIp] at hStep
    exact h.method (fun j hj => hj.addRtpDestinationIp ip) hStep
  | write data =>
    rw [handleStep, RtpHandle.write] at hStep
    refine h.method (fun j hj => ?_) hStep
    obtain ⟨j', hCall, hSound⟩ := hj.write codec data
    exact ⟨.ok (), j', hCall, hSound⟩

theorem goesOn_none {α : Type} {openedWith : Option α → Option Int}
    {answer : Except Thrown α × RtpHandle K} (hStep : goesOn openedWith answer = none) :
    answer.1 = .error .undefinedBehaviour := by
  unfold goesOn at hStep
  split at hStep
  · rfl
  · cases hStep
  · cases hStep

theorem Kept.getJavaRtp (h : Kept s) : s.handle.getJavaRtp = some ⟨s.handle.current⟩ := by
  rw [RtpHandle.getJavaRtp, RtpHandle.current]
  cases hField : s.handle.mJavaRtp with
  | none => rfl
  | some i =>
    obtain ⟨hLt, hNot⟩ := (h.owns.only i).mp hField
    have hObject : s.handle.objects[i]? = some s.handle.objects[i] := List.getElem?_eq_getElem hLt
    dsimp only
    rw [if_neg hNot, Option.bind_some, hObject, Option.map_some]

theorem RtpHandle.onJavaRtp_result {α : Type} {h : RtpHandle K} {r : Rtp K}
    (hGet : h.getJavaRtp = some r) (method : Rtp K → Except Thrown α × Rtp K) :
    (h.onJavaRtp method).1 = (method r).1 := by
  rw [onJavaRtp, hGet]
  dsimp only
  split
  · rfl
  · rfl

theorem Kept.defined {α : Type} (h : Kept s) {method : Rtp K → Except Thrown α × Rtp K}
    (hNone : (method ⟨none⟩).1 ≠ .error .undefinedBehaviour)
    (hSome : ∀ j : JavaRtp K, j.Sound s.openedWith →
      (method ⟨some j⟩).1 ≠ .error .undefinedBehaviour) :
    (s.handle.onJavaRtp method).1 ≠ .error .undefinedBehaviour := by
  rw [RtpHandle.onJavaRtp_result h.getJavaRtp]
  cases hCurrent : s.handle.current with
  | none => exact hNone
  | some j => exact hSome j (h.sound j hCurrent)

/-- The only call that a run does not go on after is one that writes past the buffer of
`addRtpDestinationIp`. -/
theorem Kept.refused {codec : SpeexCodec S K} {c : HandleCall S K} (h : Kept s)
    (hStep : handleStep codec s c = none) :
    ∃ ip, c = .addRtpDestinationIp ip ∧ copyIp ip = .error .undefinedBehaviour := by
  cases c with
  | nativeSetup state => cases hStep
  | nativeRease => cases hStep
  | openRtp port outcome =>
    rw [handleStep, RtpHandle.openRtp] at hStep
    have hResult := goesOn_none hStep
    refine absurd hResult (h.defined nofun fun j hj => ?_)
    obtain ⟨result, j', hCall, hDefined, -⟩ := hj.openRtp port outcome
    rw [hCall]
    exact hDefined
  | closeRtp =>
    rw [handleStep, RtpHandle.closeRtp] at hStep
    have hResult := goesOn_none hStep
    refine absurd hResult (h.defined nofun fun j hj => ?_)
    obtain ⟨result, j', hCall, hDefined, -⟩ := hj.closeRtp
    rw [hCall]
    exact hDefined
  | addRtpDestinationIp ip =>
    cases hCopy : copyIp ip with
    | error e => exact ⟨ip, rfl, (copyIp_error hCopy) ▸ hCopy⟩
    | ok cstring =>
      rw [handleStep, RtpHandle.addRtpDestinationIp] at hStep
      have hResult := goesOn_none hStep
      refine absurd hResult (h.defined nofun fun j _ => ?_)
      rw [Rtp.addRtpDestinationIp, hCopy]
      exact nofun
  | write data =>
    rw [handleStep, RtpHandle.write] at hStep
    have hResult := goesOn_none hStep
    refine absurd hResult (h.defined nofun fun j hj => ?_)
    obtain ⟨j', hCall, -⟩ := hj.write codec data
    rw [hCall]
    exact nofun

end Steps

/-- The life cycle of the native object, over every order of calls and every outcome of them. A
run only stops at a call that writes past the buffer of `addRtpDestinationIp`. -/
theorem always_lifeCycle (codec : SpeexCodec S K) (calls : List (HandleCall S K)) :
    Always (handleStep codec)
      (fun s => LifeCycle s ∧ ∀ c, handleStep codec s c = none →
        ∃ ip, c = .addRtpDestinationIp ip ∧ copyIp ip = .error .undefinedBehaviour)
      .start calls := by
  have hKeep : ∀ {s c s'}, Kept s → handleStep codec s c = some s' → Kept s' :=
    fun h hStep => h.step hStep
  have hSafe : ∀ {s : Opened K}, Kept s → LifeCycle s ∧ ∀ c, handleStep codec s c = none →
      ∃ ip, c = .addRtpDestinationIp ip ∧ copyIp ip = .error .undefinedBehaviour :=
    fun h => ⟨h.lifeCycle, fun _ hStep => h.refused hStep⟩
  exact always_of_invariant hKeep hSafe kept_start

end LocalCall.Jni
