import LocalCall.Library.Transition
import LocalCall.Service.LocalCallService
import Mathlib.Data.Finset.Card

/-! # Where the voice packets go

The session keeps its destinations from call to call, and `startRecorder` only adds to them. So
the destinations of the moment are the addresses of all peers that were ever dialled, and whether
a packet goes to the right peer only depends on whether these are one address.
-/
namespace LocalCall.Service
open Java Jni Transition
set_option autoImplicit false

variable {S K : Type}

def rtpAddress (ip : Text) : Option RTPIPv4Address :=
  match copyIp ip with
  | .ok cstring => some ⟨inetAddr cstring, BitVec.ofInt 16 rtpLocalPort⟩
  | .error _ => none

section Session

def OpenTo (r : Rtp K) (destinations : Finset RTPIPv4Address) : Prop :=
  ∃ j, r.mJavaRtp = some j ∧ j.mPortBase = BitVec.ofInt 16 rtpLocalPort ∧
    j.mMyRTPSession.created = true ∧ j.mMyRTPSession.destinations = destinations

variable {r : Rtp K} {destinations : Finset RTPIPv4Address}

theorem OpenTo.destinationsOf_eq (h : OpenTo r destinations) : destinationsOf r = destinations := by
  obtain ⟨j, hj, _, _, hDest⟩ := h
  rw [destinationsOf, hj]
  exact hDest

theorem openTo_onCreate (state : K) (opened : Option Nat) (ssrc timestamp : BitVec 32)
    (seqnr : BitVec 16) :
    OpenTo (LocalCallService.onCreate (S := S) state opened (.created ssrc timestamp seqnr)).mRtp
      ∅ :=
  ⟨_, rfl, rfl, rfl, rfl⟩

theorem OpenTo.write (h : OpenTo r destinations) (codec : SpeexCodec S K) (data : List S) :
    OpenTo (r.write codec data).2 destinations := by
  obtain ⟨j, hj, hPort, hCreated, hDest⟩ := h
  simp only [Rtp.write, hj]
  split
  · exact ⟨j, hj, hPort, hCreated, hDest⟩
  · split
    · obtain ⟨hC, hD⟩ := RTPSession.incrementTimestampDefault_frame j.mMyRTPSession
      exact ⟨_, rfl, hPort, hC.trans hCreated, hD.trans hDest⟩
    · obtain ⟨hC, hD⟩ := RTPSession.sendPacket_frame j.mMyRTPSession _ _ _ _
      exact ⟨_, rfl, hPort, hC.trans hCreated, hD.trans hDest⟩

theorem OpenTo.packet [Zero S] {s : LocalCallService S K} (h : OpenTo s.mRtp destinations)
    (codec : SpeexCodec S K) (payload : List UInt8) (after : Nat → UInt8) (buffer11 : List S) :
    OpenTo (s.packet codec payload after buffer11).mRtp destinations := by
  obtain ⟨j, hj, hPort, hCreated, hDest⟩ := h
  simp only [LocalCallService.packet, hj]
  exact ⟨_, rfl, hPort, hCreated, hDest⟩

theorem OpenTo.addRtpDestinationIp (h : OpenTo r destinations) (ip : Text) :
    (∃ addr, rtpAddress ip = some addr ∧ (r.addRtpDestinationIp ip).1 = .ok () ∧
      OpenTo (r.addRtpDestinationIp ip).2 (insert addr destinations)) ∨
    ∃ e, (r.addRtpDestinationIp ip).1 = .error e ∧ (r.addRtpDestinationIp ip).2 = r := by
  obtain ⟨j, hj, hPort, hCreated, rfl⟩ := h
  simp only [Rtp.addRtpDestinationIp, hj, rtpAddress]
  cases copyIp ip with
  | error e => exact Or.inr ⟨e, rfl, rfl⟩
  | ok cstring =>
    refine Or.inl ⟨_, rfl, rfl, _, rfl, hPort, ?_, ?_⟩
    · simp only [RTPSession.checked_addDestination _ _ hCreated, hCreated]
    · simp only [RTPSession.checked_addDestination _ _ hCreated, hPort]

theorem startRecorder_dials {s : LocalCallService S K}
    (h : OpenTo s.mRtp destinations) (ip : Text) :
    (∃ addr, rtpAddress ip = some addr ∧ accepted s ip = true ∧
      OpenTo (s.startRecorder ip).2.mRtp (insert addr destinations)) ∨
    accepted s ip = false ∧ OpenTo (s.startRecorder ip).2.mRtp destinations ∧
      (s.startRecorder ip).2.pumps = s.pumps := by
  by_cases hFind : mPatternFind ip = true
  · simp only [accepted, LocalCallService.startRecorder, hFind, if_true]
    have hAdded := h.addRtpDestinationIp ip
    generalize s.mRtp.addRtpDestinationIp ip = added at hAdded ⊢
    obtain ⟨result, r⟩ := added
    rcases hAdded with ⟨addr, hAddr, rfl, hOpen⟩ | ⟨e, rfl, rfl⟩
    · exact Or.inl ⟨addr, hAddr, rfl, hOpen⟩
    · exact Or.inr ⟨rfl, h, rfl⟩
  · simp only [accepted, LocalCallService.startRecorder, hFind]
    exact Or.inr ⟨rfl, h, rfl⟩

end Session

section Watched

/-- The service, the peers dialled so far, and each call of `Rtp.write` with the peer that was
dialled last at that moment. -/
structure Watched (S K : Type) where
  service : LocalCallService S K
  dialled : List Text
  writes : List (Written S × Option Text)

def Watched.onCreate (state : K) (opened : Option Nat) (ssrc timestamp : BitVec 32)
    (seqnr : BitVec 16) : Watched S K :=
  ⟨.onCreate state opened (.created ssrc timestamp seqnr), [], []⟩

def watchedStep [Zero S] (codec : SpeexCodec S K) (w : Watched S K) (e : Event S) :
    Option (Watched S K) :=
  (serviceStep codec w.service e).map fun service =>
    { service
      dialled := w.dialled ++ dialledBy w.service e
      writes := w.writes ++ (writtenBy w.service e).map fun x => (x, w.dialled.getLast?) }

/-- The frame was passed on for the peer dialled last and for nobody else. -/
def SentToPeer (x : Written S × Option Text) : Prop :=
  ∃ ip addr, x.2 = some ip ∧ rtpAddress ip = some addr ∧ x.1.destinations = {addr}

theorem sentToPeer_iff {dialled : List Text} (hSome : dialled ≠ [])
    (hResolved : ∀ ip ∈ dialled, (rtpAddress ip).isSome) (data : List S) :
    SentToPeer (⟨data, (dialled.filterMap rtpAddress).toFinset⟩, dialled.getLast?) ↔
      ∀ ip ∈ dialled, ∀ ip' ∈ dialled, rtpAddress ip = rtpAddress ip' := by
  constructor
  · rintro ⟨_, addr, _, _, hOnly⟩
    have hAll : ∀ ip ∈ dialled, rtpAddress ip = some addr := by
      intro ip hMem
      obtain ⟨a, hAddr⟩ := Option.isSome_iff_exists.mp (hResolved ip hMem)
      have hIn : a ∈ (dialled.filterMap rtpAddress).toFinset :=
        List.mem_toFinset.mpr (List.mem_filterMap.mpr ⟨ip, hMem, hAddr⟩)
      have hIs : a ∈ ({addr} : Finset RTPIPv4Address) := by
        rw [← hOnly]
        exact hIn
      rw [hAddr, Finset.mem_singleton.mp hIs]
    intro ip hMem ip' hMem'
    rw [hAll ip hMem, hAll ip' hMem']
  · intro hSame
    have hLast : dialled.getLast hSome ∈ dialled := List.getLast_mem hSome
    obtain ⟨addr, hAddr⟩ := Option.isSome_iff_exists.mp (hResolved _ hLast)
    refine ⟨_, addr, List.getLast?_eq_some_getLast hSome, hAddr, ?_⟩
    ext a
    simp only [List.mem_toFinset, List.mem_filterMap, Finset.mem_singleton]
    constructor
    · rintro ⟨ip, hMem, hA⟩
      rw [hSame ip hMem _ hLast, hAddr] at hA
      exact (Option.some.inj hA).symm
    · rintro rfl
      exact ⟨_, hLast, hAddr⟩

def OnlyToPeer (w : Watched S K) : Prop := ∀ x ∈ w.writes, SentToPeer x

/-- A frame is written only while all peers dialled so far have one address. -/
def OnePeer (w : Watched S K) (e : Event S) : Prop :=
  writtenBy w.service e ≠ [] →
    ∀ ip ∈ w.dialled, ∀ ip' ∈ w.dialled, rtpAddress ip = rtpAddress ip'

structure Dialled (w : Watched S K) : Prop where
  open_to : OpenTo w.service.mRtp (w.dialled.filterMap rtpAddress).toFinset
  resolved : ∀ ip ∈ w.dialled, (rtpAddress ip).isSome
  pumps : w.dialled = [] → w.service.pumps = []

theorem dialled_onCreate (state : K) (opened : Option Nat) (ssrc timestamp : BitVec 32)
    (seqnr : BitVec 16) :
    Dialled (Watched.onCreate (S := S) state opened ssrc timestamp seqnr) :=
  ⟨openTo_onCreate state opened ssrc timestamp seqnr, fun _ h => (nomatch h), fun _ => rfl⟩

theorem Dialled.sameDialled {w w' : Watched S K} (h : Dialled w) (hDialled : w'.dialled = w.dialled)
    (hOpen : OpenTo w'.service.mRtp (w.dialled.filterMap rtpAddress).toFinset)
    (hPumps : w.service.pumps = [] → w'.service.pumps = []) : Dialled w' := by
  constructor
  · rw [hDialled]
    exact hOpen
  · rw [hDialled]
    exact h.resolved
  · rw [hDialled]
    exact fun hNil => hPumps (h.pumps hNil)

theorem Dialled.dial {w w' : Watched S K} (h : Dialled w) {ip : Text} {addr : RTPIPv4Address}
    (hDialled : w'.dialled = w.dialled ++ [ip]) (hAddr : rtpAddress ip = some addr)
    (hOpen : OpenTo w'.service.mRtp
      (insert addr (w.dialled.filterMap rtpAddress).toFinset)) : Dialled w' := by
  constructor
  · have hSet : ((w.dialled ++ [ip]).filterMap rtpAddress).toFinset =
        insert addr (w.dialled.filterMap rtpAddress).toFinset := by
      ext a
      simp [hAddr, eq_comm]
    rw [hDialled, hSet]
    exact hOpen
  · intro ip' hMem
    rw [hDialled] at hMem
    rcases List.mem_append.mp hMem with hMem | hMem
    · exact h.resolved ip' hMem
    · rw [List.mem_singleton.mp hMem, hAddr]
      rfl
  · intro hNil
    rw [hDialled] at hNil
    exact absurd hNil (List.append_ne_nil_of_right_ne_nil _ (List.cons_ne_nil _ _))

variable [Zero S] (codec : SpeexCodec S K)

theorem serviceStep_quiet {s s' : LocalCallService S K} {e : Event S}
    {destinations : Finset RTPIPv4Address} (hStep : serviceStep codec s e = some s')
    (hQuiet : ∀ ip, e ≠ .startRecorder ip) :
    (OpenTo s.mRtp destinations → OpenTo s'.mRtp destinations) ∧
      (s.pumps = [] → s'.pumps = []) := by
  cases hControl : isControl e with
  | true =>
    have hSame := serviceStep_sameMedia hControl hStep
    rw [hSame.mRtp, hSame.pumps]
    exact ⟨id, id⟩
  | false =>
    cases e with
    | startRecorder ip => exact absurd rfl (hQuiet ip)
    | stopRecorder => cases hStep; exact ⟨id, id⟩
    | startPlayer => cases hStep; exact ⟨id, id⟩
    | stopPlayer => cases hStep; exact ⟨id, id⟩
    | audio input => cases hStep; exact ⟨id, id⟩
    | pump i =>
      refine ⟨fun h => ?_, fun hNil => ?_⟩
      · simp only [serviceStep, LocalCallService.pump] at hStep
        split at hStep
        · cases hStep; exact h
        · cases hStep; exact h
        · cases hStep; exact h
        · cases hStep; exact h.write codec _
        · cases hStep
        · cases hStep
      · simp [serviceStep, LocalCallService.pump, hNil] at hStep
    | packet payload after buffer11 =>
      cases hStep
      refine ⟨fun h => h.packet codec payload after buffer11, fun hNil => ?_⟩
      rw [LocalCallService.packet]
      split
      · exact hNil
      · exact hNil
    | _ => cases hControl

theorem Dialled.step {w w' : Watched S K} {e : Event S} (h : Dialled w)
    (hStep : watchedStep codec w e = some w') : Dialled w' := by
  obtain ⟨service, hService, rfl⟩ := Option.map_eq_some_iff.mp hStep
  by_cases hQuiet : ∀ ip, e ≠ .startRecorder ip
  · have hDialled : dialledBy w.service e = [] := by
      cases e with
      | startRecorder ip => exact absurd rfl (hQuiet ip)
      | _ => rfl
    obtain ⟨hOpen, hPumps⟩ := serviceStep_quiet codec hService hQuiet
    apply h.sameDialled _ (hOpen h.open_to) hPumps
    dsimp only
    rw [hDialled, List.append_nil]
  · obtain ⟨ip, rfl⟩ := not_forall_not.mp hQuiet
    obtain rfl := startRecorder_step hService
    rcases startRecorder_dials h.open_to ip with ⟨addr, hAddr, hAccepted, hOpen⟩ |
      ⟨hRefused, hOpen, hPumps⟩
    · apply h.dial _ hAddr hOpen
      simp only [dialledBy, hAccepted, if_true]
    · apply h.sameDialled _ hOpen fun hNil => hPumps.trans hNil
      simp only [dialledBy, hRefused, Bool.false_eq_true, if_false, List.append_nil]

theorem onlyToPeer_step {w w' : Watched S K} {e : Event S} (h : Dialled w) (hOnly : OnlyToPeer w)
    (hStep : watchedStep codec w e = some w') : OnlyToPeer w' ↔ OnePeer w e := by
  obtain ⟨service, hService, rfl⟩ := Option.map_eq_some_iff.mp hStep
  cases hWritten : writtenBy w.service e with
  | nil =>
    refine iff_of_true ?_ fun hWrites => absurd hWritten hWrites
    simpa only [OnlyToPeer, hWritten, List.map_nil, List.append_nil] using hOnly
  | cons x rest =>
    obtain ⟨data, rfl, rfl, hPumps⟩ : ∃ data, x = ⟨data, destinationsOf w.service.mRtp⟩ ∧
        rest = [] ∧ w.service.pumps ≠ [] := by
      cases e with
      | pump i =>
        simp only [writtenBy] at hWritten
        split at hWritten
        · rename_i data hHolding
          obtain ⟨rfl, rfl⟩ := List.cons.inj hWritten
          exact ⟨data, rfl, rfl, fun hNil => by simp [hNil] at hHolding⟩
        · cases hWritten
      | _ => cases hWritten
    have hSome : w.dialled ≠ [] := fun hNil => hPumps (h.pumps hNil)
    have hNew := sentToPeer_iff hSome h.resolved data
    rw [← h.open_to.destinationsOf_eq] at hNew
    have hAll : (∀ y ∈ w.writes ++ [(⟨data, destinationsOf w.service.mRtp⟩, w.dialled.getLast?)],
        SentToPeer y) ↔
        SentToPeer (⟨data, destinationsOf w.service.mRtp⟩, w.dialled.getLast?) := by
      simp only [List.forall_mem_append, List.forall_mem_singleton]
      exact and_iff_right hOnly
    rw [OnlyToPeer, OnePeer, hWritten]
    simp only [List.map_cons, List.map_nil]
    rw [hAll, hNew]
    exact ⟨fun hSame _ => hSame, fun hSame => hSame (List.cons_ne_nil _ _)⟩

/-- Every packet of a run goes to the peer of its call alone exactly when no frame is written
after peers with two different addresses have been dialled. -/
theorem always_onlyToPeer_iff (state : K) (opened : Option Nat) (ssrc timestamp : BitVec 32)
    (seqnr : BitVec 16) (events : List (Event S)) :
    Always (watchedStep codec) OnlyToPeer
        (Watched.onCreate state opened ssrc timestamp seqnr) events ↔
      Meets (watchedStep codec) OnePeer
        (Watched.onCreate state opened ssrc timestamp seqnr) events :=
  always_iff_meets (fun {_ _ _} hInv _ hStep _ => Dialled.step codec hInv hStep)
    (fun {_ _ _} hInv hOnly hStep => onlyToPeer_step codec hInv hOnly hStep)
    (dialled_onCreate state opened ssrc timestamp seqnr) (fun _ hx => (nomatch hx))

/-- A call with one peer, then a call with another one in which the microphone is heard. -/
def twoCalls : List (Event Nat) :=
  [.startRecorder "192.168.1.2".toList, .stopRecorder, .disconnectServer (some 5001),
    .connectServer "192.168.1.3".toList 5002, .startRecorder "192.168.1.3".toList,
    .audio ⟨true, List.replicate 160 7⟩, .pump 1, .pump 1, .pump 1]

theorem not_always_onlyToPeer_twoCalls :
    ¬ Always (watchedStep (silentCodec Nat)) OnlyToPeer
      (Watched.onCreate () (some 5000) 0 0 0) twoCalls := by
  intro hAlways
  have hRun : ((run (watchedStep (silentCodec Nat))
      (Watched.onCreate () (some 5000) 0 0 0) twoCalls).map
      fun w => w.writes.map fun x => x.1.destinations.card) = some [2] := by
    decide +kernel
  obtain ⟨w, hReached, hCards⟩ := Option.map_eq_some_iff.mp hRun
  obtain ⟨x, hx, hCard⟩ := List.mem_map.mp (hCards ▸ List.mem_singleton_self 2 :
    2 ∈ w.writes.map fun x => x.1.destinations.card)
  obtain ⟨_, _, _, _, hOnly⟩ := hAlways.last hReached x hx
  rw [hOnly, Finset.card_singleton] at hCard
  exact absurd hCard (by decide)

end Watched
end LocalCall.Service
