import LocalCall.Library.Transition
import LocalCall.Jrtp.SourceTable

/-! # The counters of the source table

The numbers of sources and of senders are right in every run. The number of active members misses
the sources that become valid because a packet names them as contributing source; the next timeout
counts anew.
-/
namespace LocalCall.Jrtp
set_option autoImplicit false

open Dictionary Transition

namespace RTPInternalSourceData

variable {d d' : RTPInternalSourceData}

@[simp] theorem flags_setDataAddress (isrtp : Bool) (a : RTPAddress) :
    (d.setDataAddress isrtp a).issender = d.issender ∧
      (d.setDataAddress isrtp a).isActive = d.isActive := by
  cases isrtp <;> exact ⟨rfl, rfl⟩

theorem flags_checkCollision {isrtp : Bool} {a : RTPAddress}
    (h : d.checkCollision a isrtp = some d') :
    d'.issender = d.issender ∧ d'.validated = d.validated ∧ d'.receivedbye = d.receivedbye := by
  have hSet : ∀ b : Bool, (d.setDataAddress b a).issender = d.issender ∧
      (d.setDataAddress b a).validated = d.validated ∧
      (d.setDataAddress b a).receivedbye = d.receivedbye := by
    intro b
    cases b <;> exact ⟨rfl, rfl, rfl⟩
  unfold checkCollision at h
  repeat' split at h
  all_goals cases h
  all_goals first
    | exact hSet _
    | exact ⟨rfl, rfl, rfl⟩

theorem isActive_congr (hValidated : d'.validated = d.validated)
    (hBye : d'.receivedbye = d.receivedbye) : d'.isActive = d.isActive := by
  rw [isActive, isActive, hValidated, hBye]

end RTPInternalSourceData

namespace RTPSources

open RTPInternalSourceData

structure Sound (s : RTPSources) : Prop where
  hKeys : (keys s.sources).Nodup
  hTotal : s.totalcount = s.sources.length
  hSenders : s.sendercount = tally issender s.sources

/-- The active members that are not counted. -/
def gap (s : RTPSources) : Int := tally isActive s.sources - s.activecount

def Moves (s s' : RTPSources) (n : Nat) : Prop := s.Sound → s'.Sound ∧ s'.gap = s.gap + n

theorem Moves.trans {s s' s'' : RTPSources} {m n : Nat} (h : Moves s s' m) (h' : Moves s' s'' n) :
    Moves s s'' (m + n) := by
  intro hSound
  obtain ⟨hMid, hGap⟩ := h hSound
  obtain ⟨hLast, hGap'⟩ := h' hMid
  refine ⟨hLast, ?_⟩
  rw [hGap', hGap]
  omega

theorem Moves.andThen {s s' s'' : RTPSources} {n : Nat} (h : Moves s s' 0)
    (h' : Moves s' s'' n) : Moves s s'' n := Nat.zero_add n ▸ h.trans h'

theorem moves_of_eq {s s' : RTPSources} (hSources : s'.sources = s.sources)
    (hTotal : s'.totalcount = s.totalcount) (hSenders : s'.sendercount = s.sendercount)
    (hActive : s'.activecount = s.activecount) : Moves s s' 0 := by
  intro h
  refine ⟨⟨?_, ?_, ?_⟩, ?_⟩
  · rw [hSources]
    exact h.hKeys
  · rw [hSources, hTotal]
    exact h.hTotal
  · rw [hSources, hSenders]
    exact h.hSenders
  · rw [gap, gap, hSources, hActive]
    omega

/-- A source is replaced, and the counts follow its flags. -/
theorem moves_count {s : RTPSources} {ssrc : BitVec 32} {d d' : RTPInternalSourceData}
    {n : Nat} {senders active : Int} (hOld : lookup ssrc s.sources = some d)
    (hSenders : senders + d.issender.toNat = s.sendercount + d'.issender.toNat)
    (hActive : active + d.isActive.toNat + n = s.activecount + d'.isActive.toNat) :
    Moves s { s.store ssrc d' with sendercount := senders, activecount := active } n := by
  intro h
  have hSender := tally_store issender d' h.hKeys hOld
  have hMember := tally_store isActive d' h.hKeys hOld
  have hBefore := h.hSenders
  refine ⟨⟨?_, ?_, ?_⟩, ?_⟩
  · change (keys (Dictionary.store ssrc d' s.sources)).Nodup
    rw [keys_store]
    exact h.hKeys
  · change s.totalcount = (Dictionary.store ssrc d' s.sources).length
    rw [length_store]
    exact h.hTotal
  · change senders = tally issender (Dictionary.store ssrc d' s.sources)
    omega
  · change (tally isActive (Dictionary.store ssrc d' s.sources) : Int) - active = _
    rw [gap]
    omega

theorem moves_store {s : RTPSources} {ssrc : BitVec 32} {d d' : RTPInternalSourceData}
    (hOld : lookup ssrc s.sources = some d) (hSender : d'.issender = d.issender)
    (hActive : d'.isActive = d.isActive) : Moves s (s.store ssrc d') 0 := by
  apply moves_count hOld
  · rw [hSender]
  · rw [hActive]
    exact Int.add_zero _

section
variable (s : RTPSources) (ssrc : BitVec 32)

theorem moves_obtain : Moves s (s.obtainSourceDataInstance ssrc).1 0 := by
  have hSources := sources_obtain s ssrc
  intro h
  cases hLookup : lookup ssrc s.sources with
  | some d =>
    rw [hLookup] at hSources
    refine moves_of_eq hSources ?_ ?_ ?_ h <;>
    · rw [obtainSourceDataInstance, hLookup]
  | none =>
    rw [hLookup] at hSources
    have hCounts : (s.obtainSourceDataInstance ssrc).1.totalcount = s.totalcount + 1 ∧
        (s.obtainSourceDataInstance ssrc).1.sendercount = s.sendercount ∧
        (s.obtainSourceDataInstance ssrc).1.activecount = s.activecount := by
      rw [obtainSourceDataInstance, hLookup]
      exact ⟨rfl, rfl, rfl⟩
    have hTally : ∀ p : RTPInternalSourceData → Bool, p (.new ssrc) = false →
        tally p (s.sources ++ [(ssrc, .new ssrc)]) = tally p s.sources := by
      intro p hp
      rw [tally_append, tally_cons, hp]
      rfl
    have hSender := hTally issender rfl
    have hMember := hTally isActive rfl
    have hBefore := h.hSenders
    have hLength := h.hTotal
    refine ⟨⟨?_, ?_, ?_⟩, ?_⟩
    · rw [hSources]
      change (keys (s.sources ++ [(ssrc, _)])).Nodup
      rw [keys, List.map_append, List.nodup_append]
      refine ⟨h.hKeys, List.nodup_singleton _, ?_⟩
      intro a ha b hb
      rw [List.mem_singleton.mp hb]
      rintro rfl
      exact lookup_eq_none_iff.mp hLookup ha
    · rw [hSources, hCounts.1, hLength, List.length_append, List.length_singleton]
      rfl
    · rw [hSources, hSender, hCounts.2.1]
      exact hBefore
    · rw [gap, gap, hSources, hMember, hCounts.2.2]
      omega

end

/-- What comes through, and what it leaves. -/
theorem getSourceData_spec (s : RTPSources) (isrtp : Bool) (ssrc : BitVec 32) (a : RTPAddress) :
    Moves s (s.getSourceData isrtp ssrc a).1 0 ∧
      (s.getSourceData isrtp ssrc a).2.isSome = s.Admits isrtp ssrc a ∧
      (∀ d, (s.getSourceData isrtp ssrc a).2 = some d →
        lookup ssrc (s.getSourceData isrtp ssrc a).1.sources = some d) ∧
      (∀ k, k ≠ ssrc → lookup k (s.getSourceData isrtp ssrc a).1.sources = lookup k s.sources) := by
  have hMoves := moves_obtain s ssrc
  have hFound := lookup_obtain s ssrc
  have hOthers : ∀ k, k ≠ ssrc →
      lookup k (s.obtainSourceDataInstance ssrc).1.sources = lookup k s.sources :=
    fun k hk => lookup_obtain_ne s ssrc hk
  obtain ⟨hLookup, hAdmit⟩ | ⟨d, hLookup, hCheck, hAdmit⟩ | ⟨d, d', hLookup, hCheck, hAdmit⟩ :=
    getSourceData_cases s isrtp ssrc a
  · obtain ⟨hSender, hActive⟩ := @flags_setDataAddress (.new ssrc) isrtp a
    rw [obtain_eq, hLookup] at hFound
    rw [hAdmit, Admits, hLookup]
    refine ⟨hMoves.andThen (moves_store hFound hSender hActive), rfl, ?_, ?_⟩
    · rintro d ⟨⟩
      exact lookup_store hFound
    · intro k hk
      exact (lookup_store_ne hk).trans (hOthers k hk)
  · have hCollide : Moves (s.obtainSourceDataInstance ssrc).1
        ((s.obtainSourceDataInstance ssrc).1.onSSRCCollision d) 0 := moves_of_eq rfl rfl rfl rfl
    rw [hAdmit, Admits, hLookup]
    refine ⟨hMoves.andThen hCollide, ?_, ?_, hOthers⟩
    · simp only [hCheck]
    · rintro d ⟨⟩
  · obtain ⟨hSender, hValidated, hBye⟩ := flags_checkCollision hCheck
    rw [obtain_eq, hLookup] at hFound
    rw [hAdmit, Admits, hLookup]
    refine ⟨hMoves.andThen (moves_store hFound hSender (isActive_congr hValidated hBye)), ?_, ?_, ?_⟩
    · simp only [hCheck]
    · rintro d ⟨⟩
      exact lookup_store hFound
    · intro k hk
      exact (lookup_store_ne hk).trans (hOthers k hk)

/-! ## RTCP packets -/

section
variable (s : RTPSources) (ssrc : BitVec 32) (receivetime : RTPTime) (a : RTPAddress)

theorem moves_updateReceiveTime : Moves s (s.updateReceiveTime ssrc receivetime a) 0 := by
  obtain ⟨hMoves, -, hFound, -⟩ := getSourceData_spec s false ssrc a
  rw [updateReceiveTime, getRTCPSourceData]
  cases hAdmit : s.getSourceData false ssrc a with
  | mk s₁ found =>
    rw [hAdmit] at hMoves hFound
    cases found with
    | none => exact hMoves
    | some d =>
      have hStore : Moves s₁ (s₁.store ssrc (d.setLastMessageTime receivetime)) 0 :=
        moves_store (hFound d rfl) rfl rfl
      exact hMoves.andThen hStore

theorem moves_processBYE (reason : List UInt8) :
    Moves s (s.processBYE ssrc reason receivetime a) 0 := by
  obtain ⟨hMoves, -, hFound, -⟩ := getSourceData_spec s false ssrc a
  rw [processBYE, getRTCPSourceData]
  cases hAdmit : s.getSourceData false ssrc a with
  | mk s₁ found =>
    rw [hAdmit] at hMoves hFound
    cases found with
    | none => exact hMoves
    | some d =>
      dsimp only
      split
      · exact hMoves
      · have hGone : (d.processBYEPacket reason receivetime).isActive = false := by
          rw [isActive, Bool.and_eq_false_iff]
          exact Or.inr rfl
        apply hMoves.andThen
        apply moves_count (hFound d rfl)
        · rfl
        · rw [hGone]
          cases hActive : d.isActive <;> simp

theorem flags_processSDESItem (sdesid : SDESItem) (data : List UInt8) (d : RTPInternalSourceData) :
    (d.processSDESItem sdesid data receivetime).1.issender = d.issender ∧
      (d.isActive = true → (d.processSDESItem sdesid data receivetime).1.isActive = true) := by
  have hItem : ∀ item : SDESItem, ∀ e : RTPInternalSourceData,
      (e.setItem item data).1.issender = e.issender ∧
        (e.setItem item data).1.isActive = e.isActive ∧
        (e.setItem item data).1.receivedbye = e.receivedbye := by
    intro item e
    rw [setItem]
    split <;> exact ⟨rfl, rfl, rfl⟩
  have hSame : ∀ item : SDESItem, ∀ e : RTPInternalSourceData, e.issender = d.issender →
      e.isActive = d.isActive → (e.setItem item data).1.issender = d.issender ∧
        (d.isActive = true → (e.setItem item data).1.isActive = true) := by
    intro item e hSender hActive
    obtain ⟨hSender', hActive', -⟩ := hItem item e
    exact ⟨hSender'.trans hSender, fun h => (hActive'.trans hActive).trans h⟩
  have hOnce : ∀ item : SDESItem, (if d.sdesInf item = [] then
      (((d.setLastMessageTime receivetime).setItem item data).1,
        ((d.setLastMessageTime receivetime).setItem item data).2, false)
      else (d.setLastMessageTime receivetime, true, false)).1.issender = d.issender ∧
        (d.isActive = true → (if d.sdesInf item = [] then
          (((d.setLastMessageTime receivetime).setItem item data).1,
            ((d.setLastMessageTime receivetime).setItem item data).2, false)
          else (d.setLastMessageTime receivetime, true, false)).1.isActive = true) := by
    intro item
    split
    · exact hSame _ _ rfl rfl
    · exact ⟨rfl, id⟩
  cases sdesid with
  | cname =>
    rw [processSDESItem]
    dsimp only
    split
    · obtain ⟨hSender, -, hBye⟩ := hItem .cname (d.setLastMessageTime receivetime)
      refine ⟨hSender, fun h => ?_⟩
      rw [isActive, Bool.and_eq_true] at h
      rw [isActive, Bool.and_eq_true]
      refine ⟨rfl, ?_⟩
      change (!((d.setLastMessageTime receivetime).setItem .cname data).1.receivedbye) = true
      rw [hBye]
      exact h.2
    · exact ⟨rfl, id⟩
  | phone => exact hSame _ _ rfl rfl
  | location => exact hSame _ _ rfl rfl
  | note => exact hSame _ _ rfl rfl
  | name => exact hOnce .name
  | email => exact hOnce .email
  | tool => exact hOnce .tool

theorem count_up {before after : Bool} (n : Int) (h : before = true → after = true) :
    (if (!before && after) = true then n + 1 else n) + before.toNat = n + after.toNat := by
  cases before with
  | false => cases after <;> simp
  | true =>
    rw [h rfl]
    simp

theorem moves_processSDESNormalItem (t : SDESType) (data : List UInt8) :
    Moves s (s.processSDESNormalItem ssrc t data receivetime a).1 0 := by
  obtain ⟨hMoves, -, hFound, -⟩ := getSourceData_spec s false ssrc a
  cases t with
  | priv => exact moves_of_eq rfl rfl rfl rfl
  | unknown => exact moves_of_eq rfl rfl rfl rfl
  | item sdesid =>
    rw [processSDESNormalItem, getRTCPSourceData]
    cases hAdmit : s.getSourceData false ssrc a with
    | mk s₁ found =>
      rw [hAdmit] at hMoves hFound
      cases found with
      | none => exact hMoves
      | some d =>
        obtain ⟨hSender, hActive⟩ := flags_processSDESItem receivetime sdesid data d
        apply hMoves.andThen
        apply moves_count (hFound d rfl)
        · rw [hSender]
          rfl
        · exact (Int.add_zero _).trans (count_up _ hActive)

theorem messageRel_moves : MessageRel receivetime a fun s s' => Moves s s' 0 where
  hRefl _ := moves_of_eq rfl rfl rfl rfl
  hTrans _ _ _ h h' := h.andThen h'
  hTell s m := by
    cases m with
    | heard ssrc => exact moves_updateReceiveTime s ssrc receivetime a
    | item ssrc t data => exact moves_processSDESNormalItem s ssrc receivetime a t data
    | bye ssrc reason => exact moves_processBYE s ssrc receivetime a reason

end

/-! ## RTP packets -/

theorem flags_processRTPPacket (d : RTPInternalSourceData) (rtppack : RTPPacket)
    (receivetime : RTPTime) :
    (d.issender = true → (d.processRTPPacket rtppack receivetime).1.issender = true) ∧
      (d.isActive = true → (d.processRTPPacket rtppack receivetime).1.isActive = true) := by
  have hFlags : (d.processRTPPacket rtppack receivetime).1.issender =
        (if d.ownssrc then d.issender else true) ∧
      (d.processRTPPacket rtppack receivetime).1.receivedbye = d.receivedbye := by
    unfold RTPInternalSourceData.processRTPPacket
    simp only
    split <;> exact ⟨rfl, rfl⟩
  constructor
  · intro hSender
    rw [hFlags.1, hSender, ite_self]
  · intro hActive
    rw [isActive, Bool.and_eq_true] at hActive ⊢
    rw [hFlags.2]
    exact ⟨validated_processRTPPacket rtppack receivetime d, hActive.2⟩

/-- A source that is there but not valid yet, has not said goodbye, and would take the address: when
a packet names it as contributing, it becomes an active member that is not counted. -/
def Uncounted (s : RTPSources) (a : RTPAddress) (csrc : BitVec 32) : Prop :=
  ∃ d, lookup csrc s.sources = some d ∧ d.validated = false ∧ d.receivedbye = false ∧
    (d.checkCollision a true).isSome = true

theorem uncounted_after {s s' : RTPSources} {a : RTPAddress} {csrc : BitVec 32}
    {d : RTPInternalSourceData} (hBefore : ¬ Uncounted s a csrc)
    (hHere : lookup csrc s'.sources = some d) (hValidated : d.validated = true)
    (hOthers : ∀ k, k ≠ csrc → lookup k s'.sources = lookup k s.sources) (k : BitVec 32) :
    Uncounted s' a k ↔ Uncounted s a k := by
  by_cases hk : k = csrc
  · subst hk
    refine iff_of_false ?_ hBefore
    rintro ⟨d', hLookup, hInvalid, -⟩
    rw [hHere] at hLookup
    cases hLookup
    rw [hValidated] at hInvalid
    cases hInvalid
  · rw [Uncounted, Uncounted, hOthers k hk]

/-- Naming a source leaves as many more active members uncounted as the test says. -/
theorem processCSRC_spec (s : RTPSources) (a : RTPAddress) (csrc : BitVec 32) :
    ∃ n : Nat, Moves s (processCSRC a s csrc) n ∧ (n = 0 ↔ ¬ Uncounted s a csrc) ∧
      (¬ Uncounted s a csrc → ∀ k, Uncounted (processCSRC a s csrc) a k ↔ Uncounted s a k) := by
  have hMoves := moves_obtain s csrc
  have hFound := lookup_obtain s csrc
  have hOthers : ∀ k, k ≠ csrc →
      lookup k (s.obtainSourceDataInstance csrc).1.sources = lookup k s.sources :=
    fun k hk => lookup_obtain_ne s csrc hk
  obtain ⟨hLookup, hStep⟩ | ⟨d, hLookup, hCheck, hStep⟩ | ⟨d, d', hLookup, hCheck, hStep⟩ :=
    processCSRC_cases s a csrc
  · have hCounted : ¬ Uncounted s a csrc := by
      rintro ⟨d, hSome, -⟩
      rw [hLookup] at hSome
      cases hSome
    rw [obtain_eq, hLookup] at hFound
    have hStore : Moves (s.obtainSourceDataInstance csrc).1 (processCSRC a s csrc) 0 := by
      rw [hStep]
      apply moves_count hFound
      · rfl
      · simp [isActive, RTPInternalSourceData.new, setCSRC]
    refine ⟨0, hMoves.andThen hStore, iff_of_true rfl hCounted, fun _ => ?_⟩
    rw [hStep]
    refine uncounted_after hCounted (lookup_store hFound) rfl fun k hk => ?_
    exact (lookup_store_ne hk).trans (hOthers k hk)
  · have hCounted : ¬ Uncounted s a csrc := by
      rintro ⟨d', hSome, -, -, hAdmitted⟩
      rw [hLookup] at hSome
      cases hSome
      rw [hCheck] at hAdmitted
      cases hAdmitted
    have hCollide : Moves (s.obtainSourceDataInstance csrc).1
        ((s.obtainSourceDataInstance csrc).1.onSSRCCollision d) 0 :=
      moves_of_eq rfl rfl rfl rfl
    rw [obtain_eq, hLookup] at hFound
    rw [hStep]
    refine ⟨0, hMoves.andThen hCollide, iff_of_true rfl hCounted, fun _ k => ?_⟩
    have hSame : lookup k (s.obtainSourceDataInstance csrc).1.sources = lookup k s.sources := by
      by_cases hk : k = csrc
      · rw [hk, hFound, hLookup]
        rfl
      · exact hOthers k hk
    exact exists_congr fun _ => and_congr_left' (iff_of_eq (congrArg (· = some _) hSame))
  · obtain ⟨hSender, hValidated, hBye⟩ := flags_checkCollision hCheck
    have hActive : d'.setCSRC.isActive = !d.receivedbye := by
      rw [← hBye]
      rfl
    have hUncounted : Uncounted s a csrc ↔ (!d.validated && !d.receivedbye) = true := by
      rw [Bool.and_eq_true, Bool.not_eq_true', Bool.not_eq_true']
      constructor
      · rintro ⟨e, hSome, hInvalid, hStays, -⟩
        rw [hLookup] at hSome
        cases hSome
        exact ⟨hInvalid, hStays⟩
      · rintro ⟨hInvalid, hStays⟩
        exact ⟨d, hLookup, hInvalid, hStays, by rw [hCheck]; rfl⟩
    rw [obtain_eq, hLookup, Option.getD_some] at hFound
    rw [hStep]
    refine ⟨(!d.validated && !d.receivedbye).toNat, hMoves.andThen ?_, ?_, fun hCounted => ?_⟩
    · apply moves_count hFound
      · rw [show d'.setCSRC.issender = d.issender from hSender]
      · rw [hActive, isActive]
        cases d.validated <;> cases d.receivedbye <;> simp
    · rw [hUncounted]
      cases !d.validated && !d.receivedbye <;> simp
    · refine uncounted_after hCounted (lookup_store hFound) rfl fun k hk => ?_
      exact (lookup_store_ne hk).trans (hOthers k hk)

theorem processCSRCs_spec (a : RTPAddress) (l : List (BitVec 32)) (s : RTPSources) :
    ∃ n : Nat, Moves s (l.foldl (processCSRC a) s) n ∧
      (n = 0 ↔ ∀ csrc ∈ l, ¬ Uncounted s a csrc) := by
  induction l generalizing s with
  | nil => exact ⟨0, moves_of_eq rfl rfl rfl rfl, by simp⟩
  | cons csrc l ih =>
    obtain ⟨n, hMoves, hZero, hSame⟩ := processCSRC_spec s a csrc
    obtain ⟨m, hRest, hZero'⟩ := ih (processCSRC a s csrc)
    refine ⟨n + m, hMoves.trans hRest, ?_⟩
    rw [Nat.add_eq_zero_iff, hZero, hZero', List.forall_mem_cons]
    refine and_congr_right fun hCounted => forall₂_congr fun k _ => not_congr ?_
    exact hSame hCounted k

/-- The packets that leave every active member counted. -/
def NamesCounted (s : RTPSources) (rtppack : RTPPacket) (a : RTPAddress) : Prop :=
  s.Admits true rtppack.ssrc a = true →
    ∀ csrc ∈ csrcs rtppack, csrc ≠ rtppack.ssrc → ¬ Uncounted s a csrc

theorem processRTPPacket_spec (s : RTPSources) (rtppack : RTPPacket) (receivetime : RTPTime)
    (a : RTPAddress) :
    ∃ n : Nat, Moves s (s.processRTPPacket rtppack receivetime a).1 n ∧
      (n = 0 ↔ s.NamesCounted rtppack a) := by
  obtain ⟨hMoves, hAdmits, hFound, hOthers⟩ := getSourceData_spec s true rtppack.ssrc a
  rw [NamesCounted, ← hAdmits]
  cases hAdmit : s.getSourceData true rtppack.ssrc a with
  | mk s₁ found =>
    rw [hAdmit] at hMoves hFound hOthers
    cases found with
    | none =>
      have hStep : (s.processRTPPacket rtppack receivetime a).1 = s₁ := by
        rw [processRTPPacket, hAdmit]
      rw [hStep]
      exact ⟨0, hMoves, iff_of_true rfl fun h => absurd h Bool.false_ne_true⟩
    | some d =>
      have hOld : lookup rtppack.ssrc s₁.sources = some d := hFound d rfl
      obtain ⟨hSender, hActive⟩ := flags_processRTPPacket d rtppack receivetime
      have hValidated := validated_processRTPPacket rtppack receivetime d
      let after := (d.processRTPPacket rtppack receivetime).1
      let s₂ := { s₁.store rtppack.ssrc after with
        sendercount :=
          if !d.issender && after.issender then s₁.sendercount + 1 else s₁.sendercount
        activecount :=
          if !d.isActive && after.isActive then s₁.activecount + 1 else s₁.activecount }
      have hStep : (s.processRTPPacket rtppack receivetime a).1 =
          (csrcs rtppack).foldl (processCSRC a) s₂ := by
        rw [processRTPPacket, hAdmit]
        dsimp only
        rw [if_pos hValidated]
      have hStore : Moves s₁ s₂ 0 :=
        moves_count hOld (count_up _ hSender) ((Int.add_zero _).trans (count_up _ hActive))
      obtain ⟨n, hNames, hZero⟩ := processCSRCs_spec a (csrcs rtppack) s₂
      rw [hStep]
      refine ⟨n, (hMoves.andThen hStore).andThen hNames, hZero.trans ?_⟩
      have hOwn : ¬ Uncounted s₂ a rtppack.ssrc := by
        rintro ⟨d', hHere, hInvalid, -⟩
        cases (lookup_store hOld).symm.trans hHere
        rw [hValidated] at hInvalid
        cases hInvalid
      have hSame : ∀ k, k ≠ rtppack.ssrc → lookup k s₂.sources = lookup k s.sources :=
        fun k hk => (lookup_store_ne hk).trans (hOthers k hk)
      constructor
      · intro h _ csrc hMem hNe
        rw [Uncounted, ← hSame csrc hNe]
        exact h csrc hMem
      · intro h csrc hMem
        by_cases hNe : csrc = rtppack.ssrc
        · rw [hNe]
          exact hOwn
        · rw [Uncounted, hSame csrc hNe]
          exact h rfl csrc hMem hNe

/-! ## The own source and the timeouts -/

theorem moves_createOwnSSRC (s : RTPSources) (ssrc : BitVec 32) :
    Moves s (s.createOwnSSRC ssrc).1 0 := by
  have hMoves := moves_obtain s ssrc
  have hFound := lookup_obtain s ssrc
  have hEq := obtain_eq s ssrc
  rw [createOwnSSRC]
  split
  · exact moves_of_eq rfl rfl rfl rfl
  · split
    · exact moves_of_eq rfl rfl rfl rfl
    · rename_i hNew
      have hNone : lookup ssrc s.sources = none := by
        rw [lookup_eq_none_iff]
        exact fun hMem => hNew (decide_eq_true hMem)
      have hCreated : (s.obtainSourceDataInstance ssrc).2 = (.new ssrc, true) := by
        rw [hEq, hNone]
        rfl
      rw [hCreated] at hFound
      have hStore : Moves (s.obtainSourceDataInstance ssrc).1
          { (s.obtainSourceDataInstance ssrc).1.store ssrc
              (((RTPInternalSourceData.new ssrc).setOwnSSRC.setDataAddress true none).setDataAddress
                false none) with
            activecount := (s.obtainSourceDataInstance ssrc).1.activecount + 1 } 0 := by
        apply moves_count hFound
        · rfl
        · simp [isActive, RTPInternalSourceData.new, setOwnSSRC, setDataAddress]
      have hOwn : ∀ s' : RTPSources, Moves s' { s' with owndata := some ssrc } 0 :=
        fun _ => moves_of_eq rfl rfl rfl rfl
      simp only [hCreated]
      exact (hMoves.andThen hStore).andThen (hOwn _)

theorem moves_deleteOwnSSRC (s : RTPSources) : Moves s s.deleteOwnSSRC.1 0 := by
  intro h
  rw [deleteOwnSSRC]
  cases hOwn : s.owndata with
  | none => exact moves_of_eq rfl rfl rfl rfl h
  | some ssrc =>
    cases hLookup : lookup ssrc s.sources with
    | none => simpa only [hLookup] using moves_of_eq rfl rfl rfl rfl h
    | some d =>
      obtain ⟨before, after, c, hSplit, hDelete⟩ := deleteElement_spec h.hKeys hLookup
      simp only [hLookup, hDelete]
      have hSources : s.sources = before ++ (ssrc, d) :: after := hSplit
      have hTally : ∀ p : RTPInternalSourceData → Bool,
          tally p s.sources = tally p (before ++ after) + (p d).toNat := by
        intro p
        rw [hSources, tally_append, tally_append, tally_cons]
        omega
      have hKeys := h.hKeys
      have hTotal := h.hTotal
      have hSenders := h.hSenders
      have hSender := hTally issender
      have hMember := hTally isActive
      refine ⟨⟨?_, ?_, ?_⟩, ?_⟩
      · rw [hSources, keys, List.map_append, List.map_cons, List.nodup_middle] at hKeys
        change ((before ++ after).map Prod.fst).Nodup
        rw [List.map_append]
        exact (List.nodup_cons.mp hKeys).2
      · rw [hSources, List.length_append, List.length_cons] at hTotal
        change s.totalcount - 1 = ((before ++ after).length : Int)
        rw [List.length_append]
        omega
      · change (if d.issender = true then s.sendercount - 1 else s.sendercount) =
          (tally issender (before ++ after) : Int)
        cases hFlag : d.issender <;> rw [hFlag] at hSender <;> simp at hSender ⊢ <;> omega
      · change (tally isActive (before ++ after) : Int) -
          (if d.isActive = true then s.activecount - 1 else s.activecount) = s.gap + (0 : Nat)
        rw [gap]
        cases hFlag : d.isActive <;> rw [hFlag] at hMember <;> simp at hMember ⊢ <;> omega

theorem moves_sentRTPPacket (s : RTPSources) (now : RTPTime) : Moves s (s.sentRTPPacket now) 0 := by
  rw [sentRTPPacket]
  cases s.owndata with
  | none => exact moves_of_eq rfl rfl rfl rfl
  | some ssrc =>
    cases hLookup : lookup ssrc s.sources with
    | none => simpa only [hLookup] using moves_of_eq rfl rfl rfl rfl
    | some d =>
      have hFlags : (d.issender = true → (d.sentRTPPacket now).issender = true) ∧
          (d.sentRTPPacket now).isActive = d.isActive := by
        rw [RTPInternalSourceData.sentRTPPacket]
        split
        · exact ⟨fun _ => rfl, rfl⟩
        · exact ⟨id, rfl⟩
      simp only [hLookup]
      apply moves_count hLookup
      · exact count_up _ hFlags.1
      · rw [hFlags.2]
        exact Int.add_zero _

section
variable {visit : BitVec 32 → RTPInternalSourceData → Option RTPInternalSourceData}

/-- The counts that the loop of a timeout ends with. -/
theorem foldl_timeoutStep
    (hActive : ∀ ssrc d d', visit ssrc d = some d' → d'.isActive = d.isActive)
    (l : List (BitVec 32 × RTPInternalSourceData)) (s : RTPSources) (new : NewCounts) :
    (l.foldl (timeoutStep visit) (s, new)).2 =
      ⟨new.newtotalcount + (kept visit l).length,
        new.newsendercount + tally issender (kept visit l),
        new.newactivecount + tally isActive (kept visit l)⟩ := by
  induction l generalizing s new with
  | nil => simp [kept, tally]
  | cons e l ih =>
    rw [List.foldl_cons, timeoutStep, kept_cons]
    cases hVisit : visit e.1 e.2 with
    | none => exact ih _ _
    | some d =>
      have hSame := hActive _ _ _ hVisit
      refine (ih _ _).trans ?_
      have hLength : ((some d).map fun d => (e.1, d)).toList ++ kept visit l =
          (e.1, d) :: kept visit l := rfl
      rw [hLength, tally_cons, tally_cons, hSame, List.length_cons]
      dsimp only
      congr 1
      · omega
      · cases d.issender <;> simp; omega
      · cases e.2.isActive <;> simp; omega

/-- Behind a timeout all counts are right, whatever they were. -/
theorem timeoutLoop_spec {s : RTPSources} (h : s.Sound)
    (hActive : ∀ ssrc d d', visit ssrc d = some d' → d'.isActive = d.isActive) :
    (s.timeoutLoop visit).Sound ∧ (s.timeoutLoop visit).gap = 0 := by
  have hSources := sources_timeoutLoop visit s
  have hCounts := foldl_timeoutStep hActive s.sources { s with sourcelist := ⟨[], .nowhere⟩ }
    ⟨0, 0, 0⟩
  refine ⟨⟨?_, ?_, ?_⟩, ?_⟩
  · rw [hSources]
    exact (keys_kept s.sources).nodup h.hKeys
  · rw [hSources, timeoutLoop]
    dsimp only
    rw [hCounts]
    exact Int.zero_add _
  · rw [hSources, timeoutLoop]
    dsimp only
    rw [hCounts]
    exact Int.zero_add _
  · rw [gap, hSources, timeoutLoop]
    dsimp only
    rw [hCounts]
    dsimp only
    omega

end

/-! ## Every call -/

theorem moves_getNextPacket {s : RTPSources} {x : RTPSources × Option RTPPacket}
    (h : s.getNextPacket = some x) : Moves s x.1 0 := by
  obtain ⟨ssrc, d, -, hLookup, rfl⟩ | rfl := getNextPacket_cases h
  · have hFlags : d.getNextPacket.1.issender = d.issender ∧
        d.getNextPacket.1.isActive = d.isActive := by
      rw [RTPInternalSourceData.getNextPacket]
      split
      · split <;> exact ⟨rfl, rfl⟩
      · exact ⟨rfl, rfl⟩
    exact moves_store hLookup hFlags.1 hFlags.2
  · exact moves_of_eq rfl rfl rfl rfl

/-- The calls that leave every active member counted. -/
def Counts (s : RTPSources) : SourcesCall → Prop
  | .processRTPPacket rtppack _ senderaddress => s.NamesCounted rtppack senderaddress
  | _ => True

/-- What a call does to the counts: all are right behind a timeout, and otherwise a packet may leave
active members uncounted. -/
theorem perform_spec {s s' : RTPSources} {e : SourcesCall} (h : s.Sound)
    (hStep : s.perform e = some s') : s'.Sound ∧
      (s'.gap = 0 ∧ s.Counts e ∨ ∃ n : Nat, s'.gap = s.gap + n ∧ (n = 0 ↔ s.Counts e)) := by
  have hMove : ∀ s'' : RTPSources, s.Counts e → Moves s s'' 0 → s''.Sound ∧
      (s''.gap = 0 ∧ s.Counts e ∨ ∃ n : Nat, s''.gap = s.gap + n ∧ (n = 0 ↔ s.Counts e)) := by
    intro s'' hCounts hMoves
    obtain ⟨hSound, hGap⟩ := hMoves h
    exact ⟨hSound, Or.inr ⟨0, hGap, iff_of_true rfl hCounts⟩⟩
  have hCursor : s.Counts e → movesCursor e = true → s'.Sound ∧
      (s'.gap = 0 ∧ s.Counts e ∨ ∃ n : Nat, s'.gap = s.gap + n ∧ (n = 0 ↔ s.Counts e)) := by
    intro hCounts hCursor
    obtain ⟨t, ht, rfl⟩ := perform_cursor hCursor hStep
    exact hMove _ hCounts (moves_of_eq ht rfl rfl rfl)
  have hTimeout : s.Counts e → isTimeout e = true → s'.Sound ∧
      (s'.gap = 0 ∧ s.Counts e ∨ ∃ n : Nat, s'.gap = s.gap + n ∧ (n = 0 ↔ s.Counts e)) := by
    intro hCounts hTimeout
    obtain ⟨visit, rfl, hVisit⟩ := perform_timeout hTimeout hStep
    have hActive : ∀ ssrc d d', visit ssrc d = some d' → d'.isActive = d.isActive := by
      intro ssrc d d' hKept
      rw [hVisit ssrc d d' hKept]
      rfl
    obtain ⟨hSound, hGap⟩ := timeoutLoop_spec h hActive
    exact ⟨hSound, Or.inl ⟨hGap, hCounts⟩⟩
  cases e with
  | clear =>
    cases hStep
    exact ⟨⟨List.nodup_nil, rfl, rfl⟩, Or.inl ⟨rfl, trivial⟩⟩
  | createOwnSSRC ssrc =>
    cases hStep
    exact hMove _ trivial (moves_createOwnSSRC s ssrc)
  | deleteOwnSSRC =>
    cases hStep
    exact hMove _ trivial (moves_deleteOwnSSRC s)
  | sentRTPPacket now =>
    cases hStep
    exact hMove _ trivial (moves_sentRTPPacket s now)
  | clearOwnCollisionFlag =>
    cases hStep
    exact hMove _ trivial (moves_of_eq rfl rfl rfl rfl)
  | processRTPPacket p t a =>
    cases hStep
    obtain ⟨n, hMoves, hZero⟩ := processRTPPacket_spec s p t a
    obtain ⟨hSound, hGap⟩ := hMoves h
    exact ⟨hSound, Or.inr ⟨n, hGap, hZero⟩⟩
  | processRTCPCompoundPacket ps t a =>
    cases hStep
    exact hMove _ trivial ((messageRel_moves t a).compound ps s)
  | timeout | senderTimeout | byeTimeout | noteTimeout | multipleTimeouts =>
    exact hTimeout trivial rfl
  | gotoFirstSource | gotoNextSource | gotoPreviousSource | gotoFirstSourceWithData =>
    exact hCursor trivial rfl
  | gotoNextSourceWithData | gotoPreviousSourceWithData | getSourceInfo =>
    exact hCursor trivial rfl
  | getNextPacket =>
    obtain ⟨x, hGet, rfl⟩ := Option.map_eq_some_iff.mp hStep
    exact hMove _ trivial (moves_getNextPacket hGet)

theorem sound_new : new.Sound := ⟨List.nodup_nil, rfl, rfl⟩

/-- Each source is there once, the numbers of sources and senders are right, and there are no fewer
active members than are counted. -/
structure Counted (s : RTPSources) : Prop where
  hOnce : (keys s.sources).Nodup
  hTotal : s.totalcount = s.sources.length
  hSenders : s.sendercount = tally issender s.sources
  hActive : s.activecount ≤ tally isActive s.sources

theorem always_counted (es : List SourcesCall) : Always perform Counted new es := by
  have hKeep {s s' : RTPSources} {e : SourcesCall} (h : s.Sound ∧ 0 ≤ s.gap)
      (hStep : s.perform e = some s') : s'.Sound ∧ 0 ≤ s'.gap := by
    obtain ⟨hSound, ⟨hGap, -⟩ | ⟨n, hGap, -⟩⟩ := perform_spec h.1 hStep
    · exact ⟨hSound, Int.le_of_eq hGap.symm⟩
    · have hBefore := h.2
      exact ⟨hSound, by omega⟩
  refine always_of_invariant hKeep ?_ ⟨sound_new, Int.le_refl 0⟩
  rintro s ⟨hSound, hGap⟩
  refine ⟨hSound.hKeys, hSound.hTotal, hSound.hSenders, ?_⟩
  rw [gap] at hGap
  omega

/-- A receiver report, and then the packet of a mixer that names its sender: the second active member
is not counted. -/
example : (run perform new [.processRTCPCompoundPacket [.rr 5 []] ⟨0, 0⟩ (some ⟨2, 4001⟩),
    .processRTPPacket ⟨false, false, 1, 96, 1, 0, 1, List.replicate 12 0 ++ [0, 0, 0, 5], 16, 0,
      0, 0, 0⟩ ⟨0, 0⟩ (some ⟨2, 4000⟩)]).map
      (fun s => (s.activecount, tally isActive s.sources)) = some (1, 2) := by decide +kernel

def ActiveCounted (s : RTPSources) : Prop := s.activecount = tally isActive s.sources

/-- The number of active members is right at every moment exactly in the runs in which no packet
names, as contributing, a source that is there, is not valid yet and has not said goodbye. -/
theorem always_activeCounted_iff (es : List SourcesCall) :
    Always perform ActiveCounted new es ↔ Meets perform Counts new es := by
  have hZero : ∀ s : RTPSources, s.ActiveCounted ↔ s.gap = 0 := by
    intro s
    rw [ActiveCounted, gap]
    omega
  have hKeep {s s' : RTPSources} {e : SourcesCall} (h : s.Sound) (_ : s.ActiveCounted)
      (hStep : s.perform e = some s') (_ : s'.ActiveCounted) : s'.Sound :=
    (perform_spec h hStep).1
  have hExact {s s' : RTPSources} {e : SourcesCall} (h : s.Sound) (hBefore : s.ActiveCounted)
      (hStep : s.perform e = some s') : s'.ActiveCounted ↔ s.Counts e := by
    rw [hZero] at hBefore ⊢
    obtain ⟨-, ⟨hGap, hCounts⟩ | ⟨n, hGap, hCounts⟩⟩ := perform_spec h hStep
    · exact iff_of_true hGap hCounts
    · rw [hGap, hBefore, ← hCounts]
      omega
  exact always_iff_meets hKeep hExact sound_new rfl

end RTPSources
end LocalCall.Jrtp
