import LocalCall.Jrtp.SourceTable

/-! # What a call does to the sources

A message tends the sources: it leaves their packets and their addresses, and takes no source out.
Beyond that there are only three changes: a packet is queued, a packet is polled, and sources are
taken out.
-/
namespace LocalCall.Jrtp
set_option autoImplicit false

open Dictionary

namespace RTPInternalSourceData

variable {d d' d'' : RTPInternalSourceData}

/-- The two addresses of a source are on one host, or both its own. -/
def SameHost (d : RTPInternalSourceData) : Prop :=
  ∀ a b, d.rtpaddr = some a → d.rtcpaddr = some b →
    a.map Jni.RTPIPv4Address.ip = b.map Jni.RTPIPv4Address.ip

structure Tends (d d' : RTPInternalSourceData) : Prop where
  hAddress : ∀ a, d.rtpaddr = some a → d'.rtpaddr = some a
  hRtcp : ∀ a, d.rtcpaddr = some a → d'.rtcpaddr = some a
  hHost : d.SameHost → d'.SameHost
  hValidated : d.validated = true → d'.validated = true
  hQueue : d'.packetlist = d.packetlist

theorem Tends.refl (d : RTPInternalSourceData) : Tends d d :=
  ⟨fun _ => id, fun _ => id, id, id, rfl⟩

theorem Tends.trans (h : Tends d d') (h' : Tends d' d'') : Tends d d'' where
  hAddress a ha := h'.hAddress a (h.hAddress a ha)
  hRtcp a ha := h'.hRtcp a (h.hRtcp a ha)
  hHost hSame := h'.hHost (h.hHost hSame)
  hValidated hValid := h'.hValidated (h.hValidated hValid)
  hQueue := h'.hQueue.trans h.hQueue

theorem tends_of_eq (hRtp : d'.rtpaddr = d.rtpaddr) (hRtcp : d'.rtcpaddr = d.rtcpaddr)
    (hValidated : d.validated = true → d'.validated = true)
    (hQueue : d'.packetlist = d.packetlist) : Tends d d' where
  hAddress a h := hRtp.trans h
  hRtcp a h := hRtcp.trans h
  hHost h := by rwa [SameHost, hRtp, hRtcp]
  hValidated := hValidated
  hQueue := hQueue

theorem dataAddress_setDataAddress (isrtp : Bool) (a : RTPAddress) :
    (d.setDataAddress isrtp a).dataAddress isrtp = some a := by
  cases isrtp <;> rfl

/-- The first address of its kind may be set where the other one is on the same host. -/
theorem tends_setDataAddress {isrtp : Bool} {a : RTPAddress}
    (hUnset : d.dataAddress isrtp = none)
    (hOther : ∀ b, d.dataAddress (!isrtp) = some b →
      a.map Jni.RTPIPv4Address.ip = b.map Jni.RTPIPv4Address.ip) :
    Tends d (d.setDataAddress isrtp a) where
  hAddress b hb := by
    cases isrtp with
    | true => cases hUnset.symm.trans hb
    | false => exact hb
  hRtcp b hb := by
    cases isrtp with
    | true => exact hb
    | false => cases hUnset.symm.trans hb
  hHost hSame := by
    intro b c hb hc
    cases isrtp with
    | true =>
      cases hb
      exact hOther c hc
    | false =>
      cases hc
      exact (hOther b hb).symm
  hValidated h := by cases isrtp <;> exact h
  hQueue := by cases isrtp <;> rfl

theorem checkCollision_spec {isrtp : Bool} {a : RTPAddress}
    (h : d.checkCollision a isrtp = some d') :
    Tends d d' ∧ d'.dataAddress isrtp = some a := by
  have hSet : d.dataAddress isrtp = none → (∀ b, d.dataAddress (!isrtp) = some b →
      a.map Jni.RTPIPv4Address.ip = b.map Jni.RTPIPv4Address.ip) →
      Tends d (d.setDataAddress isrtp a) ∧
        (d.setDataAddress isrtp a).dataAddress isrtp = some a :=
    fun hUnset hOther =>
      ⟨tends_setDataAddress hUnset hOther, dataAddress_setDataAddress isrtp a⟩
  have hKeep : d.dataAddress isrtp = some a →
      Tends d d ∧ d.dataAddress isrtp = some a :=
    fun hHere => ⟨Tends.refl d, hHere⟩
  rw [checkCollision] at h
  cases hOwn : d.dataAddress isrtp with
  | none =>
    rw [hOwn] at h
    cases hElse : d.dataAddress (!isrtp) with
    | none =>
      rw [hElse] at h
      cases h
      apply hSet hOwn
      intro b hb
      cases hElse.symm.trans hb
    | some other =>
      rw [hElse] at h
      cases other with
      | none =>
        cases a with
        | some a => cases h
        | none =>
          cases h
          apply hSet hOwn
          intro b hb
          cases hElse.symm.trans hb
          rfl
      | some other =>
        cases a with
        | none => cases h
        | some a =>
          simp only [isFromSameHost, decide_eq_true_eq] at h
          split at h
          · rename_i hIp
            cases h
            apply hSet hOwn
            intro b hb
            cases hElse.symm.trans hb
            exact congrArg some hIp
          · cases h
  | some own =>
    rw [hOwn] at h
    cases own with
    | none =>
      cases a with
      | some a => cases h
      | none =>
        cases h
        exact hKeep hOwn
    | some own =>
      cases a with
      | none => cases h
      | some a =>
        simp only [isSameAddress, Bool.and_eq_true, decide_eq_true_eq] at h
        split at h
        · rename_i hSame
          cases h
          obtain ⟨ip, port⟩ := own
          obtain ⟨ip', port'⟩ := a
          obtain ⟨rfl, rfl⟩ : ip' = ip ∧ port' = port := hSame
          exact hKeep hOwn
        · cases h

theorem tends_setItem (item : SDESItem) (data : List UInt8) :
    Tends d (d.setItem item data).1 := by
  rw [setItem]
  split
  · exact Tends.refl d
  · exact tends_of_eq rfl rfl id rfl

theorem tends_processSDESItem (sdesid : SDESItem) (data : List UInt8) (receivetime : RTPTime) :
    Tends d (d.processSDESItem sdesid data receivetime).1 := by
  have hHeard : Tends d (d.setLastMessageTime receivetime) :=
    tends_of_eq rfl rfl id rfl
  have hNoted : Tends d
      ((d.setLastMessageTime receivetime).setLastNoteTime receivetime) :=
    tends_of_eq rfl rfl id rfl
  have hSet := hHeard.trans (tends_setItem sdesid data)
  cases sdesid with
  | cname =>
    rw [processSDESItem]
    dsimp only
    split
    · exact hSet.trans (tends_of_eq rfl rfl (fun _ => rfl) rfl)
    · exact hHeard
  | phone => exact hSet
  | location => exact hSet
  | note => exact hNoted.trans (tends_setItem .note data)
  | name | email | tool =>
    rw [processSDESItem]
    split
    · exact hSet
    · exact hHeard

theorem tends_aged (h : RTPSources.Aged d d') : Tends d d' := by
  rw [h]
  exact tends_of_eq rfl rfl id rfl

end RTPInternalSourceData

namespace RTPSources

open RTPInternalSourceData

variable {s s' s'' : RTPSources}

/-- Sources enter at the end of the table, and those that were there are tended. -/
structure Keeps (s s' : RTPSources) : Prop where
  hKeys : ∃ entered, keys s'.sources = keys s.sources ++ entered
  hSources : ∀ k d', lookup k s'.sources = some d' →
    Tends ((lookup k s.sources).getD (.new k)) d'

theorem keeps_of_eq (h : s'.sources = s.sources) : Keeps s s' := by
  refine ⟨⟨[], by rw [h, List.append_nil]⟩, fun k d' hd' => ?_⟩
  rw [h] at hd'
  rw [hd']
  exact Tends.refl d'

theorem Keeps.none (h : Keeps s s') {k : BitVec 32} (hNone : lookup k s'.sources = none) :
    lookup k s.sources = none := by
  obtain ⟨entered, hKeys⟩ := h.hKeys
  rw [lookup_eq_none_iff] at hNone ⊢
  rw [hKeys] at hNone
  exact fun hk => hNone (List.mem_append_left _ hk)

theorem Keeps.extend (h : Keeps s s') {k : BitVec 32} {d : RTPInternalSourceData}
    (hTends : Tends ((lookup k s'.sources).getD (.new k)) d) :
    Tends ((lookup k s.sources).getD (.new k)) d := by
  cases hMid : lookup k s'.sources with
  | some d' =>
    rw [hMid] at hTends
    exact (h.hSources k d' hMid).trans hTends
  | none =>
    rw [h.none hMid]
    rwa [hMid] at hTends

theorem Keeps.trans (h : Keeps s s') (h' : Keeps s' s'') : Keeps s s'' := by
  refine ⟨?_, fun k d'' hd'' => h.extend (h'.hSources k d'' hd'')⟩
  obtain ⟨entered, hKeys⟩ := h.hKeys
  obtain ⟨entered', hKeys'⟩ := h'.hKeys
  exact ⟨entered ++ entered', by rw [hKeys', hKeys, List.append_assoc]⟩

theorem Keeps.stays (h : Keeps s s') {k : BitVec 32} {d : RTPInternalSourceData}
    (hLookup : lookup k s.sources = some d) :
    ∃ d', lookup k s'.sources = some d' ∧ Tends d d' := by
  cases hLater : lookup k s'.sources with
  | none => cases (h.none hLater).symm.trans hLookup
  | some d' =>
    have hTends := h.hSources k d' hLater
    rw [hLookup] at hTends
    exact ⟨d', rfl, hTends⟩

theorem keeps_store {ssrc : BitVec 32} {d d' : RTPInternalSourceData}
    (hOld : lookup ssrc s.sources = some d) (hTends : Tends d d')
    (hSources : s'.sources = Dictionary.store ssrc d' s.sources) : Keeps s s' := by
  refine ⟨⟨[], by rw [hSources, keys_store, List.append_nil]⟩, fun k e he => ?_⟩
  rw [hSources] at he
  by_cases hk : k = ssrc
  · subst hk
    cases (lookup_store_self (mem_keys_of_lookup hOld)).symm.trans he
    rwa [hOld]
  · rw [lookup_store_ne hk] at he
    rw [he]
    exact Tends.refl e

theorem keeps_obtain (s : RTPSources) (ssrc : BitVec 32) :
    Keeps s (s.obtainSourceDataInstance ssrc).1 := by
  refine ⟨?_, fun k d' hd' => ?_⟩
  · rw [sources_obtain]
    split
    · exact ⟨[ssrc], by rw [keys, List.map_append]; rfl⟩
    · exact ⟨[], (List.append_nil _).symm⟩
  · by_cases hEq : k = ssrc
    · subst hEq
      cases (lookup_obtain s k).symm.trans hd'
      rw [obtain_eq]
      exact Tends.refl _
    · rw [lookup_obtain_ne s ssrc hEq] at hd'
      rw [hd']
      exact Tends.refl d'

/-- Who gets through to a source has the address of the source. -/
theorem keeps_getSourceData (s : RTPSources) (isrtp : Bool) (ssrc : BitVec 32) (a : RTPAddress) :
    Keeps s (s.getSourceData isrtp ssrc a).1 ∧
      ∀ d, (s.getSourceData isrtp ssrc a).2 = some d → d.dataAddress isrtp = some a ∧
        lookup ssrc (s.getSourceData isrtp ssrc a).1.sources = some d := by
  have hObtain := keeps_obtain s ssrc
  have hFound := lookup_obtain s ssrc
  obtain ⟨hLookup, hGet⟩ | ⟨d, hLookup, hCheck, hGet⟩ | ⟨d, d', hLookup, hCheck, hGet⟩ :=
    getSourceData_cases s isrtp ssrc a
  · rw [obtain_eq, hLookup] at hFound
    have hUnset : ∀ b, (RTPInternalSourceData.new ssrc).dataAddress b = none := by
      intro b
      cases b <;> rfl
    have hFirst : Tends (.new ssrc) ((RTPInternalSourceData.new ssrc).setDataAddress isrtp a) := by
      apply tends_setDataAddress (hUnset isrtp)
      intro b hb
      cases (hUnset _).symm.trans hb
    rw [hGet]
    refine ⟨hObtain.trans (keeps_store hFound hFirst rfl), ?_⟩
    rintro d ⟨⟩
    exact ⟨dataAddress_setDataAddress isrtp a, lookup_store hFound⟩
  · rw [hGet]
    refine ⟨hObtain.trans (keeps_of_eq rfl), ?_⟩
    rintro d ⟨⟩
  · obtain ⟨hTends, hAddress⟩ := checkCollision_spec hCheck
    rw [obtain_eq, hLookup] at hFound
    rw [hGet]
    refine ⟨hObtain.trans (keeps_store hFound hTends rfl), ?_⟩
    rintro d ⟨⟩
    exact ⟨hAddress, lookup_store hFound⟩

/-! ## Messages -/

section Messages

variable {receivetime : RTPTime} {a : RTPAddress} {m : RTCPMessage}

/-- A message replaces the entry of its receiver, if it gets through. -/
theorem tell_cases {ssrc : BitVec 32} (s : RTPSources) (hReceiver : m.receiver = some ssrc) :
    (s.tell receivetime a m).1.sources = (s.getSourceData false ssrc a).1.sources ∨
      ∃ d d', (s.getSourceData false ssrc a).2 = some d ∧ Tends d d' ∧
        (s.tell receivetime a m).1.sources =
          Dictionary.store ssrc d' (s.getSourceData false ssrc a).1.sources := by
  cases m with
  | heard ssrc =>
    cases hReceiver
    rw [tell, updateReceiveTime, getRTCPSourceData]
    cases hGet : s.getSourceData false ssrc a with
    | mk s₁ found =>
      cases found with
      | none => exact Or.inl rfl
      | some d =>
        exact Or.inr
          ⟨d, d.setLastMessageTime receivetime, rfl, tends_of_eq rfl rfl id rfl, rfl⟩
  | item ssrc t data =>
    cases t with
    | priv => cases hReceiver
    | unknown => cases hReceiver
    | item sdesid =>
      cases hReceiver
      rw [tell, processSDESNormalItem, getRTCPSourceData]
      cases hGet : s.getSourceData false ssrc a with
      | mk s₁ found =>
        cases found with
        | none => exact Or.inl rfl
        | some d =>
          exact Or.inr ⟨d, _, rfl, tends_processSDESItem sdesid data receivetime, rfl⟩
  | bye ssrc reason =>
    cases hReceiver
    rw [tell, processBYE, getRTCPSourceData]
    cases hGet : s.getSourceData false ssrc a with
    | mk s₁ found =>
      cases found with
      | none => exact Or.inl rfl
      | some d =>
        dsimp only
        split
        · exact Or.inl rfl
        · exact Or.inr
            ⟨d, d.processBYEPacket reason receivetime, rfl, tends_of_eq rfl rfl id rfl, rfl⟩

theorem tell_of_receiver_eq_none (s : RTPSources) (hReceiver : m.receiver = none) :
    s.tell receivetime a m = (s, false) := by
  cases m with
  | heard ssrc => cases hReceiver
  | bye ssrc reason => cases hReceiver
  | item ssrc t data =>
    cases t with
    | item sdesid => cases hReceiver
    | priv => rfl
    | unknown => rfl

theorem keeps_tell (s : RTPSources) (m : RTCPMessage) : Keeps s (s.tell receivetime a m).1 := by
  cases hReceiver : m.receiver with
  | none =>
    rw [tell_of_receiver_eq_none s hReceiver]
    exact keeps_of_eq rfl
  | some ssrc =>
    obtain ⟨hKeeps, hFound⟩ := keeps_getSourceData s false ssrc a
    rcases tell_cases s hReceiver with hSame | ⟨d, d', hGot, hTends, hStore⟩
    · exact hKeeps.trans (keeps_of_eq hSame)
    · exact hKeeps.trans (keeps_store (hFound d hGot).2 hTends hStore)

theorem rtcpaddr_tell {ssrc : BitVec 32} (s : RTPSources) (hReceiver : m.receiver = some ssrc)
    (hThrough : (s.getRTCPSourceData ssrc a).2.isSome = true) :
    ∃ d, lookup ssrc (s.tell receivetime a m).1.sources = some d ∧ d.rtcpaddr = some a := by
  obtain ⟨-, hFound⟩ := keeps_getSourceData s false ssrc a
  obtain ⟨d, hGot⟩ := Option.isSome_iff_exists.mp hThrough
  obtain ⟨hAddress, hLookup⟩ := hFound d hGot
  rcases tell_cases s hReceiver with hSame | ⟨d₁, d', hGot', hTends, hStore⟩
  · exact ⟨d, hSame ▸ hLookup, hAddress⟩
  · cases hGot.symm.trans hGot'
    rw [hStore]
    exact ⟨d', lookup_store_self (mem_keys_of_lookup hLookup), hTends.hRtcp a hAddress⟩

theorem messageRel_keeps (receivetime : RTPTime) (a : RTPAddress) :
    MessageRel receivetime a Keeps where
  hRefl _ := keeps_of_eq rfl
  hTrans _ _ _ h h' := h.trans h'
  hTell := keeps_tell

/-- The sources that the messages get through to, as long as none is in error. -/
def gotThrough (receivetime : RTPTime) (a : RTPAddress) :
    List RTCPMessage → RTPSources → List (BitVec 32)
  | [], _ => []
  | m :: ms, s =>
    (m.receiver.toList.filter fun ssrc => (s.getRTCPSourceData ssrc a).2.isSome) ++
      match s.tell receivetime a m with
      | (_, false) => []
      | (s, true) => gotThrough receivetime a ms s

theorem rtcpaddr_gotThrough {ms : List RTCPMessage} {s : RTPSources} {ssrc : BitVec 32}
    (h : ssrc ∈ gotThrough receivetime a ms s) :
    ∃ d, lookup ssrc (tellAll receivetime a ms s).1.sources = some d ∧ d.rtcpaddr = some a := by
  induction ms generalizing s with
  | nil => cases h
  | cons m ms ih =>
    rw [gotThrough] at h
    rw [tellAll]
    have hTold : ∀ ssrc ∈ m.receiver.toList.filter
        fun ssrc => (s.getRTCPSourceData ssrc a).2.isSome,
        ∃ d, lookup ssrc (s.tell receivetime a m).1.sources = some d ∧ d.rtcpaddr = some a := by
      intro ssrc hMem
      obtain ⟨hReceiver, hThrough⟩ := List.mem_filter.mp hMem
      exact rtcpaddr_tell s (Option.mem_toList.mp hReceiver) hThrough
    cases hTell : s.tell receivetime a m with
    | mk s₁ ok =>
      rw [hTell] at h hTold
      rcases List.mem_append.mp h with hHere | hRest
      · obtain ⟨d, hLookup, hAddress⟩ := hTold ssrc hHere
        cases ok with
        | false => exact ⟨d, hLookup, hAddress⟩
        | true =>
          have hKeeps := (messageRel_keeps receivetime a).tellAll ms s₁
          obtain ⟨d', hLater, hTends⟩ := hKeeps.stays hLookup
          exact ⟨d', hLater, hTends.hRtcp a hAddress⟩
      · cases ok with
        | false => cases hRest
        | true => exact ih hRest

end Messages

theorem keeps_processCSRC (a : RTPAddress) (s : RTPSources) (csrc : BitVec 32) :
    Keeps s (processCSRC a s csrc) := by
  have hObtain : Keeps s (s.obtainSourceDataInstance csrc).1 := keeps_obtain s csrc
  have hFound := lookup_obtain s csrc
  obtain ⟨hLookup, hStep⟩ | ⟨d, hLookup, hCheck, hStep⟩ | ⟨d, d', hLookup, hCheck, hStep⟩ :=
    processCSRC_cases s a csrc
  · rw [obtain_eq, hLookup] at hFound
    have hSet : Tends (.new csrc) (RTPInternalSourceData.new csrc).setCSRC :=
      tends_of_eq rfl rfl (fun _ => rfl) rfl
    rw [hStep]
    exact hObtain.trans (keeps_store hFound hSet rfl)
  · rw [hStep]
    exact hObtain.trans (keeps_of_eq rfl)
  · rw [obtain_eq, hLookup] at hFound
    rw [hStep]
    have hSet : Tends d' d'.setCSRC := tends_of_eq rfl rfl (fun _ => rfl) rfl
    exact hObtain.trans (keeps_store hFound ((checkCollision_spec hCheck).1.trans hSet) rfl)

theorem keeps_processCSRCs (a : RTPAddress) (l : List (BitVec 32)) (s : RTPSources) :
    Keeps s (l.foldl (processCSRC a) s) := by
  induction l generalizing s with
  | nil => exact keeps_of_eq rfl
  | cons csrc l ih => exact (keeps_processCSRC a s csrc).trans (ih _)

theorem keeps_createOwnSSRC (s : RTPSources) (ssrc : BitVec 32) :
    Keeps s (s.createOwnSSRC ssrc).1 := by
  have hObtain : Keeps s (s.obtainSourceDataInstance ssrc).1 := keeps_obtain s ssrc
  have hFound := lookup_obtain s ssrc
  rw [createOwnSSRC]
  split
  · exact keeps_of_eq rfl
  · split
    · exact keeps_of_eq rfl
    · rename_i hNew
      have hNone : lookup ssrc s.sources = none := by
        rw [lookup_eq_none_iff]
        exact fun hMem => hNew (decide_eq_true hMem)
      rw [obtain_eq, hNone] at hFound
      have hOwn : Tends (.new ssrc)
          (((RTPInternalSourceData.new ssrc).setOwnSSRC.setDataAddress true none).setDataAddress
            false none) := by
        refine ⟨fun a ha => ?_, fun a ha => ?_, fun _ => ?_, fun _ => rfl, rfl⟩
        · cases ha
        · cases ha
        · rintro a b ⟨⟩ ⟨⟩
          rfl
      have hCreated : (s.obtainSourceDataInstance ssrc).2 = (.new ssrc, true) := by
        rw [obtain_eq, hNone]
        rfl
      simp only [hCreated]
      exact hObtain.trans (keeps_store hFound hOwn rfl)

theorem keeps_sentRTPPacket (s : RTPSources) (now : RTPTime) :
    Keeps s (s.sentRTPPacket now) := by
  rw [sentRTPPacket]
  cases s.owndata with
  | none => exact keeps_of_eq rfl
  | some ssrc =>
    cases hLookup : lookup ssrc s.sources with
    | none => simpa only [hLookup] using keeps_of_eq rfl
    | some d =>
      have hSent : Tends d (d.sentRTPPacket now) := by
        rw [RTPInternalSourceData.sentRTPPacket]
        split <;> exact tends_of_eq rfl rfl id rfl
      simp only [hLookup]
      exact keeps_store hLookup hSent rfl

/-! ## Every call -/

/-- The packet that a call queues, with the number that it is given, and for which source. -/
def stored (s : RTPSources) : SourcesCall → List (BitVec 32 × RTPPacket)
  | .processRTPPacket rtppack receivetime senderaddress =>
    match s.getSourceData true rtppack.ssrc senderaddress with
    | (_, none) => []
    | (_, some d) =>
      if (d.processRTPPacket rtppack receivetime).2 then
        [(rtppack.ssrc, d.numbered rtppack receivetime)] else []
  | _ => []

def handedOut (s : RTPSources) : SourcesCall → List (BitVec 32 × RTPPacket)
  | .getNextPacket => ((current s.sourcelist).bind fun e =>
      (s.getNextPacket.bind Prod.snd).map fun q => (e.1, q)).toList
  | _ => []

/-- What a call does to the sources. -/
inductive Changes (s s' : RTPSources) : SourcesCall → Prop where
  | tended {e : SourcesCall} (hKeeps : Keeps s s') (hStored : s.stored e = [])
      (hOut : s.handedOut e = []) : Changes s s' e
  | queued {rtppack : RTPPacket} {receivetime : RTPTime} {a : RTPAddress} {s₁ s₂ : RTPSources}
      {d : RTPInternalSourceData}
      (hGet : s.getSourceData true rtppack.ssrc a = (s₁, some d)) (hBefore : Keeps s s₁)
      (hAddress : d.rtpaddr = some a) (hLookup : lookup rtppack.ssrc s₁.sources = some d)
      (hQueued : s₂.sources =
        Dictionary.store rtppack.ssrc (d.processRTPPacket rtppack receivetime).1 s₁.sources)
      (hAfter : Keeps s₂ s') : Changes s s' (.processRTPPacket rtppack receivetime a)
  | polled {ssrc : BitVec 32} {d : RTPInternalSourceData}
      (hLookup : lookup ssrc s.sources = some d)
      (hOut : s.handedOut .getNextPacket = (d.getNextPacket.2.map fun q => (ssrc, q)).toList)
      (hSources : s'.sources = Dictionary.store ssrc d.getNextPacket.1 s.sources) :
      Changes s s' .getNextPacket
  | removed {e : SourcesCall}
      (visit : BitVec 32 → RTPInternalSourceData → Option RTPInternalSourceData)
      (hSources : s'.sources = kept visit s.sources)
      (hTends : ∀ k d d', visit k d = some d' → Tends d d') (hStored : s.stored e = [])
      (hOut : s.handedOut e = []) : Changes s s' e

theorem changes_processRTPPacket (s : RTPSources) (rtppack : RTPPacket) (receivetime : RTPTime)
    (a : RTPAddress) : Changes s (s.processRTPPacket rtppack receivetime a).1
      (.processRTPPacket rtppack receivetime a) := by
  obtain ⟨hKeeps, hFound⟩ := keeps_getSourceData s true rtppack.ssrc a
  rw [processRTPPacket]
  cases hGet : s.getSourceData true rtppack.ssrc a with
  | mk s₁ found =>
    rw [hGet] at hKeeps hFound
    cases found with
    | none =>
      refine .tended hKeeps ?_ rfl
      rw [stored, hGet]
    | some d =>
      obtain ⟨hAddress, hLookup⟩ := hFound d rfl
      dsimp only
      split
      · exact .queued hGet hKeeps hAddress hLookup rfl (keeps_processCSRCs a (csrcs rtppack) _)
      · exact .queued hGet hKeeps hAddress hLookup rfl (keeps_of_eq rfl)

theorem changes_deleteOwnSSRC (hKeys : (keys s.sources).Nodup) :
    Changes s s.deleteOwnSSRC.1 .deleteOwnSSRC := by
  rw [deleteOwnSSRC]
  cases s.owndata with
  | none => exact .tended (keeps_of_eq rfl) rfl rfl
  | some ssrc =>
    cases hLookup : lookup ssrc s.sources with
    | none =>
      simp only [hLookup]
      exact .tended (keeps_of_eq rfl) rfl rfl
    | some d =>
      obtain ⟨before, after, c, hSplit, hDelete⟩ := deleteElement_spec hKeys hLookup
      simp only [hLookup, hDelete]
      have hSources : s.sources = before ++ (ssrc, d) :: after := hSplit
      refine .removed (fun k d => if k = ssrc then none else some d) ?_ ?_ rfl rfl
      · have hOthers : ∀ l : List (BitVec 32 × RTPInternalSourceData), ssrc ∉ keys l →
            kept (fun k d => if k = ssrc then none else some d) l = l := by
          intro l hl
          induction l with
          | nil => rfl
          | cons e l ih =>
            have hNe : e.1 ≠ ssrc := fun hEq => hl (hEq ▸ List.mem_cons_self)
            rw [kept_cons, if_neg hNe, ih fun hMem => hl (List.mem_cons_of_mem _ hMem)]
            rfl
        rw [hSources, keys, List.map_append, List.map_cons, List.nodup_middle] at hKeys
        have hFresh := (List.nodup_cons.mp hKeys).1
        rw [List.mem_append, not_or] at hFresh
        have hAppend : kept (fun k d => if k = ssrc then none else some d)
            (before ++ (ssrc, d) :: after) = before ++ after := by
          have hHere : kept (fun k d => if k = ssrc then none else some d)
              ((ssrc, d) :: after) = after := by
            rw [kept_cons, if_pos rfl, hOthers after hFresh.2]
            rfl
          rw [kept, List.filterMap_append]
          exact congr (congrArg _ (hOthers before hFresh.1)) hHere
        rw [hSources, hAppend]
        rfl
      · intro k d d' hKept
        split at hKept
        · cases hKept
        · cases hKept
          exact Tends.refl d

theorem changes_perform {e : SourcesCall} (hKeys : (keys s.sources).Nodup)
    (hStep : s.perform e = some s') : Changes s s' e := by
  have hCursor : movesCursor e = true → Keeps s s' := by
    intro hCursor
    obtain ⟨t, ht, rfl⟩ := perform_cursor hCursor hStep
    exact keeps_of_eq ht
  have hTimeout : isTimeout e = true → s.stored e = [] → s.handedOut e = [] →
      Changes s s' e := by
    intro hTimeout
    obtain ⟨visit, rfl, hVisit⟩ := perform_timeout hTimeout hStep
    exact .removed visit (sources_timeoutLoop visit s)
      fun k d d' hKept => tends_aged (hVisit k d d' hKept)
  cases e with
  | clear =>
    cases hStep
    refine .removed (fun _ _ => none) (List.filterMap_eq_nil_iff.mpr fun _ _ => rfl).symm ?_ rfl rfl
    rintro k d d' ⟨⟩
  | createOwnSSRC ssrc =>
    cases hStep
    exact .tended (keeps_createOwnSSRC s ssrc) rfl rfl
  | deleteOwnSSRC =>
    cases hStep
    exact changes_deleteOwnSSRC hKeys
  | sentRTPPacket now =>
    cases hStep
    exact .tended (keeps_sentRTPPacket s now) rfl rfl
  | clearOwnCollisionFlag =>
    cases hStep
    exact .tended (keeps_of_eq rfl) rfl rfl
  | processRTPPacket p t a =>
    cases hStep
    exact changes_processRTPPacket s p t a
  | processRTCPCompoundPacket ps t a =>
    cases hStep
    exact .tended ((messageRel_keeps t a).compound ps s) rfl rfl
  | timeout | senderTimeout | byeTimeout | noteTimeout | multipleTimeouts =>
    exact hTimeout rfl rfl rfl
  | gotoFirstSource | gotoNextSource | gotoPreviousSource | gotoFirstSourceWithData =>
    exact .tended (hCursor rfl) rfl rfl
  | gotoNextSourceWithData | gotoPreviousSourceWithData | getSourceInfo =>
    exact .tended (hCursor rfl) rfl rfl
  | getNextPacket =>
    obtain ⟨x, hGet, rfl⟩ := Option.map_eq_some_iff.mp hStep
    obtain ⟨ssrc, d, hCurrent, hLookup, rfl⟩ | rfl := getNextPacket_cases hGet
    · refine .polled hLookup ?_ rfl
      rw [handedOut, hCurrent, hGet]
      rfl
    · refine .tended (keeps_of_eq rfl) rfl ?_
      rw [handedOut, hGet]
      cases current s.sourcelist <;> rfl

end RTPSources
end LocalCall.Jrtp
