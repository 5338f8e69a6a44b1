import LocalCall.Jrtp.TableRefinement
import LocalCall.Jrtp.Sources

/-! # Finding a source and writing to it

What the steps that every message is made of do to the table: a source is found or entered, and its
entry is replaced.
-/
namespace LocalCall.Jrtp
set_option autoImplicit false

open Dictionary

namespace RTPSources

open RTPInternalSourceData

section
variable (s : RTPSources) (ssrc : BitVec 32)

theorem hashed_eq : hashed ssrc = true := rfl

theorem entries_gotoElement : (s.sourcelist.gotoElement hashed ssrc).1.entries = s.sources := by
  rw [CursorTable.gotoElement, if_pos (hashed_eq ssrc)]
  split <;> rfl

theorem sources_obtain : (s.obtainSourceDataInstance ssrc).1.sources =
    match lookup ssrc s.sources with
    | none => s.sources ++ [(ssrc, .new ssrc)]
    | some _ => s.sources := by
  have hEntries := entries_gotoElement s ssrc
  rw [obtainSourceDataInstance]
  cases h : lookup ssrc s.sources with
  | none =>
    have hNot : ssrc ∉ (s.sourcelist.gotoElement hashed ssrc).1.keys := by
      rw [CursorTable.keys, hEntries]
      exact lookup_eq_none_iff.mp h
    change ((s.sourcelist.gotoElement hashed ssrc).1.addElement hashed ssrc _).1.entries = _
    rw [CursorTable.addElement, if_pos (hashed_eq ssrc), if_neg hNot, hEntries]
  | some d => exact hEntries

theorem obtain_eq : (s.obtainSourceDataInstance ssrc).2 =
    ((lookup ssrc s.sources).getD (.new ssrc), (lookup ssrc s.sources).isNone) := by
  rw [obtainSourceDataInstance]
  cases lookup ssrc s.sources <;> rfl

theorem lookup_obtain : lookup ssrc (s.obtainSourceDataInstance ssrc).1.sources =
    some (s.obtainSourceDataInstance ssrc).2.1 := by
  rw [sources_obtain, obtain_eq]
  cases h : lookup ssrc s.sources with
  | none =>
    change lookup ssrc (s.sources ++ [(ssrc, .new ssrc)]) = some (.new ssrc)
    rw [lookup_append (lookup_eq_none_iff.mp h), lookup_cons, if_pos rfl]
  | some d => exact h

theorem lookup_obtain_ne {k : BitVec 32} (hk : k ≠ ssrc) :
    lookup k (s.obtainSourceDataInstance ssrc).1.sources = lookup k s.sources := by
  rw [sources_obtain]
  cases h : lookup ssrc s.sources with
  | none =>
    change lookup k (s.sources ++ [(ssrc, .new ssrc)]) = _
    by_cases hMem : k ∈ keys s.sources
    · exact lookup_append_left hMem
    · rw [lookup_append hMem, lookup_cons, if_neg (Ne.symm hk), lookup_eq_none_iff.mpr hMem]
      rfl
  | some d => rfl

end

/-- Whether a message from the address gets through to the source. -/
def Admits (s : RTPSources) (isrtp : Bool) (ssrc : BitVec 32) (a : RTPAddress) : Bool :=
  match lookup ssrc s.sources with
  | none => true
  | some d => (d.checkCollision a isrtp).isSome

theorem lookup_store {s : RTPSources} {ssrc : BitVec 32} {d d' : RTPInternalSourceData}
    (hOld : lookup ssrc s.sources = some d) :
    lookup ssrc (s.store ssrc d').sources = some d' :=
  lookup_store_self (mem_keys_of_lookup hOld)

/-- The three ways of a message: it creates the source, it is turned away, or it gets through. -/
theorem getSourceData_cases (s : RTPSources) (isrtp : Bool) (ssrc : BitVec 32) (a : RTPAddress) :
    (lookup ssrc s.sources = none ∧
      s.getSourceData isrtp ssrc a = ((s.obtainSourceDataInstance ssrc).1.store ssrc
          ((RTPInternalSourceData.new ssrc).setDataAddress isrtp a),
        some ((RTPInternalSourceData.new ssrc).setDataAddress isrtp a))) ∨
    (∃ d, lookup ssrc s.sources = some d ∧ d.checkCollision a isrtp = none ∧
      s.getSourceData isrtp ssrc a = ((s.obtainSourceDataInstance ssrc).1.onSSRCCollision d, none)) ∨
    (∃ d d', lookup ssrc s.sources = some d ∧ d.checkCollision a isrtp = some d' ∧
      s.getSourceData isrtp ssrc a = ((s.obtainSourceDataInstance ssrc).1.store ssrc d', some d')) := by
  have hEq := obtain_eq s ssrc
  cases hLookup : lookup ssrc s.sources with
  | none =>
    rw [hLookup] at hEq
    refine Or.inl ⟨rfl, ?_⟩
    rw [getSourceData]
    simp only [hEq, Option.isNone_none, Option.getD_none, if_true]
  | some d =>
    rw [hLookup] at hEq
    cases hCheck : d.checkCollision a isrtp with
    | none =>
      refine Or.inr (Or.inl ⟨d, rfl, hCheck, ?_⟩)
      rw [getSourceData]
      simp only [hEq, Option.isNone_some, Option.getD_some, hCheck, if_neg Bool.false_ne_true]
    | some d' =>
      refine Or.inr (Or.inr ⟨d, d', rfl, hCheck, ?_⟩)
      rw [getSourceData]
      simp only [hEq, Option.isNone_some, Option.getD_some, hCheck, if_neg Bool.false_ne_true]

/-- And those of a contributing source. -/
theorem processCSRC_cases (s : RTPSources) (a : RTPAddress) (csrc : BitVec 32) :
    (lookup csrc s.sources = none ∧
      processCSRC a s csrc = { (s.obtainSourceDataInstance csrc).1.store csrc
        (RTPInternalSourceData.new csrc).setCSRC with
        activecount := (s.obtainSourceDataInstance csrc).1.activecount + 1 }) ∨
    (∃ d, lookup csrc s.sources = some d ∧ d.checkCollision a true = none ∧
      processCSRC a s csrc = (s.obtainSourceDataInstance csrc).1.onSSRCCollision d) ∨
    (∃ d d', lookup csrc s.sources = some d ∧ d.checkCollision a true = some d' ∧
      processCSRC a s csrc = (s.obtainSourceDataInstance csrc).1.store csrc d'.setCSRC) := by
  have hEq := obtain_eq s csrc
  cases hLookup : lookup csrc s.sources with
  | none =>
    rw [hLookup] at hEq
    refine Or.inl ⟨rfl, ?_⟩
    rw [processCSRC]
    simp only [hEq, Option.isNone_none, Option.getD_none, if_true]
    rfl
  | some d =>
    rw [hLookup] at hEq
    cases hCheck : d.checkCollision a true with
    | none =>
      refine Or.inr (Or.inl ⟨d, rfl, hCheck, ?_⟩)
      rw [processCSRC]
      simp only [hEq, Option.isNone_some, Option.getD_some, hCheck, if_neg Bool.false_ne_true]
    | some d' =>
      refine Or.inr (Or.inr ⟨d, d', rfl, hCheck, ?_⟩)
      rw [processCSRC]
      simp only [hEq, Option.isNone_some, Option.getD_some, hCheck, if_neg Bool.false_ne_true]

/-! ## Moving the cursor -/

theorem entries_moveCursor {t t' : CursorTable (BitVec 32) RTPInternalSourceData}
    {target : BitVec 32 → Option (BitVec 32)} (h : t.moveCursor target = some t') :
    t'.entries = t.entries := by
  rw [CursorTable.moveCursor] at h
  split at h
  · cases h
  · cases h
  · cases h
    rfl
  · cases h
    rfl

theorem entries_seekData {fuel : Nat} {t : CursorTable (BitVec 32) RTPInternalSourceData}
    {x : CursorTable (BitVec 32) RTPInternalSourceData × Bool} (h : seekData fuel t = some x) :
    x.1.entries = t.entries := by
  induction fuel generalizing t with
  | zero => cases h
  | succ fuel ih =>
    obtain ⟨has, -, h⟩ := Option.bind_eq_some_iff.mp h
    split at h
    · obtain ⟨e, -, h⟩ := Option.bind_eq_some_iff.mp h
      split at h
      · cases h
        rfl
      · obtain ⟨t', hNext, h⟩ := Option.bind_eq_some_iff.mp h
        exact (ih h).trans (entries_moveCursor hNext)
    · cases h
      rfl

theorem deleteElement_spec {t : CursorTable (BitVec 32) RTPInternalSourceData} {ssrc : BitVec 32}
    {d : RTPInternalSourceData} (hKeys : (keys t.entries).Nodup)
    (h : lookup ssrc t.entries = some d) :
    ∃ before after c, t.entries = before ++ (ssrc, d) :: after ∧
      t.deleteElement hashed ssrc = some (⟨before ++ after, c⟩, .done) := by
  obtain ⟨before, after, hSplit⟩ := List.append_of_mem (mem_of_lookup h)
  obtain ⟨hBefore, hAfter, -⟩ :=
    CursorTable.around (s := { t with cursor := .onKey ssrc }) hSplit hKeys
  refine ⟨before, after, CursorTable.cursorOf (after.head?.map Prod.fst), hSplit, ?_⟩
  have hMem : ssrc ∈ t.keys := mem_keys_of_lookup h
  rw [CursorTable.deleteElement, CursorTable.gotoElement, if_pos (hashed_eq ssrc), if_pos hMem]
  change some ((⟨CursorTable.entriesBefore _ ssrc ++ CursorTable.entriesAfter _ ssrc,
    CursorTable.cursorOf ((CursorTable.entriesAfter _ ssrc).head?.map Prod.fst)⟩ :
      CursorTable (BitVec 32) RTPInternalSourceData), Answer.done) = _
  rw [hBefore, hAfter]

/-! ## Timeouts -/

def kept (visit : BitVec 32 → RTPInternalSourceData → Option RTPInternalSourceData)
    (l : List (BitVec 32 × RTPInternalSourceData)) : List (BitVec 32 × RTPInternalSourceData) :=
  l.filterMap fun e => (visit e.1 e.2).map fun d => (e.1, d)

theorem kept_cons (visit : BitVec 32 → RTPInternalSourceData → Option RTPInternalSourceData)
    (e : BitVec 32 × RTPInternalSourceData) (l : List (BitVec 32 × RTPInternalSourceData)) :
    kept visit (e :: l) = ((visit e.1 e.2).map fun d => (e.1, d)).toList ++ kept visit l := by
  rw [kept, List.filterMap_cons]
  cases visit e.1 e.2 <;> rfl

theorem keys_kept
    {visit : BitVec 32 → RTPInternalSourceData → Option RTPInternalSourceData}
    (l : List (BitVec 32 × RTPInternalSourceData)) :
    (keys (kept visit l)).Sublist (keys l) := by
  induction l with
  | nil => exact List.Sublist.refl []
  | cons e l ih =>
    rw [kept_cons]
    cases visit e.1 e.2 with
    | none => exact ih.cons e.1
    | some d => exact ih.cons_cons e.1

theorem lookup_kept {visit : BitVec 32 → RTPInternalSourceData → Option RTPInternalSourceData}
    {l : List (BitVec 32 × RTPInternalSourceData)} (hKeys : (keys l).Nodup) {k : BitVec 32}
    {d' : RTPInternalSourceData} (h : lookup k (kept visit l) = some d') :
    ∃ d, lookup k l = some d ∧ visit k d = some d' := by
  obtain ⟨⟨k₁, d⟩, hMem, hKept⟩ := List.mem_filterMap.mp (mem_of_lookup h)
  obtain ⟨d₁, hVisit, hEq⟩ := Option.map_eq_some_iff.mp hKept
  cases hEq
  exact ⟨d, lookup_of_mem hKeys hMem, hVisit⟩

theorem sources_timeoutLoop
    (visit : BitVec 32 → RTPInternalSourceData → Option RTPInternalSourceData) (s : RTPSources) :
    (s.timeoutLoop visit).sources = kept visit s.sources := by
  have hFold : ∀ (l : List (BitVec 32 × RTPInternalSourceData)) (x : RTPSources × NewCounts),
      (l.foldl (timeoutStep visit) x).1.sources = x.1.sources ++ kept visit l := by
    intro l
    induction l with
    | nil => exact fun x => (List.append_nil _).symm
    | cons e l ih =>
      intro x
      rw [List.foldl_cons, ih, timeoutStep, kept_cons]
      cases visit e.1 e.2 with
      | none => rfl
      | some d => exact List.append_assoc x.1.sources [(e.1, d)] _
  exact hFold s.sources _

/-- A source of which time has taken the sender flag or the note. -/
def Aged (d d' : RTPInternalSourceData) : Prop :=
  d' = { d with issender := d'.issender, sdesInf := d'.sdesInf }

theorem aged_expireNote (checktime : RTPTime) (d : RTPInternalSourceData) :
    Aged d (expireNote checktime d) := by
  rw [expireNote]
  split
  · rw [clearNote, setItem]
    split <;> rfl
  · rfl

theorem Aged.clearSenderFlag {d d' : RTPInternalSourceData} (h : Aged d d') :
    Aged d d'.clearSenderFlag := by
  rw [h]
  rfl

def isTimeout : SourcesCall → Bool
  | .timeout .. | .senderTimeout .. | .byeTimeout .. | .noteTimeout .. | .multipleTimeouts .. => true
  | _ => false

/-- Each timeout is the loop over the table, in which the sources that stay age. -/
theorem perform_timeout {s s' : RTPSources} {e : SourcesCall} (hTimeout : isTimeout e = true)
    (hStep : s.perform e = some s') : ∃ visit, s' = s.timeoutLoop visit ∧
      ∀ ssrc d d', visit ssrc d = some d' → Aged d d' := by
  cases e with
  | timeout c delay =>
    cases hStep
    refine ⟨_, rfl, fun ssrc d d' hVisit => ?_⟩
    split at hVisit
    · cases hVisit
    · cases hVisit
      rfl
  | senderTimeout c delay =>
    cases hStep
    refine ⟨_, rfl, fun ssrc d d' hVisit => ?_⟩
    split at hVisit <;> cases hVisit <;> rfl
  | byeTimeout c delay =>
    cases hStep
    refine ⟨_, rfl, fun ssrc d d' hVisit => ?_⟩
    split at hVisit
    · cases hVisit
    · cases hVisit
      rfl
  | noteTimeout c delay =>
    cases hStep
    refine ⟨_, rfl, ?_⟩
    rintro ssrc d d' ⟨⟩
    exact aged_expireNote _ d
  | multipleTimeouts c sender bye general note =>
    cases hStep
    refine ⟨_, rfl, fun ssrc d d' hVisit => ?_⟩
    have hNote := aged_expireNote (c.sub note) d
    dsimp only at hVisit
    split at hVisit
    · cases hVisit
    · split at hVisit
      · cases hVisit
      · split at hVisit <;> cases hVisit
        · exact hNote.clearSenderFlag
        · exact hNote
  | _ => cases hTimeout

def movesCursor : SourcesCall → Bool
  | .gotoFirstSource | .gotoNextSource | .gotoPreviousSource | .gotoFirstSourceWithData => true
  | .gotoNextSourceWithData | .gotoPreviousSourceWithData | .getSourceInfo _ => true
  | _ => false

theorem perform_cursor {s s' : RTPSources} {e : SourcesCall} (hCursor : movesCursor e = true)
    (hStep : s.perform e = some s') :
    ∃ t, t.entries = s.sources ∧ s' = { s with sourcelist := t } := by
  cases e with
  | gotoFirstSource =>
    cases hStep
    exact ⟨s.sourcelist.gotoFirstElement, rfl, rfl⟩
  | gotoNextSource =>
    obtain ⟨t, hNext, rfl⟩ := Option.map_eq_some_iff.mp hStep
    exact ⟨t, entries_moveCursor hNext, rfl⟩
  | gotoPreviousSource =>
    obtain ⟨t, hPrevious, rfl⟩ := Option.map_eq_some_iff.mp hStep
    exact ⟨t, entries_moveCursor hPrevious, rfl⟩
  | gotoFirstSourceWithData =>
    obtain ⟨x, hGoto, rfl⟩ := Option.map_eq_some_iff.mp hStep
    obtain ⟨y, hSeek, rfl⟩ := Option.map_eq_some_iff.mp hGoto
    have hSame : y.1.entries = s.sourcelist.gotoFirstElement.entries := entries_seekData hSeek
    exact ⟨y.1, hSame, rfl⟩
  | gotoNextSourceWithData =>
    obtain ⟨x, hGoto, rfl⟩ := Option.map_eq_some_iff.mp hStep
    obtain ⟨y, hSeek, rfl⟩ := Option.map_eq_some_iff.mp hGoto
    obtain ⟨t, hNext, hSeek⟩ := Option.bind_eq_some_iff.mp hSeek
    exact ⟨y.1, (entries_seekData hSeek).trans (entries_moveCursor hNext), rfl⟩
  | gotoPreviousSourceWithData =>
    obtain ⟨x, hGoto, rfl⟩ := Option.map_eq_some_iff.mp hStep
    obtain ⟨y, hSeek, rfl⟩ := Option.map_eq_some_iff.mp hGoto
    obtain ⟨t, hPrevious, hSeek⟩ := Option.bind_eq_some_iff.mp hSeek
    exact ⟨y.1, (entries_seekData hSeek).trans (entries_moveCursor hPrevious), rfl⟩
  | getSourceInfo ssrc =>
    cases hStep
    exact ⟨_, entries_gotoElement s ssrc, rfl⟩
  | _ => cases hCursor

theorem getNextPacket_cases {s : RTPSources} {x : RTPSources × Option RTPPacket}
    (h : s.getNextPacket = some x) :
    (∃ ssrc d, current s.sourcelist = some (ssrc, d) ∧ lookup ssrc s.sources = some d ∧
      x = (s.store ssrc d.getNextPacket.1, d.getNextPacket.2)) ∨ x = (s, none) := by
  obtain ⟨has, -, h⟩ := Option.bind_eq_some_iff.mp h
  split at h
  · obtain ⟨e, hCurrent, rfl⟩ := Option.map_eq_some_iff.mp h
    have hSource := hCurrent
    obtain ⟨ssrc, -, hSource⟩ := Option.bind_eq_some_iff.mp hSource
    obtain ⟨d, hLookup, rfl⟩ := Option.map_eq_some_iff.mp hSource
    exact Or.inl ⟨ssrc, d, hCurrent, hLookup, rfl⟩
  · cases h
    exact Or.inr rfl

/-! ## Compound packets

A compound packet is a list of messages, each to one source, and the first that is in error ends it.
-/

end RTPSources

inductive RTCPMessage where
  | heard (ssrc : BitVec 32)
  | item (ssrc : BitVec 32) (t : SDESType) (itemdata : List UInt8)
  | bye (ssrc : BitVec 32) (reasondata : List UInt8)

namespace RTCPMessage

def receiver : RTCPMessage → Option (BitVec 32)
  | .heard ssrc => some ssrc
  | .item ssrc (.item _) _ => some ssrc
  | .item _ _ _ => none
  | .bye ssrc _ => some ssrc

def ofReports (senderssrc : BitVec 32) (reports : List (BitVec 32))
    (ownssrc : Option (BitVec 32)) : List RTCPMessage :=
  let forUs := reports.filter fun ssrc => some ssrc = ownssrc
  if forUs.isEmpty then [.heard senderssrc] else forUs.map fun _ => .heard senderssrc

/-- The private items are passed over. -/
def ofItems (sdesssrc : BitVec 32) (items : List (SDESType × List UInt8)) : List RTCPMessage :=
  (items.filter fun i => i.1 ≠ .priv).map fun i => .item sdesssrc i.1 i.2

def ofChunk (c : BitVec 32 × List (SDESType × List UInt8)) : List RTCPMessage :=
  ofItems c.1 c.2 ++ if c.2.any fun i => i.1 ≠ .priv then [] else [.heard c.1]

def ofPacket (ownssrc : Option (BitVec 32)) : RTCPPacket → List RTCPMessage
  | .sr senderssrc reports => .heard senderssrc :: ofReports senderssrc reports ownssrc
  | .rr senderssrc reports => ofReports senderssrc reports ownssrc
  | .sdes chunks => chunks.flatMap ofChunk
  | .bye ssrcs reason => ssrcs.map fun ssrc => .bye ssrc reason
  | .app => []
  | .unknown => []

end RTCPMessage

namespace RTPSources
section Messages

variable {receivetime : RTPTime} {senderaddress : RTPAddress}

def tell (receivetime : RTPTime) (senderaddress : RTPAddress) (s : RTPSources) :
    RTCPMessage → RTPSources × Bool
  | .heard ssrc => (s.updateReceiveTime ssrc receivetime senderaddress, true)
  | .item ssrc t itemdata => s.processSDESNormalItem ssrc t itemdata receivetime senderaddress
  | .bye ssrc reasondata => (s.processBYE ssrc reasondata receivetime senderaddress, true)

def tellAll (receivetime : RTPTime) (senderaddress : RTPAddress) :
    List RTCPMessage → RTPSources → RTPSources × Bool
  | [], s => (s, true)
  | m :: ms, s =>
    match s.tell receivetime senderaddress m with
    | (s, false) => (s, false)
    | (s, true) => tellAll receivetime senderaddress ms s

theorem tellAll_append (ms ms' : List RTCPMessage) (s : RTPSources) :
    tellAll receivetime senderaddress (ms ++ ms') s =
      match tellAll receivetime senderaddress ms s with
      | (s, false) => (s, false)
      | (s, true) => tellAll receivetime senderaddress ms' s := by
  induction ms generalizing s with
  | nil => rfl
  | cons m ms ih =>
    rw [List.cons_append, tellAll, tellAll]
    cases hTell : s.tell receivetime senderaddress m with
    | mk s₁ ok =>
      cases ok with
      | false => rfl
      | true => exact ih s₁

theorem tellAll_map {α : Type} {f : RTPSources → α → RTPSources} {message : α → RTCPMessage}
    (hTell : ∀ s x, s.tell receivetime senderaddress (message x) = (f s x, true)) (l : List α)
    (s : RTPSources) :
    tellAll receivetime senderaddress (l.map message) s = (l.foldl f s, true) := by
  induction l generalizing s with
  | nil => rfl
  | cons x l ih =>
    rw [List.map_cons, tellAll, hTell]
    exact ih _

theorem processReports_eq (senderssrc : BitVec 32) (reports : List (BitVec 32))
    (ownssrc : Option (BitVec 32)) (s : RTPSources) :
    tellAll receivetime senderaddress (RTCPMessage.ofReports senderssrc reports ownssrc) s =
      (s.processReports senderssrc reports ownssrc receivetime senderaddress, true) := by
  rw [RTCPMessage.ofReports, processReports]
  split
  · rfl
  · exact tellAll_map (fun _ _ => rfl) _ s

theorem processSDESItems_eq (sdesssrc : BitVec 32) (items : List (SDESType × List UInt8))
    (s : RTPSources) : processSDESItems sdesssrc receivetime senderaddress items s =
      tellAll receivetime senderaddress (RTCPMessage.ofItems sdesssrc items) s := by
  induction items generalizing s with
  | nil => rfl
  | cons x items ih =>
    obtain ⟨t, itemdata⟩ := x
    cases t with
    | priv => exact ih s
    | unknown => rfl
    | item sdesid =>
      have hMessages : RTCPMessage.ofItems sdesssrc ((.item sdesid, itemdata) :: items) =
          .item sdesssrc (.item sdesid) itemdata :: RTCPMessage.ofItems sdesssrc items := rfl
      rw [processSDESItems, hMessages, tellAll]
      · change _ = match s.processSDESNormalItem sdesssrc (.item sdesid) itemdata receivetime
            senderaddress with
          | (s, false) => (s, false)
          | (s, true) => tellAll receivetime senderaddress (RTCPMessage.ofItems sdesssrc items) s
        cases s.processSDESNormalItem sdesssrc (.item sdesid) itemdata receivetime
            senderaddress with
        | mk s₁ ok =>
          cases ok with
          | false => rfl
          | true => exact ih s₁
      · exact fun hEq => SDESType.noConfusion hEq

theorem processSDESChunks_eq (chunks : List (BitVec 32 × List (SDESType × List UInt8)))
    (s : RTPSources) : processSDESChunks receivetime senderaddress chunks s =
      tellAll receivetime senderaddress (chunks.flatMap RTCPMessage.ofChunk) s := by
  induction chunks generalizing s with
  | nil => rfl
  | cons x chunks ih =>
    obtain ⟨sdesssrc, items⟩ := x
    rw [List.flatMap_cons, RTCPMessage.ofChunk, List.append_assoc, tellAll_append,
      processSDESChunks, processSDESItems_eq]
    cases tellAll receivetime senderaddress (RTCPMessage.ofItems sdesssrc items) s with
    | mk s₁ ok =>
      cases ok with
      | false => rfl
      | true =>
        dsimp only
        rw [ih]
        split <;> rfl

theorem processRTCPPacket_eq (ownssrc : Option (BitVec 32)) (rtcppack : RTCPPacket)
    (s : RTPSources) : s.processRTCPPacket ownssrc receivetime senderaddress rtcppack =
      tellAll receivetime senderaddress (RTCPMessage.ofPacket ownssrc rtcppack) s := by
  cases rtcppack with
  | sr senderssrc reports => exact (processReports_eq senderssrc reports ownssrc _).symm
  | rr senderssrc reports => exact (processReports_eq senderssrc reports ownssrc s).symm
  | sdes chunks => exact processSDESChunks_eq chunks s
  | bye ssrcs reason => exact (tellAll_map (fun _ _ => rfl) ssrcs s).symm
  | app => rfl
  | unknown => rfl

theorem processRTCPPackets_eq (ownssrc : Option (BitVec 32)) (packets : List RTCPPacket)
    (s : RTPSources) : processRTCPPackets ownssrc receivetime senderaddress packets s =
      tellAll receivetime senderaddress (packets.flatMap (RTCPMessage.ofPacket ownssrc)) s := by
  induction packets generalizing s with
  | nil => rfl
  | cons rtcppack packets ih =>
    rw [List.flatMap_cons, tellAll_append, processRTCPPackets, processRTCPPacket_eq]
    cases tellAll receivetime senderaddress (RTCPMessage.ofPacket ownssrc rtcppack) s with
    | mk s₁ ok =>
      cases ok with
      | false => rfl
      | true => exact ih s₁

/-- What holds between the states before and after each of the messages in a compound packet. -/
structure MessageRel (receivetime : RTPTime) (senderaddress : RTPAddress)
    (R : RTPSources → RTPSources → Prop) : Prop where
  hRefl : ∀ s, R s s
  hTrans : ∀ s s' s'', R s s' → R s' s'' → R s s''
  hTell : ∀ s m, R s (s.tell receivetime senderaddress m).1

namespace MessageRel
variable {R : RTPSources → RTPSources → Prop} (h : MessageRel receivetime senderaddress R)
include h

theorem tellAll (ms : List RTCPMessage) (s : RTPSources) :
    R s (RTPSources.tellAll receivetime senderaddress ms s).1 := by
  induction ms generalizing s with
  | nil => exact h.hRefl s
  | cons m ms ih =>
    have hHere := h.hTell s m
    rw [RTPSources.tellAll]
    cases hTold : s.tell receivetime senderaddress m with
    | mk s₁ ok =>
      rw [hTold] at hHere
      cases ok with
      | false => exact hHere
      | true => exact h.hTrans _ _ _ hHere (ih s₁)

theorem compound (packets : List RTCPPacket) (s : RTPSources) :
    R s (s.processRTCPCompoundPacket packets receivetime senderaddress).1 := by
  rw [processRTCPCompoundPacket, processRTCPPackets_eq]
  exact h.tellAll _ s

end MessageRel
end Messages
end RTPSources
end LocalCall.Jrtp
