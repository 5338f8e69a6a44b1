import Mathlib.Algebra.Order.Group.Multiset
import Mathlib.Data.List.TakeWhile
import Mathlib.Tactic.Abel
import LocalCall.Jrtp.SourceChanges
import LocalCall.Jrtp.SourceCounters

/-! # The packets of all sources on the poll thread

`OnPollThreadStep` goes to every source that has data and takes its packets. Whatever happens
between two of its turns, each packet that was queued is processed once, unless its source was taken
out of the table first.
-/
namespace LocalCall.Jrtp
set_option autoImplicit false

open Dictionary Transition

namespace CustomRTPSession

open RTPSources RTPInternalSourceData

/-- `while ((pack = GetNextPacket()) != NULL)`: the packets that are processed, at most `fuel`
turns. -/
def processPackets : Nat → RTPSources → Option (RTPSources × List RTPPacket)
  | 0, _ => none
  | fuel + 1, s => s.getNextPacket.bind fun x =>
    match x with
    | (s, none) => some (s, [])
    | (s, some pack) => (processPackets fuel s).map fun y => (y.1, pack :: y.2)

/-- `do ... while (GotoNextSourceWithData())`, with the source of each packet. -/
def processSources : Nat → RTPSources → Option (RTPSources × List (BitVec 32 × RTPPacket))
  | 0, _ => none
  | fuel + 1, s => (current s.sourcelist).bind fun e =>
    (processPackets (e.2.packetlist.length + 1) s).bind fun x =>
      x.1.gotoNextSourceWithData.bind fun y =>
        let processed := x.2.map fun pack => (e.1, pack)
        if y.2 then (processSources fuel y.1).map fun z => (z.1, processed ++ z.2)
        else some (y.1, processed)

def onPollThreadStep (s : RTPSources) : Option (RTPSources × List (BitVec 32 × RTPPacket)) :=
  s.gotoFirstSourceWithData.bind fun x =>
    if x.2 then processSources s.sources.length x.1 else some (x.1, [])

/-! ## One turn -/

def waiting (l : List (BitVec 32 × RTPInternalSourceData)) : List (BitVec 32 × RTPPacket) :=
  l.flatMap fun e => e.2.packetlist.map fun q => (e.1, q)

def emptied (e : BitVec 32 × RTPInternalSourceData) : BitVec 32 × RTPInternalSourceData :=
  (e.1, { e.2 with packetlist := [] })

/-- Where packets wait, they are not held back. -/
def Ready (l : List (BitVec 32 × RTPInternalSourceData)) : Prop :=
  ∀ e ∈ l, e.2.validated = true ∨ e.2.packetlist = []

theorem hasData_iff {d : RTPInternalSourceData} (h : d.validated = true ∨ d.packetlist = []) :
    d.hasData = true ↔ d.packetlist ≠ [] := by
  rw [hasData, Bool.and_eq_true]
  rcases h with hValid | hEmpty
  · simp [hValid]
  · simp [hEmpty]

theorem emptied_of_empty {e : BitVec 32 × RTPInternalSourceData} (h : e.2.packetlist = []) :
    emptied e = e := by
  obtain ⟨k, packetlist, ssrc, own, csrc, bye, validated, sender, stats, sdes, rtp, rtcp, t, r⟩ := e
  cases h
  rfl

def passed (l : List (BitVec 32 × RTPInternalSourceData)) :
    List (BitVec 32 × RTPInternalSourceData) := l.takeWhile fun e => !e.2.hasData

def found (l : List (BitVec 32 × RTPInternalSourceData)) :
    List (BitVec 32 × RTPInternalSourceData) := l.dropWhile fun e => !e.2.hasData

theorem passed_append_found (l : List (BitVec 32 × RTPInternalSourceData)) :
    passed l ++ found l = l := List.takeWhile_append_dropWhile

def facing (before after : List (BitVec 32 × RTPInternalSourceData)) :
    CursorTable (BitVec 32) RTPInternalSourceData :=
  ⟨before ++ after, CursorTable.cursorOf (after.head?.map Prod.fst)⟩

section
variable {before rest : List (BitVec 32 × RTPInternalSourceData)}
  {e : BitVec 32 × RTPInternalSourceData} (hKeys : (keys (before ++ e :: rest)).Nodup)
include hKeys

theorem current_facing : current (facing before (e :: rest)) = some e := by
  change (lookup e.1 (before ++ e :: rest)).map (fun d => (e.1, d)) = some e
  rw [(Dictionary.around hKeys).1]
  rfl

theorem gotoNextElement_facing :
    (facing before (e :: rest)).gotoNextElement = some (facing (before ++ [e]) rest) := by
  obtain ⟨-, hAfter, -⟩ :=
    CursorTable.around (s := facing before (e :: rest)) (k := e.1) rfl hKeys
  change some (CursorTable.mk _ (CursorTable.cursorOf
    (((facing before (e :: rest)).entriesAfter e.1).head?.map Prod.fst))) = _
  rw [hAfter, facing, facing, List.append_assoc]
  rfl

end

theorem seekData_facing (before after : List (BitVec 32 × RTPInternalSourceData))
    (hKeys : (keys (before ++ after)).Nodup)
    {fuel : Nat} (hFuel : after.length < fuel) :
    seekData fuel (facing before after) =
      some (facing (before ++ passed after) (found after), !(found after).isEmpty) := by
  induction after generalizing before fuel with
  | nil =>
    cases fuel with
    | zero => exact absurd hFuel (Nat.not_lt_zero _)
    | succ fuel =>
      rw [passed, List.takeWhile_nil, List.append_nil]
      rfl
  | cons e after ih =>
    cases fuel with
    | zero => exact absurd hFuel (Nat.not_lt_zero _)
    | succ fuel =>
      have hHas : (facing before (e :: after)).hasCurrentElement = some true := rfl
      rw [seekData, hHas, Option.bind_some, if_pos rfl, current_facing hKeys, Option.bind_some]
      cases hData : e.2.hasData with
      | true =>
        rw [passed, found, List.takeWhile_cons_of_neg (by simp [hData]),
          List.dropWhile_cons_of_neg (by simp [hData]), List.append_nil]
        rfl
      | false =>
        have hRest := ih (before ++ [e]) (by rwa [List.append_assoc])
          (Nat.lt_of_succ_lt_succ hFuel)
        rw [gotoNextElement_facing hKeys, if_neg Bool.false_ne_true, Option.bind_some, hRest,
          passed, passed, found, found, List.takeWhile_cons_of_pos (by simp [hData]),
          List.dropWhile_cons_of_pos (by simp [hData]), List.append_assoc]
        rfl

theorem getNextPacket_facing (s : RTPSources)
    {before rest : List (BitVec 32 × RTPInternalSourceData)} {k : BitVec 32}
    {d : RTPInternalSourceData} (hKeys : (keys (before ++ (k, d) :: rest)).Nodup) :
    getNextPacket { s with sourcelist := facing before ((k, d) :: rest) } =
      some ({ s with sourcelist := facing before ((k, d.getNextPacket.1) :: rest) },
        d.getNextPacket.2) := by
  change (some true).bind _ = _
  rw [Option.bind_some, if_pos rfl, current_facing hKeys, Option.map_some, RTPSources.store]
  dsimp only [facing]
  rw [(Dictionary.around hKeys).2]
  rfl

/-- The packets of one source, taken one by one. -/
theorem processPackets_facing (s : RTPSources)
    {before rest : List (BitVec 32 × RTPInternalSourceData)} {k : BitVec 32}
    (q : List RTPPacket) {d : RTPInternalSourceData} (hQueue : d.packetlist = q)
    (hKeys : (keys (before ++ (k, d) :: rest)).Nodup) (hValid : d.validated = true) {fuel : Nat}
    (hFuel : q.length < fuel) :
    processPackets fuel { s with sourcelist := facing before ((k, d) :: rest) } =
      some ({ s with sourcelist := facing before (emptied (k, d) :: rest) }, q) := by
  induction q generalizing d fuel with
  | nil =>
    cases fuel with
    | zero => exact absurd hFuel (Nat.not_lt_zero _)
    | succ fuel =>
      have hGet : d.getNextPacket = (d, none) := by
        rw [RTPInternalSourceData.getNextPacket, if_pos hValid, hQueue]
      rw [processPackets, getNextPacket_facing s hKeys, hGet, Option.bind_some,
        emptied_of_empty hQueue]
  | cons pack q ih =>
    cases fuel with
    | zero => exact absurd hFuel (Nat.not_lt_zero _)
    | succ fuel =>
      have hGet : d.getNextPacket = ({ d with packetlist := q }, some pack) := by
        rw [RTPInternalSourceData.getNextPacket, if_pos hValid, hQueue]
      have hSame : (keys (before ++ (k, { d with packetlist := q }) :: rest)).Nodup := by
        rw [keys, List.map_append, List.map_cons] at hKeys ⊢
        exact hKeys
      have hRest := @ih { d with packetlist := q } rfl hSame hValid fuel
        (Nat.lt_of_succ_lt_succ hFuel)
      rw [processPackets, getNextPacket_facing s hKeys, hGet, Option.bind_some]
      dsimp only
      rw [hRest]
      rfl

/-! ## All sources -/

theorem waiting_append (l l' : List (BitVec 32 × RTPInternalSourceData)) :
    waiting (l ++ l') = waiting l ++ waiting l' := List.flatMap_append

theorem keys_emptied (l : List (BitVec 32 × RTPInternalSourceData)) :
    keys (l.map emptied) = keys l := by
  rw [keys, List.map_map]
  rfl

/-- The search passes the sources in which nothing waits, and stops where it may take packets. -/
theorem seek_spec {l : List (BitVec 32 × RTPInternalSourceData)} (hReady : Ready l) :
    l.map emptied = passed l ++ (found l).map emptied ∧ waiting l = waiting (found l) ∧
      ∀ e rest, found l = e :: rest →
        e.2.validated = true ∧ Ready rest ∧ rest.length < l.length := by
  have hSplit := passed_append_found l
  have hIdle : ∀ e ∈ passed l, e.2.packetlist = [] := by
    intro e he
    have hNo : (!e.2.hasData) = true :=
      List.mem_takeWhile_imp (p := fun e : BitVec 32 × RTPInternalSourceData => !e.2.hasData) he
    have hHere := hReady e (List.takeWhile_sublist _ |>.subset he)
    by_contra hNe
    rw [(hasData_iff hHere).mpr hNe] at hNo
    cases hNo
  refine ⟨?_, ?_, fun e rest hFound => ?_⟩
  · have hSame : (passed l).map emptied = passed l :=
      (List.map_congr_left fun e he => emptied_of_empty (hIdle e he)).trans (List.map_id _)
    calc
      l.map emptied = (passed l ++ found l).map emptied := by rw [hSplit]
      _ = passed l ++ (found l).map emptied := by rw [List.map_append, hSame]
  · have hNothing : waiting (passed l) = [] := by
      apply List.flatMap_eq_nil_iff.mpr
      intro e he
      rw [hIdle e he]
      rfl
    calc
      waiting l = waiting (passed l ++ found l) := by rw [hSplit]
      _ = waiting (found l) := by rw [waiting_append, hNothing, List.nil_append]
  · have hData := List.head?_dropWhile_not (fun e => !e.2.hasData) l
    rw [← found, hFound] at hData
    have hData : e.2.hasData = true := by simpa using hData
    rw [hasData, Bool.and_eq_true] at hData
    rw [hFound] at hSplit
    refine ⟨hData.1, fun x hx => hReady x ?_, ?_⟩
    · rw [← hSplit]
      exact List.mem_append_right _ (List.mem_cons_of_mem e hx)
    · rw [← hSplit, List.length_append, List.length_cons]
      omega

theorem gotoNextSourceWithData_facing (s : RTPSources)
    {before rest : List (BitVec 32 × RTPInternalSourceData)}
    {e : BitVec 32 × RTPInternalSourceData} (hKeys : (keys (before ++ e :: rest)).Nodup) :
    gotoNextSourceWithData { s with sourcelist := facing before (e :: rest) } =
      some ({ s with sourcelist := facing (before ++ [e] ++ passed rest) (found rest) },
        !(found rest).isEmpty) := by
  have hSeek := seekData_facing (before ++ [e]) rest (by rwa [List.append_assoc])
    (show rest.length < (before ++ e :: rest).length + 1 by
      rw [List.length_append, List.length_cons]
      omega)
  change ((facing before (e :: rest)).gotoNextElement.bind
    (seekData ((before ++ e :: rest).length + 1))).map _ = _
  rw [gotoNextElement_facing hKeys, Option.bind_some, hSeek]
  rfl

/-- The sources from the one under the cursor on. -/
theorem processSources_facing (s : RTPSources)
    (before : List (BitVec 32 × RTPInternalSourceData))
    {rest : List (BitVec 32 × RTPInternalSourceData)} {k : BitVec 32}
    {d : RTPInternalSourceData} (hKeys : (keys (before ++ (k, d) :: rest)).Nodup)
    (hValid : d.validated = true) (hReady : Ready rest) {fuel : Nat} (hFuel : rest.length < fuel) :
    processSources fuel { s with sourcelist := facing before ((k, d) :: rest) } =
      some ({ s with sourcelist := ⟨before ++ ((k, d) :: rest).map emptied, .nowhere⟩ },
        waiting ((k, d) :: rest)) := by
  induction fuel generalizing before k d rest with
  | zero => exact absurd hFuel (Nat.not_lt_zero _)
  | succ fuel ih =>
    have hPackets := processPackets_facing s d.packetlist rfl hKeys hValid (Nat.lt_succ_self _)
    have hEmptied : (keys (before ++ emptied (k, d) :: rest)).Nodup := by
      rw [keys, List.map_append, List.map_cons] at hKeys ⊢
      exact hKeys
    obtain ⟨hTable, hWaiting, hNext⟩ := seek_spec hReady
    have hCurrent : current (facing before ((k, d) :: rest)) = some (k, d) := current_facing hKeys
    rw [processSources, hCurrent, Option.bind_some, hPackets, Option.bind_some,
      gotoNextSourceWithData_facing s hEmptied, Option.bind_some]
    have hHere : waiting ((k, d) :: rest) = (d.packetlist.map fun q => (k, q)) ++ waiting rest :=
      rfl
    cases hFound : found rest with
    | nil =>
      have hEntries : facing (before ++ [emptied (k, d)] ++ passed rest) [] =
          ⟨before ++ ((k, d) :: rest).map emptied, .nowhere⟩ := by
        rw [List.map_cons, hTable, hFound, facing, List.append_assoc, List.append_assoc]
        rfl
      rw [hEntries, hHere, hWaiting, hFound]
      exact congrArg (fun l => some (_, l)) (List.append_nil _).symm
    | cons e rest' =>
      obtain ⟨hValid', hReady', hLength⟩ := hNext e rest' hFound
      have hSplit := passed_append_found rest
      have hKeys' : (keys (before ++ [emptied (k, d)] ++ passed rest ++
          (e.1, e.2) :: rest')).Nodup := by
        rw [hFound] at hSplit
        rw [List.append_assoc, List.append_assoc, hSplit]
        exact hEmptied
      have hEntries : before ++ [emptied (k, d)] ++ passed rest ++ (e :: rest').map emptied =
          before ++ ((k, d) :: rest).map emptied := by
        have hMap : ((k, d) :: rest).map emptied = emptied (k, d) :: rest.map emptied := rfl
        rw [hMap, hTable, hFound, List.append_assoc, List.append_assoc]
        rfl
      have hRest := ih _ hKeys' hValid' hReady' (by omega)
      rw [hEntries] at hRest
      change (processSources fuel _).map _ = _
      rw [hRest, hHere, hWaiting, hFound]
      rfl

/-- One turn takes everything that waits, source by source in the order of the table. -/
theorem onPollThreadStep_eq {s : RTPSources} (hKeys : (keys s.sources).Nodup)
    (hReady : Ready s.sources) : onPollThreadStep s =
      some ({ s with sourcelist := ⟨s.sources.map emptied, .nowhere⟩ }, waiting s.sources) := by
  have hSeek := seekData_facing [] s.sources hKeys (Nat.lt_succ_self _)
  have hStart : s.sourcelist.gotoFirstElement = facing [] s.sources := by
    rw [CursorTable.gotoFirstElement, CursorTable.keys, List.head?_map]
    rfl
  obtain ⟨hTable, hWaiting, hNext⟩ := seek_spec hReady
  rw [onPollThreadStep, gotoFirstSourceWithData, hStart, hSeek, Option.map_some, Option.bind_some,
    hTable, hWaiting]
  cases hFound : found s.sources with
  | nil =>
    rw [facing, List.map_nil]
    rfl
  | cons e rest =>
    obtain ⟨hValid, hReady', hLength⟩ := hNext e rest hFound
    have hSplit := passed_append_found s.sources
    rw [hFound] at hSplit
    exact processSources_facing s (passed s.sources) (k := e.1) (d := e.2) (by rwa [hSplit])
      hValid hReady' hLength

/-! ## What a call does to the packets that wait -/

variable {s s' : RTPSources} {e : SourcesCall}

def dropped (s s' : RTPSources) : List (BitVec 32 × RTPPacket) :=
  waiting (s.sources.filter fun e => !s'.gotEntry e.1)

theorem dropped_of_keys (h : ∀ k ∈ keys s.sources, k ∈ keys s'.sources) : dropped s s' = [] := by
  have hNone : (s.sources.filter fun e => !s'.gotEntry e.1) = [] := by
    rw [List.filter_eq_nil_iff]
    intro e he
    have hMem : s'.gotEntry e.1 = true := decide_eq_true (h e.1 (List.mem_map_of_mem he))
    rw [hMem]
    exact Bool.false_ne_true
  rw [dropped, hNone]
  rfl

theorem waiting_keeps (h : Keeps s s') (hKeys : (keys s'.sources).Nodup) :
    waiting s'.sources = waiting s.sources := by
  obtain ⟨entered, hEntered⟩ := h.hKeys
  have hBoth := hKeys
  rw [hEntered] at hBoth
  have hOld := (List.nodup_append.mp hBoth).1
  let queue (k : BitVec 32) (d : RTPInternalSourceData) := d.packetlist.map fun q => (k, q)
  have hWaiting := flatMap_keys queue hOld
  have hWaiting' := flatMap_keys queue hKeys
  rw [hEntered, List.flatMap_append] at hWaiting'
  have hFresh : (entered.flatMap fun k => ((lookup k s'.sources).map (queue k)).getD []) = [] := by
    apply List.flatMap_eq_nil_iff.mpr
    intro k hk
    have hNone : lookup k s.sources = none := by
      rw [lookup_eq_none_iff]
      exact fun hMem => (List.nodup_append.mp hBoth).2.2 k hMem k hk rfl
    cases hHere : lookup k s'.sources with
    | none => rfl
    | some d =>
      have hTends := h.hSources k d hHere
      rw [hNone] at hTends
      change d.packetlist.map _ = []
      rw [hTends.hQueue]
      rfl
  have hStay : ((keys s.sources).flatMap fun k => ((lookup k s'.sources).map (queue k)).getD []) =
      (keys s.sources).flatMap fun k => ((lookup k s.sources).map (queue k)).getD [] := by
    apply List.flatMap_congr
    intro k hk
    obtain ⟨d, hd⟩ := exists_lookup hk
    obtain ⟨d', hd'⟩ : ∃ d', lookup k s'.sources = some d' := by
      apply exists_lookup
      rw [hEntered]
      exact List.mem_append_left _ hk
    have hTends := h.hSources k d' hd'
    rw [hd] at hTends
    rw [hd, hd']
    exact congrArg (List.map fun q => (k, q)) hTends.hQueue
  rw [hFresh, List.append_nil, hStay, ← hWaiting] at hWaiting'
  exact hWaiting'

/-- Of the packets of a timeout, those that stay and those that go. -/
theorem waiting_kept
    {visit : BitVec 32 → RTPInternalSourceData → Option RTPInternalSourceData}
    (hTends : ∀ k d d', visit k d = some d' → Tends d d')
    (l : List (BitVec 32 × RTPInternalSourceData)) : (waiting l).Perm
      (waiting (kept visit l) ++ waiting (l.filter fun e => (visit e.1 e.2).isNone)) := by
  induction l with
  | nil => exact List.Perm.refl _
  | cons e l ih =>
    have hHere : waiting (e :: l) = (e.2.packetlist.map fun q => (e.1, q)) ++ waiting l := rfl
    rw [hHere, kept_cons, waiting_append]
    cases hVisit : visit e.1 e.2 with
    | none =>
      rw [List.filter_cons_of_pos (by rw [hVisit]; rfl)]
      exact (ih.append_left _).trans (List.perm_append_comm_assoc _ _ _)
    | some d =>
      have hStays : waiting ((some d).map fun d => (e.1, d)).toList =
          e.2.packetlist.map fun q => (e.1, q) := by
        change (d.packetlist.map fun q => (e.1, q)) ++ [] = _
        rw [List.append_nil, (hTends _ _ _ hVisit).hQueue]
      rw [List.filter_cons_of_neg (by rw [hVisit]; exact Bool.false_ne_true), hStays,
        List.append_assoc]
      exact ih.append_left _

theorem dropped_of_kept (hKeys : (keys s.sources).Nodup)
    {visit : BitVec 32 → RTPInternalSourceData → Option RTPInternalSourceData}
    (hSources : s'.sources = kept visit s.sources) :
    dropped s s' = waiting (s.sources.filter fun e => (visit e.1 e.2).isNone) := by
  rw [dropped]
  congr 1
  apply List.filter_congr
  rintro ⟨k, d⟩ hMem
  have hLookup := lookup_of_mem hKeys hMem
  cases hVisit : visit k d with
  | some d' =>
    have hKept : (k, d') ∈ s'.sources := by
      rw [hSources]
      exact List.mem_filterMap.mpr ⟨(k, d), hMem, by rw [hVisit]; rfl⟩
    have hStays : k ∈ keys s'.sources := List.mem_map_of_mem (f := Prod.fst) hKept
    have hGot : s'.gotEntry k = true := decide_eq_true hStays
    rw [hGot]
    rfl
  | none =>
    have hGoes : k ∉ keys s'.sources := by
      intro hMem'
      obtain ⟨d', hd'⟩ := exists_lookup hMem'
      rw [hSources] at hd'
      obtain ⟨d₁, hd₁, hKept⟩ := lookup_kept hKeys hd'
      cases hLookup.symm.trans hd₁
      cases hVisit.symm.trans hKept
    have hGot : s'.gotEntry k = false := decide_eq_false hGoes
    rw [hGot]
    rfl

theorem packetlist_getNextPacket (d : RTPInternalSourceData) :
    d.packetlist = d.getNextPacket.2.toList ++ d.getNextPacket.1.packetlist := by
  rw [RTPInternalSourceData.getNextPacket]
  split
  · cases hQueue : d.packetlist with
    | nil => exact hQueue.symm
    | cons q packetlist => rfl
  · rfl

/-- The packets of a call: what waited or is queued is handed out, waits or is dropped. -/
theorem changes_waiting (hKeys : (keys s.sources).Nodup) (hKeys' : (keys s'.sources).Nodup)
    (h : Changes s s' e) : (s.stored e ++ waiting s.sources).Perm
      (s.handedOut e ++ waiting s'.sources ++ dropped s s') := by
  have hAround : ∀ before after k (d : RTPInternalSourceData),
      waiting (before ++ (k, d) :: after) =
        waiting before ++ ((d.packetlist.map fun q => (k, q)) ++ waiting after) :=
    fun before after k d => waiting_append before ((k, d) :: after)
  cases h with
  | tended hKeeps hStored hOut =>
    obtain ⟨entered, hEntered⟩ := hKeeps.hKeys
    have hNone : dropped s s' = [] :=
      dropped_of_keys fun k hk => hEntered ▸ List.mem_append_left _ hk
    rw [hStored, hOut, hNone, waiting_keeps hKeeps hKeys', List.append_nil]
  | @queued p t a s₁ s₂ d hGet hBefore hAddress hLookup hQueued hAfter =>
    obtain ⟨entered, hEntered⟩ := hBefore.hKeys
    obtain ⟨entered', hEntered'⟩ := hAfter.hKeys
    have hSame : keys s₂.sources = keys s₁.sources := by rw [hQueued, keys_store]
    have hKeys₁ : (keys s₁.sources).Nodup := by
      rw [hEntered', hSame] at hKeys'
      exact (List.nodup_append.mp hKeys').1
    have hNone : dropped s s' = [] := by
      apply dropped_of_keys
      intro k hk
      rw [hEntered', hSame, hEntered]
      exact List.mem_append_left _ (List.mem_append_left _ hk)
    obtain ⟨before, after, hSplit, hStore⟩ := exists_around hKeys₁ hLookup
    cases hResult : d.processRTPPacket p t with
    | mk d' isStored =>
      rw [hResult] at hQueued
      have hStored : s.stored (.processRTPPacket p t a) =
          (if isStored then [d.numbered p t] else []).map fun q => (p.ssrc, q) := by
        rw [stored, hGet]
        dsimp only
        rw [hResult]
        cases isStored <;> rfl
      have hMore := (perm_processRTPPacket hResult).map fun q => (p.ssrc, q)
      rw [List.map_append, ← hStored] at hMore
      have hWaiting : waiting s.sources = waiting before ++
          ((d.packetlist.map fun q => (p.ssrc, q)) ++ waiting after) := by
        rw [← waiting_keeps hBefore hKeys₁, hSplit, hAround]
      have hWaiting' : waiting s'.sources = waiting before ++
          ((d'.packetlist.map fun q => (p.ssrc, q)) ++ waiting after) := by
        rw [waiting_keeps hAfter hKeys', hQueued, hStore, hAround]
      rw [hNone, hWaiting, hWaiting', List.append_nil]
      refine (List.perm_append_comm_assoc _ _ _).trans (List.Perm.append_left _ ?_)
      rw [← List.append_assoc]
      exact hMore.symm.append_right _
  | @polled ssrc d hLookup hOut hSources =>
    obtain ⟨before, after, hSplit, hStore⟩ := exists_around hKeys hLookup
    have hNone : dropped s s' = [] := by
      apply dropped_of_keys
      rw [hSources, keys_store]
      exact fun k hk => hk
    have hFront : (d.packetlist.map fun q => (ssrc, q)) = s.handedOut .getNextPacket ++
        d.getNextPacket.1.packetlist.map fun q => (ssrc, q) := by
      rw [hOut, packetlist_getNextPacket d, List.map_append]
      congr 1
      cases d.getNextPacket.2 <;> rfl
    have hStored : s.stored .getNextPacket = [] := rfl
    rw [hStored, hNone, hSources, hStore, hSplit, hAround, hAround, hFront, List.nil_append,
      List.append_nil, List.append_assoc]
    exact List.perm_append_comm_assoc _ _ _
  | removed visit hSources hTends hStored hOut =>
    rw [hStored, hOut, dropped_of_kept hKeys hSources, hSources]
    exact waiting_kept hTends s.sources

/-- A call leaves no packet where it would be held back. -/
theorem changes_ready (hKeys' : (keys s'.sources).Nodup) (hReady : Ready s.sources)
    (h : Changes s s' e) : Ready s'.sources := by
  have hKeeps : ∀ {s s' : RTPSources}, Keeps s s' → (keys s'.sources).Nodup →
      Ready s.sources → Ready s'.sources := by
    rintro s s' hKeeps hKeys' hReady ⟨k, d'⟩ he
    have hTends := hKeeps.hSources k d' (lookup_of_mem hKeys' he)
    cases hOld : lookup k s.sources with
    | none =>
      rw [hOld] at hTends
      exact Or.inr hTends.hQueue
    | some d =>
      rw [hOld] at hTends
      rcases hReady (k, d) (mem_of_lookup hOld) with hValid | hEmpty
      · exact Or.inl (hTends.hValidated hValid)
      · exact Or.inr (hTends.hQueue.trans hEmpty)
  cases h with
  | tended h hStored hOut => exact hKeeps h hKeys' hReady
  | @queued p t a s₁ s₂ d hGet hBefore hAddress hLookup hQueued hAfter =>
    obtain ⟨entered', hEntered'⟩ := hAfter.hKeys
    have hSame : keys s₂.sources = keys s₁.sources := by rw [hQueued, keys_store]
    have hKeys₂ : (keys s₂.sources).Nodup := by
      rw [hEntered'] at hKeys'
      exact (List.nodup_append.mp hKeys').1
    have hReady₁ := hKeeps hBefore (hSame ▸ hKeys₂) hReady
    apply hKeeps hAfter hKeys'
    rintro ⟨k, d'⟩ he
    rw [hQueued, Dictionary.store] at he
    obtain ⟨x, hx, hEq⟩ := List.mem_map.mp he
    split at hEq
    · cases hEq
      exact Or.inl (validated_processRTPPacket p t d)
    · cases hEq
      exact hReady₁ _ hx
  | @polled ssrc d hLookup hOut hSources =>
    rintro ⟨k, d'⟩ he
    rw [hSources, Dictionary.store] at he
    obtain ⟨x, hx, hEq⟩ := List.mem_map.mp he
    split at hEq
    · cases hEq
      change d.getNextPacket.1.validated = true ∨ d.getNextPacket.1.packetlist = []
      rw [RTPInternalSourceData.getNextPacket]
      split
      · rename_i hValid
        left
        split <;> exact hValid
      · exact hReady (ssrc, d) (mem_of_lookup hLookup)
    · cases hEq
      exact hReady _ hx
  | removed visit hSources hTends hStored hOut =>
    rintro ⟨k, d'⟩ he
    rw [hSources] at he
    obtain ⟨⟨k₁, d⟩, hMem, hEq⟩ := List.mem_filterMap.mp he
    obtain ⟨d₁, hVisit, hEq⟩ := Option.map_eq_some_iff.mp hEq
    cases hEq
    have hStays := hTends _ _ _ hVisit
    rcases hReady _ hMem with hValid | hEmpty
    · exact Or.inl (hStays.hValidated hValid)
    · exact Or.inr (hStays.hQueue.trans hEmpty)

end CustomRTPSession

/-! ## Whole runs -/

inductive PollEvent where
  | call (e : SourcesCall)
  | pollThreadStep

/-- A table with the packets that were queued, those that were processed, and those that were
dropped with their sources. -/
structure PollTrace where
  sources : RTPSources
  stored : List (BitVec 32 × RTPPacket)
  processed : List (BitVec 32 × RTPPacket)
  dropped : List (BitVec 32 × RTPPacket)

namespace PollTrace

open RTPSources RTPInternalSourceData CustomRTPSession

def new : PollTrace := ⟨.new, [], [], []⟩

def step (x : PollTrace) : PollEvent → Option PollTrace
  | .call e => (x.sources.perform e).map fun sources => ⟨sources,
      x.stored ++ x.sources.stored e, x.processed ++ x.sources.handedOut e,
      x.dropped ++ CustomRTPSession.dropped x.sources sources⟩
  | .pollThreadStep => (onPollThreadStep x.sources).map fun y =>
      { x with sources := y.1, processed := x.processed ++ y.2 }

/-- Every packet that was queued was processed once, or waits, or went with its source. -/
def ProcessedOnce (x : PollTrace) : Prop :=
  x.stored.Perm (x.processed ++ waiting x.sources.sources ++ x.dropped)

/-- A turn of the poll thread would end, and process every packet that waits. -/
def PollsEverything (x : PollTrace) : Prop :=
  ∃ s', onPollThreadStep x.sources = some (s', waiting x.sources.sources) ∧
    waiting s'.sources = [] ∧ keys s'.sources = keys x.sources.sources

structure Settled (x : PollTrace) : Prop where
  hSound : x.sources.Sound
  hReady : Ready x.sources.sources
  hOnce : x.ProcessedOnce

theorem sound_emptied {s : RTPSources} (h : s.Sound) :
    Sound { s with sourcelist := ⟨s.sources.map emptied, .nowhere⟩ } := by
  refine ⟨?_, ?_, ?_⟩
  · change (keys (s.sources.map emptied)).Nodup
    rw [keys_emptied]
    exact h.hKeys
  · change s.totalcount = (s.sources.map emptied).length
    rw [List.length_map]
    exact h.hTotal
  · change s.sendercount = tally issender (s.sources.map emptied)
    rw [tally, List.countP_map]
    exact h.hSenders

theorem waiting_emptied (l : List (BitVec 32 × RTPInternalSourceData)) :
    waiting (l.map emptied) = [] := by
  rw [waiting, List.flatMap_map]
  exact List.flatMap_eq_nil_iff.mpr fun _ _ => rfl

theorem perm_balance {α : Type} {all out here gone more out' here' gone' : List α}
    (h : all.Perm (out ++ here ++ gone)) (hStep : (more ++ here).Perm (out' ++ here' ++ gone')) :
    (all ++ more).Perm (out ++ out' ++ here' ++ (gone ++ gone')) := by
  rw [← Multiset.coe_eq_coe] at h hStep ⊢
  simp only [← Multiset.coe_add] at h hStep ⊢
  rw [h]
  calc
    (out + here + gone + more : Multiset α) = out + gone + (more + here) := by abel
    _ = out + gone + (out' + here' + gone') := by rw [hStep]
    _ = out + out' + here' + (gone + gone') := by abel

theorem Settled.step {x x' : PollTrace} {e : PollEvent} (h : x.Settled)
    (hStep : x.step e = some x') : x'.Settled := by
  cases e with
  | call e =>
    obtain ⟨s', hPerform, rfl⟩ := Option.map_eq_some_iff.mp hStep
    have hSound := (perform_spec h.hSound hPerform).1
    have hChanges := changes_perform h.hSound.hKeys hPerform
    refine ⟨hSound, changes_ready hSound.hKeys h.hReady hChanges, ?_⟩
    exact perm_balance h.hOnce (changes_waiting h.hSound.hKeys hSound.hKeys hChanges)
  | pollThreadStep =>
    obtain ⟨y, hPoll, rfl⟩ := Option.map_eq_some_iff.mp hStep
    rw [onPollThreadStep_eq h.hSound.hKeys h.hReady] at hPoll
    cases hPoll
    refine ⟨sound_emptied h.hSound, ?_, ?_⟩
    · intro e he
      obtain ⟨x, -, rfl⟩ := List.mem_map.mp he
      exact Or.inr rfl
    · have hNothing := waiting_emptied x.sources.sources
      change x.stored.Perm (x.processed ++ waiting x.sources.sources ++
        waiting (x.sources.sources.map emptied) ++ x.dropped)
      rw [hNothing, List.append_nil]
      exact h.hOnce

theorem settled_new : new.Settled :=
  ⟨sound_new, fun _ he => absurd he List.not_mem_nil, List.Perm.refl []⟩

theorem always_processedOnce (es : List PollEvent) : Always step ProcessedOnce new es :=
  always_of_invariant Settled.step Settled.hOnce settled_new

theorem always_pollsEverything (es : List PollEvent) : Always step PollsEverything new es := by
  refine always_of_invariant Settled.step ?_ settled_new
  intro x h
  refine ⟨_, onPollThreadStep_eq h.hSound.hKeys h.hReady, ?_, ?_⟩
  · exact waiting_emptied x.sources.sources
  · exact keys_emptied x.sources.sources

end PollTrace
end LocalCall.Jrtp
