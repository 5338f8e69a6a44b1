import LocalCall.Library.Dictionary
import LocalCall.Jrtp.KeyHashTable
import LocalCall.Jrtp.SourceData

/-! # The table of the participants

`RTPSources` with the collision flag of `RTPSessionSources`. The table is the dictionary that the
hash table is; a write through a pointer to a source is a `store`. The loops of the timeouts come by
every entry once, which `RTPKeyHashTable.sweep_run` says of the walk in the table.
-/
namespace LocalCall.Jrtp
set_option autoImplicit false

open Dictionary

/-- An address, or NULL for the own session. -/
abbrev RTPAddress := Option Jni.RTPIPv4Address

def isSameAddress (a : Jni.RTPIPv4Address) : RTPAddress → Bool
  | none => false
  | some addr => addr.ip = a.ip && addr.port = a.port

def isFromSameHost (a : Jni.RTPIPv4Address) : RTPAddress → Bool
  | none => false
  | some addr => addr.ip = a.ip

namespace RTPInternalSourceData

/-- `isrtp` chooses between the addresses for RTP and for RTCP. -/
def dataAddress (isrtp : Bool) (d : RTPInternalSourceData) : Option RTPAddress :=
  if isrtp then d.rtpaddr else d.rtcpaddr

def setDataAddress (isrtp : Bool) (a : RTPAddress) (d : RTPInternalSourceData) :
    RTPInternalSourceData :=
  if isrtp then { d with rtpaddr := some a } else { d with rtcpaddr := some a }

/-- `RTPSources::CheckCollision`: the source with its address, or none on a collision. -/
def checkCollision (senderaddress : RTPAddress) (isrtp : Bool) (srcdat : RTPInternalSourceData) :
    Option RTPInternalSourceData :=
  match srcdat.dataAddress isrtp with
  | none =>
    match srcdat.dataAddress (!isrtp) with
    | none => some (srcdat.setDataAddress isrtp senderaddress)
    | some none =>
      if senderaddress.isSome then none else some (srcdat.setDataAddress isrtp senderaddress)
    | some (some otheraddr) =>
      if isFromSameHost otheraddr senderaddress then
        some (srcdat.setDataAddress isrtp senderaddress)
      else none
  | some none => if senderaddress.isSome then none else some srcdat
  | some (some addr) => if isSameAddress addr senderaddress then some srcdat else none

end RTPInternalSourceData

structure RTPSources where
  sourcelist : CursorTable (BitVec 32) RTPInternalSourceData
  owndata : Option (BitVec 32)
  totalcount : Int
  sendercount : Int
  activecount : Int
  owncollision : Bool

inductive SDESType where
  | item (i : SDESItem)
  | priv
  | unknown
  deriving DecidableEq

/-- A packet of a compound packet, as far as the source table reads it: who sent it, and of a report
block whom it is about. -/
inductive RTCPPacket where
  | sr (senderssrc : BitVec 32) (reports : List (BitVec 32))
  | rr (senderssrc : BitVec 32) (reports : List (BitVec 32))
  | sdes (chunks : List (BitVec 32 × List (SDESType × List UInt8)))
  | bye (ssrcs : List (BitVec 32)) (reason : List UInt8)
  | app
  | unknown

namespace RTPSources

def new : RTPSources := ⟨CursorTable.new, none, 0, 0, 0, false⟩

def hashed : BitVec 32 → Bool := fun _ => true

def sources (s : RTPSources) : List (BitVec 32 × RTPInternalSourceData) := s.sourcelist.entries

def gotEntry (ssrc : BitVec 32) (s : RTPSources) : Bool := decide (ssrc ∈ s.sourcelist.keys)

def store (ssrc : BitVec 32) (srcdat : RTPInternalSourceData) (s : RTPSources) : RTPSources :=
  { s with sourcelist :=
      { s.sourcelist with entries := Dictionary.store ssrc srcdat s.sourcelist.entries } }

def onSSRCCollision (srcdat : RTPInternalSourceData) (s : RTPSources) : RTPSources :=
  { s with owncollision := s.owncollision || srcdat.ownssrc }

def obtainSourceDataInstance (ssrc : BitVec 32) (s : RTPSources) :
    RTPSources × RTPInternalSourceData × Bool :=
  let sourcelist := (s.sourcelist.gotoElement hashed ssrc).1
  match lookup ssrc s.sources with
  | none =>
    let srcdat2 := RTPInternalSourceData.new ssrc
    ({ s with
        sourcelist := (sourcelist.addElement hashed ssrc srcdat2).1
        totalcount := s.totalcount + 1 }, srcdat2, true)
  | some srcdat => ({ s with sourcelist }, srcdat, false)

/-- The source that a message is for, none if the message comes from elsewhere. -/
def getSourceData (isrtp : Bool) (ssrc : BitVec 32) (senderaddress : RTPAddress) (s : RTPSources) :
    RTPSources × Option RTPInternalSourceData :=
  let (s, srcdat, created) := s.obtainSourceDataInstance ssrc
  if created then
    let srcdat := srcdat.setDataAddress isrtp senderaddress
    (s.store ssrc srcdat, some srcdat)
  else
    match srcdat.checkCollision senderaddress isrtp with
    | none => (s.onSSRCCollision srcdat, none)
    | some srcdat => (s.store ssrc srcdat, some srcdat)

def getRTCPSourceData (ssrc : BitVec 32) (senderaddress : RTPAddress) (s : RTPSources) :
    RTPSources × Option RTPInternalSourceData := s.getSourceData false ssrc senderaddress

/-! ## The own source -/

def createOwnSSRC (ssrc : BitVec 32) (s : RTPSources) : RTPSources × Bool :=
  if s.owndata.isSome then (s, false)
  else if s.gotEntry ssrc then (s, false)
  else
    let (s, srcdat, _) := s.obtainSourceDataInstance ssrc
    let srcdat := (srcdat.setOwnSSRC.setDataAddress true none).setDataAddress false none
    ({ s.store ssrc srcdat with owndata := some ssrc, activecount := s.activecount + 1 }, true)

def deleteOwnSSRC (s : RTPSources) : RTPSources × Bool :=
  match s.owndata with
  | none => (s, false)
  | some ssrc =>
    match lookup ssrc s.sources, s.sourcelist.deleteElement hashed ssrc with
    | some srcdat, some (sourcelist, _) =>
      ({ s with
          sourcelist
          owndata := none
          totalcount := s.totalcount - 1
          sendercount := if srcdat.issender then s.sendercount - 1 else s.sendercount
          activecount := if srcdat.isActive then s.activecount - 1 else s.activecount }, true)
    | _, _ => (s, false)

def sentRTPPacket (now : RTPTime) (s : RTPSources) : RTPSources :=
  match s.owndata with
  | none => s
  | some ssrc =>
    match lookup ssrc s.sources with
    | none => s
    | some owndata =>
      let srcdat := owndata.sentRTPPacket now
      { s.store ssrc srcdat with
        sendercount :=
          if !owndata.issender && srcdat.issender then s.sendercount + 1 else s.sendercount }

/-! ## Incoming RTP packets -/

/-- The source of one of the CSRCs. A source that was there before is not counted as active. -/
def processCSRC (senderaddress : RTPAddress) (s : RTPSources) (csrc : BitVec 32) : RTPSources :=
  let (s, csrcdat, createdcsrc) := s.obtainSourceDataInstance csrc
  if createdcsrc then
    let csrcdat := csrcdat.setCSRC
    { s.store csrc csrcdat with
      activecount := if csrcdat.isActive then s.activecount + 1 else s.activecount }
  else
    match csrcdat.checkCollision senderaddress true with
    | none => s.onSSRCCollision csrcdat
    | some csrcdat => s.store csrc csrcdat.setCSRC

def csrcs (rtppack : RTPPacket) : List (BitVec 32) :=
  (List.range rtppack.numcsrcs).map rtppack.getCSRC

/-- `ProcessRTPPacket`, and whether the packet was stored. -/
def processRTPPacket (rtppack : RTPPacket) (receivetime : RTPTime) (senderaddress : RTPAddress)
    (s : RTPSources) : RTPSources × Bool :=
  match s.getSourceData true rtppack.ssrc senderaddress with
  | (s, none) => (s, false)
  | (s, some srcdat) =>
    let (after, stored) := srcdat.processRTPPacket rtppack receivetime
    let s := { s.store rtppack.ssrc after with
      sendercount := if !srcdat.issender && after.issender then s.sendercount + 1 else s.sendercount
      activecount := if !srcdat.isActive && after.isActive then s.activecount + 1 else s.activecount }
    if after.validated then ((csrcs rtppack).foldl (processCSRC senderaddress) s, stored)
    else (s, stored)

/-! ## Incoming RTCP packets -/

def updateReceiveTime (ssrc : BitVec 32) (receivetime : RTPTime) (senderaddress : RTPAddress)
    (s : RTPSources) : RTPSources :=
  match s.getRTCPSourceData ssrc senderaddress with
  | (s, none) => s
  | (s, some srcdat) => s.store ssrc (srcdat.setLastMessageTime receivetime)

/-- The contents of the report are left out. -/
def processRTCPSenderInfo (ssrc : BitVec 32) (receivetime : RTPTime) (senderaddress : RTPAddress)
    (s : RTPSources) : RTPSources := s.updateReceiveTime ssrc receivetime senderaddress

def processRTCPReportBlock (ssrc : BitVec 32) (receivetime : RTPTime) (senderaddress : RTPAddress)
    (s : RTPSources) : RTPSources := s.updateReceiveTime ssrc receivetime senderaddress

/-- Whether there is no error. -/
def processSDESNormalItem (ssrc : BitVec 32) (t : SDESType) (itemdata : List UInt8)
    (receivetime : RTPTime) (senderaddress : RTPAddress) (s : RTPSources) : RTPSources × Bool :=
  match t with
  | .item sdesid =>
    match s.getRTCPSourceData ssrc senderaddress with
    | (s, none) => (s, true)
    | (s, some srcdat) =>
      let (after, status, _) := srcdat.processSDESItem sdesid itemdata receivetime
      ({ s.store ssrc after with
          activecount :=
            if !srcdat.isActive && after.isActive then s.activecount + 1 else s.activecount },
        status)
  | _ => (s, false)

def processBYE (ssrc : BitVec 32) (reasondata : List UInt8) (receivetime : RTPTime)
    (senderaddress : RTPAddress) (s : RTPSources) : RTPSources :=
  match s.getRTCPSourceData ssrc senderaddress with
  | (s, none) => s
  | (s, some srcdat) =>
    if s.owndata = some ssrc then s
    else
      let after := srcdat.processBYEPacket reasondata receivetime
      { s.store ssrc after with
        activecount :=
          if srcdat.isActive && !after.isActive then s.activecount - 1 else s.activecount }

/-- What a sender or receiver report is followed by: the blocks about the own source, or the time at
which the sender was heard. -/
def processReports (senderssrc : BitVec 32) (reports : List (BitVec 32))
    (ownssrc : Option (BitVec 32)) (receivetime : RTPTime) (senderaddress : RTPAddress)
    (s : RTPSources) : RTPSources :=
  let forUs := reports.filter fun ssrc => some ssrc = ownssrc
  if forUs.isEmpty then s.updateReceiveTime senderssrc receivetime senderaddress
  else forUs.foldl
    (fun s _ => s.processRTCPReportBlock senderssrc receivetime senderaddress) s

/-- The items of a chunk until one of them is in error; private ones are not compiled in. -/
def processSDESItems (sdesssrc : BitVec 32) (receivetime : RTPTime) (senderaddress : RTPAddress) :
    List (SDESType × List UInt8) → RTPSources → RTPSources × Bool
  | [], s => (s, true)
  | (.priv, _) :: items, s => processSDESItems sdesssrc receivetime senderaddress items s
  | (t, itemdata) :: items, s =>
    match s.processSDESNormalItem sdesssrc t itemdata receivetime senderaddress with
    | (s, false) => (s, false)
    | (s, true) => processSDESItems sdesssrc receivetime senderaddress items s

def processSDESChunks (receivetime : RTPTime) (senderaddress : RTPAddress) :
    List (BitVec 32 × List (SDESType × List UInt8)) → RTPSources → RTPSources × Bool
  | [], s => (s, true)
  | (sdesssrc, items) :: chunks, s =>
    match processSDESItems sdesssrc receivetime senderaddress items s with
    | (s, false) => (s, false)
    | (s, true) =>
      let updated := items.any fun i => i.1 ≠ .priv
      processSDESChunks receivetime senderaddress chunks
        (if updated then s else s.updateReceiveTime sdesssrc receivetime senderaddress)

def processRTCPPacket (ownssrc : Option (BitVec 32)) (receivetime : RTPTime)
    (senderaddress : RTPAddress) (s : RTPSources) : RTCPPacket → RTPSources × Bool
  | .sr senderssrc reports =>
    ((s.processRTCPSenderInfo senderssrc receivetime senderaddress).processReports senderssrc
      reports ownssrc receivetime senderaddress, true)
  | .rr senderssrc reports =>
    (s.processReports senderssrc reports ownssrc receivetime senderaddress, true)
  | .sdes chunks => processSDESChunks receivetime senderaddress chunks s
  | .bye ssrcs reason =>
    (ssrcs.foldl (fun s ssrc => s.processBYE ssrc reason receivetime senderaddress) s, true)
  | .app => (s, true)
  | .unknown => (s, true)

/-- The packets of a compound packet until one of them is in error. -/
def processRTCPPackets (ownssrc : Option (BitVec 32)) (receivetime : RTPTime)
    (senderaddress : RTPAddress) : List RTCPPacket → RTPSources → RTPSources × Bool
  | [], s => (s, true)
  | rtcppack :: packets, s =>
    match s.processRTCPPacket ownssrc receivetime senderaddress rtcppack with
    | (s, false) => (s, false)
    | (s, true) => processRTCPPackets ownssrc receivetime senderaddress packets s

/-- `gotownssrc` and `ownssrc` are read before the first packet. -/
def processRTCPCompoundPacket (packets : List RTCPPacket) (receivetime : RTPTime)
    (senderaddress : RTPAddress) (s : RTPSources) : RTPSources × Bool :=
  processRTCPPackets s.owndata receivetime senderaddress packets s

/-! ## Timeouts -/

/-- What a timeout counts anew: all sources, senders, active members. -/
structure NewCounts where
  newtotalcount : Int
  newsendercount : Int
  newactivecount : Int

/-- One turn of the loop of a timeout. `visit` says what becomes of a source, none if it is
deleted. -/
def timeoutStep (visit : BitVec 32 → RTPInternalSourceData → Option RTPInternalSourceData)
    (x : RTPSources × NewCounts) (e : BitVec 32 × RTPInternalSourceData) :
    RTPSources × NewCounts :=
  let (s, new) := x
  match visit e.1 e.2 with
  | none =>
    ({ s with
        totalcount := s.totalcount - 1
        sendercount := if e.2.issender then s.sendercount - 1 else s.sendercount
        activecount := if e.2.isActive then s.activecount - 1 else s.activecount }, new)
  | some srcdat =>
    ({ s with
        sourcelist := { s.sourcelist with entries := s.sourcelist.entries ++ [(e.1, srcdat)] }
        sendercount := if e.2.issender && !srcdat.issender then s.sendercount - 1
          else s.sendercount },
      { newtotalcount := new.newtotalcount + 1
        newsendercount := if srcdat.issender then new.newsendercount + 1 else new.newsendercount
        newactivecount :=
          if e.2.isActive then new.newactivecount + 1 else new.newactivecount })

/-- The loop of a timeout, and the new counts put in the place of the old ones behind it. -/
def timeoutLoop (visit : BitVec 32 → RTPInternalSourceData → Option RTPInternalSourceData)
    (s : RTPSources) : RTPSources :=
  let (after, new) := s.sources.foldl (timeoutStep visit)
    ({ s with sourcelist := ⟨[], .nowhere⟩ }, ⟨0, 0, 0⟩)
  { after with
    totalcount := new.newtotalcount
    sendercount := new.newsendercount
    activecount := new.newactivecount }

def isOwn (s : RTPSources) (ssrc : BitVec 32) : Bool := s.owndata = some ssrc

def timeout (curtime timeoutdelay : RTPTime) (s : RTPSources) : RTPSources :=
  let checktime := curtime.sub timeoutdelay
  s.timeoutLoop fun ssrc d =>
    if !s.isOwn ssrc && d.stats.lastmsgtime.lt checktime then none else some d

def senderTimeout (curtime timeoutdelay : RTPTime) (s : RTPSources) : RTPSources :=
  let checktime := curtime.sub timeoutdelay
  s.timeoutLoop fun _ d =>
    if d.issender && d.stats.lastrtptime.lt checktime then some d.clearSenderFlag else some d

def byeTimeout (curtime timeoutdelay : RTPTime) (s : RTPSources) : RTPSources :=
  let checktime := curtime.sub timeoutdelay
  s.timeoutLoop fun ssrc d =>
    if d.receivedbye && (!s.isOwn ssrc && d.byetime.lt checktime) then none else some d

def expireNote (checktime : RTPTime) (d : RTPInternalSourceData) : RTPInternalSourceData :=
  if d.sdesInf .note ≠ [] ∧ d.stats.lastnotetime.lt checktime then d.clearNote else d

def noteTimeout (curtime timeoutdelay : RTPTime) (s : RTPSources) : RTPSources :=
  s.timeoutLoop fun _ d => some (expireNote (curtime.sub timeoutdelay) d)

def multipleTimeouts (curtime sendertimeout byetimeout generaltimeout notetimeout : RTPTime)
    (s : RTPSources) : RTPSources :=
  let senderchecktime := curtime.sub sendertimeout
  let byechecktime := curtime.sub byetimeout
  let generaltchecktime := curtime.sub generaltimeout
  let notechecktime := curtime.sub notetimeout
  s.timeoutLoop fun ssrc d =>
    let d := expireNote notechecktime d
    if d.receivedbye && (!s.isOwn ssrc && d.byetime.lt byechecktime) then none
    else if !s.isOwn ssrc && d.stats.lastmsgtime.lt generaltchecktime then none
    else if d.issender && d.stats.lastrtptime.lt senderchecktime then some d.clearSenderFlag
    else some d

/-! ## Going through the sources -/

/-- `ClearSourceList` leaves the cursor behind the list. -/
def clear (s : RTPSources) : RTPSources :=
  { s with
    sourcelist := ⟨[], .nowhere⟩
    owndata := none
    totalcount := 0
    sendercount := 0
    activecount := 0 }

def current (t : CursorTable (BitVec 32) RTPInternalSourceData) :
    Option (BitVec 32 × RTPInternalSourceData) :=
  t.currentKey.bind fun ssrc => (lookup ssrc t.entries).map fun d => (ssrc, d)

/-- `while (!found && HasCurrentElement())`, the loop that looks for a source with data; at most
`fuel` turns. -/
def seekData : Nat → CursorTable (BitVec 32) RTPInternalSourceData →
    Option (CursorTable (BitVec 32) RTPInternalSourceData × Bool)
  | 0, _ => none
  | fuel + 1, t =>
    t.hasCurrentElement.bind fun has =>
      if has then
        (current t).bind fun e =>
          if e.2.hasData then some (t, true) else t.gotoNextElement.bind (seekData fuel)
      else some (t, false)

def gotoFirstSourceWithData (s : RTPSources) : Option (RTPSources × Bool) :=
  (seekData (s.sources.length + 1) s.sourcelist.gotoFirstElement).map fun (sourcelist, found) =>
    ({ s with sourcelist }, found)

def gotoNextSourceWithData (s : RTPSources) : Option (RTPSources × Bool) :=
  (s.sourcelist.gotoNextElement.bind (seekData (s.sources.length + 1))).map
    fun (sourcelist, found) => ({ s with sourcelist }, found)

/-- The loop goes forward here too. -/
def gotoPreviousSourceWithData (s : RTPSources) : Option (RTPSources × Bool) :=
  (s.sourcelist.gotoPreviousElement.bind (seekData (s.sources.length + 1))).map
    fun (sourcelist, found) => ({ s with sourcelist }, found)

def getNextPacket (s : RTPSources) : Option (RTPSources × Option RTPPacket) :=
  s.sourcelist.hasCurrentElement.bind fun has =>
    if has then
      (current s.sourcelist).map fun e =>
        (s.store e.1 e.2.getNextPacket.1, e.2.getNextPacket.2)
    else some (s, none)

def gotoFirstSource (s : RTPSources) : RTPSources :=
  { s with sourcelist := s.sourcelist.gotoFirstElement }

def gotoNextSource (s : RTPSources) : Option RTPSources :=
  s.sourcelist.gotoNextElement.map fun sourcelist => { s with sourcelist }

def gotoPreviousSource (s : RTPSources) : Option RTPSources :=
  s.sourcelist.gotoPreviousElement.map fun sourcelist => { s with sourcelist }

def getSourceInfo (ssrc : BitVec 32) (s : RTPSources) :
    RTPSources × Option RTPInternalSourceData :=
  ({ s with sourcelist := (s.sourcelist.gotoElement hashed ssrc).1 }, lookup ssrc s.sources)

end RTPSources

inductive SourcesCall where
  | clear
  | createOwnSSRC (ssrc : BitVec 32)
  | deleteOwnSSRC
  | sentRTPPacket (now : RTPTime)
  | clearOwnCollisionFlag
  | processRTPPacket (rtppack : RTPPacket) (receivetime : RTPTime) (senderaddress : RTPAddress)
  | processRTCPCompoundPacket (packets : List RTCPPacket) (receivetime : RTPTime)
      (senderaddress : RTPAddress)
  | timeout (curtime timeoutdelay : RTPTime)
  | senderTimeout (curtime timeoutdelay : RTPTime)
  | byeTimeout (curtime timeoutdelay : RTPTime)
  | noteTimeout (curtime timeoutdelay : RTPTime)
  | multipleTimeouts (curtime sendertimeout byetimeout generaltimeout notetimeout : RTPTime)
  | gotoFirstSource
  | gotoNextSource
  | gotoPreviousSource
  | gotoFirstSourceWithData
  | gotoNextSourceWithData
  | gotoPreviousSourceWithData
  | getSourceInfo (ssrc : BitVec 32)
  | getNextPacket

/-- A call of a member function; none where it goes through a cursor that has no value. -/
def RTPSources.perform (s : RTPSources) : SourcesCall → Option RTPSources
  | .clear => some s.clear
  | .createOwnSSRC ssrc => some (s.createOwnSSRC ssrc).1
  | .deleteOwnSSRC => some s.deleteOwnSSRC.1
  | .sentRTPPacket now => some (s.sentRTPPacket now)
  | .clearOwnCollisionFlag => some { s with owncollision := false }
  | .processRTPPacket p t a => some (s.processRTPPacket p t a).1
  | .processRTCPCompoundPacket ps t a => some (s.processRTCPCompoundPacket ps t a).1
  | .timeout c d => some (s.timeout c d)
  | .senderTimeout c d => some (s.senderTimeout c d)
  | .byeTimeout c d => some (s.byeTimeout c d)
  | .noteTimeout c d => some (s.noteTimeout c d)
  | .multipleTimeouts c sd bd gd nd => some (s.multipleTimeouts c sd bd gd nd)
  | .gotoFirstSource => some s.gotoFirstSource
  | .gotoNextSource => s.gotoNextSource
  | .gotoPreviousSource => s.gotoPreviousSource
  | .gotoFirstSourceWithData => s.gotoFirstSourceWithData.map Prod.fst
  | .gotoNextSourceWithData => s.gotoNextSourceWithData.map Prod.fst
  | .gotoPreviousSourceWithData => s.gotoPreviousSourceWithData.map Prod.fst
  | .getSourceInfo ssrc => some (s.getSourceInfo ssrc).1
  | .getNextPacket => s.getNextPacket.map Prod.fst

end LocalCall.Jrtp
