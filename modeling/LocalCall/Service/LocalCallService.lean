import LocalCall.Jni.CustomRtpSession
import LocalCall.Socket.CtlSocket
import LocalCall.Utils.AudioSync
import LocalCall.Utils.MultiCastSender

/-! # The service

The binder calls, the pump threads of `startRecorder`, the audio thread, the advertising thread,
the poll thread of the RTP session and the threads of the control sockets all act on one service
object. A step is one call or one turn of one thread. Sockets are kept in the order of their
construction, and the fields of the service hold their indices; `written` records the frames
passed to `Rtp.write` with the destinations of the session at that moment.
-/
namespace LocalCall.Service
open Java Jni Utils Socket
set_option autoImplicit false

variable {S K : Type}

/-- Where a pump thread stands in `while (!stopRecorder)`: at the test, at the read from the
queue, or holding what it read. -/
inductive Pump (S : Type) where
  | test
  | read
  | holding (data : Option (List S))
  | ended
  deriving DecidableEq

structure Written (S : Type) where
  data : List S
  destinations : Finset RTPIPv4Address
  deriving DecidableEq

structure LocalCallService (S K : Type) where
  mRtp : Rtp K
  mMultiCastSender : MultiCastSender
  mAudioSync : AudioSync S
  stopRecorder : Bool
  mCtlServerSocket : Option Nat
  mCtlSocket : Option Nat
  mCtlPort : Int
  servers : List CtlServerSocket
  clients : List CtlSocket
  pumps : List (Pump S)
  written : List (Written S)
  deriving DecidableEq

def rtpLocalPort : Int := 40018

def destinationsOf (r : Rtp K) : Finset RTPIPv4Address :=
  match r.mJavaRtp with
  | none => ∅
  | some j => j.mMyRTPSession.destinations

namespace LocalCallService

/-- `onCreate`, up to the receiver of the advertisements. -/
def onCreate (codec : K) (opened : Option Nat) (outcome : CreateOutcome) :
    LocalCallService S K :=
  let (port, server) := CtlServerSocket.new.open opened
  { mRtp := ((Rtp.new codec).openRtp rtpLocalPort outcome).2
    mMultiCastSender := .new port
    mAudioSync := .new
    stopRecorder := false
    mCtlServerSocket := some 0
    mCtlSocket := none
    mCtlPort := port
    servers := [server]
    clients := []
    pumps := []
    written := [] }

def startRecorder (ip : Text) (s : LocalCallService S K) :
    Except Thrown Bool × LocalCallService S K :=
  if mPatternFind ip then
    match s.mRtp.addRtpDestinationIp ip with
    | (.error e, r) => (.error e, { s with mRtp := r })
    | (.ok _, r) =>
      (.ok true, { s with
        mRtp := r
        stopRecorder := false
        mAudioSync := s.mAudioSync.startRecorder.stopPlayer
        pumps := s.pumps ++ [.test] })
  else (.ok false, s)

/-- The binder call of this name; the field it sets is called the same. -/
def stopRecorderCall (s : LocalCallService S K) : LocalCallService S K :=
  { s with stopRecorder := true, mAudioSync := s.mAudioSync.stopRecorder.startPlayer }

def startPlayer (s : LocalCallService S K) : LocalCallService S K :=
  { s with mAudioSync := s.mAudioSync.startPlayer }

def stopPlayer (s : LocalCallService S K) : LocalCallService S K :=
  { s with mAudioSync := s.mAudioSync.stopPlayer }

def closeServer (s : LocalCallService S K) : LocalCallService S K :=
  match s.mCtlServerSocket with
  | none => s
  | some i => { s with
      servers := s.servers.modify i CtlServerSocket.close
      mCtlServerSocket := none }

def closeClient (s : LocalCallService S K) : LocalCallService S K :=
  match s.mCtlSocket with
  | none => s
  | some i => { s with clients := s.clients.modify i CtlSocket.closeConnect }

def connectServer (ip : Text) (port : Int) (s : LocalCallService S K) : LocalCallService S K :=
  let s := s.closeServer.closeClient
  { s with
    clients := s.clients ++ [CtlSocket.new.connectServer ip port]
    mCtlSocket := some s.clients.length }

/-- The port that the new server obtained is an input, none when it could not be opened. -/
def disconnectServer (opened : Option Nat) (s : LocalCallService S K) : LocalCallService S K :=
  let s := s.closeServer
  let (port, server) := CtlServerSocket.new.open opened
  let s := { s with
    servers := s.servers ++ [server]
    mCtlServerSocket := some s.servers.length
    mCtlPort := port }
  s.closeClient

structure SameMedia (s s' : LocalCallService S K) : Prop where
  mRtp : s'.mRtp = s.mRtp
  mAudioSync : s'.mAudioSync = s.mAudioSync
  stopRecorder : s'.stopRecorder = s.stopRecorder
  pumps : s'.pumps = s.pumps
  written : s'.written = s.written

theorem SameMedia.trans {s s' s'' : LocalCallService S K} (h : SameMedia s s')
    (h' : SameMedia s' s'') : SameMedia s s'' :=
  ⟨h'.mRtp.trans h.mRtp, h'.mAudioSync.trans h.mAudioSync, h'.stopRecorder.trans h.stopRecorder,
    h'.pumps.trans h.pumps, h'.written.trans h.written⟩

theorem sameMedia_closeServer (s : LocalCallService S K) : SameMedia s s.closeServer := by
  rw [closeServer]
  split <;> exact ⟨rfl, rfl, rfl, rfl, rfl⟩

theorem sameMedia_closeClient (s : LocalCallService S K) : SameMedia s s.closeClient := by
  rw [closeClient]
  split <;> exact ⟨rfl, rfl, rfl, rfl, rfl⟩

theorem sameMedia_connectServer (s : LocalCallService S K) (ip : Text) (port : Int) :
    SameMedia s (s.connectServer ip port) := by
  have hClosed := (sameMedia_closeServer s).trans (sameMedia_closeClient s.closeServer)
  exact ⟨hClosed.mRtp, hClosed.mAudioSync, hClosed.stopRecorder, hClosed.pumps, hClosed.written⟩

theorem sameMedia_disconnectServer (s : LocalCallService S K) (opened : Option Nat) :
    SameMedia s (s.disconnectServer opened) := by
  have hClosed := sameMedia_closeServer s
  refine SameMedia.trans ?_ (sameMedia_closeClient _)
  exact ⟨hClosed.mRtp, hClosed.mAudioSync, hClosed.stopRecorder, hClosed.pumps, hClosed.written⟩

@[simp] theorem closeServer_mMultiCastSender (s : LocalCallService S K) :
    s.closeServer.mMultiCastSender = s.mMultiCastSender := by
  rw [closeServer]
  split <;> rfl

@[simp] theorem closeServer_mCtlPort (s : LocalCallService S K) :
    s.closeServer.mCtlPort = s.mCtlPort := by
  rw [closeServer]
  split <;> rfl

@[simp] theorem closeClient_mMultiCastSender (s : LocalCallService S K) :
    s.closeClient.mMultiCastSender = s.mMultiCastSender := by
  rw [closeClient]
  split <;> rfl

@[simp] theorem closeClient_mCtlPort (s : LocalCallService S K) :
    s.closeClient.mCtlPort = s.mCtlPort := by
  rw [closeClient]
  split <;> rfl

@[simp] theorem closeServer_mCtlServerSocket (s : LocalCallService S K) :
    s.closeServer.mCtlServerSocket = none := by
  rw [closeServer]
  split
  · assumption
  · rfl

@[simp] theorem closeClient_mCtlServerSocket (s : LocalCallService S K) :
    s.closeClient.mCtlServerSocket = s.mCtlServerSocket := by
  rw [closeClient]
  split <;> rfl

@[simp] theorem closeClient_servers (s : LocalCallService S K) :
    s.closeClient.servers = s.servers := by
  rw [closeClient]
  split <;> rfl

def pump (codec : SpeexCodec S K) (i : Nat) (s : LocalCallService S K) :
    Option (LocalCallService S K) :=
  match s.pumps[i]? with
  | some .test =>
    some { s with pumps := s.pumps.set i (if s.stopRecorder then .ended else .read) }
  | some .read =>
    let (data, audio) := s.mAudioSync.readDataFromRecorder
    some { s with mAudioSync := audio, pumps := s.pumps.set i (.holding data) }
  | some (.holding none) => some { s with pumps := s.pumps.set i .test }
  | some (.holding (some data)) =>
    some { s with
      written := s.written ++ [⟨data, destinationsOf s.mRtp⟩]
      mRtp := (s.mRtp.write codec data).2
      pumps := s.pumps.set i .test }
  | some .ended => none
  | none => none

/-- The poll thread with a packet; `dataCallback` passes the samples to the player. -/
def packet [Zero S] (codec : SpeexCodec S K) (payload : List UInt8) (after : Nat → UInt8)
    (buffer11 : List S) (s : LocalCallService S K) : LocalCallService S K :=
  match s.mRtp.mJavaRtp with
  | none => s
  | some j =>
    match j.processRTPPacket codec (payloadData payload after) buffer11 with
    | (j, _, some (data, _)) =>
      { s with mRtp := ⟨some j⟩, mAudioSync := s.mAudioSync.writeDataToPlayer data }
    | (j, _, none) => { s with mRtp := ⟨some j⟩ }

end LocalCallService

inductive Event (S : Type) where
  | startRecorder (ip : Text)
  | stopRecorder
  | startPlayer
  | stopPlayer
  | connectServer (ip : Text) (port : Int)
  | disconnectServer (opened : Option Nat)
  | pump (i : Nat)
  | audio (input : AudioInput S)
  | packet (payload : List UInt8) (after : Nat → UInt8) (buffer11 : List S)
  | sender (localIp : Option Text)
  | server (i : Nat) (answer : Answer)
  | connect (i : Nat) (answer : CtlSocket.ConnectAnswer)
  | client (i : Nat) (answer : Answer)

/-- A step of the service. A call that throws leaves the object as it was then; a call with
undefined behaviour has no next state. -/
def serviceStep [Zero S] (codec : SpeexCodec S K) (s : LocalCallService S K) :
    Event S → Option (LocalCallService S K)
  | .startRecorder ip =>
    match s.startRecorder ip with
    | (.error .undefinedBehaviour, _) => none
    | (_, s) => some s
  | .stopRecorder => some s.stopRecorderCall
  | .startPlayer => some s.startPlayer
  | .stopPlayer => some s.stopPlayer
  | .connectServer ip port => some (s.connectServer ip port)
  | .disconnectServer opened => some (s.disconnectServer opened)
  | .pump i => s.pump codec i
  | .audio input => some { s with mAudioSync := s.mAudioSync.iterate input }
  | .packet payload after buffer11 => some (s.packet codec payload after buffer11)
  | .sender localIp => some { s with mMultiCastSender := s.mMultiCastSender.iterate localIp }
  | .server i answer =>
    (s.servers[i]?.bind (CtlServerSocket.threadStep answer)).map fun server =>
      { s with servers := s.servers.set i server }
  | .connect i answer =>
    (s.clients[i]?.bind (CtlSocket.connectStep answer)).map fun client =>
      { s with clients := s.clients.set i client }
  | .client i answer =>
    (s.clients[i]?.bind (CtlSocket.threadStep answer)).map fun client =>
      { s with clients := s.clients.set i client }

theorem startRecorder_step [Zero S] {codec : SpeexCodec S K} {s s' : LocalCallService S K}
    {ip : Text} (hStep : serviceStep codec s (.startRecorder ip) = some s') :
    s' = (s.startRecorder ip).2 := by
  simp only [serviceStep] at hStep
  split at hStep
  · cases hStep
  · rename_i hCall
    cases hStep
    rw [hCall]

theorem native_onCreate (state : K) (opened : Option Nat) (outcome : CreateOutcome) :
    (LocalCallService.onCreate (S := S) state opened outcome).mRtp.mJavaRtp.isSome = true := by
  simp only [LocalCallService.onCreate, Rtp.openRtp, Rtp.new, JavaRtp.new]
  cases outcome <;> rfl

section Planes

/-- The steps about the control connections and the advertisements, as against those about the
session, the audio and the pumps. -/
def isControl : Event S → Bool
  | .connectServer _ _ => true
  | .disconnectServer _ => true
  | .sender _ => true
  | .server _ _ => true
  | .connect _ _ => true
  | .client _ _ => true
  | _ => false

structure SameControl (s s' : LocalCallService S K) : Prop where
  mMultiCastSender : s'.mMultiCastSender = s.mMultiCastSender
  mCtlServerSocket : s'.mCtlServerSocket = s.mCtlServerSocket
  mCtlSocket : s'.mCtlSocket = s.mCtlSocket
  mCtlPort : s'.mCtlPort = s.mCtlPort
  servers : s'.servers = s.servers
  clients : s'.clients = s.clients

variable [Zero S] {codec : SpeexCodec S K} {s s' : LocalCallService S K} {e : Event S}

theorem serviceStep_sameMedia (hControl : isControl e = true)
    (hStep : serviceStep codec s e = some s') : LocalCallService.SameMedia s s' := by
  cases e with
  | connectServer ip port =>
    cases hStep
    exact s.sameMedia_connectServer ip port
  | disconnectServer opened =>
    cases hStep
    exact s.sameMedia_disconnectServer opened
  | sender localIp =>
    cases hStep
    exact ⟨rfl, rfl, rfl, rfl, rfl⟩
  | server i answer =>
    obtain ⟨server, _, rfl⟩ := Option.map_eq_some_iff.mp hStep
    exact ⟨rfl, rfl, rfl, rfl, rfl⟩
  | connect i answer =>
    obtain ⟨client, _, rfl⟩ := Option.map_eq_some_iff.mp hStep
    exact ⟨rfl, rfl, rfl, rfl, rfl⟩
  | client i answer =>
    obtain ⟨client, _, rfl⟩ := Option.map_eq_some_iff.mp hStep
    exact ⟨rfl, rfl, rfl, rfl, rfl⟩
  | _ => cases hControl

theorem serviceStep_sameControl (hMedia : isControl e = false)
    (hStep : serviceStep codec s e = some s') : SameControl s s' := by
  cases e with
  | startRecorder ip =>
    rw [startRecorder_step hStep, LocalCallService.startRecorder]
    split
    · split <;> exact ⟨rfl, rfl, rfl, rfl, rfl, rfl⟩
    · exact ⟨rfl, rfl, rfl, rfl, rfl, rfl⟩
  | pump i =>
    simp only [serviceStep, LocalCallService.pump] at hStep
    split at hStep <;> cases hStep <;> exact ⟨rfl, rfl, rfl, rfl, rfl, rfl⟩
  | packet payload after buffer11 =>
    cases hStep
    rw [LocalCallService.packet]
    split
    · exact ⟨rfl, rfl, rfl, rfl, rfl, rfl⟩
    · split <;> exact ⟨rfl, rfl, rfl, rfl, rfl, rfl⟩
  | stopRecorder => cases hStep; exact ⟨rfl, rfl, rfl, rfl, rfl, rfl⟩
  | startPlayer => cases hStep; exact ⟨rfl, rfl, rfl, rfl, rfl, rfl⟩
  | stopPlayer => cases hStep; exact ⟨rfl, rfl, rfl, rfl, rfl, rfl⟩
  | audio input => cases hStep; exact ⟨rfl, rfl, rfl, rfl, rfl, rfl⟩
  | _ => cases hMedia

theorem native_serviceStep (h : s.mRtp.mJavaRtp.isSome = true)
    (hStep : serviceStep codec s e = some s') : s'.mRtp.mJavaRtp.isSome = true := by
  cases hControl : isControl e with
  | true => rw [(serviceStep_sameMedia hControl hStep).mRtp, h]
  | false =>
    obtain ⟨j, hj⟩ := Option.isSome_iff_exists.mp h
    cases e with
    | startRecorder ip =>
      rw [startRecorder_step hStep]
      simp only [LocalCallService.startRecorder, Rtp.addRtpDestinationIp, hj]
      split
      · cases copyIp ip with
        | ok cstring => rfl
        | error error => exact h
      · exact h
    | pump i =>
      simp only [serviceStep, LocalCallService.pump, Rtp.write, hj] at hStep
      split at hStep
      · cases hStep; exact h
      · cases hStep; exact h
      · cases hStep; exact h
      · cases hStep
        dsimp only
        split
        · exact h
        · split <;> rfl
      · cases hStep
      · cases hStep
    | packet payload after buffer11 =>
      cases hStep
      simp only [LocalCallService.packet, hj, JavaRtp.processRTPPacket]
      rfl
    | stopRecorder => cases hStep; exact h
    | startPlayer => cases hStep; exact h
    | stopPlayer => cases hStep; exact h
    | audio input => cases hStep; exact h
    | _ => cases hControl

end Planes

def accepted (s : LocalCallService S K) (ip : Text) : Bool :=
  match (s.startRecorder ip).1 with
  | .ok started => started
  | .error _ => false

theorem accepted_eq [Zero S] (codec : SpeexCodec S K) {s s' : LocalCallService S K} {ip : Text}
    (h : s.mRtp.mJavaRtp.isSome = true)
    (hStep : serviceStep codec s (.startRecorder ip) = some s') :
    accepted s ip = mPatternFind ip := by
  obtain ⟨j, hj⟩ := Option.isSome_iff_exists.mp h
  simp only [serviceStep] at hStep
  rw [accepted]
  simp only [LocalCallService.startRecorder, Rtp.addRtpDestinationIp, hj] at hStep ⊢
  cases hFind : mPatternFind ip with
  | false => rfl
  | true =>
    rw [hFind] at hStep
    cases hCopy : copyIp ip with
    | ok cstring => rfl
    | error e =>
      -- the only error of the copy is a write behind the buffer, and then nothing returns
      have hOverrun := copyIp_error hCopy
      simp [hCopy, hOverrun] at hStep

def dialledBy (s : LocalCallService S K) : Event S → List Text
  | .startRecorder ip => if accepted s ip then [ip] else []
  | _ => []

def writtenBy (s : LocalCallService S K) : Event S → List (Written S)
  | .pump i =>
    match s.pumps[i]? with
    | some (.holding (some data)) => [⟨data, destinationsOf s.mRtp⟩]
    | _ => []
  | _ => []

end LocalCall.Service
