import LocalCall.Library.Transition
import LocalCall.Service.LocalCallService
import LocalCall.Utils.MultiCastReceiver

/-! # The end of the service

`onDestroy` is a sequence of calls, each taken whole here; an exception of one of them leaves out
the rest. Closing a session that is not open throws. Nothing in the sequence touches the flag that
the pump threads look at or the client socket, and closing a control server leaves its server
socket open.
-/
namespace LocalCall.Service
open Java Jni Utils Socket Transition
set_option autoImplicit false

variable {S K : Type}

/-- What `openRtp` came to in `onCreate`; an exception leaves the rest of `onCreate` out. -/
inductive Opening where
  | returned (outcome : CreateOutcome)
  | threw
  deriving DecidableEq

def Opening.succeeded : Opening → Bool
  | .returned (.created _ _ _) => true
  | _ => false

/-- The service with the rest of its fields. `rtpNull` is that `mRtp` is null, and `deleted` what
`native_rease` deleted. -/
structure ServiceLife (S K : Type) where
  service : LocalCallService S K
  receiver : MultiCastReceiver
  senderStopped : Bool
  lockHeld : Bool
  audioStarted : Bool
  rtpNull : Bool
  deleted : List (JavaRtp K)

namespace ServiceLife

def onCreate (state : K) (opened : Option Nat) (opening : Opening) : ServiceLife S K where
  service :=
    match opening with
    | .returned outcome => .onCreate state opened outcome
    | .threw => { LocalCallService.onCreate state opened .failed with mRtp := .new state }
  receiver := .startReceive
  senderStopped := false
  lockHeld := true
  audioStarted := opening ≠ .threw
  rtpNull := false
  deleted := []

end ServiceLife

inductive LifeEvent (S : Type) where
  | service (e : Event S)
  | receiver (answer : ReceiverAnswer)

def lifeStep [Zero S] (codec : SpeexCodec S K) (l : ServiceLife S K) :
    LifeEvent S → Option (ServiceLife S K)
  | .service (.audio input) =>
    if l.audioStarted then
      (serviceStep codec l.service (.audio input)).map fun service => { l with service }
    else none
  | .service e => (serviceStep codec l.service e).map fun service => { l with service }
  | .receiver answer => (l.receiver.threadStep answer).map fun receiver => { l with receiver }

/-- A turn of a pump thread once `mRtp` is null. -/
def pumpOn (i : Nat) (l : ServiceLife S K) : Option (ServiceLife S K) :=
  match l.service.pumps[i]? with
  | some .test => some { l with service := { l.service with
      pumps := l.service.pumps.set i (if l.service.stopRecorder then .ended else .read) } }
  | some .read =>
    let (data, audio) := l.service.mAudioSync.readDataFromRecorder
    some { l with service := { l.service with
      mAudioSync := audio, pumps := l.service.pumps.set i (.holding data) } }
  | some (.holding _) =>
    some { l with service := { l.service with pumps := l.service.pumps.set i .test } }
  | some .ended => none
  | none => none

section Ending

variable {l l' : ServiceLife S K}

/-- What `onDestroy` leaves when the session was open. -/
def ServiceLife.after (receiver : MultiCastReceiver) (j : JavaRtp K) (l : ServiceLife S K) :
    ServiceLife S K :=
  { l with
    receiver, senderStopped := true, lockHeld := false, rtpNull := true
    deleted := l.deleted ++
      [{ j with mMyRTPSession := j.mMyRTPSession.byeDestroy, mIsOpen := false }]
    service := LocalCallService.closeServer { l.service with
      mRtp := ⟨none⟩, mAudioSync := l.service.mAudioSync.interrupt } }

theorem getElem?_set_of_getElem? {α : Type} {as : List α} {i : Nat} {a b : α}
    (h : as[i]? = some a) : (as.set i b)[i]? = some b := by
  obtain ⟨hLt, -⟩ := List.getElem?_eq_some_iff.mp h
  exact List.getElem?_set_self hLt

def Looping (i : Nat) (l : ServiceLife S K) : Prop :=
  l.service.stopRecorder = false ∧ ∃ pump, l.service.pumps[i]? = some pump ∧ pump ≠ .ended

theorem Looping.turn {i : Nat} (h : Looping i l) (hTurn : pumpOn i l = some l') :
    Looping i l' := by
  obtain ⟨hStop, pump, hAt, hPump⟩ := h
  rw [pumpOn, hAt] at hTurn
  cases pump with
  | test =>
    cases hTurn
    refine ⟨hStop, .read, ?_, nofun⟩
    rw [hStop]
    exact getElem?_set_of_getElem? hAt
  | read =>
    cases hTurn
    exact ⟨hStop, _, getElem?_set_of_getElem? hAt, nofun⟩
  | holding data =>
    cases hTurn
    exact ⟨hStop, _, getElem?_set_of_getElem? hAt, nofun⟩
  | ended => exact absurd rfl hPump

end Ending

section Runs

def marked (s : LocalCallService S K) : Option Bool := s.mRtp.mJavaRtp.map (·.mIsOpen)

theorem marked_startRecorder (s : LocalCallService S K) (ip : Text) :
    marked (s.startRecorder ip).2 = marked s := by
  simp only [LocalCallService.startRecorder, Rtp.addRtpDestinationIp]
  cases hNative : s.mRtp.mJavaRtp with
  | none => split <;> simp [marked, hNative]
  | some j =>
    split
    · cases copyIp ip with
      | error e => simp [marked, hNative]
      | ok cstring => simp [marked, hNative]
    · simp [marked]

theorem marked_pump {codec : SpeexCodec S K} {i : Nat} {s s' : LocalCallService S K}
    (hStep : s.pump codec i = some s') : marked s' = marked s := by
  rw [LocalCallService.pump] at hStep
  split at hStep
  · cases hStep; rfl
  · cases hStep; rfl
  · cases hStep; rfl
  · cases hStep
    simp only [marked, Rtp.write]
    cases hNative : s.mRtp.mJavaRtp with
    | none => simp [hNative]
    | some j =>
      dsimp only
      split
      · simp [hNative]
      · split <;> rfl
  · cases hStep
  · cases hStep

/-- Neither a call nor a thread opens or closes the session between creation and end. -/
theorem marked_serviceStep [Zero S] {codec : SpeexCodec S K} {s s' : LocalCallService S K}
    {e : Event S} (hStep : serviceStep codec s e = some s') : marked s' = marked s := by
  cases hControl : isControl e with
  | true => rw [marked, (serviceStep_sameMedia hControl hStep).mRtp]; rfl
  | false =>
    cases e with
    | startRecorder ip => rw [startRecorder_step hStep, marked_startRecorder]
    | pump i => exact marked_pump hStep
    | packet payload after buffer11 =>
      cases hStep
      rw [LocalCallService.packet]
      cases hNative : s.mRtp.mJavaRtp with
      | none => rfl
      | some j => simp [marked, hNative, JavaRtp.processRTPPacket]
    | stopRecorder => cases hStep; rfl
    | startPlayer => cases hStep; rfl
    | stopPlayer => cases hStep; rfl
    | audio input => cases hStep; rfl
    | _ => cases hControl

structure Alive (opening : Opening) (l : ServiceLife S K) : Prop where
  marked : marked l.service = some opening.succeeded
  deleted : l.deleted = []

theorem Alive.step [Zero S] {codec : SpeexCodec S K} {opening : Opening} {l l' : ServiceLife S K}
    {e : LifeEvent S} (h : Alive opening l) (hStep : lifeStep codec l e = some l') :
    Alive opening l' := by
  have hService : ∀ e service, serviceStep codec l.service e = some service →
      Alive opening { l with service } :=
    fun e service hStep => ⟨(marked_serviceStep hStep).trans h.marked, h.deleted⟩
  unfold lifeStep at hStep
  split at hStep
  · split at hStep
    · obtain ⟨service, hAudio, rfl⟩ := Option.map_eq_some_iff.mp hStep
      exact hService _ service hAudio
    · cases hStep
  · obtain ⟨service, hEvent, rfl⟩ := Option.map_eq_some_iff.mp hStep
    exact hService _ service hEvent
  · obtain ⟨receiver, _, rfl⟩ := Option.map_eq_some_iff.mp hStep
    exact ⟨h.marked, h.deleted⟩

end Runs

end LocalCall.Service
