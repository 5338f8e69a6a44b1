import LocalCall.Call.CallActivity
import LocalCall.Library.Transition
import LocalCall.Utils.AudioSpec

/-! # Recorder and player against the call screen

The handlers of the activity act on the service, whose audio thread takes the commands later. The
devices that the commands settle on are compared with the lifecycle and the talk button after
every step of any interleaving in which the devices come up.
-/
namespace LocalCall.Call
open Java Jni Utils Socket Service Transition AudioSync
set_option autoImplicit false

variable {S K : Type}

/-- The activity with its lifecycle and the gesture under way, and the service it is bound to. -/
structure Talk (S K : Type) where
  activity : CallActivity
  resumed : Bool
  held : Bool
  service : LocalCallService S K

def Talk.onCreate (isClient : Bool) (connectIp : Text) (port : Int) (state : K)
    (opened : Option Nat) (outcome : CreateOutcome) : Talk S K :=
  ⟨.onCreate isClient connectIp port, false, false, .onCreate state opened outcome⟩

def eventOf (opened : Option Nat) : ServiceCall → Option (Event S)
  | .registerCallback _ => none
  | .startRecorder ip => some (.startRecorder ip)
  | .stopRecorder => some .stopRecorder
  | .startPlayer => some .startPlayer
  | .stopPlayer => some .stopPlayer
  | .connectServer ip port => some (.connectServer ip port)
  | .disconnectServer => some (.disconnectServer opened)
  | .writeCommandFromClient _ => none
  | .writeCommandFromServer _ => none

def perform [Zero S] (codec : SpeexCodec S K) (opened : Option Nat) (s : LocalCallService S K)
    (calls : List ServiceCall) : Option (LocalCallService S K) :=
  run (serviceStep codec) s (calls.filterMap (eventOf opened))

def internal : Event S → Bool
  | .pump _ => true
  | .audio input => input.comesUp
  | .packet _ _ _ => true
  | .sender _ => true
  | .server _ _ => true
  | .connect _ _ => true
  | .client _ _ => true
  | _ => false

/-- A touch ends with `ACTION_UP` or, when the system takes it away, with `ACTION_CANCEL`. -/
inductive TalkEvent (S : Type) where
  | onResume
  | onPause (opened : Option Nat)
  | touchDown
  | touchEnd (e : MotionEvent)
  | callBack (localIp : Option Text) (arg1 : Text)
  | service (e : Event S)

def talkStep [Zero S] (codec : SpeexCodec S K) (t : Talk S K) : TalkEvent S → Option (Talk S K)
  | .onResume =>
    if t.resumed ∨ t.activity.finished then none
    else
      let (activity, calls) := t.activity.onResume
      (perform codec none t.service calls).map fun service =>
        { t with activity, service, resumed := true }
  | .onPause opened =>
    if t.resumed then
      let (activity, calls) := t.activity.onPause
      (perform codec opened t.service calls).map fun service =>
        { t with activity, service, resumed := false }
    else none
  | .touchDown =>
    if t.resumed ∧ ¬ t.held then
      let (held, activity, calls) := t.activity.onTouch .actionDown
      (perform codec none t.service calls).map fun service => { t with activity, service, held }
    else none
  | .touchEnd e =>
    if t.held ∧ e ≠ .actionDown then
      let (_, activity, calls) := t.activity.onTouch e
      (perform codec none t.service calls).map fun service =>
        { t with activity, service, held := false }
    else none
  | .callBack localIp arg1 =>
    (t.activity.callBack localIp arg1).bind fun (activity, calls) =>
      (perform codec none t.service calls).map fun service => { t with activity, service }
  | .service e =>
    if internal e then (serviceStep codec t.service e).map fun service => { t with service }
    else none

/-- The recorder runs while the button is held, the player while it is not, both only while the
activity is resumed. -/
def wanted (t : Talk S K) : Devices := ⟨t.resumed && t.held, t.resumed && !t.held⟩

/-- Once the audio thread has drained its queue, the devices are as they should be. -/
def AudioFollows [Zero S] (t : Talk S K) : Prop :=
  ∀ inputs : List (AudioInput S), (∀ input ∈ inputs, input.comesUp = true) →
    let audio := inputs.foldl (fun a input => a.iterate input) t.service.mAudioSync
    audio.mCommandQueue = [] → audio.devices = wanted t

/-- The activity is not paused under a held button, and a press is for a peer whose ip looks like
an address. -/
def HandsOff (t : Talk S K) : TalkEvent S → Prop
  | .onPause _ => t.held = false
  | .touchDown => t.activity.mCanTalk = true → mPatternFind t.activity.mConnectIp = true
  | _ => True

structure Attached (t : Talk S K) : Prop where
  running : t.service.mAudioSync.Running
  native : t.service.mRtp.mJavaRtp.isSome = true
  held : t.held = true → t.resumed = true

section Calls

theorem eventOf_writeCommand (opened : Option Nat) (command : Text) (a : CallActivity) :
    (eventOf opened (a.writeCommand command) : Option (Event S)) = none := by
  rw [CallActivity.writeCommand]
  split <;> rfl

variable [Zero S] (codec : SpeexCodec S K)

theorem perform_writeCommand (opened : Option Nat) (command : Text) (a : CallActivity)
    (s : LocalCallService S K) :
    perform codec opened s [a.writeCommand command] = some s := by
  rw [perform, List.filterMap_cons_none (eventOf_writeCommand opened command a)]
  rfl

theorem perform_onResume (a : CallActivity) (s : LocalCallService S K) :
    ∃ s', perform codec none s a.onResume.2 = some s' ∧
      s'.mAudioSync = s.mAudioSync.startPlayer := by
  cases hClient : a.mIsClient with
  | false =>
    refine ⟨s.startPlayer, ?_, rfl⟩
    rw [CallActivity.onResume, hClient]
    rfl
  | true =>
    refine ⟨(s.connectServer a.mConnectIp a.mPort).startPlayer, ?_, ?_⟩
    · rw [CallActivity.onResume, hClient]
      rfl
    · have hSame := s.sameMedia_connectServer a.mConnectIp a.mPort
      exact congrArg AudioSync.startPlayer hSame.mAudioSync

theorem perform_onPause (opened : Option Nat) (a : CallActivity) (s : LocalCallService S K) :
    ∃ s', perform codec opened s a.onPause.2 = some s' ∧
      s'.mAudioSync = s.mAudioSync.stopPlayer := by
  cases hClient : a.mIsClient with
  | false =>
    refine ⟨s.stopPlayer, ?_, rfl⟩
    rw [CallActivity.onPause, hClient]
    rfl
  | true =>
    refine ⟨s.stopPlayer.disconnectServer opened, ?_, ?_⟩
    · rw [CallActivity.onPause, hClient]
      rfl
    · exact (s.stopPlayer.sameMedia_disconnectServer opened).mAudioSync

theorem perform_touchEnd (e : MotionEvent) (hEnd : e ≠ .actionDown) (a : CallActivity)
    (s : LocalCallService S K) :
    perform codec none s (a.onTouch e).2.2 = some s.stopRecorderCall := by
  rw [CallActivity.onTouch_ended a hEnd]
  exact perform_writeCommand codec none CallActivity.up a s.stopRecorderCall

theorem perform_touchDown (a : CallActivity) (s : LocalCallService S K) :
    perform codec none s (a.onTouch .actionDown).2.2 =
      if a.mCanTalk then serviceStep codec s (.startRecorder a.mConnectIp) else some s := by
  cases hTalk : a.mCanTalk with
  | false =>
    rw [CallActivity.onTouch_refused hTalk]
    rfl
  | true =>
    rw [CallActivity.onTouch_accepted hTalk]
    change ((serviceStep codec s (.startRecorder a.mConnectIp)).bind fun s' =>
      perform codec none s' [a.writeCommand CallActivity.down]) = _
    rw [if_pos rfl, funext (perform_writeCommand codec none CallActivity.down a),
      Option.bind_fun_some]

theorem perform_callBack {localIp : Option Text} {arg1 : Text} {a a' : CallActivity}
    {calls : List ServiceCall} (s : LocalCallService S K)
    (h : a.callBack localIp arg1 = some (a', calls)) : perform codec none s calls = some s := by
  have hCalls : calls.filterMap (eventOf (S := S) none) = [] := by
    unfold CallActivity.callBack at h
    repeat' split at h
    all_goals first
      | (cases h; rfl)
      | (obtain ⟨_, _, hEq⟩ := Option.map_eq_some_iff.mp h; cases hEq; rfl)
  rw [perform, hCalls, run_nil]

end Calls

section Step
variable [Zero S] (codec : SpeexCodec S K)

omit [Zero S] in
theorem audio_startRecorder (s : LocalCallService S K) (ip : Text) :
    (s.startRecorder ip).2.mAudioSync =
      if accepted s ip then s.mAudioSync.startRecorder.stopPlayer else s.mAudioSync := by
  unfold accepted LocalCallService.startRecorder
  split
  · split <;> rfl
  · rfl

theorem internal_frame {s s' : LocalCallService S K} {e : Event S} (hInternal : internal e = true)
    (hRunning : s.mAudioSync.Running) (hStep : serviceStep codec s e = some s') :
    s'.mAudioSync.drained = s.mAudioSync.drained ∧ s'.mAudioSync.Running := by
  cases hControl : isControl e with
  | true =>
    rw [(serviceStep_sameMedia hControl hStep).mAudioSync]
    exact ⟨rfl, hRunning⟩
  | false =>
    cases e with
    | pump i =>
      simp only [serviceStep, LocalCallService.pump] at hStep
      split at hStep
      · cases hStep; exact ⟨rfl, hRunning⟩
      · cases hStep
        obtain ⟨hSame, hStill⟩ := readDataFromRecorder_frame s.mAudioSync
        exact ⟨hSame, hStill hRunning⟩
      · cases hStep; exact ⟨rfl, hRunning⟩
      · cases hStep; exact ⟨rfl, hRunning⟩
      · cases hStep
      · cases hStep
    | audio input =>
      cases hStep
      obtain ⟨hSame, _, hStill⟩ := drained_iterate input s.mAudioSync hInternal hRunning
      exact ⟨hSame, hStill⟩
    | packet payload after buffer11 =>
      cases hStep
      rw [LocalCallService.packet]
      split
      · exact ⟨rfl, hRunning⟩
      · obtain ⟨hSame, hStill⟩ := writeDataToPlayer_frame _ s.mAudioSync
        exact ⟨hSame, hStill hRunning⟩
    | startRecorder ip => cases hInternal
    | stopRecorder => cases hInternal
    | startPlayer => cases hInternal
    | stopPlayer => cases hInternal
    | _ => cases hControl

/-- Whatever happens to the activity, the service goes through a run of its own. -/
theorem talkStep_runs {t t' : Talk S K} {e : TalkEvent S} (hStep : talkStep codec t e = some t') :
    ∃ events, run (serviceStep codec) t.service events = some t'.service := by
  cases e with
  | onResume =>
    simp only [talkStep] at hStep
    split at hStep
    · cases hStep
    · obtain ⟨service, hService, rfl⟩ := Option.map_eq_some_iff.mp hStep
      exact ⟨_, hService⟩
  | onPause opened =>
    simp only [talkStep] at hStep
    split at hStep
    · obtain ⟨service, hService, rfl⟩ := Option.map_eq_some_iff.mp hStep
      exact ⟨_, hService⟩
    · cases hStep
  | touchDown =>
    simp only [talkStep] at hStep
    split at hStep
    · obtain ⟨service, hService, rfl⟩ := Option.map_eq_some_iff.mp hStep
      exact ⟨_, hService⟩
    · cases hStep
  | touchEnd e =>
    simp only [talkStep] at hStep
    split at hStep
    · obtain ⟨service, hService, rfl⟩ := Option.map_eq_some_iff.mp hStep
      exact ⟨_, hService⟩
    · cases hStep
  | callBack localIp arg1 =>
    obtain ⟨_, _, hRest⟩ := Option.bind_eq_some_iff.mp hStep
    obtain ⟨service, hService, rfl⟩ := Option.map_eq_some_iff.mp hRest
    exact ⟨_, hService⟩
  | service e =>
    simp only [talkStep] at hStep
    split at hStep
    · obtain ⟨service, hService, rfl⟩ := Option.map_eq_some_iff.mp hStep
      refine ⟨[e], ?_⟩
      rw [run_cons, hService]
      rfl
    · cases hStep

theorem native_talkStep {t t' : Talk S K} {e : TalkEvent S}
    (h : t.service.mRtp.mJavaRtp.isSome = true) (hStep : talkStep codec t e = some t') :
    t'.service.mRtp.mJavaRtp.isSome = true := by
  obtain ⟨events, hRun⟩ := talkStep_runs codec hStep
  exact run_invariant (fun {_ _ _} hNative hNext => native_serviceStep hNative hNext) h hRun

/-- A press that is not refused stops the player for the recorder, when the peer is accepted. -/
theorem drained_touchDown {a : CallActivity} {s s' : LocalCallService S K}
    (hRunning : s.mAudioSync.Running) (hNative : s.mRtp.mJavaRtp.isSome = true)
    (h : perform codec none s (a.onTouch .actionDown).2.2 = some s') :
    s'.mAudioSync.Running ∧ s'.mAudioSync.drained =
      if a.mCanTalk && mPatternFind a.mConnectIp then ⟨true, false⟩ else s.mAudioSync.drained := by
  rw [perform_touchDown] at h
  cases hTalk : a.mCanTalk with
  | false =>
    rw [hTalk] at h
    cases h
    exact ⟨hRunning, rfl⟩
  | true =>
    rw [hTalk, if_pos rfl] at h
    have hAccepted := accepted_eq codec hNative h
    have hAudio : s'.mAudioSync = (s.startRecorder a.mConnectIp).2.mAudioSync := by
      rw [startRecorder_step h]
    rw [audio_startRecorder, hAccepted] at hAudio
    constructor
    · rw [hAudio]
      split <;> exact hRunning
    · rw [hAudio, Bool.true_and]
      split
      · rw [drained_stopPlayer, drained_startRecorder]
      · rfl

theorem talkStep_spec {t t' : Talk S K} {e : TalkEvent S}
    (hRunning : t.service.mAudioSync.Running)
    (hNative : t.service.mRtp.mJavaRtp.isSome = true) (hStep : talkStep codec t e = some t') :
    t'.service.mAudioSync.Running ∧
      match e with
      | .onResume => t.resumed = false ∧ t'.resumed = true ∧ t'.held = t.held ∧
          t'.service.mAudioSync.drained = { t.service.mAudioSync.drained with player := true }
      | .onPause _ => t.resumed = true ∧ t'.resumed = false ∧ t'.held = t.held ∧
          t'.service.mAudioSync.drained = { t.service.mAudioSync.drained with player := false }
      | .touchDown => t.resumed = true ∧ t.held = false ∧ t'.resumed = true ∧
          t'.held = t.activity.mCanTalk ∧ t'.service.mAudioSync.drained =
            if t.activity.mCanTalk && mPatternFind t.activity.mConnectIp then ⟨true, false⟩
            else t.service.mAudioSync.drained
      | .touchEnd _ => t.held = true ∧ t'.resumed = t.resumed ∧ t'.held = false ∧
          t'.service.mAudioSync.drained = ⟨false, true⟩
      | _ => t'.resumed = t.resumed ∧ t'.held = t.held ∧
          t'.service.mAudioSync.drained = t.service.mAudioSync.drained := by
  cases e with
  | onResume =>
    simp only [talkStep] at hStep
    split at hStep
    · cases hStep
    · rename_i hPaused
      obtain ⟨s', hPerform, hAudio⟩ := perform_onResume codec t.activity t.service
      obtain ⟨service, hService, rfl⟩ := Option.map_eq_some_iff.mp hStep
      cases hPerform.symm.trans hService
      have hResumed : t.resumed = false := by simpa using (not_or.mp hPaused).1
      refine ⟨?_, hResumed, rfl, rfl, ?_⟩
      · rw [hAudio]
        exact hRunning
      · rw [hAudio, drained_startPlayer]
  | onPause opened =>
    simp only [talkStep] at hStep
    split at hStep
    · rename_i hResumed
      obtain ⟨s', hPerform, hAudio⟩ := perform_onPause codec opened t.activity t.service
      obtain ⟨service, hService, rfl⟩ := Option.map_eq_some_iff.mp hStep
      cases hPerform.symm.trans hService
      refine ⟨?_, hResumed, rfl, rfl, ?_⟩
      · rw [hAudio]
        exact hRunning
      · rw [hAudio, drained_stopPlayer]
    · cases hStep
  | touchDown =>
    simp only [talkStep] at hStep
    split at hStep
    · rename_i hMay
      have hHeld : t.held = false := by simpa using hMay.2
      have hTouch : (t.activity.onTouch .actionDown).1 = t.activity.mCanTalk := by
        rw [CallActivity.onTouch]
        cases t.activity.mCanTalk <;> rfl
      obtain ⟨service, hService, rfl⟩ := Option.map_eq_some_iff.mp hStep
      obtain ⟨hStill, hDrained⟩ := drained_touchDown codec hRunning hNative hService
      exact ⟨hStill, hMay.1, hHeld, hMay.1, hTouch, hDrained⟩
    · cases hStep
  | touchEnd e =>
    simp only [talkStep] at hStep
    split at hStep
    · rename_i hMay
      obtain ⟨service, hService, rfl⟩ := Option.map_eq_some_iff.mp hStep
      rw [perform_touchEnd codec e hMay.2] at hService
      cases hService
      refine ⟨hRunning, hMay.1, rfl, rfl, ?_⟩
      simp only [LocalCallService.stopRecorderCall, drained_startPlayer, drained_stopRecorder]
    · cases hStep
  | callBack localIp arg1 =>
    obtain ⟨⟨activity, calls⟩, hCallBack, hRest⟩ := Option.bind_eq_some_iff.mp hStep
    obtain ⟨service, hService, rfl⟩ := Option.map_eq_some_iff.mp hRest
    cases (perform_callBack codec t.service hCallBack).symm.trans hService
    exact ⟨hRunning, rfl, rfl, rfl⟩
  | service e =>
    simp only [talkStep] at hStep
    split at hStep
    · rename_i hInternal
      obtain ⟨service, hService, rfl⟩ := Option.map_eq_some_iff.mp hStep
      obtain ⟨hSame, hStill⟩ := internal_frame codec hInternal hRunning hService
      exact ⟨hStill, rfl, rfl, hSame⟩
    · cases hStep

theorem audioFollows_iff {t : Talk S K} (h : Attached t) :
    AudioFollows t ↔ t.service.mAudioSync.drained = wanted t :=
  (drained_eq_iff _ h.running _).symm

theorem Attached.step {t t' : Talk S K} {e : TalkEvent S} (h : Attached t)
    (hFollows : AudioFollows t) (hStep : talkStep codec t e = some t')
    (hFollows' : AudioFollows t') : Attached t' := by
  obtain ⟨hStill, hSpec⟩ := talkStep_spec codec h.running h.native hStep
  refine ⟨hStill, native_talkStep codec h.native hStep, fun hHeld => ?_⟩
  cases e with
  | onResume => exact hSpec.2.1
  | onPause opened =>
    obtain ⟨hResumed, hPaused, hSame, hDrained⟩ := hSpec
    have hBefore := (audioFollows_iff h).mp hFollows
    have hAfter := (drained_eq_iff _ hStill _).mpr hFollows'
    rw [hDrained, hBefore] at hAfter
    simp [wanted, hResumed, hPaused, ← hSame, hHeld] at hAfter
  | touchDown => exact hSpec.2.2.1
  | touchEnd e => rw [hSpec.2.2.1] at hHeld; cases hHeld
  | callBack localIp arg1 => rw [hSpec.1]; exact h.held (hSpec.2.1 ▸ hHeld)
  | service e => rw [hSpec.1]; exact h.held (hSpec.2.1 ▸ hHeld)

theorem audioFollows_step {t t' : Talk S K} {e : TalkEvent S} (h : Attached t)
    (hFollows : AudioFollows t) (hStep : talkStep codec t e = some t') :
    AudioFollows t' ↔ HandsOff t e := by
  obtain ⟨hStill, hSpec⟩ := talkStep_spec codec h.running h.native hStep
  have hBefore := (audioFollows_iff h).mp hFollows
  have hIff : AudioFollows t' ↔ t'.service.mAudioSync.drained = wanted t' :=
    (drained_eq_iff _ hStill _).symm
  rw [hIff]
  have hHeld := h.held
  cases e with
  | onResume =>
    obtain ⟨hPaused, hResumed, hSame, hDrained⟩ := hSpec
    have hFree : t.held = false := by
      cases hButton : t.held with
      | false => rfl
      | true => rw [hHeld hButton] at hPaused; cases hPaused
    rw [hDrained, hBefore]
    simp [wanted, hPaused, hResumed, hSame, hFree, HandsOff]
  | onPause opened =>
    obtain ⟨hResumed, hPaused, hSame, hDrained⟩ := hSpec
    rw [hDrained, hBefore]
    simp [wanted, hResumed, hPaused, HandsOff]
  | touchDown =>
    obtain ⟨hResumed, hFree, hResumed', hTouch, hDrained⟩ := hSpec
    rw [hDrained, hBefore]
    cases hTalk : t.activity.mCanTalk with
    | false => simp [wanted, hResumed, hFree, hResumed', hTouch, hTalk, HandsOff]
    | true =>
      cases hFind : mPatternFind t.activity.mConnectIp with
      | false => simp [wanted, hResumed, hFree, hResumed', hTouch, hTalk, hFind, HandsOff]
      | true => simp [wanted, hResumed', hTouch, hTalk, hFind, HandsOff]
  | touchEnd e =>
    obtain ⟨hButton, hSame, hFree, hDrained⟩ := hSpec
    rw [hDrained]
    simp [wanted, hSame, hHeld hButton, hFree, HandsOff]
  | callBack localIp arg1 =>
    obtain ⟨hResumed, hSame, hDrained⟩ := hSpec
    rw [hDrained, hBefore]
    simp [wanted, hResumed, hSame, HandsOff]
  | service e =>
    obtain ⟨hResumed, hSame, hDrained⟩ := hSpec
    rw [hDrained, hBefore]
    simp [wanted, hResumed, hSame, HandsOff]

omit [Zero S] in
theorem attached_onCreate (isClient : Bool) (connectIp : Text) (port : Int) (state : K)
    (opened : Option Nat) (outcome : CreateOutcome) :
    Attached (Talk.onCreate (S := S) isClient connectIp port state opened outcome) :=
  ⟨⟨rfl, rfl⟩, native_onCreate state opened outcome, fun hHeld => by simp [Talk.onCreate] at hHeld⟩

theorem audioFollows_onCreate (isClient : Bool) (connectIp : Text) (port : Int) (state : K)
    (opened : Option Nat) (outcome : CreateOutcome) :
    AudioFollows (Talk.onCreate (S := S) isClient connectIp port state opened outcome) :=
  (audioFollows_iff (attached_onCreate isClient connectIp port state opened outcome)).mpr rfl

/-- Recorder and player follow the button and the lifecycle in every state of a run exactly when
the activity is never paused under a held button, and each press is for a peer whose ip looks like
an address. -/
theorem always_audioFollows_iff (isClient : Bool) (connectIp : Text) (port : Int) (state : K)
    (opened : Option Nat) (outcome : CreateOutcome) (events : List (TalkEvent S)) :
    Always (talkStep codec) AudioFollows
        (Talk.onCreate isClient connectIp port state opened outcome) events ↔
      Meets (talkStep codec) HandsOff
        (Talk.onCreate isClient connectIp port state opened outcome) events :=
  always_iff_meets (Attached.step codec) (audioFollows_step codec)
    (attached_onCreate isClient connectIp port state opened outcome)
    (audioFollows_onCreate isClient connectIp port state opened outcome)

/-- The server screen is paused while its button is held, and the gesture is cancelled later. -/
def pausedWhileTalking : List (TalkEvent Nat) :=
  [.onResume, .touchDown, .onPause none, .touchEnd .actionCancel]

theorem not_always_audioFollows_pausedWhileTalking :
    ¬ Always (talkStep (silentCodec Nat)) AudioFollows
      (Talk.onCreate false "192.168.1.2".toList 0 () (some 5000) (.created 0 0 0))
      pausedWhileTalking := by
  intro hAlways
  have hRun : ((run (talkStep (silentCodec Nat))
      (Talk.onCreate false "192.168.1.2".toList 0 () (some 5000) (.created 0 0 0))
      pausedWhileTalking).map fun t => (t.service.mAudioSync.drained, t.resumed,
        t.service.mAudioSync.ended, t.service.mAudioSync.interrupted)) =
        some (⟨false, true⟩, false, false, false) := by
    decide +kernel
  obtain ⟨t, hReached, hState⟩ := Option.map_eq_some_iff.mp hRun
  obtain ⟨hDrained, hPaused, hEnded, hInterrupted⟩ : _ ∧ _ ∧ _ ∧ _ := by
    simpa only [Prod.mk.injEq] using hState
  have hSettled := (drained_eq_iff _ ⟨hEnded, hInterrupted⟩ _).mpr (hAlways.last hReached)
  rw [hDrained] at hSettled
  simp [wanted, hPaused] at hSettled

end Step
end LocalCall.Call
