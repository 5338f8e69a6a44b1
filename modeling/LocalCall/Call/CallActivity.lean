import LocalCall.Service.LocalCallService

/-! # The call screen

Each handler returns the activity with the calls that it makes on the service, in the order of the
source; what a call returns is not looked at anywhere. The views are what they show: the text of
`mMsg`, and whether `mTalking` is visible.
-/
namespace LocalCall.Call
open Java
set_option autoImplicit false

inductive Message where
  | pressTalk
  | pressedTalk (ip : Text)
  | calling
  | peerTalking
  | disconnectedFromServer
  deriving DecidableEq

/-- A call through `LocalCallServiceMgr`; `registerCallback` sets its callback or clears it. -/
inductive ServiceCall where
  | registerCallback (set : Bool)
  | startRecorder (ip : Text)
  | stopRecorder
  | startPlayer
  | stopPlayer
  | connectServer (ip : Text) (port : Int)
  | disconnectServer
  | writeCommandFromClient (command : Text)
  | writeCommandFromServer (command : Text)
  deriving DecidableEq

structure CallActivity where
  mIsClient : Bool
  mConnectIp : Text
  mPort : Int
  mMsg : Message
  mTalking : Bool
  mCanTalk : Bool
  finished : Bool
  deriving DecidableEq

inductive MotionEvent where
  | actionDown | actionUp | actionCancel
  deriving DecidableEq

namespace CallActivity

def down : Text := "down".toList
def up : Text := "up".toList

def onCreate (isClient : Bool) (connectIp : Text) (port : Int) : CallActivity where
  mIsClient := isClient
  mConnectIp := connectIp
  mPort := port
  mMsg := if isClient then .calling else .pressTalk
  mTalking := false
  mCanTalk := true
  finished := false

def writeCommand (command : Text) (a : CallActivity) : ServiceCall :=
  if a.mIsClient then .writeCommandFromClient command else .writeCommandFromServer command

def onResume (a : CallActivity) : CallActivity × List ServiceCall :=
  (a, [.registerCallback true] ++
    (if a.mIsClient then [.connectServer a.mConnectIp a.mPort] else []) ++ [.startPlayer])

def onPause (a : CallActivity) : CallActivity × List ServiceCall :=
  (a, [.stopPlayer,
    if a.mIsClient then .disconnectServer
    else .writeCommandFromServer "socket disconnected".toList,
    .registerCallback false])

/-- `onTouch`; the branch of `ACTION_UP` falls through. The result of a refused `ACTION_DOWN` is
false, and no further event of that gesture is delivered. -/
def onTouch (e : MotionEvent) (a : CallActivity) : Bool × CallActivity × List ServiceCall :=
  match e with
  | .actionDown =>
    if a.mCanTalk then
      (true, { a with mTalking := true, mMsg := .pressedTalk a.mConnectIp },
        [.startRecorder a.mConnectIp, a.writeCommand down])
    else (false, a, [])
  | .actionUp =>
    (true, { a with mTalking := false, mMsg := .pressTalk }, [.stopRecorder, a.writeCommand up])
  | .actionCancel =>
    (true, { a with mTalking := false, mMsg := .pressTalk }, [.stopRecorder, a.writeCommand up])

/-- `callBack` with the code of a new command; none is a `NumberFormatException`. -/
def callBack (localIp : Option Text) (arg1 : Text) (a : CallActivity) :
    Option (CallActivity × List ServiceCall) :=
  if contains arg1 "socket connected".toList then
    some ({ a with mMsg := .pressTalk }, [.writeCommandFromClient
      ("socket connected:".toList ++ orNull localIp ++ ":".toList ++ decimal a.mPort)])
  else if contains arg1 "socket disconnected".toList then
    some ({ a with mMsg := .disconnectedFromServer, finished := true }, [])
  else if contains arg1 ":".toList then
    match split arg1 with
    | [_, port] => (parseInt port).map fun _ => (a, [])
    | _ => some (a, [])
  else if contains arg1 "down".toList then
    some ({ a with mMsg := .peerTalking, mCanTalk := false }, [])
  else if contains arg1 "up".toList then
    some ({ a with mMsg := .pressTalk, mCanTalk := true }, [])
  else some (a, [])

theorem onTouch_accepted {a : CallActivity} (h : a.mCanTalk = true) :
    a.onTouch .actionDown = (true, { a with mTalking := true, mMsg := .pressedTalk a.mConnectIp },
      [.startRecorder a.mConnectIp, a.writeCommand down]) := by
  rw [onTouch, if_pos h]

theorem onTouch_refused {a : CallActivity} (h : a.mCanTalk = false) :
    a.onTouch .actionDown = (false, a, []) := by
  rw [onTouch, h]
  rfl

theorem onTouch_ended (a : CallActivity) {e : MotionEvent} (h : e ≠ .actionDown) :
    a.onTouch e = (true, { a with mTalking := false, mMsg := .pressTalk },
      [.stopRecorder, a.writeCommand up]) := by
  cases e with
  | actionDown => exact absurd rfl h
  | actionUp => rfl
  | actionCancel => rfl

def hear (canTalk : Bool) (arg1 : Text) : Bool :=
  if contains arg1 "socket connected".toList then canTalk
  else if contains arg1 "socket disconnected".toList then canTalk
  else if contains arg1 ":".toList then canTalk
  else if contains arg1 "down".toList then false
  else if contains arg1 "up".toList then true
  else canTalk

theorem callBack_spec {localIp : Option Text} {arg1 : Text} {a a' : CallActivity}
    {calls : List ServiceCall} (h : a.callBack localIp arg1 = some (a', calls)) :
    a'.mCanTalk = hear a.mCanTalk arg1 ∧ a'.mIsClient = a.mIsClient ∧
      a'.mConnectIp = a.mConnectIp := by
  unfold callBack at h
  rw [hear]
  split at h
  · rename_i hConnected
    cases h
    exact ⟨(if_pos hConnected).symm, rfl, rfl⟩
  · rename_i hConnected
    rw [if_neg hConnected]
    split at h
    · rename_i hDisconnected
      cases h
      exact ⟨(if_pos hDisconnected).symm, rfl, rfl⟩
    · rename_i hDisconnected
      rw [if_neg hDisconnected]
      split at h
      · rename_i hColon
        rw [if_pos hColon]
        split at h
        · obtain ⟨_, _, hEq⟩ := Option.map_eq_some_iff.mp h
          cases hEq
          exact ⟨rfl, rfl, rfl⟩
        · cases h
          exact ⟨rfl, rfl, rfl⟩
      · rename_i hColon
        rw [if_neg hColon]
        split at h
        · rename_i hDown
          cases h
          exact ⟨(if_pos hDown).symm, rfl, rfl⟩
        · rename_i hDown
          rw [if_neg hDown]
          split at h
          · rename_i hUp
            cases h
            exact ⟨(if_pos hUp).symm, rfl, rfl⟩
          · rename_i hUp
            cases h
            exact ⟨(if_neg hUp).symm, rfl, rfl⟩

@[simp] theorem hear_down (canTalk : Bool) : hear canTalk down = false := rfl
@[simp] theorem hear_up (canTalk : Bool) : hear canTalk up = true := rfl

theorem callBack_down (localIp : Option Text) (a : CallActivity) :
    a.callBack localIp down = some ({ a with mMsg := .peerTalking, mCanTalk := false }, []) := rfl

theorem callBack_up (localIp : Option Text) (a : CallActivity) :
    a.callBack localIp up = some ({ a with mMsg := .pressTalk, mCanTalk := true }, []) := rfl

/-- The text that a call puts on the control connection of an activity in this role. -/
def commandOf (isClient : Bool) : ServiceCall → Option Text
  | .writeCommandFromClient command => if isClient then some command else none
  | .writeCommandFromServer command => if isClient then none else some command
  | _ => none

@[simp] theorem commandOf_writeCommand (command : Text) (a : CallActivity) :
    commandOf a.mIsClient (a.writeCommand command) = some command := by
  cases hClient : a.mIsClient <;> simp [writeCommand, hClient, commandOf]

theorem commands_sent (call : ServiceCall) (command : Text) (a : CallActivity)
    (h : commandOf a.mIsClient call = none) :
    [call, a.writeCommand command].filterMap (commandOf a.mIsClient) = [command] := by
  rw [List.filterMap_cons_none h, List.filterMap_cons_some (commandOf_writeCommand command a)]
  rfl

end CallActivity
end LocalCall.Call
