import LocalCall.Java.Text

/-! # The receiving thread

The thread sets up its socket in several statements, and `stopReceive` may come between any two of
them. Leaving the group takes the address of the group, which is there once the thread has got as
far; an `IOException` of it is caught, the exception for a missing address is not.
-/
namespace LocalCall.Utils
open Java
set_option autoImplicit false

inductive ReceiverPc where
  | started | construct | bind | group | join | test | receive | finallyBlock | ended
  deriving DecidableEq

/-- The socket is its `isClosed`; of the address only whether it is there matters. -/
structure MultiCastReceiver where
  mSelfIp : Option Text
  mReceiveMulticastSocket : Option Bool
  mInetSocketAddressGroup : Bool
  mStop : Bool
  thread : ReceiverPc
  passedOn : List Text
  deriving DecidableEq

inductive ReceiverAnswer where
  | done
  | threw
  | received (temp : Text) (localIp : Option Text)
  deriving DecidableEq

namespace MultiCastReceiver

def startReceive : MultiCastReceiver where
  mSelfIp := some []
  mReceiveMulticastSocket := none
  mInetSocketAddressGroup := false
  mStop := true
  thread := .started
  passedOn := []

/-- `leaveGroup` and `close`; none is the exception for the missing address. -/
def closeSocket (r : MultiCastReceiver) : Option MultiCastReceiver :=
  if r.mReceiveMulticastSocket = some false then
    if r.mInetSocketAddressGroup then some { r with mReceiveMulticastSocket := none } else none
  else some r

def stopReceive (r : MultiCastReceiver) : Option MultiCastReceiver :=
  { r with mStop := true }.closeSocket

def receive (temp : Text) (localIp : Option Text) (r : MultiCastReceiver) : MultiCastReceiver :=
  let r := if r.mSelfIp = none ∨ r.mSelfIp = some [] then { r with mSelfIp := localIp } else r
  if r.mSelfIp = some temp then r else { r with passedOn := r.passedOn ++ [temp] }

/-- A step of the thread; the field of a socket that was closed is null, and using it throws. -/
def threadStep (answer : ReceiverAnswer) (r : MultiCastReceiver) : Option MultiCastReceiver :=
  match r.thread, answer with
  | .started, .done => some { r with mStop := false, thread := .construct }
  | .construct, .done =>
    some { r with mReceiveMulticastSocket := some false, thread := .bind }
  | .construct, .threw => some { r with thread := .finallyBlock }
  | .bind, .done =>
    some { r with thread := if r.mReceiveMulticastSocket.isSome then .group else .finallyBlock }
  | .bind, .threw => some { r with thread := .finallyBlock }
  | .group, .done => some { r with mInetSocketAddressGroup := true, thread := .join }
  | .group, .threw => some { r with thread := .finallyBlock }
  | .join, .done =>
    some { r with thread := if r.mReceiveMulticastSocket.isSome then .test else .finallyBlock }
  | .join, .threw => some { r with thread := .finallyBlock }
  | .test, .done => some { r with thread := if r.mStop then .finallyBlock else .receive }
  | .receive, .received temp localIp => some { r.receive temp localIp with thread := .test }
  | .receive, .threw => some { r with thread := .finallyBlock }
  | .finallyBlock, .done =>
    match r.closeSocket with
    | some r => some { r with thread := .ended }
    | none => some { r with thread := .ended }
  | _, _ => none

end MultiCastReceiver
end LocalCall.Utils
