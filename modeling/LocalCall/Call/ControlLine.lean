import LocalCall.Call.Floor
import LocalCall.Socket.CtlServerSocket

/-! # Two phones on a control connection that comes and goes

A command is written to the connection while it is up, read by the thread of the other phone,
posted to its main thread while a callback is registered, and run by the activity whose callback
is registered by then. Each phone has a main screen and at most one call screen. The threads of
the connection report its state with texts of their own, at times that are left open.
-/
namespace LocalCall.Call
open Java Transition Replica Socket
set_option autoImplicit false

inductive Registered where
  | nobody | main | call
  deriving DecidableEq

/-- `started` is the peer in the intent of a call screen that the main screen has started. -/
structure Endpoint where
  activity : Option CallActivity
  resumed : Bool
  held : Bool
  registered : Registered
  posted : List Text
  started : Option Text
  deriving DecidableEq

/-- `up` is the connection, `connecting` an attempt of the client to set one up. -/
structure Line where
  phone : Side → Endpoint
  wire : Side → List Text
  up : Bool
  connecting : Bool

/-- What the main screen makes of a new command: the peer of the call screen it starts, if any;
none when it fails on a text without a peer. -/
def mainCallBack (arg1 : Text) : Option (Option Text) :=
  if contains arg1 "server socket connected".toList then some none
  else if contains arg1 "server socket disconnected".toList then some none
  else if contains arg1 "socket connected:".toList then
    match split arg1 with
    | _ :: ip :: _ => some (some ip)
    | _ => none
  else some none

def statusTexts : Side → List Text
  | .client => ["socket connected".toList, "socket disconnected".toList]
  | .server => [CallBack.connected.command, CallBack.disconnected.command]

namespace Line

def idle : Line where
  phone _ := ⟨none, false, false, .main, [], none⟩
  wire _ := []
  up := false
  connecting := false

def setPhone (s : Side) (p : Endpoint) (l : Line) : Line :=
  { l with phone := Function.update l.phone s p }

/-- A command written to a connection that is down is lost. -/
def send (s : Side) (command : Text) (l : Line) : Line :=
  if l.up then
    { l with wire := Function.update l.wire s.other (l.wire s.other ++ [command]) }
  else l

/-- The phone closes its end: it will not read what is still on its way to it. -/
def hangUp (s : Side) (l : Line) : Line :=
  { l with wire := Function.update l.wire s [], up := false, connecting := false }

def serve (isClient : Bool) (s : Side) (l : Line) : ServiceCall → Line
  | .registerCallback set =>
    l.setPhone s { l.phone s with registered := if set then .call else .nobody }
  | .connectServer _ _ => { l.hangUp s with connecting := true }
  | .disconnectServer => l.hangUp s
  | call =>
    match CallActivity.commandOf isClient call with
    | some command => l.send s command
    | none => l

def serveAll (a : CallActivity) (s : Side) (l : Line) (calls : List ServiceCall) : Line :=
  calls.foldl (serve a.mIsClient s) l

/-- What is on its way to the activities of a phone: posted already, or on the wire. -/
def inFlight (l : Line) (s : Side) : List Text := (l.phone s).posted ++ l.wire s

end Line

inductive LineEvent where
  | press (s : Side)
  | release (s : Side) (e : MotionEvent)
  | pause (s : Side)
  | resume (s : Side)
  | create (s : Side) (ip : Text) (port : Int)
  | destroy (s : Side)
  | mainResume (s : Side)
  | mainPause (s : Side)
  | connect
  | broken
  | lose (s : Side)
  | status (s : Side) (text : Text)
  | receive (s : Side)
  | run (s : Side) (localIp : Option Text)
  deriving DecidableEq

def post (text : Text) (p : Endpoint) : Endpoint :=
  match p.registered with
  | .nobody => p
  | _ => { p with posted := p.posted ++ [text] }

/-- A posted text is run by whoever is registered by now. -/
def runPosted (l : Line) (s : Side) (localIp : Option Text) (text : Text) (p : Endpoint) :
    Option Line :=
  match p.registered, p.activity with
  | .nobody, _ => some (l.setPhone s p)
  | .main, _ =>
    (mainCallBack text).map fun started =>
      l.setPhone s { p with started := started.or p.started }
  | .call, none => some (l.setPhone s p)
  | .call, some a =>
    (a.callBack localIp text).map fun (a', calls) =>
      (l.setPhone s { p with activity := some a' }).serveAll a s calls

def lineStep (l : Line) : LineEvent → Option Line
  | .press s =>
    let p := l.phone s
    match p.activity with
    | none => none
    | some a =>
      if p.resumed ∧ ¬ p.held then
        let (held, a', calls) := a.onTouch .actionDown
        some ((l.setPhone s { p with activity := some a', held }).serveAll a s calls)
      else none
  | .release s e =>
    let p := l.phone s
    match p.activity with
    | none => none
    | some a =>
      if p.held ∧ e ≠ .actionDown then
        let (_, a', calls) := a.onTouch e
        some ((l.setPhone s { p with activity := some a', held := false }).serveAll a s calls)
      else none
  | .pause s =>
    let p := l.phone s
    match p.activity with
    | none => none
    | some a =>
      if p.resumed then
        some ((l.setPhone s { p with resumed := false }).serveAll a s a.onPause.2)
      else none
  | .resume s =>
    let p := l.phone s
    match p.activity with
    | none => none
    | some a =>
      if p.resumed ∨ a.finished then none
      else some ((l.setPhone s { p with resumed := true }).serveAll a s a.onResume.2)
  | .create s ip port =>
    let p := l.phone s
    if p.activity = none ∧ (s = .server → p.started = some ip ∧ port = 0) then
      some (l.setPhone s { p with
        activity := some (.onCreate (s = .client) ip port), resumed := false, started := none })
    else none
  | .destroy s =>
    let p := l.phone s
    if p.activity ≠ none ∧ p.resumed = false then
      some (l.setPhone s { p with activity := none, held := false })
    else none
  | .mainResume s =>
    if (l.phone s).resumed then none
    else some (l.setPhone s { l.phone s with registered := .main })
  | .mainPause s =>
    if (l.phone s).registered = .main then
      some (l.setPhone s { l.phone s with registered := .nobody })
    else none
  | .connect =>
    if l.connecting ∧ l.wire .client = [] ∧ l.wire .server = [] then
      some { l with up := true, connecting := false }
    else none
  | .broken => some { l with up := false }
  | .lose s => if l.up then none else some { l with wire := Function.update l.wire s [] }
  | .status s text =>
    if text ∈ statusTexts s then some (l.setPhone s (post text (l.phone s))) else none
  | .receive s =>
    match l.wire s with
    | [] => none
    | text :: rest =>
      some ({ l with wire := Function.update l.wire s rest }.setPhone s (post text (l.phone s)))
  | .run s localIp =>
    match (l.phone s).posted with
    | [] => none
    | text :: rest => runPosted l s localIp text { l.phone s with posted := rest }

end LocalCall.Call
