import LocalCall.Call.ControlLine
import LocalCall.Socket.CommandFraming

/-! # The called phone

The server thread takes one connection after another behind whatever screen is shown. A handshake
line that reaches the main screen starts a call screen with the address in it, which that call
screen keeps; one that reaches a call screen changes nothing. So a call screen talks to the host
that opened it, whoever is connected by now. With each screen goes the connection and the line
that opened it, and with each address passed on what the open connection had announced.
-/
namespace LocalCall.Call
open Java Transition Socket
set_option autoImplicit false

structure CallScreen where
  activity : CallActivity
  opener : Nat × Text
  deriving DecidableEq

/-- The call screens are in the order of the back stack, the topmost first; `starting` holds the
intents of those still to be created. -/
structure CalledSide where
  server : CtlServerSocket
  registered : Registered
  posted : List (Nat × Text)
  starting : List (Text × (Nat × Text))
  screens : List CallScreen
  resumed : Bool
  held : Bool
  passed : List (Text × Option (Option Text))
  deriving DecidableEq

def handshakeIp (line : Text) : Option Text :=
  let start := "socket connected:".toList
  if start.isPrefixOf line ∧ ':' ∈ line.drop start.length then
    some ((line.drop start.length).takeWhile fun c => c ≠ ':')
  else none

/-- The connection that has been accepted and whose reading loop the thread has not left. -/
def openConnection (s : CtlServerSocket) : Option Nat :=
  match s.thread with
  | .getOutputStream => some s.current
  | .getInputStream => some s.current
  | .connected => some s.current
  | .readLine => some s.current
  | .read => some s.current
  | .deliver (some _) => some s.current
  | _ => none

def announced (s : CtlServerSocket) (connection : Nat) : Option Text :=
  (s.remoteLines connection).findSome? handshakeIp

/-- The address that the main screen takes from a line to start a call screen with. -/
def startedBy (line : Text) : Option Text := (mainCallBack line).join

def registerAll (r : Registered) (calls : List ServiceCall) : Registered :=
  calls.foldl (fun r call =>
    match call with
    | .registerCallback set => if set then .call else .nobody
    | _ => r) r

def passedBy (calls : List ServiceCall) : List Text :=
  calls.filterMap fun call =>
    match call with
    | .startRecorder ip => some ip
    | _ => none

namespace CalledSide

def idle (port : Nat) : CalledSide where
  server := .opened port
  registered := .main
  posted := []
  starting := []
  screens := []
  resumed := false
  held := false
  passed := []

def heard (s : CalledSide) : Option (Option Text) :=
  (openConnection s.server).map (announced s.server)

/-- A step of the server thread; what it reports is posted if anybody is registered. -/
def serve (answer : Answer) (s : CalledSide) : Option CalledSide :=
  (s.server.threadStep answer).map fun server =>
    let fresh := (server.issued.drop s.server.issued.length).map fun cb => (cb.1, cb.2.command)
    { s with
      server
      posted := if s.registered = .nobody then s.posted else s.posted ++ fresh }

/-- The main thread runs a posted text; none is an exception, which ends the application. -/
def runText (localIp : Option Text) (text : Nat × Text) (s : CalledSide) : Option CalledSide :=
  match s.registered, s.screens with
  | .nobody, _ => some s
  | .main, _ =>
    (mainCallBack text.2).map fun started =>
      { s with starting := s.starting ++ started.toList.map fun ip => (ip, text) }
  | .call, [] => some s
  | .call, top :: below =>
    (top.activity.callBack localIp text.2).map fun (a, _) =>
      { s with screens := { top with activity := a } :: below }

end CalledSide

inductive CalledEvent where
  | server (answer : Answer)
  | run (localIp : Option Text)
  | create
  | resume
  | pause
  | destroy
  | mainResume
  | mainPause
  | press
  | release (e : MotionEvent)
  deriving DecidableEq

def calledStep (s : CalledSide) : CalledEvent → Option CalledSide
  | .server answer => s.serve answer
  | .run localIp =>
    match s.posted with
    | [] => none
    | text :: rest => { s with posted := rest }.runText localIp text
  | .create =>
    match s.starting with
    | [] => none
    | (ip, opener) :: rest =>
      if s.resumed then none
      else some { s with
        starting := rest, screens := ⟨.onCreate false ip 0, opener⟩ :: s.screens }
  | .resume =>
    match s.screens with
    | [] => none
    | top :: below =>
      if s.resumed ∨ top.activity.finished then none
      else
        let (a, calls) := top.activity.onResume
        some { s with
          registered := registerAll s.registered calls
          screens := { top with activity := a } :: below
          resumed := true }
  | .pause =>
    match s.screens with
    | [] => none
    | top :: below =>
      if s.resumed then
        let (a, calls) := top.activity.onPause
        some { s with
          registered := registerAll s.registered calls
          screens := { top with activity := a } :: below
          resumed := false }
      else none
  | .destroy =>
    match s.screens with
    | [] => none
    | _ :: below => if s.resumed then none else some { s with screens := below, held := false }
  | .mainResume => if s.resumed then none else some { s with registered := .main }
  | .mainPause =>
    if s.registered = .main then some { s with registered := .nobody } else none
  | .press =>
    match s.screens with
    | [] => none
    | top :: below =>
      if s.resumed ∧ ¬ s.held then
        let (held, a, calls) := top.activity.onTouch .actionDown
        some { s with
          screens := { top with activity := a } :: below
          held
          passed := s.passed ++ (passedBy calls).map fun ip => (ip, s.heard) }
      else none
  | .release e =>
    match s.screens with
    | [] => none
    | top :: below =>
      if s.held ∧ e ≠ .actionDown then
        let (_, a, calls) := top.activity.onTouch e
        some { s with
          screens := { top with activity := a } :: below
          held := false
          passed := s.passed ++ (passedBy calls).map fun ip => (ip, s.heard) }
      else none

/-- Each address passed on while a connection was open is the one that it had announced. -/
def PassesAnnounced (s : CalledSide) : Prop :=
  ∀ entry ∈ s.passed, ∀ said, entry.2 = some said → said = some entry.1

/-- A press on an accepting call screen, with a connection open: the line that opened the screen
names the host that the connection has announced. -/
def SameHost (s : CalledSide) : CalledEvent → Prop
  | .press => ∀ top ∈ s.screens.head?, top.activity.mCanTalk = true →
      ∀ said, s.heard = some said → said = startedBy top.opener.2
  | _ => True

/-- The lines behind all call screens that there are or may come to be. -/
def CalledSide.openers (s : CalledSide) : List (Nat × Text) :=
  s.posted ++ s.starting.map (·.2) ++ s.screens.map (·.opener)

/-- A connection is accepted only while there is no call screen and none on its way, and a line
that starts one names the host that the first handshake line of its connection names. -/
def OneCaller (s : CalledSide) : CalledEvent → Prop
  | .server _ =>
    match s.server.thread with
    | .accept => ∀ line ∈ s.openers, startedBy line.2 = none
    | .deliver (some ret) => startedBy ret = none ∨
        startedBy ret = (announced s.server s.server.current).or (handshakeIp ret)
    | _ => True
  | _ => True

/-- Each call screen, created or on its way, talks to the host of the line that opened it. -/
structure Opened (s : CalledSide) : Prop where
  screens : ∀ screen ∈ s.screens, startedBy screen.opener.2 = some screen.activity.mConnectIp
  starting : ∀ intent ∈ s.starting, startedBy intent.2.2 = some intent.1

/-- Behind no call screen is a line that names another host than the open connection announced. -/
def OfCaller (s : CalledSide) : Prop :=
  ∀ said, s.heard = some said →
    ∀ line ∈ s.openers, startedBy line.2 = none ∨ startedBy line.2 = said

def passedIn (s : CalledSide) : CalledEvent → List (Text × Option (Option Text))
  | .press =>
    match s.screens with
    | [] => []
    | top :: _ => if top.activity.mCanTalk then [(top.activity.mConnectIp, s.heard)] else []
  | _ => []

def TopChanged (s s' : CalledSide) : Prop :=
  ∃ top below a, s.screens = top :: below ∧
    s'.screens = { top with activity := a } :: below ∧ a.mConnectIp = top.activity.mConnectIp

section Steps

variable {s s' : CalledSide} {e : CalledEvent}

theorem passedBy_writeCommand (call : ServiceCall) (command : Text) (a : CallActivity) :
    passedBy [call, a.writeCommand command] = passedBy [call] := by
  rw [CallActivity.writeCommand]
  split
  · cases call <;> rfl
  · cases call <;> rfl

theorem onTouch_mConnectIp (e : MotionEvent) (a : CallActivity) :
    (a.onTouch e).2.1.mConnectIp = a.mConnectIp := by
  cases e with
  | actionDown =>
    rw [CallActivity.onTouch]
    split <;> rfl
  | actionUp => rfl
  | actionCancel => rfl

theorem serve_spec {answer : Answer} (hStep : s.serve answer = some s') :
    s.server.threadStep answer = some s'.server ∧ s'.screens = s.screens ∧
      s'.starting = s.starting ∧ s'.passed = s.passed ∧
      ∀ line ∈ s'.posted, line ∈ s.posted ∨
        ∃ cb ∈ s'.server.issued.drop s.server.issued.length, line = (cb.1, cb.2.command) := by
  obtain ⟨server, hServer, rfl⟩ := Option.map_eq_some_iff.mp hStep
  refine ⟨hServer, rfl, rfl, rfl, fun line hMem => ?_⟩
  dsimp only at hMem
  split at hMem
  · exact .inl hMem
  · rcases List.mem_append.mp hMem with hMem | hMem
    · exact .inl hMem
    · obtain ⟨cb, hFresh, hLine⟩ := List.mem_map.mp hMem
      exact .inr ⟨cb, hFresh, hLine.symm⟩

theorem runText_spec {localIp : Option Text} {text : Nat × Text}
    (hStep : s.runText localIp text = some s') :
    s'.server = s.server ∧ s'.posted = s.posted ∧ s'.passed = s.passed ∧
      ((∃ ips : List Text, (∀ ip ∈ ips, startedBy text.2 = some ip) ∧
          s'.starting = s.starting ++ ips.map (fun ip => (ip, text)) ∧ s'.screens = s.screens) ∨
        s'.starting = s.starting ∧ TopChanged s s') := by
  unfold CalledSide.runText at hStep
  split at hStep
  · cases hStep
    exact ⟨rfl, rfl, rfl, .inl ⟨[], fun _ hMem => (nomatch hMem), by simp, rfl⟩⟩
  · obtain ⟨started, hMain, rfl⟩ := Option.map_eq_some_iff.mp hStep
    refine ⟨rfl, rfl, rfl, .inl ⟨started.toList, fun ip hMem => ?_, rfl, rfl⟩⟩
    rw [startedBy, hMain, Option.mem_toList.mp hMem]
    rfl
  · cases hStep
    exact ⟨rfl, rfl, rfl, .inl ⟨[], fun _ hMem => (nomatch hMem), by simp, rfl⟩⟩
  · rename_i top below _ hScreens
    obtain ⟨⟨a, calls⟩, hCall, rfl⟩ := Option.map_eq_some_iff.mp hStep
    obtain ⟨_, _, hIp⟩ := CallActivity.callBack_spec hCall
    exact ⟨rfl, rfl, rfl, .inr ⟨rfl, top, below, a, hScreens, rfl, hIp⟩⟩

/-- Apart from the server thread and the posted texts, a step creates a screen from the first
intent, destroys the topmost, or exchanges it for one with the same host. -/
theorem calledStep_cases (hStep : calledStep s e = some s') :
    (∃ answer, e = .server answer ∧ s.serve answer = some s') ∨
    (∃ localIp text rest, e = .run localIp ∧ s.posted = text :: rest ∧
      ({ s with posted := rest } : CalledSide).runText localIp text = some s') ∨
    s'.server = s.server ∧ s'.posted = s.posted ∧ s'.passed = s.passed ++ passedIn s e ∧
      ((∃ ip opener rest, s.starting = (ip, opener) :: rest ∧ s'.starting = rest ∧
          s'.screens = ⟨.onCreate false ip 0, opener⟩ :: s.screens) ∨
        s'.starting = s.starting ∧
          (s'.screens = s.screens ∨ s'.screens = s.screens.tail ∨ TopChanged s s')) := by
  cases e with
  | server answer => exact .inl ⟨answer, rfl, hStep⟩
  | run localIp =>
    unfold calledStep at hStep
    dsimp only at hStep
    split at hStep
    · cases hStep
    · rename_i text rest hPosted
      exact .inr <| .inl ⟨localIp, text, rest, rfl, hPosted, hStep⟩
  | create =>
    unfold calledStep at hStep
    dsimp only at hStep
    split at hStep
    · cases hStep
    · rename_i ip opener rest hStarting
      obtain ⟨_, hNext⟩ := Option.ite_none_left_eq_some.mp hStep
      cases hNext
      exact .inr <| .inr ⟨rfl, rfl, (List.append_nil _).symm,
        .inl ⟨ip, opener, rest, hStarting, rfl, rfl⟩⟩
  | destroy =>
    unfold calledStep at hStep
    dsimp only at hStep
    split at hStep
    · cases hStep
    · rename_i top below hScreens
      obtain ⟨_, hNext⟩ := Option.ite_none_left_eq_some.mp hStep
      cases hNext
      have hTail : below = s.screens.tail := by rw [hScreens]; rfl
      exact .inr <| .inr ⟨rfl, rfl, (List.append_nil _).symm, .inr ⟨rfl, .inr (.inl hTail)⟩⟩
  | mainResume =>
    obtain ⟨_, hNext⟩ := Option.ite_none_left_eq_some.mp hStep
    cases hNext
    exact .inr <| .inr ⟨rfl, rfl, (List.append_nil _).symm, .inr ⟨rfl, .inl rfl⟩⟩
  | mainPause =>
    obtain ⟨_, hNext⟩ := Option.ite_none_right_eq_some.mp hStep
    cases hNext
    exact .inr <| .inr ⟨rfl, rfl, (List.append_nil _).symm, .inr ⟨rfl, .inl rfl⟩⟩
  | resume =>
    unfold calledStep at hStep
    dsimp only at hStep
    split at hStep
    · cases hStep
    · rename_i top below hScreens
      obtain ⟨_, hNext⟩ := Option.ite_none_left_eq_some.mp hStep
      cases hNext
      exact .inr <| .inr ⟨rfl, rfl, (List.append_nil _).symm,
        .inr ⟨rfl, .inr (.inr ⟨top, below, _, hScreens, rfl, rfl⟩)⟩⟩
  | pause =>
    unfold calledStep at hStep
    dsimp only at hStep
    split at hStep
    · cases hStep
    · rename_i top below hScreens
      obtain ⟨_, hNext⟩ := Option.ite_none_right_eq_some.mp hStep
      cases hNext
      exact .inr <| .inr ⟨rfl, rfl, (List.append_nil _).symm,
        .inr ⟨rfl, .inr (.inr ⟨top, below, _, hScreens, rfl, rfl⟩)⟩⟩
  | press =>
    unfold calledStep at hStep
    dsimp only at hStep
    split at hStep
    · cases hStep
    · rename_i top below hScreens
      obtain ⟨_, hNext⟩ := Option.ite_none_right_eq_some.mp hStep
      cases hNext
      have hSame := onTouch_mConnectIp .actionDown top.activity
      refine .inr <| .inr ⟨rfl, rfl, ?_,
        .inr ⟨rfl, .inr (.inr ⟨top, below, _, hScreens, rfl, hSame⟩)⟩⟩
      rw [passedIn, hScreens]
      dsimp only
      cases hTalk : top.activity.mCanTalk with
      | true =>
        rw [CallActivity.onTouch_accepted hTalk, passedBy_writeCommand]
        rfl
      | false =>
        rw [CallActivity.onTouch_refused hTalk]
        rfl
  | release motion =>
    unfold calledStep at hStep
    dsimp only at hStep
    split at hStep
    · cases hStep
    · rename_i top below hScreens
      obtain ⟨⟨_, hMotion⟩, hNext⟩ := Option.ite_none_right_eq_some.mp hStep
      cases hNext
      have hSame := onTouch_mConnectIp motion top.activity
      refine .inr <| .inr ⟨rfl, rfl, ?_,
        .inr ⟨rfl, .inr (.inr ⟨top, below, _, hScreens, rfl, hSame⟩)⟩⟩
      rw [CallActivity.onTouch_ended _ hMotion, passedBy_writeCommand]
      rfl

theorem passed_step (hStep : calledStep s e = some s') :
    s'.passed = s.passed ++ passedIn s e := by
  obtain ⟨answer, rfl, hServe⟩ | ⟨localIp, text, rest, rfl, -, hText⟩ | ⟨-, -, hPassed, -⟩ :=
    calledStep_cases hStep
  · obtain ⟨-, -, -, hPassed, -⟩ := serve_spec hServe
    rw [hPassed]
    exact (List.append_nil _).symm
  · obtain ⟨-, -, hPassed, -⟩ := runText_spec hText
    rw [hPassed]
    exact (List.append_nil _).symm
  · exact hPassed

theorem TopChanged.opened (hTop : TopChanged s s') (h : Opened s)
    (hStarting : s'.starting = s.starting) : Opened s' := by
  obtain ⟨top, below, a, hScreens, hNext, hSame⟩ := hTop
  refine ⟨fun screen hMem => ?_, hStarting ▸ h.starting⟩
  rw [hNext] at hMem
  rcases List.mem_cons.mp hMem with rfl | hMem
  · rw [hSame]
    exact h.screens top (hScreens ▸ List.mem_cons_self)
  · exact h.screens screen (hScreens ▸ List.mem_cons_of_mem top hMem)

theorem Opened.runText {localIp : Option Text} {text : Nat × Text} (h : Opened s)
    (hStep : s.runText localIp text = some s') : Opened s' := by
  obtain ⟨-, -, -, ⟨ips, hIps, hStarting, hScreens⟩ | ⟨hStarting, hTop⟩⟩ := runText_spec hStep
  · refine ⟨hScreens ▸ h.screens, fun intent hMem => ?_⟩
    rcases List.mem_append.mp (hStarting ▸ hMem) with hMem | hMem
    · exact h.starting intent hMem
    · obtain ⟨ip, hIp, rfl⟩ := List.mem_map.mp hMem
      exact hIps ip hIp
  · exact hTop.opened h hStarting

theorem Opened.step (h : Opened s) (hStep : calledStep s e = some s') : Opened s' := by
  obtain ⟨answer, rfl, hServe⟩ | ⟨localIp, text, rest, rfl, -, hText⟩ | ⟨-, -, -, hMoved⟩ :=
    calledStep_cases hStep
  · obtain ⟨-, hScreens, hStarting, -⟩ := serve_spec hServe
    exact ⟨hScreens ▸ h.screens, hStarting ▸ h.starting⟩
  · have hRest : Opened { s with posted := rest } := ⟨h.screens, h.starting⟩
    exact hRest.runText hText
  · obtain ⟨ip, opener, rest, hStarting, hRest, hScreens⟩ |
      ⟨hStarting, hScreens | hScreens | hTop⟩ := hMoved
    · have hIntent := h.starting (ip, opener) (hStarting ▸ List.mem_cons_self)
      refine ⟨fun screen hMem => ?_, fun intent hMem => ?_⟩
      · rcases List.mem_cons.mp (hScreens ▸ hMem) with rfl | hMem
        · exact hIntent
        · exact h.screens screen hMem
      · exact h.starting intent (hStarting ▸ List.mem_cons_of_mem _ (hRest ▸ hMem))
    · exact ⟨hScreens ▸ h.screens, hStarting ▸ h.starting⟩
    · exact ⟨fun screen hMem => h.screens screen (List.mem_of_mem_tail (hScreens ▸ hMem)),
        hStarting ▸ h.starting⟩
    · exact hTop.opened h hStarting

theorem passesAnnounced_step_iff (hOpened : Opened s) (hPasses : PassesAnnounced s)
    (hStep : calledStep s e = some s') : PassesAnnounced s' ↔ SameHost s e := by
  have hAdded : PassesAnnounced s' ↔
      ∀ entry ∈ passedIn s e, ∀ said, entry.2 = some said → said = some entry.1 := by
    rw [PassesAnnounced, passed_step hStep]
    simp only [List.mem_append, or_imp, forall_and]
    exact and_iff_right hPasses
  rw [hAdded]
  cases e with
  | press =>
    cases hScreens : s.screens with
    | nil => simp [passedIn, SameHost, hScreens]
    | cons top below =>
      have hTop := hOpened.screens top (hScreens ▸ List.mem_cons_self)
      simp [passedIn, SameHost, hScreens, hTop]
  | _ => simp [passedIn, SameHost]

theorem mem_openers {line : Nat × Text} : line ∈ s.openers ↔ line ∈ s.posted ∨
    (∃ intent ∈ s.starting, intent.2 = line) ∨ ∃ screen ∈ s.screens, screen.opener = line := by
  simp only [CalledSide.openers, List.mem_append, List.mem_map, or_assoc]

theorem TopChanged.opener {line : Nat × Text} (hTop : TopChanged s s')
    (hLine : ∃ screen ∈ s'.screens, screen.opener = line) :
    ∃ screen ∈ s.screens, screen.opener = line := by
  obtain ⟨top, below, a, hScreens, hNext, -⟩ := hTop
  obtain ⟨screen, hMem, rfl⟩ := hLine
  rw [hScreens]
  rcases List.mem_cons.mp (hNext ▸ hMem) with rfl | hMem
  · exact ⟨top, List.mem_cons_self, rfl⟩
  · exact ⟨screen, List.mem_cons_of_mem top hMem, rfl⟩

/-- A screen comes from an intent, and an intent from a line that was posted. -/
theorem openers_step (hServer : ∀ answer, e ≠ .server answer) (hStep : calledStep s e = some s') :
    s'.server = s.server ∧ ∀ line ∈ s'.openers, line ∈ s.openers := by
  obtain ⟨answer, rfl, -⟩ | ⟨localIp, text, rest, rfl, hPosted, hText⟩ |
    ⟨hSame, hPosted, -, hMoved⟩ := calledStep_cases hStep
  · exact absurd rfl (hServer answer)
  · obtain ⟨hSame, hRest, -, hMoved⟩ := runText_spec hText
    refine ⟨hSame, fun line hLine => mem_openers.mpr ?_⟩
    rcases mem_openers.mp hLine with hLine | hLine | hLine
    · rw [hRest] at hLine
      exact .inl (hPosted ▸ List.mem_cons_of_mem text hLine)
    · obtain ⟨ips, -, hStarting, -⟩ | ⟨hStarting, -⟩ := hMoved
      · obtain ⟨intent, hMem, rfl⟩ := hLine
        rcases List.mem_append.mp (hStarting ▸ hMem) with hMem | hMem
        · exact .inr (.inl ⟨intent, hMem, rfl⟩)
        · obtain ⟨ip, _, rfl⟩ := List.mem_map.mp hMem
          exact .inl (hPosted ▸ List.mem_cons_self)
      · exact .inr (.inl (hStarting ▸ hLine))
    · obtain ⟨-, -, -, hScreens⟩ | ⟨-, hTop⟩ := hMoved
      · exact .inr (.inr (hScreens ▸ hLine))
      · exact .inr (.inr (hTop.opener hLine))
  · refine ⟨hSame, fun line hLine => mem_openers.mpr ?_⟩
    rcases mem_openers.mp hLine with hLine | hLine
    · exact .inl (hPosted ▸ hLine)
    · refine .inr ?_
      obtain ⟨ip, opener, rest, hStarting, hRest, hScreens⟩ |
        ⟨hStarting, hScreens | hScreens | hTop⟩ := hMoved
      · rcases hLine with ⟨intent, hMem, rfl⟩ | ⟨screen, hMem, rfl⟩
        · exact .inl ⟨intent, hStarting ▸ List.mem_cons_of_mem _ (hRest ▸ hMem), rfl⟩
        · rcases List.mem_cons.mp (hScreens ▸ hMem) with rfl | hMem
          · exact .inl ⟨(ip, opener), hStarting ▸ List.mem_cons_self, rfl⟩
          · exact .inr ⟨screen, hMem, rfl⟩
      · rw [hStarting, hScreens] at hLine
        exact hLine
      · rw [hStarting, hScreens] at hLine
        rcases hLine with hLine | ⟨screen, hMem, hOpener⟩
        · exact .inl hLine
        · exact .inr ⟨screen, List.mem_of_mem_tail hMem, hOpener⟩
      · rw [hStarting] at hLine
        exact hLine.imp_right hTop.opener

/-- What a step of the server thread does to the open connection: it ends it, accepts the next
one, or stays within it and reports at most one line. -/
theorem openConnection_step {answer : Answer} {server server' : CtlServerSocket}
    (hStep : server.threadStep answer = some server') :
    openConnection server' = none ∨
    (server.thread = .accept ∧ server'.issued = server.issued) ∨
      server'.current = server.current ∧ openConnection server' = openConnection server ∧
        (server'.issued = server.issued ∨
          server'.issued = server.issued ++ [(server.current, .connected)] ∨
          ∃ ret, server.thread = .deliver (some ret) ∧
            server'.issued = server.issued ++ [(server.current, .line ret)]) := by
  simp only [CtlServerSocket.threadStep] at hStep
  split at hStep
  all_goals try split at hStep
  all_goals cases hStep
  all_goals simp_all [openConnection, CtlServerSocket.issue, CtlServerSocket.caught,
    CtlServerSocket.current]

theorem openConnection_eq_current {server : CtlServerSocket} {c : Nat}
    (hOpen : openConnection server = some c) : c = server.current := by
  unfold openConnection at hOpen
  split at hOpen
  all_goals cases hOpen
  all_goals rfl

theorem startedBy_connected : startedBy CallBack.connected.command = none := by decide

theorem announced_reported {server server' : CtlServerSocket} {c : Nat} {cb : CallBack}
    (hIssued : server'.issued = server.issued ++ [(c, cb)]) :
    announced server' c = (announced server c).or (cb.remote.bind handshakeIp) := by
  rw [announced, announced, CtlServerSocket.remoteLines, hIssued, List.filterMap_append,
    List.findSome?_append]
  cases hRemote : cb.remote with
  | none => simp [CtlServerSocket.remoteLines, hRemote]
  | some ret => simp [CtlServerSocket.remoteLines, hRemote]

theorem firstOf_or {ip said : Option Text} (h : ip = none ∨ ip = said) (next : Option Text) :
    ip = none ∨ ip = said.or next := by
  rcases h with rfl | rfl
  · exact .inl rfl
  · cases ip with
    | none => exact .inl rfl
    | some ip => exact .inr rfl

theorem OfCaller.serve {answer : Answer} (h : OfCaller s) (hOne : OneCaller s (.server answer))
    (hStep : s.serve answer = some s') : OfCaller s' := by
  obtain ⟨hThread, hScreens, hStarting, -, hPosted⟩ := serve_spec hStep
  -- a line behind a screen was there before, or the step has reported it
  have hOpeners : ∀ line ∈ s'.openers, line ∈ s.openers ∨
      ∃ cb ∈ s'.server.issued.drop s.server.issued.length, line = (cb.1, cb.2.command) := by
    intro line hLine
    rcases mem_openers.mp hLine with hLine | hLine
    · exact (hPosted line hLine).imp_left fun hOld => mem_openers.mpr (.inl hOld)
    · rw [hScreens, hStarting] at hLine
      exact .inl (mem_openers.mpr (.inr hLine))
  intro said hSaid line hLine
  obtain ⟨c, hOpen, hHeard⟩ := Option.map_eq_some_iff.mp hSaid
  obtain hClosed | ⟨hAccept, hIssued⟩ | ⟨hCurrent, hSame, hReported⟩ := openConnection_step hThread
  · rw [hClosed] at hOpen
    cases hOpen
  · rw [OneCaller, hAccept] at hOne
    rw [hIssued, List.drop_length] at hOpeners
    rcases hOpeners line hLine with hOld | ⟨_, hFresh, _⟩
    · exact .inl (hOne line hOld)
    · cases hFresh
  · rw [hSame] at hOpen
    have hOld : s.heard = some (announced s.server c) := by rw [CalledSide.heard, hOpen]; rfl
    cases openConnection_eq_current hOpen
    obtain hIssued | hIssued | ⟨ret, hDeliver, hIssued⟩ := hReported
    · rw [hIssued, List.drop_length] at hOpeners
      rw [announced, CtlServerSocket.remoteLines, hIssued] at hHeard
      rcases hOpeners line hLine with hMem | ⟨_, hFresh, _⟩
      · exact h said (hHeard ▸ hOld) line hMem
      · cases hFresh
    · rw [hIssued, List.drop_left] at hOpeners
      rw [announced_reported hIssued, show CallBack.connected.remote = none from rfl,
        Option.bind_none, Option.or_none] at hHeard
      rcases hOpeners line hLine with hMem | ⟨cb, hFresh, rfl⟩
      · exact h said (hHeard ▸ hOld) line hMem
      · cases List.mem_singleton.mp hFresh
        exact .inl startedBy_connected
    · rw [OneCaller, hDeliver] at hOne
      rw [hIssued, List.drop_left] at hOpeners
      have hReport : (announced s.server s.server.current).or (handshakeIp ret) = said :=
        (announced_reported hIssued).symm.trans hHeard
      dsimp only at hOne
      rw [hReport] at hOne
      rcases hOpeners line hLine with hMem | ⟨cb, hFresh, rfl⟩
      · rw [← hReport]
        exact firstOf_or (h _ hOld line hMem) _
      · cases List.mem_singleton.mp hFresh
        exact hOne

theorem OfCaller.step (h : OfCaller s) (hOne : OneCaller s e)
    (hStep : calledStep s e = some s') : OfCaller s' := by
  by_cases hServer : ∃ answer, e = .server answer
  · obtain ⟨answer, rfl⟩ := hServer
    exact h.serve hOne hStep
  · obtain ⟨hSame, hOpeners⟩ := openers_step (not_exists.mp hServer) hStep
    intro said hSaid line hLine
    rw [CalledSide.heard, hSame] at hSaid
    exact h said hSaid line (hOpeners line hLine)

theorem OfCaller.sameHost (h : OfCaller s) (hOpened : Opened s) (e : CalledEvent) :
    SameHost s e := by
  cases e with
  | press =>
    intro top hTop _ said hSaid
    have hMem : top ∈ s.screens := List.mem_of_mem_head? hTop
    rcases h said hSaid top.opener (mem_openers.mpr (.inr (.inr ⟨top, hMem, rfl⟩))) with
      hNone | hHost
    · rw [hOpened.screens top hMem] at hNone
      cases hNone
    · exact hHost.symm
  | _ => trivial

theorem opened_idle (port : Nat) : Opened (.idle port) :=
  ⟨fun _ hMem => (nomatch hMem), fun _ hMem => (nomatch hMem)⟩

end Steps

/-- Every press passes on the address that the open connection announced, exactly when every press
is made on a screen opened by a line that names the same host. -/
theorem always_passesAnnounced_iff (port : Nat) (events : List CalledEvent) :
    Always calledStep PassesAnnounced (.idle port) events ↔
      Meets calledStep SameHost (.idle port) events := by
  have hFirst : PassesAnnounced (.idle port) := fun _ hMem => (nomatch hMem)
  apply always_iff_meets _ _ (opened_idle port) hFirst
  · intro s e s' hOpened _ hStep _
    exact hOpened.step hStep
  · intro s e s' hOpened hPasses hStep
    exact passesAnnounced_step_iff hOpened hPasses hStep

/-- Enough for it: a connection is accepted only while no call screen is up or on its way, and
announces one host. -/
theorem always_passesAnnounced_of_oneCaller (port : Nat) (events : List CalledEvent)
    (hOne : Meets calledStep OneCaller (.idle port) events) :
    Always calledStep PassesAnnounced (.idle port) events := by
  have hFirst : OfCaller (.idle port) ∧ Opened (.idle port) ∧ PassesAnnounced (.idle port) :=
    ⟨fun _ _ _ hMem => (nomatch hMem), opened_idle port, fun _ hMem => (nomatch hMem)⟩
  have hKeep : ∀ {s e s'}, OfCaller s ∧ Opened s ∧ PassesAnnounced s → OneCaller s e →
      calledStep s e = some s' → OfCaller s' ∧ Opened s' ∧ PassesAnnounced s' := by
    rintro s e s' ⟨hCaller, hOpened, hPasses⟩ hOneHere hStep
    exact ⟨hCaller.step hOneHere hStep, hOpened.step hStep,
      (passesAnnounced_step_iff hOpened hPasses hStep).mpr (hCaller.sameHost hOpened e)⟩
  exact always_of_meets hKeep (fun h => h.2.2) hFirst hOne

/-- The connection of `192.168.1.2` breaks, the one of `192.168.1.3` is accepted and announces
itself behind the call screen, and the press still goes to `192.168.1.2`. -/
def secondCaller : List CalledEvent :=
  let quiet (n : Nat) : List CalledEvent := List.replicate n (.server .done)
  let first : List CalledEvent :=
    [.server (.line "socket connected:192.168.1.2:40000".toList), .server .done, .run none,
      .run none, .mainPause, .create, .resume, .server .done, .server .threw]
  let second : List CalledEvent :=
    [.server (.line "socket connected:192.168.1.3:40000".toList), .server .done, .press]
  quiet 6 ++ first ++ quiet 13 ++ second

theorem not_always_passesAnnounced_secondCaller :
    ¬ Always calledStep PassesAnnounced (.idle 5000) secondCaller := by
  intro hAlways
  have hRun : ((run calledStep (.idle 5000) secondCaller).map fun s => s.passed) =
      some [("192.168.1.2".toList, some (some "192.168.1.3".toList))] := by
    decide +kernel
  obtain ⟨s, hReached, hPassed⟩ := Option.map_eq_some_iff.mp hRun
  have hLast := hAlways.last hReached
  rw [PassesAnnounced, hPassed] at hLast
  have hSame := hLast _ List.mem_cons_self _ rfl
  revert hSame
  decide

end LocalCall.Call
