import LocalCall.Library.Transition
import LocalCall.Service.LocalCallService
import LocalCall.Socket.ControlClose

/-! # How many control servers listen

`connectServer` and `disconnectServer` give up the server of the service, and the latter opens a
new one. The server socket that was given up stays open, so there are as many of them as there
were ports obtained.
-/
namespace LocalCall.Service
open Java Jni Utils Socket Transition
set_option autoImplicit false

variable {S K : Type}

def serverSockets (s : LocalCallService S K) : List (Option ServerSocket) :=
  s.servers.map (·.mServerSocket)

def isOpen (socket : Option ServerSocket) : Bool := socket.any fun socket => !socket.closed

def OneListener (s : LocalCallService S K) : Prop := (serverSockets s).countP isOpen ≤ 1

def openingOf : Event S → List (Option Nat)
  | .disconnectServer opened => [opened]
  | _ => []

def obtained (opened : Option Nat) : Bool := opened.any fun port => 0 < port

theorem isOpen_open (opened : Option Nat) :
    isOpen (CtlServerSocket.new.open opened).2.mServerSocket = obtained opened := by
  cases opened with
  | none => rfl
  | some port =>
    by_cases hPort : 0 < port
    · rw [CtlServerSocket.open_new port hPort]
      simp [CtlServerSocket.opened, isOpen, obtained, hPort]
    · have hZero : ∀ p ∈ some port, p = 0 := fun p hp => by
        cases hp
        exact Nat.eq_zero_of_not_pos hPort
      rw [(CtlServerSocket.open_new_failed hZero).2]
      simp [isOpen, obtained, hPort]

theorem serverSockets_closeServer (s : LocalCallService S K) :
    serverSockets s.closeServer = serverSockets s := by
  rw [LocalCallService.closeServer]
  split
  · rfl
  · refine List.ext_getElem? fun k => ?_
    simp only [serverSockets, List.getElem?_map, List.getElem?_modify]
    cases s.servers[k]? with
    | none => rfl
    | some server =>
      rw [Option.map_eq_map, Option.map_some, Option.map_some, Option.map_some]
      split <;> rfl

theorem serverSockets_step [Zero S] (codec : SpeexCodec S K) {s s' : LocalCallService S K}
    {e : Event S} (hStep : serviceStep codec s e = some s') :
    serverSockets s' = serverSockets s ++
      (openingOf e).map fun opened => (CtlServerSocket.new.open opened).2.mServerSocket := by
  cases hControl : isControl e with
  | false =>
    have hNone : openingOf e = [] := by
      cases e with
      | disconnectServer opened => cases hControl
      | _ => rfl
    rw [serverSockets, (serviceStep_sameControl hControl hStep).servers, hNone]
    exact (List.append_nil _).symm
  | true =>
    cases e with
    | disconnectServer opened =>
      cases hStep
      have hClosed := serverSockets_closeServer s
      simp only [LocalCallService.disconnectServer, serverSockets, openingOf] at hClosed ⊢
      simp [hClosed]
    | connectServer ip port =>
      cases hStep
      have hClosed := serverSockets_closeServer s
      simp only [LocalCallService.connectServer, serverSockets, openingOf] at hClosed ⊢
      simp [hClosed]
    | server i answer =>
      obtain ⟨server', hServer, rfl⟩ := Option.map_eq_some_iff.mp hStep
      obtain ⟨server, hAt, hThread⟩ := Option.bind_eq_some_iff.mp hServer
      obtain ⟨hSocket, _⟩ := CtlServerSocket.threadStep_port hThread
      obtain ⟨hLt, rfl⟩ := List.getElem?_eq_some_iff.mp hAt
      have hSame : (s.servers.map (·.mServerSocket)).set i (s.servers[i].mServerSocket) =
          s.servers.map (·.mServerSocket) := by
        rw [← List.map_set, List.set_getElem_self]
      rw [serverSockets, List.map_set, hSocket, hSame]
      exact (List.append_nil _).symm
    | sender localIp => cases hStep; exact (List.append_nil _).symm
    | connect i answer =>
      obtain ⟨client, _, rfl⟩ := Option.map_eq_some_iff.mp hStep
      exact (List.append_nil _).symm
    | client i answer =>
      obtain ⟨client, _, rfl⟩ := Option.map_eq_some_iff.mp hStep
      exact (List.append_nil _).symm
    | _ => cases hControl

theorem countP_isOpen_run [Zero S] (codec : SpeexCodec S K) {s s' : LocalCallService S K}
    {events : List (Event S)} (hRun : run (serviceStep codec) s events = some s') :
    (serverSockets s').countP isOpen =
      (serverSockets s).countP isOpen + (events.flatMap openingOf).countP obtained := by
  induction events generalizing s with
  | nil => cases hRun; rfl
  | cons e events ih =>
    obtain ⟨mid, hStep, hRun⟩ := Option.bind_eq_some_iff.mp hRun
    have hOpened : ((openingOf e).map fun opened =>
        (CtlServerSocket.new.open opened).2.mServerSocket).countP isOpen =
        (openingOf e).countP obtained := by
      rw [List.countP_map]
      exact List.countP_congr fun opened _ => by rw [Function.comp_apply, isOpen_open]
    rw [ih hRun, serverSockets_step codec hStep, List.countP_append, hOpened, List.flatMap_cons,
      List.countP_append, Nat.add_assoc]

theorem countP_isOpen_onCreate (state : K) (opened : Option Nat) (outcome : CreateOutcome) :
    (serverSockets (.onCreate (S := S) state opened outcome)).countP isOpen =
      [opened].countP obtained := by
  rw [serverSockets, LocalCallService.onCreate, List.map_singleton, List.countP_singleton,
    List.countP_singleton, isOpen_open]

/-- A server is closed down in no state in which `close` has returned, and takes no connection
after that unless its thread waits for one; the service has at most one server socket open in
exactly those states before which it obtained at most one port. -/
theorem closedDown_and_oneListener [Zero S] (port : Nat) (steps : List CtlServerSocket.Step)
    (codec : SpeexCodec S K) (state : K) (opened : Option Nat) (outcome : CreateOutcome)
    (events : List (Event S)) :
    (Always CtlServerSocket.step CtlServerSocket.ClosedDown (.opened port) steps ↔
      Meets CtlServerSocket.step CtlServerSocket.NotReturning (.opened port) steps) ∧
    (Always CtlServerSocket.step CtlServerSocket.Stopped (.opened port) steps ↔
      Meets CtlServerSocket.step CtlServerSocket.NotAccepting (.opened port) steps) ∧
    (∀ s, run (serviceStep codec) (.onCreate state opened outcome) events = some s →
      (OneListener s ↔ (opened :: events.flatMap openingOf).countP obtained ≤ 1)) := by
  refine ⟨CtlServerSocket.always_closedDown_iff port steps,
    CtlServerSocket.always_stopped_iff port steps, fun s hRun => ?_⟩
  have hCount := countP_isOpen_run codec hRun
  rw [countP_isOpen_onCreate, ← List.countP_append] at hCount
  rw [OneListener, hCount, List.singleton_append]

instance : DecidablePred (OneListener (S := S) (K := K)) :=
  fun _ => inferInstanceAs (Decidable (_ ≤ 1))

/-- The thread waits in `accept`, and `close` runs from its call to its return. -/
def closedWaiting : List CtlServerSocket.Step := .thread .done :: List.replicate 6 (.closer false)

theorem closedDown_and_oneListener_reading :
    Always CtlServerSocket.step CtlServerSocket.ClosedDown (.opened 5000)
        (.thread .done :: List.replicate 5 (.closer false)) ∧
      Always CtlServerSocket.step CtlServerSocket.Stopped (.opened 5000)
        (List.replicate 6 (.thread .done) ++ List.replicate 9 (.closer false) ++
          [.thread .threw] ++ List.replicate 5 (.thread .done)) ∧
      ∃ s, run (serviceStep (silentCodec Nat)) (.onCreate () none (.created 0 0 0))
        [.connectServer "192.168.1.3".toList 5000, .disconnectServer (some 5001)] = some s ∧
        OneListener s := by
  obtain ⟨hClosed, _, _⟩ := closedDown_and_oneListener 5000
    (.thread .done :: List.replicate 5 (.closer false)) (silentCodec Nat) () none
    (.created 0 0 0) []
  obtain ⟨_, hStopped, hOne⟩ := closedDown_and_oneListener 5000
    (List.replicate 6 (.thread .done) ++ List.replicate 9 (.closer false) ++
      [.thread .threw] ++ List.replicate 5 (.thread .done)) (silentCodec Nat) () none
    (.created 0 0 0) [.connectServer "192.168.1.3".toList 5000, .disconnectServer (some 5001)]
  exact ⟨hClosed.mpr (by decide +kernel), hStopped.mpr (by decide +kernel), _, rfl,
    (hOne _ rfl).mpr (by decide)⟩

/-- The thread waits in `accept` while the server is closed, and then takes and reports one more
connection; `disconnectServer` opens a second server socket beside the one of `onCreate`. -/
theorem not_closedDown_waiting :
    ¬ Always CtlServerSocket.step CtlServerSocket.ClosedDown (.opened 5000) closedWaiting ∧
      ¬ Always CtlServerSocket.step CtlServerSocket.Stopped (.opened 5000)
        (closedWaiting ++ List.replicate 4 (.thread .done)) ∧
      ¬ Always (serviceStep (silentCodec Nat)) OneListener
        (.onCreate () (some 5000) (.created 0 0 0)) [.disconnectServer (some 5001)] := by
  decide +kernel

end LocalCall.Service
