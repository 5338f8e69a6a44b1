import LocalCall.Library.Transition
import LocalCall.Service.LocalCallService

/-! # The port that is advertised

The port of the control server lives in the server, in the service and in the advertising thread,
which gets it once, from `onCreate`. The three agree in every state of a run exactly when every
later server happens to get the port of the first one.
-/
namespace LocalCall.Service
open Java Jni Utils Socket Transition
set_option autoImplicit false

variable {S K : Type}

/-- The server socket that the service listens on, with the port that its owner reports. -/
def listening (s : LocalCallService S K) : Option (ServerSocket × Int) :=
  s.mCtlServerSocket.bind fun i => s.servers[i]?.bind fun server =>
    server.mServerSocket.map fun socket => (socket, server.getPort)

/-- While a control server is listening, its port is the one of the service and the one in every
datagram that is sent from then on. -/
def PortsAgree (s : LocalCallService S K) : Prop :=
  ∀ socket port, listening s = some (socket, port) →
    port = socket.port ∧ s.mCtlPort = socket.port ∧
      ∀ localIps : List (Option Text),
        let sent := (localIps.foldl (fun m ip => m.iterate ip) s.mMultiCastSender).sent
        ∀ datagram ∈ sent.drop s.mMultiCastSender.sent.length,
          MultiCastSender.portPart datagram = decimal socket.port

/-- A server that `disconnectServer` opens gets the port that the advertising thread was built
with, the one of `onCreate`. -/
def SamePort (s : LocalCallService S K) : Event S → Prop
  | .disconnectServer (some port) => 0 < port → (port : Int) = s.mMultiCastSender.mCtlPort
  | _ => True

structure Advertising (s : LocalCallService S K) : Prop where
  kept : s.mMultiCastSender.Kept
  service : ∀ socket port, listening s = some (socket, port) →
    port = socket.port ∧ s.mCtlPort = socket.port

theorem portsAgree_iff {s : LocalCallService S K} (h : Advertising s) :
    PortsAgree s ↔ ∀ socket port, listening s = some (socket, port) →
      (socket.port : Int) = s.mMultiCastSender.mCtlPort := by
  constructor
  · intro hAgree socket port hListening
    -- one more turn of the advertising thread shows which port it has
    obtain ⟨more, hSent, hLength, hMore⟩ := h.kept.run [none]
    obtain ⟨_, _, hDatagrams⟩ := hAgree socket port hListening
    have hFirst := hDatagrams [none]
    dsimp only at hFirst
    rw [hSent, List.drop_left] at hFirst
    obtain ⟨datagram, rfl⟩ := List.length_eq_one_iff.mp hLength
    have hPort := hFirst datagram List.mem_cons_self
    rw [hMore datagram List.mem_cons_self] at hPort
    exact (decimal_injective hPort).symm
  · intro hPort socket port hListening
    obtain ⟨hServer, hService⟩ := h.service socket port hListening
    refine ⟨hServer, hService, fun localIps => ?_⟩
    obtain ⟨more, hSent, _, hMore⟩ := h.kept.run localIps
    dsimp only
    rw [hSent, List.drop_left, hPort socket port hListening]
    exact hMore

theorem listening_opened (s : LocalCallService S K) (opened : Option Nat) :
    listening (s.disconnectServer opened) =
        (CtlServerSocket.new.open opened).2.mServerSocket.map
          (fun socket => (socket, (CtlServerSocket.new.open opened).2.getPort)) ∧
      (s.disconnectServer opened).mCtlPort = (CtlServerSocket.new.open opened).1 := by
  constructor
  · simp [listening, LocalCallService.disconnectServer]
  · simp [LocalCallService.disconnectServer]

theorem open_spec (opened : Option Nat) (socket : ServerSocket)
    (h : (CtlServerSocket.new.open opened).2.mServerSocket = some socket) :
    opened = some socket.port ∧ 0 < socket.port ∧
      (CtlServerSocket.new.open opened).2.getPort = socket.port ∧
      (CtlServerSocket.new.open opened).1 = socket.port := by
  by_cases hZero : ∀ p ∈ opened, p = 0
  · rw [(CtlServerSocket.open_new_failed hZero).2] at h
    cases h
  · obtain ⟨port, hMem, hPort⟩ : ∃ port, port ∈ opened ∧ port ≠ 0 := by
      by_contra hNone
      exact hZero fun port hMem => by_contra fun hPort => hNone ⟨port, hMem, hPort⟩
    cases hMem
    have hPositive : 0 < port := Nat.pos_of_ne_zero hPort
    rw [CtlServerSocket.open_new port hPositive] at h ⊢
    cases h
    exact ⟨rfl, hPositive, rfl, rfl⟩

theorem serviceStep_ports [Zero S] (codec : SpeexCodec S K) {s s' : LocalCallService S K}
    {e : Event S} (hStep : serviceStep codec s e = some s')
    (hConnect : ∀ ip port, e ≠ .connectServer ip port)
    (hDisconnect : ∀ opened, e ≠ .disconnectServer opened) :
    listening s' = listening s ∧ s'.mCtlPort = s.mCtlPort ∧
      (s.mMultiCastSender.Kept → s'.mMultiCastSender.Kept ∧
        s'.mMultiCastSender.mCtlPort = s.mMultiCastSender.mCtlPort) := by
  cases hControl : isControl e with
  | false =>
    have hSame := serviceStep_sameControl hControl hStep
    rw [listening, hSame.mCtlServerSocket, hSame.servers, hSame.mMultiCastSender]
    exact ⟨rfl, hSame.mCtlPort, fun h => ⟨h, rfl⟩⟩
  | true =>
    cases e with
    | connectServer ip port => exact absurd rfl (hConnect ip port)
    | disconnectServer opened => exact absurd rfl (hDisconnect opened)
    | sender localIp => cases hStep; exact ⟨rfl, rfl, fun h => h.next localIp⟩
    | server i answer =>
      obtain ⟨server', hServer, rfl⟩ := Option.map_eq_some_iff.mp hStep
      obtain ⟨server, hAt, hThread⟩ := Option.bind_eq_some_iff.mp hServer
      obtain ⟨hSocket, hPort⟩ := CtlServerSocket.threadStep_port hThread
      refine ⟨?_, rfl, fun h => ⟨h, rfl⟩⟩
      simp only [listening]
      cases s.mCtlServerSocket with
      | none => rfl
      | some k =>
        by_cases hSame : i = k
        · subst hSame
          have hLt : i < s.servers.length := (List.getElem?_eq_some_iff.mp hAt).1
          simp only [Option.bind_some, List.getElem?_set_self hLt, hAt, hSocket,
            CtlServerSocket.getPort, hPort]
        · simp only [Option.bind_some, List.getElem?_set_ne hSame]
    | connect i answer =>
      obtain ⟨client, _, rfl⟩ := Option.map_eq_some_iff.mp hStep
      exact ⟨rfl, rfl, fun h => ⟨h, rfl⟩⟩
    | client i answer =>
      obtain ⟨client, _, rfl⟩ := Option.map_eq_some_iff.mp hStep
      exact ⟨rfl, rfl, fun h => ⟨h, rfl⟩⟩
    | _ => cases hControl

theorem listening_connectServer (s : LocalCallService S K) (ip : Text) (port : Int) :
    listening (s.connectServer ip port) = none := by
  simp [listening, LocalCallService.connectServer]

theorem Advertising.step [Zero S] (codec : SpeexCodec S K) {s s' : LocalCallService S K}
    {e : Event S} (h : Advertising s) (hStep : serviceStep codec s e = some s') :
    Advertising s' := by
  by_cases hConnect : ∃ ip port, e = .connectServer ip port
  · obtain ⟨ip, port, rfl⟩ := hConnect
    cases hStep
    refine ⟨?_, ?_⟩
    · simpa [LocalCallService.connectServer] using h.kept
    · intro socket p hListening
      rw [listening_connectServer] at hListening
      cases hListening
  · by_cases hDisconnect : ∃ opened, e = .disconnectServer opened
    · obtain ⟨opened, rfl⟩ := hDisconnect
      cases hStep
      obtain ⟨hOpened, hPort⟩ := listening_opened s opened
      refine ⟨?_, ?_⟩
      · simpa [LocalCallService.disconnectServer] using h.kept
      · intro socket p hListening
        rw [hOpened] at hListening
        obtain ⟨socket', hSocket, hPair⟩ := Option.map_eq_some_iff.mp hListening
        cases hPair
        obtain ⟨_, _, hServer, hResult⟩ := open_spec opened socket hSocket
        exact ⟨hServer, hPort.trans hResult⟩
    · obtain ⟨hListening, hPort, hSender⟩ := serviceStep_ports codec hStep
        (fun ip port hEq => hConnect ⟨ip, port, hEq⟩) (fun opened hEq => hDisconnect ⟨opened, hEq⟩)
      refine ⟨(hSender h.kept).1, ?_⟩
      rw [hListening, hPort]
      exact h.service

theorem portsAgree_step [Zero S] (codec : SpeexCodec S K) {s s' : LocalCallService S K}
    {e : Event S} (h : Advertising s) (hAgree : PortsAgree s)
    (hStep : serviceStep codec s e = some s') : PortsAgree s' ↔ SamePort s e := by
  rw [portsAgree_iff (h.step codec hStep)]
  by_cases hConnect : ∃ ip port, e = .connectServer ip port
  · obtain ⟨ip, port, rfl⟩ := hConnect
    cases hStep
    refine iff_of_true ?_ trivial
    intro socket p hListening
    rw [listening_connectServer] at hListening
    cases hListening
  · by_cases hDisconnect : ∃ opened, e = .disconnectServer opened
    · obtain ⟨opened, rfl⟩ := hDisconnect
      cases hStep
      obtain ⟨hOpened, _⟩ := listening_opened s opened
      have hSender : (s.disconnectServer opened).mMultiCastSender = s.mMultiCastSender := by
        simp [LocalCallService.disconnectServer]
      rw [hOpened, hSender]
      constructor
      · intro hSame
        cases opened with
        | none => trivial
        | some port =>
          intro hPort
          rw [CtlServerSocket.open_new port hPort] at hSame
          exact hSame ⟨port, false⟩ _ rfl
      · intro hSame socket port hListening
        obtain ⟨socket', hSocket, hPair⟩ := Option.map_eq_some_iff.mp hListening
        cases hPair
        obtain ⟨hFrom, hPositive, _, _⟩ := open_spec opened socket hSocket
        subst hFrom
        exact hSame hPositive
    · obtain ⟨hListening, _, hSender⟩ := serviceStep_ports codec hStep
        (fun ip port hEq => hConnect ⟨ip, port, hEq⟩) (fun opened hEq => hDisconnect ⟨opened, hEq⟩)
      have hSame : SamePort s e := by
        cases e with
        | disconnectServer opened => exact absurd ⟨opened, rfl⟩ hDisconnect
        | _ => trivial
      rw [hListening, (hSender h.kept).2]
      exact iff_of_true ((portsAgree_iff h).mp hAgree) hSame

theorem advertising_onCreate (state : K) (opened : Option Nat) (outcome : CreateOutcome) :
    Advertising (LocalCallService.onCreate (S := S) state opened outcome) ∧
      PortsAgree (LocalCallService.onCreate (S := S) state opened outcome) := by
  have hAdvertising : Advertising (LocalCallService.onCreate (S := S) state opened outcome) := by
    refine ⟨MultiCastSender.kept_new _, ?_⟩
    intro socket port hListening
    obtain ⟨socket', hSocket, hPair⟩ := Option.map_eq_some_iff.mp hListening
    cases hPair
    obtain ⟨_, _, hServer, hResult⟩ := open_spec opened socket hSocket
    exact ⟨hServer, hResult⟩
  refine ⟨hAdvertising, (portsAgree_iff hAdvertising).mpr ?_⟩
  intro socket port hListening
  obtain ⟨_, hService⟩ := hAdvertising.service socket port hListening
  exact hService.symm

/-- Server, service and advertisements agree on the port in every state of a run exactly when each
server that `disconnectServer` opens gets the port of the one that `onCreate` opened. -/
theorem always_portsAgree_iff [Zero S] (codec : SpeexCodec S K) (state : K) (opened : Option Nat)
    (outcome : CreateOutcome) (events : List (Event S)) :
    Always (serviceStep codec) PortsAgree (.onCreate state opened outcome) events ↔
      Meets (serviceStep codec) SamePort (.onCreate state opened outcome) events := by
  obtain ⟨hAdvertising, hAgree⟩ := advertising_onCreate (S := S) state opened outcome
  exact always_iff_meets (fun {_ _ _} hInv _ hStep _ => Advertising.step codec hInv hStep)
    (portsAgree_step codec) hAdvertising hAgree

theorem not_always_portsAgree_reopened :
    ¬ Always (serviceStep (silentCodec Nat)) PortsAgree
      (.onCreate () (some 5000) (.created 0 0 0)) [.disconnectServer (some 5001)] := by
  intro hAlways
  have hAgree := hAlways.last rfl
  obtain ⟨_, _, hDatagrams⟩ := hAgree ⟨5001, false⟩ 5001 rfl
  have hPort := hDatagrams [none] (MultiCastSender.advertisement none 5000) List.mem_cons_self
  rw [MultiCastSender.portPart_advertisement] at hPort
  exact absurd (decimal_injective hPort) (by decide)

end LocalCall.Service
