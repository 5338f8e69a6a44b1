import LocalCall.Call.ControlLine
import LocalCall.Java.Decimal
import LocalCall.Java.Inet4Address
import LocalCall.Java.Split
import LocalCall.Main.MainActivity
import LocalCall.Utils.MultiCastReceiver
import LocalCall.Utils.MultiCastSender

/-! # What a tap on the list of hosts does

A datagram of the multicast port passes the receiving thread, is posted to the main thread and
gets into the list as it is; the tap takes it apart. How bytes become a text is left open, since
the platform leaves it open for bytes that its charset does not have.
-/
namespace LocalCall.Call
open Java Transition Main Utils
set_option autoImplicit false

structure Discovery where
  receiver : MultiCastReceiver
  registered : Registered
  posted : List Text
  main : MainActivity
  deriving DecidableEq

inductive DiscoveryEvent where
  | startReceive
  | stopReceive
  | receiver (threw : Bool)
  | datagram (bytes : List UInt8) (localIp : Option Text)
  | registerCallback (registered : Registered)
  | runPosted (localIp : Option Text)
  | ctlPort (localIp : Option Text) (arg1 : Text)
  | onCreate
  | onResume (localIp : Option Text)
  deriving DecidableEq

def Discovery.onCreate : Discovery := ⟨.startReceive, .nobody, [], .onCreate⟩

/-- The buffer of the receiver; what does not fit in it of a datagram is cut off. -/
def receiveBuffer : Nat := 50

def discoveryStep (decode : List UInt8 → Text) (s : Discovery) : DiscoveryEvent → Option Discovery
  | .startReceive => some { s with receiver := .startReceive }
  | .stopReceive => s.receiver.stopReceive.map fun receiver => { s with receiver }
  | .receiver threw =>
    (s.receiver.threadStep (if threw then .threw else .done)).map fun receiver =>
      { s with receiver }
  | .datagram bytes localIp =>
    let temp := decode (bytes.take receiveBuffer)
    (s.receiver.threadStep (.received temp localIp)).map fun receiver =>
      { s with
        receiver
        posted :=
          if s.registered = .nobody then s.posted
          else s.posted ++ receiver.passedOn.drop s.receiver.passedOn.length }
  | .registerCallback registered => some { s with registered }
  | .runPosted localIp =>
    match s.posted with
    | [] => none
    | arg1 :: posted =>
      some { s with
        posted
        main := if s.registered = .main then s.main.addHostIp localIp arg1 else s.main }
  | .ctlPort localIp arg1 => some { s with main := s.main.ctlPort localIp arg1 }
  | .onCreate => some { s with registered := .nobody, main := .onCreate }
  | .onResume localIp => some { s with registered := .main, main := s.main.onResume localIp }

def openedBy : Intent → Option CallActivity
  | .dialActivity => none
  | .callActivity connectIp connectPort => some (.onCreate true connectIp connectPort)

structure Names (entry : Text) (a : CallActivity) : Prop where
  client : a.mIsClient = true
  ip : a.mConnectIp ≠ []
  port_pos : 1 ≤ a.mPort
  port_le : a.mPort ≤ 65535
  rejoined : a.mConnectIp ++ ":".toList ++ decimal a.mPort = entry

/-- Every entry behind the header can be tapped, and the tap calls the peer that it names. -/
def AllTap (s : Discovery) : Prop :=
  ∀ position entry, 1 ≤ position → s.main.mIPList[position]? = some entry →
    ∃ intent a, s.main.onItemClick position = some intent ∧ openedBy intent = some a ∧
      Names entry a

/-- The text of an address and a port as the hosts advertise themselves; the address is any text
without a colon. -/
def HostText (text : Text) : Prop :=
  ∃ ip port, text = ip ++ ":".toList ++ decimal port ∧ ip ≠ [] ∧ ':' ∉ ip ∧ 1 ≤ port ∧
    port ≤ 65535

def listedBy (s : Discovery) : DiscoveryEvent → List Text
  | .runPosted localIp =>
    if s.registered = .main then
      (s.posted.take 1).filter fun arg1 =>
        !localIp.any (contains arg1) && !s.main.mIPMap.containsKey arg1
    else []
  | _ => []

/-- What is added to the list is an address and a port. -/
def ListsHosts (s : Discovery) (e : DiscoveryEvent) : Prop := ∀ text ∈ listedBy s e, HostText text

section Tap

variable {m : MainActivity} {entry : Text}

theorem onItemClick_entry {position : Nat} (hPos : 1 ≤ position)
    (hEntry : m.mIPList[position]? = some entry) (intent : Intent) :
    m.onItemClick position = some intent ↔
      ∃ ip piece rest port, split entry = ip :: piece :: rest ∧ parseInt piece = some port ∧
        intent = .callActivity ip port := by
  rw [MainActivity.onItemClick, if_neg (Nat.ne_of_gt hPos), hEntry]
  dsimp only
  constructor
  · intro hClick
    split at hClick
    · rename_i ip piece rest hSplit
      obtain ⟨port, hPort, rfl⟩ := Option.map_eq_some_iff.mp hClick
      exact ⟨ip, piece, rest, port, hSplit, hPort, rfl⟩
    · cases hClick
  · rintro ⟨ip, piece, rest, port, hSplit, hPort, rfl⟩
    rw [hSplit]
    dsimp only
    rw [hPort]
    rfl

theorem hostText_advertisement (localIp : Inet4Address) {port : Int} (hLow : 1 ≤ port)
    (hHigh : port ≤ 65535) :
    HostText (MultiCastSender.advertisement (some localIp.getHostAddress) port) := by
  exact ⟨localIp.getHostAddress, port, rfl, localIp.getHostAddress_ne_nil,
    localIp.colon_not_mem_getHostAddress, hLow, hHigh⟩

theorem split_hostText {ip : Text} {port : Int} (hColon : ':' ∉ ip) :
    split (ip ++ ":".toList ++ decimal port) = [ip, decimal port] := by
  apply (split_eq_two_iff _ ip (decimal port)).mpr
  refine ⟨hColon, colon_not_mem_decimal port, decimal_ne_nil port, 0, ?_⟩
  rw [List.replicate_zero, List.append_nil, List.append_assoc]
  rfl

theorem taps_iff {position : Nat} (hPos : 1 ≤ position)
    (hEntry : m.mIPList[position]? = some entry) :
    (∃ intent a, m.onItemClick position = some intent ∧ openedBy intent = some a ∧
      Names entry a) ↔ HostText entry := by
  constructor
  · rintro ⟨intent, a, hClick, hStarted, hNames⟩
    obtain ⟨ip, piece, rest, port, hSplit, -, rfl⟩ :=
      (onItemClick_entry hPos hEntry intent).mp hClick
    cases hStarted
    obtain ⟨-, -, hColon, -⟩ := split_cons_cons hSplit
    exact ⟨ip, port, hNames.rejoined.symm, hNames.ip, hColon, hNames.port_pos, hNames.port_le⟩
  · -- the address has no colon, so the port is all of the second piece
    rintro ⟨ip, port, rfl, hIp, hColon, hLow, hHigh⟩
    have hPort : parseInt (decimal port) = some port :=
      parseInt_decimal (by omega) (by omega)
    refine ⟨.callActivity ip port, .onCreate true ip port, ?_, rfl, rfl, hIp, hLow, hHigh, rfl⟩
    apply (onItemClick_entry hPos hEntry _).mpr
    exact ⟨ip, decimal port, [], port, split_hostText hColon, hPort, rfl⟩

theorem allTap_iff {s : Discovery} (hInStep : s.main.InStep) :
    AllTap s ↔ ∀ entry ∈ s.main.mIPMap.keys, HostText entry := by
  rw [AllTap, hInStep]
  constructor
  · intro hAll entry hEntry
    obtain ⟨i, hi, rfl⟩ := List.mem_iff_getElem.mp hEntry
    have hPlace : s.main.mIPList[i + 1]? = some s.main.mIPMap.keys[i] := by
      rw [hInStep, List.getElem?_cons_succ, List.getElem?_eq_getElem hi]
    have hPos : 1 ≤ i + 1 := Nat.le_add_left 1 i
    apply (taps_iff hPos hPlace).mp
    apply hAll (i + 1) _ hPos
    rw [← hInStep]
    exact hPlace
  · intro hAll position entry hPos hEntry
    rw [← hInStep] at hEntry
    apply (taps_iff hPos hEntry).mpr
    apply hAll
    obtain ⟨i, rfl⟩ := Nat.exists_eq_add_of_le' hPos
    rw [hInStep, List.getElem?_cons_succ] at hEntry
    exact List.mem_of_getElem? hEntry

end Tap

section Steps

variable {decode : List UInt8 → Text} {s s' : Discovery} {e : DiscoveryEvent}

theorem keys_addHostIp_filter (localIp : Option Text) (arg1 : Text) (m : MainActivity) :
    (m.addHostIp localIp arg1).mIPMap.keys = m.mIPMap.keys ++ [arg1].filter fun arg1 =>
      !localIp.any (contains arg1) && !m.mIPMap.containsKey arg1 := by
  rw [MainActivity.keys_addHostIp]
  by_cases hShown : localIp.any (contains arg1) = true ∨ arg1 ∈ m.mIPMap.keys
  · rw [if_pos hShown, List.filter_cons_of_neg, List.filter_nil, List.append_nil]
    rcases hShown with hOwn | hKnown
    · rw [hOwn]
      exact Bool.false_ne_true
    · rw [(m.mIPMap.containsKey_iff arg1).mpr hKnown, Bool.not_true, Bool.and_false]
      exact Bool.false_ne_true
  · obtain ⟨hOther, hNew⟩ := not_or.mp hShown
    have hKey : m.mIPMap.containsKey arg1 = false :=
      Bool.eq_false_iff.mpr fun h => hNew ((m.mIPMap.containsKey_iff arg1).mp h)
    rw [if_neg hShown, List.filter_cons_of_pos, List.filter_nil]
    rw [Bool.eq_false_iff.mpr hOther, hKey]
    rfl

/-- What a step does to the list: it handles a posted text, or it is a new screen, or it leaves the
list alone. -/
theorem main_discoveryStep (hStep : discoveryStep decode s e = some s') :
    (∃ localIp arg1, s'.main = s.main.addHostIp localIp arg1 ∧
      listedBy s e = [arg1].filter fun arg1 =>
        !localIp.any (contains arg1) && !s.main.mIPMap.containsKey arg1) ∨
    (listedBy s e = [] ∧ s'.main = .onCreate) ∨
    listedBy s e = [] ∧ s'.main.mIPMap = s.main.mIPMap ∧ s'.main.mIPList = s.main.mIPList := by
  cases e with
  | startReceive => cases hStep; exact Or.inr (Or.inr ⟨rfl, rfl, rfl⟩)
  | stopReceive =>
    obtain ⟨_, -, rfl⟩ := Option.map_eq_some_iff.mp hStep
    exact Or.inr (Or.inr ⟨rfl, rfl, rfl⟩)
  | receiver threw =>
    obtain ⟨_, -, rfl⟩ := Option.map_eq_some_iff.mp hStep
    exact Or.inr (Or.inr ⟨rfl, rfl, rfl⟩)
  | datagram bytes localIp =>
    obtain ⟨_, -, rfl⟩ := Option.map_eq_some_iff.mp hStep
    exact Or.inr (Or.inr ⟨rfl, rfl, rfl⟩)
  | registerCallback registered => cases hStep; exact Or.inr (Or.inr ⟨rfl, rfl, rfl⟩)
  | runPosted localIp =>
    rw [discoveryStep] at hStep
    rw [listedBy]
    split at hStep
    · cases hStep
    · rename_i arg1 posted hPosted
      cases hStep
      dsimp only
      rw [hPosted]
      split
      · exact Or.inl ⟨localIp, arg1, rfl, rfl⟩
      · exact Or.inr (Or.inr ⟨rfl, rfl, rfl⟩)
  | ctlPort localIp arg1 => cases hStep; exact Or.inr (Or.inr ⟨rfl, rfl, rfl⟩)
  | onCreate => cases hStep; exact Or.inr (Or.inl ⟨rfl, rfl⟩)
  | onResume localIp => cases hStep; exact Or.inr (Or.inr ⟨rfl, rfl, rfl⟩)

theorem inStep_discoveryStep (h : s.main.InStep) (hStep : discoveryStep decode s e = some s') :
    s'.main.InStep := by
  rcases main_discoveryStep hStep with
    ⟨localIp, arg1, hMain, -⟩ | ⟨-, hMain⟩ | ⟨-, hMap, hList⟩
  · rw [hMain]
    exact MainActivity.inStep_addHostIp h localIp arg1
  · rw [hMain]
    exact MainActivity.inStep_onCreate
  · rw [MainActivity.InStep, hMap, hList]
    exact h

theorem keys_discoveryStep (hStep : discoveryStep decode s e = some s') :
    ∃ kept, kept ⊆ s.main.mIPMap.keys ∧ s'.main.mIPMap.keys = kept ++ listedBy s e := by
  rcases main_discoveryStep hStep with
    ⟨localIp, arg1, hMain, hListed⟩ | ⟨hNone, hMain⟩ | ⟨hNone, hMap, -⟩
  · refine ⟨s.main.mIPMap.keys, List.Subset.refl _, ?_⟩
    rw [hMain, hListed]
    exact keys_addHostIp_filter localIp arg1 s.main
  · refine ⟨[], List.nil_subset _, ?_⟩
    rw [hMain, hNone]
    rfl
  · refine ⟨s.main.mIPMap.keys, List.Subset.refl _, ?_⟩
    rw [hMap, hNone, List.append_nil]

theorem allTap_step_iff (hInStep : s.main.InStep) (hAll : AllTap s)
    (hStep : discoveryStep decode s e = some s') : AllTap s' ↔ ListsHosts s e := by
  have hOld := (allTap_iff hInStep).mp hAll
  obtain ⟨kept, hKept, hKeys⟩ := keys_discoveryStep hStep
  rw [allTap_iff (inStep_discoveryStep hInStep hStep), hKeys, ListsHosts]
  constructor
  · intro hNew text hText
    exact hNew text (List.mem_append_right _ hText)
  · intro hListed text hText
    rcases List.mem_append.mp hText with hText | hText
    · exact hOld text (hKept hText)
    · exact hListed text hText

end Steps

/-- Every entry behind the header can be tapped and calls the peer that it names, exactly when
each text that gets into the list is an address and a port. -/
theorem always_allTap_iff (decode : List UInt8 → Text) (es : List DiscoveryEvent) :
    Always (discoveryStep decode) AllTap .onCreate es ↔
      Meets (discoveryStep decode) ListsHosts .onCreate es := by
  have hKeep : ∀ {s e s'}, (Discovery.main s).InStep → AllTap s →
      discoveryStep decode s e = some s' → AllTap s' → s'.main.InStep :=
    fun h _ hStep _ => inStep_discoveryStep h hStep
  have hExact : ∀ {s e s'}, (Discovery.main s).InStep → AllTap s →
      discoveryStep decode s e = some s' → (AllTap s' ↔ ListsHosts s e) :=
    fun h hAll hStep => allTap_step_iff h hAll hStep
  have hStart : AllTap .onCreate := by
    apply (allTap_iff MainActivity.inStep_onCreate).mpr
    exact nofun
  exact always_iff_meets hKeep hExact MainActivity.inStep_onCreate hStart

def ascii (bytes : List UInt8) : Text := bytes.map fun b => Char.ofNat b.toNat

def heard (datagram : List UInt8) : List DiscoveryEvent :=
  .onResume (some "192.168.1.2".toList) :: List.replicate 6 (.receiver false) ++
    [.datagram datagram (some "192.168.1.2".toList), .runPosted (some "192.168.1.2".toList)]

theorem not_always_allTap : ¬ Always (discoveryStep ascii) AllTap .onCreate (heard [120]) := by
  intro hAlways
  have hTapped : (run (discoveryStep ascii) .onCreate (heard [120])).map
      (fun s => (s.main.mIPList[1]?, s.main.onItemClick 1)) = some (some "x".toList, none) := by
    decide +kernel
  obtain ⟨s, hRun, hFacts⟩ := Option.map_eq_some_iff.mp hTapped
  obtain ⟨hEntry, hClick⟩ := Prod.mk.inj hFacts
  obtain ⟨intent, -, hStarts, -⟩ := hAlways.last hRun 1 _ (by decide) hEntry
  rw [hClick] at hStarts
  cases hStarts

end LocalCall.Call
