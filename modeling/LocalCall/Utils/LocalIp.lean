import LocalCall.Java.Decimal
import LocalCall.Java.Inet4Address
import LocalCall.Java.Split

/-! # Finding the own address

The first number of the gateway's address is looked for in the text of each address, and the first
text that has it anywhere is taken. The texts of IPv6 addresses are the platform's; all that is
assumed of them is that they have a colon.
-/
namespace LocalCall.Utils
open Java
set_option autoImplicit false

structure Inet6Address where
  isLoopbackAddress : Bool
  hostAddress : Text
  colon : ':' ∈ hostAddress

inductive InetAddress where
  | inet4 (address : Inet4Address)
  | inet6 (address : Inet6Address)

namespace InetAddress

def isLoopbackAddress : InetAddress → Bool
  | .inet4 address => address.first == 127
  | .inet6 address => address.isLoopbackAddress

def getHostAddress : InetAddress → Text
  | .inet4 address => address.getHostAddress
  | .inet6 address => address.hostAddress

end InetAddress

namespace LocalIp

def byteAt (shift : Nat) (i : BitVec 32) : Text := decimal (i.sshiftRight shift &&& 0xff#32).toInt

def IntegerToString (i : BitVec 32) : Text :=
  byteAt 0 i ++ ".".toList ++ byteAt 8 i ++ ".".toList ++ byteAt 16 i ++ ".".toList ++ byteAt 24 i

/-- Without a context, a service or a `DhcpInfo` the text is empty. -/
def getGateWay : Option (BitVec 32) → Text
  | none => []
  | some gateway => IntegerToString gateway

/-- `split("\\.")`. -/
def splitDots (s : Text) : List Text :=
  if '.' ∈ s then (s.splitOn '.').rdropWhile List.isEmpty else [s]

def localOf (gate : Text) : Option Text :=
  match splitDots gate with
  | piece :: _ => if piece.isEmpty then none else some piece
  | [] => none

def inAddresses (piece : Option Text) : List InetAddress → Option Text
  | [] => none
  | inetAddress :: addresses =>
    if inetAddress.isLoopbackAddress then inAddresses piece addresses
    else
      let ret := inetAddress.getHostAddress
      if mPatternFind ret && piece.any (contains ret) then some ret
      else inAddresses piece addresses

def inInterfaces (piece : Option Text) : List (List InetAddress) → Option Text
  | [] => none
  | intf :: interfaces => (inAddresses piece intf).or (inInterfaces piece interfaces)

/-- No interfaces stand for the `SocketException` that is caught. -/
def getLocalIpAddress (dhcpinfo : Option (BitVec 32))
    (interfaces : Option (List (List InetAddress))) : Option Text :=
  interfaces.bind (inInterfaces (localOf (getGateWay dhcpinfo)))

/-- The gateway is little-endian. -/
def firstOctet (gateway : BitVec 32) : UInt8 := .ofNat gateway.toNat

/-- A non-loopback IPv4 address with the first octet of the gateway. -/
def wanted (gateway : BitVec 32) : InetAddress → Bool
  | .inet4 address => address.first != 127 && address.first == firstOctet gateway
  | .inet6 _ => false

/-- The code takes the address, although it is not one that is wanted: one of its numbers has the
digits of the gateway's first one somewhere in it, or it is an IPv6 address whose text has them
and the pattern. -/
def Mistaken (gateway : BitVec 32) : InetAddress → Prop
  | .inet4 address => address.first ≠ 127 ∧ address.first ≠ firstOctet gateway ∧
    ∃ octet ∈ address.octets,
      contains (decimal octet.toNat) (decimal (firstOctet gateway).toNat) = true
  | .inet6 address => address.isLoopbackAddress = false ∧ mPatternFind address.hostAddress = true ∧
    contains address.hostAddress (decimal (firstOctet gateway).toNat) = true

section Gateway

theorem byteAt_zero (gateway : BitVec 32) :
    byteAt 0 gateway = decimal (firstOctet gateway).toNat := by
  have hNat : (gateway.sshiftRight 0 &&& 0xff#32).toNat = (firstOctet gateway).toNat := by
    have hMask : gateway.toNat &&& 255 = gateway.toNat % 256 :=
      Nat.and_two_pow_sub_one_eq_mod gateway.toNat 8
    rw [BitVec.sshiftRight_zero, BitVec.toNat_and, firstOctet, UInt8.toNat_ofNat']
    exact hMask
  have hSmall := (firstOctet gateway).toNat_lt
  rw [byteAt, BitVec.toInt_eq_toNat_of_lt (by omega), hNat]

theorem localOf_getGateWay (gateway : BitVec 32) :
    localOf (getGateWay (some gateway)) = some (decimal (firstOctet gateway).toNat) := by
  have hDot : '.' ∉ byteAt 0 gateway := by
    rw [byteAt_zero]
    exact not_mem_digits rfl _
  have hNonempty : byteAt 0 gateway ≠ [] := by
    rw [byteAt_zero]
    exact Nat.toDigits_ne_nil
  obtain ⟨rest, hText⟩ : ∃ rest, IntegerToString gateway = byteAt 0 gateway ++ '.' :: rest := by
    simp only [IntegerToString, List.append_assoc]
    exact ⟨_, rfl⟩
  obtain ⟨pieces, hPieces⟩ : ∃ pieces, splitDots (IntegerToString gateway) =
      byteAt 0 gateway :: pieces := by
    rw [splitDots, hText, if_pos (List.mem_append_right _ List.mem_cons_self),
      List.splitOn_append_cons_self_of_not_mem hDot, rdropWhile_cons]
    split
    · refine ⟨[], ?_⟩
      rw [List.rdropWhile_singleton, if_neg]
      exact fun hEmpty => hNonempty (List.isEmpty_iff.mp hEmpty)
    · exact ⟨_, rfl⟩
  rw [getGateWay, localOf, hPieces, ← byteAt_zero]
  dsimp only
  rw [if_neg]
  exact fun hEmpty => hNonempty (List.isEmpty_iff.mp hEmpty)

end Gateway

section Search

def takes (piece : Option Text) (inetAddress : InetAddress) : Bool :=
  !inetAddress.isLoopbackAddress &&
    (mPatternFind inetAddress.getHostAddress && piece.any (contains inetAddress.getHostAddress))

theorem inAddresses_eq (piece : Option Text) (addresses : List InetAddress) :
    inAddresses piece addresses =
      (addresses.find? (takes piece)).map InetAddress.getHostAddress := by
  induction addresses with
  | nil => rfl
  | cons inetAddress addresses ih =>
    rw [inAddresses, List.find?_cons, takes]
    cases inetAddress.isLoopbackAddress with
    | true => exact ih
    | false =>
      dsimp only
      cases mPatternFind inetAddress.getHostAddress &&
          piece.any (contains inetAddress.getHostAddress) with
      | true => rfl
      | false => exact ih

theorem inInterfaces_eq (piece : Option Text) (interfaces : List (List InetAddress)) :
    inInterfaces piece interfaces =
      (interfaces.flatten.find? (takes piece)).map InetAddress.getHostAddress := by
  induction interfaces with
  | nil => rfl
  | cons intf interfaces ih =>
    rw [inInterfaces, inAddresses_eq, ih, List.flatten_cons, List.find?_append, Option.map_or]

/-- Two searches, of which the first also stops at whatever the second stops at, find the same up
to `f` exactly if nothing else stops the first one before. -/
theorem map_find?_eq_iff {α β : Type} {p q : α → Bool} {f : α → β}
    (hImp : ∀ a, q a = true → p a = true)
    (hEq : ∀ a b, p a = true → q b = true → f a = f b → q a = true) (l : List α) :
    (l.find? p).map f = (l.find? q).map f ↔
      ∀ pre a post, l = pre ++ a :: post → (∀ b ∈ pre, q b = false) → p a = true → q a = true := by
  induction l with
  | nil => exact iff_of_true rfl fun pre a post hNil => absurd hNil (by simp)
  | cons c l ih =>
    rw [List.find?_cons, List.find?_cons]
    cases hq : q c with
    | true =>
      rw [hImp c hq]
      refine iff_of_true rfl fun pre a post hSplit hPre _ => ?_
      cases pre with
      | nil =>
        obtain ⟨rfl, -⟩ := List.cons.inj hSplit
        exact hq
      | cons d pre =>
        obtain ⟨rfl, -⟩ := List.cons.inj hSplit
        rw [hPre c List.mem_cons_self] at hq
        cases hq
    | false =>
      cases hp : p c with
      | true =>
        refine iff_of_false (fun hSame => ?_) fun hAll => ?_
        · obtain ⟨b, hFind, hText⟩ := Option.map_eq_some_iff.mp hSame.symm
          rw [hEq c b hp (List.find?_some hFind) hText.symm] at hq
          cases hq
        · rw [hAll [] c l rfl nofun hp] at hq
          cases hq
      | false =>
        dsimp only
        rw [ih]
        constructor
        · intro hAll pre a post hSplit hPre ha
          cases pre with
          | nil =>
            obtain ⟨rfl, -⟩ := List.cons.inj hSplit
            rw [hp] at ha
            cases ha
          | cons d pre =>
            obtain ⟨-, hSplit⟩ := List.cons.inj hSplit
            exact hAll pre a post hSplit (fun b hb => hPre b (List.mem_cons_of_mem d hb)) ha
        · intro hAll pre a post hSplit hPre ha
          refine hAll (c :: pre) a post (congrArg (c :: ·) hSplit) ?_ ha
          exact List.forall_mem_cons.mpr ⟨hq, hPre⟩

theorem takes_iff (gateway : BitVec 32) (inetAddress : InetAddress) :
    takes (some (decimal (firstOctet gateway).toNat)) inetAddress = true ↔
      wanted gateway inetAddress = true ∨ Mistaken gateway inetAddress := by
  cases inetAddress with
  | inet6 address =>
    simp [takes, wanted, Mistaken, InetAddress.isLoopbackAddress, InetAddress.getHostAddress]
  | inet4 address =>
    have hContains : contains address.getHostAddress (decimal (firstOctet gateway).toNat) = true ↔
        ∃ octet ∈ address.octets,
          contains (decimal octet.toNat) (decimal (firstOctet gateway).toNat) = true := by
      have hDot : '.' ∉ decimal (firstOctet gateway).toNat := not_mem_digits rfl _
      rw [Inet4Address.getHostAddress, contains_dotted_iff hDot (decimal_ne_nil _)]
      simp
    have hFirst : address.first = firstOctet gateway → ∃ octet ∈ address.octets,
        contains (decimal octet.toNat) (decimal (firstOctet gateway).toNat) = true := by
      intro hSame
      refine ⟨address.first, List.mem_cons_self, ?_⟩
      rw [hSame, contains_iff_isInfix]
    have hTakes : takes (some (decimal (firstOctet gateway).toNat)) (.inet4 address) = true ↔
        address.first ≠ 127 ∧ ∃ octet ∈ address.octets,
          contains (decimal octet.toNat) (decimal (firstOctet gateway).toNat) = true := by
      rw [← hContains]
      simp [takes, InetAddress.isLoopbackAddress, InetAddress.getHostAddress,
        address.mPatternFind_getHostAddress]
    have hWanted : wanted gateway (.inet4 address) = true ↔
        address.first ≠ 127 ∧ address.first = firstOctet gateway := by
      simp [wanted]
    rw [hTakes, hWanted, Mistaken]
    constructor
    · rintro ⟨hLoopback, hDigits⟩
      by_cases hSame : address.first = firstOctet gateway
      · exact Or.inl ⟨hLoopback, hSame⟩
      · exact Or.inr ⟨hLoopback, hSame, hDigits⟩
    · rintro (⟨hLoopback, hSame⟩ | ⟨hLoopback, -, hDigits⟩)
      · exact ⟨hLoopback, hFirst hSame⟩
      · exact ⟨hLoopback, hDigits⟩

end Search

theorem wanted_of_same_text {gateway : BitVec 32} {inetAddress right : InetAddress}
    (hRight : wanted gateway right = true)
    (hText : inetAddress.getHostAddress = right.getHostAddress) :
    wanted gateway inetAddress = true := by
  cases right with
  | inet6 right => cases hRight
  | inet4 right =>
    cases inetAddress with
    | inet4 address =>
      cases Inet4Address.getHostAddress_injective hText
      exact hRight
    | inet6 address =>
      have hText : address.hostAddress = right.getHostAddress := hText
      exact absurd (hText ▸ address.colon) right.colon_not_mem_getHostAddress

/-- The first wanted address is returned, and null without one, exactly if no address before it
is mistaken for one. -/
theorem getLocalIpAddress_eq_iff (gateway : BitVec 32) (interfaces : List (List InetAddress)) :
    getLocalIpAddress (some gateway) (some interfaces) =
        (interfaces.flatten.find? (wanted gateway)).map InetAddress.getHostAddress ↔
      ∀ pre inetAddress post, interfaces.flatten = pre ++ inetAddress :: post →
        (∀ other ∈ pre, wanted gateway other = false) → ¬ Mistaken gateway inetAddress := by
  have hWanted (inetAddress : InetAddress) (h : wanted gateway inetAddress = true) :
      ¬ Mistaken gateway inetAddress := by
    cases inetAddress with
    | inet6 address => cases h
    | inet4 address =>
      have hSame : address.first = firstOctet gateway := by
        simp only [wanted, Bool.and_eq_true, beq_iff_eq] at h
        exact h.2
      rintro ⟨-, hOther, -⟩
      exact hOther hSame
  rw [getLocalIpAddress, Option.bind_some, localOf_getGateWay, inInterfaces_eq, map_find?_eq_iff]
  · refine forall_congr' fun pre => forall_congr' fun inetAddress => forall_congr' fun post =>
      imp_congr_right fun _ => imp_congr_right fun _ => ?_
    rw [takes_iff]
    constructor
    · intro hTaken hMistaken
      exact hWanted inetAddress (hTaken (Or.inr hMistaken)) hMistaken
    · intro hNot hTakes
      exact hTakes.resolve_right hNot
  · intro inetAddress h
    exact (takes_iff gateway inetAddress).mpr (Or.inl h)
  · intro inetAddress right _ hRight hText
    exact wanted_of_same_text hRight hText

/-- With the gateway 192.168.1.1 the address 10.192.0.5 comes before 192.168.1.5. -/
theorem other_network_taken : ¬ ∀ (gateway : BitVec 32) (interfaces : List (List InetAddress)),
    getLocalIpAddress (some gateway) (some interfaces) =
      (interfaces.flatten.find? (wanted gateway)).map InetAddress.getHostAddress := by
  intro hAll
  have hTaken := hAll 0x0101A8C0#32 [[.inet4 ⟨10, 192, 0, 5⟩], [.inet4 ⟨192, 168, 1, 5⟩]]
  revert hTaken
  decide +kernel

end LocalIp
end LocalCall.Utils
