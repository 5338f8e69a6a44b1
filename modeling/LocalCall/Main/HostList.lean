import LocalCall.Library.Transition
import LocalCall.Main.MainActivity
import LocalCall.Utils.MultiCastSender

/-! # The list of hosts

An advertisement is the own one when the address before its last colon is the local address. The
screen asks instead whether it contains the local address anywhere, which an advertisement of
another host can do as well; such a host is not listed.
-/
namespace LocalCall.Main
open Java Utils Transition
set_option autoImplicit false

/-- An advertisement that a sender put together, and the local address when it is delivered. -/
structure Delivery where
  ip : Option Text
  port : Int
  localIp : Option Text
  deriving DecidableEq

namespace Delivery

def text (d : Delivery) : Text := MultiCastSender.advertisement d.ip d.port

def foreign (d : Delivery) : Bool := decide (d.localIp ≠ some (MultiCastSender.ipPart d.text))

end Delivery

/-- The advertisements of other hosts, in the order of their first arrival. -/
def hosts (deliveries : List Delivery) : List Text :=
  ((deliveries.filter Delivery.foreign).map Delivery.text).eraseDups

structure Heard where
  main : MainActivity
  deliveries : List Delivery
  deriving DecidableEq

def Heard.onCreate : Heard := ⟨.onCreate, []⟩

inductive HostEvent where
  | delivered (d : Delivery)
  | ctlPort (localIp : Option Text) (arg1 : Text)
  | resumed (localIp : Option Text)
  deriving DecidableEq

def hostStep (h : Heard) : HostEvent → Option Heard
  | .delivered d =>
    some { main := h.main.addHostIp d.localIp d.text, deliveries := h.deliveries ++ [d] }
  | .ctlPort localIp arg1 => some { h with main := h.main.ctlPort localIp arg1 }
  | .resumed localIp => some { h with main := h.main.onResume localIp }

structure Listed (h : Heard) : Prop where
  list : h.main.mIPList = MainActivity.dialHeader :: hosts h.deliveries
  keys : h.main.mIPMap.keys = hosts h.deliveries
  nodup : h.main.mIPList.Nodup

/-- An advertisement that contains the local address is the own one, or listed already. -/
def Unmasked (h : Heard) : HostEvent → Prop
  | .delivered d => ∀ localIp, d.localIp = some localIp → contains d.text localIp = true →
      MultiCastSender.ipPart d.text = localIp ∨ d.text ∈ h.main.mIPList
  | _ => True

section Hosts

theorem eraseDups_concat {α : Type} [BEq α] [LawfulBEq α] (l : List α) (a : α) :
    (l ++ [a]).eraseDups = if a ∈ l.eraseDups then l.eraseDups else l.eraseDups ++ [a] := by
  rw [List.eraseDups_append]
  by_cases h : a ∈ l
  · simp [List.removeAll, h]
  · simp [List.removeAll, h, List.eraseDups_cons]

theorem hosts_concat (deliveries : List Delivery) (d : Delivery) :
    hosts (deliveries ++ [d]) =
      if d.foreign = false ∨ d.text ∈ hosts deliveries then hosts deliveries
      else hosts deliveries ++ [d.text] := by
  rw [hosts, List.filter_append]
  cases hForeign : d.foreign with
  | false =>
    rw [List.filter_cons_of_neg (by rw [hForeign]; exact Bool.false_ne_true), List.filter_nil,
      List.append_nil, if_pos (Or.inl rfl)]
    rfl
  | true =>
    rw [List.filter_cons_of_pos hForeign, List.filter_nil, List.map_append, List.map_singleton,
      eraseDups_concat]
    exact if_congr (or_iff_right Bool.noConfusion).symm rfl rfl

theorem text_ne_dialHeader (d : Delivery) : d.text ≠ MainActivity.dialHeader := by
  intro h
  have hColon : ':' ∈ d.text := by simp [Delivery.text, MultiCastSender.advertisement]
  rw [h] at hColon
  exact absurd hColon (by decide)

theorem dialHeader_not_mem_hosts (deliveries : List Delivery) :
    MainActivity.dialHeader ∉ hosts deliveries := by
  intro h
  rw [hosts, List.mem_eraseDups] at h
  obtain ⟨d, _, hText⟩ := List.mem_map.mp h
  exact text_ne_dialHeader d hText

theorem contains_of_own {d : Delivery} (h : d.foreign = false) :
    d.localIp.any (contains d.text) = true := by
  rw [Delivery.foreign, decide_eq_false_iff_not, not_not] at h
  rw [h, Option.any_some, Delivery.text, MultiCastSender.ipPart_advertisement]
  exact MultiCastSender.contains_advertisement d.ip d.port

end Hosts

section Steps

variable {h h' : Heard} {e : HostEvent}

theorem listed_onCreate : Listed .onCreate := by
  constructor
  · rfl
  · rfl
  · exact List.nodup_singleton _

theorem listed_iff_keys (hInStep : h.main.InStep) :
    Listed h ↔ h.main.mIPMap.keys = hosts h.deliveries := by
  constructor
  · intro hListed
    exact hListed.keys
  · intro hKeys
    have hList : h.main.mIPList = MainActivity.dialHeader :: hosts h.deliveries := by
      rw [hInStep, hKeys]
    refine ⟨hList, hKeys, ?_⟩
    rw [hList, ← hKeys]
    exact List.nodup_cons.mpr ⟨hKeys ▸ dialHeader_not_mem_hosts h.deliveries,
      h.main.mIPMap.nodup⟩

theorem Listed.inStep (hListed : Listed h) : h.main.InStep := by
  rw [MainActivity.InStep, hListed.list, hListed.keys]

theorem unmasked_delivered_iff (hListed : Listed h) (d : Delivery) :
    Unmasked h (.delivered d) ↔
      (d.localIp.any (contains d.text) = true → d.foreign = true → d.text ∈ hosts h.deliveries) := by
  have hMem : d.text ∈ h.main.mIPList ↔ d.text ∈ hosts h.deliveries := by
    rw [hListed.list, List.mem_cons, or_iff_right (text_ne_dialHeader d)]
  rw [Unmasked, hMem, Delivery.foreign]
  cases d.localIp with
  | none =>
    constructor
    · intro _ hContains
      cases hContains
    · intro _ localIp hSome
      cases hSome
  | some localIp =>
    constructor
    · intro hUnmasked hContains hForeign
      obtain hOwn | hKnown := hUnmasked localIp rfl hContains
      · exact absurd (congrArg some hOwn.symm) (of_decide_eq_true hForeign)
      · exact hKnown
    · intro hKnown _ hSome hContains
      cases hSome
      by_cases hOwn : MultiCastSender.ipPart d.text = localIp
      · exact Or.inl hOwn
      · refine Or.inr (hKnown hContains (decide_eq_true fun hSame => ?_))
        exact hOwn (Option.some.inj hSame).symm

theorem listed_delivered_iff (hListed : Listed h) (d : Delivery) :
    Listed ⟨h.main.addHostIp d.localIp d.text, h.deliveries ++ [d]⟩ ↔
      Unmasked h (.delivered d) := by
  rw [listed_iff_keys (MainActivity.inStep_addHostIp hListed.inStep d.localIp d.text),
    unmasked_delivered_iff hListed d]
  dsimp only
  rw [MainActivity.keys_addHostIp, hosts_concat, hListed.keys]
  by_cases hKnown : d.text ∈ hosts h.deliveries
  · rw [if_pos (Or.inr hKnown), if_pos (Or.inr hKnown)]
    exact iff_of_true rfl fun _ _ => hKnown
  · cases hForeign : d.foreign with
    | false =>
      rw [if_pos (Or.inl (contains_of_own hForeign)), if_pos (Or.inl rfl)]
      exact iff_of_true rfl fun _ hOther => (nomatch hOther)
    | true =>
      have hNew : ¬ (true = false ∨ d.text ∈ hosts h.deliveries) :=
        not_or.mpr ⟨Bool.noConfusion, hKnown⟩
      rw [if_neg hNew]
      by_cases hContains : d.localIp.any (contains d.text) = true
      · -- the host is heard of, and not listed
        rw [if_pos (Or.inl hContains)]
        refine iff_of_false (fun hSame => ?_) fun h => hKnown (h hContains rfl)
        exact List.cons_ne_nil _ _ (List.self_eq_append_right.mp hSame)
      · rw [if_neg (not_or.mpr ⟨hContains, hKnown⟩)]
        exact iff_of_true rfl fun h => absurd h hContains

theorem listed_step_iff (hListed : Listed h) (hStep : hostStep h e = some h') :
    Listed h' ↔ Unmasked h e := by
  cases e with
  | delivered d =>
    cases hStep
    exact listed_delivered_iff hListed d
  | ctlPort localIp arg1 =>
    cases hStep
    exact iff_of_true ⟨hListed.list, hListed.keys, hListed.nodup⟩ trivial
  | resumed localIp =>
    cases hStep
    exact iff_of_true ⟨hListed.list, hListed.keys, hListed.nodup⟩ trivial

end Steps

/-- The list is the header and the other hosts in the order in which they were first heard of,
exactly when no new host is heard of whose advertisement contains the local address. -/
theorem always_listed_iff (events : List HostEvent) :
    Always hostStep Listed .onCreate events ↔ Meets hostStep Unmasked .onCreate events := by
  apply always_iff_meets _ _ listed_onCreate listed_onCreate
  · intro h e h' _ _ _ hNext
    exact hNext
  · intro h e h' _ hListed hStep
    exact listed_step_iff hListed hStep

/-- The host of `192.168.1.10` is not listed on the phone with `192.168.1.1`. -/
theorem not_always_listed_substring :
    ¬ Always hostStep Listed .onCreate
      [.delivered ⟨some "192.168.1.10".toList, 5000, some "192.168.1.1".toList⟩] := by
  intro hAlways
  have hKeys := (hAlways.last rfl).keys
  revert hKeys
  decide +kernel

end LocalCall.Main
