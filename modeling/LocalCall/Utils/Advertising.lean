import LocalCall.Utils.SenderThread

/-! # What is advertised

The string is put together in the first turn and kept from then on, whatever address the host has
later, and also where it had none yet.
-/
namespace LocalCall.Utils
open Java Transition MultiCastSender SenderThread
set_option autoImplicit false

/-- A turn of the loop: the address that the host has in it, and what it sends. -/
structure Turn where
  localIp : Option Inet4Address
  datagrams : List Text
  deriving DecidableEq

structure Announcer where
  thread : SenderThread
  turns : List Turn
  deriving DecidableEq

def Announcer.startSend (ctl : Int) : Announcer := ⟨.startSend ctl, []⟩

def turnTaken (s : SenderThread) : SenderEvent → List Turn
  | .thread (.turn localIp sends) =>
    [⟨localIp, (turn localIp sends s.sender).sent.drop s.sender.sent.length⟩]
  | _ => []

def announcerStep (s : Announcer) (e : SenderEvent) : Option Announcer :=
  (senderStep s.thread e).map fun thread =>
    { thread, turns := s.turns ++ turnTaken s.thread e }

/-- Each datagram carries the address that the host has in its turn. -/
def Truthful (ctl : Int) (t : Turn) : Prop :=
  ∀ datagram ∈ t.datagrams, ∃ ip ∈ t.localIp,
    datagram = ip.getHostAddress ++ ":".toList ++ decimal ctl

def AllTruthful (ctl : Int) (s : Announcer) : Prop := ∀ t ∈ s.turns, Truthful ctl t

instance (ctl : Int) : DecidablePred (AllTruthful ctl) :=
  fun s => inferInstanceAs (Decidable (∀ t ∈ s.turns, ∀ datagram ∈ t.datagrams, ∃ ip ∈ t.localIp, _))

/-- A turn that sends finds the host at an address, and at that of the first turn. -/
def SameAddress (s : Announcer) : SenderEvent → Prop
  | .thread (.turn localIp true) =>
    localIp.isSome ∧ ∀ first ∈ s.turns.head?, first.localIp = localIp
  | _ => True

def firstIp (s : Announcer) (localIp : Option Inet4Address) : Option Inet4Address :=
  (s.turns.head?.map Turn.localIp).getD localIp

/-- Nothing is kept before the first turn, and from then on what it has put together. -/
structure FirstKept (ctl : Int) (s : Announcer) : Prop where
  port : s.thread.sender.mCtlPort = ctl
  empty : s.turns = [] → s.thread.sender.mSelfIp = []
  kept : ∀ first ∈ s.turns.head?,
    s.thread.sender.mSelfIp = advertisement (hostText first.localIp) ctl
  sent : s.thread.sender.sent = s.turns.flatMap Turn.datagrams

section Sender

variable {ctl : Int} {s : Announcer} {localIp : Option Inet4Address}

theorem orNull_hostText_eq_iff (ip : Inet4Address) :
    orNull (hostText localIp) = ip.getHostAddress ↔ localIp = some ip := by
  cases localIp with
  | none =>
    have hLetter : 'n' ∉ ip.getHostAddress :=
      not_mem_dotted (by decide) (ip.not_mem_octets rfl)
    constructor
    · intro hNull
      rw [← hNull] at hLetter
      exact absurd (List.mem_cons_self : 'n' ∈ "null".toList) hLetter
    · rintro ⟨⟩
  | some ip' =>
    constructor
    · intro hText
      exact congrArg some (Inet4Address.getHostAddress_injective hText)
    · rintro ⟨⟩
      rfl

theorem advertisement_eq_iff (ip : Inet4Address) :
    advertisement (hostText localIp) ctl = ip.getHostAddress ++ ":".toList ++ decimal ctl ↔
      localIp = some ip := by
  rw [advertisement, List.append_left_inj, List.append_left_inj]
  exact orNull_hostText_eq_iff ip

theorem FirstKept.keptText (h : FirstKept ctl s) (localIp : Option Inet4Address) :
    s.thread.sender.keptText (hostText localIp) =
      advertisement (hostText (firstIp s localIp)) ctl := by
  rw [MultiCastSender.keptText, h.port, firstIp]
  cases hTurns : s.turns with
  | nil =>
    rw [if_pos (h.empty hTurns)]
    rfl
  | cons first turns =>
    rw [h.kept first (by rw [hTurns]; rfl), if_neg (advertisement_ne_nil _ _)]
    rfl

theorem FirstKept.turn (h : FirstKept ctl s) (localIp : Option Inet4Address) (sends : Bool) :
    turn localIp sends s.thread.sender =
      ⟨ctl, advertisement (hostText (firstIp s localIp)) ctl, s.thread.sender.sent ++
        if sends then [advertisement (hostText (firstIp s localIp)) ctl] else []⟩ := by
  have hIterate := iterate_eq (hostText localIp) s.thread.sender
  rw [h.keptText localIp, h.port] at hIterate
  rw [SenderThread.turn]
  change (if sends then s.thread.sender.iterate (hostText localIp)
    else { s.thread.sender.iterate (hostText localIp) with sent := s.thread.sender.sent }) = _
  rw [hIterate]
  cases sends with
  | true => rfl
  | false => simp

theorem FirstKept.turnTaken (h : FirstKept ctl s) (localIp : Option Inet4Address) (sends : Bool) :
    turnTaken s.thread (.thread (.turn localIp sends)) =
      [⟨localIp, if sends then [advertisement (hostText (firstIp s localIp)) ctl] else []⟩] := by
  rw [Utils.turnTaken, h.turn localIp sends, List.drop_left]

theorem turnTaken_of_other {t : SenderThread} {e : SenderEvent}
    (h : ∀ localIp sends, e ≠ .thread (.turn localIp sends)) : turnTaken t e = [] := by
  unfold turnTaken
  split
  · exact absurd rfl (h _ _)
  · rfl

theorem firstKept_startSend (ctl : Int) : FirstKept ctl (.startSend ctl) :=
  ⟨rfl, fun _ => rfl, nofun, rfl⟩

theorem FirstKept.step {s' : Announcer} {e : SenderEvent} (h : FirstKept ctl s)
    (hStep : announcerStep s e = some s') : FirstKept ctl s' := by
  obtain ⟨thread, hThread, rfl⟩ := Option.map_eq_some_iff.mp hStep
  rcases sender_senderStep hThread with ⟨localIp, sends, rfl, hSender⟩ | ⟨hOther, hSender⟩
  · rw [h.turnTaken localIp sends]
    rw [h.turn localIp sends] at hSender
    constructor
    · rw [hSender]
    · intro hNil
      exact absurd hNil (List.append_ne_nil_of_right_ne_nil _ (List.cons_ne_nil _ _))
    · rw [hSender, firstIp]
      cases s.turns with
      | nil => rintro first ⟨⟩; rfl
      | cons first turns => rintro first' ⟨⟩; rfl
    · rw [hSender, List.flatMap_append, h.sent, List.flatMap_singleton]
  · rw [turnTaken_of_other hOther, List.append_nil]
    exact ⟨hSender ▸ h.port, fun hNil => hSender ▸ h.empty hNil,
      fun first hFirst => hSender ▸ h.kept first hFirst, hSender ▸ h.sent⟩

theorem truthful_turn_iff (sends : Bool) :
    Truthful ctl ⟨localIp,
        if sends then [advertisement (hostText (firstIp s localIp)) ctl] else []⟩ ↔
      SameAddress s (.thread (.turn localIp sends)) := by
  cases sends with
  | false => exact iff_of_true nofun trivial
  | true =>
    have hTruthful : Truthful ctl ⟨localIp, [advertisement (hostText (firstIp s localIp)) ctl]⟩ ↔
        ∃ ip ∈ localIp, firstIp s localIp = some ip := by
      simp only [Truthful, List.forall_mem_singleton, advertisement_eq_iff]
    refine hTruthful.trans ?_
    rw [SameAddress, firstIp]
    cases localIp with
    | none =>
      exact iff_of_false (fun ⟨ip, hIp, _⟩ => nomatch hIp) fun ⟨hSome, _⟩ => nomatch hSome
    | some ip =>
      cases s.turns with
      | nil => simp
      | cons first turns => simp

theorem allTruthful_step_iff {s' : Announcer} {e : SenderEvent} (h : FirstKept ctl s)
    (hTrue : AllTruthful ctl s) (hStep : announcerStep s e = some s') :
    AllTruthful ctl s' ↔ SameAddress s e := by
  obtain ⟨thread, hThread, rfl⟩ := Option.map_eq_some_iff.mp hStep
  have hSplit : AllTruthful ctl ⟨thread, s.turns ++ turnTaken s.thread e⟩ ↔
      ∀ t ∈ turnTaken s.thread e, Truthful ctl t :=
    List.forall_mem_append.trans (and_iff_right hTrue)
  refine hSplit.trans ?_
  rcases sender_senderStep hThread with ⟨localIp, sends, rfl, -⟩ | ⟨hOther, -⟩
  · rw [h.turnTaken localIp sends, List.forall_mem_singleton]
    exact truthful_turn_iff sends
  · rw [turnTaken_of_other hOther]
    refine iff_of_true nofun ?_
    unfold SameAddress
    split
    · exact absurd rfl (hOther _ _)
    · trivial

end Sender

/-- Every advertisement tells the address of the turn exactly if each turn that sends finds the
host where the first turn has found it. -/
theorem always_allTruthful_iff (ctl : Int) (es : List SenderEvent) :
    Always announcerStep (AllTruthful ctl) (.startSend ctl) es ↔
      Meets announcerStep SameAddress (.startSend ctl) es := by
  have hKeep : ∀ {s e s'}, FirstKept ctl s → AllTruthful ctl s → announcerStep s e = some s' →
      AllTruthful ctl s' → FirstKept ctl s' := fun h _ hStep _ => h.step hStep
  exact always_iff_meets hKeep allTruthful_step_iff (firstKept_startSend ctl) nofun

/-- The host has no address in the first turn, or another one in the second. -/
theorem not_always_allTruthful :
    ¬ Always announcerStep (AllTruthful 5000) (.startSend 5000) (turnsAt [none]) ∧
      ¬ Always announcerStep (AllTruthful 5000) (.startSend 5000)
        (turnsAt [some ⟨192, 168, 1, 2⟩, some ⟨192, 168, 43, 1⟩]) := by
  decide +kernel

end LocalCall.Utils
