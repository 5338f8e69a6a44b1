import LocalCall.Utils.MultiCastReceiver
import LocalCall.Utils.SenderThread

/-! # Who recognises an advertisement

The receiver compares a whole datagram with the bare address of the host, and an advertisement is
the address with the port after it.
-/
namespace LocalCall.Utils
open Java Transition MultiCastSender SenderThread
set_option autoImplicit false

/-- The two threads of a handset. What the receiver hears is arbitrary, the own advertisements
among it. -/
structure Handset where
  sending : SenderThread
  receiver : MultiCastReceiver
  deriving DecidableEq

inductive HandsetEvent where
  | sending (e : SenderEvent)
  | receiver (threw : Bool)
  | received (temp : Text) (localIp : Option Inet4Address)
  | stopReceive
  deriving DecidableEq

def Handset.start (ctl : Int) : Handset := ⟨.startSend ctl, .startReceive⟩

def handsetStep (s : Handset) : HandsetEvent → Option Handset
  | .sending e => (senderStep s.sending e).map fun sending => { s with sending }
  | .receiver threw =>
    (s.receiver.threadStep (if threw then .threw else .done)).map fun receiver =>
      { s with receiver }
  | .received temp localIp =>
    (s.receiver.threadStep (.received temp (hostText localIp))).map fun receiver =>
      { s with receiver }
  | .stopReceive => s.receiver.stopReceive.map fun receiver => { s with receiver }

/-- The receiver takes the datagram for its own and does not pass it on. -/
def Recognises (r : MultiCastReceiver) (localIp : Option Inet4Address) (datagram : Text) : Prop :=
  (r.receive datagram (hostText localIp)).passedOn = r.passedOn

instance (r : MultiCastReceiver) (localIp : Option Inet4Address) (datagram : Text) :
    Decidable (Recognises r localIp datagram) :=
  inferInstanceAs (Decidable (_ = _))

/-- No own advertisement is recognised, and no advertisement of another sender is taken for an
own one. -/
structure PassesAll (s : Handset) : Prop where
  own : ∀ own ∈ s.sending.sender.sent, ∀ localIp, ¬ Recognises s.receiver localIp own
  foreign : ∀ ctl es other, run senderStep (.startSend ctl) es = some other →
    ∀ datagram ∈ other.sender.sent, ∀ localIp, ¬ Recognises s.receiver localIp datagram

/-- What a sender keeps and what it has sent has a colon in it. -/
structure Coloned (m : MultiCastSender) : Prop where
  kept : m.mSelfIp = [] ∨ ':' ∈ m.mSelfIp
  sent : ∀ datagram ∈ m.sent, ':' ∈ datagram

/-- The address that the receiver compares with has none. -/
def Bare (r : MultiCastReceiver) : Prop := ∀ text ∈ r.mSelfIp, ':' ∉ text

def compared (r : MultiCastReceiver) (localIp : Option Inet4Address) : Option Text :=
  if r.mSelfIp = none ∨ r.mSelfIp = some [] then hostText localIp else r.mSelfIp

section Sender

variable {m : MultiCastSender} {r r' : MultiCastReceiver}

theorem colon_mem_advertisement (text : Option Text) (port : Int) :
    ':' ∈ advertisement text port := by
  rw [advertisement, List.append_assoc]
  exact List.mem_append_right _ List.mem_cons_self

theorem Coloned.keptText (h : Coloned m) (text : Option Text) : ':' ∈ m.keptText text := by
  rw [MultiCastSender.keptText]
  split
  · exact colon_mem_advertisement text m.mCtlPort
  · exact h.kept.resolve_left ‹_›

theorem Coloned.iterate (h : Coloned m) (text : Option Text) : Coloned (m.iterate text) := by
  rw [iterate_eq]
  constructor
  · exact Or.inr (h.keptText text)
  · intro datagram hMem
    rcases List.mem_append.mp hMem with hOld | hNew
    · exact h.sent datagram hOld
    · rw [List.mem_singleton.mp hNew]
      exact h.keptText text

theorem Coloned.step {s s' : SenderThread} {e : SenderEvent} (h : Coloned s.sender)
    (hStep : senderStep s e = some s') : Coloned s'.sender := by
  rcases sender_senderStep hStep with ⟨localIp, sends, -, hSender⟩ | ⟨-, hSender⟩
  · rw [hSender, SenderThread.turn]
    have hNext := h.iterate (hostText localIp)
    cases sends with
    | true => exact hNext
    | false => exact ⟨hNext.kept, h.sent⟩
  · rw [hSender]
    exact h

theorem coloned_startSend (ctl : Int) : Coloned (startSend ctl).sender := ⟨Or.inl rfl, nofun⟩

theorem Coloned.run {ctl : Int} {es : List SenderEvent} {s : SenderThread}
    (hRun : run senderStep (startSend ctl) es = some s) : Coloned s.sender := by
  have hKeep : ∀ {s e s'}, Coloned (SenderThread.sender s) → senderStep s e = some s' →
      Coloned s'.sender := fun h hStep => h.step hStep
  exact run_invariant hKeep (coloned_startSend ctl) hRun

theorem bare_startReceive : Bare .startReceive := by
  rintro text ⟨⟩
  exact List.not_mem_nil

theorem receive_eq (r : MultiCastReceiver) (temp : Text) (localIp : Option Inet4Address) :
    r.receive temp (hostText localIp) =
      if compared r localIp = some temp then { r with mSelfIp := compared r localIp }
      else { r with mSelfIp := compared r localIp, passedOn := r.passedOn ++ [temp] } := by
  rw [MultiCastReceiver.receive, compared]
  split
  · rfl
  · rfl

theorem Bare.compared (h : Bare r) (localIp : Option Inet4Address) :
    ∀ text ∈ compared r localIp, ':' ∉ text := by
  intro text hText
  rw [Utils.compared] at hText
  split at hText
  · obtain ⟨ip, -, rfl⟩ := Option.map_eq_some_iff.mp hText
    exact ip.colon_not_mem_getHostAddress
  · exact h text hText

theorem Bare.receive (h : Bare r) (temp : Text) (localIp : Option Inet4Address) :
    Bare (r.receive temp (hostText localIp)) := by
  rw [receive_eq]
  split
  · exact h.compared localIp
  · exact h.compared localIp

theorem Bare.passedOn (h : Bare r) {datagram : Text} (hColon : ':' ∈ datagram)
    (localIp : Option Inet4Address) :
    (r.receive datagram (hostText localIp)).passedOn = r.passedOn ++ [datagram] := by
  have hOther : Utils.compared r localIp ≠ some datagram :=
    fun hSame => h.compared localIp datagram hSame hColon
  rw [receive_eq, if_neg hOther]

theorem Bare.not_recognises (h : Bare r) {datagram : Text} (hColon : ':' ∈ datagram)
    (localIp : Option Inet4Address) : ¬ Recognises r localIp datagram := by
  rw [Recognises, h.passedOn hColon localIp]
  exact fun hSame => List.cons_ne_nil _ _ (List.append_right_eq_self.mp hSame)

theorem mSelfIp_closeSocket (hClose : r.closeSocket = some r') : r'.mSelfIp = r.mSelfIp := by
  rw [MultiCastReceiver.closeSocket] at hClose
  split at hClose
  · obtain ⟨-, hNext⟩ := Option.ite_none_right_eq_some.mp hClose
    cases hNext
    rfl
  · cases hClose
    rfl

theorem mSelfIp_threadStep {answer : ReceiverAnswer} (hStep : r.threadStep answer = some r') :
    (∃ temp localIp, answer = .received temp localIp ∧
        r'.mSelfIp = (r.receive temp localIp).mSelfIp) ∨ r'.mSelfIp = r.mSelfIp := by
  unfold MultiCastReceiver.threadStep at hStep
  split at hStep
  -- what is left are the datagram and the two ends of the `finally` block
  all_goals try (cases hStep; exact Or.inr rfl)
  · cases hStep
    exact Or.inl ⟨_, _, rfl, rfl⟩
  · split at hStep
    · rename_i hClose
      have hSame := mSelfIp_closeSocket hClose
      cases hStep
      exact Or.inr hSame
    · cases hStep
      exact Or.inr rfl
  · cases hStep

theorem Bare.congr (h : Bare r) (hSame : r'.mSelfIp = r.mSelfIp) : Bare r' :=
  fun text hText => h text (hSame ▸ hText)

structure Apart (s : Handset) : Prop where
  sender : Coloned s.sending.sender
  receiver : Bare s.receiver

theorem Apart.passesAll {s : Handset} (h : Apart s) : PassesAll s where
  own own hOwn := h.receiver.not_recognises (h.sender.sent own hOwn)
  foreign _ _ _ hRun datagram hSent :=
    h.receiver.not_recognises ((Coloned.run hRun).sent datagram hSent)

theorem Apart.step {s s' : Handset} {e : HandsetEvent} (h : Apart s)
    (hStep : handsetStep s e = some s') : Apart s' := by
  cases e with
  | sending e =>
    obtain ⟨sending, hSending, rfl⟩ := Option.map_eq_some_iff.mp hStep
    exact ⟨h.sender.step hSending, h.receiver⟩
  | receiver threw =>
    obtain ⟨receiver, hReceiver, rfl⟩ := Option.map_eq_some_iff.mp hStep
    rcases mSelfIp_threadStep hReceiver with ⟨temp, localIp, hAnswer, -⟩ | hSame
    · cases threw <;> cases hAnswer
    · exact ⟨h.sender, h.receiver.congr hSame⟩
  | received temp localIp =>
    obtain ⟨receiver, hReceiver, rfl⟩ := Option.map_eq_some_iff.mp hStep
    rcases mSelfIp_threadStep hReceiver with ⟨temp', text, hAnswer, hSame⟩ | hSame
    · cases hAnswer
      exact ⟨h.sender, (h.receiver.receive temp localIp).congr hSame⟩
    · exact ⟨h.sender, h.receiver.congr hSame⟩
  | stopReceive =>
    obtain ⟨receiver, hReceiver, rfl⟩ := Option.map_eq_some_iff.mp hStep
    have hSame := mSelfIp_closeSocket hReceiver
    exact ⟨h.sender, h.receiver.congr hSame⟩

end Sender

/-- A handset never recognises its own advertisements, whatever its address and port and whatever
both threads have kept; those of others it always passes on. -/
theorem always_passesAll (ctl : Int) (es : List HandsetEvent) :
    Always handsetStep PassesAll (.start ctl) es := by
  have hKeep : ∀ {s e s'}, Apart s → handsetStep s e = some s' → Apart s' :=
    fun h hStep => h.step hStep
  exact always_of_invariant hKeep Apart.passesAll ⟨coloned_startSend ctl, bare_startReceive⟩

/-- The host is at one address all the time and hears what it has sent. -/
def hearsItself (ip : Inet4Address) : List HandsetEvent :=
  (turnsAt [some ip]).map .sending ++ List.replicate 6 (.receiver false)

theorem not_recognised_own :
    ∃ s own, run handsetStep (.start 5000) (hearsItself ⟨192, 168, 1, 2⟩) = some s ∧
      s.sending.sender.sent = [own] ∧ s.receiver.thread = .receive ∧
      ¬ Recognises s.receiver (some ⟨192, 168, 1, 2⟩) own := by
  refine ⟨_, "192.168.1.2:5000".toList, rfl, ?_⟩
  decide +kernel

end LocalCall.Utils
