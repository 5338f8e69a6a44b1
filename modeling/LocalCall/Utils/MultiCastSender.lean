import LocalCall.Java.Text

/-! # The advertising thread

The control port is handed over once, in the constructor; the string to advertise is put together
in the first turn of the loop and kept. The address of the host is an input of each turn.
-/
namespace LocalCall.Utils
open Java
set_option autoImplicit false

structure MultiCastSender where
  mCtlPort : Int
  mSelfIp : Text
  sent : List Text
  deriving DecidableEq

namespace MultiCastSender

def new (ctl : Int) : MultiCastSender := ⟨ctl, [], []⟩

def advertisement (localIp : Option Text) (port : Int) : Text :=
  orNull localIp ++ ":".toList ++ decimal port

def iterate (localIp : Option Text) (m : MultiCastSender) : MultiCastSender :=
  let m := if m.mSelfIp = [] then { m with mSelfIp := advertisement localIp m.mCtlPort } else m
  if m.mSelfIp ≠ [] then { m with sent := m.sent ++ [m.mSelfIp] } else m

/-- What follows the last colon of an advertisement. -/
def portPart (datagram : Text) : Text := (datagram.reverse.takeWhile fun c => c ≠ ':').reverse

/-- What precedes it. -/
def ipPart (datagram : Text) : Text :=
  ((datagram.reverse.dropWhile fun c => c ≠ ':').drop 1).reverse

theorem advertisement_ne_nil (localIp : Option Text) (port : Int) :
    advertisement localIp port ≠ [] := by
  rw [advertisement, List.append_assoc]
  exact List.append_ne_nil_of_right_ne_nil _ (List.cons_ne_nil _ _)

def keptText (localIp : Option Text) (m : MultiCastSender) : Text :=
  if m.mSelfIp = [] then advertisement localIp m.mCtlPort else m.mSelfIp

theorem iterate_eq (localIp : Option Text) (m : MultiCastSender) :
    m.iterate localIp = ⟨m.mCtlPort, m.keptText localIp, m.sent ++ [m.keptText localIp]⟩ := by
  rw [iterate, keptText]
  by_cases hEmpty : m.mSelfIp = []
  · simp [hEmpty, advertisement_ne_nil]
  · simp [hEmpty]

theorem no_colon_in_port (port : Int) :
    ∀ c ∈ (decimal port).reverse, decide (c ≠ ':') = true := by
  intro c hc
  have hMem : c ∈ decimal port := List.mem_reverse.mp hc
  exact decide_eq_true fun h => colon_not_mem_decimal port (h ▸ hMem)

@[simp] theorem portPart_advertisement (localIp : Option Text) (port : Int) :
    portPart (advertisement localIp port) = decimal port := by
  rw [portPart, advertisement, List.reverse_append, List.reverse_append,
    List.takeWhile_append_of_pos (no_colon_in_port port)]
  change ((decimal port).reverse ++ List.takeWhile _ (':' :: (orNull localIp).reverse)).reverse = _
  simp

@[simp] theorem ipPart_advertisement (localIp : Option Text) (port : Int) :
    ipPart (advertisement localIp port) = orNull localIp := by
  rw [ipPart, advertisement, List.reverse_append, List.reverse_append,
    List.dropWhile_append_of_pos (no_colon_in_port port)]
  change ((List.dropWhile _ (':' :: (orNull localIp).reverse)).drop 1).reverse = _
  simp

theorem contains_advertisement (localIp : Option Text) (port : Int) :
    contains (advertisement localIp port) (orNull localIp) = true := by
  rw [advertisement, List.append_assoc]
  exact contains_append_right (orNull localIp) _

/-- The string kept for sending is empty or was put together with the port of the constructor. -/
def Kept (m : MultiCastSender) : Prop :=
  m.mSelfIp = [] ∨ ∃ localIp, m.mSelfIp = advertisement localIp m.mCtlPort

theorem kept_new (ctl : Int) : (new ctl).Kept := Or.inl rfl

theorem Kept.iterate {m : MultiCastSender} (h : m.Kept) (localIp : Option Text) :
    ∃ ip, m.iterate localIp =
      ⟨m.mCtlPort, advertisement ip m.mCtlPort, m.sent ++ [advertisement ip m.mCtlPort]⟩ := by
  rw [iterate_eq, keptText]
  rcases h with hEmpty | ⟨ip, hIp⟩
  · exact ⟨localIp, by rw [if_pos hEmpty]⟩
  · refine ⟨ip, ?_⟩
    rw [hIp, if_neg (advertisement_ne_nil ip m.mCtlPort)]

theorem Kept.next {m : MultiCastSender} (h : m.Kept) (localIp : Option Text) :
    (m.iterate localIp).Kept ∧ (m.iterate localIp).mCtlPort = m.mCtlPort := by
  obtain ⟨ip, hNext⟩ := h.iterate localIp
  rw [hNext]
  exact ⟨Or.inr ⟨ip, rfl⟩, rfl⟩

theorem Kept.run {m : MultiCastSender} (h : m.Kept) (localIps : List (Option Text)) :
    ∃ more, (localIps.foldl (fun m ip => m.iterate ip) m).sent = m.sent ++ more ∧
      more.length = localIps.length ∧
      ∀ datagram ∈ more, portPart datagram = decimal m.mCtlPort := by
  induction localIps generalizing m with
  | nil => exact ⟨[], (List.append_nil m.sent).symm, rfl, fun _ h => (nomatch h)⟩
  | cons localIp localIps ih =>
    obtain ⟨ip, hNext⟩ := h.iterate localIp
    obtain ⟨hKept, hPort⟩ := h.next localIp
    obtain ⟨more, hSent, hLength, hMore⟩ := ih hKept
    refine ⟨advertisement ip m.mCtlPort :: more, ?_, congrArg (· + 1) hLength, ?_⟩
    · rw [List.foldl_cons, hSent, hNext, List.append_assoc]
      rfl
    · intro datagram hMem
      rcases List.mem_cons.mp hMem with rfl | hMem
      · exact portPart_advertisement ip m.mCtlPort
      · rw [hMore datagram hMem, hPort]

end MultiCastSender
end LocalCall.Utils
