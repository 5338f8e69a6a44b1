import LocalCall.Call.ControlLine
import LocalCall.Java.Split

/-! # The lines that the screens can take

A line of the peer reaches the callback of the screen that is registered as it was sent. Both
callbacks look for a known text in it and then take the pieces between its colons.
-/
namespace LocalCall.Call
open Java
set_option autoImplicit false

/-- The main screen finds a peer where it looks for one. -/
def NamesPeer (line : Text) : Prop :=
  contains line "server socket connected".toList = true ∨
    contains line "server socket disconnected".toList = true ∨
    contains line "socket connected:".toList = false ∨
    ∃ a rest, line = a ++ ':' :: rest ∧ ':' ∉ a ∧ ∃ c ∈ rest, c ≠ ':'

/-- Where the call screen takes a line for an address and a port, the port is a number. -/
def NumbersPort (line : Text) : Prop :=
  contains line "socket connected".toList = true ∨
    contains line "socket disconnected".toList = true ∨
    ∀ a b n, line = a ++ ':' :: (b ++ List.replicate n ':') → ':' ∉ a → ':' ∉ b → b ≠ [] →
      (parseInt b).isSome = true

def Taken (p : Endpoint) (line : Text) : Prop :=
  match p.registered, p.activity with
  | .main, _ => NamesPeer line
  | .call, some _ => NumbersPort line
  | _, _ => True

theorem mainCallBack_isSome_iff (line : Text) :
    (mainCallBack line).isSome = true ↔ NamesPeer line := by
  rw [mainCallBack, NamesPeer, ← split_second_iff]
  by_cases hConnected : contains line "server socket connected".toList = true
  · rw [if_pos hConnected]
    exact iff_of_true rfl (Or.inl hConnected)
  · rw [if_neg hConnected]
    by_cases hDisconnected : contains line "server socket disconnected".toList = true
    · rw [if_pos hDisconnected]
      exact iff_of_true rfl (Or.inr (Or.inl hDisconnected))
    · rw [if_neg hDisconnected]
      by_cases hHandshake : contains line "socket connected:".toList = true
      · rw [if_pos hHandshake]
        constructor
        · intro hSome
          split at hSome
          · exact Or.inr (Or.inr (Or.inr ⟨_, _, _, ‹_›⟩))
          · cases hSome
        · rintro (h | h | h | ⟨a, b, rest, hSplit⟩)
          · exact absurd h hConnected
          · exact absurd h hDisconnected
          · exact absurd (h.symm.trans hHandshake) Bool.false_ne_true
          · rw [hSplit]
            rfl
      · rw [if_neg hHandshake]
        exact iff_of_true rfl (Or.inr (Or.inr (Or.inl (Bool.eq_false_iff.mpr hHandshake))))

theorem callBack_isSome_iff (localIp : Option Text) (line : Text) (a : CallActivity) :
    (a.callBack localIp line).isSome = true ↔ NumbersPort line := by
  rw [CallActivity.callBack, NumbersPort]
  by_cases hConnected : contains line "socket connected".toList = true
  · rw [if_pos hConnected]
    exact iff_of_true rfl (Or.inl hConnected)
  · rw [if_neg hConnected]
    by_cases hDisconnected : contains line "socket disconnected".toList = true
    · rw [if_pos hDisconnected]
      exact iff_of_true rfl (Or.inr (Or.inl hDisconnected))
    · rw [if_neg hDisconnected, or_iff_right hConnected, or_iff_right hDisconnected]
      by_cases hColon : contains line ":".toList = true
      · rw [if_pos hColon]
        constructor
        · intro hSome x y n hLine hx hy hNonempty
          have hSplit := (split_eq_two_iff line x y).mpr ⟨hx, hy, hNonempty, n, hLine⟩
          rw [hSplit] at hSome
          simpa using hSome
        · intro hNumber
          split
          · rename_i x y hSplit
            obtain ⟨hx, hy, hNonempty, n, hLine⟩ := (split_eq_two_iff line x y).mp hSplit
            rw [Option.isSome_map]
            exact hNumber x y n hLine hx hy hNonempty
          · rfl
      · rw [if_neg hColon]
        refine iff_of_true ?_ ?_
        · repeat' split
          all_goals rfl
        · rintro x y n rfl - - -
          refine absurd ((contains_colon_iff _).mpr ?_) hColon
          exact List.mem_append_right _ List.mem_cons_self

/-- Whatever screen is registered, and whatever its state: it takes the line without an exception
exactly if the line is one of these. -/
theorem runPosted_isSome_iff (l : Line) (s : Side) (localIp : Option Text) (line : Text)
    (p : Endpoint) : (runPosted l s localIp line p).isSome = true ↔ Taken p line := by
  obtain ⟨activity, resumed, held, registered, posted, started⟩ := p
  cases registered with
  | nobody => exact iff_of_true rfl trivial
  | main =>
    rw [runPosted, Option.isSome_map]
    exact mainCallBack_isSome_iff line
  | call =>
    cases activity with
    | none => exact iff_of_true rfl trivial
    | some a =>
      rw [runPosted, Option.isSome_map]
      exact callBack_isSome_iff localIp line a

/-- A handshake without an address, and an address with something else than a port. -/
theorem not_taken :
    (runPosted .idle .server none "socket connected:".toList
        ⟨none, false, false, .main, [], none⟩).isSome = false ∧
      (runPosted .idle .server none "a:b".toList
        ⟨some (.onCreate false "192.168.1.3".toList 0), true, false, .call, [], none⟩).isSome =
        false := by
  decide +kernel

end LocalCall.Call
