import LocalCall.Java.LinkedHashMap
import LocalCall.Java.Text

/-! # The main screen

The list of the hosts that were heard of, the text with the own address, and the toasts about new
hosts. The address of the host is an input of each handler that asks for it.
-/
namespace LocalCall.Main
open Java
set_option autoImplicit false

structure MainActivity where
  mIPMap : LinkedHashMap Text Text
  mIPList : List Text
  mMyText1 : Text
  toasts : List Text
  deriving DecidableEq

/-- The screen that a tap on the list starts, with the peer where it is the call screen. -/
inductive Intent where
  | dialActivity
  | callActivity (connectIp : Text) (connectPort : Int)
  deriving DecidableEq

namespace MainActivity

def dialHeader : Text := "通过手动拨号呼叫".toList

def onCreate : MainActivity where
  mIPMap := .empty
  mIPList := [dialHeader]
  mMyText1 := "IP:".toList
  toasts := []

def onResume (localIp : Option Text) (m : MainActivity) : MainActivity :=
  { m with mMyText1 := "本机ip:".toList ++ orNull localIp }

/-- `callBack` with `RETURN_CODE_ADD_HOST_IP`, from the test that its text is there. -/
def addHostIp (localIp : Option Text) (arg1 : Text) (m : MainActivity) : MainActivity :=
  if localIp.any (contains arg1) then
    { m with mMyText1 := "本机ip:".toList ++ arg1 }
  else if m.mIPMap.containsKey arg1 then m
  else { m with
    mIPMap := m.mIPMap.put arg1 []
    mIPList := m.mIPList ++ [arg1]
    toasts := m.toasts ++ [arg1] }

/-- `callBack` with `RETURN_CODE_CTL_PORT`. -/
def ctlPort (localIp : Option Text) (arg1 : Text) (m : MainActivity) : MainActivity :=
  { m with mMyText1 := "本机ip:".toList ++ orNull localIp ++ ":".toList ++ arg1 }

/-- `onItemClick`; none is an exception. The branch without a look at the list is the one of the
header. -/
def onItemClick (position : Nat) (m : MainActivity) : Option Intent :=
  if position = 0 then some .dialActivity
  else
    match m.mIPList[position]? with
    | none => none
    | some ret =>
      match split ret with
      | ip :: port :: _ => (parseInt port).map fun port => .callActivity ip port
      | _ => none

def InStep (m : MainActivity) : Prop := m.mIPList = dialHeader :: m.mIPMap.keys

theorem inStep_onCreate : onCreate.InStep := rfl

theorem inStep_addHostIp {m : MainActivity} (h : m.InStep) (localIp : Option Text) (arg1 : Text) :
    (m.addHostIp localIp arg1).InStep := by
  rw [addHostIp]
  split
  · exact h
  · split
    · exact h
    · rename_i hNew
      rw [InStep] at h ⊢
      dsimp only
      rw [LinkedHashMap.keys_put, if_neg hNew, h]
      rfl

theorem keys_addHostIp (localIp : Option Text) (arg1 : Text) (m : MainActivity) :
    (m.addHostIp localIp arg1).mIPMap.keys =
      if localIp.any (contains arg1) ∨ arg1 ∈ m.mIPMap.keys then m.mIPMap.keys
      else m.mIPMap.keys ++ [arg1] := by
  rw [addHostIp]
  by_cases hOwn : localIp.any (contains arg1) = true
  · rw [if_pos hOwn, if_pos (Or.inl hOwn)]
  · rw [if_neg hOwn]
    by_cases hKnown : arg1 ∈ m.mIPMap.keys
    · rw [if_pos ((m.mIPMap.containsKey_iff arg1).mpr hKnown), if_pos (Or.inr hKnown)]
    · have hNew : ¬ m.mIPMap.containsKey arg1 = true :=
        fun h => hKnown ((m.mIPMap.containsKey_iff arg1).mp h)
      rw [if_neg hNew, if_neg (by rintro (h | h); exacts [hOwn h, hKnown h])]
      dsimp only
      rw [LinkedHashMap.keys_put, if_neg hNew]

end MainActivity
end LocalCall.Main
