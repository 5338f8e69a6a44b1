import LocalCall.Java.Decimal
import LocalCall.Java.Split
import LocalCall.Jni.DottedQuad
import LocalCall.Main.MainActivity

/-! # The dial pad

The editor takes no focus, so that its text comes from the buttons alone: each click rewrites it
from the buffer. What the call button takes is a search for the pattern in the first piece and a
number in the second one.
-/
namespace LocalCall.Main
open Java Jni
set_option autoImplicit false

inductive Button where
  | digit (d : Fin 10)
  | p | d | del | c
  deriving DecidableEq

inductive Shown where
  | toast (text : Text)
  | started (intent : Intent)
  deriving DecidableEq

structure DialActivity where
  mTextBuffer : Text
  mEditor : Text
  mIp : Text
  mPort : Int
  deriving DecidableEq

namespace DialActivity

def onCreate : DialActivity := ⟨[], [], [], 0⟩

def faultText : Text := "您输入的ip有问题！".toList

/-- The branch of the call button, up to the test of `fault`. -/
def readEditor (s : DialActivity) : DialActivity × Bool :=
  match split s.mEditor with
  | [ip, port] =>
    let mPort := (parseInt port).getD 0
    ({ s with mIp := ip, mPort }, !(mPatternFind ip && 0 < mPort))
  | _ => (s, true)

def call (s : DialActivity) : DialActivity × Shown :=
  let read := s.readEditor
  (read.1,
    if read.2 then .toast faultText else .started (.callActivity read.1.mIp read.1.mPort))

def append (piece : Text) (s : DialActivity) : DialActivity :=
  { s with mTextBuffer := s.mTextBuffer ++ piece }

/-- On an empty buffer it throws, and the exception is caught. -/
def deleteCharAt (s : DialActivity) : DialActivity :=
  { s with mTextBuffer := s.mTextBuffer.dropLast }

def setText (s : DialActivity) : DialActivity := { s with mEditor := s.mTextBuffer }

def onClick (button : Button) (s : DialActivity) : DialActivity × Option Shown :=
  match button with
  | .digit d => ((s.append [Nat.digitChar d.val]).setText, none)
  | .p => ((s.append ['.']).setText, none)
  | .d => ((s.append [':']).setText, none)
  | .del => (s.deleteCharAt.setText, none)
  | .c =>
    let (s, shown) := s.call
    (s.setText, some shown)

def clicks (buttons : List Button) (s : DialActivity) : DialActivity :=
  buttons.foldl (fun s button => (s.onClick button).1) s

end DialActivity

structure Port where
  digits : List (Fin 10)
  value_pos : 1 ≤ numberOf 10 digits
  value_le : numberOf 10 digits ≤ 65535
  deriving DecidableEq

namespace Port

def value (p : Port) : Nat := numberOf 10 p.digits

def text (p : Port) : Text := p.digits.map fun d => Nat.digitChar d.val

end Port

/-- The text is an address and a port, and nothing else. -/
def Spells (text ip : Text) (port : Int) : Prop :=
  ∃ (q : DottedQuad) (p : Port), text = q.text ++ ':' :: p.text ∧ ip = q.text ∧ port = p.value

/-- A text before the first colon in which the pattern is found, a positive number, and colons. -/
structure Passes (text ip number : Text) (colons : Nat) (port : Int) : Prop where
  text_eq : text = ip ++ ':' :: (number ++ List.replicate colons ':')
  ip_colon : ':' ∉ ip
  number_colon : ':' ∉ number
  pattern : mPatternFind ip = true
  parsed : parseInt number = some port
  positive : 0 < port

namespace DialActivity

/-- The call button starts the call screen exactly for an address and a port, with both of them,
and shows the error for every other text. -/
structure DialsExactly (s : DialActivity) : Prop where
  starts : ∀ ip port, (s.onClick .c).2 = some (.started (.callActivity ip port)) ↔
    Spells s.mEditor ip port
  shows : (∀ ip port, ¬ Spells s.mEditor ip port) →
    (s.onClick .c).2 = some (.toast faultText)

end DialActivity

section Numbers

theorem not_mem_digitChars {c : Char} (h : c.isDigit = false) (digits : List (Fin 10)) :
    c ∉ digits.map fun d => Nat.digitChar d.val := by
  intro hMem
  obtain ⟨d, -, rfl⟩ := List.mem_map.mp hMem
  rw [isDigit_digitChar d] at h
  cases h

theorem ofDigitChars_digits (digits : List (Fin 10)) (n : Nat) :
    Nat.ofDigitChars 10 (digits.map fun d => Nat.digitChar d.val) n =
      digits.foldl (fun n d => n * 10 + d.val) n := by
  have hDigit : ∀ d : Fin 10, (Nat.digitChar d.val).toNat - '0'.toNat = d.val := by decide
  induction digits generalizing n with
  | nil => rfl
  | cons d digits ih =>
    rw [List.map_cons, Nat.ofDigitChars_cons, hDigit, ih, List.foldl_cons, Nat.mul_comm]

theorem colon_not_mem_port (p : Port) : ':' ∉ p.text := not_mem_digitChars rfl p.digits

theorem colon_not_mem_quad (q : DottedQuad) : ':' ∉ q.text := by
  refine not_mem_dotted (by decide) fun piece hPiece => ?_
  obtain ⟨o, -, rfl⟩ := List.mem_map.mp hPiece
  exact not_mem_digitChars rfl o.digits

theorem parseInt_port (p : Port) : parseInt p.text = some (p.value : Int) := by
  have hValue : Nat.ofDigitChars 10 p.text 0 = p.value := ofDigitChars_digits p.digits 0
  have hLe : p.value ≤ 65535 := p.value_le
  rw [← hValue]
  apply parseInt_of_digits
  · intro hNil
    have hPos := p.value_pos
    rw [List.map_eq_nil_iff.mp hNil] at hPos
    cases hPos
  · intro c hc
    obtain ⟨d, -, rfl⟩ := List.mem_map.mp hc
    exact isDigit_digitChar d
  · omega

end Numbers

section Texts

variable {text ip number : Text} {colons : Nat} {port : Int}

theorem Spells.passes (h : Spells text ip port) :
    ∃ p : Port, Passes text ip p.text 0 port := by
  obtain ⟨q, p, rfl, rfl, rfl⟩ := h
  have hPos : 1 ≤ p.value := p.value_pos
  refine ⟨p, ?_, colon_not_mem_quad q, colon_not_mem_port p, q.mPatternFind_text,
    parseInt_port p, by omega⟩
  rw [List.replicate_zero, List.append_nil]

theorem Passes.splitOn (h : Passes text ip number colons port) :
    text.splitOn ':' = ip :: number :: List.replicate colons [] := by
  rw [h.text_eq, List.splitOn_append_cons_self_of_not_mem h.ip_colon,
    splitOn_append_colons h.number_colon]

theorem Passes.unique {ip' number' : Text} {colons' : Nat} {port' : Int}
    (h : Passes text ip number colons port) (h' : Passes text ip' number' colons' port') :
    ip = ip' ∧ number = number' ∧ colons = colons' ∧ port = port' := by
  have hPieces : ip :: number :: List.replicate colons [] =
      ip' :: number' :: List.replicate colons' [] := h.splitOn.symm.trans h'.splitOn
  obtain ⟨hIp, hRest⟩ := List.cons.inj hPieces
  obtain ⟨hNumber, hColons⟩ := List.cons.inj hRest
  have hLength := congrArg List.length hColons
  rw [List.length_replicate, List.length_replicate] at hLength
  have hParsed := h.parsed
  rw [hNumber, h'.parsed] at hParsed
  exact ⟨hIp, hNumber, hLength, (Option.some.inj hParsed).symm⟩

theorem Passes.number_ne_nil (h : Passes text ip number colons port) : number ≠ [] := by
  rintro rfl
  cases h.parsed

theorem Passes.split_eq (h : Passes text ip number colons port) : split text = [ip, number] :=
  (split_eq_two_iff text ip number).mpr
    ⟨h.ip_colon, h.number_colon, h.number_ne_nil, colons, h.text_eq⟩

end Texts

namespace DialActivity

variable {s : DialActivity} {ip : Text} {port : Int}

theorem started_iff (s : DialActivity) (ip : Text) (port : Int) :
    (s.onClick .c).2 = some (.started (.callActivity ip port)) ↔
      ∃ number colons, Passes s.mEditor ip number colons port := by
  have hShown : (s.onClick .c).2 = some s.call.2 := rfl
  rw [hShown, call]
  dsimp only
  rw [readEditor]
  constructor
  · intro hStarted
    split at hStarted
    · rename_i first number hSplit
      obtain ⟨hIp, hNumber, -, colons, hText⟩ := (split_eq_two_iff _ _ _).mp hSplit
      dsimp only at hStarted
      split at hStarted
      · cases hStarted
      · rename_i hGood
        obtain ⟨hPattern, hPositive⟩ : mPatternFind first = true ∧
            0 < (parseInt number).getD 0 := by
          simpa using hGood
        cases hStarted
        cases hParsed : parseInt number with
        | none =>
          rw [hParsed] at hPositive
          cases hPositive
        | some port =>
          rw [hParsed] at hPositive
          exact ⟨number, colons, hText, hIp, hNumber, hPattern, hParsed, hPositive⟩
    · cases hStarted
  · rintro ⟨number, colons, hPasses⟩
    simp [hPasses.split_eq, hPasses.parsed, hPasses.pattern, hPasses.positive]

theorem onClick_call_shown (s : DialActivity) :
    (s.onClick .c).2 = some (.toast faultText) ∨
      ∃ ip port, (s.onClick .c).2 = some (.started (.callActivity ip port)) := by
  have hShown : (s.onClick .c).2 = some s.call.2 := rfl
  rw [hShown, call]
  dsimp only
  split
  · exact Or.inl rfl
  · exact Or.inr ⟨_, _, rfl⟩

/-- The dial pad is right about a text that it takes exactly if the pattern is all that stands
before the colon, and plain digits of a port all that stands behind it. -/
theorem dialsExactly_iff (s : DialActivity) :
    s.DialsExactly ↔ ∀ ip number colons port, Passes s.mEditor ip number colons port →
      (∃ q : DottedQuad, ip = q.text) ∧ (∃ p : Port, number = p.text) ∧ colons = 0 := by
  constructor
  · intro h ip number colons port hPasses
    have hSpells := (h.starts ip port).mp ((started_iff s ip port).mpr ⟨number, colons, hPasses⟩)
    obtain ⟨p, hPort⟩ := hSpells.passes
    obtain ⟨q, -, -, hIp, -⟩ := hSpells
    obtain ⟨-, hNumber, hColons, -⟩ := hPasses.unique hPort
    exact ⟨⟨q, hIp⟩, ⟨p, hNumber⟩, hColons⟩
  · intro h
    have hStarts (ip : Text) (port : Int) :
        (s.onClick .c).2 = some (.started (.callActivity ip port)) ↔ Spells s.mEditor ip port := by
      rw [started_iff]
      constructor
      · rintro ⟨number, colons, hPasses⟩
        obtain ⟨⟨q, rfl⟩, ⟨p, rfl⟩, rfl⟩ := h ip number colons port hPasses
        have hText := hPasses.text_eq
        rw [List.replicate_zero, List.append_nil] at hText
        exact ⟨q, p, hText, rfl, Option.some.inj (hPasses.parsed.symm.trans (parseInt_port p))⟩
      · intro hSpells
        obtain ⟨p, hPasses⟩ := hSpells.passes
        exact ⟨p.text, 0, hPasses⟩
    refine ⟨hStarts, fun hNone => ?_⟩
    rcases onClick_call_shown s with hToast | ⟨ip, port, hStarted⟩
    · exact hToast
    · exact absurd ((hStarts ip port).mp hStarted) (hNone ip port)

/-- The text `1.2.3.4:70000`, which the buttons can write, is dialled. -/
theorem dialled_no_port : ¬ ∀ buttons, (onCreate.clicks buttons).DialsExactly := by
  intro hAll
  have hStarts := (hAll [.digit 1, .p, .digit 2, .p, .digit 3, .p, .digit 4, .d, .digit 7,
    .digit 0, .digit 0, .digit 0, .digit 0]).starts
  obtain ⟨q, p, -, -, hPort⟩ := (hStarts "1.2.3.4".toList 70000).mp (by decide +kernel)
  have hLe : p.value ≤ 65535 := p.value_le
  omega

section Typing

def onPad (c : Char) : Bool := c.isDigit || c == '.' || c == ':'

theorem mEditor_onClick (button : Button) (s : DialActivity) :
    (s.onClick button).1.mEditor = (s.onClick button).1.mTextBuffer := by
  cases button <;> rfl

theorem mTextBuffer_onClick {button : Button} {s : DialActivity}
    (h : ∀ c ∈ s.mTextBuffer, onPad c = true) :
    ∀ c ∈ (s.onClick button).1.mTextBuffer, onPad c = true := by
  have hAppend {piece : Text} (hPiece : ∀ c ∈ piece, onPad c = true) :
      ∀ c ∈ s.mTextBuffer ++ piece, onPad c = true := by
    intro c hc
    exact (List.mem_append.mp hc).elim (h c) (hPiece c)
  cases button with
  | digit d =>
    apply hAppend
    intro c hc
    rw [List.mem_singleton.mp hc, onPad, isDigit_digitChar]
    rfl
  | p =>
    apply hAppend
    intro c hc
    rw [List.mem_singleton.mp hc]
    rfl
  | d =>
    apply hAppend
    intro c hc
    rw [List.mem_singleton.mp hc]
    rfl
  | del => exact fun c hc => h c (List.mem_of_mem_dropLast hc)
  | c =>
    have hSame : (s.onClick .c).1.mTextBuffer = s.mTextBuffer := by
      change s.readEditor.1.mTextBuffer = s.mTextBuffer
      rw [readEditor]
      split <;> rfl
    rw [hSame]
    exact h

theorem clicks_concat (buttons : List Button) (button : Button) (s : DialActivity) :
    s.clicks (buttons ++ [button]) = ((s.clicks buttons).onClick button).1 := by
  rw [clicks, List.foldl_append]
  rfl

theorem mEditor_clicks (buttons : List Button) :
    ∀ c ∈ (onCreate.clicks buttons).mEditor, onPad c = true := by
  have hBuffer : ∀ c ∈ (onCreate.clicks buttons).mTextBuffer, onPad c = true := by
    induction buttons using List.reverseRecOn with
    | nil => nofun
    | append_singleton buttons button ih =>
      rw [clicks_concat]
      exact mTextBuffer_onClick ih
  cases buttons using List.reverseRecOn with
  | nil => nofun
  | append_singleton buttons button =>
    rw [clicks_concat] at hBuffer ⊢
    rw [mEditor_onClick]
    exact hBuffer

theorem exists_button {c : Char} (h : onPad c = true) :
    ∃ button, ∀ s : DialActivity, (s.onClick button).1.mTextBuffer = s.mTextBuffer ++ [c] := by
  rw [onPad, Bool.or_eq_true, Bool.or_eq_true] at h
  rcases h with (hDigit | hDot) | hColon
  · obtain ⟨hLow, hHigh⟩ := toNat_of_isDigit hDigit
    have hChars : ∀ d : Fin 10, Nat.digitChar d.val = Char.ofNat (48 + d.val) := by decide
    have hChar : Nat.digitChar (c.toNat - 48) = c := by
      rw [hChars ⟨c.toNat - 48, by omega⟩, Nat.add_sub_cancel' hLow, Char.ofNat_toNat]
    exact ⟨.digit ⟨c.toNat - 48, by omega⟩, fun s => congrArg (fun c => s.mTextBuffer ++ [c]) hChar⟩
  · exact ⟨.p, fun s => by rw [eq_of_beq hDot]; rfl⟩
  · exact ⟨.d, fun s => by rw [eq_of_beq hColon]; rfl⟩

theorem exists_clicks {text : Text} (h : ∀ c ∈ text, onPad c = true) :
    ∃ buttons, (onCreate.clicks buttons).mEditor = text ∧
      (onCreate.clicks buttons).mTextBuffer = text := by
  induction text using List.reverseRecOn with
  | nil => exact ⟨[], rfl, rfl⟩
  | append_singleton text c ih =>
    obtain ⟨buttons, -, hText⟩ := ih fun c' hc => h c' (List.mem_append_left _ hc)
    obtain ⟨button, hButton⟩ := exists_button (h c (List.mem_append_right _ List.mem_cons_self))
    refine ⟨buttons ++ [button], ?_, ?_⟩
    · rw [clicks_concat, mEditor_onClick, hButton, hText]
    · rw [clicks_concat, hButton, hText]

end Typing

end DialActivity
end LocalCall.Main
