import LocalCall.Library.Transition

/-! # Turning Wi-Fi off for a hotspot and on for a connection

Each of the two classes remembers what it found in a static flag, so the instances share it. The
flag is written by every start and by no stop.
-/
namespace LocalCall.Utils
open Transition
set_option autoImplicit false

/-- The adapter and the flags of the two classes. -/
structure Wifi where
  isWifiEnabled : Bool
  apOriginalOpen : Bool
  originalOpen : Bool
  deriving DecidableEq

/-- The number is that of the instance. -/
inductive WifiEvent where
  | startWifiAp (admin : Nat)
  | stopWifiAp (admin : Nat)
  | connectWifi (admin : Nat)
  | disconnectWifi (admin : Nat)
  | toggle (enabled : Bool)
  deriving DecidableEq

namespace Wifi

def startWifiAp (w : Wifi) : Wifi :=
  if w.isWifiEnabled then { w with apOriginalOpen := true, isWifiEnabled := false }
  else { w with apOriginalOpen := false }

def stopWifiAp (w : Wifi) : Wifi :=
  if w.apOriginalOpen && !w.isWifiEnabled then { w with isWifiEnabled := true } else w

def connectWifi (w : Wifi) : Wifi :=
  if !w.isWifiEnabled then { w with originalOpen := false, isWifiEnabled := true }
  else { w with originalOpen := true }

def disconnectWifi (w : Wifi) : Wifi :=
  if w.originalOpen && !w.isWifiEnabled then { w with isWifiEnabled := true } else w

def perform (w : Wifi) : WifiEvent → Wifi
  | .startWifiAp _ => w.startWifiAp
  | .stopWifiAp _ => w.stopWifiAp
  | .connectWifi _ => w.connectWifi
  | .disconnectWifi _ => w.disconnectWifi
  | .toggle enabled => { w with isWifiEnabled := enabled }

theorem stopWifiAp_eq (w : Wifi) :
    w.stopWifiAp = { w with isWifiEnabled := w.isWifiEnabled || w.apOriginalOpen } := by
  obtain ⟨enabled, ap, original⟩ := w
  cases enabled <;> cases ap <;> rfl

theorem disconnectWifi_eq (w : Wifi) :
    w.disconnectWifi = { w with isWifiEnabled := w.isWifiEnabled || w.originalOpen } := by
  obtain ⟨enabled, ap, original⟩ := w
  cases enabled <;> cases original <;> rfl

theorem startWifiAp_eq (w : Wifi) :
    w.startWifiAp = ⟨false, w.isWifiEnabled, w.originalOpen⟩ := by
  obtain ⟨enabled, ap, original⟩ := w
  cases enabled <;> rfl

theorem connectWifi_eq (w : Wifi) :
    w.connectWifi = ⟨true, w.apOriginalOpen, w.isWifiEnabled⟩ := by
  obtain ⟨enabled, ap, original⟩ := w
  cases enabled <;> rfl

end Wifi

/-- What the starts, the stops and the toggles say by themselves: what is started and not stopped,
how the user left Wi-Fi, now and at the last start of a hotspot, whether a hotspot keeps it off,
whether the last connection was started when none did, and whether anything has been out of order
since the first start. -/
structure WifiUse where
  hotspot : Bool
  connection : Bool
  leftOn : Bool
  apLeftOn : Bool
  keptOff : Bool
  connectedOn : Bool
  mistaken : Bool
  deriving DecidableEq

namespace WifiUse

def new (enabled : Bool) : WifiUse where
  hotspot := false
  connection := false
  leftOn := enabled
  apLeftOn := false
  keptOff := false
  connectedOn := false
  mistaken := false

def active (u : WifiUse) : Bool := u.hotspot || u.connection

/-- A hotspot keeps Wi-Fi off until it is stopped, a connection is started, or one is ended that was
started with Wi-Fi on. -/
def turn (u : WifiUse) : WifiEvent → WifiUse
  | .startWifiAp _ => { u with hotspot := true, apLeftOn := u.leftOn, keptOff := true }
  | .stopWifiAp _ => { u with hotspot := false, keptOff := false }
  | .connectWifi _ => { u with connection := true, connectedOn := !u.keptOff, keptOff := false }
  | .disconnectWifi _ =>
    { u with connection := false, keptOff := u.keptOff && !u.connectedOn }
  | .toggle enabled => { u with leftOn := enabled }

/-- Where the user left Wi-Fi on, no hotspot is started while another keeps it off. Where the user
left it off, no connection is started, and nothing is stopped that was last started before. -/
def Restorable (u : WifiUse) : WifiEvent → Prop
  | .startWifiAp _ => u.leftOn = true → u.keptOff = false
  | .connectWifi _ => u.leftOn = true
  | .stopWifiAp _ => u.leftOn = false → u.apLeftOn = false
  | .disconnectWifi _ => u.leftOn = false → u.connectedOn = false
  | .toggle _ => True

instance (u : WifiUse) (e : WifiEvent) : Decidable (Restorable u e) := by
  unfold Restorable
  split <;> infer_instance

def after (u : WifiUse) (e : WifiEvent) : WifiUse :=
  { u.turn e with mistaken := u.mistaken || !decide (u.Restorable e) }

/-- The stop that ends all that was started comes after nothing out of order, and is in order itself;
so is one with nothing started. -/
def EndsRestored (u : WifiUse) (e : WifiEvent) : Prop :=
  (u.after e).active = false → (u.after e).mistaken = false

instance (u : WifiUse) (e : WifiEvent) : Decidable (u.EndsRestored e) :=
  inferInstanceAs (Decidable (_ → _))

end WifiUse

/-- The state in which the adapter was when nothing was started is kept beside the rest. -/
structure WifiTrace where
  wifi : Wifi
  use : WifiUse
  found : Bool
  deriving DecidableEq

namespace WifiTrace

def new (enabled : Bool) : WifiTrace where
  wifi := ⟨enabled, false, false⟩
  use := .new enabled
  found := enabled

/-- The user turns Wi-Fi on and off while nothing is started. -/
def step (t : WifiTrace) : WifiEvent → Option WifiTrace
  | .toggle enabled =>
    if t.use.active then none
    else some ⟨t.wifi.perform (.toggle enabled), t.use.after (.toggle enabled), enabled⟩
  | e => some ⟨t.wifi.perform e, t.use.after e,
      if t.use.active then t.found else t.wifi.isWifiEnabled⟩

/-- With nothing started Wi-Fi is as it was found. -/
def PutBack (t : WifiTrace) : Prop := t.use.active = false → t.wifi.isWifiEnabled = t.found

def Restorable (t : WifiTrace) (e : WifiEvent) : Prop := t.use.Restorable e

def EndsRestored (t : WifiTrace) (e : WifiEvent) : Prop := t.use.EndsRestored e

instance : DecidablePred PutBack := fun _ => inferInstanceAs (Decidable (_ → _))

instance (t : WifiTrace) (e : WifiEvent) : Decidable (EndsRestored t e) :=
  inferInstanceAs (Decidable (t.use.EndsRestored e))

/-- The adapter and the flags say what the user left. -/
structure Right (t : WifiTrace) : Prop where
  hEnabled : t.wifi.isWifiEnabled = (t.use.leftOn && !t.use.keptOff)
  hAp : t.wifi.apOriginalOpen = t.use.apLeftOn
  hConnection : t.wifi.originalOpen = t.use.connectedOn

/-- What holds of the starts and the stops, and of what was found as long as all is right. -/
structure InUse (t : WifiTrace) : Prop where
  hKept : t.use.keptOff = true → t.use.hotspot = true
  hSame : t.use.hotspot = true → t.use.apLeftOn = t.use.leftOn
  hFound : t.found = t.use.leftOn

section Steps

variable {t t' : WifiTrace} {e : WifiEvent}

theorem InUse.keptOff_eq_false (h : InUse t) (hIdle : t.use.active = false) :
    t.use.keptOff = false := by
  obtain ⟨hHotspot, -⟩ := Bool.or_eq_false_iff.mp hIdle
  refine Bool.eq_false_iff.mpr fun hKept => ?_
  exact absurd (h.hKept hKept) (hHotspot ▸ Bool.false_ne_true)

theorem Right.putBack (hUse : InUse t) (h : Right t) : PutBack t := by
  intro hIdle
  rw [h.hEnabled, hUse.keptOff_eq_false hIdle, hUse.hFound, Bool.not_false, Bool.and_true]

theorem InUse.found_eq (hUse : InUse t) (h : Right t) :
    (if t.use.active then t.found else t.wifi.isWifiEnabled) = t.use.leftOn := by
  split
  · exact hUse.hFound
  · rename_i hIdle
    rw [h.putBack hUse (Bool.eq_false_iff.mpr hIdle), hUse.hFound]

theorem InUse.step (hUse : InUse t) (h : Right t) (hStep : t.step e = some t') : InUse t' := by
  cases e with
  | startWifiAp admin =>
    cases hStep
    exact ⟨fun _ => rfl, fun _ => rfl, hUse.found_eq h⟩
  | stopWifiAp admin =>
    cases hStep
    exact ⟨nofun, nofun, hUse.found_eq h⟩
  | connectWifi admin =>
    cases hStep
    exact ⟨nofun, hUse.hSame, hUse.found_eq h⟩
  | disconnectWifi admin =>
    cases hStep
    exact ⟨fun hKept => hUse.hKept (Bool.and_eq_true_iff.mp hKept).1, hUse.hSame,
      hUse.found_eq h⟩
  | toggle enabled =>
    obtain ⟨hActive, hNext⟩ := Option.ite_none_left_eq_some.mp hStep
    cases hNext
    have hIdle : t.use.active = false := Bool.eq_false_iff.mpr hActive
    obtain ⟨hHotspot, -⟩ := Bool.or_eq_false_iff.mp hIdle
    refine ⟨hUse.hKept, fun hOn => ?_, rfl⟩
    exact absurd (hHotspot.symm.trans hOn) Bool.false_ne_true

/-- A stop turns Wi-Fi on if its flag says so, which is right for a flag that is set while the user
left Wi-Fi on. -/
theorem stopped_eq_iff {leftOn keptOff flag keptOff' : Bool}
    (hOn : leftOn = true → (!keptOff || flag) = !keptOff') :
    (leftOn && !keptOff || flag) = (leftOn && !keptOff') ↔ (leftOn = false → flag = false) := by
  cases leftOn with
  | false => simp
  | true => simp [hOn rfl]

theorem found_eq_iff {leftOn keptOff : Bool} :
    (leftOn && !keptOff) = leftOn ↔ (leftOn = true → keptOff = false) := by
  cases leftOn with
  | false => simp
  | true => simp

/-- A start writes its flag, and what it writes is right exactly when Wi-Fi is as the user left it;
a stop is right exactly when its flag is not from before the user turned Wi-Fi off. -/
theorem right_step_iff (hUse : InUse t) (h : Right t) (hStep : t.step e = some t') :
    Right t' ↔ Restorable t e := by
  obtain ⟨hEnabled, hAp, hConnection⟩ := h
  cases e with
  | startWifiAp admin =>
    cases hStep
    change Right ⟨t.wifi.startWifiAp, _, _⟩ ↔ (t.use.leftOn = true → t.use.keptOff = false)
    rw [Wifi.startWifiAp_eq, hEnabled, ← found_eq_iff]
    exact ⟨Right.hAp, fun hFound => ⟨(Bool.and_false _).symm, hFound, hConnection⟩⟩
  | stopWifiAp admin =>
    cases hStep
    have hOn (hLeft : t.use.leftOn = true) : (!t.use.keptOff || t.use.apLeftOn) = !false := by
      cases hKept : t.use.keptOff with
      | false => rfl
      | true => exact (hUse.hSame (hUse.hKept hKept)).trans hLeft
    change Right ⟨t.wifi.stopWifiAp, _, _⟩ ↔ (t.use.leftOn = false → t.use.apLeftOn = false)
    rw [Wifi.stopWifiAp_eq, hEnabled, hAp, ← stopped_eq_iff hOn]
    exact ⟨Right.hEnabled, fun hNext => ⟨hNext, rfl, hConnection⟩⟩
  | connectWifi admin =>
    cases hStep
    change Right ⟨t.wifi.connectWifi, _, _⟩ ↔ t.use.leftOn = true
    rw [Wifi.connectWifi_eq, hEnabled]
    constructor
    · rintro ⟨hNext, -, -⟩
      change true = (t.use.leftOn && true) at hNext
      rw [hNext, Bool.and_true]
    · intro hOn
      rw [hOn, Bool.true_and]
      refine ⟨?_, hAp, rfl⟩
      change true = (t.use.leftOn && true)
      rw [hOn, Bool.and_true]
  | disconnectWifi admin =>
    cases hStep
    have hOn (_ : t.use.leftOn = true) :
        (!t.use.keptOff || t.use.connectedOn) = !(t.use.keptOff && !t.use.connectedOn) := by
      rw [Bool.not_and, Bool.not_not]
    change Right ⟨t.wifi.disconnectWifi, _, _⟩ ↔
      (t.use.leftOn = false → t.use.connectedOn = false)
    rw [Wifi.disconnectWifi_eq, hEnabled, hConnection, ← stopped_eq_iff hOn]
    exact ⟨Right.hEnabled, fun hNext => ⟨hNext, hAp, rfl⟩⟩
  | toggle enabled =>
    obtain ⟨hActive, hNext⟩ := Option.ite_none_left_eq_some.mp hStep
    cases hNext
    have hKept := hUse.keptOff_eq_false (Bool.eq_false_iff.mpr hActive)
    refine iff_of_true ⟨?_, hAp, hConnection⟩ trivial
    change enabled = (enabled && !t.use.keptOff)
    rw [hKept, Bool.not_false, Bool.and_true]

end Steps

theorem right_new (enabled : Bool) : Right (new enabled) := ⟨(Bool.and_true _).symm, rfl, rfl⟩

theorem inUse_new (enabled : Bool) : InUse (new enabled) := ⟨nofun, nofun, rfl⟩

/-- As long as nothing has been out of order all is right; when something has been, what was started
goes on for good. -/
def Kept (t : WifiTrace) : Prop :=
  if t.use.mistaken then t.use.active = true else InUse t ∧ Right t

theorem Kept.putBack {t : WifiTrace} (h : Kept t) : PutBack t := by
  unfold Kept at h
  split at h
  · exact fun hIdle => absurd (hIdle.symm.trans h) Bool.false_ne_true
  · exact h.2.putBack h.1

theorem use_step {t t' : WifiTrace} {e : WifiEvent} (hStep : t.step e = some t') :
    t'.use = t.use.after e := by
  cases e with
  | toggle enabled =>
    obtain ⟨-, hNext⟩ := Option.ite_none_left_eq_some.mp hStep
    cases hNext
    rfl
  | _ =>
    cases hStep
    rfl

theorem Kept.step {t t' : WifiTrace} {e : WifiEvent} (h : Kept t) (hEnds : EndsRestored t e)
    (hStep : t.step e = some t') : Kept t' := by
  unfold Kept
  split
  · rename_i hMistaken
    rw [use_step hStep] at hMistaken ⊢
    refine Bool.not_eq_false _ |>.mp fun hIdle => ?_
    exact absurd ((hEnds hIdle).symm.trans hMistaken) Bool.false_ne_true
  · rename_i hOrder
    rw [use_step hStep] at hOrder
    obtain ⟨hBefore, hNow⟩ := Bool.or_eq_false_iff.mp (Bool.eq_false_iff.mpr hOrder)
    rw [Kept, hBefore, if_neg Bool.false_ne_true] at h
    obtain ⟨hUse, hRight⟩ := h
    rw [Bool.not_eq_false', decide_eq_true_iff] at hNow
    exact ⟨hUse.step hRight hStep, (right_step_iff hUse hRight hStep).mpr hNow⟩

/-- The adapter and the flags say what the user left for as long as the calls come in such an
order, and no longer. -/
theorem always_right_iff (enabled : Bool) (es : List WifiEvent) :
    Always step Right (new enabled) es ↔ Meets step Restorable (new enabled) es := by
  have hKeep {t t' : WifiTrace} {e : WifiEvent} (hUse : InUse t) (h : Right t)
      (hStep : t.step e = some t') (_ : Right t') : InUse t' := hUse.step h hStep
  exact always_iff_meets hKeep right_step_iff (inUse_new enabled) (right_new enabled)

theorem always_putBack_of_endsRestored {enabled : Bool} {es : List WifiEvent}
    (h : Meets step EndsRestored (new enabled) es) : Always step PutBack (new enabled) es := by
  have hStart : Kept (new enabled) := ⟨inUse_new enabled, right_new enabled⟩
  exact always_of_meets (fun hKept hEnds hStep => hKept.step hEnds hStep) Kept.putBack hStart h

/-- A hotspot with a connection in the middle, stops of nothing, and, once the user has turned Wi-Fi
off, a hotspot that is started twice; at last a connection that is not ended. -/
def inOrder : List WifiEvent :=
  [.stopWifiAp 0, .startWifiAp 1, .connectWifi 2, .startWifiAp 1, .stopWifiAp 3, .disconnectWifi 2,
    .disconnectWifi 2, .toggle false, .startWifiAp 4, .startWifiAp 4, .stopWifiAp 4, .stopWifiAp 5,
    .toggle true, .connectWifi 6, .disconnectWifi 6, .toggle false, .connectWifi 7, .startWifiAp 8,
    .stopWifiAp 8]

theorem always_putBack_inOrder : Meets step EndsRestored (new true) inOrder ∧
    Always step PutBack (new true) inOrder :=
  ⟨by decide +kernel, always_putBack_of_endsRestored (by decide +kernel)⟩

/-- A connection leaves Wi-Fi on; a second start forgets what the first one found; and what a
start has found long ago is still put back. -/
theorem not_put_back :
    ¬ Always step PutBack (new false) [.connectWifi 0, .disconnectWifi 0] ∧
      ¬ Always step PutBack (new true) [.startWifiAp 0, .startWifiAp 0, .stopWifiAp 0] ∧
      ¬ Always step PutBack (new true)
        [.startWifiAp 0, .stopWifiAp 0, .toggle false, .stopWifiAp 1] := by
  decide +kernel

end WifiTrace
end LocalCall.Utils
