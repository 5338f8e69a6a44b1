import LocalCall.Call.CallActivity
import LocalCall.Library.Replica
import LocalCall.Library.Transition
import Mathlib.Logic.Function.Basic

/-! # Who has the floor

Two call screens are joined by a first-in first-out channel in each direction. `mCanTalk` of the one
is a replica of the button of the other, kept by the commands in flight; it is looked at alone when
the button is pressed, so the floor is exclusive exactly when no press crosses a command that is
still on its way.
-/
namespace LocalCall.Call
open Java Transition Replica
set_option autoImplicit false

inductive Side where
  | client | server
  deriving DecidableEq

def Side.other : Side → Side
  | .client => .server
  | .server => .client

@[simp] theorem Side.other_other (s : Side) : s.other.other = s := by cases s <;> rfl

@[simp] theorem Side.other_ne (s : Side) : s.other ≠ s := by cases s <;> decide

@[simp] theorem Side.ne_other (s : Side) : s ≠ s.other := by cases s <;> decide

theorem Side.eq_or_other (s s' : Side) : s' = s ∨ s' = s.other := by
  cases s <;> cases s' <;> decide

/-- A phone in a call; `recording` is whether the service was told to record, and would. -/
structure Phone where
  activity : CallActivity
  held : Bool
  recording : Bool
  deriving DecidableEq

/-- `wire s` holds the commands in flight to the phone `s`, the next one first. -/
structure Floor where
  phone : Side → Phone
  wire : Side → List Text

def Floor.start (serverIp clientIp : Text) (port : Int) : Floor where
  phone
    | .client => ⟨.onCreate true serverIp port, false, false⟩
    | .server => ⟨.onCreate false clientIp 0, false, false⟩
  wire _ := []

def record (recording : Bool) : ServiceCall → Bool
  | .startRecorder ip => recording || mPatternFind ip
  | .stopRecorder => false
  | _ => recording

def Floor.handled (f : Floor) (s : Side) (activity : CallActivity) (held : Bool)
    (calls : List ServiceCall) : Floor where
  phone := Function.update f.phone s
    ⟨activity, held, calls.foldl record (f.phone s).recording⟩
  wire := Function.update f.wire s.other
    (f.wire s.other ++ calls.filterMap (CallActivity.commandOf activity.mIsClient))

theorem Floor.handled_nil (f : Floor) (s : Side) (activity : CallActivity) (held : Bool) :
    f.handled s activity held [] =
      { f with phone := Function.update f.phone s ⟨activity, held, (f.phone s).recording⟩ } := by
  simp [Floor.handled]

inductive FloorEvent where
  | press (s : Side)
  | release (s : Side) (e : MotionEvent)
  | deliver (s : Side) (localIp : Option Text)
  deriving DecidableEq

def floorStep (f : Floor) : FloorEvent → Option Floor
  | .press s =>
    if (f.phone s).held then none
    else
      let (held, activity, calls) := (f.phone s).activity.onTouch .actionDown
      some (f.handled s activity held calls)
  | .release s e =>
    if (f.phone s).held ∧ e ≠ .actionDown then
      let (_, activity, calls) := (f.phone s).activity.onTouch e
      some (f.handled s activity false calls)
    else none
  | .deliver s localIp =>
    match f.wire s with
    | [] => none
    | command :: rest =>
      ((f.phone s).activity.callBack localIp command).map fun (activity, calls) =>
        { f with wire := Function.update f.wire s rest }.handled s activity (f.phone s).held calls

def Exclusive (f : Floor) : Prop :=
  ¬ ((f.phone .client).recording = true ∧ (f.phone .server).recording = true)

/-- When the button is pressed, the last command on its way to the phone is not the news that the
peer talks; it does not matter for ips that no recorder would be started for. -/
def Uncrossed (f : Floor) : FloorEvent → Prop
  | .press s => (f.phone s).activity.mCanTalk = true →
      mPatternFind (f.phone s).activity.mConnectIp = true →
      mPatternFind (f.phone s.other).activity.mConnectIp = true →
      (f.wire s).getLast? ≠ some CallActivity.down
  | _ => True

/-- Each phone will know the button of the other once it has read what is in flight. -/
structure Synced (f : Floor) : Prop where
  replica : ∀ s, settled CallActivity.hear (f.phone s).activity.mCanTalk (f.wire s) =
    !(f.phone s.other).held
  commands : ∀ s, ∀ command ∈ f.wire s, command = CallActivity.down ∨ command = CallActivity.up
  recording : ∀ s, (f.phone s).recording =
    ((f.phone s).held && mPatternFind (f.phone s).activity.mConnectIp)

theorem synced_start (serverIp clientIp : Text) (port : Int) :
    Synced (.start serverIp clientIp port) := by
  refine ⟨fun s => ?_, fun s command hMem => (nomatch hMem), fun s => ?_⟩
  · cases s <;> rfl
  · cases s <;> rfl

theorem settled_eq_false_iff (canTalk : Bool) (wire : List Text)
    (hWire : ∀ command ∈ wire, command = CallActivity.down ∨ command = CallActivity.up)
    (hTalk : canTalk = true) :
    settled CallActivity.hear canTalk wire = false ↔ wire.getLast? = some CallActivity.down := by
  induction wire using List.reverseRecOn with
  | nil => simp [hTalk]
  | append_singleton wire command =>
    rw [settled_concat, List.getLast?_concat]
    rcases hWire command (List.mem_append_right wire List.mem_cons_self) with rfl | rfl
    · exact iff_of_true (CallActivity.hear_down _) rfl
    · exact iff_of_false (by rw [CallActivity.hear_up]; decide) (by decide)

theorem Synced.handled {f : Floor} (h : Synced f) (s : Side) {activity : CallActivity}
    {held : Bool} {calls : List ServiceCall} (sent : List Text)
    (hCanTalk : activity.mCanTalk = (f.phone s).activity.mCanTalk)
    (hIp : activity.mConnectIp = (f.phone s).activity.mConnectIp)
    (hSent : calls.filterMap (CallActivity.commandOf activity.mIsClient) = sent)
    (hCommands : ∀ command ∈ sent, command = CallActivity.down ∨ command = CallActivity.up)
    (hButton : ∀ canTalk, canTalk = !(f.phone s).held →
      settled CallActivity.hear canTalk sent = !held)
    (hRecording : calls.foldl record (f.phone s).recording =
      (held && mPatternFind (f.phone s).activity.mConnectIp)) :
    Synced (f.handled s activity held calls) := by
  refine ⟨fun s' => ?_, fun s' => ?_, fun s' => ?_⟩
  · rcases Side.eq_or_other s s' with rfl | rfl
    · have hOther := h.replica s'
      simpa [Floor.handled, hCanTalk] using hOther
    · have hMine := h.replica s.other
      rw [Side.other_other] at hMine
      simp only [Floor.handled, Function.update_of_ne (Side.other_ne s), Function.update_self,
        Side.other_other, hSent, settled_append]
      exact hButton _ hMine
  · rcases Side.eq_or_other s s' with rfl | rfl
    · simpa [Floor.handled] using h.commands s'
    · intro command hMem
      simp only [Floor.handled, Function.update_self, hSent] at hMem
      rcases List.mem_append.mp hMem with hMem | hMem
      · exact h.commands s.other command hMem
      · exact hCommands command hMem
  · rcases Side.eq_or_other s s' with rfl | rfl
    · simpa [Floor.handled, hIp] using hRecording
    · simpa [Floor.handled] using h.recording s.other

theorem record_writeCommand (recording : Bool) (command : Text) (a : CallActivity) :
    record recording (a.writeCommand command) = recording := by
  rw [CallActivity.writeCommand]
  split <;> rfl

theorem record_touch (recording : Bool) (call : ServiceCall) (command : Text) (a : CallActivity) :
    [call, a.writeCommand command].foldl record recording = record recording call :=
  record_writeCommand (record recording call) command a

theorem floorStep_cases {f f' : Floor} {e : FloorEvent} (h : Synced f)
    (hStep : floorStep f e = some f') :
    (∃ s, e = .press s ∧ (f.phone s).activity.mCanTalk = false ∧ f' = f) ∨
    (∃ s, e = .press s ∧ (f.phone s).held = false ∧ (f.phone s).activity.mCanTalk = true ∧
      f' = f.handled s { (f.phone s).activity with
          mTalking := true, mMsg := .pressedTalk (f.phone s).activity.mConnectIp } true
        [.startRecorder (f.phone s).activity.mConnectIp,
          (f.phone s).activity.writeCommand CallActivity.down]) ∨
    (∃ s e', e = .release s e' ∧ (f.phone s).held = true ∧
      f' = f.handled s { (f.phone s).activity with mTalking := false, mMsg := .pressTalk } false
        [.stopRecorder, (f.phone s).activity.writeCommand CallActivity.up]) ∨
    (∃ s localIp command rest msg, e = .deliver s localIp ∧ f.wire s = command :: rest ∧
      f' = { phone := Function.update f.phone s { f.phone s with activity :=
                { (f.phone s).activity with
                  mMsg := msg
                  mCanTalk := CallActivity.hear (f.phone s).activity.mCanTalk command } }
             wire := Function.update f.wire s rest }) := by
  cases e with
  | press s =>
    simp only [floorStep] at hStep
    split at hStep
    · cases hStep
    · rename_i hFree
      have hHeld : (f.phone s).held = false := Bool.eq_false_iff.mpr hFree
      cases hTalk : (f.phone s).activity.mCanTalk with
      | false =>
        rw [CallActivity.onTouch_refused hTalk] at hStep
        refine Or.inl ⟨s, rfl, hTalk, ?_⟩
        rw [← Option.some.inj hStep, Floor.handled_nil, ← hHeld, Function.update_eq_self]
      | true =>
        rw [CallActivity.onTouch_accepted hTalk] at hStep
        exact Or.inr (Or.inl ⟨s, rfl, hHeld, hTalk, (Option.some.inj hStep).symm⟩)
  | release s e' =>
    simp only [floorStep] at hStep
    split at hStep
    · rename_i hMay
      rw [CallActivity.onTouch_ended _ hMay.2] at hStep
      exact Or.inr (Or.inr (Or.inl ⟨s, e', rfl, hMay.1, (Option.some.inj hStep).symm⟩))
    · cases hStep
  | deliver s localIp =>
    simp only [floorStep] at hStep
    split at hStep
    · cases hStep
    · rename_i command rest hWire
      have hKnown := h.commands s command (hWire ▸ List.mem_cons_self)
      rcases hKnown with rfl | rfl
      · rw [CallActivity.callBack_down] at hStep
        refine Or.inr (Or.inr (Or.inr ⟨s, localIp, _, rest, .peerTalking, rfl, hWire, ?_⟩))
        rw [← Option.some.inj hStep]
        exact Floor.handled_nil _ s _ _
      · rw [CallActivity.callBack_up] at hStep
        refine Or.inr (Or.inr (Or.inr ⟨s, localIp, _, rest, .pressTalk, rfl, hWire, ?_⟩))
        rw [← Option.some.inj hStep]
        exact Floor.handled_nil _ s _ _

theorem Synced.step {f f' : Floor} {e : FloorEvent} (h : Synced f)
    (hStep : floorStep f e = some f') : Synced f' := by
  rcases floorStep_cases h hStep with ⟨s, rfl, hTalk, rfl⟩ | ⟨s, rfl, hHeld, hTalk, rfl⟩ |
    ⟨s, e', rfl, hHeld, rfl⟩ | ⟨s, localIp, command, rest, msg, rfl, hWire, rfl⟩
  · exact h
  · refine h.handled s [CallActivity.down] rfl rfl (CallActivity.commands_sent _ _ _ rfl) ?_ ?_ ?_
    · intro command hMem
      exact Or.inl (List.mem_singleton.mp hMem)
    · intro canTalk _
      rw [settled_cons, settled_nil, CallActivity.hear_down]
      rfl
    · rw [record_touch, record, h.recording s, hHeld]
      rfl
  · refine h.handled s [CallActivity.up] rfl rfl (CallActivity.commands_sent _ _ _ rfl) ?_ ?_ ?_
    · intro command hMem
      exact Or.inr (List.mem_singleton.mp hMem)
    · intro canTalk _
      rw [settled_cons, settled_nil, CallActivity.hear_up]
      rfl
    · rw [record_touch, record]
      rfl
  · refine ⟨fun s' => ?_, fun s' => ?_, fun s' => ?_⟩
    · rcases Side.eq_or_other s s' with rfl | rfl
      · have hMine := h.replica s'
        rw [hWire, settled_cons] at hMine
        simpa using hMine
      · have hOther := h.replica s.other
        rw [Side.other_other] at hOther
        simpa using hOther
    · rcases Side.eq_or_other s s' with rfl | rfl
      · intro c hMem
        simp only [Function.update_self] at hMem
        exact h.commands s' c (hWire ▸ List.mem_cons_of_mem command hMem)
      · simpa using h.commands s.other
    · rcases Side.eq_or_other s s' with rfl | rfl
      · simpa using h.recording s'
      · simpa using h.recording s.other

theorem exclusive_iff (f : Floor) (s : Side) : Exclusive f ↔
    ¬ ((f.phone s).recording = true ∧ (f.phone s.other).recording = true) := by
  cases s with
  | client => exact Iff.rfl
  | server => rw [Exclusive, and_comm]; exact Iff.rfl

theorem exclusive_step {f f' : Floor} {e : FloorEvent} (h : Synced f) (hExclusive : Exclusive f)
    (hStep : floorStep f e = some f') : Exclusive f' ↔ Uncrossed f e := by
  rcases floorStep_cases h hStep with ⟨s, rfl, hTalk, rfl⟩ | ⟨s, rfl, hHeld, hTalk, rfl⟩ |
    ⟨s, e', rfl, hHeld, rfl⟩ | ⟨s, localIp, command, rest, msg, rfl, hWire, rfl⟩
  · refine iff_of_true hExclusive fun hTalk' => ?_
    rw [hTalk] at hTalk'
    cases hTalk'
  · -- the presser records from now on; the peer does when its button is held
    have hPeer : (f.phone s.other).held = true ↔
        (f.wire s).getLast? = some CallActivity.down := by
      rw [← settled_eq_false_iff _ _ (h.commands s) hTalk, h.replica s]
      cases (f.phone s.other).held <;> decide
    rw [exclusive_iff _ s]
    simp only [Floor.handled, Function.update_self, Function.update_of_ne (Side.other_ne s),
      record_touch, record, h.recording, hHeld, Uncrossed, hTalk, forall_const,
      Bool.false_and, Bool.false_or, Bool.and_eq_true, hPeer]
    exact ⟨fun hNot hMine hTheirs hLast => hNot ⟨hMine, hLast, hTheirs⟩,
      fun hNot hBoth => hNot hBoth.1 hBoth.2.2 hBoth.2.1⟩
  · refine iff_of_true ?_ trivial
    rw [exclusive_iff _ s]
    intro hBoth
    simp only [Floor.handled, Function.update_self, record_touch, record] at hBoth
    exact absurd hBoth.1 (by decide)
  · refine iff_of_true ?_ trivial
    rw [exclusive_iff _ s] at hExclusive ⊢
    simpa using hExclusive

/-- The two phones never record together exactly when no press crosses the news of the other. -/
theorem always_exclusive_iff (serverIp clientIp : Text) (port : Int) (events : List FloorEvent) :
    Always floorStep Exclusive (.start serverIp clientIp port) events ↔
      Meets floorStep Uncrossed (.start serverIp clientIp port) events :=
  always_iff_meets (fun {_ _ _} hSynced _ hStep _ => Synced.step hSynced hStep) exclusive_step
    (synced_start serverIp clientIp port) (fun hBoth => nomatch hBoth.1)

theorem not_always_exclusive_crossing :
    ¬ Always floorStep Exclusive (.start "192.168.1.3".toList "192.168.1.2".toList 5000)
      [.press .client, .press .server] := by
  intro hAlways
  have hRun : ((run floorStep (.start "192.168.1.3".toList "192.168.1.2".toList 5000)
      [.press .client, .press .server]).map fun f =>
        ((f.phone .client).recording, (f.phone .server).recording)) = some (true, true) := by
    decide +kernel
  obtain ⟨f, hReached, hBoth⟩ := Option.map_eq_some_iff.mp hRun
  exact hAlways.last hReached ⟨(Prod.mk.inj hBoth).1, (Prod.mk.inj hBoth).2⟩

end LocalCall.Call
