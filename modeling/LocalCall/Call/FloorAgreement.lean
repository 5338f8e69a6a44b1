import LocalCall.Call.ControlLine

/-! # Agreement on the floor when nothing is in flight

On the way from the button of one phone to `mCanTalk` of the other, a floor command can be written
to a connection that is down, go down with it, or arrive while no call screen listens; and a new
call screen starts out believing that the peer is silent. As long as none of this happens to a
command that matters, the replica agrees with the button whenever nothing is in flight.
-/
namespace LocalCall.Call
open Java Transition Replica
set_option autoImplicit false

abbrev Harmless (text : Text) : Prop := Silent CallActivity.hear text

instance : DecidablePred Harmless := fun text =>
  inferInstanceAs (Decidable (∀ canTalk, CallActivity.hear canTalk text = canTalk))

/-- With the connection up, both call screens resumed and nothing on its way to the phone, it can
talk exactly when the peer does not hold the button. -/
def Agree (l : Line) : Prop :=
  ∀ s a, l.up = true → (l.phone s).resumed = true → (l.phone s.other).resumed = true →
    (l.phone s).activity = some a → l.inFlight s = [] → a.mCanTalk = !(l.phone s.other).held

abbrev NoScreen (l : Line) (s : Side) : Prop := (l.phone s).activity = none

/-- No floor command is lost, and no state of a button is forgotten: buttons are used while the
connection is up, what is dropped is harmless, a call screen opens knowing the button of the peer
and closes with its own released. None of it matters to a phone without a call screen. -/
def NothingLost (l : Line) : LineEvent → Prop
  | .press s => (l.phone s).activity.any (fun a => a.mCanTalk) = true →
      l.up = true ∨ NoScreen l s.other
  | .release s _ => l.up = true ∨ NoScreen l s.other
  | .pause s => (l.phone s).activity.any (fun a => a.mIsClient) = true →
      ∀ text ∈ l.wire s, Harmless text
  | .resume s => (l.phone s).activity.any (fun a => a.mIsClient) = true →
      ∀ text ∈ l.wire s, Harmless text
  | .create s _ _ => settled CallActivity.hear true (l.inFlight s) = !(l.phone s.other).held
  | .destroy s => (l.phone s).held = false ∨ NoScreen l s.other
  | .lose s => NoScreen l s ∨ ∀ text ∈ l.wire s, Harmless text
  | .receive s => (l.phone s).registered = .nobody →
      NoScreen l s ∨ ∀ text ∈ (l.wire s).head?, Harmless text
  | .run s _ => (l.phone s).registered ≠ .call →
      NoScreen l s ∨ ∀ text ∈ (l.phone s).posted.head?, Harmless text
  | _ => True

/-- The call screen of the phone will know the button of the peer once it has heard what is in
flight. -/
def WillKnow (l : Line) (s : Side) : Prop :=
  ∀ a, (l.phone s).activity = some a →
    settled CallActivity.hear a.mCanTalk (l.inFlight s) = !(l.phone s.other).held

structure Informed (l : Line) : Prop where
  willKnow : ∀ s, WillKnow l s
  free : ∀ s, NoScreen l s → (l.phone s).held = false

theorem Informed.agree {l : Line} (h : Informed l) : Agree l := by
  intro s a _ _ _ hScreen hQuiet
  have hKnows := h.willKnow s a hScreen
  rw [hQuiet, settled_nil] at hKnows
  exact hKnows

theorem informed_idle : Informed .idle :=
  ⟨fun _ _ hScreen => (nomatch hScreen), fun _ _ => rfl⟩

section Changes
variable {l : Line}

theorem informed_of (s : Side) (hMine : WillKnow l s) (hTheirs : WillKnow l s.other)
    (hFree : NoScreen l s → (l.phone s).held = false)
    (hFree' : NoScreen l s.other → (l.phone s.other).held = false) : Informed l := by
  constructor
  · intro s'
    rcases Side.eq_or_other s s' with rfl | rfl
    · exact hMine
    · exact hTheirs
  · intro s'
    rcases Side.eq_or_other s s' with rfl | rfl
    · exact hFree
    · exact hFree'

theorem settled_dropped {canTalk : Bool} {posted dropped : List Text}
    (h : ∀ text ∈ dropped, Harmless text) :
    settled CallActivity.hear canTalk (posted ++ dropped) =
      settled CallActivity.hear canTalk posted :=
  settled_append_silent canTalk posted dropped h

theorem Informed.setPhone (h : Informed l) (s : Side) (p : Endpoint) (wire : List Text)
    (hHeld : p.held = (l.phone s).held) (hFree : p.activity = none → p.held = false)
    (hKnows : ∀ a, p.activity = some a →
      settled CallActivity.hear a.mCanTalk (p.posted ++ wire) = !(l.phone s.other).held) :
    Informed ({ l with wire := Function.update l.wire s wire }.setPhone s p) := by
  refine informed_of s ?_ ?_ ?_ ?_
  · intro a hScreen
    have hThis := hKnows a (by simpa [Line.setPhone] using hScreen)
    simpa [Line.setPhone, Line.inFlight] using hThis
  · intro b hScreen
    have hThat := h.willKnow s.other b (by simpa [Line.setPhone] using hScreen)
    simpa [Line.setPhone, Line.inFlight, hHeld] using hThat
  · intro hNone
    have hThis := hFree (by simpa [NoScreen, Line.setPhone] using hNone)
    simpa [Line.setPhone] using hThis
  · intro hNone
    have hThat := h.free s.other (by simpa [NoScreen, Line.setPhone] using hNone)
    simpa [Line.setPhone] using hThat

theorem Informed.setPhone_only (h : Informed l) (s : Side) (p : Endpoint)
    (hHeld : p.held = (l.phone s).held) (hFree : p.activity = none → p.held = false)
    (hKnows : ∀ a, p.activity = some a →
      settled CallActivity.hear a.mCanTalk (p.posted ++ l.wire s) = !(l.phone s.other).held) :
    Informed (l.setPhone s p) := by
  have hSame := h.setPhone s p (l.wire s) hHeld hFree hKnows
  rwa [Function.update_eq_self] at hSame

theorem Informed.setPhone_same (h : Informed l) (s : Side) (p : Endpoint)
    (hActivity : p.activity = (l.phone s).activity) (hHeld : p.held = (l.phone s).held)
    (hPosted : p.posted = (l.phone s).posted) : Informed (l.setPhone s p) := by
  refine h.setPhone_only s p hHeld ?_ ?_
  · intro hNone
    rw [hHeld]
    exact h.free s (hActivity.symm.trans hNone)
  · intro a hScreen
    rw [hPosted]
    exact h.willKnow s a (hActivity ▸ hScreen)

theorem Informed.hangUp (h : Informed l) (s : Side) (hLost : ∀ text ∈ l.wire s, Harmless text) :
    Informed (l.hangUp s) := by
  refine informed_of s ?_ ?_ (h.free s) (h.free s.other)
  · intro a hScreen
    have hThis := h.willKnow s a hScreen
    rw [Line.inFlight, settled_dropped hLost] at hThis
    simpa [Line.hangUp, Line.inFlight] using hThis
  · intro b hScreen
    have hThat := h.willKnow s.other b hScreen
    simpa [Line.hangUp, Line.inFlight] using hThat

theorem Informed.send_harmless (h : Informed l) (s : Side) {command : Text}
    (hHarmless : Harmless command) : Informed (l.send s command) := by
  rw [Line.send]
  split
  · refine informed_of s ?_ ?_ (h.free s) (h.free s.other)
    · intro a hScreen
      have hThis := h.willKnow s a hScreen
      simpa [Line.inFlight] using hThis
    · intro b hScreen
      have hThat := h.willKnow s.other b hScreen
      simp only [Line.inFlight, Function.update_self, ← List.append_assoc]
      rw [settled_concat, hHarmless]
      exact hThat
  · exact h

theorem Informed.send_button {a : CallActivity} {p : Endpoint} {command : Text}
    (h : Informed l) (s : Side) (hScreen : (l.phone s).activity = some a)
    (hSame : p.activity.map (fun a => a.mCanTalk) = some a.mCanTalk)
    (hPosted : p.posted = (l.phone s).posted)
    (hCommand : ∀ canTalk, CallActivity.hear canTalk command = !p.held)
    (hUp : l.up = true ∨ NoScreen l s.other) : Informed ((l.setPhone s p).send s command) := by
  obtain ⟨a', hActivity, hTalk⟩ := Option.map_eq_some_iff.mp hSame
  have hMine : settled CallActivity.hear a'.mCanTalk (p.posted ++ l.wire s) =
      !(l.phone s.other).held := by
    rw [hTalk, hPosted]
    exact h.willKnow s a hScreen
  have hThat : NoScreen l s.other → (l.phone s.other).held = false := h.free s.other
  cases hLine : l.up with
  | true =>
    have hSent : (l.setPhone s p).send s command = { l.setPhone s p with
        wire := Function.update l.wire s.other (l.wire s.other ++ [command]) } := by
      simp [Line.send, Line.setPhone, hLine]
    rw [hSent]
    refine informed_of s ?_ ?_ ?_ ?_
    · intro b hb
      simp only [Line.setPhone, Function.update_self, hActivity, Option.some.injEq] at hb
      subst hb
      simpa [Line.inFlight, Line.setPhone] using hMine
    · intro b _
      simp only [Line.inFlight, Function.update_self, ← List.append_assoc]
      rw [settled_concat, hCommand]
      simp [Line.setPhone]
    · intro hNone
      simp [NoScreen, Line.setPhone, hActivity] at hNone
    · intro hNone
      have hNone' : NoScreen l s.other := by simpa [NoScreen, Line.setPhone] using hNone
      simpa [Line.setPhone] using hThat hNone'
  | false =>
    have hNobody : NoScreen l s.other := by simpa [hLine] using hUp
    have hLost : (l.setPhone s p).send s command = l.setPhone s p := by
      simp [Line.send, Line.setPhone, hLine]
    rw [hLost]
    refine informed_of s ?_ ?_ ?_ ?_
    · intro b hb
      simp only [Line.setPhone, Function.update_self, hActivity, Option.some.injEq] at hb
      subst hb
      simpa [Line.inFlight, Line.setPhone] using hMine
    · intro b hb
      simp only [Line.setPhone, Function.update_of_ne (Side.other_ne s)] at hb
      rw [hNobody] at hb
      cases hb
    · intro hNone
      simp [NoScreen, Line.setPhone, hActivity] at hNone
    · intro _
      simpa [Line.setPhone] using hThat hNobody

end Changes

section Calls

@[simp] theorem serve_writeCommand (a : CallActivity) (s : Side) (l : Line) (command : Text) :
    Line.serve a.mIsClient s l (a.writeCommand command) = l.send s command := by
  cases hClient : a.mIsClient <;>
    simp [CallActivity.writeCommand, hClient, Line.serve, CallActivity.commandOf]

theorem serveAll_touch (a : CallActivity) (s : Side) (l : Line) {call : ServiceCall}
    (hCall : ∀ l', Line.serve a.mIsClient s l' call = l') (command : Text) :
    l.serveAll a s [call, a.writeCommand command] = l.send s command := by
  simp only [Line.serveAll, List.foldl_cons, List.foldl_nil, hCall, serve_writeCommand]

theorem Informed.registerCallback {l : Line} (h : Informed l) (isClient : Bool) (s : Side)
    (set : Bool) : Informed (l.serve isClient s (.registerCallback set)) :=
  h.setPhone_same s _ rfl rfl rfl

theorem Informed.onPause {l : Line} (h : Informed l) (a : CallActivity) (s : Side)
    (hLost : a.mIsClient = true → ∀ text ∈ l.wire s, Harmless text) :
    Informed (l.serveAll a s a.onPause.2) := by
  cases hClient : a.mIsClient with
  | true =>
    have hUnplugged := (h.hangUp s (hLost hClient)).registerCallback true s false
    simpa [Line.serveAll, CallActivity.onPause, hClient, Line.serve, CallActivity.commandOf]
      using hUnplugged
  | false =>
    have hTold := (h.send_harmless s (by decide : Harmless
      "socket disconnected".toList)).registerCallback false s false
    simpa [Line.serveAll, CallActivity.onPause, hClient, Line.serve, CallActivity.commandOf]
      using hTold

theorem Informed.onResume {l : Line} (h : Informed l) (a : CallActivity) (s : Side)
    (hLost : a.mIsClient = true → ∀ text ∈ l.wire s, Harmless text) :
    Informed (l.serveAll a s a.onResume.2) := by
  have hRegistered := h.registerCallback a.mIsClient s true
  cases hClient : a.mIsClient with
  | true =>
    have hDialled := hRegistered.hangUp s (hLost hClient)
    have hTrying : Informed { (l.serve a.mIsClient s (.registerCallback true)).hangUp s with
        connecting := true } := ⟨hDialled.willKnow, hDialled.free⟩
    simpa [Line.serveAll, CallActivity.onResume, hClient, Line.serve, CallActivity.commandOf]
      using hTrying
  | false =>
    simpa [Line.serveAll, CallActivity.onResume, hClient, Line.serve, CallActivity.commandOf]
      using hRegistered

theorem callBack_calls {localIp : Option Text} {arg1 : Text} {a a' : CallActivity}
    {calls : List ServiceCall} (h : a.callBack localIp arg1 = some (a', calls)) :
    ∀ call ∈ calls, ∃ command, call = .writeCommandFromClient command ∧ Harmless command := by
  unfold CallActivity.callBack at h
  split at h
  · cases h
    intro call hMem
    refine ⟨_, List.mem_singleton.mp hMem, fun canTalk => ?_⟩
    have hSplit : "socket connected:".toList = "socket connected".toList ++ ":".toList := by
      decide +kernel
    have hGreeting : ∀ rest : Text, contains ("socket connected:".toList ++ rest)
        "socket connected".toList = true := by
      intro rest
      rw [hSplit, List.append_assoc]
      exact contains_append_right _ _
    rw [CallActivity.hear, List.append_assoc, List.append_assoc, if_pos (hGreeting _)]
  · repeat' split at h
    all_goals first
      | (cases h; exact fun _ hMem => absurd hMem List.not_mem_nil)
      | (obtain ⟨_, _, hEq⟩ := Option.map_eq_some_iff.mp h
         cases hEq
         exact fun _ hMem => absurd hMem List.not_mem_nil)

theorem Informed.serveAll {l : Line} (h : Informed l) (a : CallActivity) (s : Side)
    {calls : List ServiceCall}
    (hCalls : ∀ call ∈ calls, ∃ command, call = .writeCommandFromClient command ∧
      Harmless command) : Informed (l.serveAll a s calls) := by
  induction calls generalizing l with
  | nil => exact h
  | cons call calls ih =>
    obtain ⟨command, rfl, hHarmless⟩ := hCalls call List.mem_cons_self
    have hNext : Informed (l.serve a.mIsClient s (.writeCommandFromClient command)) := by
      cases hClient : a.mIsClient with
      | true => exact h.send_harmless s hHarmless
      | false => exact h
    exact ih hNext fun call hMem => hCalls call (List.mem_cons_of_mem _ hMem)

end Calls

section Steps
variable {l l' : Line}

theorem WillKnow.drop {s : Side} (h : WillKnow l s) {text : Text} {rest : List Text}
    (hFlight : l.inFlight s = text :: rest) (hDropped : NoScreen l s ∨ Harmless text)
    (a : CallActivity) (hScreen : (l.phone s).activity = some a) :
    settled CallActivity.hear a.mCanTalk rest = !(l.phone s.other).held := by
  rcases hDropped with hNone | hHarmless
  · rw [hNone] at hScreen
    cases hScreen
  · have hKnows := h a hScreen
    rwa [hFlight, settled_cons_silent _ _ _ hHarmless] at hKnows

theorem Informed.press (h : Informed l) (s : Side) (hLost : NothingLost l (.press s))
    (hStep : lineStep l (.press s) = some l') : Informed l' := by
  simp only [lineStep] at hStep
  split at hStep
  · cases hStep
  · rename_i a hScreen
    split at hStep
    · rename_i hMay
      have hHeld : (l.phone s).held = false := by simpa using hMay.2
      cases hTalk : a.mCanTalk with
      | false =>
        rw [CallActivity.onTouch_refused hTalk] at hStep
        cases hStep
        exact h.setPhone_same s _ hScreen.symm hHeld.symm rfl
      | true =>
        rw [CallActivity.onTouch_accepted hTalk] at hStep
        cases hStep
        rw [serveAll_touch a s _ (fun _ => rfl)]
        have hUp := hLost (by rw [hScreen, Option.any_some, hTalk])
        exact h.send_button s hScreen rfl rfl CallActivity.hear_down hUp
    · cases hStep

theorem Informed.release (h : Informed l) (s : Side) (e : MotionEvent)
    (hLost : NothingLost l (.release s e)) (hStep : lineStep l (.release s e) = some l') :
    Informed l' := by
  simp only [lineStep] at hStep
  split at hStep
  · cases hStep
  · rename_i a hScreen
    split at hStep
    · rename_i hMay
      rw [CallActivity.onTouch_ended a hMay.2] at hStep
      cases hStep
      rw [serveAll_touch a s _ (fun _ => rfl)]
      exact h.send_button s hScreen rfl rfl CallActivity.hear_up hLost
    · cases hStep

theorem Informed.pauseOrResume (h : Informed l) (s : Side) {a : CallActivity}
    (hScreen : (l.phone s).activity = some a) (resumed : Bool)
    (hLost : (l.phone s).activity.any (fun a => a.mIsClient) = true →
      ∀ text ∈ l.wire s, Harmless text) :
    Informed ((l.setPhone s { l.phone s with resumed }).serveAll a s a.onPause.2) ∧
      Informed ((l.setPhone s { l.phone s with resumed }).serveAll a s a.onResume.2) := by
  have hMoved := h.setPhone_same s { l.phone s with resumed } rfl rfl rfl
  have hDropped : a.mIsClient = true →
      ∀ text ∈ (l.setPhone s { l.phone s with resumed }).wire s, Harmless text := by
    intro hClient
    refine hLost ?_
    rw [hScreen, Option.any_some, hClient]
  exact ⟨hMoved.onPause a s hDropped, hMoved.onResume a s hDropped⟩

theorem Informed.receive (h : Informed l) (s : Side) (hLost : NothingLost l (.receive s))
    (hStep : lineStep l (.receive s) = some l') : Informed l' := by
  simp only [lineStep] at hStep
  split at hStep
  · cases hStep
  · rename_i text rest hWire
    cases hStep
    have hKnows : ∀ a, (l.phone s).activity = some a → settled CallActivity.hear a.mCanTalk
        ((post text (l.phone s)).posted ++ rest) = !(l.phone s.other).held := by
      intro a hScreen
      have hThis := h.willKnow s a hScreen
      rw [Line.inFlight, hWire] at hThis
      rw [post]
      split
      · rename_i hNobody
        rcases hLost hNobody with hNone | hHarmless
        · rw [hNone] at hScreen
          cases hScreen
        · have hSilent : Harmless text := hHarmless text (by rw [hWire]; rfl)
          rw [settled_append, settled_cons_silent _ _ _ hSilent] at hThis
          rw [settled_append]
          exact hThis
      · simpa [List.append_assoc] using hThis
    have hActivity : (post text (l.phone s)).activity = (l.phone s).activity := by
      rw [post]
      split <;> rfl
    have hHeld : (post text (l.phone s)).held = (l.phone s).held := by
      rw [post]
      split <;> rfl
    refine h.setPhone s _ rest hHeld (fun hNone => ?_)
      fun a hScreen => hKnows a (hActivity ▸ hScreen)
    rw [hHeld]
    exact h.free s (hActivity.symm.trans hNone)

theorem Informed.status (h : Informed l) (s : Side) {text : Text}
    (hStatus : text ∈ statusTexts s) : Informed (l.setPhone s (post text (l.phone s))) := by
  have hHarmless : Harmless text := by
    have hAll : ∀ s, ∀ text ∈ statusTexts s, Harmless text := by
      intro s
      cases s <;> decide
    exact hAll s text hStatus
  rw [post]
  split
  · exact h.setPhone_same s _ rfl rfl rfl
  · refine h.setPhone_only s _ rfl (h.free s) fun a hScreen => ?_
    have hThis := h.willKnow s a hScreen
    rw [Line.inFlight, settled_append] at hThis
    rw [settled_append, settled_concat, hHarmless]
    exact hThis

theorem Informed.run (h : Informed l) (s : Side) (localIp : Option Text)
    (hLost : NothingLost l (.run s localIp)) (hStep : lineStep l (.run s localIp) = some l') :
    Informed l' := by
  simp only [lineStep] at hStep
  split at hStep
  · cases hStep
  · rename_i text rest hPosted
    have hFlight : l.inFlight s = text :: (rest ++ l.wire s) := by
      rw [Line.inFlight, hPosted]
      rfl
    have hDropped : (l.phone s).registered ≠ .call → ∀ a, (l.phone s).activity = some a →
        settled CallActivity.hear a.mCanTalk (rest ++ l.wire s) = !(l.phone s.other).held := by
      intro hOther
      refine (h.willKnow s).drop hFlight ?_
      refine (hLost hOther).imp_right fun hHarmless => hHarmless text ?_
      rw [hPosted]
      rfl
    cases hRegistered : (l.phone s).registered with
    | nobody =>
      simp only [runPosted, hRegistered] at hStep
      cases hStep
      exact h.setPhone_only s _ rfl (h.free s) (hDropped (by rw [hRegistered]; decide))
    | main =>
      simp only [runPosted, hRegistered] at hStep
      obtain ⟨started, _, rfl⟩ := Option.map_eq_some_iff.mp hStep
      exact h.setPhone_only s _ rfl (h.free s) (hDropped (by rw [hRegistered]; decide))
    | call =>
      cases hScreen : (l.phone s).activity with
      | none =>
        simp only [runPosted, hRegistered, hScreen] at hStep
        cases hStep
        refine h.setPhone_only s _ rfl (fun _ => h.free s hScreen) fun a hSome => ?_
        cases hSome
      | some a =>
        simp only [runPosted, hRegistered, hScreen] at hStep
        obtain ⟨⟨a', calls⟩, hCallBack, rfl⟩ := Option.map_eq_some_iff.mp hStep
        obtain ⟨hHeard, _, _⟩ := CallActivity.callBack_spec hCallBack
        have hThis := h.willKnow s a hScreen
        rw [hFlight, settled_cons, ← hHeard] at hThis
        refine Informed.serveAll ?_ a s (callBack_calls hCallBack)
        refine h.setPhone_only s _ rfl (fun hNone => nomatch hNone) fun b hSome => ?_
        cases hSome
        exact hThis

theorem Informed.destroy (h : Informed l) (s : Side) (hLost : NothingLost l (.destroy s))
    (hStep : lineStep l (.destroy s) = some l') : Informed l' := by
  simp only [lineStep] at hStep
  split at hStep
  · cases hStep
    refine informed_of s ?_ ?_ ?_ ?_
    · intro a hSome
      simp [Line.setPhone] at hSome
    · intro b hScreen
      have hThat := h.willKnow s.other b (by simpa [Line.setPhone] using hScreen)
      rcases hLost with hReleased | hNobody
      · simpa [Line.setPhone, Line.inFlight, hReleased] using hThat
      · simp only [Line.setPhone, Function.update_of_ne (Side.other_ne s)] at hScreen
        rw [hNobody] at hScreen
        cases hScreen
    · intro _
      simp [Line.setPhone]
    · intro hNone
      have hThat := h.free s.other (by simpa [NoScreen, Line.setPhone] using hNone)
      simpa [Line.setPhone] using hThat
  · cases hStep

theorem Informed.lose (h : Informed l) (s : Side) (hLost : NothingLost l (.lose s))
    (hStep : lineStep l (.lose s) = some l') : Informed l' := by
  simp only [lineStep] at hStep
  split at hStep
  · cases hStep
  · cases hStep
    have hKnows : ∀ a, (l.phone s).activity = some a → settled CallActivity.hear a.mCanTalk
        ((l.phone s).posted ++ []) = !(l.phone s.other).held := by
      intro a hScreen
      rcases hLost with hNone | hHarmless
      · rw [hNone] at hScreen
        cases hScreen
      · have hThis := h.willKnow s a hScreen
        rw [Line.inFlight, settled_dropped hHarmless] at hThis
        rwa [List.append_nil]
    have hSame := h.setPhone s (l.phone s) [] rfl (h.free s) hKnows
    simpa [Line.setPhone] using hSame

theorem Informed.step {e : LineEvent} (h : Informed l) (hLost : NothingLost l e)
    (hStep : lineStep l e = some l') : Informed l' := by
  cases e with
  | press s => exact h.press s hLost hStep
  | release s e => exact h.release s e hLost hStep
  | pause s =>
    simp only [lineStep] at hStep
    split at hStep
    · cases hStep
    · rename_i a hScreen
      split at hStep
      · cases hStep
        exact (h.pauseOrResume s hScreen false hLost).1
      · cases hStep
  | resume s =>
    simp only [lineStep] at hStep
    split at hStep
    · cases hStep
    · rename_i a hScreen
      split at hStep
      · cases hStep
      · cases hStep
        exact (h.pauseOrResume s hScreen true hLost).2
  | create s ip port =>
    simp only [lineStep] at hStep
    split at hStep
    · rename_i hMay
      cases hStep
      refine h.setPhone_only s _ rfl (fun hNone => nomatch hNone) fun a hSome => ?_
      cases hSome
      exact hLost
    · cases hStep
  | destroy s => exact h.destroy s hLost hStep
  | mainResume s =>
    simp only [lineStep] at hStep
    split at hStep
    · cases hStep
    · cases hStep
      exact h.setPhone_same s _ rfl rfl rfl
  | mainPause s =>
    simp only [lineStep] at hStep
    split at hStep
    · cases hStep
      exact h.setPhone_same s _ rfl rfl rfl
    · cases hStep
  | connect =>
    simp only [lineStep] at hStep
    split at hStep
    · cases hStep
      exact ⟨h.willKnow, h.free⟩
    · cases hStep
  | broken =>
    cases hStep
    exact ⟨h.willKnow, h.free⟩
  | lose s => exact h.lose s hLost hStep
  | status s text =>
    simp only [lineStep] at hStep
    split at hStep
    · rename_i hStatus
      cases hStep
      exact h.status s hStatus
    · cases hStep
  | receive s => exact h.receive s hLost hStep
  | run s localIp => exact h.run s localIp hLost hStep

/-- If no floor command is lost and no button forgotten, the phones agree on the floor in every
state in which the connection is up, both screens are resumed and nothing is in flight. -/
theorem always_agree_of_nothingLost (events : List LineEvent)
    (hLost : Meets lineStep NothingLost .idle events) : Always lineStep Agree .idle events :=
  always_of_meets Informed.step Informed.agree informed_idle hLost

instance (l : Line) : (e : LineEvent) → Decidable (NothingLost l e)
  | .press _ => inferInstanceAs (Decidable (_ → _ ∨ _))
  | .release _ _ => inferInstanceAs (Decidable (_ ∨ _))
  | .pause _ => inferInstanceAs (Decidable (_ → _))
  | .resume _ => inferInstanceAs (Decidable (_ → _))
  | .create _ _ _ => inferInstanceAs (Decidable (_ = _))
  | .destroy _ => inferInstanceAs (Decidable (_ ∨ _))
  | .lose _ => inferInstanceAs (Decidable (_ ∨ _))
  | .receive _ => inferInstanceAs (Decidable (_ → _))
  | .run _ _ => inferInstanceAs (Decidable (_ → _))
  | .mainResume _ | .mainPause _ | .connect | .broken | .status _ _ =>
    inferInstanceAs (Decidable True)

def calling : List LineEvent :=
  [.mainPause .client, .create .client "192.168.1.3".toList 5000, .resume .client, .connect,
    .status .client "socket connected".toList, .run .client (some "192.168.1.2".toList),
    .receive .server, .run .server none, .mainPause .server,
    .create .server "192.168.1.2".toList 0, .resume .server]

theorem always_agree_spoken :
    Always lineStep Agree .idle (calling ++ [.press .server, .receive .client, .run .client none,
      .release .server .actionUp, .receive .client, .run .client none]) :=
  always_agree_of_nothingLost _ (by decide +kernel)

/-- The client is paused while the server talks, and calls again after the server has let go. -/
def callingAgain : List LineEvent :=
  calling ++
    ([.press .server, .receive .client, .run .client none, .pause .client,
      .status .server "server socket disconnected".toList, .run .server none,
      .release .server .actionUp, .pause .server, .destroy .server, .mainResume .server,
      .resume .client, .connect, .status .client "socket connected".toList,
      .run .client (some "192.168.1.2".toList), .receive .server, .run .server none,
      .mainPause .server, .create .server "192.168.1.2".toList 0, .resume .server] :
      List LineEvent)

theorem not_always_agree_callingAgain : ¬ Always lineStep Agree .idle callingAgain := by
  intro hAlways
  have hRun : ((Transition.run lineStep .idle callingAgain).map fun l =>
      (l.up, (l.phone .client).resumed, (l.phone .server).resumed,
        (l.inFlight .client).isEmpty, (l.phone .client).activity.map fun a => a.mCanTalk,
        (l.phone .server).held)) =
      some (true, true, true, true, some false, false) := by
    decide +kernel
  obtain ⟨l, hReached, hState⟩ := Option.map_eq_some_iff.mp hRun
  obtain ⟨hUp, hClient, hServer, hQuiet, hTalk, hHeld⟩ : _ ∧ _ ∧ _ ∧ _ ∧ _ ∧ _ := by
    simpa only [Prod.mk.injEq] using hState
  obtain ⟨a, hScreen, hCanTalk⟩ := Option.map_eq_some_iff.mp hTalk
  have hAgree := hAlways.last hReached .client a hUp hClient hServer hScreen
    (List.isEmpty_iff.mp hQuiet)
  rw [hCanTalk] at hAgree
  exact absurd (hAgree.trans (congrArg not hHeld)) (by decide)

end Steps
end LocalCall.Call
