import LocalCall.Library.Transition
import LocalCall.Service.LocalCallService

/-! # The pump threads

Each accepted `startRecorder` starts a thread that pumps frames until it finds `stopRecorder` set.
The flag is one for all of them and the next start clears it again, so a thread that has not
looked in between goes on beside the new one. `writes` records which pump wrote and how many had
been started by then.
-/
namespace LocalCall.Service
open Java Jni Utils Transition
set_option autoImplicit false

variable {S K : Type}

structure Pumping (S K : Type) where
  service : LocalCallService S K
  writes : List (Nat × Nat)

def writesBy (s : LocalCallService S K) : Event S → List (Nat × Nat)
  | .pump i =>
    match s.pumps[i]? with
    | some (.holding (some _)) => [(i, s.pumps.length)]
    | _ => []
  | _ => []

def pumpingStep [Zero S] (codec : SpeexCodec S K) (s : Pumping S K) (e : Event S) :
    Option (Pumping S K) :=
  (serviceStep codec s.service e).map fun service =>
    { service, writes := s.writes ++ writesBy s.service e }

def Pumping.onCreate (state : K) (opened : Option Nat) (outcome : CreateOutcome) : Pumping S K :=
  ⟨.onCreate state opened outcome, []⟩

def inLoop : Pump S → Bool
  | .ended => false
  | _ => true

/-- At most one thread is in its loop, and only the one started last has ever written. -/
structure OnePump (s : Pumping S K) : Prop where
  one : s.service.pumps.countP inLoop ≤ 1
  latest : ∀ w ∈ s.writes, w.1 + 1 = w.2

/-- A start with an ip that is accepted finds every thread out of its loop. -/
def StartsAlone (s : Pumping S K) : Event S → Prop
  | .startRecorder ip => mPatternFind ip = true → ∀ pump ∈ s.service.pumps, inLoop pump = false
  | _ => True

/-- A thread in its loop is the one started last. -/
structure LastInLoop (s : Pumping S K) : Prop where
  native : s.service.mRtp.mJavaRtp.isSome = true
  last : ∀ i pump, s.service.pumps[i]? = some pump → inLoop pump = true →
    i + 1 = s.service.pumps.length
  latest : ∀ w ∈ s.writes, w.1 + 1 = w.2

theorem LastInLoop.onePump {s : Pumping S K} (h : LastInLoop s) : OnePump s := by
  refine ⟨?_, h.latest⟩
  obtain hNil | ⟨earlier, pump, hConcat⟩ := List.eq_nil_or_concat s.service.pumps
  · rw [hNil]
    exact Nat.zero_le 1
  · have hEarlier : earlier.countP inLoop = 0 := by
      apply List.countP_eq_zero.mpr
      intro p hp hLoop
      obtain ⟨i, hi⟩ := List.mem_iff_getElem?.mp hp
      obtain ⟨hLt, -⟩ := List.getElem?_eq_some_iff.mp hi
      have hGet : s.service.pumps[i]? = some p := by
        rw [hConcat, List.concat_eq_append, List.getElem?_append_left hLt, hi]
      have hLast := h.last i p hGet hLoop
      rw [hConcat, List.length_concat] at hLast
      omega
    rw [hConcat, List.concat_eq_append, List.countP_append, hEarlier, Nat.zero_add]
    exact List.countP_le_length

section Steps

variable {s s' : LocalCallService S K} {ip : Text}

theorem pumps_startRecorder (s : LocalCallService S K) (ip : Text) :
    (s.startRecorder ip).2.pumps = if accepted s ip then s.pumps ++ [.test] else s.pumps := by
  rw [accepted, LocalCallService.startRecorder]
  split
  · split
    · rfl
    · rfl
  · rfl

/-- The turn of a thread that is not in its loop is refused, so no other place changes. -/
theorem pumps_pump {codec : SpeexCodec S K} {i : Nat} (hStep : s.pump codec i = some s') :
    ∃ pump pump', s.pumps[i]? = some pump ∧ inLoop pump = true ∧ s'.pumps = s.pumps.set i pump' := by
  rw [LocalCallService.pump] at hStep
  split at hStep
  · cases hStep; exact ⟨_, _, ‹_›, rfl, rfl⟩
  · cases hStep; exact ⟨_, _, ‹_›, rfl, rfl⟩
  · cases hStep; exact ⟨_, _, ‹_›, rfl, rfl⟩
  · cases hStep; exact ⟨_, _, ‹_›, rfl, rfl⟩
  · cases hStep
  · cases hStep

theorem pumps_serviceStep [Zero S] {codec : SpeexCodec S K} {e : Event S}
    (hStep : serviceStep codec s e = some s') :
    s'.pumps = s.pumps ++ (dialledBy s e).map (fun _ => .test) ∨
      ∃ i pump pump', e = .pump i ∧ s.pumps[i]? = some pump ∧ inLoop pump = true ∧
        s'.pumps = s.pumps.set i pump' := by
  cases hControl : isControl e with
  | true =>
    left
    rw [(serviceStep_sameMedia hControl hStep).pumps]
    cases e <;> first | exact (List.append_nil _).symm | cases hControl
  | false =>
    cases e with
    | startRecorder ip =>
      left
      rw [startRecorder_step hStep, pumps_startRecorder, dialledBy]
      cases accepted s ip with
      | true => rfl
      | false => exact (List.append_nil _).symm
    | pump i =>
      obtain ⟨pump, pump', hGet, hLoop, hSet⟩ := pumps_pump hStep
      exact Or.inr ⟨i, pump, pump', rfl, hGet, hLoop, hSet⟩
    | packet payload after buffer11 =>
      left
      cases hStep
      rw [LocalCallService.packet]
      split
      · exact (List.append_nil _).symm
      · split <;> exact (List.append_nil _).symm
    | stopRecorder => cases hStep; exact Or.inl (List.append_nil _).symm
    | startPlayer => cases hStep; exact Or.inl (List.append_nil _).symm
    | stopPlayer => cases hStep; exact Or.inl (List.append_nil _).symm
    | audio input => cases hStep; exact Or.inl (List.append_nil _).symm
    | _ => cases hControl

theorem dialledBy_cases (s : LocalCallService S K) (e : Event S) :
    dialledBy s e = [] ∨ ∃ ip, dialledBy s e = [ip] := by
  cases e with
  | startRecorder ip =>
    rw [dialledBy]
    cases accepted s ip with
    | true => exact Or.inr ⟨ip, rfl⟩
    | false => exact Or.inl rfl
  | _ => exact Or.inl rfl

end Steps

theorem LastInLoop.writesBy {s : Pumping S K} (h : LastInLoop s) (e : Event S) :
    ∀ w ∈ writesBy s.service e, w.1 + 1 = w.2 := by
  intro w hw
  cases e with
  | pump i =>
    simp only [Service.writesBy] at hw
    split at hw
    · rename_i data hHolding
      cases List.mem_singleton.mp hw
      exact h.last i _ hHolding rfl
    · cases hw
  | _ => cases hw

theorem lastInLoop_onCreate (state : K) (opened : Option Nat) (outcome : CreateOutcome) :
    LastInLoop (Pumping.onCreate (S := S) state opened outcome) := by
  constructor
  · exact native_onCreate state opened outcome
  · intro i pump hGet
    cases hGet
  · intro w hw
    cases hw

section Runs

variable [Zero S] {codec : SpeexCodec S K} {s s' : Pumping S K} {e : Event S}

theorem startsAlone_iff (hNative : s.service.mRtp.mJavaRtp.isSome = true)
    (hStep : pumpingStep codec s e = some s') :
    StartsAlone s e ↔
      (dialledBy s.service e ≠ [] → ∀ pump ∈ s.service.pumps, inLoop pump = false) := by
  obtain ⟨service, hService, rfl⟩ := Option.map_eq_some_iff.mp hStep
  cases e with
  | startRecorder ip =>
    rw [dialledBy, accepted_eq codec hNative hService]
    cases hFind : mPatternFind ip with
    | true => simp [StartsAlone, hFind]
    | false => simp [StartsAlone, hFind]
  | _ => simp [StartsAlone, dialledBy]

theorem LastInLoop.step (h : LastInLoop s) (hAlone : StartsAlone s e)
    (hStep : pumpingStep codec s e = some s') : LastInLoop s' := by
  have hOut := (startsAlone_iff h.native hStep).mp hAlone
  obtain ⟨service, hService, rfl⟩ := Option.map_eq_some_iff.mp hStep
  constructor
  · exact native_serviceStep h.native hService
  · intro i pump hGet hLoop
    dsimp only at hGet ⊢
    obtain hAppend | ⟨j, old, new, -, hOld, hOldLoop, hSet⟩ := pumps_serviceStep hService
    · rw [hAppend] at hGet ⊢
      obtain hNone | ⟨ip, hDialled⟩ := dialledBy_cases s.service e
      · rw [hNone, List.map_nil, List.append_nil] at hGet ⊢
        exact h.last i pump hGet hLoop
      · rw [hDialled, List.map_singleton] at hGet ⊢
        obtain hLt | hGe := Nat.lt_or_ge i s.service.pumps.length
        · -- the other threads had left their loops before this start
          rw [List.getElem?_append_left hLt] at hGet
          have hEnded := hOut (by rw [hDialled]; exact List.cons_ne_nil ip [])
            pump (List.mem_of_getElem? hGet)
          rw [hEnded] at hLoop
          cases hLoop
        · obtain ⟨hBound, -⟩ := List.getElem?_eq_some_iff.mp hGet
          rw [List.length_append, List.length_singleton] at hBound ⊢
          omega
    · rw [hSet] at hGet ⊢
      rw [List.length_set]
      by_cases hSame : j = i
      · subst hSame
        exact h.last j old hOld hOldLoop
      · rw [List.getElem?_set_ne hSame] at hGet
        exact h.last i pump hGet hLoop
  · intro w hw
    rcases List.mem_append.mp hw with hw | hw
    · exact h.latest w hw
    · exact h.writesBy e w hw

theorem startsAlone_of_onePump (hLast : LastInLoop s) (h : OnePump s')
    (hStep : pumpingStep codec s e = some s') : StartsAlone s e := by
  rw [startsAlone_iff hLast.native hStep]
  intro hDialled pump hMem
  obtain ⟨service, hService, rfl⟩ := Option.map_eq_some_iff.mp hStep
  obtain hNone | ⟨ip, hIp⟩ := dialledBy_cases s.service e
  · exact absurd hNone hDialled
  · obtain hAppend | ⟨i, _, _, rfl, -⟩ := pumps_serviceStep hService
    · have hOne := h.one
      dsimp only at hOne
      rw [hAppend, hIp, List.map_singleton, List.countP_append, List.countP_singleton] at hOne
      have hNobody : s.service.pumps.countP inLoop = 0 := by
        simp only [inLoop, if_true] at hOne
        omega
      exact Bool.eq_false_iff.mpr (List.countP_eq_zero.mp hNobody pump hMem)
    · exact absurd rfl hDialled

theorem onePump_step (hLast : LastInLoop s) (hStep : pumpingStep codec s e = some s') :
    OnePump s' ↔ StartsAlone s e := by
  constructor
  · intro hOne
    exact startsAlone_of_onePump hLast hOne hStep
  · intro hAlone
    exact (hLast.step hAlone hStep).onePump

/-- One pump at a time, and none that writes after a later start, exactly when no start comes
before the threads of the earlier ones have seen `stopRecorder` set. -/
theorem always_onePump_iff (codec : SpeexCodec S K) (state : K) (opened : Option Nat)
    (outcome : CreateOutcome) (events : List (Event S)) :
    Always (pumpingStep codec) OnePump (Pumping.onCreate state opened outcome) events ↔
      Meets (pumpingStep codec) StartsAlone (Pumping.onCreate state opened outcome) events := by
  have hFirst := lastInLoop_onCreate (S := S) state opened outcome
  apply always_iff_meets _ _ hFirst hFirst.onePump
  · intro s e s' hLast _ hStep hOne
    exact hLast.step (startsAlone_of_onePump hLast hOne hStep) hStep
  · intro s e s' hLast _ hStep
    exact onePump_step hLast hStep

end Runs

/-- The first pump has passed its test when `stopRecorder` is called, and the next start comes
before it looks again: it is at the read beside the second one, and writes the frame. -/
def quickRestart : List (Event Nat) :=
  [.startRecorder "192.168.1.2".toList, .pump 0, .stopRecorder,
    .startRecorder "192.168.1.3".toList, .audio ⟨true, List.replicate 160 7⟩, .pump 1, .pump 0,
    .pump 0]

theorem not_always_onePump_quickRestart :
    ¬ Always (pumpingStep (silentCodec Nat)) OnePump
      (Pumping.onCreate () (some 5000) (.created 0 0 0)) quickRestart := by
  intro hAlways
  have hRun : ((run (pumpingStep (silentCodec Nat))
      (Pumping.onCreate () (some 5000) (.created 0 0 0)) quickRestart).map fun s =>
        (s.service.pumps, s.writes)) = some ([.test, .read], [(0, 2)]) := by
    decide +kernel
  obtain ⟨s, hReached, hEnd⟩ := Option.map_eq_some_iff.mp hRun
  obtain ⟨-, hWrites⟩ := Prod.mk.inj hEnd
  have hEarlier := (hAlways.last hReached).latest (0, 2) (by rw [hWrites]; exact List.mem_cons_self)
  cases hEarlier

end LocalCall.Service
