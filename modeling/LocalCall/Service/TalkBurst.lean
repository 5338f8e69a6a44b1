import LocalCall.Library.Transition
import LocalCall.Service.LocalCallService
import LocalCall.Utils.AudioSpec

/-! # Which burst a transmitted frame was captured in

The samples carry the number of `startRecorder` calls accepted before they were captured; a sample
of a fresh buffer carries none. Nothing empties the output queue between two bursts, so the frames
of a burst are its own as long as each burst begins with nothing left over.
-/
namespace LocalCall.Service
open Java Jni Utils Transition AudioSync
set_option autoImplicit false

variable {T K : Type}

structure Sample (T : Type) where
  burst : Option Nat
  value : T
  deriving DecidableEq

instance [Zero T] : Zero (Sample T) := ⟨⟨none, 0⟩⟩

/-- An event in which the microphone is read in the given burst. -/
def stamp (burst : Nat) : Event T → Event (Sample T)
  | .startRecorder ip => .startRecorder ip
  | .stopRecorder => .stopRecorder
  | .startPlayer => .startPlayer
  | .stopPlayer => .stopPlayer
  | .connectServer ip port => .connectServer ip port
  | .disconnectServer opened => .disconnectServer opened
  | .pump i => .pump i
  | .audio input => .audio ⟨input.comesUp, input.captured.map fun value => ⟨some burst, value⟩⟩
  | .packet payload after buffer11 =>
    .packet payload after (buffer11.map fun value => ⟨none, value⟩)
  | .sender localIp => .sender localIp
  | .server i answer => .server i answer
  | .connect i answer => .connect i answer
  | .client i answer => .client i answer

/-- The service, the number of bursts begun, and each frame passed to `Rtp.write` with the number
of the burst of that moment. -/
structure Bursts (T K : Type) where
  service : LocalCallService (Sample T) K
  started : Nat
  writes : List (List (Sample T) × Nat)

def Bursts.onCreate (state : K) (opened : Option Nat) (outcome : CreateOutcome) : Bursts T K :=
  ⟨.onCreate state opened outcome, 0, []⟩

def burstStep [Zero T] (codec : SpeexCodec (Sample T) K) (b : Bursts T K) (e : Event T) :
    Option (Bursts T K) :=
  let stamped := stamp b.started e
  (serviceStep codec b.service stamped).map fun service =>
    { service
      started := b.started + (dialledBy b.service stamped).length
      writes := b.writes ++ (writtenBy b.service stamped).map fun x => (x.data, b.started) }

/-- Captured in this burst, or not captured at all. -/
def OfBurst (burst : Nat) (x : Sample T) : Prop := ∀ b, x.burst = some b → b = burst

/-- Each frame was written in the burst in which its samples were captured. -/
def InTime (b : Bursts T K) : Prop := ∀ w ∈ b.writes, ∀ x ∈ w.1, OfBurst w.2 x

def frameOf {S : Type} : Pump S → Option (List S)
  | .holding frame => frame
  | _ => none

/-- Nothing is left of an earlier burst: the queue is empty, and no pump holds a frame. -/
def NothingLeft (s : LocalCallService (Sample T) K) : Prop :=
  s.mAudioSync.mOutputFrameBufferQueue.queue = [] ∧ ∀ pump ∈ s.pumps, frameOf pump = none

def BeginsClean (b : Bursts T K) (e : Event T) : Prop :=
  dialledBy b.service (stamp b.started e) ≠ [] → NothingLeft b.service

section Frames
variable {S : Type} {p : S → Prop}

structure Underway (p : S → Prop) (s : LocalCallService S K) : Prop where
  queued : Outputs p s.mAudioSync
  held : ∀ frame, Pump.holding (some frame) ∈ s.pumps → ∀ x ∈ frame, p x

theorem Underway.congr {s s' : LocalCallService S K} (h : Underway p s)
    (hQueue : s'.mAudioSync.mOutputFrameBufferQueue = s.mAudioSync.mOutputFrameBufferQueue)
    (hPumps : s'.pumps = s.pumps) : Underway p s' :=
  ⟨h.queued.congr hQueue, fun frame hMem => h.held frame (hPumps ▸ hMem)⟩

theorem Underway.set {s s' : LocalCallService S K} (h : Underway p s) (i : Nat) (pump : Pump S)
    (hQueued : Outputs p s'.mAudioSync) (hPumps : s'.pumps = s.pumps.set i pump)
    (hPump : ∀ frame, pump = .holding (some frame) → ∀ x ∈ frame, p x) : Underway p s' := by
  refine ⟨hQueued, fun frame hMem => ?_⟩
  rw [hPumps] at hMem
  rcases List.mem_or_eq_of_mem_set hMem with hMem | hEq
  · exact h.held frame hMem
  · exact hPump frame hEq.symm

theorem Underway.startRecorder {s : LocalCallService S K} (h : Underway p s) (ip : Text) :
    Underway p (s.startRecorder ip).2 := by
  rw [LocalCallService.startRecorder]
  split
  · split
    · exact h.congr rfl rfl
    · refine ⟨h.queued.congr rfl, fun frame hMem => ?_⟩
      rcases List.mem_append.mp hMem with hMem | hMem
      · exact h.held frame hMem
      · cases List.mem_singleton.mp hMem
  · exact h

theorem Underway.pump {s s' : LocalCallService S K} (h : Underway p s) (codec : SpeexCodec S K)
    {i : Nat} (hStep : s.pump codec i = some s') : Underway p s' := by
  rw [LocalCallService.pump] at hStep
  split at hStep
  · cases hStep
    refine h.set i _ h.queued rfl fun frame hFrame => ?_
    split at hFrame <;> cases hFrame
  · cases hStep
    obtain ⟨hLeft, hRead⟩ := h.queued.readDataFromRecorder
    exact h.set i _ hLeft rfl fun frame hFrame => hRead frame (Pump.holding.inj hFrame)
  · cases hStep
    exact h.set i _ h.queued rfl fun frame hFrame => by cases hFrame
  · cases hStep
    exact h.set i _ h.queued rfl fun frame hFrame => by cases hFrame
  · cases hStep
  · cases hStep

theorem Underway.packet [Zero S] {s : LocalCallService S K} (h : Underway p s)
    (codec : SpeexCodec S K) (payload : List UInt8) (after : Nat → UInt8) (buffer11 : List S) :
    Underway p (s.packet codec payload after buffer11) := by
  have hPlayer : ∀ data : List S, (s.mAudioSync.writeDataToPlayer data).mOutputFrameBufferQueue =
      s.mAudioSync.mOutputFrameBufferQueue := by
    intro data
    rw [AudioSync.writeDataToPlayer]
    split
    · dsimp only
      split <;> rfl
    · rfl
  rw [LocalCallService.packet]
  split
  · exact h
  · exact h.congr (hPlayer _) rfl

theorem Underway.step [Zero S] {s s' : LocalCallService S K} (h : Underway p s)
    (codec : SpeexCodec S K) {e : Event S} (hZero : p 0)
    (hCaptured : ∀ input, e = .audio input → ∀ x ∈ input.captured, p x)
    (hStep : serviceStep codec s e = some s') : Underway p s' := by
  cases hControl : isControl e with
  | true =>
    have hSame := serviceStep_sameMedia hControl hStep
    exact h.congr (by rw [hSame.mAudioSync]) hSame.pumps
  | false =>
    cases e with
    | startRecorder ip =>
      rw [startRecorder_step hStep]
      exact h.startRecorder ip
    | stopRecorder => cases hStep; exact h.congr rfl rfl
    | startPlayer => cases hStep; exact h.congr rfl rfl
    | stopPlayer => cases hStep; exact h.congr rfl rfl
    | pump i => exact h.pump codec hStep
    | audio input =>
      cases hStep
      exact ⟨h.queued.iterate hZero (hCaptured input rfl), h.held⟩
    | packet payload after buffer11 =>
      cases hStep
      exact h.packet codec payload after buffer11
    | _ => cases hControl

theorem Underway.written {s : LocalCallService S K} (h : Underway p s) (e : Event S) :
    ∀ w ∈ writtenBy s e, ∀ x ∈ w.data, p x := by
  intro w hw
  cases e with
  | pump i =>
    simp only [writtenBy] at hw
    split at hw
    · rename_i frame hHolding
      cases List.mem_singleton.mp hw
      exact h.held frame (List.mem_of_getElem? hHolding)
    · cases hw
  | _ => cases hw

end Frames

structure Current (b : Bursts T K) : Prop where
  underway : Underway (OfBurst b.started) b.service
  in_time : InTime b

theorem NothingLeft.underway {p : Sample T → Prop} {s : LocalCallService (Sample T) K}
    (h : NothingLeft s) : Underway p s :=
  ⟨Outputs.of_nil h.1, fun _ hMem => (nomatch h.2 _ hMem)⟩

theorem Current.step [Zero T] (codec : SpeexCodec (Sample T) K) {b b' : Bursts T K} {e : Event T}
    (h : Current b) (hClean : BeginsClean b e) (hStep : burstStep codec b e = some b') :
    Current b' := by
  obtain ⟨service, hService, rfl⟩ := Option.map_eq_some_iff.mp hStep
  refine ⟨?_, ?_⟩
  · cases hDialled : dialledBy b.service (stamp b.started e) with
    | nil =>
      refine h.underway.step codec (fun _ hZero => by cases hZero) ?_ hService
      intro input hAudio x hx
      cases e with
      | audio raw =>
        cases hAudio
        obtain ⟨value, _, rfl⟩ := List.mem_map.mp hx
        intro burst hBurst
        exact (Option.some.inj hBurst).symm
      | _ => cases hAudio
    | cons ip ips =>
      -- a burst begins: nothing is underway, and a call that dials captures nothing
      have hLeft := hClean (by rw [hDialled]; exact List.cons_ne_nil ip ips)
      refine hLeft.underway.step codec (fun _ hZero => by cases hZero) ?_ hService
      intro input hAudio
      rw [hAudio] at hDialled
      cases hDialled
  · intro w hw
    rcases List.mem_append.mp hw with hw | hw
    · exact h.in_time w hw
    · obtain ⟨x, hx, rfl⟩ := List.mem_map.mp hw
      exact h.underway.written _ x hx

instance [DecidableEq T] (s : LocalCallService (Sample T) K) : Decidable (NothingLeft s) :=
  inferInstanceAs (Decidable (_ ∧ _))

instance [DecidableEq T] (b : Bursts T K) (e : Event T) : Decidable (BeginsClean b e) :=
  inferInstanceAs (Decidable (_ → _))

end LocalCall.Service
