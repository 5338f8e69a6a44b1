import Mathlib.Algebra.Ring.Int.Defs
import LocalCall.Utils.AudioPlayback

/-! # The devices the audio thread constructs and releases

Beside the state stands the ledger: which of the numbered devices were tracks and which were
recorders. A device that does not come up makes the start throw, and the exception leaves the
loop: its handler stands outside the `while`. The `finally` block then stops only devices that
are initialised.
-/
namespace LocalCall.Utils.AudioDevices
open Data AudioSync
set_option autoImplicit false

variable {S : Type}

structure Ledger (S : Type) where
  audio : AudioSync S
  tracks : List Nat
  recorders : List Nat
  deriving DecidableEq

inductive Step (S : Type) where
  | command (cmd : Command)
  | interrupt
  | iterate (input : AudioInput S)
  | writeDataToPlayer (data : List S)
  | readDataFromRecorder

/-- The command that the next turn of the loop processes by constructing a device. -/
def constructs (a : AudioSync S) : Option Command :=
  if a.ended || a.interrupted then none
  else
    match a.mCommandQueue.head? with
    | some .startPlayer => if active a.mAudioTrack then none else some .startPlayer
    | some .startRecorder => if active a.mAudioRecord then none else some .startRecorder
    | _ => none

def tracksAfter (a : AudioSync S) (tracks : List Nat) : List Nat :=
  if constructs a = some .startPlayer then tracks ++ [a.constructed] else tracks

def recordersAfter (a : AudioSync S) (recorders : List Nat) : List Nat :=
  if constructs a = some .startRecorder then recorders ++ [a.constructed] else recorders

def step [Zero S] (s : Ledger S) : Step S → Option (Ledger S)
  | .command cmd => some { s with audio := s.audio.offer cmd }
  | .interrupt => some { s with audio := s.audio.interrupt }
  | .iterate input =>
    some {
      audio := s.audio.iterate input
      tracks := tracksAfter s.audio s.tracks
      recorders := recordersAfter s.audio s.recorders }
  | .writeDataToPlayer data => some { s with audio := s.audio.writeDataToPlayer data }
  | .readDataFromRecorder => some { s with audio := s.audio.readDataFromRecorder.2 }

def start : Ledger S := ⟨.new, [], []⟩

def unreleased (devices released : List Nat) : List Nat :=
  devices.filter fun n => !released.contains n

/-- Only an interruption ends the loop, each kind of device has at most one that is not released,
and when the loop has ended all have been. -/
structure Accounted (s : Ledger S) : Prop where
  ended : s.audio.ended = true → s.audio.interrupted = true
  one_track : (unreleased s.tracks s.audio.released).length ≤ 1
  one_recorder : (unreleased s.recorders s.audio.released).length ≤ 1
  all_released : s.audio.ended = true → ∀ n < s.audio.constructed, n ∈ s.audio.released

def ComesUp (s : Ledger S) : Step S → Prop
  | .iterate input => constructs s.audio ≠ none → input.comesUp = true
  | _ => True

/-- The only unreleased device of its kind is the one at hand, and it came up. -/
structure AtHand (device : Option Device) (devices released : List Nat) : Prop where
  up : ∀ d, device = some d → d.initialized = true
  unreleased : unreleased devices released = device.toList.map Device.number

structure Inv (a : AudioSync S) (tracks recorders : List Nat) : Prop where
  numbered : (tracks ++ recorders).Perm (List.range a.constructed)
  released_lt : ∀ n ∈ a.released, n < a.constructed
  track : AtHand a.mAudioTrack tracks a.released
  recorder : AtHand a.mAudioRecord recorders a.released

/-- What a loop that ended has left. -/
def Stopped (a : AudioSync S) : Prop :=
  a.ended = true → a.interrupted = true ∧ a.mAudioTrack = none ∧ a.mAudioRecord = none

def Sound (s : Ledger S) : Prop := Inv s.audio s.tracks s.recorders ∧ Stopped s.audio

section Devices

variable {device : Option Device} {devices released : List Nat} {n : Nat}

theorem AtHand.construct (h : AtHand none devices released) (hNew : n ∉ released) :
    AtHand (some ⟨n, true⟩) (devices ++ [n]) released := by
  constructor
  · rintro d ⟨⟩
    rfl
  · have hLast : [n].filter (fun n => !released.contains n) = [n] :=
      List.filter_eq_self.mpr (by simpa using hNew)
    have hNone := h.unreleased
    rw [AudioDevices.unreleased] at hNone ⊢
    rw [List.filter_append, hNone, hLast]
    rfl

theorem AtHand.other (h : AtHand device devices released) (hOther : n ∉ devices) :
    AtHand device devices (released ++ [n]) := by
  refine ⟨h.up, Eq.trans ?_ h.unreleased⟩
  apply List.filter_congr
  intro m hm
  have hNe : m ≠ n := fun hEq => hOther (hEq ▸ hm)
  simp [hNe]

theorem AtHand.release {d : Device} (h : AtHand (some d) devices released) :
    AtHand none devices (released ++ [d.number]) := by
  refine ⟨fun d hd => (nomatch hd), List.filter_eq_nil_iff.mpr fun m hm hOpen => ?_⟩
  have hOpen' : m ∉ released ∧ m ≠ d.number := by simpa using hOpen
  have hMem : m ∈ AudioDevices.unreleased devices released :=
    List.mem_filter.mpr ⟨hm, by simpa using hOpen'.1⟩
  rw [h.unreleased] at hMem
  exact hOpen'.2 (List.mem_singleton.mp hMem)

theorem AtHand.mem {d : Device} (h : AtHand (some d) devices released) : d.number ∈ devices := by
  have hMem : d.number ∈ AudioDevices.unreleased devices released := by
    rw [h.unreleased]
    exact List.mem_singleton_self _
  exact (List.mem_filter.mp hMem).1

theorem AtHand.eq_none (h : AtHand device devices released) (hActive : active device = false) :
    device = none := by
  cases device with
  | none => rfl
  | some d =>
    rw [active, Option.any_some, h.up d rfl] at hActive
    cases hActive

theorem AtHand.length_le (h : AtHand device devices released) :
    (AudioDevices.unreleased devices released).length ≤ 1 := by
  rw [h.unreleased, List.length_map]
  cases device with
  | none => exact Nat.zero_le 1
  | some d => exact Nat.le_refl 1

end Devices

section Thread

variable {a : AudioSync S} {tracks recorders : List Nat}

theorem Inv.lt_of_mem (h : Inv a tracks recorders) {n : Nat} (hn : n ∈ tracks ++ recorders) :
    n < a.constructed :=
  List.mem_range.mp (h.numbered.mem_iff.mp hn)

theorem Inv.apart (h : Inv a tracks recorders) {n : Nat} (hTrack : n ∈ tracks) :
    n ∉ recorders := by
  obtain ⟨-, -, hApart⟩ := List.nodup_append.mp (h.numbered.nodup_iff.mpr List.nodup_range)
  exact fun hRecorder => hApart n hTrack n hRecorder rfl

theorem Inv.fresh (h : Inv a tracks recorders) : a.constructed ∉ a.released :=
  fun hMem => Nat.lt_irrefl _ (h.released_lt _ hMem)

theorem Inv.stopAudioPlayer (h : Inv a tracks recorders) :
    Inv a.stopAudioPlayer tracks recorders ∧ a.stopAudioPlayer.mAudioTrack = none ∧
      a.stopAudioPlayer.mAudioRecord = a.mAudioRecord := by
  rw [AudioSync.stopAudioPlayer]
  have hTrack := h.track
  cases hDevice : a.mAudioTrack with
  | none => exact ⟨h, hDevice, rfl⟩
  | some d =>
    rw [hDevice] at hTrack
    dsimp only
    rw [hTrack.up d rfl, if_pos rfl]
    refine ⟨⟨h.numbered, ?_, hTrack.release, h.recorder.other (h.apart hTrack.mem)⟩, rfl, rfl⟩
    intro n hn
    rcases List.mem_append.mp hn with hn | hn
    · exact h.released_lt n hn
    · rw [List.mem_singleton.mp hn]
      exact h.lt_of_mem (List.mem_append_left _ hTrack.mem)

theorem Inv.stopAudioRecorder (h : Inv a tracks recorders) :
    Inv a.stopAudioRecorder tracks recorders ∧ a.stopAudioRecorder.mAudioRecord = none ∧
      a.stopAudioRecorder.mAudioTrack = a.mAudioTrack := by
  rw [AudioSync.stopAudioRecorder]
  have hRecorder := h.recorder
  cases hDevice : a.mAudioRecord with
  | none => exact ⟨h, hDevice, rfl⟩
  | some d =>
    rw [hDevice] at hRecorder
    dsimp only
    rw [hRecorder.up d rfl, if_pos rfl]
    refine ⟨⟨h.numbered, ?_, h.track.other fun hTrack => h.apart hTrack hRecorder.mem,
      hRecorder.release⟩, rfl, rfl⟩
    intro n hn
    rcases List.mem_append.mp hn with hn | hn
    · exact h.released_lt n hn
    · rw [List.mem_singleton.mp hn]
      exact h.lt_of_mem (List.mem_append_right _ hRecorder.mem)

def SameDevices (a a' : AudioSync S) : Prop :=
  a'.mAudioTrack = a.mAudioTrack ∧ a'.mAudioRecord = a.mAudioRecord ∧
    a'.constructed = a.constructed ∧ a'.released = a.released ∧ a'.ended = a.ended ∧
    a'.interrupted = a.interrupted

theorem sameDevices_processPlayerData (a : AudioSync S) : SameDevices a a.processPlayerData := by
  rw [SameDevices, processPlayerData]
  split
  · exact ⟨rfl, rfl, rfl, rfl, rfl, rfl⟩
  · split <;> exact ⟨rfl, rfl, rfl, rfl, rfl, rfl⟩

theorem sameDevices_processRecoderData [Zero S] (captured : List S) (a : AudioSync S) :
    SameDevices a (a.processRecoderData captured) := by
  rw [SameDevices, processRecoderData]
  split
  · dsimp only
    split
    · split <;> exact ⟨rfl, rfl, rfl, rfl, rfl, rfl⟩
    · exact ⟨rfl, rfl, rfl, rfl, rfl, rfl⟩
  · exact ⟨rfl, rfl, rfl, rfl, rfl, rfl⟩

theorem sameDevices_writeDataToPlayer [Zero S] (data : List S) (a : AudioSync S) :
    SameDevices a (a.writeDataToPlayer data) := by
  rw [SameDevices, writeDataToPlayer]
  split
  · dsimp only
    split <;> exact ⟨rfl, rfl, rfl, rfl, rfl, rfl⟩
  · exact ⟨rfl, rfl, rfl, rfl, rfl, rfl⟩

theorem sameDevices_readDataFromRecorder (a : AudioSync S) :
    SameDevices a a.readDataFromRecorder.2 := by
  rw [SameDevices, readDataFromRecorder]
  split <;> exact ⟨rfl, rfl, rfl, rfl, rfl, rfl⟩

theorem Inv.constructTrack (h : Inv a tracks recorders) (hNone : a.mAudioTrack = none) :
    Inv { a with mAudioTrack := some ⟨a.constructed, true⟩, constructed := a.constructed + 1 }
      (tracks ++ [a.constructed]) recorders := by
  have hTrack := h.track
  rw [hNone] at hTrack
  refine ⟨?_, fun n hn => Nat.lt_succ_of_lt (h.released_lt n hn), hTrack.construct h.fresh,
    h.recorder⟩
  rw [List.range_succ, List.append_assoc]
  exact (List.perm_append_comm.append_left tracks).trans
    (by rw [← List.append_assoc]; exact h.numbered.append_right _)

theorem Inv.constructRecorder (h : Inv a tracks recorders) (hNone : a.mAudioRecord = none) :
    Inv { a with mAudioRecord := some ⟨a.constructed, true⟩, constructed := a.constructed + 1 }
      tracks (recorders ++ [a.constructed]) := by
  have hRecorder := h.recorder
  rw [hNone] at hRecorder
  refine ⟨?_, fun n hn => Nat.lt_succ_of_lt (h.released_lt n hn), h.track,
    hRecorder.construct h.fresh⟩
  rw [List.range_succ, ← List.append_assoc]
  exact h.numbered.append_right _

theorem after_of_constructs_none (hNone : constructs a = none) :
    tracksAfter a tracks = tracks ∧ recordersAfter a recorders = recorders := by
  have hNeither (cmd : Command) : constructs a ≠ some cmd := by
    rw [hNone]
    exact (Option.some_ne_none cmd).symm
  exact ⟨if_neg (hNeither .startPlayer), if_neg (hNeither .startRecorder)⟩

theorem constructs_of_running (hRunning : a.Running) :
    constructs a = match a.mCommandQueue.head? with
      | some .startPlayer => if active a.mAudioTrack then none else some .startPlayer
      | some .startRecorder => if active a.mAudioRecord then none else some .startRecorder
      | _ => none := by
  rw [constructs, hRunning.1, hRunning.2]
  rfl

/-- The command of a turn, when what it constructs comes up. -/
theorem Inv.processNext (h : Inv a tracks recorders) (hRunning : a.Running) {comesUp : Bool}
    (hUp : constructs a ≠ none → comesUp = true) :
    ∃ a', processNext comesUp a = .ok a' ∧
      Inv a' (tracksAfter a tracks) (recordersAfter a recorders) ∧ a'.Running := by
  have hHead := constructs_of_running hRunning
  obtain ⟨hEnded, hInterrupted⟩ := hRunning
  rw [AudioSync.processNext]
  cases hQueue : a.mCommandQueue with
  | nil =>
    rw [hQueue] at hHead
    obtain ⟨hTracks, hRecorders⟩ := after_of_constructs_none hHead
    rw [hTracks, hRecorders]
    exact ⟨a, rfl, h, hEnded, hInterrupted⟩
  | cons cmd rest =>
    rw [hQueue, List.head?_cons] at hHead
    have hRest : Inv { a with mCommandQueue := rest } tracks recorders := { h with }
    cases cmd with
    | startPlayer =>
      dsimp only [processCommand, startAudioPlayer]
      cases hActive : active a.mAudioTrack with
      | true =>
        rw [hActive] at hHead
        obtain ⟨hTracks, hRecorders⟩ := after_of_constructs_none hHead
        rw [hTracks, hRecorders]
        exact ⟨_, rfl, hRest, hEnded, hInterrupted⟩
      | false =>
        rw [hActive] at hHead
        have hConstructs : constructs a = some .startPlayer := hHead
        have hSome : constructs a ≠ none := hConstructs ▸ Option.some_ne_none _
        rw [hUp hSome, tracksAfter, recordersAfter, hConstructs]
        exact ⟨_, rfl, hRest.constructTrack (h.track.eq_none hActive), hEnded, hInterrupted⟩
    | stopPlayer =>
      obtain ⟨hTracks, hRecorders⟩ := after_of_constructs_none hHead
      rw [hTracks, hRecorders]
      obtain ⟨-, hE, hI⟩ := stopAudioPlayer_frame { a with mCommandQueue := rest }
      exact ⟨_, rfl, hRest.stopAudioPlayer.1, hE.trans hEnded, hI.trans hInterrupted⟩
    | startRecorder =>
      dsimp only [processCommand, startAudioRecorder]
      cases hActive : active a.mAudioRecord with
      | true =>
        rw [hActive] at hHead
        obtain ⟨hTracks, hRecorders⟩ := after_of_constructs_none hHead
        rw [hTracks, hRecorders]
        exact ⟨_, rfl, hRest, hEnded, hInterrupted⟩
      | false =>
        rw [hActive] at hHead
        have hConstructs : constructs a = some .startRecorder := hHead
        have hSome : constructs a ≠ none := hConstructs ▸ Option.some_ne_none _
        rw [hUp hSome, tracksAfter, recordersAfter, hConstructs]
        exact ⟨_, rfl, hRest.constructRecorder (h.recorder.eq_none hActive), hEnded, hInterrupted⟩
    | stopRecorder =>
      obtain ⟨hTracks, hRecorders⟩ := after_of_constructs_none hHead
      rw [hTracks, hRecorders]
      obtain ⟨-, hE, hI⟩ := stopAudioRecorder_frame { a with mCommandQueue := rest }
      exact ⟨_, rfl, hRest.stopAudioRecorder.1, hE.trans hEnded, hI.trans hInterrupted⟩
    | default =>
      obtain ⟨hTracks, hRecorders⟩ := after_of_constructs_none hHead
      rw [hTracks, hRecorders]
      exact ⟨_, rfl, hRest, hEnded, hInterrupted⟩

theorem Inv.sameDevices (h : Inv a tracks recorders) {a' : AudioSync S}
    (hSame : SameDevices a a') : Inv a' tracks recorders := by
  obtain ⟨hTrack, hRecord, hConstructed, hReleased, -⟩ := hSame
  refine ⟨?_, ?_, ?_, ?_⟩
  · rw [hConstructed]
    exact h.numbered
  · rw [hConstructed, hReleased]
    exact h.released_lt
  · rw [hTrack, hReleased]
    exact h.track
  · rw [hRecord, hReleased]
    exact h.recorder

theorem Inv.finish (h : Inv a tracks recorders) :
    Inv a.finish tracks recorders ∧ a.finish.mAudioTrack = none ∧ a.finish.mAudioRecord = none := by
  have hCleared : Inv { a with
    mCommandQueue := []
    mInputFrameBufferQueue := a.mInputFrameBufferQueue.reset.clear
    mOutputFrameBufferQueue := a.mOutputFrameBufferQueue.reset.clear
    ended := true } tracks recorders := { h with }
  obtain ⟨hPlayer, hTrack, -⟩ := hCleared.stopAudioPlayer
  obtain ⟨hRecorder, hRecord, hSame⟩ := hPlayer.stopAudioRecorder
  exact ⟨hRecorder, hSame.trans hTrack, hRecord⟩

theorem finish_frame (a : AudioSync S) :
    a.finish.ended = true ∧ a.finish.interrupted = a.interrupted := by
  rw [AudioSync.finish]
  obtain ⟨-, hEnded, hInterrupted⟩ := stopAudioPlayer_frame { a with
    mCommandQueue := []
    mInputFrameBufferQueue := a.mInputFrameBufferQueue.reset.clear
    mOutputFrameBufferQueue := a.mOutputFrameBufferQueue.reset.clear
    ended := true }
  obtain ⟨-, hEnded', hInterrupted'⟩ := stopAudioRecorder_frame (AudioSync.stopAudioPlayer { a with
    mCommandQueue := []
    mInputFrameBufferQueue := a.mInputFrameBufferQueue.reset.clear
    mOutputFrameBufferQueue := a.mOutputFrameBufferQueue.reset.clear
    ended := true })
  exact ⟨hEnded'.trans hEnded, hInterrupted'.trans hInterrupted⟩

/-- A device that does not come up throws out of the turn. -/
theorem processNext_down (h : constructs a ≠ none) :
    a.Running ∧ ∃ a', processNext false a = .error a' ∧ a'.interrupted = a.interrupted := by
  rw [constructs] at h
  cases hEnded : a.ended with
  | true => rw [hEnded] at h; exact absurd rfl h
  | false =>
    cases hInterrupted : a.interrupted with
    | true => rw [hEnded, hInterrupted] at h; exact absurd rfl h
    | false =>
      refine ⟨⟨hEnded, hInterrupted⟩, ?_⟩
      rw [hEnded, hInterrupted] at h
      rw [processNext]
      cases hQueue : a.mCommandQueue with
      | nil => rw [hQueue] at h; exact absurd rfl h
      | cons cmd rest =>
        rw [hQueue] at h
        dsimp only [List.head?_cons] at h
        cases cmd with
        | startPlayer =>
          dsimp only [processCommand, startAudioPlayer] at h ⊢
          cases hActive : active a.mAudioTrack with
          | true => rw [hActive] at h; exact absurd rfl h
          | false => exact ⟨_, rfl, hInterrupted⟩
        | startRecorder =>
          dsimp only [processCommand, startAudioRecorder] at h ⊢
          cases hActive : active a.mAudioRecord with
          | true => rw [hActive] at h; exact absurd rfl h
          | false => exact ⟨_, rfl, hInterrupted⟩
        | stopPlayer => exact absurd rfl h
        | stopRecorder => exact absurd rfl h
        | default => exact absurd rfl h

end Thread

section Runs

variable {s s' : Ledger S} {e : Step S}

theorem Sound.sameDevices (h : Sound s) {a : AudioSync S} (hSame : SameDevices s.audio a) :
    Sound { s with audio := a } := by
  obtain ⟨hInv, hStopped⟩ := h
  refine ⟨hInv.sameDevices hSame, fun hOver => ?_⟩
  obtain ⟨hTrack, hRecord, -, -, hEnded, hInterrupted⟩ := hSame
  rw [hEnded] at hOver
  dsimp only
  rw [hInterrupted, hTrack, hRecord]
  exact hStopped hOver

theorem Sound.accounted (h : Sound s) : Accounted s := by
  obtain ⟨hInv, hStopped⟩ := h
  refine ⟨fun hOver => (hStopped hOver).1, hInv.track.length_le, hInv.recorder.length_le, ?_⟩
  intro hOver n hn
  obtain ⟨-, hTrack, hRecord⟩ := hStopped hOver
  have hMem : n ∈ s.tracks ++ s.recorders := hInv.numbered.mem_iff.mpr (List.mem_range.mpr hn)
  have hReleased {device : Option Device} {devices : List Nat}
      (hAt : AtHand device devices s.audio.released) (hNone : device = none) (hIn : n ∈ devices) :
      n ∈ s.audio.released := by
    have hNil := hAt.unreleased
    rw [hNone] at hNil
    by_contra hNot
    exact List.filter_eq_nil_iff.mp hNil n hIn (by simpa using hNot)
  rcases List.mem_append.mp hMem with hIn | hIn
  · exact hReleased hInv.track hTrack hIn
  · exact hReleased hInv.recorder hRecord hIn

theorem sound_start : Sound (start : Ledger S) := by
  refine ⟨⟨List.Perm.refl _, ?_, ?_, ?_⟩, fun hOver => nomatch hOver⟩
  · exact fun n hn => absurd hn List.not_mem_nil
  · exact ⟨fun d hd => (nomatch hd), rfl⟩
  · exact ⟨fun d hd => (nomatch hd), rfl⟩

variable [Zero S]

theorem Sound.iterate (h : Sound s) (input : AudioInput S)
    (hUp : constructs s.audio ≠ none → input.comesUp = true) :
    Sound ⟨s.audio.iterate input, tracksAfter s.audio s.tracks,
      recordersAfter s.audio s.recorders⟩ := by
  obtain ⟨hInv, hStopped⟩ := h
  cases hEnded : s.audio.ended with
  | true =>
    obtain ⟨hTracks, hRecorders⟩ := after_of_constructs_none (by rw [constructs, hEnded]; rfl)
    have hSame : s.audio.iterate input = s.audio := by rw [AudioSync.iterate, hEnded]; rfl
    rw [hTracks, hRecorders, hSame]
    exact ⟨hInv, hStopped⟩
  | false =>
    cases hInterrupted : s.audio.interrupted with
    | true =>
      obtain ⟨hTracks, hRecorders⟩ := after_of_constructs_none (by
        rw [constructs, hEnded, hInterrupted]
        rfl)
      have hFinish : s.audio.iterate input = s.audio.finish := by
        rw [AudioSync.iterate, hEnded, hInterrupted]
        rfl
      rw [hTracks, hRecorders, hFinish]
      obtain ⟨hInv', hTrack, hRecord⟩ := hInv.finish
      obtain ⟨-, hStill⟩ := finish_frame s.audio
      exact ⟨hInv', fun _ => ⟨hStill.trans hInterrupted, hTrack, hRecord⟩⟩
    | false =>
      obtain ⟨a, hOk, hNext, hE, hI⟩ := hInv.processNext ⟨hEnded, hInterrupted⟩ hUp
      have hTurn : s.audio.iterate input =
          (a.processPlayerData).processRecoderData input.captured := by
        simp only [AudioSync.iterate, hEnded, hInterrupted, hOk, Bool.false_eq_true, if_false]
      have hPlayer := sameDevices_processPlayerData a
      have hRecorder := sameDevices_processRecoderData input.captured a.processPlayerData
      rw [hTurn]
      refine ⟨(hNext.sameDevices hPlayer).sameDevices hRecorder, fun hOver => ?_⟩
      obtain ⟨-, -, -, -, hE₁, -⟩ := hPlayer
      obtain ⟨-, -, -, -, hE₂, -⟩ := hRecorder
      rw [hE₂, hE₁, hE] at hOver
      cases hOver

theorem Sound.step (h : Sound s) (hUp : ComesUp s e) (hStep : step s e = some s') : Sound s' := by
  cases e with
  | command cmd =>
    cases hStep
    exact h.sameDevices ⟨rfl, rfl, rfl, rfl, rfl, rfl⟩
  | interrupt =>
    cases hStep
    exact ⟨{ h.1 with }, fun hOver => ⟨rfl, (h.2 hOver).2⟩⟩
  | iterate input =>
    cases hStep
    exact h.iterate input hUp
  | writeDataToPlayer data =>
    cases hStep
    exact h.sameDevices (sameDevices_writeDataToPlayer data s.audio)
  | readDataFromRecorder =>
    cases hStep
    exact h.sameDevices (sameDevices_readDataFromRecorder s.audio)

theorem ended_of_down {input : AudioInput S} (h : constructs s.audio ≠ none)
    (hDown : input.comesUp = false) :
    (s.audio.iterate input).ended = true ∧ (s.audio.iterate input).interrupted = false := by
  obtain ⟨⟨hEnded, hInterrupted⟩, a, hError, hSame⟩ := processNext_down h
  have hFinish : s.audio.iterate input = a.finish := by
    simp only [AudioSync.iterate, hEnded, hInterrupted, hDown, hError, Bool.false_eq_true, if_false]
  obtain ⟨hOver, hStill⟩ := finish_frame a
  rw [hFinish]
  exact ⟨hOver, hStill.trans (hSame.trans hInterrupted)⟩

theorem accounted_step (h : Sound s) (hStep : step s e = some s') :
    Accounted s' ↔ ComesUp s e := by
  constructor
  · intro hAccounted
    cases e with
    | iterate input =>
      cases hStep
      intro hConstructs
      cases hDown : input.comesUp with
      | true => rfl
      | false =>
        obtain ⟨hOver, hStill⟩ := ended_of_down hConstructs hDown
        have hInterrupted := hAccounted.ended hOver
        rw [hStill] at hInterrupted
        cases hInterrupted
    | command | interrupt | writeDataToPlayer | readDataFromRecorder => trivial
  · intro hUp
    exact (h.step hUp hStep).accounted

end Runs

theorem always_accounted_iff [Zero S] (steps : List (Step S)) :
    Transition.Always step Accounted (start : Ledger S) steps ↔
      Transition.Meets step ComesUp start steps := by
  refine Transition.always_iff_meets ?_ ?_ sound_start sound_start.accounted
  · exact fun hSound _ hStep hNext => hSound.step ((accounted_step hSound hStep).mp hNext) hStep
  · exact fun hSound _ hStep => accounted_step hSound hStep

theorem not_always_accounted_trackDown :
    ¬ Transition.Always step Accounted (start : Ledger Int)
      [.command .startPlayer, .iterate ⟨false, []⟩] := by
  intro hAlways
  have hLast := hAlways.last rfl
  exact absurd (hLast.ended rfl) (by decide)

end LocalCall.Utils.AudioDevices
