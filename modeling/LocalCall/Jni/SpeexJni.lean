import Mathlib.Algebra.Ring.Int.Defs
import Mathlib.Algebra.Ring.Nat
import Mathlib.Data.List.Induction
import LocalCall.Java.Jint
import LocalCall.Jni.CustomSpeex
import LocalCall.Library.Transition

/-! # The codec behind the static variables of `speex_jni.cpp`

All callers share one codec, and `codec_open` counts how many have it open. The log holds what the
calls do with the objects of the library, in order: whether an object was there is asked of the
log and not of the state, which goes on as if it were.
-/
namespace LocalCall.Jni
open Java Transition
set_option autoImplicit false

variable {S F K : Type}

/-- The library as this codec sees it, which has the samples as floats too. -/
structure FloatCodec (S F K : Type) extends SpeexCodec S K where
  /-- `speex_encode`, with the bits that it appends to the bit buffer. -/
  encode : K → List F → K × List Bool
  /-- `speex_decode`: what becomes of the output buffer, and the status. -/
  decode : K → List Bool → List F → K × List F × Int
  /-- The states that `open` creates, with the quality that it sets. -/
  init : Int → K
  toFloat : S → F
  toShort : F → S

inductive Resource where
  | ebits | dbits | encoder | decoder | preprocessor
  deriving DecidableEq

/-- `ctl` is a call that sets or gets an option, `divide` the division by `enc_frame_size`, and
`returned` the result of a call that encodes or decodes. -/
inductive Effect (S F : Type) where
  | init (r : Resource)
  | destroy (r : Resource)
  | ctl (r : Resource)
  | divide
  | preprocessRun (samples : List S)
  | reset
  | encodeInt (samples : List S)
  | encode (input : List F)
  | write
  | readFrom
  | decodeInt
  | decode
  | returned (ret : Int)
  deriving DecidableEq

structure SpeexJni (S F K : Type) where
  codecOpen : Int
  decFrameSize : Nat
  encFrameSize : Nat
  ebits : SpeexBits
  dbits : SpeexBits
  state : K
  log : List (Effect S F)
  deriving DecidableEq

/-- `GetShortArrayRegion`; out of range it throws, and leaves the buffer alone. -/
def getShortArrayRegion (lin : List S) (start : Int) (len : Nat) (buffer : List S) : List S :=
  if 0 ≤ start ∧ start + len ≤ lin.length then (lin.drop start.toNat).take len else buffer

def getByteArrayRegion (encoded : List UInt8) (len : Int) (buffer : Nat → UInt8) : Nat → UInt8 :=
  if 0 ≤ len ∧ len ≤ encoded.length then fun k => encoded[k]?.getD (buffer k) else buffer

/-- `SetByteArrayRegion` and `SetShortArrayRegion`, from the start of the array. -/
def setArrayRegion {α : Type} (array new : List α) : List α :=
  if new.length ≤ array.length then new ++ array.drop new.length else array

namespace SpeexJni

def loaded (state : K) : SpeexJni S F K where
  codecOpen := 0
  decFrameSize := 0
  encFrameSize := 0
  ebits := ⟨[], 0, false⟩
  dbits := ⟨[], 0, false⟩
  state := state
  log := []

def record (effects : List (Effect S F)) (c : SpeexJni S F K) : SpeexJni S F K :=
  { c with log := c.log ++ effects }

def opening : List (Effect S F) :=
  [.init .ebits, .init .dbits, .init .encoder, .init .decoder, .ctl .encoder, .ctl .encoder,
    .ctl .decoder, .init .preprocessor, .ctl .preprocessor, .ctl .preprocessor,
    .ctl .preprocessor, .ctl .preprocessor, .ctl .preprocessor]

def closing : List (Effect S F) :=
  [.destroy .ebits, .destroy .dbits, .destroy .decoder, .destroy .encoder, .destroy .preprocessor]

def speexOpen (codec : FloatCodec S F K) (compression : Int) (c : SpeexJni S F K) :
    SpeexJni S F K × Int :=
  let codecOpen := wrap (c.codecOpen + 1)
  if c.codecOpen ≠ 0 then ({ c with codecOpen }, 0)
  else
    ({ c with
        codecOpen
        ebits := .new
        dbits := .new
        state := codec.init compression
        encFrameSize := CustomSpeex.nbFrameSize
        decFrameSize := CustomSpeex.nbFrameSize
        log := c.log ++ opening }, 0)

def speexClose (c : SpeexJni S F K) : SpeexJni S F K :=
  let c := { c with codecOpen := wrap (c.codecOpen - 1) }
  if c.codecOpen ≠ 0 then c else c.record closing

/-- The buffers on the stack hold whatever lies there: `stack` is what `buffer` starts with. The
number of frames is computed, and not used. -/
def speexEncode (codec : FloatCodec S F K) (stack lin : List S) (offset : Int)
    (encoded : List UInt8) (size : Int) (c : SpeexJni S F K) : SpeexJni S F K × List UInt8 × Int :=
  let c := c.record [.divide]
  if c.codecOpen = 0 then (c.record [.returned 0], encoded, 0)
  else if size ≠ c.encFrameSize then (c.record [.returned 0], encoded, 0)
  else
    let buffer := getShortArrayRegion lin offset c.encFrameSize stack
    let (state, bits) := codec.encodeInt c.state buffer []
    let ebits := { c.ebits.reset with bits }
    let out := ebits.write c.encFrameSize
    let c := { c with state, ebits }
    (c.record [.reset, .encodeInt buffer, .write, .returned out.length],
      setArrayRegion encoded out, out.length)

/-- The loop over the samples, which counts in the variable of the loop over the frames. -/
def copyInput (toFloat : S → F) (buffer : List S) : Nat → Nat → List F → Nat × List F
  | 0, i, input => (i, input)
  | left + 1, i, input =>
    copyInput toFloat buffer left (i + 1) (input ++ (buffer[i]?.map toFloat).toList)

structure EncodeLoop (S F K : Type) where
  i : Nat
  buffer : List S
  c : SpeexJni S F K

/-- The body of the loop and its `i++`; none when a frame without speech makes the call return. -/
def encodeTurn (codec : FloatCodec S F K) (lin : List S) (offset : Int) (l : EncodeLoop S F K) :
    SpeexJni S F K × Option (EncodeLoop S F K) :=
  let samples := getShortArrayRegion lin (offset + l.i * l.c.encFrameSize) l.c.encFrameSize l.buffer
  let (state, buffer, vad) := codec.preprocessRun l.c.state samples
  let c := { l.c with state }.record [.preprocessRun samples]
  if vad = 0 then (c, none)
  else
    let (i, input) := copyInput codec.toFloat buffer c.encFrameSize 0 []
    let ebits := c.ebits.reset
    let (state, bits) := codec.encode c.state input
    let ebits := { ebits with bits := ebits.bits ++ bits }
    let c := { c with state, ebits }.record [.reset, .encode input]
    (c, some ⟨i + 1, buffer, c⟩)

/-- The loop over the frames, for at most `fuel` turns: none when it is not over by then, and else
whether it went to its end. -/
def encodeLoop (codec : FloatCodec S F K) (lin : List S) (offset nsamples : Int) :
    Nat → EncodeLoop S F K → SpeexJni S F K × Option Bool
  | fuel, l =>
    if l.i < nsamples then
      match fuel with
      | 0 => (l.c, none)
      | fuel + 1 =>
        match encodeTurn codec lin offset l with
        | (c, none) => (c, some false)
        | (_, some l) => encodeLoop codec lin offset nsamples fuel l
    else (l.c, some true)

/-- The result is none when the fuel does not suffice. -/
def speexEncodeExt (codec : FloatCodec S F K) (fuel : Nat) (stack lin : List S) (offset : Int)
    (encoded : List UInt8) (size : Int) (c : SpeexJni S F K) :
    SpeexJni S F K × List UInt8 × Option Int :=
  let c := c.record [.divide]
  let nsamples := (size - 1).tdiv c.encFrameSize + 1
  if c.codecOpen = 0 then (c.record [.returned 0], encoded, some 0)
  else
    match encodeLoop codec lin offset nsamples fuel ⟨0, stack, c⟩ with
    | (c, none) => (c, encoded, none)
    | (c, some false) => (c.record [.returned 0], encoded, some 0)
    | (c, some true) =>
      let out := c.ebits.write c.encFrameSize
      (c.record [.write, .returned out.length], setArrayRegion encoded out, some out.length)

/-- A size above `dec_frame_size` overruns the buffer, which is not modelled. -/
def speexDecode (codec : FloatCodec S F K) (stack : Nat → UInt8) (output : List S)
    (encoded : List UInt8) (lin : List S) (size : Int) (c : SpeexJni S F K) :
    SpeexJni S F K × List S × Int :=
  if c.codecOpen = 0 then (c.record [.returned 0], lin, 0)
  else
    let dbits := c.dbits.readFrom (getByteArrayRegion encoded size stack) size.toNat
    let (state, output, _) := codec.decodeInt c.state dbits.bits output
    let c := { c with state, dbits }
    (c.record [.readFrom, .decodeInt, .returned c.decFrameSize],
      setArrayRegion lin (output.take c.decFrameSize), c.decFrameSize)

def speexDecodeExt (codec : FloatCodec S F K) (stack : Nat → UInt8) (output : List F)
    (encoded : List UInt8) (lin : List S) (size : Int) (c : SpeexJni S F K) :
    SpeexJni S F K × List S × Int :=
  if c.codecOpen = 0 then (c.record [.returned 0], lin, 0)
  else
    let dbits := c.dbits.readFrom (getByteArrayRegion encoded size stack) size.toNat
    let (state, output, _) := codec.decode c.state dbits.bits output
    let c := { c with state, dbits }
    (c.record [.readFrom, .decode, .returned c.decFrameSize],
      setArrayRegion lin ((output.take c.decFrameSize).map codec.toShort), c.decFrameSize)

def speexGetFrameSize (c : SpeexJni S F K) : Int :=
  if c.codecOpen = 0 then 0 else c.encFrameSize

end SpeexJni

inductive SpeexCall (S F : Type) where
  | speexOpen (compression : Int)
  | speexClose
  | speexEncode (stack lin : List S) (offset : Int) (encoded : List UInt8) (size : Int)
  | speexEncodeExt (fuel : Nat) (stack lin : List S) (offset : Int) (encoded : List UInt8)
      (size : Int)
  | speexDecode (stack : Nat → UInt8) (output : List S) (encoded : List UInt8) (lin : List S)
      (size : Int)
  | speexDecodeExt (stack : Nat → UInt8) (output : List F) (encoded : List UInt8) (lin : List S)
      (size : Int)
  | speexGetFrameSize

namespace SpeexJni

/-- A call that is still in its loop when the fuel is used up is left there, so that what it has
done counts, and the next call may come all the same. -/
def step (codec : FloatCodec S F K) (c : SpeexJni S F K) :
    SpeexCall S F → Option (SpeexJni S F K)
  | .speexOpen compression => some (c.speexOpen codec compression).1
  | .speexClose => some c.speexClose
  | .speexEncode stack lin offset encoded size =>
    some (c.speexEncode codec stack lin offset encoded size).1
  | .speexEncodeExt fuel stack lin offset encoded size =>
    some (c.speexEncodeExt codec fuel stack lin offset encoded size).1
  | .speexDecode stack output encoded lin size =>
    some (c.speexDecode codec stack output encoded lin size).1
  | .speexDecodeExt stack output encoded lin size =>
    some (c.speexDecodeExt codec stack output encoded lin size).1
  | .speexGetFrameSize => some c

end SpeexJni

namespace Effect

def uses : Effect S F → List Resource
  | .ctl r => [r]
  | .divide => [.encoder]
  | .preprocessRun _ => [.preprocessor]
  | .reset | .write => [.ebits]
  | .encodeInt _ | .encode _ => [.encoder, .ebits]
  | .readFrom => [.dbits]
  | .decodeInt | .decode => [.decoder, .dbits]
  | .init _ | .destroy _ | .returned _ => []

def isInit (r : Resource) : Effect S F → Bool
  | .init r' => r' == r
  | _ => false

def isDestroy (r : Resource) : Effect S F → Bool
  | .destroy r' => r' == r
  | _ => false

def Steady : Effect S F → Prop
  | .init _ | .destroy _ => False
  | _ => True

end Effect

/-- A resource is misused for good when it is created twice, destroyed or used without being
there, and when a call returns something other than zero without it. -/
inductive Phase where
  | absent | live | misused
  deriving DecidableEq

def Phase.follow (r : Resource) : Phase → Effect S F → Phase
  | .misused, _ => .misused
  | .absent, .init r' => if r' = r then .live else .absent
  | .live, .init r' => if r' = r then .misused else .live
  | .absent, .destroy r' => if r' = r then .misused else .absent
  | .live, .destroy r' => if r' = r then .absent else .live
  | .live, _ => .live
  | .absent, .returned ret => if ret = 0 then .absent else .misused
  | .absent, e => if r ∈ e.uses then .misused else .absent

def phaseOf (r : Resource) (log : List (Effect S F)) : Phase :=
  log.foldl (Phase.follow r) .absent

namespace SpeexJni

def phase (c : SpeexJni S F K) : Phase := if 0 < c.codecOpen then .live else .absent

/-- Everything is there exactly while the counter is positive, and has been destroyed as often as
it was created otherwise. -/
structure RefCounted (c : SpeexJni S F K) : Prop where
  nonneg : 0 ≤ c.codecOpen
  phaseOf_log : ∀ r, phaseOf r c.log = c.phase
  destroyed : ∀ r, c.log.countP (Effect.isInit r) =
    c.log.countP (Effect.isDestroy r) + if 0 < c.codecOpen then 1 else 0

/-- The counter does not overflow, a close comes after an open that has not been closed, and
nothing is encoded while the codec is closed: the division comes before the test. -/
def Balanced (c : SpeexJni S F K) : SpeexCall S F → Prop
  | .speexOpen _ => c.codecOpen < 2 ^ 31 - 1
  | .speexClose => 0 < c.codecOpen
  | .speexEncode .. | .speexEncodeExt .. => 0 < c.codecOpen
  | .speexDecode .. | .speexDecodeExt .. | .speexGetFrameSize => True

end SpeexJni

section Phases

variable {r : Resource}

theorem phaseOf_append (log effects : List (Effect S F)) :
    phaseOf r (log ++ effects) = effects.foldl (Phase.follow r) (phaseOf r log) :=
  List.foldl_append

theorem follow_misused (effects : List (Effect S F)) :
    effects.foldl (Phase.follow r) .misused = .misused := by
  induction effects with
  | nil => rfl
  | cons e effects ih => exact ih

theorem follow_steady {effects : List (Effect S F)} (h : ∀ e ∈ effects, e.Steady) :
    effects.foldl (Phase.follow r) .live = .live := by
  induction effects with
  | nil => rfl
  | cons e effects ih =>
    have hHere : Phase.follow r .live e = .live := by
      cases e with
      | init r' => exact absurd (h _ List.mem_cons_self) id
      | destroy r' => exact absurd (h _ List.mem_cons_self) id
      | _ => rfl
    rw [List.foldl_cons, hHere]
    exact ih fun e' he' => h e' (List.mem_cons_of_mem e he')

theorem follow_opening (r : Resource) :
    (SpeexJni.opening : List (Effect S F)).foldl (Phase.follow r) .absent = .live := by
  cases r <;> rfl

theorem follow_closing (r : Resource) :
    (SpeexJni.closing : List (Effect S F)).foldl (Phase.follow r) .live = .absent := by
  cases r <;> rfl

/-- An effect that misuses nothing creates what is not there, or destroys what is. -/
theorem follow_counts {p : Phase} {e : Effect S F} (h : p.follow r e ≠ .misused) :
    (if e.isInit r then 1 else 0) + (if p = .live then 1 else 0) =
      (if e.isDestroy r then 1 else 0) + if p.follow r e = .live then 1 else 0 := by
  cases p with
  | misused => exact absurd rfl h
  | absent =>
    cases e with
    | init r' => by_cases hr : r' = r <;> simp [Phase.follow, Effect.isInit, Effect.isDestroy, hr]
    | destroy r' =>
      by_cases hr : r' = r
      · exact absurd (by simp [Phase.follow, hr]) h
      · simp [Phase.follow, Effect.isInit, Effect.isDestroy, hr]
    | _ => simp [Phase.follow, Effect.isInit, Effect.isDestroy, apply_ite (· = Phase.live)]
  | live =>
    cases e with
    | init r' =>
      by_cases hr : r' = r
      · exact absurd (by simp [Phase.follow, hr]) h
      · simp [Phase.follow, Effect.isInit, Effect.isDestroy, hr]
    | destroy r' =>
      by_cases hr : r' = r <;> simp [Phase.follow, Effect.isInit, Effect.isDestroy, hr]
    | _ => simp [Phase.follow, Effect.isInit, Effect.isDestroy]

theorem count_init_eq {log : List (Effect S F)} (h : phaseOf r log ≠ .misused) :
    log.countP (Effect.isInit r) =
      log.countP (Effect.isDestroy r) + if phaseOf r log = .live then 1 else 0 := by
  induction log using List.reverseRecOn with
  | nil => rfl
  | append_singleton log e ih =>
    rw [phaseOf_append, List.foldl_cons, List.foldl_nil] at h ⊢
    have hLog := ih fun hMisused => h (by rw [hMisused]; rfl)
    have hEffect := follow_counts h
    rw [List.countP_append, List.countP_append, List.countP_singleton, List.countP_singleton]
    omega

end Phases

namespace SpeexJni

section Calls

variable {c c' c'' : SpeexJni S F K}

/-- What a call that encodes or decodes does to the codec, whether or not it is open. -/
def Used (c c' : SpeexJni S F K) : Prop :=
  c'.codecOpen = c.codecOpen ∧ c'.encFrameSize = c.encFrameSize ∧
    ∃ effects, (∀ e ∈ effects, Effect.Steady e) ∧ c'.log = c.log ++ effects

theorem Used.refl (c : SpeexJni S F K) : Used c c := ⟨rfl, rfl, [], by simp, by simp⟩

theorem Used.trans (h : Used c c') (h' : Used c' c'') : Used c c'' := by
  obtain ⟨hOpen, hFrame, effects, hSteady, hLog⟩ := h
  obtain ⟨hOpen', hFrame', effects', hSteady', hLog'⟩ := h'
  refine ⟨hOpen'.trans hOpen, hFrame'.trans hFrame, effects ++ effects', ?_,
    by rw [hLog', hLog, List.append_assoc]⟩
  intro e he
  cases List.mem_append.mp he with
  | inl he => exact hSteady e he
  | inr he => exact hSteady' e he

theorem used_record {effects : List (Effect S F)} (h : ∀ e ∈ effects, e.Steady) :
    Used c (c.record effects) := ⟨rfl, rfl, effects, h, rfl⟩

theorem used_speexEncode (codec : FloatCodec S F K) (stack lin : List S) (offset : Int)
    (encoded : List UInt8) (size : Int) (c : SpeexJni S F K) :
    Used c (c.speexEncode codec stack lin offset encoded size).1 := by
  have hDivide : Used c (c.record [.divide]) := used_record (by simp [Effect.Steady])
  refine hDivide.trans ?_
  unfold speexEncode
  dsimp only
  split
  · exact used_record (by simp [Effect.Steady])
  · split
    · exact used_record (by simp [Effect.Steady])
    · exact ⟨rfl, rfl, _, by simp [Effect.Steady], rfl⟩

theorem used_encodeTurn (codec : FloatCodec S F K) (lin : List S) (offset : Int)
    (l : EncodeLoop S F K) : Used l.c (encodeTurn codec lin offset l).1 := by
  unfold encodeTurn
  dsimp only
  split
  · exact ⟨rfl, rfl, _, by simp [Effect.Steady], rfl⟩
  · exact ⟨rfl, rfl, _, by simp [Effect.Steady], List.append_assoc _ _ _⟩

theorem encodeTurn_some {codec : FloatCodec S F K} {lin : List S} {offset : Int}
    {l l' : EncodeLoop S F K} {c : SpeexJni S F K}
    (h : encodeTurn codec lin offset l = (c, some l')) : l'.c = c := by
  unfold encodeTurn at h
  dsimp only at h
  split at h
  · cases h
  · cases h
    rfl

theorem used_encodeLoop (codec : FloatCodec S F K) (lin : List S) (offset nsamples : Int)
    (fuel : Nat) (l : EncodeLoop S F K) :
    Used l.c (encodeLoop codec lin offset nsamples fuel l).1 := by
  induction fuel generalizing l with
  | zero =>
    unfold encodeLoop
    split
    · exact Used.refl _
    · exact Used.refl _
  | succ fuel ih =>
    unfold encodeLoop
    split
    · have hTurn := used_encodeTurn codec lin offset l
      cases hEq : encodeTurn codec lin offset l with
      | mk c next =>
        rw [hEq] at hTurn
        cases next with
        | none => exact hTurn
        | some l' =>
          rw [← encodeTurn_some hEq] at hTurn
          exact hTurn.trans (ih l')
    · exact Used.refl _

theorem used_speexEncodeExt (codec : FloatCodec S F K) (fuel : Nat) (stack lin : List S)
    (offset : Int) (encoded : List UInt8) (size : Int) (c : SpeexJni S F K) :
    Used c (c.speexEncodeExt codec fuel stack lin offset encoded size).1 := by
  have hDivide : Used c (c.record [.divide]) := used_record (by simp [Effect.Steady])
  refine hDivide.trans ?_
  unfold speexEncodeExt
  generalize c.record [.divide] = c
  dsimp only
  split
  · exact used_record (by simp [Effect.Steady])
  · have hLoop := used_encodeLoop codec lin offset ((size - 1).tdiv c.encFrameSize + 1) fuel
      ⟨0, stack, c⟩
    split
    · next hEq =>
      rw [hEq] at hLoop
      exact hLoop
    · next hEq =>
      rw [hEq] at hLoop
      exact hLoop.trans (used_record (by simp [Effect.Steady]))
    · next hEq =>
      rw [hEq] at hLoop
      exact hLoop.trans (used_record (by simp [Effect.Steady]))

theorem used_speexDecode (codec : FloatCodec S F K) (stack : Nat → UInt8) (output : List S)
    (encoded : List UInt8) (lin : List S) (size : Int) (c : SpeexJni S F K) :
    Used c (c.speexDecode codec stack output encoded lin size).1 := by
  unfold speexDecode
  split
  · exact used_record (by simp [Effect.Steady])
  · exact ⟨rfl, rfl, _, by simp [Effect.Steady], rfl⟩

theorem used_speexDecodeExt (codec : FloatCodec S F K) (stack : Nat → UInt8) (output : List F)
    (encoded : List UInt8) (lin : List S) (size : Int) (c : SpeexJni S F K) :
    Used c (c.speexDecodeExt codec stack output encoded lin size).1 := by
  unfold speexDecodeExt
  split
  · exact used_record (by simp [Effect.Steady])
  · exact ⟨rfl, rfl, _, by simp [Effect.Steady], rfl⟩

theorem refCounted_of_phase (h0 : 0 ≤ c.codecOpen) (h : ∀ r, phaseOf r c.log = c.phase) :
    RefCounted c := by
  refine ⟨h0, h, fun r => ?_⟩
  have hPhase := h r
  unfold phase at hPhase
  by_cases hOpen : 0 < c.codecOpen
  · rw [if_pos hOpen] at hPhase ⊢
    rw [count_init_eq (by rw [hPhase]; decide), hPhase, if_pos rfl]
  · rw [if_neg hOpen] at hPhase ⊢
    rw [count_init_eq (by rw [hPhase]; decide), hPhase, if_neg (by decide)]

theorem Used.refCounted (h : Used c c') (hOpen : 0 < c.codecOpen) (hRef : RefCounted c) :
    RefCounted c' := by
  obtain ⟨hEq, -, effects, hSteady, hLog⟩ := h
  refine refCounted_of_phase (by rw [hEq]; exact hRef.nonneg) fun r => ?_
  have hBefore := hRef.phaseOf_log r
  unfold phase at hBefore ⊢
  rw [if_pos hOpen] at hBefore
  rw [hEq, if_pos hOpen, hLog, phaseOf_append, hBefore, follow_steady hSteady]

theorem not_refCounted_of_divide {effects : List (Effect S F)} (hRef : RefCounted c)
    (hOpen : c.codecOpen = 0) (hLog : c'.log = c.log ++ .divide :: effects) : ¬RefCounted c' := by
  intro hRef'
  have hBefore := hRef.phaseOf_log .encoder
  have hAfter := hRef'.phaseOf_log .encoder
  rw [phase, hOpen, if_neg (by omega)] at hBefore
  rw [hLog, phaseOf_append, hBefore] at hAfter
  change effects.foldl (Phase.follow .encoder) .misused = _ at hAfter
  rw [follow_misused, phase] at hAfter
  split at hAfter <;> cases hAfter

theorem refCounted_loaded (state : K) : RefCounted (loaded state : SpeexJni S F K) :=
  refCounted_of_phase (Int.le_refl 0) fun _ => rfl

theorem codecOpen_speexOpen (codec : FloatCodec S F K) (compression : Int) :
    (c.speexOpen codec compression).1.codecOpen = wrap (c.codecOpen + 1) := by
  unfold speexOpen
  dsimp only
  split <;> rfl

theorem log_speexOpen (codec : FloatCodec S F K) (compression : Int) :
    (c.speexOpen codec compression).1.log =
      c.log ++ if c.codecOpen = 0 then opening else [] := by
  by_cases h : c.codecOpen = 0
  · simp [speexOpen, h]
  · simp [speexOpen, h]

theorem codecOpen_speexClose : c.speexClose.codecOpen = wrap (c.codecOpen - 1) := by
  unfold speexClose
  dsimp only
  split <;> rfl

theorem log_speexClose :
    c.speexClose.log = c.log ++ if wrap (c.codecOpen - 1) = 0 then closing else [] := by
  by_cases h : wrap (c.codecOpen - 1) = 0
  · simp [speexClose, record, h]
  · simp [speexClose, h]

theorem refCounted_speexOpen_iff (codec : FloatCodec S F K) (compression : Int)
    (hInt : c.codecOpen < 2 ^ 31) (hRef : RefCounted c) :
    RefCounted (c.speexOpen codec compression).1 ↔ c.codecOpen < 2 ^ 31 - 1 := by
  have hWrap := wrap_succ hRef.nonneg hInt
  constructor
  · intro hRef'
    have hNonneg := hRef'.nonneg
    rw [codecOpen_speexOpen, hWrap] at hNonneg
    split at hNonneg <;> omega
  · intro hRoom
    rw [if_pos hRoom] at hWrap
    have h0 := hRef.nonneg
    refine refCounted_of_phase (by rw [codecOpen_speexOpen, hWrap]; omega) fun r => ?_
    have hBefore := hRef.phaseOf_log r
    unfold phase at hBefore ⊢
    rw [codecOpen_speexOpen, hWrap, if_pos (by omega), log_speexOpen, phaseOf_append, hBefore]
    by_cases hOpen : c.codecOpen = 0
    · rw [if_neg (by omega), if_pos hOpen, follow_opening]
    · rw [if_pos (by omega), if_neg hOpen, List.foldl_nil]

theorem refCounted_speexClose_iff (hInt : c.codecOpen < 2 ^ 31) (hRef : RefCounted c) :
    RefCounted c.speexClose ↔ 0 < c.codecOpen := by
  have h0 := hRef.nonneg
  have hWrap : wrap (c.codecOpen - 1) = c.codecOpen - 1 := wrap_eq_self (by omega) (by omega)
  constructor
  · intro hRef'
    have hNonneg := hRef'.nonneg
    rw [codecOpen_speexClose, hWrap] at hNonneg
    omega
  · intro hOpen
    refine refCounted_of_phase (by rw [codecOpen_speexClose, hWrap]; omega) fun r => ?_
    have hBefore := hRef.phaseOf_log r
    unfold phase at hBefore ⊢
    rw [if_pos hOpen] at hBefore
    rw [codecOpen_speexClose, log_speexClose, hWrap, phaseOf_append, hBefore]
    by_cases hLast : c.codecOpen - 1 = 0
    · rw [if_pos hLast, if_neg (by omega), follow_closing]
    · rw [if_neg hLast, if_pos (by omega), List.foldl_nil]

theorem speexEncode_of_closed {codec : FloatCodec S F K} {stack lin : List S} {offset : Int}
    {encoded : List UInt8} {size : Int} (hClosed : c.codecOpen = 0) :
    c.speexEncode codec stack lin offset encoded size =
      (c.record [.divide, .returned 0], encoded, 0) := by
  simp [speexEncode, record, hClosed]

theorem speexEncodeExt_of_closed {codec : FloatCodec S F K} {fuel : Nat} {stack lin : List S}
    {offset : Int} {encoded : List UInt8} {size : Int} (hClosed : c.codecOpen = 0) :
    c.speexEncodeExt codec fuel stack lin offset encoded size =
      (c.record [.divide, .returned 0], encoded, some 0) := by
  simp [speexEncodeExt, record, hClosed]

theorem Used.refCounted_iff (h : Used c c') (hRef : RefCounted c)
    (hDivide : c.codecOpen = 0 → ∃ effects, c'.log = c.log ++ .divide :: effects) :
    RefCounted c' ↔ 0 < c.codecOpen := by
  have h0 := hRef.nonneg
  constructor
  · intro hRef'
    by_contra hOpen
    obtain ⟨effects, hLog⟩ := hDivide (by omega)
    exact not_refCounted_of_divide hRef (by omega) hLog hRef'
  · intro hOpen
    exact h.refCounted hOpen hRef

theorem refCounted_speexEncode_iff (codec : FloatCodec S F K) (stack lin : List S) (offset : Int)
    (encoded : List UInt8) (size : Int) (hRef : RefCounted c) :
    RefCounted (c.speexEncode codec stack lin offset encoded size).1 ↔ 0 < c.codecOpen := by
  refine (used_speexEncode codec stack lin offset encoded size c).refCounted_iff hRef ?_
  intro hClosed
  rw [speexEncode_of_closed hClosed]
  exact ⟨_, rfl⟩

theorem refCounted_speexEncodeExt_iff (codec : FloatCodec S F K) (fuel : Nat) (stack lin : List S)
    (offset : Int) (encoded : List UInt8) (size : Int) (hRef : RefCounted c) :
    RefCounted (c.speexEncodeExt codec fuel stack lin offset encoded size).1 ↔
      0 < c.codecOpen := by
  refine (used_speexEncodeExt codec fuel stack lin offset encoded size c).refCounted_iff hRef ?_
  intro hClosed
  rw [speexEncodeExt_of_closed hClosed]
  exact ⟨_, rfl⟩

theorem Used.refCounted_of_returned (h : Used c c') (hRef : RefCounted c)
    (hReturned : c.codecOpen = 0 → c' = c.record [.returned 0]) : RefCounted c' := by
  have h0 := hRef.nonneg
  by_cases hClosed : c.codecOpen = 0
  · rw [hReturned hClosed]
    refine refCounted_of_phase h0 fun r => ?_
    change phaseOf r (c.log ++ [.returned 0]) = c.phase
    have hBefore := hRef.phaseOf_log r
    rw [phase, if_neg (by omega)] at hBefore ⊢
    rw [phaseOf_append, hBefore]
    rfl
  · exact h.refCounted (by omega) hRef

theorem refCounted_speexDecode (codec : FloatCodec S F K) (stack : Nat → UInt8) (output : List S)
    (encoded : List UInt8) (lin : List S) (size : Int) (hRef : RefCounted c) :
    RefCounted (c.speexDecode codec stack output encoded lin size).1 := by
  refine (used_speexDecode codec stack output encoded lin size c).refCounted_of_returned hRef ?_
  intro hClosed
  rw [speexDecode, if_pos hClosed]

theorem refCounted_speexDecodeExt (codec : FloatCodec S F K) (stack : Nat → UInt8)
    (output : List F) (encoded : List UInt8) (lin : List S) (size : Int) (hRef : RefCounted c) :
    RefCounted (c.speexDecodeExt codec stack output encoded lin size).1 := by
  refine (used_speexDecodeExt codec stack output encoded lin size c).refCounted_of_returned hRef ?_
  intro hClosed
  rw [speexDecodeExt, if_pos hClosed]

theorem refCounted_step_iff {codec : FloatCodec S F K} {e : SpeexCall S F}
    (hInt : c.codecOpen < 2 ^ 31) (hRef : RefCounted c) (hStep : step codec c e = some c') :
    RefCounted c' ↔ Balanced c e := by
  cases e with
  | speexOpen compression =>
    cases hStep
    exact refCounted_speexOpen_iff codec compression hInt hRef
  | speexClose =>
    cases hStep
    exact refCounted_speexClose_iff hInt hRef
  | speexEncode stack lin offset encoded size =>
    cases hStep
    exact refCounted_speexEncode_iff codec stack lin offset encoded size hRef
  | speexEncodeExt fuel stack lin offset encoded size =>
    cases hStep
    exact refCounted_speexEncodeExt_iff codec fuel stack lin offset encoded size hRef
  | speexDecode stack output encoded lin size =>
    cases hStep
    exact iff_true_intro (refCounted_speexDecode codec stack output encoded lin size hRef)
  | speexDecodeExt stack output encoded lin size =>
    cases hStep
    exact iff_true_intro (refCounted_speexDecodeExt codec stack output encoded lin size hRef)
  | speexGetFrameSize =>
    cases hStep
    exact iff_true_intro hRef

/-- Only `open` and `close` do more than use the codec. -/
theorem step_cases {codec : FloatCodec S F K} {e : SpeexCall S F}
    (hStep : step codec c e = some c') :
    (∃ compression, c' = (c.speexOpen codec compression).1) ∨ c' = c.speexClose ∨ Used c c' := by
  cases e with
  | speexOpen compression =>
    cases hStep
    exact .inl ⟨compression, rfl⟩
  | speexClose =>
    cases hStep
    exact .inr (.inl rfl)
  | speexEncode stack lin offset encoded size =>
    cases hStep
    exact .inr (.inr (used_speexEncode codec stack lin offset encoded size c))
  | speexEncodeExt fuel stack lin offset encoded size =>
    cases hStep
    exact .inr (.inr (used_speexEncodeExt codec fuel stack lin offset encoded size c))
  | speexDecode stack output encoded lin size =>
    cases hStep
    exact .inr (.inr (used_speexDecode codec stack output encoded lin size c))
  | speexDecodeExt stack output encoded lin size =>
    cases hStep
    exact .inr (.inr (used_speexDecodeExt codec stack output encoded lin size c))
  | speexGetFrameSize =>
    cases hStep
    exact .inr (.inr (Used.refl c))

theorem codecOpen_step_lt {codec : FloatCodec S F K} {e : SpeexCall S F}
    (hInt : c.codecOpen < 2 ^ 31) (hStep : step codec c e = some c') : c'.codecOpen < 2 ^ 31 := by
  obtain ⟨compression, rfl⟩ | rfl | hUsed := step_cases hStep
  · rw [codecOpen_speexOpen]
    exact wrap_lt _
  · rw [codecOpen_speexClose]
    exact wrap_lt _
  · rw [hUsed.1]
    exact hInt

theorem codecOpen_loaded_lt (state : K) : (loaded state : SpeexJni S F K).codecOpen < 2 ^ 31 := by
  change (0 : Int) < 2 ^ 31
  omega

theorem always_refCounted_iff (codec : FloatCodec S F K) (state : K)
    (es : List (SpeexCall S F)) :
    Always (step codec) RefCounted (loaded state) es ↔
      Meets (step codec) Balanced (loaded state) es := by
  have hKeep {c c' : SpeexJni S F K} {e : SpeexCall S F} (hInt : c.codecOpen < 2 ^ 31)
      (_ : RefCounted c) (hStep : step codec c e = some c') (_ : RefCounted c') :
      c'.codecOpen < 2 ^ 31 := codecOpen_step_lt hInt hStep
  have hExact {c c' : SpeexJni S F K} {e : SpeexCall S F} (hInt : c.codecOpen < 2 ^ 31)
      (hRef : RefCounted c) (hStep : step codec c e = some c') :
      RefCounted c' ↔ Balanced c e := refCounted_step_iff hInt hRef hStep
  exact always_iff_meets hKeep hExact (codecOpen_loaded_lt state) (refCounted_loaded state)

theorem encFrameSize_speexClose : c.speexClose.encFrameSize = c.encFrameSize := by
  unfold speexClose
  dsimp only
  split <;> rfl

def FrameSizeRead (c : SpeexJni S F K) : Prop :=
  0 < c.codecOpen → c.encFrameSize = CustomSpeex.nbFrameSize

theorem frameSizeRead_step {codec : FloatCodec S F K} {e : SpeexCall S F} (hRef : RefCounted c)
    (hInt : c.codecOpen < 2 ^ 31) (hRead : FrameSizeRead c) (hStep : step codec c e = some c') :
    FrameSizeRead c' := by
  have h0 := hRef.nonneg
  intro hOpen
  obtain ⟨compression, rfl⟩ | rfl | hUsed := step_cases hStep
  · unfold speexOpen
    dsimp only
    split
    · exact hRead (by omega)
    · rfl
  · rw [codecOpen_speexClose, wrap_eq_self (by omega) (by omega)] at hOpen
    rw [encFrameSize_speexClose]
    exact hRead (by omega)
  · rw [hUsed.1] at hOpen
    rw [hUsed.2.1]
    exact hRead hOpen

theorem always_frameSizeRead (codec : FloatCodec S F K) (state : K) {es : List (SpeexCall S F)}
    (hMeets : Meets (step codec) Balanced (loaded state) es) :
    Always (step codec) FrameSizeRead (loaded state) es := by
  have hKeep {c c' : SpeexJni S F K} {e : SpeexCall S F}
      (hInv : (c.codecOpen < 2 ^ 31 ∧ RefCounted c) ∧ FrameSizeRead c) (hBalanced : Balanced c e)
      (hStep : step codec c e = some c') :
      (c'.codecOpen < 2 ^ 31 ∧ RefCounted c') ∧ FrameSizeRead c' := by
    obtain ⟨⟨hInt, hRef⟩, hRead⟩ := hInv
    exact ⟨⟨codecOpen_step_lt hInt hStep, (refCounted_step_iff hInt hRef hStep).mpr hBalanced⟩,
      frameSizeRead_step hRef hInt hRead hStep⟩
  have hLoaded : FrameSizeRead (loaded state : SpeexJni S F K) :=
    fun hOpen => absurd hOpen (Int.lt_irrefl 0)
  exact always_of_meets hKeep (fun h => h.2)
    ⟨⟨codecOpen_loaded_lt state, refCounted_loaded state⟩, hLoaded⟩ hMeets

/-- One close too many: the counter is at minus one, and the next call finds the codec open. -/
theorem not_always_refCounted :
    ¬∀ (codec : FloatCodec Int Int Unit) (es : List (SpeexCall Int Int)),
      Always (step codec) RefCounted (loaded ()) es := by
  intro h
  let codec : FloatCodec Int Int Unit :=
    { silentCodec Int with
      encode := fun state _ => (state, [])
      decode := fun state _ output => (state, output, 0)
      init := fun _ => ()
      toFloat := id
      toShort := id }
  have hNonneg := ((h codec [.speexClose]).2 _ rfl).nonneg
  exact absurd hNonneg (by decide)

end Calls

end SpeexJni

end LocalCall.Jni
