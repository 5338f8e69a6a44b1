import Mathlib.Data.List.Basic

/-! # The codec object around the Speex library

The bit buffer is modelled from `bits.c` as the bits it holds, where a char is one byte. The
encoder, the decoder and the preprocessor are the functions of a parameter: `SpeexCodec` may do
anything with the samples and bits it is given. The cursors of the buffer are theirs and are left
out, and so is the echo canceller, which no call reaches.
-/
namespace LocalCall.Jni
set_option autoImplicit false

/-- The bits of a byte, the highest first: the order in which the library packs and unpacks. -/
def bitsOfByte (b : UInt8) : List Bool :=
  [7, 6, 5, 4, 3, 2, 1, 0].map fun i => b.toNat.testBit i

def bitsOfBytes (bytes : List UInt8) : List Bool := bytes.flatMap bitsOfByte

def packBytes : List Bool → List UInt8
  | b7 :: b6 :: b5 :: b4 :: b3 :: b2 :: b1 :: b0 :: rest =>
    UInt8.ofNat ([b7, b6, b5, b4, b3, b2, b1, b0].foldl (fun n b => 2 * n + b.toNat) 0) ::
      packBytes rest
  | _ => []

structure SpeexBits where
  bits : List Bool
  bufSize : Nat
  owner : Bool
  deriving DecidableEq

namespace SpeexBits

def maxCharsPerFrame : Nat := 2000

def new : SpeexBits := ⟨[], maxCharsPerFrame, true⟩

def reset (b : SpeexBits) : SpeexBits := { b with bits := [] }

/-- `speex_bits_read_from(bits, chars, len)`: the chars at the indices below `len`, whatever lies
there; an own buffer is enlarged first, a foreign one cuts the input. -/
def readFrom (chars : Nat → UInt8) (len : Nat) (b : SpeexBits) : SpeexBits :=
  let bufSize := if b.bufSize < len ∧ b.owner then len else b.bufSize
  let nchars := min len bufSize
  { b with bits := bitsOfBytes ((List.range nchars).map chars), bufSize }

def terminator (nbBits : Nat) : List Bool :=
  if nbBits % 8 = 0 then [] else false :: List.replicate (7 - nbBits % 8) true

/-- `speex_bits_write`: the terminator is written out and not kept. -/
def write (maxNbytes : Nat) (b : SpeexBits) : List UInt8 :=
  (packBytes (b.bits ++ terminator b.bits.length)).take (min maxNbytes ((b.bits.length + 7) / 8))

end SpeexBits

/-- The library as the application sees it; `K` holds the states behind all its handles. -/
structure SpeexCodec (S K : Type) where
  /-- `speex_preprocess_run`: the denoised frame and the voice activity, zero for none. -/
  preprocessRun : K → List S → K × List S × Int
  /-- `speex_encode_int`, which appends to the bit buffer. -/
  encodeInt : K → List S → List Bool → K × List Bool
  /-- `speex_decode_int`: what becomes of the output buffer, and the status, zero for success. -/
  decodeInt : K → List Bool → List S → K × List S × Int

/-- A codec that hears no speech and decodes nothing, without an error. -/
def silentCodec (S : Type) : SpeexCodec S Unit where
  preprocessRun := fun state samples => (state, samples, 0)
  encodeInt := fun state _ bits => (state, bits)
  decodeInt := fun state _ out => (state, out, 0)

structure CustomSpeex (K : Type) where
  decFrameSize : Nat
  encFrameSize : Nat
  ebits : SpeexBits
  dbits : SpeexBits
  state : K
  deriving DecidableEq

namespace CustomSpeex
variable {S K : Type}

/-- The frame size of the narrowband mode, which `open` reads back from both coders. -/
def nbFrameSize : Nat := 160

def new (state : K) : CustomSpeex K := ⟨nbFrameSize, nbFrameSize, .new, .new, state⟩

def getFrameSize (c : CustomSpeex K) : Nat := c.encFrameSize

/-- `encode` with buffers that are not null: the bytes written and the length returned, minus one
for a frame without speech. -/
def encode (codec : SpeexCodec S K) (samples : List S) (size : Int) (c : CustomSpeex K) :
    CustomSpeex K × List UInt8 × Int :=
  if size ≤ 0 ∨ size ≠ c.encFrameSize then (c, [], 0)
  else
    let (state, samples, vad) := codec.preprocessRun c.state samples
    if vad = 0 then ({ c with state }, [], -1)
    else
      let (state, bits) := codec.encodeInt state samples []
      let ebits := { c.ebits.reset with bits }
      let out := ebits.write c.encFrameSize
      ({ c with state, ebits }, out, out.length)

/-- `decode` with buffers that are not null. The number of chars to read is `dec_frame_size`: the
length of what lies at `chars` is no argument. -/
def decode (codec : SpeexCodec S K) (chars : Nat → UInt8) (out : List S) (size : Int)
    (c : CustomSpeex K) : CustomSpeex K × List S × Int :=
  if size ≤ 0 ∨ size ≠ c.encFrameSize then (c, out, 0)
  else
    let dbits := c.dbits.reset.readFrom chars c.decFrameSize
    let (state, out, ret) := codec.decodeInt c.state dbits.bits out
    ({ c with state, dbits }, out, ret)

end CustomSpeex

@[simp] theorem length_bitsOfByte (b : UInt8) : (bitsOfByte b).length = 8 := rfl

@[simp] theorem length_bitsOfBytes (bytes : List UInt8) :
    (bitsOfBytes bytes).length = 8 * bytes.length := by
  induction bytes with
  | nil => rfl
  | cons b bytes ih =>
    change (bitsOfByte b ++ bitsOfBytes bytes).length = _
    rw [List.length_append, length_bitsOfByte, ih, List.length_cons]
    omega

theorem bitsOfByte_ofNat : ∀ b7 b6 b5 b4 b3 b2 b1 b0 : Bool,
    let bits := [b7, b6, b5, b4, b3, b2, b1, b0]
    bitsOfByte (UInt8.ofNat (bits.foldl (fun n b => 2 * n + b.toNat) 0)) = bits := by
  decide +kernel

theorem bitsOfBytes_packBytes {bits : List Bool} (h : bits.length % 8 = 0) :
    bitsOfBytes (packBytes bits) = bits := by
  induction bits using packBytes.induct with
  | case1 b7 b6 b5 b4 b3 b2 b1 b0 rest ih =>
    have hRest : rest.length % 8 = 0 := by
      simp only [List.length_cons] at h
      omega
    rw [packBytes]
    change bitsOfByte _ ++ bitsOfBytes (packBytes rest) = _
    rw [bitsOfByte_ofNat, ih hRest]
    rfl
  | case2 bits hShort =>
    -- Fewer than eight bits are none at all.
    match bits with
    | [] => rfl
    | b7 :: b6 :: b5 :: b4 :: b3 :: b2 :: b1 :: b0 :: rest =>
      exact (hShort b7 b6 b5 b4 b3 b2 b1 b0 rest rfl).elim
    | [_] | [_, _] | [_, _, _] | [_, _, _, _] | [_, _, _, _, _] | [_, _, _, _, _, _]
    | [_, _, _, _, _, _, _] => cases h

namespace SpeexBits

theorem length_append_terminator (bits : List Bool) :
    (bits ++ terminator bits.length).length = 8 * ((bits.length + 7) / 8) := by
  unfold terminator
  split
  · rw [List.append_nil]
    omega
  · rw [List.length_append, List.length_cons, List.length_replicate]
    omega

theorem bitsOfBytes_terminated (bits : List Bool) :
    bitsOfBytes (packBytes (bits ++ terminator bits.length)) = bits ++ terminator bits.length :=
  bitsOfBytes_packBytes (by rw [length_append_terminator]; omega)

theorem length_packBytes_terminated (bits : List Bool) :
    (packBytes (bits ++ terminator bits.length)).length = (bits.length + 7) / 8 := by
  have hBits := congrArg List.length (bitsOfBytes_terminated bits)
  rw [length_bitsOfBytes, length_append_terminator] at hBits
  omega

theorem length_write (maxNbytes : Nat) (b : SpeexBits) :
    (b.write maxNbytes).length = min maxNbytes ((b.bits.length + 7) / 8) := by
  rw [write, List.length_take, length_packBytes_terminated]
  omega

theorem length_write_le (maxNbytes : Nat) (b : SpeexBits) :
    (b.write maxNbytes).length ≤ maxNbytes := by
  rw [length_write]
  omega

theorem prefix_write {maxNbytes : Nat} {b : SpeexBits}
    (h : (b.bits.length + 7) / 8 ≤ maxNbytes) : b.bits <+: bitsOfBytes (b.write maxNbytes) := by
  have hWhole : b.write maxNbytes = packBytes (b.bits ++ terminator b.bits.length) := by
    rw [write, List.take_of_length_le]
    rw [length_packBytes_terminated]
    omega
  rw [hWhole, bitsOfBytes_terminated]
  exact List.prefix_append _ _

end SpeexBits

end LocalCall.Jni
