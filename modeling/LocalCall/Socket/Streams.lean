import LocalCall.Java.Text

/-! # The streams of a control connection, and closing them

`CtlServerSocket` and `CtlSocket` have the same three fields and the same two methods to close
them. Both the thread and a closer run these methods without a lock, so each test and each
statement, with the `catch` and `finally` around it, is a step of its own. A connection is
referred to by its number.
-/
namespace LocalCall.Socket
set_option autoImplicit false

structure Streams where
  mSocket : Option Nat
  mOutputStream : Option Nat
  mInputStream : Option Nat
  deriving DecidableEq

def Streams.none : Streams := ⟨.none, .none, .none⟩

/-- Where a thread stands in `closeStream` or `closeSocket`. A field that is nulled between its
test and its use makes the use throw, and only an `IOException` is caught. -/
inductive ClosePc where
  | testOutput | closeOutput | testInput | closeInput | testSocket | closeSocket
  | returned
  | nullPointer
  deriving DecidableEq

namespace Streams

/-- A step of `closeStream`, which returns where `closeSocket` goes on. -/
def closeStream (pc : ClosePc) (s : Streams) : Streams × ClosePc :=
  match pc with
  | .testOutput => (s, if s.mOutputStream.isSome then .closeOutput else .testInput)
  | .closeOutput =>
    ({ s with mOutputStream := .none }, if s.mOutputStream.isSome then .testInput else .nullPointer)
  | .testInput => (s, if s.mInputStream.isSome then .closeInput else .testSocket)
  | .closeInput =>
    ({ s with mInputStream := .none }, if s.mInputStream.isSome then .testSocket else .nullPointer)
  | pc => (s, pc)

/-- A step of `closeSocket`; the field keeps a socket whose `close` throws. -/
def closeSocket (threw : Bool) (pc : ClosePc) (s : Streams) : Streams × ClosePc :=
  match pc with
  | .testSocket => (s, if s.mSocket.isSome then .closeSocket else .returned)
  | .closeSocket =>
    match s.mSocket with
    | .none => (s, .nullPointer)
    | some _ => (if threw then s else { s with mSocket := .none }, .returned)
  | pc => s.closeStream pc

theorem closeStream_ne_nullPointer {pc : ClosePc} {s : Streams} (hPc : pc ≠ .nullPointer)
    (hOutput : pc = .closeOutput → s.mOutputStream.isSome = true)
    (hInput : pc = .closeInput → s.mInputStream.isSome = true) :
    (s.closeStream pc).2 ≠ .nullPointer := by
  cases pc with
  | testOutput =>
    simp only [closeStream]
    split <;> decide
  | closeOutput => simp [closeStream, hOutput rfl]
  | testInput =>
    simp only [closeStream]
    split <;> decide
  | closeInput => simp [closeStream, hInput rfl]
  | testSocket => exact hPc
  | closeSocket => exact hPc
  | returned => exact hPc
  | nullPointer => exact hPc

theorem closeSocket_uses (threw : Bool) (pc : ClosePc) (s : Streams) :
    ((s.closeSocket threw pc).2 = .closeOutput →
      (s.closeSocket threw pc).1.mOutputStream.isSome = true) ∧
    ((s.closeSocket threw pc).2 = .closeInput →
      (s.closeSocket threw pc).1.mInputStream.isSome = true) ∧
    ((s.closeSocket threw pc).2 = .closeSocket →
      (s.closeSocket threw pc).1.mSocket.isSome = true) := by
  cases pc with
  | testOutput | testInput | testSocket =>
    simp only [closeSocket, closeStream]
    split <;> simp_all
  | closeOutput | closeInput =>
    simp only [closeSocket, closeStream]
    split <;> simp
  | closeSocket =>
    simp only [closeSocket]
    split <;> simp
  | returned | nullPointer => simp [closeSocket, closeStream]

theorem closeStream_eq_closeSocket {pc : ClosePc} (hTest : pc ≠ .testSocket)
    (hClose : pc ≠ .closeSocket) (threw : Bool) (s : Streams) :
    s.closeStream pc = s.closeSocket threw pc := by
  cases pc <;> first | rfl | contradiction

theorem closeSocket_ne_nullPointer {threw : Bool} {pc : ClosePc} {s : Streams}
    (hPc : pc ≠ .nullPointer) (hOutput : pc = .closeOutput → s.mOutputStream.isSome = true)
    (hInput : pc = .closeInput → s.mInputStream.isSome = true)
    (hSocket : pc = .closeSocket → s.mSocket.isSome = true) :
    (s.closeSocket threw pc).2 ≠ .nullPointer := by
  cases pc with
  | testSocket =>
    simp only [closeSocket]
    split <;> decide
  | closeSocket =>
    obtain ⟨c, hSome⟩ := Option.isSome_iff_exists.mp (hSocket rfl)
    simp [closeSocket, hSome]
  | testOutput | closeOutput | testInput | closeInput | returned | nullPointer =>
    exact closeStream_ne_nullPointer hPc hOutput hInput

structure Past (pc : ClosePc) (s : Streams) : Prop where
  output : pc ≠ .testOutput → pc ≠ .closeOutput → s.mOutputStream = .none
  input : pc = .testSocket ∨ pc = .closeSocket ∨ pc = .returned → s.mInputStream = .none

theorem past_testOutput (s : Streams) : s.Past .testOutput :=
  ⟨fun hTest => absurd rfl hTest, nofun⟩

theorem Past.closeSocket {pc : ClosePc} {s : Streams} (h : s.Past pc) (threw : Bool) :
    (s.closeSocket threw pc).1.Past (s.closeSocket threw pc).2 := by
  obtain ⟨hOutput, hInput⟩ := h
  cases pc with
  | testOutput | closeOutput | testInput | closeInput =>
    simp only [Streams.closeSocket, closeStream]
    split <;> constructor <;> simp_all
  | testSocket =>
    simp only [Streams.closeSocket]
    split <;> constructor <;> simp_all
  | closeSocket =>
    simp only [Streams.closeSocket]
    split
    · constructor <;> simp_all
    · split <;> constructor <;> simp_all
  | returned | nullPointer => exact ⟨hOutput, hInput⟩

theorem closeSocket_clears (threw : Bool) (pc : ClosePc) (s : Streams) :
    (s.mOutputStream = .none → (s.closeSocket threw pc).1.mOutputStream = .none) ∧
    (s.mInputStream = .none → (s.closeSocket threw pc).1.mInputStream = .none) ∧
    ((s.closeSocket threw pc).1.mSocket = .none →
      s.mSocket = .none ∨ pc = .closeSocket ∧ s.mSocket.isSome = true) := by
  cases pc with
  | testOutput | testInput | testSocket | returned | nullPointer =>
    exact ⟨id, id, Or.inl⟩
  | closeOutput => exact ⟨fun _ => rfl, id, Or.inl⟩
  | closeInput => exact ⟨id, fun _ => rfl, Or.inl⟩
  | closeSocket =>
    simp only [closeSocket]
    split
    · exact ⟨id, id, Or.inl⟩
    · rename_i hSome
      refine ⟨?_, ?_, fun _ => Or.inr ⟨trivial, by rw [hSome]; rfl⟩⟩
      · split <;> exact id
      · split <;> exact id

/-- `closeSocket` returns without a socket, or with one that it has called `close` on. -/
theorem closeSocket_returned {threw : Bool} {pc : ClosePc} {s : Streams}
    (hReturned : (s.closeSocket threw pc).2 = .returned) :
    pc = .returned ∨ s.mSocket = .none ∨ pc = .closeSocket ∧ s.mSocket.isSome = true := by
  cases pc with
  | testOutput | closeOutput | testInput | closeInput =>
    simp only [closeSocket, closeStream] at hReturned
    split at hReturned <;> contradiction
  | testSocket =>
    simp only [closeSocket] at hReturned
    split at hReturned
    · contradiction
    · rename_i hNone
      exact Or.inr (Or.inl (Option.not_isSome_iff_eq_none.mp hNone))
  | closeSocket =>
    cases hNow : s.mSocket with
    | none => exact Or.inr (Or.inl rfl)
    | some c => exact Or.inr (Or.inr ⟨rfl, rfl⟩)
  | returned => exact Or.inl rfl
  | nullPointer => contradiction

end Streams
end LocalCall.Socket
