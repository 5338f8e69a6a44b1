import LocalCall.Jni.DottedQuad
import LocalCall.Service.LocalCallService

/-! # What a string that passes the check of `startRecorder` becomes

The check looks for a dotted quad anywhere in the string; the native side copies the whole string
into a buffer and reads an address from its start.
-/
namespace LocalCall.Service
open Java Jni
set_option autoImplicit false

variable {S K : Type}

/-- The call returns true; where it has written or read outside the buffer first, it may. -/
def MayReturnTrue (s : LocalCallService S K) (ip : Text) : Prop :=
  (s.startRecorder ip).1 = .ok true ∨ (s.startRecorder ip).1 = .error .undefinedBehaviour

def destip (ip : Text) : Except Thrown (BitVec 32) := (copyIp ip).map inetAddr

/-- The call returns true and has passed the address to `AddDestination`. -/
structure Adds (s : LocalCallService S K) (ip : Text) (addr : BitVec 32) : Prop where
  returned : (s.startRecorder ip).1 = .ok true
  passed : ∃ j, s.mRtp.mJavaRtp = some j ∧ (s.startRecorder ip).2.mRtp = ⟨some { j with
    mMyRTPSession := j.mMyRTPSession.checked
      (j.mMyRTPSession.addDestination ⟨addr, j.mPortBase⟩) }⟩

/-- The copy stays in front of the last byte of the buffer, and the address that is added is the
one that the string spells. -/
structure DialsSpelled (s : LocalCallService S K) (ip : Text) : Prop where
  inBuffer : ∀ i < (utf16 ip).length, i ≤ 48
  spelled : ∃ q : DottedQuad, q.text = ip ∧ q.address ≠ inaddrNone ∧ destip ip = .ok q.address ∧
    Adds s ip q.address

/-- A dotted quad other than the one of all ones, in which a leading zero changes nothing. -/
def PlainQuad (ip : Text) : Prop :=
  ∃ q : DottedQuad, q.text = ip ∧ (∀ o ∈ q.octets, o.startsWithZero = false ∨ o.value < 8) ∧
    ∃ o ∈ q.octets, o.value ≠ 255

section Calls

variable {s : LocalCallService S K} {ip : Text}

theorem adds_of_copyIp (hFind : mPatternFind ip = true) (hHandle : s.mRtp.mJavaRtp.isSome = true)
    {cstring : List Nat} (hCopy : copyIp ip = .ok cstring) : Adds s ip (inetAddr cstring) := by
  obtain ⟨j, hj⟩ := Option.isSome_iff_exists.mp hHandle
  constructor
  · simp only [LocalCallService.startRecorder, hFind, if_true, Rtp.addRtpDestinationIp, hj, hCopy]
  · refine ⟨j, hj, ?_⟩
    simp only [LocalCallService.startRecorder, hFind, if_true, Rtp.addRtpDestinationIp, hj, hCopy]

theorem startRecorder_overrun (hFind : mPatternFind ip = true)
    (hHandle : s.mRtp.mJavaRtp.isSome = true) {e : Thrown} (hCopy : copyIp ip = .error e) :
    (s.startRecorder ip).1 = .error .undefinedBehaviour := by
  obtain ⟨j, hj⟩ := Option.isSome_iff_exists.mp hHandle
  rw [copyIp_error hCopy] at hCopy
  simp only [LocalCallService.startRecorder, hFind, if_true, Rtp.addRtpDestinationIp, hj, hCopy]

theorem mayReturnTrue_iff (s : LocalCallService S K) (ip : Text) :
    MayReturnTrue s ip ↔ mPatternFind ip = true ∧ s.mRtp.mJavaRtp.isSome = true := by
  constructor
  · rw [MayReturnTrue, LocalCallService.startRecorder, Rtp.addRtpDestinationIp]
    cases mPatternFind ip with
    | false => simp
    | true =>
      cases s.mRtp.mJavaRtp with
      | none => simp
      | some j => exact fun _ => ⟨rfl, rfl⟩
  · rintro ⟨hFind, hHandle⟩
    cases hCopy : copyIp ip with
    | ok cstring => exact Or.inl (adds_of_copyIp hFind hHandle hCopy).returned
    -- behind the buffer nothing holds the call back from returning true
    | error e => exact Or.inr (startRecorder_overrun hFind hHandle hCopy)

theorem destip_text (q : DottedQuad) : destip q.text = .ok (inetAddr q.bytes) := by
  rw [destip, q.copyIp_text]
  rfl

theorem plainQuad_of_dialsSpelled (h : DialsSpelled s ip) : PlainQuad ip := by
  obtain ⟨-, q, rfl, hSome, hDest, -⟩ := h
  rw [destip_text, Except.ok.injEq, DottedQuad.inetAddr_eq_address_iff hSome] at hDest
  refine ⟨q, rfl, fun o ho => o.read_eq_value_iff.mp (hDest o ho), ?_⟩
  by_contra hNone
  push Not at hNone
  exact hSome (q.address_eq_none_iff.mpr hNone)

theorem dialsSpelled_of_plainQuad (hHandle : s.mRtp.mJavaRtp.isSome = true) (h : PlainQuad ip) :
    DialsSpelled s ip := by
  obtain ⟨q, rfl, hPlain, o, ho, hValue⟩ := h
  have hSome : q.address ≠ inaddrNone := fun hNone =>
    hValue (q.address_eq_none_iff.mp hNone o ho)
  have hRead : inetAddr q.bytes = q.address :=
    (DottedQuad.inetAddr_eq_address_iff hSome).mpr fun o ho => o.read_eq_value_iff.mpr (hPlain o ho)
  constructor
  · rw [q.utf16_text]
    intro i hi
    have hShort := q.length_bytes
    omega
  · refine ⟨q, rfl, hSome, ?_, ?_⟩
    · rw [destip_text, hRead]
    · rw [← hRead]
      exact adds_of_copyIp q.mPatternFind_text hHandle q.copyIp_text

end Calls

/-- Whatever the state of the service: a string that the call may return true for is dialled as it
is spelled, within the buffer, exactly if it is a plain dotted quad. -/
theorem startRecorder_dialsSpelled_iff (s : LocalCallService S K) (ip : Text) :
    (MayReturnTrue s ip → DialsSpelled s ip) ↔
      (mPatternFind ip = true → s.mRtp.mJavaRtp.isSome = true → PlainQuad ip) := by
  rw [mayReturnTrue_iff, and_imp]
  constructor
  · intro h hFind hHandle
    exact plainQuad_of_dialsSpelled (h hFind hHandle)
  · intro h hFind hHandle
    exact dialsSpelled_of_plainQuad hHandle (h hFind hHandle)

def opened : LocalCallService Nat Unit := .onCreate () (some 5000) (.created 1 0 0)

/-- A quad with something after it that does not fit in the buffer, and a quad that is no
address. -/
theorem not_dialsSpelled :
    ¬ (MayReturnTrue opened ("192.168.1.2".toList ++ List.replicate 45 ' ') →
      DialsSpelled opened ("192.168.1.2".toList ++ List.replicate 45 ' ')) ∧
    ¬ (MayReturnTrue opened "999.1.1.1".toList → DialsSpelled opened "999.1.1.1".toList) := by
  constructor
  · intro h
    have hReturns : MayReturnTrue opened ("192.168.1.2".toList ++ List.replicate 45 ' ') :=
      Or.inr (by decide +kernel)
    have hLast := (h hReturns).inBuffer 49 (by decide +kernel)
    omega
  · intro h
    have hReturns : MayReturnTrue opened "999.1.1.1".toList := Or.inl (by decide +kernel)
    obtain ⟨q, -, hSome, hDest, -⟩ := (h hReturns).spelled
    have hNone : destip "999.1.1.1".toList = .ok inaddrNone := by decide +kernel
    exact hSome (Except.ok.inj (hDest.symm.trans hNone))

end LocalCall.Service
