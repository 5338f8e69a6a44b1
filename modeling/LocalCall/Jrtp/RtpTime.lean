import Mathlib.Order.Defs.LinearOrder

/-! # Wallclock times

`rtptimeutilities.h`: unsigned seconds and microseconds, which wrap around when subtracted.
-/
namespace LocalCall.Jrtp
set_option autoImplicit false

structure RTPTime where
  sec : BitVec 32
  microsec : BitVec 32
  deriving DecidableEq

namespace RTPTime

def sub (a b : RTPTime) : RTPTime :=
  if a.microsec < b.microsec then
    ⟨a.sec - b.sec - 1, a.microsec + 1000000 - b.microsec⟩
  else ⟨a.sec - b.sec, a.microsec - b.microsec⟩

def lt (a b : RTPTime) : Bool :=
  if a.sec < b.sec then true
  else if b.sec < a.sec then false
  else a.microsec < b.microsec

end RTPTime
end LocalCall.Jrtp
