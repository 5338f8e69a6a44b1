/-! # Loops that count up from zero

The body may fail, and its failure is the loop's.
-/
namespace CountedLoop
set_option autoImplicit false

universe u v
variable {ε : Type u} {σ : Type v}

/-- `for (int i = 0; i < n; i++)` -/
def forLoop (n : Nat) (body : Nat → σ → Except ε σ) (s : σ) : Except ε σ :=
  match n with
  | 0 => .ok s
  | n + 1 => forLoop n body s >>= body n

/-- What holds at the start, and is carried by the body from one turn to the next, holds at the
end, which is then reached. -/
theorem forLoop_rule {n : Nat} {body : Nat → σ → Except ε σ} {Inv : Nat → σ → Prop}
    (turn : ∀ {i s}, i < n → Inv i s → ∃ s', body i s = .ok s' ∧ Inv (i + 1) s') {s : σ}
    (h : Inv 0 s) : ∃ s', forLoop n body s = .ok s' ∧ Inv n s' := by
  induction n with
  | zero => exact ⟨s, rfl, h⟩
  | succ n ih =>
    obtain ⟨mid, hMid, hInv⟩ := ih fun hi => turn (Nat.lt_succ_of_lt hi)
    obtain ⟨s', hBody, hInv'⟩ := turn (Nat.lt_succ_self n) hInv
    refine ⟨s', ?_, hInv'⟩
    rw [forLoop, hMid]
    exact hBody

end CountedLoop
