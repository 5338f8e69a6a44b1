import Mathlib.Data.List.Basic

/-! # A value replicated over a first-in first-out channel

The owner changes its value and sends the change; the replica applies the changes in the order
in which they were sent. The two agree once everything in flight has been applied, and that is
what survives sending and delivering. Losing a message keeps it only when the message was going
to change nothing.
-/
namespace Replica
set_option autoImplicit false

universe u v
variable {ρ : Type u} {μ : Type v} (apply : ρ → μ → ρ)

/-- What the replica will hold when all of `inFlight` has been applied. -/
def settled (replica : ρ) (inFlight : List μ) : ρ := inFlight.foldl apply replica

def Silent (m : μ) : Prop := ∀ replica, apply replica m = replica

variable {apply}

@[simp] theorem settled_nil (replica : ρ) : settled apply replica [] = replica := rfl

@[simp] theorem settled_cons (replica : ρ) (m : μ) (ms : List μ) :
    settled apply replica (m :: ms) = settled apply (apply replica m) ms := rfl

theorem settled_append (replica : ρ) (ms ns : List μ) :
    settled apply replica (ms ++ ns) = settled apply (settled apply replica ms) ns :=
  List.foldl_append

@[simp] theorem settled_concat (replica : ρ) (ms : List μ) (m : μ) :
    settled apply replica (ms ++ [m]) = apply (settled apply replica ms) m := by
  rw [settled_append, settled_cons, settled_nil]

theorem settled_silent (replica : ρ) (ms : List μ) (h : ∀ m ∈ ms, Silent apply m) :
    settled apply replica ms = replica := by
  induction ms with
  | nil => rfl
  | cons m ms ih =>
    rw [settled_cons, h m List.mem_cons_self replica]
    exact ih fun n hn => h n (List.mem_cons_of_mem m hn)

theorem settled_cons_silent (replica : ρ) (m : μ) (ms : List μ) (h : Silent apply m) :
    settled apply replica (m :: ms) = settled apply replica ms := by
  rw [settled_cons, h replica]

theorem settled_append_silent (replica : ρ) (ms ns : List μ) (h : ∀ n ∈ ns, Silent apply n) :
    settled apply replica (ms ++ ns) = settled apply replica ms := by
  rw [settled_append, settled_silent _ ns h]

end Replica
