import Mathlib.Algebra.Ring.Nat

/-! # Runs of partial labelled transition functions

A step may be refused, and a refused step ends the run. `Always` speaks of every state that a
run visits and `Meets` of every step it takes; the rules at the end pass from a condition on the
single steps to a property of whole runs.
-/
namespace Transition
set_option autoImplicit false

universe u v w
variable {σ : Type u} {ε : Type v} (step : σ → ε → Option σ)

def run : σ → List ε → Option σ
  | s, [] => some s
  | s, e :: es => (step s e).bind fun s' => run s' es

/-- `P` holds in the first state and in every state the run reaches from it. -/
def Always (P : σ → Prop) : σ → List ε → Prop
  | s, [] => P s
  | s, e :: es => P s ∧ ∀ s', step s e = some s' → Always P s' es

/-- Each step that the run takes is taken under the condition `G`. -/
def Meets (G : σ → ε → Prop) : σ → List ε → Prop
  | _, [] => True
  | s, e :: es => ∀ s', step s e = some s' → G s e ∧ Meets G s' es

@[simp] theorem run_nil (s : σ) : run step s [] = some s := rfl

@[simp] theorem run_cons (s : σ) (e : ε) (es : List ε) :
    run step s (e :: es) = (step s e).bind fun s' => run step s' es := rfl

theorem run_append (s : σ) (es es' : List ε) :
    run step s (es ++ es') = (run step s es).bind fun s' => run step s' es' := by
  induction es generalizing s with
  | nil => rfl
  | cons e es ih =>
    rw [List.cons_append, run_cons, run_cons, Option.bind_assoc]
    exact congrArg _ (funext ih)

variable {step}

instance decidableAlways (P : σ → Prop) [DecidablePred P] :
    (s : σ) → (es : List ε) → Decidable (Always step P s es)
  | s, [] => inferInstanceAs (Decidable (P s))
  | s, e :: es =>
    match h : step s e with
    | none => decidable_of_iff (P s) (by simp [Always, h])
    | some s' =>
      have := decidableAlways P s' es
      decidable_of_iff (P s ∧ Always step P s' es) (by simp [Always, h])

instance decidableMeets (G : σ → ε → Prop) [∀ s e, Decidable (G s e)] :
    (s : σ) → (es : List ε) → Decidable (Meets step G s es)
  | _, [] => inferInstanceAs (Decidable True)
  | s, e :: es =>
    match h : step s e with
    | none => isTrue (by simp [Meets, h])
    | some s' =>
      have := decidableMeets G s' es
      decidable_of_iff (G s e ∧ Meets step G s' es) (by simp [Meets, h])

theorem Always.head {P : σ → Prop} {s : σ} {es : List ε} (h : Always step P s es) : P s := by
  cases es with
  | nil => exact h
  | cons e es => exact h.1

/-- `Always` is what it says: the property of each state reached by a prefix of the run. -/
theorem always_iff_visited (P : σ → Prop) (s : σ) (es : List ε) :
    Always step P s es ↔ ∀ pre suf s', es = pre ++ suf → run step s pre = some s' → P s' := by
  induction es generalizing s with
  | nil =>
    constructor
    · intro h pre suf s' hSplit hRun
      obtain ⟨rfl, rfl⟩ := List.nil_eq_append_iff.mp hSplit
      cases hRun
      exact h
    · intro h
      exact h [] [] s rfl rfl
  | cons e es ih =>
    constructor
    · rintro ⟨hHere, hRest⟩ pre suf s' hSplit hRun
      cases pre with
      | nil => cases hRun; exact hHere
      | cons e' pre =>
        obtain ⟨rfl, hTail⟩ := List.cons.inj hSplit
        obtain ⟨mid, hStep, hRun⟩ := Option.bind_eq_some_iff.mp hRun
        exact (ih mid).mp (hRest mid hStep) pre suf s' hTail hRun
    · intro h
      refine ⟨h [] (e :: es) s rfl rfl, fun mid hStep => (ih mid).mpr ?_⟩
      intro pre suf s' hSplit hRun
      exact h (e :: pre) suf s' (congrArg (e :: ·) hSplit)
        (Option.bind_eq_some_iff.mpr ⟨mid, hStep, hRun⟩)

theorem Always.last {P : σ → Prop} {s s' : σ} {es : List ε} (h : Always step P s es)
    (hRun : run step s es = some s') : P s' :=
  (always_iff_visited P s es).mp h es [] s' (List.append_nil es).symm hRun

theorem run_invariant {Inv : σ → Prop}
    (keep : ∀ {s e s'}, Inv s → step s e = some s' → Inv s') {s s' : σ} {es : List ε}
    (hInv : Inv s) (hRun : run step s es = some s') : Inv s' := by
  induction es generalizing s with
  | nil => cases hRun; exact hInv
  | cons e es ih =>
    obtain ⟨mid, hStep, hRun⟩ := Option.bind_eq_some_iff.mp hRun
    exact ih (keep hInv hStep) hRun

/-- What the steps of a run cost together is paid from a potential that no step raises. -/
theorem run_potential {Inv : σ → Prop} {G : ε → Prop} {potential : σ → Nat} {cost : ε → Nat}
    (keep : ∀ {s e s'}, Inv s → G e → step s e = some s' →
      Inv s' ∧ potential s' + cost e ≤ potential s)
    {s s' : σ} {es : List ε} (hInv : Inv s) (hEvents : ∀ e ∈ es, G e)
    (hRun : run step s es = some s') :
    Inv s' ∧ potential s' + (es.map cost).sum ≤ potential s := by
  induction es generalizing s with
  | nil => cases hRun; exact ⟨hInv, Nat.le_refl _⟩
  | cons e es ih =>
    obtain ⟨mid, hStep, hRun⟩ := Option.bind_eq_some_iff.mp hRun
    obtain ⟨hG, hRest⟩ := List.forall_mem_cons.mp hEvents
    obtain ⟨hMid, hFirst⟩ := keep hInv hG hStep
    obtain ⟨hLast, hPaid⟩ := ih hMid hRest hRun
    refine ⟨hLast, ?_⟩
    rw [List.map_cons, List.sum_cons]
    omega

theorem always_of_meets {Inv P : σ → Prop} {G : σ → ε → Prop}
    (keep : ∀ {s e s'}, Inv s → G s e → step s e = some s' → Inv s')
    (safe : ∀ {s}, Inv s → P s) {s : σ} {es : List ε} (hInv : Inv s)
    (hMeets : Meets step G s es) : Always step P s es := by
  induction es generalizing s with
  | nil => exact safe hInv
  | cons e es ih =>
    refine ⟨safe hInv, fun s' hStep => ?_⟩
    obtain ⟨hG, hRest⟩ := hMeets s' hStep
    exact ih (keep hInv hG hStep) hRest

/-- An invariant that every step keeps needs no condition. -/
theorem always_of_invariant {Inv P : σ → Prop}
    (keep : ∀ {s e s'}, Inv s → step s e = some s' → Inv s')
    (safe : ∀ {s}, Inv s → P s) {s : σ} {es : List ε} (hInv : Inv s) : Always step P s es := by
  induction es generalizing s with
  | nil => exact safe hInv
  | cons e es ih => exact ⟨safe hInv, fun s' hStep => ih (keep hInv hStep)⟩

/-- When the condition says exactly which single steps keep the property, it says so of runs:
the invariant only has to survive the steps that do keep it. -/
theorem always_iff_meets {Inv P : σ → Prop} {G : σ → ε → Prop}
    (keep : ∀ {s e s'}, Inv s → P s → step s e = some s' → P s' → Inv s')
    (exact_step : ∀ {s e s'}, Inv s → P s → step s e = some s' → (P s' ↔ G s e))
    {s : σ} {es : List ε} (hInv : Inv s) (hP : P s) :
    Always step P s es ↔ Meets step G s es := by
  induction es generalizing s with
  | nil => exact ⟨fun _ => trivial, fun _ => hP⟩
  | cons e es ih =>
    constructor
    · rintro ⟨_, hRest⟩ s' hStep
      have hNext : P s' := (hRest s' hStep).head
      exact ⟨(exact_step hInv hP hStep).mp hNext,
        (ih (keep hInv hP hStep hNext) hNext).mp (hRest s' hStep)⟩
    · intro hMeets
      refine ⟨hP, fun s' hStep => ?_⟩
      obtain ⟨hG, hRest⟩ := hMeets s' hStep
      have hNext : P s' := (exact_step hInv hP hStep).mpr hG
      exact (ih (keep hInv hP hStep hNext) hNext).mpr hRest

/-- Two systems that answer the same events in step: related states stay related, and one of
them refuses an event exactly when the other does. -/
theorem run_lockstep {τ : Type w} {step' : τ → ε → Option τ} {R : σ → τ → Prop} {P : τ → Prop}
    (keep : ∀ {s t e}, R s t → (∀ t', step' t e = some t' → P t') →
      Option.Rel R (step s e) (step' t e))
    {s : σ} {t : τ} {es : List ε} (hR : R s t) (hAlways : Always step' P t es) :
    Option.Rel R (run step s es) (run step' t es) := by
  induction es generalizing s t with
  | nil => exact Option.Rel.some hR
  | cons e es ih =>
    obtain ⟨-, hRest⟩ := hAlways
    have hNext := keep (e := e) hR fun t' hStep => (hRest t' hStep).head
    rw [run_cons, run_cons]
    cases hs : step s e with
    | none =>
      cases ht : step' t e with
      | none => exact Option.Rel.none
      | some t' => rw [hs, ht] at hNext; cases hNext
    | some s' =>
      cases ht : step' t e with
      | none => rw [hs, ht] at hNext; cases hNext
      | some t' =>
        rw [hs, ht] at hNext
        cases hNext with
        | some hR' => exact ih hR' (hRest t' ht)

theorem rel_imp {τ : Type w} {R R' : σ → τ → Prop} {s : Option σ} {t : Option τ}
    (h : Option.Rel R s t) (hImp : ∀ a b, R a b → R' a b) : Option.Rel R' s t := by
  cases h with
  | none => exact Option.Rel.none
  | some h => exact Option.Rel.some (hImp _ _ h)

theorem rel_map {τ σ' τ' : Type w} {R : σ → τ → Prop} {R' : σ' → τ' → Prop} {f : σ → σ'}
    {g : τ → τ'} {s : Option σ} {t : Option τ} (h : Option.Rel R s t)
    (hKeep : ∀ a b, R a b → R' (f a) (g b)) : Option.Rel R' (s.map f) (t.map g) := by
  cases h with
  | none => exact Option.Rel.none
  | some h => exact Option.Rel.some (hKeep _ _ h)

theorem rel_bind {τ σ' τ' : Type w} {R : σ → τ → Prop} {R' : σ' → τ' → Prop} {f : σ → Option σ'}
    {g : τ → Option τ'} {s : Option σ} {t : Option τ} (h : Option.Rel R s t)
    (hKeep : ∀ a b, R a b → Option.Rel R' (f a) (g b)) : Option.Rel R' (s.bind f) (t.bind g) := by
  cases h with
  | none => exact Option.Rel.none
  | some h => exact hKeep _ _ h

theorem map_eq_of_rel {τ : Type w} {ω : Type v} {R : σ → τ → Prop} {f : σ → ω} {g : τ → ω}
    {s : Option σ} {t : Option τ} (h : Option.Rel R s t) (hEq : ∀ {a b}, R a b → f a = g b) :
    s.map f = t.map g := by
  cases h with
  | none => rfl
  | some h => exact congrArg some (hEq h)

end Transition
