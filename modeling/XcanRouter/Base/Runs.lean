import Mathlib.Data.List.Infix

/-!
# Base — runs of a step function

A machine is a step function `σ → ε → Option σ` on states and events, `none`
for a step that has no result. This module carries an argument about ONE step
to whole runs: invariants of every state reached, results of runs that never
get stuck, and the exact form, in which a property holds in all states of a
run if and only if every step of the run met its guard.
-/

namespace Runs

variable {σ ε : Type*} {step : σ → ε → Option σ}

/-- The state after the events `es` from `s`. -/
def run (step : σ → ε → Option σ) : σ → List ε → Option σ
  | s, [] => some s
  | s, e :: es => (step s e).bind fun s' => run step s' es

/-- The machine of a step function that always has a result. -/
def total (f : σ → ε → σ) : σ → ε → Option σ := fun s e => some (f s e)

/-- `P` holds in `s` and in every state reached by a prefix of `es`. -/
def Always (step : σ → ε → Option σ) (P : σ → Prop) : σ → List ε → Prop
  | s, [] => P s
  | s, e :: es => P s ∧ ∀ s', step s e = some s' → Always step P s' es

/-- Every step of the run meets `G` in the state before it. -/
def Meets (step : σ → ε → Option σ) (G : σ → ε → Prop) : σ → List ε → Prop
  | _, [] => True
  | s, e :: es => G s e ∧ ∀ s', step s e = some s' → Meets step G s' es

theorem run_cons (s : σ) (e : ε) (es : List ε) :
    run step s (e :: es) = (step s e).bind fun s' => run step s' es := rfl

theorem run_append (s : σ) (es es' : List ε) :
    run step s (es ++ es') = (run step s es).bind fun s' => run step s' es' := by
  induction es generalizing s with
  | nil => rfl
  | cons e es ih =>
      rw [List.cons_append, run_cons, run_cons, Option.bind_assoc]
      simp only [ih]

/-- A condition on the events alone. -/
theorem meets_of_forall {G : ε → Prop} {s : σ} {es : List ε} (h : ∀ e ∈ es, G e) :
    Meets step (fun _ e => G e) s es := by
  induction es generalizing s with
  | nil => trivial
  | cons e es ih =>
      exact ⟨h e (by simp), fun _ _ => ih fun e' he' => h e' (by simp [he'])⟩

/-- A condition that an event meets in every state. -/
theorem meets_of_forall_state {G : σ → ε → Prop} {s : σ} {es : List ε}
    (h : ∀ e ∈ es, ∀ s, G s e) : Meets step G s es := by
  induction es generalizing s with
  | nil => trivial
  | cons e es ih =>
      exact ⟨h e (by simp) s, fun _ _ => ih fun e' he' => h e' (by simp [he'])⟩

/-- A run of steps that all return is checked on its events. -/
theorem meets_iff_forall {I : σ → Prop} {A : σ → ε → Prop} {G : ε → Prop}
    (hstep : ∀ s e, I s → A s e → G e → ∃ s', step s e = some s' ∧ I s')
    {s : σ} {es : List ε} (hI : I s) (hA : Meets step A s es) :
    Meets step (fun _ e => G e) s es ↔ ∀ e ∈ es, G e := by
  refine ⟨fun h => ?_, meets_of_forall⟩
  induction es generalizing s with
  | nil => simp
  | cons e es ih =>
      obtain ⟨s₁, h₁, hI₁⟩ := hstep s e hI hA.1 h.1
      intro e' he'
      rcases List.mem_cons.mp he' with rfl | he'
      · exact h.1
      · exact ih hI₁ (hA.2 s₁ h₁) (h.2 s₁ h₁) e' he'

theorem meets_total_cons {f : σ → ε → σ} {G : σ → ε → Prop} {s : σ} {e : ε} {es : List ε} :
    Meets (total f) G s (e :: es) ↔ G s e ∧ Meets (total f) G (f s e) es := by
  apply and_congr_right
  intro _
  constructor
  · intro h
    exact h (f s e) rfl
  · intro h s' hs'
    cases hs'
    exact h

theorem meets_total_append {f : σ → ε → σ} {G : σ → ε → Prop} {s : σ} {es es' : List ε} :
    Meets (total f) G s (es ++ es') ↔
      Meets (total f) G s es ∧ Meets (total f) G (es.foldl f s) es' := by
  induction es generalizing s with
  | nil => exact (and_iff_right trivial).symm
  | cons e es ih =>
      rw [List.cons_append, meets_total_cons, meets_total_cons, ih, and_assoc]
      rfl

theorem Always.head {P : σ → Prop} {s : σ} {es : List ε}
    (h : Always step P s es) : P s := by
  cases es with
  | nil => exact h
  | cons e es => exact h.1

/-- **The run lemma**: an invariant that every guarded step establishes
anew is carried through a run of guarded steps, which never gets stuck. -/
theorem run_of_inv {I : σ → Prop} {G : σ → ε → Prop}
    (hstep : ∀ s e, I s → G s e → ∃ s', step s e = some s' ∧ I s')
    {s : σ} {es : List ε} (hI : I s) (hG : Meets step G s es) :
    ∃ s', run step s es = some s' ∧ I s' := by
  induction es generalizing s with
  | nil => exact ⟨s, rfl, hI⟩
  | cons e es ih =>
      obtain ⟨s₁, h₁, hI₁⟩ := hstep s e hI hG.1
      obtain ⟨s', h', hI'⟩ := ih hI₁ (hG.2 s₁ h₁)
      exact ⟨s', by rw [run_cons, h₁]; exact h', hI'⟩

/-- An invariant of guarded steps holds where a guarded run ends. -/
theorem inv_of_run {I : σ → Prop} {G : σ → ε → Prop}
    (hstep : ∀ s e s', I s → G s e → step s e = some s' → I s')
    {s s' : σ} {es : List ε} (hI : I s) (hG : Meets step G s es)
    (hrun : run step s es = some s') : I s' := by
  induction es generalizing s with
  | nil =>
      cases hrun
      exact hI
  | cons e es ih =>
      rw [run_cons] at hrun
      obtain ⟨s₁, h₁, hrun⟩ := Option.bind_eq_some_iff.mp hrun
      exact ih (hstep s e s₁ hI hG.1 h₁) (hG.2 s₁ h₁) hrun

theorem Meets.and {G H : σ → ε → Prop} {s : σ} {es : List ε}
    (hG : Meets step G s es) (hH : Meets step H s es) :
    Meets step (fun s e => G s e ∧ H s e) s es := by
  induction es generalizing s with
  | nil => trivial
  | cons e es ih => exact ⟨⟨hG.1, hH.1⟩, fun s' h => ih (hG.2 s' h) (hH.2 s' h)⟩

/-- What an invariant of guarded steps gives holds all along a guarded run. -/
theorem always_of_inv {I P : σ → Prop} {G : σ → ε → Prop} (hP : ∀ s, I s → P s)
    (hstep : ∀ s e s', I s → G s e → step s e = some s' → I s')
    {s : σ} {es : List ε} (hI : I s) (hG : Meets step G s es) : Always step P s es := by
  induction es generalizing s with
  | nil => exact hP s hI
  | cons e es ih =>
      constructor
      · exact hP s hI
      · intro s' h
        exact ih (hstep s e s' hI hG.1 h) (hG.2 s' h)

/-- What guarded steps do is done by every step of a guarded run. -/
theorem meets_of_inv {I : σ → Prop} {A G H : σ → ε → Prop}
    (hstep : ∀ s e s', I s → A s e → G s e → step s e = some s' → I s')
    (hH : ∀ s e, I s → A s e → G s e → H s e)
    {s : σ} {es : List ε} (hI : I s) (hA : Meets step A s es) (hG : Meets step G s es) :
    Meets step H s es := by
  induction es generalizing s with
  | nil => trivial
  | cons e es ih =>
      exact ⟨hH s e hI hA.1 hG.1, fun s' h =>
        ih (hstep s e s' hI hA.1 hG.1 h) (hA.2 s' h) (hG.2 s' h)⟩

/-- Along runs that keep an invariant, guards that agree under it agree. -/
theorem meets_congr {I : σ → Prop} {A G H : σ → ε → Prop}
    (hstep : ∀ s e s', I s → A s e → step s e = some s' → I s')
    (hGH : ∀ s e, I s → A s e → (G s e ↔ H s e))
    {s : σ} {es : List ε} (hI : I s) (hA : Meets step A s es) :
    Meets step G s es ↔ Meets step H s es := by
  induction es generalizing s with
  | nil => exact Iff.rfl
  | cons e es ih =>
      refine and_congr (hGH s e hI hA.1) (forall_congr' fun s' => ?_)
      exact imp_congr_right fun h => ih (hstep s e s' hI hA.1 h) (hA.2 s' h)

/-- **The exact form**: when admissible steps that meet `G` keep an invariant
that gives `P`, and an admissible step that misses `G` ends in a state without
`P`, then `P` holds all along a run if and only if every step meets `G`. -/
theorem always_iff_meets {I P : σ → Prop} {A G : σ → ε → Prop}
    (hP : ∀ s, I s → P s)
    (hgood : ∀ s e s', I s → A s e → G s e → step s e = some s' → I s')
    (hbad : ∀ s e, I s → A s e → ¬ G s e → ∃ s', step s e = some s' ∧ ¬ P s')
    {s : σ} {es : List ε} (hI : I s) (hA : Meets step A s es) :
    Always step P s es ↔ Meets step G s es := by
  induction es generalizing s with
  | nil => exact ⟨fun _ => trivial, fun _ => hP s hI⟩
  | cons e es ih =>
      constructor
      · rintro ⟨-, hes⟩
        have hG : G s e := by
          by_contra hG
          -- the step that misses the guard ends in a state of the run
          obtain ⟨s', hs', hP'⟩ := hbad s e hI hA.1 hG
          exact hP' (hes s' hs').head
        exact ⟨hG, fun s' hs' =>
          (ih (hgood s e s' hI hA.1 hG hs') (hA.2 s' hs')).mp (hes s' hs')⟩
      · rintro ⟨hG, hes⟩
        exact ⟨hP s hI, fun s' hs' =>
          (ih (hgood s e s' hI hA.1 hG hs') (hA.2 s' hs')).mpr (hes s' hs')⟩

end Runs
