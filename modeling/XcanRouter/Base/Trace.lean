import XcanRouter.Base.Runs

/-!
# Base — traces of runs

A function of the state before a step and of its event tells what the step
brings about; collected along a run this is a trace. A stage of a pipeline is
a FIFO when in each step what it held and what came in is what went out and
what it holds then, and a whole run is then accounted for in the same way. A
machine that follows another one has its traces.
-/

namespace Runs

variable {σ τ ε α β : Type*} {f : σ → ε → σ} {g : τ → ε → τ}
variable {s : σ} {t : τ} {es : List ε} {A : ε → Prop}

/-- What `out` gives in the steps on `es` from `s`, in order. -/
def trace (f : σ → ε → σ) (out : σ → ε → List α) : σ → List ε → List α
  | _, [] => []
  | s, e :: es => out s e ++ trace f out (f s e) es

@[simp] theorem trace_nil (out : σ → ε → List α) (s : σ) : trace f out s [] = [] := rfl

@[simp] theorem trace_cons (out : σ → ε → List α) (s : σ) (e : ε) (es : List ε) :
    trace f out s (e :: es) = out s e ++ trace f out (f s e) es := rfl

/-- An invariant of guarded steps holds where a guarded run ends. -/
theorem foldl_of_meets {I : σ → Prop} {G : σ → ε → Prop}
    (hstep : ∀ s e, I s → G s e → I (f s e)) (h : I s) (hes : Meets (total f) G s es) :
    I (es.foldl f s) := by
  induction es generalizing s with
  | nil => exact h
  | cons e es ih =>
      rw [meets_total_cons] at hes
      exact ih (hstep s e h hes.1) hes.2

/-- An invariant of the steps of a machine holds where a run of it ends. -/
theorem foldl_of_inv {I : σ → Prop} (hstep : ∀ s e, I s → A e → I (f s e)) (h : I s)
    (hes : ∀ e ∈ es, A e) : I (es.foldl f s) :=
  foldl_of_meets hstep h (meets_of_forall hes)

/-! ## Stages -/

/-- **A stage neither loses nor reorders**, in the states of an invariant. -/
theorem trace_flow_of_inv {I : σ → Prop} (held : σ → List α) {ins outs : σ → ε → List α}
    (hstep : ∀ s e, I s → A e → I (f s e))
    (hflow : ∀ s e, I s → held s ++ ins s e = outs s e ++ held (f s e)) (h : I s)
    (hes : ∀ e ∈ es, A e) :
    held s ++ trace f ins s es = trace f outs s es ++ held (es.foldl f s) := by
  induction es generalizing s with
  | nil => simp
  | cons e es ih =>
      have hrest := ih (hstep s e h (hes e (by simp))) fun e' he' => hes e' (by simp [he'])
      rw [trace_cons, trace_cons, List.foldl_cons, ← List.append_assoc, hflow s e h,
        List.append_assoc, hrest, List.append_assoc]

theorem trace_flow (held : σ → List α) {ins outs : σ → ε → List α}
    (hflow : ∀ s e, held s ++ ins s e = outs s e ++ held (f s e)) (s : σ) (es : List ε) :
    held s ++ trace f ins s es = trace f outs s es ++ held (es.foldl f s) :=
  trace_flow_of_inv (I := fun _ => True) (A := fun _ => True) held (fun _ _ _ _ => trivial)
    (fun s e _ => hflow s e) trivial fun _ _ => trivial

/-- A value that each step folds its output into. -/
theorem foldl_trace (val : σ → β) {add : β → α → β} {out : σ → ε → List α}
    (hadd : ∀ s e, val (f s e) = (out s e).foldl add (val s)) (s : σ) (es : List ε) :
    val (es.foldl f s) = (trace f out s es).foldl add (val s) := by
  induction es generalizing s with
  | nil => rfl
  | cons e es ih =>
      rw [List.foldl_cons, ih, trace_cons, List.foldl_append, hadd]

/-- A list that each step adds its output to, in the states of an invariant. -/
theorem foldl_append_trace_of_inv {I : σ → Prop} (val : σ → List α) {out : σ → ε → List α}
    (hstep : ∀ s e, I s → A e → I (f s e))
    (hadd : ∀ s e, I s → val (f s e) = val s ++ out s e) (h : I s) (hes : ∀ e ∈ es, A e) :
    val (es.foldl f s) = val s ++ trace f out s es := by
  induction es generalizing s with
  | nil => simp
  | cons e es ih =>
      have hrest := ih (hstep s e h (hes e (by simp))) fun e' he' => hes e' (by simp [he'])
      rw [List.foldl_cons, hrest, hadd s e h, trace_cons, List.append_assoc]

theorem foldl_append_trace (val : σ → List α) {out : σ → ε → List α}
    (hadd : ∀ s e, val (f s e) = val s ++ out s e) (s : σ) (es : List ε) :
    val (es.foldl f s) = val s ++ trace f out s es :=
  foldl_append_trace_of_inv (I := fun _ => True) (A := fun _ => True) val
    (fun _ _ _ _ => trivial) (fun s e _ => hadd s e) trivial fun _ _ => trivial

/-- What is true of every output in the states of an invariant is true of the
trace. -/
theorem forall_mem_trace {I : σ → Prop} {Q : α → Prop} {out : σ → ε → List α}
    (hstep : ∀ s e, I s → A e → I (f s e)) (hout : ∀ s e, I s → ∀ a ∈ out s e, Q a) (h : I s)
    (hes : ∀ e ∈ es, A e) : ∀ a ∈ trace f out s es, Q a := by
  induction es generalizing s with
  | nil => simp
  | cons e es ih =>
      intro a ha
      have hrest := ih (hstep s e h (hes e (by simp))) fun e' he' => hes e' (by simp [he'])
      rcases List.mem_append.mp ha with ha | ha
      · exact hout s e h a ha
      · exact hrest a ha

/-- **The last write wins**: a field that some elements set, whatever it was,
and the others leave alone. -/
theorem foldl_last {γ : Type*} {add : β → α → β} (field : β → γ) {sets : α → Bool} {v : α → γ}
    (hset : ∀ b a, sets a = true → field (add b a) = v a)
    (hkeep : ∀ b a, sets a = false → field (add b a) = field b) (l : List α) (b : β) :
    field (l.foldl add b) = ((l.filter sets).getLast?.map v).getD (field b) := by
  induction l generalizing b with
  | nil => rfl
  | cons a l ih =>
      rw [List.foldl_cons, ih, List.filter_cons]
      cases ha : sets a with
      | true =>
          rw [if_pos rfl, List.getLast?_cons, hset b a ha]
          cases (l.filter sets).getLast? <;> rfl
      | false => rw [if_neg Bool.false_ne_true, hkeep b a ha]

theorem trace_sublist {outs ins : σ → ε → List α} (h : ∀ s e, (outs s e).Sublist (ins s e))
    (s : σ) (es : List ε) : (trace f outs s es).Sublist (trace f ins s es) := by
  induction es generalizing s with
  | nil => exact List.Sublist.refl []
  | cons e es ih => exact (h s e).append (ih (f s e))

theorem trace_filter (p : α → Bool) (out : σ → ε → List α) (s : σ) (es : List ε) :
    (trace f out s es).filter p = trace f (fun s e => (out s e).filter p) s es := by
  induction es generalizing s with
  | nil => rfl
  | cons e es ih => rw [trace_cons, List.filter_append, ih, trace_cons]

theorem trace_map (k : α → β) (out : σ → ε → List α) (s : σ) (es : List ε) :
    (trace f out s es).map k = trace f (fun s e => (out s e).map k) s es := by
  induction es generalizing s with
  | nil => rfl
  | cons e es ih => rw [trace_cons, List.map_append, ih, trace_cons]

theorem trace_flatMap (k : α → List β) (out : σ → ε → List α) (s : σ) (es : List ε) :
    (trace f out s es).flatMap k = trace f (fun s e => (out s e).flatMap k) s es := by
  induction es generalizing s with
  | nil => rfl
  | cons e es ih => rw [trace_cons, List.flatMap_append, ih, trace_cons]

/-! ## Machines that follow one another -/

variable {R : σ → τ → Prop}

/-- **A simulation carries over to runs.** -/
theorem foldl_of_simulation (hstep : ∀ s t e, R s t → A e → R (f s e) (g t e)) (h : R s t)
    (hes : ∀ e ∈ es, A e) : R (es.foldl f s) (es.foldl g t) := by
  induction es generalizing s t with
  | nil => exact h
  | cons e es ih =>
      apply ih
      · exact hstep s t e h (hes e (by simp))
      · exact fun e' he' => hes e' (by simp [he'])

/-- What one step shows in both machines is shown in runs. -/
theorem trace_of_simulation {out : σ → ε → List α} {out' : τ → ε → List α}
    (hstep : ∀ s t e, R s t → A e → R (f s e) (g t e))
    (hout : ∀ s t e, R s t → A e → out s e = out' t e) (h : R s t) (hes : ∀ e ∈ es, A e) :
    trace f out s es = trace g out' t es := by
  induction es generalizing s t with
  | nil => rfl
  | cons e es ih =>
      have hrest := ih (hstep s t e h (hes e (by simp))) fun e' he' => hes e' (by simp [he'])
      rw [trace_cons, trace_cons, hout s t e h (hes e (by simp)), hrest]

/-- **Refinement in changing numbers of steps**: when what a step brings about
takes an abstract machine from one view of the state to the next, the trace of
a run takes it from the first view to the last. -/
theorem run_trace {ρ : Type*} {I : σ → Prop} {G : σ → ε → Prop} {view : σ → ρ}
    {abstract : ρ → α → Option ρ} {out : σ → ε → List α}
    (hstep : ∀ s e, I s → G s e → I (f s e))
    (hview : ∀ s e, I s → G s e → run abstract (view s) (out s e) = some (view (f s e)))
    (h : I s) (hes : Meets (total f) G s es) :
    run abstract (view s) (trace f out s es) = some (view (es.foldl f s)) := by
  induction es generalizing s with
  | nil => rfl
  | cons e es ih =>
      rw [meets_total_cons] at hes
      rw [trace_cons, run_append, hview s e h hes.1, Option.bind_some, List.foldl_cons]
      exact ih (hstep s e h hes.1) hes.2

/-! ## Progress -/

/-- **Work is done**: when each `busy` event takes one unit off the work and no
other event adds to it, what is left is at most what there was less the number
of busy events. -/
theorem work_le {I : σ → Prop} (work : σ → Nat) (busy : ε → Bool)
    (hstep : ∀ s e, I s → A e → I (f s e))
    (hbusy : ∀ s e, I s → A e → busy e = true → work (f s e) ≤ work s - 1)
    (hidle : ∀ s e, I s → A e → busy e = false → work (f s e) ≤ work s) (h : I s)
    (hes : ∀ e ∈ es, A e) : work (es.foldl f s) ≤ work s - es.countP busy := by
  induction es generalizing s with
  | nil => exact Nat.le_refl _
  | cons e es ih =>
      have hrest := ih (hstep s e h (hes e (by simp))) fun e' he' => hes e' (by simp [he'])
      rw [List.foldl_cons, List.countP_cons]
      cases he : busy e with
      | true =>
          have hone := hbusy s e h (hes e (by simp)) he
          rw [if_pos rfl]
          omega
      | false =>
          have hsame := hidle s e h (hes e (by simp)) he
          rw [if_neg Bool.false_ne_true]
          omega

end Runs
