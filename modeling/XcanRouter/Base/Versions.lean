import Mathlib.Data.List.Basic
import XcanRouter.Base.Trace

/-!
# Base — versioned cells

A family of cells that hold a value and its version. An update names a cell
and brings a value with a version, and it is only taken when that version is
greater than the cell's. Over a run of taken updates the versions of a cell
ascend strictly, and the cell holds the last of its updates.
-/

/-- A value, and the version of it. -/
structure Versioned (α : Type*) where
  value : α
  version : Nat
deriving DecidableEq

namespace Versions

variable {ι α : Type*} [DecidableEq ι]

/-- The cells after an update. -/
def install (c : ι → Versioned α) (u : ι × Versioned α) : ι → Versioned α :=
  Function.update c u.1 u.2

@[simp] theorem install_self (c : ι → Versioned α) (u : ι × Versioned α) :
    install c u u.1 = u.2 := by
  simp [install]

@[simp] theorem install_of_ne (c : ι → Versioned α) {u : ι × Versioned α} {i : ι}
    (h : i ≠ u.1) : install c u i = c i := by
  simp [install, h]

/-- Each update is newer than the cell it is installed in. -/
def Ascend : (ι → Versioned α) → List (ι × Versioned α) → Prop
  | _, [] => True
  | c, u :: us => (c u.1).version < u.2.version ∧ Ascend (install c u) us

/-- What is brought to cell `i`. -/
def updatesOf (i : ι) (us : List (ι × Versioned α)) : List (Versioned α) :=
  (us.filter fun u => u.1 = i).map Prod.snd

/-- The cells go from `c` to `c'` by the updates `us`. -/
structure Follows (c c' : ι → Versioned α) (us : List (ι × Versioned α)) : Prop where
  /-- The versions of a cell ascend, from the one it had. -/
  ascending : ∀ i,
    ((c i).version :: (updatesOf i us).map Versioned.version).Pairwise (· < ·)
  /-- A cell holds its last update, if there was one. -/
  latest : ∀ i, c' i = (updatesOf i us).getLast?.getD (c i)

variable {c c' : ι → Versioned α} {us vs : List (ι × Versioned α)}

theorem ascend_append :
    Ascend c (us ++ vs) ↔ Ascend c us ∧ Ascend (us.foldl install c) vs := by
  induction us generalizing c with
  | nil => simp [Ascend]
  | cons u us ih => simp [Ascend, ih, and_assoc]

theorem Ascend.pairwise (h : Ascend c us) (i : ι) :
    ((c i).version :: (updatesOf i us).map Versioned.version).Pairwise (· < ·) := by
  induction us generalizing c with
  | nil => simp [updatesOf]
  | cons u us ih =>
      have hrest := ih h.2
      rcases eq_or_ne u.1 i with rfl | hi
      · -- all that follows is newer than the update, and so than the cell was
        rw [install_self] at hrest
        have hall := (List.pairwise_cons.mp hrest).1
        have hlt := h.1
        simp only [updatesOf, List.filter_cons, decide_true, if_true, List.map_cons]
        refine List.pairwise_cons.mpr ⟨?_, hrest⟩
        intro v hv
        rcases List.mem_cons.mp hv with rfl | hv
        · exact hlt
        · exact Nat.lt_trans hlt (hall v hv)
      · rw [install_of_ne c hi.symm] at hrest
        simpa [updatesOf, hi] using hrest

theorem foldl_install (c : ι → Versioned α) (us : List (ι × Versioned α)) (i : ι) :
    us.foldl install c i = (updatesOf i us).getLast?.getD (c i) := by
  have hset : ∀ (c : ι → Versioned α) (u : ι × Versioned α), decide (u.1 = i) = true →
      install c u i = u.2 := by
    intro c u hu
    rw [← of_decide_eq_true hu, install_self]
  have hkeep : ∀ (c : ι → Versioned α) (u : ι × Versioned α), decide (u.1 = i) = false →
      install c u i = c i := by
    intro c u hu
    exact install_of_ne c (Ne.symm (of_decide_eq_false hu))
  have hlast := Runs.foldl_last (fun c : ι → Versioned α => c i) hset hkeep us c
  rw [hlast, updatesOf, List.getLast?_map]

theorem Ascend.follows (h : Ascend c us) (hc' : c' = us.foldl install c) : Follows c c' us where
  ascending := h.pairwise
  latest i := by rw [hc', foldl_install]

/-- The version of a cell never falls. -/
theorem Follows.version_le (h : Follows c c' us) (i : ι) : (c i).version ≤ (c' i).version := by
  rw [h.latest i]
  cases hlast : (updatesOf i us).getLast? with
  | none => simp
  | some v =>
      have hmem : v.version ∈ (updatesOf i us).map Versioned.version :=
        List.mem_map_of_mem (List.mem_of_getLast? hlast)
      exact Nat.le_of_lt ((List.pairwise_cons.mp (h.ascending i)).1 v.version hmem)

/-- **A run of taken updates**: when each step of a machine installs what it
takes, and takes only what is newer, the cells follow what the run took. -/
theorem follows_of_run {σ ε : Type*} {f : σ → ε → σ} {I : σ → Prop} {A : σ → ε → Prop}
    (cells : σ → ι → Versioned α) {out : σ → ε → List (ι × Versioned α)}
    (hkeep : ∀ s e, I s → A s e → I (f s e))
    (hnewer : ∀ s e, I s → A s e → Ascend (cells s) (out s e))
    (hcells : ∀ s e, I s → A s e → cells (f s e) = (out s e).foldl install (cells s))
    {s : σ} {es : List ε} (h : I s) (hes : Runs.Meets (Runs.total f) A s es) :
    Follows (cells s) (cells (es.foldl f s)) (Runs.trace f out s es) := by
  have hrun : Ascend (cells s) (Runs.trace f out s es) ∧
      cells (es.foldl f s) = (Runs.trace f out s es).foldl install (cells s) := by
    induction es generalizing s with
    | nil => exact ⟨trivial, rfl⟩
    | cons e es ih =>
        rw [Runs.meets_total_cons] at hes
        have hrest := ih (hkeep s e h hes.1) hes.2
        rw [hcells s e h hes.1] at hrest
        rw [Runs.trace_cons, ascend_append, List.foldl_append]
        exact ⟨⟨hnewer s e h hes.1, hrest.1⟩, hrest.2⟩
  exact hrun.1.follows hrun.2

end Versions
