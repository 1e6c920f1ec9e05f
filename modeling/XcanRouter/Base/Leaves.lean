import XcanRouter.Base.Prog

/-!
# Base — what a program leaves alone

A view of the state that is after a program what it was before, whenever the
program returns. There is a rule for each way in which programs are put
together, so that a program leaves alone what its statements leave alone.
-/

namespace Prog

variable {σ τ α β : Type} {view : σ → τ}

/-- When `p` returns, the view is what it was. -/
def Leaves (view : σ → τ) (p : Prog σ α) : Prop :=
  ∀ s a s', p s = some (a, s') → view s' = view s

theorem leaves_pure (a : α) : (pure a : Prog σ α).Leaves view := by
  intro s _ s' h
  cases h
  rfl

theorem leaves_diverge : (diverge : Prog σ α).Leaves view := by
  intro s _ s' h
  cases h

theorem leaves_state : (state : Prog σ σ).Leaves view := by
  intro s _ s' h
  cases h
  rfl

theorem leaves_modify {f : σ → σ} (hf : ∀ s, view (f s) = view s) :
    (modify f).Leaves view := by
  intro s _ s' h
  cases h
  exact hf s

theorem Leaves.bind {x : Prog σ α} {k : α → Prog σ β} (hx : x.Leaves view)
    (hk : ∀ a, (k a).Leaves view) : (x >>= k).Leaves view := by
  intro s b s'' h
  obtain ⟨⟨a, s'⟩, hs', hs''⟩ := Option.bind_eq_some_iff.mp h
  exact (hk a s' b s'' hs'').trans (hx s a s' hs')

theorem Leaves.ite {c : Prop} [Decidable c] {x y : Prog σ α} (hx : x.Leaves view)
    (hy : y.Leaves view) : (if c then x else y).Leaves view := by
  split
  · exact hx
  · exact hy

end Prog
