/-!
# Base — programs with loops

Programs over a state that may fail to return. A `while` loop is a recursion
on an amount of fuel, and `diverge` is what an exhausted loop gives: a program
returns when SOME amount of fuel gives a result, and any larger amount then
gives the same one.
-/

/-- A program over states `σ` with results in `α`; `none` when it does not
return. -/
def Prog (σ α : Type) : Type := σ → Option (α × σ)

namespace Prog

variable {σ α β : Type}

instance : Monad (Prog σ) where
  pure a := fun s => some (a, s)
  bind x k := fun s => (x s).bind fun r => k r.1 r.2

def diverge : Prog σ α := fun _ => none

/-- A statement that changes the state and always returns. -/
def modify (f : σ → σ) : Prog σ Unit := fun s => some ((), f s)

/-- The current state, for a statement that reads it. -/
def state : Prog σ σ := fun s => some (s, s)

@[simp] theorem pure_apply (a : α) (s : σ) :
    (pure a : Prog σ α) s = some (a, s) := rfl

@[simp] theorem bind_apply (x : Prog σ α) (k : α → Prog σ β) (s : σ) :
    (x >>= k) s = (x s).bind fun r => k r.1 r.2 := rfl

@[simp] theorem diverge_apply (s : σ) : (diverge : Prog σ α) s = none := rfl

@[simp] theorem modify_apply (f : σ → σ) (s : σ) :
    modify f s = some ((), f s) := rfl

@[simp] theorem state_apply (s : σ) : (state : Prog σ σ) s = some (s, s) := rfl

@[simp] theorem ite_apply {c : Prop} [Decidable c] (x y : Prog σ α) (s : σ) :
    (if c then x else y) s = if c then x s else y s := by
  split <;> rfl

end Prog
