/-!
# Base — programs that call out

A program that shares the world with others is a tree: it has returned, or it
makes a call and goes on with whatever answer it gets. Against a handler that
answers from a state of its own such a program runs to its end; next to other
programs it makes one call at a time, and what is left of it after a call is a
program again.
-/

/-- Programs with calls `Call`, answered in `Ans`, and results in `α`. -/
inductive Resumption (Call : Type) (Ans : Call → Type) (α : Type) where
  | done (a : α)
  | call (c : Call) (k : Ans c → Resumption Call Ans α)

namespace Resumption

variable {Call : Type} {Ans : Call → Type} {α β σ : Type}

def bind : Resumption Call Ans α → (α → Resumption Call Ans β) → Resumption Call Ans β
  | .done a, f => f a
  | .call c k, f => .call c fun r => (k r).bind f

instance : Monad (Resumption Call Ans) where
  pure := .done
  bind := bind

/-- The program that makes one call. -/
def perform (c : Call) : Resumption Call Ans (Ans c) := .call c .done

theorem perform_bind (c : Call) (f : Ans c → Resumption Call Ans β) :
    perform c >>= f = .call c f := rfl

/-! ## Running to the end -/

/-- The run of a program whose calls are answered by `handle`. -/
def exec (handle : (c : Call) → σ → Ans c × σ) : Resumption Call Ans α → σ → α × σ
  | .done a, s => (a, s)
  | .call c k, s => (k (handle c s).1).exec handle (handle c s).2

variable {handle : (c : Call) → σ → Ans c × σ}

@[simp] theorem exec_call (c : Call) (k : Ans c → Resumption Call Ans α) (s : σ) :
    (.call c k : Resumption Call Ans α).exec handle s =
      (k (handle c s).1).exec handle (handle c s).2 := rfl

/-! ## Following a protocol -/

variable {Q : Type}

/-- In phase `q` and after it, whatever the answers, the program makes only
calls that the phase it is in allows, and returns only where that may stop. -/
def Conforms (allows : Q → Call → Prop) (next : Q → (c : Call) → Ans c → Q) (stops : Q → Prop) :
    Q → Resumption Call Ans α → Prop
  | q, .done _ => stops q
  | q, .call c k => allows q c ∧ ∀ r, (k r).Conforms allows next stops (next q c r)

variable {allows : Q → Call → Prop} {next : Q → (c : Call) → Ans c → Q} {stops : Q → Prop}

/-- The rule for a call: it is allowed, and what follows conforms after it. -/
theorem Conforms.perform {q : Q} {c : Call} {f : Ans c → Resumption Call Ans α}
    (hallows : allows q c) (hnext : ∀ r, (f r).Conforms allows next stops (next q c r)) :
    (perform c >>= f).Conforms allows next stops q := by
  rw [perform_bind]
  exact ⟨hallows, hnext⟩

/-! ## Ending with a result -/

/-- As `Conforms`, for programs whose result depends on the phase in which
they return. -/
def Fulfils (allows : Q → Call → Prop) (next : Q → (c : Call) → Ans c → Q) (ends : Q → α → Prop) :
    Q → Resumption Call Ans α → Prop
  | q, .done a => ends q a
  | q, .call c k => allows q c ∧ ∀ r, (k r).Fulfils allows next ends (next q c r)

variable {ends : Q → β → Prop}

theorem Fulfils.perform {q : Q} {c : Call} {f : Ans c → Resumption Call Ans β}
    (hallows : allows q c) (hnext : ∀ r, (f r).Fulfils allows next ends (next q c r)) :
    (Resumption.perform c >>= f).Fulfils allows next ends q := by
  rw [perform_bind]
  exact ⟨hallows, hnext⟩

end Resumption
