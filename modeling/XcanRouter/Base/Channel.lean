import Mathlib.Tactic.TypeStar

/-!
# Base — bounded channels

A channel takes elements in at its end and gives them out at its front. That
it never holds more than it has room for is part of what a channel is; an
element for which there is no room is lost.
-/

structure Channel (α : Type*) where
  cap : Nat
  items : List α
  bounded : items.length ≤ cap

namespace Channel

variable {α : Type*}

def empty (cap : Nat) : Channel α where
  cap := cap
  items := []
  bounded := Nat.zero_le cap

def Full (c : Channel α) : Prop := c.cap ≤ c.items.length

instance (c : Channel α) : Decidable c.Full :=
  inferInstanceAs (Decidable (_ ≤ _))

/-- What the channel takes in of `x`. -/
def entered (c : Channel α) (x : α) : List α :=
  if c.Full then [] else [x]

theorem length_append_entered (c : Channel α) (x : α) :
    (c.items ++ c.entered x).length ≤ c.cap := by
  unfold entered
  split
  · rw [List.append_nil]
    exact c.bounded
  · rename_i hroom
    rw [List.length_append, List.length_singleton]
    exact Nat.lt_of_not_le hroom

/-- The channel after `x` was offered to it. -/
def enter (c : Channel α) (x : α) : Channel α where
  cap := c.cap
  items := c.items ++ c.entered x
  bounded := c.length_append_entered x

/-- The channel without its first element. -/
def advance (c : Channel α) : Channel α where
  cap := c.cap
  items := c.items.tail
  bounded := by
    rw [List.length_tail]
    exact Nat.le_trans (Nat.sub_le _ _) c.bounded

@[simp] theorem empty_items (cap : Nat) : (empty cap : Channel α).items = [] := rfl

@[simp] theorem empty_cap (cap : Nat) : (empty cap : Channel α).cap = cap := rfl

@[simp] theorem enter_items (c : Channel α) (x : α) :
    (c.enter x).items = c.items ++ c.entered x := rfl

@[simp] theorem enter_cap (c : Channel α) (x : α) : (c.enter x).cap = c.cap := rfl

@[simp] theorem advance_items (c : Channel α) : c.advance.items = c.items.tail := rfl

@[simp] theorem advance_cap (c : Channel α) : c.advance.cap = c.cap := rfl

theorem entered_of_full {c : Channel α} (h : c.Full) (x : α) : c.entered x = [] :=
  if_pos h

theorem entered_of_room {c : Channel α} (h : ¬ c.Full) (x : α) : c.entered x = [x] :=
  if_neg h

theorem entered_sublist (c : Channel α) (x : α) : (c.entered x).Sublist [x] := by
  unfold entered
  split
  · exact List.nil_sublist [x]
  · exact List.Sublist.refl [x]

theorem mem_enter {c : Channel α} {x y : α} (h : y ∈ (c.enter x).items) :
    y ∈ c.items ∨ y = x := by
  rcases List.mem_append.mp h with h | h
  · exact .inl h
  · exact .inr (List.mem_singleton.mp ((c.entered_sublist x).subset h))

theorem mem_advance {c : Channel α} {y : α} (h : y ∈ c.advance.items) : y ∈ c.items :=
  List.mem_of_mem_tail h

end Channel
