import XcanRouter.Base.Custody

/-!
# Base — joined families of queues

Two families of queues side by side. What happens in one of them happens in
the joined family, and there an item may pass from one to the other.
-/

namespace Fifos

variable {ι κ α : Type*}

/-- The queues of `F` and those of `G`. -/
def join (F : Fifos ι α) (G : Fifos κ α) : Fifos (ι ⊕ κ) α where
  items := Sum.elim F.items G.items
  cap := Sum.elim F.cap G.cap

variable {F : Fifos ι α} {G : Fifos κ α} {i : ι} {k : κ} {x : α} {n : Nat}

@[simp] theorem join_items_inl : (F.join G).items (.inl i) = F.items i := rfl

@[simp] theorem join_items_inr : (F.join G).items (.inr k) = G.items k := rfl

variable [DecidableEq ι] [DecidableEq κ]

theorem join_push_inl : (F.push i x).join G = (F.join G).push (.inl i) x := by
  apply Fifos.ext
  · funext j
    rcases j with j | j
    · by_cases hj : j = i
      · subst hj
        simp
      · rw [push_items_of_ne (by simpa using hj), join_items_inl, push_items_of_ne hj,
          join_items_inl]
    · rw [push_items_of_ne (by simp), join_items_inr, join_items_inr]
  · rfl

theorem join_push_inr : F.join (G.push k x) = (F.join G).push (.inr k) x := by
  apply Fifos.ext
  · funext j
    rcases j with j | j
    · rw [push_items_of_ne (by simp), join_items_inl, join_items_inl]
    · by_cases hj : j = k
      · subst hj
        simp
      · rw [push_items_of_ne (by simpa using hj), join_items_inr, push_items_of_ne hj,
          join_items_inr]
  · rfl

theorem join_drop_inl : (F.drop i n).join G = (F.join G).drop (.inl i) n := by
  apply Fifos.ext
  · funext j
    rcases j with j | j
    · by_cases hj : j = i
      · subst hj
        simp
      · rw [drop_items_of_ne (by simpa using hj), join_items_inl, drop_items_of_ne hj,
          join_items_inl]
    · rw [drop_items_of_ne (by simp), join_items_inr, join_items_inr]
  · rfl

theorem join_drop_inr : F.join (G.drop k n) = (F.join G).drop (.inr k) n := by
  apply Fifos.ext
  · funext j
    rcases j with j | j
    · rw [drop_items_of_ne (by simp), join_items_inl, join_items_inl]
    · by_cases hj : j = k
      · subst hj
        simp
      · rw [drop_items_of_ne (by simpa using hj), join_items_inr, drop_items_of_ne hj,
          join_items_inr]
  · rfl

end Fifos
