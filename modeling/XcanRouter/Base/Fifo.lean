import Mathlib.Logic.Function.Basic
import Mathlib.Data.List.Nodup

/-!
# Base — families of bounded FIFO queues

What a set of queues is for: a family of lists that elements join at the end
and leave at the front, each with a capacity (`0` is none), where an element
is in one place at most.
-/

@[ext] structure Fifos (ι α : Type*) where
  items : ι → List α
  cap : ι → Nat

namespace Fifos

variable {ι α : Type*} {F : Fifos ι α} {i j : ι} {x : α}

/-- No further element is admitted to queue `i`. -/
def Full (F : Fifos ι α) (i : ι) : Prop :=
  F.cap i ≠ 0 ∧ F.cap i ≤ (F.items i).length

instance (F : Fifos ι α) (i : ι) : Decidable (F.Full i) :=
  inferInstanceAs (Decidable (_ ∧ _))

/-- No element is twice in a queue or in two queues, and no queue is over its
capacity. -/
structure Valid (F : Fifos ι α) : Prop where
  nodup : ∀ i, (F.items i).Nodup
  disjoint : ∀ i j x, x ∈ F.items i → x ∈ F.items j → i = j
  bounded : ∀ i, F.cap i ≠ 0 → (F.items i).length ≤ F.cap i

/-- At most full, a queue is full exactly at its capacity. -/
theorem Valid.full_iff (hF : F.Valid) :
    F.Full i ↔ F.cap i ≠ 0 ∧ (F.items i).length = F.cap i := by
  have hbound := hF.bounded i
  constructor
  · rintro ⟨h0, hle⟩
    exact ⟨h0, Nat.le_antisymm (hbound h0) hle⟩
  · rintro ⟨h0, heq⟩
    exact ⟨h0, Nat.le_of_eq heq.symm⟩

/-- Empty queues with the given capacities. -/
def empty (cap : ι → Nat) : Fifos ι α where
  items := fun _ => []
  cap := cap

theorem empty_valid (cap : ι → Nat) : (empty cap : Fifos ι α).Valid where
  nodup _ := List.nodup_nil
  disjoint _ _ _ h := nomatch h
  bounded _ _ := Nat.zero_le _

variable [DecidableEq ι]

def push (F : Fifos ι α) (i : ι) (x : α) : Fifos ι α :=
  { F with items := Function.update F.items i (F.items i ++ [x]) }

/-- Keep only what follows the first `n` elements of queue `i`. -/
def drop (F : Fifos ι α) (i : ι) (n : Nat) : Fifos ι α :=
  { F with items := Function.update F.items i ((F.items i).drop n) }

/-- Queue `i` replaced by an empty one without a capacity. -/
def renew (F : Fifos ι α) (i : ι) : Fifos ι α where
  items := Function.update F.items i []
  cap := Function.update F.cap i 0

@[simp] theorem renew_items_self : (F.renew i).items i = [] := by simp [renew]

@[simp] theorem renew_cap_self : (F.renew i).cap i = 0 := by simp [renew]

theorem renew_items_of_ne (h : j ≠ i) : (F.renew i).items j = F.items j := by
  simp [renew, h]

theorem renew_cap_of_ne (h : j ≠ i) : (F.renew i).cap j = F.cap j := by
  simp [renew, h]

@[simp] theorem push_cap : (F.push i x).cap = F.cap := rfl

@[simp] theorem drop_cap {n : Nat} : (F.drop i n).cap = F.cap := rfl

@[simp] theorem push_items_self : (F.push i x).items i = F.items i ++ [x] := by
  simp [push]

@[simp] theorem drop_items_self {n : Nat} :
    (F.drop i n).items i = (F.items i).drop n := by
  simp [drop]

theorem push_items_of_ne (h : j ≠ i) : (F.push i x).items j = F.items j := by
  simp [push, h]

theorem drop_items_of_ne {n : Nat} (h : j ≠ i) :
    (F.drop i n).items j = F.items j := by
  simp [drop, h]

@[simp] theorem drop_zero : F.drop i 0 = F := by
  simp [drop]

theorem drop_of_nil {n : Nat} (h : F.items i = []) : F.drop i n = F := by
  have hitems : Function.update F.items i ((F.items i).drop n) = F.items := by
    rw [h, List.drop_nil, ← h, Function.update_eq_self]
  simp [drop, hitems]

theorem drop_drop {n k : Nat} : (F.drop i n).drop i k = F.drop i (n + k) := by
  simp [drop]

theorem mem_push {y : α} :
    y ∈ (F.push i x).items j ↔ y ∈ F.items j ∨ (j = i ∧ y = x) := by
  by_cases h : j = i
  · subst h
    simp
  · simp [push_items_of_ne h, h]

theorem mem_of_mem_drop {n : Nat} {y : α} (h : y ∈ (F.drop i n).items j) :
    y ∈ F.items j := by
  by_cases hj : j = i
  · subst hj
    rw [drop_items_self] at h
    exact List.mem_of_mem_drop h
  · rwa [drop_items_of_ne hj] at h

/-- An element that is in no queue may join one that is not full. -/
theorem Valid.push (hF : F.Valid) (hfull : ¬ F.Full i)
    (hx : ∀ j, x ∉ F.items j) : (F.push i x).Valid where
  nodup j := by
    by_cases h : j = i
    · subst h
      rw [push_items_self]
      exact List.nodup_append.mpr ⟨hF.nodup j, by simp, by
        rintro a ha b hb rfl
        exact hx j (by simpa using List.mem_singleton.mp hb ▸ ha)⟩
    · rw [push_items_of_ne h]
      exact hF.nodup j
  disjoint j k y hj hk := by
    rw [mem_push] at hj hk
    rcases hj with hj | ⟨hj, hyx⟩
    · rcases hk with hk | ⟨-, hyx⟩
      · exact hF.disjoint j k y hj hk
      · exact absurd (hyx ▸ hj) (hx j)
    · rcases hk with hk | ⟨hk, -⟩
      · exact absurd (hyx ▸ hk) (hx k)
      · rw [hj, hk]
  bounded j hcap := by
    by_cases h : j = i
    · subst h
      rw [push_items_self, push_cap]
      have := mt (And.intro (show F.cap j ≠ 0 from hcap)) hfull
      simp only [List.length_append, List.length_singleton]
      omega
    · rw [push_items_of_ne h]
      exact hF.bounded j hcap

/-- Elements may leave at the front at any time. -/
theorem Valid.drop (hF : F.Valid) (n : Nat) : (F.drop i n).Valid where
  nodup j := by
    by_cases h : j = i
    · subst h
      rw [drop_items_self]
      exact (hF.nodup j).sublist (List.drop_sublist n _)
    · rw [drop_items_of_ne h]
      exact hF.nodup j
  disjoint j k y hj hk :=
    hF.disjoint j k y (mem_of_mem_drop hj) (mem_of_mem_drop hk)
  bounded j hcap := by
    have hb := hF.bounded j hcap
    by_cases h : j = i
    · subst h
      rw [drop_items_self, List.length_drop, drop_cap]
      exact Nat.le_trans (Nat.sub_le _ _) hb
    · rw [drop_items_of_ne h]
      exact hb

/-- The first element of a queue is nowhere once it left. -/
theorem Valid.head_notMem_drop (hF : F.Valid) {l : List α} (h : F.items i = x :: l)
    (j : ι) : x ∉ (F.drop i 1).items j := by
  intro hx
  have hj : j = i := hF.disjoint j i x (mem_of_mem_drop hx) (by simp [h])
  subst hj
  have hnodup := hF.nodup j
  rw [drop_items_self, h] at hx
  rw [h] at hnodup
  exact (List.nodup_cons.mp hnodup).1 hx

theorem mem_renew (h : x ∈ (F.renew i).items j) : j ≠ i ∧ x ∈ F.items j := by
  by_cases hj : j = i
  · rw [hj, renew_items_self] at h
    cases h
  · rw [renew_items_of_ne hj] at h
    exact ⟨hj, h⟩

theorem Valid.renew (hF : F.Valid) (i : ι) : (F.renew i).Valid where
  nodup j := by
    by_cases hj : j = i
    · rw [hj, renew_items_self]
      exact List.nodup_nil
    · rw [renew_items_of_ne hj]
      exact hF.nodup j
  disjoint j k x hj hk := hF.disjoint j k x (mem_renew hj).2 (mem_renew hk).2
  bounded j hcap := by
    by_cases hj : j = i
    · rw [hj, renew_items_self]
      exact Nat.zero_le _
    · rw [renew_cap_of_ne hj] at hcap ⊢
      rw [renew_items_of_ne hj]
      exact hF.bounded j hcap

end Fifos
