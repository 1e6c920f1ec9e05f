import Mathlib.Algebra.BigOperators.Group.Finset.Basic
import XcanRouter.Base.Fifo

/-!
# Base — how much a family of queues holds

The number of elements in some of the queues. An element that joins one of
them adds one, an element that leaves one takes one away, and an element that
goes from one to another makes no difference.
-/

namespace Fifos

variable {ι α : Type*} [DecidableEq ι] {F : Fifos ι α} {places : Finset ι} {i j : ι}
variable {x : α} {l : List α}

def count (places : Finset ι) (F : Fifos ι α) : Nat :=
  ∑ i ∈ places, (F.items i).length

theorem count_push (h : i ∈ places) : (F.push i x).count places = F.count places + 1 := by
  have hrest : ∑ k ∈ places.erase i, ((F.push i x).items k).length =
      ∑ k ∈ places.erase i, (F.items k).length := by
    apply Finset.sum_congr rfl
    intro k hk
    rw [push_items_of_ne (Finset.ne_of_mem_erase hk)]
  unfold count
  rw [← Finset.add_sum_erase _ _ h, hrest, push_items_self, List.length_append,
    List.length_singleton, ← Finset.add_sum_erase _ _ h]
  omega

theorem count_drop (h : i ∈ places) (hhead : F.items i = x :: l) :
    (F.drop i 1).count places + 1 = F.count places := by
  have hrest : ∑ k ∈ places.erase i, ((F.drop i 1).items k).length =
      ∑ k ∈ places.erase i, (F.items k).length := by
    apply Finset.sum_congr rfl
    intro k hk
    rw [drop_items_of_ne (Finset.ne_of_mem_erase hk)]
  unfold count
  rw [← Finset.add_sum_erase _ _ h, hrest, drop_items_self, ← Finset.add_sum_erase _ _ h, hhead,
    List.drop_one, List.tail_cons, List.length_cons]
  omega

theorem count_pass (hi : i ∈ places) (hj : j ∈ places) (hhead : F.items i = x :: l) :
    ((F.drop i 1).push j x).count places = F.count places := by
  rw [count_push hj, count_drop hi hhead]

end Fifos
