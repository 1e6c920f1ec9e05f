import Mathlib.Logic.Function.Basic
import Mathlib.Data.List.Nodup

/-!
# Base — linked chains

Singly linked lists threaded through a map of `next` links. A list SEGMENT
runs from one link to another, a CHAIN is a segment that ends in the null
link. The contents of a chain are determined by its first link, a chain
never visits a cell twice, and a write to a cell outside of it leaves it
alone: these are the facts every pointer-level list proof starts from.
-/

namespace LinkedChain

variable {α : Type*} {next next' : α → Option α} {p q r : Option α}
  {l l' : List α} {x t : α}

/-- Following `next` from the link `p` passes exactly the cells of `l`, in
order, and arrives at the link `q`. -/
def Seg (next : α → Option α) : Option α → List α → Option α → Prop
  | p, [], q => p = q
  | p, x :: xs, q => p = some x ∧ Seg next (next x) xs q

/-- A chain is a segment that runs into the null link. -/
def Chain (next : α → Option α) (p : Option α) (l : List α) : Prop :=
  Seg next p l none

@[simp] theorem seg_nil : Seg next p [] q ↔ p = q := Iff.rfl

@[simp] theorem seg_cons :
    Seg next p (x :: l) q ↔ p = some x ∧ Seg next (next x) l q := Iff.rfl

@[simp] theorem chain_nil : Chain next p [] ↔ p = none := Iff.rfl

@[simp] theorem chain_cons :
    Chain next p (x :: l) ↔ p = some x ∧ Chain next (next x) l := Iff.rfl

/-- Segments compose end to end. -/
theorem seg_append :
    Seg next p (l ++ l') r ↔ ∃ q, Seg next p l q ∧ Seg next q l' r := by
  induction l generalizing p with
  | nil => simp
  | cons x xs ih => simp [ih, and_assoc]

/-- A segment only reads the links of its own cells. -/
theorem Seg.congr (h : ∀ y ∈ l, next y = next' y) (hs : Seg next p l q) :
    Seg next' p l q := by
  induction l generalizing p with
  | nil => exact hs
  | cons x xs ih =>
      obtain ⟨hp, hs⟩ := hs
      refine ⟨hp, ?_⟩
      rw [← h x (by simp)]
      exact ih (fun y hy => h y (by simp [hy])) hs

/-- **Frame rule**: a chain survives every write outside of its cells. -/
theorem Chain.congr (h : ∀ y ∈ l, next y = next' y) (hc : Chain next p l) :
    Chain next' p l := Seg.congr h hc

theorem Chain.update [DecidableEq α] (hx : x ∉ l) (v : Option α)
    (hc : Chain next p l) : Chain (Function.update next x v) p l :=
  hc.congr fun y hy => by
    rw [Function.update_of_ne (fun h : y = x => hx (h ▸ hy))]

/-- The first link is the head of the contents. -/
theorem Chain.first (hc : Chain next p l) : p = l.head? := by
  cases l with
  | nil => exact hc
  | cons x xs => exact hc.1

theorem Chain.eq_nil_iff (hc : Chain next p l) : l = [] ↔ p = none := by
  rw [hc.first]
  cases l <;> simp

/-- **The contents are determined** by the links. -/
theorem Chain.unique (hc : Chain next p l) (hc' : Chain next p l') : l = l' := by
  induction l generalizing p l' with
  | nil => exact (hc'.eq_nil_iff.mpr hc).symm
  | cons x xs ih =>
      obtain ⟨rfl, hc⟩ := hc
      cases l' with
      | nil => cases hc'
      | cons y ys =>
          obtain ⟨hxy, hc'⟩ := hc'
          cases hxy
          rw [ih hc hc']

/-- A chain that ends visits no cell twice: a repeated cell would have two
different continuations. -/
theorem Chain.nodup (hc : Chain next p l) : l.Nodup := by
  induction l generalizing p with
  | nil => exact List.nodup_nil
  | cons x xs ih =>
      obtain ⟨rfl, hc⟩ := hc
      refine List.nodup_cons.mpr ⟨fun hx => ?_, ih hc⟩
      -- from the second visit of `x` on, the chain would be shorter than itself
      obtain ⟨as, bs, rfl⟩ := List.append_of_mem hx
      obtain ⟨q, -, hq, htail⟩ := seg_append.mp hc
      have hlong : Chain next (some x) (x :: (as ++ x :: bs)) := ⟨rfl, hc⟩
      have hshort : Chain next (some x) (x :: bs) := ⟨rfl, htail⟩
      have hlen := congrArg List.length (hlong.unique hshort)
      simp only [List.length_cons, List.length_append] at hlen
      omega

/-- **Append at the tail**: clearing the link of a new cell and pointing the
last cell at it extends the chain by that cell. -/
theorem Chain.snoc [DecidableEq α] (hc : Chain next p (l ++ [t]))
    (hx : x ∉ l ++ [t]) :
    Chain (Function.update (Function.update next x none) t (some x)) p
      (l ++ [t] ++ [x]) := by
  have hnd := hc.nodup
  obtain ⟨q, hl, rfl, -⟩ := seg_append.mp hc
  have hxt : x ≠ t := fun h => hx (by simp [h])
  have htl : t ∉ l := by
    intro ht
    exact (List.nodup_append.mp hnd).2.2 t ht t (by simp) rfl
  have hxl : x ∉ l := fun h => hx (by simp [h])
  -- the cells before `t`, then `t`, then `x`
  refine seg_append.mpr ⟨some x, seg_append.mpr ⟨some t, ?_, ?_⟩, ?_⟩
  · apply hl.congr
    intro y hy
    rw [Function.update_of_ne (fun h : y = t => htl (h ▸ hy)),
      Function.update_of_ne (fun h : y = x => hxl (h ▸ hy))]
  · simp
  · simp [Function.update_of_ne hxt]

end LinkedChain
