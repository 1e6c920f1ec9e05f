import Mathlib.Logic.Function.Basic

/-!
# Base — tables of labelled objects

A table of slots whose objects carry the number of their slot themselves. The
two copies of that fact agree as long as an object enters a slot that is free
or its own, and is in no other slot.
-/

namespace Slots

variable {ι α : Type*} {table : ι → Option α} {label : α → ι} {i j : ι} {a b : α}

/-- Every object in the table carries the number of its slot. -/
def Labelled (table : ι → Option α) (label : α → ι) : Prop :=
  ∀ i a, table i = some a → label a = i

/-- The object is in some slot. -/
def Member (table : ι → Option α) (a : α) : Prop := ∃ i, table i = some a

theorem Labelled.unique (h : Labelled table label) (hi : table i = some a)
    (hj : table j = some a) : i = j := (h i a hi).symm.trans (h j a hj)

theorem Labelled.congr {label' : α → ι} (h : Labelled table label)
    (hlabel : ∀ a, Member table a → label' a = label a) : Labelled table label' :=
  fun i a hi => (hlabel a ⟨i, hi⟩).trans (h i a hi)

section
variable [DecidableEq ι]

theorem update_eq_some {x : Option α} (h : Function.update table i x j = some b) :
    (j = i ∧ x = some b) ∨ (j ≠ i ∧ table j = some b) := by
  by_cases hj : j = i
  · subst hj
    exact .inl ⟨rfl, by simpa using h⟩
  · exact .inr ⟨hj, by simpa [hj] using h⟩

/-- An object enters slot `i`: the labels still fit exactly when no other slot
holds it. -/
theorem Labelled.insert_iff [DecidableEq α] (h : Labelled table label) :
    Labelled (Function.update table i (some a)) (Function.update label a i) ↔
      ∀ j, table j = some a → j = i := by
  constructor
  · intro h' j hj
    by_contra hne
    have hlabel := h' j a (by simp [hne, hj])
    rw [Function.update_self] at hlabel
    exact hne hlabel.symm
  · intro hfree j b hj
    rcases update_eq_some hj with ⟨rfl, hb⟩ | ⟨hne, hb⟩
    · obtain rfl := Option.some_inj.mp hb
      exact Function.update_self ..
    · have hba : b ≠ a := fun heq => hne (hfree j (heq ▸ hb))
      rw [Function.update_of_ne hba]
      exact h j b hb

theorem Labelled.erase (h : Labelled table label) :
    Labelled (Function.update table i none) label := by
  intro j b hj
  rcases update_eq_some hj with ⟨-, hb⟩ | ⟨-, hb⟩
  · cases hb
  · exact h j b hb

/-- An object enters a slot that is free or its own. -/
theorem member_insert (hslot : ∀ b, table i = some b → b = a) :
    Member (Function.update table i (some a)) b ↔ b = a ∨ Member table b := by
  constructor
  · rintro ⟨j, hj⟩
    rcases update_eq_some hj with ⟨-, hb⟩ | ⟨-, hb⟩
    · exact .inl (Option.some_inj.mp hb).symm
    · exact .inr ⟨j, hb⟩
  · rintro (rfl | ⟨j, hj⟩)
    · exact ⟨i, Function.update_self ..⟩
    · by_cases hji : j = i
      · obtain rfl := hslot b (hji ▸ hj)
        exact ⟨i, Function.update_self ..⟩
      · exact ⟨j, by simp [hji, hj]⟩

/-- An object enters the slot of another one, which is in no slot then. -/
theorem Labelled.not_member_insert (h : Labelled table label) (hi : table i = some b)
    (hne : b ≠ a) : ¬ Member (Function.update table i (some a)) b := by
  rintro ⟨j, hj⟩
  rcases update_eq_some hj with ⟨-, hb⟩ | ⟨hji, hb⟩
  · exact hne (Option.some_inj.mp hb).symm
  · exact hji (h.unique hb hi)

/-- An object leaves its slot. -/
theorem Labelled.member_erase (h : Labelled table label) (hi : table i = some a) :
    Member (Function.update table i none) b ↔ b ≠ a ∧ Member table b := by
  constructor
  · rintro ⟨j, hj⟩
    rcases update_eq_some hj with ⟨-, hb⟩ | ⟨hji, hb⟩
    · cases hb
    · exact ⟨fun heq => hji (h.unique (heq ▸ hb) hi), j, hb⟩
  · rintro ⟨hne, j, hj⟩
    have hji : j ≠ i := fun heq =>
      hne (Option.some_inj.mp (hj.symm.trans (heq ▸ hi)))
    exact ⟨j, by simp [hji, hj]⟩

end

end Slots
