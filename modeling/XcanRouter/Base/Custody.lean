import XcanRouter.Base.Fifo

/-!
# Base — custody of tokens

Items move through a family of queues and each of them carries a token that
was issued with it, in the order of the natural numbers, and is given back in
the end. What an item passes through does not matter: of every token that was
issued there is one holder at any time, an item in one place of one queue, or
the list of those given back.
-/

namespace Fifos

variable {ι α β : Type*}

/-- The tokens in each queue, with those that were given back at `none`. -/
def owned (token : β → Option α) (F : Fifos ι β) (returned : List α) :
    Fifos (Option ι) α where
  items k := k.elim returned fun i => (F.items i).filterMap token
  cap := fun _ => 0

/-- Each item holds its token, and the tokens `lo, …, hi - 1` that were issued
are held once each. -/
structure Custody (token : β → Option Nat) (F : Fifos ι β) (returned : List Nat)
    (lo hi : Nat) : Prop where
  holds : ∀ i, ∀ x ∈ F.items i, ∃ b, token x = some b
  valid : (F.owned token returned).Valid
  issued : ∀ b, (∃ k, b ∈ (F.owned token returned).items k) ↔ lo ≤ b ∧ b < hi

variable {token : β → Option Nat} {F : Fifos ι β} {returned : List Nat} {lo hi : Nat}
variable {i j : ι} {x : β} {l : List β} {b : Nat}

theorem mem_owned (hx : x ∈ F.items i) (hb : token x = some b) :
    b ∈ (F.owned token returned).items (some i) :=
  List.mem_filterMap.mpr ⟨x, hx, hb⟩

/-- A token has one holder. -/
theorem Custody.one_holder (h : Custody token F returned lo hi) (hlo : lo ≤ b) (hhi : b < hi) :
    ∃! k, b ∈ (F.owned token returned).items k := by
  obtain ⟨k, hk⟩ := (h.issued b).mpr ⟨hlo, hhi⟩
  apply ExistsUnique.intro k hk
  intro k' hk'
  exact h.valid.disjoint k' k b hk' hk

/-- The token of an item was issued. -/
theorem Custody.token_lt (h : Custody token F returned lo hi) (hx : x ∈ F.items i)
    (hb : token x = some b) : lo ≤ b ∧ b < hi :=
  (h.issued b).mp ⟨some i, mem_owned hx hb⟩

/-- The token of an item was not given back. -/
theorem Custody.not_returned (h : Custody token F returned lo hi) (hx : x ∈ F.items i)
    (hb : token x = some b) : b ∉ returned := by
  intro hret
  have hk : (none : Option ι) = some i :=
    h.valid.disjoint none (some i) b hret (mem_owned hx hb)
  exact nomatch hk

/-- Before a token is issued there is nothing to hold. -/
theorem custody_empty (h : ∀ i, F.items i = []) (lo : Nat) : Custody token F [] lo lo := by
  have howned : F.owned token [] = Fifos.empty fun _ => 0 := by
    apply Fifos.ext
    · funext k
      cases k with
      | none => rfl
      | some i =>
          show (F.items i).filterMap token = []
          rw [h i, List.filterMap_nil]
    · rfl
  constructor
  case holds =>
    intro i x hx
    rw [h i] at hx
    cases hx
  case valid =>
    rw [howned]
    exact Fifos.empty_valid _
  case issued =>
    intro b
    rw [howned]
    constructor
    · intro ⟨k, hk⟩
      cases hk
    · intro ⟨hle, hlt⟩
      omega

variable [DecidableEq ι]

theorem owned_push (hb : token x = some b) :
    (F.push i x).owned token returned = (F.owned token returned).push (some i) b := by
  apply Fifos.ext
  · funext k
    cases k with
    | none => rw [push_items_of_ne (by simp)]; rfl
    | some j =>
        by_cases hj : j = i
        · subst hj
          simp [owned, hb]
        · rw [push_items_of_ne (by simpa using hj)]
          simp [owned, push_items_of_ne hj]
  · rfl

theorem owned_drop (hhead : F.items i = x :: l) (hb : token x = some b) :
    (F.drop i 1).owned token returned = (F.owned token returned).drop (some i) 1 := by
  apply Fifos.ext
  · funext k
    cases k with
    | none => rw [drop_items_of_ne (by simp)]; rfl
    | some j =>
        by_cases hj : j = i
        · subst hj
          simp [owned, hhead, hb]
        · rw [drop_items_of_ne (by simpa using hj)]
          simp [owned, drop_items_of_ne hj]
  · rfl

theorem owned_returned :
    F.owned token (returned ++ [b]) = (F.owned token returned).push none b := by
  apply Fifos.ext
  · funext k
    cases k with
    | none => simp [owned]
    | some j => rw [push_items_of_ne (by simp)]; rfl
  · rfl

/-- What a queue passes on to another one stays in the family. -/
theorem mem_move {F : Fifos ι α} {x y : α} {l : List α} (hhead : F.items i = x :: l) :
    (∃ k, y ∈ ((F.drop i 1).push j x).items k) ↔ ∃ k, y ∈ F.items k := by
  constructor
  · intro ⟨k, hk⟩
    rcases mem_push.mp hk with hk | ⟨-, rfl⟩
    · exact ⟨k, mem_of_mem_drop hk⟩
    · exact ⟨i, by simp [hhead]⟩
  · intro ⟨k, hk⟩
    by_cases hy : y = x
    · exact ⟨j, mem_push.mpr (.inr ⟨rfl, hy⟩)⟩
    · refine ⟨k, mem_push.mpr (.inl ?_)⟩
      by_cases hki : k = i
      · subst hki
        rw [hhead] at hk
        simpa [hhead, hy] using hk
      · rwa [drop_items_of_ne hki]

/-- An item may pass from the front of a queue to another queue. -/
theorem Valid.move {F : Fifos ι α} {x : α} {l : List α} (hF : F.Valid)
    (hhead : F.items i = x :: l) (hcap : F.cap j = 0) : ((F.drop i 1).push j x).Valid := by
  apply (hF.drop 1).push
  · intro hfull
    exact hfull.1 hcap
  · exact hF.head_notMem_drop hhead

/-- A new item comes with the next token. -/
theorem Custody.issue (h : Custody token F returned lo hi) (hle : lo ≤ hi)
    (hb : token x = some hi) : Custody token (F.push i x) returned lo (hi + 1) := by
  have hfresh : ∀ k, hi ∉ (F.owned token returned).items k := by
    intro k hk
    exact Nat.lt_irrefl hi ((h.issued hi).mp ⟨k, hk⟩).2
  constructor
  case holds =>
    intro k y hy
    rcases mem_push.mp hy with hy | ⟨-, rfl⟩
    · exact h.holds k y hy
    · exact ⟨hi, hb⟩
  case valid =>
    rw [owned_push hb]
    exact h.valid.push (fun hfull => hfull.1 rfl) hfresh
  case issued =>
    intro b
    rw [owned_push hb]
    constructor
    · intro ⟨k, hk⟩
      rcases mem_push.mp hk with hk | ⟨-, rfl⟩
      · have hlt := (h.issued b).mp ⟨k, hk⟩
        exact ⟨hlt.1, Nat.lt_succ_of_lt hlt.2⟩
      · exact ⟨hle, Nat.lt_succ_self b⟩
    · intro ⟨hlo, hlt⟩
      by_cases hbhi : b = hi
      · exact ⟨some i, mem_push.mpr (.inr ⟨rfl, hbhi⟩)⟩
      · have hlt' : b < hi := Nat.lt_of_le_of_ne (Nat.le_of_lt_succ hlt) hbhi
        obtain ⟨k, hk⟩ := (h.issued b).mpr ⟨hlo, hlt'⟩
        exact ⟨k, mem_push.mpr (.inl hk)⟩

/-- A token moves from the front of a queue to another holder. -/
theorem Custody.of_move {F' : Fifos ι β} {returned' : List Nat} {k : Option ι}
    (h : Custody token F returned lo hi) (hhead : F.items i = x :: l) (hb : token x = some b)
    (howned : F'.owned token returned' =
      ((F.owned token returned).drop (some i) 1).push k b)
    (hholds : ∀ i, ∀ x ∈ F'.items i, ∃ b, token x = some b) :
    Custody token F' returned' lo hi := by
  have hhead' : (F.owned token returned).items (some i) = b :: l.filterMap token := by
    simp [owned, hhead, hb]
  constructor
  case holds => exact hholds
  case valid =>
    rw [howned]
    exact h.valid.move hhead' rfl
  case issued =>
    intro b'
    rw [howned, mem_move hhead']
    exact h.issued b'

/-- An item passes on with its token. -/
theorem Custody.hand (h : Custody token F returned lo hi) (hhead : F.items i = x :: l) :
    Custody token ((F.drop i 1).push j x) returned lo hi := by
  obtain ⟨b, hb⟩ := h.holds i x (by simp [hhead])
  have howned : ((F.drop i 1).push j x).owned token returned =
      ((F.owned token returned).drop (some i) 1).push (some j) b := by
    rw [owned_push hb, owned_drop hhead hb]
  apply h.of_move hhead hb howned
  intro k y hy
  obtain ⟨k', hk'⟩ := (mem_move hhead).mp ⟨k, hy⟩
  exact h.holds k' y hk'

/-- An item leaves and its token is given back. -/
theorem Custody.giveBack (h : Custody token F returned lo hi) (hhead : F.items i = x :: l)
    (hb : token x = some b) : Custody token (F.drop i 1) (returned ++ [b]) lo hi := by
  have howned : (F.drop i 1).owned token (returned ++ [b]) =
      ((F.owned token returned).drop (some i) 1).push none b := by
    rw [owned_returned, owned_drop hhead hb]
  apply h.of_move hhead hb howned
  intro k y hy
  exact h.holds k y (mem_of_mem_drop hy)

end Fifos
