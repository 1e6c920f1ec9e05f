import XcanRouter.Base.Fifo
import XcanRouter.Base.Runs

/-!
# Base — outboxes

FIFO queues whose first elements are offered to a transport that may refuse
them. A refused element keeps its place and may be offered again; an accepted
one leaves. Whatever the transport refuses, each queue is what was accepted
from it, in order, followed by what it still holds.
-/

/-- The element `item` of queue `box` was offered, and accepted when `ok`. -/
structure Offer (ι α : Type*) where
  box : ι
  item : α
  ok : Bool

namespace Fifos

variable {ι α : Type*} [DecidableEq ι] [DecidableEq α] {F F' : Fifos ι α}
  {c : Offer ι α} {cs post : List (Offer ι α)} {i : ι} {x : α}

/-- Only the first element of a queue can be offered. -/
def offer (F : Fifos ι α) (c : Offer ι α) : Option (Fifos ι α) :=
  if (F.items c.box).head? = some c.item then
    some (if c.ok then F.drop c.box 1 else F)
  else none

/-- The accepted elements of queue `i`, in order. -/
def accepted (i : ι) (cs : List (Offer ι α)) : List α :=
  (cs.filter fun c => c.ok ∧ c.box = i).map Offer.item

/-- The accepted elements of all queues, in order. -/
def allAccepted (cs : List (Offer ι α)) : List α :=
  (cs.filter Offer.ok).map Offer.item

theorem offer_eq_some (h : F.offer c = some F') :
    (∃ l, F.items c.box = c.item :: l) ∧
      F' = if c.ok then F.drop c.box 1 else F := by
  unfold offer at h
  split at h
  · rename_i hhead
    exact ⟨⟨_, List.eq_cons_of_mem_head? hhead⟩, (Option.some.inj h).symm⟩
  · cases h

theorem offer_mem (h : F.offer c = some F') : c.item ∈ F.items c.box := by
  obtain ⟨⟨l, hl⟩, -⟩ := offer_eq_some h
  rw [hl]
  exact List.mem_cons_self

/-- An offer leaves no new elements. -/
theorem mem_of_mem_offer (h : F.offer c = some F') (hx : x ∈ F'.items i) :
    x ∈ F.items i := by
  obtain ⟨-, rfl⟩ := offer_eq_some h
  split at hx
  · exact mem_of_mem_drop hx
  · exact hx

theorem Valid.of_offer (hF : F.Valid) (h : F.offer c = some F') : F'.Valid := by
  obtain ⟨-, rfl⟩ := offer_eq_some h
  split
  · exact hF.drop 1
  · exact hF

/-! ## Runs of offers -/

theorem run_offer_cons (h : Runs.run offer F (c :: cs) = some F') :
    ∃ F₁, F.offer c = some F₁ ∧ Runs.run offer F₁ cs = some F' := by
  rw [Runs.run_cons] at h
  exact Option.bind_eq_some_iff.mp h

theorem Valid.of_offers (hF : F.Valid) (h : Runs.run offer F cs = some F') :
    F'.Valid := by
  induction cs generalizing F with
  | nil =>
      cases h
      exact hF
  | cons c cs ih =>
      obtain ⟨F₁, hc, hcs⟩ := run_offer_cons h
      exact ih (hF.of_offer hc) hcs

/-- **Nothing is lost and the order is kept.** -/
theorem accepted_append_items (h : Runs.run offer F cs = some F') (i : ι) :
    accepted i cs ++ F'.items i = F.items i := by
  induction cs generalizing F with
  | nil =>
      cases h
      rfl
  | cons c cs ih =>
      obtain ⟨F₁, hc, hcs⟩ := run_offer_cons h
      have hrest := ih hcs
      obtain ⟨⟨l, hl⟩, rfl⟩ := offer_eq_some hc
      by_cases hok : c.ok ∧ c.box = i
      · obtain ⟨hok, rfl⟩ := hok
        rw [if_pos hok, drop_items_self, hl, List.drop_one, List.tail_cons] at hrest
        simp [accepted, hok, hl, ← hrest]
      · have hsame : (if c.ok then F.drop c.box 1 else F).items i = F.items i := by
          split
          · rename_i hc
            exact drop_items_of_ne fun heq => hok ⟨hc, heq.symm⟩
          · rfl
        rw [hsame] at hrest
        simpa [accepted, hok] using hrest

/-- Only elements of the queues are offered. -/
theorem mem_of_mem_run (h : Runs.run offer F cs = some F') (hc : c ∈ cs) :
    c.item ∈ F.items c.box := by
  induction cs generalizing F with
  | nil => cases hc
  | cons c' cs ih =>
      obtain ⟨F₁, hc', hcs⟩ := run_offer_cons h
      rcases List.mem_cons.mp hc with rfl | hc
      · exact offer_mem hc'
      · exact mem_of_mem_offer hc' (ih hcs hc)

/-- **An accepted element is not offered again.** -/
theorem Valid.not_offered_again (hF : F.Valid)
    (h : Runs.run offer F (c :: post) = some F') (hok : c.ok = true) :
    ∀ c' ∈ post, c'.item ≠ c.item := by
  intro c' hc' heq
  obtain ⟨F₁, hc, hpost⟩ := run_offer_cons h
  obtain ⟨⟨l, hl⟩, rfl⟩ := offer_eq_some hc
  rw [if_pos hok] at hpost
  have hmem := mem_of_mem_run hpost hc'
  rw [heq] at hmem
  exact hF.head_notMem_drop hl _ hmem

/-- No element is accepted twice. -/
theorem Valid.allAccepted_nodup (hF : F.Valid) (h : Runs.run offer F cs = some F') :
    (allAccepted cs).Nodup := by
  induction cs generalizing F with
  | nil => exact List.nodup_nil
  | cons c cs ih =>
      obtain ⟨F₁, hc, hcs⟩ := run_offer_cons h
      have hrest := ih (hF.of_offer hc) hcs
      by_cases hok : c.ok
      · have hcons : allAccepted (c :: cs) = c.item :: allAccepted cs := by
          simp [allAccepted, hok]
        rw [hcons, List.nodup_cons]
        refine ⟨?_, hrest⟩
        intro hmem
        obtain ⟨c', hc', heq⟩ := List.mem_map.mp hmem
        exact hF.not_offered_again h hok c' (List.mem_filter.mp hc').1 heq
      · have hskip : allAccepted (c :: cs) = allAccepted cs := by
          simp [allAccepted, hok]
        rw [hskip]
        exact hrest

/-- **A refused element is still first**, unless it was accepted later. -/
theorem head_or_accepted_later {l : List α} (hl : F.items i = x :: l)
    (h : Runs.run offer F post = some F') :
    (F'.items i).head? = some x ∨ ∃ c ∈ post, c.box = i ∧ c.item = x ∧ c.ok = true := by
  induction post generalizing F with
  | nil =>
      cases h
      rw [hl]
      exact .inl rfl
  | cons c post ih =>
      obtain ⟨F₁, hc, hpost⟩ := run_offer_cons h
      obtain ⟨⟨l', hl'⟩, rfl⟩ := offer_eq_some hc
      by_cases hleft : c.ok = true ∧ c.box = i
      · obtain ⟨hok, rfl⟩ := hleft
        have hitem : c.item = x := (List.cons.inj (hl'.symm.trans hl)).1
        exact .inr ⟨c, by simp, rfl, hitem, hok⟩
      · have hsame : (if c.ok then F.drop c.box 1 else F).items i = x :: l := by
          split
          · rename_i hok
            rw [drop_items_of_ne fun heq => hleft ⟨hok, heq.symm⟩, hl]
          · exact hl
        rcases ih hsame hpost with hhead | ⟨c', hc', hrest⟩
        · exact .inl hhead
        · exact .inr ⟨c', List.mem_cons_of_mem c hc', hrest⟩

/-- **While nothing is accepted**, only the first element of each queue is
offered. -/
theorem head_of_refused (h : Runs.run offer F cs = some F') (hno : ∀ c ∈ cs, c.ok = false) :
    ∀ c ∈ cs, (F.items c.box).head? = some c.item := by
  induction cs generalizing F with
  | nil => simp
  | cons c cs ih =>
      obtain ⟨F₁, hc, hcs⟩ := run_offer_cons h
      obtain ⟨⟨l, hl⟩, rfl⟩ := offer_eq_some hc
      rw [if_neg (by simp [hno c (by simp)])] at hcs
      intro c' hc'
      rcases List.mem_cons.mp hc' with rfl | hc'
      · rw [hl, List.head?_cons]
      · exact ih hcs (fun c'' hc'' => hno c'' (by simp [hc''])) c' hc'

end Fifos
