import XcanRouter.Queue
import XcanRouter.Base.Runs

/-!
# The queues are bounded FIFOs

`Represents` reads a list off one queue structure, `Refines` reads a family
of disjoint bounded FIFOs off any set of queue structures that share one heap
of frames. Every operation of xcan_queue.h is an operation on that family.

A queue without a capacity may take more frames than its 32-bit counter can
count: the count is kept modulo `2 ^ 32`, and `frames = 0` then no longer means
that the list is empty.
-/

namespace XcanRouter

open LinkedChain

/-- The queue structure at `q` holds the frames of `l`, in order. -/
structure Represents (m : Mem) (q : Ptr) (l : List Ptr) : Prop where
  chain : Chain m.next (m.queue q).head l
  tail : (m.queue q).tail = l.getLast?
  frames : (m.queue q).frames.toNat = l.length % 2 ^ 32

theorem Represents.head {m : Mem} {q : Ptr} {l : List Ptr}
    (h : Represents m q l) : (m.queue q).head = l.head? := h.chain.first

theorem Represents.unique {m : Mem} {q : Ptr} {l l' : List Ptr}
    (h : Represents m q l) (h' : Represents m q l') : l = l' :=
  h.chain.unique h'.chain

/-- **Frame rule**: a queue is not disturbed by writes to other queues and to
frames outside of it. -/
theorem Represents.congr {m m' : Mem} {q : Ptr} {l : List Ptr}
    (hq : m'.queue q = m.queue q) (hn : ∀ f ∈ l, m'.next f = m.next f)
    (h : Represents m q l) : Represents m' q l where
  chain := by
    rw [hq]
    exact h.chain.congr fun f hf => (hn f hf).symm
  tail := by rw [hq, h.tail]
  frames := by rw [hq, h.frames]

/-- A zeroed queue structure is the empty list. -/
theorem Represents.empty {m : Mem} {q : Ptr} (hhead : (m.queue q).head = none)
    (htail : (m.queue q).tail = none) (hframes : (m.queue q).frames = 0) :
    Represents m q [] := ⟨hhead, htail, by simp [hframes]⟩

theorem Represents.frames_eq_zero {m : Mem} {q : Ptr} {l : List Ptr}
    (h : Represents m q l) : (m.queue q).frames = 0 ↔ l.length % 2 ^ 32 = 0 := by
  rw [← h.frames, ← UInt32.toNat_inj]
  rfl

/-! ## One queue, one operation -/

section
variable {m : Mem} {q f : Ptr} {l : List Ptr}

theorem Represents.enqueue (h : Represents m q l) (hf : f ∉ l)
    (hfull : ¬ ((m.queue q).maxFrames ≠ 0 ∧
      (m.queue q).maxFrames ≤ (m.queue q).frames)) :
    (xcanEnqueue (some q) f m).1 = 0 ∧
      Represents (xcanEnqueue (some q) f m).2 q (l ++ [f]) ∧
      (∀ q', q' ≠ q → (xcanEnqueue (some q) f m).2.queue q' = m.queue q') ∧
      (∀ g, g ∉ f :: l → (xcanEnqueue (some q) f m).2.next g = m.next g) ∧
      ((xcanEnqueue (some q) f m).2.queue q).maxFrames = (m.queue q).maxFrames ∧
      LinksOnly m (xcanEnqueue (some q) f m).2 := by
  -- the code has a branch for the empty queue; else it writes to the last frame
  rcases List.eq_nil_or_concat l with rfl | ⟨l, t, rfl⟩
  · have hhead : (m.queue q).head = none := h.chain
    obtain ⟨hrc, hqueue, hframe, hlinks⟩ := xcanEnqueue_first q f m hfull hhead
    have hnext := next_update hframe
    refine ⟨hrc, ⟨?_, ?_, ?_⟩, ?_, ?_, ?_, hlinks⟩
    · simp [hqueue, hnext]
    · simp [hqueue]
    · simp [hqueue]
    · intro q' hq'
      simp [hqueue, hq']
    · intro g hg
      have hgf : g ≠ f := by simpa using hg
      simp [hnext, hgf]
    · simp [hqueue]
  · rw [List.concat_eq_append] at h hf ⊢
    have hhead : (m.queue q).head ≠ none := by
      rw [h.head]
      simp
    have htail : (m.queue q).tail = some t := by simp [h.tail]
    obtain ⟨hrc, hqueue, hnext, hlinks⟩ :=
      xcanEnqueue_next q f m hfull hhead htail
    refine ⟨hrc, ⟨?_, ?_, ?_⟩, ?_, ?_, ?_, hlinks⟩
    · rw [hqueue, hnext]
      simpa using h.chain.snoc hf
    · simp [hqueue]
    · have := h.frames
      simp only [hqueue, Function.update_self, UInt32.toNat_add, this,
        UInt32.toNat_one, List.length_append, List.length_singleton]
      omega
    · intro q' hq'
      simp [hqueue, hq']
    · intro g hg
      have hgf : g ≠ f := fun h => hg (by simp [h])
      have hgt : g ≠ t := fun h => hg (by simp [h])
      simp [hnext, hgf, hgt]
    · simp [hqueue]

theorem Represents.dequeue_none (h : Represents m q l)
    (hzero : (m.queue q).frames = 0) :
    (xcanDequeue (some q) m).1 = none ∧
      Represents (xcanDequeue (some q) m).2 q l ∧
      (xcanDequeue (some q) m).2.queue = m.queue ∧
      (xcanDequeue (some q) m).2.frame = m.frame ∧
      LinksOnly m (xcanDequeue (some q) m).2 := by
  obtain ⟨hrc, hqueue, hframe, hlinks⟩ := xcanDequeue_none q m (.inr hzero)
  exact ⟨hrc, h.congr (congrFun hqueue q) (fun g _ => by simp [Mem.next, hframe]),
    hqueue, hframe, hlinks⟩

/-- A list that the counter does not call empty has a first frame. -/
theorem Represents.cons_of_frames (h : Represents m q l)
    (hframes : (m.queue q).frames ≠ 0) : ∃ f l', l = f :: l' := by
  cases l with
  | nil => exact absurd (h.frames_eq_zero.mpr rfl) hframes
  | cons f l' => exact ⟨f, l', rfl⟩

theorem Represents.dequeue_cons (h : Represents m q (f :: l))
    (hframes : (m.queue q).frames ≠ 0) :
    (xcanDequeue (some q) m).1 = some f ∧
      Represents (xcanDequeue (some q) m).2 q l ∧
      (∀ q', q' ≠ q → (xcanDequeue (some q) m).2.queue q' = m.queue q') ∧
      (∀ g, g ≠ f → (xcanDequeue (some q) m).2.next g = m.next g) ∧
      (xcanDequeue (some q) m).2.next f = none ∧
      ((xcanDequeue (some q) m).2.queue q).maxFrames = (m.queue q).maxFrames ∧
      LinksOnly m (xcanDequeue (some q) m).2 := by
  obtain ⟨hrc, hqueue, hframe, hlinks⟩ :=
    xcanDequeue_some q f m h.head hframes
  have hnext := next_update hframe
  have hchain : Chain m.next (m.next f) l := h.chain.2
  have hfl : f ∉ l := (List.nodup_cons.mp h.chain.nodup).1
  refine ⟨hrc, ⟨?_, ?_, ?_⟩, ?_, ?_, ?_, ?_, hlinks⟩
  · rw [hqueue, hnext]
    simpa using hchain.update hfl none
  · rw [hqueue, Function.update_self]
    by_cases hl : l = []
    · simp [hchain.eq_nil_iff.mp hl, hl]
    · simp only [if_neg (mt hchain.eq_nil_iff.mpr hl), h.tail,
        List.getLast?_cons]
      rw [List.getLast?_eq_some_getLast hl]
      rfl
  · have hcount := h.frames
    have hpos : 0 < (m.queue q).frames.toNat := by
      rcases Nat.eq_zero_or_pos (m.queue q).frames.toNat with h0 | hpos
      · exact absurd (UInt32.toNat_inj.mp h0) hframes
      · exact hpos
    have hone : (1 : UInt32) ≤ (m.queue q).frames := by
      rw [UInt32.le_iff_toNat_le]
      exact hpos
    simp only [hqueue, Function.update_self, UInt32.toNat_sub_of_le _ _ hone,
      UInt32.toNat_one]
    simp only [List.length_cons] at hcount
    omega
  · intro q' hq'
    simp [hqueue, hq']
  · intro g hg
    simp [hnext, hg]
  · simp [hnext]
  · simp [hqueue]

end

/-! ## All queues at once -/

/-- The queue structures in `Q` hold the lists of `F` and admit as many
frames as `F` does. -/
structure Refines (Q : Ptr → Prop) (m : Mem) (F : Fifos Ptr Ptr) : Prop where
  represents : ∀ q, Q q → Represents m q (F.items q)
  cap : ∀ q, Q q → F.cap q = (m.queue q).maxFrames.toNat
  valid : F.Valid

section
variable {Q : Ptr → Prop} {m m' : Mem} {F : Fifos Ptr Ptr} {q f : Ptr}

/-- Memory that has the same queues and the same links holds the same lists. -/
theorem Refines.congr (h : Refines Q m F) (hq : ∀ q, Q q → m'.queue q = m.queue q)
    (hn : ∀ q, Q q → ∀ f ∈ F.items q, m'.next f = m.next f) : Refines Q m' F where
  represents q hQ := (h.represents q hQ).congr (hq q hQ) (hn q hQ)
  cap q hQ := by rw [h.cap q hQ, hq q hQ]
  valid := h.valid

theorem Refines.of_eq (h : Refines Q m F) (hq : m'.queue = m.queue)
    (hf : m'.frame = m.frame) : Refines Q m' F :=
  h.congr (fun q _ => congrFun hq q) (fun _ _ f _ => by simp [Mem.next, hf])

/-- A zeroed queue structure is one more, empty, queue without a capacity. -/
theorem Refines.renew (h : Refines Q m F) (hq : m'.queue = Function.update m.queue q {})
    (hf : m'.frame = m.frame) : Refines (fun q' => Q q' ∨ q' = q) m' (F.renew q) where
  represents q' hQ := by
    by_cases hq' : q' = q
    · rw [hq', Fifos.renew_items_self]
      apply Represents.empty <;> rw [hq, Function.update_self]
    · rw [Fifos.renew_items_of_ne hq']
      apply (h.represents q' (hQ.resolve_right hq')).congr
      · rw [hq, Function.update_of_ne hq']
      · intro f _
        rw [Mem.next, hf, Mem.next]
  cap q' hQ := by
    by_cases hq' : q' = q
    · rw [hq', Fifos.renew_cap_self, hq, Function.update_self]
      rfl
    · rw [Fifos.renew_cap_of_ne hq', h.cap q' (hQ.resolve_right hq'), hq,
        Function.update_of_ne hq']
  valid := h.valid.renew q

theorem Refines.mono {Q' : Ptr → Prop} (h : Refines Q m F) (hQ : ∀ q, Q' q → Q q) :
    Refines Q' m F :=
  ⟨fun q hq => h.represents q (hQ q hq), fun q hq => h.cap q (hQ q hq), h.valid⟩

/-- **The test of `xcan_enqueue`** decides whether the FIFO is full: below the
capacity the counter is the length. -/
theorem Refines.full_iff (h : Refines Q m F) (hQ : Q q) :
    F.Full q ↔ ((m.queue q).maxFrames ≠ 0 ∧
      (m.queue q).maxFrames ≤ (m.queue q).frames) := by
  have hcap := h.cap q hQ
  have hcount := (h.represents q hQ).frames
  have hbound := h.valid.bounded q
  have hlt := (m.queue q).maxFrames.toNat_lt
  unfold Fifos.Full
  rw [hcap, UInt32.le_iff_toNat_le, hcount, Ne, Ne, ← UInt32.toNat_inj]
  rw [hcap] at hbound
  simp only [UInt32.toNat_zero]
  -- at most `max_frames` frames are linked, so the count has not wrapped
  constructor
  · rintro ⟨h0, hle⟩
    have := hbound h0
    exact ⟨h0, by omega⟩
  · rintro ⟨h0, hle⟩
    have := hbound h0
    exact ⟨h0, by omega⟩

/-- **One queue at a time**: when queue `q` holds `l` now and the other queues
and their frames were left alone, the list of `q` is all that changed. -/
theorem Refines.update (h : Refines Q m F) {l : List Ptr} (hrep : Represents m' q l)
    (hvalid : Fifos.Valid { F with items := Function.update F.items q l })
    (hmax : (m'.queue q).maxFrames = (m.queue q).maxFrames)
    (hqueue : ∀ q', q' ≠ q → m'.queue q' = m.queue q')
    (hnext : ∀ q', q' ≠ q → ∀ g ∈ F.items q', m'.next g = m.next g) :
    Refines Q m' { F with items := Function.update F.items q l } where
  represents := by
    intro q' hQ'
    by_cases hq' : q' = q
    · subst hq'
      simpa using hrep
    · simp only [Function.update_of_ne hq']
      exact (h.represents q' hQ').congr (hqueue q' hq') (hnext q' hq')
  cap := by
    intro q' hQ'
    by_cases hq' : q' = q
    · subst hq'
      rw [hmax]
      exact h.cap q' hQ'
    · rw [hqueue q' hq']
      exact h.cap q' hQ'
  valid := hvalid

theorem Refines.enqueue_full (h : Refines Q m F) (hQ : Q q) (hfull : F.Full q) :
    (xcanEnqueue (some q) f m).1 = -1 ∧
      (xcanEnqueue (some q) f m).2.queue = m.queue ∧
      (xcanEnqueue (some q) f m).2.frame = m.frame ∧
      LinksOnly m (xcanEnqueue (some q) f m).2 :=
  xcanEnqueue_full q f m ((h.full_iff hQ).mp hfull)

theorem Refines.enqueue (h : Refines Q m F) (hQ : Q q) (hfull : ¬ F.Full q)
    (hf : ∀ i, f ∉ F.items i) :
    (xcanEnqueue (some q) f m).1 = 0 ∧
      Refines Q (xcanEnqueue (some q) f m).2 (F.push q f) ∧
      LinksOnly m (xcanEnqueue (some q) f m).2 := by
  obtain ⟨hrc, hrep, hqueue, hnext, hmax, hlinks⟩ :=
    (h.represents q hQ).enqueue (hf q) (mt (h.full_iff hQ).mpr hfull)
  refine ⟨hrc, h.update hrep (h.valid.push hfull hf) hmax hqueue ?_, hlinks⟩
  -- the links written are those of `f` and of the old tail of `q`
  intro q' hq' g hg
  apply hnext
  intro hmem
  rcases List.mem_cons.mp hmem with rfl | hgq
  · exact hf q' hg
  · exact hq' (h.valid.disjoint q' q g hg hgq)

theorem Refines.dequeue_none (h : Refines Q m F) (hQ : Q q)
    (hzero : (m.queue q).frames = 0) :
    (xcanDequeue (some q) m).1 = none ∧
      Refines Q (xcanDequeue (some q) m).2 F ∧
      LinksOnly m (xcanDequeue (some q) m).2 := by
  obtain ⟨hrc, -, hqueue, hframe, hlinks⟩ := (h.represents q hQ).dequeue_none hzero
  exact ⟨hrc, h.of_eq hqueue hframe, hlinks⟩

theorem Refines.dequeue (h : Refines Q m F) (hQ : Q q)
    (hframes : (m.queue q).frames ≠ 0) :
    ∃ f, F.items q = f :: (F.items q).tail ∧
      (xcanDequeue (some q) m).1 = some f ∧
      Refines Q (xcanDequeue (some q) m).2 (F.drop q 1) ∧
      (xcanDequeue (some q) m).2.next f = none ∧
      LinksOnly m (xcanDequeue (some q) m).2 := by
  obtain ⟨f, l, hl⟩ := (h.represents q hQ).cons_of_frames hframes
  have hrep := h.represents q hQ
  rw [hl] at hrep
  obtain ⟨hrc, hrep', hqueue, hnext, hunlink, hmax, hlinks⟩ :=
    hrep.dequeue_cons hframes
  have hdrop : Represents (xcanDequeue (some q) m).2 q ((F.items q).drop 1) := by
    rw [hl]
    exact hrep'
  refine ⟨f, by simp [hl], hrc, h.update hdrop (h.valid.drop 1) hmax hqueue ?_, hunlink,
    hlinks⟩
  intro q' hq' g hg
  apply hnext
  intro hgf
  exact hq' (h.valid.disjoint q' q g hg (by simp [hgf, hl]))

/-- Discarding frames does not touch queues or links. -/
theorem Refines.discard (h : Refines Q m F) :
    Refines Q (xcanFrameDiscard (some f) m).2 F := by
  obtain ⟨hframe, hqueue, -⟩ := xcanFrameDiscard_leaves m f
  exact h.of_eq hqueue hframe

theorem Refines.frames_eq_length (h : Refines Q m F) (hQ : Q q)
    (hlt : (F.items q).length < 2 ^ 32) :
    (m.queue q).frames.toNat = (F.items q).length := by
  rw [(h.represents q hQ).frames, Nat.mod_eq_of_lt hlt]

theorem Refines.frames_ne_zero (h : Refines Q m F) (hQ : Q q)
    (hlt : (F.items q).length < 2 ^ 32) :
    (m.queue q).frames ≠ 0 ↔ F.items q ≠ [] := by
  rw [Ne, (h.represents q hQ).frames_eq_zero, Nat.mod_eq_of_lt hlt,
    List.length_eq_zero_iff]

/-- **The loop of `xcan_queue_empty`**, entered with a first dequeue: it runs
once for each frame of the list and hands each one to `xcan_frame_discard`. -/
theorem Refines.queueEmptyWhile (hQ : Q q) :
    ∀ (n fuel : Nat) (m : Mem) (F : Fifos Ptr Ptr), Refines Q m F →
      (F.items q).length = n → n < 2 ^ 32 → n < fuel →
      ∃ m', queueEmptyWhile (some q) fuel (xcanDequeue (some q) m).1
          (xcanDequeue (some q) m).2 = some ((), m') ∧
        Refines Q m' (F.drop q n) ∧ m'.discards = m.discards ++ F.items q := by
  intro n
  induction n with
  | zero =>
      intro fuel m F h hlen _ hfuel
      obtain ⟨fuel, rfl⟩ : ∃ k, fuel = k + 1 := ⟨fuel - 1, by omega⟩
      have hnil : F.items q = [] := List.length_eq_zero_iff.mp hlen
      have hzero : (m.queue q).frames = 0 := by
        by_contra hne
        exact (h.frames_ne_zero hQ (by omega)).mp hne hnil
      obtain ⟨hrc, hrep, hlinks⟩ := h.dequeue_none hQ hzero
      refine ⟨(xcanDequeue (some q) m).2, ?_, by simpa using hrep, ?_⟩
      · simp [XcanRouter.queueEmptyWhile, hrc]
      · simp [hlinks.discards, hnil]
  | succ n ih =>
      intro fuel m F h hlen hn hfuel
      obtain ⟨fuel, rfl⟩ : ∃ k, fuel = k + 1 := ⟨fuel - 1, by omega⟩
      have hframes : (m.queue q).frames ≠ 0 :=
        (h.frames_ne_zero hQ (by omega)).mpr fun hnil => by simp [hnil] at hlen
      obtain ⟨f, hitems, hrc, hrep, -, hlinks⟩ := h.dequeue hQ hframes
      -- a discard leaves the queues alone, so the rest is a shorter queue
      obtain ⟨-, -, -, hdiscards, -⟩ :=
        xcanFrameDiscard_leaves (xcanDequeue (some q) m).2 f
      obtain ⟨m', hrun, hrep', hdis'⟩ := ih fuel _ _ (hrep.discard (f := f))
        (by simp [hlen]) (by omega) (by omega)
      refine ⟨m', ?_, ?_, ?_⟩
      · simpa [XcanRouter.queueEmptyWhile, hrc] using hrun
      · rw [Fifos.drop_drop, Nat.add_comm] at hrep'
        exact hrep'
      · rw [hdis', hdiscards, hlinks.discards, hitems]
        simp

/-- **`xcan_queue_empty` terminates** with the queue empty and every frame of
it discarded once, in queue order. -/
theorem Refines.queueEmpty (h : Refines Q m F) (hQ : Q q) {fuel : Nat}
    (hlt : (F.items q).length < 2 ^ 32) (hfuel : (F.items q).length < fuel) :
    ∃ m', xcanQueueEmpty fuel (some q) m = some ((), m') ∧
      Refines Q m' (F.drop q (F.items q).length) ∧
      m'.discards = m.discards ++ F.items q := by
  obtain ⟨m', hrun, hrep, hdis⟩ :=
    Refines.queueEmptyWhile hQ _ fuel m F h rfl hlt hfuel
  exact ⟨m', by simpa [xcanQueueEmpty] using hrun, hrep, hdis⟩

theorem Refines.peek (h : Refines Q m F) (hQ : Q q)
    (hlt : (F.items q).length < 2 ^ 32) :
    (xcanQueuePeek (some q) m).1 = (F.items q).head? ∧
      (xcanQueuePeek (some q) m).2.queue = m.queue ∧
      (xcanQueuePeek (some q) m).2.frame = m.frame ∧
      LinksOnly m (xcanQueuePeek (some q) m).2 := by
  obtain ⟨hrc, hrest⟩ := xcanQueuePeek_eq q m
  refine ⟨?_, hrest⟩
  rw [hrc]
  split
  · rename_i hzero
    have : F.items q = [] := by
      by_contra hne
      exact (h.frames_ne_zero hQ hlt).mpr hne hzero
    simp [this]
  · exact (h.represents q hQ).head

end

/-! ## Sequences of operations -/

/-- A call of one of the queue functions. -/
inductive QueueOp where
  | enqueue (q f : Ptr)
  | dequeue (q : Ptr)
  | peek (q : Ptr)
  | empty (q : Ptr)
deriving DecidableEq, Repr

/-- What the call returns. -/
inductive QueueRet where
  | rc (n : Int)
  | frame (f : Option Ptr)
  | unit
deriving DecidableEq, Repr

def queueOp (fuel : Nat) : QueueOp → Prog Mem QueueRet
  | .enqueue q f => return .rc (← xcanEnqueue (some q) f)
  | .dequeue q => return .frame (← xcanDequeue (some q))
  | .peek q => return .frame (← xcanQueuePeek (some q))
  | .empty q => do
      xcanQueueEmpty fuel (some q)
      return .unit

def queueStep (fuel : Nat) (m : Mem) (op : QueueOp) : Option Mem :=
  (queueOp fuel op m).map Prod.snd

/-- What the callers promise: an enqueued frame is in no queue, and an accepted
frame does not bring a queue to `2 ^ 32` frames. -/
def QueueOp.Admissible (m : Mem) : QueueOp → Prop
  | .enqueue q f =>
      (∀ q' l, Chain m.next (m.queue q').head l → f ∉ l) ∧
      ((xcanEnqueue (some q) f m).1 = 0 →
        ∀ l, Chain m.next (m.queue q).head l → l.length + 1 < 2 ^ 32)
  | _ => True

/-- The queues of `m` are the bounded FIFOs `F`: the links from `head` visit
exactly the listed frames, the count is their number, the end pointers are
`NULL` together, exactly on the empty list, and no frame is listed twice. -/
structure IsFifos (m : Mem) (F : Fifos Ptr Ptr) : Prop where
  chain : ∀ q, Chain m.next (m.queue q).head (F.items q)
  frames : ∀ q, (m.queue q).frames.toNat = (F.items q).length
  head : ∀ q, (m.queue q).head = none ↔ F.items q = []
  ends : ∀ q, (m.queue q).head = none ↔ (m.queue q).tail = none
  tail : ∀ q, (m.queue q).tail = (F.items q).getLast?
  cap : ∀ q, F.cap q = (m.queue q).maxFrames.toNat
  valid : F.Valid

/-- The effect of one call on the FIFOs `F`, from memory `m` to `m'`. -/
def QueueOp.Spec (F : Fifos Ptr Ptr) (m m' : Mem) : QueueOp → QueueRet → Prop
  | .enqueue q f, r =>
      ((F.cap q ≠ 0 ∧ (F.items q).length = F.cap q) ∧ r = .rc (-1) ∧
        m'.queue = m.queue ∧ m'.frame = m.frame) ∨
      (¬ (F.cap q ≠ 0 ∧ (F.items q).length = F.cap q) ∧ r = .rc 0 ∧
        IsFifos m' (F.push q f))
  | .dequeue q, r =>
      r = .frame (F.items q).head? ∧ IsFifos m' (F.drop q 1) ∧
        ∀ f ∈ (F.items q).head?, m'.next f = none
  | .peek q, r =>
      r = .frame (F.items q).head? ∧ m'.queue = m.queue ∧ m'.frame = m.frame
  | .empty q, r =>
      r = .unit ∧ IsFifos m' (F.drop q (F.items q).length) ∧
        m'.discards = m.discards ++ F.items q

/-- The invariant of the runs: every queue structure of memory is a FIFO of
fewer than `2 ^ 32` frames. -/
structure QueueInv (m : Mem) (F : Fifos Ptr Ptr) : Prop where
  refines : Refines (fun _ => True) m F
  short : ∀ q, (F.items q).length < 2 ^ 32

section
variable {m : Mem} {F : Fifos Ptr Ptr} {q f : Ptr} {fuel : Nat}

theorem QueueInv.isFifos (h : QueueInv m F) : IsFifos m F := by
  have hrep := fun q => h.refines.represents q trivial
  have hhead : ∀ q, (m.queue q).head = none ↔ F.items q = [] := fun q =>
    (hrep q).chain.eq_nil_iff.symm
  exact {
    chain := fun q => (hrep q).chain
    frames := fun q => h.refines.frames_eq_length trivial (h.short q)
    head := hhead
    ends := fun q => by
      rw [hhead q, (hrep q).tail, List.getLast?_eq_none_iff]
    tail := fun q => (hrep q).tail
    cap := fun q => h.refines.cap q trivial
    valid := h.refines.valid }

theorem QueueInv.drop {m' : Mem} (h : QueueInv m F) (n : Nat)
    (hrep : Refines (fun _ => True) m' (F.drop q n)) :
    QueueInv m' (F.drop q n) where
  refines := hrep
  short q' := by
    by_cases hq : q' = q
    · subst hq
      rw [Fifos.drop_items_self, List.length_drop]
      exact Nat.lt_of_le_of_lt (Nat.sub_le _ _) (h.short q')
    · rw [Fifos.drop_items_of_ne hq]
      exact h.short q'

theorem QueueInv.of_eq {m' : Mem} (h : QueueInv m F) (hq : m'.queue = m.queue)
    (hf : m'.frame = m.frame) : QueueInv m' F :=
  ⟨h.refines.of_eq hq hf, h.short⟩

theorem QueueInv.enqueue (h : QueueInv m F)
    (hadm : (QueueOp.enqueue q f).Admissible m) :
    ∃ F', QueueInv (xcanEnqueue (some q) f m).2 F' ∧
      QueueOp.Spec F m (xcanEnqueue (some q) f m).2 (.enqueue q f)
        (.rc (xcanEnqueue (some q) f m).1) := by
  have hfree : ∀ i, f ∉ F.items i := fun i =>
    hadm.1 i _ (h.refines.represents i trivial).chain
  by_cases hfull : F.Full q
  · obtain ⟨hrc, hqueue, hframe, -⟩ :=
      h.refines.enqueue_full (f := f) trivial hfull
    exact ⟨F, h.of_eq hqueue hframe, .inl
      ⟨h.refines.valid.full_iff.mp hfull, by rw [hrc], hqueue, hframe⟩⟩
  · obtain ⟨hrc, hrep, -⟩ := h.refines.enqueue trivial hfull hfree
    have hinv : QueueInv (xcanEnqueue (some q) f m).2 (F.push q f) := by
      refine ⟨hrep, ?_⟩
      intro q'
      by_cases hq : q' = q
      · subst hq
        rw [Fifos.push_items_self, List.length_append, List.length_singleton]
        exact hadm.2 hrc _ (h.refines.represents q' trivial).chain
      · rw [Fifos.push_items_of_ne hq]
        exact h.short q'
    exact ⟨_, hinv, .inr
      ⟨mt h.refines.valid.full_iff.mpr hfull, by rw [hrc], hinv.isFifos⟩⟩

theorem QueueInv.dequeue (h : QueueInv m F) :
    ∃ F', QueueInv (xcanDequeue (some q) m).2 F' ∧
      QueueOp.Spec F m (xcanDequeue (some q) m).2 (.dequeue q)
        (.frame (xcanDequeue (some q) m).1) := by
  by_cases hnil : F.items q = []
  · have hzero : (m.queue q).frames = 0 := by
      by_contra hne
      exact (h.refines.frames_ne_zero trivial (h.short q)).mp hne hnil
    obtain ⟨hrc, hrep, -⟩ := h.refines.dequeue_none trivial hzero
    rw [← Fifos.drop_of_nil (n := 1) hnil] at hrep
    have hinv := h.drop 1 hrep
    exact ⟨_, hinv, by simp [hrc, hnil], hinv.isFifos, by simp [hnil]⟩
  · obtain ⟨f, hitems, hrc, hrep, hunlink, -⟩ := h.refines.dequeue trivial
      ((h.refines.frames_ne_zero trivial (h.short q)).mpr hnil)
    have hinv := h.drop 1 hrep
    refine ⟨_, hinv, by rw [hrc, hitems]; rfl, hinv.isFifos, ?_⟩
    intro g hg
    rw [hitems] at hg
    cases hg
    exact hunlink

/-- **The step lemma**: an admissible call returns, does what the FIFO
operation of its name does, and leaves FIFOs again. -/
theorem QueueInv.step (h : QueueInv m F) (op : QueueOp)
    (hadm : op.Admissible m) (hfuel : 2 ^ 32 ≤ fuel) :
    ∃ r m' F', queueOp fuel op m = some (r, m') ∧ QueueInv m' F' ∧
      op.Spec F m m' r := by
  cases op with
  | enqueue q f =>
      obtain ⟨F', hinv, hspec⟩ := h.enqueue hadm
      exact ⟨_, _, F', by simp [queueOp], hinv, hspec⟩
  | dequeue q =>
      obtain ⟨F', hinv, hspec⟩ := h.dequeue (q := q)
      exact ⟨_, _, F', by simp [queueOp], hinv, hspec⟩
  | peek q =>
      obtain ⟨hrc, hqueue, hframe, -⟩ := h.refines.peek trivial (h.short q)
      exact ⟨_, _, F, by simp [queueOp], h.of_eq hqueue hframe,
        congrArg QueueRet.frame hrc, hqueue, hframe⟩
  | empty q =>
      have hlt : (F.items q).length < fuel := Nat.lt_of_lt_of_le (h.short q) hfuel
      obtain ⟨m', hrun, hrep, hdis⟩ := h.refines.queueEmpty trivial (h.short q) hlt
      have hinv := h.drop _ hrep
      exact ⟨_, m', _, by simp [queueOp, hrun], hinv, rfl, hinv.isFifos, hdis⟩

end

/-- The queues before the first call: zeroed, except for an arbitrary
`max_frames`. -/
def QueuesZeroed (m : Mem) : Prop :=
  ∀ q, m.queue q = { maxFrames := (m.queue q).maxFrames }

theorem QueuesZeroed.inv {m : Mem} (h : QueuesZeroed m) :
    QueueInv m (Fifos.empty fun q => (m.queue q).maxFrames.toNat) where
  refines := {
    represents := fun q _ => Represents.empty (by rw [h q]) (by rw [h q]) (by rw [h q])
    cap := fun _ _ => rfl
    valid := Fifos.empty_valid _ }
  short := fun _ => by simp [Fifos.empty]

/-- **The queues refine bounded FIFOs.** After any admissible sequence of
calls on zeroed queues, which all return, the queues are FIFOs, and any further
admissible call does to them what the FIFO operation of its name does. -/
theorem queues_refine_fifos {fuel : Nat} (hfuel : 2 ^ 32 ≤ fuel) {m₀ : Mem}
    (hzero : QueuesZeroed m₀) {ops : List QueueOp}
    (hadm : Runs.Meets (queueStep fuel) (fun m op => op.Admissible m) m₀ ops) :
    ∃ m F, Runs.run (queueStep fuel) m₀ ops = some m ∧ IsFifos m F ∧
      ∀ op : QueueOp, op.Admissible m →
        ∃ r m', queueOp fuel op m = some (r, m') ∧ op.Spec F m m' r := by
  obtain ⟨m, hrun, F, hinv⟩ :=
    Runs.run_of_inv (I := fun m => ∃ F, QueueInv m F) (fun m op ⟨F, hinv⟩ hadm => by
      obtain ⟨r, m', F', hop, hinv', -⟩ := hinv.step op hadm hfuel
      exact ⟨m', by simp [queueStep, hop], F', hinv'⟩) ⟨_, hzero.inv⟩ hadm
  refine ⟨m, F, hrun, hinv.isFifos, ?_⟩
  intro op hop
  obtain ⟨r, m', F', hret, -, hspec⟩ := hinv.step op hop hfuel
  exact ⟨r, m', hret, hspec⟩

/-- A frame that is put on a queue and taken off it again. -/
theorem queues_refine_fifos_two_calls :
    ∃ m F, Runs.run (queueStep (2 ^ 32)) {} [.enqueue 1 10, .dequeue 1] = some m ∧
      IsFifos m F ∧ ∀ op : QueueOp, op.Admissible m →
        ∃ r m', queueOp (2 ^ 32) op m = some (r, m') ∧ op.Spec F m m' r := by
  have hnil : ∀ (q : Ptr) (l : List Ptr),
      Chain (Mem.next {}) (({} : Mem).queue q).head l → l = [] :=
    fun _ _ h => h.eq_nil_iff.mpr rfl
  refine queues_refine_fifos (Nat.le_refl _) (fun _ => rfl)
    ⟨⟨fun q' l h => by simp [hnil q' l h], fun _ l h => by simp [hnil 1 l h]⟩,
      fun _ _ => ⟨trivial, fun _ _ => trivial⟩⟩

end XcanRouter
