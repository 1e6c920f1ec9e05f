import XcanRouter.Frame
import XcanRouter.Base.Prog
import XcanRouter.Base.Chain
import XcanRouter.Base.Fifo

/-!
# Queues (xcan_queue.h)

`struct xcan_queue` is a list threaded through the `next` links of the frames
themselves, with a redundant count and both end pointers.
-/

namespace XcanRouter

open LinkedChain

/-- `xcan_enqueue` -/
def xcanEnqueue (q : Option Ptr) (f : Ptr) : MemOp Int := do
  let maxFrames ← load q QueueField.maxFrames
  if maxFrames ≠ 0 ∧ maxFrames ≤ (← load q QueueField.frames) then
    return -1
  store (some f) FrameField.next none
  if (← load q QueueField.head) = none then
    store q QueueField.head (some f)
    store q QueueField.tail (some f)
    store q QueueField.frames 0
  else
    store (← load q QueueField.tail) FrameField.next (some f)
    store q QueueField.tail (some f)
  store q QueueField.frames ((← load q QueueField.frames) + 1)
  return 0

/-- `xcan_dequeue` -/
def xcanDequeue (q : Option Ptr) : MemOp (Option Ptr) := do
  match ← load q QueueField.head with
  | none => return none
  | some f =>
    if (← load q QueueField.frames) < 1 then
      return none
    store q QueueField.head (← load (some f) FrameField.next)
    store q QueueField.frames ((← load q QueueField.frames) - 1)
    if (← load q QueueField.head) = none then
      store q QueueField.tail none
    store (some f) FrameField.next none
    return some f

/-- `xcan_queue_peek` -/
def xcanQueuePeek (q : Option Ptr) : MemOp (Option Ptr) := do
  let f ← load q QueueField.head
  if (← load q QueueField.frames) < 1 then
    return none
  return f

instance : MonadLift MemOp (Prog Mem) := ⟨fun x m => some (x m)⟩

@[simp] theorem liftM_mem_apply {α : Type} (x : MemOp α) (m : Mem) :
    (liftM x : Prog Mem α) m = some (x m) := rfl

/-- `while(f) { xcan_frame_discard(f); f = xcan_dequeue(q); }` -/
def queueEmptyWhile (q : Option Ptr) : Nat → Option Ptr → Prog Mem Unit
  | 0, _ => Prog.diverge
  | fuel + 1, f =>
    if f = none then
      return ()
    else do
      xcanFrameDiscard f
      queueEmptyWhile q fuel (← xcanDequeue q)

/-- `xcan_queue_empty` -/
def xcanQueueEmpty (fuel : Nat) (q : Option Ptr) : Prog Mem Unit := do
  queueEmptyWhile q fuel (← xcanDequeue q)

/-! ## What the queue operations leave alone -/

def Mem.next (m : Mem) (f : Ptr) : Option Ptr := (m.frame f).next

/-- A frame without its link. -/
def XcanFrame.content (f : XcanFrame) : XcanFrame := { f with next := none }

/-- From `m` to `m'` only queue structures and `next` links changed. -/
structure LinksOnly (m m' : Mem) : Prop where
  heap : m'.heap = m.heap
  device : m'.device = m.device
  byte : m'.byte = m.byte
  discards : m'.discards = m.discards
  content : ∀ f, (m'.frame f).content = (m.frame f).content

theorem LinksOnly.refl (m : Mem) : LinksOnly m m := ⟨rfl, rfl, rfl, rfl, fun _ => rfl⟩

theorem LinksOnly.trans {m m' m'' : Mem} (h : LinksOnly m m')
    (h' : LinksOnly m' m'') : LinksOnly m m'' :=
  ⟨h'.heap.trans h.heap, h'.device.trans h.device, h'.byte.trans h.byte,
    h'.discards.trans h.discards, fun f => (h'.content f).trans (h.content f)⟩

section
variable {m m' : Mem} (h : LinksOnly m m') (f : Ptr)

include h

theorem LinksOnly.len : (m'.frame f).len = (m.frame f).len := by
  have hlen := congrArg XcanFrame.len (h.content f)
  exact hlen

theorem LinksOnly.flags : (m'.frame f).flags = (m.frame f).flags := by
  have hflags := congrArg XcanFrame.flags (h.content f)
  exact hflags

theorem LinksOnly.data : (m'.frame f).data = (m.frame f).data := by
  have hdata := congrArg XcanFrame.data (h.content f)
  exact hdata

theorem LinksOnly.usageCount : (m'.frame f).usageCount = (m.frame f).usageCount := by
  have hcount := congrArg XcanFrame.usageCount (h.content f)
  exact hcount

end

/-- From `m` to `m'` memory was only read. -/
structure ReadsOnly (m m' : Mem) : Prop where
  heap : m'.heap = m.heap
  frame : m'.frame = m.frame
  queue : m'.queue = m.queue
  device : m'.device = m.device
  byte : m'.byte = m.byte
  discards : m'.discards = m.discards

theorem ReadsOnly.refl (m : Mem) : ReadsOnly m m := ⟨rfl, rfl, rfl, rfl, rfl, rfl⟩

theorem ReadsOnly.trans {m m' m'' : Mem} (h : ReadsOnly m m') (h' : ReadsOnly m' m'') :
    ReadsOnly m m'' :=
  ⟨h'.heap.trans h.heap, h'.frame.trans h.frame, h'.queue.trans h.queue,
    h'.device.trans h.device, h'.byte.trans h.byte, h'.discards.trans h.discards⟩

theorem ReadsOnly.touch {m m' : Mem} (h : ReadsOnly m m') (b : Option Ptr)
    (offset size : Nat) : ReadsOnly m (m'.touch b offset size) :=
  ⟨h.heap, h.frame, h.queue, h.device, h.byte, h.discards⟩

theorem ReadsOnly.links {m m' : Mem} (h : ReadsOnly m m') : LinksOnly m m' :=
  ⟨h.heap, h.device, h.byte, h.discards, fun f => by rw [h.frame]⟩

theorem content_update (F : Ptr → XcanFrame) (f g : Ptr) (v : Option Ptr) :
    (Function.update F f { F f with next := v } g).content = (F g).content := by
  by_cases h : g = f
  · subst h
    simp [XcanFrame.content]
  · rw [Function.update_of_ne h]

theorem next_update {m m' : Mem} {f : Ptr} {v : XcanFrame}
    (h : m'.frame = Function.update m.frame f v) :
    m'.next = Function.update m.next f v.next := by
  ext1 g
  simp only [Mem.next, h]
  by_cases hg : g = f
  · subst hg
    simp
  · simp [hg, Mem.next]

/-! ## The branches of the operations -/

section
variable (q f : Ptr) (m : Mem)

theorem xcanEnqueue_full
    (h : (m.queue q).maxFrames ≠ 0 ∧ (m.queue q).maxFrames ≤ (m.queue q).frames) :
    (xcanEnqueue (some q) f m).1 = -1 ∧
      (xcanEnqueue (some q) f m).2.queue = m.queue ∧
      (xcanEnqueue (some q) f m).2.frame = m.frame ∧
      LinksOnly m (xcanEnqueue (some q) f m).2 := by
  refine ⟨?_, ?_, ?_, ⟨?_, ?_, ?_, ?_, fun g => ?_⟩⟩ <;>
    simp [xcanEnqueue, QueueField.maxFrames, QueueField.frames, h]

theorem xcanEnqueue_first
    (h : ¬ ((m.queue q).maxFrames ≠ 0 ∧ (m.queue q).maxFrames ≤ (m.queue q).frames))
    (hhead : (m.queue q).head = none) :
    (xcanEnqueue (some q) f m).1 = 0 ∧
      (xcanEnqueue (some q) f m).2.queue = Function.update m.queue q
        { m.queue q with frames := 1, head := some f, tail := some f } ∧
      (xcanEnqueue (some q) f m).2.frame =
        Function.update m.frame f { m.frame f with next := none } ∧
      LinksOnly m (xcanEnqueue (some q) f m).2 := by
  refine ⟨?_, ?_, ?_, ⟨?_, ?_, ?_, ?_, fun g => ?_⟩⟩ <;>
    simp [xcanEnqueue, QueueField.maxFrames, QueueField.frames, QueueField.head,
      QueueField.tail, FrameField.next, h, hhead, content_update]

theorem xcanEnqueue_next {t : Ptr}
    (h : ¬ ((m.queue q).maxFrames ≠ 0 ∧ (m.queue q).maxFrames ≤ (m.queue q).frames))
    (hhead : (m.queue q).head ≠ none) (htail : (m.queue q).tail = some t) :
    (xcanEnqueue (some q) f m).1 = 0 ∧
      (xcanEnqueue (some q) f m).2.queue = Function.update m.queue q
        { m.queue q with frames := (m.queue q).frames + 1, tail := some f } ∧
      (xcanEnqueue (some q) f m).2.next =
        Function.update (Function.update m.next f none) t (some f) ∧
      LinksOnly m (xcanEnqueue (some q) f m).2 := by
  have hframe : (xcanEnqueue (some q) f m).2.frame =
      ((m.setFrame f { m.frame f with next := none }).setFrame t
        { Function.update m.frame f { m.frame f with next := none } t with
          next := some f }).frame := by
    simp [xcanEnqueue, QueueField.maxFrames, QueueField.frames, QueueField.head,
      QueueField.tail, FrameField.next, h, hhead, htail]
  refine ⟨?_, ?_, ?_, ⟨?_, ?_, ?_, ?_, fun g => ?_⟩⟩
  case refine_3 =>
    have hfirst : (m.setFrame f { m.frame f with next := none }).next =
        Function.update m.next f none :=
      next_update (Mem.setFrame_frame m f { m.frame f with next := none })
    rw [← hfirst]
    exact next_update hframe
  case refine_8 =>
    rw [hframe]
    simp only [Mem.setFrame_frame, content_update]
  all_goals
    simp [xcanEnqueue, QueueField.maxFrames, QueueField.frames, QueueField.head,
      QueueField.tail, FrameField.next, h, hhead, htail]

/-- Whatever the queue, an enqueue writes to links and queues only. -/
theorem xcanEnqueue_links : LinksOnly m (xcanEnqueue (some q) f m).2 := by
  by_cases h : (m.queue q).maxFrames ≠ 0 ∧ (m.queue q).maxFrames ≤ (m.queue q).frames
  · exact (xcanEnqueue_full q f m h).2.2.2
  by_cases hhead : (m.queue q).head = none
  · exact (xcanEnqueue_first q f m h hhead).2.2.2
  cases htail : (m.queue q).tail with
  | some t => exact (xcanEnqueue_next q f m h hhead htail).2.2.2
  | none =>
      refine ⟨?_, ?_, ?_, ?_, fun g => ?_⟩ <;>
        simp [xcanEnqueue, store, QueueField.maxFrames, QueueField.frames,
          QueueField.head, QueueField.tail, FrameField.next, Stored.put, Stored.get, h,
          hhead, htail, content_update]

theorem xcanDequeue_none
    (h : (m.queue q).head = none ∨ (m.queue q).frames = 0) :
    (xcanDequeue (some q) m).1 = none ∧
      (xcanDequeue (some q) m).2.queue = m.queue ∧
      (xcanDequeue (some q) m).2.frame = m.frame ∧
      LinksOnly m (xcanDequeue (some q) m).2 := by
  cases hhead : (m.queue q).head with
  | none =>
      refine ⟨?_, ?_, ?_, ⟨?_, ?_, ?_, ?_, fun g => ?_⟩⟩ <;>
        simp [xcanDequeue, QueueField.head, hhead]
  | some x =>
      have hzero : (m.queue q).frames = 0 := by simpa [hhead] using h
      refine ⟨?_, ?_, ?_, ⟨?_, ?_, ?_, ?_, fun g => ?_⟩⟩ <;>
        simp [xcanDequeue, QueueField.head, QueueField.frames, hhead, hzero]

theorem xcanDequeue_some (hhead : (m.queue q).head = some f)
    (h : (m.queue q).frames ≠ 0) :
    (xcanDequeue (some q) m).1 = some f ∧
      (xcanDequeue (some q) m).2.queue = Function.update m.queue q
        { m.queue q with
          frames := (m.queue q).frames - 1
          head := m.next f
          tail := if m.next f = none then none else (m.queue q).tail } ∧
      (xcanDequeue (some q) m).2.frame =
        Function.update m.frame f { m.frame f with next := none } ∧
      LinksOnly m (xcanDequeue (some q) m).2 := by
  by_cases hnext : (m.frame f).next = none <;>
    refine ⟨?_, ?_, ?_, ⟨?_, ?_, ?_, ?_, fun g => ?_⟩⟩ <;>
    simp [xcanDequeue, QueueField.frames, QueueField.head, QueueField.tail,
      FrameField.next, hhead, h, hnext, Mem.next, content_update]

theorem xcanQueuePeek_eq :
    (xcanQueuePeek (some q) m).1 =
        (if (m.queue q).frames = 0 then none else (m.queue q).head) ∧
      (xcanQueuePeek (some q) m).2.queue = m.queue ∧
      (xcanQueuePeek (some q) m).2.frame = m.frame ∧
      LinksOnly m (xcanQueuePeek (some q) m).2 := by
  by_cases h : (m.queue q).frames = 0 <;>
    refine ⟨?_, ?_, ?_, ⟨?_, ?_, ?_, ?_, fun g => ?_⟩⟩ <;>
    simp [xcanQueuePeek, QueueField.frames, QueueField.head, h]

end

end XcanRouter
