import XcanRouter.Memory

/-!
# Frames (xcan_frame.c)

A frame is a descriptor and a payload buffer that ends in the usage counter.
Copies of a frame are further descriptors of one buffer.
-/

namespace XcanRouter

/-- `xcan_frame_do_alloc`. When the second allocation fails the descriptor is
freed, but the function goes on with it. -/
def xcanFrameDoAlloc (size : UInt32) : MemOp (Option Ptr) := do
  match ← xcanZalloc XcanFrame sizeofXcanFrame with
  | none => return none
  | some f =>
    store (some f) FrameField.data { block := ← xcanZalloc Bytes (size.toNat + 1) }
    if (← load (some f) FrameField.data).block = none then
      -- no `return` follows
      xcanFree (some f)
    store (some f) FrameField.len size.toUInt16
    store (some f) FrameField.flags 0
    store (some f) FrameField.usageCount
      ((← load (some f) FrameField.data).add size.toNat)
    return some f

/-- `xcan_frame_discard` -/
def xcanFrameDiscard : Option Ptr → MemOp Unit
  | none => return ()
  | some f => do
    noteDiscard f
    let count ← load (some f) FrameField.usageCount
    -- a `uint8_t`: zero becomes 255
    storeByte count ((← loadByte count) + (-1))
    if (← loadByte (← load (some f) FrameField.usageCount)) = 0 then
      xcanFree (← load (some f) FrameField.data).block
      xcanFree (some f)

/-- `xcan_frame_alloc` -/
def xcanFrameAlloc (size : UInt32) : MemOp (Option Ptr) :=
  xcanFrameDoAlloc size

/-- `xcan_frame_copy` -/
def xcanFrameCopy (f : Option Ptr) : MemOp (Option Ptr) := do
  match ← xcanZalloc XcanFrame sizeofXcanFrame with
  | none => return none
  | some new =>
    store (some new) (whole XcanFrame sizeofXcanFrame)
      (← load f (whole XcanFrame sizeofXcanFrame))
    let count ← load (some new) FrameField.usageCount
    storeByte count ((← loadByte count) + 1)
    store (some new) FrameField.next none
    return some new

/-- `xcan_frame_deepcopy`. It is `f` that the code compares with `NULL` after
the copy, not `new`. -/
def xcanFrameDeepcopy (f : Option Ptr) : MemOp (Option Ptr) := do
  -- this also counts `new` as a user of the payload of `f`
  let new ← xcanFrameCopy f
  if f = none then
    return none
  store new FrameField.data
    { block := ← xcanZalloc Bytes ((← load new FrameField.len).toNat + 1) }
  let len ← load new FrameField.len
  let src ← loadBytes (← load f FrameField.data) len.toNat
  memcpy (← load new FrameField.data) src len.toNat
  store new FrameField.usageCount
    ((← load new FrameField.data).add (← load new FrameField.len).toNat)
  storeByte (← load new FrameField.usageCount) 1
  return new

/-! ## What the functions do to memory -/

/-- The descriptor of a new frame of `size` bytes with its payload at `data`. -/
def newFrame (data : Option Ptr) (size : UInt32) : XcanFrame :=
  { len := size.toUInt16
    data := { block := data }
    usageCount := { block := data, offset := size.toNat } }

section
variable (m : Mem) (size : UInt32) (f : Ptr)

theorem xcanFrameAlloc_refused (h : m.heap.oom m.heap.calls = true) :
    xcanFrameAlloc size m = (none, m.setHeap m.heap.refuse) := by
  simp [xcanFrameAlloc, xcanFrameDoAlloc, h]

/-- Both allocations succeed: the payload buffer is the block after the
descriptor, and reads as zero, the usage counter included. -/
theorem xcanFrameAlloc_granted (h : m.heap.oom m.heap.calls = false)
    (h' : m.heap.oom (m.heap.calls + 1) = false) :
    (xcanFrameAlloc size m).1 = some m.heap.brk ∧
      (xcanFrameAlloc size m).2.frame =
        Function.update m.frame m.heap.brk (newFrame (some (m.heap.brk + 1)) size) ∧
      (xcanFrameAlloc size m).2.byte =
        Function.update m.byte (m.heap.brk + 1) (fun _ => 0) ∧
      (xcanFrameAlloc size m).2.heap = (m.heap.grant 0).grant 0 ∧
      (xcanFrameAlloc size m).2.queue = m.queue ∧
      (xcanFrameAlloc size m).2.device = m.device ∧
      (xcanFrameAlloc size m).2.discards = m.discards := by
  refine ⟨?_, ?_, ?_, ?_, ?_, ?_, ?_⟩ <;>
    simp [xcanFrameAlloc, xcanFrameDoAlloc, h, h', Stored.put, Stored.zero,
      FrameField.data, FrameField.len, FrameField.flags, FrameField.usageCount,
      BytePtr.add, newFrame]

/-- A frame allocation that gets its descriptor changes that descriptor and at
most one fresh payload block. -/
theorem xcanFrameAlloc_some (h : m.heap.oom m.heap.calls = false) :
    (xcanFrameAlloc size m).1 = some m.heap.brk ∧
      (∃ data, (xcanFrameAlloc size m).2.frame =
        Function.update m.frame m.heap.brk (newFrame data size)) ∧
      (xcanFrameAlloc size m).2.queue = m.queue ∧
      (xcanFrameAlloc size m).2.device = m.device ∧
      (xcanFrameAlloc size m).2.discards = m.discards ∧
      m.heap.brk < (xcanFrameAlloc size m).2.heap.brk := by
  cases h' : m.heap.oom (m.heap.calls + 1)
  · obtain ⟨hf, hframe, -, hheap, hqueue, hdevice, hdiscards⟩ :=
      xcanFrameAlloc_granted m size h h'
    refine ⟨hf, ⟨_, hframe⟩, hqueue, hdevice, hdiscards, ?_⟩
    rw [hheap]
    exact Nat.lt_add_of_pos_right Nat.two_pos
  -- no payload: the code frees the descriptor, then fills it in and returns it
  · refine ⟨?_, ⟨none, ?_⟩, ?_, ?_, ?_, ?_⟩ <;>
      simp [xcanFrameAlloc, xcanFrameDoAlloc, h, h', Stored.put, Stored.zero,
        FrameField.data, FrameField.len, FrameField.flags, FrameField.usageCount,
        BytePtr.add, newFrame]

/-- A discard writes one byte and the allocator's list of freed blocks. -/
theorem xcanFrameDiscard_leaves :
    (xcanFrameDiscard (some f) m).2.frame = m.frame ∧
      (xcanFrameDiscard (some f) m).2.queue = m.queue ∧
      (xcanFrameDiscard (some f) m).2.device = m.device ∧
      (xcanFrameDiscard (some f) m).2.discards = m.discards ++ [f] ∧
      (xcanFrameDiscard (some f) m).2.heap.brk = m.heap.brk ∧
      (xcanFrameDiscard (some f) m).2.heap.oom = m.heap.oom := by
  cases hc : (m.frame f).usageCount.block <;> cases hd : (m.frame f).data.block <;>
    refine ⟨?_, ?_, ?_, ?_, ?_, ?_⟩ <;>
    simp [xcanFrameDiscard, storeByte, memcpy, loadByte, FrameField.usageCount,
      FrameField.data, hc, hd] <;> split <;> simp

end

end XcanRouter
