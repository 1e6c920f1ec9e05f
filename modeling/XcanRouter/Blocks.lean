import XcanRouter.Stack
import XcanRouter.Registry

/-!
# Sizes of blocks

`XCAN_ZALLOC(x)` asks the allocator for `x` objects of no bytes. Runs of the
functions of the stack, with every access to the blocks they were given held
against the number of bytes that was requested for the block.
-/

namespace XcanRouter

variable {W : Type}

/-- A call of a function of the stack. -/
inductive BlockOp where
  | init (dev : Ptr) (id : UInt8) (name : List UInt8)
  | recv (dev : Ptr) (canId : UInt32) (flags : UInt8) (data : Bytes) (len : UInt8)
  | alloc (size : UInt32)
  | copy (f : Ptr)
  | deepcopy (f : Ptr)
  | discard (f : Option Ptr)
  | enqueue (q f : Ptr)
  | dequeue (q : Ptr)
  | peek (q : Ptr)
  | empty (q : Ptr)

structure BlockRun (W : Type) where
  stack : Stack W
  /-- The frame descriptors that were allocated. -/
  frames : List Ptr := []
  /-- The queues of the devices that were initialised. -/
  queues : List Ptr := []

/-- A call that works on memory only, and allocates the descriptor `r.1`. -/
def BlockRun.withFrame (s : BlockRun W) (r : Option Ptr × Mem) : BlockRun W :=
  { s with
    stack := { s.stack with mem := r.2 }
    frames := s.frames ++ r.1.toList }

/-- A call that works on memory only. -/
def BlockRun.withMem (s : BlockRun W) (m : Mem) : BlockRun W :=
  { s with stack := { s.stack with mem := m } }

/-- The queues of `dev`. -/
def deviceQueues (m : Mem) (dev : Ptr) : List Ptr :=
  (m.device dev).qIn.toList ++ (m.device dev).qOut.toList

def blockStep (fuel : Nat) (s : BlockRun W) : BlockOp → Option (BlockRun W)
  | .init dev id name =>
      (xcanDeviceInit dev id name s.stack).map fun (r : Int × Stack W) =>
        { s with
          stack := r.2
          queues := if r.1 = 0 then s.queues ++ deviceQueues r.2.mem dev else s.queues }
  | .recv dev canId flags data len =>
      (xcanStackRecv dev canId flags data len s.stack).map fun r =>
        { s with
          stack := r.2
          frames := s.frames ++ (r.2.recvs.getLast?.bind RecvCall.frame).toList }
  | .alloc size => some (s.withFrame (xcanFrameAlloc size s.stack.mem))
  | .copy f => some (s.withFrame (xcanFrameCopy (some f) s.stack.mem))
  | .deepcopy f => some (s.withFrame (xcanFrameDeepcopy (some f) s.stack.mem))
  | .discard f => some (s.withMem (xcanFrameDiscard f s.stack.mem).2)
  | .enqueue q f => some (s.withMem (xcanEnqueue (some q) f s.stack.mem).2)
  | .dequeue q => some (s.withMem (xcanDequeue (some q) s.stack.mem).2)
  | .peek q => some (s.withMem (xcanQueuePeek (some q) s.stack.mem).2)
  | .empty q => (xcanQueueEmpty fuel (some q) s.stack.mem).map fun r => s.withMem r.2

/-- The calls are on devices outside of the blocks from `base` on, on frames
that were allocated and on queues of devices that were initialised. -/
def BlockOp.Admissible (base : Nat) (s : BlockRun W) : BlockOp → Prop
  | .init dev _ _ => dev < base
  | .recv dev _ _ _ _ => dev < base
  | .alloc _ => True
  | .copy f | .deepcopy f => f ∈ s.frames
  | .discard f => ∀ b, f = some b → b ∈ s.frames
  | .enqueue q f => q ∈ s.queues ∧ f ∈ s.frames
  | .dequeue q | .peek q | .empty q => q ∈ s.queues

/-- Every byte that was accessed in a block from `base` on is one of the bytes
that were requested for the block. -/
def InBounds (base : Nat) (m : Mem) : Prop :=
  ∀ a ∈ m.log, ∀ b, a.block = some b → base ≤ b →
    ∀ i, a.offset ≤ i → i < a.offset + a.size → i < m.heap.size b

/-- Before the first call: nothing was accessed yet, and no allocation fails. -/
structure BlockRun.Start (s : BlockRun W) : Prop where
  oom : ∀ n, s.stack.mem.heap.oom n = false
  log : s.stack.mem.log = []
  frames : s.frames = []
  queues : s.queues = []

/-- The calls that touch no allocated block. -/
def BlockOp.Harmless : BlockOp → Prop
  | .init _ _ _ => True
  | .discard f => f = none
  | _ => False

/-! ## What calls do to the log -/

/-- From `m` to `m'` accesses were added, and the blocks kept their sizes. -/
structure Grows (m m' : Mem) : Prop where
  log : m.log <+: m'.log
  brk : m.heap.brk ≤ m'.heap.brk
  size : ∀ b, b < m.heap.brk → m'.heap.size b = m.heap.size b

theorem Grows.refl (m : Mem) : Grows m m :=
  ⟨List.prefix_rfl, Nat.le_refl _, fun _ _ => rfl⟩

theorem Grows.trans {m m' m'' : Mem} (h : Grows m m') (h' : Grows m' m'') :
    Grows m m'' :=
  ⟨h.log.trans h'.log, Nat.le_trans h.brk h'.brk, fun b hb =>
    (h'.size b (Nat.lt_of_lt_of_le hb h.brk)).trans (h.size b hb)⟩

/-- A statement after which the log has grown. -/
def MemOp.Growing {α : Type} (x : MemOp α) : Prop := ∀ m, Grows m (x m).2

section
variable {α β S : Type} [Stored S]

theorem growing_pure (a : α) : (pure a : MemOp α).Growing := Grows.refl

theorem MemOp.Growing.bind {x : MemOp α} {k : α → MemOp β} (hx : x.Growing)
    (hk : ∀ a, (k a).Growing) : (x >>= k).Growing :=
  fun m => (hx m).trans (hk _ _)

theorem MemOp.Growing.ite {c : Prop} [Decidable c] {x y : MemOp α} (hx : x.Growing)
    (hy : y.Growing) : (if c then x else y).Growing := by
  split
  · exact hx
  · exact hy

theorem growing_load (p : Option Ptr) (x : Field S α) : (load p x).Growing :=
  fun _ => ⟨List.prefix_append _ _, Nat.le_refl _, fun _ _ => rfl⟩

theorem growing_loadByte (p : BytePtr) : (loadByte p).Growing :=
  fun _ => ⟨List.prefix_append _ _, Nat.le_refl _, fun _ _ => rfl⟩

theorem growing_memcpy (p : BytePtr) (src : Bytes) (n : Nat) :
    (memcpy p src n).Growing := by
  intro m
  unfold memcpy
  cases p.block with
  | none => exact ⟨List.prefix_append _ _, Nat.le_refl _, fun _ _ => rfl⟩
  | some b => exact ⟨List.prefix_append _ _, Nat.le_refl _, fun _ _ => rfl⟩

theorem growing_store_frame (p : Option Ptr) (x : Field XcanFrame α) (v : α) :
    (store p x v).Growing := by
  intro m
  cases p with
  | none => exact ⟨List.prefix_append _ _, Nat.le_refl _, fun _ _ => rfl⟩
  | some b => exact ⟨List.prefix_append _ _, Nat.le_refl _, fun _ _ => rfl⟩

theorem growing_store_queue (p : Option Ptr) (x : Field XcanQueue α) (v : α) :
    (store p x v).Growing := by
  intro m
  cases p with
  | none => exact ⟨List.prefix_append _ _, Nat.le_refl _, fun _ _ => rfl⟩
  | some b => exact ⟨List.prefix_append _ _, Nat.le_refl _, fun _ _ => rfl⟩

theorem growing_xcanFree (p : Option Ptr) : (xcanFree p).Growing := by
  intro m
  cases p with
  | none => exact Grows.refl m
  | some b => exact ⟨List.prefix_rfl, Nat.le_refl _, fun _ _ => rfl⟩

theorem growing_noteDiscard (f : Ptr) : (noteDiscard f).Growing :=
  fun _ => ⟨List.prefix_rfl, Nat.le_refl _, fun _ _ => rfl⟩

end

theorem growing_fillFrame (f dev : Ptr) (canId : UInt32) (data : Bytes) (len : UInt8) :
    (fillFrame f dev canId data len).Growing := by
  unfold fillFrame
  apply (growing_store_frame _ _ _).bind
  intro _
  apply (growing_store_frame _ _ _).bind
  intro _
  apply (growing_load _ _).bind
  intro _
  exact growing_memcpy _ _ _

theorem growing_xcanEnqueue (q : Option Ptr) (f : Ptr) : (xcanEnqueue q f).Growing := by
  unfold xcanEnqueue
  apply (growing_load _ _).bind
  intro maxFrames
  apply (growing_load _ _).bind
  intro frames
  apply MemOp.Growing.ite
  · exact growing_pure _
  · apply (growing_store_frame _ _ _).bind
    intro _
    apply (growing_load _ _).bind
    intro head
    -- both branches end in the increment of the count
    have hcount : (do
        store q QueueField.frames ((← load q QueueField.frames) + 1)
        return 0 : MemOp Int).Growing :=
      (growing_load _ _).bind fun _ => (growing_store_queue _ _ _).bind fun _ =>
        growing_pure _
    apply MemOp.Growing.ite
    · exact (growing_store_queue _ _ _).bind fun _ => (growing_store_queue _ _ _).bind
        fun _ => (growing_store_queue _ _ _).bind fun _ => hcount
    · exact (growing_load _ _).bind fun _ => (growing_store_frame _ _ _).bind
        fun _ => (growing_store_queue _ _ _).bind fun _ => hcount

theorem growing_xcanFrameDiscard (f : Ptr) : (xcanFrameDiscard (some f)).Growing := by
  unfold xcanFrameDiscard
  apply (growing_noteDiscard f).bind
  intro _
  apply (growing_load _ _).bind
  intro count
  apply (growing_loadByte _).bind
  intro _
  apply (growing_memcpy _ _ _).bind
  intro _
  apply (growing_load _ _).bind
  intro _
  apply (growing_loadByte _).bind
  intro _
  apply MemOp.Growing.ite
  · exact (growing_load _ _).bind fun _ => (growing_xcanFree _).bind fun _ =>
      growing_xcanFree _
  · exact growing_pure _

/-! ## The first call that is not harmless -/

/-- A byte of a block from `base` on was accessed that has no bytes. -/
def Overrun (base : Nat) (m : Mem) : Prop :=
  ∃ a ∈ m.log, ∃ b, a.block = some b ∧ base ≤ b ∧ b < m.heap.brk ∧ 0 < a.size ∧
    m.heap.size b = 0

theorem Overrun.not_inBounds {base : Nat} {m : Mem} (h : Overrun base m) :
    ¬ InBounds base m := by
  obtain ⟨a, ha, b, hblock, hbase, -, hpos, hsize⟩ := h
  intro hin
  have := hin a ha b hblock hbase a.offset (Nat.le_refl _) (Nat.lt_add_of_pos_right hpos)
  omega

theorem Overrun.grows {base : Nat} {m m' : Mem} (h : Overrun base m) (hg : Grows m m') :
    Overrun base m' := by
  obtain ⟨a, ha, b, hblock, hbase, hbrk, hpos, hsize⟩ := h
  exact ⟨a, hg.log.subset ha, b, hblock, hbase, Nat.lt_of_lt_of_le hbrk hg.brk, hpos,
    (hg.size b hbrk).trans hsize⟩

/-- **A new frame is written behind the end of its block.** -/
theorem xcanFrameAlloc_overrun {base : Nat} (m : Mem) (size : UInt32)
    (hbase : base ≤ m.heap.brk) (h : m.heap.oom m.heap.calls = false)
    (h' : m.heap.oom (m.heap.calls + 1) = false) :
    Overrun base (xcanFrameAlloc size m).2 := by
  obtain ⟨-, -, -, hheap, -⟩ := xcanFrameAlloc_granted m size h h'
  have htouch : ⟨some m.heap.brk, 24, 8, decide (m.heap.brk ∈ m.heap.frees)⟩ ∈
      (xcanFrameAlloc size m).2.log := by
    simp [xcanFrameAlloc, xcanFrameDoAlloc, h, h', Stored.put, FrameField.data]
  refine ⟨_, htouch, m.heap.brk, rfl, hbase, ?_, Nat.zero_lt_succ 7, ?_⟩
  · rw [hheap]
    exact Nat.lt_add_of_pos_right Nat.two_pos
  · rw [hheap]
    simp

section
variable {base : Nat} {s s' s₀ : BlockRun W} {op : BlockOp} {ops : List BlockOp}
  {fuel : Nat}

/-- After inits only: there are no frames, the queues are zeroed, and the
accesses so far were to the devices. -/
structure OnlyInits (base : Nat) (s : BlockRun W) : Prop where
  oom : ∀ n, s.stack.mem.heap.oom n = false
  base_le : base ≤ s.stack.mem.heap.brk
  log : ∀ a ∈ s.stack.mem.log, ∀ b, a.block = some b → b < base
  frames : s.frames = []
  queues : ∀ q ∈ s.queues, base ≤ q ∧ q < s.stack.mem.heap.brk ∧
    s.stack.mem.heap.size q = 0 ∧ s.stack.mem.queue q = {}

theorem OnlyInits.inBounds (h : OnlyInits base s) : InBounds base s.stack.mem := by
  intro a ha b hblock hbase
  exact absurd (h.log a ha b hblock) (Nat.not_lt.mpr hbase)

theorem BlockRun.Start.onlyInits (h : s.Start) :
    OnlyInits s.stack.mem.heap.brk s where
  oom := h.oom
  base_le := Nat.le_refl _
  log a ha := by simp [h.log] at ha
  frames := h.frames
  queues q hq := by simp [h.queues] at hq

/-- What an init in range does to memory. -/
theorem xcanDeviceInit_blocks (dev : Ptr) {id : UInt8} (name : List UInt8) (s : Stack W)
    (hid : id.toNat < xcanMaxDevices) (hoom : ∀ n, s.mem.heap.oom n = false) :
    ∃ s', xcanDeviceInit dev id name s = some (0, s') ∧
      s'.mem.heap = (s.mem.heap.grant 0).grant 0 ∧
      s'.mem.queue = Function.update (Function.update s.mem.queue s.mem.heap.brk {})
        (s.mem.heap.brk + 1) {} ∧
      deviceQueues s'.mem dev = [s.mem.heap.brk, s.mem.heap.brk + 1] ∧
      ∀ a ∈ s'.mem.log, a ∈ s.mem.log ∨ a.block = some dev := by
  have hid' : ¬ xcanMaxDevices ≤ id.toNat := Nat.not_le_of_lt hid
  cases hrun : xcanDeviceInit dev id name s with
  | none =>
      simp [xcanDeviceInit, hid', hoom, Stored.put, DeviceField.id, DeviceField.name,
        DeviceField.qIn, DeviceField.qOut] at hrun
  | some r =>
      simp [xcanDeviceInit, hid', hoom, Stored.put, DeviceField.id, DeviceField.name,
        DeviceField.qIn, DeviceField.qOut] at hrun
      subst hrun
      refine ⟨_, rfl, rfl, rfl, ?_, ?_⟩
      · simp [deviceQueues]
      · intro a ha
        simp at ha
        rcases ha with ha | rfl | rfl | rfl | rfl | rfl | rfl
        · exact .inl ha
        all_goals exact .inr rfl

/-- Two more blocks of no bytes, as zeroed queues. -/
theorem OnlyInits.queues_grant (h : OnlyInits base s) {q : Ptr}
    (hq : q ∈ s.queues ++ [s.stack.mem.heap.brk, s.stack.mem.heap.brk + 1]) :
    base ≤ q ∧ q < ((s.stack.mem.heap.grant 0).grant 0).brk ∧
      ((s.stack.mem.heap.grant 0).grant 0).size q = 0 ∧
      Function.update (Function.update s.stack.mem.queue s.stack.mem.heap.brk {})
        (s.stack.mem.heap.brk + 1) {} q = {} := by
  have hbase := h.base_le
  rcases List.mem_append.mp hq with hq | hq
  · obtain ⟨hge, hlt, hsize, hqueue⟩ := h.queues q hq
    have hne : q ≠ s.stack.mem.heap.brk := Nat.ne_of_lt hlt
    have hne' : q ≠ s.stack.mem.heap.brk + 1 := Nat.ne_of_lt (Nat.lt_succ_of_lt hlt)
    refine ⟨hge, Nat.lt_succ_of_lt (Nat.lt_succ_of_lt hlt), ?_, ?_⟩
    · simp [hne, hne', hsize]
    · simp [hne, hne', hqueue]
  · rcases List.mem_cons.mp hq with rfl | hq
    · refine ⟨hbase, Nat.lt_add_of_pos_right Nat.two_pos, ?_, ?_⟩
      · simp
      · simp
    · obtain rfl := List.mem_singleton.mp hq
      refine ⟨Nat.le_succ_of_le hbase, Nat.lt_succ_self _, ?_, ?_⟩
      · simp
      · simp

/-- A step that keeps the state: an init that is rejected, or one that only
adds zeroed queues; the discard of `NULL`. -/
theorem OnlyInits.step (h : OnlyInits base s) (hadm : op.Admissible base s)
    (hharm : op.Harmless) :
    ∃ s', blockStep fuel s op = some s' ∧ OnlyInits base s' := by
  cases op with
  | init dev id name =>
      by_cases hid : id.toNat < xcanMaxDevices
      · obtain ⟨s₁, hrun, hheap, hqueue, hqueues, hlog⟩ :=
          xcanDeviceInit_blocks dev name s.stack hid h.oom
        refine ⟨{ s with
            stack := s₁
            queues := s.queues ++ [s.stack.mem.heap.brk, s.stack.mem.heap.brk + 1] },
          by simp [blockStep, hrun, hqueues], ?_⟩
        constructor
        case oom =>
          intro n
          rw [hheap]
          exact h.oom n
        case base_le =>
          rw [hheap]
          exact Nat.le_trans h.base_le (Nat.le_add_right _ 2)
        case log =>
          intro a ha b hblock
          rcases hlog a ha with ha | ha
          · exact h.log a ha b hblock
          · obtain rfl : dev = b := Option.some.inj (ha.symm.trans hblock)
            exact hadm
        case frames => exact h.frames
        case queues =>
          intro q hq
          rw [hheap, hqueue]
          exact h.queues_grant hq
      · refine ⟨s, ?_, h⟩
        simp [blockStep, xcanDeviceInit_rejected (Nat.le_of_not_lt hid)]
  | discard f =>
      obtain rfl : f = none := hharm
      exact ⟨s, rfl, h⟩
  | recv | alloc | copy | deepcopy | enqueue | dequeue | peek | empty => exact hharm.elim

/-- A reception allocates a frame, and goes on. -/
theorem xcanStackRecvBody_overrun (m : Mem) (dev : Ptr) (canId : UInt32) (flags : UInt8)
    (data : Bytes) (len : UInt8) (hbase : base ≤ m.heap.brk)
    (hoom : ∀ n, m.heap.oom n = false) :
    Overrun base (xcanStackRecvBody dev canId flags data len m).2 := by
  apply (xcanFrameAlloc_overrun m len.toUInt32 hbase (hoom _) (hoom _)).grows
  obtain ⟨hf, -⟩ := xcanFrameAlloc_granted m len.toUInt32 (hoom _) (hoom _)
  simp only [xcanStackRecvBody, MemOp.bind_apply, hf]
  apply (growing_fillFrame _ _ _ _ _ _).trans
  apply (growing_load (some dev) DeviceField.qIn _).trans
  apply (growing_xcanEnqueue _ _ _).trans
  split
  · exact growing_xcanFrameDiscard _ _
  · exact Grows.refl _

/-- The head of a queue structure without bytes is read. -/
theorem OnlyInits.overrun_queue (h : OnlyInits base s) {q : Ptr} (hq : q ∈ s.queues) :
    Overrun base (s.stack.mem.touch (some q) 8 8) := by
  obtain ⟨hge, hlt, hsize, -⟩ := h.queues q hq
  exact ⟨_, List.mem_append_right _ List.mem_cons_self, q, rfl, hge, hlt,
    Nat.zero_lt_succ 7, hsize⟩

/-- On an empty queue only the head is read. -/
theorem xcanDequeue_zeroed {m : Mem} {q : Ptr} (h : m.queue q = {}) :
    xcanDequeue (some q) m = (none, m.touch (some q) 8 8) := by
  simp [xcanDequeue, QueueField.head, h]

theorem xcanQueuePeek_zeroed {m : Mem} {q : Ptr} (h : m.queue q = {}) :
    xcanQueuePeek (some q) m = (none, (m.touch (some q) 8 8).touch (some q) 0 4) := by
  simp [xcanQueuePeek, QueueField.head, QueueField.frames, h]

/-- **Every other call accesses a block behind its end.** -/
theorem OnlyInits.overruns (h : OnlyInits base s) (hadm : op.Admissible base s)
    (hharm : ¬ op.Harmless) (hfuel : 0 < fuel) :
    ∃ s', blockStep fuel s op = some s' ∧ ¬ InBounds base s'.stack.mem := by
  have hnone : ∀ f, f ∉ s.frames := fun f hf => by simp [h.frames] at hf
  cases op with
  | init => exact absurd trivial hharm
  | recv dev canId flags data len =>
      exact ⟨_, rfl, (xcanStackRecvBody_overrun s.stack.mem dev canId flags data len
        h.base_le h.oom).not_inBounds⟩
  | alloc size =>
      exact ⟨_, rfl, (xcanFrameAlloc_overrun s.stack.mem size h.base_le (h.oom _)
        (h.oom _)).not_inBounds⟩
  | copy f | deepcopy f => exact absurd hadm (hnone f)
  | discard f =>
      obtain ⟨b, rfl⟩ := Option.ne_none_iff_exists'.mp hharm
      exact absurd (hadm b rfl) (hnone b)
  | enqueue q f => exact absurd hadm.2 (hnone f)
  | dequeue q =>
      have hread := xcanDequeue_zeroed (h.queues q hadm).2.2.2
      refine ⟨_, rfl, ?_⟩
      rw [hread]
      exact (h.overrun_queue hadm).not_inBounds
  | peek q =>
      have hread := xcanQueuePeek_zeroed (h.queues q hadm).2.2.2
      refine ⟨_, rfl, ?_⟩
      rw [hread]
      exact ((h.overrun_queue hadm).grows (growing_load (some q) QueueField.frames _)
        ).not_inBounds
  | empty q =>
      have hread := xcanDequeue_zeroed (h.queues q hadm).2.2.2
      obtain ⟨fuel, rfl⟩ : ∃ k, fuel = k + 1 := ⟨fuel - 1, by omega⟩
      refine ⟨s.withMem (s.stack.mem.touch (some q) 8 8), ?_,
        (h.overrun_queue hadm).not_inBounds⟩
      simp [blockStep, xcanQueueEmpty, queueEmptyWhile, hread]

/-- **Every access is inside its block in exactly the runs that only initialise
devices**: nothing else can be called without an access behind the end of a
block. -/
theorem blocks_inBounds_iff (hfuel : 0 < fuel) (h₀ : s₀.Start)
    (hadm : Runs.Meets (blockStep fuel)
      (fun s op => op.Admissible s₀.stack.mem.heap.brk s) s₀ ops) :
    Runs.Always (blockStep fuel) (fun s => InBounds s₀.stack.mem.heap.brk s.stack.mem)
        s₀ ops ↔ ∀ op ∈ ops, op.Harmless := by
  have hiff := Runs.always_iff_meets (G := fun _ op => BlockOp.Harmless op)
    (fun s h => OnlyInits.inBounds h)
    (fun s op s' h hadm hharm hstep => by
      obtain ⟨s₁, hstep₁, h₁⟩ := h.step hadm hharm
      cases hstep₁.symm.trans hstep
      exact h₁)
    (fun s op h hadm hharm => h.overruns hadm hharm hfuel) h₀.onlyInits hadm
  exact hiff.trans (Runs.meets_iff_forall
    (fun s op h hadm hharm => h.step hadm hharm) h₀.onlyInits hadm)

end

/-- No call was made yet; the allocator starts at block 100. -/
def noBlocks : BlockRun Unit where
  stack :=
    { mem := { heap := { brk := 100 } }
      world := () }

theorem noBlocks_start : noBlocks.Start := ⟨fun _ => rfl, rfl, rfl, rfl⟩

/-- A device is initialised and a frame allocated. -/
theorem blocks_inBounds_iff_init_alloc :
    Runs.Always (blockStep 1) (fun s => InBounds noBlocks.stack.mem.heap.brk s.stack.mem)
        noBlocks [.init 1 0 [], .alloc 8] ↔
      ∀ op ∈ [BlockOp.init 1 0 [], .alloc 8], op.Harmless := by
  apply blocks_inBounds_iff (by decide) noBlocks_start
  refine ⟨?_, fun _ _ => ⟨trivial, fun _ _ => trivial⟩⟩
  show 1 < 100
  decide

/-- The descriptor of a new frame has no bytes, and is written to. -/
theorem alloc_writes_behind_block :
    noBlocks.Start ∧
      Runs.Meets (blockStep 1)
        (fun s op => op.Admissible noBlocks.stack.mem.heap.brk s) noBlocks [.alloc 8] ∧
      ∃ s, Runs.run (blockStep 1) noBlocks [.alloc 8] = some s ∧
        s.frames = [100] ∧ s.stack.mem.heap.size 100 = 0 ∧
        ¬ InBounds noBlocks.stack.mem.heap.brk s.stack.mem := by
  refine ⟨noBlocks_start, ⟨trivial, fun _ _ => trivial⟩, _, rfl, rfl, rfl, ?_⟩
  exact (xcanFrameAlloc_overrun noBlocks.stack.mem 8 (Nat.le_refl _) rfl rfl).not_inBounds

end XcanRouter
