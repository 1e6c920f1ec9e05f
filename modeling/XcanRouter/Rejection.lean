import XcanRouter.Content
import XcanRouter.Sharing

/-!
# Rejected receptions

`xcan_stack_recv` returns 1 when it gets no frame and when the input queue is
full. In the second case it discards the frame it has filled, whose usage
counter `xcan_frame_alloc` left at zero.
-/

namespace XcanRouter

variable {W : Type}

/-- What a driver passes on of a CAN frame. -/
structure Reception where
  canId : UInt32
  flags : UInt8
  data : Bytes
  len : UInt8

def recvStep (dev : Ptr) (s : Stack W) (r : Reception) : Option (Stack W) :=
  (xcanStackRecv dev r.canId r.flags r.data r.len s).map Prod.snd

/-- `xcan_enqueue` on `q` returns -1. -/
def QueueFull (m : Mem) (q : Ptr) : Prop :=
  (m.queue q).maxFrames ≠ 0 ∧ (m.queue q).maxFrames ≤ (m.queue q).frames

/-- `xcan_stack_recv` returns 1. -/
def Rejected (dev : Ptr) (s : Stack W) (r : Reception) : Prop :=
  ∃ s', xcanStackRecv dev r.canId r.flags r.data r.len s = some (1, s')

/-- From `m` to `m'` queues, devices and the blocks in use were left alone, and
what was allocated was released. -/
structure NoTrace (m m' : Mem) : Prop where
  queue : m'.queue = m.queue
  device : m'.device = m.device
  frame : ∀ f, f < m.heap.brk → m'.frame f = m.frame f
  byte : ∀ b, b < m.heap.brk → m'.byte b = m.byte b
  released : Released m.heap m'.heap

/-! ## The frame that is discarded -/

section
variable {m : Mem} {f : Ptr}

/-- A discard of a frame whose counter is zero frees nothing. -/
theorem xcanFrameDiscard_zero {b : Ptr} (hp : (m.frame f).usageCount.block = some b)
    (hd : (m.frame f).data.block = some b) (hzero : m.byteAt (m.frame f).usageCount 0 = 0) :
    (xcanFrameDiscard (some f) m).2.heap.frees = m.heap.frees := by
  rw [(xcanFrameDiscard_counts hp hd).2, hzero, if_neg (by decide)]

/-- A discard of a frame without a payload reads a zero and frees the frame. -/
theorem xcanFrameDiscard_noPayload (hp : (m.frame f).usageCount.block = none)
    (hd : (m.frame f).data.block = none) :
    (xcanFrameDiscard (some f) m).2.heap.frees = m.heap.frees ++ [f] := by
  simp [xcanFrameDiscard, storeByte, memcpy, loadByte, FrameField.usageCount,
    FrameField.data, hp, hd, Mem.byteAt]

/-- A frame without a payload, which has been freed. -/
theorem xcanFrameAlloc_noPayload (size : UInt32) (h : m.heap.oom m.heap.calls = false)
    (h' : m.heap.oom (m.heap.calls + 1) = true) :
    (xcanFrameAlloc size m).2.frame =
        Function.update m.frame m.heap.brk (newFrame none size) ∧
      (xcanFrameAlloc size m).2.heap.frees = m.heap.frees ++ [m.heap.brk] := by
  constructor <;>
    simp [xcanFrameAlloc, xcanFrameDoAlloc, h, h', Stored.put, Stored.zero,
      FrameField.data, FrameField.len, FrameField.flags, FrameField.usageCount,
      BytePtr.add, newFrame]

end

section
variable {m : Mem} {dev q : Ptr}

/-- The frame that is filled in when it has no payload. -/
theorem recvFilled_noPayload (dev : Ptr) (r : Reception)
    (hoom : m.heap.oom m.heap.calls = false)
    (hoom' : m.heap.oom (m.heap.calls + 1) = true) :
    (recvFilled m dev r.canId r.data r.len).frame m.heap.brk =
        { newFrame none r.len.toUInt32 with dev := some dev, id := r.canId } ∧
      (recvFilled m dev r.canId r.data r.len).heap.frees =
        m.heap.frees ++ [m.heap.brk] := by
  obtain ⟨hframe, hfrees⟩ := xcanFrameAlloc_noPayload r.len.toUInt32 hoom hoom'
  obtain ⟨hframe', -, -, hheap', -⟩ := fillFrame_leaves
    (xcanFrameAlloc r.len.toUInt32 m).2 m.heap.brk dev r.canId r.data r.len
  constructor
  · simp [recvFilled, hframe', hframe]
  · rw [recvFilled, Mem.touch_heap, hheap', hfrees]

/-- The blocks freed by a reception that got a descriptor and was rejected: the
descriptor is not freed, or it is freed twice. -/
theorem rejected_frees (r : Reception) (hoom : m.heap.oom m.heap.calls = false)
    (hq : (m.device dev).qIn = some q)
    (hrc : (xcanStackRecvBody dev r.canId r.flags r.data r.len m).1.1 = 1) :
    (xcanStackRecvBody dev r.canId r.flags r.data r.len m).2.heap.frees = m.heap.frees ∨
      (xcanStackRecvBody dev r.canId r.flags r.data r.len m).2.heap.frees =
        m.heap.frees ++ [m.heap.brk] ++ [m.heap.brk] := by
  have hlinks :=
    xcanEnqueue_links q m.heap.brk (recvFilled m dev r.canId r.data r.len)
  have heq := xcanStackRecvBody_eq m dev r.canId r.data r.len r.flags hoom hq
  split at heq
  swap
  -- excluded: the frame was enqueued
  · rw [heq] at hrc
    cases hrc
  rw [heq]
  show (xcanFrameDiscard _ _).2.heap.frees = _ ∨ (xcanFrameDiscard _ _).2.heap.frees = _
  cases hoom' : m.heap.oom (m.heap.calls + 1) with
  | false =>
      obtain ⟨hframe, hbyte, hheap⟩ := recvFilled_granted m dev r.canId r.data r.len hoom hoom'
      have hself := congrFun hframe m.heap.brk
      rw [Function.update_self] at hself
      refine .inl ((xcanFrameDiscard_zero (b := m.heap.brk + 1) ?_ ?_ ?_).trans ?_)
      · rw [hlinks.usageCount, hself, newFrame]
      · rw [hlinks.data, hself, newFrame]
      · rw [hlinks.usageCount, hself, newFrame, byteAt_block rfl, hlinks.byte, hbyte,
          Function.update_self]
        simp [Bytes.splice]
      · rw [hlinks.heap, hheap]
        rfl
  | true =>
      obtain ⟨hself, hfrees⟩ := recvFilled_noPayload dev r hoom hoom'
      refine .inr ((xcanFrameDiscard_noPayload ?_ ?_).trans ?_)
      · rw [hlinks.usageCount, hself, newFrame]
      · rw [hlinks.data, hself, newFrame]
      · rw [hlinks.heap, hfrees]

/-- The descriptor that was filled in, queued or not. -/
theorem xcanStackRecvBody_filled (r : Reception) (hq : (m.device dev).qIn = some q)
    (hoom : m.heap.oom m.heap.calls = false) :
    (xcanStackRecvBody dev r.canId r.flags r.data r.len m).1.2 = some m.heap.brk ∧
      ((xcanStackRecvBody dev r.canId r.flags r.data r.len m).2.frame m.heap.brk).data =
        ((recvFilled m dev r.canId r.data r.len).frame m.heap.brk).data := by
  have hlinks := xcanEnqueue_links q m.heap.brk (recvFilled m dev r.canId r.data r.len)
  rw [xcanStackRecvBody_eq m dev r.canId r.data r.len r.flags hoom hq]
  split
  · refine ⟨rfl, ?_⟩
    rw [(xcanFrameDiscard_leaves _ _).1, hlinks.data]
  · exact ⟨rfl, hlinks.data m.heap.brk⟩

/-- A reception that gets a descriptor takes a block. -/
theorem xcanStackRecvBody_brk (r : Reception) (hoom : m.heap.oom m.heap.calls = false)
    (hq : (m.device dev).qIn = some q) :
    m.heap.brk <
      (xcanStackRecvBody dev r.canId r.flags r.data r.len m).2.heap.brk := by
  obtain ⟨-, -, -, -, hbrk⟩ := recvFilled_leaves m dev r.canId r.data r.len hoom
  have hlinks :=
    xcanEnqueue_links q m.heap.brk (recvFilled m dev r.canId r.data r.len)
  rw [xcanStackRecvBody_eq m dev r.canId r.data r.len r.flags hoom hq]
  split
  · obtain ⟨-, -, -, -, hbrk', -⟩ := xcanFrameDiscard_leaves
      (xcanEnqueue (some q) m.heap.brk (recvFilled m dev r.canId r.data r.len)).2 m.heap.brk
    show _ < (xcanFrameDiscard _ _).2.heap.brk
    rw [hbrk', hlinks.heap]
    exact hbrk
  · show _ < (xcanEnqueue _ _ _).2.heap.brk
    rw [hlinks.heap]
    exact hbrk

end

/-! ## Runs -/

/-- `m` is `m₀` after calls of the allocator that all failed. -/
def OnlyRefused (m₀ m : Mem) : Prop := ∃ calls, m = m₀.setHeap { m₀.heap with calls := calls }

section
variable {m₀ m : Mem} {s s' : Stack W} {dev q : Ptr} {r : Reception} {rs : List Reception}

theorem OnlyRefused.noTrace (h : OnlyRefused m₀ m) : NoTrace m₀ m := by
  obtain ⟨calls, rfl⟩ := h
  exact ⟨rfl, rfl, fun _ _ => rfl, fun _ _ => rfl, Released.refl (fun _ => rfl) rfl⟩

theorem recvStep_eq : recvStep dev s r = some { s with
    mem := (xcanStackRecvBody dev r.canId r.flags r.data r.len s.mem).2
    recvs := s.recvs ++ [⟨dev, r.canId, r.flags, r.len, bytesOf r.data r.len.toNat,
      (xcanStackRecvBody dev r.canId r.flags r.data r.len s.mem).1.2,
      (xcanStackRecvBody dev r.canId r.flags r.data r.len s.mem).1.1⟩] } := rfl

/-- A reception that does not get a descriptor. -/
theorem OnlyRefused.step (h : OnlyRefused m₀ s.mem)
    (hoom : s.mem.heap.oom s.mem.heap.calls = true) (hstep : recvStep dev s r = some s') :
    OnlyRefused m₀ s'.mem := by
  obtain ⟨calls, hmem⟩ := h
  rw [recvStep_eq,
    xcanStackRecvBody_refused s.mem dev r.canId r.data r.len r.flags hoom] at hstep
  cases hstep
  refine ⟨s.mem.heap.calls + 1, ?_⟩
  show s.mem.setHeap s.mem.heap.refuse = _
  rw [hmem]
  rfl

/-- One that gets a descriptor and is rejected leaves it allocated, or frees it
twice. -/
theorem OnlyRefused.trace (h : OnlyRefused m₀ s.mem) (hfrees : FreedOnly m₀.heap)
    (hq : (m₀.device dev).qIn = some q) (hrej : Rejected dev s r)
    (hoom : s.mem.heap.oom s.mem.heap.calls = false) :
    ∃ s', recvStep dev s r = some s' ∧ ¬ NoTrace m₀ s'.mem := by
  obtain ⟨calls, hmem⟩ := h
  have hbrk : s.mem.heap.brk = m₀.heap.brk := by rw [hmem]; rfl
  have hfrees' : s.mem.heap.frees = m₀.heap.frees := by rw [hmem]; rfl
  have hq' : (s.mem.device dev).qIn = some q := by
    rw [hmem]
    exact hq
  obtain ⟨s₁, hs₁⟩ := hrej
  have hrc : (xcanStackRecvBody dev r.canId r.flags r.data r.len s.mem).1.1 = 1 :=
    Option.some_inj.mp (congrArg (Option.map Prod.fst) hs₁)
  refine ⟨_, recvStep_eq, ?_⟩
  intro hno
  have hlt := xcanStackRecvBody_brk r hoom hq'
  have hone := hno.released.once m₀.heap.brk (Nat.le_refl _) (hbrk ▸ hlt)
  -- the descriptor had not been freed before
  have hzero := hfrees.count_brk
  rcases rejected_frees r hoom hq' hrc with hkept | htwice
  · rw [hkept, hfrees', hzero] at hone
    cases hone
  · rw [htwice, hfrees', hbrk] at hone
    simp [hzero] at hone

/-- **Rejected receptions leave no trace exactly when none of them got a
descriptor**, in every run of receptions on a device that are all rejected. -/
theorem rejected_no_trace_iff (hq : (s.mem.device dev).qIn = some q)
    (hfrees : FreedOnly s.mem.heap) (hrej : Runs.Meets (recvStep dev) (Rejected dev) s rs) :
    Runs.Always (recvStep dev) (fun s' => NoTrace s.mem s'.mem) s rs ↔
      Runs.Meets (recvStep dev) (fun s _ => s.mem.heap.oom s.mem.heap.calls = true) s rs :=
  Runs.always_iff_meets (I := fun s' => OnlyRefused s.mem s'.mem)
    (fun _ h => h.noTrace) (fun _ _ _ h _ hoom hstep => h.step hoom hstep)
    (fun _ _ h hrej hoom => h.trace hfrees hq hrej (Bool.eq_false_iff.mpr hoom))
    ⟨s.mem.heap.calls, rfl⟩ hrej

end

/-- One device, whose input queue takes one frame and has one. -/
def fullDevice : Stack Unit where
  mem :=
    { heap := { brk := 4 }
      queue := fun _ => { frames := 1, maxFrames := 1, head := some 3, tail := some 3 }
      device := fun _ => { qIn := some 2 } }
  world := ()

theorem fullDevice_represents : Represents fullDevice.mem 2 [3] :=
  ⟨⟨rfl, rfl⟩, rfl, rfl⟩

def emptyFrame : Reception := ⟨5, 0, fun _ => 0, 0⟩

theorem fullDevice_rejects : Rejected 1 fullDevice emptyFrame := ⟨_, rfl⟩

/-- One reception. -/
theorem rejected_no_trace_iff_one :
    Runs.Always (recvStep 1) (fun s => NoTrace fullDevice.mem s.mem) fullDevice [emptyFrame] ↔
      Runs.Meets (recvStep 1) (fun s _ => s.mem.heap.oom s.mem.heap.calls = true) fullDevice
        [emptyFrame] :=
  rejected_no_trace_iff (q := 2) rfl (fun _ hb => nomatch hb)
    ⟨fullDevice_rejects, fun _ _ => trivial⟩

/-- It leaves a frame and its payload allocated. -/
theorem rejected_frame_leaks :
    Represents fullDevice.mem 2 [3] ∧ FreedOnly fullDevice.mem.heap ∧
      ∃ s', xcanStackRecv 1 5 0 (fun _ => 0) 0 fullDevice = some (1, s') ∧
        s'.mem.heap.brk = 6 ∧ s'.mem.heap.frees = [] ∧ ¬ NoTrace fullDevice.mem s'.mem := by
  refine ⟨fullDevice_represents, (fun _ hb => nomatch hb), _, rfl, rfl, rfl, ?_⟩
  intro h
  cases h.released.once 4 (by decide) (by decide)

end XcanRouter
