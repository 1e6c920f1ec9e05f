import XcanRouter.InputPass

/-!
# The stack (xcan_stack.c)

`xcan_stack_recv` is called by the drivers for every received CAN frame,
`xcan_stack_tick` by the main loop.
-/

namespace XcanRouter

variable {W : Type}

/-- The statements of `xcan_stack_recv` between the allocation and the
enqueue. The flags are not among them. -/
def fillFrame (f dev : Ptr) (canId : UInt32) (data : Bytes) (len : UInt8) :
    MemOp Unit := do
  store (some f) FrameField.dev (some dev)
  store (some f) FrameField.id canId
  memcpy (← load (some f) FrameField.data) data len.toNat

/-- The body of `xcan_stack_recv`: the value it returns, and the frame it
allocated. -/
def xcanStackRecvBody (dev : Ptr) (canId : UInt32) (_flags : UInt8) (data : Bytes)
    (len : UInt8) : MemOp (Int × Option Ptr) := do
  match ← xcanFrameAlloc len.toUInt32 with
  | none => return (1, none)
  | some f =>
    fillFrame f dev canId data len
    if (← xcanEnqueue (← load (some dev) DeviceField.qIn) f) ≠ 0 then
      xcanFrameDiscard (some f)
      return (1, some f)
    return (0, some f)

/-- `xcan_stack_recv`, recorded in `recvs`. -/
def xcanStackRecv (dev : Ptr) (canId : UInt32) (flags : UInt8) (data : Bytes)
    (len : UInt8) : Prog (Stack W) Int := do
  let r ← xcanStackRecvBody dev canId flags data len
  Prog.modify fun s => { s with
    recvs := s.recvs ++
      [⟨dev, canId, flags, len, bytesOf data len.toNat, r.2, r.1⟩] }
  return r.1

/-- `xcan_stack_tick` -/
def xcanStackTick (drv : Drivers W) (fuel : Nat) : Prog (Stack W) Unit := do
  let loopScore ← xcanDevicesLoop drv fuel 20 xcanLoopDirIn
  let _ ← xcanDevicesLoop drv fuel loopScore xcanLoopDirOut

/-! ## What a reception does to memory -/

section
variable (m : Mem) (f dev : Ptr) (canId : UInt32) (data : Bytes) (len : UInt8)

theorem fillFrame_leaves :
    (fillFrame f dev canId data len m).2.frame = Function.update m.frame f
        { m.frame f with dev := some dev, id := canId } ∧
      (fillFrame f dev canId data len m).2.queue = m.queue ∧
      (fillFrame f dev canId data len m).2.device = m.device ∧
      (fillFrame f dev canId data len m).2.heap = m.heap ∧
      (fillFrame f dev canId data len m).2.discards = m.discards := by
  cases hb : (m.frame f).data.block <;>
    refine ⟨?_, ?_, ?_, ?_, ?_⟩ <;>
    simp [fillFrame, memcpy, FrameField.dev, FrameField.id, FrameField.data, hb]

theorem fillFrame_byte :
    (fillFrame f dev canId data len m).2.byte =
      match (m.frame f).data.block with
      | none => m.byte
      | some b => Function.update m.byte b
          ((m.byte b).splice (m.frame f).data.offset len.toNat data) := by
  cases hb : (m.frame f).data.block <;>
    simp [fillFrame, memcpy, FrameField.dev, FrameField.id, FrameField.data, hb]

/-- Memory with the new frame filled in, when `xcan_enqueue` is called. -/
def recvFilled : Mem :=
  (fillFrame m.heap.brk dev canId data len (xcanFrameAlloc len.toUInt32 m).2).2.touch
    (some dev) 24 8

theorem recvFilled_leaves (h : m.heap.oom m.heap.calls = false) :
    (∃ payload, (recvFilled m dev canId data len).frame =
      Function.update m.frame m.heap.brk
        { newFrame payload len.toUInt32 with dev := some dev, id := canId }) ∧
      (recvFilled m dev canId data len).queue = m.queue ∧
      (recvFilled m dev canId data len).device = m.device ∧
      (recvFilled m dev canId data len).discards = m.discards ∧
      m.heap.brk < (recvFilled m dev canId data len).heap.brk := by
  obtain ⟨-, ⟨payload, hframe⟩, hqueue, hdevice, hdiscards, hbrk⟩ :=
    xcanFrameAlloc_some m len.toUInt32 h
  obtain ⟨hframe', hqueue', hdevice', hheap', hdiscards'⟩ :=
    fillFrame_leaves (xcanFrameAlloc len.toUInt32 m).2 m.heap.brk dev canId data len
  refine ⟨⟨payload, ?_⟩, ?_, ?_, ?_, ?_⟩
  · simp [recvFilled, hframe', hframe]
  · simp [recvFilled, hqueue', hqueue]
  · simp [recvFilled, hdevice', hdevice]
  · simp [recvFilled, hdiscards', hdiscards]
  · simpa [recvFilled, hheap'] using hbrk

theorem xcanStackRecvBody_refused (flags : UInt8)
    (h : m.heap.oom m.heap.calls = true) :
    xcanStackRecvBody dev canId flags data len m =
      ((1, none), m.setHeap m.heap.refuse) := by
  simp [xcanStackRecvBody, xcanFrameAlloc_refused m len.toUInt32 h]

theorem xcanStackRecvBody_eq (flags : UInt8) {q : Ptr}
    (h : m.heap.oom m.heap.calls = false) (hq : (m.device dev).qIn = some q) :
    xcanStackRecvBody dev canId flags data len m =
      if (xcanEnqueue (some q) m.heap.brk (recvFilled m dev canId data len)).1 ≠ 0 then
        ((1, some m.heap.brk), (xcanFrameDiscard (some m.heap.brk)
          (xcanEnqueue (some q) m.heap.brk (recvFilled m dev canId data len)).2).2)
      else ((0, some m.heap.brk),
        (xcanEnqueue (some q) m.heap.brk (recvFilled m dev canId data len)).2) := by
  obtain ⟨hf, -⟩ := xcanFrameAlloc_some m len.toUInt32 h
  have hqin : ((fillFrame m.heap.brk dev canId data len
      (xcanFrameAlloc len.toUInt32 m).2).2.device dev).qIn = some q := by
    obtain ⟨-, -, hdevice, -⟩ := recvFilled_leaves m dev canId data len h
    have hdevice' : (fillFrame m.heap.brk dev canId data len
      (xcanFrameAlloc len.toUInt32 m).2).2.device = m.device := hdevice
    rw [hdevice', hq]
  simp only [xcanStackRecvBody, MemOp.bind_apply, hf, load_device, DeviceField.qIn,
    hqin, MemOp.ite_apply, MemOp.pure_apply]
  rfl

end

/-! ## The calls on a pool -/

/-- The frame blocks in use are older than the next allocation. -/
def Allocated (m : Mem) (F : Fifos Ptr Ptr) : Prop :=
  ∀ q f, f ∈ F.items q → f < m.heap.brk

section
variable {D : Ptr → Prop} {qi qo : Ptr → Ptr} {s s' : Stack W} {F F' : Fifos Ptr Ptr}

/-- What `xcan_stack_recv` on `dev` may have done, by the frame it allocated
and the value it returned: nothing; drop the new frame; enqueue it. -/
inductive RecvEffect (dev : Ptr) (qi : Ptr → Ptr) (m m' : Mem)
    (F : Fifos Ptr Ptr) : Option Ptr → Int → Fifos Ptr Ptr → Prop
  | noFrame (hd : m'.discards = m.discards) (hoom : m.heap.oom m.heap.calls = true) :
      RecvEffect dev qi m m' F none 1 F
  | rejected (hd : m'.discards = m.discards ++ [m.heap.brk]) (hfull : F.Full (qi dev)) :
      RecvEffect dev qi m m' F (some m.heap.brk) 1 F
  | accepted (hd : m'.discards = m.discards) (hfull : ¬ F.Full (qi dev)) :
      RecvEffect dev qi m m' F (some m.heap.brk) 0 (F.push (qi dev) m.heap.brk)

/-- The body of `xcan_stack_recv` on a device of the pool. -/
theorem xcanStackRecvBody_spec {m : Mem} {dev : Ptr} (canId : UInt32) (flags : UInt8)
    (data : Bytes) (len : UInt8) (hw : Wiring m D qi qo)
    (hrep : Refines (DeviceQueue D qi qo) m F) (hnew : Allocated m F) (hd : D dev) :
    ∃ rc fr m' F', xcanStackRecvBody dev canId flags data len m = ((rc, fr), m') ∧
      RecvEffect dev qi m m' F fr rc F' ∧ Refines (DeviceQueue D qi qo) m' F' ∧
      Allocated m' F' ∧ m'.device = m.device ∧ m.heap.brk ≤ m'.heap.brk ∧
      (fr ≠ none → m.heap.brk < m'.heap.brk) := by
  cases hoom : m.heap.oom m.heap.calls with
  | true =>
      exact ⟨1, none, _, F, xcanStackRecvBody_refused m dev canId data len flags hoom,
        .noFrame rfl hoom, hrep.of_eq rfl rfl, hnew, rfl, Nat.le_refl _, fun h => absurd rfl h⟩
  | false =>
      obtain ⟨⟨payload, hframe⟩, hqueue, hdevice, hdiscards, hbrk⟩ :=
        recvFilled_leaves m dev canId data len hoom
      have hfree : ∀ i, m.heap.brk ∉ F.items i := fun i hi =>
        Nat.lt_irrefl _ (hnew i _ hi)
      have hrep₁ : Refines (DeviceQueue D qi qo) (recvFilled m dev canId data len) F := by
        refine hrep.congr (fun q _ => congrFun hqueue q) ?_
        intro q _ f hf
        have hne : f ≠ m.heap.brk := fun h => hfree q (h ▸ hf)
        simp [Mem.next, hframe, hne]
      have heq := xcanStackRecvBody_eq m dev canId data len flags hoom (hw.qIn dev hd)
      have hgrow : ∀ {b : Nat}, b = (recvFilled m dev canId data len).heap.brk →
          m.heap.brk < b := fun h => h ▸ hbrk
      by_cases hfull : F.Full (qi dev)
      · obtain ⟨hrc, hqueue', hframe', hlinks⟩ :=
          hrep₁.enqueue_full (f := m.heap.brk) (.qIn hd) hfull
        obtain ⟨-, -, hdevice'', hdiscards'', hbrk'', -⟩ := xcanFrameDiscard_leaves
          (xcanEnqueue (some (qi dev)) m.heap.brk (recvFilled m dev canId data len)).2
          m.heap.brk
        have hlt := hgrow (hbrk''.trans (congrArg Heap.brk hlinks.heap))
        rw [hrc, if_pos (by decide)] at heq
        refine ⟨1, _, _, F, heq, .rejected ?_ hfull,
          (hrep₁.of_eq hqueue' hframe').discard, ?_, ?_, Nat.le_of_lt hlt, fun _ => hlt⟩
        · rw [hdiscards'', hlinks.discards, hdiscards]
        · exact fun q f hf => Nat.lt_trans (hnew q f hf) hlt
        · rw [hdevice'', hlinks.device, hdevice]
      · obtain ⟨hrc, hrep₂, hlinks⟩ :=
          hrep₁.enqueue (f := m.heap.brk) (.qIn hd) hfull hfree
        have hlt := hgrow (congrArg Heap.brk hlinks.heap)
        rw [hrc, if_neg (by decide)] at heq
        refine ⟨0, _, _, _, heq, .accepted ?_ hfull, hrep₂, ?_, ?_, Nat.le_of_lt hlt,
          fun _ => hlt⟩
        · rw [hlinks.discards, hdiscards]
        · intro q f hf
          rcases Fifos.mem_push.mp hf with hf | ⟨-, rfl⟩
          · exact Nat.lt_trans (hnew q f hf) hlt
          · exact hlt
        · rw [hlinks.device, hdevice]

/-- **`xcan_stack_recv` on a device of the pool** returns, and changes one
input queue at most. -/
theorem xcanStackRecv_spec {dev : Ptr} (canId : UInt32) (flags : UInt8)
    (data : Bytes) (len : UInt8) (hok : PoolOk D qi qo s F)
    (hnew : Allocated s.mem F) (hd : D dev) :
    ∃ rc fr m' F', xcanStackRecv dev canId flags data len s = some (rc, { s with
        mem := m'
        recvs := s.recvs ++
          [⟨dev, canId, flags, len, bytesOf data len.toNat, fr, rc⟩] }) ∧
      RecvEffect dev qi s.mem m' F fr rc F' ∧
      Refines (DeviceQueue D qi qo) m' F' ∧ Wiring m' D qi qo ∧
      Allocated m' F' ∧ s.mem.heap.brk ≤ m'.heap.brk ∧
      (fr ≠ none → s.mem.heap.brk < m'.heap.brk) := by
  obtain ⟨rc, fr, m', F', hrun, heff, hrep, hnew', hdevice, hle, hlt⟩ :=
    xcanStackRecvBody_spec canId flags data len hok.wiring hok.refines hnew hd
  exact ⟨rc, fr, m', F', by simp [xcanStackRecv, hrun], heff, hrep,
    hok.wiring.congr hdevice, hnew', hle, hlt⟩

theorem Allocated.of_consumed {calls : List (Ptr × Ptr)} (hnew : Allocated s.mem F)
    (hc : Consumed D qi s F calls s' F') : Allocated s'.mem F' := by
  intro q f hf
  rw [hc.links.heap]
  exact hnew q f (hc.mem_items hf)

/-- **`xcan_stack_tick`** returns; it hands over at least one frame when a
registered device has input, and sends nothing: the input pass leaves no score
for the output pass. -/
theorem xcanStackTick_spec (drv : Drivers W) {fuel : Nat} (hfuel : 20 < fuel)
    (hok : PoolOk D qi qo s F) :
    ∃ (s' : Stack W) (calls : List (Ptr × Ptr)) (F' : Fifos Ptr Ptr),
      xcanStackTick drv fuel s = some ((), s') ∧ PoolOk D qi qo s' F' ∧
      Consumed D qi s F calls s' F' ∧
      (calls ≠ [] ↔ HasInput qi s (List.range xcanMaxDevices)) := by
  obtain ⟨score, s', calls, F', hrun, hle, hok', hc, -, hiff⟩ :=
    xcanDevicesLoopWhile_in_spec drv fuel 20 s F hok hfuel hfuel
  refine ⟨s', calls, F', ?_, hok', hc, hiff (by decide)⟩
  have hout : xcanDevicesLoop drv fuel score xcanLoopDirOut s' = some (score, s') :=
    xcanDevicesLoop_nonpos drv (by omega) hle s'
  have hin : xcanDevicesLoop drv fuel 20 xcanLoopDirIn s = some (score, s') := hrun
  simp [xcanStackTick, hin, hout]

end

end XcanRouter
