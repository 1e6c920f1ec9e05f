import XcanRouter.Constructors
import XcanRouter.OutputPass

/-!
# Lengths of frames

A length is a `uint32_t` for `xcan_frame_alloc`, a `uint16_t` in the frame and
a `uint8_t` for the `send` of a device. What is sent of a frame is what these
widths leave of the size it was allocated with.
-/

namespace XcanRouter

variable {W : Type}

/-! ## What `devloop_out` passes on -/

/-- From `s` to `s'` no frame changed its length, and every call of `send`
passed the low byte of the length of its frame. -/
structure SendsLengths (s s' : Stack W) : Prop where
  len : ∀ f, (s'.mem.frame f).len = (s.mem.frame f).len
  device : s'.mem.device = s.mem.device
  sends : ∃ calls, s'.sends = s.sends ++ calls ∧
    ∀ c ∈ calls, c.len = (s.mem.frame c.frame).len.toUInt8

section
variable {s s' s'' : Stack W} {m : Mem} {q dev f : Ptr}

theorem SendsLengths.of_mem (h : LinksOnly s.mem m) : SendsLengths s { s with mem := m } :=
  ⟨h.len, h.device, [], (List.append_nil _).symm, fun _ hc => nomatch hc⟩

theorem SendsLengths.trans (h : SendsLengths s s') (h' : SendsLengths s' s'') :
    SendsLengths s s'' := by
  obtain ⟨calls, hsends, hcalls⟩ := h.sends
  obtain ⟨calls', hsends', hcalls'⟩ := h'.sends
  refine ⟨fun f => (h'.len f).trans (h.len f), h'.device.trans h.device, calls ++ calls', ?_, ?_⟩
  · rw [hsends', hsends, List.append_assoc]
  · intro c hc
    rcases List.mem_append.mp hc with hc | hc
    · exact hcalls c hc
    · rw [hcalls' c hc, h.len]

theorem xcanDequeue_links (q : Ptr) (m : Mem) : LinksOnly m (xcanDequeue (some q) m).2 := by
  by_cases h : (m.queue q).head = none ∨ (m.queue q).frames = 0
  · exact (xcanDequeue_none q m h).2.2.2
  · obtain ⟨hhead, hframes⟩ := not_or.mp h
    obtain ⟨f, hf⟩ := Option.ne_none_iff_exists'.mp hhead
    exact (xcanDequeue_some q f m hf hframes).2.2.2

/-- A frame that is dequeued and discarded leaves the lengths as they are. -/
theorem SendsLengths.release (h : SendsLengths s s') (q dev : Ptr) :
    SendsLengths s { s' with mem := (xcanFrameDiscard
      (xcanDequeue (some q) (s'.mem.touch (some dev) 32 8)).1
      (xcanDequeue (some q) (s'.mem.touch (some dev) 32 8)).2).2 } := by
  have hlinks := ((ReadsOnly.refl s'.mem).touch (some dev) 32 8).links.trans
    (xcanDequeue_links q (s'.mem.touch (some dev) 32 8))
  have hdequeued := h.trans (SendsLengths.of_mem hlinks)
  cases (xcanDequeue (some q) (s'.mem.touch (some dev) 32 8)).1 with
  | none => exact hdequeued
  | some f =>
      obtain ⟨hframe, -, hdevice, -⟩ := xcanFrameDiscard_leaves
        (xcanDequeue (some q) (s'.mem.touch (some dev) 32 8)).2 f
      refine ⟨?_, hdevice.trans hdequeued.device, hdequeued.sends⟩
      intro g
      rw [hframe]
      exact hdequeued.len g

/-- `send` gets the low byte of the length. -/
theorem callSend_lengths {drv : Drivers W} {rc : Int}
    (hrun : callSend drv dev f s = some (rc, s')) : SendsLengths s s' := by
  cases hsend : (s.mem.device dev).send with
  | none => simp [callSend, DeviceField.send, hsend] at hrun
  | some cb =>
      obtain ⟨m, hm, hcall⟩ := callSend_spec drv hsend f
      cases hcall.symm.trans hrun
      refine ⟨fun g => by rw [hm.frame], hm.device, _, rfl, ?_⟩
      intro c hc
      obtain rfl := List.mem_singleton.mp hc
      rw [hm.frame]

/-- On a queue with a counter that is not zero but without frames. -/
theorem devloopOutWhile_noHead (drv : Drivers W) (fuel : Nat) {score : Int}
    (hscore : 0 < score) (hqout : (s.mem.device dev).qOut = some q)
    (hframes : (s.mem.queue q).frames ≠ 0) (hhead : (s.mem.queue q).head = none) :
    ∃ m, ReadsOnly s.mem m ∧
      devloopOutWhile drv dev (fuel + 1) score s = some (score, { s with mem := m }) := by
  refine ⟨_, (((((ReadsOnly.refl s.mem).touch (some dev) 32 8).touch (some q) 0 4).touch
    (some dev) 32 8).touch (some q) 8 8).touch (some q) 0 4, ?_⟩
  simp [devloopOutWhile, xcanQueuePeek, hscore, DeviceField.qOut, QueueField.frames,
    QueueField.head, hqout, hframes, hhead]

/-- A device without `send` does not get past its first frame. -/
theorem devloopOutWhile_noSend (drv : Drivers W) (fuel : Nat) {score : Int}
    (hscore : 0 < score) (hqout : (s.mem.device dev).qOut = some q)
    (hframes : (s.mem.queue q).frames ≠ 0) (hhead : (s.mem.queue q).head = some f)
    (hsend : (s.mem.device dev).send = none) :
    devloopOutWhile drv dev (fuel + 1) score s = none := by
  simp [devloopOutWhile, xcanQueuePeek, callSend, hscore, DeviceField.qOut,
    DeviceField.send, QueueField.frames, QueueField.head, hqout, hframes, hhead, hsend]

/-- **`devloop_out` passes on the low byte of each length**, whatever the state
of the queues and the results of `send`. -/
theorem devloopOutWhile_lengths {drv : Drivers W} :
    ∀ {fuel : Nat} {score score' : Int} {s s' : Stack W},
      (s.mem.device dev).qOut = some q →
      devloopOutWhile drv dev fuel score s = some (score', s') → SendsLengths s s' := by
  intro fuel
  induction fuel with
  | zero =>
      intro score score' s s' _ hrun
      cases hrun
  | succ fuel ih =>
      intro score score' s s' hqout hrun
      by_cases hpos : 0 < score
      swap
      · simp only [devloopOutWhile, if_neg hpos] at hrun
        cases hrun
        exact SendsLengths.of_mem (LinksOnly.refl _)
      by_cases hframes : (s.mem.queue q).frames = 0
      · obtain ⟨m, hm, hzero⟩ := devloopOutWhile_zero drv fuel hpos hqout hframes
        cases hzero.symm.trans hrun
        exact SendsLengths.of_mem hm.links
      cases hhead : (s.mem.queue q).head with
      | none =>
          obtain ⟨m, hm, hnone⟩ := devloopOutWhile_noHead drv fuel hpos hqout hframes hhead
          cases hnone.symm.trans hrun
          exact SendsLengths.of_mem hm.links
      | some f =>
          cases hsend : (s.mem.device dev).send with
          | none =>
              rw [devloopOutWhile_noSend drv fuel hpos hqout hframes hhead hsend] at hrun
              cases hrun
          | some cb =>
              obtain ⟨m, hm, hnext⟩ := devloopOutWhile_next drv fuel hpos hqout hframes hhead
              obtain ⟨rc, s₁, hcall⟩ : ∃ rc s₁,
                  callSend drv dev f { s with mem := m } = some (rc, s₁) := by
                obtain ⟨m₁, -, hcall⟩ := callSend_spec (s := { s with mem := m }) drv
                  (by rw [hm.device]; exact hsend) f
                exact ⟨_, _, hcall⟩
              have hsent := (SendsLengths.of_mem hm.links).trans (callSend_lengths hcall)
              obtain ⟨hrefused, haccepted⟩ := hnext rc s₁ hcall
              by_cases hrc : rc = 0
              · rw [haccepted hrc (by rw [hsent.device, hqout])] at hrun
                have hrest := hsent.release q dev
                exact hrest.trans (ih (by rw [hrest.device, hqout]) hrun)
              · cases (hrefused hrc).symm.trans hrun
                exact hsent

end

/-- On a registered device, the first frame of the output queue is sent. -/
theorem devloopOut_head {D : Ptr → Prop} {qi qo : Ptr → Ptr} {s : Stack W}
    {F : Fifos Ptr Ptr} {d f : Ptr} {l : List Ptr} (drv : Drivers W) (hd : D d)
    (hok : PoolOk D qi qo s F) (hsend : Sending D s.mem) (hl : F.items (qo d) = f :: l)
    (hframes : (s.mem.queue (qo d)).frames ≠ 0) :
    ∃ score' s' c, devloopOut drv 2 (some d) 1 s = some (score', s') ∧
      s'.sends = s.sends ++ [c] ∧ c.frame = f := by
  obtain ⟨c, s₁, -, ⟨l', hl'⟩, ⟨-, hrun, -, hone⟩ | ⟨-, hrun, -, hone⟩⟩ :=
    devloopOutWhile_turn drv hd 1 Int.one_pos hok hsend hframes
  · exact ⟨1, s₁, c, hrun, hone.sends, (List.cons.inj (hl'.symm.trans hl)).1⟩
  · exact ⟨0, s₁, c, hrun.trans rfl, hone.sends, (List.cons.inj (hl'.symm.trans hl)).1⟩

/-! ## From the allocation to the wire -/

/-- `f` is `size` bytes long, with its usage counter behind them. -/
structure Sized (m : Mem) (f : Ptr) (size : UInt32) : Prop where
  len : (m.frame f).len.toNat = size.toNat
  usageCount : (m.frame f).usageCount = (m.frame f).data.add (m.frame f).len.toNat

/-- From `m` to `m'` the frame kept its length and its buffer. What the buffer
holds, and the fields that describe the frame, may have been written. -/
structure BufferKept (m m' : Mem) (f : Ptr) : Prop where
  len : (m'.frame f).len = (m.frame f).len
  data : (m'.frame f).data = (m.frame f).data
  usageCount : (m'.frame f).usageCount = (m.frame f).usageCount
  brk : m.heap.brk ≤ m'.heap.brk

/-- The frame `r.1` is as long as `f` was in `m`, and has its payload. -/
def CopiesLength (m : Mem) (f : Ptr) (size : UInt32) (r : Option Ptr × Mem) : Prop :=
  ∃ g, r.1 = some g ∧ Sized r.2 g size ∧
    r.2.payload (r.2.frame g).data size.toNat = m.payload (m.frame f).data size.toNat

/-- The length of the frame that `xcan_frame_alloc(size)` returned in `m` is
`size` there, in its copies, and in the calls of `send` from `s` to `s'`. -/
structure LengthPreserved (size : UInt32) (m : Mem) (f : Ptr) (s s' : Stack W) : Prop where
  alloc : Sized (xcanFrameAlloc size m).2 f size
  copy : CopiesLength s.mem f size (xcanFrameCopy (some f) s.mem)
  deepcopy : CopiesLength s.mem f size (xcanFrameDeepcopy (some f) s.mem)
  sent : ∀ calls, s'.sends = s.sends ++ calls → ∀ c ∈ calls, c.frame = f →
    c.len.toNat = size.toNat

theorem BufferKept.refl (m : Mem) (f : Ptr) : BufferKept m m f :=
  ⟨rfl, rfl, rfl, Nat.le_refl _⟩

section
variable {size : UInt32} {m m' : Mem} {f b : Ptr}

/-- A new frame whose size fits into the field. -/
theorem xcanFrameAlloc_sized (size : UInt32) (hoom : m.heap.oom m.heap.calls = false)
    (hoom' : m.heap.oom (m.heap.calls + 1) = false) (hsize : size.toNat < 2 ^ 16) :
    Sized (xcanFrameAlloc size m).2 m.heap.brk size := by
  obtain ⟨-, hframe, -⟩ := xcanFrameAlloc_granted m size hoom hoom'
  have hlen : (size.toUInt16).toNat = size.toNat := by
    rw [UInt32.toNat_toUInt16, Nat.mod_eq_of_lt hsize]
  constructor
  case len => rw [hframe, Function.update_self, newFrame, hlen]
  case usageCount => simp [hframe, newFrame, BytePtr.add, hlen]

theorem Sized.of_kept (h : Sized m f size) (hk : BufferKept m m' f) : Sized m' f size :=
  ⟨by rw [hk.len, h.len], by rw [hk.usageCount, h.usageCount, hk.data, hk.len]⟩

/-- The new frame is in use as long as its buffer is kept. -/
theorem xcanFrameAlloc_live (hoom : m.heap.oom m.heap.calls = false)
    (hoom' : m.heap.oom (m.heap.calls + 1) = false)
    (hk : BufferKept (xcanFrameAlloc size m).2 m' m.heap.brk) :
    LiveFrame m' m.heap.brk (m.heap.brk + 1) := by
  obtain ⟨-, hframe, -, hheap, -⟩ := xcanFrameAlloc_granted m size hoom hoom'
  have hself := congrFun hframe m.heap.brk
  rw [Function.update_self] at hself
  have hbrk := hk.brk
  rw [hheap] at hbrk
  constructor
  case data => rw [hk.data, hself, newFrame]
  case usageCount => rw [hk.usageCount, hself, newFrame]
  case behind =>
    rw [hk.data, hk.usageCount, hk.len, hself]
    simpa [newFrame] using Nat.mod_le size.toNat 65536
  case older => exact Nat.lt_of_lt_of_le (Nat.lt_add_of_pos_right Nat.two_pos) hbrk
  case payload_older => exact Nat.lt_of_lt_of_le (Nat.lt_succ_self _) hbrk

theorem Sized.payload (h : Sized m f size) :
    m.payload (m.frame f).data size.toNat = m.payloadOf f := by
  rw [Mem.payloadOf, h.len]

/-- A copy is as long as its source. -/
theorem Sized.copy (h : Sized m f size) (hlive : LiveFrame m f b)
    (hoom : m.heap.oom m.heap.calls = false) :
    CopiesLength m f size (xcanFrameCopy (some f) m) := by
  obtain ⟨hnew, hframe, -⟩ :=
    xcanFrameCopy_granted hoom (Nat.ne_of_lt hlive.older) hlive.usageCount
  obtain ⟨hsource, hpayload, -⟩ := xcanFrameCopy_source hoom hlive
  have hself := congrFun hframe m.heap.brk
  rw [Function.update_self] at hself
  refine ⟨m.heap.brk, hnew, ⟨by rw [hself, h.len], by rw [hself, h.usageCount]⟩, ?_⟩
  rw [h.payload, ← hpayload, Mem.payloadOf, hself, hsource, h.len]

/-- So is a deep copy. -/
theorem Sized.deepcopy (h : Sized m f size) (hlive : LiveFrame m f b)
    (hoom : m.heap.oom m.heap.calls = false) (hoom' : m.heap.oom (m.heap.calls + 1) = false) :
    CopiesLength m f size (xcanFrameDeepcopy (some f) m) := by
  obtain ⟨hnew, hframe, -⟩ := xcanFrameDeepcopy_granted hoom hoom' hlive
  obtain ⟨-, hpayload, -⟩ := xcanFrameDeepcopy_buffer hoom hoom' hlive
  have hself := congrFun hframe m.heap.brk
  rw [Function.update_self] at hself
  have hsized : Sized (xcanFrameDeepcopy (some f) m).2 m.heap.brk size :=
    ⟨by rw [hself, h.len], by simp [hself, BytePtr.add]⟩
  exact ⟨m.heap.brk, hnew, hsized, by rw [hsized.payload, h.payload, hpayload]⟩

/-- **A length survives its way to the wire exactly when it is below 256**: the
field of the frame has 16 bits, the argument of `send` has eight. -/
theorem length_preserved_iff {drv : Drivers W} {fuel : Nat} {score score' : Int}
    {s s' : Stack W} {dev q : Ptr} (hoom : m.heap.oom m.heap.calls = false)
    (hoom' : m.heap.oom (m.heap.calls + 1) = false)
    (hf : (xcanFrameAlloc size m).1 = some f)
    (hk : BufferKept (xcanFrameAlloc size m).2 s.mem f)
    (hcopies : ∀ k, k < 2 → s.mem.heap.oom (s.mem.heap.calls + k) = false)
    (hqout : (s.mem.device dev).qOut = some q)
    (hrun : devloopOut drv fuel (some dev) score
      { s with mem := (xcanEnqueue (some q) f s.mem).2 } = some (score', s'))
    (hsent : ∃ calls, s'.sends = s.sends ++ calls ∧ ∃ c ∈ calls, c.frame = f) :
    LengthPreserved size m f s s' ↔ size.toNat < 256 := by
  obtain ⟨hnew, hframe, -⟩ := xcanFrameAlloc_granted m size hoom hoom'
  obtain rfl : m.heap.brk = f := Option.some_inj.mp (hnew.symm.trans hf)
  constructor
  · intro h
    obtain ⟨calls, hcalls, c, hc, hcf⟩ := hsent
    rw [← h.sent calls hcalls c hc hcf]
    exact c.len.toNat_lt
  · intro hsize
    have hsized := xcanFrameAlloc_sized size hoom hoom' (by omega)
    have hsized' := hsized.of_kept hk
    have hlive := xcanFrameAlloc_live hoom hoom' hk
    have hlinks := xcanEnqueue_links q m.heap.brk s.mem
    refine ⟨hsized, hsized'.copy hlive (hcopies 0 (by omega)),
      hsized'.deepcopy hlive (hcopies 0 (by omega)) (hcopies 1 (by omega)), ?_⟩
    intro calls hcalls c hc hcf
    obtain ⟨calls', hcalls', hlens⟩ :=
      ((SendsLengths.of_mem hlinks).trans
        (devloopOutWhile_lengths (by rw [hlinks.device, hqout]) hrun)).sends
    obtain rfl : calls = calls' := List.append_cancel_left (hcalls.symm.trans hcalls')
    rw [hlens c hc, hcf, UInt16.toNat_toUInt8, hsized'.len]
    omega

end

/-- The pool of two devices after the allocation of a frame of `size` bytes. -/
def newlyAllocated (size : UInt32) : Stack Unit :=
  { twoDevices with mem := (xcanFrameAlloc size twoDevices.mem).2 }

/-- The frame, put into the output queue of the first device, is sent. -/
theorem newlyAllocated_sent (size : UInt32) :
    ∃ score' s' c, devloopOut acceptAll 2 (some 1) 1 { newlyAllocated size with
        mem := (xcanEnqueue (some 11) 100 (newlyAllocated size).mem).2 } =
          some (score', s') ∧
      s'.sends = (newlyAllocated size).sends ++ [c] ∧ c.frame = 100 := by
  obtain ⟨-, hframe, -, -, hqueue, hdevice, -⟩ :=
    xcanFrameAlloc_granted twoDevices.mem size rfl rfl
  have hfresh := twoDevices_fresh.inv.pool
  have hrep : Refines (DeviceQueue IsTwo (10 * ·) (10 * · + 1)) (newlyAllocated size).mem
      (Fifos.empty fun _ => 0) :=
    hfresh.refines.congr (fun q _ => congrFun hqueue q) fun q _ f hf => nomatch hf
  have hout : DeviceQueue IsTwo (10 * ·) (10 * · + 1) 11 := ⟨1, .inl rfl, .inr rfl⟩
  obtain ⟨-, hrep', hlinks⟩ := hrep.enqueue (q := 11) (f := 100) hout
    (by simp [Fifos.Full, Fifos.empty]) (fun i hi => nomatch hi)
  have hwiring : Wiring (newlyAllocated size).mem IsTwo (10 * ·) (10 * · + 1) :=
    hfresh.wiring.congr hdevice
  have hitems : ((Fifos.empty fun _ => 0).push 11 100 : Fifos Ptr Ptr).items 11 = [100] :=
    Fifos.push_items_self
  have hsend : Sending IsTwo (xcanEnqueue (some 11) 100 (newlyAllocated size).mem).2 := by
    intro d _
    rw [hlinks.device, show (newlyAllocated size).mem.device = _ from hdevice]
    exact Option.some_ne_none _
  have hframes := (hrep'.frames_ne_zero hout (by rw [hitems]; decide)).mpr
    (by rw [hitems]; exact List.cons_ne_nil _ _)
  exact devloopOut_head acceptAll (.inl rfl)
    ⟨hfresh.registered, hwiring.congr hlinks.device, hrep'⟩ hsend hitems hframes

theorem newlyAllocated_kept (size : UInt32) :
    BufferKept (xcanFrameAlloc size twoDevices.mem).2 (newlyAllocated size).mem 100 :=
  ⟨rfl, rfl, rfl, Nat.le_refl _⟩

/-- Eight bytes. -/
theorem length_preserved_iff_eight :
    ∃ score' s', devloopOut acceptAll 2 (some 1) 1 { newlyAllocated 8 with
        mem := (xcanEnqueue (some 11) 100 (newlyAllocated 8).mem).2 } = some (score', s') ∧
      (LengthPreserved 8 twoDevices.mem 100 (newlyAllocated 8) s' ↔
        (8 : UInt32).toNat < 256) := by
  obtain ⟨score', s', c, hrun, hsends, hc⟩ := newlyAllocated_sent 8
  obtain ⟨hnew, -, -, hheap, -, hdevice, -⟩ :=
    xcanFrameAlloc_granted twoDevices.mem 8 rfl rfl
  exact ⟨score', s', hrun, length_preserved_iff rfl rfl hnew (newlyAllocated_kept 8)
    (fun k _ => congrArg (fun h : Heap => h.oom (h.calls + k)) hheap)
    (by rw [show (newlyAllocated 8).mem.device = _ from hdevice]; rfl) hrun
    ⟨[c], hsends, c, List.mem_singleton.mpr rfl, hc⟩⟩

/-- A frame of 256 bytes is sent with the length 0. -/
theorem length_lost_at_send :
    (∀ k, twoDevices.mem.heap.oom k = false) ∧
      ∃ score' s' c, devloopOut acceptAll 2 (some 1) 1 { newlyAllocated 256 with
          mem := (xcanEnqueue (some 11) 100 (newlyAllocated 256).mem).2 } =
            some (score', s') ∧
        s'.sends = (newlyAllocated 256).sends ++ [c] ∧ c.frame = 100 ∧ c.len = 0 ∧
        ¬ LengthPreserved 256 twoDevices.mem 100 (newlyAllocated 256) s' := by
  obtain ⟨score', s', c, hrun, hsends, hc⟩ := newlyAllocated_sent 256
  obtain ⟨-, hframe, -, -, -, hdevice, -⟩ := xcanFrameAlloc_granted twoDevices.mem 256 rfl rfl
  have hlinks := xcanEnqueue_links 11 100 (newlyAllocated 256).mem
  have hqout : ((xcanEnqueue (some 11) 100 (newlyAllocated 256).mem).2.device 1).qOut =
      some 11 := by
    rw [hlinks.device, show (newlyAllocated 256).mem.device = _ from hdevice]
    rfl
  obtain ⟨calls, hcalls, hlens⟩ := ((SendsLengths.of_mem hlinks).trans
    (devloopOutWhile_lengths hqout hrun)).sends
  obtain rfl : [c] = calls := List.append_cancel_left (hsends.symm.trans hcalls)
  have hlen : c.len = 0 := by
    rw [hlens c (List.mem_singleton.mpr rfl), hc,
      show (newlyAllocated 256).mem.frame = _ from hframe]
    rfl
  refine ⟨fun _ => rfl, score', s', c, hrun, hsends, hc, hlen, ?_⟩
  intro h
  have hsent := h.sent [c] hsends c (List.mem_singleton.mpr rfl) hc
  rw [hlen] at hsent
  exact absurd hsent (by decide)

end XcanRouter
