import XcanRouter.StackRuns
import Mathlib.Data.List.Forall2

/-!
# What received frames carry

`xcan_stack_recv` copies its arguments into a fresh frame: the device, the
identifier, the length and the payload, but not the flags. From then on
nothing that a run of the stack does changes the frame, apart from its link.
-/

namespace XcanRouter

open LinkedChain

variable {W : Type}

/-- The first `n` bytes at a pointer. -/
def Mem.payload (m : Mem) (p : BytePtr) (n : Nat) : List UInt8 := bytesOf (m.byteAt p) n

/-- The frame at `f` carries what `xcan_stack_recv` was called with. -/
structure Carries (m : Mem) (f : Ptr) (c : RecvCall) : Prop where
  dev : (m.frame f).dev = some c.dev
  id : (m.frame f).id = c.canId
  flags : (m.frame f).flags = c.flags
  len : (m.frame f).len.toNat = c.len.toNat
  payload : m.payload (m.frame f).data (m.frame f).len.toNat = c.payload

/-- The frames taken off `d->q_in`, and those that a dequeue has yet to take
off it, carry what the accepted calls on `d` were made with, in their order. -/
def Faithful (D : Ptr → Prop) (s : Stack W) : Prop :=
  ∀ d, D d → ∃ linked, LinkedIn s.mem d linked ∧
    List.Forall₂ (Carries s.mem) (framesOf d s.handed ++ linked) (acceptedCalls d s.recvs)

/-! ## Contents of memory -/

/-- From `m` to `m'`, the blocks that had been handed out kept their contents,
apart from the links. -/
structure Kept (m m' : Mem) : Prop where
  content : ∀ f, f < m.heap.brk → (m'.frame f).content = (m.frame f).content
  byte : ∀ b, b < m.heap.brk → m'.byte b = m.byte b
  brk : m.heap.brk ≤ m'.heap.brk
  oom : m'.heap.oom = m.heap.oom

theorem LinksOnly.kept {m m' : Mem} (h : LinksOnly m m') : Kept m m' :=
  ⟨fun f _ => h.content f, fun b _ => congrFun h.byte b,
    Nat.le_of_eq (by rw [h.heap]), by rw [h.heap]⟩

theorem Kept.trans {m m' m'' : Mem} (h : Kept m m') (h' : Kept m' m'') : Kept m m'' :=
  ⟨fun f hf => (h'.content f (Nat.lt_of_lt_of_le hf h.brk)).trans (h.content f hf),
    fun b hb => (h'.byte b (Nat.lt_of_lt_of_le hb h.brk)).trans (h.byte b hb),
    Nat.le_trans h.brk h'.brk, h'.oom.trans h.oom⟩

/-- What the frame of an accepted call holds: all but the flags of the call. -/
structure Holds (m : Mem) (f : Ptr) (c : RecvCall) : Prop where
  dev : (m.frame f).dev = some c.dev
  id : (m.frame f).id = c.canId
  flags : (m.frame f).flags = 0
  len : (m.frame f).len.toNat = c.len.toNat
  payload : m.payload (m.frame f).data (m.frame f).len.toNat = c.payload
  block : ∃ b, (m.frame f).data.block = some b ∧ b < m.heap.brk
  old : f < m.heap.brk

section
variable {m m' : Mem} {f : Ptr} {c : RecvCall}

theorem Holds.carries_iff (h : Holds m f c) : Carries m f c ↔ c.flags = 0 :=
  ⟨fun hc => hc.flags.symm.trans h.flags,
    fun hflags => ⟨h.dev, h.id, h.flags.trans hflags.symm, h.len, h.payload⟩⟩

theorem Kept.holds (hk : Kept m m') (h : Holds m f c) : Holds m' f c := by
  have hcontent := hk.content f h.old
  simp only [XcanFrame.content, XcanFrame.mk.injEq, true_and] at hcontent
  obtain ⟨hdev, hid, hflags, hlen, hdata, -⟩ := hcontent
  obtain ⟨b, hb, hlt⟩ := h.block
  have hbytes : m'.byteAt (m.frame f).data = m.byteAt (m.frame f).data := by
    ext i
    simp only [Mem.byteAt, hb, Option.map_some, hk.byte b hlt]
  exact {
    dev := hdev.trans h.dev
    id := hid.trans h.id
    flags := hflags.trans h.flags
    len := by rw [hlen, h.len]
    payload := by rw [← h.payload, hdata, hlen, Mem.payload, hbytes, Mem.payload]
    block := ⟨b, by rw [hdata, hb], Nat.lt_of_lt_of_le hlt hk.brk⟩
    old := Nat.lt_of_lt_of_le h.old hk.brk }

end

/-- A discard writes to no block but the one with the usage counter. -/
theorem xcanFrameDiscard_byte {m : Mem} {f b b' : Ptr}
    (hb : (m.frame f).usageCount.block = some b) (hne : b' ≠ b) :
    (xcanFrameDiscard (some f) m).2.byte b' = m.byte b' := by
  cases hd : (m.frame f).data.block <;>
    simp [xcanFrameDiscard, storeByte, memcpy, loadByte, FrameField.usageCount,
      FrameField.data, hb, hd] <;> split <;> simp [hne]

section
variable (m : Mem) (dev : Ptr) (canId : UInt32) (data : Bytes) (len : UInt8)

/-- The frame that `xcan_stack_recv` has filled, when both allocations of
`xcan_frame_alloc` succeeded. -/
theorem recvFilled_granted (hoom : m.heap.oom m.heap.calls = false)
    (hoom' : m.heap.oom (m.heap.calls + 1) = false) :
    (recvFilled m dev canId data len).frame = Function.update m.frame m.heap.brk
        { newFrame (some (m.heap.brk + 1)) len.toUInt32 with
          dev := some dev, id := canId } ∧
      (recvFilled m dev canId data len).byte = Function.update m.byte (m.heap.brk + 1)
        (Bytes.splice (fun _ => 0) 0 len.toNat data) ∧
      (recvFilled m dev canId data len).heap = (m.heap.grant 0).grant 0 := by
  obtain ⟨-, hframe, hbyte, hheap, -⟩ :=
    xcanFrameAlloc_granted m len.toUInt32 hoom hoom'
  obtain ⟨hframe', -, -, hheap', -⟩ :=
    fillFrame_leaves (xcanFrameAlloc len.toUInt32 m).2 m.heap.brk dev canId data len
  have hbyte' :=
    fillFrame_byte (xcanFrameAlloc len.toUInt32 m).2 m.heap.brk dev canId data len
  refine ⟨?_, ?_, ?_⟩
  · simp [recvFilled, hframe', hframe]
  · simp only [recvFilled, Mem.touch_byte, hbyte', hframe, Function.update_self, newFrame,
      hbyte, Function.update_idem]
  · simp [recvFilled, hheap', hheap]

theorem recvFilled_kept (hoom : m.heap.oom m.heap.calls = false)
    (hoom' : m.heap.oom (m.heap.calls + 1) = false) :
    Kept m (recvFilled m dev canId data len) := by
  obtain ⟨hframe, hbyte, hheap⟩ := recvFilled_granted m dev canId data len hoom hoom'
  exact {
    content := by
      intro f hf
      rw [hframe, Function.update_of_ne (Nat.ne_of_lt hf)]
    byte := by
      intro b hb
      rw [hbyte, Function.update_of_ne (Nat.ne_of_lt (Nat.lt_succ_of_lt hb))]
    brk := by
      rw [hheap]
      exact Nat.le_add_right _ 2
    oom := by
      rw [hheap]
      rfl }

theorem recvFilled_holds (hoom : m.heap.oom m.heap.calls = false)
    (hoom' : m.heap.oom (m.heap.calls + 1) = false) (flags : UInt8)
    (fr : Option Ptr) (rc : Int) :
    Holds (recvFilled m dev canId data len) m.heap.brk
      ⟨dev, canId, flags, len, bytesOf data len.toNat, fr, rc⟩ := by
  obtain ⟨hframe, hbyte, hheap⟩ := recvFilled_granted m dev canId data len hoom hoom'
  have hself : (recvFilled m dev canId data len).frame m.heap.brk =
      { newFrame (some (m.heap.brk + 1)) len.toUInt32 with
        dev := some dev, id := canId } := by
    rw [hframe, Function.update_self]
  have hlen : (newFrame (some (m.heap.brk + 1)) len.toUInt32).len.toNat = len.toNat := by
    have := len.toNat_lt
    simp [newFrame]
  exact {
    dev := by rw [hself]
    id := by rw [hself]
    flags := by rw [hself]; rfl
    len := by rw [hself]; exact hlen
    payload := by
      rw [hself]
      show (List.range (newFrame (some (m.heap.brk + 1)) len.toUInt32).len.toNat).map _ = _
      rw [hlen]
      apply List.map_congr_left
      intro i hi
      simp [newFrame, Mem.byteAt, hbyte, Bytes.splice, List.mem_range.mp hi]
    block := by
      refine ⟨m.heap.brk + 1, by rw [hself]; rfl, ?_⟩
      rw [hheap]
      exact Nat.lt_succ_self (m.heap.brk + 1)
    old := by
      rw [hheap]
      exact Nat.lt_add_of_pos_right Nat.two_pos }

/-- `xcan_stack_recv` keeps every block, and fills the frame it links. -/
theorem xcanStackRecvBody_kept {q : Ptr} (flags : UInt8) (hoom : ∀ n, m.heap.oom n = false)
    (hq : (m.device dev).qIn = some q) :
    Kept m (xcanStackRecvBody dev canId flags data len m).2 ∧
      (xcanStackRecvBody dev canId flags data len m).1.2 = some m.heap.brk ∧
      ((xcanStackRecvBody dev canId flags data len m).1.1 = 0 →
        ∀ fr rc, Holds (xcanStackRecvBody dev canId flags data len m).2 m.heap.brk
          ⟨dev, canId, flags, len, bytesOf data len.toNat, fr, rc⟩) := by
  have hfilled := recvFilled_kept m dev canId data len (hoom _) (hoom _)
  have hholds := recvFilled_holds m dev canId data len (hoom _) (hoom _) flags
  have hlinks := xcanEnqueue_links q m.heap.brk (recvFilled m dev canId data len)
  -- the usage counter that a discard writes to is in the new payload block
  have hcount : ((xcanEnqueue (some q) m.heap.brk
      (recvFilled m dev canId data len)).2.frame m.heap.brk).usageCount.block =
        some (m.heap.brk + 1) := by
    have hcontent := hlinks.content m.heap.brk
    rw [(recvFilled_granted m dev canId data len (hoom _) (hoom _)).1,
      Function.update_self] at hcontent
    simp only [XcanFrame.content, XcanFrame.mk.injEq, true_and] at hcontent
    rw [hcontent.2.2.2.2.2]
    rfl
  rw [xcanStackRecvBody_eq m dev canId data len flags (hoom _) hq]
  split
  · refine ⟨?_, rfl, fun h => absurd h (by simp)⟩
    have hkept := hfilled.trans hlinks.kept
    obtain ⟨hframe, -, -, -, hbrk, hoom'⟩ := xcanFrameDiscard_leaves
      (xcanEnqueue (some q) m.heap.brk (recvFilled m dev canId data len)).2 m.heap.brk
    exact {
      content := by
        intro f hf
        rw [hframe, hkept.content f hf]
      byte := by
        intro b hb
        rw [xcanFrameDiscard_byte hcount (Nat.ne_of_lt (Nat.lt_succ_of_lt hb)),
          hkept.byte b hb]
      brk := by
        rw [hbrk]
        exact hkept.brk
      oom := by rw [hoom', hkept.oom] }
  · exact ⟨hfilled.trans hlinks.kept, rfl, fun _ fr rc =>
      hlinks.kept.holds (hholds fr rc)⟩

end

/-! ## Runs -/

section
variable {D : Ptr → Prop} {qi qo : Ptr → Ptr} {s s' s₀ : Stack W}
  {F F' F₀ : Fifos Ptr Ptr} {drv : Drivers W} {fuel : Nat} {e : StackEvent}
  {es : List StackEvent}

/-- Every accepted call has its frame, in which its arguments are. -/
structure ContentInv (D : Ptr → Prop) (qi qo : Ptr → Ptr) (s : Stack W)
    (F : Fifos Ptr Ptr) : Prop extends RecvInv D qi qo s F where
  oom : ∀ n, s.mem.heap.oom n = false
  holds : ∀ c ∈ s.recvs, c.rc = 0 → ∃ f, c.frame = some f ∧ Holds s.mem f c

/-- Lists that a partial function maps to one another elementwise. -/
theorem forall₂_filterMap_iff {α β : Type} {R : β → α → Prop} {g : α → Option β}
    {l : List α} (hg : ∀ a ∈ l, ∃ b, g a = some b) :
    List.Forall₂ R (l.filterMap g) l ↔ ∀ a ∈ l, ∀ b, g a = some b → R b a := by
  induction l with
  | nil => simp
  | cons a l ih =>
      obtain ⟨b, hb⟩ := hg a (by simp)
      rw [List.filterMap_cons_some hb, List.forall₂_cons,
        ih fun a' ha' => hg a' (by simp [ha'])]
      simp [hb]

/-- The frames of a device are faithful exactly when no flags were lost. -/
theorem ContentInv.faithful_iff (h : ContentInv D qi qo s F) :
    Faithful D s ↔ ∀ c ∈ s.recvs, D c.dev → c.rc = 0 → c.flags = 0 := by
  have haccepted : ∀ d, D d →
      (List.Forall₂ (Carries s.mem) (framesOf d s.handed ++ F.items (qi d))
          (acceptedCalls d s.recvs) ↔
        ∀ c ∈ acceptedCalls d s.recvs, c.flags = 0) := by
    intro d hd
    have hmem : ∀ c ∈ acceptedCalls d s.recvs, ∃ f, c.frame = some f ∧ Holds s.mem f c :=
      fun c hc => by
        obtain ⟨hc, hcall⟩ := List.mem_filter.mp hc
        exact h.holds c hc (of_decide_eq_true hcall).2
    rw [h.accepted d hd, acceptedFrames,
      forall₂_filterMap_iff fun c hc => (hmem c hc).imp fun f hf => hf.1]
    apply forall₂_congr
    intro c hc
    obtain ⟨f, hf, hholds⟩ := hmem c hc
    simp [hf, hholds.carries_iff]
  constructor
  · intro hfaithful c hc hd hrc
    obtain ⟨linked, ⟨q, hq, hlinked⟩, hcarry⟩ := hfaithful c.dev hd
    obtain ⟨q', hq', hlinked'⟩ := h.pool.linkedIn hd
    obtain rfl : q' = q := Option.some_inj.mp (hq'.symm.trans hq)
    rw [hlinked.unique hlinked'] at hcarry
    exact (haccepted c.dev hd).mp hcarry c (List.mem_filter.mpr ⟨hc, by simp [hrc]⟩)
  · intro hflags d hd
    refine ⟨F.items (qi d), h.pool.linkedIn hd, (haccepted d hd).mpr ?_⟩
    intro c hc
    obtain ⟨hmem, hcall⟩ := List.mem_filter.mp hc
    obtain ⟨hdev, hrc⟩ := of_decide_eq_true hcall
    exact hflags c hmem (hdev ▸ hd) hrc

theorem stackStep_recv {dev : Ptr} {canId : UInt32} {flags : UInt8} {data : Bytes}
    {len : UInt8} :
    stackStep drv fuel s (.recv dev canId flags data len) = some { s with
      mem := (xcanStackRecvBody dev canId flags data len s.mem).2
      recvs := s.recvs ++ [⟨dev, canId, flags, len, bytesOf data len.toNat,
        (xcanStackRecvBody dev canId flags data len s.mem).1.2,
        (xcanStackRecvBody dev canId flags data len s.mem).1.1⟩] } := rfl

/-- The flags of a reception are zero, or the input queue of its device is full. -/
def NoFlagsOrFull (qi : Ptr → Ptr) (s : Stack W) : StackEvent → Prop
  | .recv dev _ flags _ _ => flags = 0 ∨
      ((s.mem.queue (qi dev)).maxFrames ≠ 0 ∧
        (s.mem.queue (qi dev)).maxFrames ≤ (s.mem.queue (qi dev)).frames)
  | .tick => True

theorem ContentInv.step (h : ContentInv D qi qo s F) (he : e.On D)
    (hstep : stackStep drv fuel s e = some s') (heff : StackEffect D qi s F e s' F')
    (hok : PoolOk D qi qo s' F') (hnew : Allocated s'.mem F') :
    ContentInv D qi qo s' F' := by
  have hrecv := h.toRecvInv.step heff hok hnew
  cases e with
  | tick =>
      cases heff with
      | tick hc =>
          have hkept := hc.links.kept
          refine ⟨hrecv, fun n => by rw [hkept.oom, h.oom], ?_⟩
          intro c hmem hrc
          obtain ⟨f, hf, hholds⟩ := h.holds c (hc.recvs ▸ hmem) hrc
          exact ⟨f, hf, hkept.holds hholds⟩
  | recv dev canId flags data len =>
      obtain ⟨hkept, hframe, hnew'⟩ := xcanStackRecvBody_kept s.mem dev canId data len flags
        h.oom (h.pool.wiring.qIn dev he)
      rw [stackStep_recv] at hstep
      cases hstep
      refine ⟨hrecv, fun n => by rw [hkept.oom, h.oom], ?_⟩
      intro c hmem hrc
      rcases List.mem_append.mp hmem with hmem | hmem
      · obtain ⟨f, hf, hholds⟩ := h.holds c hmem hrc
        exact ⟨f, hf, hkept.holds hholds⟩
      · obtain rfl := List.mem_singleton.mp hmem
        exact ⟨_, hframe, hnew' hrc _ _⟩

/-- The flags of the accepted calls after one more call. -/
theorem flags_of_step (heff : StackEffect D qi s F e s' F') (h : ContentInv D qi qo s F)
    (hflags : ∀ c ∈ s.recvs, D c.dev → c.rc = 0 → c.flags = 0) :
    (∀ c ∈ s'.recvs, D c.dev → c.rc = 0 → c.flags = 0) ↔ NoFlagsOrFull qi s e := by
  cases heff with
  | tick hc => simpa [NoFlagsOrFull, hc.recvs] using hflags
  | recv hd heff =>
      have hfull := h.pool.refines.full_iff (.qIn hd)
      simp only [NoFlagsOrFull, ← hfull, List.mem_append, List.mem_singleton]
      cases heff with
      -- excluded: the allocations succeed
      | noFrame _ hoom => simp [h.oom] at hoom
      | rejected _ hfull =>
          refine ⟨fun _ => .inr hfull, ?_⟩
          intro _ c hc
          rcases hc with hc | rfl
          · exact hflags c hc
          · exact fun _ hrc => absurd hrc (by simp)
      | accepted _ hfull =>
          constructor
          · exact fun hall => .inl (hall _ (.inr rfl) hd rfl)
          · rintro hzero c (hc | rfl)
            · exact hflags c hc
            · exact fun _ _ => hzero.resolve_right hfull

theorem PoolFresh.contentInv (h : PoolFresh D qi qo s) (hoom : ∀ n, s.mem.heap.oom n = false) :
    ContentInv D qi qo s (Fifos.empty fun q => (s.mem.queue q).maxFrames.toNat) :=
  ⟨h.inv, hoom, fun c hc => by rw [h.recvs] at hc; cases hc⟩

/-- **Received frames are faithful in exactly the runs that accept no flags.**
While all allocations succeed, the frames dequeued from `d->q_in` carry the
arguments of the accepted calls on `d`, unless a reception with non-zero flags
finds room in the queue. -/
theorem faithful_iff_no_flags (hfuel : 20 < fuel) (hfresh : PoolFresh D qi qo s₀)
    (hoom : ∀ n, s₀.mem.heap.oom n = false) (hon : ∀ e ∈ es, e.On D) :
    (∃ s, Runs.run (stackStep drv fuel) s₀ es = some s) ∧
      (Runs.Always (stackStep drv fuel) (Faithful D) s₀ es ↔
        Runs.Meets (stackStep drv fuel) (NoFlagsOrFull qi) s₀ es) := by
  constructor
  · obtain ⟨s, hrun, -⟩ := hfresh.inv.run hfuel hon
    exact ⟨s, hrun⟩
  · refine Runs.always_iff_meets
      (I := fun s => ∃ F, ContentInv D qi qo s F ∧
        ∀ c ∈ s.recvs, D c.dev → c.rc = 0 → c.flags = 0)
      (A := fun _ e => e.On D) (fun s ⟨F, h, hflags⟩ => h.faithful_iff.mpr hflags) ?_ ?_
      ⟨_, hfresh.contentInv hoom, fun c hc => by rw [hfresh.recvs] at hc; cases hc⟩
      (Runs.meets_of_forall hon)
    · rintro s e s' ⟨F, h, hflags⟩ he hplain hs'
      obtain ⟨F', heff, hok', hnew'⟩ := stackStep_effect hfuel h.pool h.new he hs'
      exact ⟨F', h.step he hs' heff hok' hnew', (flags_of_step heff h hflags).mpr hplain⟩
    · rintro s e ⟨F, h, hflags⟩ he hplain
      obtain ⟨s', F', hstep, heff, hok', hnew'⟩ := stackStep_spec drv hfuel h.pool h.new he
      refine ⟨s', hstep, fun hfaithful => hplain ((flags_of_step heff h hflags).mp ?_)⟩
      exact (h.step he hstep heff hok' hnew').faithful_iff.mp hfaithful

end

/-- Receptions without flags. -/
theorem faithful_iff_no_flags_two_calls :
    (∃ s, Runs.run (stackStep acceptAll 21) twoDevices
        [.recv 1 5 0 (fun _ => 7) 8, .tick, .recv 2 6 0 (fun _ => 9) 8] = some s) ∧
      (Runs.Always (stackStep acceptAll 21) (Faithful IsTwo) twoDevices
          [.recv 1 5 0 (fun _ => 7) 8, .tick, .recv 2 6 0 (fun _ => 9) 8] ↔
        Runs.Meets (stackStep acceptAll 21) (NoFlagsOrFull (10 * ·)) twoDevices
          [.recv 1 5 0 (fun _ => 7) 8, .tick, .recv 2 6 0 (fun _ => 9) 8]) :=
  faithful_iff_no_flags (by decide) twoDevices_fresh (fun _ => rfl)
    (by simp [StackEvent.On, IsTwo])

/-- A reception with flags. -/
theorem received_flags_lost :
    ∃ s, stackStep acceptAll 21 twoDevices (.recv 1 5 4 (fun _ => 7) 8) = some s ∧
      ¬ Faithful IsTwo s := by
  have hinv := twoDevices_fresh.contentInv fun _ => rfl
  have hon : (StackEvent.recv 1 5 4 (fun _ => 7) 8).On IsTwo := .inl rfl
  obtain ⟨s, F, hstep, heff, hok, hnew⟩ :=
    stackStep_spec acceptAll (by decide : 20 < 21) hinv.pool hinv.new hon
  refine ⟨s, hstep, ?_⟩
  intro hfaithful
  have hflags := (hinv.step hon hstep heff hok hnew).faithful_iff.mp hfaithful
  have := (flags_of_step heff hinv fun c hc => nomatch hc).mp hflags
  simp [NoFlagsOrFull, twoDevices, poolOfTwo] at this

end XcanRouter
