import XcanRouter.Content
import XcanRouter.Sharing

/-!
# The constructors of frames

`xcan_frame_alloc` makes two allocations, `xcan_frame_copy` one, and
`xcan_frame_deepcopy` makes a copy and then gives it a buffer of its own. What
they make of a source frame, and what they leave behind when an allocation
fails.
-/

namespace XcanRouter

/-- `f` is a frame in use: its payload and, behind it, its usage counter are in
the block `b`. -/
structure LiveFrame (m : Mem) (f b : Ptr) : Prop where
  data : (m.frame f).data.block = some b
  usageCount : (m.frame f).usageCount.block = some b
  behind : (m.frame f).data.offset + (m.frame f).len.toNat ≤ (m.frame f).usageCount.offset
  older : f < m.heap.brk
  payload_older : b < m.heap.brk

/-- The usage counter of a frame. -/
def Mem.counterOf (m : Mem) (f : Ptr) : UInt8 := m.byteAt (m.frame f).usageCount 0

/-- The payload of a frame. -/
def Mem.payloadOf (m : Mem) (f : Ptr) : List UInt8 :=
  m.payload (m.frame f).data (m.frame f).len.toNat

section
variable {m m' : Mem} {f g b b' : Ptr}

/-- The bytes behind a pointer into a block. -/
theorem byteAt_of_block {p : BytePtr} (h : p.block = some b) (m : Mem) :
    m.byteAt p = fun i => m.byte b (p.offset + i) := by
  funext i
  simp only [Mem.byteAt, h, Option.map_some, Option.getD_some]

/-- What an overwritten byte does to the counter and to the payload before it. -/
theorem LiveFrame.counterOf_eq (h : LiveFrame m f b) :
    m.counterOf f = m.byte b (m.frame f).usageCount.offset :=
  byteAt_block h.usageCount m

theorem LiveFrame.payloadOf_congr (h : LiveFrame m f b) (hframe : m'.frame f = m.frame f)
    (hbyte : ∀ i, i < (m.frame f).usageCount.offset → m'.byte b i = m.byte b i) :
    m'.payloadOf f = m.payloadOf f := by
  rw [Mem.payloadOf, Mem.payloadOf, hframe, Mem.payload, Mem.payload]
  apply List.map_congr_left
  intro i hi
  have hlt := List.mem_range.mp hi
  have hbehind := h.behind
  simp only [Mem.byteAt, h.data, Option.map_some, Option.getD_some]
  apply hbyte
  omega

theorem LiveFrame.counterOf_congr (h : LiveFrame m f b) (hframe : m'.frame f = m.frame f)
    (hbyte : m'.byte b = m.byte b) : m'.counterOf f = m.counterOf f := by
  rw [Mem.counterOf, Mem.counterOf, hframe, byteAt_block h.usageCount,
    byteAt_block h.usageCount, hbyte]

theorem LiveFrame.kept (h : LiveFrame m f b) (hframe : m'.frame f = m.frame f)
    (hbrk : m.heap.brk ≤ m'.heap.brk) : LiveFrame m' f b := by
  constructor
  case data => rw [hframe, h.data]
  case usageCount => rw [hframe, h.usageCount]
  case behind =>
    rw [hframe]
    exact h.behind
  case older => exact Nat.lt_of_lt_of_le h.older hbrk
  case payload_older => exact Nat.lt_of_lt_of_le h.payload_older hbrk

end

/-! ## The deep copy -/

section
variable {m : Mem} {f b : Ptr}

/-- A copy that gets its block writes one byte: the usage counter. -/
theorem xcanFrameCopy_byte (hoom : m.heap.oom m.heap.calls = false) (h : LiveFrame m f b) :
    (xcanFrameCopy (some f) m).2.byte = Function.update m.byte b
      ((m.byte b).splice (m.frame f).usageCount.offset 1 fun _ => m.counterOf f + 1) := by
  simp [xcanFrameCopy, hoom, whole, FrameField.usageCount, FrameField.next, Stored.put,
    storeByte, memcpy, loadByte, Nat.ne_of_lt h.older, h.usageCount, Mem.byteAt, Mem.counterOf]

/-- A deep copy that gets both of its blocks: the descriptor, and after it the
buffer, which is filled from the source as the copy left it. -/
theorem xcanFrameDeepcopy_granted (hoom : m.heap.oom m.heap.calls = false)
    (hoom' : m.heap.oom (m.heap.calls + 1) = false) (h : LiveFrame m f b) :
    (xcanFrameDeepcopy (some f) m).1 = some m.heap.brk ∧
      (xcanFrameDeepcopy (some f) m).2.frame =
        Function.update m.frame m.heap.brk
          { m.frame f with
            next := none
            data := { block := some (m.heap.brk + 1) }
            usageCount :=
              { block := some (m.heap.brk + 1), offset := (m.frame f).len.toNat } } ∧
      (xcanFrameDeepcopy (some f) m).2.byte =
        Function.update (xcanFrameCopy (some f) m).2.byte (m.heap.brk + 1)
          ((Bytes.splice (fun _ => 0) 0 (m.frame f).len.toNat
            ((xcanFrameCopy (some f) m).2.byteAt (m.frame f).data)).splice
              (m.frame f).len.toNat 1 fun _ => 1) ∧
      (xcanFrameDeepcopy (some f) m).2.heap = (m.heap.grant 0).grant 0 := by
  have hne : f ≠ m.heap.brk := Nat.ne_of_lt h.older
  have hb : b ≠ m.heap.brk + 1 := Nat.ne_of_lt (Nat.lt_succ_of_lt h.payload_older)
  have hp := h.usageCount
  have hd := h.data
  refine ⟨?_, ?_, ?_, ?_⟩
  · simp [xcanFrameDeepcopy, xcanFrameCopy, hoom]
  · simp [xcanFrameDeepcopy, xcanFrameCopy, hoom, hoom', whole, FrameField.usageCount,
      FrameField.next, Stored.put, storeByte, memcpy, loadByte, hne, hp, FrameField.len,
      FrameField.data, BytePtr.add, loadBytes]
  · simp [xcanFrameDeepcopy, xcanFrameCopy, hoom, hoom', whole, FrameField.usageCount,
      FrameField.next, Stored.put, Stored.zero, storeByte, memcpy, loadByte, hne, hp,
      FrameField.len, FrameField.data, BytePtr.add, loadBytes, byteAt_of_block hp,
      byteAt_of_block hd, hb]
  · simp [xcanFrameDeepcopy, xcanFrameCopy, hoom, hoom', whole, FrameField.usageCount,
      FrameField.next, Stored.put, storeByte, memcpy, loadByte, hne, hp, FrameField.len,
      FrameField.data, BytePtr.add, loadBytes]

/-- `new` in `m'` is what `f` was in `m`, with a payload buffer of its own. -/
structure DeepCopy (m m' : Mem) (f new : Ptr) : Prop where
  dev : (m'.frame new).dev = (m.frame f).dev
  id : (m'.frame new).id = (m.frame f).id
  flags : (m'.frame new).flags = (m.frame f).flags
  len : (m'.frame new).len = (m.frame f).len
  next : (m'.frame new).next = none
  payload : m'.payloadOf new = m.payloadOf f
  fresh : ∃ b, LiveFrame m' new b ∧ m.heap.brk ≤ b
  counter : m'.counterOf new = 1

/-- `f` is in `m'` what it was in `m`. -/
structure SourceKept (m m' : Mem) (f : Ptr) : Prop where
  descriptor : m'.frame f = m.frame f
  payload : m'.payloadOf f = m.payloadOf f
  counter : m'.counterOf f = m.counterOf f

/-- A discard of `f` changes neither the counter nor the payload of `g`. -/
def DiscardSpares (m : Mem) (f g : Ptr) : Prop :=
  (xcanFrameDiscard (some f) m).2.counterOf g = m.counterOf g ∧
    (xcanFrameDiscard (some f) m).2.payloadOf g = m.payloadOf g

/-- The frame `r.1` is a deep copy of `f` that is independent of it. -/
def IndependentCopy (m : Mem) (f : Ptr) (r : Option Ptr × Mem) : Prop :=
  ∃ new, r.1 = some new ∧ DeepCopy m r.2 f new ∧ SourceKept m r.2 f ∧
    DiscardSpares r.2 f new ∧ DiscardSpares r.2 new f

theorem LiveFrame.discardSpares {f g b b' : Ptr} (hf : LiveFrame m f b)
    (hg : LiveFrame m g b') (hne : b' ≠ b) : DiscardSpares m f g := by
  have hbyte := xcanFrameDiscard_byte hf.usageCount hne
  have hframe := congrFun (xcanFrameDiscard_leaves m f).1 g
  exact ⟨hg.counterOf_congr hframe hbyte,
    hg.payloadOf_congr hframe fun i _ => congrFun hbyte i⟩

/-- The source after a copy: it keeps what is before its counter. -/
theorem xcanFrameCopy_source (hoom : m.heap.oom m.heap.calls = false) (h : LiveFrame m f b) :
    (xcanFrameCopy (some f) m).2.frame f = m.frame f ∧
      (xcanFrameCopy (some f) m).2.payloadOf f = m.payloadOf f ∧
      (xcanFrameCopy (some f) m).2.counterOf f = m.counterOf f + 1 := by
  have hne : f ≠ m.heap.brk := Nat.ne_of_lt h.older
  obtain ⟨-, hframe, hcounter, -⟩ := xcanFrameCopy_granted hoom hne h.usageCount
  have hsource : (xcanFrameCopy (some f) m).2.frame f = m.frame f := by
    rw [hframe, Function.update_of_ne hne]
  refine ⟨hsource, ?_, ?_⟩
  · apply h.payloadOf_congr hsource
    intro i hi
    rw [xcanFrameCopy_byte hoom h, Function.update_self, Bytes.splice, if_neg (by omega)]
  · rw [Mem.counterOf, hsource, hcounter, Mem.counterOf]

/-- The buffer of a deep copy that gets both of its blocks. -/
theorem xcanFrameDeepcopy_buffer (hoom : m.heap.oom m.heap.calls = false)
    (hoom' : m.heap.oom (m.heap.calls + 1) = false) (h : LiveFrame m f b) :
    LiveFrame (xcanFrameDeepcopy (some f) m).2 m.heap.brk (m.heap.brk + 1) ∧
      (xcanFrameDeepcopy (some f) m).2.payloadOf m.heap.brk = m.payloadOf f ∧
      (xcanFrameDeepcopy (some f) m).2.counterOf m.heap.brk = 1 := by
  obtain ⟨-, hframe, hbyte, hheap⟩ := xcanFrameDeepcopy_granted hoom hoom' h
  obtain ⟨hsource, hpayload, -⟩ := xcanFrameCopy_source hoom h
  have hself := congrFun hframe m.heap.brk
  have hbuffer := congrFun hbyte (m.heap.brk + 1)
  rw [Function.update_self] at hself hbuffer
  have hlive : LiveFrame (xcanFrameDeepcopy (some f) m).2 m.heap.brk (m.heap.brk + 1) := by
    constructor
    case data => rw [hself]
    case usageCount => rw [hself]
    case behind => simp [hself]
    case older =>
      rw [hheap]
      exact Nat.lt_add_of_pos_right Nat.two_pos
    case payload_older =>
      rw [hheap]
      exact Nat.lt_succ_self _
  refine ⟨hlive, ?_, ?_⟩
  · rw [← hpayload, Mem.payloadOf, Mem.payloadOf, hself, hsource]
    apply List.map_congr_left
    intro i hi
    have hlt : i < (m.frame f).len.toNat := List.mem_range.mp hi
    rw [byteAt_of_block rfl, hbuffer]
    simp [Bytes.splice, hlt, Nat.not_le_of_lt hlt]
  · rw [hlive.counterOf_eq, hself, hbuffer, splice_one]

/-- **What a deep copy does**: the new frame is as it should be, and the source
keeps its descriptor and its payload, but counts one user more. -/
theorem xcanFrameDeepcopy_effect (hoom : m.heap.oom m.heap.calls = false)
    (hoom' : m.heap.oom (m.heap.calls + 1) = false) (h : LiveFrame m f b) :
    ∃ new m', xcanFrameDeepcopy (some f) m = (some new, m') ∧ DeepCopy m m' f new ∧
      m'.frame f = m.frame f ∧ m'.payloadOf f = m.payloadOf f ∧
      m'.counterOf f = m.counterOf f + 1 ∧
      DiscardSpares m' f new ∧ DiscardSpares m' new f := by
  obtain ⟨hnew, hframe, hbyte, hheap⟩ := xcanFrameDeepcopy_granted hoom hoom' h
  obtain ⟨hcopy, hpayload, hcounter⟩ := xcanFrameCopy_source hoom h
  obtain ⟨hlive, hpayload', hcounter'⟩ := xcanFrameDeepcopy_buffer hoom hoom' h
  have hself := congrFun hframe m.heap.brk
  rw [Function.update_self] at hself
  have hsource : (xcanFrameDeepcopy (some f) m).2.frame f = m.frame f := by
    rw [hframe, Function.update_of_ne (Nat.ne_of_lt h.older)]
  -- the deep copy writes to no byte of the source's block that the copy did not write to
  have hne : b ≠ m.heap.brk + 1 := Nat.ne_of_lt (Nat.lt_succ_of_lt h.payload_older)
  have hold : (xcanFrameDeepcopy (some f) m).2.byte b = (xcanFrameCopy (some f) m).2.byte b := by
    rw [hbyte, Function.update_of_ne hne]
  have hbrk : m.heap.brk ≤ (xcanFrameDeepcopy (some f) m).2.heap.brk := by
    rw [hheap]
    exact Nat.le_add_right _ 2
  have hlive' := h.kept hsource hbrk
  obtain ⟨-, -, -, hheap'⟩ := xcanFrameCopy_granted hoom (Nat.ne_of_lt h.older) h.usageCount
  have hcopied := h.kept hcopy (by simp [hheap'])
  refine ⟨_, _, Prod.ext hnew rfl, ?_, hsource, ?_, ?_, ?_, ?_⟩
  · constructor
    case dev => rw [hself]
    case id => rw [hself]
    case flags => rw [hself]
    case len => rw [hself]
    case next => rw [hself]
    case payload => exact hpayload'
    case fresh => exact ⟨_, hlive, Nat.le_succ _⟩
    case counter => exact hcounter'
  · rw [← hpayload]
    exact hcopied.payloadOf_congr (hsource.trans hcopy.symm) fun i _ => congrFun hold i
  · rw [← hcounter]
    exact hcopied.counterOf_congr (hsource.trans hcopy.symm) hold
  · exact hlive'.discardSpares hlive hne.symm
  · exact hlive.discardSpares hlive' hne

/-- **A deep copy is never independent of its source**: the use of the source's
payload that `xcan_frame_copy` counted stays counted. -/
theorem deepcopy_never_independent (hoom : m.heap.oom m.heap.calls = false)
    (hoom' : m.heap.oom (m.heap.calls + 1) = false) (h : LiveFrame m f b) :
    ¬ IndependentCopy m f (xcanFrameDeepcopy (some f) m) := by
  obtain ⟨_, m', heq, -, -, -, hcounter, -⟩ := xcanFrameDeepcopy_effect hoom hoom' h
  rw [heq]
  rintro ⟨_, -, -, hkept, -⟩
  have hself : m.counterOf f + 1 = m.counterOf f := hcounter.symm.trans hkept.counter
  exact absurd (UInt8.toNat_inj.mpr hself) (by
    rw [UInt8.toNat_add, UInt8.toNat_one]
    have := (m.counterOf f).toNat_lt
    omega)

end

theorem oneFrame_live : LiveFrame oneFrame.mem 1 2 where
  data := rfl
  usageCount := rfl
  behind := by decide
  older := by decide
  payload_older := by decide

/-- A frame of eight bytes that has one descriptor. -/
theorem deepcopy_never_independent_one_frame :
    ¬ IndependentCopy oneFrame.mem 1 (xcanFrameDeepcopy (some 1) oneFrame.mem) :=
  deepcopy_never_independent rfl rfl oneFrame_live

/-- Its counter is two afterwards. -/
theorem deepcopy_leaves_source_counted :
    LiveFrame oneFrame.mem 1 2 ∧ (∀ k, oneFrame.mem.heap.oom k = false) ∧
      oneFrame.mem.counterOf 1 = 1 ∧
      (xcanFrameDeepcopy (some 1) oneFrame.mem).2.counterOf 1 = 2 ∧
      ¬ IndependentCopy oneFrame.mem 1 (xcanFrameDeepcopy (some 1) oneFrame.mem) := by
  have hafter : (xcanFrameDeepcopy (some 1) oneFrame.mem).2.counterOf 1 = 2 := by decide
  refine ⟨oneFrame_live, fun _ => rfl, rfl, hafter, ?_⟩
  rintro ⟨_, -, -, hkept, -⟩
  cases hafter.symm.trans hkept.counter

/-! ## Failing allocations -/

/-- A call of one of the constructors. -/
inductive Constructor where
  | alloc (size : UInt32)
  | copy (f : Ptr)
  | deepcopy (f : Ptr)
deriving DecidableEq, Repr

def Constructor.call : Constructor → MemOp (Option Ptr)
  | .alloc size => xcanFrameAlloc size
  | .copy f => xcanFrameCopy (some f)
  | .deepcopy f => xcanFrameDeepcopy (some f)

/-- How often it calls `XCAN_ZALLOC`, unless it gives up earlier. -/
def Constructor.allocations : Constructor → Nat
  | .copy _ => 1
  | .alloc _ | .deepcopy _ => 2

/-- One of these calls returns `NULL`. -/
def Constructor.Fails (c : Constructor) (m : Mem) : Prop :=
  ∃ k, k < c.allocations ∧ m.heap.oom (m.heap.calls + k) = true

/-- The call that returned `r` in `m` had no effect: it returns `NULL`, goes
through no `NULL` and no freed pointer, keeps no block and changes no frame. -/
structure Atomic (m : Mem) (r : Option Ptr × Mem) : Prop where
  returned : r.1 = none
  lawful : ∃ accesses, r.2.log = m.log ++ accesses ∧
    ∀ a ∈ accesses, a.block ≠ none ∧ a.dead = false
  released : ∀ b, m.heap.brk ≤ b → b < r.2.heap.brk → b ∈ r.2.heap.frees
  frees : ∀ b, b < m.heap.brk → r.2.heap.frees.count b = m.heap.frees.count b
  frame : ∀ f, f < m.heap.brk → r.2.frame f = m.frame f
  byte : ∀ b, b < m.heap.brk → r.2.byte b = m.byte b

section
variable {m : Mem} {f : Ptr} {c : Constructor}

theorem atomic_refuse : Atomic m (none, m.setHeap m.heap.refuse) where
  returned := rfl
  lawful := ⟨[], (List.append_nil _).symm, fun _ h => nomatch h⟩
  released := by
    intro b hb hlt
    exact absurd hlt (Nat.not_lt_of_le hb)
  frees _ _ := rfl
  frame _ _ := rfl
  byte _ _ := rfl

theorem xcanFrameCopy_refused (h : m.heap.oom m.heap.calls = true) :
    xcanFrameCopy (some f) m = (none, m.setHeap m.heap.refuse) := by
  simp [xcanFrameCopy, h]

/-- A deep copy that does not get its descriptor goes on without one. -/
theorem xcanFrameDeepcopy_refused (h : m.heap.oom m.heap.calls = true) :
    ∃ rest, (xcanFrameDeepcopy (some f) m).2.log = m.log ++ ⟨none, 22, 2, false⟩ :: rest := by
  cases h' : m.heap.oom (m.heap.calls + 1) with
  | true =>
      simp [xcanFrameDeepcopy, xcanFrameCopy, h, h', load, store, loadBytes, memcpy,
        storeByte, Stored.zero, BytePtr.add, FrameField.len, FrameField.data,
        FrameField.usageCount]
  | false =>
      simp [xcanFrameDeepcopy, xcanFrameCopy, h, h', load, store, loadBytes, memcpy,
        storeByte, Stored.zero, Stored.put, BytePtr.add, FrameField.len, FrameField.data,
        FrameField.usageCount]

/-- One that does not get its buffer returns the descriptor without it. -/
theorem xcanFrameDeepcopy_some (h : m.heap.oom m.heap.calls = false) :
    (xcanFrameDeepcopy (some f) m).1 = some m.heap.brk := by
  simp [xcanFrameDeepcopy, xcanFrameCopy, h]

/-- **A constructor is atomic when it gives up at its first allocation**, and
`xcan_frame_deepcopy` never does. -/
theorem constructor_atomic_iff (hfails : c.Fails m) :
    Atomic m (c.call m) ↔ m.heap.oom m.heap.calls = true ∧ ∀ f, c ≠ .deepcopy f := by
  constructor
  · intro hatomic
    have hreturned := hatomic.returned
    cases hoom : m.heap.oom m.heap.calls with
    | false =>
      -- the descriptor is returned, whatever happened afterwards
      cases c with
      | alloc size =>
          rw [Constructor.call, (xcanFrameAlloc_some m size hoom).1] at hreturned
          cases hreturned
      | copy f =>
          obtain ⟨k, hk, hoom'⟩ := hfails
          obtain rfl : k = 0 := Nat.lt_one_iff.mp hk
          cases hoom.symm.trans hoom'
      | deepcopy f =>
          rw [Constructor.call, xcanFrameDeepcopy_some hoom] at hreturned
          cases hreturned
    | true =>
      refine ⟨rfl, ?_⟩
      rintro f rfl
      obtain ⟨accesses, hlog, hlawful⟩ := hatomic.lawful
      obtain ⟨rest, hlog'⟩ := xcanFrameDeepcopy_refused (f := f) hoom
      obtain rfl := List.append_cancel_left (hlog'.symm.trans hlog)
      exact absurd rfl (hlawful _ List.mem_cons_self).1
  · rintro ⟨hoom, hshallow⟩
    cases c with
    | alloc size =>
        rw [Constructor.call, xcanFrameAlloc_refused m size hoom]
        exact atomic_refuse
    | copy f =>
        rw [Constructor.call, xcanFrameCopy_refused hoom]
        exact atomic_refuse
    | deepcopy f => exact absurd rfl (hshallow f)

end

/-- Memory in which only the second call of the allocator fails. -/
def secondRefused : Mem where
  heap := { oom := fun n => n == 1 }

/-- A frame of eight bytes of which only the descriptor is allocated. -/
theorem constructor_atomic_iff_second_refused :
    Atomic secondRefused ((Constructor.alloc 8).call secondRefused) ↔
      secondRefused.heap.oom secondRefused.heap.calls = true ∧
        ∀ f, Constructor.alloc 8 ≠ .deepcopy f :=
  constructor_atomic_iff ⟨1, by decide, by decide⟩

/-- The descriptor is freed, written to and returned. -/
theorem alloc_returns_freed_frame :
    (Constructor.alloc 8).Fails secondRefused ∧
      ((Constructor.alloc 8).call secondRefused).1 = some 0 ∧
      0 ∈ ((Constructor.alloc 8).call secondRefused).2.heap.frees ∧
      ⟨some 0, 22, 2, true⟩ ∈ ((Constructor.alloc 8).call secondRefused).2.log ∧
      ¬ Atomic secondRefused ((Constructor.alloc 8).call secondRefused) := by
  have hsome : ((Constructor.alloc 8).call secondRefused).1 = some 0 := by decide
  refine ⟨⟨1, by decide, by decide⟩, hsome, by decide, by decide, ?_⟩
  intro hatomic
  cases hsome.symm.trans hatomic.returned

end XcanRouter
