import Mathlib.Algebra.Ring.Nat
import Mathlib.Data.List.Nodup
import Mathlib.Logic.Function.Basic
import Mathlib.Tactic.Simps.Basic

/-!
# Memory

The C memory the stack works on, as typed views over numbered blocks. An
allocation takes a fresh block number and records the number of bytes that
were asked for; `free` is recorded in order. A pointer is a block number,
`none` is `NULL`, and a `uint8_t *` is a block with an offset.

Nothing here faults. Every field or byte access to a block is written to `log`
with its place and with whether the block had been freed before, and goes on on
the contents the block has; a dereference of `NULL` is logged and has no other
effect. What the code does to its data and whether its accesses were lawful
are then two questions about one run.

Variables on the stack of the C program are no blocks. The copies to local
structures whose sizes depend on the data are kept in `Bus.locals`
(XcanRouter.SocketCan), and the writes to print buffers in the printouts of
XcanRouter.Framework.Console.
-/

namespace XcanRouter

abbrev Ptr := Nat

/-- `uint8_t *`. -/
structure BytePtr where
  block : Option Ptr := none
  offset : Nat := 0
deriving DecidableEq, Repr

def BytePtr.add (p : BytePtr) (n : Nat) : BytePtr :=
  { p with offset := p.offset + n }

/-! ## The structures of the stack -/

/-- `struct xcan_frame` (xcan_frame.h). -/
structure XcanFrame where
  next : Option Ptr := none
  dev : Option Ptr := none
  id : UInt32 := 0
  flags : UInt8 := 0
  len : UInt16 := 0
  data : BytePtr := {}
  usageCount : BytePtr := {}
deriving DecidableEq, Repr

/-- `struct xcan_queue` (xcan_queue.h). -/
structure XcanQueue where
  frames : UInt32 := 0
  maxFrames : UInt32 := 0
  head : Option Ptr := none
  tail : Option Ptr := none
deriving DecidableEq, Repr

/-- What a function pointer of a device may hold: the functions of the
SocketCAN driver, or those of a driver outside of the repository. -/
inductive Callback where
  | prvLinkState
  | prvSend
  | prvPoll
  | xcanSocketcanDestroy
  | other (n : Nat)
deriving DecidableEq, Repr

def xcanMaxDeviceName : Nat := 16

def xcanMaxDevices : Nat := 4

/-- `struct xcan_device` (xcan_device.h), with the `fd` that
`struct xcan_device_socketcan` puts behind it. `name` is the character
array, always `xcanMaxDeviceName` long. -/
structure XcanDevice where
  id : UInt8 := 0
  name : List UInt8 := List.replicate xcanMaxDeviceName 0
  qIn : Option Ptr := none
  qOut : Option Ptr := none
  linkState : Option Callback := none
  send : Option Callback := none
  poll : Option Callback := none
  destroy : Option Callback := none
  fd : Int := 0
deriving DecidableEq, Repr

/-- The contents of a payload buffer. -/
abbrev Bytes := Nat → UInt8

def sizeofXcanFrame : Nat := 40
def sizeofXcanQueue : Nat := 24

/-! ## Memory and its accesses -/

/-- One access of `size` bytes at `offset`; `dead` when the block had been
freed before it. -/
structure Access where
  block : Option Ptr
  offset : Nat
  size : Nat
  dead : Bool
deriving DecidableEq, Repr

/-- The allocator's side of memory. -/
structure Heap where
  /-- The next block number to hand out. -/
  brk : Nat := 0
  /-- The number of bytes that were requested for a block. -/
  size : Ptr → Nat := fun _ => 0
  /-- Which allocator calls fail, by the number of the call. -/
  oom : Nat → Bool := fun _ => false
  /-- How many allocator calls have been made. -/
  calls : Nat := 0
  /-- The blocks passed to `free`, in order. -/
  frees : List Ptr := []

/-- The state a failed allocator call leaves. -/
@[simps -fullyApplied] def Heap.refuse (h : Heap) : Heap :=
  { h with calls := h.calls + 1 }

/-- The state after handing out `h.brk` as a block of `n` bytes. -/
@[simps -fullyApplied] def Heap.grant (h : Heap) (n : Nat) : Heap :=
  { h with
    calls := h.calls + 1
    brk := h.brk + 1
    size := Function.update h.size h.brk n }

@[simps -fullyApplied] def Heap.free (h : Heap) (b : Ptr) : Heap :=
  { h with frees := h.frees ++ [b] }

structure Mem where
  heap : Heap := {}
  frame : Ptr → XcanFrame := fun _ => {}
  queue : Ptr → XcanQueue := fun _ => {}
  device : Ptr → XcanDevice := fun _ => {}
  byte : Ptr → Bytes := fun _ _ => 0
  /-- The frames passed to `xcan_frame_discard`, in order. -/
  discards : List Ptr := []
  log : List Access := []

namespace Mem

@[simps -fullyApplied] def setHeap (m : Mem) (h : Heap) : Mem := { m with heap := h }

@[simps -fullyApplied] def setFrame (m : Mem) (b : Ptr) (v : XcanFrame) : Mem :=
  { m with frame := Function.update m.frame b v }

@[simps -fullyApplied] def setQueue (m : Mem) (b : Ptr) (v : XcanQueue) : Mem :=
  { m with queue := Function.update m.queue b v }

@[simps -fullyApplied] def setDevice (m : Mem) (b : Ptr) (v : XcanDevice) : Mem :=
  { m with device := Function.update m.device b v }

@[simps -fullyApplied] def setBytes (m : Mem) (b : Ptr) (v : Bytes) : Mem :=
  { m with byte := Function.update m.byte b v }

@[simps -fullyApplied] def noteDiscard (m : Mem) (f : Ptr) : Mem :=
  { m with discards := m.discards ++ [f] }

@[simps -fullyApplied] def touch (m : Mem) (b : Option Ptr) (offset size : Nat) : Mem :=
  { m with log := m.log ++ [⟨b, offset, size, b.any (· ∈ m.heap.frees)⟩] }

end Mem

/-- A type of objects that live in blocks; `zero` is the object whose bytes
are all zero. -/
class Stored (S : Type) where
  zero : S
  get : Mem → Ptr → S
  put : Mem → Ptr → S → Mem

instance : Stored XcanFrame := ⟨{}, Mem.frame, Mem.setFrame⟩

instance : Stored XcanQueue := ⟨{}, Mem.queue, Mem.setQueue⟩

instance : Stored XcanDevice := ⟨{}, Mem.device, Mem.setDevice⟩

instance : Stored Bytes := ⟨fun _ => 0, Mem.byte, Mem.setBytes⟩

/-! ## Statements over memory -/

/-- A piece of the stack's code that only works on memory. -/
def MemOp (α : Type) : Type := Mem → α × Mem

instance : Monad MemOp where
  pure a := fun m => (a, m)
  bind x k := fun m => k (x m).1 (x m).2

@[simp] theorem MemOp.pure_apply {α : Type} (a : α) (m : Mem) :
    (pure a : MemOp α) m = (a, m) := rfl

@[simp] theorem MemOp.bind_apply {α β : Type} (x : MemOp α) (k : α → MemOp β)
    (m : Mem) : (x >>= k) m = k (x m).1 (x m).2 := rfl

@[simp] theorem MemOp.ite_apply {α : Type} {c : Prop} [Decidable c]
    (x y : MemOp α) (m : Mem) :
    (if c then x else y) m = if c then x m else y m := by
  split <;> rfl

/-- A field of a structure, with its place under the LP64 layout. -/
structure Field (S α : Type) where
  offset : Nat
  size : Nat
  get : S → α
  set : S → α → S

/-- `p->x` -/
def load {S α : Type} [Stored S] (p : Option Ptr) (x : Field S α) : MemOp α :=
  fun m => (x.get ((p.map (Stored.get m)).getD Stored.zero),
    m.touch p x.offset x.size)

/-- `p->x = v` -/
def store {S α : Type} [Stored S] (p : Option Ptr) (x : Field S α) (v : α) :
    MemOp Unit :=
  fun m => ((), (match p with
    | none => m
    | some b => Stored.put m b (x.set (Stored.get m b) v)).touch p x.offset x.size)

/-- The byte at `p + i`. -/
def Mem.byteAt (m : Mem) (p : BytePtr) (i : Nat) : UInt8 :=
  (p.block.map fun b => m.byte b (p.offset + i)).getD 0

/-- `*p` -/
def loadByte (p : BytePtr) : MemOp UInt8 :=
  fun m => (m.byteAt p 0, m.touch p.block p.offset 1)

/-- The `n` bytes from `p` on, as the source of a `memcpy`. -/
def loadBytes (p : BytePtr) (n : Nat) : MemOp Bytes :=
  fun m => (m.byteAt p, m.touch p.block p.offset n)

/-- Block contents `old` with `n` bytes of `src` written from `offset` on. -/
def Bytes.splice (old : Bytes) (offset n : Nat) (src : Bytes) : Bytes :=
  fun i => if offset ≤ i ∧ i < offset + n then src (i - offset) else old i

/-- The first `n` bytes at a pointer. -/
def bytesOf (data : Bytes) (n : Nat) : List UInt8 := (List.range n).map data

section
variable {f g : Bytes} {n k : Nat}

@[simp] theorem length_bytesOf : (bytesOf f n).length = n := by
  rw [bytesOf, List.length_map, List.length_range]

theorem bytesOf_congr (h : ∀ i < n, f i = g i) : bytesOf f n = bytesOf g n :=
  List.map_congr_left fun i hi => h i (List.mem_range.mp hi)

theorem bytesOf_add : bytesOf f (n + k) = bytesOf f n ++ bytesOf (fun i => f (n + i)) k := by
  rw [bytesOf, List.range_add, List.map_append, List.map_map]
  rfl

theorem bytesOf_const (v : UInt8) : bytesOf (fun _ => v) n = List.replicate n v := by
  rw [bytesOf, List.map_const', List.length_range]

end

/-- `memcpy(p, src, n)` -/
def memcpy (p : BytePtr) (src : Bytes) (n : Nat) : MemOp Unit :=
  fun m => ((), (match p.block with
    | none => m
    | some b => m.setBytes b ((m.byte b).splice p.offset n src)).touch p.block p.offset n)

/-- `*p = v` -/
def storeByte (p : BytePtr) (v : UInt8) : MemOp Unit :=
  memcpy p (fun _ => v) 1

/-- A whole structure of `size` bytes, the object of a structure `memcpy`. -/
def whole (S : Type) (size : Nat) : Field S S := ⟨0, size, id, fun _ v => v⟩

/-- `calloc(n, size)` for an object of type `S`: a fresh block of
`n * size` bytes that reads as zero, or `NULL`. -/
def calloc (S : Type) [Stored S] (n size : Nat) : MemOp (Option Ptr) :=
  fun m =>
    if m.heap.oom m.heap.calls then (none, m.setHeap m.heap.refuse)
    else (some m.heap.brk,
      Stored.put (m.setHeap (m.heap.grant (n * size))) m.heap.brk (Stored.zero : S))

/-- `XCAN_ZALLOC(x)`, which xcan_config.h defines as `calloc(x, 0)`. -/
def xcanZalloc (S : Type) [Stored S] (x : Nat) : MemOp (Option Ptr) :=
  calloc S x 0

/-- `XCAN_FREE(x)` -/
def xcanFree (p : Option Ptr) : MemOp Unit :=
  fun m => ((), match p with
    | none => m
    | some b => m.setHeap (m.heap.free b))

/-- Record that the body of `xcan_frame_discard` runs on `f`. -/
def noteDiscard (f : Ptr) : MemOp Unit := fun m => ((), m.noteDiscard f)

section
variable {α : Type} (b : Ptr) (v : α) (m : Mem)

@[simp] theorem load_frame (x : Field XcanFrame α) :
    load (some b) x m = (x.get (m.frame b), m.touch (some b) x.offset x.size) := rfl

@[simp] theorem load_queue (x : Field XcanQueue α) :
    load (some b) x m = (x.get (m.queue b), m.touch (some b) x.offset x.size) := rfl

@[simp] theorem load_device (x : Field XcanDevice α) :
    load (some b) x m = (x.get (m.device b), m.touch (some b) x.offset x.size) := rfl

@[simp] theorem store_frame (x : Field XcanFrame α) :
    store (some b) x v m = ((), (m.setFrame b (x.set (m.frame b) v)).touch (some b)
      x.offset x.size) := rfl

@[simp] theorem store_queue (x : Field XcanQueue α) :
    store (some b) x v m = ((), (m.setQueue b (x.set (m.queue b) v)).touch (some b)
      x.offset x.size) := rfl

@[simp] theorem store_device (x : Field XcanDevice α) :
    store (some b) x v m = ((), (m.setDevice b (x.set (m.device b) v)).touch (some b)
      x.offset x.size) := rfl

@[simp] theorem noteDiscard_apply : noteDiscard b m = ((), m.noteDiscard b) := rfl

@[simp] theorem xcanFree_some :
    xcanFree (some b) m = ((), m.setHeap (m.heap.free b)) := rfl

@[simp] theorem xcanFree_none : xcanFree none m = ((), m) := rfl

@[simp] theorem xcanZalloc_refused (S : Type) [Stored S] (n : Nat)
    (h : m.heap.oom m.heap.calls = true) :
    xcanZalloc S n m = (none, m.setHeap m.heap.refuse) := by
  simp [xcanZalloc, calloc, h]

@[simp] theorem xcanZalloc_granted (S : Type) [Stored S] (n : Nat)
    (h : m.heap.oom m.heap.calls = false) :
    xcanZalloc S n m = (some m.heap.brk,
      Stored.put (m.setHeap (m.heap.grant (n * 0))) m.heap.brk (Stored.zero : S)) := by
  simp [xcanZalloc, calloc, h]

end

/-! ## The fields by name -/

namespace FrameField

def next : Field XcanFrame (Option Ptr) :=
  ⟨0, 8, (·.next), fun f v => { f with next := v }⟩
def dev : Field XcanFrame (Option Ptr) :=
  ⟨8, 8, (·.dev), fun f v => { f with dev := v }⟩
def id : Field XcanFrame UInt32 :=
  ⟨16, 4, (·.id), fun f v => { f with id := v }⟩
def flags : Field XcanFrame UInt8 :=
  ⟨20, 1, (·.flags), fun f v => { f with flags := v }⟩
def len : Field XcanFrame UInt16 :=
  ⟨22, 2, (·.len), fun f v => { f with len := v }⟩
def data : Field XcanFrame BytePtr :=
  ⟨24, 8, (·.data), fun f v => { f with data := v }⟩
def usageCount : Field XcanFrame BytePtr :=
  ⟨32, 8, (·.usageCount), fun f v => { f with usageCount := v }⟩

end FrameField

namespace QueueField

def frames : Field XcanQueue UInt32 :=
  ⟨0, 4, (·.frames), fun q v => { q with frames := v }⟩
def maxFrames : Field XcanQueue UInt32 :=
  ⟨4, 4, (·.maxFrames), fun q v => { q with maxFrames := v }⟩
def head : Field XcanQueue (Option Ptr) :=
  ⟨8, 8, (·.head), fun q v => { q with head := v }⟩
def tail : Field XcanQueue (Option Ptr) :=
  ⟨16, 8, (·.tail), fun q v => { q with tail := v }⟩

end QueueField

namespace DeviceField

def id : Field XcanDevice UInt8 :=
  ⟨0, 1, (·.id), fun d v => { d with id := v }⟩
def name : Field XcanDevice (List UInt8) :=
  ⟨1, 16, (·.name), fun d v => { d with name := v }⟩
def qIn : Field XcanDevice (Option Ptr) :=
  ⟨24, 8, (·.qIn), fun d v => { d with qIn := v }⟩
def qOut : Field XcanDevice (Option Ptr) :=
  ⟨32, 8, (·.qOut), fun d v => { d with qOut := v }⟩
def linkState : Field XcanDevice (Option Callback) :=
  ⟨40, 8, (·.linkState), fun d v => { d with linkState := v }⟩
def send : Field XcanDevice (Option Callback) :=
  ⟨48, 8, (·.send), fun d v => { d with send := v }⟩
def poll : Field XcanDevice (Option Callback) :=
  ⟨56, 8, (·.poll), fun d v => { d with poll := v }⟩
def destroy : Field XcanDevice (Option Callback) :=
  ⟨64, 8, (·.destroy), fun d v => { d with destroy := v }⟩
/-- `struct xcan_device_socketcan` starts with its `struct xcan_device`. -/
def fd : Field XcanDevice Int :=
  ⟨72, 4, (·.fd), fun d v => { d with fd := v }⟩

end DeviceField

/-! ## What has been freed -/

/-- Only blocks that were handed out have been freed. -/
def FreedOnly (h : Heap) : Prop := ∀ b, b ∈ h.frees → b < h.brk

/-- From `h` to `h'` every block that was handed out was freed, once, and no
older one was freed. -/
structure Released (h h' : Heap) : Prop where
  older : ∀ b, b < h.brk → h'.frees.count b = h.frees.count b
  once : ∀ b, h.brk ≤ b → b < h'.brk → h'.frees.count b = 1

section
variable {h h' : Heap}

theorem FreedOnly.brk_notMem (hsane : FreedOnly h) : h.brk ∉ h.frees :=
  fun hmem => Nat.lt_irrefl _ (hsane _ hmem)

theorem FreedOnly.count_brk (hsane : FreedOnly h) : h.frees.count h.brk = 0 :=
  List.count_eq_zero.mpr hsane.brk_notMem

theorem FreedOnly.next (hsane : FreedOnly h) (n : Nat) :
    FreedOnly ((h.grant n).free h.brk) := by
  intro b hb
  rcases List.mem_append.mp hb with hold | hnew
  · exact Nat.lt_succ_of_lt (hsane b hold)
  · rw [List.mem_singleton.mp hnew]
    exact Nat.lt_succ_self _

/-- Nothing was allocated and nothing freed. -/
theorem Released.refl (hfrees : ∀ b, h'.frees.count b = h.frees.count b)
    (hbrk : h'.brk = h.brk) : Released h h' :=
  ⟨fun b _ => hfrees b, fun _ hb hlt => absurd hlt (by rw [hbrk]; exact Nat.not_lt_of_le hb)⟩

/-- What was freed are the blocks that were handed out. -/
theorem Released.of_perm {new : List Ptr} {n : Nat} (hsane : FreedOnly h)
    (hbrk : h'.brk = h.brk + n) (hfrees : h'.frees = h.frees ++ new)
    (hperm : new.Perm (List.range' h.brk n)) : Released h h' := by
  constructor
  case older =>
    intro b hb
    have hout : b ∉ new := by
      intro hmem
      have := List.mem_range'_1.mp (hperm.subset hmem)
      omega
    rw [hfrees, List.count_append, List.count_eq_zero.mpr hout, Nat.add_zero]
  case once =>
    intro b hb hlt
    have hold : b ∉ h.frees := fun hmem => absurd (hsane b hmem) (Nat.not_lt_of_le hb)
    have hnew : b ∈ List.range' h.brk n := List.mem_range'_1.mpr ⟨hb, hbrk ▸ hlt⟩
    rw [hfrees, List.count_append, List.count_eq_zero.mpr hold, Nat.zero_add,
      hperm.count_eq]
    exact List.count_eq_one_of_mem (List.nodup_range' _) hnew

/-- One more block that is freed right away. -/
theorem Released.next (hreleased : Released h h') (hle : h.brk ≤ h'.brk) (hsane : FreedOnly h')
    (n : Nat) : Released h ((h'.grant n).free h'.brk) := by
  have hcount : ∀ b, b ≠ h'.brk →
      (h'.frees ++ [h'.brk]).count b = h'.frees.count b := by
    intro b hne
    rw [List.count_append, List.count_singleton, if_neg (by simpa using hne.symm), Nat.add_zero]
  constructor
  case older =>
    intro b hb
    exact (hcount b (Nat.ne_of_lt (Nat.lt_of_lt_of_le hb hle))).trans (hreleased.older b hb)
  case once =>
    intro b hb hlt
    rcases Nat.lt_succ_iff_lt_or_eq.mp hlt with hlt | rfl
    · exact (hcount b (Nat.ne_of_lt hlt)).trans (hreleased.once b hb hlt)
    · show (h'.frees ++ [h'.brk]).count h'.brk = 1
      rw [List.count_append, hsane.count_brk, List.count_singleton_self]

end

end XcanRouter
