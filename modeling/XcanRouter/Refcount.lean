import XcanRouter.Frame
import XcanRouter.Base.Runs

/-!
# Usage counters

Runs of the functions of xcan_frame.c on any number of frames, with what their
callers hold: the descriptors that they were given and have not discarded, and
the usage counters of the payload buffers that were handed out.

`xcan_frame_alloc` leaves the counter of a new buffer at zero, where
`xcan_frame_copy` adds one for each further descriptor and `xcan_frame_discard`
takes one away, so the counter of a buffer starts one behind its descriptors.
-/

namespace XcanRouter

/-- A call of one of the functions of xcan_frame.c. -/
inductive FrameOp where
  | alloc (size : UInt32)
  | copy (f : Ptr)
  | deepcopy (f : Ptr)
  | discard (f : Ptr)
deriving DecidableEq, Repr

structure FrameRun where
  mem : Mem := {}
  /-- The descriptors that were returned and not yet discarded. -/
  live : List Ptr := []
  /-- Where the counters of the payload buffers handed out are. -/
  counters : List BytePtr := []

/-- The caller gets the descriptor `r.1`. -/
def FrameRun.hold (s : FrameRun) (r : Option Ptr × Mem) : FrameRun :=
  { s with mem := r.2, live := s.live ++ r.1.toList }

/-- The caller gets the descriptor `r.1`, of a payload buffer of its own. -/
def FrameRun.holdNew (s : FrameRun) (r : Option Ptr × Mem) : FrameRun :=
  { s.hold r with
    counters := s.counters ++ r.1.toList.map fun f => (r.2.frame f).usageCount }

def frameStep (s : FrameRun) : FrameOp → Option FrameRun
  | .alloc size => some (s.holdNew (xcanFrameAlloc size s.mem))
  | .copy f => some (s.hold (xcanFrameCopy (some f) s.mem))
  | .deepcopy f => some (s.holdNew (xcanFrameDeepcopy (some f) s.mem))
  | .discard f =>
      some { s with mem := (xcanFrameDiscard (some f) s.mem).2, live := s.live.erase f }

/-- A frame is copied or discarded only while its caller holds it. -/
def FrameOp.Admissible (s : FrameRun) : FrameOp → Prop
  | .alloc _ => True
  | .copy f | .deepcopy f | .discard f => f ∈ s.live

instance (s : FrameRun) : (op : FrameOp) → Decidable (op.Admissible s)
  | .alloc _ => isTrue trivial
  | .copy f | .deepcopy f | .discard f => inferInstanceAs (Decidable (f ∈ s.live))

/-- The number of descriptors held whose payload is the block `b`. -/
def FrameRun.holders (s : FrameRun) (b : Ptr) : Nat :=
  s.live.countP fun f => (s.mem.frame f).data.block = some b

/-- The counter of every payload buffer is the number of its descriptors, and
the buffer has been freed, once, exactly when it has none. -/
def FrameRun.Exact (s : FrameRun) : Prop :=
  ∀ p ∈ s.counters, ∀ b, p.block = some b →
    (s.mem.byteAt p 0).toNat = s.holders b ∧
      s.mem.heap.frees.count b = if s.holders b = 0 then 1 else 0

/-- Before the first call. -/
structure FrameRun.Start (s : FrameRun) : Prop where
  oom : ∀ n, s.mem.heap.oom n = false
  live : s.live = []
  counters : s.counters = []

section
variable {s s' : FrameRun} {op : FrameOp} {ops : List FrameOp}

theorem frameStep_returns (s : FrameRun) (op : FrameOp) :
    ∃ s', frameStep s op = some s' := by
  cases op <;> exact ⟨_, rfl⟩

theorem FrameRun.Start.exact (h : s.Start) : s.Exact := by
  intro p hp
  rw [h.counters] at hp
  cases hp

/-- Only an allocation may come first. -/
theorem FrameRun.Start.first (h : s.Start) (hop : op.Admissible s) :
    ∃ size, op = .alloc size := by
  cases op with
  | alloc size => exact ⟨size, rfl⟩
  | copy f | deepcopy f | discard f =>
      simp [FrameOp.Admissible, h.live] at hop

/-- **A new frame has one descriptor and the counter zero.** -/
theorem FrameRun.Start.not_exact_alloc (h : s.Start) (size : UInt32) :
    ¬ (s.holdNew (xcanFrameAlloc size s.mem)).Exact := by
  obtain ⟨hf, hframe, hbyte, -⟩ := xcanFrameAlloc_granted s.mem size (h.oom _) (h.oom _)
  intro hexact
  have hcounter := (hexact { block := some (s.mem.heap.brk + 1), offset := size.toNat }
    (by simp [holdNew, hf, hframe, newFrame]) _ rfl).1
  simp [holdNew, hold, holders, hf, h.live, hframe, newFrame, Mem.byteAt, hbyte] at hcounter

/-- **The counters are exact along no run that allocates a frame.** -/
theorem counters_exact_iff_nil (h : s.Start)
    (hops : Runs.Meets frameStep (fun s op => op.Admissible s) s ops) :
    (∃ s', Runs.run frameStep s ops = some s') ∧
      (Runs.Always frameStep FrameRun.Exact s ops ↔ ops = []) := by
  constructor
  · obtain ⟨s', hrun, -⟩ := Runs.run_of_inv (I := fun _ => True)
      (fun s op _ _ => (frameStep_returns s op).imp fun s' h => ⟨h, trivial⟩) trivial hops
    exact ⟨s', hrun⟩
  · cases ops with
    | nil => exact ⟨fun _ => rfl, fun _ => h.exact⟩
    | cons op ops =>
        obtain ⟨size, rfl⟩ := h.first hops.1
        refine ⟨fun hexact => ?_, fun h => nomatch h⟩
        exact absurd (hexact.2 _ rfl).head (h.not_exact_alloc size)

end

theorem alloc_copy_discard_admissible :
    Runs.Meets frameStep (fun s op => op.Admissible s) {}
      [.alloc 8, .copy 0, .discard 2] := by
  refine ⟨trivial, ?_⟩
  intro s₁ h₁
  cases h₁
  refine ⟨by show FrameOp.Admissible _ _; decide, ?_⟩
  intro s₂ h₂
  cases h₂
  exact ⟨by show FrameOp.Admissible _ _; decide, fun _ _ => trivial⟩

/-- A frame that is allocated, copied and discarded. -/
theorem counters_exact_iff_nil_copy :
    (∃ s', Runs.run frameStep {} [.alloc 8, .copy 0, .discard 2] = some s') ∧
      (Runs.Always frameStep FrameRun.Exact {} [.alloc 8, .copy 0, .discard 2] ↔
        [FrameOp.alloc 8, .copy 0, .discard 2] = []) :=
  counters_exact_iff_nil ⟨fun _ => rfl, rfl, rfl⟩ alloc_copy_discard_admissible

/-- Discarding the copy frees the payload that the first descriptor still has. -/
theorem copy_discard_frees_live_payload :
    Runs.Meets frameStep (fun s op => op.Admissible s) {}
        [.alloc 8, .copy 0, .discard 2] ∧
      ∃ s, Runs.run frameStep {} [.alloc 8, .copy 0, .discard 2] = some s ∧
      s.live = [0] ∧ (s.mem.frame 0).data.block = some 1 ∧ 1 ∈ s.mem.heap.frees ∧
      ¬ s.Exact := by
  refine ⟨alloc_copy_discard_admissible, _, rfl, by decide, by decide, by decide, ?_⟩
  intro hexact
  have := (hexact { block := some 1, offset := 8 } (by decide) 1 rfl).2
  revert this
  decide

end XcanRouter
