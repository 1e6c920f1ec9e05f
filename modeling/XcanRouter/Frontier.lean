import XcanRouter.Base.Leaves
import XcanRouter.Loops

/-!
# What the loops leave alone

The loops of `xcan_device.c` allocate nothing and do not write to device
structures.
-/

namespace XcanRouter

variable {W : Type}

/-- The next block, and the device structures. -/
def Mem.frontier (m : Mem) : Nat × (Ptr → XcanDevice) := (m.heap.brk, m.device)

/-- A statement that leaves them alone. -/
def MemOp.LeavesFrontier {α : Type} (x : MemOp α) : Prop :=
  ∀ m, (x m).2.frontier = m.frontier

section
variable {α β S : Type} [Stored S]

theorem leavesFrontier_pure (a : α) : (pure a : MemOp α).LeavesFrontier := fun _ => rfl

theorem MemOp.LeavesFrontier.bind {x : MemOp α} {k : α → MemOp β} (hx : x.LeavesFrontier)
    (hk : ∀ a, (k a).LeavesFrontier) : (x >>= k).LeavesFrontier :=
  fun m => (hk _ _).trans (hx m)

theorem MemOp.LeavesFrontier.ite {c : Prop} [Decidable c] {x y : MemOp α}
    (hx : x.LeavesFrontier) (hy : y.LeavesFrontier) :
    (if c then x else y).LeavesFrontier := by
  split
  · exact hx
  · exact hy

theorem leavesFrontier_load (p : Option Ptr) (x : Field S α) :
    (load p x).LeavesFrontier := fun _ => rfl

theorem leavesFrontier_loadByte (p : BytePtr) : (loadByte p).LeavesFrontier := fun _ => rfl

theorem leavesFrontier_storeByte (p : BytePtr) (v : UInt8) :
    (storeByte p v).LeavesFrontier := by
  intro m
  unfold storeByte memcpy
  cases p.block <;> rfl

theorem leavesFrontier_store_frame (p : Option Ptr) (x : Field XcanFrame α) (v : α) :
    (store p x v).LeavesFrontier := by
  intro m
  cases p <;> rfl

theorem leavesFrontier_store_queue (p : Option Ptr) (x : Field XcanQueue α) (v : α) :
    (store p x v).LeavesFrontier := by
  intro m
  cases p <;> rfl

theorem leavesFrontier_xcanFree (p : Option Ptr) : (xcanFree p).LeavesFrontier := by
  intro m
  cases p <;> rfl

theorem leavesFrontier_noteDiscard (f : Ptr) : (noteDiscard f).LeavesFrontier := fun _ => rfl

end

theorem leavesFrontier_xcanFrameDiscard (f : Option Ptr) :
    (xcanFrameDiscard f).LeavesFrontier := by
  cases f with
  | none => exact leavesFrontier_pure ()
  | some f =>
      apply (leavesFrontier_noteDiscard f).bind
      intro _
      apply (leavesFrontier_load _ _).bind
      intro count
      apply (leavesFrontier_loadByte count).bind
      intro v
      apply (leavesFrontier_storeByte count _).bind
      intro _
      apply (leavesFrontier_load _ _).bind
      intro count
      apply (leavesFrontier_loadByte count).bind
      intro v
      apply MemOp.LeavesFrontier.ite
      · apply (leavesFrontier_load _ _).bind
        intro data
        apply (leavesFrontier_xcanFree _).bind
        intro _
        exact leavesFrontier_xcanFree _
      · exact leavesFrontier_pure ()

theorem leavesFrontier_xcanQueuePeek (q : Option Ptr) : (xcanQueuePeek q).LeavesFrontier := by
  apply (leavesFrontier_load _ _).bind
  intro f
  apply (leavesFrontier_load _ _).bind
  intro frames
  exact (leavesFrontier_pure none).ite (leavesFrontier_pure f)

theorem leavesFrontier_xcanDequeue (q : Option Ptr) : (xcanDequeue q).LeavesFrontier := by
  apply (leavesFrontier_load _ _).bind
  intro head
  cases head with
  | none => exact leavesFrontier_pure none
  | some f =>
      apply (leavesFrontier_load _ _).bind
      intro frames
      apply MemOp.LeavesFrontier.ite
      · exact leavesFrontier_pure none
      apply (leavesFrontier_load _ _).bind
      intro next
      apply (leavesFrontier_store_queue _ _ _).bind
      intro _
      apply (leavesFrontier_load _ _).bind
      intro frames
      apply (leavesFrontier_store_queue _ _ _).bind
      intro _
      apply (leavesFrontier_load _ _).bind
      intro head
      have hrest : (do
          store (some f) FrameField.next none
          return some f : MemOp (Option Ptr)).LeavesFrontier := by
        apply (leavesFrontier_store_frame _ _ _).bind
        intro _
        exact leavesFrontier_pure _
      apply MemOp.LeavesFrontier.ite
      · apply (leavesFrontier_store_queue _ _ _).bind
        intro _
        exact hrest
      · exact hrest

/-! ## The loops -/

def Stack.frontier (s : Stack W) : Nat × (Ptr → XcanDevice) := s.mem.frontier

theorem leaves_liftM {α : Type} {x : MemOp α} (hx : x.LeavesFrontier) :
    (liftM x : Prog (Stack W) α).Leaves Stack.frontier := by
  intro s a s' h
  cases h
  exact hx s.mem

theorem leaves_callSend (drv : Drivers W) (dev f : Ptr) :
    (callSend drv dev f).Leaves Stack.frontier := by
  apply (leaves_liftM (leavesFrontier_load _ _)).bind
  intro send
  apply (leaves_liftM (leavesFrontier_load _ _)).bind
  intro id
  apply (leaves_liftM (leavesFrontier_load _ _)).bind
  intro flags
  apply (leaves_liftM (leavesFrontier_load _ _)).bind
  intro data
  apply (leaves_liftM (leavesFrontier_load _ _)).bind
  intro len
  cases send with
  | none => exact Prog.leaves_diverge
  | some cb =>
      apply Prog.leaves_state.bind
      intro s
      apply Prog.Leaves.bind
      · apply Prog.leaves_modify
        intro _
        rfl
      · intro _
        exact Prog.leaves_pure _

theorem leaves_devloopInWhile (dev : Ptr) (fuel : Nat) (loopScore : Int) :
    (devloopInWhile dev fuel loopScore : Prog (Stack W) Int).Leaves Stack.frontier := by
  induction fuel generalizing loopScore with
  | zero => exact Prog.leaves_diverge
  | succ fuel ih =>
      unfold devloopInWhile
      apply Prog.Leaves.ite
      swap
      · exact Prog.leaves_pure _
      apply (leaves_liftM (leavesFrontier_load _ _)).bind
      intro q
      apply (leaves_liftM (leavesFrontier_load _ _)).bind
      intro frames
      apply Prog.Leaves.ite
      · exact Prog.leaves_pure _
      apply (leaves_liftM (leavesFrontier_load _ _)).bind
      intro q
      apply (leaves_liftM (leavesFrontier_xcanDequeue q)).bind
      intro f
      cases f with
      | none => exact ih loopScore
      | some f =>
          have hnote : (noteHanded dev f : Prog (Stack W) Unit).Leaves Stack.frontier := by
            apply Prog.leaves_modify
            intro _
            rfl
          apply hnote.bind
          intro _
          apply (Prog.leaves_pure 0).bind
          intro _
          exact ih (loopScore - 1)

theorem leaves_devloopOutWhile (drv : Drivers W) (dev : Ptr) (fuel : Nat) (loopScore : Int) :
    (devloopOutWhile drv dev fuel loopScore).Leaves Stack.frontier := by
  induction fuel generalizing loopScore with
  | zero => exact Prog.leaves_diverge
  | succ fuel ih =>
      unfold devloopOutWhile
      apply Prog.Leaves.ite
      swap
      · exact Prog.leaves_pure _
      apply (leaves_liftM (leavesFrontier_load _ _)).bind
      intro q
      apply (leaves_liftM (leavesFrontier_load _ _)).bind
      intro frames
      apply Prog.Leaves.ite
      · exact Prog.leaves_pure _
      apply (leaves_liftM (leavesFrontier_load _ _)).bind
      intro q
      apply (leaves_liftM (leavesFrontier_xcanQueuePeek q)).bind
      intro f
      cases f with
      | none => exact Prog.leaves_pure _
      | some f =>
          apply (leaves_callSend drv dev f).bind
          intro rc
          apply Prog.Leaves.ite
          swap
          · exact Prog.leaves_pure _
          apply (leaves_liftM (leavesFrontier_load _ _)).bind
          intro q
          apply (leaves_liftM (leavesFrontier_xcanDequeue q)).bind
          intro f
          apply (leaves_liftM (leavesFrontier_xcanFrameDiscard f)).bind
          intro _
          exact ih (loopScore - 1)

theorem leaves_forDevices {body : Option Ptr → Int → Prog (Stack W) Int}
    (hbody : ∀ dev loopScore, (body dev loopScore).Leaves Stack.frontier) (is : List Nat)
    (loopScore : Int) : (forDevices body is loopScore).Leaves Stack.frontier := by
  induction is generalizing loopScore with
  | nil => exact Prog.leaves_pure _
  | cons i is ih =>
      have hslot : (deviceSlot i : Prog (Stack W) (Option Ptr)).Leaves Stack.frontier := by
        intro s dev s' h
        cases h
        rfl
      apply hslot.bind
      intro dev
      apply (hbody dev loopScore).bind
      intro loopScore
      exact ih loopScore

theorem leaves_xcanDevicesLoop (drv : Drivers W) (fuel : Nat) (loopScore direction : Int) :
    (xcanDevicesLoop drv fuel loopScore direction).Leaves Stack.frontier := by
  have hin : ∀ (dev : Option Ptr) (loopScore : Int),
      (devloopIn fuel dev loopScore : Prog (Stack W) Int).Leaves Stack.frontier := by
    intro dev loopScore
    cases dev with
    | none => exact Prog.leaves_pure _
    | some dev => exact leaves_devloopInWhile dev fuel loopScore
  have hout : ∀ (dev : Option Ptr) (loopScore : Int),
      (devloopOut drv fuel dev loopScore).Leaves Stack.frontier := by
    intro dev loopScore
    cases dev with
    | none => exact Prog.leaves_pure _
    | some dev => exact leaves_devloopOutWhile drv dev fuel loopScore
  have hwhile : ∀ (n : Nat) (loopScore : Int),
      (xcanDevicesLoopWhile drv fuel direction n loopScore).Leaves Stack.frontier := by
    intro n
    induction n with
    | zero =>
        intro _
        exact Prog.leaves_diverge
    | succ n ih =>
        intro loopScore
        unfold xcanDevicesLoopWhile
        apply Prog.Leaves.ite
        swap
        · exact Prog.leaves_pure _
        have hnext : ∀ pass : Prog (Stack W) Int, pass.Leaves Stack.frontier →
            (pass >>= fun loopScore =>
              xcanDevicesLoopWhile drv fuel direction n (loopScore - 1)).Leaves
              Stack.frontier := by
          intro pass hpass
          apply hpass.bind
          intro loopScore
          exact ih (loopScore - 1)
        apply Prog.Leaves.ite
        · exact hnext _ (leaves_forDevices hin _ _)
        apply Prog.Leaves.ite
        · exact hnext _ (leaves_forDevices hout _ _)
        · exact hnext _ (Prog.leaves_pure _)
  exact hwhile fuel loopScore

end XcanRouter
