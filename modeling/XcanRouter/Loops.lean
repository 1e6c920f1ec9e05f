import XcanRouter.Pool
import XcanRouter.QueueFifo

/-!
# The device loops (xcan_device.c)

`devloop_in` hands received frames to the data link layer, `devloop_out` sends
queued frames, both on a score that a whole pass over the pool shares.
-/

namespace XcanRouter

open LinkedChain

variable {W : Type}

/-- `xcan_router_receive`: the router prints a message and drops its pointer
to the frame. -/
def xcanRouterReceive (_f : Ptr) : Prog (Stack W) Int := return 0

/-- `xcan_datalink_receive` -/
def xcanDatalinkReceive (f : Ptr) : Prog (Stack W) Int := xcanRouterReceive f

/-- Record that `devloop_in(dev, ...)` calls `xcan_datalink_receive(f)`. -/
def noteHanded (dev f : Ptr) : Prog (Stack W) Unit :=
  Prog.modify fun s => { s with handed := s.handed ++ [(dev, f)] }

/-- The loop of `devloop_in` on a device. -/
def devloopInWhile (dev : Ptr) : Nat → Int → Prog (Stack W) Int
  | 0, _ => Prog.diverge
  | fuel + 1, loopScore =>
    if 0 < loopScore then do
      if (← load (← load (some dev) DeviceField.qIn) QueueField.frames) = 0 then
        return loopScore
      match ← xcanDequeue (← load (some dev) DeviceField.qIn) with
      -- the counter and the head disagree: the loop tries again
      | none => devloopInWhile dev fuel loopScore
      | some f =>
        noteHanded dev f
        let _ ← xcanDatalinkReceive f
        devloopInWhile dev fuel (loopScore - 1)
    else
      return loopScore

/-- `devloop_in` -/
def devloopIn (fuel : Nat) (dev : Option Ptr) (loopScore : Int) :
    Prog (Stack W) Int :=
  match dev with
  | none => return loopScore
  | some dev => devloopInWhile dev fuel loopScore

/-- `dev->send(dev, f->id, f->flags, f->data, f->len)`: the 16-bit length of
the frame becomes an 8-bit argument. A call through `NULL` does not return. -/
def callSend (drv : Drivers W) (dev f : Ptr) : Prog (Stack W) Int := do
  let send ← load (some dev) DeviceField.send
  let id ← load (some f) FrameField.id
  let flags ← load (some f) FrameField.flags
  let data ← load (some f) FrameField.data
  let len ← load (some f) FrameField.len
  match send with
  | none => Prog.diverge
  | some cb => do
    let s ← Prog.state
    let r := drv.send cb dev id flags data len.toUInt8 s.mem s.world
    Prog.modify fun s =>
      { s with
        world := r.2
        sends := s.sends ++ [⟨dev, f, len.toUInt8, r.1⟩] }
    return r.1

/-- The loop of `devloop_out` on a device. -/
def devloopOutWhile (drv : Drivers W) (dev : Ptr) : Nat → Int → Prog (Stack W) Int
  | 0, _ => Prog.diverge
  | fuel + 1, loopScore =>
    if 0 < loopScore then do
      if (← load (← load (some dev) DeviceField.qOut) QueueField.frames) = 0 then
        return loopScore
      match ← xcanQueuePeek (← load (some dev) DeviceField.qOut) with
      | none => return loopScore
      | some f =>
        if (← callSend drv dev f) = 0 then
          xcanFrameDiscard (← xcanDequeue (← load (some dev) DeviceField.qOut))
          devloopOutWhile drv dev fuel (loopScore - 1)
        else
          -- the frame was only peeked at, and stays queued
          return loopScore
    else
      return loopScore

/-- `devloop_out` -/
def devloopOut (drv : Drivers W) (fuel : Nat) (dev : Option Ptr)
    (loopScore : Int) : Prog (Stack W) Int :=
  match dev with
  | none => return loopScore
  | some dev => devloopOutWhile drv dev fuel loopScore

/-- `for(int i = 0 ; i < XCAN_MAX_DEVICES ; i++) loop_score =
body(devices[i], loop_score);`, on the slots that are left. -/
def forDevices (body : Option Ptr → Int → Prog (Stack W) Int) :
    List Nat → Int → Prog (Stack W) Int
  | [], loopScore => return loopScore
  | i :: is, loopScore => do
      forDevices body is (← body (← deviceSlot i) loopScore)

/-- The outer loop of `xcan_devices_loop`. -/
def xcanDevicesLoopWhile (drv : Drivers W) (fuel : Nat) (direction : Int) :
    Nat → Int → Prog (Stack W) Int
  | 0, _ => Prog.diverge
  | n + 1, loopScore =>
    if 0 < loopScore then do
      let loopScore ←
        if direction = 0 then
          forDevices (devloopIn fuel) (List.range xcanMaxDevices) loopScore
        else if direction = 1 then
          forDevices (devloopOut drv fuel) (List.range xcanMaxDevices) loopScore
        else
          pure loopScore
      -- each pass costs one, so the loop only ends without score
      xcanDevicesLoopWhile drv fuel direction n (loopScore - 1)
    else
      return loopScore

/-- `xcan_devices_loop` -/
def xcanDevicesLoop (drv : Drivers W) (fuel : Nat) (loopScore direction : Int) :
    Prog (Stack W) Int :=
  xcanDevicesLoopWhile drv fuel direction fuel loopScore

def xcanLoopDirIn : Int := 0

def xcanLoopDirOut : Int := 1

/-! ## The turns of the loops -/

section
variable {drv : Drivers W} {fuel n : Nat} {score score₁ : Int} {s s₁ : Stack W}

theorem forDevices_cons {body : Option Ptr → Int → Prog (Stack W) Int} {i : Nat} {is : List Nat}
    (hbody : body (s.devices i) score s = some (score₁, s₁)) :
    forDevices body (i :: is) score s = forDevices body is score₁ s₁ := by
  rw [forDevices, Prog.bind_apply, deviceSlot_apply, Option.bind_some, Prog.bind_apply, hbody,
    Option.bind_some]

theorem xcanDevicesLoopWhile_nonpos {direction : Int} (hscore : ¬ 0 < score) :
    xcanDevicesLoopWhile drv fuel direction (n + 1) score s = some (score, s) := by
  rw [xcanDevicesLoopWhile, if_neg hscore]
  rfl

/-- A pass in direction IN, and the one it costs. -/
theorem xcanDevicesLoopWhile_in (hpos : 0 < score)
    (hpass : forDevices (devloopIn fuel) (List.range xcanMaxDevices) score s =
      some (score₁, s₁)) :
    xcanDevicesLoopWhile drv fuel xcanLoopDirIn (n + 1) score s =
      xcanDevicesLoopWhile drv fuel xcanLoopDirIn n (score₁ - 1) s₁ := by
  have hdir : xcanLoopDirIn = 0 := rfl
  rw [xcanDevicesLoopWhile, if_pos hpos, if_pos hdir, Prog.bind_apply, hpass, Option.bind_some]

/-- A pass in direction OUT, and the one it costs. -/
theorem xcanDevicesLoopWhile_out (hpos : 0 < score)
    (hpass : forDevices (devloopOut drv fuel) (List.range xcanMaxDevices) score s =
      some (score₁, s₁)) :
    xcanDevicesLoopWhile drv fuel xcanLoopDirOut (n + 1) score s =
      xcanDevicesLoopWhile drv fuel xcanLoopDirOut n (score₁ - 1) s₁ := by
  have hin : xcanLoopDirOut ≠ 0 := by decide
  have hout : xcanLoopDirOut = 1 := rfl
  rw [xcanDevicesLoopWhile, if_pos hpos, if_neg hin, if_pos hout, Prog.bind_apply, hpass,
    Option.bind_some]

end

end XcanRouter
