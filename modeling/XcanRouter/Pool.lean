import XcanRouter.Queue

/-!
# The device pool (xcan_device.c)

The state of a running stack is its memory, the array `devices[]` of
registered devices, and the world the drivers of the devices talk to. Beside
it stand the calls the stack has made or taken so far.
-/

namespace XcanRouter

/-- A call of `xcan_stack_recv`, with what it returned and the frame it
allocated. -/
structure RecvCall where
  dev : Ptr
  canId : UInt32
  flags : UInt8
  len : UInt8
  /-- The `len` bytes behind `data`. -/
  payload : List UInt8
  frame : Option Ptr
  rc : Int
deriving DecidableEq, Repr

/-- A call of a device's `send` for a frame, with what it returned. -/
structure SendCall where
  dev : Ptr
  frame : Ptr
  len : UInt8
  rc : Int
deriving DecidableEq, Repr

structure Stack (W : Type) where
  mem : Mem := {}
  /-- `devices[XCAN_MAX_DEVICES]`; indices from `xcanMaxDevices` on are not
  part of the array. -/
  devices : Nat → Option Ptr := fun _ => none
  world : W
  recvs : List RecvCall := []
  /-- The frames `devloop_in` handed to `xcan_datalink_receive`, each with the
  device it came from. -/
  handed : List (Ptr × Ptr) := []
  sends : List SendCall := []

/-- The code of the drivers: what a device's `send` and `destroy` do. A `send`
reads memory and works on the world only. -/
structure Drivers (W : Type) where
  send : Callback → Ptr → UInt32 → UInt8 → BytePtr → UInt8 → Mem → W → Int × W
  destroy : Callback → Ptr → Mem → W → Mem × W

variable {W : Type}

instance : MonadLift MemOp (Prog (Stack W)) :=
  ⟨fun x s => some ((x s.mem).1, { s with mem := (x s.mem).2 })⟩

@[simp] theorem liftM_stack_apply {α : Type} (x : MemOp α) (s : Stack W) :
    (liftM x : Prog (Stack W) α) s =
      some ((x s.mem).1, { s with mem := (x s.mem).2 }) := rfl

/-- `devices[i]` -/
def deviceSlot (i : Nat) : Prog (Stack W) (Option Ptr) :=
  fun s => some (s.devices i, s)

/-- `devices[i] = dev` -/
def setDeviceSlot (i : Nat) (dev : Option Ptr) : Prog (Stack W) Unit :=
  Prog.modify fun s => { s with devices := Function.update s.devices i dev }

@[simp] theorem deviceSlot_apply (i : Nat) (s : Stack W) :
    deviceSlot i s = some (s.devices i, s) := rfl

@[simp] theorem setDeviceSlot_apply (i : Nat) (dev : Option Ptr) (s : Stack W) :
    setDeviceSlot i dev s =
      some ((), { s with devices := Function.update s.devices i dev }) := rfl

/-- `strncpy`: at most `n` characters of a string, padded with zeros to `n`. -/
def strncpy (src : List UInt8) (n : Nat) : List UInt8 :=
  (src.takeWhile (· ≠ 0) ++ List.replicate n 0).take n

/-- `xcan_device_init` -/
def xcanDeviceInit (dev : Ptr) (id : UInt8) (name : List UInt8) :
    Prog (Stack W) Int := do
  if xcanMaxDevices ≤ id.toNat then
    return -1
  store (some dev) DeviceField.id id
  store (some dev) DeviceField.name (strncpy name xcanMaxDeviceName)
  store (some dev) DeviceField.qIn (← xcanZalloc XcanQueue sizeofXcanQueue)
  if (← load (some dev) DeviceField.qIn) = none then
    return -1
  store (some dev) DeviceField.qOut (← xcanZalloc XcanQueue sizeofXcanQueue)
  if (← load (some dev) DeviceField.qOut) = none then
    xcanFree (← load (some dev) DeviceField.qIn)
    return -1
  -- whatever the slot held before
  setDeviceSlot id.toNat (some dev)
  return 0

/-- `dev->destroy(dev)`; a call through `NULL` does not return. -/
def callDestroy (drv : Drivers W) (dev : Ptr) : Prog (Stack W) Unit := do
  match ← load (some dev) DeviceField.destroy with
  | none => Prog.diverge
  | some cb =>
    Prog.modify fun s =>
      { s with
        mem := (drv.destroy cb dev s.mem s.world).1
        world := (drv.destroy cb dev s.mem s.world).2 }

/-- `xcan_device_destroy` -/
def xcanDeviceDestroy (drv : Drivers W) (dev : Ptr) : Prog (Stack W) Unit := do
  setDeviceSlot (← load (some dev) DeviceField.id).toNat none
  callDestroy drv dev

end XcanRouter
