import XcanRouter.SocketCan
import XcanRouter.Base.Runs
import XcanRouter.Base.Slots

/-!
# The registry of devices

Runs of `xcan_device_init` and `xcan_device_destroy`. The number of a slot is
kept twice, as the index into `devices[]` and in the device. Neither function
looks at what a slot holds before it writes to it.
-/

namespace XcanRouter

open Slots

variable {W : Type}

inductive RegistryEvent where
  | init (dev : Ptr) (id : UInt8) (name : List UInt8)
  | destroy (dev : Ptr)
deriving DecidableEq, Repr

def RegistryEvent.dev : RegistryEvent → Ptr
  | .init dev _ _ => dev
  | .destroy dev => dev

structure Registry (W : Type) where
  stack : Stack W
  /-- The devices that were initialised with success and not destroyed since. -/
  held : Ptr → Bool := fun _ => false
  /-- The devices whose last init returned 0 and that were not destroyed since. -/
  destroyable : Ptr → Bool := fun _ => false

def registryStep (drv : Drivers W) (s : Registry W) :
    RegistryEvent → Option (Registry W)
  | .init dev id name =>
      (xcanDeviceInit dev id name s.stack).map fun (r : Int × Stack W) =>
        { stack := r.2
          held := if r.1 = 0 then Function.update s.held dev true else s.held
          destroyable := Function.update s.destroyable dev (r.1 = 0) }
  | .destroy dev =>
      (xcanDeviceDestroy drv dev s.stack).map fun r =>
        { stack := r.2
          held := Function.update s.held dev false
          destroyable := Function.update s.destroyable dev false }

/-- The allocations of an init succeed; only a device that may be destroyed is
destroyed. -/
def RegistryEvent.Admissible (s : Registry W) : RegistryEvent → Prop
  | .init _ _ _ => s.stack.mem.heap.oom s.stack.mem.heap.calls = false ∧
      s.stack.mem.heap.oom (s.stack.mem.heap.calls + 1) = false
  | .destroy dev => s.destroyable dev = true

/-- Every slot holds a device with the number of the slot, and every device
that is held is in exactly one slot. -/
structure Registered (s : Registry W) : Prop where
  ids : ∀ i d, i < xcanMaxDevices → s.stack.devices i = some d →
    (s.stack.mem.device d).id.toNat = i
  slots : ∀ d, s.held d = true → ∃! i, i < xcanMaxDevices ∧ s.stack.devices i = some d

/-- The devices other than `dev` that are in the pool `s` are in the pool `s'`. -/
def KeepsOthers (dev : Ptr) (s s' : Registry W) : Prop :=
  ∀ d, d ≠ dev → (∃ i < xcanMaxDevices, s.stack.devices i = some d) →
    ∃ i < xcanMaxDevices, s'.stack.devices i = some d

/-- The `destroy` of a device leaves the numbers of the other devices alone. -/
def DestroyLeaves (drv : Drivers W) : Prop :=
  ∀ cb dev m w d, d ≠ dev →
    ((drv.destroy cb dev m w).1.device d).id = (m.device d).id

/-- The SocketCAN driver does. -/
theorem socketcanDrivers_leaves {rest : Drivers Bus} (h : DestroyLeaves rest) :
    DestroyLeaves (socketcanDrivers rest) := by
  intro cb dev m w d hd
  cases cb with
  | xcanSocketcanDestroy => rfl
  | prvLinkState | prvSend | prvPoll | other => exact h _ dev m w d hd

/-! ## The functions -/

section
variable {dev : Ptr} {id : UInt8} {name : List UInt8} {s : Stack W}

theorem xcanDeviceInit_rejected (h : xcanMaxDevices ≤ id.toNat) :
    xcanDeviceInit dev id name s = some (-1, s) := by
  simp [xcanDeviceInit, h]

theorem xcanDeviceInit_registered (dev : Ptr) (name : List UInt8)
    (h : id.toNat < xcanMaxDevices)
    (hin : s.mem.heap.oom s.mem.heap.calls = false)
    (hout : s.mem.heap.oom (s.mem.heap.calls + 1) = false) :
    ∃ s', xcanDeviceInit dev id name s = some (0, s') ∧
      s'.devices = Function.update s.devices id.toNat (some dev) ∧
      (fun d => (s'.mem.device d).id.toNat) =
        Function.update (fun d => (s.mem.device d).id.toNat) dev id.toNat := by
  have hid : ¬ xcanMaxDevices ≤ id.toNat := Nat.not_le_of_lt h
  cases hrun : xcanDeviceInit dev id name s with
  | none =>
      simp [xcanDeviceInit, hid, hin, hout, Stored.put, DeviceField.id, DeviceField.name,
        DeviceField.qIn, DeviceField.qOut] at hrun
  | some r =>
      simp [xcanDeviceInit, hid, hin, hout, Stored.put, DeviceField.id, DeviceField.name,
        DeviceField.qIn, DeviceField.qOut] at hrun
      subst hrun
      refine ⟨_, rfl, rfl, ?_⟩
      ext d
      by_cases hd : d = dev
      · subst hd
        simp
      · simp [hd]

theorem xcanDeviceDestroy_removes {drv : Drivers W} (hdrv : DestroyLeaves drv)
    {r : Unit × Stack W} (hrun : xcanDeviceDestroy drv dev s = some r) :
    r.2.devices = Function.update s.devices (s.mem.device dev).id.toNat none ∧
      ∀ d, d ≠ dev → (r.2.mem.device d).id = (s.mem.device d).id := by
  cases hcb : (s.mem.device dev).destroy with
  | none =>
      simp [xcanDeviceDestroy, callDestroy, DeviceField.id, DeviceField.destroy, hcb]
        at hrun
  | some cb =>
      simp [xcanDeviceDestroy, callDestroy, DeviceField.id, DeviceField.destroy, hcb]
        at hrun
      subst hrun
      exact ⟨rfl, fun d hd => hdrv cb dev _ _ d hd⟩

end

/-! ## Runs -/

/-- The numbers that the devices carry. -/
def Registry.idOf (s : Registry W) (d : Ptr) : Nat := (s.stack.mem.device d).id.toNat

structure RegistryInv (s : Registry W) : Prop where
  labelled : Labelled s.stack.devices s.idOf
  inRange : ∀ i d, s.stack.devices i = some d → i < xcanMaxDevices
  held : ∀ d, s.held d = true ↔ Member s.stack.devices d
  destroyable : ∀ d, s.destroyable d = true → s.held d = true

/-- An init writes to a slot that is free or holds its device already, and its
device is in no other slot. -/
def FreeSlot (s : Registry W) : RegistryEvent → Prop
  | .init dev id _ => id.toNat < xcanMaxDevices →
      (∀ d, s.stack.devices id.toNat = some d → d = dev) ∧
      ∀ j, j < xcanMaxDevices → s.stack.devices j = some dev → j = id.toNat
  | .destroy _ => True

section
variable {drv : Drivers W} {s s' s₀ : Registry W} {e : RegistryEvent}
  {es : List RegistryEvent} {dev : Ptr} {id : UInt8} {name : List UInt8}

theorem RegistryInv.member_iff (h : RegistryInv s) {d : Ptr} :
    Member s.stack.devices d ↔ ∃ i < xcanMaxDevices, s.stack.devices i = some d :=
  exists_congr fun i => ⟨fun hi => ⟨h.inRange i d hi, hi⟩, fun hi => hi.2⟩

theorem RegistryInv.registered (h : RegistryInv s) : Registered s where
  ids i d _ hi := h.labelled i d hi
  slots d hd := by
    obtain ⟨i, hi⟩ := (h.held d).mp hd
    exact ⟨i, ⟨h.inRange i d hi, hi⟩, fun j hj => h.labelled.unique hj.2 hi⟩

/-- What an init in range does. -/
theorem registryStep_init (drv : Drivers W) (hid : id.toNat < xcanMaxDevices)
    (hadm : (RegistryEvent.init dev id name).Admissible s) :
    ∃ s', registryStep drv s (.init dev id name) = some s' ∧
      s'.stack.devices = Function.update s.stack.devices id.toNat (some dev) ∧
      s'.idOf = Function.update s.idOf dev id.toNat ∧
      s'.held = Function.update s.held dev true ∧
      s'.destroyable = Function.update s.destroyable dev true := by
  obtain ⟨s', hrun, hdevices, hids⟩ :=
    xcanDeviceInit_registered dev name hid hadm.1 hadm.2
  refine ⟨⟨s', Function.update s.held dev true, Function.update s.destroyable dev true⟩,
    ?_, hdevices, hids, rfl, rfl⟩
  rw [registryStep, hrun]
  simp

theorem RegistryInv.init (h : RegistryInv s) (hid : id.toNat < xcanMaxDevices)
    (hadm : (RegistryEvent.init dev id name).Admissible s)
    (hfree : FreeSlot s (.init dev id name))
    (hstep : registryStep drv s (.init dev id name) = some s') :
    RegistryInv s' ∧ KeepsOthers dev s s' := by
  obtain ⟨s₁, hstep₁, hdevices, hids, hheld, hdestroyable⟩ :=
    registryStep_init drv hid hadm
  cases hstep₁.symm.trans hstep
  obtain ⟨hslot, hother⟩ := hfree hid
  have hmember : ∀ d, Member s'.stack.devices d ↔ d = dev ∨ Member s.stack.devices d :=
    fun d => by rw [hdevices, member_insert hslot]
  have hinv : RegistryInv s' := by
    constructor
    case labelled =>
      rw [hdevices, hids]
      exact h.labelled.insert_iff.mpr fun j hj => hother j (h.inRange j dev hj) hj
    case inRange =>
      intro i d hi
      rw [hdevices] at hi
      rcases update_eq_some hi with ⟨rfl, -⟩ | ⟨-, hi⟩
      · exact hid
      · exact h.inRange i d hi
    case held =>
      intro d
      rw [hmember, hheld]
      by_cases hd : d = dev
      · simp [hd]
      · simp [hd, h.held d]
    case destroyable =>
      intro d hd
      rw [hdestroyable] at hd
      rw [hheld]
      by_cases hdev : d = dev
      · simp [hdev]
      · rw [Function.update_of_ne hdev] at hd ⊢
        exact h.destroyable d hd
  refine ⟨hinv, fun d _ hd => hinv.member_iff.mp ?_⟩
  exact (hmember d).mpr (.inr (h.member_iff.mpr hd))

/-- An init that fails. -/
theorem RegistryInv.init_rejected (h : RegistryInv s) (hid : xcanMaxDevices ≤ id.toNat)
    (hstep : registryStep drv s (.init dev id name) = some s') :
    RegistryInv s' ∧ KeepsOthers dev s s' := by
  rw [registryStep, xcanDeviceInit_rejected hid] at hstep
  cases hstep
  refine ⟨⟨h.labelled, h.inRange, h.held, fun d hd => h.destroyable d ?_⟩,
    fun d _ hd => hd⟩
  by_cases hdev : d = dev
  · simp [hdev] at hd
  · simpa [hdev] using hd

theorem RegistryInv.destroy (hdrv : DestroyLeaves drv) (h : RegistryInv s)
    (hadm : (RegistryEvent.destroy dev).Admissible s)
    (hstep : registryStep drv s (.destroy dev) = some s') :
    RegistryInv s' ∧ KeepsOthers dev s s' := by
  obtain ⟨i, hi⟩ := (h.held dev).mp (h.destroyable dev hadm)
  obtain ⟨r, hrun, hs'⟩ := Option.map_eq_some_iff.mp hstep
  obtain ⟨hdevices, hids⟩ := xcanDeviceDestroy_removes hdrv hrun
  have hslot : (s.stack.mem.device dev).id.toNat = i := h.labelled i dev hi
  rw [hslot] at hdevices
  subst hs'
  have hmember : ∀ d, Member r.2.devices d ↔ d ≠ dev ∧ Member s.stack.devices d :=
    fun d => by rw [hdevices, h.labelled.member_erase hi]
  have hinv : RegistryInv ⟨r.2, Function.update s.held dev false,
      Function.update s.destroyable dev false⟩ := by
    constructor
    case labelled =>
      show Labelled r.2.devices _
      rw [hdevices]
      -- the number of `dev` may change, but `dev` is in no slot any more
      apply h.labelled.erase.congr
      intro d hd
      rw [← hdevices, hmember] at hd
      exact congrArg UInt8.toNat (hids d hd.1)
    case inRange =>
      intro j d hj
      change r.2.devices j = some d at hj
      rw [hdevices] at hj
      rcases update_eq_some hj with ⟨-, hd⟩ | ⟨-, hj⟩
      · cases hd
      · exact h.inRange j d hj
    case held =>
      intro d
      show Function.update s.held dev false d = true ↔ Member r.2.devices d
      rw [hmember]
      by_cases hd : d = dev
      · simp [hd]
      · simp [hd, h.held d]
    case destroyable =>
      intro d hd
      change Function.update s.destroyable dev false d = true at hd
      show Function.update s.held dev false d = true
      by_cases hdev : d = dev
      · simp [hdev] at hd
      · rw [Function.update_of_ne hdev] at hd ⊢
        exact h.destroyable d hd
  refine ⟨hinv, fun d hne hd => hinv.member_iff.mp ?_⟩
  exact (hmember d).mpr ⟨hne, h.member_iff.mpr hd⟩

/-- **The step lemma**: with the slot free, both functions keep the registry
and the other devices in it. -/
theorem RegistryInv.step (hdrv : DestroyLeaves drv) (h : RegistryInv s)
    (hadm : e.Admissible s) (hfree : FreeSlot s e) (hstep : registryStep drv s e = some s') :
    RegistryInv s' ∧ KeepsOthers e.dev s s' := by
  cases e with
  | init dev id name =>
      by_cases hid : id.toNat < xcanMaxDevices
      · exact h.init hid hadm hfree hstep
      · exact h.init_rejected (Nat.le_of_not_lt hid) hstep
  | destroy dev => exact h.destroy hdrv hadm hstep

/-- **An init without a free slot breaks the registry.** -/
theorem RegistryInv.not_registered (h : RegistryInv s) (hadm : e.Admissible s)
    (hfree : ¬ FreeSlot s e) :
    ∃ s', registryStep drv s e = some s' ∧ ¬ Registered s' := by
  cases e with
  | destroy dev => exact absurd trivial hfree
  | init dev id name =>
      obtain ⟨hid, hfree⟩ := Classical.not_imp.mp hfree
      obtain ⟨s', hstep, hdevices, hids, hheld, -⟩ := registryStep_init drv hid hadm
      refine ⟨s', hstep, fun hreg => hfree ⟨fun d hd => ?_, fun j hj hdev => ?_⟩⟩
      -- another device was in the slot: it is held, and in no slot now
      · by_contra hne
        obtain ⟨i, ⟨-, hi⟩, -⟩ := hreg.slots d (by
          rw [hheld, Function.update_of_ne hne]
          exact (h.held d).mpr ⟨_, hd⟩)
        rw [hdevices] at hi
        exact h.labelled.not_member_insert hd hne ⟨i, hi⟩
      -- the device was in another slot: its number does not fit there now
      · by_contra hne
        have hlabel := hreg.ids j dev hj (by
          rw [hdevices, Function.update_of_ne hne, hdev])
        have hself : s'.idOf dev = id.toNat := by rw [hids, Function.update_self]
        exact hne (hlabel.symm.trans hself)

/-- The registry before the first call. -/
structure Registry.Start (s : Registry W) : Prop where
  devices : ∀ i, s.stack.devices i = none
  held : ∀ d, s.held d = false
  destroyable : ∀ d, s.destroyable d = false

theorem Registry.Start.inv (h : s.Start) : RegistryInv s where
  labelled i d hi := by simp [h.devices] at hi
  inRange i d hi := by simp [h.devices] at hi
  held d := by simp [h.held, Member, h.devices]
  destroyable d hd := by simp [h.destroyable] at hd

/-- **The registry is consistent in exactly the runs whose inits find their
slot free.** -/
theorem registered_iff_free_slots (hdrv : DestroyLeaves drv) (h₀ : s₀.Start)
    (hadm : Runs.Meets (registryStep drv) (fun s e => e.Admissible s) s₀ es) :
    (Runs.Always (registryStep drv) Registered s₀ es ∧
      Runs.Meets (registryStep drv)
        (fun s e => ∀ s', registryStep drv s e = some s' → KeepsOthers e.dev s s') s₀ es) ↔
      Runs.Meets (registryStep drv) FreeSlot s₀ es := by
  have hiff : Runs.Always (registryStep drv) Registered s₀ es ↔
      Runs.Meets (registryStep drv) FreeSlot s₀ es :=
    Runs.always_iff_meets (fun s h => h.registered)
      (fun s e s' h hadm hfree hstep => (h.step hdrv hadm hfree hstep).1)
      (fun s e h hadm hfree => h.not_registered hadm hfree) h₀.inv hadm
  refine ⟨fun h => hiff.mp h.1, fun h => ⟨hiff.mpr h, ?_⟩⟩
  exact Runs.meets_of_inv (fun s e s' h hadm hfree hstep => (h.step hdrv hadm hfree hstep).1)
    (fun s e h hadm hfree s' hstep => (h.step hdrv hadm hfree hstep).2) h₀.inv hadm h

end

/-- SocketCAN devices, none of them initialised. -/
def emptyRegistry : Registry Bus where
  stack :=
    { mem := { device := fun _ => { destroy := some .xcanSocketcanDestroy } }
      world := {} }

theorem emptyRegistry_start : emptyRegistry.Start :=
  ⟨fun _ => rfl, fun _ => rfl, fun _ => rfl⟩

/-- A device is initialised and destroyed. -/
theorem registered_iff_free_slots_one_device :
    (Runs.Always (registryStep (socketcanDrivers noOtherDrivers)) Registered emptyRegistry
        [.init 1 0 [], .destroy 1] ∧
      Runs.Meets (registryStep (socketcanDrivers noOtherDrivers))
        (fun s e => ∀ s', registryStep (socketcanDrivers noOtherDrivers) s e = some s' →
          KeepsOthers e.dev s s') emptyRegistry [.init 1 0 [], .destroy 1]) ↔
      Runs.Meets (registryStep (socketcanDrivers noOtherDrivers)) FreeSlot emptyRegistry
        [.init 1 0 [], .destroy 1] := by
  refine registered_iff_free_slots (socketcanDrivers_leaves fun _ _ _ _ _ _ => rfl)
    emptyRegistry_start ⟨⟨rfl, rfl⟩, fun s hs => ⟨?_, fun _ _ => trivial⟩⟩
  cases hs
  rfl

/-- A second device is initialised with the number of the first. -/
theorem second_init_evicts :
    Runs.Meets (registryStep (socketcanDrivers noOtherDrivers)) (fun s e => e.Admissible s)
        emptyRegistry [.init 1 0 [], .init 2 0 []] ∧
      ∃ s, Runs.run (registryStep (socketcanDrivers noOtherDrivers)) emptyRegistry
        [.init 1 0 [], .init 2 0 []] = some s ∧ ¬ Registered s := by
  have hadm : Runs.Meets (registryStep (socketcanDrivers noOtherDrivers))
      (fun s e => e.Admissible s) emptyRegistry [.init 1 0 [], .init 2 0 []] := by
    refine ⟨⟨rfl, rfl⟩, fun s hs => ⟨?_, fun _ _ => trivial⟩⟩
    cases hs
    exact ⟨rfl, rfl⟩
  refine ⟨hadm, _, rfl, ?_⟩
  intro h
  obtain ⟨i, ⟨-, hi⟩, -⟩ := h.slots 1 rfl
  rcases i with _ | i
  · exact absurd hi (by decide)
  · cases hi

end XcanRouter
