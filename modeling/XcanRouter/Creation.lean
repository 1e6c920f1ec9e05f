import XcanRouter.Registry
import XcanRouter.Rejection

/-!
# Creating a SocketCAN device

`xcan_socketcan_create` takes, in this order, a block for the device, a socket,
the index of the interface, the binding of the socket to it, and what
`xcan_device_init` takes: two blocks for the queues and a slot of the pool. Of
the steps after the first one, only the last gives back what the earlier ones
have taken. The name of the interface is copied into a local structure that has
room for 16 characters.
-/

namespace XcanRouter

/-- What the calls to the system return. -/
structure SocketApi where
  /-- `socket(...)` -/
  socket : Int := 3
  /-- The index that `ioctl(fd, SIOCGIFINDEX, &ifr)` stores in `ifr`; `none`
  when it fails. -/
  ioctl : Int → Bytes → Option UInt32 := fun _ _ => some 1
  /-- `bind(fd, &addr, ...)`, by the index in `addr`. -/
  bind : Int → UInt32 → Int := fun _ _ => 0

def sizeofXcanDeviceSocketcan : Nat := 80

/-- `strcpy(dst, src)` -/
def strcpy (dst : Bytes) (src : List UInt8) : Bytes :=
  dst.splice 0 ((src.takeWhile (· ≠ 0)).length + 1) fun i =>
    (src.takeWhile (· ≠ 0)).getD i 0

/-! `struct ifreq`: a name of 16 characters, and behind it the index. -/

namespace Ifreq

def ifindex (ifr : Bytes) : UInt32 :=
  (LittleEndian.ofBytes 4 fun i => (ifr (16 + i)).toNat).toUInt32

def setIfindex (ifr : Bytes) (index : UInt32) : Bytes :=
  ifr.splice 16 4 (Bytes.ofNat index.toNat)

end Ifreq

/-- The copy of the name, with its NUL, into `ifr.ifr_name`. -/
def nameCopy (name : List UInt8) : LocalCopy :=
  ⟨16, 0, (name.takeWhile (· ≠ 0)).length + 1⟩

/-- `xcan_socketcan_create` -/
def xcanSocketcanCreate (api : SocketApi) (id : UInt8) (name : List UInt8) :
    Prog (Stack Bus) (Option Ptr) := do
  match ← xcanZalloc XcanDevice sizeofXcanDeviceSocketcan with
  | none => return none
  | some sc =>
    store (some sc) DeviceField.fd api.socket
    if api.socket < 0 then
      return none
    -- a local structure, which is not initialised; any name is copied into it
    let ifr := strcpy (← Prog.state).world.stack name
    Prog.modify fun s => { s with world := s.world.copyLocal (nameCopy name) }
    -- what `ioctl` returns is not looked at
    let ifr := ((api.ioctl (← load (some sc) DeviceField.fd) ifr).map
      (Ifreq.setIfindex ifr)).getD ifr
    if api.bind (← load (some sc) DeviceField.fd) (Ifreq.ifindex ifr) = -1 then
      return none
    if (← xcanDeviceInit sc id name) ≠ 0 then
      Prog.modify fun s =>
        { s with
          mem := (xcanSocketcanDestroy sc s.mem s.world).1
          world := (xcanSocketcanDestroy sc s.mem s.world).2 }
      return none
    store (some sc) DeviceField.linkState (some .prvLinkState)
    store (some sc) DeviceField.send (some .prvSend)
    store (some sc) DeviceField.poll (some .prvPoll)
    store (some sc) DeviceField.destroy (some .xcanSocketcanDestroy)
    return some sc

/-! ## The outcomes of `xcan_device_init` -/

/-- From `m` to `m'` only the block `dev` was accessed. -/
def AccessesOnly (dev : Ptr) (m m' : Mem) : Prop :=
  ∃ accesses, m'.log = m.log ++ accesses ∧ ∀ a ∈ accesses, a.block = some dev

section
variable {dev : Ptr} {m m' m'' : Mem}

theorem AccessesOnly.refl (dev : Ptr) (m : Mem) : AccessesOnly dev m m :=
  ⟨[], (List.append_nil _).symm, fun _ ha => nomatch ha⟩

theorem AccessesOnly.trans (h : AccessesOnly dev m m')
    (h' : AccessesOnly dev m' m'') : AccessesOnly dev m m'' := by
  obtain ⟨accesses, hlog, hall⟩ := h
  obtain ⟨accesses', hlog', hall'⟩ := h'
  refine ⟨accesses ++ accesses', by rw [hlog', hlog, List.append_assoc], ?_⟩
  intro a ha
  exact (List.mem_append.mp ha).elim (hall a) (hall' a)

theorem AccessesOnly.touch (h : AccessesOnly dev m m')
    (offset size : Nat) : AccessesOnly dev m (m'.touch (some dev) offset size) := by
  obtain ⟨accesses, hlog, hall⟩ := h
  refine ⟨accesses ++ [⟨some dev, offset, size, (some dev).any (· ∈ m'.heap.frees)⟩],
    ?_, ?_⟩
  · rw [Mem.touch_log, hlog, List.append_assoc]
  · intro a ha
    rcases List.mem_append.mp ha with ha | ha
    · exact hall a ha
    · rw [List.mem_singleton.mp ha]

theorem AccessesOnly.setHeap (h : AccessesOnly dev m m') (heap : Heap) :
    AccessesOnly dev m (m'.setHeap heap) := h

/-- The destructor reads the device, before and after it has freed it. -/
theorem xcanSocketcanDestroy_accesses (dev : Ptr) (m : Mem) (w : Bus) :
    AccessesOnly dev m (xcanSocketcanDestroy dev m w).1 :=
  (((AccessesOnly.refl dev m).touch _ _).setHeap _).touch _ _

end

/-- A device with a number and a name. -/
def named (d : XcanDevice) (id : UInt8) (name : List UInt8) : XcanDevice :=
  { d with id := id, name := strncpy name xcanMaxDeviceName }

section
variable {W : Type} {id : UInt8} {s : Stack W} (dev : Ptr) (name : List UInt8)

/-- An init that does not get its first queue. -/
theorem xcanDeviceInit_noIn (hid : id.toNat < xcanMaxDevices)
    (hin : s.mem.heap.oom s.mem.heap.calls = true) :
    ∃ m, xcanDeviceInit dev id name s = some (-1, { s with mem := m }) ∧
      AccessesOnly dev s.mem m ∧ m.heap = s.mem.heap.refuse ∧
      m.device = Function.update s.mem.device dev
        { named (s.mem.device dev) id name with qIn := none } := by
  have hid' : ¬ xcanMaxDevices ≤ id.toNat := Nat.not_le_of_lt hid
  refine ⟨_, by
    simp [xcanDeviceInit, hid', hin, DeviceField.id, DeviceField.name, DeviceField.qIn]
    rfl, ⟨?accesses, ?log, ?block⟩, rfl, ?device⟩
  case log =>
    simp only [Mem.touch_log, Mem.setDevice_log, Mem.setHeap_log, List.append_assoc]
    rfl
  case block => simp
  case device => simp [named]

/-- One that does not get its second queue: it frees the first, and leaves the
pointer to it in the device. -/
theorem xcanDeviceInit_noOut (hid : id.toNat < xcanMaxDevices)
    (hin : s.mem.heap.oom s.mem.heap.calls = false)
    (hout : s.mem.heap.oom (s.mem.heap.calls + 1) = true) :
    ∃ m, xcanDeviceInit dev id name s = some (-1, { s with mem := m }) ∧
      AccessesOnly dev s.mem m ∧
      m.heap = ((s.mem.heap.grant 0).refuse).free s.mem.heap.brk ∧
      m.device = Function.update s.mem.device dev
        { named (s.mem.device dev) id name with qIn := some s.mem.heap.brk, qOut := none } := by
  have hid' : ¬ xcanMaxDevices ≤ id.toNat := Nat.not_le_of_lt hid
  refine ⟨_, by
    simp [xcanDeviceInit, hid', hin, hout, Stored.put, DeviceField.id, DeviceField.name,
      DeviceField.qIn, DeviceField.qOut]
    rfl, ⟨?accesses, ?log, ?block⟩, ?heap, ?device⟩
  case log =>
    simp only [Mem.touch_log, Mem.setDevice_log, Mem.setHeap_log, Mem.setQueue_log,
      List.append_assoc]
    rfl
  case block => simp
  case heap => simp
  case device => simp [named]

/-- One that gets both. -/
theorem xcanDeviceInit_granted (hid : id.toNat < xcanMaxDevices)
    (hin : s.mem.heap.oom s.mem.heap.calls = false)
    (hout : s.mem.heap.oom (s.mem.heap.calls + 1) = false) :
    ∃ m, xcanDeviceInit dev id name s = some (0, { s with
          mem := m
          devices := Function.update s.devices id.toNat (some dev) }) ∧
      AccessesOnly dev s.mem m ∧ m.heap = (s.mem.heap.grant 0).grant 0 ∧
      m.device = Function.update s.mem.device dev
        { named (s.mem.device dev) id name with
          qIn := some s.mem.heap.brk
          qOut := some (s.mem.heap.brk + 1) } ∧
      m.queue = Function.update (Function.update s.mem.queue s.mem.heap.brk {})
        (s.mem.heap.brk + 1) {} ∧
      m.frame = s.mem.frame := by
  have hid' : ¬ xcanMaxDevices ≤ id.toNat := Nat.not_le_of_lt hid
  refine ⟨_, by
    simp [xcanDeviceInit, hid', hin, hout, Stored.put, DeviceField.id, DeviceField.name,
      DeviceField.qIn, DeviceField.qOut]
    rfl, ⟨?accesses, ?log, ?block⟩, ?heap, ?device, ?queue, ?frame⟩
  case log =>
    simp only [Mem.touch_log, Mem.setDevice_log, Mem.setHeap_log, Mem.setQueue_log,
      List.append_assoc]
    rfl
  case block => simp
  case heap => simp
  case device => simp [named]
  case queue => simp [Stored.zero]
  case frame => simp

/-- The number is out of range, or a queue is not allocated. -/
def InitFails (id : UInt8) (h : Heap) : Prop :=
  xcanMaxDevices ≤ id.toNat ∨ h.oom h.calls = true ∨ h.oom (h.calls + 1) = true

/-- **What a failed init does**: it accesses the device only, and frees what it
has allocated, to which the device may go on pointing. -/
theorem xcanDeviceInit_fails (h : InitFails id s.mem.heap) :
    ∃ m n, xcanDeviceInit dev id name s = some (-1, { s with mem := m }) ∧
      AccessesOnly dev s.mem m ∧ m.heap.brk = s.mem.heap.brk + n ∧
      m.heap.frees = s.mem.heap.frees ++ List.range' s.mem.heap.brk n ∧
      (m.device dev).fd = (s.mem.device dev).fd ∧
      ((m.device dev).qIn = (s.mem.device dev).qIn ∨ (m.device dev).qIn = none ∨
        (m.device dev).qIn = some s.mem.heap.brk) ∧
      ((m.device dev).qOut = (s.mem.device dev).qOut ∨ (m.device dev).qOut = none) := by
  by_cases hid : id.toNat < xcanMaxDevices
  swap
  · exact ⟨s.mem, 0, xcanDeviceInit_rejected (Nat.not_lt.mp hid),
      AccessesOnly.refl dev s.mem, rfl, (List.append_nil _).symm, rfl, .inl rfl, .inl rfl⟩
  cases hoom : s.mem.heap.oom s.mem.heap.calls with
  | true =>
      obtain ⟨m, hm, hlog, hheap, hdevice⟩ :=
        xcanDeviceInit_noIn dev name hid hoom
      refine ⟨m, 0, hm, hlog, by rw [hheap]; rfl, by simp [hheap], ?_⟩
      simp [hdevice, named]
  | false =>
      have hoom' : s.mem.heap.oom (s.mem.heap.calls + 1) = true :=
        (h.resolve_left (Nat.not_le_of_lt hid)).resolve_left
          (by rw [hoom]; exact Bool.false_ne_true)
      obtain ⟨m, hm, hlog, hheap, hdevice⟩ :=
        xcanDeviceInit_noOut dev name hid hoom hoom'
      refine ⟨m, 1, hm, hlog, by rw [hheap]; rfl, by rw [hheap]; rfl, ?_⟩
      simp [hdevice, named]

/-- An init that does not fail. -/
theorem not_initFails {h : Heap} (hnot : ¬ InitFails id h) :
    id.toNat < xcanMaxDevices ∧ h.oom h.calls = false ∧ h.oom (h.calls + 1) = false := by
  obtain ⟨hid, hoom⟩ := not_or.mp hnot
  obtain ⟨hin, hout⟩ := not_or.mp hoom
  exact ⟨Nat.not_le.mp hid, Bool.eq_false_iff.mpr hin, Bool.eq_false_iff.mpr hout⟩

/-- An init that returns -1 leaves nothing behind. -/
theorem xcanDeviceInit_released {s' : Stack W} (hsane : FreedOnly s.mem.heap)
    (hrun : xcanDeviceInit dev id name s = some (-1, s')) :
    s'.devices = s.devices ∧ Released s.mem.heap s'.mem.heap := by
  by_cases hfails : InitFails id s.mem.heap
  · obtain ⟨m, n, hm, -, hbrk, hfrees, -⟩ := xcanDeviceInit_fails dev name hfails
    cases hm.symm.trans hrun
    exact ⟨rfl, Released.of_perm hsane hbrk hfrees (List.Perm.refl _)⟩
  · obtain ⟨hid, hin, hout⟩ := not_initFails hfails
    obtain ⟨m, hm, -⟩ := xcanDeviceInit_granted dev name hid hin hout
    cases hm.symm.trans hrun

end

/-! ## The outcomes of `xcan_socketcan_create` -/

/-- The index that the socket is bound to. -/
def boundIndex (api : SocketApi) (s : Stack Bus) (name : List UInt8) : UInt32 :=
  Ifreq.ifindex (((api.ioctl api.socket (strcpy s.world.stack name)).map
    (Ifreq.setIfindex (strcpy s.world.stack name))).getD (strcpy s.world.stack name))

/-- The device has its block and its socket. -/
structure Opened (fd : Int) (m m' : Mem) : Prop where
  log : AccessesOnly m.heap.brk m m'
  heap : m'.heap = m.heap.grant 0
  device : m'.device = Function.update m.device m.heap.brk { fd := fd }
  queue : m'.queue = m.queue
  frame : m'.frame = m.frame

theorem Opened.touch {fd : Int} {m m' : Mem} (h : Opened fd m m') (offset size : Nat) :
    Opened fd m (m'.touch (some m.heap.brk) offset size) :=
  ⟨h.log.touch offset size, h.heap, h.device, h.queue, h.frame⟩

/-- Memory after `sc->fd = socket(...)`. -/
def openedMem (fd : Int) (m : Mem) : Mem :=
  (((m.setHeap (m.heap.grant 0)).setDevice m.heap.brk {}).setDevice m.heap.brk
    { fd := fd }).touch (some m.heap.brk) 72 4

theorem openedMem_opened (fd : Int) (m : Mem) : Opened fd m (openedMem fd m) := by
  constructor
  case log => exact ⟨[⟨some m.heap.brk, 72, 4, _⟩], rfl, by simp⟩
  case device => simp [openedMem]
  all_goals rfl

section
variable {api : SocketApi} (id : UInt8) (name : List UInt8) {s : Stack Bus}

theorem xcanSocketcanCreate_refused (h : s.mem.heap.oom s.mem.heap.calls = true) :
    xcanSocketcanCreate api id name s =
      some (none, { s with mem := s.mem.setHeap s.mem.heap.refuse }) := by
  simp [xcanSocketcanCreate, h]

/-- Without a socket. -/
theorem xcanSocketcanCreate_noSocket (h : s.mem.heap.oom s.mem.heap.calls = false)
    (hsocket : api.socket < 0) :
    ∃ m, Opened api.socket s.mem m ∧
      xcanSocketcanCreate api id name s = some (none, { s with mem := m }) := by
  refine ⟨_, openedMem_opened api.socket s.mem, ?_⟩
  simp [xcanSocketcanCreate, h, hsocket, Stored.put, Stored.zero, DeviceField.fd, openedMem]

/-- The stack with the socket, and the name of the interface on the stack of the
process. -/
def Stack.opened (s : Stack Bus) (name : List UInt8) (m : Mem) : Stack Bus :=
  { s with mem := m, world := s.world.copyLocal (nameCopy name) }

@[simp] theorem Stack.opened_mem (s : Stack Bus) (name : List UInt8) (m : Mem) :
    (s.opened name m).mem = m := rfl

/-- With a socket that cannot be bound. -/
theorem xcanSocketcanCreate_noBind (h : s.mem.heap.oom s.mem.heap.calls = false)
    (hsocket : 0 ≤ api.socket) (hbind : api.bind api.socket (boundIndex api s name) = -1) :
    ∃ m, Opened api.socket s.mem m ∧
      xcanSocketcanCreate api id name s = some (none, s.opened name m) := by
  refine ⟨_, ((openedMem_opened api.socket s.mem).touch 72 4).touch 72 4, ?_⟩
  rw [boundIndex] at hbind
  simp [xcanSocketcanCreate, h, Int.not_lt.mpr hsocket, hbind, Stored.put, Stored.zero,
    DeviceField.fd, openedMem, Stack.opened]

/-- The device with its functions. -/
def withDriver (d : XcanDevice) : XcanDevice :=
  { d with
    linkState := some .prvLinkState
    send := some .prvSend
    poll := some .prvPoll
    destroy := some .xcanSocketcanDestroy }

/-- With a socket that is bound, `xcan_device_init` decides. -/
theorem xcanSocketcanCreate_bound (h : s.mem.heap.oom s.mem.heap.calls = false)
    (hsocket : 0 ≤ api.socket) (hbind : api.bind api.socket (boundIndex api s name) ≠ -1) :
    ∃ m, Opened api.socket s.mem m ∧ ∀ rc s₁,
      xcanDeviceInit s.mem.heap.brk id name (s.opened name m) = some (rc, s₁) →
      (rc ≠ 0 → xcanSocketcanCreate api id name s = some (none, { s₁ with
        mem := (xcanSocketcanDestroy s.mem.heap.brk s₁.mem s₁.world).1
        world := (xcanSocketcanDestroy s.mem.heap.brk s₁.mem s₁.world).2 })) ∧
      (rc = 0 → ∃ m₁, xcanSocketcanCreate api id name s =
          some (some s.mem.heap.brk, { s₁ with mem := m₁ }) ∧
        m₁.heap = s₁.mem.heap ∧ m₁.queue = s₁.mem.queue ∧ m₁.frame = s₁.mem.frame ∧
        m₁.device = Function.update s₁.mem.device s.mem.heap.brk
          (withDriver (s₁.mem.device s.mem.heap.brk))) := by
  refine ⟨_, ((openedMem_opened api.socket s.mem).touch 72 4).touch 72 4, ?_⟩
  rw [boundIndex] at hbind
  intro rc s₁ hinit
  constructor
  · intro hrc
    simp [xcanSocketcanCreate, h, Int.not_lt.mpr hsocket, hbind, Stored.put, Stored.zero,
      DeviceField.fd, openedMem, Stack.opened] at hinit ⊢
    rw [hinit]
    simp [hrc]
  · intro hrc
    simp [xcanSocketcanCreate, h, Int.not_lt.mpr hsocket, hbind, Stored.put, Stored.zero,
      DeviceField.fd, openedMem, Stack.opened] at hinit ⊢
    rw [hinit]
    simp [hrc, DeviceField.linkState, DeviceField.send, DeviceField.poll,
      DeviceField.destroy, withDriver]

end

/-! ## All or nothing -/

/-- The calls that `xcan_socketcan_create` makes all succeed. -/
structure CallsSucceed (api : SocketApi) (s : Stack Bus) (name : List UInt8) : Prop where
  alloc : ∀ k, k < 3 → s.mem.heap.oom (s.mem.heap.calls + k) = false
  socket : 0 ≤ api.socket
  ioctl : api.ioctl api.socket (strcpy s.world.stack name) ≠ none
  bind : api.bind api.socket (boundIndex api s name) ≠ -1

/-- From `s` to `s'` nothing was left behind: the pool is the same, the socket
was closed if it had been opened, what was allocated was released, and no
access to a freed block was through a pointer in the device. -/
structure NothingLeft (api : SocketApi) (s s' : Stack Bus) : Prop where
  devices : s'.devices = s.devices
  closed : s'.world.closed = s.world.closed ++
    if s.mem.heap.oom s.mem.heap.calls = false ∧ 0 ≤ api.socket then [api.socket] else []
  released : Released s.mem.heap s'.mem.heap
  dangling : ∃ accesses, s'.mem.log = s.mem.log ++ accesses ∧
    ∀ a ∈ accesses, a.dead = true →
      a.block ≠ (s'.mem.device s.mem.heap.brk).qIn ∧
        a.block ≠ (s'.mem.device s.mem.heap.brk).qOut

/-- What `xcan_socketcan_create` should have done when it returned `r`. Nothing
may have been copied past the end of the name in `ifr`. -/
def AllOrNothing (api : SocketApi) (id : UInt8) (name : List UInt8) (s : Stack Bus)
    (r : Option Ptr) (s' : Stack Bus) : Prop :=
  CopiesInBounds s.world s'.world ∧
    match r with
    | some sc => CallsSucceed api s name ∧ id.toNat < xcanMaxDevices ∧
        s'.devices = Function.update s.devices id.toNat (some sc)
    | none => NothingLeft api s s'

/-- The block of the device is not allocated; or the socket is opened and
bound, the name of the interface fits, and when the device is initialised, the
interface was found. -/
def CleanCreation (api : SocketApi) (id : UInt8) (name : List UInt8) (s : Stack Bus) : Prop :=
  s.mem.heap.oom s.mem.heap.calls = true ∨
    (0 ≤ api.socket ∧ (nameCopy name).InBounds ∧
      api.bind api.socket (boundIndex api s name) ≠ -1 ∧
      (InitFails id (s.mem.heap.grant 0) ∨
        api.ioctl api.socket (strcpy s.world.stack name) ≠ none))

section
variable {api : SocketApi} {id : UInt8} {name : List UInt8} {s s' : Stack Bus} {m : Mem}

/-- A block that was handed out and kept. -/
theorem Opened.not_nothingLeft (h : Opened api.socket s.mem m) (hsane : FreedOnly s.mem.heap)
    (w : Bus) : ¬ NothingLeft api s { s with mem := m, world := w } := by
  intro hnothing
  have hone := hnothing.released.once s.mem.heap.brk (Nat.le_refl _)
    (by rw [h.heap]; exact Nat.lt_succ_self _)
  rw [h.heap] at hone
  cases hsane.count_brk.symm.trans hone

/-- The clean-up after a failed init. -/
theorem xcanSocketcanDestroy_nothingLeft (name : List UInt8) (hsane : FreedOnly s.mem.heap)
    (halloc : s.mem.heap.oom s.mem.heap.calls = false) (hsocket : 0 ≤ api.socket)
    (hopened : Opened api.socket s.mem m) (hfails : InitFails id (s.mem.heap.grant 0)) :
    ∃ s₁, xcanDeviceInit s.mem.heap.brk id name (s.opened name m) = some (-1, s₁) ∧
      s₁.world = (s.opened name m).world ∧
      NothingLeft api s { s₁ with
        mem := (xcanSocketcanDestroy s.mem.heap.brk s₁.mem s₁.world).1
        world := (xcanSocketcanDestroy s.mem.heap.brk s₁.mem s₁.world).2 } := by
  have hself : m.device s.mem.heap.brk = { fd := api.socket } := by
    rw [hopened.device, Function.update_self]
  obtain ⟨m₁, n, hinit, hlog, hbrk, hfrees, hfd, hin, hout⟩ :=
    xcanDeviceInit_fails (s := s.opened name m) s.mem.heap.brk name
      (by rw [Stack.opened_mem, hopened.heap]; exact hfails)
  simp only [Stack.opened_mem] at hlog hbrk hfrees hfd hin hout
  refine ⟨_, hinit, rfl, ?_⟩
  constructor
  case devices => rfl
  case closed =>
    rw [if_pos ⟨halloc, hsocket⟩]
    show s.world.closed ++ [(m₁.device s.mem.heap.brk).fd] = _
    rw [hfd, hself]
  case released =>
    rw [hopened.heap] at hbrk hfrees
    have hperm : (List.range' (s.mem.heap.brk + 1) n ++ [s.mem.heap.brk]).Perm
        (List.range' s.mem.heap.brk (n + 1)) := by
      rw [List.range'_succ]
      exact List.perm_append_singleton _ _
    refine Released.of_perm hsane ?_ ?_ hperm
    · show m₁.heap.brk = _
      rw [hbrk]
      show s.mem.heap.brk + 1 + n = _
      omega
    · show m₁.heap.frees ++ [s.mem.heap.brk] = _
      rw [hfrees, List.append_assoc]
      rfl
  case dangling =>
    obtain ⟨accesses, haccesses, hall⟩ := (hopened.log.trans hlog).trans
      (xcanSocketcanDestroy_accesses s.mem.heap.brk m₁ s.world)
    refine ⟨accesses, haccesses, ?_⟩
    intro a ha _
    rw [hall a ha]
    show some s.mem.heap.brk ≠ (m₁.device s.mem.heap.brk).qIn ∧
      some s.mem.heap.brk ≠ (m₁.device s.mem.heap.brk).qOut
    rw [hself] at hin hout
    constructor
    · rcases hin with hin | hin | hin
      · rw [hin]
        exact Option.some_ne_none _
      · rw [hin]
        exact Option.some_ne_none _
      · rw [hin, hopened.heap]
        exact fun heq => Nat.succ_ne_self _ (Option.some_inj.mp heq).symm
    · rcases hout with hout | hout
      · rw [hout]
        exact Option.some_ne_none _
      · rw [hout]
        exact Option.some_ne_none _

theorem cleanCreation_iff (halloc : s.mem.heap.oom s.mem.heap.calls = false) :
    CleanCreation api id name s ↔ 0 ≤ api.socket ∧ (nameCopy name).InBounds ∧
      api.bind api.socket (boundIndex api s name) ≠ -1 ∧
      (InitFails id (s.mem.heap.grant 0) ∨
        api.ioctl api.socket (strcpy s.world.stack name) ≠ none) :=
  or_iff_right (by rw [halloc]; exact Bool.false_ne_true)

/-- A device is initialised on the bound socket. -/
theorem xcanSocketcanCreate_initialises (id : UInt8) (name : List UInt8)
    (hsane : FreedOnly s.mem.heap) (halloc : s.mem.heap.oom s.mem.heap.calls = false) (hsocket : 0 ≤ api.socket)
    (hbind : api.bind api.socket (boundIndex api s name) ≠ -1) :
    ∃ r s', xcanSocketcanCreate api id name s = some (r, s') ∧
      (AllOrNothing api id name s r s' ↔ (nameCopy name).InBounds ∧
        (InitFails id (s.mem.heap.grant 0) ∨
          api.ioctl api.socket (strcpy s.world.stack name) ≠ none)) := by
  obtain ⟨m, hopened, hinit⟩ :=
    xcanSocketcanCreate_bound id name halloc hsocket hbind
  by_cases hfails : InitFails id (s.mem.heap.grant 0)
  · obtain ⟨s₁, hrun, hworld, hnothing⟩ :=
      xcanSocketcanDestroy_nothingLeft name hsane halloc hsocket hopened hfails
    have hlocals : (xcanSocketcanDestroy s.mem.heap.brk s₁.mem s₁.world).2.locals =
        s.world.locals ++ [nameCopy name] := by
      rw [hworld]
      rfl
    refine ⟨none, _, (hinit _ _ hrun).1 (by decide), ?_⟩
    rw [AllOrNothing, copiesInBounds_one hlocals]
    exact and_congr_right fun _ => iff_of_true hnothing (.inl hfails)
  · obtain ⟨hid, hin, hout⟩ := not_initFails hfails
    rw [← hopened.heap] at hin hout
    obtain ⟨m₁, hgranted, -⟩ := xcanDeviceInit_granted (s := s.opened name m)
      s.mem.heap.brk name hid hin hout
    rw [hopened.heap] at hin hout
    obtain ⟨m₂, hrun, -⟩ := (hinit _ _ hgranted).2 rfl
    have hlocals : (s.opened name m).world.locals = s.world.locals ++ [nameCopy name] := rfl
    refine ⟨some s.mem.heap.brk, _, hrun, ?_⟩
    rw [AllOrNothing, copiesInBounds_one hlocals, or_iff_right hfails]
    apply and_congr_right
    intro _
    constructor
    · rintro ⟨hcalls, -⟩
      exact hcalls.ioctl
    · intro hioctl
      refine ⟨⟨?_, hsocket, hioctl, hbind⟩, hid, rfl⟩
      intro k hk
      obtain rfl | rfl | rfl : k = 0 ∨ k = 1 ∨ k = 2 := by omega
      · exact halloc
      · exact hin
      · exact hout

/-- **Creation is all or nothing exactly when it is clean**: a failed init is
cleaned up after, a missing socket or binding is not, an interface that is not
found goes unnoticed, and a long name is copied past the end. -/
theorem creation_all_or_nothing_iff (hsane : FreedOnly s.mem.heap) :
    (∀ dev s', xcanDeviceInit dev id name s = some (-1, s') →
        s'.devices = s.devices ∧ Released s.mem.heap s'.mem.heap) ∧
      ∃ r s', xcanSocketcanCreate api id name s = some (r, s') ∧
        (AllOrNothing api id name s r s' ↔ CleanCreation api id name s) := by
  refine ⟨fun dev s' hinit => xcanDeviceInit_released dev name hsane hinit, ?_⟩
  cases halloc : s.mem.heap.oom s.mem.heap.calls with
  | true =>
      refine ⟨none, _, xcanSocketcanCreate_refused id name halloc, fun _ => .inl halloc,
        fun _ => ⟨.of_eq rfl, ?_⟩⟩
      constructor
      case devices => rfl
      case closed => simp [halloc]
      case released => exact Released.refl (fun _ => rfl) rfl
      case dangling => exact ⟨[], (List.append_nil _).symm, fun _ ha => nomatch ha⟩
  | false =>
      rw [cleanCreation_iff halloc]
      by_cases hsocket : 0 ≤ api.socket
      swap
      · obtain ⟨m, hopened, hrun⟩ :=
          xcanSocketcanCreate_noSocket id name halloc (Int.not_le.mp hsocket)
        exact ⟨none, _, hrun, fun h => absurd h.2 (hopened.not_nothingLeft hsane s.world),
          fun h => absurd h.1 hsocket⟩
      by_cases hbind : api.bind api.socket (boundIndex api s name) = -1
      · obtain ⟨m, hopened, hrun⟩ :=
          xcanSocketcanCreate_noBind id name halloc hsocket hbind
        exact ⟨none, _, hrun, fun h => absurd h.2 (hopened.not_nothingLeft hsane _),
          fun h => absurd hbind h.2.2.1⟩
      obtain ⟨r, s', hrun, hiff⟩ :=
        xcanSocketcanCreate_initialises id name hsane halloc hsocket hbind
      refine ⟨r, s', hrun, hiff.trans ?_⟩
      simp only [hsocket, hbind, ne_eq, not_false_eq_true, true_and]

end

/-- A process that has created no device yet. -/
def noDevices : Stack Bus := { world := {} }

/-- All calls succeed. -/
theorem creation_all_or_nothing_iff_first :
    (∀ dev s', xcanDeviceInit dev 0 [118] noDevices = some (-1, s') →
        s'.devices = noDevices.devices ∧ Released noDevices.mem.heap s'.mem.heap) ∧
      ∃ r s', xcanSocketcanCreate {} 0 [118] noDevices = some (r, s') ∧
        (AllOrNothing {} 0 [118] noDevices r s' ↔ CleanCreation {} 0 [118] noDevices) :=
  creation_all_or_nothing_iff fun _ hb => nomatch hb

/-- When the socket cannot be bound, it stays open and the device allocated. -/
theorem unbound_socket_leaks :
    ∃ s', xcanSocketcanCreate { bind := fun _ _ => -1 } 0 [118] noDevices = some (none, s') ∧
      s'.world.closed = [] ∧ s'.mem.heap.brk = 1 ∧ s'.mem.heap.frees = [] ∧
      ¬ AllOrNothing { bind := fun _ _ => -1 } 0 [118] noDevices none s' := by
  let api : SocketApi := { bind := fun _ _ => -1 }
  have hsocket : 0 ≤ api.socket := by decide
  obtain ⟨m, hopened, hrun⟩ :=
    xcanSocketcanCreate_noBind (s := noDevices) 0 [118] rfl hsocket rfl
  refine ⟨_, hrun, rfl, ?_, ?_, fun h =>
    hopened.not_nothingLeft (fun _ hb => nomatch hb) _ h.2⟩
  · rw [Stack.opened_mem, hopened.heap]
    rfl
  · rw [Stack.opened_mem, hopened.heap]
    rfl

end XcanRouter
