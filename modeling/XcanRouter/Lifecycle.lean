import XcanRouter.Creation

/-!
# The life of a SocketCAN device

A device is created, takes part in a run of receptions and ticks, and is
destroyed. Its destructor closes the socket and frees the device; the queues,
and what is linked in them, are left to nobody.
-/

namespace XcanRouter

open LinkedChain

/-- From `s`, where `sc` is a device of the pool, to `s'` it was destroyed with
all it had: its block, its queues and the frames in them were freed, once, and
nothing was read after it had been freed. -/
structure HeapNeutral {W : Type} (sc : Ptr) (s s' : Stack W) : Prop where
  device : s'.mem.heap.frees.count sc = 1
  queueIn : ∀ q, (s.mem.device sc).qIn = some q → s'.mem.heap.frees.count q = 1
  queueOut : ∀ q, (s.mem.device sc).qOut = some q → s'.mem.heap.frees.count q = 1
  frames : ∀ l f, LinkedIn s.mem sc l ∨ LinkedOut s.mem sc l → f ∈ l →
    s'.mem.heap.frees.count f = 1
  reads : ∃ accesses, s'.mem.log = s.mem.log ++ accesses ∧ ∀ a ∈ accesses, a.dead = false

/-- A pool on which any call may be made, all of it in blocks that have been
handed out. -/
structure SoundPool {W : Type} (D : Ptr → Prop) (qi qo : Ptr → Ptr) (s : Stack W) : Prop where
  pool : PoolState D qi qo s
  device : ∀ d, D d → d < s.mem.heap.brk
  queueIn : ∀ d, D d → qi d < s.mem.heap.brk
  queueOut : ∀ d, D d → qo d < s.mem.heap.brk
  freed : FreedOnly s.mem.heap

/-! ## The device is created -/

/-- From `s` to `s'` the device `sc` was created in the slot `id`. -/
structure Created (id : UInt8) (sc : Ptr) (s s' : Stack Bus) : Prop where
  block : sc = s.mem.heap.brk
  heap : s'.mem.heap = ((s.mem.heap.grant 0).grant 0).grant 0
  others : ∀ d, d ≠ sc → s'.mem.device d = s.mem.device d
  queueIn : (s'.mem.device sc).qIn = some (sc + 1)
  queueOut : (s'.mem.device sc).qOut = some (sc + 2)
  destroy : (s'.mem.device sc).destroy = some .xcanSocketcanDestroy
  queue : s'.mem.queue =
    Function.update (Function.update s.mem.queue (sc + 1) {}) (sc + 2) {}
  frame : s'.mem.frame = s.mem.frame
  devices : s'.devices = Function.update s.devices id.toNat (some sc)

section
variable {api : SocketApi} {id : UInt8} {name : List UInt8} {s s' : Stack Bus} {sc : Ptr}

/-- **A creation that returns a device** has done all of its steps. -/
theorem xcanSocketcanCreate_created
    (hrun : xcanSocketcanCreate api id name s = some (some sc, s')) :
    Created id sc s s' := by
  cases halloc : s.mem.heap.oom s.mem.heap.calls with
  | true =>
      cases (xcanSocketcanCreate_refused id name halloc).symm.trans hrun
  | false =>
      by_cases hsocket : 0 ≤ api.socket
      swap
      · obtain ⟨m, -, hnone⟩ :=
          xcanSocketcanCreate_noSocket id name halloc (Int.not_le.mp hsocket)
        cases hnone.symm.trans hrun
      by_cases hbind : api.bind api.socket (boundIndex api s name) = -1
      · obtain ⟨m, -, hnone⟩ := xcanSocketcanCreate_noBind id name halloc hsocket hbind
        cases hnone.symm.trans hrun
      obtain ⟨m, hopened, hinit⟩ :=
        xcanSocketcanCreate_bound id name halloc hsocket hbind
      by_cases hfails : InitFails id m.heap
      · obtain ⟨m₁, n, hfailed, -⟩ := xcanDeviceInit_fails (s := s.opened name m)
          s.mem.heap.brk name hfails
        cases ((hinit _ _ hfailed).1 (by decide)).symm.trans hrun
      · obtain ⟨hid, hin, hout⟩ := not_initFails hfails
        obtain ⟨m₁, hgranted, -, hheap, hdevice, hqueue, hframe⟩ :=
          xcanDeviceInit_granted (s := s.opened name m) s.mem.heap.brk name hid hin hout
        obtain ⟨m₂, hcreated, hheap', hqueue', hframe', hdevice'⟩ :=
          (hinit _ _ hgranted).2 rfl
        cases hcreated.symm.trans hrun
        have hself : m₂.device s.mem.heap.brk =
            withDriver { named { fd := api.socket } id name with
              qIn := some (s.mem.heap.brk + 1)
              qOut := some (s.mem.heap.brk + 2) } := by
          simp [hdevice', hdevice, hopened.device, hopened.heap]
        constructor
        case block => rfl
        case heap =>
          show m₂.heap = _
          rw [hheap', hheap, Stack.opened_mem, hopened.heap]
        case others =>
          intro d hd
          show m₂.device d = _
          simp [hdevice', hdevice, hopened.device, hd]
        case queueIn =>
          show (m₂.device s.mem.heap.brk).qIn = _
          rw [hself, withDriver]
        case queueOut =>
          show (m₂.device s.mem.heap.brk).qOut = _
          rw [hself, withDriver]
        case destroy =>
          show (m₂.device s.mem.heap.brk).destroy = _
          rw [hself, withDriver]
        case queue =>
          show m₂.queue = _
          rw [hqueue', hqueue, Stack.opened_mem, hopened.queue, hopened.heap]
          rfl
        case frame =>
          show m₂.frame = _
          rw [hframe', hframe, Stack.opened_mem, hopened.frame]
        case devices => rfl

end

/-! ## The pool with the new device -/

section
variable {D : Ptr → Prop} {qi qo : Ptr → Ptr} {id : UInt8} {s s' : Stack Bus} {sc : Ptr}

/-- The devices of the pool and the new one. -/
def orNew (D : Ptr → Prop) (sc : Ptr) (d : Ptr) : Prop := D d ∨ d = sc

theorem Created.wiring (h : Created id sc s s') (hpool : SoundPool D qi qo s)
    (hw : Wiring s.mem D qi qo) :
    Wiring s'.mem (orNew D sc) (Function.update qi sc (sc + 1))
      (Function.update qo sc (sc + 2)) := by
  have hne : ∀ d, D d → d ≠ sc := fun d hd =>
    Nat.ne_of_lt (by rw [h.block]; exact hpool.device d hd)
  -- the new queues are in newer blocks than those of the pool
  have hin : ∀ d, D d → ∀ k, qi d ≠ sc + k := fun d hd k =>
    Nat.ne_of_lt (Nat.lt_add_right k (by rw [h.block]; exact hpool.queueIn d hd))
  have hout : ∀ d, D d → ∀ k, qo d ≠ sc + k := fun d hd k =>
    Nat.ne_of_lt (Nat.lt_add_right k (by rw [h.block]; exact hpool.queueOut d hd))
  constructor
  case qIn =>
    rintro d (hd | rfl)
    · rw [h.others d (hne d hd), Function.update_of_ne (hne d hd), hw.qIn d hd]
    · rw [h.queueIn, Function.update_self]
  case qOut =>
    rintro d (hd | rfl)
    · rw [h.others d (hne d hd), Function.update_of_ne (hne d hd), hw.qOut d hd]
    · rw [h.queueOut, Function.update_self]
  case in_inj =>
    rintro d d' (hd | rfl) (hd' | rfl) heq
    · rw [Function.update_of_ne (hne d hd), Function.update_of_ne (hne d' hd')] at heq
      exact hw.in_inj d d' hd hd' heq
    · rw [Function.update_of_ne (hne d hd), Function.update_self] at heq
      exact absurd heq (hin d hd 1)
    · rw [Function.update_of_ne (hne d' hd'), Function.update_self] at heq
      exact absurd heq.symm (hin d' hd' 1)
    · rfl
  case out_inj =>
    rintro d d' (hd | rfl) (hd' | rfl) heq
    · rw [Function.update_of_ne (hne d hd), Function.update_of_ne (hne d' hd')] at heq
      exact hw.out_inj d d' hd hd' heq
    · rw [Function.update_of_ne (hne d hd), Function.update_self] at heq
      exact absurd heq (hout d hd 2)
    · rw [Function.update_of_ne (hne d' hd'), Function.update_self] at heq
      exact absurd heq.symm (hout d' hd' 2)
    · rfl
  case in_ne_out =>
    rintro d d' (hd | rfl) (hd' | rfl) heq
    · rw [Function.update_of_ne (hne d hd), Function.update_of_ne (hne d' hd')] at heq
      exact hw.in_ne_out d d' hd hd' heq
    · rw [Function.update_of_ne (hne d hd), Function.update_self] at heq
      exact hin d hd 2 heq
    · rw [Function.update_of_ne (hne d' hd'), Function.update_self] at heq
      exact hout d' hd' 1 heq.symm
    · rw [Function.update_self, Function.update_self] at heq
      exact Nat.ne_of_lt (Nat.lt_succ_self _) heq

/-- **The pool after a creation**: the new device has two empty queues. -/
theorem Created.pool (h : Created id sc s s') (hpool : SoundPool D qi qo s) :
    PoolState (orNew D sc) (Function.update qi sc (sc + 1))
      (Function.update qo sc (sc + 2)) s' := by
  obtain ⟨F, hok, hnew⟩ := hpool.pool
  have hne : ∀ d, D d → d ≠ sc := fun d hd =>
    Nat.ne_of_lt (by rw [h.block]; exact hpool.device d hd)
  let m₁ : Mem := s.mem.setQueue (sc + 1) {}
  have hone : Refines _ m₁ (F.renew (sc + 1)) := hok.refines.renew rfl rfl
  have htwo : Refines _ s'.mem ((F.renew (sc + 1)).renew (sc + 2)) :=
    hone.renew h.queue h.frame
  refine ⟨(F.renew (sc + 1)).renew (sc + 2), ⟨?_, h.wiring hpool hok.wiring, ?_⟩, ?_⟩
  · intro i d hi hd
    rw [h.devices] at hd
    by_cases hid : i = id.toNat
    · rw [hid, Function.update_self] at hd
      exact .inr (Option.some_inj.mp hd).symm
    · rw [Function.update_of_ne hid] at hd
      exact .inl (hok.registered i d hi hd)
  · apply htwo.mono
    rintro q ⟨d, hd | rfl, rfl | rfl⟩
    · rw [Function.update_of_ne (hne d hd)]
      exact .inl (.inl (.qIn hd))
    · rw [Function.update_of_ne (hne d hd)]
      exact .inl (.inl (.qOut hd))
    · rw [Function.update_self]
      exact .inl (.inr rfl)
    · rw [Function.update_self]
      exact .inr rfl
  · intro q f hf
    have hlt := hnew q f (Fifos.mem_renew (Fifos.mem_renew hf).2).2
    rw [h.heap]
    exact Nat.lt_add_right 3 hlt

end

/-! ## A run with the new device -/

/-- **A reception frees new blocks only**: of those that had been handed out
before, whichever way it ends, none. -/
theorem xcanStackRecvBody_frees {m : Mem} {dev q b : Ptr} (r : Reception)
    (hq : (m.device dev).qIn = some q) (hb : b < m.heap.brk)
    (hfree : b ∈ (xcanStackRecvBody dev r.canId r.flags r.data r.len m).2.heap.frees) :
    b ∈ m.heap.frees := by
  have hne : b ≠ m.heap.brk := Nat.ne_of_lt hb
  cases hoom : m.heap.oom m.heap.calls with
  | true =>
      rw [xcanStackRecvBody_refused m dev r.canId r.data r.len r.flags hoom] at hfree
      exact hfree
  | false =>
      by_cases hrc : (xcanStackRecvBody dev r.canId r.flags r.data r.len m).1.1 = 1
      · rcases rejected_frees r hoom hq hrc with hkept | htwice
        · rwa [hkept] at hfree
        · rw [htwice] at hfree
          simpa [hne] using hfree
      -- the frame was enqueued
      have heq := xcanStackRecvBody_eq m dev r.canId r.data r.len r.flags hoom hq
      have hlinks := xcanEnqueue_links q m.heap.brk (recvFilled m dev r.canId r.data r.len)
      split at heq
      · rw [heq] at hrc
        exact absurd rfl hrc
      rw [heq] at hfree
      have hfilled : b ∈ (recvFilled m dev r.canId r.data r.len).heap.frees := by
        rw [← hlinks.heap]
        exact hfree
      cases hoom' : m.heap.oom (m.heap.calls + 1) with
      | false =>
          obtain ⟨-, -, hheap⟩ := recvFilled_granted m dev r.canId r.data r.len hoom hoom'
          rw [hheap] at hfilled
          exact hfilled
      | true =>
          rw [(recvFilled_noPayload dev r hoom hoom').2] at hfilled
          simpa [hne] using hfilled

section
variable {D : Ptr → Prop} {qi qo : Ptr → Ptr} {s s' s₁ : Stack Bus} {sc : Ptr}
  {rest : Drivers Bus} {fuel : Nat} {e : StackEvent} {es : List StackEvent}

/-- In use since `m₁`: its input queue has not been freed. -/
structure InUse (m₁ : Mem) (sc : Ptr) (m : Mem) : Prop where
  device : m.device = m₁.device
  queueIn : sc + 1 < m.heap.brk
  kept : sc + 1 ∉ m.heap.frees

theorem InUse.step {m₁ : Mem} (h : InUse m₁ sc s.mem) (hfuel : 20 < fuel)
    (hpool : PoolState (orNew D sc) qi qo s) (he : e.On (· = sc))
    (hstep : stackStep (socketcanDrivers rest) fuel s e = some s') :
    InUse m₁ sc s'.mem := by
  obtain ⟨F, hok, hnew⟩ := hpool
  cases e with
  | tick =>
      obtain ⟨F', heff, -, -⟩ := stackStep_effect (e := .tick) hfuel hok hnew trivial hstep
      cases heff with
      | tick hc =>
          constructor
          case device => rw [hc.links.device, h.device]
          case queueIn =>
            rw [hc.links.heap]
            exact h.queueIn
          case kept =>
            rw [hc.links.heap]
            exact h.kept
  | recv dev canId flags data len =>
      obtain rfl : dev = sc := he
      obtain ⟨rc, fr, m', F', hrun, -, -, -, hdevice, hle, -⟩ :=
        xcanStackRecvBody_spec canId flags data len hok.wiring hok.refines hnew (.inr rfl)
      have hfrees := xcanStackRecvBody_frees (b := dev + 1) ⟨canId, flags, data, len⟩
        (hok.wiring.qIn dev (.inr rfl)) h.queueIn
      rw [stackStep_recv, hrun] at hstep
      rw [hrun] at hfrees
      cases hstep
      exact ⟨hdevice.trans h.device, Nat.lt_of_lt_of_le h.queueIn hle,
        fun hfree => h.kept (hfrees hfree)⟩

/-- Every run of receptions on the new device, and ticks, ends with the device
in use. -/
theorem InUse.run {m₁ : Mem} (h : InUse m₁ sc s.mem) (rest : Drivers Bus) (hfuel : 20 < fuel)
    (hpool : PoolState (orNew D sc) qi qo s) (hon : ∀ e ∈ es, e.On (· = sc)) :
    ∃ s', Runs.run (stackStep (socketcanDrivers rest) fuel) s es = some s' ∧
      InUse m₁ sc s'.mem := by
  have hinv : ∀ s e, PoolState (orNew D sc) qi qo s ∧ InUse m₁ sc s.mem → e.On (· = sc) →
      ∃ s', stackStep (socketcanDrivers rest) fuel s e = some s' ∧
        PoolState (orNew D sc) qi qo s' ∧ InUse m₁ sc s'.mem := by
    intro s e ⟨hpool, h⟩ he
    have honew : e.On (orNew D sc) := by
      cases e with
      | tick => trivial
      | recv dev canId flags data len => exact .inr he
    obtain ⟨s', hstep, hpool', -⟩ := hpool.step hfuel honew
    exact ⟨s', hstep, hpool', h.step hfuel hpool he hstep⟩
  obtain ⟨s', hrun, -, huse⟩ :=
    Runs.run_of_inv (G := fun _ (e : StackEvent) => e.On (· = sc)) hinv ⟨hpool, h⟩
      (Runs.meets_of_forall hon)
  exact ⟨s', hrun, huse⟩

/-- **What the destructor of a SocketCAN device frees**: the device, whose name
it reads after that. -/
theorem xcanDeviceDestroy_socketcan (rest : Drivers Bus)
    (hdestroy : (s.mem.device sc).destroy = some .xcanSocketcanDestroy) :
    ∃ s', xcanDeviceDestroy (socketcanDrivers rest) sc s = some ((), s') ∧
      s'.mem.heap.frees = s.mem.heap.frees ++ [sc] ∧
      ∃ a ∈ s'.mem.log, a.block = some sc ∧ a.dead = true := by
  refine ⟨_, by
    simp [xcanDeviceDestroy, callDestroy, DeviceField.destroy, DeviceField.id, hdestroy]
    rfl, ?frees, ?log⟩
  case frees =>
    simp [socketcanDrivers, xcanSocketcanDestroy]
  case log =>
    simp [socketcanDrivers, xcanSocketcanDestroy, Mem.touch]
    exact ⟨_, .inr (.inr (.inr (.inr rfl))), rfl, rfl⟩

/-- The new device is in use from its creation on. -/
theorem Created.inUse {id : UInt8} (h : Created id sc s s') (hsane : FreedOnly s.mem.heap) :
    InUse s'.mem sc s'.mem := by
  constructor
  case device => rfl
  case queueIn =>
    rw [h.heap, h.block]
    exact Nat.lt_add_right 1 (Nat.lt_succ_self _)
  case kept =>
    rw [h.heap]
    intro hfree
    have hlt := hsane (sc + 1) hfree
    rw [h.block] at hlt
    exact Nat.not_succ_lt_self hlt

/-- **The life of a SocketCAN device is never heap-neutral**: whatever it has
received and whatever is queued when it is destroyed, nobody frees its input
queue. -/
theorem lifecycle_never_heap_neutral {api : SocketApi} {id : UInt8} {name : List UInt8}
    (hfuel : 20 < fuel) (hpool : SoundPool D qi qo s)
    (hcreate : xcanSocketcanCreate api id name s = some (some sc, s₁))
    (hon : ∀ e ∈ es, e.On (· = sc)) :
    ∃ s₂ s₃, Runs.run (stackStep (socketcanDrivers rest) fuel) s₁ es = some s₂ ∧
      xcanDeviceDestroy (socketcanDrivers rest) sc s₂ = some ((), s₃) ∧
      ¬ HeapNeutral sc s₂ s₃ := by
  have hcreated := xcanSocketcanCreate_created hcreate
  obtain ⟨s₂, hrun, huse⟩ := (hcreated.inUse hpool.freed).run rest hfuel
    (hcreated.pool hpool) hon
  obtain ⟨s₃, hdestroyed, hfrees, -⟩ := xcanDeviceDestroy_socketcan (s := s₂) rest
    (by rw [huse.device, hcreated.destroy])
  refine ⟨s₂, s₃, hrun, hdestroyed, ?_⟩
  intro h
  have hone := h.queueIn (sc + 1) (by rw [huse.device, hcreated.queueIn])
  have hne : sc + 1 ∉ s₃.mem.heap.frees := by
    rw [hfrees]
    simpa using huse.kept
  rw [List.count_eq_zero.mpr hne] at hone
  cases hone

end

/-! ## A device that does nothing -/

theorem noDevices_pool : SoundPool (fun _ => False) id id noDevices where
  pool := by
    have hfresh : PoolFresh (fun _ => False) id id noDevices :=
      { registered := fun _ _ _ hd => nomatch hd
        wiring :=
          { qIn := fun _ hd => nomatch hd
            qOut := fun _ hd => nomatch hd
            in_inj := fun _ _ hd => nomatch hd
            out_inj := fun _ _ hd => nomatch hd
            in_ne_out := fun _ _ hd => nomatch hd }
        empty := fun _ hd => nomatch hd
        recvs := rfl
        handed := rfl }
    exact ⟨_, hfresh.inv.pool, hfresh.inv.new⟩
  device _ hd := nomatch hd
  queueIn _ hd := nomatch hd
  queueOut _ hd := nomatch hd
  freed _ hb := nomatch hb

theorem noDevices_creates :
    ∃ s, xcanSocketcanCreate {} 0 [118] noDevices = some (some 0, s) := by
  have hsocket : 0 ≤ ({} : SocketApi).socket := by decide
  have hid : (0 : UInt8).toNat < xcanMaxDevices := by decide
  obtain ⟨m, hopened, hinit⟩ :=
    xcanSocketcanCreate_bound (s := noDevices) 0 [118] rfl hsocket (by decide)
  obtain ⟨m₁, hgranted, -⟩ := xcanDeviceInit_granted (s := noDevices.opened [118] m)
    noDevices.mem.heap.brk [118] hid (by rw [Stack.opened_mem, hopened.heap]; rfl)
    (by rw [Stack.opened_mem, hopened.heap]; rfl)
  obtain ⟨m₂, hcreated, -⟩ := (hinit _ _ hgranted).2 rfl
  exact ⟨_, hcreated⟩

/-- The device receives one frame before a tick and one after it. -/
theorem lifecycle_never_heap_neutral_two_frames :
    ∃ s₁, xcanSocketcanCreate {} 0 [118] noDevices = some (some 0, s₁) ∧
      ∃ s₂ s₃, Runs.run (stackStep (socketcanDrivers noOtherDrivers) 21) s₁
          [.recv 0 5 0 (fun _ => 7) 8, .tick, .recv 0 6 0 (fun _ => 9) 8] = some s₂ ∧
        xcanDeviceDestroy (socketcanDrivers noOtherDrivers) 0 s₂ = some ((), s₃) ∧
        ¬ HeapNeutral 0 s₂ s₃ := by
  obtain ⟨s₁, hcreate⟩ := noDevices_creates
  exact ⟨s₁, hcreate, lifecycle_never_heap_neutral (by decide) noDevices_pool hcreate
    (by simp [StackEvent.On])⟩

/-- A device is destroyed right after it was created. Of the three blocks that
were allocated one is freed, and it is read after that. -/
theorem destroyed_device_leaves_queues :
    ∃ s s', xcanSocketcanCreate {} 0 [118] noDevices = some (some 0, s) ∧
      xcanDeviceDestroy (socketcanDrivers noOtherDrivers) 0 s = some ((), s') ∧
      s.mem.heap.brk = 3 ∧ s'.mem.heap.frees = [0] ∧
      (∃ a ∈ s'.mem.log, a.block = some 0 ∧ a.dead = true) ∧ ¬ HeapNeutral 0 s s' := by
  obtain ⟨s, hcreate⟩ := noDevices_creates
  have hcreated := xcanSocketcanCreate_created hcreate
  obtain ⟨s', hdestroy, hfrees, hread⟩ := xcanDeviceDestroy_socketcan
    noOtherDrivers hcreated.destroy
  have hnone : s.mem.heap.frees = [] := by
    rw [hcreated.heap]
    rfl
  have hone : s'.mem.heap.frees = [0] := by
    rw [hfrees, hnone]
    rfl
  refine ⟨s, s', hcreate, hdestroy, ?_, hone, hread, ?_⟩
  · rw [hcreated.heap]
    rfl
  · intro h
    have hqueue := h.queueIn 1 hcreated.queueIn
    rw [hone] at hqueue
    cases hqueue

end XcanRouter
