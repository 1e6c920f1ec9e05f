import XcanRouter.HeadOfLine
import XcanRouter.Lifecycle

/-!
# Devices that come and go

SocketCAN devices are created and destroyed while frames pass. A creation may
fail at any of its calls, and it does not look at what its slot holds; a
destruction leaves its queues to nobody. Neither disturbs the devices that are
in use, and no destroyed device stays in `devices[]`. Names of interfaces that
fit, and frames of at most 64 bytes, are all that is copied into local
structures.
-/

namespace XcanRouter

open LinkedChain

/-- A stack with the devices that are in use. -/
structure Node where
  exchange : Exchange Bus
  /-- The devices that were created and not destroyed since. -/
  inUse : List Ptr := []

inductive NodeEvent where
  | create (api : SocketApi) (id : UInt8) (name : List UInt8)
  | destroy (dev : Ptr)
  | call (e : ExchangeEvent)

def nodeStep (rest : Drivers Bus) (fuel : Nat) (n : Node) : NodeEvent → Option Node
  | .create api id name =>
      (xcanSocketcanCreate api id name n.exchange.stack).map fun r => {
        exchange := { n.exchange with stack := r.2 }
        inUse := n.inUse ++ r.1.toList }
  | .destroy dev =>
      (xcanDeviceDestroy (socketcanDrivers rest) dev n.exchange.stack).map fun r => {
        exchange := { n.exchange with stack := r.2 }
        inUse := n.inUse.filter (· ≠ dev) }
  | .call e =>
      (exchangeStep (socketcanDrivers rest) fuel n.exchange e).map fun x =>
        { n with exchange := x }

/-- What a caller has to keep to: the name of an interface fits, only a device
that is in use is destroyed, or gets or gives frames, and frames that are put on
queues have at most 64 bytes. -/
def NodeEvent.Proper (fuel : Nat) (n : Node) : NodeEvent → Prop
  | .create _ _ name => (nameCopy name).InBounds
  | .destroy dev => dev ∈ n.inUse
  | .call e => e.Proper (· ∈ n.inUse) fuel n.exchange ∧ e.Short n.exchange.stack.mem

/-! ## What a creation does to the rest -/

/-- From `s` to `s'` the blocks below `b` kept their contents, and no call was
noted. -/
structure Spares (b : Ptr) (s s' : Stack Bus) : Prop where
  device : ∀ d, d < b → s'.mem.device d = s.mem.device d
  queue : ∀ q, q < b → s'.mem.queue q = s.mem.queue q
  frame : s'.mem.frame = s.mem.frame
  brk : s.mem.heap.brk ≤ s'.mem.heap.brk
  recvs : s'.recvs = s.recvs
  handed : s'.handed = s.handed
  sends : s'.sends = s.sends

theorem Spares.trans {b : Ptr} {s s' s'' : Stack Bus} (h : Spares b s s')
    (h' : Spares b s' s'') : Spares b s s'' where
  device d hd := (h'.device d hd).trans (h.device d hd)
  queue q hq := (h'.queue q hq).trans (h.queue q hq)
  frame := h'.frame.trans h.frame
  brk := Nat.le_trans h.brk h'.brk
  recvs := h'.recvs.trans h.recvs
  handed := h'.handed.trans h.handed
  sends := h'.sends.trans h.sends

section
variable {api : SocketApi} {id : UInt8} {name : List UInt8} {s s' : Stack Bus} {sc b : Ptr}

/-- **`xcan_device_init`** writes to the device, to new blocks and to a slot,
which it leaves alone when it fails. -/
theorem xcanDeviceInit_spares {dev : Ptr} {rc : Int} (hdev : b ≤ dev)
    (hb : b ≤ s.mem.heap.brk) (hrun : xcanDeviceInit dev id name s = some (rc, s')) :
    Spares b s s' ∧ (rc ≠ 0 → s'.devices = s.devices) ∧
      (rc = 0 → (s'.mem.device dev).id = id) := by
  have hdevice : ∀ v d, d < b → Function.update s.mem.device dev v d = s.mem.device d :=
    fun v d hd => Function.update_of_ne (Nat.ne_of_lt (Nat.lt_of_lt_of_le hd hdev)) _ _
  have hqueue : ∀ v q, q < b → Function.update s.mem.queue s.mem.heap.brk v q =
      s.mem.queue q :=
    fun v q hq => Function.update_of_ne (Nat.ne_of_lt (Nat.lt_of_lt_of_le hq hb)) _ _
  by_cases hid : xcanMaxDevices ≤ id.toNat
  · rw [xcanDeviceInit_rejected hid] at hrun
    cases hrun
    exact ⟨⟨fun _ _ => rfl, fun _ _ => rfl, rfl, Nat.le_refl _, rfl, rfl, rfl⟩, fun _ => rfl,
      fun h => absurd h (by decide)⟩
  cases hin : s.mem.heap.oom s.mem.heap.calls with
  | true =>
      simp [xcanDeviceInit, hid, hin, DeviceField.id, DeviceField.name,
        DeviceField.qIn] at hrun
      obtain ⟨rfl, rfl⟩ := hrun
      refine ⟨⟨?_, fun _ _ => rfl, rfl, Nat.le_refl _, rfl, rfl, rfl⟩, fun _ => rfl,
        fun h => absurd h (by decide)⟩
      intro d hd
      simpa using hdevice _ d hd
  | false =>
      cases hout : s.mem.heap.oom (s.mem.heap.calls + 1) with
      | true =>
          simp [xcanDeviceInit, hid, hin, hout, Stored.put, DeviceField.id,
            DeviceField.name, DeviceField.qIn, DeviceField.qOut] at hrun
          obtain ⟨rfl, rfl⟩ := hrun
          refine ⟨⟨?_, ?_, rfl, Nat.le_succ _, rfl, rfl, rfl⟩, fun _ => rfl,
            fun h => absurd h (by decide)⟩
          · intro d hd
            simpa using hdevice _ d hd
          · intro q hq
            simpa using hqueue _ q hq
      | false =>
          obtain ⟨m, hgranted, -, hheap, hdevice', hqueue', hframe⟩ :=
            xcanDeviceInit_granted dev name (Nat.lt_of_not_le hid) hin hout
          cases hgranted.symm.trans hrun
          refine ⟨⟨?_, ?_, hframe, ?_, rfl, rfl, rfl⟩, fun h => absurd rfl h, fun _ => ?_⟩
          · intro d hd
            show m.device d = _
            rw [hdevice', hdevice _ d hd]
          · intro q hq
            show m.queue q = _
            have hne : q ≠ s.mem.heap.brk + 1 :=
              Nat.ne_of_lt (Nat.lt_succ_of_lt (Nat.lt_of_lt_of_le hq hb))
            rw [hqueue', Function.update_of_ne hne, hqueue _ q hq]
          · show s.mem.heap.brk ≤ m.heap.brk
            rw [hheap]
            exact Nat.le_add_right _ 2
          · show (m.device dev).id = id
            rw [hdevice', Function.update_self, named]

theorem Opened.spares {fd : Int} {m : Mem} (h : Opened fd s.mem m) (w : Bus) :
    Spares s.mem.heap.brk s { s with mem := m, world := w } where
  device d hd := by
    show m.device d = _
    rw [h.device, Function.update_of_ne (Nat.ne_of_lt hd)]
  queue q _ := congrFun h.queue q
  frame := h.frame
  brk := by
    show s.mem.heap.brk ≤ m.heap.brk
    rw [h.heap]
    exact Nat.le_succ _
  recvs := rfl
  handed := rfl
  sends := rfl

/-- **`xcan_socketcan_create`**, whichever of its calls fail: the old blocks
keep their contents, the slots change only when a device was created, this
device then has what the stack calls, and a name that fits is copied in
bounds. -/
theorem xcanSocketcanCreate_spares (api : SocketApi) (id : UInt8) (name : List UInt8)
    (s : Stack Bus) :
    ∃ r s', xcanSocketcanCreate api id name s = some (r, s') ∧
      Spares s.mem.heap.brk s s' ∧ (r = none → s'.devices = s.devices) ∧
      (∀ sc, r = some sc → (s'.mem.device sc).id = id ∧
        (s'.mem.device sc).send = some .prvSend) ∧
      ((nameCopy name).InBounds → CopiesInBounds s.world s'.world) := by
  have hcopied : ∀ {w : Bus}, w.locals = s.world.locals ++ [nameCopy name] →
      (nameCopy name).InBounds → CopiesInBounds s.world w := by
    intro w hw hfits
    exact (copiesInBounds_iff hw).mpr (by simpa using hfits)
  cases halloc : s.mem.heap.oom s.mem.heap.calls with
  | true =>
      exact ⟨none, _, xcanSocketcanCreate_refused id name halloc,
        ⟨fun _ _ => rfl, fun _ _ => rfl, rfl, Nat.le_refl _, rfl, rfl, rfl⟩, fun _ => rfl,
        (fun _ h => nomatch h), fun _ => .of_eq rfl⟩
  | false =>
      by_cases hsocket : 0 ≤ api.socket
      swap
      · obtain ⟨m, hopened, hrun⟩ :=
          xcanSocketcanCreate_noSocket id name halloc (Int.not_le.mp hsocket)
        exact ⟨none, _, hrun, hopened.spares s.world, fun _ => rfl, (fun _ h => nomatch h),
          fun _ => .of_eq rfl⟩
      by_cases hbind : api.bind api.socket (boundIndex api s name) = -1
      · obtain ⟨m, hopened, hrun⟩ := xcanSocketcanCreate_noBind id name halloc hsocket hbind
        exact ⟨none, _, hrun, hopened.spares _, fun _ => rfl, (fun _ h => nomatch h),
          hcopied rfl⟩
      obtain ⟨m, hopened, hinit⟩ :=
        xcanSocketcanCreate_bound id name halloc hsocket hbind
      have hspared : Spares s.mem.heap.brk s (s.opened name m) := hopened.spares _
      by_cases hfails : InitFails id m.heap
      · obtain ⟨m₁, n, hfailed, -⟩ := xcanDeviceInit_fails (s := s.opened name m)
          s.mem.heap.brk name hfails
        obtain ⟨hspares, hdevices, -⟩ :=
          xcanDeviceInit_spares (Nat.le_refl _) hspared.brk hfailed
        have hall := hspared.trans hspares
        refine ⟨none, _, (hinit _ _ hfailed).1 (by decide), ?_,
          fun _ => hdevices (by decide), (fun _ h => nomatch h), hcopied rfl⟩
        exact ⟨hall.device, hall.queue, hall.frame, hall.brk, rfl, rfl, rfl⟩
      · obtain ⟨hid, hin, hout⟩ := not_initFails hfails
        obtain ⟨m₁, hgranted, -⟩ :=
          xcanDeviceInit_granted (s := s.opened name m) s.mem.heap.brk name hid hin hout
        obtain ⟨hspares, -, hnumber⟩ :=
          xcanDeviceInit_spares (Nat.le_refl _) hspared.brk hgranted
        have hall := hspared.trans hspares
        obtain ⟨m₂, hrun, hheap, hqueue, hframe, hdevice⟩ := (hinit _ _ hgranted).2 rfl
        refine ⟨_, _, hrun, ?_, fun h => (nomatch h), ?_, hcopied rfl⟩
        · refine ⟨?_, ?_, hframe.trans hall.frame, ?_, rfl, rfl, rfl⟩
          · intro d hd
            show m₂.device d = _
            rw [hdevice, Function.update_of_ne (Nat.ne_of_lt hd)]
            exact hall.device d hd
          · intro q hq
            show m₂.queue q = _
            rw [hqueue]
            exact hall.queue q hq
          · show s.mem.heap.brk ≤ m₂.heap.brk
            rw [hheap]
            exact hall.brk
        · intro sc hsc
          cases hsc
          show (m₂.device _).id = id ∧ (m₂.device _).send = _
          rw [hdevice, Function.update_self]
          exact ⟨hnumber rfl, rfl⟩

end

/-! ## What was noted about a device -/

/-- What was noted is about devices below `b`. -/
structure Noted (b : Ptr) (x : Exchange Bus) : Prop where
  recvs : ∀ c ∈ x.stack.recvs, c.dev < b
  handed : ∀ p ∈ x.stack.handed, p.1 < b
  sends : ∀ c ∈ x.stack.sends, c.dev < b
  posts : ∀ c ∈ x.posts, c.dev < b

section
variable {b b' : Ptr} {x x' : Exchange Bus} {D : Ptr → Prop}

theorem Noted.extends (h : Noted b x) (hx : x.Extends D x') (hD : ∀ d, D d → d < b)
    (hb : b ≤ b') : Noted b' x' where
  recvs c hc := Nat.lt_of_lt_of_le ((hx.recvs c hc).elim (h.recvs c) (hD c.dev)) hb
  handed p hp := Nat.lt_of_lt_of_le ((hx.handed p hp).elim (h.handed p) (hD p.1)) hb
  sends c hc := Nat.lt_of_lt_of_le ((hx.sends c hc).elim (h.sends c) (hD c.dev)) hb
  posts c hc := Nat.lt_of_lt_of_le ((hx.posts c hc).elim (h.posts c) (hD c.dev)) hb

theorem Noted.spares {s' : Stack Bus} (h : Noted b x) (hs : Spares b' x.stack s')
    (hb : b ≤ s'.mem.heap.brk) : Noted s'.mem.heap.brk { x with stack := s' } where
  recvs c hc := Nat.lt_of_lt_of_le (h.recvs c (hs.recvs ▸ hc)) hb
  handed p hp := Nat.lt_of_lt_of_le (h.handed p (hs.handed ▸ hp)) hb
  sends c hc := Nat.lt_of_lt_of_le (h.sends c (hs.sends ▸ hc)) hb
  posts c hc := Nat.lt_of_lt_of_le (h.posts c hc) hb

theorem Exchange.ShortPosts.spares {s' : Stack Bus} (h : x.ShortPosts)
    (hs : Spares b x.stack s') : { x with stack := s' }.ShortPosts :=
  h.kept rfl hs.brk fun f _ => by rw [hs.frame]

/-- Nothing was accepted for, or handed over from, a newer device. -/
theorem Noted.received (h : Noted b x) :
    framesOf b x.stack.handed = [] ∧ acceptedFrames b x.stack.recvs = [] := by
  constructor
  · rw [framesOf, List.map_eq_nil_iff, List.filter_eq_nil_iff]
    intro p hp heq
    exact Nat.lt_irrefl b (of_decide_eq_true heq ▸ h.handed p hp)
  · rw [acceptedFrames, acceptedCalls, List.filterMap_eq_nil_iff]
    intro c hc
    obtain ⟨hc, heq⟩ := List.mem_filter.mp hc
    exact absurd ((of_decide_eq_true heq).1 ▸ h.recvs c hc) (Nat.lt_irrefl b)

/-- Nothing was put on its output queue, or sent by it. -/
theorem Noted.sent (h : Noted b x) :
    framesOf b (sentOf x.stack.sends) = [] ∧ postedFrames b x.posts = [] := by
  constructor
  · exact framesOf_sentOf_other fun c hc heq => Nat.lt_irrefl b (heq ▸ h.sends c hc)
  · rw [postedFrames, List.map_eq_nil_iff, List.filter_eq_nil_iff]
    intro c hc heq
    exact Nat.lt_irrefl b ((of_decide_eq_true heq).1 ▸ h.posts c hc)

end

/-! ## The pool when devices come and go -/

section
variable {D : Ptr → Prop} {qi qo : Ptr → Ptr} {x x' : Exchange Bus} {s s' : Stack Bus}
  {F F' : Fifos Ptr Ptr} {rest : Drivers Bus} {fuel : Nat} {id : UInt8} {sc b : Ptr}

/-- The devices `D` and their queues are below `b`. -/
structure PoolBelow (D : Ptr → Prop) (qi qo : Ptr → Ptr) (b : Ptr) : Prop where
  device : ∀ d, D d → d < b
  queueIn : ∀ d, D d → qi d < b
  queueOut : ∀ d, D d → qo d < b

theorem PoolBelow.queue (h : PoolBelow D qi qo b) {q : Ptr} (hq : DeviceQueue D qi qo q) :
    q < b := by
  obtain ⟨d, hd, rfl | rfl⟩ := hq
  · exact h.queueIn d hd
  · exact h.queueOut d hd

theorem PoolBelow.mono {b' : Ptr} (h : PoolBelow D qi qo b) (hb : b ≤ b') : PoolBelow D qi qo b' :=
  ⟨fun d hd => Nat.lt_of_lt_of_le (h.device d hd) hb,
    fun d hd => Nat.lt_of_lt_of_le (h.queueIn d hd) hb,
    fun d hd => Nat.lt_of_lt_of_le (h.queueOut d hd) hb⟩

theorem Refines.spares (h : Refines (DeviceQueue D qi qo) s.mem F) (hs : Spares b s s')
    (hb : PoolBelow D qi qo b) : Refines (DeviceQueue D qi qo) s'.mem F :=
  h.congr (fun q hq => hs.queue q (hb.queue hq))
    (fun _ _ f _ => by rw [Mem.next, Mem.next, hs.frame])

/-- **A creation that fails** does not disturb the pool. -/
theorem Exchange.Inv.spares (h : x.Inv D qi qo F) (hs : Spares b x.stack s')
    (hb : PoolBelow D qi qo b) (hdevices : s'.devices = x.stack.devices) :
    { x with stack := s' }.Inv D qi qo F where
  recv :=
    { pool :=
        { registered := fun i d hi hd => h.recv.pool.registered i d hi (hdevices ▸ hd)
          wiring :=
            { qIn := fun d hd => by
                rw [hs.device d (hb.device d hd), h.recv.pool.wiring.qIn d hd]
              qOut := fun d hd => by
                rw [hs.device d (hb.device d hd), h.recv.pool.wiring.qOut d hd]
              in_inj := h.recv.pool.wiring.in_inj
              out_inj := h.recv.pool.wiring.out_inj
              in_ne_out := h.recv.pool.wiring.in_ne_out }
          refines := h.recv.pool.refines.spares hs hb }
      new := fun q f hf => Nat.lt_of_lt_of_le (h.recv.new q f hf) hs.brk
      accepted := fun d hd => by
        rw [hs.handed, hs.recvs]
        exact h.recv.accepted d hd }
  posted d hd := by
    rw [hs.sends]
    exact h.posted d hd
  others := h.others
  sending d hd := by
    rw [hs.device d (hb.device d hd)]
    exact h.sending d hd
  distinct := by
    rw [hdevices]
    exact h.distinct

/-- A stack of which nothing was freed yet. -/
def Stack.unfreed (s : Stack Bus) : Stack Bus :=
  { s with mem := s.mem.setHeap { s.mem.heap with frees := [] } }

theorem Created.unfreed (h : Created id sc s s') : Created id sc s.unfreed s'.unfreed where
  block := h.block
  heap := by
    show ({ s'.mem.heap with frees := [] } : Heap) = _
    rw [h.heap]
    rfl
  others := h.others
  queueIn := h.queueIn
  queueOut := h.queueOut
  destroy := h.destroy
  queue := h.queue
  frame := h.frame
  devices := h.devices

/-- What was freed plays no part in the wiring of the new device. -/
theorem Created.wired (h : Created id sc s s') (hok : PoolOk D qi qo s F)
    (hnew : Allocated s.mem F) (hb : PoolBelow D qi qo s.mem.heap.brk) :
    Wiring s'.mem (orNew D sc) (Function.update qi sc (sc + 1))
      (Function.update qo sc (sc + 2)) := by
  have hw : Wiring s.unfreed.mem D qi qo := hok.wiring.congr rfl
  have hsound : SoundPool D qi qo s.unfreed :=
    { pool := ⟨F, ⟨hok.registered, hw, hok.refines.of_eq rfl rfl⟩, hnew⟩
      device := hb.device
      queueIn := hb.queueIn
      queueOut := hb.queueOut
      freed := fun _ hfree => nomatch hfree }
  exact (h.unfreed.wiring hsound hw).congr rfl

/-- Queues of the pool are not those of a newer device. -/
theorem PoolBelow.queue_ne (hb : PoolBelow D qi qo sc) {q : Ptr} (hq : DeviceQueue D qi qo q)
    (k : Nat) :
    q ≠ sc + k :=
  Nat.ne_of_lt (Nat.lt_add_right k (hb.queue hq))

theorem PoolBelow.renewed (hb : PoolBelow D qi qo sc) (F : Fifos Ptr Ptr) {q : Ptr}
    (hq : DeviceQueue D qi qo q) :
    ((F.renew (sc + 1)).renew (sc + 2)).items q = F.items q := by
  rw [Fifos.renew_items_of_ne (hb.queue_ne hq 2), Fifos.renew_items_of_ne (hb.queue_ne hq 1)]

theorem PoolBelow.join (h : PoolBelow D qi qo sc) :
    PoolBelow (orNew D sc) (Function.update qi sc (sc + 1)) (Function.update qo sc (sc + 2))
      (sc + 3) := by
  have hne : ∀ d, D d → d ≠ sc := fun d hd => Nat.ne_of_lt (h.device d hd)
  have hold := h.mono (Nat.le_add_right sc 3)
  constructor
  · rintro d (hd | rfl)
    · exact hold.device d hd
    · exact Nat.lt_add_of_pos_right (by decide)
  · rintro d (hd | rfl)
    · rw [Function.update_of_ne (hne d hd)]
      exact hold.queueIn d hd
    · rw [Function.update_self]
      exact Nat.add_lt_add_left (by decide) d
  · rintro d (hd | rfl)
    · rw [Function.update_of_ne (hne d hd)]
      exact hold.queueOut d hd
    · rw [Function.update_self]
      exact Nat.add_lt_add_left (by decide) d

/-- The pool with the new device. -/
theorem PoolOk.join (h : PoolOk D qi qo s F) (hnew : Allocated s.mem F)
    (hc : Created id sc s s') (hb : PoolBelow D qi qo s.mem.heap.brk) :
    PoolOk (orNew D sc) (Function.update qi sc (sc + 1)) (Function.update qo sc (sc + 2)) s'
      ((F.renew (sc + 1)).renew (sc + 2)) where
  registered i d hi hd := by
    rw [hc.devices] at hd
    by_cases hid : i = id.toNat
    · rw [hid, Function.update_self] at hd
      exact .inr (Option.some_inj.mp hd).symm
    · rw [Function.update_of_ne hid] at hd
      exact .inl (h.registered i d hi hd)
  wiring := hc.wired h hnew hb
  refines := by
    have hold : ∀ d, D d → d ≠ sc := fun d hd =>
      Nat.ne_of_lt (by rw [hc.block]; exact hb.device d hd)
    have hone : Refines _ (s.mem.setQueue (sc + 1) {}) (F.renew (sc + 1)) :=
      h.refines.renew rfl rfl
    have htwo : Refines _ s'.mem ((F.renew (sc + 1)).renew (sc + 2)) :=
      hone.renew hc.queue hc.frame
    apply htwo.mono
    rintro q ⟨d, hd | rfl, rfl | rfl⟩
    · rw [Function.update_of_ne (hold d hd)]
      exact .inl (.inl (.qIn hd))
    · rw [Function.update_of_ne (hold d hd)]
      exact .inl (.inl (.qOut hd))
    · rw [Function.update_self]
      exact .inl (.inr rfl)
    · rw [Function.update_self]
      exact .inr rfl

/-- A slot is written with a device that is in no slot. -/
theorem DistinctDevices.join {devices : Nat → Option Ptr} {i₀ : Nat}
    (h : DistinctDevices devices) (hsc : ∀ i, i < xcanMaxDevices → devices i ≠ some sc) :
    DistinctDevices (Function.update devices i₀ (some sc)) := by
  intro i j d hi hj hdi hdj
  by_cases hii : i = i₀ <;> by_cases hjj : j = i₀
  · rw [hii, hjj]
  · rw [hii, Function.update_self, Option.some_inj] at hdi
    rw [Function.update_of_ne hjj, ← hdi] at hdj
    exact absurd hdj (hsc j hj)
  · rw [hjj, Function.update_self, Option.some_inj] at hdj
    rw [Function.update_of_ne hii, ← hdj] at hdi
    exact absurd hdi (hsc i hi)
  · rw [Function.update_of_ne hii] at hdi
    rw [Function.update_of_ne hjj] at hdj
    exact h i j d hi hj hdi hdj

/-- **A creation that succeeds** adds a device with two empty queues. -/
theorem Exchange.Inv.join (h : x.Inv D qi qo F) (hs : Spares x.stack.mem.heap.brk x.stack s')
    (hc : Created id sc x.stack s') (hb : PoolBelow D qi qo x.stack.mem.heap.brk)
    (hnoted : Noted x.stack.mem.heap.brk x)
    (hsend : (s'.mem.device sc).send = some .prvSend) :
    { x with stack := s' }.Inv (orNew D sc) (Function.update qi sc (sc + 1))
      (Function.update qo sc (sc + 2)) ((F.renew (sc + 1)).renew (sc + 2)) := by
  rw [← hc.block] at hb hnoted
  have hold : ∀ d, D d → d ≠ sc := fun d hd => Nat.ne_of_lt (hb.device d hd)
  constructor
  case recv =>
    constructor
    case pool => exact h.recv.pool.join h.recv.new hc (hc.block ▸ hb)
    case new =>
      intro q f hf
      exact Nat.lt_of_lt_of_le (h.recv.new q f (Fifos.mem_renew (Fifos.mem_renew hf).2).2) hs.brk
    case accepted =>
      intro d hd
      rw [hs.handed, hs.recvs]
      rcases hd with hd | rfl
      · rw [Function.update_of_ne (hold d hd), hb.renewed F (.qIn hd)]
        exact h.recv.accepted d hd
      · rw [Function.update_self, Fifos.renew_items_of_ne (by simp), Fifos.renew_items_self,
          hnoted.received.1, hnoted.received.2]
        rfl
  case posted =>
    intro d hd
    show framesOf d (sentOf s'.sends) ++ _ = postedFrames d x.posts
    rw [hs.sends]
    rcases hd with hd | rfl
    · rw [Function.update_of_ne (hold d hd), hb.renewed F (.qOut hd)]
      exact h.posted d hd
    · rw [Function.update_self, Fifos.renew_items_self, hnoted.sent.1, hnoted.sent.2]
      rfl
  case others =>
    intro q hq
    have hin : q ≠ sc + 1 := fun heq =>
      hq ⟨sc, .inr rfl, .inl (by rw [Function.update_self, heq])⟩
    have hout : q ≠ sc + 2 := fun heq =>
      hq ⟨sc, .inr rfl, .inr (by rw [Function.update_self, heq])⟩
    rw [Fifos.renew_items_of_ne hout, Fifos.renew_items_of_ne hin]
    apply h.others
    rintro ⟨d, hd, hdq⟩
    apply hq
    refine ⟨d, .inl hd, ?_⟩
    rw [Function.update_of_ne (hold d hd), Function.update_of_ne (hold d hd)]
    exact hdq
  case sending =>
    intro d hd
    show (s'.mem.device d).send ≠ none
    rcases hd with hd | rfl
    · rw [hs.device d (hc.block ▸ hb.device d hd)]
      exact h.sending d hd
    · rw [hsend]
      exact Option.some_ne_none _
  case distinct =>
    show DistinctDevices s'.devices
    rw [hc.devices]
    exact h.distinct.join fun i hi hsc => hold sc (h.recv.pool.registered i sc hi hsc) rfl

/-- **`xcan_device_destroy`** on a SocketCAN device frees it and clears the slot
with its number. -/
theorem xcanDeviceDestroy_spares (rest : Drivers Bus)
    (hdestroy : (s.mem.device sc).destroy = some .xcanSocketcanDestroy) :
    ∃ s', xcanDeviceDestroy (socketcanDrivers rest) sc s = some ((), s') ∧
      (∀ b, Spares b s s') ∧
      s'.devices = Function.update s.devices (s.mem.device sc).id.toNat none ∧
      s'.world.locals = s.world.locals := by
  refine ⟨_, by
    simp [xcanDeviceDestroy, callDestroy, DeviceField.destroy, DeviceField.id, hdestroy]
    rfl, ?spares, ?devices, ?locals⟩
  case spares =>
    intro b
    exact ⟨fun _ _ => rfl, fun _ _ => rfl, rfl, Nat.le_refl _, rfl, rfl, rfl⟩
  case devices => rfl
  case locals => rfl

/-- A queue that is not looked at any more. -/
theorem Refines.forget {Q Q' : Ptr → Prop} {m : Mem} {q : Ptr} (h : Refines Q m F)
    (hQ : ∀ q', Q' q' → Q q' ∧ q' ≠ q) : Refines Q' m (F.renew q) where
  represents q' hq' := by
    rw [Fifos.renew_items_of_ne (hQ q' hq').2]
    exact h.represents q' (hQ q' hq').1
  cap q' hq' := by
    rw [Fifos.renew_cap_of_ne (hQ q' hq').2]
    exact h.cap q' (hQ q' hq').1
  valid := h.valid.renew q

/-- The devices but one. -/
def without (D : Ptr → Prop) (sc d : Ptr) : Prop := D d ∧ d ≠ sc

theorem Wiring.queue_ne {m : Mem} (hw : Wiring m D qi qo) (hsc : D sc) {q : Ptr}
    (hq : DeviceQueue (without D sc) qi qo q) : q ≠ qi sc ∧ q ≠ qo sc := by
  obtain ⟨d, ⟨hd, hne⟩, rfl | rfl⟩ := hq
  · exact ⟨fun heq => hne (hw.in_inj d sc hd hsc heq), hw.in_ne_out d sc hd hsc⟩
  · exact ⟨fun heq => hw.in_ne_out sc d hsc hd heq.symm,
      fun heq => hne (hw.out_inj d sc hd hsc heq)⟩

/-- **A destruction** takes the device out of the pool, with its queues. -/
theorem Exchange.Inv.leave {i₀ : Nat} (h : x.Inv D qi qo F) (hs : ∀ b, Spares b x.stack s')
    (hsc : D sc) (hdevices : s'.devices = Function.update x.stack.devices i₀ none)
    (hslot : ∀ i, i < xcanMaxDevices → x.stack.devices i = some sc → i = i₀) :
    { x with stack := s' }.Inv (without D sc) qi qo ((F.renew (qi sc)).renew (qo sc)) := by
  have hw := h.recv.pool.wiring
  have hdevice : s'.mem.device = x.stack.mem.device :=
    funext fun d => (hs (d + 1)).device d (Nat.lt_succ_self d)
  have hitems : ∀ q, DeviceQueue (without D sc) qi qo q →
      ((F.renew (qi sc)).renew (qo sc)).items q = F.items q := by
    intro q hq
    rw [Fifos.renew_items_of_ne (hw.queue_ne hsc hq).2,
      Fifos.renew_items_of_ne (hw.queue_ne hsc hq).1]
  constructor
  case recv =>
    constructor
    case pool =>
      constructor
      case registered =>
        intro i d hi hd
        have hd' : Function.update x.stack.devices i₀ none i = some d := hdevices ▸ hd
        by_cases hid : i = i₀
        · rw [hid, Function.update_self] at hd'
          cases hd'
        · rw [Function.update_of_ne hid] at hd'
          exact ⟨h.recv.pool.registered i d hi hd', fun heq => hid (hslot i hi (heq ▸ hd'))⟩
      case wiring =>
        show Wiring s'.mem (without D sc) qi qo
        refine ⟨?_, ?_, ?_, ?_, ?_⟩
        · intro d hd
          rw [hdevice, hw.qIn d hd.1]
        · intro d hd
          rw [hdevice, hw.qOut d hd.1]
        · exact fun d d' hd hd' => hw.in_inj d d' hd.1 hd'.1
        · exact fun d d' hd hd' => hw.out_inj d d' hd.1 hd'.1
        · exact fun d d' hd hd' => hw.in_ne_out d d' hd.1 hd'.1
      case refines =>
        have hrep : Refines (DeviceQueue D qi qo) s'.mem F :=
          h.recv.pool.refines.of_eq
            (funext fun q => (hs (q + 1)).queue q (Nat.lt_succ_self q)) (hs 0).frame
        have hin : Refines (fun q => DeviceQueue D qi qo q ∧ q ≠ qi sc) s'.mem
            (F.renew (qi sc)) := hrep.forget fun q hq => hq
        apply hin.forget
        intro q hq
        obtain ⟨d, hd, hdq⟩ := hq
        have hne := hw.queue_ne hsc ⟨d, hd, hdq⟩
        exact ⟨⟨⟨d, hd.1, hdq⟩, hne.1⟩, hne.2⟩
    case new =>
      intro q f hf
      exact Nat.lt_of_lt_of_le (h.recv.new q f (Fifos.mem_renew (Fifos.mem_renew hf).2).2)
        (hs 0).brk
    case accepted =>
      intro d hd
      rw [(hs 0).handed, (hs 0).recvs, hitems _ (.qIn hd)]
      exact h.recv.accepted d hd.1
  case posted =>
    intro d hd
    rw [(hs 0).sends, hitems _ (.qOut hd)]
    exact h.posted d hd.1
  case others =>
    intro q hq
    by_cases hout : q = qo sc
    · rw [hout, Fifos.renew_items_self]
    rw [Fifos.renew_items_of_ne hout]
    by_cases hin : q = qi sc
    · rw [hin, Fifos.renew_items_self]
    rw [Fifos.renew_items_of_ne hin]
    apply h.others
    rintro ⟨d, hd, hdq⟩
    by_cases hdsc : d = sc
    · rw [hdsc] at hdq
      exact hdq.elim hin hout
    · exact hq ⟨d, ⟨hd, hdsc⟩, hdq⟩
  case sending =>
    intro d hd
    rw [hdevice]
    exact h.sending d hd.1
  case distinct =>
    intro i j d hi hj hdi hdj
    have hdi' : Function.update x.stack.devices i₀ none i = some d := hdevices ▸ hdi
    have hdj' : Function.update x.stack.devices i₀ none j = some d := hdevices ▸ hdj
    have hne : ∀ k, Function.update x.stack.devices i₀ none k = some d → k ≠ i₀ := by
      rintro _ hk rfl
      rw [Function.update_self] at hk
      cases hk
    rw [Function.update_of_ne (hne i hdi')] at hdi'
    rw [Function.update_of_ne (hne j hdj')] at hdj'
    exact h.distinct i j d hi hj hdi' hdj'

end

/-! ## Runs -/

/-- The devices in use pass frames as ever, know their slots, and are all that
the notes are about. What was put on output queues is short. -/
structure Node.Sound (qi qo : Ptr → Ptr) (n : Node) (F : Fifos Ptr Ptr) : Prop where
  inv : n.exchange.Inv (· ∈ n.inUse) qi qo F
  below : PoolBelow (· ∈ n.inUse) qi qo n.exchange.stack.mem.heap.brk
  noted : Noted n.exchange.stack.mem.heap.brk n.exchange
  short : n.exchange.ShortPosts
  send : ∀ d ∈ n.inUse, (n.exchange.stack.mem.device d).send = some .prvSend
  destroy : ∀ d ∈ n.inUse,
    (n.exchange.stack.mem.device d).destroy = some .xcanSocketcanDestroy
  number : ∀ i d, i < xcanMaxDevices → n.exchange.stack.devices i = some d →
    (n.exchange.stack.mem.device d).id.toNat = i

section
variable {qi qo : Ptr → Ptr} {n n' : Node} {F : Fifos Ptr Ptr} {rest : Drivers Bus}
  {fuel : Nat} {e : NodeEvent} {es : List NodeEvent}

theorem Node.Sound.create (h : n.Sound qi qo F) (api : SocketApi) (id : UInt8)
    {name : List UInt8} (hname : (nameCopy name).InBounds) :
    ∃ n', nodeStep rest fuel n (.create api id name) = some n' ∧
      CopiesInBounds n.exchange.stack.world n'.exchange.stack.world ∧
      ∃ qi' qo' F', n'.Sound qi' qo' F' := by
  obtain ⟨r, s', hrun, hspares, hnone, hsome, hcopies⟩ :=
    xcanSocketcanCreate_spares api id name n.exchange.stack
  refine ⟨⟨{ n.exchange with stack := s' }, n.inUse ++ r.toList⟩,
    by rw [nodeStep, hrun, Option.map_some], hcopies hname, ?_⟩
  have hnumber : ∀ i d, i < xcanMaxDevices → n.exchange.stack.devices i = some d →
      (s'.mem.device d).id.toNat = i := by
    intro i d hi hd
    rw [hspares.device d (h.below.device d (h.inv.recv.pool.registered i d hi hd))]
    exact h.number i d hi hd
  have hdestroy : ∀ d ∈ n.inUse,
      (s'.mem.device d).destroy = some .xcanSocketcanDestroy := by
    intro d hd
    rw [hspares.device d (h.below.device d hd)]
    exact h.destroy d hd
  have hsend : ∀ d ∈ n.inUse, (s'.mem.device d).send = some .prvSend := by
    intro d hd
    rw [hspares.device d (h.below.device d hd)]
    exact h.send d hd
  have hnoted := h.noted.spares hspares hspares.brk
  have hshort := h.short.spares hspares
  cases r with
  | none =>
      refine ⟨qi, qo, F, ?_⟩
      rw [Option.toList_none, List.append_nil]
      exact {
        inv := h.inv.spares hspares h.below (hnone rfl)
        below := h.below.mono hspares.brk
        noted := hnoted
        short := hshort
        send := hsend
        destroy := hdestroy
        number := fun i d hi hd => hnumber i d hi (hnone rfl ▸ hd) }
  | some sc =>
      obtain ⟨hid, hnew⟩ := hsome sc rfl
      have hc := xcanSocketcanCreate_created hrun
      have hD : (· ∈ n.inUse ++ [sc]) = orNew (· ∈ n.inUse) sc := by
        funext d
        simp [orNew]
      have hbrk : s'.mem.heap.brk = sc + 3 := by
        rw [hc.heap, hc.block]
        rfl
      refine ⟨Function.update qi sc (sc + 1), Function.update qo sc (sc + 2),
        (F.renew (sc + 1)).renew (sc + 2), ?_⟩
      constructor
      case inv =>
        show Exchange.Inv (· ∈ n.inUse ++ [sc]) _ _ _ _
        rw [hD]
        exact h.inv.join hspares hc h.below h.noted hnew
      case below =>
        show PoolBelow (· ∈ n.inUse ++ [sc]) _ _ s'.mem.heap.brk
        rw [hD, hbrk]
        exact PoolBelow.join (hc.block ▸ h.below)
      case noted => exact hnoted
      case short => exact hshort
      case send =>
        intro d hd
        rcases List.mem_append.mp hd with hd | hd
        · exact hsend d hd
        · rw [List.mem_singleton.mp hd]
          exact hnew
      case destroy =>
        intro d hd
        rcases List.mem_append.mp hd with hd | hd
        · exact hdestroy d hd
        · rw [List.mem_singleton.mp hd]
          exact hc.destroy
      case number =>
        intro i d hi hd
        have hd' : Function.update n.exchange.stack.devices id.toNat (some sc) i = some d :=
          hc.devices ▸ hd
        by_cases hii : i = id.toNat
        · rw [hii, Function.update_self, Option.some_inj] at hd'
          rw [hii, ← hid, hd']
        · rw [Function.update_of_ne hii] at hd'
          exact hnumber i d hi hd'

theorem Node.Sound.leave (h : n.Sound qi qo F) {dev : Ptr} (hdev : dev ∈ n.inUse) :
    ∃ n', nodeStep rest fuel n (.destroy dev) = some n' ∧
      CopiesInBounds n.exchange.stack.world n'.exchange.stack.world ∧
      ∃ qi' qo' F', n'.Sound qi' qo' F' := by
  obtain ⟨s', hrun, hspares, hdevices, hlocals⟩ :=
    xcanDeviceDestroy_spares rest (h.destroy dev hdev)
  have hD : (· ∈ n.inUse.filter (· ≠ dev)) = without (· ∈ n.inUse) dev := by
    funext d
    simp [without]
  have hdevice : s'.mem.device = n.exchange.stack.mem.device :=
    funext fun d => (hspares (d + 1)).device d (Nat.lt_succ_self d)
  have hslot := fun i hi hd => (h.number i dev hi hd).symm
  have hmem : ∀ d ∈ n.inUse.filter (· ≠ dev), d ∈ n.inUse := fun d hd =>
    (List.mem_filter.mp hd).1
  refine ⟨⟨{ n.exchange with stack := s' }, n.inUse.filter (· ≠ dev)⟩,
    by rw [nodeStep, hrun, Option.map_some], .of_eq hlocals, qi, qo,
    (F.renew (qi dev)).renew (qo dev), ?_⟩
  constructor
  case inv =>
    show Exchange.Inv (· ∈ n.inUse.filter (· ≠ dev)) _ _ _ _
    rw [hD]
    exact h.inv.leave hspares hdev hdevices hslot
  case below =>
    have hbelow := h.below.mono (hspares 0).brk
    exact ⟨fun d hd => hbelow.device d (hmem d hd), fun d hd => hbelow.queueIn d (hmem d hd),
      fun d hd => hbelow.queueOut d (hmem d hd)⟩
  case noted => exact h.noted.spares (hspares 0) (hspares 0).brk
  case short => exact h.short.spares (hspares 0)
  case send =>
    intro d hd
    show (s'.mem.device d).send = _
    rw [hdevice]
    exact h.send d (hmem d hd)
  case destroy =>
    intro d hd
    show (s'.mem.device d).destroy = _
    rw [hdevice]
    exact h.destroy d (hmem d hd)
  case number =>
    intro i d hi hd
    show (s'.mem.device d).id.toNat = i
    have hd' : Function.update n.exchange.stack.devices _ none i = some d := hdevices ▸ hd
    rw [hdevice]
    apply h.number i d hi
    by_cases hii : i = (n.exchange.stack.mem.device dev).id.toNat
    · rw [hii, Function.update_self] at hd'
      cases hd'
    · rwa [Function.update_of_ne hii] at hd'

theorem Node.Sound.call (h : n.Sound qi qo F) {e : ExchangeEvent} (hfuel : 20 < fuel)
    (he : e.Proper (· ∈ n.inUse) fuel n.exchange) (hs : e.Short n.exchange.stack.mem) :
    ∃ n', nodeStep rest fuel n (.call e) = some n' ∧
      CopiesInBounds n.exchange.stack.world n'.exchange.stack.world ∧
      ∃ F', n'.Sound qi qo F' := by
  obtain ⟨x', hstep, F', hinv⟩ := h.inv.step (socketcanDrivers rest) hfuel he
  have hx := h.inv.extends hfuel he hstep
  obtain ⟨hshort, hcopies⟩ := h.inv.copies h.send h.short hfuel he hs hstep
  refine ⟨⟨x', n.inUse⟩, by rw [nodeStep, hstep, Option.map_some], hcopies, F', hinv,
    h.below.mono hx.brk, h.noted.extends hx h.below.device hx.brk, hshort, ?_, ?_, ?_⟩
  · show ∀ d ∈ n.inUse, (x'.stack.mem.device d).send = _
    rw [hx.device]
    exact h.send
  · show ∀ d ∈ n.inUse, (x'.stack.mem.device d).destroy = _
    rw [hx.device]
    exact h.destroy
  · show ∀ i d, i < xcanMaxDevices → x'.stack.devices i = some d →
      (x'.stack.mem.device d).id.toNat = i
    rw [hx.device, hx.devices]
    exact h.number

/-- **The step lemma.** -/
theorem Node.Sound.step (rest : Drivers Bus) (h : n.Sound qi qo F) (hfuel : 20 < fuel)
    (he : e.Proper fuel n) :
    ∃ n', nodeStep rest fuel n e = some n' ∧
      CopiesInBounds n.exchange.stack.world n'.exchange.stack.world ∧
      ∃ qi' qo' F', n'.Sound qi' qo' F' := by
  cases e with
  | create api id name => exact h.create api id he
  | destroy dev => exact h.leave he
  | call e =>
      obtain ⟨n', hstep, hcopies, F', h'⟩ := h.call hfuel he.1 he.2
      exact ⟨n', hstep, hcopies, qi, qo, F', h'⟩

theorem Node.Sound.run (rest : Drivers Bus) (h : n.Sound qi qo F) (hfuel : 20 < fuel)
    (hes : Runs.Meets (nodeStep rest fuel) (fun n e => e.Proper fuel n) n es) :
    ∃ n', Runs.run (nodeStep rest fuel) n es = some n' ∧
      CopiesInBounds n.exchange.stack.world n'.exchange.stack.world ∧
      ∃ qi' qo' F', n'.Sound qi' qo' F' := by
  have hstep : ∀ (n₁ : Node) (e : NodeEvent),
      (CopiesInBounds n.exchange.stack.world n₁.exchange.stack.world ∧
        ∃ qi qo F, n₁.Sound qi qo F) → e.Proper fuel n₁ →
      ∃ n', nodeStep rest fuel n₁ e = some n' ∧
        CopiesInBounds n.exchange.stack.world n'.exchange.stack.world ∧
        ∃ qi' qo' F', n'.Sound qi' qo' F' := by
    rintro n₁ e ⟨hcopies, qi, qo, F, h₁⟩ he
    obtain ⟨n', hs, hcopies', h'⟩ := h₁.step rest hfuel he
    exact ⟨n', hs, hcopies.trans hcopies', h'⟩
  exact Runs.run_of_inv hstep ⟨.of_eq rfl, qi, qo, F, h⟩ hes

end

/-- No device was created yet, and nothing was called. -/
structure Node.Start (n : Node) : Prop where
  inUse : n.inUse = []
  devices : ∀ i, i < xcanMaxDevices → n.exchange.stack.devices i = none
  recvs : n.exchange.stack.recvs = []
  handed : n.exchange.stack.handed = []
  sends : n.exchange.stack.sends = []
  posts : n.exchange.posts = []

theorem Node.Start.sound {n : Node} (h : n.Start) :
    n.Sound id id (Fifos.empty fun _ => 0) := by
  have hnone : ∀ d, d ∉ n.inUse := by simp [h.inUse]
  have hslot : ∀ i d, i < xcanMaxDevices → n.exchange.stack.devices i ≠ some d := by
    intro i d hi hd
    rw [h.devices i hi] at hd
    cases hd
  have hqueue : ∀ q, ¬ DeviceQueue (· ∈ n.inUse) id id q := fun q ⟨d, hd, _⟩ => hnone d hd
  constructor
  case inv =>
    exact {
      recv :=
        { pool :=
            { registered := fun i d hi hd => absurd hd (hslot i d hi)
              wiring :=
                { qIn := fun d hd => absurd hd (hnone d)
                  qOut := fun d hd => absurd hd (hnone d)
                  in_inj := fun d _ hd => absurd hd (hnone d)
                  out_inj := fun d _ hd => absurd hd (hnone d)
                  in_ne_out := fun d _ hd => absurd hd (hnone d) }
              refines :=
                { represents := fun q hq => absurd hq (hqueue q)
                  cap := fun q hq => absurd hq (hqueue q)
                  valid := Fifos.empty_valid _ } }
          new := fun _ _ hf => nomatch hf
          accepted := fun d hd => absurd hd (hnone d) }
      posted := fun d hd => absurd hd (hnone d)
      others := fun _ _ => rfl
      sending := fun d hd => absurd hd (hnone d)
      distinct := fun i _ d hi _ hd => absurd hd (hslot i d hi) }
  case below =>
    exact ⟨fun d hd => absurd hd (hnone d), fun d hd => absurd hd (hnone d),
      fun d hd => absurd hd (hnone d)⟩
  case noted =>
    constructor
    · simp [h.recvs]
    · simp [h.handed]
    · simp [h.sends]
    · simp [h.posts]
  case short =>
    intro c hc
    rw [h.posts] at hc
    cases hc
  case send => exact fun d hd => absurd hd (hnone d)
  case destroy => exact fun d hd => absurd hd (hnone d)
  case number => exact fun i d hi hd => absurd hd (hslot i d hi)

/-- **Devices come and go without disturbing the others.** In every interleaving
of creations under names that fit, whatever their calls return and whatever
their slots hold, destructions of devices in use, receptions, ticks, loops and
calls that put frames of at most 64 bytes on output queues, `devices[]` holds
devices in use only, none of them twice, and for each device in use what was
accepted for it since its creation is what was handed over from it and what its
input queue holds, in this order, and what was put on its output queue is what
its `send` took and what this queue holds. Nothing is copied past the end of a
local structure. -/
theorem devices_come_and_go {n₀ : Node} {rest : Drivers Bus} {fuel : Nat}
    {es : List NodeEvent} (hfuel : 20 < fuel) (h₀ : n₀.Start)
    (hes : Runs.Meets (nodeStep rest fuel) (fun n e => e.Proper fuel n) n₀ es) :
    ∃ n, Runs.run (nodeStep rest fuel) n₀ es = some n ∧
      CopiesInBounds n₀.exchange.stack.world n.exchange.stack.world ∧
      (∀ i d, i < xcanMaxDevices → n.exchange.stack.devices i = some d → d ∈ n.inUse) ∧
      DistinctDevices n.exchange.stack.devices ∧
      ∀ d ∈ n.inUse, ∃ received toSend, LinkedIn n.exchange.stack.mem d received ∧
        LinkedOut n.exchange.stack.mem d toSend ∧
        framesOf d n.exchange.stack.handed ++ received =
          acceptedFrames d n.exchange.stack.recvs ∧
        framesOf d (sentOf n.exchange.stack.sends) ++ toSend =
          postedFrames d n.exchange.posts := by
  obtain ⟨n, hrun, hcopies, qi, qo, F, h⟩ := h₀.sound.run rest hfuel hes
  have hpool := h.inv.recv.pool
  refine ⟨n, hrun, hcopies, hpool.registered, h.inv.distinct, ?_⟩
  intro d hd
  exact ⟨_, _, hpool.linkedIn hd, hpool.linkedOut hd, h.inv.recv.accepted d hd,
    h.inv.posted d hd⟩

/-- A node before it has created a device. -/
abbrev noDevicesNode : Node := { exchange := { stack := noDevices } }

theorem noDevicesNode_start : noDevicesNode.Start where
  inUse := rfl
  devices _ _ := rfl
  recvs := rfl
  handed := rfl
  sends := rfl
  posts := rfl

/-- What is in use changes only when devices come and go. -/
theorem nodeStep_call_inUse {rest : Drivers Bus} {fuel : Nat} {n n' : Node} {e : ExchangeEvent}
    (h : nodeStep rest fuel n (.call e) = some n') : n'.inUse = n.inUse := by
  obtain ⟨x, -, rfl⟩ := Option.map_eq_some_iff.mp h
  rfl

/-- A device is created, gets a frame that a tick hands over, and is
destroyed. -/
theorem devices_come_and_go_one_device :
    ∃ n, Runs.run (nodeStep noOtherDrivers 21) noDevicesNode
        [.create {} 0 [118], .call (.call (.recv 0 5 0 (fun _ => 7) 8)), .call (.call .tick),
          .destroy 0] = some n ∧
      CopiesInBounds noDevicesNode.exchange.stack.world n.exchange.stack.world ∧
      (∀ i d, i < xcanMaxDevices → n.exchange.stack.devices i = some d → d ∈ n.inUse) ∧
      DistinctDevices n.exchange.stack.devices ∧
      ∀ d ∈ n.inUse, ∃ received toSend, LinkedIn n.exchange.stack.mem d received ∧
        LinkedOut n.exchange.stack.mem d toSend ∧
        framesOf d n.exchange.stack.handed ++ received =
          acceptedFrames d n.exchange.stack.recvs ∧
        framesOf d (sentOf n.exchange.stack.sends) ++ toSend =
          postedFrames d n.exchange.posts := by
  apply devices_come_and_go (by decide) noDevicesNode_start
  obtain ⟨s, hcreate⟩ := noDevices_creates
  constructor
  · exact (by decide : (nameCopy [118]).InBounds)
  · intro n₁ h₁
    rw [nodeStep, hcreate] at h₁
    cases h₁
    constructor
    · exact ⟨List.mem_singleton_self 0, trivial⟩
    · intro n₂ h₂
      constructor
      · exact ⟨trivial, trivial⟩
      · intro n₃ h₃
        refine ⟨?_, fun _ _ => trivial⟩
        show 0 ∈ n₃.inUse
        rw [nodeStep_call_inUse h₃, nodeStep_call_inUse h₂]
        exact List.mem_singleton_self 0

end XcanRouter
