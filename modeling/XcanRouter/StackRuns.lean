import XcanRouter.Stack

/-!
# Runs of the stack

A run is a sequence of calls into the stack: receptions, by the drivers, and
ticks, by the main loop. One step lemma says what a call can do to a pool; the
invariants of whole runs follow from it.
-/

namespace XcanRouter

open LinkedChain

variable {W : Type}

/-- A call into the stack. -/
inductive StackEvent where
  | recv (dev : Ptr) (canId : UInt32) (flags : UInt8) (data : Bytes) (len : UInt8)
  | tick

def stackStep (drv : Drivers W) (fuel : Nat) (s : Stack W) :
    StackEvent → Option (Stack W)
  | .recv dev canId flags data len =>
      (xcanStackRecv dev canId flags data len s).map Prod.snd
  | .tick => (xcanStackTick drv fuel s).map Prod.snd

/-- Receptions are on devices of `D` only. -/
def StackEvent.On (D : Ptr → Prop) : StackEvent → Prop
  | .recv dev _ _ _ _ => D dev
  | .tick => True

/-- What a call may do to a pool whose queues hold the lists of `F`. -/
inductive StackEffect (D : Ptr → Prop) (qi : Ptr → Ptr) (s : Stack W)
    (F : Fifos Ptr Ptr) : StackEvent → Stack W → Fifos Ptr Ptr → Prop
  | recv {dev : Ptr} {canId : UInt32} {flags : UInt8} {data : Bytes} {len : UInt8}
      {rc : Int} {fr : Option Ptr} {m' : Mem} {F' : Fifos Ptr Ptr}
      (hd : D dev) (heff : RecvEffect dev qi s.mem m' F fr rc F')
      (hle : s.mem.heap.brk ≤ m'.heap.brk)
      (hlt : fr ≠ none → s.mem.heap.brk < m'.heap.brk) :
      StackEffect D qi s F (.recv dev canId flags data len)
        { s with
          mem := m'
          recvs := s.recvs ++
            [⟨dev, canId, flags, len, bytesOf data len.toNat, fr, rc⟩] } F'
  | tick {calls : List (Ptr × Ptr)} {s' : Stack W} {F' : Fifos Ptr Ptr}
      (hc : Consumed D qi s F calls s' F')
      (hiff : calls ≠ [] ↔ HasInput qi s (List.range xcanMaxDevices)) :
      StackEffect D qi s F .tick s' F'

section
variable {D : Ptr → Prop} {qi qo : Ptr → Ptr} {s s' s₀ : Stack W}
  {F F' F₀ : Fifos Ptr Ptr} {drv : Drivers W} {fuel : Nat} {e : StackEvent}
  {es : List StackEvent}

/-- **The step lemma**: a call on the pool returns, keeps the pool, and has one
of the effects above. -/
theorem stackStep_spec (drv : Drivers W) (hfuel : 20 < fuel) (hok : PoolOk D qi qo s F)
    (hnew : Allocated s.mem F) (he : e.On D) :
    ∃ s' F', stackStep drv fuel s e = some s' ∧ StackEffect D qi s F e s' F' ∧
      PoolOk D qi qo s' F' ∧ Allocated s'.mem F' := by
  cases e with
  | recv dev canId flags data len =>
      obtain ⟨rc, fr, m', F', hrun, heff, hrep, hwire, hnew', hle, hlt⟩ :=
        xcanStackRecv_spec canId flags data len hok hnew he
      refine ⟨_, F', by simp only [stackStep, hrun, Option.map_some],
        .recv he heff hle hlt, ⟨hok.registered, hwire, hrep⟩, hnew'⟩
  | tick =>
      obtain ⟨s', calls, F', hrun, hok', hc, hiff⟩ := xcanStackTick_spec drv hfuel hok
      exact ⟨s', F', by simp only [stackStep, hrun, Option.map_some], .tick hc hiff, hok',
        hnew.of_consumed hc⟩

/-- The same for a call that is known to have returned. -/
theorem stackStep_effect (hfuel : 20 < fuel) (hok : PoolOk D qi qo s F)
    (hnew : Allocated s.mem F) (he : e.On D) (hstep : stackStep drv fuel s e = some s') :
    ∃ F', StackEffect D qi s F e s' F' ∧ PoolOk D qi qo s' F' ∧ Allocated s'.mem F' := by
  obtain ⟨s₁, F', hstep₁, heff⟩ := stackStep_spec drv hfuel hok hnew he
  obtain rfl : s₁ = s' := Option.some_inj.mp (hstep₁.symm.trans hstep)
  exact ⟨F', heff⟩

/-- No call changes which devices are registered. -/
theorem StackEffect.devices (h : StackEffect D qi s F e s' F') :
    s'.devices = s.devices := by
  cases h with
  | recv => rfl
  | tick hc => exact hc.devices

/-- No call sends anything. -/
theorem StackEffect.sends (h : StackEffect D qi s F e s' F') :
    s'.sends = s.sends := by
  cases h with
  | recv => rfl
  | tick hc => exact hc.sends

/-! ## Received frames -/

/-- The calls of `xcan_stack_recv` on `d` that returned 0. -/
def acceptedCalls (d : Ptr) (calls : List RecvCall) : List RecvCall :=
  calls.filter fun c => c.dev = d ∧ c.rc = 0

/-- The frames that these calls allocated. -/
def acceptedFrames (d : Ptr) (calls : List RecvCall) : List Ptr :=
  (acceptedCalls d calls).filterMap RecvCall.frame

@[simp] theorem acceptedCalls_append (d : Ptr) (xs ys : List RecvCall) :
    acceptedCalls d (xs ++ ys) = acceptedCalls d xs ++ acceptedCalls d ys := by
  simp [acceptedCalls]

@[simp] theorem acceptedFrames_append (d : Ptr) (xs ys : List RecvCall) :
    acceptedFrames d (xs ++ ys) = acceptedFrames d xs ++ acceptedFrames d ys := by
  simp [acceptedFrames]

theorem acceptedCalls_other {d : Ptr} {c : RecvCall} (h : c.dev ≠ d ∨ c.rc ≠ 0) :
    acceptedCalls d [c] = [] := by
  simp only [acceptedCalls, List.filter_eq_nil_iff, List.mem_singleton,
    decide_eq_true_eq]
  rintro c' rfl ⟨hd, hrc⟩
  exact h.elim (· hd) (· hrc)

@[simp] theorem acceptedCalls_self {d : Ptr} {canId : UInt32} {flags len : UInt8}
    {payload : List UInt8} {fr : Option Ptr} :
    acceptedCalls d [⟨d, canId, flags, len, payload, fr, 0⟩] =
      [⟨d, canId, flags, len, payload, fr, 0⟩] := by
  simp [acceptedCalls]

theorem acceptedFrames_other {d : Ptr} {c : RecvCall} (h : c.dev ≠ d ∨ c.rc ≠ 0) :
    acceptedFrames d [c] = [] := by
  rw [acceptedFrames, acceptedCalls_other h, List.filterMap_nil]

@[simp] theorem acceptedFrames_self {d f : Ptr} {canId : UInt32} {flags len : UInt8}
    {payload : List UInt8} :
    acceptedFrames d [⟨d, canId, flags, len, payload, some f, 0⟩] = [f] := by
  simp [acceptedFrames]

/-- The frames handed over from each device, followed by those in its input
queue, are the ones accepted for it. -/
structure RecvInv (D : Ptr → Prop) (qi qo : Ptr → Ptr) (s : Stack W)
    (F : Fifos Ptr Ptr) : Prop where
  pool : PoolOk D qi qo s F
  new : Allocated s.mem F
  accepted : ∀ d, D d → framesOf d s.handed ++ F.items (qi d) = acceptedFrames d s.recvs

theorem RecvInv.step (h : RecvInv D qi qo s F) (heff : StackEffect D qi s F e s' F')
    (hok : PoolOk D qi qo s' F') (hnew : Allocated s'.mem F') :
    RecvInv D qi qo s' F' := by
  refine ⟨hok, hnew, ?_⟩
  intro d hd
  cases heff with
  | @recv dev _ _ _ _ _ _ _ _ hdev heff =>
      cases heff with
      | noFrame | rejected =>
          rw [acceptedFrames_append, acceptedFrames_other (.inr (by simp)),
            List.append_nil]
          exact h.accepted d hd
      | accepted =>
          rw [acceptedFrames_append, ← h.accepted d hd]
          by_cases hdd : dev = d
          · subst hdd
            rw [acceptedFrames_self, Fifos.push_items_self, List.append_assoc]
          · have hne : qi d ≠ qi dev := fun he =>
              hdd (h.pool.wiring.in_inj d dev hd hdev he).symm
            rw [acceptedFrames_other (.inl hdd), Fifos.push_items_of_ne hne,
              List.append_nil]
  | tick hc =>
      rw [hc.handed, hc.recvs, framesOf_append, List.append_assoc, hc.input d hd]
      exact h.accepted d hd

/-- A pool before its first call: its queues are empty. -/
structure PoolFresh (D : Ptr → Prop) (qi qo : Ptr → Ptr) (s : Stack W) : Prop where
  registered : ∀ i d, i < xcanMaxDevices → s.devices i = some d → D d
  wiring : Wiring s.mem D qi qo
  empty : ∀ q, DeviceQueue D qi qo q →
    s.mem.queue q = { maxFrames := (s.mem.queue q).maxFrames }
  recvs : s.recvs = []
  handed : s.handed = []

theorem PoolFresh.inv (h : PoolFresh D qi qo s) :
    RecvInv D qi qo s (Fifos.empty fun q => (s.mem.queue q).maxFrames.toNat) where
  pool := {
    registered := h.registered
    wiring := h.wiring
    refines := {
      represents := fun q hq => Represents.empty (by rw [h.empty q hq])
        (by rw [h.empty q hq]) (by rw [h.empty q hq])
      cap := fun _ _ => rfl
      valid := Fifos.empty_valid _ } }
  new := fun _ _ hf => nomatch hf
  accepted := fun d _ => by simp [h.handed, h.recvs, Fifos.empty, acceptedFrames,
    acceptedCalls]

/-- `l` are the frames linked in `d->q_in`, in order. -/
def LinkedIn (m : Mem) (d : Ptr) (l : List Ptr) : Prop :=
  ∃ q, (m.device d).qIn = some q ∧ Chain m.next (m.queue q).head l

theorem PoolOk.linkedIn (h : PoolOk D qi qo s F) {d : Ptr} (hd : D d) :
    LinkedIn s.mem d (F.items (qi d)) :=
  ⟨qi d, h.wiring.qIn d hd, (h.refines.represents _ (.qIn hd)).chain⟩

/-- Every run of calls on the pool keeps the invariant. -/
theorem RecvInv.run (hfuel : 20 < fuel) (h : RecvInv D qi qo s₀ F₀)
    (hon : ∀ e ∈ es, e.On D) :
    ∃ s, Runs.run (stackStep drv fuel) s₀ es = some s ∧ ∃ F, RecvInv D qi qo s F :=
  Runs.run_of_inv (I := fun s => ∃ F, RecvInv D qi qo s F)
    (fun _ _ ⟨_, h⟩ he => by
      obtain ⟨s', F', hstep, heff, hok, hnew⟩ := stackStep_spec drv hfuel h.pool h.new he
      exact ⟨s', hstep, F', h.step heff hok hnew⟩) ⟨F₀, h⟩ (Runs.meets_of_forall hon)

end

/-! ## A pool of two devices -/

/-- The blocks `1` and `2` are devices with empty queues, in the first two
slots. -/
def poolOfTwo (send : Callback) (world : W) : Stack W where
  mem :=
    { heap := { brk := 100 }
      device := fun d =>
        { qIn := some (10 * d), qOut := some (10 * d + 1), send := some send, fd := d } }
  devices := fun i => if i < 2 then some (i + 1) else none
  world := world

def IsTwo (d : Ptr) : Prop := d = 1 ∨ d = 2

section
variable (send : Callback) (world : W)

theorem poolOfTwo_registered :
    ∀ i d, i < xcanMaxDevices → (poolOfTwo send world).devices i = some d → IsTwo d := by
  intro i d _ hd
  change (if i < 2 then some (i + 1) else none) = some d at hd
  by_cases hi : i < 2
  · rw [if_pos hi] at hd
    obtain rfl : i + 1 = d := Option.some.inj hd
    rcases i with _ | _ | i
    · exact .inl rfl
    · exact .inr rfl
    · omega
  · rw [if_neg hi] at hd
    cases hd

theorem poolOfTwo_wiring :
    Wiring (poolOfTwo send world).mem IsTwo (10 * ·) (10 * · + 1) := by
  refine ⟨fun _ _ => rfl, fun _ _ => rfl, ?_, ?_, ?_⟩ <;>
    rintro d d' (rfl | rfl) (rfl | rfl) <;> simp

theorem poolOfTwo_fresh :
    PoolFresh IsTwo (10 * ·) (10 * · + 1) (poolOfTwo send world) where
  registered := poolOfTwo_registered send world
  wiring := poolOfTwo_wiring send world
  empty _ _ := rfl
  recvs := rfl
  handed := rfl

end

/-- Two devices of a driver that accepts every frame. -/
abbrev twoDevices : Stack Unit := poolOfTwo (.other 0) ()

def acceptAll : Drivers Unit where
  send := fun _ _ _ _ _ _ _ w => (0, w)
  destroy := fun _ _ m w => (m, w)

theorem twoDevices_fresh : PoolFresh IsTwo (10 * ·) (10 * · + 1) twoDevices :=
  poolOfTwo_fresh _ _

/-! ## Hand-over -/

/-- **Hand-over is exactly once and in order.** Whatever the interleaving of
receptions and ticks, the frames that `devloop_in` handed over from a device
and the frames still linked in its input queue are, in this order, the frames
that `xcan_stack_recv` accepted for it. -/
theorem handover_exactly_once {D : Ptr → Prop} {qi qo : Ptr → Ptr} {s₀ : Stack W}
    {drv : Drivers W} {fuel : Nat} {es : List StackEvent} (hfuel : 20 < fuel)
    (hfresh : PoolFresh D qi qo s₀) (hon : ∀ e ∈ es, e.On D) :
    ∃ s, Runs.run (stackStep drv fuel) s₀ es = some s ∧
      ∀ d, D d → ∃ linked, LinkedIn s.mem d linked ∧
        framesOf d s.handed ++ linked = acceptedFrames d s.recvs := by
  obtain ⟨s, hrun, F, hinv⟩ := hfresh.inv.run hfuel hon
  exact ⟨s, hrun, fun d hd => ⟨_, hinv.pool.linkedIn hd, hinv.accepted d hd⟩⟩

/-- Two receptions on one device with a tick between them. -/
theorem handover_exactly_once_two_devices :
    ∃ s, Runs.run (stackStep acceptAll 21) twoDevices
        [.recv 1 5 0 (fun _ => 7) 8, .tick, .recv 1 6 0 (fun _ => 9) 8] = some s ∧
      ∀ d, IsTwo d → ∃ linked, LinkedIn s.mem d linked ∧
        framesOf d s.handed ++ linked = acceptedFrames d s.recvs :=
  handover_exactly_once (by decide) twoDevices_fresh (by
    simp [StackEvent.On, IsTwo])

/-! ## Output -/

section
variable {D : Ptr → Prop} {qi qo : Ptr → Ptr} {s s' s₀ : Stack W}
  {F F' F₀ : Fifos Ptr Ptr} {drv : Drivers W} {fuel : Nat} {e : StackEvent}
  {es : List StackEvent}

/-- `l` are the frames linked in `d->q_out`, in order. -/
def LinkedOut (m : Mem) (d : Ptr) (l : List Ptr) : Prop :=
  ∃ q, (m.device d).qOut = some q ∧ Chain m.next (m.queue q).head l

theorem PoolOk.linkedOut (h : PoolOk D qi qo s F) {d : Ptr} (hd : D d) :
    LinkedOut s.mem d (F.items (qo d)) :=
  ⟨qo d, h.wiring.qOut d hd, (h.refines.represents _ (.qOut hd)).chain⟩

/-- A registered device has a frame to send, and its `send` accepts frames. -/
def Pending (drv : Drivers W) (s : Stack W) : Prop :=
  ∃ i d l cb, i < xcanMaxDevices ∧ s.devices i = some d ∧ LinkedOut s.mem d l ∧ l ≠ [] ∧
    (s.mem.device d).send = some cb ∧
    ∀ id flags data len m w, (drv.send cb d id flags data len m w).1 = 0

/-- From `s` to `s'` a frame left an output queue through `send`. -/
def Serviced (s s' : Stack W) : Prop :=
  ∃ new, s'.sends = s.sends ++ new ∧ ∃ c ∈ new, c.rc = 0 ∧
    ∃ l l', LinkedOut s.mem c.dev l ∧ LinkedOut s'.mem c.dev l' ∧
      c.frame ∈ l ∧ c.frame ∉ l'

theorem not_serviced_of_sends (h : s'.sends = s.sends) : ¬ Serviced s s' := by
  rintro ⟨new, hsends, c, hc, -⟩
  have hnil : new = [] := List.append_cancel_left
    (hsends.symm.trans (h.trans (List.append_nil _).symm))
  rw [hnil] at hc
  cases hc

/-- A pool on which any call may be made. -/
def PoolState (D : Ptr → Prop) (qi qo : Ptr → Ptr) (s : Stack W) : Prop :=
  ∃ F, PoolOk D qi qo s F ∧ Allocated s.mem F

theorem PoolState.step (hfuel : 20 < fuel) (h : PoolState D qi qo s) (he : e.On D) :
    ∃ s', stackStep drv fuel s e = some s' ∧ PoolState D qi qo s' ∧
      s'.sends = s.sends := by
  obtain ⟨F, hok, hnew⟩ := h
  obtain ⟨s', F', hstep, heff, hok', hnew'⟩ := stackStep_spec drv hfuel hok hnew he
  exact ⟨s', hstep, ⟨F', hok', hnew'⟩, heff.sends⟩

theorem PoolState.run (hfuel : 20 < fuel) (h₀ : PoolState D qi qo s₀)
    (hon : ∀ e ∈ es, e.On D) :
    ∃ s, Runs.run (stackStep drv fuel) s₀ es = some s ∧
      PoolState D qi qo s ∧ s.sends = s₀.sends :=
  Runs.run_of_inv (I := fun s => PoolState D qi qo s ∧ s.sends = s₀.sends)
    (fun s e ⟨h, hsends⟩ he => by
      obtain ⟨s', hstep, h', heq⟩ := h.step hfuel he
      exact ⟨s', hstep, h', heq.trans hsends⟩) ⟨h₀, rfl⟩ (Runs.meets_of_forall hon)

/-- **No run of calls sends anything**: output that is pending when a tick
starts is never serviced by it, so the ticks of a run do what they should
exactly when none of them starts with pending output. -/
theorem tick_services_iff_not_pending (hfuel : 20 < fuel) (h₀ : PoolState D qi qo s₀)
    (hon : ∀ e ∈ es, e.On D) :
    (∃ s, Runs.run (stackStep drv fuel) s₀ es = some s ∧ s.sends = s₀.sends) ∧
      (Runs.Meets (stackStep drv fuel) (fun s e => e = .tick → Pending drv s →
          ∃ s', stackStep drv fuel s e = some s' ∧ Serviced s s') s₀ es ↔
        Runs.Meets (stackStep drv fuel) (fun s e => e = .tick → ¬ Pending drv s) s₀ es) := by
  constructor
  · obtain ⟨s, hrun, -, hsends⟩ := h₀.run hfuel hon
    exact ⟨s, hrun, hsends⟩
  · refine Runs.meets_congr (I := PoolState D qi qo) (A := fun _ e => e.On D)
      (fun s e s' h he hs' => ?_) (fun s e h he => ?_) h₀ (Runs.meets_of_forall hon)
    · obtain ⟨s₁, hstep, h', -⟩ := h.step hfuel he
      cases hstep.symm.trans hs'
      exact h'
    · refine imp_congr_right fun _ => ⟨fun hserves hpending => ?_,
        fun h hpending => absurd hpending h⟩
      obtain ⟨s', hs', hserved⟩ := hserves hpending
      obtain ⟨s₁, hstep, -, hsends⟩ := h.step hfuel he
      cases hstep.symm.trans hs'
      exact not_serviced_of_sends hsends hserved

end

/-- The pool with a frame in the output queue of the first device. -/
def oneToSend (send : Callback) (world : W) : Stack W :=
  { poolOfTwo send world with
    mem := (xcanEnqueue (some 11) 40 (poolOfTwo send world).mem).2 }

theorem oneToSend_links (send : Callback) (world : W) :
    LinksOnly (poolOfTwo send world).mem (oneToSend send world).mem :=
  xcanEnqueue_links 11 40 _

theorem oneToSend_pool (send : Callback) (world : W) :
    PoolOk IsTwo (10 * ·) (10 * · + 1) (oneToSend send world)
      ((Fifos.empty fun _ => 0).push 11 40) := by
  have hfresh := (poolOfTwo_fresh send world).inv
  obtain ⟨-, hrep, -⟩ := hfresh.pool.refines.enqueue (q := 11) (f := 40)
    ⟨1, .inl rfl, .inr rfl⟩ (by simp [Fifos.Full, Fifos.empty, poolOfTwo])
    (fun i hi => nomatch hi)
  exact ⟨hfresh.pool.registered,
    hfresh.pool.wiring.congr (oneToSend_links send world).device, hrep⟩

theorem oneToSend_poolState :
    PoolState IsTwo (10 * ·) (10 * · + 1) (oneToSend (.other 0) ()) := by
  refine ⟨_, oneToSend_pool _ _, ?_⟩
  intro q f hf
  rw [(oneToSend_links _ _).heap]
  rcases Fifos.mem_push.mp hf with hf | ⟨-, rfl⟩
  · nomatch hf
  · decide

theorem oneToSend_pending : Pending acceptAll (oneToSend (.other 0) ()) :=
  ⟨0, 1, [40], .other 0, by decide, rfl, ⟨11, rfl, rfl, rfl⟩, by decide, rfl,
    fun _ _ _ _ _ _ => rfl⟩

/-- A tick leaves the frame where it is. -/
theorem tick_leaves_pending_output :
    PoolState IsTwo (10 * ·) (10 * · + 1) (oneToSend (.other 0) ()) ∧
      Pending acceptAll (oneToSend (.other 0) ()) ∧
      ∃ s', stackStep acceptAll 21 (oneToSend (.other 0) ()) .tick = some s' ∧
        ¬ Serviced (oneToSend (.other 0) ()) s' := by
  obtain ⟨s', hstep, -, hsends⟩ :=
    oneToSend_poolState.step (e := .tick) (by decide : 20 < 21) trivial
  exact ⟨oneToSend_poolState, oneToSend_pending, s', hstep, not_serviced_of_sends hsends⟩

/-- Two ticks, with a reception between them. -/
theorem tick_services_iff_not_pending_two_ticks :
    (∃ s, Runs.run (stackStep acceptAll 21) (oneToSend (.other 0) ())
        [.tick, .recv 1 5 0 (fun _ => 7) 8, .tick] = some s ∧
        s.sends = (oneToSend (.other 0) ()).sends) ∧
      (Runs.Meets (stackStep acceptAll 21) (fun s e => e = .tick → Pending acceptAll s →
          ∃ s', stackStep acceptAll 21 s e = some s' ∧ Serviced s s')
          (oneToSend (.other 0) ()) [.tick, .recv 1 5 0 (fun _ => 7) 8, .tick] ↔
        Runs.Meets (stackStep acceptAll 21) (fun s e => e = .tick → ¬ Pending acceptAll s)
          (oneToSend (.other 0) ()) [.tick, .recv 1 5 0 (fun _ => 7) 8, .tick]) :=
  tick_services_iff_not_pending (by decide) oneToSend_poolState (by
    simp [StackEvent.On, IsTwo])

end XcanRouter
