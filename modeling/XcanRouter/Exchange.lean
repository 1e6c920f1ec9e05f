import XcanRouter.Frontier
import XcanRouter.OutputPass

/-!
# Both directions at once

Receptions, ticks and the loops of `xcan_devices_loop` work on one pool, and
so does whoever puts frames on the output queues. In every interleaving of all
of them each device is two FIFOs: what was accepted for it comes out of its
input queue in order, and what was put on its output queue is sent in order,
whatever its `send` refuses.
-/

namespace XcanRouter

open LinkedChain

variable {W : Type}

/-- A call of `xcan_enqueue` on an output queue, with what it returned. -/
structure PostCall where
  dev : Ptr
  frame : Ptr
  rc : Int
deriving DecidableEq, Repr

/-- A stack with the calls that put frames on its output queues. -/
structure Exchange (W : Type) where
  stack : Stack W
  posts : List PostCall := []

/-- A call into the stack, from either side. -/
inductive ExchangeEvent where
  | call (e : StackEvent)
  | loop (loopScore direction : Int)
  /-- `xcan_enqueue(dev->q_out, f)` -/
  | post (dev f : Ptr)

/-- `xcan_enqueue(dev->q_out, f)` -/
def postFrame (dev f : Ptr) : MemOp Int := do
  xcanEnqueue (← load (some dev) DeviceField.qOut) f

def exchangeStep (drv : Drivers W) (fuel : Nat) (x : Exchange W) :
    ExchangeEvent → Option (Exchange W)
  | .call e => (stackStep drv fuel x.stack e).map fun s => { x with stack := s }
  | .loop loopScore direction =>
      (xcanDevicesLoop drv fuel loopScore direction x.stack).map fun r => { x with stack := r.2 }
  | .post dev f =>
      let r := postFrame dev f x.stack.mem
      some {
        stack := { x.stack with mem := r.2 }
        posts := x.posts ++ [⟨dev, f, r.1⟩] }

/-- The frames that were put on the output queue of `d`. -/
def postedFrames (d : Ptr) (posts : List PostCall) : List Ptr :=
  (posts.filter fun c => c.dev = d ∧ c.rc = 0).map PostCall.frame

/-- `f` is a frame that no queue of a device holds. -/
def Unlinked (D : Ptr → Prop) (m : Mem) (f : Ptr) : Prop :=
  f < m.heap.brk ∧ ∀ d l, D d → LinkedIn m d l ∨ LinkedOut m d l → f ∉ l

/-- No output queue holds 2^32 frames, more than its counter shows. -/
def OutputsCounted (D : Ptr → Prop) (m : Mem) : Prop :=
  ∀ d l, D d → LinkedOut m d l → l.length < 2 ^ 32

/-- What a caller has to keep to: devices of the pool, directions that there
are, output queues that count their frames, and frames that are in no queue. -/
def ExchangeEvent.Proper (D : Ptr → Prop) (fuel : Nat) (x : Exchange W) :
    ExchangeEvent → Prop
  | .call e => e.On D
  | .loop loopScore direction =>
      loopScore.toNat < fuel ∧ (direction = xcanLoopDirIn ∨
        direction = xcanLoopDirOut ∧ OutputsCounted D x.stack.mem)
  | .post dev f => D dev ∧ Unlinked D x.stack.mem f

/-! ## What a step does -/

section
variable {D : Ptr → Prop} {qi qo : Ptr → Ptr} {x x' : Exchange W} {s : Stack W}
  {F F' : Fifos Ptr Ptr} {drv : Drivers W} {fuel : Nat} {e : ExchangeEvent}

@[simp] theorem postedFrames_append (d : Ptr) (xs ys : List PostCall) :
    postedFrames d (xs ++ ys) = postedFrames d xs ++ postedFrames d ys := by
  simp [postedFrames]

/-- The frames that the devices took and gave, and the lists of their queues. -/
structure Exchange.Inv (D : Ptr → Prop) (qi qo : Ptr → Ptr) (x : Exchange W)
    (F : Fifos Ptr Ptr) : Prop where
  recv : RecvInv D qi qo x.stack F
  posted : ∀ d, D d →
    framesOf d (sentOf x.stack.sends) ++ F.items (qo d) = postedFrames d x.posts
  others : ∀ q, ¬ DeviceQueue D qi qo q → F.items q = []
  sending : Sending D x.stack.mem
  distinct : DistinctDevices x.stack.devices

theorem Exchange.Inv.counted (h : x.Inv D qi qo F) (hout : OutputsCounted D x.stack.mem) :
    Counted D qo F := fun d hd => hout d _ hd (h.recv.pool.linkedOut hd)

/-- As long as fewer frames were put there, no queue holds 2^32 of them. -/
theorem Exchange.Inv.outputsCounted (h : x.Inv D qi qo F) (hposts : x.posts.length < 2 ^ 32) :
    OutputsCounted D x.stack.mem := by
  rintro d l hd ⟨q, hq, hl⟩
  obtain ⟨q', hq', hl'⟩ := h.recv.pool.linkedOut hd
  obtain rfl : q' = q := Option.some_inj.mp (hq'.symm.trans hq)
  have hlen := congrArg List.length (h.posted d hd)
  rw [List.length_append, ← hl.unique hl', postedFrames, List.length_map] at hlen
  have hle := List.length_filter_le (fun c : PostCall => decide (c.dev = d ∧ c.rc = 0)) x.posts
  omega

theorem Unlinked.notMem {f : Ptr} (h : x.Inv D qi qo F) (hf : Unlinked D x.stack.mem f)
    (q : Ptr) : f ∉ F.items q := by
  by_cases hq : DeviceQueue D qi qo q
  · obtain ⟨d, hd, rfl | rfl⟩ := hq
    · exact hf.2 d _ hd (.inl (h.recv.pool.linkedIn hd))
    · exact hf.2 d _ hd (.inr (h.recv.pool.linkedOut hd))
  · rw [h.others q hq]
    exact List.not_mem_nil

/-- Hand-over, by whichever loop. -/
theorem RecvInv.consumed {calls : List (Ptr × Ptr)} {s' : Stack W} (h : RecvInv D qi qo s F)
    (hc : Consumed D qi s F calls s' F') (hok : PoolOk D qi qo s' F') :
    RecvInv D qi qo s' F' where
  pool := hok
  new := h.new.of_consumed hc
  accepted d hd := by
    rw [hc.handed, hc.recvs, framesOf_append, List.append_assoc, hc.input d hd]
    exact h.accepted d hd

theorem Consumed.items_qOut {calls : List (Ptr × Ptr)} {s' : Stack W}
    (hc : Consumed D qi s F calls s' F') (hw : Wiring s.mem D qi qo) {d : Ptr} (hd : D d) :
    F'.items (qo d) = F.items (qo d) :=
  hc.other _ fun d' hd' heq => hw.in_ne_out d' d hd' hd heq.symm

theorem Consumed.others {calls : List (Ptr × Ptr)} {s' : Stack W}
    (hc : Consumed D qi s F calls s' F')
    (h : ∀ q, ¬ DeviceQueue D qi qo q → F.items q = []) :
    ∀ q, ¬ DeviceQueue D qi qo q → F'.items q = [] := by
  intro q hq
  rw [hc.other q fun d hd heq => hq ⟨d, hd, .inl heq⟩]
  exact h q hq

/-- Sending takes nothing from the input queues. -/
theorem Transmits.items_of_ne {calls : List SendCall} {s' : Stack W}
    (ht : Transmits D qo s F calls s' F') {q : Ptr} (hq : ∀ d, D d → q ≠ qo d) :
    F'.items q = F.items q := by
  have hitems := Fifos.accepted_append_items ht.offers q
  have hnone : Fifos.accepted q (calls.map (SendCall.offer qo)) = [] := by
    simp only [Fifos.accepted, List.map_eq_nil_iff, List.filter_eq_nil_iff, List.mem_map]
    rintro _ ⟨c, hc, rfl⟩ hbox
    exact hq c.dev (ht.source c hc) (of_decide_eq_true hbox).2.symm
  rwa [hnone, List.nil_append] at hitems

theorem Transmits.mem_items {calls : List SendCall} {s' : Stack W}
    (ht : Transmits D qo s F calls s' F') {q f : Ptr} (hf : f ∈ F'.items q) :
    f ∈ F.items q := by
  rw [← Fifos.accepted_append_items ht.offers q]
  exact List.mem_append_right _ hf

/-- A reception does not write to devices. -/
theorem stackStep_device {s' : Stack W} {e : StackEvent} (hfuel : 20 < fuel)
    (hok : PoolOk D qi qo s F) (hnew : Allocated s.mem F) (he : e.On D)
    (hstep : stackStep drv fuel s e = some s') : s'.mem.device = s.mem.device := by
  cases e with
  | recv dev canId flags data len =>
      obtain ⟨rc, fr, m', F', hrun, -, -, -, hdevice, -⟩ :=
        xcanStackRecvBody_spec canId flags data len hok.wiring hok.refines hnew he
      simp only [stackStep, xcanStackRecv, Prog.bind_apply, liftM_stack_apply, hrun,
        Option.bind_some, Prog.modify_apply, Prog.pure_apply, Option.map_some] at hstep
      cases hstep
      exact hdevice
  | tick =>
      obtain ⟨F', heff, -⟩ := stackStep_effect hfuel hok hnew he hstep
      cases heff with
      | tick hc => exact hc.links.device

/-! ## The steps keep the invariant -/

theorem Exchange.Inv.call (drv : Drivers W) {e : StackEvent} (h : x.Inv D qi qo F)
    (hfuel : 20 < fuel) (he : e.On D) :
    ∃ s' F', stackStep drv fuel x.stack e = some s' ∧ { x with stack := s' }.Inv D qi qo F' := by
  obtain ⟨s', F', hstep, heff, hok, hnew⟩ :=
    stackStep_spec drv hfuel h.recv.pool h.recv.new he
  have hdevice := stackStep_device hfuel h.recv.pool h.recv.new he hstep
  have hw := h.recv.pool.wiring
  refine ⟨s', F', hstep, ?_⟩
  constructor
  case recv => exact h.recv.step heff hok hnew
  case posted =>
    intro d hd
    show framesOf d (sentOf s'.sends) ++ F'.items (qo d) = _
    have hout : F'.items (qo d) = F.items (qo d) := by
      cases heff with
      | recv hdev heff =>
          cases heff with
          | noFrame | rejected => rfl
          | accepted =>
              exact Fifos.push_items_of_ne fun heq => hw.in_ne_out _ d hdev hd heq.symm
      | tick hc => exact hc.items_qOut hw hd
    rw [heff.sends, hout, h.posted d hd]
  case others =>
    cases heff with
    | recv hdev heff =>
        cases heff with
        | noFrame | rejected => exact h.others
        | accepted =>
            intro q hq
            rw [Fifos.push_items_of_ne fun heq => hq ⟨_, hdev, .inl heq⟩]
            exact h.others q hq
    | tick hc => exact hc.others h.others
  case sending =>
    show Sending D s'.mem
    unfold Sending
    rw [hdevice]
    exact h.sending
  case distinct =>
    show DistinctDevices s'.devices
    rw [heff.devices]
    exact h.distinct

theorem Exchange.Inv.loopIn (drv : Drivers W) {loopScore : Int} (h : x.Inv D qi qo F)
    (hscore : loopScore.toNat < fuel) :
    ∃ rc s' F', xcanDevicesLoop drv fuel loopScore xcanLoopDirIn x.stack = some (rc, s') ∧
      { x with stack := s' }.Inv D qi qo F' := by
  obtain ⟨rc, s', calls, F', hrun, -, hok, hc, -⟩ :=
    xcanDevicesLoopWhile_in_spec drv fuel loopScore x.stack F h.recv.pool hscore hscore
  refine ⟨rc, s', F', hrun, ?_⟩
  constructor
  case recv => exact h.recv.consumed hc hok
  case posted =>
    intro d hd
    show framesOf d (sentOf s'.sends) ++ F'.items (qo d) = _
    rw [hc.sends, hc.items_qOut h.recv.pool.wiring hd, h.posted d hd]
  case others => exact hc.others h.others
  case sending =>
    show Sending D s'.mem
    unfold Sending
    rw [hc.links.device]
    exact h.sending
  case distinct =>
    show DistinctDevices s'.devices
    rw [hc.devices]
    exact h.distinct

theorem Exchange.Inv.loopOut (drv : Drivers W) {loopScore : Int} (h : x.Inv D qi qo F)
    (hscore : loopScore.toNat < fuel) (hout : OutputsCounted D x.stack.mem) :
    ∃ rc s' F', xcanDevicesLoop drv fuel loopScore xcanLoopDirOut x.stack = some (rc, s') ∧
      { x with stack := s' }.Inv D qi qo F' := by
  obtain ⟨rc, s', F', calls, hrun, -, hok, ht, -⟩ :=
    xcanDevicesLoopWhile_out_exact drv fuel loopScore x.stack F h.recv.pool (h.counted hout)
      h.sending h.distinct hscore hscore
  have hfrontier := leaves_xcanDevicesLoop drv fuel loopScore xcanLoopDirOut _ _ _ hrun
  have hbrk : s'.mem.heap.brk = x.stack.mem.heap.brk := congrArg Prod.fst hfrontier
  have hw := h.recv.pool.wiring
  refine ⟨rc, s', F', hrun, ?_⟩
  constructor
  case recv =>
    constructor
    case pool => exact hok
    case new =>
      intro q f hf
      rw [hbrk]
      exact h.recv.new q f (ht.mem_items hf)
    case accepted =>
      intro d hd
      rw [ht.handed, ht.recvs, ht.items_of_ne fun d' hd' => hw.in_ne_out d d' hd hd']
      exact h.recv.accepted d hd
  case posted =>
    intro d hd
    show framesOf d (sentOf s'.sends) ++ F'.items (qo d) = _
    rw [ht.sends, sentOf_append, framesOf_append, List.append_assoc, ht.output hw hd,
      h.posted d hd]
  case others =>
    intro q hq
    rw [ht.items_of_ne fun d hd heq => hq ⟨d, hd, .inr heq⟩]
    exact h.others q hq
  case sending =>
    show Sending D s'.mem
    unfold Sending
    rw [ht.device]
    exact h.sending
  case distinct =>
    show DistinctDevices s'.devices
    rw [ht.devices]
    exact h.distinct

theorem postFrame_eq {m : Mem} {d f : Ptr} (hqout : (m.device d).qOut = some (qo d)) :
    postFrame d f m = xcanEnqueue (some (qo d)) f (m.touch (some d) 32 8) := by
  simp [postFrame, DeviceField.qOut, hqout]

theorem Exchange.Inv.post {d f : Ptr} (h : x.Inv D qi qo F) (hd : D d)
    (hf : Unlinked D x.stack.mem f) :
    ∃ F', (Exchange.mk { x.stack with mem := (postFrame d f x.stack.mem).2 }
      (x.posts ++ [⟨d, f, (postFrame d f x.stack.mem).1⟩])).Inv D qi qo F' := by
  have hw := h.recv.pool.wiring
  have hread : ReadsOnly x.stack.mem (x.stack.mem.touch (some d) 32 8) :=
    (ReadsOnly.refl _).touch (some d) 32 8
  have hrep := h.recv.pool.refines.of_eq hread.queue hread.frame
  rw [postFrame_eq (hw.qOut d hd)]
  by_cases hfull : F.Full (qo d)
  · obtain ⟨hrc, hqueue, hframe, hlinks⟩ := hrep.enqueue_full (f := f) (.qOut hd) hfull
    refine ⟨F, ?_⟩
    rw [hrc]
    constructor
    case recv =>
      constructor
      case pool =>
        exact ⟨h.recv.pool.registered, hw.congr hlinks.device, hrep.of_eq hqueue hframe⟩
      case new =>
        intro q g hg
        rw [hlinks.heap]
        exact h.recv.new q g hg
      case accepted => exact h.recv.accepted
    case posted =>
      intro d' hd'
      show _ = postedFrames d' (x.posts ++ [⟨d, f, -1⟩])
      rw [postedFrames_append, h.posted d' hd']
      simp [postedFrames]
    case others => exact h.others
    case sending =>
      show Sending D (xcanEnqueue _ _ _).2
      unfold Sending
      rw [hlinks.device]
      exact h.sending
    case distinct => exact h.distinct
  · obtain ⟨hrc, hrep', hlinks⟩ := hrep.enqueue (.qOut hd) hfull (hf.notMem h)
    refine ⟨F.push (qo d) f, ?_⟩
    rw [hrc]
    constructor
    case recv =>
      constructor
      case pool => exact ⟨h.recv.pool.registered, hw.congr hlinks.device, hrep'⟩
      case new =>
        intro q g hg
        rw [hlinks.heap]
        rcases Fifos.mem_push.mp hg with hg | ⟨-, rfl⟩
        · exact h.recv.new q g hg
        · exact hf.1
      case accepted =>
        intro d' hd'
        rw [Fifos.push_items_of_ne (hw.in_ne_out d' d hd' hd)]
        exact h.recv.accepted d' hd'
    case posted =>
      intro d' hd'
      show framesOf d' (sentOf x.stack.sends) ++ (F.push (qo d) f).items (qo d') =
        postedFrames d' (x.posts ++ [⟨d, f, 0⟩])
      rw [postedFrames_append, ← h.posted d' hd']
      by_cases heq : d = d'
      · subst heq
        simp [postedFrames]
      · have hne : qo d' ≠ qo d := fun he => heq (hw.out_inj d' d hd' hd he).symm
        simp [postedFrames, heq, Fifos.push_items_of_ne hne]
    case others =>
      intro q hq
      rw [Fifos.push_items_of_ne fun heq => hq ⟨d, hd, .inr heq⟩]
      exact h.others q hq
    case sending =>
      show Sending D (xcanEnqueue _ _ _).2
      unfold Sending
      rw [hlinks.device]
      exact h.sending
    case distinct => exact h.distinct

/-! ## Runs -/

/-- **The step lemma**: whatever is called, the call returns, and the two FIFOs
of each device are intact. -/
theorem Exchange.Inv.step (drv : Drivers W) {e : ExchangeEvent} (h : x.Inv D qi qo F)
    (hfuel : 20 < fuel) (he : e.Proper D fuel x) :
    ∃ x', exchangeStep drv fuel x e = some x' ∧ ∃ F', x'.Inv D qi qo F' := by
  cases e with
  | call e =>
      obtain ⟨s', F', hstep, h'⟩ := h.call drv hfuel he
      exact ⟨{ x with stack := s' }, by rw [exchangeStep, hstep, Option.map_some], F', h'⟩
  | loop loopScore direction =>
      obtain ⟨hscore, rfl | ⟨rfl, hout⟩⟩ := he
      · obtain ⟨rc, s', F', hrun, h'⟩ := h.loopIn drv hscore
        exact ⟨{ x with stack := s' }, by rw [exchangeStep, hrun, Option.map_some], F', h'⟩
      · obtain ⟨rc, s', F', hrun, h'⟩ := h.loopOut drv hscore hout
        exact ⟨{ x with stack := s' }, by rw [exchangeStep, hrun, Option.map_some], F', h'⟩
  | post d f =>
      obtain ⟨F', h'⟩ := h.post he.1 he.2
      exact ⟨_, rfl, F', h'⟩

theorem Exchange.Inv.of_step (h : x.Inv D qi qo F) (hfuel : 20 < fuel)
    (he : e.Proper D fuel x) (hstep : exchangeStep drv fuel x e = some x') :
    ∃ F', x'.Inv D qi qo F' := by
  obtain ⟨x₁, hx₁, h₁⟩ := h.step drv hfuel he
  rw [hx₁] at hstep
  cases hstep
  exact h₁

theorem exchangeStep_posts (hstep : exchangeStep drv fuel x e = some x') :
    x'.posts.length ≤ x.posts.length + 1 := by
  cases e with
  | call e =>
      obtain ⟨s, -, rfl⟩ := Option.map_eq_some_iff.mp hstep
      exact Nat.le_succ _
  | loop loopScore direction =>
      obtain ⟨r, -, rfl⟩ := Option.map_eq_some_iff.mp hstep
      exact Nat.le_succ _
  | post d f =>
      cases hstep
      simp

/-- From `x` to `x'` nothing was written to device structures and the table of
devices, and what was noted is about devices of `D`. -/
structure Exchange.Extends (D : Ptr → Prop) (x x' : Exchange W) : Prop where
  device : x'.stack.mem.device = x.stack.mem.device
  devices : x'.stack.devices = x.stack.devices
  brk : x.stack.mem.heap.brk ≤ x'.stack.mem.heap.brk
  recvs : ∀ c ∈ x'.stack.recvs, c ∈ x.stack.recvs ∨ D c.dev
  handed : ∀ p ∈ x'.stack.handed, p ∈ x.stack.handed ∨ D p.1
  sends : ∀ c ∈ x'.stack.sends, c ∈ x.stack.sends ∨ D c.dev
  posts : ∀ c ∈ x'.posts, c ∈ x.posts ∨ D c.dev

theorem Consumed.extends {calls : List (Ptr × Ptr)} {s' : Stack W}
    (hc : Consumed D qi x.stack F calls s' F') : x.Extends D { x with stack := s' } where
  device := hc.links.device
  devices := hc.devices
  brk := Nat.le_of_eq (by rw [hc.links.heap])
  recvs c h := .inl (hc.recvs ▸ h)
  handed p h := (List.mem_append.mp (hc.handed ▸ h)).imp id (hc.source p)
  sends c h := .inl (hc.sends ▸ h)
  posts c h := .inl h

theorem Exchange.Inv.extends (h : x.Inv D qi qo F) (hfuel : 20 < fuel)
    (he : e.Proper D fuel x)
    (hstep : exchangeStep drv fuel x e = some x') : x.Extends D x' := by
  cases e with
  | call e =>
      obtain ⟨s', hs', rfl⟩ := Option.map_eq_some_iff.mp hstep
      have hdevice := stackStep_device hfuel h.recv.pool h.recv.new he hs'
      obtain ⟨F', heff, -⟩ := stackStep_effect hfuel h.recv.pool h.recv.new he hs'
      cases heff with
      | recv hd _ hle =>
          refine ⟨hdevice, rfl, hle, ?_, fun p hp => .inl hp, fun c hc => .inl hc,
            fun c hc => .inl hc⟩
          intro c hc
          rcases List.mem_append.mp hc with hc | hc
          · exact .inl hc
          · rw [List.mem_singleton.mp hc]
            exact .inr hd
      | tick hc => exact hc.extends
  | loop loopScore direction =>
      obtain ⟨r, hr, rfl⟩ := Option.map_eq_some_iff.mp hstep
      obtain ⟨hscore, rfl | ⟨rfl, hout⟩⟩ := he
      · obtain ⟨rc, s', calls, F', hrun, -, -, hc, -⟩ :=
          xcanDevicesLoopWhile_in_spec drv fuel loopScore x.stack F h.recv.pool hscore hscore
        obtain rfl : (rc, s') = r := Option.some_inj.mp (hrun.symm.trans hr)
        exact hc.extends
      · obtain ⟨rc, s', F', calls, hrun, -, -, ht, -⟩ :=
          xcanDevicesLoopWhile_out_exact drv fuel loopScore x.stack F h.recv.pool
            (h.counted hout) h.sending h.distinct hscore hscore
        obtain rfl : (rc, s') = r := Option.some_inj.mp (hrun.symm.trans hr)
        have hfrontier := leaves_xcanDevicesLoop drv fuel loopScore xcanLoopDirOut _ _ _ hr
        exact {
          device := ht.device
          devices := ht.devices
          brk := Nat.le_of_eq (congrArg Prod.fst hfrontier).symm
          recvs := fun c hc => .inl (ht.recvs ▸ hc)
          handed := fun p hp => .inl (ht.handed ▸ hp)
          sends := fun c hc => (List.mem_append.mp (ht.sends ▸ hc)).imp id (ht.source c)
          posts := fun c hc => .inl hc }
  | post d f =>
      cases hstep
      have hlinks := xcanEnqueue_links (qo d) f (x.stack.mem.touch (some d) 32 8)
      rw [← postFrame_eq (h.recv.pool.wiring.qOut d he.1)] at hlinks
      refine ⟨hlinks.device, rfl, Nat.le_of_eq (by rw [hlinks.heap]; rfl),
        fun c hc => .inl hc, fun p hp => .inl hp, fun c hc => .inl hc, ?_⟩
      intro c hc
      rcases List.mem_append.mp hc with hc | hc
      · exact .inl hc
      · rw [List.mem_singleton.mp hc]
        exact .inr he.1

theorem Exchange.Inv.run (drv : Drivers W) {es : List ExchangeEvent} (h : x.Inv D qi qo F)
    (hfuel : 20 < fuel)
    (hes : Runs.Meets (exchangeStep drv fuel) (fun x e => e.Proper D fuel x) x es) :
    ∃ x', Runs.run (exchangeStep drv fuel) x es = some x' ∧ ∃ F', x'.Inv D qi qo F' := by
  have hstep : ∀ (x : Exchange W) (e : ExchangeEvent), (∃ F, x.Inv D qi qo F) →
      e.Proper D fuel x → ∃ x', exchangeStep drv fuel x e = some x' ∧
        ∃ F', x'.Inv D qi qo F' := by
    rintro x e ⟨F, h⟩ he
    exact h.step drv hfuel he
  exact Runs.run_of_inv hstep ⟨F, h⟩ hes

end

/-- A pool before anything was put in or taken out: each device is in one slot
and has a `send`. -/
structure ExchangeFresh (D : Ptr → Prop) (qi qo : Ptr → Ptr) (x : Exchange W) : Prop where
  pool : PoolFresh D qi qo x.stack
  sending : Sending D x.stack.mem
  distinct : DistinctDevices x.stack.devices
  sends : x.stack.sends = []
  posts : x.posts = []

theorem ExchangeFresh.inv {D : Ptr → Prop} {qi qo : Ptr → Ptr} {x : Exchange W}
    (h : ExchangeFresh D qi qo x) :
    x.Inv D qi qo (Fifos.empty fun q => (x.stack.mem.queue q).maxFrames.toNat) where
  recv := h.pool.inv
  posted d _ := by simp [h.sends, h.posts, framesOf, Fifos.empty, postedFrames]
  others _ _ := rfl
  sending := h.sending
  distinct := h.distinct

/-- At the start any frame may be put on a queue. -/
theorem ExchangeFresh.unlinked {D : Ptr → Prop} {qi qo : Ptr → Ptr} {x : Exchange W} {f : Ptr}
    (h : ExchangeFresh D qi qo x) (hf : f < x.stack.mem.heap.brk) :
    Unlinked D x.stack.mem f := by
  have hnil : ∀ q l, DeviceQueue D qi qo q →
      Chain x.stack.mem.next (x.stack.mem.queue q).head l → l = [] := by
    intro q l hq hl
    rw [h.pool.empty q hq] at hl
    cases l with
    | nil => rfl
    | cons => cases hl.1
  constructor
  · exact hf
  · rintro d l hd (⟨q, hq, hl⟩ | ⟨q, hq, hl⟩)
    · rw [h.pool.wiring.qIn d hd] at hq
      cases hq
      rw [hnil _ l (.qIn hd) hl]
      exact List.not_mem_nil
    · rw [h.pool.wiring.qOut d hd] at hq
      cases hq
      rw [hnil _ l (.qOut hd) hl]
      exact List.not_mem_nil

/-- **Frames pass in order, both ways.** In every interleaving of receptions,
ticks, loops in either direction and calls that put frames on output queues,
what was accepted for a device is what was handed over from it and what its
input queue holds, in this order, and what was put on its output queue is what
its `send` took and what this queue holds: no frame is lost, doubled or
overtaken, on any device, whatever the others do. -/
theorem frames_pass_in_order {D : Ptr → Prop} {qi qo : Ptr → Ptr} {x₀ : Exchange W}
    {drv : Drivers W} {fuel : Nat} {es : List ExchangeEvent} (hfuel : 20 < fuel)
    (hfresh : ExchangeFresh D qi qo x₀)
    (hes : Runs.Meets (exchangeStep drv fuel) (fun x e => e.Proper D fuel x) x₀ es) :
    ∃ x, Runs.run (exchangeStep drv fuel) x₀ es = some x ∧
      ∀ d, D d → ∃ received toSend, LinkedIn x.stack.mem d received ∧
        LinkedOut x.stack.mem d toSend ∧
        framesOf d x.stack.handed ++ received = acceptedFrames d x.stack.recvs ∧
        framesOf d (sentOf x.stack.sends) ++ toSend = postedFrames d x.posts := by
  obtain ⟨x, hrun, F, h⟩ := hfresh.inv.run drv hfuel hes
  refine ⟨x, hrun, ?_⟩
  intro d hd
  exact ⟨_, _, h.recv.pool.linkedIn hd, h.recv.pool.linkedOut hd, h.recv.accepted d hd,
    h.posted d hd⟩

theorem twoDevices_exchangeFresh :
    ExchangeFresh IsTwo (10 * ·) (10 * · + 1) (Exchange.mk twoDevices []) where
  pool := twoDevices_fresh
  sending _ _ := Option.some_ne_none _
  distinct := poolOfTwo_distinct _ _
  sends := rfl
  posts := rfl

/-- A frame that goes out of the first device, and one that comes in at the
second. -/
theorem frames_pass_in_order_two_devices :
    ∃ x, Runs.run (exchangeStep acceptAll 21) (Exchange.mk twoDevices [])
        [.post 1 40, .call (.recv 2 5 0 (fun _ => 7) 8), .loop 3 xcanLoopDirOut,
          .call .tick] = some x ∧
      ∀ d, IsTwo d → ∃ received toSend, LinkedIn x.stack.mem d received ∧
        LinkedOut x.stack.mem d toSend ∧
        framesOf d x.stack.handed ++ received = acceptedFrames d x.stack.recvs ∧
        framesOf d (sentOf x.stack.sends) ++ toSend = postedFrames d x.posts := by
  have hproper : (ExchangeEvent.post 1 40).Proper IsTwo 21 (Exchange.mk twoDevices []) :=
    ⟨.inl rfl, twoDevices_exchangeFresh.unlinked (by decide)⟩
  apply frames_pass_in_order (by decide) twoDevices_exchangeFresh
  constructor
  · exact hproper
  · intro x₁ h₁
    obtain ⟨F₁, hinv₁⟩ := twoDevices_exchangeFresh.inv.of_step (by decide) hproper h₁
    have hproper₁ : (ExchangeEvent.call (.recv 2 5 0 (fun _ => 7) 8)).Proper IsTwo 21 x₁ :=
      Or.inr rfl
    constructor
    · exact hproper₁
    · intro x₂ h₂
      obtain ⟨F₂, hinv₂⟩ := hinv₁.of_step (by decide) hproper₁ h₂
      have hposts₁ := exchangeStep_posts h₁
      have hposts₂ := exchangeStep_posts h₂
      rw [List.length_nil] at hposts₁
      constructor
      · exact ⟨by decide, .inr ⟨rfl, hinv₂.outputsCounted (by omega)⟩⟩
      · intro x₃ _
        exact ⟨trivial, fun _ _ => trivial⟩

end XcanRouter
