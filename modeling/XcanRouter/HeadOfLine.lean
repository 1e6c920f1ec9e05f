import XcanRouter.Content
import XcanRouter.Exchange
import XcanRouter.Transmission

/-!
# A node of SocketCAN devices

`prv_send` never returns 0, so `devloop_out` never takes a frame off an output
queue of a SocketCAN device. In a whole run the first frame that was put there
is the only one that is ever written to the socket, and all the others wait
behind it. As long as no frame that is put there has more than 64 bytes,
nothing is copied past the end of the structure of `prv_send`.
-/

namespace XcanRouter

open LinkedChain

/-- All devices are SocketCAN devices, each with its own socket. -/
structure SocketDevices (D : Ptr → Prop) (m : Mem) : Prop where
  send : ∀ d, D d → (m.device d).send = some .prvSend
  fd : ∀ d d', D d → D d' → (m.device d).fd = (m.device d').fd → d = d'

/-- The passes that a call makes in direction OUT. -/
def ExchangeEvent.outPasses : ExchangeEvent → Nat
  | .call _ => 0
  | .loop loopScore direction => if direction = xcanLoopDirOut then loopScore.toNat else 0
  | .post _ _ => 0

/-- The passes in direction OUT that a run makes once something was put on the
output queue of `d`. -/
def passesSince (drv : Drivers Bus) (fuel : Nat) (d : Ptr) :
    Exchange Bus → List ExchangeEvent → Nat
  | _, [] => 0
  | x, e :: es =>
      (if postedFrames d x.posts = [] then 0 else e.outPasses) +
        (exchangeStep drv fuel x e).elim 0 fun x' => passesSince drv fuel d x' es

/-- A frame that is put on a queue has at most 64 bytes. -/
def ExchangeEvent.Short (m : Mem) : ExchangeEvent → Prop
  | .post _ f => (m.frame f).len.toUInt8 ≤ 64
  | .call _ => True
  | .loop _ _ => True

/-- The frames that were put on queues have at most 64 bytes. -/
def Exchange.ShortPosts (x : Exchange Bus) : Prop :=
  ∀ c ∈ x.posts, c.frame < x.stack.mem.heap.brk ∧
    (x.stack.mem.frame c.frame).len.toUInt8 ≤ 64

/-- How often the socket of `d` has been written to. -/
def Exchange.writes (x : Exchange Bus) (d : Ptr) : Nat :=
  x.stack.world.writes (x.stack.mem.device d).fd

section
variable {D : Ptr → Prop} {qi qo : Ptr → Ptr} {x x' : Exchange Bus} {s s' : Stack Bus}
  {F F' : Fifos Ptr Ptr} {rest : Drivers Bus} {fuel : Nat} {e : ExchangeEvent} {d : Ptr}

/-- `send` was called for first frames only, and took none of them. -/
structure Exchange.Blocked (D : Ptr → Prop) (qi qo : Ptr → Ptr) (x : Exchange Bus)
    (F : Fifos Ptr Ptr) : Prop extends x.Inv D qi qo F where
  sockets : SocketDevices D x.stack.mem
  first : ∀ c ∈ x.stack.sends, (postedFrames c.dev x.posts).head? = some c.frame
  refused : ∀ c ∈ x.stack.sends, c.rc ≠ 0

theorem sentOf_eq_nil {calls : List SendCall} (h : ∀ c ∈ calls, c.rc ≠ 0) :
    sentOf calls = [] := by
  rw [sentOf, List.map_eq_nil_iff, List.filter_eq_nil_iff]
  intro c hc hrc
  exact h c hc (of_decide_eq_true hrc)

/-- Every frame that was put on an output queue is still there. -/
theorem Exchange.Blocked.items (h : x.Blocked D qi qo F) (hd : D d) :
    F.items (qo d) = postedFrames d x.posts := by
  have hposted := h.posted d hd
  rwa [sentOf_eq_nil h.refused, framesOf_nil, List.nil_append] at hposted

theorem Exchange.Blocked.pool (h : x.Blocked D qi qo F) : SocketPool D qi qo x.stack F where
  toPoolOk := h.recv.pool
  send := h.sockets.send

theorem Exchange.Blocked.own (h : x.Blocked D qi qo F) (hd : D d) :
    OwnSocket D d x.stack.mem :=
  fun d' hd' => h.sockets.fd d' d hd' hd

theorem StackEffect.world {e : StackEvent} (h : StackEffect D qi s F e s' F') :
    s'.world = s.world := by
  cases h with
  | recv => rfl
  | tick hc => exact hc.world

theorem postFrame_device {m : Mem} {f : Ptr} (hqout : (m.device d).qOut = some (qo d)) :
    (postFrame d f m).2.device = m.device := by
  rw [postFrame_eq hqout]
  exact (xcanEnqueue_links _ _ _).device

/-! ## What is copied -/

/-- A reception writes to no frame that there was, but for the links. -/
theorem xcanStackRecvBody_len {m : Mem} {dev q f : Ptr} (canId : UInt32) (flags : UInt8)
    (data : Bytes) (len : UInt8) (hq : (m.device dev).qIn = some q) (hf : f < m.heap.brk) :
    ((xcanStackRecvBody dev canId flags data len m).2.frame f).len = (m.frame f).len := by
  cases hoom : m.heap.oom m.heap.calls with
  | true => rw [xcanStackRecvBody_refused m dev canId data len flags hoom, Mem.setHeap_frame]
  | false =>
      obtain ⟨⟨payload, hframe⟩, -⟩ := recvFilled_leaves m dev canId data len hoom
      have hold : (recvFilled m dev canId data len).frame f = m.frame f := by
        rw [hframe, Function.update_of_ne (Nat.ne_of_lt hf)]
      have hlinks := xcanEnqueue_links q m.heap.brk (recvFilled m dev canId data len)
      rw [xcanStackRecvBody_eq m dev canId data len flags hoom hq]
      split
      · rw [(xcanFrameDiscard_leaves _ _).1, hlinks.len, hold]
      · rw [hlinks.len, hold]

theorem Exchange.ShortPosts.kept (h : x.ShortPosts) (hposts : x'.posts = x.posts)
    (hbrk : x.stack.mem.heap.brk ≤ x'.stack.mem.heap.brk)
    (hlen : ∀ f, f < x.stack.mem.heap.brk →
      (x'.stack.mem.frame f).len = (x.stack.mem.frame f).len) : x'.ShortPosts := by
  intro c hc
  obtain ⟨hlt, hshort⟩ := h c (hposts ▸ hc)
  exact ⟨Nat.lt_of_lt_of_le hlt hbrk, by rwa [hlen c.frame hlt]⟩

/-- The first frame of each output queue is one that was put there. -/
theorem Exchange.Inv.headsFit (h : x.Inv D qi qo F) (hshort : x.ShortPosts) :
    HeadsFit qo (List.range xcanMaxDevices) x.stack := by
  intro i hi d hdev _ f hf
  have hd := h.recv.pool.registered i d (List.mem_range.mp hi) hdev
  rw [(h.recv.pool.refines.represents _ (.qOut hd)).head] at hf
  have hmem : f ∈ postedFrames d x.posts := by
    rw [← h.posted d hd]
    exact List.mem_append_right _ (List.mem_of_mem_head? hf)
  obtain ⟨c, hc, rfl⟩ := List.mem_map.mp hmem
  exact (hshort c (List.mem_filter.mp hc).1).2

/-- **A step of SocketCAN devices** copies nothing past the end of the structure
of `prv_send`, when the frames that were put on queues are short. -/
theorem Exchange.Inv.copies (h : x.Inv D qi qo F)
    (hsend : ∀ d, D d → (x.stack.mem.device d).send = some .prvSend)
    (hshort : x.ShortPosts) (hfuel : 20 < fuel) (he : e.Proper D fuel x)
    (hs : e.Short x.stack.mem) (hstep : exchangeStep (socketcanDrivers rest) fuel x e = some x') :
    x'.ShortPosts ∧ CopiesInBounds x.stack.world x'.stack.world := by
  have hpool := h.recv.pool
  cases e with
  | call e =>
      obtain ⟨s', hs', rfl⟩ := Option.map_eq_some_iff.mp hstep
      obtain ⟨F', heff, -⟩ := stackStep_effect hfuel hpool h.recv.new he hs'
      refine ⟨?_, .of_eq (by rw [heff.world])⟩
      cases heff with
      | @recv dev canId flags data len _ _ _ _ hd _ hle =>
          rw [stackStep_recv] at hs'
          obtain rfl := congrArg Stack.mem (Option.some_inj.mp hs')
          refine hshort.kept rfl hle ?_
          intro f hf
          exact xcanStackRecvBody_len canId flags data len (hpool.wiring.qIn dev hd) hf
      | tick hc =>
          exact hshort.kept rfl (Nat.le_of_eq (by rw [hc.links.heap]))
            fun f _ => hc.links.len f
  | loop loopScore direction =>
      obtain ⟨r, hr, rfl⟩ := Option.map_eq_some_iff.mp hstep
      obtain ⟨hscore, rfl | ⟨rfl, -⟩⟩ := he
      · obtain ⟨rc, s', calls, F', hrun, -, -, hc, -⟩ := xcanDevicesLoopWhile_in_spec
          (socketcanDrivers rest) fuel loopScore x.stack F hpool hscore hscore
        obtain rfl : (rc, s') = r := Option.some_inj.mp (hrun.symm.trans hr)
        exact ⟨hshort.kept rfl (Nat.le_of_eq (by rw [hc.links.heap]))
          fun f _ => hc.links.len f, .of_eq (by rw [hc.world])⟩
      · obtain ⟨k, rfl⟩ : ∃ k, fuel = k + 1 :=
          Nat.exists_eq_succ_of_ne_zero (Nat.ne_of_gt (Nat.zero_lt_of_lt hscore))
        obtain ⟨rc, s', hrun, ht, -⟩ := xcanDevicesLoopWhile_out_spec rest k (k + 1) loopScore
          x.stack ⟨hpool, hsend⟩ hscore
        obtain rfl : (rc, s') = r := Option.some_inj.mp (hrun.symm.trans hr)
        refine ⟨hshort.kept rfl (Nat.le_of_eq (by rw [ht.mem.heap])) ?_,
          ht.inBounds_iff.mpr (.inr (h.headsFit hshort))⟩
        intro f _
        rw [ht.mem.frame]
  | post d f =>
      cases hstep
      have hlinks := xcanEnqueue_links (qo d) f (x.stack.mem.touch (some d) 32 8)
      rw [← postFrame_eq (hpool.wiring.qOut d he.1)] at hlinks
      refine ⟨?_, .of_eq rfl⟩
      intro c hc
      have hold : c.frame < x.stack.mem.heap.brk ∧
          (x.stack.mem.frame c.frame).len.toUInt8 ≤ 64 := by
        rcases List.mem_append.mp hc with hc | hc
        · exact hshort c hc
        · rw [List.mem_singleton.mp hc]
          exact ⟨he.2.1, hs⟩
      constructor
      · show c.frame < (postFrame d f x.stack.mem).2.heap.brk
        rw [hlinks.heap]
        exact hold.1
      · show ((postFrame d f x.stack.mem).2.frame c.frame).len.toUInt8 ≤ 64
        rw [hlinks.len]
        exact hold.2

/-- When the output queues are as they were, no call was accepted. -/
theorem Transmits.refused {calls : List SendCall} (ht : Transmits D qo s F calls s' F')
    (hw : Wiring s.mem D qi qo) (hsame : ∀ d, D d → F'.items (qo d) = F.items (qo d)) :
    ∀ c ∈ calls, c.rc ≠ 0 := by
  intro c hc hrc
  have hout := ht.output hw (ht.source c hc)
  rw [hsame c.dev (ht.source c hc)] at hout
  have hmem : c.frame ∈ framesOf c.dev (sentOf calls) := by
    simp only [framesOf, sentOf, List.mem_map, List.mem_filter]
    exact ⟨(c.dev, c.frame), ⟨⟨c, ⟨hc, decide_eq_true hrc⟩, rfl⟩, decide_eq_true rfl⟩, rfl⟩
  rw [List.append_left_eq_self.mp hout] at hmem
  cases hmem

/-- Then the calls were for first frames only. -/
theorem Transmits.first {calls : List SendCall} (ht : Transmits D qo s F calls s' F')
    (hrefused : ∀ c ∈ calls, c.rc ≠ 0) :
    ∀ c ∈ calls, (F.items (qo c.dev)).head? = some c.frame := by
  intro c hc
  have hoffers : ∀ o ∈ calls.map (SendCall.offer qo), o.ok = false := by
    intro o ho
    obtain ⟨c', hc', rfl⟩ := List.mem_map.mp ho
    exact decide_eq_false (hrefused c' hc')
  exact Fifos.head_of_refused ht.offers hoffers _ (List.mem_map_of_mem hc)

/-! ## What a step does -/

/-- Between `x` and `x'` the head of the output queue of each `d` was written
`n d` times for every slot that `d` is in. -/
structure Exchange.Writes (D : Ptr → Prop) (n : Ptr → Nat) (x x' : Exchange Bus) : Prop where
  device : x'.stack.mem.device = x.stack.mem.device
  devices : x'.stack.devices = x.stack.devices
  writes : ∀ d, D d →
    x'.writes d = x.writes d + n d * slotsOf d x.stack (List.range xcanMaxDevices)

theorem Exchange.Writes.refl : Exchange.Writes D (fun _ => 0) x x :=
  ⟨rfl, rfl, fun _ _ => by rw [Nat.zero_mul, Nat.add_zero]⟩

theorem Exchange.Writes.trans {x'' : Exchange Bus} {n n' : Ptr → Nat}
    (h : Exchange.Writes D n x x') (h' : Exchange.Writes D n' x' x'') :
    Exchange.Writes D (fun d => n d + n' d) x x'' where
  device := h'.device.trans h.device
  devices := h'.devices.trans h.devices
  writes d hd := by
    have hslots : slotsOf d x'.stack (List.range xcanMaxDevices) =
        slotsOf d x.stack (List.range xcanMaxDevices) := by
      rw [slotsOf, slotsOf, h.devices]
    rw [h'.writes d hd, h.writes d hd, hslots, Nat.add_assoc, Nat.add_mul]

/-- A step that sends nothing. -/
theorem Exchange.Blocked.quiet (h : x.Blocked D qi qo F) (h' : x'.Inv D qi qo F')
    (hdevice : x'.stack.mem.device = x.stack.mem.device)
    (hsends : x'.stack.sends = x.stack.sends)
    (hposts : ∃ ps, x'.posts = x.posts ++ ps) : x'.Blocked D qi qo F' := by
  obtain ⟨ps, hps⟩ := hposts
  refine ⟨h', ⟨?_, ?_⟩, ?_, ?_⟩
  · rw [hdevice]
    exact h.sockets.send
  · rw [hdevice]
    exact h.sockets.fd
  · intro c hc
    rw [hsends] at hc
    rw [hps, postedFrames_append, List.head?_append, h.first c hc, Option.some_or]
  · rw [hsends]
    exact h.refused

theorem Exchange.Writes.quiet (hdevice : x'.stack.mem.device = x.stack.mem.device)
    (hdevices : x'.stack.devices = x.stack.devices)
    (hworld : x'.stack.world = x.stack.world) : Exchange.Writes D (fun _ => 0) x x' := by
  refine ⟨hdevice, hdevices, ?_⟩
  intro d _
  rw [Exchange.writes, Exchange.writes, hdevice, hworld, Nat.zero_mul, Nat.add_zero]

/-- **A loop in direction OUT** tries the first frame of each queue in every
pass, and leaves it there. -/
theorem Exchange.Blocked.loopOut (rest : Drivers Bus) {loopScore : Int}
    (h : x.Blocked D qi qo F) (hscore : loopScore.toNat < fuel)
    (hout : OutputsCounted D x.stack.mem) :
    ∃ rc s' F',
      xcanDevicesLoop (socketcanDrivers rest) fuel loopScore xcanLoopDirOut x.stack =
        some (rc, s') ∧
      { x with stack := s' }.Blocked D qi qo F' ∧
      Exchange.Writes D (fun d => if postedFrames d x.posts = [] then 0 else loopScore.toNat)
        x { x with stack := s' } := by
  have hcount := h.counted hout
  have hpool := h.pool
  obtain ⟨k, rfl⟩ : ∃ k, fuel = k + 1 :=
    Nat.exists_eq_succ_of_ne_zero (Nat.ne_of_gt (Nat.zero_lt_of_lt hscore))
  obtain ⟨rc, s', F', hrun, hinv⟩ := h.loopOut (socketcanDrivers rest) hscore hout
  obtain ⟨rc₀, s₀, hrun₀, htried, hretried⟩ := xcanDevicesLoopWhile_out_spec rest k (k + 1)
    loopScore x.stack hpool hscore
  obtain rfl : s₀ = s' := congrArg Prod.snd (Option.some_inj.mp (hrun₀.symm.trans hrun))
  obtain ⟨rc₁, s₁, F₁, calls, hrun₁, -, hok₁, ht, -⟩ :=
    xcanDevicesLoopWhile_out_exact (socketcanDrivers rest) (k + 1) loopScore x.stack F
      h.recv.pool hcount h.sending h.distinct hscore hscore
  obtain rfl : s₁ = s₀ := congrArg Prod.snd (Option.some_inj.mp (hrun₁.symm.trans hrun))
  have hsame : ∀ d, D d → F₁.items (qo d) = F.items (qo d) := by
    intro d hd
    have hrep := h.recv.pool.refines.of_eq htried.mem.queue htried.mem.frame
    exact (hok₁.refines.represents _ (.qOut hd)).unique (hrep.represents _ (.qOut hd))
  have hrefused := ht.refused h.recv.pool.wiring hsame
  refine ⟨rc, s₁, F', hrun, ⟨hinv, ⟨?_, ?_⟩, ?_, ?_⟩, ht.device, ht.devices, ?_⟩
  · show ∀ d, D d → (s₁.mem.device d).send = _
    rw [ht.device]
    exact h.sockets.send
  · show ∀ d d', D d → D d' → (s₁.mem.device d).fd = (s₁.mem.device d').fd → d = d'
    rw [ht.device]
    exact h.sockets.fd
  · intro c hc
    rcases List.mem_append.mp (ht.sends ▸ hc) with hc | hc
    · exact h.first c hc
    · rw [← h.items (ht.source c hc)]
      exact ht.first hrefused c hc
  · intro c hc
    rcases List.mem_append.mp (ht.sends ▸ hc) with hc | hc
    · exact h.refused c hc
    · exact hrefused c hc
  · intro d hd
    have hfd : (s₁.mem.device d).fd = (x.stack.mem.device d).fd := by rw [ht.device]
    show s₁.world.writes (s₁.mem.device d).fd = _
    rw [hfd, (hretried d (h.own hd)).writes, headCount, ← h.items hd]
    have hzero := h.recv.pool.refines.frames_ne_zero (.qOut hd) (hcount d hd)
    by_cases hnil : F.items (qo d) = []
    · rw [if_pos hnil, if_pos (not_ne_iff.mp fun hne => hzero.mp hne hnil), Nat.mul_zero,
        Nat.mul_zero, Nat.zero_mul]
      rfl
    · rw [if_neg hnil, if_neg (hzero.mpr hnil), Nat.mul_one]
      rfl

/-- **The step lemma**: every call returns, takes no frame off an output queue,
and writes to the sockets once in each pass in direction OUT. -/
theorem Exchange.Blocked.step (rest : Drivers Bus) (h : x.Blocked D qi qo F)
    (hfuel : 20 < fuel) (he : e.Proper D fuel x) :
    ∃ x', exchangeStep (socketcanDrivers rest) fuel x e = some x' ∧
      (∃ F', x'.Blocked D qi qo F') ∧
      Exchange.Writes D (fun d => if postedFrames d x.posts = [] then 0 else e.outPasses)
        x x' := by
  have hzero : (fun d => if postedFrames d x.posts = [] then 0 else 0) =
      fun _ : Ptr => 0 := by
    funext d
    exact ite_self 0
  cases e with
  | call e =>
      obtain ⟨s', F', hstep, hinv⟩ := h.call (socketcanDrivers rest) hfuel he
      obtain ⟨F₁, heff, -⟩ := stackStep_effect hfuel h.recv.pool h.recv.new he hstep
      have hdevice := stackStep_device hfuel h.recv.pool h.recv.new he hstep
      refine ⟨{ x with stack := s' }, by rw [exchangeStep, hstep, Option.map_some],
        ⟨F', h.quiet hinv hdevice heff.sends ⟨[], by simp⟩⟩, ?_⟩
      rw [ExchangeEvent.outPasses, hzero]
      exact .quiet hdevice heff.devices heff.world
  | loop loopScore direction =>
      obtain ⟨hscore, rfl | ⟨rfl, hout⟩⟩ := he
      · obtain ⟨rc, s', calls, F', hrun, -, hok, hc, -⟩ :=
          xcanDevicesLoopWhile_in_spec (socketcanDrivers rest) fuel loopScore x.stack F
            h.recv.pool hscore hscore
        obtain ⟨rc₁, s₁, F₁, hrun₁, hinv⟩ := h.loopIn (socketcanDrivers rest) hscore
        obtain rfl : s₁ = s' :=
          congrArg Prod.snd (Option.some_inj.mp (hrun₁.symm.trans hrun))
        refine ⟨{ x with stack := s₁ }, by rw [exchangeStep, hrun₁, Option.map_some],
          ⟨F₁, h.quiet hinv hc.links.device hc.sends ⟨[], by simp⟩⟩, ?_⟩
        rw [ExchangeEvent.outPasses, if_neg (by decide), hzero]
        exact .quiet hc.links.device hc.devices hc.world
      · obtain ⟨rc, s', F', hrun, hblocked, hwrites⟩ := h.loopOut rest hscore hout
        refine ⟨{ x with stack := s' }, by rw [exchangeStep, hrun, Option.map_some],
          ⟨F', hblocked⟩, ?_⟩
        rw [ExchangeEvent.outPasses, if_pos rfl]
        exact hwrites
  | post d f =>
      obtain ⟨F', hinv⟩ := h.post he.1 he.2
      have hdevice := postFrame_device (f := f) (h.recv.pool.wiring.qOut d he.1)
      refine ⟨_, rfl, ⟨F', h.quiet hinv hdevice rfl ⟨_, rfl⟩⟩, ?_⟩
      rw [ExchangeEvent.outPasses, hzero]
      exact .quiet hdevice rfl rfl

/-! ## Runs -/

theorem Exchange.Blocked.run (rest : Drivers Bus) {es : List ExchangeEvent}
    (h : x.Blocked D qi qo F) (hshort : x.ShortPosts) (hfuel : 20 < fuel)
    (hes : Runs.Meets (exchangeStep (socketcanDrivers rest) fuel)
      (fun x e => e.Proper D fuel x ∧ e.Short x.stack.mem) x es) :
    ∃ x', Runs.run (exchangeStep (socketcanDrivers rest) fuel) x es = some x' ∧
      (∃ F', x'.Blocked D qi qo F') ∧
      Exchange.Writes D (fun d => passesSince (socketcanDrivers rest) fuel d x es) x x' ∧
      CopiesInBounds x.stack.world x'.stack.world := by
  induction es generalizing x F with
  | nil => exact ⟨x, rfl, ⟨F, h⟩, .refl, .of_eq rfl⟩
  | cons e es ih =>
      obtain ⟨x₁, hstep, ⟨F₁, h₁⟩, hw₁⟩ := h.step rest hfuel hes.1.1
      obtain ⟨hshort₁, hc₁⟩ := h.copies h.sockets.send hshort hfuel hes.1.1 hes.1.2 hstep
      obtain ⟨x', hrun, h', hw', hc'⟩ := ih h₁ hshort₁ (hes.2 x₁ hstep)
      refine ⟨x', ?_, h', ?_, hc₁.trans hc'⟩
      · rw [Runs.run_cons, hstep]
        exact hrun
      · simp only [passesSince, hstep, Option.elim_some]
        exact hw₁.trans hw'

end

/-- A node of SocketCAN devices before anything was put in or taken out. -/
structure SocketFresh (D : Ptr → Prop) (qi qo : Ptr → Ptr) (x : Exchange Bus) : Prop
    extends ExchangeFresh D qi qo x where
  sockets : SocketDevices D x.stack.mem

theorem SocketFresh.blocked {D : Ptr → Prop} {qi qo : Ptr → Ptr} {x : Exchange Bus}
    (h : SocketFresh D qi qo x) :
    x.Blocked D qi qo (Fifos.empty fun q => (x.stack.mem.queue q).maxFrames.toNat) where
  toInv := h.inv
  sockets := h.sockets
  first c hc := by
    rw [h.sends] at hc
    cases hc
  refused c hc := by
    rw [h.sends] at hc
    cases hc

/-- **A SocketCAN node sends its first frame, again and again, and no other.**
In every interleaving of receptions, ticks, loops in either direction and calls
that put frames of at most 64 bytes on output queues, all that was put on the
output queue of a device is still there, in order; `send` is called for the
first of it only and never takes it; the socket was written to once in every
pass in direction OUT since this frame was put there, for each slot of the
device; and nothing was copied past the end of the structure of `prv_send`. -/
theorem only_first_frame_is_sent {D : Ptr → Prop} {qi qo : Ptr → Ptr} {x₀ : Exchange Bus}
    {rest : Drivers Bus} {fuel : Nat} {es : List ExchangeEvent} (hfuel : 20 < fuel)
    (hfresh : SocketFresh D qi qo x₀)
    (hes : Runs.Meets (exchangeStep (socketcanDrivers rest) fuel)
      (fun x e => e.Proper D fuel x ∧ e.Short x.stack.mem) x₀ es) :
    ∃ x, Runs.run (exchangeStep (socketcanDrivers rest) fuel) x₀ es = some x ∧
      CopiesInBounds x₀.stack.world x.stack.world ∧
      ∀ d, D d → LinkedOut x.stack.mem d (postedFrames d x.posts) ∧
        (∀ c ∈ x.stack.sends, c.dev = d →
          (postedFrames d x.posts).head? = some c.frame ∧ c.rc ≠ 0) ∧
        x.writes d = x₀.writes d + passesSince (socketcanDrivers rest) fuel d x₀ es *
          slotsOf d x₀.stack (List.range xcanMaxDevices) := by
  have hshort : x₀.ShortPosts := by
    intro c hc
    rw [hfresh.posts] at hc
    cases hc
  obtain ⟨x, hrun, ⟨F, h⟩, hwrites, hcopies⟩ := hfresh.blocked.run rest hshort hfuel hes
  refine ⟨x, hrun, hcopies, ?_⟩
  intro d hd
  refine ⟨?_, ?_, hwrites.writes d hd⟩
  · rw [← h.items hd]
    exact h.recv.pool.linkedOut hd
  · rintro c hc rfl
    exact ⟨h.first c hc, h.refused c hc⟩

/-- Two SocketCAN devices with empty queues. -/
abbrev socketNode : Exchange Bus := { stack := poolOfTwo .prvSend {} }

theorem socketNode_fresh : SocketFresh IsTwo (10 * ·) (10 * · + 1) socketNode where
  pool := poolOfTwo_fresh .prvSend ({} : Bus)
  sending _ _ := Option.some_ne_none _
  distinct := poolOfTwo_distinct _ _
  sends := rfl
  posts := rfl
  sockets := by
    constructor
    · intro d _
      rfl
    · intro d d' _ _ hfd
      exact Int.ofNat_inj.mp hfd

/-- A frame is put on the queue of the first device, and three passes and a
tick follow. -/
theorem only_first_frame_is_sent_three_passes :
    ∃ x, Runs.run (exchangeStep (socketcanDrivers noOtherDrivers) 21) socketNode
        [.post 1 40, .loop 2 xcanLoopDirOut, .call .tick, .loop 1 xcanLoopDirOut] = some x ∧
      CopiesInBounds socketNode.stack.world x.stack.world ∧
      ∀ d, IsTwo d → LinkedOut x.stack.mem d (postedFrames d x.posts) ∧
        (∀ c ∈ x.stack.sends, c.dev = d →
          (postedFrames d x.posts).head? = some c.frame ∧ c.rc ≠ 0) ∧
        x.writes d = socketNode.writes d +
          passesSince (socketcanDrivers noOtherDrivers) 21 d socketNode
            [.post 1 40, .loop 2 xcanLoopDirOut, .call .tick, .loop 1 xcanLoopDirOut] *
          slotsOf d socketNode.stack (List.range xcanMaxDevices) := by
  have hproper : (ExchangeEvent.post 1 40).Proper IsTwo 21 socketNode :=
    ⟨.inl rfl, socketNode_fresh.unlinked (by decide)⟩
  apply only_first_frame_is_sent (by decide) socketNode_fresh
  constructor
  · exact ⟨hproper, (by decide : (0 : UInt8) ≤ 64)⟩
  · intro x₁ h₁
    obtain ⟨F₁, hinv₁⟩ := socketNode_fresh.inv.of_step (by decide) hproper h₁
    have hposts₁ := exchangeStep_posts h₁
    rw [List.length_nil] at hposts₁
    have hproper₁ : (ExchangeEvent.loop 2 xcanLoopDirOut).Proper IsTwo 21 x₁ :=
      ⟨by decide, .inr ⟨rfl, hinv₁.outputsCounted (by omega)⟩⟩
    constructor
    · exact ⟨hproper₁, trivial⟩
    · intro x₂ h₂
      obtain ⟨F₂, hinv₂⟩ := hinv₁.of_step (by decide) hproper₁ h₂
      have hposts₂ := exchangeStep_posts h₂
      have hproper₂ : (ExchangeEvent.call .tick).Proper IsTwo 21 x₂ := trivial
      constructor
      · exact ⟨hproper₂, trivial⟩
      · intro x₃ h₃
        obtain ⟨F₃, hinv₃⟩ := hinv₂.of_step (by decide) hproper₂ h₃
        have hposts₃ := exchangeStep_posts h₃
        refine ⟨⟨⟨by decide, .inr ⟨rfl, ?_⟩⟩, trivial⟩, fun _ _ => trivial⟩
        exact hinv₃.outputsCounted (by omega)

end XcanRouter
