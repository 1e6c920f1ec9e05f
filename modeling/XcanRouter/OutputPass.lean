import XcanRouter.InputExact
import XcanRouter.Base.Outbox

/-!
# The output pass

What `xcan_devices_loop` does in direction OUT, whatever the `send` of the
devices returns: it offers frames to `send`, each one the first of its output
queue at that moment. The pool is a family of outboxes, and `Transmits` says
that the calls of `send` are offers of it.
-/

namespace XcanRouter

variable {W : Type}

/-- The call as an offer of the first frame of an output queue. -/
def SendCall.offer (qo : Ptr → Ptr) (c : SendCall) : Offer Ptr Ptr where
  box := qo c.dev
  item := c.frame
  ok := c.rc = 0

/-- The frames whose `send` returned 0, in the order of the calls, each with
its device. -/
def sentOf (calls : List SendCall) : List (Ptr × Ptr) :=
  (calls.filter fun c => c.rc = 0).map fun c => (c.dev, c.frame)

@[simp] theorem sentOf_nil : sentOf [] = [] := rfl

@[simp] theorem sentOf_append (xs ys : List SendCall) :
    sentOf (xs ++ ys) = sentOf xs ++ sentOf ys := by
  simp [sentOf]

/-- From `s` to `s'` the frames of `calls` were offered to `send`, in this
order; those that were accepted were dequeued and discarded, and nothing else
happened to the queues. -/
structure Transmits (D : Ptr → Prop) (qo : Ptr → Ptr) (s : Stack W)
    (F : Fifos Ptr Ptr) (calls : List SendCall) (s' : Stack W)
    (F' : Fifos Ptr Ptr) : Prop where
  sends : s'.sends = s.sends ++ calls
  source : ∀ c ∈ calls, D c.dev
  offers : Runs.run Fifos.offer F (calls.map (SendCall.offer qo)) = some F'
  discards : s'.mem.discards = s.mem.discards ++ (sentOf calls).map Prod.snd
  devices : s'.devices = s.devices
  device : s'.mem.device = s.mem.device
  handed : s'.handed = s.handed
  recvs : s'.recvs = s.recvs

section
variable {D : Ptr → Prop} {qi qo : Ptr → Ptr} {s s' s'' : Stack W}
  {F F' F'' : Fifos Ptr Ptr} {calls calls' : List SendCall} {d f q : Ptr}
  {is : List Nat}

theorem Transmits.refl : Transmits D qo s F [] s F :=
  ⟨by simp, by simp, rfl, by simp, rfl, rfl, rfl, rfl⟩

theorem Transmits.trans (h : Transmits D qo s F calls s' F')
    (h' : Transmits D qo s' F' calls' s'' F'') :
    Transmits D qo s F (calls ++ calls') s'' F'' where
  sends := by rw [h'.sends, h.sends, List.append_assoc]
  source c hc := (List.mem_append.mp hc).elim (h.source c) (h'.source c)
  offers := by
    rw [List.map_append, Runs.run_append, h.offers]
    exact h'.offers
  discards := by
    rw [h'.discards, h.discards, sentOf_append, List.map_append, List.append_assoc]
  devices := h'.devices.trans h.devices
  device := h'.device.trans h.device
  handed := h'.handed.trans h.handed
  recvs := h'.recvs.trans h.recvs

/-- The accepted frames of a queue are the sent frames of its device. -/
theorem framesOf_sentOf (hw : Wiring s.mem D qi qo) (hsource : ∀ c ∈ calls, D c.dev)
    (hd : D d) :
    framesOf d (sentOf calls) = Fifos.accepted (qo d) (calls.map (SendCall.offer qo)) := by
  induction calls with
  | nil => rfl
  | cons c calls ih =>
      have hrest := ih fun c' hc' => hsource c' (by simp [hc'])
      have hbox : qo c.dev = qo d ↔ c.dev = d :=
        ⟨hw.out_inj _ _ (hsource c (by simp)) hd, fun heq => congrArg qo heq⟩
      by_cases hrc : c.rc = 0
      · by_cases hdev : c.dev = d
        · simp_all [sentOf, framesOf, Fifos.accepted, SendCall.offer]
        · simp_all [sentOf, framesOf, Fifos.accepted, SendCall.offer]
      · simp_all [sentOf, framesOf, Fifos.accepted, SendCall.offer]

theorem framesOf_sentOf_other (h : ∀ c ∈ calls, c.dev ≠ d) :
    framesOf d (sentOf calls) = [] := by
  simp only [framesOf, sentOf, List.map_eq_nil_iff, List.filter_eq_nil_iff, List.mem_map,
    List.mem_filter, decide_eq_true_eq]
  rintro _ ⟨c, ⟨hc, -⟩, rfl⟩
  exact h c hc

theorem allAccepted_offer :
    Fifos.allAccepted (calls.map (SendCall.offer qo)) = (sentOf calls).map Prod.snd := by
  simp [Fifos.allAccepted, sentOf, List.filter_map, SendCall.offer, Function.comp_def]

/-- **Each output queue is what was sent from it, followed by what it holds.** -/
theorem Transmits.output (h : Transmits D qo s F calls s' F')
    (hw : Wiring s.mem D qi qo) (hd : D d) :
    framesOf d (sentOf calls) ++ F'.items (qo d) = F.items (qo d) := by
  rw [framesOf_sentOf hw h.source hd]
  exact Fifos.accepted_append_items h.offers (qo d)

theorem PoolOk.of_transmits (h : PoolOk D qi qo s F)
    (ht : Transmits D qo s F calls s' F')
    (hrep : Refines (DeviceQueue D qi qo) s'.mem F') : PoolOk D qi qo s' F' where
  registered i d hi hd := h.registered i d hi (by rw [← ht.devices]; exact hd)
  wiring := h.wiring.congr ht.device
  refines := hrep

theorem Counted.of_transmits (hcount : Counted D qo F) (hw : Wiring s.mem D qi qo)
    (h : Transmits D qo s F calls s' F') : Counted D qo F' := by
  intro d hd
  have hlen := congrArg List.length (h.output hw hd)
  rw [List.length_append] at hlen
  exact Nat.lt_of_le_of_lt (by omega) (hcount d hd)

/-- When all output of a pool was sent, none is left. -/
theorem Transmits.queued_eq_nil (hok : PoolOk D qi qo s F)
    (h : Transmits D qo s F calls s' F') (hall : sentOf calls = queued qo s F) :
    queued qo s' F' = [] := by
  apply queuedIn_eq_nil
  intro i hi d hd
  rw [h.devices] at hd
  have hout := congrArg List.length
    (h.output hok.wiring (hok.registered i d (List.mem_range.mp hi) hd))
  have hle := length_le_framesOf_queuedIn (q := qo) (F := F) hi hd
  rw [List.length_append, hall] at hout
  change (framesOf d (queued qo s F)).length + _ = _ at hout
  change _ ≤ (framesOf d (queued qo s F)).length at hle
  exact List.length_eq_zero_iff.mp (by omega)

/-! ## One turn of the loop -/

/-- A call of `send`. -/
theorem callSend_spec (drv : Drivers W) {cb : Callback}
    (hsend : (s.mem.device d).send = some cb) (f : Ptr) :
    ∃ m, ReadsOnly s.mem m ∧
      callSend drv d f s =
        some ((drv.send cb d (m.frame f).id (m.frame f).flags (m.frame f).data
            (m.frame f).len.toUInt8 m s.world).1,
          { s with
            mem := m
            world := (drv.send cb d (m.frame f).id (m.frame f).flags (m.frame f).data
              (m.frame f).len.toUInt8 m s.world).2
            sends := s.sends ++ [⟨d, f, (m.frame f).len.toUInt8,
              (drv.send cb d (m.frame f).id (m.frame f).flags (m.frame f).data
                (m.frame f).len.toUInt8 m s.world).1⟩] }) := by
  refine ⟨_, (((((ReadsOnly.refl s.mem).touch (some d) 48 8).touch (some f) 16 4).touch
    (some f) 20 1).touch (some f) 24 8).touch (some f) 22 2, ?_⟩
  simp [callSend, DeviceField.send, FrameField.id, FrameField.flags, FrameField.data,
    FrameField.len, hsend]

/-- On a queue whose counter is zero. -/
theorem devloopOutWhile_zero (drv : Drivers W) (fuel : Nat) {score : Int}
    (hscore : 0 < score) (hqout : (s.mem.device d).qOut = some q)
    (hzero : (s.mem.queue q).frames = 0) :
    ∃ m, ReadsOnly s.mem m ∧
      devloopOutWhile drv d (fuel + 1) score s = some (score, { s with mem := m }) := by
  refine ⟨_, ((ReadsOnly.refl s.mem).touch (some d) 32 8).touch (some q) 0 4, ?_⟩
  simp [devloopOutWhile, hscore, DeviceField.qOut, QueueField.frames, hqout, hzero]

/-- On any other queue: `send` is called for the first frame, and what it
returns decides. -/
theorem devloopOutWhile_next (drv : Drivers W) (fuel : Nat) {score : Int}
    (hscore : 0 < score) (hqout : (s.mem.device d).qOut = some q)
    (hframes : (s.mem.queue q).frames ≠ 0) (hhead : (s.mem.queue q).head = some f) :
    ∃ m, ReadsOnly s.mem m ∧ ∀ rc s', callSend drv d f { s with mem := m } = some (rc, s') →
      (rc ≠ 0 → devloopOutWhile drv d (fuel + 1) score s = some (score, s')) ∧
      (rc = 0 → (s'.mem.device d).qOut = some q →
        devloopOutWhile drv d (fuel + 1) score s =
          devloopOutWhile drv d fuel (score - 1)
            { s' with mem := (xcanFrameDiscard
                (xcanDequeue (some q) (s'.mem.touch (some d) 32 8)).1
                (xcanDequeue (some q) (s'.mem.touch (some d) 32 8)).2).2 }) := by
  refine ⟨_, (((((ReadsOnly.refl s.mem).touch (some d) 32 8).touch (some q) 0 4).touch
    (some d) 32 8).touch (some q) 8 8).touch (some q) 0 4, ?_⟩
  intro rc s' hsend
  constructor
  · intro hrc
    simp [devloopOutWhile, xcanQueuePeek, hscore, DeviceField.qOut, QueueField.frames,
      QueueField.head, hqout, hframes, hhead, hsend, hrc]
  · intro hrc hqout'
    simp [devloopOutWhile, xcanQueuePeek, hscore, DeviceField.qOut, QueueField.frames,
      QueueField.head, hqout, hframes, hhead, hsend, hrc, hqout']

/-! ## The loops -/

/-- Every device has a `send`. -/
def Sending (D : Ptr → Prop) (m : Mem) : Prop := ∀ d, D d → (m.device d).send ≠ none

/-- A refused offer. -/
theorem transmits_refused {m : Mem} {w : W} {c : SendCall} (hc : D c.dev)
    (hhead : (F.items (qo c.dev)).head? = some c.frame) (hrc : c.rc ≠ 0)
    (hm : ReadsOnly s.mem m) :
    Transmits D qo s F [c] { s with mem := m, world := w, sends := s.sends ++ [c] } F where
  sends := rfl
  source c' hc' := by
    rw [List.mem_singleton.mp hc']
    exact hc
  offers := by simp [Runs.run, Fifos.offer, SendCall.offer, hhead, hrc]
  discards := by simp [sentOf, hrc, hm.discards]
  devices := rfl
  device := hm.device
  handed := rfl
  recvs := rfl

/-- An accepted offer: the frame that was sent is the one that is dequeued and
discarded. -/
theorem transmits_sent {m : Mem} {w : W} {c : SendCall} (hc : D c.dev)
    (hhead : (F.items (qo c.dev)).head? = some c.frame) (hrc : c.rc = 0)
    (hm : LinksOnly s.mem m) :
    Transmits D qo s F [c]
      { s with
        mem := (xcanFrameDiscard (some c.frame) m).2
        world := w
        sends := s.sends ++ [c] } (F.drop (qo c.dev) 1) := by
  obtain ⟨-, -, hdevice, hdiscards, -⟩ := xcanFrameDiscard_leaves m c.frame
  constructor
  case source =>
    intro c' hc'
    rw [List.mem_singleton.mp hc']
    exact hc
  case offers => simp [Runs.run, Fifos.offer, SendCall.offer, hhead, hrc]
  case discards => simp [sentOf, hrc, hdiscards, hm.discards]
  case device => exact hdevice.trans hm.device
  all_goals rfl

/-- One turn on a queue with frames: the first one is offered, and either keeps
its place and ends the loop or leaves. -/
theorem devloopOutWhile_turn (drv : Drivers W) (hd : D d) (fuel : Nat) {score : Int}
    (hpos : 0 < score) (hok : PoolOk D qi qo s F) (hsend : Sending D s.mem)
    (hframes : (s.mem.queue (qo d)).frames ≠ 0) :
    ∃ (c : SendCall) (s' : Stack W), c.dev = d ∧ (∃ l, F.items (qo d) = c.frame :: l) ∧
      ((c.rc ≠ 0 ∧ devloopOutWhile drv d (fuel + 1) score s = some (score, s') ∧
        PoolOk D qi qo s' F ∧ Transmits D qo s F [c] s' F) ∨
      (c.rc = 0 ∧ devloopOutWhile drv d (fuel + 1) score s =
          devloopOutWhile drv d fuel (score - 1) s' ∧
        PoolOk D qi qo s' (F.drop (qo d) 1) ∧
        Transmits D qo s F [c] s' (F.drop (qo d) 1))) := by
  have hqout := hok.wiring.qOut d hd
  obtain ⟨f, l, hl⟩ := (hok.refines.represents _ (.qOut hd)).cons_of_frames hframes
  have hhead : (s.mem.queue (qo d)).head = some f := by
    rw [(hok.refines.represents _ (.qOut hd)).head, hl, List.head?_cons]
  obtain ⟨m, hm, hturn⟩ := devloopOutWhile_next drv fuel hpos hqout hframes hhead
  obtain ⟨cb, hcb⟩ := Option.ne_none_iff_exists'.mp (hsend d hd)
  obtain ⟨m₁, hm₁, hcall⟩ := callSend_spec (s := { s with mem := m }) drv
    (by rw [hm.device]; exact hcb) f
  obtain ⟨hrefused, hsent⟩ := hturn _ _ hcall
  have hm₂ : ReadsOnly s.mem m₁ := hm.trans hm₁
  let c : SendCall := ⟨d, f, (m₁.frame f).len.toUInt8, (drv.send cb d (m₁.frame f).id
    (m₁.frame f).flags (m₁.frame f).data (m₁.frame f).len.toUInt8 m₁ s.world).1⟩
  have hoffer : (F.items (qo c.dev)).head? = some c.frame := by
    show (F.items (qo d)).head? = some f
    rw [hl, List.head?_cons]
  by_cases hrc : c.rc = 0
  · have hm₃ : ReadsOnly s.mem (m₁.touch (some d) 32 8) := hm₂.touch (some d) 32 8
    have hok₃ : PoolOk D qi qo { s with mem := m₁.touch (some d) 32 8 } F :=
      hok.of_readsOnly hm₃
    obtain ⟨f', hitems, hdeq, hrep, -, hlinks⟩ :=
      hok₃.refines.dequeue (.qOut hd) (by rw [hm₃.queue]; exact hframes)
    obtain rfl : f' = f := (List.cons.inj (hitems.symm.trans hl)).1
    have hrun := hsent hrc (by rw [hm₂.device]; exact hqout)
    simp only [hdeq] at hrun
    have htrans : Transmits D qo s F [c] _ _ := transmits_sent hd hoffer hrc
      (hm₃.links.trans hlinks) (w := (drv.send cb d (m₁.frame f').id (m₁.frame f').flags
        (m₁.frame f').data (m₁.frame f').len.toUInt8 m₁ s.world).2)
    exact ⟨c, _, rfl, ⟨l, hl⟩, .inr ⟨hrc, hrun, hok.of_transmits htrans hrep.discard, htrans⟩⟩
  · exact ⟨c, _, rfl, ⟨l, hl⟩, .inl ⟨hrc, hrefused hrc,
      ⟨hok.registered, hok.wiring.congr hm₂.device, hok.refines.of_eq hm₂.queue hm₂.frame⟩,
      transmits_refused hd hoffer hrc hm₂⟩⟩

/-- **`devloop_out` on a registered device** offers frames until one is
refused, the score is spent or the queue is empty. -/
theorem devloopOutWhile_spec (drv : Drivers W) (hd : D d) :
    ∀ (fuel : Nat) (score : Int) (s : Stack W) (F : Fifos Ptr Ptr),
      PoolOk D qi qo s F → Counted D qo F → Sending D s.mem → score.toNat < fuel →
      ∃ (s' : Stack W) (F' : Fifos Ptr Ptr) (calls : List SendCall),
        devloopOutWhile drv d fuel score s =
          some (score - ((sentOf calls).length : Int), s') ∧
        (sentOf calls).length ≤ score.toNat ∧ PoolOk D qi qo s' F' ∧
        Transmits D qo s F calls s' F' ∧ (∀ c ∈ calls, c.dev = d) ∧
        ((∀ c ∈ calls, c.rc = 0) →
          sentOf calls = ((F.items (qo d)).take score.toNat).map (d, ·)) := by
  intro fuel
  induction fuel with
  | zero => intro score s F _ _ _ h; omega
  | succ fuel ih =>
      intro score s F hok hcount hsend hfuel
      by_cases hpos : 0 < score
      swap
      · refine ⟨s, F, [], by simp [devloopOutWhile, hpos], by simp, hok, .refl, by simp, ?_⟩
        intro _
        rw [Int.toNat_of_nonpos (Int.not_lt.mp hpos), List.take_zero]
        rfl
      by_cases hzero : (s.mem.queue (qo d)).frames = 0
      · obtain ⟨m, hm, hrun⟩ :=
          devloopOutWhile_zero drv fuel hpos (hok.wiring.qOut d hd) hzero
        have hnil : F.items (qo d) = [] := by
          by_contra hne
          exact (hok.refines.frames_ne_zero (.qOut hd) (hcount d hd)).mpr hne hzero
        refine ⟨_, F, [], by simpa using hrun, by simp, hok.of_readsOnly hm, ?_, by simp, ?_⟩
        · exact ⟨by simp, by simp, rfl, by simp [hm.discards], rfl, hm.device, rfl, rfl⟩
        · intro _
          rw [hnil, List.take_nil]
          rfl
      obtain ⟨c, s₁, hdev, ⟨l, hl⟩, ⟨hrc, hrun, hok₁, hone⟩ | ⟨hrc, hrun, hok₁, hone⟩⟩ :=
        devloopOutWhile_turn drv hd fuel hpos hok hsend hzero
      -- the frame keeps its place
      · refine ⟨s₁, F, [c], ?_, by simp [sentOf, hrc], hok₁, hone, by simp [hdev], ?_⟩
        · rw [hrun]
          simp [sentOf, hrc]
        · intro hall
          exact absurd (hall c (by simp)) hrc
      -- the frame leaves, and the loop goes on with the rest
      · obtain ⟨s', F', calls, hrun', hlen, hok', hrest, hdevs, hall⟩ :=
          ih (score - 1) s₁ _ hok₁ (hcount.of_transmits hok.wiring hone)
            (by rw [Sending, hone.device]; exact hsend) (by omega)
        have hsent : sentOf (c :: calls) = (d, c.frame) :: sentOf calls := by
          simp [sentOf, hrc, hdev]
        refine ⟨s', F', c :: calls, ?_, ?_, hok', hone.trans hrest, ?_, ?_⟩
        · rw [hrun, hrun', hsent, List.length_cons]
          congr 2
          omega
        · rw [hsent, List.length_cons]
          omega
        · intro c' hc'
          rcases List.mem_cons.mp hc' with rfl | hc'
          · exact hdev
          · exact hdevs c' hc'
        · intro hall'
          have hn : score.toNat = (score - 1).toNat + 1 := by omega
          rw [hsent, hall fun c' hc' => hall' c' (by simp [hc']), Fifos.drop_items_self, hl,
            hn, List.take_succ_cons]
          simp

/-- **One pass over slots of the pool.** -/
theorem forDevices_out_exact (drv : Drivers W) {fuel : Nat} :
    ∀ (is : List Nat), is.Nodup → (∀ i ∈ is, i < xcanMaxDevices) →
    ∀ (score : Int) (s : Stack W) (F : Fifos Ptr Ptr),
      PoolOk D qi qo s F → Counted D qo F → Sending D s.mem → DistinctDevices s.devices →
      0 ≤ score → score.toNat < fuel →
      ∃ (s' : Stack W) (F' : Fifos Ptr Ptr) (calls : List SendCall),
        forDevices (devloopOut drv fuel) is score s =
          some (score - ((sentOf calls).length : Int), s') ∧
        (sentOf calls).length ≤ score.toNat ∧ PoolOk D qi qo s' F' ∧
        Transmits D qo s F calls s' F' ∧
        ((∀ c ∈ calls, c.rc = 0) →
          sentOf calls = (queuedIn s.devices qo F is).take score.toNat) := by
  intro is
  induction is with
  | nil =>
      intro _ _ score s F hok _ _ _ _ _
      exact ⟨s, F, [], by simp [forDevices], by simp, hok, .refl, by simp [queuedIn]⟩
  | cons i is ih =>
      intro hnodup his score s F hok hcount hsend hdist hscore hfuel
      obtain ⟨hnot, hnodup'⟩ := List.nodup_cons.mp hnodup
      have his' : ∀ j ∈ is, j < xcanMaxDevices := fun j hj => his j (by simp [hj])
      cases hdev : s.devices i with
      | none =>
          obtain ⟨s', F', calls, hrun, hlen, hok', ht, hall⟩ :=
            ih hnodup' his' score s F hok hcount hsend hdist hscore hfuel
          rw [queuedIn_none hdev]
          refine ⟨s', F', calls, ?_, hlen, hok', ht, hall⟩
          rw [forDevices_cons (by rw [hdev]; rfl)]
          exact hrun
      | some d =>
          have hd : D d := hok.registered i d (his i (by simp)) hdev
          obtain ⟨s₁, F₁, calls₁, hrun₁, hlen₁, hok₁, ht₁, hdevs₁, hall₁⟩ :=
            devloopOutWhile_spec drv hd fuel score s F hok hcount hsend hfuel
          have hrest : queuedIn s₁.devices qo F₁ is = queuedIn s.devices qo F is := by
            rw [ht₁.devices]
            apply hok.queuedIn_congr hdist his hnot hdev
            intro d' hD hne
            have hnone : framesOf d' (sentOf calls₁) = [] :=
              framesOf_sentOf_other fun c hc heq => hne (heq.symm.trans (hdevs₁ c hc))
            have hout := ht₁.output hok.wiring hD
            rwa [hnone, List.nil_append] at hout
          obtain ⟨s', F', calls, hrun, hlen, hok', ht, hall⟩ := ih hnodup' his'
            (score - (sentOf calls₁).length) s₁ F₁ hok₁
            (hcount.of_transmits hok.wiring ht₁) (by rw [Sending, ht₁.device]; exact hsend)
            (by rw [ht₁.devices]; exact hdist) (by omega) (by omega)
          rw [hrest] at hall
          rw [queuedIn_some hdev]
          refine ⟨s', F', calls₁ ++ calls, ?_, ?_, hok', ht₁.trans ht, ?_⟩
          · rw [forDevices_cons (by rw [hdev]; exact hrun₁), hrun, sentOf_append,
              List.length_append]
            congr 2
            omega
          · rw [sentOf_append, List.length_append]
            omega
          · intro hall'
            have htake := hall₁ fun c hc => hall' c (by simp [hc])
            have hleft : (score - (sentOf calls₁).length).toNat =
                score.toNat - ((F.items (qo d)).map (d, ·)).length := by
              rw [htake, List.length_map, List.length_take, List.length_map]
              omega
            rw [sentOf_append, htake, hall fun c hc => hall' c (by simp [hc]), hleft,
              List.take_append, List.map_take]

/-- **The outer loop** returns, and sends at most as many frames as the score:
every pass costs one more. -/
theorem xcanDevicesLoopWhile_out_exact (drv : Drivers W) {fuel : Nat} :
    ∀ (n : Nat) (score : Int) (s : Stack W) (F : Fifos Ptr Ptr),
      PoolOk D qi qo s F → Counted D qo F → Sending D s.mem → DistinctDevices s.devices →
      score.toNat < n → score.toNat < fuel →
      ∃ (rc : Int) (s' : Stack W) (F' : Fifos Ptr Ptr) (calls : List SendCall),
        xcanDevicesLoopWhile drv fuel xcanLoopDirOut n score s = some (rc, s') ∧
        (sentOf calls).length ≤ score.toNat ∧ PoolOk D qi qo s' F' ∧
        Transmits D qo s F calls s' F' ∧
        ((∀ c ∈ calls, c.rc = 0) → sentOf calls = (queued qo s F).take score.toNat) := by
  intro n
  induction n with
  | zero => intro score s F _ _ _ _ h; omega
  | succ n ih =>
      intro score s F hok hcount hsend hdist hn hfuel
      by_cases hpos : 0 < score
      swap
      · refine ⟨score, s, F, [], xcanDevicesLoopWhile_nonpos hpos, by simp, hok, .refl, ?_⟩
        intro _
        rw [Int.toNat_of_nonpos (Int.not_lt.mp hpos), List.take_zero]
        rfl
      obtain ⟨s₁, F₁, calls₁, hrun₁, hlen₁, hok₁, ht₁, hall₁⟩ :=
        forDevices_out_exact drv _ List.nodup_range (fun i hi => List.mem_range.mp hi) score s
          F hok hcount hsend hdist (Int.le_of_lt hpos) hfuel
      obtain ⟨rc, s', F', calls, hrun, hlen, hok', ht, hall⟩ :=
        ih (score - (sentOf calls₁).length - 1) s₁ F₁ hok₁
          (hcount.of_transmits hok.wiring ht₁) (by rw [Sending, ht₁.device]; exact hsend)
          (by rw [ht₁.devices]; exact hdist) (by omega) (by omega)
      refine ⟨rc, s', F', calls₁ ++ calls, ?_, ?_, hok', ht₁.trans ht, ?_⟩
      · rw [xcanDevicesLoopWhile_out hpos hrun₁]
        exact hrun
      · rw [sentOf_append, List.length_append]
        omega
      · intro hall'
        have htake := hall₁ fun c hc => hall' c (by simp [hc])
        have hnext := hall fun c hc => hall' c (by simp [hc])
        change sentOf calls₁ = (queued qo s F).take score.toNat at htake
        -- the first pass sent all the output there is, or spent the score
        have hnil : sentOf calls = [] := by
          by_cases hlt : (queued qo s F).length ≤ score.toNat
          · rw [List.take_of_length_le hlt] at htake
            rw [hnext, ht₁.queued_eq_nil hok htake, List.take_nil]
          · have hspent := congrArg List.length htake
            rw [List.length_take] at hspent
            rw [hnext, show (score - (sentOf calls₁).length - 1).toNat = 0 by omega,
              List.take_zero]
        rw [sentOf_append, htake, hnil, List.append_nil]

/-- **The output pass neither loses, duplicates nor reorders frames**, whatever
`send` returns. Each output queue is what was sent from it, in the order of the
calls, followed by what it holds. The sent frames are discarded, each of them
once, and never sent again. A frame that was refused is still the first of its
queue unless it was sent later. No more frames are sent than the score allows,
and without refusals these are the first ones of the output in slot order. -/
theorem output_pass_keeps_frames {drv : Drivers W} {fuel : Nat} {score : Int}
    (hfuel : score.toNat < fuel) (hok : PoolOk D qi qo s F) (hcount : Counted D qo F)
    (hsend : Sending D s.mem) (hdist : DistinctDevices s.devices) :
    ∃ (rc : Int) (s' : Stack W) (F' : Fifos Ptr Ptr) (calls : List SendCall),
      xcanDevicesLoop drv fuel score xcanLoopDirOut s = some (rc, s') ∧
      PoolOk D qi qo s' F' ∧ s'.sends = s.sends ++ calls ∧
      (∀ d, D d → framesOf d (sentOf calls) ++ F'.items (qo d) = F.items (qo d)) ∧
      s'.mem.discards = s.mem.discards ++ (sentOf calls).map Prod.snd ∧
      ((sentOf calls).map Prod.snd).Nodup ∧
      (∀ pre c post, calls = pre ++ c :: post → c.rc = 0 →
        ∀ c' ∈ post, c'.frame ≠ c.frame) ∧
      (∀ pre c post, calls = pre ++ c :: post → c.rc ≠ 0 →
        (F'.items (qo c.dev)).head? = some c.frame ∨
          ∃ c' ∈ post, c'.dev = c.dev ∧ c'.frame = c.frame ∧ c'.rc = 0) ∧
      (sentOf calls).length ≤ score.toNat ∧
      ((∀ c ∈ calls, c.rc = 0) → sentOf calls = (queued qo s F).take score.toNat) := by
  obtain ⟨rc, s', F', calls, hrun, hlen, hok', ht, hall⟩ :=
    xcanDevicesLoopWhile_out_exact drv fuel score s F hok hcount hsend hdist hfuel hfuel
  -- the offers from the call `c` on, on queues that are still disjoint
  have hsplit : ∀ pre c post, calls = pre ++ c :: post → ∃ F₁ : Fifos Ptr Ptr, F₁.Valid ∧
      Runs.run Fifos.offer F₁ (c.offer qo :: post.map (SendCall.offer qo)) = some F' := by
    intro pre c post heq
    have hoffers := ht.offers
    rw [heq, List.map_append, Runs.run_append] at hoffers
    obtain ⟨F₁, hpre, hpost⟩ := Option.bind_eq_some_iff.mp hoffers
    exact ⟨F₁, hok.refines.valid.of_offers hpre, hpost⟩
  refine ⟨rc, s', F', calls, hrun, hok', ht.sends, fun d hd => ht.output hok.wiring hd,
    ht.discards, ?_, ?_, ?_, hlen, hall⟩
  · have hnodup := hok.refines.valid.allAccepted_nodup ht.offers
    rwa [allAccepted_offer] at hnodup
  · intro pre c post heq hrc c' hc'
    obtain ⟨F₁, hvalid, hpost⟩ := hsplit pre c post heq
    exact hvalid.not_offered_again hpost (decide_eq_true hrc) (c'.offer qo)
      (List.mem_map_of_mem hc')
  · intro pre c post heq hrc
    obtain ⟨F₁, hvalid, hpost⟩ := hsplit pre c post heq
    obtain ⟨F₂, hc, hrest⟩ := Fifos.run_offer_cons hpost
    obtain ⟨⟨l, hl⟩, rfl⟩ := Fifos.offer_eq_some hc
    rw [if_neg (by simpa [SendCall.offer] using hrc)] at hrest
    rcases Fifos.head_or_accepted_later hl hrest with hhead | ⟨o, ho, hbox, hitem, hacc⟩
    · exact .inl hhead
    · obtain ⟨c', hc', rfl⟩ := List.mem_map.mp ho
      have hD := fun x hx => ht.source x (heq ▸ hx)
      refine .inr ⟨c', hc', ?_, hitem, of_decide_eq_true hacc⟩
      exact hok.wiring.out_inj _ _ (hD c' (by simp [hc'])) (hD c (by simp)) hbox

end

/-- A driver that refuses the first frame it is given. -/
def refuseFirst : Drivers Nat where
  send := fun _ _ _ _ _ _ _ w => (if w = 0 then 1 else 0, w + 1)
  destroy := fun _ _ m w => (m, w)

/-- A pass over one frame that is refused first. -/
theorem output_pass_keeps_frames_refused_first :
    ∃ (rc : Int) (s' : Stack Nat) (F' : Fifos Ptr Ptr) (calls : List SendCall),
      xcanDevicesLoop refuseFirst 4 3 xcanLoopDirOut (oneToSend (.other 0) 0) =
        some (rc, s') ∧
      PoolOk IsTwo (10 * ·) (10 * · + 1) s' F' ∧
      s'.sends = (oneToSend (.other 0) 0).sends ++ calls ∧
      (∀ d, IsTwo d → framesOf d (sentOf calls) ++ F'.items (10 * d + 1) =
        ((Fifos.empty fun _ => 0).push 11 40).items (10 * d + 1)) ∧
      s'.mem.discards = (oneToSend (.other 0) 0).mem.discards ++
        (sentOf calls).map Prod.snd ∧
      ((sentOf calls).map Prod.snd).Nodup ∧
      (∀ pre c post, calls = pre ++ c :: post → c.rc = 0 →
        ∀ c' ∈ post, c'.frame ≠ c.frame) ∧
      (∀ pre c post, calls = pre ++ c :: post → c.rc ≠ 0 →
        (F'.items (10 * c.dev + 1)).head? = some c.frame ∨
          ∃ c' ∈ post, c'.dev = c.dev ∧ c'.frame = c.frame ∧ c'.rc = 0) ∧
      (sentOf calls).length ≤ (3 : Int).toNat ∧
      ((∀ c ∈ calls, c.rc = 0) → sentOf calls =
        (queued (10 * · + 1) (oneToSend (.other 0) 0)
          ((Fifos.empty fun _ => 0).push 11 40)).take (3 : Int).toNat) := by
  apply output_pass_keeps_frames (by decide) (oneToSend_pool _ _)
  · intro d hd
    rcases hd with rfl | rfl <;> decide
  · intro d _
    rw [(oneToSend_links _ _).device]
    exact Option.some_ne_none _
  · exact poolOfTwo_distinct (.other 0) 0

end XcanRouter
