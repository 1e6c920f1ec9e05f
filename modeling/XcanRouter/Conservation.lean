import XcanRouter.Rejection

/-!
# Frame conservation

Who owns a frame: a device queue that it is linked in, or, after
`xcan_frame_discard`, the allocator. `devloop_out` discards the frames it
takes off a queue. The frames that `devloop_in` takes off go through the data
link layer to the router, which does neither link nor discard them. A frame
that `xcan_stack_recv` discards has the counter zero, and is not freed by it.
-/

namespace XcanRouter

open LinkedChain

variable {W : Type}

/-- `q` is a queue of a device of `D`. -/
def QueueOf (D : Ptr → Prop) (m : Mem) (q : Ptr) : Prop :=
  ∃ d, D d ∧ ((m.device d).qIn = some q ∨ (m.device d).qOut = some q)

/-- `f` is linked in the queue `q`. -/
def Linked (m : Mem) (q f : Ptr) : Prop :=
  ∃ l, Chain m.next (m.queue q).head l ∧ f ∈ l

/-- `f` is linked in a queue of a device of `D`. -/
def InPool (D : Ptr → Prop) (m : Mem) (f : Ptr) : Prop :=
  ∃ q, QueueOf D m q ∧ Linked m q f

/-- The frames that `xcan_stack_recv` has allocated. -/
def allocatedFrames (calls : List RecvCall) : List Ptr := calls.filterMap RecvCall.frame

/-- The frames that the run has to account for: those in the pool `s₀` it
started from, and those allocated since. -/
def Owned (D : Ptr → Prop) (s₀ s : Stack W) (f : Ptr) : Prop :=
  InPool D s₀.mem f ∨ f ∈ allocatedFrames s.recvs

/-- The descriptor `f` and its payload were freed `n` times. -/
def FreedTimes (m : Mem) (f : Ptr) (n : Nat) : Prop :=
  m.heap.frees.count f = n ∧
    ∃ b, (m.frame f).data.block = some b ∧ m.heap.frees.count b = n

/-- Every frame is linked in exactly one queue, neither discarded nor freed, or
it is linked in none, and was discarded and freed exactly once. -/
def Conserved (D : Ptr → Prop) (s₀ s : Stack W) : Prop :=
  ∀ f, Owned D s₀ s f →
    ((∃! q, QueueOf D s.mem q ∧ Linked s.mem q f) ∧ f ∉ s.mem.discards ∧
      FreedTimes s.mem f 0) ∨
    (¬ InPool D s.mem f ∧ s.mem.discards.count f = 1 ∧ FreedTimes s.mem f 1)

/-- A tick finds no input; a reception gets no descriptor, or it gets a payload
too and finds room in the queue. -/
def NothingLost (qi : Ptr → Ptr) (s : Stack W) : StackEvent → Prop
  | .tick => ¬ HasInput qi s (List.range xcanMaxDevices)
  | .recv dev _ _ _ _ =>
      s.mem.heap.oom s.mem.heap.calls = true ∨
        s.mem.heap.oom (s.mem.heap.calls + 1) = false ∧ ¬ QueueFull s.mem (qi dev)

section
variable {D : Ptr → Prop} {qi qo : Ptr → Ptr} {s s' s₀ : Stack W}
  {F F' F₀ : Fifos Ptr Ptr} {drv : Drivers W} {fuel : Nat} {e : StackEvent}
  {es : List StackEvent} {q f : Ptr}

theorem Wiring.queueOf_iff {m : Mem} (h : Wiring m D qi qo) :
    QueueOf D m q ↔ DeviceQueue D qi qo q := by
  apply exists_congr
  intro d
  apply and_congr_right
  intro hd
  rw [h.qIn d hd, h.qOut d hd, Option.some_inj, Option.some_inj, eq_comm,
    eq_comm (a := qo d)]

theorem Represents.linked_iff {m : Mem} {l : List Ptr} (h : Represents m q l) :
    Linked m q f ↔ f ∈ l :=
  ⟨fun ⟨_, hl, hf⟩ => h.chain.unique hl ▸ hf, fun hf => ⟨l, h.chain, hf⟩⟩

theorem PoolOk.inPool_iff (h : PoolOk D qi qo s F) :
    InPool D s.mem f ↔ ∃ q, DeviceQueue D qi qo q ∧ f ∈ F.items q := by
  apply exists_congr
  intro q
  rw [h.wiring.queueOf_iff]
  exact and_congr_right fun hq => (h.refines.represents q hq).linked_iff

/-- What conservation rests on: the frames to account for are those in the pool,
none of which was freed, and nothing was discarded. -/
structure ConservedInv (D : Ptr → Prop) (qi qo : Ptr → Ptr) (s₀ s : Stack W)
    (F : Fifos Ptr Ptr) : Prop where
  pool : PoolOk D qi qo s F
  new : Allocated s.mem F
  owned : ∀ f, Owned D s₀ s f ↔ InPool D s.mem f
  discards : s.mem.discards = []
  freed : FreedOnly s.mem.heap
  kept : ∀ f, InPool D s.mem f → FreedTimes s.mem f 0

theorem ConservedInv.conserved (h : ConservedInv D qi qo s₀ s F) :
    Conserved D s₀ s := by
  intro f hf
  have hpool := (h.owned f).mp hf
  left
  refine ⟨?_, by rw [h.discards]; exact List.not_mem_nil, h.kept f hpool⟩
  obtain ⟨q, hq, hfq⟩ := h.pool.inPool_iff.mp hpool
  refine ⟨q, ⟨h.pool.wiring.queueOf_iff.mpr hq,
    (h.pool.refines.represents q hq).linked_iff.mpr hfq⟩, ?_⟩
  rintro q' ⟨hq', hfq'⟩
  have hdq' := h.pool.wiring.queueOf_iff.mp hq'
  exact h.pool.refines.valid.disjoint q' q f
    ((h.pool.refines.represents q' hdq').linked_iff.mp hfq') hfq

theorem ConservedInv.lt_brk (h : ConservedInv D qi qo s₀ s F) (hf : InPool D s.mem f) :
    f < s.mem.heap.brk := by
  obtain ⟨q, -, hfq⟩ := h.pool.inPool_iff.mp hf
  exact h.new q f hfq

/-! ## The frames that are lost -/

/-- A frame that is handed over is in no queue afterwards. -/
theorem not_inPool_of_handed (hok : PoolOk D qi qo s F)
    {calls : List (Ptr × Ptr)} (hc : Consumed D qi s F calls s' F')
    (hok' : PoolOk D qi qo s' F') {d : Ptr} (hcall : (d, f) ∈ calls) :
    InPool D s.mem f ∧ ¬ InPool D s'.mem f := by
  have hd : D d := hc.source _ hcall
  have hf : f ∈ framesOf d calls :=
    List.mem_map.mpr ⟨(d, f), List.mem_filter.mpr ⟨hcall, by simp⟩, rfl⟩
  have hsplit := hc.input d hd
  have hfq : f ∈ F.items (qi d) := hsplit ▸ List.mem_append_left _ hf
  refine ⟨hok.inPool_iff.mpr ⟨qi d, .qIn hd, hfq⟩, ?_⟩
  intro hpool
  obtain ⟨q, hq, hfq'⟩ := hok'.inPool_iff.mp hpool
  obtain rfl := hok.refines.valid.disjoint q (qi d) f (hc.mem_items hfq') hfq
  have hnodup := hok.refines.valid.nodup (qi d)
  rw [← hsplit] at hnodup
  exact (List.nodup_append.mp hnodup).2.2 f hf f hfq' rfl

/-- **A tick that hands a frame over loses it.** -/
theorem ConservedInv.leak (h : ConservedInv D qi qo s₀ s F)
    {calls : List (Ptr × Ptr)} (hc : Consumed D qi s F calls s' F')
    (hok' : PoolOk D qi qo s' F') (hne : calls ≠ []) : ¬ Conserved D s₀ s' := by
  intro hcons
  obtain ⟨⟨d, f⟩, hcall⟩ := List.exists_mem_of_ne_nil calls hne
  obtain ⟨hpool, hpool'⟩ := not_inPool_of_handed h.pool hc hok' hcall
  have howned : Owned D s₀ s' f := ((h.owned f).mpr hpool).imp_right fun hf => hc.recvs ▸ hf
  -- the frame is linked nowhere, and the tick discarded nothing
  rcases hcons f howned with ⟨⟨q, hq, -⟩, -⟩ | ⟨-, hcount, -⟩
  · exact hpool' ⟨q, hq⟩
  · rw [hc.links.discards, h.discards] at hcount
    cases hcount

theorem owned_new
    (hrecvs : allocatedFrames s'.recvs = allocatedFrames s.recvs ++ [s.mem.heap.brk]) :
    Owned D s₀ s' f ↔ Owned D s₀ s f ∨ f = s.mem.heap.brk := by
  simp [Owned, hrecvs, or_assoc]

/-- A frame that was enqueued was only linked. -/
theorem accepted_links {m : Mem} {dev : Ptr} (r : Reception)
    (hoom : m.heap.oom m.heap.calls = false) (hq : (m.device dev).qIn = some q)
    (hrc : (xcanStackRecvBody dev r.canId r.flags r.data r.len m).1.1 = 0) :
    LinksOnly (recvFilled m dev r.canId r.data r.len)
      (xcanStackRecvBody dev r.canId r.flags r.data r.len m).2 := by
  have heq := xcanStackRecvBody_eq m dev r.canId r.data r.len r.flags hoom hq
  split at heq
  · rw [heq] at hrc
    cases hrc
  · rw [heq]
    exact xcanEnqueue_links q m.heap.brk (recvFilled m dev r.canId r.data r.len)

/-- **A reception that gets a descriptor and is not served loses it**: it is
discarded and not freed, or freed twice; or it is queued after it was freed. -/
theorem ConservedInv.lost (h : ConservedInv D qi qo s₀ s F) {dev : Ptr} (r : Reception)
    (hd : D dev) (hoom : s.mem.heap.oom s.mem.heap.calls = false)
    (hlost : s.mem.heap.oom (s.mem.heap.calls + 1) = true ∨ QueueFull s.mem (qi dev))
    (hmem : s'.mem = (xcanStackRecvBody dev r.canId r.flags r.data r.len s.mem).2)
    (hrecvs : allocatedFrames s'.recvs = allocatedFrames s.recvs ++ [s.mem.heap.brk]) :
    ¬ Conserved D s₀ s' := by
  intro hcons
  have hq := h.pool.wiring.qIn dev hd
  have hzero := h.freed.count_brk
  have hfull := h.pool.refines.full_iff (.qIn hd)
  obtain ⟨rc, fr, m', F', hrun, heff, hrep, hnew, hdevice, -⟩ :=
    xcanStackRecvBody_spec r.canId r.flags r.data r.len h.pool.wiring h.pool.refines h.new hd
  rw [hrun] at hmem
  have hok : InPool D s'.mem s.mem.heap.brk ↔
      ∃ q, DeviceQueue D qi qo q ∧ s.mem.heap.brk ∈ F'.items q := by
    apply exists_congr
    intro q
    rw [hmem, (h.pool.wiring.congr hdevice).queueOf_iff]
    exact and_congr_right fun hq => (hrep.represents q hq).linked_iff
  have hone := hcons s.mem.heap.brk ((owned_new hrecvs).mpr (.inr rfl))
  cases heff with
  -- excluded: a descriptor was obtained
  | noFrame _ hoom' => rw [hoom] at hoom'; cases hoom'
  | rejected =>
      have hnone : ¬ InPool D s'.mem s.mem.heap.brk := by
        rintro hin
        obtain ⟨q, -, hmem⟩ := hok.mp hin
        exact Nat.lt_irrefl _ (h.new q _ hmem)
      rcases hone with ⟨⟨q, hin, -⟩, -⟩ | ⟨-, -, hcount, -⟩
      · exact hnone ⟨q, hin⟩
      · have hfrees := rejected_frees r hoom hq (by rw [hrun])
        rw [hrun, ← hmem] at hfrees
        rcases hfrees with hkept | htwice
        · rw [hkept, hzero] at hcount
          cases hcount
        · rw [htwice] at hcount
          simp [hzero] at hcount
  | accepted _ hroom =>
      have hin : InPool D s'.mem s.mem.heap.brk :=
        hok.mpr ⟨qi dev, .qIn hd, Fifos.mem_push.mpr (.inr ⟨rfl, rfl⟩)⟩
      have hoom' := hlost.resolve_right fun hfull' => hroom (hfull.mpr hfull')
      have hlinks := accepted_links r hoom hq (by rw [hrun])
      rw [hrun, ← hmem] at hlinks
      rcases hone with ⟨-, -, hcount, -⟩ | ⟨hnone, -⟩
      · rw [hlinks.heap, (recvFilled_noPayload dev r hoom hoom').2] at hcount
        simp [hzero] at hcount
      · exact hnone hin

/-! ## The frames that are kept -/

theorem PoolOk.inPool_congr (h : PoolOk D qi qo s F) (h' : PoolOk D qi qo s' F')
    (hitems : F'.items = F.items) : InPool D s'.mem f ↔ InPool D s.mem f := by
  rw [h'.inPool_iff, h.inPool_iff, hitems]

theorem FreedTimes.kept {m m' : Mem} {n : Nat} (h : FreedTimes m f n)
    (hfrees : m'.heap.frees = m.heap.frees) (hdata : (m'.frame f).data = (m.frame f).data) :
    FreedTimes m' f n := by
  rw [FreedTimes, hfrees, hdata]
  exact h

/-- A call that allocates no frame and leaves the queues alone. -/
theorem ConservedInv.of_same (h : ConservedInv D qi qo s₀ s F)
    (hok : PoolOk D qi qo s' F') (hnew : Allocated s'.mem F') (hitems : F'.items = F.items)
    (hrecvs : allocatedFrames s'.recvs = allocatedFrames s.recvs)
    (hdis : s'.mem.discards = s.mem.discards)
    (hfrees : s'.mem.heap.frees = s.mem.heap.frees)
    (hbrk : s'.mem.heap.brk = s.mem.heap.brk)
    (hdata : ∀ f, (s'.mem.frame f).data = (s.mem.frame f).data) :
    ConservedInv D qi qo s₀ s' F' := by
  have hpool : ∀ f, InPool D s'.mem f ↔ InPool D s.mem f := fun f =>
    h.pool.inPool_congr hok hitems
  exact {
    pool := hok
    new := hnew
    owned := by
      intro f
      rw [hpool, ← h.owned]
      simp only [Owned, hrecvs]
    discards := hdis.trans h.discards
    freed := by
      intro b hb
      rw [hbrk]
      exact h.freed b (hfrees ▸ hb)
    kept := fun f hf => (h.kept f ((hpool f).mp hf)).kept hfrees (hdata f) }

/-- A call that allocates a frame and links it in a queue. -/
theorem ConservedInv.of_accepted (h : ConservedInv D qi qo s₀ s F) {dev : Ptr} (r : Reception)
    (hq : DeviceQueue D qi qo q) (hok : PoolOk D qi qo s' (F.push q s.mem.heap.brk))
    (hnew : Allocated s'.mem (F.push q s.mem.heap.brk))
    (hrecvs : allocatedFrames s'.recvs = allocatedFrames s.recvs ++ [s.mem.heap.brk])
    (hdis : s'.mem.discards = s.mem.discards)
    (hoom : s.mem.heap.oom s.mem.heap.calls = false)
    (hoom' : s.mem.heap.oom (s.mem.heap.calls + 1) = false)
    (hlinks : LinksOnly (recvFilled s.mem dev r.canId r.data r.len) s'.mem) :
    ConservedInv D qi qo s₀ s' (F.push q s.mem.heap.brk) := by
  have hpool : ∀ f, InPool D s'.mem f ↔ InPool D s.mem f ∨ f = s.mem.heap.brk := by
    intro f
    rw [hok.inPool_iff, h.pool.inPool_iff]
    simp only [Fifos.mem_push]
    constructor
    · rintro ⟨q', hq', hf | ⟨-, hf⟩⟩
      · exact .inl ⟨q', hq', hf⟩
      · exact .inr hf
    · rintro (⟨q', hq', hf⟩ | hf)
      · exact ⟨q', hq', .inl hf⟩
      · exact ⟨q, hq, .inr ⟨rfl, hf⟩⟩
  obtain ⟨hframe, -, hheap⟩ := recvFilled_granted s.mem dev r.canId r.data r.len hoom hoom'
  have hheap' : s'.mem.heap = (s.mem.heap.grant 0).grant 0 := hlinks.heap.trans hheap
  have hfrees : s'.mem.heap.frees = s.mem.heap.frees := by
    rw [hheap']
    rfl
  exact {
    pool := hok
    new := hnew
    owned := by
      intro f
      rw [owned_new hrecvs, hpool, h.owned]
    discards := hdis.trans h.discards
    freed := by
      intro b hb
      rw [hheap']
      exact Nat.lt_add_right 2 (h.freed b (hfrees ▸ hb))
    kept := by
      intro f hf
      rcases (hpool f).mp hf with hf | rfl
      · apply (h.kept f hf).kept hfrees
        rw [hlinks.data, hframe, Function.update_of_ne (Nat.ne_of_lt (h.lt_brk hf))]
      · -- the two new blocks are not among those that were freed
        refine ⟨by rw [hfrees, h.freed.count_brk], s.mem.heap.brk + 1, ?_, ?_⟩
        · rw [hlinks.data, hframe, Function.update_self]
          rfl
        · rw [hfrees, List.count_eq_zero]
          exact fun hmem => Nat.not_succ_lt_self (h.freed _ hmem) }

theorem ConservedInv.step (h : ConservedInv D qi qo s₀ s F) (hfuel : 20 < fuel)
    (he : e.On D) (hkept : NothingLost qi s e) (hstep : stackStep drv fuel s e = some s') :
    ∃ F', ConservedInv D qi qo s₀ s' F' := by
  cases e with
  | tick =>
      obtain ⟨F', heff, hok, hnew⟩ := stackStep_effect hfuel h.pool h.new he hstep
      cases heff with
      | @tick calls _ _ hc hiff =>
          obtain rfl : calls = [] := by
            by_contra hne
            exact hkept (hiff.mp hne)
          exact ⟨F', h.of_same hok hnew hc.items_eq (by rw [hc.recvs]) hc.links.discards
            (by rw [hc.links.heap]) (by rw [hc.links.heap]) hc.links.data⟩
  | recv dev canId flags data len =>
      obtain ⟨rc, fr, m', F', hrun, heff, hrep, hnew, hdevice, -⟩ := xcanStackRecvBody_spec
        canId flags data len h.pool.wiring h.pool.refines h.new he
      have hok := (h.pool.wiring).congr hdevice
      rw [stackStep_recv, hrun] at hstep
      cases hstep
      refine ⟨F', ?_⟩
      cases hoom : s.mem.heap.oom s.mem.heap.calls with
      | true =>
          rw [xcanStackRecvBody_refused s.mem dev canId data len flags hoom] at hrun
          cases hrun
          cases heff with
          | noFrame hdis =>
              exact h.of_same ⟨h.pool.registered, hok, hrep⟩ hnew rfl
                (by simp [allocatedFrames]) hdis rfl rfl fun _ => rfl
      | false =>
          obtain ⟨hoom', hroom⟩ := hkept.resolve_left (by rw [hoom]; exact Bool.false_ne_true)
          cases heff with
          -- excluded: a descriptor was obtained, and there is room
          | noFrame _ hrefused => rw [hoom] at hrefused; cases hrefused
          | rejected _ hfull => exact absurd ((h.pool.refines.full_iff (.qIn he)).mp hfull) hroom
          | accepted hdis =>
              have hlinks := accepted_links ⟨canId, flags, data, len⟩ hoom
                (h.pool.wiring.qIn dev he) (by rw [hrun])
              rw [hrun] at hlinks
              exact h.of_accepted ⟨canId, flags, data, len⟩ (.qIn he)
                ⟨h.pool.registered, hok, hrep⟩ hnew (by simp [allocatedFrames]) hdis hoom hoom'
                hlinks

/-- A step that loses a frame. -/
theorem ConservedInv.stepLost (h : ConservedInv D qi qo s₀ s F) (hfuel : 20 < fuel)
    (he : e.On D) (hlost : ¬ NothingLost qi s e) :
    ∃ s', stackStep drv fuel s e = some s' ∧ ¬ Conserved D s₀ s' := by
  cases e with
  | tick =>
      obtain ⟨s', F', hstep, heff, hok, -⟩ := stackStep_spec drv hfuel h.pool h.new he
      refine ⟨s', hstep, ?_⟩
      cases heff with
      | tick hc hiff => exact h.leak hc hok (hiff.mpr (not_not.mp hlost))
  | recv dev canId flags data len =>
      obtain ⟨hoom, hbad⟩ := not_or.mp hlost
      have hoom := Bool.eq_false_iff.mpr hoom
      have hbad : s.mem.heap.oom (s.mem.heap.calls + 1) = true ∨ QueueFull s.mem (qi dev) := by
        by_contra hnone
        obtain ⟨hgranted, hroom⟩ := not_or.mp hnone
        exact hbad ⟨Bool.eq_false_iff.mpr hgranted, hroom⟩
      obtain ⟨hframe, -⟩ := xcanStackRecvBody_filled ⟨canId, flags, data, len⟩
        (h.pool.wiring.qIn dev he) hoom
      refine ⟨_, stackStep_recv, h.lost ⟨canId, flags, data, len⟩ he hoom hbad rfl ?_⟩
      simp [allocatedFrames, hframe]

/-- A pool, with frames in its queues, before the first call of a run. -/
theorem ConservedInv.start (hok : PoolOk D qi qo s₀ F₀) (hnew : Allocated s₀.mem F₀)
    (hrecvs : s₀.recvs = []) (hdis : s₀.mem.discards = []) (hfreed : FreedOnly s₀.mem.heap)
    (hkept : ∀ f, InPool D s₀.mem f → FreedTimes s₀.mem f 0) :
    ConservedInv D qi qo s₀ s₀ F₀ where
  pool := hok
  new := hnew
  owned f := by simp [Owned, hrecvs, allocatedFrames]
  discards := hdis
  freed := hfreed
  kept := hkept

/-- **Frames are conserved in exactly the runs that lose none**: no tick finds
input, and every reception that gets a descriptor gets a payload and is
queued. -/
theorem conserved_iff_nothing_lost (hfuel : 20 < fuel) (h₀ : PoolState D qi qo s₀)
    (hrecvs : s₀.recvs = []) (hdis : s₀.mem.discards = []) (hfreed : FreedOnly s₀.mem.heap)
    (hkept : ∀ f, InPool D s₀.mem f → FreedTimes s₀.mem f 0) (hon : ∀ e ∈ es, e.On D) :
    (∃ s, Runs.run (stackStep drv fuel) s₀ es = some s) ∧
      (Runs.Always (stackStep drv fuel) (Conserved D s₀) s₀ es ↔
        Runs.Meets (stackStep drv fuel) (NothingLost qi) s₀ es) := by
  constructor
  · obtain ⟨s, hrun, -⟩ := h₀.run hfuel hon
    exact ⟨s, hrun⟩
  · obtain ⟨F₀, hok, hnew⟩ := h₀
    exact Runs.always_iff_meets (I := fun s => ∃ F, ConservedInv D qi qo s₀ s F)
      (A := fun _ e => e.On D) (fun s ⟨F, h⟩ => h.conserved)
      (fun s e s' ⟨F, h⟩ he hkept hstep => h.step hfuel he hkept hstep)
      (fun s e ⟨F, h⟩ he hlost => h.stepLost hfuel he hlost)
      ⟨F₀, .start hok hnew hrecvs hdis hfreed hkept⟩ (Runs.meets_of_forall hon)

end

theorem twoDevices_conserved : ∃ F, ConservedInv IsTwo (10 * ·) (10 * · + 1) twoDevices
    twoDevices F := by
  refine ⟨_, .start twoDevices_fresh.inv.pool twoDevices_fresh.inv.new rfl rfl
    (fun _ hb => nomatch hb) ?_⟩
  intro f hf
  obtain ⟨q, -, hfq⟩ := twoDevices_fresh.inv.pool.inPool_iff.mp hf
  cases hfq

/-- A reception that is not followed by a tick. -/
theorem conserved_iff_nothing_lost_recv :
    (∃ s, Runs.run (stackStep acceptAll 21) twoDevices
        [.tick, .recv 1 5 0 (fun _ => 7) 8] = some s) ∧
      (Runs.Always (stackStep acceptAll 21) (Conserved IsTwo twoDevices) twoDevices
          [.tick, .recv 1 5 0 (fun _ => 7) 8] ↔
        Runs.Meets (stackStep acceptAll 21) (NothingLost (10 * ·)) twoDevices
          [.tick, .recv 1 5 0 (fun _ => 7) 8]) := by
  obtain ⟨F, h⟩ := twoDevices_conserved
  exact conserved_iff_nothing_lost (by decide) ⟨F, h.pool, h.new⟩ rfl h.discards h.freed
    h.kept (by simp [StackEvent.On, IsTwo])

/-- A tick after a reception. -/
theorem received_frame_lost :
    ∃ s, Runs.run (stackStep acceptAll 21) twoDevices
        [.recv 1 5 0 (fun _ => 7) 8, .tick] = some s ∧
      ¬ Conserved IsTwo twoDevices s := by
  obtain ⟨F, hinv⟩ := twoDevices_conserved
  have hon : (StackEvent.recv 1 5 0 (fun _ => 7) 8).On IsTwo := Or.inl rfl
  have hroom : NothingLost (10 * ·) twoDevices (.recv 1 5 0 (fun _ => 7) 8) :=
    Or.inr ⟨rfl, fun hfull => hfull.1 rfl⟩
  have hstep₁ : ∃ s₁, stackStep acceptAll 21 twoDevices (.recv 1 5 0 (fun _ => 7) 8) =
      some s₁ := ⟨_, stackStep_recv⟩
  obtain ⟨s₁, hstep₁⟩ := hstep₁
  have hinput : HasInput (10 * ·) s₁ (List.range xcanMaxDevices) := by
    have hcount : ((stackStep acceptAll 21 twoDevices (.recv 1 5 0 (fun _ => 7) 8)).map
        fun s => (s.devices 0, (s.mem.queue 10).frames)) = some (some 1, 1) := by decide
    rw [hstep₁, Option.map_some, Option.some_inj, Prod.mk.injEq] at hcount
    exact ⟨0, by decide, 1, hcount.1, by simp [hcount.2]⟩
  obtain ⟨F₁, hinv₁⟩ := hinv.step (by decide) hon hroom hstep₁
  have htick : ¬ NothingLost (10 * ·) s₁ .tick := not_not.mpr hinput
  obtain ⟨s₂, hstep₂, hlost⟩ : ∃ s₂, stackStep acceptAll 21 s₁ .tick = some s₂ ∧
      ¬ Conserved IsTwo twoDevices s₂ := hinv₁.stepLost (by decide) trivial htick
  refine ⟨s₂, ?_, hlost⟩
  rw [Runs.run_cons, hstep₁, Option.bind_some, Runs.run_cons, hstep₂]
  rfl

end XcanRouter
