import XcanRouter.Loops

/-!
# The input pass

What `xcan_devices_loop` does in direction IN: it takes frames off the input
queues of the registered devices, in order, and hands each of them over once.
`Consumed` says this for any number of frames; it composes, so the loop over
the queue, the loop over the pool and the outer loop each only add their step.
-/

namespace XcanRouter

variable {W : Type}

/-- Where the queues of the devices `D` are: each device has its own two. -/
structure Wiring (m : Mem) (D : Ptr → Prop) (qi qo : Ptr → Ptr) : Prop where
  qIn : ∀ d, D d → (m.device d).qIn = some (qi d)
  qOut : ∀ d, D d → (m.device d).qOut = some (qo d)
  in_inj : ∀ d d', D d → D d' → qi d = qi d' → d = d'
  out_inj : ∀ d d', D d → D d' → qo d = qo d' → d = d'
  in_ne_out : ∀ d d', D d → D d' → qi d ≠ qo d'

theorem Wiring.congr {m m' : Mem} {D : Ptr → Prop} {qi qo : Ptr → Ptr}
    (h : Wiring m D qi qo) (hdev : m'.device = m.device) : Wiring m' D qi qo :=
  ⟨fun d hd => by rw [hdev, h.qIn d hd], fun d hd => by rw [hdev, h.qOut d hd],
    h.in_inj, h.out_inj, h.in_ne_out⟩

/-- The queues of the devices `D`. -/
def DeviceQueue (D : Ptr → Prop) (qi qo : Ptr → Ptr) (q : Ptr) : Prop :=
  ∃ d, D d ∧ (q = qi d ∨ q = qo d)

theorem DeviceQueue.qIn {D : Ptr → Prop} {qi qo : Ptr → Ptr} {d : Ptr}
    (hd : D d) : DeviceQueue D qi qo (qi d) := ⟨d, hd, .inl rfl⟩

theorem DeviceQueue.qOut {D : Ptr → Prop} {qi qo : Ptr → Ptr} {d : Ptr}
    (hd : D d) : DeviceQueue D qi qo (qo d) := ⟨d, hd, .inr rfl⟩

/-- **The state of a pool**: the registered devices are among `D`, whose
queues are where `qi` and `qo` say and hold the lists of `F`. -/
structure PoolOk (D : Ptr → Prop) (qi qo : Ptr → Ptr) (s : Stack W)
    (F : Fifos Ptr Ptr) : Prop where
  registered : ∀ i d, i < xcanMaxDevices → s.devices i = some d → D d
  wiring : Wiring s.mem D qi qo
  refines : Refines (DeviceQueue D qi qo) s.mem F

/-- The frames of `calls` that came from `d`. -/
def framesOf (d : Ptr) (calls : List (Ptr × Ptr)) : List Ptr :=
  (calls.filter (·.1 = d)).map Prod.snd

@[simp] theorem framesOf_append (d : Ptr) (xs ys : List (Ptr × Ptr)) :
    framesOf d (xs ++ ys) = framesOf d xs ++ framesOf d ys := by
  simp [framesOf]

@[simp] theorem framesOf_nil (d : Ptr) : framesOf d [] = [] := rfl

theorem framesOf_self (d : Ptr) (l : List Ptr) :
    framesOf d (l.map (d, ·)) = l := by
  simp [framesOf, List.filter_map, Function.comp_def]

theorem framesOf_other {d d' : Ptr} (h : d' ≠ d) (l : List Ptr) :
    framesOf d (l.map (d', ·)) = [] := by
  simp [framesOf, List.filter_map, Function.comp_def, h]

/-- From `s` to `s'` the frames of `calls` were taken off the input queues and
handed over, in this order, and nothing else happened. -/
structure Consumed (D : Ptr → Prop) (qi : Ptr → Ptr) (s : Stack W)
    (F : Fifos Ptr Ptr) (calls : List (Ptr × Ptr)) (s' : Stack W)
    (F' : Fifos Ptr Ptr) : Prop where
  handed : s'.handed = s.handed ++ calls
  source : ∀ c ∈ calls, D c.1
  input : ∀ d, D d → framesOf d calls ++ F'.items (qi d) = F.items (qi d)
  other : ∀ q, (∀ d, D d → q ≠ qi d) → F'.items q = F.items q
  links : LinksOnly s.mem s'.mem
  devices : s'.devices = s.devices
  world : s'.world = s.world
  recvs : s'.recvs = s.recvs
  sends : s'.sends = s.sends

section
variable {D : Ptr → Prop} {qi qo : Ptr → Ptr} {s s' s'' : Stack W}
  {F F' F'' : Fifos Ptr Ptr} {calls calls' : List (Ptr × Ptr)}

theorem Consumed.refl : Consumed D qi s F [] s F :=
  ⟨by simp, by simp, by simp, fun _ _ => rfl, LinksOnly.refl _, rfl, rfl, rfl, rfl⟩

theorem Consumed.trans (h : Consumed D qi s F calls s' F')
    (h' : Consumed D qi s' F' calls' s'' F'') :
    Consumed D qi s F (calls ++ calls') s'' F'' where
  handed := by rw [h'.handed, h.handed, List.append_assoc]
  source c hc := (List.mem_append.mp hc).elim (h.source c) (h'.source c)
  input d hd := by
    rw [framesOf_append, List.append_assoc, h'.input d hd, h.input d hd]
  other q hq := (h'.other q hq).trans (h.other q hq)
  links := h.links.trans h'.links
  devices := h'.devices.trans h.devices
  world := h'.world.trans h.world
  recvs := h'.recvs.trans h.recvs
  sends := h'.sends.trans h.sends

/-- Hand-over takes frames off the front of queues only. -/
theorem Consumed.exists_taken (h : Consumed D qi s F calls s' F') (q : Ptr) :
    ∃ taken, taken ++ F'.items q = F.items q ∧ (calls = [] → taken = []) := by
  by_cases hq : ∃ d, D d ∧ q = qi d
  · obtain ⟨d, hd, rfl⟩ := hq
    refine ⟨framesOf d calls, h.input d hd, ?_⟩
    rintro rfl
    exact framesOf_nil d
  · exact ⟨[], h.other q fun d hd heq => hq ⟨d, hd, heq⟩, fun _ => rfl⟩

theorem Consumed.mem_items (h : Consumed D qi s F calls s' F') {q f : Ptr}
    (hf : f ∈ F'.items q) : f ∈ F.items q := by
  obtain ⟨taken, htaken, -⟩ := h.exists_taken q
  rw [← htaken]
  exact List.mem_append_right taken hf

theorem Consumed.items_eq (h : Consumed D qi s F [] s' F') : F'.items = F.items := by
  ext1 q
  obtain ⟨taken, htaken, hnil⟩ := h.exists_taken q
  rw [← htaken, hnil rfl, List.nil_append]

theorem PoolOk.of_consumed (h : PoolOk D qi qo s F)
    (hc : Consumed D qi s F calls s' F')
    (hrep : Refines (DeviceQueue D qi qo) s'.mem F') : PoolOk D qi qo s' F' where
  registered i d hi hd := h.registered i d hi (by rw [← hc.devices]; exact hd)
  wiring := h.wiring.congr hc.links.device
  refines := hrep

/-- Taking the first `n` frames of one input queue. -/
theorem consumed_drop (hw : Wiring s.mem D qi qo) {d : Ptr} (hd : D d) (n : Nat)
    (hhanded : s'.handed = s.handed ++ ((F.items (qi d)).take n).map (d, ·))
    (hlinks : LinksOnly s.mem s'.mem) (hdevices : s'.devices = s.devices)
    (hworld : s'.world = s.world) (hrecvs : s'.recvs = s.recvs)
    (hsends : s'.sends = s.sends) :
    Consumed D qi s F (((F.items (qi d)).take n).map (d, ·)) s' (F.drop (qi d) n) where
  handed := hhanded
  source c hc := by
    obtain ⟨f, -, rfl⟩ := List.mem_map.mp hc
    exact hd
  input d' hd' := by
    by_cases h : d = d'
    · subst h
      rw [framesOf_self, Fifos.drop_items_self, List.take_append_drop]
    · rw [framesOf_other h, Fifos.drop_items_of_ne
        (fun he => h (hw.in_inj d' d hd' hd he).symm), List.nil_append]
  other q hq := Fifos.drop_items_of_ne (hq d hd)
  links := hlinks
  devices := hdevices
  world := hworld
  recvs := hrecvs
  sends := hsends

/-- How many frames `xcan_dequeue` is willing to take off a queue: as many as
its 32-bit counter shows. -/
def countOf (F : Fifos Ptr Ptr) (q : Ptr) : Nat := (F.items q).length % 2 ^ 32

theorem PoolOk.frames_toNat (h : PoolOk D qi qo s F) {d : Ptr} (hd : D d) :
    (s.mem.queue (qi d)).frames.toNat = countOf F (qi d) :=
  (h.refines.represents _ (.qIn hd)).frames

theorem PoolOk.of_readsOnly (h : PoolOk D qi qo s F) {m : Mem}
    (hm : ReadsOnly s.mem m) : PoolOk D qi qo { s with mem := m } F :=
  ⟨h.registered, h.wiring.congr hm.device, h.refines.of_eq hm.queue hm.frame⟩

theorem Consumed.of_readsOnly {m : Mem} (hm : ReadsOnly s.mem m) :
    Consumed D qi s F [] { s with mem := m } F :=
  ⟨by simp, by simp, by simp, fun _ _ => rfl, hm.links, rfl, rfl, rfl, rfl⟩

/-- One turn of the loop on a queue whose counter is zero. -/
theorem devloopInWhile_zero {d : Ptr} {score : Int} (fuel : Nat) (hpos : 0 < score)
    (hqin : (s.mem.device d).qIn = some (qi d))
    (hzero : (s.mem.queue (qi d)).frames = 0) :
    ∃ m, ReadsOnly s.mem m ∧
      devloopInWhile d (fuel + 1) score s = some (score, { s with mem := m }) := by
  refine ⟨_, ((ReadsOnly.refl s.mem).touch (some d) 24 8).touch (some (qi d)) 0 4, ?_⟩
  simp [devloopInWhile, hpos, DeviceField.qIn, QueueField.frames, hqin, hzero]

/-- One turn of the loop on any other queue, up to the dequeue. -/
theorem devloopInWhile_next {d : Ptr} {score : Int} (fuel : Nat) (hpos : 0 < score)
    (hqin : (s.mem.device d).qIn = some (qi d))
    (hframes : (s.mem.queue (qi d)).frames ≠ 0) :
    ∃ m, ReadsOnly s.mem m ∧ ∀ f, (xcanDequeue (some (qi d)) m).1 = some f →
      devloopInWhile d (fuel + 1) score s = devloopInWhile d fuel (score - 1)
        { s with
          mem := (xcanDequeue (some (qi d)) m).2
          handed := s.handed ++ [(d, f)] } := by
  refine ⟨_, (((ReadsOnly.refl s.mem).touch (some d) 24 8).touch (some (qi d)) 0 4).touch
    (some d) 24 8, ?_⟩
  intro f hf
  simp [devloopInWhile, hpos, DeviceField.qIn, QueueField.frames, hqin, hframes, hf,
    noteHanded, xcanDatalinkReceive, xcanRouterReceive]

/-- **`devloop_in` on a registered device**: it hands over as many frames as
the score and the counter of the queue both allow. -/
theorem devloopInWhile_spec {d : Ptr} (hd : D d) :
    ∀ (fuel : Nat) (score : Int) (s : Stack W) (F : Fifos Ptr Ptr),
      PoolOk D qi qo s F → score.toNat < fuel →
      ∃ (s' : Stack W) (k : Nat),
        devloopInWhile d fuel score s = some (score - k, s') ∧
        k = min score.toNat (countOf F (qi d)) ∧
        PoolOk D qi qo s' (F.drop (qi d) k) ∧
        Consumed D qi s F (((F.items (qi d)).take k).map (d, ·)) s'
          (F.drop (qi d) k) := by
  -- every turn of the loop takes a frame and one off the score
  intro fuel
  induction fuel with
  | zero => intro score s F _ h; omega
  | succ fuel ih =>
      intro score s F hok hfuel
      have hqin := hok.wiring.qIn d hd
      have hcount := hok.frames_toNat hd
      by_cases hpos : 0 < score
      swap
      · refine ⟨s, 0, by simp [devloopInWhile, hpos], by omega, by simpa using hok, ?_⟩
        simpa using Consumed.refl
      by_cases hzero : (s.mem.queue (qi d)).frames = 0
      · obtain ⟨m, hm, hrun⟩ := devloopInWhile_zero fuel hpos hqin hzero
        have hk : countOf F (qi d) = 0 := by
          rw [← hcount, hzero]
          rfl
        refine ⟨_, 0, by simpa using hrun, by omega, ?_, ?_⟩
        · simpa using hok.of_readsOnly hm
        · simpa using Consumed.of_readsOnly hm
      · obtain ⟨m, hm, hrun⟩ := devloopInWhile_next fuel hpos hqin hzero
        have hok' := hok.of_readsOnly hm
        obtain ⟨f, hitems, hdeq, hrep, -, hlinks⟩ :=
          hok'.refines.dequeue (.qIn hd) (by rw [hm.queue]; exact hzero)
        have hlinks' : LinksOnly s.mem (xcanDequeue (some (qi d)) m).2 :=
          hm.links.trans hlinks
        -- the state the next turn starts from, one frame further
        let s₁ : Stack W := { s with
          mem := (xcanDequeue (some (qi d)) m).2
          handed := s.handed ++ [(d, f)] }
        have hone : Consumed D qi s F (((F.items (qi d)).take 1).map (d, ·)) s₁
            (F.drop (qi d) 1) :=
          consumed_drop hok.wiring hd 1 (by rw [hitems]; simp [s₁]) hlinks' rfl rfl rfl rfl
        have hok₁ := hok.of_consumed hone hrep
        obtain ⟨s', k, hrun', hk, hok₂, hcons⟩ := ih (score - 1) _ _ hok₁ (by omega)
        have hne : 0 < countOf F (qi d) := by
          rw [← hcount]
          exact Nat.pos_of_ne_zero fun h => hzero (UInt32.toNat_inj.mp h)
        have hlen : (F.items (qi d)).length = (F.items (qi d)).tail.length + 1 := by
          rw [hitems]
          simp
        have hrest : countOf (F.drop (qi d) 1) (qi d) = countOf F (qi d) - 1 := by
          simp only [countOf, Fifos.drop_items_self, List.length_drop] at hne ⊢
          omega
        refine ⟨s', k + 1, ?_, by omega, ?_, ?_⟩
        · rw [hrun f hdeq, hrun']
          congr 2
          omega
        · rw [Nat.add_comm k 1, ← Fifos.drop_drop]
          exact hok₂
        · have hboth := hone.trans hcons
          rw [Fifos.drop_items_self, ← List.map_append, ← List.take_add,
            Fifos.drop_drop] at hboth
          rwa [Nat.add_comm k 1]

/-- A device registered in one of the slots `is` has input that
`xcan_dequeue` would give out. -/
def HasInput (qi : Ptr → Ptr) (s : Stack W) (is : List Nat) : Prop :=
  ∃ i ∈ is, ∃ d, s.devices i = some d ∧ (s.mem.queue (qi d)).frames ≠ 0

theorem PoolOk.frames_eq_of_consumed_nil (h : PoolOk D qi qo s F)
    (hc : Consumed D qi s F [] s' F') (h' : PoolOk D qi qo s' F') {d : Ptr}
    (hd : D d) :
    (s'.mem.queue (qi d)).frames = (s.mem.queue (qi d)).frames := by
  rw [← UInt32.toNat_inj, h.frames_toNat hd, h'.frames_toNat hd, countOf, hc.items_eq,
    countOf]

theorem PoolOk.hasInput_of_consumed_nil (h : PoolOk D qi qo s F)
    (hc : Consumed D qi s F [] s' F') (h' : PoolOk D qi qo s' F') {is : List Nat}
    (his : ∀ i ∈ is, i < xcanMaxDevices) :
    HasInput qi s' is ↔ HasInput qi s is := by
  simp only [HasInput, hc.devices]
  constructor <;> rintro ⟨i, hi, d, hd, hne⟩ <;> refine ⟨i, hi, d, hd, ?_⟩
  · rwa [h.frames_eq_of_consumed_nil hc h' (h.registered i d (his i hi) hd)] at hne
  · rwa [h.frames_eq_of_consumed_nil hc h' (h.registered i d (his i hi) hd)]

/-- The first slot has input when its queue counts a frame. -/
theorem PoolOk.hasInput_cons (h : PoolOk D qi qo s F) {i : Nat} {is : List Nat} {d : Ptr}
    (hd : D d) (hdev : s.devices i = some d) :
    HasInput qi s (i :: is) ↔ countOf F (qi d) ≠ 0 ∨ HasInput qi s is := by
  have hframes : (s.mem.queue (qi d)).frames ≠ 0 ↔ countOf F (qi d) ≠ 0 := by
    rw [Ne, ← UInt32.toNat_inj, h.frames_toNat hd]
    rfl
  simp only [HasInput, List.mem_cons, exists_eq_or_imp, hdev, Option.some.injEq,
    exists_eq_left', hframes]

/-- **One pass over slots of the pool** hands over at most `score` frames, and
at least one when there is score and input. -/
theorem forDevices_in_spec {fuel : Nat} :
    ∀ (is : List Nat), (∀ i ∈ is, i < xcanMaxDevices) →
    ∀ (score : Int) (s : Stack W) (F : Fifos Ptr Ptr),
      PoolOk D qi qo s F → 0 ≤ score → score.toNat < fuel →
      ∃ (s' : Stack W) (calls : List (Ptr × Ptr)) (F' : Fifos Ptr Ptr),
        forDevices (devloopIn fuel) is score s =
          some (score - (calls.length : Int), s') ∧
        (calls.length : Int) ≤ score ∧ PoolOk D qi qo s' F' ∧
        Consumed D qi s F calls s' F' ∧
        (0 < score → (calls ≠ [] ↔ HasInput qi s is)) := by
  intro is
  induction is with
  | nil =>
      intro _ score s F hok hscore _
      exact ⟨s, [], F, by simp [forDevices], by simpa using hscore, hok, .refl,
        fun _ => by simp [HasInput]⟩
  | cons i is ih =>
      intro his score s F hok hscore hfuel
      have his' : ∀ i ∈ is, i < xcanMaxDevices := fun j hj => his j (by simp [hj])
      cases hdev : s.devices i with
      | none =>
          obtain ⟨s', calls, F', hrun, hlen, hok', hc, hiff⟩ :=
            ih his' score s F hok hscore hfuel
          refine ⟨s', calls, F', ?_, hlen, hok', hc, fun hpos => ?_⟩
          · rw [forDevices_cons (by rw [hdev]; rfl)]
            exact hrun
          · rw [hiff hpos]
            simp [HasInput, hdev]
      | some d =>
          have hd : D d := hok.registered i d (his i (by simp)) hdev
          obtain ⟨s₁, k, hrun₁, hk, hok₁, hc₁⟩ :=
            devloopInWhile_spec hd fuel score s F hok hfuel
          have hklen : (((F.items (qi d)).take k).map (d, ·)).length = k := by
            have : countOf F (qi d) ≤ (F.items (qi d)).length := Nat.mod_le _ _
            rw [List.length_map, List.length_take]
            omega
          obtain ⟨s', calls, F', hrun, hlen, hok', hc, hiff⟩ :=
            ih his' (score - k) s₁ _ hok₁ (by omega) (by omega)
          refine ⟨s', _, F', ?_, ?_, hok', hc₁.trans hc, fun hpos => ?_⟩
          · rw [List.length_append, hklen]
            rw [forDevices_cons (by rw [hdev]; exact hrun₁), hrun]
            congr 2
            omega
          · rw [List.length_append, hklen]
            omega
          -- a device that gave nothing has no input, and the other slots decide
          · rw [hok.hasInput_cons hd hdev]
            rcases Nat.eq_zero_or_pos k with rfl | hkpos
            · have hzero : ¬ countOf F (qi d) ≠ 0 := by omega
              simp only [List.take_zero, List.map_nil, List.nil_append] at hc₁ ⊢
              rw [hiff (by omega), hok.hasInput_of_consumed_nil hc₁ hok₁ his', or_iff_right hzero]
            · refine ⟨fun _ => .inl (by omega), ?_⟩
              intro _ hnil
              have := congrArg List.length hnil
              rw [List.length_append, hklen, List.length_nil] at this
              omega

/-- **`xcan_devices_loop` in direction IN**: whatever the input, the score it
returns is not positive. -/
theorem xcanDevicesLoopWhile_in_spec (drv : Drivers W) {fuel : Nat} :
    ∀ (n : Nat) (score : Int) (s : Stack W) (F : Fifos Ptr Ptr),
      PoolOk D qi qo s F → score.toNat < n → score.toNat < fuel →
      ∃ (score' : Int) (s' : Stack W) (calls : List (Ptr × Ptr)) (F' : Fifos Ptr Ptr),
        xcanDevicesLoopWhile drv fuel xcanLoopDirIn n score s = some (score', s') ∧
        score' ≤ 0 ∧ PoolOk D qi qo s' F' ∧ Consumed D qi s F calls s' F' ∧
        (score ≤ 0 → calls = []) ∧
        (0 < score → (calls ≠ [] ↔ HasInput qi s (List.range xcanMaxDevices))) := by
  intro n
  induction n with
  | zero => intro score s F _ h; omega
  | succ n ih =>
      intro score s F hok hn hfuel
      by_cases hpos : 0 < score
      swap
      · exact ⟨score, s, [], F, xcanDevicesLoopWhile_nonpos hpos, by omega, hok,
          .refl, fun _ => rfl, fun h => absurd h hpos⟩
      have hslots : ∀ i ∈ List.range xcanMaxDevices, i < xcanMaxDevices := fun i hi =>
        List.mem_range.mp hi
      obtain ⟨s₁, calls₁, F₁, hrun₁, hlen₁, hok₁, hc₁, hiff₁⟩ :=
        forDevices_in_spec _ hslots score s F hok (by omega) hfuel
      obtain ⟨score', s', calls, F', hrun, hle, hok', hc, hnone, hiff⟩ :=
        ih (score - calls₁.length - 1) s₁ F₁ hok₁ (by omega) (by omega)
      refine ⟨score', s', calls₁ ++ calls, F', ?_, hle, hok', hc₁.trans hc,
        fun h => by omega, fun _ => ?_⟩
      · rw [xcanDevicesLoopWhile_in hpos hrun₁]
        exact hrun
      -- a first pass without calls leaves the same input for the second one
      · by_cases hcalls : calls₁ = []
        · subst hcalls
          rw [List.nil_append, ← hok.hasInput_of_consumed_nil hc₁ hok₁ hslots]
          by_cases hleft : 0 < score - (([] : List (Ptr × Ptr)).length : Int) - 1
          · exact hiff hleft
          · rw [hnone (by omega), hok.hasInput_of_consumed_nil hc₁ hok₁ hslots,
              ← hiff₁ hpos]
        · exact ⟨fun _ => (hiff₁ hpos).mp hcalls, fun _ h =>
            hcalls (List.append_eq_nil_iff.mp h).1⟩

/-- A call of `xcan_devices_loop` without score does nothing. -/
theorem xcanDevicesLoop_nonpos (drv : Drivers W) {fuel : Nat} {score direction : Int}
    (hfuel : 0 < fuel) (hscore : score ≤ 0) (s : Stack W) :
    xcanDevicesLoop drv fuel score direction s = some (score, s) := by
  obtain ⟨fuel, rfl⟩ : ∃ k, fuel = k + 1 := ⟨fuel - 1, by omega⟩
  exact xcanDevicesLoopWhile_nonpos (Int.not_lt.mpr hscore)

end

end XcanRouter
