import XcanRouter.StackRuns

/-!
# The input pass, exactly

A pool of distinct devices has one sequence of input: the contents of the
input queues in the order of the slots. `xcan_devices_loop` in direction IN
hands over a prefix of it, as long as the score.
-/

namespace XcanRouter

variable {W : Type}

/-- The frames in the queues `q` of the devices in the slots `is`, in the order
of the slots, each with its device. -/
def queuedIn (devices : Nat → Option Ptr) (q : Ptr → Ptr) (F : Fifos Ptr Ptr)
    (is : List Nat) : List (Ptr × Ptr) :=
  is.flatMap fun i => match devices i with
    | none => []
    | some d => (F.items (q d)).map (d, ·)

/-- The same for all slots of a pool. -/
def queued (q : Ptr → Ptr) (s : Stack W) (F : Fifos Ptr Ptr) : List (Ptr × Ptr) :=
  queuedIn s.devices q F (List.range xcanMaxDevices)

/-- No device is in two slots. -/
def DistinctDevices (devices : Nat → Option Ptr) : Prop :=
  ∀ i j d, i < xcanMaxDevices → j < xcanMaxDevices → devices i = some d →
    devices j = some d → i = j

section
variable {devices : Nat → Option Ptr} {q : Ptr → Ptr} {F F' : Fifos Ptr Ptr}
  {i : Nat} {is : List Nat} {d : Ptr}

theorem queuedIn_none (h : devices i = none) :
    queuedIn devices q F (i :: is) = queuedIn devices q F is := by
  simp [queuedIn, h]

theorem queuedIn_some (h : devices i = some d) :
    queuedIn devices q F (i :: is) =
      (F.items (q d)).map (d, ·) ++ queuedIn devices q F is := by
  simp [queuedIn, h]

theorem queuedIn_congr
    (h : ∀ i ∈ is, ∀ d, devices i = some d → F'.items (q d) = F.items (q d)) :
    queuedIn devices q F' is = queuedIn devices q F is := by
  induction is with
  | nil => rfl
  | cons i is ih =>
      have hrest := ih fun j hj => h j (by simp [hj])
      cases hi : devices i with
      | none => rw [queuedIn_none hi, queuedIn_none hi, hrest]
      | some d =>
          rw [queuedIn_some hi, queuedIn_some hi, hrest, h i (by simp) d hi]

/-- A device in one of the slots has all its frames in the sequence. -/
theorem length_le_framesOf_queuedIn (hi : i ∈ is) (hd : devices i = some d) :
    (F.items (q d)).length ≤ (framesOf d (queuedIn devices q F is)).length := by
  induction is with
  | nil => cases hi
  | cons j is ih =>
      rcases List.mem_cons.mp hi with rfl | hi
      · rw [queuedIn_some hd, framesOf_append, framesOf_self, List.length_append]
        exact Nat.le_add_right _ _
      · cases hj : devices j with
        | none =>
            rw [queuedIn_none hj]
            exact ih hi
        | some d' =>
            rw [queuedIn_some hj, framesOf_append, List.length_append]
            exact Nat.le_trans (ih hi) (Nat.le_add_left _ _)

theorem queuedIn_eq_nil
    (h : ∀ i ∈ is, ∀ d, devices i = some d → F.items (q d) = []) :
    queuedIn devices q F is = [] := by
  induction is with
  | nil => rfl
  | cons i is ih =>
      have hrest := ih fun j hj => h j (by simp [hj])
      cases hi : devices i with
      | none => rw [queuedIn_none hi, hrest]
      | some d => rw [queuedIn_some hi, hrest, h i (by simp) d hi, List.map_nil,
          List.nil_append]

end

section
variable {D : Ptr → Prop} {qi qo : Ptr → Ptr} {s s' : Stack W} {F F' : Fifos Ptr Ptr}
  {is : List Nat} {calls : List (Ptr × Ptr)}

/-- The count of every input queue is the number of its frames. -/
def Counted (D : Ptr → Prop) (qi : Ptr → Ptr) (F : Fifos Ptr Ptr) : Prop :=
  ∀ d, D d → (F.items (qi d)).length < 2 ^ 32

theorem Counted.countOf {d : Ptr} (h : Counted D qi F) (hd : D d) :
    countOf F (qi d) = (F.items (qi d)).length :=
  Nat.mod_eq_of_lt (h d hd)

theorem Counted.of_consumed (h : Counted D qi F) (hc : Consumed D qi s F calls s' F') :
    Counted D qi F' := by
  intro d hd
  have hlen := congrArg List.length (hc.input d hd)
  rw [List.length_append] at hlen
  exact Nat.lt_of_le_of_lt (by omega) (h d hd)

/-- When all input of a pool was handed over, none is left. -/
theorem Consumed.queuedIn_eq_nil (hok : PoolOk D qi qo s F)
    (his : ∀ i ∈ is, i < xcanMaxDevices)
    (hc : Consumed D qi s F (queuedIn s.devices qi F is) s' F') :
    queuedIn s'.devices qi F' is = [] := by
  apply XcanRouter.queuedIn_eq_nil
  intro i hi d hd
  rw [hc.devices] at hd
  have hinput := congrArg List.length
    (hc.input d (hok.registered i d (his i hi) hd))
  have hle := length_le_framesOf_queuedIn (q := qi) (F := F) hi hd
  rw [List.length_append] at hinput
  exact List.length_eq_zero_iff.mp (by omega)

/-- The device in slot `i` is in no later slot: what happens to its queue
changes nothing there. -/
theorem PoolOk.queuedIn_congr {q : Ptr → Ptr} {i : Nat} {d : Ptr} (hok : PoolOk D qi qo s F)
    (hdist : DistinctDevices s.devices) (his : ∀ j ∈ i :: is, j < xcanMaxDevices)
    (hnot : i ∉ is) (hdev : s.devices i = some d)
    (h : ∀ d', D d' → d' ≠ d → F'.items (q d') = F.items (q d')) :
    queuedIn s.devices q F' is = queuedIn s.devices q F is := by
  apply XcanRouter.queuedIn_congr
  intro j hj d' hd'
  have hi := his i List.mem_cons_self
  have hj' := his j (List.mem_cons_of_mem i hj)
  apply h d' (hok.registered j d' hj' hd')
  intro heq
  subst heq
  obtain rfl := hdist i j d' hi hj' hdev hd'
  exact hnot hj

/-- **One pass over slots of the pool** hands over what the score allows of
the input in these slots. -/
theorem forDevices_in_exact {fuel : Nat} :
    ∀ (is : List Nat), is.Nodup → (∀ i ∈ is, i < xcanMaxDevices) →
    ∀ (score : Int) (s : Stack W) (F : Fifos Ptr Ptr),
      PoolOk D qi qo s F → Counted D qi F → DistinctDevices s.devices →
      0 ≤ score → score.toNat < fuel →
      ∃ (s' : Stack W) (F' : Fifos Ptr Ptr),
        forDevices (devloopIn fuel) is score s = some
          (score - (min score.toNat (queuedIn s.devices qi F is).length : Nat), s') ∧
        PoolOk D qi qo s' F' ∧ F'.cap = F.cap ∧
        Consumed D qi s F ((queuedIn s.devices qi F is).take score.toNat) s' F' := by
  intro is
  induction is with
  | nil =>
      intro _ _ score s F hok _ _ _ _
      refine ⟨s, F, ?_, hok, rfl, ?_⟩
      · simp [forDevices, queuedIn]
      · simpa [queuedIn] using Consumed.refl
  | cons i is ih =>
      intro hnodup his score s F hok hcount hdist hscore hfuel
      obtain ⟨hnot, hnodup'⟩ := List.nodup_cons.mp hnodup
      have his' : ∀ j ∈ is, j < xcanMaxDevices := fun j hj => his j (by simp [hj])
      cases hdev : s.devices i with
      | none =>
          obtain ⟨s', F', hrun, hok', hcap, hc⟩ :=
            ih hnodup' his' score s F hok hcount hdist hscore hfuel
          rw [queuedIn_none hdev]
          refine ⟨s', F', ?_, hok', hcap, hc⟩
          rw [forDevices_cons (by rw [hdev]; rfl)]
          exact hrun
      | some d =>
          have hd : D d := hok.registered i d (his i (by simp)) hdev
          obtain ⟨s₁, k, hrun₁, hk, hok₁, hc₁⟩ :=
            devloopInWhile_spec hd fuel score s F hok hfuel
          rw [hcount.countOf hd] at hk
          have hrest : queuedIn s₁.devices qi (F.drop (qi d) k) is =
              queuedIn s.devices qi F is := by
            rw [hc₁.devices]
            apply hok.queuedIn_congr hdist his hnot hdev
            intro d' hd' hne
            apply Fifos.drop_items_of_ne
            intro heq
            exact hne (hok.wiring.in_inj d' d hd' hd heq)
          obtain ⟨s', F', hrun, hok', hcap, hc⟩ := ih hnodup' his' (score - k) s₁ _ hok₁
            (hcount.of_consumed hc₁) (by rw [hc₁.devices]; exact hdist) (by omega)
            (by omega)
          rw [hrest] at hrun hc
          rw [queuedIn_some hdev]
          refine ⟨s', F', ?_, hok', hcap, ?_⟩
          · rw [forDevices_cons (by rw [hdev]; exact hrun₁), hrun, List.length_append,
              List.length_map]
            congr 2
            omega
          · have hboth := hc₁.trans hc
            have htake : ((F.items (qi d)).take k).map (d, ·) =
                ((F.items (qi d)).map (d, ·)).take score.toNat := by
              rw [← List.map_take, hk, ← List.take_eq_take_min]
            have hleft : (score - k).toNat =
                score.toNat - ((F.items (qi d)).map (d, ·)).length := by
              rw [List.length_map]
              omega
            rwa [htake, hleft, ← List.take_append] at hboth

/-- A whole pass over the pool; with score to spare it leaves no input. -/
theorem inputPass_exact {fuel : Nat} {score : Int} (hok : PoolOk D qi qo s F)
    (hcount : Counted D qi F) (hdist : DistinctDevices s.devices) (hscore : 0 ≤ score)
    (hfuel : score.toNat < fuel) :
    ∃ (s' : Stack W) (F' : Fifos Ptr Ptr),
      forDevices (devloopIn fuel) (List.range xcanMaxDevices) score s =
        some (score - (min score.toNat (queued qi s F).length : Nat), s') ∧
      PoolOk D qi qo s' F' ∧ F'.cap = F.cap ∧
      Consumed D qi s F ((queued qi s F).take score.toNat) s' F' ∧
      (((queued qi s F).length : Int) < score → queued qi s' F' = []) := by
  have hslots : ∀ i ∈ List.range xcanMaxDevices, i < xcanMaxDevices := fun i hi =>
    List.mem_range.mp hi
  obtain ⟨s', F', hrun, hok', hcap, hc⟩ := forDevices_in_exact _ List.nodup_range hslots
    score s F hok hcount hdist hscore hfuel
  refine ⟨s', F', hrun, hok', hcap, hc, ?_⟩
  intro hlt
  have hall : (queued qi s F).take score.toNat = queued qi s F :=
    List.take_of_length_le (by omega)
  change Consumed D qi s F ((queued qi s F).take score.toNat) s' F' at hc
  rw [hall] at hc
  exact hc.queuedIn_eq_nil hok hslots

/-- **The outer loop**: the first pass spends the score on the input, what is
left of it goes into passes that find nothing. -/
theorem xcanDevicesLoopWhile_in_exact (drv : Drivers W) {fuel : Nat} :
    ∀ (n : Nat) (score : Int) (s : Stack W) (F : Fifos Ptr Ptr),
      PoolOk D qi qo s F → Counted D qi F → DistinctDevices s.devices →
      score.toNat < n → score.toNat < fuel →
      ∃ (s' : Stack W) (F' : Fifos Ptr Ptr),
        xcanDevicesLoopWhile drv fuel xcanLoopDirIn n score s = some
          (if score ≤ 0 then score
            else if ((queued qi s F).length : Int) < score then 0 else -1, s') ∧
        PoolOk D qi qo s' F' ∧ F'.cap = F.cap ∧
        Consumed D qi s F ((queued qi s F).take score.toNat) s' F' := by
  intro n
  induction n with
  | zero => intro score s F _ _ _ h; omega
  | succ n ih =>
      intro score s F hok hcount hdist hn hfuel
      by_cases hpos : 0 < score
      swap
      · refine ⟨s, F, ?_, hok, rfl, ?_⟩
        · rw [xcanDevicesLoopWhile_nonpos hpos, if_pos (Int.not_lt.mp hpos)]
        · rw [Int.toNat_of_nonpos (Int.not_lt.mp hpos), List.take_zero]
          exact .refl
      obtain ⟨s₁, F₁, hrun₁, hok₁, hcap₁, hc₁, hempty⟩ :=
        inputPass_exact hok hcount hdist (Int.le_of_lt hpos) hfuel
      have hcount₁ := hcount.of_consumed hc₁
      have hdist₁ : DistinctDevices s₁.devices := by rw [hc₁.devices]; exact hdist
      generalize queued qi s F = T at hrun₁ hc₁ hempty ⊢
      obtain ⟨s', F', hrun, hok', hcap, hc⟩ :=
        ih (score - (min score.toNat T.length : Nat) - 1) s₁ F₁ hok₁ hcount₁ hdist₁
          (by omega) (by omega)
      rw [xcanDevicesLoopWhile_in hpos hrun₁]
      have hboth := hc₁.trans hc
      rw [if_neg (Int.not_le.mpr hpos)]
      by_cases hlt : (T.length : Int) < score
      -- the next passes find the queues empty
      · rw [hempty hlt, List.take_nil, List.append_nil] at hboth
        rw [hempty hlt, List.length_nil] at hrun
        refine ⟨s', F', ?_, hok', hcap.trans hcap₁, hboth⟩
        rw [hrun, if_pos hlt]
        congr 2
        split
        · omega
        · rw [if_pos (by omega)]
      -- no score is left, and the decrement makes it negative
      · have hspent : (score - (min score.toNat T.length : Nat) - 1).toNat = 0 := by omega
        rw [hspent, List.take_zero, List.append_nil] at hboth
        refine ⟨s', F', ?_, hok', hcap.trans hcap₁, hboth⟩
        rw [hrun, if_neg hlt, if_pos (by omega)]
        congr 2
        omega

/-- A queue structure is determined by its list and its capacity. -/
theorem Represents.queue_eq {m m' : Mem} {q : Ptr} {l : List Ptr}
    (h : Represents m q l) (h' : Represents m' q l)
    (hmax : (m'.queue q).maxFrames.toNat = (m.queue q).maxFrames.toNat) :
    m'.queue q = m.queue q := by
  have hframes := UInt32.toNat_inj.mp (h'.frames.trans h.frames.symm)
  have hhead := h'.head.trans h.head.symm
  have htail := h'.tail.trans h.tail.symm
  have hmax' := UInt32.toNat_inj.mp hmax
  cases hq : m.queue q
  cases hq' : m'.queue q
  simp_all

/-- **The input pass, exactly.** Without score nothing happens. With score the
pass hands over the first frames of the input of the pool, as many as the score
allows; what is left in the input queues follows on them; no output queue
changes. -/
theorem input_pass_exact {drv : Drivers W} {fuel : Nat} {score : Int}
    (hfuel : score.toNat < fuel) (hok : PoolOk D qi qo s F) (hcount : Counted D qi F)
    (hdist : DistinctDevices s.devices) :
    (score ≤ 0 → xcanDevicesLoop drv fuel score xcanLoopDirIn s = some (score, s)) ∧
      (0 < score → ∃ (s' : Stack W) (F' : Fifos Ptr Ptr),
        xcanDevicesLoop drv fuel score xcanLoopDirIn s =
          some (if ((queued qi s F).length : Int) < score then 0 else -1, s') ∧
        PoolOk D qi qo s' F' ∧
        s'.handed = s.handed ++ (queued qi s F).take score.toNat ∧
        ∀ d, D d →
          framesOf d ((queued qi s F).take score.toNat) ++ F'.items (qi d) = F.items (qi d) ∧
          F'.items (qo d) = F.items (qo d) ∧
          s'.mem.queue (qo d) = s.mem.queue (qo d)) := by
  constructor
  · intro hscore
    exact xcanDevicesLoop_nonpos drv (by omega) hscore s
  · intro hpos
    obtain ⟨s', F', hrun, hok', hcap, hc⟩ :=
      xcanDevicesLoopWhile_in_exact drv fuel score s F hok hcount hdist hfuel hfuel
    rw [if_neg (Int.not_le.mpr hpos)] at hrun
    refine ⟨s', F', hrun, hok', hc.handed, ?_⟩
    intro d hd
    have hout : F'.items (qo d) = F.items (qo d) :=
      hc.other _ fun d' hd' heq => hok.wiring.in_ne_out d' d hd' hd heq.symm
    have hrep' := hok'.refines.represents _ (.qOut hd)
    rw [hout] at hrep'
    refine ⟨hc.input d hd, hout, ?_⟩
    apply (hok.refines.represents _ (.qOut hd)).queue_eq hrep'
    rw [← hok'.refines.cap _ (.qOut hd), ← hok.refines.cap _ (.qOut hd), hcap]

end

/-- The pool with a frame in the input queue of the first device. -/
def oneReceived : Stack Unit :=
  { twoDevices with mem := (xcanEnqueue (some 10) 40 twoDevices.mem).2 }

def oneQueued : Fifos Ptr Ptr := (Fifos.empty fun _ => 0).push 10 40

theorem oneReceived_pool :
    PoolOk IsTwo (10 * ·) (10 * · + 1) oneReceived oneQueued := by
  have hfresh := twoDevices_fresh.inv
  obtain ⟨-, hrep, hlinks⟩ := hfresh.pool.refines.enqueue (q := 10) (f := 40)
    ⟨1, .inl rfl, .inl rfl⟩ (by simp [Fifos.Full, Fifos.empty, poolOfTwo])
    (fun i hi => nomatch hi)
  exact ⟨hfresh.pool.registered, hfresh.pool.wiring.congr hlinks.device, hrep⟩

theorem poolOfTwo_distinct (send : Callback) (world : W) :
    DistinctDevices (poolOfTwo send world).devices := by
  intro i j d _ _ hi hj
  change (if i < 2 then some (i + 1) else none) = some d at hi
  change (if j < 2 then some (j + 1) else none) = some d at hj
  split at hi
  · split at hj
    · exact Nat.succ.inj (Option.some.inj (hi.trans hj.symm))
    · cases hj
  · cases hi

/-- A pass with score 5 over one frame. -/
theorem input_pass_exact_one_received :
    ((5 : Int) ≤ 0 →
        xcanDevicesLoop acceptAll 6 5 xcanLoopDirIn oneReceived = some (5, oneReceived)) ∧
      ((0 : Int) < 5 → ∃ (s' : Stack Unit) (F' : Fifos Ptr Ptr),
        xcanDevicesLoop acceptAll 6 5 xcanLoopDirIn oneReceived = some
          (if ((queued (10 * ·) oneReceived oneQueued).length : Int) < 5 then 0 else -1,
            s') ∧
        PoolOk IsTwo (10 * ·) (10 * · + 1) s' F' ∧
        s'.handed = oneReceived.handed ++
          (queued (10 * ·) oneReceived oneQueued).take (5 : Int).toNat ∧
        ∀ d, IsTwo d →
          framesOf d ((queued (10 * ·) oneReceived oneQueued).take (5 : Int).toNat) ++
              F'.items (10 * d) = oneQueued.items (10 * d) ∧
          F'.items (10 * d + 1) = oneQueued.items (10 * d + 1) ∧
          s'.mem.queue (10 * d + 1) = oneReceived.mem.queue (10 * d + 1)) := by
  apply input_pass_exact (by decide) oneReceived_pool
  · intro d hd
    rcases hd with rfl | rfl <;> decide
  · exact poolOfTwo_distinct (.other 0) ()

end XcanRouter
