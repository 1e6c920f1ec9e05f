import XcanRouter.InputExact

/-!
# How long input waits

Every input pass starts at slot 0, and a tick hands over at most 20 frames. So
a frame waits for those ahead of it in its own queue and in the queues of lower
slots, and for what arrives in these queues meanwhile; each tick takes it 20
places forward. A device can starve those in higher slots, and no others.
-/

namespace XcanRouter

variable {W : Type}

/-- The input in the slots below `i`. -/
def ahead (qi : Ptr → Ptr) (s : Stack W) (F : Fifos Ptr Ptr) (i : Nat) : List (Ptr × Ptr) :=
  queuedIn s.devices qi F (List.range i)

/-- `f` is in the input queue of `d`, which is in slot `i`, and `p` frames come
before it. -/
def Waits (qi : Ptr → Ptr) (s : Stack W) (F : Fifos Ptr Ptr) (i : Nat) (d f : Ptr)
    (p : Nat) : Prop :=
  ∃ l r, F.items (qi d) = l ++ f :: r ∧ p = (ahead qi s F i).length + l.length

/-- The device `d` is in a slot below `i`. -/
def Below (devices : Nat → Option Ptr) (i : Nat) (d : Ptr) : Prop :=
  ∃ j, j < i ∧ devices j = some d

instance (devices : Nat → Option Ptr) (i : Nat) (d : Ptr) : Decidable (Below devices i d) :=
  inferInstanceAs (Decidable (∃ j, j < i ∧ devices j = some d))

/-- How many receptions were accepted in the slots below `i`. -/
def acceptedBelow (devices : Nat → Option Ptr) (i : Nat) (calls : List RecvCall) : Nat :=
  calls.countP fun c => c.rc = 0 ∧ Below devices i c.dev

def StackEvent.isTick : StackEvent → Bool
  | .tick => true
  | .recv .. => false

/-- No input queue holds 2^32 frames, more than its counter shows. -/
def InputsCounted (D : Ptr → Prop) (m : Mem) : Prop :=
  ∀ d l, D d → LinkedIn m d l → l.length < 2 ^ 32

/-- What a caller has to keep to: devices of the pool, and input queues that
count their frames when they are read. -/
def StackEvent.Timely (D : Ptr → Prop) (s : Stack W) (e : StackEvent) : Prop :=
  e.On D ∧ (e.isTick → InputsCounted D s.mem)

/-! ## The first frames of the input -/

section
variable {devices : Nat → Option Ptr} {q : Ptr → Ptr} {F F' : Fifos Ptr Ptr} {is js : List Nat}
  {i : Nat} {d : Ptr}

theorem queuedIn_append :
    queuedIn devices q F (is ++ js) = queuedIn devices q F is ++ queuedIn devices q F js := by
  simp [queuedIn]

theorem framesOf_eq_nil_iff {calls : List (Ptr × Ptr)} :
    framesOf d calls = [] ↔ ∀ c ∈ calls, c.1 ≠ d := by
  simp [framesOf, List.filter_eq_nil_iff]

theorem framesOf_take_of_eq_nil {calls : List (Ptr × Ptr)} (h : framesOf d calls = []) (k : Nat) :
    framesOf d (calls.take k) = [] := by
  rw [framesOf_eq_nil_iff] at h ⊢
  intro c hc
  exact h c (List.mem_of_mem_take hc)

/-- Slots that do not hold `d` have no frames of it. -/
theorem framesOf_queuedIn_other (h : ∀ j ∈ is, devices j ≠ some d) :
    framesOf d (queuedIn devices q F is) = [] := by
  induction is with
  | nil => rfl
  | cons j is ih =>
      have hrest := ih fun k hk => h k (by simp [hk])
      cases hj : devices j with
      | none => rw [queuedIn_none hj, hrest]
      | some d' =>
          have hne : d' ≠ d := by
            rintro rfl
            exact h j (by simp) hj
          rw [queuedIn_some hj, framesOf_append, framesOf_other hne, hrest, List.nil_append]

/-- What the first `k` frames of the input take from the device in slot `i`. -/
theorem framesOf_take_queued {s : Stack W} (hdist : DistinctDevices s.devices)
    (hi : i < xcanMaxDevices) (hd : s.devices i = some d) (k : Nat) :
    framesOf d ((queued q s F).take k) =
      (F.items (q d)).take (k - (ahead q s F i).length) := by
  obtain ⟨n, hn⟩ := Nat.exists_eq_add_of_lt hi
  have hslots : List.range xcanMaxDevices =
      List.range i ++ i :: ((List.range n).map (i + 1 + ·)) := by
    rw [hn, Nat.add_assoc, List.range_add, List.range_succ_eq_map]
    simp [Nat.add_assoc, Nat.add_comm 1, Function.comp_def]
  have hbefore : framesOf d (ahead q s F i) = [] := by
    apply framesOf_queuedIn_other
    intro j hj hjd
    have hlt := List.mem_range.mp hj
    exact absurd (hdist j i d (by omega) hi hjd hd) (by omega)
  have hafter : framesOf d (queuedIn s.devices q F ((List.range n).map (i + 1 + ·))) = [] := by
    apply framesOf_queuedIn_other
    intro j hj hjd
    obtain ⟨m, hm, rfl⟩ := List.mem_map.mp hj
    have hlt := List.mem_range.mp hm
    exact absurd (hdist _ i d (by omega) hi hjd hd) (by omega)
  rw [queued, hslots, queuedIn_append, queuedIn_some hd, List.take_append, List.take_append,
    framesOf_append, framesOf_append, ← List.map_take, framesOf_self]
  change framesOf d ((ahead q s F i).take k) ++ (_ ++ framesOf d (List.take _ _)) = _
  rw [framesOf_take_of_eq_nil hbefore, framesOf_take_of_eq_nil hafter, List.nil_append,
    List.append_nil]
  rfl

end

/-! ## What a call does to a waiting frame -/

section
variable {D : Ptr → Prop} {qi qo : Ptr → Ptr} {s s' : Stack W} {F F' : Fifos Ptr Ptr}
  {drv : Drivers W} {fuel i k p : Nat} {d dev f x : Ptr}

theorem ahead_none (h : s.devices i = none) : ahead qi s F (i + 1) = ahead qi s F i := by
  rw [ahead, List.range_succ, queuedIn_append, queuedIn_none h]
  exact List.append_nil _

theorem ahead_some (h : s.devices i = some d) :
    ahead qi s F (i + 1) = ahead qi s F i ++ (F.items (qi d)).map (d, ·) := by
  rw [ahead, List.range_succ, queuedIn_append, queuedIn_some h]
  exact congrArg _ (List.append_nil _)

/-- The first `k` frames of the input are gone. -/
theorem Consumed.items_eq_drop (hok : PoolOk D qi qo s F) (hdist : DistinctDevices s.devices)
    (hc : Consumed D qi s F ((queued qi s F).take k) s' F') (hi : i < xcanMaxDevices)
    (hd : s.devices i = some d) :
    F'.items (qi d) = (F.items (qi d)).drop (k - (ahead qi s F i).length) := by
  have hinput := hc.input d (hok.registered i d hi hd)
  rw [framesOf_take_queued hdist hi hd] at hinput
  exact List.append_cancel_left (hinput.trans (List.take_append_drop _ _).symm)

theorem Consumed.length_ahead (hok : PoolOk D qi qo s F) (hdist : DistinctDevices s.devices)
    (hc : Consumed D qi s F ((queued qi s F).take k) s' F') (hi : i ≤ xcanMaxDevices) :
    (ahead qi s' F' i).length = (ahead qi s F i).length - k := by
  induction i with
  | zero => simp [ahead, queuedIn]
  | succ i ih =>
      have hprev := ih (by omega)
      cases hdev : s.devices i with
      | none =>
          have hdev' : s'.devices i = none := by rw [hc.devices, hdev]
          rw [ahead_none hdev, ahead_none hdev', hprev]
      | some d =>
          have hdev' : s'.devices i = some d := by rw [hc.devices, hdev]
          rw [ahead_some hdev, ahead_some hdev', hc.items_eq_drop hok hdist (by omega) hdev]
          simp only [List.length_append, List.length_map, List.length_drop, hprev]
          omega

/-- **Hand-over takes a frame `k` places forward**, or out of its queue. -/
theorem Waits.consumed (hok : PoolOk D qi qo s F) (hdist : DistinctDevices s.devices)
    (hc : Consumed D qi s F ((queued qi s F).take k) s' F') (hi : i < xcanMaxDevices)
    (hd : s.devices i = some d) (h : Waits qi s F i d f p) :
    (d, f) ∈ (queued qi s F).take k ∨ ∃ p', Waits qi s' F' i d f p' ∧ p' + k = p := by
  obtain ⟨l, r, hitems, rfl⟩ := h
  by_cases hlt : (ahead qi s F i).length + l.length < k
  · left
    have hmem : f ∈ framesOf d ((queued qi s F).take k) := by
      rw [framesOf_take_queued hdist hi hd, hitems, List.take_append, List.mem_append]
      right
      obtain ⟨n, hn⟩ := Nat.exists_eq_add_of_lt
        (show l.length < k - (ahead qi s F i).length by omega)
      rw [hn, show l.length + n + 1 - l.length = n + 1 by omega, List.take_succ_cons]
      exact List.mem_cons_self
    obtain ⟨⟨d', f'⟩, hcall, rfl⟩ := List.mem_map.mp hmem
    obtain ⟨hcall, hd'⟩ := List.mem_filter.mp hcall
    rw [← of_decide_eq_true hd']
    exact hcall
  · right
    refine ⟨_, ⟨l.drop (k - (ahead qi s F i).length), r, ?_, rfl⟩, ?_⟩
    · rw [hc.items_eq_drop hok hdist hi hd, hitems,
        List.drop_append_of_le_length (by omega)]
    · rw [hc.length_ahead hok hdist (Nat.le_of_lt hi), List.length_drop]
      omega

theorem below_succ {devices : Nat → Option Ptr} :
    Below devices (i + 1) d ↔ Below devices i d ∨ devices i = some d := by
  constructor
  · rintro ⟨j, hj, hjd⟩
    rcases Nat.lt_succ_iff_lt_or_eq.mp hj with hlt | rfl
    · exact .inl ⟨j, hlt, hjd⟩
    · exact .inr hjd
  · rintro (⟨j, hj, hjd⟩ | hid)
    · exact ⟨j, by omega, hjd⟩
    · exact ⟨i, by omega, hid⟩

/-- A frame that arrives is ahead of the higher slots. -/
theorem length_ahead_push (hok : PoolOk D qi qo s F) (hdist : DistinctDevices s.devices)
    (hdev : D dev) (hi : i ≤ xcanMaxDevices) :
    (ahead qi s (F.push (qi dev) x) i).length =
      (ahead qi s F i).length + if Below s.devices i dev then 1 else 0 := by
  induction i with
  | zero => simp [ahead, queuedIn, Below]
  | succ i ih =>
      have hprev := ih (by omega)
      cases hd : s.devices i with
      | none =>
          have hiff : Below s.devices (i + 1) dev ↔ Below s.devices i dev := by
            simp [below_succ, hd]
          rw [ahead_none hd, ahead_none hd, hprev]
          simp only [hiff]
      | some d =>
          rw [ahead_some hd, ahead_some hd, List.length_append, List.length_append, hprev,
            List.length_map, List.length_map]
          by_cases heq : d = dev
          · subst heq
            -- the device is in one slot only
            have hnot : ¬ Below s.devices i d := by
              rintro ⟨j, hj, hjd⟩
              exact absurd (hdist j i d (by omega) (by omega) hjd hd) (by omega)
            have hbelow : Below s.devices (i + 1) d := below_succ.mpr (.inr hd)
            rw [if_neg hnot, if_pos hbelow, Fifos.push_items_self, List.length_append]
            rfl
          · have hne : qi d ≠ qi dev := fun he =>
              heq (hok.wiring.in_inj d dev (hok.registered i d (by omega) hd) hdev he)
            have hiff : Below s.devices (i + 1) dev ↔ Below s.devices i dev := by
              simp [below_succ, hd, heq]
            rw [Fifos.push_items_of_ne hne]
            simp only [hiff]
            omega

/-- An accepted reception puts a frame back by one place, or by none. -/
theorem Waits.push (hok : PoolOk D qi qo s F) (hdist : DistinctDevices s.devices)
    (hdev : D dev) (hi : i < xcanMaxDevices) (hd : s.devices i = some d)
    (h : Waits qi s F i d f p) :
    Waits qi s (F.push (qi dev) x) i d f (p + if Below s.devices i dev then 1 else 0) := by
  obtain ⟨l, r, hitems, rfl⟩ := h
  have hlen := length_ahead_push (x := x) hok hdist hdev (Nat.le_of_lt hi)
  by_cases heq : d = dev
  · subst heq
    refine ⟨l, r ++ [x], ?_, by omega⟩
    rw [Fifos.push_items_self, hitems, List.append_assoc, List.cons_append]
  · have hne : qi d ≠ qi dev := fun he =>
      heq (hok.wiring.in_inj d dev (hok.registered i d hi hd) hdev he)
    exact ⟨l, r, by rw [Fifos.push_items_of_ne hne, hitems], by omega⟩

/-- **The tick, exactly**: it hands over the first 20 frames of the input. -/
theorem xcanStackTick_exact (drv : Drivers W) (hfuel : 20 < fuel) (hok : PoolOk D qi qo s F)
    (hcount : Counted D qi F) (hdist : DistinctDevices s.devices) :
    ∃ s' F', xcanStackTick drv fuel s = some ((), s') ∧ PoolOk D qi qo s' F' ∧
      Consumed D qi s F ((queued qi s F).take 20) s' F' := by
  obtain ⟨s', F', hrun, hok', -, hc⟩ :=
    xcanDevicesLoopWhile_in_exact drv fuel 20 s F hok hcount hdist hfuel hfuel
  generalize hscore : (if (20 : Int) ≤ 0 then (20 : Int) else
    if ((queued qi s F).length : Int) < 20 then 0 else -1) = score at hrun
  have hle : score ≤ 0 := by
    rw [← hscore, if_neg (by decide)]
    split <;> decide
  have hin : xcanDevicesLoop drv fuel 20 xcanLoopDirIn s = some (score, s') := hrun
  have hout : xcanDevicesLoop drv fuel score xcanLoopDirOut s' = some (score, s') :=
    xcanDevicesLoop_nonpos drv (by omega) hle s'
  exact ⟨s', F', by simp [xcanStackTick, hin, hout], hok', hc⟩

end

/-! ## Runs -/

@[simp] theorem acceptedBelow_append (devices : Nat → Option Ptr) (i : Nat)
    (xs ys : List RecvCall) :
    acceptedBelow devices i (xs ++ ys) = acceptedBelow devices i xs + acceptedBelow devices i ys :=
  List.countP_append

/-- From `s` to `s'` there were `n` ticks: `f` came as much forward as they and
the receptions of lower slots give, or it was handed over. -/
structure Advance (qi : Ptr → Ptr) (i : Nat) (d f : Ptr) (n : Nat) (s : Stack W)
    (F : Fifos Ptr Ptr) (s' : Stack W) (F' : Fifos Ptr Ptr) : Prop where
  devices : s'.devices = s.devices
  waits : ∃ calls handed, s'.recvs = s.recvs ++ calls ∧ s'.handed = s.handed ++ handed ∧
    ∀ p, Waits qi s F i d f p → (d, f) ∈ handed ∨
      ∃ p', Waits qi s' F' i d f p' ∧ p' + 20 * n = p + acceptedBelow s.devices i calls

section
variable {D : Ptr → Prop} {qi qo : Ptr → Ptr} {s s' s'' : Stack W} {F F' F'' : Fifos Ptr Ptr}
  {drv : Drivers W} {fuel i n n' : Nat} {d f : Ptr} {e : StackEvent} {es : List StackEvent}

theorem Advance.refl : Advance qi i d f 0 s F s F :=
  ⟨rfl, [], [], by simp, by simp, fun p h => .inr ⟨p, h, rfl⟩⟩

theorem Advance.trans (h : Advance qi i d f n s F s' F')
    (h' : Advance qi i d f n' s' F' s'' F'') : Advance qi i d f (n + n') s F s'' F'' := by
  obtain ⟨calls, handed, hrecvs, hhanded, hwaits⟩ := h.waits
  obtain ⟨calls', handed', hrecvs', hhanded', hwaits'⟩ := h'.waits
  refine ⟨h'.devices.trans h.devices, calls ++ calls', handed ++ handed', ?_, ?_, ?_⟩
  · rw [hrecvs', hrecvs, List.append_assoc]
  · rw [hhanded', hhanded, List.append_assoc]
  · intro p hp
    rcases hwaits p hp with hgone | ⟨p₁, hp₁, hsum⟩
    · exact .inl (List.mem_append_left _ hgone)
    · rcases hwaits' p₁ hp₁ with hgone | ⟨p₂, hp₂, hsum'⟩
      · exact .inl (List.mem_append_right _ hgone)
      · refine .inr ⟨p₂, hp₂, ?_⟩
        rw [h.devices] at hsum'
        rw [acceptedBelow_append]
        omega

/-- What is linked in an input queue is what its FIFO holds. -/
theorem PoolOk.inputsCounted_iff (hok : PoolOk D qi qo s F) :
    InputsCounted D s.mem ↔ Counted D qi F := by
  constructor
  · intro h d hd
    exact h d _ hd (hok.linkedIn hd)
  · rintro h d l hd ⟨q, hq, hl⟩
    obtain ⟨q', hq', hl'⟩ := hok.linkedIn hd
    obtain rfl : q' = q := Option.some_inj.mp (hq'.symm.trans hq)
    rw [hl.unique hl']
    exact h d hd

/-- **The step lemma** for a frame of the device in slot `i`. -/
theorem Advance.step (drv : Drivers W) (hfuel : 20 < fuel) (hok : PoolOk D qi qo s F)
    (hnew : Allocated s.mem F) (hdist : DistinctDevices s.devices)
    (hi : i < xcanMaxDevices) (hd : s.devices i = some d) (he : e.Timely D s) :
    ∃ s' F', stackStep drv fuel s e = some s' ∧ PoolOk D qi qo s' F' ∧ Allocated s'.mem F' ∧
      Advance qi i d f (if e.isTick then 1 else 0) s F s' F' := by
  cases e with
  | tick =>
      have hcount := hok.inputsCounted_iff.mp (he.2 rfl)
      obtain ⟨s', F', hrun, hok', hc⟩ := xcanStackTick_exact drv hfuel hok hcount hdist
      refine ⟨s', F', by rw [stackStep, hrun]; rfl, hok', hnew.of_consumed hc,
        hc.devices, [], _, by rw [hc.recvs, List.append_nil], hc.handed, ?_⟩
      intro p hp
      exact hp.consumed hok hdist hc hi hd
  | recv dev canId flags data len =>
      obtain ⟨s', F', hstep, heff, hok', hnew'⟩ := stackStep_spec drv hfuel hok hnew he.1
      refine ⟨s', F', hstep, hok', hnew', heff.devices, ?_⟩
      cases heff with
      | recv hdev heff =>
          refine ⟨_, [], rfl, by simp, fun p hp => .inr ?_⟩
          cases heff with
          | noFrame | rejected => exact ⟨p, hp, by simp [acceptedBelow, StackEvent.isTick]⟩
          | accepted =>
              have hpush := hp.push (x := s.mem.heap.brk) hok hdist hdev hi hd
              refine ⟨_, hpush, ?_⟩
              simp [acceptedBelow, StackEvent.isTick, List.countP_cons]

theorem Advance.run (drv : Drivers W) (hfuel : 20 < fuel) (hok : PoolOk D qi qo s F)
    (hnew : Allocated s.mem F) (hdist : DistinctDevices s.devices)
    (hi : i < xcanMaxDevices) (hd : s.devices i = some d)
    (hes : Runs.Meets (stackStep drv fuel) (fun s e => e.Timely D s) s es) :
    ∃ s' F', Runs.run (stackStep drv fuel) s es = some s' ∧ PoolOk D qi qo s' F' ∧
      Advance qi i d f (es.countP StackEvent.isTick) s F s' F' := by
  induction es generalizing s F with
  | nil => exact ⟨s, F, rfl, hok, .refl⟩
  | cons e es ih =>
      obtain ⟨s₁, F₁, hstep, hok₁, hnew₁, hadv₁⟩ :=
        Advance.step (f := f) drv hfuel hok hnew hdist hi hd hes.1
      obtain ⟨s', F', hrun, hok', hadv⟩ := ih hok₁ hnew₁
        (by rw [hadv₁.devices]; exact hdist) (by rw [hadv₁.devices]; exact hd)
        (hes.2 s₁ hstep)
      refine ⟨s', F', ?_, hok', ?_⟩
      · rw [Runs.run_cons, hstep]
        exact hrun
      · rw [List.countP_cons, Nat.add_comm]
        exact hadv₁.trans hadv

end

/-- **Input waits for lower slots only.** Along every run of receptions and
ticks, a frame that waited behind `p` others is handed over as soon as 20 times
the ticks exceed `p` and the receptions accepted in lower slots; until then it
waits behind exactly the difference, whatever higher slots received. -/
theorem input_waits_for_lower_slots {D : Ptr → Prop} {qi qo : Ptr → Ptr} {s : Stack W}
    {F : Fifos Ptr Ptr} {drv : Drivers W} {fuel i p : Nat} {d f : Ptr} {es : List StackEvent}
    (hfuel : 20 < fuel) (hok : PoolOk D qi qo s F) (hnew : Allocated s.mem F)
    (hdist : DistinctDevices s.devices)
    (hes : Runs.Meets (stackStep drv fuel) (fun s e => e.Timely D s) s es)
    (hi : i < xcanMaxDevices) (hd : s.devices i = some d) (hwaits : Waits qi s F i d f p) :
    ∃ s' F' calls handed, Runs.run (stackStep drv fuel) s es = some s' ∧
      PoolOk D qi qo s' F' ∧ s'.recvs = s.recvs ++ calls ∧ s'.handed = s.handed ++ handed ∧
      (p + acceptedBelow s.devices i calls < 20 * es.countP StackEvent.isTick →
        (d, f) ∈ handed) ∧
      ((d, f) ∈ handed ∨ ∃ p', Waits qi s' F' i d f p' ∧
        p' + 20 * es.countP StackEvent.isTick = p + acceptedBelow s.devices i calls) := by
  obtain ⟨s', F', hrun, hok', hadv⟩ :=
    Advance.run (f := f) drv hfuel hok hnew hdist hi hd hes
  obtain ⟨calls, handed, hrecvs, hhanded, hwaits'⟩ := hadv.waits
  refine ⟨s', F', calls, handed, hrun, hok', hrecvs, hhanded, ?_, hwaits' p hwaits⟩
  intro hlt
  rcases hwaits' p hwaits with hgone | ⟨p', -, hsum⟩
  · exact hgone
  · omega

/-- A reception adds one frame at most. -/
theorem RecvEffect.length_items {dev : Ptr} {qi : Ptr → Ptr} {m m' : Mem} {F F' : Fifos Ptr Ptr}
    {fr : Option Ptr} {rc : Int} (h : RecvEffect dev qi m m' F fr rc F') (q : Ptr) :
    (F'.items q).length ≤ (F.items q).length + 1 := by
  cases h with
  | noFrame | rejected => exact Nat.le_succ _
  | accepted =>
      by_cases hq : q = qi dev
      · rw [hq, Fifos.push_items_self, List.length_append]
        exact Nat.le_refl _
      · rw [Fifos.push_items_of_ne hq]
        exact Nat.le_succ _

/-- A frame of the first device, a reception on the second one, and a tick. -/
theorem input_waits_for_lower_slots_one_received :
    ∃ s' F' calls handed,
      Runs.run (stackStep acceptAll 21) oneReceived [.recv 2 5 0 (fun _ => 7) 8, .tick] =
        some s' ∧
      PoolOk IsTwo (10 * ·) (10 * · + 1) s' F' ∧ s'.recvs = oneReceived.recvs ++ calls ∧
      s'.handed = oneReceived.handed ++ handed ∧
      (0 + acceptedBelow oneReceived.devices 0 calls <
          20 * List.countP StackEvent.isTick [.recv 2 5 0 (fun _ => 7) 8, .tick] →
        (1, 40) ∈ handed) ∧
      ((1, 40) ∈ handed ∨ ∃ p', Waits (10 * ·) s' F' 0 1 40 p' ∧
        p' + 20 * List.countP StackEvent.isTick [.recv 2 5 0 (fun _ => 7) 8, .tick] =
          0 + acceptedBelow oneReceived.devices 0 calls) := by
  have hnew : Allocated oneReceived.mem oneQueued := by
    intro q f hf
    rcases Fifos.mem_push.mp hf with hf | ⟨-, rfl⟩
    · nomatch hf
    · decide
  apply input_waits_for_lower_slots (D := IsTwo) (F := oneQueued) (by decide) oneReceived_pool
    hnew
  · exact poolOfTwo_distinct (.other 0) ()
  · have hon : (StackEvent.recv 2 5 0 (fun _ => 7) 8).On IsTwo := Or.inr rfl
    constructor
    · exact ⟨hon, fun h => nomatch h⟩
    · intro s₁ h₁
      obtain ⟨F₁, heff, hok₁, -⟩ :=
        stackStep_effect (by decide) oneReceived_pool hnew hon h₁
      refine ⟨⟨trivial, fun _ => hok₁.inputsCounted_iff.mpr ?_⟩, fun _ _ => trivial⟩
      have hlen : ∀ q, (F₁.items q).length ≤ (oneQueued.items q).length + 1 := by
        intro q
        cases heff with
        | recv _ heff => exact heff.length_items q
      rintro d (rfl | rfl)
      · exact Nat.lt_of_le_of_lt (hlen 10) (by decide)
      · exact Nat.lt_of_le_of_lt (hlen 20) (by decide)
  · decide
  · rfl
  · exact ⟨[], [], rfl, rfl⟩

end XcanRouter
