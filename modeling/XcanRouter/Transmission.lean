import XcanRouter.SocketCan
import XcanRouter.StackRuns
import XcanRouter.OutputPass

/-!
# Output of SocketCAN devices

`devloop_out` takes a frame off the output queue when `send` returns 0.
`prv_send` returns what `write` returns: the number of bytes written, or `-1`.
So in a pool of SocketCAN devices no frame leaves its queue; the first frame of
each queue is written to the socket once in every pass over the pool. Its
payload is copied into a local structure that has room for 64 bytes.
-/

namespace XcanRouter

open LinkedChain

/-- The devices are SocketCAN devices. -/
structure SocketPool (D : Ptr → Prop) (qi qo : Ptr → Ptr) (s : Stack Bus)
    (F : Fifos Ptr Ptr) : Prop extends PoolOk D qi qo s F where
  send : ∀ d, D d → (s.mem.device d).send = some .prvSend

/-- The socket of `d` is of no other device. -/
def OwnSocket (D : Ptr → Prop) (d : Ptr) (m : Mem) : Prop :=
  ∀ d', D d' → (m.device d').fd = (m.device d).fd → d' = d

/-- The frames of `d` that were transmitted by the calls of `send`. -/
def transmitted (d : Ptr) (calls : List SendCall) : List Ptr :=
  (calls.filter fun c => c.dev = d ∧ c.rc ≠ -1).map SendCall.frame

@[simp] theorem transmitted_append (d : Ptr) (xs ys : List SendCall) :
    transmitted d (xs ++ ys) = transmitted d xs ++ transmitted d ys := by
  simp [transmitted]

@[simp] theorem transmitted_nil (d : Ptr) : transmitted d [] = [] := rfl

/-- The first frame of the output queue of `d`, if the queue shows one, has at
most the 64 bytes that `prv_send` has room for. -/
def HeadFits (qo : Ptr → Ptr) (d : Ptr) (m : Mem) : Prop :=
  (m.queue (qo d)).frames ≠ 0 →
    ∀ f, (m.queue (qo d)).head = some f → (m.frame f).len.toUInt8 ≤ 64

/-- The same of the devices in the slots `is`. -/
def HeadsFit (qo : Ptr → Ptr) (is : List Nat) (s : Stack Bus) : Prop :=
  ∀ i ∈ is, ∀ d, s.devices i = some d → HeadFits qo d s.mem

/-- From `s` to `s'` no queue changed, and nothing was copied past the end of a
local structure exactly under `c`. -/
structure Tried (c : Prop) (s s' : Stack Bus) : Prop where
  mem : ReadsOnly s.mem s'.mem
  devices : s'.devices = s.devices
  transmits : s'.world.transmits = s.world.transmits
  copies : ∃ copies, s'.world.locals = s.world.locals ++ copies ∧
    ((∀ copy ∈ copies, copy.InBounds) ↔ c)

/-- And the head of the output queue of `d` was written to its socket `n`
times. -/
structure Retried (d : Ptr) (n : Nat) (s s' : Stack Bus) : Prop where
  writes : s'.world.writes (s.mem.device d).fd = s.world.writes (s.mem.device d).fd + n
  sends : ∃ calls, s'.sends = s.sends ++ calls ∧
    (transmitted d calls = [] ↔ ∀ k < n, s.world.transmits (s.mem.device d).fd
      (s.world.writes (s.mem.device d).fd + k) = false)

section
variable {D : Ptr → Prop} {qi qo : Ptr → Ptr} {s s' s'' : Stack Bus}
  {F : Fifos Ptr Ptr} {rest : Drivers Bus} {d d' : Ptr} {n n' : Nat} {c c' : Prop}

theorem Tried.refl : Tried True s s := ⟨ReadsOnly.refl _, rfl, rfl, [], by simp, by simp⟩

theorem Tried.trans (h : Tried c s s') (h' : Tried c' s' s'') : Tried (c ∧ c') s s'' := by
  obtain ⟨copies, hcopies, hfit⟩ := h.copies
  obtain ⟨copies', hcopies', hfit'⟩ := h'.copies
  refine ⟨h.mem.trans h'.mem, h'.devices.trans h.devices, h'.transmits.trans h.transmits,
    copies ++ copies', by rw [hcopies', hcopies, List.append_assoc], ?_⟩
  rw [List.forall_mem_append, hfit, hfit']

theorem Tried.congr (h : Tried c s s') (hc : c ↔ c') : Tried c' s s' := by
  obtain ⟨copies, hcopies, hfit⟩ := h.copies
  exact ⟨h.mem, h.devices, h.transmits, copies, hcopies, hfit.trans hc⟩

theorem Tried.inBounds_iff (h : Tried c s s') : CopiesInBounds s.world s'.world ↔ c := by
  obtain ⟨copies, hcopies, hfit⟩ := h.copies
  exact (copiesInBounds_iff hcopies).trans hfit

theorem Retried.refl : Retried d 0 s s := ⟨rfl, [], by simp, by simp⟩

theorem Retried.trans (h : Retried d n s s') (ht : Tried c s s') (h' : Retried d n' s' s'') :
    Retried d (n + n') s s'' := by
  obtain ⟨calls, hcalls, hquiet⟩ := h.sends
  obtain ⟨calls', hcalls', hquiet'⟩ := h'.sends
  have hfd : (s'.mem.device d).fd = (s.mem.device d).fd := by rw [ht.mem.device]
  refine ⟨?_, calls ++ calls', ?_, ?_⟩
  · rw [← hfd, h'.writes, hfd, h.writes, Nat.add_assoc]
  · rw [hcalls', hcalls, List.append_assoc]
  · rw [transmitted_append, List.append_eq_nil_iff, hquiet, hquiet', hfd, ht.transmits,
      h.writes]
    -- write `k` is one of the first `n`, or one of the `n'` after them
    constructor
    · rintro ⟨hfirst, hlast⟩ k hk
      by_cases hkn : k < n
      · exact hfirst k hkn
      · obtain ⟨j, rfl⟩ := Nat.exists_eq_add_of_le (Nat.le_of_not_lt hkn)
        rw [← Nat.add_assoc]
        exact hlast j (by omega)
    · intro hall
      refine ⟨fun k hk => hall k (by omega), ?_⟩
      intro k hk
      rw [Nat.add_assoc]
      exact hall (n + k) (by omega)

theorem SocketPool.of_tried (h : SocketPool D qi qo s F) (ht : Tried c s s') :
    SocketPool D qi qo s' F where
  registered i d' hi hd' := h.registered i d' hi (by rw [← ht.devices]; exact hd')
  wiring := h.wiring.congr ht.mem.device
  refines := h.refines.of_eq ht.mem.queue ht.mem.frame
  send d' hd' := by rw [ht.mem.device]; exact h.send d' hd'

theorem OwnSocket.of_tried (h : OwnSocket D d s.mem) (ht : Tried c s s') :
    OwnSocket D d s'.mem := by
  rw [OwnSocket, ht.mem.device]
  exact h

/-- How often one turn of `devloop_out` on `d` writes to its socket. -/
def headCount (qo : Ptr → Ptr) (d : Ptr) (s : Stack Bus) : Nat :=
  if (s.mem.queue (qo d)).frames = 0 then 0 else 1

theorem Tried.headCount (h : Tried c s s') : headCount qo d s' = headCount qo d s := by
  rw [XcanRouter.headCount, XcanRouter.headCount, h.mem.queue]

theorem Tried.headsFit (h : Tried c s s') (is : List Nat) :
    HeadsFit qo is s' ↔ HeadsFit qo is s := by
  simp only [HeadsFit, HeadFits, h.devices, h.mem.queue, h.mem.frame]

section
variable (self : Ptr) (id : UInt32) (flags : UInt8) (data : BytePtr) (len : UInt8)
  (m : Mem) (w : Bus)

theorem prvSend_transmits : (prvSend self id flags data len m w).2.transmits =
    w.transmits := by
  rw [prvSend_eq, Bus.write]
  split <;> rfl

theorem prvSend_locals : (prvSend self id flags data len m w).2.locals =
    w.locals ++ [payloadCopy len] := by
  rw [prvSend_eq, Bus.write]
  split <;> rfl

theorem prvSend_writes : (prvSend self id flags data len m w).2.writes =
    Function.update w.writes (m.device self).fd (w.writes (m.device self).fd + 1) := by
  rw [prvSend_eq, Bus.write]
  split <;> rfl

theorem prvSend_eq_neg_one_iff : (prvSend self id flags data len m w).1 = -1 ↔
    w.transmits (m.device self).fd (w.writes (m.device self).fd) = false := by
  rw [prvSend_eq, Bus.write]
  split
  · rename_i h
    have h : w.transmits (m.device self).fd (w.writes (m.device self).fd) = true := h
    simp [h]
  · rename_i h
    have h : w.transmits (m.device self).fd (w.writes (m.device self).fd) = false := by
      simpa [Bus.copyLocal] using h
    simp [h]

end

/-- What `prv_send` returns is never 0. -/
theorem prvSend_ne_zero (self : Ptr) (id : UInt32) (flags : UInt8) (data : BytePtr)
    (len : UInt8) (m : Mem) (w : Bus) : (prvSend self id flags data len m w).1 ≠ 0 := by
  rw [prvSend_eq, Bus.write]
  split
  · simp only [sentBytes, bytesOf, List.length_map, List.length_range]
    split <;> decide
  · simp

/-- **`devloop_out` on a SocketCAN device** tries to send the first frame, and
leaves it in the queue. -/
theorem devloopOutWhile_socket (rest : Drivers Bus) (h : SocketPool D qi qo s F) (hd' : D d')
    (fuel : Nat) {score : Int} (hscore : 0 < score) :
    ∃ s', devloopOutWhile (socketcanDrivers rest) d' (fuel + 1) score s =
        some (score, s') ∧ Tried (HeadFits qo d' s.mem) s s' ∧
      ∀ d, OwnSocket D d s.mem → Retried d (if d' = d then headCount qo d s else 0) s s' := by
  have hqout := h.wiring.qOut d' hd'
  by_cases hzero : (s.mem.queue (qo d')).frames = 0
  · obtain ⟨m, hm, hrun⟩ := devloopOutWhile_zero (socketcanDrivers rest) fuel hscore
      hqout hzero
    refine ⟨_, hrun, ⟨hm, rfl, rfl, [], by simp, by simp [HeadFits, hzero]⟩, ?_⟩
    intro d _
    have hnone : (if d' = d then headCount qo d s else 0) = 0 := by
      split
      · rename_i hdd
        exact if_pos (hdd ▸ hzero)
      · rfl
    rw [hnone]
    exact ⟨rfl, [], by simp, by simp⟩
  · obtain ⟨f, l, hl⟩ := (h.refines.represents _ (.qOut hd')).cons_of_frames hzero
    have hhead : (s.mem.queue (qo d')).head = some f := by
      rw [(h.refines.represents _ (.qOut hd')).head, hl, List.head?_cons]
    obtain ⟨m, hm, hrun⟩ := devloopOutWhile_next (socketcanDrivers rest) fuel hscore
      hqout hzero hhead
    have hsend : (m.device d').send = some .prvSend := by rw [hm.device, h.send d' hd']
    obtain ⟨m', hm', hcall⟩ :=
      callSend_spec (s := { s with mem := m }) (socketcanDrivers rest) hsend f
    rw [socketcanDrivers_send] at hcall
    refine ⟨_, (hrun _ _ hcall).1 (prvSend_ne_zero _ _ _ _ _ _ _),
      ⟨hm.trans hm', rfl, prvSend_transmits .., _, prvSend_locals .., ?_⟩, ?_⟩
    · simp [HeadFits, hzero, hhead, payloadCopy_inBounds, hm.frame, hm'.frame]
    intro d hown
    have hfd : ∀ d, (m'.device d).fd = (s.mem.device d).fd := fun d => by
      rw [hm'.device, hm.device]
    -- a write to the socket of another device is not counted for `d`
    by_cases hdd : d' = d
    · subst hdd
      rw [if_pos rfl, headCount, if_neg hzero]
      refine ⟨?_, _, rfl, ?_⟩
      · simp only [prvSend_writes, hfd, Function.update_self]
      · simp [transmitted, prvSend_eq_neg_one_iff, hfd]
    · have hne : (s.mem.device d).fd ≠ (s.mem.device d').fd := fun he =>
        hdd (hown d' hd' he.symm)
      rw [if_neg hdd]
      refine ⟨?_, _, rfl, ?_⟩
      · simp only [prvSend_writes, hfd, Function.update_of_ne hne, Nat.add_zero]
      · simp [transmitted, hdd]

/-- How many of the slots `is` hold `d`. -/
def slotsOf (d : Ptr) (s : Stack Bus) (is : List Nat) : Nat :=
  is.countP fun i => s.devices i = some d

theorem Tried.slotsOf (h : Tried c s s') (is : List Nat) :
    slotsOf d s' is = slotsOf d s is := by
  rw [XcanRouter.slotsOf, XcanRouter.slotsOf, h.devices]

/-- **One pass over slots of the pool** leaves the score as it is. -/
theorem forDevices_out_spec (rest : Drivers Bus) (fuel : Nat) {score : Int}
    (hscore : 0 < score) :
    ∀ (is : List Nat), (∀ i ∈ is, i < xcanMaxDevices) → ∀ s, SocketPool D qi qo s F →
      ∃ s', forDevices (devloopOut (socketcanDrivers rest) (fuel + 1)) is score s =
          some (score, s') ∧ Tried (HeadsFit qo is s) s s' ∧
        ∀ d, OwnSocket D d s.mem → Retried d (slotsOf d s is * headCount qo d s) s s' := by
  intro is
  induction is with
  | nil =>
      intro _ s _
      refine ⟨s, rfl, Tried.refl.congr (by simp [HeadsFit]), ?_⟩
      intro d _
      simpa [slotsOf] using Retried.refl
  | cons i is ih =>
      intro his s h
      have his' : ∀ j ∈ is, j < xcanMaxDevices := fun j hj => his j (by simp [hj])
      cases hdev : s.devices i with
      | none =>
          obtain ⟨s', hrun, ht, hr⟩ := ih his' s h
          refine ⟨s', ?_, ht.congr (by simp [HeadsFit, hdev]), ?_⟩
          · rw [forDevices_cons (by rw [hdev]; rfl)]
            exact hrun
          · intro d hown
            simpa [slotsOf, hdev] using hr d hown
      | some d' =>
          obtain ⟨s₁, hrun₁, ht₁, hr₁⟩ := devloopOutWhile_socket rest h
            (h.registered i d' (his i (by simp)) hdev) fuel hscore
          obtain ⟨s', hrun, ht, hr⟩ := ih his' s₁ (h.of_tried ht₁)
          refine ⟨s', ?_, (ht₁.trans ht).congr ?_, ?_⟩
          · rw [forDevices_cons (by rw [hdev]; exact hrun₁)]
            exact hrun
          · rw [ht₁.headsFit]
            simp [HeadsFit, hdev]
          · intro d hown
            have hall := (hr₁ d hown).trans ht₁ (hr d (hown.of_tried ht₁))
            rw [ht₁.slotsOf, ht₁.headCount] at hall
            have hcount : slotsOf d s (i :: is) * headCount qo d s =
                (if d' = d then headCount qo d s else 0) +
                  slotsOf d s is * headCount qo d s := by
              by_cases hdd : d' = d <;> simp [slotsOf, hdev, hdd, Nat.add_mul, Nat.add_comm]
            rwa [hcount]

/-- **`xcan_devices_loop` in direction OUT** writes once to the socket of a
device in each pass, for every slot that the device is in. -/
theorem xcanDevicesLoopWhile_out_spec (rest : Drivers Bus) (fuel : Nat) :
    ∀ (n : Nat) (score : Int) (s : Stack Bus), SocketPool D qi qo s F → score.toNat < n →
      ∃ score' s', xcanDevicesLoopWhile (socketcanDrivers rest) (fuel + 1) xcanLoopDirOut n
          score s = some (score', s') ∧
        Tried (score.toNat = 0 ∨ HeadsFit qo (List.range xcanMaxDevices) s) s s' ∧
        ∀ d, OwnSocket D d s.mem → Retried d (score.toNat *
          (slotsOf d s (List.range xcanMaxDevices) * headCount qo d s)) s s' := by
  intro n
  induction n with
  | zero => intro score s _ hn; omega
  | succ n ih =>
      intro score s h hn
      by_cases hpos : 0 < score
      swap
      · have hzero : score.toNat = 0 := by omega
        refine ⟨score, s, xcanDevicesLoopWhile_nonpos hpos,
          Tried.refl.congr (by simp [hzero]), ?_⟩
        intro d _
        rw [hzero, Nat.zero_mul]
        exact .refl
      obtain ⟨s₁, hrun₁, ht₁, hr₁⟩ := forDevices_out_spec rest fuel hpos
        (List.range xcanMaxDevices) (fun i hi => List.mem_range.mp hi) s h
      obtain ⟨score', s', hrun, ht, hr⟩ := ih (score - 1) s₁ (h.of_tried ht₁) (by omega)
      refine ⟨score', s', ?_, (ht₁.trans ht).congr ?_, ?_⟩
      · rw [xcanDevicesLoopWhile_out hpos hrun₁]
        exact hrun
      · rw [ht₁.headsFit]
        have hne : score.toNat ≠ 0 := by omega
        tauto
      · intro d hown
        have hall := (hr₁ d hown).trans ht₁ (hr d (hown.of_tried ht₁))
        rw [ht₁.slotsOf, ht₁.headCount] at hall
        rwa [show score.toNat = 1 + (score - 1).toNat by omega, Nat.add_mul, Nat.one_mul]

/-! ## Sequences of calls -/

/-- A call of `xcan_devices_loop(score, OUT)`. -/
def outputStep (drv : Drivers Bus) (fuel : Nat) (s : Stack Bus) (score : Int) :
    Option (Stack Bus) :=
  (xcanDevicesLoop drv fuel score xcanLoopDirOut s).map Prod.snd

/-- The number of passes that calls with these scores make. -/
def passes (scores : List Int) : Nat := (scores.map Int.toNat).sum

theorem outputStep_run (rest : Drivers Bus) {fuel : Nat} :
    ∀ (scores : List Int), (∀ score ∈ scores, score.toNat < fuel) →
    ∀ s, SocketPool D qi qo s F →
      ∃ s', Runs.run (outputStep (socketcanDrivers rest) fuel) s scores = some s' ∧
        Tried (passes scores = 0 ∨ HeadsFit qo (List.range xcanMaxDevices) s) s s' ∧
        ∀ d, OwnSocket D d s.mem → Retried d (passes scores *
          (slotsOf d s (List.range xcanMaxDevices) * headCount qo d s)) s s' := by
  intro scores
  induction scores with
  | nil =>
      intro _ s _
      refine ⟨s, rfl, Tried.refl.congr (by simp [passes]), ?_⟩
      intro d _
      simpa [passes] using Retried.refl
  | cons score scores ih =>
      intro hfuel s h
      obtain ⟨k, rfl⟩ : ∃ k, fuel = k + 1 :=
        Nat.exists_eq_succ_of_ne_zero (Nat.ne_of_gt (Nat.zero_lt_of_lt
          (hfuel score (by simp))))
      obtain ⟨score', s₁, hrun₁, ht₁, hr₁⟩ := xcanDevicesLoopWhile_out_spec rest k (k + 1)
        score s h (hfuel score (by simp))
      obtain ⟨s', hrun, ht, hr⟩ := ih (fun x hx => hfuel x (by simp [hx])) s₁
        (h.of_tried ht₁)
      have hpasses : passes (score :: scores) = score.toNat + passes scores := rfl
      refine ⟨s', ?_, (ht₁.trans ht).congr ?_, ?_⟩
      · rw [Runs.run_cons, outputStep, xcanDevicesLoop, hrun₁]
        exact hrun
      · rw [ht₁.headsFit, hpasses, Nat.add_eq_zero_iff]
        tauto
      · intro d hown
        have hall := (hr₁ d hown).trans ht₁ (hr d (hown.of_tried ht₁))
        rw [ht₁.slotsOf, ht₁.headCount] at hall
        rwa [hpasses, Nat.add_mul]

/-- Of the frames that were queued, the first ones were sent, each once, and
the others are left. -/
structure AtMostOnce (queued sent left : List Ptr) : Prop where
  once : sent.Nodup
  inOrder : sent <+: queued
  removed : left = queued.drop sent.length

theorem atMostOnce_same_iff {queued sent : List Ptr} :
    AtMostOnce queued sent queued ↔ sent = [] := by
  constructor
  · intro h
    have hlen := congrArg List.length h.removed
    rw [List.length_drop] at hlen
    have hle := h.inOrder.length_le
    exact List.length_eq_zero_iff.mp (by omega)
  · rintro rfl
    exact ⟨List.nodup_nil, List.nil_prefix, rfl⟩

/-- **Transmission is at most once exactly when it never happens.** Whatever
was queued, whatever the outcomes of `write` and whatever the scores, the calls
meet the requirement, and copy nothing past the end of the structure of
`prv_send`, if and only if the counter of the output queue is zero, or all the
writes to the socket fail, one in each pass for each slot of `d`; and there is
no pass, or no first frame of a queue has more than 64 bytes. -/
theorem at_most_once_iff (rest : Drivers Bus) (h : SocketPool D qi qo s F) (hd : D d)
    (hown : OwnSocket D d s.mem) {fuel : Nat} {scores : List Int}
    (hfuel : ∀ score ∈ scores, score.toNat < fuel) :
    ∃ s' calls queued left,
      Runs.run (outputStep (socketcanDrivers rest) fuel) s scores = some s' ∧
      s'.sends = s.sends ++ calls ∧ LinkedOut s.mem d queued ∧ LinkedOut s'.mem d left ∧
      (AtMostOnce queued (transmitted d calls) left ∧ CopiesInBounds s.world s'.world ↔
        ((s.mem.queue (qo d)).frames = 0 ∨
          ∀ k < passes scores * slotsOf d s (List.range xcanMaxDevices),
            s.world.transmits (s.mem.device d).fd
              (s.world.writes (s.mem.device d).fd + k) = false) ∧
        (passes scores = 0 ∨ HeadsFit qo (List.range xcanMaxDevices) s)) := by
  obtain ⟨s', hrun, ht, hr⟩ := outputStep_run rest scores hfuel s h
  obtain ⟨calls, hcalls, hquiet⟩ := (hr d hown).sends
  refine ⟨s', calls, _, _, hrun, hcalls, h.linkedOut hd, (h.of_tried ht).linkedOut hd, ?_⟩
  rw [atMostOnce_same_iff, hquiet, headCount, ht.inBounds_iff]
  by_cases hzero : (s.mem.queue (qo d)).frames = 0
  · simp [hzero]
  · simp [hzero]

end

/-- Two SocketCAN devices, of which the first has a frame to send. -/
abbrev socketToSend (world : Bus) : Stack Bus := oneToSend .prvSend world

theorem socketToSend_pool (world : Bus) :
    SocketPool IsTwo (10 * ·) (10 * · + 1) (socketToSend world)
      ((Fifos.empty fun _ => 0).push 11 40) where
  toPoolOk := oneToSend_pool .prvSend world
  send d _ := by
    rw [(oneToSend_links .prvSend world).device]
    rfl

theorem socketToSend_own (world : Bus) (d : Ptr) :
    OwnSocket IsTwo d (socketToSend world).mem := by
  intro d' _ hfd
  rw [(oneToSend_links .prvSend world).device] at hfd
  exact Int.ofNat_inj.mp hfd

/-- Sockets that never transmit. -/
def deadBus : Bus := { transmits := fun _ _ => false }

/-- Two calls on sockets that never transmit. -/
theorem at_most_once_iff_dead_bus :
    ∃ s' calls queued left,
      Runs.run (outputStep (socketcanDrivers noOtherDrivers) 21) (socketToSend deadBus)
        [20, 1] = some s' ∧
      s'.sends = (socketToSend deadBus).sends ++ calls ∧
      LinkedOut (socketToSend deadBus).mem 1 queued ∧ LinkedOut s'.mem 1 left ∧
      (AtMostOnce queued (transmitted 1 calls) left ∧
          CopiesInBounds (socketToSend deadBus).world s'.world ↔
        (((socketToSend deadBus).mem.queue 11).frames = 0 ∨
          ∀ k < passes [20, 1] *
              slotsOf 1 (socketToSend deadBus) (List.range xcanMaxDevices),
            deadBus.transmits 1 (deadBus.writes 1 + k) = false) ∧
        (passes [20, 1] = 0 ∨
          HeadsFit (10 * · + 1) (List.range xcanMaxDevices) (socketToSend deadBus))) :=
  at_most_once_iff noOtherDrivers (socketToSend_pool deadBus) (.inl rfl)
    (socketToSend_own deadBus 1) (by decide)

/-- On sockets that transmit, two calls send the frame twice and keep it. -/
theorem frame_transmitted_twice :
    ∃ s' calls,
      Runs.run (outputStep (socketcanDrivers noOtherDrivers) 2) (socketToSend {})
        [1, 1] = some s' ∧
      s'.sends = (socketToSend {}).sends ++ calls ∧
      LinkedOut (socketToSend {}).mem 1 [40] ∧ LinkedOut s'.mem 1 [40] ∧
      transmitted 1 calls = [40, 40] ∧
      ¬ AtMostOnce [40] (transmitted 1 calls) [40] := by
  have hsends : ((Runs.run (outputStep (socketcanDrivers noOtherDrivers) 2)
      (socketToSend {}) [1, 1]).map fun s => s.sends) =
        some [⟨1, 40, 0, 16⟩, ⟨1, 40, 0, 16⟩] := by
    decide +kernel
  have hpool := socketToSend_pool {}
  obtain ⟨s', hrun, ht, -⟩ := outputStep_run noOtherDrivers [1, 1]
    (by decide : ∀ score ∈ [1, 1], Int.toNat score < 2) _ hpool
  rw [hrun, Option.map_some, Option.some_inj] at hsends
  have htwice : transmitted 1 s'.sends = [40, 40] := by
    rw [hsends]
    rfl
  refine ⟨s', s'.sends, hrun, rfl, hpool.linkedOut (.inl rfl),
    (hpool.of_tried ht).linkedOut (.inl rfl), htwice, ?_⟩
  intro h
  rw [atMostOnce_same_iff, htwice] at h
  cases h

end XcanRouter
