import XcanRouter.SocketCan
import XcanRouter.Rejection
import XcanRouter.Constructors

/-!
# Frames from a poll

`prv_poll` reads into a local structure and calls `xcan_stack_recv` on it,
whatever the read has returned. What of the structure the read did not fill
has not been set at all. As many bytes of payload are copied out of it as the
length says, and the flags are not passed on.
-/

namespace XcanRouter

/-- What a classic frame can carry, and a CAN FD frame. -/
def canMaxDlen : Nat := 8
def canfdMaxDlen : Nat := 64

/-- The bytes that the read of `prv_poll` on `self` delivers. -/
def delivered (self : Ptr) (s : Stack Bus) : List UInt8 :=
  (s.world.read (s.mem.device self).fd sizeofCanFrame).1

/-- The structure that `bytes` are, when nothing is missing. -/
def asFrame (bytes : List UInt8) : Bytes := fun i => bytes.getD i 0

/-- `f` is the frame that was read as `bytes`: they are as many as a frame has,
its fields and its payload are theirs, and the payload is no longer than a
frame of that size can carry. -/
structure ReadFrom (m : Mem) (f : Ptr) (bytes : List UInt8) : Prop where
  count : bytes.length = sizeofCanFrame ∨ bytes.length = sizeofCanfdFrame
  id : (m.frame f).id = CanfdFrame.canId (asFrame bytes)
  flags : (m.frame f).flags = CanfdFrame.flags (asFrame bytes)
  len : (m.frame f).len.toNat = (CanfdFrame.len (asFrame bytes)).toNat
  capacity : (m.frame f).len.toNat ≤
    if bytes.length = sizeofCanFrame then canMaxDlen else canfdMaxDlen
  buffer : (m.frame f).data.block ≠ none
  payload : m.payloadOf f =
    bytesOf (CanfdFrame.data (asFrame bytes)) (m.frame f).len.toNat

/-- From `m` to `m'` the queue at `q`, which held `l`, got a frame that was read
as `bytes`, or no queue changed. -/
def OnlyRealFrames (m m' : Mem) (q : Ptr) (l : List Ptr) (bytes : List UInt8) : Prop :=
  (m'.queue = m.queue ∧ Represents m' q l) ∨
    ∃ f, Represents m' q (l ++ [f]) ∧ (∀ q', q' ≠ q → m'.queue q' = m.queue q') ∧
      ReadFrom m' f bytes

/-- The payloads that were copied from `s` to `s'` were in the local structure,
and a buffer was there for them. -/
def PayloadsCopied (s s' : Stack Bus) : Prop :=
  ∃ calls, s'.recvs = s.recvs ++ calls ∧ ∀ c ∈ calls, ∀ f, c.frame = some f →
    (payloadCopy c.len).InBounds ∧ (s'.mem.frame f).data.block ≠ none

section
variable {s : Stack Bus} {self q : Ptr} {l : List Ptr}

theorem delivered_length_le (self : Ptr) (s : Stack Bus) :
    (delivered self s).length ≤ sizeofCanFrame := by
  rw [delivered, Bus.read]
  exact List.length_take_le _ _

/-- What was read stands in front of what the stack of the process held. -/
theorem polledFrame_eq (i : Nat) : polledFrame self s i =
    if i < (delivered self s).length then asFrame (delivered self s) i
    else s.world.stack i := by
  simp [polledFrame, Bytes.splice, delivered, asFrame]

/-- A classic frame arrived as a whole. -/
theorem polledFrame_of_full (h : (delivered self s).length = sizeofCanFrame) {i : Nat}
    (hi : i < sizeofCanFrame) : polledFrame self s i = asFrame (delivered self s) i := by
  rw [polledFrame_eq, h, if_pos hi]

/-- The arguments of the call of `xcan_stack_recv`. -/
def polled (self : Ptr) (s : Stack Bus) : Reception :=
  ⟨CanfdFrame.canId (polledFrame self s), CanfdFrame.flags (polledFrame self s),
    CanfdFrame.data (polledFrame self s), CanfdFrame.len (polledFrame self s)⟩

theorem prvPoll_eq (self : Ptr) (s : Stack Bus) : ∃ s' c, prvPoll self s = some (0, s') ∧
    s'.mem = (xcanStackRecvBody self (polled self s).canId (polled self s).flags
      (polled self s).data (polled self s).len s.mem).2 ∧
    s'.recvs = s.recvs ++ [c] ∧ c.len = (polled self s).len ∧
    c.frame = (xcanStackRecvBody self (polled self s).canId (polled self s).flags
      (polled self s).data (polled self s).len s.mem).1.2 :=
  ⟨_, _, rfl, rfl, rfl, rfl, rfl⟩

/-- The header and the payload of a classic frame. -/
theorem polled_of_full (h : (delivered self s).length = sizeofCanFrame) :
    (polled self s).canId = CanfdFrame.canId (asFrame (delivered self s)) ∧
      (polled self s).len = CanfdFrame.len (asFrame (delivered self s)) ∧
      ∀ n, n ≤ canMaxDlen → bytesOf (polled self s).data n =
        bytesOf (CanfdFrame.data (asFrame (delivered self s))) n := by
  refine ⟨?_, ?_, ?_⟩
  · have hid : ∀ i, i < 4 → (polledFrame self s i).toNat =
        (asFrame (delivered self s) i).toNat := by
      intro i hi
      rw [polledFrame_of_full h (Nat.lt_trans hi (by decide))]
    show CanfdFrame.canId _ = _
    rw [CanfdFrame.canId, LittleEndian.ofBytes_congr hid, CanfdFrame.canId]
  · exact polledFrame_of_full h (by decide)
  · intro n hn
    apply List.map_congr_left
    intro i hi
    have hlt : 8 + i < sizeofCanFrame :=
      Nat.add_lt_add_left (Nat.lt_of_lt_of_le (List.mem_range.mp hi) hn) 8
    exact polledFrame_of_full h hlt

end

/-! ## The reception -/

section
variable {m : Mem} {dev q : Ptr} {l : List Ptr}

/-- `xcan_stack_recv` on a device with the input queue `q` returns 1: it gets no
descriptor, or the queue is full. -/
def NotQueued (m : Mem) (q : Ptr) : Prop :=
  m.heap.oom m.heap.calls = true ∨ QueueFull m q

/-- The queue when `xcan_enqueue` is called on it. -/
theorem Represents.recvFilled (hrep : Represents m q l) (hnew : ∀ f ∈ l, f < m.heap.brk)
    (hoom : m.heap.oom m.heap.calls = false) (dev : Ptr) (r : Reception) :
    Represents (recvFilled m dev r.canId r.data r.len) q l := by
  obtain ⟨⟨payload, hframe⟩, hqueue, -⟩ :=
    recvFilled_leaves m dev r.canId r.data r.len hoom
  apply hrep.congr (congrFun hqueue q)
  intro f hf
  simp [Mem.next, hframe, Nat.ne_of_lt (hnew f hf)]

/-- A reception that is not queued changes no queue. -/
theorem xcanStackRecvBody_notQueued (r : Reception) (hq : (m.device dev).qIn = some q)
    (hrep : Represents m q l) (hnew : ∀ f ∈ l, f < m.heap.brk) (h : NotQueued m q) :
    (xcanStackRecvBody dev r.canId r.flags r.data r.len m).2.queue = m.queue ∧
      Represents (xcanStackRecvBody dev r.canId r.flags r.data r.len m).2 q l := by
  cases hoom : m.heap.oom m.heap.calls with
  | true =>
      rw [xcanStackRecvBody_refused m dev r.canId r.data r.len r.flags hoom]
      have hqueue : (m.setHeap m.heap.refuse).queue q = m.queue q := rfl
      exact ⟨rfl, hrep.congr hqueue fun _ _ => rfl⟩
  | false =>
      have hfull := h.resolve_left (by rw [hoom]; exact Bool.false_ne_true)
      have hfilled := hrep.recvFilled hnew hoom dev r
      obtain ⟨-, hqueue, -⟩ := recvFilled_leaves m dev r.canId r.data r.len hoom
      obtain ⟨hrc, hqueue', hframe', -⟩ := xcanEnqueue_full q m.heap.brk
        (recvFilled m dev r.canId r.data r.len) (by rw [hqueue]; exact hfull)
      obtain ⟨hframe'', hqueue'', -⟩ := xcanFrameDiscard_leaves
        (xcanEnqueue (some q) m.heap.brk (recvFilled m dev r.canId r.data r.len)).2
        m.heap.brk
      have hsame := hqueue''.trans hqueue'
      rw [xcanStackRecvBody_eq m dev r.canId r.data r.len r.flags hoom hq, hrc,
        if_pos (by decide)]
      refine ⟨hsame.trans hqueue, hfilled.congr (congrFun hsame q) ?_⟩
      intro f _
      rw [Mem.next, hframe'', hframe', Mem.next]

/-- One that is queued appends the frame it has filled. -/
theorem xcanStackRecvBody_queued (r : Reception) (hq : (m.device dev).qIn = some q)
    (hrep : Represents m q l) (hnew : ∀ f ∈ l, f < m.heap.brk) (h : ¬ NotQueued m q) :
    Represents (xcanStackRecvBody dev r.canId r.flags r.data r.len m).2 q
        (l ++ [m.heap.brk]) ∧
      (∀ q', q' ≠ q →
        (xcanStackRecvBody dev r.canId r.flags r.data r.len m).2.queue q' = m.queue q') ∧
      LinksOnly (recvFilled m dev r.canId r.data r.len)
        (xcanStackRecvBody dev r.canId r.flags r.data r.len m).2 := by
  obtain ⟨hoom, hfull⟩ := not_or.mp h
  have hoom := Bool.eq_false_iff.mpr hoom
  have hfilled := hrep.recvFilled hnew hoom dev r
  obtain ⟨-, hqueue, -⟩ := recvFilled_leaves m dev r.canId r.data r.len hoom
  have hfresh : m.heap.brk ∉ l := fun hmem => Nat.lt_irrefl _ (hnew _ hmem)
  obtain ⟨hrc, hrep', hothers, -, -, hlinks⟩ :=
    hfilled.enqueue hfresh (by rw [hqueue]; exact hfull)
  rw [xcanStackRecvBody_eq m dev r.canId r.data r.len r.flags hoom hq, hrc,
    if_neg (by decide)]
  refine ⟨hrep', ?_, hlinks⟩
  intro q' hq'
  show (xcanEnqueue _ _ _).2.queue q' = _
  rw [hothers q' hq', hqueue]

/-- It has a payload buffer when the second allocation succeeded. -/
theorem recvFilled_data_ne_none (dev : Ptr) (r : Reception)
    (hoom : m.heap.oom m.heap.calls = false) :
    ((recvFilled m dev r.canId r.data r.len).frame m.heap.brk).data.block ≠ none ↔
      m.heap.oom (m.heap.calls + 1) = false := by
  cases hoom' : m.heap.oom (m.heap.calls + 1) with
  | false =>
      obtain ⟨hframe, -⟩ := recvFilled_granted m dev r.canId r.data r.len hoom hoom'
      rw [hframe, Function.update_self]
      simp [newFrame]
  | true =>
      obtain ⟨hself, -⟩ := recvFilled_noPayload dev r hoom hoom'
      rw [hself]
      simp [newFrame]

end

/-! ## What a poll injects -/

section
variable {s : Stack Bus} {self q : Ptr} {l : List Ptr}

/-- A classic frame of at most eight bytes was delivered as a whole, and has no
flags. -/
def ClassicArrived (s : Stack Bus) (self : Ptr) : Prop :=
  (delivered self s).length = sizeofCanFrame ∧
    (CanfdFrame.len (asFrame (delivered self s))).toNat ≤ canMaxDlen ∧
    CanfdFrame.flags (asFrame (delivered self s)) = 0

/-- The frame that is filled in with such a frame. -/
theorem ClassicArrived.readFrom (h : ClassicArrived s self) {m : Mem}
    (hoom : s.mem.heap.oom s.mem.heap.calls = false)
    (hoom' : s.mem.heap.oom (s.mem.heap.calls + 1) = false)
    (hlinks : LinksOnly (recvFilled s.mem self (polled self s).canId (polled self s).data
      (polled self s).len) m) :
    ReadFrom m s.mem.heap.brk (delivered self s) := by
  obtain ⟨hcount, hlen, hflags⟩ := h
  obtain ⟨hid, hlen', hdata⟩ := polled_of_full hcount
  have hholds := hlinks.kept.holds (recvFilled_holds s.mem self (polled self s).canId
    (polled self s).data (polled self s).len hoom hoom' (polled self s).flags none 0)
  have hframeLen := hholds.len
  rw [hlen'] at hframeLen
  constructor
  case count => exact .inl hcount
  case id => exact hholds.id.trans hid
  case flags => exact hholds.flags.trans hflags.symm
  case len => exact hframeLen
  case capacity =>
    rw [if_pos hcount, hframeLen]
    exact hlen
  case buffer =>
    obtain ⟨b, hb, -⟩ := hholds.block
    rw [hb]
    exact Option.some_ne_none b
  case payload =>
    rw [Mem.payloadOf, hholds.payload, hlen', hframeLen]
    exact hdata _ hlen

/-- No other read fills in a real frame. -/
theorem ReadFrom.classicArrived {m : Mem} (h : ReadFrom m s.mem.heap.brk (delivered self s))
    (hoom : s.mem.heap.oom s.mem.heap.calls = false)
    (hlinks : LinksOnly (recvFilled s.mem self (polled self s).canId (polled self s).data
      (polled self s).len) m) :
    ClassicArrived s self := by
  have hcount : (delivered self s).length = sizeofCanFrame := by
    have hle := delivered_length_le self s
    rcases h.count with hcount | hcount
    · exact hcount
    · rw [hcount] at hle
      exact absurd hle (by decide)
  have hcapacity := h.capacity
  rw [if_pos hcount, h.len] at hcapacity
  refine ⟨hcount, hcapacity, h.flags.symm.trans ?_⟩
  -- `xcan_frame_alloc` clears the flags, and nothing sets them
  obtain ⟨⟨payload, hframe⟩, -⟩ := recvFilled_leaves s.mem self (polled self s).canId
    (polled self s).data (polled self s).len hoom
  rw [hlinks.flags, hframe, Function.update_self]
  rfl

theorem ClassicArrived.len_le (h : ClassicArrived s self) : (polled self s).len ≤ 64 := by
  rw [(polled_of_full h.1).2.1, UInt8.le_iff_toNat_le]
  exact Nat.le_trans h.2.1 (by decide)

/-- What is copied when a descriptor was obtained. -/
theorem payloadsCopied_iff {s' : Stack Bus} (hq : (s.mem.device self).qIn = some q)
    (hoom : s.mem.heap.oom s.mem.heap.calls = false) (hpoll : prvPoll self s = some (0, s')) :
    PayloadsCopied s s' ↔
      (polled self s).len ≤ 64 ∧ s.mem.heap.oom (s.mem.heap.calls + 1) = false := by
  obtain ⟨s₁, c, hpoll₁, hmem, hrecvs, hlen, hframe⟩ := prvPoll_eq self s
  obtain rfl : s₁ = s' := congrArg Prod.snd (Option.some_inj.mp (hpoll₁.symm.trans hpoll))
  obtain ⟨hfilled, hdata⟩ := xcanStackRecvBody_filled (polled self s) hq hoom
  rw [hfilled] at hframe
  rw [← hmem] at hdata
  rw [← payloadCopy_inBounds, ← recvFilled_data_ne_none self (polled self s) hoom, ← hdata,
    ← hlen]
  constructor
  · rintro ⟨calls, hcalls, hall⟩
    obtain rfl := List.append_cancel_left (hrecvs.symm.trans hcalls)
    exact hall c (by simp) _ hframe
  · intro h
    refine ⟨[c], hrecvs, ?_⟩
    intro c' hc' f hf
    rw [List.mem_singleton.mp hc', hframe, Option.some_inj] at hf
    rw [List.mem_singleton.mp hc', ← hf]
    exact h

/-- **A poll injects only real frames**, from what it has read into what it has
allocated, exactly when it gets no descriptor; or it gets a payload buffer, and
the input queue is full and the length is one that the structure has room for,
or a classic frame without flags has arrived. -/
theorem poll_only_real_frames_iff (hq : (s.mem.device self).qIn = some q)
    (hrep : Represents s.mem q l) (hnew : ∀ f ∈ l, f < s.mem.heap.brk) :
    ∃ s', prvPoll self s = some (0, s') ∧
      (OnlyRealFrames s.mem s'.mem q l (delivered self s) ∧ PayloadsCopied s s' ↔
        s.mem.heap.oom s.mem.heap.calls = true ∨
          s.mem.heap.oom (s.mem.heap.calls + 1) = false ∧
            (QueueFull s.mem q ∧ (polled self s).len ≤ 64 ∨ ClassicArrived s self)) := by
  obtain ⟨s', c, hpoll, hmem, hrecvs, -, hframe⟩ := prvPoll_eq self s
  refine ⟨s', hpoll, ?_⟩
  cases hoom : s.mem.heap.oom s.mem.heap.calls with
  | true =>
      refine ⟨fun _ => .inl rfl, fun _ => ⟨.inl ?_, [c], hrecvs, ?_⟩⟩
      · rw [hmem]
        exact xcanStackRecvBody_notQueued (polled self s) hq hrep hnew (.inl hoom)
      · intro c' hc' f hf
        rw [xcanStackRecvBody_refused s.mem self _ _ _ _ hoom] at hframe
        rw [List.mem_singleton.mp hc', hframe] at hf
        cases hf
  | false =>
      rw [payloadsCopied_iff hq hoom hpoll]
      by_cases hfull : QueueFull s.mem q
      · have hsame := xcanStackRecvBody_notQueued (polled self s) hq hrep hnew (.inr hfull)
        rw [← hmem] at hsame
        constructor
        · rintro ⟨-, hlen, hoom'⟩
          exact .inr ⟨hoom', .inl ⟨hfull, hlen⟩⟩
        · rintro (h | ⟨hoom', ⟨-, hlen⟩ | harrived⟩)
          · cases h
          · exact ⟨.inl hsame, hlen, hoom'⟩
          · exact ⟨.inl hsame, harrived.len_le, hoom'⟩
      have hnot : ¬ NotQueued s.mem q := not_or.mpr ⟨by rw [hoom]; decide, hfull⟩
      obtain ⟨hrep', hothers, hlinks⟩ :=
        xcanStackRecvBody_queued (polled self s) hq hrep hnew hnot
      rw [← hmem] at hrep' hothers hlinks
      constructor
      · rintro ⟨⟨-, hsame⟩ | ⟨f, hf, -, hread⟩, -, hoom'⟩
        · exact absurd (hsame.unique hrep') (by simp)
        · obtain rfl : f = s.mem.heap.brk :=
            List.singleton_inj.mp (List.append_cancel_left (hf.unique hrep'))
          exact .inr ⟨hoom', .inr (hread.classicArrived hoom hlinks)⟩
      · rintro (h | ⟨hoom', ⟨h, -⟩ | harrived⟩)
        · cases h
        · exact absurd h hfull
        · exact ⟨.inr ⟨s.mem.heap.brk, hrep', hothers, harrived.readFrom hoom hoom' hlinks⟩,
            harrived.len_le, hoom'⟩

end

/-- A device with an empty input queue, whose socket delivers `datagrams`. -/
def socketDevice (datagrams : List (List UInt8)) : Stack Bus where
  mem :=
    { heap := { brk := 4 }
      device := fun _ => { qIn := some 2 } }
  world :=
    { inbox := fun _ => datagrams
      stack := fun _ => 7 }

theorem socketDevice_represents (datagrams : List (List UInt8)) :
    Represents (socketDevice datagrams).mem 2 [] :=
  Represents.empty rfl rfl rfl

/-- A classic frame with two bytes of payload arrives. -/
def twoBytesArrive : Stack Bus :=
  socketDevice [[5, 0, 0, 0, 2, 0, 0, 0, 8, 9, 0, 0, 0, 0, 0, 0]]

theorem poll_only_real_frames_iff_two_bytes :
    ∃ s', prvPoll 1 twoBytesArrive = some (0, s') ∧
      (OnlyRealFrames twoBytesArrive.mem s'.mem 2 [] (delivered 1 twoBytesArrive) ∧
          PayloadsCopied twoBytesArrive s' ↔
        twoBytesArrive.mem.heap.oom twoBytesArrive.mem.heap.calls = true ∨
          twoBytesArrive.mem.heap.oom (twoBytesArrive.mem.heap.calls + 1) = false ∧
            (QueueFull twoBytesArrive.mem 2 ∧ (polled 1 twoBytesArrive).len ≤ 64 ∨
              ClassicArrived twoBytesArrive 1)) :=
  poll_only_real_frames_iff rfl (socketDevice_represents _) (fun _ hf => nomatch hf)

/-- When nothing is read, a frame is made of what the stack held. -/
theorem failed_read_is_received :
    Represents (socketDevice []).mem 2 [] ∧ delivered 1 (socketDevice []) = [] ∧
      ∃ s', prvPoll 1 (socketDevice []) = some (0, s') ∧ Represents s'.mem 2 [4] ∧
        ¬ OnlyRealFrames (socketDevice []).mem s'.mem 2 [] (delivered 1 (socketDevice [])) := by
  obtain ⟨s', -, hpoll, hmem, -⟩ := prvPoll_eq 1 (socketDevice [])
  have hempty := socketDevice_represents []
  have hqueued : ¬ NotQueued (socketDevice []).mem 2 := by
    rintro (h | ⟨h, -⟩)
    · cases h
    · exact h rfl
  obtain ⟨hrep, -⟩ := xcanStackRecvBody_queued (polled 1 (socketDevice [])) rfl hempty
    (fun _ hf => nomatch hf) hqueued
  rw [← hmem] at hrep
  refine ⟨hempty, rfl, s', hpoll, hrep, ?_⟩
  rintro (⟨-, hsame⟩ | ⟨f, -, -, hread⟩)
  · exact absurd (hsame.unique hrep) (by decide)
  · rcases hread.count with hcount | hcount
    · cases hcount
    · cases hcount

end XcanRouter
