import XcanRouter.Stack
import XcanRouter.Base.LittleEndian

/-!
# The SocketCAN driver (xcan_dev_socketcan.c)

A CAN frame travels as the bytes of a `struct canfd_frame`, of which a classic
frame is the first 16. Local structures are not initialised, so their bytes
are whatever the stack of the process holds there. What is copied into them is
recorded with the room that there is for it, and goes on on a structure without
an end.
-/

namespace XcanRouter

/-! ## Sockets -/

/-- A copy of `bytes` bytes to `offset` in a local structure of `size` bytes. -/
structure LocalCopy where
  size : Nat
  offset : Nat
  bytes : Nat
deriving DecidableEq, Repr

def LocalCopy.InBounds (c : LocalCopy) : Prop := c.offset + c.bytes ≤ c.size

instance LocalCopy.decidableInBounds (c : LocalCopy) : Decidable c.InBounds :=
  inferInstanceAs (Decidable (_ ≤ _))

/-- What the sockets of the devices do, by file descriptor. -/
structure Bus where
  /-- Whether the `n`-th `write` to a socket transmits. -/
  transmits : Int → Nat → Bool := fun _ _ => true
  /-- How often a socket has been written to. -/
  writes : Int → Nat := fun _ => 0
  /-- The datagrams that were transmitted, with the socket. -/
  wire : List (Int × List UInt8) := []
  /-- The datagrams that wait to be read. -/
  inbox : Int → List (List UInt8) := fun _ => []
  /-- The sockets passed to `close`. -/
  closed : List Int := []
  /-- What uninitialised locals hold. -/
  stack : Bytes := fun _ => 0
  /-- The copies into local structures. -/
  locals : List LocalCopy := []

/-- Record a copy into a local structure. -/
def Bus.copyLocal (w : Bus) (c : LocalCopy) : Bus := { w with locals := w.locals ++ [c] }

/-- From `w` to `w'` nothing was copied past the end of a local structure. -/
def CopiesInBounds (w w' : Bus) : Prop :=
  ∃ copies, w'.locals = w.locals ++ copies ∧ ∀ copy ∈ copies, copy.InBounds

section
variable {w w' w'' : Bus} {copies : List LocalCopy}

theorem copiesInBounds_iff (h : w'.locals = w.locals ++ copies) :
    CopiesInBounds w w' ↔ ∀ copy ∈ copies, copy.InBounds := by
  constructor
  · rintro ⟨copies', h', hall⟩
    rwa [← List.append_cancel_left (h'.symm.trans h)]
  · intro hall
    exact ⟨copies, h, hall⟩

theorem copiesInBounds_one {copy : LocalCopy} (h : w'.locals = w.locals ++ [copy]) :
    CopiesInBounds w w' ↔ copy.InBounds := by
  simp [copiesInBounds_iff h]

theorem CopiesInBounds.of_eq (h : w'.locals = w.locals) : CopiesInBounds w w' :=
  ⟨[], by rw [h, List.append_nil], fun _ hc => nomatch hc⟩

theorem CopiesInBounds.trans (h : CopiesInBounds w w') (h' : CopiesInBounds w' w'') :
    CopiesInBounds w w'' := by
  obtain ⟨copies, hcopies, hall⟩ := h
  obtain ⟨copies', hcopies', hall'⟩ := h'
  refine ⟨copies ++ copies', by rw [hcopies', hcopies, List.append_assoc], ?_⟩
  exact List.forall_mem_append.mpr ⟨hall, hall'⟩

end

/-- `write(fd, ...)`: all of the bytes, or `-1` and none of them. -/
def Bus.write (w : Bus) (fd : Int) (bytes : List UInt8) : Int × Bus :=
  let w' := { w with writes := Function.update w.writes fd (w.writes fd + 1) }
  if w.transmits fd (w.writes fd) then
    (bytes.length, { w' with wire := w.wire ++ [(fd, bytes)] })
  else
    (-1, w')

/-- `read(fd, ..., n)`: the first `n` bytes of the next datagram, the rest of
which is dropped, or no bytes. -/
def Bus.read (w : Bus) (fd : Int) (n : Nat) : List UInt8 × Bus :=
  ((w.inbox fd).headI.take n,
    { w with inbox := Function.update w.inbox fd (w.inbox fd).tail })

/-! ## `struct canfd_frame` -/

def sizeofCanFrame : Nat := 16
def sizeofCanfdFrame : Nat := 72

def Bytes.ofNat (n : Nat) : Bytes := fun i => (LittleEndian.byte n i).toUInt8

namespace CanfdFrame

def canId (f : Bytes) : UInt32 :=
  (LittleEndian.ofBytes 4 fun i => (f i).toNat).toUInt32

def len (f : Bytes) : UInt8 := f 4

def flags (f : Bytes) : UInt8 := f 5

def data (f : Bytes) : Bytes := fun i => f (8 + i)

def setCanId (f : Bytes) (id : UInt32) : Bytes := f.splice 0 4 (Bytes.ofNat id.toNat)

def setLen (f : Bytes) (len : UInt8) : Bytes := f.splice 4 1 fun _ => len

def setFlags (f : Bytes) (flags : UInt8) : Bytes := f.splice 5 1 fun _ => flags

/-- `memcpy(f.data, data, n)` -/
def copyData (f : Bytes) (data : Bytes) (n : Nat) : Bytes := f.splice 8 n data

end CanfdFrame

/-! ## The driver -/

/-- `prv_send`: it returns what `write` returns. -/
def prvSend (self : Ptr) (id : UInt32) (flags : UInt8) (data : BytePtr) (len : UInt8)
    (m : Mem) (w : Bus) : Int × Bus :=
  let frame := CanfdFrame.setCanId w.stack id
  let frame := CanfdFrame.setFlags frame flags
  let frame := CanfdFrame.setLen frame len
  let frame := CanfdFrame.copyData frame (m.byteAt data) len.toNat
  -- whatever the length, into the 64 bytes of `frame.data`
  let w := w.copyLocal ⟨sizeofCanfdFrame, 8, len.toNat⟩
  let frameLen := if 8 < len then sizeofCanfdFrame else sizeofCanFrame
  w.write (m.device self).fd (bytesOf frame frameLen)

/-- `prv_poll`: a read of the size of a classic frame. The branches on the
number of bytes read only print. -/
def prvPoll (self : Ptr) : Prog (Stack Bus) Int := do
  let s ← Prog.state
  let r := s.world.read (s.mem.device self).fd sizeofCanFrame
  Prog.modify fun s => { s with world := r.2 }
  -- behind the bytes read, the local structure is not initialised
  let f := s.world.stack.splice 0 r.1.length fun i => r.1.getD i 0
  let _ ← xcanStackRecv self (CanfdFrame.canId f) (CanfdFrame.flags f)
    (CanfdFrame.data f) (CanfdFrame.len f)
  return 0

/-- `xcan_socketcan_destroy`. The message at its end prints the name of the
device, which has been freed by then. -/
def xcanSocketcanDestroy (dev : Ptr) (m : Mem) (w : Bus) : Mem × Bus :=
  (((m.touch (some dev) DeviceField.fd.offset DeviceField.fd.size).setHeap
      (m.heap.free dev)).touch (some dev) DeviceField.name.offset DeviceField.name.size,
    { w with closed := w.closed ++ [(m.device dev).fd] })

/-- The SocketCAN driver beside the drivers `rest` from outside of the
repository. -/
def socketcanDrivers (rest : Drivers Bus) : Drivers Bus where
  send cb dev id flags data len m w :=
    match cb with
    | .prvSend => prvSend dev id flags data len m w
    | cb => rest.send cb dev id flags data len m w
  destroy cb dev m w :=
    match cb with
    | .xcanSocketcanDestroy => xcanSocketcanDestroy dev m w
    | cb => rest.destroy cb dev m w

@[simp] theorem socketcanDrivers_send (rest : Drivers Bus) :
    (socketcanDrivers rest).send .prvSend = prvSend := rfl

/-- The drivers of a system that has SocketCAN devices only. -/
def noOtherDrivers : Drivers Bus where
  send := fun _ _ _ _ _ _ _ w => (-1, w)
  destroy := fun _ _ m w => (m, w)

/-! ## What is on the wire -/

section
variable (self : Ptr) (id : UInt32) (flags : UInt8) (data : BytePtr) (len : UInt8)
  (m : Mem) (w : Bus)

/-- The structure that `prv_send` passes to `write`. -/
def sentFrame : Bytes :=
  CanfdFrame.copyData (CanfdFrame.setLen (CanfdFrame.setFlags
    (CanfdFrame.setCanId w.stack id) flags) len) (m.byteAt data) len.toNat

/-- The bytes of it that are written. -/
def sentBytes : List UInt8 :=
  bytesOf (sentFrame id flags data len m w)
    (if 8 < len then sizeofCanfdFrame else sizeofCanFrame)

/-- The copy of a payload into the structure, or out of it. -/
def payloadCopy : LocalCopy := ⟨sizeofCanfdFrame, 8, len.toNat⟩

theorem payloadCopy_inBounds : (payloadCopy len).InBounds ↔ len ≤ 64 := by
  rw [UInt8.le_iff_toNat_le]
  show 8 + len.toNat ≤ 72 ↔ len.toNat ≤ 64
  omega

theorem prvSend_eq : prvSend self id flags data len m w =
    (w.copyLocal (payloadCopy len)).write (m.device self).fd
      (sentBytes id flags data len m w) := rfl

theorem sentFrame_id {i : Nat} (hi : i < 4) :
    sentFrame id flags data len m w i = Bytes.ofNat id.toNat i := by
  simp [sentFrame, CanfdFrame.copyData, CanfdFrame.setLen, CanfdFrame.setFlags,
    CanfdFrame.setCanId, Bytes.splice, hi, show ¬ 8 ≤ i by omega, show ¬ 4 ≤ i by omega,
    show ¬ 5 ≤ i by omega]

theorem sentFrame_len : sentFrame id flags data len m w 4 = len := by
  simp [sentFrame, CanfdFrame.copyData, CanfdFrame.setLen, Bytes.splice]

theorem sentFrame_flags : sentFrame id flags data len m w 5 = flags := by
  simp [sentFrame, CanfdFrame.copyData, CanfdFrame.setLen, CanfdFrame.setFlags,
    Bytes.splice]

theorem sentFrame_data {i : Nat} (hi : i < len.toNat) :
    sentFrame id flags data len m w (8 + i) = m.byteAt data i := by
  simp [sentFrame, CanfdFrame.copyData, Bytes.splice, hi]

theorem ofBytes_id : LittleEndian.ofBytes 4 (fun i => (Bytes.ofNat id.toNat i).toNat) =
    id.toNat := by
  have hbyte : ∀ i, (Bytes.ofNat id.toNat i).toNat = LittleEndian.byte id.toNat i := by
    intro i
    have : LittleEndian.byte id.toNat i < 256 := Nat.mod_lt _ (by decide)
    simp only [Bytes.ofNat, Nat.toUInt8, UInt8.toNat_ofNat']
    omega
  rw [LittleEndian.ofBytes_congr fun i _ => hbyte i]
  exact LittleEndian.ofBytes_byte_of_lt id.toNat_lt

theorem sentBytes_take : (sentBytes id flags data len m w).take sizeofCanFrame =
    bytesOf (sentFrame id flags data len m w) sizeofCanFrame := by
  have hmin : min sizeofCanFrame (if 8 < len then sizeofCanfdFrame else sizeofCanFrame) =
      sizeofCanFrame := by
    split <;> decide
  rw [sentBytes, bytesOf, bytesOf, ← List.map_take, List.take_range, hmin]

/-- A transmission puts the bytes of the frame on the wire. -/
theorem prvSend_wire (h : (prvSend self id flags data len m w).1 ≠ -1) :
    (prvSend self id flags data len m w).2.wire =
      w.wire ++ [((m.device self).fd, sentBytes id flags data len m w)] := by
  rw [prvSend_eq, Bus.write] at h ⊢
  split
  · rfl
  · rename_i hfail
    rw [if_neg hfail] at h
    exact absurd rfl h

end

/-! ## What is read -/

/-- The local structure of `prv_poll` after the read. -/
def polledFrame (self : Ptr) (s : Stack Bus) : Bytes :=
  let bytes := (s.world.read (s.mem.device self).fd sizeofCanFrame).1
  s.world.stack.splice 0 bytes.length fun i => bytes.getD i 0

/-- `prv_poll` on `self` calls `xcan_stack_recv` with these arguments. -/
def PollReceives (s : Stack Bus) (self : Ptr) (id : UInt32) (flags len : UInt8)
    (payload : List UInt8) : Prop :=
  ∃ s' c, prvPoll self s = some (0, s') ∧ s'.recvs = s.recvs ++ [c] ∧ c.dev = self ∧
    c.canId = id ∧ c.flags = flags ∧ c.len = len ∧ c.payload = payload

theorem pollReceives_iff {s : Stack Bus} {self : Ptr} {id : UInt32} {flags len : UInt8}
    {payload : List UInt8} :
    PollReceives s self id flags len payload ↔
      CanfdFrame.canId (polledFrame self s) = id ∧
      CanfdFrame.flags (polledFrame self s) = flags ∧
      CanfdFrame.len (polledFrame self s) = len ∧
      bytesOf (CanfdFrame.data (polledFrame self s))
        (CanfdFrame.len (polledFrame self s)).toNat = payload := by
  constructor
  · rintro ⟨s', c, hpoll, hrecvs, -, rfl, rfl, rfl, rfl⟩
    cases hpoll
    obtain rfl := List.singleton_inj.mp (List.append_cancel_left hrecvs)
    exact ⟨rfl, rfl, rfl, rfl⟩
  · rintro ⟨rfl, rfl, rfl, rfl⟩
    exact ⟨_, _, rfl, rfl, rfl, rfl, rfl, rfl, rfl⟩

/-- The next datagram for `self` is the one written last. -/
def Delivered (w : Bus) (s : Stack Bus) (self : Ptr) : Prop :=
  ∃ fd bytes rest, w.wire.getLast? = some (fd, bytes) ∧
    s.world.inbox (s.mem.device self).fd = bytes :: rest

section
variable {self reader : Ptr} {id : UInt32} {flags : UInt8} {data : BytePtr} {len : UInt8}
  {m : Mem} {w : Bus} {s : Stack Bus}

/-- Of a frame that was sent, the first 16 bytes are read. -/
theorem polledFrame_of_delivered (h : (prvSend self id flags data len m w).1 ≠ -1)
    (hs : Delivered (prvSend self id flags data len m w).2 s reader) (i : Nat) :
    polledFrame reader s i =
      if i < sizeofCanFrame then sentFrame id flags data len m w i else s.world.stack i := by
  obtain ⟨fd, bytes, rest, hlast, hinbox⟩ := hs
  rw [prvSend_wire self id flags data len m w h, List.getLast?_append,
    List.getLast?_singleton, Option.some_or, Option.some_inj] at hlast
  obtain rfl : sentBytes id flags data len m w = bytes := congrArg Prod.snd hlast
  have hread : (s.world.read (s.mem.device reader).fd sizeofCanFrame).1 =
      bytesOf (sentFrame id flags data len m w) sizeofCanFrame := by
    rw [Bus.read, hinbox, List.headI_cons, sentBytes_take]
  simp only [polledFrame, hread, Bytes.splice, bytesOf, List.length_map,
    List.length_range, Nat.zero_le, true_and, Nat.zero_add, Nat.sub_zero]
  split
  · rename_i hi
    simp [List.getD, hi]
  · rfl

/-- Identifier, length and flags arrive whatever the length. -/
theorem polled_header (h : (prvSend self id flags data len m w).1 ≠ -1)
    (hs : Delivered (prvSend self id flags data len m w).2 s reader) :
    CanfdFrame.canId (polledFrame reader s) = id ∧
      CanfdFrame.flags (polledFrame reader s) = flags ∧
      CanfdFrame.len (polledFrame reader s) = len := by
  have hread := polledFrame_of_delivered h hs
  refine ⟨?_, ?_, ?_⟩
  · have hid : ∀ i, i < 4 →
        (polledFrame reader s i).toNat = (Bytes.ofNat id.toNat i).toNat := by
      intro i hi
      rw [hread, if_pos (Nat.lt_trans hi (by decide)), sentFrame_id id flags data len m w hi]
    rw [CanfdFrame.canId, LittleEndian.ofBytes_congr hid, ofBytes_id]
    simp
  · rw [CanfdFrame.flags, hread, if_pos (by decide), sentFrame_flags]
  · rw [CanfdFrame.len, hread, if_pos (by decide), sentFrame_len]

/-- **`prv_poll` inverts `prv_send` up to eight bytes of payload.** A longer
payload is cut off by the read, and the rest of what `xcan_stack_recv` gets is
what the stack of the reader held. -/
theorem send_poll_inverse_iff (hsent : (prvSend self id flags data len m w).1 ≠ -1) :
    (∀ s reader, Delivered (prvSend self id flags data len m w).2 s reader →
        PollReceives s reader id flags len (bytesOf (m.byteAt data) len.toNat)) ↔
      len ≤ 8 := by
  constructor
  · intro hall
    by_contra hlong
    have hlong : 8 < len.toNat := by
      simpa [UInt8.le_iff_toNat_le] using hlong
    -- a reader whose stack differs from the payload at its ninth byte
    let s : Stack Bus :=
      { world :=
          { inbox := fun _ => [sentBytes id flags data len m w]
            stack := fun _ => m.byteAt data 8 + 1 } }
    have hs : Delivered (prvSend self id flags data len m w).2 s 0 :=
      ⟨(m.device self).fd, sentBytes id flags data len m w, [],
        by simp [prvSend_wire self id flags data len m w hsent], rfl⟩
    obtain ⟨-, -, hlen, hpayload⟩ := pollReceives_iff.mp (hall s 0 hs)
    have hbyte := congrArg (·[8]?) hpayload
    simp only [bytesOf, List.getElem?_map, hlen, List.getElem?_range hlong,
      Option.map_some, Option.some_inj, CanfdFrame.data] at hbyte
    rw [polledFrame_of_delivered hsent hs, if_neg (by decide)] at hbyte
    exact absurd hbyte (by simp [s])
  · intro hshort s reader hs
    have hshort : len.toNat ≤ 8 := by
      simpa [UInt8.le_iff_toNat_le] using hshort
    obtain ⟨hid, hflags, hlen⟩ := polled_header hsent hs
    refine pollReceives_iff.mpr ⟨hid, hflags, hlen, ?_⟩
    rw [hlen]
    apply List.map_congr_left
    intro i hi
    have hi : i < len.toNat := List.mem_range.mp hi
    have hread : 8 + i < sizeofCanFrame :=
      Nat.add_lt_add_left (Nat.lt_of_lt_of_le hi hshort) 8
    rw [CanfdFrame.data, polledFrame_of_delivered hsent hs, if_pos hread,
      sentFrame_data id flags data len m w hi]

end

/-- A socket to which frame 7 with eight bytes of payload is sent. -/
theorem send_poll_inverse_iff_eight_bytes :
    (∀ s reader, Delivered (prvSend 1 7 0 { block := some 5 } 8 {} {}).2 s reader →
        PollReceives s reader 7 0 8 (bytesOf (Mem.byteAt {} { block := some 5 }) 8)) ↔
      (8 : UInt8) ≤ 8 :=
  send_poll_inverse_iff (by decide)

/-- Of nine bytes of payload, the last does not arrive. -/
theorem ninth_byte_lost :
    ∃ s reader, Delivered (prvSend 1 7 0 { block := some 5 } 9 {} {}).2 s reader ∧
      ¬ PollReceives s reader 7 0 9 (bytesOf (Mem.byteAt {} { block := some 5 }) 9) := by
  have hsent : (prvSend 1 7 0 { block := some 5 } 9 {} {}).1 ≠ -1 := by decide
  let s : Stack Bus :=
    { world :=
        { inbox := fun _ => [sentBytes 7 0 { block := some 5 } 9 {} {}]
          stack := fun _ => 1 } }
  have hs : Delivered (prvSend 1 7 0 { block := some 5 } 9 {} {}).2 s 0 :=
    ⟨0, sentBytes 7 0 { block := some 5 } 9 {} {}, [], rfl, rfl⟩
  refine ⟨s, 0, hs, ?_⟩
  intro hpoll
  obtain ⟨-, -, -, hpayload⟩ := pollReceives_iff.mp hpoll
  exact absurd hpayload (by decide)

end XcanRouter
