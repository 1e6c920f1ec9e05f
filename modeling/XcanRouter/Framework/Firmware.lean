import XcanRouter.Base.Resumption
import XcanRouter.Framework.Pdu

/-!
# The firmware update over CAN (can.c)

`CAN_updateFirmware` talks to the bootloader of one ECU: it sends a request,
waits on `fw_update_queue` for the reply, and goes on when it is the right
one. The waits end with `pdTRUE` or, after a timeout, with `pdFALSE`, and it
is this value that the function returns when it gives up.

FatFs and the security module are not part of the repository. `f_read` may
give less than it was asked for, but it advances by what it gives, and a file
has an end; nothing is used of the encryption.
-/

namespace XcanRouter

/-! ## Constants -/

def pdTrue : Int := 1
def pdFalse : Int := 0
def statusSuccess : Int := 0

def resetCmd : UInt8 := 0xFF
def resetAck : UInt8 := 0xC4
def beginSec : UInt8 := 0xFC
def beginNonsec : UInt8 := 0xFA
def frameAck : UInt8 := 0xC3
def endCmd : UInt8 := 0xFD
def endAck : UInt8 := 0xC1

def fwDataSize : Nat := 48
def fwCmacSize : Nat := 16
def msgSize : UInt32 := 64

/-! ## What the function calls -/

inductive FwCall where
  /-- `CAN_sendFrame`, with the message it builds. -/
  | send (msg : CanSend)
  /-- `xQueueReceive(fw_update_queue, &pdu, TIMEOUT)` -/
  | receive
  | loadByte (p : BytePtr)
  | loadBytes (p : BytePtr) (n : Nat)
  /-- `free(pdu.data)` -/
  | free (pdu : Pdu)

@[reducible] def FwCall.Ans : FwCall → Type
  | .send _ => Unit
  | .receive => Option Pdu
  | .loadByte _ => UInt8
  | .loadBytes _ _ => Bytes
  | .free _ => Unit

abbrev FwProg := Resumption FwCall FwCall.Ans

def FwProg.send (msg : CanSend) : FwProg Unit := Resumption.perform (FwCall.send msg)

def FwProg.loadByte (p : BytePtr) : FwProg UInt8 := Resumption.perform (FwCall.loadByte p)

def FwProg.loadBytes (p : BytePtr) (n : Nat) : FwProg Bytes :=
  Resumption.perform (FwCall.loadBytes p n)

def FwProg.free (pdu : Pdu) : FwProg Unit := Resumption.perform (FwCall.free pdu)

/-- `xQueueReceive`: its return value and the local `pdu`, which a timeout
leaves alone. -/
def FwProg.receive (pdu : Pdu) : FwProg (Int × Pdu) :=
  .call FwCall.receive fun
    | none => .done (pdFalse, pdu)
    | some received => .done (pdTrue, received)

section
variable {α : Type}

@[simp] theorem FwProg.send_bind (msg : CanSend) (f : Unit → FwProg α) :
    FwProg.send msg >>= f = .call (FwCall.send msg) f := by
  apply Resumption.perform_bind

@[simp] theorem FwProg.loadByte_bind (p : BytePtr) (f : UInt8 → FwProg α) :
    FwProg.loadByte p >>= f = .call (FwCall.loadByte p) f := by
  apply Resumption.perform_bind

@[simp] theorem FwProg.loadBytes_bind (p : BytePtr) (n : Nat) (f : Bytes → FwProg α) :
    FwProg.loadBytes p n >>= f = .call (FwCall.loadBytes p n) f := by
  apply Resumption.perform_bind

@[simp] theorem FwProg.free_bind (pdu : Pdu) (f : Unit → FwProg α) :
    FwProg.free pdu >>= f = .call (FwCall.free pdu) f := by
  apply Resumption.perform_bind

@[simp] theorem FwProg.receive_bind (pdu : Pdu) (f : Int × Pdu → FwProg α) :
    FwProg.receive pdu >>= f = .call FwCall.receive fun r : Option Pdu =>
      r.elim (f (pdFalse, pdu)) fun received => f (pdTrue, received) := by
  show Resumption.call FwCall.receive _ = _
  congr
  funext r
  cases r <;> rfl

end

/-- What an `f_read` gives: the bytes, their number and the file after it. -/
structure FRead (Fil : Type) where
  data : Bytes
  br : Nat
  fil : Fil

/-- The code that the update uses from outside of the repository. -/
structure Platform where
  /-- An open file at a position. -/
  Fil : Type
  fRead : Fil → Nat → FRead Fil
  /-- The bytes from the position to the end of the file. -/
  remaining : Fil → Nat
  read_le : ∀ fw n, (fRead fw n).br ≤ n
  read_remaining : ∀ fw n, remaining (fRead fw n).fil + (fRead fw n).br ≤ remaining fw
  /-- `SECURITY_EncryptCbcBlocking`: plain text, its length and the vector. -/
  encryptCbc : Bytes → Nat → Bytes → Bytes

/-! ## The function -/

/-- The wait for a reply that starts with `flag`, the same one three times. -/
def awaitAck (flag : UInt8) (pdu : Pdu) (next : Pdu → FwProg Int) : FwProg Int := do
  let (stat, pdu) ← FwProg.receive pdu
  if stat ≠ pdTrue then
    return stat
  if (← FwProg.loadByte (pdu.byte 0)) ≠ flag then
    return stat
  FwProg.free pdu
  next pdu

/-- A message of the one byte `buffer[0] = flag`. -/
def sendFlag (interface msgId : UInt32) (buffer : Bytes) (flag : UInt8) : FwProg Unit :=
  FwProg.send (sendMsg interface msgId (Function.update buffer 0 flag) 1)

/-- The buffer of one firmware frame: what was read, padded with zeros, and
behind it the random number, all of it encrypted. -/
def Platform.fwFrame (P : Platform) (buffer rnd : Bytes) (read : FRead P.Fil) : Bytes :=
  let buffer := buffer.splice 0 read.br read.data
  let buffer := buffer.splice read.br (fwDataSize - read.br) fun _ => 0
  let buffer := buffer.splice fwDataSize fwCmacSize rnd
  P.encryptCbc buffer msgSize.toNat fun _ => 0

/-- Step 6. -/
def sendEnd (interface msgId : UInt32) (buffer : Bytes) (pdu : Pdu) : FwProg Int := do
  sendFlag interface msgId buffer endCmd
  awaitAck endAck pdu fun _ => return statusSuccess

/-- Step 5, from an `f_read` on. -/
def sendFirmware (P : Platform) (interface msgId : UInt32) (rnd buffer : Bytes) (pdu : Pdu)
    (fw : P.Fil) : FwProg Int :=
  if _hbr : (P.fRead fw fwDataSize).br ≠ 0 then do
    let buffer := P.fwFrame buffer rnd (P.fRead fw fwDataSize)
    FwProg.send (sendMsg interface msgId buffer msgSize)
    awaitAck frameAck pdu fun pdu =>
      sendFirmware P interface msgId rnd buffer pdu (P.fRead fw fwDataSize).fil
  else
    sendEnd interface msgId buffer pdu
termination_by P.remaining fw
decreasing_by
  have := P.read_remaining fw fwDataSize
  omega

/-- Step 4: the reply to the begin request, a random number or `0xFF`. -/
def awaitChallenge (secureUpdate : Bool) (pdu : Pdu) (next : Bytes → Pdu → FwProg Int) :
    FwProg Int := do
  let (stat, pdu) ← FwProg.receive pdu
  if stat ≠ pdTrue then
    return stat
  if secureUpdate then
    let rnd ← FwProg.loadBytes (pdu.byte 0) fwCmacSize
    FwProg.free pdu
    next rnd pdu
  else
    if (← FwProg.loadByte (pdu.byte 0)) ≠ 0xFF then
      return stat
    FwProg.free pdu
    next (fun _ => 0) pdu

/-- `CAN_updateFirmware`. The buffer starts without defined contents; what is
sent of it was written before. -/
def canUpdateFirmware (P : Platform) (ecuList : UInt8 → Ecu) (ecuId : UInt8) (fw : P.Fil)
    (secureUpdate : Bool) : FwProg Int := do
  let msgId := pduIdMaskTypeFw ||| ecuId.toUInt32
  let interface := (ecuList ecuId).instIdx
  let buffer : Bytes := fun _ => 0
  -- 1, 2
  sendFlag interface msgId buffer resetCmd
  awaitAck resetAck {} fun pdu => do
    -- 3, 4
    let begin := if secureUpdate then beginSec else beginNonsec
    sendFlag interface msgId buffer begin
    awaitChallenge secureUpdate pdu fun rnd pdu =>
      sendFirmware P interface msgId rnd (Function.update buffer 0 begin) pdu fw

/-! ## One update on its own -/

/-- What an update does and sees, in order. -/
inductive FwEvent where
  | sent (msg : CanSend)
  | got (reply : Option CanMessage)

/-- The world of one update: `outcomes` is what its receives will give. -/
structure FwRun where
  mem : Mem
  outcomes : Nat → Option CanMessage
  received : Nat := 0
  log : List FwEvent := []

/-- A receive. A PDU has a block of its own, with the payload and whatever
lies behind it. -/
def FwRun.receive (s : FwRun) : Option Pdu × FwRun :=
  match s.outcomes s.received with
  | none => (none, { s with received := s.received + 1, log := s.log ++ [.got none] })
  | some frame =>
    (some { id := frame.id, length := frame.length, data := some s.mem.heap.brk },
      { s with
        mem := (s.mem.setHeap (s.mem.heap.grant frame.length.toNat)).setBytes
          s.mem.heap.brk frame.data
        received := s.received + 1
        log := s.log ++ [.got (some frame)] })

def FwRun.handle : (c : FwCall) → FwRun → c.Ans × FwRun
  | .send msg, s => ((), { s with log := s.log ++ [.sent msg] })
  | .receive, s => s.receive
  | .loadByte p, s => ((loadByte p s.mem).1, { s with mem := (loadByte p s.mem).2 })
  | .loadBytes p n, s => ((loadBytes p n s.mem).1, { s with mem := (loadBytes p n s.mem).2 })
  | .free pdu, s => ((), { s with mem := (pduDiscardPdu pdu s.mem).2 })

section
variable {α : Type} (s : FwRun)

/-- The PDU of the next reply. -/
def FwRun.pdu (reply : CanMessage) : Pdu :=
  { id := reply.id, length := reply.length, data := some s.mem.heap.brk }

/-- After a request that was answered. -/
def FwRun.answered (msg : CanSend) (reply : CanMessage) : FwRun :=
  { s with
    mem := (s.mem.setHeap (s.mem.heap.grant reply.length.toNat)).setBytes
      s.mem.heap.brk reply.data
    received := s.received + 1
    log := s.log ++ [.sent msg, .got (some reply)] }

/-- After a request and a timeout. -/
def FwRun.unanswered (msg : CanSend) : FwRun :=
  { s with
    received := s.received + 1
    log := s.log ++ [.sent msg, .got none] }

theorem FwRun.exec_request (msg : CanSend) (f : Option Pdu → FwProg α) :
    Resumption.exec FwRun.handle (.call (FwCall.send msg) fun _ => .call FwCall.receive f) s =
      match s.outcomes s.received with
      | none => (f none).exec FwRun.handle (s.unanswered msg)
      | some reply => (f (some (s.pdu reply))).exec FwRun.handle (s.answered msg reply) := by
  rw [Resumption.exec_call, Resumption.exec_call]
  unfold FwRun.handle FwRun.receive
  dsimp only
  cases s.outcomes s.received with
  | none => simp [FwRun.unanswered]
  | some reply => simp [FwRun.answered, FwRun.pdu]

theorem FwRun.byteAt_answered (msg : CanSend) (reply : CanMessage) :
    (s.answered msg reply).mem.byteAt ((s.pdu reply).byte 0) 0 = reply.data 0 := by
  simp [Mem.byteAt, Pdu.byte, FwRun.pdu, FwRun.answered]

theorem FwRun.exec_loadByte (p : BytePtr) (f : UInt8 → FwProg α) :
    Resumption.exec FwRun.handle (.call (FwCall.loadByte p) f) s =
      (f (s.mem.byteAt p 0)).exec FwRun.handle
        { s with mem := s.mem.touch p.block p.offset 1 } := rfl

theorem FwRun.exec_loadBytes (p : BytePtr) (n : Nat) (f : Bytes → FwProg α) :
    Resumption.exec FwRun.handle (.call (FwCall.loadBytes p n) f) s =
      (f (s.mem.byteAt p)).exec FwRun.handle
        { s with mem := s.mem.touch p.block p.offset n } := rfl

theorem FwRun.exec_free (pdu : Pdu) (f : Unit → FwProg α) :
    Resumption.exec FwRun.handle (.call (FwCall.free pdu) f) s =
      (f ()).exec FwRun.handle { s with mem := (pduDiscardPdu pdu s.mem).2 } := rfl

end

/-- The result of an update and the world after it. -/
def updateFirmware (P : Platform) (ecuList : UInt8 → Ecu) (ecuId : UInt8) (fw : P.Fil)
    (secureUpdate : Bool) (s : FwRun) : Int × FwRun :=
  (canUpdateFirmware P ecuList ecuId fw secureUpdate).exec FwRun.handle s

/-! ## The protocol -/

/-- The requests of an update. -/
inductive Stage where
  | reset
  | begin
  | frame
  | finish
deriving DecidableEq

/-- A message of one byte. -/
def flagMsg (interface msgId : UInt32) (flag : UInt8) : CanSend where
  instIdx := interface
  id := msgId
  length := 1
  payload := [flag]

/-- What is sent at a stage. -/
def Stage.Sends (interface msgId : UInt32) (secureUpdate : Bool) : Stage → CanSend → Prop
  | .reset, msg => msg = flagMsg interface msgId resetCmd
  | .begin, msg =>
    msg = flagMsg interface msgId (if secureUpdate then beginSec else beginNonsec)
  | .frame, msg => msg.instIdx = interface ∧ msg.id = msgId ∧ msg.length = 64
  | .finish, msg => msg = flagMsg interface msgId endCmd

/-- The reply that is awaited at a stage: with `secureUpdate` any challenge.
Otherwise its first byte decides, whatever its length. -/
def Stage.Accepts (secureUpdate : Bool) : Stage → CanMessage → Prop
  | .reset, reply => reply.data 0 = resetAck
  | .begin, reply => secureUpdate = true ∨ reply.data 0 = 0xFF
  | .frame, reply => reply.data 0 = frameAck
  | .finish, reply => reply.data 0 = endAck

/-- A receive that gave the awaited reply. -/
def Stage.Awaited (secureUpdate : Bool) (stage : Stage) (outcome : Option CanMessage) : Prop :=
  ∃ reply, outcome = some reply ∧ stage.Accepts secureUpdate reply

/-- The number of firmware frames: the reads that give something. -/
def Platform.reads (P : Platform) (fw : P.Fil) : Nat :=
  if _hbr : (P.fRead fw fwDataSize).br ≠ 0 then
    P.reads (P.fRead fw fwDataSize).fil + 1
  else
    0
termination_by P.remaining fw
decreasing_by
  have := P.read_remaining fw fwDataSize
  omega

theorem Platform.reads_of_ne {P : Platform} {fw : P.Fil}
    (hbr : (P.fRead fw fwDataSize).br ≠ 0) :
    P.reads fw = P.reads (P.fRead fw fwDataSize).fil + 1 := by
  rw [Platform.reads, dif_pos hbr]

theorem Platform.reads_of_eq {P : Platform} {fw : P.Fil}
    (hbr : (P.fRead fw fwDataSize).br = 0) : P.reads fw = 0 := by
  rw [Platform.reads, dif_neg (not_not_intro hbr)]

/-- The stages of the update with a file. -/
def Platform.stages (P : Platform) (fw : P.Fil) : List Stage :=
  .reset :: .begin :: (List.replicate (P.reads fw) .frame ++ [.finish])

/-- The world after a request and its reply. -/
structure FwRun.Replied (s s' : FwRun) (msg : CanSend) (reply : CanMessage) : Prop where
  outcomes : s'.outcomes = s.outcomes
  received : s'.received = s.received + 1
  log : s'.log = s.log ++ [.sent msg, .got (some reply)]

theorem FwRun.replied (s : FwRun) (msg : CanSend) (reply : CanMessage) (m : Mem) :
    s.Replied { s.answered msg reply with mem := m } msg reply := ⟨rfl, rfl, rfl⟩

theorem sendMsg_flag (interface msgId : UInt32) (buffer : Bytes) (flag : UInt8) :
    sendMsg interface msgId (Function.update buffer 0 flag) 1 =
      flagMsg interface msgId flag := by
  have hrange : List.range (UInt32.toNat 1) = [0] := rfl
  rw [sendMsg, hrange, List.map_singleton, Function.update_self]
  rfl

/-- Files in memory, and a module that encrypts nothing. -/
def memoryPlatform : Platform where
  Fil := List UInt8
  fRead fw n :=
    { data := fun i => fw.getD i 0
      br := min n fw.length
      fil := fw.drop n }
  remaining := List.length
  read_le fw n := Nat.min_le_left n fw.length
  read_remaining fw n := by
    show (fw.drop n).length + min n fw.length ≤ fw.length
    rw [List.length_drop]
    omega
  encryptCbc plain _ _ := plain

end XcanRouter
