import XcanRouter.Queue

/-!
# PDUs of the framework gateway

The functions of `_old/Framework` that work on one PDU between two queue
operations (can.c, pdu_router.c, ecu.c, gateway.c). A PDU is a value of three
fields; its `data` points to a copy of the payload of the frame it was built
from, and travels with it by value.
-/

namespace XcanRouter

/-! ## Identifiers (pdu_router.h) -/

def pduIdMaskTypeData : UInt32 := 0x10000000
def pduIdMaskTypeCmd : UInt32 := 0x08000000
def pduIdMaskTypeFw : UInt32 := 0x04000000
def pduIdMaskEcuId : UInt32 := 0x000000FF

/-- The kinds of PDU that `PDU_Task` tells apart. -/
inductive PduType where
  | normal
  | command
  | firmware
  | unknown
deriving DecidableEq, Repr

/-- The chain of tests in `PDU_Task`: the bits may overlap, and the first of
them that is set decides. -/
def pduType (id : UInt32) : PduType :=
  if id &&& pduIdMaskTypeData ≠ 0 then .normal
  else if id &&& pduIdMaskTypeCmd ≠ 0 then .command
  else if id &&& pduIdMaskTypeFw ≠ 0 then .firmware
  else .unknown

theorem pduType_eq_normal {id : UInt32} :
    pduType id = .normal ↔ id &&& pduIdMaskTypeData ≠ 0 := by
  unfold pduType
  split <;> rename_i hdata
  · simp [hdata]
  · split
    · simp [hdata]
    · split <;> simp [hdata]

theorem pduType_eq_command {id : UInt32} :
    pduType id = .command ↔
      id &&& pduIdMaskTypeData = 0 ∧ id &&& pduIdMaskTypeCmd ≠ 0 := by
  unfold pduType
  split <;> rename_i hdata
  · simp [hdata]
  · have hdata' : id &&& pduIdMaskTypeData = 0 := Decidable.of_not_not hdata
    split <;> rename_i hcmd
    · simp [hdata', hcmd]
    · split <;> simp [hcmd]

/-! ## Data -/

/-- `can_message_t` of the CAN driver: `data` is the array and what lies
behind it. -/
structure CanMessage where
  id : UInt32
  length : UInt8
  data : Bytes

/-- The payload of a frame. -/
def CanMessage.payload (frame : CanMessage) : List UInt8 :=
  (List.range frame.length.toNat).map frame.data

/-- `PDU` (pdu_router.h). -/
structure Pdu where
  id : UInt32 := 0
  length : UInt8 := 0
  data : Option Ptr := none
deriving DecidableEq, Repr

/-- `pdu->data + i` -/
def Pdu.byte (pdu : Pdu) (i : Nat) : BytePtr := { block := pdu.data, offset := i }

/-- `PDU_Desc` (pdu_router.h), without its label. -/
structure PduDesc where
  destCount : UInt8
  dest : Nat → UInt8

/-- The entries of the list of destinations, in its order. -/
def PduDesc.dests (desc : PduDesc) : List UInt8 :=
  (List.range desc.destCount.toNat).map desc.dest

/-- `ECU` (ecu.h), a word of bit-fields. -/
structure Ecu where
  status : BitVec 4 := 0
  endianness : BitVec 1 := 0
  security : BitVec 1 := 0
  protocol : BitVec 4 := 0
  peripheral : BitVec 4 := 0
  fwVersion : BitVec 8 := 0
  reserved : BitVec 10 := 0
deriving DecidableEq, Repr

def sizeofEcu : Nat := 4

/-- The field `instance`, of type `uint32_t` as an argument. -/
def Ecu.instIdx (ecu : Ecu) : UInt32 := UInt32.ofNat ecu.peripheral.toNat

def protocolCan : BitVec 4 := 2
def ecuCmdReqAll : UInt8 := 1
def ecuCmdReqFwver : UInt8 := 3
def ecuCmdReqStatus : UInt8 := 4

/-- What config.h and the compiler fix. The tables are functions: outside of
their bounds they have whatever lies behind them. -/
structure Config where
  numOfEcus : Nat
  numOfPduTypes : Nat
  pduDescriptors : UInt32 → PduDesc
  /-- How the compiler lays the bit-fields of `ECU` out over its bytes. -/
  ecuOfBytes : Bytes → Ecu

/-- `ecu_list` as ecu_table.c sets it up. -/
def ecuTable (ecuId : UInt8) : Ecu :=
  if ecuId < 4 then
    { protocol := protocolCan
      peripheral := ecuId.toBitVec.setWidth 4
      fwVersion := 1 }
  else
    {}

/-- `PDU_Descriptors` (pdu_table.c). -/
def pduTable (pduId : UInt32) : PduDesc :=
  if pduId = 2 ∨ pduId = 3 then { destCount := 2, dest := fun i => [3, 0].getD i 0 }
  else if pduId < 5 then { destCount := 2, dest := fun i => [3, 2].getD i 0 }
  else { destCount := 0, dest := fun _ => 0 }

/-- The configuration in config.h, with the bit-fields of a big-endian target. -/
def frameworkConfig : Config where
  numOfEcus := 4
  numOfPduTypes := 5
  pduDescriptors := pduTable
  ecuOfBytes bytes :=
    { status := (bytes 0).toBitVec.extractLsb' 4 4
      endianness := (bytes 0).toBitVec.extractLsb' 3 1
      security := (bytes 0).toBitVec.extractLsb' 2 1
      protocol := ((bytes 0).toBitVec ++ (bytes 1).toBitVec).extractLsb' 6 4
      peripheral := (bytes 1).toBitVec.extractLsb' 2 4
      fwVersion := ((bytes 1).toBitVec ++ (bytes 2).toBitVec).extractLsb' 2 8
      reserved := ((bytes 2).toBitVec ++ (bytes 3).toBitVec).extractLsb' 0 10 }

/-- The arguments of a `CAN_SendBlocking`, with the bytes of the payload. -/
structure CanSend where
  instIdx : UInt32
  id : UInt32
  length : UInt8
  payload : List UInt8
deriving DecidableEq, Repr

/-! ## Functions -/

/-- `malloc(n)`: a fresh block whose contents are what they were. -/
def malloc (n : Nat) : MemOp (Option Ptr) :=
  fun m =>
    if m.heap.oom m.heap.calls then (none, m.setHeap m.heap.refuse)
    else (some m.heap.brk, m.setHeap (m.heap.grant n))

/-- `CAN_buildPDU` from the allocation up to the send, once the queue was
seen to have room. -/
def canBuildPdu (frame : CanMessage) : MemOp Pdu := do
  let data ← malloc frame.length.toNat
  memcpy { block := data } frame.data frame.length.toNat
  return { id := frame.id, length := frame.length, data := data }

/-- `PDU_discardPDU`: a `free` in a critical section. -/
def pduDiscardPdu (pdu : Pdu) : MemOp Unit := xcanFree pdu.data

/-- `PDU_printPDU` without the console: it reads the payload byte by byte. -/
def pduPrintPdu (pdu : Pdu) : MemOp Unit :=
  (List.range pdu.length.toNat).forM fun i => do
    let _ ← loadByte (pdu.byte i)

/-- The message that `CAN_sendFrame` builds from `len` bytes of `src`. -/
def sendMsg (peripheral messageId : UInt32) (src : Bytes) (len : UInt32) : CanSend where
  instIdx := peripheral
  id := messageId
  length := len.toUInt8
  payload := (List.range len.toNat).map src

/-- `CAN_sendFrame` -/
def canSendFrame (peripheral messageId : UInt32) (data : BytePtr) (len : UInt32) :
    MemOp CanSend := do
  return sendMsg peripheral messageId (← loadBytes data len.toNat) len

/-- `ECU_sendPDU`. `LIN_sendFrame` sends nothing. -/
def ecuSendPdu (ecuList : UInt8 → Ecu) (ecuId : UInt8) (pdu : Pdu) :
    MemOp (Option CanSend) := do
  if (ecuList ecuId).protocol = protocolCan then
    let msg ← canSendFrame (ecuList ecuId).instIdx pdu.id (pdu.byte 0) pdu.length.toUInt32
    return some msg
  else
    return none

/-- `GW_parsePDU` -/
def gwParsePdu (cfg : Config) (ecuList : UInt8 → Ecu) (pdu : Pdu) :
    MemOp (UInt8 → Ecu) := do
  let ecuId := (pdu.id &&& pduIdMaskEcuId).toUInt8
  let cmd ← loadByte (pdu.byte 0)
  if cmd = ecuCmdReqAll then
    let ecu ← loadBytes (pdu.byte 0) sizeofEcu
    return Function.update ecuList ecuId (cfg.ecuOfBytes ecu)
  else if cmd = ecuCmdReqFwver then
    let v ← loadByte (pdu.byte 1)
    return Function.update ecuList ecuId { ecuList ecuId with fwVersion := v.toBitVec }
  else if cmd = ecuCmdReqStatus then
    let v ← loadByte (pdu.byte 1)
    return Function.update ecuList ecuId
      { ecuList ecuId with status := v.toBitVec.setWidth 4 }
  else
    return ecuList

/-! ## What they do to memory -/

/-- No access went to a block that had been freed. -/
def Mem.NoneDead (m : Mem) : Prop := ∀ x ∈ m.log, x.dead = false

/-- A statement that only reads, and only from block `b`. -/
structure MemOp.ReadsBlock {α : Type} (x : MemOp α) (b : Ptr) : Prop where
  reads : ∀ m, ReadsOnly m (x m).2
  noneDead : ∀ m, b ∉ m.heap.frees → m.NoneDead → (x m).2.NoneDead

theorem Mem.NoneDead.touch {m : Mem} {b : Ptr} (h : m.NoneDead) (hb : b ∉ m.heap.frees)
    (offset size : Nat) : (m.touch (some b) offset size).NoneDead := by
  intro x hx
  rw [Mem.touch_log, List.mem_append, List.mem_singleton] at hx
  cases hx with
  | inl hx => exact h x hx
  | inr hx =>
      rw [hx]
      simpa using hb

section
variable {α β : Type} {b : Ptr} {pdu : Pdu}

theorem readsBlock_pure (a : α) : (pure a : MemOp α).ReadsBlock b := by
  constructor
  · intro m
    exact ReadsOnly.refl m
  · intro m _ h
    exact h

theorem MemOp.ReadsBlock.bind {x : MemOp α} {k : α → MemOp β} (hx : x.ReadsBlock b)
    (hk : ∀ a, (k a).ReadsBlock b) : (x >>= k).ReadsBlock b := by
  constructor
  · intro m
    exact (hx.reads m).trans ((hk _).reads _)
  · intro m hb h
    have hb' : b ∉ (x m).2.heap.frees := by rwa [(hx.reads m).heap]
    exact (hk _).noneDead _ hb' (hx.noneDead m hb h)

theorem MemOp.ReadsBlock.ite {c : Prop} [Decidable c] {x y : MemOp α}
    (hx : x.ReadsBlock b) (hy : y.ReadsBlock b) : (if c then x else y).ReadsBlock b := by
  split
  · exact hx
  · exact hy

/-- An access to the block that only notes itself. -/
theorem readsBlock_touch {x : MemOp α} {offset size : Nat}
    (hx : ∀ m, (x m).2 = m.touch (some b) offset size) : x.ReadsBlock b := by
  constructor
  · intro m
    rw [hx]
    exact (ReadsOnly.refl m).touch (some b) offset size
  · intro m hb h
    rw [hx]
    exact h.touch hb offset size

theorem readsBlock_loadByte (hpdu : pdu.data = some b) (i : Nat) :
    (loadByte (pdu.byte i)).ReadsBlock b := by
  apply readsBlock_touch
  intro m
  rw [← hpdu]
  rfl

theorem readsBlock_loadBytes (hpdu : pdu.data = some b) (i n : Nat) :
    (loadBytes (pdu.byte i) n).ReadsBlock b := by
  apply readsBlock_touch
  intro m
  rw [← hpdu]
  rfl

theorem readsBlock_pduPrintPdu (hpdu : pdu.data = some b) :
    (pduPrintPdu pdu).ReadsBlock b := by
  unfold pduPrintPdu
  induction List.range pdu.length.toNat with
  | nil => exact readsBlock_pure ()
  | cons i is ih =>
      have hbyte := (readsBlock_loadByte hpdu i).bind fun _ => readsBlock_pure PUnit.unit
      exact hbyte.bind fun _ => ih

theorem readsBlock_ecuSendPdu (hpdu : pdu.data = some b) (ecuList : UInt8 → Ecu)
    (ecuId : UInt8) : (ecuSendPdu ecuList ecuId pdu).ReadsBlock b := by
  unfold ecuSendPdu
  apply MemOp.ReadsBlock.ite
  · have hsend := (readsBlock_loadBytes hpdu 0 pdu.length.toUInt32.toNat).bind fun src =>
      readsBlock_pure
        (sendMsg (ecuList ecuId).instIdx pdu.id src pdu.length.toUInt32)
    exact hsend.bind fun msg => readsBlock_pure (some msg)
  · exact readsBlock_pure none

theorem readsBlock_gwParsePdu (hpdu : pdu.data = some b) (cfg : Config)
    (ecuList : UInt8 → Ecu) : (gwParsePdu cfg ecuList pdu).ReadsBlock b := by
  unfold gwParsePdu
  apply (readsBlock_loadByte hpdu 0).bind
  intro cmd
  apply MemOp.ReadsBlock.ite
  · exact (readsBlock_loadBytes hpdu 0 sizeofEcu).bind fun _ => readsBlock_pure _
  · apply MemOp.ReadsBlock.ite
    · exact (readsBlock_loadByte hpdu 1).bind fun _ => readsBlock_pure _
    · apply MemOp.ReadsBlock.ite
      · exact (readsBlock_loadByte hpdu 1).bind fun _ => readsBlock_pure _
      · exact readsBlock_pure _

/-- On a heap that has memory, a PDU gets a fresh block with the payload. -/
theorem canBuildPdu_granted {m : Mem} (frame : CanMessage)
    (hoom : m.heap.oom m.heap.calls = false) :
    canBuildPdu frame m =
      ({ id := frame.id, length := frame.length, data := some m.heap.brk },
        ((m.setHeap (m.heap.grant frame.length.toNat)).setBytes m.heap.brk
          ((m.byte m.heap.brk).splice 0 frame.length.toNat frame.data)).touch
            (some m.heap.brk) 0 frame.length.toNat) := by
  simp [canBuildPdu, malloc, memcpy, hoom]

theorem pduDiscardPdu_some {m : Mem} (hpdu : pdu.data = some b) :
    (pduDiscardPdu pdu m).2 = m.setHeap (m.heap.free b) := by
  unfold pduDiscardPdu
  rw [hpdu]
  rfl

end

end XcanRouter
