import XcanRouter.Base.Runs
import XcanRouter.Framework.EcuLayout

/-!
# The responses of ECUs

A response is a command PDU: the command that it answers, and behind it what
was asked for. `GW_parsePDU` takes it over into the entry of the ECU.
-/

namespace XcanRouter

/-! ## What the code does -/

/-- The ECU that a command PDU is about. -/
def Pdu.ecuId (pdu : Pdu) : UInt8 := (pdu.id &&& pduIdMaskEcuId).toUInt8

/-- The entry that `GW_parsePDU` makes of an entry and a payload. -/
def parsedEcu (cfg : Config) (data : Bytes) (ecu : Ecu) : Ecu :=
  if data 0 = ecuCmdReqAll then cfg.ecuOfBytes data
  else if data 0 = ecuCmdReqFwver then { ecu with fwVersion := (data 1).toBitVec }
  else if data 0 = ecuCmdReqStatus then { ecu with status := (data 1).toBitVec.setWidth 4 }
  else ecu

section
variable {cfg : Config} {ecuList : UInt8 → Ecu} {pdu : Pdu} {m : Mem}

theorem loadByte_byte (m : Mem) (pdu : Pdu) (i : Nat) :
    loadByte (pdu.byte i) m = (m.byteAt (pdu.byte 0) i, m.touch pdu.data i 1) := by
  simp [loadByte, Mem.byteAt, Pdu.byte]

/-- **`GW_parsePDU` works on one entry.** -/
theorem gwParsePdu_eq (cfg : Config) (ecuList : UInt8 → Ecu) (pdu : Pdu) (m : Mem) :
    (gwParsePdu cfg ecuList pdu m).1 = Function.update ecuList pdu.ecuId
      (parsedEcu cfg (m.byteAt (pdu.byte 0)) (ecuList pdu.ecuId)) := by
  unfold gwParsePdu parsedEcu
  rw [MemOp.bind_apply, loadByte_byte]
  dsimp only
  repeat' split
  · rfl
  · rw [MemOp.bind_apply, loadByte_byte]
    rfl
  · rw [MemOp.bind_apply, loadByte_byte]
    rfl
  · exact (Function.update_eq_self _ _).symm

theorem gwParsePdu_of_ne {ecuId : UInt8} (h : ecuId ≠ pdu.ecuId) :
    (gwParsePdu cfg ecuList pdu m).1 ecuId = ecuList ecuId := by
  rw [gwParsePdu_eq, Function.update_of_ne h]

end

/-! ## What was reported -/

/-- `ecu_status` (ecu.h) -/
inductive EcuStatus where
  | normal
  | sleeping
  | updating
  | corrupted
  | unresponsive
  | fault
deriving DecidableEq

/-- The constant of a status. -/
def EcuStatus.value : EcuStatus → UInt8
  | .normal => 1
  | .sleeping => 2
  | .updating => 3
  | .corrupted => 4
  | .unresponsive => 5
  | .fault => 6

/-- The status as a field of `ECU`. -/
def EcuStatus.field (status : EcuStatus) : BitVec 4 := BitVec.ofNat 4 status.value.toNat

/-- What an ECU says. -/
inductive Response where
  /-- Its whole record. -/
  | all (ecu : Ecu)
  | fwver (version : UInt8)
  | status (value : EcuStatus)
  /-- The answer to any other command, with its arguments. -/
  | other (cmd : UInt8) (args : List UInt8)
      (hcmd : cmd ≠ ecuCmdReqAll ∧ cmd ≠ ecuCmdReqFwver ∧ cmd ≠ ecuCmdReqStatus)

/-- The payload: a command byte and its arguments. -/
def Response.payload {cfg : Config} (L : EcuLayout cfg) : Response → List UInt8
  | .all ecu => ecuCmdReqAll :: bytesOf (L.bytes ecu) sizeofEcu
  | .fwver version => [ecuCmdReqFwver, version]
  | .status value => [ecuCmdReqStatus, value.value]
  | .other cmd args _ => cmd :: args

/-- What becomes known of the ECU. -/
def Response.reported : Response → Ecu → Ecu
  | .all record, _ => record
  | .fwver version, ecu => { ecu with fwVersion := version.toBitVec }
  | .status value, ecu => { ecu with status := value.field }
  | .other _ _ _, ecu => ecu

/-- A response at the time that it is parsed. -/
structure ResponsePdu where
  mem : Mem
  pdu : Pdu
  response : Response

/-- It is from an ECU of the list, and its payload starts with the response. -/
structure ResponsePdu.WellFormed {cfg : Config} (L : EcuLayout cfg) (r : ResponsePdu) :
    Prop where
  ecuId : r.pdu.ecuId.toNat < cfg.numOfEcus
  length : (r.response.payload L).length ≤ r.pdu.length.toNat
  data : ∀ i, (h : i < (r.response.payload L).length) →
    r.mem.byteAt (r.pdu.byte 0) i = (r.response.payload L)[i]

/-- The list after a response. -/
def parseResponse (cfg : Config) (ecuList : UInt8 → Ecu) (r : ResponsePdu) : UInt8 → Ecu :=
  (gwParsePdu cfg ecuList r.pdu r.mem).1

/-- The entry of the ECU is what the response reports, and the other ones are
as they were. -/
def Decodes (cfg : Config) (ecuList : UInt8 → Ecu) (r : ResponsePdu) : Prop :=
  parseResponse cfg ecuList r =
    Function.update ecuList r.pdu.ecuId (r.response.reported (ecuList r.pdu.ecuId))

/-- A record that is the same when it is read from the command byte on. -/
def Response.Unshifted {cfg : Config} (L : EcuLayout cfg) : Response → Prop
  | .all ecu => ∀ i < sizeofEcu, L.bytes ecu i = ecuCmdReqAll
  | _ => True

section
variable {cfg : Config} {L : EcuLayout cfg} {ecuList : UInt8 → Ecu} {r : ResponsePdu}

theorem EcuStatus.setWidth_value (status : EcuStatus) :
    status.value.toBitVec.setWidth 4 = status.field := by
  cases status <;> rfl

/-- The record of a shifted response. -/
theorem parsedEcu_all {data : Bytes} {record ecu : Ecu} (hcmd : data 0 = ecuCmdReqAll)
    (hargs : ∀ i < sizeofEcu, data (i + 1) = L.bytes record i) :
    parsedEcu cfg data ecu = record ↔ ∀ i < sizeofEcu, L.bytes record i = ecuCmdReqAll := by
  unfold parsedEcu
  rw [if_pos hcmd, L.ofBytes_eq_iff]
  constructor
  · intro h i hi
    -- the bytes of the record are those before them
    induction i with
    | zero => rw [← h 0 hi, hcmd]
    | succ i ih =>
        have hi' : i < sizeofEcu := Nat.lt_of_succ_lt hi
        rw [← h (i + 1) hi, hargs i hi', ih hi']
  · intro h i hi
    rw [h i hi]
    cases i with
    | zero => exact hcmd
    | succ i =>
        have hi' : i < sizeofEcu := Nat.lt_of_succ_lt hi
        rw [hargs i hi', h i hi']

/-- The other cases take over what they should. -/
theorem parsedEcu_reported {data : Bytes} {response : Response} {ecu : Ecu}
    (hdata : ∀ i, (h : i < (response.payload L).length) → data i = (response.payload L)[i])
    (hall : ∀ record, response ≠ .all record) :
    parsedEcu cfg data ecu = response.reported ecu := by
  unfold parsedEcu
  cases response with
  | all record => exact absurd rfl (hall record)
  | fwver version =>
      have hcmd : data 0 = ecuCmdReqFwver := hdata 0 (by simp [Response.payload])
      have harg : data 1 = version := hdata 1 (by simp [Response.payload])
      rw [hcmd, harg]
      rfl
  | status value =>
      have hcmd : data 0 = ecuCmdReqStatus := hdata 0 (by simp [Response.payload])
      have harg : data 1 = value.value := hdata 1 (by simp [Response.payload])
      rw [hcmd, harg, value.setWidth_value]
      rfl
  | other cmd args hcmd =>
      have hdata0 : data 0 = cmd := hdata 0 (by simp [Response.payload])
      rw [hdata0, if_neg hcmd.1, if_neg hcmd.2.1, if_neg hcmd.2.2]
      rfl

/-- **One response decodes exactly when** it is not a record, or one that reads
the same from the command byte on. -/
theorem decodes_iff (hwf : r.WellFormed L) :
    Decodes cfg ecuList r ↔ r.response.Unshifted L := by
  have hdata := hwf.data
  rw [Decodes, parseResponse, gwParsePdu_eq, (Function.update_injective _ _).eq_iff]
  cases hr : r.response with
  | all record =>
      rw [hr] at hdata
      show parsedEcu cfg _ _ = record ↔ _
      apply parsedEcu_all
      · exact hdata 0 (by simp [Response.payload])
      · intro i hi
        rw [hdata (i + 1) (by simpa [Response.payload] using hi)]
        simp [Response.payload, bytesOf]
  | _ =>
      have hreported : parsedEcu cfg _ (ecuList r.pdu.ecuId) = r.response.reported _ :=
        parsedEcu_reported hdata fun record => by simp [hr]
      rw [hr] at hreported
      exact ⟨fun _ => trivial, fun _ => hreported⟩

/-- **Responses decode exactly when** every record among them reads the same
from the command byte on. -/
theorem responses_decode_iff (L : EcuLayout cfg) (ecuList : UInt8 → Ecu)
    {rs : List ResponsePdu} (hwf : ∀ r ∈ rs, r.WellFormed L) :
    Runs.Meets (Runs.total (parseResponse cfg)) (Decodes cfg) ecuList rs ↔
      ∀ r ∈ rs, r.response.Unshifted L := by
  have hwf' : Runs.Meets (Runs.total (parseResponse cfg)) (fun _ r => r.WellFormed L)
      ecuList rs := Runs.meets_of_forall hwf
  calc Runs.Meets (Runs.total (parseResponse cfg)) (Decodes cfg) ecuList rs
      ↔ Runs.Meets (Runs.total (parseResponse cfg)) (fun _ r => r.response.Unshifted L)
          ecuList rs := by
        apply Runs.meets_congr (I := fun _ => True) _ _ trivial hwf'
        · intro s r s' _ _ _
          trivial
        · intro s r _ hr
          exact decodes_iff hr
    _ ↔ ∀ r ∈ rs, r.response.Unshifted L := by
        apply Runs.meets_iff_forall (I := fun _ => True) _ trivial hwf'
        intro s r _ _ _
        exact ⟨_, rfl, trivial⟩

end

/-- A response as the interrupt brings it. -/
def ResponsePdu.ofFrame (frame : CanMessage) (response : Response) : ResponsePdu where
  mem := (canBuildPdu frame {}).2
  pdu := (canBuildPdu frame {}).1
  response := response

/-- ECU 2 has version 7, and ECU 3 updates. -/
def versionResponse : ResponsePdu :=
  .ofFrame { id := 0x08000002, length := 2, data := fun i => [3, 7].getD i 0 } (.fwver 7)

def statusResponse : ResponsePdu :=
  .ofFrame { id := 0x08000003, length := 2, data := fun i => [4, 3].getD i 0 }
    (.status .updating)

theorem versionResponse_wellFormed : versionResponse.WellFormed frameworkLayout := by
  constructor <;> decide

theorem statusResponse_wellFormed : statusResponse.WellFormed frameworkLayout := by
  constructor <;> decide

theorem responses_decode_iff_version_status :
    Runs.Meets (Runs.total (parseResponse frameworkConfig)) (Decodes frameworkConfig) ecuTable
        [versionResponse, statusResponse] ↔
      ∀ r ∈ [versionResponse, statusResponse], r.response.Unshifted frameworkLayout := by
  apply responses_decode_iff
  intro r hr
  rcases List.mem_cons.mp hr with rfl | hr
  · exact versionResponse_wellFormed
  · rw [List.mem_singleton.mp hr]
    exact statusResponse_wellFormed

/-- ECU 2 reports its whole record: it is in order, on CAN 2, with version 3. -/
def recordResponse : ResponsePdu :=
  .ofFrame { id := 0x08000002, length := 5, data := fun i => [1, 0x10, 0x88, 0x0C, 0].getD i 0 }
    (.all { status := 1, protocol := protocolCan, peripheral := 2, fwVersion := 3 })

/-- The record is taken over with the command byte in front. -/
theorem record_shifted : recordResponse.WellFormed frameworkLayout ∧
    parseResponse frameworkConfig ecuTable recordResponse 2 =
      { protocol := 4, peripheral := 4, fwVersion := 34, reserved := 12 } ∧
    ¬ Decodes frameworkConfig ecuTable recordResponse := by
  have hwf : recordResponse.WellFormed frameworkLayout := by
    constructor <;> decide
  refine ⟨hwf, by decide, ?_⟩
  rw [decodes_iff hwf]
  intro h
  exact absurd (h 0 (by decide)) (by decide)

end XcanRouter
