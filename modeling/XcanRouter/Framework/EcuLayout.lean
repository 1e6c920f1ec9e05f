import Mathlib.Tactic.IntervalCases
import XcanRouter.Framework.Pdu

/-!
# The bytes of an ECU record

A record of `ecu_list` leaves the list and comes back to it as raw bytes: it
is overwritten by a `memcpy`, and written to a file and read back from it. Its
fields are those bytes as the compiler lays them out.
-/

namespace XcanRouter

/-- The bytes of a record, under the layout of the configuration: all of them
count, and no others. -/
structure EcuLayout (cfg : Config) where
  bytes : Ecu → Bytes
  ofBytes_bytes : ∀ ecu, cfg.ecuOfBytes (bytes ecu) = ecu
  bytes_ofBytes : ∀ data : Bytes, ∀ i < sizeofEcu, bytes (cfg.ecuOfBytes data) i = data i
  ofBytes_congr : ∀ data data' : Bytes, (∀ i < sizeofEcu, data i = data' i) →
    cfg.ecuOfBytes data = cfg.ecuOfBytes data'

section
variable {cfg : Config} (L : EcuLayout cfg) {ecu : Ecu} {data data' : Bytes}

theorem EcuLayout.ofBytes_eq_iff :
    cfg.ecuOfBytes data = ecu ↔ ∀ i < sizeofEcu, data i = L.bytes ecu i := by
  constructor
  · intro h i hi
    rw [← h, L.bytes_ofBytes data i hi]
  · intro h
    rw [L.ofBytes_congr data (L.bytes ecu) h, L.ofBytes_bytes]

end

/-- The bytes of a record on a big-endian target. -/
def frameworkBytes (ecu : Ecu) : Bytes
  | 0 => UInt8.ofBitVec
      (ecu.status ++ ecu.endianness ++ ecu.security ++ ecu.protocol.extractLsb' 2 2)
  | 1 => UInt8.ofBitVec
      (ecu.protocol.extractLsb' 0 2 ++ ecu.peripheral ++ ecu.fwVersion.extractLsb' 6 2)
  | 2 => UInt8.ofBitVec (ecu.fwVersion.extractLsb' 0 6 ++ ecu.reserved.extractLsb' 8 2)
  | _ => UInt8.ofBitVec (ecu.reserved.extractLsb' 0 8)

theorem frameworkConfig_ofBytes_bytes (ecu : Ecu) :
    frameworkConfig.ecuOfBytes (frameworkBytes ecu) = ecu := by
  obtain ⟨status, endianness, security, protocol, peripheral, fwVersion, reserved⟩ := ecu
  simp only [frameworkConfig, frameworkBytes, Ecu.mk.injEq]
  refine ⟨?_, ?_, ?_, ?_, ?_, ?_, ?_⟩
  -- each field, bit by bit
  all_goals
    apply BitVec.eq_of_getLsbD_eq
    intro i hi
    simp only [BitVec.getLsbD_append, BitVec.getLsbD_extractLsb']
    interval_cases i <;> simp

theorem frameworkConfig_bytes_ofBytes (data : Bytes) (i : Nat) (hi : i < sizeofEcu) :
    frameworkBytes (frameworkConfig.ecuOfBytes data) i = data i := by
  unfold sizeofEcu at hi
  interval_cases i
  -- each byte, bit by bit
  all_goals
    apply UInt8.toBitVec_inj.mp
    apply BitVec.eq_of_getLsbD_eq
    intro k hk
    simp only [frameworkBytes, frameworkConfig, BitVec.getLsbD_append,
      BitVec.getLsbD_extractLsb']
    interval_cases k <;> simp

/-- The layout of `frameworkConfig`. -/
def frameworkLayout : EcuLayout frameworkConfig where
  bytes := frameworkBytes
  ofBytes_bytes := frameworkConfig_ofBytes_bytes
  bytes_ofBytes := frameworkConfig_bytes_ofBytes
  ofBytes_congr data data' h := by
    simp only [frameworkConfig, h 0 (by decide), h 1 (by decide), h 2 (by decide),
      h 3 (by decide)]

end XcanRouter
