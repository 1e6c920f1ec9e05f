import XcanRouter.Base.BigEndian
import XcanRouter.Framework.Firmware

/-!
# Key update messages (hsm_she.c)

The messages M1 to M5 of a key update. The security engine is not part of the
repository: its functions are arguments, and what is used of them is that
decryption inverts encryption under the same key. Its RAM key is the state
that the calls share; an encryption and a MAC use the key that was loaded
last.
-/

namespace XcanRouter

/-- A key, or a block of the cipher. -/
abbrev Block := Vector UInt8 16

/-- The functions of the security engine, and how its calls end. -/
structure SecurityEngine where
  compress : Vector UInt8 32 → Block
  encryptCbc : Block → Block → Vector UInt8 32 → Vector UInt8 32
  decryptCbc : Block → Block → Vector UInt8 32 → Vector UInt8 32
  decryptCbc_encryptCbc : ∀ key iv plain, decryptCbc key iv (encryptCbc key iv plain) = plain
  encryptEcb : Block → Block → Block
  decryptEcb : Block → Block → Block
  decryptEcb_encryptEcb : ∀ key plain, decryptEcb key (encryptEcb key plain) = plain
  mac : Block → List UInt8 → Block
  /-- The status of the `n`-th call. -/
  stat : Nat → Int
  /-- What the `n`-th call leaves in its output buffer when it fails. -/
  left : Nat → (size : Nat) → Vector UInt8 size

structure EngineState where
  /-- The slot `SECURITY_RAM_KEY`. -/
  ramKey : Block
  calls : Nat

abbrev EngineM := StateM EngineState

/-! ## Calls of the engine (security_pal.h) -/

namespace SecurityEngine

variable (E : SecurityEngine)

/-- A call that fills a buffer. -/
def call {size : Nat} (out : Block → Vector UInt8 size) : EngineM (Int × Vector UInt8 size) :=
  fun s =>
    let stat := E.stat s.calls
    ((stat, if stat = statusSuccess then out s.ramKey else E.left s.calls size),
      { s with calls := s.calls + 1 })

/-- `SECURITY_LoadPlainKey` -/
def loadPlainKey (key : Block) : EngineM Int := fun s =>
  let stat := E.stat s.calls
  (stat, { ramKey := if stat = statusSuccess then key else s.ramKey, calls := s.calls + 1 })

/-- `SECURITY_MPCompress` -/
def mpCompress (msg : Vector UInt8 32) : EngineM (Int × Block) :=
  E.call fun _ => E.compress msg

/-- `SECURITY_EncryptCbcBlocking` with `SECURITY_RAM_KEY` -/
def encryptCbcBlocking (plainText : Vector UInt8 32) (iv : Block) :
    EngineM (Int × Vector UInt8 32) :=
  E.call fun ramKey => E.encryptCbc ramKey iv plainText

/-- `SECURITY_EncryptEcbBlocking` with `SECURITY_RAM_KEY` -/
def encryptEcbBlocking (plainText : Block) : EngineM (Int × Block) :=
  E.call fun ramKey => E.encryptEcb ramKey plainText

/-- `SECURITY_GenerateMacBlocking` with `SECURITY_RAM_KEY`; `msgLen` is in
bits. -/
def generateMacBlocking {size : Nat} (msg : Vector UInt8 size) (msgLen : Nat) :
    EngineM (Int × Block) :=
  E.call fun ramKey => E.mac ramKey (msg.toList.take (msgLen / 8))

end SecurityEngine

/-! ## The functions (hsm_she.c) -/

def keyUpdateEncC : Block :=
  #v[0x01, 0x01, 0x53, 0x48, 0x45, 0x00, 0x80, 0x00, 0x00, 0x00, 0x00, 0x00, 0x00, 0x00, 0x00, 0xb0]

def keyUpdateMacC : Block :=
  #v[0x01, 0x02, 0x53, 0x48, 0x45, 0x00, 0x80, 0x00, 0x00, 0x00, 0x00, 0x00, 0x00, 0x00, 0x00, 0xb0]

def gAuthIdKey : Block :=
  #v[0x00, 0x01, 0x02, 0x03, 0x04, 0x05, 0x06, 0x07, 0x08, 0x09, 0x0a, 0x0b, 0x0c, 0x0d, 0x0e, 0x0f]

/-- `KEY_1_VALUE` (config.h) -/
def key1Value : Block :=
  #v[0x6B, 0x65, 0x79, 0x30, 0x6B, 0x65, 0x79, 0x31, 0x6B, 0x65, 0x79, 0x32, 0x6B, 0x65, 0x79, 0x33]

/-- `BOOT_MAC_KEY_VALUE` (config.h) -/
def bootMacKeyValue : Block :=
  #v[0x6B, 0x65, 0x79, 0x30, 0x6B, 0x65, 0x79, 0x31, 0x6B, 0x65, 0x79, 0x32, 0x6B, 0x65, 0x79, 0x33]

structure M1M2M3 where
  m1 : Block
  m2 : Vector UInt8 32
  m3 : Block

structure M4M5 where
  m4 : Vector UInt8 32
  m5 : Block

section
variable (E : SecurityEngine)

/-- `HSM_DeriveKey` -/
def hsmDeriveKey (key constant : Block) : EngineM (Int × Block) :=
  let concat := key ++ constant
  E.mpCompress concat

/-- `HSM_ComputeM1M2M3`; `m` is what the three buffers hold before and after. -/
def hsmComputeM1M2M3 (authKey : Block) (authId keyId : UInt32) (key : Block) (counter : UInt32)
    (uid : Vector UInt8 15) (m : M1M2M3) : EngineM (Int × M1M2M3) := do
  let iv : Block := Vector.replicate 16 0
  -- the status of the derivations is not looked at
  let (_, k1) ← hsmDeriveKey E authKey keyUpdateEncC
  let (_, k2) ← hsmDeriveKey E authKey keyUpdateMacC
  let m1 : Block := uid.push (((keyId &&& 0xF) <<< 4) ||| (authId &&& 0xF)).toUInt8
  let m := { m with m1 }
  let m2Plain : Vector UInt8 32 := (Vector.replicate 16 0 : Block) ++ key
  let m2Plain := m2Plain.set 0 ((counter &&& 0xFF00000) >>> 20).toUInt8
  let m2Plain := m2Plain.set 1 ((counter &&& 0xFF000) >>> 12).toUInt8
  let m2Plain := m2Plain.set 2 ((counter &&& 0xFF0) >>> 4).toUInt8
  let m2Plain := m2Plain.set 3 ((counter &&& 0xF) <<< 4).toUInt8
  let stat ← E.loadPlainKey k1
  if stat ≠ statusSuccess then return (stat, m)
  let (stat, m2) ← E.encryptCbcBlocking m2Plain iv
  let m := { m with m2 }
  if stat ≠ statusSuccess then return (stat, m)
  let m1m2 : Vector UInt8 48 := m1 ++ m2
  let stat ← E.loadPlainKey k2
  if stat ≠ statusSuccess then return (stat, m)
  let (stat, m3) ← E.generateMacBlocking m1m2 384
  let m := { m with m3 }
  if stat ≠ statusSuccess then return (stat, m)
  return (statusSuccess, m)

/-- `HSM_ComputeM4M5` -/
def hsmComputeM4M5 (authId keyId : UInt32) (key : Block) (counter : UInt32)
    (uid : Vector UInt8 15) (m : M4M5) : EngineM (Int × M4M5) := do
  let (_, k3) ← hsmDeriveKey E key keyUpdateEncC
  let (_, k4) ← hsmDeriveKey E key keyUpdateMacC
  let m4StarPlain : Block := Vector.replicate 16 0
  let m4StarPlain := m4StarPlain.set 0 ((counter &&& 0xFF00000) >>> 20).toUInt8
  let m4StarPlain := m4StarPlain.set 1 ((counter &&& 0xFF000) >>> 12).toUInt8
  let m4StarPlain := m4StarPlain.set 2 ((counter &&& 0xFF0) >>> 4).toUInt8
  let m4StarPlain := m4StarPlain.set 3 (((counter &&& 0xF) <<< 4) ||| 0x8).toUInt8
  let stat ← E.loadPlainKey k3
  if stat ≠ statusSuccess then return (stat, m)
  let (stat, m4StarCipher) ← E.encryptEcbBlocking m4StarPlain
  if stat ≠ statusSuccess then return (stat, m)
  let id : Block := uid.push (((keyId &&& 0xF) <<< 4) ||| (authId &&& 0xF)).toUInt8
  let m4 : Vector UInt8 32 := id ++ m4StarCipher
  let m := { m with m4 }
  let stat ← E.loadPlainKey k4
  if stat ≠ statusSuccess then return (stat, m)
  let (stat, m5) ← E.generateMacBlocking m4 256
  let m := { m with m5 }
  if stat ≠ statusSuccess then return (stat, m)
  return (statusSuccess, m)

end

/-! ## Updates and their messages -/

/-- The arguments of an update. -/
structure KeyUpdate where
  authKey : Block
  authId : UInt32
  keyId : UInt32
  key : Block
  counter : UInt32
  uid : Vector UInt8 15
  authId_lt : authId < 16
  keyId_lt : keyId < 16

/-- The key that `HSM_DeriveKey` derives. -/
def SecurityEngine.derived (E : SecurityEngine) (key constant : Block) : Block :=
  E.compress (key ++ constant)

/-- The head of a block with a counter: its 28 bits, and a nibble of flags. -/
def counterBytes (counter flags : UInt32) : List UInt8 :=
  [((counter &&& 0xFF00000) >>> 20).toUInt8, ((counter &&& 0xFF000) >>> 12).toUInt8,
    ((counter &&& 0xFF0) >>> 4).toUInt8, (((counter &&& 0xF) <<< 4) ||| flags).toUInt8]

/-- The plain text of M2. -/
def m2Plain (counter : UInt32) (key : Block) : Vector UInt8 32 :=
  ⟨(counterBytes counter 0 ++ List.replicate 12 0 ++ key.toList).toArray, by simp [counterBytes]⟩

/-- The plain text of M4*. -/
def m4StarPlain (counter : UInt32) : Block :=
  ⟨(counterBytes counter 8 ++ List.replicate 12 0).toArray, by simp [counterBytes]⟩

/-- M1, and the front of M4. -/
def idBlock (uid : Vector UInt8 15) (keyId authId : UInt32) : Block :=
  uid.push (((keyId &&& 0xF) <<< 4) ||| (authId &&& 0xF)).toUInt8

section
variable (E : SecurityEngine) (u : KeyUpdate)

/-- The messages that ask for an update. -/
def KeyUpdate.request : M1M2M3 :=
  let m1 := idBlock u.uid u.keyId u.authId
  let m2 := E.encryptCbc (E.derived u.authKey keyUpdateEncC) (Vector.replicate 16 0)
    (m2Plain u.counter u.key)
  { m1, m2, m3 := E.mac (E.derived u.authKey keyUpdateMacC) (m1.toList ++ m2.toList) }

/-- The messages that confirm an update. -/
def KeyUpdate.answer : M4M5 :=
  let m4 : Vector UInt8 32 := idBlock u.uid u.keyId u.authId ++
    E.encryptEcb (E.derived u.key keyUpdateEncC) (m4StarPlain u.counter)
  { m4, m5 := E.mac (E.derived u.key keyUpdateMacC) m4.toList }

end

/-! ## The functions compute them -/

section
variable {E : SecurityEngine}

variable (hstat : ∀ n, E.stat n = statusSuccess)
include hstat

/-- A call, and what follows it. -/
theorem run_call_bind {size : Nat} {α : Type} (out : Block → Vector UInt8 size)
    (k : Int × Vector UInt8 size → EngineM α) (s : EngineState) :
    (E.call out >>= k).run s =
      (k (statusSuccess, out s.ramKey)).run { s with calls := s.calls + 1 } := by
  show (k (E.stat s.calls, if E.stat s.calls = statusSuccess then _ else _)).run _ = _
  rw [if_pos (hstat s.calls), hstat s.calls]

theorem run_loadPlainKey_bind {α : Type} (key : Block) (k : Int → EngineM α)
    (s : EngineState) :
    (E.loadPlainKey key >>= k).run s =
      (k statusSuccess).run { ramKey := key, calls := s.calls + 1 } := by
  show (k (E.stat s.calls)).run
    (EngineState.mk (if E.stat s.calls = statusSuccess then _ else _) _) = _
  rw [if_pos (hstat s.calls), hstat s.calls]

theorem run_hsmDeriveKey_bind {α : Type} (key constant : Block) (k : Int × Block → EngineM α)
    (s : EngineState) :
    (hsmDeriveKey E key constant >>= k).run s =
      (k (statusSuccess, E.derived key constant)).run { s with calls := s.calls + 1 } :=
  run_call_bind hstat (fun _ => E.compress (key ++ constant)) k s

end

theorem m2Plain_toList (counter : UInt32) (key : Block) :
    (m2Plain counter key).toList =
      counterBytes counter 0 ++ List.replicate 12 0 ++ key.toList := by
  simp [m2Plain]

theorem m4StarPlain_toList (counter : UInt32) :
    (m4StarPlain counter).toList = counterBytes counter 8 ++ List.replicate 12 0 := by
  simp [m4StarPlain]

theorem m2Plain_eq (counter : UInt32) (key : Block) :
    ((((((Vector.replicate 16 0 : Block) ++ key).set 0
      ((counter &&& 0xFF00000) >>> 20).toUInt8).set 1
      ((counter &&& 0xFF000) >>> 12).toUInt8).set 2
      ((counter &&& 0xFF0) >>> 4).toUInt8).set 3
      ((counter &&& 0xF) <<< 4).toUInt8) = m2Plain counter key := by
  apply Vector.toList_inj.mp
  rw [Vector.toList_set, Vector.toList_set, Vector.toList_set, Vector.toList_set,
    Vector.toList_append, Vector.toList_replicate]
  simp [m2Plain, counterBytes, List.replicate]

theorem m4StarPlain_eq (counter : UInt32) :
    (((((Vector.replicate 16 0 : Block).set 0
      ((counter &&& 0xFF00000) >>> 20).toUInt8).set 1
      ((counter &&& 0xFF000) >>> 12).toUInt8).set 2
      ((counter &&& 0xFF0) >>> 4).toUInt8).set 3
      (((counter &&& 0xF) <<< 4) ||| 0x8).toUInt8) = m4StarPlain counter := by
  apply Vector.toList_inj.mp
  simp [m4StarPlain, counterBytes, Vector.toList_set, List.replicate]

section
variable {E : SecurityEngine} (hstat : ∀ n, E.stat n = statusSuccess)
include hstat

theorem hsmComputeM1M2M3_run (u : KeyUpdate) (m : M1M2M3) (s : EngineState) :
    (hsmComputeM1M2M3 E u.authKey u.authId u.keyId u.key u.counter u.uid m).run s =
      ((statusSuccess, u.request E),
        { ramKey := E.derived u.authKey keyUpdateMacC, calls := s.calls + 6 }) := by
  simp only [hsmComputeM1M2M3, m2Plain_eq, run_hsmDeriveKey_bind hstat,
    run_loadPlainKey_bind hstat, SecurityEngine.encryptCbcBlocking,
    SecurityEngine.generateMacBlocking, ne_eq, not_true_eq_false, if_false, run_call_bind hstat]
  rw [List.take_of_length_le (by simp), Vector.toList_append]
  rfl

theorem hsmComputeM4M5_run (u : KeyUpdate) (m : M4M5) (s : EngineState) :
    (hsmComputeM4M5 E u.authId u.keyId u.key u.counter u.uid m).run s =
      ((statusSuccess, u.answer E),
        { ramKey := E.derived u.key keyUpdateMacC, calls := s.calls + 6 }) := by
  simp only [hsmComputeM4M5, m4StarPlain_eq, run_hsmDeriveKey_bind hstat,
    run_loadPlainKey_bind hstat, SecurityEngine.encryptEcbBlocking,
    SecurityEngine.generateMacBlocking, ne_eq, not_true_eq_false, if_false, run_call_bind hstat]
  rw [List.take_of_length_le (by simp)]
  rfl

end

/-! ## Reading the messages -/

namespace M1M2M3

variable (E : SecurityEngine) (m : M1M2M3)

def uid : Vector UInt8 15 := m.m1.pop

def keyId : Nat := m.m1[15].toNat / 16

def authId : Nat := m.m1[15].toNat % 16

/-- M2 in plain text, for who knows the key of the authorisation. -/
def plain (authKey : Block) : List UInt8 :=
  (E.decryptCbc (E.derived authKey keyUpdateEncC) (Vector.replicate 16 0) m.m2).toList

/-- The messages say what update they ask for: M1 the ids, M2 the counter, no
flag and the key, and M3 is their MAC. -/
structure Decodes (u : KeyUpdate) : Prop where
  uid : m.uid = u.uid
  keyId : m.keyId = u.keyId.toNat
  authId : m.authId = u.authId.toNat
  counter : BigEndian.ofBytes ((m.plain E u.authKey).take 16) / 2 ^ 100 =
    u.counter.toNat % 2 ^ 28
  flags : BigEndian.ofBytes ((m.plain E u.authKey).take 16) % 2 ^ 100 = 0
  key : (m.plain E u.authKey).drop 16 = u.key.toList
  mac : m.m3 = E.mac (E.derived u.authKey keyUpdateMacC) (m.m1.toList ++ m.m2.toList)

end M1M2M3

namespace M4M5

variable (E : SecurityEngine) (m : M4M5)

/-- The back of M4 in plain text, for who knows the new key. -/
def plain (key : Block) : List UInt8 :=
  (E.decryptEcb (E.derived key keyUpdateEncC) (m.m4.drop 16)).toList

/-- The messages confirm an update whose first message is `m1`: M4 repeats it
and carries the counter and a set bit, and M5 is the MAC of M4. -/
structure Confirms (u : KeyUpdate) (m1 : Block) : Prop where
  front : m.m4.toList.take 16 = m1.toList
  counter : BigEndian.ofBytes (m.plain E u.key) / 2 ^ 100 = u.counter.toNat % 2 ^ 28
  flags : BigEndian.ofBytes (m.plain E u.key) % 2 ^ 100 = 2 ^ 99
  mac : m.m5 = E.mac (E.derived u.key keyUpdateMacC) m.m4.toList

end M4M5

/-! ## Bytes of a word -/

/-- The byte of a word that starts at bit `k`. -/
theorem byteAt_toNat (c : UInt32) {k : Nat} (hk : k < 25) :
    ((c &&& UInt32.ofNat (255 <<< k)) >>> UInt32.ofNat k).toUInt8.toNat =
      c.toNat / 2 ^ k % 256 := by
  have hmask : 255 <<< k < 2 ^ 32 := by
    rw [Nat.shiftLeft_eq]
    calc 255 * 2 ^ k ≤ 255 * 2 ^ 24 :=
          Nat.mul_le_mul_left _ (Nat.pow_le_pow_right (by omega) (by omega))
      _ < 2 ^ 32 := by decide
  rw [UInt32.toNat_toUInt8, UInt32.toNat_shiftRight, UInt32.toNat_and,
    UInt32.toNat_ofNat_of_lt' hmask, UInt32.toNat_ofNat_of_lt' (by show k < 2 ^ 32; omega),
    Nat.mod_eq_of_lt (show k < 32 by omega), Nat.shiftRight_and_distrib,
    Nat.shiftLeft_shiftRight, Nat.and_two_pow_sub_one_eq_mod _ 8, Nat.shiftRight_eq_div_pow]
  omega

/-- Two nibbles in a byte. -/
theorem nibbles_toNat (a b : UInt32) (hb : b.toNat < 16) :
    (((a &&& 0xF) <<< 4) ||| b).toUInt8.toNat = a.toNat % 16 * 16 + b.toNat := by
  have hhigh : ((a &&& 0xF) <<< 4).toNat = (a.toNat % 16) <<< 4 := by
    rw [UInt32.toNat_shiftLeft, UInt32.toNat_and]
    show (a.toNat &&& 15) <<< 4 % 2 ^ 32 = _
    rw [Nat.and_two_pow_sub_one_eq_mod _ 4, Nat.shiftLeft_eq]
    omega
  rw [UInt32.toNat_toUInt8, UInt32.toNat_or, hhigh, ← Nat.shiftLeft_add_eq_or_of_lt hb,
    Nat.shiftLeft_eq]
  omega

theorem ofBytes_counterBytes (counter flags : UInt32) (hflags : flags.toNat < 16) :
    BigEndian.ofBytes (counterBytes counter flags) =
      counter.toNat % 2 ^ 28 * 16 + flags.toNat := by
  have h₀ : ((counter &&& 0xFF00000) >>> 20).toUInt8.toNat = counter.toNat / 2 ^ 20 % 256 :=
    byteAt_toNat counter (k := 20) (by omega)
  have h₁ : ((counter &&& 0xFF000) >>> 12).toUInt8.toNat = counter.toNat / 2 ^ 12 % 256 :=
    byteAt_toNat counter (k := 12) (by omega)
  have h₂ : ((counter &&& 0xFF0) >>> 4).toUInt8.toNat = counter.toNat / 2 ^ 4 % 256 :=
    byteAt_toNat counter (k := 4) (by omega)
  rw [counterBytes, BigEndian.ofBytes_four, h₀, h₁, h₂, nibbles_toNat counter flags hflags]
  omega

/-- A block that has a counter in front and zeros behind it. -/
theorem ofBytes_counterBlock (counter flags : UInt32) (hflags : flags.toNat < 16) :
    BigEndian.ofBytes (counterBytes counter flags ++ List.replicate 12 0) =
      counter.toNat % 2 ^ 28 * 2 ^ 100 + flags.toNat * 2 ^ 96 := by
  rw [BigEndian.ofBytes_append_zeros, ofBytes_counterBytes counter flags hflags]
  omega

theorem idBlock_uid (uid : Vector UInt8 15) (keyId authId : UInt32) :
    (idBlock uid keyId authId).pop = uid := by
  simp [idBlock]

theorem idBlock_ids (uid : Vector UInt8 15) (keyId authId : UInt32) :
    (idBlock uid keyId authId)[15].toNat = keyId.toNat % 16 * 16 + authId.toNat % 16 := by
  have hlow : (authId &&& 0xF).toNat = authId.toNat % 16 := by
    rw [UInt32.toNat_and]
    exact Nat.and_two_pow_sub_one_eq_mod authId.toNat 4
  rw [idBlock, Vector.getElem_push_eq, nibbles_toNat keyId _ (by omega), hlow]

theorem m2Plain_front (counter : UInt32) (key : Block) :
    BigEndian.ofBytes ((m2Plain counter key).toList.take 16) =
      counter.toNat % 2 ^ 28 * 2 ^ 100 := by
  rw [m2Plain_toList, List.take_left' (by simp [counterBytes]),
    ofBytes_counterBlock counter 0 (by decide)]
  show _ + 0 * 2 ^ 96 = _
  omega

theorem m2Plain_back (counter : UInt32) (key : Block) :
    (m2Plain counter key).toList.drop 16 = key.toList := by
  rw [m2Plain_toList, List.drop_left' (by simp [counterBytes])]

theorem ofBytes_m4StarPlain (counter : UInt32) :
    BigEndian.ofBytes (m4StarPlain counter).toList =
      counter.toNat % 2 ^ 28 * 2 ^ 100 + 2 ^ 99 := by
  rw [m4StarPlain_toList, ofBytes_counterBlock counter 8 (by decide)]
  show _ + 8 * 2 ^ 96 = _
  omega

/-! ## What the messages say -/

section
variable (E : SecurityEngine) (u : KeyUpdate)

theorem request_plain :
    (u.request E).plain E u.authKey = (m2Plain u.counter u.key).toList := by
  show (E.decryptCbc _ _ (E.encryptCbc _ _ _)).toList = _
  rw [E.decryptCbc_encryptCbc]

theorem request_decodes : (u.request E).Decodes E u := by
  have hauthId : u.authId.toNat < 16 := u.authId_lt
  have hkeyId : u.keyId.toNat < 16 := u.keyId_lt
  have hids : (u.request E).m1[15].toNat = u.keyId.toNat * 16 + u.authId.toNat := by
    rw [← Nat.mod_eq_of_lt hauthId, ← Nat.mod_eq_of_lt hkeyId]
    exact idBlock_ids u.uid u.keyId u.authId
  have hfront := m2Plain_front u.counter u.key
  rw [← request_plain E u] at hfront
  exact {
    uid := idBlock_uid u.uid u.keyId u.authId
    keyId := by rw [M1M2M3.keyId, hids]; omega
    authId := by rw [M1M2M3.authId, hids]; omega
    counter := by rw [hfront]; omega
    flags := by rw [hfront]; omega
    key := by rw [request_plain, m2Plain_back]
    mac := rfl }

theorem answer_plain : (u.answer E).plain E u.key = (m4StarPlain u.counter).toList := by
  have hback : (u.answer E).m4.drop 16 =
      E.encryptEcb (E.derived u.key keyUpdateEncC) (m4StarPlain u.counter) := by
    apply Vector.toList_inj.mp
    show (Vector.drop (_ ++ _) 16).toList = _
    rw [Vector.toList_drop, Vector.toList_append, List.drop_left' (by simp)]
  rw [M4M5.plain, hback, E.decryptEcb_encryptEcb]

theorem answer_confirms : (u.answer E).Confirms E u (u.request E).m1 := by
  have hplain := ofBytes_m4StarPlain u.counter
  rw [← answer_plain E u] at hplain
  exact {
    front := by
      show (Vector.toList (_ ++ _)).take 16 = _
      rw [Vector.toList_append, List.take_left' (by simp)]
      rfl
    counter := by rw [hplain]; omega
    flags := by rw [hplain]; omega
    mac := rfl }

end

section
variable {E : SecurityEngine}

/-- M1 says whose key is updated. -/
theorem M1M2M3.Decodes.ids_eq {m n : M1M2M3} {u v : KeyUpdate} (hu : m.Decodes E u)
    (hv : n.Decodes E v) (hm1 : m.m1 = n.m1) :
    u.uid = v.uid ∧ u.keyId = v.keyId ∧ u.authId = v.authId := by
  have huid : u.uid = v.uid := by
    rw [← hu.uid, ← hv.uid, M1M2M3.uid, M1M2M3.uid, hm1]
  have hkeyId : u.keyId.toNat = v.keyId.toNat := by
    rw [← hu.keyId, ← hv.keyId, M1M2M3.keyId, M1M2M3.keyId, hm1]
  have hauthId : u.authId.toNat = v.authId.toNat := by
    rw [← hu.authId, ← hv.authId, M1M2M3.authId, M1M2M3.authId, hm1]
  exact ⟨huid, UInt32.toNat_inj.mp hkeyId, UInt32.toNat_inj.mp hauthId⟩

/-- M2 says what it becomes. -/
theorem M1M2M3.Decodes.key_eq {m n : M1M2M3} {u v : KeyUpdate} (hu : m.Decodes E u)
    (hv : n.Decodes E v) (hauthKey : u.authKey = v.authKey)
    (hucounter : u.counter.toNat < 2 ^ 28) (hvcounter : v.counter.toNat < 2 ^ 28)
    (hm2 : m.m2 = n.m2) :
    u.key = v.key ∧ u.counter = v.counter := by
  have hplain : m.plain E u.authKey = n.plain E v.authKey := by
    rw [M1M2M3.plain, M1M2M3.plain, hm2, hauthKey]
  have hkey : u.key.toList = v.key.toList := by
    rw [← hu.key, ← hv.key, hplain]
  have hcounter : u.counter.toNat % 2 ^ 28 = v.counter.toNat % 2 ^ 28 := by
    rw [← hu.counter, ← hv.counter, hplain]
  rw [Nat.mod_eq_of_lt hucounter, Nat.mod_eq_of_lt hvcounter] at hcounter
  exact ⟨Vector.toList_inj.mp hkey, UInt32.toNat_inj.mp hcounter⟩

/-- **Key updates are encoded faithfully**: when the engine works, the
messages of `HSM_ComputeM1M2M3` decode to the update and those of
`HSM_ComputeM4M5` confirm it. Updates with one M1 are of one key of one
device, and under one authorisation key those that share M2 also are one. -/
theorem key_update_decodes (hstat : ∀ n, E.stat n = statusSuccess) (u : KeyUpdate)
    (m : M1M2M3) (m' : M4M5) (s s' : EngineState) :
    let r := ((hsmComputeM1M2M3 E u.authKey u.authId u.keyId u.key u.counter u.uid m).run s).1
    let r' := ((hsmComputeM4M5 E u.authId u.keyId u.key u.counter u.uid m').run s').1
    (r.1 = statusSuccess ∧ r.2.Decodes E u) ∧
      (r'.1 = statusSuccess ∧ r'.2.Confirms E u r.2.m1) ∧
      ∀ (v : KeyUpdate) (n : M1M2M3) (t : EngineState),
        let q := ((hsmComputeM1M2M3 E v.authKey v.authId v.keyId v.key v.counter v.uid n).run t).1
        r.2.m1 = q.2.m1 →
          (u.uid = v.uid ∧ u.keyId = v.keyId ∧ u.authId = v.authId) ∧
          (u.authKey = v.authKey → u.counter.toNat < 2 ^ 28 → v.counter.toNat < 2 ^ 28 →
            r.2.m2 = q.2.m2 → u.key = v.key ∧ u.counter = v.counter) := by
  intro r r'
  have hr : r = (statusSuccess, u.request E) :=
    congrArg Prod.fst (hsmComputeM1M2M3_run hstat u m s)
  have hr' : r' = (statusSuccess, u.answer E) :=
    congrArg Prod.fst (hsmComputeM4M5_run hstat u m' s')
  have hu := request_decodes E u
  rw [hr, hr']
  refine ⟨⟨rfl, hu⟩, ⟨rfl, answer_confirms E u⟩, ?_⟩
  intro v n t q hm1
  have hq : q = (statusSuccess, v.request E) :=
    congrArg Prod.fst (hsmComputeM1M2M3_run hstat v n t)
  have hv := request_decodes E v
  rw [hq] at hm1 ⊢
  exact ⟨hu.ids_eq hv hm1, hu.key_eq hv⟩

end

def xorKey {size : Nat} (key : Block) (plain : Vector UInt8 size) : Vector UInt8 size :=
  Vector.ofFn fun i => plain[i] ^^^ key.get (Fin.ofNat 16 i.val)

theorem xorKey_xorKey {size : Nat} (key : Block) (plain : Vector UInt8 size) :
    xorKey key (xorKey key plain) = plain := by
  apply Vector.ext
  intro i hi
  rw [xorKey, xorKey, Vector.getElem_ofFn, Fin.getElem_fin, Vector.getElem_ofFn,
    UInt8.xor_assoc, UInt8.xor_self, UInt8.xor_zero]
  rfl

/-- An engine whose cipher adds the key. -/
def xorEngine : SecurityEngine where
  compress concat := xorKey (concat.drop 16) (concat.take 16)
  encryptCbc key iv plain := xorKey key (xorKey iv plain)
  decryptCbc key iv cipher := xorKey iv (xorKey key cipher)
  decryptCbc_encryptCbc key iv plain := by rw [xorKey_xorKey, xorKey_xorKey]
  encryptEcb := xorKey
  decryptEcb := xorKey
  decryptEcb_encryptEcb := xorKey_xorKey
  mac key msg := xorKey key (Vector.replicate 16 (msg.foldl (· ^^^ ·) 0))
  stat _ := statusSuccess
  left _ size := Vector.replicate size 0

/-- The update of `HSM_initialise` for `SECURITY_KEY_1`. -/
def key1Update : KeyUpdate where
  authKey := #v[0x00, 0x01, 0x02, 0x03, 0x04, 0x05, 0x06, 0x07, 0x08, 0x09, 0x0a, 0x0b, 0x0c,
    0x0d, 0x0e, 0x0f]
  authId := 1
  keyId := 4
  key := #v[0x6B, 0x65, 0x79, 0x30, 0x6B, 0x65, 0x79, 0x31, 0x6B, 0x65, 0x79, 0x32, 0x6B, 0x65,
    0x79, 0x33]
  counter := 3
  uid := Vector.replicate 15 0
  authId_lt := by decide
  keyId_lt := by decide

theorem key_update_decodes_key1 :
    let u := key1Update
    let m : M1M2M3 := ⟨Vector.replicate 16 0, Vector.replicate 32 0, Vector.replicate 16 0⟩
    let m' : M4M5 := ⟨Vector.replicate 32 0, Vector.replicate 16 0⟩
    let s : EngineState := ⟨Vector.replicate 16 0, 0⟩
    let r := ((hsmComputeM1M2M3 xorEngine u.authKey u.authId u.keyId u.key u.counter u.uid
      m).run s).1
    let r' := ((hsmComputeM4M5 xorEngine u.authId u.keyId u.key u.counter u.uid m').run s).1
    (r.1 = statusSuccess ∧ r.2.Decodes xorEngine u) ∧
      (r'.1 = statusSuccess ∧ r'.2.Confirms xorEngine u r.2.m1) := by
  intro u m m' s r r'
  have h := key_update_decodes (E := xorEngine) (fun _ => rfl) u m m' s s
  exact ⟨h.1, h.2.1⟩

/-- An update that differs from `key1Update` in a bit of the authorisation key,
of the new key and of the counter. -/
def maskedUpdate : KeyUpdate :=
  { key1Update with
    authKey := key1Update.authKey.set 0 1
    key := key1Update.key.set 0 0x6A
    counter := 0x100003 }

/-- The first bit hides the other two. -/
theorem maskedUpdate_m2 :
    (maskedUpdate.request xorEngine).m2 = (key1Update.request xorEngine).m2 := by
  decide +kernel

/-- Under different authorisation keys, updates of one key share M1 and M2. -/
theorem masked_update_shares_messages :
    let u := key1Update
    let v := maskedUpdate
    let m : M1M2M3 := ⟨Vector.replicate 16 0, Vector.replicate 32 0, Vector.replicate 16 0⟩
    let s : EngineState := ⟨Vector.replicate 16 0, 0⟩
    let r := ((hsmComputeM1M2M3 xorEngine u.authKey u.authId u.keyId u.key u.counter u.uid
      m).run s).1
    let q := ((hsmComputeM1M2M3 xorEngine v.authKey v.authId v.keyId v.key v.counter v.uid
      m).run s).1
    (∀ n, xorEngine.stat n = statusSuccess) ∧ (u.key ≠ v.key ∧ u.counter ≠ v.counter) ∧
      (u.counter.toNat < 2 ^ 28 ∧ v.counter.toNat < 2 ^ 28) ∧
      r.2.m1 = q.2.m1 ∧ r.2.m2 = q.2.m2 := by
  intro u v m s r q
  have hr : r = (statusSuccess, u.request xorEngine) :=
    congrArg Prod.fst (hsmComputeM1M2M3_run (fun _ => rfl) u m s)
  have hq : q = (statusSuccess, v.request xorEngine) :=
    congrArg Prod.fst (hsmComputeM1M2M3_run (fun _ => rfl) v m s)
  rw [hr, hq]
  refine ⟨fun _ => rfl, ⟨by decide, by decide⟩, ⟨by decide, by decide⟩, rfl, ?_⟩
  exact maskedUpdate_m2.symm

end XcanRouter
