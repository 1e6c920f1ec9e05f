import XcanRouter.Base.Versions
import XcanRouter.Framework.KeyUpdate

/-!
# The key memory (hsm_she.c)

`HSM_LoadKey` and `HSM_SetAuthKey` ask the security engine for an update of a
slot of its key memory, and `HSM_initialise` does so for three slots whenever
the gateway boots. The memory is the engine's: what is used of it is that an
update is taken only with the MAC of the slot that authorises it and with a
counter that is greater than the one of its slot. Any call of the engine may
fail at any time.
-/

namespace XcanRouter

/-! ## Slots -/

/-- The slots of the engine (security_pal.h). -/
def securityMasterEcu : UInt32 := 1

def securityBootMacKey : UInt32 := 2

def securityKey1 : UInt32 := 4

def gEmptyKey : Block := Vector.replicate 16 0

def gAuthId : UInt32 := securityMasterEcu

/-- Keys with their counters. -/
abbrev KeySlots := Nat → Versioned Block

namespace M1M2M3

variable (E : SecurityEngine) (m : M1M2M3)

/-- The key and the counter that M2 brings, for who knows the key of the
authorisation. -/
def brings (authKey : Block) : Versioned Block where
  value := (E.decryptCbc (E.derived authKey keyUpdateEncC) (Vector.replicate 16 0) m.m2).drop 16
  version := BigEndian.ofBytes ((m.plain E authKey).take 16) / 2 ^ 100

/-- The messages update slot `keyId` of `slots`. -/
structure Updates (keyId : UInt32) (slots slots' : KeySlots) : Prop where
  keyId : m.keyId = keyId.toNat
  mac : m.m3 =
    E.mac (E.derived (slots m.authId).value keyUpdateMacC) (m.m1.toList ++ m.m2.toList)
  newer : (slots m.keyId).version < (m.brings E (slots m.authId).value).version
  installed : slots' = Versions.install slots (m.keyId, m.brings E (slots m.authId).value)

end M1M2M3

/-- The key memory of an engine. -/
structure KeyMemory (E : SecurityEngine) where
  Memory : Type
  slots : Memory → KeySlots
  /-- The memory after an update, if it is taken. -/
  update : Memory → UInt32 → M1M2M3 → Option Memory
  update_some : ∀ μ keyId m μ', update μ keyId m = some μ' →
    m.Updates E keyId (slots μ) (slots μ')
  /-- The status of an update that is not taken. -/
  refusal : Int
  refusal_ne : refusal ≠ statusSuccess

/-- The engine with its memory. -/
structure Hsm {E : SecurityEngine} (K : KeyMemory E) where
  engine : EngineState
  memory : K.Memory

abbrev HsmM {E : SecurityEngine} (K : KeyMemory E) := StateM (Hsm K)

/-! ## The functions (hsm_she.c) -/

section
variable {E : SecurityEngine} (K : KeyMemory E)

/-- A call that leaves the memory alone. -/
def onEngine {α : Type} (x : EngineM α) : HsmM K α := fun s =>
  let r := x.run s.engine
  (r.1, { s with engine := r.2 })

/-- `SECURITY_Init`; the RAM key is lost. -/
def securityInit : HsmM K Int := fun s =>
  (E.stat s.engine.calls,
    { s with engine := { ramKey := E.left s.engine.calls 16, calls := s.engine.calls + 1 } })

/-- `SECURITY_LoadKey`; nothing reads M4 and M5. -/
def securityLoadKey (keyId : UInt32) (m : M1M2M3) : HsmM K Int := fun s =>
  let engine := { s.engine with calls := s.engine.calls + 1 }
  if E.stat s.engine.calls = statusSuccess then
    match K.update s.memory keyId m with
    | some memory => (statusSuccess, { engine, memory })
    | none => (K.refusal, { s with engine })
  else (E.stat s.engine.calls, { s with engine })

/-- `HSM_SetAuthKey` and `HSM_LoadKey`, for the arguments that differ; `m` is
what their buffers hold. -/
def hsmUpdate (authKey : Block) (keyId : UInt32) (key : Block) (counter : UInt32) (m : M1M2M3) :
    HsmM K Bool := do
  let uid : Vector UInt8 15 := Vector.replicate 15 0
  let (stat, m) ← onEngine K (hsmComputeM1M2M3 E authKey gAuthId keyId key counter uid m)
  if stat ≠ statusSuccess then return false
  let stat ← securityLoadKey K keyId m
  if stat ≠ statusSuccess then return false
  return true

/-- `HSM_SetAuthKey` -/
def hsmSetAuthKey (m : M1M2M3) : HsmM K Bool :=
  hsmUpdate K gEmptyKey securityMasterEcu gAuthIdKey 1 m

/-- `HSM_LoadKey` -/
def hsmLoadKey (keyId : UInt32) (keyNew : Block) (counter : UInt8) (m : M1M2M3) :
    HsmM K Bool :=
  hsmUpdate K gAuthIdKey keyId keyNew counter.toUInt32 m

/-- `HSM_initialise`; `m₁`, `m₂` and `m₃` are what the buffers of its three
updates hold. -/
def hsmInitialise (m₁ m₂ m₃ : M1M2M3) : HsmM K Unit := do
  let _ ← securityInit K
  let _ ← hsmSetAuthKey K m₁
  let _ ← hsmLoadKey K securityKey1 key1Value 3 m₂
  let _ ← hsmLoadKey K securityBootMacKey bootMacKeyValue 2 m₃

end

/-! ## Runs -/

/-- The calls of a run. -/
inductive HsmCall where
  | init
  | setAuthKey (m : M1M2M3)
  | loadKey (keyId : UInt32) (keyNew : Block) (counter : UInt8) (m : M1M2M3)

/-- The calls of `HSM_initialise`. -/
def bootCalls (m₁ m₂ m₃ : M1M2M3) : List HsmCall :=
  [.init, .setAuthKey m₁, .loadKey securityKey1 key1Value 3 m₂,
    .loadKey securityBootMacKey bootMacKeyValue 2 m₃]

section
variable {E : SecurityEngine} {K : KeyMemory E}

/-- Whether a call returned true, and the state after it. -/
def HsmCall.run (s : Hsm K) : HsmCall → Bool × Hsm K
  | .init => (false, ((securityInit K).run s).2)
  | .setAuthKey m => (hsmSetAuthKey K m).run s
  | .loadKey keyId keyNew counter m => (hsmLoadKey K keyId keyNew counter m).run s

def hsmStep (s : Hsm K) (c : HsmCall) : Hsm K := (c.run s).2

/-- The slot a call is for, with what it is to hold. -/
def HsmCall.slot : HsmCall → Option (Nat × Versioned Block)
  | .init => none
  | .setAuthKey _ => some (securityMasterEcu.toNat, ⟨gAuthIdKey, 1⟩)
  | .loadKey keyId keyNew counter _ => some (keyId.toNat, ⟨keyNew, counter.toNat⟩)

/-- The update of a call that returned true. -/
def Hsm.accepted (s : Hsm K) (c : HsmCall) : List (Nat × Versioned Block) :=
  if (c.run s).1 then c.slot.toList else []

theorem hsmInitialise_run (m₁ m₂ m₃ : M1M2M3) (s : Hsm K) :
    ((hsmInitialise K m₁ m₂ m₃).run s).2 = (bootCalls m₁ m₂ m₃).foldl hsmStep s := rfl

end

/-! ## What an update does -/

section
variable (E : SecurityEngine)

/-- The key that `HSM_DeriveKey` leaves when its call is the `n`-th. -/
def SecurityEngine.derivedAt (n : Nat) (key constant : Block) : Block :=
  if E.stat n = statusSuccess then E.derived key constant else E.left n 16

/-- The messages of an update, for the keys that they are made with. -/
def updateRequest (k1 k2 : Block) (keyId : UInt32) (key : Block) (counter : UInt32) : M1M2M3 :=
  let m1 := idBlock (Vector.replicate 15 0) keyId gAuthId
  let m2 := E.encryptCbc k1 (Vector.replicate 16 0) (m2Plain counter key)
  { m1, m2, m3 := E.mac k2 (m1.toList ++ m2.toList) }

theorem run_call (E : SecurityEngine) {size : Nat} {α : Type} (out : Block → Vector UInt8 size)
    (k : Int × Vector UInt8 size → EngineM α) (s : EngineState) :
    (E.call out >>= k).run s =
      (k (E.stat s.calls,
        if E.stat s.calls = statusSuccess then out s.ramKey else E.left s.calls size)).run
        { s with calls := s.calls + 1 } := rfl

theorem run_load (E : SecurityEngine) {α : Type} (key : Block) (k : Int → EngineM α)
    (s : EngineState) :
    (E.loadPlainKey key >>= k).run s =
      (k (E.stat s.calls)).run
        { ramKey := if E.stat s.calls = statusSuccess then key else s.ramKey,
          calls := s.calls + 1 } := rfl

theorem run_derive (E : SecurityEngine) {α : Type} (key constant : Block)
    (k : Int × Block → EngineM α) (s : EngineState) :
    (hsmDeriveKey E key constant >>= k).run s =
      (k (E.stat s.calls, E.derivedAt s.calls key constant)).run
        { s with calls := s.calls + 1 } := rfl

/-- A call that is checked was successful when all of them were. -/
theorem run_checked {α : Type} {stat : Int} {a : α} {k : EngineM (Int × α)} {s : EngineState}
    (h : ((if stat ≠ statusSuccess then pure (stat, a) else k : EngineM (Int × α)).run s).1.1 =
      statusSuccess) :
    stat = statusSuccess ∧
      (if stat ≠ statusSuccess then pure (stat, a) else k : EngineM (Int × α)).run s = k.run s := by
  by_cases hstat : stat = statusSuccess
  · exact ⟨hstat, by rw [if_neg (not_not_intro hstat)]⟩
  · rw [if_pos hstat] at h
    exact absurd h hstat

theorem hsmComputeM1M2M3_success (authKey key : Block) (keyId counter : UInt32) (m : M1M2M3)
    (s : EngineState)
    (h : ((hsmComputeM1M2M3 E authKey gAuthId keyId key counter (Vector.replicate 15 0)
      m).run s).1.1 = statusSuccess) :
    ((hsmComputeM1M2M3 E authKey gAuthId keyId key counter (Vector.replicate 15 0)
      m).run s).1.2 =
      updateRequest E (E.derivedAt s.calls authKey keyUpdateEncC)
        (E.derivedAt (s.calls + 1) authKey keyUpdateMacC) keyId key counter := by
  simp only [hsmComputeM1M2M3, m2Plain_eq, run_derive, run_load,
    SecurityEngine.encryptCbcBlocking, SecurityEngine.generateMacBlocking] at h ⊢
  obtain ⟨hload, hrun⟩ := run_checked h
  rw [hrun] at h ⊢
  simp only [hload, if_true, run_call] at h ⊢
  obtain ⟨hencrypt, hrun⟩ := run_checked h
  rw [hrun] at h ⊢
  simp only [hencrypt, if_true, run_load] at h ⊢
  obtain ⟨hload₂, hrun⟩ := run_checked h
  rw [hrun] at h ⊢
  simp only [hload₂, if_true, run_call] at h ⊢
  obtain ⟨hmac, hrun⟩ := run_checked h
  rw [hrun]
  simp only [hmac, if_true]
  rw [List.take_of_length_le (by simp), Vector.toList_append]
  rfl

end

section
variable {E : SecurityEngine} {K : KeyMemory E}

/-- How an update ends that asks with `m`: nothing is changed, or it is taken. -/
inductive UpdateResult (s : Hsm K) (keyId : UInt32) (m : M1M2M3) : Bool × Hsm K → Prop where
  | kept (engine : EngineState) : UpdateResult s keyId m (false, { s with engine })
  | taken (engine : EngineState) {memory : K.Memory} (h : K.update s.memory keyId m = some memory) :
      UpdateResult s keyId m (true, { engine, memory })

theorem securityLoadKey_result (s : Hsm K) (keyId : UInt32) (m : M1M2M3) :
    UpdateResult s keyId m
      (decide (((securityLoadKey K keyId m).run s).1 = statusSuccess),
        ((securityLoadKey K keyId m).run s).2) := by
  show UpdateResult s keyId m (decide ((securityLoadKey K keyId m s).1 = statusSuccess),
    (securityLoadKey K keyId m s).2)
  unfold securityLoadKey
  by_cases hstat : E.stat s.engine.calls = statusSuccess
  · cases hupdate : K.update s.memory keyId m with
    | none =>
        simp only [hstat, if_true, decide_eq_false K.refusal_ne]
        exact .kept _
    | some memory =>
        simp only [hstat, if_true, decide_true]
        exact .taken _ hupdate
  · simp only [hstat, if_false, decide_false]
    exact .kept _

theorem UpdateResult.of_engine {s : Hsm K} {engine : EngineState} {keyId : UInt32} {m : M1M2M3}
    {r : Bool × Hsm K} (h : UpdateResult { s with engine } keyId m r) :
    UpdateResult s keyId m r := by
  cases h with
  | kept engine => exact .kept engine
  | taken engine h => exact .taken engine h

theorem UpdateResult.effect {s : Hsm K} {keyId : UInt32} {m : M1M2M3} {r : Bool × Hsm K}
    (h : UpdateResult s keyId m r) :
    r.1 = false ∧ r.2.memory = s.memory ∨
      r.1 = true ∧ K.update s.memory keyId m = some r.2.memory := by
  cases h with
  | kept engine => exact .inl ⟨rfl, rfl⟩
  | taken engine h => exact .inr ⟨rfl, h⟩

theorem run_reported (x : HsmM K Int) (s : Hsm K) :
    (do
      let stat ← x
      if stat ≠ statusSuccess then return false
      return true : HsmM K Bool).run s =
      (decide ((x.run s).1 = statusSuccess), (x.run s).2) := by
  show (if (x.run s).1 ≠ statusSuccess then pure false else pure true : HsmM K Bool).run
    (x.run s).2 = _
  by_cases hstat : (x.run s).1 = statusSuccess
  · rw [if_neg (not_not_intro hstat), decide_eq_true hstat]
    rfl
  · rw [if_pos hstat, decide_eq_false hstat]
    rfl

theorem hsmUpdate_result (s : Hsm K) (authKey : Block) (keyId : UInt32) (key : Block)
    (counter : UInt32) (m : M1M2M3) :
    UpdateResult s keyId
      (updateRequest E (E.derivedAt s.engine.calls authKey keyUpdateEncC)
        (E.derivedAt (s.engine.calls + 1) authKey keyUpdateMacC) keyId key counter)
      ((hsmUpdate K authKey keyId key counter m).run s) := by
  have hmade := hsmComputeM1M2M3_success E authKey key keyId counter m s.engine
  generalize hr : (hsmComputeM1M2M3 E authKey gAuthId keyId key counter
    (Vector.replicate 15 0) m).run s.engine = r at hmade
  have hrun : (hsmUpdate K authKey keyId key counter m).run s =
      (do
        if r.1.1 ≠ statusSuccess then return false
        let stat ← securityLoadKey K keyId r.1.2
        if stat ≠ statusSuccess then return false
        return true : HsmM K Bool).run { s with engine := r.2 } := by
    rw [← hr]
    rfl
  rw [hrun]
  by_cases hstat : r.1.1 = statusSuccess
  · rw [if_neg (not_not_intro hstat), run_reported, hmade hstat]
    exact (securityLoadKey_result { s with engine := r.2 } keyId _).of_engine
  · rw [if_pos hstat]
    exact .kept _

theorem updateRequest_authId (E : SecurityEngine) (k1 k2 : Block) (keyId : UInt32) (key : Block)
    (counter : UInt32) :
    (updateRequest E k1 k2 keyId key counter).authId = securityMasterEcu.toNat := by
  show (idBlock _ keyId gAuthId)[15].toNat % 16 = 1
  rw [idBlock_ids]
  show (_ + 1 % 16) % 16 = _
  omega

/-- What M2 brings, when it was made with the key that reads it. -/
theorem updateRequest_brings (E : SecurityEngine) (authKey k2 : Block) (keyId : UInt32)
    (key : Block) (counter : UInt32) :
    (updateRequest E (E.derived authKey keyUpdateEncC) k2 keyId key counter).brings E authKey =
      ⟨key, counter.toNat % 2 ^ 28⟩ := by
  have hplain := E.decryptCbc_encryptCbc (E.derived authKey keyUpdateEncC)
    (Vector.replicate 16 0) (m2Plain counter key)
  have hkey : (m2Plain counter key).drop 16 = key := by
    apply Vector.toList_inj.mp
    rw [Vector.toList_drop, m2Plain_back]
  have hcounter := m2Plain_front counter key
  unfold M1M2M3.brings M1M2M3.plain updateRequest
  rw [hplain, hkey, hcounter]
  simp

/-- The slot that authorises updates holds the key that the code makes them
with. -/
def Hsm.Provisioned (s : Hsm K) : Prop :=
  (K.slots s.memory securityMasterEcu.toNat).value = gAuthIdKey

/-- The derivations of a call, whose status is not looked at, work. -/
def Hsm.Derives (s : Hsm K) : HsmCall → Prop
  | .init => True
  | _ => E.stat s.engine.calls = statusSuccess ∧ E.stat (s.engine.calls + 1) = statusSuccess

def HsmCall.KeepsMaster : HsmCall → Prop
  | .loadKey keyId _ _ _ => keyId ≠ securityMasterEcu
  | _ => True

instance (c : HsmCall) : Decidable c.KeepsMaster := by
  cases c <;> unfold HsmCall.KeepsMaster <;> infer_instance

/-- The message of `HSM_SetAuthKey` does not have the MAC of its new key. -/
def SecurityEngine.RefusesEmptyKey (E : SecurityEngine) : Prop :=
  let m := updateRequest E (E.derived gEmptyKey keyUpdateEncC) (E.derived gEmptyKey keyUpdateMacC)
    securityMasterEcu gAuthIdKey 1
  m.m3 ≠ E.mac (E.derived gAuthIdKey keyUpdateMacC) (m.m1.toList ++ m.m2.toList)

/-- An update whose derivations work. -/
theorem hsmUpdate_derived {s : Hsm K} (authKey : Block) (keyId : UInt32) (key : Block)
    (counter : UInt32) (m : M1M2M3)
    (hderives : E.stat s.engine.calls = statusSuccess ∧
      E.stat (s.engine.calls + 1) = statusSuccess) :
    let r := (hsmUpdate K authKey keyId key counter m).run s
    r.1 = false ∧ r.2.memory = s.memory ∨
      r.1 = true ∧ K.update s.memory keyId (updateRequest E (E.derived authKey keyUpdateEncC)
        (E.derived authKey keyUpdateMacC) keyId key counter) = some r.2.memory := by
  have hresult := (hsmUpdate_result s authKey keyId key counter m).effect
  unfold SecurityEngine.derivedAt at hresult
  rw [if_pos hderives.1, if_pos hderives.2] at hresult
  exact hresult

/-- An update is not taken when its MAC is not that of the master key. -/
theorem hsmUpdate_refused {s : Hsm K} {authKey : Block} {keyId : UInt32} {key : Block}
    {counter : UInt32} {m : M1M2M3}
    (hderives : E.stat s.engine.calls = statusSuccess ∧
      E.stat (s.engine.calls + 1) = statusSuccess)
    (hmac :
      let m := updateRequest E (E.derived authKey keyUpdateEncC) (E.derived authKey keyUpdateMacC)
        keyId key counter
      m.m3 ≠ E.mac (E.derived (K.slots s.memory securityMasterEcu.toNat).value keyUpdateMacC)
        (m.m1.toList ++ m.m2.toList)) :
    let r := (hsmUpdate K authKey keyId key counter m).run s
    r.1 = false ∧ r.2.memory = s.memory := by
  rcases hsmUpdate_derived authKey keyId key counter m hderives with hkept | ⟨-, hupdate⟩
  · exact hkept
  · have hmac' := (K.update_some _ _ _ _ hupdate).mac
    rw [updateRequest_authId] at hmac'
    exact absurd hmac' hmac

/-- An update that is made with the master key brings its key and its counter,
over a lower one. -/
theorem hsmUpdate_effect {s : Hsm K} {authKey : Block}
    (h : (K.slots s.memory securityMasterEcu.toNat).value = authKey) (keyId : UInt32)
    (key : Block) (counter : UInt32) (m : M1M2M3)
    (hderives : E.stat s.engine.calls = statusSuccess ∧
      E.stat (s.engine.calls + 1) = statusSuccess) :
    let r := (hsmUpdate K authKey keyId key counter m).run s
    r.1 = false ∧ r.2.memory = s.memory ∨
      r.1 = true ∧ (K.slots s.memory keyId.toNat).version < counter.toNat % 2 ^ 28 ∧
        K.slots r.2.memory =
          Versions.install (K.slots s.memory) (keyId.toNat, ⟨key, counter.toNat % 2 ^ 28⟩) := by
  rcases hsmUpdate_derived authKey keyId key counter m hderives with hkept | ⟨htrue, hupdate⟩
  · exact .inl hkept
  · right
    have hupdates := K.update_some _ _ _ _ hupdate
    have hnewer := hupdates.newer
    have hinstalled := hupdates.installed
    rw [updateRequest_authId, h, updateRequest_brings, hupdates.keyId] at hnewer hinstalled
    exact ⟨htrue, hnewer, hinstalled⟩

/-- The master key is set only once. -/
theorem setAuthKey_kept (hempty : E.RefusesEmptyKey) {s : Hsm K} (h : s.Provisioned)
    {m : M1M2M3} (hderives : s.Derives (.setAuthKey m)) :
    ((hsmSetAuthKey K m).run s).1 = false ∧
      ((hsmSetAuthKey K m).run s).2.memory = s.memory := by
  apply hsmUpdate_refused hderives
  rw [h]
  exact hempty

/-- A key is loaded when the call says so, over a lower counter. -/
theorem loadKey_effect {s : Hsm K} (h : s.Provisioned) {keyId : UInt32} {keyNew : Block}
    {counter : UInt8} {m : M1M2M3} (hderives : s.Derives (.loadKey keyId keyNew counter m)) :
    ((hsmLoadKey K keyId keyNew counter m).run s).1 = false ∧
        ((hsmLoadKey K keyId keyNew counter m).run s).2.memory = s.memory ∨
      ((hsmLoadKey K keyId keyNew counter m).run s).1 = true ∧
        (K.slots s.memory keyId.toNat).version < counter.toNat ∧
        K.slots ((hsmLoadKey K keyId keyNew counter m).run s).2.memory =
          Versions.install (K.slots s.memory) (keyId.toNat, ⟨keyNew, counter.toNat⟩) := by
  have heffect := hsmUpdate_effect h keyId keyNew counter.toUInt32 m hderives
  have hcounter : counter.toUInt32.toNat % 2 ^ 28 = counter.toNat := by
    rw [UInt8.toNat_toUInt32]
    exact Nat.mod_eq_of_lt (Nat.lt_trans counter.toNat_lt (by decide))
  rw [hcounter] at heffect
  exact heffect

/-! ## Runs of calls -/

/-- A step changes no slot but the one of an update that is taken. -/
theorem hsmStep_slots (hempty : E.RefusesEmptyKey) {s : Hsm K} (h : s.Provisioned)
    {c : HsmCall} (hderives : s.Derives c) :
    Versions.Ascend (K.slots s.memory) (s.accepted c) ∧
      K.slots (hsmStep s c).memory =
        (s.accepted c).foldl Versions.install (K.slots s.memory) := by
  cases c with
  | init => exact ⟨trivial, rfl⟩
  | setAuthKey m =>
      obtain ⟨hfalse, hmemory⟩ := setAuthKey_kept hempty h hderives
      simp [Hsm.accepted, HsmCall.run, hsmStep, hfalse, hmemory, Versions.Ascend]
  | loadKey keyId keyNew counter m =>
      rcases loadKey_effect h hderives with ⟨hfalse, hmemory⟩ | ⟨htrue, hnewer, hslots⟩
      · simp [Hsm.accepted, HsmCall.run, hsmStep, hfalse, hmemory, Versions.Ascend]
      · simp [Hsm.accepted, HsmCall.run, hsmStep, htrue, hslots, hnewer, HsmCall.slot,
          Versions.Ascend]

theorem Hsm.Provisioned.step (hempty : E.RefusesEmptyKey) {s : Hsm K} (h : s.Provisioned)
    {c : HsmCall} (hmaster : c.KeepsMaster) (hderives : s.Derives c) :
    (hsmStep s c).Provisioned := by
  have hslots := (hsmStep_slots hempty h hderives).2
  cases c with
  | init => exact h
  | setAuthKey m =>
      obtain ⟨-, hmemory⟩ := setAuthKey_kept hempty h hderives
      show (K.slots ((hsmSetAuthKey K m).run s).2.memory _).value = gAuthIdKey
      rw [hmemory]
      exact h
  | loadKey keyId keyNew counter m =>
      have hne : securityMasterEcu.toNat ≠ keyId.toNat := by
        intro heq
        exact hmaster (UInt32.toNat_inj.mp heq).symm
      unfold Hsm.Provisioned
      rw [hslots, Hsm.accepted]
      split
      · show (Versions.install _ _ _).value = _
        rw [Versions.install_of_ne _ hne]
        exact h
      · exact h

/-- Calls that leave the master key slot to `HSM_SetAuthKey` and whose unchecked
derivations succeed. -/
def HsmRun (s : Hsm K) (cs : List HsmCall) : Prop :=
  (∀ c ∈ cs, c.KeepsMaster) ∧ Runs.Meets (Runs.total hsmStep) Hsm.Derives s cs

theorem HsmRun.meets {s : Hsm K} {cs : List HsmCall} (h : HsmRun s cs) :
    Runs.Meets (Runs.total hsmStep) (fun s c => c.KeepsMaster ∧ s.Derives c) s cs :=
  (Runs.meets_of_forall h.1).and h.2

theorem Hsm.follows (hempty : E.RefusesEmptyKey) {s : Hsm K} (h : s.Provisioned)
    {cs : List HsmCall} (hrun : HsmRun s cs) :
    Versions.Follows (K.slots s.memory) (K.slots (cs.foldl hsmStep s).memory)
      (Runs.trace hsmStep Hsm.accepted s cs) :=
  Versions.follows_of_run (fun s : Hsm K => K.slots s.memory)
    (fun _ _ h hc => Hsm.Provisioned.step hempty h hc.1 hc.2)
    (fun _ _ h hc => (hsmStep_slots hempty h hc.2).1)
    (fun _ _ h hc => (hsmStep_slots hempty h hc.2).2) h hrun.meets

/-- **The key memory follows the accepted updates**: in every run of calls of
`HSM_LoadKey` and of boots, whatever else of the engine fails, a slot holds the
key and the counter of the last call for it that returned true, these counters
rise strictly from the one it had, and a call that returned false changes
nothing. -/
theorem key_slots_follow_updates (hempty : E.RefusesEmptyKey) {s : Hsm K}
    (hprovisioned : s.Provisioned) (cs : List HsmCall) (hrun : HsmRun s cs) :
    Versions.Follows (K.slots s.memory) (K.slots (cs.foldl hsmStep s).memory)
      (Runs.trace hsmStep Hsm.accepted s cs) :=
  Hsm.follows hempty hprovisioned hrun

/-! ## Booting again -/

/-- What the call brings is no newer than its slot. -/
def HsmCall.Old (slots : KeySlots) : HsmCall → Prop
  | .loadKey keyId _ counter _ => counter.toNat ≤ (slots keyId.toNat).version
  | _ => True

theorem hsmStep_old (hempty : E.RefusesEmptyKey) {s : Hsm K} (h : s.Provisioned) {c : HsmCall}
    (hold : c.Old (K.slots s.memory)) (hderives : s.Derives c) :
    (hsmStep s c).memory = s.memory := by
  cases c with
  | init => rfl
  | setAuthKey m => exact (setAuthKey_kept hempty h hderives).2
  | loadKey keyId keyNew counter m =>
      rcases loadKey_effect h hderives with ⟨-, hmemory⟩ | ⟨-, hnewer, -⟩
      · exact hmemory
      · exact absurd hnewer (Nat.not_lt.mpr hold)

/-- Once the keys of a boot are loaded, its calls bring nothing new. -/
theorem bootCalls_old {slots : KeySlots} (hkey1 : 3 ≤ (slots securityKey1.toNat).version)
    (hbootMac : 2 ≤ (slots securityBootMacKey.toNat).version) (m₁ m₂ m₃ : M1M2M3) :
    ∀ c ∈ bootCalls m₁ m₂ m₃, c.Old slots := by
  intro c hc
  simp only [bootCalls, List.mem_cons, List.not_mem_nil, or_false] at hc
  rcases hc with rfl | rfl | rfl | rfl
  · trivial
  · trivial
  · exact hkey1
  · exact hbootMac

/-- **A boot takes no update back**: after every run of calls and boots,
`HSM_initialise` leaves the key memory as it finds it, once the keys it loads
were loaded before. -/
theorem reboot_keeps_keys (hempty : E.RefusesEmptyKey) {s : Hsm K}
    (hprovisioned : s.Provisioned)
    (hkey1 : 3 ≤ (K.slots s.memory securityKey1.toNat).version)
    (hbootMac : 2 ≤ (K.slots s.memory securityBootMacKey.toNat).version) (cs : List HsmCall)
    (m₁ m₂ m₃ : M1M2M3) (hrun : HsmRun s (cs ++ bootCalls m₁ m₂ m₃)) :
    ((hsmInitialise K m₁ m₂ m₃).run (cs.foldl hsmStep s)).2.memory =
      (cs.foldl hsmStep s).memory := by
  obtain ⟨hmaster, hderives⟩ := hrun
  obtain ⟨hderives, hboot⟩ := Runs.meets_total_append.mp hderives
  have hbefore : HsmRun s cs := ⟨fun c hc => hmaster c (List.mem_append_left _ hc), hderives⟩
  have hfollows : Versions.Follows (K.slots s.memory) (K.slots (cs.foldl hsmStep s).memory)
      (Runs.trace hsmStep Hsm.accepted s cs) :=
    Hsm.follows hempty hprovisioned hbefore
  have hend : (cs.foldl hsmStep s).Provisioned :=
    Runs.foldl_of_meets (fun _ _ h hc => Hsm.Provisioned.step hempty h hc.1 hc.2)
      hprovisioned hbefore.meets
  have hold := bootCalls_old (Nat.le_trans hkey1 (hfollows.version_le _))
    (Nat.le_trans hbootMac (hfollows.version_le _)) m₁ m₂ m₃
  rw [hsmInitialise_run]
  -- the memory of the last state, along the calls of the boot
  apply Runs.foldl_of_meets
    (I := fun t : Hsm K => t.memory = (cs.foldl hsmStep s).memory) _ rfl
    ((Runs.meets_of_forall hold).and hboot)
  intro t c ht ⟨hc, hc'⟩
  have ht' : t.Provisioned := by
    unfold Hsm.Provisioned
    rw [ht]
    exact hend
  rw [← ht] at hc
  rw [hsmStep_old hempty ht' hc hc', ht]

end

/-! ## An engine with its memory -/

/-- A memory that takes every update that it may take. -/
def openMemory (E : SecurityEngine) : KeyMemory E where
  Memory := KeySlots
  slots := id
  update slots keyId m :=
    if m.keyId = keyId.toNat ∧
        m.m3 = E.mac (E.derived (slots m.authId).value keyUpdateMacC)
          (m.m1.toList ++ m.m2.toList) ∧
        (slots m.keyId).version < (m.brings E (slots m.authId).value).version then
      some (Versions.install slots (m.keyId, m.brings E (slots m.authId).value))
    else none
  update_some slots keyId m slots' h := by
    split at h
    · rename_i hm
      exact ⟨hm.1, hm.2.1, hm.2.2, (Option.some.inj h).symm⟩
    · cases h
  refusal := 1
  refusal_ne := by decide

/-- The master key is set, and no other one. -/
def masterSet (E : SecurityEngine) : Hsm (openMemory E) where
  engine := ⟨gEmptyKey, 0⟩
  memory i := if i = securityMasterEcu.toNat then ⟨gAuthIdKey, 1⟩ else ⟨gEmptyKey, 0⟩

theorem masterSet_provisioned (E : SecurityEngine) : (masterSet E).Provisioned := rfl

def anyBuffers : M1M2M3 := ⟨gEmptyKey, Vector.replicate 32 0, gEmptyKey⟩

theorem xorEngine_refusesEmptyKey : xorEngine.RefusesEmptyKey := by
  unfold SecurityEngine.RefusesEmptyKey
  decide +kernel

/-- Every call of the engine works. -/
theorem HsmRun.of_works {E : SecurityEngine} {K : KeyMemory E}
    (hstat : ∀ n, E.stat n = statusSuccess) (s : Hsm K) {cs : List HsmCall}
    (hmaster : ∀ c ∈ cs, c.KeepsMaster) : HsmRun s cs := by
  constructor
  · exact hmaster
  · apply Runs.meets_of_forall_state
    intro c _ t
    cases c with
    | init => trivial
    | _ => exact ⟨hstat _, hstat _⟩

/-- A boot, an update of `SECURITY_KEY_1`, and two that come too late. -/
theorem key_slots_follow_updates_late :
    let cs := bootCalls anyBuffers anyBuffers anyBuffers ++
      [.loadKey securityKey1 gAuthIdKey 7 anyBuffers, .loadKey securityKey1 key1Value 7 anyBuffers,
        .loadKey securityKey1 key1Value 5 anyBuffers]
    Versions.Follows ((openMemory xorEngine).slots (masterSet xorEngine).memory)
      ((openMemory xorEngine).slots (cs.foldl hsmStep (masterSet xorEngine)).memory)
      (Runs.trace hsmStep Hsm.accepted (masterSet xorEngine) cs) := by
  intro cs
  exact key_slots_follow_updates xorEngine_refusesEmptyKey (masterSet_provisioned _) cs
    (HsmRun.of_works (fun _ => rfl) _ (by decide))

/-- The keys of a boot are loaded. -/
def bootedOnce : Hsm (openMemory xorEngine) where
  engine := ⟨gEmptyKey, 0⟩
  memory i :=
    if i = securityMasterEcu.toNat then ⟨gAuthIdKey, 1⟩
    else if i = securityKey1.toNat then ⟨key1Value, 3⟩
    else if i = securityBootMacKey.toNat then ⟨bootMacKeyValue, 2⟩
    else ⟨gEmptyKey, 0⟩

/-- An update between two boots is still there after the second one. -/
theorem reboot_keeps_keys_updated :
    let cs := [HsmCall.loadKey securityKey1 gAuthIdKey 7 anyBuffers]
    ((hsmInitialise (openMemory xorEngine) anyBuffers anyBuffers anyBuffers).run
      (cs.foldl hsmStep bootedOnce)).2.memory = (cs.foldl hsmStep bootedOnce).memory := by
  intro cs
  have hprovisioned : bootedOnce.Provisioned := rfl
  exact reboot_keeps_keys xorEngine_refusesEmptyKey hprovisioned (by decide) (by decide) cs _ _ _
    (HsmRun.of_works (fun _ => rfl) _ (by decide))

/-- The first derivation fails, which is not checked, and leaves zeros. -/
def deafEngine : SecurityEngine :=
  { xorEngine with stat := fun n => if n = 0 then 1 else statusSuccess }

/-- The key that is stored then is not the one that was to be loaded. -/
example :
    let r := (hsmLoadKey (openMemory deafEngine) securityKey1 key1Value 3 anyBuffers).run
      (masterSet deafEngine)
    r.1 = true ∧
      ((openMemory deafEngine).slots r.2.memory securityKey1.toNat).value ≠ key1Value := by
  decide +kernel

end XcanRouter
