import XcanRouter.Framework.KeyMemory

/-!
# Erasing the keys (hsm_she.c)

`HSM_EraseKeys` has the engine erase its key memory: the engine issues a
challenge, and is answered with a MAC that is made from the key of the
authorisation and its UID. From then on the master key can be set again, so
that the memory goes through lives, each of which begins with
`HSM_SetAuthKey` and ends with `HSM_EraseKeys`.
-/

namespace XcanRouter

def keyDebugKeyC : Block :=
  #v[0x01, 0x03, 0x53, 0x48, 0x45, 0x00, 0x80, 0x00, 0x00, 0x00, 0x00, 0x00, 0x00, 0x00, 0x00, 0xb0]

/-- No key was loaded since the memory was erased. -/
def erasedSlots : KeySlots := fun _ => ⟨gEmptyKey, 0⟩

/-- The debug port of an engine. -/
structure DebugPort {E : SecurityEngine} (K : KeyMemory E) where
  uid : Vector UInt8 15
  /-- The status register at the `n`-th call. -/
  sreg : Nat → UInt8
  /-- The MAC that `SECURITY_GetId` gives. -/
  idMac : K.Memory → List UInt8 → Block
  /-- The challenge that the `n`-th call issues. -/
  challenge : Nat → Block
  /-- The memory after it was erased. -/
  erase : K.Memory → K.Memory
  erase_slots : ∀ μ, K.slots (erase μ) = erasedSlots
  /-- The status when the answer is wrong. -/
  refusal : Int
  refusal_ne : refusal ≠ statusSuccess

/-- The engine with the challenge that it waits for an answer to. -/
structure Debugged {E : SecurityEngine} {K : KeyMemory E} (P : DebugPort K) where
  hsm : Hsm K
  challenge : Option Block := none

abbrev DebugM {E : SecurityEngine} {K : KeyMemory E} (P : DebugPort K) := StateM (Debugged P)

/-! ## Calls of the engine (security_pal.h) -/

section
variable {E : SecurityEngine} {K : KeyMemory E} (P : DebugPort K)

/-- A call that leaves the challenge alone. -/
def onHsm {α : Type} (x : HsmM K α) : DebugM P α := fun s =>
  let r := x.run s.hsm
  (r.1, { s with hsm := r.2 })

/-- `SECURITY_InitRng` -/
def SecurityEngine.initRng (E : SecurityEngine) : EngineM Int := fun s =>
  (E.stat s.calls, { s with calls := s.calls + 1 })

/-- `SECURITY_VerifyMacBlocking` with `SECURITY_RAM_KEY`; the lengths are in
bits. -/
def SecurityEngine.verifyMacBlocking (E : SecurityEngine) {size : Nat} (msg : Vector UInt8 size)
    (msgLen : Nat) (mac : Block) (macLen : Nat) : EngineM (Int × Bool) := fun s =>
  ((E.stat s.calls,
      (E.mac s.ramKey (msg.toList.take (msgLen / 8))).toList.take (macLen / 8) =
        mac.toList.take (macLen / 8)),
    { s with calls := s.calls + 1 })

/-- `SECURITY_GetId` -/
def securityGetId (challenge : Block) :
    HsmM K (Int × Vector UInt8 15 × UInt8 × Block) := fun s =>
  let n := s.engine.calls
  let s' := { s with engine := { s.engine with calls := n + 1 } }
  if E.stat n = statusSuccess then
    ((statusSuccess, P.uid, P.sreg n,
      P.idMac s.memory (challenge.toList ++ P.uid.toList ++ [P.sreg n])), s')
  else ((E.stat n, E.left n 15, (E.left n 1)[0], E.left n 16), s')

/-- `SECURITY_DbgChal` -/
def securityDbgChal : DebugM P (Int × Block) := fun s =>
  let n := s.hsm.engine.calls
  let hsm := { s.hsm with engine := { s.hsm.engine with calls := n + 1 } }
  if E.stat n = statusSuccess then
    ((statusSuccess, P.challenge n), { hsm, challenge := some (P.challenge n) })
  else ((E.stat n, E.left n 16), { s with hsm })

/-- What the engine expects as the answer to a challenge. -/
def DebugPort.answer (μ : K.Memory) (challenge : Block) : Block :=
  E.mac (E.derived (K.slots μ securityMasterEcu.toNat).value keyDebugKeyC)
    (challenge.toList ++ P.uid.toList)

/-- `SECURITY_DbgAuth` -/
def securityDbgAuth (auth : Block) : DebugM P Int := fun s =>
  let n := s.hsm.engine.calls
  let engine := { s.hsm.engine with calls := n + 1 }
  let s' : Debugged P := { hsm := { s.hsm with engine } }
  if E.stat n = statusSuccess then
    if s.challenge.any fun challenge => auth = P.answer s.hsm.memory challenge then
      (statusSuccess, { s' with hsm := { engine, memory := P.erase s.hsm.memory } })
    else (P.refusal, s')
  else (E.stat n, s')

/-! ## The functions (hsm_she.c) -/

/-- `HSM_GetUID`: its result, and what it leaves in `uid`. -/
def hsmGetUid : HsmM K (Bool × Vector UInt8 15) := do
  -- 0, 1, …, 15
  let challenge : Block := Vector.ofFn fun i => UInt8.ofNat i
  let (stat, uid, sreg, mac) ← securityGetId P challenge
  if stat ≠ statusSuccess then return (false, uid)
  let verif : Vector UInt8 32 := challenge ++ uid.push sreg
  let stat ← onEngine K (E.loadPlainKey gAuthIdKey)
  if stat ≠ statusSuccess then return (false, uid)
  let (stat, verifStatus) ← onEngine K (E.verifyMacBlocking verif 256 mac 128)
  if stat ≠ statusSuccess then return (false, uid)
  return (verifStatus, uid)

/-- `HSM_EraseKeys`, from where it loads its key. -/
def answerChallenge (uid : Vector UInt8 15) (k : Block) : DebugM P Bool := do
  let stat ← onHsm P (onEngine K (E.loadPlainKey k))
  if stat ≠ statusSuccess then return false
  let (stat, challenge) ← securityDbgChal P
  if stat ≠ statusSuccess then return false
  let authPlain : Vector UInt8 31 := challenge ++ uid
  let (stat, auth) ← onHsm P (onEngine K (E.generateMacBlocking authPlain 248))
  if stat ≠ statusSuccess then return false
  let stat ← securityDbgAuth P auth
  if stat ≠ statusSuccess then return false
  return true

/-- `HSM_EraseKeys` -/
def hsmEraseKeys : DebugM P Bool := do
  -- what these three return is not looked at
  let _ ← onHsm P (onEngine K E.initRng)
  let (_, uid) ← onHsm P (hsmGetUid P)
  let (_, k) ← onHsm P (onEngine K (hsmDeriveKey E gAuthIdKey keyDebugKeyC))
  answerChallenge P uid k

end

/-! ## What an erasure does -/

section
variable {E : SecurityEngine} {K : KeyMemory E} {P : DebugPort K}

theorem run_bind_state {σ α β : Type} (x : StateM σ α) (k : α → StateM σ β) (s : σ) :
    (x >>= k).run s = (k (x.run s).1).run (x.run s).2 := rfl

/-- A status that is checked. -/
theorem run_check {σ α : Type} {stat : Int} {a : α} {k : StateM σ α} {s : σ} :
    (if stat ≠ statusSuccess then pure a else k : StateM σ α).run s =
      if stat = statusSuccess then k.run s else (a, s) := by
  by_cases h : stat = statusSuccess
  · rw [if_neg (not_not_intro h), if_pos h]
  · rw [if_pos h, if_neg h]
    rfl

/-- How an erasure ends that answers the challenge of the `n`-th call with the
MAC of `k`: nothing is changed, or the memory is erased, when this was the
answer. -/
inductive EraseResult (μ : K.Memory) (k : Block) (uid : Vector UInt8 15) (n : Nat) :
    Bool × Debugged P → Prop where
  | kept (engine : EngineState) (challenge : Option Block) :
      EraseResult μ k uid n (false, { hsm := { engine, memory := μ }, challenge })
  | erased (engine : EngineState)
      (h : E.mac k ((P.challenge n).toList ++ uid.toList) = P.answer μ (P.challenge n)) :
      EraseResult μ k uid n (true, { hsm := { engine, memory := P.erase μ } })

theorem EraseResult.effect {μ : K.Memory} {k : Block} {uid : Vector UInt8 15} {n : Nat}
    {r : Bool × Debugged P} (h : EraseResult μ k uid n r) :
    r.1 = false ∧ r.2.hsm.memory = μ ∨
      r.1 = true ∧ r.2.hsm.memory = P.erase μ ∧
        E.mac k ((P.challenge n).toList ++ uid.toList) = P.answer μ (P.challenge n) := by
  cases h with
  | kept engine challenge => exact .inl ⟨rfl, rfl⟩
  | erased engine h => exact .inr ⟨rfl, rfl, h⟩

theorem EraseResult.of_check {c : Prop} [Decidable c] {μ : K.Memory} {k : Block}
    {uid : Vector UInt8 15} {n : Nat} {r : Bool × Debugged P} {engine : EngineState}
    {challenge : Option Block} (h : c → EraseResult μ k uid n r) :
    EraseResult μ k uid n
      (if c then r else (false, { hsm := { engine, memory := μ }, challenge })) := by
  split
  · exact h ‹_›
  · exact .kept _ _

theorem onHsm_loadPlainKey (k : Block) (s : Debugged P) :
    (onHsm P (onEngine K (E.loadPlainKey k))).run s =
      (E.stat s.hsm.engine.calls,
        { s with hsm := { s.hsm with engine :=
          ⟨if E.stat s.hsm.engine.calls = statusSuccess then k else s.hsm.engine.ramKey,
            s.hsm.engine.calls + 1⟩ } }) := rfl

theorem onHsm_generateMac {size : Nat} (msg : Vector UInt8 size) (msgLen : Nat)
    (s : Debugged P) :
    (onHsm P (onEngine K (E.generateMacBlocking msg msgLen))).run s =
      ((E.stat s.hsm.engine.calls,
        if E.stat s.hsm.engine.calls = statusSuccess then
          E.mac s.hsm.engine.ramKey (msg.toList.take (msgLen / 8))
        else E.left s.hsm.engine.calls 16),
        { s with hsm := { s.hsm with engine :=
          { s.hsm.engine with calls := s.hsm.engine.calls + 1 } } }) := rfl

theorem securityDbgChal_run (s : Debugged P) :
    (securityDbgChal P).run s =
      if E.stat s.hsm.engine.calls = statusSuccess then
        ((statusSuccess, P.challenge s.hsm.engine.calls),
          { hsm := { s.hsm with engine :=
              { s.hsm.engine with calls := s.hsm.engine.calls + 1 } },
            challenge := some (P.challenge s.hsm.engine.calls) })
      else ((E.stat s.hsm.engine.calls, E.left s.hsm.engine.calls 16),
        { s with hsm := { s.hsm with engine :=
          { s.hsm.engine with calls := s.hsm.engine.calls + 1 } } }) := rfl

theorem securityDbgAuth_result (s : Debugged P) {n : Nat}
    (hchallenge : s.challenge = some (P.challenge n)) (k : Block) (uid : Vector UInt8 15) :
    EraseResult s.hsm.memory k uid n
      (let r := (securityDbgAuth P (E.mac k ((P.challenge n).toList ++ uid.toList))).run s
      if r.1 = statusSuccess then (true, r.2) else (false, r.2)) := by
  show EraseResult s.hsm.memory k uid n
    (if (securityDbgAuth P _ s).1 = statusSuccess then (true, (securityDbgAuth P _ s).2)
      else (false, (securityDbgAuth P _ s).2))
  unfold securityDbgAuth
  rw [hchallenge, Option.any_some]
  by_cases hstat : E.stat s.hsm.engine.calls = statusSuccess
  · by_cases hauth : E.mac k ((P.challenge n).toList ++ uid.toList) =
        P.answer s.hsm.memory (P.challenge n)
    · simp only [hstat, hauth, decide_true, if_true]
      exact .erased _ hauth
    · simp only [hstat, hauth, decide_false, Bool.false_eq_true, if_true, if_false, P.refusal_ne]
      exact .kept _ _
  · simp only [hstat, if_false]
    exact .kept _ _

theorem answerChallenge_result (s : Debugged P) (uid : Vector UInt8 15) (k : Block) :
    EraseResult s.hsm.memory k uid (s.hsm.engine.calls + 1) ((answerChallenge P uid k).run s) := by
  unfold answerChallenge
  rw [run_bind_state, onHsm_loadPlainKey, run_check]
  apply EraseResult.of_check
  intro hload
  rw [run_bind_state, securityDbgChal_run]
  by_cases hchal : E.stat (s.hsm.engine.calls + 1) = statusSuccess
  · rw [if_pos hchal, run_check, if_pos rfl, run_bind_state, onHsm_generateMac, run_check]
    apply EraseResult.of_check
    intro hmac
    have hplain : ((P.challenge (s.hsm.engine.calls + 1) ++ uid :
        Vector UInt8 31).toList.take (248 / 8)) =
        (P.challenge (s.hsm.engine.calls + 1)).toList ++ uid.toList := by
      rw [List.take_of_length_le (by simp), Vector.toList_append]
    rw [run_bind_state, run_check, if_pos hmac, if_pos hload, hplain]
    apply securityDbgAuth_result
      { hsm := { s.hsm with engine := ⟨k, s.hsm.engine.calls + 1 + 1 + 1⟩ },
        challenge := some (P.challenge (s.hsm.engine.calls + 1)) }
    rfl
  · rw [if_neg hchal, run_check, if_neg hchal]
    exact .kept _ _

theorem securityGetId_run (challenge : Block) {s : Hsm K}
    (hid : E.stat s.engine.calls = statusSuccess) :
    (securityGetId P challenge).run s =
      ((statusSuccess, P.uid, P.sreg s.engine.calls,
        P.idMac s.memory (challenge.toList ++ P.uid.toList ++ [P.sreg s.engine.calls])),
        { s with engine := { s.engine with calls := s.engine.calls + 1 } }) := if_pos hid

/-- What `HSM_GetUID` leaves, when the engine tells the UID. -/
theorem hsmGetUid_run (s : Hsm K) (hid : E.stat s.engine.calls = statusSuccess) :
    ((hsmGetUid P).run s).1.2 = P.uid ∧
      ((hsmGetUid P).run s).2.memory = s.memory ∧
      ((hsmGetUid P).run s).2.engine.calls =
        s.engine.calls + if E.stat (s.engine.calls + 1) = statusSuccess then 3 else 2 := by
  unfold hsmGetUid
  rw [run_bind_state, securityGetId_run _ hid, run_check, if_pos rfl, run_bind_state,
    run_check]
  split
  · rename_i hload
    change E.stat (s.engine.calls + 1) = statusSuccess at hload
    rw [run_bind_state, run_check, if_pos hload]
    -- the UID is the same whatever comes of its MAC
    split <;> exact ⟨rfl, rfl, rfl⟩
  · rename_i hload
    change ¬ E.stat (s.engine.calls + 1) = statusSuccess at hload
    rw [if_neg hload]
    exact ⟨rfl, rfl, rfl⟩

/-- The call of an erasure that derives its key. -/
def Hsm.debugDerivation (s : Hsm K) : Nat :=
  s.engine.calls + if E.stat (s.engine.calls + 2) = statusSuccess then 4 else 3

theorem hsmEraseKeys_result (s : Debugged P)
    (hid : E.stat (s.hsm.engine.calls + 1) = statusSuccess)
    (hderives : E.stat s.hsm.debugDerivation = statusSuccess) :
    EraseResult s.hsm.memory (E.derived gAuthIdKey keyDebugKeyC) P.uid
      (s.hsm.debugDerivation + 2) ((hsmEraseKeys P).run s) := by
  -- the generator is ready, and the UID is read
  let s₁ : Hsm K :=
    { s.hsm with engine := { s.hsm.engine with calls := s.hsm.engine.calls + 1 } }
  obtain ⟨huid, hmemory, hcalls⟩ := hsmGetUid_run (P := P) s₁ hid
  have hderivation : ((hsmGetUid P).run s₁).2.engine.calls = s.hsm.debugDerivation := by
    rw [hcalls]
    show s.hsm.engine.calls + 1 + (if _ then 3 else 2) = s.hsm.engine.calls + if _ then 4 else 3
    split <;> rfl
  generalize hget : (hsmGetUid P).run s₁ = r at huid hmemory hderivation
  have hrun : (hsmEraseKeys P).run s =
      (answerChallenge P r.1.2 (E.derivedAt r.2.engine.calls gAuthIdKey keyDebugKeyC)).run
        { s with hsm := { r.2 with engine :=
          { r.2.engine with calls := r.2.engine.calls + 1 } } } := by
    rw [← hget]
    rfl
  have hkey : E.derivedAt s.hsm.debugDerivation gAuthIdKey keyDebugKeyC =
      E.derived gAuthIdKey keyDebugKeyC := if_pos hderives
  rw [hrun, hderivation, huid, hkey, ← hmemory]
  exact answerChallenge_result
    { hsm := { r.2 with engine := ⟨r.2.engine.ramKey, s.hsm.debugDerivation + 1⟩ },
      challenge := s.challenge } P.uid _

end

/-! ## Lives of the key memory -/

/-- What a call does that returns true. -/
inductive KeyChange where
  | setAuthKey
  | loadKey (slot : Nat) (v : Versioned Block)
  | eraseKeys

/-- Only a life that has begun has keys that change, or ends. -/
def lifeStep (slots : KeySlots) : KeyChange → Option KeySlots
  | .setAuthKey =>
      if slots securityMasterEcu.toNat = ⟨gEmptyKey, 0⟩ then
        some (Versions.install slots (securityMasterEcu.toNat, ⟨gAuthIdKey, 1⟩))
      else none
  | .loadKey slot v =>
      if (slots securityMasterEcu.toNat).value = gAuthIdKey ∧ (slots slot).version < v.version then
        some (Versions.install slots (slot, v))
      else none
  | .eraseKeys =>
      if (slots securityMasterEcu.toNat).value = gAuthIdKey then some erasedSlots else none

/-- The calls of a run. -/
inductive KeyCall where
  | hsm (c : HsmCall)
  | erase

section
variable {E : SecurityEngine} {K : KeyMemory E} {P : DebugPort K}

/-- Whether a call returned true, and the state after it. -/
def KeyCall.run (s : Debugged P) : KeyCall → Bool × Debugged P
  | .hsm c => ((c.run s.hsm).1, { s with hsm := (c.run s.hsm).2 })
  | .erase => (hsmEraseKeys P).run s

def keyStep (s : Debugged P) (c : KeyCall) : Debugged P := (c.run s).2

def KeyCall.change : KeyCall → Option KeyChange
  | .hsm .init => none
  | .hsm (.setAuthKey _) => some .setAuthKey
  | .hsm (.loadKey keyId keyNew counter _) =>
      some (.loadKey keyId.toNat ⟨keyNew, counter.toNat⟩)
  | .erase => some .eraseKeys

/-- The change of a call that returned true. -/
def Debugged.changes (s : Debugged P) (c : KeyCall) : List KeyChange :=
  if (c.run s).1 then c.change.toList else []

def Debugged.slots (s : Debugged P) : KeySlots := K.slots s.hsm.memory

/-- The master key was not set yet, or it is the one that the code sets. -/
def KeySlots.Master (slots : KeySlots) : Prop :=
  slots securityMasterEcu.toNat = ⟨gEmptyKey, 0⟩ ∨
    (slots securityMasterEcu.toNat).value = gAuthIdKey

/-- The message of `HSM_LoadKey` does not have the MAC of the empty key. -/
def SecurityEngine.RefusesUnset (E : SecurityEngine) (keyId : UInt32) (keyNew : Block)
    (counter : UInt8) : Prop :=
  let m := updateRequest E (E.derived gAuthIdKey keyUpdateEncC) (E.derived gAuthIdKey keyUpdateMacC)
    keyId keyNew counter.toUInt32
  m.m3 ≠ E.mac (E.derived gEmptyKey keyUpdateMacC) (m.m1.toList ++ m.m2.toList)

/-- What the code does not check of a call works, and the engine can tell its
message, or its answer, from those of the empty key. -/
def Debugged.Trusts (s : Debugged P) : KeyCall → Prop
  | .hsm c => c.KeepsMaster ∧ s.hsm.Derives c ∧
      match c with
      | .loadKey keyId keyNew counter _ => E.RefusesUnset keyId keyNew counter
      | _ => True
  | .erase =>
      let n := s.hsm.debugDerivation
      let plain := (P.challenge (n + 2)).toList ++ P.uid.toList
      E.stat (s.hsm.engine.calls + 1) = statusSuccess ∧ E.stat n = statusSuccess ∧
        E.mac (E.derived gAuthIdKey keyDebugKeyC) plain ≠
          E.mac (E.derived gEmptyKey keyDebugKeyC) plain

/-- The master key is set over an empty one. -/
theorem setAuthKey_effect {s : Hsm K}
    (h : K.slots s.memory securityMasterEcu.toNat = ⟨gEmptyKey, 0⟩) {m : M1M2M3}
    (hderives : s.Derives (.setAuthKey m)) :
    ((hsmSetAuthKey K m).run s).1 = false ∧
        ((hsmSetAuthKey K m).run s).2.memory = s.memory ∨
      ((hsmSetAuthKey K m).run s).1 = true ∧
        K.slots ((hsmSetAuthKey K m).run s).2.memory =
          Versions.install (K.slots s.memory) (securityMasterEcu.toNat, ⟨gAuthIdKey, 1⟩) := by
  have hvalue : (K.slots s.memory securityMasterEcu.toNat).value = gEmptyKey := by rw [h]
  rcases hsmUpdate_effect hvalue securityMasterEcu gAuthIdKey 1 m hderives with
    hkept | ⟨htrue, -, hslots⟩
  · exact .inl hkept
  · exact .inr ⟨htrue, hslots⟩

/-- No key is loaded under an empty master key. -/
theorem loadKey_unset {s : Hsm K}
    (h : K.slots s.memory securityMasterEcu.toNat = ⟨gEmptyKey, 0⟩) {keyId : UInt32}
    {keyNew : Block} {counter : UInt8} {m : M1M2M3}
    (hderives : s.Derives (.loadKey keyId keyNew counter m))
    (hrefuses : E.RefusesUnset keyId keyNew counter) :
    ((hsmLoadKey K keyId keyNew counter m).run s).1 = false ∧
      ((hsmLoadKey K keyId keyNew counter m).run s).2.memory = s.memory := by
  apply hsmUpdate_refused hderives
  rw [h]
  exact hrefuses

/-- A call that changes nothing. -/
theorem Debugged.changes_of_false {s : Debugged P} {c : KeyCall} (hfalse : (c.run s).1 = false)
    (hslots : (keyStep s c).slots = s.slots) :
    Runs.run lifeStep s.slots (s.changes c) = some (keyStep s c).slots := by
  unfold Debugged.changes
  rw [hfalse, if_neg Bool.false_ne_true, hslots]
  rfl

theorem Debugged.changes_of_true {s : Debugged P} {c : KeyCall} {change : KeyChange}
    (htrue : (c.run s).1 = true) (hchange : c.change = some change)
    (hslots : lifeStep s.slots change = some (keyStep s c).slots) :
    Runs.run lifeStep s.slots (s.changes c) = some (keyStep s c).slots := by
  unfold Debugged.changes
  rw [htrue, if_pos rfl, hchange]
  show (lifeStep s.slots change).bind _ = _
  rw [hslots]
  rfl

theorem lifeStep_master {slots slots' : KeySlots} (h : slots.Master) {c : KeyChange}
    (hmaster : ∀ v, c ≠ .loadKey securityMasterEcu.toNat v)
    (hstep : lifeStep slots c = some slots') : slots'.Master := by
  cases c with
  | setAuthKey =>
      obtain ⟨-, hslots'⟩ := Option.ite_none_right_eq_some.mp hstep
      cases hslots'
      right
      rw [Versions.install_self]
  | loadKey slot v =>
      obtain ⟨-, hslots'⟩ := Option.ite_none_right_eq_some.mp hstep
      cases hslots'
      have hne : securityMasterEcu.toNat ≠ slot := by
        rintro rfl
        exact hmaster v rfl
      unfold KeySlots.Master
      rw [Versions.install_of_ne _ hne]
      exact h
  | eraseKeys =>
      obtain ⟨-, hslots'⟩ := Option.ite_none_right_eq_some.mp hstep
      cases hslots'
      exact .inl rfl

/-- **A call does what it returns.** -/
theorem Debugged.changes_run (hempty : E.RefusesEmptyKey) {s : Debugged P}
    (h : s.slots.Master) {c : KeyCall} (htrusts : s.Trusts c) :
    Runs.run lifeStep s.slots (s.changes c) = some (keyStep s c).slots := by
  cases c with
  | hsm c =>
      obtain ⟨-, hderives, hrefuses⟩ := htrusts
      cases c with
      | init => exact Debugged.changes_of_false rfl rfl
      | setAuthKey m =>
          rcases h with hunset | hset
          · rcases setAuthKey_effect hunset hderives with ⟨hfalse, hmemory⟩ | ⟨htrue, hslots⟩
            · exact Debugged.changes_of_false hfalse (congrArg K.slots hmemory)
            · exact Debugged.changes_of_true htrue rfl
                ((if_pos hunset).trans (congrArg some hslots.symm))
          · obtain ⟨hfalse, hmemory⟩ := setAuthKey_kept hempty hset hderives
            exact Debugged.changes_of_false hfalse (congrArg K.slots hmemory)
      | loadKey keyId keyNew counter m =>
          rcases h with hunset | hset
          · obtain ⟨hfalse, hmemory⟩ := loadKey_unset hunset hderives hrefuses
            exact Debugged.changes_of_false hfalse (congrArg K.slots hmemory)
          · rcases loadKey_effect hset hderives with
              ⟨hfalse, hmemory⟩ | ⟨htrue, hnewer, hslots⟩
            · exact Debugged.changes_of_false hfalse (congrArg K.slots hmemory)
            · exact Debugged.changes_of_true htrue rfl
                ((if_pos ⟨hset, hnewer⟩).trans (congrArg some hslots.symm))
  | erase =>
      obtain ⟨hid, hderives, hne⟩ := htrusts
      rcases (hsmEraseKeys_result s hid hderives).effect with
        ⟨hfalse, hmemory⟩ | ⟨htrue, hmemory, hanswer⟩
      · exact Debugged.changes_of_false hfalse (congrArg K.slots hmemory)
      · have hslots : (keyStep s .erase).slots = erasedSlots :=
          (congrArg K.slots hmemory).trans (P.erase_slots s.hsm.memory)
        rcases h with hunset | hset
        · -- the answer would be one that the empty key gives
          unfold DebugPort.answer at hanswer
          change _ = E.mac (E.derived (s.slots securityMasterEcu.toNat).value _) _ at hanswer
          rw [hunset] at hanswer
          exact absurd hanswer hne
        · exact Debugged.changes_of_true htrue rfl
            ((if_pos hset).trans (congrArg some hslots.symm))

theorem Debugged.changes_keepMaster {s : Debugged P} {c : KeyCall} (htrusts : s.Trusts c) :
    ∀ change ∈ s.changes c, ∀ v, change ≠ .loadKey securityMasterEcu.toNat v := by
  rintro change hchange v rfl
  unfold Debugged.changes at hchange
  split at hchange
  · rw [Option.mem_toList] at hchange
    cases c with
    | hsm c =>
        cases c with
        | loadKey keyId keyNew counter m =>
            obtain ⟨hkeyId, -⟩ := KeyChange.loadKey.inj (Option.some.inj hchange)
            exact htrusts.1 (UInt32.toNat_inj.mp hkeyId)
        | _ => cases hchange
    | erase => cases hchange
  · cases hchange

theorem keyStep_master (hempty : E.RefusesEmptyKey) {s : Debugged P} (h : s.slots.Master)
    {c : KeyCall} (htrusts : s.Trusts c) : (keyStep s c).slots.Master := by
  have hrun := Debugged.changes_run hempty h htrusts
  apply Runs.inv_of_run (I := KeySlots.Master)
    (G := fun _ c => ∀ v, c ≠ KeyChange.loadKey securityMasterEcu.toNat v) _ h _ hrun
  · intro slots change slots' h hmaster hstep
    exact lifeStep_master h hmaster hstep
  · exact Runs.meets_of_forall (Debugged.changes_keepMaster htrusts)

/-- **The key memory goes through lives**: in every run of calls and boots,
whatever of the engine fails that the code looks at, the slots are what the
calls that returned true make of them, one after the other: keys are loaded
between `HSM_SetAuthKey` and `HSM_EraseKeys` only, over lower counters, the
master key is set once before it is erased, and then all slots are empty. -/
theorem keys_go_through_lives (hempty : E.RefusesEmptyKey) {s : Debugged P}
    (h : s.slots.Master) (cs : List KeyCall)
    (htrusts : Runs.Meets (Runs.total keyStep) Debugged.Trusts s cs) :
    Runs.run lifeStep s.slots (Runs.trace keyStep Debugged.changes s cs) =
      some (cs.foldl keyStep s).slots :=
  Runs.run_trace (I := fun s : Debugged P => s.slots.Master)
    (fun _ _ h hc => keyStep_master hempty h hc)
    (fun _ _ h hc => Debugged.changes_run hempty h hc) h htrusts

end

/-! ## An engine with its debug port -/

/-- A port that erases every memory. -/
def openPort (E : SecurityEngine) : DebugPort (openMemory E) where
  uid := Vector.replicate 15 7
  sreg _ := 0
  idMac _ _ := gEmptyKey
  challenge n := Vector.replicate 16 n.toUInt8
  erase _ := erasedSlots
  erase_slots _ := rfl
  refusal := 1
  refusal_ne := Int.one_ne_zero

/-- The MACs of two keys differ. -/
theorem xorEngine_mac_ne {k k' : Block} (h : k ≠ k') (msg : List UInt8) :
    xorEngine.mac k msg ≠ xorEngine.mac k' msg := by
  intro hmac
  apply h
  have hcomm : ∀ k b : Block, xorKey k b = xorKey b k := by
    intro k b
    apply Vector.ext
    intro i hi
    have hmod : Fin.ofNat 16 i = ⟨i, hi⟩ := Fin.ext (Nat.mod_eq_of_lt hi)
    rw [xorKey, xorKey, Vector.getElem_ofFn, Vector.getElem_ofFn, hmod]
    exact UInt8.xor_comm _ _
  change xorKey k _ = xorKey k' _ at hmac
  have hcancel := congrArg (xorKey (Vector.replicate 16 (msg.foldl (· ^^^ ·) 0))) hmac
  rw [hcomm k, hcomm k', xorKey_xorKey, xorKey_xorKey] at hcancel
  exact hcancel

theorem xorEngine_trusts (s : Debugged (openPort xorEngine)) {c : KeyCall}
    (hmaster : ∀ c', c = .hsm c' → c'.KeepsMaster) : s.Trusts c := by
  cases c with
  | hsm c =>
      refine ⟨hmaster c rfl, ?_, ?_⟩
      · cases c with
        | init => trivial
        | _ => exact ⟨rfl, rfl⟩
      · cases c with
        | loadKey keyId keyNew counter m => exact xorEngine_mac_ne (by decide +kernel) _
        | _ => trivial
  | erase => exact ⟨rfl, rfl, xorEngine_mac_ne (by decide +kernel) _⟩

example : ((hsmEraseKeys (openPort xorEngine)).run { hsm := bootedOnce }).1 = true := by
  decide +kernel

/-- Two lives: a boot, an erasure, a key that is not loaded, and a boot. -/
def twoLives : List KeyCall :=
  let boot := (bootCalls anyBuffers anyBuffers anyBuffers).map KeyCall.hsm
  boot ++ [.erase, .hsm (.loadKey securityKey1 key1Value 7 anyBuffers)] ++ boot

/-- The memory that no key was loaded into. -/
def unsetKeys : Debugged (openPort xorEngine) := { hsm := ⟨⟨gEmptyKey, 0⟩, erasedSlots⟩ }

theorem keys_go_through_lives_two :
    Runs.run lifeStep unsetKeys.slots (Runs.trace keyStep Debugged.changes unsetKeys twoLives) =
      some (twoLives.foldl keyStep unsetKeys).slots := by
  apply keys_go_through_lives xorEngine_refusesEmptyKey (.inl rfl)
  apply Runs.meets_of_forall_state
  intro c hc s
  apply xorEngine_trusts
  rintro c' rfl
  -- the slots that a life names are those of a boot
  simp only [twoLives, bootCalls, List.map_cons, List.map_nil, List.mem_append, List.mem_cons,
    List.not_mem_nil, or_false, reduceCtorEq, false_or, KeyCall.hsm.injEq] at hc
  rcases hc with ((rfl | rfl | rfl | rfl) | rfl) | (rfl | rfl | rfl | rfl) <;> decide

end XcanRouter
