import XcanRouter.Base.Prog
import XcanRouter.Framework.EcuLayout
import XcanRouter.Framework.Firmware

/-!
# ECU records on the SD card (sdhc.c)

The record of ECU `i` is kept in the file `i/i.bin`. FatFs is not part of the
repository. What its calls give is an argument of the functions; what is used
of them is that a file that was created, written and closed holds what was
written, and that a file that cannot be opened stays as it was.
-/

namespace XcanRouter

/-- `FRESULT` (ff.h) -/
inductive FResult where
  | ok
  | diskErr
  | intErr
  | notReady
  | noFile
  | noPath
  | invalidName
  | denied
  | exist
  | invalidObject
  | writeProtected
  | invalidDrive
  | notEnabled
  | noFilesystem
  | mkfsAborted
  | timeout
  | locked
  | notEnoughCore
  | tooManyOpenFiles
  | invalidParameter
deriving DecidableEq, Repr

def statusError : Int := 1

/-- The files `i/i.bin` of a card. -/
abbrev Card := UInt32 → Option (List UInt8)

/-! ## The functions -/

/-- What the FatFs calls of one `SD_storeECU` give. -/
structure StoreCalls where
  mkdir : FResult
  fOpen : FResult
  fWrite : FResult
  /-- The number of bytes that `f_write` takes. -/
  bw : Nat
  fClose : FResult
  /-- What the file holds when it is not closed, or not well. -/
  lost : Option (List UInt8)

/-- What the FatFs calls of one `SD_loadECU` give. -/
structure LoadCalls where
  fOpen : FResult
  fRead : FResult
  /-- The number of bytes that `f_read` delivers. -/
  br : Nat
  data : Bytes
  br_le : br ≤ sizeofEcu

section
variable {cfg : Config} (L : EcuLayout cfg)

/-- The bytes of a record as a file has them. -/
def EcuLayout.file (ecu : Ecu) : List UInt8 := bytesOf (L.bytes ecu) sizeofEcu

/-- `SD_storeECU` -/
def sdStoreEcu (ecuList : UInt8 → Ecu) (ecuId : UInt8) (calls : StoreCalls) (card : Card) :
    Int × Card :=
  -- what `f_mkdir` gives is overwritten
  let res := calls.fOpen
  if res = .ok then
    let res := calls.fWrite
    if calls.bw < sizeofEcu ∨ res ≠ .ok then
      (statusError, Function.update card ecuId.toUInt32 calls.lost)
    else
      let file := (L.file (ecuList ecuId)).take calls.bw
      (statusSuccess, Function.update card ecuId.toUInt32
        (if calls.fClose = .ok then some file else calls.lost))
  else
    (statusSuccess, card)

/-- An `f_read` into an entry. -/
def EcuLayout.readInto (ecu : Ecu) (br : Nat) (data : Bytes) : Ecu :=
  cfg.ecuOfBytes ((L.bytes ecu).splice 0 br data)

/-- `SD_loadECU` -/
def sdLoadEcu (ecuList : UInt8 → Ecu) (ecuId : UInt8) (calls : LoadCalls) :
    Int × (UInt8 → Ecu) :=
  if calls.fOpen = .ok then
    let ecuList := Function.update ecuList ecuId
      (L.readInto (ecuList ecuId) calls.br calls.data)
    if calls.br ≠ sizeofEcu ∨ calls.fRead ≠ .ok then (statusError, ecuList)
    else (statusSuccess, ecuList)
  else
    (statusError, ecuList)

/-- A turn of the loop of `SD_storeAllECU`. -/
def sdStoreNext (ecuList : UInt8 → Ecu) (calls : Nat → StoreCalls) (s : Int × Card) (i : Nat) :
    Int × Card :=
  let stored := sdStoreEcu L ecuList (UInt8.ofNat i) (calls i) s.2
  (if stored.1 ≠ statusSuccess then statusError else s.1, stored.2)

/-- `SD_storeAllECU` -/
def sdStoreAllEcu (ecuList : UInt8 → Ecu) (calls : Nat → StoreCalls) (card : Card) :
    Int × Card :=
  (List.range cfg.numOfEcus).foldl (sdStoreNext L ecuList calls) (statusSuccess, card)

/-- `f_open` on a card that works. -/
def Card.fOpen (card : Card) (i : UInt32) : FResult :=
  if (card i).isSome then .ok else .noFile

/-- The loop of `SD_loadAllECU`, on a card that works. -/
def sdLoadAllEcuWhile (card : Card) : Nat → UInt32 → UInt32 → Prog (UInt8 → Ecu) Int
  | 0, _, _ => Prog.diverge
  | fuel + 1, currentEcu, nextEcu => do
    let res := card.fOpen currentEcu
    if res = .ok then
      let file := (card currentEcu).getD []
      Prog.modify fun ecuList => Function.update ecuList currentEcu.toUInt8
        (L.readInto (ecuList currentEcu.toUInt8) (min sizeofEcu file.length)
          fun i => file.getD i 0)
      sdLoadAllEcuWhile card fuel currentEcu (nextEcu + 1)
    else if res = .noFile then
      return statusSuccess
    else
      sdLoadAllEcuWhile card fuel currentEcu nextEcu

/-- `SD_loadAllECU` -/
def sdLoadAllEcu (card : Card) (fuel : Nat) : Prog (UInt8 → Ecu) Int :=
  sdLoadAllEcuWhile L card fuel 0 (0 + 1)

end

/-! ## Loading a record -/

section
variable {cfg : Config} {L : EcuLayout cfg} {ecuList : UInt8 → Ecu} {ecuId : UInt8}

/-- An entry stays what it is when it is read over with its own bytes. -/
theorem readInto_eq_iff {ecu : Ecu} {br : Nat} {data : Bytes} (hbr : br ≤ sizeofEcu) :
    L.readInto ecu br data = ecu ↔ ∀ i < br, data i = L.bytes ecu i := by
  unfold EcuLayout.readInto
  rw [L.ofBytes_eq_iff]
  constructor
  · intro h i hi
    have hbyte := h i (Nat.lt_of_lt_of_le hi hbr)
    rwa [Bytes.splice, if_pos ⟨Nat.zero_le i, by omega⟩] at hbyte
  · intro h i hi
    unfold Bytes.splice
    split
    · rename_i hin
      exact h i (by omega)
    · rfl

/-- A complete read replaces the entry. -/
theorem readInto_all {ecu : Ecu} {data : Bytes} :
    L.readInto ecu sizeofEcu data = cfg.ecuOfBytes data := by
  apply L.ofBytes_congr
  intro i hi
  rw [Bytes.splice, if_pos ⟨Nat.zero_le i, by omega⟩]
  rfl

/-- The other entries are not touched. -/
theorem sdLoadEcu_of_ne {calls : LoadCalls} {j : UInt8} (hj : j ≠ ecuId) :
    (sdLoadEcu L ecuList ecuId calls).2 j = ecuList j := by
  unfold sdLoadEcu
  dsimp only
  repeat' split
  all_goals simp [hj]

/-- A file that is opened is read into the entry, whatever comes of it. -/
theorem sdLoadEcu_opened {calls : LoadCalls} (hopen : calls.fOpen = .ok) :
    sdLoadEcu L ecuList ecuId calls =
      (if calls.br ≠ sizeofEcu ∨ calls.fRead ≠ .ok then statusError else statusSuccess,
        Function.update ecuList ecuId (L.readInto (ecuList ecuId) calls.br calls.data)) := by
  unfold sdLoadEcu
  rw [if_pos hopen]
  dsimp only
  split <;> rfl

/-- **A failed load leaves the list alone exactly when** it reads nothing that
is not in the entry already: the file is not opened, or read completely, or
what is read of it is what the entry has. -/
theorem load_failure_intact_iff (L : EcuLayout cfg) (ecuList : UInt8 → Ecu) (ecuId : UInt8)
    (calls : LoadCalls) :
    (((sdLoadEcu L ecuList ecuId calls).1 = statusError →
        (sdLoadEcu L ecuList ecuId calls).2 = ecuList) ∧
      ∀ j, j ≠ ecuId → (sdLoadEcu L ecuList ecuId calls).2 j = ecuList j) ↔
      calls.fOpen ≠ .ok ∨ (calls.fRead = .ok ∧ calls.br = sizeofEcu) ∨
        ∀ i < calls.br, calls.data i = L.bytes (ecuList ecuId) i := by
  rw [and_iff_left fun j hj => sdLoadEcu_of_ne hj]
  by_cases hopen : calls.fOpen = .ok
  · have hintact : Function.update ecuList ecuId
        (L.readInto (ecuList ecuId) calls.br calls.data) = ecuList ↔
          ∀ i < calls.br, calls.data i = L.bytes (ecuList ecuId) i := by
      rw [Function.update_eq_self_iff, readInto_eq_iff calls.br_le]
    rw [sdLoadEcu_opened hopen, hintact]
    by_cases hread : calls.br ≠ sizeofEcu ∨ calls.fRead ≠ .ok
    · dsimp only
      rw [if_pos hread]
      constructor
      · intro h
        exact .inr (.inr (h rfl))
      · rintro (hclosed | ⟨hok, hbr⟩ | hdata)
        · exact absurd hopen hclosed
        · rcases hread with hshort | herror
          · exact absurd hbr hshort
          · exact absurd hok herror
        · intro _
          exact hdata
    · obtain ⟨hbr, hok⟩ := not_or.mp hread
      dsimp only
      rw [if_neg hread]
      constructor
      · intro _
        exact .inr (.inl ⟨Decidable.of_not_not hok, Decidable.of_not_not hbr⟩)
      · intro _ herror
        cases herror
  · constructor
    · intro _
      exact .inl hopen
    · intro _ _
      unfold sdLoadEcu
      rw [if_neg hopen]

/-- The file of ECU 2 ends after a byte. -/
def truncatedRecord : LoadCalls where
  fOpen := .ok
  fRead := .ok
  br := 1
  data := fun _ => 0x10
  br_le := by decide

/-- The entry has the new status and keeps the old version. -/
theorem truncated_load_mixes :
    (sdLoadEcu frameworkLayout ecuTable 2 truncatedRecord).1 = statusError ∧
      (sdLoadEcu frameworkLayout ecuTable 2 truncatedRecord).2 2 ≠ ecuTable 2 := by
  decide

/-! ## Storing records -/

/-- The file of the ECU holds its record. -/
def Card.HoldsRecord (L : EcuLayout cfg) (card : Card) (ecuList : UInt8 → Ecu) (ecuId : UInt8) :
    Prop := card ecuId.toUInt32 = some (L.file (ecuList ecuId))

/-- The reads of the load succeed: they deliver what the file holds. -/
structure LoadCalls.Succeed (calls : LoadCalls) (card : Card) (ecuId : UInt8) : Prop where
  fOpen : calls.fOpen = .ok
  fRead : calls.fRead = .ok
  br : calls.br = sizeofEcu
  data : ∃ file, card ecuId.toUInt32 = some file ∧ ∀ i < sizeofEcu, calls.data i = file.getD i 0

/-- A load from the card brings the record back, whatever the list has then. -/
def Card.Restores (L : EcuLayout cfg) (card : Card) (ecuList : UInt8 → Ecu) (ecuId : UInt8) :
    Prop :=
  ∀ (calls : LoadCalls) (changed : UInt8 → Ecu), calls.Succeed card ecuId →
    sdLoadEcu L changed ecuId calls =
      (statusSuccess, Function.update changed ecuId (ecuList ecuId))

theorem Card.HoldsRecord.restores {card : Card} (h : card.HoldsRecord L ecuList ecuId) :
    card.Restores L ecuList ecuId := by
  intro calls changed hcalls
  obtain ⟨file, hfile, hdata⟩ := hcalls.data
  obtain rfl := Option.some_inj.mp (h.symm.trans hfile)
  have hrecord : L.readInto (changed ecuId) calls.br calls.data = ecuList ecuId := by
    rw [hcalls.br, readInto_all, L.ofBytes_eq_iff]
    intro i hi
    rw [hdata i hi]
    simp [EcuLayout.file, bytesOf, hi]
  rw [sdLoadEcu_opened hcalls.fOpen, hrecord, if_neg]
  simp [hcalls.br, hcalls.fRead]

/-- The record survives: it is on the card, and can be had back from there. -/
structure Card.Survives (L : EcuLayout cfg) (card : Card) (ecuList : UInt8 → Ecu)
    (ecuId : UInt8) : Prop where
  holds : card.HoldsRecord L ecuList ecuId
  restores : card.Restores L ecuList ecuId

theorem Card.survives_iff {card : Card} :
    card.Survives L ecuList ecuId ↔ card.HoldsRecord L ecuList ecuId :=
  ⟨fun h => h.holds, fun h => ⟨h, h.restores⟩⟩

/-- The write goes wrong, and the store says so. -/
def StoreCalls.Fails (calls : StoreCalls) : Prop :=
  calls.fOpen = .ok ∧ (calls.bw < sizeofEcu ∨ calls.fWrite ≠ .ok)

/-- The card ends up with the record, or the store fails. -/
def StoreCalls.Keeps (L : EcuLayout cfg) (calls : StoreCalls) (card : Card)
    (ecuList : UInt8 → Ecu) (ecuId : UInt8) : Prop :=
  if calls.fOpen = .ok then
    calls.Fails ∨ calls.fClose = .ok ∨ calls.lost = some (L.file (ecuList ecuId))
  else
    card.HoldsRecord L ecuList ecuId

section
variable {calls : StoreCalls} {card : Card}

theorem sdStoreEcu_success_iff :
    (sdStoreEcu L ecuList ecuId calls card).1 = statusSuccess ↔ ¬ calls.Fails := by
  unfold sdStoreEcu StoreCalls.Fails
  dsimp only
  split
  · rename_i hopen
    split
    · rename_i hwrite
      simp [hopen, hwrite, statusError, statusSuccess]
    · rename_i hwrite
      simp [hwrite]
  · rename_i hopen
    simp [hopen]

/-- The other files are not touched. -/
theorem sdStoreEcu_of_ne {i : UInt32} (hi : i ≠ ecuId.toUInt32) :
    (sdStoreEcu L ecuList ecuId calls card).2 i = card i := by
  unfold sdStoreEcu
  dsimp only
  repeat' split
  all_goals simp [hi]

/-- **A store that reports success has stored the record exactly when** the
file could be opened and closed, or held the record anyway. -/
theorem sdStoreEcu_keeps_iff :
    ((sdStoreEcu L ecuList ecuId calls card).1 = statusSuccess →
        (sdStoreEcu L ecuList ecuId calls card).2.HoldsRecord L ecuList ecuId) ↔
      calls.Keeps L card ecuList ecuId := by
  rw [sdStoreEcu_success_iff]
  unfold StoreCalls.Keeps
  split
  · rename_i hopen
    by_cases hfails : calls.Fails
    · exact ⟨fun _ => .inl hfails, fun _ hnot => absurd hfails hnot⟩
    · have hwrite : ¬ (calls.bw < sizeofEcu ∨ calls.fWrite ≠ .ok) := fun h => hfails ⟨hopen, h⟩
      have hall : (L.file (ecuList ecuId)).take calls.bw = L.file (ecuList ecuId) := by
        apply List.take_of_length_le
        rw [EcuLayout.file, length_bytesOf]
        exact Nat.le_of_not_lt fun h => hwrite (.inl h)
      rw [forall_prop_of_true hfails, or_iff_right hfails]
      unfold Card.HoldsRecord sdStoreEcu
      dsimp only
      rw [if_pos hopen, if_neg hwrite, hall]
      dsimp only
      rw [Function.update_self]
      by_cases hclose : calls.fClose = .ok
      · simp [hclose]
      · simp [hclose]
  · rename_i hopen
    have hfails : ¬ calls.Fails := fun h => hopen h.1
    rw [forall_prop_of_true hfails]
    unfold sdStoreEcu
    rw [if_neg hopen]

end

/-! ## All records -/

section
variable {calls : Nat → StoreCalls} {card : Card} {n : Nat}

/-- The numbers of ECUs fit the type of their identifiers. -/
theorem toNat_ofNat_toUInt32 {i : Nat} (hi : i < 256) : (UInt8.ofNat i).toUInt32.toNat = i := by
  rw [UInt8.toNat_toUInt32, UInt8.toNat_ofNat']
  exact Nat.mod_eq_of_lt hi

/-- After the first `n` stores: whether all of them succeeded, and what each of
them left on the card. -/
structure StoredUpTo (L : EcuLayout cfg) (ecuList : UInt8 → Ecu) (calls : Nat → StoreCalls)
    (card : Card) (n : Nat) (s : Int × Card) : Prop where
  success : s.1 = statusSuccess ↔ ∀ i < n, ¬ (calls i).Fails
  stored : ∀ i < n, s.2 (UInt8.ofNat i).toUInt32 =
    (sdStoreEcu L ecuList (UInt8.ofNat i) (calls i) card).2 (UInt8.ofNat i).toUInt32
  rest : ∀ j : UInt32, n ≤ j.toNat → s.2 j = card j

/-- What a store leaves in its file depends on no other file. -/
theorem sdStoreEcu_congr {calls : StoreCalls} {card' : Card}
    (h : card ecuId.toUInt32 = card' ecuId.toUInt32) :
    (sdStoreEcu L ecuList ecuId calls card).2 ecuId.toUInt32 =
      (sdStoreEcu L ecuList ecuId calls card').2 ecuId.toUInt32 := by
  unfold sdStoreEcu
  dsimp only
  repeat' split
  all_goals simp [h]

theorem StoredUpTo.next {s : Int × Card} (h : StoredUpTo L ecuList calls card n s)
    (hn : n < 256) :
    StoredUpTo L ecuList calls card (n + 1) (sdStoreNext L ecuList calls s n) := by
  have hfile : (UInt8.ofNat n).toUInt32.toNat = n := toNat_ofNat_toUInt32 hn
  constructor
  case success =>
    have hstore : (sdStoreEcu L ecuList (UInt8.ofNat n) (calls n) s.2).1 = statusSuccess ↔ _ :=
      sdStoreEcu_success_iff
    rw [Nat.forall_lt_succ_right, ← h.success, ← hstore]
    unfold sdStoreNext
    dsimp only
    split
    · rename_i hfailed
      have herror : statusError ≠ statusSuccess := by decide
      constructor
      · intro h
        exact absurd h herror
      · intro h
        exact absurd h.2 hfailed
    · rename_i hdone
      simp [Decidable.of_not_not hdone]
  case stored =>
    intro i hi
    show (sdStoreEcu L ecuList (UInt8.ofNat n) (calls n) s.2).2 _ = _
    rcases Nat.lt_succ_iff_lt_or_eq.mp hi with hlt | rfl
    · have hne : (UInt8.ofNat i).toUInt32 ≠ (UInt8.ofNat n).toUInt32 := by
        intro heq
        have := congrArg UInt32.toNat heq
        rw [hfile, toNat_ofNat_toUInt32 (Nat.lt_trans hlt hn)] at this
        omega
      rw [sdStoreEcu_of_ne hne, h.stored i hlt]
    · exact sdStoreEcu_congr (h.rest _ (Nat.le_of_eq hfile.symm))
  case rest =>
    intro j hj
    have hne : j ≠ (UInt8.ofNat n).toUInt32 := by
      rintro rfl
      omega
    show (sdStoreEcu L ecuList (UInt8.ofNat n) (calls n) s.2).2 j = _
    rw [sdStoreEcu_of_ne hne, h.rest j (Nat.le_of_succ_le hj)]

theorem storedUpTo (L : EcuLayout cfg) (ecuList : UInt8 → Ecu) (calls : Nat → StoreCalls)
    (card : Card) (hn : n ≤ 256) : StoredUpTo L ecuList calls card n
      ((List.range n).foldl (sdStoreNext L ecuList calls) (statusSuccess, card)) := by
  induction n with
  | zero => exact ⟨by simp, fun i hi => absurd hi (Nat.not_lt_zero i), fun _ _ => rfl⟩
  | succ n ih =>
      rw [List.range_succ, List.foldl_append]
      exact (ih (Nat.le_of_succ_le hn)).next hn

end

/-- **A store that reports success has stored the records exactly when** each
file could be opened and closed, or held its record anyway; or, for the whole
list, when one of the writes failed. -/
theorem records_survive_iff (L : EcuLayout cfg) (ecuList : UInt8 → Ecu) (ecuId : UInt8)
    (one : StoreCalls) (calls : Nat → StoreCalls) (card : Card) (hecus : cfg.numOfEcus ≤ 256) :
    (((sdStoreEcu L ecuList ecuId one card).1 = statusSuccess →
          (sdStoreEcu L ecuList ecuId one card).2.Survives L ecuList ecuId) ↔
        one.Keeps L card ecuList ecuId) ∧
      (((sdStoreAllEcu L ecuList calls card).1 = statusSuccess →
          ∀ i < cfg.numOfEcus,
            (sdStoreAllEcu L ecuList calls card).2.Survives L ecuList (UInt8.ofNat i)) ↔
        (∃ i < cfg.numOfEcus, (calls i).Fails) ∨
          ∀ i < cfg.numOfEcus, (calls i).Keeps L card ecuList (UInt8.ofNat i)) := by
  simp only [Card.survives_iff]
  refine ⟨sdStoreEcu_keeps_iff, ?_⟩
  have hall := storedUpTo L ecuList calls card hecus
  unfold sdStoreAllEcu
  rw [hall.success]
  by_cases hfails : ∃ i < cfg.numOfEcus, (calls i).Fails
  · obtain ⟨i, hi, hi'⟩ := hfails
    constructor
    · intro _
      exact .inl ⟨i, hi, hi'⟩
    · intro _ hnone
      exact absurd hi' (hnone i hi)
  · have hnone : ∀ i < cfg.numOfEcus, ¬ (calls i).Fails := fun i hi h => hfails ⟨i, hi, h⟩
    rw [forall_prop_of_true hnone, or_iff_right hfails]
    apply forall_congr'
    intro i
    apply imp_congr_right
    intro hi
    rw [← sdStoreEcu_keeps_iff, sdStoreEcu_success_iff, forall_prop_of_true (hnone i hi)]
    unfold Card.HoldsRecord
    rw [hall.stored i hi]

/-- Calls that all succeed. -/
def goodStore : StoreCalls where
  mkdir := .ok
  fOpen := .ok
  fWrite := .ok
  bw := sizeofEcu
  fClose := .ok
  lost := none

theorem records_survive_iff_good :
    (((sdStoreEcu frameworkLayout ecuTable 2 goodStore fun _ => none).1 = statusSuccess →
          (sdStoreEcu frameworkLayout ecuTable 2 goodStore fun _ => none).2.Survives
            frameworkLayout ecuTable 2) ↔
        goodStore.Keeps frameworkLayout (fun _ => none) ecuTable 2) ∧
      (((sdStoreAllEcu frameworkLayout ecuTable (fun _ => goodStore) fun _ => none).1 =
            statusSuccess →
          ∀ i < frameworkConfig.numOfEcus,
            (sdStoreAllEcu frameworkLayout ecuTable (fun _ => goodStore)
              fun _ => none).2.Survives frameworkLayout ecuTable (UInt8.ofNat i)) ↔
        (∃ i < frameworkConfig.numOfEcus, goodStore.Fails) ∨
          ∀ i < frameworkConfig.numOfEcus,
            goodStore.Keeps frameworkLayout (fun _ => none) ecuTable (UInt8.ofNat i)) :=
  records_survive_iff frameworkLayout ecuTable 2 goodStore (fun _ => goodStore) (fun _ => none)
    (by decide)

/-- A card without room for the directory. -/
def fullCard : StoreCalls where
  mkdir := .denied
  fOpen := .noPath
  fWrite := .ok
  bw := 0
  fClose := .ok
  lost := none

/-- The store reports success and there is no file. -/
theorem store_without_file :
    (sdStoreEcu frameworkLayout ecuTable 2 fullCard fun _ => none).1 = statusSuccess ∧
      (sdStoreEcu frameworkLayout ecuTable 2 fullCard fun _ => none).2 2 = none ∧
      ¬ ((sdStoreEcu frameworkLayout ecuTable 2 fullCard fun _ => none).1 = statusSuccess →
        (sdStoreEcu frameworkLayout ecuTable 2 fullCard fun _ => none).2.Survives
          frameworkLayout ecuTable 2) := by
  refine ⟨rfl, rfl, ?_⟩
  intro h
  have hfile := (h rfl).holds
  cases hfile

/-! ## Loading all records -/

/-- The files of the first `n` ECUs are complete, and there are no others. -/
structure Card.HasRecords (L : EcuLayout cfg) (card : Card) (records : Nat → Ecu) (n : Nat) :
    Prop where
  inRange : n ≤ cfg.numOfEcus
  complete : ∀ i : UInt32, i.toNat < n →
    ∃ rest, card i = some (L.file (records i.toNat) ++ rest)
  missing : ∀ i : UInt32, n ≤ i.toNat → card i = none

/-- `SD_loadAllECU` comes to an end, with the records in the list. -/
def LoadsAll (L : EcuLayout cfg) (card : Card) (records : Nat → Ecu) (n : Nat)
    (ecuList : UInt8 → Ecu) : Prop :=
  ∃ fuel stat loaded, sdLoadAllEcu L card fuel ecuList = some (stat, loaded) ∧
    (∀ i < n, loaded (UInt8.ofNat i) = records i) ∧
    ∀ ecuId : UInt8, n ≤ ecuId.toNat → loaded ecuId = ecuList ecuId

/-- The number that the path is made of stays what it is. -/
theorem sdLoadAllEcuWhile_stuck {card : Card} {currentEcu : UInt32}
    (hexists : (card currentEcu).isSome) (fuel : Nat) (nextEcu : UInt32)
    (ecuList : UInt8 → Ecu) :
    sdLoadAllEcuWhile L card fuel currentEcu nextEcu ecuList = none := by
  have hopen : card.fOpen currentEcu = .ok := if_pos hexists
  induction fuel generalizing nextEcu ecuList with
  | zero => rfl
  | succ fuel ih =>
      unfold sdLoadAllEcuWhile
      rw [hopen]
      exact ih _ _

/-- Without a first record the loop ends at once. -/
theorem sdLoadAllEcu_empty {card : Card} (hmissing : card 0 = none) (ecuList : UInt8 → Ecu) :
    sdLoadAllEcu L card 1 ecuList = some (statusSuccess, ecuList) := by
  have hopen : card.fOpen 0 = .noFile := by
    unfold Card.fOpen
    rw [hmissing]
    rfl
  unfold sdLoadAllEcu sdLoadAllEcuWhile
  rw [hopen]
  rfl

/-- **All records are loaded exactly when** there are none. -/
theorem load_all_iff (L : EcuLayout cfg) {card : Card} {records : Nat → Ecu} {n : Nat}
    (hcard : card.HasRecords L records n) (ecuList : UInt8 → Ecu) :
    LoadsAll L card records n ecuList ↔ n = 0 := by
  constructor
  · rintro ⟨fuel, stat, loaded, hrun, -, -⟩
    by_contra hn
    obtain ⟨rest, hfile⟩ := hcard.complete 0 (Nat.pos_of_ne_zero hn)
    have hstuck := sdLoadAllEcuWhile_stuck (L := L) (Option.isSome_of_eq_some hfile) fuel
      (0 + 1) ecuList
    rw [sdLoadAllEcu, hstuck] at hrun
    cases hrun
  · rintro rfl
    refine ⟨1, statusSuccess, ecuList, ?_, ?_, ?_⟩
    · exact sdLoadAllEcu_empty (hcard.missing 0 (Nat.zero_le _)) ecuList
    · intro i hi
      exact absurd hi (Nat.not_lt_zero i)
    · intro ecuId _
      rfl

/-- The records of the first ECUs of the table, as files. -/
def cardWith (n : Nat) : Card := fun i =>
  if i.toNat < n then some (frameworkLayout.file (ecuTable (UInt8.ofNat i.toNat))) else none

theorem cardWith_hasRecords {n : Nat} (hn : n ≤ 4) :
    (cardWith n).HasRecords frameworkLayout (fun i => ecuTable (UInt8.ofNat i)) n := by
  constructor
  case inRange => exact hn
  case complete =>
    intro i hi
    refine ⟨[], ?_⟩
    rw [cardWith, if_pos hi, List.append_nil]
  case missing =>
    intro i hi
    rw [cardWith, if_neg (Nat.not_lt_of_le hi)]

theorem load_all_iff_two_records : LoadsAll frameworkLayout (cardWith 2)
    (fun i => ecuTable (UInt8.ofNat i)) 2 ecuTable ↔ 2 = 0 :=
  load_all_iff frameworkLayout (cardWith_hasRecords (by decide)) ecuTable

/-- With a record for ECU 0 and no others the loop does not end. -/
theorem load_all_endless :
    (cardWith 1).HasRecords frameworkLayout (fun i => ecuTable (UInt8.ofNat i)) 1 ∧
      ¬ LoadsAll frameworkLayout (cardWith 1) (fun i => ecuTable (UInt8.ofNat i)) 1 ecuTable := by
  refine ⟨cardWith_hasRecords (by decide), ?_⟩
  rintro ⟨fuel, stat, loaded, hrun, -, -⟩
  rw [sdLoadAllEcu, sdLoadAllEcuWhile_stuck rfl] at hrun
  cases hrun

end

end XcanRouter
