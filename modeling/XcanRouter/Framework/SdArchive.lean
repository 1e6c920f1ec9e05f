import XcanRouter.Base.Trace
import XcanRouter.Framework.SdRecords

/-!
# The card as an archive of records (sdhc.c)

Stores and loads of the records of all ECUs, in any order, with FatFs calls
that may fail in any of them, while the rest of the framework writes the list
as it likes. A store opens its file with `FA_CREATE_ALWAYS`, so from then on
the old record is gone: it is the last store that was opened that counts, be it
one that failed.
-/

namespace XcanRouter

/-- The list in memory and the files. -/
structure Archive where
  ecuList : UInt8 → Ecu
  card : Card

inductive ArchiveEvent where
  | store (ecuId : UInt8) (calls : StoreCalls)
  | storeAll (calls : Nat → StoreCalls)
  | load (ecuId : UInt8) (calls : LoadCalls)
  /-- Something else writes the list, such as a command or a restart. -/
  | assign (ecuList : UInt8 → Ecu)

/-- A store that opened its file, with the entry that it wrote. -/
structure OpenedStore where
  ecuId : UInt8
  ecu : Ecu
  calls : StoreCalls

/-- Everything was written, and the file closed. -/
def OpenedStore.Clean (st : OpenedStore) : Prop :=
  st.calls.fWrite = .ok ∧ sizeofEcu ≤ st.calls.bw ∧ st.calls.fClose = .ok

section
variable {cfg : Config} (L : EcuLayout cfg)

def archiveStep (a : Archive) : ArchiveEvent → Archive
  | .store ecuId calls => { a with card := (sdStoreEcu L a.ecuList ecuId calls a.card).2 }
  | .storeAll calls => { a with card := (sdStoreAllEcu L a.ecuList calls a.card).2 }
  | .load ecuId calls => { a with ecuList := (sdLoadEcu L a.ecuList ecuId calls).2 }
  | .assign ecuList => { a with ecuList }

/-- The store, if it opens its file. -/
def Archive.opened (a : Archive) (ecuId : UInt8) (calls : StoreCalls) : List OpenedStore :=
  if calls.fOpen = .ok then [{ ecuId, ecu := a.ecuList ecuId, calls }] else []

/-- The stores of a step. -/
def Archive.stores (cfg : Config) (a : Archive) : ArchiveEvent → List OpenedStore
  | .store ecuId calls => a.opened ecuId calls
  | .storeAll calls =>
    (List.range cfg.numOfEcus).flatMap fun i => a.opened (UInt8.ofNat i) (calls i)
  | _ => []

/-- What the file has after the store. -/
def OpenedStore.leaves (st : OpenedStore) : Option (List UInt8) :=
  if st.calls.bw < sizeofEcu ∨ st.calls.fWrite ≠ .ok then st.calls.lost
  else if st.calls.fClose = .ok then some ((L.file st.ecu).take st.calls.bw)
  else st.calls.lost

def Card.after (card : Card) (st : OpenedStore) : Card :=
  Function.update card st.ecuId.toUInt32 (st.leaves L)

end

section
variable {cfg : Config} {L : EcuLayout cfg} {a : Archive} {st : OpenedStore}

theorem OpenedStore.Clean.leaves (h : st.Clean) : st.leaves L = some (L.file st.ecu) := by
  obtain ⟨hwrite, hbw, hclose⟩ := h
  have hall : (L.file st.ecu).take st.calls.bw = L.file st.ecu := by
    apply List.take_of_length_le
    rw [EcuLayout.file, length_bytesOf]
    exact hbw
  unfold OpenedStore.leaves
  rw [if_neg (by simp [hwrite, hbw]), if_pos hclose, hall]

theorem sdStoreEcu_opened (ecuList : UInt8 → Ecu) (ecuId : UInt8) (calls : StoreCalls)
    (card : Card) :
    (sdStoreEcu L ecuList ecuId calls card).2 =
      (Archive.opened { ecuList, card } ecuId calls).foldl (Card.after L) card := by
  unfold sdStoreEcu Archive.opened
  by_cases hopen : calls.fOpen = .ok
  · rw [if_pos hopen, if_pos hopen, List.foldl_cons, List.foldl_nil, Card.after,
      OpenedStore.leaves]
    dsimp only
    split
    · rfl
    · split <;> rfl
  · rw [if_neg hopen, if_neg hopen]
    rfl

/-- The stores of the whole list, up to `n`. -/
theorem sdStoreNext_opened (ecuList : UInt8 → Ecu) (calls : Nat → StoreCalls) (s : Int × Card)
    (n : Nat) :
    ((List.range n).foldl (sdStoreNext L ecuList calls) s).2 =
      ((List.range n).flatMap fun i =>
        Archive.opened { ecuList, card := s.2 } (UInt8.ofNat i) (calls i)).foldl
          (Card.after L) s.2 := by
  induction n with
  | zero => rfl
  | succ n ih =>
      rw [List.range_succ, List.foldl_append, List.flatMap_append, List.foldl_append, ← ih]
      show (sdStoreEcu L ecuList _ _ _).2 = _
      rw [sdStoreEcu_opened]
      simp [Archive.opened]

/-- **A step writes what its stores leave**, and nothing else. -/
theorem archiveStep_card (a : Archive) (e : ArchiveEvent) :
    (archiveStep L a e).card = (a.stores cfg e).foldl (Card.after L) a.card := by
  cases e with
  | store ecuId calls => exact sdStoreEcu_opened _ _ _ _
  | storeAll calls => exact sdStoreNext_opened _ _ _ _
  | load ecuId calls => rfl
  | assign ecuList => rfl

/-- The file of an ECU is what the last store that opened it has left. -/
theorem archive_file (L : EcuLayout cfg) (a : Archive) (es : List ArchiveEvent) (ecuId : UInt8) :
    (es.foldl (archiveStep L) a).card ecuId.toUInt32 =
      ((((Runs.trace (archiveStep L) (Archive.stores cfg) a es).filter
        fun st => st.ecuId = ecuId).getLast?.map (OpenedStore.leaves L)).getD
          (a.card ecuId.toUInt32)) := by
  rw [Runs.foldl_trace Archive.card archiveStep_card]
  apply Runs.foldl_last (fun card : Card => card ecuId.toUInt32)
  · intro card st hst
    rw [Card.after, of_decide_eq_true hst, Function.update_self]
  · intro card st hst
    have hne : ecuId.toUInt32 ≠ st.ecuId.toUInt32 := by
      intro heq
      exact of_decide_eq_false hst (UInt8.toUInt32_inj.mp heq).symm
    rw [Card.after, Function.update_of_ne hne]

end

/-- **The archive gives back what was stored last.** After every run of stores,
loads and other writes of the list, whatever of FatFs failed in it: when the
last store that opened the file of an ECU was written and closed, a load that
succeeds restores the entry as it was at that store, whatever came after it and
whatever happened to other files; and a file that no store opened is as it
was. -/
theorem archive_restores_last_store {cfg : Config} (L : EcuLayout cfg) (a : Archive)
    (es : List ArchiveEvent) (ecuId : UInt8) :
    let stores := (Runs.trace (archiveStep L) (Archive.stores cfg) a es).filter
      fun st => st.ecuId = ecuId
    let card := (es.foldl (archiveStep L) a).card
    (stores = [] → card ecuId.toUInt32 = a.card ecuId.toUInt32) ∧
      ∀ st, stores.getLast? = some st → st.Clean →
        card.Restores L (fun _ => st.ecu) ecuId := by
  intro stores card
  have hfile : card ecuId.toUInt32 =
      (stores.getLast?.map (OpenedStore.leaves L)).getD (a.card ecuId.toUInt32) :=
    archive_file L a es ecuId
  constructor
  · intro hnone
    rw [hfile, hnone]
    rfl
  · intro st hlast hclean
    apply Card.HoldsRecord.restores
    show card ecuId.toUInt32 = some (L.file st.ecu)
    rw [hfile, hlast, Option.map_some, Option.getD_some, hclean.leaves]

/-- A store that fails after a good one has lost the record. -/
example :
    let es : List ArchiveEvent :=
      [.store 2 goodStore, .assign fun _ => ecuTable 3, .store 2 { goodStore with bw := 0 }]
    (es.foldl (archiveStep frameworkLayout) { ecuList := ecuTable, card := fun _ => none }).card
      2 = none := by
  rfl

end XcanRouter
