import XcanRouter.Framework.SdRecords

/-!
# The search for newer firmware (sdhc.c)

The image of version `v` for an ECU is a file of its own. `SD_openLatestFW`
tries one version after the other, from the one behind the current version on,
until a file is missing, and opens the one before that.
-/

namespace XcanRouter

/-! ## The functions -/

/-- What a card answers: to which call of `f_open`, and for which image. -/
abbrev FwCard := Nat → UInt8 → UInt32 → FResult

/-- The world of a search. -/
structure FwSearch where
  /-- The number of calls of `f_open` so far. -/
  calls : Nat := 0
  /-- The version that `fw` is open on. -/
  file : Option UInt32 := none
deriving DecidableEq

/-- `SD_openFW` -/
def sdOpenFw (card : FwCard) (ecuId : UInt8) (ver : UInt32) : Prog FwSearch FResult := do
  let s ← Prog.state
  let res := card s.calls ecuId ver
  Prog.modify fun s =>
    { calls := s.calls + 1, file := if res = .ok then some ver else none }
  return res

/-- `f_close(fw)` -/
def fwClose : Prog FwSearch Unit := Prog.modify fun s => { s with file := none }

/-- The loop of `SD_openLatestFW`: the last result and the version before the
one that is missing. -/
def openLatestWhile (card : FwCard) (ecuId : UInt8) :
    Nat → UInt32 → Prog FwSearch (FResult × UInt32)
  | 0, _ => Prog.diverge
  | fuel + 1, verPointer => do
    let res ← sdOpenFw card ecuId verPointer
    if res = .ok then
      fwClose
      openLatestWhile card ecuId fuel (verPointer + 1)
    else if res = .noFile then
      return (res, verPointer - 1)
    else
      openLatestWhile card ecuId fuel verPointer

/-- The field `fw_version`, of type `uint32_t` as a number. -/
def Ecu.currentVer (ecu : Ecu) : UInt32 := UInt32.ofNat ecu.fwVersion.toNat

/-- `SD_openLatestFW` -/
def sdOpenLatestFw (card : FwCard) (ecuList : UInt8 → Ecu) (ecuId : UInt8) (fuel : Nat) :
    Prog FwSearch FResult := do
  let currentEcuVer := (ecuList ecuId).currentVer
  let (res, verPointer) ← openLatestWhile card ecuId fuel (currentEcuVer + 1)
  if currentEcuVer ≤ verPointer then
    sdOpenFw card ecuId verPointer
  else
    return res

/-! ## Whether it ends -/

/-- The version that call `n` of `f_open` is about: it moves on with each file
that is there. -/
def probe (card : FwCard) (ecuId : UInt8) (currentVer : UInt32) : Nat → UInt32
  | 0 => currentVer + 1
  | n + 1 =>
    if card n ecuId (probe card ecuId currentVer n) = .ok then
      probe card ecuId currentVer n + 1
    else
      probe card ecuId currentVer n

section
variable {card : FwCard} {ecuId : UInt8} {currentVer ver : UInt32} {s : FwSearch} {fuel : Nat}

theorem sdOpenFw_apply (card : FwCard) (ecuId : UInt8) (ver : UInt32) (s : FwSearch) :
    sdOpenFw card ecuId ver s = some (card s.calls ecuId ver,
      { calls := s.calls + 1
        file := if card s.calls ecuId ver = .ok then some ver else none }) := rfl

/-- The search goes on behind a file that is there. -/
theorem openLatestWhile_ok (h : card s.calls ecuId ver = .ok) :
    openLatestWhile card ecuId (fuel + 1) ver s =
      openLatestWhile card ecuId fuel (ver + 1) { calls := s.calls + 1 } := by
  rw [openLatestWhile, Prog.bind_apply, sdOpenFw_apply, h]
  rfl

/-- It ends at a file that is missing. -/
theorem openLatestWhile_noFile (h : card s.calls ecuId ver = .noFile) :
    openLatestWhile card ecuId (fuel + 1) ver s =
      some ((.noFile, ver - 1), { calls := s.calls + 1 }) := by
  rw [openLatestWhile, Prog.bind_apply, sdOpenFw_apply, h]
  rfl

/-- It asks again after any other answer. -/
theorem openLatestWhile_other (hok : card s.calls ecuId ver ≠ .ok)
    (hmissing : card s.calls ecuId ver ≠ .noFile) :
    openLatestWhile card ecuId (fuel + 1) ver s =
      openLatestWhile card ecuId fuel ver { calls := s.calls + 1 } := by
  rw [openLatestWhile, Prog.bind_apply, sdOpenFw_apply, Option.bind_some]
  dsimp only
  rw [if_neg hok, if_neg hok, if_neg hmissing]

/-- A turn that does not end the loop. -/
theorem openLatestWhile_turn
    (hmissing : card s.calls ecuId (probe card ecuId currentVer s.calls) ≠ .noFile) :
    openLatestWhile card ecuId (fuel + 1) (probe card ecuId currentVer s.calls) s =
      openLatestWhile card ecuId fuel (probe card ecuId currentVer (s.calls + 1))
        { calls := s.calls + 1 } := by
  rw [probe]
  split
  · rename_i hok
    exact openLatestWhile_ok hok
  · rename_i hok
    exact openLatestWhile_other hok hmissing

/-- A search that comes back has seen a file missing. -/
theorem openLatestWhile_returns {r : (FResult × UInt32) × FwSearch}
    (hrun : openLatestWhile card ecuId fuel (probe card ecuId currentVer s.calls) s = some r) :
    ∃ n, card n ecuId (probe card ecuId currentVer n) = .noFile := by
  induction fuel generalizing s with
  | zero => cases hrun
  | succ fuel ih =>
      by_cases hmissing : card s.calls ecuId (probe card ecuId currentVer s.calls) = .noFile
      · exact ⟨s.calls, hmissing⟩
      · rw [openLatestWhile_turn hmissing] at hrun
        exact ih (s := { calls := s.calls + 1 }) hrun

/-- A search that comes to a missing file comes back. -/
theorem openLatestWhile_isSome {d : Nat}
    (hd : card (s.calls + d) ecuId (probe card ecuId currentVer (s.calls + d)) = .noFile) :
    (openLatestWhile card ecuId (d + 1) (probe card ecuId currentVer s.calls) s).isSome := by
  induction d generalizing s with
  | zero =>
      have hmissing : card s.calls ecuId (probe card ecuId currentVer s.calls) = .noFile := hd
      rw [openLatestWhile_noFile hmissing]
      rfl
  | succ d ih =>
      by_cases hmissing : card s.calls ecuId (probe card ecuId currentVer s.calls) = .noFile
      · rw [openLatestWhile_noFile hmissing]
        rfl
      · rw [openLatestWhile_turn hmissing]
        apply ih (s := { calls := s.calls + 1 })
        show card (s.calls + 1 + d) _ (probe card ecuId currentVer (s.calls + 1 + d)) = _
        rw [Nat.add_right_comm]
        exact hd

/-- What comes after the loop is one more call at most. -/
theorem sdOpenLatestFw_isSome (card : FwCard) (ecuList : UInt8 → Ecu) (ecuId : UInt8)
    (fuel : Nat) (s : FwSearch) : (sdOpenLatestFw card ecuList ecuId fuel s).isSome =
      (openLatestWhile card ecuId fuel ((ecuList ecuId).currentVer + 1) s).isSome := by
  unfold sdOpenLatestFw
  rw [Prog.bind_apply]
  cases openLatestWhile card ecuId fuel ((ecuList ecuId).currentVer + 1) s with
  | none => rfl
  | some r =>
      obtain ⟨⟨res, ver⟩, s'⟩ := r
      rw [Option.bind_some]
      dsimp only
      split <;> rfl

/-- A search that ends was told of a missing file. -/
theorem sdOpenLatestFw_returns {ecuList : UInt8 → Ecu} {r : FResult × FwSearch}
    (hrun : sdOpenLatestFw card ecuList ecuId fuel {} = some r) :
    ∃ n, card n ecuId (probe card ecuId (ecuList ecuId).currentVer n) = .noFile := by
  have hsome := sdOpenLatestFw_isSome card ecuList ecuId fuel {}
  rw [hrun] at hsome
  obtain ⟨r', hrun'⟩ := Option.isSome_iff_exists.mp hsome.symm
  exact openLatestWhile_returns (s := {}) hrun'

end

/-- **The search ends exactly when** one of its calls of `f_open` answers that
there is no such file. -/
theorem search_ends_iff (card : FwCard) (ecuList : UInt8 → Ecu) (ecuId : UInt8) :
    (∃ fuel r, sdOpenLatestFw card ecuList ecuId fuel {} = some r) ↔
      ∃ n, card n ecuId (probe card ecuId (ecuList ecuId).currentVer n) = .noFile := by
  constructor
  · rintro ⟨fuel, r, hrun⟩
    exact sdOpenLatestFw_returns hrun
  · rintro ⟨n, hn⟩
    refine ⟨n + 1, Option.isSome_iff_exists.mp ?_⟩
    rw [sdOpenLatestFw_isSome]
    apply openLatestWhile_isSome (s := {})
    rw [Nat.zero_add]
    exact hn

/-- A card without the directory of the ECU. -/
def noDirectory : FwCard := fun _ _ _ => .noPath

/-- The search for its firmware goes on for ever. -/
theorem search_without_directory :
    ¬ ∃ fuel r, sdOpenLatestFw noDirectory ecuTable 2 fuel {} = some r := by
  rintro ⟨fuel, r, hrun⟩
  obtain ⟨n, hmissing⟩ := sdOpenLatestFw_returns hrun
  cases hmissing

/-! ## What it finds -/

/-- A card that works, with these images. -/
def imageCard (images : UInt8 → UInt32 → Bool) : FwCard := fun _ ecuId ver =>
  if images ecuId ver then .ok else .noFile

/-- The last of the versions behind `current` without a gap. -/
structure IsNewest (images : UInt32 → Bool) (current ver : UInt32) : Prop where
  newer : current < ver
  present : ∀ w, current < w → w ≤ ver → images w = true
  last : ∀ w, (∀ u, current < u → u ≤ w → images u = true) → w ≤ ver

/-- The search opens the newest newer image, and only that. -/
def FindsNewest (images : UInt8 → UInt32 → Bool) (ecuList : UInt8 → Ecu) (ecuId : UInt8) :
    Prop :=
  ∃ fuel res s, sdOpenLatestFw (imageCard images) ecuList ecuId fuel {} = some (res, s) ∧
    if images ecuId ((ecuList ecuId).currentVer + 1) then
      res = .ok ∧ ∃ ver, s.file = some ver ∧
        IsNewest (images ecuId) (ecuList ecuId).currentVer ver
    else
      res = .noFile ∧ s.file = none

/-- The version that is opened last is the right one, or none is when there is
none to open. -/
def OpensNewest (images : UInt32 → Bool) (current last : UInt32) : Prop :=
  if images (current + 1) then
    current ≤ last ∧ images last = true ∧ IsNewest images current last
  else
    ¬ (current ≤ last ∧ images last = true)

section
variable {images : UInt8 → UInt32 → Bool} {ecuId : UInt8} {ver : UInt32} {s : FwSearch}

/-- The loop comes to the first version that is missing. -/
theorem openLatestWhile_eq {d : Nat}
    (hpresent : ∀ i < d, images ecuId (ver + UInt32.ofNat i) = true)
    (hmissing : images ecuId (ver + UInt32.ofNat d) = false) (fuel : Nat) :
    openLatestWhile (imageCard images) ecuId fuel ver s =
      if d < fuel then
        some ((.noFile, ver + UInt32.ofNat d - 1), { calls := s.calls + (d + 1) })
      else none := by
  induction d generalizing fuel ver s with
  | zero =>
      cases fuel with
      | zero => rfl
      | succ fuel =>
          have hver : ver + UInt32.ofNat 0 = ver := UInt32.add_zero ver
          rw [hver] at hmissing ⊢
          rw [if_pos (Nat.succ_pos fuel), openLatestWhile_noFile]
          · rw [imageCard, hmissing]
            rfl
  | succ d ih =>
      have hshift : ∀ i, ver + 1 + UInt32.ofNat i = ver + UInt32.ofNat (i + 1) := by
        intro i
        rw [UInt32.ofNat_add, UInt32.add_assoc, UInt32.add_comm 1]
        rfl
      cases fuel with
      | zero => rfl
      | succ fuel =>
          have hver : images ecuId ver = true := by
            have h := hpresent 0 (Nat.succ_pos d)
            rwa [show ver + UInt32.ofNat 0 = ver from UInt32.add_zero ver] at h
          rw [openLatestWhile_ok (by rw [imageCard, if_pos hver]), ih]
          · have hcalls : s.calls + (d + 1 + 1) = s.calls + 1 + (d + 1) := by omega
            simp only [hshift, Nat.add_lt_add_iff_right, hcalls]
          · intro i hi
            rw [hshift]
            exact hpresent (i + 1) (Nat.succ_lt_succ hi)
          · rw [hshift]
            exact hmissing

/-- It does not end when no version is missing. -/
theorem openLatestWhile_endless (hall : ∀ ver, images ecuId ver = true) (fuel : Nat) :
    openLatestWhile (imageCard images) ecuId fuel ver s = none := by
  induction fuel generalizing ver s with
  | zero => rfl
  | succ fuel ih =>
      rw [openLatestWhile_ok (by rw [imageCard, if_pos (hall ver)])]
      exact ih

/-- The result of the search and the version that is open then, when `last` is
the version before the first one that is missing. -/
def found (images : UInt32 → Bool) (current last : UInt32) : FResult × Option UInt32 :=
  if current ≤ last ∧ images last = true then (.ok, some last) else (.noFile, none)

section
variable {ecuList : UInt8 → Ecu} {current last : UInt32} {d : Nat}
  (hcurrent : (ecuList ecuId).currentVer = current)
  (hpresent : ∀ i < d, images ecuId (current + 1 + UInt32.ofNat i) = true)
  (hmissing : images ecuId (current + 1 + UInt32.ofNat d) = false)
  (hlast : current + 1 + UInt32.ofNat d - 1 = last)
include hcurrent hpresent hmissing hlast

/-- Behind its loop the search has one more file to open, or none. -/
theorem sdOpenLatestFw_opens (fuel : Nat) :
    sdOpenLatestFw (imageCard images) ecuList ecuId fuel {} =
      if d < fuel then
        (if current ≤ last then sdOpenFw (imageCard images) ecuId last else pure .noFile)
          { calls := 0 + (d + 1) }
      else none := by
  unfold sdOpenLatestFw
  rw [Prog.bind_apply, hcurrent, openLatestWhile_eq hpresent hmissing, hlast]
  split <;> rfl

theorem sdOpenLatestFw_eq :
    ∃ n, ∀ fuel, sdOpenLatestFw (imageCard images) ecuList ecuId fuel {} =
      if d < fuel then
        some ((found (images ecuId) current last).1,
          { calls := n, file := (found (images ecuId) current last).2 })
      else none := by
  unfold found
  simp only [sdOpenLatestFw_opens hcurrent hpresent hmissing hlast]
  by_cases hle : current ≤ last
  · refine ⟨0 + (d + 1) + 1, ?_⟩
    intro fuel
    rw [if_pos hle, sdOpenFw_apply, imageCard]
    cases himage : images ecuId last <;> simp [hle]
  · refine ⟨0 + (d + 1), ?_⟩
    intro fuel
    have hnone : ¬ (current ≤ last ∧ images ecuId last = true) := fun h => hle h.1
    rw [if_neg hle, if_neg hnone]
    rfl

end

/-- Whether that is what it should be. -/
theorem findsNewest_iff_of_missing {ecuList : UInt8 → Ecu} {current last : UInt32} {d : Nat}
    (hcurrent : (ecuList ecuId).currentVer = current)
    (hpresent : ∀ i < d, images ecuId (current + 1 + UInt32.ofNat i) = true)
    (hmissing : images ecuId (current + 1 + UInt32.ofNat d) = false)
    (hlast : current + 1 + UInt32.ofNat d - 1 = last) :
    FindsNewest images ecuList ecuId ↔ OpensNewest (images ecuId) current last := by
  obtain ⟨n, hrun⟩ := sdOpenLatestFw_eq hcurrent hpresent hmissing hlast
  have hfound : FindsNewest images ecuList ecuId ↔
      if images ecuId (current + 1) then
        (found (images ecuId) current last).1 = .ok ∧ ∃ ver,
          (found (images ecuId) current last).2 = some ver ∧
            IsNewest (images ecuId) current ver
      else
        (found (images ecuId) current last).1 = .noFile ∧
          (found (images ecuId) current last).2 = none := by
    unfold FindsNewest
    rw [hcurrent]
    constructor
    · rintro ⟨fuel, res, s, hres, h⟩
      rw [hrun] at hres
      split at hres
      · cases hres
        exact h
      · cases hres
    · intro h
      exact ⟨d + 1, _, _, (hrun (d + 1)).trans (if_pos (Nat.lt_succ_self d)), h⟩
  rw [hfound]
  unfold found OpensNewest
  by_cases hopens : current ≤ last ∧ images ecuId last = true
  · simp [hopens]
  · rw [if_neg hopens]
    split
    · constructor
      · rintro ⟨hok, -⟩
        cases hok
      · rintro ⟨hle, himage, -⟩
        exact absurd ⟨hle, himage⟩ hopens
    · simp [hopens]

end

/-- The version behind the current one is there, or not even the current one;
and the versions do not go on up to the last one and from there to version 0. -/
def NoStale (images : UInt32 → Bool) (current : UInt32) : Prop :=
  (images (current + 1) = true ∨ images current = false) ∧
    ¬ ((∀ ver, current < ver → images ver = true) ∧ images 0 = true)

section
variable {images : UInt32 → Bool} {current : UInt32} {d : Nat}

theorem toNat_probed (current : UInt32) (i : Nat) :
    (current + 1 + UInt32.ofNat i).toNat = (current.toNat + 1 + i) % 2 ^ 32 := by
  rw [UInt32.toNat_add, UInt32.toNat_add, UInt32.toNat_ofNat']
  show ((current.toNat + 1) % 2 ^ 32 + i % 2 ^ 32) % 2 ^ 32 = _
  omega

theorem toNat_add_ofNat (current : UInt32) (i : Nat) :
    (current + UInt32.ofNat i).toNat = (current.toNat + i) % 2 ^ 32 := by
  rw [UInt32.toNat_add, UInt32.toNat_ofNat']
  omega

theorem lt_next (hcurrent : current.toNat < 256) : current < current + 1 := by
  rw [UInt32.lt_iff_toNat_lt, UInt32.toNat_add]
  show current.toNat < (current.toNat + 1) % 2 ^ 32
  omega

/-- The first version, in the order of the search, that is missing. -/
theorem exists_first_missing (current : UInt32) (h : ∃ ver, images ver = false) :
    ∃ d < 2 ^ 32, images (current + 1 + UInt32.ofNat d) = false ∧
      ∀ i < d, images (current + 1 + UInt32.ofNat i) = true := by
  obtain ⟨ver, hver⟩ := h
  have hindex : images (current + 1 + UInt32.ofNat (ver - (current + 1)).toNat) = false := by
    rw [UInt32.ofNat_toNat, UInt32.add_comm, UInt32.sub_add_cancel]
    exact hver
  have hgap : ∃ i, images (current + 1 + UInt32.ofNat i) = false := ⟨_, hindex⟩
  refine ⟨Nat.find hgap, ?_, Nat.find_spec hgap, ?_⟩
  · calc Nat.find hgap ≤ (ver - (current + 1)).toNat := Nat.find_min' hgap hindex
      _ < 2 ^ 32 := UInt32.toNat_lt _
  · intro i hi
    simpa using Nat.find_min hgap hi

/-- The versions that the search has seen. -/
theorem present_of_index (hpresent : ∀ i < d, images (current + 1 + UInt32.ofNat i) = true)
    {ver : UInt32} {i : Nat} (hi : i < d)
    (hver : (current.toNat + 1 + i) % 2 ^ 32 = ver.toNat) : images ver = true := by
  rw [← toNat_probed, UInt32.toNat_inj] at hver
  rw [← hver]
  exact hpresent i hi

/-- Up to the first version that is missing there is no gap. -/
theorem present_of_lt (hpresent : ∀ i < d, images (current + 1 + UInt32.ofNat i) = true)
    {ver : UInt32} (hnewer : current < ver) (hlt : ver.toNat < current.toNat + 1 + d) :
    images ver = true := by
  have hnewer' := UInt32.lt_iff_toNat_lt.mp hnewer
  have hbound := ver.toNat_lt
  apply present_of_index hpresent (i := ver.toNat - current.toNat - 1)
  · omega
  · omega

theorem present_next (hpresent : ∀ i < d, images (current + 1 + UInt32.ofNat i) = true)
    (hd : 0 < d) : images (current + 1) = true := by
  have h := hpresent 0 hd
  rwa [show current + 1 + UInt32.ofNat 0 = current + 1 from UInt32.add_zero _] at h

/-- A version behind the current one is missing. -/
theorem noStale_iff_of_gap {missing : UInt32} (hnewer : current < missing)
    (hmissing : images missing = false) :
    NoStale images current ↔ images (current + 1) = true ∨ images current = false := by
  apply and_iff_left
  rintro ⟨hall, -⟩
  rw [hall missing hnewer] at hmissing
  cases hmissing

/-- The versions go on to the end. -/
theorem noStale_iff_of_all (hcurrent : current.toNat < 256)
    (hall : ∀ ver, current < ver → images ver = true) :
    NoStale images current ↔ images 0 = false := by
  have hnext : images (current + 1) = true := hall _ (lt_next hcurrent)
  unfold NoStale
  simp only [hnext, true_or, true_and, and_iff_right hall, Bool.not_eq_true]

/-- There is nothing newer. -/
theorem opensNewest_current (hmissing : images (current + 1) = false)
    (hcurrent : current.toNat < 256) : OpensNewest images current current ↔
      NoStale images current := by
  rw [noStale_iff_of_gap (lt_next hcurrent) hmissing]
  unfold OpensNewest
  simp [hmissing]

/-- There is a newer version, and a gap behind it. -/
theorem opensNewest_gap (hpresent : ∀ i < d, images (current + 1 + UInt32.ofNat i) = true)
    (hmissing : images (current + 1 + UInt32.ofNat d) = false)
    (hd : 0 < d) (hend : current.toNat + 1 + d < 2 ^ 32) :
    OpensNewest images current (current + UInt32.ofNat d) ↔ NoStale images current := by
  have hlast : (current + UInt32.ofNat d).toNat = current.toNat + d := by
    rw [toNat_add_ofNat]
    omega
  have hgap : (current + 1 + UInt32.ofNat d).toNat = current.toNat + 1 + d := by
    rw [toNat_probed]
    omega
  have hnext : images (current + 1) = true := present_next hpresent hd
  have hnewer : current < current + UInt32.ofNat d := by
    rw [UInt32.lt_iff_toNat_lt, hlast]
    omega
  have hbehind : current < current + 1 + UInt32.ofNat d := by
    rw [UInt32.lt_iff_toNat_lt, hgap]
    omega
  rw [noStale_iff_of_gap hbehind hmissing]
  apply iff_of_true
  · unfold OpensNewest
    rw [if_pos hnext]
    refine ⟨UInt32.le_of_lt hnewer, ?_, hnewer, ?_, ?_⟩
    · apply present_of_lt hpresent hnewer
      omega
    · intro w hw hle
      rw [UInt32.le_iff_toNat_le, hlast] at hle
      apply present_of_lt hpresent hw
      omega
    · intro w hw
      -- a version behind the gap would have no gap before it
      by_contra hlt
      rw [UInt32.le_iff_toNat_le, hlast] at hlt
      have himage := hw (current + 1 + UInt32.ofNat d) hbehind
        (UInt32.le_iff_toNat_le.mpr (by omega))
      rw [hmissing] at himage
      cases himage
  · exact .inl hnext

/-- The newer versions go on to the last one, and the search with version 0. -/
theorem opensNewest_wrap (hcurrent : current.toNat < 256)
    (hpresent : ∀ i < d, images (current + 1 + UInt32.ofNat i) = true)
    (hmissing : images (current + 1 + UInt32.ofNat d) = false)
    (hd : d < 2 ^ 32) (hend : 2 ^ 32 ≤ current.toNat + 1 + d) :
    OpensNewest images current (current + UInt32.ofNat d) ↔ NoStale images current := by
  have hall : ∀ ver, current < ver → images ver = true := by
    intro ver hver
    apply present_of_lt hpresent hver
    have hbound := ver.toNat_lt
    omega
  have hlast := toNat_add_ofNat current d
  have hnext : images (current + 1) = true := present_next hpresent (by omega)
  rw [noStale_iff_of_all hcurrent hall]
  unfold OpensNewest
  rw [if_pos hnext]
  by_cases hzero : current.toNat + 1 + d = 2 ^ 32
  · have hgap : current + 1 + UInt32.ofNat d = 0 := by
      rw [← UInt32.toNat_inj, toNat_probed, hzero]
      rfl
    have hnewer : current < current + UInt32.ofNat d := by
      rw [UInt32.lt_iff_toNat_lt, hlast]
      omega
    rw [hgap] at hmissing
    apply iff_of_true
    · refine ⟨UInt32.le_of_lt hnewer, hall _ hnewer, hnewer, fun w hw _ => hall w hw, ?_⟩
      intro w _
      have hbound := w.toNat_lt
      rw [UInt32.le_iff_toNat_le, hlast]
      omega
    · exact hmissing
  · have himage : images 0 = true := by
      apply present_of_index hpresent (i := 2 ^ 32 - current.toNat - 1)
      · omega
      · show _ = 0
        omega
    apply iff_of_false
    · rintro ⟨hle, -, -⟩
      rw [UInt32.le_iff_toNat_le, hlast] at hle
      omega
    · rw [himage]
      decide

end

theorem toNat_currentVer (ecu : Ecu) : ecu.currentVer.toNat < 256 := by
  rw [Ecu.currentVer, UInt32.toNat_ofNat']
  exact Nat.lt_of_le_of_lt (Nat.mod_le _ _) ecu.fwVersion.isLt

/-- **The newest newer image is found, and only that, exactly when** nothing
stale is in the way. -/
theorem newest_found_iff (images : UInt8 → UInt32 → Bool) (ecuList : UInt8 → Ecu)
    (ecuId : UInt8) :
    FindsNewest images ecuList ecuId ↔ NoStale (images ecuId) (ecuList ecuId).currentVer := by
  have hsmall := toNat_currentVer (ecuList ecuId)
  by_cases hall : ∀ ver, images ecuId ver = true
  · apply iff_of_false
    · rintro ⟨fuel, res, s, hrun, -⟩
      have hnone := sdOpenLatestFw_isSome (imageCard images) ecuList ecuId fuel {}
      rw [hrun, openLatestWhile_endless hall] at hnone
      cases hnone
    · intro h
      exact h.2 ⟨fun ver _ => hall ver, hall 0⟩
  · obtain ⟨d, hd, hmissing, hfirst⟩ :=
      exists_first_missing (ecuList ecuId).currentVer (by simpa using hall)
    have hlast : (ecuList ecuId).currentVer + 1 + UInt32.ofNat d - 1 =
        (ecuList ecuId).currentVer + UInt32.ofNat d := by
      rw [UInt32.add_assoc, UInt32.add_comm 1, ← UInt32.add_assoc, UInt32.add_sub_cancel]
    rw [findsNewest_iff_of_missing rfl hfirst hmissing hlast]
    by_cases hend : (ecuList ecuId).currentVer.toNat + 1 + d < 2 ^ 32
    · rcases Nat.eq_zero_or_pos d with rfl | hpos
      · have hzero : ∀ ver : UInt32, ver + UInt32.ofNat 0 = ver := UInt32.add_zero
        rw [hzero] at hmissing ⊢
        exact opensNewest_current hmissing hsmall
      · exact opensNewest_gap hfirst hmissing hpos hend
    · exact opensNewest_wrap hsmall hfirst hmissing hd (Nat.le_of_not_lt hend)

/-- The card has the current version of ECU 2, and none that is newer. -/
def onlyCurrent : UInt8 → UInt32 → Bool := fun ecuId ver => ecuId = 2 ∧ ver = 1

/-- The search opens the current version again, as if it were new. -/
theorem current_version_found :
    ∃ s, sdOpenLatestFw (imageCard onlyCurrent) ecuTable 2 1 {} = some (.ok, s) ∧
      s.file = some 1 ∧ onlyCurrent 2 2 = false ∧ ¬ FindsNewest onlyCurrent ecuTable 2 := by
  refine ⟨_, rfl, rfl, rfl, ?_⟩
  have hfinds : FindsNewest onlyCurrent ecuTable 2 ↔ OpensNewest (onlyCurrent 2) 1 1 := by
    apply findsNewest_iff_of_missing (d := 0) rfl
    · intro i hi
      exact absurd hi (Nat.not_lt_zero i)
    · rfl
    · rfl
  rw [hfinds, OpensNewest, if_neg (by decide)]
  intro h
  exact h ⟨by decide, rfl⟩

end XcanRouter
