import XcanRouter.Framework.Script

/-!
# The firmware image on the wire

`CAN_updateFirmware` reads the file 48 bytes at a time into the buffer that
holds the ciphertext of the frame before, fills the buffer up to 64 bytes, and
encrypts it in place. It reads until `f_read` gives nothing, which is also what
a read that fails gives.
-/

namespace XcanRouter

/-! ## Reading the file -/

/-- `f_read` on files with the given contents, from the position to the end:
it gives the next 48 bytes, or as many as there are, unless it fails. -/
structure Platform.ReadsNext (P : Platform) (contents : P.Fil → List UInt8)
    (fails : P.Fil → Prop) : Prop where
  failed : ∀ fw, fails fw → (P.fRead fw fwDataSize).br = 0
  br : ∀ fw, ¬ fails fw → (P.fRead fw fwDataSize).br = min fwDataSize (contents fw).length
  data : ∀ fw, ¬ fails fw → bytesOf (P.fRead fw fwDataSize).data (P.fRead fw fwDataSize).br =
    (contents fw).take fwDataSize
  rest : ∀ fw, ¬ fails fw → contents (P.fRead fw fwDataSize).fil = (contents fw).drop fwDataSize

/-- What is read into the buffer for the firmware frames. -/
def Platform.chunks (P : Platform) (fw : P.Fil) : List (List UInt8) :=
  if _hbr : (P.fRead fw fwDataSize).br ≠ 0 then
    bytesOf (P.fRead fw fwDataSize).data (P.fRead fw fwDataSize).br ::
      P.chunks (P.fRead fw fwDataSize).fil
  else
    []
termination_by P.remaining fw
decreasing_by
  have := P.read_remaining fw fwDataSize
  omega

/-- The file after `k` reads. -/
def Platform.fileAfter (P : Platform) (fw : P.Fil) : Nat → P.Fil
  | 0 => fw
  | k + 1 => P.fileAfter (P.fRead fw fwDataSize).fil k

/-! ## One frame -/

section
variable {P : Platform} {buffer rnd : Bytes} {fw : P.Fil} {contents : P.Fil → List UInt8}
  {fails : P.Fil → Prop} {read : FRead P.Fil}

/-- The buffer before it is encrypted. -/
def Platform.plainFrame (P : Platform) (buffer rnd : Bytes) (read : FRead P.Fil) : Bytes :=
  ((buffer.splice 0 read.br read.data).splice read.br (fwDataSize - read.br) fun _ => 0).splice
    fwDataSize fwCmacSize rnd

theorem Platform.fwFrame_eq : P.fwFrame buffer rnd read =
    P.encryptCbc (P.plainFrame buffer rnd read) msgSize.toNat fun _ => 0 := rfl

/-- The buffer holds what was read. -/
theorem Platform.bytesOf_plainFrame_read (hbr : read.br ≤ fwDataSize) :
    bytesOf (P.plainFrame buffer rnd read) read.br = bytesOf read.data read.br := by
  apply bytesOf_congr
  intro i hi
  have hlt : ¬ fwDataSize ≤ i := Nat.not_le_of_lt (Nat.lt_of_lt_of_le hi hbr)
  simp [Platform.plainFrame, Bytes.splice, hi, Nat.not_le_of_lt hi, hlt]

/-- **All of the buffer is written anew**: nothing is left of the frame
before. -/
theorem Platform.bytesOf_plainFrame (hbr : read.br ≤ fwDataSize) :
    bytesOf (P.plainFrame buffer rnd read) msgSize.toNat =
      (bytesOf read.data read.br ++ List.replicate (fwDataSize - read.br) 0) ++
        bytesOf rnd fwCmacSize := by
  have hsize : msgSize.toNat = read.br + (fwDataSize - read.br) + fwCmacSize := by
    rw [Nat.add_sub_cancel' hbr]
    rfl
  rw [hsize, bytesOf_add, bytesOf_add, P.bytesOf_plainFrame_read hbr]
  congr 1
  · rw [List.append_cancel_left_eq, ← bytesOf_const]
    apply bytesOf_congr
    intro i hi
    have hlt : read.br + i < fwDataSize := by omega
    simp [Platform.plainFrame, Bytes.splice, hi, Nat.not_le_of_lt hlt]
  · apply bytesOf_congr
    intro i hi
    have heq : read.br + (fwDataSize - read.br) + i = fwDataSize + i := by omega
    simp [Platform.plainFrame, Bytes.splice, heq, hi]

/-- A frame, decrypted. -/
theorem Platform.decrypt_fwFrame {decrypt : List UInt8 → List UInt8}
    (hdecrypt : ∀ plain, decrypt (bytesOf (P.encryptCbc plain msgSize.toNat fun _ => 0)
      msgSize.toNat) = bytesOf plain msgSize.toNat) (hbr : read.br ≤ fwDataSize) :
    (decrypt (bytesOf (P.fwFrame buffer rnd read) msgSize.toNat)).take fwDataSize =
        bytesOf read.data read.br ++ List.replicate (fwDataSize - read.br) 0 ∧
      (decrypt (bytesOf (P.fwFrame buffer rnd read) msgSize.toNat)).drop fwDataSize =
        bytesOf rnd fwCmacSize := by
  rw [P.fwFrame_eq, hdecrypt, P.bytesOf_plainFrame hbr]
  have hlength : (bytesOf read.data read.br ++
      List.replicate (fwDataSize - read.br) 0).length = fwDataSize := by
    rw [List.length_append, length_bytesOf, List.length_replicate]
    omega
  exact ⟨List.take_left' hlength, List.drop_left' hlength⟩

/-! ## All frames -/

theorem Platform.ReadsNext.eq_nil (h : P.ReadsNext contents fails)
    (hbr : (P.fRead fw fwDataSize).br = 0) (hgood : ¬ fails fw) : contents fw = [] := by
  have hmin := h.br fw hgood
  rw [hbr] at hmin
  apply List.eq_nil_of_length_eq_zero
  have : fwDataSize ≠ 0 := by decide
  omega

theorem Platform.ReadsNext.reads_of_nil (h : P.ReadsNext contents fun _ => False)
    (hnil : contents fw = []) : P.reads fw = 0 := by
  apply P.reads_of_eq
  rw [h.br fw not_false, hnil]
  rfl

/-- The number of frames is that of the blocks of the file. -/
theorem Platform.ReadsNext.reads_eq (h : P.ReadsNext contents fun _ => False) (fw : P.Fil) :
    P.reads fw = ((contents fw).length + (fwDataSize - 1)) / fwDataSize := by
  fun_induction Platform.reads P fw with
  | case1 fw hbr ih =>
      rw [ih, h.rest fw not_false, List.length_drop]
      have hlength := h.br fw not_false
      simp only [fwDataSize] at *
      omega
  | case2 fw hbr =>
      rw [h.eq_nil (Decidable.of_not_not hbr) not_false]
      rfl

/-- The first 48 bytes of the frames make up the file, with zeros behind it. -/
theorem Platform.ReadsNext.images_file {decrypt : List UInt8 → List UInt8}
    (h : P.ReadsNext contents fun _ => False)
    (hdecrypt : ∀ plain, decrypt (bytesOf (P.encryptCbc plain msgSize.toNat fun _ => 0)
      msgSize.toNat) = bytesOf plain msgSize.toNat) :
    ((P.images rnd buffer fw).map fun image =>
        (decrypt (bytesOf image msgSize.toNat)).take fwDataSize).flatten =
      contents fw ++ List.replicate (fwDataSize * P.reads fw - (contents fw).length) 0 := by
  fun_induction Platform.images P rnd buffer fw with
  | case1 buffer fw hbr buffer' ih =>
      have hlength := h.br fw not_false
      rw [List.map_cons, List.flatten_cons, ih, P.reads_of_ne hbr, h.rest fw not_false,
        (P.decrypt_fwFrame hdecrypt (P.read_le fw fwDataSize)).1, h.data fw not_false,
        List.length_drop, hlength]
      rcases Nat.le_total fwDataSize (contents fw).length with hlong | hshort
      · rw [Nat.min_eq_left hlong, Nat.sub_self, List.replicate_zero, List.append_nil,
          ← List.append_assoc, List.take_append_drop, Nat.mul_succ]
        congr 2
        omega
      -- the last frame
      · have hnone : P.reads (P.fRead fw fwDataSize).fil = 0 := by
          apply h.reads_of_nil
          rw [h.rest fw not_false, List.drop_of_length_le hshort]
        rw [Nat.min_eq_right hshort, hnone, List.take_of_length_le hshort,
          List.drop_of_length_le hshort, Nat.sub_eq_zero_of_le hshort]
        simp
  | case2 buffer fw hbr =>
      rw [h.eq_nil (Decidable.of_not_not hbr) not_false, P.reads_of_eq (Decidable.of_not_not hbr)]
      rfl

/-- The last 16 bytes of each frame are the random number. -/
theorem Platform.decrypt_images {decrypt : List UInt8 → List UInt8}
    (hdecrypt : ∀ plain, decrypt (bytesOf (P.encryptCbc plain msgSize.toNat fun _ => 0)
      msgSize.toNat) = bytesOf plain msgSize.toNat) :
    ∀ image ∈ P.images rnd buffer fw,
      (decrypt (bytesOf image msgSize.toNat)).drop fwDataSize = bytesOf rnd fwCmacSize := by
  fun_induction Platform.images P rnd buffer fw with
  | case1 buffer fw hbr buffer' ih =>
      intro image hmem
      rcases List.mem_cons.mp hmem with rfl | hmem
      · exact (P.decrypt_fwFrame hdecrypt (P.read_le fw fwDataSize)).2
      · exact ih image hmem
  | case2 buffer fw hbr =>
      intro image hmem
      cases hmem

end

/-! ## The transfer -/

/-- The messages `frames` bring the file `F` and the random number `rnd` to an
ECU that decrypts them. -/
structure Transferred (decrypt : List UInt8 → List UInt8) (F rnd : List UInt8)
    (frames : List CanSend) : Prop where
  count : frames.length = (F.length + (fwDataSize - 1)) / fwDataSize
  size : ∀ f ∈ frames, f.length = 64 ∧ f.payload.length = 64
  image : (frames.map fun f => (decrypt f.payload).take fwDataSize).flatten =
    F ++ List.replicate (fwDataSize * frames.length - F.length) 0
  random : ∀ f ∈ frames, (decrypt f.payload).drop fwDataSize = rnd

/-- **The transfer of a firmware image is faithful**: an update that sends its
end request has sent the whole file, padded with zeros, and with each block the
random number it was given. -/
theorem image_transfer_faithful (P : Platform) {contents : P.Fil → List UInt8}
    {decrypt : List UInt8 → List UInt8} (hread : P.ReadsNext contents fun _ => False)
    (hdecrypt : ∀ plain, decrypt (bytesOf (P.encryptCbc plain msgSize.toNat fun _ => 0)
      msgSize.toNat) = bytesOf plain msgSize.toNat)
    (ecuList : UInt8 → Ecu) (ecuId : UInt8) (fw : P.Fil) (secureUpdate : Bool) (mem : Mem)
    (outcomes : Nat → Option CanMessage)
    (hend : .sent (endMsg ecuList ecuId) ∈
      (updateFirmware P ecuList ecuId fw secureUpdate { mem, outcomes }).2.log) :
    ∃ frames reply,
      sentMsgs (updateFirmware P ecuList ecuId fw secureUpdate { mem, outcomes }).2.log =
        flagMsg (ecuList ecuId).instIdx (pduIdMaskTypeFw ||| ecuId.toUInt32) resetCmd ::
          flagMsg (ecuList ecuId).instIdx (pduIdMaskTypeFw ||| ecuId.toUInt32)
            (if secureUpdate then beginSec else beginNonsec) ::
            (frames ++ [endMsg ecuList ecuId]) ∧
      outcomes 1 = some reply ∧
      Transferred decrypt (contents fw)
        (if secureUpdate then bytesOf reply.data fwCmacSize else List.replicate fwCmacSize 0)
        frames := by
  have hreaches := (sent_endMsg_iff P ecuList ecuId fw secureUpdate mem outcomes).mp hend
  obtain ⟨hsent, -⟩ := updateFirmware_reaches P ecuList ecuId fw secureUpdate mem outcomes hreaches
  obtain ⟨-, ⟨reply, hreply, -⟩, -⟩ := hreaches
  refine ⟨_, reply, hsent, hreply, ?_⟩
  have hrnd : (if secureUpdate then bytesOf reply.data fwCmacSize
      else List.replicate fwCmacSize 0) =
        bytesOf (challenge secureUpdate (outcomes 1)) fwCmacSize := by
    rw [hreply, challenge]
    split
    · rfl
    · exact (bytesOf_const 0).symm
  rw [hrnd]
  constructor
  case count =>
    rw [List.length_map, List.length_map, P.length_images, hread.reads_eq]
  case size =>
    intro f hf
    obtain ⟨request, hrequest, rfl⟩ := List.mem_map.mp hf
    obtain ⟨image, -, rfl⟩ := List.mem_map.mp hrequest
    exact ⟨rfl, length_bytesOf⟩
  case image =>
    rw [List.length_map, List.length_map, P.length_images, List.map_map, List.map_map]
    exact hread.images_file hdecrypt
  case random =>
    intro f hf
    obtain ⟨request, hrequest, rfl⟩ := List.mem_map.mp hf
    obtain ⟨image, hmem, rfl⟩ := List.mem_map.mp hrequest
    exact P.decrypt_images hdecrypt image hmem

/-! ## A cipher in the mode of the security module -/

/-- Cipher block chaining over blocks of 16 bytes, each of which is encrypted by
adding the key to its bytes. -/
def xorCbc (key : UInt8) (plain iv : Bytes) (i : Nat) : UInt8 :=
  plain i ^^^ (if 16 ≤ i then xorCbc key plain iv (i - 16) else iv i) ^^^ key
termination_by i

def xorCbcDecrypt (key : UInt8) (cipher : List UInt8) : List UInt8 :=
  bytesOf (fun i => cipher.getD i 0 ^^^ key ^^^ if 16 ≤ i then cipher.getD (i - 16) 0 else 0)
    cipher.length

theorem xorCbcDecrypt_xorCbc (key : UInt8) (plain : Bytes) (n : Nat) :
    xorCbcDecrypt key (bytesOf (xorCbc key plain fun _ => 0) n) = bytesOf plain n := by
  have hbyte : ∀ (f : Bytes) i, i < n → (bytesOf f n).getD i 0 = f i := by
    intro f i hi
    simp [bytesOf, List.getD, hi]
  rw [xorCbcDecrypt, length_bytesOf]
  apply bytesOf_congr
  intro i hi
  rw [hbyte _ i hi, hbyte _ (i - 16) (Nat.lt_of_le_of_lt (Nat.sub_le i 16) hi), xorCbc]
  split <;> simp [UInt8.xor_assoc]

/-- Files in memory, encrypted. -/
def encryptedPlatform : Platform :=
  { memoryPlatform with encryptCbc := fun plain _ iv => xorCbc 0x5A plain iv }

theorem bytesOf_getD (l : List UInt8) (n : Nat) :
    bytesOf (fun i => l.getD i 0) (min n l.length) = l.take n := by
  apply List.ext_getElem
  · rw [length_bytesOf, List.length_take]
  · intro i hi hi'
    rw [length_bytesOf] at hi
    have hlt : i < l.length := Nat.lt_of_lt_of_le hi (Nat.min_le_right _ _)
    simp [bytesOf, List.getD, hlt]

theorem encryptedPlatform_reads :
    encryptedPlatform.ReadsNext (fun fw : List UInt8 => fw) fun _ => False where
  failed _ hfails := hfails.elim
  br _ _ := rfl
  data fw _ := bytesOf_getD fw fwDataSize
  rest _ _ := rfl

/-- An ECU that gives the replies to an update with that many firmware frames. -/
def obedientEcu (frames n : Nat) : Option CanMessage :=
  some
    { id := 2
      length := 16
      data := fun _ => ([resetAck, 0x12] ++ List.replicate frames frameAck ++ [endAck]).getD n 0 }

/-- A file of fifty bytes, in two frames. -/
theorem image_transfer_faithful_fifty_bytes :
    let file : List UInt8 := (List.range 50).map UInt8.ofNat
    ∃ frames reply,
      sentMsgs (updateFirmware encryptedPlatform ecuTable 2 file true
          { mem := {}, outcomes := obedientEcu 2 }).2.log =
        flagMsg (ecuTable 2).instIdx 0x04000002 resetCmd ::
          flagMsg (ecuTable 2).instIdx 0x04000002 beginSec :: (frames ++ [endMsg ecuTable 2]) ∧
      obedientEcu 2 1 = some reply ∧
      Transferred (xorCbcDecrypt 0x5A) file (bytesOf reply.data fwCmacSize) frames := by
  intro file
  have hreads : encryptedPlatform.reads file = 2 := by
    rw [encryptedPlatform_reads.reads_eq file, List.length_map, List.length_range]
    rfl
  have hreaches : encryptedPlatform.ReachesEnd file true (obedientEcu 2) := by
    unfold Platform.ReachesEnd
    rw [hreads]
    exact ⟨⟨_, rfl, rfl⟩, ⟨_, rfl, .inl rfl⟩, ⟨_, rfl, rfl⟩, ⟨_, rfl, rfl⟩, trivial⟩
  exact image_transfer_faithful encryptedPlatform encryptedPlatform_reads
    (fun plain => xorCbcDecrypt_xorCbc 0x5A plain _) ecuTable 2 file true {} (obedientEcu 2)
    ((sent_endMsg_iff encryptedPlatform ecuTable 2 file true {} (obedientEcu 2)).mpr hreaches)

/-! ## Reads that fail -/

/-- The number of reads of an update: each is followed by a message, and two
messages come before the first. -/
def readsDone (log : List FwEvent) : Nat := (sentMsgs log).length - 2

/-- A read failed and there was something left to read. -/
def Platform.FailsAt (P : Platform) (contents : P.Fil → List UInt8) (fails : P.Fil → Prop)
    (fw : P.Fil) (k : Nat) : Prop :=
  fails (P.fileAfter fw k) ∧ contents (P.fileAfter fw k) ≠ []

/-- `msg` is a firmware frame with the bytes `chunk` of the file in it. -/
def Platform.FrameOf (P : Platform) (chunk : List UInt8) (msg : CanSend) : Prop :=
  chunk.length ≤ fwDataSize ∧ ∃ plain, bytesOf plain chunk.length = chunk ∧
    msg.payload = bytesOf (P.encryptCbc plain msgSize.toNat fun _ => 0) msgSize.toNat

/-- The firmware frames of `msgs` carry every byte of `F`, in order. -/
def Platform.ImageSent (P : Platform) (F : List UInt8) (msgs : List CanSend) : Prop :=
  ∃ chunks, chunks.flatten = F ∧
    List.Forall₂ P.FrameOf chunks (msgs.filter (·.length = 64))

/-- A read error does not pass for the end of the file, in an update with the
result `r`. -/
structure ReadErrorsNoticed (P : Platform) (contents : P.Fil → List UInt8)
    (fails : P.Fil → Prop) (ecuList : UInt8 → Ecu) (ecuId : UInt8) (fw : P.Fil)
    (r : Int × FwRun) : Prop where
  complete : .sent (endMsg ecuList ecuId) ∈ r.2.log → r.1 = statusSuccess →
    P.ImageSent (contents fw) (sentMsgs r.2.log)
  reported : (∃ k < readsDone r.2.log, P.FailsAt contents fails fw k) → r.1 ≠ statusSuccess

section
variable {P : Platform} {buffer rnd : Bytes} {fw : P.Fil} {contents : P.Fil → List UInt8}
  {fails : P.Fil → Prop}

/-- The reads that lead to a frame did not fail. -/
theorem Platform.ReadsNext.not_fails (h : P.ReadsNext contents fails) {k : Nat}
    (hk : k < P.reads fw) : ¬ fails (P.fileAfter fw k) := by
  fun_induction Platform.reads P fw generalizing k with
  | case1 fw hbr ih =>
      cases k with
      | zero => exact fun hfails => hbr (h.failed fw hfails)
      | succ k => exact ih (Nat.lt_of_succ_lt_succ hk)
  | case2 fw hbr => exact absurd hk (Nat.not_lt_zero k)

theorem Platform.ReadsNext.chunks_flatten (h : P.ReadsNext contents fails)
    (hgood : ∀ k ≤ P.reads fw, ¬ P.FailsAt contents fails fw k) :
    (P.chunks fw).flatten = contents fw := by
  fun_induction Platform.chunks P fw with
  | case1 fw hbr ih =>
      rw [P.reads_of_ne hbr] at hgood
      have hnext := ih fun k hk => hgood (k + 1) (Nat.succ_le_succ hk)
      have hfails : ¬ fails fw := fun hfails => hbr (h.failed fw hfails)
      rw [List.flatten_cons, hnext, h.data fw hfails, h.rest fw hfails, List.take_append_drop]
  | case2 fw hbr =>
      by_contra hne
      apply hgood 0 (Nat.zero_le _)
      refine ⟨?_, Ne.symm hne⟩
      by_contra hfails
      exact hne (h.eq_nil (Decidable.of_not_not hbr) hfails).symm

/-- Each frame carries what was read for it. -/
theorem Platform.forall₂_images (P : Platform) (rnd buffer : Bytes) (fw : P.Fil)
    (interface msgId : UInt32) :
    List.Forall₂ P.FrameOf (P.chunks fw)
      ((P.images rnd buffer fw).map fun image => sendMsg interface msgId image msgSize) := by
  fun_induction Platform.images P rnd buffer fw with
  | case1 buffer fw hbr buffer' ih =>
      rw [Platform.chunks, dif_pos hbr, List.map_cons]
      refine .cons ⟨?_, P.plainFrame buffer rnd (P.fRead fw fwDataSize), ?_, rfl⟩ ih
      · rw [length_bytesOf]
        exact P.read_le fw fwDataSize
      · rw [length_bytesOf]
        exact P.bytesOf_plainFrame_read (P.read_le fw fwDataSize)
  | case2 buffer fw hbr =>
      rw [Platform.chunks, dif_neg hbr]
      exact .nil

/-- Of the messages of an update, the firmware frames have the length 64. -/
theorem frames_updateRequests (P : Platform) (ecuList : UInt8 → Ecu) (ecuId : UInt8)
    (fw : P.Fil) (secureUpdate : Bool) (outcomes : Nat → Option CanMessage) :
    ∃ buffer, ((P.updateRequests ecuList ecuId fw secureUpdate outcomes).map Prod.snd ++
        [endMsg ecuList ecuId]).filter (·.length = 64) =
      (P.images (challenge secureUpdate (outcomes 1)) buffer fw).map fun image =>
        sendMsg (ecuList ecuId).instIdx (pduIdMaskTypeFw ||| ecuId.toUInt32) image msgSize := by
  refine ⟨Function.update (fun _ => 0) 0 (beginCmd secureUpdate), ?_⟩
  rw [Platform.updateRequests, Platform.requests, List.map_cons, List.map_cons,
    List.cons_append, List.cons_append, List.filter_cons_of_neg (by simp [flagMsg]),
    List.filter_cons_of_neg (by simp [flagMsg]), List.filter_append, List.map_map,
    List.filter_eq_self.mpr ?long]
  case long =>
    intro msg hmsg
    obtain ⟨image, -, rfl⟩ := List.mem_map.mp hmsg
    rfl
  exact List.append_nil _

/-- An update that stops before its end request has made only reads that led to
a frame. -/
theorem readErrorsNoticed_of_stops (hread : P.ReadsNext contents fails) (ecuList : UInt8 → Ecu)
    (ecuId : UInt8) (mem : Mem) {secureUpdate : Bool} {outcomes : Nat → Option CanMessage}
    (h : ¬ P.ReachesEnd fw secureUpdate outcomes) :
    ReadErrorsNoticed P contents fails ecuList ecuId fw
      (updateFirmware P ecuList ecuId fw secureUpdate { mem, outcomes }) := by
  obtain ⟨k, hk, hsent⟩ := updateFirmware_stops P ecuList ecuId fw secureUpdate mem outcomes h
  constructor
  case complete =>
    intro hend
    exact absurd ((sent_endMsg_iff P ecuList ecuId fw secureUpdate mem outcomes).mp hend) h
  case reported =>
    rintro ⟨j, hj, hfails, -⟩
    rw [readsDone, hsent, List.length_take] at hj
    exact absurd hfails (hread.not_fails (by omega))

/-- **A read error does not pass for the end of the file exactly when** no read
fails before it, or the update does not come so far, or the end request is
answered with a refusal. -/
theorem read_errors_noticed_iff (hread : P.ReadsNext contents fails) (ecuList : UInt8 → Ecu)
    (ecuId : UInt8) (secureUpdate : Bool) (mem : Mem) (outcomes : Nat → Option CanMessage) :
    ReadErrorsNoticed P contents fails ecuList ecuId fw
        (updateFirmware P ecuList ecuId fw secureUpdate { mem, outcomes }) ↔
      (∀ k ≤ P.reads fw, ¬ P.FailsAt contents fails fw k) ∨
        ¬ P.ReachesEnd fw secureUpdate outcomes ∨
        Stage.finish.Refused secureUpdate (outcomes (P.reads fw + 2)) := by
  by_cases hreaches : P.ReachesEnd fw secureUpdate outcomes
  swap
  · exact ⟨fun _ => .inr (.inl hreaches),
      fun _ => readErrorsNoticed_of_stops hread ecuList ecuId mem hreaches⟩
  obtain ⟨hsent, hrc⟩ :=
    updateFirmware_reaches P ecuList ecuId fw secureUpdate mem outcomes hreaches
  have hdone : readsDone
      (updateFirmware P ecuList ecuId fw secureUpdate { mem, outcomes }).2.log =
        P.reads fw + 1 := by
    rw [readsDone, hsent, List.length_append, List.length_map, length_updateRequests]
    rfl
  constructor
  · intro h
    by_cases hrefused : Stage.finish.Refused secureUpdate (outcomes (P.reads fw + 2))
    · exact .inr (.inr hrefused)
    · left
      intro k hk hfails
      have hlt : k < readsDone
          (updateFirmware P ecuList ecuId fw secureUpdate { mem, outcomes }).2.log := by
        rw [hdone]
        exact Nat.lt_succ_of_le hk
      exact h.reported ⟨k, hlt, hfails⟩ (hrc.mpr hrefused)
  · intro h
    constructor
    case complete =>
      intro _ hsuccess
      have hgood := h.resolve_right (not_or_intro (not_not_intro hreaches) (hrc.mp hsuccess))
      obtain ⟨buffer, hframes⟩ :=
        frames_updateRequests P ecuList ecuId fw secureUpdate outcomes
      refine ⟨P.chunks fw, hread.chunks_flatten hgood, ?_⟩
      rw [hsent, hframes]
      exact P.forall₂_images _ _ _ _ _
    case reported =>
      rintro ⟨k, hk, hfails⟩ hsuccess
      have hgood := h.resolve_right (not_or_intro (not_not_intro hreaches) (hrc.mp hsuccess))
      rw [hdone] at hk
      exact hgood k (Nat.le_of_lt_succ hk) hfails

end

/-! ## A card that fails -/

/-- A file from the position on, on a card some reads of which fail. -/
structure CardFile where
  bytes : List UInt8
  fails : Nat → Bool
  reads : Nat := 0

def cardPlatform : Platform where
  Fil := CardFile
  fRead fw n :=
    if fw.fails fw.reads then
      { data := fun _ => 0, br := 0, fil := { fw with reads := fw.reads + 1 } }
    else
      { data := fun i => fw.bytes.getD i 0
        br := min n fw.bytes.length
        fil := { fw with bytes := fw.bytes.drop n, reads := fw.reads + 1 } }
  remaining fw := fw.bytes.length
  read_le fw n := by
    split
    · exact Nat.zero_le n
    · exact Nat.min_le_left n _
  read_remaining fw n := by
    split
    · exact Nat.le_refl _
    · show (fw.bytes.drop n).length + min n fw.bytes.length ≤ fw.bytes.length
      rw [List.length_drop]
      omega
  encryptCbc plain _ iv := xorCbc 0x5A plain iv

/-- The next read fails. -/
def CardFile.Failing (fw : CardFile) : Prop := fw.fails fw.reads = true

theorem cardPlatform_reads : cardPlatform.ReadsNext CardFile.bytes CardFile.Failing where
  failed (fw : CardFile) hfails := by simp_all [cardPlatform, CardFile.Failing]
  br (fw : CardFile) hfails := by simp_all [cardPlatform, CardFile.Failing]
  data (fw : CardFile) hfails := by
    rw [CardFile.Failing] at hfails
    simpa [cardPlatform, hfails] using bytesOf_getD fw.bytes fwDataSize
  rest (fw : CardFile) hfails := by simp_all [cardPlatform, CardFile.Failing]

/-- The second read of a file of 60 bytes fails. -/
def brokenFile : cardPlatform.Fil :=
  ({ bytes := List.replicate 60 0xAA, fails := fun k => k = 1 } : CardFile)

theorem brokenFile_reads : cardPlatform.reads brokenFile = 1 := by
  rw [cardPlatform.reads_of_ne (by decide), cardPlatform.reads_of_eq (by decide)]

theorem brokenFile_reachesEnd : cardPlatform.ReachesEnd brokenFile true (obedientEcu 1) := by
  unfold Platform.ReachesEnd
  rw [brokenFile_reads]
  exact ⟨⟨_, rfl, rfl⟩, ⟨_, rfl, .inl rfl⟩, ⟨_, rfl, rfl⟩, trivial⟩

theorem read_errors_noticed_iff_broken_file :
    ReadErrorsNoticed cardPlatform CardFile.bytes CardFile.Failing ecuTable 2 brokenFile
        (updateFirmware cardPlatform ecuTable 2 brokenFile true
          { mem := {}, outcomes := obedientEcu 1 }) ↔
      (∀ k ≤ cardPlatform.reads brokenFile,
          ¬ cardPlatform.FailsAt CardFile.bytes CardFile.Failing brokenFile k) ∨
        ¬ cardPlatform.ReachesEnd brokenFile true (obedientEcu 1) ∨
        Stage.finish.Refused true (obedientEcu 1 (cardPlatform.reads brokenFile + 2)) :=
  read_errors_noticed_iff cardPlatform_reads ecuTable 2 true {} (obedientEcu 1)

/-- The update sends one of the two frames and the end request, which the ECU
acknowledges, and is a success. -/
theorem truncated_image_is_success :
    ∃ s, updateFirmware cardPlatform ecuTable 2 brokenFile true
          { mem := {}, outcomes := obedientEcu 1 } = (statusSuccess, s) ∧
      .sent (endMsg ecuTable 2) ∈ s.log ∧
      ((sentMsgs s.log).filter (·.length = 64)).length = 1 ∧
      ¬ ReadErrorsNoticed cardPlatform CardFile.bytes CardFile.Failing ecuTable 2 brokenFile
        (statusSuccess, s) := by
  obtain ⟨hsent, hrc⟩ :=
    updateFirmware_reaches cardPlatform ecuTable 2 brokenFile true {} (obedientEcu 1)
      brokenFile_reachesEnd
  obtain ⟨buffer, hframes⟩ :=
    frames_updateRequests cardPlatform ecuTable 2 brokenFile true (obedientEcu 1)
  have hsuccess : ¬ Stage.finish.Refused true
      (obedientEcu 1 (cardPlatform.reads brokenFile + 2)) := by
    rw [brokenFile_reads]
    rintro ⟨reply, hreply, hrefuses⟩
    cases hreply
    exact hrefuses rfl
  refine ⟨_, Prod.ext (hrc.mpr hsuccess) rfl, ?_, ?_, ?_⟩
  · rw [← mem_sentMsgs, hsent]
    simp
  · rw [hsent, hframes, List.length_map, cardPlatform.length_images, brokenFile_reads]
  · intro h
    refine h.reported ⟨1, ?_, rfl, by decide⟩ rfl
    show 1 < (sentMsgs _).length - 2
    rw [hsent, List.length_append, List.length_map, length_updateRequests, brokenFile_reads]
    decide

end XcanRouter
