import XcanRouter.Framework.Responses
import XcanRouter.Framework.Script

/-!
# How far a payload is read

The buffer of a PDU has as many bytes as the frame announced. What is read of
it depends on the command or on the stage of the update, and its length is not
looked at.
-/

namespace XcanRouter

/-- From `m` to `m'` nothing was read but blocks that were handed out, and of
those no more bytes than were asked for. -/
def ReadsWithin (m m' : Mem) : Prop :=
  ∃ accesses, m'.log = m.log ++ accesses ∧ ∀ a ∈ accesses, ∃ b < m'.heap.brk,
    a.block = some b ∧ a.offset + a.size ≤ m'.heap.size b

/-- The buffer of the PDU, as `CAN_buildPDU` allocates it. -/
structure Pdu.Buffer (pdu : Pdu) (m : Mem) (b : Ptr) : Prop where
  data : pdu.data = some b
  handedOut : b < m.heap.brk
  size : m.heap.size b = pdu.length.toNat

theorem canBuildPdu_buffer {m : Mem} (frame : CanMessage)
    (hoom : m.heap.oom m.heap.calls = false) :
    (canBuildPdu frame m).1.Buffer (canBuildPdu frame m).2 m.heap.brk := by
  rw [canBuildPdu_granted frame hoom]
  constructor
  case data => rfl
  case handedOut => exact Nat.lt_succ_self _
  case size => exact Function.update_self ..

/-! ## Commands -/

/-- How many bytes of a command are read. -/
def commandReads (cmd : UInt8) : Nat :=
  if cmd = ecuCmdReqAll then sizeofEcu
  else if cmd = ecuCmdReqFwver ∨ cmd = ecuCmdReqStatus then 2
  else 1

section
variable {m m' : Mem} {pdu : Pdu} {b : Ptr}

theorem readsWithin_iff {accesses : List Access} (hlog : m'.log = m.log ++ accesses) :
    ReadsWithin m m' ↔ ∀ a ∈ accesses, ∃ b < m'.heap.brk,
      a.block = some b ∧ a.offset + a.size ≤ m'.heap.size b := by
  constructor
  · rintro ⟨accesses', hlog', hall⟩
    rw [hlog] at hlog'
    rwa [List.append_cancel_left hlog']
  · intro hall
    exact ⟨accesses, hlog, hall⟩

/-- The command byte, and what its command asks for. -/
theorem gwParsePdu_reads (cfg : Config) (ecuList : UInt8 → Ecu) (pdu : Pdu) (m : Mem) :
    (gwParsePdu cfg ecuList pdu m).2 =
      if m.byteAt (pdu.byte 0) 0 = ecuCmdReqAll then
        (m.touch pdu.data 0 1).touch pdu.data 0 sizeofEcu
      else if m.byteAt (pdu.byte 0) 0 = ecuCmdReqFwver ∨
          m.byteAt (pdu.byte 0) 0 = ecuCmdReqStatus then
        (m.touch pdu.data 0 1).touch pdu.data 1 1
      else
        m.touch pdu.data 0 1 := by
  unfold gwParsePdu
  rw [MemOp.bind_apply, loadByte_byte]
  dsimp only
  split
  · rfl
  · split
    · rename_i hfwver
      rw [if_pos (.inl hfwver), MemOp.bind_apply, loadByte_byte]
      rfl
    · rename_i hfwver
      split
      · rename_i hstatus
        rw [if_pos (.inr hstatus), MemOp.bind_apply, loadByte_byte]
        rfl
      · rename_i hstatus
        rw [if_neg (not_or.mpr ⟨hfwver, hstatus⟩)]
        rfl

theorem ReadsWithin.refl (m : Mem) : ReadsWithin m m :=
  ⟨[], (List.append_nil _).symm, fun _ ha => nomatch ha⟩

/-- One more access. -/
theorem readsWithin_touch {accesses : List Access} (hlog : m'.log = m.log ++ accesses)
    {offset size : Nat} : ReadsWithin m (m'.touch (some b) offset size) ↔
      ReadsWithin m m' ∧ b < m'.heap.brk ∧ offset + size ≤ m'.heap.size b := by
  have hlog' : (m'.touch (some b) offset size).log = m.log ++ (accesses ++
      [⟨some b, offset, size, (some b).any (· ∈ m'.heap.frees)⟩]) := by
    rw [Mem.touch_log, hlog, List.append_assoc]
  rw [readsWithin_iff hlog', readsWithin_iff hlog, List.forall_mem_append]
  simp

theorem Pdu.Buffer.readsWithin_touch (hbuf : pdu.Buffer m b) {offset size : Nat} :
    ReadsWithin m (m.touch pdu.data offset size) ↔ offset + size ≤ pdu.length.toNat := by
  rw [hbuf.data, XcanRouter.readsWithin_touch (List.append_nil _).symm, hbuf.size]
  simp [ReadsWithin.refl, hbuf.handedOut]

theorem Pdu.Buffer.readsWithin_touch_touch (hbuf : pdu.Buffer m b)
    {offset size offset' size' : Nat} :
    ReadsWithin m ((m.touch pdu.data offset size).touch pdu.data offset' size') ↔
      offset + size ≤ pdu.length.toNat ∧ offset' + size' ≤ pdu.length.toNat := by
  rw [← hbuf.readsWithin_touch, hbuf.data, XcanRouter.readsWithin_touch (Mem.touch_log ..)]
  simp [hbuf.size, hbuf.handedOut]

/-- **A command is read within its buffer exactly when** it has as many bytes
as are read of it. -/
theorem gwParsePdu_readsWithin_iff (cfg : Config) (ecuList : UInt8 → Ecu)
    (hbuf : pdu.Buffer m b) :
    ReadsWithin m (gwParsePdu cfg ecuList pdu m).2 ↔
      commandReads (m.byteAt (pdu.byte 0) 0) ≤ pdu.length.toNat := by
  rw [gwParsePdu_reads, commandReads]
  split
  · rw [hbuf.readsWithin_touch_touch, sizeofEcu]
    omega
  · split
    · rw [hbuf.readsWithin_touch_touch]
      omega
    · rw [hbuf.readsWithin_touch]

/-- `m'` comes after `m`: it has the log of `m` so far and the blocks of `m`. -/
structure Mem.Extends (m m' : Mem) : Prop where
  log : ∃ accesses, m'.log = m.log ++ accesses
  brk : m.heap.brk ≤ m'.heap.brk
  size : ∀ b < m.heap.brk, m'.heap.size b = m.heap.size b

theorem Mem.Extends.refl (m : Mem) : m.Extends m :=
  ⟨⟨[], (List.append_nil _).symm⟩, Nat.le_refl _, fun _ _ => rfl⟩

theorem Mem.Extends.trans {m'' : Mem} (h : m.Extends m') (h' : m'.Extends m'') :
    m.Extends m'' := by
  obtain ⟨accesses, hlog⟩ := h.log
  obtain ⟨accesses', hlog'⟩ := h'.log
  constructor
  case log => exact ⟨accesses ++ accesses', by rw [hlog', hlog, List.append_assoc]⟩
  case brk => exact Nat.le_trans h.brk h'.brk
  case size =>
    intro b hb
    rw [h'.size b (Nat.lt_of_lt_of_le hb h.brk), h.size b hb]

/-- What was read out of bounds stays in the log. -/
theorem Mem.Extends.not_readsWithin {m₀ : Mem} {a : Access} (h : m.Extends m')
    (hlog : ∃ accesses, m.log = m₀.log ++ accesses ∧ a ∈ accesses) (hb : b < m.heap.brk)
    (hblock : a.block = some b) (hbad : m.heap.size b < a.offset + a.size) :
    ¬ ReadsWithin m₀ m' := by
  obtain ⟨accesses, hlog, hmem⟩ := hlog
  obtain ⟨more, hmore⟩ := h.log
  rw [hlog, List.append_assoc] at hmore
  rw [readsWithin_iff hmore]
  intro hall
  obtain ⟨b', -, hb', hle⟩ := hall a (List.mem_append_left _ hmem)
  obtain rfl := Option.some_inj.mp (hblock.symm.trans hb')
  rw [h.size b hb] at hle
  exact Nat.not_lt_of_le hle hbad

/-- Blocks that are handed out or freed do not matter. -/
theorem ReadsWithin.of_log {m₀ : Mem} (h : ReadsWithin m₀ m) (hext : m.Extends m')
    (hlog : m'.log = m.log) : ReadsWithin m₀ m' := by
  obtain ⟨accesses, hlog₀, hall⟩ := h
  refine ⟨accesses, hlog.trans hlog₀, ?_⟩
  intro a ha
  obtain ⟨b, hb, hblock, hle⟩ := hall a ha
  exact ⟨b, Nat.lt_of_lt_of_le hb hext.brk, hblock, by rwa [hext.size b hb]⟩

end

/-! ## Updates -/

/-- From receive number `n` on, every reply that awaited replies lead to has as
many bytes as its stage reads. -/
def RepliesLong (secureUpdate : Bool) (outcomes : Nat → Option CanMessage) :
    List Stage → Nat → Prop
  | [], _ => True
  | stage :: stages, n => ∀ reply, outcomes n = some reply →
    stage.reads secureUpdate ≤ reply.length.toNat ∧
      (stage.Accepts secureUpdate reply → RepliesLong secureUpdate outcomes stages (n + 1))

section
variable {m₀ : Mem} {s : FwRun} {msg : CanSend} {reply : CanMessage} {secureUpdate : Bool}

theorem FwRun.answered_extends (s : FwRun) (msg : CanSend) (reply : CanMessage) :
    s.mem.Extends (s.answered msg reply).mem := by
  constructor
  case log => exact ⟨[], (List.append_nil _).symm⟩
  case brk => exact Nat.le_succ _
  case size =>
    intro b hb
    exact Function.update_of_ne (Nat.ne_of_lt hb) ..

theorem FwRun.looked_extends (s : FwRun) (msg : CanSend) (reply : CanMessage) (n : Nat) :
    s.mem.Extends (s.looked msg reply n).mem := by
  apply (s.answered_extends msg reply).trans
  exact ⟨⟨_, Mem.touch_log ..⟩, Nat.le_refl _, fun _ _ => rfl⟩

theorem FwRun.freed_extends (s : FwRun) (msg : CanSend) (reply : CanMessage) (n : Nat) :
    (s.looked msg reply n).mem.Extends (s.freed msg reply n).mem :=
  ⟨⟨[], (List.append_nil _).symm⟩, Nat.le_refl _, fun _ _ => rfl⟩

theorem FwRun.converse_extends (script : List Request) (s : FwRun) :
    s.mem.Extends (s.converse secureUpdate script).2.mem := by
  induction script generalizing s with
  | nil => exact .refl _
  | cons request script ih =>
      obtain ⟨stage, msg⟩ := request
      cases hgot : s.outcomes s.received with
      | none =>
          rw [FwRun.converse_timeout hgot]
          exact .refl _
      | some reply =>
          by_cases haccepts : stage.Accepts secureUpdate reply
          · rw [FwRun.converse_accepted hgot haccepts]
            exact (s.looked_extends msg reply _).trans
              ((s.freed_extends msg reply _).trans (ih _))
          · rw [FwRun.converse_refused hgot haccepts]
            exact s.looked_extends msg reply _

/-- A reply is looked at. -/
theorem ReadsWithin.looked_iff (h : ReadsWithin m₀ s.mem) (n : Nat) :
    ReadsWithin m₀ (s.looked msg reply n).mem ↔ n ≤ reply.length.toNat := by
  have hanswered : ReadsWithin m₀ (s.answered msg reply).mem :=
    h.of_log (s.answered_extends msg reply) rfl
  have hsize : (s.answered msg reply).mem.heap.size s.mem.heap.brk = reply.length.toNat :=
    Function.update_self ..
  obtain ⟨accesses, hlog, -⟩ := h
  show ReadsWithin m₀ ((s.answered msg reply).mem.touch (some s.mem.heap.brk) 0 n) ↔ _
  have hlog' : (s.answered msg reply).mem.log = m₀.log ++ accesses := hlog
  rw [readsWithin_touch hlog', hsize, Nat.zero_add]
  constructor
  · intro hall
    exact hall.2.2
  · intro hle
    exact ⟨hanswered, Nat.lt_succ_self _, hle⟩

/-- A reply that is too short is read beyond its end. -/
theorem ReadsWithin.short (h : ReadsWithin m₀ s.mem) {n : Nat}
    (hshort : reply.length.toNat < n) {m : Mem}
    (hext : (s.looked msg reply n).mem.Extends m) : ¬ ReadsWithin m₀ m := by
  obtain ⟨accesses, hlog, -⟩ := h
  obtain ⟨a, hblock, hoffset, hsize, hlooked⟩ : ∃ a : Access, a.block = some s.mem.heap.brk ∧
      a.offset = 0 ∧ a.size = n ∧ (s.looked msg reply n).mem.log = s.mem.log ++ [a] :=
    ⟨_, rfl, rfl, rfl, Mem.touch_log ..⟩
  rw [hlog, List.append_assoc] at hlooked
  apply hext.not_readsWithin ⟨_, hlooked, by simp⟩ (Nat.lt_succ_self _) hblock
  rw [hoffset, hsize, Nat.zero_add]
  show (Function.update _ _ _ : Ptr → Nat) s.mem.heap.brk < n
  rw [Function.update_self]
  exact hshort

/-- **A conversation reads within its buffers exactly when** the replies are
long enough. -/
theorem converse_readsWithin_iff (script : List Request) (h : ReadsWithin m₀ s.mem) :
    ReadsWithin m₀ (s.converse secureUpdate script).2.mem ↔
      RepliesLong secureUpdate s.outcomes (script.map Prod.fst) s.received := by
  induction script generalizing s with
  | nil => exact ⟨fun _ => trivial, fun _ => h⟩
  | cons request script ih =>
      obtain ⟨stage, msg⟩ := request
      rw [List.map_cons, RepliesLong]
      cases hgot : s.outcomes s.received with
      | none =>
          rw [FwRun.converse_timeout hgot]
          constructor
          · intro _ reply hreply
            cases hreply
          · intro _
            exact h
      | some reply =>
          have hlooked : ReadsWithin m₀ (s.looked msg reply (stage.reads secureUpdate)).mem ↔ _ :=
            h.looked_iff _
          by_cases haccepts : stage.Accepts secureUpdate reply
          · rw [FwRun.converse_accepted hgot haccepts]
            by_cases hlong : stage.reads secureUpdate ≤ reply.length.toNat
            · have hfreed := (hlooked.mpr hlong).of_log (s.freed_extends msg reply _) rfl
              rw [ih hfreed]
              constructor
              · rintro hrest _ ⟨⟩
                exact ⟨hlong, fun _ => hrest⟩
              · intro hall
                exact (hall reply rfl).2 haccepts
            · constructor
              · intro hwithin
                exact absurd hwithin (h.short (Nat.lt_of_not_le hlong)
                  ((s.freed_extends msg reply _).trans (FwRun.converse_extends script _)))
              · intro hall
                exact absurd (hall reply rfl).1 hlong
          · rw [FwRun.converse_refused hgot haccepts, hlooked]
            constructor
            · rintro hlong _ ⟨⟩
              exact ⟨hlong, fun hawaited => absurd hawaited haccepts⟩
            · intro hall
              exact (hall reply rfl).1

end

/-- **Payloads are read within their length exactly when** they are as long as
what is read of them: a command PDU for its command, and each reply that an
update comes to for its stage. -/
theorem payload_reads_within_iff (cfg : Config) (ecuList : UInt8 → Ecu) {m : Mem} {pdu : Pdu}
    {b : Ptr} (hbuf : pdu.Buffer m b) (P : Platform) (ecuId : UInt8) (fw : P.Fil)
    (secureUpdate : Bool) (mem : Mem) (outcomes : Nat → Option CanMessage) :
    (ReadsWithin m (gwParsePdu cfg ecuList pdu m).2 ↔
        commandReads (m.byteAt (pdu.byte 0) 0) ≤ pdu.length.toNat) ∧
      (ReadsWithin mem
          (updateFirmware P ecuList ecuId fw secureUpdate { mem, outcomes }).2.mem ↔
        RepliesLong secureUpdate outcomes (P.stages fw) 0) := by
  constructor
  · exact gwParsePdu_readsWithin_iff cfg ecuList hbuf
  · rw [updateFirmware_eq, converse_readsWithin_iff (s := { mem, outcomes }) _ (.refl mem),
      P.script_stages]

/-- A status response of two bytes, and an ECU that acknowledges a reset with
one. -/
theorem payload_reads_within_iff_status :
    (ReadsWithin (canBuildPdu { id := 0x08000002, length := 2, data := fun _ => 4 } {}).2
        (gwParsePdu frameworkConfig ecuTable
          (canBuildPdu { id := 0x08000002, length := 2, data := fun _ => 4 } {}).1
          (canBuildPdu { id := 0x08000002, length := 2, data := fun _ => 4 } {}).2).2 ↔
        commandReads 4 ≤ 2) ∧
      (ReadsWithin {}
          (updateFirmware memoryPlatform ecuTable 2 [0x12, 0x34] true
            { mem := {}, outcomes := fun _ =>
                some { id := 2, length := 1, data := fun _ => resetAck } }).2.mem ↔
        RepliesLong true (fun _ => some { id := 2, length := 1, data := fun _ => resetAck })
          (memoryPlatform.stages [0x12, 0x34]) 0) :=
  payload_reads_within_iff frameworkConfig ecuTable
    (canBuildPdu_buffer { id := 0x08000002, length := 2, data := fun _ => 4 } rfl)
    memoryPlatform 2 [0x12, 0x34] true {} _

/-- A command frame without a payload. -/
def emptyCommand : CanMessage := { id := 0x08000002, length := 0, data := fun _ => 0 }

/-- Its command byte is read all the same. -/
theorem empty_command_overread :
    ¬ ReadsWithin (canBuildPdu emptyCommand {}).2
      (gwParsePdu frameworkConfig ecuTable (canBuildPdu emptyCommand {}).1
        (canBuildPdu emptyCommand {}).2).2 := by
  rw [gwParsePdu_readsWithin_iff frameworkConfig ecuTable (canBuildPdu_buffer emptyCommand rfl)]
  decide

end XcanRouter
