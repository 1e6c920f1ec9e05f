import XcanRouter.Framework.Script

/-!
# The PDUs of an update

A PDU that `CAN_updateFirmware` receives is its own to free. It does so after
each reply that it waits for; the tests for a reply that it does not wait for
return before that.
-/

namespace XcanRouter

/-- The number of PDUs that were received. -/
def pdusIn (log : List FwEvent) : Nat :=
  log.countP fun
    | .got (some _) => true
    | _ => false

/-- From `m` to `m'` each PDU that was received was freed, once, and nothing
was read but their payloads, before they were freed. The blocks that are handed
out are those of the PDUs (`updateFirmware_blocks`). -/
structure PdusReleased (m m' : Mem) : Prop where
  released : Released m.heap m'.heap
  reads : ∃ accesses, m'.log = m.log ++ accesses ∧ ∀ a ∈ accesses, a.dead = false ∧
    ∃ b, a.block = some b ∧ m.heap.brk ≤ b ∧ b < m'.heap.brk

/-- From receive number `n` on, every PDU is the awaited reply, up to a timeout
or to the end of the stages. -/
def NoRefusal (secureUpdate : Bool) (outcomes : Nat → Option CanMessage) :
    List Stage → Nat → Prop
  | [], _ => True
  | stage :: stages, n => ∀ reply, outcomes n = some reply →
    stage.Accepts secureUpdate reply ∧ NoRefusal secureUpdate outcomes stages (n + 1)

section
variable {m₀ : Mem} {s : FwRun} {msg : CanSend} {reply : CanMessage} {secureUpdate : Bool}

/-- A PDU that is read and freed. -/
theorem PdusReleased.freed (h : PdusReleased m₀ s.mem) (hle : m₀.heap.brk ≤ s.mem.heap.brk)
    (hsane : FreedOnly s.mem.heap) (n : Nat) :
    PdusReleased m₀ (s.freed msg reply n).mem := by
  obtain ⟨accesses, hlog, hall⟩ := h.reads
  constructor
  case released => exact h.released.next hle hsane reply.length.toNat
  case reads =>
    refine ⟨accesses ++ [⟨some s.mem.heap.brk, 0, n, false⟩], ?_, ?_⟩
    · have hlive : (s.looked msg reply n).mem.log =
          s.mem.log ++ [⟨some s.mem.heap.brk, 0, n, false⟩] := by
        simp [FwRun.looked, FwRun.answered, Mem.touch, hsane.brk_notMem]
      show (s.looked msg reply n).mem.log = _
      rw [hlive, hlog, List.append_assoc]
    · intro a ha
      rcases List.mem_append.mp ha with hold | hnew
      · obtain ⟨hdead, b, hb, hge, hlt⟩ := hall a hold
        exact ⟨hdead, b, hb, hge, Nat.lt_succ_of_lt hlt⟩
      · rw [List.mem_singleton.mp hnew]
        exact ⟨rfl, _, rfl, hle, Nat.lt_succ_self _⟩

/-- A PDU that is refused is not freed. -/
theorem not_pdusReleased_looked (hle : m₀.heap.brk ≤ s.mem.heap.brk)
    (hsane : FreedOnly s.mem.heap) (n : Nat) :
    ¬ PdusReleased m₀ (s.looked msg reply n).mem := by
  intro h
  have hone := h.released.once s.mem.heap.brk hle (Nat.lt_succ_self _)
  exact absurd (hsane.count_brk.symm.trans hone) (by decide)

/-- **A conversation releases its PDUs** exactly when none of them is refused. -/
theorem converse_released_iff (script : List Request) (h : PdusReleased m₀ s.mem)
    (hle : m₀.heap.brk ≤ s.mem.heap.brk) (hsane : FreedOnly s.mem.heap) :
    PdusReleased m₀ (s.converse secureUpdate script).2.mem ↔
      NoRefusal secureUpdate s.outcomes (script.map Prod.fst) s.received := by
  induction script generalizing s with
  | nil => exact ⟨fun _ => trivial, fun _ => h⟩
  | cons request script ih =>
      obtain ⟨stage, msg⟩ := request
      rw [List.map_cons, NoRefusal]
      cases hgot : s.outcomes s.received with
      | none =>
          rw [FwRun.converse_timeout hgot]
          constructor
          · intro _ reply hreply
            cases hreply
          · intro _
            exact h
      | some reply =>
          by_cases haccepts : stage.Accepts secureUpdate reply
          · rw [FwRun.converse_accepted hgot haccepts,
              ih (h.freed hle hsane _) (Nat.le_succ_of_le hle) (hsane.next reply.length.toNat)]
            constructor
            · rintro hno _ ⟨⟩
              exact ⟨haccepts, hno⟩
            · intro hno
              exact (hno reply rfl).2
          · rw [FwRun.converse_refused hgot haccepts]
            constructor
            · intro hreleased
              exact absurd hreleased (not_pdusReleased_looked hle hsane _)
            · intro hno
              exact absurd (hno reply rfl).1 haccepts

end

theorem FwRun.converse_blocks (secureUpdate : Bool) (script : List Request) (s : FwRun) :
    (s.converse secureUpdate script).2.mem.heap.brk + pdusIn s.log =
      s.mem.heap.brk + pdusIn (s.converse secureUpdate script).2.log := by
  induction script generalizing s with
  | nil => rfl
  | cons request script ih =>
      obtain ⟨stage, msg⟩ := request
      cases hgot : s.outcomes s.received with
      | none =>
          rw [FwRun.converse_timeout hgot]
          simp [FwRun.unanswered, pdusIn]
      | some reply =>
          by_cases haccepts : stage.Accepts secureUpdate reply
          · rw [FwRun.converse_accepted hgot haccepts]
            have hrest := ih (s.freed msg reply (stage.reads secureUpdate))
            have hbrk : (s.freed msg reply (stage.reads secureUpdate)).mem.heap.brk =
              s.mem.heap.brk + 1 := rfl
            have hpdus : pdusIn (s.freed msg reply (stage.reads secureUpdate)).log =
                pdusIn s.log + 1 := by
              simp [FwRun.freed, FwRun.looked, FwRun.answered, pdusIn]
            omega
          · rw [FwRun.converse_refused hgot haccepts]
            simp [FwRun.looked, FwRun.answered, pdusIn]
            omega

/-- **The blocks that an update is given are those of its PDUs**, one for each. -/
theorem updateFirmware_blocks (P : Platform) (ecuList : UInt8 → Ecu) (ecuId : UInt8)
    (fw : P.Fil) (secureUpdate : Bool) (mem : Mem) (outcomes : Nat → Option CanMessage) :
    (updateFirmware P ecuList ecuId fw secureUpdate { mem, outcomes }).2.mem.heap.brk =
      mem.heap.brk +
        pdusIn (updateFirmware P ecuList ecuId fw secureUpdate { mem, outcomes }).2.log := by
  rw [updateFirmware_eq]
  exact FwRun.converse_blocks _ _ { mem, outcomes }

/-- **An update frees what it receives exactly when** no reply that awaited
replies alone lead to is refused. -/
theorem pdus_released_iff (P : Platform) (ecuList : UInt8 → Ecu) (ecuId : UInt8) (fw : P.Fil)
    (secureUpdate : Bool) {mem : Mem} (outcomes : Nat → Option CanMessage)
    (hsane : FreedOnly mem.heap) :
    PdusReleased mem (updateFirmware P ecuList ecuId fw secureUpdate { mem, outcomes }).2.mem ↔
      NoRefusal secureUpdate outcomes (P.stages fw) 0 := by
  have hnothing : PdusReleased mem mem :=
    ⟨.refl (fun _ => rfl) rfl, [], (List.append_nil _).symm, fun a ha => nomatch ha⟩
  rw [updateFirmware_eq, converse_released_iff (s := { mem, outcomes }) _ hnothing
    (Nat.le_refl _) hsane, P.script_stages]

/-- An ECU that refuses the reset. -/
def refusingEcu (_ : Nat) : Option CanMessage := some { id := 2, length := 1, data := fun _ => 0 }

theorem pdus_released_iff_refused_reset :
    PdusReleased {} (updateFirmware memoryPlatform ecuTable 2 [0x12, 0x34] true
        { mem := {}, outcomes := refusingEcu }).2.mem ↔
      NoRefusal true refusingEcu (memoryPlatform.stages [0x12, 0x34]) 0 :=
  pdus_released_iff memoryPlatform ecuTable 2 [0x12, 0x34] true refusingEcu
    fun _ hb => nomatch hb

/-- The PDU with the refusal stays allocated. -/
theorem refusal_leaks :
    ∃ s, updateFirmware memoryPlatform ecuTable 2 [0x12, 0x34] true
          { mem := {}, outcomes := refusingEcu } = (pdTrue, s) ∧
      s.mem.heap.brk = 1 ∧ s.mem.heap.frees = [] ∧ ¬ PdusReleased {} s.mem := by
  refine ⟨_, rfl, rfl, rfl, ?_⟩
  intro h
  cases h.released.once 0 (Nat.le_refl 0) Nat.one_pos

end XcanRouter
