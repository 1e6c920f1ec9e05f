import XcanRouter.Framework.Responses
import XcanRouter.Framework.Routing

/-!
# The indices into the tables

`PDU_Descriptors` and `ecu_list` are indexed with parts of the identifier of a
frame, masked in a different way at each place. What may arrive is decided
elsewhere, in the filter of the receive interrupt.
-/

namespace XcanRouter

/-! ## The filter (can.c, can_filter.c) -/

/-- `CAN_ID_FilterTable`. The initialiser has nine of its ten elements. -/
def canIdFilterTable : List UInt32 := [0, 1, 2, 3, 4, 5, 7, 8, 9, 0]

/-- `CAN_filterFrame` -/
def canFilterFrame (frame : CanMessage) : Bool :=
  let tempId := frame.id &&& ~~~pduIdMaskTypeData
  if canIdFilterTable.any (tempId == ·) then true
  else
    -- the `return true` behind the loop
    true

theorem canFilterFrame_eq (frame : CanMessage) : canFilterFrame frame = true := by
  exact ite_self true

/-- `CAN_eventHandler` on `CAN_EVENT_RX_COMPLETE`, up to the send. -/
def Gateway.eventHandler (s : Gateway) (n : Nat) (frame : CanMessage) : Gateway :=
  if canFilterFrame frame then s.interrupt n frame else s

/-- The steps of the machine leave nothing out: no frame is filtered. -/
theorem Gateway.eventHandler_eq (s : Gateway) (n : Nat) (frame : CanMessage) :
    s.eventHandler n frame = s.interrupt n frame := by
  unfold Gateway.eventHandler
  rw [if_pos (canFilterFrame_eq frame)]

/-! ## The indices of a step -/

/-- An element of a table. -/
inductive TableIndex where
  | pduDescriptors (i : Nat)
  | ecuList (i : Nat)
deriving DecidableEq

def TableIndex.InRange (cfg : Config) : TableIndex → Prop
  | .pduDescriptors i => i < cfg.numOfPduTypes
  | .ecuList i => i < cfg.numOfEcus

instance (cfg : Config) : DecidablePred (TableIndex.InRange cfg)
  | .pduDescriptors _ => inferInstanceAs (Decidable (_ < _))
  | .ecuList _ => inferInstanceAs (Decidable (_ < _))

/-- `PDU_printPDU` looks up the label of a data PDU. -/
def printIndices (id : UInt32) : List TableIndex :=
  if id &&& pduIdMaskTypeData ≠ 0 then
    [.pduDescriptors (id &&& pduIdMaskEcuId).toNat]
  else
    []

/-- The loop over the destinations at its test, and in its body. -/
def sendIndices (cfg : Config) (id : UInt32) (i : UInt8) : List TableIndex :=
  let pduId := id &&& ~~~pduIdMaskTypeData
  let desc := cfg.pduDescriptors pduId
  if i < desc.destCount then
    [.pduDescriptors pduId.toNat, .pduDescriptors pduId.toNat,
      .ecuList (desc.dest i.toNat).toNat]
  else
    [.pduDescriptors pduId.toNat]

/-- The `ECU_getECU` of `GW_parsePDU`. -/
def parseIndices (pdu : Pdu) : List TableIndex := [.ecuList pdu.ecuId.toNat]

/-- The elements of the tables that a step comes to. After each PDU
`Gateway_Task` goes through the statuses of all ECUs. -/
def Gateway.indices (cfg : Config) (s : Gateway) : GatewayEvent → List TableIndex
  | .interrupt _ _ => []
  | .enqueue _ => []
  | .pduTask =>
    match s.pduTask with
    | .receive => []
    | .dispatch pdu => printIndices pdu.id
    | .sending pdu i => sendIndices cfg pdu.id i
  | .gatewayTask =>
    match s.gatewayTask with
    | .receive => []
    | .parse pdu =>
      (if pdu.id &&& pduIdMaskTypeCmd ≠ 0 then parseIndices pdu else []) ++
        (List.range cfg.numOfEcus).map .ecuList

/-- Every index of the step is within its table. -/
def Gateway.IndicesInRange (cfg : Config) (s : Gateway) (e : GatewayEvent) : Prop :=
  ∀ x ∈ s.indices cfg e, x.InRange cfg

/-- The tables have what the identifier asks for. -/
def Config.Knows (cfg : Config) (id : UInt32) : Prop :=
  match pduType id with
  | .normal =>
    (id &&& ~~~pduIdMaskTypeData).toNat < cfg.numOfPduTypes ∧
      ∀ ecuId ∈ (cfg.pduDescriptors (id &&& ~~~pduIdMaskTypeData)).dests,
        ecuId.toNat < cfg.numOfEcus
  | .command => (id &&& pduIdMaskEcuId).toNat < cfg.numOfEcus
  | .firmware => True
  | .unknown => True

section
variable {cfg cfg' : Config} {s : Gateway} {e : GatewayEvent}

/-- A step depends on no other descriptors. -/
theorem gatewayStep_congr (hlayout : cfg'.ecuOfBytes = cfg.ecuOfBytes)
    (h : ∀ i : UInt32, .pduDescriptors i.toNat ∈ s.indices cfg e →
      cfg'.pduDescriptors i = cfg.pduDescriptors i) :
    gatewayStep cfg' s e = gatewayStep cfg s e := by
  cases e with
  | interrupt n frame => rfl
  | enqueue n => rfl
  | pduTask =>
      unfold gatewayStep Gateway.stepPduTask
      cases htask : s.pduTask with
      | receive => rfl
      | dispatch pdu => rfl
      | sending pdu i =>
          have hdesc := h (pdu.id &&& ~~~pduIdMaskTypeData) (by
            simp only [Gateway.indices, htask, sendIndices]
            split <;> simp)
          simp only [Gateway.sendNext, hdesc]
  | gatewayTask =>
      unfold gatewayStep Gateway.stepGatewayTask Gateway.parse gwParsePdu
      rw [hlayout]

/-- A step writes no other entries of the list. -/
theorem gatewayStep_ecuList {ecuId : UInt8} (h : .ecuList ecuId.toNat ∉ s.indices cfg e) :
    (gatewayStep cfg s e).ecuList ecuId = s.ecuList ecuId := by
  cases e with
  | interrupt n frame =>
      unfold gatewayStep Gateway.interrupt
      dsimp only
      split <;> rfl
  | enqueue n =>
      unfold gatewayStep Gateway.enqueue
      dsimp only
      repeat' split
      all_goals rfl
  | pduTask =>
      unfold gatewayStep Gateway.stepPduTask Gateway.dispatch Gateway.sendNext Gateway.discard
      dsimp only
      repeat' split
      all_goals rfl
  | gatewayTask =>
      unfold gatewayStep Gateway.stepGatewayTask
      cases htask : s.gatewayTask with
      | receive =>
          dsimp only
          split <;> rfl
      | parse pdu =>
          unfold Gateway.parse
          dsimp only
          split
          · rename_i hcmd
            apply gwParsePdu_of_ne
            rintro rfl
            apply h
            simp [Gateway.indices, htask, hcmd, parseIndices]
          · rfl

/-! ## Where a PDU comes from -/

/-- A PDU was built of the frame that arrives, or was there before, where it
is or one hop away. -/
inductive PduOrigin (s : Gateway) (e : GatewayEvent) (j : Place) (pdu : Pdu) : Prop where
  | built (n : Nat) (frame : CanMessage) (event : e = .interrupt n frame) (place : j = .isr n)
      (id : pdu.id = frame.id)
  | stayed (h : pdu ∈ s.pdusAt j)
  | passed (i : Place) (h : pdu ∈ s.pdusAt i) (hop : Hop pdu.id i j)

/-- A queue holds the PDU that it took besides those that it had. -/
theorem RtosQueue.mem_of_send {q q' : RtosQueue} {sent pdu : Pdu} (hsend : q.send sent = some q')
    (h : pdu ∈ q'.items) : pdu ∈ q.items ∨ pdu = sent := by
  obtain ⟨-, rfl⟩ := RtosQueue.send_eq_some hsend
  simpa using h

theorem interrupt_origin {n : Nat} {frame : CanMessage} {j : Place} {pdu : Pdu}
    (h : pdu ∈ (s.interrupt n frame).pdusAt j) : PduOrigin s (.interrupt n frame) j pdu := by
  unfold Gateway.interrupt at h
  split at h
  · exact .stayed h
  · cases j with
    | isr k =>
        by_cases hk : k = n
        · subst hk
          simp only [Gateway.pdusAt, Function.update_self, Option.map_some,
            Option.toList_some, List.mem_singleton] at h
          rw [h]
          exact .built k frame rfl rfl rfl
        · simp only [Gateway.pdusAt, Function.update_of_ne hk] at h
          exact .stayed h
    | _ => exact .stayed h

theorem enqueue_origin {n : Nat} {j : Place} {pdu : Pdu}
    (h : pdu ∈ (s.enqueue n).pdusAt j) : PduOrigin s e j pdu := by
  unfold Gateway.enqueue at h
  cases hisr : s.isr n with
  | none =>
      rw [hisr] at h
      exact .stayed h
  | some held =>
      obtain ⟨frame, sent⟩ := held
      have hheld : sent ∈ s.pdusAt (.isr n) := by simp [Gateway.pdusAt, hisr]
      rw [hisr] at h
      dsimp only at h
      -- an activation that is through with its PDU has none
      have hrest : ∀ (k : Nat) (s' : Gateway), s'.isr = Function.update s.isr n none →
          pdu ∈ s'.pdusAt (.isr k) → PduOrigin s e (.isr k) pdu := by
        intro k s' hs' hk
        by_cases hkn : k = n
        · subst hkn
          simp [Gateway.pdusAt, hs'] at hk
        · simp only [Gateway.pdusAt, hs', Function.update_of_ne hkn] at hk
          exact .stayed hk
      cases hsend : s.pduQueue.send sent with
      | none =>
          rw [hsend] at h
          cases j with
          | isr k => exact hrest k _ rfl h
          | _ => exact .stayed h
      | some q =>
          rw [hsend] at h
          cases j with
          | isr k => exact hrest k _ rfl h
          | pduQueue =>
              rcases RtosQueue.mem_of_send hsend h with hold | rfl
              · exact .stayed hold
              · exact .passed (.isr n) hheld (.built n)
          | _ => exact .stayed h

/-- The PDUs that are left when `PDU_Task` discards its own. -/
theorem discard_origin (work : Pdu) {j : Place} {pdu : Pdu}
    (h : pdu ∈ (s.discard work).pdusAt j) : PduOrigin s e j pdu := by
  cases j with
  | pduTask => cases h
  | _ => exact .stayed h

theorem dispatch_origin {work : Pdu} (htask : s.pduTask = .dispatch work) {j : Place} {pdu : Pdu}
    (h : pdu ∈ (s.dispatch work).pdusAt j) : PduOrigin s e j pdu := by
  have hwork : work ∈ s.pdusAt .pduTask := by simp [Gateway.pdusAt, htask, PduTask.pdus]
  unfold Gateway.dispatch at h
  dsimp only at h
  split at h
  · cases j with
    | pduTask =>
        rw [List.mem_singleton.mp h]
        exact .stayed hwork
    | _ => exact .stayed h
  · rename_i htype
    split at h
    · exact discard_origin work h
    · rename_i q hsend
      cases j with
      | pduTask => cases h
      | gatewayQueue =>
          rcases RtosQueue.mem_of_send hsend h with hold | rfl
          · exact .stayed hold
          · exact .passed .pduTask hwork (.command htype)
      | _ => exact .stayed h
  · rename_i htype
    split at h
    · exact discard_origin work h
    · rename_i q hsend
      cases j with
      | pduTask => cases h
      | fwUpdateQueue =>
          rcases RtosQueue.mem_of_send hsend h with hold | rfl
          · exact .stayed hold
          · exact .passed .pduTask hwork (.firmware htype)
      | _ => exact .stayed h
  · exact discard_origin work h

/-- A task takes the first PDU of its queue. -/
theorem receive_origin {q q' : RtosQueue} {first : Pdu}
    (hreceive : q.receive = some (first, q')) :
    first ∈ q.items ∧ ∀ pdu ∈ q'.items, pdu ∈ q.items := by
  obtain ⟨hitems, -⟩ := RtosQueue.receive_eq_some hreceive
  rw [hitems]
  exact ⟨List.mem_cons_self, fun pdu hpdu => List.mem_cons_of_mem first hpdu⟩

theorem stepPduTask_origin {j : Place} {pdu : Pdu}
    (h : pdu ∈ (s.stepPduTask cfg).pdusAt j) : PduOrigin s e j pdu := by
  unfold Gateway.stepPduTask at h
  cases htask : s.pduTask with
  | receive =>
      rw [htask] at h
      cases hreceive : s.pduQueue.receive with
      | none =>
          simp only [hreceive] at h
          exact .stayed h
      | some taken =>
          simp only [hreceive] at h
          cases j with
          | pduQueue => exact .stayed ((receive_origin hreceive).2 pdu h)
          | pduTask =>
              rw [List.mem_singleton.mp h]
              exact .passed .pduQueue (receive_origin hreceive).1 .received
          | _ => exact .stayed h
  | dispatch work =>
      rw [htask] at h
      exact dispatch_origin htask h
  | sending work i =>
      have hwork : work ∈ s.pdusAt .pduTask := by simp [Gateway.pdusAt, htask, PduTask.pdus]
      rw [htask] at h
      unfold Gateway.sendNext at h
      dsimp only at h
      split at h
      · cases j with
        | pduTask =>
            rw [List.mem_singleton.mp h]
            exact .stayed hwork
        | _ => exact .stayed h
      · exact discard_origin work h

theorem stepGatewayTask_origin {j : Place} {pdu : Pdu}
    (h : pdu ∈ (s.stepGatewayTask cfg).pdusAt j) : PduOrigin s e j pdu := by
  unfold Gateway.stepGatewayTask at h
  cases htask : s.gatewayTask with
  | receive =>
      rw [htask] at h
      cases hreceive : s.gatewayQueue.receive with
      | none =>
          simp only [hreceive] at h
          exact .stayed h
      | some taken =>
          simp only [hreceive] at h
          cases j with
          | gatewayQueue => exact .stayed ((receive_origin hreceive).2 pdu h)
          | gatewayTask =>
              rw [List.mem_singleton.mp h]
              exact .passed .gatewayQueue (receive_origin hreceive).1 .taken
          | _ => exact .stayed h
  | parse work =>
      rw [htask] at h
      unfold Gateway.parse at h
      dsimp only at h
      split at h <;>
        cases j with
        | gatewayTask => cases h
        | _ => exact .stayed h

/-- **No PDU appears from nowhere.** -/
theorem gatewayStep_origin {j : Place} {pdu : Pdu}
    (h : pdu ∈ (gatewayStep cfg s e).pdusAt j) : PduOrigin s e j pdu := by
  cases e with
  | interrupt n frame => exact interrupt_origin h
  | enqueue n => exact enqueue_origin h
  | pduTask => exact stepPduTask_origin h
  | gatewayTask => exact stepGatewayTask_origin h

/-- `PDU_Task` is in the loop over the destinations with a data PDU. -/
theorem gatewayStep_sending {pdu : Pdu} {i : UInt8}
    (h : (gatewayStep cfg s e).pduTask = .sending pdu i) :
    pduType pdu.id = .normal ∨ ∃ k, s.pduTask = .sending pdu k := by
  cases e with
  | interrupt n frame =>
      right
      unfold gatewayStep Gateway.interrupt at h
      dsimp only at h
      split at h <;> exact ⟨i, h⟩
  | enqueue n =>
      right
      unfold gatewayStep Gateway.enqueue at h
      dsimp only at h
      repeat' split at h
      all_goals exact ⟨i, h⟩
  | gatewayTask =>
      right
      unfold gatewayStep Gateway.stepGatewayTask Gateway.parse at h
      dsimp only at h
      repeat' split at h
      all_goals exact ⟨i, h⟩
  | pduTask =>
      unfold gatewayStep Gateway.stepPduTask at h
      dsimp only at h
      split at h
      · split at h
        · exact .inr ⟨i, h⟩
        · cases h
      · unfold Gateway.dispatch Gateway.discard at h
        dsimp only at h
        split at h
        · rename_i hdata
          cases h
          exact .inl hdata
        · split at h <;> cases h
        · split at h <;> cases h
        · cases h
      · rename_i work k htask
        unfold Gateway.sendNext Gateway.discard at h
        dsimp only at h
        split at h
        · cases h
          exact .inr ⟨k, htask⟩
        · cases h

/-! ## In range -/

/-- The tables know every PDU, those with `Gateway_Task` are commands, and one
that is sent to destinations is data. -/
structure Gateway.Known (cfg : Config) (s : Gateway) : Prop where
  knows : ∀ i, ∀ pdu ∈ s.pdusAt i, cfg.Knows pdu.id
  command : ∀ i, i = .gatewayQueue ∨ i = .gatewayTask → ∀ pdu ∈ s.pdusAt i,
    pduType pdu.id = .command
  data : ∀ pdu i, s.pduTask = .sending pdu i → pduType pdu.id = .normal

theorem Gateway.Known.step (h : s.Known cfg)
    (he : ∀ n frame, e = .interrupt n frame → cfg.Knows frame.id) :
    (gatewayStep cfg s e).Known cfg := by
  constructor
  case knows =>
    intro j pdu hpdu
    cases gatewayStep_origin hpdu with
    | built n frame event place id =>
        rw [id]
        exact he n frame event
    | stayed hold => exact h.knows j pdu hold
    | passed i hold hop => exact h.knows i pdu hold
  case command =>
    intro j hj pdu hpdu
    cases gatewayStep_origin hpdu with
    | built n frame event place id =>
        rw [place] at hj
        simp at hj
    | stayed hold => exact h.command j hj pdu hold
    | passed i hold hop =>
        cases hop with
        | command htype => exact htype
        | taken => exact h.command _ (.inl rfl) pdu hold
        | _ => simp at hj
  case data =>
    intro pdu i hsending
    rcases gatewayStep_sending hsending with htype | ⟨k, hk⟩
    · exact htype
    · exact h.data pdu k hk

theorem Gateway.Start.known (h : s.Start) : s.Known cfg := by
  constructor
  case knows =>
    intro i pdu hpdu
    rw [h.pdusAt i] at hpdu
    cases hpdu
  case command =>
    intro i _ pdu hpdu
    rw [h.pdusAt i] at hpdu
    cases hpdu
  case data =>
    intro pdu i hsending
    rw [h.pduTask] at hsending
    cases hsending

/-- The low byte of an identifier is not above what is left without its type. -/
theorem ecuId_le_pduId (id : UInt32) :
    (id &&& pduIdMaskEcuId).toNat ≤ (id &&& ~~~pduIdMaskTypeData).toNat := by
  have hmask : pduIdMaskEcuId = ~~~pduIdMaskTypeData &&& pduIdMaskEcuId := by decide
  rw [hmask, ← UInt32.and_assoc, UInt32.toNat_and]
  exact Nat.and_le_left

theorem Config.Knows.print {id : UInt32} (h : cfg.Knows id) :
    ∀ x ∈ printIndices id, x.InRange cfg := by
  intro x hx
  unfold printIndices at hx
  split at hx
  · rename_i hdata
    rw [List.mem_singleton.mp hx]
    rw [Config.Knows, pduType_eq_normal.mpr hdata] at h
    exact Nat.lt_of_le_of_lt (ecuId_le_pduId id) h.1
  · cases hx

theorem Config.Knows.send {id : UInt32} (h : cfg.Knows id) (hdata : pduType id = .normal)
    (i : UInt8) : ∀ x ∈ sendIndices cfg id i, x.InRange cfg := by
  rw [Config.Knows, hdata] at h
  obtain ⟨hpduId, hdests⟩ := h
  intro x hx
  unfold sendIndices at hx
  dsimp only at hx
  split at hx
  · rename_i hi
    rcases List.mem_cons.mp hx with rfl | hx
    · exact hpduId
    rcases List.mem_cons.mp hx with rfl | hx
    · exact hpduId
    · rw [List.mem_singleton.mp hx]
      exact hdests _ (mem_dests (UInt8.lt_iff_toNat_lt.mp hi))
  · rw [List.mem_singleton.mp hx]
    exact hpduId

theorem Pdu.toNat_ecuId (pdu : Pdu) : pdu.ecuId.toNat = (pdu.id &&& pduIdMaskEcuId).toNat := by
  have hle : (pdu.id &&& pduIdMaskEcuId).toNat ≤ pduIdMaskEcuId.toNat := by
    rw [UInt32.toNat_and]
    exact Nat.and_le_right
  rw [Pdu.ecuId, UInt32.toNat_toUInt8]
  exact Nat.mod_eq_of_lt (Nat.lt_of_le_of_lt hle (by decide))

theorem Config.Knows.parse {pdu : Pdu} (h : cfg.Knows pdu.id)
    (hcmd : pduType pdu.id = .command) : ∀ x ∈ parseIndices pdu, x.InRange cfg := by
  rw [Config.Knows, hcmd] at h
  intro x hx
  rw [List.mem_singleton.mp hx]
  show pdu.ecuId.toNat < cfg.numOfEcus
  rw [pdu.toNat_ecuId]
  exact h

/-- **In a state that the tables know, every step is in range.** -/
theorem Gateway.Known.indicesInRange (h : s.Known cfg) (e : GatewayEvent) :
    s.IndicesInRange cfg e := by
  intro x hx
  cases e with
  | interrupt n frame => cases hx
  | enqueue n => cases hx
  | pduTask =>
      simp only [Gateway.indices] at hx
      split at hx
      · cases hx
      · rename_i pdu htask
        have hpdu : pdu ∈ s.pdusAt .pduTask := by simp [Gateway.pdusAt, htask, PduTask.pdus]
        exact (h.knows _ pdu hpdu).print x hx
      · rename_i pdu i htask
        have hpdu : pdu ∈ s.pdusAt .pduTask := by simp [Gateway.pdusAt, htask, PduTask.pdus]
        exact (h.knows _ pdu hpdu).send (h.data pdu i htask) i x hx
  | gatewayTask =>
      simp only [Gateway.indices] at hx
      split at hx
      · cases hx
      · rename_i pdu htask
        have hpdu : pdu ∈ s.pdusAt .gatewayTask := by
          simp [Gateway.pdusAt, htask, GatewayTask.pdus]
        rcases List.mem_append.mp hx with hparse | hstatus
        · split at hparse
          · exact (h.knows _ pdu hpdu).parse (h.command _ (.inr rfl) pdu hpdu) x hparse
          · cases hparse
        · obtain ⟨i, hi, rfl⟩ := List.mem_map.mp hstatus
          exact List.mem_range.mp hi

/-! ## Out of range -/

/-- A frame up to the PDU that `PDU_Task` receives. -/
def frameArrival (frame : CanMessage) : List GatewayEvent :=
  [.interrupt 0 frame, .enqueue 0, .pduTask]

/-- The gateway with a PDU of the frame at hand. -/
structure Gateway.Holds (s : Gateway) (frame : CanMessage) (pdu : Pdu) : Prop where
  id : pdu.id = frame.id
  pduTask : s.pduTask = .dispatch pdu
  gatewayQueue : s.gatewayQueue = { size := 10 }
  gatewayTask : s.gatewayTask = .receive

theorem frameArrival_holds (cfg : Config) (frame : CanMessage) :
    ((frameArrival frame).foldl (gatewayStep cfg) Gateway.initial).Holds frame
      (canBuildPdu frame {}).1 := by
  constructor <;> rfl

/-- `PDU_Task` goes on to the destinations of data. -/
theorem Gateway.Holds.sending {frame : CanMessage} {pdu : Pdu} (h : s.Holds frame pdu)
    (hdata : pduType frame.id = .normal) :
    (gatewayStep cfg s .pduTask).pduTask = .sending pdu 0 := by
  show (s.stepPduTask cfg).pduTask = _
  unfold Gateway.stepPduTask
  rw [h.pduTask]
  dsimp only
  unfold Gateway.dispatch
  rw [h.id, hdata]

/-- A command gets to `GW_parsePDU`. -/
theorem Gateway.Holds.parse {frame : CanMessage} {pdu : Pdu} (h : s.Holds frame pdu)
    (hcmd : pduType frame.id = .command) :
    (gatewayStep cfg (gatewayStep cfg s .pduTask) .gatewayTask).gatewayTask = .parse pdu := by
  have hqueued : gatewayStep cfg s .pduTask =
      { s with
        mem := (pduPrintPdu pdu s.mem).2
        gatewayQueue := { size := 10, items := [pdu] }
        pduTask := .receive } := by
    show s.stepPduTask cfg = _
    unfold Gateway.stepPduTask
    rw [h.pduTask]
    dsimp only
    unfold Gateway.dispatch
    rw [h.id, hcmd, h.gatewayQueue]
    rfl
  rw [hqueued]
  show (Gateway.stepGatewayTask cfg _).gatewayTask = _
  unfold Gateway.stepGatewayTask
  dsimp only
  rw [h.gatewayTask]
  rfl

/-- Each turn of the loop over the destinations comes. -/
theorem sending_turn {pdu : Pdu} (htask : s.pduTask = .sending pdu 0) {k : Nat}
    (hk : k ≤ (cfg.pduDescriptors (pdu.id &&& ~~~pduIdMaskTypeData)).destCount.toNat) :
    ((List.replicate k GatewayEvent.pduTask).foldl (gatewayStep cfg) s).pduTask =
      .sending pdu (UInt8.ofNat k) := by
  induction k with
  | zero => exact htask
  | succ k ih =>
      have hturn := ih (Nat.le_of_succ_le hk)
      have hi : UInt8.ofNat k < (cfg.pduDescriptors
          (pdu.id &&& ~~~pduIdMaskTypeData)).destCount := by
        rw [UInt8.lt_iff_toNat_lt, UInt8.toNat_ofNat']
        exact Nat.lt_of_le_of_lt (Nat.mod_le k _) hk
      rw [List.replicate_succ', List.foldl_append]
      show (Gateway.stepPduTask cfg _).pduTask = _
      unfold Gateway.stepPduTask
      rw [hturn]
      dsimp only
      unfold Gateway.sendNext
      dsimp only
      rw [if_pos hi, UInt8.ofNat_add]
      rfl

/-- A command is parsed with the ECU that its identifier names. -/
theorem command_comes_to {frame : CanMessage} (hcmd : pduType frame.id = .command)
    (h : Runs.Meets (Runs.total (gatewayStep cfg)) (Gateway.IndicesInRange cfg) Gateway.initial
      (frameArrival frame ++ [.pduTask, .gatewayTask, .gatewayTask])) :
    (frame.id &&& pduIdMaskEcuId).toNat < cfg.numOfEcus := by
  have harrived := frameArrival_holds cfg frame
  rw [Runs.meets_total_append, Runs.meets_total_cons, Runs.meets_total_cons,
    Runs.meets_total_cons] at h
  obtain ⟨-, -, -, hparse, -⟩ := h
  have htype : (canBuildPdu frame {}).1.id &&& pduIdMaskTypeCmd ≠ 0 :=
    (pduType_eq_command.mp hcmd).2
  have hin := hparse (.ecuList (canBuildPdu frame {}).1.ecuId.toNat) (by
    simp [Gateway.indices, harrived.parse hcmd, htype, parseIndices])
  rw [← harrived.id, ← Pdu.toNat_ecuId]
  exact hin

/-- Data is routed with the descriptor and to the destinations that its
identifier names. -/
theorem data_comes_to {frame : CanMessage} (hdata : pduType frame.id = .normal)
    (h : ∀ k, Runs.Meets (Runs.total (gatewayStep cfg)) (Gateway.IndicesInRange cfg)
      Gateway.initial
      (frameArrival frame ++ .pduTask :: (List.replicate k .pduTask ++ [.pduTask]))) :
    (frame.id &&& ~~~pduIdMaskTypeData).toNat < cfg.numOfPduTypes ∧
      ∀ ecuId ∈ (cfg.pduDescriptors (frame.id &&& ~~~pduIdMaskTypeData)).dests,
        ecuId.toNat < cfg.numOfEcus := by
  have hsending : (gatewayStep cfg _ .pduTask).pduTask = .sending (canBuildPdu frame {}).1 0 :=
    (frameArrival_holds cfg frame).sending hdata
  have hturn : ∀ k ≤ (cfg.pduDescriptors (frame.id &&& ~~~pduIdMaskTypeData)).destCount.toNat,
      ∀ x ∈ sendIndices cfg frame.id (UInt8.ofNat k), x.InRange cfg := by
    intro k hk x hx
    have hrun := h k
    rw [Runs.meets_total_append, Runs.meets_total_cons, Runs.meets_total_append,
      Runs.meets_total_cons] at hrun
    obtain ⟨-, -, -, hindices, -⟩ := hrun
    apply hindices
    rw [Gateway.indices, sending_turn hsending hk]
    exact hx
  constructor
  · apply hturn 0 (Nat.zero_le _) (.pduDescriptors _)
    unfold sendIndices
    dsimp only
    split <;> simp
  · intro ecuId hmem
    obtain ⟨k, hk, rfl⟩ := List.mem_map.mp hmem
    have hlt := List.mem_range.mp hk
    have hk' : (UInt8.ofNat k).toNat = k := by
      rw [UInt8.toNat_ofNat']
      exact Nat.mod_eq_of_lt (Nat.lt_trans hlt (UInt8.toNat_lt _))
    apply hturn k (Nat.le_of_lt hlt) (.ecuList _)
    unfold sendIndices
    dsimp only
    rw [if_pos (UInt8.lt_iff_toNat_lt.mpr (hk'.symm ▸ hlt)), hk']
    simp

end

/-- **Every index is in range exactly when** the tables know every frame that
may arrive: in all runs on these frames, for any tables and queues. -/
theorem indices_in_range_iff (cfg : Config) (frames : CanMessage → Prop) :
    (∀ (s : Gateway) (es : List GatewayEvent), s.Start →
        (∀ n frame, .interrupt n frame ∈ es → canFilterFrame frame = true ∧ frames frame) →
        Runs.Meets (Runs.total (gatewayStep cfg)) (Gateway.IndicesInRange cfg) s es) ↔
      ∀ frame, canFilterFrame frame = true → frames frame → cfg.Knows frame.id := by
  constructor
  · intro h frame hfilter hframe
    have hone : ∀ es, (∀ n frame', .interrupt n frame' ∈ es → frame' = frame) →
        Runs.Meets (Runs.total (gatewayStep cfg)) (Gateway.IndicesInRange cfg)
          Gateway.initial es := by
      intro es hes
      apply h Gateway.initial es Gateway.initial_start
      intro n frame' hmem
      rw [hes n frame' hmem]
      exact ⟨hfilter, hframe⟩
    unfold Config.Knows
    split
    · rename_i hdata
      apply data_comes_to hdata
      intro k
      apply hone
      simp [frameArrival]
    · rename_i hcmd
      apply command_comes_to hcmd
      apply hone
      simp [frameArrival]
    · trivial
    · trivial
  · intro h s es hstart hes
    have hframes : ∀ e ∈ es, ∀ n frame, e = .interrupt n frame → cfg.Knows frame.id := by
      rintro e he n frame rfl
      obtain ⟨hfilter, hframe⟩ := hes n frame he
      exact h frame hfilter hframe
    apply Runs.meets_of_inv (I := Gateway.Known cfg) (A := fun _ _ => True) _ _ hstart.known
      (Runs.meets_of_forall fun _ _ => trivial) (Runs.meets_of_forall hframes)
    · intro s₁ e s₂ hknown _ he hstep
      cases hstep
      exact hknown.step he
    · intro s₁ e hknown _ _
      exact hknown.indicesInRange e

/-- A data frame with the first identifier behind the table. -/
def unlistedFrame : CanMessage := { id := 0x10000005, length := 1, data := fun _ => 0 }

/-- It is let through, and `PDU_printPDU` looks for its label. -/
theorem unlisted_frame_out_of_range : canFilterFrame unlistedFrame = true ∧
    ¬ Runs.Meets (Runs.total (gatewayStep frameworkConfig))
      (Gateway.IndicesInRange frameworkConfig) Gateway.initial
      (frameArrival unlistedFrame ++ [.pduTask]) := by
  refine ⟨canFilterFrame_eq unlistedFrame, ?_⟩
  intro h
  have hprint := (Runs.meets_total_cons.mp (Runs.meets_total_append.mp h).2).1
  have hlabel := hprint (.pduDescriptors 5) (by
    simp only [Gateway.indices, (frameArrival_holds frameworkConfig unlistedFrame).pduTask]
    decide)
  exact absurd hlabel (by decide)

end XcanRouter
