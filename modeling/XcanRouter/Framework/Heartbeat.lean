import XcanRouter.Base.Trace
import XcanRouter.Framework.Gateway
import XcanRouter.Framework.Responses

/-!
# The heartbeat

`Heartbeat_Task` asks the ECUs for their status, one after the other, while
the gateway goes on. They share `ecu_list`, in which the answers show up, and
the CAN driver. Between its look at the status of an ECU and its request the
task may be preempted, so these are two steps.
-/

namespace XcanRouter

/-! ## The task -/

/-- `ECU_sendCommand`. `LIN_sendFrame` sends nothing. -/
def ecuSendCommand (ecuList : UInt8 → Ecu) (ecuId cmd : UInt8) : Option CanSend :=
  if (ecuList ecuId).protocol = protocolCan then
    some (sendMsg (ecuList ecuId).instIdx (pduIdMaskTypeCmd ||| ecuId.toUInt32)
      (Function.update (fun _ => 0) 0 cmd) 1)
  else none

/-- Where `Heartbeat_Task` is. -/
inductive HeartbeatTask where
  /-- At `vTaskDelayUntil`. -/
  | delayUntil
  /-- At the head of the loop over the ECUs, with its counter. -/
  | head (i : UInt16)
  /-- At `ECU_sendCommand`. -/
  | request (i : UInt16)
  /-- At `vTaskDelay`. -/
  | delay (i : UInt16)
deriving DecidableEq

/-- The gateway and the heartbeat. -/
structure Monitor where
  gateway : Gateway
  heartbeat : HeartbeatTask := .delayUntil

inductive MonitorEvent where
  | gateway (e : GatewayEvent)
  | heartbeat

/-- A step of `Heartbeat_Task`. Its counter has two bytes, the index of
`ECU_sendCommand` has one. -/
def Monitor.beat (cfg : Config) (c : Monitor) : Monitor :=
  match c.heartbeat with
  | .delayUntil => { c with heartbeat := .head 0 }
  | .head i =>
    if i.toNat < cfg.numOfEcus then
      if (c.gateway.ecuList i.toUInt8).status ≠ EcuStatus.updating.field then
        { c with heartbeat := .request i }
      else
        { c with heartbeat := .head (i + 1) }
    else
      { c with heartbeat := .delayUntil }
  | .request i =>
    { c with
      gateway := { c.gateway with
        sends := c.gateway.sends ++
          (ecuSendCommand c.gateway.ecuList i.toUInt8 ecuCmdReqStatus).toList }
      heartbeat := .delay i }
  | .delay i => { c with heartbeat := .head (i + 1) }

def monitorStep (cfg : Config) (c : Monitor) : MonitorEvent → Monitor
  | .gateway e => { c with gateway := gatewayStep cfg c.gateway e }
  | .heartbeat => c.beat cfg

/-- The steps of the task from `c`. -/
inductive BeatMove (cfg : Config) (c : Monitor) : Monitor → Prop where
  | wake (htask : c.heartbeat = .delayUntil) : BeatMove cfg c { c with heartbeat := .head 0 }
  | choose (i : UInt16) (htask : c.heartbeat = .head i) (hi : i.toNat < cfg.numOfEcus)
      (hstatus : (c.gateway.ecuList i.toUInt8).status ≠ EcuStatus.updating.field) :
      BeatMove cfg c { c with heartbeat := .request i }
  | skip (i : UInt16) (htask : c.heartbeat = .head i) (hi : i.toNat < cfg.numOfEcus)
      (hstatus : (c.gateway.ecuList i.toUInt8).status = EcuStatus.updating.field) :
      BeatMove cfg c { c with heartbeat := .head (i + 1) }
  | sleep (i : UInt16) (htask : c.heartbeat = .head i) (hi : ¬ i.toNat < cfg.numOfEcus) :
      BeatMove cfg c { c with heartbeat := .delayUntil }
  | ask (i : UInt16) (htask : c.heartbeat = .request i) :
      BeatMove cfg c
        { c with
          gateway := { c.gateway with
            sends := c.gateway.sends ++
              (ecuSendCommand c.gateway.ecuList i.toUInt8 ecuCmdReqStatus).toList }
          heartbeat := .delay i }
  | next (i : UInt16) (htask : c.heartbeat = .delay i) :
      BeatMove cfg c { c with heartbeat := .head (i + 1) }

theorem beat_move (cfg : Config) (c : Monitor) : BeatMove cfg c (c.beat cfg) := by
  unfold Monitor.beat
  cases htask : c.heartbeat with
  | delayUntil => exact .wake htask
  | head i =>
      dsimp only
      split
      · rename_i hi
        split
        · rename_i hstatus
          exact .choose i htask hi hstatus
        · rename_i hstatus
          exact .skip i htask hi (Decidable.of_not_not hstatus)
      · rename_i hi
        exact .sleep i htask hi
  | request i => exact .ask i htask
  | delay i => exact .next i htask

/-! ## What it does -/

namespace Monitor

/-- The ECU that the task looks at in a step, and whether it will ask it. -/
def turns (cfg : Config) (c : Monitor) : MonitorEvent → List (Nat × Bool)
  | .heartbeat =>
    match c.heartbeat with
    | .head i =>
      if i.toNat < cfg.numOfEcus then
        [(i.toNat, (c.gateway.ecuList i.toUInt8).status ≠ EcuStatus.updating.field)]
      else []
    | _ => []
  | _ => []

/-- The ECU that it asks. -/
def asked (c : Monitor) : MonitorEvent → List Nat
  | .heartbeat =>
    match c.heartbeat with
    | .request i => [i.toNat]
    | _ => []
  | _ => []

/-- The messages that it asks with. -/
def requests (c : Monitor) (e : MonitorEvent) : List CanSend :=
  (c.asked e).flatMap fun ecuId =>
    (ecuSendCommand c.gateway.ecuList (UInt8.ofNat ecuId) ecuCmdReqStatus).toList

/-- The ECU that it is about to ask. -/
def pending (c : Monitor) : List Nat :=
  match c.heartbeat with
  | .request i => [i.toNat]
  | _ => []

/-- The ECU whose turn is next, or their number. -/
def position (c : Monitor) : Nat :=
  match c.heartbeat with
  | .delayUntil => 0
  | .head i => i.toNat
  | .request i => i.toNat + 1
  | .delay i => i.toNat + 1

end Monitor

section
variable {cfg : Config} {c c' : Monitor} {e : MonitorEvent} {es : List MonitorEvent}

theorem BeatMove.flow_asked (h : BeatMove cfg c c') :
    c.pending ++ ((c.turns cfg .heartbeat).filter Prod.snd).map Prod.fst =
      c.asked .heartbeat ++ c'.pending := by
  cases h <;> simp [Monitor.pending, Monitor.turns, Monitor.asked, *]

theorem Monitor.flow_asked (cfg : Config) (c : Monitor) (e : MonitorEvent) :
    c.pending ++ ((c.turns cfg e).filter Prod.snd).map Prod.fst =
      c.asked e ++ (monitorStep cfg c e).pending := by
  cases e with
  | gateway e =>
      show c.pending ++ [] = [] ++ c.pending
      rw [List.append_nil, List.nil_append]
  | heartbeat => exact (beat_move cfg c).flow_asked

/-- The counter does not wrap: it is below the number of ECUs. -/
theorem toNat_add_one {i : UInt16} {n : Nat} (hn : n ≤ 256) (hi : i.toNat < n) :
    (i + 1).toNat = i.toNat + 1 := by
  rw [UInt16.toNat_add]
  apply Nat.mod_eq_of_lt
  show i.toNat + 1 < 65536
  omega

/-- A step takes the turn that it is at, or none. -/
structure Monitor.Advances (n : Nat) (c c' : Monitor) (turns : List Nat) : Prop where
  position_le : c'.position ≤ n
  turns : turns = [] ∧ c'.position % n = c.position % n ∨
    turns = [c.position % n] ∧ c'.position % n = (c.position + 1) % n

theorem BeatMove.advances (h : BeatMove cfg c c') (hN : cfg.numOfEcus ≤ 256)
    (hposition : c.position ≤ cfg.numOfEcus) :
    c.Advances cfg.numOfEcus c' ((c.turns cfg .heartbeat).map Prod.fst) := by
  cases h with
  | wake htask =>
      constructor
      case position_le => exact Nat.zero_le _
      case turns => exact .inl ⟨by simp [Monitor.turns, htask], by simp [Monitor.position, htask]⟩
  | choose i htask hi hstatus =>
      have hmod : i.toNat % cfg.numOfEcus = i.toNat := Nat.mod_eq_of_lt hi
      constructor
      case position_le => exact hi
      case turns =>
        right
        simp [Monitor.turns, Monitor.position, htask, hi, hmod]
  | skip i htask hi hstatus =>
      have hmod : i.toNat % cfg.numOfEcus = i.toNat := Nat.mod_eq_of_lt hi
      have hsucc := toNat_add_one hN hi
      constructor
      case position_le =>
        show (i + 1).toNat ≤ _
        omega
      case turns =>
        right
        simp [Monitor.turns, Monitor.position, htask, hi, hmod, hsucc]
  | sleep i htask hi =>
      have hlast : i.toNat = cfg.numOfEcus := by
        simp only [Monitor.position, htask] at hposition
        omega
      constructor
      case position_le => exact Nat.zero_le _
      case turns =>
        left
        simp [Monitor.turns, Monitor.position, htask, hlast]
  | ask i htask =>
      simp only [Monitor.position, htask] at hposition
      constructor
      case position_le => exact hposition
      case turns =>
        left
        simp [Monitor.turns, Monitor.position, htask]
  | next i htask =>
      simp only [Monitor.position, htask] at hposition
      have hsucc := toNat_add_one hN (Nat.lt_of_succ_le hposition)
      constructor
      case position_le =>
        show (i + 1).toNat ≤ _
        omega
      case turns =>
        left
        simp [Monitor.turns, Monitor.position, htask, hsucc]

theorem Monitor.advances (hN : cfg.numOfEcus ≤ 256) (hposition : c.position ≤ cfg.numOfEcus)
    (e : MonitorEvent) :
    c.Advances cfg.numOfEcus (monitorStep cfg c e) ((c.turns cfg e).map Prod.fst) := by
  cases e with
  | gateway e =>
      constructor
      case position_le => exact hposition
      case turns => exact .inl ⟨rfl, rfl⟩
  | heartbeat => exact (beat_move cfg c).advances hN hposition

/-- The turns go round from where the task is. -/
theorem Monitor.run_turns (hN : cfg.numOfEcus ≤ 256) (hposition : c.position ≤ cfg.numOfEcus)
    (es : List MonitorEvent) :
    (Runs.trace (monitorStep cfg) (Monitor.turns cfg) c es).map Prod.fst =
      (List.range (Runs.trace (monitorStep cfg) (Monitor.turns cfg) c es).length).map
        fun k => (c.position + k) % cfg.numOfEcus := by
  induction es generalizing c with
  | nil => rfl
  | cons e es ih =>
      obtain ⟨hle, hturns⟩ := c.advances hN hposition e
      have hrest := ih hle
      rw [Runs.trace_cons, List.map_append, hrest]
      rcases hturns with ⟨hnone, hsame⟩ | ⟨hone, hnext⟩
      · rw [hnone, List.map_eq_nil_iff.mp hnone, List.nil_append, List.nil_append]
        apply List.map_congr_left
        intro k _
        rw [Nat.add_mod, hsame, ← Nat.add_mod]
      · have hlength : (c.turns cfg e).length = 1 := by
          rw [← List.length_map Prod.fst, hone, List.length_singleton]
        rw [hone, List.length_append, hlength, Nat.add_comm 1, List.range_succ_eq_map,
          List.map_cons, List.map_map, List.singleton_append]
        congr 1
        apply List.map_congr_left
        intro k _
        show (_ + k) % _ = (c.position + (k + 1)) % _
        rw [Nat.add_mod, hnext, ← Nat.add_mod]
        congr 1
        omega

/-! ## What the gateway sends meanwhile -/

/-- What `PDU_Task` sends in a step. -/
def Gateway.sent (cfg : Config) (s : Gateway) : GatewayEvent → List CanSend
  | .pduTask =>
    match s.pduTask with
    | .sending pdu i =>
      let desc := cfg.pduDescriptors (pdu.id &&& ~~~pduIdMaskTypeData)
      if i < desc.destCount then
        (ecuSendPdu s.ecuList (desc.dest i.toNat) pdu s.mem).1.toList
      else []
    | _ => []
  | _ => []

/-- A step of the gateway does not look at what was sent. -/
theorem gatewayStep_withSends (cfg : Config) (s : Gateway) (sends : List CanSend)
    (e : GatewayEvent) :
    gatewayStep cfg { s with sends := sends } e =
      { gatewayStep cfg s e with sends := sends ++ s.sent cfg e } := by
  obtain ⟨mem, pduQueue, gatewayQueue, fwUpdateQueue, isr, pduTask, gatewayTask, ecuList, sends',
    accepted⟩ := s
  cases e with
  | interrupt n frame =>
      simp only [gatewayStep, Gateway.interrupt, Gateway.sent, List.append_nil]
      split <;> rfl
  | enqueue n =>
      simp only [gatewayStep, Gateway.enqueue, Gateway.sent, List.append_nil]
      cases isr n with
      | none => rfl
      | some held =>
          dsimp only
          cases pduQueue.send held.2 <;> rfl
  | pduTask =>
      simp only [gatewayStep, Gateway.stepPduTask, Gateway.sent]
      cases pduTask with
      | receive =>
          rw [List.append_nil]
          dsimp only
          cases pduQueue.receive <;> rfl
      | dispatch pdu =>
          rw [List.append_nil]
          simp only [Gateway.dispatch]
          cases pduType pdu.id with
          | command => dsimp only; cases gatewayQueue.send pdu <;> rfl
          | firmware => dsimp only; cases fwUpdateQueue.send pdu <;> rfl
          | _ => rfl
      | sending pdu i =>
          simp only [Gateway.sendNext]
          split
          · rfl
          · rw [List.append_nil]
            rfl
  | gatewayTask =>
      simp only [gatewayStep, Gateway.stepGatewayTask, Gateway.sent, List.append_nil]
      cases gatewayTask with
      | receive =>
          dsimp only
          cases gatewayQueue.receive <;> rfl
      | parse pdu =>
          simp only [Gateway.parse]
          split <;> rfl

theorem gatewayStep_sends (cfg : Config) (s : Gateway) (e : GatewayEvent) :
    (gatewayStep cfg s e).sends = s.sends ++ s.sent cfg e :=
  congrArg Gateway.sends (gatewayStep_withSends cfg s s.sends e)

/-- What `PDU_Task` sends is data. -/
def Gateway.SendsData (s : Gateway) : Prop :=
  ∀ pdu i, s.pduTask = .sending pdu i → pdu.id &&& pduIdMaskTypeData ≠ 0

theorem Gateway.SendsData.stepPduTask {s : Gateway} (h : s.SendsData) :
    (s.stepPduTask cfg).SendsData := by
  intro pdu' k htask'
  unfold Gateway.stepPduTask at htask'
  cases htask : s.pduTask with
  | receive =>
      rw [htask] at htask'
      dsimp only at htask'
      cases hrecv : s.pduQueue.receive with
      | none =>
          rw [hrecv] at htask'
          exact h pdu' k htask'
      | some v =>
          rw [hrecv] at htask'
          cases htask'
  | dispatch pdu =>
      rw [htask] at htask'
      dsimp only at htask'
      rw [dispatch_pduTask] at htask'
      split at htask'
      · rename_i htype
        cases htask'
        exact pduType_eq_normal.mp htype
      · cases htask'
  | sending pdu i =>
      rw [htask] at htask'
      simp only [Gateway.sendNext] at htask'
      split at htask'
      · rw [← (PduTask.sending.inj htask').1]
        exact h pdu i htask
      · cases htask'

theorem Gateway.SendsData.step {s : Gateway} (h : s.SendsData) (e : GatewayEvent) :
    (gatewayStep cfg s e).SendsData := by
  cases e with
  | interrupt n frame =>
      show (s.interrupt n frame).SendsData
      unfold Gateway.interrupt
      split <;> exact h
  | enqueue n =>
      show (s.enqueue n).SendsData
      unfold Gateway.enqueue
      cases s.isr n with
      | none => exact h
      | some held =>
          dsimp only
          cases s.pduQueue.send held.2 <;> exact h
  | pduTask => exact h.stepPduTask
  | gatewayTask =>
      show (s.stepGatewayTask cfg).SendsData
      unfold Gateway.stepGatewayTask
      cases s.gatewayTask with
      | receive =>
          dsimp only
          cases s.gatewayQueue.receive <;> exact h
      | parse pdu =>
          show (s.parse cfg pdu).SendsData
          unfold Gateway.parse
          split <;> exact h

theorem ecuSendPdu_id {ecuList : UInt8 → Ecu} {ecuId : UInt8} {pdu : Pdu} {m : Mem}
    {msg : CanSend} (hmsg : msg ∈ (ecuSendPdu ecuList ecuId pdu m).1) : msg.id = pdu.id := by
  unfold ecuSendPdu at hmsg
  rw [MemOp.ite_apply] at hmsg
  split at hmsg
  · cases hmsg
    rfl
  · cases hmsg

theorem Gateway.SendsData.sent {s : Gateway} (h : s.SendsData) {e : GatewayEvent}
    {msg : CanSend} (hmsg : msg ∈ s.sent cfg e) : msg.id &&& pduIdMaskTypeData ≠ 0 := by
  cases e with
  | pduTask =>
      unfold Gateway.sent at hmsg
      cases htask : s.pduTask with
      | sending pdu i =>
          rw [htask] at hmsg
          dsimp only at hmsg
          split at hmsg
          · rw [ecuSendPdu_id (Option.mem_toList.mp hmsg)]
            exact h pdu i htask
          · cases hmsg
      | _ =>
          rw [htask] at hmsg
          cases hmsg
  | _ => cases hmsg

/-- The identifier of a request: it is a command for its ECU. -/
theorem requestId_all : ∀ n : Fin 256,
    pduType (pduIdMaskTypeCmd ||| (UInt8.ofFin n).toUInt32) = .command ∧
      ((pduIdMaskTypeCmd ||| (UInt8.ofFin n).toUInt32) &&& pduIdMaskEcuId).toUInt8 =
        UInt8.ofFin n := by
  decide +kernel

theorem requestId (ecuId : UInt8) :
    pduType (pduIdMaskTypeCmd ||| ecuId.toUInt32) = .command ∧
      ((pduIdMaskTypeCmd ||| ecuId.toUInt32) &&& pduIdMaskEcuId).toUInt8 = ecuId :=
  requestId_all ecuId.toFin

/-! ## Runs -/

/-- The events of the gateway. -/
def MonitorEvent.gateway? : MonitorEvent → Option GatewayEvent
  | .gateway e => some e
  | .heartbeat => none

/-- A step of the gateway when the heartbeat is not there. -/
def unmonitoredStep (cfg : Config) (s : Gateway) : MonitorEvent → Gateway
  | .gateway e => gatewayStep cfg s e
  | .heartbeat => s

theorem foldl_unmonitored (cfg : Config) (s : Gateway) (es : List MonitorEvent) :
    es.foldl (unmonitoredStep cfg) s =
      (es.filterMap MonitorEvent.gateway?).foldl (gatewayStep cfg) s := by
  induction es generalizing s with
  | nil => rfl
  | cons e es ih =>
      cases e with
      | gateway e => exact ih (gatewayStep cfg s e)
      | heartbeat => exact ih s

/-- The turns of the heartbeat go round the list, and those that it asks are
those that it did not find updating, in this order. -/
structure Monitor.RoundRobin (cfg : Config) (turns : List (Nat × Bool)) (asked : List Nat)
    (c : Monitor) : Prop where
  order : turns.map Prod.fst = (List.range turns.length).map (· % cfg.numOfEcus)
  asked : asked ++ c.pending = (turns.filter Prod.snd).map Prod.fst

def CanSend.isData (msg : CanSend) : Bool := msg.id &&& pduIdMaskTypeData ≠ 0

/-- The gateway is what it is without the heartbeat, `s`, but for the messages,
to which the heartbeat adds its requests. -/
structure Monitor.OnlyAsks (s : Gateway) (requests : List CanSend) (c : Monitor) : Prop where
  gateway : c.gateway = { s with sends := c.gateway.sends }
  data : c.gateway.sends.filter CanSend.isData = s.sends
  requests : c.gateway.sends.filter (fun msg => !msg.isData) = requests

/-- The relation between the gateways with and without the heartbeat. -/
structure Monitor.Extends (c : Monitor) (s : Gateway) : Prop where
  gateway : c.gateway = { s with sends := c.gateway.sends }
  data : c.gateway.sends.filter CanSend.isData = s.sends
  sendsData : s.SendsData

theorem Monitor.requests_isData {c : Monitor} {msg : CanSend} (hmsg : msg ∈ c.requests e) :
    msg.isData = false := by
  obtain ⟨ecuId, -, hmsg⟩ := List.mem_flatMap.mp hmsg
  have hid : msg.id = pduIdMaskTypeCmd ||| (UInt8.ofNat ecuId).toUInt32 := by
    unfold ecuSendCommand at hmsg
    split at hmsg
    · rw [List.mem_singleton.mp hmsg]
      rfl
    · cases hmsg
  have hdata := (pduType_eq_command.mp (requestId (UInt8.ofNat ecuId)).1).1
  simp [CanSend.isData, hid, hdata]

theorem BeatMove.gateway (h : BeatMove cfg c c') :
    c'.gateway = { c.gateway with sends := c.gateway.sends ++ c.requests .heartbeat } := by
  cases h <;> simp [Monitor.requests, Monitor.asked, *]

theorem Monitor.Extends.step {s : Gateway} (h : c.Extends s) (e : MonitorEvent) :
    (monitorStep cfg c e).Extends (unmonitoredStep cfg s e) := by
  cases e with
  | gateway e =>
      have hstep : gatewayStep cfg c.gateway e =
          { gatewayStep cfg s e with sends := c.gateway.sends ++ s.sent cfg e } := by
        rw [← gatewayStep_withSends, ← h.gateway]
      have hall : (s.sent cfg e).filter CanSend.isData = s.sent cfg e := by
        apply List.filter_eq_self.mpr
        intro msg hmsg
        simpa [CanSend.isData] using h.sendsData.sent hmsg
      constructor
      case gateway =>
        show gatewayStep cfg c.gateway e =
          { gatewayStep cfg s e with sends := (gatewayStep cfg c.gateway e).sends }
        rw [hstep]
      case data =>
        show (gatewayStep cfg c.gateway e).sends.filter CanSend.isData = (gatewayStep cfg s e).sends
        rw [hstep, gatewayStep_sends, List.filter_append, h.data, hall]
      case sendsData => exact h.sendsData.step e
  | heartbeat =>
      have hbeat := (beat_move cfg c).gateway
      have hnone : (c.requests .heartbeat).filter CanSend.isData = [] := by
        apply List.filter_eq_nil_iff.mpr
        intro msg hmsg
        simp [Monitor.requests_isData hmsg]
      constructor
      case gateway =>
        show (c.beat cfg).gateway = { s with sends := (c.beat cfg).gateway.sends }
        rw [hbeat, h.gateway]
      case data =>
        show (c.beat cfg).gateway.sends.filter CanSend.isData = s.sends
        rw [hbeat, List.filter_append, hnone, List.append_nil]
        exact h.data
      case sendsData => exact h.sendsData

/-- What is no data are the requests. -/
theorem Monitor.Extends.requests {s : Gateway} (h : c.Extends s) (e : MonitorEvent) :
    (monitorStep cfg c e).gateway.sends.filter (fun msg => !msg.isData) =
      c.gateway.sends.filter (fun msg => !msg.isData) ++ c.requests e := by
  cases e with
  | gateway e =>
      have hstep : (gatewayStep cfg c.gateway e).sends =
          c.gateway.sends ++ s.sent cfg e := by
        rw [h.gateway, gatewayStep_withSends]
      have hnone : (s.sent cfg e).filter (fun msg => !msg.isData) = [] := by
        apply List.filter_eq_nil_iff.mpr
        intro msg hmsg
        simpa [CanSend.isData] using h.sendsData.sent hmsg
      show (gatewayStep cfg c.gateway e).sends.filter _ = _
      rw [hstep, List.filter_append, hnone]
      rfl
  | heartbeat =>
      have hall : (c.requests .heartbeat).filter (fun msg => !msg.isData) =
          c.requests .heartbeat := by
        apply List.filter_eq_self.mpr
        intro msg hmsg
        simp [Monitor.requests_isData hmsg]
      show (c.beat cfg).gateway.sends.filter _ = _
      rw [(beat_move cfg c).gateway, List.filter_append, hall]

end

/-- **The heartbeat asks in turn**: in every interleaving with traffic, its
turns go round the list of ECUs from the first one on, and it asks each ECU
that it does not find updating, once in its turn and in this order. -/
theorem heartbeat_round_robin {cfg : Config} (hN : cfg.numOfEcus ≤ 256) {c : Monitor}
    (hidle : c.heartbeat = .delayUntil) (es : List MonitorEvent) :
    (es.foldl (monitorStep cfg) c).RoundRobin cfg
      (Runs.trace (monitorStep cfg) (Monitor.turns cfg) c es)
      (Runs.trace (monitorStep cfg) Monitor.asked c es) := by
  have hposition : c.position = 0 := by
    unfold Monitor.position
    rw [hidle]
  have hpending : c.pending = [] := by
    unfold Monitor.pending
    rw [hidle]
  constructor
  case order =>
    rw [Monitor.run_turns hN (by omega), hposition]
    simp only [Nat.zero_add]
  case asked =>
    have hflow := Runs.trace_flow Monitor.pending (Monitor.flow_asked cfg) c es
    rw [Runs.trace_filter, Runs.trace_map, ← hflow, hpending, List.nil_append]

/-- Two cycles, in the second of which ECU 1 updates. -/
theorem heartbeat_round_robin_updating :
    let es : List MonitorEvent := List.replicate 14 .heartbeat ++
      ([.interrupt 0 { id := 0x08000001, length := 2, data := fun i => [4, 3].getD i 0 },
        .enqueue 0, .pduTask, .pduTask, .gatewayTask, .gatewayTask] : List GatewayEvent).map
          .gateway ++
      List.replicate 12 .heartbeat
    (es.foldl (monitorStep frameworkConfig) { gateway := Gateway.initial }).RoundRobin
      frameworkConfig
      (Runs.trace (monitorStep frameworkConfig) (Monitor.turns frameworkConfig)
        { gateway := Gateway.initial } es)
      (Runs.trace (monitorStep frameworkConfig) Monitor.asked
        { gateway := Gateway.initial } es) := by
  exact heartbeat_round_robin (by decide) rfl _

/-- **The heartbeat only asks**: in every interleaving the gateway does what it
does without the heartbeat, and what is sent is what it sends without the
heartbeat, in this order, and the requests, in theirs. -/
theorem heartbeat_only_asks {cfg : Config} {s : Gateway} (hstart : s.Start)
    (es : List MonitorEvent) :
    (es.foldl (monitorStep cfg) { gateway := s }).OnlyAsks
      ((es.filterMap MonitorEvent.gateway?).foldl (gatewayStep cfg) s)
      (Runs.trace (monitorStep cfg) Monitor.requests { gateway := s } es) := by
  have hsendsData : s.SendsData := by
    intro pdu i htask
    rw [hstart.pduTask] at htask
    cases htask
  have hextends : Monitor.Extends { gateway := s } s := by
    constructor
    case gateway => rfl
    case data =>
      show s.sends.filter CanSend.isData = s.sends
      rw [hstart.sends]
      rfl
    case sendsData => exact hsendsData
  have hrun : (es.foldl (monitorStep cfg) { gateway := s }).Extends
      (es.foldl (unmonitoredStep cfg) s) := by
    apply Runs.foldl_of_simulation (A := fun _ => True) _ hextends fun _ _ => trivial
    intro c s e h _
    exact h.step e
  have hkept : ∀ (c : Monitor) e, (∃ s, c.Extends s) → True →
      ∃ s, (monitorStep cfg c e).Extends s :=
    fun c e ⟨s, h⟩ _ => ⟨unmonitoredStep cfg s e, h.step e⟩
  have hrequests := Runs.foldl_append_trace_of_inv
    (I := fun c : Monitor => ∃ s, c.Extends s) (A := fun _ => True)
    (fun c : Monitor => c.gateway.sends.filter fun msg => !msg.isData)
    hkept (fun c e ⟨s, h⟩ => h.requests e)
    ⟨s, hextends⟩ (fun e _ => trivial : ∀ e ∈ es, True)
  rw [← foldl_unmonitored]
  constructor
  case gateway => exact hrun.gateway
  case data => exact hrun.data
  case requests =>
    rw [hrequests]
    show s.sends.filter _ ++ _ = _
    rw [hstart.sends]
    rfl

/-- A request between the two sends of a data frame. -/
theorem heartbeat_only_asks_between :
    let es : List MonitorEvent :=
      ([.interrupt 0 { id := 0x10000001, length := 3, data := fun _ => 7 }, .enqueue 0,
        .pduTask, .pduTask, .pduTask] : List GatewayEvent).map .gateway ++
      List.replicate 4 .heartbeat ++ List.replicate 2 (.gateway .pduTask)
    (es.foldl (monitorStep frameworkConfig) { gateway := Gateway.initial }).OnlyAsks
      ((es.filterMap MonitorEvent.gateway?).foldl (gatewayStep frameworkConfig)
        Gateway.initial)
      (Runs.trace (monitorStep frameworkConfig) Monitor.requests
        { gateway := Gateway.initial } es) := by
  exact heartbeat_only_asks Gateway.initial_start _

end XcanRouter
