import XcanRouter.Framework.Heartbeat
import XcanRouter.Framework.Leaks

/-!
# Updates alongside the gateway

An update shares memory, the controller and `fw_update_queue` with the gateway.
It takes PDUs from that queue, reads and frees them and sends requests; nothing
that the gateway does to other PDUs depends on that. Without the frees, the
accesses and `fw_update_queue` the gateway is, in every interleaving, what it
is without updates.
-/

namespace XcanRouter

/-! ## Statements that do not look at frees -/

/-- Memory without its frees and accesses. -/
def Mem.core (m : Mem) : Mem := { m with heap := { m.heap with frees := [] }, log := [] }

/-- Neither the result nor the memory after it depends on frees and accesses. -/
structure MemOp.Blind {α : Type} (x : MemOp α) : Prop where
  value : ∀ m, (x m.core).1 = (x m).1
  core : ∀ m, (x m.core).2.core = (x m).2.core

section
variable {α β : Type} {m : Mem}

@[simp] theorem Mem.core_core (m : Mem) : m.core.core = m.core := rfl

@[simp] theorem Mem.core_touch (m : Mem) (b : Option Ptr) (offset size : Nat) :
    (m.touch b offset size).core = m.core := rfl

@[simp] theorem Mem.core_free (m : Mem) (b : Ptr) :
    (m.setHeap (m.heap.free b)).core = m.core := rfl

theorem blind_pure (a : α) : (pure a : MemOp α).Blind := ⟨fun _ => rfl, fun _ => rfl⟩

theorem MemOp.Blind.bind {x : MemOp α} {k : α → MemOp β} (hx : x.Blind)
    (hk : ∀ a, (k a).Blind) : (x >>= k).Blind := by
  constructor
  · intro m
    show (k (x m.core).1 (x m.core).2).1 = (k (x m).1 (x m).2).1
    rw [hx.value, ← (hk _).value (x m.core).2, hx.core, (hk _).value]
  · intro m
    show (k (x m.core).1 (x m.core).2).2.core = (k (x m).1 (x m).2).2.core
    rw [hx.value, ← (hk _).core (x m.core).2, hx.core, (hk _).core]

theorem MemOp.Blind.ite {c : Prop} [Decidable c] {x y : MemOp α} (hx : x.Blind) (hy : y.Blind) :
    (if c then x else y).Blind := by
  split
  · exact hx
  · exact hy

theorem blind_loadByte (p : BytePtr) : (loadByte p).Blind := ⟨fun _ => rfl, fun _ => rfl⟩

theorem blind_loadBytes (p : BytePtr) (n : Nat) : (loadBytes p n).Blind :=
  ⟨fun _ => rfl, fun _ => rfl⟩

theorem blind_memcpy (p : BytePtr) (src : Bytes) (n : Nat) : (memcpy p src n).Blind := by
  obtain ⟨block, offset⟩ := p
  cases block <;> exact ⟨fun _ => rfl, fun _ => rfl⟩

theorem blind_malloc (n : Nat) : (malloc n).Blind := by
  constructor
  · intro m
    show (if m.heap.oom m.heap.calls then _ else _ : Option Ptr × Mem).1 = _
    unfold malloc
    split <;> rfl
  · intro m
    show (if m.heap.oom m.heap.calls then _ else _ : Option Ptr × Mem).2.core = _
    unfold malloc
    split <;> rfl

theorem blind_canBuildPdu (frame : CanMessage) : (canBuildPdu frame).Blind := by
  apply (blind_malloc _).bind
  intro data
  apply (blind_memcpy _ _ _).bind
  intro _
  exact blind_pure _

theorem blind_pduPrintPdu (pdu : Pdu) : (pduPrintPdu pdu).Blind := by
  unfold pduPrintPdu
  induction List.range pdu.length.toNat with
  | nil => exact blind_pure ()
  | cons i is ih =>
      have hbyte := (blind_loadByte (pdu.byte i)).bind fun _ => blind_pure PUnit.unit
      exact hbyte.bind fun _ => ih

theorem blind_ecuSendPdu (ecuList : UInt8 → Ecu) (ecuId : UInt8) (pdu : Pdu) :
    (ecuSendPdu ecuList ecuId pdu).Blind := by
  apply MemOp.Blind.ite
  · apply MemOp.Blind.bind
    · apply (blind_loadBytes _ _).bind
      intro _
      exact blind_pure _
    · intro _
      exact blind_pure _
  · exact blind_pure _

theorem blind_gwParsePdu (cfg : Config) (ecuList : UInt8 → Ecu) (pdu : Pdu) :
    (gwParsePdu cfg ecuList pdu).Blind := by
  apply (blind_loadByte _).bind
  intro cmd
  apply MemOp.Blind.ite
  · apply (blind_loadBytes _ _).bind
    intro _
    exact blind_pure _
  · apply MemOp.Blind.ite
    · apply (blind_loadByte _).bind
      intro _
      exact blind_pure _
    · apply MemOp.Blind.ite
      · apply (blind_loadByte _).bind
        intro _
        exact blind_pure _
      · exact blind_pure _

/-- A discarded PDU only adds to the frees. -/
@[simp] theorem core_pduDiscardPdu (pdu : Pdu) (m : Mem) :
    (pduDiscardPdu pdu m).2.core = m.core := by
  unfold pduDiscardPdu
  cases pdu.data <;> rfl

end

/-! ## The gateway without the update queue -/

/-- What the gateway does not share with updates. -/
def Gateway.core (s : Gateway) : Gateway :=
  { s with mem := s.mem.core, fwUpdateQueue := { size := 0 } }

section
variable {cfg : Config}

theorem core_interrupt (s : Gateway) (n : Nat) (frame : CanMessage) :
    (s.core.interrupt n frame).core = (s.interrupt n frame).core := by
  obtain ⟨hvalue, hcore⟩ := blind_canBuildPdu frame
  unfold Gateway.interrupt
  simp only [Gateway.core, hvalue]
  split
  · rfl
  · simp only [hcore]

theorem core_enqueue (s : Gateway) (n : Nat) :
    (s.core.enqueue n).core = (s.enqueue n).core := by
  unfold Gateway.enqueue
  simp only [Gateway.core]
  cases s.isr n with
  | none => rfl
  | some held =>
      dsimp only
      cases s.pduQueue.send held.2 <;> simp only [core_pduDiscardPdu, Mem.core_core]

/-- Whether `fw_update_queue` has room is nothing to the gateway: it forgets
the PDU either way. -/
theorem core_dispatch (s : Gateway) (pdu : Pdu) :
    (s.core.dispatch pdu).core = (s.dispatch pdu).core := by
  have hprint := (blind_pduPrintPdu pdu).core s.mem
  unfold Gateway.dispatch Gateway.discard
  simp only [Gateway.core]
  cases pduType pdu.id with
  | normal => simp only [hprint]
  | unknown => simp only [core_pduDiscardPdu, hprint]
  | command =>
      dsimp only
      cases s.gatewayQueue.send pdu <;> simp only [core_pduDiscardPdu, hprint]
  | firmware =>
      have hfull : RtosQueue.send { size := 0 } pdu = none := rfl
      simp only [hfull, core_pduDiscardPdu, hprint]
      cases s.fwUpdateQueue.send pdu <;> simp only [core_pduDiscardPdu]

theorem core_sendNext (s : Gateway) (pdu : Pdu) (i : UInt8) :
    (s.core.sendNext cfg pdu i).core = (s.sendNext cfg pdu i).core := by
  obtain ⟨hvalue, hcore⟩ := blind_ecuSendPdu s.ecuList
    ((cfg.pduDescriptors (pdu.id &&& ~~~pduIdMaskTypeData)).dest i.toNat) pdu
  unfold Gateway.sendNext Gateway.discard
  simp only [Gateway.core, hvalue]
  split
  · simp only [hcore]
  · simp only [core_pduDiscardPdu, Mem.core_core]

theorem core_parse (s : Gateway) (pdu : Pdu) :
    (s.core.parse cfg pdu).core = (s.parse cfg pdu).core := by
  obtain ⟨hvalue, hcore⟩ := blind_gwParsePdu cfg s.ecuList pdu
  unfold Gateway.parse
  simp only [Gateway.core, hvalue]
  split
  · simp only [core_pduDiscardPdu, hcore]
  · simp only [Mem.core_core]

theorem core_stepPduTask (s : Gateway) :
    (s.core.stepPduTask cfg).core = (s.stepPduTask cfg).core := by
  have htask : s.core.pduTask = s.pduTask := rfl
  have hqueue : s.core.pduQueue = s.pduQueue := rfl
  unfold Gateway.stepPduTask
  rw [htask, hqueue]
  cases s.pduTask with
  | receive =>
      dsimp only
      cases s.pduQueue.receive <;> rfl
  | dispatch pdu => exact core_dispatch s pdu
  | sending pdu i => exact core_sendNext s pdu i

theorem core_stepGatewayTask (s : Gateway) :
    (s.core.stepGatewayTask cfg).core = (s.stepGatewayTask cfg).core := by
  have htask : s.core.gatewayTask = s.gatewayTask := rfl
  have hqueue : s.core.gatewayQueue = s.gatewayQueue := rfl
  unfold Gateway.stepGatewayTask
  rw [htask, hqueue]
  cases s.gatewayTask with
  | receive =>
      dsimp only
      cases s.gatewayQueue.receive <;> rfl
  | parse pdu => exact core_parse s pdu

/-- **The step lemma**: what a step does to the gateway does not depend on
frees, accesses and `fw_update_queue`. -/
theorem core_gatewayStep (s : Gateway) (e : GatewayEvent) :
    (gatewayStep cfg s.core e).core = (gatewayStep cfg s e).core := by
  cases e with
  | interrupt n frame => exact core_interrupt s n frame
  | enqueue n => exact core_enqueue s n
  | pduTask => exact core_stepPduTask s
  | gatewayTask => exact core_stepGatewayTask s

theorem core_sent (s : Gateway) (e : GatewayEvent) : s.core.sent cfg e = s.sent cfg e := by
  cases e with
  | pduTask =>
      have htask : s.core.pduTask = s.pduTask := rfl
      unfold Gateway.sent
      rw [htask]
      cases s.pduTask with
      | sending pdu i =>
          have hsent := (blind_ecuSendPdu s.ecuList
            ((cfg.pduDescriptors (pdu.id &&& ~~~pduIdMaskTypeData)).dest i.toNat) pdu).value s.mem
          dsimp only
          rw [← hsent]
          rfl
      | _ => rfl
  | _ => rfl

/-- Where the cores are the same but for what was sent, they stay so. -/
theorem core_gatewayStep_withSends {s g : Gateway} (h : s.core = { g.core with sends := s.sends })
    (e : GatewayEvent) :
    (gatewayStep cfg s e).core =
      { (gatewayStep cfg g e).core with sends := s.sends ++ g.sent cfg e } := by
  calc (gatewayStep cfg s e).core
      = (gatewayStep cfg { g.core with sends := s.sends } e).core := by
        rw [← h, core_gatewayStep]
    _ = { (gatewayStep cfg g.core e).core with sends := s.sends ++ g.sent cfg e } := by
        rw [gatewayStep_withSends, core_sent]
        rfl
    _ = { (gatewayStep cfg g e).core with sends := s.sends ++ g.sent cfg e } := by
        rw [core_gatewayStep]

end

/-! ## What updates do to it -/

/-- What a call sends. -/
def FwCall.sent : FwCall → List CanSend
  | .send msg => [msg]
  | _ => []

/-- The requests of updates. -/
def Station.requests {P : Platform} (s : Station) : StationEvent P → List CanSend
  | .update =>
    match s.session with
    | some { prog := .call c _, .. } => c.sent
    | _ => []
  | _ => []

/-- The update that runs uses only what it holds. -/
def Station.Handles (s : Station) : Prop :=
  ∀ session, s.session = some session → ∃ q : Phase, session.prog.Handles q

section
variable {cfg : Config} {P : Platform} {s s' : Station}

theorem core_perform {ecuId : UInt8} {c : FwCall} {r : c.Ans}
    (h : s.perform ecuId c = some (r, s')) :
    s'.gw.core = { s.gw.core with sends := s.gw.sends ++ c.sent } := by
  cases c with
  | send msg =>
      cases h
      rfl
  | receive =>
      obtain ⟨_, -, hr⟩ := Option.map_eq_some_iff.mp h
      cases hr
      simp [Gateway.core, FwCall.sent]
  | free pdu =>
      cases h
      simp [Gateway.core, FwCall.sent]
  | _ =>
      cases h
      show _ = { s.gw.core with sends := s.gw.sends ++ [] }
      rw [List.append_nil]
      rfl

/-- **An update adds its requests**, and changes nothing else that the gateway
looks at. -/
theorem core_update (s : Station) :
    s.update.gw.core =
      { s.gw.core with sends := s.gw.sends ++ s.requests (StationEvent.update (P := P)) } := by
  unfold Station.update Station.requests
  cases s.session with
  | none =>
      rw [List.append_nil]
      rfl
  | some session =>
      obtain ⟨ecuId, prog⟩ := session
      cases prog with
      | done rc =>
          rw [List.append_nil]
          rfl
      | call c k =>
          cases hs' : s.perform ecuId c with
          | none =>
              -- only a wait does not go on
              cases c with
              | receive =>
                  simp only [hs', FwCall.sent, List.append_nil]
                  rfl
              | _ => cases hs'
          | some r =>
              simp only [hs']
              exact core_perform hs'

theorem Station.Handles.update (h : s.Handles) : s.update.Handles := by
  unfold Station.update
  cases hs : s.session with
  | none => exact h
  | some session =>
      obtain ⟨q, hhandles⟩ := h session hs
      obtain ⟨ecuId, prog⟩ := session
      cases prog with
      | done rc =>
          intro session hsession
          cases hsession
      | call c k =>
          obtain ⟨huses, hnext⟩ := hhandles
          cases hs' : s.perform ecuId c with
          | none =>
              simp only [hs']
              exact h
          | some r =>
              simp only [hs']
              intro session hsession
              cases hsession
              exact ⟨_, hnext r.1⟩

theorem Station.Handles.timeout (h : s.Handles) : s.timeout.Handles := by
  unfold Station.timeout
  split
  · rename_i ecuId k hs
    split
    · obtain ⟨q, -, hnext⟩ := h _ hs
      intro session hsession
      cases hsession
      exact ⟨_, hnext none⟩
    · exact h
  · exact h

theorem Station.Handles.step (h : s.Handles) (e : StationEvent P) :
    (stationStep cfg P s e).Handles := by
  cases e with
  | gateway e => exact h
  | start ecuId fw secureUpdate =>
      unfold stationStep
      cases hs : s.session with
      | none =>
          intro session hsession
          cases hsession
          exact ⟨.idle, handles_canUpdateFirmware P s.gw.ecuList ecuId fw⟩
      | some session => exact h
  | update => exact h.update
  | timeout => exact h.timeout

theorem mem_requests {e : StationEvent P} {msg : CanSend} (hmsg : msg ∈ s.requests e) :
    ∃ ecuId k, s.session = some { ecuId := ecuId, prog := .call (FwCall.send msg) k } := by
  cases e with
  | update =>
      simp only [Station.requests] at hmsg
      split at hmsg
      · rename_i ecuId c k hs
        cases c with
        | send msg' =>
            obtain rfl := List.mem_singleton.mp hmsg
            exact ⟨ecuId, k, hs⟩
        | _ => cases hmsg
      · cases hmsg
  | _ => cases hmsg

theorem Station.Handles.isRequest (h : s.Handles) {e : StationEvent P} {msg : CanSend}
    (hmsg : msg ∈ s.requests e) : msg.IsRequest := by
  obtain ⟨ecuId, k, hs⟩ := mem_requests hmsg
  obtain ⟨q, huses, -⟩ := h _ hs
  cases q with
  | idle => exact huses
  | _ => exact huses.elim

theorem CanSend.IsRequest.isData {msg : CanSend} (h : msg.IsRequest) : msg.isData = false := by
  have hdata : ¬ msg.id &&& pduIdMaskTypeData ≠ 0 := by
    rw [← pduType_eq_normal, h.type]
    exact PduType.noConfusion
  simp [CanSend.isData, Decidable.of_not_not hdata]

/-- The events of the gateway. -/
def StationEvent.gateway? : StationEvent P → Option GatewayEvent
  | .gateway e => some e
  | _ => none

theorem core_stationStep {e : StationEvent P} (he : e.gateway? = none) :
    (stationStep cfg P s e).gw.core =
      { s.gw.core with sends := s.gw.sends ++ s.requests e } := by
  cases e with
  | gateway e => cases he
  | update => exact core_update s
  | start ecuId fw secureUpdate =>
      have hgw : (stationStep cfg P s (.start ecuId fw secureUpdate)).gw = s.gw := by
        simp only [stationStep]
        split <;> rfl
      show _ = { s.gw.core with sends := s.gw.sends ++ [] }
      rw [hgw, List.append_nil]
      rfl
  | timeout =>
      have hgw : (stationStep cfg P s .timeout).gw = s.gw := by
        simp only [stationStep, Station.timeout]
        split
        · split <;> rfl
        · rfl
      show _ = { s.gw.core with sends := s.gw.sends ++ [] }
      rw [hgw, List.append_nil]
      rfl

/-! ## Runs -/

/-- A step of the gateway when there are no updates. -/
def unupdatedStep (cfg : Config) (P : Platform) (g : Gateway) (e : StationEvent P) : Gateway :=
  match e.gateway? with
  | some e => gatewayStep cfg g e
  | none => g

theorem foldl_unupdated (cfg : Config) (g : Gateway) (es : List (StationEvent P)) :
    es.foldl (unupdatedStep cfg P) g =
      (es.filterMap StationEvent.gateway?).foldl (gatewayStep cfg) g := by
  induction es generalizing g with
  | nil => rfl
  | cons e es ih =>
      cases e with
      | gateway e => exact ih (gatewayStep cfg g e)
      | _ => exact ih g

/-- The gateway is what it is without updates, `g`, but for frees, accesses,
`fw_update_queue` and the messages, to which the updates add their requests. -/
structure Station.OnlyRequests (g : Gateway) (requests : List CanSend) (s : Station) : Prop where
  gateway : s.gw.core = { g.core with sends := s.gw.sends }
  data : s.gw.sends.filter CanSend.isData = g.sends
  requests : s.gw.sends.filter (fun msg => !msg.isData) = requests

/-- The relation between the gateways with and without updates. -/
structure Station.Beside (s : Station) (g : Gateway) : Prop where
  gateway : s.gw.core = { g.core with sends := s.gw.sends }
  data : s.gw.sends.filter CanSend.isData = g.sends
  sendsData : g.SendsData
  handles : s.Handles

/-- What a step sends: the data that the gateway sends without updates, or
requests. -/
theorem Station.Beside.sends {g : Gateway} (h : s.Beside g) (cfg : Config) (e : StationEvent P) :
    ∃ sent, (stationStep cfg P s e).gw.core =
        { (unupdatedStep cfg P g e).core with sends := s.gw.sends ++ sent } ∧
      g.sends ++ sent.filter CanSend.isData = (unupdatedStep cfg P g e).sends ∧
      sent.filter (fun msg => !msg.isData) = s.requests e := by
  cases he : e.gateway? with
  | some e' =>
      cases e with
      | gateway e =>
          have hdata : ∀ msg ∈ g.sent cfg e, msg.isData = true := by
            intro msg hmsg
            simpa [CanSend.isData] using h.sendsData.sent hmsg
          refine ⟨g.sent cfg e, core_gatewayStep_withSends h.gateway e, ?_, ?_⟩
          · rw [List.filter_eq_self.mpr hdata]
            exact (gatewayStep_sends cfg g e).symm
          · apply List.filter_eq_nil_iff.mpr
            intro msg hmsg
            simp [hdata msg hmsg]
      | _ => cases he
  | none =>
      have hstep : unupdatedStep cfg P g e = g := by
        unfold unupdatedStep
        rw [he]
      refine ⟨s.requests e, ?_, ?_, ?_⟩
      · rw [core_stationStep he, hstep, h.gateway]
      · rw [hstep, List.filter_eq_nil_iff.mpr, List.append_nil]
        intro msg hmsg
        simp [(h.handles.isRequest hmsg).isData]
      · apply List.filter_eq_self.mpr
        intro msg hmsg
        simp [(h.handles.isRequest hmsg).isData]

theorem Station.Beside.step {g : Gateway} (h : s.Beside g) (e : StationEvent P) :
    (stationStep cfg P s e).Beside (unupdatedStep cfg P g e) := by
  obtain ⟨sent, hcore, hdata, -⟩ := h.sends cfg e
  have hsends : (stationStep cfg P s e).gw.sends = s.gw.sends ++ sent :=
    congrArg Gateway.sends hcore
  constructor
  case gateway => rw [hcore, hsends]
  case data => rw [hsends, List.filter_append, h.data, hdata]
  case sendsData =>
    unfold unupdatedStep
    split
    · exact h.sendsData.step _
    · exact h.sendsData
  case handles => exact h.handles.step e

/-- What is no data are the requests. -/
theorem Station.Beside.requests {g : Gateway} (h : s.Beside g) (e : StationEvent P) :
    (stationStep cfg P s e).gw.sends.filter (fun msg => !msg.isData) =
      s.gw.sends.filter (fun msg => !msg.isData) ++ s.requests e := by
  obtain ⟨sent, hcore, -, hrequests⟩ := h.sends cfg e
  have hsends : (stationStep cfg P s e).gw.sends = s.gw.sends ++ sent :=
    congrArg Gateway.sends hcore
  rw [hsends, List.filter_append, hrequests]

theorem Station.Start.beside (h : s.Start) : s.Beside s.gw := by
  constructor
  case gateway => rfl
  case data =>
    rw [h.gw.sends]
    rfl
  case sendsData =>
    intro pdu i htask
    rw [h.gw.pduTask] at htask
    cases htask
  case handles =>
    intro session hsession
    rw [h.session] at hsession
    cases hsession

end

/-- **Updates only add requests**: in every interleaving of the gateway with
any updates, one after the other, it routes, parses and accepts what it does
without them, and what is sent is what it sends without them, in this order,
and the requests of the updates, in theirs. -/
theorem updates_only_request {cfg : Config} {P : Platform} {s : Station} (hstart : s.Start)
    (es : List (StationEvent P)) :
    (es.foldl (stationStep cfg P) s).OnlyRequests
      ((es.filterMap StationEvent.gateway?).foldl (gatewayStep cfg) s.gw)
      (Runs.trace (stationStep cfg P) Station.requests s es) := by
  have hrun : (es.foldl (stationStep cfg P) s).Beside (es.foldl (unupdatedStep cfg P) s.gw) := by
    apply Runs.foldl_of_simulation (A := fun _ => True) _ hstart.beside fun _ _ => trivial
    intro s g e h _
    exact h.step e
  have hkept : ∀ (s : Station) (e : StationEvent P), (∃ g, s.Beside g) → True →
      ∃ g, (stationStep cfg P s e).Beside g :=
    fun s e ⟨g, h⟩ _ => ⟨unupdatedStep cfg P g e, h.step e⟩
  have hrequests := Runs.foldl_append_trace_of_inv
    (I := fun s : Station => ∃ g, s.Beside g) (A := fun _ => True)
    (fun s : Station => s.gw.sends.filter fun msg => !msg.isData)
    hkept (fun s e ⟨g, h⟩ => h.requests e)
    ⟨s.gw, hstart.beside⟩ (fun e _ => trivial : ∀ e ∈ es, True)
  rw [← foldl_unupdated]
  constructor
  case gateway => exact hrun.gateway
  case data => exact hrun.data
  case requests =>
    rw [hrequests, hstart.gw.sends]
    rfl

/-- A request between the two sends of a data frame. -/
theorem updates_only_request_between :
    let es : List (StationEvent memoryPlatform) :=
      arrival { id := 0x10000001, length := 3, data := fun _ => 7 } ++
        [.gateway .pduTask, .start 2 [] true, .update, .gateway .pduTask, .gateway .pduTask]
    (es.foldl (stationStep frameworkConfig memoryPlatform) Station.initial).OnlyRequests
      ((es.filterMap StationEvent.gateway?).foldl (gatewayStep frameworkConfig)
        Station.initial.gw)
      (Runs.trace (stationStep frameworkConfig memoryPlatform) Station.requests
        Station.initial es) :=
  updates_only_request Station.initial_start _

end XcanRouter
