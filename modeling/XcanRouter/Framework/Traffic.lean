import XcanRouter.Framework.Packets

/-!
# Mixed traffic

Data, commands and acknowledgements arrive in any order and share `PDU_queue`
and `PDU_Task`. What becomes of each kind is followed through the stages of
the relay: each stage is a FIFO, and what one hands out the next takes in.
-/

namespace XcanRouter

/-! ## What a step of the relay does -/

/-- The steps of the relay from `r`. -/
inductive RelayMove (cfg : Config) (r : Relay) : GatewayEvent → Relay → Prop where
  | ignore (n : Nat) (frame : CanMessage) : RelayMove cfg r (.interrupt n frame) r
  | build (n : Nat) (frame : CanMessage) :
      RelayMove cfg r (.interrupt n frame)
        { r with built := Function.update r.built n (some frame.packet) }
  | spurious (n : Nat) (hp : r.built n = none) : RelayMove cfg r (.enqueue n) r
  | arrive (n : Nat) (p : Packet) (hp : r.built n = some p) :
      RelayMove cfg r (.enqueue n)
        { r with
          inbox := r.inbox.enter p
          built := Function.update r.built n none
          arrived := r.arrived ++ r.inbox.entered p }
  | wait (hrouter : r.router = .receive) (hitems : r.inbox.items = []) :
      RelayMove cfg r .pduTask r
  | take (p : Packet) (l : List Packet) (hrouter : r.router = .receive)
      (hitems : r.inbox.items = p :: l) :
      RelayMove cfg r .pduTask { r with inbox := r.inbox.advance, router := .dispatch p }
  | data (p : Packet) (hrouter : r.router = .dispatch p) (htype : p.type = .normal) :
      RelayMove cfg r .pduTask { r with router := .sending p 0 }
  | command (p : Packet) (hrouter : r.router = .dispatch p) (htype : p.type = .command) :
      RelayMove cfg r .pduTask { r with commands := r.commands.enter p, router := .receive }
  | firmware (p : Packet) (hrouter : r.router = .dispatch p) (htype : p.type = .firmware) :
      RelayMove cfg r .pduTask { r with updates := r.updates.enter p, router := .receive }
  | unknown (p : Packet) (hrouter : r.router = .dispatch p) (htype : p.type = .unknown) :
      RelayMove cfg r .pduTask { r with router := .receive }
  | send (p : Packet) (i : UInt8) (hrouter : r.router = .sending p i)
      (hi : i < (cfg.pduDescriptors (p.id &&& ~~~pduIdMaskTypeData)).destCount) :
      RelayMove cfg r .pduTask
        { r with
          sends := r.sends ++ p.send
            (r.ecus ((cfg.pduDescriptors (p.id &&& ~~~pduIdMaskTypeData)).dest i.toNat))
          router := .sending p (i + 1) }
  | done (p : Packet) (i : UInt8) (hrouter : r.router = .sending p i)
      (hi : ¬ i < (cfg.pduDescriptors (p.id &&& ~~~pduIdMaskTypeData)).destCount) :
      RelayMove cfg r .pduTask { r with router := .receive }
  | idle (hmanager : r.manager = none) (hitems : r.commands.items = []) :
      RelayMove cfg r .gatewayTask r
  | fetch (p : Packet) (l : List Packet) (hmanager : r.manager = none)
      (hitems : r.commands.items = p :: l) :
      RelayMove cfg r .gatewayTask { r with commands := r.commands.advance, manager := some p }
  | parse (p : Packet) (hmanager : r.manager = some p) :
      RelayMove cfg r .gatewayTask { r with ecus := p.parse cfg r.ecus, manager := none }

theorem relayStep_move (cfg : Config) (r : Relay) (e : GatewayEvent) :
    RelayMove cfg r e (relayStep cfg r e) := by
  cases e with
  | interrupt n frame =>
      show RelayMove cfg r _ (r.interrupt n frame.packet)
      unfold Relay.interrupt
      split
      · exact .ignore n frame
      · exact .build n frame
  | enqueue n =>
      show RelayMove cfg r _ (r.enqueue n)
      unfold Relay.enqueue
      cases hp : r.built n with
      | none => exact .spurious n hp
      | some p => exact .arrive n p hp
  | pduTask =>
      show RelayMove cfg r _ (r.stepRouter cfg)
      unfold Relay.stepRouter
      cases hrouter : r.router with
      | receive =>
          cases hitems : r.inbox.items with
          | nil => exact .wait hrouter hitems
          | cons p l => exact .take p l hrouter hitems
      | dispatch p =>
          show RelayMove cfg r _ (r.dispatch p)
          unfold Relay.dispatch
          cases htype : p.type with
          | normal => exact .data p hrouter htype
          | command => exact .command p hrouter htype
          | firmware => exact .firmware p hrouter htype
          | unknown => exact .unknown p hrouter htype
      | sending p i =>
          show RelayMove cfg r _ (r.sendNext cfg p i)
          unfold Relay.sendNext
          dsimp only
          split
          · rename_i hi
            exact .send p i hrouter hi
          · rename_i hi
            exact .done p i hrouter hi
  | gatewayTask =>
      show RelayMove cfg r _ (r.stepManager cfg)
      unfold Relay.stepManager
      cases hmanager : r.manager with
      | none =>
          cases hitems : r.commands.items with
          | nil => exact .idle hmanager hitems
          | cons p l => exact .fetch p l hmanager hitems
      | some p => exact .parse p hmanager

/-! ## The stages of the relay -/

namespace Relay

/-- What the inbox takes in. -/
def arrivals (r : Relay) : GatewayEvent → List Packet
  | .enqueue n => (r.built n).toList.flatMap r.inbox.entered
  | _ => []

/-- What the router takes out of the inbox. -/
def taken (r : Relay) : GatewayEvent → List Packet
  | .pduTask =>
    match r.router with
    | .receive => r.inbox.items.take 1
    | _ => []
  | _ => []

/-- The packet that the router is about to sort. -/
def undecided (r : Relay) : List Packet :=
  match r.router with
  | .dispatch p => [p]
  | _ => []

/-- The packet that it sorts. -/
def decided (r : Relay) : GatewayEvent → List Packet
  | .pduTask => r.undecided
  | _ => []

/-- The packets whose way is not decided yet. -/
def waiting (r : Relay) : List Packet := r.undecided ++ r.inbox.items

/-- What goes to a channel for the packets of one type. -/
def passedTo (type : PduType) (c : Channel Packet) (r : Relay) (e : GatewayEvent) :
    List Packet :=
  (r.decided e).flatMap fun p => if p.type = type then c.entered p else []

def forwarded (r : Relay) (e : GatewayEvent) : List Packet :=
  r.passedTo .command r.commands e

def passedUpdates (r : Relay) (e : GatewayEvent) : List Packet :=
  r.passedTo .firmware r.updates e

/-- The commands that were not parsed yet. -/
def unparsed (r : Relay) : List Packet := r.manager.toList ++ r.commands.items

def parsed (r : Relay) : GatewayEvent → List Packet
  | .gatewayTask => r.manager.toList
  | _ => []

end Relay

section
variable {cfg : Config} {r r' : Relay} {e : GatewayEvent}

theorem RelayMove.flow_inbox (h : RelayMove cfg r e r') :
    r.inbox.items ++ r.arrivals e = r.taken e ++ r'.inbox.items := by
  cases h <;> simp [Relay.arrivals, Relay.taken, *]

theorem RelayMove.flow_router (h : RelayMove cfg r e r') :
    r.undecided ++ r.taken e = r.decided e ++ r'.undecided := by
  cases h <;> simp [Relay.taken, Relay.undecided, Relay.decided, *]

/-- Two stages, one after the other, are a stage. -/
theorem RelayMove.flow_waiting (h : RelayMove cfg r e r') :
    r.waiting ++ r.arrivals e = r.decided e ++ r'.waiting := by
  unfold Relay.waiting
  rw [List.append_assoc, h.flow_inbox, ← List.append_assoc, h.flow_router, List.append_assoc]

theorem RelayMove.flow_commands (h : RelayMove cfg r e r') :
    r.unparsed ++ r.forwarded e = r.parsed e ++ r'.unparsed := by
  cases h <;> simp [Relay.unparsed, Relay.forwarded, Relay.passedTo, Relay.decided,
    Relay.undecided, Relay.parsed, *]

theorem RelayMove.flow_updates (h : RelayMove cfg r e r') :
    r'.updates.items = r.updates.items ++ r.passedUpdates e := by
  cases h <;> simp [Relay.passedUpdates, Relay.passedTo, Relay.decided, Relay.undecided, *]

theorem RelayMove.ecus (h : RelayMove cfg r e r') :
    r'.ecus = (r.parsed e).foldl (Packet.parse cfg) r.ecus := by
  cases h <;> simp [Relay.parsed, *]

theorem RelayMove.arrived (h : RelayMove cfg r e r') :
    r'.arrived = r.arrived ++ r.arrivals e := by
  cases h <;> simp [Relay.arrivals, *]

/-! ## Runs of the relay -/

theorem Relay.run_commands (cfg : Config) (r : Relay) (es : List GatewayEvent) :
    r.unparsed ++ Runs.trace (relayStep cfg) Relay.forwarded r es =
      Runs.trace (relayStep cfg) Relay.parsed r es ++
        (es.foldl (relayStep cfg) r).unparsed :=
  Runs.trace_flow Relay.unparsed (fun r e => (relayStep_move cfg r e).flow_commands) r es

/-- What is passed on of one type are packets of that type, in order. -/
theorem Relay.passedTo_sublist (type : PduType) (c : Channel Packet) (r : Relay)
    (e : GatewayEvent) :
    (r.passedTo type c e).Sublist ((r.decided e).filter fun p => p.type = type) := by
  unfold Relay.passedTo
  induction r.decided e with
  | nil => exact List.Sublist.refl []
  | cons p l ih =>
      rw [List.flatMap_cons, List.filter_cons]
      by_cases htype : p.type = type
      · rw [if_pos htype, if_pos (decide_eq_true htype)]
        exact (c.entered_sublist p).append ih
      · rw [if_neg htype, if_neg (by simpa using htype), List.nil_append]
        exact ih

/-- An entry of the list after some commands. -/
theorem foldl_parse (cfg : Config) (ps : List Packet) (ecus : UInt8 → Ecu) (ecuId : UInt8) :
    ps.foldl (Packet.parse cfg) ecus ecuId =
      (ps.filter fun p => p.ecuId = ecuId).foldl (fun ecu p => parsedEcu cfg p.bytes ecu)
        (ecus ecuId) := by
  induction ps generalizing ecus with
  | nil => rfl
  | cons p ps ih =>
      rw [List.foldl_cons, ih, List.filter_cons]
      unfold Packet.parse
      by_cases hid : p.ecuId = ecuId
      · rw [if_pos (decide_eq_true hid), List.foldl_cons, hid, Function.update_self]
      · rw [if_neg (by simpa using hid), Function.update_of_ne (Ne.symm hid)]

end

/-! ## What the tasks of the gateway do -/

/-- The command that a step parses. -/
def Gateway.parsed (s : Gateway) : GatewayEvent → List Packet
  | .gatewayTask => s.gatewayTask.pdus.map (Pdu.packet s.mem)
  | _ => []

/-- The PDU that a step of `PDU_Task` sorts. -/
def Gateway.decided (s : Gateway) : GatewayEvent → List Pdu
  | .pduTask =>
    match s.pduTask with
    | .dispatch pdu => [pdu]
    | _ => []
  | _ => []

/-- What a step passes to a queue that PDUs of one type go to. Where the queue
is full there is nothing to pass on: the PDU is discarded. -/
def Gateway.passedTo (type : PduType) (q : RtosQueue) (s : Gateway) (e : GatewayEvent) :
    List Packet :=
  (s.decided e).flatMap fun pdu =>
    if pduType pdu.id = type ∧ ¬ q.Full then [pdu.packet s.mem] else []

def Gateway.forwarded (s : Gateway) (e : GatewayEvent) : List Packet :=
  s.passedTo .command s.gatewayQueue e

def Gateway.passedUpdates (s : Gateway) (e : GatewayEvent) : List Packet :=
  s.passedTo .firmware s.fwUpdateQueue e

section
variable {s : Gateway} {r : Relay} {m : Mem}

theorem Gateway.Shows.parsed (h : s.Shows s.mem r) (e : GatewayEvent) :
    s.parsed e = r.parsed e := by
  cases e with
  | gatewayTask =>
      show s.gatewayTask.pdus.map (Pdu.packet s.mem) = r.manager.toList
      rw [h.manager]
      cases s.gatewayTask <;> rfl
  | _ => rfl

theorem Gateway.Shows.decided (h : s.Shows s.mem r) (e : GatewayEvent) :
    r.decided e = (s.decided e).map (Pdu.packet s.mem) := by
  cases e with
  | pduTask =>
      show r.undecided = _
      unfold Relay.undecided Gateway.decided
      rw [h.router]
      cases s.pduTask <;> rfl
  | _ => rfl

theorem Gateway.Shows.passedTo (h : s.Shows s.mem r) {q : RtosQueue} {c : Channel Packet}
    (hq : q.Shows s.mem c) (type : PduType) (e : GatewayEvent) :
    s.passedTo type q e = r.passedTo type c e := by
  unfold Gateway.passedTo Relay.passedTo
  rw [h.decided, List.flatMap_map]
  apply List.flatMap_congr
  intro pdu _
  show _ = if pduType pdu.id = type then c.entered (pdu.packet s.mem) else []
  by_cases hfull : q.Full
  · rw [Channel.entered_of_full (hq.full_iff.mpr hfull), if_neg (fun h => h.2 hfull), ite_self]
  · rw [Channel.entered_of_room (mt hq.full_iff.mp hfull)]
    simp only [hfull, not_false_eq_true, and_true]

/-- The entries of the list and the queues of the tasks, after a run in which
the commands `parsed` were parsed, and `forwarded` and `updates` passed on. -/
structure Gateway.SortedInto (cfg : Config) (ecus : UInt8 → Ecu)
    (parsed forwarded updates : List Packet) (s : Gateway) : Prop where
  /-- An entry is what the commands for its ECU make of it, one after the other. -/
  entry : ∀ ecuId, s.ecuList ecuId =
    (parsed.filter fun p => p.ecuId = ecuId).foldl (fun ecu p => parsedEcu cfg p.bytes ecu)
      (ecus ecuId)
  /-- Commands are parsed in the order in which they were passed on. -/
  commands : forwarded =
    parsed ++ (s.gatewayTask.pdus ++ s.gatewayQueue.items).map (Pdu.packet s.mem)
  acks : updates = s.fwUpdateQueue.items.map (Pdu.packet s.mem)
  /-- What is passed on are frames that left `PDU_queue`, in the order of arrival. -/
  commandsDequeued : forwarded.Sublist
    ((s.dequeued.map CanMessage.packet).filter fun p => p.type = .command)
  acksDequeued : updates.Sublist
    ((s.dequeued.map CanMessage.packet).filter fun p => p.type = .firmware)

/-- What was passed on in a run is among what the router took. -/
theorem Relay.passed_taken {cfg : Config} (hundecided : r.undecided = []) (type : PduType)
    (c : Relay → Channel Packet) (es : List GatewayEvent) :
    (Runs.trace (relayStep cfg) (fun r e => r.passedTo type (c r) e) r es).Sublist
      ((Runs.trace (relayStep cfg) Relay.taken r es).filter fun p => p.type = type) := by
  have hflow := Runs.trace_flow Relay.undecided
    (fun r e => (relayStep_move cfg r e).flow_router) r es
  rw [hundecided, List.nil_append] at hflow
  rw [hflow, List.filter_append, Runs.trace_filter]
  exact (Runs.trace_sublist (fun r e => r.passedTo_sublist type (c r) e) r es).trans
    (List.sublist_append_left _ _)

/-- The frames that left `PDU_queue` are the packets that the router took. -/
theorem Gateway.Shows.dequeued {cfg : Config} {s₀ : Gateway} (h : s.Shows s.mem r)
    {es : List GatewayEvent} (hr : r = es.foldl (relayStep cfg) s₀.relay) :
    s.dequeued.map CanMessage.packet =
      Runs.trace (relayStep cfg) Relay.taken s₀.relay es := by
  have harrived := Runs.foldl_append_trace Relay.arrived
    (fun r e => (relayStep_move cfg r e).arrived) s₀.relay es
  have hflow := Runs.trace_flow (fun r : Relay => r.inbox.items)
    (fun r e => (relayStep_move cfg r e).flow_inbox) s₀.relay es
  rw [← hr] at harrived hflow
  have hall : s.accepted.map CanMessage.packet =
      Runs.trace (relayStep cfg) Relay.taken s₀.relay es ++ r.inbox.items := by
    rw [← hflow, ← h.arrived, harrived]
    rfl
  have hlength := congrArg List.length hall
  rw [List.length_map, List.length_append, h.inbox.2, List.length_map] at hlength
  rw [Gateway.dequeued, List.map_take, hall]
  apply List.take_left'
  omega

theorem Gateway.Shows.sortedInto {cfg : Config} {s₀ : Gateway} (h : s.Shows s.mem r)
    {es : List GatewayEvent} (hr : r = es.foldl (relayStep cfg) s₀.relay) :
    s.SortedInto cfg s₀.ecuList
      (Runs.trace (relayStep cfg) Relay.parsed s₀.relay es)
      (Runs.trace (relayStep cfg) Relay.forwarded s₀.relay es)
      (Runs.trace (relayStep cfg) Relay.passedUpdates s₀.relay es) := by
  have hunparsed : r.unparsed =
      (s.gatewayTask.pdus ++ s.gatewayQueue.items).map (Pdu.packet s.mem) := by
    unfold Relay.unparsed
    rw [h.manager, h.commands.2, List.map_append]
    cases s.gatewayTask <;> rfl
  constructor
  case entry =>
    intro ecuId
    have hfold := Runs.foldl_trace Relay.ecus
      (fun r e => (relayStep_move cfg r e).ecus) s₀.relay es
    rw [← h.ecus, hr, hfold, foldl_parse]
    rfl
  case commands =>
    rw [← hunparsed, hr, ← Relay.run_commands]
    rfl
  case acks =>
    have hadd := Runs.foldl_append_trace (fun r : Relay => r.updates.items)
      (fun r e => (relayStep_move cfg r e).flow_updates) s₀.relay es
    rw [← h.updates.2, hr, hadd]
    rfl
  case commandsDequeued =>
    rw [h.dequeued hr]
    exact Relay.passed_taken rfl .command Relay.commands es
  case acksDequeued =>
    rw [h.dequeued hr]
    exact Relay.passed_taken rfl .firmware Relay.updates es

theorem Gateway.Start.run_sorted {cfg : Config} (L : EcuLayout cfg) (h : s.Start)
    (hmalloc : ∀ k, s.mem.heap.oom k = false) {es : List GatewayEvent}
    (hes : ∀ e ∈ es, e.Brings Packet.CommandComplete) :
    (es.foldl (gatewayStep cfg) s).SortedInto cfg s.ecuList
      (Runs.trace (gatewayStep cfg) Gateway.parsed s es)
      (Runs.trace (gatewayStep cfg) Gateway.forwarded s es)
      (Runs.trace (gatewayStep cfg) Gateway.passedUpdates s es) := by
  have hstep : ∀ s₁ r₁ e, Gateway.Follows s.mem.heap.brk s₁ r₁ →
      e.Brings Packet.CommandComplete →
      Gateway.Follows s.mem.heap.brk (gatewayStep cfg s₁ e) (relayStep cfg r₁ e) :=
    fun s₁ r₁ e hfollows he => hfollows.step L he
  have hfollows := h.follows hmalloc
  have hparsed := Runs.trace_of_simulation hstep
    (fun s₁ r₁ e h₁ _ => h₁.shows.parsed e) hfollows hes
  have hforwarded := Runs.trace_of_simulation hstep
    (fun s₁ r₁ e h₁ _ => h₁.shows.passedTo h₁.shows.commands .command e) hfollows hes
  have hupdates := Runs.trace_of_simulation hstep
    (fun s₁ r₁ e h₁ _ => h₁.shows.passedTo h₁.shows.updates .firmware e) hfollows hes
  have hshows := (h.run_follows L hmalloc hes).shows
  show (es.foldl (gatewayStep cfg) s).SortedInto cfg s.ecuList _
    (Runs.trace (gatewayStep cfg) (fun s e => s.passedTo .command s.gatewayQueue e) s es)
    (Runs.trace (gatewayStep cfg) (fun s e => s.passedTo .firmware s.fwUpdateQueue e) s es)
  rw [hparsed, hforwarded, hupdates]
  exact hshows.sortedInto rfl

end

/-- **Each kind of traffic goes its own way, in order**, in every run on any
frames whose commands have the bytes that are read of them: an entry of the
list of ECUs is the result of the commands for this ECU alone, parsed in the
order in which they arrived, and `fw_update_queue` has the acknowledgements in
the order in which they arrived. -/
theorem mixed_traffic_sorted {cfg : Config} (L : EcuLayout cfg) {s : Gateway}
    (hstart : s.Start) (hmalloc : ∀ k, s.mem.heap.oom k = false) (es : List GatewayEvent)
    (hes : ∀ e ∈ es, e.Brings Packet.CommandComplete) :
    (es.foldl (gatewayStep cfg) s).SortedInto cfg s.ecuList
      (Runs.trace (gatewayStep cfg) Gateway.parsed s es)
      (Runs.trace (gatewayStep cfg) Gateway.forwarded s es)
      (Runs.trace (gatewayStep cfg) Gateway.passedUpdates s es) :=
  hstart.run_sorted L hmalloc hes

/-- Two commands of ECU 3 and one of ECU 2, of which the last is not parsed
yet. -/
theorem mixed_traffic_sorted_three_commands :
    let es : List GatewayEvent :=
      [.interrupt 0 { id := 0x08000003, length := 2, data := fun i => [4, 3].getD i 0 },
        .interrupt 1 { id := 0x08000002, length := 2, data := fun i => [3, 7].getD i 0 },
        .enqueue 1, .enqueue 0, .pduTask, .pduTask, .pduTask, .pduTask, .gatewayTask,
        .gatewayTask, .gatewayTask]
    (es.foldl (gatewayStep frameworkConfig) Gateway.initial).SortedInto frameworkConfig
      ecuTable
      (Runs.trace (gatewayStep frameworkConfig) Gateway.parsed Gateway.initial es)
      (Runs.trace (gatewayStep frameworkConfig) Gateway.forwarded Gateway.initial es)
      (Runs.trace (gatewayStep frameworkConfig) Gateway.passedUpdates Gateway.initial es) := by
  apply mixed_traffic_sorted frameworkLayout Gateway.initial_start fun _ => rfl
  decide

/-! ## The latest report -/

/-- A command that sets the status of its ECU. -/
def Packet.setsStatus (p : Packet) : Bool :=
  p.bytes 0 = ecuCmdReqAll ∨ p.bytes 0 = ecuCmdReqStatus

def Packet.setsVersion (p : Packet) : Bool :=
  p.bytes 0 = ecuCmdReqAll ∨ p.bytes 0 = ecuCmdReqFwver

/-- A command that sets how its ECU is reached. -/
def Packet.setsRoute (p : Packet) : Bool := p.bytes 0 = ecuCmdReqAll

/-- What a command says of its ECU. -/
def Packet.report (cfg : Config) (p : Packet) : Ecu := parsedEcu cfg p.bytes {}

/-- The fields of an entry after some commands for its ECU: each one is from
the last command that sets it. -/
structure LatestReport (cfg : Config) (before : Ecu) (commands : List Packet) (ecu : Ecu) :
    Prop where
  status : ecu.status =
    ((commands.filter Packet.setsStatus).getLast?.map fun p => (p.report cfg).status).getD
      before.status
  fwVersion : ecu.fwVersion =
    ((commands.filter Packet.setsVersion).getLast?.map fun p => (p.report cfg).fwVersion).getD
      before.fwVersion
  route : (ecu.protocol, ecu.peripheral) =
    ((commands.filter Packet.setsRoute).getLast?.map fun p =>
        ((p.report cfg).protocol, (p.report cfg).peripheral)).getD
      (before.protocol, before.peripheral)

section
variable {cfg : Config} {p : Packet}

theorem status_of_sets (h : p.setsStatus = true) (ecu : Ecu) :
    (parsedEcu cfg p.bytes ecu).status = (p.report cfg).status := by
  unfold Packet.report parsedEcu
  rcases of_decide_eq_true h with hcmd | hcmd <;> rw [hcmd] <;> rfl

theorem status_of_keeps (h : p.setsStatus = false) (ecu : Ecu) :
    (parsedEcu cfg p.bytes ecu).status = ecu.status := by
  obtain ⟨hall, hstatus⟩ := not_or.mp (of_decide_eq_false h)
  unfold parsedEcu
  rw [if_neg hall, if_neg hstatus]
  split <;> rfl

theorem version_of_sets (h : p.setsVersion = true) (ecu : Ecu) :
    (parsedEcu cfg p.bytes ecu).fwVersion = (p.report cfg).fwVersion := by
  unfold Packet.report parsedEcu
  rcases of_decide_eq_true h with hcmd | hcmd <;> rw [hcmd] <;> rfl

theorem version_of_keeps (h : p.setsVersion = false) (ecu : Ecu) :
    (parsedEcu cfg p.bytes ecu).fwVersion = ecu.fwVersion := by
  obtain ⟨hall, hfwver⟩ := not_or.mp (of_decide_eq_false h)
  unfold parsedEcu
  rw [if_neg hall, if_neg hfwver]
  split <;> rfl

theorem route_of_sets (h : p.setsRoute = true) (ecu : Ecu) :
    parsedEcu cfg p.bytes ecu = p.report cfg := by
  have hcmd : p.bytes 0 = ecuCmdReqAll := of_decide_eq_true h
  unfold Packet.report parsedEcu
  rw [if_pos hcmd, if_pos hcmd]

theorem route_of_keeps (h : p.setsRoute = false) (ecu : Ecu) :
    ((parsedEcu cfg p.bytes ecu).protocol, (parsedEcu cfg p.bytes ecu).peripheral) =
      (ecu.protocol, ecu.peripheral) := by
  unfold parsedEcu
  rw [if_neg (of_decide_eq_false h)]
  split
  · rfl
  · split <;> rfl

theorem latestReport_foldl (cfg : Config) (commands : List Packet) (ecu : Ecu) :
    LatestReport cfg ecu commands
      (commands.foldl (fun ecu p => parsedEcu cfg p.bytes ecu) ecu) := by
  constructor
  case status =>
    exact Runs.foldl_last Ecu.status (fun ecu _ h => status_of_sets h ecu)
      (fun ecu _ h => status_of_keeps h ecu) commands ecu
  case fwVersion =>
    exact Runs.foldl_last Ecu.fwVersion (fun ecu _ h => version_of_sets h ecu)
      (fun ecu _ h => version_of_keeps h ecu) commands ecu
  case route =>
    apply Runs.foldl_last fun ecu : Ecu => (ecu.protocol, ecu.peripheral)
    · intro ecu p h
      exact congrArg (fun ecu : Ecu => (ecu.protocol, ecu.peripheral)) (route_of_sets h ecu)
    · intro ecu p h
      exact route_of_keeps h ecu

end

/-- **The list of ECUs has the latest reports**, in every run on any frames
whose commands have the bytes that are read of them: each field of an entry is
from the last command for its ECU that was parsed and sets it, whatever
arrived for other ECUs, and what it was at the start if there was none. -/
theorem latest_report_counts {cfg : Config} (L : EcuLayout cfg) {s : Gateway}
    (hstart : s.Start) (hmalloc : ∀ k, s.mem.heap.oom k = false) (es : List GatewayEvent)
    (hes : ∀ e ∈ es, e.Brings Packet.CommandComplete) (ecuId : UInt8) :
    LatestReport cfg (s.ecuList ecuId)
      ((Runs.trace (gatewayStep cfg) Gateway.parsed s es).filter fun p => p.ecuId = ecuId)
      ((es.foldl (gatewayStep cfg) s).ecuList ecuId) := by
  rw [(hstart.run_sorted L hmalloc hes).entry ecuId]
  exact latestReport_foldl cfg _ _

/-- ECU 3 updates, ECU 2 has version 7, and ECU 3 is back. -/
theorem latest_report_counts_back :
    let es : List GatewayEvent :=
      [.interrupt 0 { id := 0x08000003, length := 2, data := fun i => [4, 3].getD i 0 },
        .enqueue 0,
        .interrupt 0 { id := 0x08000002, length := 2, data := fun i => [3, 7].getD i 0 },
        .enqueue 0,
        .interrupt 0 { id := 0x08000003, length := 2, data := fun i => [4, 1].getD i 0 },
        .enqueue 0, .pduTask, .pduTask, .pduTask, .pduTask, .pduTask, .pduTask, .gatewayTask,
        .gatewayTask, .gatewayTask, .gatewayTask, .gatewayTask, .gatewayTask]
    LatestReport frameworkConfig (ecuTable 3)
      ((Runs.trace (gatewayStep frameworkConfig) Gateway.parsed Gateway.initial es).filter
        fun p => p.ecuId = 3)
      ((es.foldl (gatewayStep frameworkConfig) Gateway.initial).ecuList 3) := by
  exact latest_report_counts frameworkLayout Gateway.initial_start (fun _ => rfl) _ (by decide) 3

/-! ## Routing among other traffic -/

/-- What is sent of a data packet, by the list `ecus`. -/
def packetSends (cfg : Config) (ecus : UInt8 → Ecu) (p : Packet) : List CanSend :=
  (cfg.pduDescriptors (p.id &&& ~~~pduIdMaskTypeData)).dests.flatMap fun ecuId =>
    p.send (ecus ecuId)

/-- What is sent of some packets, of which only data is sent on. -/
def dataSends (cfg : Config) (ecus : UInt8 → Ecu) (ps : List Packet) : List CanSend :=
  (ps.filter fun p => p.type = .normal).flatMap (packetSends cfg ecus)

/-- A packet that changes nothing of how ECUs are reached. -/
def Packet.KeepsRoutes (p : Packet) : Prop :=
  p.type = .command → p.Complete ∧ p.bytes 0 ≠ ecuCmdReqAll

instance : DecidablePred Packet.KeepsRoutes :=
  fun p => inferInstanceAs (Decidable (p.type = .command → p.Complete ∧ _))

/-- ECUs are reached in the same way. -/
def SameRoutes (ecus ecus' : UInt8 → Ecu) : Prop :=
  ∀ ecuId, (ecus ecuId).protocol = (ecus' ecuId).protocol ∧
    (ecus ecuId).instIdx = (ecus' ecuId).instIdx

namespace Relay

/-- What the router has not sent yet of the packet that it works on. -/
def owed (cfg : Config) (ecus : UInt8 → Ecu) (r : Relay) : List CanSend :=
  match r.router with
  | .receive => []
  | .dispatch p => dataSends cfg ecus [p]
  | .sending p i =>
    ((cfg.pduDescriptors (p.id &&& ~~~pduIdMaskTypeData)).dests.drop i.toNat).flatMap
      fun ecuId => p.send (ecus ecuId)

def sent (cfg : Config) (r : Relay) : GatewayEvent → List CanSend
  | .pduTask =>
    match r.router with
    | .sending p i =>
      let desc := cfg.pduDescriptors (p.id &&& ~~~pduIdMaskTypeData)
      if i < desc.destCount then p.send (r.ecus (desc.dest i.toNat)) else []
    | _ => []
  | _ => []

end Relay

section
variable {cfg : Config} {ecus ecus' : UInt8 → Ecu} {r r' : Relay} {e : GatewayEvent}

theorem SameRoutes.send (h : SameRoutes ecus ecus') (p : Packet) (ecuId : UInt8) :
    p.send (ecus ecuId) = p.send (ecus' ecuId) := by
  unfold Packet.send
  rw [(h ecuId).1, (h ecuId).2]

/-- Versions and statuses are no routes. -/
theorem SameRoutes.parse (h : SameRoutes ecus ecus') {p : Packet}
    (hp : p.bytes 0 ≠ ecuCmdReqAll) : SameRoutes (p.parse cfg ecus) ecus' := by
  intro ecuId
  unfold Packet.parse
  by_cases hid : ecuId = p.ecuId
  · subst hid
    rw [Function.update_self]
    unfold parsedEcu
    rw [if_neg hp]
    split
    · exact h p.ecuId
    · split <;> exact h p.ecuId
  · rw [Function.update_of_ne hid]
    exact h ecuId

/-- The destinations from the turn `i` on. -/
theorem PduDesc.drop_dests {desc : PduDesc} {i : UInt8} (hi : i < desc.destCount) :
    desc.dests.drop i.toNat = desc.dest i.toNat :: desc.dests.drop (i + 1).toNat := by
  have hlt : i.toNat < desc.destCount.toNat := UInt8.lt_iff_toNat_lt.mp hi
  -- the counter does not wrap: it is below a `uint8_t`
  have hsucc : (i + 1).toNat = i.toNat + 1 := by
    have hcount := desc.destCount.toNat_lt
    rw [UInt8.toNat_add]
    apply Nat.mod_eq_of_lt
    show i.toNat + 1 < 256
    omega
  rw [hsucc]
  unfold PduDesc.dests
  rw [List.drop_eq_getElem_cons (by simpa using hlt)]
  simp

theorem PduDesc.drop_dests_of_le {desc : PduDesc} {i : UInt8} (hi : ¬ i < desc.destCount) :
    desc.dests.drop i.toNat = [] := by
  apply List.drop_of_length_le
  have hge := mt UInt8.lt_iff_toNat_lt.mpr hi
  simp only [PduDesc.dests, List.length_map, List.length_range]
  omega

theorem RelayMove.sends (h : RelayMove cfg r e r') : r'.sends = r.sends ++ r.sent cfg e := by
  cases h <;> simp [Relay.sent, *]

/-- The router sends what the packets that it takes ask for. -/
theorem RelayMove.flow_sends (h : RelayMove cfg r e r') (hsame : SameRoutes r.ecus ecus) :
    r.owed cfg ecus ++ dataSends cfg ecus (r.taken e) =
      r.sent cfg e ++ r'.owed cfg ecus := by
  cases h with
  | data p hrouter htype =>
      simp [Relay.owed, Relay.taken, Relay.sent, dataSends, packetSends, *]
  | send p i hrouter hi =>
      simp [Relay.owed, Relay.taken, Relay.sent, dataSends, hrouter, hi,
        PduDesc.drop_dests hi, hsame.send]
  | done p i hrouter hi =>
      simp [Relay.owed, Relay.taken, Relay.sent, dataSends, hrouter, hi,
        PduDesc.drop_dests_of_le hi]
  | _ => simp [Relay.owed, Relay.taken, Relay.sent, dataSends, *]

/-- What keeps the routes along a run. -/
structure Relay.Undisturbed (ecus : UInt8 → Ecu) (r : Relay) : Prop where
  routes : SameRoutes r.ecus ecus
  typed : ∀ p ∈ r.unparsed, p.type = .command
  keeps : r.All Packet.KeepsRoutes

theorem RelayMove.typed (h : RelayMove cfg r e r') (hr : ∀ p ∈ r.unparsed, p.type = .command) :
    ∀ p ∈ r'.unparsed, p.type = .command := by
  intro p hp
  have hmem : p ∈ r.unparsed ++ r.forwarded e := by
    rw [h.flow_commands]
    exact List.mem_append_right _ hp
  rcases List.mem_append.mp hmem with hmem | hmem
  · exact hr p hmem
  · have hfilter := (r.passedTo_sublist .command r.commands e).subset hmem
    exact of_decide_eq_true (List.mem_filter.mp hfilter).2

theorem RelayMove.routes (hmove : RelayMove cfg r e r') (h : r.Undisturbed ecus) :
    SameRoutes r'.ecus ecus := by
  cases hmove with
  | parse p hmanager =>
      have hp : p ∈ r.unparsed := by simp [Relay.unparsed, hmanager]
      exact h.routes.parse (h.keeps.manager p hmanager (h.typed p hp)).2
  | _ => exact h.routes

theorem Relay.Undisturbed.step (h : r.Undisturbed ecus) (he : e.Brings Packet.KeepsRoutes) :
    (relayStep cfg r e).Undisturbed ecus := by
  have hmove := relayStep_move cfg r e
  constructor
  case routes => exact hmove.routes h
  case typed => exact hmove.typed h.typed
  case keeps => exact h.keeps.step he

/-- What is sent in a run, with what is still owed, is what the packets taken
out of the inbox ask for. -/
theorem Relay.Undisturbed.run_sends (cfg : Config) (h : r.Undisturbed ecus) {es : List GatewayEvent}
    (hes : ∀ e ∈ es, e.Brings Packet.KeepsRoutes) :
    r.owed cfg ecus ++
        dataSends cfg ecus (Runs.trace (relayStep cfg) Relay.taken r es) =
      Runs.trace (relayStep cfg) (Relay.sent cfg) r es ++
        (es.foldl (relayStep cfg) r).owed cfg ecus := by
  unfold dataSends
  rw [Runs.trace_filter, Runs.trace_flatMap]
  apply Runs.trace_flow_of_inv (I := Relay.Undisturbed ecus) (Relay.owed cfg ecus) _ _ h hes
  · intro r e hr he
    exact hr.step he
  · intro r e hr
    exact (relayStep_move cfg r e).flow_sends hr.routes

theorem Gateway.relay_undisturbed (s : Gateway) : s.relay.Undisturbed s.ecuList := by
  constructor
  case routes => exact fun ecuId => ⟨rfl, rfl⟩
  case typed => exact fun p hp => nomatch hp
  case keeps => exact s.relay_all

end

/-- **Commands and acknowledgements do not disturb routing**: in every run on
any frames, of which the commands report versions or statuses or nothing,
whenever `PDU_Task` is between two PDUs it has sent exactly what the data
frames that left the queue ask for, by the list of ECUs at the start, in their
order. -/
theorem routing_undisturbed {cfg : Config} (L : EcuLayout cfg) {s : Gateway}
    (hstart : s.Start) (hmalloc : ∀ k, s.mem.heap.oom k = false) (es : List GatewayEvent)
    (hes : ∀ e ∈ es, e.Brings Packet.KeepsRoutes)
    (hidle : (es.foldl (gatewayStep cfg) s).pduTask = .receive) :
    (es.foldl (gatewayStep cfg) s).sends =
      dataSends cfg s.ecuList
        ((es.foldl (gatewayStep cfg) s).dequeued.map CanMessage.packet) := by
  have hcomplete : ∀ e ∈ es, e.Brings Packet.CommandComplete := by
    intro e he
    have hkeeps := hes e he
    cases e with
    | interrupt n frame => exact fun hcmd => (hkeeps hcmd).1
    | _ => trivial
  have hshows := (hstart.run_follows L hmalloc hcomplete).shows
  have hsends := Runs.foldl_append_trace Relay.sends
    (fun r e => (relayStep_move cfg r e).sends) s.relay es
  have howed : (es.foldl (relayStep cfg) s.relay).owed cfg s.ecuList = [] := by
    unfold Relay.owed
    rw [hshows.router, hidle]
    rfl
  have hrun := s.relay_undisturbed.run_sends cfg hes
  rw [howed, List.append_nil] at hrun
  rw [← hshows.sends, hsends, ← hrun, hshows.dequeued rfl]
  rfl

/-- Two data frames with a status and an acknowledgement in between. -/
theorem routing_undisturbed_four_frames :
    let es : List GatewayEvent :=
      [.interrupt 0 { id := 0x10000001, length := 3, data := fun _ => 7 }, .enqueue 0,
        .interrupt 0 { id := 0x08000003, length := 2, data := fun i => [4, 3].getD i 0 },
        .enqueue 0, .interrupt 0 { id := 0x04000002, length := 1, data := fun _ => 0xC3 },
        .enqueue 0, .interrupt 0 { id := 0x10000002, length := 1, data := fun _ => 8 },
        .enqueue 0, .pduTask, .pduTask, .pduTask, .pduTask, .pduTask, .pduTask, .pduTask,
        .gatewayTask, .gatewayTask, .pduTask, .pduTask, .pduTask, .pduTask, .pduTask,
        .pduTask, .pduTask]
    (es.foldl (gatewayStep frameworkConfig) Gateway.initial).sends =
      dataSends frameworkConfig ecuTable
        ((es.foldl (gatewayStep frameworkConfig) Gateway.initial).dequeued.map
          CanMessage.packet) := by
  apply routing_undisturbed frameworkLayout Gateway.initial_start fun _ => rfl
  · decide
  · rfl

end XcanRouter
