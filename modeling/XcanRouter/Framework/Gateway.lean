import XcanRouter.Base.Fifo
import XcanRouter.Base.Runs
import XcanRouter.Framework.Pdu

/-!
# The framework gateway as a machine

The receive interrupt and the two tasks of `_old/Framework` share nothing but
FreeRTOS queues, which they use in steps that do not interrupt one another. A
step of a task is what it does up to its next queue operation, or up to its
next send. Interrupts may nest, so that several frames can be between their
allocation and their queue at one time.

The kernel is not part of the repository. What is used of it is that a queue
is FIFO, copies its items in and out, and refuses an item when it is full.
-/

namespace XcanRouter

/-! ## Queues -/

structure RtosQueue where
  size : Nat
  items : List Pdu := []

/-- `xQueueIsQueueFullFromISR` -/
def RtosQueue.Full (q : RtosQueue) : Prop := q.size ≤ q.items.length

instance (q : RtosQueue) : Decidable q.Full :=
  inferInstanceAs (Decidable (_ ≤ _))

/-- `xQueueSendToBack`; `none` is `errQUEUE_FULL`. -/
def RtosQueue.send (q : RtosQueue) (pdu : Pdu) : Option RtosQueue :=
  if q.Full then none else some { q with items := q.items ++ [pdu] }

/-- `xQueueReceive`; `none` when there is no item to wait for. -/
def RtosQueue.receive (q : RtosQueue) : Option (Pdu × RtosQueue) :=
  match q.items with
  | [] => none
  | pdu :: items => some (pdu, { q with items := items })

theorem RtosQueue.send_eq_none {q : RtosQueue} {pdu : Pdu} :
    q.send pdu = none ↔ q.Full := by
  unfold RtosQueue.send
  split <;> simp_all

theorem RtosQueue.send_eq_some {q q' : RtosQueue} {pdu : Pdu} (h : q.send pdu = some q') :
    ¬ q.Full ∧ q' = { q with items := q.items ++ [pdu] } := by
  unfold RtosQueue.send at h
  split at h
  · cases h
  · rename_i hroom
    cases h
    exact ⟨hroom, rfl⟩

theorem RtosQueue.receive_eq_none {q : RtosQueue} : q.receive = none ↔ q.items = [] := by
  unfold RtosQueue.receive
  split <;> simp_all

theorem RtosQueue.receive_eq_some {q q' : RtosQueue} {pdu : Pdu}
    (h : q.receive = some (pdu, q')) :
    q.items = pdu :: q'.items ∧ q' = { q with items := q'.items } := by
  unfold RtosQueue.receive at h
  split at h
  · cases h
  · rename_i hitems
    cases h
    exact ⟨hitems, rfl⟩

/-! ## State -/

/-- Where `PDU_Task` is. -/
inductive PduTask where
  /-- At `xQueueReceive(PDU_queue)`. -/
  | receive
  /-- A PDU was received. -/
  | dispatch (pdu : Pdu)
  /-- In the loop over the destinations, with its counter. -/
  | sending (pdu : Pdu) (i : UInt8)

/-- Where `Gateway_Task` is. -/
inductive GatewayTask where
  /-- At `xQueueReceive(gateway_queue)`. -/
  | receive
  /-- A PDU was received. -/
  | parse (pdu : Pdu)

structure Gateway where
  mem : Mem
  pduQueue : RtosQueue
  gatewayQueue : RtosQueue
  fwUpdateQueue : RtosQueue
  /-- The activations of the interrupt that have built their PDU. -/
  isr : Nat → Option (CanMessage × Pdu) := fun _ => none
  pduTask : PduTask := .receive
  gatewayTask : GatewayTask := .receive
  ecuList : UInt8 → Ecu
  /-- The messages passed to `CAN_SendBlocking`, in order. -/
  sends : List CanSend := []
  /-- The frames that `PDU_queue` accepted, in order. -/
  accepted : List CanMessage := []

inductive GatewayEvent where
  /-- A frame arrives at the activation `n` of the interrupt. -/
  | interrupt (n : Nat) (frame : CanMessage)
  /-- The activation `n` goes on to its `xQueueSendToBackFromISR`. -/
  | enqueue (n : Nat)
  | pduTask
  | gatewayTask

/-! ## Steps -/

namespace Gateway

/-- `CAN_buildPDU` up to its send. -/
def interrupt (s : Gateway) (n : Nat) (frame : CanMessage) : Gateway :=
  if s.pduQueue.Full ∨ (s.isr n).isSome then s
  else
    let built := canBuildPdu frame s.mem
    { s with
      mem := built.2
      isr := Function.update s.isr n (some (frame, built.1)) }

/-- `CAN_buildPDU` from its send on. -/
def enqueue (s : Gateway) (n : Nat) : Gateway :=
  match s.isr n with
  | none => s
  | some (frame, pdu) =>
    match s.pduQueue.send pdu with
    | none =>
      { s with
        mem := (pduDiscardPdu pdu s.mem).2
        isr := Function.update s.isr n none }
    | some q =>
      { s with
        pduQueue := q
        isr := Function.update s.isr n none
        accepted := s.accepted ++ [frame] }

/-- `PDU_Task` discards the PDU it works on. -/
def discard (s : Gateway) (pdu : Pdu) : Gateway :=
  { s with mem := (pduDiscardPdu pdu s.mem).2, pduTask := .receive }

/-- `PDU_Task` on a PDU it received, up to the loop over its destinations or
to the queue it is passed on to. -/
def dispatch (s : Gateway) (pdu : Pdu) : Gateway :=
  let s' := { s with mem := (pduPrintPdu pdu s.mem).2 }
  match pduType pdu.id with
  | .normal => { s' with pduTask := .sending pdu 0 }
  | .command =>
    match s.gatewayQueue.send pdu with
    | none => s'.discard pdu
    | some q => { s' with gatewayQueue := q, pduTask := .receive }
  | .firmware =>
    match s.fwUpdateQueue.send pdu with
    | none => s'.discard pdu
    | some q => { s' with fwUpdateQueue := q, pduTask := .receive }
  | .unknown => s'.discard pdu

/-- One turn of the loop over the destinations, or its end. -/
def sendNext (cfg : Config) (s : Gateway) (pdu : Pdu) (i : UInt8) : Gateway :=
  let desc := cfg.pduDescriptors (pdu.id &&& ~~~pduIdMaskTypeData)
  if i < desc.destCount then
    let sent := ecuSendPdu s.ecuList (desc.dest i.toNat) pdu s.mem
    { s with
      mem := sent.2
      sends := s.sends ++ sent.1.toList
      pduTask := .sending pdu (i + 1) }
  else
    s.discard pdu

/-- A step of `PDU_Task`. -/
def stepPduTask (cfg : Config) (s : Gateway) : Gateway :=
  match s.pduTask with
  | .receive =>
    match s.pduQueue.receive with
    | none => s
    | some (pdu, q) => { s with pduQueue := q, pduTask := .dispatch pdu }
  | .dispatch pdu => s.dispatch pdu
  | .sending pdu i => s.sendNext cfg pdu i

/-- `Gateway_Task` on a PDU it received. What it then does with the status of
each ECU is a `switch` without effects. -/
def parse (cfg : Config) (s : Gateway) (pdu : Pdu) : Gateway :=
  if pdu.id &&& pduIdMaskTypeCmd ≠ 0 then
    let parsed := gwParsePdu cfg s.ecuList pdu s.mem
    { s with
      mem := (pduDiscardPdu pdu parsed.2).2
      ecuList := parsed.1
      gatewayTask := .receive }
  else
    -- the PDU is overwritten by the next one
    { s with gatewayTask := .receive }

/-- A step of `Gateway_Task`. -/
def stepGatewayTask (cfg : Config) (s : Gateway) : Gateway :=
  match s.gatewayTask with
  | .receive =>
    match s.gatewayQueue.receive with
    | none => s
    | some (pdu, q) => { s with gatewayQueue := q, gatewayTask := .parse pdu }
  | .parse pdu => s.parse cfg pdu

end Gateway

/-- A step of the gateway. A task that waits stays where it is. -/
def gatewayStep (cfg : Config) (s : Gateway) : GatewayEvent → Gateway
  | .interrupt n frame => s.interrupt n frame
  | .enqueue n => s.enqueue n
  | .pduTask => s.stepPduTask cfg
  | .gatewayTask => s.stepGatewayTask cfg

theorem dispatch_pduQueue (s : Gateway) (pdu : Pdu) :
    (s.dispatch pdu).pduQueue = s.pduQueue := by
  unfold Gateway.dispatch
  cases pduType pdu.id with
  | command => cases s.gatewayQueue.send pdu <;> rfl
  | firmware => cases s.fwUpdateQueue.send pdu <;> rfl
  | _ => rfl

theorem dispatch_pduTask (s : Gateway) (pdu : Pdu) :
    (s.dispatch pdu).pduTask = if pduType pdu.id = .normal then .sending pdu 0 else .receive := by
  unfold Gateway.dispatch
  cases pduType pdu.id with
  | command => cases s.gatewayQueue.send pdu <;> rfl
  | firmware => cases s.fwUpdateQueue.send pdu <;> rfl
  | _ => rfl

/-- The gateway once its queues and tasks were created. -/
structure Gateway.Start (s : Gateway) : Prop where
  pduQueue : s.pduQueue.items = []
  gatewayQueue : s.gatewayQueue.items = []
  fwUpdateQueue : s.fwUpdateQueue.items = []
  isr : ∀ n, s.isr n = none
  pduTask : s.pduTask = .receive
  gatewayTask : s.gatewayTask = .receive
  sends : s.sends = []
  accepted : s.accepted = []
  frees : s.mem.heap.frees = []
  log : s.mem.log = []

/-- The gateway after `PDU_initialise` and `GW_initialise`, with the sizes in
config.h. -/
def Gateway.initial : Gateway where
  mem := {}
  pduQueue := { size := 5 }
  gatewayQueue := { size := 10 }
  fwUpdateQueue := { size := 10 }
  ecuList := ecuTable

theorem Gateway.initial_start : Gateway.initial.Start := by
  constructor <;> first | rfl | exact fun _ => rfl

end XcanRouter
