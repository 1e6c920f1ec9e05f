import XcanRouter.Base.Channel
import XcanRouter.Base.Trace
import XcanRouter.Framework.Ownership
import XcanRouter.Framework.PayloadBounds
import XcanRouter.Framework.Routing

/-!
# The gateway without its memory

What the gateway is for can be said without allocations: frames are values
that wait in bounded channels, the first of which feeds the two others. This
module has that machine, the relay, and shows that the gateway of the code
follows it step by step. A buffer that was read after it was reused, or freed
by one task and read by another, would show as a packet that changed on its
way.
-/

namespace XcanRouter

/-! ## Packets -/

/-- What a frame or a PDU says, with as many bytes as a `uint8_t` can count. -/
@[ext] structure Packet where
  id : UInt32
  data : List UInt8
  counted : data.length < 256
deriving DecidableEq

namespace Packet

def length (p : Packet) : UInt8 := UInt8.ofNat p.data.length

def type (p : Packet) : PduType := pduType p.id

def ecuId (p : Packet) : UInt8 := (p.id &&& pduIdMaskEcuId).toUInt8

def bytes (p : Packet) : Bytes := fun i => p.data.getD i 0

/-- The list of ECUs after a command. -/
def parse (cfg : Config) (ecus : UInt8 → Ecu) (p : Packet) : UInt8 → Ecu :=
  Function.update ecus p.ecuId (parsedEcu cfg p.bytes (ecus p.ecuId))

/-- What is sent of a packet for an ECU. -/
def send (ecu : Ecu) (p : Packet) : List CanSend :=
  if ecu.protocol = protocolCan then
    [{ instIdx := ecu.instIdx, id := p.id, length := p.length, payload := p.data }]
  else []

/-- It has the bytes that are read of a command. -/
def Complete (p : Packet) : Prop := commandReads (p.bytes 0) ≤ p.data.length

instance (p : Packet) : Decidable p.Complete :=
  inferInstanceAs (Decidable (_ ≤ _))

end Packet

def CanMessage.packet (frame : CanMessage) : Packet where
  id := frame.id
  data := frame.payload
  counted := by
    rw [CanMessage.payload, List.length_map, List.length_range]
    exact frame.length.toNat_lt

/-- What the PDU says in memory `m`. -/
def Pdu.packet (m : Mem) (pdu : Pdu) : Packet where
  id := pdu.id
  data := (List.range pdu.length.toNat).map (m.byteAt (pdu.byte 0))
  counted := by
    rw [List.length_map, List.length_range]
    exact pdu.length.toNat_lt

/-! ## The relay -/

/-- Where the router of the relay is. -/
inductive RelayTask where
  | receive
  | dispatch (p : Packet)
  | sending (p : Packet) (i : UInt8)

structure Relay where
  /-- The packets of the activations of the interrupt. -/
  built : Nat → Option Packet := fun _ => none
  inbox : Channel Packet
  commands : Channel Packet
  updates : Channel Packet
  router : RelayTask := .receive
  /-- The command that is worked on. -/
  manager : Option Packet := none
  ecus : UInt8 → Ecu
  sends : List CanSend := []
  /-- The packets that the inbox took in, in order. -/
  arrived : List Packet := []

namespace Relay

def interrupt (r : Relay) (n : Nat) (p : Packet) : Relay :=
  if r.inbox.Full ∨ (r.built n).isSome then r
  else { r with built := Function.update r.built n (some p) }

def enqueue (r : Relay) (n : Nat) : Relay :=
  match r.built n with
  | none => r
  | some p =>
    { r with
      inbox := r.inbox.enter p
      built := Function.update r.built n none
      arrived := r.arrived ++ r.inbox.entered p }

def dispatch (r : Relay) (p : Packet) : Relay :=
  match p.type with
  | .normal => { r with router := .sending p 0 }
  | .command => { r with commands := r.commands.enter p, router := .receive }
  | .firmware => { r with updates := r.updates.enter p, router := .receive }
  | .unknown => { r with router := .receive }

def sendNext (cfg : Config) (r : Relay) (p : Packet) (i : UInt8) : Relay :=
  let desc := cfg.pduDescriptors (p.id &&& ~~~pduIdMaskTypeData)
  if i < desc.destCount then
    { r with
      sends := r.sends ++ p.send (r.ecus (desc.dest i.toNat))
      router := .sending p (i + 1) }
  else
    { r with router := .receive }

def stepRouter (cfg : Config) (r : Relay) : Relay :=
  match r.router with
  | .receive =>
    match r.inbox.items with
    | [] => r
    | p :: _ => { r with inbox := r.inbox.advance, router := .dispatch p }
  | .dispatch p => r.dispatch p
  | .sending p i => r.sendNext cfg p i

def stepManager (cfg : Config) (r : Relay) : Relay :=
  match r.manager with
  | none =>
    match r.commands.items with
    | [] => r
    | p :: _ => { r with commands := r.commands.advance, manager := some p }
  | some p => { r with ecus := p.parse cfg r.ecus, manager := none }

end Relay

def relayStep (cfg : Config) (r : Relay) : GatewayEvent → Relay
  | .interrupt n frame => r.interrupt n frame.packet
  | .enqueue n => r.enqueue n
  | .pduTask => r.stepRouter cfg
  | .gatewayTask => r.stepManager cfg

/-- A relay with the tables and the sizes of a gateway that starts. -/
def Gateway.relay (s : Gateway) : Relay where
  inbox := .empty s.pduQueue.size
  commands := .empty s.gatewayQueue.size
  updates := .empty s.fwUpdateQueue.size
  ecus := s.ecuList

/-! ## What packets a relay holds -/

/-- Every packet of the relay satisfies `P`. -/
structure Relay.All (P : Packet → Prop) (r : Relay) : Prop where
  built : ∀ n p, r.built n = some p → P p
  inbox : ∀ p ∈ r.inbox.items, P p
  commands : ∀ p ∈ r.commands.items, P p
  dispatch : ∀ p, r.router = .dispatch p → P p
  sending : ∀ p i, r.router = .sending p i → P p
  manager : ∀ p, r.manager = some p → P p

/-- The frames that arrive satisfy `P`. -/
def GatewayEvent.Brings (P : Packet → Prop) : GatewayEvent → Prop
  | .interrupt _ frame => P frame.packet
  | _ => True

instance (P : Packet → Prop) [DecidablePred P] : DecidablePred (GatewayEvent.Brings P)
  | .interrupt _ frame => inferInstanceAs (Decidable (P frame.packet))
  | .enqueue _ => .isTrue trivial
  | .pduTask => .isTrue trivial
  | .gatewayTask => .isTrue trivial

section
variable {cfg : Config} {r : Relay} {P : Packet → Prop}

theorem Gateway.relay_all (s : Gateway) : s.relay.All P := by
  constructor
  case built => exact fun _ _ hp => nomatch hp
  case inbox => exact fun _ hp => nomatch hp
  case commands => exact fun _ hp => nomatch hp
  case dispatch => exact fun _ hp => nomatch hp
  case sending => exact fun _ _ hp => nomatch hp
  case manager => exact fun _ hp => nomatch hp

theorem Relay.All.interrupt {n : Nat} {p : Packet} (h : r.All P) (hp : P p) :
    (r.interrupt n p).All P := by
  unfold Relay.interrupt
  split
  · exact h
  · have hbuilt : ∀ k q, Function.update r.built n (some p) k = some q → P q := by
      intro k q hq
      by_cases hk : k = n
      · subst hk
        rw [Function.update_self] at hq
        cases hq
        exact hp
      · rw [Function.update_of_ne hk] at hq
        exact h.built k q hq
    exact { h with built := hbuilt }

theorem Relay.All.enqueue {n : Nat} (h : r.All P) : (r.enqueue n).All P := by
  unfold Relay.enqueue
  cases hp : r.built n with
  | none => exact h
  | some p =>
      have hbuilt : ∀ k q, Function.update r.built n none k = some q → P q := by
        intro k q hq
        by_cases hk : k = n
        · subst hk
          rw [Function.update_self] at hq
          cases hq
        · rw [Function.update_of_ne hk] at hq
          exact h.built k q hq
      have hinbox : ∀ q ∈ (r.inbox.enter p).items, P q := by
        intro q hq
        rcases Channel.mem_enter hq with hq | rfl
        · exact h.inbox q hq
        · exact h.built n q hp
      exact { h with built := hbuilt, inbox := hinbox }

/-- The router waits. -/
theorem Relay.All.receive (h : r.All P) : Relay.All P { r with router := .receive } :=
  { h with
    dispatch := fun _ hp => nomatch hp
    sending := fun _ _ hp => nomatch hp }

theorem Relay.All.stepRouter (h : r.All P) : (r.stepRouter cfg).All P := by
  unfold Relay.stepRouter
  cases hrouter : r.router with
  | receive =>
      cases hitems : r.inbox.items with
      | nil => exact h
      | cons p l =>
          have hinbox : ∀ q ∈ r.inbox.advance.items, P q :=
            fun q hq => h.inbox q (Channel.mem_advance hq)
          have hdispatch : ∀ q, RelayTask.dispatch p = .dispatch q → P q := by
            intro q hq
            cases hq
            exact h.inbox p (by simp [hitems])
          exact
            { h with
              inbox := hinbox
              dispatch := hdispatch
              sending := fun _ _ hq => nomatch hq }
  | dispatch p =>
      have hp : P p := h.dispatch p hrouter
      show (r.dispatch p).All P
      unfold Relay.dispatch
      cases p.type with
      | normal =>
          have hsending : ∀ q i, RelayTask.sending p 0 = .sending q i → P q := by
            intro q i hq
            cases hq
            exact hp
          exact
            { h with
              dispatch := fun _ hq => nomatch hq
              sending := hsending }
      | command =>
          have hcommands : ∀ q ∈ (r.commands.enter p).items, P q := by
            intro q hq
            rcases Channel.mem_enter hq with hq | rfl
            · exact h.commands q hq
            · exact hp
          exact { h.receive with commands := hcommands }
      | firmware => exact { h.receive with }
      | unknown => exact h.receive
  | sending p i =>
      show (r.sendNext cfg p i).All P
      unfold Relay.sendNext
      dsimp only
      split
      · have hsending : ∀ q k, RelayTask.sending p (i + 1) = .sending q k → P q := by
          intro q k hq
          cases hq
          exact h.sending p i hrouter
        exact
          { h with
            dispatch := fun _ hq => nomatch hq
            sending := hsending }
      · exact h.receive

theorem Relay.All.stepManager (h : r.All P) : (r.stepManager cfg).All P := by
  unfold Relay.stepManager
  cases hmanager : r.manager with
  | none =>
      cases hitems : r.commands.items with
      | nil => exact h
      | cons p l =>
          have hcommands : ∀ q ∈ r.commands.advance.items, P q :=
            fun q hq => h.commands q (Channel.mem_advance hq)
          have hnext : ∀ q, some p = some q → P q := by
            intro q hq
            cases hq
            exact h.commands p (by simp [hitems])
          exact { h with commands := hcommands, manager := hnext }
  | some p => exact { h with manager := fun _ hq => nomatch hq }

/-- What is true of the frames that arrive is true of the packets held. -/
theorem Relay.All.step (h : r.All P) {e : GatewayEvent} (he : e.Brings P) :
    (relayStep cfg r e).All P := by
  cases e with
  | interrupt n frame => exact h.interrupt he
  | enqueue n => exact h.enqueue
  | pduTask => exact h.stepRouter
  | gatewayTask => exact h.stepManager

end

/-! ## The gateway follows the relay -/

/-- The queue has the packets of the channel, in memory `m`. -/
def RtosQueue.Shows (q : RtosQueue) (m : Mem) (c : Channel Packet) : Prop :=
  c.cap = q.size ∧ c.items = q.items.map (Pdu.packet m)

def PduTask.view (m : Mem) : PduTask → RelayTask
  | .receive => .receive
  | .dispatch pdu => .dispatch (pdu.packet m)
  | .sending pdu i => .sending (pdu.packet m) i

/-- The PDUs of the gateway are the packets of the relay, in memory `m`. -/
structure Gateway.Shows (m : Mem) (s : Gateway) (r : Relay) : Prop where
  built : ∀ n, r.built n = (s.isr n).map fun held => held.2.packet m
  frames : ∀ n frame pdu, s.isr n = some (frame, pdu) → pdu.packet m = frame.packet
  inbox : s.pduQueue.Shows m r.inbox
  commands : s.gatewayQueue.Shows m r.commands
  updates : s.fwUpdateQueue.Shows m r.updates
  router : r.router = s.pduTask.view m
  manager : r.manager = s.gatewayTask.pdus.head?.map (Pdu.packet m)
  ecus : r.ecus = s.ecuList
  sends : r.sends = s.sends
  arrived : r.arrived = s.accepted.map CanMessage.packet

/-- A command has the bytes that are read of it. -/
def Packet.CommandComplete (p : Packet) : Prop := p.type = .command → p.Complete

instance : DecidablePred Packet.CommandComplete :=
  fun p => inferInstanceAs (Decidable (p.type = .command → p.Complete))

section
variable {cfg : Config} {m m' : Mem} {s : Gateway} {r : Relay} {q q' : RtosQueue}
variable {c : Channel Packet} {pdu : Pdu} {base : Ptr}

theorem Pdu.packet_of_byte (h : ∀ b, pdu.data = some b → m'.byte b = m.byte b) :
    pdu.packet m' = pdu.packet m := by
  apply Packet.ext
  · rfl
  · apply List.map_congr_left
    intro i _
    cases hdata : pdu.data with
    | none => simp [Mem.byteAt, Pdu.byte, hdata]
    | some b => simp [Mem.byteAt, Pdu.byte, hdata, h b hdata]

theorem Pdu.packet_length (m : Mem) (pdu : Pdu) : (pdu.packet m).length = pdu.length := by
  simp [Packet.length, Pdu.packet]

theorem Pdu.packet_bytes {i : Nat} (hi : i < pdu.length.toNat) :
    (pdu.packet m).bytes i = m.byteAt (pdu.byte 0) i := by
  simp [Packet.bytes, Pdu.packet, hi]

theorem Copies.packet {frame : CanMessage} (h : Copies m frame pdu) :
    pdu.packet m = frame.packet := by
  obtain ⟨b, hb, hbytes⟩ := h.data
  apply Packet.ext
  · exact h.id
  · show (List.range pdu.length.toNat).map (m.byteAt (pdu.byte 0)) = frame.payload
    rw [h.length]
    apply List.map_congr_left
    intro i hi
    simp [Mem.byteAt, Pdu.byte, hb, hbytes i (List.mem_range.mp hi)]

/-! ### Queues -/

theorem RtosQueue.Shows.full_iff (h : q.Shows m c) : c.Full ↔ q.Full := by
  unfold Channel.Full RtosQueue.Full
  rw [h.1, h.2, List.length_map]

theorem RtosQueue.Shows.entered_none (h : q.Shows m c) (hsend : q.send pdu = none)
    (p : Packet) : c.entered p = [] :=
  Channel.entered_of_full (h.full_iff.mpr (RtosQueue.send_eq_none.mp hsend)) p

theorem RtosQueue.Shows.entered_some (h : q.Shows m c) (hsend : q.send pdu = some q')
    (p : Packet) : c.entered p = [p] :=
  Channel.entered_of_room (mt h.full_iff.mp (RtosQueue.send_eq_some hsend).1) p

theorem RtosQueue.Shows.refuse (h : q.Shows m c) (hsend : q.send pdu = none)
    (p : Packet) : q.Shows m (c.enter p) := by
  refine ⟨h.1, ?_⟩
  rw [Channel.enter_items, h.entered_none hsend, List.append_nil]
  exact h.2

theorem RtosQueue.Shows.accept (h : q.Shows m c) (hsend : q.send pdu = some q') :
    q'.Shows m (c.enter (pdu.packet m)) := by
  refine ⟨?_, ?_⟩
  · rw [(RtosQueue.send_eq_some hsend).2]
    exact h.1
  · rw [Channel.enter_items, h.entered_some hsend, (RtosQueue.send_eq_some hsend).2, h.2,
      List.map_append, List.map_singleton]

theorem RtosQueue.Shows.receive_none (h : q.Shows m c) (hrecv : q.receive = none) :
    c.items = [] := by
  rw [h.2, RtosQueue.receive_eq_none.mp hrecv, List.map_nil]

theorem RtosQueue.Shows.receive_some (h : q.Shows m c) (hrecv : q.receive = some (pdu, q')) :
    c.items = pdu.packet m :: q'.items.map (Pdu.packet m) ∧ q'.Shows m c.advance := by
  obtain ⟨hitems, hq⟩ := RtosQueue.receive_eq_some hrecv
  have hc : c.items = pdu.packet m :: q'.items.map (Pdu.packet m) := by
    rw [h.2, hitems, List.map_cons]
  refine ⟨hc, ?_, ?_⟩
  · rw [hq]
    exact h.1
  · rw [Channel.advance_items, hc, List.tail_cons]

/-! ### Steps -/

theorem map_packet_of_byte {pdus : List Pdu}
    (h : ∀ pdu ∈ pdus, ∀ b, pdu.data = some b → m'.byte b = m.byte b) :
    pdus.map (Pdu.packet m') = pdus.map (Pdu.packet m) :=
  List.map_congr_left fun pdu hpdu => Pdu.packet_of_byte (h pdu hpdu)

/-- What a gateway shows survives a step, which writes to a new block only. -/
theorem Gateway.Shows.of_byte (h : s.Shows s.mem r) (howned : s.Owned base)
    (hbyte : ∀ b, b ≠ s.mem.heap.brk → m'.byte b = s.mem.byte b) : s.Shows m' r := by
  have hkept : ∀ i, ∀ pdu ∈ s.pdus.items i, ∀ b, pdu.data = some b →
      m'.byte b = s.mem.byte b := by
    intro i pdu hpdu b hb
    apply hbyte b
    exact Nat.ne_of_lt (howned.custody.token_lt hpdu hb).2
  constructor
  case built =>
    intro n
    rw [h.built n]
    cases hisr : s.isr n with
    | none => rfl
    | some held =>
        have hmem : held.2 ∈ s.pdus.items (.isr n) := by
          simp [Gateway.pdus, Gateway.pdusAt, hisr]
        exact congrArg some (Pdu.packet_of_byte (hkept (.isr n) held.2 hmem)).symm
  case frames =>
    intro n frame pdu hisr
    rw [← h.frames n frame pdu hisr]
    apply Pdu.packet_of_byte
    apply hkept (.isr n)
    simp [Gateway.pdus, Gateway.pdusAt, hisr]
  case inbox => exact ⟨h.inbox.1, h.inbox.2.trans (map_packet_of_byte (hkept .pduQueue)).symm⟩
  case commands =>
    exact ⟨h.commands.1, h.commands.2.trans (map_packet_of_byte (hkept .gatewayQueue)).symm⟩
  case updates =>
    exact ⟨h.updates.1, h.updates.2.trans (map_packet_of_byte (hkept .fwUpdateQueue)).symm⟩
  case router =>
    have htask := hkept .pduTask
    rw [h.router]
    cases hs : s.pduTask with
    | receive => rfl
    | dispatch pdu =>
        have hpdu := htask pdu (by simp [Gateway.pdus, Gateway.pdusAt, hs, PduTask.pdus])
        exact congrArg RelayTask.dispatch (Pdu.packet_of_byte hpdu).symm
    | sending pdu i =>
        have hpdu := htask pdu (by simp [Gateway.pdus, Gateway.pdusAt, hs, PduTask.pdus])
        exact congrArg (RelayTask.sending · i) (Pdu.packet_of_byte hpdu).symm
  case manager =>
    have htask := hkept .gatewayTask
    rw [h.manager]
    cases hs : s.gatewayTask with
    | receive => rfl
    | parse pdu =>
        have hpdu := htask pdu (by simp [Gateway.pdus, Gateway.pdusAt, hs, GatewayTask.pdus])
        exact congrArg some (Pdu.packet_of_byte hpdu).symm
  case ecus => exact h.ecus
  case sends => exact h.sends
  case arrived => exact h.arrived

theorem Gateway.Shows.interrupt {n : Nat} {frame : CanMessage}
    (h : s.Shows (s.interrupt n frame).mem r)
    (hoom : s.mem.heap.oom s.mem.heap.calls = false) :
    (s.interrupt n frame).Shows (s.interrupt n frame).mem (r.interrupt n frame.packet) := by
  have hidle : (r.inbox.Full ∨ (r.built n).isSome) ↔ (s.pduQueue.Full ∨ (s.isr n).isSome) := by
    rw [h.inbox.full_iff, h.built n, Option.isSome_map]
  revert h
  unfold Gateway.interrupt Relay.interrupt
  split
  · rename_i hs
    rw [if_pos (hidle.mpr hs)]
    exact id
  · rename_i hs
    rw [if_neg (mt hidle.mp hs)]
    intro h
    have hcopy := (canBuildPdu_copies frame hoom).packet
    have hbuilt : ∀ k, Function.update r.built n (some frame.packet) k =
        (Function.update s.isr n (some (frame, (canBuildPdu frame s.mem).1)) k).map
          fun held => held.2.packet (canBuildPdu frame s.mem).2 := by
      intro k
      by_cases hk : k = n
      · subst hk
        rw [Function.update_self, Function.update_self]
        exact congrArg some hcopy.symm
      · rw [Function.update_of_ne hk, Function.update_of_ne hk]
        exact h.built k
    have hframes : ∀ k frame' pdu,
        Function.update s.isr n (some (frame, (canBuildPdu frame s.mem).1)) k =
            some (frame', pdu) →
          pdu.packet (canBuildPdu frame s.mem).2 = frame'.packet := by
      intro k frame' pdu hisr
      by_cases hk : k = n
      · subst hk
        rw [Function.update_self] at hisr
        cases hisr
        exact hcopy
      · rw [Function.update_of_ne hk] at hisr
        exact h.frames k frame' pdu hisr
    exact { h with built := hbuilt, frames := hframes }

theorem Gateway.Shows.enqueue {n : Nat} (h : s.Shows (s.enqueue n).mem r) :
    (s.enqueue n).Shows (s.enqueue n).mem (r.enqueue n) := by
  revert h
  unfold Gateway.enqueue Relay.enqueue
  cases hisr : s.isr n with
  | none =>
      intro h
      have hnone : r.built n = none := by rw [h.built n, hisr, Option.map_none]
      rw [hnone]
      exact h
  | some held =>
      obtain ⟨frame, pdu⟩ := held
      have hdone : ∀ m', (∀ k, r.built k = (s.isr k).map fun held => held.2.packet m') →
          ∀ k, Function.update r.built n none k =
            (Function.update s.isr n none k).map fun held => held.2.packet m' := by
        intro m' hbuilt k
        by_cases hk : k = n
        · subst hk
          rw [Function.update_self, Function.update_self, Option.map_none]
        · rw [Function.update_of_ne hk, Function.update_of_ne hk]
          exact hbuilt k
      have hsome : ∀ m', s.Shows m' r → r.built n = some (pdu.packet m') := by
        intro m' h
        rw [h.built n, hisr, Option.map_some]
      dsimp only
      cases hsend : s.pduQueue.send pdu with
      | none =>
          intro h
          rw [hsome _ h]
          dsimp only
          rw [h.inbox.entered_none hsend, List.append_nil]
          exact
            { h with
              built := hdone _ h.built
              frames := fun k frame' pdu' hk => h.frames k frame' pdu' (isr_done hk)
              inbox := h.inbox.refuse hsend _ }
      | some q =>
          intro h
          rw [hsome _ h]
          dsimp only
          have harrived : r.arrived ++ r.inbox.entered (pdu.packet s.mem) =
              (s.accepted ++ [frame]).map CanMessage.packet := by
            rw [h.inbox.entered_some hsend, h.frames n frame pdu hisr, h.arrived,
              List.map_append, List.map_singleton]
          exact
            { h with
              built := hdone _ h.built
              frames := fun k frame' pdu' hk => h.frames k frame' pdu' (isr_done hk)
              inbox := h.inbox.accept hsend
              arrived := harrived }

theorem Gateway.Shows.dispatch (h : s.Shows (s.dispatch pdu).mem r) :
    (s.dispatch pdu).Shows (s.dispatch pdu).mem
      (r.dispatch (pdu.packet (s.dispatch pdu).mem)) := by
  have htype : ∀ m, (pdu.packet m).type = pduType pdu.id := fun _ => rfl
  revert h
  unfold Gateway.dispatch Relay.dispatch
  dsimp only
  rw [htype]
  cases pduType pdu.id with
  | normal =>
      intro h
      exact { h with router := rfl }
  | command =>
      cases hsend : s.gatewayQueue.send pdu with
      | none =>
          intro h
          exact { h with router := rfl, commands := h.commands.refuse hsend _ }
      | some q =>
          intro h
          exact { h with router := rfl, commands := h.commands.accept hsend }
  | firmware =>
      cases hsend : s.fwUpdateQueue.send pdu with
      | none =>
          intro h
          exact { h with router := rfl, updates := h.updates.refuse hsend _ }
      | some q =>
          intro h
          exact { h with router := rfl, updates := h.updates.accept hsend }
  | unknown =>
      intro h
      exact { h with router := rfl }

theorem ecuSendPdu_packet (ecuList : UInt8 → Ecu) (ecuId : UInt8) (pdu : Pdu) (m : Mem) :
    (ecuSendPdu ecuList ecuId pdu m).1.toList = (pdu.packet m).send (ecuList ecuId) := by
  unfold Packet.send
  split
  · rename_i hcan
    rw [ecuSendPdu_can hcan, Pdu.packet_length]
    simp [sendMsg, Pdu.packet]
  · rename_i hcan
    simp [ecuSendPdu, hcan]

theorem Gateway.Shows.sendNext {i : UInt8} (h₀ : s.Shows s.mem r)
    (h : s.Shows (s.sendNext cfg pdu i).mem r) (htask : s.pduTask = .sending pdu i) :
    (s.sendNext cfg pdu i).Shows (s.sendNext cfg pdu i).mem
      (r.sendNext cfg (pdu.packet (s.sendNext cfg pdu i).mem) i) := by
  have hsame : pdu.packet (s.sendNext cfg pdu i).mem = pdu.packet s.mem := by
    have hrouter := h.router.symm.trans h₀.router
    rw [htask] at hrouter
    exact (RelayTask.sending.inj hrouter).1
  have hid : ∀ m, (pdu.packet m).id = pdu.id := fun _ => rfl
  revert h hsame
  unfold Gateway.sendNext Relay.sendNext
  dsimp only
  rw [hid]
  split
  · intro h hsame
    have hsends : ∀ ecuId, r.sends ++ (pdu.packet s.mem).send (r.ecus ecuId) =
        s.sends ++ (ecuSendPdu s.ecuList ecuId pdu s.mem).1.toList := by
      intro ecuId
      rw [ecuSendPdu_packet, h.sends, h.ecus]
    rw [← hsame] at hsends
    exact { h with router := rfl, sends := hsends _ }
  · intro h _
    exact { h with router := rfl }

theorem Gateway.Shows.stepPduTask (h₀ : s.Shows s.mem r)
    (h : s.Shows (s.stepPduTask cfg).mem r) :
    (s.stepPduTask cfg).Shows (s.stepPduTask cfg).mem (r.stepRouter cfg) := by
  have hrouter := h.router
  revert h hrouter
  unfold Gateway.stepPduTask Relay.stepRouter
  cases htask : s.pduTask with
  | receive =>
      cases hrecv : s.pduQueue.receive with
      | none =>
          intro h hrouter
          rw [hrouter]
          dsimp only [PduTask.view]
          rw [h.inbox.receive_none hrecv]
          exact h
      | some v =>
          obtain ⟨pdu, q⟩ := v
          intro h hrouter
          obtain ⟨hitems, hnext⟩ := h.inbox.receive_some hrecv
          rw [hrouter]
          dsimp only [PduTask.view]
          rw [hitems]
          exact { h with inbox := hnext, router := rfl }
  | dispatch pdu =>
      intro h hrouter
      rw [hrouter]
      exact h.dispatch
  | sending pdu i =>
      intro h hrouter
      rw [hrouter]
      exact h₀.sendNext h htask

/-- Only so many bytes of a command matter. -/
theorem parsedEcu_congr (L : EcuLayout cfg) {data data' : Bytes} (ecu : Ecu)
    (h : ∀ i < commandReads (data 0), data' i = data i) :
    parsedEcu cfg data' ecu = parsedEcu cfg data ecu := by
  have h0 : data' 0 = data 0 := by
    apply h 0
    unfold commandReads sizeofEcu
    split
    · omega
    · split <;> omega
  unfold parsedEcu
  rw [h0]
  unfold commandReads at h
  split
  · rename_i hall
    rw [if_pos hall] at h
    exact L.ofBytes_congr data' data h
  · rename_i hall
    rw [if_neg hall] at h
    split
    · rename_i hfwver
      rw [if_pos (.inl hfwver)] at h
      rw [h 1 (by omega)]
    · split
      · rename_i hstatus
        rw [if_pos (.inr hstatus)] at h
        rw [h 1 (by omega)]
      · rfl

/-- A complete command is parsed as a packet. -/
theorem gwParsePdu_packet (L : EcuLayout cfg) (ecuList : UInt8 → Ecu)
    (h : (pdu.packet m).Complete) :
    (gwParsePdu cfg ecuList pdu m).1 = (pdu.packet m).parse cfg ecuList := by
  have hlength : (pdu.packet m).data.length = pdu.length.toNat := by
    simp [Pdu.packet]
  rw [gwParsePdu_eq]
  unfold Packet.parse
  have hparsed : parsedEcu cfg (m.byteAt (pdu.byte 0)) (ecuList pdu.ecuId) =
      parsedEcu cfg (pdu.packet m).bytes (ecuList pdu.ecuId) := by
    apply parsedEcu_congr L
    intro i hi
    rw [Pdu.packet_bytes]
    unfold Packet.Complete at h
    omega
  rw [hparsed]
  rfl

theorem Gateway.Shows.stepGatewayTask (L : EcuLayout cfg) (hsane : s.Sane)
    (hr : r.All Packet.CommandComplete) (h₀ : s.Shows s.mem r)
    (h : s.Shows (s.stepGatewayTask cfg).mem r) :
    (s.stepGatewayTask cfg).Shows (s.stepGatewayTask cfg).mem (r.stepManager cfg) := by
  have hmanager := h.manager
  revert h hmanager
  unfold Gateway.stepGatewayTask Relay.stepManager
  cases htask : s.gatewayTask with
  | receive =>
      cases hrecv : s.gatewayQueue.receive with
      | none =>
          intro h hmanager
          rw [hmanager]
          dsimp only [GatewayTask.pdus, List.head?_nil, Option.map_none]
          rw [h.commands.receive_none hrecv]
          exact h
      | some v =>
          obtain ⟨pdu, q⟩ := v
          intro h hmanager
          obtain ⟨hitems, hnext⟩ := h.commands.receive_some hrecv
          rw [hmanager]
          dsimp only [GatewayTask.pdus, List.head?_nil, Option.map_none]
          rw [hitems]
          exact { h with commands := hnext, manager := rfl }
  | parse pdu =>
      have htype : pduType pdu.id = .command := by
        refine (hsane .gatewayTask pdu ?_).command (.inr rfl)
        simp [Gateway.pdus, Gateway.pdusAt, htask, GatewayTask.pdus]
      have hshown : r.manager = some (pdu.packet s.mem) := by
        rw [h₀.manager, htask]
        rfl
      have hcomplete := hr.manager _ hshown htype
      have hcmd := (pduType_eq_command.mp htype).2
      intro h _
      rw [hshown]
      show Gateway.Shows _ (s.parse cfg pdu) _
      revert h
      unfold Gateway.parse
      rw [if_pos hcmd]
      intro h
      have hecus : (pdu.packet s.mem).parse cfg r.ecus =
          (gwParsePdu cfg s.ecuList pdu s.mem).1 := by
        rw [gwParsePdu_packet L _ hcomplete, h.ecus]
      exact { h with manager := rfl, ecus := hecus }

/-- **One step of the gateway is one step of the relay.** -/
theorem Gateway.Shows.step (L : EcuLayout cfg) (howned : s.Owned base)
    (hr : r.All Packet.CommandComplete) (h : s.Shows s.mem r) (e : GatewayEvent) :
    (gatewayStep cfg s e).Shows (gatewayStep cfg s e).mem (relayStep cfg r e) := by
  have h' := h.of_byte howned
    (gatewayStep_effect cfg howned.sane e (howned.hasMemory e)).byte
  cases e with
  | interrupt n frame => exact h'.interrupt (howned.granted _)
  | enqueue n => exact h'.enqueue
  | pduTask => exact h.stepPduTask h'
  | gatewayTask => exact h.stepGatewayTask L howned.sane hr h'

/-! ## Runs -/

/-- The relation between the two machines along runs. -/
structure Gateway.Follows (base : Ptr) (s : Gateway) (r : Relay) : Prop where
  owned : s.Owned base
  shows : s.Shows s.mem r
  complete : r.All Packet.CommandComplete

theorem Gateway.Follows.step (L : EcuLayout cfg) (h : s.Follows base r) {e : GatewayEvent}
    (he : e.Brings Packet.CommandComplete) :
    (gatewayStep cfg s e).Follows base (relayStep cfg r e) := by
  constructor
  case owned => exact h.owned.step e
  case shows => exact h.shows.step L h.owned h.complete e
  case complete => exact h.complete.step he

theorem Gateway.Start.follows (h : s.Start) (hmalloc : ∀ k, s.mem.heap.oom k = false) :
    s.Follows s.mem.heap.brk s.relay := by
  constructor
  case owned => exact h.owned hmalloc
  case shows =>
    constructor
    case built =>
      intro n
      rw [h.isr n]
      rfl
    case frames =>
      intro n frame pdu hisr
      rw [h.isr n] at hisr
      cases hisr
    case inbox => exact ⟨rfl, by rw [h.pduQueue]; rfl⟩
    case commands => exact ⟨rfl, by rw [h.gatewayQueue]; rfl⟩
    case updates => exact ⟨rfl, by rw [h.fwUpdateQueue]; rfl⟩
    case router =>
      rw [h.pduTask]
      rfl
    case manager =>
      rw [h.gatewayTask]
      rfl
    case ecus => rfl
    case sends => exact h.sends.symm
    case arrived =>
      rw [h.accepted]
      rfl
  case complete => exact s.relay_all

theorem Gateway.Start.run_follows (L : EcuLayout cfg) (h : s.Start)
    (hmalloc : ∀ k, s.mem.heap.oom k = false) {es : List GatewayEvent}
    (hes : ∀ e ∈ es, e.Brings Packet.CommandComplete) :
    (es.foldl (gatewayStep cfg) s).Follows s.mem.heap.brk
      (es.foldl (relayStep cfg) s.relay) := by
  apply Runs.foldl_of_simulation _ (h.follows hmalloc) hes
  intro s₁ r₁ e hfollows he
  exact hfollows.step L he

end

/-- **The gateway follows the relay**, for any frames whose commands have the
bytes that are read of them, any interleaving and any sizes of the queues:
after every run its queues and tasks have the packets of the relay, in order,
and its list of ECUs and its sends are those of the relay. -/
theorem gateway_follows_relay {cfg : Config} (L : EcuLayout cfg) {s : Gateway}
    (hstart : s.Start) (hmalloc : ∀ k, s.mem.heap.oom k = false) (es : List GatewayEvent)
    (hes : ∀ e ∈ es, e.Brings Packet.CommandComplete) :
    (es.foldl (gatewayStep cfg) s).Shows (es.foldl (gatewayStep cfg) s).mem
      (es.foldl (relayStep cfg) s.relay) :=
  (hstart.run_follows L hmalloc hes).shows

/-- A data frame, the status of ECU 3 and an acknowledgement, with the tasks in
between. -/
theorem gateway_follows_relay_mixed :
    let es : List GatewayEvent :=
      [.interrupt 0 { id := 0x10000001, length := 3, data := fun _ => 7 }, .enqueue 0,
        .interrupt 1 { id := 0x08000003, length := 2, data := fun i => [4, 3].getD i 0 },
        .pduTask, .enqueue 1, .pduTask, .pduTask,
        .interrupt 0 { id := 0x04000002, length := 1, data := fun _ => 0xC3 },
        .enqueue 0, .pduTask, .pduTask, .pduTask, .pduTask, .gatewayTask, .gatewayTask]
    (es.foldl (gatewayStep frameworkConfig) Gateway.initial).Shows
      (es.foldl (gatewayStep frameworkConfig) Gateway.initial).mem
      (es.foldl (relayStep frameworkConfig) Gateway.initial.relay) := by
  apply gateway_follows_relay frameworkLayout Gateway.initial_start fun _ => rfl
  decide

end XcanRouter
