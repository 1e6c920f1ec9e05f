import XcanRouter.Framework.Firmware
import XcanRouter.Framework.Ownership

/-!
# Updates next to the gateway

The replies to an update come in over the gateway: from the interrupt through
`PDU_queue` and `PDU_Task` to `fw_update_queue`, which is one queue for all
ECUs and is never emptied between updates. An update takes what is there.

The buffers of PDUs are numbered in the order in which the frames arrive, so
a frame arrived after a request when the number of its buffer is not below
the next number at the time of the request.
-/

namespace XcanRouter

/-! ## The phases of an update -/

inductive Phase where
  /-- Between an answered request and the next one. -/
  | idle
  | asked
  | got (pdu : Pdu)

def Phase.allows : Phase → FwCall → Prop
  | .idle, .send _ => True
  | .asked, .receive => True
  | .got _, .loadByte _ => True
  | .got _, .loadBytes _ _ => True
  | .got pdu, .free freed => freed = pdu
  | _, _ => False

def Phase.next : Phase → (c : FwCall) → c.Ans → Phase
  | _, .send _, _ => .asked
  | _, .receive, reply => reply.elim .idle .got
  | q, .loadByte _, _ => q
  | q, .loadBytes _ _, _ => q
  | _, .free _, _ => .idle

def Phase.stops : Phase → Prop
  | .asked => False
  | _ => True

/-- A program that asks before it waits, and frees what it got last. -/
def FwProg.Obeys (prog : FwProg Int) (q : Phase) : Prop :=
  Resumption.Conforms Phase.allows Phase.next Phase.stops q prog

section
variable {pdu : Pdu} {secureUpdate : Bool}

theorem obeys_return {q : Phase} (hq : q.stops) (rc : Int) :
    (pure rc : FwProg Int).Obeys q := hq

theorem obeys_send {msg : CanSend} {f : Unit → FwProg Int} (h : (f ()).Obeys .asked) :
    (FwProg.send msg >>= f).Obeys .idle := by
  apply Resumption.Conforms.perform
  · trivial
  · intro _
    exact h

theorem obeys_receive {f : Int × Pdu → FwProg Int} (hnone : (f (pdFalse, pdu)).Obeys .idle)
    (hsome : ∀ received, (f (pdTrue, received)).Obeys (.got received)) :
    (FwProg.receive pdu >>= f).Obeys .asked := by
  rw [FwProg.receive_bind]
  constructor
  · trivial
  · intro reply
    cases reply with
    | none => exact hnone
    | some received => exact hsome received

theorem obeys_loadByte {p : BytePtr} {f : UInt8 → FwProg Int}
    (h : ∀ v, (f v).Obeys (.got pdu)) : (FwProg.loadByte p >>= f).Obeys (.got pdu) := by
  apply Resumption.Conforms.perform
  · trivial
  · exact h

theorem obeys_loadBytes {p : BytePtr} {n : Nat} {f : Bytes → FwProg Int}
    (h : ∀ v, (f v).Obeys (.got pdu)) : (FwProg.loadBytes p n >>= f).Obeys (.got pdu) := by
  apply Resumption.Conforms.perform
  · trivial
  · exact h

theorem obeys_free {f : Unit → FwProg Int} (h : (f ()).Obeys .idle) :
    (FwProg.free pdu >>= f).Obeys (.got pdu) := by
  apply Resumption.Conforms.perform
  · rfl
  · intro _
    exact h

theorem obeys_awaitAck {flag : UInt8} {next : Pdu → FwProg Int}
    (hnext : ∀ pdu, (next pdu).Obeys .idle) : (awaitAck flag pdu next).Obeys .asked := by
  unfold awaitAck
  apply obeys_receive
  · exact obeys_return (q := .idle) trivial pdFalse
  · intro received
    dsimp only
    rw [if_neg (not_not_intro rfl)]
    apply obeys_loadByte
    intro v
    split
    · exact obeys_return (q := .got received) trivial pdTrue
    · exact obeys_free (hnext received)

theorem obeys_awaitChallenge {next : Bytes → Pdu → FwProg Int}
    (hnext : ∀ rnd pdu, (next rnd pdu).Obeys .idle) :
    (awaitChallenge secureUpdate pdu next).Obeys .asked := by
  unfold awaitChallenge
  apply obeys_receive
  · exact obeys_return (q := .idle) trivial pdFalse
  · intro received
    dsimp only
    rw [if_neg (not_not_intro rfl)]
    split
    · apply obeys_loadBytes
      intro rnd
      exact obeys_free (hnext rnd received)
    · apply obeys_loadByte
      intro v
      split
      · exact obeys_return (q := .got received) trivial pdTrue
      · exact obeys_free (hnext _ received)

theorem obeys_sendEnd (interface msgId : UInt32) (buffer : Bytes) :
    (sendEnd interface msgId buffer pdu).Obeys .idle := by
  unfold sendEnd sendFlag
  apply obeys_send
  apply obeys_awaitAck
  intro _
  exact obeys_return (q := .idle) trivial statusSuccess

theorem obeys_sendFirmware (P : Platform) (interface msgId : UInt32) (rnd buffer : Bytes)
    (pdu : Pdu) (fw : P.Fil) :
    (sendFirmware P interface msgId rnd buffer pdu fw).Obeys .idle := by
  fun_induction sendFirmware P interface msgId rnd buffer pdu fw with
  | case1 buffer pdu fw hbr buffer' ih =>
      apply obeys_send
      exact obeys_awaitAck ih
  | case2 buffer pdu fw hbr => exact obeys_sendEnd interface msgId buffer

/-- **An update asks before it waits**, and frees what it got last. -/
theorem obeys_canUpdateFirmware (P : Platform) (ecuList : UInt8 → Ecu) (ecuId : UInt8)
    (fw : P.Fil) : (canUpdateFirmware P ecuList ecuId fw secureUpdate).Obeys .idle := by
  unfold canUpdateFirmware sendFlag
  apply obeys_send
  apply obeys_awaitAck
  intro pdu
  apply obeys_send
  apply obeys_awaitChallenge
  intro rnd pdu'
  exact obeys_sendFirmware P _ _ rnd _ pdu' fw

end

/-! ## The gateway with its updates -/

/-- A call of `CAN_updateFirmware` that has not returned. -/
structure Session where
  ecuId : UInt8
  prog : FwProg Int

/-- A PDU that an update took as the reply to its last request. -/
structure Reply where
  ecuId : UInt8
  pdu : Pdu
  /-- The next number of a buffer when the request was sent. -/
  request : Nat
deriving DecidableEq

structure Station where
  gw : Gateway
  session : Option Session := none
  /-- The next number of a buffer when the last request was sent. -/
  request : Nat := 0
  consumed : List Reply := []

inductive StationEvent (P : Platform) where
  | gateway (e : GatewayEvent)
  | start (ecuId : UInt8) (fw : P.Fil) (secureUpdate : Bool)
  /-- The next call of the update. -/
  | update
  /-- The wait of the update ends without a PDU. -/
  | timeout

/-- A call of an update for `ecuId`; `none` while it waits. A PDU is freed
when it was the reply that the update waited for. -/
def Station.perform (s : Station) (ecuId : UInt8) : (c : FwCall) → Option (c.Ans × Station)
  | .send msg =>
    some ((), { s with
      gw := { s.gw with sends := s.gw.sends ++ [msg] }
      request := s.gw.mem.heap.brk })
  | .receive =>
    s.gw.fwUpdateQueue.receive.map fun r =>
      (some r.1, { s with gw := { s.gw with fwUpdateQueue := r.2 } })
  | .loadByte p =>
    some ((loadByte p s.gw.mem).1, { s with
      gw := { s.gw with mem := (loadByte p s.gw.mem).2 } })
  | .loadBytes p n =>
    some ((loadBytes p n s.gw.mem).1, { s with
      gw := { s.gw with mem := (loadBytes p n s.gw.mem).2 } })
  | .free pdu =>
    some ((), { s with
      gw := { s.gw with mem := (pduDiscardPdu pdu s.gw.mem).2 }
      consumed := s.consumed ++ [{ ecuId := ecuId, pdu := pdu, request := s.request }] })

/-- A step of the update that runs. -/
def Station.update (s : Station) : Station :=
  match s.session with
  | none => s
  | some { prog := .done _, .. } => { s with session := none }
  | some { ecuId, prog := .call c k } =>
    match s.perform ecuId c with
    | none => s
    | some (r, s') => { s' with session := some { ecuId := ecuId, prog := k r } }

/-- The queue stayed empty for as long as the update waits. -/
def Station.timeout (s : Station) : Station :=
  match s.session with
  | some { ecuId, prog := .call .receive k } =>
    match s.gw.fwUpdateQueue.receive with
    | none => { s with session := some { ecuId := ecuId, prog := k none } }
    | some _ => s
  | _ => s

/-- Updates run one at a time. -/
def stationStep (cfg : Config) (P : Platform) (s : Station) : StationEvent P → Station
  | .gateway e => { s with gw := gatewayStep cfg s.gw e }
  | .start ecuId fw secureUpdate =>
    match s.session with
    | none =>
      { s with
        session := some
          { ecuId := ecuId
            prog := canUpdateFirmware P s.gw.ecuList ecuId fw secureUpdate } }
    | some _ => s
  | .update => s.update
  | .timeout => s.timeout

/-! ## Replies -/

/-- The reply is from the ECU of its session, and arrived after the request. -/
def Reply.Answers (r : Reply) : Prop :=
  r.pdu.id &&& pduIdMaskEcuId = r.ecuId.toUInt32 ∧ ∃ b, r.pdu.data = some b ∧ r.request ≤ b

/-- Every reply that was consumed belongs to its session. -/
def Station.InSession (s : Station) : Prop := ∀ r ∈ s.consumed, r.Answers

/-- The update waits for a reply. -/
def Session.Waits (session : Session) : Prop :=
  ∃ k, session.prog = .call FwCall.receive k

/-- The update is about to send a request. -/
def Session.Asks (session : Session) : Prop :=
  ∃ msg k, session.prog = .call (FwCall.send msg) k

/-- The condition on a step: a request is sent when no firmware PDU is on its
way, and while an update waits its ECU is the only one that sends any. -/
def Station.Orderly {P : Platform} (s : Station) : StationEvent P → Prop
  | .gateway (.interrupt _ frame) =>
    s.gw.mem.heap.oom s.gw.mem.heap.calls = false ∧
      (pduType frame.id = .firmware → ∀ session, s.session = some session → session.Waits →
        frame.id &&& pduIdMaskEcuId = session.ecuId.toUInt32)
  | .update =>
    ∀ session, s.session = some session → session.Asks →
      ∀ i, ∀ pdu ∈ s.gw.pdus.items i, pduType pdu.id ≠ .firmware
  | _ => True

/-! ## The invariant -/

/-- What is known in each phase of an update for `ecuId`. -/
def Phase.Holds (gw : Gateway) (request : Nat) (ecuId : UInt8) : Phase → Prop
  | .idle => True
  | .asked => ∀ i, ∀ pdu ∈ gw.pdus.items i, pduType pdu.id = .firmware →
      Reply.Answers { ecuId, pdu, request }
  | .got pdu => Reply.Answers { ecuId, pdu, request }

/-- The invariant: while an update waits, all firmware PDUs answer it. -/
structure Station.Inv (s : Station) : Prop where
  sane : s.gw.Sane
  request_le : s.request ≤ s.gw.mem.heap.brk
  inSession : s.InSession
  phase : ∀ session, s.session = some session → ∃ q : Phase, session.prog.Obeys q ∧
    q.Holds s.gw s.request session.ecuId

section
variable {cfg : Config} {P : Platform} {s s' : Station} {ecuId : UInt8}

/-- A program that has asked waits. -/
theorem obeys_asked {session : Session} (h : session.prog.Obeys .asked) : session.Waits := by
  unfold Session.Waits
  cases hprog : session.prog with
  | done rc =>
      rw [hprog] at h
      exact h.elim
  | call c k =>
      rw [hprog] at h
      cases c with
      | receive => exact ⟨k, rfl⟩
      | _ => exact h.1.elim

/-- A step of the gateway. -/
theorem Station.Inv.gateway (h : s.Inv) {e : GatewayEvent}
    (he : Station.Orderly (P := P) s (.gateway e)) :
    (stationStep cfg P s (.gateway e)).Inv := by
  have hmem : s.gw.HasMemory e := by
    cases e with
    | interrupt n frame => exact he.1
    | _ => trivial
  have hmove := (gatewayStep_effect cfg h.sane e hmem).move
  constructor
  case sane => exact h.sane.step hmem
  case request_le => exact Nat.le_trans h.request_le hmove.brk_le
  case inSession => exact h.inSession
  case phase =>
    intro session hsession
    obtain ⟨q, hobeys, hholds⟩ := h.phase session hsession
    refine ⟨q, hobeys, ?_⟩
    cases q with
    | idle => trivial
    | got pdu => exact hholds
    | asked =>
        apply hmove.keeps (P := fun _ pdu => pduType pdu.id = .firmware →
          Reply.Answers { ecuId := session.ecuId, pdu := pdu, request := s.request })
        · intro n frame hevent htype
          subst hevent
          exact ⟨he.2 htype session hsession (obeys_asked hobeys), _, rfl, h.request_le⟩
        · intro _ _ _ _ hanswers
          exact hanswers
        · exact hholds

/-- The station is ready for the next call of an update in phase `q`. -/
structure Station.Ready (s : Station) (ecuId : UInt8) (q : Phase) : Prop where
  sane : s.gw.Sane
  request_le : s.request ≤ s.gw.mem.heap.brk
  inSession : s.InSession
  holds : q.Holds s.gw s.request ecuId

theorem Station.Inv.ready (h : s.Inv) {q : Phase} (hholds : q.Holds s.gw s.request ecuId) :
    s.Ready ecuId q := by
  constructor
  case sane => exact h.sane
  case request_le => exact h.request_le
  case inSession => exact h.inSession
  case holds => exact hholds

/-- The update goes on in phase `q`. -/
theorem Station.Ready.inv {q : Phase} {prog : FwProg Int} (h : s.Ready ecuId q)
    (hobeys : prog.Obeys q) :
    Station.Inv { s with session := some { ecuId := ecuId, prog := prog } } := by
  constructor
  case sane => exact h.sane
  case request_le => exact h.request_le
  case inSession => exact h.inSession
  case phase =>
    intro session hsession
    cases hsession
    exact ⟨q, hobeys, h.holds⟩

/-- A request is sent: nothing that could be taken for its answer is there. -/
theorem Station.Ready.send {q : Phase} (h : s.Ready ecuId q) (msg : CanSend)
    (hquiet : ∀ i, ∀ pdu ∈ s.gw.pdus.items i, pduType pdu.id ≠ .firmware) :
    Station.Ready { s with
      gw := { s.gw with sends := s.gw.sends ++ [msg] }
      request := s.gw.mem.heap.brk } ecuId .asked := by
  constructor
  case sane => exact h.sane
  case request_le => exact Nat.le_refl _
  case inSession => exact h.inSession
  case holds =>
    intro i pdu hpdu htype
    exact absurd htype (hquiet i pdu hpdu)

/-- What the update takes from its queue was there for it. -/
theorem Station.Ready.receive (h : s.Ready ecuId .asked) {pdu : Pdu} {queue : RtosQueue}
    (hrecv : s.gw.fwUpdateQueue.receive = some (pdu, queue)) :
    Station.Ready { s with gw := { s.gw with fwUpdateQueue := queue } } ecuId (.got pdu) := by
  obtain ⟨hitems, -⟩ := RtosQueue.receive_eq_some hrecv
  have hat : pdu ∈ s.gw.pdus.items .fwUpdateQueue := by
    show pdu ∈ s.gw.fwUpdateQueue.items
    rw [hitems]
    exact List.mem_cons_self
  constructor
  case sane =>
    intro i pdu' hpdu'
    apply h.sane i pdu'
    cases i with
    | fwUpdateQueue =>
        show pdu' ∈ s.gw.fwUpdateQueue.items
        rw [hitems]
        exact List.mem_cons_of_mem _ hpdu'
    | _ => exact hpdu'
  case request_le => exact h.request_le
  case inSession => exact h.inSession
  case holds =>
    have htype := (h.sane .fwUpdateQueue pdu hat).firmware rfl
    exact h.holds .fwUpdateQueue pdu hat htype

/-- The reply is read. -/
theorem Station.Ready.read {pdu : Pdu} (h : s.Ready ecuId (.got pdu)) {m : Mem}
    (hread : ReadsOnly s.gw.mem m) :
    Station.Ready { s with gw := { s.gw with mem := m } } ecuId (.got pdu) := by
  constructor
  case sane => exact h.sane
  case request_le =>
    show s.request ≤ m.heap.brk
    rw [hread.heap]
    exact h.request_le
  case inSession => exact h.inSession
  case holds => exact h.holds

/-- The reply is accepted. -/
theorem Station.Ready.free {pdu : Pdu} (h : s.Ready ecuId (.got pdu)) :
    Station.Ready { s with
      gw := { s.gw with mem := (pduDiscardPdu pdu s.gw.mem).2 }
      consumed := s.consumed ++ [{ ecuId := ecuId, pdu := pdu, request := s.request }] }
      ecuId .idle := by
  constructor
  case sane => exact h.sane
  case request_le =>
    obtain ⟨-, b, hdata, -⟩ := h.holds
    show s.request ≤ (pduDiscardPdu pdu s.gw.mem).2.heap.brk
    rw [pduDiscardPdu_some hdata, Mem.setHeap_heap, Heap.free_brk]
    exact h.request_le
  case inSession =>
    intro r hr
    rcases List.mem_append.mp hr with hr | hr
    · exact h.inSession r hr
    · rw [List.mem_singleton.mp hr]
      exact h.holds
  case holds => trivial

/-- A call that the phase allows leads to the next phase. -/
theorem Station.Ready.perform {q : Phase} {c : FwCall} {r : c.Ans} (h : s.Ready ecuId q)
    (hallows : q.allows c)
    (hquiet : ∀ msg, c = .send msg →
      ∀ i, ∀ pdu ∈ s.gw.pdus.items i, pduType pdu.id ≠ .firmware)
    (hs' : s.perform ecuId c = some (r, s')) : s'.Ready ecuId (q.next c r) := by
  cases c with
  | send msg =>
      cases hs'
      exact h.send msg (hquiet msg rfl)
  | receive =>
      obtain ⟨⟨pdu, queue⟩, hrecv, hr⟩ := Option.map_eq_some_iff.mp hs'
      cases hr
      cases q with
      | asked => exact h.receive hrecv
      | _ => exact hallows.elim
  | loadByte p =>
      cases hs'
      cases q with
      | got pdu => exact h.read ((ReadsOnly.refl s.gw.mem).touch p.block p.offset 1)
      | _ => exact hallows.elim
  | loadBytes p n =>
      cases hs'
      cases q with
      | got pdu => exact h.read ((ReadsOnly.refl s.gw.mem).touch p.block p.offset n)
      | _ => exact hallows.elim
  | free freed =>
      cases hs'
      cases q with
      | got pdu =>
          obtain rfl : freed = pdu := hallows
          exact h.free
      | _ => exact hallows.elim

/-- The next call of an update. -/
theorem Station.Inv.update (h : s.Inv) (he : Station.Orderly (P := P) s .update) :
    s.update.Inv := by
  unfold Station.update
  cases hsession : s.session with
  | none => exact h
  | some session =>
      obtain ⟨q, hobeys, hholds⟩ := h.phase session hsession
      obtain ⟨ecuId, prog⟩ := session
      cases prog with
      | done rc =>
          constructor
          case sane => exact h.sane
          case request_le => exact h.request_le
          case inSession => exact h.inSession
          case phase => exact fun _ hnone => nomatch hnone
      | call c k =>
          obtain ⟨hallows, hnext⟩ := hobeys
          have hquiet : ∀ msg, c = .send msg →
              ∀ i, ∀ pdu ∈ s.gw.pdus.items i, pduType pdu.id ≠ .firmware := by
            intro msg hc
            subst hc
            exact he _ hsession ⟨msg, k, rfl⟩
          cases hs' : s.perform ecuId c with
          | none =>
              simp only [hs']
              exact h
          | some r =>
              obtain ⟨r, s'⟩ := r
              simp only [hs']
              exact ((h.ready hholds).perform hallows hquiet hs').inv (hnext r)

theorem Station.Inv.timeout (h : s.Inv) : s.timeout.Inv := by
  unfold Station.timeout
  split
  · rename_i ecuId k hsession
    split
    · obtain ⟨q, hobeys, -⟩ := h.phase _ hsession
      cases q with
      | asked => exact (h.ready (q := .idle) trivial).inv (hobeys.2 none)
      | _ => exact hobeys.1.elim
    · exact h
  · exact h

theorem Station.Inv.start (h : s.Inv) (ecuId : UInt8) (fw : P.Fil) (secureUpdate : Bool) :
    (stationStep cfg P s (.start ecuId fw secureUpdate)).Inv := by
  unfold stationStep
  cases hsession : s.session with
  | none =>
      exact (h.ready (q := .idle) trivial).inv
        (obeys_canUpdateFirmware P s.gw.ecuList ecuId fw)
  | some session =>
      dsimp only
      exact h

/-- An orderly step keeps the invariant. -/
theorem Station.Inv.step (h : s.Inv) {e : StationEvent P} (he : s.Orderly e) :
    (stationStep cfg P s e).Inv := by
  cases e with
  | gateway e => exact h.gateway he
  | start ecuId fw secureUpdate => exact h.start ecuId fw secureUpdate
  | update => exact h.update he
  | timeout => exact h.timeout

/-- A station that has not run an update. -/
structure Station.Start (s : Station) : Prop where
  gw : s.gw.Start
  session : s.session = none
  request : s.request = 0
  consumed : s.consumed = []

theorem Station.Start.inv (h : s.Start) : s.Inv := by
  constructor
  case sane => exact h.gw.sane
  case request_le =>
    rw [h.request]
    exact Nat.zero_le _
  case inSession =>
    intro r hr
    rw [h.consumed] at hr
    cases hr
  case phase =>
    intro session hsession
    rw [h.session] at hsession
    cases hsession

end

/-- **Replies belong to their session**, in every state of every run whose
steps are orderly: of any updates, one after the other, and with the gateway
interleaved in any way. -/
theorem replies_in_session {cfg : Config} {P : Platform} {s : Station} (hstart : s.Start)
    (es : List (StationEvent P))
    (horderly : Runs.Meets (Runs.total (stationStep cfg P)) Station.Orderly s es) :
    Runs.Always (Runs.total (stationStep cfg P)) Station.InSession s es := by
  apply Runs.always_of_inv (I := Station.Inv) _ _ hstart.inv horderly
  · intro s' h
    exact h.inSession
  · intro s₁ e s₂ h he hstep
    cases hstep
    exact h.step he

/-- The station before its first update. -/
def Station.initial : Station where
  gw := Gateway.initial

theorem Station.initial_start : Station.initial.Start where
  gw := Gateway.initial_start
  session := rfl
  request := rfl
  consumed := rfl

/-- The way of a frame to `fw_update_queue`. -/
def arrival (frame : CanMessage) : List (StationEvent memoryPlatform) :=
  [.gateway (.interrupt 0 frame), .gateway (.enqueue 0), .gateway .pduTask, .gateway .pduTask]

/-- A `RESET_ACK` of the given ECU. -/
def resetReply (id : UInt32) : CanMessage where
  id := id
  length := 1
  data := fun _ => resetAck

/-- The reply of another ECU, or one from before the request, is not in the
session that took it. -/
theorem Station.not_inSession {s : Station} {r : Reply} (hr : s.consumed = [r])
    (h : ¬ r.Answers) : ¬ s.InSession := by
  intro hin
  apply h
  apply hin r
  rw [hr]
  exact List.mem_singleton.mpr rfl

/-- While ECU 2 is to be reset, ECU 3 answers; and a reply of ECU 2 that is in
the queue before the update starts is taken for the answer to its request. -/
theorem foreign_and_stale_replies :
    Station.initial.Start ∧
    (∃ s, Runs.run (Runs.total (stationStep frameworkConfig memoryPlatform)) Station.initial
        (.start 2 [] true :: .update :: (arrival (resetReply 0x04000003) ++
          [.update, .update, .update])) = some s ∧ ¬ s.InSession) ∧
    ∃ s, Runs.run (Runs.total (stationStep frameworkConfig memoryPlatform)) Station.initial
        (arrival (resetReply 0x04000002) ++
          [.start 2 [] true, .update, .update, .update, .update]) = some s ∧ ¬ s.InSession := by
  refine ⟨Station.initial_start, ⟨_, rfl, ?_⟩, ⟨_, rfl, ?_⟩⟩
  · apply Station.not_inSession
      (r := { ecuId := 2, pdu := { id := 0x04000003, length := 1, data := some 0 }, request := 0 })
    · rfl
    · intro hanswers
      exact absurd hanswers.1 (by decide)
  · apply Station.not_inSession
      (r := { ecuId := 2, pdu := { id := 0x04000002, length := 1, data := some 0 }, request := 1 })
    · rfl
    · intro hanswers
      obtain ⟨-, b, hb, hle⟩ := hanswers
      cases hb
      exact absurd hle (by decide)

/-- ECU 2 alone answers its reset, and the answer is consumed. -/
theorem replies_in_session_one_reply :
    Runs.Always (Runs.total (stationStep frameworkConfig memoryPlatform)) Station.InSession
      Station.initial (.start 2 [] true :: .update :: (arrival (resetReply 0x04000002) ++
          [.update, .update, .update])) := by
  apply replies_in_session Station.initial_start
  simp only [arrival, List.cons_append, List.nil_append, Runs.meets_total_cons]
  refine ⟨trivial, ?_, ?_, trivial, trivial, trivial, ?_, ?_, ?_, trivial⟩
  · intro session _ _ i pdu hpdu
    have hnone : pdu ∈ Gateway.initial.pdusAt i := hpdu
    rw [Gateway.initial_start.pdusAt i] at hnone
    cases hnone
  · refine ⟨rfl, ?_⟩
    intro _ session hsession _
    cases hsession
    decide
  all_goals
    intro session hsession hasks
    cases hsession
    obtain ⟨msg, k, hprog⟩ := hasks
    cases hprog

end XcanRouter
