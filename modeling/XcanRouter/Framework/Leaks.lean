import XcanRouter.Base.Join
import XcanRouter.Base.Trace
import XcanRouter.Framework.Sessions

/-!
# What updates leak

An update takes PDUs from `fw_update_queue`, and from then on their payloads
are its own to free. It frees a reply before it sends the next request; when
it gives up because of a reply it returns without freeing it. So next to the
queues and the tasks of the gateway there are two more holders of payloads: the
update that runs, and the refusals of those that have returned.
-/

namespace XcanRouter

/-! ## The PDU of an update -/

/-- The reply that an update holds. -/
def Phase.held : Phase → List Pdu
  | .got pdu => [pdu]
  | _ => []

/-- A message of an update: of its own type, with one byte or a full frame. -/
structure CanSend.IsRequest (msg : CanSend) : Prop where
  type : pduType msg.id = .firmware
  length : msg.length = 1 ∨ msg.length = 64
  instIdx : ∃ ecu : Ecu, msg.instIdx = ecu.instIdx

/-- It sends requests, and reads and frees what it holds. -/
def Phase.uses : Phase → FwCall → Prop
  | .idle, .send msg => msg.IsRequest
  | .asked, .receive => True
  | .got pdu, .loadByte p => p.block = pdu.data
  | .got pdu, .loadBytes p _ => p.block = pdu.data
  | .got pdu, .free freed => freed = pdu
  | _, _ => False

/-- It returns `pdTRUE` exactly when it holds a reply then. -/
def Phase.ends : Phase → Int → Prop
  | .idle, rc => rc ≠ pdTrue
  | .asked, _ => False
  | .got _, rc => rc = pdTrue

/-- A program that uses only what it holds. -/
def FwProg.Handles (prog : FwProg Int) (q : Phase) : Prop :=
  Resumption.Fulfils Phase.uses Phase.next Phase.ends q prog

section
variable {pdu : Pdu} {secureUpdate : Bool}

theorem handles_send {msg : CanSend} {f : Unit → FwProg Int} (hmsg : msg.IsRequest)
    (h : (f ()).Handles .asked) : (FwProg.send msg >>= f).Handles .idle := by
  apply Resumption.Fulfils.perform
  · exact hmsg
  · intro _
    exact h

/-- A wait without a reply ends the update with `pdFALSE`. -/
theorem handles_receive {f : Int × Pdu → FwProg Int} (hnone : f (pdFalse, pdu) = pure pdFalse)
    (hsome : ∀ received, (f (pdTrue, received)).Handles (.got received)) :
    (FwProg.receive pdu >>= f).Handles .asked := by
  rw [FwProg.receive_bind]
  constructor
  · trivial
  · intro reply
    cases reply with
    | none =>
        show (f (pdFalse, pdu)).Handles .idle
        rw [hnone]
        show pdFalse ≠ pdTrue
        decide
    | some received => exact hsome received

theorem handles_loadByte {i : Nat} {f : UInt8 → FwProg Int}
    (h : ∀ v, (f v).Handles (.got pdu)) :
    (FwProg.loadByte (pdu.byte i) >>= f).Handles (.got pdu) := by
  apply Resumption.Fulfils.perform
  · rfl
  · exact h

theorem handles_loadBytes {i n : Nat} {f : Bytes → FwProg Int}
    (h : ∀ v, (f v).Handles (.got pdu)) :
    (FwProg.loadBytes (pdu.byte i) n >>= f).Handles (.got pdu) := by
  apply Resumption.Fulfils.perform
  · rfl
  · exact h

theorem handles_free {f : Unit → FwProg Int} (h : (f ()).Handles .idle) :
    (FwProg.free pdu >>= f).Handles (.got pdu) := by
  apply Resumption.Fulfils.perform
  · rfl
  · intro _
    exact h

/-- A refusal. -/
theorem handles_refuse : (pure pdTrue : FwProg Int).Handles (.got pdu) := rfl

theorem handles_awaitAck {flag : UInt8} {next : Pdu → FwProg Int}
    (hnext : ∀ pdu, (next pdu).Handles .idle) : (awaitAck flag pdu next).Handles .asked := by
  unfold awaitAck
  apply handles_receive
  · rfl
  · intro received
    dsimp only
    rw [if_neg (not_not_intro rfl)]
    apply handles_loadByte
    intro v
    split
    · exact handles_refuse
    · exact handles_free (hnext received)

theorem handles_awaitChallenge {next : Bytes → Pdu → FwProg Int}
    (hnext : ∀ rnd pdu, (next rnd pdu).Handles .idle) :
    (awaitChallenge secureUpdate pdu next).Handles .asked := by
  unfold awaitChallenge
  apply handles_receive
  · rfl
  · intro received
    dsimp only
    rw [if_neg (not_not_intro rfl)]
    split
    · apply handles_loadBytes
      intro rnd
      exact handles_free (hnext rnd received)
    · apply handles_loadByte
      intro v
      split
      · exact handles_refuse
      · exact handles_free (hnext _ received)

theorem handles_sendEnd (ecu : Ecu) {msgId : UInt32} (hid : pduType msgId = .firmware)
    (buffer : Bytes) : (sendEnd ecu.instIdx msgId buffer pdu).Handles .idle := by
  unfold sendEnd sendFlag
  apply handles_send ⟨hid, .inl rfl, ecu, rfl⟩
  apply handles_awaitAck
  intro _
  show statusSuccess ≠ pdTrue
  decide

theorem handles_sendFirmware (P : Platform) (ecu : Ecu) {msgId : UInt32}
    (hid : pduType msgId = .firmware) (rnd buffer : Bytes) (pdu : Pdu) (fw : P.Fil) :
    (sendFirmware P ecu.instIdx msgId rnd buffer pdu fw).Handles .idle := by
  fun_induction sendFirmware P ecu.instIdx msgId rnd buffer pdu fw with
  | case1 buffer pdu fw hbr buffer' ih =>
      apply handles_send ⟨hid, .inr rfl, ecu, rfl⟩
      exact handles_awaitAck ih
  | case2 buffer pdu fw hbr => exact handles_sendEnd ecu hid buffer

theorem pduType_updateId_all : ∀ n : Fin 256,
    pduType (pduIdMaskTypeFw ||| (UInt8.ofFin n).toUInt32) = .firmware := by
  decide +kernel

/-- The frames of an update are firmware frames. -/
theorem pduType_updateId (ecuId : UInt8) :
    pduType (pduIdMaskTypeFw ||| ecuId.toUInt32) = .firmware :=
  pduType_updateId_all ecuId.toFin

/-- **An update frees what it takes, or returns `pdTRUE`.** -/
theorem handles_canUpdateFirmware (P : Platform) (ecuList : UInt8 → Ecu) (ecuId : UInt8)
    (fw : P.Fil) : (canUpdateFirmware P ecuList ecuId fw secureUpdate).Handles .idle := by
  have hid := pduType_updateId ecuId
  unfold canUpdateFirmware sendFlag
  apply handles_send ⟨hid, .inl rfl, ecuList ecuId, rfl⟩
  apply handles_awaitAck
  intro pdu
  apply handles_send ⟨hid, .inl rfl, ecuList ecuId, rfl⟩
  apply handles_awaitChallenge
  intro rnd pdu'
  exact handles_sendFirmware P (ecuList ecuId) hid rnd _ pdu' fw

end

/-! ## Holders besides the gateway -/

inductive Keeping where
  | update
  | refused
deriving DecidableEq

/-- What the update holds, and what those before it have left. -/
def keptPdus (held refused : List Pdu) : Fifos Keeping Pdu where
  items
    | .update => held
    | .refused => refused
  cap := fun _ => 0

/-- All PDUs of the station. -/
def Station.pdus (s : Station) (held refused : List Pdu) : Fifos (Place ⊕ Keeping) Pdu :=
  s.gw.pdus.join (keptPdus held refused)

/-- The payloads with a holder, or with `none` the freed ones. -/
def Station.payloads (s : Station) (held refused : List Pdu) :
    Option (Place ⊕ Keeping) → List Ptr :=
  ((s.pdus held refused).owned Pdu.data s.gw.mem.heap.frees).items

/-- Each payload from `base` on has one holder. -/
structure Station.Held (base : Ptr) (s : Station) (held refused : List Pdu) : Prop where
  granted : ∀ k, s.gw.mem.heap.oom k = false
  sane : s.gw.Sane
  custody : (s.pdus held refused).Custody Pdu.data s.gw.mem.heap.frees base s.gw.mem.heap.brk
  base_le : base ≤ s.gw.mem.heap.brk
  noneDead : s.gw.mem.NoneDead

/-! ## The replies of a run -/

/-- What an update takes from its queue, and gives back in the end. -/
inductive Report where
  | reply (pdu : Pdu)
  | returned (rc : Int)
deriving DecidableEq

/-- What a call reports: a reply, if it takes one. -/
def Station.received (s : Station) : FwCall → List Report
  | .receive => (s.gw.fwUpdateQueue.receive.map fun r => Report.reply r.1).toList
  | _ => []

/-- What the update that runs reports in its next step. -/
def Station.updateReports (s : Station) : List Report :=
  match s.session with
  | none => []
  | some { prog := .done rc, .. } => [.returned rc]
  | some { prog := .call c _, .. } => s.received c

def Station.reports {P : Platform} (s : Station) : StationEvent P → List Report
  | .update => s.updateReports
  | _ => []

/-- What the reports say of the replies. -/
structure Replies where
  /-- The last reply to the update that runs. -/
  last : Option Pdu
  /-- The last replies to those that have returned `pdTRUE`, oldest first. -/
  refused : List Pdu

def Replies.add (r : Replies) : Report → Replies
  | .reply pdu => { r with last := some pdu }
  | .returned rc =>
    { last := none, refused := if rc = pdTrue then r.refused ++ r.last.toList else r.refused }

def replies (reports : List Report) : Replies :=
  reports.foldl Replies.add { last := none, refused := [] }

/-- The invariant: the update that runs holds what its phase says, which is
the last reply to it. -/
structure Station.Owned (base : Ptr) (s : Station) (held : List Pdu) (r : Replies) : Prop
    extends Station.Held base s held r.refused where
  session : match s.session with
    | none => held = []
    | some session => ∃ q : Phase, session.prog.Handles q ∧ held = q.held
  last : ∀ pdu ∈ held, r.last = some pdu

/-! ## Steps -/

section
variable {cfg : Config} {P : Platform} {base : Ptr} {s s' : Station} {held refused : List Pdu}
  {R : Replies} {q : Phase} {pdu : Pdu} {ecuId : UInt8}

/-- The moves of the gateway leave the other holders alone. -/
theorem PduMove.join_custody {e : GatewayEvent} {g g' : Gateway} {K : Fifos Keeping Pdu}
    (hmove : PduMove e g g') (hle : base ≤ g.mem.heap.brk)
    (h : (g.pdus.join K).Custody Pdu.data g.mem.heap.frees base g.mem.heap.brk) :
    (g'.pdus.join K).Custody Pdu.data g'.mem.heap.frees base g'.mem.heap.brk := by
  cases hmove with
  | stay pdus heap => rwa [pdus, heap]
  | build n frame event pdus heap =>
      rw [pdus, heap, Fifos.join_push_inl]
      exact h.issue hle rfl
  | pass i j pdu l hop head pdus heap =>
      rw [pdus, heap, Fifos.join_push_inl, Fifos.join_drop_inl]
      exact h.hand head
  | discard i pdu l b head data pdus heap =>
      rw [pdus, heap, Fifos.join_drop_inl]
      exact h.giveBack head data

theorem Station.Held.live (h : s.Held base held refused) : s.gw.Live := by
  constructor
  case held =>
    intro i pdu hpdu b hb
    exact h.custody.not_returned (i := .inl i) hpdu hb
  case next =>
    intro hmem
    exact Nat.lt_irrefl _ ((h.custody.issued _).mp ⟨none, hmem⟩).2

/-- What the update holds was not freed. -/
theorem Station.Held.payload (h : s.Held base (Phase.got pdu).held refused) :
    ∃ b, pdu.data = some b ∧ b ∉ s.gw.mem.heap.frees := by
  have hat : pdu ∈ (s.pdus (Phase.got pdu).held refused).items (.inr .update) :=
    List.mem_singleton_self pdu
  obtain ⟨b, hb⟩ := h.custody.holds _ pdu hat
  exact ⟨b, hb, h.custody.not_returned hat hb⟩

theorem Station.Owned.gateway (h : s.Owned base held R) (e : GatewayEvent) :
    (stationStep cfg P s (.gateway e)).Owned base held R := by
  have hmem : s.gw.HasMemory e := by
    cases e with
    | interrupt n frame => exact h.granted _
    | _ => trivial
  have heffect := gatewayStep_effect cfg h.sane e hmem
  constructor
  case toHeld =>
    constructor
    case granted =>
      intro k
      show (gatewayStep cfg s.gw e).mem.heap.oom k = false
      rw [heffect.move.oom]
      exact h.granted k
    case sane => exact h.sane.step hmem
    case custody => exact heffect.move.join_custody h.base_le h.custody
    case base_le => exact Nat.le_trans h.base_le heffect.move.brk_le
    case noneDead => exact heffect.noneDead h.live h.noneDead
  case session => exact h.session
  case last => exact h.last

/-- The reply is read. -/
theorem Station.Held.read (h : s.Held base (Phase.got pdu).held refused) {p : BytePtr}
    (hp : p.block = pdu.data) (n : Nat) :
    Station.Held base { s with gw := { s.gw with mem := s.gw.mem.touch p.block p.offset n } }
      (Phase.got pdu).held refused := by
  obtain ⟨b, hb, hlive⟩ := h.payload
  have hreads : ReadsOnly s.gw.mem (s.gw.mem.touch p.block p.offset n) :=
    (ReadsOnly.refl s.gw.mem).touch p.block p.offset n
  constructor
  case granted =>
    intro k
    show (s.gw.mem.touch p.block p.offset n).heap.oom k = false
    rw [hreads.heap]
    exact h.granted k
  case sane => exact h.sane
  case custody =>
    show Fifos.Custody Pdu.data (s.pdus _ refused) (s.gw.mem.touch _ _ _).heap.frees base
      (s.gw.mem.touch _ _ _).heap.brk
    rw [hreads.heap]
    exact h.custody
  case base_le =>
    show base ≤ (s.gw.mem.touch p.block p.offset n).heap.brk
    rw [hreads.heap]
    exact h.base_le
  case noneDead =>
    show (s.gw.mem.touch p.block p.offset n).NoneDead
    rw [hp, hb]
    exact h.noneDead.touch hlive p.offset n

/-- The reply is freed. -/
theorem Station.Held.free (h : s.Held base (Phase.got pdu).held refused)
    (hgw : s'.gw = { s.gw with mem := (pduDiscardPdu pdu s.gw.mem).2 }) :
    s'.Held base Phase.idle.held refused := by
  obtain ⟨b, hb, hlive⟩ := h.payload
  rw [pduDiscardPdu_some hb] at hgw
  have hpdus : s'.pdus Phase.idle.held refused =
      (s.pdus (Phase.got pdu).held refused).drop (.inr .update) 1 := by
    unfold Station.pdus
    rw [← Fifos.join_drop_inr, hgw]
    congr 1
    apply Fifos.ext
    · funext k
      cases k with
      | update => rfl
      | refused => rw [Fifos.drop_items_of_ne (by simp)]; rfl
    · rfl
  constructor
  case granted =>
    intro k
    rw [hgw]
    exact h.granted k
  case sane =>
    rw [hgw]
    exact h.sane
  case custody =>
    rw [hpdus, hgw]
    exact h.custody.giveBack (i := .inr .update) rfl hb
  case base_le =>
    rw [hgw]
    exact h.base_le
  case noneDead =>
    rw [hgw]
    exact h.noneDead

/-- A reply is taken from the queue. -/
theorem Station.Held.receive (h : s.Held base [] refused) {queue : RtosQueue}
    (hrecv : s.gw.fwUpdateQueue.receive = some (pdu, queue)) :
    Station.Held base { s with gw := { s.gw with fwUpdateQueue := queue } }
      (Phase.got pdu).held refused := by
  obtain ⟨hitems, -⟩ := RtosQueue.receive_eq_some hrecv
  have hgw : ({ s.gw with fwUpdateQueue := queue } : Gateway).pdus =
      s.gw.pdus.drop .fwUpdateQueue 1 := by
    apply pdus_leave
    · show queue.items = s.gw.fwUpdateQueue.items.drop 1
      rw [hitems]
      rfl
    · intro k hk
      cases k <;> first | rfl | contradiction
  have hkept : keptPdus (Phase.got pdu).held refused =
      (keptPdus [] refused).push .update pdu := by
    apply Fifos.ext
    · funext k
      cases k with
      | update => rfl
      | refused => rw [Fifos.push_items_of_ne (by simp)]; rfl
    · rfl
  constructor
  case granted => exact h.granted
  case sane =>
    intro i pdu' hpdu'
    rw [hgw] at hpdu'
    exact h.sane i pdu' (Fifos.mem_of_mem_drop hpdu')
  case custody =>
    show Fifos.Custody Pdu.data (Fifos.join (Gateway.pdus _) _) _ _ _
    rw [hgw, hkept, Fifos.join_push_inr, Fifos.join_drop_inl]
    have hhead : (s.pdus [] refused).items (.inl .fwUpdateQueue) = pdu :: queue.items := hitems
    exact h.custody.hand hhead
  case base_le => exact h.base_le
  case noneDead => exact h.noneDead

/-- A call that the phase allows leads to the next phase. -/
theorem Station.Held.perform {c : FwCall} {r : c.Ans} (h : s.Held base q.held refused)
    (huses : q.uses c) (hs' : s.perform ecuId c = some (r, s')) :
    s'.Held base (q.next c r).held refused := by
  cases c with
  | send msg =>
      cases hs'
      cases q with
      | idle => exact ⟨h.granted, h.sane, h.custody, h.base_le, h.noneDead⟩
      | _ => exact huses.elim
  | receive =>
      obtain ⟨⟨pdu, queue⟩, hrecv, hr⟩ := Option.map_eq_some_iff.mp hs'
      cases hr
      cases q with
      | asked => exact h.receive hrecv
      | _ => exact huses.elim
  | loadByte p =>
      cases hs'
      cases q with
      | got pdu => exact h.read huses 1
      | _ => exact huses.elim
  | loadBytes p n =>
      cases hs'
      cases q with
      | got pdu => exact h.read huses n
      | _ => exact huses.elim
  | free freed =>
      cases hs'
      cases q with
      | got pdu =>
          obtain rfl : freed = pdu := huses
          exact h.free rfl
      | _ => exact huses.elim

/-- A reply that a call takes is the last one; nothing else is. -/
theorem Station.received_add {c : FwCall} {r : c.Ans} (hs' : s.perform ecuId c = some (r, s'))
    (huses : q.uses c) (hlast : ∀ pdu ∈ q.held, R.last = some pdu) :
    ((s.received c).foldl Replies.add R).refused = R.refused ∧
      ∀ pdu ∈ (q.next c r).held, ((s.received c).foldl Replies.add R).last = some pdu := by
  cases c with
  | receive =>
      obtain ⟨⟨pdu, queue⟩, hrecv, hr⟩ := Option.map_eq_some_iff.mp hs'
      cases hr
      rw [Station.received, hrecv]
      refine ⟨rfl, ?_⟩
      intro pdu' hpdu'
      cases List.mem_singleton.mp hpdu'
      rfl
  | loadByte p => exact ⟨rfl, hlast⟩
  | loadBytes p n => exact ⟨rfl, hlast⟩
  | send msg => exact ⟨rfl, fun _ hpdu => nomatch hpdu⟩
  | free freed => exact ⟨rfl, fun _ hpdu => nomatch hpdu⟩

/-- Only a wait can be stuck, and it reports nothing then. -/
theorem Station.received_of_stuck {c : FwCall} (hs' : s.perform ecuId c = none) :
    s.received c = [] := by
  cases c with
  | receive =>
      have hrecv : s.gw.fwUpdateQueue.receive = none := Option.map_eq_none_iff.mp hs'
      rw [Station.received, hrecv]
      rfl
  | _ => rfl

theorem Station.count_received (s : Station) (c : FwCall) (rc : Int) :
    (s.received c).count (.returned rc) = 0 := by
  cases c with
  | receive =>
      rw [Station.received]
      cases s.gw.fwUpdateQueue.receive <;> rfl
  | _ => rfl

/-- The session goes on, or ends, with what it holds. -/
theorem Station.Held.owned (h : s.Held base held R.refused) (session : Option Session)
    (hsession : match session with
      | none => held = []
      | some session => ∃ q : Phase, session.prog.Handles q ∧ held = q.held)
    (hlast : ∀ pdu ∈ held, R.last = some pdu) :
    Station.Owned base { s with session := session } held R where
  toHeld := ⟨h.granted, h.sane, h.custody, h.base_le, h.noneDead⟩
  session := hsession
  last := hlast

/-- An update returns; a reply that it holds is left behind. -/
theorem Station.Held.returns (h : s.Held base q.held R.refused)
    (hlast : ∀ pdu ∈ q.held, R.last = some pdu) {rc : Int} (hends : q.ends rc) :
    s.Held base [] (R.add (.returned rc)).refused ∧
      (R.add (.returned rc)).refused.length =
        R.refused.length + [Report.returned rc].count (.returned pdTrue) := by
  cases q with
  | idle =>
      have hrc : ¬ rc = pdTrue := hends
      simp only [Replies.add, if_neg hrc]
      refine ⟨h, ?_⟩
      simp [hrc]
  | asked => exact hends.elim
  | got pdu =>
      obtain rfl : rc = pdTrue := hends
      have hpdu : R.last = some pdu := hlast pdu (List.mem_singleton_self pdu)
      simp only [Replies.add, if_pos, hpdu, Option.toList_some]
      have hpdus : s.pdus [] (R.refused ++ [pdu]) =
          ((s.pdus (Phase.got pdu).held R.refused).drop (.inr .update) 1).push
            (.inr .refused) pdu := by
        unfold Station.pdus
        rw [← Fifos.join_drop_inr, ← Fifos.join_push_inr]
        congr 1
        apply Fifos.ext
        · funext k
          cases k with
          | update => rw [Fifos.push_items_of_ne (by simp)]; rfl
          | refused =>
              rw [Fifos.push_items_self, Fifos.drop_items_of_ne (by simp)]
              rfl
        · rfl
      refine ⟨?_, by simp⟩
      constructor
      case granted => exact h.granted
      case sane => exact h.sane
      case custody =>
        rw [hpdus]
        exact h.custody.hand (i := .inr .update) rfl
      case base_le => exact h.base_le
      case noneDead => exact h.noneDead

/-- The next call of an update, or its return. -/
theorem Station.Owned.update (h : s.Owned base held R) :
    ∃ held', s.update.Owned base held' (s.updateReports.foldl Replies.add R) ∧
      (s.updateReports.foldl Replies.add R).refused.length =
        R.refused.length + s.updateReports.count (.returned pdTrue) := by
  have hsession := h.session
  unfold Station.update Station.updateReports
  cases hs : s.session with
  | none => exact ⟨held, h, rfl⟩
  | some session =>
      rw [hs] at hsession
      obtain ⟨q, hhandles, rfl⟩ := hsession
      obtain ⟨ecuId, prog⟩ := session
      cases prog with
      | done rc =>
          obtain ⟨h', hlen⟩ := h.toHeld.returns h.last hhandles
          exact ⟨[], h'.owned none rfl (fun _ hpdu => nomatch hpdu), hlen⟩
      | call c k =>
          obtain ⟨huses, hnext⟩ := hhandles
          cases hs' : s.perform ecuId c with
          | none =>
              simp only [hs', Station.received_of_stuck hs']
              exact ⟨_, h, rfl⟩
          | some r =>
              obtain ⟨r, s'⟩ := r
              simp only [hs']
              obtain ⟨hrefused, hlast⟩ := Station.received_add hs' huses h.last
              have h' := h.toHeld.perform huses hs'
              rw [← hrefused] at h'
              refine ⟨_, h'.owned (some ⟨ecuId, k r⟩) ⟨_, hnext r, rfl⟩ hlast, ?_⟩
              rw [hrefused, s.count_received, Nat.add_zero]

theorem Station.Owned.timeout (h : s.Owned base held R) : s.timeout.Owned base held R := by
  unfold Station.timeout
  split
  · rename_i ecuId k hs
    split
    · have hsession := h.session
      rw [hs] at hsession
      obtain ⟨q, hhandles, rfl⟩ := hsession
      cases q with
      | asked =>
          have hend : FwProg.Handles (k none) .idle := hhandles.2 none
          exact h.toHeld.owned (some ⟨ecuId, k none⟩) ⟨.idle, hend, rfl⟩ h.last
      | _ => exact hhandles.1.elim
    · exact h
  · exact h

theorem Station.Owned.start (h : s.Owned base held R) (ecuId : UInt8) (fw : P.Fil)
    (secureUpdate : Bool) :
    (stationStep cfg P s (.start ecuId fw secureUpdate)).Owned base held R := by
  have hsession := h.session
  unfold stationStep
  cases hs : s.session with
  | none =>
      rw [hs] at hsession
      exact h.toHeld.owned (some ⟨ecuId, _⟩)
        ⟨.idle, handles_canUpdateFirmware P s.gw.ecuList ecuId fw, hsession⟩ h.last
  | some session => exact h

/-- **The step lemma**: only an update that returns `pdTRUE` leaves a payload
behind, the one of its last reply. -/
theorem Station.Owned.step (cfg : Config) (h : s.Owned base held R) (e : StationEvent P) :
    ∃ held', (stationStep cfg P s e).Owned base held' ((s.reports e).foldl Replies.add R) ∧
      ((s.reports e).foldl Replies.add R).refused.length =
        R.refused.length + (s.reports e).count (.returned pdTrue) := by
  cases e with
  | gateway e => exact ⟨held, h.gateway e, rfl⟩
  | start ecuId fw secureUpdate => exact ⟨held, h.start ecuId fw secureUpdate, rfl⟩
  | update => exact h.update
  | timeout => exact ⟨held, h.timeout, rfl⟩

theorem Station.Owned.run (cfg : Config) (h : s.Owned base held R)
    (es : List (StationEvent P)) :
    let reports := Runs.trace (stationStep cfg P) Station.reports s es
    ∃ held', (es.foldl (stationStep cfg P) s).Owned base held' (reports.foldl Replies.add R) ∧
      (reports.foldl Replies.add R).refused.length =
        R.refused.length + reports.count (.returned pdTrue) := by
  induction es generalizing s held R with
  | nil => exact ⟨held, h, rfl⟩
  | cons e es ih =>
      obtain ⟨held₁, h₁, hlen₁⟩ := h.step cfg e
      obtain ⟨held', h', hlen⟩ := ih h₁
      rw [hlen₁, Nat.add_assoc, ← List.count_append] at hlen
      rw [← List.foldl_append] at h' hlen
      exact ⟨held', h', hlen⟩

theorem Station.Start.owned (h : s.Start) (hmalloc : ∀ k, s.gw.mem.heap.oom k = false) :
    s.Owned s.gw.mem.heap.brk [] { last := none, refused := [] } := by
  have hgw := h.gw.owned hmalloc
  constructor
  case toHeld =>
    constructor
    case granted => exact hmalloc
    case sane => exact hgw.sane
    case custody =>
      rw [h.gw.frees]
      apply Fifos.custody_empty
      rintro (i | k)
      · exact h.gw.pdusAt i
      · cases k <;> rfl
    case base_le => exact Nat.le_refl _
    case noneDead => exact hgw.noneDead
  case session =>
    rw [h.session]
  case last =>
    intro pdu hpdu
    cases hpdu

/-- What the code relies on where updates run next to the gateway: of the
blocks allocated from `base` on. -/
structure Station.OwnedOnce (base : Ptr) (s : Station) (held refused : List Pdu) : Prop where
  /-- A payload is with a queue, a task, the update or a refusal, or freed. -/
  holder : ∀ b, base ≤ b → b < s.gw.mem.heap.brk → ∃! k, b ∈ s.payloads held refused k
  /-- It is there once. -/
  once : ∀ k, (s.payloads held refused k).Nodup
  /-- It was not used after it was freed. -/
  unused : ∀ x ∈ s.gw.mem.log, x.dead = false
  /-- A refused reply has a payload, and it was not freed. -/
  leaked : ∀ pdu ∈ refused, ∃ b, pdu.data = some b ∧ base ≤ b ∧ b < s.gw.mem.heap.brk ∧
    b ∉ s.gw.mem.heap.frees
  /-- Without an update nothing is held. -/
  none_held : s.session = none → held = []
  /-- An update holds one reply at most. -/
  one_held : held.length ≤ 1

theorem Station.Owned.ownedOnce (h : s.Owned base held R) :
    s.OwnedOnce base held R.refused := by
  have hsession := h.session
  constructor
  case holder =>
    intro b hle hlt
    exact h.custody.one_holder hle hlt
  case once => exact h.custody.valid.nodup
  case unused => exact h.noneDead
  case leaked =>
    intro pdu hpdu
    have hat : pdu ∈ (s.pdus held R.refused).items (.inr .refused) := hpdu
    obtain ⟨b, hb⟩ := h.custody.holds _ pdu hat
    obtain ⟨hle, hlt⟩ := h.custody.token_lt hat hb
    exact ⟨b, hb, hle, hlt, h.custody.not_returned hat hb⟩
  case none_held =>
    intro hnone
    rwa [hnone] at hsession
  case one_held =>
    cases hs : s.session with
    | none =>
        rw [hs] at hsession
        rw [hsession]
        exact Nat.zero_le _
    | some session =>
        rw [hs] at hsession
        obtain ⟨q, -, rfl⟩ := hsession
        cases q <;> exact Nat.le_of_ble_eq_true rfl

end

/-- **A refused update leaks its last reply, and nothing else leaks**: in every
interleaving of the gateway with any updates, one after the other, every
payload has one holder, a queue, a task, the update that runs, or the refusal
of one that has returned `pdTRUE`; and none is used or freed after it was
freed. Each such update had a reply, the last one has a payload and is what
its refusal holds, and that payload is never freed. -/
theorem refused_updates_leak {cfg : Config} {P : Platform} {s : Station} (hstart : s.Start)
    (hmalloc : ∀ k, s.gw.mem.heap.oom k = false) (es : List (StationEvent P)) :
    let reports := Runs.trace (stationStep cfg P) Station.reports s es
    ∃ held,
      (es.foldl (stationStep cfg P) s).OwnedOnce s.gw.mem.heap.brk held
        (replies reports).refused ∧
      (∀ pdu ∈ held, (replies reports).last = some pdu) ∧
      (replies reports).refused.length = reports.count (.returned pdTrue) := by
  intro reports
  obtain ⟨held, h, hlen⟩ := (hstart.owned hmalloc).run cfg es
  refine ⟨held, h.ownedOnce, h.last, ?_⟩
  rw [replies, hlen, List.length_nil, Nat.zero_add]

/-- An update of ECU 2 whose reset is refused. -/
def refusedReset : List (StationEvent memoryPlatform) :=
  .start 2 [] true :: .update :: (arrival { resetReply 0x04000002 with data := fun _ => 0 } ++
    [.update, .update, .update])

theorem refused_updates_leak_one :
    let reports := Runs.trace (stationStep frameworkConfig memoryPlatform) Station.reports
      Station.initial refusedReset
    ∃ held,
      (refusedReset.foldl (stationStep frameworkConfig memoryPlatform)
        Station.initial).OwnedOnce Station.initial.gw.mem.heap.brk held
          (replies reports).refused ∧
      (∀ pdu ∈ held, (replies reports).last = some pdu) ∧
      (replies reports).refused.length = reports.count (.returned pdTrue) :=
  refused_updates_leak Station.initial_start (fun _ => rfl) refusedReset

example : (replies (Runs.trace (stationStep frameworkConfig memoryPlatform) Station.reports
    Station.initial refusedReset)).refused.length = 1 := by
  decide

end XcanRouter
