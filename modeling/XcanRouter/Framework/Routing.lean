import Mathlib.Data.List.Forall2
import XcanRouter.Framework.Ownership

/-!
# What `PDU_Task` sends

A data frame goes to each destination that its descriptor lists. The frame is
gone when that happens; what is sent are the fields of its PDU and the bytes
of its buffer, in as many steps as there are destinations, with other frames
arriving in between.
-/

namespace XcanRouter

/-! ## The specification -/

/-- The sends that a data frame asks for. -/
def routedSends (cfg : Config) (ecus : UInt8 → Ecu) (frame : CanMessage) : List CanSend :=
  (cfg.pduDescriptors (frame.id &&& ~~~pduIdMaskTypeData)).dests.map fun ecuId =>
    { instIdx := (ecus ecuId).instIdx
      id := frame.id
      length := frame.length
      payload := frame.payload }

/-- Every destination is an ECU of the list, on CAN. -/
def Config.RoutesToCan (cfg : Config) (ecus : UInt8 → Ecu) : Prop :=
  ∀ pduId : UInt32, pduId.toNat < cfg.numOfPduTypes →
    ∀ ecuId ∈ (cfg.pduDescriptors pduId).dests,
      ecuId.toNat < cfg.numOfEcus ∧ (ecus ecuId).protocol = protocolCan

/-- A data frame with a descriptor. -/
def CanMessage.IsData (cfg : Config) (frame : CanMessage) : Prop :=
  frame.id &&& pduIdMaskTypeData ≠ 0 ∧
    (frame.id &&& ~~~pduIdMaskTypeData).toNat < cfg.numOfPduTypes

instance (cfg : Config) (frame : CanMessage) : Decidable (frame.IsData cfg) :=
  inferInstanceAs (Decidable (_ ∧ _))

/-- Only data frames arrive. -/
def GatewayEvent.IsData (cfg : Config) : GatewayEvent → Prop
  | .interrupt _ frame => frame.IsData cfg
  | _ => True

instance (cfg : Config) : DecidablePred (GatewayEvent.IsData cfg)
  | .interrupt _ frame => inferInstanceAs (Decidable (frame.IsData cfg))
  | .enqueue _ => .isTrue trivial
  | .pduTask => .isTrue trivial
  | .gatewayTask => .isTrue trivial

/-- The frames that were accepted and have left the queue since. -/
def Gateway.dequeued (s : Gateway) : List CanMessage :=
  s.accepted.take (s.accepted.length - s.pduQueue.items.length)

/-- Between two PDUs the log is what the dequeued frames asked for, and a full
queue keeps frames out: one that arrives changes nothing, and one that was
built before only gives its buffer back. -/
structure Gateway.RoutedExactly (cfg : Config) (ecus : UInt8 → Ecu) (s : Gateway) :
    Prop where
  sends : s.pduTask = .receive → s.sends = s.dequeued.flatMap (routedSends cfg ecus)
  dropped : s.pduQueue.Full → ∀ n frame, s.interrupt n frame = s
  refused : s.pduQueue.Full → ∀ n, (s.enqueue n).sends = s.sends ∧
    (s.enqueue n).pduQueue = s.pduQueue ∧ (s.enqueue n).dequeued = s.dequeued ∧
    (s.enqueue n).pduTask = s.pduTask
  /-- No buffer is read after it was freed. -/
  unused : ∀ x ∈ s.mem.log, x.dead = false

/-! ## Copies of frames -/

/-- The PDU has the fields of the frame, and its buffer the payload. -/
structure Copies (m : Mem) (frame : CanMessage) (pdu : Pdu) : Prop where
  id : pdu.id = frame.id
  length : pdu.length = frame.length
  data : ∃ b, pdu.data = some b ∧ ∀ i < frame.length.toNat, m.byte b i = frame.data i

theorem canBuildPdu_copies {m : Mem} (frame : CanMessage)
    (hoom : m.heap.oom m.heap.calls = false) :
    Copies (canBuildPdu frame m).2 frame (canBuildPdu frame m).1 := by
  rw [canBuildPdu_granted frame hoom]
  constructor
  case id => rfl
  case length => rfl
  case data =>
    refine ⟨m.heap.brk, rfl, ?_⟩
    intro i hi
    simp [Bytes.splice, hi]

theorem Copies.of_byte {m m' : Mem} {frame : CanMessage} {pdu : Pdu} (h : Copies m frame pdu)
    (hbyte : ∀ b, pdu.data = some b → m'.byte b = m.byte b) : Copies m' frame pdu := by
  obtain ⟨b, hb, hbytes⟩ := h.data
  constructor
  case id => exact h.id
  case length => exact h.length
  case data =>
    refine ⟨b, hb, ?_⟩
    intro i hi
    rw [hbyte b hb]
    exact hbytes i hi

theorem copies_of_byte {m m' : Mem} {frames : List CanMessage} {pdus : List Pdu}
    (h : List.Forall₂ (Copies m) frames pdus)
    (hbyte : ∀ pdu ∈ pdus, ∀ b, pdu.data = some b → m'.byte b = m.byte b) :
    List.Forall₂ (Copies m') frames pdus := by
  induction h with
  | nil => exact .nil
  | cons copy copies ih =>
      apply List.Forall₂.cons
      · exact copy.of_byte (hbyte _ (by simp))
      · exact ih fun pdu hpdu => hbyte pdu (List.mem_cons_of_mem _ hpdu)

/-- Sent on, a copy is what was asked for. -/
theorem Copies.sendMsg_eq {m : Mem} {frame : CanMessage} {pdu : Pdu} (h : Copies m frame pdu)
    (instIdx : UInt32) :
    sendMsg instIdx pdu.id (m.byteAt (pdu.byte 0)) pdu.length.toUInt32 =
      { instIdx := instIdx
        id := frame.id
        length := frame.length
        payload := frame.payload } := by
  obtain ⟨b, hb, hbytes⟩ := h.data
  have hpayload : (List.range frame.length.toNat).map (m.byteAt (pdu.byte 0)) =
      frame.payload := by
    apply List.map_congr_left
    intro i hi
    simp [Mem.byteAt, Pdu.byte, hb, hbytes i (List.mem_range.mp hi)]
  simp [sendMsg, h.id, h.length, hpayload]

theorem ecuSendPdu_can {ecuList : UInt8 → Ecu} {ecuId : UInt8} {pdu : Pdu}
    (h : (ecuList ecuId).protocol = protocolCan) (m : Mem) :
    (ecuSendPdu ecuList ecuId pdu m).1 =
      some (sendMsg (ecuList ecuId).instIdx pdu.id (m.byteAt (pdu.byte 0))
        pdu.length.toUInt32) := by
  simp [ecuSendPdu, h, canSendFrame, loadBytes]

/-! ## The invariant -/

/-- What `PDU_Task` has sent, with the frames that left the queue. -/
inductive TaskSends (cfg : Config) (ecus : UInt8 → Ecu) (m : Mem) :
    List CanMessage → List CanSend → PduTask → Prop where
  | receive (done : List CanMessage) :
      TaskSends cfg ecus m done (done.flatMap (routedSends cfg ecus)) .receive
  | dispatch (done : List CanMessage) (frame : CanMessage) (pdu : Pdu)
      (copy : Copies m frame pdu) (data : frame.IsData cfg) :
      TaskSends cfg ecus m (done ++ [frame]) (done.flatMap (routedSends cfg ecus))
        (.dispatch pdu)
  | sending (done : List CanMessage) (frame : CanMessage) (pdu : Pdu) (i : UInt8)
      (copy : Copies m frame pdu) (data : frame.IsData cfg) :
      TaskSends cfg ecus m (done ++ [frame])
        (done.flatMap (routedSends cfg ecus) ++ (routedSends cfg ecus frame).take i.toNat)
        (.sending pdu i)

/-- The frames accepted are those that left the queue, `done`, and those that
are in it, `waiting`, with their payloads in memory `m`. -/
structure Gateway.RoutesData (cfg : Config) (ecus : UInt8 → Ecu) (m : Mem)
    (done waiting : List CanMessage) (s : Gateway) : Prop where
  ecuList : s.ecuList = ecus
  gatewayQueue : s.gatewayQueue.items = []
  gatewayTask : s.gatewayTask = .receive
  accepted : s.accepted = done ++ waiting
  queued : List.Forall₂ (Copies m) waiting s.pduQueue.items
  arrived : ∀ frame ∈ waiting, frame.IsData cfg
  built : ∀ n frame pdu, s.isr n = some (frame, pdu) → Copies m frame pdu ∧ frame.IsData cfg
  task : TaskSends cfg ecus m done s.sends s.pduTask

section
variable {cfg : Config} {ecus : UInt8 → Ecu} {s : Gateway} {base : Ptr} {m m' : Mem}
variable {done waiting : List CanMessage}

theorem TaskSends.of_receive {sends : List CanSend}
    (h : TaskSends cfg ecus m done sends .receive) :
    sends = done.flatMap (routedSends cfg ecus) := by
  cases h
  rfl

theorem TaskSends.of_dispatch {sends : List CanSend} {pdu : Pdu}
    (h : TaskSends cfg ecus m done sends (.dispatch pdu)) :
    ∃ d frame, done = d ++ [frame] ∧ Copies m frame pdu ∧ frame.IsData cfg ∧
      sends = d.flatMap (routedSends cfg ecus) := by
  cases h with
  | dispatch d frame _ copy data => exact ⟨d, frame, rfl, copy, data, rfl⟩

theorem TaskSends.of_sending {sends : List CanSend} {pdu : Pdu} {i : UInt8}
    (h : TaskSends cfg ecus m done sends (.sending pdu i)) :
    ∃ d frame, done = d ++ [frame] ∧ Copies m frame pdu ∧ frame.IsData cfg ∧
      sends = d.flatMap (routedSends cfg ecus) ++
        (routedSends cfg ecus frame).take i.toNat := by
  cases h with
  | sending d frame _ _ copy data => exact ⟨d, frame, rfl, copy, data, rfl⟩

theorem TaskSends.of_byte {sends : List CanSend} {task : PduTask}
    (h : TaskSends cfg ecus m done sends task)
    (hbyte : ∀ pdu ∈ task.pdus, ∀ b, pdu.data = some b → m'.byte b = m.byte b) :
    TaskSends cfg ecus m' done sends task := by
  cases h with
  | receive => exact .receive done
  | dispatch done frame pdu copy data =>
      exact .dispatch done frame pdu (copy.of_byte (hbyte pdu (by simp [PduTask.pdus]))) data
  | sending done frame pdu i copy data =>
      exact .sending done frame pdu i (copy.of_byte (hbyte pdu (by simp [PduTask.pdus]))) data

/-- What is known of the payloads survives a step, which writes to a new
block only. -/
theorem Gateway.RoutesData.of_byte (h : s.RoutesData cfg ecus s.mem done waiting)
    (howned : s.Owned base) (hbyte : ∀ b, b ≠ s.mem.heap.brk → m'.byte b = s.mem.byte b) :
    s.RoutesData cfg ecus m' done waiting := by
  have hkept : ∀ i, ∀ pdu ∈ s.pdus.items i, ∀ b, pdu.data = some b →
      m'.byte b = s.mem.byte b := by
    intro i pdu hpdu b hb
    apply hbyte b
    exact Nat.ne_of_lt (howned.custody.token_lt hpdu hb).2
  constructor
  case ecuList => exact h.ecuList
  case gatewayQueue => exact h.gatewayQueue
  case gatewayTask => exact h.gatewayTask
  case accepted => exact h.accepted
  case queued => exact copies_of_byte h.queued (hkept .pduQueue)
  case arrived => exact h.arrived
  case built =>
    intro n frame pdu hisr
    obtain ⟨hcopy, hdata⟩ := h.built n frame pdu hisr
    refine ⟨hcopy.of_byte (hkept (.isr n) pdu ?_), hdata⟩
    simp [Gateway.pdus, Gateway.pdusAt, hisr]
  case task => exact h.task.of_byte (hkept .pduTask)

/-! ## The steps -/

theorem Gateway.RoutesData.interrupt {n : Nat} {frame : CanMessage}
    (h : s.RoutesData cfg ecus (s.interrupt n frame).mem done waiting) (hdata : frame.IsData cfg)
    (hoom : s.mem.heap.oom s.mem.heap.calls = false) :
    (s.interrupt n frame).RoutesData cfg ecus (s.interrupt n frame).mem done waiting := by
  revert h
  unfold Gateway.interrupt
  split
  · exact id
  · intro h
    have hbuilt : ∀ k frame' pdu,
        Function.update s.isr n (some (frame, (canBuildPdu frame s.mem).1)) k =
            some (frame', pdu) →
          Copies (canBuildPdu frame s.mem).2 frame' pdu ∧ frame'.IsData cfg := by
      intro k frame' pdu hisr
      by_cases hk : k = n
      · subst hk
        rw [Function.update_self] at hisr
        cases hisr
        exact ⟨canBuildPdu_copies frame hoom, hdata⟩
      · rw [Function.update_of_ne hk] at hisr
        exact h.built k frame' pdu hisr
    exact { h with built := hbuilt }

/-- An activation that is done leaves the others as they were. -/
theorem isr_done {n k : Nat} {v : CanMessage × Pdu}
    (h : Function.update s.isr n none k = some v) : s.isr k = some v := by
  by_cases hk : k = n
  · subst hk
    simp at h
  · rwa [Function.update_of_ne hk] at h

theorem Gateway.RoutesData.enqueue {n : Nat}
    (h : s.RoutesData cfg ecus (s.enqueue n).mem done waiting) :
    ∃ waiting', (s.enqueue n).RoutesData cfg ecus (s.enqueue n).mem done waiting' := by
  revert h
  unfold Gateway.enqueue
  split
  · intro h
    exact ⟨waiting, h⟩
  · rename_i frame pdu hisr
    cases hsend : s.pduQueue.send pdu with
    | none =>
        intro h
        refine ⟨waiting, ?_⟩
        exact { h with built := fun k frame' pdu' hk => h.built k frame' pdu' (isr_done hk) }
    | some q =>
        intro h
        obtain ⟨-, rfl⟩ := RtosQueue.send_eq_some hsend
        obtain ⟨hcopy, hdata⟩ := h.built n frame pdu hisr
        have haccepted : s.accepted ++ [frame] = done ++ (waiting ++ [frame]) := by
          rw [h.accepted, List.append_assoc]
        have harrived : ∀ frame' ∈ waiting ++ [frame], frame'.IsData cfg := by
          intro frame' hframe'
          rcases List.mem_append.mp hframe' with hframe' | hframe'
          · exact h.arrived frame' hframe'
          · rw [List.mem_singleton.mp hframe']
            exact hdata
        refine ⟨waiting ++ [frame], ?_⟩
        exact
          { h with
            accepted := haccepted
            queued := List.rel_append h.queued (.cons hcopy .nil)
            arrived := harrived
            built := fun k frame' pdu' hk => h.built k frame' pdu' (isr_done hk) }

/-- `PDU_Task` takes the next PDU. -/
theorem Gateway.RoutesData.receive {pdu : Pdu} {q : RtosQueue}
    (h : s.RoutesData cfg ecus s.mem done waiting) (htask : s.pduTask = .receive)
    (hrecv : s.pduQueue.receive = some (pdu, q)) :
    ∃ frame waiting', Gateway.RoutesData cfg ecus s.mem (done ++ [frame]) waiting'
      { s with pduQueue := q, pduTask := .dispatch pdu } := by
  obtain ⟨hitems, -⟩ := RtosQueue.receive_eq_some hrecv
  have hqueued := h.queued
  rw [hitems] at hqueued
  cases hqueued with
  | @cons frame _ rest _ copy copies =>
      have ht := h.task
      rw [htask] at ht
      have htaken : TaskSends cfg ecus s.mem (done ++ [frame]) s.sends (.dispatch pdu) := by
        rw [ht.of_receive]
        exact .dispatch done frame pdu copy (h.arrived frame (by simp))
      have haccepted : s.accepted = done ++ [frame] ++ rest := by
        rw [h.accepted, List.append_assoc]
        rfl
      refine ⟨frame, rest, ?_⟩
      exact
        { h with
          accepted := haccepted
          queued := copies
          arrived := fun frame' hframe' => h.arrived frame' (List.mem_cons_of_mem _ hframe')
          task := htaken }

/-- A data frame goes to the loop over its destinations. -/
theorem Gateway.RoutesData.dispatch {pdu : Pdu}
    (h : s.RoutesData cfg ecus (s.dispatch pdu).mem done waiting)
    (htask : s.pduTask = .dispatch pdu) :
    (s.dispatch pdu).RoutesData cfg ecus (s.dispatch pdu).mem done waiting := by
  have ht := h.task
  rw [htask] at ht
  obtain ⟨d, frame, rfl, hcopy, hdata, hsends⟩ := ht.of_dispatch
  have htype : pduType pdu.id = .normal := by
    rw [pduType_eq_normal, hcopy.id]
    exact hdata.1
  have hdispatch : s.dispatch pdu =
      { s with mem := (pduPrintPdu pdu s.mem).2, pduTask := .sending pdu 0 } := by
    simp [Gateway.dispatch, htype]
  rw [hdispatch] at hcopy h ⊢
  have hsending : TaskSends cfg ecus (pduPrintPdu pdu s.mem).2 (d ++ [frame]) s.sends
      (.sending pdu 0) := by
    rw [hsends, ← List.append_nil (d.flatMap _)]
    exact .sending d frame pdu 0 hcopy hdata
  exact { h with task := hsending }

/-- The next of the sends a frame asks for. -/
theorem take_routedSends {frame : CanMessage} {i : UInt8}
    (hi : i < (cfg.pduDescriptors (frame.id &&& ~~~pduIdMaskTypeData)).destCount) :
    (routedSends cfg ecus frame).take (i + 1).toNat =
      (routedSends cfg ecus frame).take i.toNat ++
        [{ instIdx := (ecus ((cfg.pduDescriptors
              (frame.id &&& ~~~pduIdMaskTypeData)).dest i.toNat)).instIdx
           id := frame.id
           length := frame.length
           payload := frame.payload }] := by
  have hlt : i.toNat < (cfg.pduDescriptors
      (frame.id &&& ~~~pduIdMaskTypeData)).destCount.toNat := UInt8.lt_iff_toNat_lt.mp hi
  -- the counter does not wrap: it is below a `uint8_t`
  have hsucc : (i + 1).toNat = i.toNat + 1 := by
    have hcount := (cfg.pduDescriptors (frame.id &&& ~~~pduIdMaskTypeData)).destCount.toNat_lt
    rw [UInt8.toNat_add]
    apply Nat.mod_eq_of_lt
    show i.toNat + 1 < 256
    omega
  rw [hsucc, List.take_add_one]
  congr 1
  simp [routedSends, PduDesc.dests, hlt]

theorem mem_dests {desc : PduDesc} {i : Nat} (hi : i < desc.destCount.toNat) :
    desc.dest i ∈ desc.dests :=
  List.mem_map.mpr ⟨i, List.mem_range.mpr hi, rfl⟩

/-- One turn of the loop over the destinations, or its end. -/
theorem Gateway.RoutesData.sendNext {pdu : Pdu} {i : UInt8}
    (h₀ : s.RoutesData cfg ecus s.mem done waiting)
    (h : s.RoutesData cfg ecus (s.sendNext cfg pdu i).mem done waiting)
    (htask : s.pduTask = .sending pdu i) (hroutes : cfg.RoutesToCan ecus) :
    (s.sendNext cfg pdu i).RoutesData cfg ecus (s.sendNext cfg pdu i).mem done waiting := by
  have ht := h.task
  rw [htask] at ht
  obtain ⟨d, frame, rfl, hcopy, hdata, hsends⟩ := ht.of_sending
  have ht₀ := h₀.task
  rw [htask] at ht₀
  obtain ⟨d₀, frame₀, hd, hcopy₀, -, -⟩ := ht₀.of_sending
  obtain ⟨rfl, hframe⟩ := List.append_inj' hd rfl
  obtain rfl : frame = frame₀ := List.head_eq_of_cons_eq hframe
  revert hcopy h
  unfold Gateway.sendNext
  dsimp only
  rw [hcopy₀.id]
  split
  · rename_i hi
    intro h hcopy
    have hlt := UInt8.lt_iff_toNat_lt.mp hi
    have hcan := (hroutes _ hdata.2 _ (mem_dests hlt)).2
    rw [← h₀.ecuList] at hcan
    have hinst : ∀ ecuId, (s.ecuList ecuId).instIdx = (ecus ecuId).instIdx := by
      intro ecuId
      rw [h₀.ecuList]
    have hsending : TaskSends cfg ecus _ _ _ _ := .sending d frame pdu (i + 1) hcopy hdata
    rw [take_routedSends hi, ← List.append_assoc, ← hsends, ← hinst] at hsending
    rw [ecuSendPdu_can hcan, hcopy₀.sendMsg_eq]
    exact { h with task := hsending }
  · rename_i hi
    intro h hcopy
    have hle : (routedSends cfg ecus frame).length ≤ i.toNat := by
      have hge := mt UInt8.lt_iff_toNat_lt.mpr hi
      simp only [routedSends, PduDesc.dests, List.length_map, List.length_range]
      omega
    have hall : s.sends = (d ++ [frame]).flatMap (routedSends cfg ecus) := by
      rw [hsends, List.take_of_length_le hle, List.flatMap_append, List.flatMap_singleton]
    have hreceive : TaskSends cfg ecus (s.discard pdu).mem _ _ _ := .receive (d ++ [frame])
    rw [← hall] at hreceive
    exact { h with task := hreceive }

theorem Gateway.RoutesData.stepPduTask (howned : s.Owned base)
    (h : s.RoutesData cfg ecus s.mem done waiting) (hroutes : cfg.RoutesToCan ecus) :
    ∃ done' waiting', (s.stepPduTask cfg).RoutesData cfg ecus (s.stepPduTask cfg).mem
      done' waiting' := by
  have h' := h.of_byte howned
    (gatewayStep_effect cfg howned.sane .pduTask trivial).byte
  revert h'
  show s.RoutesData cfg ecus (s.stepPduTask cfg).mem done waiting → _
  unfold Gateway.stepPduTask
  cases htask : s.pduTask with
  | receive =>
      cases hrecv : s.pduQueue.receive with
      | none =>
          intro _
          exact ⟨done, waiting, h⟩
      | some r =>
          intro _
          obtain ⟨frame, waiting', hnext⟩ := h.receive htask hrecv
          exact ⟨done ++ [frame], waiting', hnext⟩
  | dispatch pdu =>
      intro h'
      exact ⟨done, waiting, h'.dispatch htask⟩
  | sending pdu i =>
      intro h'
      exact ⟨done, waiting, h.sendNext h' htask hroutes⟩

/-- The invariant along runs on data frames. -/
def Gateway.RouteInv (cfg : Config) (ecus : UInt8 → Ecu) (base : Ptr) (s : Gateway) : Prop :=
  s.Owned base ∧ ∃ done waiting, s.RoutesData cfg ecus s.mem done waiting

theorem Gateway.RouteInv.step (h : s.RouteInv cfg ecus base) (hroutes : cfg.RoutesToCan ecus)
    {e : GatewayEvent} (he : e.IsData cfg) : (gatewayStep cfg s e).RouteInv cfg ecus base := by
  obtain ⟨howned, done, waiting, hdata⟩ := h
  refine ⟨howned.step e, ?_⟩
  have hdata' :=
    hdata.of_byte howned (gatewayStep_effect cfg howned.sane e (howned.hasMemory e)).byte
  cases e with
  | interrupt n frame =>
      exact ⟨done, waiting, hdata'.interrupt he (howned.granted _)⟩
  | enqueue n => exact ⟨done, hdata'.enqueue⟩
  | pduTask => exact hdata.stepPduTask howned hroutes
  | gatewayTask =>
      -- no command has arrived
      have hidle : gatewayStep cfg s .gatewayTask = s := by
        simp [gatewayStep, Gateway.stepGatewayTask, hdata.gatewayTask,
          RtosQueue.receive_eq_none.mpr hdata.gatewayQueue]
      rw [hidle]
      exact ⟨done, waiting, hdata⟩

theorem Gateway.Start.routesData (h : s.Start) : s.RoutesData cfg s.ecuList s.mem [] [] := by
  constructor
  case ecuList => rfl
  case gatewayQueue => exact h.gatewayQueue
  case gatewayTask => exact h.gatewayTask
  case accepted => exact h.accepted
  case queued =>
    rw [h.pduQueue]
    exact .nil
  case arrived => exact fun frame hframe => nomatch hframe
  case built =>
    intro n frame pdu hisr
    rw [h.isr n] at hisr
    cases hisr
  case task =>
    rw [h.sends, h.pduTask]
    exact .receive []

/-- What left the queue is what was accepted before what is in it. -/
theorem Gateway.RoutesData.dequeued (h : s.RoutesData cfg ecus m done waiting) :
    s.dequeued = done := by
  have hlen : waiting.length = s.pduQueue.items.length := h.queued.length_eq
  rw [Gateway.dequeued, h.accepted, List.length_append, hlen, Nat.add_sub_cancel,
    List.take_left]

theorem Gateway.interrupt_full (hfull : s.pduQueue.Full) (n : Nat) (frame : CanMessage) :
    s.interrupt n frame = s := by
  unfold Gateway.interrupt
  rw [if_pos (.inl hfull)]

theorem Gateway.enqueue_full (hfull : s.pduQueue.Full) (n : Nat) :
    (s.enqueue n).sends = s.sends ∧ (s.enqueue n).pduQueue = s.pduQueue ∧
      (s.enqueue n).dequeued = s.dequeued ∧ (s.enqueue n).pduTask = s.pduTask := by
  unfold Gateway.enqueue
  cases s.isr n with
  | none => exact ⟨rfl, rfl, rfl, rfl⟩
  | some held =>
      dsimp only
      rw [RtosQueue.send_eq_none.mpr hfull]
      exact ⟨rfl, rfl, rfl, rfl⟩

theorem Gateway.RouteInv.routedExactly (h : s.RouteInv cfg ecus base) :
    s.RoutedExactly cfg ecus := by
  obtain ⟨howned, done, waiting, hdata⟩ := h
  constructor
  case sends =>
    intro htask
    have ht := hdata.task
    rw [htask] at ht
    rw [hdata.dequeued]
    exact ht.of_receive
  case dropped => exact s.interrupt_full
  case refused => exact s.enqueue_full
  case unused => exact howned.noneDead

end

/-- **Data frames are routed exactly and in order**, in every state of every
run on data frames with a descriptor, for any tables whose destinations are on
CAN and queues of any sizes. This is about what is sent; whether the prints of
these frames stay in their buffers is `console_in_bounds_iff`. -/
theorem data_routed_exactly {cfg : Config} {s : Gateway} (hstart : s.Start)
    (hroutes : cfg.RoutesToCan s.ecuList) (hmalloc : ∀ k, s.mem.heap.oom k = false)
    (es : List GatewayEvent) (hdata : ∀ e ∈ es, e.IsData cfg) :
    Runs.Always (Runs.total (gatewayStep cfg)) (Gateway.RoutedExactly cfg s.ecuList) s es := by
  have hinv : s.RouteInv cfg s.ecuList s.mem.heap.brk :=
    ⟨hstart.owned hmalloc, [], [], hstart.routesData⟩
  apply Runs.always_of_inv _ _ hinv (Runs.meets_of_forall hdata)
  · intro s' h
    exact h.routedExactly
  · intro s₁ e s₂ h he hstep
    cases hstep
    exact h.step hroutes he

/-- The tables in pdu_table.c and ecu_table.c. -/
theorem frameworkConfig_routesToCan : frameworkConfig.RoutesToCan ecuTable := by
  intro pduId hlt ecuId hecu
  have hdests : (pduTable pduId).dests = [3, 0] ∨ (pduTable pduId).dests = [3, 2] := by
    unfold pduTable
    split
    · exact .inl rfl
    · right
      rw [if_pos (UInt32.lt_iff_toNat_lt.mpr hlt)]
      rfl
  have hmem : ecuId ∈ (pduTable pduId).dests := hecu
  rcases hdests with hdests | hdests <;> rw [hdests] at hmem <;>
    rcases List.mem_cons.mp hmem with rfl | hmem
  · decide
  · rw [List.mem_singleton.mp hmem]
    decide
  · decide
  · rw [List.mem_singleton.mp hmem]
    decide

/-- A frame of three bytes for ECUs 3 and 2, and one that arrives meanwhile. -/
theorem data_routed_exactly_two_frames :
    Runs.Always (Runs.total (gatewayStep frameworkConfig))
      (Gateway.RoutedExactly frameworkConfig ecuTable) Gateway.initial
      [.interrupt 0 { id := 0x10000001, length := 3, data := fun _ => 7 }, .enqueue 0,
        .pduTask, .pduTask, .pduTask,
        .interrupt 1 { id := 0x10000002, length := 1, data := fun _ => 8 },
        .pduTask, .enqueue 1, .pduTask, .pduTask] := by
  apply data_routed_exactly Gateway.initial_start frameworkConfig_routesToCan fun _ => rfl
  decide

end XcanRouter
