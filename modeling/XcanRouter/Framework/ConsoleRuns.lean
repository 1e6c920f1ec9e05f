import XcanRouter.Framework.Alongside
import XcanRouter.Framework.Console
import XcanRouter.Framework.Indices

/-!
# The console over runs

Which prints come up depends on the traffic, on the list of ECUs, which the
traffic changes, and on the outcome of each send. Here are the frames whose
prints fit whatever happens to them, what the console tells of the traffic,
and the requests of an update whose prints do not fit.
-/

namespace XcanRouter

/-- An event with the outcome of the send in it, if there is one. -/
abbrev ConsoleEvent := GatewayEvent × SendStatus

def consoleStep (cfg : Config) (s : Gateway) (e : ConsoleEvent) : Gateway := gatewayStep cfg s e.1

/-- No print of the step is written behind its buffer. -/
def Gateway.PrintsInBounds (cfg : Config) (labels : UInt32 → CString) (stack : Nat → Char)
    (s : Gateway) (e : ConsoleEvent) : Prop :=
  ∀ p ∈ s.printouts labels stack cfg e.1 e.2, p.InBounds

/-- The prints of a frame fit, for every ECU it may be sent to and every outcome
of the send: its label is short enough for its length, and its bytes are few
enough for an error. -/
def Config.Prints (cfg : Config) (labels : UInt32 → CString) (id : UInt32) (length : UInt8) :
    Prop :=
  pduType id = .normal →
    (labels (id &&& pduIdMaskEcuId)).text.length ≤ 15 + length.toNat * 3 ∧
      ((cfg.pduDescriptors (id &&& ~~~pduIdMaskTypeData)).destCount ≠ 0 →
        (labels (id &&& pduIdMaskEcuId)).text.length ≤ 13 + length.toNat * 3 ∧
          length.toNat ≤ 33)

instance (cfg : Config) (labels : UInt32 → CString) (id : UInt32) (length : UInt8) :
    Decidable (cfg.Prints labels id length) :=
  inferInstanceAs (Decidable (_ → _))

/-! ## Labels and instances -/

section
variable {cfg : Config} {labels : UInt32 → CString} {stack : Nat → Char} {s : Gateway}

theorem messageLabel_normal {id : UInt32} (h : pduType id = .normal) :
    messageLabel labels id = (labels (id &&& pduIdMaskEcuId)).text := by
  unfold messageLabel
  rw [if_pos (pduType_eq_normal.mp h)]

theorem length_messageLabel_le (labels : UInt32 → CString) {id : UInt32}
    (h : pduType id ≠ .normal) : (messageLabel labels id).length ≤ 10 := by
  unfold messageLabel
  rw [if_neg (mt pduType_eq_normal.mpr h)]
  split
  · decide
  · split <;> decide

/-- A bit-field of four bits has two decimal digits at most. -/
theorem length_decimal_instIdx_le (ecu : Ecu) : (decimal ecu.instIdx).length ≤ 2 := by
  have hlt : ecu.peripheral.toNat < 16 := ecu.peripheral.isLt
  have hinst : ecu.instIdx.toNat = ecu.peripheral.toNat := by
    show (UInt32.ofNat ecu.peripheral.toNat).toNat = _
    rw [UInt32.toNat_ofNat']
    exact Nat.mod_eq_of_lt (by omega)
  unfold decimal
  rw [hinst, if_pos (by omega), Nat.length_toDigits_le_iff (by omega) (by omega)]
  omega

/-- What a message that `PDU_Task` sends is made of. -/
structure SentOf (cfg : Config) (s : Gateway) (msg : CanSend) (pdu : Pdu) : Prop where
  sending : ∃ i, s.pduTask = .sending pdu i
  destCount : (cfg.pduDescriptors (pdu.id &&& ~~~pduIdMaskTypeData)).destCount ≠ 0
  id : msg.id = pdu.id
  length : msg.length = pdu.length
  payload : msg.payload.length = msg.length.toNat
  instIdx : ∃ ecuId, msg.instIdx = (s.ecuList ecuId).instIdx

/-- The loop over the destinations is at one of them. -/
theorem mem_sent {e : GatewayEvent} {msg : CanSend} (hmsg : msg ∈ s.sent cfg e) :
    ∃ pdu i, s.pduTask = .sending pdu i ∧
      (cfg.pduDescriptors (pdu.id &&& ~~~pduIdMaskTypeData)).destCount ≠ 0 ∧
      ∃ ecuId, msg ∈ (pdu.packet s.mem).send (s.ecuList ecuId) := by
  cases e with
  | pduTask =>
      unfold Gateway.sent at hmsg
      cases htask : s.pduTask with
      | sending pdu i =>
          rw [htask] at hmsg
          dsimp only at hmsg
          split at hmsg
          · rename_i hi
            rw [ecuSendPdu_packet] at hmsg
            refine ⟨pdu, i, rfl, ?_, _, hmsg⟩
            intro hzero
            rw [hzero] at hi
            exact absurd hi UInt8.not_lt_zero
          · cases hmsg
      | _ =>
          rw [htask] at hmsg
          cases hmsg
  | _ => cases hmsg

theorem Gateway.sent_of {e : GatewayEvent} {msg : CanSend} (hmsg : msg ∈ s.sent cfg e) :
    ∃ pdu, SentOf cfg s msg pdu := by
  obtain ⟨pdu, i, htask, hcount, ecuId, hsend⟩ := mem_sent hmsg
  have hlength := Pdu.packet_length s.mem pdu
  unfold Packet.send at hsend
  split at hsend
  · obtain rfl := List.mem_singleton.mp hsend
    refine ⟨pdu, ⟨i, htask⟩, hcount, rfl, hlength, ?_, ecuId, rfl⟩
    rw [hlength]
    simp [Pdu.packet]
  · cases hsend

/-! ## What fits -/

theorem Config.Prints.dispatch {pdu : Pdu} (h : cfg.Prints labels pdu.id pdu.length) :
    ∀ p ∈ s.dispatchPrintouts labels stack pdu, p.InBounds := by
  intro p hp
  rcases List.mem_cons.mp hp with rfl | hp
  · rw [pduPrintout_inBounds]
    by_cases hdata : pduType pdu.id = .normal
    · rw [messageLabel_normal hdata]
      exact (h hdata).1
    · have hlabel := length_messageLabel_le labels hdata
      omega
  · split at hp
    · split at hp
      · rw [List.mem_singleton.mp hp]
        exact consolePrintError_inBounds _
      · cases hp
    · split at hp
      · rw [List.mem_singleton.mp hp]
        exact consolePrintError_inBounds _
      · cases hp
    · cases hp

theorem Config.Prints.send {pdu : Pdu} {msg : CanSend} (h : cfg.Prints labels pdu.id pdu.length)
    (hdata : pduType pdu.id = .normal) (hmsg : SentOf cfg s msg pdu) (stat : SendStatus) :
    ∀ p ∈ canSendPrintouts labels stack msg stat, p.InBounds := by
  obtain ⟨hlabel, hlength⟩ := (h hdata).2 hmsg.destCount
  obtain ⟨ecuId, hinst⟩ := hmsg.instIdx
  have hdigits := length_decimal_instIdx_le (s.ecuList ecuId)
  unfold canSendPrintouts
  split
  · intro p hp
    rw [List.mem_singleton.mp hp, canPrintFrame_inBounds, hmsg.id, hmsg.length, hinst,
      messageLabel_normal hdata]
    omega
  · rw [canPrintError_inBounds, hmsg.length]
    exact hlength

/-! ## Runs -/

/-- Every PDU is of a frame whose prints fit, and one that is sent is data. -/
structure Gateway.Printable (cfg : Config) (labels : UInt32 → CString) (s : Gateway) : Prop where
  prints : ∀ i, ∀ pdu ∈ s.pdusAt i, cfg.Prints labels pdu.id pdu.length
  data : ∀ pdu i, s.pduTask = .sending pdu i → pduType pdu.id = .normal

theorem interrupt_pdusAt {n : Nat} {frame : CanMessage} {j : Place} {pdu : Pdu}
    (h : pdu ∈ (s.interrupt n frame).pdusAt j) :
    pdu ∈ s.pdusAt j ∨ pdu.id = frame.id ∧ pdu.length = frame.length := by
  unfold Gateway.interrupt at h
  split at h
  · exact .inl h
  · cases j with
    | isr k =>
        by_cases hk : k = n
        · subst hk
          simp only [Gateway.pdusAt, Function.update_self, Option.map_some,
            Option.toList_some, List.mem_singleton] at h
          rw [h]
          exact .inr ⟨rfl, rfl⟩
        · simp only [Gateway.pdusAt, Function.update_of_ne hk] at h
          exact .inl h
    | _ => exact .inl h

theorem Gateway.Printable.step (h : s.Printable cfg labels) {e : GatewayEvent}
    (he : ∀ n frame, e = .interrupt n frame → cfg.Prints labels frame.id frame.length) :
    (gatewayStep cfg s e).Printable cfg labels := by
  constructor
  case prints =>
    intro j pdu hpdu
    cases e with
    | interrupt n frame =>
        rcases interrupt_pdusAt hpdu with hold | ⟨hid, hlength⟩
        · exact h.prints j pdu hold
        · rw [hid, hlength]
          exact he n frame rfl
    | _ =>
        cases gatewayStep_origin hpdu with
        | built n frame event place id => cases event
        | stayed hold => exact h.prints j pdu hold
        | passed i hold hop => exact h.prints i pdu hold
  case data =>
    intro pdu i hsending
    rcases gatewayStep_sending hsending with htype | ⟨k, hk⟩
    · exact htype
    · exact h.data pdu k hk

/-- `PDU_Task` has the PDU that it sorts. -/
theorem mem_decided {e : GatewayEvent} {pdu : Pdu} (h : pdu ∈ s.decided e) :
    pdu ∈ s.pdusAt .pduTask := by
  cases e with
  | pduTask =>
      unfold Gateway.decided at h
      cases htask : s.pduTask with
      | dispatch work =>
          rw [htask] at h
          rw [List.mem_singleton.mp h]
          simp [Gateway.pdusAt, htask, PduTask.pdus]
      | _ =>
          rw [htask] at h
          cases h
  | _ => cases h

theorem Gateway.Printable.printsInBounds (h : s.Printable cfg labels) (e : ConsoleEvent) :
    s.PrintsInBounds cfg labels stack e := by
  obtain ⟨e, stat⟩ := e
  intro p hp
  rcases List.mem_append.mp hp with hp | hp
  · obtain ⟨pdu, hdecided, hp⟩ := List.mem_flatMap.mp hp
    exact Config.Prints.dispatch (h.prints .pduTask pdu (mem_decided hdecided)) p hp
  · obtain ⟨msg, hmsg, hp⟩ := List.mem_flatMap.mp hp
    obtain ⟨pdu, hof⟩ := Gateway.sent_of hmsg
    obtain ⟨i, htask⟩ := hof.sending
    refine Config.Prints.send (h.prints .pduTask pdu ?_) (h.data pdu i htask) hof stat p hp
    simp [Gateway.pdusAt, htask, PduTask.pdus]

theorem Gateway.Start.printable (h : s.Start) : s.Printable cfg labels := by
  constructor
  case prints =>
    intro i pdu hpdu
    rw [h.pdusAt i] at hpdu
    cases hpdu
  case data =>
    intro pdu i hsending
    rw [h.pduTask] at hsending
    cases hsending

theorem Gateway.Start.run_printsInBounds (h : s.Start) {es : List ConsoleEvent}
    (hes : ∀ e ∈ es, ∀ n frame, e.1 = .interrupt n frame →
      cfg.Prints labels frame.id frame.length) :
    Runs.Meets (Runs.total (consoleStep cfg)) (Gateway.PrintsInBounds cfg labels stack) s es := by
  apply Runs.meets_of_inv (I := Gateway.Printable cfg labels) (A := fun _ _ => True) _ _
    h.printable (Runs.meets_of_forall fun _ _ => trivial) (Runs.meets_of_forall hes)
  · intro s₁ e s₂ hprintable _ he hstep
    cases hstep
    exact hprintable.step he
  · intro s₁ e hprintable _ _
    exact hprintable.printsInBounds e

/-! ## Prints that do not fit -/

/-- Every ECU is at the CAN with the highest number. -/
def Gateway.remote : Gateway :=
  { Gateway.initial with ecuList := fun _ => { protocol := protocolCan, peripheral := 15 } }

theorem Gateway.remote_start : Gateway.remote.Start := by
  constructor <;> first | rfl | exact fun _ => rfl

/-- A frame up to the PDU that `PDU_Task` received, and its first two steps
with it. -/
def printedArrival (frame : CanMessage) (stat : SendStatus) : List ConsoleEvent :=
  (frameArrival frame).map (·, .success) ++ [(.pduTask, .success), (.pduTask, stat)]

theorem stepPduTask_data {pdu : Pdu} (htask : s.pduTask = .dispatch pdu)
    (hdata : pduType pdu.id = .normal) :
    gatewayStep cfg s .pduTask =
      { s with mem := (pduPrintPdu pdu s.mem).2, pduTask := .sending pdu 0 } := by
  show s.stepPduTask cfg = _
  unfold Gateway.stepPduTask
  rw [htask]
  dsimp only
  unfold Gateway.dispatch
  rw [hdata]

/-- The first message for a PDU. -/
theorem sent_first {pdu : Pdu} {ecu : Ecu} (htask : s.pduTask = .sending pdu 0)
    (hcount : (cfg.pduDescriptors (pdu.id &&& ~~~pduIdMaskTypeData)).destCount ≠ 0)
    (hcan : ecu.protocol = protocolCan) (hecus : s.ecuList = fun _ => ecu) :
    ∃ msg ∈ s.sent cfg .pduTask, msg.id = pdu.id ∧ msg.length = pdu.length ∧
      msg.instIdx = ecu.instIdx := by
  have hfirst : 0 < (cfg.pduDescriptors (pdu.id &&& ~~~pduIdMaskTypeData)).destCount :=
    UInt8.pos_iff_ne_zero.mpr hcount
  unfold Gateway.sent
  rw [htask]
  dsimp only
  rw [if_pos hfirst, ecuSendPdu_packet, hecus, Packet.send, if_pos hcan]
  exact ⟨_, List.mem_singleton_self _, rfl, Pdu.packet_length s.mem pdu, rfl⟩

/-- `PDU_Task` has the PDU of a frame, and the ECUs are remote. -/
structure Gateway.Received (s : Gateway) (frame : CanMessage) (pdu : Pdu) : Prop where
  pduTask : s.pduTask = .dispatch pdu
  id : pdu.id = frame.id
  length : pdu.length = frame.length
  ecuList : s.ecuList = Gateway.remote.ecuList

theorem arrival_received (cfg : Config) (frame : CanMessage) :
    ((frameArrival frame).foldl (gatewayStep cfg) Gateway.remote).Received frame
      (canBuildPdu frame {}).1 := by
  constructor <;> rfl

/-- The line of a data frame comes up. -/
theorem Gateway.Received.line {frame : CanMessage} {pdu : Pdu} (h : s.Received frame pdu)
    (hdata : pduType frame.id = .normal) {stat : SendStatus}
    (hprints : s.PrintsInBounds cfg labels stack (.pduTask, stat)) :
    (labels (frame.id &&& pduIdMaskEcuId)).text.length ≤ 15 + frame.length.toNat * 3 := by
  have hline : (pduPrintout labels stack pdu false (s.mem.byteAt (pdu.byte 0))).InBounds := by
    have hdecided : s.decided .pduTask = [pdu] := by
      unfold Gateway.decided
      rw [h.pduTask]
    apply hprints
    apply List.mem_append_left
    rw [hdecided, List.flatMap_singleton]
    exact List.mem_cons_self
  rwa [pduPrintout_inBounds, h.id, h.length, messageLabel_normal hdata] at hline

/-- A message of a data frame comes up with each outcome. -/
theorem Gateway.Received.message {frame : CanMessage} {pdu : Pdu} (h : s.Received frame pdu)
    (hdata : pduType frame.id = .normal)
    (hcount : (cfg.pduDescriptors (frame.id &&& ~~~pduIdMaskTypeData)).destCount ≠ 0)
    (hprints : ∀ stat, (gatewayStep cfg s .pduTask).PrintsInBounds cfg labels stack
      (.pduTask, stat)) :
    (labels (frame.id &&& pduIdMaskEcuId)).text.length ≤ 13 + frame.length.toNat * 3 ∧
      frame.length.toNat ≤ 33 := by
  rw [stepPduTask_data h.pduTask (by rw [h.id, hdata])] at hprints
  rw [← h.id] at hcount
  obtain ⟨msg, hmsg, hid, hlength, hinst⟩ := sent_first
    (s := { s with mem := (pduPrintPdu pdu s.mem).2, pduTask := .sending pdu 0 }) rfl
    hcount rfl h.ecuList
  have hsend : ∀ stat, ∀ p ∈ canSendPrintouts labels stack msg stat, p.InBounds := by
    intro stat p hp
    apply hprints stat
    exact List.mem_append_right _ (List.mem_flatMap.mpr ⟨msg, hmsg, hp⟩)
  constructor
  · have hfits : (canPrintFrame labels stack msg true).InBounds :=
      hsend .success _ (List.mem_singleton_self _)
    have hdigits : (decimal msg.instIdx).length = 2 := by
      rw [hinst]
      decide
    rw [canPrintFrame_inBounds, hdigits, hid, hlength, h.id, h.length,
      messageLabel_normal hdata] at hfits
    omega
  · have herror := canPrintError_inBounds.mp (hsend .error)
    rwa [hlength, h.length] at herror

/-- The prints of a frame come up, one for each outcome of its first send. -/
theorem prints_come_up {frame : CanMessage}
    (h : ∀ stat, Runs.Meets (Runs.total (consoleStep cfg))
      (Gateway.PrintsInBounds cfg labels stack) Gateway.remote (printedArrival frame stat)) :
    cfg.Prints labels frame.id frame.length := by
  have hreceived := arrival_received cfg frame
  have hprints : ∀ stat, ((frameArrival frame).foldl (gatewayStep cfg)
      Gateway.remote).PrintsInBounds cfg labels stack (.pduTask, .success) ∧
      (gatewayStep cfg ((frameArrival frame).foldl (gatewayStep cfg) Gateway.remote)
        .pduTask).PrintsInBounds cfg labels stack (.pduTask, stat) := by
    intro stat
    have hmeets := h stat
    rw [printedArrival, Runs.meets_total_append, Runs.meets_total_cons,
      Runs.meets_total_cons] at hmeets
    exact ⟨hmeets.2.1, hmeets.2.2.1⟩
  intro hdata
  exact ⟨hreceived.line hdata (hprints .success).1,
    fun hcount => hreceived.message hdata hcount fun stat => (hprints stat).2⟩

end

/-- **The console stays in its buffers exactly when** the label of every data
frame that may arrive is short enough for it, and its bytes are few enough:
in all runs on these frames, with any list of ECUs and any outcome of each
send. Commands and acknowledgements always fit. -/
theorem console_in_bounds_iff (cfg : Config) (labels : UInt32 → CString)
    (frames : CanMessage → Prop) :
    (∀ (s : Gateway) (stack : Nat → Char) (es : List ConsoleEvent), s.Start →
        (∀ n frame stat, (.interrupt n frame, stat) ∈ es → frames frame) →
        Runs.Meets (Runs.total (consoleStep cfg)) (Gateway.PrintsInBounds cfg labels stack) s es) ↔
      ∀ frame, frames frame → cfg.Prints labels frame.id frame.length := by
  constructor
  · intro h frame hframe
    apply prints_come_up
    intro stat
    apply h Gateway.remote (fun _ => ' ') _ Gateway.remote_start
    intro n frame' stat' hmem
    have hmem' : (n = 0 ∧ frame' = frame) ∧ stat' = .success := by
      simpa [printedArrival, frameArrival] using hmem
    rw [hmem'.1.2]
    exact hframe
  · intro h s stack es hstart hes
    apply hstart.run_printsInBounds
    rintro ⟨e, stat⟩ he n frame rfl
    exact h frame (hes n frame stat he)

/-- The longest label of pdu_table.c is too long for a byte. -/
example : ¬ frameworkConfig.Prints pduLabels 0x10000003 1 := by
  unfold Config.Prints
  decide

/-! ## The log of a run -/

theorem CanMessage.packet_length (frame : CanMessage) : frame.packet.length = frame.length := by
  simp [Packet.length, CanMessage.packet, CanMessage.payload]

def Packet.printed (p : Packet) : PrintedMessage := { id := p.id, data := p.data }

def CanSend.printed (msg : CanSend) : PrintedMessage := { id := msg.id, data := msg.payload }

/-- The strings that a step shows. -/
def Gateway.shown (cfg : Config) (labels : UInt32 → CString) (stack : Nat → Char) (s : Gateway)
    (e : ConsoleEvent) : List (List Char) :=
  (s.printouts labels stack cfg e.1 e.2).flatMap Printout.shown

/-- The messages that a step has to show. -/
def Gateway.logged (cfg : Config) (s : Gateway) (e : ConsoleEvent) : List LogEntry :=
  (s.decided e.1).map (fun pdu => { sent := false, message := (pdu.packet s.mem).printed }) ++
    (s.sent cfg e.1).map fun msg => { sent := true, message := msg.printed }

/-- What the console tells: the frames that were accepted, up to those that
`PDU_Task` has not printed yet, and the messages that were sent. -/
structure Gateway.ToldBy (log : List LogEntry) (s : Gateway) : Prop where
  received : (log.filter fun entry => !entry.sent).map LogEntry.message ++
      (s.decided .pduTask ++ s.pduQueue.items).map (fun pdu => (pdu.packet s.mem).printed) =
    s.accepted.map fun frame => frame.packet.printed
  sent : (log.filter LogEntry.sent).map LogEntry.message = s.sends.map CanSend.printed

section
variable {cfg : Config} {labels : UInt32 → CString} {stack : Nat → Char} {s : Gateway}

theorem readLog_flatMap {α : Type} {l : List α} {f : α → List Printout} {g : α → LogEntry}
    (h : ∀ a ∈ l, ∀ rest, readLog ((f a).flatMap Printout.shown ++ rest) = g a :: readLog rest)
    (rest : List (List Char)) :
    readLog ((l.flatMap f).flatMap Printout.shown ++ rest) = l.map g ++ readLog rest := by
  induction l with
  | nil => rfl
  | cons a l ih =>
      rw [List.flatMap_cons, List.flatMap_append, List.append_assoc, h a List.mem_cons_self,
        ih fun b hb => h b (List.mem_cons_of_mem a hb)]
      rfl

/-- What a step shows is read as the messages of the step. -/
theorem readLog_shown (s : Gateway) (e : ConsoleEvent) (rest : List (List Char)) :
    readLog (s.shown cfg labels stack e ++ rest) = s.logged cfg e ++ readLog rest := by
  unfold Gateway.shown Gateway.printouts Gateway.logged
  rw [List.flatMap_append, List.append_assoc]
  rw [readLog_flatMap fun pdu _ rest => readLog_dispatchPrintouts s pdu rest]
  rw [readLog_flatMap (g := fun msg => { sent := true, message := msg.printed })]
  · rw [List.append_assoc]
    rfl
  · intro msg hmsg rest
    obtain ⟨pdu, hof⟩ := Gateway.sent_of hmsg
    exact readLog_canSendPrintouts hof.payload e.2 rest

theorem readLog_trace (s : Gateway) (es : List ConsoleEvent) :
    readLog (Runs.trace (consoleStep cfg) (Gateway.shown cfg labels stack) s es) =
      Runs.trace (consoleStep cfg) (Gateway.logged cfg) s es := by
  induction es generalizing s with
  | nil => rfl
  | cons e es ih => rw [Runs.trace_cons, Runs.trace_cons, readLog_shown, ih]

/-- The messages that were not sent. -/
theorem logged_received (s : Gateway) (e : ConsoleEvent) :
    ((s.logged cfg e).filter fun entry => !entry.sent).map LogEntry.message =
      ((s.decided e.1).map (Pdu.packet s.mem)).map Packet.printed := by
  simp [Gateway.logged, List.filter_append, List.filter_map, Function.comp_def]

theorem logged_sent (s : Gateway) (e : ConsoleEvent) :
    ((s.logged cfg e).filter LogEntry.sent).map LogEntry.message =
      (s.sent cfg e.1).map CanSend.printed := by
  simp [Gateway.logged, List.filter_append, List.filter_map, Function.comp_def]

theorem Gateway.Shows.waiting {r : Relay} (h : s.Shows s.mem r) :
    r.waiting = (s.decided .pduTask ++ s.pduQueue.items).map (Pdu.packet s.mem) := by
  rw [List.map_append, ← h.decided .pduTask, ← h.inbox.2]
  rfl

/-- A relay that has handed on what is not waiting. -/
theorem Relay.run_arrived (cfg : Config) {r : Relay} (hwaiting : r.waiting = [])
    (harrived : r.arrived = []) (es : List ConsoleEvent) :
    let r' := es.foldl (fun r e => relayStep cfg r e.1) r
    r'.arrived =
      Runs.trace (fun r e => relayStep cfg r e.1) (fun r e => r.decided e.1) r es ++
        r'.waiting := by
  have hflow := Runs.trace_flow Relay.waiting
    (fun (r : Relay) (e : ConsoleEvent) => (relayStep_move cfg r e.1).flow_waiting) r es
  have hin := Runs.foldl_append_trace Relay.arrived
    (fun (r : Relay) (e : ConsoleEvent) => (relayStep_move cfg r e.1).arrived) r es
  rw [hwaiting, List.nil_append] at hflow
  rw [harrived, List.nil_append] at hin
  exact hin.trans hflow

theorem Gateway.Start.toldBy (L : EcuLayout cfg) (h : s.Start)
    (hmalloc : ∀ k, s.mem.heap.oom k = false) {es : List ConsoleEvent}
    (hes : ∀ e ∈ es, e.1.Brings Packet.CommandComplete) :
    (es.foldl (consoleStep cfg) s).ToldBy
      (Runs.trace (consoleStep cfg) (Gateway.logged cfg) s es) := by
  have hstep : ∀ s₁ r₁ (e : ConsoleEvent), Gateway.Follows s.mem.heap.brk s₁ r₁ →
      e.1.Brings Packet.CommandComplete →
      Gateway.Follows s.mem.heap.brk (consoleStep cfg s₁ e) (relayStep cfg r₁ e.1) :=
    fun s₁ r₁ e hfollows he => hfollows.step L he
  have hdecided := Runs.trace_of_simulation hstep
    (fun s₁ r₁ e h₁ _ => (h₁.shows.decided e.1).symm) (h.follows hmalloc) hes
  have hshows := (Runs.foldl_of_simulation hstep (h.follows hmalloc) hes).shows
  have harrived := Relay.run_arrived cfg (r := s.relay) rfl rfl es
  constructor
  case received =>
    have hall : (es.foldl (consoleStep cfg) s).accepted.map CanMessage.packet =
        Runs.trace (consoleStep cfg) (fun s e => (s.decided e.1).map (Pdu.packet s.mem)) s es ++
          ((es.foldl (consoleStep cfg) s).decided .pduTask ++
            (es.foldl (consoleStep cfg) s).pduQueue.items).map
              (Pdu.packet (es.foldl (consoleStep cfg) s).mem) := by
      rw [hdecided, ← hshows.waiting, ← hshows.arrived]
      exact harrived
    have hprinted := congrArg (List.map Packet.printed) hall
    rw [List.map_append, List.map_map, List.map_map, Runs.trace_map] at hprinted
    rw [Runs.trace_filter, Runs.trace_map]
    simp only [logged_received]
    exact hprinted.symm
  case sent =>
    have hsends := Runs.foldl_append_trace Gateway.sends
      (fun (s : Gateway) (e : ConsoleEvent) => gatewayStep_sends cfg s e.1) s es
    have hall : (es.foldl (consoleStep cfg) s).sends =
        Runs.trace (consoleStep cfg) (fun s e => s.sent cfg e.1) s es := by
      rw [h.sends, List.nil_append] at hsends
      exact hsends
    rw [Runs.trace_filter, Runs.trace_map]
    simp only [logged_sent]
    rw [hall, Runs.trace_map]

end

/-- **The console tells the traffic**: in every run on frames whose prints fit
and whose commands have the bytes that are read of them, with any outcome of
each send, nothing is written behind a buffer, and the strings that are shown
read back as the frames that were accepted, in order, up to those that are
not printed yet, and the messages that were sent, in order. -/
theorem console_tells_traffic {cfg : Config} (L : EcuLayout cfg) {s : Gateway}
    (hstart : s.Start) (hmalloc : ∀ k, s.mem.heap.oom k = false) (labels : UInt32 → CString)
    (stack : Nat → Char) (es : List ConsoleEvent)
    (hcomplete : ∀ e ∈ es, e.1.Brings Packet.CommandComplete)
    (hprints : ∀ e ∈ es, e.1.Brings fun p => cfg.Prints labels p.id p.length) :
    Runs.Meets (Runs.total (consoleStep cfg)) (Gateway.PrintsInBounds cfg labels stack) s es ∧
      (es.foldl (consoleStep cfg) s).ToldBy
        (readLog (Runs.trace (consoleStep cfg) (Gateway.shown cfg labels stack) s es)) := by
  constructor
  · apply hstart.run_printsInBounds
    rintro ⟨e, stat⟩ he n frame rfl
    have hframe : cfg.Prints labels frame.id frame.packet.length := hprints _ he
    rwa [CanMessage.packet_length] at hframe
  · rw [readLog_trace]
    exact hstart.toldBy L hmalloc hcomplete

/-- A data frame whose second send fails, and a command. -/
theorem console_tells_traffic_failed_send :
    let es : List ConsoleEvent :=
      [(.interrupt 0 { id := 0x10000001, length := 3, data := fun _ => 7 }, .success),
        (.interrupt 1 { id := 0x08000002, length := 2, data := fun i => [3, 7].getD i 0 },
          .success),
        (.enqueue 0, .success), (.enqueue 1, .success), (.pduTask, .success),
        (.pduTask, .success), (.pduTask, .success), (.pduTask, .timeout), (.pduTask, .success),
        (.pduTask, .success)]
    Runs.Meets (Runs.total (consoleStep frameworkConfig))
        (Gateway.PrintsInBounds frameworkConfig pduLabels fun _ => ' ') Gateway.initial es ∧
      (es.foldl (consoleStep frameworkConfig) Gateway.initial).ToldBy
        (readLog (Runs.trace (consoleStep frameworkConfig)
          (Gateway.shown frameworkConfig pduLabels fun _ => ' ') Gateway.initial es)) := by
  apply console_tells_traffic frameworkLayout Gateway.initial_start fun _ => rfl
  · decide
  · decide

/-! ## Updates -/

/-- A station with the outcome of the send in a step, if there is one. -/
abbrev StationConsoleEvent (P : Platform) := StationEvent P × SendStatus

/-- The requests of updates, with the outcomes of their sends. -/
def Station.outcomes {P : Platform} (s : Station) (e : StationConsoleEvent P) :
    List (CanSend × SendStatus) :=
  (s.requests e.1).map (·, e.2)

/-- What `CAN_sendFrame` prints of them. -/
def Station.printouts {P : Platform} (labels : UInt32 → CString) (stack : Nat → Char)
    (s : Station) (e : StationConsoleEvent P) : List Printout :=
  (s.requests e.1).flatMap fun msg => canSendPrintouts labels stack msg e.2

/-- **A request fits** unless it is a frame that was not sent. -/
theorem CanSend.IsRequest.printouts_inBounds {msg : CanSend} (h : msg.IsRequest)
    (labels : UInt32 → CString) (stack : Nat → Char) (stat : SendStatus) :
    (∀ p ∈ canSendPrintouts labels stack msg stat, p.InBounds) ↔
      (msg.length = 64 → stat = .success) := by
  obtain ⟨ecu, hinst⟩ := h.instIdx
  have hdigits := length_decimal_instIdx_le ecu
  have hlabel : (messageLabel labels msg.id).length ≤ 10 := by
    apply length_messageLabel_le
    rw [h.type]
    exact PduType.noConfusion
  unfold canSendPrintouts
  split
  · rename_i hstat
    have hfits : (canPrintFrame labels stack msg true).InBounds := by
      rw [canPrintFrame_inBounds, hinst]
      omega
    simp [hfits, hstat]
  · rename_i hstat
    rw [canPrintError_inBounds]
    rcases h.length with hlength | hlength <;> simp [hlength, hstat]

def stationConsoleStep (cfg : Config) (P : Platform) (s : Station) (e : StationConsoleEvent P) :
    Station :=
  stationStep cfg P s e.1

/-- What is sent with its outcome are requests. -/
theorem Station.Start.outcomes_isRequest {P : Platform} {s : Station} (h : s.Start)
    (cfg : Config) (es : List (StationConsoleEvent P)) :
    ∀ x ∈ Runs.trace (stationConsoleStep cfg P) Station.outcomes s es, x.1.IsRequest := by
  apply Runs.forall_mem_trace (I := Station.Handles) (A := fun _ => True)
    (Q := fun x : CanSend × SendStatus => x.1.IsRequest) _ _ h.beside.handles fun _ _ => trivial
  · intro s e h _
    exact h.step e.1
  · intro s e h x hx
    obtain ⟨msg, hmsg, rfl⟩ := List.mem_map.mp hx
    exact h.isRequest hmsg

/-- **The errors of an update overrun exactly when** a firmware frame is not
sent: in every interleaving of the gateway with any updates, one after the
other, and any outcome of each send, every print of a request stays in its
buffer if and only if the send of every full frame succeeds. -/
theorem update_prints_iff {cfg : Config} {P : Platform} {s : Station} (hstart : s.Start)
    (labels : UInt32 → CString) (stack : Nat → Char) (es : List (StationConsoleEvent P)) :
    (∀ p ∈ Runs.trace (stationConsoleStep cfg P) (Station.printouts labels stack) s es,
        p.InBounds) ↔
      ∀ x ∈ Runs.trace (stationConsoleStep cfg P) Station.outcomes s es,
        x.1.length = 64 → x.2 = .success := by
  have hrequest := hstart.outcomes_isRequest cfg es
  have hprintouts : Runs.trace (stationConsoleStep cfg P) (Station.printouts labels stack) s es =
      (Runs.trace (stationConsoleStep cfg P) Station.outcomes s es).flatMap
        fun x => canSendPrintouts labels stack x.1 x.2 := by
    rw [Runs.trace_flatMap]
    simp only [Station.outcomes, List.flatMap_map]
    rfl
  rw [hprintouts]
  constructor
  · intro h x hx
    apply ((hrequest x hx).printouts_inBounds labels stack x.2).mp
    intro p hp
    exact h p (List.mem_flatMap.mpr ⟨x, hx, hp⟩)
  · intro h p hp
    obtain ⟨x, hx, hp⟩ := List.mem_flatMap.mp hp
    exact ((hrequest x hx).printouts_inBounds labels stack x.2).mpr (h x hx) p hp

/-- An update of ECU 2 up to its first frame. -/
def untilFrame : List (StationEvent memoryPlatform) :=
  .start 2 [7] false :: .update :: (arrival (resetReply 0x04000002) ++
    [.update, .update, .update, .update] ++
    arrival { resetReply 0x04000002 with data := fun _ => 0xFF } ++ [.update, .update, .update])

/-- The send of the frame times out. -/
def lostFrame : List (StationConsoleEvent memoryPlatform) :=
  untilFrame.map (·, .success) ++ [(.update, .timeout)]

theorem update_prints_iff_lost_frame :
    (∀ p ∈ Runs.trace (stationConsoleStep frameworkConfig memoryPlatform)
        (Station.printouts pduLabels fun _ => ' ') Station.initial lostFrame, p.InBounds) ↔
      ∀ x ∈ Runs.trace (stationConsoleStep frameworkConfig memoryPlatform) Station.outcomes
        Station.initial lostFrame, x.1.length = 64 → x.2 = .success :=
  update_prints_iff Station.initial_start pduLabels (fun _ => ' ') lostFrame

end XcanRouter
