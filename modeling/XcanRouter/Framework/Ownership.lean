import XcanRouter.Base.Custody
import XcanRouter.Framework.Gateway

/-!
# Who owns a payload

The buffer of a PDU has no owner field: whoever holds a copy of the PDU and is
last to do so has to free it. A step of the gateway builds a PDU, passes one
on from the front of a queue or from a task, or discards one. The buffers are
therefore tokens in custody of the queues and tasks, the list of frees being
where they are given back.
-/

namespace XcanRouter

/-! ## Where PDUs are -/

inductive Place where
  | isr (n : Nat)
  | pduQueue
  | pduTask
  | gatewayQueue
  | gatewayTask
  | fwUpdateQueue
deriving DecidableEq

/-- The local `pdu` of `PDU_Task`, while it is in use. -/
def PduTask.pdus : PduTask → List Pdu
  | .receive => []
  | .dispatch pdu => [pdu]
  | .sending pdu _ => [pdu]

/-- The local `pdu` of `Gateway_Task`, while it is in use. -/
def GatewayTask.pdus : GatewayTask → List Pdu
  | .receive => []
  | .parse pdu => [pdu]

def Gateway.pdusAt (s : Gateway) : Place → List Pdu
  | .isr n => ((s.isr n).map Prod.snd).toList
  | .pduQueue => s.pduQueue.items
  | .pduTask => s.pduTask.pdus
  | .gatewayQueue => s.gatewayQueue.items
  | .gatewayTask => s.gatewayTask.pdus
  | .fwUpdateQueue => s.fwUpdateQueue.items

/-- All PDUs of the gateway. -/
def Gateway.pdus (s : Gateway) : Fifos Place Pdu where
  items := s.pdusAt
  cap := fun _ => 0

/-- The payloads at a place, or with `none` the freed ones. -/
def Gateway.payloads (s : Gateway) : Option Place → List Ptr :=
  (s.pdus.owned Pdu.data s.mem.heap.frees).items

/-- The ways a PDU with this identifier may take. -/
inductive Hop (id : UInt32) : Place → Place → Prop where
  | built (n : Nat) : Hop id (.isr n) .pduQueue
  | received : Hop id .pduQueue .pduTask
  | command (h : pduType id = .command) : Hop id .pduTask .gatewayQueue
  | firmware (h : pduType id = .firmware) : Hop id .pduTask .fwUpdateQueue
  | taken : Hop id .gatewayQueue .gatewayTask

/-- What a step on event `e` does to PDUs and heap. -/
inductive PduMove (e : GatewayEvent) (s s' : Gateway) : Prop where
  | stay (pdus : s'.pdus = s.pdus) (heap : s'.mem.heap = s.mem.heap)
  | build (n : Nat) (frame : CanMessage) (event : e = .interrupt n frame)
      (pdus : s'.pdus = s.pdus.push (.isr n)
        { id := frame.id, length := frame.length, data := some s.mem.heap.brk })
      (heap : s'.mem.heap = s.mem.heap.grant frame.length.toNat)
  | pass (i j : Place) (pdu : Pdu) (l : List Pdu) (hop : Hop pdu.id i j)
      (head : s.pdus.items i = pdu :: l)
      (pdus : s'.pdus = (s.pdus.drop i 1).push j pdu) (heap : s'.mem.heap = s.mem.heap)
  | discard (i : Place) (pdu : Pdu) (l : List Pdu) (b : Ptr)
      (head : s.pdus.items i = pdu :: l) (data : pdu.data = some b)
      (pdus : s'.pdus = s.pdus.drop i 1) (heap : s'.mem.heap = s.mem.heap.free b)

/-- What is true of every PDU at a place. -/
structure Place.Fits (i : Place) (pdu : Pdu) : Prop where
  payload : ∃ b, pdu.data = some b
  command : i = .gatewayQueue ∨ i = .gatewayTask → pduType pdu.id = .command
  firmware : i = .fwUpdateQueue → pduType pdu.id = .firmware

/-- What the steps of the gateway rely on. -/
def Gateway.Sane (s : Gateway) : Prop :=
  ∀ i, ∀ pdu ∈ s.pdus.items i, i.Fits pdu

/-- The allocation of the event is granted. -/
def Gateway.HasMemory (s : Gateway) : GatewayEvent → Prop
  | .interrupt _ _ => s.mem.heap.oom s.mem.heap.calls = false
  | _ => True

/-- No payload in use was freed, nor is the next one. -/
structure Gateway.Live (s : Gateway) : Prop where
  held : ∀ i, ∀ pdu ∈ s.pdus.items i, ∀ b, pdu.data = some b → b ∉ s.mem.heap.frees
  next : s.mem.heap.brk ∉ s.mem.heap.frees

/-- The effect of a step on PDUs and memory. -/
structure StepEffect (e : GatewayEvent) (s s' : Gateway) : Prop where
  move : PduMove e s s'
  noneDead : s.Live → s.mem.NoneDead → s'.mem.NoneDead
  byte : ∀ b, b ≠ s.mem.heap.brk → s'.mem.byte b = s.mem.byte b

/-! ## The effect of each step -/

section
variable {cfg : Config} {e : GatewayEvent} {s s' : Gateway} {n : Nat} {pdu : Pdu}

/-- A family of PDUs is given by what it has at each place. -/
theorem pdus_eq {F : Fifos Place Pdu} (hcap : F.cap = fun _ => 0)
    (h : ∀ i, s.pdusAt i = F.items i) : s.pdus = F :=
  Fifos.ext (funext h) hcap.symm

/-- A PDU joins a place. -/
theorem pdus_join {i : Place} (hi : s'.pdusAt i = s.pdusAt i ++ [pdu])
    (hrest : ∀ k, k ≠ i → s'.pdusAt k = s.pdusAt k) : s'.pdus = s.pdus.push i pdu := by
  apply pdus_eq rfl
  intro k
  by_cases hk : k = i
  · subst hk
    rw [Fifos.push_items_self]
    exact hi
  · rw [Fifos.push_items_of_ne hk]
    exact hrest k hk

/-- The first PDU leaves a place. -/
theorem pdus_leave {i : Place} (hi : s'.pdusAt i = (s.pdusAt i).drop 1)
    (hrest : ∀ k, k ≠ i → s'.pdusAt k = s.pdusAt k) : s'.pdus = s.pdus.drop i 1 := by
  apply pdus_eq rfl
  intro k
  by_cases hk : k = i
  · subst hk
    rw [Fifos.drop_items_self]
    exact hi
  · rw [Fifos.drop_items_of_ne hk]
    exact hrest k hk

/-- The first PDU of a place goes to another one. -/
theorem pdus_pass {i j : Place} (hij : i ≠ j) (hi : s'.pdusAt i = (s.pdusAt i).drop 1)
    (hj : s'.pdusAt j = s.pdusAt j ++ [pdu])
    (hrest : ∀ k, k ≠ i → k ≠ j → s'.pdusAt k = s.pdusAt k) :
    s'.pdus = (s.pdus.drop i 1).push j pdu := by
  apply pdus_eq rfl
  intro k
  by_cases hkj : k = j
  · subst hkj
    rw [Fifos.push_items_self, Fifos.drop_items_of_ne hij.symm]
    exact hj
  · rw [Fifos.push_items_of_ne hkj]
    by_cases hki : k = i
    · subst hki
      rw [Fifos.drop_items_self]
      exact hi
    · rw [Fifos.drop_items_of_ne hki]
      exact hrest k hki hkj

/-- The activations other than `n` keep what they have. -/
theorem pdusAt_isr_of_ne {v : Option (CanMessage × Pdu)}
    (hisr : s'.isr = Function.update s.isr n v) {k : Nat} (hk : Place.isr k ≠ .isr n) :
    s'.pdusAt (.isr k) = s.pdusAt (.isr k) := by
  have hkn : k ≠ n := fun h => hk (congrArg Place.isr h)
  simp [Gateway.pdusAt, hisr, hkn]

/-- A step that only reads memory. -/
theorem StepEffect.reads (hreads : ReadsOnly s.mem s'.mem)
    (hdead : s.Live → s.mem.NoneDead → s'.mem.NoneDead)
    (hmove : s'.mem.heap = s.mem.heap → PduMove e s s') : StepEffect e s s' := by
  constructor
  case move => exact hmove hreads.heap
  case noneDead => exact hdead
  case byte =>
    intro b _
    rw [hreads.byte]

/-- A step that leaves memory alone. -/
theorem StepEffect.same (hmem : s'.mem = s.mem)
    (hmove : s'.mem.heap = s.mem.heap → PduMove e s s') : StepEffect e s s' := by
  apply StepEffect.reads
  · rw [hmem]
    exact ReadsOnly.refl s.mem
  · intro _ hdead
    rwa [hmem]
  · exact hmove

/-- A PDU is read and then discarded. -/
theorem StepEffect.discard {i : Place} {l : List Pdu} {b : Ptr} {m : Mem}
    (head : s.pdus.items i = pdu :: l) (hdata : pdu.data = some b)
    (hreads : ReadsOnly s.mem m) (hdead : s.Live → s.mem.NoneDead → m.NoneDead)
    (hpdus : s'.pdus = s.pdus.drop i 1) (hmem : s'.mem = (pduDiscardPdu pdu m).2) :
    StepEffect e s s' := by
  rw [pduDiscardPdu_some hdata] at hmem
  constructor
  case move =>
    apply PduMove.discard i pdu l b head hdata hpdus
    rw [hmem, Mem.setHeap_heap, hreads.heap]
  case noneDead =>
    intro hlive h
    rw [hmem]
    exact hdead hlive h
  case byte =>
    intro b' _
    rw [hmem, Mem.setHeap_byte, hreads.byte]

/-- What is read of a PDU that is somewhere is not read of a freed block. -/
theorem noneDead_of_readsBlock {α : Type} {x : MemOp α} {i : Place} {b : Ptr}
    (hat : pdu ∈ s.pdus.items i) (hdata : pdu.data = some b) (hx : x.ReadsBlock b)
    (hlive : s.Live) (hdead : s.mem.NoneDead) : (x s.mem).2.NoneDead := by
  have hb : b ∉ s.mem.heap.frees := hlive.held i pdu hat b hdata
  exact hx.noneDead s.mem hb hdead

theorem interrupt_effect (frame : CanMessage)
    (hmem : s.mem.heap.oom s.mem.heap.calls = false) :
    StepEffect (.interrupt n frame) s (s.interrupt n frame) := by
  unfold Gateway.interrupt
  split
  · exact .same rfl (.stay rfl)
  · rename_i hroom
    have hfree : s.isr n = none := by
      cases hisr : s.isr n with
      | none => rfl
      | some held => exact absurd (.inr (by simp [hisr])) hroom
    rw [canBuildPdu_granted frame hmem]
    constructor
    case move =>
      apply PduMove.build n frame rfl
      · apply pdus_join
        · simp [Gateway.pdusAt, hfree]
        · intro k hk
          cases k with
          | isr k => exact pdusAt_isr_of_ne rfl hk
          | _ => rfl
      · rfl
    case noneDead =>
      intro hlive hdead
      exact Mem.NoneDead.touch (m := _) hdead hlive.next 0 frame.length.toNat
    case byte =>
      intro b hb
      simp [Function.update_of_ne hb]

theorem enqueue_effect (h : s.Sane) : StepEffect e s (s.enqueue n) := by
  unfold Gateway.enqueue
  split
  · exact .same rfl (.stay rfl)
  · rename_i frame pdu hisr
    have hhead : s.pdus.items (.isr n) = pdu :: [] := by
      simp [Gateway.pdus, Gateway.pdusAt, hisr]
    cases hsend : s.pduQueue.send pdu with
    | none =>
        obtain ⟨b, hdata⟩ := (h (.isr n) pdu (by simp [hhead])).payload
        apply StepEffect.discard hhead hdata (ReadsOnly.refl s.mem) (fun _ hdead => hdead)
        · apply pdus_leave
          · simp [Gateway.pdusAt, hisr]
          · intro k hk
            cases k with
            | isr k => exact pdusAt_isr_of_ne rfl hk
            | _ => rfl
        · rfl
    | some q =>
        obtain ⟨-, rfl⟩ := RtosQueue.send_eq_some hsend
        apply StepEffect.same
        · rfl
        · apply PduMove.pass _ _ pdu [] (.built n) hhead
          apply pdus_pass (by simp)
          · simp [Gateway.pdusAt, hisr]
          · rfl
          · intro k hk _
            cases k with
            | isr k => exact pdusAt_isr_of_ne rfl hk
            | _ => first | rfl | contradiction

/-- The PDU that `PDU_Task` works on has a buffer. -/
theorem Gateway.Sane.task_payload (h : s.Sane) (htask : s.pduTask.pdus = [pdu]) :
    pdu ∈ s.pdus.items .pduTask ∧ ∃ b, pdu.data = some b := by
  have hat : pdu ∈ s.pdus.items .pduTask := by
    show pdu ∈ s.pduTask.pdus
    rw [htask]
    exact List.mem_singleton_self pdu
  exact ⟨hat, (h .pduTask pdu hat).payload⟩

/-- `PDU_Task` discards the PDU it works on after reading it. -/
theorem discard_effect (h : s.Sane) (htask : s.pduTask.pdus = [pdu]) {m : Mem}
    (hreads : ReadsOnly s.mem m) (hdead : s.Live → s.mem.NoneDead → m.NoneDead) :
    StepEffect e s (Gateway.discard { s with mem := m } pdu) := by
  obtain ⟨-, b, hdata⟩ := h.task_payload htask
  apply StepEffect.discard (i := .pduTask) htask hdata hreads hdead
  · apply pdus_leave
    · show [] = s.pduTask.pdus.drop 1
      rw [htask]
      rfl
    · intro k hk
      cases k with
      | pduTask => contradiction
      | _ => rfl
  · rfl

theorem Hop.ne {id : UInt32} {i j : Place} (hop : Hop id i j) : i ≠ j := by
  intro hij
  subst hij
  cases hop

/-- A task takes the first PDU of its queue. -/
theorem receive_effect {i j : Place} {l : List Pdu} (hop : Hop pdu.id i j)
    (hhead : s.pdus.items i = pdu :: l) (hmem : s'.mem = s.mem) (hi : s'.pdusAt i = l)
    (hidle : s.pdusAt j = []) (hj : s'.pdusAt j = [pdu])
    (hrest : ∀ k, k ≠ i → k ≠ j → s'.pdusAt k = s.pdusAt k) : StepEffect e s s' := by
  have hhead' : s.pdusAt i = pdu :: l := hhead
  apply StepEffect.same hmem
  apply PduMove.pass i j pdu l hop hhead
  apply pdus_pass hop.ne
  · rw [hi, hhead']
    rfl
  · rw [hj, hidle]
    rfl
  · exact hrest

/-- `PDU_Task` passes the PDU it works on to another place after reading it. -/
theorem forward_effect {j : Place} (hop : Hop pdu.id .pduTask j)
    (htask : s.pduTask.pdus = [pdu]) (hreads : ReadsOnly s.mem s'.mem)
    (hdead : s.Live → s.mem.NoneDead → s'.mem.NoneDead) (hnone : s'.pdusAt .pduTask = [])
    (hj : s'.pdusAt j = s.pdusAt j ++ [pdu])
    (hrest : ∀ k, k ≠ .pduTask → k ≠ j → s'.pdusAt k = s.pdusAt k) : StepEffect e s s' := by
  apply StepEffect.reads hreads hdead
  apply PduMove.pass _ _ pdu [] hop htask
  apply pdus_pass hop.ne
  · show s'.pdusAt .pduTask = s.pduTask.pdus.drop 1
    rw [htask]
    exact hnone
  · exact hj
  · exact hrest

theorem dispatch_effect (h : s.Sane) (htask : s.pduTask = .dispatch pdu) :
    StepEffect e s (s.dispatch pdu) := by
  have htask' : s.pduTask.pdus = [pdu] := by rw [htask]; rfl
  obtain ⟨hat, b, hdata⟩ := h.task_payload htask'
  have hprint := readsBlock_pduPrintPdu hdata
  have hreads := hprint.reads s.mem
  have hdead := noneDead_of_readsBlock hat hdata hprint
  unfold Gateway.dispatch
  cases htype : pduType pdu.id with
  | normal =>
      apply StepEffect.reads hreads hdead
      apply PduMove.stay
      apply pdus_eq rfl
      intro i
      cases i with
      | pduTask => exact htask'.symm
      | _ => rfl
  | command =>
      cases hsend : s.gatewayQueue.send pdu with
      | none => exact discard_effect h htask' hreads hdead
      | some q =>
          obtain ⟨-, rfl⟩ := RtosQueue.send_eq_some hsend
          apply forward_effect (.command htype) htask' hreads hdead
          · rfl
          · rfl
          · intro k _ _
            cases k <;> first | rfl | contradiction
  | firmware =>
      cases hsend : s.fwUpdateQueue.send pdu with
      | none => exact discard_effect h htask' hreads hdead
      | some q =>
          obtain ⟨-, rfl⟩ := RtosQueue.send_eq_some hsend
          apply forward_effect (.firmware htype) htask' hreads hdead
          · rfl
          · rfl
          · intro k _ _
            cases k <;> first | rfl | contradiction
  | unknown => exact discard_effect h htask' hreads hdead

theorem sendNext_effect (h : s.Sane) {i : UInt8} (htask : s.pduTask = .sending pdu i) :
    StepEffect e s (s.sendNext cfg pdu i) := by
  have htask' : s.pduTask.pdus = [pdu] := by rw [htask]; rfl
  obtain ⟨hat, b, hdata⟩ := h.task_payload htask'
  unfold Gateway.sendNext
  dsimp only
  split
  · have hsend := readsBlock_ecuSendPdu hdata s.ecuList
      ((cfg.pduDescriptors (pdu.id &&& ~~~pduIdMaskTypeData)).dest i.toNat)
    apply StepEffect.reads (hsend.reads s.mem)
    · exact noneDead_of_readsBlock hat hdata hsend
    · apply PduMove.stay
      apply pdus_eq rfl
      intro i
      cases i with
      | pduTask => exact htask'.symm
      | _ => rfl
  · exact discard_effect h htask' (ReadsOnly.refl s.mem) (fun _ hdead => hdead)

theorem stepPduTask_effect (h : s.Sane) : StepEffect e s (s.stepPduTask cfg) := by
  unfold Gateway.stepPduTask
  cases htask : s.pduTask with
  | receive =>
      cases hrecv : s.pduQueue.receive with
      | none => exact .same rfl (.stay rfl)
      | some r =>
          obtain ⟨pdu, q⟩ := r
          obtain ⟨hitems, hq⟩ := RtosQueue.receive_eq_some hrecv
          apply receive_effect .received hitems
          · rfl
          · rfl
          · simp [Gateway.pdusAt, htask, PduTask.pdus]
          · rfl
          · intro k _ _
            cases k <;> first | rfl | contradiction
  | dispatch pdu => exact dispatch_effect h htask
  | sending pdu i => exact sendNext_effect h htask

theorem parse_effect (h : s.Sane) (htask : s.gatewayTask = .parse pdu) :
    StepEffect e s (s.parse cfg pdu) := by
  have hhead : s.pdus.items .gatewayTask = pdu :: [] := by
    show s.gatewayTask.pdus = [pdu]
    rw [htask]
    rfl
  have hat : pdu ∈ s.pdus.items .gatewayTask := by simp [hhead]
  obtain ⟨b, hdata⟩ := (h .gatewayTask pdu hat).payload
  have hparse := readsBlock_gwParsePdu hdata cfg s.ecuList
  unfold Gateway.parse
  have htype := (h .gatewayTask pdu hat).command (.inr rfl)
  rw [if_pos (pduType_eq_command.mp htype).2]
  apply StepEffect.discard hhead hdata (hparse.reads s.mem)
  · exact noneDead_of_readsBlock hat hdata hparse
  · apply pdus_leave
    · show [] = s.gatewayTask.pdus.drop 1
      rw [htask]
      rfl
    · intro k hk
      cases k with
      | gatewayTask => contradiction
      | _ => rfl
  · rfl

theorem stepGatewayTask_effect (h : s.Sane) : StepEffect e s (s.stepGatewayTask cfg) := by
  unfold Gateway.stepGatewayTask
  cases htask : s.gatewayTask with
  | receive =>
      cases hrecv : s.gatewayQueue.receive with
      | none => exact .same rfl (.stay rfl)
      | some r =>
          obtain ⟨pdu, q⟩ := r
          obtain ⟨hitems, hq⟩ := RtosQueue.receive_eq_some hrecv
          apply receive_effect .taken hitems
          · rfl
          · rfl
          · simp [Gateway.pdusAt, htask, GatewayTask.pdus]
          · rfl
          · intro k _ _
            cases k <;> first | rfl | contradiction
  | parse pdu => exact parse_effect h htask

/-- **The effect of a step of the gateway**: whatever it does besides, at most
one PDU is built, passed on along a hop, or discarded. -/
theorem gatewayStep_effect (cfg : Config) (h : s.Sane) (e : GatewayEvent)
    (hmem : s.HasMemory e) :
    StepEffect e s (gatewayStep cfg s e) := by
  cases e with
  | interrupt n frame => exact interrupt_effect frame hmem
  | enqueue n => exact enqueue_effect h
  | pduTask => exact stepPduTask_effect h
  | gatewayTask => exact stepGatewayTask_effect h

/-! ## What holds at every place -/

/-- A property of PDUs at places is kept when PDUs are built with it and keep
it along the hops. -/
theorem PduMove.keeps {P : Place → Pdu → Prop} (hmove : PduMove e s s')
    (hbuild : ∀ n frame, e = .interrupt n frame →
      P (.isr n) { id := frame.id, length := frame.length, data := some s.mem.heap.brk })
    (hhop : ∀ i j pdu, Hop pdu.id i j → P i pdu → P j pdu)
    (h : ∀ i, ∀ pdu ∈ s.pdus.items i, P i pdu) : ∀ i, ∀ pdu ∈ s'.pdus.items i, P i pdu := by
  intro i pdu hpdu
  cases hmove with
  | stay pdus heap =>
      rw [pdus] at hpdu
      exact h i pdu hpdu
  | build n frame event pdus heap =>
      rw [pdus] at hpdu
      rcases Fifos.mem_push.mp hpdu with hpdu | ⟨rfl, rfl⟩
      · exact h i pdu hpdu
      · exact hbuild n frame event
  | pass k j x l hop head pdus heap =>
      rw [pdus] at hpdu
      rcases Fifos.mem_push.mp hpdu with hpdu | ⟨rfl, rfl⟩
      · exact h i pdu (Fifos.mem_of_mem_drop hpdu)
      · exact hhop k i pdu hop (h k pdu (by simp [head]))
  | discard k x l b head data pdus heap =>
      rw [pdus] at hpdu
      exact h i pdu (Fifos.mem_of_mem_drop hpdu)

theorem Place.Fits.hop {i j : Place} (hop : Hop pdu.id i j) (h : i.Fits pdu) : j.Fits pdu := by
  constructor
  case payload => exact h.payload
  case command =>
    intro hj
    cases hop with
    | command htype => exact htype
    | taken => exact h.command (.inl rfl)
    | _ => simp at hj
  case firmware =>
    intro hj
    cases hop with
    | firmware htype => exact htype
    | _ => cases hj

theorem PduMove.oom (hmove : PduMove e s s') : s'.mem.heap.oom = s.mem.heap.oom := by
  cases hmove with
  | stay pdus heap => rw [heap]
  | build n frame event pdus heap => rw [heap, Heap.grant_oom]
  | pass i j pdu l hop head pdus heap => rw [heap]
  | discard i pdu l b head data pdus heap => rw [heap, Heap.free_oom]

theorem PduMove.brk_le (hmove : PduMove e s s') : s.mem.heap.brk ≤ s'.mem.heap.brk := by
  cases hmove with
  | stay pdus heap => rw [heap]
  | build n frame event pdus heap =>
      rw [heap, Heap.grant_brk]
      exact Nat.le_succ _
  | pass i j pdu l hop head pdus heap => rw [heap]
  | discard i pdu l b head data pdus heap => rw [heap, Heap.free_brk]

theorem Gateway.Sane.step (h : s.Sane) (hmem : s.HasMemory e) :
    (gatewayStep cfg s e).Sane := by
  apply (gatewayStep_effect cfg h e hmem).move.keeps (P := Place.Fits)
  · intro n frame _
    constructor
    case payload => exact ⟨_, rfl⟩
    case command => simp
    case firmware => simp
  · intro i j pdu hop hfits
    exact hfits.hop hop
  · exact h

/-! ## Ownership -/

/-- The invariant: of the blocks from `base` on, each has one holder. -/
structure Gateway.Owned (base : Ptr) (s : Gateway) : Prop where
  granted : ∀ k, s.mem.heap.oom k = false
  sane : s.Sane
  custody : s.pdus.Custody Pdu.data s.mem.heap.frees base s.mem.heap.brk
  base_le : base ≤ s.mem.heap.brk
  noneDead : s.mem.NoneDead

theorem Gateway.Owned.live {base : Ptr} (h : s.Owned base) : s.Live := by
  constructor
  case held =>
    intro i pdu hpdu b hb
    exact h.custody.not_returned hpdu hb
  case next =>
    intro hmem
    exact Nat.lt_irrefl _ ((h.custody.issued _).mp ⟨none, hmem⟩).2

theorem Gateway.Owned.hasMemory {base : Ptr} (h : s.Owned base) (e : GatewayEvent) :
    s.HasMemory e := by
  cases e with
  | interrupt n frame => exact h.granted _
  | _ => trivial

/-- A move keeps the payloads in custody. -/
theorem PduMove.custody {base : Ptr} (hmove : PduMove e s s') (hle : base ≤ s.mem.heap.brk)
    (h : s.pdus.Custody Pdu.data s.mem.heap.frees base s.mem.heap.brk) :
    s'.pdus.Custody Pdu.data s'.mem.heap.frees base s'.mem.heap.brk := by
  cases hmove with
  | stay pdus heap => rwa [pdus, heap]
  | build n frame event pdus heap =>
      rw [pdus, heap]
      exact h.issue hle rfl
  | pass i j pdu l hop head pdus heap =>
      rw [pdus, heap]
      exact h.hand head
  | discard i pdu l b head data pdus heap =>
      rw [pdus, heap]
      exact h.giveBack head data

theorem Gateway.Owned.step {base : Ptr} (h : s.Owned base) (e : GatewayEvent) :
    (gatewayStep cfg s e).Owned base := by
  have hmem := h.hasMemory e
  have heffect := gatewayStep_effect cfg h.sane e hmem
  constructor
  case granted =>
    intro k
    rw [heffect.move.oom]
    exact h.granted k
  case sane => exact h.sane.step hmem
  case custody => exact heffect.move.custody h.base_le h.custody
  case base_le => exact Nat.le_trans h.base_le heffect.move.brk_le
  case noneDead => exact heffect.noneDead h.live h.noneDead

theorem Gateway.Start.pdusAt (h : s.Start) (i : Place) : s.pdusAt i = [] := by
  cases i with
  | isr n => simp [Gateway.pdusAt, h.isr n]
  | pduQueue => exact h.pduQueue
  | pduTask => simp [Gateway.pdusAt, h.pduTask, PduTask.pdus]
  | gatewayQueue => exact h.gatewayQueue
  | gatewayTask => simp [Gateway.pdusAt, h.gatewayTask, GatewayTask.pdus]
  | fwUpdateQueue => exact h.fwUpdateQueue

theorem Gateway.Start.sane (h : s.Start) : s.Sane := by
  intro i pdu hpdu
  have hnone : pdu ∈ s.pdusAt i := hpdu
  rw [h.pdusAt i] at hnone
  cases hnone

theorem Gateway.Start.payloads (h : s.Start) (k : Option Place) : s.payloads k = [] := by
  cases k with
  | none => exact h.frees
  | some i =>
      show (s.pdusAt i).filterMap Pdu.data = []
      rw [h.pdusAt i, List.filterMap_nil]

theorem Gateway.Start.owned (h : s.Start) (hmalloc : ∀ k, s.mem.heap.oom k = false) :
    s.Owned s.mem.heap.brk := by
  constructor
  case granted => exact hmalloc
  case sane => exact h.sane
  case custody =>
    constructor
    case holds => exact fun i pdu hpdu => (h.sane i pdu hpdu).payload
    case valid =>
      have hempty : s.pdus.owned Pdu.data s.mem.heap.frees = Fifos.empty fun _ => 0 :=
        Fifos.ext (funext h.payloads) rfl
      rw [hempty]
      exact Fifos.empty_valid _
    case issued =>
      intro b
      constructor
      · intro ⟨k, hk⟩
        have hnone : b ∈ s.payloads k := hk
        rw [h.payloads k] at hnone
        cases hnone
      · intro ⟨hle, hlt⟩
        exact absurd hle (Nat.not_le_of_lt hlt)
  case base_le => exact Nat.le_refl _
  case noneDead =>
    intro x hx
    rw [h.log] at hx
    cases hx

/-- What the code relies on wherever it frees or does not free: of the blocks
allocated from `base` on. -/
structure Gateway.OwnedOnce (cfg : Config) (base : Ptr) (s : Gateway) : Prop where
  /-- A payload is at one place: with a queue, with a task, or freed. -/
  holder : ∀ b, base ≤ b → b < s.mem.heap.brk → ∃! k, b ∈ s.payloads k
  /-- It is there once, so in one entry of a queue, and freed once. -/
  once : ∀ k, (s.payloads k).Nodup
  /-- It was not used after it was freed. -/
  unused : ∀ x ∈ s.mem.log, x.dead = false
  commands : ∀ pdu ∈ s.gatewayQueue.items,
    pdu.id &&& pduIdMaskTypeCmd ≠ 0 ∧ pdu.id &&& pduIdMaskTypeData = 0
  /-- What `Gateway_Task` took from its queue it discards. -/
  discards : ∀ pdu, s.gatewayTask = .parse pdu → ∃ b, pdu.data = some b ∧
    (s.stepGatewayTask cfg).gatewayTask = .receive ∧
    (s.stepGatewayTask cfg).mem.heap.frees = s.mem.heap.frees ++ [b]

theorem Gateway.Sane.parse_frees (h : s.Sane) (htask : s.gatewayTask = .parse pdu) :
    ∃ b, pdu.data = some b ∧ (s.stepGatewayTask cfg).gatewayTask = .receive ∧
      (s.stepGatewayTask cfg).mem.heap.frees = s.mem.heap.frees ++ [b] := by
  have hat : pdu ∈ s.pdus.items .gatewayTask := by
    show pdu ∈ s.gatewayTask.pdus
    rw [htask]
    exact List.mem_singleton.mpr rfl
  have hfits := h .gatewayTask pdu hat
  obtain ⟨b, hb⟩ := hfits.payload
  have hcmd := (pduType_eq_command.mp (hfits.command (.inr rfl))).2
  have hstep : s.stepGatewayTask cfg = s.parse cfg pdu := by
    unfold Gateway.stepGatewayTask
    rw [htask]
  have hheap := ((readsBlock_gwParsePdu hb cfg s.ecuList).reads s.mem).heap
  refine ⟨b, hb, ?_, ?_⟩
  · rw [hstep, Gateway.parse, if_pos hcmd]
  · rw [hstep, Gateway.parse, if_pos hcmd]
    show (pduDiscardPdu pdu _).2.heap.frees = _
    rw [pduDiscardPdu_some hb, Mem.setHeap_heap, Heap.free_frees, hheap]

theorem Gateway.Owned.ownedOnce {base : Ptr} (h : s.Owned base) : s.OwnedOnce cfg base := by
  constructor
  case holder =>
    intro b hle hlt
    exact h.custody.one_holder hle hlt
  case once => exact h.custody.valid.nodup
  case unused => exact h.noneDead
  case commands =>
    intro pdu hpdu
    exact (pduType_eq_command.mp ((h.sane .gatewayQueue pdu hpdu).command (.inl rfl))).symm
  case discards =>
    intro pdu htask
    exact h.sane.parse_frees htask

end

/-- **Every payload has one owner**, in every state of every run: on any
frames in any interleaving with the tasks, with queues of any sizes, and as
long as memory lasts. -/
theorem payloads_owned_once {cfg : Config} {s : Gateway} (hstart : s.Start)
    (hmalloc : ∀ k, s.mem.heap.oom k = false) (es : List GatewayEvent) :
    Runs.Always (Runs.total (gatewayStep cfg)) (Gateway.OwnedOnce cfg s.mem.heap.brk) s es := by
  have hevents : Runs.Meets (Runs.total (gatewayStep cfg)) (fun _ _ => True) s es :=
    Runs.meets_of_forall fun _ _ => trivial
  apply Runs.always_of_inv (I := Gateway.Owned s.mem.heap.brk) _ _ (hstart.owned hmalloc) hevents
  · intro s' h
    exact h.ownedOnce
  · intro s₁ e s₂ h _ hstep
    cases hstep
    exact h.step e

/-- A status response of ECU 1, from its arrival to its discard. -/
theorem payloads_owned_once_command :
    Runs.Always (Runs.total (gatewayStep frameworkConfig))
      (Gateway.OwnedOnce frameworkConfig Gateway.initial.mem.heap.brk) Gateway.initial
      [.interrupt 0 { id := 0x08000001, length := 2, data := fun _ => 4 }, .enqueue 0,
        .pduTask, .pduTask, .gatewayTask, .gatewayTask] :=
  payloads_owned_once Gateway.initial_start (fun _ => rfl) _

end XcanRouter
