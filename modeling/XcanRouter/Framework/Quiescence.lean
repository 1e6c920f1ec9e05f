import Mathlib.Algebra.Order.BigOperators.Group.Finset
import XcanRouter.Base.Census
import XcanRouter.Base.Trace
import XcanRouter.Framework.Ownership

/-!
# How much the gateway holds, and for how long

The queues bound what is in them, and the tasks and interrupts have one PDU
each; so the payloads in use are bounded whatever arrives. When nothing more
is accepted, each step of a task that has work takes some of it away.
-/

namespace XcanRouter

/-! ## The sizes of the queues -/

/-- The queue has `n` places and is not over-full. -/
def RtosQueue.Within (n : Nat) (q : RtosQueue) : Prop :=
  q.size = n ∧ q.items.length ≤ n

/-- The queues of the gateway have `a`, `b` and `c` places. -/
structure Gateway.Within (a b c : Nat) (s : Gateway) : Prop where
  pduQueue : s.pduQueue.Within a
  gatewayQueue : s.gatewayQueue.Within b
  fwUpdateQueue : s.fwUpdateQueue.Within c

section
variable {cfg : Config} {a b c n : Nat} {q q' : RtosQueue} {pdu : Pdu} {s s' : Gateway}

theorem RtosQueue.Within.send (h : q.Within n) (hsend : q.send pdu = some q') :
    q'.Within n := by
  obtain ⟨hroom, rfl⟩ := RtosQueue.send_eq_some hsend
  have hsize := h.1
  refine ⟨hsize, ?_⟩
  unfold RtosQueue.Full at hroom
  rw [List.length_append, List.length_singleton]
  omega

theorem RtosQueue.Within.receive (h : q.Within n) (hrecv : q.receive = some (pdu, q')) :
    q'.Within n := by
  obtain ⟨hitems, hq⟩ := RtosQueue.receive_eq_some hrecv
  have hlength := h.2
  rw [hitems, List.length_cons] at hlength
  refine ⟨?_, by omega⟩
  rw [hq]
  exact h.1

theorem Gateway.Within.dispatch (h : s.Within a b c) : (s.dispatch pdu).Within a b c := by
  unfold Gateway.dispatch
  cases pduType pdu.id with
  | command =>
      cases hsend : s.gatewayQueue.send pdu with
      | none => exact { h with }
      | some q => exact { h with gatewayQueue := h.gatewayQueue.send hsend }
  | firmware =>
      cases hsend : s.fwUpdateQueue.send pdu with
      | none => exact { h with }
      | some q => exact { h with fwUpdateQueue := h.fwUpdateQueue.send hsend }
  | _ => exact { h with }

theorem Gateway.Within.stepPduTask (h : s.Within a b c) :
    (s.stepPduTask cfg).Within a b c := by
  unfold Gateway.stepPduTask
  cases s.pduTask with
  | receive =>
      cases hrecv : s.pduQueue.receive with
      | none => exact h
      | some v => exact { h with pduQueue := h.pduQueue.receive hrecv }
  | dispatch pdu => exact h.dispatch
  | sending pdu i =>
      show (s.sendNext cfg pdu i).Within a b c
      unfold Gateway.sendNext
      dsimp only
      split <;> exact { h with }

theorem Gateway.Within.stepGatewayTask (h : s.Within a b c) :
    (s.stepGatewayTask cfg).Within a b c := by
  unfold Gateway.stepGatewayTask
  cases s.gatewayTask with
  | receive =>
      cases hrecv : s.gatewayQueue.receive with
      | none => exact h
      | some v => exact { h with gatewayQueue := h.gatewayQueue.receive hrecv }
  | parse pdu =>
      show (s.parse cfg pdu).Within a b c
      unfold Gateway.parse
      split <;> exact { h with }

theorem Gateway.Within.step (h : s.Within a b c) (e : GatewayEvent) :
    (gatewayStep cfg s e).Within a b c := by
  cases e with
  | interrupt n frame =>
      show (s.interrupt n frame).Within a b c
      unfold Gateway.interrupt
      split
      · exact h
      · exact { h with }
  | enqueue n =>
      show (s.enqueue n).Within a b c
      unfold Gateway.enqueue
      cases s.isr n with
      | none => exact h
      | some held =>
          cases hsend : s.pduQueue.send held.2 with
          | none =>
              dsimp only
              rw [hsend]
              exact { h with }
          | some q =>
              dsimp only
              rw [hsend]
              exact { h with pduQueue := h.pduQueue.send hsend }
  | pduTask => exact h.stepPduTask
  | gatewayTask => exact h.stepGatewayTask

end

/-! ## The payloads in use -/

/-- The queues, the tasks and the first `k` activations of the interrupt. -/
def places (k : Nat) : Finset Place :=
  insert .pduQueue <| insert .pduTask <| insert .gatewayQueue <| insert .gatewayTask <|
    insert .fwUpdateQueue <| (Finset.range k).image .isr

/-- At most `k` interrupts are nested. -/
def GatewayEvent.Nested (k : Nat) : GatewayEvent → Prop
  | .interrupt n _ => n < k
  | _ => True

instance (k : Nat) : DecidablePred (GatewayEvent.Nested k)
  | .interrupt _ _ => inferInstanceAs (Decidable (_ < _))
  | .enqueue _ => .isTrue trivial
  | .pduTask => .isTrue trivial
  | .gatewayTask => .isTrue trivial

/-- The payloads allocated from `base` on and not freed. -/
def Gateway.inUse (base : Ptr) (s : Gateway) : Nat :=
  s.mem.heap.brk - base - s.mem.heap.frees.length

/-- Each payload is freed or at one of the places, where nothing else is. -/
structure Gateway.Accounted (base : Ptr) (k : Nat) (s : Gateway) : Prop where
  brk : s.mem.heap.brk = base + s.mem.heap.frees.length + s.pdus.count (places k)
  within : ∀ i, s.pdus.items i ≠ [] → i ∈ places k

section
variable {cfg : Config} {k n : Nat} {s s' : Gateway} {e : GatewayEvent} {base : Ptr}

theorem isr_mem_places : Place.isr n ∈ places k ↔ n < k := by
  simp [places]

theorem Hop.mem_places {id : UInt32} {i j : Place} (hop : Hop id i j) : j ∈ places k := by
  cases hop <;> simp [places]

theorem PduMove.accounted (hmove : PduMove e s s') (he : e.Nested k)
    (h : s.Accounted base k) : s'.Accounted base k := by
  have hbrk := h.brk
  cases hmove with
  | stay pdus heap =>
      constructor
      case brk => rw [pdus, heap, hbrk]
      case within =>
        rw [pdus]
        exact h.within
  | build n frame event pdus heap =>
      have hn : Place.isr n ∈ places k := by
        rw [event] at he
        exact isr_mem_places.mpr he
      constructor
      case brk =>
        rw [pdus, heap, Fifos.count_push hn, Heap.grant_brk, Heap.grant_frees, hbrk]
        omega
      case within =>
        intro i hi
        rw [pdus] at hi
        by_cases hin : i = .isr n
        · rwa [hin]
        · rw [Fifos.push_items_of_ne hin] at hi
          exact h.within i hi
  | pass i j pdu l hop head pdus heap =>
      have hi : i ∈ places k := h.within i (by simp [head])
      constructor
      case brk => rw [pdus, heap, Fifos.count_pass hi hop.mem_places head, hbrk]
      case within =>
        intro m hm
        rw [pdus] at hm
        by_cases hmj : m = j
        · rw [hmj]
          exact hop.mem_places
        · rw [Fifos.push_items_of_ne hmj] at hm
          obtain ⟨x, hx⟩ := List.exists_mem_of_ne_nil _ hm
          exact h.within m (List.ne_nil_of_mem (Fifos.mem_of_mem_drop hx))
  | discard i pdu l b head data pdus heap =>
      have hi : i ∈ places k := h.within i (by simp [head])
      have hcount := Fifos.count_drop hi head
      constructor
      case brk =>
        rw [pdus, heap, Heap.free_brk, Heap.free_frees, List.length_append,
          List.length_singleton, hbrk]
        omega
      case within =>
        intro m hm
        rw [pdus] at hm
        obtain ⟨x, hx⟩ := List.exists_mem_of_ne_nil _ hm
        exact h.within m (List.ne_nil_of_mem (Fifos.mem_of_mem_drop hx))

theorem Gateway.Start.accounted (h : s.Start) (k : Nat) :
    s.Accounted s.mem.heap.brk k := by
  have hnone : ∀ i, s.pdus.items i = [] := h.pdusAt
  constructor
  case brk => simp [Fifos.count, hnone, h.frees]
  case within => exact fun i hi => absurd (hnone i) hi

theorem Gateway.Start.within_run (cfg : Config) (h : s.Start) (es : List GatewayEvent) :
    (es.foldl (gatewayStep cfg) s).Within s.pduQueue.size s.gatewayQueue.size
      s.fwUpdateQueue.size := by
  apply Runs.foldl_of_inv (A := fun _ => True) (fun s₁ e h _ => h.step e) _ fun _ _ => trivial
  constructor
  · exact ⟨rfl, by rw [h.pduQueue]; exact Nat.zero_le _⟩
  · exact ⟨rfl, by rw [h.gatewayQueue]; exact Nat.zero_le _⟩
  · exact ⟨rfl, by rw [h.fwUpdateQueue]; exact Nat.zero_le _⟩

/-- The places have room for so many. -/
theorem Gateway.Within.count_le {a b c : Nat} (h : s.Within a b c) (k : Nat) :
    s.pdus.count (places k) ≤ a + b + c + 2 + k := by
  have hpdu : s.pduTask.pdus.length ≤ 1 := by
    cases s.pduTask <;> exact Nat.le_of_ble_eq_true rfl
  have hgateway : s.gatewayTask.pdus.length ≤ 1 := by
    cases s.gatewayTask <;> exact Nat.le_of_ble_eq_true rfl
  have hisr : ∑ i ∈ (Finset.range k).image Place.isr, (s.pdusAt i).length ≤ k := by
    have hone : ∀ i ∈ (Finset.range k).image Place.isr, (s.pdusAt i).length ≤ 1 := by
      intro i hi
      obtain ⟨n, -, rfl⟩ := Finset.mem_image.mp hi
      show ((s.isr n).map Prod.snd).toList.length ≤ 1
      cases s.isr n <;> exact Nat.le_of_ble_eq_true rfl
    have hcard := Finset.card_image_le (s := Finset.range k) (f := Place.isr)
    have hsum := Finset.sum_le_sum hone
    rw [← Finset.card_eq_sum_ones] at hsum
    rw [Finset.card_range] at hcard
    exact Nat.le_trans hsum hcard
  have h1 : s.pduQueue.items.length ≤ a := h.pduQueue.2
  have h2 : s.gatewayQueue.items.length ≤ b := h.gatewayQueue.2
  have h3 : s.fwUpdateQueue.items.length ≤ c := h.fwUpdateQueue.2
  have hcount : s.pdus.count (places k) = s.pduQueue.items.length + (s.pduTask.pdus.length +
      (s.gatewayQueue.items.length + (s.gatewayTask.pdus.length +
        (s.fwUpdateQueue.items.length +
          ∑ i ∈ (Finset.range k).image Place.isr, (s.pdusAt i).length)))) := by
    unfold Fifos.count places
    rw [Finset.sum_insert (by simp), Finset.sum_insert (by simp), Finset.sum_insert (by simp),
      Finset.sum_insert (by simp), Finset.sum_insert (by simp)]
    rfl
  omega

end

/-- **The gateway holds a bounded number of payloads**: whatever frames arrive
and however the tasks and at most `k` nested interrupts are interleaved, no
more are in use than the queues have places, one for each task and one for
each interrupt; and the queues are never over-full. -/
theorem payloads_bounded {cfg : Config} {s : Gateway} (hstart : s.Start)
    (hmalloc : ∀ n, s.mem.heap.oom n = false) (k : Nat) (es : List GatewayEvent)
    (hes : ∀ e ∈ es, e.Nested k) :
    (es.foldl (gatewayStep cfg) s).inUse s.mem.heap.brk ≤
        s.pduQueue.size + s.gatewayQueue.size + s.fwUpdateQueue.size + 2 + k ∧
      (es.foldl (gatewayStep cfg) s).Within s.pduQueue.size s.gatewayQueue.size
        s.fwUpdateQueue.size := by
  have hinv : ∀ s₁ e, Gateway.Owned s.mem.heap.brk s₁ ∧ s₁.Accounted s.mem.heap.brk k →
      e.Nested k → (gatewayStep cfg s₁ e).Owned s.mem.heap.brk ∧
        (gatewayStep cfg s₁ e).Accounted s.mem.heap.brk k := by
    intro s₁ e ⟨howned, haccounted⟩ he
    have hmove := (gatewayStep_effect cfg howned.sane e (howned.hasMemory e)).move
    exact ⟨howned.step e, hmove.accounted he haccounted⟩
  have hrun := Runs.foldl_of_inv hinv ⟨hstart.owned hmalloc, hstart.accounted k⟩ hes
  have hwithin := hstart.within_run cfg es
  have hcount := hwithin.count_le k
  have hbrk := hrun.2.brk
  refine ⟨?_, hwithin⟩
  unfold Gateway.inUse
  omega

/-- Two nested interrupts and a command. -/
theorem payloads_bounded_nested :
    let es : List GatewayEvent :=
      [.interrupt 0 { id := 0x10000001, length := 3, data := fun _ => 7 },
        .interrupt 1 { id := 0x08000003, length := 2, data := fun _ => 4 }, .enqueue 1,
        .enqueue 0, .pduTask, .pduTask, .gatewayTask]
    (es.foldl (gatewayStep frameworkConfig) Gateway.initial).inUse 0 ≤ 5 + 10 + 10 + 2 + 2 ∧
      (es.foldl (gatewayStep frameworkConfig) Gateway.initial).Within 5 10 10 := by
  apply payloads_bounded Gateway.initial_start (fun _ => rfl) 2
  decide

/-! ## The work that is left -/

/-- The steps of `PDU_Task` on a PDU, from its queue to its end. -/
def Pdu.work (cfg : Config) (pdu : Pdu) : Nat :=
  if pduType pdu.id = .normal then
    (cfg.pduDescriptors (pdu.id &&& ~~~pduIdMaskTypeData)).destCount.toNat + 3
  else 2

def PduTask.work (cfg : Config) : PduTask → Nat
  | .receive => 0
  | .dispatch pdu => pdu.work cfg - 1
  | .sending pdu i =>
    (cfg.pduDescriptors (pdu.id &&& ~~~pduIdMaskTypeData)).destCount.toNat - i.toNat + 1

def GatewayTask.work : GatewayTask → Nat
  | .receive => 0
  | .parse _ => 1

/-- The steps that `PDU_Task` still has to do. -/
def Gateway.routerWork (cfg : Config) (s : Gateway) : Nat :=
  s.pduTask.work cfg + (s.pduQueue.items.map (Pdu.work cfg)).sum

/-- The steps that `Gateway_Task` still has to do. -/
def Gateway.managerWork (s : Gateway) : Nat :=
  s.gatewayTask.work + 2 * s.gatewayQueue.items.length

/-- Nothing is accepted. -/
def GatewayEvent.Quiet : GatewayEvent → Prop
  | .enqueue _ => False
  | _ => True

instance : DecidablePred GatewayEvent.Quiet
  | .interrupt _ _ => .isTrue trivial
  | .enqueue _ => .isFalse id
  | .pduTask => .isTrue trivial
  | .gatewayTask => .isTrue trivial

def GatewayEvent.isPduTask : GatewayEvent → Bool
  | .pduTask => true
  | _ => false

def GatewayEvent.isGatewayTask : GatewayEvent → Bool
  | .gatewayTask => true
  | _ => false

/-- Both tasks wait, and what is not freed waits for an updater or has not been
accepted. -/
structure Gateway.Drained (base : Ptr) (s : Gateway) : Prop where
  pduQueue : s.pduQueue.items = []
  pduTask : s.pduTask = .receive
  gatewayQueue : s.gatewayQueue.items = []
  gatewayTask : s.gatewayTask = .receive
  payloads : ∀ b, base ≤ b → b < s.mem.heap.brk →
    b ∈ s.mem.heap.frees ∨ b ∈ s.payloads (some .fwUpdateQueue) ∨
      ∃ n, b ∈ s.payloads (some (.isr n))

section
variable {cfg : Config} {s : Gateway} {base : Ptr} {e : GatewayEvent}

theorem Pdu.two_le_work (cfg : Config) (pdu : Pdu) : 2 ≤ pdu.work cfg := by
  unfold Pdu.work
  split <;> omega

theorem dispatch_routerWork {pdu : Pdu} (htask : s.pduTask = .dispatch pdu) :
    (s.dispatch pdu).routerWork cfg ≤ s.routerWork cfg - 1 := by
  have htwo := pdu.two_le_work cfg
  unfold Gateway.routerWork
  rw [htask, dispatch_pduQueue, dispatch_pduTask]
  split
  · rename_i hnormal
    simp only [PduTask.work, Pdu.work, if_pos hnormal, UInt8.toNat_zero]
    omega
  · simp only [PduTask.work]
    omega

theorem sendNext_routerWork {pdu : Pdu} {i : UInt8} (htask : s.pduTask = .sending pdu i) :
    (s.sendNext cfg pdu i).routerWork cfg ≤ s.routerWork cfg - 1 := by
  unfold Gateway.routerWork Gateway.sendNext
  rw [htask]
  dsimp only
  split
  · rename_i hi
    have hlt := UInt8.lt_iff_toNat_lt.mp hi
    -- the counter does not wrap: it is below a `uint8_t`
    have hsucc : (i + 1).toNat = i.toNat + 1 := by
      have hcount :=
        (cfg.pduDescriptors (pdu.id &&& ~~~pduIdMaskTypeData)).destCount.toNat_lt
      rw [UInt8.toNat_add]
      apply Nat.mod_eq_of_lt
      show i.toNat + 1 < 256
      omega
    simp only [PduTask.work, hsucc]
    omega
  · simp only [PduTask.work, Gateway.discard]
    omega

/-- A step of `PDU_Task` is one step less to do. -/
theorem stepPduTask_routerWork (cfg : Config) (s : Gateway) :
    (s.stepPduTask cfg).routerWork cfg ≤ s.routerWork cfg - 1 := by
  unfold Gateway.stepPduTask
  cases htask : s.pduTask with
  | receive =>
      cases hrecv : s.pduQueue.receive with
      | none =>
          simp [Gateway.routerWork, htask, RtosQueue.receive_eq_none.mp hrecv, PduTask.work]
      | some v =>
          obtain ⟨pdu, q⟩ := v
          obtain ⟨hitems, -⟩ := RtosQueue.receive_eq_some hrecv
          have htwo := pdu.two_le_work cfg
          simp only [Gateway.routerWork, htask, hitems, PduTask.work, List.map_cons,
            List.sum_cons]
          omega
  | dispatch pdu => exact dispatch_routerWork htask
  | sending pdu i => exact sendNext_routerWork htask

theorem stepGatewayTask_managerWork :
    (s.stepGatewayTask cfg).managerWork ≤ s.managerWork - 1 := by
  unfold Gateway.stepGatewayTask
  cases htask : s.gatewayTask with
  | receive =>
      cases hrecv : s.gatewayQueue.receive with
      | none =>
          simp [Gateway.managerWork, htask, RtosQueue.receive_eq_none.mp hrecv,
            GatewayTask.work]
      | some v =>
          obtain ⟨pdu, q⟩ := v
          obtain ⟨hitems, -⟩ := RtosQueue.receive_eq_some hrecv
          simp only [Gateway.managerWork, htask, hitems, GatewayTask.work, List.length_cons]
          omega
  | parse pdu =>
      show (s.parse cfg pdu).managerWork ≤ _
      unfold Gateway.parse
      split <;>
        · simp only [Gateway.managerWork, htask, GatewayTask.work]
          omega

/-- `PDU_Task` and its queue are nobody else's, as long as nothing is accepted. -/
theorem routerWork_of_quiet (he : e.Quiet) (hne : e.isPduTask = false) :
    (gatewayStep cfg s e).routerWork cfg = s.routerWork cfg := by
  cases e with
  | interrupt n frame =>
      show (s.interrupt n frame).routerWork cfg = _
      unfold Gateway.interrupt
      split <;> rfl
  | enqueue n => exact he.elim
  | pduTask => cases hne
  | gatewayTask =>
      show (s.stepGatewayTask cfg).routerWork cfg = _
      unfold Gateway.stepGatewayTask
      cases s.gatewayTask with
      | receive => cases s.gatewayQueue.receive <;> rfl
      | parse pdu =>
          show (s.parse cfg pdu).routerWork cfg = _
          unfold Gateway.parse
          split <;> rfl

theorem Gateway.idle_of_routerWork (h : s.routerWork cfg = 0) :
    s.pduTask = .receive ∧ s.pduQueue.items = [] := by
  unfold Gateway.routerWork at h
  constructor
  · cases htask : s.pduTask with
    | receive => rfl
    | dispatch pdu =>
        have htwo := pdu.two_le_work cfg
        rw [htask] at h
        simp only [PduTask.work] at h
        omega
    | sending pdu i =>
        rw [htask] at h
        simp only [PduTask.work] at h
        omega
  · cases hitems : s.pduQueue.items with
    | nil => rfl
    | cons pdu l =>
        have htwo := pdu.two_le_work cfg
        rw [hitems] at h
        simp only [List.map_cons, List.sum_cons] at h
        omega

/-- A router without work passes nothing on. -/
theorem managerWork_of_idle (hidle : s.routerWork cfg = 0) (he : e.Quiet)
    (hne : e.isGatewayTask = false) : (gatewayStep cfg s e).managerWork = s.managerWork := by
  cases e with
  | interrupt n frame =>
      show (s.interrupt n frame).managerWork = _
      unfold Gateway.interrupt
      split <;> rfl
  | enqueue n => exact he.elim
  | pduTask =>
      obtain ⟨htask, hitems⟩ := s.idle_of_routerWork hidle
      show (s.stepPduTask cfg).managerWork = _
      simp [Gateway.stepPduTask, htask, RtosQueue.receive_eq_none.mpr hitems]
  | gatewayTask => cases hne

theorem Gateway.idle_of_managerWork (h : s.managerWork = 0) :
    s.gatewayTask = .receive ∧ s.gatewayQueue.items = [] := by
  unfold Gateway.managerWork at h
  constructor
  · cases htask : s.gatewayTask with
    | receive => rfl
    | parse pdu =>
        rw [htask] at h
        simp only [GatewayTask.work] at h
        omega
  · apply List.eq_nil_of_length_eq_zero
    omega

/-- `PDU_Task` gets done. -/
theorem routerWork_run (cfg : Config) {es : List GatewayEvent} (hquiet : ∀ e ∈ es, e.Quiet)
    (hsteps : s.routerWork cfg ≤ es.countP GatewayEvent.isPduTask) :
    (es.foldl (gatewayStep cfg) s).routerWork cfg = 0 := by
  have hrun : (es.foldl (gatewayStep cfg) s).routerWork cfg ≤
      s.routerWork cfg - es.countP GatewayEvent.isPduTask := by
    apply Runs.work_le (I := fun _ => True) (Gateway.routerWork cfg) GatewayEvent.isPduTask
      (fun _ _ _ _ => trivial) _ _ trivial hquiet
    · intro s e _ _ hbusy
      cases e with
      | pduTask => exact stepPduTask_routerWork cfg s
      | _ => cases hbusy
    · intro s e _ he hother
      exact (routerWork_of_quiet he hother).le
  omega

/-- `Gateway_Task` gets done when `PDU_Task` is. -/
theorem managerWork_run {es : List GatewayEvent} (hidle : s.routerWork cfg = 0)
    (hquiet : ∀ e ∈ es, e.Quiet) (hsteps : s.managerWork ≤ es.countP GatewayEvent.isGatewayTask) :
    (es.foldl (gatewayStep cfg) s).managerWork = 0 := by
  have hrun : (es.foldl (gatewayStep cfg) s).managerWork ≤
      s.managerWork - es.countP GatewayEvent.isGatewayTask := by
    apply Runs.work_le (I := fun s => s.routerWork cfg = 0) Gateway.managerWork
      GatewayEvent.isGatewayTask _ _ _ hidle hquiet
    · intro s e h he
      cases hbusy : e.isPduTask with
      | true =>
          cases e with
          | pduTask =>
              have hstep := stepPduTask_routerWork cfg s
              show (s.stepPduTask cfg).routerWork cfg = 0
              omega
          | _ => cases hbusy
      | false => rw [routerWork_of_quiet he hbusy, h]
    · intro s e _ _ hbusy
      cases e with
      | gatewayTask => exact stepGatewayTask_managerWork
      | _ => cases hbusy
    · intro s e h he hother
      exact (managerWork_of_idle h he hother).le
  omega

/-- A payload is where it is owned. -/
theorem Gateway.Owned.drained (h : s.Owned base) (hrouter : s.routerWork cfg = 0)
    (hmanager : s.managerWork = 0) : s.Drained base := by
  obtain ⟨hpduTask, hpduQueue⟩ := s.idle_of_routerWork hrouter
  obtain ⟨hgatewayTask, hgatewayQueue⟩ := s.idle_of_managerWork hmanager
  constructor
  case pduQueue => exact hpduQueue
  case pduTask => exact hpduTask
  case gatewayQueue => exact hgatewayQueue
  case gatewayTask => exact hgatewayTask
  case payloads =>
    intro b hle hlt
    obtain ⟨k, hk⟩ := (h.custody.issued b).mpr ⟨hle, hlt⟩
    cases k with
    | none => exact .inl hk
    | some i =>
        have hpayload : b ∈ (s.pdusAt i).filterMap Pdu.data := hk
        cases i with
        | isr n => exact .inr (.inr ⟨n, hk⟩)
        | fwUpdateQueue => exact .inr (.inl hk)
        | pduQueue => simp [Gateway.pdusAt, hpduQueue] at hpayload
        | pduTask => simp [Gateway.pdusAt, hpduTask, PduTask.pdus] at hpayload
        | gatewayQueue => simp [Gateway.pdusAt, hgatewayQueue] at hpayload
        | gatewayTask => simp [Gateway.pdusAt, hgatewayTask, GatewayTask.pdus] at hpayload

end

/-- **Traffic comes to an end**: after any run `es₀`, when nothing is accepted
any more and `PDU_Task` gets as many steps as it has work, and `Gateway_Task`
then two steps for each command its queue can have and one more, both wait on
empty queues, in whatever order the steps come; and every payload that was
accepted is freed, but for those that an updater has to take. -/
theorem traffic_drains {cfg : Config} {s : Gateway} (hstart : s.Start)
    (hmalloc : ∀ n, s.mem.heap.oom n = false) (es₀ es₁ es₂ : List GatewayEvent)
    (hquiet₁ : ∀ e ∈ es₁, e.Quiet) (hquiet₂ : ∀ e ∈ es₂, e.Quiet)
    (hrouter : (es₀.foldl (gatewayStep cfg) s).routerWork cfg ≤
      es₁.countP GatewayEvent.isPduTask)
    (hmanager : 2 * s.gatewayQueue.size + 1 ≤ es₂.countP GatewayEvent.isGatewayTask) :
    ((es₀ ++ es₁ ++ es₂).foldl (gatewayStep cfg) s).Drained s.mem.heap.brk := by
  have howned : ∀ es : List GatewayEvent,
      (es.foldl (gatewayStep cfg) s).Owned s.mem.heap.brk := by
    intro es
    exact Runs.foldl_of_inv (A := fun _ => True) (fun s₁ e h _ => h.step e)
      (hstart.owned hmalloc) fun _ _ => trivial
  have hwithin := hstart.within_run cfg (es₀ ++ es₁)
  have hidle := routerWork_run cfg hquiet₁ hrouter
  rw [← List.foldl_append] at hidle
  have hwork : ((es₀ ++ es₁).foldl (gatewayStep cfg) s).managerWork ≤
      2 * s.gatewayQueue.size + 1 := by
    have hqueue := hwithin.gatewayQueue.2
    have htask : ((es₀ ++ es₁).foldl (gatewayStep cfg) s).gatewayTask.work ≤ 1 := by
      cases ((es₀ ++ es₁).foldl (gatewayStep cfg) s).gatewayTask <;> simp [GatewayTask.work]
    unfold Gateway.managerWork
    omega
  have hdone := managerWork_run hidle hquiet₂ (Nat.le_trans hwork hmanager)
  have hstill := routerWork_run cfg hquiet₂ (by rw [hidle]; exact Nat.zero_le _)
  rw [← List.foldl_append] at hdone hstill
  exact (howned _).drained hstill hdone

/-- A data frame for two ECUs and the status of another one, to the end. -/
theorem traffic_drains_two_frames :
    let es : List GatewayEvent :=
      [.interrupt 0 { id := 0x10000001, length := 3, data := fun _ => 7 }, .enqueue 0,
        .interrupt 0 { id := 0x08000003, length := 2, data := fun _ => 4 }, .enqueue 0]
    let tasks : List GatewayEvent := List.replicate 7 .pduTask
    let rest : List GatewayEvent := List.replicate 21 .gatewayTask
    ((es ++ tasks ++ rest).foldl (gatewayStep frameworkConfig) Gateway.initial).Drained 0 := by
  apply traffic_drains Gateway.initial_start fun _ => rfl
  · decide
  · decide
  · exact Nat.le_of_ble_eq_true rfl
  · decide

end XcanRouter
