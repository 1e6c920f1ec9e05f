import XcanRouter.Framework.Firmware

/-!
# The script of an update

Once the challenge is known, so is everything that an update may send. An
update goes through a list of requests, up to the first one that does not get
the reply it waits for, and takes and gives back one PDU for each of them.
-/

namespace XcanRouter

/-- A message and the stage at which it is sent. -/
abbrev Request := Stage × CanSend

instance (secureUpdate : Bool) :
    (stage : Stage) → (reply : CanMessage) → Decidable (stage.Accepts secureUpdate reply)
  | .reset, reply => inferInstanceAs (Decidable (reply.data 0 = resetAck))
  | .begin, reply => inferInstanceAs (Decidable (secureUpdate = true ∨ reply.data 0 = 0xFF))
  | .frame, reply => inferInstanceAs (Decidable (reply.data 0 = frameAck))
  | .finish, reply => inferInstanceAs (Decidable (reply.data 0 = endAck))

/-- How many bytes of the reply are read. -/
def Stage.reads (secureUpdate : Bool) : Stage → Nat
  | .begin => if secureUpdate then fwCmacSize else 1
  | _ => 1

section
variable (s : FwRun) (msg : CanSend) (reply : CanMessage) (n : Nat)

/-- After a request and a look at the first `n` bytes of the reply. -/
def FwRun.looked : FwRun :=
  { s.answered msg reply with
    mem := (s.answered msg reply).mem.touch (some s.mem.heap.brk) 0 n }

/-- After the reply has been freed as well. -/
def FwRun.freed : FwRun :=
  { s.looked msg reply n with
    mem := (pduDiscardPdu (s.pdu reply) (s.looked msg reply n).mem).2 }

end

/-- The requests are sent in turn, as long as their replies are the awaited
ones. -/
def FwRun.converse (secureUpdate : Bool) : List Request → FwRun → Int × FwRun
  | [], s => (statusSuccess, s)
  | (stage, msg) :: script, s =>
    match s.outcomes s.received with
    | none => (pdFalse, s.unanswered msg)
    | some reply =>
      if stage.Accepts secureUpdate reply then
        FwRun.converse secureUpdate script (s.freed msg reply (stage.reads secureUpdate))
      else
        (pdTrue, s.looked msg reply (stage.reads secureUpdate))

/-! ## What an update has to say -/

/-- The random number that the outcome of the second receive brings. -/
def challenge (secureUpdate : Bool) : Option CanMessage → Bytes
  | some reply => if secureUpdate then reply.data else fun _ => 0
  | none => fun _ => 0

/-- The contents of the buffer each time that a firmware frame is sent. -/
def Platform.images (P : Platform) (rnd buffer : Bytes) (fw : P.Fil) : List Bytes :=
  if _hbr : (P.fRead fw fwDataSize).br ≠ 0 then
    let buffer := P.fwFrame buffer rnd (P.fRead fw fwDataSize)
    buffer :: P.images rnd buffer (P.fRead fw fwDataSize).fil
  else
    []
termination_by P.remaining fw
decreasing_by
  have := P.read_remaining fw fwDataSize
  omega

def frameRequest (interface msgId : UInt32) (image : Bytes) : Request :=
  (.frame, sendMsg interface msgId image msgSize)

/-- Steps 5 and 6. -/
def Platform.firmwareScript (P : Platform) (interface msgId : UInt32) (rnd buffer : Bytes)
    (fw : P.Fil) : List Request :=
  (P.images rnd buffer fw).map (frameRequest interface msgId) ++
    [(.finish, flagMsg interface msgId endCmd)]

def beginCmd (secureUpdate : Bool) : UInt8 := if secureUpdate then beginSec else beginNonsec

/-- Steps 1 to 5, when the begin request brings the random number `rnd`. -/
def Platform.requests (P : Platform) (interface msgId : UInt32) (secureUpdate : Bool)
    (rnd : Bytes) (fw : P.Fil) : List Request :=
  (.reset, flagMsg interface msgId resetCmd) ::
    (.begin, flagMsg interface msgId (beginCmd secureUpdate)) ::
      (P.images rnd (Function.update (fun _ => 0) 0 (beginCmd secureUpdate)) fw).map
        (frameRequest interface msgId)

/-- The requests of an update. -/
def Platform.script (P : Platform) (interface msgId : UInt32) (secureUpdate : Bool)
    (rnd : Bytes) (fw : P.Fil) : List Request :=
  P.requests interface msgId secureUpdate rnd fw ++ [(.finish, flagMsg interface msgId endCmd)]

section
variable {P : Platform} {interface msgId : UInt32} {secureUpdate : Bool} {rnd buffer : Bytes}
  {fw : P.Fil} {s : FwRun} {stage : Stage} {msg : CanSend} {script : List Request}

theorem Platform.images_of_ne (hbr : (P.fRead fw fwDataSize).br ≠ 0) :
    P.images rnd buffer fw = P.fwFrame buffer rnd (P.fRead fw fwDataSize) ::
      P.images rnd (P.fwFrame buffer rnd (P.fRead fw fwDataSize))
        (P.fRead fw fwDataSize).fil := by
  rw [Platform.images, dif_pos hbr]

theorem Platform.images_of_eq (hbr : (P.fRead fw fwDataSize).br = 0) :
    P.images rnd buffer fw = [] := by
  rw [Platform.images, dif_neg (not_not_intro hbr)]

theorem Platform.length_images : (P.images rnd buffer fw).length = P.reads fw := by
  fun_induction Platform.images P rnd buffer fw with
  | case1 buffer fw hbr buffer' ih => rw [List.length_cons, ih, P.reads_of_ne hbr]
  | case2 buffer fw hbr => rw [List.length_nil, P.reads_of_eq (Decidable.of_not_not hbr)]

theorem Platform.requests_stages :
    (P.requests interface msgId secureUpdate rnd fw).map Prod.fst =
      .reset :: .begin :: List.replicate (P.reads fw) .frame := by
  have hframes : ∀ images : List Bytes,
      (images.map (frameRequest interface msgId)).map Prod.fst =
        List.replicate images.length .frame := by
    intro images
    rw [List.map_map]
    exact List.map_const'
  rw [Platform.requests, List.map_cons, List.map_cons, hframes, P.length_images]

theorem Platform.script_stages :
    (P.script interface msgId secureUpdate rnd fw).map Prod.fst = P.stages fw := by
  rw [Platform.script, List.map_append, P.requests_stages]
  rfl

/-! ## An update follows its script -/

theorem FwRun.bytes_answered (reply : CanMessage) :
    (s.answered msg reply).mem.byteAt ((s.pdu reply).byte 0) = reply.data := by
  ext i
  simp [Mem.byteAt, Pdu.byte, FwRun.pdu, FwRun.answered]

/-- A request and the wait for an acknowledgement. -/
theorem FwRun.exec_awaitAck {flag : UInt8} {pdu : Pdu} {next : Pdu → FwProg Int}
    (hreads : stage.reads secureUpdate = 1)
    (haccepts : ∀ reply, stage.Accepts secureUpdate reply ↔ reply.data 0 = flag)
    (hnext : ∀ s' reply pdu, s.Replied s' msg reply →
      (next pdu).exec FwRun.handle s' = s'.converse secureUpdate script) :
    (FwProg.send msg >>= fun _ => awaitAck flag pdu next).exec FwRun.handle s =
      s.converse secureUpdate ((stage, msg) :: script) := by
  unfold awaitAck
  rw [FwProg.send_bind, FwProg.receive_bind, FwRun.exec_request, FwRun.converse, hreads]
  cases s.outcomes s.received with
  | none => rfl
  | some reply =>
      simp only [Option.elim_some, ne_eq, not_true_eq_false, if_false, FwProg.loadByte_bind,
        FwRun.exec_loadByte, FwRun.byteAt_answered, haccepts]
      by_cases hflag : reply.data 0 = flag
      · rw [if_neg (not_not_intro hflag), if_pos hflag, FwProg.free_bind, FwRun.exec_free]
        exact hnext _ reply _ (s.replied msg reply _)
      · rw [if_pos hflag, if_neg hflag]
        rfl

/-- The begin request and the wait for the challenge. -/
theorem FwRun.exec_awaitChallenge {pdu : Pdu} {next : Bytes → Pdu → FwProg Int}
    (hnext : ∀ s' reply pdu, s.Replied s' msg reply →
      (next (challenge secureUpdate (s.outcomes s.received)) pdu).exec FwRun.handle s' =
        s'.converse secureUpdate script) :
    (FwProg.send msg >>= fun _ => awaitChallenge secureUpdate pdu next).exec
        FwRun.handle s = s.converse secureUpdate ((.begin, msg) :: script) := by
  unfold awaitChallenge
  rw [FwProg.send_bind, FwProg.receive_bind, FwRun.exec_request, FwRun.converse]
  cases hgot : s.outcomes s.received with
  | none => rfl
  | some reply =>
      rw [hgot] at hnext
      simp only [Option.elim_some, ne_eq, not_true_eq_false, if_false]
      cases secureUpdate with
      | true =>
          rw [if_pos (show Stage.begin.Accepts true reply from .inl rfl)]
          simp only [if_true, FwProg.loadBytes_bind, FwRun.exec_loadBytes, FwProg.free_bind,
            FwRun.exec_free, FwRun.bytes_answered]
          exact hnext _ reply _ (s.replied msg reply _)
      | false =>
          have haccepts : Stage.begin.Accepts false reply ↔ reply.data 0 = 0xFF := by
            simp [Stage.Accepts]
          simp only [Bool.false_eq_true, if_false, FwProg.loadByte_bind, FwRun.exec_loadByte,
            FwRun.byteAt_answered, haccepts]
          by_cases hflag : reply.data 0 = 0xFF
          · rw [if_neg (not_not_intro hflag), if_pos hflag, FwProg.free_bind, FwRun.exec_free]
            exact hnext _ reply _ (s.replied msg reply _)
          · rw [if_pos hflag, if_neg hflag]
            rfl

theorem FwRun.exec_sendFirmware (pdu : Pdu) (s : FwRun) :
    (sendFirmware P interface msgId rnd buffer pdu fw).exec FwRun.handle s =
      s.converse secureUpdate (P.firmwareScript interface msgId rnd buffer fw) := by
  unfold Platform.firmwareScript
  fun_induction sendFirmware P interface msgId rnd buffer pdu fw generalizing s with
  | case1 buffer pdu fw hbr buffer' ih =>
      rw [P.images_of_ne hbr]
      apply FwRun.exec_awaitAck
      · rfl
      · intro reply
        exact Iff.rfl
      · intro s' reply pdu' _
        exact ih pdu' s'
  | case2 buffer pdu fw hbr =>
      rw [P.images_of_eq (Decidable.of_not_not hbr)]
      unfold sendEnd sendFlag
      rw [sendMsg_flag]
      apply FwRun.exec_awaitAck
      · rfl
      · intro reply
        exact Iff.rfl
      · intro s' reply pdu' _
        rfl

/-- **An update follows its script**, the one with the random number that the
outcome of the second receive brings. -/
theorem updateFirmware_eq (P : Platform) (ecuList : UInt8 → Ecu) (ecuId : UInt8) (fw : P.Fil)
    (secureUpdate : Bool) (s : FwRun) :
    updateFirmware P ecuList ecuId fw secureUpdate s =
      s.converse secureUpdate (P.script (ecuList ecuId).instIdx
        (pduIdMaskTypeFw ||| ecuId.toUInt32) secureUpdate
        (challenge secureUpdate (s.outcomes (s.received + 1))) fw) := by
  unfold updateFirmware canUpdateFirmware sendFlag
  simp only [sendMsg_flag]
  apply FwRun.exec_awaitAck
  · rfl
  · intro reply
    exact Iff.rfl
  · intro s' reply pdu hs'
    rw [← hs'.received, ← hs'.outcomes]
    apply FwRun.exec_awaitChallenge
    intro s'' reply' pdu' _
    exact FwRun.exec_sendFirmware pdu' s''

end

/-! ## How far it gets -/

/-- What was sent, in order. -/
def sentMsgs (log : List FwEvent) : List CanSend :=
  log.filterMap fun
    | .sent msg => some msg
    | .got _ => none

@[simp] theorem sentMsgs_append (xs ys : List FwEvent) :
    sentMsgs (xs ++ ys) = sentMsgs xs ++ sentMsgs ys := List.filterMap_append

@[simp] theorem sentMsgs_exchange (msg : CanSend) (outcome : Option CanMessage) :
    sentMsgs [.sent msg, .got outcome] = [msg] := rfl

/-- From receive number `n` on, the stages get the replies they wait for. -/
def AllAwaited (secureUpdate : Bool) (outcomes : Nat → Option CanMessage) :
    List Stage → Nat → Prop
  | [], _ => True
  | stage :: stages, n =>
    stage.Awaited secureUpdate (outcomes n) ∧ AllAwaited secureUpdate outcomes stages (n + 1)

/-- A reply that is not the awaited one. -/
def Stage.Refused (secureUpdate : Bool) (stage : Stage) (outcome : Option CanMessage) : Prop :=
  ∃ reply, outcome = some reply ∧ ¬ stage.Accepts secureUpdate reply

section
variable {secureUpdate : Bool} {s : FwRun} {stage : Stage} {msg : CanSend}
  {pre post : List Request}

theorem FwRun.converse_accepted {reply : CanMessage} (hgot : s.outcomes s.received = some reply)
    (haccepts : stage.Accepts secureUpdate reply) :
    s.converse secureUpdate ((stage, msg) :: post) =
      (s.freed msg reply (stage.reads secureUpdate)).converse secureUpdate post := by
  rw [FwRun.converse, hgot]
  exact if_pos haccepts

theorem FwRun.converse_timeout (hgot : s.outcomes s.received = none) :
    s.converse secureUpdate ((stage, msg) :: post) = (pdFalse, s.unanswered msg) := by
  rw [FwRun.converse, hgot]

theorem FwRun.converse_refused {reply : CanMessage} (hgot : s.outcomes s.received = some reply)
    (hrefuses : ¬ stage.Accepts secureUpdate reply) :
    s.converse secureUpdate ((stage, msg) :: post) =
      (pdTrue, s.looked msg reply (stage.reads secureUpdate)) := by
  rw [FwRun.converse, hgot]
  exact if_neg hrefuses

/-- A request that is not answered as it should be is the last one. -/
theorem FwRun.converse_stopped (msg : CanSend) (post : List Request)
    (h : ¬ stage.Awaited secureUpdate (s.outcomes s.received)) :
    sentMsgs (s.converse secureUpdate ((stage, msg) :: post)).2.log =
        sentMsgs s.log ++ [msg] ∧
      ((s.converse secureUpdate ((stage, msg) :: post)).1 = statusSuccess ↔
        ¬ stage.Refused secureUpdate (s.outcomes s.received)) := by
  cases hgot : s.outcomes s.received with
  | none =>
      rw [FwRun.converse_timeout hgot]
      simp [FwRun.unanswered, pdFalse, statusSuccess, Stage.Refused]
  | some reply =>
      have hrefuses : ¬ stage.Accepts secureUpdate reply := fun haccepts =>
        h ⟨reply, hgot, haccepts⟩
      rw [FwRun.converse_refused hgot hrefuses]
      simp [hrefuses, FwRun.looked, FwRun.answered, pdTrue, statusSuccess, Stage.Refused]

/-- Requests that get their replies lead to those behind them. -/
theorem FwRun.converse_awaited
    (h : AllAwaited secureUpdate s.outcomes (pre.map Prod.fst) s.received) :
    ∃ s' : FwRun, s'.outcomes = s.outcomes ∧ s'.received = s.received + pre.length ∧
      sentMsgs s'.log = sentMsgs s.log ++ pre.map Prod.snd ∧
      s.converse secureUpdate (pre ++ post) = s'.converse secureUpdate post := by
  induction pre generalizing s with
  | nil => exact ⟨s, rfl, rfl, (List.append_nil _).symm, rfl⟩
  | cons request pre ih =>
      obtain ⟨stage, msg⟩ := request
      obtain ⟨⟨reply, hgot, haccepts⟩, hrest⟩ := h
      obtain ⟨s', houtcomes, hreceived, hsent, heq⟩ :=
        ih (s := s.freed msg reply (stage.reads secureUpdate)) hrest
      refine ⟨s', houtcomes, ?_, ?_, ?_⟩
      · rw [hreceived, List.length_cons]
        show s.received + 1 + pre.length = _
        omega
      · rw [hsent]
        simp [FwRun.freed, FwRun.looked, FwRun.answered]
      · rw [List.cons_append, FwRun.converse_accepted hgot haccepts, heq]

/-- Otherwise they are not all sent, or nothing is sent after them. -/
theorem FwRun.converse_not_awaited (post : List Request)
    (h : ¬ AllAwaited secureUpdate s.outcomes (pre.map Prod.fst) s.received) :
    ∃ k ≤ pre.length, sentMsgs (s.converse secureUpdate (pre ++ post)).2.log =
      sentMsgs s.log ++ (pre.map Prod.snd).take k := by
  induction pre generalizing s with
  | nil => exact absurd trivial h
  | cons request pre ih =>
      obtain ⟨stage, msg⟩ := request
      by_cases hawaited : stage.Awaited secureUpdate (s.outcomes s.received)
      · obtain ⟨reply, hgot, haccepts⟩ := hawaited
        obtain ⟨k, hk, hsent⟩ := ih (s := s.freed msg reply (stage.reads secureUpdate))
          fun hrest => h ⟨⟨reply, hgot, haccepts⟩, hrest⟩
        refine ⟨k + 1, Nat.succ_le_succ hk, ?_⟩
        rw [List.cons_append, FwRun.converse_accepted hgot haccepts, hsent]
        simp [FwRun.freed, FwRun.looked, FwRun.answered]
      · exact ⟨1, Nat.succ_pos _, (FwRun.converse_stopped msg _ hawaited).1⟩

end

/-! ## The end request -/

/-- What an update sends at its end. -/
def endMsg (ecuList : UInt8 → Ecu) (ecuId : UInt8) : CanSend :=
  flagMsg (ecuList ecuId).instIdx (pduIdMaskTypeFw ||| ecuId.toUInt32) endCmd

/-- What it sends before that, if all goes well. -/
def Platform.updateRequests (P : Platform) (ecuList : UInt8 → Ecu) (ecuId : UInt8)
    (fw : P.Fil) (secureUpdate : Bool) (outcomes : Nat → Option CanMessage) : List Request :=
  P.requests (ecuList ecuId).instIdx (pduIdMaskTypeFw ||| ecuId.toUInt32) secureUpdate
    (challenge secureUpdate (outcomes 1)) fw

/-- All requests before the end request get their replies. -/
def Platform.ReachesEnd (P : Platform) (fw : P.Fil) (secureUpdate : Bool)
    (outcomes : Nat → Option CanMessage) : Prop :=
  AllAwaited secureUpdate outcomes (.reset :: .begin :: List.replicate (P.reads fw) .frame) 0

theorem mem_sentMsgs {msg : CanSend} {log : List FwEvent} :
    msg ∈ sentMsgs log ↔ .sent msg ∈ log := by
  rw [sentMsgs, List.mem_filterMap]
  constructor
  · rintro ⟨event, hmem, hevent⟩
    cases event with
    | sent msg' =>
        cases hevent
        exact hmem
    | got outcome => cases hevent
  · intro hmem
    exact ⟨_, hmem, rfl⟩

section
variable (P : Platform) (ecuList : UInt8 → Ecu) (ecuId : UInt8) (fw : P.Fil)
  (secureUpdate : Bool) (mem : Mem) (outcomes : Nat → Option CanMessage)

theorem length_updateRequests :
    (P.updateRequests ecuList ecuId fw secureUpdate outcomes).length = P.reads fw + 2 := by
  rw [Platform.updateRequests, Platform.requests, List.length_cons, List.length_cons,
    List.length_map, P.length_images]

/-- The end request is told from those before it. -/
theorem endMsg_not_mem : endMsg ecuList ecuId ∉
    (P.updateRequests ecuList ecuId fw secureUpdate outcomes).map Prod.snd := by
  have hflag : ∀ flag, flag ≠ endCmd → ∀ interface msgId : UInt32,
      flagMsg interface msgId endCmd ≠ flagMsg interface msgId flag := by
    intro flag hflag interface msgId heq
    exact hflag (List.head_eq_of_cons_eq (congrArg CanSend.payload heq)).symm
  intro hmem
  rw [Platform.updateRequests, Platform.requests, List.map_cons, List.map_cons,
    List.map_map] at hmem
  rcases List.mem_cons.mp hmem with hreset | hmem
  · exact hflag resetCmd (by decide) _ _ hreset
  rcases List.mem_cons.mp hmem with hbegin | hmem
  · refine hflag (beginCmd secureUpdate) ?_ _ _ hbegin
    cases secureUpdate <;> decide
  obtain ⟨image, -, hframe⟩ := List.mem_map.mp hmem
  have hlength := congrArg CanSend.length hframe
  cases hlength

/-- An update that reaches its end request, and how it ends. -/
theorem updateFirmware_reaches (h : P.ReachesEnd fw secureUpdate outcomes) :
    sentMsgs (updateFirmware P ecuList ecuId fw secureUpdate { mem, outcomes }).2.log =
        (P.updateRequests ecuList ecuId fw secureUpdate outcomes).map Prod.snd ++
          [endMsg ecuList ecuId] ∧
      ((updateFirmware P ecuList ecuId fw secureUpdate { mem, outcomes }).1 = statusSuccess ↔
        ¬ Stage.finish.Refused secureUpdate (outcomes (P.reads fw + 2))) := by
  rw [Platform.ReachesEnd, ← P.requests_stages] at h
  rw [updateFirmware_eq]
  obtain ⟨s, houtcomes, hreceived, hsent, heq⟩ :=
    FwRun.converse_awaited (s := { mem, outcomes }) h
  have hfinish : s.outcomes s.received = outcomes (P.reads fw + 2) := by
    rw [houtcomes, hreceived, Nat.zero_add]
    exact congrArg outcomes (length_updateRequests P ecuList ecuId fw secureUpdate outcomes)
  rw [Platform.script, heq, ← hfinish]
  by_cases hawaited : Stage.finish.Awaited secureUpdate (s.outcomes s.received)
  · obtain ⟨reply, hgot, haccepts⟩ := hawaited
    rw [FwRun.converse_accepted hgot haccepts]
    constructor
    · show sentMsgs (s.log ++ _) = _
      rw [sentMsgs_append, hsent]
      rfl
    · constructor
      · rintro - ⟨reply', hgot', hrefuses⟩
        rw [hgot] at hgot'
        cases hgot'
        exact hrefuses haccepts
      · intro _
        rfl
  · obtain ⟨hlast, hrc⟩ := FwRun.converse_stopped (endMsg ecuList ecuId) [] hawaited
    refine ⟨?_, hrc⟩
    show sentMsgs (FwRun.converse secureUpdate [(.finish, endMsg ecuList ecuId)] s).2.log = _
    rw [hlast, hsent]
    rfl

/-- One that does not reach it. -/
theorem updateFirmware_stops (h : ¬ P.ReachesEnd fw secureUpdate outcomes) :
    ∃ k ≤ P.reads fw + 2,
      sentMsgs (updateFirmware P ecuList ecuId fw secureUpdate { mem, outcomes }).2.log =
        ((P.updateRequests ecuList ecuId fw secureUpdate outcomes).map Prod.snd).take k := by
  rw [Platform.ReachesEnd, ← P.requests_stages] at h
  rw [updateFirmware_eq]
  obtain ⟨k, hk, hsent⟩ := FwRun.converse_not_awaited (s := { mem, outcomes })
    [(.finish, endMsg ecuList ecuId)] h
  rw [← length_updateRequests P ecuList ecuId fw secureUpdate outcomes]
  exact ⟨k, hk, hsent⟩

/-- The end request is sent when the update reaches it, and only then. -/
theorem sent_endMsg_iff :
    .sent (endMsg ecuList ecuId) ∈
        (updateFirmware P ecuList ecuId fw secureUpdate { mem, outcomes }).2.log ↔
      P.ReachesEnd fw secureUpdate outcomes := by
  rw [← mem_sentMsgs]
  constructor
  · intro hmem
    by_contra hstops
    obtain ⟨k, -, hsent⟩ :=
      updateFirmware_stops P ecuList ecuId fw secureUpdate mem outcomes hstops
    rw [hsent] at hmem
    exact endMsg_not_mem P ecuList ecuId fw secureUpdate outcomes (List.mem_of_mem_take hmem)
  · intro hreaches
    rw [(updateFirmware_reaches P ecuList ecuId fw secureUpdate mem outcomes hreaches).1]
    simp

end

end XcanRouter
