import XcanRouter.Framework.Script

/-!
# Updates that report success

The waits of an update end with `pdFALSE` when they time out, and it is this
value that the update then returns: the number of `STATUS_SUCCESS`.
-/

namespace XcanRouter

/-- Each request was sent and got its awaited reply, one after the other. -/
inductive Completed (interface msgId : UInt32) (secureUpdate : Bool) :
    List Stage → List FwEvent → Prop where
  | nil : Completed interface msgId secureUpdate [] []
  | cons {stage : Stage} {stages : List Stage} {msg : CanSend} {reply : CanMessage}
      {log : List FwEvent} (sends : stage.Sends interface msgId secureUpdate msg)
      (accepts : stage.Accepts secureUpdate reply)
      (rest : Completed interface msgId secureUpdate stages log) :
      Completed interface msgId secureUpdate (stage :: stages)
        (.sent msg :: .got (some reply) :: log)

/-- How an update goes from receive number `n` on: to the end of its stages,
or to the first of them without the awaited reply. -/
inductive Exchanges (interface msgId : UInt32) (secureUpdate : Bool)
    (outcomes : Nat → Option CanMessage) :
    List Stage → Nat → Int → List FwEvent → Prop where
  | finished (n : Nat) :
      Exchanges interface msgId secureUpdate outcomes [] n statusSuccess []
  | accepted {stage : Stage} {stages : List Stage} {n : Nat} {msg : CanSend}
      {reply : CanMessage} {rc : Int} {log : List FwEvent}
      (sends : stage.Sends interface msgId secureUpdate msg) (got : outcomes n = some reply)
      (accepts : stage.Accepts secureUpdate reply)
      (rest : Exchanges interface msgId secureUpdate outcomes stages (n + 1) rc log) :
      Exchanges interface msgId secureUpdate outcomes (stage :: stages) n rc
        (.sent msg :: .got (some reply) :: log)
  | timeout {stage : Stage} {stages : List Stage} {n : Nat} {msg : CanSend}
      (got : outcomes n = none) :
      Exchanges interface msgId secureUpdate outcomes (stage :: stages) n pdFalse
        [.sent msg, .got none]
  | rejected {stage : Stage} {stages : List Stage} {n : Nat} {msg : CanSend}
      {reply : CanMessage} (got : outcomes n = some reply)
      (refuses : ¬ stage.Accepts secureUpdate reply) :
      Exchanges interface msgId secureUpdate outcomes (stage :: stages) n pdTrue
        [.sent msg, .got (some reply)]

/-- From receive number `n` on, no receive that awaited replies alone lead to
is a timeout. -/
def NoTimeoutFirst (secureUpdate : Bool) (outcomes : Nat → Option CanMessage)
    (stages : List Stage) (n : Nat) : Prop :=
  ∀ j < stages.length,
    (∀ i < j, ∀ stage, stages[i]? = some stage →
      stage.Awaited secureUpdate (outcomes (n + i))) → outcomes (n + j) ≠ none

section
variable {interface msgId : UInt32} {secureUpdate : Bool} {outcomes : Nat → Option CanMessage}
variable {stage : Stage} {stages : List Stage} {n : Nat} {rc : Int} {log : List FwEvent}

/-- An awaited reply leads to the next receive. -/
theorem noTimeoutFirst_cons (hawaited : stage.Awaited secureUpdate (outcomes n)) :
    NoTimeoutFirst secureUpdate outcomes (stage :: stages) n ↔
      NoTimeoutFirst secureUpdate outcomes stages (n + 1) := by
  have hshift : ∀ i, n + (i + 1) = n + 1 + i := by
    intro i
    omega
  constructor
  · intro hall j hj hbefore
    rw [← hshift j]
    apply hall (j + 1) (Nat.succ_lt_succ hj)
    intro i hi stage' hstage'
    cases i with
    | zero =>
        cases hstage'
        exact hawaited
    | succ i =>
        rw [hshift i]
        exact hbefore i (Nat.lt_of_succ_lt_succ hi) stage' hstage'
  · intro hrest j hj hbefore
    cases j with
    | zero =>
        obtain ⟨reply, hgot, -⟩ := hawaited
        simp [hgot]
    | succ j =>
        rw [hshift j]
        apply hrest j (Nat.lt_of_succ_lt_succ hj)
        intro i hi stage' hstage'
        rw [← hshift i]
        exact hbefore (i + 1) (Nat.succ_lt_succ hi) stage' hstage'

theorem completed_cons {msg : CanSend} {reply : CanMessage}
    (hsends : stage.Sends interface msgId secureUpdate msg)
    (haccepts : stage.Accepts secureUpdate reply) :
    Completed interface msgId secureUpdate (stage :: stages)
        (.sent msg :: .got (some reply) :: log) ↔
      Completed interface msgId secureUpdate stages log := by
  constructor
  · intro hcompleted
    cases hcompleted with
    | cons _ _ hrest => exact hrest
  · intro hrest
    exact .cons hsends haccepts hrest

/-- **Success is sound exactly where no timeout is the first thing to go
wrong**: `pdFALSE` is the number of `STATUS_SUCCESS`. -/
theorem Exchanges.sound_iff
    (h : Exchanges interface msgId secureUpdate outcomes stages n rc log) :
    (rc = statusSuccess → Completed interface msgId secureUpdate stages log) ↔
      NoTimeoutFirst secureUpdate outcomes stages n := by
  induction h with
  | finished n =>
      constructor
      · intro _ j hj
        exact absurd hj (Nat.not_lt_zero j)
      · intro _ _
        exact .nil
  | @accepted stage stages n msg reply rc log sends got accepts rest ih =>
      have hawaited : stage.Awaited secureUpdate (outcomes n) := ⟨reply, got, accepts⟩
      rw [completed_cons sends accepts, noTimeoutFirst_cons hawaited]
      exact ih
  | timeout got =>
      constructor
      · intro hsound
        cases hsound rfl
      · intro hall
        exact absurd got (hall 0 (Nat.succ_pos _) (by simp))
  | rejected got refuses =>
      constructor
      · intro _ j hj hbefore
        cases j with
        | zero => simp [got]
        | succ j =>
            -- the refused reply is not the awaited one
            obtain ⟨reply', hreply, haccepts⟩ := hbefore 0 (Nat.succ_pos j) _ rfl
            rw [Nat.add_zero, got] at hreply
            cases hreply
            exact absurd haccepts refuses
      · intro _ hrc
        cases hrc

/-! ## An update follows the protocol -/

/-- From `s` on, the result `r` is that of the given stages. -/
def FwRun.Runs (interface msgId : UInt32) (secureUpdate : Bool) (stages : List Stage)
    (s : FwRun) (r : Int × FwRun) : Prop :=
  ∃ log, r.2.log = s.log ++ log ∧
    Exchanges interface msgId secureUpdate s.outcomes stages s.received r.1 log

theorem FwRun.runs_converse {script : List Request}
    (hsends : ∀ request ∈ script, request.1.Sends interface msgId secureUpdate request.2)
    (s : FwRun) :
    s.Runs interface msgId secureUpdate (script.map Prod.fst)
      (s.converse secureUpdate script) := by
  induction script generalizing s with
  | nil => exact ⟨[], (List.append_nil _).symm, .finished _⟩
  | cons request script ih =>
      obtain ⟨stage, msg⟩ := request
      cases hgot : s.outcomes s.received with
      | none =>
          rw [FwRun.converse_timeout hgot]
          exact ⟨[.sent msg, .got none], rfl, .timeout hgot⟩
      | some reply =>
          by_cases haccepts : stage.Accepts secureUpdate reply
          · obtain ⟨log, hlog, hrest⟩ := ih (fun request hmem =>
              hsends request (List.mem_cons_of_mem _ hmem))
              (s.freed msg reply (stage.reads secureUpdate))
            rw [FwRun.converse_accepted hgot haccepts]
            refine ⟨.sent msg :: .got (some reply) :: log, ?_,
              .accepted (hsends _ List.mem_cons_self) hgot haccepts hrest⟩
            rw [hlog]
            exact List.append_assoc _ _ _
          · rw [FwRun.converse_refused hgot haccepts]
            exact ⟨[.sent msg, .got (some reply)], rfl, .rejected hgot haccepts⟩

theorem Platform.script_sends {P : Platform} {rnd : Bytes} {fw : P.Fil} :
    ∀ request ∈ P.script interface msgId secureUpdate rnd fw,
      request.1.Sends interface msgId secureUpdate request.2 := by
  intro request hmem
  rcases List.mem_append.mp hmem with hmem | hlast
  · rcases List.mem_cons.mp hmem with rfl | hmem
    · rfl
    rcases List.mem_cons.mp hmem with rfl | hmem
    · rfl
    obtain ⟨image, -, rfl⟩ := List.mem_map.mp hmem
    exact ⟨rfl, rfl, rfl⟩
  · rw [List.mem_singleton.mp hlast]
    rfl

/-- **An update follows the protocol**: its run is that of its stages, up to
the first one without the awaited reply. -/
theorem runs_updateFirmware (P : Platform) (ecuList : UInt8 → Ecu) (ecuId : UInt8) (fw : P.Fil)
    (secureUpdate : Bool) (s : FwRun) :
    s.Runs (ecuList ecuId).instIdx (pduIdMaskTypeFw ||| ecuId.toUInt32) secureUpdate
      (P.stages fw) (updateFirmware P ecuList ecuId fw secureUpdate s) := by
  rw [updateFirmware_eq, ← P.script_stages]
  exact FwRun.runs_converse P.script_sends s

end

/-- **An update reports success soundly exactly when** no receive times out
as the first one without the awaited reply, of the receives that the reads of
the file call for. -/
theorem update_success_sound_iff (P : Platform) (ecuList : UInt8 → Ecu) (ecuId : UInt8)
    (fw : P.Fil) (secureUpdate : Bool) (mem : Mem) (outcomes : Nat → Option CanMessage) :
    ((updateFirmware P ecuList ecuId fw secureUpdate { mem, outcomes }).1 = statusSuccess →
      Completed (ecuList ecuId).instIdx (pduIdMaskTypeFw ||| ecuId.toUInt32) secureUpdate
        (P.stages fw) (updateFirmware P ecuList ecuId fw secureUpdate { mem, outcomes }).2.log) ↔
      ∀ j < (P.stages fw).length,
        (∀ i < j, ∀ stage, (P.stages fw)[i]? = some stage →
          stage.Awaited secureUpdate (outcomes i)) → outcomes j ≠ none := by
  obtain ⟨log, hlog, hruns⟩ :=
    runs_updateFirmware P ecuList ecuId fw secureUpdate { mem, outcomes }
  rw [hlog]
  have hsound := hruns.sound_iff
  simpa only [NoTimeoutFirst, Nat.zero_add, List.nil_append] using hsound

/-- The ECU does not even answer the reset, and the update is a success. -/
theorem timeout_is_success :
    (updateFirmware memoryPlatform ecuTable 2 [0x12, 0x34] true
        { mem := {}, outcomes := fun _ => none }).1 = statusSuccess ∧
      (updateFirmware memoryPlatform ecuTable 2 [0x12, 0x34] true
        { mem := {}, outcomes := fun _ => none }).2.log =
          [.sent (flagMsg 2 0x04000002 resetCmd), .got none] ∧
      ¬ Completed 2 0x04000002 true (memoryPlatform.stages [0x12, 0x34])
        [.sent (flagMsg 2 0x04000002 resetCmd), .got none] := by
  refine ⟨rfl, rfl, ?_⟩
  intro hcompleted
  cases hcompleted

end XcanRouter
