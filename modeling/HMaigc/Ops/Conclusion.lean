import HMaigc.Ops.Files
import HMaigc.Ops.Run

/-!
# Concluding that the current release is online

An operation that failed or was cancelled ends with a result that says how the service is left.  When
a destructive stage has been attempted, the result may say that the current release is online only if
there are grounds for it: a restoration that is done, or what the failed stage itself reported.

* `ConcludesOnline`, `Grounded` — such a result, and the grounds for it.
* `FailsSilently`, `CancelsSilently` — the failures and cancellations that are concluded so because
  nothing was reported to the contrary.
-/

set_option autoImplicit false

namespace HMaigc.Ops

open Go Concurrent Concurrent.Proc

/-- A stage that restores the current release. -/
def IsRestoration (stage : OperationStage) : Prop :=
  stage = .restoringCurrent ∨ stage = .restoringBackup

/-- A destructive stage of the operation has been begun. -/
def Attempted (operationID : String) (w : World) : Prop :=
  ∃ run ∈ w.executed, run.operationID = operationID ∧ isDestructiveStage run.stage = true

/-- The last thing on record of the operation is that a restoration is done. -/
def Restored (operationID : String) (w : World) : Prop :=
  ∃ event, (w.dir operationID).events.getLast? = some event ∧ event.kind = .fact ∧
    IsRestoration event.stage

/-- A step that files the result of a failed or cancelled operation, with the current release
online. -/
def ConcludesOnline (operationID : String) (w w' : World) (r : OperationResult) : Prop :=
  (w'.dir operationID).result = some r ∧ (w.dir operationID).result ≠ some r ∧
    (r.status = .failed ∨ r.status = .cancelled) ∧ r.serviceState = .currentOnline

/-- After a destructive stage such a result is filed when the current release is restored, or on the
grounds `P`. -/
def Grounded (operationID : String) (P : OperationResult → Prop) (w w' : World) : Prop :=
  ∀ r, ConcludesOnline operationID w w' r → Attempted operationID w →
    Restored operationID w ∨ P r

/-- Nobody else works on the operation. -/
structure Alone (operationID : String) (w w' : World) : Prop where
  executed : w'.executed = w.executed
  events : (w'.dir operationID).events = (w.dir operationID).events

instance (operationID : String) : Std.Refl (Alone operationID) := ⟨fun _ ↦ ⟨rfl, rfl⟩⟩

instance (operationID : String) : IsTrans World (Alone operationID) :=
  ⟨fun _ _ _ h h' ↦ ⟨h'.executed.trans h.executed, h'.events.trans h.events⟩⟩

/-- The stage failed without a word about the service, which was online when it began, and nothing
says that the data or the release were touched. -/
structure FailsSilently (c : OperationCheckpoint) (stage : OperationStage) (output : StageOutput) :
    Prop where
  online : c.serviceState = .currentOnline
  silent : output.serviceState = none
  quiet : output.writesQuiesced = true → IsRestoration stage
  rewriting : stageMayRewriteData stage = false
  untouched : c.dataMigrationStarted = false ∧ output.dataMigrationStarted = false
  uncommitted : c.releaseCommitted = false ∧ output.releaseCommitted = false

/-- The checkpoint has the service online and its writes not quiesced. -/
def CancelsSilently (c : OperationCheckpoint) : Prop :=
  c.serviceState = .currentOnline ∧ c.writesQuiesced = false

/-! ## The decision -/

section Decision

variable {c : OperationCheckpoint} {stage : OperationStage} {output : StageOutput}
  {message : String} {sequence : ℕ} {now : Time}

theorem serviceState_failedCheckpoint :
    (Engine.failedCheckpoint c stage output message sequence now).serviceState =
      output.serviceState.getD c.serviceState := rfl

theorem releaseCommitted_failedCheckpoint :
    (Engine.failedCheckpoint c stage output message sequence now).releaseCommitted =
      (c.releaseCommitted || output.releaseCommitted) := rfl

theorem dataMigrationStarted_failedCheckpoint :
    (Engine.failedCheckpoint c stage output message sequence now).dataMigrationStarted =
      (c.dataMigrationStarted || stageMayRewriteData stage || output.dataMigrationStarted) := rfl

theorem writesQuiesced_failedCheckpoint :
    (Engine.failedCheckpoint c stage output message sequence now).writesQuiesced =
      if stage = .restoringCurrent ∨ stage = .restoringBackup ∨
        output.serviceState = some .targetOnline then false else output.writesQuiesced := rfl

/-- Of a failed stage it is concluded that the current release remains online because the stage said
so, or silently. -/
theorem failsSilently_of_none {decision : RecoveryDecision}
    (h : decideRecovery (Engine.failedCheckpoint c stage output message sequence now)
      (observedFrom (Engine.failedCheckpoint c stage output message sequence now) output) =
        .ok decision)
    (hnone : decision.action = .none)
    (honline : (Engine.failedCheckpoint c stage output message sequence now).serviceState =
      .currentOnline) :
    output.serviceState = some .currentOnline ∨ FailsSilently c stage output := by
  rw [serviceState_failedCheckpoint] at honline
  cases hstate : output.serviceState with
  | some state =>
    rw [hstate, Option.getD_some] at honline
    exact .inl (by rw [honline])
  | none =>
    rw [hstate, Option.getD_none] at honline
    rcases Bool.eq_false_or_eq_true
      (Engine.failedCheckpoint c stage output message sequence now).releaseCommitted with
      hcommitted | hcommitted
    · rcases decideRecovery_of_committed hcommitted h with haction | haction <;>
        simp [haction] at hnone
    · rw [decideRecovery_of_uncommitted hcommitted, Except.ok.injEq] at h
      subst h
      rw [releaseCommitted_failedCheckpoint, Bool.or_eq_false_iff] at hcommitted
      rw [uncommittedDecision_none_iff, dataMigrationStarted_failedCheckpoint,
        writesQuiesced_failedCheckpoint, hstate] at hnone
      obtain ⟨huntouched, hquiet, -⟩ := hnone
      simp only [Bool.or_eq_false_iff] at huntouched
      refine .inr ⟨honline, hstate, fun houtput ↦ ?_, huntouched.1.2, ⟨huntouched.1.1, huntouched.2⟩,
        hcommitted⟩
      by_contra hstage
      rw [if_neg, houtput] at hquiet
      · cases hquiet
      · rintro (hstage' | hstage' | hstage')
        · exact hstage (.inl hstage')
        · exact hstage (.inr hstage')
        · cases hstage'

/-- And of one that fails silently it is concluded. -/
theorem FailsSilently.concludes (h : FailsSilently c stage output) :
    (∃ decision, decideRecovery (Engine.failedCheckpoint c stage output message sequence now)
      (observedFrom (Engine.failedCheckpoint c stage output message sequence now) output) =
        .ok decision ∧ decision.action = .none) ∧
      (Engine.failedCheckpoint c stage output message sequence now).serviceState =
        .currentOnline := by
  have honline : (Engine.failedCheckpoint c stage output message sequence now).serviceState =
      .currentOnline := by
    rw [serviceState_failedCheckpoint, h.silent, Option.getD_none, h.online]
  have hcommitted : (Engine.failedCheckpoint c stage output message sequence now).releaseCommitted =
      false := by
    rw [releaseCommitted_failedCheckpoint, h.uncommitted.1, h.uncommitted.2, Bool.or_self]
  refine ⟨⟨_, decideRecovery_of_uncommitted hcommitted _, uncommittedDecision_none_iff.mpr
    ⟨?_, ?_, .inl honline⟩⟩, honline⟩
  · rw [dataMigrationStarted_failedCheckpoint, h.untouched.1, h.untouched.2, h.rewriting]
    rfl
  · rw [writesQuiesced_failedCheckpoint]
    split
    · rfl
    · rename_i hstage
      refine Bool.eq_false_iff.mpr fun houtput ↦ hstage ?_
      exact (h.quiet houtput).imp_right .inl

end Decision

/-! ## What the parts of a run conclude -/

section Parts

variable {operationID : String} {P : OperationResult → Prop} {w w' : World}

theorem Restored.alone (h : Restored operationID w) (ha : Alone operationID w w') :
    Restored operationID w' := by
  rwa [Restored, ha.events]

/-- A step that leaves the result as it is. -/
theorem grounded_of_result (h : (w'.dir operationID).result = (w.dir operationID).result) :
    Grounded operationID P w w' :=
  fun _ hr _ ↦ absurd (h ▸ hr.1) hr.2.1

theorem tolerates_grounded :
    Tolerates (View.plain World) (Alone operationID) (Grounded operationID P) (fun _ _ ↦ True) where
  rely _ _ _ := trivial
  look _ := ⟨grounded_of_result rfl, trivial⟩
  trans _ _ _ _ _ := trivial

theorem tolerates_alone :
    Tolerates (View.plain World) (Alone operationID) (Grounded operationID P) (Alone operationID) where
  rely _ _ h := h
  look _ := ⟨grounded_of_result rfl, ⟨rfl, rfl⟩⟩
  trans _ _ _ h h' := trans_of (Alone operationID) h h'

/-- The process concludes nothing without grounds, and `L` leads through it. -/
abbrev Concludes {α : Type} (operationID : String) (P : OperationResult → Prop)
    (L : World → World → Prop) (p : OpsProc α) : Prop :=
  p.Within (View.plain World) (Alone operationID) (Grounded operationID P) L

theorem concludes_writeCheckpoint (c : OperationCheckpoint) :
    Concludes operationID P (Alone operationID) (writeJournal (writeCheckpoint operationID c)) := by
  refine within_atomic tolerates_alone fun w ↦ ?_
  show Grounded operationID P w { w with journal := (writeCheckpoint operationID c w.journal).2 } ∧
    Alone operationID w { w with journal := (writeCheckpoint operationID c w.journal).2 }
  rcases wrote_writeCheckpoint w.journal operationID c with ⟨err, herr⟩ | ⟨-, hdir, -⟩
  · rw [herr]
    exact ⟨grounded_of_result rfl, ⟨rfl, rfl⟩⟩
  · exact ⟨grounded_of_result (congrArg (·.result) hdir), ⟨rfl, congrArg (·.events) hdir⟩⟩

theorem concludes_appendEvent (event : OperationEvent) :
    Concludes operationID P (fun _ _ ↦ True) (writeJournal (appendEvent event)) := by
  refine within_atomic tolerates_grounded fun w ↦ ⟨?_, trivial⟩
  show Grounded operationID P w { w with journal := (appendEvent event w.journal).2 }
  rcases wrote_appendEvent w.journal event with ⟨err, herr⟩ | ⟨-, hdir, hother⟩
  · rw [herr]
    exact grounded_of_result rfl
  · by_cases howner : operationID = event.operationID
    · rw [howner]
      exact grounded_of_result (congrArg (·.result) hdir)
    · exact grounded_of_result (congrArg (·.result) (hother operationID howner))

variable {input : RunInput} {request : OperationRequestFile} {c : OperationCheckpoint}

/-- The terminal result, on grounds. -/
theorem safe_writeTerminalResult {status : OperationStatus} {code : Option OperationErrorCode}
    {message : String}
    (h : ∀ w' now, Alone input.operationID w w' → status = .failed ∨ status = .cancelled →
      c.serviceState = .currentOnline → Restored input.operationID w' ∨
        P (terminalResult input c status code message now)) :
    (writeTerminalResult input c status code message).Safe (View.plain World)
      (Alone input.operationID) (Grounded input.operationID P) (fun _ _ ↦ True) w := by
  refine safe_bind ((within_clock tolerates_alone).safe fun r w₁ hl₁ ↦ ?_)
  cases r with
  | error err => exact fun _ _ ↦ trivial
  | ok now =>
    refine safe_atomic fun w₂ hl₂ ↦ ⟨?_, fun _ _ ↦ trivial⟩
    intro r hr _
    have hresult : r = terminalResult input c status code message now := by
      rcases wrote_writeResult w₂.journal input.operationID
        (terminalResult input c status code message now) with ⟨err, herr⟩ | ⟨-, hdir, -⟩
      · have hfile : ((writeResult input.operationID
            (terminalResult input c status code message now) w₂.journal).2.dir
              input.operationID).result = some r := hr.1
        rw [herr] at hfile
        exact absurd hfile hr.2.1
      · have hfile := (congrArg (·.result) hdir).symm.trans hr.1
        exact (Option.some.inj hfile).symm
    subst hresult
    exact h w₂ now (trans_of _ hl₁ hl₂) hr.2.2.1 hr.2.2.2

/-- A result that is no failure and no cancellation. -/
theorem concludes_writeTerminalResult {status : OperationStatus}
    (hstatus : status = .succeeded ∨ status = .recoveryRequired) (c : OperationCheckpoint)
    (code : Option OperationErrorCode) (message : String) :
    Concludes input.operationID P (fun _ _ ↦ True)
      (writeTerminalResult input c status code message) := by
  refine fun w ↦ safe_writeTerminalResult fun _ _ _ h ↦ ?_
  rcases hstatus with rfl | rfl <;> rcases h with h | h <;> cases h

theorem concludes_giveUp (c : OperationCheckpoint) (message : String) :
    Concludes input.operationID P (fun _ _ ↦ True) (Engine.giveUp input c message) :=
  Within.bind tolerates_grounded (fun _ ↦ (concludes_writeCheckpoint c).safe fun _ _ _ ↦ trivial)
    fun _ ↦ concludes_writeTerminalResult (.inr rfl) c _ message

/-- The event that ends a stage is the last on record. -/
theorem safe_appendRunEvent {sequence : ℕ} {kind : EventKind} {stage : OperationStage}
    {message : String} :
    (appendRunEvent input sequence kind stage message).Safe (View.plain World)
      (Alone input.operationID) (Grounded input.operationID P)
      (fun r w' ↦ ∀ n, r = .ok n → ∃ event,
        (w'.dir input.operationID).events.getLast? = some event ∧ event.kind = kind ∧
          event.stage = stage) w := by
  refine safe_bind ((within_clock tolerates_grounded).safe fun r w₁ _ ↦ ?_)
  cases r with
  | error err => exact fun _ _ _ h ↦ by cases h
  | ok now =>
    refine safe_bind (safe_atomic fun w₂ _ ↦ ⟨?_, fun w₃ hl₃ ↦ ?_⟩)
    · exact (concludes_appendEvent _ w₂ w₂ (refl_of _ w₂)).1
    · dsimp only
      let event : OperationEvent := ⟨input.operationID, input.generation, sequence + 1, kind, stage,
        "system", message, now⟩
      rcases wrote_appendEvent w₂.journal event with ⟨err, herr⟩ | ⟨hok, hdir, -⟩
      · rw [show (View.plain World).now w₂ = w₂ from rfl, herr]
        exact fun _ _ _ h ↦ by cases h
      · rw [show (View.plain World).now w₂ = w₂ from rfl, hok]
        refine fun w₄ hl₄ n _ ↦ ⟨event, ?_, rfl, rfl⟩
        rw [(trans_of _ hl₃ hl₄).events]
        exact (congrArg (·.events.getLast?) hdir).trans List.getLast?_concat

/-- A restoration that succeeds is the last thing on record. -/
theorem safe_executeStage_restored {purpose : Purpose} {stage : OperationStage} {sequence : ℕ} :
    (executeStage input request purpose stage sequence).Safe (View.plain World)
      (Alone input.operationID) (Grounded input.operationID P)
      (fun r w' ↦ ∀ outcome, r = .ok outcome → outcome.failure = none → IsRestoration stage →
        Restored input.operationID w') w := by
  refine safe_bind (safe_observe (safe_appendRunEvent.imp fun r w₁ _ ↦ ?_))
  cases r with
  | error err =>
    refine fun w₂ _ outcome houtcome hfailure ↦ ?_
    cases houtcome
    cases hfailure
  | ok intent =>
    refine safe_bind (safe_beginStage tolerates_grounded fun w₂ _ ↦
      ⟨grounded_of_result rfl, fun w₃ report _ ↦ ?_⟩)
    dsimp only
    split
    · refine safe_bind (safe_observe (safe_appendRunEvent.imp fun r w₄ _ ↦ ?_))
      cases r with
      | error err =>
        refine fun w₅ _ outcome houtcome hfailure ↦ ?_
        cases houtcome
        cases hfailure
      | ok n =>
        refine fun w₅ _ outcome houtcome hfailure ↦ ?_
        cases houtcome
        cases hfailure
    · refine safe_bind (safe_observe (safe_appendRunEvent.imp fun r w₄ hw₄ ↦ ?_))
      cases r with
      | error err =>
        refine fun w₅ _ outcome houtcome hfailure ↦ ?_
        cases houtcome
        cases hfailure
      | ok n =>
        intro w₅ hl₅ outcome _ _ hstage
        obtain ⟨event, hlast, hkind, hevent⟩ := hw₄ n rfl
        exact Restored.alone ⟨event, hlast, hkind, hevent ▸ hstage⟩ hl₅

/-- The end of a restoration: its checkpoint and a result. -/
theorem safe_conclude {status : OperationStatus} {code : Option OperationErrorCode}
    {message : String} (h : status = .failed ∨ status = .cancelled → Restored input.operationID w) :
    (writeJournal (writeCheckpoint input.operationID c) >>= fun _ ↦
      writeTerminalResult input c status code message).Safe (View.plain World)
        (Alone input.operationID) (Grounded input.operationID P) (fun _ _ ↦ True) w := by
  refine safe_bind ((concludes_writeCheckpoint c).safe fun r w₁ hl₁ ↦ ?_)
  cases r with
  | error err => exact fun _ _ ↦ trivial
  | ok _ =>
    exact safe_writeTerminalResult fun w₂ now hl₂ hstatus _ ↦
      .inl ((h hstatus).alone (trans_of _ hl₁ hl₂))

/-- What the result of a failed stage says. -/
def ReportsFailure (input : RunInput) (c : OperationCheckpoint) (stage : OperationStage)
    (output : StageOutput) (r : OperationResult) : Prop :=
  ∃ code message text sequence now now', r = terminalResult input
    { Engine.failedCheckpoint c stage output message sequence now with nextSafeAction := some .none }
    .failed code text now'

/-- **A failed stage** is concluded after a restoration, on its own word, or silently. -/
theorem concludes_handleStageFailure (stage : OperationStage) (output : StageOutput)
    (err : OpsError) (n : ℕ)
    (hP : ∀ r, ReportsFailure input c stage output r →
      output.serviceState = some .currentOnline ∨ FailsSilently c stage output → P r) :
    Concludes input.operationID P (fun _ _ ↦ True)
      (Engine.handleStageFailure input request c stage output err n) := by
  refine fun w ↦ safe_bind ((within_clock tolerates_grounded).safe fun r w₁ _ ↦ ?_)
  cases r with
  | error err => exact fun _ _ ↦ trivial
  | ok now =>
    dsimp only
    refine safe_bind (safe_ofExcept fun w₂ _ ↦ ?_)
    cases hdecision : decideRecovery (Engine.failedCheckpoint c stage output err.message n now)
        (observedFrom (Engine.failedCheckpoint c stage output err.message n now) output) with
    | error err => exact fun _ _ ↦ trivial
    | ok decision =>
      have hsilent := failsSilently_of_none hdecision
      have hreports : ∀ code text now', ReportsFailure input c stage output (terminalResult input
          { Engine.failedCheckpoint c stage output err.message n now with
            nextSafeAction := some .none } .failed code text now') :=
        fun code text now' ↦ ⟨code, err.message, text, n, now, now', rfl⟩
      generalize Engine.failedCheckpoint c stage output err.message n now = failed at *
      refine safe_bind ((concludes_writeCheckpoint _).safe fun r w₃ _ ↦ ?_)
      cases r with
      | error err => exact fun _ _ ↦ trivial
      | ok _ =>
        dsimp only
        split
        · rename_i hnone
          refine safe_writeTerminalResult fun w' now' _ _ honline ↦ .inr ?_
          rw [hnone]
          exact hP _ (hreports _ _ _) (hsilent hnone honline)
        · exact concludes_writeTerminalResult (.inr rfl) _ _ _ _
        · exact concludes_writeTerminalResult (.inr rfl) _ _ _ _
        · exact fun _ _ ↦ trivial
        · rename_i recovery hrecovery hnone hoperator hhandoff
          have hrestoring : IsRestoration recovery := by
            rcases decideRecovery_stage hdecision with (h | h | h) | ⟨-, h⟩ | ⟨-, h⟩
            · exact absurd h hnone
            · exact absurd h hoperator
            · exact absurd h hhandoff
            · exact .inr (Option.some.inj (hrecovery.symm.trans h))
            · exact .inl (Option.some.inj (hrecovery.symm.trans h))
          refine safe_bind (safe_executeStage_restored.imp fun r w₄ hw₄ ↦ ?_)
          cases r with
          | error err => exact fun _ _ ↦ trivial
          | ok outcome =>
            refine safe_bind ((within_clock tolerates_alone).safe fun r w₅ hl₅ ↦ ?_)
            cases r with
            | error err => exact fun _ _ ↦ trivial
            | ok now' =>
              dsimp only
              split
              · exact concludes_giveUp _ _ w₅
              · rename_i hfailure
                exact safe_conclude fun _ ↦ (hw₄ outcome rfl hfailure hrestoring).alone hl₅

/-- **A cancellation** is concluded after a restoration, or silently. -/
theorem concludes_handleCancellation (n : ℕ)
    (hP : ∀ r, r.status = .cancelled → CancelsSilently c → P r) :
    Concludes input.operationID P (fun _ _ ↦ True)
      (Engine.handleCancellation input request c n) := by
  refine (within_readJournal tolerates_grounded _).observe.bind tolerates_grounded fun r ↦ ?_
  cases r with
  | error err =>
    dsimp only
    split
    · exact within_pure tolerates_grounded _
    · exact within_fail tolerates_grounded err
  | ok command =>
    refine (within_clock tolerates_grounded).bind tolerates_grounded fun now ↦ ?_
    dsimp only
    split
    · rename_i honline
      rw [Bool.not_eq_true'] at honline
      exact Within.bind tolerates_grounded (fun w ↦ safe_writeTerminalResult fun _ _ _ _ _ ↦
        .inr (hP _ rfl honline)) fun _ ↦ within_pure tolerates_grounded _
    · split
      · exact within_pure tolerates_grounded _
      · refine fun w ↦ safe_bind (safe_executeStage_restored.imp fun r w₁ hw₁ ↦ ?_)
        cases r with
        | error err => exact fun _ _ ↦ trivial
        | ok outcome =>
          refine safe_bind ((within_clock tolerates_alone).safe fun r w₂ hl₂ ↦ ?_)
          cases r with
          | error err => exact fun _ _ ↦ trivial
          | ok now' =>
            dsimp only
            split
            · exact ((concludes_giveUp _ _).bind tolerates_grounded fun _ ↦
                within_pure tolerates_grounded _) w₂
            · rename_i hfailure
              have hrestored := (hw₁ outcome rfl hfailure (by split <;> simp [IsRestoration])).alone hl₂
              refine safe_bind ((concludes_writeCheckpoint _).safe fun r w₃ hl₃ ↦ ?_)
              cases r with
              | error err => exact fun _ _ ↦ trivial
              | ok _ =>
                refine safe_bind ((safe_writeTerminalResult fun w₄ _ hl₄ _ _ ↦
                  .inl ((hrestored.alone hl₃).alone hl₄)).imp fun r w₄ _ ↦ ?_)
                cases r with
                | error err => exact fun _ _ ↦ trivial
                | ok _ => exact fun _ _ ↦ trivial

theorem isRestoration_of_recoveryExecution {action : Option RecoveryAction} {cancelRequested : Bool}
    {stage : OperationStage} {status : OperationStatus}
    (h : recoveryExecution action cancelRequested = .ok (stage, status))
    (hstatus : status = .failed ∨ status = .cancelled) : IsRestoration stage := by
  cases action with
  | none => cases h
  | some action =>
    cases action with
    | restoreCurrent => cases h; exact .inl rfl
    | restoreBackup => cases h; exact .inr rfl
    | commitTarget => cases h; rcases hstatus with hstatus | hstatus <;> cases hstatus
    | continueControllerHandoff => cases h; rcases hstatus with hstatus | hstatus <;> cases hstatus
    | none => cases h
    | requireOperator => cases h
    | retryPreflight => cases h

/-- **A recovery** is concluded after a restoration. -/
theorem concludes_runPersistedRecovery (e : Engine) (n : ℕ) :
    Concludes input.operationID P (fun _ _ ↦ True) (e.runPersistedRecovery input request c n) := by
  refine fun w ↦ safe_bind ((within_validateOwnership tolerates_grounded e input).safe
    fun r w₁ _ ↦ ?_)
  cases r with
  | error err => exact fun _ _ ↦ trivial
  | ok _ =>
    refine safe_bind (safe_ofExcept fun w₂ _ ↦ ?_)
    cases hexecution : recoveryExecution c.nextSafeAction c.cancelRequested with
    | error err => exact fun _ _ ↦ trivial
    | ok execution =>
      refine safe_bind (safe_executeStage_restored.imp fun r w₃ hw₃ ↦ ?_)
      cases r with
      | error err => exact fun _ _ ↦ trivial
      | ok outcome =>
        refine safe_bind ((within_clock tolerates_alone).safe fun r w₄ hl₄ ↦ ?_)
        cases r with
        | error err => exact fun _ _ ↦ trivial
        | ok now =>
          dsimp only
          split
          · exact concludes_giveUp _ _ w₄
          · rename_i hfailure
            exact safe_conclude fun hstatus ↦ (hw₃ outcome rfl hfailure
              (isRestoration_of_recoveryExecution hexecution hstatus)).alone hl₄

theorem runParts_grounded (e : Engine)
    (hfailure : ∀ c stage output r, ReportsFailure input c stage output r →
      output.serviceState = some .currentOnline ∨ FailsSilently c stage output → P r)
    (hcancellation : ∀ c r, r.status = .cancelled → CancelsSilently c → P r) :
    RunParts e input (View.plain World) (Alone input.operationID) (Grounded input.operationID P)
      (fun _ ↦ True) where
  tolerates := tolerates_grounded
  checkpoint c := fun _ ↦ (concludes_writeCheckpoint c).safe fun _ _ _ ↦ trivial
  result c _ code message h := concludes_writeTerminalResult h c code message
  ownership _ := (within_validateOwnership tolerates_grounded e input).safe fun _ _ _ _ ↦ trivial
  cancellation _ c n _ _ := (concludes_handleCancellation n (hcancellation c)).safe
    fun _ _ _ _ _ ↦ trivial
  stage _ _ _ _ _ := safe_executeStage_restored.imp fun _ _ _ ↦ trivial
  failure _ c stage output err n := concludes_handleStageFailure stage output err n
    (hfailure c stage output)
  recovery _ _ n := concludes_runPersistedRecovery e n

end Parts

/-- The services are to be stopped, and the script fails without a report. -/
def quiescingFails : List (System.Action Answer RunInput Unit RunnerMove) :=
  sampleStart ++ System.steps () 12 ++
    [.run () (some (.stage ⟨{ serviceState := some .currentOnline }, none⟩))] ++
    System.steps () 9 ++ [.run () (some (.stage ⟨{}, some (errOther "quiescing failed")⟩))] ++
    System.steps () 5

theorem result_quiescingFails :
    ((sampleSystem.play (View.plain World) (System.idle sampleWorld) quiescingFails).any fun c ↦
      (sampleSystem.perform (View.plain World) c (.run () none)).any fun d ↦
        ((c.state.dir "op-1").result == none) &&
        (c.state.executed.getLast? == some ⟨"op-1", 1, .plan, .quiescing⟩) &&
        (c.state.dir "op-1").events.all (·.stage != .restoringCurrent) &&
        (c.state.dir "op-1").events.all (·.stage != .restoringBackup) &&
        (d.state.dir "op-1").result.any fun r ↦
          r.status == .failed && r.serviceState == .currentOnline) = true := by
  decide

end HMaigc.Ops
