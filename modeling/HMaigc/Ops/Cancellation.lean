import HMaigc.Ops.Files
import HMaigc.Ops.Run

/-!
# What a cancellation restores

Two paths of the engine decide on a restoration: `handleStageFailure` asks `decideRecovery`, and
`handleCancellation` decides by itself.

* `cancellationAction` — what a cancellation comes to; `keepsTo_handleCancellation` — it does.
* `CancelsAsDecided` — when `decideRecovery` would have chosen the same.
* `exists_cancellation_undecided` — a run in which the current release is restored over data whose
  migration has started, with no verified backup.
-/

set_option autoImplicit false

namespace HMaigc.Ops

open Go Concurrent Concurrent.Proc

/-! ## Cancellation and decision -/

/-- What is done to honour a cancellation at a checkpoint, if it is honoured there. -/
def cancellationAction (c : OperationCheckpoint) : Option RecoveryAction :=
  if c.serviceState = .currentOnline ∧ !c.writesQuiesced then some .none
  else if c.releaseCommitted then none
  else if c.dataMigrationStarted && c.verifiedRecoveryPoint then some .restoreBackup
  else some .restoreCurrent

/-- The stage a restoration is carried out by. -/
def restorationStage : RecoveryAction → Option OperationStage
  | .restoreCurrent => some .restoringCurrent
  | .restoreBackup => some .restoringBackup
  | _ => none

/-- What `decideRecovery` asks and a cancellation does not: once the data may have been rewritten,
the service is not taken to be online and a verified backup is there; before, the service is one
whose state can be proven. -/
structure CancelsAsDecided (c : OperationCheckpoint) : Prop where
  uncommitted : c.releaseCommitted = false
  rewriting : c.dataMigrationStarted = true →
    (c.serviceState ≠ .currentOnline ∨ c.writesQuiesced = true) ∧
      c.backupVerified c.backupPath = true
  untouched : c.dataMigrationStarted = false →
    c.writesQuiesced = true ∨ c.serviceState = .currentOnline ∨ c.serviceState = .maintenance

theorem verifiedRecoveryPoint_of_backupVerified {c : OperationCheckpoint} {path : String}
    (h : c.backupVerified path = true) : c.verifiedRecoveryPoint = true := by
  rw [OperationCheckpoint.backupVerified, Bool.and_eq_true, Bool.and_eq_true, Bool.and_eq_true] at h
  exact h.1.1.1

theorem cancellationAction_decided_iff {c : OperationCheckpoint} {action : RecoveryAction}
    (h : cancellationAction c = some action) :
    (∃ decision, decideRecovery c (observedFrom c {}) = .ok decision ∧
      decision.action = action) ↔ CancelsAsDecided c := by
  rw [cancellationAction] at h
  rcases Bool.eq_false_or_eq_true c.releaseCommitted with hcommitted | hcommitted
  · refine iff_of_false ?_ fun hc ↦ by simp [hc.uncommitted] at hcommitted
    rintro ⟨decision, hdecision, haction⟩
    rcases decideRecovery_of_committed hcommitted hdecision with hwhat | hwhat <;>
      rw [hwhat] at haction <;> subst haction <;> simp [hcommitted] at h
  · have hiff : (∃ decision, decideRecovery c (observedFrom c {}) = .ok decision ∧
        decision.action = action) ↔ (uncommittedDecision c).action = action := by
      rw [decideRecovery_of_uncommitted hcommitted]
      exact ⟨fun ⟨_, hdecision, haction⟩ ↦ Except.ok.inj hdecision ▸ haction, fun h ↦ ⟨_, rfl, h⟩⟩
    rw [hiff, uncommittedDecision]
    rcases Bool.eq_false_or_eq_true c.dataMigrationStarted with hmigrated | hmigrated
    · -- the data may have been rewritten: all turns on the backup
      have hdecided : CancelsAsDecided c ↔
          (c.serviceState ≠ .currentOnline ∨ c.writesQuiesced = true) ∧
            c.backupVerified c.backupPath = true :=
        ⟨fun h ↦ h.rewriting hmigrated, fun h ↦ ⟨hcommitted, fun _ ↦ h, by simp [hmigrated]⟩⟩
      rw [hdecided, if_pos hmigrated]
      split
      · rename_i hbackup
        have hpoint := verifiedRecoveryPoint_of_backupVerified hbackup
        simp only [hcommitted, hmigrated, hpoint, Bool.and_self, Bool.false_eq_true, if_false,
          if_true] at h
        split_ifs at h with honline
        · cases h
          have hquiet : c.writesQuiesced = false := by simpa using honline.2
          simp [honline.1, hquiet]
        · cases h
          refine iff_of_true rfl ⟨?_, hbackup⟩
          by_contra hno
          exact honline (by simpa using hno)
      · simp only [hcommitted, Bool.false_eq_true, if_false] at h
        split_ifs at h <;> cases h <;> simp [requireOperator, *]
    · have hdecided : CancelsAsDecided c ↔ c.writesQuiesced = true ∨
          c.serviceState = .currentOnline ∨ c.serviceState = .maintenance :=
        ⟨fun h ↦ h.untouched hmigrated, fun h ↦ ⟨hcommitted, by simp [hmigrated], fun _ ↦ h⟩⟩
      rw [hdecided, hmigrated, if_neg Bool.false_ne_true]
      simp only [hcommitted, hmigrated, Bool.false_and, Bool.false_eq_true, if_false] at h
      split_ifs at h ⊢ <;> cases h <;> simp only [requireOperator] <;> grind

/-! ## What a cancellation begins -/

/-- Others may do what they like. -/
abbrev Anything (_ _ : World) : Prop := True

/-- A stage that is begun restores what the action says, to honour a cancellation. -/
def BeginsOnly (action : Option RecoveryAction) (w w' : World) : Prop :=
  ∀ run, w'.executed = w.executed ++ [run] →
    run.purpose = .cancellation ∧ action.bind restorationStage = some run.stage

instance : Std.Refl Anything := ⟨fun _ ↦ trivial⟩

instance : IsTrans World Anything := ⟨fun _ _ _ _ _ ↦ trivial⟩

theorem beginsOnly_of_executed {action : Option RecoveryAction} {w w' : World}
    (h : w'.executed = w.executed) : BeginsOnly action w w' := fun run hrun ↦ by
  have hlength := congrArg List.length (h.symm.trans hrun)
  simp at hlength

/-- A process that keeps to the stage of an action. -/
abbrev KeepsTo {α : Type} (action : Option RecoveryAction) (p : OpsProc α) : Prop :=
  p.Within (View.plain World) Anything (BeginsOnly action) (fun _ _ ↦ True)

section KeepsTo

variable {action : Option RecoveryAction}

theorem tolerates_beginsOnly :
    Tolerates (View.plain World) Anything (BeginsOnly action) (fun _ _ ↦ True) where
  rely _ _ _ := trivial
  look _ := ⟨beginsOnly_of_executed rfl, trivial⟩
  trans _ _ _ _ _ := trivial

theorem keepsTo_writeJournal (write : Journal → Written) : KeepsTo action (writeJournal write) :=
  within_atomic tolerates_beginsOnly fun _ ↦ ⟨beginsOnly_of_executed rfl, trivial⟩

theorem keepsTo_writeTerminalResult (input : RunInput) (c : OperationCheckpoint)
    (status : OperationStatus) (code : Option OperationErrorCode) (message : String) :
    KeepsTo action (writeTerminalResult input c status code message) :=
  (within_clock tolerates_beginsOnly).bind tolerates_beginsOnly fun _ ↦ keepsTo_writeJournal _

/-- **A cancellation begins the stage of its action**, and no other. -/
theorem keepsTo_handleCancellation (input : RunInput) (request : OperationRequestFile)
    (c : OperationCheckpoint) (n : ℕ) :
    KeepsTo (cancellationAction c) (Engine.handleCancellation input request c n) := by
  refine (within_readJournal tolerates_beginsOnly _).observe.bind tolerates_beginsOnly fun r ↦ ?_
  cases r with
  | error err =>
    dsimp only
    split
    · exact within_pure tolerates_beginsOnly _
    · exact within_fail tolerates_beginsOnly err
  | ok command =>
    refine (within_clock tolerates_beginsOnly).bind tolerates_beginsOnly fun now ↦ ?_
    dsimp only
    split
    · exact (keepsTo_writeTerminalResult _ _ _ _ _).bind tolerates_beginsOnly fun _ ↦
        within_pure tolerates_beginsOnly _
    · rename_i honline
      split
      · exact within_pure tolerates_beginsOnly _
      · rename_i hcommitted
        have hstage : (cancellationAction c).bind restorationStage =
            some (if c.dataMigrationStarted && c.verifiedRecoveryPoint then
              OperationStage.restoringBackup else .restoringCurrent) := by
          rw [cancellationAction, if_neg honline, if_neg hcommitted]
          split <;> rfl
        refine Within.bind tolerates_beginsOnly (fun w ↦ safe_executeStage tolerates_beginsOnly
          (fun _ ↦ keepsTo_writeJournal _) fun w' _ run hrun ↦ ?_) fun outcome ↦
            (within_clock tolerates_beginsOnly).bind tolerates_beginsOnly fun now' ↦ ?_
        · have hrun := List.singleton_inj.mp (List.append_cancel_left hrun)
          subst hrun
          exact ⟨rfl, hstage⟩
        · split
          · exact ((keepsTo_writeJournal _).bind tolerates_beginsOnly fun _ ↦
              keepsTo_writeTerminalResult _ _ _ _ _).bind tolerates_beginsOnly fun _ ↦
                within_pure tolerates_beginsOnly _
          · exact (keepsTo_writeJournal _).bind tolerates_beginsOnly fun _ ↦
              (keepsTo_writeTerminalResult _ _ _ _ _).bind tolerates_beginsOnly fun _ ↦
                within_pure tolerates_beginsOnly _

end KeepsTo

/-- **Cancellation and decision.**  What a cancellation begins is the restoration of its action, and
that is what `decideRecovery` chooses for the checkpoint exactly if `CancelsAsDecided`. -/
theorem cancellation_as_decided_iff (input : RunInput) (request : OperationRequestFile)
    (c : OperationCheckpoint) (n : ℕ) {action : RecoveryAction}
    (h : cancellationAction c = some action) :
    KeepsTo (some action) (Engine.handleCancellation input request c n) ∧
      ((∃ decision, decideRecovery c (observedFrom c {}) = .ok decision ∧
        decision.action = action) ↔ CancelsAsDecided c) :=
  ⟨h ▸ keepsTo_handleCancellation input request c n, cancellationAction_decided_iff h⟩

/-- The small operation in the middle of its maintenance window. -/
def quiescedCheckpoint : OperationCheckpoint where
  operationID := "op-1"
  action := .upgrade
  runnerDigest := sampleDigest
  generation := 1
  fencingTokenHash := "token"
  stage := .quiescing
  expectedVersion := "v1.2.3"
  serviceState := .maintenance
  writesQuiesced := true

theorem cancellation_as_decided_iff_quiesced :
    KeepsTo (some .restoreCurrent)
        (Engine.handleCancellation (sampleLaunch.runInput sampleSecret) sampleRequest
          quiescedCheckpoint 4) ∧
      ∃ decision, decideRecovery quiescedCheckpoint (observedFrom quiescedCheckpoint {}) =
        .ok decision ∧ decision.action = .restoreCurrent := by
  have haction : cancellationAction quiescedCheckpoint = some .restoreCurrent := by decide
  obtain ⟨hkeeps, hiff⟩ := cancellation_as_decided_iff (sampleLaunch.runInput sampleSecret)
    sampleRequest quiescedCheckpoint 4 haction
  exact ⟨hkeeps, hiff.mpr ⟨rfl, by decide, fun _ ↦ .inl rfl⟩⟩

def sampleCancel : CancelOperationCommand where
  operationID := "op-1"
  requestHash := sampleRequest.requestHash
  actorUserID := "admin"
  requestedAt := 1
  nonce := "nonce"

/-- A stage is done and left the service in maintenance. -/
def maintained (output : StageOutput) : System.Action Answer RunInput Unit RunnerMove :=
  .run () (some (.stage ⟨{ output with serviceState := some .maintenance }, none⟩))

/-- The target is started, and has begun to rewrite the data, without a verified backup; then the
operation is cancelled. -/
def unbackedMigration : List (System.Action Answer RunInput Unit RunnerMove) :=
  sampleStart ++ System.steps () 12 ++
    [.run () (some (.stage ⟨{ serviceState := some .currentOnline }, none⟩))] ++
    System.steps () 9 ++ [maintained { writesQuiesced := true }] ++
    System.steps () 9 ++ [maintained { writesQuiesced := true }] ++
    System.steps () 9 ++ [maintained { writesQuiesced := true }] ++
    System.steps () 9 ++ [maintained { dataMigrationStarted := true }] ++
    [.move (.cancel sampleCancel)] ++ System.steps () 9

/-- Whether `decideRecovery` leaves a checkpoint to the operator. -/
def isLeftToOperator (c : OperationCheckpoint) : Bool :=
  match decideRecovery c (observedFrom c {}) with
  | .ok decision => decision.action == .requireOperator
  | .error _ => false

theorem executed_unbackedMigration :
    ((sampleSystem.play (View.plain World) (System.idle sampleWorld) unbackedMigration).any fun c ↦
      (sampleSystem.perform (View.plain World) c (.run () none)).any fun d ↦
        (d.state.executed ==
          c.state.executed ++ [⟨"op-1", 1, .cancellation, .restoringCurrent⟩]) &&
        (c.state.dir "op-1").checkpoint.any fun checkpoint ↦
          checkpoint.dataMigrationStarted && !checkpoint.verifiedRecoveryPoint &&
            isLeftToOperator checkpoint) = true := by
  decide

/-- **A cancellation restores the current release over data whose migration has started**, without a
verified backup, at a checkpoint that `decideRecovery` leaves to the operator. -/
theorem exists_cancellation_undecided :
    ∃ (c d : Config World World OpsError Answer Unit) (checkpoint : OperationCheckpoint)
      (decision : RecoveryDecision),
      sampleSystem.Reach (View.plain World) (System.idle sampleWorld) c ∧
      sampleSystem.Step (View.plain World) c d ∧
      d.state.executed = c.state.executed ++ [⟨"op-1", 1, .cancellation, .restoringCurrent⟩] ∧
      (c.state.dir "op-1").checkpoint = some checkpoint ∧
      checkpoint.dataMigrationStarted = true ∧ checkpoint.verifiedRecoveryPoint = false ∧
      decideRecovery checkpoint (observedFrom checkpoint {}) = .ok decision ∧
      decision.action = .requireOperator := by
  obtain ⟨c, hplay, hany⟩ := (Option.any_eq_true _ _).mp executed_unbackedMigration
  obtain ⟨d, hperform, hfacts⟩ := (Option.any_eq_true _ _).mp hany
  rw [Bool.and_eq_true, beq_iff_eq] at hfacts
  obtain ⟨hexecuted, hcheckpoint⟩ := hfacts
  obtain ⟨checkpoint, hfile, hfacts⟩ := (Option.any_eq_true _ _).mp hcheckpoint
  simp only [Bool.and_eq_true, Bool.not_eq_true'] at hfacts
  obtain ⟨⟨hmigrated, hpoint⟩, hoperator⟩ := hfacts
  rw [isLeftToOperator] at hoperator
  cases hdecision : decideRecovery checkpoint (observedFrom checkpoint {}) with
  | error err =>
    rw [hdecision] at hoperator
    cases hoperator
  | ok decision =>
    rw [hdecision] at hoperator
    exact ⟨c, d, checkpoint, decision, System.reach_of_play hplay, ⟨_, hperform⟩, hexecuted, hfile,
      hmigrated, hpoint, hdecision, beq_iff_eq.mp hoperator⟩

end HMaigc.Ops
