import HMaigc.Ops.Engine
import HMaigc.Ops.Monotonicity

/-!
# A runner and what goes on around it

The runs of one operation: a runner is started from the launch command on file, dies anywhere, and
is started again; meanwhile the controller files a cancellation, renews the lease, decides that the
runner is gone and demands recovery, or launches a new generation once recovery has been demanded.
The deployment lock lets one runner run at a time.

* `RunnerMove`, `runnerMove` — what happens around a runner.
* `runnerSystem` — the system.
* `Wrote` — what a write came to, in terms of the directory it is about.
-/

set_option autoImplicit false

namespace HMaigc.Ops

open Go Concurrent

/-! ## What a write came to -/

/-- The write was refused, or the directory is as `f` makes it and the others as they were. -/
def Wrote (j : Journal) (operationID : String) (f : OperationDir → OperationDir) (w : Written) :
    Prop :=
  (∃ err, w = (.error err, j)) ∨
    w.1 = .ok () ∧ w.2.dir operationID = f (j.dir operationID) ∧
      ∀ other, other ≠ operationID → w.2.dir other = j.dir other

section Launch

variable {j : Journal} {secret operationID : String}

theorem readLaunchCommand_eq_ok {command : RunnerLaunchCommand}
    (h : j.readLaunchCommandForReconciliation secret operationID = .ok command) :
    (j.dir operationID).launch = some ⟨secret, command⟩ ∧
      validateLaunchCommandFields command = .ok () := by
  rw [Journal.readLaunchCommandForReconciliation] at h
  cases hsigned : readSigned secret operationID (j.dir operationID).launch (·.operationID) with
  | error err => rw [hsigned] at h; cases h
  | ok payload =>
    rw [hsigned] at h
    cases hfields : validateLaunchCommandFields payload with
    | error err => simp [bind, Except.bind, hfields] at h
    | ok u =>
      simp only [bind, Except.bind, hfields, pure, Except.pure, Except.ok.injEq] at h
      subst h
      exact ⟨file_of_readSigned hsigned, hfields⟩

theorem validateLaunchCommandFields_kind {command : RunnerLaunchCommand} {err : OpsError}
    (h : validateLaunchCommandFields command = .error err) : err.kind ≠ .notExist := by
  rw [validateLaunchCommandFields] at h
  split_ifs at h <;> cases h <;> simp [errInvalidOperationID, errOther]

theorem launch_of_notExist {err : OpsError}
    (h : j.readLaunchCommandForReconciliation secret operationID = .error err)
    (hkind : err.kind = .notExist) : (j.dir operationID).launch = none := by
  rw [Journal.readLaunchCommandForReconciliation] at h
  cases hsigned : readSigned secret operationID (j.dir operationID).launch (·.operationID) with
  | error err' =>
    rw [hsigned] at h
    cases h
    exact file_of_readSigned_notExist hsigned hkind
  | ok payload =>
    rw [hsigned] at h
    cases hfields : validateLaunchCommandFields payload with
    | error err' =>
      simp only [bind, Except.bind, hfields, Except.error.injEq] at h
      rw [← h] at hkind
      exact absurd hkind (validateLaunchCommandFields_kind hfields)
    | ok u => simp [bind, Except.bind, hfields, pure, Except.pure] at h

end Launch

section Wrote

variable {j : Journal} {operationID : String} {f : OperationDir → OperationDir}

theorem wrote_reject (err : OpsError) : Wrote j operationID f (j.reject err) := .inl ⟨err, rfl⟩

theorem wrote_keep (h : f (j.dir operationID) = j.dir operationID) :
    Wrote j operationID f j.keep :=
  .inr ⟨rfl, h.symm, fun _ _ ↦ rfl⟩

theorem wrote_publish : Wrote j operationID f (j.publish operationID f) := by
  rw [Journal.publish]
  split
  · exact .inr ⟨rfl, j.dir_modify operationID f, fun _ h ↦ j.dir_modify_of_ne h f⟩
  · exact wrote_reject _

theorem wrote_createImmutable {α : Type} [DecidableEq α] {existing : Option α} {fact : α}
    (h : existing = some fact → f (j.dir operationID) = j.dir operationID) :
    Wrote j operationID f (j.createImmutable operationID existing fact f) := by
  cases existing with
  | none => exact wrote_publish
  | some old =>
    rw [Journal.createImmutable]
    split
    · rename_i heq
      exact wrote_keep (h (by rw [heq]))
    · exact wrote_reject _

variable (j operationID)

theorem wrote_writeLease (lease : RunnerLease) :
    Wrote j operationID (fun dir ↦ { dir with lease := some lease })
      (writeLease operationID lease j) := by
  rw [writeLease]
  split
  · exact wrote_reject _
  · split
    · split
      · exact wrote_reject _
      · split
        · exact wrote_reject _
        · exact wrote_publish
    · split
      · exact wrote_publish
      · exact wrote_reject _

theorem wrote_writeHeartbeat (heartbeat : RunnerHeartbeat) :
    Wrote j operationID (fun dir ↦ { dir with heartbeat := some heartbeat })
      (writeHeartbeat operationID heartbeat j) := by
  rw [writeHeartbeat]
  split
  · exact wrote_reject _
  · exact wrote_publish

theorem wrote_writeCheckpoint (checkpoint : OperationCheckpoint) :
    Wrote j operationID (fun dir ↦ { dir with checkpoint := some checkpoint })
      (writeCheckpoint operationID checkpoint j) := by
  rw [writeCheckpoint]
  split
  · exact wrote_reject _
  · split
    · rename_i existing hread
      have hfile := file_of_readFact hread
      split
      · exact wrote_reject _
      · split
        · exact wrote_reject _
        · split
          · split
            · rename_i heq
              refine wrote_keep ?_
              rw [← heq, ← hfile]
            · exact wrote_reject _
          · exact wrote_publish
    · split
      · exact wrote_publish
      · exact wrote_reject _

theorem wrote_writeResult (result : OperationResult) :
    Wrote j operationID (fun dir ↦ { dir with result := some result })
      (writeResult operationID result j) := by
  rw [writeResult]
  split
  · exact wrote_reject _
  · split
    · exact wrote_reject _
    · split
      · split
        · exact wrote_publish
        · exact wrote_reject _
      · rename_i existing hread
        have hfile := file_of_readFact hread
        split
        · exact wrote_reject _
        · split
          · split
            · rename_i heq
              refine wrote_keep ?_
              rw [← heq, ← hfile]
            · exact wrote_reject _
          · split
            · exact wrote_reject _
            · exact wrote_publish

theorem wrote_appendEvent (event : OperationEvent) :
    Wrote j event.operationID (fun dir ↦ { dir with events := dir.events ++ [event] })
      (appendEvent event j) := by
  rw [appendEvent]
  split
  · exact wrote_reject _
  · split
    · exact wrote_reject _
    · exact wrote_publish

theorem wrote_writeLaunchCommand (secret : String) (now : Time) (command : RunnerLaunchCommand) :
    Wrote j command.operationID (fun dir ↦ { dir with launch := some ⟨secret, command⟩ })
      (writeLaunchCommand secret now command j) := by
  rw [writeLaunchCommand]
  split
  · exact wrote_reject _
  · split
    · exact wrote_reject _
    · exact wrote_reject _
    · split
      · rename_i existing hread
        split
        · rename_i heq
          refine wrote_keep ?_
          have hlaunch := (readLaunchCommand_eq_ok hread).1
          rw [heq] at hlaunch
          rw [← hlaunch]
        · split
          · exact wrote_reject _
          · exact wrote_publish
      · split
        · exact wrote_publish
        · exact wrote_reject _

theorem wrote_writeCancelCommand (secret : String) (now : Time)
    (command : CancelOperationCommand) :
    Wrote j command.operationID (fun dir ↦ { dir with cancel := some ⟨secret, command⟩ })
      (writeCancelCommand secret now command j) := by
  rw [writeCancelCommand]
  split
  · exact wrote_reject _
  · split
    · exact wrote_reject _
    · exact wrote_createImmutable fun h ↦ by rw [← h]

end Wrote

/-! ## The system -/

/-- What happens around a runner. -/
inductive RunnerMove where
  /-- The controller launches the first generation, or a new one after recovery was demanded. -/
  | launch (command : RunnerLaunchCommand)
  | cancel (command : CancelOperationCommand)
  /-- The runner's main program takes and renews the lease, and writes heartbeats. -/
  | lease (lease : RunnerLease)
  | heartbeat (heartbeat : RunnerHeartbeat)
  /-- The controller finds the runner gone: it records a destructive stage of unknown outcome, … -/
  | condemn (message : String)
  /-- … and demands recovery. -/
  | demandRecovery (result : OperationResult)
  /-- The clock never goes back. -/
  | tick (now : Time)

/-- The world after a write of the journal that was accepted. -/
def World.accept (w : World) (written : Written) : Option World :=
  match written with
  | (.ok (), j) => some { w with journal := j }
  | (.error _, _) => none

/-- Whether recovery was demanded. -/
def OperationDir.awaitsRecovery (dir : OperationDir) : Bool :=
  dir.result.any (·.status == .recoveryRequired)

/-- The checkpoint the controller files for a runner that is gone, if there is one to file. -/
def condemnedCheckpoint (operationID message : String) (w : World) :
    Except OpsError (Option OperationCheckpoint) := do
  let checkpoint ← w.journal.readCheckpoint operationID
  let events ← w.journal.readEvents operationID checkpoint.generation 0
  match events.getLast? with
  | none => return none
  | some event =>
    match ← applyUnknownStageIntent checkpoint event w.now with
    | (updated, true) => return some { updated with failureMessage := message }
    | (_, false) => return none

def runnerMove (secret operationID : String) (m : RunnerMove) (w : World) : Option World :=
  match m with
  | .launch command =>
    if command.operationID = operationID ∧ ((w.journal.dir operationID).launch = none ∨
        (w.journal.dir operationID).awaitsRecovery) then
      w.accept (writeLaunchCommand secret w.now command w.journal)
    else none
  | .cancel command =>
    if command.operationID = operationID then
      w.accept (writeCancelCommand secret w.now command w.journal)
    else none
  | .lease lease => w.accept (writeLease operationID lease w.journal)
  | .heartbeat heartbeat => w.accept (writeHeartbeat operationID heartbeat w.journal)
  | .condemn message =>
    match condemnedCheckpoint operationID message w with
    | .ok (some checkpoint) => w.accept (writeCheckpoint operationID checkpoint w.journal)
    | _ => none
  | .demandRecovery result =>
    if result.status = .recoveryRequired then
      w.accept (writeResult operationID result w.journal)
    else none
  | .tick now => if w.now ≤ now then some { w with now := now } else none

/-- The run a launch command asks for. -/
def RunnerLaunchCommand.runInput (secret : String) (command : RunnerLaunchCommand) : RunInput where
  operationID := command.operationID
  generation := command.generation
  fencingToken := command.fencingToken
  runnerDigest := command.runnerDigest
  recoveryAction := command.recoveryAction
  commandSecret := secret

/-- The runs of one operation. -/
def runnerSystem (e : Engine) (secret operationID : String) :
    System World OpsError Answer RunInput Unit RunnerMove where
  prog := e.run
  slot _ := ()
  admits input _ w := (w.journal.dir operationID).launch.any fun command ↦
    command.payload.operationID = operationID ∧ input = command.payload.runInput secret
  move := runnerMove secret operationID

theorem wrote_of_accept {w w' : World} {operationID : String} {f : OperationDir → OperationDir}
    {written : Written} (h : w.accept written = some w')
    (hwrote : Wrote w.journal operationID f written) :
    w'.journal.dir operationID = f (w.journal.dir operationID) ∧
      w' = { w with journal := w'.journal } := by
  rcases hwrote with ⟨err, rfl⟩ | ⟨hok, hdir, -⟩
  · cases h
  · obtain ⟨r, j⟩ := written
    cases hok
    cases h
    exact ⟨hdir, rfl⟩

/-! ## A small operation

An upgrade under the hash that changes nothing, to run the system on. -/

def sampleSecret : String := "0123456789abcdef0123456789abcdef"

def sampleDigest : String :=
  "registry/runner@sha256:0123456789abcdef0123456789abcdef0123456789abcdef0123456789abcdef"

def sampleRequest : OperationRequestFile where
  operationID := "op-1"
  request := { action := .upgrade, targetVersion := "v1.2.3", idempotencyKey := "key" }
  requestHash := "0123456789abcdef0123456789abcdef0123456789abcdef0123456789abcdef"
  expectedVersion := "v1.2.3"
  runnerSource := .target
  createdAt := 1

def sampleLaunch : RunnerLaunchCommand where
  operationID := "op-1"
  generation := 1
  fencingToken := "token"
  runnerDigest := sampleDigest
  issuedAt := 1

def sampleLease : RunnerLease where
  operationID := "op-1"
  generation := 1
  tokenHash := "token"
  runnerDigest := sampleDigest
  expiresAt := 100

def sampleWorld : World where
  journal := (⟨∅⟩ : Journal).modify "op-1" fun _ ↦ { request := some sampleRequest }
  now := 1

/-- The runs of the small operation. -/
abbrev sampleSystem : System World OpsError Answer RunInput Unit RunnerMove :=
  runnerSystem ⟨id⟩ sampleSecret "op-1"

/-- Its runner is launched, and starts. -/
def sampleStart : List (System.Action Answer RunInput Unit RunnerMove) :=
  [.move (.launch sampleLaunch), .move (.lease sampleLease),
    .start (sampleLaunch.runInput sampleSecret)]

end HMaigc.Ops
