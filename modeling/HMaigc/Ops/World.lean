import HMaigc.Ops.Store
import HMaigc.Proc.System

/-!
# What controller and runner share

The state directory, the controller's store, the runner containers and the clock, together with what
production has been through so far: the stages that were begun on it.
-/

set_option autoImplicit false

namespace HMaigc.Ops

open Go Concurrent

/-- A runner container. -/
structure RunnerInstance where
  containerID : String
  operationID : String
  generation : ℕ
  digest : String
  running : Bool
  deriving DecidableEq, Repr

/-- Why a runner executes a stage: because the plan has come to it, to honour a cancellation, to
clean up after a failed stage, or as the recovery a new generation was launched for. -/
inductive Purpose where
  | plan
  | cancellation
  | cleanup
  | recovery
  deriving DecidableEq, Repr

/-- A stage that was begun on production. -/
structure StageRun where
  operationID : String
  generation : ℕ
  purpose : Purpose
  stage : OperationStage
  deriving DecidableEq, Repr

structure World where
  journal : Journal
  store : Store := ∅
  runners : List RunnerInstance := []
  /-- The stages begun so far, oldest first. -/
  executed : List StageRun := []
  now : Time := 0

/-- What a stage reports when it succeeds, or also when it fails. -/
structure StageOutput where
  serviceState : Option ServiceState := none
  currentVersion : String := ""
  resultVersion : String := ""
  backupPath : String := ""
  backupChecksumStatus : String := ""
  backendImage : String := ""
  webImage : String := ""
  backupHelperImage : String := ""
  controllerImage : String := ""
  controllerVersion : String := ""
  controllerHandoff : Option ControllerHandoff := none
  writesQuiesced : Bool := false
  verifiedRecoveryPoint : Bool := false
  dataMigrationStarted : Bool := false
  targetBackendHealthy : Bool := false
  targetWebHealthy : Bool := false
  releaseCommitted : Bool := false
  warnings : List OperationWarning := []
  deriving DecidableEq, Repr

/-- What executing a stage comes to: its output, and an error if it failed. -/
structure StageReport where
  output : StageOutput
  failure : Option OpsError := none
  deriving DecidableEq, Repr

instance : Inhabited StageReport := ⟨{ output := {} }⟩

/-- The answers a process asks for: what a stage came to, or what starting a container did. -/
inductive Answer where
  | stage (report : StageReport)
  | start (failure : Option OpsError)
  | resolve (runner : Except OpsError ResolvedRunner)
  | token (value : String)
  deriving Repr

instance : Inhabited Answer := ⟨.stage default⟩

/-- A process of the operations subsystem. -/
abbrev OpsProc (α : Type) : Type := Proc World OpsError Answer α

/-- A write of the journal, as a step of a process. -/
def writeJournal (write : Journal → Written) : OpsProc Unit :=
  .atomic fun w ↦ ((write w.journal).1, { w with journal := (write w.journal).2 })

/-- A reading of the journal. -/
def readJournal {α : Type} (read : World → Except OpsError α) : OpsProc α := do
  let w ← Proc.look
  .ofExcept (read w)

/-- A statement of the store. -/
def execStore {α : Type} (statement : Store → Stored α) : OpsProc α :=
  .atomic fun w ↦ ((statement w.store).1, { w with store := (statement w.store).2 })

/-- The clock. -/
def clock : OpsProc Time := do
  let w ← Proc.look
  return w.now

end HMaigc.Ops
