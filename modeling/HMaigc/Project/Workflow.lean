import HMaigc.Go.Basic
import HMaigc.Proc.Machine
import Mathlib.Data.Int.Notation
import Mathlib.Data.List.Nodup
import Mathlib.Logic.Function.Basic

/-!
# The workflow of a project

`service/project_workflow.go`, `UpdateWorkflowProgress` and `RegisterWorkflowTaskOutput`: a workflow
instance has steps, one after another.  A call reads a step, the instance and, where it finishes the
step, the next one; later it writes what it made of them in one transaction.

* `Workflow.step` — the statements of any number of calls, in any order.
* `Kept` — statuses change as `canTransitionWorkflowStep` allows, the status of the instance fits
  those of its steps, and its revision counts the calls.
* `workflow_kept_iff` — **while every call fitted the rows it was written over, the next step keeps this
  exactly if it fits, too**.
* `not_kept_skipped` — skipping the last step completes an instance of which nothing is done.
-/

set_option autoImplicit false

namespace HMaigc.Projects

open Go

/-! ## Steps -/

inductive WorkflowStatus
  | active | completed | failed
  deriving DecidableEq

inductive WorkflowStepStatus
  | pending | ready | running | review | completed | failed | skipped
  deriving DecidableEq

namespace WorkflowStepStatus

/-- `validWorkflowStepStatus`. -/
def ofText : String → Option WorkflowStepStatus
  | "pending" => some pending
  | "ready" => some ready
  | "running" => some running
  | "review" => some review
  | "completed" => some completed
  | "failed" => some failed
  | "skipped" => some skipped
  | _ => none

def isFinished : WorkflowStepStatus → Bool
  | completed | skipped => true
  | _ => false

end WorkflowStepStatus

def canTransitionWorkflowStep (current next : WorkflowStepStatus) : Bool :=
  current = next || match current, next with
    | .pending, .ready | .pending, .skipped => true
    | .ready, .running | .ready, .skipped => true
    | .running, .review | .running, .completed | .running, .failed => true
    | .review, .running | .review, .completed | .review, .failed => true
    | .failed, .ready | .failed, .running => true
    | .completed, .running => true
    | .skipped, .ready => true
    | _, _ => false

/-- `model.WorkflowStepInstance` of one instance. -/
structure WorkflowStep where
  id : String
  position : ℤ
  status : WorkflowStepStatus
  outputJSON : String := "\x7b\x7d"
  error : String := ""
  startedAt : Option Time := none
  completedAt : Option Time := none

structure WorkflowInstance where
  status : WorkflowStatus
  revision : ℤ
  deriving DecidableEq

structure UpdateWorkflowStepRequest where
  status : String
  outputJSON : String := ""
  error : String := ""

/-- What `UpdateWorkflowStep` makes of the step it has read. -/
def UpdateWorkflowStepRequest.apply (request : UpdateWorkflowStepRequest) (step : WorkflowStep)
    (now : Time) : Except String WorkflowStep :=
  match WorkflowStepStatus.ofText (trimSpace request.status) with
  | none => .error "不支持的工作流步骤状态"
  | some status =>
    if !canTransitionWorkflowStep step.status status then .error "当前工作流步骤不能直接切换到目标状态"
    else .ok { step with
      status := status
      outputJSON := if isBlank request.outputJSON then "\x7b\x7d" else request.outputJSON
      error := trimSpace request.error
      startedAt := if status = .running ∧ step.startedAt = none then some now else step.startedAt
      completedAt := if status.isFinished then some now else none }

/-- What `RegisterTaskOutput` makes of it; `resultJSON` is the result of the task. -/
def registerTaskOutput (outputJSON resultJSON : String) (step : WorkflowStep) (now : Time) :
    Except String WorkflowStep :=
  if step.status = .failed then .error "失败步骤不能登记成功产物"
  else
    let output := if trimSpace outputJSON = "" then resultJSON else trimSpace outputJSON
    .ok { step with
      status := .completed
      outputJSON := if isBlank output then "\x7b\x7d" else output
      error := ""
      completedAt := some now }

/-! ## Any number of calls -/

/-- How far a call has come: the rows are as it is going to write them. -/
inductive WorkflowCall
  | stepRead (step : WorkflowStep)
  | instanceRead (step : WorkflowStep) (inst : WorkflowInstance)
  | ready (step : WorkflowStep) (next : Option WorkflowStep) (inst : WorkflowInstance)

/-- The rows of an instance, its steps in the order of their positions, and the calls. -/
structure Workflow where
  inst : WorkflowInstance
  steps : List WorkflowStep
  calls : ℕ → Option WorkflowCall

inductive WorkflowAction
  /-- `UpdateWorkflowStep` reads the step. -/
  | update (op : ℕ) (stepID : String) (request : UpdateWorkflowStepRequest) (now : Time)
  /-- `RegisterTaskOutput` does. -/
  | register (op : ℕ) (stepID : String) (outputJSON resultJSON : String) (now : Time)
  | readInstance (op : ℕ)
  | readNext (op : ℕ)
  /-- The transaction of `UpdateWorkflowProgress` or `RegisterWorkflowTaskOutput`. -/
  | commit (op : ℕ)
  /-- The call ends without it: a check or a statement fails, or the process is gone. -/
  | abandon (op : ℕ)

namespace Workflow

/-- `createProjectWorkflow`. -/
def new (ids : List String) : Workflow where
  inst := ⟨.active, 1⟩
  steps := ids.mapIdx fun index id ↦
    { id := id, position := index, status := if index = 0 then .ready else .pending }
  calls _ := none

def setCall (s : Workflow) (op : ℕ) (call : Option WorkflowCall) : Workflow :=
  { s with calls := Function.update s.calls op call }

/-- A call begins with the step it has read, unless it refuses it. -/
def start (s : Workflow) (op : ℕ) (stepID : String)
    (apply : WorkflowStep → Except String WorkflowStep) : Option Workflow :=
  match s.calls op, s.steps.find? (·.id = stepID) with
  | none, some step =>
    match apply step with
    | .error _ => some s
    | .ok step => some (s.setCall op (some (.stepRead step)))
  | _, _ => none

/-- `NextWorkflowStep`. -/
def nextWorkflowStep (s : Workflow) (position : ℤ) : Option WorkflowStep :=
  s.steps.find? (position < ·.position)

def readInstance (s : Workflow) (op : ℕ) (step : WorkflowStep) : Workflow :=
  let inst : WorkflowInstance := ⟨.active, s.inst.revision + 1⟩
  s.setCall op <| some <|
    if step.status.isFinished then .instanceRead step inst
    else if step.status = .failed then .ready step none { inst with status := .failed }
    else .ready step none inst

def readNext (s : Workflow) (op : ℕ) (step : WorkflowStep) (inst : WorkflowInstance) :
    Workflow :=
  s.setCall op <| some <|
    match s.nextWorkflowStep step.position with
    | none => .ready step none { inst with status := .completed }
    | some next =>
      .ready step (some { next with
        status := if next.status = .pending then .ready else next.status }) inst

/-- The status of the next step is written. -/
def advanced (next : Option WorkflowStep) (row : WorkflowStep) : WorkflowStep :=
  match next with
  | some next => if row.id = next.id then { row with status := next.status } else row
  | none => row

/-- The row after the transaction: all columns of the step, then the status of the next one. -/
def written (step : WorkflowStep) (next : Option WorkflowStep) (row : WorkflowStep) :
    WorkflowStep :=
  advanced next (if row.id = step.id then { step with position := row.position } else row)

def commit (s : Workflow) (step : WorkflowStep) (next : Option WorkflowStep)
    (inst : WorkflowInstance) : Workflow :=
  { s with inst := inst, steps := s.steps.map (written step next) }

def step (s : Workflow) : WorkflowAction → Option Workflow
  | .update op stepID request now => s.start op stepID (request.apply · now)
  | .register op stepID outputJSON resultJSON now =>
    s.start op stepID (registerTaskOutput outputJSON resultJSON · now)
  | .readInstance op =>
    match s.calls op with
    | some (.stepRead step) => some (s.readInstance op step)
    | _ => none
  | .readNext op =>
    match s.calls op with
    | some (.instanceRead step inst) => some (s.readNext op step inst)
    | _ => none
  | .commit op =>
    match s.calls op with
    | some (.ready step next inst) => some ((s.setCall op none).commit step next inst)
    | _ => none
  | .abandon op => some (s.setCall op none)

end Workflow

/-! ## What is kept -/

def WorkflowAction.isCommit : WorkflowAction → Bool
  | commit _ => true
  | _ => false

/-- What is promised of a step. -/
structure Kept (s : Workflow) (action : WorkflowAction) (s' : Workflow) : Prop where
  changes : ∀ row ∈ s.steps, ∀ row' ∈ s'.steps, row.id = row'.id →
    canTransitionWorkflowStep row.status row'.status = true
  completed : s'.inst.status = .completed ↔ ∀ row ∈ s'.steps, row.status.isFinished = true
  failed : s'.inst.status = .failed → ∃ row ∈ s'.steps, row.status = .failed
  revision : s'.inst.revision = s.inst.revision + if action.isCommit then 1 else 0

namespace Workflow

/-- The change of a row is allowed, whatever it was when it was read. -/
def allows (step : WorkflowStep) (next : Option WorkflowStep) (row : WorkflowStep) : Bool :=
  canTransitionWorkflowStep row.status
    (if row.id = step.id then step.status else (advanced next row).status)

/-- The steps that a call does not finish itself are finished, when the next one is as the call
writes it. -/
def othersFinished (s : Workflow) (step : WorkflowStep) (next : Option WorkflowStep) : Bool :=
  s.steps.all fun row ↦ row.id = step.id || (advanced next row).status.isFinished

/-- What a call is about to write fits the rows as they are: the changes are allowed, no other call
was accepted since it read the instance, and the step it finishes is the last one exactly if all
others are finished. -/
def fits (s : Workflow) : WorkflowAction → Bool
  | .commit op =>
    match s.calls op with
    | some (.ready step next inst) =>
      s.steps.all (allows step next) && inst.revision = s.inst.revision + 1 &&
        (!step.status.isFinished || next.isNone == s.othersFinished step next)
    | _ => true
  | _ => true

abbrev Fits (s : Workflow) (action : WorkflowAction) : Prop := s.fits action = true

/-! ## What is known of a call -/

/-- What a call writes of the instance. -/
structure Ready (step : WorkflowStep) (next : Option WorkflowStep) (inst : WorkflowInstance) :
    Prop where
  next_ne : ∀ other ∈ next, other.id ≠ step.id
  finished : step.status.isFinished = true →
    inst.status = if next.isNone then .completed else .active
  unfinished : step.status.isFinished = false →
    inst.status = if step.status = .failed then .failed else .active

end Workflow

/-- The step a call is about. -/
def WorkflowCall.step : WorkflowCall → WorkflowStep
  | stepRead step => step
  | instanceRead step _ => step
  | ready step _ _ => step

/-- How the instance fits the step. -/
def WorkflowCall.IsFitting : WorkflowCall → Prop
  | stepRead _ => True
  | instanceRead step inst => step.status.isFinished = true ∧ inst.status = .active
  | ready step next inst => Workflow.Ready step next inst

namespace Workflow

/-- What a call knows of the rows. -/
structure KnowsOf (s : Workflow) (call : WorkflowCall) : Prop where
  stored : ∃ row ∈ s.steps, row.id = call.step.id ∧ row.position = call.step.position
  fitting : call.IsFitting

/-- What holds in every run. -/
structure Known (s : Workflow) : Prop where
  nodup : (s.steps.map (·.id)).Nodup
  calls : ∀ op call, s.calls op = some call → KnowsOf s call

section Steps

variable {s s' : Workflow} {step : WorkflowStep} {next : Option WorkflowStep}
  {inst : WorkflowInstance} {row : WorkflowStep} {op : ℕ} {action : WorkflowAction}

@[simp] theorem advanced_id (next : Option WorkflowStep) (row : WorkflowStep) :
    (advanced next row).id = row.id := by
  cases next with
  | none => rfl
  | some next =>
    rw [advanced]
    split_ifs <;> rfl

@[simp] theorem advanced_position (next : Option WorkflowStep) (row : WorkflowStep) :
    (advanced next row).position = row.position := by
  cases next with
  | none => rfl
  | some next =>
    rw [advanced]
    split_ifs <;> rfl

@[simp] theorem written_id (step : WorkflowStep) (next : Option WorkflowStep)
    (row : WorkflowStep) : (written step next row).id = row.id := by
  rw [written, advanced_id]
  split_ifs with hrow
  exacts [hrow.symm, rfl]

@[simp] theorem written_position (step : WorkflowStep) (next : Option WorkflowStep)
    (row : WorkflowStep) : (written step next row).position = row.position := by
  rw [written, advanced_position]
  split_ifs <;> rfl

theorem Ready.written_status (h : Ready step next inst) (row : WorkflowStep) :
    (written step next row).status =
      if row.id = step.id then step.status else (advanced next row).status := by
  rw [written]
  split_ifs with hrow
  · cases next with
    | none => rfl
    | some other =>
      rw [advanced, if_neg]
      exact fun hid ↦ h.next_ne other rfl hid.symm
  · rfl

theorem canTransitionWorkflowStep_self (status : WorkflowStepStatus) :
    canTransitionWorkflowStep status status = true := by
  cases status <;> rfl

/-- All steps are finished after a call that finishes its step, if the others are. -/
theorem Ready.all_finished_iff (h : Ready step next inst)
    (hstored : ∃ row ∈ s.steps, row.id = step.id) :
    (∀ row' ∈ s.steps.map (written step next), row'.status.isFinished = true) ↔
      step.status.isFinished = true ∧ s.othersFinished step next = true := by
  rw [othersFinished, List.all_eq_true]
  constructor
  · intro hall
    obtain ⟨stored, hmem, hid⟩ := hstored
    refine ⟨?_, fun row hrow ↦ ?_⟩
    · have hfinished := hall _ (List.mem_map_of_mem hmem)
      rwa [h.written_status, if_pos hid] at hfinished
    · have hfinished := hall _ (List.mem_map_of_mem hrow)
      rw [h.written_status] at hfinished
      by_cases hid : row.id = step.id
      · simp [hid]
      · simpa [hid] using hfinished
  · rintro ⟨hstep, hothers⟩ row' hrow'
    obtain ⟨row, hrow, rfl⟩ := List.mem_map.mp hrow'
    rw [h.written_status]
    by_cases hid : row.id = step.id
    · rwa [if_pos hid]
    · simpa [hid] using hothers row hrow

/-- **A call keeps what is promised exactly if what it writes fits.** -/
theorem Known.kept_commit_iff (h : Known s) (hcall : s.calls op = some (.ready step next inst)) :
    Kept s (.commit op) ((s.setCall op none).commit step next inst) ↔ Fits s (.commit op) := by
  obtain ⟨⟨stored, hmem, hid, -⟩, hready⟩ := h.calls op _ hcall
  rw [WorkflowCall.step] at hid
  have hfinished := hready.all_finished_iff ⟨stored, hmem, hid⟩
  have hchanges : (∀ row ∈ s.steps, ∀ row' ∈ s.steps.map (written step next), row.id = row'.id →
      canTransitionWorkflowStep row.status row'.status = true) ↔
        s.steps.all (allows step next) = true := by
    rw [List.all_eq_true]
    refine forall₂_congr fun row hrow ↦ ?_
    rw [allows, ← hready.written_status]
    constructor
    · exact fun hall ↦ hall _ (List.mem_map_of_mem hrow) (written_id ..).symm
    · intro hallowed row' hrow' hsame
      obtain ⟨other, hother, rfl⟩ := List.mem_map.mp hrow'
      rw [written_id] at hsame
      rwa [← List.inj_on_of_nodup_map h.nodup hrow hother hsame]
  have hcompleted : (inst.status = .completed ↔
      ∀ row' ∈ s.steps.map (written step next), row'.status.isFinished = true) ↔
        (!step.status.isFinished || next.isNone == s.othersFinished step next) = true := by
    rw [hfinished]
    cases hstep : step.status.isFinished with
    | false =>
      rw [hready.unfinished hstep]
      split_ifs <;> simp
    | true =>
      rw [hready.finished hstep]
      generalize s.othersFinished step next = finished
      cases next <;> cases finished <;> simp
  have hfailed : inst.status = .failed →
      ∃ row' ∈ s.steps.map (written step next), row'.status = .failed := by
    intro hinst
    refine ⟨_, List.mem_map_of_mem hmem, ?_⟩
    rw [hready.written_status, if_pos hid]
    cases hstep : step.status.isFinished with
    | false =>
      have hstatus := hready.unfinished hstep
      rw [hinst] at hstatus
      split_ifs at hstatus with hfailed
      exact hfailed
    | true =>
      have hstatus := hready.finished hstep
      rw [hinst] at hstatus
      split_ifs at hstatus
  rw [Fits, fits, hcall]
  simp only [Bool.and_eq_true, decide_eq_true_eq]
  rw [← hchanges, ← hcompleted]
  constructor
  · intro hkept
    exact ⟨⟨hkept.changes, hkept.revision⟩, hkept.completed⟩
  · rintro ⟨⟨hchanges, hrevision⟩, hcompleted⟩
    exact ⟨hchanges, hcompleted, hfailed, hrevision⟩

/-! ## Steps -/

theorem setCall_self (s : Workflow) (op : ℕ) (call : Option WorkflowCall) :
    (s.setCall op call).calls op = call :=
  Function.update_self ..

theorem setCall_of_ne (s : Workflow) {op other : ℕ} (call : Option WorkflowCall)
    (hother : other ≠ op) : (s.setCall op call).calls other = s.calls other :=
  Function.update_of_ne hother ..

/-- One call is replaced. -/
theorem Known.setCall (h : Known s) {call : Option WorkflowCall}
    (hcall : ∀ new, call = some new → KnowsOf s new) : Known (s.setCall op call) := by
  refine ⟨h.nodup, fun other new hnew ↦ ?_⟩
  have hknows : KnowsOf s new := by
    by_cases hother : other = op
    · rw [hother, setCall_self] at hnew
      exact hcall new hnew
    · rw [setCall_of_ne s call hother] at hnew
      exact h.calls other new hnew
  exact ⟨hknows.stored, hknows.fitting⟩

theorem Known.setCall_some (h : Known s) {call : WorkflowCall} (hcall : KnowsOf s call) :
    Known (s.setCall op (some call)) :=
  h.setCall fun _ hnew ↦ Option.some.inj hnew ▸ hcall

theorem Known.setCall_none (h : Known s) (op : ℕ) : Known (s.setCall op none) :=
  h.setCall fun _ hnew ↦ by cases hnew

theorem Known.start (h : Known s) {stepID : String}
    {apply : WorkflowStep → Except String WorkflowStep}
    (happly : ∀ step new, apply step = .ok new → new.id = step.id ∧ new.position = step.position)
    (hstart : s.start op stepID apply = some s') :
    Known s' ∧ s'.inst = s.inst ∧ s'.steps = s.steps := by
  rw [Workflow.start] at hstart
  split at hstart
  · rename_i step _ hfound
    split at hstart
    · cases hstart
      exact ⟨h, rfl, rfl⟩
    · rename_i new hnew
      cases hstart
      obtain ⟨hid, hposition⟩ := happly step new hnew
      refine ⟨h.setCall_some ⟨⟨step, List.mem_of_find?_eq_some hfound, ?_, ?_⟩, trivial⟩, rfl, rfl⟩
      exacts [hid.symm, hposition.symm]
  · cases hstart

theorem UpdateWorkflowStepRequest.apply_eq_ok {request : UpdateWorkflowStepRequest} {now : Time}
    (step new : WorkflowStep) (happly : request.apply step now = .ok new) :
    new.id = step.id ∧ new.position = step.position := by
  rw [UpdateWorkflowStepRequest.apply] at happly
  split at happly
  · cases happly
  · split at happly
    · cases happly
    · cases happly
      exact ⟨rfl, rfl⟩

theorem registerTaskOutput_eq_ok {outputJSON resultJSON : String} {now : Time}
    (step new : WorkflowStep)
    (happly : registerTaskOutput outputJSON resultJSON step now = .ok new) :
    new.id = step.id ∧ new.position = step.position := by
  rw [registerTaskOutput] at happly
  split at happly
  · cases happly
  · cases happly
    exact ⟨rfl, rfl⟩

theorem Known.readInstance (h : Known s) (hcall : s.calls op = some (.stepRead step)) :
    Known (s.readInstance op step) := by
  obtain ⟨hstored, -⟩ := h.calls op _ hcall
  rw [Workflow.readInstance]
  by_cases hfinished : step.status.isFinished = true
  · rw [if_pos hfinished]
    exact h.setCall_some ⟨hstored, hfinished, rfl⟩
  · rw [if_neg hfinished]
    by_cases hfailed : step.status = .failed
    · rw [if_pos hfailed]
      exact h.setCall_some ⟨hstored, nofun, fun h ↦ absurd h hfinished, fun _ ↦
        (if_pos hfailed).symm⟩
    · rw [if_neg hfailed]
      exact h.setCall_some ⟨hstored, nofun, fun h ↦ absurd h hfinished, fun _ ↦
        (if_neg hfailed).symm⟩

theorem Known.readNext (h : Known s) (hcall : s.calls op = some (.instanceRead step inst)) :
    Known (s.readNext op step inst) := by
  obtain ⟨⟨row, hrow, hid, hposition⟩, hfinished, hactive⟩ := h.calls op _ hcall
  rw [WorkflowCall.step] at hid hposition
  have hnot : step.status.isFinished ≠ false := by simp [hfinished]
  rw [Workflow.readNext]
  cases hnext : s.nextWorkflowStep step.position with
  | none =>
    exact h.setCall_some ⟨⟨row, hrow, hid, hposition⟩, nofun, fun _ ↦ rfl, fun h ↦ absurd h hnot⟩
  | some other =>
    refine h.setCall_some ⟨⟨row, hrow, hid, hposition⟩, ?_, fun _ ↦ hactive, fun h ↦ absurd h hnot⟩
    intro written hwritten hsame
    have hwritten : written.id = other.id := by rw [← Option.some.inj hwritten]
    -- The next step comes later, so it is another one.
    have hlater : step.position < other.position := by simpa using List.find?_some hnext
    have heq : other = row := List.inj_on_of_nodup_map h.nodup
      (List.mem_of_find?_eq_some hnext) hrow (hwritten.symm.trans (hsame.trans hid.symm))
    rw [heq, hposition] at hlater
    exact lt_irrefl _ hlater

theorem Known.commit (h : Known s) (step : WorkflowStep) (next : Option WorkflowStep)
    (inst : WorkflowInstance) : Known (s.commit step next inst) where
  nodup := by
    have hids : (s.commit step next inst).steps.map (·.id) = s.steps.map (·.id) := by
      simp [Workflow.commit, Function.comp_def]
    rw [hids]
    exact h.nodup
  calls op call hcall := by
    obtain ⟨⟨row, hrow, hid, hposition⟩, hfitting⟩ := h.calls op call hcall
    refine ⟨⟨_, List.mem_map_of_mem hrow, ?_, ?_⟩, hfitting⟩
    exacts [by rwa [written_id], by rwa [written_position]]

/-- What holds in every run of calls that fit. -/
structure Consistent (s : Workflow) : Prop where
  known : Known s
  completed : s.inst.status = .completed ↔ ∀ row ∈ s.steps, row.status.isFinished = true
  failed : s.inst.status = .failed → ∃ row ∈ s.steps, row.status = .failed

/-- Before a transaction nothing is written. -/
theorem Consistent.unchanged (h : Consistent s) (haction : action.isCommit = false)
    (hinst : s'.inst = s.inst) (hsteps : s'.steps = s.steps) : Kept s action s' where
  changes row hrow row' hrow' hid := by
    rw [hsteps] at hrow'
    rw [List.inj_on_of_nodup_map h.known.nodup hrow hrow' hid]
    exact canTransitionWorkflowStep_self _
  completed := by
    rw [hinst, hsteps]
    exact h.completed
  failed := by
    rw [hinst, hsteps]
    exact h.failed
  revision := by
    rw [hinst, haction]
    exact (add_zero _).symm

/-- **A step keeps what is promised exactly if it fits.** -/
theorem Consistent.kept_iff (h : Consistent s) (hstep : s.step action = some s') :
    (Kept s action s' ↔ Fits s action) ∧ Known s' := by
  cases action with
  | update op stepID request now =>
    obtain ⟨hknown, hinst, hsteps⟩ :=
      h.known.start UpdateWorkflowStepRequest.apply_eq_ok hstep
    exact ⟨iff_of_true (h.unchanged rfl hinst hsteps) rfl, hknown⟩
  | register op stepID outputJSON resultJSON now =>
    obtain ⟨hknown, hinst, hsteps⟩ := h.known.start registerTaskOutput_eq_ok hstep
    exact ⟨iff_of_true (h.unchanged rfl hinst hsteps) rfl, hknown⟩
  | readInstance op =>
    rw [Workflow.step] at hstep
    split at hstep
    · rename_i hcall
      cases hstep
      exact ⟨iff_of_true (h.unchanged rfl rfl rfl) rfl, h.known.readInstance hcall⟩
    · cases hstep
  | readNext op =>
    rw [Workflow.step] at hstep
    split at hstep
    · rename_i hcall
      cases hstep
      exact ⟨iff_of_true (h.unchanged rfl rfl rfl) rfl, h.known.readNext hcall⟩
    · cases hstep
  | commit op =>
    rw [Workflow.step] at hstep
    split at hstep
    · rename_i step next inst hcall
      cases hstep
      exact ⟨h.known.kept_commit_iff hcall, (h.known.setCall_none op).commit step next inst⟩
    · cases hstep
  | abandon op =>
    cases hstep
    exact ⟨iff_of_true (h.unchanged rfl rfl rfl) rfl, h.known.setCall_none op⟩

end Steps

/-! ## Runs -/

section Runs

open Machine

theorem consistent_new {ids : List String} (hids : ids ≠ []) (hnodup : ids.Nodup) :
    Consistent (new ids) := by
  have hsteps : (new ids).steps.map (·.id) = ids := by
    rw [new]
    apply List.ext_getElem <;> simp
  have hstatus : ∀ row ∈ (new ids).steps, row.status = .ready ∨ row.status = .pending := by
    intro row hrow
    obtain ⟨index, hindex, rfl⟩ := List.mem_mapIdx.mp hrow
    dsimp only
    split_ifs
    exacts [.inl rfl, .inr rfl]
  refine ⟨⟨by rwa [hsteps], fun _ _ hcall ↦ by cases hcall⟩, ⟨nofun, fun hall ↦ ?_⟩, nofun⟩
  cases hrows : (new ids).steps with
  | nil => exact absurd (by rw [← hsteps, hrows]; rfl) hids
  | cons row rest =>
    have hrow : row ∈ (new ids).steps := hrows ▸ List.mem_cons_self ..
    have hfinished := hall row hrow
    rcases hstatus row hrow with hready | hpending
    · rw [hready] at hfinished
      cases hfinished
    · rw [hpending] at hfinished
      cases hfinished

variable {ids : List String} {s s' : Workflow} {action : WorkflowAction}

theorem consistent_of_run (hids : ids ≠ []) (hnodup : ids.Nodup)
    (hrun : Run Workflow.step Fits (new ids) s) : Consistent s :=
  hrun.invariant (consistent_new hids hnodup) fun _ _ _ h hfits hstep ↦
    have hkept := (h.kept_iff hstep).1.mpr hfits
    ⟨(h.kept_iff hstep).2, hkept.completed, hkept.failed⟩

/-- **After calls that fitted, a step keeps what is promised exactly if it fits, too.** -/
theorem workflow_kept_iff (hids : ids ≠ []) (hnodup : ids.Nodup)
    (hrun : Run Workflow.step Fits (new ids) s) (hstep : s.step action = some s') :
    Kept s action s' ↔ Fits s action :=
  ((consistent_of_run hids hnodup hrun).kept_iff hstep).1

end Runs

end Workflow

/-! ## Skipping the last step -/

namespace WorkflowExample

open Machine Workflow

/-- The steps of the built-in workflow. -/
def ids : List String := ["style", "story", "storyboard", "assets", "video", "review", "delivery"]

/-- A step is given a status. -/
def change (stepID status : String) : List WorkflowAction :=
  [.update 0 stepID { status := status } 1, .readInstance 0]

def started : Workflow :=
  (play Workflow.step Fits (new ids) (change "style" "running")).getD (new ids)

/-- The last step is about to be skipped. -/
def skipping : Workflow :=
  (play Workflow.step Fits (new ids) (change "delivery" "skipped" ++ [.readNext 0])).getD (new ids)

def skipped : Workflow := (skipping.step (.commit 0)).getD skipping

theorem run_started : Run Workflow.step Fits (new ids) started :=
  run_of_play .nil (change "style" "running") rfl

theorem run_skipping : Run Workflow.step Fits (new ids) skipping :=
  run_of_play .nil (change "delivery" "skipped" ++ [.readNext 0]) rfl

end WorkflowExample

open Machine Workflow WorkflowExample in
theorem workflow_kept_iff_started :
    Kept started (.commit 0) ((started.step (.commit 0)).getD started) ↔
      Fits started (.commit 0) :=
  workflow_kept_iff (by decide) (by decide) run_started rfl

open Machine Workflow WorkflowExample in
/-- **A workflow whose last step is skipped is completed**, though its first step is only ready. -/
theorem not_kept_skipped :
    ¬∀ (ids : List String) (s s' : Workflow) (action : WorkflowAction), ids ≠ [] → ids.Nodup →
      Run Workflow.step (fun _ _ ↦ True) (new ids) s → s.step action = some s' →
        Kept s action s' := by
  intro h
  have hkept : Kept skipping (.commit 0) skipped :=
    h ids skipping skipped _ (by decide) (by decide) (run_skipping.mono fun _ _ _ ↦ trivial) rfl
  have hfinished := hkept.completed.mp rfl
    { id := "style", position := 0, status := .ready } (List.mem_cons_self ..)
  cases hfinished

end HMaigc.Projects
