import HMaigc.Ops.RunnerSystem

/-!
# What the files of an operation say

* `OperationDir.latestEvent` — the last event of a generation.
* `OperationCheckpoint.contract`, `OperationCheckpoint.fence` — what a checkpoint may never change,
  and whose it is.
* `OperationRequestFile.plan`, `nextStageIndex_completed` — the plan, and where it goes on.
* `Filed` — how the files of an operation fit together at every point of every run.
-/

set_option autoImplicit false

namespace HMaigc.Ops

open Go Concurrent

/-! ## The latest event -/

/-- The last event of a generation. -/
def OperationDir.latestEvent (dir : OperationDir) (generation : ℕ) : Option OperationEvent :=
  ((dir.events.filter fun e ↦ e.generation = generation ∧ 0 < e.sequence).insertionSort
    (·.sequence ≤ ·.sequence)).getLast?

instance : Std.Total fun a b : OperationEvent ↦ a.sequence ≤ b.sequence :=
  ⟨fun a b ↦ le_total a.sequence b.sequence⟩

instance : IsTrans OperationEvent fun a b ↦ a.sequence ≤ b.sequence :=
  ⟨fun _ _ _ hab hbc ↦ le_trans hab hbc⟩

section Latest

variable {dir : OperationDir} {generation : ℕ} {event : OperationEvent}

theorem OperationDir.latestEvent_eq_some (h : dir.latestEvent generation = some event) :
    event ∈ dir.events ∧ event.generation = generation ∧ 0 < event.sequence ∧
      ∀ e ∈ dir.events, e.generation = generation → e.sequence ≤ event.sequence := by
  rw [latestEvent] at h
  have hmem := List.mem_of_getLast? h
  rw [List.mem_insertionSort, List.mem_filter, decide_eq_true_iff] at hmem
  refine ⟨hmem.1, hmem.2.1, hmem.2.2, fun e he hgen ↦ ?_⟩
  rcases Nat.eq_zero_or_pos e.sequence with hzero | hpos
  · omega
  · have hsorted := List.pairwise_insertionSort
      (fun a b : OperationEvent ↦ a.sequence ≤ b.sequence)
      (dir.events.filter fun e ↦ e.generation = generation ∧ 0 < e.sequence)
    obtain ⟨init, hinit⟩ := List.getLast?_eq_some_iff.mp h
    have hin : e ∈ init ++ [event] := by
      rw [← hinit, List.mem_insertionSort, List.mem_filter, decide_eq_true_iff]
      exact ⟨he, hgen, hpos⟩
    rw [hinit, List.pairwise_append] at hsorted
    rcases List.mem_append.mp hin with hin | hin
    · exact hsorted.2.2 e hin event (List.mem_singleton.mpr rfl)
    · rw [List.mem_singleton.mp hin]

theorem OperationDir.latestEvent_eq_none (h : dir.latestEvent generation = none)
    (he : event ∈ dir.events) (hgen : event.generation = generation) : event.sequence = 0 := by
  rw [latestEvent, List.getLast?_eq_none_iff] at h
  by_contra hpos
  have hin : event ∈ (dir.events.filter fun e ↦
      e.generation = generation ∧ 0 < e.sequence).insertionSort (·.sequence ≤ ·.sequence) := by
    rw [List.mem_insertionSort, List.mem_filter, decide_eq_true_iff]
    exact ⟨he, hgen, Nat.pos_of_ne_zero hpos⟩
  rw [h] at hin
  exact absurd hin (List.not_mem_nil)

/-- An event numbered higher than all the others of its generation is the latest. -/
theorem OperationDir.latestEvent_append {dir' : OperationDir} (hpos : 0 < event.sequence)
    (hlt : ∀ e ∈ dir.events, e.generation = event.generation → e.sequence < event.sequence)
    (hevents : dir'.events = dir.events ++ [event]) :
    dir'.latestEvent event.generation = some event := by
  have hin : event ∈ dir'.events := by
    rw [hevents]
    exact List.mem_append_right _ (List.mem_singleton.mpr rfl)
  cases hlatest : dir'.latestEvent event.generation with
  | none =>
    have hzero := latestEvent_eq_none hlatest hin rfl
    omega
  | some last =>
    obtain ⟨hmem, hgen, -, hmax⟩ := latestEvent_eq_some hlatest
    have hle := hmax event hin rfl
    rw [hevents, List.mem_append] at hmem
    rcases hmem with hmem | hmem
    · have := hlt last hmem hgen
      omega
    · rw [List.mem_singleton.mp hmem]

end Latest

theorem Journal.readEvents_getLast? {j : Journal} {operationID : String} {generation : ℕ}
    {events : List OperationEvent} (h : j.readEvents operationID generation 0 = .ok events) :
    events.getLast? = (j.dir operationID).latestEvent generation := by
  rw [Journal.readEvents] at h
  split at h
  · cases h
    rfl
  · cases h

/-! ## Whose a checkpoint is -/

/-- What a checkpoint has in common with the request, whatever happens. -/
def OperationCheckpoint.contract (c : OperationCheckpoint) : String × Action × String × String :=
  (c.operationID, c.action, c.expectedVersion, c.targetVersion)

def OperationRequestFile.contract (r : OperationRequestFile) : String × Action × String × String :=
  (r.operationID, r.request.action, r.expectedVersion, operationTargetVersion r)

/-- Whose checkpoint it is. -/
def OperationCheckpoint.fence (c : OperationCheckpoint) : ℕ × String × String :=
  (c.generation, c.fencingTokenHash, c.runnerDigest)

def Engine.fence (e : Engine) (input : RunInput) : ℕ × String × String :=
  (input.generation, e.hashToken input.fencingToken, input.runnerDigest)

theorem OperationCheckpoint.generation_of_fence {c : OperationCheckpoint} {e : Engine}
    {input : RunInput} (h : c.fence = e.fence input) : c.generation = input.generation :=
  congrArg (·.1) h

theorem validateCheckpointRequestContract_eq_ok {c : OperationCheckpoint}
    {r : OperationRequestFile} :
    validateCheckpointRequestContract c r = .ok () ↔ c.contract = r.contract := by
  rw [validateCheckpointRequestContract, OperationCheckpoint.contract,
    OperationRequestFile.contract]
  split
  · rename_i h
    refine ⟨fun h ↦ (nomatch h), fun heq ↦ ?_⟩
    simp only [Prod.mk.injEq] at heq
    obtain ⟨h₁, h₂, h₃, h₄⟩ := heq
    rcases h with h | h | h | h
    · exact absurd h₁ h
    · exact absurd h₂ h
    · exact absurd h₃ h
    · exact absurd h₄ h
  · rename_i h
    simp only [not_or, not_not] at h
    obtain ⟨h₁, h₂, h₃, h₄⟩ := h
    simp only [h₁, h₂, h₃, h₄]

section Advance

variable (c : OperationCheckpoint) (stage : OperationStage) (output : StageOutput) (now : Time)
  (n : ℕ)

variable (message : String)

@[simp] theorem contract_failedCheckpoint :
    (Engine.failedCheckpoint c stage output message n now).contract = c.contract := rfl

@[simp] theorem fence_failedCheckpoint :
    (Engine.failedCheckpoint c stage output message n now).fence = c.fence := rfl

@[simp] theorem stage_failedCheckpoint :
    (Engine.failedCheckpoint c stage output message n now).stage = stage := rfl

@[simp] theorem stageCompletedAt_failedCheckpoint :
    (Engine.failedCheckpoint c stage output message n now).stageCompletedAt = none := rfl

@[simp] theorem sequence_failedCheckpoint :
    (Engine.failedCheckpoint c stage output message n now).sequence = n := rfl

end Advance

/-! ## Where a plan goes on -/

/-- The plan of the operation's action; an action that has none is never carried out. -/
def OperationRequestFile.plan (r : OperationRequestFile) : List OperationStage :=
  match stagesFor r.request.action with
  | .ok stages => stages
  | .error _ => []

theorem OperationRequestFile.plan_of_stagesFor {r : OperationRequestFile}
    {stages : List OperationStage} (h : stagesFor r.request.action = .ok stages) :
    r.plan = stages := by
  rw [plan, h]

theorem OperationRequestFile.plan_nodup (r : OperationRequestFile) : r.plan.Nodup := by
  rw [plan]
  cases r.request.action <;> decide

/-- The plan has no stage that only undoes. -/
theorem OperationRequestFile.ne_of_mem_plan {r : OperationRequestFile} {stage : OperationStage}
    (h : stage ∈ r.plan) :
    stage ≠ .accepted ∧ stage ≠ .restoringCurrent ∧ stage ≠ .restoringBackup := by
  rw [plan] at h
  revert h stage
  cases r.request.action <;> decide

/-- Data is rewritten only behind a backup. -/
theorem OperationRequestFile.backingUp_mem {r : OperationRequestFile} {stage : OperationStage}
    (h : stage ∈ r.plan) (hrewrite : stageMayRewriteData stage = true) :
    .backingUp ∈ r.plan.takeWhile (· ≠ stage) := by
  rw [plan] at h ⊢
  revert h hrewrite stage
  cases r.request.action <;> decide

theorem nextStageIndex_eq_error {stages : List OperationStage} {c : OperationCheckpoint} {i : ℕ}
    (haccepted : c.stage ≠ .accepted) (hcompleted : c.stageCompletedAt = none) :
    nextStageIndex stages c ≠ .ok i := by
  rw [nextStageIndex, if_neg haccepted, if_pos hcompleted]
  exact fun h ↦ nomatch h

theorem nextStageIndex_of_not_mem {stages : List OperationStage} {c : OperationCheckpoint} {i : ℕ}
    (haccepted : c.stage ≠ .accepted) (hstage : c.stage ∉ stages) :
    nextStageIndex stages c ≠ .ok i := by
  have hnone : stages.findIdx? (· == c.stage) = none := by
    rw [List.findIdx?_eq_none_iff]
    intro stage hmem
    rw [beq_eq_false_iff_ne]
    rintro rfl
    exact hstage hmem
  rw [nextStageIndex, if_neg haccepted, hnone]
  split
  · exact fun h ↦ nomatch h
  · exact fun h ↦ nomatch h

/-- After a completed stage, the plan goes on with the stages behind it. -/
theorem nextStageIndex_completed {done rest : List OperationStage} {c : OperationCheckpoint}
    (hnodup : (done ++ c.stage :: rest).Nodup) (haccepted : c.stage ≠ .accepted)
    (hcompleted : c.stageCompletedAt ≠ none) :
    nextStageIndex (done ++ c.stage :: rest) c = .ok (done.length + 1) := by
  have hdone : c.stage ∉ done := fun hmem ↦
    (List.disjoint_of_nodup_append hnodup) hmem List.mem_cons_self
  have hindex : (done ++ c.stage :: rest).findIdx? (· == c.stage) = some done.length := by
    have hnone : done.findIdx? (· == c.stage) = none := by
      rw [List.findIdx?_eq_none_iff]
      intro stage hmem
      rw [beq_eq_false_iff_ne]
      rintro rfl
      exact hdone hmem
    rw [List.findIdx?_append, hnone, List.findIdx?_cons]
    simp
  rw [nextStageIndex, if_neg haccepted, if_neg hcompleted, hindex]

/-! ## A stage of unknown outcome -/

/-- What a checkpoint becomes when a destructive stage has no recorded end. -/
structure OperationCheckpoint.Condemned (events : List OperationEvent)
    (c c' : OperationCheckpoint) : Prop where
  contract : c'.contract = c.contract
  fence : c'.fence = c.fence
  stage : isDestructiveStage c'.stage = true
  completed : c'.stageCompletedAt = none
  event : ∃ e ∈ events, e.generation = c'.generation ∧ e.sequence = c'.sequence

theorem OperationCheckpoint.Condemned.stage_ne_accepted {events : List OperationEvent}
    {c c' : OperationCheckpoint} (h : c.Condemned events c') : c'.stage ≠ .accepted := by
  intro haccepted
  have hstage := h.stage
  rw [haccepted] at hstage
  exact absurd hstage (by decide)

/-- No plan goes on from there. -/
theorem OperationCheckpoint.Condemned.nextStageIndex {events : List OperationEvent}
    {c c' : OperationCheckpoint} (h : c.Condemned events c') (stages : List OperationStage) (i : ℕ) :
    nextStageIndex stages c' ≠ .ok i :=
  nextStageIndex_eq_error h.stage_ne_accepted h.completed

theorem applyUnknownStageIntent_false {c c' : OperationCheckpoint} {event : OperationEvent}
    {now : Time} (h : applyUnknownStageIntent c event now = .ok (c', false)) :
    isUnknownStageIntent c event = false := by
  by_contra hunknown
  rw [Bool.not_eq_false] at hunknown
  rw [applyUnknownStageIntent, hunknown] at h
  simp only [Bool.not_true, Bool.false_eq_true, if_false] at h
  split at h
  · split at h
    · cases h
    · cases h
  · cases h

theorem applyUnknownStageIntent_true {c c' : OperationCheckpoint} {event : OperationEvent}
    {now : Time} (h : applyUnknownStageIntent c event now = .ok (c', true)) :
    isUnknownStageIntent c event = true ∧ c'.contract = c.contract ∧ c'.fence = c.fence ∧
      c'.stage = event.stage ∧ c'.stageCompletedAt = none ∧ c'.sequence = event.sequence := by
  cases hunknown : isUnknownStageIntent c event with
  | false =>
    rw [applyUnknownStageIntent, hunknown] at h
    cases h
  | true =>
    rw [applyUnknownStageIntent, hunknown] at h
    simp only [Bool.not_true, Bool.false_eq_true, if_false] at h
    split at h
    · split at h
      · cases h
      · cases h
        exact ⟨rfl, rfl, rfl, rfl, rfl, rfl⟩
    · cases h
      exact ⟨rfl, rfl, rfl, rfl, rfl, rfl⟩

theorem isUnknownStageIntent_iff {c : OperationCheckpoint} {event : OperationEvent} :
    isUnknownStageIntent c event = true ↔ event.generation = c.generation ∧
      c.sequence < event.sequence ∧ isDestructiveStage event.stage = true := by
  rw [isUnknownStageIntent, Bool.and_eq_true, Bool.and_eq_true, beq_iff_eq, decide_eq_true_iff,
    and_assoc]

theorem condemned_of_applied {events : List OperationEvent} {c c' : OperationCheckpoint}
    {event : OperationEvent} {now : Time} (hevent : event ∈ events)
    (h : applyUnknownStageIntent c event now = .ok (c', true)) : c.Condemned events c' := by
  obtain ⟨hunknown, hcontract, hfence, hstage, hcompleted, hsequence⟩ :=
    applyUnknownStageIntent_true h
  obtain ⟨hgeneration, -, hdestructive⟩ := isUnknownStageIntent_iff.mp hunknown
  have hgen : c'.generation = c.generation := congrArg (·.1) hfence
  exact ⟨hcontract, hfence, by rw [hstage, hdestructive], hcompleted,
    event, hevent, hgeneration.trans hgen.symm, hsequence.symm⟩

/-! ## The files at every point of a run -/

/-- The directory of an operation. -/
abbrev World.dir (w : World) (operationID : String) : OperationDir := w.journal.dir operationID

/-- The request is one the engine carries out. -/
structure Executable (operationID : String) (request : OperationRequestFile) : Prop where
  owner : request.operationID = operationID
  valid : validateRequest request = .ok ()
  live : request.importedTerminal = false
  planned : stagesFor request.request.action = .ok request.plan

/-- How the files of an operation fit together. -/
structure Filed (e : Engine) (secret operationID : String) (request : OperationRequestFile)
    (w : World) : Prop where
  stated : (w.dir operationID).request = some request
  launch : ∀ l, (w.dir operationID).launch = some l →
    l.secret = secret ∧ l.payload.operationID = operationID ∧
      validateLaunchCommandFields l.payload = .ok () ∧ minimumCommandSecret ≤ secret.utf8ByteSize
  cancel : ∀ c, (w.dir operationID).cancel = some c →
    c.secret = secret ∧ c.payload.operationID = operationID ∧
      validateCancelCommand c.payload w.now = .ok ()
  /-- A checkpoint that is not of the generation on file is of an earlier one that has a result. -/
  checkpoint : ∀ c, (w.dir operationID).checkpoint = some c →
    c.contract = request.contract ∧ ∃ l, (w.dir operationID).launch = some l ∧
      (c.fence = e.fence (l.payload.runInput secret) ∨
        c.generation < l.payload.generation ∧ (w.dir operationID).result ≠ none)
  executable : ∀ c, (w.dir operationID).checkpoint = some c → Executable operationID request
  sequence : ∀ c, (w.dir operationID).checkpoint = some c → c.sequence = 0 ∨
    ∃ event ∈ (w.dir operationID).events,
      event.generation = c.generation ∧ event.sequence = c.sequence
  events : ∀ event ∈ (w.dir operationID).events,
    ∃ c, (w.dir operationID).checkpoint = some c ∧ event.generation ≤ c.generation
  result : ∀ r, (w.dir operationID).result = some r →
    r.operationID = operationID ∧ isRunnerResultStatus r.status = true
  /-- Nothing is begun that no event announces. -/
  begun : ∀ run ∈ w.executed, ∃ event ∈ (w.dir operationID).events, event.stage = run.stage

/-- The launch command on file is the one `input` was taken from, or one of a later generation that
was issued because there was a result. -/
def Launched (secret operationID : String) (input : RunInput) (w : World) : Prop :=
  ∃ l, (w.dir operationID).launch = some l ∧ (l.payload.runInput secret = input ∨
    input.generation < l.payload.generation ∧ (w.dir operationID).result ≠ none)

/-- No checkpoint is numbered higher than the events of its generation. -/
theorem Filed.sequence_le {e : Engine} {secret operationID : String}
    {request : OperationRequestFile} {w : World} (hw : Filed e secret operationID request w)
    {c : OperationCheckpoint} {n : ℕ} (hc : (w.dir operationID).checkpoint = some c)
    (hn : ∀ event ∈ (w.dir operationID).events,
      event.generation = c.generation → event.sequence ≤ n) : c.sequence ≤ n := by
  rcases hw.sequence c hc with hzero | ⟨event, hevent, hgen, hseq⟩
  · omega
  · have hle := hn event hevent hgen
    omega

end HMaigc.Ops
