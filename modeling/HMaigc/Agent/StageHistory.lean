import HMaigc.Repository.Footprint
import HMaigc.Repository.ProductionGraph
import HMaigc.Sql.Versioned

/-!
# The statuses a stage goes through

Stages are written by several transactions: a stage is advanced by itself, a new revision is
submitted for review and makes the stages that depend on it stale, a revision of an artifact makes
stages stale, and ending a run stops the stages its specialists work on.  Only the first, and the
submission for review, ask `ValidateProductionStageStatusTransition`.

* `Transitions` is the table, `MarkedStale` what marking stages stale does instead of it.
* `stages_follow_table` — **in every run each change of a stage is one or the other**, and the second
  is made by the calls that mark stages stale only.
* `exists_change_off_table` — a stage that was never started becomes stale.
-/

set_option autoImplicit false

namespace HMaigc

open Sql Go Prog AgentRuntime

/-! ## Calls -/

/-- The row is a production stage. -/
def RowKey.isStage : RowKey → Bool
  | .agentProductionStage _ => true
  | _ => false

/-- What writes stages, with what else is done in the same transaction, and what writes none. -/
inductive StageCall where
  | appendGraph (codec : ProductionCodec) (scope : AgentScope) (mayMutate : Bool)
      (expectedVersion : ℤ) (draft : ProductionGraphDraft) (now : Time)
  | advance (scope : AgentScope) (mayMutate : Bool) (stageID : String) (expectedVersion : ℤ)
      (next : ProductionStageStatus)
  | markDependents (codec : ProductionCodec) (scope : AgentScope) (mayMutate : Bool)
      (changedStageKey revisionID : String)
  | reviseArtifact (codec : ProductionCodec) (scope : AgentScope)
      (before : DbTx (List ArtifactRevisionRef))
      (hbefore : before.WritesOnly fun k ↦ ¬k.isStage = true)
  | cancelRunTree (digest : String → String) (scope : AgentScope) (entryID : String → String)
      (now : Time) (before after : DbTx Unit)
      (hbefore : before.WritesOnly fun k ↦ ¬k.isStage = true)
      (hafter : after.WritesOnly fun k ↦ ¬k.isStage = true)
  | interruptRun (scope : AgentScope) (now : Time) (before after : DbTx Unit)
      (hbefore : before.WritesOnly fun k ↦ ¬k.isStage = true)
      (hafter : after.WritesOnly fun k ↦ ¬k.isStage = true)
  | other (p : DbTx Unit) (hp : p.WritesOnly fun k ↦ ¬k.isStage = true)

/-- The table allows the stage to change from the one status to the other. -/
def Transitions (r r' : AgentProductionStage) : Prop :=
  validateProductionStageStatusTransition r.status r'.status = .ok ()

/-- The stage was not stopped, and became stale. -/
def MarkedStale (r r' : AgentProductionStage) : Prop := r.status ≠ .stopped ∧ r'.status = .stale

namespace StageCall

def prog : StageCall → DbTx Unit
  | .appendGraph codec scope mayMutate expectedVersion draft now => do
    let _ ← appendProductionGraphVersion codec scope mayMutate expectedVersion draft now
  | .advance scope mayMutate stageID expectedVersion next =>
    advanceProductionStageCAS scope mayMutate stageID expectedVersion next
  | .markDependents codec scope mayMutate changedStageKey revisionID =>
    markDependentStagesStale codec scope mayMutate changedStageKey revisionID
  | .reviseArtifact codec scope before _ => do
    let changed ← before
    markProductionStagesStaleForRevisionRefsTx codec scope changed
  | .cancelRunTree digest scope entryID now before after _ _ => do
    before
    cancelAgentRunTreeTx digest scope entryID now
    after
  | .interruptRun scope now before after _ _ => do
    before
    cancelAgentSpecialistLifecyclesTx scope now
    after
  | .other p _ => p

/-- The call marks stages stale. -/
def MarksStale : StageCall → Prop
  | .markDependents .. | .reviseArtifact .. => True
  | _ => False

/-- What a call makes of a stage. -/
def Moves : StageCall → AgentProductionStage → AgentProductionStage → Prop
  | .appendGraph .., _, _ | .other .., _, _ => False
  | .advance .., r, r' => Transitions r r'
  | .markDependents .., r, r' => Transitions r r' ∨ MarkedStale r r'
  | .reviseArtifact .., r, r' => MarkedStale r r'
  | .cancelRunTree .., r, r' | .interruptRun .., r, r' => Transitions r r' ∧ r'.status = .stopped

end StageCall

/-! ## The contract -/

/-- The version of a stage. -/
def stageVersion : ∀ k, Row k → ℤ
  | .agentProductionStage _, r => r.version
  | _, _ => 0

/-- A write of a stage raises its version. -/
def RaisesStage (k : RowKey) (o : Option (Row k)) (r' : Row k) : Prop :=
  k.isStage = true → ∀ r, o = some r → stageVersion k r < stageVersion k r'

/-- What one write of a call does to a stage. -/
def StageCall.rowWrites (c : StageCall) (k : RowKey) (o : Option (Row k)) (r' : Row k) : Prop :=
  match c with
  | .appendGraph .. => k.isStage = true → o = none
  | _ => RaisesStage k o r'

/-- The moves of a call, as a relation on rows. -/
def StageCall.rowMoves (c : StageCall) : ∀ k, Row k → Row k → Prop
  | .agentProductionStage _, r, r' => r.version < r'.version ∧ c.Moves r r'
  | _, _, _ => True

/-- What a committed call did to the stages that were there. -/
def StagePost (c : StageCall) (s s' : Store) : Prop :=
  ∀ id r, s.lookup (.agentProductionStage id) = some r →
    ∃ r', s'.lookup (.agentProductionStage id) = some r' ∧ (r' = r ∨ c.Moves r r')

def stageContract : Contract RowKey StageCall Row Unit where
  inv _ := True
  row c := c.rowWrites
  post c _ _ s s' := StagePost c s s'

variable {c : StageCall} {locks : List RowKey} {ws : List (Sigma Row)} {s : Store}

theorem raises_stage : stageContract.Raises (·.isStage = true) stageVersion := by
  intro c k r r' hK hrow
  cases c with
  | appendGraph => exact absurd (hrow hK) (by simp)
  | _ => exact hrow hK r rfl

theorem StageCall.rowMoves_raises (c : StageCall) (k : RowKey) (r r' : Row k)
    (hK : k.isStage = true) (h : c.rowMoves k r r') : stageVersion k r < stageVersion k r' := by
  cases k with
  | agentProductionStage id => exact h.1
  | _ => cases hK

theorem rowTrans_rowWrites (c : StageCall) : RowTrans c.rowWrites := by
  intro k o r r' h h'
  cases c with
  | appendGraph => exact fun hK ↦ absurd (h' hK) (by simp)
  | _ => exact fun hK r₀ hr₀ ↦ (h hK r₀ hr₀).trans (h' hK r rfl)

/-! ## What the transactions write -/

section Writes

theorem raisesStage_of_version {id : String} {r r' : AgentProductionStage}
    (h : r'.version = r.version + 1) : RaisesStage (.agentProductionStage id) (some r) r' := by
  rintro - r₀ heq
  cases heq
  show r.version < r'.version
  omega

theorem keeps_raisesStage_of_writesOnly {α : Type} {p : DbTx α}
    (h : p.WritesOnly fun k ↦ ¬k.isStage = true) : p.Keeps RaisesStage fun _ ↦ True :=
  h.imp fun _ _ _ hk hK ↦ absurd hK hk

theorem keeps_validateScope {T : ∀ k, Option (Row k) → Row k → Prop} (scope : AgentScope)
    (mayMutate : Bool) :
    (validateProductionRepositoryScope scope mayMutate).Keeps T fun _ ↦ True := by
  simp [validateProductionRepositoryScope, keeps_ite]

theorem keeps_createStages (codec : ProductionCodec) (scope : AgentScope) (graphID : String)
    (drafts : List ProductionStageDraft) :
    (createStages codec scope graphID drafts).Keeps (fun k o _ ↦ k.isStage = true → o = none)
      fun _ ↦ True := by
  induction drafts with
  | nil => simp [createStages]
  | cons draft drafts ih => simp [createStages, ih]

theorem keeps_appendProductionGraphVersion (codec : ProductionCodec) (scope : AgentScope)
    (mayMutate : Bool) (expectedVersion : ℤ) (draft : ProductionGraphDraft) (now : Time) :
    (appendProductionGraphVersion codec scope mayMutate expectedVersion draft now).Keeps
      (fun k o _ ↦ k.isStage = true → o = none) fun _ ↦ True := by
  rw [appendProductionGraphVersion]
  refine (keeps_validateScope _ _).bind fun _ ↦ (keeps_ite _ _ _).mpr ⟨by simp, fun _ ↦ ?_⟩
  cases validateProductionGraph draft with
  | error e => simp
  | ok u => simp [keeps_ite, keeps_createStages]

theorem keeps_markStagesStale (scope : AgentScope) (skips : ProductionStageStatus → Bool)
    (stages : List (String × AgentProductionStage)) :
    (markStagesStale scope skips stages).Keeps RaisesStage fun _ ↦ True := by
  induction stages with
  | nil => simp [markStagesStale]
  | cons stage stages ih =>
    obtain ⟨id, stage⟩ := stage
    simp [markStagesStale, keeps_ite, ih]
    exact fun _ r _ _ ↦ raisesStage_of_version rfl

theorem keeps_advanceProductionStageCAS (scope : AgentScope) (mayMutate : Bool) (stageID : String)
    (expectedVersion : ℤ) (next : ProductionStageStatus) :
    (advanceProductionStageCAS scope mayMutate stageID expectedVersion next).Keeps RaisesStage
      fun _ ↦ True := by
  rw [advanceProductionStageCAS]
  refine (keeps_validateScope _ _).bind fun _ ↦ (keeps_ite _ _ _).mpr ⟨by simp, fun _ ↦ ?_⟩
  rw [keeps_bind, keeps_query]
  intro v
  cases stageInScope scope stageID v with
  | none => simp
  | some current =>
    refine (keeps_ite _ _ _).mpr ⟨by simp, fun _ ↦ ?_⟩
    cases validateProductionStageStatusTransition current.status next with
    | error e => simp
    | ok u =>
      simp [keeps_ite]
      exact fun _ r _ _ _ _ ↦ raisesStage_of_version rfl

theorem readOnly_dependentStages (codec : ProductionCodec) (scope : AgentScope)
    (changedStageKey graphID : String) (graph : AgentProductionGraphVersion) :
    (dependentStages codec scope changedStageKey graphID graph).ReadOnly := by
  rw [dependentStages]
  split
  · simp
  · split
    · simp
    · simp [keeps_ite]

theorem keeps_markDependentStagesStale (codec : ProductionCodec) (scope : AgentScope)
    (mayMutate : Bool) (changedStageKey revisionID : String) :
    (markDependentStagesStale codec scope mayMutate changedStageKey revisionID).Keeps RaisesStage
      fun _ ↦ True := by
  rw [markDependentStagesStale]
  refine (keeps_validateScope _ _).bind fun _ ↦ (keeps_ite _ _ _).mpr ⟨by simp, fun _ ↦ ?_⟩
  rw [keeps_bind, keeps_first]
  refine fun revision ↦ (keeps_ite _ _ _).mpr ⟨by simp, fun _ ↦ ?_⟩
  rw [keeps_bind, keeps_query]
  intro v
  split
  · simp
  · split
    · simp
    · rw [keeps_bind, keeps_first]
      refine fun graph ↦ (keeps_ite _ _ _).mpr ⟨by simp, fun _ ↦ ?_⟩
      refine ((readOnly_dependentStages _ _ _ _ _).imp fun _ _ _ h ↦ h.elim).bind fun dependents ↦ ?_
      simp [keeps_ite, keeps_markStagesStale]
      exact fun r _ _ ↦ raisesStage_of_version rfl

theorem keeps_markForRevisionRefs (codec : ProductionCodec) (scope : AgentScope)
    (changed : List ArtifactRevisionRef) :
    (markProductionStagesStaleForRevisionRefsTx codec scope changed).Keeps RaisesStage
      fun _ ↦ True := by
  rw [markProductionStagesStaleForRevisionRefsTx, keeps_bind, keeps_query]
  intro v
  split
  · simp
  · split
    · simp
    · split
      · simp
      · simp [keeps_ite, keeps_markStagesStale]

theorem keeps_stopStages (scope : AgentScope) (stageIDs : List String) :
    (stopStages scope stageIDs).Keeps RaisesStage fun _ ↦ True := by
  induction stageIDs with
  | nil => simp [stopStages]
  | cons stageID stageIDs ih =>
    simp [stopStages, keeps_ite, ih]
    exact fun _ _ _ r _ _ _ ↦ raisesStage_of_version rfl

section Aside

@[simp] theorem isStage_agentToolCall (id : String) :
    (RowKey.agentToolCall id).isStage = false := rfl
@[simp] theorem isStage_agentSpecialistRun (id : String) :
    (RowKey.agentSpecialistRun id).isStage = false := rfl
@[simp] theorem isStage_task (id : String) : (RowKey.task id).isStage = false := rfl
@[simp] theorem isStage_billingOrder (id : String) :
    (RowKey.billingOrder id).isStage = false := rfl
@[simp] theorem isStage_creditAccount (payer : Payer) :
    (RowKey.creditAccount payer).isStage = false := rfl
@[simp] theorem isStage_creditLedgerEntry (book : Book) (id : String) :
    (RowKey.creditLedgerEntry book id).isStage = false := rfl

end Aside

theorem writes_cancelSpecialists (scope : AgentScope) (now : Time)
    (runs : List (String × AgentSpecialistRun)) :
    (cancelSpecialists scope now runs).WritesOnly fun k ↦ ¬k.isStage = true := by
  induction runs with
  | nil => simp [cancelSpecialists]
  | cons run runs ih =>
    obtain ⟨id, run⟩ := run
    rw [cancelSpecialists]
    refine Keeps.bind (by simp) fun updated ↦ (keeps_ite _ _ _).mpr ⟨by simp, fun _ ↦ ih⟩

theorem writes_cancelAgentToolCallsTx (scope : AgentScope) :
    (cancelAgentToolCallsTx scope).WritesOnly fun k ↦ ¬k.isStage = true := by
  simp only [cancelAgentToolCallsTx, keeps_bind, keeps_updateAll, pure_eq_done, keeps_done,
    implies_true, and_true]
  intro k r r' hr
  cases k with
  | agentToolCall id => simp
  | _ => cases hr

theorem readOnly_loadAgentRunTreeControlTargets (digest : String → String) (scope : AgentScope) :
    (loadAgentRunTreeControlTargets digest scope).ReadOnly := by
  simp [loadAgentRunTreeControlTargets, loadAdminAgentRunControlTargets, selectTargets]
  split <;> simp

theorem writes_disposeTarget (target : ControlTarget) (reason entryID : String) (now : Time)
    (allow : Bool) :
    (disposeTarget target reason entryID now allow).WritesOnly fun k ↦ ¬k.isStage = true := by
  simp [disposeTarget, disposeTargetBilling, disposeBillingOrder, refundBillingOrderTx, readAccount,
    createLedgerEntry, keeps_ite]

theorem writes_disposeTargets (reason : String) (entryID : String → String) (now : Time)
    (allow : Bool) (targets : List ControlTarget) :
    (disposeAdminAgentRunControlTargets reason entryID now allow targets).WritesOnly
      fun k ↦ ¬k.isStage = true := by
  induction targets with
  | nil => simp [disposeAdminAgentRunControlTargets]
  | cons target targets ih =>
    rw [disposeAdminAgentRunControlTargets]
    exact (writes_disposeTarget _ _ _ _ _).bind fun _ ↦ ih.bind fun _ ↦ by simp

theorem keeps_cancelAgentSpecialistLifecyclesTx (scope : AgentScope) (now : Time) :
    (cancelAgentSpecialistLifecyclesTx scope now).Keeps RaisesStage fun _ ↦ True := by
  rw [cancelAgentSpecialistLifecyclesTx, keeps_bind, keeps_queryForUpdate]
  exact fun _ ↦ (keeps_raisesStage_of_writesOnly (writes_cancelSpecialists _ _ _)).bind
    fun _ ↦ keeps_stopStages _ _

/-- What cancelling a tree does after the specialists. -/
theorem writes_disposal (digest : String → String) (scope : AgentScope)
    (entryID : String → String) (now : Time) :
    (do
      let targets ← loadAgentRunTreeControlTargets digest scope
      let _ ← disposeAdminAgentRunControlTargets "父 Agent 运行已终止" entryID now true targets :
        DbTx Unit).WritesOnly fun k ↦ ¬k.isStage = true :=
  Keeps.bind ((readOnly_loadAgentRunTreeControlTargets _ _).imp fun _ _ _ h ↦ h.elim) fun _ ↦
    (writes_disposeTargets _ _ _ _ _).bind fun _ ↦ by simp

theorem StageCall.keeps_prog (c : StageCall) : c.prog.Keeps c.rowWrites fun _ ↦ True := by
  cases c with
  | appendGraph => exact (keeps_appendProductionGraphVersion _ _ _ _ _ _).bind fun _ ↦ by simp
  | advance => exact keeps_advanceProductionStageCAS _ _ _ _ _
  | markDependents => exact keeps_markDependentStagesStale _ _ _ _ _
  | reviseArtifact codec scope before hbefore =>
    exact (keeps_raisesStage_of_writesOnly hbefore).bind fun _ ↦ keeps_markForRevisionRefs _ _ _
  | cancelRunTree digest scope entryID now before after hbefore hafter =>
    refine (keeps_raisesStage_of_writesOnly hbefore).bind fun _ ↦ Keeps.bind ?_ fun _ ↦
      keeps_raisesStage_of_writesOnly hafter
    exact (keeps_raisesStage_of_writesOnly (writes_cancelAgentToolCallsTx _)).bind fun _ ↦
      (keeps_cancelAgentSpecialistLifecyclesTx _ _).bind fun _ ↦
        keeps_raisesStage_of_writesOnly (writes_disposal _ _ _ _)
  | interruptRun scope now before after hbefore hafter =>
    exact (keeps_raisesStage_of_writesOnly hbefore).bind fun _ ↦
      (keeps_cancelAgentSpecialistLifecyclesTx _ _).bind fun _ ↦
        keeps_raisesStage_of_writesOnly hafter
  | other p hp => exact keeps_raisesStage_of_writesOnly hp

end Writes

/-! ## What the transactions make of stages -/

section Moves

/-- The stages the transaction has written were moved, each once. -/
abbrev MovingStages (c : StageCall) : List RowKey → List (Sigma Row) → Store → Prop :=
  Moving (·.isStage = true) c.rowMoves

/-- The stages found by a query were seen. -/
def SeenStages (stages : List (String × AgentProductionStage)) (s : Store) : Prop :=
  ∀ d ∈ stages, Seen stageVersion (.agentProductionStage d.1) d.2 s

theorem SeenStages.rely {stages : List (String × AgentProductionStage)} {t : Store}
    (h : SeenStages stages s) (ht : stageContract.Rely locks s t) : SeenStages stages t :=
  fun d hd ↦ (h d hd).rely raises_stage rfl ht

/-- An `UPDATE` of a stage that was read checks its version; the transaction goes on if it has
affected the row, and still knows the other stages it has read. -/
theorem meets_updateStage {α : Type} {id : String} {stage : AgentProductionStage}
    {cond : AgentProductionStage → Bool} {f : AgentProductionStage → AgentProductionStage}
    {stages : List (String × AgentProductionStage)} {q : DbTx α}
    {Q : α → List RowKey → List (Sigma Row) → Store → Prop}
    (hmoving : MovingStages c locks ws s)
    (hseen : SeenStages ((id, stage) :: stages) s)
    (hcond : ∀ r, cond r = true → r.version = stage.version)
    (hversion : (f stage).version = stage.version + 1) (hmove : c.Moves stage (f stage))
    (hq : ∀ locks ws s, MovingStages c locks ws s → SeenStages stages s →
      q.Meets stageContract Q locks ws s) :
    (do
      let updated ← Prog.update (.agentProductionStage id) cond fun r ↦ .ok (f r)
      if updated ≠ 1 then throw errProductionStageConflict
      q : DbTx α).Meets stageContract Q locks ws s := by
  have hraised : stage.version < (f stage).version := by omega
  have hmoved : (Prog.update (.agentProductionStage id) cond fun r ↦ .ok (f r) : DbTx ℕ).Meets
      stageContract (fun _ ↦ MovingStages c) locks ws s :=
    Moving.updateSeen c.rowMoves_raises raises_stage rfl hmoving
      (hseen (id, stage) (List.mem_cons_self ..)) hcond
      (show c.rowMoves (.agentProductionStage id) stage (f stage) from ⟨hraised, hmove⟩)
  have hupdate := hmoved.stable (P := SeenStages stages) (fun _ _ _ h ht ↦ h.rely ht)
    fun d hd ↦ hseen d (List.mem_cons_of_mem _ hd)
  rw [meets_bind]
  refine hupdate.imp fun updated _ _ _ ⟨hmoving', hseen'⟩ ↦ ?_
  exact meets_ite (fun _ ↦ (meets_fail _ _ _ _ _).mpr trivial) fun _ ↦ hq _ _ _ hmoving' hseen'

theorem meets_markStagesStale {skips : ProductionStageStatus → Bool} (scope : AgentScope)
    (hskips : ∀ status, skips status = false → status ≠ .stopped)
    (hmoves : ∀ r r', MarkedStale r r' → c.Moves r r')
    (stages : List (String × AgentProductionStage)) (hmoving : MovingStages c locks ws s)
    (hseen : SeenStages stages s) :
    (markStagesStale scope skips stages).Meets stageContract
      (fun _ locks ws s ↦ MovingStages c locks ws s) locks ws s := by
  induction stages generalizing locks ws s with
  | nil => exact meets_pure hmoving
  | cons d stages ih =>
    obtain ⟨id, stage⟩ := d
    rw [markStagesStale]
    refine meets_ite (fun _ ↦ ih hmoving fun d hd ↦ hseen d (List.mem_cons_of_mem _ hd))
      fun hstatus ↦ ?_
    rw [Bool.not_eq_true] at hstatus
    refine meets_updateStage hmoving hseen (fun r hr ↦ ?_) rfl (hmoves _ _ ⟨hskips _ hstatus, rfl⟩)
      fun _ _ _ ↦ ih
    rw [Bool.and_eq_true, decide_eq_true_eq, decide_eq_true_eq] at hr
    exact hr.2

/-- Every stage that is not over may be stopped. -/
theorem transitions_stop {stage : AgentProductionStage} (h : ¬stage.status.isFinal = true) :
    Transitions stage stage.stop := by
  rw [Transitions, AgentProductionStage.stop]
  cases hstatus : stage.status with
  | completed | failed | stopped | stale => exact absurd (by rw [hstatus]; rfl) h
  | planned | running | awaitingReview | approved => rfl

/-- A stage that was already stopped by the transaction is left alone. -/
theorem meets_stopStages (scope : AgentScope)
    (hmoves : ∀ r r', c.Moves r r' ↔ Transitions r r' ∧ r'.status = .stopped)
    (stageIDs : List String) (hmoving : MovingStages c locks ws s) :
    (stopStages scope stageIDs).Meets stageContract
      (fun _ locks ws s ↦ MovingStages c locks ws s) locks ws s := by
  induction stageIDs generalizing locks ws s with
  | nil => exact meets_pure hmoving
  | cons stageID stageIDs ih =>
    rw [stopStages, meets_bind]
    refine meets_firstForUpdate fun s₁ hs₁ stage hstage _ ↦ ?_
    have hmoving₁ : MovingStages c (locks ++ [.agentProductionStage stageID]) ws s₁ := by
      simpa using (hmoving.rely hs₁).append (List.subset_append_left _ _) (aside_nil _)
    refine meets_ite (fun _ ↦ ih hmoving₁) fun hfinal ↦ ?_
    have hcommitted : s₁.lookup (.agentProductionStage stageID) = some stage := by
      rcases hmoving₁.lookup (k := .agentProductionStage stageID) rfl with heq | ⟨r, r', -, hr', hmove⟩
      · exact heq.symm.trans hstage
      · cases hstage.symm.trans hr'
        exact absurd (((hmoves _ _).mp hmove.2).2 ▸ rfl) hfinal
    have hseen : SeenStages [(stageID, stage)] s₁ := fun d hd ↦ by
      obtain rfl := List.mem_singleton.mp hd
      exact .of_lookup hcommitted
    refine meets_updateStage hmoving₁ hseen (fun r hr ↦ ?_) rfl
      ((hmoves stage stage.stop).mpr ⟨transitions_stop hfinal, rfl⟩) fun _ _ _ h _ ↦ ih h
    rw [Bool.and_eq_true, decide_eq_true_eq] at hr
    exact hr.2

theorem meets_cancelAgentSpecialistLifecyclesTx (scope : AgentScope) (now : Time)
    (hmoves : ∀ r r', c.Moves r r' ↔ Transitions r r' ∧ r'.status = .stopped)
    (hws : Aside (·.isStage = true) ws) :
    (cancelAgentSpecialistLifecyclesTx scope now).Meets stageContract
      (fun _ locks ws s ↦ MovingStages c locks ws s) locks ws s := by
  rw [cancelAgentSpecialistLifecyclesTx, meets_bind]
  refine meets_queryForUpdate fun s₁ hs₁ ↦ ?_
  rw [meets_bind]
  refine meets_of_writesOnly (writes_cancelSpecialists _ _ _) trivial fun _ locks' ws' s₂ _ hws' _ ↦ ?_
  exact meets_stopStages scope hmoves _ (.of_aside (hws.append hws'))

/-- What was read without a lock was seen, while the transaction has written no stage. -/
theorem seen_of_view {id : String} {stage : AgentProductionStage} (hws : Aside (·.isStage = true) ws)
    (h : (s.apply ws).lookup (.agentProductionStage id) = some stage) :
    Seen stageVersion (.agentProductionStage id) stage s :=
  .of_lookup ((hws.lookup rfl s).symm.trans h)

theorem seenStages_stagesWithKeys (scope : AgentScope) (graphID : String) (stageKeys : List String)
    (hws : Aside (·.isStage = true) ws) :
    SeenStages (stagesWithKeys scope graphID stageKeys (s.apply ws)) s := by
  rintro ⟨id, stage⟩ hd
  obtain ⟨k, r, hr, hd⟩ := Db.mem_select.mp hd
  cases k with
  | agentProductionStage id' =>
    simp only [Option.ite_none_right_eq_some, Option.some.injEq, Prod.mk.injEq] at hd
    obtain ⟨-, rfl, rfl⟩ := hd
    exact seen_of_view hws hr
  | _ => simp at hd

theorem seen_latestStage {scope : AgentScope} {stageKey id : String} {stage : AgentProductionStage}
    (hws : Aside (·.isStage = true) ws)
    (h : latestStage scope stageKey (s.apply ws) = some (id, stage)) :
    Seen stageVersion (.agentProductionStage id) stage s := by
  rw [latestStage, Option.map_eq_some_iff] at h
  obtain ⟨⟨id', stage', graph⟩, hhead, heq⟩ := h
  cases heq
  obtain ⟨k, r, hr, hd⟩ := Db.mem_select.mp
    ((List.mem_insertionSort _).mp (List.mem_of_head? hhead))
  cases k with
  | agentProductionStage id' =>
    simp only [Option.ite_none_right_eq_some, Option.map_eq_some_iff, Prod.mk.injEq] at hd
    obtain ⟨-, graph', -, rfl, rfl, -⟩ := hd
    exact seen_of_view hws hr
  | _ => simp at hd

theorem meets_validated {scope : AgentScope} {mayMutate : Bool} {q : Unit → DbTx Unit}
    {Q : Unit → List RowKey → List (Sigma Row) → Store → Prop}
    (hq : (q ()).Meets stageContract Q locks ws s) :
    (validateProductionRepositoryScope scope mayMutate >>= q).Meets stageContract Q locks ws s := by
  rw [meets_bind, validateProductionRepositoryScope]
  exact meets_ite (fun _ ↦ meets_pure hq) fun _ ↦ (meets_fail _ _ _ _ _).mpr trivial

theorem meets_advance (scope : AgentScope) (mayMutate : Bool) (stageID : String)
    (expectedVersion : ℤ) (next : ProductionStageStatus) :
    (advanceProductionStageCAS scope mayMutate stageID expectedVersion next).Meets stageContract
      (fun _ ↦ MovingStages (.advance scope mayMutate stageID expectedVersion next)) [] [] s := by
  rw [advanceProductionStageCAS]
  refine meets_validated (meets_ite (fun _ ↦ (meets_fail _ _ _ _ _).mpr trivial) fun _ ↦ ?_)
  rw [meets_bind]
  refine meets_query fun s₁ hs₁ ↦ ?_
  split
  · exact (meets_fail _ _ _ _ _).mpr trivial
  · rename_i current hcurrent
    refine meets_ite (fun _ ↦ (meets_fail _ _ _ _ _).mpr trivial) fun hversion ↦ ?_
    rw [not_not] at hversion
    split
    · exact (meets_fail _ _ _ _ _).mpr trivial
    · rename_i hvalid
      refine meets_ite (fun _ ↦ (meets_fail _ _ _ _ _).mpr trivial) fun _ ↦ ?_
      have hseen : SeenStages [(stageID, current)] s₁ := fun d hd ↦ by
        obtain rfl := List.mem_singleton.mp hd
        exact .of_lookup (Option.filter_eq_some_iff.mp hcurrent).1
      have hmove : (StageCall.advance scope mayMutate stageID expectedVersion next).Moves current
          (current.advance next) := hvalid
      refine meets_updateStage (.of_aside (aside_nil _)) hseen (fun r hr ↦ ?_) rfl hmove
        fun _ _ _ h _ ↦ meets_pure h
      rw [Bool.and_eq_true, Bool.and_eq_true, decide_eq_true_eq, decide_eq_true_eq] at hr
      exact hr.1.2.trans hversion.symm

/-- Reading the dependents leaves what was seen of the changed stage. -/
theorem meets_dependentStages (codec : ProductionCodec) (scope : AgentScope)
    (changedStageKey graphID : String) (graph : AgentProductionGraphVersion) {id : String}
    {changed : AgentProductionStage}
    (hchanged : Seen stageVersion (.agentProductionStage id) changed s) :
    (dependentStages codec scope changedStageKey graphID graph).Meets stageContract
      (fun dependents _ ws s ↦
        Aside (·.isStage = true) ws ∧ SeenStages ((id, changed) :: dependents) s) [] [] s := by
  have hseen : ∀ {s' : Store} {dependents : List (String × AgentProductionStage)},
      stageContract.Rely [] s s' → SeenStages dependents s' →
        SeenStages ((id, changed) :: dependents) s' := by
    intro s' dependents hs' hdependents d hd
    rcases List.mem_cons.mp hd with rfl | hd
    · exact hchanged.rely raises_stage rfl hs'
    · exact hdependents d hd
  rw [dependentStages]
  split
  · exact (meets_fail _ _ _ _ _).mpr trivial
  · split
    · exact (meets_fail _ _ _ _ _).mpr trivial
    · refine meets_ite (fun _ ↦ meets_pure ⟨aside_nil _, hseen (.refl trivial) (by simp [SeenStages])⟩)
        fun _ ↦ ?_
      rw [meets_bind]
      refine meets_query fun s₁ hs₁ ↦
        meets_ite (fun _ ↦ (meets_fail _ _ _ _ _).mpr trivial) fun _ ↦ meets_pure ?_
      exact ⟨aside_nil _, hseen hs₁ (seenStages_stagesWithKeys _ _ _ (aside_nil _))⟩

theorem meets_markDependents (codec : ProductionCodec) (scope : AgentScope) (mayMutate : Bool)
    (changedStageKey revisionID : String) :
    (markDependentStagesStale codec scope mayMutate changedStageKey revisionID).Meets stageContract
      (fun _ ↦ MovingStages (.markDependents codec scope mayMutate changedStageKey revisionID))
      [] [] s := by
  rw [markDependentStagesStale]
  refine meets_validated (meets_ite (fun _ ↦ (meets_fail _ _ _ _ _).mpr trivial) fun _ ↦ ?_)
  rw [meets_bind]
  refine meets_first fun s₁ _ revision _ ↦
    meets_ite (fun _ ↦ (meets_fail _ _ _ _ _).mpr trivial) fun _ ↦ ?_
  rw [meets_bind]
  refine meets_query fun s₂ _ ↦ ?_
  split
  · exact (meets_fail _ _ _ _ _).mpr trivial
  · rename_i changedID changed hlatest
    have hchanged : Seen stageVersion (.agentProductionStage changedID) changed s₂ :=
      seen_latestStage (aside_nil _) hlatest
    split
    · exact (meets_fail _ _ _ _ _).mpr trivial
    · rename_i hvalid
      rw [meets_bind]
      refine meets_first fun s₃ hs₃ graph _ ↦
        meets_ite (fun _ ↦ (meets_fail _ _ _ _ _).mpr trivial) fun _ ↦ ?_
      rw [meets_bind]
      refine (meets_dependentStages codec scope changedStageKey changed.graphVersionID graph
        (hchanged.rely raises_stage rfl hs₃)).imp fun dependents locks ws s₄ hdependents ↦ ?_
      obtain ⟨hws, hseen⟩ := hdependents
      have hmove : (StageCall.markDependents codec scope mayMutate changedStageKey revisionID).Moves
          changed (changed.review revisionID) := .inl hvalid
      refine meets_updateStage (.of_aside hws) hseen (fun r hr ↦ ?_) rfl hmove
        fun _ _ _ hmoving hseen' ↦ ?_
      · rw [Bool.and_eq_true, decide_eq_true_eq, decide_eq_true_eq] at hr
        exact hr.2
      · exact meets_markStagesStale scope (fun status h ↦ by simpa using h)
          (c := .markDependents codec scope mayMutate changedStageKey revisionID)
          (fun _ _ h ↦ Or.inr h) dependents hmoving hseen'

theorem meets_markForRevisionRefs (codec : ProductionCodec) (scope : AgentScope)
    (changed : List ArtifactRevisionRef) (hmoves : ∀ r r', MarkedStale r r' → c.Moves r r')
    (hws : Aside (·.isStage = true) ws) :
    (markProductionStagesStaleForRevisionRefsTx codec scope changed).Meets stageContract
      (fun _ ↦ MovingStages c) locks ws s := by
  rw [markProductionStagesStaleForRevisionRefsTx, meets_bind]
  refine meets_query fun s₁ _ ↦ ?_
  split
  · exact meets_pure (.of_aside hws)
  · split
    · exact (meets_fail _ _ _ _ _).mpr trivial
    · split
      · exact (meets_fail _ _ _ _ _).mpr trivial
      · refine meets_ite (fun _ ↦ meets_pure (.of_aside hws)) fun _ ↦ ?_
        rw [meets_bind]
        refine meets_query fun s₂ _ ↦
          meets_ite (fun _ ↦ (meets_fail _ _ _ _ _).mpr trivial) fun _ ↦ ?_
        refine meets_markStagesStale scope (fun status h ↦ ?_) hmoves _ (.of_aside hws)
          (seenStages_stagesWithKeys _ _ _ hws)
        rw [decide_eq_false_iff_not, not_or] at h
        exact h.1

end Moves

/-! ## Runs -/

section Runs

variable {cfg : Config StageCall Row RepoError Unit}

theorem StageCall.commits_of_moving (h : MovingStages c locks ws s) :
    Commits (.free StageCall.prog) stageContract c () locks ws s := by
  intro t ht _ _ _
  refine ⟨fun id r hr ↦ ?_, trivial⟩
  obtain ⟨r', hr', hmove⟩ := (h.rely ht).moved.moved (.agentProductionStage id) r rfl hr
  exact ⟨r', hr', hmove.imp_right And.right⟩

/-- A transaction that ends in moved stages meets the contract. -/
theorem StageCall.meets_of_moving {p : DbTx Unit}
    (h : p.Meets stageContract (fun _ ↦ MovingStages c) locks ws s) :
    p.Meets stageContract (Commits (.free StageCall.prog) stageContract c) locks ws s :=
  h.imp fun _ _ _ _ ↦ commits_of_moving

/-- **Every call meets the contract.** -/
theorem StageCall.meets_prog (c : StageCall) (s : Store) :
    c.prog.Meets stageContract (Commits (.free StageCall.prog) stageContract c) [] [] s := by
  cases c with
  | appendGraph codec scope mayMutate expectedVersion draft now =>
    refine meets_of_rely trivial fun _ _ _ _ _ _ t _ _ _ hrow ↦ ⟨fun id r hr ↦ ?_, trivial⟩
    rcases hrow (.agentProductionStage id) with heq | ⟨r', -, hnew⟩
    · exact ⟨r, heq.trans hr, .inl rfl⟩
    · exact absurd (hr.symm.trans (hnew rfl)) (by simp)
  | advance scope mayMutate stageID expectedVersion next =>
    exact meets_of_moving (meets_advance _ _ _ _ _)
  | markDependents codec scope mayMutate changedStageKey revisionID =>
    exact meets_of_moving (meets_markDependents _ _ _ _ _)
  | reviseArtifact codec scope before hbefore =>
    rw [prog, meets_bind]
    refine meets_of_writesOnly hbefore trivial fun changed _ ws _ _ hws _ ↦ meets_of_moving ?_
    exact meets_markForRevisionRefs codec scope changed (fun _ _ h ↦ h) hws
  | cancelRunTree digest scope entryID now before after hbefore hafter =>
    rw [prog, meets_bind]
    refine meets_of_writesOnly hbefore trivial fun _ _ ws₁ _ _ hws₁ _ ↦ meets_of_moving ?_
    rw [cancelAgentRunTreeTx, meets_bind, meets_bind]
    refine meets_of_writesOnly (writes_cancelAgentToolCallsTx _) trivial fun _ _ ws₂ _ _ hws₂ _ ↦ ?_
    rw [meets_bind]
    refine (meets_cancelAgentSpecialistLifecyclesTx
      (c := .cancelRunTree digest scope entryID now before after hbefore hafter) scope now
      (fun _ _ ↦ .rfl) (Aside.append (K := fun k : RowKey ↦ k.isStage = true) hws₁ hws₂)).imp
        fun _ _ _ _ hmoving ↦ ?_
    exact (hmoving.tail trivial (writes_disposal digest scope entryID now)).imp
      fun _ _ _ _ hmoving' ↦ hmoving'.tail trivial hafter
  | interruptRun scope now before after hbefore hafter =>
    rw [prog, meets_bind]
    refine meets_of_writesOnly hbefore trivial fun _ _ ws _ _ hws _ ↦ meets_of_moving ?_
    rw [meets_bind]
    exact (meets_cancelAgentSpecialistLifecyclesTx
      (c := .interruptRun scope now before after hbefore hafter) scope now
      (fun _ _ ↦ .rfl) hws).imp fun _ _ _ _ hmoving ↦ hmoving.tail trivial hafter
  | other p hp => exact meets_of_moving ((Moving.of_aside (aside_nil _)).tail trivial hp)

/-- A stage was left alone, or its status was changed as the table says, or the call marked it
stale. -/
def FollowsTable (e : Ended StageCall Row Unit) (r r' : AgentProductionStage) : Prop :=
  r'.status = r.status ∨ Transitions r r' ∨ e.call.MarksStale ∧ MarkedStale r r'

theorem StageCall.followsTable_of_moves {e : Ended StageCall Row Unit}
    {r r' : AgentProductionStage} (h : e.call.Moves r r') : FollowsTable e r r' := by
  rw [FollowsTable]
  cases hc : e.call with
  | appendGraph | other =>
    rw [hc] at h
    exact h.elim
  | advance =>
    rw [hc] at h
    exact .inr (.inl h)
  | markDependents =>
    rw [hc] at h
    exact .inr (h.imp_right fun h ↦ ⟨trivial, h⟩)
  | reviseArtifact =>
    rw [hc] at h
    exact .inr (.inr ⟨trivial, h⟩)
  | cancelRunTree | interruptRun =>
    rw [hc] at h
    exact .inr (.inl h.1)

/-- **The statuses of stages follow their table, but for stages marked stale**, in every run. -/
theorem stages_follow_table (h : Reach (.free StageCall.prog) (.init s) cfg) :
    ∀ e ∈ cfg.log, ∀ id r, e.before.lookup (.agentProductionStage id) = some r →
      ∃ r', e.after.lookup (.agentProductionStage id) = some r' ∧ FollowsTable e r r' := by
  have hok : Contract.Ok (.free StageCall.prog) stageContract cfg :=
    Contract.sound rowTrans_rowWrites StageCall.keeps_prog (fun c s _ ↦ c.meets_prog s) trivial h
  intro e he id r hr
  have hful := hok.log e he
  rw [Contract.Fulfilled] at hful
  cases hres : e.result with
  | none =>
    rw [hres] at hful
    exact ⟨r, hful ▸ hr, .inl rfl⟩
  | some a =>
    rw [hres] at hful
    obtain ⟨_, hcommit⟩ := hful
    obtain ⟨r', hr', rfl | hmoves⟩ := hcommit.post id r hr
    · exact ⟨r', hr', .inl rfl⟩
    · exact ⟨r', hr', StageCall.followsTable_of_moves hmoves⟩

end Runs

/-! ## A stage that was never started -/

namespace StageExample

def scope : AgentScope := ⟨"personal", "u", "t", "r", "u", "d", "c"⟩

/-- A graph of one stage, which uses one revision of an artifact. -/
def draft : ProductionStageDraft := ProductionGraphExample.stage "script" [] [⟨"brief", "brief-1"⟩]

def codec : ProductionCodec := ⟨fun _ ↦ "", fun _ ↦ some [draft], fun _ ↦ some [draft], fun _ ↦ ""⟩

def planned : AgentProductionStage := plannedStage scope "g" draft

def stored : Store :=
  AList.insert (.agentProductionGraphVersion "g") ⟨scope, "film", 1, "", 0⟩ <|
    AList.insert (.agentProductionStage "s") planned ∅

/-- The revision the stage uses is replaced. -/
def revise : StageCall := .reviseArtifact codec scope (pure [⟨"brief", "brief-1"⟩]) (by simp)

/-- The stage is started. -/
def start : StageCall := .advance scope true "s" 1 .running

end StageExample

open StageExample in
theorem stages_follow_table_start :
    ∃ cfg, Reach (.free StageCall.prog) (.init stored) cfg ∧ cfg.log.length = 1 ∧
      ∀ e ∈ cfg.log, ∀ id r, e.before.lookup (.agentProductionStage id) = some r →
        ∃ r', e.after.lookup (.agentProductionStage id) = some r' ∧ FollowsTable e r r' := by
  have hrun : ∃ r, start.prog.run stored = .ok r := ⟨_, rfl⟩
  obtain ⟨⟨a, s⟩, hrun⟩ := hrun
  have hreach : Reach (.free StageCall.prog) (.init stored) ⟨s, ∅, _⟩ :=
    reach_of_run (c := start) (fun _ ↦ trivial) hrun
  exact ⟨_, hreach, rfl, stages_follow_table hreach⟩

open StageExample in
/-- A stage that uses a revision becomes stale when the revision is replaced. -/
theorem staleStages_script :
    staleStagesForRevisionChanges ⟨"film", [draft]⟩ [⟨"brief", "brief-1"⟩] = .ok ["script"] := by
  have hedges : (ProductionGraphDraft.mk "film" [draft]).edges = [] := rfl
  have hstageKeys : (ProductionGraphDraft.mk "film" [draft]).stageKeys = ["script"] := rfl
  have hvalid : validateProductionGraph ⟨"film", [draft]⟩ = .ok () := by
    have hcheck : (ProductionGraphDraft.mk "film" [draft]).check = .ok () := by decide
    have hvisited : Graph.drain (ProductionGraphDraft.mk "film" [draft]).edges
        (Graph.incoming (ProductionGraphDraft.mk "film" [draft]).edges)
        ((ProductionGraphDraft.mk "film" [draft]).stageKeys.filter fun stageKey ↦
          Graph.incoming (ProductionGraphDraft.mk "film" [draft]).edges stageKey = 0) 0 = 1 := by
      simp [hedges, hstageKeys, Graph.drain, Graph.release, Graph.next, Graph.incoming]
    rw [validateProductionGraph, hcheck]
    exact if_neg (not_not.mpr hvisited)
  have hchanged : checkChanged (fun _ ↦ true) [⟨"brief", "brief-1"⟩] = .ok () := by decide
  have hstages : (ProductionGraphDraft.mk "film" [draft]).changedStages [⟨"brief", "brief-1"⟩] =
      ["script"] := rfl
  rw [staleStagesForRevisionChanges, hvalid, hchanged, hstages, hedges, hstageKeys]
  simp [Graph.push, Graph.spread, Graph.next]
  rfl

open StageExample in
/-- **A stage becomes stale without having been started.** -/
theorem exists_change_off_table :
    ∃ cfg, Reach (.free StageCall.prog) (.init stored) cfg ∧ ∃ e ∈ cfg.log, ∃ id r r',
      e.before.lookup (.agentProductionStage id) = some r ∧
      e.after.lookup (.agentProductionStage id) = some r' ∧ r'.status ≠ r.status ∧
      ¬Transitions r r' := by
  have hrun : ∃ s, revise.prog.run stored = .ok ((), s) ∧
      s.lookup (.agentProductionStage "s") = some planned.markStale := by
    have hgraph : latestGraph scope stored = some ("g", ⟨scope, "film", 1, "", 0⟩) := by decide
    have hfound : stagesWithKeys scope "g" ["script"] stored = [("s", planned)] := by decide
    show ∃ s, (markProductionStagesStaleForRevisionRefsTx codec scope
      [⟨"brief", "brief-1"⟩]).run stored = .ok ((), s) ∧ _
    rw [markProductionStagesStaleForRevisionRefsTx, run_query_bind, hgraph]
    simp only [codec, staleStages_script, reduceCtorEq, if_false]
    rw [run_query_bind, hfound]
    exact ⟨_, rfl, rfl⟩
  obtain ⟨s, hrun, hmarked⟩ := hrun
  have hreach : Reach (.free StageCall.prog) (.init stored) ⟨s, ∅, _⟩ :=
    reach_of_run (c := revise) (fun _ ↦ trivial) hrun
  refine ⟨_, hreach, _, List.mem_singleton_self _, "s", planned, planned.markStale, rfl, hmarked, ?_⟩
  exact ⟨by decide, by rw [Transitions]; decide⟩

end HMaigc
