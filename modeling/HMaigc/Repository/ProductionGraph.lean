import HMaigc.Agent.ProductionGraph
import HMaigc.Repository.AgentTree

/-!
# Storing production graphs

`repository/agent_production_graph.go`: a graph is stored in versions that never change, each with a
row for every stage, and the rows of the stages change their status.  A change is made by an
`UPDATE` that checks the version of the row that was read.
-/

set_option autoImplicit false

namespace HMaigc

open Sql Go AgentRuntime

def errProductionScopeInvalid : RepoError := .text "production scope is invalid"

def errProductionGraphVersionConflict : RepoError := .text "production graph version conflict"

def errProductionRuntimeSnapshotInvalid : RepoError := .text "production runtime snapshot is invalid"

def errProductionStageInputInvalid : RepoError := .text "production stage input is invalid"

/-- The error that the errors of a graph wrap. -/
def AgentRuntime.ProductionGraphError.repoError : ProductionGraphError → RepoError
  | .graphInvalid _ => .text "production graph is invalid"
  | .graphCycle => .text "production graph contains a cycle"
  | .revisionGraphInvalid => .text "revision dependency graph is invalid"
  | .revisionGraphCycle => .text "revision dependency graph contains a cycle"

/-- `json.Marshal` of stages, `json.Unmarshal` and the stricter `decodeProductionSnapshotJSON`, and
`agentFactID`, a hash. -/
structure ProductionCodec where
  marshal : List ProductionStageDraft → String
  unmarshal : String → Option (List ProductionStageDraft)
  decodeSnapshot : String → Option (List ProductionStageDraft)
  factID : List String → String

/-- `Scope.Validate`, but for the level of access. -/
def AgentScope.isValid (scope : AgentScope) : Bool :=
  (scope.tenantKind = "personal" || scope.tenantKind = "team") &&
    !isBlank scope.tenantID && !isBlank scope.actorUserID &&
    !(scope.tenantKind = "personal" && scope.tenantID ≠ scope.actorUserID) &&
    !isBlank scope.canvasID && !isBlank scope.threadID && !isBlank scope.runID

/-- The identifiers of a scope as its rows have them. -/
def AgentScope.isStorable (scope : AgentScope) : Bool :=
  [scope.tenantID, scope.actorUserID, scope.domainProjectID, scope.canvasID, scope.threadID,
    scope.runID].all fun value ↦ trimSpace value = value && value ≠ "" && value.utf8ByteSize ≤ 80

/-- `validateProductionRepositoryScope` before a change; `mayMutate` says what access the scope
grants. -/
def validateProductionRepositoryScope (scope : AgentScope) (mayMutate : Bool) : DbTx Unit :=
  if scope.isValid ∧ scope.isStorable ∧ mayMutate then pure ()
  else throw errProductionScopeInvalid

/-! ## A new version -/

/-- `validateArtifactRevisionRefsInScope`: the references found among the rows. -/
def revisionRefsInScope (scope : AgentScope) (references : List ArtifactRevisionRef) (s : Store) :
    Bool :=
  references = [] ||
    (s.count fun
      | .agentArtifactRevision id, revision =>
        revision.scope = scope && id ∈ references.map (·.revisionID)
      | _, _ => false) = references.length &&
    references.all fun reference ↦
      (s.lookup (.agentArtifactRevision reference.revisionID)).any fun revision ↦
        revision.scope = scope && revision.artifactID = reference.artifactID

/-- `productionGraphVersionID`. -/
def productionGraphVersionID (codec : ProductionCodec) (scope : AgentScope) (graphKey : String)
    (version : ℤ) : String :=
  codec.factID ["production-graph-version", scope.tenantKind, scope.tenantID, scope.actorUserID,
    scope.domainProjectID, scope.canvasID, scope.threadID, scope.runID, graphKey, toString version]

/-- The latest version of the graph in the scope, zero where there is none. -/
def currentGraphVersion (scope : AgentScope) (graphKey : String) (s : Store) : ℤ :=
  (s.select fun
    | .agentProductionGraphVersion _, graph =>
      if graph.scope = scope ∧ graph.graphKey = graphKey then some graph.version else none
    | _, _ => none).foldr max 0

/-- The unique index of graph versions; the actor is not in it. -/
def AgentProductionGraphVersion.isTaken (graph : AgentProductionGraphVersion) (s : Store) : Bool :=
  s.any fun
    | .agentProductionGraphVersion _, other =>
      { other.scope with actorUserID := graph.scope.actorUserID } = graph.scope &&
        other.graphKey = graph.graphKey && other.version = graph.version
    | _, _ => false

/-- The unique index of stages. -/
def AgentProductionStage.isTaken (stage : AgentProductionStage) (s : Store) : Bool :=
  s.any fun
    | .agentProductionStage _, other =>
      other.graphVersionID = stage.graphVersionID && other.stageKey = stage.stageKey
    | _, _ => false

/-- A stage that was drafted. -/
def plannedStage (scope : AgentScope) (graphVersionID : String) (draft : ProductionStageDraft) :
    AgentProductionStage where
  scope := scope
  graphVersionID := graphVersionID
  stageKey := draft.stageKey
  status := .planned
  version := 1

def createStages (codec : ProductionCodec) (scope : AgentScope) (graphVersionID : String) :
    List ProductionStageDraft → DbTx Unit
  | [] => pure ()
  | draft :: drafts => do
    let stage := plannedStage scope graphVersionID draft
    Prog.create
      (.agentProductionStage (codec.factID ["production-stage", graphVersionID, draft.stageKey]))
      stage errProductionGraphVersionConflict [] stage.isTaken
    createStages codec scope graphVersionID drafts

/-- `AppendProductionGraphVersion`; the result is the identifier of the graph. -/
def appendProductionGraphVersion (codec : ProductionCodec) (scope : AgentScope) (mayMutate : Bool)
    (expectedVersion : ℤ) (draft : ProductionGraphDraft) (now : Time) : DbTx String := do
  validateProductionRepositoryScope scope mayMutate
  if expectedVersion < 0 then throw errProductionGraphVersionConflict
  match validateProductionGraph draft with
  | .error e => throw e.repoError
  | .ok () =>
    let graphID := productionGraphVersionID codec scope draft.graphKey (expectedVersion + 1)
    let graph : AgentProductionGraphVersion :=
      { scope, graphKey := draft.graphKey, version := expectedVersion + 1
        stagesJSON := codec.marshal draft.stages, createdAt := now }
    -- `uniqueArtifactRevisionRefs`
    let references := (draft.stages.flatMap (·.inputRevisions)).dedup
    if !(← Prog.query (revisionRefsInScope scope references)) then throw .recordNotFound
    let currentVersion ← Prog.query (currentGraphVersion scope draft.graphKey)
    if currentVersion ≠ expectedVersion then throw errProductionGraphVersionConflict
    Prog.create (.agentProductionGraphVersion graphID) graph errProductionGraphVersionConflict []
      graph.isTaken
    createStages codec scope graphID draft.stages
    return graphID

/-! ## Changes of a stage -/

/-- The columns `AdvanceProductionStageCAS` sets. -/
def AgentProductionStage.advance (stage : AgentProductionStage) (next : ProductionStageStatus) :
    AgentProductionStage :=
  { stage with
    status := next
    version := stage.version + 1 }

/-- The columns submitting a revision for review sets. -/
def AgentProductionStage.review (stage : AgentProductionStage) (revisionID : String) :
    AgentProductionStage :=
  { stage with
    status := .awaitingReview
    version := stage.version + 1
    reviewRevisionID := revisionID
    lastErrorCode := "" }

/-- The columns marking a stage stale sets. -/
def AgentProductionStage.markStale (stage : AgentProductionStage) : AgentProductionStage :=
  { stage with
    status := .stale
    version := stage.version + 1
    reviewRevisionID := ""
    lastErrorCode := "" }

/-- The stage as a plain `SELECT` in the scope finds it. -/
def stageInScope (scope : AgentScope) (stageID : String) (s : Store) :
    Option AgentProductionStage :=
  (s.lookup (.agentProductionStage stageID)).filter fun stage ↦ stage.scope = scope

/-- `AdvanceProductionStageCAS`. -/
def advanceProductionStageCAS (scope : AgentScope) (mayMutate : Bool) (stageID : String)
    (expectedVersion : ℤ) (next : ProductionStageStatus) : DbTx Unit := do
  validateProductionRepositoryScope scope mayMutate
  if trimSpace stageID ≠ stageID ∨ stageID = "" ∨ stageID.utf8ByteSize > 80 ∨
      expectedVersion < 1 then
    throw errProductionStageInputInvalid
  match ← Prog.query (stageInScope scope stageID) with
  | none => throw errProductionStageConflict
  | some current =>
    if current.version ≠ expectedVersion then throw errProductionStageConflict
    match validateProductionStageStatusTransition current.status next with
    | .error e => throw (.text e)
    | .ok () =>
      if next = .awaitingReview ∨ (current.status = .awaitingReview ∧ next ≠ .stopped) then
        throw errProductionStageInputInvalid
      let updated ← Prog.update (.agentProductionStage stageID)
        (fun r ↦ r.scope = scope && r.version = expectedVersion && r.status = current.status)
        fun r ↦ .ok (r.advance next)
      if updated ≠ 1 then throw errProductionStageConflict

/-! ## Marking stages stale -/

/-- The stages of a graph with these keys. -/
def stagesWithKeys (scope : AgentScope) (graphVersionID : String) (stageKeys : List String)
    (s : Store) : List (String × AgentProductionStage) :=
  s.select fun
    | .agentProductionStage id, stage =>
      if stage.scope = scope ∧ stage.graphVersionID = graphVersionID ∧
          stage.stageKey ∈ stageKeys then
        some (id, stage)
      else none
    | _, _ => none

/-- The loops over the stages that became stale; `skips` are the statuses a loop leaves. -/
def markStagesStale (scope : AgentScope) (skips : ProductionStageStatus → Bool) :
    List (String × AgentProductionStage) → DbTx Unit
  | [] => pure ()
  | (id, stage) :: stages => do
    if skips stage.status then
      markStagesStale scope skips stages
    else
      let updated ← Prog.update (.agentProductionStage id)
        (fun r ↦ r.scope = scope && r.version = stage.version) fun r ↦ .ok r.markStale
      if updated ≠ 1 then throw errProductionStageConflict
      markStagesStale scope skips stages

/-- A stage with the graph it belongs to. -/
abbrev StageOfGraph : Type := String × AgentProductionStage × AgentProductionGraphVersion

/-- `ORDER BY` the graph's creation and its version, both descending, and the stage's key. -/
def laterGraphFirst (a b : StageOfGraph) : Prop :=
  b.2.2.createdAt < a.2.2.createdAt ∨ b.2.2.createdAt = a.2.2.createdAt ∧
    (b.2.2.version < a.2.2.version ∨ b.2.2.version = a.2.2.version ∧ ¬b.1 < a.1)

instance : DecidableRel laterGraphFirst := fun _ _ ↦ inferInstanceAs (Decidable (_ ∨ _))

/-- The stage with the key, in the latest graph that has one. -/
def latestStage (scope : AgentScope) (stageKey : String) (s : Store) :
    Option (String × AgentProductionStage) :=
  ((s.select fun
    | .agentProductionStage id, stage =>
      if stage.scope = scope ∧ stage.stageKey = stageKey then
        (s.lookup (.agentProductionGraphVersion stage.graphVersionID)).map fun graph ↦
          (id, stage, graph)
      else none
    | _, _ => none).insertionSort laterGraphFirst).head?.map fun found ↦ (found.1, found.2.1)

/-- The dependents of the changed stage, read by `MarkDependentStagesStale`. -/
def dependentStages (codec : ProductionCodec) (scope : AgentScope) (changedStageKey : String)
    (graphID : String) (graph : AgentProductionGraphVersion) :
    DbTx (List (String × AgentProductionStage)) :=
  match codec.unmarshal graph.stagesJSON with
  | none => throw (.text "decode production graph stages")
  | some stages =>
    match staleDependentStages ⟨graph.graphKey, stages⟩ changedStageKey with
    | .error e => throw e.repoError
    | .ok staleStageKeys => do
      if staleStageKeys = [] then
        return []
      let dependents ← Prog.query (stagesWithKeys scope graphID staleStageKeys)
      if dependents.length ≠ staleStageKeys.length then throw errProductionStageConflict
      return dependents

/-- `MarkDependentStagesStale`. -/
def markDependentStagesStale (codec : ProductionCodec) (scope : AgentScope) (mayMutate : Bool)
    (changedStageKey revisionID : String) : DbTx Unit := do
  validateProductionRepositoryScope scope mayMutate
  if ¬(validKey changedStageKey ∧ trimSpace revisionID = revisionID ∧ revisionID ≠ "" ∧
      revisionID.utf8ByteSize ≤ 80) then
    throw errProductionStageInputInvalid
  let revision ← first (.agentArtifactRevision revisionID)
  if revision.scope ≠ scope then throw .recordNotFound
  match ← Prog.query (latestStage scope changedStageKey) with
  | none => throw .recordNotFound
  | some (changedID, changed) =>
    match validateProductionStageStatusTransition changed.status .awaitingReview with
    | .error e => throw (.text e)
    | .ok () =>
      let graph ← first (.agentProductionGraphVersion changed.graphVersionID)
      if graph.scope ≠ scope then throw .recordNotFound
      let dependents ← dependentStages codec scope changedStageKey changed.graphVersionID graph
      let updated ← Prog.update (.agentProductionStage changedID)
        (fun r ↦ r.scope = scope && r.version = changed.version) fun r ↦ .ok (r.review revisionID)
      if updated ≠ 1 then throw errProductionStageConflict
      markStagesStale scope (· = .stopped) dependents

/-- `ORDER BY version DESC`, and the key. -/
def laterVersionFirst (a b : String × AgentProductionGraphVersion) : Prop :=
  b.2.version < a.2.version ∨ b.2.version = a.2.version ∧ ¬b.1 < a.1

instance : DecidableRel laterVersionFirst := fun _ _ ↦ inferInstanceAs (Decidable (_ ∨ _))

def latestGraph (scope : AgentScope) (s : Store) : Option (String × AgentProductionGraphVersion) :=
  ((s.select fun
    | .agentProductionGraphVersion id, graph =>
      if graph.scope = scope then some (id, graph) else none
    | _, _ => none).insertionSort laterVersionFirst).head?

/-- `markProductionStagesStaleForRevisionRefsTx`. -/
def markProductionStagesStaleForRevisionRefsTx (codec : ProductionCodec) (scope : AgentScope)
    (changed : List ArtifactRevisionRef) : DbTx Unit := do
  match ← Prog.query (latestGraph scope) with
  | none => return
  | some (graphID, graph) =>
    match codec.decodeSnapshot graph.stagesJSON with
    | none => throw errProductionRuntimeSnapshotInvalid
    | some stageDrafts =>
      match staleStagesForRevisionChanges ⟨graph.graphKey, stageDrafts⟩ changed with
      | .error e => throw e.repoError
      | .ok staleStageKeys =>
        if staleStageKeys = [] then
          return
        let stages ← Prog.query (stagesWithKeys scope graphID staleStageKeys)
        if stages.length ≠ staleStageKeys.length then throw errProductionStageConflict
        markStagesStale scope (fun status ↦ status = .stopped ∨ status = .stale) stages

end HMaigc
