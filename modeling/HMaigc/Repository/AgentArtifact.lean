import HMaigc.Repository.ProductionGraph
import HMaigc.Repository.Task

/-!
# Storing artifact revisions

`repository/agent_artifact.go` and `FinalizeMediaAssembly`: an artifact has revisions that never
change but for their review, and a head, which is the revision that was adopted last.

* `ArtifactStore` — the rows of one scope, and which revisions were adopted.
* `appendArtifactRevisionTx` — the next revision is adopted, over the head the caller expects; the
  revisions that depend on the old head are stale from then on.
* `appendUnadoptedArtifactRevisionTx` — a revision is stored beside the head.
* `appendArtifactRevisionOnce` — the first revision, or the one that is stored already.

The `JSON` of upstream revisions is kept decoded.  Times are only checked for being set.
-/

set_option autoImplicit false

namespace HMaigc.Artifacts

open Sql Go AgentRuntime

def errArtifactRevisionConflict : RepoError := .text "artifact revision conflict"

def errArtifactUpstreamRevisionStale : RepoError := .text "artifact upstream revision is stale"

def errArtifactDraftInvalid : RepoError := .text "artifact draft is invalid"

def errArtifactPayloadInvalid : RepoError := .text "artifact payload is invalid"

def errArtifactRevisionInvalid : RepoError := .text "artifact revision reference is invalid"

/-! ## Rows -/

structure ArtifactDraft where
  artifactKey : String
  kind : String
  schemaVersion : ℤ
  payload : String
  resourceID : String := ""
  upstreamRevisions : List ArtifactRevisionRef := []
  modelRequestIdentity : String := ""
  /-- `json.Marshal` of the skill versions. -/
  skillVersionsJSON : String := "[]"

inductive ArtifactLifecycle
  | active | unadopted
  deriving DecidableEq

inductive RevisionLifecycle
  | awaitingReview | unadopted | stale
  deriving DecidableEq

structure Artifact where
  id : String
  artifactKey : String
  kind : String
  headRevision : ℤ
  lifecycle : ArtifactLifecycle
  version : ℤ

structure Revision where
  id : String
  artifactID : String
  revision : ℤ
  artifactKey : String
  kind : String
  schemaVersion : ℤ
  payload : String
  resourceID : String
  upstreamRevisions : List ArtifactRevisionRef
  modelRequestIdentity : String
  skillVersionsJSON : String
  createdBySpecialistID : String
  lifecycle : RevisionLifecycle

def Revision.ref (revision : Revision) : ArtifactRevisionRef :=
  ⟨revision.artifactID, revision.id⟩

def Revision.node (revision : Revision) : RevisionDependencyNode :=
  ⟨revision.ref, some revision.upstreamRevisions⟩

/-- `AgentCharacterIdentityVersion`; whether its status is `current`. -/
structure CharacterIdentityVersion where
  id : String
  characterBibleRevisionID : String
  current : Bool

/-- `AgentShotBindingRevision`, likewise. -/
structure ShotBindingRevision where
  shotKey : String
  characterKey : String
  identityVersionID : String
  shotArtifactRevisionID : String
  current : Bool

/-- The rows of a scope.  Shot bindings are in the order in which they are read: a later one of a
shot and a character replaces an earlier one. -/
structure ArtifactStore where
  artifacts : List Artifact
  revisions : List Revision
  identities : List CharacterIdentityVersion
  bindings : List ShotBindingRevision
  /-- The production graphs and their stages. -/
  production : Store
  tasks : String → Option Task
  /-- The artifacts and numbers of the revisions that were adopted, the last one first. -/
  adopted : List (String × ℤ)

/-- What is read besides the rows: the scope and the access it grants, the checks of a payload, the
encoding of a task's result, and `agentFactID`, whose values are 64 hexadecimal digits. -/
structure ArtifactContext where
  scope : AgentScope
  mayMutate : Bool
  /-- The payload is a JSON object of at most a megabyte. -/
  isPayload : String → Bool
  /-- `validateKnownArtifactPayload`, and the check of the skill versions. -/
  checkContent : ArtifactDraft → Except RepoError Unit
  marshalResult : String → String → ArtifactRevisionRef → String
  codec : ProductionCodec
  validKey_factID : ∀ parts, validKey (codec.factID parts) = true

/-- `productionArtifactRevisionID`. -/
def ArtifactContext.revisionID (context : ArtifactContext) (artifactID : String) (revision : ℤ) :
    String :=
  let scope := context.scope
  context.codec.factID ["production-artifact-revision", scope.tenantKind, scope.tenantID,
    scope.actorUserID, scope.domainProjectID, scope.canvasID, scope.threadID, scope.runID,
    artifactID, toString revision]

/-! ## Drafts -/

def isTrimmed (text : String) (most : ℕ) : Bool :=
  trimSpace text = text && text.utf8ByteSize ≤ most

def isArtifactID (artifactID : String) : Bool :=
  isTrimmed artifactID 80 && artifactID ≠ ""

def validateArtifactDraft (context : ArtifactContext) (draft : ArtifactDraft) :
    Except RepoError Unit :=
  if !isTrimmed draft.artifactKey 120 ∨ draft.artifactKey = "" ∨ !isTrimmed draft.kind 120 ∨
      draft.kind = "" ∨ draft.schemaVersion < 1 then .error errArtifactDraftInvalid
  else if !context.isPayload draft.payload then .error errArtifactPayloadInvalid
  else if !isTrimmed draft.resourceID 120 ∨ !isTrimmed draft.modelRequestIdentity 180 then
    .error errArtifactDraftInvalid
  else if !(validateArtifactRevisionRefs draft.upstreamRevisions).isOk then
    .error errArtifactRevisionInvalid
  else context.checkContent draft

def ArtifactDraft.schemaID (draft : ArtifactDraft) : String :=
  draft.kind ++ ".v" ++ toString draft.schemaVersion

/-- `artifactDraftRequiresCurrentUpstreamHeads`. -/
def ArtifactDraft.requiresCurrentUpstreamHeads (draft : ArtifactDraft) : Bool :=
  draft.schemaID ∈ ["visual_evidence.v1", "visual_consistency_review.v1",
    "media_candidate_selection.v1", "assembly_plan.v2"]

/-- The row of a draft. -/
def ArtifactDraft.revision (context : ArtifactContext) (draft : ArtifactDraft)
    (artifactID : String) (number : ℤ) (createdBySpecialistID : String)
    (lifecycle : RevisionLifecycle) : Revision where
  id := context.revisionID artifactID number
  artifactID := artifactID
  revision := number
  artifactKey := draft.artifactKey
  kind := draft.kind
  schemaVersion := draft.schemaVersion
  payload := draft.payload
  resourceID := draft.resourceID
  upstreamRevisions := draft.upstreamRevisions
  modelRequestIdentity := draft.modelRequestIdentity
  skillVersionsJSON := draft.skillVersionsJSON
  createdBySpecialistID := createdBySpecialistID
  lifecycle := lifecycle

/-- The facts that `loadExactArtifactRevisionOnceTx` compares, but for the lifecycle. -/
def Revision.hasFacts (revision : Revision) (draft : ArtifactDraft) : Bool :=
  revision.artifactKey = draft.artifactKey && revision.kind = draft.kind &&
    revision.schemaVersion = draft.schemaVersion && revision.payload = draft.payload &&
    revision.resourceID = draft.resourceID &&
    revision.upstreamRevisions = draft.upstreamRevisions &&
    revision.modelRequestIdentity = draft.modelRequestIdentity &&
    revision.skillVersionsJSON = draft.skillVersionsJSON

namespace ArtifactStore

def artifact? (s : ArtifactStore) (artifactID : String) : Option Artifact :=
  s.artifacts.find? (·.id = artifactID)

/-! ## References -/

/-- `validateArtifactRevisionRefsInScope`. -/
def refsInScope (s : ArtifactStore) (references : List ArtifactRevisionRef) : Bool :=
  references = [] ||
    (s.revisions.filter (·.id ∈ references.map (·.revisionID))).length = references.length &&
      references.all fun reference ↦
        (s.revisions.find? (·.id = reference.revisionID)).any fun revision ↦
          revision.artifactID = reference.artifactID

/-- `validateArtifactRevisionHeadsInScope`; the order in which the artifacts are locked does not
matter to what is found. -/
def refsCurrent (s : ArtifactStore) (references : List ArtifactRevisionRef) : Bool :=
  references.all fun reference ↦
    (s.artifact? reference.artifactID).any fun artifact ↦
      artifact.lifecycle = .active && 1 ≤ artifact.headRevision &&
        (s.revisions.find? (·.ref = reference)).any fun revision ↦
          revision.revision = artifact.headRevision && revision.lifecycle ≠ .stale

/-! ## What a revision depends on -/

/-- The last binding of each shot and character. -/
def latestBindings (s : ArtifactStore) : List ShotBindingRevision :=
  s.bindings.reverse.pwFilter fun binding other ↦
    binding.shotKey ++ "\x00" ++ binding.characterKey ≠
      other.shotKey ++ "\x00" ++ other.characterKey

/-- A shot depends on the identity of a character that is bound to it. -/
def bindNode (s : ArtifactStore) (nodes : List RevisionDependencyNode)
    (binding : ShotBindingRevision) : Except RepoError (List RevisionDependencyNode) :=
  if !binding.current then .ok nodes
  else match s.identities.find? (·.id = binding.identityVersionID) with
    | none => .error errProductionRuntimeSnapshotInvalid
    | some identity =>
      if !identity.current then .error errProductionRuntimeSnapshotInvalid
      else match s.revisions.find? (·.id = identity.characterBibleRevisionID) with
        | none => .error errProductionRuntimeSnapshotInvalid
        | some bible =>
          if nodes.all (·.revision.revisionID ≠ binding.shotArtifactRevisionID) then
            .error errProductionRuntimeSnapshotInvalid
          else .ok (nodes.map fun node ↦
            if node.revision.revisionID = binding.shotArtifactRevisionID ∧
                bible.ref ∉ node.dependsOn.getD [] then
              { node with dependsOn := some (node.dependsOn.getD [] ++ [bible.ref]) }
            else node)

/-- `productionRevisionDependencyNodesTx`; neither the order of the revisions nor that of the
bindings, which a map loses, matters to what is stale. -/
def dependencyNodes (s : ArtifactStore) : Except RepoError (List RevisionDependencyNode) :=
  s.latestBindings.foldlM s.bindNode (s.revisions.map Revision.node)

/-! ## Stale revisions -/

/-- The rows that are named become stale. -/
def markStale (s : ArtifactStore) (staleIDs : List String) : ArtifactStore :=
  { s with
    revisions := s.revisions.map fun revision ↦
      if revision.id ∈ staleIDs then { revision with lifecycle := .stale } else revision }

/-- `markProductionStagesStaleForRevisionRefsTx`. -/
def markStages (s : ArtifactStore) (context : ArtifactContext)
    (changed : List ArtifactRevisionRef) : Except RepoError ArtifactStore := do
  let stages := markProductionStagesStaleForRevisionRefsTx context.codec context.scope changed
  let (_, production) ← stages.run s.production
  .ok { s with production := production }

/-- The identifiers of the revisions that are named and not stale yet. -/
def newlyStale (s : ArtifactStore) (staleRefs : List ArtifactRevisionRef) : List String :=
  (staleRefs.filter fun reference ↦
    (s.revisions.find? (·.ref = reference)).all (·.lifecycle ≠ .stale)).map (·.revisionID)

/-- The end of `markArtifactRevisionClosureStaleTx`. -/
def markRefsStale (s : ArtifactStore) (context : ArtifactContext)
    (staleRefs : List ArtifactRevisionRef) : Except RepoError ArtifactStore :=
  let staleIDs := s.newlyStale staleRefs
  if staleIDs = [] then s.markStages context staleRefs
  else if (s.revisions.filter fun revision ↦
      revision.id ∈ staleIDs ∧ revision.lifecycle ≠ .stale).length ≠ staleIDs.length then
    .error (.text "mark artifact revisions stale")
  else (s.markStale staleIDs).markStages context staleRefs

/-- `markArtifactRevisionClosureStaleTx`. -/
def markClosureStale (s : ArtifactStore) (context : ArtifactContext)
    (source : ArtifactRevisionRef) : Except RepoError ArtifactStore := do
  let nodes ← s.dependencyNodes
  match staleDependentRevisions nodes [source] with
  -- The search always ends: `staleDependentRevisions_eq_some`.
  | none => .error errProductionRuntimeSnapshotInvalid
  | some (.error e) => .error e.repoError
  | some (.ok dependents) => s.markRefsStale context (source :: dependents)

/-! ## Appending -/

/-- The artifact of a draft, which is created if there is none; `idx_agent_artifact_scope_key` is
unique. -/
def openArtifact (s : ArtifactStore) (artifactID : String) (draft : ArtifactDraft)
    (lifecycle : ArtifactLifecycle) : Except RepoError (Artifact × ArtifactStore) :=
  match s.artifact? artifactID with
  | some artifact => .ok (artifact, s)
  | none =>
    if s.artifacts.any (·.artifactKey = draft.artifactKey) then .error errArtifactRevisionConflict
    else
      let artifact := ⟨artifactID, draft.artifactKey, draft.kind, 0, lifecycle, 1⟩
      .ok (artifact, { s with artifacts := s.artifacts ++ [artifact] })

/-- The update of an artifact's head. -/
def moveHead (s : ArtifactStore) (artifact : Artifact) : ArtifactStore :=
  { s with
    artifacts := s.artifacts.map fun stored ↦
      if stored.id = artifact.id then
        { stored with headRevision := artifact.headRevision + 1, version := artifact.version + 1 }
      else stored }

/-- `tx.Create` of a revision, whose identifier and number are unique. -/
def createRevision (s : ArtifactStore) (revision : Revision) : Except RepoError ArtifactStore :=
  if s.revisions.any fun stored ↦ stored.id = revision.id ||
      stored.artifactID = revision.artifactID && stored.revision = revision.revision then
    .error errArtifactRevisionConflict
  else .ok { s with revisions := s.revisions ++ [revision] }

def adopt (s : ArtifactStore) (artifactID : String) (number : ℤ) : ArtifactStore :=
  { s with adopted := (artifactID, number) :: s.adopted }

/-- What is stale when a head is replaced. -/
def replaceHead (s : ArtifactStore) (context : ArtifactContext) (artifactID : String)
    (head : ℤ) : Except RepoError ArtifactStore :=
  if 0 < head then
    match s.revisions.find? fun stored ↦
        stored.artifactID = artifactID && stored.revision = head with
    | none => .error .recordNotFound
    | some previous => s.markClosureStale context previous.ref
  else .ok s

def appendArtifactRevisionTx (s : ArtifactStore) (context : ArtifactContext)
    (artifactID : String) (expectedRevision : ℤ) (draft : ArtifactDraft)
    (createdBySpecialistID : String) : Except RepoError (Revision × ArtifactStore) :=
  if !isArtifactID artifactID ∨ expectedRevision < 0 ∨ !isTrimmed createdBySpecialistID 80 then
    .error errArtifactRevisionConflict
  else do
    validateArtifactDraft context draft
    if !s.refsInScope draft.upstreamRevisions then .error .recordNotFound
    else if draft.requiresCurrentUpstreamHeads ∧ !s.refsCurrent draft.upstreamRevisions then
      .error errArtifactUpstreamRevisionStale
    else do
      let (artifact, s) ← s.openArtifact artifactID draft .active
      if artifact.artifactKey ≠ draft.artifactKey ∨ artifact.kind ≠ draft.kind ∨
          artifact.lifecycle ≠ .active ∨ artifact.headRevision ≠ expectedRevision then
        .error errArtifactRevisionConflict
      else do
        let revision := draft.revision context artifactID (expectedRevision + 1)
          createdBySpecialistID .awaitingReview
        let s ← (s.moveHead artifact).createRevision revision
        let s ← (s.adopt artifactID (expectedRevision + 1)).replaceHead context artifactID
          expectedRevision
        .ok (revision, s)

/-- `COALESCE(MAX(revision), 0)`. -/
def maximumRevision (s : ArtifactStore) (artifactID : String) : ℤ :=
  ((s.revisions.filter (·.artifactID = artifactID)).map (·.revision)).max?.getD 0

/-- `now` is missing when it is the zero time. -/
def appendUnadoptedArtifactRevisionTx (s : ArtifactStore) (context : ArtifactContext)
    (artifactID : String) (draft : ArtifactDraft) (createdBySpecialistID : String)
    (now : Option Time) : Except RepoError (Revision × ArtifactStore) :=
  if !isArtifactID artifactID ∨ !isTrimmed createdBySpecialistID 80 ∨ now = none then
    .error errArtifactRevisionConflict
  else do
    validateArtifactDraft context draft
    if !s.refsInScope draft.upstreamRevisions then .error .recordNotFound
    else do
      let (artifact, s) ← s.openArtifact artifactID draft .unadopted
      if artifact.artifactKey ≠ draft.artifactKey ∨ artifact.kind ≠ draft.kind ∨
          artifact.version < 1 ∨ artifact.lifecycle = .unadopted ∧ artifact.headRevision ≠ 0 then
        .error errArtifactRevisionConflict
      else do
        let revision := draft.revision context artifactID (s.maximumRevision artifactID + 1)
          createdBySpecialistID .unadopted
        let s ← s.createRevision revision
        .ok (revision, s)

/-! ## The first revision -/

/-- `loadExactArtifactRevisionOnceTx`. -/
def loadExactArtifactRevisionOnce (s : ArtifactStore) (artifactID : String)
    (draft : ArtifactDraft) : Except RepoError Revision :=
  match s.revisions.find? fun stored ↦ stored.artifactID = artifactID && stored.revision = 1 with
  | none => .error .recordNotFound
  | some revision =>
    if !revision.hasFacts draft ∨ revision.lifecycle ≠ .awaitingReview then
      .error errArtifactRevisionConflict
    else .ok revision

end ArtifactStore

/-- `validateProductionRepositoryScope` before a change. -/
def ArtifactContext.isMutable (context : ArtifactContext) : Bool :=
  context.scope.isValid && context.scope.isStorable && context.mayMutate

/-- `MediaAssemblyFinalization`, but for its scope. -/
structure MediaAssemblyFinalization where
  taskID : String
  userID : String
  lease : Lease
  artifactID : String
  draft : ArtifactDraft
  resourceID : String
  planDigest : String
  planRevision : ArtifactRevisionRef
  completedAt : Option Time

/-- The checks before the transaction of `FinalizeMediaAssembly`. -/
def MediaAssemblyFinalization.isValid (context : ArtifactContext)
    (input : MediaAssemblyFinalization) : Bool :=
  input.taskID ≠ "" && input.userID = context.scope.actorUserID && input.lease.isValid &&
    input.artifactID ≠ "" && input.resourceID ≠ "" && input.planDigest ≠ "" &&
    input.planRevision.validate.isOk && input.completedAt ≠ none &&
    (validateArtifactDraft context input.draft).isOk &&
    input.draft.upstreamRevisions = [input.planRevision]

namespace ArtifactStore

def appendArtifactRevisionOnce (s : ArtifactStore) (context : ArtifactContext)
    (artifactID : String) (draft : ArtifactDraft) :
    Except RepoError (Revision × ArtifactStore) :=
  if !context.isMutable then .error errProductionScopeInvalid
  else match s.loadExactArtifactRevisionOnce artifactID draft with
    | .ok replayed => .ok (replayed, s)
    | .error .recordNotFound =>
      match s.appendArtifactRevisionTx context artifactID 0 draft "" with
      | .ok stored => .ok stored
      | .error e =>
        if e ≠ errArtifactRevisionConflict then .error e
        else do
          let replayed ← s.loadExactArtifactRevisionOnce artifactID draft
          .ok (replayed, s)
    | .error e => .error e

/-! ## Assembled media -/

/-- `assemblyPlanRevisionIsCurrentTx`. -/
def assemblyPlanRevisionIsCurrent (s : ArtifactStore) (reference : ArtifactRevisionRef) :
    Except RepoError Bool :=
  match s.revisions.find? (·.ref = reference), s.artifact? reference.artifactID with
  | some revision, some artifact =>
    .ok (revision.lifecycle ≠ .stale && artifact.lifecycle = .active &&
      artifact.headRevision = revision.revision)
  | _, _ => .error .recordNotFound

/-- The end of the task, which has stored `revision`. -/
def finishedTask (context : ArtifactContext) (input : MediaAssemblyFinalization) (task : Task)
    (planCurrent : Bool) (revision : Revision) : Task :=
  let running : Bool := task.status = .running
  { task with
    status := if running then .succeeded else .cancelled
    stage := if running then
        if planCurrent then "装配完成" else "装配完成（计划已过期，产物未采纳）"
      else "任务已取消（迟到产物未采纳）"
    resultJSON := context.marshalResult input.resourceID input.planDigest revision.ref
    progress := 100
    leaseOwner := ""
    leaseExpiresAt := none
    leaseToken := ""
    completedAt := if running then input.completedAt else task.completedAt }

def finalizeMediaAssembly (s : ArtifactStore) (context : ArtifactContext)
    (input : MediaAssemblyFinalization) : Except RepoError (Revision × ArtifactStore) :=
  if !context.isMutable then .error errProductionScopeInvalid
  else if !input.isValid context then .error errInternalTaskFactConflict
  else match (s.tasks input.taskID).filter (·.userID = input.userID) with
    | none => .error .recordNotFound
    | some task =>
      if task.audience ≠ "internal" ∨ task.executionKind ≠ "local_media_assembly" ∨
          task.type ≠ "agent_media_assembly" ∨ task.billingOrderID ≠ "" ∨
          task.projectID ≠ context.scope.canvasID then .error errInternalTaskFactConflict
      else if task.lease ≠ input.lease ∨ task.status ≠ .running ∧ task.status ≠ .cancelled then
        .error errTaskCompletionStateConflict
      else do
        let planCurrent ← s.assemblyPlanRevisionIsCurrent input.planRevision
        let (revision, s) ←
          if task.status = .cancelled ∨ planCurrent = false then
            s.appendUnadoptedArtifactRevisionTx context input.artifactID input.draft ""
              input.completedAt
          else s.appendArtifactRevisionTx context input.artifactID 0 input.draft ""
        let finished := finishedTask context input task planCurrent revision
        .ok (revision, { s with tasks := Function.update s.tasks input.taskID (some finished) })

end ArtifactStore

/-! ## Calls -/

/-- A call, which is one transaction. -/
inductive Call
  | append (artifactID : String) (expectedRevision : ℤ) (draft : ArtifactDraft)
    (createdBySpecialistID : String)
  | appendUnadopted (artifactID : String) (draft : ArtifactDraft)
    (createdBySpecialistID : String) (now : Option Time)
  | appendOnce (artifactID : String) (draft : ArtifactDraft)
  | finalize (input : MediaAssemblyFinalization)

def Call.run (context : ArtifactContext) (s : ArtifactStore) :
    Call → Except RepoError (Revision × ArtifactStore)
  | append artifactID expectedRevision draft createdBySpecialistID =>
    s.appendArtifactRevisionTx context artifactID expectedRevision draft createdBySpecialistID
  | appendUnadopted artifactID draft createdBySpecialistID now =>
    s.appendUnadoptedArtifactRevisionTx context artifactID draft createdBySpecialistID now
  | appendOnce artifactID draft => s.appendArtifactRevisionOnce context artifactID draft
  | finalize input => s.finalizeMediaAssembly context input

/-- Nothing has been made in the scope. -/
def ArtifactStore.IsNew (context : ArtifactContext) (s : ArtifactStore) : Prop :=
  s.artifacts = [] ∧ s.revisions = [] ∧ s.identities = [] ∧
    s.bindings = [] ∧ latestGraph context.scope s.production = none ∧ s.adopted = []

/-- What calls lead to; one that fails changes nothing.  Tasks are created, leased and cancelled by
others. -/
inductive Reach (context : ArtifactContext) : ArtifactStore → Prop
  | new {s : ArtifactStore} (hnew : s.IsNew context) : Reach context s
  | call {s s' : ArtifactStore} (hreach : Reach context s) (call : Call) (revision : Revision)
      (hrun : call.run context s = .ok (revision, s')) : Reach context s'
  | tasks {s : ArtifactStore} (hreach : Reach context s) (tasks : String → Option Task) :
      Reach context { s with tasks := tasks }

end HMaigc.Artifacts
