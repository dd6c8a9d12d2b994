import HMaigc.Agent.Delivery
import HMaigc.Graph.Cycle
import HMaigc.Graph.Topological
import HMaigc.Model.AgentTree

/-!
# Production graphs

`agentruntime/production_graph.go`: the stages of a production with the stages and the artifact
revisions each depends on.  A graph is validated before it is stored, and when a stage or a revision
changes, everything that depends on it is found.

* `ProductionGraphDraft.WellFormed`, `ProductionGraphDraft.Feeds` — what validation establishes of a
  graph, cycles apart, and the dependencies themselves.
* `production_graph` — **cycles are found, and what is stale is what depends on the change.**

The three traversals are those of `HMaigc.Graph`; what is proved here is that the edges handed to
them are the dependencies.
-/

set_option autoImplicit false

namespace HMaigc.AgentRuntime

open Go Graph Relation

inductive SpecialistKey where
  | narrative | asset | storyboard | visual | videoAssembly | audio | other (name : String)
  deriving DecidableEq

def SpecialistKey.valid : SpecialistKey → Bool
  | .other _ => false
  | _ => true

inductive ReviewPolicy where
  | required | other (name : String)
  deriving DecidableEq

def ReviewPolicy.valid (policy : ReviewPolicy) : Bool := policy == .required

inductive CostPolicy where
  | none | approvalRequired | other (name : String)
  deriving DecidableEq

def CostPolicy.valid (policy : CostPolicy) : Bool :=
  policy == .none || policy == .approvalRequired

structure ArtifactRevisionRef where
  artifactID : String
  revisionID : String
  deriving DecidableEq

structure ProductionStageDraft where
  stageKey : String
  specialistKey : SpecialistKey
  dependsOnStageKeys : List String
  inputRevisions : List ArtifactRevisionRef
  expectedDelivery : ExpectedDelivery
  reviewPolicy : ReviewPolicy
  costPolicy : CostPolicy
  deriving DecidableEq

structure ProductionGraphDraft where
  graphKey : String
  stages : List ProductionStageDraft
  deriving DecidableEq

/-- An immutable artifact revision with its upstream revisions; a missing list is not an empty
one. -/
structure RevisionDependencyNode where
  revision : ArtifactRevisionRef
  dependsOn : Option (List ArtifactRevisionRef)
  deriving DecidableEq

/-- `ErrArtifactRevisionInvalid`, alone or with what is wrong. -/
inductive ArtifactRevisionFault where
  | invalid
  | artifactDuplicated (artifactID : String)
  deriving DecidableEq

/-- What `ErrProductionGraphInvalid` is wrapped with. -/
inductive ProductionGraphFault where
  | graphKey
  | stageCount
  | stageKey
  | stageDuplicated (stageKey : String)
  | specialist (stageKey : String)
  | policies (stageKey : String)
  | delivery (stageKey reason : String)
  | inputRevisions (stageKey : String) (reason : ArtifactRevisionFault)
  | dependency (stageKey : String)
  | dependencyMissing (stageKey dependency : String)
  | dependencyDuplicated (stageKey dependency : String)
  | changedStageKey
  | changedStageMissing
  deriving DecidableEq

inductive ProductionGraphError where
  | graphInvalid (fault : ProductionGraphFault)
  | graphCycle
  | revisionGraphInvalid
  | revisionGraphCycle
  deriving DecidableEq

def maxProductionGraphStages : ℕ := 64

/-- A key or an id as it has to be given. -/
def validKey (key : String) : Bool :=
  trimSpace key == key && key ≠ "" && key.utf8ByteSize ≤ 120

/-! ## Validation -/

def ArtifactRevisionRef.validate (reference : ArtifactRevisionRef) :
    Except ArtifactRevisionFault Unit :=
  if ¬(validKey reference.artifactID ∧ validKey reference.revisionID) then .error .invalid
  else .ok ()

def validateArtifactRevisionRefs (references : List ArtifactRevisionRef) :
    Except ArtifactRevisionFault Unit :=
  checkUnique (·.artifactID) ArtifactRevisionRef.validate
    (fun reference ↦ .artifactDuplicated reference.artifactID) (fun _ ↦ .ok ()) [] references

namespace ProductionStageDraft

/-- What is checked of a stage once its key is known to be new. -/
def check (stage : ProductionStageDraft) : Except ProductionGraphFault Unit :=
  if !stage.specialistKey.valid then .error (.specialist stage.stageKey)
  else if !stage.reviewPolicy.valid || !stage.costPolicy.valid then
    .error (.policies stage.stageKey)
  else do
    stage.expectedDelivery.validate.mapError (.delivery stage.stageKey)
    (validateArtifactRevisionRefs stage.inputRevisions).mapError (.inputRevisions stage.stageKey)

/-- The dependencies of a stage, where the stages have these keys. -/
def checkDependencies (stageKeys : List String) (stage : ProductionStageDraft) :
    Except ProductionGraphFault Unit :=
  checkUnique id
    (fun dependency ↦
      if trimSpace dependency ≠ dependency ∨ dependency = "" ∨ dependency = stage.stageKey then
        .error (.dependency stage.stageKey)
      else if dependency ∉ stageKeys then
        .error (.dependencyMissing stage.stageKey dependency)
      else .ok ())
    (.dependencyDuplicated stage.stageKey) (fun _ ↦ .ok ()) [] stage.dependsOnStageKeys

end ProductionStageDraft

namespace ProductionGraphDraft

def stageKeys (draft : ProductionGraphDraft) : List String := draft.stages.map (·.stageKey)

/-- The dependencies, each with the stage that has it, in the order they are read. -/
def edges (draft : ProductionGraphDraft) : List (String × String) :=
  draft.stages.flatMap fun stage ↦
    stage.dependsOnStageKeys.map fun dependency ↦ (dependency, stage.stageKey)

/-- Everything that is checked before the dependencies are followed. -/
def check (draft : ProductionGraphDraft) : Except ProductionGraphFault Unit :=
  if !validKey draft.graphKey then .error .graphKey
  else if draft.stages.length = 0 ∨ draft.stages.length > maxProductionGraphStages then
    .error .stageCount
  else do
    checkUnique (·.stageKey)
      (fun stage ↦ if !validKey stage.stageKey then .error .stageKey else .ok ())
      (fun stage ↦ .stageDuplicated stage.stageKey) ProductionStageDraft.check [] draft.stages
    draft.stages.forM (ProductionStageDraft.checkDependencies draft.stageKeys)

end ProductionGraphDraft

def validateProductionGraph (draft : ProductionGraphDraft) : Except ProductionGraphError Unit := do
  draft.check.mapError .graphInvalid
  let visited := drain draft.edges (incoming draft.edges)
    (draft.stageKeys.filter fun stageKey ↦ incoming draft.edges stageKey = 0) 0
  if visited ≠ draft.stages.length then .error .graphCycle else .ok ()

/-! ## The statuses of a stage -/

/-- The table of `ValidateProductionStageStatusTransition`. -/
def allowedStageTransition (current next : ProductionStageStatus) : Bool :=
  match current with
  | .planned => next = .running || next = .stopped
  | .running => next = .awaitingReview || next = .failed || next = .stopped
  | .awaitingReview => next = .approved || next = .running || next = .stopped
  | .approved => next = .completed || next = .stale || next = .stopped
  | .completed => next = .stale
  | .failed | .stale => next = .running || next = .stopped
  | .stopped => false

def validateProductionStageStatusTransition (current next : ProductionStageStatus) :
    Except String Unit :=
  if current = next ∨ !allowedStageTransition current next then
    .error "production stage transition is invalid"
  else .ok ()

/-! ## What is stale -/

def staleDependentStages (draft : ProductionGraphDraft) (changedStageKey : String) :
    Except ProductionGraphError (List String) := do
  validateProductionGraph draft
  if trimSpace changedStageKey ≠ changedStageKey ∨ changedStageKey = "" then
    .error (.graphInvalid .changedStageKey)
  else if changedStageKey ∉ draft.stageKeys then .error (.graphInvalid .changedStageMissing)
  else
    let staleSet := visit draft.edges (next draft.edges changedStageKey) []
    .ok (draft.stageKeys.filter (· ∈ staleSet))

/-- The changed revisions are checked one after another. -/
def checkChanged (known : ArtifactRevisionRef → Bool) (changed : List ArtifactRevisionRef) :
    Except ProductionGraphError Unit :=
  checkUnique id
    (fun reference ↦
      if !reference.validate.isOk then .error .revisionGraphInvalid else .ok ())
    (fun _ ↦ .revisionGraphInvalid)
    (fun reference ↦ if !known reference then .error .revisionGraphInvalid else .ok ()) [] changed

/-- The stages one of whose inputs has changed. -/
def ProductionGraphDraft.changedStages (draft : ProductionGraphDraft)
    (changed : List ArtifactRevisionRef) : List String :=
  (draft.stages.filter fun stage ↦ stage.inputRevisions.any (· ∈ changed)).map (·.stageKey)

def staleStagesForRevisionChanges (draft : ProductionGraphDraft)
    (changed : List ArtifactRevisionRef) : Except ProductionGraphError (List String) := do
  validateProductionGraph draft
  if changed = [] then .error .revisionGraphInvalid
  else do
    checkChanged (fun _ ↦ true) changed
    let start := push (fun _ ↦ false) (draft.changedStages changed) [] []
    let staleSet := spread draft.edges (fun _ ↦ false) start.1 start.2
    .ok (draft.stageKeys.filter (· ∈ staleSet))

/-- The upstream revisions of a revision. -/
def dependsOn (nodes : List RevisionDependencyNode) (reference : ArtifactRevisionRef) :
    List ArtifactRevisionRef :=
  ((nodes.find? (·.revision = reference)).bind (·.dependsOn)).getD []

/-- The dependencies, each with the revision that has it. -/
def revisionEdges (nodes : List RevisionDependencyNode) :
    List (ArtifactRevisionRef × ArtifactRevisionRef) :=
  nodes.flatMap fun node ↦ (node.dependsOn.getD []).map fun dependency ↦ (dependency, node.revision)

/-- What is checked of a revision by itself. -/
def RevisionDependencyNode.check (node : RevisionDependencyNode) :
    Except ProductionGraphError Unit :=
  match node.dependsOn with
  | none => .error .revisionGraphInvalid
  | some upstream =>
    if !node.revision.validate.isOk || !(validateArtifactRevisionRefs upstream).isOk then
      .error .revisionGraphInvalid
    else .ok ()

/-- The upstream revisions of a revision are among these. -/
def RevisionDependencyNode.checkUpstream (revisions : List ArtifactRevisionRef)
    (node : RevisionDependencyNode) : Except ProductionGraphError Unit :=
  if !(node.dependsOn.getD []).all (· ∈ revisions) then .error .revisionGraphInvalid else .ok ()

/-- Everything that is checked before the dependencies are followed. -/
def checkRevisionGraph (nodes : List RevisionDependencyNode) (changed : List ArtifactRevisionRef) :
    Except ProductionGraphError Unit :=
  if nodes = [] ∨ changed = [] then .error .revisionGraphInvalid
  else do
    checkUnique (·.revision) RevisionDependencyNode.check (fun _ ↦ .revisionGraphInvalid)
      (fun _ ↦ .ok ()) [] nodes
    checkChanged (fun reference ↦ reference ∈ nodes.map (·.revision)) changed
    nodes.forM (RevisionDependencyNode.checkUpstream (nodes.map (·.revision)))

/-- `revisionDependencyGraphContainsCycle`, with the depth of its recursion bounded. -/
def revisionDependencyGraphContainsCycle (nodes : List RevisionDependencyNode) : Option Bool :=
  containsCycle (dependsOn nodes) (nodes.map (·.revision))

/-- `none` stands for a search for cycles that does not come back. -/
def staleDependentRevisions (nodes : List RevisionDependencyNode)
    (changed : List ArtifactRevisionRef) :
    Option (Except ProductionGraphError (List ArtifactRevisionRef)) :=
  match checkRevisionGraph nodes changed with
  | .error e => some (.error e)
  | .ok () =>
    (revisionDependencyGraphContainsCycle nodes).map fun cyclic ↦
      if cyclic then .error .revisionGraphCycle
      else
        let staleSet := spread (revisionEdges nodes) (· ∈ changed) changed []
        .ok ((nodes.map (·.revision)).filter (· ∈ staleSet))

/-! ## What is accepted -/

/-- Those of the keys of which something holds, once each and in their order. -/
structure Picks {κ : Type} (keys : List κ) (P : κ → Prop) (picked : List κ) : Prop where
  sublist : picked.Sublist keys
  nodup : picked.Nodup
  mem : ∀ key, key ∈ picked ↔ P key

theorem Picks.filter {κ : Type} [DecidableEq κ] {keys marked : List κ} {P : κ → Prop}
    (hnodup : keys.Nodup) (hmarked : ∀ key, key ∈ marked ↔ P key)
    (hkeys : ∀ key, P key → key ∈ keys) :
    Picks keys P (keys.filter (· ∈ marked)) where
  sublist := List.filter_sublist
  nodup := hnodup.filter _
  mem key := by
    rw [List.mem_filter, decide_eq_true_iff, hmarked]
    exact ⟨fun h ↦ h.2, fun h ↦ ⟨hkeys key h, h⟩⟩

/-- What one has to be told of a stage to accept it, its dependencies apart. -/
structure ProductionStageDraft.WellFormed (stage : ProductionStageDraft) : Prop where
  stageKey : validKey stage.stageKey = true
  specialistKey : stage.specialistKey.valid = true
  reviewPolicy : stage.reviewPolicy.valid = true
  costPolicy : stage.costPolicy.valid = true
  expectedDelivery : stage.expectedDelivery.validate = .ok ()
  inputRevisions : validateArtifactRevisionRefs stage.inputRevisions = .ok ()

namespace ProductionGraphDraft

/-- A graph that is in order, cycles apart. -/
structure WellFormed (draft : ProductionGraphDraft) : Prop where
  graphKey : validKey draft.graphKey = true
  stageCount : 0 < draft.stages.length ∧ draft.stages.length ≤ maxProductionGraphStages
  stages : ∀ stage ∈ draft.stages, stage.WellFormed
  stageKeys : draft.stageKeys.Nodup
  dependencies : ∀ stage ∈ draft.stages, ∀ dependency ∈ stage.dependsOnStageKeys,
    trimSpace dependency = dependency ∧ dependency ≠ "" ∧ dependency ≠ stage.stageKey ∧
      dependency ∈ draft.stageKeys
  dependenciesDistinct : ∀ stage ∈ draft.stages, stage.dependsOnStageKeys.Nodup

/-- A stage with this key depends on one with that key. -/
def Feeds (draft : ProductionGraphDraft) (dependency stageKey : String) : Prop :=
  ∃ stage ∈ draft.stages, stage.stageKey = stageKey ∧ dependency ∈ stage.dependsOnStageKeys

def Cyclic (draft : ProductionGraphDraft) : Prop :=
  ∃ stageKey, TransGen draft.Feeds stageKey stageKey

end ProductionGraphDraft

section Stages

variable {draft : ProductionGraphDraft} {stage : ProductionStageDraft} {stageKeys : List String}

theorem ProductionStageDraft.check_eq_ok :
    (if !validKey stage.stageKey then .error .stageKey else .ok () :
        Except ProductionGraphFault Unit) = .ok () ∧ stage.check = .ok () ↔ stage.WellFormed := by
  rw [refuse_eq_ok, check, refuse_eq_ok, refuse_eq_ok, bind_eq_ok, Bool.not_eq_true',
    Bool.not_eq_false, Bool.not_eq_true', Bool.not_eq_false, Bool.or_eq_true, not_or,
    Bool.not_eq_true', Bool.not_eq_false, Bool.not_eq_true', Bool.not_eq_false]
  constructor
  · rintro ⟨⟨hkey, -⟩, hspecialist, ⟨hreview, hcost⟩, _, hdelivery, hinputs⟩
    exact ⟨hkey, hspecialist, hreview, hcost, mapError_eq_ok.mp hdelivery,
      mapError_eq_ok.mp hinputs⟩
  · rintro ⟨hkey, hspecialist, hreview, hcost, hdelivery, hinputs⟩
    exact ⟨⟨hkey, rfl⟩, hspecialist, ⟨hreview, hcost⟩, (), mapError_eq_ok.mpr hdelivery,
      mapError_eq_ok.mpr hinputs⟩

theorem ProductionStageDraft.checkDependencies_eq_ok :
    stage.checkDependencies stageKeys = .ok () ↔
      (∀ dependency ∈ stage.dependsOnStageKeys, trimSpace dependency = dependency ∧
        dependency ≠ "" ∧ dependency ≠ stage.stageKey ∧ dependency ∈ stageKeys) ∧
        stage.dependsOnStageKeys.Nodup := by
  rw [checkDependencies, checkUnique_eq_ok]
  simp only [refuse_eq_ok, List.map_id_fun, id_eq, not_or, not_not, and_true, List.not_mem_nil,
    not_false_eq_true, implies_true, and_assoc]

/-- What the checks establish. -/
theorem ProductionGraphDraft.check_eq_ok : draft.check = .ok () ↔ draft.WellFormed := by
  rw [check, refuse_eq_ok, refuse_eq_ok, bind_eq_ok, Bool.not_eq_true', Bool.not_eq_false, not_or,
    not_lt]
  constructor
  · rintro ⟨hkey, hcount, _, hstages, hdependencies⟩
    obtain ⟨hstages, hnodup, -⟩ := checkUnique_eq_ok.mp hstages
    have hdependencies := fun stage hstage ↦
      ProductionStageDraft.checkDependencies_eq_ok.mp (forM_eq_ok.mp hdependencies stage hstage)
    exact ⟨hkey, ⟨Nat.pos_of_ne_zero hcount.1, hcount.2⟩, fun stage hstage ↦
      ProductionStageDraft.check_eq_ok.mp (hstages stage hstage), hnodup,
      fun stage hstage ↦ (hdependencies stage hstage).1,
      fun stage hstage ↦ (hdependencies stage hstage).2⟩
  · intro h
    refine ⟨h.graphKey, ⟨h.stageCount.1.ne', h.stageCount.2⟩, (), checkUnique_eq_ok.mpr ⟨fun stage hstage ↦
      ProductionStageDraft.check_eq_ok.mpr (h.stages stage hstage), h.stageKeys,
      fun _ _ ↦ List.not_mem_nil⟩, forM_eq_ok.mpr fun stage hstage ↦ ?_⟩
    exact ProductionStageDraft.checkDependencies_eq_ok.mpr
      ⟨h.dependencies stage hstage, h.dependenciesDistinct stage hstage⟩

theorem ProductionGraphDraft.edge_edges : Edge draft.edges = draft.Feeds := by
  funext dependency stageKey
  simp only [Edge, edges, List.mem_flatMap, List.mem_map, Prod.mk.injEq, Feeds, eq_iff_iff]
  constructor
  · rintro ⟨stage, hstage, _, hdependency, rfl, hkey⟩
    exact ⟨stage, hstage, hkey, hdependency⟩
  · rintro ⟨stage, hstage, hkey, hdependency⟩
    exact ⟨stage, hstage, dependency, hdependency, rfl, hkey⟩

/-- All stages are visited in the order of their dependencies unless there is a cycle. -/
theorem ProductionGraphDraft.WellFormed.visited_eq (h : draft.WellFormed) :
    drain draft.edges (incoming draft.edges)
        (draft.stageKeys.filter fun stageKey ↦ incoming draft.edges stageKey = 0) 0 =
      draft.stages.length ↔ ¬draft.Cyclic := by
  have hedges : ∀ a b, Edge draft.edges a b → a ∈ draft.stageKeys ∧ b ∈ draft.stageKeys := by
    intro a b hab
    rw [draft.edge_edges] at hab
    obtain ⟨stage, hstage, rfl, hdependency⟩ := hab
    exact ⟨(h.dependencies stage hstage a hdependency).2.2.2, List.mem_map_of_mem hstage⟩
  have hall := drain_eq_length h.stageKeys hedges
  rw [ProductionGraphDraft.stageKeys, List.length_map] at hall
  rw [Cyclic, not_exists, ← draft.edge_edges]
  exact hall

theorem validateProductionGraph_eq_ok :
    validateProductionGraph draft = .ok () ↔ draft.WellFormed ∧ ¬draft.Cyclic := by
  rw [validateProductionGraph, bind_eq_ok]
  simp only [mapError_eq_ok, refuse_eq_ok, not_not, and_true]
  constructor
  · rintro ⟨_, hcheck, hvisited⟩
    have hwell := draft.check_eq_ok.mp hcheck
    exact ⟨hwell, hwell.visited_eq.mp hvisited⟩
  · rintro ⟨hwell, hacyclic⟩
    exact ⟨(), draft.check_eq_ok.mpr hwell, hwell.visited_eq.mpr hacyclic⟩

/-- The error about a cycle is returned exactly of graphs with one. -/
theorem validateProductionGraph_eq_cycle :
    validateProductionGraph draft = .error .graphCycle ↔ draft.WellFormed ∧ draft.Cyclic := by
  rw [validateProductionGraph, bind_eq_error, mapError_eq_error]
  constructor
  · rintro (⟨_, -, h⟩ | ⟨_, hcheck, h⟩)
    · cases h
    · have hwell := draft.check_eq_ok.mp (mapError_eq_ok.mp hcheck)
      refine ⟨hwell, ?_⟩
      by_contra hacyclic
      rw [if_neg (not_not.mpr (hwell.visited_eq.mpr hacyclic))] at h
      cases h
  · rintro ⟨hwell, hcyclic⟩
    refine .inr ⟨(), mapError_eq_ok.mpr (draft.check_eq_ok.mpr hwell), if_pos ?_⟩
    rw [Ne, hwell.visited_eq, not_not]
    exact hcyclic

theorem staleDependentStages_eq_ok {changedStageKey : String}
    (haccepted : validateProductionGraph draft = .ok ())
    (hchanged : changedStageKey ∈ draft.stageKeys) :
    ∃ stale, staleDependentStages draft changedStageKey = .ok stale ∧
      Picks draft.stageKeys (TransGen draft.Feeds changedStageKey) stale := by
  have hwell := (validateProductionGraph_eq_ok.mp haccepted).1
  have hkey : trimSpace changedStageKey = changedStageKey ∧ changedStageKey ≠ "" := by
    obtain ⟨stage, hstage, rfl⟩ := List.mem_map.mp hchanged
    have hvalid := (hwell.stages stage hstage).stageKey
    simp only [validKey, Bool.and_eq_true, beq_iff_eq, decide_eq_true_eq] at hvalid
    exact hvalid.1
  have hstale : ∀ stageKey, stageKey ∈ visit draft.edges (next draft.edges changedStageKey) [] ↔
      TransGen draft.Feeds changedStageKey stageKey := by
    intro stageKey
    rw [mem_visit, TransGen.head'_iff]
    simp only [mem_next, draft.edge_edges]
  refine ⟨_, ?_, .filter hwell.stageKeys hstale fun stageKey hreach ↦ ?_⟩
  · rw [staleDependentStages, haccepted]
    refine (if_neg ?_).trans (if_neg (not_not.mpr hchanged))
    simp [hkey]
  · obtain ⟨_, -, stage, hstage, rfl, -⟩ := TransGen.tail'_iff.mp hreach
    exact List.mem_map_of_mem hstage

theorem isOk_iff {ε : Type} {x : Except ε Unit} : x.isOk = true ↔ x = .ok () := by
  cases x with
  | error e => exact iff_of_false Bool.false_ne_true nofun
  | ok u => exact iff_of_true rfl rfl

theorem checkChanged_eq_ok {known : ArtifactRevisionRef → Bool}
    {changed : List ArtifactRevisionRef} :
    checkChanged known changed = .ok () ↔
      (∀ reference ∈ changed, reference.validate = .ok () ∧ known reference = true) ∧
        changed.Nodup := by
  rw [checkChanged, checkUnique_eq_ok]
  simp only [refuse_eq_ok, Bool.not_eq_true', Bool.not_eq_false, isOk_iff, and_true,
    List.map_id_fun, id_eq, List.not_mem_nil, not_false_eq_true, implies_true]

theorem staleStagesForRevisionChanges_eq_ok {changed : List ArtifactRevisionRef}
    (haccepted : validateProductionGraph draft = .ok ()) (hne : changed ≠ [])
    (hvalid : ∀ reference ∈ changed, reference.validate = .ok ()) (hnodup : changed.Nodup) :
    ∃ stale, staleStagesForRevisionChanges draft changed = .ok stale ∧
      Picks draft.stageKeys
        (fun stageKey ↦ ∃ stage ∈ draft.stages, (∃ reference ∈ stage.inputRevisions,
          reference ∈ changed) ∧ ReflTransGen draft.Feeds stage.stageKey stageKey) stale := by
  have hwell := (validateProductionGraph_eq_ok.mp haccepted).1
  have hchecked : checkChanged (fun _ ↦ true) changed = .ok () :=
    checkChanged_eq_ok.mpr ⟨fun reference hreference ↦ ⟨hvalid reference hreference, rfl⟩, hnodup⟩
  obtain ⟨new, hqueue, hmarked, hnew, hall⟩ :=
    push_spec (fun _ ↦ false) (draft.changedStages changed) [] []
  have hstart : ∀ stageKey, stageKey ∈ new ↔ ∃ stage ∈ draft.stages,
      (∃ reference ∈ stage.inputRevisions, reference ∈ changed) ∧ stage.stageKey = stageKey := by
    intro stageKey
    have hchanged : stageKey ∈ new ↔ stageKey ∈ draft.changedStages changed :=
      ⟨fun h ↦ (hnew stageKey h).1, fun h ↦ by simpa using hall stageKey h⟩
    rw [hchanged]
    simp [ProductionGraphDraft.changedStages, and_assoc]
  have hstale : ∀ stageKey, stageKey ∈ spread draft.edges (fun _ ↦ false)
      (push (fun _ ↦ false) (draft.changedStages changed) [] []).1
      (push (fun _ ↦ false) (draft.changedStages changed) [] []).2 ↔
      ∃ stage ∈ draft.stages, (∃ reference ∈ stage.inputRevisions, reference ∈ changed) ∧
        ReflTransGen draft.Feeds stage.stageKey stageKey := by
    intro stageKey
    rw [hqueue, hmarked, mem_spread (by simp) (fun _ _ ↦ rfl), draft.edge_edges]
    simp only [List.nil_append, hstart, true_and]
    constructor
    · rintro ⟨_, ⟨stage, hstage, hinput, rfl⟩, hreach⟩
      exact ⟨stage, hstage, hinput, hreach⟩
    · rintro ⟨stage, hstage, hinput, hreach⟩
      exact ⟨_, ⟨stage, hstage, hinput, rfl⟩, hreach⟩
  refine ⟨_, ?_, .filter hwell.stageKeys hstale ?_⟩
  · rw [staleStagesForRevisionChanges, haccepted]
    refine (if_neg hne).trans ?_
    rw [hchecked]
    rfl
  · rintro stageKey ⟨stage, hstage, -, hreach⟩
    rcases ReflTransGen.cases_tail hreach with rfl | ⟨_, -, stage', hstage', rfl, -⟩
    · exact List.mem_map_of_mem hstage
    · exact List.mem_map_of_mem hstage'

end Stages

/-! ## Revisions -/

/-- A revision depends directly on another. -/
def RevisionFeeds (nodes : List RevisionDependencyNode) (dependency revision : ArtifactRevisionRef) :
    Prop :=
  ∃ node ∈ nodes, node.revision = revision ∧ dependency ∈ node.dependsOn.getD []

def RevisionCyclic (nodes : List RevisionDependencyNode) : Prop :=
  ∃ revision, TransGen (RevisionFeeds nodes) revision revision

/-- Revisions and changes that are in order, cycles apart. -/
structure RevisionGraphWellFormed (nodes : List RevisionDependencyNode)
    (changed : List ArtifactRevisionRef) : Prop where
  nodes_ne_nil : nodes ≠ []
  changed_ne_nil : changed ≠ []
  revisions : ∀ node ∈ nodes, node.revision.validate = .ok ()
  revisionsDistinct : (nodes.map (·.revision)).Nodup
  upstream : ∀ node ∈ nodes, ∃ upstream, node.dependsOn = some upstream ∧
    validateArtifactRevisionRefs upstream = .ok () ∧
      ∀ dependency ∈ upstream, dependency ∈ nodes.map (·.revision)
  changes : ∀ reference ∈ changed,
    reference.validate = .ok () ∧ reference ∈ nodes.map (·.revision)
  changesDistinct : changed.Nodup

section Revisions

variable {nodes : List RevisionDependencyNode} {changed : List ArtifactRevisionRef}

theorem edge_revisionEdges : Edge (revisionEdges nodes) = RevisionFeeds nodes := by
  funext dependency revision
  simp only [Edge, revisionEdges, List.mem_flatMap, List.mem_map, Prod.mk.injEq, RevisionFeeds,
    eq_iff_iff]
  constructor
  · rintro ⟨node, hnode, _, hdependency, rfl, hrevision⟩
    exact ⟨node, hnode, hrevision, hdependency⟩
  · rintro ⟨node, hnode, hrevision, hdependency⟩
    exact ⟨node, hnode, dependency, hdependency, rfl, hrevision⟩

theorem RevisionDependencyNode.check_eq_ok {node : RevisionDependencyNode} :
    node.check = .ok () ↔ node.revision.validate = .ok () ∧ ∃ upstream,
      node.dependsOn = some upstream ∧ validateArtifactRevisionRefs upstream = .ok () := by
  rw [check]
  cases node.dependsOn with
  | none => exact iff_of_false nofun fun ⟨_, _, h, _⟩ ↦ nomatch h
  | some upstream =>
    simp only [refuse_eq_ok, Bool.or_eq_true, not_or, Bool.not_eq_true', Bool.not_eq_false,
      isOk_iff, and_true, Option.some.injEq, exists_eq_left']

theorem RevisionDependencyNode.checkUpstream_eq_ok {node : RevisionDependencyNode}
    {revisions : List ArtifactRevisionRef} :
    node.checkUpstream revisions = .ok () ↔
      ∀ dependency ∈ node.dependsOn.getD [], dependency ∈ revisions := by
  rw [checkUpstream, refuse_eq_ok, Bool.not_eq_true', Bool.not_eq_false, List.all_eq_true]
  simp only [decide_eq_true_eq, and_true]

theorem checkRevisionGraph_eq_ok :
    checkRevisionGraph nodes changed = .ok () ↔ RevisionGraphWellFormed nodes changed := by
  rw [checkRevisionGraph, refuse_eq_ok, bind_eq_ok, not_or]
  constructor
  · rintro ⟨⟨hnodes_ne, hchanged_ne⟩, _, hnodes, hrest⟩
    obtain ⟨_, hchanged, hupstream⟩ := bind_eq_ok.mp hrest
    obtain ⟨hnodes, hdistinct, -⟩ := checkUnique_eq_ok.mp hnodes
    obtain ⟨hchanged, hchangesDistinct⟩ := checkChanged_eq_ok.mp hchanged
    have hnode := fun node hnode ↦
      RevisionDependencyNode.check_eq_ok.mp (hnodes node hnode).1
    refine ⟨hnodes_ne, hchanged_ne, fun node h ↦ (hnode node h).1, hdistinct, fun node h ↦ ?_,
      fun reference h ↦ ⟨(hchanged reference h).1, of_decide_eq_true (hchanged reference h).2⟩,
      hchangesDistinct⟩
    obtain ⟨-, upstream, hsome, hvalid⟩ := hnode node h
    have hall := RevisionDependencyNode.checkUpstream_eq_ok.mp (forM_eq_ok.mp hupstream node h)
    rw [hsome] at hall
    exact ⟨upstream, hsome, hvalid, hall⟩
  · intro h
    refine ⟨⟨h.nodes_ne_nil, h.changed_ne_nil⟩, (), checkUnique_eq_ok.mpr ⟨fun node hnode ↦
      ⟨RevisionDependencyNode.check_eq_ok.mpr ?_, rfl⟩, h.revisionsDistinct,
      fun _ _ ↦ List.not_mem_nil⟩, bind_eq_ok.mpr ⟨(), checkChanged_eq_ok.mpr
      ⟨fun reference hreference ↦ ?_, h.changesDistinct⟩, forM_eq_ok.mpr fun node hnode ↦
      RevisionDependencyNode.checkUpstream_eq_ok.mpr ?_⟩⟩
    · obtain ⟨upstream, hsome, hvalid, -⟩ := h.upstream node hnode
      exact ⟨h.revisions node hnode, upstream, hsome, hvalid⟩
    · exact ⟨(h.changes reference hreference).1,
        decide_eq_true (h.changes reference hreference).2⟩
    · obtain ⟨upstream, hsome, -, hall⟩ := h.upstream node hnode
      rw [hsome]
      exact hall

/-- The search for cycles follows the dependencies backwards. -/
theorem mem_dependsOn (hdistinct : (nodes.map (·.revision)).Nodup)
    {revision dependency : ArtifactRevisionRef} :
    dependency ∈ dependsOn nodes revision ↔ RevisionFeeds nodes dependency revision := by
  rw [dependsOn]
  cases hfind : nodes.find? (·.revision = revision) with
  | none =>
    refine iff_of_false List.not_mem_nil ?_
    rintro ⟨node, hnode, hrevision, -⟩
    exact List.find?_eq_none.mp hfind node hnode (decide_eq_true hrevision)
  | some node =>
    have hnode := List.mem_of_find?_eq_some hfind
    have hrevision : node.revision = revision := by
      simpa using List.find?_some hfind
    rw [Option.bind_some]
    constructor
    · exact fun hdependency ↦ ⟨node, hnode, hrevision, hdependency⟩
    · rintro ⟨node', hnode', hrevision', hdependency⟩
      rwa [List.inj_on_of_nodup_map hdistinct hnode hnode' (hrevision.trans hrevision'.symm)]

theorem RevisionGraphWellFormed.mem_of_feeds (h : RevisionGraphWellFormed nodes changed)
    {revision dependency : ArtifactRevisionRef} (hfeeds : RevisionFeeds nodes dependency revision) :
    dependency ∈ nodes.map (·.revision) ∧ revision ∈ nodes.map (·.revision) := by
  obtain ⟨node, hnode, rfl, hdependency⟩ := hfeeds
  obtain ⟨upstream, hsome, -, hall⟩ := h.upstream node hnode
  rw [hsome] at hdependency
  exact ⟨hall dependency hdependency, List.mem_map_of_mem hnode⟩

/-- The search for cycles ends, and it tells the truth. -/
theorem revisionDependencyGraphContainsCycle_eq_some (h : RevisionGraphWellFormed nodes changed) :
    ∃ cyclic, revisionDependencyGraphContainsCycle nodes = some cyclic ∧
      (cyclic = true ↔ RevisionCyclic nodes) := by
  have hback : (fun a b ↦ b ∈ dependsOn nodes a) = Function.swap (RevisionFeeds nodes) := by
    funext a b
    exact propext (mem_dependsOn h.revisionsDistinct)
  have hnodes : ∀ a, ∀ b ∈ dependsOn nodes a,
      a ∈ nodes.map (·.revision) ∧ b ∈ nodes.map (·.revision) := fun a b hb ↦
    (h.mem_of_feeds ((mem_dependsOn h.revisionsDistinct).mp hb)).symm
  obtain ⟨cyclic, hsome, hiff⟩ := containsCycle_eq_some hnodes
  refine ⟨cyclic, hsome, hiff.trans (exists_congr fun revision ↦ ?_)⟩
  rw [hback, transGen_swap]

/-- **The search for stale revisions ends**: with an error about the graph, with the error about a
cycle, or with the descendants of the changes that are not changes themselves. -/
theorem staleDependentRevisions_eq_some (nodes : List RevisionDependencyNode)
    (changed : List ArtifactRevisionRef) :
    ∃ result, staleDependentRevisions nodes changed = some result ∧
      ((∃ stale, result = .ok stale) ↔
        RevisionGraphWellFormed nodes changed ∧ ¬RevisionCyclic nodes) ∧
      ∀ stale, result = .ok stale →
        Picks (nodes.map (·.revision)) (fun revision ↦ revision ∉ changed ∧
          ∃ reference ∈ changed, TransGen (RevisionFeeds nodes) reference revision) stale := by
  rw [staleDependentRevisions]
  cases hcheck : checkRevisionGraph nodes changed with
  | error e =>
    refine ⟨.error e, rfl, iff_of_false nofun fun h ↦ ?_, nofun⟩
    rw [checkRevisionGraph_eq_ok.mpr h.1] at hcheck
    cases hcheck
  | ok _ =>
    have hwell := checkRevisionGraph_eq_ok.mp hcheck
    obtain ⟨cyclic, hsome, hcyclic⟩ := revisionDependencyGraphContainsCycle_eq_some hwell
    simp only [hsome, Option.map_some, Option.some.injEq, exists_eq_left']
    by_cases hyes : cyclic = true
    · rw [if_pos hyes]
      exact ⟨iff_of_false nofun fun h ↦ h.2 (hcyclic.mp hyes), nofun⟩
    · rw [if_neg hyes]
      refine ⟨iff_of_true ⟨_, rfl⟩ ⟨hwell, fun h ↦ hyes (hcyclic.mpr h)⟩, ?_⟩
      rintro _ ⟨⟩
      refine .filter hwell.revisionsDistinct (fun revision ↦ ?_) ?_
      · rw [mem_spread (by simp) (by simp), edge_revisionEdges, decide_eq_false_iff_not]
        refine and_congr_right fun hnot ↦ ⟨?_, ?_⟩
        · rintro ⟨reference, hreference, hreach⟩
          rcases reflTransGen_iff_eq_or_transGen.mp hreach with rfl | hreach
          · exact absurd hreference hnot
          · exact ⟨reference, hreference, hreach⟩
        · rintro ⟨reference, hreference, hreach⟩
          exact ⟨reference, hreference, hreach.to_reflTransGen⟩
      · rintro revision ⟨-, reference, -, hreach⟩
        obtain ⟨_, -, hfeeds⟩ := TransGen.tail'_iff.mp hreach
        exact (hwell.mem_of_feeds hfeeds).2

end Revisions

/-- **Cycles are found, and what is stale is what depends on the change.**  The error about a cycle
is returned exactly of graphs that are in order but for a cycle.  In a graph that is accepted, the
stale stages are those that depend on the changed one, or have changed inputs or depend on a stage
that has; the stale revisions are the descendants of the changed ones that have not changed
themselves.  Each is named once, in the order of the input, and all searches end. -/
theorem production_graph (draft : ProductionGraphDraft) (nodes : List RevisionDependencyNode)
    (changed : List ArtifactRevisionRef) :
    (validateProductionGraph draft = .error .graphCycle ↔ draft.WellFormed ∧ draft.Cyclic) ∧
      (validateProductionGraph draft = .ok () → ∀ changedStageKey ∈ draft.stageKeys,
        ∃ stale, staleDependentStages draft changedStageKey = .ok stale ∧
          Picks draft.stageKeys (TransGen draft.Feeds changedStageKey) stale) ∧
      (validateProductionGraph draft = .ok () → changed ≠ [] →
        (∀ reference ∈ changed, reference.validate = .ok ()) → changed.Nodup →
        ∃ stale, staleStagesForRevisionChanges draft changed = .ok stale ∧
          Picks draft.stageKeys
            (fun stageKey ↦ ∃ stage ∈ draft.stages, (∃ reference ∈ stage.inputRevisions,
              reference ∈ changed) ∧ ReflTransGen draft.Feeds stage.stageKey stageKey) stale) ∧
      ∃ result, staleDependentRevisions nodes changed = some result ∧
        ((∃ stale, result = .ok stale) ↔
          RevisionGraphWellFormed nodes changed ∧ ¬RevisionCyclic nodes) ∧
        ∀ stale, result = .ok stale →
          Picks (nodes.map (·.revision)) (fun revision ↦ revision ∉ changed ∧
            ∃ reference ∈ changed, TransGen (RevisionFeeds nodes) reference revision) stale :=
  ⟨validateProductionGraph_eq_cycle, fun haccepted _ hchanged ↦
    staleDependentStages_eq_ok haccepted hchanged, staleStagesForRevisionChanges_eq_ok,
    staleDependentRevisions_eq_some nodes changed⟩

namespace ProductionGraphExample

def answered : ExpectedDelivery :=
  { kind := .answer, completionCriteria := [{ fact := .finalMessage }] }

def stage (stageKey : String) (dependsOnStageKeys : List String)
    (inputRevisions : List ArtifactRevisionRef) : ProductionStageDraft :=
  ⟨stageKey, .narrative, dependsOnStageKeys, inputRevisions, answered, .required, .none⟩

/-- The storyboard is made from the script, the script from an outline. -/
def draft : ProductionGraphDraft :=
  ⟨"film", [stage "script" [] [⟨"outline", "r1"⟩], stage "storyboard" ["script"] []]⟩

def nodes : List RevisionDependencyNode :=
  [⟨⟨"outline", "r1"⟩, some []⟩, ⟨⟨"script", "r2"⟩, some [⟨"outline", "r1"⟩]⟩]

end ProductionGraphExample

open ProductionGraphExample in
theorem production_graph_film :
    validateProductionGraph draft = .ok () ∧
      (∃ stale, staleDependentStages draft "script" = .ok stale ∧
        Picks ["script", "storyboard"] (TransGen draft.Feeds "script") stale) := by
  have haccepted : validateProductionGraph draft = .ok () := by
    have hcheck : draft.check = .ok () := by decide
    have hedges : draft.edges = [("script", "storyboard")] := rfl
    have hstageKeys : draft.stageKeys = ["script", "storyboard"] := rfl
    have hvisited : drain draft.edges (incoming draft.edges)
        (draft.stageKeys.filter fun stageKey ↦ incoming draft.edges stageKey = 0) 0 = 2 := by
      simp [hedges, hstageKeys, drain, release, next, incoming]
    rw [validateProductionGraph, hcheck]
    exact if_neg (not_not.mpr hvisited)
  obtain ⟨-, hstages, -⟩ := production_graph draft nodes [⟨"outline", "r1"⟩]
  exact ⟨haccepted, hstages haccepted "script" (by decide)⟩

end HMaigc.AgentRuntime
