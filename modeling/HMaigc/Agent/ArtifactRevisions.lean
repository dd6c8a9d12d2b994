import HMaigc.Repository.AgentArtifact

/-!
# The revisions of a scope

What is read off the rows of artifacts and their revisions:

* `Numbered`, `Headed` — the revisions of an artifact are numbered from 1 on, and its head is the
  one that was adopted last.
* `Rows` — what holds of the rows; the revisions depend on earlier ones only, so there is no cycle
  among them (`Rows.not_cyclic`).
* `Rows.markClosureStale` — **a revision is made stale with everything that depends on it**.
-/

set_option autoImplicit false

namespace HMaigc.Artifacts

open Sql Go AgentRuntime Relation

/-! ## Numbers, heads and stale revisions -/

namespace ArtifactStore

/-- The numbers of an artifact's revisions, in the order in which they were stored. -/
def numbers (s : ArtifactStore) (artifactID : String) : List ℤ :=
  (s.revisions.filter (·.artifactID = artifactID)).map (·.revision)

/-- From 1 on, without gap or duplicate. -/
def Numbered (s : ArtifactStore) : Prop :=
  ∀ artifactID, s.numbers artifactID =
    (List.range (s.numbers artifactID).length).map fun (i : ℕ) ↦ (i : ℤ) + 1

/-- `head_revision`, or 0 where there is no artifact. -/
def head (s : ArtifactStore) (artifactID : String) : ℤ :=
  ((s.artifact? artifactID).map (·.headRevision)).getD 0

/-- The number of the revision that was adopted last, or 0. -/
def lastAdopted (s : ArtifactStore) (artifactID : String) : ℤ :=
  ((s.adopted.find? (·.1 = artifactID)).map (·.2)).getD 0

/-- The head is the revision that was adopted last, which is stored. -/
structure Headed (s : ArtifactStore) : Prop where
  head : ∀ artifactID, s.head artifactID = s.lastAdopted artifactID
  stored : ∀ entry ∈ s.adopted, entry.2 ∈ s.numbers entry.1

end ArtifactStore

/-- A revision is stale when it is named. -/
def Revision.staleIf (stale : List ArtifactRevisionRef) (revision : Revision) : Revision :=
  if revision.ref ∈ stale then { revision with lifecycle := .stale } else revision

/-- The revisions that are named become stale. -/
def ArtifactStore.staled (s : ArtifactStore) (stale : List ArtifactRevisionRef) : ArtifactStore :=
  { s with revisions := s.revisions.map (Revision.staleIf stale) }

/-- What the revisions depend on. -/
abbrev Feeds (revisions : List Revision) : ArtifactRevisionRef → ArtifactRevisionRef → Prop :=
  RevisionFeeds (revisions.map Revision.node)

/-! ## Rows -/

/-- What holds of the rows: identifiers follow the numbers, and a revision depends on earlier ones.
No shot is bound to a character, and nothing is produced yet. -/
structure Rows (context : ArtifactContext) (s : ArtifactStore) : Prop where
  ids : ∀ revision ∈ s.revisions,
    revision.id = context.revisionID revision.artifactID revision.revision
  nodup : (s.revisions.map (·.id)).Nodup
  keyed : ∀ revision ∈ s.revisions, isArtifactID revision.artifactID = true
  upstream : ∀ revision ∈ s.revisions,
    validateArtifactRevisionRefs revision.upstreamRevisions = .ok ()
  ordered : ∀ before revision, before ++ [revision] <+: s.revisions →
    ∀ reference ∈ revision.upstreamRevisions, reference ∈ before.map Revision.ref
  artifacts : ∀ artifact ∈ s.artifacts, isArtifactID artifact.id = true
  bindings : s.bindings = []
  production : latestGraph context.scope s.production = none

@[simp] theorem Revision.staleIf_id (stale : List ArtifactRevisionRef) (revision : Revision) :
    (revision.staleIf stale).id = revision.id := by
  rw [staleIf]
  split <;> rfl

@[simp] theorem Revision.staleIf_artifactID (stale : List ArtifactRevisionRef)
    (revision : Revision) : (revision.staleIf stale).artifactID = revision.artifactID := by
  rw [staleIf]
  split <;> rfl

@[simp] theorem Revision.staleIf_revision (stale : List ArtifactRevisionRef)
    (revision : Revision) : (revision.staleIf stale).revision = revision.revision := by
  rw [staleIf]
  split <;> rfl

@[simp] theorem Revision.staleIf_upstreamRevisions (stale : List ArtifactRevisionRef)
    (revision : Revision) :
    (revision.staleIf stale).upstreamRevisions = revision.upstreamRevisions := by
  rw [staleIf]
  split <;> rfl

@[simp] theorem Revision.staleIf_ref (stale : List ArtifactRevisionRef) (revision : Revision) :
    (revision.staleIf stale).ref = revision.ref := by
  simp [Revision.ref]

theorem Revision.staleIf_nil (revision : Revision) : revision.staleIf [] = revision :=
  if_neg List.not_mem_nil

namespace Rows

variable {context : ArtifactContext} {s : ArtifactStore} {revision other : Revision}

theorem eq_of_id (h : Rows context s) (hrevision : revision ∈ s.revisions)
    (hother : other ∈ s.revisions) (hid : revision.id = other.id) : revision = other :=
  List.inj_on_of_nodup_map h.nodup hrevision hother hid

theorem eq_of_ref (h : Rows context s) (hrevision : revision ∈ s.revisions)
    (hother : other ∈ s.revisions) (href : revision.ref = other.ref) : revision = other :=
  h.eq_of_id hrevision hother (congrArg ArtifactRevisionRef.revisionID href)

theorem find_ref (h : Rows context s) (hrevision : revision ∈ s.revisions) :
    s.revisions.find? (·.ref = revision.ref) = some revision := by
  cases hfind : s.revisions.find? (·.ref = revision.ref) with
  | none => exact absurd (decide_eq_true rfl) (List.find?_eq_none.mp hfind revision hrevision)
  | some found =>
    have hfound := List.mem_of_find?_eq_some hfind
    have href : found.ref = revision.ref := by simpa using List.find?_some hfind
    rw [h.eq_of_ref hfound hrevision href]

theorem validKey_artifactID (hkeyed : isArtifactID revision.artifactID = true) :
    validKey revision.artifactID = true := by
  simp only [isArtifactID, isTrimmed, Bool.and_eq_true, decide_eq_true_eq] at hkeyed
  simp only [validKey, Bool.and_eq_true, decide_eq_true_eq, beq_iff_eq]
  exact ⟨⟨hkeyed.1.1, hkeyed.2⟩, hkeyed.1.2.trans (by decide)⟩

theorem validate_ref (h : Rows context s) (hrevision : revision ∈ s.revisions) :
    revision.ref.validate = .ok () := by
  have hid : validKey revision.id = true := by
    rw [h.ids revision hrevision]
    exact context.validKey_factID _
  rw [ArtifactRevisionRef.validate, if_neg]
  rw [not_not]
  exact ⟨validKey_artifactID (h.keyed revision hrevision), hid⟩

/-- A revision comes after those it depends on. -/
theorem idxOf_lt (h : Rows context s) (hrevision : revision ∈ s.revisions)
    {reference : ArtifactRevisionRef} (hreference : reference ∈ revision.upstreamRevisions) :
    (s.revisions.map Revision.ref).idxOf reference <
      (s.revisions.map Revision.ref).idxOf revision.ref := by
  obtain ⟨before, after, hsplit⟩ := List.append_of_mem hrevision
  have hearlier := h.ordered before revision ⟨after, by simp [hsplit]⟩ reference hreference
  have hnew : revision.ref ∉ before.map Revision.ref := by
    intro hmem
    obtain ⟨other, hother, href⟩ := List.mem_map.mp hmem
    have hnodup := h.nodup
    rw [hsplit, List.map_append, List.nodup_append] at hnodup
    exact hnodup.2.2 _ (List.mem_map_of_mem hother) _ (List.mem_cons_self ..)
      (congrArg ArtifactRevisionRef.revisionID href)
  rw [hsplit, List.map_append, List.map_cons, List.idxOf_append_of_mem hearlier,
    List.idxOf_append_of_notMem hnew, List.idxOf_cons_self, Nat.add_zero]
  exact List.idxOf_lt_length_of_mem hearlier

theorem dependencyNodes (h : Rows context s) :
    s.dependencyNodes = .ok (s.revisions.map Revision.node) := by
  rw [ArtifactStore.dependencyNodes, ArtifactStore.latestBindings, h.bindings]
  rfl

theorem feeds_iff {dependency reference : ArtifactRevisionRef} :
    RevisionFeeds (s.revisions.map Revision.node) dependency reference ↔
      ∃ revision ∈ s.revisions, revision.ref = reference ∧
        dependency ∈ revision.upstreamRevisions := by
  simp only [RevisionFeeds, List.mem_map]
  constructor
  · rintro ⟨_, ⟨revision, hrevision, rfl⟩, href, hdependency⟩
    exact ⟨revision, hrevision, href, hdependency⟩
  · rintro ⟨revision, hrevision, href, hdependency⟩
    exact ⟨revision.node, ⟨revision, hrevision, rfl⟩, href, hdependency⟩

theorem idxOf_lt_of_transGen (h : Rows context s) {dependency reference : ArtifactRevisionRef}
    (hdepends : TransGen (RevisionFeeds (s.revisions.map Revision.node)) dependency reference) :
    (s.revisions.map Revision.ref).idxOf dependency <
      (s.revisions.map Revision.ref).idxOf reference := by
  have hstep {dependency reference : ArtifactRevisionRef}
      (hfeeds : RevisionFeeds (s.revisions.map Revision.node) dependency reference) :
      (s.revisions.map Revision.ref).idxOf dependency <
        (s.revisions.map Revision.ref).idxOf reference := by
    obtain ⟨revision, hrevision, rfl, hdependency⟩ := feeds_iff.mp hfeeds
    exact h.idxOf_lt hrevision hdependency
  induction hdepends with
  | single hfeeds => exact hstep hfeeds
  | tail _ hfeeds ih => exact ih.trans (hstep hfeeds)

theorem map_node_revision (s : ArtifactStore) :
    (s.revisions.map Revision.node).map (·.revision) = s.revisions.map Revision.ref := by
  rw [List.map_map]
  rfl

theorem wellFormed (h : Rows context s) (hrevision : revision ∈ s.revisions) :
    RevisionGraphWellFormed (s.revisions.map Revision.node) [revision.ref] where
  nodes_ne_nil := List.ne_nil_of_mem (List.mem_map_of_mem hrevision)
  changed_ne_nil := List.cons_ne_nil _ _
  revisions node hnode := by
    obtain ⟨other, hother, rfl⟩ := List.mem_map.mp hnode
    exact h.validate_ref hother
  revisionsDistinct := by
    rw [map_node_revision]
    refine List.Nodup.of_map ArtifactRevisionRef.revisionID ?_
    rw [List.map_map]
    exact h.nodup
  upstream node hnode := by
    obtain ⟨other, hother, rfl⟩ := List.mem_map.mp hnode
    refine ⟨other.upstreamRevisions, rfl, h.upstream other hother, fun dependency hmem ↦ ?_⟩
    obtain ⟨before, after, hsplit⟩ := List.append_of_mem hother
    have hearlier := h.ordered before other ⟨after, by simp [hsplit]⟩ dependency hmem
    rw [map_node_revision, hsplit, List.map_append]
    exact List.mem_append_left _ hearlier
  changes reference hreference := by
    rw [List.mem_singleton] at hreference
    subst hreference
    refine ⟨h.validate_ref hrevision, ?_⟩
    rw [map_node_revision]
    exact List.mem_map_of_mem hrevision
  changesDistinct := List.nodup_singleton _

theorem not_cyclic (h : Rows context s) :
    ¬RevisionCyclic (s.revisions.map Revision.node) :=
  fun ⟨_, hcyclic⟩ ↦ lt_irrefl _ (h.idxOf_lt_of_transGen hcyclic)

/-! ## Stale revisions -/

theorem markStages (hproduction : latestGraph context.scope s.production = none)
    (changed : List ArtifactRevisionRef) : s.markStages context changed = .ok s := by
  rw [ArtifactStore.markStages, markProductionStagesStaleForRevisionRefsTx, Prog.run_query_bind,
    hproduction]
  rfl

variable {stale : List ArtifactRevisionRef}

theorem mem_newlyStale (h : Rows context s)
    (hstale : ∀ reference ∈ stale, reference ∈ s.revisions.map Revision.ref)
    (hrevision : revision ∈ s.revisions) :
    revision.id ∈ s.newlyStale stale ↔ revision.ref ∈ stale ∧ revision.lifecycle ≠ .stale := by
  simp only [ArtifactStore.newlyStale, List.mem_map, List.mem_filter]
  constructor
  · rintro ⟨reference, ⟨hreference, hall⟩, hid⟩
    obtain ⟨other, hother, rfl⟩ := List.mem_map.mp (hstale reference hreference)
    rw [h.find_ref hother] at hall
    rw [h.eq_of_id hrevision hother hid.symm]
    exact ⟨hreference, by simpa using hall⟩
  · rintro ⟨hreference, hlifecycle⟩
    refine ⟨revision.ref, ⟨hreference, ?_⟩, rfl⟩
    rw [h.find_ref hrevision]
    simpa using hlifecycle

/-- As many rows are updated as are named. -/
theorem length_newlyStale (h : Rows context s) (hnodup : stale.Nodup)
    (hstale : ∀ reference ∈ stale, reference ∈ s.revisions.map Revision.ref) :
    (s.revisions.filter fun revision ↦
      revision.id ∈ s.newlyStale stale ∧ revision.lifecycle ≠ .stale).length =
        (s.newlyStale stale).length := by
  have hids : (s.newlyStale stale).Nodup := by
    refine (hnodup.filter _).map_on fun reference hreference other hother hid ↦ ?_
    obtain ⟨revision, hrevision, rfl⟩ :=
      List.mem_map.mp (hstale _ (List.mem_of_mem_filter hreference))
    obtain ⟨revision', hrevision', rfl⟩ :=
      List.mem_map.mp (hstale _ (List.mem_of_mem_filter hother))
    rw [h.eq_of_id hrevision hrevision' hid]
  have hrows : ((s.revisions.filter fun revision ↦
      revision.id ∈ s.newlyStale stale ∧ revision.lifecycle ≠ .stale).map (·.id)).Nodup :=
    h.nodup.sublist (List.filter_sublist.map _)
  rw [← List.length_map (f := (·.id))]
  refine ((List.perm_ext_iff_of_nodup hrows hids).mpr fun id ↦ ?_).length_eq
  simp only [List.mem_map, List.mem_filter, decide_eq_true_eq]
  constructor
  · rintro ⟨revision, ⟨-, hid, -⟩, rfl⟩
    exact hid
  · intro hid
    obtain ⟨reference, hreference, rfl⟩ := List.mem_map.mp hid
    obtain ⟨revision, hrevision, rfl⟩ :=
      List.mem_map.mp (hstale _ (List.mem_of_mem_filter hreference))
    exact ⟨revision, ⟨hrevision, hid, ((h.mem_newlyStale hstale hrevision).mp hid).2⟩, rfl⟩

/-- Rows that are stale already stay so. -/
theorem markStale_newlyStale (h : Rows context s)
    (hstale : ∀ reference ∈ stale, reference ∈ s.revisions.map Revision.ref) :
    s.markStale (s.newlyStale stale) = s.staled stale := by
  have hrows : (s.revisions.map fun revision ↦
      if revision.id ∈ s.newlyStale stale then { revision with lifecycle := .stale }
      else revision) = s.revisions.map (Revision.staleIf stale) := by
    refine List.map_congr_left fun revision hrevision ↦ ?_
    have hmem := h.mem_newlyStale hstale hrevision
    rw [Revision.staleIf]
    by_cases hreference : revision.ref ∈ stale
    · rw [if_pos hreference]
      by_cases hlifecycle : revision.lifecycle = .stale
      · rw [if_neg fun hid ↦ (hmem.mp hid).2 hlifecycle]
        cases revision
        cases hlifecycle
        rfl
      · rw [if_pos (hmem.mpr ⟨hreference, hlifecycle⟩)]
    · rw [if_neg fun hid ↦ hreference (hmem.mp hid).1, if_neg hreference]
  rw [ArtifactStore.markStale, hrows, ArtifactStore.staled]

theorem markRefsStale (h : Rows context s) (hnodup : stale.Nodup)
    (hstale : ∀ reference ∈ stale, reference ∈ s.revisions.map Revision.ref) :
    s.markRefsStale context stale = .ok (s.staled stale) := by
  rw [ArtifactStore.markRefsStale, h.length_newlyStale hnodup hstale, if_neg (not_not.mpr rfl),
    ← h.markStale_newlyStale hstale]
  split
  · rename_i hnone
    rw [markStages h.production, hnone]
    simp [ArtifactStore.markStale]
  · exact markStages (s := s.markStale (s.newlyStale stale)) h.production _

/-- **A revision is made stale with everything that depends on it.** -/
theorem markClosureStale (h : Rows context s) (hrevision : revision ∈ s.revisions) :
    ∃ stale, s.markClosureStale context revision.ref = .ok (s.staled stale) ∧
      ∀ reference, reference ∈ stale ↔ reference = revision.ref ∨
        TransGen (Feeds s.revisions) revision.ref reference := by
  obtain ⟨result, hresult, hok, hpicks⟩ :=
    staleDependentRevisions_eq_some (s.revisions.map Revision.node) [revision.ref]
  obtain ⟨dependents, rfl⟩ := hok.mpr ⟨h.wellFormed hrevision, h.not_cyclic⟩
  have hdependents := hpicks dependents rfl
  have hmem (reference : ArtifactRevisionRef) : reference ∈ revision.ref :: dependents ↔
      reference = revision.ref ∨ TransGen (Feeds s.revisions) revision.ref reference := by
    rw [List.mem_cons, hdependents.mem]
    simp only [List.mem_singleton, exists_eq_left]
    constructor
    · rintro (hself | ⟨-, hdepends⟩)
      exacts [.inl hself, .inr hdepends]
    · rintro (hself | hdepends)
      · exact .inl hself
      · by_cases hself : reference = revision.ref
        exacts [.inl hself, .inr ⟨hself, hdepends⟩]
  refine ⟨revision.ref :: dependents, ?_, hmem⟩
  refine bind_eq_ok.mpr ⟨_, h.dependencyNodes, ?_⟩
  rw [hresult]
  refine h.markRefsStale (List.nodup_cons.mpr ⟨fun hself ↦ ?_, hdependents.nodup⟩)
    fun reference hreference ↦ ?_
  · exact ((hdependents.mem _).mp hself).1 (List.mem_singleton_self _)
  · rcases List.mem_cons.mp hreference with rfl | hreference
    · exact List.mem_map_of_mem hrevision
    · rw [← map_node_revision]
      exact hdependents.sublist.mem hreference

end Rows

namespace ArtifactStore

theorem staled_nil (s : ArtifactStore) : s.staled [] = s := by
  rw [staled, List.map_congr_left fun revision _ ↦ revision.staleIf_nil, List.map_id'']
  exact fun _ ↦ rfl

theorem numbers_staled (s : ArtifactStore) (stale : List ArtifactRevisionRef)
    (artifactID : String) : (s.staled stale).numbers artifactID = s.numbers artifactID := by
  simp [numbers, staled, List.filter_map, Function.comp_def]

/-! ## Numbers -/

theorem mem_numbers {s : ArtifactStore} {artifactID : String} {number : ℤ} :
    number ∈ s.numbers artifactID ↔
      ∃ revision ∈ s.revisions, revision.artifactID = artifactID ∧ revision.revision = number := by
  simp [numbers, and_assoc]

theorem Numbered.mem_iff {s : ArtifactStore} (h : s.Numbered) {artifactID : String} {number : ℤ} :
    number ∈ s.numbers artifactID ↔ 1 ≤ number ∧ number ≤ (s.numbers artifactID).length := by
  rw [h artifactID, List.length_map, List.length_range]
  simp only [List.mem_map, List.mem_range]
  constructor
  · rintro ⟨i, hi, rfl⟩
    omega
  · rintro ⟨hpos, hle⟩
    exact ⟨(number - 1).toNat, by omega, by omega⟩

theorem Numbered.maximumRevision {s : ArtifactStore} (h : s.Numbered) (artifactID : String) :
    s.maximumRevision artifactID = (s.numbers artifactID).length := by
  rw [ArtifactStore.maximumRevision]
  change (s.numbers artifactID).max?.getD 0 = _
  rcases Nat.eq_zero_or_pos (s.numbers artifactID).length with hzero | hpos
  · rw [List.length_eq_zero_iff.mp hzero]
    rfl
  · have hmax : (s.numbers artifactID).max? = some ((s.numbers artifactID).length : ℤ) :=
      List.max?_eq_some_iff.mpr ⟨h.mem_iff.mpr ⟨by omega, le_rfl⟩, fun number hnumber ↦
        (h.mem_iff.mp hnumber).2⟩
    rw [hmax]
    rfl

/-- Another revision is stored under the next number. -/
theorem Numbered.append {s s' : ArtifactStore} (h : s.Numbered) {revision : Revision}
    (hrevisions : s'.revisions = s.revisions ++ [revision])
    (hnumber : revision.revision = (s.numbers revision.artifactID).length + 1) : s'.Numbered := by
  intro artifactID
  have hnumbers : s'.numbers artifactID = s.numbers artifactID ++
      if revision.artifactID = artifactID then [revision.revision] else [] := by
    simp only [numbers, hrevisions, List.filter_append, List.map_append]
    split_ifs with hartifact <;> simp [hartifact]
  rw [hnumbers]
  split_ifs with hartifact
  · subst hartifact
    rw [List.length_append, List.length_singleton, List.range_succ, List.map_append, ← h, hnumber]
    rfl
  · simpa using h artifactID

/-! ## Heads -/

theorem artifact?_id {s : ArtifactStore} {artifactID : String} {artifact : Artifact}
    (hfound : s.artifact? artifactID = some artifact) : artifact.id = artifactID := by
  simpa using List.find?_some hfound

theorem head_eq {s : ArtifactStore} {artifactID : String} {artifact : Artifact}
    (hfound : s.artifact? artifactID = some artifact) :
    s.head artifactID = artifact.headRevision := by
  rw [head, hfound]
  rfl

/-- An artifact has been found, or made without a head. -/
structure Opened (s s' : ArtifactStore) (artifactID : String) (artifact : Artifact) : Prop where
  revisions : s'.revisions = s.revisions
  bindings : s'.bindings = s.bindings
  production : s'.production = s.production
  adopted : s'.adopted = s.adopted
  found : s'.artifact? artifactID = some artifact
  heads : ∀ other, s'.head other = s.head other
  ids : ∀ row ∈ s'.artifacts, row ∈ s.artifacts ∨ row.id = artifactID

theorem openArtifact_eq_ok {s s' : ArtifactStore} {artifactID : String} {draft : ArtifactDraft}
    {lifecycle : ArtifactLifecycle} {artifact : Artifact}
    (hopen : s.openArtifact artifactID draft lifecycle = .ok (artifact, s')) :
    Opened s s' artifactID artifact := by
  unfold openArtifact at hopen
  split at hopen
  · rename_i hfound
    cases hopen
    exact ⟨rfl, rfl, rfl, rfl, hfound, fun _ ↦ rfl, fun _ ↦ .inl⟩
  · rename_i hnone
    obtain ⟨-, hopen⟩ := refuse_eq_ok.mp hopen
    cases hopen
    have hnew (other : String) : ArtifactStore.artifact?
        { s with artifacts := s.artifacts ++
          [⟨artifactID, draft.artifactKey, draft.kind, 0, lifecycle, 1⟩] } other =
        (s.artifact? other).or (if artifactID = other then
          some ⟨artifactID, draft.artifactKey, draft.kind, 0, lifecycle, 1⟩ else none) := by
      simp only [artifact?, List.find?_append, List.find?_singleton, decide_eq_true_eq]
    refine ⟨rfl, rfl, rfl, rfl, ?_, fun other ↦ ?_, fun row hrow ↦ ?_⟩
    · rw [hnew, hnone, if_pos rfl]
      rfl
    · rw [head, hnew, head]
      cases hother : s.artifact? other with
      | some _ => rfl
      | none => split_ifs <;> rfl
    · rcases List.mem_append.mp hrow with hrow | hrow
      · exact .inl hrow
      · rw [List.mem_singleton.mp hrow]
        exact .inr rfl

theorem head_moveHead {s : ArtifactStore} {artifact : Artifact}
    (hfound : s.artifact? artifact.id = some artifact) (other : String) :
    (s.moveHead artifact).head other =
      if other = artifact.id then artifact.headRevision + 1 else s.head other := by
  have hrow : (s.moveHead artifact).artifact? other = (s.artifact? other).map fun stored ↦
      if stored.id = artifact.id then
        { stored with headRevision := artifact.headRevision + 1, version := artifact.version + 1 }
      else stored := by
    rw [artifact?, moveHead, List.find?_map]
    congr 2
    funext stored
    simp only [Function.comp_apply]
    split_ifs <;> rfl
  rw [head, hrow]
  split_ifs with hother
  · rw [hother, hfound]
    simp
  · rw [head]
    cases hstored : s.artifact? other with
    | none => rfl
    | some stored =>
      have hid := artifact?_id hstored
      simp [hid, hother]

theorem ids_moveHead {s : ArtifactStore} {artifact row : Artifact}
    (hrow : row ∈ (s.moveHead artifact).artifacts) :
    ∃ stored ∈ s.artifacts, row.id = stored.id := by
  obtain ⟨stored, hstored, rfl⟩ := List.mem_map.mp hrow
  exact ⟨stored, hstored, by split_ifs <;> rfl⟩

end ArtifactStore

end HMaigc.Artifacts
