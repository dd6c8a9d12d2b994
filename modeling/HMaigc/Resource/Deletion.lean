import HMaigc.Resource.References
import Mathlib.Data.List.Sort
import Mathlib.Data.List.Dedup

/-!
# Deleting an asset and the media only it uses

Deleting an asset removes the stored objects of the resources that nothing else uses.  Whether a
document uses a resource is decided on its JSON, but only the documents whose raw text matches
`%resource:<id>%` are looked at, and a document may name a resource by its address as well, or
spell the storage key with escapes.

## What is here

* `Documents`, `MediaTables` — the documents that can name a resource, and everything else a
  deletion reads.
* `potentialResourcePayloadDocuments`, `assetExclusiveResources`, `deleteUserAsset` — the
  prefilter, what is to be removed, and the deletion.  The object storage is a parameter that may
  fail at any object.
* `Overlooked` — a resource that another document names, although every document the prefilter
  returns is readable and does not name it.
* `removesOnlyUnused_iff` — the deletion removes no object that is still in use, whatever the other
  tables hold and however the storage fails, exactly when no resource is overlooked.
-/

set_option autoImplicit false

namespace HMaigc

open Go Sql

/-! ## Data -/

inductive ResourceStatus
  | pending
  | ready
  | failed
  | deleted
  deriving DecidableEq

inductive StorageMigrationItemStatus
  | pending
  | running
  | committed
  | failed
  deriving DecidableEq

structure AssetRow where
  id : String
  userID : String
  payloadJSON : String
  deriving DecidableEq

structure CanvasRow where
  id : String
  payloadJSON : String
  deriving DecidableEq

structure SessionRow where
  id : String
  canvasSnapshotJSON : String
  canvasOpsJSON : String
  deriving DecidableEq

/-- The tables whose rows hold documents. -/
structure Documents where
  assets : List AssetRow
  canvases : List CanvasRow
  sessions : List SessionRow

structure ResourceRow where
  id : String
  userID : String
  teamID : String
  status : ResourceStatus
  provider : String
  objectKey : String
  deriving DecidableEq

structure AssetVersionRow where
  id : String
  assetID : String

structure AssetRepresentationRow where
  assetVersionID : String
  resourceID : String

structure VoiceProfileRow where
  sampleResourceID : String

structure MigrationItemRow where
  resourceID : String
  status : StorageMigrationItemStatus

structure ProjectAssetLinkRow where
  assetID : String

structure ShotAssetReferenceRow where
  assetVersionID : String

/-- The tables a deletion reads besides the documents. -/
structure MediaTables where
  resources : List ResourceRow
  assetVersions : List AssetVersionRow
  assetRepresentations : List AssetRepresentationRow
  voiceProfiles : List VoiceProfileRow
  storageMigrationItems : List MigrationItemRow
  projectAssetLinks : List ProjectAssetLinkRow
  shotAssetReferences : List ShotAssetReferenceRow

/-- Why a deletion ends early. -/
inductive DeletionError
  | recordNotFound
  | badRequest (message : String)
  | failed (message : String)
  deriving DecidableEq

/-! ## The repository's queries -/

structure ResourcePayloadDocument where
  kind : String
  id : String
  payloadJSON : String
  deriving DecidableEq

def Documents.assetForUser (docs : Documents) (userID id : String) : Option AssetRow :=
  docs.assets.find? fun row ↦ row.id == id && row.userID == userID

def MediaTables.resourceForUser (tables : MediaTables) (userID id : String) : Option ResourceRow :=
  tables.resources.find? fun row ↦ row.id == id && row.userID == userID

def MediaTables.resource (tables : MediaTables) (id : String) : Option ResourceRow :=
  tables.resources.find? fun row ↦ row.id == id

/-- The versions of an asset, as the joins of the queries select them. -/
def MediaTables.versionIDs (tables : MediaTables) (assetID : String) : List String :=
  (tables.assetVersions.filter (·.assetID == assetID)).map (·.id)

def MediaTables.assetReferenceCount (tables : MediaTables) (assetID : String) : ℕ :=
  tables.projectAssetLinks.countP (·.assetID == assetID) +
    tables.shotAssetReferences.countP (·.assetVersionID ∈ tables.versionIDs assetID)

def MediaTables.assetRepresentationResourceIDs (tables : MediaTables) (assetID : String) :
    List String :=
  ((tables.assetRepresentations.filter fun row ↦
    row.assetVersionID ∈ tables.versionIDs assetID && row.resourceID != "").map
      (·.resourceID)).dedup

/-- Does another asset's representation, or a voice profile, hold the resource? -/
def MediaTables.resourceHasExplicitReferenceOutsideAsset (tables : MediaTables)
    (resourceID assetID : String) : Bool :=
  tables.assetRepresentations.any (fun row ↦ row.resourceID == resourceID &&
    tables.assetVersions.any fun version ↦
      version.id == row.assetVersionID && version.assetID != assetID) ||
  tables.voiceProfiles.any (·.sampleResourceID == resourceID)

def MediaTables.resourceHasActiveStorageMigration (tables : MediaTables) (resourceID : String) :
    Bool :=
  tables.storageMigrationItems.any fun row ↦
    row.resourceID == resourceID && (row.status == .pending || row.status == .running)

/-- The pattern the prefilter looks for. -/
def resourcePattern (resourceID : String) : List Char :=
  containing (resourceScheme ++ resourceID.toList)

/-- `payload_json LIKE pattern`. -/
def matchesResource (resourceID payloadJSON : String) : Bool :=
  like (resourcePattern resourceID) payloadJSON.toList

def assetDocument (row : AssetRow) : ResourcePayloadDocument :=
  ⟨"asset", row.id, row.payloadJSON⟩

def canvasDocument (row : CanvasRow) : ResourcePayloadDocument :=
  ⟨"canvas", row.id, row.payloadJSON⟩

/-- The documents of a session, the empty ones left out. -/
def sessionDocuments (row : SessionRow) : List ResourcePayloadDocument :=
  (if row.canvasSnapshotJSON ≠ "" then
    [⟨"session_snapshot", row.id, row.canvasSnapshotJSON⟩] else []) ++
  (if row.canvasOpsJSON ≠ "" then
    [⟨"session_operations", row.id, row.canvasOpsJSON⟩] else [])

/-- The prefilter. -/
def potentialResourcePayloadDocuments (docs : Documents) (resourceID excludedAssetID : String) :
    List ResourcePayloadDocument :=
  ((docs.assets.filter fun row ↦
    row.id != excludedAssetID && matchesResource resourceID row.payloadJSON).map assetDocument) ++
  ((docs.canvases.filter fun row ↦
    matchesResource resourceID row.payloadJSON).map canvasDocument) ++
  ((docs.sessions.filter fun row ↦
    matchesResource resourceID row.canvasSnapshotJSON ||
      matchesResource resourceID row.canvasOpsJSON).flatMap sessionDocuments)

/-! ## What an asset uses alone -/

/-- The loop over the documents the prefilter returned. -/
def referencedIn (resourceID : String) : List ResourcePayloadDocument → Except DeletionError Bool
  | [] => .ok false
  | document :: rest =>
    match structuredPayloadResourceIDs document.payloadJSON with
    | none => .error (.failed (document.kind ++ " " ++ document.id ++ " 数据损坏，无法确认资源 " ++
        resourceID ++ " 是否仍被引用"))
    | some resourceIDs => if resourceID ∈ resourceIDs then .ok true else referencedIn resourceID rest

def resourceReferencedOutsideAsset (docs : Documents) (tables : MediaTables)
    (resourceID assetID : String) : Except DeletionError Bool :=
  if tables.resourceHasExplicitReferenceOutsideAsset resourceID assetID then .ok true
  else referencedIn resourceID (potentialResourcePayloadDocuments docs resourceID assetID)

/-- The loop over the resources an asset names. -/
def exclusiveAmong (docs : Documents) (tables : MediaTables) (asset : AssetRow) :
    List String → Except DeletionError (List ResourceRow)
  | [] => .ok []
  | resourceID :: rest =>
    match tables.resourceForUser asset.userID resourceID with
    | none =>
      match tables.resource resourceID with
      | none => exclusiveAmong docs tables asset rest
      | some existingResource =>
        if existingResource.userID ≠ asset.userID then
          .error (.badRequest "素材包含不属于当前账号的资源引用，无法删除")
        else .error (.failed ("素材 " ++ asset.id ++ " 的资源归属校验失败：" ++ resourceID))
    | some resource =>
      if resource.teamID ≠ "" ∨ resource.status = .deleted then exclusiveAmong docs tables asset rest
      else if tables.resourceHasActiveStorageMigration resource.id then
        .error (.badRequest "素材资源正在迁移到 OSS，请等待迁移完成后再删除")
      else do
        let referenced ← resourceReferencedOutsideAsset docs tables resource.id asset.id
        let resources ← exclusiveAmong docs tables asset rest
        return if referenced then resources else resource :: resources

/-- The resources of an asset in the order they are looked at. -/
def orderedResourceIDs (tables : MediaTables) (asset : AssetRow) (resourceIDs : List String) :
    List String :=
  (resourceIDs ++ tables.assetRepresentationResourceIDs asset.id).dedup.insertionSort
    (fun a b ↦ ¬b < a)

def assetExclusiveResources (docs : Documents) (tables : MediaTables) (asset : AssetRow) :
    Except DeletionError (List ResourceRow) :=
  match structuredPayloadResourceIDs asset.payloadJSON with
  | none => .error (.failed ("素材 " ++ asset.id ++ " 数据损坏，无法安全删除关联资源"))
  | some resourceIDs =>
    exclusiveAmong docs tables asset (orderedResourceIDs tables asset resourceIDs)

/-! ## The deletion -/

/-- What a request to the object storage comes to.  One that is answered with an error may have
removed the object all the same. -/
inductive Removal
  | removed
  | removedUnconfirmed
  | refused
  deriving DecidableEq

/-- `deleteStoredResourceObject`: was the object removed, and did the call succeed? -/
def deleteStoredResourceObject (storage : ResourceRow → Removal) (resource : ResourceRow) :
    Bool × Except DeletionError Unit :=
  if resource.provider = "local" ∨ resource.provider = "aliyun" then
    match storage resource with
    | .removed => (true, .ok ())
    | .removedUnconfirmed =>
      (true, .error (.failed ("删除素材资源 " ++ resource.id ++ " 失败")))
    | .refused => (false, .error (.failed ("删除素材资源 " ++ resource.id ++ " 失败")))
  else (false, .error (.failed ("删除素材资源 " ++ resource.id ++ " 失败：不支持删除资源存储渠道 \"" ++
    resource.provider ++ "\"")))

/-- The loop over the objects: those that were removed, and how it ended. -/
def deleteObjects (storage : ResourceRow → Removal) :
    List ResourceRow → List ResourceRow × Except DeletionError Unit
  | [] => ([], .ok ())
  | resource :: rest =>
    let first := deleteStoredResourceObject storage resource
    match first.2 with
    | .error e => (if first.1 then [resource] else [], .error e)
    | .ok () => (resource :: (deleteObjects storage rest).1, (deleteObjects storage rest).2)

/-- `DeleteAssetAndMarkResourcesDeleted`, as one transaction. -/
def deleteAssetAndMarkResourcesDeleted (docs : Documents) (tables : MediaTables)
    (userID assetID : String) (resourceIDs : List String) : Documents × MediaTables :=
  ({ docs with
      assets := docs.assets.filter fun row ↦ !(row.id == assetID && row.userID == userID) },
   { tables with
      assetRepresentations := tables.assetRepresentations.filter fun row ↦
        row.assetVersionID ∉ tables.versionIDs assetID
      assetVersions := tables.assetVersions.filter (·.assetID != assetID)
      resources := tables.resources.map fun row ↦
        if row.id ∈ resourceIDs ∧ row.userID = userID then { row with status := .deleted }
        else row })

/-- What a deletion leaves: the objects it removed, the tables, and how it ended. -/
structure Deleted where
  removed : List ResourceRow
  docs : Documents
  tables : MediaTables
  result : Except DeletionError Unit

def deleteUserAsset (storage : ResourceRow → Removal) (docs : Documents) (tables : MediaTables)
    (userID id : String) : Deleted :=
  match docs.assetForUser userID id with
  | none => ⟨[], docs, tables, .error .recordNotFound⟩
  | some asset =>
    if tables.assetReferenceCount id > 0 then
      ⟨[], docs, tables, .error (.badRequest "素材仍被项目或镜头引用，请先解除引用")⟩
    else match assetExclusiveResources docs tables asset with
      | .error e => ⟨[], docs, tables, .error e⟩
      | .ok resources =>
        let objects := deleteObjects storage resources
        match objects.2 with
        | .error e => ⟨objects.1, docs, tables, .error e⟩
        | .ok () =>
          let after := deleteAssetAndMarkResourcesDeleted docs tables userID id
            (resources.map (·.id))
          ⟨objects.1, after.1, after.2, .ok ()⟩

/-! ## What must not happen -/

/-- The rows that hold documents besides an asset's, each as the documents it holds. -/
def otherRows (docs : Documents) (assetID : String) : List (List ResourcePayloadDocument) :=
  ((docs.assets.filter (·.id != assetID)).map ([assetDocument ·])) ++
    docs.canvases.map ([canvasDocument ·]) ++ docs.sessions.map sessionDocuments

/-- The document names the resource. -/
def ResourcePayloadDocument.Names (document : ResourcePayloadDocument) (resourceID : String) :
    Prop :=
  ∃ resourceIDs, structuredPayloadResourceIDs document.payloadJSON = some resourceIDs ∧
    resourceID ∈ resourceIDs

/-- The document is readable and does not name the resource. -/
def ResourcePayloadDocument.Lacks (document : ResourcePayloadDocument) (resourceID : String) :
    Prop :=
  ∃ resourceIDs, structuredPayloadResourceIDs document.payloadJSON = some resourceIDs ∧
    resourceID ∉ resourceIDs

/-- Whatever the other tables hold and however the storage answers, the deletion of the asset
removes no object that another document names. -/
def RemovesOnlyUnused (docs : Documents) (userID id : String) : Prop :=
  ∀ (storage : ResourceRow → Removal) (tables : MediaTables),
    ∀ resource ∈ (deleteUserAsset storage docs tables userID id).removed,
      ∀ row ∈ otherRows docs id, ∀ document ∈ row, ¬document.Names resource.id

/-- The prefilter returns every document that names a resource. -/
def PrefilterComplete (docs : Documents) (assetID : String) : Prop :=
  ∀ resourceID, ∀ row ∈ otherRows docs assetID, ∀ document ∈ row, document.Names resourceID →
    document ∈ potentialResourcePayloadDocuments docs resourceID assetID

/-- Some document besides the asset's names the resource, and the documents the prefilter returns
are all readable and do not. -/
def Overlooked (docs : Documents) (assetID resourceID : String) : Prop :=
  (∃ row ∈ otherRows docs assetID, ∃ document ∈ row, document.Names resourceID) ∧
    ∀ document ∈ potentialResourcePayloadDocuments docs resourceID assetID,
      document.Lacks resourceID

/-! ## The prefilter -/

theorem toList_resourceColon :
    "resource:".toList = ['r', 'e', 's', 'o', 'u', 'r', 'c', 'e', ':'] := by simp

theorem resourceScheme_plain : ∀ c ∈ resourceScheme, c ≠ '%' ∧ c ≠ '_' ∧ c ≠ '\\' := by
  unfold resourceScheme
  rw [toList_resourceColon]
  simp

theorem resourceScheme_ne_nil : resourceScheme ≠ [] := by
  unfold resourceScheme
  rw [toList_resourceColon]
  exact List.cons_ne_nil _ _

theorem not_isWildcard_of_mem_resourceScheme {c : Char} (hc : c ∈ resourceScheme) :
    ¬IsWildcard c := by
  obtain ⟨hpercent, hunderscore, hescape⟩ := resourceScheme_plain c hc
  rintro (h | h | h)
  · exact hpercent h
  · exact hunderscore h
  · exact hescape h

/-- An empty text matches no pattern of the prefilter. -/
theorem matchesResource_empty (resourceID : String) : matchesResource resourceID "" = false := by
  rw [Bool.eq_false_iff]
  intro h
  unfold matchesResource resourcePattern containing at h
  obtain ⟨before, after, happ, hlike⟩ := like_percent.1 h
  obtain ⟨-, rfl⟩ : before = [] ∧ after = [] := by simpa using happ.symm
  rw [List.append_assoc] at hlike
  obtain ⟨rest, hnil, -⟩ := (like_append fun c ↦ not_isWildcard_of_mem_resourceScheme).1 hlike
  exact resourceScheme_ne_nil (List.append_eq_nil_iff.1 hnil.symm).1

/-- A session matches by one of the documents it holds. -/
theorem any_sessionDocuments (resourceID : String) (row : SessionRow) :
    ((sessionDocuments row).any fun document ↦ matchesResource resourceID document.payloadJSON) =
      (matchesResource resourceID row.canvasSnapshotJSON ||
        matchesResource resourceID row.canvasOpsJSON) := by
  by_cases hsnapshot : row.canvasSnapshotJSON = "" <;> by_cases hops : row.canvasOpsJSON = "" <;>
    simp [sessionDocuments, hsnapshot, hops, matchesResource_empty]

/-- **The prefilter returns the rows of which one document matches the pattern.** -/
theorem mem_potentialResourcePayloadDocuments {docs : Documents} {resourceID assetID : String}
    {document : ResourcePayloadDocument} :
    document ∈ potentialResourcePayloadDocuments docs resourceID assetID ↔
      ∃ row ∈ otherRows docs assetID, document ∈ row ∧
        ∃ spelled ∈ row, matchesResource resourceID spelled.payloadJSON = true := by
  simp only [potentialResourcePayloadDocuments, otherRows, List.mem_append, List.mem_map,
    List.mem_filter, List.mem_flatMap]
  constructor
  · rintro ((⟨row, ⟨hrow, hkeep⟩, rfl⟩ | ⟨row, ⟨hrow, hkeep⟩, rfl⟩) | ⟨row, ⟨hrow, hkeep⟩, hmem⟩)
    · rw [Bool.and_eq_true] at hkeep
      exact ⟨_, .inl (.inl ⟨row, ⟨hrow, hkeep.1⟩, rfl⟩), by simp, assetDocument row, by simp,
        hkeep.2⟩
    · exact ⟨_, .inl (.inr ⟨row, hrow, rfl⟩), by simp, canvasDocument row, by simp, hkeep⟩
    · rw [← any_sessionDocuments, List.any_eq_true] at hkeep
      exact ⟨_, .inr ⟨row, hrow, rfl⟩, hmem, hkeep⟩
  · rintro ⟨_, (⟨row, ⟨hrow, hother⟩, rfl⟩ | ⟨row, hrow, rfl⟩) | ⟨row, hrow, rfl⟩, hmem, spelled, hspelled, hlike⟩
    · rw [List.mem_singleton] at hmem hspelled
      subst hmem hspelled
      exact .inl (.inl ⟨row, ⟨hrow, by rw [hother]; exact hlike⟩, rfl⟩)
    · rw [List.mem_singleton] at hmem hspelled
      subst hmem hspelled
      exact .inl (.inr ⟨row, ⟨hrow, hlike⟩, rfl⟩)
    · refine .inr ⟨row, ⟨hrow, ?_⟩, hmem⟩
      rw [← any_sessionDocuments, List.any_eq_true]
      exact ⟨spelled, hspelled, hlike⟩

/-! ## What a deletion removes -/

/-- Only objects from the list are removed. -/
theorem deleteObjects_subset (storage : ResourceRow → Removal) (resources : List ResourceRow) :
    (deleteObjects storage resources).1 ⊆ resources := by
  induction resources with
  | nil => simp [deleteObjects]
  | cons resource rest ih =>
    rw [deleteObjects]
    split
    · split <;> simp
    · exact List.cons_subset_cons resource ih

/-- The scan of the documents answers no only where all of them are readable and lack the
resource. -/
theorem referencedIn_eq_false {resourceID : String} {documents : List ResourcePayloadDocument} :
    referencedIn resourceID documents = .ok false ↔
      ∀ document ∈ documents, document.Lacks resourceID := by
  induction documents with
  | nil => simp [referencedIn]
  | cons document rest ih =>
    rw [referencedIn, List.forall_mem_cons]
    cases hparse : structuredPayloadResourceIDs document.payloadJSON with
    | none => simp [ResourcePayloadDocument.Lacks, hparse]
    | some resourceIDs =>
      by_cases hmem : resourceID ∈ resourceIDs
      · simp [ResourcePayloadDocument.Lacks, hparse, hmem]
      · have hlacks : document.Lacks resourceID := ⟨resourceIDs, hparse, hmem⟩
        simp only [if_neg hmem, ih, hlacks, true_and]

/-- Every resource that is to be removed has been looked for in the documents. -/
theorem exclusiveAmong_ok {docs : Documents} {tables : MediaTables} {asset : AssetRow}
    {resourceIDs : List String} {resources : List ResourceRow}
    (h : exclusiveAmong docs tables asset resourceIDs = .ok resources) :
    ∀ resource ∈ resources,
      resourceReferencedOutsideAsset docs tables resource.id asset.id = .ok false := by
  induction resourceIDs generalizing resources with
  | nil =>
    cases h
    simp
  | cons resourceID rest ih =>
    rw [exclusiveAmong] at h
    split at h
    · split at h
      · exact ih h
      · split at h <;> cases h
    · rename_i found _
      split at h
      · exact ih h
      · split at h
        · cases h
        · cases hreferenced : resourceReferencedOutsideAsset docs tables found.id asset.id with
          | error e => rw [hreferenced] at h; cases h
          | ok referenced =>
            rw [hreferenced] at h
            cases hrest : exclusiveAmong docs tables asset rest with
            | error e => rw [hrest] at h; cases h
            | ok others =>
              rw [hrest] at h
              have hih := ih hrest
              cases referenced with
              | true =>
                cases h
                exact hih
              | false =>
                cases h
                exact List.forall_mem_cons.2 ⟨hreferenced, hih⟩

theorem assetForUser_id {docs : Documents} {userID id : String} {asset : AssetRow}
    (h : docs.assetForUser userID id = some asset) : asset.id = id := by
  have hkey := List.find?_some h
  rw [Bool.and_eq_true, beq_iff_eq] at hkey
  exact hkey.1

/-- **What a deletion removes was found in no document of the prefilter.**  The asset exists, its
document is readable, and every document of the prefilter is readable and lacks the resource. -/
theorem removed_of_deleteUserAsset {storage : ResourceRow → Removal} {docs : Documents}
    {tables : MediaTables} {userID id : String} {resource : ResourceRow}
    (h : resource ∈ (deleteUserAsset storage docs tables userID id).removed) :
    ∃ asset, docs.assetForUser userID id = some asset ∧
      (structuredPayloadResourceIDs asset.payloadJSON).isSome ∧
      ∀ document ∈ potentialResourcePayloadDocuments docs resource.id id,
        document.Lacks resource.id := by
  rw [deleteUserAsset] at h
  split at h
  · simp at h
  · rename_i asset hasset
    split at h
    · simp at h
    · split at h
      · simp at h
      · rename_i resources hexclusive
        have hmem : resource ∈ resources := by
          refine deleteObjects_subset storage resources ?_
          dsimp only at h
          split at h <;> exact h
        refine ⟨asset, hasset, ?_⟩
        rw [assetExclusiveResources] at hexclusive
        split at hexclusive
        · cases hexclusive
        · rename_i resourceIDs hparse
          have hunreferenced := exclusiveAmong_ok hexclusive resource hmem
          rw [resourceReferencedOutsideAsset, assetForUser_id hasset] at hunreferenced
          split at hunreferenced
          · cases hunreferenced
          · exact ⟨by rw [hparse]; rfl, referencedIn_eq_false.1 hunreferenced⟩

/-! ## A resource that is overlooked can be removed -/

/-- The row of a resource nothing else is known of. -/
def strayResource (userID r : String) : ResourceRow := ⟨r, userID, "", .ready, "local", ""⟩

/-- The tables where the asset has one representation, the stray resource. -/
def strayTables (userID assetID r : String) : MediaTables where
  resources := [strayResource userID r]
  assetVersions := [⟨"version", assetID⟩]
  assetRepresentations := [⟨"version", r⟩]
  voiceProfiles := []
  storageMigrationItems := []
  projectAssetLinks := []
  shotAssetReferences := []

theorem strayTables_explicit (userID assetID r : String) :
    (strayTables userID assetID r).resourceHasExplicitReferenceOutsideAsset r assetID = false := by
  simp [strayTables, MediaTables.resourceHasExplicitReferenceOutsideAsset]

theorem exclusiveAmong_strayTables {docs : Documents} {asset : AssetRow} {r : String}
    (hlacks : ∀ document ∈ potentialResourcePayloadDocuments docs r asset.id, document.Lacks r)
    (resourceIDs : List String) :
    exclusiveAmong docs (strayTables asset.userID asset.id r) asset resourceIDs =
      .ok ((resourceIDs.filter (· = r)).map fun _ ↦ strayResource asset.userID r) := by
  induction resourceIDs with
  | nil => rfl
  | cons resourceID rest ih =>
    rw [exclusiveAmong, ih]
    by_cases hr : resourceID = r
    · subst hr
      have hfound : (strayTables asset.userID asset.id resourceID).resourceForUser asset.userID
          resourceID = some (strayResource asset.userID resourceID) := by
        simp [MediaTables.resourceForUser, strayTables, strayResource]
      have hunreferenced : resourceReferencedOutsideAsset docs
          (strayTables asset.userID asset.id resourceID) resourceID asset.id = .ok false := by
        rw [resourceReferencedOutsideAsset, strayTables_explicit]
        exact referencedIn_eq_false.2 hlacks
      have hmigration : (strayTables asset.userID asset.id
          resourceID).resourceHasActiveStorageMigration resourceID = false := rfl
      rw [hfound]
      dsimp only [strayResource]
      rw [hmigration, hunreferenced]
      simp
      rfl
    · have hnot : (strayTables asset.userID asset.id r).resourceForUser asset.userID resourceID =
          none := by
        simp [MediaTables.resourceForUser, strayTables, strayResource, Ne.symm hr]
      have hnone : (strayTables asset.userID asset.id r).resource resourceID = none := by
        simp [MediaTables.resource, strayTables, strayResource, Ne.symm hr]
      rw [hnot, hnone]
      simp [hr]

theorem mem_orderedResourceIDs {tables : MediaTables} {asset : AssetRow}
    {resourceIDs : List String} {r : String} :
    r ∈ orderedResourceIDs tables asset resourceIDs ↔
      r ∈ resourceIDs ∨ r ∈ tables.assetRepresentationResourceIDs asset.id := by
  rw [orderedResourceIDs, List.mem_insertionSort, List.mem_dedup, List.mem_append]

/-- A storage that refuses nothing removes every copy of the row. -/
theorem deleteObjects_stray (userID r : String) (ids : List String) :
    deleteObjects (fun _ ↦ .removed) (ids.map fun _ ↦ strayResource userID r) =
      (ids.map fun _ ↦ strayResource userID r, .ok ()) := by
  induction ids with
  | nil => rfl
  | cons id ids ih =>
    rw [List.map_cons, deleteObjects, ih]
    rfl

/-- The stray resource is removed when the documents of the prefilter lack it. -/
theorem removed_strayTables {docs : Documents} {userID id r : String} {asset : AssetRow}
    (hasset : docs.assetForUser userID id = some asset)
    (hreadable : (structuredPayloadResourceIDs asset.payloadJSON).isSome) (hr : r ≠ "")
    (hlacks : ∀ document ∈ potentialResourcePayloadDocuments docs r id, document.Lacks r) :
    strayResource asset.userID r ∈
      (deleteUserAsset (fun _ ↦ .removed) docs (strayTables asset.userID id r) userID id).removed := by
  obtain ⟨resourceIDs, hparse⟩ := Option.isSome_iff_exists.1 hreadable
  have hid := assetForUser_id hasset
  subst hid
  have hcount : (strayTables asset.userID asset.id r).assetReferenceCount asset.id = 0 := rfl
  have hrepresentation : r ∈
      (strayTables asset.userID asset.id r).assetRepresentationResourceIDs asset.id := by
    simp [MediaTables.assetRepresentationResourceIDs, strayTables, MediaTables.versionIDs, hr]
  have hmem : r ∈ orderedResourceIDs (strayTables asset.userID asset.id r) asset resourceIDs :=
    mem_orderedResourceIDs.2 (.inr hrepresentation)
  rw [deleteUserAsset, hasset]
  dsimp only
  rw [hcount, if_neg (by decide), assetExclusiveResources, hparse]
  dsimp only
  rw [exclusiveAmong_strayTables hlacks]
  dsimp only
  rw [deleteObjects_stray]
  dsimp only
  rw [List.mem_map]
  exact ⟨r, List.mem_filter.2 ⟨hmem, by simp⟩, rfl⟩

theorem ResourcePayloadDocument.Names.valid {document : ResourcePayloadDocument} {r : String}
    (h : document.Names r) : IsResourceID r := by
  obtain ⟨resourceIDs, hparse, hr⟩ := h
  exact structuredPayloadResourceIDs_valid hparse hr

/-- **When deleting an asset removes only media that is no longer in use.**  For every collection
of documents: the deletion of a readable asset removes no object that another document names,
whatever the other tables hold and however the storage answers, exactly when no resource is
overlooked; and the prefilter returns every document that names a resource exactly when each of
them stands in a row that matches the pattern. -/
theorem removesOnlyUnused_iff (docs : Documents) (userID id : String) :
    (RemovesOnlyUnused docs userID id ↔
      ∀ asset, docs.assetForUser userID id = some asset →
        (structuredPayloadResourceIDs asset.payloadJSON).isSome → ∀ r, ¬Overlooked docs id r) ∧
    (PrefilterComplete docs id ↔
      ∀ r, ∀ row ∈ otherRows docs id, ∀ document ∈ row, document.Names r →
        ∃ matched ∈ otherRows docs id, document ∈ matched ∧
          ∃ spelled ∈ matched, matchesResource r spelled.payloadJSON = true) := by
  constructor
  · constructor
    · intro hsafe asset hasset hreadable r ⟨⟨row, hrow, document, hdocument, hnames⟩, hlacks⟩
      have hremoved := removed_strayTables hasset hreadable hnames.valid.1 hlacks
      exact hsafe _ _ _ hremoved row hrow document hdocument hnames
    · intro hnone storage tables resource hresource row hrow document hdocument hnames
      obtain ⟨asset, hasset, hreadable, hlacks⟩ := removed_of_deleteUserAsset hresource
      exact hnone asset hasset hreadable resource.id
        ⟨⟨row, hrow, document, hdocument, hnames⟩, hlacks⟩
  · simp only [PrefilterComplete, mem_potentialResourcePayloadDocuments]

/-- A canvas that names the resource `r1` by its address, and an asset that names it too. -/
def addressedDocuments : Documents where
  assets := [⟨"asset-1", "user-1", "\x7b\"storageKey\":\"resource:r1\"\x7d"⟩]
  canvases := [⟨"canvas-1", "\x7b\"storageKey\":\"/api/resources/r1/file\"\x7d"⟩]
  sessions := []

/-- **Media in use is deleted.**  The canvas names the resource by its address, which the prefilter
does not look for, and so the object is removed with the asset. -/
theorem exists_used_removed :
    ¬RemovesOnlyUnused addressedDocuments "user-1" "asset-1" ∧
      ¬PrefilterComplete addressedDocuments "asset-1" := by
  let canvas : CanvasRow := ⟨"canvas-1", "\x7b\"storageKey\":\"/api/resources/r1/file\"\x7d"⟩
  have hrow : [canvasDocument canvas] ∈ otherRows addressedDocuments "asset-1" := by decide +kernel
  have hnames : (canvasDocument canvas).Names "r1" :=
    ⟨["r1"], by decide +kernel, by decide⟩
  have hfiltered : potentialResourcePayloadDocuments addressedDocuments "r1" "asset-1" = [] := by
    decide +kernel
  constructor
  · intro hsafe
    let asset : AssetRow := ⟨"asset-1", "user-1", "\x7b\"storageKey\":\"resource:r1\"\x7d"⟩
    have hasset : addressedDocuments.assetForUser "user-1" "asset-1" = some asset := by
      decide +kernel
    have hreadable : (structuredPayloadResourceIDs asset.payloadJSON).isSome := by decide +kernel
    have hremoved := removed_strayTables hasset hreadable (by decide : "r1" ≠ "")
      (by rw [hfiltered]; simp)
    exact hsafe _ _ _ hremoved _ hrow _ (by simp) hnames
  · intro hcomplete
    have hmem := hcomplete "r1" _ hrow _ (by simp) hnames
    rw [hfiltered] at hmem
    simp at hmem

end HMaigc
