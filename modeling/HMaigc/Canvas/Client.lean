import HMaigc.Js.Value
import HMaigc.Keyed.Patch

/-!
# The browser's copy of a canvas

`web/src/lib/canvas/canvas-collaboration-document.ts`: the browser sends what the user did to a
canvas as the difference of two documents, and applies the patches it receives.

* `diffCanvasCollaborationDocument`, `applyCanvasMutationPatch` — the two functions, over
  `Keyed.upsertsOf`, `Keyed.deletesOf` and `Keyed.applyPatch`.
* `Agrees` — two documents written alike: `sameValue` compares what `JSON.stringify` writes, so this
  is what the code takes for equal.
* `canvasDiff_roundTrip` — the difference leads from the one document to the other, and is empty
  exactly between documents written alike.
* `canvasDiff_of_reordered` — documents with equal values may be written differently.
-/

set_option autoImplicit false

namespace HMaigc.Browser

open Js Keyed

/-- `CanvasBackgroundMode`. -/
inductive CanvasBackgroundMode where
  | dots
  | lines
  | blank
  deriving DecidableEq, Repr

/-- A `T extends { id: string }`: a `CanvasNodeData` or a `CanvasConnection`. -/
structure Entity where
  id : String
  properties : List (String × Value)
  hasId : properties.lookup "id" = some (.string id)

namespace Entity

def value (item : Entity) : Value := .object item.properties

/-- `JSON.stringify(item)`. -/
def text (item : Entity) : Option (List Char) := stringify item.value

end Entity

/-- `sameValue`. -/
def sameValue (left right : Value) : Bool := stringify left = stringify right

structure CanvasCollaborationDocument where
  title : String
  nodes : List Entity
  connections : List Entity
  backgroundMode : CanvasBackgroundMode
  showImageInfo : Bool
  directorScenes : List Value

structure CanvasDocumentPatch where
  title : Option String := none
  backgroundMode : Option CanvasBackgroundMode := none
  showImageInfo : Option Bool := none
  directorScenes : Option (List Value) := none

structure CanvasMutationPatch where
  upsertNodes : Option (List Entity) := none
  deleteNodeIds : Option (List String) := none
  upsertConnections : Option (List Entity) := none
  deleteConnectionIds : Option (List String) := none
  document : Option CanvasDocumentPatch := none

/-! ## Differences -/

/-- `patch.list?.length` as a condition. -/
def nonEmpty {α : Type} (list : Option (List α)) : Option (List α) :=
  list.filter fun l ↦ !l.isEmpty

/-- `Object.keys(document).length` is not zero. -/
def CanvasDocumentPatch.hasKeys (document : CanvasDocumentPatch) : Bool :=
  document.title.isSome || document.backgroundMode.isSome || document.showImageInfo.isSome ||
    document.directorScenes.isSome

/-- `compactCanvasMutationPatch`. -/
def compactCanvasMutationPatch (patch : CanvasMutationPatch) : CanvasMutationPatch where
  upsertNodes := nonEmpty patch.upsertNodes
  deleteNodeIds := nonEmpty patch.deleteNodeIds
  upsertConnections := nonEmpty patch.upsertConnections
  deleteConnectionIds := nonEmpty patch.deleteConnectionIds
  document := patch.document.filter (·.hasKeys)

/-- `diffEntities`, the items to put in. -/
def diffUpserts (base current : List Entity) : List Entity :=
  upsertsOf Entity.id Entity.text base current

/-- `diffEntities`, the ids to take out. -/
def diffDeletes (base current : List Entity) : List String :=
  deletesOf Entity.id base current

/-- The `document` of `diffCanvasCollaborationDocument`. -/
def diffDocument (base current : CanvasCollaborationDocument) : CanvasDocumentPatch where
  title := if base.title ≠ current.title then some current.title else none
  backgroundMode :=
    if base.backgroundMode ≠ current.backgroundMode then some current.backgroundMode else none
  showImageInfo :=
    if base.showImageInfo ≠ current.showImageInfo then some current.showImageInfo else none
  directorScenes :=
    if !sameValue (.array base.directorScenes) (.array current.directorScenes) then
      some current.directorScenes
    else none

def diffCanvasCollaborationDocument (base current : CanvasCollaborationDocument) :
    CanvasMutationPatch :=
  compactCanvasMutationPatch
    { upsertNodes := some (diffUpserts base.nodes current.nodes)
      deleteNodeIds := some (diffDeletes base.nodes current.nodes)
      upsertConnections := some (diffUpserts base.connections current.connections)
      deleteConnectionIds := some (diffDeletes base.connections current.connections)
      document := some (diffDocument base current) }

def isEmptyCanvasMutationPatch (patch : CanvasMutationPatch) : Bool :=
  (nonEmpty patch.upsertNodes).isNone && (nonEmpty patch.deleteNodeIds).isNone &&
    (nonEmpty patch.upsertConnections).isNone && (nonEmpty patch.deleteConnectionIds).isNone &&
    patch.document.isNone

/-! ## Application -/

/-- `applyEntityPatch`. -/
def applyEntityPatch (source upserts : List Entity) (deletes : List String) : List Entity :=
  applyPatch Entity.id source upserts deletes

def applyCanvasMutationPatch (source : CanvasCollaborationDocument) (patch : CanvasMutationPatch) :
    CanvasCollaborationDocument where
  title := (patch.document.bind (·.title)).getD source.title
  nodes := applyEntityPatch source.nodes (patch.upsertNodes.getD []) (patch.deleteNodeIds.getD [])
  connections := applyEntityPatch source.connections (patch.upsertConnections.getD [])
    (patch.deleteConnectionIds.getD [])
  backgroundMode := (patch.document.bind (·.backgroundMode)).getD source.backgroundMode
  showImageInfo := (patch.document.bind (·.showImageInfo)).getD source.showImageInfo
  directorScenes := (patch.document.bind (·.directorScenes)).getD source.directorScenes

/-! ## Documents written alike -/

/-- No two nodes and no two connections of the document have one id. -/
structure UniqueIds (document : CanvasCollaborationDocument) : Prop where
  nodes : (document.nodes.map Entity.id).Nodup
  connections : (document.connections.map Entity.id).Nodup

/-- The two lists have the same ids, and items of one id satisfy `r`. -/
def SameMap (r : Entity → Entity → Prop) (items items' : List Entity) : Prop :=
  ∀ id, Option.Rel r (latest Entity.id items id) (latest Entity.id items' id)

/-- The documents have equal fields, equal scenes and equal maps from ids to items, `r` saying when
two values are equal. -/
structure Agrees (r : Value → Value → Prop) (document document' : CanvasCollaborationDocument) :
    Prop where
  title : document.title = document'.title
  backgroundMode : document.backgroundMode = document'.backgroundMode
  showImageInfo : document.showImageInfo = document'.showImageInfo
  directorScenes : r (.array document.directorScenes) (.array document'.directorScenes)
  nodes : SameMap (fun a b ↦ r a.value b.value) document.nodes document'.nodes
  connections : SameMap (fun a b ↦ r a.value b.value) document.connections document'.connections

/-- The two values are written alike. -/
def WrittenAlike (v w : Value) : Prop := stringify v = stringify w

section Lemmas

variable {base current : CanvasCollaborationDocument}

theorem nonEmpty_getD {α : Type} (l : List α) : (nonEmpty (some l)).getD [] = l := by
  cases l <;> rfl

theorem nonEmpty_eq_none_iff {α : Type} {l : List α} : nonEmpty (some l) = none ↔ l = [] := by
  cases l <;> simp [nonEmpty]

/-- Leaving out a document without keys loses no field. -/
theorem bind_filter_hasKeys {α : Type} (field : CanvasDocumentPatch → Option α)
    (hfield : ∀ d, d.hasKeys = false → field d = none) (document : CanvasDocumentPatch) :
    ((some document).filter (·.hasKeys)).bind field = field document := by
  cases h : document.hasKeys with
  | false => simp [Option.filter, h, hfield document h]
  | true => simp [Option.filter, h]

/-- `??` on a field that is set exactly when it changes. -/
theorem changed_getD {α : Type} [DecidableEq α] (a b : α) :
    (if a ≠ b then some b else none).getD a = b := by
  by_cases h : a = b <;> simp [h]

theorem hasKeys_eq_false_iff {d : CanvasDocumentPatch} :
    d.hasKeys = false ↔ d.title = none ∧ d.backgroundMode = none ∧ d.showImageInfo = none ∧
      d.directorScenes = none := by
  simp [CanvasDocumentPatch.hasKeys, and_assoc]

theorem sameMap_of_text {items items' : List Entity}
    (h : ∀ id, (latest Entity.id items id).map Entity.text =
      (latest Entity.id items' id).map Entity.text) :
    SameMap (fun a b ↦ WrittenAlike a.value b.value) items items' := by
  intro id
  have hid := h id
  cases ha : latest Entity.id items id <;> cases hb : latest Entity.id items' id <;>
    simp only [ha, hb, Option.map_none, Option.map_some, reduceCtorEq, Option.some.injEq] at hid
  · exact .none
  · exact .some hid

theorem SameMap.text {items items' : List Entity}
    (h : SameMap (fun a b ↦ WrittenAlike a.value b.value) items items') (id : String) :
    (latest Entity.id items id).map Entity.text =
      (latest Entity.id items' id).map Entity.text := by
  have hid := h id
  generalize latest Entity.id items id = a at hid ⊢
  generalize latest Entity.id items' id = b at hid ⊢
  cases hid with
  | some hab => exact congrArg some hab
  | none => rfl

/-- The patched list holds what `current` holds, as it is written. -/
theorem sameMap_applyEntityPatch (items items' : List Entity) (hnd : (items'.map Entity.id).Nodup) :
    SameMap (fun a b ↦ WrittenAlike a.value b.value)
      (applyEntityPatch items (diffUpserts items items') (diffDeletes items items')) items' :=
  sameMap_of_text (latest_applyPatch_diff hnd)

theorem diffEntities_eq_nil_iff (items items' : List Entity)
    (hnd : (items'.map Entity.id).Nodup) :
    diffUpserts items items' = [] ∧ diffDeletes items items' = [] ↔
      SameMap (fun a b ↦ WrittenAlike a.value b.value) items items' :=
  (diff_eq_nil_iff hnd).trans ⟨sameMap_of_text, SameMap.text⟩

/-- **Diff, then apply**: the difference leads to a document written like `current`. -/
theorem agrees_apply_diff (base : CanvasCollaborationDocument) (hcurrent : UniqueIds current) :
    Agrees WrittenAlike
      (applyCanvasMutationPatch base (diffCanvasCollaborationDocument base current)) current := by
  have hdocument : ∀ {α : Type} (field : CanvasDocumentPatch → Option α),
      (∀ d, d.hasKeys = false → field d = none) →
      (diffCanvasCollaborationDocument base current).document.bind field =
        field (diffDocument base current) := fun field hfield ↦ bind_filter_hasKeys field hfield _
  constructor
  · rw [applyCanvasMutationPatch, hdocument _ fun d h ↦ (hasKeys_eq_false_iff.mp h).1]
    exact changed_getD _ _
  · rw [applyCanvasMutationPatch, hdocument _ fun d h ↦ (hasKeys_eq_false_iff.mp h).2.1]
    exact changed_getD _ _
  · rw [applyCanvasMutationPatch, hdocument _ fun d h ↦ (hasKeys_eq_false_iff.mp h).2.2.1]
    exact changed_getD _ _
  · rw [applyCanvasMutationPatch, hdocument _ fun d h ↦ (hasKeys_eq_false_iff.mp h).2.2.2]
    by_cases h : stringify (.array base.directorScenes) = stringify (.array current.directorScenes)
    · simp [diffDocument, sameValue, WrittenAlike, h]
    · simp [diffDocument, sameValue, WrittenAlike, h]
  · simpa [applyCanvasMutationPatch, diffCanvasCollaborationDocument, compactCanvasMutationPatch,
      nonEmpty_getD] using sameMap_applyEntityPatch _ _ hcurrent.nodes
  · simpa [applyCanvasMutationPatch, diffCanvasCollaborationDocument, compactCanvasMutationPatch,
      nonEmpty_getD] using sameMap_applyEntityPatch _ _ hcurrent.connections

theorem hasKeys_diffDocument_eq_false_iff :
    (diffDocument base current).hasKeys = false ↔ base.title = current.title ∧
      base.backgroundMode = current.backgroundMode ∧ base.showImageInfo = current.showImageInfo ∧
        WrittenAlike (.array base.directorScenes) (.array current.directorScenes) := by
  rw [hasKeys_eq_false_iff]
  simp [diffDocument, sameValue, WrittenAlike]

/-- **The difference is the empty patch between documents written alike, and no others.** -/
theorem diff_eq_empty_iff (hcurrent : UniqueIds current) :
    diffCanvasCollaborationDocument base current = {} ↔ Agrees WrittenAlike base current := by
  have hparts : diffCanvasCollaborationDocument base current = {} ↔
      (diffUpserts base.nodes current.nodes = [] ∧ diffDeletes base.nodes current.nodes = []) ∧
      (diffUpserts base.connections current.connections = [] ∧
        diffDeletes base.connections current.connections = []) ∧
      (diffDocument base current).hasKeys = false := by
    rw [diffCanvasCollaborationDocument, compactCanvasMutationPatch, CanvasMutationPatch.mk.injEq]
    simp only [nonEmpty_eq_none_iff, Option.filter_eq_none_iff]
    simp
    tauto
  rw [hparts, diffEntities_eq_nil_iff _ _ hcurrent.nodes,
    diffEntities_eq_nil_iff _ _ hcurrent.connections, hasKeys_diffDocument_eq_false_iff]
  exact ⟨fun ⟨hnodes, hconnections, htitle, hmode, hinfo, hscenes⟩ ↦
      ⟨htitle, hmode, hinfo, hscenes, hnodes, hconnections⟩,
    fun h ↦ ⟨h.nodes, h.connections, h.title, h.backgroundMode, h.showImageInfo,
      h.directorScenes⟩⟩

/-- The code recognises the empty patch. -/
theorem isEmpty_diff_iff :
    isEmptyCanvasMutationPatch (diffCanvasCollaborationDocument base current) = true ↔
      diffCanvasCollaborationDocument base current = {} := by
  have hcompact : ∀ {α : Type} (l : Option (List α)), nonEmpty (nonEmpty l) = nonEmpty l := by
    intro α l
    rcases l with _ | _ | _ <;> rfl
  rw [isEmptyCanvasMutationPatch, diffCanvasCollaborationDocument, compactCanvasMutationPatch,
    CanvasMutationPatch.mk.injEq]
  simp [hcompact, and_assoc]

end Lemmas

/-- **Differences and patches agree.**  Applying the difference of two documents to the first gives
one written like the second, and the difference is empty exactly between documents written alike. -/
theorem canvasDiff_roundTrip (base current : CanvasCollaborationDocument)
    (hbase : UniqueIds base) (hcurrent : UniqueIds current) :
    (UniqueIds (applyCanvasMutationPatch base (diffCanvasCollaborationDocument base current)) ∧
      Agrees WrittenAlike
        (applyCanvasMutationPatch base (diffCanvasCollaborationDocument base current)) current) ∧
    (diffCanvasCollaborationDocument base current = {} ↔ Agrees WrittenAlike base current) ∧
    (isEmptyCanvasMutationPatch (diffCanvasCollaborationDocument base current) = true ↔
      Agrees WrittenAlike base current) := by
  have hunique : ∀ items items' : List Entity, (items.map Entity.id).Nodup →
      (items'.map Entity.id).Nodup → ((applyEntityPatch items (diffUpserts items items')
        (diffDeletes items items')).map Entity.id).Nodup := fun items items' h h' ↦
    (nodup_applyPatch_iff (h'.sublist (List.filter_sublist.map _))).mpr
      (h.sublist (List.filter_sublist.map _))
  refine ⟨⟨⟨?_, ?_⟩, agrees_apply_diff base hcurrent⟩, diff_eq_empty_iff hcurrent,
    isEmpty_diff_iff.trans (diff_eq_empty_iff hcurrent)⟩
  · simpa [applyCanvasMutationPatch, diffCanvasCollaborationDocument, compactCanvasMutationPatch,
      nonEmpty_getD] using hunique _ _ hbase.nodes hcurrent.nodes
  · simpa [applyCanvasMutationPatch, diffCanvasCollaborationDocument, compactCanvasMutationPatch,
      nonEmpty_getD] using hunique _ _ hbase.connections hcurrent.connections

/-! ### Equal values, written differently -/

/-- A node of two properties, enumerated in one order or the other. -/
def orderedNode (idLast : Bool) : Entity where
  id := "n"
  properties := if idLast then [("width", .null), ("id", .string "n")]
    else [("id", .string "n"), ("width", .null)]
  hasId := by cases idLast <;> rfl

def nodeDocument (node : Entity) : CanvasCollaborationDocument where
  title := "t"
  nodes := [node]
  connections := []
  backgroundMode := .dots
  showImageInfo := true
  directorScenes := []

theorem uniqueIds_nodeDocument (node : Entity) : UniqueIds (nodeDocument node) :=
  ⟨List.nodup_singleton _, List.nodup_nil⟩

theorem canvasDiff_roundTrip_reordered :
    Agrees WrittenAlike (applyCanvasMutationPatch (nodeDocument (orderedNode true))
      (diffCanvasCollaborationDocument (nodeDocument (orderedNode true))
        (nodeDocument (orderedNode false)))) (nodeDocument (orderedNode false)) :=
  (canvasDiff_roundTrip _ _ (uniqueIds_nodeDocument _) (uniqueIds_nodeDocument _)).1.2

/-- Two documents whose only node has the same properties with the same values, enumerated in two
orders, hold equal values; their difference replaces the node. -/
theorem canvasDiff_of_reordered : ¬∀ base current, UniqueIds base → UniqueIds current →
    Agrees Same (applyCanvasMutationPatch base (diffCanvasCollaborationDocument base current))
      current ∧ (diffCanvasCollaborationDocument base current = {} ↔ Agrees Same base current) := by
  intro h
  have hsame : Same (orderedNode true).value (orderedNode false).value := by
    refine .object fun key ↦ ?_
    by_cases hid : key = "id"
    · subst hid
      exact .some (.refl _)
    · by_cases hwidth : key = "width"
      · subst hwidth
        exact .some (.refl _)
      · have hid' : (key == "id") = false := beq_eq_false_iff_ne.mpr hid
        have hwidth' : (key == "width") = false := beq_eq_false_iff_ne.mpr hwidth
        have hnone : ∀ idLast, (orderedNode idLast).properties.lookup key = none := by
          intro idLast
          cases idLast <;> simp [orderedNode, List.lookup_cons, hid', hwidth']
        rw [hnone, hnone]
        exact .none
  have hagrees :
      Agrees Same (nodeDocument (orderedNode true)) (nodeDocument (orderedNode false)) := by
    refine ⟨rfl, rfl, rfl, .refl _, fun id ↦ ?_, fun id ↦ .none⟩
    by_cases hid : id = "n"
    · subst hid
      exact .some hsame
    · have hnone : ∀ idLast, latest Entity.id (nodeDocument (orderedNode idLast)).nodes id = none :=
        fun _ ↦ latest_eq_none_iff.mpr (by simpa [nodeDocument, orderedNode] using hid)
      rw [hnone, hnone]
      exact .none
  have hempty := (h _ _ (uniqueIds_nodeDocument _) (uniqueIds_nodeDocument _)).2.mpr hagrees
  have hchanged := isEmpty_diff_iff.mpr hempty
  exact absurd hchanged (by decide)

end HMaigc.Browser
