import HMaigc.Go.Checks
import HMaigc.Go.Decode
import HMaigc.Keyed.Patch

/-!
# The server's copy of a canvas

`service/canvas_collaboration_document.go`: what a patch of a canvas must look like, and how it is
applied to the stored document.

An entity is a JSON object with an `id`; `rawEntityID` reads it, without the white space around it.
The functions below do not all read ids that way: the ids to delete and the endpoints of connections
are taken as they are spelled, and `validateConnectionTypes` looks nodes up by their ids as they are
spelled.

The stored payload is a `Document`, its lists already taken apart; `encodedLength` is the length of
the text a document is stored as.
-/

set_option autoImplicit false

namespace HMaigc.Canvas

open Go Keyed

def maxCanvasMutationBytes : ℕ := 2 * 2 ^ 20

def maxCanvasMutationItems : ℕ := 1000

def maxCanvasDocumentPayloadSize : ℕ := 5 * 2 ^ 20

/-- The errors of this file. -/
inductive DocumentError where
  /-- `BadAuthRequest`. -/
  | badRequest (message : String)
  /-- The stored payload cannot be decoded. -/
  | damaged
  deriving DecidableEq, Repr

structure CanvasViewportPatch where
  x : ℚ
  y : ℚ
  k : ℚ

structure CanvasDocumentPatch where
  title : Option String := none
  backgroundMode : Option String := none
  showImageInfo : Option Bool := none
  directorScenes : Option RawMessage := none
  viewport : Option CanvasViewportPatch := none

structure CanvasMutationPatch where
  upsertNodes : List RawMessage := []
  deleteNodeIDs : List String := []
  upsertConnections : List RawMessage := []
  deleteConnectionIDs : List String := []
  document : Option CanvasDocumentPatch := none

/-- A list of entities of the stored payload; `none` where the payload has something else than a
list (nothing at all, and `null`, count as the empty list). -/
abbrev EntityList : Type := Option (List RawMessage)

/-- The stored payload, with the fields a patch can set. -/
structure Document where
  nodes : EntityList
  connections : EntityList
  title : Option String := none
  backgroundMode : Option String := none
  showImageInfo : Option Bool := none
  directorScenes : Option RawMessage := none
  viewport : Option CanvasViewportPatch := none

/-! ## Validation -/

/-- The id of an entity as `validateRawEntities` compares it. -/
def comparedID (raw : RawMessage) : String := trimSpace ((unmarshalString "id" raw).getD "")

/-- The checks of `validateRawEntities` on one entity. -/
def checkRawEntity (label : String) (raw : RawMessage) : Except DocumentError Unit :=
  if raw.utf8ByteSize = 0 ∨ raw.utf8ByteSize > maxCanvasMutationBytes ∨
      unmarshalString "id" raw = none then
    .error (.badRequest (label ++ "数据格式无效"))
  else if comparedID raw = "" ∨ (comparedID raw).utf8ByteSize > 120 then
    .error (.badRequest (label ++ " ID 无效"))
  else .ok ()

def validateRawEntities (items : List RawMessage) (label : String) : Except DocumentError Unit :=
  checkDistinct comparedID (checkRawEntity label) (.badRequest (label ++ " ID 重复"))
    (fun _ ↦ .ok ()) [] items

/-- The checks of `validateEntityIDs` on one id. -/
def checkEntityID (label id : String) : Except DocumentError Unit :=
  if trimSpace id = "" ∨ (trimSpace id).utf8ByteSize > 120 then
    .error (.badRequest (label ++ " ID 无效"))
  else .ok ()

def validateEntityIDs (ids : List String) (label : String) : Except DocumentError Unit :=
  checkDistinct trimSpace (checkEntityID label) (.badRequest (label ++ " ID 重复"))
    (fun _ ↦ .ok ()) [] ids

/-- `validCanvasViewportPatch`; a decoded number is finite. -/
def validCanvasViewportPatch (viewport : CanvasViewportPatch) : Bool :=
  -1000000 ≤ viewport.x && viewport.x ≤ 1000000 && -1000000 ≤ viewport.y && viewport.y ≤ 1000000 &&
    1 / 100 ≤ viewport.k && viewport.k ≤ 16

/-- The checks of `validateCanvasMutationPatch` on the fields of the document. -/
def validateDocumentPatch (patch : CanvasDocumentPatch) : Except DocumentError Unit :=
  if patch.title.any fun title ↦ isBlank title || (trimSpace title).length > 120 then
    .error (.badRequest "画布名称不能为空且最多 120 个字符")
  else if patch.backgroundMode.any fun mode ↦ mode ≠ "dots" && mode ≠ "lines" && mode ≠ "blank" then
    .error (.badRequest "画布背景模式无效")
  else if patch.directorScenes.any fun scenes ↦ (parse scenes).isNone then
    .error (.badRequest "导演台数据格式无效")
  else if patch.viewport.any fun viewport ↦ !validCanvasViewportPatch viewport then
    .error (.badRequest "画布视口数据无效")
  else .ok ()

/-- How many items a patch changes. -/
def CanvasMutationPatch.itemCount (patch : CanvasMutationPatch) : ℕ :=
  patch.upsertNodes.length + patch.deleteNodeIDs.length + patch.upsertConnections.length +
    patch.deleteConnectionIDs.length

def validateCanvasMutationPatch (patch : CanvasMutationPatch) : Except DocumentError Unit :=
  if patch.itemCount = 0 ∧ patch.document.isNone then
    .error (.badRequest "画布变更内容不能为空")
  else if patch.itemCount > maxCanvasMutationItems then
    .error (.badRequest "单次画布变更项目不能超过 1000 个")
  else do
    validateRawEntities patch.upsertNodes "节点"
    validateRawEntities patch.upsertConnections "连线"
    validateEntityIDs patch.deleteNodeIDs "节点"
    validateEntityIDs patch.deleteConnectionIDs "连线"
    patch.document.elim (.ok ()) validateDocumentPatch

/-! ## Application -/

def rawEntityID (raw : RawMessage) : Except DocumentError String :=
  match unmarshalString "id" raw with
  | some id =>
    if isBlank id then .error (.badRequest "画布实体缺少有效 ID") else .ok (trimSpace id)
  | none => .error (.badRequest "画布实体缺少有效 ID")

/-- An entity with its id. -/
def identify (raw : RawMessage) : Except DocumentError (String × RawMessage) := do
  let id ← rawEntityID raw
  return (id, raw)

def applyEntityPatch (source : EntityList) (upserts : List RawMessage) (deletes : List String) :
    Except DocumentError (List RawMessage) := do
  let current ← source.elim (.error (.badRequest "画布实体列表格式无效")) .ok
  let upserts ← upserts.mapM identify
  let current ← current.mapM identify
  return (applyPatch Prod.fst current upserts deletes).map Prod.snd

/-- `ID` and `Type` of a node, as they are spelled. -/
def nodeFacts (raw : RawMessage) : Except DocumentError (String × String) :=
  match unmarshalString "id" raw, unmarshalString "type" raw with
  | some id, some type => .ok (id, type)
  | _, _ => .error (.badRequest "节点数据格式无效")

/-- `FromNodeID` and `ToNodeID` of a connection, as they are spelled. -/
def endpoints (malformed : String) (raw : RawMessage) : Except DocumentError (String × String) :=
  match unmarshalString "fromNodeId" raw, unmarshalString "toNodeId" raw with
  | some fromNodeID, some toNodeID => .ok (fromNodeID, toNodeID)
  | _, _ => .error (.badRequest malformed)

/-- `nodeTypes[id]`. -/
def typeOf (nodeTypes : List (String × String)) (id : String) : String :=
  ((latest Prod.fst nodeTypes id).map Prod.snd).getD ""

/-- May a node of the first type be connected to one of the second? -/
def isAllowedConnection (fromType toType : String) : Bool :=
  !(fromType = "video" && (toType = "image" || toType = "audio"))

/-- One connection, as `validateConnectionTypes` checks it. -/
def checkConnectionType (nodeTypes : List (String × String)) (raw : RawMessage) :
    Except DocumentError Unit := do
  let (fromNodeID, toNodeID) ← endpoints "连线数据格式无效" raw
  if !isAllowedConnection (typeOf nodeTypes fromNodeID) (typeOf nodeTypes toNodeID) then
    .error (.badRequest "视频节点的输出不能连接图片或音频节点")
  else .ok ()

def validateConnectionTypes (nodes connections : List RawMessage) : Except DocumentError Unit := do
  let nodeTypes ← nodes.mapM nodeFacts
  connections.forM (checkConnectionType nodeTypes)

/-- One connection, as `validateConnectionEndpoints` checks it. -/
def checkConnectionEndpoints (nodeIDs : List String) (raw : RawMessage) :
    Except DocumentError Unit := do
  let (fromNodeID, toNodeID) ← endpoints "画布连线格式无效" raw
  if fromNodeID ∉ nodeIDs then
    .error (.badRequest "画布连线的起点节点不存在")
  else if toNodeID ∉ nodeIDs then
    .error (.badRequest "画布连线的终点节点不存在")
  else .ok ()

def validateConnectionEndpoints (nodes connections : List RawMessage) :
    Except DocumentError Unit := do
  let nodeIDs ← nodes.mapM rawEntityID
  connections.forM (checkConnectionEndpoints nodeIDs)

/-- The document with the fields a patch sets. -/
def Document.setFields (document : Document) (patch : CanvasDocumentPatch) : Document :=
  { document with
    title := (patch.title.map trimSpace).or document.title
    backgroundMode := patch.backgroundMode.or document.backgroundMode
    showImageInfo := patch.showImageInfo.or document.showImageInfo
    directorScenes := patch.directorScenes.or document.directorScenes
    viewport := patch.viewport.or document.viewport }

/-- `applyCanvasMutationPatch`: the document and the title of the canvas afterwards.  `payload` is
what the stored text decodes to, `none` when it is not an object. -/
def applyCanvasMutationPatch (encodedLength : Document → ℕ) (payload : Option Document)
    (currentTitle : String) (patch : CanvasMutationPatch) :
    Except DocumentError (Document × String) := do
  let document ← payload.elim (.error .damaged) .ok
  let nodes ← applyEntityPatch document.nodes patch.upsertNodes patch.deleteNodeIDs
  let connections ← applyEntityPatch document.connections patch.upsertConnections
    patch.deleteConnectionIDs
  validateConnectionTypes nodes connections
  validateConnectionEndpoints nodes connections
  let document := { document with nodes := some nodes, connections := some connections }
  let document := patch.document.elim document document.setFields
  let title := ((patch.document.bind (·.title)).map trimSpace).getD currentTitle
  if encodedLength document > maxCanvasDocumentPayloadSize then
    .error (.badRequest "画布数据不能超过 5MB")
  else return (document, title)

end HMaigc.Canvas
