import HMaigc.Canvas.Document

/-!
# What holds of a canvas after a patch

A patch that passes `validateCanvasMutationPatch` is applied by `applyCanvasMutationPatch`, which
checks the connections of the document it is about to store.  This file collects what those checks
establish.

* `applyEntityPatch_eq_ok` — the list the server stores is `Keyed.applyPatch`, by `comparedID`.
* `validateConnectionEndpoints_eq_ok`, `validateConnectionTypes_eq_ok` — what the two checks of the
  whole document mean.
* `applied_of_accepted` — a patch that is accepted, taken apart.
* `canvasPatch_invariants` — the ids stay distinct, connections end at nodes of the document, and
  deleted ids are gone and no video feeds an image or audio node, where ids are spelled without white
  space around them.
* `canvasPatch_loopholes` — what else a document may have after a patch.
-/

set_option autoImplicit false

namespace HMaigc.Canvas

open Go Keyed

/-! ## Ids -/

/-- The entity has an id. -/
def HasID (raw : RawMessage) : Prop := rawEntityID raw = .ok (comparedID raw)

theorem rawEntityID_eq_ok {raw : RawMessage} {id : String} :
    rawEntityID raw = .ok id ↔
      (∃ spelled, unmarshalString "id" raw = some spelled ∧ isBlank spelled = false) ∧
        comparedID raw = id := by
  rw [rawEntityID, comparedID]
  cases unmarshalString "id" raw with
  | none => simp
  | some spelled => cases h : isBlank spelled <;> simp [h]

theorem comparedID_of_rawEntityID {raw : RawMessage} {id : String} (h : rawEntityID raw = .ok id) :
    comparedID raw = id :=
  (rawEntityID_eq_ok.mp h).2

theorem hasID_of_rawEntityID {raw : RawMessage} {id : String} (h : rawEntityID raw = .ok id) :
    HasID raw := by
  rw [HasID, comparedID_of_rawEntityID h, h]

theorem mapM_rawEntityID_eq_ok {items : List RawMessage} {ids : List String} :
    items.mapM rawEntityID = .ok ids ↔
      (∀ raw ∈ items, HasID raw) ∧ ids = items.map comparedID := by
  rw [mapM_eq_ok]
  constructor
  · intro h
    induction h with
    | nil => simp
    | cons ha _ ih =>
      rw [List.forall_mem_cons, List.map_cons, comparedID_of_rawEntityID ha, ← ih.2]
      exact ⟨⟨hasID_of_rawEntityID ha, ih.1⟩, rfl⟩
  · rintro ⟨h, rfl⟩
    exact List.forall₂_map_right_iff.mpr (List.forall₂_same.mpr h)

theorem mapM_identify_eq_ok {items : List RawMessage} {pairs : List (String × RawMessage)} :
    items.mapM identify = .ok pairs ↔
      (∀ raw ∈ items, HasID raw) ∧ pairs = items.map fun raw ↦ (comparedID raw, raw) := by
  have hidentify : ∀ raw p, identify raw = .ok p ↔
      HasID raw ∧ p = (comparedID raw, raw) := by
    intro raw p
    rw [identify, bind_eq_ok]
    constructor
    · rintro ⟨id, hid, hp⟩
      cases hp
      exact ⟨hasID_of_rawEntityID hid, by rw [comparedID_of_rawEntityID hid]⟩
    · rintro ⟨hid, rfl⟩
      exact ⟨_, hid, rfl⟩
  rw [mapM_eq_ok]
  constructor
  · intro h
    induction h with
    | nil => simp
    | cons ha _ ih =>
      obtain ⟨hid, rfl⟩ := (hidentify _ _).mp ha
      rw [List.forall_mem_cons, List.map_cons, ← ih.2]
      exact ⟨⟨hid, ih.1⟩, rfl⟩
  · rintro ⟨h, rfl⟩
    exact List.forall₂_map_right_iff.mpr (List.forall₂_same.mpr fun raw hraw ↦
      (hidentify _ _).mpr ⟨h raw hraw, rfl⟩)

/-- **The list the server stores.** -/
theorem applyEntityPatch_eq_ok {source : EntityList} {upserts result : List RawMessage}
    {deletes : List String} :
    applyEntityPatch source upserts deletes = .ok result ↔
      ∃ current, source = some current ∧ (∀ raw ∈ current, HasID raw) ∧
        (∀ raw ∈ upserts, HasID raw) ∧ result = applyPatch comparedID current upserts deletes := by
  rw [applyEntityPatch]
  cases source with
  | none => simp [bind, Except.bind]
  | some current =>
    simp only [Option.elim_some, bind_eq_ok, mapM_identify_eq_ok, Except.ok.injEq]
    constructor
    · rintro ⟨_, rfl, _, ⟨hups, rfl⟩, _, ⟨hcur, rfl⟩, h⟩
      cases h
      exact ⟨_, rfl, hcur, hups, applyPatch_map_pair _ _ _⟩
    · rintro ⟨_, heq, hcur, hups, rfl⟩
      cases heq
      exact ⟨_, rfl, _, ⟨hups, rfl⟩, _, ⟨hcur, rfl⟩,
        congrArg Except.ok (applyPatch_map_pair _ _ _)⟩

/-! ## The checks of the whole document -/

/-- A connection as it is spelled: it leads from one id to another. -/
structure Leads (raw : RawMessage) (fromNodeID toNodeID : String) : Prop where
  fromNodeID : unmarshalString "fromNodeId" raw = some fromNodeID
  toNodeID : unmarshalString "toNodeId" raw = some toNodeID

theorem endpoints_eq_ok {malformed : String} {raw : RawMessage} {ids : String × String} :
    endpoints malformed raw = .ok ids ↔ Leads raw ids.1 ids.2 := by
  rw [endpoints]
  constructor
  · intro h
    split at h
    · rename_i hfrom hto
      cases h
      exact ⟨hfrom, hto⟩
    · cases h
  · rintro ⟨hfrom, hto⟩
    rw [hfrom, hto]

/-- **Both endpoints of every connection are nodes.** -/
theorem validateConnectionEndpoints_eq_ok {nodes connections : List RawMessage} :
    validateConnectionEndpoints nodes connections = .ok () ↔
      (∀ raw ∈ nodes, HasID raw) ∧ ∀ raw ∈ connections, ∃ fromNodeID toNodeID,
        Leads raw fromNodeID toNodeID ∧ fromNodeID ∈ nodes.map comparedID ∧
          toNodeID ∈ nodes.map comparedID := by
  rw [validateConnectionEndpoints, bind_eq_ok]
  constructor
  · rintro ⟨ids, hids, h⟩
    obtain ⟨hnodes, rfl⟩ := mapM_rawEntityID_eq_ok.mp hids
    refine ⟨hnodes, fun raw hraw ↦ ?_⟩
    obtain ⟨⟨fromNodeID, toNodeID⟩, hleads, h⟩ := bind_eq_ok.mp (forM_eq_ok.mp h raw hraw)
    obtain ⟨hfrom, h⟩ := refuse_eq_ok.mp h
    obtain ⟨hto, -⟩ := refuse_eq_ok.mp h
    exact ⟨_, _, endpoints_eq_ok.mp hleads, not_not.mp hfrom, not_not.mp hto⟩
  · rintro ⟨hnodes, h⟩
    refine ⟨_, mapM_rawEntityID_eq_ok.mpr ⟨hnodes, rfl⟩, forM_eq_ok.mpr fun raw hraw ↦ ?_⟩
    obtain ⟨fromNodeID, toNodeID, hleads, hfrom, hto⟩ := h raw hraw
    exact bind_eq_ok.mpr ⟨(fromNodeID, toNodeID), endpoints_eq_ok.mpr hleads,
      refuse_eq_ok.mpr ⟨not_not.mpr hfrom, refuse_eq_ok.mpr ⟨not_not.mpr hto, rfl⟩⟩⟩

/-- What `validateConnectionTypes` looks nodes up in. -/
def spelledTypes (nodes : List RawMessage) : List (String × String) :=
  nodes.map fun raw ↦
    ((unmarshalString "id" raw).getD "", (unmarshalString "type" raw).getD "")

theorem nodeFacts_eq_ok {raw : RawMessage} {facts : String × String} :
    nodeFacts raw = .ok facts ↔
      unmarshalString "id" raw = some facts.1 ∧ unmarshalString "type" raw = some facts.2 := by
  rw [nodeFacts]
  constructor
  · intro h
    split at h
    · rename_i hid htype
      cases h
      exact ⟨hid, htype⟩
    · cases h
  · rintro ⟨hid, htype⟩
    rw [hid, htype]

theorem spelledTypes_of_mapM {nodes : List RawMessage} {nodeTypes : List (String × String)}
    (h : nodes.mapM nodeFacts = .ok nodeTypes) : nodeTypes = spelledTypes nodes := by
  have hall := mapM_eq_ok.mp h
  clear h
  induction hall with
  | nil => rfl
  | cons ha _ ih =>
    obtain ⟨hid, htype⟩ := nodeFacts_eq_ok.mp ha
    rw [ih, spelledTypes, spelledTypes, List.map_cons, hid, htype]
    rfl

/-- No connection leads from a video to an image or audio node, ids taken as they are spelled. -/
theorem validateConnectionTypes_allowed {nodes connections : List RawMessage}
    (h : validateConnectionTypes nodes connections = .ok ()) {raw : RawMessage}
    (hraw : raw ∈ connections) {fromNodeID toNodeID : String}
    (hleads : Leads raw fromNodeID toNodeID) :
    isAllowedConnection (typeOf (spelledTypes nodes) fromNodeID)
      (typeOf (spelledTypes nodes) toNodeID) = true := by
  obtain ⟨nodeTypes, htypes, h⟩ := bind_eq_ok.mp h
  obtain rfl := spelledTypes_of_mapM htypes
  obtain ⟨ids, hids, h⟩ := bind_eq_ok.mp (forM_eq_ok.mp h raw hraw)
  have hleads' := endpoints_eq_ok.mp hids
  cases hleads.fromNodeID.symm.trans hleads'.fromNodeID
  cases hleads.toNodeID.symm.trans hleads'.toNodeID
  simpa using (refuse_eq_ok.mp h).1

/-! ## Accepted patches -/

/-- What validation establishes about the ids of a patch. -/
structure DistinctPatch (patch : CanvasMutationPatch) : Prop where
  upsertNodes : (patch.upsertNodes.map comparedID).Nodup
  upsertConnections : (patch.upsertConnections.map comparedID).Nodup
  deleteNodeIDs : (patch.deleteNodeIDs.map trimSpace).Nodup
  deleteConnectionIDs : (patch.deleteConnectionIDs.map trimSpace).Nodup

theorem distinct_of_validate {patch : CanvasMutationPatch}
    (h : validateCanvasMutationPatch patch = .ok ()) : DistinctPatch patch := by
  obtain ⟨-, h⟩ := refuse_eq_ok.mp h
  obtain ⟨-, h⟩ := refuse_eq_ok.mp h
  obtain ⟨_, hnodes, h⟩ := bind_eq_ok.mp h
  obtain ⟨_, hconnections, h⟩ := bind_eq_ok.mp h
  obtain ⟨_, hdeleteNodes, h⟩ := bind_eq_ok.mp h
  obtain ⟨_, hdeleteConnections, -⟩ := bind_eq_ok.mp h
  exact ⟨(checkDistinct_eq_ok.mp hnodes).2.1, (checkDistinct_eq_ok.mp hconnections).2.1,
    (checkDistinct_eq_ok.mp hdeleteNodes).2.1, (checkDistinct_eq_ok.mp hdeleteConnections).2.1⟩

/-- A patch applied: the lists it started from, and what the checks of the result established. -/
structure Applied (source : Document) (patch : CanvasMutationPatch) (result : Document)
    (nodes connections : List RawMessage) : Prop where
  sourceNodes : source.nodes = some nodes
  sourceConnections : source.connections = some connections
  storedNodes : result.nodes =
    some (applyPatch comparedID nodes patch.upsertNodes patch.deleteNodeIDs)
  storedConnections : result.connections =
    some (applyPatch comparedID connections patch.upsertConnections patch.deleteConnectionIDs)
  hasID : ∀ raw ∈ nodes ++ patch.upsertNodes ++ connections ++ patch.upsertConnections, HasID raw
  types : validateConnectionTypes
    (applyPatch comparedID nodes patch.upsertNodes patch.deleteNodeIDs)
    (applyPatch comparedID connections patch.upsertConnections patch.deleteConnectionIDs) = .ok ()
  endpoints : validateConnectionEndpoints
    (applyPatch comparedID nodes patch.upsertNodes patch.deleteNodeIDs)
    (applyPatch comparedID connections patch.upsertConnections patch.deleteConnectionIDs) = .ok ()
  directorScenes : result.directorScenes =
    (patch.document.bind (·.directorScenes)).or source.directorScenes

theorem applied_of_accepted {encodedLength : Document → ℕ} {source result : Document}
    {currentTitle title : String} {patch : CanvasMutationPatch}
    (h : applyCanvasMutationPatch encodedLength (some source) currentTitle patch =
      .ok (result, title)) : ∃ nodes connections, Applied source patch result nodes connections := by
  obtain ⟨_, hsource, h⟩ := bind_eq_ok.mp h
  cases hsource
  obtain ⟨_, hnodes, h⟩ := bind_eq_ok.mp h
  obtain ⟨_, hconnections, h⟩ := bind_eq_ok.mp h
  obtain ⟨_, htypes, h⟩ := bind_eq_ok.mp h
  obtain ⟨_, hendpoints, h⟩ := bind_eq_ok.mp h
  obtain ⟨-, h⟩ := refuse_eq_ok.mp h
  obtain ⟨nodes, hn, hnid, hunid, rfl⟩ := applyEntityPatch_eq_ok.mp hnodes
  obtain ⟨connections, hc, hcid, hucid, rfl⟩ := applyEntityPatch_eq_ok.mp hconnections
  cases h
  refine ⟨nodes, connections, hn, hc, ?_, ?_, ?_, htypes, hendpoints, ?_⟩
  · cases patch.document <;> rfl
  · cases patch.document <;> rfl
  · intro raw hraw
    simp only [List.mem_append] at hraw
    rcases hraw with ((h | h) | h) | h
    · exact hnid raw h
    · exact hunid raw h
    · exact hcid raw h
    · exact hucid raw h
  · cases patch.document <;> rfl

/-! ## Invariants -/

namespace Document

variable (document : Document)

def nodeIDs : List String := (document.nodes.getD []).map comparedID

def connectionIDs : List String := (document.connections.getD []).map comparedID

end Document

/-- The ids of the scenes of a stored list of scenes, without the white space around them. -/
def sceneIDs (directorScenes : RawMessage) : List String :=
  match parse directorScenes with
  | some (.arr scenes) => scenes.map fun scene ↦ trimSpace ((stringField "id" scene).getD "")
  | _ => []

/-- No two entities of the document have one id. -/
structure DistinctIDs (document : Document) : Prop where
  nodes : document.nodeIDs.Nodup
  connections : document.connectionIDs.Nodup
  scenes : ∀ scenes, document.directorScenes = some scenes → (sceneIDs scenes).Nodup

/-- An id or a reference that has no white space around it. -/
def IsPlain (id : String) : Prop := trimSpace id = id

/-- The node is spelled with its id and no white space around it. -/
def PlainNode (raw : RawMessage) (id : String) : Prop :=
  unmarshalString "id" raw = some id ∧ IsPlain id

/-- A node with a given type. -/
def HasType (raw : RawMessage) (type : String) : Prop := unmarshalString "type" raw = some type

/-- Among nodes with distinct ids, one spelled plainly is found under its id. -/
theorem typeOf_spelledTypes {nodes : List RawMessage} (hnd : (nodes.map comparedID).Nodup)
    {raw : RawMessage} (hraw : raw ∈ nodes) {id type : String} (hid : PlainNode raw id)
    (htype : HasType raw type) : typeOf (spelledTypes nodes) id = type := by
  have hspelled : ((spelledTypes nodes).map Prod.fst).Nodup := by
    have htrim : ((spelledTypes nodes).map Prod.fst).map trimSpace = nodes.map comparedID := by
      simp [spelledTypes, comparedID]
    exact List.Nodup.of_map trimSpace (htrim ▸ hnd)
  have hmem : (id, type) ∈ spelledTypes nodes := by
    refine List.mem_map.mpr ⟨raw, hraw, ?_⟩
    rw [hid.1, htype]
    rfl
  have hlatest : latest Prod.fst (spelledTypes nodes) id = some (id, type) :=
    latest_of_mem hspelled hmem
  rw [typeOf, hlatest]
  rfl

/-- What a patch guarantees of the document it leaves. -/
structure PatchInvariants (source : Document) (patch : CanvasMutationPatch) (result : Document) :
    Prop where
  nodes : result.nodeIDs.Nodup
  connections : result.connectionIDs.Nodup
  /-- The scenes are stored as they come. -/
  scenes : result.directorScenes =
    (patch.document.bind (·.directorScenes)).or source.directorScenes
  /-- An id that is deleted and not put in again is gone. -/
  deletedNodes : ∀ id ∈ patch.deleteNodeIDs, IsPlain id →
    trimSpace id ∉ patch.upsertNodes.map comparedID → trimSpace id ∉ result.nodeIDs
  deletedConnections : ∀ id ∈ patch.deleteConnectionIDs, IsPlain id →
    trimSpace id ∉ patch.upsertConnections.map comparedID → trimSpace id ∉ result.connectionIDs
  endpoints : ∀ raw ∈ result.connections.getD [], ∃ fromNodeID toNodeID,
    Leads raw fromNodeID toNodeID ∧ fromNodeID ∈ result.nodeIDs ∧ toNodeID ∈ result.nodeIDs
  types : ∀ raw ∈ result.connections.getD [], ∀ fromNodeID toNodeID,
    Leads raw fromNodeID toNodeID → ∀ node ∈ result.nodes.getD [],
    ∀ node' ∈ result.nodes.getD [], PlainNode node fromNodeID → PlainNode node' toNodeID →
    HasType node "video" → ¬(HasType node' "image" ∨ HasType node' "audio")

/-- **A canvas after a patch.**  For every document whose ids are distinct and every patch the server
accepts on it. -/
theorem canvasPatch_invariants {encodedLength : Document → ℕ} {source result : Document}
    {currentTitle title : String} {patch : CanvasMutationPatch} (hsource : DistinctIDs source)
    (hvalid : validateCanvasMutationPatch patch = .ok ())
    (happly : applyCanvasMutationPatch encodedLength (some source) currentTitle patch =
      .ok (result, title)) : PatchInvariants source patch result := by
  obtain ⟨nodes, connections, h⟩ := applied_of_accepted happly
  have hpatch := distinct_of_validate hvalid
  have hnodes : result.nodeIDs = (applyPatch comparedID nodes patch.upsertNodes
      patch.deleteNodeIDs).map comparedID := by rw [Document.nodeIDs, h.storedNodes, Option.getD_some]
  have hconnections : result.connectionIDs = (applyPatch comparedID connections
      patch.upsertConnections patch.deleteConnectionIDs).map comparedID := by
    rw [Document.connectionIDs, h.storedConnections, Option.getD_some]
  have hsourceNodes : (nodes.map comparedID).Nodup := by
    simpa [Document.nodeIDs, h.sourceNodes] using hsource.nodes
  have hsourceConnections : (connections.map comparedID).Nodup := by
    simpa [Document.connectionIDs, h.sourceConnections] using hsource.connections
  have hnd : result.nodeIDs.Nodup := hnodes ▸ (nodup_applyPatch_iff hpatch.upsertNodes).mpr
    (hsourceNodes.sublist (List.filter_sublist.map _))
  refine ⟨hnd, hconnections ▸ (nodup_applyPatch_iff hpatch.upsertConnections).mpr
    (hsourceConnections.sublist (List.filter_sublist.map _)), h.directorScenes, ?_, ?_, ?_, ?_⟩
  · intro id hid hplain hups hmem
    rw [hnodes, mem_keys_applyPatch, hplain] at hmem
    rw [hplain] at hups
    exact hmem.elim hups fun hkept ↦ hkept.2 hid
  · intro id hid hplain hups hmem
    rw [hconnections, mem_keys_applyPatch, hplain] at hmem
    rw [hplain] at hups
    exact hmem.elim hups fun hkept ↦ hkept.2 hid
  · rw [h.storedConnections, hnodes, Option.getD_some]
    exact (validateConnectionEndpoints_eq_ok.mp h.endpoints).2
  · rw [h.storedConnections, h.storedNodes, Option.getD_some, Option.getD_some]
    intro raw hraw fromNodeID toNodeID hleads node hnode node' hnode' hfrom hto hvideo hmedia
    have hallowed := validateConnectionTypes_allowed h.types hraw hleads
    rw [typeOf_spelledTypes (hnodes ▸ hnd) hnode hfrom hvideo] at hallowed
    rcases hmedia with himage | haudio
    · rw [typeOf_spelledTypes (hnodes ▸ hnd) hnode' hto himage] at hallowed
      exact absurd hallowed (by decide)
    · rw [typeOf_spelledTypes (hnodes ▸ hnd) hnode' hto haudio] at hallowed
      exact absurd hallowed (by decide)

/-! ### What a patch does not guarantee -/

def nodeText (id type : String) : RawMessage :=
  "\x7b\"id\":\"" ++ id ++ "\",\"type\":\"" ++ type ++ "\"\x7d"

def connectionText (id fromNodeID toNodeID : String) : RawMessage :=
  "\x7b\"id\":\"" ++ id ++ "\",\"fromNodeId\":\"" ++ fromNodeID ++ "\",\"toNodeId\":\"" ++
    toNodeID ++ "\"\x7d"

/-- An image and a video, whose id is spelled with a blank before it. -/
def blankBeforeVideo : Document where
  nodes := some [nodeText "i" "image", nodeText " v" "video"]
  connections := some []

theorem distinctIDs_blankBeforeVideo : DistinctIDs blankBeforeVideo where
  nodes := by decide
  connections := by decide
  scenes := fun _ h ↦ by cases h

/-- The document a patch of `blankBeforeVideo` leaves, if the patch is accepted. -/
def patched (patch : CanvasMutationPatch) : Option Document :=
  match validateCanvasMutationPatch patch,
    applyCanvasMutationPatch (fun _ ↦ 0) (some blankBeforeVideo) "t" patch with
  | .ok (), .ok (result, _) => some result
  | _, _ => none

theorem accepted_of_patched {patch : CanvasMutationPatch} {result : Document}
    (h : patched patch = some result) : validateCanvasMutationPatch patch = .ok () ∧
      ∃ title, applyCanvasMutationPatch (fun _ ↦ 0) (some blankBeforeVideo) "t" patch =
        .ok (result, title) := by
  rw [patched] at h
  split at h
  · rename_i title hvalid happly
    cases h
    exact ⟨hvalid, title, happly⟩
  · cases h

/-- A connection from the image to the video. -/
def imageToVideo : CanvasMutationPatch where
  upsertConnections := [connectionText "c" "i" "v"]

theorem canvasPatch_invariants_imageToVideo :
    ∃ result, patched imageToVideo = some result ∧
      PatchInvariants blankBeforeVideo imageToVideo result := by
  have hsome : (patched imageToVideo).isSome = true := by decide
  obtain ⟨result, hresult⟩ := Option.isSome_iff_exists.mp hsome
  obtain ⟨hvalid, title, happly⟩ := accepted_of_patched hresult
  exact ⟨result, hresult, canvasPatch_invariants distinctIDs_blankBeforeVideo hvalid happly⟩

/-- A document the server stores after a patch of a document with distinct ids. -/
def Stores (source : Document) (patch : CanvasMutationPatch) (result : Document) : Prop :=
  DistinctIDs source ∧ validateCanvasMutationPatch patch = .ok () ∧
    ∃ encodedLength currentTitle title,
      applyCanvasMutationPatch encodedLength (some source) currentTitle patch = .ok (result, title)

theorem stores_of_patched (patch : CanvasMutationPatch) (test : Document → Bool)
    (h : (patched patch).any test = true) :
    ∃ result, Stores blankBeforeVideo patch result ∧ test result = true := by
  obtain ⟨result, hresult, htest⟩ := (Option.any_eq_true _ _).mp h
  obtain ⟨hvalid, title, happly⟩ := accepted_of_patched hresult
  exact ⟨result, ⟨distinctIDs_blankBeforeVideo, hvalid, _, _, title, happly⟩, htest⟩

/-- Scenes are not looked into; an id that is deleted and put in is there; an id with white space
around it deletes nothing; and a video whose id is spelled with white space feeds an image. -/
theorem canvasPatch_loopholes :
    (∃ source patch result, Stores source patch result ∧
      ∃ scenes, result.directorScenes = some scenes ∧ ¬(sceneIDs scenes).Nodup) ∧
    (∃ source patch result, Stores source patch result ∧
      ∃ id ∈ patch.deleteNodeIDs, IsPlain id ∧ id ∈ result.nodeIDs) ∧
    (∃ source patch result, Stores source patch result ∧
      ∃ id ∈ patch.deleteNodeIDs, trimSpace id ∉ patch.upsertNodes.map comparedID ∧
        trimSpace id ∈ result.nodeIDs) ∧
    ∃ source patch result, Stores source patch result ∧
      ∃ connection ∈ result.connections.getD [], ∃ node ∈ result.nodes.getD [],
        ∃ node' ∈ result.nodes.getD [], Leads connection (comparedID node) (comparedID node') ∧
          HasType node "video" ∧ HasType node' "image" := by
  refine ⟨?_, ?_, ?_, ?_⟩
  · obtain ⟨result, hstores, htest⟩ := stores_of_patched
      { document := some { directorScenes := some ("[" ++ nodeText "s" "" ++ "," ++
        nodeText "s" "" ++ "]") } }
      (fun result ↦ result.directorScenes.any fun scenes ↦ !(sceneIDs scenes).Nodup) (by decide)
    obtain ⟨scenes, hscenes, hnot⟩ := (Option.any_eq_true _ _).mp htest
    exact ⟨_, _, result, hstores, scenes, hscenes, by simpa using hnot⟩
  · obtain ⟨result, hstores, htest⟩ := stores_of_patched
      { upsertNodes := [nodeText "i" "text"], deleteNodeIDs := ["i"] }
      (fun result ↦ "i" ∈ result.nodeIDs) (by decide)
    exact ⟨_, _, result, hstores, "i", by simp, show trimSpace "i" = "i" by decide,
      of_decide_eq_true htest⟩
  · obtain ⟨result, hstores, htest⟩ := stores_of_patched { deleteNodeIDs := [" i"] }
      (fun result ↦ trimSpace " i" ∈ result.nodeIDs) (by decide)
    exact ⟨_, _, result, hstores, " i", by simp, by simp, of_decide_eq_true htest⟩
  · obtain ⟨result, hstores, htest⟩ := stores_of_patched
      { upsertConnections := [connectionText "c" "v" "i"] }
      (fun result ↦ connectionText "c" "v" "i" ∈ result.connections.getD [] ∧
        nodeText " v" "video" ∈ result.nodes.getD [] ∧
        nodeText "i" "image" ∈ result.nodes.getD []) (by decide)
    obtain ⟨hconnection, hvideo, himage⟩ := of_decide_eq_true htest
    exact ⟨_, _, result, hstores, _, hconnection, _, hvideo, _, himage,
      ⟨by decide, by decide⟩, by unfold HasType; decide, by unfold HasType; decide⟩

end HMaigc.Canvas
