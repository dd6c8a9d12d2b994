import HMaigc.Go.Any
import HMaigc.Go.Prefix
import HMaigc.Resource.References

/-!
# The resource addresses of a team canvas

A canvas node names a media resource by a storage key and repeats its address in a URL field beside
it.  A member of the team has no access to the owner's resource, so what is sent to the team has the
address of the canvas's own route in these fields, and what comes back is turned round again.

* `rewriteTeamCanvasResourceURLs`, `canonicalizeTeamCanvasResourceURLs` — the two directions, each
  one walk over the decoded payload.  Go visits the keys of an object in no fixed order:
  `KeyOrder`.
* `mapURLs_obj` — what a walk makes of an object, member by member.
-/

set_option autoImplicit false

namespace HMaigc

open Go

namespace TeamURLs

/-! ## Storage keys and URL fields -/

def isCanvasResourceStorageKey (key : String) : Bool :=
  key == "storageKey" || hasSuffix key "StorageKey"

/-- The URL fields a storage key is paired with. -/
def urlKeys (storageKey : String) : List String :=
  if storageKey = "storageKey" then ["content", "url", "dataUrl"]
  else [trimSuffix storageKey "StorageKey" ++ "Url"]

/-- The pairs, in the order the keys are given in. -/
def canvasResourceFieldPairs (keys : List String) : List (String × List String) :=
  (keys.filter isCanvasResourceStorageKey).map fun key ↦ (key, urlKeys key)

def teamCanvasResourceURL (canvasID resourceID : String) : String :=
  "/api/canvas-projects/" ++ canvasID ++ "/resources/" ++ resourceID ++ "/file"

def canonicalResourceURL (resourceID : String) : String :=
  "/api/resources/" ++ resourceID ++ "/file"

def teamCanvasResourceID (value canvasID : String) : String :=
  let start := "/api/canvas-projects/" ++ canvasID ++ "/resources/"
  match afterFirst start.toList value.toList with
  | none => ""
  | some remainder => validCanvasResourceID (String.ofList (remainder.takeWhile (· != '/')))

/-- A resource identifier is read as itself. -/
theorem validCanvasResourceID_self {value : String} (h : validCanvasResourceID value ≠ "") :
    validCanvasResourceID (validCanvasResourceID value) = validCanvasResourceID value := by
  have hvalue : validCanvasResourceID value = trimSpace value := by
    unfold validCanvasResourceID at h ⊢
    dsimp only at h ⊢
    split_ifs at h ⊢ with hsize hall
    · exact absurd rfl h
    · rfl
    · exact absurd rfl h
  conv_lhs => rw [hvalue]
  rw [validCanvasResourceID, trimSpace_trimSpace]
  rfl

theorem canvasResourceID_self {value : String} (h : canvasResourceID value ≠ "") :
    validCanvasResourceID (canvasResourceID value) = canvasResourceID value := by
  rcases canvasResourceID_cases value with hnone | ⟨part, hpart⟩
  · exact absurd hnone h
  · rw [hpart] at h ⊢
    exact validCanvasResourceID_self h

theorem afterFirst_append {sep : List Char} (hsep : sep ≠ []) (rest : List Char) :
    afterFirst sep (sep ++ rest) = some rest := by
  obtain ⟨c, sep, rfl⟩ := List.exists_cons_of_ne_nil hsep
  rw [List.cons_append, afterFirst, ← List.cons_append, if_pos (by simp), List.drop_left]

theorem toList_append_append (s t u : String) :
    (s ++ t ++ u).toList = s.toList ++ (t.toList ++ u.toList) := by
  simp

/-- **The team's address of a resource names it.** -/
theorem teamCanvasResourceID_url {resourceID : String} (canvasID : String)
    (hchars : IsResourceID resourceID) (hself : validCanvasResourceID resourceID = resourceID) :
    teamCanvasResourceID (teamCanvasResourceURL canvasID resourceID) canvasID = resourceID := by
  have hurl : (teamCanvasResourceURL canvasID resourceID).toList =
      ("/api/canvas-projects/" ++ canvasID ++ "/resources/").toList ++
        (resourceID.toList ++ "/file".toList) :=
    toList_append_append _ _ _
  have hroute : ("/api/canvas-projects/" ++ canvasID ++ "/resources/").toList ≠ [] := by
    rw [String.toList_append]
    exact List.append_ne_nil_of_right_ne_nil _ (by decide)
  have hnoslash : ∀ c ∈ resourceID.toList, (c != '/') = true := by
    intro c hc
    have hchar := hchars.2 c hc
    rw [bne_iff_ne]
    rintro rfl
    revert hchar
    decide
  rw [teamCanvasResourceID, hurl, afterFirst_append hroute]
  dsimp only
  have hfile : "/file".toList.takeWhile (· != '/') = [] := by decide
  rw [List.takeWhile_append_of_pos hnoslash, hfile, List.append_nil, String.ofList_toList, hself]

theorem teamCanvasResourceID_empty (canvasID : String) : teamCanvasResourceID "" canvasID = "" := by
  simp [teamCanvasResourceID, afterFirst]

/-- A storage key is no URL field. -/
theorem not_storageKey_of_mem_urlKeys {storageKey urlKey : String}
    (h : urlKey ∈ urlKeys storageKey) : isCanvasResourceStorageKey urlKey = false := by
  have hlast : urlKey.toList.getLast? = some 'l' ∨ urlKey.toList.getLast? = some 't' := by
    rw [urlKeys] at h
    split_ifs at h
    · simp only [List.mem_cons, List.not_mem_nil, or_false] at h
      rcases h with rfl | rfl | rfl
      · exact .inr (by decide)
      · exact .inl (by decide)
      · exact .inl (by decide)
    · rw [List.mem_singleton.mp h]
      left
      rw [String.toList_append, List.getLast?_append_of_ne_nil _ (by decide)]
      decide
  by_contra hkey
  rw [Bool.not_eq_false, isCanvasResourceStorageKey, Bool.or_eq_true, beq_iff_eq, hasSuffix_iff]
    at hkey
  have hy : urlKey.toList.getLast? = some 'y' := by
    rcases hkey with rfl | ⟨start, rfl⟩
    · decide
    · rw [String.toList_append, List.getLast?_append_of_ne_nil _ (by decide)]
      decide
  rw [hy] at hlast
  revert hlast
  decide

/-! ## The order of the keys -/

/-- An order in which the keys of every object are visited, the runtime's own choice.  `path` is
where the object stands in the payload. -/
structure KeyOrder where
  visit (path : List ℕ) (keys : List String) : List String
  visit_perm : ∀ path keys, (visit path keys).Perm keys

/-- The order of the objects in one part of the payload. -/
def KeyOrder.within (order : KeyOrder) (index : ℕ) : KeyOrder where
  visit path := order.visit (index :: path)
  visit_perm path := order.visit_perm (index :: path)

/-! ## The walk -/

section Walk

-- `%v` of the number a text of digits is read as.
variable (number : String → String)

def stringValue (value : Json) : String :=
  let text := trimSpace (sprint number value)
  if text = "<nil>" then "" else text

theorem stringValue_null : stringValue number .null = "" := by
  rw [stringValue, sprint]
  decide

/-- The resource a value under a storage key names. -/
def namedResource (value : Json) : String := canvasResourceID (stringValue number value)

/-- When a URL field is set and to what: the part in which the two walks differ. -/
structure URLRule where
  applies (item : List (String × Json)) (urlKey resourceID : String) : Bool
  url (resourceID : String) : String
  present : ∀ {item urlKey resourceID}, applies item urlKey resourceID = true → resourceID ≠ "" →
    urlKey ∈ item.map Prod.fst

variable {number} (rule : URLRule)

def setURL (item : List (String × Json)) (resourceID : String) (result : List (String × Json))
    (urlKey : String) : List (String × Json) :=
  if rule.applies item urlKey resourceID then setMember result urlKey (.str (rule.url resourceID))
  else result

variable (number)

/-- The loop over the pairs: `item` is the object as it was read, `result` the one being built. -/
def setURLs (item : List (String × Json)) (pairs : List (String × List String))
    (result : List (String × Json)) : List (String × Json) :=
  pairs.foldl (fun result pair ↦
    let resourceID := namedResource number (member item pair.1)
    if resourceID = "" then result else pair.2.foldl (setURL rule item resourceID) result) result

mutual

/-- The walk of both functions. -/
def mapURLs (order : KeyOrder) : Json → Json
  | .obj members =>
    let pairs := canvasResourceFieldPairs (order.visit [] (members.map Prod.fst))
    .obj (setURLs number rule members pairs (mapMembers order 0 members))
  | .arr items => .arr (mapItems order 0 items)
  | value => value

def mapItems (order : KeyOrder) : ℕ → List Json → List Json
  | _, [] => []
  | index, item :: items => mapURLs (order.within index) item :: mapItems order (index + 1) items

def mapMembers (order : KeyOrder) : ℕ → List (String × Json) → List (String × Json)
  | _, [] => []
  | index, (key, child) :: members =>
    (key, mapURLs (order.within index) child) :: mapMembers order (index + 1) members

end

end Walk

section Functions

variable (number : String → String) (canvasID : String)

/-- The URL field is there, and gets the team's address. -/
def teamRule : URLRule where
  applies item urlKey _ := (item.lookup urlKey).isSome
  url := teamCanvasResourceURL canvasID
  present h _ := by
    obtain ⟨value, hvalue⟩ := Option.isSome_iff_exists.mp h
    obtain ⟨l₁, l₂, rfl, -⟩ := List.lookup_eq_some_iff.mp hvalue
    simp

def rewriteTeamCanvasResourceURLs (order : KeyOrder) (value : Json) : Json :=
  mapURLs number (teamRule canvasID) order value

/-- The URL field has the team's address of the resource, and gets the resource's own. -/
def canonicalRule : URLRule where
  applies item urlKey resourceID :=
    teamCanvasResourceID (stringValue number (member item urlKey)) canvasID = resourceID
  url := canonicalResourceURL
  present := by
    intro item urlKey resourceID h hne
    by_contra hno
    rw [decide_eq_true_eq, member, List.lookup_eq_none_iff.mpr, Option.getD_none,
      stringValue_null, teamCanvasResourceID_empty] at h
    · exact hne h.symm
    · intro m hm
      rw [bne_iff_ne]
      rintro rfl
      exact hno (List.mem_map_of_mem hm)

def canonicalizeTeamCanvasResourceURLs (order : KeyOrder) (value : Json) : Json :=
  mapURLs number (canonicalRule number canvasID) order value

variable {number canvasID} {item : List (String × Json)} {urlKey resourceID : String}

theorem teamRule_applies (h : urlKey ∈ item.map Prod.fst) :
    (teamRule canvasID).applies item urlKey resourceID = true := by
  change (item.lookup urlKey).isSome = true
  obtain ⟨m, hm, rfl⟩ := List.mem_map.mp h
  rw [Option.isSome_iff_ne_none, ne_eq, List.lookup_eq_none_iff]
  exact fun hnone ↦ by simpa using hnone m hm

theorem canonicalRule_applies :
    (canonicalRule number canvasID).applies item urlKey resourceID = true ↔
      teamCanvasResourceID (stringValue number (member item urlKey)) canvasID = resourceID := by
  rw [canonicalRule, decide_eq_true_eq]

end Functions

/-! ## What a walk makes of an object -/

section Spec

variable (number : String → String)

/-- The URL field is there, and a storage key it is paired with names the resource. -/
def Paired (item : List (String × Json)) (urlKey resourceID : String) : Prop :=
  urlKey ∈ item.map Prod.fst ∧ resourceID ≠ "" ∧
    ∃ storageKey ∈ item.map Prod.fst, isCanvasResourceStorageKey storageKey = true ∧
      urlKey ∈ urlKeys storageKey ∧ namedResource number (member item storageKey) = resourceID

variable (rule : URLRule)

/-- What the loop over the pairs assigns, in turn. -/
def assignments (item : List (String × Json)) (pairs : List (String × List String)) :
    List (String × Json) :=
  pairs.flatMap fun pair ↦
    let resourceID := namedResource number (member item pair.1)
    if resourceID = "" then []
    else (pair.2.filter (rule.applies item · resourceID)).map
      fun urlKey ↦ (urlKey, .str (rule.url resourceID))

/-- What a member of the object is assigned last. -/
def assigned (order : KeyOrder) (item : List (String × Json)) (key : String) : Option Json :=
  (assignments number rule item
    (canvasResourceFieldPairs (order.visit [] (item.map Prod.fst)))).reverse.lookup key

variable {number rule}

theorem mapItems_eq (order : KeyOrder) (items : List Json) : ∀ index,
    mapItems number rule order index items =
      items.mapIdx fun i v ↦ mapURLs number rule (order.within (index + i)) v := by
  induction items with
  | nil => intro index; rw [mapItems, List.mapIdx_nil]
  | cons item items ih =>
    intro index
    rw [mapItems, ih, List.mapIdx_cons]
    congr 2
    funext i v
    rw [Nat.add_right_comm, Nat.add_assoc]

theorem mapMembers_eq (order : KeyOrder) (members : List (String × Json)) : ∀ index,
    mapMembers number rule order index members =
      members.mapIdx fun i m ↦ (m.1, mapURLs number rule (order.within (index + i)) m.2) := by
  induction members with
  | nil => intro index; rw [mapMembers, List.mapIdx_nil]
  | cons m members ih =>
    intro index
    rw [mapMembers, ih, List.mapIdx_cons]
    congr 2
    funext i v
    rw [Nat.add_right_comm, Nat.add_assoc]

theorem setURLs_eq (item : List (String × Json)) (pairs : List (String × List String))
    (result : List (String × Json)) :
    setURLs number rule item pairs result =
      (assignments number rule item pairs).foldl (fun result a ↦ setMember result a.1 a.2)
        result := by
  rw [setURLs, assignments, List.foldl_flatMap]
  refine congrArg (pairs.foldl · result) (funext₂ fun result pair ↦ ?_)
  by_cases hnone : namedResource number (member item pair.1) = ""
  · simp only [if_pos hnone, List.foldl_nil]
  · simp only [if_neg hnone, List.foldl_map, List.foldl_filter]
    rfl

theorem mem_assignments {order : KeyOrder} {item : List (String × Json)} {key : String} {v : Json} :
    (key, v) ∈ assignments number rule item
        (canvasResourceFieldPairs (order.visit [] (item.map Prod.fst))) ↔
      ∃ r, Paired number item key r ∧ rule.applies item key r = true ∧ v = .str (rule.url r) := by
  simp only [assignments, canvasResourceFieldPairs, List.mem_flatMap, List.mem_map, List.mem_filter,
    (order.visit_perm [] _).mem_iff]
  constructor
  · rintro ⟨_, ⟨storageKey, ⟨hmem, hstorage⟩, rfl⟩, hv⟩
    dsimp only at hv
    split_ifs at hv with hnone
    · exact absurd hv List.not_mem_nil
    · obtain ⟨urlKey, hurl, heq⟩ := List.mem_map.mp hv
      rw [List.mem_filter] at hurl
      cases heq
      have hkey := rule.present hurl.2 hnone
      exact ⟨_, ⟨hkey, hnone, storageKey, List.mem_map.mpr hmem, hstorage, hurl.1, rfl⟩, hurl.2,
        rfl⟩
  · rintro ⟨r, ⟨-, hne, storageKey, hmem, hstorage, hurl, rfl⟩, happlies, rfl⟩
    refine ⟨_, ⟨storageKey, ⟨List.mem_map.mp hmem, hstorage⟩, rfl⟩, ?_⟩
    dsimp only
    rw [if_neg hne]
    exact List.mem_map.mpr ⟨key, List.mem_filter.mpr ⟨hurl, happlies⟩, rfl⟩

/-- **What a walk makes of an object**: each member gets what it was assigned last, or what the walk
makes of its value. -/
theorem mapURLs_obj (order : KeyOrder) (members : List (String × Json)) :
    mapURLs number rule order (.obj members) = .obj (members.mapIdx fun i m ↦
      (m.1, (assigned number rule order members m.1).getD
        (mapURLs number rule (order.within i) m.2))) := by
  rw [mapURLs, setURLs_eq, mapMembers_eq]
  simp only [Nat.zero_add]
  rw [foldl_setMember]
  · exact congrArg Json.obj (List.ext_getElem (by simp) fun i _ _ ↦ by simp [assigned])
  · rintro ⟨key, v⟩ hmem
    obtain ⟨r, hpaired, -, -⟩ := mem_assignments.mp hmem
    rw [keys_mapIdx]
    exact hpaired.1

theorem mapURLs_arr (order : KeyOrder) (items : List Json) :
    mapURLs number rule order (.arr items) =
      .arr (items.mapIdx fun i v ↦ mapURLs number rule (order.within i) v) := by
  rw [mapURLs, mapItems_eq]
  simp only [Nat.zero_add]

theorem mapURLs_scalar (order : KeyOrder) {v : Json} (hv : v.isScalar = true) :
    mapURLs number rule order v = v := by
  cases v <;> first | rfl | cases hv

theorem assigned_eq_none {order : KeyOrder} {item : List (String × Json)} {key : String}
    (h : ∀ r, Paired number item key r → rule.applies item key r = false) :
    assigned number rule order item key = none := by
  rw [assigned, List.lookup_eq_none_iff]
  rintro ⟨key', v⟩ hmem
  rw [bne_iff_ne]
  rintro rfl
  obtain ⟨r, hpaired, happlies, -⟩ := mem_assignments.mp (List.mem_reverse.mp hmem)
  rw [h r hpaired] at happlies
  cases happlies

/-- Where the storage keys do not contradict each other the order is of no account. -/
theorem assigned_eq_some {order : KeyOrder} {item : List (String × Json)} {key r : String}
    (hpaired : Paired number item key r) (happlies : rule.applies item key r = true)
    (honly : ∀ r', Paired number item key r' → rule.applies item key r' = true → r' = r) :
    assigned number rule order item key = some (.str (rule.url r)) := by
  have hmem : (key, Json.str (rule.url r)) ∈ assignments number rule item
      (canvasResourceFieldPairs (order.visit [] (item.map Prod.fst))) :=
    mem_assignments.mpr ⟨r, hpaired, happlies, rfl⟩
  cases hlast : assigned number rule order item key with
  | none =>
    rw [assigned, List.lookup_eq_none_iff] at hlast
    simpa using hlast _ (List.mem_reverse.mpr hmem)
  | some v =>
    rw [assigned, List.lookup_eq_some_iff] at hlast
    obtain ⟨l₁, l₂, hsplit, -⟩ := hlast
    have hin : (key, v) ∈ assignments number rule item
        (canvasResourceFieldPairs (order.visit [] (item.map Prod.fst))) := by
      rw [← List.mem_reverse, hsplit]
      simp
    obtain ⟨r', hpaired', happlies', rfl⟩ := mem_assignments.mp hin
    rw [honly r' hpaired' happlies']

end Spec

/-! ## Objects whose values change -/

section Changed

variable {number : String → String} {item : List (String × Json)} {f : ℕ → String × Json → Json}

theorem Paired.isResourceID {key r : String} (h : Paired number item key r) : IsResourceID r := by
  obtain ⟨-, hne, storageKey, -, -, -, rfl⟩ := h
  exact canvasResourceID_valid hne

theorem Paired.self {key r : String} (h : Paired number item key r) :
    validCanvasResourceID r = r := by
  obtain ⟨-, hne, storageKey, -, -, -, rfl⟩ := h
  exact canvasResourceID_self hne

theorem Paired.not_storageKey {key r : String} (h : Paired number item key r) :
    isCanvasResourceStorageKey key = false := by
  obtain ⟨-, -, storageKey, -, -, hurl, -⟩ := h
  exact not_storageKey_of_mem_urlKeys hurl

/-- A URL field that is there has a storage key for partner. -/
def HasURL (item : List (String × Json)) (storageKey : String) : Prop :=
  isCanvasResourceStorageKey storageKey = true ∧
    ∃ urlKey ∈ urlKeys storageKey, urlKey ∈ item.map Prod.fst

/-- The pairs stay while the storage keys name what they named. -/
theorem paired_mapIdx (hnamed : ∀ i, ∀ hi : i < item.length, HasURL item item[i].1 →
      namedResource number (f i item[i]) = namedResource number item[i].2) {key r : String} :
    Paired number (item.mapIdx fun i m ↦ (m.1, f i m)) key r ↔ Paired number item key r := by
  have hmember : key ∈ item.map Prod.fst → ∀ storageKey,
      isCanvasResourceStorageKey storageKey = true → key ∈ urlKeys storageKey →
      namedResource number (member (item.mapIdx fun i m ↦ (m.1, f i m)) storageKey) =
        namedResource number (member item storageKey) := by
    intro hkey storageKey hstorage hurl
    rcases lookup_mapIdx storageKey item f with ⟨i, hi, rfl, hold, hnew⟩ | ⟨-, hold, hnew⟩
    · rw [member, member, hold, hnew, Option.getD_some, Option.getD_some]
      exact hnamed i hi ⟨hstorage, key, hurl, hkey⟩
    · rw [member, member, hold, hnew]
  rw [Paired, Paired, keys_mapIdx]
  constructor
  · rintro ⟨hkey, hne, storageKey, hmem, hstorage, hurl, hname⟩
    exact ⟨hkey, hne, storageKey, hmem, hstorage, hurl,
      (hmember hkey storageKey hstorage hurl).symm.trans hname⟩
  · rintro ⟨hkey, hne, storageKey, hmem, hstorage, hurl, hname⟩
    exact ⟨hkey, hne, storageKey, hmem, hstorage, hurl,
      (hmember hkey storageKey hstorage hurl).trans hname⟩

/-- A walk over an object whose values have changed, member by member. -/
theorem mapURLs_obj_eq {rule : URLRule} {order : KeyOrder} {g : ℕ → String × Json → Json}
    (h : ∀ i, ∀ hi : i < item.length,
      (assigned number rule order (item.mapIdx fun i m ↦ (m.1, f i m)) item[i].1).getD
        (mapURLs number rule (order.within i) (f i item[i])) = g i item[i]) :
    mapURLs number rule order (.obj (item.mapIdx fun i m ↦ (m.1, f i m))) =
      .obj (item.mapIdx fun i m ↦ (m.1, g i m)) := by
  rw [mapURLs_obj, List.mapIdx_mapIdx]
  refine congrArg Json.obj (List.mapIdx_eq_mapIdx_iff.mpr fun i hi ↦ ?_)
  exact Prod.ext rfl (h i hi)

end Changed

end TeamURLs

end HMaigc
