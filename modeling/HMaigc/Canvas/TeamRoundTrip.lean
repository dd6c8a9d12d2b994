import HMaigc.Canvas.TeamURLs

/-!
# There and back between the owner's addresses and the team's

* `mapURLs_sameOutside` — a walk changes nothing but URL fields whose storage key names a resource.
* `canonicalize_order` — the way back does not depend on the order of the keys; the way there does
  not where the storage keys of a URL field agree (`rewrite_order`).
* `canonicalize_rewrite`, `rewrite_rewrite`, `rewrite_canonicalize_rewrite` — the round trips, for
  the payloads whose storage keys name what they named after the walk.  Those whose storage keys
  hold texts are among them (`steady_of_scalars`).
-/

set_option autoImplicit false

namespace HMaigc

open Go

namespace TeamURLs

/-! ## What is left alone -/

section Outside

variable (number : String → String)

/-- The two values differ at most in URL fields whose storage key names a resource. -/
inductive SameOutside : Json → Json → Prop
  | scalar {v : Json} (h : v.isScalar = true) : SameOutside v v
  | arr {items items' : List Json} (hlength : items'.length = items.length)
    (h : ∀ i, ∀ hi : i < items.length, ∀ hi' : i < items'.length, SameOutside items[i] items'[i]) :
    SameOutside (.arr items) (.arr items')
  | obj {members members' : List (String × Json)}
    (hkeys : members'.map Prod.fst = members.map Prod.fst)
    (h : ∀ i, ∀ hi : i < members.length, ∀ hi' : i < members'.length,
      (∀ r, ¬Paired number members members[i].1 r) → SameOutside members[i].2 members'[i].2) :
    SameOutside (.obj members) (.obj members')

variable {number}

/-- **A walk changes nothing else.** -/
theorem mapURLs_sameOutside {rule : URLRule} (v : Json) :
    ∀ order, SameOutside number v (mapURLs number rule order v) := by
  induction v using Json.induct with
  | scalar v hv =>
    intro order
    rw [mapURLs_scalar order hv]
    exact .scalar hv
  | arr items ih =>
    intro order
    rw [mapURLs_arr]
    refine .arr (by simp) fun i hi hi' ↦ ?_
    rw [List.getElem_mapIdx]
    exact ih _ (List.getElem_mem hi) _
  | obj members ih =>
    intro order
    rw [mapURLs_obj]
    refine .obj (keys_mapIdx _ _) fun i hi hi' hno ↦ ?_
    rw [List.getElem_mapIdx, assigned_eq_none fun r hpaired ↦ absurd hpaired (hno r),
      Option.getD_none]
    exact ih _ (List.getElem_mem hi) _

end Outside

/-! ## The order of the keys -/

section Order

variable (number : String → String)

/-- No two storage keys give one URL field two addresses. -/
def Agreed (rule : URLRule) (members : List (String × Json)) : Prop :=
  ∀ key r r', Paired number members key r → Paired number members key r' →
    rule.applies members key r = true → rule.applies members key r' = true → r = r'

/-- No two storage keys of one URL field name two resources. -/
def Unambiguous (members : List (String × Json)) : Prop :=
  ∀ key r r', Paired number members key r → Paired number members key r' → r = r'

variable {number} {rule : URLRule}

theorem mapURLs_order {v : Json} (hagreed : Everywhere (Agreed number rule) v) :
    ∀ order order', mapURLs number rule order v = mapURLs number rule order' v := by
  induction v using Json.induct with
  | scalar v hv =>
    intro order order'
    rw [mapURLs_scalar order hv, mapURLs_scalar order' hv]
  | arr items ih =>
    intro order order'
    rw [mapURLs_arr, mapURLs_arr]
    refine congrArg Json.arr (List.mapIdx_eq_mapIdx_iff.mpr fun i hi ↦ ?_)
    exact ih _ (List.getElem_mem hi) (hagreed.items _ (List.getElem_mem hi)) _ _
  | obj members ih =>
    intro order order'
    rw [mapURLs_obj, mapURLs_obj]
    refine congrArg Json.obj (List.mapIdx_eq_mapIdx_iff.mpr fun i hi ↦ Prod.ext rfl ?_)
    have hchild := ih _ (List.getElem_mem hi) (hagreed.members _ (List.getElem_mem hi))
      (order.within i) (order'.within i)
    dsimp only
    rw [hchild]
    by_cases hset : ∃ r, Paired number members members[i].1 r ∧
        rule.applies members members[i].1 r = true
    · obtain ⟨r, hpaired, happlies⟩ := hset
      have honly : ∀ r', Paired number members members[i].1 r' →
          rule.applies members members[i].1 r' = true → r' = r :=
        fun r' hpaired' happlies' ↦ hagreed.here _ r' r hpaired' hpaired happlies' happlies
      rw [assigned_eq_some hpaired happlies honly, assigned_eq_some hpaired happlies honly]
    · have hnone : ∀ r, Paired number members members[i].1 r →
          rule.applies members members[i].1 r = false := by
        intro r hpaired
        by_contra happlies
        exact hset ⟨r, hpaired, by simpa using happlies⟩
      rw [assigned_eq_none hnone, assigned_eq_none hnone]

variable {canvasID : String}

/-- **The way back does not depend on the order.** -/
theorem canonicalize_order (v : Json) (order order' : KeyOrder) :
    canonicalizeTeamCanvasResourceURLs number canvasID order v =
      canonicalizeTeamCanvasResourceURLs number canvasID order' v := by
  refine mapURLs_order (Everywhere.of_forall (fun members key r r' _ _ h h' ↦ ?_) v) order order'
  exact (canonicalRule_applies.mp h).symm.trans (canonicalRule_applies.mp h')

/-- **Nor does the way there, without contradicting storage keys.** -/
theorem rewrite_order {v : Json} (hone : Everywhere (Unambiguous number) v)
    (order order' : KeyOrder) :
    rewriteTeamCanvasResourceURLs number canvasID order v =
      rewriteTeamCanvasResourceURLs number canvasID order' v :=
  mapURLs_order (hone.mono fun _ h key r r' hpaired hpaired' _ _ ↦ h key r r' hpaired hpaired')
    order order'

end Order

/-! ## Round trips -/

section RoundTrip

variable (number : String → String) (canvasID : String)

/-- The values of the storage keys name after the walks what they named before. -/
def Steady (members : List (String × Json)) : Prop :=
  ∀ m ∈ members, HasURL members m.1 → ∀ order order',
    namedResource number (rewriteTeamCanvasResourceURLs number canvasID order m.2) =
        namedResource number m.2 ∧
      namedResource number (canonicalizeTeamCanvasResourceURLs number canvasID order'
          (rewriteTeamCanvasResourceURLs number canvasID order m.2)) = namedResource number m.2

/-- Each paired URL field holds the owner's address of the resource its storage key names. -/
def HasCanonicalURLs (members : List (String × Json)) : Prop :=
  ∀ m ∈ members, ∀ r, Paired number members m.1 r → m.2 = .str (canonicalResourceURL r)

variable {number canvasID}

/-- The value is the owner's address of the resource. -/
def isAddressOf (r : String) : Json → Bool
  | .str text => text == canonicalResourceURL r
  | _ => false

/-- `HasCanonicalURLs`, computed. -/
def hasCanonicalURLs (number : String → String) (members : List (String × Json)) : Bool :=
  members.all fun m ↦ (members.map Prod.fst).all fun storageKey ↦
    let r := namedResource number (member members storageKey)
    !isCanvasResourceStorageKey storageKey || !(urlKeys storageKey).contains m.1 || r == "" ||
      isAddressOf r m.2

theorem hasCanonicalURLs_sound {members : List (String × Json)}
    (h : hasCanonicalURLs number members = true) : HasCanonicalURLs number members := by
  rintro m hm _ ⟨-, hne, storageKey, hmem, hstorage, hurl, rfl⟩
  have hcheck := List.all_eq_true.mp (List.all_eq_true.mp h m hm) storageKey hmem
  simp only [hstorage, List.contains_iff_mem.mpr hurl, beq_false_of_ne hne, Bool.not_true,
    Bool.false_or] at hcheck
  cases hvalue : m.2 with
  | str text =>
    rw [hvalue, isAddressOf, beq_iff_eq] at hcheck
    rw [hcheck]
  | _ =>
    rw [hvalue] at hcheck
    cases hcheck

/-- Storage keys that hold a text, or any other value without parts, are steady. -/
theorem steady_of_scalars {members : List (String × Json)}
    (h : ∀ m ∈ members, isCanvasResourceStorageKey m.1 = true → m.2.isScalar = true) :
    Steady number canvasID members := by
  intro m hm hurl order order'
  have hscalar := h m hm hurl.1
  rw [rewriteTeamCanvasResourceURLs, canonicalizeTeamCanvasResourceURLs,
    mapURLs_scalar order hscalar, mapURLs_scalar order' hscalar]
  exact ⟨rfl, rfl⟩

theorem toList_canonicalResourceURL (r : String) : (canonicalResourceURL r).toList =
    "/api/resources/".toList ++ (r.toList ++ "/file".toList) :=
  toList_append_append _ _ _

theorem HasCanonicalURLs.unambiguous {members : List (String × Json)}
    (h : HasCanonicalURLs number members) : Unambiguous number members := by
  intro key r r' hpaired hpaired'
  obtain ⟨m, hm, rfl⟩ := List.mem_map.mp hpaired.1
  have heq := (h m hm r hpaired).symm.trans (h m hm r' hpaired')
  have htext : canonicalResourceURL r = canonicalResourceURL r' := Json.str.inj heq
  have hlist := congrArg String.toList htext
  rw [toList_canonicalResourceURL, toList_canonicalResourceURL] at hlist
  exact String.toList_injective (List.append_cancel_right (List.append_cancel_left hlist))

/-- The team's address is read as itself. -/
theorem stringValue_teamURL (r : String) :
    stringValue number (.str (teamCanvasResourceURL canvasID r)) =
      teamCanvasResourceURL canvasID r := by
  have hlist : (teamCanvasResourceURL canvasID r).toList =
      ("/api/canvas-projects/" ++ canvasID ++ "/resources/").toList ++
        (r.toList ++ "/file".toList) := toList_append_append _ _ _
  have hhead : (teamCanvasResourceURL canvasID r).toList.head? = some '/' := by
    rw [hlist, toList_append_append]
    rfl
  have hlast : (teamCanvasResourceURL canvasID r).toList.getLast? = some 'e' := by
    rw [hlist, ← List.append_assoc, List.getLast?_append_of_ne_nil _ (by decide)]
    decide
  have htrim : trimSpace (teamCanvasResourceURL canvasID r) = teamCanvasResourceURL canvasID r := by
    rw [trimSpace_eq_self_iff, beginsBlank, endsBlank, hhead, hlast]
    exact ⟨by decide, by decide⟩
  have hnil : teamCanvasResourceURL canvasID r ≠ "<nil>" := by
    intro heq
    rw [heq] at hhead
    exact absurd hhead (by decide)
  rw [stringValue, sprint, htrim]
  exact if_neg hnil

section Object

variable (number canvasID) (members : List (String × Json))

/-- What the way there makes of the value of a member. -/
def rewritten (order : KeyOrder) (i : ℕ) (m : String × Json) : Json :=
  (assigned number (teamRule canvasID) order members m.1).getD
    (rewriteTeamCanvasResourceURLs number canvasID (order.within i) m.2)

/-- The members after the way there. -/
def membersThere (order : KeyOrder) : List (String × Json) :=
  members.mapIdx fun i m ↦ (m.1, rewritten number canvasID members order i m)

/-- What the way back makes of the value of a member after the way there. -/
def restored (order order' : KeyOrder) (i : ℕ) (m : String × Json) : Json :=
  (assigned number (canonicalRule number canvasID) order'
      (membersThere number canvasID members order) m.1).getD
    (canonicalizeTeamCanvasResourceURLs number canvasID (order'.within i)
      (rewritten number canvasID members order i m))

/-- The members after the way there and back. -/
def membersBack (order order' : KeyOrder) : List (String × Json) :=
  members.mapIdx fun i m ↦ (m.1, restored number canvasID members order order' i m)

variable {number canvasID members} {order order' : KeyOrder} {m : String × Json} {i : ℕ}
  {r : String}

theorem rewrite_obj : rewriteTeamCanvasResourceURLs number canvasID order (.obj members) =
    .obj (membersThere number canvasID members order) :=
  mapURLs_obj order members

theorem canonicalize_obj : canonicalizeTeamCanvasResourceURLs number canvasID order'
    (.obj (membersThere number canvasID members order)) =
      .obj (membersBack number canvasID members order order') :=
  mapURLs_obj_eq fun _ _ ↦ rfl

theorem rewritten_of_paired (hone : Unambiguous number members)
    (hpaired : Paired number members m.1 r) :
    rewritten number canvasID members order i m = .str (teamCanvasResourceURL canvasID r) := by
  rw [rewritten, assigned_eq_some hpaired (teamRule_applies hpaired.1)
    fun r' hpaired' _ ↦ hone _ r' r hpaired' hpaired]
  rfl

theorem rewritten_of_not_paired (hno : ∀ r, ¬Paired number members m.1 r) :
    rewritten number canvasID members order i m =
      rewriteTeamCanvasResourceURLs number canvasID (order.within i) m.2 := by
  rw [rewritten, assigned_eq_none fun r hpaired ↦ absurd hpaired (hno r), Option.getD_none]

theorem not_paired_of_hasURL {key : String} (hurl : HasURL members key) :
    ∀ r, ¬Paired number members key r := by
  intro r hpaired
  rw [HasURL, hpaired.not_storageKey] at hurl
  cases hurl.1

theorem paired_there (hsteady : Steady number canvasID members) {key : String} :
    Paired number (membersThere number canvasID members order) key r ↔
      Paired number members key r := by
  refine paired_mapIdx fun i hi hurl ↦ ?_
  rw [rewritten_of_not_paired (not_paired_of_hasURL hurl)]
  exact (hsteady _ (List.getElem_mem hi) hurl (order.within i) order).1

/-- A paired URL field has the team's address after the way there. -/
theorem member_there (hone : Unambiguous number members) {key : String}
    (hpaired : Paired number members key r) :
    member (membersThere number canvasID members order) key =
      .str (teamCanvasResourceURL canvasID r) := by
  rcases lookup_mapIdx key members (rewritten number canvasID members order) with
    ⟨i, hi, rfl, -, hnew⟩ | ⟨hno, -⟩
  · rw [member, membersThere, hnew, Option.getD_some, rewritten_of_paired hone hpaired]
  · exact absurd hpaired.1 hno

theorem restored_of_paired (hsteady : Steady number canvasID members)
    (hone : Unambiguous number members) (hpaired : Paired number members m.1 r) :
    restored number canvasID members order order' i m = .str (canonicalResourceURL r) := by
  have happlies : (canonicalRule number canvasID).applies
      (membersThere number canvasID members order) m.1 r = true := by
    rw [canonicalRule_applies, member_there hone hpaired, stringValue_teamURL,
      teamCanvasResourceID_url canvasID hpaired.isResourceID hpaired.self]
  rw [restored, assigned_eq_some ((paired_there hsteady).mpr hpaired) happlies
    fun r' hpaired' _ ↦ hone _ r' r ((paired_there hsteady).mp hpaired') hpaired]
  rfl

theorem restored_of_not_paired (hsteady : Steady number canvasID members)
    (hno : ∀ r, ¬Paired number members m.1 r) :
    restored number canvasID members order order' i m =
      canonicalizeTeamCanvasResourceURLs number canvasID (order'.within i)
        (rewriteTeamCanvasResourceURLs number canvasID (order.within i) m.2) := by
  rw [restored, assigned_eq_none fun r hpaired ↦ absurd ((paired_there hsteady).mp hpaired) (hno r),
    Option.getD_none, rewritten_of_not_paired hno]

theorem paired_back (hsteady : Steady number canvasID members) {key : String} :
    Paired number (membersBack number canvasID members order order') key r ↔
      Paired number members key r := by
  refine paired_mapIdx fun i hi hurl ↦ ?_
  rw [restored_of_not_paired hsteady (not_paired_of_hasURL hurl)]
  exact (hsteady _ (List.getElem_mem hi) hurl (order.within i) (order'.within i)).2

end Object

/-- **There and back**: a payload whose paired URL fields hold the owner's addresses comes back as
it was. -/
theorem canonicalize_rewrite {v : Json} (hsteady : Everywhere (Steady number canvasID) v)
    (hurls : Everywhere (HasCanonicalURLs number) v) : ∀ order order',
    canonicalizeTeamCanvasResourceURLs number canvasID order'
      (rewriteTeamCanvasResourceURLs number canvasID order v) = v := by
  induction v using Json.induct with
  | scalar v hv =>
    intro order order'
    rw [rewriteTeamCanvasResourceURLs, canonicalizeTeamCanvasResourceURLs, mapURLs_scalar order hv,
      mapURLs_scalar order' hv]
  | arr items ih =>
    intro order order'
    rw [rewriteTeamCanvasResourceURLs, canonicalizeTeamCanvasResourceURLs, mapURLs_arr, mapURLs_arr]
    refine congrArg Json.arr (List.ext_getElem (by simp) fun i hi hi' ↦ ?_)
    rw [List.getElem_mapIdx, List.getElem_mapIdx]
    have hmem := List.getElem_mem hi'
    exact ih _ hmem (hsteady.items _ hmem) (hurls.items _ hmem) _ _
  | obj members ih =>
    intro order order'
    rw [rewrite_obj, canonicalize_obj]
    refine congrArg Json.obj (List.ext_getElem (by simp [membersBack]) fun i hi hi' ↦ ?_)
    have hmem := List.getElem_mem hi'
    simp only [membersBack, List.getElem_mapIdx]
    refine Prod.ext rfl ?_
    by_cases hpaired : ∃ r, Paired number members members[i].1 r
    · obtain ⟨r, hpaired⟩ := hpaired
      rw [hurls.here _ hmem r hpaired]
      exact restored_of_paired hsteady.here hurls.here.unambiguous hpaired
    · rw [restored_of_not_paired hsteady.here (not_exists.mp hpaired)]
      exact ih _ hmem (hsteady.members _ hmem) (hurls.members _ hmem) _ _

/-- **The way there is idempotent.** -/
theorem rewrite_rewrite {v : Json} (hsteady : Everywhere (Steady number canvasID) v)
    (hone : Everywhere (Unambiguous number) v) : ∀ order order',
    rewriteTeamCanvasResourceURLs number canvasID order'
      (rewriteTeamCanvasResourceURLs number canvasID order v) =
        rewriteTeamCanvasResourceURLs number canvasID order v := by
  induction v using Json.induct with
  | scalar v hv =>
    intro order order'
    rw [rewriteTeamCanvasResourceURLs, rewriteTeamCanvasResourceURLs, mapURLs_scalar order hv,
      mapURLs_scalar order' hv]
  | arr items ih =>
    intro order order'
    rw [rewriteTeamCanvasResourceURLs, rewriteTeamCanvasResourceURLs, mapURLs_arr, mapURLs_arr,
      List.mapIdx_mapIdx]
    refine congrArg Json.arr (List.mapIdx_eq_mapIdx_iff.mpr fun i hi ↦ ?_)
    have hmem := List.getElem_mem hi
    exact ih _ hmem (hsteady.items _ hmem) (hone.items _ hmem) _ _
  | obj members ih =>
    intro order order'
    rw [rewrite_obj]
    refine mapURLs_obj_eq fun i hi ↦ ?_
    have hmem := List.getElem_mem hi
    by_cases hpaired : ∃ r, Paired number members members[i].1 r
    · obtain ⟨r, hpaired⟩ := hpaired
      have hthere : Paired number (membersThere number canvasID members order) members[i].1 r :=
        (paired_there hsteady.here).mpr hpaired
      rw [rewritten_of_paired hone.here hpaired]
      change (assigned number (teamRule canvasID) order'
        (membersThere number canvasID members order) members[i].1).getD _ = _
      rw [assigned_eq_some hthere (teamRule_applies hthere.1)
        fun r' hpaired' _ ↦ hone.here _ r' r ((paired_there hsteady.here).mp hpaired') hpaired]
      rfl
    · have hno := not_exists.mp hpaired
      change (assigned number (teamRule canvasID) order'
        (membersThere number canvasID members order) members[i].1).getD _ = _
      rw [assigned_eq_none fun r h ↦ absurd ((paired_there hsteady.here).mp h) (hno r),
        Option.getD_none, rewritten_of_not_paired hno]
      exact ih _ hmem (hsteady.members _ hmem) (hone.members _ hmem) _ _

/-- **There, back and there again is there.** -/
theorem rewrite_canonicalize_rewrite {v : Json} (hsteady : Everywhere (Steady number canvasID) v)
    (hone : Everywhere (Unambiguous number) v) : ∀ order order' order'',
    rewriteTeamCanvasResourceURLs number canvasID order''
      (canonicalizeTeamCanvasResourceURLs number canvasID order'
        (rewriteTeamCanvasResourceURLs number canvasID order v)) =
      rewriteTeamCanvasResourceURLs number canvasID order v := by
  induction v using Json.induct with
  | scalar v hv =>
    intro order order' order''
    rw [rewriteTeamCanvasResourceURLs, rewriteTeamCanvasResourceURLs,
      canonicalizeTeamCanvasResourceURLs, mapURLs_scalar order hv, mapURLs_scalar order' hv,
      mapURLs_scalar order'' hv]
  | arr items ih =>
    intro order order' order''
    rw [rewriteTeamCanvasResourceURLs, rewriteTeamCanvasResourceURLs,
      canonicalizeTeamCanvasResourceURLs, mapURLs_arr, mapURLs_arr, mapURLs_arr,
      List.mapIdx_mapIdx, List.mapIdx_mapIdx]
    refine congrArg Json.arr (List.mapIdx_eq_mapIdx_iff.mpr fun i hi ↦ ?_)
    have hmem := List.getElem_mem hi
    exact ih _ hmem (hsteady.items _ hmem) (hone.items _ hmem) _ _ _
  | obj members ih =>
    intro order order' order''
    rw [rewrite_obj, canonicalize_obj]
    refine mapURLs_obj_eq fun i hi ↦ ?_
    have hmem := List.getElem_mem hi
    change (assigned number (teamRule canvasID) order''
      (membersBack number canvasID members order order') members[i].1).getD _ = _
    by_cases hpaired : ∃ r, Paired number members members[i].1 r
    · obtain ⟨r, hpaired⟩ := hpaired
      have hback : Paired number (membersBack number canvasID members order order')
          members[i].1 r := (paired_back hsteady.here).mpr hpaired
      rw [rewritten_of_paired hone.here hpaired,
        assigned_eq_some hback (teamRule_applies hback.1)
          fun r' hpaired' _ ↦ hone.here _ r' r ((paired_back hsteady.here).mp hpaired') hpaired]
      rfl
    · have hno := not_exists.mp hpaired
      rw [assigned_eq_none fun r h ↦ absurd ((paired_back hsteady.here).mp h) (hno r),
        Option.getD_none, restored_of_not_paired hsteady.here hno, rewritten_of_not_paired hno]
      exact ih _ hmem (hsteady.members _ hmem) (hone.members _ hmem) _ _ _

/-- **The addresses of a team canvas.**  Neither walk changes anything but paired URL fields, and
the way back does not depend on the order of the keys.  The way there does not where no two storage
keys of a URL field name two resources.  Where the storage keys are steady, what has the owner's
addresses comes back as it was, the way there is idempotent, and there, back and there again is
there. -/
theorem teamCanvasResourceURLs_roundTrip (v : Json) :
    (∀ order, SameOutside number v (rewriteTeamCanvasResourceURLs number canvasID order v) ∧
      SameOutside number v (canonicalizeTeamCanvasResourceURLs number canvasID order v)) ∧
    (∀ order order', canonicalizeTeamCanvasResourceURLs number canvasID order v =
      canonicalizeTeamCanvasResourceURLs number canvasID order' v) ∧
    (Everywhere (Unambiguous number) v → ∀ order order',
      rewriteTeamCanvasResourceURLs number canvasID order v =
        rewriteTeamCanvasResourceURLs number canvasID order' v) ∧
    (Everywhere (Steady number canvasID) v → Everywhere (HasCanonicalURLs number) v →
      ∀ order order', canonicalizeTeamCanvasResourceURLs number canvasID order'
        (rewriteTeamCanvasResourceURLs number canvasID order v) = v) ∧
    (Everywhere (Steady number canvasID) v → Everywhere (Unambiguous number) v →
      ∀ order order' order'',
        rewriteTeamCanvasResourceURLs number canvasID order'
            (rewriteTeamCanvasResourceURLs number canvasID order v) =
          rewriteTeamCanvasResourceURLs number canvasID order v ∧
        rewriteTeamCanvasResourceURLs number canvasID order''
            (canonicalizeTeamCanvasResourceURLs number canvasID order'
              (rewriteTeamCanvasResourceURLs number canvasID order v)) =
          rewriteTeamCanvasResourceURLs number canvasID order v) :=
  ⟨fun order ↦ ⟨mapURLs_sameOutside v order, mapURLs_sameOutside v order⟩, canonicalize_order v,
    rewrite_order, canonicalize_rewrite, fun hsteady hone order order' order'' ↦
      ⟨rewrite_rewrite hsteady hone order order',
        rewrite_canonicalize_rewrite hsteady hone order order' order''⟩⟩

end RoundTrip

/-! ## Payloads that go wrong -/

/-- The keys as they stand. -/
def inOrder : KeyOrder where
  visit _ keys := keys
  visit_perm _ _ := .refl _

/-- The keys from the last to the first. -/
def backwards : KeyOrder where
  visit _ keys := keys.reverse
  visit_perm _ keys := keys.reverse_perm

/-- The text a member of an object holds. -/
def textAt (key : String) : Json → Option String
  | .obj members => match member members key with
    | .str text => some text
    | _ => none
  | _ => none

/-- An image whose address has two storage keys that name two resources. -/
def twoKeys : Json :=
  .obj [("storageKey", .str "resource:a"), ("dataStorageKey", .str "resource:b"),
    ("dataUrl", .str "/api/resources/a/file")]

/-- A node whose storage key holds an object, which the text it is printed as makes a name. -/
def nestedKey : Json :=
  .obj [("storageKey", .obj [("storageKey", .str "resource:a"),
      ("url", .str "/api/resources/a/file"), ("x", .str "/api/resources/b/file")]),
    ("url", .str "/api/resources/a/file")]

set_option maxRecDepth 8000 in
theorem nestedKey_canonical : Everywhere (HasCanonicalURLs id) nestedKey := by
  refine .obj (hasCanonicalURLs_sound (by decide)) ?_
  rw [List.forall_mem_cons, List.forall_mem_singleton]
  refine ⟨.obj (hasCanonicalURLs_sound (by decide)) ?_, .scalar rfl⟩
  rw [List.forall_mem_cons, List.forall_mem_cons, List.forall_mem_singleton]
  exact ⟨.scalar rfl, .scalar rfl, .scalar rfl⟩

set_option maxRecDepth 8000 in
/-- The order of the keys decides about `twoKeys`, and sending it twice changes it again.
`nestedKey` does not come back, nor is sending it idempotent. -/
theorem teamCanvasResourceURLs_not_reversible :
    rewriteTeamCanvasResourceURLs id "c" inOrder twoKeys ≠
        rewriteTeamCanvasResourceURLs id "c" backwards twoKeys ∧
      rewriteTeamCanvasResourceURLs id "c" backwards
          (rewriteTeamCanvasResourceURLs id "c" inOrder twoKeys) ≠
        rewriteTeamCanvasResourceURLs id "c" inOrder twoKeys ∧
      Everywhere (HasCanonicalURLs id) nestedKey ∧
      canonicalizeTeamCanvasResourceURLs id "c" inOrder
          (rewriteTeamCanvasResourceURLs id "c" inOrder nestedKey) ≠ nestedKey ∧
      rewriteTeamCanvasResourceURLs id "c" inOrder
          (rewriteTeamCanvasResourceURLs id "c" inOrder nestedKey) ≠
        rewriteTeamCanvasResourceURLs id "c" inOrder nestedKey :=
  ⟨fun h ↦ absurd (congrArg (textAt "dataUrl") h) (by decide),
    fun h ↦ absurd (congrArg (textAt "dataUrl") h) (by decide), nestedKey_canonical,
    fun h ↦ absurd (congrArg (textAt "url") h) (by decide),
    fun h ↦ absurd (congrArg (textAt "url") h) (by decide)⟩

/-- A canvas node as the application writes it. -/
def plainNode : Json :=
  .obj [("title", .str "x"), ("storageKey", .str "resource:a"),
    ("url", .str "/api/resources/a/file")]

theorem plainNode_canonical : Everywhere (HasCanonicalURLs id) plainNode := by
  refine .obj (hasCanonicalURLs_sound (by decide)) ?_
  rw [List.forall_mem_cons, List.forall_mem_cons, List.forall_mem_singleton]
  exact ⟨.scalar rfl, .scalar rfl, .scalar rfl⟩

theorem plainNode_steady : Everywhere (Steady id "c") plainNode := by
  refine .obj (steady_of_scalars ?_) ?_
  · rw [List.forall_mem_cons, List.forall_mem_cons, List.forall_mem_singleton]
    exact ⟨fun _ ↦ rfl, fun _ ↦ rfl, fun _ ↦ rfl⟩
  · rw [List.forall_mem_cons, List.forall_mem_cons, List.forall_mem_singleton]
    exact ⟨.scalar rfl, .scalar rfl, .scalar rfl⟩

/-- A plain node is sent with another address, and comes back as it was. -/
theorem plainNode_roundTrip :
    textAt "url" (rewriteTeamCanvasResourceURLs id "c" backwards plainNode) =
        some "/api/canvas-projects/c/resources/a/file" ∧
      canonicalizeTeamCanvasResourceURLs id "c" inOrder
          (rewriteTeamCanvasResourceURLs id "c" backwards plainNode) = plainNode ∧
      rewriteTeamCanvasResourceURLs id "c" inOrder
          (rewriteTeamCanvasResourceURLs id "c" backwards plainNode) =
        rewriteTeamCanvasResourceURLs id "c" backwards plainNode :=
  ⟨by decide,
    (teamCanvasResourceURLs_roundTrip plainNode).2.2.2.1 plainNode_steady plainNode_canonical
      backwards inOrder,
    ((teamCanvasResourceURLs_roundTrip plainNode).2.2.2.2 plainNode_steady
      (plainNode_canonical.mono fun _ ↦ HasCanonicalURLs.unambiguous) backwards inOrder inOrder).1⟩

end TeamURLs

end HMaigc
