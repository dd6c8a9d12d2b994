import HMaigc.Agent.ArtifactRevisions

/-!
# The history of an artifact

Whatever calls are made in a scope, one after another:

* `Promised` — what is promised of every state: numbers, heads, what becomes stale, when the next
  draft is accepted, and that a first revision is replayed.
* `promises_of_reach` — **the next draft is accepted exactly when its identifier is free, and a
  first revision is replayed exactly while it awaits its review**; the rest is kept.
* `not_promised_late` — a late revision takes the number of the next head.
-/

set_option autoImplicit false

namespace HMaigc.Artifacts

open Sql Go AgentRuntime Relation

/-! ## What is promised -/

/-- A draft that is appended over a head makes it stale, and what depends on it, directly or not;
nothing else is changed. -/
def StalesClosure (context : ArtifactContext) (s : ArtifactStore) : Prop :=
  ∀ artifactID head draft specialistID revision s', 0 < head →
    s.appendArtifactRevisionTx context artifactID head draft specialistID = .ok (revision, s') →
      ∃ previous ∈ s.revisions, previous.artifactID = artifactID ∧ previous.revision = head ∧
        ∃ stale, s'.revisions = (s.revisions ++ [revision]).map (Revision.staleIf stale) ∧
          ∀ reference, reference ∈ stale ↔ reference = previous.ref ∨
            TransGen (Feeds (s.revisions ++ [revision])) previous.ref reference

/-- A draft has the identity of the artifact, and upstream references that are in order. -/
structure FitsArtifact (context : ArtifactContext) (s : ArtifactStore) (artifact : Artifact)
    (draft : ArtifactDraft) (specialistID : String) : Prop where
  stored : s.artifact? artifact.id = some artifact
  active : artifact.lifecycle = .active
  specialist : isTrimmed specialistID 80 = true
  valid : validateArtifactDraft context draft = .ok ()
  key : artifact.artifactKey = draft.artifactKey
  kind : artifact.kind = draft.kind
  upstream : s.refsInScope draft.upstreamRevisions = true
  current : draft.requiresCurrentUpstreamHeads = true →
    s.refsCurrent draft.upstreamRevisions = true

/-- The draft is accepted over the head of the artifact. -/
def Accepts (context : ArtifactContext) (s : ArtifactStore) (artifact : Artifact)
    (draft : ArtifactDraft) (specialistID : String) : Prop :=
  ∃ result, s.appendArtifactRevisionTx context artifact.id artifact.headRevision draft
    specialistID = .ok result

/-- A stored first revision, and a draft with its facts. -/
structure IsFirst (context : ArtifactContext) (s : ArtifactStore) (draft : ArtifactDraft)
    (first : Revision) : Prop where
  access : context.isMutable = true
  stored : first ∈ s.revisions
  number : first.revision = 1
  facts : first.hasFacts draft = true

/-- The first revision is returned, and nothing is written. -/
def ReplaysFirst (context : ArtifactContext) (s : ArtifactStore) (draft : ArtifactDraft)
    (first : Revision) : Prop :=
  s.appendArtifactRevisionOnce context first.artifactID draft = .ok (first, s)

/-- What is promised, whatever was stored meanwhile. -/
structure Promised (context : ArtifactContext) (s : ArtifactStore) : Prop where
  numbered : s.Numbered
  headed : s.Headed
  stales : StalesClosure context s
  accepts : ∀ artifact draft specialistID, FitsArtifact context s artifact draft specialistID →
    Accepts context s artifact draft specialistID
  replays : ∀ draft first, IsFirst context s draft first → ReplaysFirst context s draft first

/-- What is kept: the next draft is accepted exactly when the identifier of its revision is free,
and a first revision is replayed exactly while it awaits its review. -/
structure Promises (context : ArtifactContext) (s : ArtifactStore) : Prop where
  numbered : s.Numbered
  headed : s.Headed
  stales : StalesClosure context s
  accepts_iff : ∀ artifact draft specialistID, FitsArtifact context s artifact draft specialistID →
    (Accepts context s artifact draft specialistID ↔
      context.revisionID artifact.id (artifact.headRevision + 1) ∉ s.revisions.map (·.id))
  replays_iff : ∀ draft first, IsFirst context s draft first →
    (ReplaysFirst context s draft first ↔ first.lifecycle = .awaitingReview)

/-! ## Storing a revision -/

theorem mem_of_refsInScope {s : ArtifactStore} {references : List ArtifactRevisionRef}
    (hscope : s.refsInScope references = true) :
    ∀ reference ∈ references, reference ∈ s.revisions.map Revision.ref := by
  intro reference hreference
  rw [ArtifactStore.refsInScope, Bool.or_eq_true, decide_eq_true_eq, Bool.and_eq_true,
    List.all_eq_true] at hscope
  rcases hscope with rfl | ⟨-, hall⟩
  · cases hreference
  · have hany := hall reference hreference
    cases hfound : s.revisions.find? (·.id = reference.revisionID) with
    | none => rw [hfound] at hany; cases hany
    | some revision =>
      rw [hfound, Option.any_some, decide_eq_true_eq] at hany
      have hid : revision.id = reference.revisionID := by simpa using List.find?_some hfound
      refine List.mem_map.mpr ⟨revision, List.mem_of_find?_eq_some hfound, ?_⟩
      rw [Revision.ref, hany, hid]

/-- One more revision is stored, with its identifier. -/
structure Stored (context : ArtifactContext) (s s' : ArtifactStore) (revision : Revision) :
    Prop where
  id : revision.id = context.revisionID revision.artifactID revision.revision
  keyed : isArtifactID revision.artifactID = true
  valid : validateArtifactRevisionRefs revision.upstreamRevisions = .ok ()
  upstream : s.refsInScope revision.upstreamRevisions = true
  fresh : revision.id ∉ s.revisions.map (·.id)
  revisions : s'.revisions = s.revisions ++ [revision]
  artifacts : ∀ row ∈ s'.artifacts, row.id ∈ s.artifacts.map (·.id) ∨ row.id = revision.artifactID
  bindings : s'.bindings = s.bindings
  production : s'.production = s.production

/-- It is the new head. -/
structure Adopted (context : ArtifactContext) (s s' : ArtifactStore) (artifactID : String)
    (head : ℤ) (revision : Revision) : Prop where
  stored : Stored context s s' revision
  artifact : revision.artifactID = artifactID
  number : revision.revision = head + 1
  replaced : s.head artifactID = head
  heads : ∀ other, s'.head other = if other = artifactID then head + 1 else s.head other
  adopted : s'.adopted = (artifactID, head + 1) :: s.adopted

/-- It is stored beside the head. -/
structure Unadopted (context : ArtifactContext) (s s' : ArtifactStore) (artifactID : String)
    (revision : Revision) : Prop where
  stored : Stored context s s' revision
  artifact : revision.artifactID = artifactID
  number : revision.revision = s.maximumRevision artifactID + 1
  heads : ∀ other, s'.head other = s.head other
  adopted : s'.adopted = s.adopted

section Calls

open ArtifactStore

variable {context : ArtifactContext} {s s' : ArtifactStore} {artifactID specialistID : String}
  {head : ℤ} {draft : ArtifactDraft} {revision : Revision}

theorem createRevision_eq_ok (hcreate : s.createRevision revision = .ok s') :
    revision.id ∉ s.revisions.map (·.id) ∧
      s' = { s with revisions := s.revisions ++ [revision] } := by
  obtain ⟨hnone, hcreate⟩ := refuse_eq_ok.mp hcreate
  cases hcreate
  refine ⟨fun hid ↦ hnone ?_, rfl⟩
  obtain ⟨stored, hstored, hid⟩ := List.mem_map.mp hid
  exact List.any_eq_true.mpr ⟨stored, hstored, by simp [hid]⟩

theorem refs_of_validateArtifactDraft (hvalid : validateArtifactDraft context draft = .ok ()) :
    validateArtifactRevisionRefs draft.upstreamRevisions = .ok () := by
  rw [validateArtifactDraft, refuse_eq_ok, refuse_eq_ok, refuse_eq_ok, refuse_eq_ok] at hvalid
  simpa [isOk_iff] using hvalid.2.2.2.1

theorem adopted_of_createRevision {s₀ s₁ : ArtifactStore} {artifact : Artifact}
    (hkeyed : isArtifactID artifactID = true)
    (hvalid : validateArtifactDraft context draft = .ok ())
    (hscope : s.refsInScope draft.upstreamRevisions = true)
    (hopened : ArtifactStore.Opened s s₀ artifactID artifact) (hhead : artifact.headRevision = head)
    (hcreate : (s₀.moveHead artifact).createRevision
      (draft.revision context artifactID (head + 1) specialistID .awaitingReview) = .ok s₁) :
    Adopted context s (s₁.adopt artifactID (head + 1)) artifactID head
      (draft.revision context artifactID (head + 1) specialistID .awaitingReview) := by
  obtain ⟨hfresh, rfl⟩ := createRevision_eq_ok hcreate
  have hid : artifact.id = artifactID := artifact?_id hopened.found
  refine ⟨⟨rfl, hkeyed, refs_of_validateArtifactDraft hvalid, hscope, ?_, ?_, fun row hrow ↦ ?_,
    ?_, ?_⟩, rfl, rfl, ?_, fun other ↦ ?_, ?_⟩
  · rwa [← hopened.revisions]
  · rw [← hopened.revisions]
    rfl
  · obtain ⟨stored, hstored, hrow⟩ := ids_moveHead hrow
    rw [hrow]
    rcases hopened.ids stored hstored with hold | hnew
    · exact .inl (List.mem_map_of_mem hold)
    · exact .inr hnew
  · exact hopened.bindings
  · exact hopened.production
  · rw [← hopened.heads, head_eq hopened.found, hhead]
  · have hmoved := head_moveHead (hid.symm ▸ hopened.found) other
    rw [hid, hhead, hopened.heads] at hmoved
    exact hmoved
  · rw [← hopened.adopted]
    rfl

theorem appendArtifactRevisionTx_eq_ok
    (happend : s.appendArtifactRevisionTx context artifactID head draft specialistID =
      .ok (revision, s')) :
    ∃ s₁, Adopted context s s₁ artifactID head revision ∧
      s₁.replaceHead context artifactID head = .ok s' := by
  obtain ⟨hinput, happend⟩ := refuse_eq_ok.mp happend
  obtain ⟨_, hvalid, happend⟩ := bind_eq_ok.mp happend
  obtain ⟨hscope, happend⟩ := refuse_eq_ok.mp happend
  obtain ⟨-, happend⟩ := refuse_eq_ok.mp happend
  obtain ⟨⟨artifact, s₀⟩, hopen, happend⟩ := bind_eq_ok.mp happend
  obtain ⟨hfits, happend⟩ := refuse_eq_ok.mp happend
  obtain ⟨s₁, hcreate, happend⟩ := bind_eq_ok.mp happend
  obtain ⟨s₂, hreplace, happend⟩ := bind_eq_ok.mp happend
  cases happend
  simp only [not_or, not_not, not_lt, Bool.not_eq_true', Bool.not_eq_false] at hinput hfits hscope
  obtain ⟨hkeyed, -, -⟩ := hinput
  obtain ⟨-, -, -, hhead⟩ := hfits
  exact ⟨_, adopted_of_createRevision hkeyed hvalid hscope (openArtifact_eq_ok hopen) hhead hcreate,
    hreplace⟩

theorem appendUnadoptedArtifactRevisionTx_eq_ok {now : Option Time}
    (happend : s.appendUnadoptedArtifactRevisionTx context artifactID draft specialistID now =
      .ok (revision, s')) :
    Unadopted context s s' artifactID revision := by
  obtain ⟨hinput, happend⟩ := refuse_eq_ok.mp happend
  obtain ⟨_, hvalid, happend⟩ := bind_eq_ok.mp happend
  obtain ⟨hscope, happend⟩ := refuse_eq_ok.mp happend
  obtain ⟨⟨artifact, s₀⟩, hopen, happend⟩ := bind_eq_ok.mp happend
  obtain ⟨-, happend⟩ := refuse_eq_ok.mp happend
  obtain ⟨s₁, hcreate, happend⟩ := bind_eq_ok.mp happend
  cases happend
  have hopened := openArtifact_eq_ok hopen
  simp only [not_or, Bool.not_eq_true', Bool.not_eq_false] at hinput hscope
  obtain ⟨hkeyed, -, -⟩ := hinput
  obtain ⟨hfresh, rfl⟩ := createRevision_eq_ok hcreate
  refine ⟨⟨rfl, hkeyed, refs_of_validateArtifactDraft hvalid, hscope, ?_, ?_, fun row hrow ↦ ?_,
    ?_, ?_⟩, rfl, ?_, hopened.heads, ?_⟩
  · rwa [← hopened.revisions]
  · rw [← hopened.revisions]
  · rcases hopened.ids row hrow with hold | hnew
    · exact .inl (List.mem_map_of_mem hold)
    · exact .inr hnew
  · exact hopened.bindings
  · exact hopened.production
  · change s₀.maximumRevision artifactID + 1 = s.maximumRevision artifactID + 1
    rw [maximumRevision, maximumRevision, hopened.revisions]
  · exact hopened.adopted

end Calls

/-! ## Any number of calls -/

/-- What holds of every state that is reached. -/
structure Sound (context : ArtifactContext) (s : ArtifactStore) : Prop where
  rows : Rows context s
  numbered : s.Numbered
  headed : s.Headed

section Runs

open ArtifactStore

variable {context : ArtifactContext} {s s' : ArtifactStore} {artifactID : String} {head : ℤ}
  {revision : Revision}

theorem Rows.stored (h : Rows context s) (hstored : Stored context s s' revision) :
    Rows context s' where
  ids other hother := by
    rw [hstored.revisions, List.mem_append, List.mem_singleton] at hother
    rcases hother with hother | rfl
    exacts [h.ids other hother, hstored.id]
  nodup := by
    rw [hstored.revisions, List.map_append, List.nodup_append]
    refine ⟨h.nodup, List.nodup_singleton _, fun id hid other hother hsame ↦ ?_⟩
    rw [List.map_singleton, List.mem_singleton] at hother
    exact hstored.fresh (hother ▸ hsame ▸ hid)
  keyed other hother := by
    rw [hstored.revisions, List.mem_append, List.mem_singleton] at hother
    rcases hother with hother | rfl
    exacts [h.keyed other hother, hstored.keyed]
  upstream other hother := by
    rw [hstored.revisions, List.mem_append, List.mem_singleton] at hother
    rcases hother with hother | rfl
    exacts [h.upstream other hother, hstored.valid]
  ordered before other hprefix := by
    rw [hstored.revisions, List.prefix_concat_iff] at hprefix
    rcases hprefix with hlast | hprefix
    · obtain ⟨rfl, hother⟩ := List.append_inj' hlast rfl
      cases hother
      exact mem_of_refsInScope hstored.upstream
    · exact h.ordered before other hprefix
  artifacts row hrow := by
    rcases hstored.artifacts row hrow with hold | hnew
    · obtain ⟨stored, hstored, hid⟩ := List.mem_map.mp hold
      exact hid ▸ h.artifacts stored hstored
    · exact hnew ▸ hstored.keyed
  bindings := hstored.bindings.trans h.bindings
  production := hstored.production ▸ h.production

theorem Rows.staled (h : Rows context s) (stale : List ArtifactRevisionRef) :
    Rows context (s.staled stale) where
  ids other hother := by
    obtain ⟨stored, hstored, rfl⟩ := List.mem_map.mp hother
    simpa using h.ids stored hstored
  nodup := by
    have hids : (s.staled stale).revisions.map (·.id) = s.revisions.map (·.id) := by
      simp [ArtifactStore.staled, Function.comp_def]
    rw [hids]
    exact h.nodup
  keyed other hother := by
    obtain ⟨stored, hstored, rfl⟩ := List.mem_map.mp hother
    simpa using h.keyed stored hstored
  upstream other hother := by
    obtain ⟨stored, hstored, rfl⟩ := List.mem_map.mp hother
    simpa using h.upstream stored hstored
  ordered before other hprefix := by
    obtain ⟨after, hafter⟩ := hprefix
    obtain ⟨first, last, hsplit, hfirst, -⟩ := List.map_eq_append_iff.mp hafter.symm
    obtain ⟨before', rest, rfl, rfl, hrest⟩ := List.map_eq_append_iff.mp hfirst
    obtain ⟨stored, rfl, rfl⟩ := List.map_eq_singleton_iff.mp hrest
    have hearlier := h.ordered before' stored ⟨last, hsplit.symm⟩
    simpa [Function.comp_def] using hearlier
  artifacts := h.artifacts
  bindings := h.bindings
  production := h.production

/-- **Replacing a head succeeds**, and makes it stale with what depends on it. -/
theorem Rows.replaceHead (h : Rows context s) (hhead : 0 < head → head ∈ s.numbers artifactID) :
    ∃ stale, s.replaceHead context artifactID head = .ok (s.staled stale) ∧
      (0 < head → ∃ previous ∈ s.revisions, previous.artifactID = artifactID ∧
        previous.revision = head ∧ ∀ reference, reference ∈ stale ↔
          reference = previous.ref ∨ TransGen (Feeds s.revisions) previous.ref reference) := by
  rw [ArtifactStore.replaceHead]
  by_cases hpos : 0 < head
  · rw [if_pos hpos]
    obtain ⟨stored, hstored, hnumber⟩ := mem_numbers.mp (hhead hpos)
    split
    · rename_i hnone
      have hnot := List.find?_eq_none.mp hnone stored hstored
      simp [hnumber] at hnot
    · rename_i previous hfound
      have hprevious := List.mem_of_find?_eq_some hfound
      have hmatch := List.find?_some hfound
      rw [Bool.and_eq_true, decide_eq_true_eq, decide_eq_true_eq] at hmatch
      obtain ⟨stale, hmark, hstale⟩ := h.markClosureStale hprevious
      exact ⟨stale, hmark, fun _ ↦ ⟨previous, hprevious, hmatch.1, hmatch.2, hstale⟩⟩
  · rw [if_neg hpos]
    exact ⟨[], by rw [staled_nil], fun h ↦ absurd h hpos⟩

/-- A head that is not 0 is stored. -/
theorem Sound.head_mem (h : Sound context s) (hpos : 0 < s.head artifactID) :
    s.head artifactID ∈ s.numbers artifactID := by
  rw [h.headed.head, lastAdopted] at hpos ⊢
  cases hfound : s.adopted.find? (·.1 = artifactID) with
  | none => simp [hfound] at hpos
  | some entry =>
    have hentry : entry.1 = artifactID := by simpa using List.find?_some hfound
    exact hentry ▸ h.headed.stored entry (List.mem_of_find?_eq_some hfound)

theorem Sound.head_nonneg (h : Sound context s) (artifactID : String) : 0 ≤ s.head artifactID := by
  rw [h.headed.head, lastAdopted]
  cases hfound : s.adopted.find? (·.1 = artifactID) with
  | none => exact le_rfl
  | some entry =>
    have hmem := h.numbered.mem_iff.mp (h.headed.stored entry (List.mem_of_find?_eq_some hfound))
    exact (zero_le_one.trans hmem.1)

theorem Sound.staled (h : Sound context s) (stale : List ArtifactRevisionRef) :
    Sound context (s.staled stale) where
  rows := h.rows.staled stale
  numbered artifactID := by
    rw [numbers_staled]
    exact h.numbered artifactID
  headed := ⟨h.headed.head, fun entry hentry ↦ by
    rw [numbers_staled]
    exact h.headed.stored entry hentry⟩

theorem Stored.mem_numbers (hstored : Stored context s s' revision) {number : ℤ}
    (hnumber : number ∈ s.numbers artifactID) : number ∈ s'.numbers artifactID := by
  rw [numbers, hstored.revisions, List.filter_append, List.map_append]
  exact List.mem_append_left _ hnumber

/-- The number of a revision is new, because its identifier is. -/
theorem Stored.not_mem_numbers (hstored : Stored context s s' revision) (h : Rows context s) :
    revision.revision ∉ s.numbers revision.artifactID := by
  intro hmem
  obtain ⟨other, hother, hartifact, hnumber⟩ := ArtifactStore.mem_numbers.mp hmem
  refine hstored.fresh (List.mem_map.mpr ⟨other, hother, ?_⟩)
  rw [h.ids other hother, hstored.id, hartifact, hnumber]

theorem Sound.adopted (h : Sound context s) (hadopted : Adopted context s s' artifactID head
    revision) : Sound context s' where
  rows := h.rows.stored hadopted.stored
  numbered := by
    refine h.numbered.append hadopted.stored.revisions ?_
    -- The head is the last number: the next one is free, and there is no gap.
    have hnew := hadopted.stored.not_mem_numbers h.rows
    have hhead := hadopted.replaced ▸ h.head_nonneg artifactID
    rw [h.numbered.mem_iff, hadopted.number, hadopted.artifact] at hnew
    rw [hadopted.number, hadopted.artifact]
    rcases hhead.eq_or_lt with hzero | hpos
    · omega
    · have hlast := (h.numbered.mem_iff.mp (h.head_mem (hadopted.replaced ▸ hpos))).2
      rw [hadopted.replaced] at hlast
      omega
  headed := by
    refine ⟨fun other ↦ ?_, fun entry hentry ↦ ?_⟩
    · rw [hadopted.heads, lastAdopted, hadopted.adopted]
      by_cases hother : other = artifactID
      · simp [hother]
      · rw [if_neg hother, h.headed.head, lastAdopted, List.find?_cons_of_neg]
        simpa using Ne.symm hother
    · rw [hadopted.adopted] at hentry
      rcases List.mem_cons.mp hentry with rfl | hentry
      · refine ArtifactStore.mem_numbers.mpr ⟨revision, ?_, hadopted.artifact, hadopted.number⟩
        rw [hadopted.stored.revisions]
        exact List.mem_append_right _ (List.mem_singleton_self _)
      · exact hadopted.stored.mem_numbers (h.headed.stored entry hentry)

theorem Sound.unadopted (h : Sound context s)
    (hunadopted : Unadopted context s s' artifactID revision) : Sound context s' where
  rows := h.rows.stored hunadopted.stored
  numbered := by
    refine h.numbered.append hunadopted.stored.revisions ?_
    rw [hunadopted.number, h.numbered.maximumRevision, hunadopted.artifact]
  headed := by
    refine ⟨fun other ↦ ?_, fun entry hentry ↦ ?_⟩
    · rw [hunadopted.heads, h.headed.head, lastAdopted, lastAdopted, hunadopted.adopted]
    · rw [hunadopted.adopted] at hentry
      exact hunadopted.stored.mem_numbers (h.headed.stored entry hentry)

theorem Adopted.replaceHead (hadopted : Adopted context s s' artifactID head revision)
    (h : Sound context s) :
    ∃ stale, s'.replaceHead context artifactID head = .ok (s'.staled stale) ∧
      (0 < head → ∃ previous ∈ s'.revisions, previous.artifactID = artifactID ∧
        previous.revision = head ∧ ∀ reference, reference ∈ stale ↔
          reference = previous.ref ∨ TransGen (Feeds s'.revisions) previous.ref reference) :=
  (h.adopted hadopted).rows.replaceHead fun hpos ↦
    hadopted.stored.mem_numbers (hadopted.replaced ▸ h.head_mem (hadopted.replaced ▸ hpos))

variable {specialistID : String} {draft : ArtifactDraft} {artifact : Artifact}

theorem Sound.append (h : Sound context s)
    (happend : s.appendArtifactRevisionTx context artifactID head draft specialistID =
      .ok (revision, s')) : Sound context s' := by
  obtain ⟨s₁, hadopted, hreplace⟩ := appendArtifactRevisionTx_eq_ok happend
  obtain ⟨stale, hstaled, -⟩ := hadopted.replaceHead h
  rw [hstaled] at hreplace
  cases hreplace
  exact (h.adopted hadopted).staled stale

theorem Sound.appendUnadopted (h : Sound context s) {now : Option Time}
    (happend : s.appendUnadoptedArtifactRevisionTx context artifactID draft specialistID now =
      .ok (revision, s')) : Sound context s' :=
  h.unadopted (appendUnadoptedArtifactRevisionTx_eq_ok happend)

/-- **What a new head makes stale.** -/
theorem Sound.stales (h : Sound context s) : StalesClosure context s := by
  intro artifactID head draft specialistID revision s' hpos happend
  obtain ⟨s₁, hadopted, hreplace⟩ := appendArtifactRevisionTx_eq_ok happend
  obtain ⟨stale, hstaled, hclosure⟩ := hadopted.replaceHead h
  rw [hstaled] at hreplace
  cases hreplace
  obtain ⟨previous, hprevious, hartifact, hnumber, hmem⟩ := hclosure hpos
  rw [hadopted.stored.revisions, List.mem_append, List.mem_singleton] at hprevious
  rcases hprevious with hprevious | rfl
  · refine ⟨previous, hprevious, hartifact, hnumber, stale, ?_, ?_⟩
    · rw [ArtifactStore.staled, hadopted.stored.revisions]
    · rwa [← hadopted.stored.revisions]
  · have hnext := hadopted.number
    omega

/-! ## The next draft -/

theorem Rows.createRevision (h : Rows context s) (hid : revision.id =
      context.revisionID revision.artifactID revision.revision)
    (hfresh : revision.id ∉ s.revisions.map (·.id)) :
    s.createRevision revision = .ok { s with revisions := s.revisions ++ [revision] } := by
  refine refuse_eq_ok.mpr ⟨fun hany ↦ hfresh ?_, rfl⟩
  obtain ⟨stored, hstored, hsame⟩ := List.any_eq_true.mp hany
  simp only [Bool.or_eq_true, Bool.and_eq_true, decide_eq_true_eq] at hsame
  refine List.mem_map.mpr ⟨stored, hstored, ?_⟩
  rcases hsame with hsame | ⟨hartifact, hnumber⟩
  · exact hsame
  · rw [h.ids stored hstored, hid, hartifact, hnumber]

theorem Sound.accepts_iff (h : Sound context s)
    (hfits : FitsArtifact context s artifact draft specialistID) :
    Accepts context s artifact draft specialistID ↔
      context.revisionID artifact.id (artifact.headRevision + 1) ∉ s.revisions.map (·.id) := by
  constructor
  · rintro ⟨⟨revision, s'⟩, happend⟩
    obtain ⟨s₁, hadopted, -⟩ := appendArtifactRevisionTx_eq_ok happend
    have hfresh := hadopted.stored.fresh
    rwa [hadopted.stored.id, hadopted.artifact, hadopted.number] at hfresh
  · intro hfresh
    have hopen : s.openArtifact artifact.id draft .active = .ok (artifact, s) := by
      rw [openArtifact, hfits.stored]
    have hkeyed := h.rows.artifacts artifact (List.mem_of_find?_eq_some hfits.stored)
    have hhead : 0 ≤ artifact.headRevision := by
      rw [← head_eq hfits.stored]
      exact h.head_nonneg _
    have hmoved : Rows context (s.moveHead artifact) :=
      { h.rows with
        artifacts := fun row hrow ↦ by
          obtain ⟨stored, hstored, hid⟩ := ids_moveHead hrow
          exact hid ▸ h.rows.artifacts stored hstored }
    let next := draft.revision context artifact.id (artifact.headRevision + 1) specialistID
      .awaitingReview
    have hid : next.id = context.revisionID next.artifactID next.revision := rfl
    have hcreate := hmoved.createRevision hid hfresh
    have hadopted := adopted_of_createRevision hkeyed hfits.valid hfits.upstream
      (openArtifact_eq_ok hopen) rfl hcreate
    obtain ⟨stale, hreplace, -⟩ := hadopted.replaceHead h
    refine ⟨_, refuse_eq_ok.mpr ⟨?_, bind_eq_ok.mpr ⟨(), hfits.valid, refuse_eq_ok.mpr ⟨?_,
      refuse_eq_ok.mpr ⟨?_, bind_eq_ok.mpr ⟨_, hopen, refuse_eq_ok.mpr ⟨?_,
        bind_eq_ok.mpr ⟨_, hcreate, bind_eq_ok.mpr ⟨_, hreplace, rfl⟩⟩⟩⟩⟩⟩⟩⟩⟩
    · simp [hkeyed, hfits.specialist, hhead]
    · simp [hfits.upstream]
    · rintro ⟨hrequires, hnot⟩
      rw [hfits.current hrequires] at hnot
      cases hnot
    · simp [hfits.key, hfits.kind, hfits.active]

/-! ## The first revision -/

variable {first : Revision}

theorem Rows.loadFirst (h : Rows context s) (hfirst : IsFirst context s draft first) :
    s.loadExactArtifactRevisionOnce first.artifactID draft =
      if first.lifecycle = .awaitingReview then .ok first
      else .error errArtifactRevisionConflict := by
  have hfound : (s.revisions.find? fun stored ↦
      stored.artifactID = first.artifactID && stored.revision = 1) = some first := by
    cases hfound : s.revisions.find? fun stored ↦
        stored.artifactID = first.artifactID && stored.revision = 1 with
    | none =>
      have hnot := List.find?_eq_none.mp hfound first hfirst.stored
      simp [hfirst.number] at hnot
    | some other =>
      have hmatch := List.find?_some hfound
      rw [Bool.and_eq_true, decide_eq_true_eq, decide_eq_true_eq] at hmatch
      have hother := List.mem_of_find?_eq_some hfound
      have hid : other.id = first.id := by
        rw [h.ids other hother, h.ids first hfirst.stored, hmatch.1, hmatch.2, hfirst.number]
      rw [h.eq_of_id hother hfirst.stored hid]
  rw [loadExactArtifactRevisionOnce, hfound]
  by_cases hawaiting : first.lifecycle = .awaitingReview
  · simp [hfirst.facts, hawaiting]
  · simp [hawaiting]

theorem Rows.replays_iff (h : Rows context s) (hfirst : IsFirst context s draft first) :
    ReplaysFirst context s draft first ↔ first.lifecycle = .awaitingReview := by
  rw [ReplaysFirst, appendArtifactRevisionOnce, hfirst.access, h.loadFirst hfirst]
  by_cases hawaiting : first.lifecycle = .awaitingReview
  · rw [if_pos hawaiting]
    exact iff_of_true rfl hawaiting
  · rw [if_neg hawaiting]
    exact iff_of_false nofun hawaiting

/-! ## Runs -/

theorem Sound.tasks (h : Sound context s) (tasks : String → Option Task) :
    Sound context { s with tasks := tasks } where
  rows := { h.rows with }
  numbered := h.numbered
  headed := ⟨h.headed.head, h.headed.stored⟩

theorem Sound.run (h : Sound context s) {call : Call}
    (hrun : call.run context s = .ok (revision, s')) : Sound context s' := by
  cases call with
  | append => exact h.append hrun
  | appendUnadopted => exact h.appendUnadopted hrun
  | appendOnce artifactID draft =>
    obtain ⟨-, hrun⟩ := refuse_eq_ok.mp hrun
    split at hrun
    · cases hrun
      exact h
    · split at hrun
      · rename_i happend
        cases hrun
        exact h.append happend
      · obtain ⟨-, hrun⟩ := refuse_eq_ok.mp hrun
        obtain ⟨_, -, hrun⟩ := bind_eq_ok.mp hrun
        cases hrun
        exact h
    · cases hrun
  | finalize input =>
    obtain ⟨-, hrun⟩ := refuse_eq_ok.mp hrun
    obtain ⟨-, hrun⟩ := refuse_eq_ok.mp hrun
    split at hrun
    · cases hrun
    · obtain ⟨-, hrun⟩ := refuse_eq_ok.mp hrun
      obtain ⟨-, hrun⟩ := refuse_eq_ok.mp hrun
      obtain ⟨planCurrent, -, hrun⟩ := bind_eq_ok.mp hrun
      dsimp only at hrun
      split at hrun
      · obtain ⟨⟨_, s₁⟩, happend, hrun⟩ := bind_eq_ok.mp hrun
        cases hrun
        exact (h.appendUnadopted happend).tasks _
      · obtain ⟨⟨_, s₁⟩, happend, hrun⟩ := bind_eq_ok.mp hrun
        cases hrun
        exact (h.append happend).tasks _

theorem sound_of_reach (hreach : Reach context s) : Sound context s := by
  induction hreach with
  | @new s hnew =>
    obtain ⟨hartifacts, hrevisions, -, hbindings, hproduction, hadopted⟩ := hnew
    have hnumbers (artifactID : String) : s.numbers artifactID = [] := by
      rw [numbers, hrevisions]
      rfl
    refine ⟨⟨?_, ?_, ?_, ?_, fun before other hprefix ↦ ?_, ?_, hbindings, hproduction⟩,
      fun artifactID ↦ ?_, fun artifactID ↦ ?_, ?_⟩
    · simp [hrevisions]
    · simp [hrevisions]
    · simp [hrevisions]
    · simp [hrevisions]
    · rw [hrevisions] at hprefix
      simp at hprefix
    · simp [hartifacts]
    · simp [hnumbers]
    · rw [ArtifactStore.head, artifact?, hartifacts, lastAdopted, hadopted]
      rfl
    · simp [hadopted]
  | call _ call revision hrun ih => exact ih.run hrun
  | tasks _ tasks ih => exact ih.tasks tasks

/-- **What is kept in every run.** -/
theorem promises_of_reach (hreach : Reach context s) : Promises context s :=
  have h := sound_of_reach hreach
  { numbered := h.numbered
    headed := h.headed
    stales := h.stales
    accepts_iff := fun _ _ _ ↦ h.accepts_iff
    replays_iff := fun _ _ ↦ h.rows.replays_iff }

end Runs

/-! ## A script with a late revision -/

namespace ArtifactExample

/-- The identifiers of the revisions of `script`. -/
def factID (parts : List String) : String :=
  if parts.getLast? = some "1" then
    "fd56aaa36570734faf835260b3451de755b16e1f09f916585272eb78ddb47a94"
  else if parts.getLast? = some "2" then
    "20a22fb3dfa8238dd9cef9768fc66903d813a74150de698ae7d9b30b977679bf"
  else "e03226cd30dafbc32e8f9d0db878d5ed2a88f10afe3c2c97b16c7ba232942c0e"

theorem validKey_factID (parts : List String) : validKey (factID parts) = true := by
  rw [factID]
  split
  · decide
  · split <;> decide

def context : ArtifactContext where
  scope := ⟨"personal", "u", "t", "r", "u", "d", "c"⟩
  mayMutate := true
  isPayload payload := payload = "{}"
  checkContent _ := .ok ()
  marshalResult _ _ _ := ""
  codec := ⟨fun _ ↦ "", fun _ ↦ none, fun _ ↦ none, factID⟩
  validKey_factID := validKey_factID

def draft : ArtifactDraft where
  artifactKey := "script"
  kind := "note"
  schemaVersion := 1
  payload := "{}"

def new : ArtifactStore := ⟨[], [], [], [], ∅, fun _ ↦ none, []⟩

theorem isNew_new : new.IsNew context := ⟨rfl, rfl, rfl, rfl, rfl, rfl⟩

def firstScript : Revision := draft.revision context "script" 1 "" .awaitingReview

def lateScript : Revision := draft.revision context "script" 2 "" .unadopted

/-- The first revision has been adopted. -/
def adopted : ArtifactStore where
  artifacts := [⟨"script", "script", "note", 1, .active, 2⟩]
  revisions := [firstScript]
  identities := []
  bindings := []
  production := ∅
  tasks _ := none
  adopted := [("script", 1)]

/-- Another has come too late. -/
def lateStored : ArtifactStore := { adopted with revisions := [firstScript, lateScript] }

theorem reach_adopted : Reach context adopted :=
  .call (.new isNew_new) (.append "script" 0 draft "") firstScript rfl

theorem reach_lateStored : Reach context lateStored :=
  .call reach_adopted (.appendUnadopted "script" draft "" (some 1)) lateScript rfl

def script : Artifact := ⟨"script", "script", "note", 1, .active, 2⟩

theorem fits_lateStored : FitsArtifact context lateStored script draft "" :=
  ⟨rfl, rfl, rfl, rfl, rfl, rfl, rfl, nofun⟩

end ArtifactExample

open ArtifactExample in
theorem promises_lateStored : Promises ArtifactExample.context lateStored :=
  promises_of_reach reach_lateStored

open ArtifactExample in
/-- **A late revision takes the number of the next head**, which is then refused. -/
theorem not_promised_late :
    ∃ s, Reach ArtifactExample.context s ∧ ¬Promised ArtifactExample.context s := by
  refine ⟨lateStored, reach_lateStored, fun h ↦ ?_⟩
  obtain ⟨result, happend⟩ := h.accepts _ _ _ fits_lateStored
  have hconflict : lateStored.appendArtifactRevisionTx context "script" 1 draft "" =
      .error errArtifactRevisionConflict := rfl
  exact absurd (hconflict.symm.trans happend) nofun

end HMaigc.Artifacts
