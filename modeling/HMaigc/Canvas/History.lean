import HMaigc.Canvas.Access
import HMaigc.Go.Checks
import HMaigc.Sql.Critical

/-!
# The revisions of a canvas

Any number of writers edit one canvas at once.  Each of them is `commitCanvasChangeTx` within a
transaction of its own (`CanvasWriter`): a user's request makes nothing but the edit, an agent's tool
call first checks the call and then marks it as done.

`commitCanvasChangeTx` locks the canvas first, so the writers take turns (`Sql.Critical`), and what
one of them did is what `commitCanvasChangeTx` does alone (`commitCanvasChangeTx_cases`): answer a
mutation that was accepted before with the edit on record, or go from the base revision to the next.
`canvas_revision_log` says what the edits of any run come to.
-/

set_option autoImplicit false

namespace HMaigc

open Sql Go

/-! ## One edit -/

/-- A patch on the canvas it was made for. -/
def acceptChange (canvas : CanvasProject) (input : CanvasChangeInput) :
    Except RepoError CanvasProject :=
  if canvas.revision ≠ input.baseRevision then .error errCanvasRevisionConflict
  else (input.apply canvas).map fun patched ↦
    canvas.advanced patched.1 patched.2 input.actorUserID

/-- The edit as it is recorded. -/
def CanvasChangeInput.recorded (input : CanvasChangeInput) (canvasID : String) : CanvasChange :=
  { canvasID := canvasID
    revision := input.baseRevision + 1
    actorUserID := input.actorUserID
    clientMutationID := input.clientMutationID
    payloadJSON := input.changePayloadJSON }

section Edit

variable {canvasID : String} {input : CanvasChangeInput} {s s' : Store}
  {commit : CanvasChangeCommit} {canvas canvas' : CanvasProject}

theorem acceptChange_eq_ok (h : acceptChange canvas input = .ok canvas') :
    canvas.revision = input.baseRevision ∧ canvas'.revision = input.baseRevision + 1 := by
  rw [acceptChange] at h
  by_cases hbase : canvas.revision = input.baseRevision
  · rw [if_neg (not_not.mpr hbase)] at h
    obtain ⟨patched, -, rfl⟩ := map_eq_ok.mp h
    exact ⟨hbase, congrArg (· + 1) hbase⟩
  · rw [if_pos hbase] at h
    cases h

/-- The mutation was accepted before, from the same actor with the same content: the edit on record
is the answer, and nothing changes. -/
structure Replayed (canvasID : String) (input : CanvasChangeInput) (s : Store)
    (commit : CanvasChangeCommit) (s' : Store) : Prop where
  found : canvasChangeByMutation canvasID input.clientMutationID s =
    some (commit.changeID, commit.change)
  actor : commit.change.actorUserID = input.actorUserID
  content : commit.change.payloadJSON = input.changePayloadJSON
  unchanged : s' = s

/-- The edit is new: the canvas goes from the base revision to the next. -/
structure Advanced (canvasID : String) (input : CanvasChangeInput) (s : Store)
    (current : CanvasProject) (commit : CanvasChangeCommit) (s' : Store) : Prop where
  fresh : canvasChangeByMutation canvasID input.clientMutationID s = none
  accepted : acceptChange current input = .ok commit.project
  id : commit.changeID = input.changeID
  change : commit.change = input.recorded canvasID
  unused : s.lookup (.canvasChange input.changeID) = none
  stored : s' = (s.insert (.canvasProject canvasID) commit.project).insert
    (.canvasChange input.changeID) commit.change

theorem readOnly_authorizeCanvasWrite {actorUserID : String} {now : Time} :
    (authorizeCanvasWrite canvasID canvas actorUserID now).ReadOnly := by
  simp [authorizeCanvasWrite, Prog.keeps_ite]
  intro _ v
  split <;> simp [Prog.keeps_ite]

theorem post_authorizeCanvasWrite {actorUserID : String} {now : Time} :
    (authorizeCanvasWrite canvasID canvas actorUserID now).Post s fun _ t ↦
      t = s ∧ acceptsWrite canvasID actorUserID canvas now s = true := by
  intro a t hrun
  refine ⟨Prog.post_of_readOnly readOnly_authorizeCanvasWrite s a t hrun, ?_⟩
  rw [acceptsWrite, hrun]
  rfl

theorem post_advanceCanvas (hcanvas : canvasProject canvasID s = some canvas)
    (hfresh : canvasChangeByMutation canvasID input.clientMutationID s = none) :
    (advanceCanvas canvasID canvas input).Post s fun commit t ↦
      Advanced canvasID input s canvas commit t := by
  rw [advanceCanvas, Prog.post_ite]
  refine ⟨fun _ ↦ (Prog.post_fail _ _ _).mpr trivial, fun hbase ↦ ?_⟩
  have haccept : acceptChange canvas input = (input.apply canvas).map fun patched ↦
      canvas.advanced patched.1 patched.2 input.actorUserID := if_neg hbase
  cases hpatch : input.apply canvas with
  | error e => exact (Prog.post_fail _ _ _).mpr trivial
  | ok patched =>
    rw [hpatch] at haccept
    rw [Prog.post_bind, Prog.post_update]
    refine ⟨fun r hr _ r' hr' ↦ ?_, fun hstale ↦ ?_⟩
    · obtain rfl : canvas = r := Option.some.inj (hcanvas.symm.trans hr)
      cases hr'
      dsimp only [createCanvasChange]
      rw [if_neg (by simp), Prog.post_bind, Prog.post_create]
      intro hunused _
      rw [AList.lookup_insert_ne (by simp)] at hunused
      refine (Prog.post_done _ _ _).mpr ⟨hfresh, haccept, rfl, ?_, hunused, rfl⟩
      rw [CanvasChangeInput.recorded, ← not_not.mp hbase]
    · have hnow := hstale canvas hcanvas
      simp at hnow

/-- **What one edit does**, alone. -/
theorem commitCanvasChangeTx_cases
    (h : (commitCanvasChangeTx canvasID input).run s = .ok (commit, s')) :
    ∃ current, canvasProject canvasID s = some current ∧
      acceptsWrite canvasID input.actorUserID current input.now s = true ∧
        (Replayed canvasID input s commit s' ∧ commit.project = current ∨
          Advanced canvasID input s current commit s') := by
  suffices hpost : (commitCanvasChangeTx canvasID input).Post s fun commit s' ↦
      ∃ current, canvasProject canvasID s = some current ∧
        acceptsWrite canvasID input.actorUserID current input.now s = true ∧
          (Replayed canvasID input s commit s' ∧ commit.project = current ∨
            Advanced canvasID input s current commit s') from hpost commit s' h
  rw [commitCanvasChangeTx, Prog.post_bind, Prog.post_firstForUpdate]
  intro current hcurrent _
  rw [Prog.post_bind]
  refine post_authorizeCanvasWrite.mono ?_
  rintro - t ⟨rfl, haccepts⟩
  rw [Prog.post_bind, Prog.post_query]
  cases hfound : canvasChangeByMutation canvasID input.clientMutationID t with
  | none =>
    exact (post_advanceCanvas hcurrent hfound).mono fun commit t' hadvanced ↦
      ⟨current, hcurrent, haccepts, .inr hadvanced⟩
  | some found =>
    obtain ⟨id, duplicate⟩ := found
    refine (Prog.post_ite _ _ _ _ _).mpr ⟨fun _ ↦ (Prog.post_fail _ _ _).mpr trivial,
      fun hsame ↦ (Prog.post_done _ _ _).mpr ?_⟩
    rw [not_or, not_not, not_not] at hsame
    exact ⟨current, hcurrent, haccepts, .inl ⟨⟨hfound, hsame.1, hsame.2, rfl⟩, rfl⟩⟩

/-! ### An edit that was accepted before -/

/-- **An edit that was accepted before is answered with the edit on record**, when its author is the
same and may still write, and when its content is the same. -/
theorem run_commitCanvasChangeTx_replay {id : String} {duplicate : CanvasChange}
    (hcanvas : canvasProject canvasID s = some canvas)
    (haccepts : acceptsWrite canvasID input.actorUserID canvas input.now s = true)
    (hfound : canvasChangeByMutation canvasID input.clientMutationID s = some (id, duplicate)) :
    (commitCanvasChangeTx canvasID input).run s =
      if duplicate.actorUserID = input.actorUserID ∧
          duplicate.payloadJSON = input.changePayloadJSON then
        .ok (⟨canvas, id, duplicate⟩, s)
      else .error errCanvasMutationMismatch := by
  have hwrite : (authorizeCanvasWrite canvasID canvas input.actorUserID input.now).run s =
      .ok ((), s) := by
    cases hrun : (authorizeCanvasWrite canvasID canvas input.actorUserID input.now).run s with
    | error e =>
      rw [acceptsWrite, hrun] at haccepts
      cases haccepts
    | ok r => rw [← (post_authorizeCanvasWrite r.1 r.2 hrun).1]
  rw [commitCanvasChangeTx, Prog.run_bind_of_ok (Prog.run_firstForUpdate hcanvas rfl _),
    Prog.run_bind_of_ok hwrite, Prog.run_query_bind, hfound]
  by_cases hsame : duplicate.actorUserID = input.actorUserID ∧
      duplicate.payloadJSON = input.changePayloadJSON
  · rw [if_pos hsame]
    exact congrFun (congrArg Prog.run (if_neg (by simp [hsame]))) s
  · rw [if_neg hsame]
    exact congrFun (congrArg Prog.run (if_pos (by rwa [← not_and_or]))) s

/-- Whoever may not write is refused. -/
theorem run_commitCanvasChangeTx_forbidden (hcanvas : canvasProject canvasID s = some canvas)
    (hforbidden : acceptsWrite canvasID input.actorUserID canvas input.now s = false) :
    ((commitCanvasChangeTx canvasID input).run s).isOk = false := by
  cases hrun : (commitCanvasChangeTx canvasID input).run s with
  | error e => rfl
  | ok r =>
    obtain ⟨current, hcurrent, haccepts, -⟩ := commitCanvasChangeTx_cases hrun
    rw [hcanvas] at hcurrent
    cases hcurrent
    rw [hforbidden] at haccepts
    cases haccepts

end Edit

/-! ## Edits on record -/

/-- The edit of a mutation, and the only one. -/
structure OnRecord (canvasID clientMutationID id : String) (change : CanvasChange) (s : Store) :
    Prop where
  row : s.lookup (.canvasChange id) = some change
  isOf : change.IsOf canvasID clientMutationID
  only : ∀ id' change', s.lookup (.canvasChange id') = some change' →
    change'.IsOf canvasID clientMutationID → id' = id

section OnRecord

variable {canvasID clientMutationID id : String} {change : CanvasChange} {s t : Store}

theorem mem_canvasChangesOf :
    (id, change) ∈ canvasChangesOf canvasID clientMutationID s ↔
      s.lookup (.canvasChange id) = some change ∧ change.IsOf canvasID clientMutationID := by
  rw [canvasChangesOf, Db.mem_select]
  constructor
  · rintro ⟨k, r, hr, hsome⟩
    cases k with
    | canvasChange id' =>
      obtain ⟨hof, hpair⟩ := Option.ite_none_right_eq_some.mp hsome
      cases hpair
      exact ⟨hr, hof⟩
    | _ => cases hsome
  · rintro ⟨hr, hof⟩
    exact ⟨.canvasChange id, change, hr, if_pos hof⟩

theorem canvasChangeByMutation_eq_none :
    canvasChangeByMutation canvasID clientMutationID s = none ↔
      ∀ id change, s.lookup (.canvasChange id) = some change →
        ¬change.IsOf canvasID clientMutationID := by
  rw [canvasChangeByMutation, Db.firstBy_eq_none, List.eq_nil_iff_forall_not_mem]
  constructor
  · exact fun h id change hrow hof ↦ h (id, change) (mem_canvasChangesOf.mpr ⟨hrow, hof⟩)
  · rintro h ⟨id, change⟩ hmem
    obtain ⟨hrow, hof⟩ := mem_canvasChangesOf.mp hmem
    exact h id change hrow hof

theorem canvasChangeByMutation_eq_some
    (h : canvasChangeByMutation canvasID clientMutationID s = some (id, change)) :
    s.lookup (.canvasChange id) = some change ∧ change.IsOf canvasID clientMutationID :=
  mem_canvasChangesOf.mp (Db.mem_of_firstBy h)

theorem OnRecord.found (h : OnRecord canvasID clientMutationID id change s) :
    canvasChangeByMutation canvasID clientMutationID s = some (id, change) := by
  cases hfound : canvasChangeByMutation canvasID clientMutationID s with
  | none => exact absurd h.isOf (canvasChangeByMutation_eq_none.mp hfound id change h.row)
  | some x =>
    obtain ⟨hrow, hof⟩ := canvasChangeByMutation_eq_some hfound
    obtain rfl := h.only x.1 x.2 hrow hof
    rw [h.row] at hrow
    cases hrow
    rfl

end OnRecord

/-! ## Writers -/

/-- A row of the table of tool calls. -/
def IsToolCall : RowKey → Prop
  | .agentToolCall _ => True
  | _ => False

/-- `CommitCanvasChange`, where nothing is checked and nothing follows, or
`CommitAgentCanvasChange`, where the tool call is checked and then marked as done. -/
structure CanvasWriter where
  input : CanvasChangeInput
  checks : DbTx Unit := pure ()
  finish : CanvasChangeCommit → DbTx Unit := fun _ ↦ pure ()
  readOnly : checks.ReadOnly
  toolCalls : ∀ commit, (finish commit).WritesOnly IsToolCall

/-- `CommitCanvasChange`. -/
def CanvasWriter.ofInput (input : CanvasChangeInput) : CanvasWriter :=
  { input := input
    readOnly := (Prog.keeps_done ()).mpr trivial
    toolCalls := fun _ ↦ (Prog.keeps_done ()).mpr trivial }

def CanvasWriter.prog (canvasID : String) (writer : CanvasWriter) : DbTx CanvasChangeCommit := do
  writer.checks
  let commit ← commitCanvasChangeTx canvasID writer.input
  writer.finish commit
  return commit

abbrev CanvasEnded := Ended CanvasWriter Row CanvasChangeCommit

/-- What one writer's transaction did to the canvas. -/
inductive CanvasStep (canvasID : String) (e : CanvasEnded) : Prop where
  | refused (hresult : e.result = none) (hsame : e.after = e.before)
  /-- The edit on record was returned; canvas and edits are as they were. -/
  | replayed {commit : CanvasChangeCommit} (hresult : e.result = some commit)
      (hfound : canvasChangeByMutation canvasID e.call.input.clientMutationID e.before =
        some (commit.changeID, commit.change))
      (hactor : commit.change.actorUserID = e.call.input.actorUserID)
      (hcontent : commit.change.payloadJSON = e.call.input.changePayloadJSON)
      (hcanvas : canvasProject canvasID e.after = canvasProject canvasID e.before)
      (hchanges : ∀ id, e.after.lookup (.canvasChange id) = e.before.lookup (.canvasChange id))
  /-- The canvas went from the base revision to the next, and the edit is on record. -/
  | advanced {commit : CanvasChangeCommit} {current : CanvasProject}
      (hresult : e.result = some commit) (hbefore : canvasProject canvasID e.before = some current)
      (hfresh : canvasChangeByMutation canvasID e.call.input.clientMutationID e.before = none)
      (haccepted : acceptChange current e.call.input = .ok commit.project)
      (hchange : commit.changeID = e.call.input.changeID ∧
        commit.change = e.call.input.recorded canvasID)
      (hcanvas : canvasProject canvasID e.after = some commit.project)
      (hunused : e.before.lookup (.canvasChange commit.changeID) = none)
      (hrecorded : e.after.lookup (.canvasChange commit.changeID) = some commit.change)
      (hchanges : ∀ id, id ≠ commit.changeID →
        e.after.lookup (.canvasChange id) = e.before.lookup (.canvasChange id))

section Writers

variable {canvasID : String} {e : CanvasEnded} {commit : CanvasChangeCommit}

theorem locksFirst_commitCanvasChangeTx (input : CanvasChangeInput) :
    Prog.LocksFirst (.canvasProject canvasID) (commitCanvasChangeTx canvasID input) :=
  (Prog.locksFirst_firstForUpdate _ _).bind _

theorem CanvasWriter.locks (writer : CanvasWriter) :
    Prog.Locks (.canvasProject canvasID) (writer.prog canvasID) :=
  writer.readOnly.locks_bind fun _ ↦ (locksFirst_commitCanvasChangeTx writer.input).bind _

/-- The canvas and its edits are no tool calls. -/
theorem lookup_of_toolCalls {s t : Store} (h : RowStep (fun k _ _ ↦ IsToolCall k) s t) {k : RowKey}
    (hk : ¬IsToolCall k) : t.lookup k = s.lookup k :=
  (h k).resolve_right fun ⟨_, _, htool⟩ ↦ hk htool

theorem canvasStep_of_run (hresult : e.result = some commit) {q : DbTx CanvasChangeCommit}
    (hrest : Prog.Rest (.canvasProject canvasID) (e.call.prog canvasID) q)
    (hrun : q.run e.before = .ok (commit, e.after)) : CanvasStep canvasID e := by
  obtain ⟨u, hbody⟩ := hrest.run_of_checks e.call.readOnly
    (fun _ ↦ (locksFirst_commitCanvasChangeTx e.call.input).bind _) hrun
  obtain ⟨commit', mid, hedit, hfinish⟩ := Prog.run_bind_eq_ok hbody
  obtain ⟨u, t, hfinished, hdone⟩ := Prog.run_bind_eq_ok hfinish
  cases hdone
  have htools := (Prog.post_of_keeps (fun _ _ _ _ h _ ↦ h) (e.call.toolCalls commit) mid _ _
    hfinished).1
  have hcanvas : canvasProject canvasID e.after = canvasProject canvasID mid :=
    lookup_of_toolCalls htools id
  have hchanges : ∀ id, e.after.lookup (.canvasChange id) = mid.lookup (.canvasChange id) :=
    fun _ ↦ lookup_of_toolCalls htools id
  obtain ⟨current, hcurrent, -, ⟨hreplayed, -⟩ | hadvanced⟩ := commitCanvasChangeTx_cases hedit
  · obtain rfl := hreplayed.unchanged
    exact .replayed hresult hreplayed.found hreplayed.actor hreplayed.content hcanvas hchanges
  · have hid := hadvanced.id
    have hunused := hadvanced.unused
    rw [← hid] at hunused
    refine .advanced hresult hcurrent hadvanced.fresh hadvanced.accepted ⟨hid, hadvanced.change⟩
      ?_ hunused ?_ fun id hne ↦ ?_
    · rw [hcanvas, hadvanced.stored, canvasProject, AList.lookup_insert_ne (by simp),
        AList.lookup_insert]
    · rw [hchanges, hadvanced.stored, hid, AList.lookup_insert]
    · rw [hchanges, hadvanced.stored, AList.lookup_insert_ne (by simpa [← hid] using hne),
        AList.lookup_insert_ne (by simp)]

/-- **Every writer of a run took one of these steps.** -/
theorem canvasStep_of_reach {s : Store}
    {cfg : Config CanvasWriter Row RepoError CanvasChangeCommit}
    (h : Reach (.free (CanvasWriter.prog canvasID)) (.init s) cfg) (he : e ∈ cfg.log) :
    CanvasStep canvasID e := by
  cases hresult : e.result with
  | none => exact .refused hresult (unchanged_of_locks (fun c ↦ c.locks) h he hresult)
  | some commit =>
    obtain ⟨q, hrest, hrun⟩ := serial_of_locks (fun c ↦ c.locks) h he hresult
    exact canvasStep_of_run hresult hrest hrun

end Writers

/-! ## Every run -/

/-- The edit a transaction made, when it made a new one. -/
def newEdit (canvasID : String) (e : CanvasEnded) : Option (CanvasChangeInput × CanvasChangeCommit) :=
  if (canvasChangeByMutation canvasID e.call.input.clientMutationID e.before).isSome then none
  else e.result.map fun commit ↦ (e.call.input, commit)

/-- The new edits of a log, the oldest first. -/
def edits (canvasID : String) : List CanvasEnded → List (CanvasChangeInput × CanvasChangeCommit)
  | [] => []
  | e :: log => edits canvasID log ++ (newEdit canvasID e).toList

section Runs

variable {canvasID : String} {s t : Store} {log : List CanvasEnded} {e : CanvasEnded}
  {canvas canvas' : CanvasProject}

/-- **The canvas after a transaction**: as before, or with the one edit it made. -/
theorem CanvasStep.folded (h : CanvasStep canvasID e)
    (hcanvas : canvasProject canvasID e.before = some canvas) :
    ∃ canvas', canvasProject canvasID e.after = some canvas' ∧
      ((newEdit canvasID e).toList.map Prod.fst).foldlM acceptChange canvas = .ok canvas' := by
  cases h with
  | refused hresult hsame =>
    refine ⟨canvas, hsame ▸ hcanvas, ?_⟩
    have hnone : newEdit canvasID e = none := by simp [newEdit, hresult]
    rw [hnone]
    rfl
  | replayed hresult hfound hactor hcontent hsame =>
    refine ⟨canvas, hsame.trans hcanvas, ?_⟩
    have hnone : newEdit canvasID e = none := by simp [newEdit, hfound]
    rw [hnone]
    rfl
  | @advanced commit current hresult hbefore hfresh haccepted hchange hafter =>
    obtain rfl : canvas = current := Option.some.inj (hcanvas.symm.trans hbefore)
    refine ⟨commit.project, hafter, ?_⟩
    have hsome : newEdit canvasID e = some (e.call.input, commit) := by
      simp [newEdit, hresult, hfresh]
    rw [hsome]
    simp [haccepted]

/-- **The canvas is the fold of the accepted patches.** -/
theorem foldlM_edits (hlinked : Linked s log t) (hsteps : ∀ e ∈ log, CanvasStep canvasID e)
    (hcanvas : canvasProject canvasID s = some canvas) :
    ∃ canvas', canvasProject canvasID t = some canvas' ∧
      ((edits canvasID log).map Prod.fst).foldlM acceptChange canvas = .ok canvas' := by
  induction hlinked with
  | nil => exact ⟨canvas, hcanvas, rfl⟩
  | @cons e log _ ih =>
    obtain ⟨mid, hmid, hfold⟩ := ih fun e he ↦ hsteps e (.tail _ he)
    obtain ⟨canvas', hafter, hlast⟩ := (hsteps e (.head _)).folded hmid
    refine ⟨canvas', hafter, ?_⟩
    rw [edits, List.map_append, List.foldlM_append, hfold]
    exact hlast

/-- The base revisions of a fold follow one another. -/
theorem baseRevision_of_foldlM {inputs : List CanvasChangeInput}
    (h : inputs.foldlM acceptChange canvas = .ok canvas') :
    inputs.map (·.baseRevision) =
      (List.range inputs.length).map fun i : ℕ ↦ canvas.revision + i := by
  induction inputs generalizing canvas with
  | nil => rfl
  | cons input inputs ih =>
    rw [List.foldlM_cons] at h
    obtain ⟨mid, hmid, hrest⟩ := bind_eq_ok.mp h
    obtain ⟨hbase, hnext⟩ := acceptChange_eq_ok hmid
    rw [List.map_cons, ih hrest, List.length_cons, List.range_succ_eq_map, List.map_cons,
      List.map_map, ← hbase]
    refine congrArg₂ _ (by simp) (List.map_congr_left fun i _ ↦ ?_)
    rw [hnext, ← hbase]
    simp only [Function.comp_apply, Nat.cast_succ]
    omega

/-- A transaction leaves the edit of a mutation on record. -/
theorem CanvasStep.onRecord (h : CanvasStep canvasID e) {clientMutationID id : String}
    {change : CanvasChange} (hrecord : OnRecord canvasID clientMutationID id change e.before) :
    OnRecord canvasID clientMutationID id change e.after := by
  have of_same (hsame : ∀ id, e.after.lookup (.canvasChange id) =
      e.before.lookup (.canvasChange id)) :
      OnRecord canvasID clientMutationID id change e.after :=
    ⟨(hsame id).trans hrecord.row, hrecord.isOf,
      fun id' change' hrow ↦ hrecord.only id' change' ((hsame id').symm.trans hrow)⟩
  cases h with
  | refused hresult hsame => exact of_same fun _ ↦ by rw [hsame]
  | replayed hresult hfound hactor hcontent hcanvas hchanges => exact of_same hchanges
  | @advanced commit current hresult hbefore hfresh haccepted hchange hcanvas hunused hrecorded
      hchanges =>
    have hne : id ≠ commit.changeID := by
      rintro rfl
      have hrow := hrecord.row
      rw [hunused] at hrow
      cases hrow
    refine ⟨(hchanges id hne).trans hrecord.row, hrecord.isOf, fun id' change' hrow hof ↦ ?_⟩
    by_cases hid : id' = commit.changeID
    · -- the new edit is not one of this mutation
      subst hid
      rw [hrecorded, hchange.2] at hrow
      cases hrow
      have hmutation : e.call.input.clientMutationID = clientMutationID := hof.2
      rw [hmutation, hrecord.found] at hfresh
      cases hfresh
    · exact hrecord.only id' change' ((hchanges id' hid).symm.trans hrow) hof

/-- A new edit is on record. -/
theorem CanvasStep.recorded (h : CanvasStep canvasID e)
    {edit : CanvasChangeInput × CanvasChangeCommit} (hedit : newEdit canvasID e = some edit) :
    (edit.2.changeID = edit.1.changeID ∧ edit.2.change = edit.1.recorded canvasID) ∧
      OnRecord canvasID edit.1.clientMutationID edit.2.changeID edit.2.change e.after := by
  cases h with
  | refused hresult hsame => simp [newEdit, hresult] at hedit
  | replayed hresult hfound => simp [newEdit, hfound] at hedit
  | @advanced commit current hresult hbefore hfresh haccepted hchange hcanvas hunused hrecorded
      hchanges =>
    obtain rfl : (e.call.input, commit) = edit := by simpa [newEdit, hresult, hfresh] using hedit
    refine ⟨hchange, hrecorded, ?_, fun id' change' hrow hof ↦ ?_⟩
    · rw [hchange.2]
      exact ⟨rfl, rfl⟩
    · by_contra hne
      rw [hchanges id' hne] at hrow
      exact canvasChangeByMutation_eq_none.mp hfresh id' change' hrow hof

theorem onRecord_of_mem_edits (hlinked : Linked s log t)
    (hsteps : ∀ e ∈ log, CanvasStep canvasID e)
    {edit : CanvasChangeInput × CanvasChangeCommit} (hedit : edit ∈ edits canvasID log) :
    (edit.2.changeID = edit.1.changeID ∧ edit.2.change = edit.1.recorded canvasID) ∧
      OnRecord canvasID edit.1.clientMutationID edit.2.changeID edit.2.change t := by
  induction hlinked with
  | nil => cases hedit
  | @cons e log _ ih =>
    rcases List.mem_append.mp hedit with hedit | hedit
    · obtain ⟨hchange, hrecord⟩ := ih (fun e he ↦ hsteps e (.tail _ he)) hedit
      exact ⟨hchange, (hsteps e (.head _)).onRecord hrecord⟩
    · exact (hsteps e (.head _)).recorded (Option.mem_toList.mp hedit)

/-- What holds of a canvas that was `canvas` at the start of the run. -/
structure CanvasHistory (canvasID : String) (canvas : CanvasProject)
    (cfg : Config CanvasWriter Row RepoError CanvasChangeCommit) : Prop where
  /-- The canvas is the left fold of the accepted patches. -/
  folded : ∃ canvas', canvasProject canvasID cfg.db = some canvas' ∧
    ((edits canvasID cfg.log).map Prod.fst).foldlM acceptChange canvas = .ok canvas'
  /-- One edit was accepted for each base revision, without gaps. -/
  bases : (edits canvasID cfg.log).map (·.1.baseRevision) =
    (List.range (edits canvasID cfg.log).length).map fun i : ℕ ↦ canvas.revision + i
  revisions : (edits canvasID cfg.log).map (·.2.change.revision) =
    (List.range (edits canvasID cfg.log).length).map fun i : ℕ ↦ canvas.revision + i + 1
  /-- An accepted edit is on record under its mutation for ever. -/
  onRecord : ∀ edit ∈ edits canvasID cfg.log, edit.2.change = edit.1.recorded canvasID ∧
    canvasChangeByMutation canvasID edit.1.clientMutationID cfg.db =
      some (edit.1.changeID, edit.2.change)
  steps : ∀ e ∈ cfg.log, CanvasStep canvasID e
  /-- A mutation on record is answered with the record, or refused. -/
  answered : ∀ input canvas' id change, canvasProject canvasID cfg.db = some canvas' →
    canvasChangeByMutation canvasID input.clientMutationID cfg.db = some (id, change) →
    (acceptsWrite canvasID input.actorUserID canvas' input.now cfg.db = true →
      (commitCanvasChangeTx canvasID input).run cfg.db =
        if change.actorUserID = input.actorUserID ∧
            change.payloadJSON = input.changePayloadJSON then
          .ok (⟨canvas', id, change⟩, cfg.db)
        else .error errCanvasMutationMismatch) ∧
    (acceptsWrite canvasID input.actorUserID canvas' input.now cfg.db = false →
      ((commitCanvasChangeTx canvasID input).run cfg.db).isOk = false)

/-- **The revisions of a canvas**, whoever writes and in whatever order the statements run. -/
theorem canvas_revision_log {cfg : Config CanvasWriter Row RepoError CanvasChangeCommit}
    (hcanvas : canvasProject canvasID s = some canvas)
    (hreach : Reach (.free (CanvasWriter.prog canvasID)) (.init s) cfg) :
    CanvasHistory canvasID canvas cfg := by
  have hsteps : ∀ e ∈ cfg.log, CanvasStep canvasID e := fun e ↦ canvasStep_of_reach hreach
  have hlinked := linked_of_reach hreach
  obtain ⟨canvas', hnow, hfold⟩ := foldlM_edits hlinked hsteps hcanvas
  have hbases := baseRevision_of_foldlM hfold
  rw [List.map_map, List.length_map] at hbases
  have hrecord := fun edit (hedit : edit ∈ edits canvasID cfg.log) ↦
    onRecord_of_mem_edits hlinked hsteps hedit
  refine ⟨⟨canvas', hnow, hfold⟩, hbases, ?_, fun edit hedit ↦ ?_, hsteps,
    fun input canvas'' id change hcanvas' hfound ↦ ⟨fun haccepts ↦ ?_, fun hforbidden ↦ ?_⟩⟩
  · have hnext : (edits canvasID cfg.log).map (·.2.change.revision) =
        ((edits canvasID cfg.log).map (·.1.baseRevision)).map (· + 1) := by
      rw [List.map_map]
      exact List.map_congr_left fun edit hedit ↦ congrArg (·.revision) (hrecord edit hedit).1.2
    rw [hnext, show (edits canvasID cfg.log).map (·.1.baseRevision) = _ from hbases, List.map_map]
    rfl
  · obtain ⟨⟨hid, hchange⟩, hon⟩ := hrecord edit hedit
    exact ⟨hchange, hid ▸ hon.found⟩
  · exact run_commitCanvasChangeTx_replay hcanvas' haccepts hfound
  · exact run_commitCanvasChangeTx_forbidden hcanvas' hforbidden

end Runs

/-! ### A replay after the subscription ended -/

/-- The team of `sharingTeam`, with a subscription until 5. -/
def leavingTeam : Store :=
  (sharingTeam .editor).insert (.membershipSubscription "subscription")
    ({ userID := "owner", teamID := "team", endsAt := some 5 } : MembershipSubscription)

/-- An edit of the member. -/
def memberEdit (now : Time) : CanvasChangeInput :=
  { changeID := "change", actorUserID := "member", baseRevision := 0
    clientMutationID := "mutation", changePayloadJSON := "patch", now := now
    apply := fun canvas ↦ .ok ("edited", canvas.title) }

def memberWriter : CanvasWriter := .ofInput (memberEdit 0)

/-- What it comes to. -/
def memberCommit : CanvasChangeCommit :=
  { project := (sharedCanvas .editor).advanced "edited" "" "member"
    changeID := "change"
    change := (memberEdit 0).recorded "canvas" }

def editedTeam : Store :=
  (leavingTeam.insert (.canvasProject "canvas") memberCommit.project).insert
    (.canvasChange "change") memberCommit.change

theorem reach_editedTeam :
    Reach (.free (CanvasWriter.prog "canvas")) (.init leavingTeam)
      ⟨editedTeam, ∅, [⟨memberWriter, some memberCommit, leavingTeam, editedTeam⟩]⟩ :=
  reach_of_run (S := .free (CanvasWriter.prog "canvas")) (c := memberWriter) (fun _ ↦ trivial) rfl

theorem canvas_revision_log_member :
    CanvasHistory "canvas" (sharedCanvas .editor)
      ⟨editedTeam, ∅, [⟨memberWriter, some memberCommit, leavingTeam, editedTeam⟩]⟩ :=
  canvas_revision_log (by decide) reach_editedTeam

/-- **A replay may be refused**: the same edit of the same member, after the subscription ended. -/
theorem exists_replay_refused :
    ∃ cfg, Reach (.free (CanvasWriter.prog "canvas")) (.init leavingTeam) cfg ∧
      canvasChangeByMutation "canvas" (memberEdit 10).clientMutationID cfg.db =
        some ("change", memberCommit.change) ∧
      memberCommit.change.actorUserID = (memberEdit 10).actorUserID ∧
      memberCommit.change.payloadJSON = (memberEdit 10).changePayloadJSON ∧
      (commitCanvasChangeTx "canvas" (memberEdit 10)).run cfg.db =
        .error errCanvasPlanInactive :=
  ⟨_, reach_editedTeam, by decide, rfl, rfl, rfl⟩

end HMaigc
