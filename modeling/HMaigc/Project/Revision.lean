import HMaigc.Go.Basic
import HMaigc.Proc.Machine
import Mathlib.Data.Int.Notation
import Mathlib.Logic.Function.Basic

/-!
# The revision of a project

`service/project.go` and `repository/repository.go`: a project has a revision, which every
modification increases.  Most modifications are one statement that adds 1; `UpdateProject` reads the
row, applies a request to what it read, and later writes all fields and the revision back.

* `ProjectState.step` — the statements of any number of such calls, in any order.
* `Sound` — a modification leaves a revision that the project never had, and no field other than
  those it is about is changed.
* `sound_iff` — **while every write was based on the row as it was, the next modification is sound
  exactly if it is based on the row as it is**.
* `not_sound_stale` — a write of a row that was read before another modification undoes it.
-/

set_option autoImplicit false

namespace HMaigc.Projects

open Go

/-! ## Rows and requests -/

inductive ProjectStatus
  | active | archived
  deriving DecidableEq

/-- `model.Project`, but for its times. -/
structure Project where
  id : String
  userID : String
  teamID : String
  name : String
  type : String
  aspectRatio : String
  sourceType : String
  description : String
  stylePresetID : String
  status : ProjectStatus
  revision : ℤ
  deriving DecidableEq

structure UpdateProjectRequest where
  name : String := ""
  type : String := ""
  aspectRatio : String := ""
  sourceType : String := ""
  description : Option String := none
  stylePresetID : Option String := none
  status : String := ""

/-- A text of a request, where there is one. -/
def requested (value : String) (current : String) : String :=
  if trimSpace value ≠ "" then trimSpace value else current

/-- The status of a request; `none` if it is not supported. -/
def UpdateProjectRequest.newStatus (request : UpdateProjectRequest) (current : ProjectStatus) :
    Option ProjectStatus :=
  let status := trimSpace request.status
  if status = "" then some current
  else if status = "active" then some .active
  else if status = "archived" then some .archived
  else none

/-- What a request makes of a row, but for the revision. -/
def UpdateProjectRequest.fields (request : UpdateProjectRequest) (project : Project) : Project :=
  { project with
    name := requested request.name project.name
    type := requested request.type project.type
    aspectRatio := requested request.aspectRatio project.aspectRatio
    sourceType := requested request.sourceType project.sourceType
    description := (request.description.map trimSpace).getD project.description
    stylePresetID := (request.stylePresetID.map trimSpace).getD project.stylePresetID
    status := (request.newStatus project.status).getD project.status }

/-- What `UpdateProject` does between reading the row and writing it. -/
def UpdateProjectRequest.apply (request : UpdateProjectRequest) (project : Project) :
    Except String Project :=
  if request.newStatus project.status = none then .error "不支持的项目状态"
  else .ok { request.fields project with revision := project.revision + 1 }

/-! ## Any number of calls -/

/-- The row of a project, what each call of `UpdateProject` has read, and all revisions the project
had, the last one first. -/
structure ProjectState where
  row : Option Project
  reading : ℕ → Option Project
  revisions : List ℤ

/-- The columns that `Repository.UpdateProject` writes. -/
def Project.written (stored project : Project) : Project :=
  { stored with
    name := project.name
    type := project.type
    aspectRatio := project.aspectRatio
    sourceType := project.sourceType
    description := project.description
    stylePresetID := project.stylePresetID
    status := project.status
    revision := project.revision }

/-- The other columns are not those of a request. -/
theorem Project.written_fields (request : UpdateProjectRequest) (project : Project)
    (revision : ℤ) :
    project.written { request.fields project with revision := revision } =
      { request.fields project with revision := revision } := by
  simp only [written, UpdateProjectRequest.fields]

namespace ProjectState

def init (project : Project) : ProjectState := ⟨some project, fun _ ↦ none, [project.revision]⟩

def done (s : ProjectState) (op : ℕ) : ProjectState :=
  { s with reading := Function.update s.reading op none }

/-- The row is written. -/
def commit (s : ProjectState) (project : Project) : ProjectState :=
  { s with row := some project, revisions := project.revision :: s.revisions }

/-- `Repository.UpdateProject`. -/
def updateProject (s : ProjectState) (project : Project) : ProjectState :=
  match s.row with
  | none => s
  | some stored =>
    if stored.id = project.id ∧ stored.userID = project.userID then
      s.commit (stored.written project)
    else s

/-- `BumpProjectRevision`, and the end of every transaction that changes what belongs to a
project. -/
def bumpProjectRevision (s : ProjectState) : ProjectState :=
  match s.row with
  | none => s
  | some stored => s.commit { stored with revision := stored.revision + 1 }

def assignProjectTeam (s : ProjectState) (ownerUserID teamID : String) : ProjectState :=
  match s.row with
  | none => s
  | some stored =>
    if stored.userID = ownerUserID then
      s.commit { stored with teamID := teamID, revision := stored.revision + 1 }
    else s

end ProjectState

inductive ProjectAction
  /-- `UpdateProject` reads the row. -/
  | read (op : ℕ)
  /-- It writes what the request makes of it. -/
  | write (op : ℕ) (request : UpdateProjectRequest)
  /-- It ends without that: the statement is refused, or the process is gone. -/
  | abandon (op : ℕ)
  | bump
  | assignTeam (ownerUserID teamID : String)
  | delete

def ProjectState.step (s : ProjectState) : ProjectAction → Option ProjectState
  | .read op =>
    match s.row, s.reading op with
    | some project, none => some { s with reading := Function.update s.reading op (some project) }
    | _, _ => none
  | .write op request =>
    (s.reading op).map fun project ↦
      match request.apply project with
      | .error _ => s.done op
      | .ok project => (s.done op).updateProject project
  | .abandon op => some (s.done op)
  | .bump => some s.bumpProjectRevision
  | .assignTeam ownerUserID teamID => some (s.assignProjectTeam ownerUserID teamID)
  | .delete => some { s with row := none }

/-! ## Modifications -/

/-- What an action is about: the row it is to make of the one there is, but for the revision. -/
def ProjectAction.intended : ProjectAction → Project → Project
  | write _ request, project => request.fields project
  | assignTeam _ teamID, project => { project with teamID := teamID }
  | _, project => project

/-- The row has been written. -/
structure Commits (s s' : ProjectState) (project : Project) : Prop where
  row : s'.row = some project
  revisions : s'.revisions = project.revision :: s.revisions

/-- A modification leaves a greater revision than all before, and what other modifications did. -/
structure Sound (s : ProjectState) (action : ProjectAction) (s' : ProjectState) : Prop where
  increases : ∀ project, Commits s s' project → ∀ revision ∈ s.revisions,
    revision < project.revision
  keeps : ∀ stored project, s.row = some stored → Commits s s' project →
    project = { action.intended stored with revision := project.revision }

/-- What is written is based on the row as it is; nothing else is written. -/
def isCurrent (s : ProjectState) : ProjectAction → Bool
  | .write op request =>
    match s.row, s.reading op with
    | some stored, some project =>
      request.newStatus project.status = none || project.revision = stored.revision
    | _, _ => true
  | _ => true

abbrev Current (s : ProjectState) (action : ProjectAction) : Prop := isCurrent s action = true

/-! ## What is known of a row that was read -/

/-- The revision of the row is the greatest there was, and a call whose row has it read the row as
it is. -/
structure Based (s : ProjectState) : Prop where
  greatest : ∀ stored, s.row = some stored → ∀ revision ∈ s.revisions, revision ≤ stored.revision
  had : ∀ stored, s.row = some stored → stored.revision ∈ s.revisions
  read_id : ∀ op project stored, s.reading op = some project → s.row = some stored →
    stored.id = project.id ∧ stored.userID = project.userID
  read_le : ∀ op project stored, s.reading op = some project → s.row = some stored →
    project.revision ≤ stored.revision
  read_eq : ∀ op project stored, s.reading op = some project → s.row = some stored →
    project.revision = stored.revision → project = stored

section Steps

variable {s s' : ProjectState} {stored project : Project} {action : ProjectAction} {op : ℕ}
  {request : UpdateProjectRequest}

theorem based_init (project : Project) : Based (.init project) where
  greatest := by
    rintro _ ⟨⟩ revision hrevision
    exact (List.mem_singleton.mp hrevision).le
  had := by
    rintro _ ⟨⟩
    exact List.mem_singleton_self _
  read_id := nofun
  read_le := nofun
  read_eq := nofun

theorem Based.done (h : Based s) (op : ℕ) : Based (s.done op) := by
  have hread {other : ℕ} {project : Project} (hdone : (s.done op).reading other = some project) :
      s.reading other = some project := by
    by_cases hother : other = op
    · simp [ProjectState.done, hother] at hdone
    · simpa [ProjectState.done, hother] using hdone
  exact ⟨h.greatest, h.had, fun _ _ _ hdone ↦ h.read_id _ _ _ (hread hdone),
    fun _ _ _ hdone ↦ h.read_le _ _ _ (hread hdone),
    fun _ _ _ hdone ↦ h.read_eq _ _ _ (hread hdone)⟩

/-- A greater revision was read by no one. -/
theorem Based.commit (h : Based s) (hrow : s.row = some stored) (hid : project.id = stored.id)
    (huser : project.userID = stored.userID) (hlt : stored.revision < project.revision) :
    Based (s.commit project) where
  greatest := by
    rintro _ ⟨⟩ revision hrevision
    rcases List.mem_cons.mp hrevision with rfl | hrevision
    · exact le_rfl
    · exact (h.greatest stored hrow revision hrevision).trans hlt.le
  had := by
    rintro _ ⟨⟩
    exact List.mem_cons_self ..
  read_id := by
    rintro op held _ hheld ⟨⟩
    rw [hid, huser]
    exact h.read_id op held stored hheld hrow
  read_le := by
    rintro op held _ hheld ⟨⟩
    exact (h.read_le op held stored hheld hrow).trans hlt.le
  read_eq := by
    rintro op held _ hheld ⟨⟩ hsame
    have hle := h.read_le op held stored hheld hrow
    omega

/-- Where nothing is written, nothing can go wrong. -/
theorem sound_of_revisions_eq (hsame : s'.revisions = s.revisions) : Sound s action s' := by
  have hnone (project : Project) : ¬Commits s s' project := by
    intro hcommits
    have hlength := congrArg List.length hcommits.revisions
    rw [hsame, List.length_cons] at hlength
    omega
  exact ⟨fun project hcommits ↦ absurd hcommits (hnone project),
    fun _ project _ hcommits ↦ absurd hcommits (hnone project)⟩

theorem sound_commit_iff (hrow : s.row = some stored)
    (hs' : s'.row = some project ∧ s'.revisions = project.revision :: s.revisions) :
    Sound s action s' ↔ (∀ revision ∈ s.revisions, revision < project.revision) ∧
      project = { action.intended stored with revision := project.revision } := by
  constructor
  · intro h
    exact ⟨h.increases project ⟨hs'.1, hs'.2⟩, h.keeps stored project hrow ⟨hs'.1, hs'.2⟩⟩
  · rintro ⟨hincreases, hkeeps⟩
    have hproject {other : Project} (hcommits : Commits s s' other) : other = project :=
      Option.some.inj (hcommits.row.symm.trans hs'.1)
    refine ⟨fun other hcommits ↦ ?_, fun stored' other hrow' hcommits ↦ ?_⟩
    · rw [hproject hcommits]
      exact hincreases
    · rw [hproject hcommits, Option.some.inj (hrow'.symm.trans hrow)]
      exact hkeeps

/-- A statement that adds 1 is sound. -/
theorem Based.sound_increment (h : Based s) (hrow : s.row = some stored)
    (hproject : project = { action.intended stored with revision := stored.revision + 1 }) :
    Sound s action (s.commit project) := by
  have hrevision : project.revision = stored.revision + 1 := by rw [hproject]
  refine (sound_commit_iff hrow ⟨rfl, rfl⟩).mpr ⟨fun revision hmem ↦ ?_, ?_⟩
  · have hle := h.greatest stored hrow revision hmem
    omega
  · rw [hrevision]
    exact hproject

/-! ## Writing a row that was read -/

theorem UpdateProjectRequest.apply_eq (request : UpdateProjectRequest) (project : Project) :
    (request.newStatus project.status = none ∧
      request.apply project = .error "不支持的项目状态") ∨
    (request.newStatus project.status ≠ none ∧
      request.apply project =
        .ok { request.fields project with revision := project.revision + 1 }) := by
  by_cases hstatus : request.newStatus project.status = none
  · exact .inl ⟨hstatus, if_pos hstatus⟩
  · exact .inr ⟨hstatus, if_neg hstatus⟩

theorem updateProject_eq (hrow : s.row = some stored)
    (hid : stored.id = project.id ∧ stored.userID = project.userID) :
    s.updateProject project = s.commit (stored.written project) := by
  rw [ProjectState.updateProject, hrow]
  exact if_pos hid

/-- What a write leads to: nothing where the request is refused or the project is gone, else what
the request makes of the row that was read. -/
theorem Based.write_spec (h : Based s) (hstep : s.step (.write op request) = some s') :
    s' = s.done op ∧ Current s (.write op request) ∨
      ∃ held stored, s.reading op = some held ∧ s.row = some stored ∧
        (Current s (.write op request) ↔ held.revision = stored.revision) ∧
        s' = (s.done op).commit
          (stored.written { request.fields held with revision := held.revision + 1 }) := by
  obtain ⟨held, hheld, rfl⟩ := Option.map_eq_some_iff.mp hstep
  rcases request.apply_eq held with ⟨hstatus, happly⟩ | ⟨hstatus, happly⟩
  · refine .inl ⟨by rw [happly], ?_⟩
    rw [Current, isCurrent, hheld]
    split
    · rename_i hsome
      rw [← Option.some.inj hsome, hstatus]
      rfl
    · rfl
  · rw [happly]
    cases hrow : s.row with
    | none =>
      refine .inl ⟨?_, ?_⟩
      · have hdone : (s.done op).row = none := hrow
        dsimp only
        rw [ProjectState.updateProject, hdone]
      · rw [Current, isCurrent, hrow]
    | some stored =>
      refine .inr ⟨held, stored, hheld, rfl, ?_, updateProject_eq hrow ?_⟩
      · simp [Current, isCurrent, hrow, hheld, hstatus]
      · exact h.read_id op held stored hheld hrow

/-- **A write is sound exactly where it is current.** -/
theorem Based.sound_write_iff (h : Based s) (hstep : s.step (.write op request) = some s') :
    Sound s (.write op request) s' ↔ Current s (.write op request) := by
  rcases h.write_spec hstep with ⟨rfl, hcurrent⟩ | ⟨held, stored, hheld, hrow, hcurrent, rfl⟩
  · exact iff_of_true (sound_of_revisions_eq rfl) hcurrent
  · rw [hcurrent, sound_commit_iff hrow ⟨rfl, rfl⟩]
    have hle := h.read_le op held stored hheld hrow
    constructor
    · rintro ⟨hincreases, -⟩
      have hlt := hincreases stored.revision (h.had stored hrow)
      exact le_antisymm hle (Int.lt_add_one_iff.mp hlt)
    · intro hsame
      obtain rfl := h.read_eq op held stored hheld hrow hsame
      rw [Project.written_fields]
      refine ⟨fun revision hrevision ↦ ?_, ?_⟩
      · exact Int.lt_add_one_iff.mpr (h.greatest held hrow revision hrevision)
      · simp only [ProjectAction.intended]

/-- A current write leaves the others based on the row as it is. -/
theorem Based.write (h : Based s) (hstep : s.step (.write op request) = some s')
    (hcurrent : Current s (.write op request)) : Based s' := by
  rcases h.write_spec hstep with ⟨rfl, -⟩ | ⟨held, stored, hheld, hrow, hiff, rfl⟩
  · exact h.done op
  · refine (h.done op).commit hrow rfl rfl ?_
    rw [← hiff.mp hcurrent]
    exact Int.lt_succ held.revision

/-! ## The other statements -/

theorem Based.read (h : Based s) (hstep : s.step (.read op) = some s') :
    Based s' ∧ s'.revisions = s.revisions := by
  rw [ProjectState.step] at hstep
  split at hstep
  · rename_i project hrow _
    cases hstep
    have hread {other : ℕ} {held : Project}
        (hheld : Function.update s.reading op (some project) other = some held) :
        held = project ∨ s.reading other = some held := by
      by_cases hother : other = op
      · rw [hother, Function.update_self] at hheld
        exact .inl (Option.some.inj hheld).symm
      · rw [Function.update_of_ne hother] at hheld
        exact .inr hheld
    refine ⟨⟨h.greatest, h.had, fun other held stored hheld hstored ↦ ?_,
      fun other held stored hheld hstored ↦ ?_,
      fun other held stored hheld hstored hsame ↦ ?_⟩, rfl⟩
    all_goals
      obtain rfl : project = stored := Option.some.inj (hrow.symm.trans hstored)
      rcases hread hheld with rfl | hheld
    · exact ⟨rfl, rfl⟩
    · exact h.read_id other held project hheld hrow
    · exact le_rfl
    · exact h.read_le other held project hheld hrow
    · rfl
    · exact h.read_eq other held project hheld hrow hsame
  · cases hstep

theorem Based.bump (h : Based s) :
    Based s.bumpProjectRevision ∧ Sound s .bump s.bumpProjectRevision := by
  rw [ProjectState.bumpProjectRevision]
  split
  · exact ⟨h, sound_of_revisions_eq rfl⟩
  · rename_i stored hrow
    exact ⟨h.commit hrow rfl rfl (Int.lt_succ _), h.sound_increment hrow rfl⟩

theorem Based.assignTeam (h : Based s) (ownerUserID teamID : String) :
    Based (s.assignProjectTeam ownerUserID teamID) ∧
      Sound s (.assignTeam ownerUserID teamID) (s.assignProjectTeam ownerUserID teamID) := by
  rw [ProjectState.assignProjectTeam]
  split
  · exact ⟨h, sound_of_revisions_eq rfl⟩
  · rename_i stored hrow
    split
    · exact ⟨h.commit hrow rfl rfl (Int.lt_succ _), h.sound_increment hrow rfl⟩
    · exact ⟨h, sound_of_revisions_eq rfl⟩

theorem Based.delete (_ : Based s) : Based { s with row := none } :=
  ⟨nofun, nofun, nofun, nofun, nofun⟩

/-- **Every step is sound exactly where it is current.** -/
theorem Based.step (h : Based s) (hstep : s.step action = some s') :
    (Sound s action s' ↔ Current s action) ∧ (Current s action → Based s') := by
  cases action with
  | read op =>
    obtain ⟨hbased, hsame⟩ := h.read hstep
    exact ⟨iff_of_true (sound_of_revisions_eq hsame) rfl, fun _ ↦ hbased⟩
  | write op request => exact ⟨h.sound_write_iff hstep, h.write hstep⟩
  | abandon op =>
    cases hstep
    exact ⟨iff_of_true (sound_of_revisions_eq rfl) rfl, fun _ ↦ h.done op⟩
  | bump =>
    cases hstep
    exact ⟨iff_of_true h.bump.2 rfl, fun _ ↦ h.bump.1⟩
  | assignTeam ownerUserID teamID =>
    cases hstep
    exact ⟨iff_of_true (h.assignTeam _ _).2 rfl, fun _ ↦ (h.assignTeam _ _).1⟩
  | delete =>
    cases hstep
    exact ⟨iff_of_true (sound_of_revisions_eq rfl) rfl, fun _ ↦ h.delete⟩

end Steps

/-! ## Runs -/

open Machine

theorem based_of_run {project : Project} {s : ProjectState}
    (hrun : Run ProjectState.step Current (.init project) s) : Based s :=
  hrun.invariant (based_init project) fun _ _ _ h hcurrent hstep ↦ (h.step hstep).2 hcurrent

/-- **After writes of the row as it was, a step is sound exactly if it is, too.** -/
theorem sound_iff {project : Project} {s s' : ProjectState} {action : ProjectAction}
    (hrun : Run ProjectState.step Current (.init project) s)
    (hstep : s.step action = some s') : Sound s action s' ↔ Current s action :=
  ((based_of_run hrun).step hstep).1

namespace ProjectExample

def project : Project :=
  ⟨"p", "u", "", "film", "short-drama", "9:16", "blank", "", "", .active, 1⟩

def rename : UpdateProjectRequest := { name := "new film" }

def describe : UpdateProjectRequest := { description := some "two acts" }

/-- Two calls read the row, and one of them has written it. -/
def schedule : List ProjectAction := [.read 0, .read 1, .write 0 describe]

def described : ProjectState :=
  (play ProjectState.step Current (.init project) schedule).getD (.init project)

/-- The other writes the row as it read it. -/
def renamed : ProjectState := (described.step (.write 1 rename)).getD described

theorem run_described : Run ProjectState.step Current (.init project) described :=
  run_of_play .nil schedule rfl

end ProjectExample

open ProjectExample in
/-- The next step is sound if it is a bump. -/
theorem sound_iff_bump :
    Sound described .bump described.bumpProjectRevision ↔ Current described .bump :=
  sound_iff run_described rfl

open ProjectExample in
/-- **A write of a row that was read earlier is not sound**: the revision stays at 2, and the
description is lost. -/
theorem not_sound_stale :
    ¬∀ (project : Project) (s s' : ProjectState) (action : ProjectAction),
      Run ProjectState.step (fun _ _ ↦ True) (.init project) s → s.step action = some s' →
        Sound s action s' := by
  intro h
  have hsound : Sound described (.write 1 rename) renamed :=
    h project described renamed _ (run_described.mono fun _ _ _ ↦ trivial) rfl
  have hcommits : Commits described renamed
      { project with name := "new film", revision := 2 } := ⟨rfl, rfl⟩
  exact absurd (hsound.increases _ hcommits 2 (List.mem_cons_self ..)) (lt_irrefl _)

end HMaigc.Projects
