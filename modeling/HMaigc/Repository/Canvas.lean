import HMaigc.Repository.Team

/-!
# Who may read and edit a canvas, and the edits

`repository/canvas_collaboration.go`.  An edit is one transaction, `commitCanvasChangeTx`: it locks
the canvas, asks whether its author may write, answers an edit that was accepted before with the one
on record, and otherwise moves the canvas from the base revision to the next.
-/

set_option autoImplicit false

namespace HMaigc

open Sql Go

def errCanvasWriteForbidden : RepoError := .text "canvas write forbidden"

def errCanvasPlanInactive : RepoError := .text "canvas team subscription inactive"

def errCanvasMutationMismatch : RepoError :=
  .text "canvas mutation id was reused with different content"

def errCanvasRevisionConflict : RepoError := .text "canvas revision conflict"

/-- `CanvasProject`. -/
def canvasProject (id : String) (s : Store) : Option CanvasProject := s.lookup (.canvasProject id)

/-- `Team`. -/
def teamByID (id : String) (s : Store) : Option Team := s.lookup (.team id)

/-- `TeamMemberForUser`: the member, while active. -/
def teamMemberForUser (teamID userID : String) (s : Store) : Option TeamMember :=
  (s.lookup (.teamMember teamID userID)).filter (·.status = .active)

/-- `CanvasCollaboratorForUser`. -/
def canvasCollaboratorForUser (canvasID userID : String) (s : Store) : Option CanvasCollaborator :=
  s.lookup (.canvasCollaborator canvasID userID)

/-- `canManageTeam`. -/
def canManageTeam (role : TeamMemberRole) : Bool := role = .owner || role = .admin

/-- `authorizeCanvasWrite`. -/
def authorizeCanvasWrite (canvasID : String) (canvas : CanvasProject) (actorUserID : String)
    (now : Time) : DbTx Unit := do
  if canvas.teamID = "" then
    if canvas.userID ≠ actorUserID then throw errCanvasWriteForbidden
  else
    let some member ← Prog.query (teamMemberForUser canvas.teamID actorUserID)
      | throw errCanvasWriteForbidden
    let subscriptions ← Prog.query fun v ↦ (subscriptionsInForce canvas.teamID now v).length
    if subscriptions = 0 then throw errCanvasPlanInactive
    if !canManageTeam member.role then
      let collaborator ← Prog.query (canvasCollaboratorForUser canvasID actorUserID)
      let level := (collaborator.map (·.access)).getD canvas.defaultTeamAccess
      if level ≠ .editor then throw errCanvasWriteForbidden

/-! ## Edits -/

/-- What an edit asks for; `apply` is the patch, on the canvas as it is under the lock. -/
structure CanvasChangeInput where
  changeID : String
  actorUserID : String
  baseRevision : ℤ
  clientMutationID : String
  changePayloadJSON : String
  now : Time
  apply : CanvasProject → Except RepoError (String × String)

structure CanvasChangeCommit where
  project : CanvasProject
  changeID : String
  change : CanvasChange
  deriving DecidableEq, Repr

/-- The edit is the one of a mutation on a canvas. -/
def CanvasChange.IsOf (change : CanvasChange) (canvasID clientMutationID : String) : Prop :=
  change.canvasID = canvasID ∧ change.clientMutationID = clientMutationID

instance (change : CanvasChange) (canvasID clientMutationID : String) :
    Decidable (change.IsOf canvasID clientMutationID) :=
  inferInstanceAs (Decidable (_ ∧ _))

/-- `canvas_id = ? AND client_mutation_id = ?`. -/
def canvasChangesOf (canvasID clientMutationID : String) (s : Store) :
    List (String × CanvasChange) :=
  s.select fun
    | .canvasChange id, change =>
      if change.IsOf canvasID clientMutationID then some (id, change) else none
    | _, _ => none

/-- The accepted edit of a mutation. -/
def canvasChangeByMutation (canvasID clientMutationID : String) (s : Store) :
    Option (String × CanvasChange) :=
  Db.firstBy (fun x y ↦ x.1 < y.1) (canvasChangesOf canvasID clientMutationID s)

/-- The canvas after an edit with the given payload and title. -/
def CanvasProject.advanced (canvas : CanvasProject) (payloadJSON title actorUserID : String) :
    CanvasProject :=
  { canvas with
    payloadJSON := payloadJSON
    title := title
    revision := canvas.revision + 1
    updatedByUserID := actorUserID }

/-- `tx.Create(change)`, within the two unique indexes of the table. -/
def createCanvasChange (id : String) (change : CanvasChange) : DbTx Unit :=
  Prog.create (.canvasChange id) change .duplicatedKey
    [.index (.canvasChangeRevision change.canvasID change.revision),
      .index (.canvasChangeMutation change.canvasID change.clientMutationID)]
    fun v ↦ v.any fun
      | .canvasChange _, c => c.canvasID = change.canvasID ∧
          (c.revision = change.revision ∨ c.clientMutationID = change.clientMutationID)
      | _, _ => false

/-- The part of `commitCanvasChangeTx` that makes a new edit. -/
def advanceCanvas (canvasID : String) (current : CanvasProject) (input : CanvasChangeInput) :
    DbTx CanvasChangeCommit := do
  if current.revision ≠ input.baseRevision then throw errCanvasRevisionConflict
  else match input.apply current with
    | .error e => throw e
    | .ok (payloadJSON, title) => do
      let rows ← Prog.update (.canvasProject canvasID) (·.revision = current.revision) fun canvas ↦
        .ok { canvas with
          payloadJSON := payloadJSON
          title := title
          revision := current.revision + 1
          updatedByUserID := input.actorUserID }
      if rows ≠ 1 then throw errCanvasRevisionConflict
      let change : CanvasChange :=
        { canvasID := canvasID, revision := current.revision + 1
          actorUserID := input.actorUserID, clientMutationID := input.clientMutationID
          payloadJSON := input.changePayloadJSON }
      createCanvasChange input.changeID change
      return ⟨current.advanced payloadJSON title input.actorUserID, input.changeID, change⟩

/-- `commitCanvasChangeTx`. -/
def commitCanvasChangeTx (canvasID : String) (input : CanvasChangeInput) :
    DbTx CanvasChangeCommit := do
  let current ← Prog.firstForUpdate (.canvasProject canvasID) (fun _ ↦ true) RepoError.recordNotFound
  authorizeCanvasWrite canvasID current input.actorUserID input.now
  match ← Prog.query (canvasChangeByMutation canvasID input.clientMutationID) with
  | some (id, duplicate) =>
    if duplicate.actorUserID ≠ input.actorUserID ∨
        duplicate.payloadJSON ≠ input.changePayloadJSON then
      throw errCanvasMutationMismatch
    else return ⟨current, id, duplicate⟩
  | none => advanceCanvas canvasID current input

end HMaigc
