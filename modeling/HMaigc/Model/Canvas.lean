import HMaigc.Go.Basic

/-!
# Canvases and who may work on them

A canvas belongs to a user; with a `teamID` it is shared with the members of that team, each at the
level of his own row of `canvas_collaborators`, or at the canvas's default.  Every accepted edit is
kept as a `CanvasChange`.
-/

set_option autoImplicit false

namespace HMaigc

open Go

/-- A level; the column holds a text, and may hold any. -/
inductive CanvasAccessLevel where
  | viewer
  | editor
  | manager
  | other (text : String)
  deriving DecidableEq, Repr

structure CanvasProject where
  userID : String
  teamID : String := ""
  projectID : String := ""
  title : String := ""
  payloadJSON : String := ""
  revision : ℤ := 0
  defaultTeamAccess : CanvasAccessLevel := .other ""
  updatedByUserID : String := ""
  deriving DecidableEq, Repr

/-- A member's own level on a canvas. -/
structure CanvasCollaborator where
  access : CanvasAccessLevel
  deriving DecidableEq, Repr

/-- An accepted edit. -/
structure CanvasChange where
  canvasID : String
  revision : ℤ
  actorUserID : String
  clientMutationID : String
  payloadJSON : String
  deriving DecidableEq, Repr

end HMaigc
