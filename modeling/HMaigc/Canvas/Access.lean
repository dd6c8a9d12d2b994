import HMaigc.Go.Basic
import HMaigc.Repository.Canvas

/-!
# What a user is told he may do on a canvas, and what he may

`service/canvas_collaboration.go` computes a view for the user (`canvasAccess`);
`authorizeCanvasWrite` decides in the transaction of an edit.  They agree on every state the service
can bring about (`authorizeCanvasWrite_iff_canEdit`), not on every state of the tables: a member at
the level of a manager is told that he may edit.
-/

set_option autoImplicit false

namespace HMaigc

open Sql Go

/-- `AuthError`, or any other error by its text. -/
inductive AccessError where
  | auth (status : ℕ) (message : String)
  | text (message : String)
  deriving DecidableEq, Repr

def canvasNotFound : AccessError := .auth 404 "画布不存在"

/-- `teamAccess`. -/
def teamAccess (userID teamID : String) (s : Store) : Except AccessError (Team × TeamMember) :=
  match teamByID (trimSpace teamID) s with
  | none => .error (.auth 404 "团队不存在")
  | some team =>
    match teamMemberForUser (trimSpace teamID) userID s with
    | none => .error (.auth 403 "当前用户不是团队成员")
    | some member => .ok (team, member)

/-- What a user is told about a canvas. -/
structure CanvasAccessView where
  level : CanvasAccessLevel
  teamID : String := ""
  teamName : String := ""
  teamRole : Option TeamMemberRole := none
  canEdit : Bool
  canManage : Bool
  teamSubscriptionActive : Bool
  deriving DecidableEq, Repr

/-- The level of a member on a canvas, before his role is asked for. -/
def memberLevel (canvasID : String) (canvas : CanvasProject) (userID : String) (s : Store) :
    CanvasAccessLevel :=
  ((canvasCollaboratorForUser canvasID userID s).map (·.access)).getD canvas.defaultTeamAccess

/-- `canvasAccess`. -/
def canvasAccess (userID canvasID : String) (now : Time) (s : Store) :
    Except AccessError (CanvasProject × CanvasAccessView) :=
  match canvasProject (trimSpace canvasID) s with
  | none => .error canvasNotFound
  | some canvas =>
    if canvas.teamID = "" then
      if canvas.userID ≠ userID then .error canvasNotFound
      else .ok (canvas,
        { level := .manager, canEdit := true, canManage := true, teamSubscriptionActive := true })
    else match teamAccess userID canvas.teamID s with
      | .error _ => .error canvasNotFound
      | .ok (team, member) =>
        let subscriptionActive := (activeTeamSubscription canvas.teamID now s).isSome
        let level := if canManageTeam member.role then .manager
          else memberLevel (trimSpace canvasID) canvas userID s
        if level ≠ .viewer ∧ level ≠ .editor ∧ level ≠ .manager then
          .error (.text "团队画布权限配置无效")
        else
          let canManage := decide (level = .manager)
          .ok (canvas,
            { level := level, teamID := canvas.teamID, teamName := team.name
              teamRole := some member.role
              canEdit := subscriptionActive && (decide (level = .editor) || canManage)
              canManage := canManage, teamSubscriptionActive := subscriptionActive })

/-! ## Agreement -/

/-- The transaction of an edit lets the user write. -/
def acceptsWrite (canvasID userID : String) (canvas : CanvasProject) (now : Time) (s : Store) :
    Bool :=
  ((authorizeCanvasWrite canvasID canvas userID now).run s).isOk

section Agreement

variable {canvasID userID : String} {canvas : CanvasProject} {now : Time} {s : Store}

/-- What the service stores of a team canvas: a team that exists, and no level above that of an
editor for a member who does not manage the team. -/
structure StoredAccess (canvasID userID : String) (canvas : CanvasProject) (s : Store) : Prop where
  trimmed : trimSpace canvas.teamID = canvas.teamID
  team : canvas.teamID ≠ "" → (teamByID canvas.teamID s).isSome = true
  level : canvas.teamID ≠ "" → ∀ member, teamMemberForUser canvas.teamID userID s = some member →
    canManageTeam member.role = false → memberLevel canvasID canvas userID s ≠ .manager

theorem activeTeamSubscription_isSome {teamID : String} :
    (activeTeamSubscription teamID now s).isSome = true ↔
      (subscriptionsInForce teamID now s).length ≠ 0 := by
  rw [activeTeamSubscription, Option.isSome_iff_ne_none, Ne, Db.firstBy_eq_none, Ne,
    List.length_eq_zero_iff]

/-- Who may edit a team canvas. -/
def MayEdit (canvasID userID : String) (canvas : CanvasProject) (now : Time) (s : Store) : Prop :=
  ∃ member, teamMemberForUser canvas.teamID userID s = some member ∧
    (activeTeamSubscription canvas.teamID now s).isSome = true ∧
      (canManageTeam member.role = true ∨ memberLevel canvasID canvas userID s = .editor)

theorem acceptsWrite_personal (h : canvas.teamID = "") :
    acceptsWrite canvasID userID canvas now s = true ↔ canvas.userID = userID := by
  rw [acceptsWrite, authorizeCanvasWrite, if_pos h]
  by_cases howner : canvas.userID = userID
  · rw [if_neg (not_not.mpr howner)]
    exact iff_of_true rfl howner
  · rw [if_pos howner]
    exact iff_of_false Bool.false_ne_true howner

/-- **What the transaction asks of a team canvas.** -/
theorem acceptsWrite_team (h : canvas.teamID ≠ "") :
    acceptsWrite canvasID userID canvas now s = true ↔ MayEdit canvasID userID canvas now s := by
  have hsubscribed : (activeTeamSubscription canvas.teamID now s).isSome = true ↔
      (subscriptionsInForce canvas.teamID now s).length ≠ 0 := activeTeamSubscription_isSome
  have hrefused : ∀ e : RepoError, ¬ ((Prog.fail e : DbTx Unit).run s).isOk = true :=
    fun e ↦ Bool.false_ne_true
  rw [acceptsWrite, authorizeCanvasWrite, if_neg h, Prog.run_query_bind]
  cases hmember : teamMemberForUser canvas.teamID userID s with
  | none =>
    refine iff_of_false (hrefused _) ?_
    rintro ⟨member, hmember', -⟩
    rw [hmember] at hmember'
    cases hmember'
  | some member =>
    have hmay : MayEdit canvasID userID canvas now s ↔
        (activeTeamSubscription canvas.teamID now s).isSome = true ∧
          (canManageTeam member.role = true ∨ memberLevel canvasID canvas userID s = .editor) := by
      simp [MayEdit, hmember]
    rw [hmay, hsubscribed, Prog.run_query_bind]
    by_cases hcount : (subscriptionsInForce canvas.teamID now s).length = 0
    · rw [if_pos hcount]
      exact iff_of_false (hrefused _) fun h ↦ h.1 hcount
    rw [if_neg hcount]
    by_cases hrole : canManageTeam member.role = true
    · rw [hrole]
      exact iff_of_true rfl ⟨hcount, .inl rfl⟩
    · rw [Bool.not_eq_true] at hrole
      rw [hrole, Bool.not_false, if_pos rfl, Prog.run_query_bind]
      change ((if memberLevel canvasID canvas userID s ≠ .editor then
        Prog.fail errCanvasWriteForbidden else Prog.done () : DbTx Unit).run s).isOk = true ↔ _
      by_cases hlevel : memberLevel canvasID canvas userID s = .editor
      · rw [if_neg (not_not.mpr hlevel)]
        exact iff_of_true rfl ⟨hcount, .inr hlevel⟩
      · rw [if_pos hlevel]
        exact iff_of_false (hrefused _) fun h ↦ by simpa [hlevel] using h.2

/-! ### What the user is told -/

/-- **What the view says of a team canvas.** -/
theorem canvasAccess_canEdit_iff (hcanvas : canvasProject (trimSpace canvasID) s = some canvas)
    (hteam : canvas.teamID ≠ "")
    (hstored : StoredAccess (trimSpace canvasID) userID canvas s) :
    (∃ view, canvasAccess userID canvasID now s = .ok (canvas, view) ∧ view.canEdit = true) ↔
      MayEdit (trimSpace canvasID) userID canvas now s := by
  obtain ⟨team, hfound⟩ := Option.isSome_iff_exists.mp (hstored.team hteam)
  have htrimmed := hstored.trimmed
  have hlevel := hstored.level hteam
  cases hmember : teamMemberForUser canvas.teamID userID s with
  | none =>
    refine iff_of_false ?_ ?_
    · rintro ⟨view, hview, -⟩
      simp [canvasAccess, hcanvas, hteam, teamAccess, htrimmed, hfound, hmember] at hview
    · rintro ⟨member, hmember', -⟩
      rw [hmember] at hmember'
      cases hmember'
  | some member =>
    have haccess : teamAccess userID canvas.teamID s = .ok (team, member) := by
      simp [teamAccess, htrimmed, hfound, hmember]
    have hmay : MayEdit (trimSpace canvasID) userID canvas now s ↔
        (activeTeamSubscription canvas.teamID now s).isSome = true ∧
          (canManageTeam member.role = true ∨
            memberLevel (trimSpace canvasID) canvas userID s = .editor) := by
      simp [MayEdit, hmember]
    rw [hmay]
    simp only [canvasAccess, hcanvas, if_neg hteam, haccess]
    by_cases hrole : canManageTeam member.role = true
    · simp [hrole]
    · have hnot := hlevel member hmember (by simpa using hrole)
      simp only [hrole, Bool.false_eq_true, if_false, false_or]
      -- the level is stored as one of the first two, or as a text no view is given for
      cases hl : memberLevel (trimSpace canvasID) canvas userID s with
      | viewer => simp
      | editor => simp
      | manager => exact absurd hl hnot
      | other text => simp

/-- **What the user is told and what the edit asks agree**: on a canvas whose team and levels are as
the service stores them, an edit is let through exactly when the user is told that he may edit. -/
theorem authorizeCanvasWrite_iff_canEdit
    (hcanvas : canvasProject (trimSpace canvasID) s = some canvas)
    (hstored : StoredAccess (trimSpace canvasID) userID canvas s) :
    acceptsWrite (trimSpace canvasID) userID canvas now s = true ↔
      ∃ view, canvasAccess userID canvasID now s = .ok (canvas, view) ∧ view.canEdit = true := by
  by_cases hteam : canvas.teamID = ""
  · rw [acceptsWrite_personal hteam]
    by_cases howner : canvas.userID = userID
    · refine iff_of_true howner ?_
      simp [canvasAccess, hcanvas, hteam, howner]
    · refine iff_of_false howner ?_
      rintro ⟨view, hview, -⟩
      simp [canvasAccess, hcanvas, hteam, howner] at hview
  · rw [acceptsWrite_team hteam, canvasAccess_canEdit_iff hcanvas hteam hstored]

end Agreement

/-- A team canvas with a default level. -/
def sharedCanvas (level : CanvasAccessLevel) : CanvasProject :=
  { userID := "owner", teamID := "team", defaultTeamAccess := level }

/-- Its team, with a subscription in force and one plain member. -/
def sharingTeam (level : CanvasAccessLevel) : Store :=
  (((((∅ : Store).insert (.canvasProject "canvas") (sharedCanvas level)).insert (.team "team")
    ({ } : Team)).insert (.teamMember "team" "member") ({ } : TeamMember)).insert
      (.membershipSubscription "subscription")
      ({ userID := "owner", teamID := "team" } : MembershipSubscription))

theorem authorizeCanvasWrite_iff_canEdit_editor :
    acceptsWrite (trimSpace "canvas") "member" (sharedCanvas .editor) 0 (sharingTeam .editor) =
        true ↔
      ∃ view, canvasAccess "member" "canvas" 0 (sharingTeam .editor) =
        .ok (sharedCanvas .editor, view) ∧ view.canEdit = true :=
  authorizeCanvasWrite_iff_canEdit (by decide)
    { trimmed := by decide, team := fun _ ↦ by decide, level := fun _ _ _ _ ↦ by decide }

/-- What a member of a team of managers is told. -/
def managedView : CanvasAccessView :=
  { level := .manager, teamID := "team", teamRole := some .member
    canEdit := true, canManage := true, teamSubscriptionActive := true }

/-- **At the level of a manager** a plain member is told that he may edit, and may not. -/
theorem exists_canEdit_forbidden :
    canvasProject (trimSpace "canvas") (sharingTeam .manager) = some (sharedCanvas .manager) ∧
      ¬(acceptsWrite (trimSpace "canvas") "member" (sharedCanvas .manager) 0
          (sharingTeam .manager) = true ↔
        ∃ view, canvasAccess "member" "canvas" 0 (sharingTeam .manager) =
          .ok (sharedCanvas .manager, view) ∧ view.canEdit = true) := by
  refine ⟨by decide, fun h ↦ ?_⟩
  have htold : canvasAccess "member" "canvas" 0 (sharingTeam .manager) =
      .ok (sharedCanvas .manager, managedView) := by decide
  have hforbidden : acceptsWrite (trimSpace "canvas") "member" (sharedCanvas .manager) 0
      (sharingTeam .manager) = false := by decide
  rw [h.mpr ⟨managedView, htold, rfl⟩] at hforbidden
  cases hforbidden

end HMaigc
