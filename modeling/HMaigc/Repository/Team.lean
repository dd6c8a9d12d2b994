import HMaigc.Repository.Finance

/-!
# Members and invitations of a team

`repository/team.go`: inviting, inviting again, accepting and revoking, and what changes members.

A seat is taken by an active member and by an invitation that is pending and has not expired.  Two
functions count them: `createTeamInvitation` counts both, `acceptTeamInvitation` the members only.
All functions that count or give out seats begin by locking the team (`lockTeam`);
`removeTeamMember` and the two updates of a member do not.
-/

set_option autoImplicit false

namespace HMaigc

open Sql Go

def errTeamInvitationNotPending : RepoError := .text "team invitation is not pending"

def errTeamInvitationEmailMismatch : RepoError := .text "team invitation email does not match"

def errTeamMemberAlreadyActive : RepoError := .text "team member is already active"

def errTeamMemberNotActive : RepoError := .text "team member is not active"

def errTeamOwnerImmutable : RepoError := .text "team owner is immutable"

def errTeamSubscriptionRequired : RepoError := .text "active team subscription is required"

def errTeamSeatLimitReached : RepoError := .text "team seat limit reached"

def errTeamInvitationAlreadyExists : RepoError := .text "team invitation already exists"

def errTeamMemberVersionConflict : RepoError := .text "team member version conflict"

/-! ## What is counted -/

/-- The invitation is pending and addressed from this team. -/
def TeamInvitation.isPendingFor (invitation : TeamInvitation) (teamID : String) : Bool :=
  invitation.teamID = teamID && invitation.status = .pending

/-- The active members of a team. -/
def isActiveMember (teamID : String) : ∀ k, Row k → Bool
  | .teamMember teamID' _, m => teamID' = teamID && m.status = .active
  | _, _ => false

/-- The invitations of a team that are pending and have not expired at `now`. -/
def isReservedInvitation (teamID : String) (now : Time) : ∀ k, Row k → Bool
  | .teamInvitation _, i => i.isPendingFor teamID && now < i.expiresAt
  | _, _ => false

def activeMembers (teamID : String) (s : Store) : ℕ := s.count (isActiveMember teamID)

def reservedInvitations (teamID : String) (now : Time) (s : Store) : ℕ :=
  s.count (isReservedInvitation teamID now)

/-! ## The team and its subscription -/

/-- `lockTeam`. -/
def lockTeam (teamID : String) : DbTx Unit := do
  let _ ← firstForUpdate (.team teamID) fun t ↦ t.status = .active

namespace MembershipSubscription

/-- The subscription is the team's, active and running at `now`. -/
def isInForce (subscription : MembershipSubscription) (teamID : String) (now : Time) : Bool :=
  subscription.teamID = teamID && subscription.status = .active && subscription.startsAt ≤ now &&
    subscription.endsAt.all (now < ·)

/-- `ORDER BY seats DESC, created_at DESC`, and by key. -/
def precedes (a b : String × MembershipSubscription) : Bool :=
  b.2.seats < a.2.seats || b.2.seats = a.2.seats &&
    (b.2.createdAt < a.2.createdAt || b.2.createdAt = a.2.createdAt && a.1 < b.1)

end MembershipSubscription

/-- The subscriptions of a team that are in force. -/
def subscriptionsInForce (teamID : String) (now : Time) (s : Store) :
    List (String × MembershipSubscription) :=
  s.select fun
    | .membershipSubscription id, sub => if sub.isInForce teamID now then some (id, sub) else none
    | _, _ => none

/-- `activeTeamSubscription`. -/
def activeTeamSubscription (teamID : String) (now : Time) (s : Store) :
    Option (String × MembershipSubscription) :=
  Db.firstBy MembershipSubscription.precedes (subscriptionsInForce teamID now s)

/-- `activeTeamSubscription` in a transaction, where a missing subscription is an error. -/
def requireTeamSubscription (teamID : String) (now : Time) : DbTx MembershipSubscription := do
  let some (_, subscription) ← Prog.query (activeTeamSubscription teamID now)
    | throw errTeamSubscriptionRequired
  return subscription

/-! ## Invitations -/

/-- `expireTeamInvitations`. -/
def expireTeamInvitations (teamID : String) (now : Time) : DbTx Unit := do
  let _ ← Prog.updateAll fun
    | .teamInvitation _, i =>
      if i.isPendingFor teamID ∧ i.expiresAt ≤ now then some { i with status := .expired }
      else none
    | _, _ => none

/-- `tx.Create(audit)`. -/
def createTeamAuditEvent (id : String) (audit : TeamAuditEvent) : DbTx Unit :=
  Prog.create (.teamAuditEvent id) audit .duplicatedKey

/-- The index entries of an invitation: its token, and while it is pending its address. -/
def TeamInvitation.entries (invitation : TeamInvitation) : List RowKey :=
  .index (.invitationToken invitation.tokenHash) ::
    if invitation.status = .pending then
      [.index (.pendingInvitation invitation.teamID invitation.email.toLower)]
    else []

/-- Another invitation has the token. -/
def invitationTokenTaken (id tokenHash : String) (s : Store) : Bool :=
  s.any fun
    | .teamInvitation id', i => id' ≠ id && i.tokenHash = tokenHash
    | _, _ => false

/-- The keys of the pending invitations of a team to an address. -/
def pendingInvitationsTo (teamID email : String) (s : Store) : List RowKey :=
  s.select fun
    | .teamInvitation id, i =>
      if i.isPendingFor teamID ∧ i.email.toLower = email.toLower then some (.teamInvitation id)
      else none
    | _, _ => none

/-- `tx.Create(invitation)`. -/
def createInvitationRow (id : String) (invitation : TeamInvitation) : DbTx Unit :=
  Prog.create (.teamInvitation id) invitation .duplicatedKey invitation.entries fun v ↦
    invitationTokenTaken id invitation.tokenHash v ||
      invitation.status = .pending &&
        !(pendingInvitationsTo invitation.teamID invitation.email v).isEmpty

/-- `CreateTeamInvitation`. -/
def createTeamInvitation (id : String) (invitation : TeamInvitation) (targetUserID : String)
    (auditID : String) (audit : TeamAuditEvent) (now : Time) : DbTx Unit := do
  lockTeam invitation.teamID
  expireTeamInvitations invitation.teamID now
  let subscription ← requireTeamSubscription invitation.teamID now
  if targetUserID ≠ "" then
    let active ← Prog.query fun v ↦
      (v.lookup (.teamMember invitation.teamID targetUserID)).any (·.status = .active)
    if active then
      throw errTeamMemberAlreadyActive
  expireTeamInvitations invitation.teamID now
  let existing ← Prog.queryForUpdate (pendingInvitationsTo invitation.teamID invitation.email)
    fun v ↦ (pendingInvitationsTo invitation.teamID invitation.email v).head?
  if existing.isSome then
    throw errTeamInvitationAlreadyExists
  let members ← Prog.query (activeMembers invitation.teamID)
  let reserved ← Prog.query (reservedInvitations invitation.teamID now)
  if (members : ℤ) + reserved ≥ subscription.seats then
    throw errTeamSeatLimitReached
  createInvitationRow id invitation
  createTeamAuditEvent auditID { audit with targetInvitationID := id }

/-- The columns `RegenerateTeamInvitation` sets. -/
def TeamInvitation.regenerate (invitation : TeamInvitation) (inviterUserID tokenHash : String)
    (expiresAt : Time) : TeamInvitation :=
  { invitation with
    inviterUserID := inviterUserID
    tokenHash := tokenHash
    expiresAt := expiresAt }

/-- `RegenerateTeamInvitation`. -/
def regenerateTeamInvitation (teamID id inviterUserID tokenHash : String) (expiresAt : Time)
    (auditID : String) (audit : TeamAuditEvent) (now : Time) : DbTx Unit := do
  lockTeam teamID
  let invitation ← firstForUpdate (.teamInvitation id) fun i ↦ i.teamID = teamID
  if invitation.status ≠ .pending ∨ invitation.expiresAt ≤ now then
    throw errTeamInvitationNotPending
  let rows ← Prog.updateUnique (.teamInvitation id) (fun i ↦ i.status = .pending)
    (fun i ↦ i.regenerate inviterUserID tokenHash expiresAt) .duplicatedKey
    (fun _ ↦ [.index (.invitationToken tokenHash)]) fun _ ↦ invitationTokenTaken id tokenHash
  if rows ≠ 1 then throw errTeamInvitationNotPending
  createTeamAuditEvent auditID { audit with targetInvitationID := id }

/-- The columns that mark an invitation accepted. -/
def TeamInvitation.accept (invitation : TeamInvitation) (userID : String) (now : Time) :
    TeamInvitation :=
  { invitation with
    status := .accepted
    acceptedByUserID := userID
    acceptedAt := some now }

/-- The invitation `AcceptTeamInvitation` is about, by its identifier or by its token. -/
def invitationReference (id tokenHash : String) (s : Store) : Option (String × TeamInvitation) :=
  if id ≠ "" then (s.lookup (.teamInvitation id)).map fun i ↦ (id, i)
  else
    (s.select fun
      | .teamInvitation id, i => if i.tokenHash = tokenHash then some (id, i) else none
      | _, _ => none).head?

/-- What `AcceptTeamInvitation` makes of the member's row. -/
def admitTeamMember (teamID userID memberID : String) (role : TeamMemberRole) (now : Time) :
    Option TeamMember → DbTx Unit
  | none =>
    Prog.create (.teamMember teamID userID) { id := memberID, role := role, updatedAt := now }
      .duplicatedKey
  | some _ => do
    let _ ← Prog.update (.teamMember teamID userID) (fun _ ↦ true) fun m ↦
      .ok { m with role := role, status := .active, updatedAt := now }

/-- `AcceptTeamInvitation`. -/
def acceptTeamInvitation (id tokenHash memberID userID email auditID : String)
    (audit : TeamAuditEvent) (now : Time) : DbTx Unit := do
  let some (id, reference) ← Prog.query (invitationReference id tokenHash)
    | throw RepoError.recordNotFound
  lockTeam reference.teamID
  let invitation ← firstForUpdate (.teamInvitation id)
  if invitation.status ≠ .pending ∨ invitation.expiresAt ≤ now then
    throw errTeamInvitationNotPending
  if invitation.email ≠ email then
    throw errTeamInvitationEmailMismatch
  let subscription ← requireTeamSubscription invitation.teamID now
  let existing ← Prog.query fun v ↦ v.lookup (.teamMember invitation.teamID userID)
  if existing.any (·.status = .active) then
    throw errTeamMemberAlreadyActive
  let members ← Prog.query (activeMembers invitation.teamID)
  if (members : ℤ) ≥ subscription.seats then
    throw errTeamSeatLimitReached
  admitTeamMember invitation.teamID userID memberID invitation.role now existing
  let rows ← Prog.update (.teamInvitation id) (fun i ↦ i.status = .pending) fun i ↦
    .ok (i.accept userID now)
  if rows ≠ 1 then throw errTeamInvitationNotPending
  createTeamAuditEvent auditID
    { audit with
      teamID := invitation.teamID
      targetUserID := userID
      targetInvitationID := id }

/-- The columns that revoke an invitation. -/
def TeamInvitation.revoke (invitation : TeamInvitation) (now : Time) : TeamInvitation :=
  { invitation with status := .revoked, revokedAt := some now }

/-- `RevokeTeamInvitation`. -/
def revokeTeamInvitation (teamID id auditID : String) (audit : TeamAuditEvent) (now : Time) :
    DbTx Unit := do
  lockTeam teamID
  expireTeamInvitations teamID now
  let invitation ← firstForUpdate (.teamInvitation id) fun i ↦ i.teamID = teamID
  if invitation.status ≠ .pending ∨ invitation.expiresAt ≤ now then
    throw errTeamInvitationNotPending
  let rows ← Prog.update (.teamInvitation id) (fun i ↦ i.status = .pending) fun i ↦
    .ok (i.revoke now)
  if rows ≠ 1 then throw errTeamInvitationNotPending
  createTeamAuditEvent auditID { audit with targetInvitationID := id }

/-- `PendingTeamInvitations`, which expires the invitations it does not list. -/
def pendingTeamInvitations (teamID : String) (now : Time) : DbTx Unit := do
  lockTeam teamID
  expireTeamInvitations teamID now

/-! ## Members -/

/-- The active member of a team with an identifier, and the user. -/
def activeMemberByID (teamID memberID : String) (s : Store) : Option (String × TeamMember) :=
  (s.select fun
    | .teamMember teamID' userID, m =>
      if teamID' = teamID ∧ m.id = memberID ∧ m.status = .active then some (userID, m) else none
    | _, _ => none).head?

/-- `SELECT … FOR UPDATE` of the active member of a team with an identifier, who must not be the
owner; the result is the user. -/
def lockChangeableMember (teamID memberID : String) : DbTx String := do
  let some (userID, member) ← Prog.queryForUpdate
      (fun v ↦ (activeMemberByID teamID memberID v).elim [] fun m ↦ [.teamMember teamID m.1])
      (activeMemberByID teamID memberID)
    | throw RepoError.recordNotFound
  if member.role = .owner then
    throw errTeamOwnerImmutable
  return userID

/-- `UpdateTeamMemberRole`. -/
def updateTeamMemberRole (teamID memberID : String) (role : TeamMemberRole) (auditID : String)
    (audit : TeamAuditEvent) (now : Time) : DbTx Unit := do
  let userID ← lockChangeableMember teamID memberID
  let _ ← Prog.update (.teamMember teamID userID) (fun _ ↦ true) fun m ↦
    .ok { m with role := role, updatedAt := now }
  createTeamAuditEvent auditID { audit with targetUserID := userID }

/-- `UpdateTeamMemberPolicy`. -/
def updateTeamMemberPolicy (teamID memberID : String) (role : TeamMemberRole) (monthlyLimit : ℤ)
    (expectedUpdatedAt : Time) (auditID : String) (audit : TeamAuditEvent) (now : Time) :
    DbTx Unit := do
  let some (userID, _) ← Prog.query (activeMemberByID teamID memberID)
    | throw RepoError.recordNotFound
  let rows ← Prog.update (.teamMember teamID userID)
    (fun m ↦ m.id = memberID && m.status = .active && m.role ≠ .owner &&
      m.updatedAt = expectedUpdatedAt)
    fun m ↦ .ok { m with
      role := role
      monthlyCreditLimitMicrocredits := monthlyLimit
      updatedAt := now }
  if rows ≠ 1 then
    let some (_, current) ← Prog.query (activeMemberByID teamID memberID)
      | throw RepoError.recordNotFound
    if current.role = .owner then
      throw errTeamOwnerImmutable
    throw errTeamMemberVersionConflict
  createTeamAuditEvent auditID audit

/-- `RemoveTeamMember`. -/
def removeTeamMember (teamID memberID auditID : String) (audit : TeamAuditEvent) (now : Time) :
    DbTx Unit := do
  let userID ← lockChangeableMember teamID memberID
  let rows ← Prog.update (.teamMember teamID userID) (fun m ↦ m.status = .active) fun m ↦
    .ok { m with status := .removed, updatedAt := now }
  if rows ≠ 1 then throw errTeamMemberNotActive
  createTeamAuditEvent auditID { audit with targetUserID := userID }

/-- `RenameTeam`. -/
def renameTeam (teamID name auditID : String) (audit : TeamAuditEvent) : DbTx Unit := do
  let rows ← Prog.update (.team teamID) (fun t ↦ t.status = .active) fun t ↦
    .ok { t with name := name }
  if rows ≠ 1 then throw RepoError.recordNotFound
  createTeamAuditEvent auditID audit

end HMaigc
