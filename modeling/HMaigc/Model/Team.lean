import HMaigc.Model.Credit

/-!
# Teams and their invitations

A team has members (`TeamMember`) and invitations.  An invitation is addressed to an e-mail and
reserves a seat until it is accepted, revoked or expires.
-/

set_option autoImplicit false

namespace HMaigc

open Go

inductive TeamStatus where
  | active
  | disabled
  deriving DecidableEq, Repr

structure Team where
  name : String := ""
  status : TeamStatus := .active
  deriving DecidableEq, Repr

inductive TeamInvitationStatus where
  | pending
  | accepted
  | revoked
  | expired
  deriving DecidableEq, Repr

structure TeamInvitation where
  teamID : String
  inviterUserID : String := ""
  email : String
  role : TeamMemberRole := .member
  status : TeamInvitationStatus := .pending
  tokenHash : String
  expiresAt : Time
  acceptedByUserID : String := ""
  acceptedAt : Option Time := none
  revokedAt : Option Time := none
  deriving DecidableEq, Repr

structure TeamAuditEvent where
  teamID : String := ""
  actorUserID : String := ""
  action : String := ""
  targetUserID : String := ""
  targetInvitationID : String := ""
  metadataJSON : String := ""
  deriving DecidableEq, Repr

end HMaigc
