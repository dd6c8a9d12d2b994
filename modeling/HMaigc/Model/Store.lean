import HMaigc.Sql.Prog
import HMaigc.Model.Credit
import HMaigc.Model.Task
import HMaigc.Model.Team
import HMaigc.Model.Payment
import HMaigc.Model.AgentTree
import HMaigc.Model.Canvas

/-!
# The database

One `Store` holds every table the repository functions touch.  `RowKey` names a row — its table and
its primary key — and `Row` is the type of the rows of that table.

Unique indexes other than primary keys are keys too (`RowKey.index`), under which no row is ever
stored: inserting a row locks the index entries it takes, so that a second insertion of the same
value waits for the first to end, and whether an entry is taken is asked of the rows themselves.
-/

set_option autoImplicit false

namespace HMaigc

open Sql

/-- Entries of the unique indexes besides the primary keys, and the advisory locks. -/
inductive Index where
  | creditLedgerReference (book : Book) (referenceKey : String)
  | billingIdempotency (userID idempotencyKey : String)
  | taskOutboxIdempotency (idempotencyKey : String)
  | checkoutOrder (orderID : String)
  | checkoutToken (tokenHash : String)
  | merchantOrderNo (merchantOrderNo : String)
  | transactionTradeNo (provider : PaymentProvider) (providerTradeNo : String)
  | payableTransaction (orderType : PaymentOrderType) (orderID : String)
  | webhookEvent (provider : PaymentProvider) (providerEventID : String)
  | subscriptionOrder (orderID : String)
  | referralRewardRelationship (relationshipID : String)
  | referralRewardOrder (membershipOrderID : String)
  | pendingInvitation (teamID email : String)
  | invitationToken (tokenHash : String)
  | topupProductCode (code : String)
  | topupOrderNumber (orderNumber : String)
  | topupOrderIdempotency (userID idempotencyKey : String)
  | providerTradeLock (provider : PaymentProvider) (providerTradeNo : String)
  | canvasChangeRevision (canvasID : String) (revision : ℤ)
  | canvasChangeMutation (canvasID clientMutationID : String)
  deriving DecidableEq, Repr

/-- A row of the database: its table and its primary key. -/
inductive RowKey where
  | creditAccount (payer : Payer)
  | creditLedgerEntry (book : Book) (id : String)
  | billingOrder (id : String)
  | user (id : String)
  | team (id : String)
  | teamMember (teamID userID : String)
  | teamInvitation (id : String)
  | teamAuditEvent (id : String)
  | redeemCode (id : String)
  | task (id : String)
  | session (id : String)
  | message (id : String)
  | result (id : String)
  | taskLog (id : String)
  | taskOutbox (id : String)
  | channelModel (id : String)
  | providerAccount (id : String)
  | providerEndpointVersion (id : String)
  | providerCredential (id : String)
  | providerCredentialVersion (id : String)
  | policyPublicationHead (kind : String)
  | policyPublication (id : String)
  | userWatermarkPreference (userID : String)
  | membershipOrder (id : String)
  | creditTopupOrder (id : String)
  | creditTopupProduct (id : String)
  | paymentCheckoutSession (id : String)
  | paymentTransaction (id : String)
  | paymentWebhookEvent (id : String)
  | membershipSubscription (id : String)
  | referralRelationship (id : String)
  | referralReward (id : String)
  | adminAuditEvent (id : String)
  | agentToolCall (id : String)
  | agentSpecialistRun (id : String)
  | agentProductionGraphVersion (id : String)
  | agentProductionStage (id : String)
  | agentArtifactRevision (id : String)
  | agentProductionPlanVersion (id : String)
  | agentProductionArtifact (id : String)
  | canvasProject (id : String)
  | canvasCollaborator (canvasID userID : String)
  | canvasChange (id : String)
  | index (i : Index)
  deriving DecidableEq, Repr

/-- The rows of each table. -/
@[reducible] def Row : RowKey → Type
  | .creditAccount _ => CreditAccount
  | .creditLedgerEntry _ _ => CreditLedgerEntry
  | .billingOrder _ => BillingOrder
  | .user _ => Unit
  | .team _ => Team
  | .teamMember _ _ => TeamMember
  | .teamInvitation _ => TeamInvitation
  | .teamAuditEvent _ => TeamAuditEvent
  | .redeemCode _ => RedeemCode
  | .task _ => Task
  | .session _ => Session
  | .message _ => Message
  | .result _ => TaskResult
  | .taskLog _ => TaskLog
  | .taskOutbox _ => TaskOutbox
  | .channelModel _ => ChannelModel
  | .providerAccount _ => ProviderAccount
  | .providerEndpointVersion _ => ProviderEndpointVersion
  | .providerCredential _ => ProviderCredential
  | .providerCredentialVersion _ => ProviderCredentialVersion
  | .policyPublicationHead _ => PolicyPublicationHead
  | .policyPublication _ => PolicyPublication
  | .userWatermarkPreference _ => UserWatermarkPreference
  | .membershipOrder _ => MembershipOrder
  | .creditTopupOrder _ => CreditTopupOrder
  | .creditTopupProduct _ => CreditTopupProduct
  | .paymentCheckoutSession _ => PaymentCheckoutSession
  | .paymentTransaction _ => PaymentTransaction
  | .paymentWebhookEvent _ => PaymentWebhookEvent
  | .membershipSubscription _ => MembershipSubscription
  | .referralRelationship _ => ReferralRelationship
  | .referralReward _ => ReferralReward
  | .adminAuditEvent _ => AdminAuditEvent
  | .agentToolCall _ => AgentToolCall
  | .agentSpecialistRun _ => AgentSpecialistRun
  | .agentProductionGraphVersion _ => AgentProductionGraphVersion
  | .agentProductionStage _ => AgentProductionStage
  | .agentArtifactRevision _ => AgentArtifactRevision
  | .agentProductionPlanVersion _ => AgentProductionPlanVersion
  | .agentProductionArtifact _ => AgentProductionArtifact
  | .canvasProject _ => CanvasProject
  | .canvasCollaborator _ _ => CanvasCollaborator
  | .canvasChange _ => CanvasChange
  | .index _ => Empty

/-- The database. -/
abbrev Store : Type := Db Row

/-- The errors the repository functions return. -/
inductive RepoError where
  /-- `gorm.ErrRecordNotFound`. -/
  | recordNotFound
  /-- A primary key or another unique index already has the value. -/
  | duplicatedKey
  /-- A `bigint` expression left the range of its type. -/
  | outOfRange
  /-- Any other error, by its text. -/
  | text (message : String)
  deriving DecidableEq, Repr

/-- A transaction body of the repository. -/
abbrev DbTx (α : Type) : Type := Prog Row RepoError α

/-- `tx.First(&row, key)`. -/
abbrev first (k : RowKey) : DbTx (Row k) := Prog.first k .recordNotFound

/-- `tx.Clauses(clause.Locking{Strength: "UPDATE"}).First(&row, key, cond)`. -/
abbrev firstForUpdate (k : RowKey) (cond : Row k → Bool := fun _ ↦ true)
    (missing : RepoError := .recordNotFound) : DbTx (Row k) :=
  Prog.firstForUpdate k cond missing

end HMaigc
