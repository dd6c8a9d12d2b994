import HMaigc.Go.Basic

/-!
# Credit accounts, ledgers and billing orders

The records behind a user's or a team's credits, with the fields the repository functions read and
write.  Amounts are microcredits and every amount column is a 64-bit integer.

Personal credits (`credit_accounts`, `credit_ledger_entries`) and team credits
(`team_credit_accounts`, `team_credit_ledger_entries`) are two pairs of tables with the same
columns; a `Payer` says which pair and whose row, and the two members of each pair share one record
type here.  `BillingOrder.payer` is the one place where the choice is made: an order with a
non-empty `teamID` is paid by the team, any other by its user.
-/

set_option autoImplicit false

namespace HMaigc

open Go

/-- Who pays: a user from the personal account, or a team from the team account. -/
inductive Payer where
  | user (userID : String)
  | team (teamID : String)
  deriving DecidableEq, Repr

/-- The two ledger tables. -/
inductive Book where
  | personal
  | team
  deriving DecidableEq, Repr

/-- The ledger table a payer's entries go to. -/
def Payer.book : Payer → Book
  | .user _ => .personal
  | .team _ => .team

inductive BillingStatus where
  | reserved
  | running
  | settled
  | refunded
  | uncertain
  deriving DecidableEq, Repr

/-- The statuses in which an order still holds its reservation. -/
def BillingStatus.isOpen : BillingStatus → Bool
  | .reserved | .running | .uncertain => true
  | .settled | .refunded => false

@[simp] theorem isOpen_reserved : BillingStatus.reserved.isOpen = true := rfl

@[simp] theorem isOpen_running : BillingStatus.running.isOpen = true := rfl

@[simp] theorem isOpen_uncertain : BillingStatus.uncertain.isOpen = true := rfl

@[simp] theorem isOpen_settled : BillingStatus.settled.isOpen = false := rfl

@[simp] theorem isOpen_refunded : BillingStatus.refunded.isOpen = false := rfl

inductive CreditLedgerType where
  | redeem
  | adminGrant
  | reserve
  | consume
  | release
  | refund
  | adminAdjust
  | signupBonus
  | membership
  | checkinBonus
  | referralInviter
  | referralInvitee
  | topup
  deriving DecidableEq, Repr

/-- `CreditAccount` and `TeamCreditAccount`. -/
structure CreditAccount where
  availableMicrocredits : ℤ := 0
  reservedMicrocredits : ℤ := 0
  deriving DecidableEq, Repr

/-- `CreditLedgerEntry` and `TeamCreditLedgerEntry`.  `payer` is the `UserID` of the one and the
`TeamID` of the other; `redeemCodeID` exists in the personal table only. -/
structure CreditLedgerEntry where
  payer : Payer
  type : CreditLedgerType
  amountMicrocredits : ℤ := 0
  availableDeltaMicrocredits : ℤ := 0
  reservedDeltaMicrocredits : ℤ := 0
  availableAfterMicrocredits : ℤ := 0
  reservedAfterMicrocredits : ℤ := 0
  billingOrderID : String := ""
  redeemCodeID : String := ""
  actorUserID : String := ""
  model : String := ""
  channelID : String := ""
  scene : String := ""
  note : String := ""
  referenceKey : Option String := none
  deriving DecidableEq, Repr

structure BillingOrder where
  userID : String
  teamID : String := ""
  idempotencyKey : String := ""
  taskID : String := ""
  channelID : String := ""
  channelModelID : String := ""
  model : String := ""
  capability : String := ""
  scene : String := ""
  billingMode : String := ""
  amountMicrocredits : ℤ
  reservedAmountMicrocredits : ℤ := 0
  inputTokens : ℤ := 0
  cachedTokens : ℤ := 0
  outputTokens : ℤ := 0
  tokenUsageStatus : String := ""
  providerBillingOrderID : String := ""
  providerBillingAmount : ℤ := 0
  providerBillingStatus : String := ""
  providerBillingUnit : String := ""
  providerBillingTotalTokens : ℤ := 0
  providerTaskStatus : String := ""
  providerEndpointVersionID : String := ""
  providerCredentialVersionID : String := ""
  nextReconcileAt : Option Time := none
  reconcileAttempts : ℕ := 0
  reconcileLeaseOwner : String := ""
  reconcileLeaseToken : String := ""
  reconcileLeaseExpiresAt : Option Time := none
  status : BillingStatus := .reserved
  providerRequestID : String := ""
  error : String := ""
  resolvedBy : String := ""
  resolutionNote : String := ""
  startedAt : Option Time := none
  settledAt : Option Time := none
  refundedAt : Option Time := none
  createdAt : Time := 0

theorem BillingOrder.isOpen_of_not_closed {order : BillingOrder} (hs : order.status ≠ .settled)
    (hr : order.status ≠ .refunded) : order.status.isOpen = true := by
  cases h : order.status <;> simp_all [BillingStatus.isOpen]

/-- Whose account the order is paid from. -/
def BillingOrder.payer (order : BillingOrder) : Payer :=
  if order.teamID ≠ "" then .team order.teamID else .user order.userID

inductive TeamMemberStatus where
  | active
  | removed
  deriving DecidableEq, Repr

inductive TeamMemberRole where
  | owner
  | admin
  | member
  deriving DecidableEq, Repr

structure TeamMember where
  id : String := ""
  role : TeamMemberRole := .member
  status : TeamMemberStatus := .active
  monthlyCreditLimitMicrocredits : ℤ := 0
  updatedAt : Time := 0
  deriving DecidableEq, Repr

inductive RedeemCodeStatus where
  | unused
  | redeemed
  | disabled
  deriving DecidableEq, Repr

structure RedeemCode where
  codeHash : String
  amountMicrocredits : ℤ
  status : RedeemCodeStatus := .unused
  redeemedBy : String := ""
  redeemedAt : Option Time := none
  redeemedIP : String := ""
  expiresAt : Option Time := none
  deriving DecidableEq, Repr

end HMaigc
