import HMaigc.Go.Basic

/-!
# Payable orders and their payments

Two kinds of order can be paid for, membership orders and credit top-up orders.  Around each stand
a checkout session (at most one an order), the payment transactions tried on it, and the webhook
events in which a payment provider reported what happened; paying an order grants its entitlement, a
subscription or a ledger entry.  The referral records are written by the first paid membership of an
invited user.
-/

set_option autoImplicit false

namespace HMaigc

open Go

inductive PaymentProvider where
  | wechat
  | alipay
  deriving DecidableEq, Repr

inductive PaymentOrderType where
  | membership
  | creditTopup
  deriving DecidableEq, Repr

/-- `MembershipOrderStatus` and `CreditTopupOrderStatus`, which have the same values. -/
inductive PayableOrderStatus where
  | pending
  | paid
  | cancelled
  | refunded
  deriving DecidableEq, Repr

inductive PaymentCheckoutStatus where
  | active
  | expired
  | consumed
  deriving DecidableEq, Repr

inductive PaymentTransactionStatus where
  | created
  | pending
  | reviewRequired
  | paid
  | closed
  | failed
  | refunded
  deriving DecidableEq, Repr

/-- The statuses that occupy the one payable slot of an order. -/
def PaymentTransactionStatus.isPayable : PaymentTransactionStatus → Bool
  | .created | .pending | .reviewRequired => true
  | .paid | .closed | .failed | .refunded => false

inductive PaymentWebhookStatus where
  | received
  | processed
  | rejected
  | reviewRequired
  deriving DecidableEq, Repr

/-- The statuses in which an event counts as a verified payment fact. -/
def PaymentWebhookStatus.isVerifiedFact : PaymentWebhookStatus → Bool
  | .received | .reviewRequired | .processed => true
  | .rejected => false

inductive MembershipBillingCycle where
  | free
  | month
  | year
  deriving DecidableEq, Repr

inductive MembershipSubscriptionStatus where
  | active
  | expired
  | cancelled
  deriving DecidableEq, Repr

structure MembershipOrder where
  userID : String
  teamID : String := ""
  planID : String := ""
  planSnapshotJSON : String := ""
  status : PayableOrderStatus := .pending
  paymentProvider : String := ""
  providerTradeNo : String := ""
  resolvedBy : String := ""
  resolutionNote : String := ""
  paidAt : Option Time := none
  createdAt : Time := 0
  deriving DecidableEq, Repr

structure CreditTopupOrder where
  userID : String
  orderNumber : String := ""
  productID : String := ""
  totalMicrocredits : ℤ
  status : PayableOrderStatus := .pending
  paymentProvider : String := ""
  providerTradeNo : String := ""
  resolutionNote : String := ""
  idempotencyKey : String := ""
  requestHash : String := ""
  paidAt : Option Time := none
  createdAt : Time := 0
  deriving DecidableEq, Repr

inductive CreditProductCategory where
  | surprise
  | general
  deriving DecidableEq, Repr

structure CreditTopupProduct where
  code : String := ""
  name : String := ""
  category : CreditProductCategory := .general
  baseMicrocredits : ℤ := 0
  bonusMicrocredits : ℤ := 0
  priceCents : ℤ := 0
  originalPriceCents : ℤ := 0
  currency : String := ""
  requiredMembershipTier : String := ""
  weeklyPurchaseLimit : ℤ := 0
  stockLimit : ℤ := 0
  soldCount : ℤ := 0
  saleEndsAt : Option Time := none
  badge : String := ""
  description : String := ""
  imageURL : String := ""
  enabled : Bool := false
  sortOrder : ℤ := 0
  createdAt : Time := 0
  updatedAt : Time := 0
  deriving DecidableEq, Repr

structure PaymentCheckoutSession where
  orderType : PaymentOrderType
  orderID : String
  userID : String
  tokenHash : String := ""
  status : PaymentCheckoutStatus := .active
  expiresAt : Time
  deriving DecidableEq, Repr

structure PaymentTransaction where
  orderType : PaymentOrderType
  orderID : String
  userID : String
  provider : PaymentProvider
  merchantOrderNo : String
  providerTradeNo : String := ""
  status : PaymentTransactionStatus := .created
  codeURL : String := ""
  failureCode : String := ""
  failureReason : String := ""
  paidAt : Option Time := none
  closedAt : Option Time := none
  createdAt : Time := 0
  deriving DecidableEq, Repr

structure PaymentWebhookEvent where
  provider : PaymentProvider
  providerEventID : String
  transactionID : String := ""
  merchantOrderNo : String := ""
  providerTradeNo : String := ""
  amountCents : ℤ := 0
  currency : String := ""
  paidAt : Option Time := none
  payloadDigest : String := ""
  status : PaymentWebhookStatus := .received
  failureCode : String := ""
  failureReason : String := ""
  processedAt : Option Time := none
  createdAt : Time := 0
  deriving DecidableEq, Repr

structure MembershipSubscription where
  userID : String
  teamID : String := ""
  planID : String := ""
  orderID : String := ""
  status : MembershipSubscriptionStatus := .active
  seats : ℤ := 0
  planSnapshotJSON : String := ""
  startsAt : Time := 0
  endsAt : Option Time := none
  createdAt : Time := 0
  deriving DecidableEq, Repr

inductive ReferralRelationshipStatus where
  | eligible
  | rewarded
  | disqualified
  deriving DecidableEq, Repr

structure ReferralRelationship where
  inviterUserID : String
  inviteeUserID : String
  status : ReferralRelationshipStatus := .eligible
  rewardedAt : Option Time := none
  deriving DecidableEq, Repr

structure ReferralReward where
  relationshipID : String
  membershipOrderID : String
  inviterUserID : String
  inviteeUserID : String
  inviterRewardMicrocredits : ℤ
  inviteeRewardMicrocredits : ℤ
  deriving DecidableEq, Repr

structure AdminAuditEvent where
  actorUserID : String := ""
  action : String := ""
  deriving DecidableEq, Repr

end HMaigc
