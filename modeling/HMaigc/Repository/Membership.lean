import HMaigc.Repository.Finance

/-!
# Membership orders: activation, closing and the credits they grant

`repository/membership.go`, and from `repository/payment.go` the question every closing path asks:
is there a verified payment fact for the order (`verifiedPaymentFactExists`)?

Activating an order marks it paid, creates its subscription and posts the ledger entries that come
with it.  The entries are built by the caller; the two functions that post them trust their deltas,
and `CreditLedgerEntry.IsPlainGrant` says what the callers promise about these.
-/

set_option autoImplicit false

namespace HMaigc

open Sql Go

def systemActorID : String := "system"

def errMembershipOrderNotPending : RepoError := .text "membership order is not pending"

def errPaymentReconciliationRequired : RepoError :=
  .text "payment transaction requires provider reconciliation"

/-! ## Payments of an order -/

/-- The transaction belongs to the order. -/
def PaymentTransaction.pays (transaction : PaymentTransaction) (orderType : PaymentOrderType)
    (orderID : String) : Bool :=
  transaction.orderType = orderType && transaction.orderID = orderID

/-- A transaction in a payable status belongs to the order. -/
def payableTransactionExists (orderType : PaymentOrderType) (orderID : String) (s : Store) : Bool :=
  s.any fun
    | .paymentTransaction _, t => t.pays orderType orderID && t.status.isPayable
    | _, _ => false

/-- `verifiedPaymentFactExistsTx`: a webhook event that was not rejected is bound to a transaction
of the order. -/
def verifiedPaymentFactExists (orderType : PaymentOrderType) (orderID : String) (s : Store) :
    Bool :=
  s.any fun
    | .paymentWebhookEvent _, e =>
      e.status.isVerifiedFact &&
        (s.lookup (.paymentTransaction e.transactionID)).any fun t ↦ t.pays orderType orderID
    | _, _ => false

/-- `rejectPayablePaymentTx`. -/
def rejectPayablePaymentTx (orderType : PaymentOrderType) (orderID : String) : DbTx Unit := do
  let payable ← Prog.query (payableTransactionExists orderType orderID)
  if payable then
    throw errPaymentReconciliationRequired
  let verified ← Prog.query (verifiedPaymentFactExists orderType orderID)
  if verified then
    throw errPaymentReconciliationRequired

/-! ## Closing -/

/-- `UPDATE payment_checkout_sessions SET status = ? WHERE …`. -/
def updateCheckouts (which : PaymentCheckoutSession → Bool) (status : PaymentCheckoutStatus) :
    DbTx ℕ :=
  Prog.updateAll fun
    | .paymentCheckoutSession _, c => if which c then some { c with status := status } else none
    | _, _ => none

/-- The columns that cancel a membership order. -/
def MembershipOrder.cancel (order : MembershipOrder) (resolvedBy resolutionNote : String) :
    MembershipOrder :=
  { order with status := .cancelled, resolvedBy := resolvedBy, resolutionNote := resolutionNote }

/-- `tx.Create(audit)`, when there is one. -/
def createAudit : Option (String × AdminAuditEvent) → DbTx Unit
  | some (id, audit) => Prog.create (.adminAuditEvent id) audit .duplicatedKey
  | none => pure ()

/-- `CloseMembershipOrder`.  An empty `userID` closes anybody's order. -/
def closeMembershipOrder (orderID userID actorID note : String)
    (audit : Option (String × AdminAuditEvent)) : DbTx Unit := do
  let order ← firstForUpdate (.membershipOrder orderID)
    fun o ↦ userID = "" || o.userID = userID
  if order.status ≠ .pending then
    throw errMembershipOrderNotPending
  rejectPayablePaymentTx .membership orderID
  let rows ← Prog.update (.membershipOrder orderID) (fun o ↦ o.status = .pending) fun o ↦
    .ok (o.cancel actorID note)
  if rows ≠ 1 then throw errMembershipOrderNotPending
  let _ ← updateCheckouts (fun c ↦ c.orderID = orderID && c.status = .active) .expired
  createAudit audit

/-- The identifier and the row of the checkout of an order. -/
def checkoutOf (orderType : PaymentOrderType) (orderID : String) (s : Store) :
    Option (String × PaymentCheckoutSession) :=
  (s.select fun
    | .paymentCheckoutSession id, c =>
      if c.orderType = orderType ∧ c.orderID = orderID then some (id, c) else none
    | _, _ => none).head?

/-- `SELECT … FOR UPDATE` of the checkout of an order, when there is one. -/
def findCheckoutForUpdate (orderType : PaymentOrderType) (orderID : String) :
    DbTx (Option (String × PaymentCheckoutSession)) :=
  Prog.queryForUpdate
    (fun v ↦ (checkoutOf orderType orderID v).elim [] fun c ↦ [.paymentCheckoutSession c.1])
    (checkoutOf orderType orderID)

def automaticMembershipOrderCloseNote : String := "订单超过 24 小时未支付，系统自动关闭"

/-- `reconcileStaleMembershipOrder`. -/
def reconcileStaleMembershipOrder (orderID : String) (pendingCreatedBefore : Time) :
    DbTx Unit := do
  let order ← Prog.queryForUpdate
    (fun v ↦ if (v.lookup (.membershipOrder orderID)).any fun o ↦
        o.status = .pending && o.createdAt ≤ pendingCreatedBefore then
      [.membershipOrder orderID] else [])
    fun v ↦ (v.lookup (.membershipOrder orderID)).filter fun o ↦
      o.status = .pending && o.createdAt ≤ pendingCreatedBefore
  if order.isNone then
    return
  let checkout ← findCheckoutForUpdate .membership orderID
  -- `rejectPayablePaymentTx`, whose refusal is not an error here
  let payable ← Prog.query (payableTransactionExists .membership orderID)
  if payable then
    return
  let verified ← Prog.query (verifiedPaymentFactExists .membership orderID)
  if verified then
    return
  let rows ← Prog.update (.membershipOrder orderID) (fun o ↦ o.status = .pending) fun o ↦
    .ok (o.cancel systemActorID automaticMembershipOrderCloseNote)
  match checkout with
  | none => return
  | some (checkoutID, _) =>
    if rows ≠ 1 then
      return
    let _ ← Prog.update (.paymentCheckoutSession checkoutID) (fun c ↦ c.status = .active) fun c ↦
      .ok { c with status := .expired }

/-- The last transaction of `ReconcileMembershipLifecycle`. -/
def expireSubscriptions (now : Time) : DbTx Unit := do
  let _ ← Prog.updateAll fun
    | .membershipSubscription _, s =>
      if s.status = .active ∧ s.endsAt.any (· ≤ now) then some { s with status := .expired }
      else none
    | _, _ => none

/-! ## Posting grants -/

/-- The user whose account a personal entry belongs to; empty for a team's. -/
def Payer.userID : Payer → String
  | .user id => id
  | .team _ => ""

/-- The entry as a row of the personal table, which names a user. -/
def CreditLedgerEntry.personal (entry : CreditLedgerEntry) : CreditLedgerEntry :=
  { entry with payer := .user entry.payer.userID }

/-- What a caller promises about a grant: it credits what it says and reserves nothing. -/
structure CreditLedgerEntry.IsPlainGrant (entry : CreditLedgerEntry) : Prop where
  available : entry.availableDeltaMicrocredits = entry.amountMicrocredits
  reserved : entry.reservedDeltaMicrocredits = 0

/-- What the two grant functions and the subscription grant have in common: credit the account and
post the entry `post` makes of the account as it is then. -/
def grantToAccount (payer : Payer) (amount : ℤ) (entryID : String)
    (post : CreditAccount → CreditLedgerEntry) : DbTx Unit := do
  let _ ← createAccountIfMissing payer
  let _ ← Prog.update (.creditAccount payer) (fun _ ↦ true) fun a ↦ a.move amount 0
  let account ← readAccount payer
  createLedgerEntry entryID (post account)

/-- The entry the team functions make of the ledger entry they are given. -/
def teamGrantEntry (teamID : String) (ledger : CreditLedgerEntry) (account : CreditAccount) :
    CreditLedgerEntry where
  payer := .team teamID
  actorUserID := ledger.actorUserID
  type := ledger.type
  amountMicrocredits := ledger.amountMicrocredits
  availableDeltaMicrocredits := ledger.availableDeltaMicrocredits
  availableAfterMicrocredits := account.availableMicrocredits
  reservedAfterMicrocredits := account.reservedMicrocredits
  scene := ledger.scene
  note := ledger.note
  referenceKey := ledger.referenceKey

/-- The entry the personal functions post: the one they are given with the balances filled in. -/
def personalGrantEntry (ledger : CreditLedgerEntry) (account : CreditAccount) :
    CreditLedgerEntry :=
  { ledger.personal with
    availableAfterMicrocredits := account.availableMicrocredits
    reservedAfterMicrocredits := account.reservedMicrocredits }

/-- `grantTeamMembershipLedgerTx`. -/
def grantTeamMembershipLedgerTx (teamID ledgerID : String) (ledger : CreditLedgerEntry) :
    DbTx Unit :=
  grantToAccount (.team teamID) ledger.amountMicrocredits ledgerID (teamGrantEntry teamID ledger)

/-- `grantPersonalCreditLedgerTx`. -/
def grantPersonalCreditLedgerTx (ledgerID : String) (ledger : CreditLedgerEntry) :
    DbTx Unit := do
  if ledger.payer.userID = "" ∨ ledger.amountMicrocredits ≤ 0 then
    throw (RepoError.text "credit ledger grant is invalid")
  grantToAccount ledger.personal.payer ledger.amountMicrocredits ledgerID
    (personalGrantEntry ledger)

/-- Has the membership grant with this reference been posted? -/
def membershipGrantExists (book : Book) (referenceKey : String) (s : Store) : Bool :=
  s.any fun
    | .creditLedgerEntry b _, e =>
      b = book && e.referenceKey = some referenceKey && e.type = .membership
    | _, _ => false

/-- `GrantMembershipSubscriptionCredits`. -/
def grantMembershipSubscriptionCredits (subscriptionID ledgerID : String)
    (ledger : CreditLedgerEntry) (now : Time) : DbTx Unit := do
  if ledger.amountMicrocredits ≤ 0 then
    throw (RepoError.text "订阅积分发放参数无效")
  match ledger.referenceKey with
  | none => throw (RepoError.text "订阅积分发放引用标识不能为空")
  | some referenceKey =>
    if referenceKey = "" then
      throw (RepoError.text "订阅积分发放引用标识不能为空")
    let current ← firstForUpdate (.membershipSubscription subscriptionID)
    if current.status ≠ .active ∨ now < current.startsAt then
      throw (RepoError.text "订阅尚未到积分发放时间")
    if current.teamID ≠ "" then
      let existing ← Prog.query (membershipGrantExists .team referenceKey)
      if existing then
        return
      grantToAccount (.team current.teamID) ledger.amountMicrocredits ledgerID
        (teamGrantEntry current.teamID ledger)
    else
      let existing ← Prog.query (membershipGrantExists .personal referenceKey)
      if existing then
        return
      grantToAccount (.user current.userID) ledger.amountMicrocredits ledgerID
        (personalGrantEntry ledger)

/-! ## Referral rewards -/

/-- A ledger entry with its identifier. -/
structure LedgerDraft where
  id : String
  entry : CreditLedgerEntry

structure ReferralFulfillment where
  rewardID : String
  reward : ReferralReward
  inviterLedger : LedgerDraft
  inviteeLedger : LedgerDraft

/-- Another membership order of the user has been paid. -/
def priorPaidOrderExists (userID orderID : String) (s : Store) : Bool :=
  s.any fun
    | .membershipOrder id, o =>
      o.userID = userID && o.teamID = "" && o.status = .paid && id ≠ orderID
    | _, _ => false

/-- `tx.Create(reward)`. -/
def createReferralReward (id : String) (reward : ReferralReward) : DbTx Unit :=
  Prog.create (.referralReward id) reward .duplicatedKey
    [.index (.referralRewardRelationship reward.relationshipID),
      .index (.referralRewardOrder reward.membershipOrderID)]
    fun v ↦ v.any fun
      | .referralReward _, r =>
        r.relationshipID = reward.relationshipID || r.membershipOrderID = reward.membershipOrderID
      | _, _ => false

/-- `grantReferralRewardTx`. -/
def grantReferralRewardTx (orderID : String) (order : MembershipOrder)
    (fulfillment : ReferralFulfillment) (now : Time) : DbTx Unit := do
  if order.teamID ≠ "" then
    throw (RepoError.text "team membership orders cannot grant referral rewards")
  let reward := fulfillment.reward
  let relationship ← firstForUpdate (.referralRelationship reward.relationshipID)
  if relationship.inviteeUserID ≠ order.userID ∨
      relationship.inviterUserID ≠ reward.inviterUserID ∨
      reward.inviteeUserID ≠ order.userID ∨ reward.membershipOrderID ≠ orderID then
    throw (RepoError.text "referral fulfillment does not match membership order")
  if relationship.status = .disqualified ∨ relationship.status = .rewarded then
    return
  let prior ← Prog.query (priorPaidOrderExists order.userID orderID)
  if prior then
    return
  let inviter := fulfillment.inviterLedger
  let invitee := fulfillment.inviteeLedger
  if inviter.entry.payer.userID ≠ reward.inviterUserID ∨
      invitee.entry.payer.userID ≠ reward.inviteeUserID ∨
      inviter.entry.amountMicrocredits ≠ reward.inviterRewardMicrocredits ∨
      invitee.entry.amountMicrocredits ≠ reward.inviteeRewardMicrocredits then
    throw (RepoError.text "referral credit ledgers do not match reward")
  createReferralReward fulfillment.rewardID reward
  grantPersonalCreditLedgerTx inviter.id inviter.entry
  grantPersonalCreditLedgerTx invitee.id invitee.entry
  let updated ← Prog.update (.referralRelationship reward.relationshipID)
    (fun r ↦ r.status = .eligible) fun r ↦
      .ok { r with status := .rewarded, rewardedAt := some now }
  if updated ≠ 1 then
    throw (RepoError.text "referral relationship state changed during fulfillment")

/-! ## Activating an order -/

/-- `time.Time.AddDate` in the location the server computes with. -/
structure Calendar where
  addDate : (years months : ℕ) → Time → Time

structure MembershipActivation where
  billingCycle : MembershipBillingCycle
  subscriptionID : String
  subscription : MembershipSubscription
  membershipLedger : Option LedgerDraft := none
  referral : Option ReferralFulfillment := none

/-- The running subscription that ends last, of the order's user or team. -/
def latestSubscription (order : MembershipOrder) (now : Time) (s : Store) :
    Option (String × MembershipSubscription) :=
  let running := s.select fun
    | .membershipSubscription id, m =>
      if m.status = .active ∧ m.endsAt.any (now < ·) ∧
          (if order.teamID = "" then m.userID = order.userID ∧ m.teamID = ""
            else m.teamID = order.teamID) then
        some (id, m)
      else none
    | _, _ => none
  running.foldr (fun a best ↦
    match best with
    | none => some a
    | some b =>
      if a.2.endsAt.getD 0 > b.2.endsAt.getD 0 ∨
          a.2.endsAt = b.2.endsAt ∧ a.1 < b.1 then some a else some b) none

/-- When a subscription that starts at `start` ends. -/
def MembershipBillingCycle.endOf (cycle : MembershipBillingCycle) (calendar : Calendar)
    (start : Time) : Except RepoError Time :=
  match cycle with
  | .month => .ok (calendar.addDate 0 1 start)
  | .year => .ok (calendar.addDate 1 0 start)
  | .free => .error (.text "membership activation billing cycle is invalid")

/-- `tx.Create(activation.Subscription)`. -/
def createSubscription (id : String) (subscription : MembershipSubscription) : DbTx Unit :=
  Prog.create (.membershipSubscription id) subscription .duplicatedKey
    [.index (.subscriptionOrder subscription.orderID)]
    fun v ↦ v.any fun
      | .membershipSubscription _, m => m.orderID = subscription.orderID
      | _, _ => false

/-- The columns that mark a membership order paid. -/
def MembershipOrder.pay (order : MembershipOrder) (provider providerTradeNo actorID note : String)
    (now : Time) : MembershipOrder :=
  { order with
    status := .paid
    paymentProvider := provider
    providerTradeNo := providerTradeNo
    resolvedBy := actorID
    resolutionNote := note
    paidAt := some now }

/-- `SELECT … FOR UPDATE` of the team or the user an order is for. -/
def lockSubscriber (order : MembershipOrder) : DbTx Unit := do
  if order.teamID ≠ "" then
    let _ ← firstForUpdate (.team order.teamID)
  else
    let _ ← firstForUpdate (.user order.userID)

/-- The ledger entry that comes with a subscription. -/
def grantActivationLedger (order : MembershipOrder) (activation : MembershipActivation) :
    DbTx Unit :=
  match activation.membershipLedger with
  | some ledger =>
    if ledger.entry.amountMicrocredits > 0 then
      if order.teamID ≠ "" then
        grantTeamMembershipLedgerTx order.teamID ledger.id ledger.entry
      else
        grantPersonalCreditLedgerTx ledger.id ledger.entry
    else pure ()
  | none => pure ()

/-- `activateMembershipOrderTx`. -/
def activateMembershipOrderTx (calendar : Calendar)
    (orderID actorID provider providerTradeNo note : String)
    (activation : MembershipActivation) (now : Time) : DbTx Unit := do
  let order ← firstForUpdate (.membershipOrder orderID)
  if order.status ≠ .pending then
    throw errMembershipOrderNotPending
  lockSubscriber order
  let latest ← Prog.queryForUpdate
    (fun v ↦ (latestSubscription order now v).elim [] fun m ↦ [.membershipSubscription m.1])
    (latestSubscription order now)
  let start := max now ((latest.bind (·.2.endsAt)).getD now)
  match activation.billingCycle.endOf calendar start with
  | .error e => throw e
  | .ok stop =>
    let updated ← Prog.update (.membershipOrder orderID) (fun o ↦ o.status = .pending) fun o ↦
      .ok (o.pay provider providerTradeNo actorID note now)
    if updated ≠ 1 then throw errMembershipOrderNotPending
    createSubscription activation.subscriptionID
      { activation.subscription with startsAt := start, endsAt := some stop }
    grantActivationLedger order activation
    match activation.referral with
    | some fulfillment => grantReferralRewardTx orderID order fulfillment now
    | none => pure ()

end HMaigc
