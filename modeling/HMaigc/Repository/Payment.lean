import HMaigc.Repository.CreditStore

/-!
# Payment transactions and webhook events

`repository/payment.go`: claiming the one payable slot of an order, recording what a payment
provider reports, fulfilling an order, and the ways a transaction or a checkout is closed.

Apart from the two functions that touch one transaction or one event only, everything here locks the
order row first and the checkout row second, and reads the payment facts after that.
-/

set_option autoImplicit false

namespace HMaigc

open Sql Go

def errPaymentWebhookConflict : RepoError :=
  .text "payment webhook conflicts with an existing event"

def errPaymentTransactionNotPayable : RepoError := .text "payment transaction is not payable"

def errPaymentChannelLocked : RepoError :=
  .text "another payment channel already owns the payable transaction"

def errPaymentOrderNotPayable : RepoError := .text "payment order is not payable"

def errPaymentVerifiedFactExists : RepoError :=
  .text "a verified payment fact already exists for the order"

/-- A provider's name, as the order rows store it. -/
def PaymentProvider.name : PaymentProvider → String
  | .wechat => "wechat"
  | .alipay => "alipay"

/-! ## Unique indexes -/

/-- Another transaction of the order is in a payable status: `idx_payment_transactions_payable_order`. -/
def payableSlotTaken (id : String) (transaction : PaymentTransaction) (s : Store) : Bool :=
  s.any fun
    | .paymentTransaction id', t =>
      id' ≠ id && t.pays transaction.orderType transaction.orderID && t.status.isPayable
    | _, _ => false

/-- Another transaction has the trade number: `idx_payment_transactions_provider_trade`. -/
def tradeNoTaken (id : String) (provider : PaymentProvider) (tradeNo : String) (s : Store) : Bool :=
  tradeNo ≠ "" && s.any fun
    | .paymentTransaction id', t =>
      id' ≠ id && t.provider = provider && t.providerTradeNo = tradeNo
    | _, _ => false

/-- Another transaction has the merchant order number. -/
def merchantOrderNoTaken (merchantOrderNo : String) (s : Store) : Bool :=
  s.any fun
    | .paymentTransaction _, t => t.merchantOrderNo = merchantOrderNo
    | _, _ => false

/-! ## Locking an order -/

/-- `lockPaymentOrderTx`: lock the order row and say whether the order is still to be paid. -/
def lockPaymentOrderTx (orderType : PaymentOrderType) (orderID userID : String) : DbTx Bool :=
  match orderType with
  | .membership => do
    let order ← firstForUpdate (.membershipOrder orderID) fun o ↦ o.userID = userID
    return order.status = .pending
  | .creditTopup => do
    let order ← firstForUpdate (.creditTopupOrder orderID) fun o ↦ o.userID = userID
    return order.status = .pending

/-- `lockPayableOrderTx`. -/
def lockPayableOrderTx (orderType : PaymentOrderType) (orderID userID : String) : DbTx Unit := do
  let payable ← lockPaymentOrderTx orderType orderID userID
  if !payable then
    throw errPaymentOrderNotPayable

/-- `SELECT … FOR UPDATE` of the checkout of an order. -/
def lockCheckout (orderType : PaymentOrderType) (orderID : String) :
    DbTx (String × PaymentCheckoutSession) := do
  let some checkout ← findCheckoutForUpdate orderType orderID | throw RepoError.recordNotFound
  return checkout

/-! ## Checkouts -/

/-- `CreateOrGetPaymentCheckoutSession`: the first candidate for an order becomes its checkout. -/
def createOrGetPaymentCheckoutSession (id : String) (candidate : PaymentCheckoutSession) :
    DbTx (String × PaymentCheckoutSession) := do
  let orderTaken := fun v : Store ↦ v.any fun
    | .paymentCheckoutSession _, c => c.orderID = candidate.orderID
    | _, _ => false
  let tokenTaken := fun v : Store ↦ v.any fun
    | .paymentCheckoutSession _, c => c.tokenHash = candidate.tokenHash
    | _, _ => false
  let _ ← Prog.createUnlessTaken (.paymentCheckoutSession id) candidate .duplicatedKey
    [.index (.checkoutOrder candidate.orderID), .index (.checkoutToken candidate.tokenHash)]
    orderTaken tokenTaken
  let some checkout ← Prog.query fun v : Store ↦ (v.select fun
    | .paymentCheckoutSession id, c => if c.orderID = candidate.orderID then some (id, c) else none
    | _, _ => none).head? | throw RepoError.recordNotFound
  return checkout

/-! ## Claiming the payable slot -/

/-- The payable transactions of an order. -/
def payableTransactions (orderType : PaymentOrderType) (orderID : String) (s : Store) :
    List (String × PaymentTransaction) :=
  s.select fun
    | .paymentTransaction id, t =>
      if t.pays orderType orderID ∧ t.status.isPayable then some (id, t) else none
    | _, _ => none

/-- The oldest payable transaction of an order. -/
def oldestPayable (orderType : PaymentOrderType) (orderID : String) (s : Store) :
    Option (String × PaymentTransaction) :=
  Db.earliest (·.createdAt) (payableTransactions orderType orderID s)

/-- `SELECT … FOR UPDATE` of the oldest payable transaction of an order. -/
def lockOldestPayable (orderType : PaymentOrderType) (orderID : String) :
    DbTx (Option (String × PaymentTransaction)) :=
  Prog.queryForUpdate
    (fun v ↦ (oldestPayable orderType orderID v).elim [] fun t ↦ [.paymentTransaction t.1])
    (oldestPayable orderType orderID)

/-- A transaction of the order has been paid. -/
def paidTransactionExists (orderType : PaymentOrderType) (orderID : String) (s : Store) : Bool :=
  s.any fun
    | .paymentTransaction _, t => t.pays orderType orderID && t.status = .paid
    | _, _ => false

/-- `tx.Create(candidate)`. -/
def createTransaction (id : String) (candidate : PaymentTransaction) : DbTx Unit :=
  Prog.create (.paymentTransaction id) candidate .duplicatedKey
    [.index (.merchantOrderNo candidate.merchantOrderNo),
      .index (.payableTransaction candidate.orderType candidate.orderID),
      .index (.transactionTradeNo candidate.provider candidate.providerTradeNo)]
    fun v ↦ merchantOrderNoTaken candidate.merchantOrderNo v ||
      (candidate.status.isPayable && payableSlotTaken id candidate v) ||
      tradeNoTaken id candidate.provider candidate.providerTradeNo v

/-- `ClaimPayablePaymentTransaction`. -/
def claimPayablePaymentTransaction (id : String) (candidate : PaymentTransaction) :
    DbTx ((String × PaymentTransaction) × Bool) := do
  if candidate.status ≠ .created ∨ candidate.orderID = "" ∨ candidate.merchantOrderNo = "" then
    throw (RepoError.text "payable payment transaction candidate is incomplete")
  lockPayableOrderTx candidate.orderType candidate.orderID candidate.userID
  let checkout ← lockCheckout candidate.orderType candidate.orderID
  if checkout.2.status ≠ .active ∨ checkout.2.expiresAt ≤ candidate.createdAt then
    throw errPaymentOrderNotPayable
  let verified ← Prog.query (verifiedPaymentFactExists candidate.orderType candidate.orderID)
  if verified then
    throw errPaymentVerifiedFactExists
  let paid ← Prog.query (paidTransactionExists candidate.orderType candidate.orderID)
  if paid then
    throw errPaymentOrderNotPayable
  let winner ← lockOldestPayable candidate.orderType candidate.orderID
  match winner with
  | some winner =>
    if winner.2.provider ≠ candidate.provider then
      throw errPaymentChannelLocked
    return (winner, false)
  | none =>
    createTransaction id candidate
    return ((id, candidate), true)

/-- `UpdatePaymentTransactionCreation`.  The statuses its callers pass keep or leave the payable
slot, so no index is entered. -/
def updatePaymentTransactionCreation (id : String) (status : PaymentTransactionStatus)
    (codeURL failureCode failureReason : String) : DbTx Unit := do
  let rows ← Prog.update (.paymentTransaction id) (fun t ↦ t.status = .created) fun t ↦
    .ok { t with
      status := status
      codeURL := codeURL
      failureCode := failureCode
      failureReason := failureReason }
  if rows ≠ 1 then
    throw (RepoError.text "payment transaction creation state changed unexpectedly")

/-! ## Webhook events -/

/-- The event with this provider event id. -/
def webhookEventByProviderID (provider : PaymentProvider) (providerEventID : String) (s : Store) :
    Option (String × PaymentWebhookEvent) :=
  (s.select fun
    | .paymentWebhookEvent id, e =>
      if e.provider = provider ∧ e.providerEventID = providerEventID then some (id, e) else none
    | _, _ => none).head?

/-- The events that carry a trade number. -/
def eventsOfTrade (provider : PaymentProvider) (tradeNo : String) (s : Store) :
    List (String × PaymentWebhookEvent) :=
  s.select fun
    | .paymentWebhookEvent id, e =>
      if e.provider = provider ∧ e.providerTradeNo = tradeNo then some (id, e) else none
    | _, _ => none

/-- `ORDER BY created_at asc … First(&existingTrade)`. -/
def firstEventOfTrade (provider : PaymentProvider) (tradeNo : String) (s : Store) :
    Option (String × PaymentWebhookEvent) :=
  Db.earliest (·.createdAt) (eventsOfTrade provider tradeNo s)

/-- `samePaymentWebhookFacts`. -/
def samePaymentWebhookFacts (stored candidate : PaymentWebhookEvent) : Bool :=
  stored.paidAt.isSome && candidate.paidAt.isSome &&
    stored.payloadDigest = candidate.payloadDigest &&
    stored.transactionID = candidate.transactionID &&
    stored.merchantOrderNo = candidate.merchantOrderNo &&
    stored.providerTradeNo = candidate.providerTradeNo &&
    stored.amountCents = candidate.amountCents && stored.currency = candidate.currency &&
    stored.paidAt = candidate.paidAt

/-- The candidate parked for review because its trade number belongs to another payment. -/
def PaymentWebhookEvent.park (candidate : PaymentWebhookEvent) : PaymentWebhookEvent :=
  { candidate with
    status := .reviewRequired
    failureCode := "provider_trade_conflict"
    failureReason := "渠道交易号已绑定其他支付交易，必须人工复核" }

/-- The facts of a candidate are complete. -/
def PaymentWebhookEvent.isComplete (candidate : PaymentWebhookEvent) : Bool :=
  candidate.providerEventID ≠ "" && candidate.merchantOrderNo ≠ "" &&
    candidate.providerTradeNo ≠ "" && 0 < candidate.amountCents && candidate.currency ≠ "" &&
    candidate.paidAt.isSome && candidate.payloadDigest.utf8ByteSize = 64

/-- Lock the order, the checkout and the transaction an event is bound to; an event that is bound to
none locks nothing and goes on with the zero transaction. -/
def lockEventTransaction (candidate : PaymentWebhookEvent) : DbTx (Option PaymentTransaction) := do
  if candidate.transactionID = "" then
    return none
  let snapshot ← first (.paymentTransaction candidate.transactionID)
  let _ ← lockPaymentOrderTx snapshot.orderType snapshot.orderID snapshot.userID
  let _ ← lockCheckout snapshot.orderType snapshot.orderID
  let transaction ← firstForUpdate (.paymentTransaction candidate.transactionID)
  if transaction.provider ≠ candidate.provider ∨
      transaction.merchantOrderNo ≠ candidate.merchantOrderNo then
    throw errPaymentWebhookConflict
  return some transaction

/-- `lockPaymentProviderTradeTx`: an advisory lock on the trade number. -/
def lockPaymentProviderTradeTx (provider : PaymentProvider) (tradeNo : String) : DbTx Unit :=
  Prog.queryForUpdate (fun _ ↦ [.index (.providerTradeLock provider tradeNo)]) fun _ ↦ ()

/-- The trade number of the candidate has been seen on another payment: the first event that carries
it is bound to another transaction, or the candidate to none. -/
def tradeConflict (candidate : PaymentWebhookEvent) (existing : Option (String × PaymentWebhookEvent)) :
    Bool :=
  existing.any fun e ↦
    candidate.transactionID = "" || e.2.transactionID ≠ candidate.transactionID

/-- The transaction of a parked event is parked too. -/
def parkTransaction (candidate : PaymentWebhookEvent) (transaction : Option PaymentTransaction) :
    DbTx Unit := do
  if transaction.any fun t ↦ t.status = .created || t.status = .pending then
    let rows ← Prog.update (.paymentTransaction candidate.transactionID)
      (fun t ↦ t.status = .created || t.status = .pending) fun t ↦
        .ok { t with
          status := .reviewRequired
          failureCode := candidate.park.failureCode
          failureReason := candidate.park.failureReason }
    if rows ≠ 1 then
      throw (RepoError.text
        "payment provider-trade conflict review state changed unexpectedly")

/-- `tx.Create(candidate)`. -/
def createWebhookEvent (id : String) (candidate : PaymentWebhookEvent) : DbTx Unit :=
  Prog.create (.paymentWebhookEvent id) candidate .duplicatedKey
    [.index (.webhookEvent candidate.provider candidate.providerEventID)]
    fun v ↦ (webhookEventByProviderID candidate.provider candidate.providerEventID v).isSome

/-- `RecordPaymentWebhookEvent`. -/
def recordPaymentWebhookEvent (id : String) (candidate : PaymentWebhookEvent) :
    DbTx ((String × PaymentWebhookEvent) × Bool) := do
  if !candidate.isComplete then
    throw (RepoError.text "verified payment event facts are incomplete")
  let transaction ← lockEventTransaction candidate
  lockPaymentProviderTradeTx candidate.provider candidate.providerTradeNo
  let stored ← Prog.queryForUpdate
    (fun v ↦ (webhookEventByProviderID candidate.provider candidate.providerEventID v).elim []
      fun e ↦ [.paymentWebhookEvent e.1])
    (webhookEventByProviderID candidate.provider candidate.providerEventID)
  match stored with
  | some stored =>
    if !samePaymentWebhookFacts stored.2 candidate then
      throw errPaymentWebhookConflict
    return (stored, false)
  | none =>
    let existing ← Prog.query
      (firstEventOfTrade candidate.provider candidate.providerTradeNo)
    if tradeConflict candidate existing then
      parkTransaction candidate transaction
      createWebhookEvent id candidate.park
      return ((id, candidate.park), true)
    createWebhookEvent id candidate
    return ((id, candidate), true)

/-- `MarkPaymentWebhookOutcome`. -/
def markPaymentWebhookOutcome (id : String) (status : PaymentWebhookStatus)
    (failureCode failureReason : String) (now : Time) : DbTx Unit := do
  let event ← firstForUpdate (.paymentWebhookEvent id)
  if event.status = .processed then
    return
  let _ ← Prog.update (.paymentWebhookEvent id) (fun _ ↦ true) fun e ↦
    .ok { e with
      status := status
      failureCode := failureCode
      failureReason := failureReason
      processedAt := if status = .processed then some now else e.processedAt }

/-! ## Fulfilling -/

structure PaymentFulfillment where
  eventID : String
  event : PaymentWebhookEvent
  transactionID : String
  providerTradeNo : String
  paidAt : Time
  paymentConfirmed : Bool
  activation : MembershipActivation
  topupEntryID : String
  audit : Option (String × AdminAuditEvent) := none

/-- The columns that mark a webhook event processed. -/
def PaymentWebhookEvent.process (event : PaymentWebhookEvent) (now : Time) : PaymentWebhookEvent :=
  { event with
    status := .processed
    processedAt := some now
    failureCode := ""
    failureReason := "" }

/-- The columns that mark a transaction paid. -/
def PaymentTransaction.pay (transaction : PaymentTransaction) (providerTradeNo : String)
    (now : Time) : PaymentTransaction :=
  { transaction with
    status := .paid
    providerTradeNo := providerTradeNo
    paidAt := some now
    failureCode := ""
    failureReason := "" }

/-- `UPDATE payment_webhook_events` to processed, and the audit event. -/
def processEvent (input : PaymentFulfillment) : DbTx Unit := do
  let _ ← Prog.update (.paymentWebhookEvent input.eventID) (fun _ ↦ true) fun e ↦
    .ok (e.process input.paidAt)
  createAudit input.audit

/-- `UPDATE payment_transactions` to paid. -/
def payTransaction (input : PaymentFulfillment) : DbTx ℕ :=
  Prog.updateUnique (.paymentTransaction input.transactionID) (fun t ↦ t.status.isPayable)
    (fun t ↦ t.pay input.providerTradeNo input.paidAt) .duplicatedKey
    (fun t ↦ [.index (.transactionTradeNo t.provider input.providerTradeNo)])
    fun t ↦ tradeNoTaken input.transactionID t.provider input.providerTradeNo

/-- Grant what the paid order entitles to. -/
def grantEntitlement (calendar : Calendar) (transaction : PaymentTransaction)
    (input : PaymentFulfillment) : DbTx Unit :=
  match transaction.orderType with
  | .membership =>
    activateMembershipOrderTx calendar transaction.orderID systemActorID
      transaction.provider.name input.providerTradeNo "支付渠道确认到账自动开通" input.activation
      input.paidAt
  | .creditTopup =>
    fulfillCreditTopupOrderTx transaction.orderID transaction.provider.name
      input.providerTradeNo input.topupEntryID input.paidAt

/-- The transaction is paid, the order's entitlement granted, its checkout consumed and the event
processed. -/
def payOrder (calendar : Calendar) (input : PaymentFulfillment) (transaction : PaymentTransaction) :
    DbTx Bool := do
  let rows ← payTransaction input
  if rows ≠ 1 then throw errPaymentTransactionNotPayable
  grantEntitlement calendar transaction input
  let _ ← updateCheckouts (fun c ↦ c.orderID = transaction.orderID) .consumed
  processEvent input
  return false

/-- The event and the transaction it is to fulfil are not about the same payment. -/
def PaymentFulfillment.mismatches (input : PaymentFulfillment) (transaction : PaymentTransaction)
    (event : PaymentWebhookEvent) : Bool :=
  event.payloadDigest ≠ input.event.payloadDigest || event.provider ≠ transaction.provider ||
    event.transactionID ≠ input.transactionID ||
    event.merchantOrderNo ≠ transaction.merchantOrderNo ||
    event.providerTradeNo ≠ input.providerTradeNo

/-- What `FulfillPaymentTransaction` does with the rows it has locked. -/
def fulfillLocked (calendar : Calendar) (input : PaymentFulfillment)
    (transaction : PaymentTransaction) (event : PaymentWebhookEvent) : DbTx Bool := do
  if input.mismatches transaction event then
    throw errPaymentWebhookConflict
  if event.status = .processed then
    createAudit input.audit
    return true
  if event.status = .rejected then
    throw errPaymentTransactionNotPayable
  if transaction.status = .paid ∧ transaction.providerTradeNo = input.providerTradeNo then
    processEvent input
    return false
  if !transaction.status.isPayable then
    throw errPaymentTransactionNotPayable
  payOrder calendar input transaction

/-- `FulfillPaymentTransaction`; the result says whether the event had been processed already. -/
def fulfillPaymentTransaction (calendar : Calendar) (input : PaymentFulfillment) :
    DbTx Bool := do
  if !input.paymentConfirmed then
    throw (RepoError.text
      "payment fulfillment requires an independently verified provider fact")
  let snapshot ← first (.paymentTransaction input.transactionID)
  -- an order that is not to be paid any more is locked all the same
  let _ ← lockPaymentOrderTx snapshot.orderType snapshot.orderID snapshot.userID
  let _ ← lockCheckout snapshot.orderType snapshot.orderID
  let transaction ← firstForUpdate (.paymentTransaction input.transactionID)
  let event ← firstForUpdate (.paymentWebhookEvent input.eventID)
  fulfillLocked calendar input transaction event

/-! ## Reviewing, closing and expiring -/

/-- `MarkPaymentTransactionReviewWithAudit`. -/
def markPaymentTransactionReviewWithAudit (id failureCode failureReason : String)
    (audit : Option (String × AdminAuditEvent)) : DbTx Unit := do
  let transaction ← firstForUpdate (.paymentTransaction id)
  if transaction.status ≠ .paid ∧ transaction.status ≠ .closed ∧
      transaction.status ≠ .refunded then
    let _ ← Prog.updateUnique (.paymentTransaction id) (fun _ ↦ true)
      (fun t ↦ { t with
        status := .reviewRequired
        failureCode := failureCode
        failureReason := failureReason })
      RepoError.duplicatedKey
      (fun t ↦ [.index (.payableTransaction t.orderType t.orderID)])
      fun t v ↦ payableSlotTaken id t v
    createAudit audit
  else
    createAudit audit

/-- Cancel the pending order behind a transaction the provider confirmed as closed. -/
def cancelOrderOf (transaction : PaymentTransaction) : DbTx Unit :=
  match transaction.orderType with
  | .membership => do
    let _ ← Prog.update (.membershipOrder transaction.orderID) (fun o ↦ o.status = .pending)
      fun o ↦ .ok (o.cancel systemActorID "支付渠道确认未到账并关单")
  | .creditTopup => do
    let _ ← Prog.update (.creditTopupOrder transaction.orderID) (fun o ↦ o.status = .pending)
      fun o ↦ .ok (o.cancel "支付渠道确认未到账并关单")

/-- `ClosePaymentTransactionAfterProviderConfirmation`. -/
def closePaymentTransactionAfterProviderConfirmation (id : String) (now : Time)
    (audit : Option (String × AdminAuditEvent)) : DbTx Unit := do
  let snapshot ← first (.paymentTransaction id)
  lockPayableOrderTx snapshot.orderType snapshot.orderID snapshot.userID
  let checkout ← lockCheckout snapshot.orderType snapshot.orderID
  let transaction ← firstForUpdate (.paymentTransaction id)
  let verified ← Prog.query
    (verifiedPaymentFactExists transaction.orderType transaction.orderID)
  if verified then
    throw errPaymentVerifiedFactExists
  if !transaction.status.isPayable then
    throw errPaymentTransactionNotPayable
  let _ ← Prog.update (.paymentTransaction id) (fun _ ↦ true) fun t ↦
    .ok { t with
      status := .closed
      closedAt := some now
      failureCode := "provider_confirmed_closed"
      failureReason := "" }
  let _ ← Prog.update (.paymentCheckoutSession checkout.1) (fun _ ↦ true) fun c ↦
    .ok { c with status := .expired }
  cancelOrderOf transaction
  createAudit audit

/-- `ExpirePaymentCheckoutSession`; the result says whether the checkout expired now. -/
def expirePaymentCheckoutSession (id : String) (now : Time) : DbTx Bool := do
  let snapshot ← first (.paymentCheckoutSession id)
  if snapshot.status ≠ .active ∨ now < snapshot.expiresAt then
    return false
  let _ ← lockPaymentOrderTx snapshot.orderType snapshot.orderID snapshot.userID
  let checkout ← firstForUpdate (.paymentCheckoutSession id) fun c ↦
    c.orderType = snapshot.orderType && c.orderID = snapshot.orderID &&
      c.userID = snapshot.userID
  if checkout.status ≠ .active ∨ now < checkout.expiresAt then
    return false
  let payable ← lockOldestPayable checkout.orderType checkout.orderID
  match payable with
  | some payable =>
    if payable.2.status ≠ .reviewRequired then
      let rows ← Prog.update (.paymentTransaction payable.1)
        (fun t ↦ t.status = .created || t.status = .pending) fun t ↦
          .ok { t with
            status := .reviewRequired
            failureCode := "checkout_expired_requires_reconciliation"
            failureReason := "收银台已过期，支付渠道状态需对账确认" }
      if rows ≠ 1 then
        throw (RepoError.text "payment transaction expiry state changed unexpectedly")
  | none => pure ()
  let rows ← Prog.update (.paymentCheckoutSession id)
    (fun c ↦ c.status = .active && c.expiresAt ≤ now) fun c ↦ .ok { c with status := .expired }
  return rows = 1

end HMaigc
