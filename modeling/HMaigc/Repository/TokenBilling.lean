import HMaigc.Repository.Finance

/-!
# Settling orders by what the provider charged

`repository/token_billing.go`: orders with the billing mode `token_usage` reserve an upper bound and
are settled later with the amount the provider actually charged — below the reservation (the rest is
released), equal to it, or, when the amount comes from the response itself, above it (the difference
is taken from the available balance).

Unlike the functions of `HMaigc.Repository.Finance`, the settlement computes the new balances in Go
and saves the whole row, so its arithmetic is `Go.wrap64` and not `Go.bigint`.
-/

set_option autoImplicit false

namespace HMaigc

open Sql Go

def providerBillingSubunitMicrocredits : ℤ := 1000000

structure TokenUsageFact where
  inputTokens : ℤ
  cachedTokens : ℤ
  outputTokens : ℤ

structure TokenSettlementFact where
  providerOrderID : String
  providerAmountSubunits : ℤ
  providerTaskStatus : String
  providerTotalTokens : ℤ
  usage : TokenUsageFact
  usageStatus : String
  reconciliationWarning : String := ""
  settledAt : Time

structure ResponseUsageSettlementFact where
  providerRequestID : String
  usage : TokenUsageFact
  usageStatus : String
  amountMicrocredits : ℤ
  settledAt : Time

/-- `tokenBillingSettlement`. -/
structure TokenBillingSettlement where
  providerRequestID : String := ""
  providerBillingOrderID : String := ""
  providerBillingAmount : ℤ
  providerBillingStatus : String
  providerBillingUnit : String
  providerBillingTotalTokens : ℤ
  providerTaskStatus : String
  usage : TokenUsageFact
  usageStatus : String
  reconciliationWarning : String := ""
  amountMicrocredits : ℤ
  settledAt : Time

namespace BillingOrder

/-- The provider's billing facts, as both kinds of settlement write them. -/
def observe (order : BillingOrder) (settlement : TokenBillingSettlement) : BillingOrder :=
  { order.stopReconciling with
    providerBillingOrderID := settlement.providerBillingOrderID
    providerBillingAmount := settlement.providerBillingAmount
    providerBillingStatus := settlement.providerBillingStatus
    providerBillingUnit := settlement.providerBillingUnit
    providerBillingTotalTokens := settlement.providerBillingTotalTokens
    providerTaskStatus := settlement.providerTaskStatus
    tokenUsageStatus := settlement.usageStatus
    inputTokens := settlement.usage.inputTokens
    cachedTokens := settlement.usage.cachedTokens
    outputTokens := settlement.usage.outputTokens }

/-- The columns `markTokenBillingOverReservationTx` sets. -/
def overReservation (order : BillingOrder) (settlement : TokenBillingSettlement) : BillingOrder :=
  { order.observe settlement with
    status := .uncertain
    error := "上游实际扣费超过预留上限" }

/-- The columns `updateSettledTokenOrderTx` sets. -/
def settleToken (order : BillingOrder) (settlement : TokenBillingSettlement) : BillingOrder :=
  { order.observe settlement with
    status := .settled
    amountMicrocredits := settlement.amountMicrocredits
    settledAt := some settlement.settledAt
    error := truncateText settlement.reconciliationWarning 1000
    providerRequestID :=
      if settlement.providerRequestID ≠ "" then settlement.providerRequestID
      else order.providerRequestID }

/-- The columns `MarkTokenBillingForReconciliation` sets. -/
def reconcile (order : BillingOrder) (providerTaskID reason : String) (next : Time) :
    BillingOrder :=
  { order.stopReconciling with
    status := .uncertain
    providerRequestID := providerTaskID
    error := truncateText reason 1000
    nextReconcileAt := some next }

/-- The columns `RecordTokenBillingUsage` sets. -/
def recordUsage (order : BillingOrder) (usage : TokenUsageFact) (status : String) : BillingOrder :=
  { order with
    inputTokens := usage.inputTokens
    cachedTokens := usage.cachedTokens
    outputTokens := usage.outputTokens
    tokenUsageStatus := status }

/-- The provider's billing facts of a charge that did not happen. -/
def observeNoCharge (order : BillingOrder) (providerOrderID : String)
    (providerAmountSubunits : ℤ) (providerTaskStatus : String) (providerTotalTokens : ℤ) :
    BillingOrder :=
  { order with
    providerBillingOrderID := providerOrderID
    providerBillingAmount := providerAmountSubunits
    providerBillingStatus := "failed"
    providerBillingUnit := "fen"
    providerBillingTotalTokens := providerTotalTokens
    providerTaskStatus := providerTaskStatus }

section Lemmas

variable (order : BillingOrder) (settlement : TokenBillingSettlement)

@[simp] theorem overReservation_status : (order.overReservation settlement).status = .uncertain :=
  rfl

@[simp] theorem overReservation_amount :
    (order.overReservation settlement).amountMicrocredits = order.amountMicrocredits := rfl

@[simp] theorem overReservation_payer : (order.overReservation settlement).payer = order.payer :=
  rfl

@[simp] theorem settleToken_status : (order.settleToken settlement).status = .settled := rfl

@[simp] theorem settleToken_amount :
    (order.settleToken settlement).amountMicrocredits = settlement.amountMicrocredits := rfl

@[simp] theorem settleToken_payer : (order.settleToken settlement).payer = order.payer := rfl

variable (text reason : String) (amount tokens : ℤ) (next : Time) (usage : TokenUsageFact)

@[simp] theorem reconcile_status : (order.reconcile text reason next).status = .uncertain := rfl

@[simp] theorem reconcile_amount :
    (order.reconcile text reason next).amountMicrocredits = order.amountMicrocredits := rfl

@[simp] theorem reconcile_payer : (order.reconcile text reason next).payer = order.payer := rfl

@[simp] theorem recordUsage_status : (order.recordUsage usage text).status = order.status := rfl

@[simp] theorem recordUsage_amount :
    (order.recordUsage usage text).amountMicrocredits = order.amountMicrocredits := rfl

@[simp] theorem recordUsage_payer : (order.recordUsage usage text).payer = order.payer := rfl

@[simp] theorem observeNoCharge_status :
    (order.observeNoCharge text amount reason tokens).status = order.status := rfl

@[simp] theorem observeNoCharge_amount :
    (order.observeNoCharge text amount reason tokens).amountMicrocredits =
      order.amountMicrocredits := rfl

@[simp] theorem observeNoCharge_payer :
    (order.observeNoCharge text amount reason tokens).payer = order.payer := rfl

end Lemmas

end BillingOrder

/-! ## Moving between the open statuses -/

/-- `BeginTokenBillingRequest`. -/
def beginTokenBillingRequest (id : String) (now : Time) : DbTx Unit := do
  let rows ← Prog.update (.billingOrder (trimSpace id))
    (fun o ↦ o.billingMode = "token_usage" && o.status = .reserved) fun o ↦ .ok (o.start now)
  if rows ≠ 1 then throw errBillingStateConflict

/-- `MarkTokenBillingForReconciliation`. -/
def markTokenBillingForReconciliation (id providerTaskID reason : String) (next : Time) :
    DbTx Unit := do
  let providerTaskID := trimSpace providerTaskID
  if isBlank id ∨ providerTaskID = "" ∨ isZero next then
    throw (RepoError.text "token billing reconciliation facts are invalid")
  let rows ← Prog.update (.billingOrder (trimSpace id))
    (fun o ↦ o.billingMode = "token_usage" && o.status.isOpen &&
      (o.providerRequestID = "" || o.providerRequestID = providerTaskID))
    fun o ↦ .ok (o.reconcile providerTaskID reason next)
  if rows ≠ 1 then throw errBillingStateConflict

def TokenUsageFact.isConsistent (usage : TokenUsageFact) : Bool :=
  0 ≤ usage.inputTokens && 0 ≤ usage.cachedTokens && 0 ≤ usage.outputTokens &&
    usage.cachedTokens ≤ usage.inputTokens

def isUsageStatus (status : String) : Bool :=
  status = "reported" || status = "missing" || status = "invalid"

/-- `RecordTokenBillingUsage`. -/
def recordTokenBillingUsage (id : String) (usage : TokenUsageFact) (status : String) :
    DbTx Unit := do
  if isBlank id || !isUsageStatus status || !usage.isConsistent then
    throw (RepoError.text "token usage facts are invalid")
  let rows ← Prog.update (.billingOrder id)
    (fun o ↦ o.billingMode = "token_usage" && o.status.isOpen)
    fun o ↦ .ok (o.recordUsage usage status)
  if rows ≠ 1 then throw errBillingStateConflict

/-! ## Settling -/

/-- `markTokenBillingOverReservationTx`. -/
def markTokenBillingOverReservationTx (id : String) (settlement : TokenBillingSettlement) :
    DbTx Unit := do
  let rows ← Prog.update (.billingOrder id) (fun o ↦ o.status.isOpen) fun o ↦
    .ok (o.overReservation settlement)
  if rows ≠ 1 then throw errBillingStateConflict

/-- `updateSettledTokenOrderTx`. -/
def updateSettledTokenOrderTx (id : String) (settlement : TokenBillingSettlement) :
    DbTx Unit := do
  let rows ← Prog.update (.billingOrder id) (fun o ↦ o.status.isOpen) fun o ↦
    .ok (o.settleToken settlement)
  if rows ≠ 1 then throw errBillingStateConflict

/-- The account after a token settlement, in Go's arithmetic. -/
def CreditAccount.settleToken (account : CreditAccount) (reservedAmount charge : ℤ) :
    CreditAccount where
  availableMicrocredits := wrap64 (account.availableMicrocredits + (reservedAmount - charge))
  reservedMicrocredits := wrap64 (account.reservedMicrocredits - reservedAmount)

/-- The ledger entry of what was charged. -/
def tokenConsumeEntry (id : String) (order : BillingOrder) (settlement : TokenBillingSettlement)
    (reservedAmount : ℤ) (account : CreditAccount) : CreditLedgerEntry :=
  let difference := reservedAmount - settlement.amountMicrocredits
  { order.ledgerEntry id .consume with
    amountMicrocredits := -settlement.amountMicrocredits
    availableDeltaMicrocredits := if difference < 0 then difference else 0
    reservedDeltaMicrocredits :=
      if difference < 0 then -reservedAmount else -settlement.amountMicrocredits
    availableAfterMicrocredits :=
      if difference < 0 then account.availableMicrocredits
      else wrap64 (account.availableMicrocredits - difference)
    reservedAfterMicrocredits :=
      if difference < 0 then account.reservedMicrocredits
      else wrap64 (account.reservedMicrocredits + difference)
    referenceKey := some ("token:settle:" ++ id ++ ":consume") }

/-- The ledger entry of what was reserved and not charged. -/
def tokenReleaseEntry (id : String) (order : BillingOrder) (settlement : TokenBillingSettlement)
    (reservedAmount : ℤ) (account : CreditAccount) : CreditLedgerEntry :=
  let difference := reservedAmount - settlement.amountMicrocredits
  { order.ledgerEntry id .release with
    amountMicrocredits := difference
    availableDeltaMicrocredits := difference
    reservedDeltaMicrocredits := -difference
    availableAfterMicrocredits := account.availableMicrocredits
    reservedAfterMicrocredits := account.reservedMicrocredits
    referenceKey := some ("token:settle:" ++ id ++ ":release") }

/-- What `settlePersonalTokenBillingTx` and `settleTeamTokenBillingTx` do to their account. -/
def settleAccountTokenBillingTx (payer : Payer) (id : String) (order : BillingOrder)
    (settlement : TokenBillingSettlement) (reservedAmount : ℤ)
    (consumeEntryID releaseEntryID : String) : DbTx Unit := do
  let account ← firstForUpdate (.creditAccount payer)
  if account.reservedMicrocredits < reservedAmount then
    throw (errReservedInconsistent payer)
  let difference := reservedAmount - settlement.amountMicrocredits
  if difference < 0 ∧ account.availableMicrocredits < -difference then
    throw errInsufficientCredits
  let account := account.settleToken reservedAmount settlement.amountMicrocredits
  let _ ← Prog.update (.creditAccount payer) (fun _ ↦ true) fun _ ↦ .ok account
  updateSettledTokenOrderTx id settlement
  createLedgerEntry consumeEntryID (tokenConsumeEntry id order settlement reservedAmount account)
  if difference ≤ 0 then
    return
  createLedgerEntry releaseEntryID (tokenReleaseEntry id order settlement reservedAmount account)

/-- `settlePersonalTokenBillingTx`. -/
def settlePersonalTokenBillingTx (id : String) (order : BillingOrder)
    (settlement : TokenBillingSettlement) (reservedAmount : ℤ)
    (consumeEntryID releaseEntryID : String) : DbTx Unit :=
  settleAccountTokenBillingTx (.user order.userID) id order settlement reservedAmount
    consumeEntryID releaseEntryID

/-- `settleTeamTokenBillingTx`. -/
def settleTeamTokenBillingTx (id : String) (order : BillingOrder)
    (settlement : TokenBillingSettlement) (reservedAmount : ℤ)
    (consumeEntryID releaseEntryID : String) : DbTx Unit :=
  settleAccountTokenBillingTx (.team order.teamID) id order settlement reservedAmount
    consumeEntryID releaseEntryID

/-- `settledTokenBillingMatches`. -/
def settledTokenBillingMatches (order : BillingOrder) (settlement : TokenBillingSettlement) :
    Bool :=
  (settlement.providerRequestID = "" || order.providerRequestID = settlement.providerRequestID) &&
    order.amountMicrocredits = settlement.amountMicrocredits &&
    order.providerBillingOrderID = settlement.providerBillingOrderID &&
    order.providerBillingAmount = settlement.providerBillingAmount &&
    order.providerBillingStatus = settlement.providerBillingStatus &&
    order.providerBillingUnit = settlement.providerBillingUnit &&
    order.providerTaskStatus = settlement.providerTaskStatus &&
    order.providerBillingTotalTokens = settlement.providerBillingTotalTokens &&
    order.tokenUsageStatus = settlement.usageStatus &&
    order.inputTokens = settlement.usage.inputTokens &&
    order.cachedTokens = settlement.usage.cachedTokens &&
    order.outputTokens = settlement.usage.outputTokens &&
    order.error = settlement.reconciliationWarning

/-- The provider runtime or request of the order contradicts a settlement from the response. -/
def contradictsResponse (order : BillingOrder) (settlement : TokenBillingSettlement) : Bool :=
  settlement.providerRequestID ≠ "" &&
    (order.providerEndpointVersionID ≠ "" || order.providerCredentialVersionID ≠ "" ||
      (order.providerRequestID ≠ "" && order.providerRequestID ≠ settlement.providerRequestID))

/-- `settleTokenBillingTx`. -/
def settleTokenBillingTx (id : String) (settlement : TokenBillingSettlement)
    (allowChargeAboveReservation : Bool) (consumeEntryID releaseEntryID : String) :
    DbTx Unit := do
  let order ← firstForUpdate (.billingOrder id)
  if order.billingMode ≠ "token_usage" then
    throw errBillingStateConflict
  if contradictsResponse order settlement then
    throw errBillingStateConflict
  if order.status = .settled then
    if settledTokenBillingMatches order settlement then
      return
    throw errBillingStateConflict
  if !order.status.isOpen then
    throw errBillingStateConflict
  let reservedAmount := order.reservedAmountMicrocredits
  if reservedAmount ≤ 0 ∨ reservedAmount ≠ order.amountMicrocredits then
    throw (RepoError.text "token billing reservation is inconsistent")
  if settlement.amountMicrocredits > reservedAmount ∧ !allowChargeAboveReservation then
    markTokenBillingOverReservationTx id settlement
  else if order.teamID ≠ "" then
    settleTeamTokenBillingTx id order settlement reservedAmount consumeEntryID releaseEntryID
  else
    settlePersonalTokenBillingTx id order settlement reservedAmount consumeEntryID releaseEntryID

/-- The settlement of `SettleTokenBilling`, or the error its checks return. -/
def TokenSettlementFact.settlement (id : String) (fact : TokenSettlementFact) :
    Except RepoError TokenBillingSettlement :=
  if isBlank id || isBlank fact.providerOrderID || fact.providerAmountSubunits < 0 ||
      isBlank fact.providerTaskStatus || fact.providerTotalTokens < 0 ||
      !isUsageStatus fact.usageStatus || !fact.usage.isConsistent || isZero fact.settledAt then
    .error (.text "token billing settlement facts are invalid")
  else if fact.providerAmountSubunits > maxInt64 / providerBillingSubunitMicrocredits then
    .error (.text "token billing amount overflows")
  else
    .ok
      { providerBillingOrderID := fact.providerOrderID
        providerBillingAmount := fact.providerAmountSubunits
        providerBillingStatus := "succeeded"
        providerBillingUnit := "fen"
        providerBillingTotalTokens := fact.providerTotalTokens
        providerTaskStatus := fact.providerTaskStatus
        usage := fact.usage
        usageStatus := fact.usageStatus
        reconciliationWarning := fact.reconciliationWarning
        amountMicrocredits := fact.providerAmountSubunits * providerBillingSubunitMicrocredits
        settledAt := fact.settledAt }

/-- `SettleTokenBilling`. -/
def settleTokenBilling (id : String) (fact : TokenSettlementFact)
    (consumeEntryID releaseEntryID : String) : DbTx Unit :=
  match fact.settlement id with
  | .error e => throw e
  | .ok settlement => settleTokenBillingTx id settlement false consumeEntryID releaseEntryID

/-- The settlement of `settleTokenBillingFromResponseUsageTx`, or the error its checks return. -/
def ResponseUsageSettlementFact.settlement (id : String) (fact : ResponseUsageSettlementFact) :
    Except RepoError TokenBillingSettlement :=
  if isBlank id || isBlank fact.providerRequestID || fact.usageStatus ≠ "reported" ||
      fact.amountMicrocredits ≤ 0 || isZero fact.settledAt || fact.usage.inputTokens ≤ 0 ||
      fact.usage.cachedTokens < 0 || fact.usage.outputTokens ≤ 0 ||
      fact.usage.cachedTokens > fact.usage.inputTokens ||
      fact.usage.inputTokens > maxInt64 - fact.usage.outputTokens then
    .error (.text "response usage settlement facts are invalid")
  else
    .ok
      { providerRequestID := trimSpace fact.providerRequestID
        providerBillingAmount := fact.amountMicrocredits
        providerBillingStatus := "succeeded"
        providerBillingUnit := "microcredit"
        providerBillingTotalTokens := fact.usage.inputTokens + fact.usage.outputTokens
        providerTaskStatus := "succeeded"
        usage := fact.usage
        usageStatus := fact.usageStatus
        amountMicrocredits := fact.amountMicrocredits
        settledAt := fact.settledAt }

/-- `settleTokenBillingFromResponseUsageTx`. -/
def settleTokenBillingFromResponseUsageTx (id : String) (fact : ResponseUsageSettlementFact)
    (consumeEntryID releaseEntryID : String) : DbTx Unit :=
  match fact.settlement id with
  | .error e => throw e
  | .ok settlement =>
    settleTokenBillingTx (trimSpace id) settlement true consumeEntryID releaseEntryID

/-- `SettleTokenBillingFromResponseUsage`. -/
def settleTokenBillingFromResponseUsage (id : String) (fact : ResponseUsageSettlementFact)
    (consumeEntryID releaseEntryID : String) : DbTx Unit :=
  settleTokenBillingFromResponseUsageTx id fact consumeEntryID releaseEntryID

/-! ## Refunding -/

/-- `RefundTokenBilling`. -/
def refundTokenBilling (id providerOrderID : String) (providerAmountSubunits : ℤ)
    (providerTaskStatus : String) (providerTotalTokens : ℤ) (errorText entryID : String)
    (now : Time) : DbTx Unit := do
  if isBlank id || isBlank providerOrderID || providerAmountSubunits ≠ 0 ||
      isBlank providerTaskStatus || providerTotalTokens < 0 then
    throw (RepoError.text "token billing refund facts are invalid")
  let order ← firstForUpdate (.billingOrder id)
  if order.billingMode ≠ "token_usage" then
    throw errBillingStateConflict
  if order.status = .refunded then
    if order.providerBillingOrderID = providerOrderID ∧
        order.providerBillingAmount = providerAmountSubunits ∧
        order.providerBillingStatus = "failed" ∧
        order.providerTaskStatus = providerTaskStatus ∧
        order.providerBillingTotalTokens = providerTotalTokens then
      return
    throw errBillingStateConflict
  if order.status = .settled then
    throw errBillingStateConflict
  let _ ← Prog.update (.billingOrder id) (fun _ ↦ true) fun o ↦
    .ok (o.observeNoCharge providerOrderID providerAmountSubunits providerTaskStatus
      providerTotalTokens)
  refundBillingOrderTx id order errorText entryID now

end HMaigc
