import HMaigc.Model.Store

/-!
# Reserving, settling and refunding billing orders, and granting credits

`repository/finance.go`, as far as it moves credits.  Every function is one transaction (or, with
the suffix `Tx`, a part of one); the identifiers the source draws at random and the clock it reads
are arguments.

The source writes most of these functions twice in one body, once for the team account and once for
the personal one.  Where the two branches differ in the table only they are one piece of code here,
over a `Payer`, and the branch of the source picks the payer.
-/

set_option autoImplicit false

namespace HMaigc

open Sql Go

/-! ## Errors -/

def errInsufficientCredits : RepoError := .text "insufficient credits"

def errRedeemCodeInvalid : RepoError := .text "redeem code invalid"

def errBillingStateConflict : RepoError := .text "billing state conflict"

def errTeamMemberCreditLimit : RepoError := .text "team member monthly credit limit reached"

/-- The error of a release that finds less reserved than the order's amount. -/
def errReservedInconsistent : Payer → RepoError
  | .user _ => .text "reserved credit balance is inconsistent"
  | .team _ => .text "team reserved credit balance is inconsistent"

/-! ## What statements do to rows -/

/-- `SET available_microcredits = available_microcredits + ?, reserved_microcredits = … + ?`. -/
def CreditAccount.move (account : CreditAccount) (available reserved : ℤ) :
    Except RepoError CreditAccount := do
  let a ← bigint .outOfRange (account.availableMicrocredits + available)
  let r ← bigint .outOfRange (account.reservedMicrocredits + reserved)
  return ⟨a, r⟩

theorem CreditAccount.move_ok {account account' : CreditAccount} {available reserved : ℤ}
    (h : account.move available reserved = .ok account') :
    account'.availableMicrocredits = account.availableMicrocredits + available ∧
      account'.reservedMicrocredits = account.reservedMicrocredits + reserved ∧
      IsInt64 account'.availableMicrocredits ∧ IsInt64 account'.reservedMicrocredits := by
  unfold CreditAccount.move at h
  cases ha : bigint RepoError.outOfRange (account.availableMicrocredits + available) with
  | error e => rw [ha] at h; cases h
  | ok a =>
    cases hr : bigint RepoError.outOfRange (account.reservedMicrocredits + reserved) with
    | error e => rw [ha, hr] at h; cases h
    | ok r =>
      rw [ha, hr] at h
      cases h
      obtain ⟨ha', hain⟩ := bigint_ok ha
      obtain ⟨hr', hrin⟩ := bigint_ok hr
      exact ⟨ha', hr', ha' ▸ hain, hr' ▸ hrin⟩

namespace BillingOrder

/-- The columns that end the reconciliation of an order. -/
def stopReconciling (order : BillingOrder) : BillingOrder :=
  { order with
    nextReconcileAt := none
    reconcileLeaseOwner := ""
    reconcileLeaseToken := ""
    reconcileLeaseExpiresAt := none }

/-- The `orderUpdates` of `SettleBillingOrder`. -/
def settle (order : BillingOrder) (providerRequestID : String) (now : Time) : BillingOrder :=
  { order.stopReconciling with
    status := .settled
    settledAt := some now
    providerRequestID :=
      if providerRequestID ≠ "" then providerRequestID else order.providerRequestID }

/-- The order columns `refundBillingOrderTx` sets. -/
def refund (order : BillingOrder) (errorText : String) (now : Time) : BillingOrder :=
  { order.stopReconciling with
    status := .refunded
    error := errorText
    refundedAt := some now }

/-- `uncertainBillingUpdates`, applied to `row`: only an order whose provider request can be looked
up again is scheduled for reconciliation.  Whether it can is read off `order`, the order as the
transaction read it. -/
def uncertain (row order : BillingOrder) (errorText : String) (now : Time) : BillingOrder :=
  { row with
    status := .uncertain
    error := errorText
    nextReconcileAt :=
      if order.billingMode ≠ "token_usage" ∧ ¬isBlank order.providerRequestID ∧
          ¬isBlank order.providerEndpointVersionID ∧
          ¬isBlank order.providerCredentialVersionID then
        some (now + second 5)
      else row.nextReconcileAt }

/-- The columns that say an order has started. -/
def start (order : BillingOrder) (now : Time) : BillingOrder :=
  { order with status := .running, startedAt := some now }

/-- The error column replaced. -/
def noteError (order : BillingOrder) (errorText : String) : BillingOrder :=
  { order with error := errorText }

/-- The columns `RecordBillingResolution` sets. -/
def resolve (order : BillingOrder) (actorUserID note : String) : BillingOrder :=
  { order with resolvedBy := actorUserID, resolutionNote := note }

/-- The provider's identifier of the request replaced. -/
def noteProviderRequest (order : BillingOrder) (providerRequestID : String) : BillingOrder :=
  { order with providerRequestID := providerRequestID }

section Lemmas

variable (order row : BillingOrder) (text note : String) (now : Time)

@[simp] theorem settle_status : (order.settle text now).status = .settled := rfl

@[simp] theorem settle_amount :
    (order.settle text now).amountMicrocredits = order.amountMicrocredits := rfl

@[simp] theorem settle_payer : (order.settle text now).payer = order.payer := rfl

@[simp] theorem refund_status : (order.refund text now).status = .refunded := rfl

@[simp] theorem refund_amount :
    (order.refund text now).amountMicrocredits = order.amountMicrocredits := rfl

@[simp] theorem refund_payer : (order.refund text now).payer = order.payer := rfl

@[simp] theorem uncertain_status : (row.uncertain order text now).status = .uncertain := rfl

@[simp] theorem uncertain_amount :
    (row.uncertain order text now).amountMicrocredits = row.amountMicrocredits := rfl

@[simp] theorem uncertain_payer : (row.uncertain order text now).payer = row.payer := rfl

@[simp] theorem start_status : (order.start now).status = .running := rfl

@[simp] theorem start_amount :
    (order.start now).amountMicrocredits = order.amountMicrocredits := rfl

@[simp] theorem start_payer : (order.start now).payer = order.payer := rfl

@[simp] theorem noteError_status : (order.noteError text).status = order.status := rfl

@[simp] theorem noteError_amount :
    (order.noteError text).amountMicrocredits = order.amountMicrocredits := rfl

@[simp] theorem noteError_payer : (order.noteError text).payer = order.payer := rfl

@[simp] theorem resolve_status : (order.resolve text note).status = order.status := rfl

@[simp] theorem resolve_amount :
    (order.resolve text note).amountMicrocredits = order.amountMicrocredits := rfl

@[simp] theorem resolve_payer : (order.resolve text note).payer = order.payer := rfl

@[simp] theorem noteProviderRequest_status :
    (order.noteProviderRequest text).status = order.status := rfl

@[simp] theorem noteProviderRequest_amount :
    (order.noteProviderRequest text).amountMicrocredits = order.amountMicrocredits := rfl

@[simp] theorem noteProviderRequest_payer :
    (order.noteProviderRequest text).payer = order.payer := rfl

end Lemmas

/-- The columns a ledger entry copies from its order. -/
def ledgerEntry (order : BillingOrder) (id : String) (type : CreditLedgerType) :
    CreditLedgerEntry where
  payer := order.payer
  type := type
  billingOrderID := id
  -- only the team table records who acted for a payer
  actorUserID := if order.teamID ≠ "" then order.userID else ""
  model := order.model
  channelID := order.channelID
  scene := order.scene

variable (order : BillingOrder) (id : String)

/-- The entry of a reservation. -/
def reserveEntry (account : CreditAccount) : CreditLedgerEntry :=
  { order.ledgerEntry id .reserve with
    availableDeltaMicrocredits := -order.amountMicrocredits
    reservedDeltaMicrocredits := order.amountMicrocredits
    availableAfterMicrocredits := account.availableMicrocredits
    reservedAfterMicrocredits := account.reservedMicrocredits }

/-- The entry of a settlement. -/
def consumeEntry (account : CreditAccount) : CreditLedgerEntry :=
  { order.ledgerEntry id .consume with
    amountMicrocredits := -order.amountMicrocredits
    reservedDeltaMicrocredits := -order.amountMicrocredits
    availableAfterMicrocredits := account.availableMicrocredits
    reservedAfterMicrocredits := account.reservedMicrocredits }

/-- The entry of a refund. -/
def refundEntry (account : CreditAccount) (errorText : String) : CreditLedgerEntry :=
  { order.ledgerEntry id .refund with
    amountMicrocredits := order.amountMicrocredits
    availableDeltaMicrocredits := order.amountMicrocredits
    reservedDeltaMicrocredits := -order.amountMicrocredits
    availableAfterMicrocredits := account.availableMicrocredits
    reservedAfterMicrocredits := account.reservedMicrocredits
    note := errorText }

end BillingOrder

/-! ## Ledger entries -/

/-- Does a ledger entry of the book with this reference key exist? -/
def ledgerReferenceTaken (book : Book) (referenceKey : Option String) (s : Store) : Bool :=
  s.any fun
    | .creditLedgerEntry b _, e => b = book && e.referenceKey.isSome && e.referenceKey = referenceKey
    | _, _ => false

/-- The index entry a reference key occupies. -/
def ledgerReferenceIndex (book : Book) : Option String → List RowKey
  | some key => [.index (.creditLedgerReference book key)]
  | none => []

/-- `tx.Create(&entry)` for a ledger entry. -/
def createLedgerEntry (id : String) (entry : CreditLedgerEntry) : DbTx Unit :=
  Prog.create (.creditLedgerEntry entry.payer.book id) entry .duplicatedKey
    (ledgerReferenceIndex entry.payer.book entry.referenceKey)
    (ledgerReferenceTaken entry.payer.book entry.referenceKey)

/-- `tx.Clauses(clause.OnConflict{DoNothing: true}).Create(&account)`. -/
def createAccountIfMissing (payer : Payer) : DbTx ℕ :=
  Prog.createIgnore (.creditAccount payer) {}

/-- The account row after `UPDATE`, as the source reads it back for the ledger. -/
def readAccount (payer : Payer) : DbTx CreditAccount :=
  first (.creditAccount payer)

/-! ## Granting credits -/

/-- The entry `GrantCreditsOnce` inserts, before the account has moved. -/
def grantEntry (userID : String) (entryType : CreditLedgerType) (amount : ℤ)
    (referenceKey note : String) : CreditLedgerEntry where
  payer := .user userID
  type := entryType
  amountMicrocredits := amount
  note := note
  referenceKey := some referenceKey

/-- The columns `GrantCreditsOnce` fills in after the account has moved. -/
def CreditLedgerEntry.fillIn (entry : CreditLedgerEntry) (amount : ℤ) (account : CreditAccount) :
    CreditLedgerEntry :=
  { entry with
    availableDeltaMicrocredits := amount
    availableAfterMicrocredits := account.availableMicrocredits
    reservedAfterMicrocredits := account.reservedMicrocredits }

/-- `GrantCreditsOnce`: the reference key is taken before the account moves, so that one business
event is credited once. -/
def grantCreditsOnce (userID : String) (entryType : CreditLedgerType) (amount : ℤ)
    (referenceKey note entryID : String) : DbTx (CreditAccount × Bool) := do
  let _ ← createAccountIfMissing (.user userID)
  -- a taken reference key is a conflict that is ignored, a taken identifier is an error
  let created ← Prog.createUnlessTaken (.creditLedgerEntry .personal entryID)
    (grantEntry userID entryType amount referenceKey note) .duplicatedKey
    [.index (.creditLedgerReference .personal referenceKey)]
    (ledgerReferenceTaken .personal (some referenceKey))
  if created = 0 then
    let account ← readAccount (.user userID)
    return (account, false)
  let _ ← Prog.update (.creditAccount (.user userID)) (fun _ ↦ true) fun a ↦ a.move amount 0
  let account ← readAccount (.user userID)
  let _ ← Prog.update (.creditLedgerEntry .personal entryID) (fun _ ↦ true) fun e ↦
    .ok (e.fillIn amount account)
  return (account, true)

/-- The entry of an administrator's adjustment. -/
def adjustEntry (userID actorUserID : String) (amount : ℤ) (note : String)
    (account : CreditAccount) : CreditLedgerEntry where
  payer := .user userID
  type := if amount > 0 then .adminGrant else .adminAdjust
  amountMicrocredits := amount
  availableDeltaMicrocredits := amount
  availableAfterMicrocredits := account.availableMicrocredits
  reservedAfterMicrocredits := account.reservedMicrocredits
  actorUserID := actorUserID
  note := note

/-- `AdjustCredits`. -/
def adjustCredits (userID actorUserID : String) (amount : ℤ) (note entryID : String) :
    DbTx CreditAccount := do
  let _ ← createAccountIfMissing (.user userID)
  let updated ← Prog.update (.creditAccount (.user userID))
    (fun a ↦ 0 ≤ a.availableMicrocredits + amount) fun a ↦ a.move amount 0
  if updated ≠ 1 then throw errInsufficientCredits
  let account ← readAccount (.user userID)
  createLedgerEntry entryID (adjustEntry userID actorUserID amount note account)
  return account

/-- The identifier and the row of the redeem code with this hash. -/
def redeemCodeByHash (codeHash : String) (s : Store) : Option (String × RedeemCode) :=
  (s.select fun
    | .redeemCode id, c => if c.codeHash = codeHash then some (id, c) else none
    | _, _ => none).head?

/-- The columns that mark a redeem code used. -/
def RedeemCode.redeem (code : RedeemCode) (userID redeemedIP : String) (now : Time) : RedeemCode :=
  { code with
    status := .redeemed
    redeemedBy := userID
    redeemedAt := some now
    redeemedIP := redeemedIP }

/-- The entry of a redeemed code. -/
def redeemEntry (userID codeID : String) (amount : ℤ) (account : CreditAccount) :
    CreditLedgerEntry where
  payer := .user userID
  type := .redeem
  amountMicrocredits := amount
  availableDeltaMicrocredits := amount
  availableAfterMicrocredits := account.availableMicrocredits
  reservedAfterMicrocredits := account.reservedMicrocredits
  redeemCodeID := codeID
  note := "兑换码充值"

/-- `RedeemCode`. -/
def redeemCode (userID codeHash redeemedIP entryID : String) (now : Time) :
    DbTx CreditAccount := do
  let some (id, code) ← Prog.query (redeemCodeByHash codeHash) | throw errRedeemCodeInvalid
  let updated ← Prog.update (.redeemCode id)
    (fun c ↦ c.status = .unused && (code.expiresAt.isNone || c.expiresAt.any (now < ·)))
    fun c ↦ .ok (c.redeem userID redeemedIP now)
  if updated ≠ 1 then throw errRedeemCodeInvalid
  let _ ← createAccountIfMissing (.user userID)
  let _ ← Prog.update (.creditAccount (.user userID)) (fun _ ↦ true) fun a ↦
    a.move code.amountMicrocredits 0
  let account ← readAccount (.user userID)
  createLedgerEntry entryID (redeemEntry userID id code.amountMicrocredits account)
  return account

/-! ## Reserving -/

/-- The bounds of the calendar month in which a reservation is made. -/
structure Month where
  start : Time
  stop : Time

/-- `SELECT COALESCE(SUM(amount_microcredits), 0)` over the month's orders of a team member. -/
def monthlyUsage (teamID userID : String) (month : Month) (s : Store) : ℤ :=
  s.total fun
    | .billingOrder _, o =>
      if o.teamID = teamID ∧ o.userID = userID ∧ month.start ≤ o.createdAt ∧
          o.createdAt < month.stop ∧ o.status ≠ .refunded then
        o.amountMicrocredits
      else 0
    | _, _ => 0

/-- The team branch's check of the member's monthly limit. -/
def checkMemberLimit (order : BillingOrder) (month : Month) : DbTx Unit := do
  let member ← firstForUpdate (.teamMember order.teamID order.userID)
    fun m ↦ m.status = .active
  if member.monthlyCreditLimitMicrocredits > 0 then
    let used ← Prog.statement (fun _ ↦ []) fun v ↦
      (bigint RepoError.outOfRange (monthlyUsage order.teamID order.userID month v)).map ([], ·)
    if wrap64 (used + order.amountMicrocredits) > member.monthlyCreditLimitMicrocredits then
      throw errTeamMemberCreditLimit

/-- Another order of the user has the idempotency key. -/
def idempotencyKeyTaken (order : BillingOrder) (s : Store) : Bool :=
  s.any fun
    | .billingOrder _, o => o.userID = order.userID && o.idempotencyKey = order.idempotencyKey
    | _, _ => false

/-- `tx.Create(order)`. -/
def createBillingOrder (id : String) (order : BillingOrder) : DbTx Unit :=
  Prog.create (.billingOrder id) order .duplicatedKey
    [.index (.billingIdempotency order.userID order.idempotencyKey)] (idempotencyKeyTaken order)

/-- What both branches of `reserveBillingOrder` do with the paying account. -/
def reserveFromAccount (id : String) (order : BillingOrder) (entryID : String) : DbTx Unit := do
  let _ ← createAccountIfMissing order.payer
  let updated ← Prog.update (.creditAccount order.payer)
    (fun a ↦ order.amountMicrocredits ≤ a.availableMicrocredits)
    fun a ↦ a.move (-order.amountMicrocredits) order.amountMicrocredits
  if updated ≠ 1 then throw errInsufficientCredits
  let account ← readAccount order.payer
  createBillingOrder id order
  createLedgerEntry entryID (order.reserveEntry id account)

/-- `reserveBillingOrder`. -/
def reserveBillingOrder (id : String) (order : BillingOrder) (month : Month) (entryID : String) :
    DbTx Unit := do
  if order.teamID ≠ "" then
    checkMemberLimit order month
  reserveFromAccount id order entryID

/-! ## Settling and refunding -/

/-- What both branches of `SettleBillingOrder` do: the reservation leaves the account for good. -/
def settleReservation (id : String) (order : BillingOrder) (providerRequestID entryID : String)
    (now : Time) : DbTx Unit := do
  let updated ← Prog.update (.creditAccount order.payer)
    (fun a ↦ order.amountMicrocredits ≤ a.reservedMicrocredits)
    fun a ↦ a.move 0 (-order.amountMicrocredits)
  if updated ≠ 1 then throw (errReservedInconsistent order.payer)
  let account ← readAccount order.payer
  let _ ← Prog.update (.billingOrder id) (fun _ ↦ true) fun o ↦
    .ok (o.settle providerRequestID now)
  createLedgerEntry entryID (order.consumeEntry id account)

/-- `SettleBillingOrder`.  The order is read without a lock, and the later `UPDATE` of it is keyed by
its identifier only. -/
def settleBillingOrder (id providerRequestID entryID : String) (now : Time) : DbTx Unit := do
  let order ← first (.billingOrder id)
  if order.status = .settled then
    return
  if order.status = .refunded then
    throw (RepoError.text "billing order already refunded")
  settleReservation id order providerRequestID entryID now

/-- `refundBillingOrderTx`: the reservation goes back to the available balance. -/
def refundBillingOrderTx (id : String) (order : BillingOrder) (errorText entryID : String)
    (now : Time) : DbTx Unit := do
  let updated ← Prog.update (.creditAccount order.payer)
    (fun a ↦ order.amountMicrocredits ≤ a.reservedMicrocredits)
    fun a ↦ a.move order.amountMicrocredits (-order.amountMicrocredits)
  if updated ≠ 1 then throw (errReservedInconsistent order.payer)
  let account ← readAccount order.payer
  let _ ← Prog.update (.billingOrder id) (fun _ ↦ true) fun o ↦ .ok (o.refund errorText now)
  createLedgerEntry entryID (order.refundEntry id account errorText)

/-- `RefundBillingOrder`. -/
def refundBillingOrder (id errorText entryID : String) (now : Time) : DbTx Unit := do
  let order ← first (.billingOrder id)
  if order.status = .refunded then
    return
  if order.status = .settled then
    throw (RepoError.text "settled billing order requires a manual refund")
  refundBillingOrderTx id order errorText entryID now

/-! ## Moving between the open statuses -/

/-- `MarkBillingRunning`. -/
def markBillingRunning (id : String) (now : Time) : DbTx Unit := do
  if id = "" then
    return
  let order ← first (.billingOrder id)
  if order.status = .running then
    return
  let rows ← Prog.update (.billingOrder id) (fun o ↦ o.status = .reserved) fun o ↦
    .ok (o.start now)
  if rows ≠ 1 then throw errBillingStateConflict

/-- `MarkBillingUncertain`. -/
def markBillingUncertain (id errorText : String) (now : Time) : DbTx Unit := do
  if isBlank id then
    throw errBillingStateConflict
  let order ← firstForUpdate (.billingOrder (trimSpace id))
  if !order.status.isOpen then
    throw errBillingStateConflict
  let rows ← Prog.update (.billingOrder (trimSpace id)) (fun o ↦ o.status.isOpen) fun o ↦
    .ok (o.uncertain order errorText now)
  if rows ≠ 1 then throw errBillingStateConflict

/-- `RecordBillingResolution`. -/
def recordBillingResolution (id actorUserID note : String) : DbTx Unit := do
  let _ ← Prog.update (.billingOrder id) (fun _ ↦ true) fun o ↦
    .ok (o.resolve actorUserID note)

/-- `UpdateBillingProviderRequestID`. -/
def updateBillingProviderRequestID (id providerRequestID : String) : DbTx Unit := do
  if id = "" ∨ providerRequestID = "" then
    return
  let _ ← Prog.update (.billingOrder id) (fun _ ↦ true) fun o ↦
    .ok (o.noteProviderRequest providerRequestID)

end HMaigc
