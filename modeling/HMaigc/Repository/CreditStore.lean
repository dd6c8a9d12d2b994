import HMaigc.Repository.Membership

/-!
# Credit top-up products and orders

`repository/credit_store.go`: editing a product, ordering one, and paying or cancelling the order.
Paying posts one ledger entry under the reference key `credit-topup:<order>` (`topupReferenceKey`),
which the unique index of the ledger makes the order's one and only credit.

An order takes its place in the stock of a product under the lock of the product's row, and paying
it counts it as sold under the same lock.  Editing a product does not lock it before it writes
(`saveCreditTopupProduct`).
-/

set_option autoImplicit false

namespace HMaigc

open Sql Go

def errCreditTopupOrderNotPending : RepoError := .text "credit topup order is not pending"

def errCreditProductExpired : RepoError := .text "credit product sale has ended"

def errCreditProductChanged : RepoError := .text "credit product changed while creating order"

def errCreditProductOutOfStock : RepoError := .text "credit product is out of stock"

def errCreditProductWeeklyLimit : RepoError := .text "credit product weekly purchase limit reached"

/-- The reference key of the credits of a top-up order. -/
def topupReferenceKey (orderID : String) : String := "credit-topup:" ++ orderID

/-! ## Products -/

/-- Another product has the code. -/
def productCodeTaken (id code : String) (s : Store) : Bool :=
  s.any fun
    | .creditTopupProduct id', p => id' ≠ id && p.code = code
    | _, _ => false

/-- `CreateCreditTopupProductIfMissing`. -/
def createCreditTopupProductIfMissing (id : String) (product : CreditTopupProduct) :
    DbTx Unit := do
  let _ ← Prog.createUnlessTaken (.creditTopupProduct id) product .duplicatedKey
    [.index (.topupProductCode product.code)] fun v ↦ v.any fun
      | .creditTopupProduct _, p => p.code = product.code
      | _, _ => false

/-- `tx.Save(product)`: all columns of the row, whatever they were. -/
def overwriteProduct (id : String) (product : CreditTopupProduct) : DbTx Unit :=
  Prog.statement (fun _ ↦ [.index (.topupProductCode product.code)]) fun v ↦
    if productCodeTaken id product.code v then .error .duplicatedKey
    else .ok ([⟨.creditTopupProduct id, product⟩], ())

/-- `SaveCreditTopupProduct`.  The product is read without a lock, and its sold count is written back
with the edited columns. -/
def saveCreditTopupProduct (id : String) (product : CreditTopupProduct) (auditID : String)
    (audit : AdminAuditEvent) : DbTx Unit := do
  let existing ← Prog.query fun v : Store ↦ v.lookup (.creditTopupProduct id)
  match existing with
  | none =>
    Prog.create (.creditTopupProduct id) product .duplicatedKey
      [.index (.topupProductCode product.code)] (productCodeTaken id product.code)
  | some existing =>
    overwriteProduct id
      { product with soldCount := existing.soldCount, createdAt := existing.createdAt }
  Prog.create (.adminAuditEvent auditID) audit .duplicatedKey

/-! ## Orders -/

/-- The order with this idempotency key. -/
def topupOrderByIdempotencyKey (userID idempotencyKey : String) (s : Store) :
    Option (String × CreditTopupOrder) :=
  (s.select fun
    | .creditTopupOrder id, o =>
      if o.userID = userID ∧ o.idempotencyKey = idempotencyKey then some (id, o) else none
    | _, _ => none).head?

/-- The row is an order of the product in this status. -/
def isTopupOrder (productID : String) (status : PayableOrderStatus) : ∀ k, Row k → Bool
  | .creditTopupOrder _, o => o.productID = productID && o.status = status
  | _, _ => false

/-- The number of orders of a product in a status. -/
def topupOrders (productID : String) (status : PayableOrderStatus) (s : Store) : ℕ :=
  s.count (isTopupOrder productID status)

/-- The orders of a user that count against the weekly limit of a product. -/
def weeklyOrders (userID productID : String) (weekStart : Time) (s : Store) : ℕ :=
  s.count fun
    | .creditTopupOrder _, o =>
      o.userID = userID && o.productID = productID &&
        (o.status = .pending || o.status = .paid) && weekStart ≤ o.createdAt
    | _, _ => false

/-- Another order has the number. -/
def topupOrderNumberTaken (orderNumber : String) (s : Store) : Bool :=
  s.any fun
    | .creditTopupOrder _, o => o.orderNumber = orderNumber
    | _, _ => false

/-- There is room in the stock of the product, and in the user's week. -/
def requireProductAvailable (order : CreditTopupOrder) (product : CreditTopupProduct)
    (now : Time) : DbTx Unit := do
  if 0 ≤ product.stockLimit then
    let pending ← Prog.query (topupOrders order.productID .pending)
    if product.soldCount + pending ≥ product.stockLimit then
      throw errCreditProductOutOfStock
  if 0 < product.weeklyPurchaseLimit then
    let weekStart := now - second (7 * 24 * 60 * 60)
    let count ← Prog.query (weeklyOrders order.userID order.productID weekStart)
    if count ≥ product.weeklyPurchaseLimit then
      throw errCreditProductWeeklyLimit

/-- `INSERT … ON CONFLICT (user_id, idempotency_key) DO NOTHING`, and the order that is there
then. -/
def insertTopupOrder (id : String) (order : CreditTopupOrder) :
    DbTx ((String × CreditTopupOrder) × Bool) := do
  let rows ← Prog.createUnlessTaken (.creditTopupOrder id) order .duplicatedKey
    [.index (.topupOrderIdempotency order.userID order.idempotencyKey),
      .index (.topupOrderNumber order.orderNumber)]
    (fun v ↦ (topupOrderByIdempotencyKey order.userID order.idempotencyKey v).isSome)
    (topupOrderNumberTaken order.orderNumber)
  if rows = 1 then
    return ((id, order), true)
  let some existing ← Prog.query (topupOrderByIdempotencyKey order.userID order.idempotencyKey)
    | throw RepoError.recordNotFound
  return (existing, false)

/-- `CreateCreditTopupOrder`; `digestOf` is the hash of the product's JSON. -/
def createCreditTopupOrder (digestOf : String → CreditTopupProduct → String) (id : String)
    (order : CreditTopupOrder) (now : Time) : DbTx ((String × CreditTopupOrder) × Bool) := do
  let replay ← Prog.query (topupOrderByIdempotencyKey order.userID order.idempotencyKey)
  match replay with
  | some replay => return (replay, false)
  | none =>
    let product ← firstForUpdate (.creditTopupProduct order.productID) fun p ↦ p.enabled
    if product.saleEndsAt.any (· ≤ now) then
      throw errCreditProductExpired
    if order.requestHash ≠ digestOf order.productID product then
      throw errCreditProductChanged
    requireProductAvailable order product now
    insertTopupOrder id order

/-- The columns that cancel a top-up order. -/
def CreditTopupOrder.cancel (order : CreditTopupOrder) (resolutionNote : String) :
    CreditTopupOrder :=
  { order with status := .cancelled, resolutionNote := resolutionNote }

/-- The columns that mark a top-up order paid. -/
def CreditTopupOrder.pay (order : CreditTopupOrder) (provider providerTradeNo : String)
    (now : Time) : CreditTopupOrder :=
  { order with
    status := .paid
    paymentProvider := provider
    providerTradeNo := providerTradeNo
    resolutionNote := "支付渠道回调自动到账"
    paidAt := some now }

/-- `CancelCreditTopupOrder`. -/
def cancelCreditTopupOrder (userID id : String) : DbTx Unit := do
  let order ← firstForUpdate (.creditTopupOrder id) fun o ↦ o.userID = userID
  if order.status ≠ .pending then
    throw errCreditTopupOrderNotPending
  rejectPayablePaymentTx .creditTopup id
  let rows ← Prog.update (.creditTopupOrder id)
    (fun o ↦ o.userID = userID && o.status = .pending) fun o ↦
      .ok (o.cancel "用户主动取消订单")
  if rows ≠ 1 then throw errCreditTopupOrderNotPending
  let _ ← updateCheckouts
    (fun c ↦ c.orderID = id && c.orderType = .creditTopup && c.status = .active) .expired

/-- The ledger entry of a paid top-up order. -/
def topupEntry (orderID : String) (order : CreditTopupOrder) (account : CreditAccount) :
    CreditLedgerEntry where
  payer := .user order.userID
  type := .topup
  amountMicrocredits := order.totalMicrocredits
  availableDeltaMicrocredits := order.totalMicrocredits
  availableAfterMicrocredits := account.availableMicrocredits
  reservedAfterMicrocredits := account.reservedMicrocredits
  actorUserID := systemActorID
  scene := "credit_store"
  note := "积分超市订单 " ++ order.orderNumber
  referenceKey := some (topupReferenceKey orderID)

/-- `fulfillCreditTopupOrderTx`. -/
def fulfillCreditTopupOrderTx (orderID provider providerTradeNo entryID : String) (now : Time) :
    DbTx Unit := do
  let order ← firstForUpdate (.creditTopupOrder orderID)
  if order.status ≠ .pending then
    throw errCreditTopupOrderNotPending
  let rows ← Prog.update (.creditTopupOrder orderID) (fun o ↦ o.status = .pending) fun o ↦
    .ok (o.pay provider providerTradeNo now)
  if rows ≠ 1 then throw errCreditTopupOrderNotPending
  grantToAccount (.user order.userID) order.totalMicrocredits entryID (topupEntry orderID order)
  let _ ← Prog.update (.creditTopupProduct order.productID) (fun _ ↦ true) fun p ↦
    .ok { p with soldCount := p.soldCount + 1 }

end HMaigc
