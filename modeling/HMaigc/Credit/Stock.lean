import HMaigc.Sql.Contract
import HMaigc.Repository.Footprint

/-!
# The stock of a top-up product

A product with a stock limit is sold at most that often: its row counts the orders that were paid
(`sold_count`), and an order is taken only if the count and the orders still pending leave room.

* Only the holder of the lock on the product's row takes an order for it or counts one as sold; an
  order leaves the pending ones without that lock (`ProductContract.post`).
* `fulfillCreditTopupOrderTx` moves an order from the pending to the paid ones and counts it in one
  transaction (`Selling`).
* `saveCreditTopupProduct` writes back a sold count it has read without the lock.  If a fulfilment
  commits in between, that sale is forgotten for good (`lostSale`).  In the runs in which no product
  is saved over a sold count that has changed since it was read (`unspoilt`), everything above holds
  (`topup_stock`).
-/

set_option autoImplicit false

namespace HMaigc

open Sql Go Prog

/-! ## Sold and pending -/

/-- Every order of the product has it, and the row counts the paid ones. -/
structure Counted (productID : String) (s : Store) : Prop where
  product : ∀ id o, s.lookup (.creditTopupOrder id) = some o → o.productID = productID →
    (s.lookup (.creditTopupProduct productID)).isSome = true
  sold : ∀ p, s.lookup (.creditTopupProduct productID) = some p →
    p.soldCount = topupOrders productID .paid s

/-- The sold and the pending orders are within the limit, if there is one. -/
def InStock (productID : String) (s : Store) : Prop :=
  ∀ p, s.lookup (.creditTopupProduct productID) = some p → 0 ≤ p.stockLimit →
    p.soldCount + topupOrders productID .pending s ≤ p.stockLimit

/-- The stock limit is lower in `s'` than in `s`; a negative limit is none. -/
def LowersLimit (productID : String) (s s' : Store) : Prop :=
  ∃ p p', s.lookup (.creditTopupProduct productID) = some p ∧
    s'.lookup (.creditTopupProduct productID) = some p' ∧ 0 ≤ p'.stockLimit ∧
    (p.stockLimit < 0 ∨ p'.stockLimit < p.stockLimit)

/-- Nothing happens to the product, and nothing to its orders but that some are cancelled. -/
structure Undisturbed (productID : String) (s s' : Store) : Prop where
  product : s'.lookup (.creditTopupProduct productID) = s.lookup (.creditTopupProduct productID)
  orders : ∀ id o', s'.lookup (.creditTopupOrder id) = some o' → o'.productID = productID →
    ∃ o, s.lookup (.creditTopupOrder id) = some o ∧ o.productID = productID ∧
      (o'.status = .paid → o.status = .paid) ∧ (o'.status = .pending → o.status = .pending)
  paid : ∀ id o, s.lookup (.creditTopupOrder id) = some o → o.productID = productID →
    o.status = .paid → ∃ o', s'.lookup (.creditTopupOrder id) = some o' ∧
      o'.productID = productID ∧ o'.status = .paid

section Counting

variable {productID : String} {status status' : PayableOrderStatus} {s s' : Store}

theorem isTopupOrder_iff {id : String} {o : CreditTopupOrder} :
    isTopupOrder productID status (.creditTopupOrder id) o = true ↔
      o.productID = productID ∧ o.status = status := by
  simp [isTopupOrder]

/-- Counts of orders are compared order by order. -/
theorem topupOrders_le
    (h : ∀ id o, s.lookup (.creditTopupOrder id) = some o → o.productID = productID →
      o.status = status → ∃ o', s'.lookup (.creditTopupOrder id) = some o' ∧
        o'.productID = productID ∧ o'.status = status') :
    topupOrders productID status s ≤ topupOrders productID status' s' := by
  refine Db.count_le_count fun k r hr hcount ↦ ?_
  cases k with
  | creditTopupOrder id =>
    obtain ⟨hproduct, hstatus⟩ := isTopupOrder_iff.mp hcount
    obtain ⟨o', ho', hstep⟩ := h id r hr hproduct hstatus
    exact ⟨o', ho', isTopupOrder_iff.mpr hstep⟩
  | _ => cases hcount

/-- One order more. -/
theorem topupOrders_lt {id₀ : String} {o₀ : CreditTopupOrder}
    (h : ∀ id o, s.lookup (.creditTopupOrder id) = some o → o.productID = productID →
      o.status = status → ∃ o', s'.lookup (.creditTopupOrder id) = some o' ∧
        o'.productID = productID ∧ o'.status = status')
    (h₀ : s'.lookup (.creditTopupOrder id₀) = some o₀) (hproduct : o₀.productID = productID)
    (hstatus : o₀.status = status')
    (hnew : ∀ o, s.lookup (.creditTopupOrder id₀) = some o → o.status ≠ status) :
    topupOrders productID status s + 1 ≤ topupOrders productID status' s' := by
  refine Db.count_add_one_le_count (fun k r hr hcount ↦ ?_) h₀
    (isTopupOrder_iff.mpr ⟨hproduct, hstatus⟩) fun o ho ↦ ?_
  · cases k with
    | creditTopupOrder id =>
      obtain ⟨hproduct, hstatus⟩ := isTopupOrder_iff.mp hcount
      obtain ⟨o', ho', hstep⟩ := h id r hr hproduct hstatus
      exact ⟨o', ho', isTopupOrder_iff.mpr hstep⟩
    | _ => cases hcount
  · rw [Bool.eq_false_iff]
    exact fun hcount ↦ hnew o ho (isTopupOrder_iff.mp hcount).2

/-- All but one order. -/
theorem topupOrders_le_add_one {id₀ : String}
    (h : ∀ id o, id ≠ id₀ → s.lookup (.creditTopupOrder id) = some o → o.productID = productID →
      o.status = status → ∃ o', s'.lookup (.creditTopupOrder id) = some o' ∧
        o'.productID = productID ∧ o'.status = status') :
    topupOrders productID status s ≤ topupOrders productID status' s' + 1 := by
  refine Db.count_le_count_add_one (.creditTopupOrder id₀) fun k r hk hr hcount ↦ ?_
  cases k with
  | creditTopupOrder id =>
    obtain ⟨hproduct, hstatus⟩ := isTopupOrder_iff.mp hcount
    obtain ⟨o', ho', hstep⟩ := h id r (fun heq ↦ hk (heq ▸ rfl)) hr hproduct hstatus
    exact ⟨o', ho', isTopupOrder_iff.mpr hstep⟩
  | _ => cases hcount

theorem Undisturbed.paid_eq (h : Undisturbed productID s s') :
    topupOrders productID .paid s' = topupOrders productID .paid s := by
  refine le_antisymm (topupOrders_le fun id o' ho' hproduct hpaid ↦ ?_) (topupOrders_le h.paid)
  obtain ⟨o, ho, hproduct, hpaid', -⟩ := h.orders id o' ho' hproduct
  exact ⟨o, ho, hproduct, hpaid' hpaid⟩

theorem Undisturbed.pending_le (h : Undisturbed productID s s') :
    topupOrders productID .pending s' ≤ topupOrders productID .pending s := by
  refine topupOrders_le fun id o' ho' hproduct hpending ↦ ?_
  obtain ⟨o, ho, hproduct, -, hpending'⟩ := h.orders id o' ho' hproduct
  exact ⟨o, ho, hproduct, hpending' hpending⟩

theorem Undisturbed.counted (h : Undisturbed productID s s') (hs : Counted productID s) :
    Counted productID s' := by
  refine ⟨fun id o' ho' hproduct ↦ ?_, fun p hp ↦ ?_⟩
  · obtain ⟨o, ho, hproduct, -⟩ := h.orders id o' ho' hproduct
    rw [h.product]
    exact hs.product id o ho hproduct
  · rw [h.paid_eq]
    exact hs.sold p (h.product ▸ hp)

theorem Undisturbed.inStock (h : Undisturbed productID s s') (hs : InStock productID s) :
    InStock productID s' := by
  intro p hp hlimit
  have hle := hs p (h.product ▸ hp) hlimit
  have hpending := h.pending_le
  omega

end Counting

/-! ## Calls -/

/-- The rows of products and of their orders. -/
def RowKey.isTopup : RowKey → Bool
  | .creditTopupOrder _ | .creditTopupProduct _ => true
  | _ => false

section IsTopup

variable (id : String)

@[simp] theorem isTopup_creditAccount (p : Payer) : (RowKey.creditAccount p).isTopup = false := rfl
@[simp] theorem isTopup_creditLedgerEntry (b : Book) :
    (RowKey.creditLedgerEntry b id).isTopup = false := rfl
@[simp] theorem isTopup_referralRelationship :
    (RowKey.referralRelationship id).isTopup = false := rfl
@[simp] theorem isTopup_referralReward : (RowKey.referralReward id).isTopup = false := rfl
@[simp] theorem isTopup_membershipSubscription :
    (RowKey.membershipSubscription id).isTopup = false := rfl
@[simp] theorem isTopup_paymentTransaction : (RowKey.paymentTransaction id).isTopup = false := rfl
@[simp] theorem isTopup_paymentWebhookEvent :
    (RowKey.paymentWebhookEvent id).isTopup = false := rfl
@[simp] theorem isTopup_adminAuditEvent : (RowKey.adminAuditEvent id).isTopup = false := rfl

end IsTopup

/-- Everything that edits a product or moves an order, and any other transaction, which leaves both
alone.  A product is edited without a sold count and an order is placed as pending. -/
inductive ProductCall where
  | saveProduct (id : String) (product : CreditTopupProduct) (auditID : String)
      (audit : AdminAuditEvent) (hsold : product.soldCount = 0)
  | createProductIfMissing (id : String) (product : CreditTopupProduct)
      (hsold : product.soldCount = 0)
  | createOrder (id : String) (order : CreditTopupOrder) (now : Time)
      (hpending : order.status = .pending)
  | cancelOrder (userID id : String)
  | closeTransaction (id : String) (now : Time) (audit : Option (String × AdminAuditEvent))
  | expireCheckout (id : String) (now : Time)
  | fulfill (input : PaymentFulfillment)
  | other (p : DbTx Unit) (hp : p.WritesOnly (·.isTopup = false))

namespace ProductCall

def prog (digestOf : String → CreditTopupProduct → String) (calendar : Calendar) :
    ProductCall → DbTx Unit
  | .saveProduct id product auditID audit _ => saveCreditTopupProduct id product auditID audit
  | .createProductIfMissing id product _ => createCreditTopupProductIfMissing id product
  | .createOrder id order now _ => do
    let _ ← createCreditTopupOrder digestOf id order now
  | .cancelOrder userID id => cancelCreditTopupOrder userID id
  | .closeTransaction id now audit => closePaymentTransactionAfterProviderConfirmation id now audit
  | .expireCheckout id now => do
    let _ ← expirePaymentCheckoutSession id now
  | .fulfill input => do
    let _ ← fulfillPaymentTransaction calendar input
  | .other p _ => p

/-- The call takes no order and sells none. -/
def isCalm : ProductCall → Prop
  | .cancelOrder .. | .closeTransaction .. | .expireCheckout .. | .other .. => True
  | _ => False

end ProductCall

/-- The runs in which a product is saved only over the sold count it was read with: no sale of it has
been committed in between. -/
def unspoilt (digestOf : String → CreditTopupProduct → String) (calendar : Calendar) :
    System ProductCall Row RepoError Unit where
  prog := ProductCall.prog digestOf calendar
  admits
    | .saveProduct id .., ws, s => ∀ p p', s.lookup (.creditTopupProduct id) = some p →
      (s.apply ws).lookup (.creditTopupProduct id) = some p' → p'.soldCount = p.soldCount
    | _, _, _ => True

/-! ## The contract -/

/-- A write that cancels an order at most. -/
def CalmStep : ∀ k, Option (Row k) → Row k → Prop
  | .creditTopupOrder _, old, new =>
    ∃ r, old = some r ∧ new.productID = r.productID ∧ (new.status = .paid ↔ r.status = .paid) ∧
      (new.status = .pending → r.status = .pending)
  | .creditTopupProduct _, _, _ => False
  | _, _, _ => True

attribute [local simp] CalmStep

theorem rowTrans_calmStep : RowTrans CalmStep := by
  intro k o r r' h h'
  cases k with
  | creditTopupOrder id =>
    obtain ⟨r₀, hr₀, hproduct, hpaid, hpending⟩ := h
    obtain ⟨r₁, hr₁, hproduct', hpaid', hpending'⟩ := h'
    cases hr₁
    exact ⟨r₀, hr₀, hproduct'.trans hproduct, hpaid'.trans hpaid, hpending ∘ hpending'⟩
  | creditTopupProduct id => exact h'
  | _ => trivial

theorem calmStep_of_notTopup {k : RowKey} {old : Option (Row k)} {new : Row k}
    (h : k.isTopup = false) : CalmStep k old new := by
  cases k with
  | creditTopupOrder id => cases h
  | creditTopupProduct id => cases h
  | _ => trivial

theorem undisturbed_of_calmStep {productID : String} {s s' : Store} (h : RowStep CalmStep s s') :
    Undisturbed productID s s' := by
  refine ⟨(h _).resolve_right fun ⟨_, _, hfalse⟩ ↦ hfalse, fun id o' ho' hproduct ↦ ?_,
    fun id o ho hproduct hpaid ↦ ?_⟩
  · rcases h (.creditTopupOrder id) with heq | ⟨r', hr', r, hr, hproduct', hpaid, hpending⟩
    · exact ⟨o', heq ▸ ho', hproduct, fun h ↦ h, fun h ↦ h⟩
    · cases hr'.symm.trans ho'
      exact ⟨r, hr, hproduct'.symm.trans hproduct, hpaid.mp, hpending⟩
  · rcases h (.creditTopupOrder id) with heq | ⟨r', hr', r, hr, hproduct', hpaid', -⟩
    · exact ⟨o, heq.trans ho, hproduct, hpaid⟩
    · cases hr.symm.trans ho
      exact ⟨r', hr', hproduct'.trans hproduct, hpaid'.mpr hpaid⟩

/-- What one write of a call does. -/
def ProductCall.rowStep (c : ProductCall) (k : RowKey) (old : Option (Row k)) (new : Row k) : Prop :=
  c.isCalm → CalmStep k old new

theorem ProductCall.rowTrans (c : ProductCall) : RowTrans c.rowStep :=
  fun k o r r' h h' hc ↦ rowTrans_calmStep k o r r' (h hc) (h' hc)

/-- What the calls promise one another: the sold count counts the paid orders, nobody takes an order
without the lock on the product's row, and nobody takes one that is not in stock. -/
def productContract (productID : String) : Contract RowKey ProductCall Row Unit where
  inv := Counted productID
  row := ProductCall.rowStep
  post _ locks _ s s' :=
    (.creditTopupProduct productID ∉ locks →
      topupOrders productID .pending s' ≤ topupOrders productID .pending s) ∧
    (InStock productID s → ¬LowersLimit productID s s' → InStock productID s')

/-! ### The calls that take no order and sell none -/

section Keeps

theorem calmStep_of_orderSide {α : Type} {p : DbTx α} (h : p.WritesOnly (·.isOrderSide)) :
    p.Keeps CalmStep fun _ ↦ True :=
  h.imp fun k _ _ hk ↦ by
    cases k with
    | paymentCheckoutSession id => trivial
    | adminAuditEvent id => trivial
    | _ => cases hk

theorem calmStep_cancel {id : String} {o : CreditTopupOrder} (h : o.status = .pending)
    (note : String) : CalmStep (.creditTopupOrder id) (some o) (o.cancel note) :=
  ⟨o, rfl, rfl, by simp [CreditTopupOrder.cancel, h], fun h ↦ by cases h⟩

theorem calmStep_cancelCreditTopupOrder (userID id : String) :
    (cancelCreditTopupOrder userID id).Keeps CalmStep fun _ ↦ True := by
  have hreject := (readOnly_rejectPayablePaymentTx .creditTopup id).keeps (T := CalmStep)
  have hcheckouts := calmStep_of_orderSide (writes_updateCheckouts
    (fun c ↦ c.orderID = id && c.orderType = .creditTopup && c.status = .active) .expired)
  rw [cancelCreditTopupOrder, keeps_bind, keeps_firstForUpdate]
  intro order _
  rw [keeps_ite]
  refine ⟨fun _ ↦ by simp, fun _ ↦ hreject.bind fun _ ↦ ?_⟩
  rw [keeps_bind, keeps_update]
  refine ⟨fun o ho o' ho' ↦ ?_, by simp⟩
  cases ho'
  rw [Bool.and_eq_true, decide_eq_true_eq, decide_eq_true_eq] at ho
  refine ⟨calmStep_cancel ho.2 _, ?_⟩
  rw [if_neg (by simp)]
  exact hcheckouts.bind fun _ ↦ by simp

theorem calmStep_cancelOrderOf (transaction : PaymentTransaction) :
    (cancelOrderOf transaction).Keeps CalmStep fun _ ↦ True := by
  rw [cancelOrderOf]
  cases transaction.orderType with
  | membership =>
    simp only [keeps_bind, keeps_update, pure_eq_done, keeps_done, and_true]
    exact fun _ _ _ _ ↦ trivial
  | creditTopup =>
    simp only [keeps_bind, keeps_update, pure_eq_done, keeps_done, and_true]
    intro o ho o' ho'
    cases ho'
    exact calmStep_cancel (of_decide_eq_true ho) _

theorem calmStep_closePaymentTransaction (id : String) (now : Time)
    (audit : Option (String × AdminAuditEvent)) :
    (closePaymentTransactionAfterProviderConfirmation id now audit).Keeps CalmStep
      fun _ ↦ True := by
  have hcancel := calmStep_cancelOrderOf
  have haudit := calmStep_of_orderSide (writes_createAudit audit)
  have horder := fun orderType orderID userID ↦
    (readOnly_lockPaymentOrderTx orderType orderID userID).keeps (T := CalmStep)
  have hcheckout := fun orderType orderID ↦
    (readOnly_lockCheckout orderType orderID).keeps (T := CalmStep)
  rw [closePaymentTransactionAfterProviderConfirmation, keeps_bind, keeps_first]
  intro snapshot
  refine Keeps.bind ?_ fun _ ↦ (hcheckout _ _).bind fun checkout ↦ ?_
  · rw [lockPayableOrderTx]
    exact (horder _ _ _).bind fun payable ↦ by simp [keeps_ite]
  · rw [keeps_bind, keeps_firstForUpdate]
    intro transaction _
    rw [keeps_bind, keeps_query]
    intro v
    simp only [keeps_ite, keeps_bind, keeps_update, throw_eq_fail, keeps_fail, implies_true,
      true_and]
    refine fun _ _ ↦ ⟨fun _ _ _ _ ↦ ⟨trivial, ?_⟩, ?_⟩
    · exact ⟨fun _ _ _ _ ↦ ⟨trivial, (hcancel _).mono fun _ _ ↦ haudit⟩,
        (hcancel _).mono fun _ _ ↦ haudit⟩
    · exact ⟨fun _ _ _ _ ↦ ⟨trivial, (hcancel _).mono fun _ _ ↦ haudit⟩,
        (hcancel _).mono fun _ _ ↦ haudit⟩

theorem calmStep_expirePaymentCheckoutSession (id : String) (now : Time) :
    (expirePaymentCheckoutSession id now).Keeps CalmStep fun _ ↦ True := by
  have horder := fun orderType orderID userID ↦
    (readOnly_lockPaymentOrderTx orderType orderID userID).keeps (T := CalmStep)
  rw [expirePaymentCheckoutSession, keeps_bind, keeps_first]
  intro snapshot
  rw [keeps_ite]
  refine ⟨fun _ ↦ by simp, fun _ ↦ (horder _ _ _).bind fun _ ↦ ?_⟩
  rw [keeps_bind, keeps_firstForUpdate]
  intro checkout _
  rw [keeps_ite]
  refine ⟨fun _ ↦ by simp, fun _ ↦ ?_⟩
  rw [lockOldestPayable, keeps_bind, keeps_queryForUpdate]
  intro v
  cases oldestPayable checkout.orderType checkout.orderID v with
  | none => simp [CalmStep]
  | some payable => simp [keeps_ite, CalmStep]

theorem ProductCall.keeps_prog (digestOf : String → CreditTopupProduct → String)
    (calendar : Calendar) (c : ProductCall) :
    (c.prog digestOf calendar).Keeps c.rowStep fun _ ↦ True := by
  have hcalm : c.isCalm → (c.prog digestOf calendar).Keeps CalmStep fun _ ↦ True := by
    intro hc
    cases c with
    | cancelOrder userID id => exact calmStep_cancelCreditTopupOrder userID id
    | closeTransaction id now audit => exact calmStep_closePaymentTransaction id now audit
    | expireCheckout id now =>
      exact (calmStep_expirePaymentCheckoutSession id now).bind fun _ ↦ by simp
    | other p hp => exact hp.imp fun _ _ _ ↦ calmStep_of_notTopup
    | saveProduct => cases hc
    | createProductIfMissing => cases hc
    | createOrder => cases hc
    | fulfill => cases hc
  by_cases hc : c.isCalm
  · exact (hcalm hc).imp fun _ _ _ h _ ↦ h
  · exact (keeps_trivial _).imp fun _ _ _ _ h ↦ absurd h hc

end Keeps

/-! ## What the other transactions do to the database -/

section Effects

variable {productID : String} {s s' : Store}

/-- Nothing happens to a product whose row and whose orders stay the same. -/
theorem undisturbed_of_lookup
    (hproduct : s'.lookup (.creditTopupProduct productID) =
      s.lookup (.creditTopupProduct productID))
    (horders : ∀ id, s'.lookup (.creditTopupOrder id) = s.lookup (.creditTopupOrder id)) :
    Undisturbed productID s s' :=
  ⟨hproduct, fun id o ho hid ↦ ⟨o, horders id ▸ ho, hid, fun h ↦ h, fun h ↦ h⟩,
    fun id o ho hid hpaid ↦ ⟨o, (horders id).trans ho, hid, hpaid⟩⟩

/-- Nothing happens to a product when one order of another one is rewritten. -/
theorem undisturbed_of_order {id₀ : String}
    (hproduct : s'.lookup (.creditTopupProduct productID) =
      s.lookup (.creditTopupProduct productID))
    (hrest : ∀ id, id ≠ id₀ → s'.lookup (.creditTopupOrder id) = s.lookup (.creditTopupOrder id))
    (hold : ∀ o, s.lookup (.creditTopupOrder id₀) = some o → o.productID ≠ productID)
    (hnew : ∀ o, s'.lookup (.creditTopupOrder id₀) = some o → o.productID ≠ productID) :
    Undisturbed productID s s' := by
  refine ⟨hproduct, fun id o ho hid ↦ ?_, fun id o ho hid hpaid ↦ ?_⟩
  · have hne : id ≠ id₀ := by
      rintro rfl
      exact hnew o ho hid
    exact ⟨o, hrest id hne ▸ ho, hid, fun h ↦ h, fun h ↦ h⟩
  · have hne : id ≠ id₀ := by
      rintro rfl
      exact hold o ho hid
    exact ⟨o, (hrest id hne).trans ho, hid, hpaid⟩

/-- **Taking an order**, when there is room for one more. -/
theorem Counted.order (hs : Counted productID s) {id : String} {o : CreditTopupOrder}
    {p : CreditTopupProduct} (hnone : s.lookup (.creditTopupOrder id) = none)
    (ho : s'.lookup (.creditTopupOrder id) = some o) (hpending : o.status = .pending)
    (hp : s.lookup (.creditTopupProduct productID) = some p)
    (hp' : s'.lookup (.creditTopupProduct productID) = some p)
    (hrest : ∀ id', id' ≠ id →
      s'.lookup (.creditTopupOrder id') = s.lookup (.creditTopupOrder id')) :
    Counted productID s' ∧
      topupOrders productID .pending s' ≤ topupOrders productID .pending s + 1 := by
  refine ⟨⟨fun _ _ _ _ ↦ by rw [hp']; rfl, fun p' hq ↦ ?_⟩,
    topupOrders_le_add_one fun id' o' hne ho' hproduct hstatus ↦
      ⟨o', hrest id' hne ▸ ho', hproduct, hstatus⟩⟩
  cases hp'.symm.trans hq
  have hle : topupOrders productID .paid s ≤ topupOrders productID .paid s' := by
    refine topupOrders_le fun id' o' ho' hproduct hpaid ↦ ⟨o', ?_, hproduct, hpaid⟩
    refine (hrest id' ?_).trans ho'
    rintro rfl
    rw [hnone] at ho'
    cases ho'
  have hge : topupOrders productID .paid s' ≤ topupOrders productID .paid s := by
    refine topupOrders_le fun id' o' ho' hproduct hpaid ↦ ⟨o', ?_, hproduct, hpaid⟩
    refine hrest id' ?_ ▸ ho'
    rintro rfl
    cases ho.symm.trans ho'
    rw [hpending] at hpaid
    cases hpaid
  rw [hs.sold p hp]
  omega

/-- **Selling**: an order moves from the pending to the paid ones and is counted. -/
theorem Counted.sell (hs : Counted productID s) {id : String} {o o' : CreditTopupOrder}
    {p p' : CreditTopupProduct} (ho : s.lookup (.creditTopupOrder id) = some o)
    (ho' : s'.lookup (.creditTopupOrder id) = some o') (hpending : o.status = .pending)
    (hpaid : o'.status = .paid) (hproduct : o.productID = productID)
    (hproduct' : o'.productID = productID)
    (hp : s.lookup (.creditTopupProduct productID) = some p)
    (hp' : s'.lookup (.creditTopupProduct productID) = some p')
    (hsold : p'.soldCount = p.soldCount + 1)
    (hrest : ∀ id', id' ≠ id →
      s'.lookup (.creditTopupOrder id') = s.lookup (.creditTopupOrder id')) :
    Counted productID s' ∧
      topupOrders productID .pending s' + 1 ≤ topupOrders productID .pending s := by
  refine ⟨⟨fun _ _ _ _ ↦ by rw [hp']; rfl, fun q hq ↦ ?_⟩, ?_⟩
  · cases hp'.symm.trans hq
    have hle : topupOrders productID .paid s' ≤ topupOrders productID .paid s + 1 :=
      topupOrders_le_add_one fun id' r hne hr hproduct hstatus ↦
        ⟨r, hrest id' hne ▸ hr, hproduct, hstatus⟩
    have hlt : topupOrders productID .paid s + 1 ≤ topupOrders productID .paid s' := by
      refine topupOrders_lt (fun id' r hr hproduct hstatus ↦ ?_) ho' hproduct' hpaid fun r hr ↦ ?_
      · refine ⟨r, (hrest id' ?_).trans hr, hproduct, hstatus⟩
        rintro rfl
        cases ho.symm.trans hr
        rw [hpending] at hstatus
        cases hstatus
      · cases ho.symm.trans hr
        simp [hpending]
    rw [hsold, hs.sold p hp]
    omega
  · refine topupOrders_lt (fun id' r hr hproduct hstatus ↦ ?_) ho hproduct hpending fun r hr ↦ ?_
    · refine ⟨r, hrest id' ?_ ▸ hr, hproduct, hstatus⟩
      rintro rfl
      cases ho'.symm.trans hr
      rw [hpaid] at hstatus
      cases hstatus
    · cases ho'.symm.trans hr
      simp [hpaid]

/-- **Saving** a product over the sold count it has. -/
theorem Counted.save (hs : Counted productID s) {p p' : CreditTopupProduct}
    (hp : s.lookup (.creditTopupProduct productID) = some p)
    (hp' : s'.lookup (.creditTopupProduct productID) = some p')
    (hsold : p'.soldCount = p.soldCount)
    (horders : ∀ id, s'.lookup (.creditTopupOrder id) = s.lookup (.creditTopupOrder id)) :
    Counted productID s' ∧
      (InStock productID s → ¬LowersLimit productID s s' → InStock productID s') := by
  have hle : ∀ status, topupOrders productID status s' ≤ topupOrders productID status s :=
    fun _ ↦ topupOrders_le fun id o ho hid hstatus ↦ ⟨o, horders id ▸ ho, hid, hstatus⟩
  have hge : ∀ status, topupOrders productID status s ≤ topupOrders productID status s' :=
    fun _ ↦ topupOrders_le fun id o ho hid hstatus ↦ ⟨o, (horders id).trans ho, hid, hstatus⟩
  refine ⟨⟨fun _ _ _ _ ↦ by rw [hp']; rfl, fun q hq ↦ ?_⟩, fun hstock hlimit q hq hq0 ↦ ?_⟩
  · cases hp'.symm.trans hq
    rw [hsold, hs.sold p hp, le_antisymm (hle .paid) (hge .paid)]
  · cases hp'.symm.trans hq
    have hraised : 0 ≤ p.stockLimit ∧ p.stockLimit ≤ p'.stockLimit := by
      by_contra hno
      exact hlimit ⟨p, p', hp, hp', hq0, by omega⟩
    have hroom := hstock p hp hraised.1
    have hpending := hle .pending
    omega

/-- **A new product** has no orders yet. -/
theorem Counted.create (hs : Counted productID s) {p : CreditTopupProduct}
    (hnone : s.lookup (.creditTopupProduct productID) = none)
    (hp : s'.lookup (.creditTopupProduct productID) = some p) (hsold : p.soldCount = 0)
    (horders : ∀ id, s'.lookup (.creditTopupOrder id) = s.lookup (.creditTopupOrder id)) :
    Counted productID s' ∧ InStock productID s' ∧ topupOrders productID .pending s' = 0 := by
  have hzero : ∀ status, topupOrders productID status s' = 0 := by
    intro status
    have hle : topupOrders productID status s' ≤ topupOrders productID status (∅ : Store) := by
      refine topupOrders_le fun id o ho hid hstatus ↦ ?_
      have hsome := hs.product id o (horders id ▸ ho) hid
      rw [hnone] at hsome
      cases hsome
    exact Nat.le_zero.mp hle
  refine ⟨⟨fun _ _ _ _ ↦ by rw [hp]; rfl, fun q hq ↦ ?_⟩, fun q hq hlimit ↦ ?_, hzero _⟩
  · cases hp.symm.trans hq
    rw [hsold, hzero]
    rfl
  · cases hp.symm.trans hq
    rw [hsold, hzero]
    exact hlimit

end Effects

/-! ## What they write -/

/-- The pending writes touch no product and no order besides the rows `ks`. -/
def TopupWrites (ks : List RowKey) (ws : List (Sigma Row)) : Prop :=
  ∀ k ∈ keysOf ws, k.isTopup = true → k ∈ ks

section States

variable {digestOf : String → CreditTopupProduct → String} {calendar : Calendar}
  {productID : String} {c : ProductCall} {ks locks : List RowKey} {ws : List (Sigma Row)}
  {s t : Store}

theorem TopupWrites.lookup (h : TopupWrites ks ws) {k : RowKey} (htopup : k.isTopup = true)
    (hk : k ∉ ks) (t : Store) : (t.apply ws).lookup k = t.lookup k :=
  Db.lookup_apply_of_notMem (fun hmem ↦ hk (h k hmem htopup)) t

theorem TopupWrites.append (h : TopupWrites ks ws) {ws' : List (Sigma Row)}
    (h' : TopupWrites ks ws') : TopupWrites ks (ws ++ ws') := by
  intro k hk
  rw [keysOf, List.map_append, List.mem_append] at hk
  exact hk.elim (h k) (h' k)

theorem TopupWrites.mono (h : TopupWrites ks ws) {ks' : List RowKey} (hsub : ks ⊆ ks') :
    TopupWrites ks' ws :=
  fun k hk htopup ↦ hsub (h k hk htopup)

theorem topupWrites_single (k : RowKey) (r : Row k) : TopupWrites [k] [⟨k, r⟩] :=
  fun _ hk _ ↦ by simpa [keysOf] using hk

theorem topupWrites_of_notTopup (h : ∀ k ∈ keysOf ws, k.isTopup = false) : TopupWrites ks ws :=
  fun k hk htopup ↦ absurd htopup (by simp [h k hk])

/-- Nobody else takes an order of a product that is locked. -/
theorem pending_le_of_rely (hheld : .creditTopupProduct productID ∈ locks)
    (ht : (productContract productID).Rely locks s t) :
    topupOrders productID .pending t ≤ topupOrders productID .pending s := by
  refine ht.lift (P := fun s t ↦ topupOrders productID .pending t ≤
    topupOrders productID .pending s) (fun _ ↦ le_rfl) (fun _ _ _ h h' ↦ h'.trans h)
    fun c _ _ s t hdisj hcommit ↦ ?_
  exact hcommit.post.1 fun hk ↦ hdisj hheld hk

/-- Rows are not deleted. -/
theorem exists_of_rely (ht : (productContract productID).Rely locks s t) {k : RowKey} {r : Row k}
    (hr : s.lookup k = some r) : ∃ r', t.lookup k = some r' := by
  refine ht.lift (P := fun s t ↦ ∀ r, s.lookup k = some r → ∃ r', t.lookup k = some r')
    (fun _ r hr ↦ ⟨r, hr⟩) (fun _ _ _ h h' r hr ↦ ?_) (fun _ _ _ s t _ hcommit r hr ↦ ?_) r hr
  · obtain ⟨r', hr'⟩ := h r hr
    exact h' r' hr'
  · rcases hcommit.row k with heq | ⟨r', hr', -⟩
    · exact ⟨r, heq.trans hr⟩
    · exact ⟨r', hr'⟩

theorem commits_of_undisturbed
    (h : ∀ t, (productContract productID).Rely locks s t → Undisturbed productID t (t.apply ws))
    (a : Unit) :
    Commits (unspoilt digestOf calendar) (productContract productID) c a locks ws s := by
  intro t ht _ _ _
  exact ⟨⟨fun _ ↦ (h t ht).pending_le, fun hs _ ↦ (h t ht).inStock hs⟩, (h t ht).counted ht.2⟩

/-- A transaction that has written no product and no order. -/
theorem commits_of_topupFree (h : TopupWrites [] ws) (a : Unit) :
    Commits (unspoilt digestOf calendar) (productContract productID) c a locks ws s :=
  commits_of_undisturbed (fun t _ ↦ undisturbed_of_lookup (h.lookup rfl (by simp) t)
    fun _ ↦ h.lookup rfl (by simp) t) a

/-- A calm call. -/
theorem commits_of_calmCall (hc : c.isCalm) (a : Unit) :
    Commits (unspoilt digestOf calendar) (productContract productID) c a locks ws s := by
  intro t ht _ _ hrow
  have h : Undisturbed productID t (t.apply ws) := undisturbed_of_calmStep fun k ↦
    (hrow k).imp_right fun ⟨r, hr, hstep⟩ ↦ ⟨r, hr, hstep hc⟩
  exact ⟨⟨fun _ ↦ h.pending_le, fun hs _ ↦ h.inStock hs⟩, h.counted ht.2⟩

/-- A transaction that takes an order of the product it has locked, in whose stock there is room. -/
theorem commits_of_ordering {id : String} {order : CreditTopupOrder} {p : CreditTopupProduct}
    (horder : Pinned locks ws s (.creditTopupOrder id) none (some order))
    (hproduct : Pinned locks ws s (.creditTopupProduct order.productID) (some p) (some p))
    (hwrites : TopupWrites [.creditTopupOrder id] ws) (hpending : order.status = .pending)
    (hroom : order.productID = productID → 0 ≤ p.stockLimit →
      p.soldCount + topupOrders productID .pending s < p.stockLimit) (a : Unit) :
    Commits (unspoilt digestOf calendar) (productContract productID) c a locks ws s := by
  by_cases hid : order.productID = productID
  · subst hid
    intro t ht _ _ _
    replace hroom := hroom rfl
    have hle := pending_le_of_rely hproduct.locked ht
    replace horder := horder.rely ht
    obtain ⟨hheld, hp, hp'⟩ := hproduct.rely ht
    obtain ⟨hcounted, hone⟩ := ht.2.order horder.committed horder.view hpending hp hp'
      fun id' hne ↦ hwrites.lookup rfl (by simpa using hne) t
    refine ⟨⟨fun hk ↦ absurd hheld hk, fun _ _ q hq hlimit ↦ ?_⟩, hcounted⟩
    cases hp'.symm.trans hq
    have hlt := hroom hlimit
    omega
  · refine commits_of_undisturbed (fun t ht ↦ ?_) a
    replace horder := horder.rely ht
    refine undisturbed_of_order (hwrites.lookup rfl (by simp) t)
      (fun id' hne ↦ hwrites.lookup rfl (by simpa using hne) t) (fun o ho ↦ ?_) fun o ho ↦ ?_
    · rw [horder.committed] at ho
      cases ho
    · cases horder.view.symm.trans ho
      exact hid

/-- **A transaction that sells**: it has moved a pending order to the paid ones, and counted it in the
row of the product. -/
structure Selling (productID id : String) (o : CreditTopupOrder) (locks : List RowKey)
    (ws : List (Sigma Row)) (s : Store) : Prop where
  order : ∃ o', Pinned locks ws s (.creditTopupOrder id) (some o) (some o') ∧
    o'.productID = o.productID ∧ o'.status = .paid
  product : o.productID = productID →
    ∃ p p', Pinned locks ws s (.creditTopupProduct productID) (some p) (some p') ∧
      p'.soldCount = p.soldCount + 1 ∧ p'.stockLimit = p.stockLimit
  writes : TopupWrites [.creditTopupOrder id, .creditTopupProduct o.productID] ws

theorem Selling.rely {id : String} {o : CreditTopupOrder} (h : Selling productID id o locks ws s)
    (ht : (productContract productID).Rely locks s t) : Selling productID id o locks ws t := by
  obtain ⟨⟨o', horder, hpaid⟩, hproduct, hwrites⟩ := h
  refine ⟨⟨o', horder.rely ht, hpaid⟩, fun hid ↦ ?_, hwrites⟩
  obtain ⟨p, p', hpinned, hsold⟩ := hproduct hid
  exact ⟨p, p', hpinned.rely ht, hsold⟩

theorem Selling.append {id : String} {o : CreditTopupOrder} (h : Selling productID id o locks ws s)
    {locks' : List RowKey} {ws' : List (Sigma Row)} (hlocks : locks ⊆ locks')
    (hws : ∀ k ∈ keysOf ws', k.isTopup = false) :
    Selling productID id o locks' (ws ++ ws') s := by
  obtain ⟨⟨o', horder, hpaid⟩, hproduct, hwrites⟩ := h
  refine ⟨⟨o', horder.append hlocks fun hk ↦ Bool.noConfusion (hws _ hk), hpaid⟩, fun hid ↦ ?_,
    hwrites.append (topupWrites_of_notTopup hws)⟩
  obtain ⟨p, p', hpinned, hsold⟩ := hproduct hid
  exact ⟨p, p', hpinned.append hlocks fun hk ↦ Bool.noConfusion (hws _ hk), hsold⟩

theorem commits_of_selling {id : String} {o : CreditTopupOrder}
    (h : Selling productID id o locks ws s) (hpending : o.status = .pending) (a : Unit) :
    Commits (unspoilt digestOf calendar) (productContract productID) c a locks ws s := by
  by_cases hid : o.productID = productID
  · intro t ht _ _ _
    obtain ⟨⟨o', horder, hproduct', hpaid⟩, hproduct, hwrites⟩ := h.rely ht
    obtain ⟨p, p', hproduct, hsold, hlimit⟩ := hproduct hid
    obtain ⟨hcounted, hone⟩ := ht.2.sell horder.committed horder.view hpending hpaid hid
      (hproduct'.trans hid) hproduct.committed hproduct.view hsold
      fun id' hne ↦ hwrites.lookup rfl (by simpa using hne) t
    refine ⟨⟨fun hk ↦ absurd hproduct.locked hk, fun hstock _ q hq hq0 ↦ ?_⟩, hcounted⟩
    cases hproduct.view.symm.trans hq
    have hroom := hstock p hproduct.committed (hlimit ▸ hq0)
    omega
  · refine commits_of_undisturbed (fun t ht ↦ ?_) a
    obtain ⟨⟨o', horder, hproduct', hpaid⟩, -, hwrites⟩ := h.rely ht
    refine undisturbed_of_order (hwrites.lookup rfl (by simpa using Ne.symm hid) t)
      (fun id' hne ↦ hwrites.lookup rfl (by simpa using hne) t) (fun r hr ↦ ?_) fun r hr ↦ ?_
    · cases horder.committed.symm.trans hr
      exact hid
    · cases horder.view.symm.trans hr
      exact hproduct' ▸ hid

end States

/-! ## What the statements do -/

section Meets

variable {digestOf : String → CreditTopupProduct → String} {calendar : Calendar}
  {productID : String} {c : ProductCall} {locks : List RowKey} {ws : List (Sigma Row)} {s : Store}

/-- The parts of a transaction that are about other tables. -/
theorem meets_topupFree {α : Type} {p : DbTx α} (hp : p.WritesOnly (·.isTopup = false))
    (h : TopupWrites [] ws) (hs : Counted productID s) :
    p.Meets (productContract productID)
      (fun _ _ ws s ↦ TopupWrites [] ws ∧ Counted productID s) locks ws s :=
  meets_of_writesOnly hp hs fun _ _ _ _ _ hws hr ↦
    ⟨h.append (topupWrites_of_notTopup hws), hr.2⟩

theorem notTopup_of_orderSide {α : Type} {p : DbTx α} (h : p.WritesOnly (·.isOrderSide)) :
    p.WritesOnly (·.isTopup = false) :=
  h.imp fun k _ _ hk ↦ by
    cases k with
    | paymentCheckoutSession id => rfl
    | adminAuditEvent id => rfl
    | _ => cases hk

theorem notTopup_of_readOnly {α : Type} {p : DbTx α} (h : p.ReadOnly) :
    p.WritesOnly (·.isTopup = false) :=
  h.imp fun _ _ _ hfalse ↦ hfalse.elim

/-! ### Products -/

/-- A product that was not there. -/
theorem commits_of_creating {id : String} {product : CreditTopupProduct}
    (hproduct : Pinned locks ws s (.creditTopupProduct id) none (some product))
    (hwrites : TopupWrites [.creditTopupProduct id] ws) (hsold : product.soldCount = 0) (a : Unit) :
    Commits (unspoilt digestOf calendar) (productContract productID) c a locks ws s := by
  by_cases hid : id = productID
  · subst hid
    intro t ht _ _ _
    obtain ⟨hheld, hnone, hview⟩ := hproduct.rely ht
    obtain ⟨hcounted, hstock, -⟩ := ht.2.create hnone hview hsold
      fun id' ↦ hwrites.lookup rfl (by simp) t
    exact ⟨⟨fun hk ↦ absurd hheld hk, fun _ _ ↦ hstock⟩, hcounted⟩
  · exact commits_of_undisturbed (fun t _ ↦ undisturbed_of_lookup
      (hwrites.lookup rfl (by simpa using Ne.symm hid) t)
      fun id' ↦ hwrites.lookup rfl (by simp) t) a

/-- A product that was there is saved: over the sold count it has. -/
theorem commits_of_saving {id auditID : String} {product product' : CreditTopupProduct}
    {audit : AdminAuditEvent} {hsold : product.soldCount = 0} {old : CreditTopupProduct}
    (hold : s.lookup (.creditTopupProduct id) = some old)
    (hheld : .creditTopupProduct id ∈ locks)
    (hview : ∀ t : Store, (t.apply ws).lookup (.creditTopupProduct id) = some product')
    (hwrites : TopupWrites [.creditTopupProduct id] ws) (a : Unit) :
    Commits (unspoilt digestOf calendar) (productContract productID)
      (.saveProduct id product auditID audit hsold) a locks ws s := by
  by_cases hid : id = productID
  · subst hid
    intro t ht hadmits _ _
    obtain ⟨p, hp⟩ := exists_of_rely ht hold
    obtain ⟨hcounted, hstock⟩ := ht.2.save hp (hview t) (hadmits p product' hp (hview t))
      fun id' ↦ hwrites.lookup rfl (by simp) t
    exact ⟨⟨fun hk ↦ absurd hheld hk, hstock⟩, hcounted⟩
  · exact commits_of_undisturbed (fun t _ ↦ undisturbed_of_lookup
      (hwrites.lookup rfl (by simpa using Ne.symm hid) t)
      fun id' ↦ hwrites.lookup rfl (by simp) t) a

theorem meets_saveCreditTopupProduct {id auditID : String} {product : CreditTopupProduct}
    {audit : AdminAuditEvent} (hsold : product.soldCount = 0) :
    (saveCreditTopupProduct id product auditID audit).Meets (productContract productID)
      (Commits (unspoilt digestOf calendar) (productContract productID)
        (.saveProduct id product auditID audit hsold)) [] [] s := by
  have haudit : TopupWrites [.creditTopupProduct id] [⟨.adminAuditEvent auditID, audit⟩] :=
    topupWrites_of_notTopup fun k hk ↦ by
      obtain rfl : k = .adminAuditEvent auditID := by simpa [keysOf] using hk
      rfl
  rw [saveCreditTopupProduct, meets_bind]
  refine meets_query fun s₁ hs₁ ↦ ?_
  cases hexisting : (s₁.apply []).lookup (.creditTopupProduct id) with
  | none =>
    rw [meets_bind]
    refine meets_create fun s₂ hs₂ hnone _ ↦ meets_create fun s₃ hs₃ _ _ ↦ ?_
    have hpinned : Pinned ([] ++ (.creditTopupProduct id ::
        [.index (.topupProductCode product.code)] ++ [.creditTopupProduct id]))
        ([] ++ [⟨.creditTopupProduct id, product⟩]) s₂ (.creditTopupProduct id) none
        (some product) := .write hnone (by simp) product
    refine commits_of_creating ((hpinned.rely hs₃).append (List.subset_append_left _ _)
      (by simp [keysOf])) ?_ hsold _
    exact (topupWrites_single _ _).append haudit
  | some existing =>
    dsimp only
    generalize ({ product with soldCount := existing.soldCount, createdAt := existing.createdAt } :
      CreditTopupProduct) = product'
    have hview : ∀ t : Store, (t.apply ([⟨.creditTopupProduct id, product'⟩] ++
        [⟨.adminAuditEvent auditID, audit⟩])).lookup (.creditTopupProduct id) = some product' := by
      intro t
      rw [Db.apply_append, Db.lookup_apply_of_notMem (by simp)]
      exact AList.lookup_insert _
    rw [meets_bind, overwriteProduct]
    refine meets_statement fun s₂ hs₂ ws' _ hact ↦ ?_
    split at hact
    · cases hact
    · cases hact
      refine meets_create fun s₃ hs₃ _ _ ↦ ?_
      obtain ⟨old, hold⟩ := exists_of_rely (hs₂.trans (hs₃.mono (List.nil_subset _))) hexisting
      exact commits_of_saving hold (by simp [keysOf]) hview
        ((topupWrites_single _ _).append haudit) _

theorem meets_createCreditTopupProductIfMissing {id : String} {product : CreditTopupProduct}
    (hsold : product.soldCount = 0) :
    (createCreditTopupProductIfMissing id product).Meets (productContract productID)
      (Commits (unspoilt digestOf calendar) (productContract productID) c) [] [] s := by
  rw [createCreditTopupProductIfMissing, meets_bind]
  refine meets_createUnlessTaken (fun s₁ hs₁ _ hnone _ ↦ meets_pure ?_) fun s₁ hs₁ _ ↦ meets_pure ?_
  · exact commits_of_creating (.write hnone (by simp) product) (topupWrites_single _ _) hsold _
  · exact commits_of_topupFree (by simp [TopupWrites, keysOf]) _

/-! ### Orders -/

/-- The product is locked as it was read, and if it is limited there is room for one more order. -/
structure Available (productID : String) (order : CreditTopupOrder) (p : CreditTopupProduct)
    (locks : List RowKey) (ws : List (Sigma Row)) (s : Store) : Prop where
  fresh : ws = []
  pinned : Pinned locks ws s (.creditTopupProduct order.productID) (some p) (some p)
  room : order.productID = productID → 0 ≤ p.stockLimit →
    p.soldCount + topupOrders productID .pending s < p.stockLimit

theorem Available.rely {order : CreditTopupOrder} {p : CreditTopupProduct} {t : Store}
    (h : Available productID order p locks ws s)
    (ht : (productContract productID).Rely locks s t) :
    Available productID order p locks ws t := by
  refine ⟨h.fresh, h.pinned.rely ht, fun hid hlimit ↦ ?_⟩
  have hroom := h.room hid hlimit
  have hle : topupOrders productID .pending t ≤ topupOrders productID .pending s :=
    pending_le_of_rely (hid ▸ h.pinned.locked) ht
  omega

theorem meets_requireProductAvailable {order : CreditTopupOrder} {p : CreditTopupProduct}
    {now : Time} (hs : Counted productID s)
    (h : Pinned locks [] s (.creditTopupProduct order.productID) (some p) (some p)) :
    (requireProductAvailable order p now).Meets (productContract productID)
      (fun _ locks ws s ↦ Available productID order p locks ws s) locks [] s := by
  -- the weekly limit is only a check
  have hweekly : ∀ s', Available productID order p locks [] s' → Counted productID s' →
      (if 0 < p.weeklyPurchaseLimit then do
        let weekStart := now - second (7 * 24 * 60 * 60)
        let count ← Prog.query (weeklyOrders order.userID order.productID weekStart)
        if count ≥ p.weeklyPurchaseLimit then throw errCreditProductWeeklyLimit
      else pure () : DbTx Unit).Meets (productContract productID)
        (fun _ locks ws s ↦ Available productID order p locks ws s) locks [] s' := by
    intro s' hs' hcounted
    refine meets_ite (fun _ ↦ ?_) fun _ ↦ meets_pure hs'
    rw [meets_bind]
    refine meets_query fun s'' hs'' ↦ meets_ite (fun _ ↦ ?_) fun _ ↦ meets_pure (hs'.rely hs'')
    exact (meets_fail _ _ _ _ _).mpr trivial
  rw [requireProductAvailable]
  refine meets_ite (fun hlimit ↦ ?_) fun hlimit ↦ ?_
  · rw [meets_bind]
    refine meets_query fun s' hs' ↦ meets_ite (fun _ ↦ by simp) fun hroom ↦ ?_
    refine hweekly s' ⟨rfl, h.rely hs', fun hid _ ↦ ?_⟩ hs'.2
    rw [hid] at hroom
    exact not_le.mp hroom
  · exact hweekly s ⟨rfl, h, fun _ h0 ↦ absurd h0 hlimit⟩ hs

theorem meets_insertTopupOrder {id : String} {order : CreditTopupOrder} {p : CreditTopupProduct}
    (h : Available productID order p locks ws s) (hpending : order.status = .pending) :
    (insertTopupOrder id order).Meets (productContract productID)
      (fun _ ↦ Commits (unspoilt digestOf calendar) (productContract productID) c ()) locks ws s := by
  obtain ⟨rfl, hpinned, hroom⟩ := h
  rw [insertTopupOrder, meets_bind]
  refine meets_createUnlessTaken (fun s₁ hs₁ _ hnone _ ↦ ?_) fun s₁ hs₁ _ ↦ ?_
  · replace hnone : s₁.lookup (.creditTopupOrder id) = none := hnone
    rw [if_pos rfl]
    refine meets_pure (commits_of_ordering (.write hnone (by simp) order)
      ((hpinned.rely hs₁).append (List.subset_append_left _ _) (by simp [keysOf]))
      (topupWrites_single _ _) hpending (fun hid hlimit ↦ ?_) _)
    have hle : topupOrders productID .pending s₁ ≤ topupOrders productID .pending s :=
      pending_le_of_rely (hid ▸ hpinned.locked) hs₁
    have hlt := hroom hid hlimit
    omega
  · rw [if_neg (by simp), meets_bind]
    refine meets_query fun s₂ hs₂ ↦ ?_
    cases topupOrderByIdempotencyKey order.userID order.idempotencyKey (s₂.apply []) with
    | none => simp
    | some existing =>
      exact meets_pure (commits_of_topupFree (by simp [TopupWrites, keysOf]) _)

theorem meets_createCreditTopupOrder {id : String} {order : CreditTopupOrder} {now : Time}
    (hpending : order.status = .pending) :
    (createCreditTopupOrder digestOf id order now).Meets (productContract productID)
      (fun _ ↦ Commits (unspoilt digestOf calendar) (productContract productID) c ()) [] [] s := by
  rw [createCreditTopupOrder, meets_bind]
  refine meets_query fun s₁ hs₁ ↦ ?_
  cases topupOrderByIdempotencyKey order.userID order.idempotencyKey (s₁.apply []) with
  | some replay =>
    exact meets_pure (commits_of_topupFree (by simp [TopupWrites, keysOf]) _)
  | none =>
    dsimp only
    rw [meets_bind]
    refine meets_firstForUpdate fun s₂ hs₂ p hp _ ↦ ?_
    refine meets_ite (fun _ ↦ by simp) fun _ ↦ meets_ite (fun _ ↦ by simp) fun _ ↦ ?_
    rw [meets_bind]
    exact (meets_requireProductAvailable hs₂.2 ⟨by simp, hp, hp⟩).imp fun _ _ _ _ h ↦
      meets_insertTopupOrder h hpending

/-! ### Fulfilments -/

theorem notTopup_grantToAccount (payer : Payer) (amount : ℤ) (entryID : String)
    (post : CreditAccount → CreditLedgerEntry) :
    (grantToAccount payer amount entryID post).WritesOnly (·.isTopup = false) := by
  simp [grantToAccount, createAccountIfMissing, readAccount, createLedgerEntry]

theorem notTopup_activateMembershipOrderTx (orderID actorID provider providerTradeNo note : String)
    (activation : MembershipActivation) (now : Time) :
    (activateMembershipOrderTx calendar orderID actorID provider providerTradeNo note activation
      now).WritesOnly (·.isTopup = false) := by
  have hgrant := notTopup_grantToAccount
  have hledger : ∀ order, (grantActivationLedger order activation).WritesOnly
      (·.isTopup = false) := by
    intro order
    rw [grantActivationLedger]
    cases activation.membershipLedger with
    | none => simp
    | some ledger =>
      simp [grantTeamMembershipLedgerTx, grantPersonalCreditLedgerTx, keeps_ite, hgrant]
  have hreferral : ∀ order fulfillment,
      (grantReferralRewardTx orderID order fulfillment now).WritesOnly (·.isTopup = false) := by
    intro order fulfillment
    simp [grantReferralRewardTx, grantPersonalCreditLedgerTx, createReferralReward, keeps_ite,
      hgrant]
  rw [activateMembershipOrderTx, WritesOnly, keeps_bind, keeps_firstForUpdate]
  intro order _
  rw [keeps_ite]
  refine ⟨fun _ ↦ by simp, fun _ ↦ (notTopup_of_readOnly (readOnly_lockSubscriber order)).bind fun _ ↦ ?_⟩
  rw [keeps_bind, keeps_queryForUpdate]
  intro v
  dsimp only
  split
  · simp
  · rw [keeps_bind, keeps_update]
    refine ⟨fun _ _ _ _ ↦ ⟨rfl, ?_⟩, by simp⟩
    rw [if_neg (by simp)]
    refine Keeps.bind (by simp [createSubscription]) fun _ ↦
      (hledger order).bind fun _ ↦ ?_
    cases activation.referral with
    | none => simp
    | some fulfillment => exact hreferral order fulfillment

/-- What a fulfilment has done so far: nothing to products and orders, or a sale. -/
def Fulfilling (productID : String) (locks : List RowKey) (ws : List (Sigma Row)) (s : Store) :
    Prop :=
  TopupWrites [] ws ∨ ∃ id o, Selling productID id o locks ws s ∧ o.status = .pending

/-- The rest of a fulfilment is about other tables. -/
theorem meets_fulfilling {α : Type} {p : DbTx α} (hp : p.WritesOnly (·.isTopup = false))
    (h : Fulfilling productID locks ws s) (hs : Counted productID s) :
    p.Meets (productContract productID)
      (fun _ locks ws s ↦ Fulfilling productID locks ws s ∧ Counted productID s) locks ws s := by
  refine meets_of_writesOnly hp hs fun _ locks' ws' s' hlocks hws hr ↦ ⟨?_, hr.2⟩
  rcases h with h | ⟨id, o, h, hpending⟩
  · exact .inl (h.append (topupWrites_of_notTopup hws))
  · exact .inr ⟨id, o, (h.rely hr).append hlocks hws, hpending⟩

theorem commits_of_fulfilling (h : Fulfilling productID locks ws s) (a : Unit) :
    Commits (unspoilt digestOf calendar) (productContract productID) c a locks ws s := by
  rcases h with h | ⟨id, o, h, hpending⟩
  · exact commits_of_topupFree h a
  · exact commits_of_selling h hpending a

/-- **The order and the sold count move together.** -/
theorem meets_fulfillCreditTopupOrderTx {orderID provider providerTradeNo entryID : String}
    {now : Time} (h : TopupWrites [] ws) :
    (fulfillCreditTopupOrderTx orderID provider providerTradeNo entryID now).Meets
      (productContract productID) (fun _ locks ws s ↦ Fulfilling productID locks ws s ∧
        Counted productID s) locks ws s := by
  rw [fulfillCreditTopupOrderTx, meets_bind]
  refine meets_firstForUpdate fun s₁ hs₁ o ho _ ↦ meets_ite (fun _ ↦ by simp) fun hpending ↦ ?_
  rw [not_not] at hpending
  rw [h.lookup rfl (by simp)] at ho
  rw [meets_bind]
  refine meets_update (fun s₂ hs₂ r hr _ r' hr' ↦ ?_) fun _ _ _ ↦ by simp
  cases hr'
  rw [h.lookup rfl (by simp), hs₂.lookup_eq (by simp), ho] at hr
  cases hr
  rw [if_neg (by simp), meets_bind]
  have horder : Pinned (locks ++ [.creditTopupOrder orderID] ++ [.creditTopupOrder orderID])
      (ws ++ [⟨.creditTopupOrder orderID, o.pay provider providerTradeNo now⟩]) s₂
      (.creditTopupOrder orderID) (some o) (some (o.pay provider providerTradeNo now)) :=
    .write ((hs₂.lookup_eq (by simp)).trans ho) (by simp) _
  have hwrites : TopupWrites [.creditTopupOrder orderID]
      (ws ++ [⟨.creditTopupOrder orderID, o.pay provider providerTradeNo now⟩]) :=
    (h.mono (List.nil_subset _)).append (topupWrites_single _ _)
  refine meets_of_writesOnly (notTopup_grantToAccount _ _ _ _) hs₂.2
    fun _ locks₃ ws₃ s₃ hlocks₃ hws₃ hs₃ ↦ ?_
  replace horder := (horder.rely hs₃).append hlocks₃ fun hk ↦ Bool.noConfusion (hws₃ _ hk)
  replace hwrites := hwrites.append (topupWrites_of_notTopup hws₃)
  rw [meets_bind]
  refine meets_update (fun s₄ hs₄ p hp _ p' hp' ↦ ?_) fun s₄ hs₄ hno ↦ ?_
  · cases hp'
    rw [hwrites.lookup rfl (by simp)] at hp
    refine meets_pure ⟨.inr ⟨orderID, o, ⟨⟨_, (horder.rely hs₄).append
      (List.subset_append_left _ _) (by simp [keysOf]), rfl, rfl⟩, fun hid ↦ ?_, ?_⟩, hpending⟩,
      hs₄.2⟩
    · subst hid
      exact ⟨p, _, .write hp (by simp) _, rfl, rfl⟩
    · exact (hwrites.mono (by simp)).append ((topupWrites_single _ _).mono (by simp))
  · refine meets_pure ⟨.inr ⟨orderID, o, ⟨⟨_, horder.rely hs₄, rfl, rfl⟩, fun hid ↦ ?_,
      hwrites.mono (by simp)⟩, hpending⟩, hs₄.2⟩
    -- the product of an order is there
    obtain ⟨p, hp⟩ := Option.isSome_iff_exists.mp
      (hs₄.2.product orderID o (horder.rely hs₄).committed hid)
    subst hid
    cases hno p ((hwrites.lookup rfl (by simp) s₄).trans hp)

theorem meets_grantEntitlement {transaction : PaymentTransaction} {input : PaymentFulfillment}
    (h : TopupWrites [] ws) (hs : Counted productID s) :
    (grantEntitlement calendar transaction input).Meets (productContract productID)
      (fun _ locks ws s ↦ Fulfilling productID locks ws s ∧ Counted productID s) locks ws s := by
  rw [grantEntitlement]
  cases transaction.orderType with
  | membership =>
    exact meets_fulfilling (notTopup_activateMembershipOrderTx _ _ _ _ _ _ _) (.inl h) hs
  | creditTopup => exact meets_fulfillCreditTopupOrderTx h

theorem notTopup_processEvent (input : PaymentFulfillment) :
    (processEvent input).WritesOnly (·.isTopup = false) := by
  have haudit := notTopup_of_orderSide (writes_createAudit input.audit)
  simp [processEvent, haudit]

theorem meets_payOrder {transaction : PaymentTransaction} {input : PaymentFulfillment}
    (h : TopupWrites [] ws) (hs : Counted productID s) :
    (payOrder calendar input transaction).Meets (productContract productID)
      (fun _ locks ws s ↦ Fulfilling productID locks ws s) locks ws s := by
  have hpay : (payTransaction input).WritesOnly (·.isTopup = false) := by simp [payTransaction]
  have hcheckouts := notTopup_of_orderSide (writes_updateCheckouts
    (fun c ↦ c.orderID = transaction.orderID) .consumed)
  rw [payOrder, meets_bind]
  refine (meets_topupFree hpay h hs).imp fun _ locks ws s h ↦ ?_
  refine meets_ite (fun _ ↦ by simp) fun _ ↦ ?_
  rw [meets_bind]
  refine (meets_grantEntitlement h.1 h.2).imp fun _ locks ws s h ↦ ?_
  rw [meets_bind]
  refine (meets_fulfilling hcheckouts h.1 h.2).imp fun _ locks ws s h ↦ ?_
  rw [meets_bind]
  exact (meets_fulfilling (notTopup_processEvent input) h.1 h.2).imp fun _ _ _ _ h ↦ meets_pure h.1

theorem meets_fulfillPaymentTransaction {input : PaymentFulfillment} :
    (fulfillPaymentTransaction calendar input).Meets (productContract productID)
      (fun _ ↦ Commits (unspoilt digestOf calendar) (productContract productID) c ()) [] [] s := by
  have hnone : TopupWrites [] ([] : List (Sigma Row)) := by simp [TopupWrites, keysOf]
  have haudit := notTopup_of_orderSide (writes_createAudit input.audit)
  rw [fulfillPaymentTransaction]
  refine meets_ite (fun _ ↦ by simp) fun _ ↦ ?_
  rw [meets_bind]
  refine meets_first fun s hs snapshot _ ↦ ?_
  rw [meets_bind]
  refine (meets_topupFree (notTopup_of_readOnly (readOnly_lockPaymentOrderTx _ _ _)) hnone
    hs.2).imp fun _ locks ws s h ↦ ?_
  rw [meets_bind]
  refine (meets_topupFree (notTopup_of_readOnly (readOnly_lockCheckout _ _)) h.1 h.2).imp
    fun _ locks ws s h ↦ ?_
  rw [meets_bind]
  refine meets_firstForUpdate fun s hs transaction _ _ ↦ ?_
  rw [meets_bind]
  refine meets_firstForUpdate fun s hs event _ _ ↦ ?_
  rw [fulfillLocked]
  refine meets_ite (fun _ ↦ by simp) fun _ ↦ meets_ite (fun _ ↦ ?_) fun _ ↦
    meets_ite (fun _ ↦ by simp) fun _ ↦ meets_ite (fun _ ↦ ?_) fun _ ↦
    meets_ite (fun _ ↦ by simp) fun _ ↦ ?_
  · rw [meets_bind]
    exact (meets_topupFree haudit h.1 hs.2).imp fun _ _ _ _ h ↦
      meets_pure (commits_of_topupFree h.1 _)
  · rw [meets_bind]
    exact (meets_topupFree (notTopup_processEvent input) h.1 hs.2).imp fun _ _ _ _ h ↦
      meets_pure (commits_of_topupFree h.1 _)
  · exact (meets_payOrder h.1 hs.2).imp fun _ _ _ _ h ↦ commits_of_fulfilling h _

end Meets

theorem ProductCall.meets_prog {digestOf : String → CreditTopupProduct → String}
    {calendar : Calendar} {productID : String} (c : ProductCall) (s : Store)
    (hs : Counted productID s) :
    (c.prog digestOf calendar).Meets (productContract productID)
      (Commits (unspoilt digestOf calendar) (productContract productID) c) [] [] s := by
  have hcalm : c.isCalm → (c.prog digestOf calendar).Meets (productContract productID)
      (Commits (unspoilt digestOf calendar) (productContract productID) c) [] [] s := fun hc ↦
    meets_of_writesOnly (K := fun _ ↦ True) ((keeps_trivial _).imp fun _ _ _ _ ↦ trivial) hs
      fun a _ _ _ _ _ _ ↦ commits_of_calmCall hc a
  cases c with
  | saveProduct id product auditID audit hsold => exact meets_saveCreditTopupProduct hsold
  | createProductIfMissing id product hsold => exact meets_createCreditTopupProductIfMissing hsold
  | createOrder id order now hpending =>
    rw [prog, meets_bind]
    exact (meets_createCreditTopupOrder hpending).imp fun _ _ _ _ h ↦ meets_pure h
  | fulfill input =>
    rw [prog, meets_bind]
    exact meets_fulfillPaymentTransaction.imp fun _ _ _ _ h ↦ meets_pure h
  | cancelOrder => exact hcalm trivial
  | closeTransaction => exact hcalm trivial
  | expireCheckout => exact hcalm trivial
  | other => exact hcalm trivial

/-! ## Every run -/

/-- **A product is sold as often as its row says, and no oftener than it is in stock.**  Whatever the
interleaving, as long as the product is saved only over the sold count it was read with: after every
commit the sold count is the number of the paid orders; and together with the pending ones it stays
within the stock limit, over any stretch of the run in which the limit is not lowered. -/
theorem topup_stock {digestOf : String → CreditTopupProduct → String} {calendar : Calendar}
    {productID : String} {s : Store} {cfg : Config ProductCall Row RepoError Unit}
    (hstart : Counted productID s) (h : Reach (unspoilt digestOf calendar) (.init s) cfg) :
    (∀ p, cfg.db.lookup (.creditTopupProduct productID) = some p →
      p.soldCount = topupOrders productID .paid cfg.db) ∧
    (∀ e ∈ cfg.log, InStock productID e.before → ¬LowersLimit productID e.before e.after →
      InStock productID e.after) ∧
    (InStock productID s → (∀ e ∈ cfg.log, ¬LowersLimit productID e.before e.after) →
      InStock productID cfg.db) := by
  have hok := Contract.sound (fun c ↦ c.rowTrans) (ProductCall.keeps_prog digestOf calendar)
    (fun c s hs ↦ c.meets_prog s hs) hstart h
  have hstep : ∀ e ∈ cfg.log, InStock productID e.before →
      ¬LowersLimit productID e.before e.after → InStock productID e.after := by
    intro e he hstock hlimit
    have hfulfilled := hok.log e he
    rw [Contract.Fulfilled] at hfulfilled
    split at hfulfilled
    · obtain ⟨locks, hcommit⟩ := hfulfilled
      exact hcommit.post.2 hstock hlimit
    · rwa [hfulfilled]
  exact ⟨hok.inv.sold, hstep, fun hs hlimit ↦ (linked_of_reach h).invariant hs fun e he hstock ↦
    hstep e he hstock (hlimit e he)⟩

/-! ## A product that is sold once -/

/-- `Counted` and `InStock`, computed. -/
def isCounted (productID : String) (s : Store) : Bool :=
  (s.lookup (.creditTopupProduct productID)).any fun p : CreditTopupProduct ↦
    p.soldCount = topupOrders productID .paid s &&
      (p.stockLimit < 0 || p.soldCount + topupOrders productID .pending s ≤ p.stockLimit)

theorem counted_of_isCounted {productID : String} {s : Store} (h : isCounted productID s = true) :
    Counted productID s ∧ InStock productID s := by
  rw [isCounted, Option.any_eq_true] at h
  obtain ⟨p, hp, h⟩ := h
  simp only [Bool.and_eq_true, Bool.or_eq_true, decide_eq_true_eq] at h
  refine ⟨⟨fun _ _ _ _ ↦ by rw [hp]; rfl, fun q hq ↦ ?_⟩, fun q hq hlimit ↦ ?_⟩
  · cases hp.symm.trans hq
    exact h.1
  · cases hp.symm.trans hq
    exact h.2.resolve_left (not_lt.mpr hlimit)

/-- The one piece there is has been ordered, and its payment has arrived. -/
def lastInStock : Store :=
  (((((∅ : Store).insert (.creditTopupProduct "p")
    { code := "p", stockLimit := 1, enabled := true }).insert (.creditTopupOrder "o")
    { userID := "u", productID := "p", totalMicrocredits := 5, idempotencyKey := "1" }).insert
    (.paymentTransaction "t")
    { orderType := .creditTopup, orderID := "o", userID := "u", provider := .alipay,
      merchantOrderNo := "m", status := .pending }).insert (.paymentCheckoutSession "c")
    { orderType := .creditTopup, orderID := "o", userID := "u", expiresAt := 100 }).insert
    (.paymentWebhookEvent "e")
    { provider := .alipay, providerEventID := "n", transactionID := "t", merchantOrderNo := "m",
      providerTradeNo := "trade" }

theorem counted_lastInStock : Counted "p" lastInStock ∧ InStock "p" lastInStock :=
  counted_of_isCounted (by decide)

/-- The payment is fulfilled. -/
def payLast : ProductCall :=
  .fulfill
    { eventID := "e", transactionID := "t", providerTradeNo := "trade", paidAt := 5,
      paymentConfirmed := true, topupEntryID := "entry",
      event := { provider := .alipay, providerEventID := "n" },
      activation :=
        { billingCycle := .month, subscriptionID := "", subscription := { userID := "" } } }

/-- The product is given a badge; its limit stays one. -/
def giveBadge : ProductCall :=
  .saveProduct "p" { code := "p", stockLimit := 1, enabled := true, badge := "new" } "audit" {} rfl

/-- Somebody else orders the product. -/
def orderAgain : ProductCall :=
  .createOrder "o2"
    { userID := "v", productID := "p", totalMicrocredits := 5, orderNumber := "2",
      idempotencyKey := "2" } 9 rfl

/-- Every product has the same digest, and a month is thirty days. -/
def shopProg : ProductCall → DbTx Unit :=
  ProductCall.prog (fun _ _ ↦ "") ⟨fun years months start ↦ start + 360 * years + 30 * months⟩

/-- The sold count, the paid and the pending orders. -/
def shelf (s : Store) : Option ℤ × ℕ × ℕ :=
  ((s.lookup (.creditTopupProduct "p")).map fun p : CreditTopupProduct ↦ p.soldCount,
    topupOrders "p" .paid s, topupOrders "p" .pending s)

theorem run_payLast :
    ((shopProg payLast).run lastInStock).toOption.map (fun r ↦ shelf r.2) =
      some (some 1, 1, 0) := by
  decide

theorem topup_stock_payLast :
    ∃ t, (shopProg payLast).run lastInStock = .ok ((), t) ∧ topupOrders "p" .paid t = 1 ∧
      (∀ p, t.lookup (.creditTopupProduct "p") = some p →
        p.soldCount = topupOrders "p" .paid t) ∧
      (InStock "p" lastInStock → ¬LowersLimit "p" lastInStock t → InStock "p" t) := by
  obtain ⟨⟨a, t⟩, hrun, hshelf⟩ := Option.map_eq_some_iff.mp run_payLast
  have hrun' : (shopProg payLast).run lastInStock = .ok (a, t) := by
    cases h : (shopProg payLast).run lastInStock with
    | error e =>
      rw [h] at hrun
      cases hrun
    | ok r =>
      rw [h] at hrun
      exact congrArg _ (Option.some.inj hrun)
  have hpaid : topupOrders "p" .paid t = 1 := congrArg (·.2.1) hshelf
  have hreach : Reach (unspoilt (fun _ _ ↦ "")
      ⟨fun years months start ↦ start + 360 * years + 30 * months⟩) (.init lastInStock)
      ⟨t, ∅, [⟨payLast, some a, lastInStock, t⟩]⟩ := reach_of_run (fun _ ↦ trivial) hrun'
  obtain ⟨hsold, hstep, -⟩ := topup_stock counted_lastInStock.1 hreach
  exact ⟨t, hrun', hpaid, hsold, hstep _ (.head _)⟩

/-- The product is read to be saved, paid for, and saved; then it is ordered again. -/
def lostSale : List (Action ProductCall) :=
  [.start 0 giveBadge, .step 0, .start 1 payLast] ++ List.replicate 15 (.step 1) ++
    [.commit 1, .step 0, .step 0, .commit 0, .start 0 orderAgain] ++
    List.replicate 4 (.step 0) ++ [.commit 0]

theorem play_lostSale :
    (play shopProg (.init lastInStock) lostSale).map (fun cfg ↦ shelf cfg.db) =
      some (some 0, 1, 1) := by
  decide

/-- **A sale forgotten**: the only piece is paid for, nothing counts as sold, and it is ordered
again. -/
theorem exists_run_forgetting_a_sale :
    ∃ cfg, Reach (.free shopProg) (.init lastInStock) cfg ∧
      (Counted "p" lastInStock ∧ InStock "p" lastInStock) ∧
      topupOrders "p" .paid cfg.db = 1 ∧ topupOrders "p" .pending cfg.db = 1 ∧
      ∃ p, cfg.db.lookup (.creditTopupProduct "p") = some p ∧ p.soldCount = 0 := by
  obtain ⟨cfg, hplay, hshelf⟩ := Option.map_eq_some_iff.mp play_lostSale
  obtain ⟨p, hp, hsold⟩ := Option.map_eq_some_iff.mp (congrArg Prod.fst hshelf)
  exact ⟨cfg, reach_of_play hplay, counted_lastInStock, congrArg (·.2.1) hshelf,
    congrArg (·.2.2) hshelf, p, hp, hsold⟩

end HMaigc
