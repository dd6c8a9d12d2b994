import HMaigc.Sql.Serial
import HMaigc.Sql.Preserves
import HMaigc.Repository.Footprint
import HMaigc.Payment.Protocol

/-!
# The transactions of a payable order keep the protocol

Seven kinds of transaction move a payable order: a checkout is opened, a payment is claimed and its
creation noted, the provider's events are recorded and their outcome noted, the payment is fulfilled,
put under review or closed, the checkout expires, and the order is cancelled.  Each moves some of the
order, the checkout, the transaction and the rows of the entitlement.

* `paymentView` — what the tables say, and `paymentView_eq` — writes that do not concern it.
* `PaymentCall`, `PaymentCall.prog` — the transactions, and `PaymentCall.Prepared` — what the service
  promises about the values it calls them with.
* `PaymentCall.consistent` — each keeps the protocol.
* `payable_order_protocol` — so it holds after every run.
-/

set_option autoImplicit false

namespace HMaigc

open Sql Go Prog

/-! ## What the tables say -/

/-- The status of an order. -/
def orderStatus (s : Store) : PaymentOrderType → String → Option PayableOrderStatus
  | .membership, id => (s.lookup (.membershipOrder id)).map (·.status)
  | .creditTopup, id => (s.lookup (.creditTopupOrder id)).map (·.status)

/-- The row grants what the order entitles to: the subscription of a membership order, the ledger
entry under the reference key of a top-up order. -/
def grantsOrder (s : Store) : PaymentOrderType → String → String → Prop
  | .membership, row, id =>
    ∃ m, s.lookup (.membershipSubscription row) = some m ∧ m.orderID = id
  | .creditTopup, row, id =>
    ∃ e, s.lookup (.creditLedgerEntry .personal row) = some e ∧
      e.referenceKey = some (topupReferenceKey id)

def paymentView (s : Store) : PaymentView where
  transaction id := s.lookup (.paymentTransaction id)
  checkout id := s.lookup (.paymentCheckoutSession id)
  order := orderStatus s
  grants := grantsOrder s

/-- The entry does not grant a top-up. -/
def CreditLedgerEntry.IsNoTopup (entry : CreditLedgerEntry) : Prop :=
  ∀ id, entry.referenceKey ≠ some (topupReferenceKey id)

/-- A write that does not concern payments. -/
def BesidePayments : ∀ k, Option (Row k) → Row k → Prop
  | .paymentTransaction _, _, _ => False
  | .paymentCheckoutSession _, _, _ => False
  | .membershipOrder _, _, _ => False
  | .creditTopupOrder _, _, _ => False
  | .membershipSubscription _, old, new => old.map (·.orderID) = some new.orderID
  | .creditLedgerEntry .personal _, old, new =>
    new.IsNoTopup ∧ ∀ r, old = some r → r.IsNoTopup
  | _, _, _ => True

theorem rowTrans_besidePayments : RowTrans BesidePayments := by
  intro k o r r' h h'
  cases k with
  | membershipSubscription id => exact h.trans h'
  | creditLedgerEntry book id =>
    cases book with
    | personal => exact ⟨h'.1, h.2⟩
    | team => trivial
  | paymentTransaction id => exact h
  | paymentCheckoutSession id => exact h
  | membershipOrder id => exact h
  | creditTopupOrder id => exact h
  | _ => trivial

section View

variable {s s' : Store}

theorem paymentView_ext {w : PaymentView}
    (htransaction : ∀ id, s.lookup (.paymentTransaction id) = w.transaction id)
    (hcheckout : ∀ id, s.lookup (.paymentCheckoutSession id) = w.checkout id)
    (horder : ∀ type id, orderStatus s type id = w.order type id)
    (hgrants : ∀ type row id, grantsOrder s type row id ↔ w.grants type row id) :
    paymentView s = w := by
  obtain ⟨transaction, checkout, order, grants⟩ := w
  obtain rfl : (fun id ↦ s.lookup (.paymentTransaction id)) = transaction := funext htransaction
  obtain rfl : (fun id ↦ s.lookup (.paymentCheckoutSession id)) = checkout := funext hcheckout
  obtain rfl : orderStatus s = order := funext fun type ↦ funext (horder type)
  obtain rfl : grantsOrder s = grants :=
    funext fun type ↦ funext fun row ↦ funext fun id ↦ propext (hgrants type row id)
  rfl

/-- **Writes that do not concern payments.** -/
theorem paymentView_eq (h : RowStep BesidePayments s s') : paymentView s' = paymentView s := by
  have htransaction : ∀ id, s'.lookup (.paymentTransaction id) = s.lookup (.paymentTransaction id) :=
    fun id ↦ (h (.paymentTransaction id)).resolve_right fun ⟨_, _, hfalse⟩ ↦ hfalse
  have hcheckout : ∀ id, s'.lookup (.paymentCheckoutSession id) =
      s.lookup (.paymentCheckoutSession id) :=
    fun id ↦ (h (.paymentCheckoutSession id)).resolve_right fun ⟨_, _, hfalse⟩ ↦ hfalse
  have hmembership : ∀ id, s'.lookup (.membershipOrder id) = s.lookup (.membershipOrder id) :=
    fun id ↦ (h (.membershipOrder id)).resolve_right fun ⟨_, _, hfalse⟩ ↦ hfalse
  have htopup : ∀ id, s'.lookup (.creditTopupOrder id) = s.lookup (.creditTopupOrder id) :=
    fun id ↦ (h (.creditTopupOrder id)).resolve_right fun ⟨_, _, hfalse⟩ ↦ hfalse
  have hsubscription : ∀ row id, grantsOrder s' .membership row id ↔
      grantsOrder s .membership row id := by
    intro row id
    rcases h (.membershipSubscription row) with heq | ⟨m', hm', hstep⟩
    · simp only [grantsOrder, heq]
    · obtain ⟨m, hm, horder⟩ := Option.map_eq_some_iff.mp hstep
      simp [grantsOrder, hm', hm, horder]
  have hentry : ∀ row id, grantsOrder s' .creditTopup row id ↔
      grantsOrder s .creditTopup row id := by
    intro row id
    rcases h (.creditLedgerEntry .personal row) with heq | ⟨e', he', hnew, hold⟩
    · simp only [grantsOrder, heq]
    · constructor
      · rintro ⟨e, he, hkey⟩
        cases he.symm.trans he'
        exact absurd hkey (hnew id)
      · rintro ⟨e, he, hkey⟩
        exact absurd hkey (hold e he id)
  refine paymentView_ext htransaction hcheckout (fun type id ↦ ?_) fun type row id ↦ ?_
  · cases type
    · exact congrArg (Option.map (·.status)) (hmembership id)
    · exact congrArg (Option.map (·.status)) (htopup id)
  · cases type
    · exact hsubscription row id
    · exact hentry row id

/-- A program that does not concern payments. -/
theorem post_besidePayments {α : Type} {p : DbTx α} (h : p.Keeps BesidePayments fun _ ↦ True)
    (s : Store) : p.Post s fun _ s' ↦ paymentView s' = paymentView s :=
  (post_of_keeps rowTrans_besidePayments h s).mono fun _ _ hstep ↦ paymentView_eq hstep.1

theorem paymentView_insert_transaction (id : String) (t : PaymentTransaction) :
    paymentView (s.insert (.paymentTransaction id) t) = (paymentView s).setTransaction id t := by
  refine paymentView_ext (fun id' ↦ ?_) (fun id' ↦ ?_) (fun type id' ↦ ?_) fun type row id' ↦ ?_
  · rcases eq_or_ne id' id with rfl | h
    · simp [PaymentView.setTransaction, paymentView]
    · simp [PaymentView.setTransaction, paymentView, h]
  · simp [PaymentView.setTransaction, paymentView]
  · cases type <;> simp [PaymentView.setTransaction, paymentView, orderStatus]
  · cases type <;> simp [PaymentView.setTransaction, paymentView, grantsOrder]

theorem paymentView_insert_checkout (id : String) (c : PaymentCheckoutSession) :
    paymentView (s.insert (.paymentCheckoutSession id) c) = (paymentView s).setCheckout id c := by
  refine paymentView_ext (fun id' ↦ ?_) (fun id' ↦ ?_) (fun type id' ↦ ?_) fun type row id' ↦ ?_
  · simp [PaymentView.setCheckout, paymentView]
  · rcases eq_or_ne id' id with rfl | h
    · simp [PaymentView.setCheckout, paymentView]
    · simp [PaymentView.setCheckout, paymentView, h]
  · cases type <;> simp [PaymentView.setCheckout, paymentView, orderStatus]
  · cases type <;> simp [PaymentView.setCheckout, paymentView, grantsOrder]

/-- One checkout gets a new status. -/
theorem paymentView_update_checkout {id : String} {c : PaymentCheckoutSession}
    (hc : s.lookup (.paymentCheckoutSession id) = some c) (status : PaymentCheckoutStatus) :
    paymentView (s.insert (.paymentCheckoutSession id) { c with status := status }) =
      (paymentView s).updateCheckouts (fun id' _ ↦ id' = id) status := by
  rw [paymentView_insert_checkout, PaymentView.setCheckout, PaymentView.updateCheckouts]
  congr 1
  funext id'
  by_cases h : id' = id
  · subst h
    simp [paymentView, hc]
  · simp [paymentView, h]

theorem paymentView_insert_membershipOrder (id : String) (o : MembershipOrder) :
    paymentView (s.insert (.membershipOrder id) o) =
      (paymentView s).setOrder .membership id o.status := by
  refine paymentView_ext (fun id' ↦ ?_) (fun id' ↦ ?_) (fun type id' ↦ ?_) fun type row id' ↦ ?_
  · simp [PaymentView.setOrder, paymentView]
  · simp [PaymentView.setOrder, paymentView]
  · rcases eq_or_ne id' id with rfl | h
    · cases type <;> simp [PaymentView.setOrder, paymentView, orderStatus]
    · cases type <;> simp [PaymentView.setOrder, paymentView, orderStatus, h]
  · cases type <;> simp [PaymentView.setOrder, paymentView, grantsOrder]

theorem paymentView_insert_creditTopupOrder (id : String) (o : CreditTopupOrder) :
    paymentView (s.insert (.creditTopupOrder id) o) =
      (paymentView s).setOrder .creditTopup id o.status := by
  refine paymentView_ext (fun id' ↦ ?_) (fun id' ↦ ?_) (fun type id' ↦ ?_) fun type row id' ↦ ?_
  · simp [PaymentView.setOrder, paymentView]
  · simp [PaymentView.setOrder, paymentView]
  · rcases eq_or_ne id' id with rfl | h
    · cases type <;> simp [PaymentView.setOrder, paymentView, orderStatus]
    · cases type <;> simp [PaymentView.setOrder, paymentView, orderStatus, h]
  · cases type <;> simp [PaymentView.setOrder, paymentView, grantsOrder]

/-- A subscription is created. -/
theorem paymentView_insert_subscription {id : String} {m : MembershipSubscription}
    (hnew : s.lookup (.membershipSubscription id) = none) :
    paymentView (s.insert (.membershipSubscription id) m) =
      (paymentView s).addGrant .membership id m.orderID := by
  refine paymentView_ext (fun id' ↦ ?_) (fun id' ↦ ?_) (fun type id' ↦ ?_) fun type row id' ↦ ?_
  · simp [PaymentView.addGrant, paymentView]
  · simp [PaymentView.addGrant, paymentView]
  · cases type <;> simp [PaymentView.addGrant, paymentView, orderStatus]
  · cases type
    · by_cases h : row = id
      · subst h
        simp [PaymentView.addGrant, paymentView, grantsOrder, hnew, eq_comm]
      · simp [PaymentView.addGrant, paymentView, grantsOrder, h]
    · simp [PaymentView.addGrant, paymentView, grantsOrder]

theorem topupReferenceKey_injective {a b : String} (h : topupReferenceKey a = topupReferenceKey b) :
    a = b := by
  rw [topupReferenceKey, topupReferenceKey] at h
  simpa using h

/-- The ledger entry of a top-up is posted. -/
theorem paymentView_insert_topupEntry {id orderID : String} {e : CreditLedgerEntry}
    (hnew : s.lookup (.creditLedgerEntry .personal id) = none)
    (hkey : e.referenceKey = some (topupReferenceKey orderID)) :
    paymentView (s.insert (.creditLedgerEntry .personal id) e) =
      (paymentView s).addGrant .creditTopup id orderID := by
  have hiff : ∀ id', e.referenceKey = some (topupReferenceKey id') ↔ id' = orderID := by
    intro id'
    rw [hkey, Option.some.injEq]
    exact ⟨fun h ↦ (topupReferenceKey_injective h).symm, fun h ↦ by rw [h]⟩
  refine paymentView_ext (fun id' ↦ ?_) (fun id' ↦ ?_) (fun type id' ↦ ?_) fun type row id' ↦ ?_
  · simp [PaymentView.addGrant, paymentView]
  · simp [PaymentView.addGrant, paymentView]
  · cases type <;> simp [PaymentView.addGrant, paymentView, orderStatus]
  · cases type
    · simp [PaymentView.addGrant, paymentView, grantsOrder]
    · by_cases h : row = id
      · subst h
        simp [PaymentView.addGrant, paymentView, grantsOrder, hnew, hiff]
      · simp [PaymentView.addGrant, paymentView, grantsOrder, h]

end View

/-! ## Pieces of the transactions -/

/-- What `updateCheckouts` makes of a row. -/
def checkoutUpdate (which : PaymentCheckoutSession → Bool) (status : PaymentCheckoutStatus) :
    ∀ k, Row k → Option (Row k)
  | .paymentCheckoutSession _, c => if which c then some { c with status := status } else none
  | _, _ => none

theorem updateCheckouts_eq (which : PaymentCheckoutSession → Bool)
    (status : PaymentCheckoutStatus) :
    updateCheckouts which status = Prog.updateAll (checkoutUpdate which status) := rfl

/-- **The checkouts of an order are closed.** -/
theorem post_updateCheckouts (which : PaymentCheckoutSession → Bool)
    (status : PaymentCheckoutStatus) (s : Store) :
    (updateCheckouts which status).Post s fun _ s' ↦
      paymentView s' = (paymentView s).updateCheckouts (fun _ ↦ which) status := by
  rw [updateCheckouts_eq, post_updateAll]
  have hlookup : ∀ k, (s.apply (s.changes (checkoutUpdate which status))).lookup k =
      (s.lookup k).map fun r ↦ (checkoutUpdate which status k r).getD r :=
    fun k ↦ Db.lookup_apply_changes _ _ _
  refine paymentView_ext (fun id ↦ ?_) (fun id ↦ ?_) (fun type id ↦ ?_) fun type row id ↦ ?_
  · rw [hlookup]
    cases hrow : s.lookup (.paymentTransaction id) <;>
      simp [PaymentView.updateCheckouts, paymentView, checkoutUpdate, hrow]
  · rw [hlookup]
    cases hrow : s.lookup (.paymentCheckoutSession id) with
    | none => simp [PaymentView.updateCheckouts, paymentView, hrow]
    | some c =>
      by_cases hwhich : which c = true <;>
        simp [PaymentView.updateCheckouts, paymentView, checkoutUpdate, hrow, hwhich]
  · cases type
    · cases hrow : s.lookup (.membershipOrder id) <;>
        simp [PaymentView.updateCheckouts, paymentView, orderStatus, checkoutUpdate, hlookup, hrow]
    · cases hrow : s.lookup (.creditTopupOrder id) <;>
        simp [PaymentView.updateCheckouts, paymentView, orderStatus, checkoutUpdate, hlookup, hrow]
  · cases type
    · cases hrow : s.lookup (.membershipSubscription row) <;>
        simp [PaymentView.updateCheckouts, paymentView, grantsOrder, checkoutUpdate, hlookup, hrow]
    · cases hrow : s.lookup (.creditLedgerEntry .personal row) <;>
        simp [PaymentView.updateCheckouts, paymentView, grantsOrder, checkoutUpdate, hlookup, hrow]

theorem keeps_createAudit (audit : Option (String × AdminAuditEvent)) :
    (createAudit audit).Keeps BesidePayments fun _ ↦ True := by
  cases audit <;> simp [createAudit, BesidePayments]

theorem keeps_processEvent (input : PaymentFulfillment) :
    (processEvent input).Keeps BesidePayments fun _ ↦ True := by
  have haudit := keeps_createAudit input.audit
  simp [processEvent, haudit, BesidePayments]

@[simp] theorem besidePayments_creditAccount (payer : Payer)
    (old : Option (Row (.creditAccount payer))) (new : Row (.creditAccount payer)) :
    BesidePayments (.creditAccount payer) old new := trivial

/-- Credits that are not a top-up's. -/
theorem keeps_grantToAccount (post : CreditAccount → CreditLedgerEntry)
    (hpost : ∀ account, (post account).IsNoTopup) (payer : Payer) (amount : ℤ) (entryID : String) :
    (grantToAccount payer amount entryID post).Keeps BesidePayments fun _ ↦ True := by
  have hentry : ∀ account, BesidePayments
      (.creditLedgerEntry (post account).payer.book entryID) none (post account) := by
    intro account
    cases (post account).payer.book with
    | personal => exact ⟨hpost account, fun _ h ↦ by cases h⟩
    | team => trivial
  simp [grantToAccount, createAccountIfMissing, readAccount, createLedgerEntry, hentry]

/-- What a caller promises about the ledger entries of an activation. -/
def MembershipActivation.PostsNoTopup (activation : MembershipActivation) : Prop :=
  (∀ ledger, activation.membershipLedger = some ledger → ledger.entry.IsNoTopup) ∧
    ∀ fulfillment, activation.referral = some fulfillment →
      fulfillment.inviterLedger.entry.IsNoTopup ∧ fulfillment.inviteeLedger.entry.IsNoTopup

theorem keeps_grantActivationLedger {activation : MembershipActivation}
    (h : activation.PostsNoTopup) (order : MembershipOrder) :
    (grantActivationLedger order activation).Keeps BesidePayments fun _ ↦ True := by
  rw [grantActivationLedger]
  cases hledger : activation.membershipLedger with
  | none => simp
  | some ledger =>
    have hno := h.1 ledger hledger
    have hteam := keeps_grantToAccount (teamGrantEntry order.teamID ledger.entry)
      fun _ ↦ hno
    have hpersonal := keeps_grantToAccount (personalGrantEntry ledger.entry) fun _ ↦ hno
    simp [grantTeamMembershipLedgerTx, grantPersonalCreditLedgerTx, keeps_ite, hteam, hpersonal]

theorem keeps_grantReferralRewardTx {fulfillment : ReferralFulfillment}
    (hinviter : fulfillment.inviterLedger.entry.IsNoTopup)
    (hinvitee : fulfillment.inviteeLedger.entry.IsNoTopup) (orderID : String)
    (order : MembershipOrder) (now : Time) :
    (grantReferralRewardTx orderID order fulfillment now).Keeps BesidePayments fun _ ↦ True := by
  have hinviter' := keeps_grantToAccount
    (personalGrantEntry fulfillment.inviterLedger.entry) fun _ ↦ hinviter
  have hinvitee' := keeps_grantToAccount
    (personalGrantEntry fulfillment.inviteeLedger.entry) fun _ ↦ hinvitee
  simp [grantReferralRewardTx, grantPersonalCreditLedgerTx, createReferralReward, keeps_ite,
    hinviter', hinvitee', BesidePayments]

/-! ## What a lock on an order says -/

/-- The order is locked; if it is to be paid, it is pending. -/
theorem post_lockPaymentOrderTx (orderType : PaymentOrderType) (orderID userID : String)
    (s : Store) :
    (lockPaymentOrderTx orderType orderID userID).Post s fun payable s' ↦
      s' = s ∧ (payable = true → orderStatus s orderType orderID = some .pending) := by
  cases orderType
  · simp only [lockPaymentOrderTx, post_bind, post_firstForUpdate, pure_eq_done, post_done]
    intro o ho _
    exact ⟨trivial, fun h ↦ by simpa [orderStatus, ho] using h⟩
  · simp only [lockPaymentOrderTx, post_bind, post_firstForUpdate, pure_eq_done, post_done]
    intro o ho _
    exact ⟨trivial, fun h ↦ by simpa [orderStatus, ho] using h⟩

theorem post_lockPayableOrderTx (orderType : PaymentOrderType) (orderID userID : String)
    (s : Store) :
    (lockPayableOrderTx orderType orderID userID).Post s fun _ s' ↦
      s' = s ∧ orderStatus s orderType orderID = some .pending := by
  rw [lockPayableOrderTx, post_bind]
  refine (post_lockPaymentOrderTx orderType orderID userID s).mono fun payable t ht ↦ ?_
  obtain ⟨rfl, hpending⟩ := ht
  rw [post_ite]
  refine ⟨fun _ ↦ by simp, fun h ↦ ?_⟩
  rw [pure_eq_done, post_done]
  exact ⟨rfl, hpending (by simpa using h)⟩

theorem checkoutOf_eq_some {orderType : PaymentOrderType} {orderID : String} {s : Store}
    {c : String × PaymentCheckoutSession} (h : checkoutOf orderType orderID s = some c) :
    s.lookup (.paymentCheckoutSession c.1) = some c.2 ∧ c.2.orderType = orderType ∧
      c.2.orderID = orderID := by
  have hmem := List.mem_of_head? h
  rw [Db.mem_select] at hmem
  obtain ⟨k, r, hr, heq⟩ := hmem
  cases k with
  | paymentCheckoutSession id =>
    obtain ⟨⟨htype, horder⟩, heq⟩ := Option.ite_none_right_eq_some.mp heq
    cases heq
    exact ⟨hr, htype, horder⟩
  | _ => cases heq

theorem post_lockCheckout (orderType : PaymentOrderType) (orderID : String) (s : Store) :
    (lockCheckout orderType orderID).Post s fun c s' ↦
      s' = s ∧ s.lookup (.paymentCheckoutSession c.1) = some c.2 ∧ c.2.orderType = orderType ∧
        c.2.orderID = orderID := by
  rw [lockCheckout, findCheckoutForUpdate, post_bind, post_queryForUpdate]
  cases h : checkoutOf orderType orderID s with
  | none => simp
  | some c =>
    dsimp only
    rw [pure_eq_done, post_done]
    exact ⟨rfl, checkoutOf_eq_some h⟩

/-- No transaction of the order is in a payable status. -/
theorem not_slotTaken_of_exists {orderType : PaymentOrderType} {orderID : String} {s : Store}
    (h : payableTransactionExists orderType orderID s = false) :
    ¬(paymentView s).SlotTaken orderType orderID := by
  rintro ⟨id, t, ht, rfl, rfl, hpayable⟩
  rw [payableTransactionExists, Db.any_eq_false_iff] at h
  have hno := h (.paymentTransaction id) t ht
  simp [PaymentTransaction.pays, hpayable] at hno

theorem mem_payableTransactions {orderType : PaymentOrderType} {orderID : String} {s : Store}
    {a : String × PaymentTransaction} :
    a ∈ payableTransactions orderType orderID s ↔
      s.lookup (.paymentTransaction a.1) = some a.2 ∧ a.2.orderType = orderType ∧
        a.2.orderID = orderID ∧ a.2.status.isPayable = true := by
  rw [payableTransactions, Db.mem_select]
  constructor
  · rintro ⟨k, r, hr, hmem⟩
    cases k with
    | paymentTransaction id =>
      obtain ⟨⟨hpays, hpayable⟩, heq⟩ := Option.ite_none_right_eq_some.mp hmem
      cases heq
      simp only [PaymentTransaction.pays, Bool.and_eq_true, decide_eq_true_eq] at hpays
      exact ⟨hr, hpays.1, hpays.2, hpayable⟩
    | _ => cases hmem
  · rintro ⟨hr, htype, horder, hpayable⟩
    refine ⟨_, _, hr, if_pos ⟨?_, hpayable⟩⟩
    simp [PaymentTransaction.pays, htype, horder]

theorem not_slotTaken_of_oldest {orderType : PaymentOrderType} {orderID : String} {s : Store}
    (h : oldestPayable orderType orderID s = none) :
    ¬(paymentView s).SlotTaken orderType orderID := by
  rintro ⟨id, t, ht, htype, horder, hpayable⟩
  rw [oldestPayable, Db.earliest_eq_none] at h
  have hmem := mem_payableTransactions.mpr
    (show s.lookup (.paymentTransaction (id, t).1) = some (id, t).2 ∧ _ from
      ⟨ht, htype, horder, hpayable⟩)
  rw [h] at hmem
  cases hmem

/-- Nothing is open where the payable slot is free. -/
theorem PaymentTransaction.IsOpen.isPayable {t : PaymentTransaction} (h : t.IsOpen) :
    t.status.isPayable = true := by
  rcases h with h | h <;> rw [h] <;> rfl

theorem not_isOpen_of_not_slotTaken {v : PaymentView} {orderType : PaymentOrderType}
    {orderID id : String} {t : PaymentTransaction} (hfree : ¬v.SlotTaken orderType orderID)
    (ht : v.transaction id = some t) (htype : t.orderType = orderType)
    (horder : t.orderID = orderID) : ¬t.IsOpen := fun hopen ↦
  hfree ⟨id, t, ht, htype, horder, hopen.isPayable⟩

/-- Nothing is open for an order that is not there. -/
theorem PaymentView.Consistent.no_transaction {v : PaymentView} (hv : v.Consistent)
    {orderType : PaymentOrderType} {orderID id : String} {t : PaymentTransaction}
    (hnone : v.order orderType orderID = none) (ht : v.transaction id = some t) :
    ¬(t.orderType = orderType ∧ t.orderID = orderID) := by
  rintro ⟨rfl, rfl⟩
  have hknown := hv.known id t ht
  rw [hnone] at hknown
  cases hknown

/-- An order of one type is no order of the other. -/
theorem PaymentView.Consistent.order_eq_none_of_ne {v : PaymentView} (hv : v.Consistent)
    {orderType orderType' : PaymentOrderType} {orderID : String}
    (hexists : (v.order orderType orderID).isSome = true) (hne : orderType' ≠ orderType) :
    v.order orderType' orderID = none := by
  have hapart := hv.apart orderID
  cases orderType <;> cases orderType'
  · exact absurd rfl hne
  · exact hapart.resolve_left fun h ↦ by simp [h] at hexists
  · exact hapart.resolve_right fun h ↦ by simp [h] at hexists
  · exact absurd rfl hne

/-- **Closing the checkouts of an order whose payable slot is free.**  They are found by the order's
identifier alone, which no order of the other type has. -/
theorem quiet_of_not_slotTaken {v : PaymentView} (hv : v.Consistent)
    {orderType : PaymentOrderType} {orderID : String}
    (hexists : (v.order orderType orderID).isSome = true)
    (hfree : ¬v.SlotTaken orderType orderID) {c : PaymentCheckoutSession} (hc : c.orderID = orderID)
    {id : String} {t : PaymentTransaction} (ht : v.transaction id = some t)
    (horder : t.orderID = c.orderID) : ¬t.IsOpen := by
  by_cases hsame : t.orderType = orderType
  · exact not_isOpen_of_not_slotTaken hfree ht hsame (horder.trans hc)
  · have hnone : v.order t.orderType orderID = none :=
      hv.order_eq_none_of_ne hexists hsame
    exact absurd ⟨rfl, horder.trans hc⟩ (hv.no_transaction hnone ht)

/-! ## Each transaction keeps the protocol -/

/-- The protocol holds of the tables. -/
def InProtocol (s : Store) : Prop := (paymentView s).Consistent

section Transactions

variable {s : Store}

theorem InProtocol.of_eq (hs : InProtocol s) {s' : Store}
    (h : paymentView s' = paymentView s) : InProtocol s' := by
  rw [InProtocol, h]
  exact hs

theorem preserves_besidePayments {α : Type} {p : DbTx α}
    (h : p.Keeps BesidePayments fun _ ↦ True) : p.Preserves InProtocol :=
  fun s hs ↦ (post_besidePayments h s).mono fun _ _ heq ↦ hs.of_eq heq

/-- A transaction moves within, into or out of the payable slot, without being paid. -/
theorem InProtocol.move (hs : InProtocol s) {id : String} {t t' : PaymentTransaction}
    (ht : s.lookup (.paymentTransaction id) = some t) (hsame : t'.SameOrder t)
    (hunpaid : t.status ≠ .paid) (hunpaid' : t'.status ≠ .paid)
    (hslot : t'.status.isPayable = true → t.status.isPayable = true) (hopen : t'.IsOpen → t.IsOpen) :
    InProtocol (s.insert (.paymentTransaction id) t') := by
  rw [InProtocol, paymentView_insert_transaction]
  refine PaymentView.Consistent.move hs ht hsame hunpaid hunpaid' (fun hpay id' t₁ h₁ hsame₁ hpay₁ ↦
    ?_) hopen
  exact PaymentView.Consistent.slot hs id' id t₁ t h₁ ht hsame₁ hpay₁ (hslot hpay)

theorem inProtocol_createOrGetPaymentCheckoutSession (hs : InProtocol s) (id : String)
    {candidate : PaymentCheckoutSession} (hactive : candidate.status = .active) :
    (createOrGetPaymentCheckoutSession id candidate).Post s fun _ s' ↦ InProtocol s' := by
  rw [createOrGetPaymentCheckoutSession, post_bind, post_createUnlessTaken]
  refine ⟨fun _ ↦ ?_, fun hfree _ _ ↦ ?_⟩
  · rw [post_bind, post_query]
    split
    · rw [pure_eq_done, post_done]
      exact hs
    · simp
  · have hopen : InProtocol (s.insert (.paymentCheckoutSession id) candidate) := by
      rw [InProtocol, paymentView_insert_checkout]
      refine PaymentView.Consistent.openCheckout hs hactive fun cid c hc horder ↦ ?_
      rw [Db.any_eq_false_iff] at hfree
      have hno := hfree (.paymentCheckoutSession cid) c hc
      simp [horder] at hno
    rw [post_bind, post_query]
    split
    · rw [pure_eq_done, post_done]
      exact hopen
    · simp

theorem inProtocol_claimPayablePaymentTransaction (hs : InProtocol s) (id : String)
    (candidate : PaymentTransaction) :
    (claimPayablePaymentTransaction id candidate).Post s fun _ s' ↦ InProtocol s' := by
  rw [claimPayablePaymentTransaction, post_ite]
  refine ⟨fun _ ↦ by simp, fun hcomplete ↦ ?_⟩
  have hstatus : candidate.status = .created := by
    by_contra h
    exact hcomplete (.inl h)
  rw [post_bind]
  refine (post_lockPayableOrderTx _ _ _ s).mono fun _ t ht ↦ ?_
  obtain ⟨rfl, hpending⟩ := ht
  rw [post_bind]
  refine (post_lockCheckout _ _ t).mono fun checkout u hu ↦ ?_
  obtain ⟨rfl, hcheckout, -, horder⟩ := hu
  simp only [post_bind, post_ite, throw_eq_fail, post_fail, post_query, lockOldestPayable,
    post_queryForUpdate]
  refine ⟨fun _ ↦ trivial, fun hactive ↦ ⟨fun _ ↦ trivial, fun _ ↦ ⟨fun _ ↦ trivial, fun _ ↦ ?_⟩⟩⟩
  cases hwinner : oldestPayable candidate.orderType candidate.orderID u with
  | some winner =>
    dsimp only
    rw [post_ite]
    refine ⟨fun _ ↦ by simp, fun _ ↦ ?_⟩
    rw [pure_eq_done, post_done]
    exact hs
  | none =>
    simp only [createTransaction, post_bind, post_create, pure_eq_done, post_done]
    intro hnew _
    rw [InProtocol, paymentView_insert_transaction]
    refine PaymentView.Consistent.claim hs hnew hstatus hpending (not_slotTaken_of_oldest hwinner)
      hcheckout horder ?_
    by_contra h
    exact hactive (.inl h)

/-- The statuses the service notes for a transaction that was created. -/
def PaymentTransactionStatus.IsCreationOutcome (status : PaymentTransactionStatus) : Prop :=
  status = .pending ∨ status = .reviewRequired ∨ status = .failed

theorem inProtocol_updatePaymentTransactionCreation (hs : InProtocol s) (id : String)
    {status : PaymentTransactionStatus} (hstatus : status.IsCreationOutcome)
    (codeURL failureCode failureReason : String) :
    (updatePaymentTransactionCreation id status codeURL failureCode failureReason).Post s
      fun _ s' ↦ InProtocol s' := by
  simp only [updatePaymentTransactionCreation, post_bind, post_ite, throw_eq_fail, post_fail,
    pure_eq_done, post_done, post_update]
  refine ⟨fun t ht hcreated t' ht' ↦ ⟨fun _ ↦ trivial, fun _ ↦ ?_⟩,
    fun _ ↦ ⟨fun _ ↦ trivial, fun _ ↦ hs⟩⟩
  cases ht'
  have hcreated : t.status = .created := by simpa using hcreated
  refine hs.move ht ⟨rfl, rfl⟩ (by rw [hcreated]; decide) ?_ (fun _ ↦ by rw [hcreated]; rfl)
    fun _ ↦ .inl hcreated
  rcases hstatus with rfl | rfl | rfl <;> simp

/-- Parking an open transaction. -/
theorem inProtocol_parkTransaction (hs : InProtocol s) (candidate : PaymentWebhookEvent)
    (transaction : Option PaymentTransaction) :
    (parkTransaction candidate transaction).Post s fun _ s' ↦ InProtocol s' := by
  simp only [parkTransaction, post_bind, post_ite, throw_eq_fail, post_fail, pure_eq_done,
    post_done, post_update]
  refine ⟨fun _ ↦ ⟨fun t ht hopen t' ht' ↦ ⟨fun _ ↦ trivial, fun _ ↦ ?_⟩,
    fun _ ↦ ⟨fun _ ↦ trivial, fun _ ↦ hs⟩⟩, fun _ ↦ hs⟩
  cases ht'
  have hopen : t.IsOpen := by simpa [PaymentTransaction.IsOpen] using hopen
  refine hs.move ht ⟨rfl, rfl⟩ ?_ (by simp) (fun _ ↦ hopen.isPayable) fun _ ↦ hopen
  rcases hopen with h | h <;> rw [h] <;> decide

theorem inProtocol_recordPaymentWebhookEvent (hs : InProtocol s) (id : String)
    (candidate : PaymentWebhookEvent) :
    (recordPaymentWebhookEvent id candidate).Post s fun _ s' ↦ InProtocol s' := by
  have hcreate : ∀ e : PaymentWebhookEvent, (createWebhookEvent id e).Preserves InProtocol :=
    fun e ↦ preserves_besidePayments (by simp [createWebhookEvent, BesidePayments])
  simp only [recordPaymentWebhookEvent, lockPaymentProviderTradeTx, post_bind, post_ite,
    throw_eq_fail, post_fail, post_queryForUpdate, pure_eq_done]
  refine ⟨fun _ ↦ trivial, fun _ ↦ (post_of_readOnly (readOnly_lockEventTransaction
    candidate) s).mono fun transaction t ht ↦ ?_⟩
  subst ht
  cases webhookEventByProviderID candidate.provider candidate.providerEventID t with
  | some stored =>
    simp only [post_bind, post_ite, post_fail, post_done]
    exact ⟨fun _ ↦ trivial, fun _ ↦ hs⟩
  | none =>
    simp only [post_bind, post_query, post_ite, post_done]
    refine ⟨fun _ ↦ (inProtocol_parkTransaction hs candidate transaction).mono fun _ t' ht' ↦
      hcreate _ t' ht', fun _ ↦ hcreate _ t hs⟩

theorem inProtocol_markPaymentWebhookOutcome (hs : InProtocol s) (id : String)
    (status : PaymentWebhookStatus) (failureCode failureReason : String) (now : Time) :
    (markPaymentWebhookOutcome id status failureCode failureReason now).Post s
      fun _ s' ↦ InProtocol s' := by
  refine preserves_besidePayments ?_ s hs
  simp [markPaymentWebhookOutcome, keeps_ite, BesidePayments]

/-! ### Fulfilling -/

/-- A membership order is activated by the payment that has just been noted. -/
theorem post_activateMembershipOrderTx (calendar : Calendar)
    {orderID actorID provider providerTradeNo note : String} {activation : MembershipActivation}
    (hid : activation.subscription.orderID = orderID) (hno : activation.PostsNoTopup) (now : Time)
    (s : Store) :
    (activateMembershipOrderTx calendar orderID actorID provider providerTradeNo note activation
      now).Post s fun _ s' ↦ orderStatus s .membership orderID = some .pending ∧
        paymentView s' = ((paymentView s).setOrder .membership orderID .paid).addGrant .membership
          activation.subscriptionID orderID := by
  rw [activateMembershipOrderTx]
  simp [post_ite]
  intro order horder hpending
  refine (post_of_readOnly (readOnly_lockSubscriber order) s).mono fun _ t ht ↦ ?_
  subst ht
  generalize max now (((latestSubscription order now t).bind (·.2.endsAt)).getD now) = start
  cases activation.billingCycle.endOf calendar start with
  | error e => simp
  | ok stop =>
    simp [post_ite, createSubscription]
    intro row hrow _ hnew _
    cases horder.symm.trans hrow
    have hview : paymentView ((t.insert (.membershipOrder orderID)
        (order.pay provider providerTradeNo actorID note now)).insert
        (.membershipSubscription activation.subscriptionID)
        { activation.subscription with startsAt := start, endsAt := some stop }) =
        ((paymentView t).setOrder .membership orderID .paid).addGrant .membership
          activation.subscriptionID orderID := by
      rw [paymentView_insert_subscription (by simpa using hnew),
        paymentView_insert_membershipOrder, hid]
      rfl
    refine (post_besidePayments (keeps_grantActivationLedger hno order) _).mono fun _ u hu ↦ ?_
    have hstatus : orderStatus t .membership orderID = some .pending := by
      simp [orderStatus, horder, hpending]
    cases hreferral : activation.referral with
    | none => simpa using ⟨hstatus, hu.trans hview⟩
    | some fulfillment =>
      obtain ⟨hinviter, hinvitee⟩ := hno.2 fulfillment hreferral
      exact (post_besidePayments (keeps_grantReferralRewardTx hinviter hinvitee orderID order now)
        u).mono fun _ _ hw ↦ ⟨hstatus, hw.trans (hu.trans hview)⟩

/-- The ledger entry of a top-up. -/
theorem post_grantTopup (order : CreditTopupOrder) (orderID entryID : String) (s : Store) :
    (grantToAccount (.user order.userID) order.totalMicrocredits entryID
      (topupEntry orderID order)).Post s fun _ s' ↦
        paymentView s' = (paymentView s).addGrant .creditTopup entryID orderID := by
  have hcreate : (createAccountIfMissing (.user order.userID)).Keeps BesidePayments fun _ ↦ True := by
    simp [createAccountIfMissing]
  have hmove : (Prog.update (.creditAccount (.user order.userID)) (fun _ ↦ true) fun a ↦
      a.move order.totalMicrocredits 0 : DbTx ℕ).Keeps BesidePayments fun _ ↦ True := by
    simp
  rw [grantToAccount, post_bind]
  refine (post_besidePayments hcreate s).mono fun _ t ht ↦ ?_
  rw [post_bind]
  refine (post_besidePayments hmove t).mono fun _ u hu ↦ ?_
  rw [post_bind, readAccount, post_first]
  intro account _
  rw [createLedgerEntry, post_create]
  intro hnew _
  have hkey : (topupEntry orderID order account).referenceKey = some (topupReferenceKey orderID) :=
    rfl
  rw [show (topupEntry orderID order account).payer.book = .personal from rfl] at hnew ⊢
  rw [paymentView_insert_topupEntry hnew hkey, hu, ht]

/-- A top-up order is fulfilled by the payment that has just been noted. -/
theorem post_fulfillCreditTopupOrderTx (orderID provider providerTradeNo entryID : String)
    (now : Time) (s : Store) :
    (fulfillCreditTopupOrderTx orderID provider providerTradeNo entryID now).Post s fun _ s' ↦
      orderStatus s .creditTopup orderID = some .pending ∧
        paymentView s' = ((paymentView s).setOrder .creditTopup orderID .paid).addGrant .creditTopup
          entryID orderID := by
  rw [fulfillCreditTopupOrderTx, post_bind, post_firstForUpdate]
  intro order horder _
  rw [post_ite]
  refine ⟨fun _ ↦ by simp, fun hpending ↦ ?_⟩
  rw [post_bind, post_update]
  refine ⟨fun row hrow _ row' hrow' ↦ ?_, fun _ ↦ by simp⟩
  rw [post_ite]
  refine ⟨fun _ ↦ by simp, fun _ ↦ ?_⟩
  rw [post_bind]
  cases horder.symm.trans hrow
  cases hrow'
  refine (post_grantTopup order orderID entryID _).mono fun _ t ht ↦ ?_
  have hsold : (Prog.update (.creditTopupProduct order.productID) (fun _ ↦ true)
      (fun p ↦ .ok { p with soldCount := p.soldCount + 1 }) >>= fun _ ↦ pure () : DbTx Unit).Keeps
        BesidePayments fun _ ↦ True := by
    simp [BesidePayments]
  refine (post_besidePayments hsold t).mono fun _ u hu ↦ ⟨?_, ?_⟩
  · simpa [orderStatus, horder] using hpending
  · rw [hu, ht, paymentView_insert_creditTopupOrder]
    rfl

/-- What the service promises about a fulfilment: the subscription is the order's, and none of the
entries is a top-up's. -/
def PaymentFulfillment.IsMadeFor (input : PaymentFulfillment) (transaction : PaymentTransaction) :
    Prop :=
  transaction.orderType = .membership →
    input.activation.subscription.orderID = transaction.orderID ∧ input.activation.PostsNoTopup

/-- The row that grants what the order entitles to. -/
def PaymentFulfillment.grantRow (input : PaymentFulfillment) : PaymentOrderType → String
  | .membership => input.activation.subscriptionID
  | .creditTopup => input.topupEntryID

theorem post_grantEntitlement (calendar : Calendar) {input : PaymentFulfillment}
    {transaction : PaymentTransaction} (hfor : input.IsMadeFor transaction) (s : Store) :
    (grantEntitlement calendar transaction input).Post s fun _ s' ↦
      orderStatus s transaction.orderType transaction.orderID = some .pending ∧
        paymentView s' = ((paymentView s).setOrder transaction.orderType transaction.orderID
          .paid).addGrant transaction.orderType (input.grantRow transaction.orderType)
            transaction.orderID := by
  rw [grantEntitlement]
  cases htype : transaction.orderType with
  | membership =>
    obtain ⟨hid, hno⟩ := hfor htype
    exact post_activateMembershipOrderTx calendar hid hno input.paidAt s
  | creditTopup => exact post_fulfillCreditTopupOrderTx _ _ _ _ _ s

/-- The one payable transaction of an order is paid, so its slot is free. -/
theorem not_slotTaken_of_paid {v : PaymentView} (hv : v.Consistent) {id : String}
    {t t' : PaymentTransaction} (ht : v.transaction id = some t)
    (hpayable : t.status.isPayable = true) (hpaid : t'.status.isPayable = false) :
    ¬(v.setTransaction id t').SlotTaken t.orderType t.orderID := by
  rintro ⟨id₁, t₁, h₁, htype, horder, hpay₁⟩
  rcases PaymentView.transaction_setTransaction.mp h₁ with ⟨-, rfl⟩ | ⟨hne, hold⟩
  · rw [hpaid] at hpay₁
    cases hpay₁
  · exact hne (hv.slot id₁ id t₁ t hold ht ⟨htype, horder⟩ hpay₁ hpayable)

/-- **The payment, the order, its entitlement and its checkout move together.** -/
theorem inProtocol_payOrder (hs : InProtocol s) (calendar : Calendar) {input : PaymentFulfillment}
    {transaction : PaymentTransaction}
    (ht : s.lookup (.paymentTransaction input.transactionID) = some transaction)
    (hfor : input.IsMadeFor transaction) :
    (payOrder calendar input transaction).Post s fun _ s' ↦ InProtocol s' := by
  rw [payOrder, post_bind, payTransaction, post_updateUnique]
  refine ⟨fun t hrow hpayable _ ↦ ?_, fun _ ↦ by simp⟩
  cases ht.symm.trans hrow
  rw [post_ite]
  refine ⟨fun _ ↦ by simp, fun _ ↦ ?_⟩
  rw [post_bind]
  refine (post_grantEntitlement calendar hfor _).mono fun _ t₁ h₁ ↦ ?_
  obtain ⟨hpending, hview⟩ := h₁
  rw [paymentView_insert_transaction] at hview
  have hpending' : (paymentView s).order transaction.orderType transaction.orderID =
      some .pending := by
    rw [← hpending]
    cases htype : transaction.orderType <;> simp [paymentView, orderStatus]
  have hpaid : InProtocol t₁ := by
    rw [InProtocol, hview]
    exact PaymentView.Consistent.pay hs ht ⟨rfl, rfl⟩ rfl hpending'
  have hfree : ¬(paymentView t₁).SlotTaken transaction.orderType transaction.orderID := by
    rw [hview]
    exact not_slotTaken_of_paid hs ht hpayable rfl
  have hexists : ((paymentView t₁).order transaction.orderType transaction.orderID).isSome := by
    rw [hview]
    simp [PaymentView.setOrder, PaymentView.addGrant]
  rw [post_bind]
  refine (post_updateCheckouts _ _ t₁).mono fun _ t₂ h₂ ↦ ?_
  have hclosed : InProtocol t₂ := by
    rw [InProtocol, h₂]
    exact PaymentView.Consistent.updateCheckouts hpaid fun _ _ _ hwhich _ _ hrow' _ horder ↦
      quiet_of_not_slotTaken hpaid hexists hfree (by simpa using hwhich) hrow' horder
  rw [post_bind]
  refine (preserves_besidePayments (keeps_processEvent input) t₂ hclosed).mono fun _ t₃ h₃ ↦ ?_
  rw [pure_eq_done, post_done]
  exact h₃

theorem inProtocol_fulfillPaymentTransaction (hs : InProtocol s) (calendar : Calendar)
    {input : PaymentFulfillment}
    (hfor : ∀ transaction, s.lookup (.paymentTransaction input.transactionID) = some transaction →
      input.IsMadeFor transaction) :
    (fulfillPaymentTransaction calendar input).Post s fun _ s' ↦ InProtocol s' := by
  rw [fulfillPaymentTransaction, post_ite]
  refine ⟨fun _ ↦ by simp, fun _ ↦ ?_⟩
  rw [post_bind, post_first]
  intro snapshot _
  rw [post_bind]
  refine (post_of_readOnly (readOnly_lockPaymentOrderTx _ _ _) s).mono fun _ t ht ↦ ?_
  subst ht
  rw [post_bind]
  refine (post_of_readOnly (readOnly_lockCheckout _ _) t).mono fun _ u hu ↦ ?_
  subst hu
  rw [post_bind, post_firstForUpdate]
  intro transaction htransaction _
  rw [post_bind, post_firstForUpdate]
  intro event _ _
  have haudit : (createAudit input.audit).Preserves InProtocol :=
    preserves_besidePayments (keeps_createAudit input.audit)
  have hprocess : (processEvent input).Preserves InProtocol :=
    preserves_besidePayments (keeps_processEvent input)
  rw [fulfillLocked]
  simp only [post_bind, post_ite, throw_eq_fail, post_fail, pure_eq_done, post_done]
  refine ⟨fun _ ↦ trivial, fun _ ↦ ⟨fun _ ↦ haudit u hs, fun _ ↦ ⟨fun _ ↦ trivial, fun _ ↦
    ⟨fun _ ↦ hprocess u hs, fun _ ↦ ⟨fun _ ↦ trivial, fun _ ↦ ?_⟩⟩⟩⟩⟩
  exact inProtocol_payOrder hs calendar htransaction (hfor transaction htransaction)

/-! ### Reviewing, closing and cancelling -/

theorem inProtocol_markPaymentTransactionReviewWithAudit (hs : InProtocol s)
    (id failureCode failureReason : String) (audit : Option (String × AdminAuditEvent)) :
    (markPaymentTransactionReviewWithAudit id failureCode failureReason audit).Post s
      fun _ s' ↦ InProtocol s' := by
  have haudit : (createAudit audit).Preserves InProtocol :=
    preserves_besidePayments (keeps_createAudit audit)
  rw [markPaymentTransactionReviewWithAudit, post_bind, post_firstForUpdate]
  intro transaction htransaction _
  rw [post_ite]
  refine ⟨fun hlive ↦ ?_, fun _ ↦ haudit s hs⟩
  rw [post_bind, post_updateUnique]
  refine ⟨fun t ht _ hfree ↦ haudit _ ?_, fun _ ↦ haudit s hs⟩
  cases htransaction.symm.trans ht
  rw [InProtocol, paymentView_insert_transaction]
  refine PaymentView.Consistent.move hs ht ⟨rfl, rfl⟩ hlive.1 (by simp) (fun _ id' t₁ h₁ hsame hpay ↦ ?_)
    fun hopen ↦ ?_
  · by_contra hne
    rw [payableSlotTaken, Db.any_eq_false_iff] at hfree
    have hno := hfree (.paymentTransaction id') t₁ h₁
    simp [hne, PaymentTransaction.pays, hsame.1, hsame.2, hpay] at hno
  · rcases hopen with h | h <;> cases h

theorem InProtocol.cancelMembership (hs : InProtocol s) {id : String} {o o' : MembershipOrder}
    (ho : s.lookup (.membershipOrder id) = some o) (hpending : o.status = .pending)
    (hcancelled : o'.status = .cancelled) : InProtocol (s.insert (.membershipOrder id) o') := by
  rw [InProtocol, paymentView_insert_membershipOrder, hcancelled]
  exact PaymentView.Consistent.cancel hs (by simp [paymentView, orderStatus, ho, hpending])

theorem InProtocol.cancelTopup (hs : InProtocol s) {id : String} {o o' : CreditTopupOrder}
    (ho : s.lookup (.creditTopupOrder id) = some o) (hpending : o.status = .pending)
    (hcancelled : o'.status = .cancelled) : InProtocol (s.insert (.creditTopupOrder id) o') := by
  rw [InProtocol, paymentView_insert_creditTopupOrder, hcancelled]
  exact PaymentView.Consistent.cancel hs (by simp [paymentView, orderStatus, ho, hpending])

/-- One checkout is closed, behind which nothing is open. -/
theorem InProtocol.closeCheckout (hs : InProtocol s) {id : String} {c : PaymentCheckoutSession}
    (hc : s.lookup (.paymentCheckoutSession id) = some c) (status : PaymentCheckoutStatus)
    (hquiet : ∀ tid t, s.lookup (.paymentTransaction tid) = some t → t.orderType = c.orderType →
      t.orderID = c.orderID → ¬t.IsOpen) :
    InProtocol (s.insert (.paymentCheckoutSession id) { c with status := status }) := by
  rw [InProtocol, paymentView_update_checkout hc]
  refine PaymentView.Consistent.updateCheckouts hs fun cid c' hc' hwhich tid t ht htype horder ↦ ?_
  have hcid : cid = id := by simpa using hwhich
  subst hcid
  cases hc.symm.trans hc'
  exact hquiet tid t ht htype horder

/-- The checkouts of an order are closed whose slot is free. -/
theorem inProtocol_updateCheckouts (hs : InProtocol s) {orderType : PaymentOrderType}
    {orderID : String} (hexists : (orderStatus s orderType orderID).isSome = true)
    (hfree : ¬(paymentView s).SlotTaken orderType orderID)
    {which : PaymentCheckoutSession → Bool} (hwhich : ∀ c, which c = true → c.orderID = orderID)
    (status : PaymentCheckoutStatus) :
    (updateCheckouts which status).Post s fun _ s' ↦ InProtocol s' := by
  refine (post_updateCheckouts which status s).mono fun _ t ht ↦ ?_
  rw [InProtocol, ht]
  exact PaymentView.Consistent.updateCheckouts hs fun _ c _ hc _ _ hrow _ horder ↦
    quiet_of_not_slotTaken hs hexists hfree (hwhich c hc) hrow horder

theorem post_rejectPayablePaymentTx (orderType : PaymentOrderType) (orderID : String) (s : Store) :
    (rejectPayablePaymentTx orderType orderID).Post s fun _ s' ↦
      s' = s ∧ payableTransactionExists orderType orderID s = false ∧
        verifiedPaymentFactExists orderType orderID s = false := by
  simp only [rejectPayablePaymentTx, post_bind, post_query, post_ite, throw_eq_fail, post_fail,
    pure_eq_done, post_done]
  exact ⟨fun _ ↦ trivial, fun hpayable ↦ ⟨fun _ ↦ trivial, fun hverified ↦
    ⟨trivial, by simpa using hpayable, by simpa using hverified⟩⟩⟩

theorem inProtocol_closeMembershipOrder (hs : InProtocol s) (orderID userID actorID note : String)
    (audit : Option (String × AdminAuditEvent)) :
    (closeMembershipOrder orderID userID actorID note audit).Post s fun _ s' ↦ InProtocol s' := by
  rw [closeMembershipOrder, post_bind, post_firstForUpdate]
  intro order horder _
  rw [post_ite]
  refine ⟨fun _ ↦ by simp, fun hpending ↦ ?_⟩
  have hpending : order.status = .pending := not_not.mp hpending
  rw [post_bind]
  refine (post_rejectPayablePaymentTx _ _ s).mono fun _ t ht ↦ ?_
  obtain ⟨ht, hpayable, -⟩ := ht
  subst ht
  have hfree := not_slotTaken_of_exists hpayable
  rw [post_bind, post_update]
  refine ⟨fun o ho _ o' ho' ↦ ?_, fun _ ↦ by simp⟩
  cases horder.symm.trans ho
  cases ho'
  rw [post_ite]
  refine ⟨fun _ ↦ by simp, fun _ ↦ ?_⟩
  rw [post_bind]
  have hcancelled := hs.cancelMembership ho hpending
    (show (order.cancel actorID note).status = .cancelled from rfl)
  have hfree' : ¬(paymentView (t.insert (.membershipOrder orderID)
      (order.cancel actorID note))).SlotTaken .membership orderID := by
    rw [paymentView_insert_membershipOrder]
    exact hfree
  refine (inProtocol_updateCheckouts hcancelled (by simp [orderStatus]) hfree'
    (fun c hc ↦ ?_) _).mono fun _ u hu ↦ preserves_besidePayments (keeps_createAudit audit) u hu
  simp only [Bool.and_eq_true, decide_eq_true_eq] at hc
  exact hc.1

theorem inProtocol_cancelCreditTopupOrder (hs : InProtocol s) (userID id : String) :
    (cancelCreditTopupOrder userID id).Post s fun _ s' ↦ InProtocol s' := by
  rw [cancelCreditTopupOrder, post_bind, post_firstForUpdate]
  intro order horder _
  rw [post_ite]
  refine ⟨fun _ ↦ by simp, fun hpending ↦ ?_⟩
  have hpending : order.status = .pending := not_not.mp hpending
  rw [post_bind]
  refine (post_rejectPayablePaymentTx _ _ s).mono fun _ t ht ↦ ?_
  obtain ⟨ht, hpayable, -⟩ := ht
  subst ht
  have hfree := not_slotTaken_of_exists hpayable
  rw [post_bind, post_update]
  refine ⟨fun o ho _ o' ho' ↦ ?_, fun _ ↦ by simp⟩
  cases horder.symm.trans ho
  cases ho'
  rw [post_ite]
  refine ⟨fun _ ↦ by simp, fun _ ↦ ?_⟩
  rw [post_bind]
  have hcancelled := hs.cancelTopup ho hpending
    (show (order.cancel "用户主动取消订单").status = .cancelled from rfl)
  have hfree' : ¬(paymentView (t.insert (.creditTopupOrder id)
      (order.cancel "用户主动取消订单"))).SlotTaken .creditTopup id := by
    rw [paymentView_insert_creditTopupOrder]
    exact hfree
  refine (inProtocol_updateCheckouts hcancelled (by simp [orderStatus]) hfree'
    (fun c hc ↦ ?_) _).mono fun _ u hu ↦ by simpa using hu
  simp only [Bool.and_eq_true, decide_eq_true_eq] at hc
  exact hc.1.1

theorem inProtocol_reconcileStaleMembershipOrder (hs : InProtocol s) (orderID : String)
    (pendingCreatedBefore : Time) :
    (reconcileStaleMembershipOrder orderID pendingCreatedBefore).Post s
      fun _ s' ↦ InProtocol s' := by
  rw [reconcileStaleMembershipOrder, post_bind, post_queryForUpdate, post_ite]
  refine ⟨fun _ ↦ by simpa using hs, fun _ ↦ ?_⟩
  rw [post_bind, findCheckoutForUpdate, post_queryForUpdate, post_bind, post_query, post_ite]
  refine ⟨fun _ ↦ by simpa using hs, fun hpayable ↦ ?_⟩
  have hfree := not_slotTaken_of_exists (Bool.eq_false_iff.mpr hpayable)
  rw [post_bind, post_query, post_ite]
  refine ⟨fun _ ↦ by simpa using hs, fun _ ↦ ?_⟩
  rw [post_bind, post_update]
  refine ⟨fun o ho hpending o' ho' ↦ ?_, fun _ ↦ ?_⟩
  · cases ho'
    have hpending : o.status = .pending := by simpa using hpending
    have hcancelled := hs.cancelMembership ho hpending
      (show (o.cancel systemActorID automaticMembershipOrderCloseNote).status = .cancelled from rfl)
    cases hcheckout : checkoutOf .membership orderID s with
    | none => simpa using hcancelled
    | some checkout =>
      obtain ⟨checkoutID, c⟩ := checkout
      dsimp only
      rw [post_ite]
      refine ⟨fun _ ↦ by simpa using hcancelled, fun _ ↦ ?_⟩
      rw [post_bind, post_update]
      refine ⟨fun c' hc' _ c'' hc'' ↦ ?_, fun _ ↦ by simpa using hcancelled⟩
      cases hc''
      obtain ⟨hc, htype, horder⟩ := checkoutOf_eq_some hcheckout
      have hsame : c' = c := by
        rw [AList.lookup_insert_ne (by simp)] at hc'
        exact Option.some.inj (hc'.symm.trans hc)
      subst hsame
      rw [pure_eq_done, post_done]
      refine hcancelled.closeCheckout hc' _ fun tid t ht htype' horder' ↦ ?_
      rw [AList.lookup_insert_ne (by simp)] at ht
      exact not_isOpen_of_not_slotTaken hfree ht (htype'.trans htype) (horder'.trans horder)
  · cases checkoutOf .membership orderID s <;> simpa using hs

/-- The pending order behind a transaction is cancelled. -/
theorem inProtocol_cancelOrderOf (hs : InProtocol s) (transaction : PaymentTransaction) :
    (cancelOrderOf transaction).Post s fun _ s' ↦ InProtocol s' := by
  rw [cancelOrderOf]
  cases transaction.orderType with
  | membership =>
    dsimp only
    rw [post_bind, post_update]
    refine ⟨fun o ho hpending o' ho' ↦ ?_, fun _ ↦ by simpa using hs⟩
    cases ho'
    simpa using hs.cancelMembership ho (by simpa using hpending)
      (show (o.cancel systemActorID "支付渠道确认未到账并关单").status = .cancelled from rfl)
  | creditTopup =>
    dsimp only
    rw [post_bind, post_update]
    refine ⟨fun o ho hpending o' ho' ↦ ?_, fun _ ↦ by simpa using hs⟩
    cases ho'
    simpa using hs.cancelTopup ho (by simpa using hpending)
      (show (o.cancel "支付渠道确认未到账并关单").status = .cancelled from rfl)

theorem inProtocol_closePaymentTransaction (hs : InProtocol s) (id : String) (now : Time)
    (audit : Option (String × AdminAuditEvent)) :
    (closePaymentTransactionAfterProviderConfirmation id now audit).Post s
      fun _ s' ↦ InProtocol s' := by
  rw [closePaymentTransactionAfterProviderConfirmation, post_bind, post_first]
  intro snapshot hsnapshot
  rw [post_bind]
  refine (post_lockPayableOrderTx _ _ _ s).mono fun _ t ht ↦ ?_
  obtain ⟨ht, -⟩ := ht
  subst ht
  rw [post_bind]
  refine (post_lockCheckout _ _ t).mono fun checkout u hu ↦ ?_
  obtain ⟨hu, hcheckout, htype, horder⟩ := hu
  subst hu
  rw [post_bind, post_firstForUpdate]
  intro transaction htransaction _
  cases hsnapshot.symm.trans htransaction
  rw [post_bind, post_query, post_ite]
  refine ⟨fun _ ↦ by simp, fun _ ↦ ?_⟩
  rw [post_ite]
  refine ⟨fun _ ↦ by simp, fun hpayable ↦ ?_⟩
  have hpayable : snapshot.status.isPayable = true := by simpa using hpayable
  have hunpaid : snapshot.status ≠ .paid := fun h ↦ by rw [h] at hpayable; cases hpayable
  rw [post_bind, post_update]
  refine ⟨fun row hrow _ row' hrow' ↦ ?_, fun hno ↦ absurd (hno _ htransaction) (by simp)⟩
  cases htransaction.symm.trans hrow
  cases hrow'
  let closed : PaymentTransaction := { snapshot with
    status := .closed
    closedAt := some now
    failureCode := "provider_confirmed_closed"
    failureReason := "" }
  have hclosed := hs.move htransaction (show closed.SameOrder snapshot from ⟨rfl, rfl⟩) hunpaid
    (by simp [closed]) (fun h ↦ by cases h) fun h ↦ by rcases h with h | h <;> cases h
  have hfree := not_slotTaken_of_paid hs htransaction hpayable
    (show closed.status.isPayable = false from rfl)
  rw [post_bind, post_update]
  refine ⟨fun c hc _ c' hc' ↦ ?_, fun hno ↦ absurd (hno checkout.2 (by simpa using hcheckout))
    (by simp)⟩
  cases hc'
  have hsame : c = checkout.2 := by
    rw [AList.lookup_insert_ne (by simp)] at hc
    exact Option.some.inj (hc.symm.trans hcheckout)
  subst hsame
  rw [← paymentView_insert_transaction] at hfree
  have hexpired := hclosed.closeCheckout hc .expired fun tid t₁ h₁ htype' horder' ↦
    not_isOpen_of_not_slotTaken hfree h₁ (htype'.trans htype) (horder'.trans horder)
  rw [post_bind]
  exact (inProtocol_cancelOrderOf hexpired snapshot).mono fun _ v hv ↦
    preserves_besidePayments (keeps_createAudit audit) v hv

theorem inProtocol_expirePaymentCheckoutSession (hs : InProtocol s) (id : String) (now : Time) :
    (expirePaymentCheckoutSession id now).Post s fun _ s' ↦ InProtocol s' := by
  rw [expirePaymentCheckoutSession, post_bind, post_first]
  intro snapshot _
  rw [post_ite]
  refine ⟨fun _ ↦ by simpa using hs, fun _ ↦ ?_⟩
  rw [post_bind]
  refine (post_of_readOnly (readOnly_lockPaymentOrderTx _ _ _) s).mono fun _ t ht ↦ ?_
  subst ht
  rw [post_bind, post_firstForUpdate]
  intro checkout hcheckout _
  rw [post_ite]
  refine ⟨fun _ ↦ by simpa using hs, fun _ ↦ ?_⟩
  -- the checkout is closed in a database in which nothing is open for its order
  have hclose : ∀ u : Store, InProtocol u →
      u.lookup (.paymentCheckoutSession id) = some checkout →
      (∀ tid t₁, u.lookup (.paymentTransaction tid) = some t₁ → t₁.orderType = checkout.orderType →
        t₁.orderID = checkout.orderID → ¬t₁.IsOpen) →
      (do
        let rows ← Prog.update (.paymentCheckoutSession id)
          (fun c ↦ c.status = .active && c.expiresAt ≤ now) fun c ↦ .ok { c with status := .expired }
        return rows = 1 : DbTx Bool).Post u fun _ s' ↦ InProtocol s' := by
    intro u hu hrow hquiet
    rw [post_bind, post_update]
    refine ⟨fun c hc _ c' hc' ↦ ?_, fun _ ↦ by simpa using hu⟩
    cases hc'
    cases hrow.symm.trans hc
    rw [pure_eq_done, post_done]
    exact hu.closeCheckout hc _ hquiet
  rw [post_bind, lockOldestPayable, post_queryForUpdate]
  cases holdest : oldestPayable checkout.orderType checkout.orderID t with
  | none =>
    exact hclose t hs hcheckout fun tid t₁ h₁ htype horder ↦
      not_isOpen_of_not_slotTaken (not_slotTaken_of_oldest holdest) h₁ htype horder
  | some payable =>
    obtain ⟨hrow, htype, horder, hpayable⟩ :=
      mem_payableTransactions.mp (Db.mem_of_earliest holdest)
    have honly : ∀ tid t₁, t.lookup (.paymentTransaction tid) = some t₁ →
        t₁.orderType = checkout.orderType → t₁.orderID = checkout.orderID → t₁.IsOpen →
        tid = payable.1 := fun tid t₁ h₁ htype₁ horder₁ hopen ↦
      PaymentView.Consistent.slot hs tid payable.1 t₁ payable.2 h₁ hrow
        ⟨htype₁.trans htype.symm, horder₁.trans horder.symm⟩ hopen.isPayable hpayable
    dsimp only
    rw [post_ite]
    refine ⟨fun hlive ↦ ?_, fun hreview ↦ ?_⟩
    · rw [post_bind, post_update]
      refine ⟨fun t₀ ht₀ hopen t₀' ht₀' ↦ ?_, fun _ ↦ by rw [post_ite]; simp⟩
      cases hrow.symm.trans ht₀
      cases ht₀'
      have hopen : payable.2.IsOpen := by simpa [PaymentTransaction.IsOpen] using hopen
      have hunpaid : payable.2.status ≠ .paid := by rcases hopen with h | h <;> rw [h] <;> decide
      rw [post_ite]
      refine ⟨fun h ↦ absurd rfl h, fun _ ↦ hclose _ ?_ ?_ fun tid t₁ h₁ htype₁ horder₁ hopen₁ ↦ ?_⟩
      · exact hs.move hrow ⟨rfl, rfl⟩ hunpaid (by simp) (fun _ ↦ hpayable) fun _ ↦ hopen
      · rw [AList.lookup_insert_ne (by simp)]
        exact hcheckout
      · by_cases htid : tid = payable.1
        · subst htid
          rw [AList.lookup_insert] at h₁
          cases h₁
          rcases hopen₁ with h | h <;> cases h
        · rw [AList.lookup_insert_ne (by simpa using htid)] at h₁
          exact htid (honly tid t₁ h₁ htype₁ horder₁ hopen₁)
    · have hreview : payable.2.status = .reviewRequired := not_not.mp hreview
      refine hclose t hs hcheckout fun tid t₁ h₁ htype₁ horder₁ hopen ↦ ?_
      have htid := honly tid t₁ h₁ htype₁ horder₁ hopen
      subst htid
      cases hrow.symm.trans h₁
      rcases hopen with h | h <;> rw [hreview] at h <;> cases h

theorem inProtocol_expireSubscriptions (hs : InProtocol s) (now : Time) :
    (expireSubscriptions now).Post s fun _ s' ↦ InProtocol s' := by
  refine preserves_besidePayments ?_ s hs
  simp only [expireSubscriptions, keeps_bind, keeps_updateAll, pure_eq_done, keeps_done,
    implies_true, and_true]
  intro k r r' hr
  cases k with
  | membershipSubscription id =>
    obtain ⟨-, heq⟩ := Option.ite_none_right_eq_some.mp hr
    cases heq
    rfl
  | _ => cases hr

end Transactions

/-! ## Runs -/

/-- The transactions that move payable orders. -/
inductive PaymentCall where
  | createCheckout (id : String) (candidate : PaymentCheckoutSession)
  | claim (id : String) (candidate : PaymentTransaction)
  | noteCreation (id : String) (status : PaymentTransactionStatus)
      (codeURL failureCode failureReason : String)
  | record (id : String) (candidate : PaymentWebhookEvent)
  | noteOutcome (id : String) (status : PaymentWebhookStatus) (failureCode failureReason : String)
      (now : Time)
  | fulfill (input : PaymentFulfillment)
  | review (id failureCode failureReason : String) (audit : Option (String × AdminAuditEvent))
  | close (id : String) (now : Time) (audit : Option (String × AdminAuditEvent))
  | expireCheckout (id : String) (now : Time)
  | closeMembershipOrder (orderID userID actorID note : String)
      (audit : Option (String × AdminAuditEvent))
  | cancelTopup (userID id : String)
  | reconcileStale (orderID : String) (pendingCreatedBefore : Time)
  | expireSubscriptions (now : Time)

/-- The transaction. -/
def PaymentCall.prog (calendar : Calendar) : PaymentCall → DbTx Unit
  | .createCheckout id candidate => do
    let _ ← createOrGetPaymentCheckoutSession id candidate
  | .claim id candidate => do
    let _ ← claimPayablePaymentTransaction id candidate
  | .noteCreation id status codeURL failureCode failureReason =>
    updatePaymentTransactionCreation id status codeURL failureCode failureReason
  | .record id candidate => do
    let _ ← recordPaymentWebhookEvent id candidate
  | .noteOutcome id status failureCode failureReason now =>
    markPaymentWebhookOutcome id status failureCode failureReason now
  | .fulfill input => do
    let _ ← fulfillPaymentTransaction calendar input
  | .review id failureCode failureReason audit =>
    markPaymentTransactionReviewWithAudit id failureCode failureReason audit
  | .close id now audit => closePaymentTransactionAfterProviderConfirmation id now audit
  | .expireCheckout id now => do
    let _ ← expirePaymentCheckoutSession id now
  | .closeMembershipOrder orderID userID actorID note audit =>
    HMaigc.closeMembershipOrder orderID userID actorID note audit
  | .cancelTopup userID id => cancelCreditTopupOrder userID id
  | .reconcileStale orderID pendingCreatedBefore =>
    reconcileStaleMembershipOrder orderID pendingCreatedBefore
  | .expireSubscriptions now => HMaigc.expireSubscriptions now

/-- What the service promises about the values it calls a transaction with. -/
def PaymentCall.Prepared (c : PaymentCall) (s : Store) : Prop :=
  match c with
  | .createCheckout _ candidate => candidate.status = .active
  | .noteCreation _ status _ _ _ => status.IsCreationOutcome
  | .fulfill input => ∀ transaction,
    s.lookup (.paymentTransaction input.transactionID) = some transaction →
      input.IsMadeFor transaction
  | _ => True

/-- **The step.** -/
theorem PaymentCall.inProtocol (calendar : Calendar) (c : PaymentCall) {s : Store}
    (hs : InProtocol s) (hc : c.Prepared s) :
    (c.prog calendar).Post s fun _ s' ↦ InProtocol s' := by
  cases c with
  | createCheckout id candidate =>
    rw [prog, post_bind]
    exact (inProtocol_createOrGetPaymentCheckoutSession hs id hc).mono fun _ _ h ↦ by simpa using h
  | claim id candidate =>
    rw [prog, post_bind]
    exact (inProtocol_claimPayablePaymentTransaction hs id candidate).mono fun _ _ h ↦ by
      simpa using h
  | noteCreation id status codeURL failureCode failureReason =>
    exact inProtocol_updatePaymentTransactionCreation hs id hc codeURL failureCode failureReason
  | record id candidate =>
    rw [prog, post_bind]
    exact (inProtocol_recordPaymentWebhookEvent hs id candidate).mono fun _ _ h ↦ by simpa using h
  | noteOutcome id status failureCode failureReason now =>
    exact inProtocol_markPaymentWebhookOutcome hs id status failureCode failureReason now
  | fulfill input =>
    rw [prog, post_bind]
    exact (inProtocol_fulfillPaymentTransaction hs calendar hc).mono fun _ _ h ↦ by simpa using h
  | review id failureCode failureReason audit =>
    exact inProtocol_markPaymentTransactionReviewWithAudit hs id failureCode failureReason audit
  | close id now audit => exact inProtocol_closePaymentTransaction hs id now audit
  | expireCheckout id now =>
    rw [prog, post_bind]
    exact (inProtocol_expirePaymentCheckoutSession hs id now).mono fun _ _ h ↦ by simpa using h
  | closeMembershipOrder orderID userID actorID note audit =>
    exact inProtocol_closeMembershipOrder hs orderID userID actorID note audit
  | cancelTopup userID id => exact inProtocol_cancelCreditTopupOrder hs userID id
  | reconcileStale orderID pendingCreatedBefore =>
    exact inProtocol_reconcileStaleMembershipOrder hs orderID pendingCreatedBefore
  | expireSubscriptions now => exact inProtocol_expireSubscriptions hs now

/-- Orders that nobody has begun to pay. -/
structure NoPayments (s : Store) : Prop where
  transactions : ∀ id, s.lookup (.paymentTransaction id) = none
  checkouts : ∀ id, s.lookup (.paymentCheckoutSession id) = none
  unpaid : ∀ orderType orderID, orderStatus s orderType orderID ≠ some .paid
  ungranted : ∀ orderType row orderID, ¬grantsOrder s orderType row orderID
  apart : ∀ orderID, orderStatus s .membership orderID = none ∨
    orderStatus s .creditTopup orderID = none

theorem NoPayments.inProtocol {s : Store} (h : NoPayments s) : InProtocol s := by
  have htransaction : ∀ id t, (paymentView s).transaction id ≠ some t := fun id t ht ↦ by
    rw [show (paymentView s).transaction id = none from h.transactions id] at ht
    cases ht
  have hcheckout : ∀ id c, (paymentView s).checkout id ≠ some c := fun id c hc ↦ by
    rw [show (paymentView s).checkout id = none from h.checkouts id] at hc
    cases hc
  refine ⟨fun id _ t _ ht ↦ absurd ht (htransaction id t), fun id _ t _ ht ↦
    absurd ht (htransaction id t), fun orderType orderID ↦ ⟨fun hpaid ↦ ?_, ?_⟩,
    fun orderType orderID ↦ ⟨fun hpaid ↦ ?_, ?_⟩, fun orderType orderID row _ hgrants ↦ ?_,
    fun cid c hc ↦ absurd hc (hcheckout cid c), fun id t ht ↦ absurd ht (htransaction id t),
    h.apart, fun cid _ c _ hc ↦ absurd hc (hcheckout cid c)⟩
  · exact absurd hpaid (h.unpaid orderType orderID)
  · rintro ⟨id, t, ht, -⟩
    exact absurd ht (htransaction id t)
  · exact absurd hpaid (h.unpaid orderType orderID)
  · rintro ⟨row, hgrants⟩
    exact absurd hgrants (h.ungranted orderType row orderID)
  · exact absurd hgrants (h.ungranted orderType row orderID)

/-- Whatever else happens leaves the payments alone; new orders may be placed, under new
identifiers. -/
structure PlacesOrders (s s' : Store) : Prop where
  transactions : ∀ id, s'.lookup (.paymentTransaction id) = s.lookup (.paymentTransaction id)
  checkouts : ∀ id, s'.lookup (.paymentCheckoutSession id) = s.lookup (.paymentCheckoutSession id)
  grants : ∀ orderType row orderID, grantsOrder s' orderType row orderID ↔
    grantsOrder s orderType row orderID
  orders : ∀ orderType orderID, orderStatus s' orderType orderID = orderStatus s orderType orderID ∨
    orderStatus s orderType orderID = none ∧ orderStatus s' orderType orderID = some .pending
  apart : ∀ orderID, orderStatus s' .membership orderID = none ∨
    orderStatus s' .creditTopup orderID = none

theorem InProtocol.placesOrders {s s' : Store} (hs : InProtocol s) (h : PlacesOrders s s') :
    InProtocol s' :=
  PaymentView.Consistent.place hs (funext h.transactions) (funext h.checkouts)
    (funext fun orderType ↦ funext fun row ↦ funext fun orderID ↦
      propext (h.grants orderType row orderID)) h.orders h.apart

/-- **The protocol of a payable order.**  After every run, of any length and in any order, of claims,
creations, webhook events, fulfilments, closings, expiries, cancellations and reconciliations, each
of which may fail at any statement, over any orders: an order has at most one payable transaction
and at most one that is paid; it is paid exactly if one of its transactions is, and its entitlement
has been granted exactly once if it is paid and never otherwise; and behind a checkout that is not
active no transaction is created or pending. -/
theorem payable_order_protocol {calendar : Calendar} {s t : Store} (hs : NoPayments s)
    (h : Serial (PaymentCall.prog calendar) PaymentCall.Prepared PlacesOrders s t) :
    (paymentView t).Consistent :=
  Serial.invariant (fun c _ hu hc ↦ c.inProtocol calendar hu hc)
    (fun _ _ hu hmove ↦ hu.placesOrders hmove) hs.inProtocol h

/-! ## A top-up is paid -/

/-- A top-up order of a user, not yet paid. -/
def unpaidTopup : Store := (∅ : Store).insert (.creditTopupOrder "o")
  { userID := "u", totalMicrocredits := 1 }

theorem lookup_unpaidTopup {k : RowKey} (h : k ≠ .creditTopupOrder "o") :
    unpaidTopup.lookup k = none :=
  AList.lookup_insert_ne h

theorem noPayments_unpaidTopup : NoPayments unpaidTopup := by
  refine ⟨fun id ↦ lookup_unpaidTopup (by simp), fun id ↦ lookup_unpaidTopup (by simp),
    fun orderType orderID ↦ ?_, fun orderType row orderID ↦ ?_, fun orderID ↦ .inl ?_⟩
  · cases orderType with
    | membership => simp [orderStatus, lookup_unpaidTopup]
    | creditTopup =>
      rcases eq_or_ne orderID "o" with rfl | h
      · decide
      · simp [orderStatus, lookup_unpaidTopup, h]
  · cases orderType <;> simp [grantsOrder, lookup_unpaidTopup]
  · simp [orderStatus, lookup_unpaidTopup]

/-- The provider's report of its payment. -/
def topupEvent : PaymentWebhookEvent where
  provider := .alipay
  providerEventID := "p"
  transactionID := "t"
  merchantOrderNo := "m"
  providerTradeNo := "n"
  amountCents := 1
  currency := "CNY"
  paidAt := some 5
  payloadDigest := "0123456789abcdef0123456789abcdef0123456789abcdef0123456789abcdef"

/-- The order is checked out and paid. -/
def payTopup : List PaymentCall :=
  [.createCheckout "c"
      { orderType := .creditTopup, orderID := "o", userID := "u", expiresAt := 9 },
    .claim "t"
      { orderType := .creditTopup, orderID := "o", userID := "u", provider := .alipay,
        merchantOrderNo := "m" },
    .noteCreation "t" .pending "" "" "",
    .record "e" topupEvent,
    .fulfill
      { eventID := "e", event := topupEvent, transactionID := "t", providerTradeNo := "n",
        paidAt := 5, paymentConfirmed := true, topupEntryID := "l",
        activation :=
          { billingCycle := .month, subscriptionID := "", subscription := { userID := "u" } } }]

/-- `PaymentCall.Prepared`, computed for calls that pay top-ups. -/
def PaymentCall.isPreparedTopup : PaymentCall → Store → Bool
  | .createCheckout _ candidate, _ => candidate.status = .active
  | .noteCreation _ status _ _ _, _ =>
    status = .pending || status = .reviewRequired || status = .failed
  | .fulfill input, s =>
    (s.lookup (.paymentTransaction input.transactionID)).all fun t ↦ t.orderType = .creditTopup
  | _, _ => true

theorem PaymentCall.prepared_of_isPreparedTopup (c : PaymentCall) (s : Store)
    (h : c.isPreparedTopup s = true) : c.Prepared s := by
  cases c with
  | createCheckout id candidate => simpa [isPreparedTopup, Prepared] using h
  | noteCreation id status codeURL failureCode failureReason =>
    simpa [isPreparedTopup, Prepared, PaymentTransactionStatus.IsCreationOutcome, or_assoc] using h
  | fulfill input =>
    intro transaction ht htype
    rw [isPreparedTopup, ht, Option.all_some, decide_eq_true_eq, htype] at h
    cases h
  | _ => trivial

theorem payable_order_protocol_topup :
    ∃ t, Serial (PaymentCall.prog ⟨fun _ _ start ↦ start⟩) PaymentCall.Prepared PlacesOrders
        unpaidTopup t ∧ orderStatus t .creditTopup "o" = some .paid ∧
      (paymentView t).Consistent := by
  have hrun : (replayIf (PaymentCall.prog ⟨fun _ _ start ↦ start⟩) PaymentCall.isPreparedTopup
      unpaidTopup payTopup).map (orderStatus · .creditTopup "o") = some (some .paid) := by
    decide
  obtain ⟨t, hreplay, hpaid⟩ := Option.map_eq_some_iff.mp hrun
  have hserial : Serial (PaymentCall.prog ⟨fun _ _ start ↦ start⟩) PaymentCall.Prepared PlacesOrders
      unpaidTopup t :=
    serial_of_replayIf PaymentCall.prepared_of_isPreparedTopup hreplay
  exact ⟨t, hserial, hpaid, payable_order_protocol noPayments_unpaidTopup hserial⟩

end HMaigc
