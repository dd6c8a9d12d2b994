import HMaigc.Payment.Calls

/-!
# A verified payment stands in the way of closing its order

Every path that cancels an order or closes one of its transactions asks, under the lock of the order,
whether a payment fact is stored for it: an event that is bound to one of its transactions and has
not been rejected (`verifiedPaymentFactExists`).

* `Spares` — the writes that cancel no order but one, close no transaction but that order's, and
  leave a processed event processed.
* `PaymentCall.spares` — what each transaction writes; the one order it may close has no payment
  fact.
* `verified_fact_stands` — so no transaction closes an order with a payment fact, and after an event
  is processed no run does.
* `exists_fact_forgotten` — an event that is received can be rejected later, and its order cancelled
  then.
-/

set_option autoImplicit false

namespace HMaigc

open Sql Go Prog

/-! ## Writes that spare an order -/

/-- No order but `target` is cancelled, no transaction but its own is closed, and a processed event
stays one. -/
def Spares (target : Option (PaymentOrderType × String)) : ∀ k, Option (Row k) → Row k → Prop
  | .paymentTransaction _, old, new =>
    (∀ r, old = some r → new.SameOrder r) ∧ (new.status = .closed →
      (∃ r, old = some r ∧ r.status = .closed) ∨ target = some (new.orderType, new.orderID))
  | .membershipOrder id, old, new =>
    new.status = .cancelled →
      (∃ r, old = some r ∧ r.status = .cancelled) ∨ target = some (.membership, id)
  | .creditTopupOrder id, old, new =>
    new.status = .cancelled →
      (∃ r, old = some r ∧ r.status = .cancelled) ∨ target = some (.creditTopup, id)
  | .paymentWebhookEvent _, old, new =>
    ∀ r, old = some r → new.transactionID = r.transactionID ∧
      (r.status = .processed → new.status = .processed)
  | _, _, _ => True

attribute [local simp] Spares

theorem rowTrans_spares (target : Option (PaymentOrderType × String)) :
    RowTrans (Spares target) := by
  intro k o r r' h h'
  cases k with
  | paymentTransaction id =>
    have hsame := h'.1 r rfl
    refine ⟨fun r₀ hr₀ ↦ ⟨hsame.1.trans (h.1 r₀ hr₀).1, hsame.2.trans (h.1 r₀ hr₀).2⟩,
      fun hclosed ↦ ?_⟩
    rcases h'.2 hclosed with ⟨r₁, hr₁, hclosed₁⟩ | htarget
    · cases hr₁
      refine (h.2 hclosed₁).imp_right fun htarget ↦ ?_
      rw [htarget, hsame.1, hsame.2]
    · exact .inr htarget
  | membershipOrder id =>
    intro hcancelled
    rcases h' hcancelled with ⟨r₁, hr₁, hcancelled₁⟩ | htarget
    · cases hr₁
      exact h hcancelled₁
    · exact .inr htarget
  | creditTopupOrder id =>
    intro hcancelled
    rcases h' hcancelled with ⟨r₁, hr₁, hcancelled₁⟩ | htarget
    · cases hr₁
      exact h hcancelled₁
    · exact .inr htarget
  | paymentWebhookEvent id =>
    intro r₀ hr₀
    obtain ⟨htransaction, hprocessed⟩ := h r₀ hr₀
    obtain ⟨htransaction', hprocessed'⟩ := h' r rfl
    exact ⟨htransaction'.trans htransaction, fun h ↦ hprocessed' (hprocessed h)⟩
  | _ => trivial

/-- The order a call may close has no payment fact. -/
def SparesFacts (s s' : Store) : Prop :=
  ∃ target : Option (PaymentOrderType × String), RowStep (Spares target) s s' ∧
    ∀ orderType orderID, target = some (orderType, orderID) →
      verifiedPaymentFactExists orderType orderID s = false

section Facts

variable {s : Store}

theorem SparesFacts.refl (s : Store) : SparesFacts s s :=
  ⟨none, .refl _ s, fun _ _ h ↦ by cases h⟩

/-- A program that closes nothing. -/
theorem post_spares {α : Type} {p : DbTx α} (h : p.Keeps (Spares none) fun _ ↦ True) (s : Store) :
    p.Post s fun _ s' ↦ SparesFacts s s' :=
  (post_of_keeps (rowTrans_spares none) h s).mono fun _ _ hstep ↦
    ⟨none, hstep.1, fun _ _ h ↦ by cases h⟩

/-- A program that closes an order without a payment fact. -/
theorem post_sparesTarget {α : Type} {p : DbTx α} {orderType : PaymentOrderType} {orderID : String}
    (h : p.Keeps (Spares (some (orderType, orderID))) fun _ ↦ True)
    (hno : verifiedPaymentFactExists orderType orderID s = false) :
    p.Post s fun _ s' ↦ SparesFacts s s' :=
  (post_of_keeps (rowTrans_spares _) h s).mono fun _ _ hstep ↦
    ⟨some (orderType, orderID), hstep.1, fun _ _ h ↦ by cases h; exact hno⟩

/-! ## The transactions that close nothing -/

theorem spares_createAudit (target : Option (PaymentOrderType × String))
    (audit : Option (String × AdminAuditEvent)) :
    (createAudit audit).Keeps (Spares target) fun _ ↦ True := by
  cases audit <;> simp [createAudit]

theorem spares_updateCheckouts (target : Option (PaymentOrderType × String))
    (which : PaymentCheckoutSession → Bool) (status : PaymentCheckoutStatus) :
    (updateCheckouts which status).Keeps (Spares target) fun _ ↦ True :=
  (writes_updateCheckouts which status).imp fun k _ _ hk ↦ by
    cases k <;> trivial

theorem spares_createOrGetPaymentCheckoutSession (id : String)
    (candidate : PaymentCheckoutSession) :
    (createOrGetPaymentCheckoutSession id candidate).Keeps (Spares none) fun _ ↦ True := by
  have hcreate : ∀ orderTaken tokenTaken : Store → Bool,
      (Prog.createUnlessTaken (.paymentCheckoutSession id) candidate .duplicatedKey
        [.index (.checkoutOrder candidate.orderID), .index (.checkoutToken candidate.tokenHash)]
        orderTaken tokenTaken : DbTx ℕ).Keeps (Spares none) fun _ ↦ True := fun _ _ ↦ by
    simp
  refine (hcreate _ _).bind fun _ ↦ ?_
  rw [keeps_bind, keeps_query]
  intro v
  split <;> simp

theorem readOnly_lockPayableOrderTx (orderType : PaymentOrderType) (orderID userID : String) :
    (lockPayableOrderTx orderType orderID userID).ReadOnly := by
  refine (readOnly_lockPaymentOrderTx orderType orderID userID).bind fun _ ↦ ?_
  simp [keeps_ite]

theorem spares_claimPayablePaymentTransaction (id : String) (candidate : PaymentTransaction) :
    (claimPayablePaymentTransaction id candidate).Keeps (Spares none) fun _ ↦ True := by
  rw [claimPayablePaymentTransaction, keeps_ite]
  refine ⟨fun _ ↦ by simp, fun hcomplete ↦ ?_⟩
  have hstatus : candidate.status = .created := by
    by_contra h
    exact hcomplete (.inl h)
  have hcreate : (createTransaction id candidate).Keeps (Spares none) fun _ ↦ True := by
    simp [createTransaction, hstatus]
  refine (readOnly_lockPayableOrderTx _ _ _).keeps.bind fun _ ↦
    (readOnly_lockCheckout _ _).keeps.bind fun checkout ↦ ?_
  simp only [keeps_ite, keeps_bind, keeps_query, throw_eq_fail, keeps_fail, lockOldestPayable,
    keeps_queryForUpdate, implies_true, true_and]
  intro _ _ _ _ _ v
  cases oldestPayable candidate.orderType candidate.orderID v with
  | some winner => simp [keeps_ite]
  | none => simpa using hcreate

theorem spares_updatePaymentTransactionCreation (id : String) {status : PaymentTransactionStatus}
    (hstatus : status.IsCreationOutcome) (codeURL failureCode failureReason : String) :
    (updatePaymentTransactionCreation id status codeURL failureCode failureReason).Keeps
      (Spares none) fun _ ↦ True := by
  have hopen : status ≠ .closed := by rcases hstatus with rfl | rfl | rfl <;> decide
  simp [updatePaymentTransactionCreation, keeps_ite, hopen, PaymentTransaction.SameOrder]

theorem spares_recordPaymentWebhookEvent (id : String) (candidate : PaymentWebhookEvent) :
    (recordPaymentWebhookEvent id candidate).Keeps (Spares none) fun _ ↦ True := by
  have hpark : ∀ transaction, (parkTransaction candidate transaction).Keeps (Spares none)
      fun _ ↦ True := fun transaction ↦ by
    simp [parkTransaction, keeps_ite, PaymentTransaction.SameOrder]
  have hcreate : ∀ e : PaymentWebhookEvent, (createWebhookEvent id e).Keeps (Spares none)
      fun _ ↦ True := fun e ↦ by simp [createWebhookEvent]
  rw [recordPaymentWebhookEvent, keeps_ite]
  refine ⟨fun _ ↦ by simp, fun _ ↦ (readOnly_lockEventTransaction candidate).keeps.bind
    fun transaction ↦ ?_⟩
  simp only [lockPaymentProviderTradeTx, keeps_bind, keeps_queryForUpdate]
  intro _ v
  cases webhookEventByProviderID candidate.provider candidate.providerEventID v with
  | some stored => simp [keeps_ite]
  | none =>
    simp only [keeps_bind, keeps_query, keeps_ite]
    exact fun _ ↦ ⟨fun _ ↦ (hpark transaction).mono fun _ _ ↦ by simpa using hcreate _,
      fun _ ↦ by simpa using hcreate _⟩

/-- The outcome of an event that is processed is not noted again. -/
theorem post_spares_markPaymentWebhookOutcome (id : String) (status : PaymentWebhookStatus)
    (failureCode failureReason : String) (now : Time) (s : Store) :
    (markPaymentWebhookOutcome id status failureCode failureReason now).Post s fun _ s' ↦
      SparesFacts s s' := by
  rw [markPaymentWebhookOutcome, post_bind, post_firstForUpdate]
  intro event hevent _
  rw [post_ite]
  refine ⟨fun _ ↦ by simpa using SparesFacts.refl s, fun hopen ↦ ?_⟩
  rw [post_bind, post_update]
  refine ⟨fun e he _ e' he' ↦ ?_, fun _ ↦ by simpa using SparesFacts.refl s⟩
  cases hevent.symm.trans he
  cases he'
  rw [pure_eq_done, post_done]
  refine ⟨none, rowStep_insert fun r hr ↦ ?_, fun _ _ h ↦ by cases h⟩
  cases hevent.symm.trans hr
  exact ⟨rfl, fun hprocessed ↦ absurd hprocessed hopen⟩

theorem spares_grantToAccount (payer : Payer) (amount : ℤ) (entryID : String)
    (post : CreditAccount → CreditLedgerEntry) :
    (grantToAccount payer amount entryID post).Keeps (Spares none) fun _ ↦ True := by
  simp [grantToAccount, createAccountIfMissing, readAccount, createLedgerEntry]

theorem spares_activateMembershipOrderTx (calendar : Calendar)
    (orderID actorID provider providerTradeNo note : String) (activation : MembershipActivation)
    (now : Time) :
    (activateMembershipOrderTx calendar orderID actorID provider providerTradeNo note activation
      now).Keeps (Spares none) fun _ ↦ True := by
  have hgrant := spares_grantToAccount
  have hledger : ∀ order, (grantActivationLedger order activation).Keeps (Spares none)
      fun _ ↦ True := by
    intro order
    rw [grantActivationLedger]
    cases activation.membershipLedger with
    | none => simp
    | some ledger =>
      simp [grantTeamMembershipLedgerTx, grantPersonalCreditLedgerTx, keeps_ite, hgrant]
  have hreferral : ∀ order fulfillment,
      (grantReferralRewardTx orderID order fulfillment now).Keeps (Spares none) fun _ ↦ True := by
    intro order fulfillment
    simp [grantReferralRewardTx, grantPersonalCreditLedgerTx, createReferralReward, keeps_ite,
      hgrant]
  rw [activateMembershipOrderTx, keeps_bind, keeps_firstForUpdate]
  intro order _
  rw [keeps_ite]
  refine ⟨fun _ ↦ by simp, fun _ ↦ (readOnly_lockSubscriber order).keeps.bind fun _ ↦ ?_⟩
  rw [keeps_bind, keeps_queryForUpdate]
  intro v
  dsimp only
  split
  · simp
  · rw [keeps_bind, keeps_update]
    refine ⟨fun r _ r' hr' ↦ ⟨?_, ?_⟩, by simp⟩
    · cases hr'
      exact fun h ↦ by cases h
    · rw [if_neg (by simp)]
      refine Keeps.bind (by simp [createSubscription]) fun _ ↦
        (hledger order).bind fun _ ↦ ?_
      cases activation.referral with
      | none => simp
      | some fulfillment => exact hreferral order fulfillment

theorem spares_fulfillCreditTopupOrderTx (orderID provider providerTradeNo entryID : String)
    (now : Time) :
    (fulfillCreditTopupOrderTx orderID provider providerTradeNo entryID now).Keeps (Spares none)
      fun _ ↦ True := by
  have hgrant := spares_grantToAccount
  simp [fulfillCreditTopupOrderTx, keeps_ite, hgrant, CreditTopupOrder.pay]

theorem spares_processEvent (input : PaymentFulfillment) :
    (processEvent input).Keeps (Spares none) fun _ ↦ True := by
  have haudit := spares_createAudit none input.audit
  simp [processEvent, haudit, PaymentWebhookEvent.process]

theorem spares_payOrder (calendar : Calendar) (input : PaymentFulfillment)
    (transaction : PaymentTransaction) :
    (payOrder calendar input transaction).Keeps (Spares none) fun _ ↦ True := by
  have hpay : (payTransaction input).Keeps (Spares none) fun _ ↦ True := by
    simp [payTransaction, PaymentTransaction.pay, PaymentTransaction.SameOrder]
  have hgrant : (grantEntitlement calendar transaction input).Keeps (Spares none) fun _ ↦ True := by
    rw [grantEntitlement]
    cases transaction.orderType with
    | membership => exact spares_activateMembershipOrderTx _ _ _ _ _ _ _ _
    | creditTopup => exact spares_fulfillCreditTopupOrderTx _ _ _ _ _
  refine hpay.bind fun rows ↦ ?_
  rw [keeps_ite]
  refine ⟨fun _ ↦ by simp, fun _ ↦ hgrant.bind fun _ ↦
    (spares_updateCheckouts none _ _).bind fun _ ↦ (spares_processEvent input).bind fun _ ↦ ?_⟩
  simp

theorem spares_fulfillPaymentTransaction (calendar : Calendar) (input : PaymentFulfillment) :
    (fulfillPaymentTransaction calendar input).Keeps (Spares none) fun _ ↦ True := by
  have haudit := spares_createAudit none input.audit
  have hprocess := spares_processEvent input
  have hpay := spares_payOrder calendar input
  rw [fulfillPaymentTransaction, keeps_ite]
  refine ⟨fun _ ↦ by simp, fun _ ↦ ?_⟩
  rw [keeps_bind, keeps_first]
  intro snapshot
  refine (readOnly_lockPaymentOrderTx _ _ _).keeps.bind fun _ ↦
    (readOnly_lockCheckout _ _).keeps.bind fun _ ↦ ?_
  simp [fulfillLocked, keeps_ite, haudit, hprocess, hpay]

theorem spares_markPaymentTransactionReviewWithAudit (id failureCode failureReason : String)
    (audit : Option (String × AdminAuditEvent)) :
    (markPaymentTransactionReviewWithAudit id failureCode failureReason audit).Keeps (Spares none)
      fun _ ↦ True := by
  have haudit := spares_createAudit none audit
  simp [markPaymentTransactionReviewWithAudit, keeps_ite, haudit,
    PaymentTransaction.SameOrder]

theorem spares_expirePaymentCheckoutSession (id : String) (now : Time) :
    (expirePaymentCheckoutSession id now).Keeps (Spares none) fun _ ↦ True := by
  have hclose : (do
      let rows ← Prog.update (.paymentCheckoutSession id)
        (fun c ↦ c.status = .active && c.expiresAt ≤ now) fun c ↦ .ok { c with status := .expired }
      return rows = 1 : DbTx Bool).Keeps (Spares none) fun _ ↦ True := by
    simp
  rw [expirePaymentCheckoutSession, keeps_bind, keeps_first]
  intro snapshot
  rw [keeps_ite]
  refine ⟨fun _ ↦ by simp, fun _ ↦ (readOnly_lockPaymentOrderTx _ _ _).keeps.bind fun _ ↦ ?_⟩
  rw [keeps_bind, keeps_firstForUpdate]
  intro checkout _
  rw [keeps_ite]
  refine ⟨fun _ ↦ by simp, fun _ ↦ ?_⟩
  rw [lockOldestPayable, keeps_bind, keeps_queryForUpdate]
  intro v
  cases oldestPayable checkout.orderType checkout.orderID v with
  | none => exact hclose
  | some payable =>
    dsimp only
    rw [keeps_ite]
    refine ⟨fun _ ↦ ?_, fun _ ↦ hclose⟩
    have hmove : (Prog.update (.paymentTransaction payable.1)
        (fun t ↦ t.status = .created || t.status = .pending) (fun t ↦
          .ok { t with
            status := .reviewRequired
            failureCode := "checkout_expired_requires_reconciliation"
            failureReason := "收银台已过期，支付渠道状态需对账确认" }) : DbTx ℕ).Keeps (Spares none)
          fun _ ↦ True := by
      simp [PaymentTransaction.SameOrder]
    refine hmove.bind fun rows ↦ ?_
    rw [keeps_ite]
    exact ⟨fun _ ↦ by simp, fun _ ↦ hclose⟩

theorem spares_expireSubscriptions (now : Time) :
    (expireSubscriptions now).Keeps (Spares none) fun _ ↦ True := by
  simp only [expireSubscriptions, keeps_bind, keeps_updateAll, pure_eq_done, keeps_done,
    implies_true, and_true]
  intro k r r' hr
  cases k with
  | membershipSubscription id => trivial
  | _ => cases hr

/-! ## The transactions that close an order -/

theorem spares_cancelOrderOf (transaction : PaymentTransaction) :
    (cancelOrderOf transaction).Keeps
      (Spares (some (transaction.orderType, transaction.orderID))) fun _ ↦ True := by
  rw [cancelOrderOf]
  cases transaction.orderType <;> simp

theorem post_spares_closeMembershipOrder (orderID userID actorID note : String)
    (audit : Option (String × AdminAuditEvent)) :
    (closeMembershipOrder orderID userID actorID note audit).Post s fun _ s' ↦ SparesFacts s s' := by
  rw [closeMembershipOrder, post_bind, post_firstForUpdate]
  intro order _ _
  rw [post_ite]
  refine ⟨fun _ ↦ by simp, fun _ ↦ ?_⟩
  rw [post_bind]
  refine (post_rejectPayablePaymentTx _ _ s).mono fun _ t ht ↦ ?_
  obtain ⟨ht, -, hno⟩ := ht
  subst ht
  refine post_sparesTarget ?_ hno
  have haudit := spares_createAudit (some (.membership, orderID)) audit
  have hcheckouts := spares_updateCheckouts (some (.membership, orderID))
  simp [keeps_ite, haudit, hcheckouts]

theorem post_spares_cancelCreditTopupOrder (userID id : String) :
    (cancelCreditTopupOrder userID id).Post s fun _ s' ↦ SparesFacts s s' := by
  rw [cancelCreditTopupOrder, post_bind, post_firstForUpdate]
  intro order _ _
  rw [post_ite]
  refine ⟨fun _ ↦ by simp, fun _ ↦ ?_⟩
  rw [post_bind]
  refine (post_rejectPayablePaymentTx _ _ s).mono fun _ t ht ↦ ?_
  obtain ⟨ht, -, hno⟩ := ht
  subst ht
  refine post_sparesTarget ?_ hno
  have hcheckouts := spares_updateCheckouts (some (.creditTopup, id))
  simp [keeps_ite, hcheckouts]

theorem post_spares_reconcileStaleMembershipOrder (orderID : String)
    (pendingCreatedBefore : Time) :
    (reconcileStaleMembershipOrder orderID pendingCreatedBefore).Post s
      fun _ s' ↦ SparesFacts s s' := by
  rw [reconcileStaleMembershipOrder, post_bind, post_queryForUpdate, post_ite]
  refine ⟨fun _ ↦ by simpa using SparesFacts.refl s, fun _ ↦ ?_⟩
  rw [post_bind, findCheckoutForUpdate, post_queryForUpdate, post_bind, post_query, post_ite]
  refine ⟨fun _ ↦ by simpa using SparesFacts.refl s, fun _ ↦ ?_⟩
  rw [post_bind, post_query, post_ite]
  refine ⟨fun _ ↦ by simpa using SparesFacts.refl s, fun hverified ↦ ?_⟩
  refine post_sparesTarget ?_ (Bool.eq_false_iff.mpr hverified)
  cases checkoutOf .membership orderID s with
  | none => simp
  | some checkout => simp [keeps_ite]

theorem post_spares_closePaymentTransaction (id : String) (now : Time)
    (audit : Option (String × AdminAuditEvent)) :
    (closePaymentTransactionAfterProviderConfirmation id now audit).Post s
      fun _ s' ↦ SparesFacts s s' := by
  rw [closePaymentTransactionAfterProviderConfirmation, post_bind, post_first]
  intro snapshot _
  rw [post_bind]
  refine (post_of_readOnly (readOnly_lockPayableOrderTx _ _ _) s).mono fun _ t ht ↦ ?_
  subst ht
  rw [post_bind]
  refine (post_of_readOnly (readOnly_lockCheckout _ _) t).mono fun checkout u hu ↦ ?_
  subst hu
  rw [post_bind, post_firstForUpdate]
  intro transaction htransaction _
  rw [post_bind, post_query, post_ite]
  refine ⟨fun _ ↦ by simp, fun hverified ↦ ?_⟩
  rw [post_ite]
  refine ⟨fun _ ↦ by simp, fun _ ↦ ?_⟩
  rw [post_bind, post_update]
  refine ⟨fun row hrow _ row' hrow' ↦ ?_, fun hno ↦ absurd (hno _ htransaction) (by simp)⟩
  cases htransaction.symm.trans hrow
  cases hrow'
  have hrest := ((spares_cancelOrderOf transaction).bind fun _ ↦ spares_createAudit _ audit)
  have hcheckout : (Prog.update (.paymentCheckoutSession checkout.1) (fun _ ↦ true)
      (fun c ↦ .ok { c with status := .expired }) : DbTx ℕ).Keeps
        (Spares (some (transaction.orderType, transaction.orderID))) fun _ ↦ True := by
    simp
  refine (post_of_keeps (rowTrans_spares _) (hcheckout.bind fun _ ↦ hrest) _).mono
    fun _ v hv ↦ ⟨_, RowStep.trans (rowTrans_spares _) (rowStep_insert ?_) hv.1, fun _ _ h ↦ by
      cases h
      exact Bool.eq_false_iff.mpr hverified⟩
  refine ⟨fun r hr ↦ ?_, fun _ ↦ .inr rfl⟩
  cases htransaction.symm.trans hr
  exact ⟨rfl, rfl⟩

end Facts

/-! ## Every transaction, every run -/

/-- **What a transaction of a payable order closes.** -/
theorem PaymentCall.spares (calendar : Calendar) (c : PaymentCall) {s : Store} (hc : c.Prepared s) :
    (c.prog calendar).Post s fun _ s' ↦ SparesFacts s s' := by
  cases c with
  | createCheckout id candidate =>
    exact post_spares ((spares_createOrGetPaymentCheckoutSession id candidate).bind fun _ ↦ by simp) s
  | claim id candidate =>
    exact post_spares ((spares_claimPayablePaymentTransaction id candidate).bind fun _ ↦ by simp) s
  | noteCreation id status codeURL failureCode failureReason =>
    exact post_spares (spares_updatePaymentTransactionCreation id hc codeURL failureCode
      failureReason) s
  | record id candidate =>
    exact post_spares ((spares_recordPaymentWebhookEvent id candidate).bind fun _ ↦ by simp) s
  | noteOutcome id status failureCode failureReason now =>
    exact post_spares_markPaymentWebhookOutcome id status failureCode failureReason now s
  | fulfill input =>
    exact post_spares ((spares_fulfillPaymentTransaction calendar input).bind fun _ ↦ by simp) s
  | review id failureCode failureReason audit =>
    exact post_spares (spares_markPaymentTransactionReviewWithAudit id failureCode failureReason
      audit) s
  | close id now audit => exact post_spares_closePaymentTransaction id now audit
  | expireCheckout id now =>
    exact post_spares ((spares_expirePaymentCheckoutSession id now).bind fun _ ↦ by simp) s
  | closeMembershipOrder orderID userID actorID note audit =>
    exact post_spares_closeMembershipOrder orderID userID actorID note audit
  | cancelTopup userID id => exact post_spares_cancelCreditTopupOrder userID id
  | reconcileStale orderID pendingCreatedBefore =>
    exact post_spares_reconcileStaleMembershipOrder orderID pendingCreatedBefore
  | expireSubscriptions now => exact post_spares (spares_expireSubscriptions now) s

/-- The order is not closed from `s` to `s'`: it is not cancelled, and none of its transactions is
closed. -/
structure Stands (orderType : PaymentOrderType) (orderID : String) (s s' : Store) : Prop where
  order : orderStatus s' orderType orderID = some .cancelled →
    orderStatus s orderType orderID = some .cancelled
  transactions : ∀ id t', s'.lookup (.paymentTransaction id) = some t' →
    t'.orderType = orderType → t'.orderID = orderID → t'.status = .closed →
      ∃ t, s.lookup (.paymentTransaction id) = some t ∧ t'.SameOrder t ∧ t.status = .closed

theorem Stands.refl (orderType : PaymentOrderType) (orderID : String) (s : Store) :
    Stands orderType orderID s s :=
  ⟨fun h ↦ h, fun _ t ht _ _ hclosed ↦ ⟨t, ht, ⟨rfl, rfl⟩, hclosed⟩⟩

theorem Stands.trans {orderType : PaymentOrderType} {orderID : String} {s t u : Store}
    (h : Stands orderType orderID s t) (h' : Stands orderType orderID t u) :
    Stands orderType orderID s u := by
  refine ⟨fun hcancelled ↦ h.order (h'.order hcancelled), fun id r hr htype horder hclosed ↦ ?_⟩
  obtain ⟨r₁, hr₁, hsame, hclosed₁⟩ := h'.transactions id r hr htype horder hclosed
  obtain ⟨r₂, hr₂, hsame₂, hclosed₂⟩ := h.transactions id r₁ hr₁ (hsame.1.symm.trans htype)
    (hsame.2.symm.trans horder) hclosed₁
  exact ⟨r₂, hr₂, ⟨hsame.1.trans hsame₂.1, hsame.2.trans hsame₂.2⟩, hclosed₂⟩

/-- The event is stored with one of the statuses of a payment fact, and bound to a transaction of the
order. -/
structure IsFactFor (orderType : PaymentOrderType) (orderID eventID : String)
    (status : PaymentWebhookStatus) (s : Store) : Prop where
  event : ∃ e, s.lookup (.paymentWebhookEvent eventID) = some e ∧ e.status = status ∧
    ∃ t, s.lookup (.paymentTransaction e.transactionID) = some t ∧ t.orderType = orderType ∧
      t.orderID = orderID
  verified : status.isVerifiedFact = true

theorem IsFactFor.exists {orderType : PaymentOrderType} {orderID eventID : String}
    {status : PaymentWebhookStatus} {s : Store} (h : IsFactFor orderType orderID eventID status s) :
    verifiedPaymentFactExists orderType orderID s = true := by
  obtain ⟨e, he, rfl, t, ht, rfl, rfl⟩ := h.event
  rw [verifiedPaymentFactExists, Db.any_iff]
  refine ⟨.paymentWebhookEvent eventID, e, he, ?_⟩
  simp [h.verified, ht, PaymentTransaction.pays]

theorem SparesFacts.stands {s s' : Store} (h : SparesFacts s s') {orderType : PaymentOrderType}
    {orderID : String} (hfact : verifiedPaymentFactExists orderType orderID s = true) :
    Stands orderType orderID s s' := by
  obtain ⟨target, hstep, htarget⟩ := h
  have hne : target ≠ some (orderType, orderID) := fun heq ↦ by
    rw [htarget _ _ heq] at hfact
    cases hfact
  constructor
  · intro hcancelled
    cases orderType with
    | membership =>
      obtain ⟨o', ho', hstatus⟩ := Option.map_eq_some_iff.mp hcancelled
      rcases hstep (.membershipOrder orderID) with heq | ⟨r, hr, hrow⟩
      · rw [orderStatus, ← heq]
        exact hcancelled
      · cases ho'.symm.trans hr
        obtain ⟨o, ho, hold⟩ := (hrow hstatus).resolve_right hne
        rw [orderStatus, ho, Option.map_some, hold]
    | creditTopup =>
      obtain ⟨o', ho', hstatus⟩ := Option.map_eq_some_iff.mp hcancelled
      rcases hstep (.creditTopupOrder orderID) with heq | ⟨r, hr, hrow⟩
      · rw [orderStatus, ← heq]
        exact hcancelled
      · cases ho'.symm.trans hr
        obtain ⟨o, ho, hold⟩ := (hrow hstatus).resolve_right hne
        rw [orderStatus, ho, Option.map_some, hold]
  · rintro id t' ht' rfl rfl hclosed
    rcases hstep (.paymentTransaction id) with heq | ⟨r, hr, hrow⟩
    · exact ⟨t', heq ▸ ht', ⟨rfl, rfl⟩, hclosed⟩
    · cases ht'.symm.trans hr
      obtain ⟨t, ht, hold⟩ := (hrow.2 hclosed).resolve_right hne
      exact ⟨t, ht, hrow.1 t ht, hold⟩

/-- A processed event stays one, and stays bound to its order. -/
theorem SparesFacts.processed {s s' : Store} (h : SparesFacts s s') {orderType : PaymentOrderType}
    {orderID eventID : String} (hfact : IsFactFor orderType orderID eventID .processed s) :
    IsFactFor orderType orderID eventID .processed s' := by
  obtain ⟨target, hstep, -⟩ := h
  obtain ⟨e, he, hprocessed, t, ht, rfl, rfl⟩ := hfact.event
  have htransaction : ∃ t', s'.lookup (.paymentTransaction e.transactionID) = some t' ∧
      t'.SameOrder t := by
    rcases hstep (.paymentTransaction e.transactionID) with heq | ⟨t', ht', hrow⟩
    · exact ⟨t, heq.trans ht, rfl, rfl⟩
    · exact ⟨t', ht', hrow.1 t ht⟩
  obtain ⟨t', ht', htype, horder⟩ := htransaction
  refine ⟨?_, rfl⟩
  rcases hstep (.paymentWebhookEvent eventID) with heq | ⟨e', he', hrow⟩
  · exact ⟨e, heq.trans he, hprocessed, t', ht', htype, horder⟩
  · obtain ⟨hsame, hstill⟩ := hrow e he
    exact ⟨e', he', hstill hprocessed, t', by rw [hsame]; exact ht', htype, horder⟩

theorem SparesFacts.transact (calendar : Calendar) (c : PaymentCall) {s : Store}
    (hc : c.Prepared s) (fault : Option ℕ) :
    SparesFacts s ((c.prog calendar).transact fault s).2 :=
  Prog.Post.transact (c.spares calendar hc) (.refl s) fault

/-- Whatever else happens leaves payments and events alone; orders may be placed. -/
structure KeepsPayments (s s' : Store) : Prop extends PlacesOrders s s' where
  events : ∀ id, s'.lookup (.paymentWebhookEvent id) = s.lookup (.paymentWebhookEvent id)

theorem KeepsPayments.stands {s s' : Store} (h : KeepsPayments s s') (orderType : PaymentOrderType)
    (orderID : String) : Stands orderType orderID s s' := by
  refine ⟨fun hcancelled ↦ ?_, fun id t' ht' _ _ hclosed ↦
    ⟨t', h.transactions id ▸ ht', ⟨rfl, rfl⟩, hclosed⟩⟩
  rcases h.orders orderType orderID with heq | ⟨-, hpending⟩
  · rw [← heq]
    exact hcancelled
  · rw [hpending] at hcancelled
    cases hcancelled

theorem KeepsPayments.isFactFor {s s' : Store} (h : KeepsPayments s s')
    {orderType : PaymentOrderType} {orderID eventID : String} {status : PaymentWebhookStatus}
    (hfact : IsFactFor orderType orderID eventID status s) :
    IsFactFor orderType orderID eventID status s' := by
  obtain ⟨e, he, hstatus, t, ht, hpays⟩ := hfact.event
  exact ⟨⟨e, (h.events eventID).trans he, hstatus, t, (h.transactions _).trans ht, hpays⟩,
    hfact.verified⟩

/-- **A verified payment fact stands.**  In every run in which each transaction finds the event
stored as received, to be reviewed or processed, the order is not cancelled and none of its
transactions is closed; and from the moment the event is processed it stays processed in every run,
and the order stands. -/
theorem verified_fact_stands (calendar : Calendar) (orderType : PaymentOrderType)
    (orderID eventID : String) {s t : Store} :
    (Serial (PaymentCall.prog calendar)
        (fun c u ↦ c.Prepared u ∧ ∃ status, IsFactFor orderType orderID eventID status u)
        KeepsPayments s t →
      Stands orderType orderID s t) ∧
    (IsFactFor orderType orderID eventID .processed s →
      Serial (PaymentCall.prog calendar) PaymentCall.Prepared KeepsPayments s t →
      IsFactFor orderType orderID eventID .processed t ∧ Stands orderType orderID s t) := by
  constructor
  · intro h
    induction h with
    | refl => exact .refl _ _ _
    | call c fault _ hok ih =>
      obtain ⟨hprepared, status, hfact⟩ := hok
      exact ih.trans ((SparesFacts.transact calendar c hprepared fault).stands hfact.exists)
    | env _ hmove ih => exact ih.trans (hmove.stands _ _)
  · intro hprocessed h
    induction h with
    | refl => exact ⟨hprocessed, .refl _ _ _⟩
    | call c fault _ hok ih =>
      have hspares := SparesFacts.transact calendar c hok fault
      exact ⟨hspares.processed ih.1, ih.2.trans (hspares.stands ih.1.exists)⟩
    | env _ hmove ih => exact ⟨hmove.isFactFor ih.1, ih.2.trans (hmove.stands _ _)⟩

/-! ## An event that is rejected -/

/-- `IsFactFor`, computed, but for the status. -/
def storesFact (orderType : PaymentOrderType) (orderID eventID : String)
    (status : PaymentWebhookStatus) (s : Store) : Bool :=
  (s.lookup (.paymentWebhookEvent eventID)).any fun e ↦
    e.status = status && (s.lookup (.paymentTransaction e.transactionID)).any fun t ↦
      t.orderType = orderType && t.orderID = orderID

theorem isFactFor_of_storesFact {orderType : PaymentOrderType} {orderID eventID : String}
    {status : PaymentWebhookStatus} {s : Store}
    (h : storesFact orderType orderID eventID status s = true)
    (hverified : status.isVerifiedFact = true) : IsFactFor orderType orderID eventID status s := by
  obtain ⟨e, he, h⟩ := Option.any_eq_true _ _ |>.mp h
  rw [Bool.and_eq_true, decide_eq_true_eq, Option.any_eq_true] at h
  obtain ⟨hstatus, t, ht, hpays⟩ := h
  simp only [Bool.and_eq_true, decide_eq_true_eq] at hpays
  exact ⟨⟨e, he, hstatus, t, ht, hpays.1, hpays.2⟩, hverified⟩

/-- The provider's report is received, but the payment is not fulfilled yet. -/
def reportedTopup : Option Store :=
  replayIf (PaymentCall.prog ⟨fun _ _ start ↦ start⟩) PaymentCall.isPreparedTopup unpaidTopup
    (payTopup.take 4)

/-- The report is rejected, and the transaction closed. -/
def rejectReport : List PaymentCall :=
  [.noteOutcome "e" .rejected "amount_currency_mismatch" "" 6, .close "t" 7 none]

/-- **A payment fact is forgotten.**  The event is received for the transaction of a pending order,
then rejected, and then the order is cancelled and its transaction closed. -/
theorem exists_fact_forgotten :
    ∃ s t, Serial (PaymentCall.prog ⟨fun _ _ start ↦ start⟩) PaymentCall.Prepared KeepsPayments
        unpaidTopup s ∧ IsFactFor .creditTopup "o" "e" .received s ∧
      Serial (PaymentCall.prog ⟨fun _ _ start ↦ start⟩) PaymentCall.Prepared KeepsPayments s t ∧
      orderStatus s .creditTopup "o" = some .pending ∧
      orderStatus t .creditTopup "o" = some .cancelled ∧ ¬Stands .creditTopup "o" s t := by
  have hrun : reportedTopup.map (fun s ↦ (storesFact .creditTopup "o" "e" .received s,
      orderStatus s .creditTopup "o",
      (replayIf (PaymentCall.prog ⟨fun _ _ start ↦ start⟩) PaymentCall.isPreparedTopup s
        rejectReport).map (orderStatus · .creditTopup "o"))) =
      some (true, some .pending, some (some .cancelled)) := by decide
  obtain ⟨s, hs, hrun⟩ := Option.map_eq_some_iff.mp hrun
  simp only [Prod.mk.injEq] at hrun
  obtain ⟨hfact, hpending, hrun⟩ := hrun
  obtain ⟨t, ht, hcancelled⟩ := Option.map_eq_some_iff.mp hrun
  refine ⟨s, t, serial_of_replayIf PaymentCall.prepared_of_isPreparedTopup hs,
    isFactFor_of_storesFact hfact rfl,
    serial_of_replayIf PaymentCall.prepared_of_isPreparedTopup ht, hpending, hcancelled,
    fun hstands ↦ ?_⟩
  have hold := hstands.order hcancelled
  rw [hpending] at hold
  cases hold

/-- The order is paid, and then somebody tries to close its transaction and to cancel it. -/
theorem verified_fact_stands_topup :
    ∃ s t, IsFactFor .creditTopup "o" "e" .processed s ∧
      Serial (PaymentCall.prog ⟨fun _ _ start ↦ start⟩) PaymentCall.Prepared KeepsPayments s t ∧
      IsFactFor .creditTopup "o" "e" .processed t ∧ Stands .creditTopup "o" s t := by
  have hrun : (replayIf (PaymentCall.prog ⟨fun _ _ start ↦ start⟩) PaymentCall.isPreparedTopup
      unpaidTopup payTopup).map (fun s ↦ (storesFact .creditTopup "o" "e" .processed s,
      (replayIf (PaymentCall.prog ⟨fun _ _ start ↦ start⟩) PaymentCall.isPreparedTopup s
        (rejectReport ++ [.cancelTopup "u" "o"])).isSome)) = some (true, true) := by decide
  obtain ⟨s, -, hrun⟩ := Option.map_eq_some_iff.mp hrun
  rw [Prod.mk.injEq, Option.isSome_iff_exists] at hrun
  obtain ⟨hfact, t, ht⟩ := hrun
  have hprocessed := isFactFor_of_storesFact hfact rfl
  have hserial : Serial (PaymentCall.prog ⟨fun _ _ start ↦ start⟩) PaymentCall.Prepared
      KeepsPayments s t :=
    serial_of_replayIf PaymentCall.prepared_of_isPreparedTopup ht
  exact ⟨s, t, hprocessed, hserial,
    (verified_fact_stands ⟨fun _ _ start ↦ start⟩ .creditTopup "o" "e").2 hprocessed hserial⟩

end HMaigc
