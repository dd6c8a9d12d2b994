import HMaigc.Sql.Serial
import HMaigc.Credit.Neutral
import HMaigc.Repository.Task
import HMaigc.Repository.Payment

/-!
# Credits are conserved

Every operation of the repository that moves credits keeps the books of every payer balanced, and so
does every serial run of them.  The exception is in the code: a token settlement that returns part
of its reservation computes the new available balance in `int64` and writes it without a check, so
the returned part can carry the balance past the largest number and make it negative.

* `conserves_*`, `post_*` — one lemma for each operation.
* `CreditCall` — an operation with its arguments; `CreditCall.Promised` is what the callers promise
  about the arguments, and `CreditCall.Fits` excludes the overflow.
* `accounts_reconcile` — the books of every account agree after every run in which no settlement
  overflows.
* `overflowingCalls_not_reconciled` — a run in which one does.
-/

set_option autoImplicit false

namespace HMaigc

open Sql Go Prog

/-! ## Reserving and releasing -/

theorem conserves_reserveFromAccount {order : BillingOrder} (hopen : order.status.isOpen = true)
    (hamount : 0 ≤ order.amountMicrocredits) (id entryID : String) :
    Conserves (reserveFromAccount id order entryID) := fun s hs ↦
  hs.posts (by
    simp [reserveFromAccount, createAccountIfMissing, readAccount, createBillingOrder,
      createLedgerEntry, keeps_ite, StaysSane, Sane, hamount])
    (posts_reserveFromAccount hs.conserved hopen hamount id entryID)

theorem conserves_reserveBillingOrder (order : BillingOrder) (hopen : order.status.isOpen = true)
    (hamount : 0 ≤ order.amountMicrocredits) (id : String) (month : Month) (entryID : String) :
    Conserves (reserveBillingOrder id order month entryID) := by
  have hreserve := conserves_reserveFromAccount hopen hamount id entryID
  rw [reserveBillingOrder]
  split
  · exact (Conserves.of_neutral (readOnly_checkMemberLimit order month).keeps).bind fun _ ↦ hreserve
  · exact hreserve

theorem conserves_settleBillingOrder (id providerRequestID entryID : String) (now : Time) :
    Conserves (settleBillingOrder id providerRequestID entryID now) := by
  intro s hs
  rw [settleBillingOrder]
  simp [post_ite]
  intro order horder
  refine ⟨fun _ ↦ hs, fun hsettled hrefunded ↦ ?_⟩
  have hopen := order.isOpen_of_not_closed hsettled hrefunded
  exact hs.posts (by
    simp [settleReservation, readAccount, createLedgerEntry, keeps_ite, StaysSane, Sane,
      BillingStatus.isOpen])
    (posts_settleReservation hs.conserved ⟨horder, hopen, rfl, rfl⟩ providerRequestID entryID now)

/-- A refund under a status check, whatever the order's other columns say by now. -/
theorem post_refundBillingOrderTx {s : Store} (hs : Kept s) {id : String} {order row : BillingOrder}
    (hrow : Holds s id order row) (errorText entryID : String) (now : Time) :
    (refundBillingOrderTx id order errorText entryID now).Post s fun _ s' ↦ Kept s' :=
  hs.posts (by
    simp [refundBillingOrderTx, readAccount, createLedgerEntry, keeps_ite, StaysSane, Sane,
      BillingStatus.isOpen])
    (posts_refundBillingOrderTx hs.conserved hrow
      (hrow.amount ▸ hs.sound _ _ hrow.lookup hrow.isOpen) errorText entryID now)

theorem conserves_refundBillingOrder (id errorText entryID : String) (now : Time) :
    Conserves (refundBillingOrder id errorText entryID now) := by
  intro s hs
  rw [refundBillingOrder]
  simp [post_ite]
  intro order horder
  refine ⟨fun _ ↦ hs, fun hrefunded hsettled ↦ ?_⟩
  exact post_refundBillingOrderTx hs
    ⟨horder, order.isOpen_of_not_closed hsettled hrefunded, rfl, rfl⟩ errorText entryID now

/-! ## Token settlements -/

/-- The settlement goes through to the account: none of the checks of `settleTokenBillingTx`
stops it. -/
def BillingOrder.isSettleable (order : BillingOrder) (settlement : TokenBillingSettlement) : Bool :=
  order.billingMode = "token_usage" && !contradictsResponse order settlement &&
    order.status.isOpen && 0 < order.reservedAmountMicrocredits &&
    order.reservedAmountMicrocredits = order.amountMicrocredits

/-- What is returned of the reservation does not carry the available balance past `int64`. -/
def SettlesWithin (s : Store) (id : String) (settlement : TokenBillingSettlement) : Prop :=
  ∀ order account, s.lookup (.billingOrder id) = some order →
    order.isSettleable settlement = true →
    s.lookup (.creditAccount order.payer) = some account →
    account.availableMicrocredits +
      (order.reservedAmountMicrocredits - settlement.amountMicrocredits) ≤ maxInt64

theorem neutral_markTokenBillingOverReservationTx (id : String)
    (settlement : TokenBillingSettlement) :
    (markTokenBillingOverReservationTx id settlement).Keeps Neutral fun _ ↦ True := by
  simp +contextual [markTokenBillingOverReservationTx, keeps_ite, Neutral]

theorem post_settleTokenBillingTx {s : Store} (hs : Kept s) {id : String}
    {settlement : TokenBillingSettlement} (hfits : SettlesWithin s id settlement) (above : Bool)
    (consumeEntryID releaseEntryID : String) :
    (settleTokenBillingTx id settlement above consumeEntryID releaseEntryID).Post s
      fun _ s' ↦ Kept s' := by
  rw [settleTokenBillingTx]
  simp [post_ite]
  intro order horder hmode hresponse
  refine ⟨fun _ _ ↦ hs, fun _ hopen hpos hamount ↦ ⟨fun _ _ ↦ ?_, fun _ ↦ ?_⟩⟩
  · exact Conserves.of_neutral (neutral_markTokenBillingOverReservationTx id settlement) s hs
  have hsettle : (settleAccountTokenBillingTx order.payer id order settlement
      order.reservedAmountMicrocredits consumeEntryID releaseEntryID).Post s fun _ s' ↦ Kept s' := by
    have hfits' : ∀ a, s.lookup (.creditAccount order.payer) = some a →
        a.availableMicrocredits + (order.amountMicrocredits - settlement.amountMicrocredits) ≤
          maxInt64 := fun a ha ↦ by
      rw [← hamount]
      refine hfits order a horder ?_ ha
      simp only [BillingOrder.isSettleable, hmode, hresponse, hopen, hpos, decide_true]
      simpa using hamount
    rw [hamount] at hpos ⊢
    exact hs.posts (by
      simp [settleAccountTokenBillingTx, updateSettledTokenOrderTx, createLedgerEntry, keeps_ite,
        StaysSane, Sane])
      (posts_settleAccount hs.conserved horder hopen hpos hfits' consumeEntryID releaseEntryID)
  constructor
  · intro hteam
    rwa [BillingOrder.payer, if_neg (not_not.mpr hteam)] at hsettle
  · intro hteam
    rwa [BillingOrder.payer, if_pos hteam] at hsettle

theorem post_settleTokenBilling {s : Store} (hs : Kept s) {id : String} {fact : TokenSettlementFact}
    (hfits : ∀ settlement, fact.settlement id = .ok settlement → SettlesWithin s id settlement)
    (consumeEntryID releaseEntryID : String) :
    (settleTokenBilling id fact consumeEntryID releaseEntryID).Post s fun _ s' ↦ Kept s' := by
  unfold settleTokenBilling
  cases hsettlement : fact.settlement id with
  | error e => simp
  | ok settlement => exact post_settleTokenBillingTx hs (hfits settlement hsettlement) false _ _

/-- The order a settlement from the response is about, and the settlement. -/
def ResponseSettlesWithin (s : Store) (id : String) (fact : ResponseUsageSettlementFact) : Prop :=
  ∀ settlement, fact.settlement id = .ok settlement → SettlesWithin s (trimSpace id) settlement

theorem post_settleTokenBillingFromResponseUsageTx {s : Store} (hs : Kept s) {id : String}
    {fact : ResponseUsageSettlementFact} (hfits : ResponseSettlesWithin s id fact)
    (consumeEntryID releaseEntryID : String) :
    (settleTokenBillingFromResponseUsageTx id fact consumeEntryID releaseEntryID).Post s
      fun _ s' ↦ Kept s' := by
  unfold settleTokenBillingFromResponseUsageTx
  cases hsettlement : fact.settlement id with
  | error e => simp
  | ok settlement => exact post_settleTokenBillingTx hs (hfits settlement hsettlement) true _ _

theorem conserves_refundTokenBilling (id providerOrderID : String) (providerAmountSubunits : ℤ)
    (providerTaskStatus : String) (providerTotalTokens : ℤ) (errorText entryID : String)
    (now : Time) :
    Conserves (refundTokenBilling id providerOrderID providerAmountSubunits providerTaskStatus
      providerTotalTokens errorText entryID now) := by
  intro s hs
  rw [refundTokenBilling]
  simp [post_ite]
  intro _ _ _ _ _ order horder _
  refine ⟨fun _ _ _ _ _ _ ↦ hs, fun hrefunded hsettled ↦ ?_⟩
  have hopen := order.isOpen_of_not_closed hsettled hrefunded
  simp only [horder, Option.some.injEq, forall_eq']
  refine ⟨?_, fun hnone ↦ by simp at hnone⟩
  -- the provider's facts are written first; they leave payer, amount and openness
  set row := order.observeNoCharge providerOrderID providerAmountSubunits providerTaskStatus
    providerTotalTokens
  have hobserved : RowStep Neutral s (s.insert (.billingOrder id) row) :=
    rowStep_insert ⟨order, horder, rfl, rfl, rfl⟩
  exact post_refundBillingOrderTx (hs.neutral hobserved)
    ⟨AList.lookup_insert s, hopen, rfl, rfl⟩ errorText entryID now

/-! ## Finishing tasks -/

theorem neutral_finalizeUncertainTx (orderID : String) (order : BillingOrder)
    (input : SucceededTaskFinalization) (now : Time) :
    (finalizeUncertainTx orderID order input now).Keeps Neutral fun _ ↦ True := by
  simp [finalizeUncertainTx, keeps_ite, Neutral]
  rintro _ _ _ _ row (h | h) <;> rw [h] <;> rfl

/-- The settlement a successful finalization makes from the response. -/
def FinalizesWithin (s : Store) (input : SucceededTaskFinalization) : Prop :=
  input.billingAction = .settleFromUsage → ∀ fact, input.responseUsageSettlement = some fact →
    ResponseSettlesWithin s input.task.billingOrderID fact

theorem post_finalizeSucceededBillingTx {s : Store} (hs : Kept s)
    {input : SucceededTaskFinalization} (hfits : FinalizesWithin s input) (ids : FinalizationIDs)
    (now : Time) :
    (finalizeSucceededBillingTx input ids now).Post s fun _ s' ↦ Kept s' := by
  rw [finalizeSucceededBillingTx]
  simp [post_ite]
  refine ⟨fun _ ↦ hs, fun _ order _ _ ↦ ?_⟩
  cases haction : input.billingAction with
  | settle =>
    simp [post_ite]
    exact fun _ ↦ conserves_settleBillingOrder _ _ _ _ s hs
  | settleFromUsage =>
    cases hfact : input.responseUsageSettlement with
    | none => simp
    | some fact =>
      simp [post_ite]
      exact fun _ _ ↦
        post_settleTokenBillingFromResponseUsageTx hs (hfits haction fact hfact) _ _
  | uncertain => exact Conserves.of_neutral (neutral_finalizeUncertainTx _ order input now) s hs
  | other action => simp

theorem post_finalizeSucceededTaskAndBilling {s : Store} (hs : Kept s)
    {input : SucceededTaskFinalization} (hfits : FinalizesWithin s input) (ids : FinalizationIDs)
    (now : Time) :
    (finalizeSucceededTaskAndBilling input ids now).Post s fun _ s' ↦ Kept s' := by
  rw [finalizeSucceededTaskAndBilling]
  simp only [post_bind, post_ite, throw_eq_fail, post_fail]
  exact ⟨fun _ ↦ trivial, fun _ ↦ (post_finalizeSucceededBillingTx hs hfits ids now).mono
    fun _ t ht ↦ Conserves.of_neutral
      (neutral_of_taskSide (writes_completeSucceededTask input ids now)) t ht⟩

theorem conserves_finalizeFailedBillingTx (orderID taskID providerRequestID : String)
    (action : FailedTaskBillingAction) (errorText entryID : String) (now : Time) :
    Conserves (finalizeFailedBillingTx orderID taskID providerRequestID action errorText entryID
      now) := by
  intro s hs
  rw [finalizeFailedBillingTx]
  simp [post_ite]
  refine ⟨fun _ ↦ hs, fun _ order horder _ ↦ ?_⟩
  cases action with
  | refund =>
    simp [post_ite]
    intro hstatus
    have hopen : order.status.isOpen = true := by
      rcases hst : order.status <;> simp_all
    exact post_refundBillingOrderTx hs ⟨horder, hopen, rfl, rfl⟩ errorText entryID now
  | uncertain =>
    refine Conserves.of_neutral ?_ s hs
    simp [keeps_ite, Neutral]
    refine ⟨fun _ row h ↦ by simp [h], fun _ row h ↦ ?_⟩
    rcases h with h | h <;> simp [h]
  | other action => simp

theorem conserves_finalizeFailedTaskAndBillingWithOutbox (taskID : String) (task : Task)
    (action : FailedTaskBillingAction) (errorText : String) (outbox : Option TaskOutboxDraft)
    (ids : FinalizationIDs) (now : Time) :
    Conserves (finalizeFailedTaskAndBillingWithOutbox taskID task action errorText outbox ids
      now) := by
  rw [finalizeFailedTaskAndBillingWithOutbox]
  refine .ite (fun _ ↦ .fail _) fun _ ↦ ?_
  exact (conserves_finalizeFailedBillingTx _ _ _ _ _ _ _).bind fun _ ↦
    .of_neutral (neutral_of_taskSide (writes_completeFailedTask _ _ _ _ _))

/-! ## Granting -/

theorem conserves_grantCreditsOnce (userID : String) (entryType : CreditLedgerType) {amount : ℤ}
    (hamount : 0 ≤ amount) (referenceKey note entryID : String) :
    Conserves (grantCreditsOnce userID entryType amount referenceKey note entryID) := by
  intro s hs a s' hrun
  have hsane : (grantCreditsOnce userID entryType amount referenceKey note entryID).Keeps
      StaysSane fun _ ↦ True := by
    simp [grantCreditsOnce, createAccountIfMissing, readAccount, keeps_ite, StaysSane, Sane]
  have hsound := hs.sound.rowStep (post_of_keeps rowTrans_staysSane hsane s a s' hrun).1
  rcases posts_grantCreditsOnce hs.conserved userID entryType hamount referenceKey note entryID
    a s' hrun with hposts | hnone
  · exact ⟨hposts.conserved hs.conserved, hsound⟩
  · exact ⟨hs.conserved.congr hnone.books_eq, hsound⟩

theorem conserves_adjustCredits (userID actorUserID : String) (amount : ℤ) (note entryID : String) :
    Conserves (adjustCredits userID actorUserID amount note entryID) := fun s hs ↦
  hs.posts (by
    simp [adjustCredits, createAccountIfMissing, readAccount, createLedgerEntry, keeps_ite,
      StaysSane, Sane])
    (posts_adjustCredits hs.conserved userID actorUserID amount note entryID)

theorem conserves_redeemCode (userID codeHash redeemedIP entryID : String) (now : Time) :
    Conserves (redeemCode userID codeHash redeemedIP entryID now) := by
  intro s hs a s' hrun
  have hsane : (redeemCode userID codeHash redeemedIP entryID now).Keeps StaysSane
      fun _ ↦ True := by
    rw [redeemCode, keeps_bind, keeps_query]
    intro v
    cases redeemCodeByHash codeHash v with
    | none => simp
    | some found =>
      simp [createAccountIfMissing, readAccount, createLedgerEntry, keeps_ite, StaysSane, Sane,
        RedeemCode.redeem]
  obtain ⟨amount, hposts⟩ := posts_redeemCode hs.conserved
    (fun id code hcode ↦ hs.sound _ _ hcode) userID codeHash redeemedIP entryID now a s' hrun
  exact ⟨hposts.conserved hs.conserved,
    hs.sound.rowStep (post_of_keeps rowTrans_staysSane hsane s a s' hrun).1⟩

theorem conserves_grantToAccount {payer : Payer} {amount : ℤ} (hamount : 0 ≤ amount)
    {post : CreditAccount → CreditLedgerEntry}
    (hpost : ∀ a, (post a).payer = payer ∧ (post a).availableDeltaMicrocredits = amount ∧
      (post a).reservedDeltaMicrocredits = 0) (entryID : String) :
    Conserves (grantToAccount payer amount entryID post) := fun s hs ↦
  hs.posts (by
    simp [grantToAccount, createAccountIfMissing, readAccount, createLedgerEntry, StaysSane, Sane])
    (posts_grantToAccount hs.conserved hamount hpost entryID)

theorem conserves_grantTeamMembershipLedgerTx {ledger : CreditLedgerEntry}
    (hplain : ledger.IsPlainGrant) (hamount : 0 < ledger.amountMicrocredits)
    (teamID ledgerID : String) :
    Conserves (grantTeamMembershipLedgerTx teamID ledgerID ledger) := by
  refine conserves_grantToAccount hamount.le (fun _ ↦ ?_) ledgerID
  exact ⟨rfl, hplain.available, rfl⟩

theorem conserves_grantPersonalCreditLedgerTx {ledger : CreditLedgerEntry}
    (hplain : ledger.IsPlainGrant) (ledgerID : String) :
    Conserves (grantPersonalCreditLedgerTx ledgerID ledger) := by
  refine .ite (fun _ ↦ .fail _) fun h ↦ ?_
  rw [not_or, not_le] at h
  refine conserves_grantToAccount h.2.le (fun _ ↦ ?_) ledgerID
  exact ⟨rfl, hplain.available, hplain.reserved⟩

/-- A subscription's credits are made out to the user the subscription belongs to. -/
def MadeOutToSubscriber (s : Store) (subscriptionID : String) (ledger : CreditLedgerEntry) : Prop :=
  ∀ m, s.lookup (.membershipSubscription subscriptionID) = some m → ledger.payer = .user m.userID

theorem post_grantMembershipSubscriptionCredits {s : Store} (hs : Kept s)
    {subscriptionID : String} {ledger : CreditLedgerEntry} (hplain : ledger.IsPlainGrant)
    (howner : MadeOutToSubscriber s subscriptionID ledger) (ledgerID : String) (now : Time) :
    (grantMembershipSubscriptionCredits subscriptionID ledgerID ledger now).Post s
      fun _ s' ↦ Kept s' := by
  rw [grantMembershipSubscriptionCredits]
  simp only [post_bind, post_ite, throw_eq_fail, post_fail, implies_true, true_and, not_le]
  intro hamount
  cases ledger.referenceKey with
  | none => simp
  | some referenceKey =>
    simp [post_ite]
    intro _ current hcurrent _ _
    refine ⟨fun _ ↦ ⟨fun _ ↦ hs, fun _ ↦ ?_⟩, fun _ ↦ ⟨fun _ ↦ hs, fun _ ↦ ?_⟩⟩
    · refine conserves_grantToAccount hamount.le (fun _ ↦ ?_) ledgerID s hs
      refine ⟨?_, hplain.available, hplain.reserved⟩
      simp [personalGrantEntry, CreditLedgerEntry.personal, Payer.userID, howner current hcurrent]
    · refine conserves_grantToAccount hamount.le (fun _ ↦ ?_) ledgerID s hs
      exact ⟨rfl, hplain.available, rfl⟩

theorem conserves_grantReferralRewardTx (orderID : String) (order : MembershipOrder)
    {fulfillment : ReferralFulfillment} (hinviter : fulfillment.inviterLedger.entry.IsPlainGrant)
    (hinvitee : fulfillment.inviteeLedger.entry.IsPlainGrant) (now : Time) :
    Conserves (grantReferralRewardTx orderID order fulfillment now) := by
  intro s hs
  rw [grantReferralRewardTx]
  simp [post_ite, createReferralReward]
  intro _ _ _ _ _ _ _
  refine ⟨fun _ ↦ hs, fun _ _ ↦ ⟨fun _ ↦ hs, fun _ _ _ _ _ _ _ ↦ ?_⟩⟩
  have hrewarded := hs.insert (k := .referralReward fulfillment.rewardID)
    (r := fulfillment.reward) trivial
  refine (conserves_grantPersonalCreditLedgerTx hinviter _ _ hrewarded).mono fun _ t ht ↦ ?_
  refine (conserves_grantPersonalCreditLedgerTx hinvitee _ t ht).mono fun _ u hu ↦ ?_
  exact fun _ _ _ ↦ hu.insert trivial

/-- What the caller that builds an activation promises about the credits in it. -/
structure MembershipActivation.IsPlain (activation : MembershipActivation) : Prop where
  membership : ∀ ledger, activation.membershipLedger = some ledger → ledger.entry.IsPlainGrant
  inviter : ∀ r, activation.referral = some r → r.inviterLedger.entry.IsPlainGrant
  invitee : ∀ r, activation.referral = some r → r.inviteeLedger.entry.IsPlainGrant

theorem conserves_grantActivationLedger (order : MembershipOrder)
    {activation : MembershipActivation} (hplain : activation.IsPlain) :
    Conserves (grantActivationLedger order activation) := by
  rw [grantActivationLedger]
  cases hledger : activation.membershipLedger with
  | none => exact .done _
  | some ledger =>
    have hgrant := hplain.membership ledger hledger
    refine .ite (fun hpos ↦ .ite (fun _ ↦ ?_) fun _ ↦ ?_) fun _ ↦ .done _
    · exact conserves_grantTeamMembershipLedgerTx hgrant hpos _ _
    · exact conserves_grantPersonalCreditLedgerTx hgrant _

theorem conserves_activateMembershipOrderTx (calendar : Calendar)
    (orderID actorID provider providerTradeNo note : String) {activation : MembershipActivation}
    (hplain : activation.IsPlain) (now : Time) :
    Conserves (activateMembershipOrderTx calendar orderID actorID provider providerTradeNo note
      activation now) := by
  intro s hs
  rw [activateMembershipOrderTx]
  simp [post_ite]
  intro order _ _
  refine (Conserves.of_neutral (readOnly_lockSubscriber order).keeps s hs).mono fun _ t ht ↦ ?_
  cases activation.billingCycle.endOf calendar
    (max now (((latestSubscription order now t).bind (·.2.endsAt)).getD now)) with
  | error e => simp
  | ok stop =>
    simp [post_ite, createSubscription]
    intro _ _ _ _ _
    have hsubscribed : ∀ r r', Kept ((t.insert (.membershipOrder orderID) r).insert
        (.membershipSubscription activation.subscriptionID) r') := fun r r' ↦
      (ht.insert (k := .membershipOrder orderID) trivial).insert trivial
    refine (conserves_grantActivationLedger order hplain _ (hsubscribed _ _)).mono fun _ u hu ↦ ?_
    cases hreferral : activation.referral with
    | none => simpa using hu
    | some fulfillment =>
      exact conserves_grantReferralRewardTx orderID order (hplain.inviter _ hreferral)
        (hplain.invitee _ hreferral) now u hu

theorem conserves_fulfillCreditTopupOrderTx (orderID provider providerTradeNo entryID : String)
    (now : Time) :
    Conserves (fulfillCreditTopupOrderTx orderID provider providerTradeNo entryID now) := by
  intro s hs
  rw [fulfillCreditTopupOrderTx]
  simp [post_ite]
  intro order horder hpending row hrow _
  have htotal : 0 ≤ order.totalMicrocredits := hs.sound _ _ horder
  have hpaid : Kept (s.insert (.creditTopupOrder orderID) (row.pay provider providerTradeNo now)) :=
    hs.insert fun hold ↦ hold row hrow
  have hgrant : Conserves (grantToAccount (.user order.userID) order.totalMicrocredits entryID
      (topupEntry orderID order)) := by
    refine conserves_grantToAccount htotal (fun _ ↦ ?_) entryID
    exact ⟨rfl, rfl, rfl⟩
  refine (hgrant _ hpaid).mono fun _ t ht ↦ ?_
  exact ⟨fun _ _ ↦ ht.insert trivial, fun _ ↦ ht⟩

/-! ## Paying -/

theorem neutral_processEvent (input : PaymentFulfillment) :
    (processEvent input).Keeps Neutral fun _ ↦ True := by
  have haudit := neutral_of_orderSide (writes_createAudit input.audit)
  simp [processEvent, Neutral, haudit]

theorem neutral_payTransaction (input : PaymentFulfillment) :
    (payTransaction input).Keeps Neutral fun _ ↦ True := by
  simp [payTransaction, Neutral]

theorem conserves_grantEntitlement (calendar : Calendar) (transaction : PaymentTransaction)
    {input : PaymentFulfillment} (hplain : input.activation.IsPlain) :
    Conserves (grantEntitlement calendar transaction input) := by
  unfold grantEntitlement
  cases transaction.orderType with
  | membership => exact conserves_activateMembershipOrderTx _ _ _ _ _ _ hplain _
  | creditTopup => exact conserves_fulfillCreditTopupOrderTx _ _ _ _ _

theorem conserves_payOrder (calendar : Calendar) {input : PaymentFulfillment}
    (hplain : input.activation.IsPlain) (transaction : PaymentTransaction) :
    Conserves (payOrder calendar input transaction) := by
  refine (Conserves.of_neutral (neutral_payTransaction input)).bind fun rows ↦ ?_
  refine .ite (fun _ ↦ .fail _) fun _ ↦ ?_
  refine (conserves_grantEntitlement calendar transaction hplain).bind fun _ ↦ ?_
  refine (Conserves.of_neutral (neutral_of_orderSide (writes_updateCheckouts _ _))).bind fun _ ↦ ?_
  exact (Conserves.of_neutral (neutral_processEvent input)).bind fun _ ↦ .done _

theorem conserves_fulfillLocked (calendar : Calendar) {input : PaymentFulfillment}
    (hplain : input.activation.IsPlain) (transaction : PaymentTransaction)
    (event : PaymentWebhookEvent) :
    Conserves (fulfillLocked calendar input transaction event) := by
  refine .ite (fun _ ↦ .fail _) fun _ ↦ .ite (fun _ ↦ ?_) fun _ ↦ .ite (fun _ ↦ .fail _) fun _ ↦
    .ite (fun _ ↦ ?_) fun _ ↦ .ite (fun _ ↦ .fail _) fun _ ↦ ?_
  · exact (Conserves.of_neutral (neutral_of_orderSide (writes_createAudit _))).bind fun _ ↦ .done _
  · exact (Conserves.of_neutral (neutral_processEvent input)).bind fun _ ↦ .done _
  · exact conserves_payOrder calendar hplain transaction

theorem conserves_fulfillPaymentTransaction (calendar : Calendar) {input : PaymentFulfillment}
    (hplain : input.activation.IsPlain) :
    Conserves (fulfillPaymentTransaction calendar input) := by
  refine .ite (fun _ ↦ .fail _) fun _ ↦ ?_
  refine (Conserves.of_neutral (by simp)).bind fun snapshot ↦ ?_
  refine (Conserves.of_neutral (readOnly_lockPaymentOrderTx _ _ _).keeps).bind fun _ ↦ ?_
  refine (Conserves.of_neutral (readOnly_lockCheckout _ _).keeps).bind fun _ ↦ ?_
  refine (Conserves.of_neutral (by simp)).bind fun transaction ↦ ?_
  exact (Conserves.of_neutral (by simp)).bind fun event ↦
    conserves_fulfillLocked calendar hplain transaction event

/-! ## Creating and retrying tasks -/

theorem conserves_createTaskWithCreditReservation (taskID : String) (task : Task)
    {order : BillingOrder} (hopen : order.status.isOpen = true)
    (hamount : 0 ≤ order.amountMicrocredits) (policy : ActiveTaskPolicy) (watermark : String)
    (month : Month) (ids : CreationIDs) :
    Conserves (createTaskWithCreditReservation taskID task order policy watermark month ids) := by
  refine (Conserves.of_neutral (readOnly_enforceActiveTaskLimit _ _).keeps).bind fun _ ↦ ?_
  refine (Conserves.of_neutral (readOnly_freezeProviderTaskRuntimeTx _ _).keeps).bind fun runtime ↦ ?_
  refine .ite (fun _ ↦ .fail _) fun _ ↦ ?_
  refine (Conserves.of_neutral (readOnly_freezeTaskWatermarkTx _ _).keeps).bind fun frozen ↦ ?_
  refine (conserves_reserveBillingOrder (order.freeze runtime) hopen hamount _ _ _).bind
    fun _ ↦ .of_neutral (neutral_of_taskSide ?_)
  exact (writes_createTask _ _).bind fun _ ↦
    (writes_createFrozenWatermarkTaskLogTx _ _ _ _).imp fun _ _ _ ↦ isTaskSide_of_isProduct

theorem conserves_reserveForRetry (task : Task) (month : Month) (ids : CreationIDs)
    {order : Option BillingOrder}
    (horder : ∀ o, order = some o → o.status.isOpen = true ∧ 0 ≤ o.amountMicrocredits) :
    Conserves (reserveForRetry task month ids order) := by
  cases order with
  | none => exact .done _
  | some o =>
    obtain ⟨hopen, hamount⟩ := horder o rfl
    refine (Conserves.of_neutral (readOnly_freezeProviderTaskRuntimeTx _ _).keeps).bind
      fun runtime ↦ ?_
    exact (conserves_reserveBillingOrder (o.freeze runtime) hopen hamount _ _ _).bind
      fun _ ↦ .done _

theorem conserves_retryTaskWithBilling (userID taskID : String) {order : Option BillingOrder}
    (horder : ∀ o, order = some o → o.status.isOpen = true ∧ 0 ≤ o.amountMicrocredits)
    (policy : ActiveTaskPolicy) (watermark : String) (month : Month) (ids : CreationIDs) :
    Conserves (retryTaskWithBilling userID taskID order policy watermark month ids) := by
  refine (Conserves.of_neutral (readOnly_enforceActiveTaskLimit _ _).keeps).bind fun _ ↦ ?_
  refine (Conserves.of_neutral (by simp)).bind fun found ↦ ?_
  cases found with
  | none => exact .fail _
  | some task =>
    refine (conserves_reserveForRetry task month ids horder).bind fun reserved ↦ ?_
    refine (Conserves.of_neutral (readOnly_freezeTaskWatermarkTx _ _).keeps).bind fun frozen ↦
      .of_neutral ?_
    simp [createFrozenWatermarkTaskLogTx, keeps_ite, Neutral]

/-! ## Serial runs -/

/-- An operation that moves credits or an order's status, with its arguments. -/
inductive CreditCall where
  | reserveBillingOrder (id : String) (order : BillingOrder) (month : Month) (entryID : String)
  | settleBillingOrder (id providerRequestID entryID : String) (now : Time)
  | refundBillingOrder (id errorText entryID : String) (now : Time)
  | settleTokenBilling (id : String) (fact : TokenSettlementFact)
      (consumeEntryID releaseEntryID : String)
  | settleTokenBillingFromResponseUsage (id : String) (fact : ResponseUsageSettlementFact)
      (consumeEntryID releaseEntryID : String)
  | refundTokenBilling (id providerOrderID : String) (providerAmountSubunits : ℤ)
      (providerTaskStatus : String) (providerTotalTokens : ℤ) (errorText entryID : String)
      (now : Time)
  | finalizeSucceededTaskAndBilling (input : SucceededTaskFinalization) (ids : FinalizationIDs)
      (now : Time)
  | finalizeFailedTaskAndBilling (taskID : String) (task : Task) (action : FailedTaskBillingAction)
      (errorText : String) (outbox : Option TaskOutboxDraft) (ids : FinalizationIDs) (now : Time)
  | grantCreditsOnce (userID : String) (entryType : CreditLedgerType) (amount : ℤ)
      (referenceKey note entryID : String)
  | adjustCredits (userID actorUserID : String) (amount : ℤ) (note entryID : String)
  | redeemCode (userID codeHash redeemedIP entryID : String) (now : Time)
  | grantMembershipSubscriptionCredits (subscriptionID ledgerID : String)
      (ledger : CreditLedgerEntry) (now : Time)
  | fulfillPaymentTransaction (calendar : Calendar) (input : PaymentFulfillment)
  | createTaskWithCreditReservation (taskID : String) (task : Task) (order : BillingOrder)
      (policy : ActiveTaskPolicy) (watermark : String) (month : Month) (ids : CreationIDs)
  | retryTaskWithBilling (userID taskID : String) (order : Option BillingOrder)
      (policy : ActiveTaskPolicy) (watermark : String) (month : Month) (ids : CreationIDs)
  | markBillingRunning (id : String) (now : Time)
  | markBillingUncertain (id errorText : String) (now : Time)
  | beginTokenBillingRequest (id : String) (now : Time)
  | markTokenBillingForReconciliation (id providerTaskID reason : String) (next : Time)

namespace CreditCall

/-- The operation's transaction; results are not looked at here. -/
def prog : CreditCall → DbTx Unit
  | .reserveBillingOrder id order month entryID =>
    HMaigc.reserveBillingOrder id order month entryID
  | .settleBillingOrder id providerRequestID entryID now =>
    HMaigc.settleBillingOrder id providerRequestID entryID now
  | .refundBillingOrder id errorText entryID now =>
    HMaigc.refundBillingOrder id errorText entryID now
  | .settleTokenBilling id fact consumeEntryID releaseEntryID =>
    HMaigc.settleTokenBilling id fact consumeEntryID releaseEntryID
  | .settleTokenBillingFromResponseUsage id fact consumeEntryID releaseEntryID =>
    HMaigc.settleTokenBillingFromResponseUsage id fact consumeEntryID releaseEntryID
  | .refundTokenBilling id providerOrderID providerAmountSubunits providerTaskStatus
      providerTotalTokens errorText entryID now =>
    HMaigc.refundTokenBilling id providerOrderID providerAmountSubunits providerTaskStatus
      providerTotalTokens errorText entryID now
  | .finalizeSucceededTaskAndBilling input ids now =>
    HMaigc.finalizeSucceededTaskAndBilling input ids now
  | .finalizeFailedTaskAndBilling taskID task action errorText outbox ids now =>
    finalizeFailedTaskAndBillingWithOutbox taskID task action errorText outbox ids now
  | .grantCreditsOnce userID entryType amount referenceKey note entryID => do
    let _ ← HMaigc.grantCreditsOnce userID entryType amount referenceKey note entryID
  | .adjustCredits userID actorUserID amount note entryID => do
    let _ ← HMaigc.adjustCredits userID actorUserID amount note entryID
  | .redeemCode userID codeHash redeemedIP entryID now => do
    let _ ← HMaigc.redeemCode userID codeHash redeemedIP entryID now
  | .grantMembershipSubscriptionCredits subscriptionID ledgerID ledger now =>
    HMaigc.grantMembershipSubscriptionCredits subscriptionID ledgerID ledger now
  | .fulfillPaymentTransaction calendar input => do
    let _ ← HMaigc.fulfillPaymentTransaction calendar input
  | .createTaskWithCreditReservation taskID task order policy watermark month ids =>
    HMaigc.createTaskWithCreditReservation taskID task order policy watermark month ids
  | .retryTaskWithBilling userID taskID order policy watermark month ids => do
    let _ ← HMaigc.retryTaskWithBilling userID taskID order policy watermark month ids
  | .markBillingRunning id now => HMaigc.markBillingRunning id now
  | .markBillingUncertain id errorText now => HMaigc.markBillingUncertain id errorText now
  | .beginTokenBillingRequest id now => HMaigc.beginTokenBillingRequest id now
  | .markTokenBillingForReconciliation id providerTaskID reason next =>
    HMaigc.markTokenBillingForReconciliation id providerTaskID reason next

/-- What the callers of the repository promise: a new order is open and its amount is not negative,
a bonus is not negative, and a grant's ledger entry credits its amount to whom it is for. -/
def Promised (s : Store) : CreditCall → Prop
  | .reserveBillingOrder _ order _ _ =>
    order.status.isOpen = true ∧ 0 ≤ order.amountMicrocredits
  | .createTaskWithCreditReservation _ _ order _ _ _ _ =>
    order.status.isOpen = true ∧ 0 ≤ order.amountMicrocredits
  | .retryTaskWithBilling _ _ order _ _ _ _ =>
    ∀ o, order = some o → o.status.isOpen = true ∧ 0 ≤ o.amountMicrocredits
  | .grantCreditsOnce _ _ amount _ _ _ => 0 ≤ amount
  | .grantMembershipSubscriptionCredits subscriptionID _ ledger _ =>
    ledger.IsPlainGrant ∧ MadeOutToSubscriber s subscriptionID ledger
  | .fulfillPaymentTransaction _ input => input.activation.IsPlain
  | _ => True

/-- A token settlement the call makes does not carry the available balance past `int64`. -/
def Fits (s : Store) : CreditCall → Prop
  | .settleTokenBilling id fact _ _ =>
    ∀ settlement, fact.settlement id = .ok settlement → SettlesWithin s id settlement
  | .settleTokenBillingFromResponseUsage id fact _ _ => ResponseSettlesWithin s id fact
  | .finalizeSucceededTaskAndBilling input _ _ => FinalizesWithin s input
  | _ => True

end CreditCall

theorem Conserves.ignore {α : Type} {p : DbTx α} (h : Conserves p) :
    Conserves (do let _ ← p) :=
  h.bind fun _ ↦ .done _

/-- **Step**: every call keeps the books balanced. -/
theorem CreditCall.post_prog {s : Store} (hs : Kept s) (c : CreditCall) (hpromised : c.Promised s)
    (hfits : c.Fits s) : c.prog.Post s fun _ s' ↦ Kept s' := by
  cases c with
  | reserveBillingOrder id order month entryID =>
    rw [prog]
    exact conserves_reserveBillingOrder _ hpromised.1 hpromised.2 _ _ _ s hs
  | settleBillingOrder =>
    rw [prog]
    exact conserves_settleBillingOrder _ _ _ _ s hs
  | refundBillingOrder =>
    rw [prog]
    exact conserves_refundBillingOrder _ _ _ _ s hs
  | settleTokenBilling =>
    rw [prog]
    exact post_settleTokenBilling hs hfits _ _
  | settleTokenBillingFromResponseUsage =>
    rw [prog]
    exact post_settleTokenBillingFromResponseUsageTx hs hfits _ _
  | refundTokenBilling =>
    rw [prog]
    exact conserves_refundTokenBilling _ _ _ _ _ _ _ _ s hs
  | finalizeSucceededTaskAndBilling =>
    rw [prog]
    exact post_finalizeSucceededTaskAndBilling hs hfits _ _
  | finalizeFailedTaskAndBilling =>
    rw [prog]
    exact conserves_finalizeFailedTaskAndBillingWithOutbox _ _ _ _ _ _ _ s hs
  | grantCreditsOnce =>
    rw [prog]
    exact (conserves_grantCreditsOnce _ _ hpromised _ _ _).ignore s hs
  | adjustCredits =>
    rw [prog]
    exact (conserves_adjustCredits _ _ _ _ _).ignore s hs
  | redeemCode =>
    rw [prog]
    exact (conserves_redeemCode _ _ _ _ _).ignore s hs
  | grantMembershipSubscriptionCredits =>
    rw [prog]
    exact post_grantMembershipSubscriptionCredits hs hpromised.1 hpromised.2 _ _
  | fulfillPaymentTransaction =>
    rw [prog]
    exact (conserves_fulfillPaymentTransaction _ hpromised).ignore s hs
  | createTaskWithCreditReservation =>
    rw [prog]
    exact conserves_createTaskWithCreditReservation _ _ hpromised.1 hpromised.2 _ _ _ _ s hs
  | retryTaskWithBilling =>
    rw [prog]
    exact (conserves_retryTaskWithBilling _ _ hpromised _ _ _ _).ignore s hs
  | markBillingRunning =>
    refine Conserves.of_neutral ?_ s hs
    simp +contextual [prog, HMaigc.markBillingRunning, keeps_ite, Neutral]
  | markBillingUncertain =>
    refine Conserves.of_neutral ?_ s hs
    simp +contextual [prog, HMaigc.markBillingUncertain, keeps_ite, Neutral]
  | beginTokenBillingRequest =>
    refine Conserves.of_neutral ?_ s hs
    simp +contextual [prog, HMaigc.beginTokenBillingRequest, keeps_ite, Neutral]
  | markTokenBillingForReconciliation =>
    refine Conserves.of_neutral ?_ s hs
    simp +contextual [prog, HMaigc.markTokenBillingForReconciliation, keeps_ite, Neutral]

/-- Nothing has been credited, and what waits to be credited is not negative. -/
structure Fresh (s : Store) : Prop where
  account : ∀ q a, s.lookup (.creditAccount q) = some a → a = {}
  entry : ∀ b id, s.lookup (.creditLedgerEntry b id) = none
  order : ∀ id, s.lookup (.billingOrder id) = none
  code : ∀ id c, s.lookup (.redeemCode id) = some c → 0 ≤ c.amountMicrocredits
  topup : ∀ id o, s.lookup (.creditTopupOrder id) = some o → 0 ≤ o.totalMicrocredits

theorem Fresh.books_eq {s : Store} (hs : Fresh s) (p : Payer) : books p s = 0 := by
  have haccount : accountOf p s = {} := by
    rw [accountOf]
    cases h : s.lookup (.creditAccount p) with
    | none => rfl
    | some a => rw [hs.account p a h, Option.getD_some]
  have hledger : ∀ f, Db.total (postedBy p f) s = 0 := fun f ↦ by
    refine Db.total_eq_zero _ fun k ↦ ?_
    cases k with
    | creditLedgerEntry b id => exact Db.share_of_none (hs.entry b id)
    | _ => exact Db.share_of_zero (fun _ ↦ rfl) s
  have hheld : Db.total (heldBy p) s = 0 := by
    refine Db.total_eq_zero _ fun k ↦ ?_
    cases k with
    | billingOrder id => exact Db.share_of_none (hs.order id)
    | _ => exact Db.share_of_zero (fun _ ↦ rfl) s
  rw [books, haccount, ledgerAvailable, ledgerReserved, heldByOrders, hledger, hledger, hheld]
  rfl

theorem Fresh.kept {s : Store} (hs : Fresh s) : Kept s where
  conserved p := by
    rw [hs.books_eq p]
    constructor <;> decide
  sound k r hr := by
    cases k with
    | billingOrder id => exact nomatch (hs.order id).symm.trans hr
    | redeemCode id => exact hs.code id r hr
    | creditTopupOrder id => exact hs.topup id r hr
    | _ => trivial

/-- The runs of the operations, with any neutral change of the database in between. -/
abbrev CreditRun (ok : Store → CreditCall → Prop) : Store → Store → Prop :=
  Serial CreditCall.prog (fun c s ↦ ok s c) (RowStep Neutral)

/-- Every account says what its ledger and its open orders say, and is not negative. -/
def AccountsReconcile (s : Store) : Prop :=
  ∀ p account, s.lookup (.creditAccount p) = some account →
    account.availableMicrocredits = ledgerAvailable p s ∧
    account.reservedMicrocredits = ledgerReserved p s ∧
    account.reservedMicrocredits = heldByOrders p s ∧
    0 ≤ account.availableMicrocredits ∧ 0 ≤ account.reservedMicrocredits

theorem Kept.accountsReconcile {s : Store} (hs : Kept s) : AccountsReconcile s := by
  intro p account haccount
  have hb := hs.conserved p
  have havailable := books_available haccount
  have hreserved := books_reserved haccount
  exact ⟨havailable ▸ hb.available, hreserved ▸ hb.reserved, hreserved ▸ hb.held,
    havailable ▸ hb.available_nonneg, hreserved ▸ hb.reserved_nonneg⟩

/-- **Credits are conserved** in every run in which no token settlement overflows. -/
theorem accounts_reconcile {s t : Store} (hs : Fresh s)
    (h : CreditRun (fun s c ↦ c.Promised s ∧ c.Fits s) s t) : AccountsReconcile t := by
  have hkept : Kept t := h.invariant
    (fun c t ht hok ↦ c.post_prog ht hok.1 hok.2) (fun _ _ ht hmove ↦ ht.neutral hmove) hs.kept
  exact hkept.accountsReconcile

theorem fresh_empty : Fresh (∅ : Store) where
  account _ _ h := nomatch (AList.lookup_empty _).symm.trans h
  entry _ _ := AList.lookup_empty _
  order _ := AList.lookup_empty _
  code _ _ h := nomatch (AList.lookup_empty _).symm.trans h
  topup _ _ h := nomatch (AList.lookup_empty _).symm.trans h

/-- A hundred credits reserved for a call that is billed by tokens. -/
def tokenOrder : BillingOrder where
  userID := "u"
  billingMode := "token_usage"
  amountMicrocredits := 100
  reservedAmountMicrocredits := 100

/-- Credits are granted, reserved and consumed. -/
def consumingCalls : List CreditCall :=
  [.adjustCredits "u" "admin" 250 "" "e1",
    .reserveBillingOrder "o" tokenOrder ⟨0, 0⟩ "e2",
    .settleBillingOrder "o" "r" "e3" 1]

theorem accounts_reconcile_consuming :
    AccountsReconcile (replay CreditCall.prog ∅ consumingCalls) := by
  refine accounts_reconcile fresh_empty (serial_of_replay _ _ fun c hc t ↦ ?_)
  simp only [consumingCalls, List.mem_cons, List.not_mem_nil, or_false] at hc
  rcases hc with rfl | rfl | rfl
  · exact ⟨trivial, trivial⟩
  · exact ⟨⟨rfl, by decide⟩, trivial⟩
  · exact ⟨trivial, trivial⟩

/-- The provider reports that nothing was used. -/
def nothingUsed : TokenSettlementFact where
  providerOrderID := "p"
  providerAmountSubunits := 0
  providerTaskStatus := "succeeded"
  providerTotalTokens := 0
  usage := ⟨0, 0, 0⟩
  usageStatus := "missing"
  settledAt := 1

/-- Between the reservation and its release an administrator fills the account up. -/
def overflowingCalls : List CreditCall :=
  [.adjustCredits "u" "admin" 100 "" "e1",
    .reserveBillingOrder "o" tokenOrder ⟨0, 0⟩ "e2",
    .adjustCredits "u" "admin" maxInt64 "" "e3",
    .settleTokenBilling "o" nothingUsed "e4" "e5"]

theorem lookup_overflowed : (replay CreditCall.prog ∅ overflowingCalls).lookup
    (.creditAccount (.user "u")) = some ⟨-9223372036854775709, 0⟩ := by
  decide

/-- **Not every run conserves credits**: after the returned reservation the balance is negative. -/
theorem overflowingCalls_not_reconciled :
    CreditRun (fun s c ↦ c.Promised s) ∅ (replay CreditCall.prog ∅ overflowingCalls) ∧
      ¬AccountsReconcile (replay CreditCall.prog ∅ overflowingCalls) := by
  refine ⟨serial_of_replay _ _ fun c hc t ↦ ?_, fun h ↦ ?_⟩
  · simp only [overflowingCalls, List.mem_cons, List.not_mem_nil, or_false] at hc
    rcases hc with rfl | rfl | rfl | rfl
    · trivial
    · exact ⟨rfl, by decide⟩
    · trivial
    · trivial
  · obtain ⟨-, -, -, hnonneg, -⟩ := h _ _ lookup_overflowed
    exact absurd hnonneg (by decide)

end HMaigc
