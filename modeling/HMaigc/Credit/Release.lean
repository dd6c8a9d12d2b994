import HMaigc.Sql.Contract
import HMaigc.Repository.Footprint

/-!
# Releasing a reservation once

A billing order is open while its amount is held in its payer's reserve, and closing it — settling or
refunding — takes the amount out of the reserve.  Seven operations close orders, and any number of
them run at once under READ COMMITTED.

* `OrderStep` — what all of them do to the rows of orders: an order never opens again, and never
  changes its payer, or its amount while it is open.
* `ReleasedOnce` — what the history of one order must be like.
* `Pays`, `Idle` — the two ways a closing transaction may be about to commit.  A payment is one that
  commits well if the order is still open then (`commits_of_pays`).
* `order_releasedOnce` — the finalizations and the token settlements lock the order before they look
  at its status, so nobody else can close it under them.  `SettleBillingOrder` and
  `RefundBillingOrder` look at it without a lock, and update it by its identifier alone: they need
  the order to be open still when they commit (`undisturbed`).
* `exists_run_releasing_twice` — otherwise an order is settled and refunded, as long as the payer has
  something else in reserve.
-/

set_option autoImplicit false

namespace HMaigc

open Sql Go Prog

/-! ## Orders only ever close -/

/-- What a call that may close the order `target`, and no other, does to a row. -/
def OrderStep (target : Option String) : ∀ k, Option (Row k) → Row k → Prop
  | .billingOrder id, old, o => ∀ o', old = some o' → o.payer = o'.payer ∧
      (o.status.isOpen = true →
        o'.status.isOpen = true ∧ o.amountMicrocredits = o'.amountMicrocredits) ∧
      (target ≠ some id → o.status.isOpen = o'.status.isOpen ∧
        (o'.status.isOpen = false → o.status = o'.status))
  | .creditAccount _, _, a => IsInt64 a.reservedMicrocredits
  | _, _, _ => True

attribute [local simp] OrderStep

theorem rowTrans_orderStep (target : Option String) : RowTrans (OrderStep target) := by
  intro k o r r' h h'
  cases k with
  | billingOrder id =>
    intro o' ho'
    obtain ⟨hpayer, hopen, hother⟩ := h o' ho'
    obtain ⟨hpayer', hopen', hother'⟩ := h' r rfl
    refine ⟨hpayer'.trans hpayer, fun hr' ↦ ?_, fun hne ↦ ?_⟩
    · obtain ⟨hr, hamount⟩ := hopen' hr'
      exact ⟨(hopen hr).1, hamount.trans (hopen hr).2⟩
    · obtain ⟨hiff, hstatus⟩ := hother hne
      obtain ⟨hiff', hstatus'⟩ := hother' hne
      exact ⟨hiff'.trans hiff, fun hclosed ↦
        (hstatus' (hiff.trans hclosed)).trans (hstatus hclosed)⟩
  | creditAccount p => exact h'
  | _ => trivial

/-- The columns that say for whom an order was made, and when. -/
def BillingOrder.origin (order : BillingOrder) : String × String × Time :=
  (order.teamID, order.userID, order.createdAt)

namespace BillingOrder

variable (order row : BillingOrder) (settlement : TokenBillingSettlement)
  (text reason : String) (amount tokens : ℤ) (now : Time)

@[simp] theorem settle_origin : (order.settle text now).origin = order.origin := rfl

@[simp] theorem refund_origin : (order.refund text now).origin = order.origin := rfl

@[simp] theorem uncertain_origin : (row.uncertain order text now).origin = row.origin := rfl

@[simp] theorem settleToken_origin : (order.settleToken settlement).origin = order.origin := rfl

@[simp] theorem overReservation_origin :
    (order.overReservation settlement).origin = order.origin := rfl

@[simp] theorem observeNoCharge_origin :
    (order.observeNoCharge text amount reason tokens).origin = order.origin := rfl

@[simp] theorem reportCompletion_origin (usage : Option TokenUsageFact) :
    (order.reportCompletion text usage).origin = order.origin := rfl

@[simp] theorem noteError_origin : (order.noteError text).origin = order.origin := rfl

end BillingOrder

theorem BillingOrder.payer_eq_of_origin {o o' : BillingOrder} (h : o.origin = o'.origin) :
    o.payer = o'.payer := by
  simp only [origin, Prod.mk.injEq] at h
  rw [payer, payer, h.1, h.2.1]

/-- As `OrderStep`, and what else a call that closes an order writes to one: it may leave `charge` as
the amount of the order it closes, and of no other, and it leaves the members of teams alone. -/
def OrderWrite (target : Option String) (charge : Option ℤ) : ∀ k, Option (Row k) → Row k → Prop
  | .billingOrder id, old, o => ∃ o', old = some o' ∧ o.origin = o'.origin ∧
      (o.status.isOpen = true →
        o'.status.isOpen = true ∧ o.amountMicrocredits = o'.amountMicrocredits) ∧
      (target ≠ some id → o.status.isOpen = o'.status.isOpen ∧
        (o'.status.isOpen = false → o.status = o'.status) ∧
        o.amountMicrocredits = o'.amountMicrocredits) ∧
      (o.amountMicrocredits = o'.amountMicrocredits ∨ charge = some o.amountMicrocredits)
  | .creditAccount _, _, a => IsInt64 a.reservedMicrocredits
  | .teamMember _ _, _, _ => False
  | _, _, _ => True

theorem orderStep_of_orderWrite {target : Option String} {charge : Option ℤ} (k : RowKey)
    (old : Option (Row k)) (r : Row k) (h : OrderWrite target charge k old r) :
    OrderStep target k old r := by
  cases k with
  | billingOrder id =>
    intro o ho
    obtain ⟨o', ho', horigin, hopen, hother, -⟩ := h
    cases ho.symm.trans ho'
    exact ⟨BillingOrder.payer_eq_of_origin horigin, hopen, fun hne ↦
      ⟨(hother hne).1, (hother hne).2.1⟩⟩
  | creditAccount p => exact h
  | teamMember => exact h.elim
  | _ => trivial

/-- The amount a token settlement charges. -/
def chargeOf (settlement : Except RepoError TokenBillingSettlement) : Option ℤ :=
  settlement.toOption.map (·.amountMicrocredits)

attribute [local simp] OrderWrite

section Keeps

variable (target : Option String) (charge : Option ℤ)

theorem orderWrite_of_taskSide {α : Type} {p : DbTx α} (h : p.WritesOnly (·.isTaskSide)) :
    p.Keeps (OrderWrite target charge) fun _ ↦ True :=
  h.imp fun k old new hk ↦ by
    cases k with
    | billingOrder id => cases hk
    | creditAccount p => cases hk
    | teamMember team user => cases hk
    | _ => trivial

theorem orderWrite_settleReservation (id : String) (order : BillingOrder)
    (providerRequestID entryID : String) (now : Time) :
    (settleReservation id order providerRequestID entryID now).Keeps (OrderWrite (some id) charge)
      fun _ ↦ True := by
  simp [settleReservation, readAccount, createLedgerEntry, keeps_ite]
  exact fun _ _ _ hmove ↦ (CreditAccount.move_ok hmove).2.2.2

theorem orderWrite_refundBillingOrderTx (id : String) (order : BillingOrder)
    (errorText entryID : String) (now : Time) :
    (refundBillingOrderTx id order errorText entryID now).Keeps (OrderWrite (some id) charge)
      fun _ ↦ True := by
  simp [refundBillingOrderTx, readAccount, createLedgerEntry, keeps_ite]
  exact fun _ _ _ hmove ↦ (CreditAccount.move_ok hmove).2.2.2

theorem orderWrite_settleBillingOrder (id providerRequestID entryID : String) (now : Time) :
    (settleBillingOrder id providerRequestID entryID now).Keeps (OrderWrite (some id) charge)
      fun _ ↦ True := by
  simp [settleBillingOrder, keeps_ite, orderWrite_settleReservation]

theorem orderWrite_refundBillingOrder (id errorText entryID : String) (now : Time) :
    (refundBillingOrder id errorText entryID now).Keeps (OrderWrite (some id) charge)
      fun _ ↦ True := by
  simp [refundBillingOrder, keeps_ite, orderWrite_refundBillingOrderTx]

theorem orderWrite_settleAccountTokenBillingTx (payer : Payer) (id : String) (order : BillingOrder)
    (settlement : TokenBillingSettlement) (reservedAmount : ℤ)
    (consumeEntryID releaseEntryID : String) :
    (settleAccountTokenBillingTx payer id order settlement reservedAmount consumeEntryID
      releaseEntryID).Keeps (OrderWrite (some id) (some settlement.amountMicrocredits))
        fun _ ↦ True := by
  simp [settleAccountTokenBillingTx, updateSettledTokenOrderTx, createLedgerEntry, keeps_ite,
    CreditAccount.settleToken]
  exact fun _ _ _ _ ↦ isInt64_wrap64 _

theorem orderWrite_markTokenBillingOverReservationTx (id : String)
    (settlement : TokenBillingSettlement) :
    (markTokenBillingOverReservationTx id settlement).Keeps (OrderWrite target charge)
      fun _ ↦ True := by
  simp +contextual [markTokenBillingOverReservationTx, keeps_ite]

theorem orderWrite_settleTokenBillingTx (id : String) (settlement : TokenBillingSettlement)
    (above : Bool) (consumeEntryID releaseEntryID : String) :
    (settleTokenBillingTx id settlement above consumeEntryID releaseEntryID).Keeps
      (OrderWrite (some id) (some settlement.amountMicrocredits)) fun _ ↦ True := by
  simp [settleTokenBillingTx, keeps_ite, settleTeamTokenBillingTx, settlePersonalTokenBillingTx,
    orderWrite_settleAccountTokenBillingTx, orderWrite_markTokenBillingOverReservationTx]

theorem orderWrite_settleTokenBillingFromResponseUsageTx (id : String)
    (fact : ResponseUsageSettlementFact) (consumeEntryID releaseEntryID : String) :
    (settleTokenBillingFromResponseUsageTx id fact consumeEntryID releaseEntryID).Keeps
      (OrderWrite (some (trimSpace id)) (chargeOf (fact.settlement id))) fun _ ↦ True := by
  unfold settleTokenBillingFromResponseUsageTx
  cases fact.settlement id with
  | error e => simp
  | ok settlement => exact orderWrite_settleTokenBillingTx _ _ _ _ _

theorem orderWrite_settleTokenBilling (id : String) (fact : TokenSettlementFact)
    (consumeEntryID releaseEntryID : String) :
    (settleTokenBilling id fact consumeEntryID releaseEntryID).Keeps
      (OrderWrite (some id) (chargeOf (fact.settlement id))) fun _ ↦ True := by
  unfold settleTokenBilling
  cases fact.settlement id with
  | error e => simp
  | ok settlement => exact orderWrite_settleTokenBillingTx _ _ _ _ _

theorem orderWrite_refundTokenBilling (id providerOrderID : String) (providerAmountSubunits : ℤ)
    (providerTaskStatus : String) (providerTotalTokens : ℤ) (errorText entryID : String)
    (now : Time) :
    (refundTokenBilling id providerOrderID providerAmountSubunits providerTaskStatus
      providerTotalTokens errorText entryID now).Keeps (OrderWrite (some id) charge) fun _ ↦ True := by
  simp [refundTokenBilling, keeps_ite, orderWrite_refundBillingOrderTx]

theorem orderWrite_finalizeUncertainTx (orderID : String) (order : BillingOrder)
    (input : SucceededTaskFinalization) (now : Time) :
    (finalizeUncertainTx orderID order input now).Keeps (OrderWrite target charge) fun _ ↦ True := by
  simp [finalizeUncertainTx, keeps_ite]
  rintro _ _ _ _ row (h | h) <;> simp [h]

/-- The amount a successful finalization charges, if not the reserved one. -/
def SucceededTaskFinalization.charges (input : SucceededTaskFinalization) : Option ℤ :=
  match input.billingAction with
  | .settleFromUsage => input.responseUsageSettlement.bind fun fact ↦
      chargeOf (fact.settlement input.task.billingOrderID)
  | _ => none

/-- The order a successful finalization settles. -/
def SucceededTaskFinalization.releases (input : SucceededTaskFinalization) : Option String :=
  match input.billingAction with
  | .settle => some input.task.billingOrderID
  | .settleFromUsage => some (trimSpace input.task.billingOrderID)
  | _ => none

theorem orderWrite_finalizeSucceededBillingTx (input : SucceededTaskFinalization)
    (ids : FinalizationIDs) (now : Time) :
    (finalizeSucceededBillingTx input ids now).Keeps (OrderWrite input.releases input.charges)
      fun _ ↦ True := by
  rw [finalizeSucceededBillingTx, SucceededTaskFinalization.releases,
    SucceededTaskFinalization.charges]
  cases input.billingAction with
  | settle => simp [keeps_ite, orderWrite_settleBillingOrder]
  | settleFromUsage =>
    cases input.responseUsageSettlement with
    | none => simp [keeps_ite]
    | some fact => simp [keeps_ite, orderWrite_settleTokenBillingFromResponseUsageTx]
  | uncertain => simp [keeps_ite, orderWrite_finalizeUncertainTx]
  | other action => simp [keeps_ite]

theorem orderWrite_finalizeSucceededTaskAndBilling (input : SucceededTaskFinalization)
    (ids : FinalizationIDs) (now : Time) :
    (finalizeSucceededTaskAndBilling input ids now).Keeps (OrderWrite input.releases input.charges)
      fun _ ↦ True := by
  have hcomplete := orderWrite_of_taskSide input.releases input.charges
    (writes_completeSucceededTask input ids now)
  have hbilling := orderWrite_finalizeSucceededBillingTx input ids now
  rw [finalizeSucceededTaskAndBilling, keeps_ite]
  exact ⟨fun _ ↦ by simp, fun _ ↦ hbilling.bind fun _ ↦ hcomplete⟩

/-- The order a finalization with a failure refunds. -/
def failureReleases (task : Task) : FailedTaskBillingAction → Option String
  | .refund => some task.billingOrderID
  | _ => none

theorem orderWrite_finalizeFailedBillingTx (task : Task) (taskID : String)
    (action : FailedTaskBillingAction) (errorText entryID : String) (now : Time) :
    (finalizeFailedBillingTx task.billingOrderID taskID task.providerRequestID action errorText
      entryID now).Keeps (OrderWrite (failureReleases task action) charge) fun _ ↦ True := by
  rw [finalizeFailedBillingTx]
  cases action with
  | refund => simp [keeps_ite, failureReleases, orderWrite_refundBillingOrderTx]
  | uncertain =>
    simp [keeps_ite]
    refine fun _ order _ ↦ ⟨fun _ row h ↦ ?_, fun _ row h ↦ ?_⟩
    · simp [h]
    · rcases h with h | h <;> simp [h]
  | other action => simp [keeps_ite]

theorem orderWrite_finalizeFailedTaskAndBillingWithOutbox (taskID : String) (task : Task)
    (action : FailedTaskBillingAction) (errorText : String) (outbox : Option TaskOutboxDraft)
    (ids : FinalizationIDs) (now : Time) :
    (finalizeFailedTaskAndBillingWithOutbox taskID task action errorText outbox ids now).Keeps
      (OrderWrite (failureReleases task action) charge) fun _ ↦ True := by
  have hcomplete := orderWrite_of_taskSide (failureReleases task action) charge
    (writes_completeFailedTask taskID task outbox ids.outbox now)
  have hbilling := orderWrite_finalizeFailedBillingTx charge task taskID action errorText ids.entry now
  rw [finalizeFailedTaskAndBillingWithOutbox, keeps_ite]
  exact ⟨fun _ ↦ by simp, fun _ ↦ hbilling.bind fun _ ↦ hcomplete⟩

end Keeps

/-! ## Calls -/

/-- A call that may close an order, or any other transaction that closes none. -/
inductive ReleaseCall where
  | settleBillingOrder (id providerRequestID entryID : String) (now : Time)
  | refundBillingOrder (id errorText entryID : String) (now : Time)
  | finalizeSucceededTaskAndBilling (input : SucceededTaskFinalization) (ids : FinalizationIDs)
      (now : Time)
  | finalizeFailedTaskAndBilling (taskID : String) (task : Task) (action : FailedTaskBillingAction)
      (errorText : String) (outbox : Option TaskOutboxDraft) (ids : FinalizationIDs) (now : Time)
  | settleTokenBilling (id : String) (fact : TokenSettlementFact)
      (consumeEntryID releaseEntryID : String)
  | settleTokenBillingFromResponseUsage (id : String) (fact : ResponseUsageSettlementFact)
      (consumeEntryID releaseEntryID : String)
  | refundTokenBilling (id providerOrderID : String) (providerAmountSubunits : ℤ)
      (providerTaskStatus : String) (providerTotalTokens : ℤ) (errorText entryID : String)
      (now : Time)
  | other (p : DbTx Unit) (hp : p.Keeps (OrderStep none) fun _ ↦ True)

namespace ReleaseCall

def prog : ReleaseCall → DbTx Unit
  | .settleBillingOrder id providerRequestID entryID now =>
    HMaigc.settleBillingOrder id providerRequestID entryID now
  | .refundBillingOrder id errorText entryID now =>
    HMaigc.refundBillingOrder id errorText entryID now
  | .finalizeSucceededTaskAndBilling input ids now =>
    HMaigc.finalizeSucceededTaskAndBilling input ids now
  | .finalizeFailedTaskAndBilling taskID task action errorText outbox ids now =>
    finalizeFailedTaskAndBillingWithOutbox taskID task action errorText outbox ids now
  | .settleTokenBilling id fact consumeEntryID releaseEntryID =>
    HMaigc.settleTokenBilling id fact consumeEntryID releaseEntryID
  | .settleTokenBillingFromResponseUsage id fact consumeEntryID releaseEntryID =>
    HMaigc.settleTokenBillingFromResponseUsage id fact consumeEntryID releaseEntryID
  | .refundTokenBilling id providerOrderID providerAmountSubunits providerTaskStatus
      providerTotalTokens errorText entryID now =>
    HMaigc.refundTokenBilling id providerOrderID providerAmountSubunits providerTaskStatus
      providerTotalTokens errorText entryID now
  | .other p _ => p

/-- The order the call may release. -/
def releases : ReleaseCall → Option String
  | .settleBillingOrder id _ _ _ => some id
  | .refundBillingOrder id _ _ _ => some id
  | .finalizeSucceededTaskAndBilling input _ _ => input.releases
  | .finalizeFailedTaskAndBilling _ task action _ _ _ _ => failureReleases task action
  | .settleTokenBilling id _ _ _ => some id
  | .settleTokenBillingFromResponseUsage id _ _ _ => some (trimSpace id)
  | .refundTokenBilling id _ _ _ _ _ _ _ => some id
  | .other _ _ => none

/-- The order the call reads without a lock and releases. -/
def readsUnlocked : ReleaseCall → Option String
  | .settleBillingOrder id _ _ _ => some id
  | .refundBillingOrder id _ _ _ => some id
  | _ => none

/-- The amount the call leaves as the amount of the order it settles, if it changes it. -/
def charges : ReleaseCall → Option ℤ
  | .finalizeSucceededTaskAndBilling input _ _ => input.charges
  | .settleTokenBilling id fact _ _ => chargeOf (fact.settlement id)
  | .settleTokenBillingFromResponseUsage id fact _ _ => chargeOf (fact.settlement id)
  | _ => none

/-- The call is one of the seven operations. -/
def isNamed : ReleaseCall → Bool
  | .other _ _ => false
  | _ => true

theorem keeps_orderWrite (c : ReleaseCall) (hc : c.isNamed = true) :
    c.prog.Keeps (OrderWrite c.releases c.charges) fun _ ↦ True := by
  cases c with
  | settleBillingOrder => exact orderWrite_settleBillingOrder _ _ _ _ _
  | refundBillingOrder => exact orderWrite_refundBillingOrder _ _ _ _ _
  | finalizeSucceededTaskAndBilling => exact orderWrite_finalizeSucceededTaskAndBilling _ _ _
  | finalizeFailedTaskAndBilling =>
    exact orderWrite_finalizeFailedTaskAndBillingWithOutbox _ _ _ _ _ _ _ _
  | settleTokenBilling => exact orderWrite_settleTokenBilling _ _ _ _
  | settleTokenBillingFromResponseUsage =>
    exact orderWrite_settleTokenBillingFromResponseUsageTx _ _ _ _
  | refundTokenBilling => exact orderWrite_refundTokenBilling _ _ _ _ _ _ _ _ _
  | other => cases hc

theorem keeps_prog (c : ReleaseCall) : c.prog.Keeps (OrderStep c.releases) fun _ ↦ True := by
  cases hc : c.isNamed with
  | true => exact (c.keeps_orderWrite hc).imp orderStep_of_orderWrite
  | false =>
    cases c with
    | other p hp => exact hp
    | _ => cases hc

end ReleaseCall

/-! ## The history of an order -/

/-- The order is there, and its reservation is held. -/
def IsOpen (id : String) (s : Store) : Prop :=
  ∃ o, s.lookup (.billingOrder id) = some o ∧ o.status.isOpen = true

/-- The order is there, and its reservation has been released. -/
def IsClosed (id : String) (s : Store) : Prop :=
  ∃ o, s.lookup (.billingOrder id) = some o ∧ o.status.isOpen = false

/-- What an account holds in reserve, if it is there. -/
def reservedOf (p : Payer) (s : Store) : Option ℤ :=
  (s.lookup (.creditAccount p)).map (·.reservedMicrocredits)

/-- The amount of the order left its payer's reserve. -/
def TakesReservation (id : String) (s s' : Store) : Prop :=
  ∃ o reserved, s.lookup (.billingOrder id) = some o ∧ reservedOf o.payer s = some reserved ∧
    reservedOf o.payer s' = some (reserved - o.amountMicrocredits)

/-- The payer's reserve is what it was, and so is the order if it was closed. -/
def Leaves (id : String) (s s' : Store) : Prop :=
  ∀ o, s.lookup (.billingOrder id) = some o → reservedOf o.payer s' = reservedOf o.payer s ∧
    ∃ o', s'.lookup (.billingOrder id) = some o' ∧ o'.status.isOpen = o.status.isOpen ∧
      (o.status.isOpen = false → o'.status = o.status)

/-- The transaction moved the order out of the open statuses. -/
def Closes (id : String) (e : Ended ReleaseCall Row Unit) : Prop :=
  IsOpen id e.before ∧ IsClosed id e.after

/-- What holds of all transactions together when each order is released once. -/
structure ReleasedOnce (id : String) (log : List (Ended ReleaseCall Row Unit)) : Prop where
  /-- At most one transaction closes the order. -/
  once : log.Pairwise fun e e' ↦ ¬(Closes id e ∧ Closes id e')
  /-- It takes the amount out of the payer's reserve. -/
  released : ∀ e ∈ log, Closes id e → TakesReservation id e.before e.after
  /-- The other calls that are to release the order take nothing. -/
  untouched : ∀ e ∈ log, e.call.releases = some id → ¬Closes id e →
    ∀ o, e.before.lookup (.billingOrder id) = some o →
      reservedOf o.payer e.after = reservedOf o.payer e.before
  /-- A settled order is not refunded, nor a refunded one settled. -/
  final : ∀ e ∈ log, ∀ o, e.before.lookup (.billingOrder id) = some o →
    o.status.isOpen = false → ∃ o', e.after.lookup (.billingOrder id) = some o' ∧
      o'.status = o.status

/-! ## The contract -/

/-- What the transactions promise one another about the order `id`. -/
def releaseContract (id : String) : Contract RowKey ReleaseCall Row Unit where
  inv s := ∀ p a, s.lookup (.creditAccount p) = some a → IsInt64 a.reservedMicrocredits
  row c := OrderStep c.releases
  post c _ _ s s' := c.releases = some id →
    Leaves id s s' ∨ IsOpen id s ∧ IsClosed id s' ∧ TakesReservation id s s'

/-- The runs in which a call that has read the order without a lock, and has found it open, commits
only while it still is. -/
def undisturbed (id : String) : System ReleaseCall Row RepoError Unit where
  prog := ReleaseCall.prog
  admits c ws s := c.readsUnlocked = some id → ws ≠ [] → IsOpen id s

section Contract

variable {id : String} {locks : List RowKey} {ws : List (Sigma Row)} {s t : Store}

theorem inv_of_rowStep {c : ReleaseCall} (hs : (releaseContract id).inv s)
    (h : RowStep (OrderStep c.releases) s t) : (releaseContract id).inv t := by
  intro p a ha
  rcases h (.creditAccount p) with heq | ⟨a', ha', hint⟩
  · exact hs p a (heq ▸ ha)
  · rw [ha'] at ha
    cases ha
    exact hint

/-- The order's row now, as far as a transaction that has read `order` some time ago knows it. -/
def ReadBefore (id : String) (order : BillingOrder) (s : Store) : Prop :=
  ∃ o, s.lookup (.billingOrder id) = some o ∧ o.payer = order.payer ∧
    (o.status.isOpen = true → o.amountMicrocredits = order.amountMicrocredits)

theorem ReadBefore.rely {order : BillingOrder} (h : ReadBefore id order s)
    (hr : (releaseContract id).Rely locks s t) : ReadBefore id order t := by
  refine hr.lift (P := fun s t ↦ ReadBefore id order s → ReadBefore id order t)
    (fun _ h ↦ h) (fun _ _ _ h h' hs ↦ h' (h hs)) (fun c _ _ s t _ hcommit hs ↦ ?_) h
  obtain ⟨o, ho, hpayer, hamount⟩ := hs
  rcases hcommit.row (.billingOrder id) with heq | ⟨o', ho', hstep⟩
  · exact ⟨o, heq.trans ho, hpayer, hamount⟩
  · obtain ⟨hpayer', hopen', -⟩ := hstep o ho
    exact ⟨o', ho', hpayer'.trans hpayer, fun hopen ↦
      (hopen' hopen).2.trans (hamount (hopen' hopen).1)⟩

/-- The rows that releasing an order moves. -/
def RowKey.isBalance : RowKey → Bool
  | .creditAccount _ | .billingOrder _ => true
  | _ => false

/-- The pending writes close the order, and take its amount out of the payer's reserve. -/
def Pays (id : String) (locks : List RowKey) (ws : List (Sigma Row)) (s : Store) : Prop :=
  ∃ o o' a a', Pinned locks ws s (.billingOrder id) (some o) (some o') ∧
    Pinned locks ws s (.creditAccount o.payer) (some a) (some a') ∧ o'.status.isOpen = false ∧
    (o.status.isOpen = true →
      a'.reservedMicrocredits = a.reservedMicrocredits - o.amountMicrocredits)

/-- The pending writes touch no account, and leave the order open if they touch it. -/
def Idle (id : String) (locks : List RowKey) (ws : List (Sigma Row)) (s : Store) : Prop :=
  (∀ p, .creditAccount p ∉ keysOf ws) ∧ (.billingOrder id ∉ keysOf ws ∨
    ∃ o o', Pinned locks ws s (.billingOrder id) (some o) (some o') ∧ o.status.isOpen = true ∧
      o'.status.isOpen = true)

theorem Pays.rely (h : Pays id locks ws s) (hr : (releaseContract id).Rely locks s t) :
    Pays id locks ws t := by
  obtain ⟨o, o', a, a', horder, haccount, h⟩ := h
  exact ⟨o, o', a, a', horder.rely hr, haccount.rely hr, h⟩

theorem Pays.append (h : Pays id locks ws s) {locks' : List RowKey} {ws' : List (Sigma Row)}
    (hlocks : locks ⊆ locks') (hws : ∀ k ∈ keysOf ws', k.isBalance = false) :
    Pays id locks' (ws ++ ws') s := by
  obtain ⟨o, o', a, a', horder, haccount, h⟩ := h
  refine ⟨o, o', a, a', horder.append hlocks fun hk ↦ ?_, haccount.append hlocks fun hk ↦ ?_, h⟩
  · exact Bool.false_ne_true (hws _ hk).symm
  · exact Bool.false_ne_true (hws _ hk).symm

/-- What comes after the account and the order. -/
theorem Pays.tail {α : Type} {p : DbTx α} (h : Pays id locks ws s)
    (hs : (releaseContract id).inv s) (hp : p.WritesOnly (·.isBalance = false)) :
    p.Meets (releaseContract id) (fun _ locks ws s ↦ Pays id locks ws s) locks ws s :=
  meets_of_writesOnly hp hs fun _ _ _ _ hlocks hws hr ↦ (h.rely hr).append hlocks hws

/-- `tx.Model(&account).Where("reserved_microcredits >= ?")…`, then the order, then the ledger: the
common text of `SettleBillingOrder` and `refundBillingOrderTx`. -/
theorem meets_release {order : BillingOrder} (hread : ReadBefore id order s)
    (hws : ∀ p, .creditAccount p ∉ keysOf ws) {x : ℤ} {e : RepoError}
    {close : BillingOrder → BillingOrder} (hclose : ∀ o, (close o).status.isOpen = false)
    {entryID : String} {entry : CreditAccount → CreditLedgerEntry} :
    (do
      let updated ← Prog.update (.creditAccount order.payer)
        (fun a ↦ order.amountMicrocredits ≤ a.reservedMicrocredits)
        fun a ↦ a.move x (-order.amountMicrocredits)
      if updated ≠ 1 then throw e
      let account ← readAccount order.payer
      let _ ← Prog.update (.billingOrder id) (fun _ ↦ true) fun o ↦ .ok (close o)
      createLedgerEntry entryID (entry account) : DbTx Unit).Meets (releaseContract id)
        (fun _ locks ws s ↦ Pays id locks ws s) locks ws s := by
  simp only [meets_bind]
  refine meets_update (fun s₁ hs₁ a ha _ a' hmove ↦ ?_) fun _ _ _ ↦ by simp
  refine meets_ite (fun h ↦ absurd rfl h) fun _ ↦ ?_
  rw [meets_bind, readAccount]
  refine meets_first (k := RowKey.creditAccount order.payer) fun s₂ hs₂ _ _ ↦ ?_
  rw [meets_bind]
  have hread₁ := hread.rely hs₁
  have haccount : Pinned (locks ++ [.creditAccount order.payer])
      (ws ++ [⟨.creditAccount order.payer, a'⟩]) s₁ (.creditAccount order.payer) (some a)
      (some a') :=
    .write (by rwa [Db.lookup_apply_of_notMem (hws _)] at ha) (by simp) a'
  refine meets_update (fun s₃ hs₃ o ho _ o' ho' ↦ ?_) fun s₃ hs₃ hnone ↦ ?_
  · cases ho'
    obtain ⟨row, hrow, hpayer, hamount⟩ := (hread₁.rely hs₂).rely hs₃
    have hpays : Pays id (locks ++ [.creditAccount order.payer] ++ [.billingOrder id])
        (ws ++ [⟨.creditAccount order.payer, a'⟩] ++ [⟨.billingOrder id, close o⟩]) s₃ := by
      refine ⟨row, close o, a, a', .write hrow (by simp) _, ?_, hclose o, fun hopen ↦ ?_⟩
      · rw [hpayer]
        exact ((haccount.rely hs₂).rely hs₃).append (by simp) (by simp [keysOf])
      · rw [(CreditAccount.move_ok hmove).2.1, hamount hopen, sub_eq_add_neg]
    exact hpays.tail hs₃.2 (by simp [createLedgerEntry, RowKey.isBalance])
  · obtain ⟨row, hrow, -⟩ := (hread₁.rely hs₂).rely hs₃
    obtain ⟨row', hrow'⟩ := Db.exists_lookup_apply _ hrow
    exact absurd (hnone row' hrow') (by simp)

theorem Idle.rely (h : Idle id locks ws s) (hr : (releaseContract id).Rely locks s t) :
    Idle id locks ws t := by
  refine ⟨h.1, h.2.imp_right ?_⟩
  rintro ⟨o, o', horder, h⟩
  exact ⟨o, o', horder.rely hr, h⟩

theorem Idle.append (h : Idle id locks ws s) {locks' : List RowKey} {ws' : List (Sigma Row)}
    (hlocks : locks ⊆ locks') (hws : ∀ k ∈ keysOf ws', k.isBalance = false) :
    Idle id locks' (ws ++ ws') s := by
  have hnot : ∀ k : RowKey, k.isBalance = true → k ∉ keysOf ws' := fun k hk hmem ↦ by
    rw [hws k hmem] at hk
    cases hk
  have hkeys : ∀ k, k ∈ keysOf (ws ++ ws') ↔ k ∈ keysOf ws ∨ k ∈ keysOf ws' := by simp [keysOf]
  refine ⟨fun p ↦ ?_, h.2.imp (fun horder ↦ ?_) ?_⟩
  · rw [hkeys, not_or]
    exact ⟨h.1 p, hnot _ rfl⟩
  · rw [hkeys, not_or]
    exact ⟨horder, hnot _ rfl⟩
  · rintro ⟨o, o', horder, h⟩
    exact ⟨o, o', horder.append hlocks (hnot _ rfl), h⟩

theorem idle_nil : Idle id locks [] s := ⟨by simp [keysOf], .inl (by simp [keysOf])⟩

theorem Idle.leaves (h : Idle id locks ws s) : Leaves id s (s.apply ws) := by
  intro o ho
  refine ⟨by rw [reservedOf, Db.lookup_apply_of_notMem (h.1 _), reservedOf], ?_⟩
  rcases h.2 with hnot | ⟨o₁, o', horder, hopen, hopen'⟩
  · exact ⟨o, by rw [Db.lookup_apply_of_notMem hnot, ho], rfl, fun _ ↦ rfl⟩
  · cases horder.committed.symm.trans ho
    exact ⟨o', horder.view, hopen'.trans hopen.symm, fun hclosed ↦ by simp [hopen] at hclosed⟩

theorem commits_of_idle {c : ReleaseCall} (h : Idle id locks ws s) :
    Commits (undisturbed id) (releaseContract id) c () locks ws s :=
  fun _ ht _ _ hrow ↦ ⟨fun _ ↦ .inl (h.rely ht).leaves, inv_of_rowStep ht.2 hrow⟩

/-- **A transaction that pays commits well if the order is still open then.** -/
theorem commits_of_pays {c : ReleaseCall} (h : Pays id locks ws s)
    (hopen : ∀ t, (releaseContract id).Rely locks s t → (undisturbed id).admits c ws t →
      IsOpen id t) :
    Commits (undisturbed id) (releaseContract id) c () locks ws s := by
  intro t ht hadm _ hrow
  refine ⟨fun _ ↦ .inr ?_, inv_of_rowStep ht.2 hrow⟩
  obtain ⟨o₁, ho₁, hopen₁⟩ := hopen t ht hadm
  obtain ⟨o, o', a, a', horder, haccount, hclosed, hpaid⟩ := h.rely ht
  cases horder.committed.symm.trans ho₁
  refine ⟨⟨o₁, ho₁, hopen₁⟩, ⟨o', horder.view, hclosed⟩, o₁, a.reservedMicrocredits, ho₁, ?_, ?_⟩
  · simp [reservedOf, haccount.committed]
  · simp [reservedOf, haccount.view, hpaid hopen₁]

/-! ## Every call meets the contract -/

theorem meets_settleReservation {order : BillingOrder} (hread : ReadBefore id order s)
    (providerRequestID entryID : String) (now : Time) :
    (settleReservation id order providerRequestID entryID now).Meets (releaseContract id)
      (fun _ locks ws s ↦ Pays id locks ws s) locks [] s := by
  rw [settleReservation]
  exact meets_release hread (by simp [keysOf]) fun _ ↦ rfl

theorem meets_refundBillingOrderTx {order : BillingOrder} (hread : ReadBefore id order s)
    (hws : ∀ p, .creditAccount p ∉ keysOf ws) (errorText entryID : String) (now : Time) :
    (refundBillingOrderTx id order errorText entryID now).Meets (releaseContract id)
      (fun _ locks ws s ↦ Pays id locks ws s) locks ws s := by
  rw [refundBillingOrderTx]
  exact meets_release hread hws fun _ ↦ rfl

/-- `SettleBillingOrder`, on its own or in the savepoint of a finalization. -/
theorem meets_settleBillingOrder (providerRequestID entryID : String) (now : Time) :
    (settleBillingOrder id providerRequestID entryID now).Meets (releaseContract id)
      (fun _ locks ws s ↦ Idle id locks ws s ∨ Pays id locks ws s) locks [] s := by
  rw [settleBillingOrder, meets_bind]
  refine meets_first fun s₁ hs₁ o ho ↦ meets_ite (fun _ ↦ meets_pure (.inl idle_nil)) fun _ ↦ ?_
  refine meets_ite (fun _ ↦ by simp) fun _ ↦ ?_
  exact (meets_settleReservation ⟨o, ho, rfl, fun _ ↦ rfl⟩ _ _ _).imp fun _ _ _ _ ↦ .inr

theorem meets_refundBillingOrder (errorText entryID : String) (now : Time) :
    (refundBillingOrder id errorText entryID now).Meets (releaseContract id)
      (fun _ locks ws s ↦ Idle id locks ws s ∨ Pays id locks ws s) locks [] s := by
  rw [refundBillingOrder, meets_bind]
  refine meets_first fun s₁ hs₁ o ho ↦ meets_ite (fun _ ↦ meets_pure (.inl idle_nil)) fun _ ↦ ?_
  refine meets_ite (fun _ ↦ by simp) fun _ ↦ ?_
  exact (meets_refundBillingOrderTx ⟨o, ho, rfl, fun _ ↦ rfl⟩ (by simp [keysOf]) _ _ _).imp
    fun _ _ _ _ ↦ .inr

/-- The order is locked and is this one. -/
def LockedAs (id : String) (order : BillingOrder) (locks : List RowKey) (s : Store) : Prop :=
  .billingOrder id ∈ locks ∧ s.lookup (.billingOrder id) = some order

/-- What a transaction that has locked the order before looking at its status ends in. -/
def Resolved (id : String) (locks : List RowKey) (ws : List (Sigma Row)) (s : Store) : Prop :=
  Idle id locks ws s ∨ Pays id locks ws s ∧
    ∃ order, LockedAs id order locks s ∧ order.status.isOpen = true

theorem commits_of_resolved {c : ReleaseCall} (h : Resolved id locks ws s) :
    Commits (undisturbed id) (releaseContract id) c () locks ws s := by
  rcases h with hidle | ⟨hpays, order, ⟨hlocked, horder⟩, hopen⟩
  · exact commits_of_idle hidle
  · exact commits_of_pays hpays fun t ht _ ↦ ⟨order, (ht.lookup_eq hlocked).trans horder, hopen⟩

/-- A payment under a lock taken while the order was open. -/
theorem resolved_of_pays {p : DbTx Unit} {order : BillingOrder}
    (h : p.Meets (releaseContract id) (fun _ locks ws s ↦ Pays id locks ws s) locks ws s)
    (horder : LockedAs id order locks s) (hopen : order.status.isOpen = true) :
    p.Meets (releaseContract id) (fun _ locks ws s ↦ Resolved id locks ws s) locks ws s :=
  (h.frame horder.1 horder.2).imp fun _ _ _ _ ⟨hpays, hframe⟩ ↦ .inr ⟨hpays, order, hframe, hopen⟩

theorem meets_settleAccountTokenBillingTx {order : BillingOrder} (horder : LockedAs id order locks s)
    (hopen : order.status.isOpen = true) (hpos : 0 < order.amountMicrocredits)
    (settlement : TokenBillingSettlement) (consumeEntryID releaseEntryID : String) :
    (settleAccountTokenBillingTx order.payer id order settlement order.amountMicrocredits
      consumeEntryID releaseEntryID).Meets (releaseContract id)
        (fun _ locks ws s ↦ Resolved id locks ws s) locks [] s := by
  refine resolved_of_pays ?_ horder hopen
  rw [settleAccountTokenBillingTx, meets_bind]
  refine meets_firstForUpdate fun s₁ hs₁ a ha _ ↦ meets_ite (fun _ ↦ by simp) fun hreserved ↦ ?_
  refine meets_ite (fun _ ↦ by simp) fun _ ↦ ?_
  rw [meets_bind]
  refine meets_update (fun s₂ hs₂ r hr _ a' ha' ↦ ?_) fun s₂ hs₂ hnone ↦ ?_
  · cases ha'
    have hlocked : s₂.lookup (.creditAccount order.payer) = some a :=
      (hs₂.lookup_eq (by simp)).trans ha
    have haccount : Pinned (locks ++ [.creditAccount order.payer] ++ [.creditAccount order.payer])
        ([] ++ [⟨.creditAccount order.payer, a.settleToken order.amountMicrocredits
          settlement.amountMicrocredits⟩]) s₂ (.creditAccount order.payer) (some a)
        (some (a.settleToken order.amountMicrocredits settlement.amountMicrocredits)) :=
      .write hlocked (by simp) _
    rw [meets_bind, updateSettledTokenOrderTx, meets_bind]
    refine meets_update (fun s₃ hs₃ o ho _ o' ho' ↦ ?_) fun _ _ _ ↦ by simp
    cases ho'
    refine meets_ite (fun h ↦ absurd rfl h) fun _ ↦ ?_
    have horder₃ : s₃.lookup (.billingOrder id) = some order :=
      (hs₃.lookup_eq (by simp [horder.1])).trans <| (hs₂.lookup_eq (by simp [horder.1])).trans <|
        (hs₁.lookup_eq horder.1).trans horder.2
    have hpays : Pays id (locks ++ [.creditAccount order.payer] ++ [.creditAccount order.payer] ++
        [.billingOrder id]) ([] ++ [⟨.creditAccount order.payer, a.settleToken
          order.amountMicrocredits settlement.amountMicrocredits⟩] ++
        [⟨.billingOrder id, o.settleToken settlement⟩]) s₃ := by
      refine ⟨order, o.settleToken settlement, a, _, .write horder₃ (by simp) _,
        (haccount.rely hs₃).append (by simp) (by simp [keysOf]), rfl, fun _ ↦ ?_⟩
      have hint := (hs₁.2 _ _ ha).2
      exact wrap64_eq_self ⟨by rw [minInt64]; omega, by omega⟩
    rw [pure_eq_done, meets_done]
    exact hpays.tail hs₃.2 (by simp [createLedgerEntry, keeps_ite, RowKey.isBalance])
  · have hlocked : s₂.lookup (.creditAccount order.payer) = some a :=
      (hs₂.lookup_eq (by simp)).trans ha
    exact absurd (hnone a hlocked) (by simp)

/-- The order stays open, over its reservation. -/
theorem meets_markTokenBillingOverReservationTx {order : BillingOrder}
    (horder : LockedAs id order locks s) (hopen : order.status.isOpen = true)
    (settlement : TokenBillingSettlement) :
    (markTokenBillingOverReservationTx id settlement).Meets (releaseContract id)
      (fun _ locks ws s ↦ Resolved id locks ws s) locks [] s := by
  rw [markTokenBillingOverReservationTx, meets_bind]
  refine meets_update (fun s₁ hs₁ o ho ho' o' heq ↦ ?_) fun _ _ _ ↦ by simp
  cases heq
  refine meets_ite (fun h ↦ absurd rfl h) fun _ ↦ meets_pure (.inl ⟨by simp [keysOf], .inr ?_⟩)
  have horder₁ : s₁.lookup (.billingOrder id) = some order :=
    (hs₁.lookup_eq horder.1).trans horder.2
  exact ⟨order, _, .write horder₁ (by simp) _, hopen, rfl⟩

theorem meets_settleTokenBillingTx (settlement : TokenBillingSettlement) (above : Bool)
    (consumeEntryID releaseEntryID : String) :
    (settleTokenBillingTx id settlement above consumeEntryID releaseEntryID).Meets
      (releaseContract id) (fun _ locks ws s ↦ Resolved id locks ws s) locks [] s := by
  rw [settleTokenBillingTx, meets_bind]
  refine meets_firstForUpdate fun s₁ hs₁ order ho _ ↦ meets_ite (fun _ ↦ by simp) fun _ ↦ ?_
  have horder : LockedAs id order (locks ++ [.billingOrder id]) s₁ := ⟨by simp, ho⟩
  refine meets_ite (fun _ ↦ by simp) fun _ ↦ meets_ite (fun _ ↦ ?_) fun _ ↦ ?_
  · exact meets_ite (fun _ ↦ meets_pure (.inl idle_nil)) fun _ ↦ by simp
  refine meets_ite (fun _ ↦ by simp) fun hopen ↦ meets_ite (fun _ ↦ by simp) fun hamount ↦ ?_
  rw [Bool.not_eq_true, Bool.not_eq_false'] at hopen
  obtain ⟨hpos, hamount⟩ := not_or.mp hamount
  rw [not_le] at hpos
  rw [not_ne_iff] at hamount
  rw [hamount] at hpos ⊢
  have hsettle := meets_settleAccountTokenBillingTx horder hopen hpos settlement consumeEntryID
    releaseEntryID
  refine meets_ite (fun _ ↦ meets_markTokenBillingOverReservationTx horder hopen settlement)
    fun _ ↦ meets_ite (fun hteam ↦ ?_) fun hteam ↦ ?_
  · rwa [BillingOrder.payer, if_pos hteam] at hsettle
  · rwa [BillingOrder.payer, if_neg hteam] at hsettle

theorem meets_settleTokenBillingFromResponseUsageTx {fullID : String} (hid : trimSpace fullID = id)
    (fact : ResponseUsageSettlementFact) (consumeEntryID releaseEntryID : String) :
    (settleTokenBillingFromResponseUsageTx fullID fact consumeEntryID releaseEntryID).Meets
      (releaseContract id) (fun _ locks ws s ↦ Resolved id locks ws s) locks [] s := by
  subst hid
  unfold settleTokenBillingFromResponseUsageTx
  cases fact.settlement fullID with
  | error e => simp
  | ok settlement => exact meets_settleTokenBillingTx _ _ _ _

theorem meets_settleTokenBilling (fact : TokenSettlementFact)
    (consumeEntryID releaseEntryID : String) :
    (settleTokenBilling id fact consumeEntryID releaseEntryID).Meets (releaseContract id)
      (fun _ locks ws s ↦ Resolved id locks ws s) locks [] s := by
  unfold settleTokenBilling
  cases fact.settlement id with
  | error e => simp
  | ok settlement => exact meets_settleTokenBillingTx _ _ _ _

theorem meets_refundTokenBilling (providerOrderID : String) (providerAmountSubunits : ℤ)
    (providerTaskStatus : String) (providerTotalTokens : ℤ) (errorText entryID : String)
    (now : Time) :
    (refundTokenBilling id providerOrderID providerAmountSubunits providerTaskStatus
      providerTotalTokens errorText entryID now).Meets (releaseContract id)
        (fun _ locks ws s ↦ Resolved id locks ws s) locks [] s := by
  rw [refundTokenBilling]
  refine meets_ite (fun _ ↦ by simp) fun _ ↦ ?_
  rw [meets_bind]
  refine meets_firstForUpdate fun s₁ hs₁ order ho _ ↦ meets_ite (fun _ ↦ by simp) fun _ ↦ ?_
  refine meets_ite (fun _ ↦ meets_ite (fun _ ↦ meets_pure (.inl idle_nil)) fun _ ↦ by simp) fun hrefunded ↦
    meets_ite (fun _ ↦ by simp) fun hsettled ↦ ?_
  have hopen := order.isOpen_of_not_closed hsettled hrefunded
  rw [meets_bind]
  refine meets_update (fun s₂ hs₂ o _ _ o' _ ↦ ?_) fun s₂ hs₂ hnone ↦ ?_
  · have hlocked : s₂.lookup (.billingOrder id) = some order :=
      (hs₂.lookup_eq (by simp)).trans ho
    exact resolved_of_pays (meets_refundBillingOrderTx ⟨order, hlocked, rfl, fun _ ↦ rfl⟩
      (by simp [keysOf]) _ _ _) ⟨by simp, hlocked⟩ hopen
  · have hlocked : s₂.lookup (.billingOrder id) = some order :=
      (hs₂.lookup_eq (by simp)).trans ho
    exact absurd (hnone order hlocked) (by simp)

/-- Settling under a lock. -/
theorem meets_settleBillingOrder_locked {order : BillingOrder} (horder : LockedAs id order locks s)
    (providerRequestID entryID : String) (now : Time) :
    (settleBillingOrder id providerRequestID entryID now).Meets (releaseContract id)
      (fun _ locks ws s ↦ Resolved id locks ws s) locks [] s := by
  by_cases hopen : order.status.isOpen = true
  · refine ((meets_settleBillingOrder providerRequestID entryID now).frame horder.1 horder.2).imp ?_
    rintro _ _ _ _ ⟨hidle | hpays, hframe⟩
    · exact .inl hidle
    · exact .inr ⟨hpays, order, hframe, hopen⟩
  · -- the second read finds the locked row, which is settled or refunded
    rw [settleBillingOrder, meets_bind]
    refine meets_first fun s₁ hs₁ o ho ↦ meets_ite (fun _ ↦ meets_pure (.inl idle_nil)) fun hsettled ↦ ?_
    refine meets_ite (fun _ ↦ by simp) fun hrefunded ↦ absurd ?_ hopen
    cases ho.symm.trans ((hs₁.lookup_eq horder.1).trans horder.2)
    exact order.isOpen_of_not_closed hsettled hrefunded

theorem meets_finalizeSucceededBillingTx {input : SucceededTaskFinalization}
    (hid : input.releases = some id) (ids : FinalizationIDs) (now : Time) :
    (finalizeSucceededBillingTx input ids now).Meets (releaseContract id)
      (fun _ locks ws s ↦ Resolved id locks ws s) locks [] s := by
  rw [finalizeSucceededBillingTx]
  refine meets_ite (fun _ ↦ meets_pure (.inl idle_nil)) fun _ ↦ ?_
  rw [meets_bind]
  refine meets_firstForUpdate fun s₁ hs₁ order ho _ ↦ meets_ite (fun _ ↦ by simp) fun _ ↦ ?_
  rw [SucceededTaskFinalization.releases] at hid
  cases haction : input.billingAction with
  | settle =>
    rw [haction] at hid
    cases hid
    exact meets_ite (fun _ ↦ by simp) fun _ ↦ meets_settleBillingOrder_locked ⟨by simp, ho⟩ _ _ _
  | settleFromUsage =>
    rw [haction] at hid
    cases input.responseUsageSettlement with
    | none => simp
    | some fact =>
      refine meets_ite (fun _ ↦ by simp) fun _ ↦ ?_
      exact meets_settleTokenBillingFromResponseUsageTx (Option.some.inj hid) _ _ _
  | uncertain => rw [haction] at hid; cases hid
  | other action => rw [haction] at hid; cases hid

theorem meets_finalizeFailedBillingTx {task : Task} {action : FailedTaskBillingAction}
    (hid : failureReleases task action = some id) (taskID errorText entryID : String)
    (now : Time) :
    (finalizeFailedBillingTx task.billingOrderID taskID task.providerRequestID action errorText
      entryID now).Meets (releaseContract id) (fun _ locks ws s ↦ Resolved id locks ws s)
      locks [] s := by
  cases action with
  | refund =>
    cases hid
    rw [finalizeFailedBillingTx]
    refine meets_ite (fun _ ↦ meets_pure (.inl idle_nil)) fun _ ↦ ?_
    rw [meets_bind]
    refine meets_firstForUpdate fun s₁ hs₁ order ho _ ↦ meets_ite (fun _ ↦ by simp) fun _ ↦ ?_
    refine meets_ite (fun _ ↦ by simp) fun hstatus ↦ ?_
    have hopen : order.status.isOpen = true := by
      rcases hst : order.status <;> simp_all
    exact resolved_of_pays (meets_refundBillingOrderTx ⟨order, ho, rfl, fun _ ↦ rfl⟩
      (by simp [keysOf]) _ _ _) ⟨by simp, ho⟩ hopen
  | uncertain => cases hid
  | other action => cases hid

/-- What a finalization does to its task comes after the release, and does not touch it. -/
theorem Resolved.tail {α : Type} {p : DbTx α} (h : Resolved id locks ws s)
    (hs : (releaseContract id).inv s) (hp : p.WritesOnly (·.isTaskSide)) :
    p.Meets (releaseContract id) (fun _ locks ws s ↦ Resolved id locks ws s) locks ws s := by
  refine meets_of_writesOnly hp hs fun _ locks' ws' t hlocks hws hr ↦ ?_
  have hws' : ∀ k ∈ keysOf ws', k.isBalance = false := fun k hk ↦ by
    have htask := hws k hk
    cases k <;> first | rfl | cases htask
  rcases h with hidle | ⟨hpays, order, ⟨hlocked, horder⟩, hopen⟩
  · exact .inl ((hidle.rely hr).append hlocks hws')
  · exact .inr ⟨(hpays.rely hr).append hlocks hws', order,
      ⟨hlocks hlocked, (hr.lookup_eq hlocked).trans horder⟩, hopen⟩

/-- A call that reads the order without a lock commits well in the runs looked at. -/
theorem commits_of_unlocked {c : ReleaseCall} (hc : c.readsUnlocked = some id)
    (h : Idle id locks ws s ∨ Pays id locks ws s) :
    Commits (undisturbed id) (releaseContract id) c () locks ws s := by
  rcases h with hidle | hpays
  · exact commits_of_idle hidle
  · rcases eq_or_ne ws [] with rfl | hws
    · exact commits_of_idle idle_nil
    · exact commits_of_pays hpays fun _ _ hadm ↦ hadm hc hws

theorem ReleaseCall.meets_prog (c : ReleaseCall) (hs : (releaseContract id).inv s) :
    c.prog.Meets (releaseContract id) (Commits (undisturbed id) (releaseContract id) c) [] [] s := by
  by_cases hid : c.releases = some id
  · have hresolved : ∀ {p : DbTx Unit},
        p.Meets (releaseContract id) (fun _ locks ws s ↦ Resolved id locks ws s) [] [] s →
          p.Meets (releaseContract id) (Commits (undisturbed id) (releaseContract id) c) [] [] s :=
      fun h ↦ h.imp fun _ _ _ _ ↦ commits_of_resolved
    cases c with
    | settleBillingOrder =>
      cases hid
      rw [prog]
      exact (meets_settleBillingOrder _ _ _).imp fun _ _ _ _ ↦ commits_of_unlocked rfl
    | refundBillingOrder =>
      cases hid
      rw [prog]
      exact (meets_refundBillingOrder _ _ _).imp fun _ _ _ _ ↦ commits_of_unlocked rfl
    | finalizeSucceededTaskAndBilling input ids now =>
      rw [prog, HMaigc.finalizeSucceededTaskAndBilling]
      refine meets_ite (fun _ ↦ by simp) fun _ ↦ hresolved ?_
      rw [meets_bind]
      exact ((meets_finalizeSucceededBillingTx hid ids now).inv hs).imp fun _ _ _ _ h ↦
        h.1.tail h.2 (writes_completeSucceededTask input ids now)
    | finalizeFailedTaskAndBilling taskID task action errorText outbox ids now =>
      rw [prog, finalizeFailedTaskAndBillingWithOutbox]
      refine meets_ite (fun _ ↦ by simp) fun _ ↦ hresolved ?_
      rw [meets_bind]
      exact ((meets_finalizeFailedBillingTx hid _ _ _ _).inv hs).imp fun _ _ _ _ h ↦
        h.1.tail h.2 (writes_completeFailedTask taskID task outbox ids.outbox now)
    | settleTokenBilling =>
      cases hid
      rw [prog]
      exact hresolved (meets_settleTokenBilling _ _ _)
    | settleTokenBillingFromResponseUsage =>
      rw [prog, HMaigc.settleTokenBillingFromResponseUsage]
      exact hresolved (meets_settleTokenBillingFromResponseUsageTx (Option.some.inj hid) _ _ _)
    | refundTokenBilling =>
      cases hid
      rw [prog]
      exact hresolved (meets_refundTokenBilling _ _ _ _ _ _ _)
    | other => cases hid
  · have hwrites : c.prog.WritesOnly fun _ ↦ True := c.keeps_prog.imp fun _ _ _ _ ↦ trivial
    exact meets_of_writesOnly hwrites hs fun _ _ _ _ _ _ _ t ht _ _ hrow ↦
      ⟨fun h ↦ absurd h hid, inv_of_rowStep ht.2 hrow⟩

end Contract

/-! ## Every run -/

section Runs

variable {id : String} {e : Ended ReleaseCall Row Unit}

theorem row_of_fulfilled (h : (releaseContract id).Fulfilled e) :
    RowStep (OrderStep e.call.releases) e.before e.after := by
  rcases e with ⟨call, _ | a, before, after⟩
  · cases h
    exact .refl _ _
  · obtain ⟨_, hcommit⟩ := h
    exact hcommit.row

theorem Leaves.refl (s : Store) : Leaves id s s := fun o ho ↦ ⟨rfl, o, ho, rfl, fun _ ↦ rfl⟩

theorem post_of_fulfilled (h : (releaseContract id).Fulfilled e) (hid : e.call.releases = some id) :
    Leaves id e.before e.after ∨ IsOpen id e.before ∧ IsClosed id e.after ∧
      TakesReservation id e.before e.after := by
  rcases e with ⟨call, _ | a, before, after⟩
  · cases h
    exact .inl (.refl _)
  · obtain ⟨_, hcommit⟩ := h
    exact hcommit.post hid

theorem IsOpen.not_isClosed {s : Store} (h : IsOpen id s) : ¬IsClosed id s := by
  rintro ⟨o, ho, hclosed⟩
  obtain ⟨o', ho', hopen⟩ := h
  cases ho.symm.trans ho'
  simp [hclosed] at hopen

/-- A call that is not to release the order leaves its status as it is once closed, and does not
close it. -/
theorem steady_of_fulfilled (h : (releaseContract id).Fulfilled e)
    (hid : e.call.releases ≠ some id) {o : BillingOrder}
    (ho : e.before.lookup (.billingOrder id) = some o) :
    ∃ o', e.after.lookup (.billingOrder id) = some o' ∧ o'.status.isOpen = o.status.isOpen ∧
      (o.status.isOpen = false → o'.status = o.status) := by
  rcases row_of_fulfilled h (.billingOrder id) with heq | ⟨o', ho', hstep⟩
  · exact ⟨o, heq.trans ho, rfl, fun _ ↦ rfl⟩
  · obtain ⟨-, -, hsteady⟩ := hstep o ho
    exact ⟨o', ho', hsteady hid⟩

theorem isClosed_of_fulfilled (h : (releaseContract id).Fulfilled e) (hb : IsClosed id e.before) :
    IsClosed id e.after := by
  obtain ⟨o, ho, hclosed⟩ := hb
  rcases row_of_fulfilled h (.billingOrder id) with heq | ⟨o', ho', hstep⟩
  · exact ⟨o, heq.trans ho, hclosed⟩
  · refine ⟨o', ho', Bool.eq_false_iff.mpr fun hopen ↦ ?_⟩
    exact absurd ((hstep o ho).2.1 hopen).1 (by simp [hclosed])

/-- **Each order is released once** in every interleaving in which no call that has found the order
open without locking it commits after another one has closed it. -/
theorem order_releasedOnce {s : Store} (hs : (releaseContract id).inv s)
    {cfg : Config ReleaseCall Row RepoError Unit} (h : Reach (undisturbed id) (.init s) cfg) :
    ReleasedOnce id cfg.log := by
  have hok := Contract.sound (fun _ ↦ rowTrans_orderStep _) ReleaseCall.keeps_prog
    (fun c _ hs ↦ c.meets_prog hs) hs h
  constructor
  · exact (linked_of_reach h).atMostOnce (fun e he ↦ isClosed_of_fulfilled (hok.log e he))
      fun _ _ hcloses ↦ ⟨hcloses.1.not_isClosed, hcloses.2⟩
  · rintro e he ⟨⟨o, ho, hopen⟩, hclosed⟩
    by_cases hid : e.call.releases = some id
    · rcases post_of_fulfilled (hok.log e he) hid with hleaves | ⟨-, -, htakes⟩
      · obtain ⟨-, o', ho', heq, -⟩ := hleaves o ho
        exact absurd hclosed (IsOpen.not_isClosed ⟨o', ho', heq.trans hopen⟩)
      · exact htakes
    · obtain ⟨o', ho', heq, -⟩ := steady_of_fulfilled (hok.log e he) hid ho
      exact absurd hclosed (IsOpen.not_isClosed ⟨o', ho', heq.trans hopen⟩)
  · intro e he hid hnot o ho
    rcases post_of_fulfilled (hok.log e he) hid with hleaves | ⟨hopen, hclosed, -⟩
    · exact (hleaves o ho).1
    · exact absurd ⟨hopen, hclosed⟩ hnot
  · intro e he o ho hclosed
    by_cases hid : e.call.releases = some id
    · rcases post_of_fulfilled (hok.log e he) hid with hleaves | ⟨hopen, -, -⟩
      · obtain ⟨-, o', ho', -, hstatus⟩ := hleaves o ho
        exact ⟨o', ho', hstatus hclosed⟩
      · exact absurd ⟨o, ho, hclosed⟩ hopen.not_isClosed
    · obtain ⟨o', ho', -, hstatus⟩ := steady_of_fulfilled (hok.log e he) hid ho
      exact ⟨o', ho', hstatus hclosed⟩

end Runs

/-! ## Two orders of one payer -/

/-- Two orders, a hundred credits each, are open. -/
def twoOrders : Store :=
  AList.insert (.creditAccount (.user "u")) ⟨0, 200⟩ <|
    AList.insert (.billingOrder "o") { userID := "u", amountMicrocredits := 100 } <|
      AList.insert (.billingOrder "p") { userID := "u", amountMicrocredits := 100 } ∅

theorem twoOrders_inv (id : String) : (releaseContract id).inv twoOrders := by
  intro p a ha
  rcases Db.lookup_insert_cases ha with heq | ⟨-, ha⟩
  · cases heq
    decide
  · rcases Db.lookup_insert_cases ha with heq | ⟨-, ha⟩
    · cases heq
    · rcases Db.lookup_insert_cases ha with heq | ⟨-, ha⟩
      · cases heq
      · simp at ha

/-- What settling one of them leaves. -/
def oneSettled : Store := ((settleBillingOrder "o" "r" "e1" 1).transact none twoOrders).2

theorem settleBillingOrder_twoOrders :
    (settleBillingOrder "o" "r" "e1" 1).run twoOrders = .ok ((), oneSettled) := by
  have h : (settleBillingOrder "o" "r" "e1" 1).transact none twoOrders = (.ok (), oneSettled) := rfl
  exact run_of_transact h

theorem order_releasedOnce_oneSettled :
    ReleasedOnce "o" [⟨.settleBillingOrder "o" "r" "e1" 1, some (), twoOrders, oneSettled⟩] :=
  order_releasedOnce (twoOrders_inv "o")
    (reach_of_run (c := ReleaseCall.settleBillingOrder "o" "r" "e1" 1)
      (fun _ _ _ ↦ ⟨_, rfl, rfl⟩) settleBillingOrder_twoOrders)

/-- Both sessions read the order before either writes. -/
def overlappingReleases : List (Action ReleaseCall) :=
  [.start 0 (.settleBillingOrder "o" "r" "e1" 1), .start 1 (.refundBillingOrder "o" "" "e2" 1),
    .step 0, .step 1, .step 0, .step 0, .step 0, .step 0, .commit 0,
    .step 1, .step 1, .step 1, .step 1, .commit 1]

/-- What a store says about the order and its payer's reserve. -/
def glance (s : Store) : Option BillingStatus × Option ℤ :=
  ((s.lookup (.billingOrder "o")).map (·.status), reservedOf (.user "u") s)

theorem play_overlappingReleases :
    (play ReleaseCall.prog (.init twoOrders) overlappingReleases).map
      (fun cfg ↦ cfg.log.map fun e ↦ (glance e.before, glance e.after)) =
      some [((some .settled, some 100), (some .refunded, some 0)),
        ((some .reserved, some 200), (some .settled, some 100))] := by
  decide

/-- **An order both settled and refunded**: the second hundred was reserved for the other order. -/
theorem exists_run_releasing_twice :
    ∃ cfg, Reach (.free ReleaseCall.prog) (.init twoOrders) cfg ∧ ¬ReleasedOnce "o" cfg.log := by
  obtain ⟨cfg, hplay, hlog⟩ := Option.map_eq_some_iff.mp play_overlappingReleases
  refine ⟨cfg, reach_of_play hplay, fun h ↦ ?_⟩
  obtain ⟨e, he, hglance⟩ := List.mem_map.mp (hlog ▸ List.mem_cons_self)
  simp only [glance, Prod.mk.injEq, Option.map_eq_some_iff] at hglance
  obtain ⟨⟨⟨o, ho, hsettled⟩, -⟩, ⟨o', ho', hrefunded⟩, -⟩ := hglance
  obtain ⟨o'', ho'', hstatus⟩ := h.final e he o ho (by rw [hsettled]; rfl)
  cases ho'.symm.trans ho''
  rw [hrefunded, hsettled] at hstatus
  cases hstatus

end HMaigc
