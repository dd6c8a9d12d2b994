import HMaigc.Sql.Moves
import HMaigc.Repository.Reconciliation
import HMaigc.Repository.Footprint

/-!
# Reconciling orders under leases

Workers claim orders that wait for the provider's bill, under leases that can run out while the
worker is still asking the provider.  Rescheduling an order and parking it for review are fenced by
the lease; recording what the bill says, settling, refunding and scheduling are not.

* `Spared` is what a transaction that claims nothing makes of an order: it leaves the lease or takes
  it off, a closed order stays closed, and an order parked for review stays parked or is closed —
  the last only if the call `Spares` the mark, which an observation of the bill need not do.
* `ReconcilesUnderLease` is the protocol, over the log of a run: late holders of a lease change
  nothing, leases do not overlap, and an order that was parked is not claimed again.
* `orders_reconciledUnderLease` proves it for every run in which the mark is spared (`reviewed`).
* `exists_run_claiming_parked` is a run in which it is not: `RecordProviderBillingObservation`
  overwrites the mark, and scheduling the order then makes it claimable.
-/

set_option autoImplicit false

namespace HMaigc

open Sql Go Prog

/-! ## Calls -/

/-- The row is a billing order. -/
def RowKey.isBillingOrder : RowKey → Bool
  | .billingOrder _ => true
  | _ => false

/-- What reconciles, observes and settles orders, or does neither. -/
inductive ReconcileCall where
  | claim (owner : String) (now : Time) (lease limit : ℤ) (skipped : List String)
      (token : String → String)
  | reschedule (id owner leaseToken reason : String) (next : Time)
  | requireReview (id owner leaseToken reason : String)
  | recordObservation (id providerOrderID : String) (amount : ℤ) (billingStatus taskStatus : String)
      (totalTokens : ℤ)
  | markForReconciliation (id providerTaskID reason : String) (next : Time)
  | recordUsage (id : String) (usage : TokenUsageFact) (status : String)
  | beginRequest (id : String) (now : Time)
  | settleTokenBilling (id : String) (fact : TokenSettlementFact) (consumeID releaseID : String)
  | settleFromResponseUsage (id : String) (fact : ResponseUsageSettlementFact)
      (consumeID releaseID : String)
  | refundTokenBilling (id providerOrderID : String) (amount : ℤ) (taskStatus : String)
      (totalTokens : ℤ) (errorText entryID : String) (now : Time)
  | settleBillingOrder (id providerRequestID entryID : String) (now : Time)
  | refundBillingOrder (id errorText entryID : String) (now : Time)
  | other (p : DbTx Unit) (hp : p.WritesOnly fun k ↦ ¬k.isBillingOrder = true)

namespace BillingOrder

/-- The order waits for a person to review it. -/
def IsParked (order : BillingOrder) : Prop :=
  order.status = .uncertain ∧ order.providerBillingStatus = "requires_review"

/-- The lease stored on the order, as its owner, its token and the time it runs out. -/
def reconcileLease (order : BillingOrder) : Option (String × String × Time) :=
  order.reconcileLeaseExpiresAt.map fun expiresAt ↦
    (order.reconcileLeaseOwner, order.reconcileLeaseToken, expiresAt)

end BillingOrder

namespace ReconcileCall

/-- The transaction of a call that claims nothing. -/
def body : ReconcileCall → DbTx Unit
  | .claim .. => return
  | .reschedule id owner leaseToken reason next =>
    rescheduleKuaiziBillingReconciliation id owner leaseToken reason next
  | .requireReview id owner leaseToken reason =>
    requireKuaiziBillingReview id owner leaseToken reason
  | .recordObservation id providerOrderID amount billingStatus taskStatus totalTokens =>
    recordProviderBillingObservation id providerOrderID amount billingStatus taskStatus totalTokens
  | .markForReconciliation id providerTaskID reason next =>
    markTokenBillingForReconciliation id providerTaskID reason next
  | .recordUsage id usage status => recordTokenBillingUsage id usage status
  | .beginRequest id now => beginTokenBillingRequest id now
  | .settleTokenBilling id fact consumeID releaseID =>
    HMaigc.settleTokenBilling id fact consumeID releaseID
  | .settleFromResponseUsage id fact consumeID releaseID =>
    settleTokenBillingFromResponseUsage id fact consumeID releaseID
  | .refundTokenBilling id providerOrderID amount taskStatus totalTokens errorText entryID now =>
    HMaigc.refundTokenBilling id providerOrderID amount taskStatus totalTokens errorText entryID now
  | .settleBillingOrder id providerRequestID entryID now =>
    HMaigc.settleBillingOrder id providerRequestID entryID now
  | .refundBillingOrder id errorText entryID now => HMaigc.refundBillingOrder id errorText entryID now
  | .other p _ => p

/-- The transaction; the result is what a claim has claimed. -/
def prog : ReconcileCall → DbTx (List (String × BillingOrder))
  | .claim owner now lease limit skipped token =>
    claimKuaiziBillingReconciliations owner now lease limit skipped token
  | c => do
    c.body
    return []

/-- The order a call is about and the lease it presents. -/
def presents : ReconcileCall → Option (String × String × String)
  | .reschedule id owner leaseToken _ _ => some (id, owner, leaseToken)
  | .requireReview id owner leaseToken _ =>
    some (trimSpace id, trimSpace owner, trimSpace leaseToken)
  | _ => none

/-- The order a call parks for review. -/
def parks : ReconcileCall → Option String
  | .requireReview id _ _ _ => some (trimSpace id)
  | _ => none

/-- The call does not overwrite the mark of an order `id` parked for review. -/
def Spares (id : String) (order : BillingOrder) : ReconcileCall → Prop
  | .recordObservation id' _ _ billingStatus _ _ => id' = id → billingStatus = "requires_review"
  | .settleTokenBilling id' fact _ _ => id' = id →
      fact.providerAmountSubunits * providerBillingSubunitMicrocredits ≤
        order.reservedAmountMicrocredits
  | _ => True

end ReconcileCall

/-- What a call that claims nothing makes of an order. -/
structure Spared (spares : Prop) (o o' : BillingOrder) : Prop where
  lease : o'.reconcileLease = o.reconcileLease ∨ o'.reconcileLease = none
  closed : o.status.isOpen = false → o'.status.isOpen = false
  parked : spares → o.IsParked → o'.IsParked ∨ o'.status.isOpen = false

/-- A claim leases the order `id`. -/
def ReconcileCall.Leases (id : String) (o o' : BillingOrder) : ReconcileCall → Prop
  | .claim owner now lease _ _ token => o.isReconcilable now = true ∧
      o' = o.leaseReconciliation (trimSpace owner) (token id) (now + lease.toNat)
  | _ => False

/-- What a call, with the result `a`, makes of the order `id`. -/
def ReconcileCall.Moves (a : List (String × BillingOrder)) (id : String) (o o' : BillingOrder)
    (c : ReconcileCall) : Prop :=
  match c with
  | .claim .. => c.Leases id o o' ∧ (id, o') ∈ a
  | c => Spared (c.Spares id o) o o'

/-- The moves of a call, as a relation on rows. -/
def ReconcileCall.rowMoves (c : ReconcileCall) (a : List (String × BillingOrder)) :
    ∀ k, Row k → Row k → Prop
  | .billingOrder id, o, o' => c.Moves a id o o'
  | _, _, _ => True

/-! ## What the updates spare -/

section Spared

variable {spares : Prop} {o : BillingOrder}

/-- Ending the reconciliation takes the lease off. -/
theorem spared_of_closed {o' : BillingOrder} (hlease : o'.reconcileLeaseExpiresAt = none)
    (hclosed : o'.status.isOpen = false) : Spared spares o o' where
  lease := .inr (by rw [BillingOrder.reconcileLease, hlease, Option.map_none])
  closed _ := hclosed
  parked _ _ := .inr hclosed

theorem spared_reschedule (hopen : o.status = .uncertain) (reason : String) (next : Time) :
    Spared spares o (o.rescheduleReconciliation reason next) where
  lease := .inr rfl
  closed h := by simp [hopen] at h
  parked _ h := .inl h

theorem BillingOrder.isParked_requireReview (hopen : o.status = .uncertain) (reason : String) :
    (o.requireReview reason).IsParked :=
  ⟨hopen, rfl⟩

theorem spared_requireReview (hopen : o.status = .uncertain) (reason : String) :
    Spared spares o (o.requireReview reason) where
  lease := .inr rfl
  closed h := by simp [hopen] at h
  parked _ h := .inl (BillingOrder.isParked_requireReview h.1 reason)

theorem spared_recordObservation (providerOrderID : String) (amount : ℤ)
    (billingStatus taskStatus : String) (totalTokens : ℤ)
    (h : spares → billingStatus = "requires_review") :
    Spared spares o
      (o.recordObservation providerOrderID amount billingStatus taskStatus totalTokens) where
  lease := .inl rfl
  closed := id
  parked hspares hparked := .inl ⟨hparked.1, h hspares⟩

theorem spared_reconcile (hopen : o.status.isOpen = true) (providerTaskID reason : String)
    (next : Time) : Spared spares o (o.reconcile providerTaskID reason next) where
  lease := .inr rfl
  closed h := by simp [hopen] at h
  parked _ h := .inl ⟨rfl, h.2⟩

theorem spared_recordUsage (usage : TokenUsageFact) (status : String) :
    Spared spares o (o.recordUsage usage status) where
  lease := .inl rfl
  closed := id
  parked _ := .inl

theorem spared_start (hreserved : o.status = .reserved) (now : Time) :
    Spared spares o (o.start now) where
  lease := .inl rfl
  closed h := by simp [hreserved] at h
  parked _ h := by simp [BillingOrder.IsParked, hreserved] at h

theorem spared_overReservation (hopen : o.status.isOpen = true)
    (settlement : TokenBillingSettlement) (h : ¬spares) :
    Spared spares o (o.overReservation settlement) where
  lease := .inr rfl
  closed hclosed := by simp [hopen] at hclosed
  parked hspares := absurd hspares h

theorem spared_settleToken (settlement : TokenBillingSettlement) :
    Spared spares o (o.settleToken settlement) :=
  spared_of_closed rfl rfl

theorem spared_settle (providerRequestID : String) (now : Time) :
    Spared spares o (o.settle providerRequestID now) :=
  spared_of_closed rfl rfl

end Spared

/-! ## The contract -/

/-- What a committed call did to the orders. -/
structure ReconcilePost (c : ReconcileCall) (a : List (String × BillingOrder)) (s s' : Store) :
    Prop where
  moved : Moved (·.isBillingOrder = true) (c.rowMoves a) s s'
  claimed : ∀ id o', (id, o') ∈ a → s'.lookup (.billingOrder id) = some o' ∧
    ∃ o, s.lookup (.billingOrder id) = some o ∧ c.Leases id o o'
  presented : ∀ id owner token, c.presents = some (id, owner, token) →
    ∃ o, s.lookup (.billingOrder id) = some o ∧ o.isLeasedTo owner token = true
  parked : ∀ id, c.parks = some id →
    ∃ o', s'.lookup (.billingOrder id) = some o' ∧ o'.IsParked
  spared : ∀ id o, s.lookup (.billingOrder id) = some o → o.IsParked → c.Spares id o

def reconcileContract : Contract RowKey ReconcileCall Row (List (String × BillingOrder)) where
  inv _ := True
  row _ _ _ _ := True
  post c _ a s s' := ReconcilePost c a s s'

/-- The system in which no order that is parked for review is observed, or found charged above its
reservation. -/
def reviewed : System ReconcileCall Row RepoError (List (String × BillingOrder)) where
  prog := ReconcileCall.prog
  admits c _ s := ∀ id o, s.lookup (.billingOrder id) = some o → o.IsParked → c.Spares id o

section Meets

variable {c : ReconcileCall} {id : String} {a : List (String × BillingOrder)} {locks : List RowKey}
  {ws : List (Sigma Row)} {s : Store}

theorem ReconcileCall.commits_of_moving
    (hmoving : Moving (·.isBillingOrder = true) (c.rowMoves a) locks ws s)
    (hclaimed : ∀ id o', (id, o') ∈ a →
      ∃ o, Pinned locks ws s (.billingOrder id) (some o) (some o') ∧ c.Leases id o o')
    (hpresents : ∀ id owner token, c.presents = some (id, owner, token) → ∃ o,
      .billingOrder id ∈ locks ∧ s.lookup (.billingOrder id) = some o ∧
        o.isLeasedTo owner token = true)
    (hparks : ∀ id, c.parks = some id → ∃ o o',
      Pinned locks ws s (.billingOrder id) o (some o') ∧ o'.IsParked) :
    Commits reviewed reconcileContract c a locks ws s := by
  intro t ht hadm _ _
  refine ⟨⟨(hmoving.rely ht).moved, fun id o' hmem ↦ ?_, fun id owner token hpres ↦ ?_,
    fun id hpark ↦ ?_, hadm⟩, trivial⟩
  · obtain ⟨o, hpinned, hleases⟩ := hclaimed id o' hmem
    exact ⟨(hpinned.rely ht).view, o, (hpinned.rely ht).committed, hleases⟩
  · obtain ⟨o, hlocked, ho, hleased⟩ := hpresents id owner token hpres
    exact ⟨o, (ht.lookup_eq hlocked).trans ho, hleased⟩
  · obtain ⟨o, o', hpinned, hparked⟩ := hparks id hpark
    exact ⟨o', (hpinned.rely ht).view, hparked⟩

/-- The `UPDATE` of a call that presents a lease. -/
theorem meets_presented {owner token : String} {f : BillingOrder → BillingOrder}
    (hpresents : c.presents = some (id, owner, token))
    (hmoves : ∀ o, o.isLeasedTo owner token = true → c.Moves [] id o (f o))
    (hparks : ∀ id' o, c.parks = some id' → o.isLeasedTo owner token = true →
      id' = id ∧ (f o).IsParked) :
    (do
      let rows ← Prog.update (.billingOrder id) (fun o ↦ o.isLeasedTo owner token) fun o ↦
        .ok (f o)
      if rows ≠ 1 then throw errBillingStateConflict : DbTx Unit).Meets reconcileContract
      (fun _ ↦ Commits reviewed reconcileContract c []) [] [] s := by
  refine meets_updateOne fun s₁ _ o ho hleased ↦ c.commits_of_moving ?_ (by simp) ?_ ?_
  · exact .write (aside_nil _) (by simp) ho (hmoves o hleased)
  · intro id' owner' token' hpresents'
    cases hpresents.symm.trans hpresents'
    exact ⟨o, by simp, ho, hleased⟩
  · intro id' hpark
    obtain ⟨rfl, hparked⟩ := hparks id' o hpark hleased
    exact ⟨some o, f o, .write ho (by simp) (f o), hparked⟩

theorem BillingOrder.uncertain_of_isLeasedTo {o : BillingOrder} {owner token : String}
    (h : o.isLeasedTo owner token = true) : o.status = .uncertain := by
  simp only [isLeasedTo, Bool.and_eq_true, decide_eq_true_eq] at h
  exact h.1.1

theorem meets_rescheduleReconciliation (id owner leaseToken reason : String) (next : Time) :
    (ReconcileCall.reschedule id owner leaseToken reason next).prog.Meets reconcileContract
      (Commits reviewed reconcileContract (.reschedule id owner leaseToken reason next))
      [] [] s := by
  rw [ReconcileCall.prog, ReconcileCall.body, meets_bind, rescheduleKuaiziBillingReconciliation]
  · refine meets_ite (fun _ ↦ (meets_fail _ _ _ _ _).mpr trivial) fun _ ↦ ?_
    refine (meets_presented (s := s) (c := .reschedule id owner leaseToken reason next)
      (f := fun o ↦ o.rescheduleReconciliation reason next) rfl (fun o h ↦ ?_)
        (by simp [ReconcileCall.parks])).imp fun _ _ _ _ hc ↦ meets_pure hc
    exact spared_reschedule (BillingOrder.uncertain_of_isLeasedTo h) reason next
  · exact fun _ _ _ _ _ _ h ↦ by cases h

theorem meets_requireReview (id owner leaseToken reason : String) :
    (ReconcileCall.requireReview id owner leaseToken reason).prog.Meets reconcileContract
      (Commits reviewed reconcileContract (.requireReview id owner leaseToken reason))
      [] [] s := by
  rw [ReconcileCall.prog, ReconcileCall.body, meets_bind, requireKuaiziBillingReview]
  · refine (meets_presented (s := s) (c := .requireReview id owner leaseToken reason)
      (f := fun o ↦ o.requireReview reason) rfl (fun o h ↦ ?_) fun id' o hpark h ↦ ?_).imp
        fun _ _ _ _ hc ↦ meets_pure hc
    · exact spared_requireReview (BillingOrder.uncertain_of_isLeasedTo h) reason
    · rw [ReconcileCall.parks, Option.some.injEq] at hpark
      exact ⟨hpark.symm,
        BillingOrder.isParked_requireReview (BillingOrder.uncertain_of_isLeasedTo h) reason⟩
  · exact fun _ _ _ _ _ _ h ↦ by cases h

/-- The body moves orders. -/
def Reconciles (c : ReconcileCall) (p : DbTx Unit) : Prop :=
  ∀ s, p.Meets reconcileContract
    (fun _ locks ws s ↦ Moving (·.isBillingOrder = true) (c.rowMoves []) locks ws s) [] [] s

theorem meets_of_reconciles (hprog : c.prog = do c.body; return []) (hpresents : c.presents = none)
    (hparks : c.parks = none) (h : Reconciles c c.body) :
    c.prog.Meets reconcileContract (Commits reviewed reconcileContract c) [] [] s := by
  rw [hprog, meets_bind]
  exact (h s).imp fun _ _ _ _ hmoving ↦
    meets_pure (c.commits_of_moving hmoving (by simp) (by simp [hpresents]) (by simp [hparks]))

/-- The body is an `UPDATE` that must affect one order. -/
theorem reconciles_updateOne {cond : BillingOrder → Bool} {f : BillingOrder → BillingOrder}
    {e : RepoError} (h : ∀ o, cond o = true → c.Moves [] id o (f o)) :
    Reconciles c (do
      let rows ← Prog.update (.billingOrder id) cond fun o ↦ .ok (f o)
      if rows ≠ 1 then throw e) :=
  fun _ ↦ meets_updateOne fun _ _ o ho hcond ↦
    .write (aside_nil _) (by simp) ho (h o hcond)

theorem reconciles_ite {p : Prop} [Decidable p] {x y : DbTx Unit} (hx : p → Reconciles c x)
    (hy : ¬p → Reconciles c y) : Reconciles c (if p then x else y) :=
  fun s ↦ meets_ite (fun h ↦ hx h s) fun h ↦ hy h s

theorem reconciles_throw (e : RepoError) : Reconciles c (throw e : DbTx Unit) :=
  fun _ ↦ (meets_fail _ _ _ _ _).mpr trivial

theorem reconciles_recordObservation (id providerOrderID : String) (amount : ℤ)
    (billingStatus taskStatus : String) (totalTokens : ℤ) :
    Reconciles (.recordObservation id providerOrderID amount billingStatus taskStatus totalTokens)
      (recordProviderBillingObservation id providerOrderID amount billingStatus taskStatus
        totalTokens) := by
  rw [recordProviderBillingObservation]
  refine reconciles_ite (fun _ ↦ reconciles_throw _) fun _ ↦ reconciles_updateOne fun o _ ↦ ?_
  exact spared_recordObservation _ _ _ _ _ fun hspares ↦ hspares rfl

theorem reconciles_markForReconciliation (id providerTaskID reason : String) (next : Time) :
    Reconciles (.markForReconciliation id providerTaskID reason next)
      (markTokenBillingForReconciliation id providerTaskID reason next) := by
  rw [markTokenBillingForReconciliation]
  refine reconciles_ite (fun _ ↦ reconciles_throw _) fun _ ↦ reconciles_updateOne fun o ho ↦ ?_
  simp only [Bool.and_eq_true] at ho
  exact spared_reconcile ho.1.2 _ _ _

theorem reconciles_recordUsage (id : String) (usage : TokenUsageFact) (status : String) :
    Reconciles (.recordUsage id usage status) (recordTokenBillingUsage id usage status) := by
  rw [recordTokenBillingUsage]
  exact reconciles_ite (fun _ ↦ reconciles_throw _) fun _ ↦ reconciles_updateOne fun o _ ↦
    spared_recordUsage _ _

theorem reconciles_beginRequest (id : String) (now : Time) :
    Reconciles (.beginRequest id now) (beginTokenBillingRequest id now) := by
  refine reconciles_updateOne fun o ho ↦ ?_
  simp only [Bool.and_eq_true, decide_eq_true_eq] at ho
  exact spared_start ho.2 now

/-! ### Settlements -/

theorem amount_of_settlement {fact : TokenSettlementFact} {settlement : TokenBillingSettlement}
    (h : fact.settlement id = .ok settlement) : settlement.amountMicrocredits =
      fact.providerAmountSubunits * providerBillingSubunitMicrocredits := by
  unfold TokenSettlementFact.settlement at h
  split at h
  · cases h
  · split at h
    · cases h
    · cases h
      rfl

/-- The call moves the order `id` in every way that is spared. -/
def Moves.OfSpared (c : ReconcileCall) (id : String) : Prop :=
  ∀ o o', Spared (c.Spares id o) o o' → c.Moves [] id o o'

theorem meets_settleAccountTokenBilling {payer : Payer} {order : BillingOrder}
    (hmoves : Moves.OfSpared c id) (haside : Aside (·.isBillingOrder = true) ws)
    (settlement : TokenBillingSettlement) (reserved : ℤ) (consumeID releaseID : String) :
    (settleAccountTokenBillingTx payer id order settlement reserved consumeID releaseID).Meets
      reconcileContract
      (fun _ locks ws s ↦ Moving (·.isBillingOrder = true) (c.rowMoves []) locks ws s)
      locks ws s := by
  rw [settleAccountTokenBillingTx, meets_bind]
  refine meets_firstForUpdate fun s₁ _ account _ _ ↦
    meets_ite (fun _ ↦ (meets_fail _ _ _ _ _).mpr trivial) fun _ ↦
      meets_ite (fun _ ↦ (meets_fail _ _ _ _ _).mpr trivial) fun _ ↦ ?_
  rw [meets_bind]
  refine meets_of_writesOnly (K := fun k ↦ ¬k.isBillingOrder = true)
    (by simp [RowKey.isBillingOrder]) trivial fun _ locks' ws' s₂ _ hws' _ ↦ ?_
  rw [meets_bind, updateSettledTokenOrderTx, meets_bind]
  refine (Moving.update (c.rowMoves []) (haside.append hws') ?_).imp ?_
  · exact fun o _ ↦ hmoves o _ (spared_settleToken settlement)
  rintro n locks₃ ws₃ s₃ ⟨hmoving, -⟩
  refine meets_ite (fun _ ↦ (meets_fail _ _ _ _ _).mpr trivial) fun _ ↦ meets_pure ?_
  exact hmoving.tail trivial (by simp [createLedgerEntry, keeps_ite, RowKey.isBillingOrder])

theorem reconciles_settleTokenBillingTx (hmoves : Moves.OfSpared c id)
    (settlement : TokenBillingSettlement) (above : Bool) (consumeID releaseID : String)
    (hspares : ∀ o, c.Spares id o → settlement.amountMicrocredits ≤ o.reservedAmountMicrocredits ∨
      above = true) :
    Reconciles c (settleTokenBillingTx id settlement above consumeID releaseID) := by
  intro s
  rw [settleTokenBillingTx, meets_bind]
  refine meets_firstForUpdate fun s₁ hs₁ order ho _ ↦
    meets_ite (fun _ ↦ (meets_fail _ _ _ _ _).mpr trivial) fun _ ↦
      meets_ite (fun _ ↦ (meets_fail _ _ _ _ _).mpr trivial) fun _ ↦ meets_ite (fun _ ↦ ?_) fun _ ↦
        meets_ite (fun _ ↦ (meets_fail _ _ _ _ _).mpr trivial) fun _ ↦
          meets_ite (fun _ ↦ (meets_fail _ _ _ _ _).mpr trivial) fun _ ↦ ?_
  · exact meets_ite (fun _ ↦ meets_pure (.of_aside (aside_nil _)))
      fun _ ↦ (meets_fail _ _ _ _ _).mpr trivial
  refine meets_ite (fun hover ↦ ?_) fun _ ↦ meets_ite (fun _ ↦ ?_) fun _ ↦ ?_
  · refine meets_updateOne fun s₂ hs₂ o ho₂ hopen ↦ ?_
    -- the order is still the one whose reservation was compared
    obtain rfl : order = o := by
      have hlocked := (hs₂.lookup_eq (by simp)).trans ho
      exact Option.some.inj (hlocked.symm.trans ho₂)
    refine .write (aside_nil _) (by simp) ho₂ (hmoves _ _ (spared_overReservation hopen _ ?_))
    intro h
    rcases hspares _ h with hle | habove
    · omega
    · simp [habove] at hover
  · exact meets_settleAccountTokenBilling hmoves (aside_nil _) _ _ _ _
  · exact meets_settleAccountTokenBilling hmoves (aside_nil _) _ _ _ _

theorem reconciles_settleTokenBilling (id : String) (fact : TokenSettlementFact)
    (consumeID releaseID : String) :
    Reconciles (.settleTokenBilling id fact consumeID releaseID)
      (settleTokenBilling id fact consumeID releaseID) := by
  unfold settleTokenBilling
  cases hsettlement : fact.settlement id with
  | error e => exact reconciles_throw e
  | ok settlement =>
    have hmoves : Moves.OfSpared (.settleTokenBilling id fact consumeID releaseID) id :=
      fun _ _ h ↦ h
    refine reconciles_settleTokenBillingTx hmoves settlement false consumeID releaseID
      fun o hspares ↦ .inl ?_
    rw [amount_of_settlement hsettlement]
    exact hspares rfl

theorem reconciles_settleFromResponseUsage (id : String) (fact : ResponseUsageSettlementFact)
    (consumeID releaseID : String) :
    Reconciles (.settleFromResponseUsage id fact consumeID releaseID)
      (settleTokenBillingFromResponseUsage id fact consumeID releaseID) := by
  unfold settleTokenBillingFromResponseUsage settleTokenBillingFromResponseUsageTx
  cases fact.settlement id with
  | error e => exact reconciles_throw e
  | ok settlement =>
    have hmoves : Moves.OfSpared (.settleFromResponseUsage id fact consumeID releaseID)
      (trimSpace id) := fun _ _ h ↦ h
    exact reconciles_settleTokenBillingTx hmoves settlement true consumeID releaseID
      fun _ _ ↦ .inr rfl

/-- The reservation leaves the account and the order is closed. -/
theorem meets_settleOrder {order : BillingOrder} (hmoves : Moves.OfSpared c id)
    (haside : Aside (·.isBillingOrder = true) ws) (providerRequestID entryID : String)
    (now : Time) :
    (settleReservation id order providerRequestID entryID now).Meets reconcileContract
      (fun _ locks ws s ↦ Moving (·.isBillingOrder = true) (c.rowMoves []) locks ws s)
      locks ws s := by
  rw [settleReservation, meets_bind]
  refine meets_of_writesOnly (K := fun k ↦ ¬k.isBillingOrder = true)
    (by simp [RowKey.isBillingOrder]) trivial fun _ locks' ws' s₂ _ hws' _ ↦ ?_
  refine meets_ite (fun _ ↦ (meets_fail _ _ _ _ _).mpr trivial) fun _ ↦ ?_
  rw [meets_bind, readAccount]
  refine meets_first (k := RowKey.creditAccount order.payer) fun s₃ _ account _ ↦ ?_
  rw [meets_bind]
  refine (Moving.update (c.rowMoves []) (haside.append hws') ?_).imp ?_
  · exact fun o _ ↦ hmoves o _ (spared_settle providerRequestID now)
  rintro n locks₄ ws₄ s₄ ⟨hmoving, -⟩
  exact hmoving.tail trivial (by simp [createLedgerEntry, RowKey.isBillingOrder])

/-- What may be pending when an order is refunded: nothing about orders, or a write to the order
itself, which is locked. -/
def Refundable (id : String) (locks : List RowKey) (ws : List (Sigma Row)) (s : Store) : Prop :=
  Aside (·.isBillingOrder = true) ws ∨ .billingOrder id ∈ locks ∧
    (∃ o, s.lookup (.billingOrder id) = some o) ∧
      ∀ k ∈ keysOf ws, k.isBillingOrder = true → k = .billingOrder id

theorem Refundable.rely {t : Store} (h : Refundable id locks ws s)
    (ht : reconcileContract.Rely locks s t) : Refundable id locks ws t :=
  h.imp_right fun ⟨hlocked, ⟨o, ho⟩, hkeys⟩ ↦
    ⟨hlocked, ⟨o, (ht.lookup_eq hlocked).trans ho⟩, hkeys⟩

theorem Refundable.append {locks' : List RowKey} {ws' : List (Sigma Row)}
    (h : Refundable id locks ws s) (hlocks : locks ⊆ locks')
    (hws' : Aside (·.isBillingOrder = true) ws') : Refundable id locks' (ws ++ ws') s := by
  refine h.imp (fun haside ↦ haside.append hws') fun ⟨hlocked, hstored, hkeys⟩ ↦
    ⟨hlocks hlocked, hstored, fun k hk hK ↦ ?_⟩
  rw [keysOf, List.map_append, List.mem_append] at hk
  exact hk.elim (fun hmem ↦ hkeys k hmem hK) fun hmem ↦ absurd hK (hws' k hmem)

/-- The write that closes the order. -/
theorem Refundable.close {o o' : BillingOrder} (h : Refundable id locks ws s)
    (ho : (s.apply ws).lookup (.billingOrder id) = some o) (hmoves : Moves.OfSpared c id)
    (hlease : o'.reconcileLeaseExpiresAt = none) (hclosed : o'.status.isOpen = false) :
    Moving (·.isBillingOrder = true) (c.rowMoves []) (locks ++ [.billingOrder id])
      (ws ++ [⟨.billingOrder id, o'⟩]) s := by
  rcases h with haside | ⟨hlocked, ⟨o₀, ho₀⟩, hkeys⟩
  · exact .write haside (by simp) ((haside.lookup rfl s).symm.trans ho)
      (hmoves o o' (spared_of_closed hlease hclosed))
  · exact .overwrite hkeys (by simp) ho₀ (hmoves o₀ o' (spared_of_closed hlease hclosed))

/-- The reservation goes back and the order is closed. -/
theorem meets_refundOrder {order : BillingOrder} (hmoves : Moves.OfSpared c id)
    (h : Refundable id locks ws s) (errorText entryID : String) (now : Time) :
    (refundBillingOrderTx id order errorText entryID now).Meets reconcileContract
      (fun _ locks ws s ↦ Moving (·.isBillingOrder = true) (c.rowMoves []) locks ws s)
      locks ws s := by
  rw [refundBillingOrderTx, meets_bind]
  refine meets_of_writesOnly (K := fun k ↦ ¬k.isBillingOrder = true)
    (by simp [RowKey.isBillingOrder]) trivial fun _ locks' ws' s₂ hsub hws' hs₂ ↦ ?_
  refine meets_ite (fun _ ↦ (meets_fail _ _ _ _ _).mpr trivial) fun _ ↦ ?_
  rw [meets_bind, readAccount]
  refine meets_first (k := RowKey.creditAccount order.payer) fun s₃ hs₃ account _ ↦ ?_
  rw [meets_bind]
  have h₂ := ((h.rely hs₂).append hsub hws')
  have htail : (createLedgerEntry entryID (order.refundEntry id account errorText)).WritesOnly
      fun k ↦ ¬k.isBillingOrder = true := by
    simp [createLedgerEntry, RowKey.isBillingOrder]
  refine meets_update (fun s₄ hs₄ o ho _ o' ho' ↦ ?_) fun s₄ hs₄ hnone ↦ ?_
  · cases ho'
    have h₄ := (h₂.rely hs₃).rely hs₄
    exact (h₄.close ho hmoves rfl rfl).tail trivial htail
  · -- no row is affected only if there is none
    have h₄ := (h₂.rely hs₃).rely hs₄
    rcases h₄ with haside | ⟨-, ⟨o, ho⟩, -⟩
    · exact (Moving.of_aside haside).tail trivial htail
    · obtain ⟨o', ho'⟩ := Db.exists_lookup_apply (ws ++ ws') ho
      exact absurd (hnone o' ho') (by simp)

theorem reconciles_refundTokenBilling (id providerOrderID : String) (amount : ℤ)
    (taskStatus : String) (totalTokens : ℤ) (errorText entryID : String) (now : Time) :
    Reconciles (.refundTokenBilling id providerOrderID amount taskStatus totalTokens errorText
        entryID now)
      (refundTokenBilling id providerOrderID amount taskStatus totalTokens errorText entryID now) := by
  intro s
  have hmoves : Moves.OfSpared (.refundTokenBilling id providerOrderID amount taskStatus totalTokens
    errorText entryID now) id := fun _ _ h ↦ h
  rw [refundTokenBilling]
  refine meets_ite (fun _ ↦ (meets_fail _ _ _ _ _).mpr trivial) fun _ ↦ ?_
  rw [meets_bind]
  refine meets_firstForUpdate fun s₁ hs₁ order ho _ ↦
    meets_ite (fun _ ↦ (meets_fail _ _ _ _ _).mpr trivial) fun _ ↦ meets_ite (fun _ ↦ ?_) fun _ ↦
      meets_ite (fun _ ↦ (meets_fail _ _ _ _ _).mpr trivial) fun _ ↦ ?_
  · exact meets_ite (fun _ ↦ meets_pure (.of_aside (aside_nil _)))
      fun _ ↦ (meets_fail _ _ _ _ _).mpr trivial
  rw [meets_bind]
  have hstored : ∀ s₂, reconcileContract.Rely ([] ++ [RowKey.billingOrder id]) s₁ s₂ →
      s₂.lookup (.billingOrder id) = some order :=
    fun s₂ hs₂ ↦ (hs₂.lookup_eq (by simp)).trans ho
  refine meets_update (fun s₂ hs₂ _ _ _ o' _ ↦ ?_) fun s₂ hs₂ hnone ↦ ?_
  · refine meets_refundOrder hmoves (.inr ⟨by simp, ⟨order, hstored s₂ hs₂⟩, ?_⟩) _ _ _
    simp [keysOf]
  · exact absurd (hnone order (hstored s₂ hs₂)) (by simp)

theorem reconciles_settleBillingOrder (id providerRequestID entryID : String) (now : Time) :
    Reconciles (.settleBillingOrder id providerRequestID entryID now)
      (settleBillingOrder id providerRequestID entryID now) := by
  intro s
  have hmoves : Moves.OfSpared (.settleBillingOrder id providerRequestID entryID now) id :=
    fun _ _ h ↦ h
  rw [settleBillingOrder, meets_bind]
  refine meets_first (k := RowKey.billingOrder id) fun s₁ _ order _ ↦
    meets_ite (fun _ ↦ meets_pure (.of_aside (aside_nil _))) fun _ ↦
      meets_ite (fun _ ↦ (meets_fail _ _ _ _ _).mpr trivial) fun _ ↦ ?_
  exact meets_settleOrder hmoves (aside_nil _) _ _ _

theorem reconciles_refundBillingOrder (id errorText entryID : String) (now : Time) :
    Reconciles (.refundBillingOrder id errorText entryID now)
      (refundBillingOrder id errorText entryID now) := by
  intro s
  have hmoves : Moves.OfSpared (.refundBillingOrder id errorText entryID now) id := fun _ _ h ↦ h
  rw [refundBillingOrder, meets_bind]
  refine meets_first (k := RowKey.billingOrder id) fun s₁ _ order _ ↦
    meets_ite (fun _ ↦ meets_pure (.of_aside (aside_nil _))) fun _ ↦
      meets_ite (fun _ ↦ (meets_fail _ _ _ _ _).mpr trivial) fun _ ↦ ?_
  exact meets_refundOrder hmoves (.inl (aside_nil _)) _ _ _

/-! ### Claims -/

/-- The candidates of a claim are orders that can be claimed. -/
theorem reconcilable_of_mem_candidates {now : Time} {limit : ℕ} {skipped : List String} {v : Store}
    {d : String × BillingOrder} (h : d ∈ reconciliationCandidates now limit skipped v) :
    v.lookup (.billingOrder d.1) = some d.2 ∧ d.2.isReconcilable now = true := by
  rw [reconciliationCandidates] at h
  obtain ⟨k, o, ho, hd⟩ :=
    Db.mem_select.mp ((List.mem_insertionSort _).mp (List.mem_of_mem_take h))
  cases k with
  | billingOrder id =>
    simp only [Option.ite_none_right_eq_some, Option.some.injEq] at hd
    obtain ⟨⟨hreconcilable, -⟩, rfl⟩ := hd
    exact ⟨ho, hreconcilable⟩
  | _ => simp at hd

theorem nodup_reconciliationCandidates (now : Time) (limit : ℕ) (skipped : List String)
    (v : Store) :
    ((reconciliationCandidates now limit skipped v).map fun d ↦ RowKey.billingOrder d.1).Nodup := by
  have h : ((reconcilableOrders now skipped v).map fun d ↦ RowKey.billingOrder d.1).Nodup := by
    refine Db.nodup_select (fun k o a ha ↦ ?_) v
    cases k with
    | billingOrder id =>
      simp only [Option.ite_none_right_eq_some, Option.some.injEq] at ha
      rw [← ha.2]
    | _ => simp at ha
  have hsort := (List.perm_insertionSort (reconciliationBefore · ·)
    (reconcilableOrders now skipped v)).map fun d ↦ RowKey.billingOrder d.1
  exact (hsort.nodup_iff.mpr h).sublist ((List.take_sublist _ _).map _)

theorem meets_claimReconciliations (owner : String) (now : Time) (lease limit : ℤ)
    (skipped : List String) (token : String → String) :
    (ReconcileCall.claim owner now lease limit skipped token).prog.Meets reconcileContract
      (Commits reviewed reconcileContract (.claim owner now lease limit skipped token))
      [] [] s := by
  rw [ReconcileCall.prog, claimKuaiziBillingReconciliations]
  refine meets_ite (fun _ ↦ (meets_fail _ _ _ _ _).mpr trivial) fun _ ↦ ?_
  refine meets_claimBatch (k := RowKey.billingOrder) (fun _ o ↦ o)
    (fun v d hd ↦ (reconcilable_of_mem_candidates hd).1) (nodup_reconciliationCandidates _ _ _)
    (fun v d hd ↦ ?_) fun v locks ws s₁ htaken ↦ ?_
  · exact takes_update reconcileContract .billingOrder
      (fun _ o ↦ BillingOrder.isReconcilable o now) _ (reconcilable_of_mem_candidates hd).2 rfl
  refine ReconcileCall.commits_of_moving (fun k hk _ ↦ ?_) (fun id o' ha ↦ ?_)
    (by simp [ReconcileCall.presents]) (by simp [ReconcileCall.parks])
  · obtain ⟨d, hd, rfl⟩ := htaken.keys k hk
    exact ⟨d.2, _, htaken.pinned d hd, ⟨(reconcilable_of_mem_candidates hd).2, rfl⟩,
      List.mem_map_of_mem hd⟩
  · obtain ⟨d, hd, heq⟩ := List.mem_map.mp ha
    cases heq
    exact ⟨d.2, htaken.pinned d hd, (reconcilable_of_mem_candidates hd).2, rfl⟩

/-- **Every call meets the contract.** -/
theorem ReconcileCall.meets_prog (c : ReconcileCall) (s : Store) :
    c.prog.Meets reconcileContract (Commits reviewed reconcileContract c) [] [] s := by
  cases c with
  | claim owner now lease limit skipped token => exact meets_claimReconciliations _ _ _ _ _ _
  | reschedule id owner leaseToken reason next => exact meets_rescheduleReconciliation _ _ _ _ _
  | requireReview id owner leaseToken reason => exact meets_requireReview _ _ _ _
  | recordObservation id providerOrderID amount billingStatus taskStatus totalTokens =>
    exact meets_of_reconciles rfl rfl rfl (reconciles_recordObservation _ _ _ _ _ _)
  | markForReconciliation id providerTaskID reason next =>
    exact meets_of_reconciles rfl rfl rfl (reconciles_markForReconciliation _ _ _ _)
  | recordUsage id usage status => exact meets_of_reconciles rfl rfl rfl (reconciles_recordUsage _ _ _)
  | beginRequest id now => exact meets_of_reconciles rfl rfl rfl (reconciles_beginRequest _ _)
  | settleTokenBilling id fact consumeID releaseID =>
    exact meets_of_reconciles rfl rfl rfl (reconciles_settleTokenBilling _ _ _ _)
  | settleFromResponseUsage id fact consumeID releaseID =>
    exact meets_of_reconciles rfl rfl rfl (reconciles_settleFromResponseUsage _ _ _ _)
  | refundTokenBilling id providerOrderID amount taskStatus totalTokens errorText entryID now =>
    exact meets_of_reconciles rfl rfl rfl (reconciles_refundTokenBilling _ _ _ _ _ _ _ _)
  | settleBillingOrder id providerRequestID entryID now =>
    exact meets_of_reconciles rfl rfl rfl (reconciles_settleBillingOrder _ _ _ _)
  | refundBillingOrder id errorText entryID now =>
    exact meets_of_reconciles rfl rfl rfl (reconciles_refundBillingOrder _ _ _ _)
  | other p hp =>
    refine meets_of_reconciles rfl rfl rfl fun s ↦ ?_
    exact (Moving.of_aside (aside_nil _)).tail trivial hp

end Meets

/-! ## Runs -/

/-- The transaction parked the order `id` for review. -/
def Parks (id : String) (e : Ended ReconcileCall Row (List (String × BillingOrder))) : Prop :=
  e.result.isSome = true ∧ e.call.parks = some id

/-- The transaction claimed the order `id`. -/
def Claims (id : String) (e : Ended ReconcileCall Row (List (String × BillingOrder))) : Prop :=
  ∃ o', (id, o') ∈ e.result.getD []

/-- **Reconciliation under leases**, over the log of a run. -/
structure ReconcilesUnderLease (id : String)
    (log : List (Ended ReconcileCall Row (List (String × BillingOrder)))) : Prop where
  /-- A call that presents a lease other than the stored one fails, and changes nothing. -/
  fenced : ∀ e ∈ log, ∀ owner token, e.call.presents = some (id, owner, token) →
    (¬∃ o, e.before.lookup (.billingOrder id) = some o ∧ o.isLeasedTo owner token = true) →
      e.result = none ∧ e.after = e.before
  /-- An order is leased only when it has no unexpired lease, and then has this one. -/
  granted : ∀ e ∈ log, ∀ o', (id, o') ∈ e.result.getD [] →
    ∃ owner now lease limit skipped token o,
      e.call = .claim owner now lease limit skipped token ∧
      e.before.lookup (.billingOrder id) = some o ∧ o.reconcileLeaseExpiresAt.all (· ≤ now) = true ∧
      e.after.lookup (.billingOrder id) = some o' ∧
      o'.reconcileLease = some (trimSpace owner, token id, now + lease.toNat)
  /-- Every other transaction leaves the lease or takes it off. -/
  kept : ∀ e ∈ log, ¬Claims id e → ∀ o, e.before.lookup (.billingOrder id) = some o →
    ∃ o', e.after.lookup (.billingOrder id) = some o' ∧
      (o'.reconcileLease = o.reconcileLease ∨ o'.reconcileLease = none)
  /-- An order that was parked for review is not claimed any more. -/
  parked : log.Pairwise fun later earlier ↦ Parks id earlier → ¬Claims id later

section Runs

variable {id : String} {s : Store}
  {cfg : Config ReconcileCall Row RepoError (List (String × BillingOrder))}

/-- The order is parked for review, or closed. -/
def AtRest (id : String) (s : Store) : Prop :=
  ∃ o, s.lookup (.billingOrder id) = some o ∧ (o.IsParked ∨ o.status.isOpen = false)

theorem ReconcileCall.ok_of_reach (h : Reach reviewed (.init s) cfg) :
    Contract.Ok reviewed reconcileContract cfg :=
  Contract.sound (fun _ _ _ _ _ _ _ ↦ trivial) (fun _ ↦ keeps_trivial _)
    (fun c s _ ↦ c.meets_prog s) trivial h

/-- What can be claimed is neither parked nor closed. -/
theorem BillingOrder.not_atRest_of_isReconcilable {o : BillingOrder} {now : Time}
    (h : o.isReconcilable now = true) : ¬(o.IsParked ∨ o.status.isOpen = false) := by
  simp only [isReconcilable, Bool.and_eq_true, decide_eq_true_eq] at h
  obtain ⟨⟨⟨hstatus, hreview⟩, -⟩, -⟩ := h
  rintro (hparked | hclosed)
  · exact hreview hparked.2
  · simp [hstatus] at hclosed

/-- **An order at rest stays at rest.** -/
theorem AtRest.of_post {c : ReconcileCall} {a : List (String × BillingOrder)} {s' : Store}
    (hpost : ReconcilePost c a s s') (h : AtRest id s) : AtRest id s' := by
  obtain ⟨o, ho, hrest⟩ := h
  obtain ⟨o', ho', rfl | hmoves⟩ := hpost.moved.moved (.billingOrder id) o rfl ho
  · exact ⟨o', ho', hrest⟩
  refine ⟨o', ho', ?_⟩
  have hspared : Spared (c.Spares id o) o o' → o'.IsParked ∨ o'.status.isOpen = false := by
    intro hspared
    rcases hrest with hparked | hclosed
    · exact hspared.parked (hpost.spared id o ho hparked) hparked
    · exact .inr (hspared.closed hclosed)
  cases c with
  | claim owner now => exact absurd hrest (BillingOrder.not_atRest_of_isReconcilable hmoves.1.1)
  | _ => exact hspared hmoves

/-- **Orders are reconciled under leases**, one at a time, and not after they were parked for review,
in every interleaving in which no parked order is observed or found charged above its
reservation. -/
theorem orders_reconciledUnderLease (h : Reach reviewed (.init s) cfg) :
    ReconcilesUnderLease id cfg.log := by
  have hok := ReconcileCall.ok_of_reach h
  have hful : ∀ e ∈ cfg.log, (∃ a, e.result = some a ∧ ReconcilePost e.call a e.before e.after) ∨
      e.result = none ∧ e.after = e.before := by
    intro e he
    have hful := hok.log e he
    rw [Contract.Fulfilled] at hful
    cases hres : e.result with
    | none =>
      rw [hres] at hful
      exact .inr ⟨rfl, hful⟩
    | some a =>
      rw [hres] at hful
      obtain ⟨locks, hcommit⟩ := hful
      exact .inl ⟨a, rfl, hcommit.post⟩
  refine ⟨fun e he owner token hpresents hnot ↦ ?_, fun e he o' hmem ↦ ?_,
    fun e he hclaims o ho ↦ ?_, ?_⟩
  · rcases hful e he with ⟨a, -, hpost⟩ | hnone
    · exact absurd (hpost.presented id owner token hpresents) hnot
    · exact hnone
  · rcases hful e he with ⟨a, hres, hpost⟩ | ⟨hres, -⟩
    · rw [hres, Option.getD_some] at hmem
      obtain ⟨ho', o, ho, hleases⟩ := hpost.claimed id o' hmem
      cases hc : e.call with
      | claim owner now lease limit skipped token =>
        rw [hc] at hleases
        obtain ⟨hreconcilable, rfl⟩ := hleases
        simp only [BillingOrder.isReconcilable, Bool.and_eq_true] at hreconcilable
        exact ⟨owner, now, lease, limit, skipped, token, o, rfl, ho, hreconcilable.2, ho', rfl⟩
      | _ =>
        rw [hc] at hleases
        exact hleases.elim
    · simp [hres] at hmem
  · rcases hful e he with ⟨a, hres, hpost⟩ | ⟨-, heq⟩
    · obtain ⟨o', ho', rfl | hmoves⟩ := hpost.moved.moved (.billingOrder id) o rfl ho
      · exact ⟨o', ho', .inl rfl⟩
      · refine ⟨o', ho', ?_⟩
        cases hc : e.call with
        | claim =>
          rw [hc] at hmoves
          exact absurd ⟨o', by rw [hres, Option.getD_some]; exact hmoves.2⟩ hclaims
        | _ =>
          rw [hc] at hmoves
          exact Spared.lease hmoves
    · exact ⟨o, heq ▸ ho, .inl rfl⟩
  · refine (linked_of_reach h).since (P := AtRest id) (fun e he hrest ↦ ?_) (fun e he hparks ↦ ?_)
      fun e he ⟨o', hmem⟩ ↦ ?_
    · rcases hful e he with ⟨a, -, hpost⟩ | ⟨-, heq⟩
      · exact hrest.of_post hpost
      · rwa [heq]
    · rcases hful e he with ⟨a, -, hpost⟩ | ⟨hres, -⟩
      · obtain ⟨o', ho', hparked⟩ := hpost.parked id hparks.2
        exact ⟨o', ho', .inl hparked⟩
      · simp [Parks, hres] at hparks
    · rcases hful e he with ⟨a, hres, hpost⟩ | ⟨hres, -⟩
      · rw [hres, Option.getD_some] at hmem
        obtain ⟨-, o, ho, hleases⟩ := hpost.claimed id o' hmem
        rintro ⟨o₁, ho₁, hrest⟩
        cases ho.symm.trans ho₁
        cases hc : e.call with
        | claim =>
          rw [hc] at hleases
          exact BillingOrder.not_atRest_of_isReconcilable hleases.1 hrest
        | _ =>
          rw [hc] at hleases
          exact hleases.elim
      · simp [hres] at hmem

end Runs

/-! ## An order that comes back from review -/

/-- An order whose bill has not come. -/
def owedOrder : Store :=
  AList.insert (.providerAccount "p") { providerKind := "kuaizi", enabled := true } <|
    AList.insert (.providerEndpointVersion "v") ⟨"p", "active"⟩ <|
      AList.insert (.billingOrder "o")
        { userID := "u", billingMode := "token_usage", amountMicrocredits := 100
          reservedAmountMicrocredits := 100, providerEndpointVersionID := "v"
          providerCredentialVersionID := "k", nextReconcileAt := some 1, status := .uncertain
          providerRequestID := "r" } ∅

/-- What the claim and the review leave. -/
def claimedOrder : Store :=
  ((claimKuaiziBillingReconciliations "a" 2 5 10 [] fun _ ↦ "x").transact none owedOrder).2

theorem orders_reconciledUnderLease_claimed :
    ∃ cfg, Reach reviewed (.init owedOrder) cfg ∧ cfg.log.length = 2 ∧
      ReconcilesUnderLease "o" cfg.log := by
  have hfirst : ∃ r, (ReconcileCall.claim "a" 2 5 10 [] fun _ ↦ "x").prog.run owedOrder =
      .ok (r, claimedOrder) := ⟨_, rfl⟩
  have hsecond : ∃ r, (ReconcileCall.requireReview "o" "a" "x" "").prog.run claimedOrder =
      .ok r := ⟨_, rfl⟩
  obtain ⟨a, hclaim⟩ := hfirst
  obtain ⟨⟨b, s⟩, hreview⟩ := hsecond
  have hreach : Reach reviewed (.init owedOrder) ⟨s, ∅, _⟩ :=
    (reach_of_run (S := reviewed) (c := .claim "a" 2 5 10 [] fun _ ↦ "x")
      (fun _ _ _ _ _ ↦ trivial) hclaim).trans
      (reach_of_run (S := reviewed) (c := .requireReview "o" "a" "x" "")
        (fun _ _ _ _ _ ↦ trivial) hreview)
  exact ⟨_, hreach, rfl, orders_reconciledUnderLease hreach⟩

/-- The order is claimed and parked for review; an observation of its bill, made without a lease, and
the scheduling that follows it bring it back. -/
def lateObservation : List (Action ReconcileCall) :=
  [.start 0 (.claim "a" 2 5 10 [] fun _ ↦ "x"), .step 0, .step 0, .commit 0,
    .start 0 (.requireReview "o" "a" "x" ""), .step 0, .commit 0,
    .start 1 (.recordObservation "o" "b" 1 "pending" "running" 0), .step 1, .commit 1,
    .start 1 (.markForReconciliation "o" "r" "" 4), .step 1, .commit 1,
    .start 2 (.claim "c" 5 5 10 [] fun _ ↦ "z"), .step 2, .step 2, .commit 2]

theorem play_lateObservation :
    (play ReconcileCall.prog (.init owedOrder) lateObservation).map
      (fun cfg ↦ cfg.log.map fun e ↦
        (e.result.isSome && e.call.parks = some "o", (e.result.getD []).map (·.1))) =
      some [(false, ["o"]), (false, []), (false, []), (true, []), (false, ["o"])] := by
  decide

/-- **An order parked for review is claimed again.** -/
theorem exists_run_claiming_parked :
    ∃ cfg, Reach (.free ReconcileCall.prog) (.init owedOrder) cfg ∧
      ¬ReconcilesUnderLease "o" cfg.log := by
  obtain ⟨cfg, hplay, hlog⟩ := Option.map_eq_some_iff.mp play_lateObservation
  refine ⟨cfg, reach_of_play hplay, fun h ↦ ?_⟩
  have hpairs : (cfg.log.map fun e ↦ (e.result.isSome && e.call.parks = some "o",
      (e.result.getD []).map (·.1))).Pairwise fun later earlier ↦
        earlier.1 = true → "o" ∉ later.2 := by
    refine List.pairwise_map.mpr (h.parked.imp fun hparked hearlier hlater ↦ ?_)
    rw [Bool.and_eq_true, decide_eq_true_eq] at hearlier
    obtain ⟨d, hd, hid⟩ := List.mem_map.mp hlater
    exact hparked hearlier ⟨d.2, by rw [← hid]; exact hd⟩
  rw [hlog] at hpairs
  revert hpairs
  decide

end HMaigc
