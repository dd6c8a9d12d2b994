import HMaigc.Sql.Claim
import HMaigc.Repository.TokenBilling
import Mathlib.Data.List.Sort

/-!
# Reconciling orders with the provider's bills

The other half of `repository/token_billing.go`: an order whose charge is not known yet waits for the
provider's bill.  Workers claim such orders under leases, look the bill up, record what it says, and
then settle the order, put it off, or park it for a person to review.

`ClaimKuaiziBillingReconciliations` selects with `SKIP LOCKED`: the orders it skips are an argument,
as are the random lease tokens.
-/

set_option autoImplicit false

namespace HMaigc

open Sql Go

namespace BillingOrder

/-- The columns `RecordProviderBillingObservation` sets. -/
def recordObservation (order : BillingOrder) (providerOrderID : String) (amount : ℤ)
    (billingStatus taskStatus : String) (totalTokens : ℤ) : BillingOrder :=
  { order with
    providerBillingOrderID := providerOrderID
    providerBillingAmount := amount
    providerBillingStatus := billingStatus
    providerBillingUnit := "fen"
    providerBillingTotalTokens := totalTokens
    providerTaskStatus := taskStatus }

/-- The order waits for its bill, is not parked for review, and nobody holds an unexpired lease on
it. -/
def isReconcilable (order : BillingOrder) (now : Time) : Bool :=
  order.status = .uncertain && order.providerBillingStatus ≠ "requires_review" &&
    (order.nextReconcileAt.any (· ≤ now) ||
      (order.nextReconcileAt.isNone && order.providerBillingOrderID = "" &&
        order.providerBillingStatus = "")) &&
    order.reconcileLeaseExpiresAt.all (· ≤ now)

/-- The columns a claim sets. -/
def leaseReconciliation (order : BillingOrder) (owner token : String) (expiresAt : Time) :
    BillingOrder :=
  { order with
    reconcileLeaseOwner := owner
    reconcileLeaseToken := token
    reconcileLeaseExpiresAt := some expiresAt
    reconcileAttempts := order.reconcileAttempts + 1 }

/-- The order waits for its bill under this lease. -/
def isLeasedTo (order : BillingOrder) (owner token : String) : Bool :=
  order.status = .uncertain && order.reconcileLeaseOwner = owner &&
    order.reconcileLeaseToken = token

/-- The columns `RescheduleKuaiziBillingReconciliation` sets. -/
def rescheduleReconciliation (order : BillingOrder) (reason : String) (next : Time) :
    BillingOrder :=
  { order.stopReconciling with
    error := truncateText reason 1000
    nextReconcileAt := some next }

/-- The columns `RequireKuaiziBillingReview` sets. -/
def requireReview (order : BillingOrder) (reason : String) : BillingOrder :=
  { order.stopReconciling with
    providerBillingStatus := "requires_review"
    error := truncateText reason 1000 }

end BillingOrder

/-- `RecordProviderBillingObservation`. -/
def recordProviderBillingObservation (id providerOrderID : String) (amount : ℤ)
    (billingStatus taskStatus : String) (totalTokens : ℤ) : DbTx Unit := do
  if isBlank id || isBlank providerOrderID || amount < 0 || totalTokens < 0 ||
      isBlank billingStatus || isBlank taskStatus then
    throw (RepoError.text "provider billing observation facts are invalid")
  let rows ← Prog.update (.billingOrder id) (fun o ↦ o.status.isOpen) fun o ↦
    .ok (o.recordObservation providerOrderID amount billingStatus taskStatus totalTokens)
  if rows ≠ 1 then throw errBillingStateConflict

/-- The endpoint version belongs to an account of the kind `kuaizi`. -/
def isKuaiziEndpoint (endpointID : String) (s : Store) : Bool :=
  (s.lookup (.providerEndpointVersion endpointID)).any fun endpoint ↦
    (s.lookup (.providerAccount endpoint.providerAccountID)).any fun account ↦
      account.providerKind = "kuaizi"

/-- `ORDER BY next_reconcile_at ASC, created_at ASC`, where `NULL` comes last. -/
def reconciliationBefore (a b : String × BillingOrder) : Bool :=
  match a.2.nextReconcileAt, b.2.nextReconcileAt with
  | some t, some u => t < u || (t = u && a.2.createdAt ≤ b.2.createdAt)
  | some _, none => true
  | none, some _ => false
  | none, none => a.2.createdAt ≤ b.2.createdAt

/-- The orders that can be claimed now and are not skipped. -/
def reconcilableOrders (now : Time) (skipped : List String) (s : Store) :
    List (String × BillingOrder) :=
  s.select fun
    | .billingOrder id, o =>
      if o.isReconcilable now ∧ o.providerRequestID ≠ "" ∧ o.providerEndpointVersionID ≠ "" ∧
          o.providerCredentialVersionID ≠ "" ∧ isKuaiziEndpoint o.providerEndpointVersionID s ∧
          id ∉ skipped then
        some (id, o)
      else none
    | _, _ => none

/-- The `SELECT … FOR UPDATE SKIP LOCKED` of `ClaimKuaiziBillingReconciliations`. -/
def reconciliationCandidates (now : Time) (limit : ℕ) (skipped : List String) (s : Store) :
    List (String × BillingOrder) :=
  ((reconcilableOrders now skipped s).insertionSort (reconciliationBefore · ·)).take limit

/-- `ClaimKuaiziBillingReconciliations`; `token id` is the token drawn for the order `id`. -/
def claimKuaiziBillingReconciliations (owner : String) (now : Time) (lease limit : ℤ)
    (skipped : List String) (token : String → String) : DbTx (List (String × BillingOrder)) := do
  if isBlank owner || isZero now || lease ≤ 0 || limit ≤ 0 then
    throw (RepoError.text "kuaizi billing reconciliation claim is invalid")
  let leaseExpiresAt := now + lease.toNat
  Prog.claimBatch .billingOrder (reconciliationCandidates now (min limit 100).toNat skipped)
    (fun id ↦ Prog.update (.billingOrder id) (fun o ↦ o.isReconcilable now) fun o ↦
      .ok (o.leaseReconciliation (trimSpace owner) (token id) leaseExpiresAt))
    fun id candidate ↦ candidate.leaseReconciliation (trimSpace owner) (token id) leaseExpiresAt

/-- `RescheduleKuaiziBillingReconciliation`. -/
def rescheduleKuaiziBillingReconciliation (id owner leaseToken reason : String) (next : Time) :
    DbTx Unit := do
  if isBlank id || isBlank owner || isBlank leaseToken || isZero next then
    throw (RepoError.text "kuaizi billing reconciliation reschedule is invalid")
  let rows ← Prog.update (.billingOrder id) (fun o ↦ o.isLeasedTo owner leaseToken) fun o ↦
    .ok (o.rescheduleReconciliation reason next)
  if rows ≠ 1 then throw errBillingStateConflict

/-- `RequireKuaiziBillingReview`. -/
def requireKuaiziBillingReview (id owner leaseToken reason : String) : DbTx Unit := do
  let rows ← Prog.update (.billingOrder (trimSpace id))
    (fun o ↦ o.isLeasedTo (trimSpace owner) (trimSpace leaseToken)) fun o ↦
    .ok (o.requireReview reason)
  if rows ≠ 1 then throw errBillingStateConflict

end HMaigc
