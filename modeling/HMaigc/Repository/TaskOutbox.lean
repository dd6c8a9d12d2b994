import HMaigc.Sql.Claim
import HMaigc.Repository.TaskBilling
import Mathlib.Data.List.Sort

/-!
# Delivering outbox records

The second half of `repository/task_billing.go`'s outbox: a dispatcher claims a batch of records
under a lease, delivers each, and then either completes it or puts it back for later.

`ClaimTaskOutbox` selects with `SKIP LOCKED`, so which records it sees depends on the other sessions;
the records it skips are an argument here, as are the random lease tokens it draws.
-/

set_option autoImplicit false

namespace HMaigc

open Sql Go

/-- `EnqueueTaskOutbox`. -/
def enqueueTaskOutbox (outboxID taskID : String) (draft : TaskOutboxDraft) (now : Time) :
    DbTx Unit :=
  enqueueTaskOutboxTx outboxID taskID draft now

namespace TaskOutbox

/-- The record waits for its next attempt, or its lease has run out. -/
def isClaimable (record : TaskOutbox) (now : Time) : Bool :=
  (record.status = .pending && record.availableAt ≤ now) ||
    (record.status = .processing && record.leaseExpiresAt.any (· ≤ now))

/-- The record is being delivered under this lease. -/
def isHeldBy (record : TaskOutbox) (owner token : String) : Bool :=
  record.status = .processing && record.leaseOwner = owner && record.leaseToken = token

/-- The columns a claim sets. -/
def claim (record : TaskOutbox) (owner token : String) (expiresAt : Time) : TaskOutbox :=
  { record with
    status := .processing
    attemptCount := record.attemptCount + 1
    leaseOwner := owner
    leaseToken := token
    leaseExpiresAt := some expiresAt
    lastError := "" }

/-- The columns a completion sets. -/
def complete (record : TaskOutbox) (deliveredAt : Time) : TaskOutbox :=
  { record with
    status := .delivered
    deliveredAt := some deliveredAt
    leaseOwner := ""
    leaseToken := ""
    leaseExpiresAt := none
    lastError := "" }

/-- The columns a rescheduling sets. -/
def reschedule (record : TaskOutbox) (deliveryError : String) (availableAt : Time) : TaskOutbox :=
  { record with
    status := .pending
    availableAt := availableAt
    leaseOwner := ""
    leaseToken := ""
    leaseExpiresAt := none
    lastError := deliveryError }

end TaskOutbox

/-- `ORDER BY available_at ASC, created_at ASC`. -/
def outboxBefore (a b : String × TaskOutbox) : Prop :=
  a.2.availableAt < b.2.availableAt ∨
    a.2.availableAt = b.2.availableAt ∧ a.2.createdAt ≤ b.2.createdAt

instance : DecidableRel outboxBefore := fun _ _ ↦ inferInstanceAs (Decidable (_ ∨ _))

/-- The records that can be claimed now and are not skipped. -/
def claimableTaskOutboxes (now : Time) (skipped : List String) (s : Store) :
    List (String × TaskOutbox) :=
  s.select fun
    | .taskOutbox id, record =>
      if record.isClaimable now ∧ id ∉ skipped then some (id, record) else none
    | _, _ => none

/-- The `SELECT … FOR UPDATE SKIP LOCKED` of `ClaimTaskOutbox`. -/
def outboxCandidates (now : Time) (limit : ℕ) (skipped : List String) (s : Store) :
    List (String × TaskOutbox) :=
  ((claimableTaskOutboxes now skipped s).insertionSort outboxBefore).take limit

/-- `ClaimTaskOutbox`; `token id` is the token drawn for the record `id`. -/
def claimTaskOutbox (owner : String) (now : Time) (leaseDuration : ℤ) (limit : ℤ)
    (skipped : List String) (token : String → String) : DbTx (List (String × TaskOutbox)) := do
  if isBlank owner || isZero now || leaseDuration ≤ 0 || limit ≤ 0 || 100 < limit then
    throw errTaskOutboxConflict
  let expiresAt := now + leaseDuration.toNat
  Prog.claimBatch .taskOutbox (outboxCandidates now limit.toNat skipped)
    (fun id ↦ Prog.update (.taskOutbox id) (fun r ↦ r.isClaimable now) fun r ↦
      .ok (r.claim (trimSpace owner) (token id) expiresAt))
    fun id candidate ↦ candidate.claim (trimSpace owner) (token id) expiresAt

/-- `CompleteTaskOutbox`. -/
def completeTaskOutbox (id owner token : String) (deliveredAt : Time) : DbTx Unit := do
  if isBlank id || isBlank owner || isBlank token || isZero deliveredAt then
    throw errTaskOutboxConflict
  let rows ← Prog.update (.taskOutbox id) (fun r ↦ r.isHeldBy owner token) fun r ↦
    .ok (r.complete deliveredAt)
  if rows ≠ 1 then throw errTaskOutboxConflict

/-- `RescheduleTaskOutbox`; `deliveryError` is the text of the error, if there is one. -/
def rescheduleTaskOutbox (id owner token : String) (deliveryError : Option String)
    (availableAt : Time) : DbTx Unit := do
  match deliveryError with
  | none => throw errTaskOutboxConflict
  | some deliveryError =>
    if isBlank id || isBlank owner || isBlank token || isZero availableAt then
      throw errTaskOutboxConflict
    let rows ← Prog.update (.taskOutbox id) (fun r ↦ r.isHeldBy owner token) fun r ↦
      .ok (r.reschedule deliveryError availableAt)
    if rows ≠ 1 then throw errTaskOutboxConflict

end HMaigc
