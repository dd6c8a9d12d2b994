import HMaigc.Sql.Moves
import HMaigc.Sql.Unique
import HMaigc.Repository.TaskOutbox
import HMaigc.Repository.Footprint

/-!
# The lease protocol of the task outbox

Dispatchers take records off the outbox under leases, and any of them can be late: it may complete a
record after its lease ran out and somebody else took the record over.  `OutboxCall` is everything
that writes the outbox, under READ COMMITTED and in any interleaving.

* `OutboxOk` is the invariant: the index on the idempotency key is unique, and a record being
  delivered has a time at which its lease runs out.
* `OutboxPost` is what each call promises the others.  Enqueuing enters an index entry it has locked
  (`Entering`); the other calls move records they have locked (`Moving`), each in the way
  `OutboxCall.Moves` says.
* `latestLease_of_processing` reads the log: a record being delivered is under the lease that the
  latest claim of it was given.
* `outbox_leaseProtocol` puts these together for every run.
-/

set_option autoImplicit false

namespace HMaigc

open Sql Go Prog

/-! ## Calls -/

/-- The row is a record of the outbox. -/

def RowKey.isOutbox : RowKey → Bool
  | .taskOutbox _ => true
  | _ => false

/-- A dispatcher's call, or a transaction on the other tables that ends with enqueuing a record, as
the finalizations of tasks do. -/
inductive OutboxCall where
  | enqueue (outboxID taskID : String) (draft : TaskOutboxDraft) (now : Time)
  | claim (owner : String) (now : Time) (leaseDuration limit : ℤ) (skipped : List String)
      (token : String → String)
  | complete (id owner token : String) (deliveredAt : Time)
  | reschedule (id owner token : String) (deliveryError : Option String) (availableAt : Time)
  | other (p : DbTx Unit) (hp : p.WritesOnly (·.isOutbox = false)) (outboxID taskID : String)
      (outbox : Option TaskOutboxDraft) (now : Time)

namespace OutboxCall

/-- The transaction; the result is what a claim has claimed. -/
def prog : OutboxCall → DbTx (List (String × TaskOutbox))
  | .enqueue outboxID taskID draft now => do
    enqueueTaskOutbox outboxID taskID draft now
    return []
  | .claim owner now leaseDuration limit skipped token =>
    claimTaskOutbox owner now leaseDuration limit skipped token
  | .complete id owner token deliveredAt => do
    completeTaskOutbox id owner token deliveredAt
    return []
  | .reschedule id owner token deliveryError availableAt => do
    rescheduleTaskOutbox id owner token deliveryError availableAt
    return []
  | .other p _ outboxID taskID outbox now => do
    p
    enqueueIfAny outboxID taskID outbox now
    return []

/-- What the call, with the result `a`, makes of the record `id`. -/
def Moves (a : List (String × TaskOutbox)) (id : String) (r r' : TaskOutbox) :
    OutboxCall → Prop
  | .claim owner now leaseDuration _ _ token => r.isClaimable now = true ∧
      r' = r.claim (trimSpace owner) (token id) (now + leaseDuration.toNat) ∧ (id, r') ∈ a
  | .complete id' owner token deliveredAt =>
    id' = id ∧ r.isHeldBy owner token = true ∧ r' = r.complete deliveredAt
  | .reschedule id' owner token deliveryError availableAt =>
    id' = id ∧ r.isHeldBy owner token = true ∧
      ∃ text, deliveryError = some text ∧ r' = r.reschedule text availableAt
  | _ => False

/-- The record a completion or a rescheduling is about, and the lease it is made under. -/
def finishes : OutboxCall → Option (String × String × String)
  | .complete id owner token _ => some (id, owner, token)
  | .reschedule id owner token _ _ => some (id, owner, token)
  | _ => none

end OutboxCall

/-! ## What holds of every record -/

/-- A record being delivered has a time its lease runs out at. -/
def TaskOutbox.IsScheduled (record : TaskOutbox) : Prop :=
  record.status = .processing → record.leaseExpiresAt.isSome = true

/-- What a write does to a record. -/
def OutboxStep : ∀ k, Option (Row k) → Row k → Prop
  | .taskOutbox _, old, r' => r'.IsScheduled ∧ ∀ r, old = some r →
      r'.idempotencyKey = r.idempotencyKey ∧ r.status ≠ .delivered
  | _, _, _ => True

theorem rowTrans_outboxStep : RowTrans OutboxStep := by
  intro k o r r' h h'
  cases k with
  | taskOutbox id =>
    refine ⟨h'.1, fun r₀ hr₀ ↦ ?_⟩
    obtain ⟨hkey, hstatus⟩ := h.2 r₀ hr₀
    exact ⟨(h'.2 r rfl).1.trans hkey, hstatus⟩
  | _ => trivial

theorem outboxStep_of_writesOnly {α : Type} {p : DbTx α} (h : p.WritesOnly (·.isOutbox = false)) :
    p.Keeps OutboxStep fun _ ↦ True :=
  h.imp fun k old new hk ↦ by
    cases k with
    | taskOutbox id => cases hk
    | _ => trivial

theorem outboxStep_enqueueTaskOutboxTx (outboxID taskID : String) (draft : TaskOutboxDraft)
    (now : Time) :
    (enqueueTaskOutboxTx outboxID taskID draft now).Keeps OutboxStep fun _ ↦ True := by
  have hcreate : (createTaskOutbox outboxID (draft.record taskID now)).Keeps OutboxStep
      fun _ ↦ True := by
    simp [createTaskOutbox, OutboxStep, TaskOutboxDraft.record, TaskOutbox.IsScheduled]
  rw [enqueueTaskOutboxTx, keeps_ite]
  refine ⟨fun _ ↦ by simp, fun _ ↦ hcreate.bind fun created ↦ ?_⟩
  rw [keeps_ite]
  refine ⟨fun _ ↦ by simp, fun _ ↦ ?_⟩
  rw [keeps_bind, keeps_query]
  intro v
  cases taskOutboxByKey (draft.record taskID now).idempotencyKey v with
  | none => simp
  | some existing => simp [keeps_ite]

theorem outboxStep_enqueueIfAny (outboxID taskID : String) (outbox : Option TaskOutboxDraft)
    (now : Time) : (enqueueIfAny outboxID taskID outbox now).Keeps OutboxStep fun _ ↦ True := by
  cases outbox with
  | none => exact (keeps_done _).mpr trivial
  | some draft => exact outboxStep_enqueueTaskOutboxTx outboxID taskID draft now

theorem outboxStep_claimTaskOutbox (owner : String) (now : Time) (leaseDuration limit : ℤ)
    (skipped : List String) (token : String → String) :
    (claimTaskOutbox owner now leaseDuration limit skipped token).Keeps OutboxStep
      fun _ ↦ True := by
  rw [claimTaskOutbox, keeps_ite]
  refine ⟨fun _ ↦ by simp, fun _ ↦ keeps_claimBatch fun id ↦ ?_⟩
  simp [OutboxStep, TaskOutbox.IsScheduled, TaskOutbox.claim, TaskOutbox.isClaimable]
  rintro r (h | h) <;> simp [h.1]

theorem TaskOutbox.not_delivered_of_isHeldBy {r : TaskOutbox} {owner token : String}
    (h : r.isHeldBy owner token = true) : r.status ≠ .delivered := by
  simp only [isHeldBy, Bool.and_eq_true, decide_eq_true_eq] at h
  simp [h.1.1]

theorem OutboxCall.keeps_prog (c : OutboxCall) : c.prog.Keeps OutboxStep fun _ ↦ True := by
  cases c with
  | enqueue outboxID taskID draft now =>
    exact (outboxStep_enqueueTaskOutboxTx _ _ _ _).bind fun _ ↦ (keeps_done _).mpr trivial
  | claim owner now leaseDuration limit skipped token =>
    exact outboxStep_claimTaskOutbox owner now leaseDuration limit skipped token
  | complete id owner token deliveredAt =>
    simp [prog, completeTaskOutbox, keeps_ite, OutboxStep, TaskOutbox.IsScheduled,
      TaskOutbox.complete]
    exact fun _ _ _ _ _ h ↦ TaskOutbox.not_delivered_of_isHeldBy h
  | reschedule id owner token deliveryError availableAt =>
    cases deliveryError with
    | none => simp [prog, rescheduleTaskOutbox]
    | some text =>
      simp [prog, rescheduleTaskOutbox, keeps_ite, OutboxStep, TaskOutbox.IsScheduled,
        TaskOutbox.reschedule]
      exact fun _ _ _ _ _ h ↦ TaskOutbox.not_delivered_of_isHeldBy h
  | other p hp outboxID taskID outbox now =>
    exact (outboxStep_of_writesOnly hp).bind fun _ ↦
      (outboxStep_enqueueIfAny _ _ _ _).bind fun _ ↦ (keeps_done _).mpr trivial

/-! ## The contract -/

/-- The unique index on `idempotency_key`. -/
def outboxIndex : ∀ k, Row k → Option RowKey
  | .taskOutbox _, r => some (.index (.taskOutboxIdempotency r.idempotencyKey))
  | _, _ => none

/-- What holds of the outbox between transactions. -/
structure OutboxOk (s : Store) : Prop where
  unique : Unique outboxIndex s
  scheduled : ∀ id r, s.lookup (.taskOutbox id) = some r → r.IsScheduled

/-- The moves of a call, as a relation on rows. -/
def OutboxCall.rowMoves (c : OutboxCall) (a : List (String × TaskOutbox)) :
    ∀ k, Row k → Row k → Prop
  | .taskOutbox id, r, r' => c.Moves a id r r'
  | _, _, _ => True

/-- What a committed call did to the outbox. -/
structure OutboxPost (c : OutboxCall) (locks : List RowKey) (a : List (String × TaskOutbox))
    (s s' : Store) : Prop where
  entered : Enters outboxIndex locks s s'
  created : ∀ id r', s.lookup (.taskOutbox id) = none → s'.lookup (.taskOutbox id) = some r' →
    r'.status = .pending
  moved : ∀ id r, s.lookup (.taskOutbox id) = some r →
    ∃ r', s'.lookup (.taskOutbox id) = some r' ∧ (r' = r ∨ c.Moves a id r r')
  claimed : ∀ id r', (id, r') ∈ a → s'.lookup (.taskOutbox id) = some r' ∧
    ∃ r, s.lookup (.taskOutbox id) = some r ∧ c.Moves a id r r'
  held : ∀ id owner token, c.finishes = some (id, owner, token) →
    ∃ r r', s.lookup (.taskOutbox id) = some r ∧ r.isHeldBy owner token = true ∧
      s'.lookup (.taskOutbox id) = some r' ∧ r'.status ≠ .processing

def outboxContract : Contract RowKey OutboxCall Row (List (String × TaskOutbox)) where
  inv := OutboxOk
  row _ := OutboxStep
  post := OutboxPost

section Meets

variable {c : OutboxCall} {locks : List RowKey} {ws : List (Sigma Row)} {s t : Store}

/-- The rows of the outbox index are records. -/
theorem outboxIndex_eq_some {k : RowKey} {r : Row k} {i : RowKey}
    (h : outboxIndex k r = some i) : ∃ id, k = .taskOutbox id := by
  cases k with
  | taskOutbox id => exact ⟨id, rfl⟩
  | _ => cases h

/-- A commit in which every record is one that was there, with its key. -/
theorem ok_of_moved (hs : OutboxOk s)
    (h : ∀ id r', t.lookup (.taskOutbox id) = some r' → r'.IsScheduled ∧
      ∃ r, s.lookup (.taskOutbox id) = some r ∧ r'.idempotencyKey = r.idempotencyKey) :
    OutboxOk t := by
  refine ⟨hs.unique.of_rows fun k r' hr' i hi ↦ ?_, fun id r' hr' ↦ (h id r' hr').1⟩
  obtain ⟨id, rfl⟩ := outboxIndex_eq_some hi
  obtain ⟨-, r, hr, hkey⟩ := h id r' hr'
  exact ⟨r, hr, by rw [← hi, outboxIndex, outboxIndex, hkey]⟩

theorem enters_of_moved (h : ∀ id r', t.lookup (.taskOutbox id) = some r' →
      ∃ r, s.lookup (.taskOutbox id) = some r ∧ r'.idempotencyKey = r.idempotencyKey) :
    Enters outboxIndex locks s t := by
  intro k r' i hr' hi
  obtain ⟨id, rfl⟩ := outboxIndex_eq_some hi
  obtain ⟨r, hr, hkey⟩ := h id r' hr'
  exact .inl ⟨r, hr, by rw [← hi, outboxIndex, outboxIndex, hkey]⟩

theorem scheduled_of_rowStep (hs : OutboxOk s) (h : RowStep OutboxStep s t) {id : String}
    {r' : TaskOutbox} (hr' : t.lookup (.taskOutbox id) = some r') : r'.IsScheduled := by
  rcases h (.taskOutbox id) with heq | ⟨r, hr, hstep⟩
  · exact hs.scheduled id r' (heq ▸ hr')
  · cases hr.symm.trans hr'
    exact hstep.1

theorem OutboxCall.Moves.key_eq {a : List (String × TaskOutbox)} {id : String}
    {r r' : TaskOutbox} (h : c.Moves a id r r') : r'.idempotencyKey = r.idempotencyKey := by
  cases c with
  | claim => rw [h.2.1]; rfl
  | complete => rw [h.2.2]; rfl
  | reschedule =>
    obtain ⟨-, -, text, -, rfl⟩ := h
    rfl
  | enqueue => exact h.elim
  | other => exact h.elim

/-- **Moves commit well.** -/
theorem commits_of_moving {a : List (String × TaskOutbox)}
    (hmoving : Moving (·.isOutbox = true) (c.rowMoves a) locks ws s)
    (hclaimed : ∀ id r', (id, r') ∈ a →
      ∃ r, Pinned locks ws s (.taskOutbox id) (some r) (some r') ∧ c.Moves a id r r')
    (hheld : ∀ id owner token, c.finishes = some (id, owner, token) → ∃ r r',
      Pinned locks ws s (.taskOutbox id) (some r) (some r') ∧ r.isHeldBy owner token = true ∧
        r'.status ≠ .processing) :
    Commits (.free OutboxCall.prog) outboxContract c a locks ws s := by
  intro t ht _ _ hrow
  replace hmoving := hmoving.rely ht
  have hkeys : ∀ id r', (t.apply ws).lookup (.taskOutbox id) = some r' →
      ∃ r, t.lookup (.taskOutbox id) = some r ∧ r'.idempotencyKey = r.idempotencyKey := by
    intro id r' hr'
    rcases hmoving.lookup (k := .taskOutbox id) rfl with heq | ⟨r, r'', hr, hr'', hmoves⟩
    · exact ⟨r', heq ▸ hr', rfl⟩
    · cases hr''.symm.trans hr'
      exact ⟨r, hr, OutboxCall.Moves.key_eq hmoves⟩
  refine ⟨⟨enters_of_moved hkeys, fun id r' hnone hr' ↦ ?_, fun id r hr ↦ ?_,
    fun id r' hmem ↦ ?_, fun id owner token hfin ↦ ?_⟩,
    ok_of_moved ht.2 fun id r' hr' ↦ ⟨scheduled_of_rowStep ht.2 hrow hr', hkeys id r' hr'⟩⟩
  · obtain ⟨r, hr, -⟩ := hkeys id r' hr'
    exact absurd (hnone.symm.trans hr) (by simp)
  · exact hmoving.moved.moved (.taskOutbox id) r rfl hr
  · obtain ⟨r, hpinned, hmoves⟩ := hclaimed id r' hmem
    exact ⟨(hpinned.rely ht).view, r, (hpinned.rely ht).committed, hmoves⟩
  · obtain ⟨r, r', hpinned, hheld, hstatus⟩ := hheld id owner token hfin
    exact ⟨r, r', (hpinned.rely ht).committed, hheld, (hpinned.rely ht).view, hstatus⟩

/-! ### Enqueuing -/

/-- The pending writes enter one record, under a key nobody else can enter, and leave the rest of
the outbox alone. -/
structure Entering (locks : List RowKey) (ws : List (Sigma Row)) (s : Store) (id : String)
    (r : TaskOutbox) : Prop where
  others : ∀ id', id' ≠ id → RowKey.taskOutbox id' ∉ keysOf ws
  pinned : Pinned locks ws s (.taskOutbox id) none (some r)
  locked : .index (.taskOutboxIdempotency r.idempotencyKey) ∈ locks
  unoccupied : Unoccupied outboxIndex (.index (.taskOutboxIdempotency r.idempotencyKey)) s
  pending : r.status = .pending

theorem Entering.rely {id : String} {r : TaskOutbox} (h : Entering locks ws s id r)
    (ht : outboxContract.Rely locks s t) : Entering locks ws t id r where
  others := h.others
  pinned := h.pinned.rely ht
  locked := h.locked
  unoccupied := ht.unoccupied (fun _ _ _ _ _ hcommit ↦ hcommit.post.entered) h.locked h.unoccupied
  pending := h.pending

theorem Entering.lookup_of_ne {id id' : String} {r : TaskOutbox} (h : Entering locks ws s id r)
    (hne : id' ≠ id) : (s.apply ws).lookup (.taskOutbox id') = s.lookup (.taskOutbox id') :=
  Db.lookup_apply_of_notMem (h.others id' hne) s

/-- **Entering a record commits well.** -/
theorem commits_of_entering (id : String) (r : TaskOutbox) (h : Entering locks ws s id r)
    (hfin : c.finishes = none) :
    Commits (.free OutboxCall.prog) outboxContract c [] locks ws s := by
  intro t ht _ _ hrow
  replace h := h.rely ht
  have hrows : ∀ k r', (t.apply ws).lookup k = some r' → ∀ i, outboxIndex k r' = some i →
      k = .taskOutbox id ∧ i = .index (.taskOutboxIdempotency r.idempotencyKey) ∨
        t.lookup k = some r' := by
    intro k r' hr' i hi
    obtain ⟨id', rfl⟩ := outboxIndex_eq_some hi
    by_cases hid : id' = id
    · subst hid
      cases h.pinned.view.symm.trans hr'
      exact .inl ⟨rfl, (Option.some.inj hi).symm⟩
    · exact .inr ((h.lookup_of_ne hid).symm.trans hr')
  refine ⟨⟨fun k r' i hr' hi ↦ ?_, fun id' r' hnone hr' ↦ ?_, fun id' r' hr' ↦ ?_, by simp,
    by simp [hfin]⟩, ht.2.unique.extend (.taskOutbox id) (fun k r' i hr' hi ↦ ?_)
      fun r' i hr' hi k r₁ hr₁ hi₁ ↦ ?_, fun id' r' hr' ↦ scheduled_of_rowStep ht.2 hrow hr'⟩
  · rcases hrows k r' hr' i hi with ⟨-, rfl⟩ | hr
    · exact .inr h.locked
    · exact .inl ⟨r', hr, hi⟩
  · by_cases hid : id' = id
    · subst hid
      cases h.pinned.view.symm.trans hr'
      exact h.pending
    · rw [h.lookup_of_ne hid, hnone] at hr'
      cases hr'
  · by_cases hid : id' = id
    · subst hid
      cases h.pinned.committed.symm.trans hr'
    · exact ⟨r', (h.lookup_of_ne hid).trans hr', .inl rfl⟩
  · exact (hrows k r' hr' i hi).imp (fun h ↦ h.1) fun hr ↦ ⟨r', hr, hi⟩
  · cases h.pinned.view.symm.trans hr'
    cases hi
    exact absurd hi₁ (h.unoccupied k r₁ hr₁)

/-- **Leaving the outbox alone commits well.** -/
theorem commits_of_aside (h : Aside (·.isOutbox = true) ws) (hfin : c.finishes = none) :
    Commits (.free OutboxCall.prog) outboxContract c [] locks ws s :=
  commits_of_moving (.of_aside h) (by simp) (by simp [hfin])

/-! ### The operations meet the contract -/

/-- The `UPDATE` that ends a delivery. -/
theorem meets_updateHeld {id owner token : String} {f : TaskOutbox → TaskOutbox}
    (hfin : c.finishes = some (id, owner, token)) (hstatus : ∀ r, (f r).status ≠ .processing)
    (hmoves : ∀ r, r.isHeldBy owner token = true → c.Moves [] id r (f r)) :
    (do
      let rows ← Prog.update (.taskOutbox id) (fun r ↦ r.isHeldBy owner token) fun r ↦ .ok (f r)
      if rows ≠ 1 then throw errTaskOutboxConflict : DbTx Unit).Meets outboxContract
      (fun _ ↦ Commits (.free OutboxCall.prog) outboxContract c []) [] [] s := by
  refine meets_updateOne fun s₁ _ r hr hheld ↦ commits_of_moving ?_ (by simp) ?_
  · exact .write (aside_nil _) (by simp) hr (hmoves r hheld)
  · intro id' owner' token' hfin'
    cases hfin.symm.trans hfin'
    exact ⟨r, f r, .write hr (by simp) (f r), hheld, hstatus r⟩

theorem meets_complete (id owner token : String) (deliveredAt : Time) :
    (OutboxCall.complete id owner token deliveredAt).prog.Meets outboxContract
      (Commits (.free OutboxCall.prog) outboxContract (.complete id owner token deliveredAt))
      [] [] s := by
  rw [OutboxCall.prog, meets_bind, completeTaskOutbox]
  refine meets_ite (fun _ ↦ (meets_fail _ _ _ _ _).mpr trivial) fun _ ↦ ?_
  have h := meets_updateHeld (s := s) (c := .complete id owner token deliveredAt)
    (f := fun r ↦ r.complete deliveredAt) rfl (by simp [TaskOutbox.complete]) fun r hr ↦
      ⟨rfl, hr, rfl⟩
  exact h.imp fun _ _ _ _ hc ↦ meets_pure hc

theorem meets_reschedule (id owner token : String) (deliveryError : Option String)
    (availableAt : Time) :
    (OutboxCall.reschedule id owner token deliveryError availableAt).prog.Meets outboxContract
      (Commits (.free OutboxCall.prog) outboxContract
        (.reschedule id owner token deliveryError availableAt)) [] [] s := by
  rw [OutboxCall.prog, meets_bind]
  cases deliveryError with
  | none => exact (meets_fail _ _ _ _ _).mpr trivial
  | some text =>
    rw [rescheduleTaskOutbox]
    refine meets_ite (fun _ ↦ (meets_fail _ _ _ _ _).mpr trivial) fun _ ↦ ?_
    have h := meets_updateHeld (s := s) (c := .reschedule id owner token (some text) availableAt)
      (f := fun r ↦ r.reschedule text availableAt) rfl (by simp [TaskOutbox.reschedule])
      fun r hr ↦ ⟨rfl, hr, text, rfl, rfl⟩
    exact h.imp fun _ _ _ _ hc ↦ meets_pure hc

theorem taskOutboxByKey_none {key : String} {v : Store}
    (h : (taskOutboxByKey key v).isSome = false) :
    Unoccupied outboxIndex (.index (.taskOutboxIdempotency key)) v := by
  intro k r hr hi
  obtain ⟨id, rfl⟩ := outboxIndex_eq_some hi
  have hkey : r.idempotencyKey = key := by
    rw [outboxIndex, Option.some.injEq] at hi
    cases hi
    rfl
  rw [taskOutboxByKey, Option.isSome_eq_false_iff, Option.isNone_iff_eq_none,
    List.head?_eq_none_iff] at h
  exact List.eq_nil_iff_forall_not_mem.mp h r
    (Db.mem_select.mpr ⟨.taskOutbox id, r, hr, if_pos hkey⟩)

/-- Enqueuing, after writes to other tables. -/
theorem meets_enqueue (outboxID taskID : String) (draft : TaskOutboxDraft) (now : Time)
    (hfin : c.finishes = none)
    (h : Aside (·.isOutbox = true) ws) :
    (enqueueTaskOutboxTx outboxID taskID draft now).Meets outboxContract
      (fun _ ↦ Commits (.free OutboxCall.prog) outboxContract c []) locks ws s := by
  rw [enqueueTaskOutboxTx]
  refine meets_ite (fun _ ↦ (meets_fail _ _ _ _ _).mpr trivial) fun _ ↦ ?_
  rw [meets_bind, createTaskOutbox]
  refine meets_createUnlessTaken (fun s₁ _ htaken hnone _ ↦ ?_) fun s₁ _ _ ↦ ?_
  · rw [if_pos rfl]
    refine meets_pure (commits_of_entering outboxID (draft.record taskID now)
      ⟨fun id' hne hk ↦ ?_, Pinned.write ((h.lookup rfl s₁).symm.trans hnone) (by simp) _,
        by simp, fun k r hr hi ↦ ?_, rfl⟩ hfin)
    · rw [keysOf, List.map_append, List.mem_append] at hk
      rcases hk with hk | hk
      · exact h _ hk rfl
      · exact hne (by simpa using hk)
    · obtain ⟨id', rfl⟩ := outboxIndex_eq_some hi
      exact taskOutboxByKey_none htaken (.taskOutbox id') r ((h.lookup rfl s₁).trans hr) hi
  · rw [if_neg (by simp), meets_bind]
    refine meets_query fun s₂ _ ↦ ?_
    cases taskOutboxByKey (draft.record taskID now).idempotencyKey (s₂.apply ws) with
    | none => exact (meets_fail _ _ _ _ _).mpr trivial
    | some existing =>
      exact meets_ite (fun _ ↦ (meets_fail _ _ _ _ _).mpr trivial) fun _ ↦
        meets_pure (commits_of_aside h hfin)

theorem meets_enqueueIfAny (outboxID taskID : String) (outbox : Option TaskOutboxDraft)
    (now : Time) (hfin : c.finishes = none)
    (h : Aside (·.isOutbox = true) ws) :
    (enqueueIfAny outboxID taskID outbox now).Meets outboxContract
      (fun _ ↦ Commits (.free OutboxCall.prog) outboxContract c []) locks ws s := by
  cases outbox with
  | none => exact meets_pure (commits_of_aside h hfin)
  | some draft => exact meets_enqueue outboxID taskID draft now hfin h

/-- The candidates of a claim are records that can be claimed. -/
theorem claimable_of_mem_outboxCandidates {now : Time} {limit : ℕ} {skipped : List String}
    {v : Store} {d : String × TaskOutbox} (h : d ∈ outboxCandidates now limit skipped v) :
    v.lookup (.taskOutbox d.1) = some d.2 ∧ d.2.isClaimable now = true := by
  rw [outboxCandidates] at h
  obtain ⟨k, r, hr, hd⟩ := Db.mem_select.mp (List.mem_insertionSort _ |>.mp (List.mem_of_mem_take h))
  cases k with
  | taskOutbox id =>
    simp only [Option.ite_none_right_eq_some, Option.some.injEq] at hd
    obtain ⟨⟨hclaimable, -⟩, rfl⟩ := hd
    exact ⟨hr, hclaimable⟩
  | _ => simp at hd

theorem nodup_outboxCandidates (now : Time) (limit : ℕ) (skipped : List String) (v : Store) :
    ((outboxCandidates now limit skipped v).map fun d ↦ RowKey.taskOutbox d.1).Nodup := by
  have h : ((claimableTaskOutboxes now skipped v).map fun d ↦ RowKey.taskOutbox d.1).Nodup := by
    refine Db.nodup_select (fun k r a ha ↦ ?_) v
    cases k with
    | taskOutbox id =>
      simp only [Option.ite_none_right_eq_some, Option.some.injEq] at ha
      rw [← ha.2]
    | _ => simp at ha
  have hsort := (List.perm_insertionSort outboxBefore (claimableTaskOutboxes now skipped v)).map
    fun d ↦ RowKey.taskOutbox d.1
  exact (hsort.nodup_iff.mpr h).sublist ((List.take_sublist _ _).map _)

theorem meets_claim (owner : String) (now : Time) (leaseDuration limit : ℤ) (skipped : List String)
    (token : String → String) :
    (OutboxCall.claim owner now leaseDuration limit skipped token).prog.Meets outboxContract
      (Commits (.free OutboxCall.prog) outboxContract
        (.claim owner now leaseDuration limit skipped token)) [] [] s := by
  rw [OutboxCall.prog, claimTaskOutbox]
  refine meets_ite (fun _ ↦ (meets_fail _ _ _ _ _).mpr trivial) fun _ ↦ ?_
  refine meets_claimBatch (k := RowKey.taskOutbox) (fun _ r ↦ r)
    (fun v d hd ↦ (claimable_of_mem_outboxCandidates hd).1) (nodup_outboxCandidates _ _ _)
    (fun v d hd ↦ ?_) fun v locks ws s₁ htaken ↦ ?_
  · exact takes_update outboxContract .taskOutbox (fun _ r ↦ TaskOutbox.isClaimable r now) _
      (claimable_of_mem_outboxCandidates hd).2 rfl
  refine commits_of_moving (fun k hk _ ↦ ?_) (fun id r' ha ↦ ?_) (by simp [OutboxCall.finishes])
  · obtain ⟨d, hd, rfl⟩ := htaken.keys k hk
    exact ⟨d.2, _, htaken.pinned d hd, (claimable_of_mem_outboxCandidates hd).2, rfl,
      List.mem_map_of_mem hd⟩
  · obtain ⟨d, hd, heq⟩ := List.mem_map.mp ha
    cases heq
    exact ⟨d.2, htaken.pinned d hd, (claimable_of_mem_outboxCandidates hd).2, rfl,
      List.mem_map_of_mem hd⟩

/-- **Every call meets the contract.** -/
theorem OutboxCall.meets_prog (c : OutboxCall) (s : Store) (hs : OutboxOk s) :
    c.prog.Meets outboxContract (Commits (.free OutboxCall.prog) outboxContract c) [] [] s := by
  cases c with
  | enqueue outboxID taskID draft now =>
    rw [prog, meets_bind, enqueueTaskOutbox]
    refine (meets_enqueue (c := .enqueue outboxID taskID draft now) outboxID taskID draft now rfl
      (aside_nil _)).imp fun _ _ _ _ h ↦ meets_pure h
  | claim owner now leaseDuration limit skipped token => exact meets_claim _ _ _ _ _ _
  | complete id owner token deliveredAt => exact meets_complete _ _ _ _
  | reschedule id owner token deliveryError availableAt => exact meets_reschedule _ _ _ _ _
  | other p hp outboxID taskID outbox now =>
    rw [prog, meets_bind]
    refine meets_of_writesOnly hp hs fun _ locks ws s' _ hws hrely ↦ ?_
    rw [meets_bind]
    refine (meets_enqueueIfAny (c := .other p hp outboxID taskID outbox now) outboxID taskID outbox
      now rfl fun k hk ↦ by simp [hws k hk]).imp fun _ _ _ _ h ↦ meets_pure h

end Meets

/-! ## Runs -/

/-- The lease, as its owner and its token, that the latest claim of the record in the log was given;
with no claim of it in the log, the one stored at the start. -/
def latestLease (s : Store) (id : String) :
    List (Ended OutboxCall Row (List (String × TaskOutbox))) → Option (String × String)
  | [] => (s.lookup (.taskOutbox id)).map fun r ↦ (r.leaseOwner, r.leaseToken)
  | e :: log =>
    match (e.result.getD []).find? (·.1 = id) with
    | some d => some (d.2.leaseOwner, d.2.leaseToken)
    | none => latestLease s id log

/-- From this time on the record can be claimed. -/
def TaskOutbox.dueAt (record : TaskOutbox) : Option Time :=
  match record.status with
  | .pending => some record.availableAt
  | .processing => record.leaseExpiresAt
  | .delivered => none

/-- **The lease protocol**, over a run that started on `s`. -/
structure LeaseProtocol (s : Store)
    (cfg : Config OutboxCall Row RepoError (List (String × TaskOutbox))) : Prop where
  /-- An idempotency key has one record at most. -/
  unique : ∀ id id' r r', cfg.db.lookup (.taskOutbox id) = some r →
    cfg.db.lookup (.taskOutbox id') = some r' → r.idempotencyKey = r'.idempotencyKey → id = id'
  /-- A delivered record is left as it is. -/
  delivered : ∀ e ∈ cfg.log, ∀ id r, e.before.lookup (.taskOutbox id) = some r →
    r.status = .delivered → e.after.lookup (.taskOutbox id) = some r
  /-- A completion or rescheduling that succeeds is made under the record's latest lease, which
  nobody has given back yet. -/
  fenced : ∀ e earlier, (e :: earlier) <:+ cfg.log → ∀ id owner token,
    e.call.finishes = some (id, owner, token) → e.result.isSome = true →
      latestLease s id earlier = some (owner, token) ∧
        ∃ r, e.before.lookup (.taskOutbox id) = some r ∧ r.isHeldBy owner token = true
  /-- A call that does not succeed changes nothing. -/
  refused : ∀ e ∈ cfg.log, e.result = none → e.after = e.before
  /-- No record disappears. -/
  kept : ∀ e ∈ cfg.log, ∀ id r, e.before.lookup (.taskOutbox id) = some r →
    ∃ r', e.after.lookup (.taskOutbox id) = some r'
  /-- A record that is not delivered can be claimed, now or later. -/
  due : ∀ id r, cfg.db.lookup (.taskOutbox id) = some r → r.status ≠ .delivered →
    ∃ t, r.dueAt = some t ∧ ∀ now, t ≤ now → ∀ skipped, id ∉ skipped →
      (id, r) ∈ claimableTaskOutboxes now skipped cfg.db

section Runs

variable {s : Store} {cfg : Config OutboxCall Row RepoError (List (String × TaskOutbox))}

theorem OutboxCall.ok_of_reach (hs : OutboxOk s)
    (h : Reach (.free OutboxCall.prog) (.init s) cfg) :
    Contract.Ok (.free OutboxCall.prog) outboxContract cfg :=
  Contract.sound (fun _ ↦ rowTrans_outboxStep) OutboxCall.keeps_prog OutboxCall.meets_prog hs h

/-- A move never starts from a delivered record. -/
theorem OutboxCall.Moves.not_delivered {c : OutboxCall} {a : List (String × TaskOutbox)}
    {id : String} {r r' : TaskOutbox} (h : c.Moves a id r r') : r.status ≠ .delivered := by
  cases c with
  | claim owner now =>
    have hclaimable := h.1
    intro hdelivered
    simp [TaskOutbox.isClaimable, hdelivered] at hclaimable
  | complete => exact TaskOutbox.not_delivered_of_isHeldBy h.2.1
  | reschedule => exact TaskOutbox.not_delivered_of_isHeldBy h.2.1
  | enqueue => exact h.elim
  | other => exact h.elim

/-- Only a claim, which returns the record, starts a delivery. -/
theorem OutboxCall.Moves.mem_of_processing {c : OutboxCall} {a : List (String × TaskOutbox)}
    {id : String} {r r' : TaskOutbox} (h : c.Moves a id r r') (hr' : r'.status = .processing) :
    (id, r') ∈ a := by
  cases c with
  | claim => exact h.2.2
  | complete =>
    rw [h.2.2] at hr'
    cases hr'
  | reschedule =>
    obtain ⟨-, -, text, -, rfl⟩ := h
    cases hr'
  | enqueue => exact h.elim
  | other => exact h.elim

/-- **A record being delivered is under its latest lease.** -/
theorem latestLease_of_processing
    {log : List (Ended OutboxCall Row (List (String × TaskOutbox)))} {t : Store}
    (h : Linked s log t) (hlog : ∀ e ∈ log, outboxContract.Fulfilled e) {id : String}
    {r : TaskOutbox} (hr : t.lookup (.taskOutbox id) = some r) (hstatus : r.status = .processing) :
    latestLease s id log = some (r.leaseOwner, r.leaseToken) := by
  induction h generalizing r with
  | nil => rw [latestLease, hr, Option.map_some]
  | @cons e log _ ih =>
    replace ih := @ih fun e he ↦ hlog e (.tail _ he)
    have hful := hlog e (.head _)
    rw [Contract.Fulfilled] at hful
    rw [latestLease]
    cases hres : e.result with
    | none =>
      rw [hres] at hful
      exact ih (hful ▸ hr) hstatus
    | some a =>
      rw [hres] at hful
      obtain ⟨locks, hcommit⟩ := hful
      rw [Option.getD_some]
      cases hfind : a.find? (·.1 = id) with
      | some d =>
        -- the claim that issued it returned the record as it is stored
        have hid : d.1 = id := by simpa using List.find?_some hfind
        obtain ⟨hd, -⟩ := hcommit.post.claimed d.1 d.2 (List.mem_of_find?_eq_some hfind)
        rw [hid, hr] at hd
        cases hd
        rfl
      | none =>
        have hnot : ∀ r', (id, r') ∉ a := fun r' hmem ↦ by
          simpa using List.find?_eq_none.mp hfind _ hmem
        cases hbefore : e.before.lookup (.taskOutbox id) with
        | none =>
          rw [hcommit.post.created id r hbefore hr] at hstatus
          cases hstatus
        | some r₀ =>
          obtain ⟨r', hr', rfl | hmoves⟩ := hcommit.post.moved id r₀ hbefore
          · cases hr.symm.trans hr'
            exact ih hbefore hstatus
          · cases hr.symm.trans hr'
            exact absurd (hmoves.mem_of_processing hstatus) (hnot r)

/-- The log of a shorter run. -/
theorem linked_of_suffix {log : List (Ended OutboxCall Row (List (String × TaskOutbox)))}
    {t : Store} (h : Linked s log t) {e : Ended OutboxCall Row (List (String × TaskOutbox))}
    {earlier : List (Ended OutboxCall Row (List (String × TaskOutbox)))}
    (hsuffix : (e :: earlier) <:+ log) : Linked s earlier e.before := by
  induction h with
  | nil => simp at hsuffix
  | @cons e' log hlink ih =>
    rcases List.suffix_cons_iff.mp hsuffix with heq | hsuffix
    · cases heq
      exact hlink
    · exact ih hsuffix

theorem TaskOutbox.isClaimable_of_dueAt {r : TaskOutbox} {t now : Time} (h : r.dueAt = some t)
    (hnow : t ≤ now) : r.isClaimable now = true := by
  unfold dueAt at h
  split at h
  · rename_i hstatus
    cases h
    simp [isClaimable, hstatus, hnow]
  · rename_i hstatus
    simp [isClaimable, hstatus, h, hnow]
  · cases h

/-- **Dispatchers never lose, repeat or mix up deliveries.**  However the transactions interleave,
whenever the leases run out and whoever is late: the lease protocol holds. -/
theorem outbox_leaseProtocol (hs : OutboxOk s)
    (h : Reach (.free OutboxCall.prog) (.init s) cfg) : LeaseProtocol s cfg := by
  have hok := OutboxCall.ok_of_reach hs h
  have hlinked := linked_of_reach h
  have hmoved : ∀ e ∈ cfg.log, ∀ id r, e.before.lookup (.taskOutbox id) = some r →
      ∃ r', e.after.lookup (.taskOutbox id) = some r' ∧
        (r' = r ∨ ∃ a, e.call.Moves a id r r') := by
    intro e he id r hr
    have hful := hok.log e he
    rw [Contract.Fulfilled] at hful
    cases hres : e.result with
    | none =>
      rw [hres] at hful
      exact ⟨r, by rw [hful, hr], .inl rfl⟩
    | some a =>
      rw [hres] at hful
      obtain ⟨locks, hcommit⟩ := hful
      obtain ⟨r', hr', hcases⟩ := hcommit.post.moved id r hr
      exact ⟨r', hr', hcases.imp_right fun hmoves ↦ ⟨a, hmoves⟩⟩
  refine ⟨fun id id' r r' hr hr' hkey ↦ ?_, fun e he id r hr hdelivered ↦ ?_,
    fun e earlier hsuffix id owner token hfin hres ↦ ?_, fun e he hres ↦ ?_, fun e he id r hr ↦ ?_,
    fun id r hr hstatus ↦ ?_⟩
  · have heq := hok.inv.unique _ _ _ r r' hr hr' rfl (by rw [outboxIndex, hkey])
    cases heq
    rfl
  · obtain ⟨r', hr', rfl | ⟨a, hmoves⟩⟩ := hmoved e he id r hr
    · exact hr'
    · exact absurd hdelivered hmoves.not_delivered
  · have hful := hok.log e (hsuffix.subset (.head _))
    rw [Contract.Fulfilled] at hful
    obtain ⟨a, ha⟩ := Option.isSome_iff_exists.mp hres
    rw [ha] at hful
    obtain ⟨locks, hcommit⟩ := hful
    obtain ⟨r, -, hr, hheld, -⟩ := hcommit.post.held id owner token hfin
    refine ⟨?_, r, hr, hheld⟩
    simp only [TaskOutbox.isHeldBy, Bool.and_eq_true, decide_eq_true_eq] at hheld
    obtain ⟨⟨hstatus, rfl⟩, rfl⟩ := hheld
    exact latestLease_of_processing (linked_of_suffix hlinked hsuffix)
      (fun e' he' ↦ hok.log e' (hsuffix.subset (.tail _ he'))) hr hstatus
  · have hful := hok.log e he
    rw [Contract.Fulfilled, hres] at hful
    exact hful
  · obtain ⟨r', hr', -⟩ := hmoved e he id r hr
    exact ⟨r', hr'⟩
  · have hdue : ∃ t, r.dueAt = some t := by
      unfold TaskOutbox.dueAt
      split
      · exact ⟨_, rfl⟩
      · rename_i hprocessing
        exact Option.isSome_iff_exists.mp (hok.inv.scheduled id r hr hprocessing)
      · rename_i hdelivered
        exact absurd hdelivered hstatus
    obtain ⟨t, ht⟩ := hdue
    refine ⟨t, ht, fun now hnow skipped hskipped ↦ ?_⟩
    exact Db.mem_select.mpr ⟨.taskOutbox id, r, hr,
      if_pos ⟨TaskOutbox.isClaimable_of_dueAt ht hnow, hskipped⟩⟩

end Runs

/-! ## A late dispatcher -/

theorem outboxOk_empty : OutboxOk ∅ where
  unique := fun i k k' r r' hr ↦ by simp at hr
  scheduled := fun id r hr ↦ by simp at hr

/-- Dispatcher `a` claims a record and is late; `b` claims it again and delivers it, and only then
`a` reports. -/
def lateDispatcher : List (Action OutboxCall) :=
  let draft : TaskOutboxDraft := ⟨"key", "task.done", "{}", 0⟩
  [.start 0 (.enqueue "o" "t" draft 1), .step 0, .commit 0,
    .start 0 (.claim "a" 2 5 10 [] fun _ ↦ "x"), .step 0, .step 0, .commit 0,
    .start 1 (.claim "b" 8 5 10 [] fun _ ↦ "y"), .step 1, .step 1, .commit 1,
    .start 0 (.complete "o" "a" "x" 9), .step 0, .abort 0,
    .start 1 (.complete "o" "b" "y" 9), .step 1, .commit 1]

theorem play_lateDispatcher :
    (play OutboxCall.prog (.init ∅) lateDispatcher).map
      (fun cfg ↦ (cfg.log.map (·.result.isSome), (cfg.db.lookup (.taskOutbox "o")).map (·.status)))
      = some ([true, false, true, true, true], some .delivered) := by
  decide

theorem outbox_leaseProtocol_lateDispatcher :
    ∃ cfg, Reach (.free OutboxCall.prog) (.init ∅) cfg ∧ cfg.log.length = 5 ∧
      LeaseProtocol ∅ cfg := by
  obtain ⟨cfg, hplay, hlog⟩ := Option.map_eq_some_iff.mp play_lateDispatcher
  have hreach := reach_of_play hplay
  have hlength := congrArg (fun p ↦ p.1.length) hlog
  exact ⟨cfg, hreach, by simpa using hlength, outbox_leaseProtocol outboxOk_empty hreach⟩

end HMaigc
