import HMaigc.Ops.PlanOrder

/-!
# Starting a runner again

A runner that died is started again on the files it left.  As long as it keeps its lease and nobody
declares it dead, the files alone decide whether it comes to a result: `Resumable` is the exact
condition, and the files a failed stage leaves before its result do not meet it.

* `Tended` — what goes on around a runner that is alive.
* `Resumable` — what the files must say.
* `resumable_iff_recovers` — the result; `exists_journal_stuck` — files that do not say it.
-/

set_option autoImplicit false

namespace HMaigc.Ops

open Go Concurrent

/-! ## Around a runner that is alive -/

/-- The moves of a runner's own main program, of the operator, and of time. -/
def RunnerMove.tends : RunnerMove → Bool
  | .cancel _ | .lease _ | .heartbeat _ | .tick _ => true
  | .launch _ | .condemn _ | .demandRecovery _ => false

/-- The lease on file is the runner's, and has time left. -/
def LeaseHeld (e : Engine) (input : RunInput) (w : World) : Prop :=
  ∃ lease, (w.dir input.operationID).lease = some lease ∧ lease.operationID = input.operationID ∧
    lease.generation = input.generation ∧ lease.tokenHash = e.hashToken input.fencingToken ∧
    lease.runnerDigest = input.runnerDigest ∧ w.now < lease.expiresAt

/-- The world goes on around a runner that keeps its lease. -/
def Tended (e : Engine) (input : RunInput) : World → World → Prop :=
  Relation.ReflTransGen fun w w' ↦ ∃ m : RunnerMove, m.tends = true ∧
    runnerMove input.commandSecret input.operationID m w = some w' ∧ LeaseHeld e input w'

instance (e : Engine) (input : RunInput) : Std.Refl (Tended e input) :=
  ⟨fun _ ↦ Relation.ReflTransGen.refl⟩

instance (e : Engine) (input : RunInput) : IsTrans World (Tended e input) :=
  ⟨fun _ _ _ ↦ Relation.ReflTransGen.trans⟩

/-- A runner that is alive finds its files as it left them. -/
structure Kept (operationID : String) (w w' : World) : Prop where
  launch : (w'.dir operationID).launch = (w.dir operationID).launch
  checkpoint : (w'.dir operationID).checkpoint = (w.dir operationID).checkpoint
  result : (w'.dir operationID).result = (w.dir operationID).result
  events : (w'.dir operationID).events = (w.dir operationID).events

theorem kept_runnerMove {secret operationID : String} {m : RunnerMove} {w w' : World}
    (htends : m.tends = true) (h : runnerMove secret operationID m w = some w') :
    Kept operationID w w' := by
  cases m with
  | cancel command =>
    rw [runnerMove, Option.ite_none_right_eq_some] at h
    obtain ⟨hdir, -⟩ := wrote_of_accept h.2 (wrote_writeCancelCommand w.journal secret w.now command)
    rw [h.1] at hdir
    exact ⟨congrArg (·.launch) hdir, congrArg (·.checkpoint) hdir, congrArg (·.result) hdir,
      congrArg (·.events) hdir⟩
  | lease lease =>
    obtain ⟨hdir, -⟩ := wrote_of_accept h (wrote_writeLease w.journal operationID lease)
    exact ⟨congrArg (·.launch) hdir, congrArg (·.checkpoint) hdir, congrArg (·.result) hdir,
      congrArg (·.events) hdir⟩
  | heartbeat heartbeat =>
    obtain ⟨hdir, -⟩ := wrote_of_accept h (wrote_writeHeartbeat w.journal operationID heartbeat)
    exact ⟨congrArg (·.launch) hdir, congrArg (·.checkpoint) hdir, congrArg (·.result) hdir,
      congrArg (·.events) hdir⟩
  | tick now =>
    rw [runnerMove, Option.ite_none_right_eq_some, Option.some.injEq] at h
    obtain ⟨-, rfl⟩ := h
    exact ⟨rfl, rfl, rfl, rfl⟩
  | launch command => cases htends
  | condemn message => cases htends
  | demandRecovery result => cases htends

section Tended

variable {e : Engine} {input : RunInput} {request : OperationRequestFile} {w w' : World}

theorem Tended.kept (h : Tended e input w w') : Kept input.operationID w w' := by
  induction h with
  | refl => exact ⟨rfl, rfl, rfl, rfl⟩
  | tail _ hstep ih =>
    obtain ⟨m, htends, hmove, -⟩ := hstep
    have hk := kept_runnerMove htends hmove
    exact ⟨hk.launch.trans ih.launch, hk.checkpoint.trans ih.checkpoint, hk.result.trans ih.result,
      hk.events.trans ih.events⟩

theorem Tended.filed (h : Tended e input w w')
    (hw : Filed e input.commandSecret input.operationID request w) :
    Filed e input.commandSecret input.operationID request w' := by
  induction h with
  | refl => exact hw
  | tail _ hstep ih =>
    obtain ⟨m, -, hmove, -⟩ := hstep
    exact ih.around (stepAround_runnerMove hmove)

theorem Tended.leaseHeld (h : Tended e input w w') (hw : LeaseHeld e input w) :
    LeaseHeld e input w' := by
  induction h with
  | refl => exact hw
  | tail _ hstep _ => exact hstep.choose_spec.2.2

end Tended

/-! ## Writes that are accepted -/

theorem validateLaunchCommandFields_eq_ok {command : RunnerLaunchCommand}
    (h : validateLaunchCommandFields command = .ok ()) :
    validOperationID command.operationID = true ∧ command.generation ≠ 0 ∧
      command.fencingToken ≠ "" ∧ isImmutableDigest command.runnerDigest = true := by
  rw [validateLaunchCommandFields] at h
  split at h
  · cases h
  · rename_i hid
    split at h
    · cases h
    · rename_i hgen
      split at h
      · cases h
      · rename_i hdigest
        rw [not_or] at hgen
        exact ⟨by simpa using hid, hgen.1, hgen.2, by simpa using hdigest⟩

section Accepted

variable {j : Journal} {operationID : String}

theorem appendEvent_eq_ok {event : OperationEvent} (hid : validOperationID event.operationID = true)
    (hgen : event.generation ≠ 0) (hseq : event.sequence ≠ 0)
    (hnew : ∀ old ∈ (j.dir event.operationID).events, old.generation = event.generation →
      old.sequence ≠ event.sequence) : (appendEvent event j).1 = .ok () := by
  have hany : ((j.dir event.operationID).events.any fun old ↦
      old.generation == event.generation && old.sequence == event.sequence) = false := by
    rw [List.any_eq_false]
    intro old hold hsame
    rw [Bool.and_eq_true, beq_iff_eq, beq_iff_eq] at hsame
    exact hnew old hold hsame.1 hsame.2
  rw [appendEvent, if_neg (not_or.mpr ⟨hgen, hseq⟩), hany, if_neg Bool.false_ne_true,
    Journal.publish, if_pos hid]

theorem writeCheckpoint_eq_ok {c : OperationCheckpoint} (hid : validOperationID operationID = true)
    (howner : c.operationID = operationID)
    (hold : ∀ old, (j.dir operationID).checkpoint = some old → old.operationID = operationID ∧
      (old.generation < c.generation ∨ old.generation = c.generation ∧
        old.fencingTokenHash = c.fencingTokenHash ∧ old.sequence < c.sequence)) :
    (writeCheckpoint operationID c j).1 = .ok () := by
  rw [writeCheckpoint, if_neg (not_not.mpr howner)]
  cases hfile : (j.dir operationID).checkpoint with
  | none =>
    have hread : j.readCheckpoint operationID = .error errNotExist := by
      rw [Journal.readCheckpoint, hfile, readFact.eq_def, if_pos hid]
    rw [hread]
    dsimp only
    rw [if_pos (show errNotExist.kind = .notExist from rfl), Journal.publish, if_pos hid]
  | some old =>
    obtain ⟨hown, hless⟩ := hold old hfile
    have hread : j.readCheckpoint operationID = .ok old :=
      readFact_eq_ok_iff.mpr ⟨hid, hfile, hown⟩
    rw [hread]
    dsimp only
    rcases hless with hlt | ⟨hgen, hhash, hseq⟩
    · rw [if_neg (by omega), if_neg (by omega), if_neg (by omega), Journal.publish, if_pos hid]
    · rw [if_neg (by omega), if_neg, if_neg (by omega), Journal.publish, if_pos hid]
      rintro ⟨-, hne | hgt⟩
      · exact hne hhash
      · omega

theorem writeResult_eq_ok {r : OperationResult} (hid : validOperationID operationID = true)
    (howner : r.operationID = operationID) (hstatus : isRunnerResultStatus r.status = true)
    (hold : ∀ old, (j.dir operationID).result = some old → old.operationID = operationID ∧
      old.status = .recoveryRequired ∧ old.generation < r.generation) :
    (writeResult operationID r j).1 = .ok () := by
  rw [writeResult, if_neg (not_not.mpr howner), if_neg (by simp [hstatus])]
  cases hfile : (j.dir operationID).result with
  | none =>
    have hread : j.readResult operationID = .error errNotExist := by
      rw [Journal.readResult, hfile, readFact.eq_def, if_pos hid]
    rw [hread]
    dsimp only
    rw [if_pos (show errNotExist.kind = .notExist from rfl), Journal.publish, if_pos hid]
  | some old =>
    obtain ⟨hown, hrecovery, hgen⟩ := hold old hfile
    have hread : j.readResult operationID = .ok old := readFact_eq_ok_iff.mpr ⟨hid, hfile, hown⟩
    rw [hread]
    dsimp only
    rw [if_neg (by omega), if_neg (by omega), if_neg (not_not.mpr hrecovery), Journal.publish,
      if_pos hid]

end Accepted

theorem expectedVersion_ne_empty {r : OperationRequestFile} (h : validateRequest r = .ok ()) :
    r.expectedVersion ≠ "" := by
  intro hempty
  have hbad : ∃ message, validateReleaseVersion "" = .error message := ⟨_, rfl⟩
  obtain ⟨message, hbad⟩ := hbad
  rw [validateRequest, hempty, hbad] at h
  simp only [bind, Except.bind] at h
  split at h
  · cases h
  · split at h
    · cases h
    · split at h
      · cases h
      · cases h

/-- Only a committed release without a version stops the decision. -/
theorem decideRecovery_ne_error {c : OperationCheckpoint} {observed : ObservedState}
    {err : OpsError} (h : c.expectedVersion ≠ "") : decideRecovery c observed ≠ .error err := by
  rw [decideRecovery, if_neg fun hbad ↦ h hbad.1]
  split_ifs <;> simp

theorem applyUnknownStageIntent_eq_ok {c : OperationCheckpoint} {event : OperationEvent} (now : Time)
    (h : c.expectedVersion ≠ "") (hunknown : isUnknownStageIntent c event = true) :
    ∃ c', applyUnknownStageIntent c event now = .ok (c', true) := by
  rw [applyUnknownStageIntent, hunknown]
  simp only [Bool.not_true, Bool.false_eq_true, if_false]
  split
  · generalize hdecision : decideRecovery _ _ = decided
    cases decided with
    | error err => exact absurd hdecision (decideRecovery_ne_error h)
    | ok decision => exact ⟨_, rfl⟩
  · exact ⟨_, rfl⟩

/-! ## A runner that goes on -/

/-- The operation has a result that ends this generation. -/
def Finished (input : RunInput) (w : World) : Prop :=
  ∃ r, (w.dir input.operationID).result = some r ∧
    (isTerminalStatus r.status = true ∨ input.generation ≤ r.generation)

/-- The runner came to its end, and the operation to a result. -/
def Succeeded (input : RunInput) (r : Except OpsError Unit) (w : World) : Prop :=
  r = .ok () ∧ Finished input w

/-- The process, tended, ends as `Q` says. -/
abbrev Ends {α : Type} (e : Engine) (input : RunInput) (p : OpsProc α)
    (Q : Except OpsError α → World → Prop) (w : World) : Prop :=
  p.Safe (View.plain World) (Tended e input) (fun _ _ ↦ True) Q w

/-- The runner is launched, and holds its lease. -/
structure Manned (e : Engine) (request : OperationRequestFile) (input : RunInput) (w : World) :
    Prop where
  filed : Filed e input.commandSecret input.operationID request w
  held : LeaseHeld e input w
  launched : ∃ l, (w.dir input.operationID).launch = some l ∧
    l.payload.runInput input.commandSecret = input

/-- And its generation has no result yet. -/
structure Poised (e : Engine) (request : OperationRequestFile) (input : RunInput) (w : World) :
    Prop extends Manned e request input w where
  unfinished : ∀ r, (w.dir input.operationID).result = some r →
    r.status = .recoveryRequired ∧ r.generation < input.generation

/-- And has its checkpoint on file. -/
structure Steady (e : Engine) (request : OperationRequestFile) (input : RunInput) (n : ℕ)
    (w : World) : Prop extends Poised e request input w where
  stored : ∃ c, (w.dir input.operationID).checkpoint = some c ∧ c.fence = e.fence input
  upTo : ∀ event ∈ (w.dir input.operationID).events,
    event.generation = input.generation → event.sequence ≤ n
  last : n = 0 ∨ ∃ event ∈ (w.dir input.operationID).events,
    event.generation = input.generation ∧ event.sequence = n

section Rules

variable {e : Engine} {request : OperationRequestFile} {input : RunInput} {n : ℕ}
  {w w' : World}

theorem Manned.tended (hm : Manned e request input w) (ht : Tended e input w w') :
    Manned e request input w' where
  filed := ht.filed hm.filed
  held := ht.leaseHeld hm.held
  launched := by
    rw [ht.kept.launch]
    exact hm.launched

theorem Poised.tended (hp : Poised e request input w) (ht : Tended e input w w') :
    Poised e request input w' where
  toManned := hp.toManned.tended ht
  unfinished := by
    rw [ht.kept.result]
    exact hp.unfinished

theorem Steady.tended (hs : Steady e request input n w) (ht : Tended e input w w') :
    Steady e request input n w' where
  toPoised := hs.toPoised.tended ht
  stored := by
    rw [ht.kept.checkpoint]
    exact hs.stored
  upTo := by
    rw [ht.kept.events]
    exact hs.upTo
  last := by
    rw [ht.kept.events]
    exact hs.last

theorem Manned.launch (hp : Manned e request input w) :
    validOperationID input.operationID = true ∧ input.generation ≠ 0 ∧ input.fencingToken ≠ "" ∧
      isImmutableDigest input.runnerDigest = true ∧
      minimumCommandSecret ≤ input.commandSecret.utf8ByteSize := by
  obtain ⟨l, hl, hinput⟩ := hp.launched
  obtain ⟨-, -, hfields, hsecret⟩ := hp.filed.launch l hl
  obtain ⟨hid, hgen, htoken, hdigest⟩ := validateLaunchCommandFields_eq_ok hfields
  rw [← hinput]
  exact ⟨hid, hgen, htoken, hdigest, hsecret⟩

theorem Manned.validID (hp : Manned e request input w) :
    validOperationID input.operationID = true :=
  hp.launch.1

theorem ends_look {Q : Except OpsError World → World → Prop}
    (hQ : ∀ w₁ w₂, Tended e input w w₁ → Tended e input w₁ w₂ → Q (.ok w₁) w₂) :
    Ends e input Proc.look Q w :=
  Proc.safe_look fun w₁ ht₁ ↦ ⟨trivial, fun w₂ ht₂ ↦ hQ w₁ w₂ ht₁ ht₂⟩

theorem ends_clock {Q : Except OpsError Time → World → Prop}
    (hQ : ∀ now w', Tended e input w w' → Q (.ok now) w') : Ends e input clock Q w := by
  refine Proc.safe_bind (ends_look fun w₁ w₂ ht₁ ht₂ ↦ ?_)
  exact Proc.safe_pure fun w₃ ht₃ ↦ hQ _ w₃ (ht₁.trans (ht₂.trans ht₃))

theorem ends_read {α : Type} {read : World → Except OpsError α}
    {Q : Except OpsError α → World → Prop}
    (hQ : ∀ w₁ w₂, Tended e input w w₁ → Tended e input w₁ w₂ → Q (read w₁) w₂) :
    Ends e input (readJournal read) Q w := by
  refine Proc.safe_bind (ends_look fun w₁ w₂ ht₁ ht₂ ↦ ?_)
  exact Proc.safe_ofExcept fun w₃ ht₃ ↦ hQ w₁ w₃ ht₁ (ht₂.trans ht₃)

/-- A write that is accepted. -/
theorem ends_write {write : Journal → Written} {f : OperationDir → OperationDir}
    {Q : Except OpsError Unit → World → Prop}
    (haccepted : ∀ w', Tended e input w w' → (write w'.journal).1 = .ok ())
    (hwrote : ∀ j, Wrote j input.operationID f (write j))
    (hQ : ∀ w₁ w₂, Tended e input w w₁ → w₂ = { w₁ with journal := w₂.journal } →
      w₂.dir input.operationID = f (w₁.dir input.operationID) →
      ∀ w₃, Tended e input w₂ w₃ → Q (.ok ()) w₃) :
    Ends e input (writeJournal write) Q w := by
  refine Proc.safe_atomic fun w₁ ht₁ ↦ ⟨trivial, fun w₃ ht₃ ↦ ?_⟩
  have hok := haccepted w₁ ht₁
  rcases hwrote w₁.journal with ⟨err, herr⟩ | ⟨-, hdir, -⟩
  · rw [herr] at hok
    cases hok
  · dsimp only [View.plain] at ht₃ ⊢
    rw [hok]
    exact hQ w₁ { w₁ with journal := (write w₁.journal).2 } ht₁ rfl hdir w₃ ht₃

theorem Steady.sequence_le (hs : Steady e request input n w) {c : OperationCheckpoint}
    (hc : (w.dir input.operationID).checkpoint = some c) : c.sequence ≤ n := by
  obtain ⟨c', hc', hfence⟩ := hs.stored
  rw [hc', Option.some.injEq] at hc
  subst hc
  refine hs.filed.sequence_le hc' fun event hevent hgen ↦ hs.upTo event hevent ?_
  exact hgen.trans (OperationCheckpoint.generation_of_fence hfence)

/-- A step that leaves lease, launch command and result alone. -/
theorem Poised.step (hp : Poised e request input w) (hnow : w'.now = w.now)
    (hfiled : Filed e input.commandSecret input.operationID request w')
    (hlease : (w'.dir input.operationID).lease = (w.dir input.operationID).lease)
    (hlaunch : (w'.dir input.operationID).launch = (w.dir input.operationID).launch)
    (hresult : (w'.dir input.operationID).result = (w.dir input.operationID).result) :
    Poised e request input w' where
  filed := hfiled
  held := by
    rw [LeaseHeld, hlease, hnow]
    exact hp.held
  launched := by
    rw [hlaunch]
    exact hp.launched
  unfinished := by
    rw [hresult]
    exact hp.unfinished

theorem ends_appendRunEvent {kind : EventKind} {stage : OperationStage} {message : String}
    (hs : Steady e request input n w) {Q : Except OpsError ℕ → World → Prop}
    (hQ : ∀ w', Steady e request input (n + 1) w' →
      (w'.dir input.operationID).checkpoint = (w.dir input.operationID).checkpoint →
      (∃ event ∈ (w'.dir input.operationID).events, event.stage = stage) → Q (.ok (n + 1)) w') :
    Ends e input (appendRunEvent input n kind stage message) Q w := by
  refine Proc.safe_bind (ends_clock fun now w₁ ht₁ ↦ ?_)
  have hs₁ := hs.tended ht₁
  let event : OperationEvent := ⟨input.operationID, input.generation, n + 1, kind, stage, "system",
    message, now⟩
  have hwrote := fun j ↦ wrote_appendEvent j event
  refine Proc.safe_bind (ends_write (fun w₂ ht₂ ↦ ?_) hwrote ?_)
  · have hs₂ := hs₁.tended ht₂
    refine appendEvent_eq_ok hs₂.validID hs₂.launch.2.1 (Nat.succ_ne_zero n)
      fun old hold hgen ↦ ?_
    exact (Nat.lt_succ_of_le (hs₂.upTo old hold hgen)).ne
  · intro w₂ w₃ ht₂ hworld hdir w₄ ht₄
    have hs₂ := hs₁.tended ht₂
    have hnow : w₃.now = w₂.now := by rw [hworld]
    have hexecuted : w₃.executed = w₂.executed := by rw [hworld]
    obtain ⟨c, hc, hfence⟩ := hs₂.stored
    have hgen := OperationCheckpoint.generation_of_fence hfence
    have hfile : (w₃.dir input.operationID).checkpoint = (w₂.dir input.operationID).checkpoint :=
      congrArg (·.checkpoint) hdir
    have hevents : (w₃.dir input.operationID).events =
        (w₂.dir input.operationID).events ++ [event] :=
      congrArg (·.events) hdir
    have hs₃ : Steady e request input (n + 1) w₃ := by
      refine ⟨hs₂.toPoised.step hnow (hs₂.filed.append hnow hexecuted hdir hc hgen.ge)
        (congrArg (·.lease) hdir) (congrArg (·.launch) hdir) (congrArg (·.result) hdir),
        ⟨c, hfile.trans hc, hfence⟩, fun event' hevent hgen ↦ ?_, .inr ⟨event, ?_, rfl, rfl⟩⟩
      · rw [hevents, List.mem_append] at hevent
        rcases hevent with hold | hnew
        · exact (hs₂.upTo event' hold hgen).trans (Nat.le_succ n)
        · rw [List.mem_singleton.mp hnew]
      · rw [hevents]
        exact List.mem_append_right _ (List.mem_singleton.mpr rfl)
    refine Proc.safe_pure fun w₅ ht₅ ↦ ?_
    have ht : Tended e input w₃ w₅ := ht₄.trans ht₅
    refine hQ w₅ (hs₃.tended ht) ?_ ⟨event, ?_, rfl⟩
    · rw [ht.kept.checkpoint, hfile, ht₂.kept.checkpoint, ht₁.kept.checkpoint]
    · rw [ht.kept.events, hevents]
      exact List.mem_append_right _ (List.mem_singleton.mpr rfl)

theorem ends_beginStage {run : StageRun} (hs : Steady e request input n w)
    (hrun : ∃ event ∈ (w.dir input.operationID).events, event.stage = run.stage)
    {Q : Except OpsError StageReport → World → Prop}
    (hQ : ∀ report w', Steady e request input n w' →
      (w'.dir input.operationID).checkpoint = (w.dir input.operationID).checkpoint →
      Q (.ok report) w') :
    Ends e input (beginStage run) Q w := by
  refine Proc.safe_bind (Proc.safe_atomic fun w₁ ht₁ ↦ ⟨trivial, fun w₂ ht₂ ↦ ?_⟩)
  have hs₁ := hs.tended ht₁
  rw [← ht₁.kept.events] at hrun
  have hs₂ : Steady e request input n w₂ := by
    have hs' : Steady e request input n { w₁ with executed := w₁.executed ++ [run] } :=
      ⟨hs₁.toPoised.step rfl (hs₁.filed.begin hrun) rfl rfl rfl, hs₁.stored, hs₁.upTo, hs₁.last⟩
    exact hs'.tended ht₂
  have hfile : (w₂.dir input.operationID).checkpoint = (w.dir input.operationID).checkpoint :=
    ht₂.kept.checkpoint.trans ht₁.kept.checkpoint
  refine Proc.safe_bind (Proc.safe_answer fun w₃ ht₃ answer w₄ ht₄ ↦ ?_)
  have hQ₄ : ∀ report w', Tended e input w₄ w' → Q (.ok report) w' := fun report w' ht ↦ by
    have ht' : Tended e input w₂ w' := ht₃.trans (ht₄.trans ht)
    exact hQ report w' (hs₂.tended ht') (ht'.kept.checkpoint.trans hfile)
  cases answer with
  | stage report => exact Proc.safe_pure fun w₅ ht₅ ↦ hQ₄ report w₅ ht₅
  | start failure => exact Proc.safe_pure fun w₅ ht₅ ↦ hQ₄ default w₅ ht₅
  | resolve runner => exact Proc.safe_pure fun w₅ ht₅ ↦ hQ₄ default w₅ ht₅
  | token value => exact Proc.safe_pure fun w₅ ht₅ ↦ hQ₄ default w₅ ht₅

theorem ends_executeStage {purpose : Purpose} {stage : OperationStage}
    (hs : Steady e request input n w) {Q : Except OpsError StageOutcome → World → Prop}
    (hQ : ∀ outcome w', n < outcome.sequence → Steady e request input outcome.sequence w' →
      (w'.dir input.operationID).checkpoint = (w.dir input.operationID).checkpoint →
      Q (.ok outcome) w') :
    Ends e input (executeStage input request purpose stage n) Q w := by
  refine Proc.safe_bind (Proc.safe_observe (ends_appendRunEvent hs fun w₁ hs₁ hfile₁ hrun ↦ ?_))
  refine Proc.safe_bind (ends_beginStage hs₁ hrun fun report w₂ hs₂ hfile₂ ↦ ?_)
  have hend : ∀ outcome w₃, outcome.sequence = n + 1 + 1 →
      Steady e request input (n + 1 + 1) w₃ →
      (w₃.dir input.operationID).checkpoint = (w₂.dir input.operationID).checkpoint →
      ∀ w₄, Tended e input w₃ w₄ → Q (.ok outcome) w₄ := fun outcome w₃ hseq hs₃ hfile₃ w₄ ht₄ ↦ by
    refine hQ outcome w₄ (by omega) (hseq ▸ hs₃.tended ht₄) ?_
    rw [ht₄.kept.checkpoint, hfile₃, hfile₂, hfile₁]
  dsimp only
  split
  · refine Proc.safe_bind (Proc.safe_observe (ends_appendRunEvent hs₂ fun w₃ hs₃ hfile₃ _ ↦ ?_))
    exact Proc.safe_pure fun w₄ ht₄ ↦ hend _ w₃ rfl hs₃ hfile₃ w₄ ht₄
  · refine Proc.safe_bind (Proc.safe_observe (ends_appendRunEvent hs₂ fun w₃ hs₃ hfile₃ _ ↦ ?_))
    exact Proc.safe_pure fun w₄ ht₄ ↦ hend _ w₃ rfl hs₃ hfile₃ w₄ ht₄

/-- What a checkpoint of this runner has in common with all of them. -/
structure Own (e : Engine) (request : OperationRequestFile) (input : RunInput)
    (c : OperationCheckpoint) : Prop where
  contract : c.contract = request.contract
  fence : c.fence = e.fence input

theorem Filed.operationID_of_contract (hw : Filed e input.commandSecret input.operationID request w)
    {c c' : OperationCheckpoint} (hc' : (w.dir input.operationID).checkpoint = some c')
    (hcontract : c.contract = request.contract) : c.operationID = input.operationID :=
  (congrArg (·.1) hcontract).trans (hw.executable c' hc').owner

theorem ends_writeCheckpoint {c : OperationCheckpoint} (hs : Steady e request input n w)
    (hcontract : c.contract = request.contract) (hfence : c.fence = e.fence input) (hseq : c.sequence = n)
    (hnew : ∀ old, (w.dir input.operationID).checkpoint = some old → old.sequence < n)
    {Q : Except OpsError Unit → World → Prop}
    (hQ : ∀ w', Steady e request input n w' →
      (w'.dir input.operationID).checkpoint = some c → Q (.ok ()) w') :
    Ends e input (writeJournal (writeCheckpoint input.operationID c)) Q w := by
  obtain ⟨stored, hstored, hsame⟩ := hs.stored
  have hgen : stored.generation = c.generation := congrArg (·.1) (hsame.trans hfence.symm)
  have hhash : stored.fencingTokenHash = c.fencingTokenHash :=
    congrArg (·.2.1) (hsame.trans hfence.symm)
  have hmine := OperationCheckpoint.generation_of_fence hfence
  refine ends_write (fun w₁ ht₁ ↦ ?_) (fun j ↦ wrote_writeCheckpoint j _ c) ?_
  · have hfiled := (hs.tended ht₁).filed
    have hstored₁ := ht₁.kept.checkpoint.trans hstored
    refine writeCheckpoint_eq_ok hs.validID (hfiled.operationID_of_contract hstored₁ hcontract)
      fun old hold ↦ ?_
    have heq : old = stored := Option.some.inj (hold.symm.trans hstored₁)
    subst heq
    refine ⟨hfiled.operationID_of_contract hold (hfiled.checkpoint old hold).1, .inr ⟨hgen, hhash, ?_⟩⟩
    rw [hseq]
    exact hnew old hstored
  · intro w₁ w₂ ht₁ hworld hdir w₃ ht₃
    have hs₁ := hs.tended ht₁
    have hnow : w₂.now = w₁.now := by rw [hworld]
    have hexecuted : w₂.executed = w₁.executed := by rw [hworld]
    have hevents : (w₂.dir input.operationID).events = (w₁.dir input.operationID).events :=
      congrArg (·.events) hdir
    obtain ⟨l, hl, hinput⟩ := hs₁.launched
    have hstored₁ := ht₁.kept.checkpoint.trans hstored
    have hfiled : Filed e input.commandSecret input.operationID request w₂ := by
      refine hs₁.filed.file hnow hexecuted hdir hcontract (hs₁.filed.executable stored hstored₁)
        ⟨l, hl, .inl (by rw [hinput, hfence])⟩ ?_ fun event hevent ↦ ?_
      · rw [hseq, hmine]
        exact hs₁.last
      · obtain ⟨c', hc', hle⟩ := hs₁.filed.events event hevent
        rw [hstored₁, Option.some.injEq] at hc'
        subst hc'
        exact hle.trans hgen.le
    have hs₂ : Steady e request input n w₂ := by
      refine ⟨hs₁.toPoised.step hnow hfiled (congrArg (·.lease) hdir) (congrArg (·.launch) hdir)
        (congrArg (·.result) hdir), ⟨c, congrArg (·.checkpoint) hdir, hfence⟩, ?_, ?_⟩
      · rw [hevents]
        exact hs₁.upTo
      · rw [hevents]
        exact hs₁.last
    exact hQ w₃ (hs₂.tended ht₃) (ht₃.kept.checkpoint.trans (congrArg (·.checkpoint) hdir))

/-- Once there is a result that ends the generation, it stays. -/
theorem Finished.tended (hf : Finished input w) (ht : Tended e input w w') : Finished input w' := by
  obtain ⟨r, hr, hends⟩ := hf
  exact ⟨r, ht.kept.result.trans hr, hends⟩

theorem ends_writeTerminalResult {c : OperationCheckpoint} {status : OperationStatus}
    {code : Option OperationErrorCode} {message : String} (hp : Poised e request input w)
    (hstatus : isRunnerResultStatus status = true) {Q : Except OpsError Unit → World → Prop}
    (hQ : ∀ w', Finished input w' → Q (.ok ()) w') :
    Ends e input (writeTerminalResult input c status code message) Q w := by
  refine Proc.safe_bind (ends_clock fun now w₁ ht₁ ↦ ?_)
  refine ends_write (fun w₂ ht₂ ↦ ?_) (fun j ↦ wrote_writeResult j _ _) ?_
  · have hp₂ := hp.tended (ht₁.trans ht₂)
    refine writeResult_eq_ok hp.validID rfl hstatus fun old hold ↦ ?_
    exact ⟨(hp₂.filed.result old hold).1, hp₂.unfinished old hold⟩
  · intro w₂ w₃ ht₂ _ hdir w₄ ht₄
    have hf : Finished input w₃ := ⟨_, congrArg (·.result) hdir, .inr le_rfl⟩
    exact hQ w₄ (hf.tended ht₄)

theorem ends_giveUp {c : OperationCheckpoint} {message : String} (hs : Steady e request input n w)
    (hcontract : c.contract = request.contract) (hfence : c.fence = e.fence input) (hseq : c.sequence = n)
    (hnew : ∀ old, (w.dir input.operationID).checkpoint = some old → old.sequence < n)
    {Q : Except OpsError Unit → World → Prop} (hQ : ∀ w', Finished input w' → Q (.ok ()) w') :
    Ends e input (Engine.giveUp input c message) Q w := by
  refine Proc.safe_bind (ends_writeCheckpoint hs hcontract hfence hseq hnew fun w₁ hs₁ _ ↦ ?_)
  exact ends_writeTerminalResult hs₁.toPoised rfl hQ

/-- The checkpoint on file is behind an event of a stage executed since. -/
theorem Steady.behind (hs : Steady e request input n w) {n' : ℕ} (hlt : n < n')
    (hsame : (w'.dir input.operationID).checkpoint = (w.dir input.operationID).checkpoint)
    (old : OperationCheckpoint) (hold : (w'.dir input.operationID).checkpoint = some old) :
    old.sequence < n' :=
  (hs.sequence_le (hsame.symm.trans hold)).trans_lt hlt

theorem ends_validateOwnership (hp : Manned e request input w)
    {Q : Except OpsError Unit → World → Prop} (hQ : ∀ w', Tended e input w w' → Q (.ok ()) w') :
    Ends e input (e.validateOwnership input) Q w := by
  refine Proc.safe_bind (ends_look fun w₁ w₂ ht₁ ht₂ ↦ ?_)
  obtain ⟨lease, hlease, howner, hgen, hhash, hdigest, hexpires⟩ := (hp.tended ht₁).held
  have hread : w₁.journal.readLease input.operationID = .ok lease :=
    readFact_eq_ok_iff.mpr ⟨hp.validID, hlease, howner⟩
  dsimp only
  rw [hread]
  dsimp only
  rw [if_neg]
  · exact Proc.safe_pure fun w₃ ht₃ ↦ hQ w₃ (ht₁.trans (ht₂.trans ht₃))
  · rintro (h | h | h | h)
    · exact h hgen
    · exact h hhash
    · exact h hdigest
    · exact absurd hexpires (not_lt.mpr h)

theorem readCancelCommand_of_filed
    (hw : Filed e input.commandSecret input.operationID request w)
    (hid : validOperationID input.operationID = true)
    (hsecret : minimumCommandSecret ≤ input.commandSecret.utf8ByteSize) :
    (∃ c, w.journal.readCancelCommand input.commandSecret input.operationID w.now = .ok c) ∨
      w.journal.readCancelCommand input.commandSecret input.operationID w.now =
        .error errNotExist := by
  rw [Journal.readCancelCommand]
  cases hfile : (w.dir input.operationID).cancel with
  | none =>
    have hread : readSigned input.commandSecret input.operationID
        (none : Option (Signed CancelOperationCommand)) (·.operationID) = .error errNotExist := by
      rw [readSigned.eq_def, if_neg (by simp [hid]), if_neg (by omega)]
    rw [hread]
    exact .inr rfl
  | some command =>
    obtain ⟨hsigner, howner, hvalid⟩ := hw.cancel command hfile
    have hread : readSigned input.commandSecret input.operationID (some command)
        (·.operationID) = .ok command.payload := by
      rw [readSigned_eq_ok_iff]
      exact ⟨hid, hsecret, by rw [← hsigner], howner⟩
    rw [hread]
    exact .inl ⟨command.payload, by simp only [bind, Except.bind, hvalid]; rfl⟩

theorem ends_handleCancellation {c : OperationCheckpoint} (hs : Steady e request input n w)
    (hc : Own e request input c) {Q : Except OpsError (Option OperationCheckpoint) → World → Prop}
    (hgo : ∀ c' w', Steady e request input n w' → Own e request input c' → Q (.ok (some c')) w')
    (hstop : ∀ w', Finished input w' → Q (.ok none) w') :
    Ends e input (Engine.handleCancellation input request c n) Q w := by
  refine Proc.safe_bind (Proc.safe_observe (ends_read fun w₁ w₂ ht₁ ht₂ ↦ ?_))
  have hs₁ := hs.tended ht₁
  have hfinish : ∀ w₁, Finished input w₁ → ∀ w₂, Tended e input w₁ w₂ → Q (.ok none) w₂ :=
    fun w₁ hf w₂ ht ↦ hstop w₂ (hf.tended ht)
  rcases readCancelCommand_of_filed hs₁.filed hs.validID hs.launch.2.2.2.2 with ⟨cancel, hread⟩ | hread
  · dsimp only
    rw [hread]
    refine Proc.safe_bind (ends_clock fun now w₃ ht₃ ↦ ?_)
    have hs₃ := hs₁.tended (ht₂.trans ht₃)
    dsimp only
    split
    · refine Proc.safe_bind (ends_writeTerminalResult hs₃.toPoised rfl fun w₄ hf ↦ ?_)
      exact Proc.safe_pure (hfinish w₄ hf)
    · split
      · exact Proc.safe_pure fun w₄ ht₄ ↦ hgo _ w₄ (hs₃.tended ht₄) ⟨hc.contract, hc.fence⟩
      · refine Proc.safe_bind (ends_executeStage hs₃ fun outcome w₄ hlt hs₄ hsame ↦ ?_)
        refine Proc.safe_bind (ends_clock fun now' w₅ ht₅ ↦ ?_)
        have hs₅ := hs₄.tended ht₅
        have hnew := fun old ↦ hs₃.behind hlt (ht₅.kept.checkpoint.trans hsame) old
        dsimp only
        split
        · refine Proc.safe_bind (ends_giveUp hs₅ (by exact hc.contract) (by exact hc.fence) rfl hnew fun w₆ hf ↦ ?_)
          exact Proc.safe_pure (hfinish w₆ hf)
        · refine Proc.safe_bind (ends_writeCheckpoint hs₅ (by exact hc.contract) (by exact hc.fence) rfl hnew
            fun w₆ hs₆ _ ↦ ?_)
          refine Proc.safe_bind (ends_writeTerminalResult hs₆.toPoised rfl fun w₇ hf ↦ ?_)
          exact Proc.safe_pure (hfinish w₇ hf)
  · dsimp only
    rw [hread]
    exact Proc.safe_pure fun w₃ ht₃ ↦ hgo c w₃ (hs₁.tended (ht₂.trans ht₃)) hc

theorem Own.expectedVersion {c : OperationCheckpoint} (hc : Own e request input c)
    (hexecutable : Executable input.operationID request) : c.expectedVersion ≠ "" := by
  rw [show c.expectedVersion = request.expectedVersion from congrArg (·.2.2.1) hc.contract]
  exact expectedVersion_ne_empty hexecutable.valid

theorem ends_handleStageFailure {c : OperationCheckpoint} {stage : OperationStage}
    {output : StageOutput} {failure : OpsError} (hs : Steady e request input n w)
    (hc : Own e request input c)
    (hnew : ∀ old, (w.dir input.operationID).checkpoint = some old → old.sequence < n) :
    Ends e input (Engine.handleStageFailure input request c stage output failure n)
      (Succeeded input) w := by
  refine Proc.safe_bind (ends_clock fun now w₁ ht₁ ↦ ?_)
  have hfailed : Own e request input
      (Engine.failedCheckpoint c stage output failure.message n now) := ⟨hc.contract, hc.fence⟩
  have hseq := sequence_failedCheckpoint c stage output now n failure.message
  dsimp only
  generalize Engine.failedCheckpoint c stage output failure.message n now = failed at *
  refine Proc.safe_bind (Proc.safe_ofExcept fun w₂ ht₂ ↦ ?_)
  have ht : Tended e input w w₂ := ht₁.trans ht₂
  have hs₂ := hs.tended ht
  obtain ⟨stored, hstored, -⟩ := hs.stored
  have hexecutable := hs.filed.executable stored hstored
  generalize hdecision : decideRecovery _ _ = decided
  cases decided with
  | error err => exact absurd hdecision (decideRecovery_ne_error (hfailed.expectedVersion hexecutable))
  | ok decision =>
    have hnew₂ : ∀ old, (w₂.dir input.operationID).checkpoint = some old → old.sequence < n :=
      fun old hold ↦ hnew old (ht.kept.checkpoint.symm.trans hold)
    refine Proc.safe_bind (ends_writeCheckpoint hs₂ (by exact hfailed.contract)
      (by exact hfailed.fence) (by exact hseq) hnew₂ fun w₃ hs₃ _ ↦ ?_)
    have hdone : ∀ w', Finished input w' → Succeeded input (.ok ()) w' := fun _ hf ↦ ⟨rfl, hf⟩
    dsimp only
    split
    · exact ends_writeTerminalResult hs₃.toPoised rfl hdone
    · exact ends_writeTerminalResult hs₃.toPoised rfl hdone
    · exact ends_writeTerminalResult hs₃.toPoised rfl hdone
    · rename_i hstage hnone hoperator hhandoff
      rcases decideRecovery_stage hdecision with (h | h | h) | ⟨-, h⟩ | ⟨-, h⟩
      · exact absurd h hnone
      · exact absurd h hoperator
      · exact absurd h hhandoff
      · cases hstage.symm.trans h
      · cases hstage.symm.trans h
    · refine Proc.safe_bind (ends_executeStage hs₃ fun outcome w₄ hlt hs₄ hsame ↦ ?_)
      refine Proc.safe_bind (ends_clock fun now' w₅ ht₅ ↦ ?_)
      have hs₅ := hs₄.tended ht₅
      have hnew₅ := fun old ↦ hs₃.behind hlt (ht₅.kept.checkpoint.trans hsame) old
      dsimp only
      split
      · exact ends_giveUp hs₅ (by exact hfailed.contract) (by exact hfailed.fence) rfl hnew₅ hdone
      · refine Proc.safe_bind (ends_writeCheckpoint hs₅ (by exact hfailed.contract) (by exact hfailed.fence) rfl hnew₅
          fun w₆ hs₆ _ ↦ ?_)
        exact ends_writeTerminalResult hs₆.toPoised rfl hdone

/-- **The plan loop comes to a result.** -/
theorem ends_runStages {rest : List OperationStage} {c : OperationCheckpoint}
    (hs : Steady e request input n w) (hc : Own e request input c) :
    Ends e input (e.runStages input request rest c n) (Succeeded input) w := by
  induction rest generalizing c n w with
  | nil => exact ends_writeTerminalResult hs.toPoised rfl fun _ hf ↦ ⟨rfl, hf⟩
  | cons stage rest ih =>
    refine Proc.safe_bind (ends_validateOwnership hs.toManned fun w₁ ht₁ ↦ ?_)
    refine Proc.safe_bind (ends_handleCancellation (hs.tended ht₁) hc (fun c' w₂ hs₂ hc' ↦ ?_) ?_)
    · refine Proc.safe_bind (ends_executeStage hs₂ fun outcome w₃ hlt hs₃ hsame ↦ ?_)
      dsimp only
      split
      · exact ends_handleStageFailure hs₃ hc' fun old ↦ hs₂.behind hlt hsame old
      · refine Proc.safe_bind (ends_clock fun now w₄ ht₄ ↦ ?_)
        have hnew := fun old ↦ hs₂.behind hlt (ht₄.kept.checkpoint.trans hsame) old
        refine Proc.safe_bind (ends_writeCheckpoint (hs₃.tended ht₄)
          (by exact hc'.contract) (by exact hc'.fence) rfl hnew fun w₅ hs₅ _ ↦ ?_)
        exact ih hs₅ ⟨hc'.contract, hc'.fence⟩
    · exact fun w₂ hf ↦ Proc.safe_pure fun w₃ ht₃ ↦ ⟨rfl, hf.tended ht₃⟩

/-- **And so does a recovery that can be carried out.** -/
theorem ends_runPersistedRecovery {c : OperationCheckpoint} (hs : Steady e request input n w)
    (hc : Own e request input c) (hrunnable : isRunnableRecoveryAction c.nextSafeAction = true) :
    Ends e input (e.runPersistedRecovery input request c n) (Succeeded input) w := by
  refine Proc.safe_bind (ends_validateOwnership hs.toManned fun w₁ ht₁ ↦ ?_)
  refine Proc.safe_bind (Proc.safe_ofExcept fun w₂ ht₂ ↦ ?_)
  have hs₂ := hs.tended (ht₁.trans ht₂)
  obtain ⟨stage, status, hexecution, hstatus⟩ : ∃ stage status,
      recoveryExecution c.nextSafeAction c.cancelRequested = .ok (stage, status) ∧
        isRunnerResultStatus status = true := by
    rw [isRunnableRecoveryAction, Option.any_eq_true] at hrunnable
    obtain ⟨action, haction, hexecutable⟩ := hrunnable
    rw [haction]
    cases action with
    | restoreCurrent => exact ⟨_, _, rfl, by cases c.cancelRequested <;> rfl⟩
    | restoreBackup => exact ⟨_, _, rfl, by cases c.cancelRequested <;> rfl⟩
    | commitTarget => exact ⟨_, _, rfl, rfl⟩
    | continueControllerHandoff => exact ⟨_, _, rfl, rfl⟩
    | none => cases hexecutable
    | retryPreflight => cases hexecutable
    | requireOperator => cases hexecutable
  rw [hexecution]
  refine Proc.safe_bind (ends_executeStage hs₂ fun outcome w₃ hlt hs₃ hsame ↦ ?_)
  refine Proc.safe_bind (ends_clock fun now w₄ ht₄ ↦ ?_)
  have hs₄ := hs₃.tended ht₄
  have hnew := fun old ↦ hs₂.behind hlt (ht₄.kept.checkpoint.trans hsame) old
  dsimp only
  split
  · exact ends_giveUp hs₄ (by exact hc.contract) (by exact hc.fence) rfl hnew fun _ hf ↦ ⟨rfl, hf⟩
  · refine Proc.safe_bind (ends_writeCheckpoint hs₄ (by exact hc.contract) (by exact hc.fence) rfl hnew
      fun w₅ hs₅ _ ↦ ?_)
    exact ends_writeTerminalResult hs₅.toPoised hstatus fun _ hf ↦ ⟨rfl, hf⟩

end Rules

/-! ## What the files must say -/

/-- The latest event tells of a destructive stage the checkpoint knows nothing of. -/
def UnknownIntent (dir : OperationDir) (c : OperationCheckpoint) : Prop :=
  ∃ event, dir.latestEvent c.generation = some event ∧ isUnknownStageIntent c event = true

/-- A checkpoint of the generation under way leads on: to the end, if a stage of unknown outcome is
the last thing known; otherwise to a stage of the plan, or to a recovery that can be carried out. -/
def GoesOn (request : OperationRequestFile) (recoveryGeneration : Bool) (dir : OperationDir)
    (c : OperationCheckpoint) : Prop :=
  UnknownIntent dir c ∨
    if recoveryGeneration then isRunnableRecoveryAction c.nextSafeAction = true
    else ∃ i, nextStageIndex request.plan c = .ok i

/-- Whether the files of an operation without a result for the generation lead on. -/
def LeadsOn (request : OperationRequestFile) (input : RunInput) (recoveryGeneration : Bool)
    (dir : OperationDir) : Prop :=
  match dir.checkpoint with
  | none => recoveryGeneration = false
  | some c =>
    if c.generation < input.generation then
      (isRunnableRecoveryAction c.nextSafeAction || isRunnableRecoveryAction input.recoveryAction)
        = true
    else GoesOn request recoveryGeneration dir c

/-- What the files must say for a runner started again to come to a result. -/
def Resumable (request : OperationRequestFile) (input : RunInput) (w : World) : Prop :=
  Finished input w ∨ Executable input.operationID request ∧
    LeadsOn request input (w.dir input.operationID).result.isSome (w.dir input.operationID)

section Prefix

variable {e : Engine} {request : OperationRequestFile} {input : RunInput} {n : ℕ} {w w' : World}
  {c : OperationCheckpoint}

theorem failed_iff {err : OpsError} {P : Prop} (h : ¬P) : Succeeded input (.error err) w ↔ P :=
  iff_of_false (fun hs ↦ nomatch hs.1) h

theorem recoveryExecution_eq_error {action : Option RecoveryAction} (cancelRequested : Bool)
    (h : isRunnableRecoveryAction action = false) :
    ∃ err, recoveryExecution action cancelRequested = .error err := by
  rw [isRunnableRecoveryAction, Option.any_eq_false] at h
  rw [recoveryExecution.eq_def]
  split
  · exact absurd (h _ rfl) (by decide)
  · exact absurd (h _ rfl) (by decide)
  · exact absurd (h _ rfl) (by decide)
  · exact absurd (h _ rfl) (by decide)
  · exact ⟨_, rfl⟩

theorem ends_readEventState (hp : Poised e request input w)
    (hfile : (w.dir input.operationID).checkpoint = some c) (hfence : c.fence = e.fence input)
    {Q : Except OpsError (ℕ × Option OperationEvent) → World → Prop}
    (hQ : ∀ n w', Tended e input w w' → Steady e request input n w' →
      n = (((w.dir input.operationID).latestEvent c.generation).map (·.sequence)).getD 0 →
      Q (.ok (n, (w.dir input.operationID).latestEvent c.generation)) w') :
    Ends e input (Engine.readEventState input) Q w := by
  refine Proc.safe_bind (ends_read fun w₁ w₂ ht₁ ht₂ ↦ ?_)
  have hgen := OperationCheckpoint.generation_of_fence hfence
  obtain ⟨events, hread⟩ : ∃ events,
      w₁.journal.readEvents input.operationID input.generation 0 = .ok events :=
    ⟨_, if_pos hp.validID⟩
  have hlast : events.getLast? = (w.dir input.operationID).latestEvent c.generation := by
    rw [Journal.readEvents_getLast? hread, hgen, OperationDir.latestEvent,
      OperationDir.latestEvent, ht₁.kept.events]
  rw [hread]
  refine Proc.safe_pure fun w₃ ht₃ ↦ ?_
  have ht : Tended e input w w₃ := ht₁.trans (ht₂.trans ht₃)
  rw [hlast]
  refine hQ _ w₃ ht (Steady.tended ⟨hp, ⟨c, hfile, hfence⟩, fun event hevent hgen' ↦ ?_, ?_⟩ ht) rfl
  · cases hlatest : (w.dir input.operationID).latestEvent c.generation with
    | none =>
      rw [OperationDir.latestEvent_eq_none hlatest hevent (hgen'.trans hgen.symm)]
      exact Nat.zero_le _
    | some last =>
      exact (OperationDir.latestEvent_eq_some hlatest).2.2.2 event hevent (hgen'.trans hgen.symm)
  · cases hlatest : (w.dir input.operationID).latestEvent c.generation with
    | none => exact .inl rfl
    | some last =>
      obtain ⟨hmem, hgen', -, -⟩ := OperationDir.latestEvent_eq_some hlatest
      exact .inr ⟨last, hmem, hgen'.trans hgen, rfl⟩

theorem ends_proceed {recoveryGeneration : Bool} (hs : Steady e request input n w)
    (hc : Own e request input c) :
    Ends e input (e.proceed input request request.plan c n recoveryGeneration)
      (fun r w' ↦ Succeeded input r w' ↔ if recoveryGeneration then
        isRunnableRecoveryAction c.nextSafeAction = true
        else ∃ i, nextStageIndex request.plan c = .ok i) w := by
  cases recoveryGeneration with
  | true =>
    refine Proc.safe_bind (Proc.safe_observe (ends_read fun w₁ w₂ ht₁ ht₂ ↦ ?_))
    have hs₁ := hs.tended ht₁
    have hs₂ := hs₁.tended ht₂
    have hrecover : ∀ c', c'.contract = request.contract → c'.fence = e.fence input →
        c'.nextSafeAction = c.nextSafeAction →
        Ends e input (e.runPersistedRecovery input request c' n) (fun r w' ↦
          Succeeded input r w' ↔ isRunnableRecoveryAction c.nextSafeAction = true) w₂ := by
      intro c' hcontract hfence haction
      cases hrunnable : isRunnableRecoveryAction c.nextSafeAction with
      | true =>
        refine (ends_runPersistedRecovery hs₂ ⟨hcontract, hfence⟩ (haction ▸ hrunnable)).imp ?_
        exact fun r w' hr ↦ iff_of_true hr rfl
      | false =>
        refine Proc.safe_bind (ends_validateOwnership hs₂.toManned fun w₃ ht₃ ↦ ?_)
        refine Proc.safe_bind (Proc.safe_ofExcept fun w₄ ht₄ ↦ ?_)
        obtain ⟨err, herr⟩ := recoveryExecution_eq_error c'.cancelRequested
          (haction ▸ hrunnable)
        rw [herr]
        exact fun _ _ ↦ failed_iff Bool.false_ne_true
    rcases readCancelCommand_of_filed hs₁.filed hs.validID hs.launch.2.2.2.2 with
      ⟨cancel, hread⟩ | hread
    · dsimp only
      rw [hread]
      exact hrecover _ hc.contract hc.fence rfl
    · dsimp only
      rw [hread]
      exact hrecover c hc.contract hc.fence rfl
  | false =>
    refine Proc.safe_bind (Proc.safe_ofExcept fun w₁ ht₁ ↦ ?_)
    cases hnext : nextStageIndex request.plan c with
    | error err =>
      exact fun w₂ _ ↦ failed_iff fun ⟨i, hi⟩ ↦ nomatch hi
    | ok i =>
      refine (ends_runStages (hs.tended ht₁) hc).imp fun r w' hr ↦ ?_
      exact iff_of_true hr ⟨i, rfl⟩

theorem ends_goOn {recoveryGeneration : Bool} (hp : Poised e request input w)
    (hfile : (w.dir input.operationID).checkpoint = some c) (hc : Own e request input c) :
    Ends e input (e.goOn input request request.plan c recoveryGeneration)
      (fun r w' ↦ Succeeded input r w' ↔
        GoesOn request recoveryGeneration (w.dir input.operationID) c) w := by
  refine Proc.safe_bind (ends_readEventState hp hfile hc.fence fun n w₁ ht₁ hs₁ hn ↦ ?_)
  cases hlatest : (w.dir input.operationID).latestEvent c.generation with
  | none =>
    refine (ends_proceed hs₁ hc).imp fun r w' hr ↦ hr.trans ?_
    refine ⟨.inr, fun hgo ↦ hgo.resolve_left fun ⟨event, hevent, _⟩ ↦ ?_⟩
    rw [hlatest] at hevent
    cases hevent
  | some event =>
    refine Proc.safe_bind (ends_clock fun now w₂ ht₂ ↦ ?_)
    refine Proc.safe_bind (Proc.safe_ofExcept fun w₃ ht₃ ↦ ?_)
    have hs₃ := hs₁.tended (ht₂.trans ht₃)
    have hexecutable := hp.filed.executable c hfile
    cases hunknown : isUnknownStageIntent c event with
    | true =>
      obtain ⟨interrupted, happlied⟩ :=
        applyUnknownStageIntent_eq_ok now (hc.expectedVersion hexecutable) hunknown
      obtain ⟨-, hcontract, hfence, -, -, hseq⟩ := applyUnknownStageIntent_true happlied
      rw [happlied]
      rw [hlatest] at hn
      refine Proc.safe_bind (ends_writeCheckpoint hs₃ (hcontract.trans hc.contract)
        (hfence.trans hc.fence) (hseq.trans hn.symm) (fun old hold ↦ ?_) fun w₄ hs₄ _ ↦ ?_)
      · have ht : Tended e input w w₃ := ht₁.trans (ht₂.trans ht₃)
        rw [ht.kept.checkpoint, hfile, Option.some.injEq] at hold
        have hlt := (isUnknownStageIntent_iff.mp hunknown).2.1
        rw [hn, ← hold]
        exact hlt
      · exact ends_writeTerminalResult hs₄.toPoised rfl fun w₅ hf ↦
          iff_of_true ⟨rfl, hf⟩ (.inl ⟨event, hlatest, hunknown⟩)
    | false =>
      have happlied : applyUnknownStageIntent c event now = .ok (c, false) := by
        rw [applyUnknownStageIntent, hunknown]
        rfl
      rw [happlied]
      refine (ends_proceed hs₃ hc).imp fun r w' hr ↦ hr.trans ?_
      refine ⟨.inr, fun hgo ↦ hgo.resolve_left fun ⟨event', hevent, hunknown'⟩ ↦ ?_⟩
      rw [hlatest, Option.some.injEq] at hevent
      rw [← hevent, hunknown] at hunknown'
      cases hunknown'

/-- The first checkpoint of a generation, put on file. -/
theorem ends_firstCheckpoint {c' : OperationCheckpoint} (hp : Poised e request input w)
    (hexecutable : Executable input.operationID request) (hcontract : c'.contract = request.contract)
    (hfence : c'.fence = e.fence input) (hseq : c'.sequence = 0)
    (hold : ∀ old, (w.dir input.operationID).checkpoint = some old →
      old.generation < input.generation)
    {Q : Except OpsError OperationCheckpoint → World → Prop}
    (hQ : ∀ w', Poised e request input w' → (w'.dir input.operationID).checkpoint = some c' →
      (w'.dir input.operationID).events = (w.dir input.operationID).events → Q (.ok c') w') :
    Ends e input (do
      writeJournal (writeCheckpoint input.operationID c')
      return c') Q w := by
  have hgen := OperationCheckpoint.generation_of_fence hfence
  refine Proc.safe_bind (ends_write (fun w₁ ht₁ ↦ ?_) (fun j ↦ wrote_writeCheckpoint j _ c') ?_)
  · refine writeCheckpoint_eq_ok hp.validID
      ((congrArg (·.1) hcontract).trans hexecutable.owner) fun old hfile ↦ ?_
    have hfile' := ht₁.kept.checkpoint.symm.trans hfile
    refine ⟨hp.filed.operationID_of_contract hfile' (hp.filed.checkpoint old hfile').1, .inl ?_⟩
    exact (hold old hfile').trans_eq hgen.symm
  · intro w₁ w₂ ht₁ hworld hdir w₃ ht₃
    have hp₁ := hp.tended ht₁
    have hnow : w₂.now = w₁.now := by rw [hworld]
    have hexecuted : w₂.executed = w₁.executed := by rw [hworld]
    obtain ⟨l, hl, hinput⟩ := hp₁.launched
    have hfiled : Filed e input.commandSecret input.operationID request w₂ := by
      refine hp₁.filed.file hnow hexecuted hdir hcontract hexecutable
        ⟨l, hl, .inl (by rw [hinput, hfence])⟩ (.inl hseq) fun event hevent ↦ ?_
      obtain ⟨old, hfile, hle⟩ := hp₁.filed.events event hevent
      have hlt := hold old (ht₁.kept.checkpoint.symm.trans hfile)
      omega
    have hp₂ : Poised e request input w₂ := hp₁.step hnow hfiled (congrArg (·.lease) hdir)
      (congrArg (·.launch) hdir) (congrArg (·.result) hdir)
    refine Proc.safe_pure fun w₄ ht₄ ↦ ?_
    have ht : Tended e input w₂ w₄ := ht₃.trans ht₄
    refine hQ w₄ (hp₂.tended ht) (ht.kept.checkpoint.trans (congrArg (·.checkpoint) hdir)) ?_
    exact ht.kept.events.trans ((congrArg (·.events) hdir).trans ht₁.kept.events)

/-- There are no events of a generation that has no checkpoint yet. -/
theorem Filed.no_latestEvent (hw : Filed e input.commandSecret input.operationID request w)
    (hold : ∀ old, (w.dir input.operationID).checkpoint = some old →
      old.generation < input.generation) {w' : World}
    (hevents : (w'.dir input.operationID).events = (w.dir input.operationID).events) :
    (w'.dir input.operationID).latestEvent input.generation = none := by
  cases hlatest : (w'.dir input.operationID).latestEvent input.generation with
  | none => rfl
  | some event =>
    obtain ⟨hmem, hgen, -, -⟩ := OperationDir.latestEvent_eq_some hlatest
    obtain ⟨old, hfile, hle⟩ := hw.events event (hevents ▸ hmem)
    have hlt := hold old hfile
    omega

theorem ends_load_goOn {recoveryGeneration : Bool} (hp : Poised e request input w)
    (hexecutable : Executable input.operationID request)
    (hrec : recoveryGeneration = (w.dir input.operationID).result.isSome) :
    Ends e input (do
      let checkpoint ← e.loadOrCreateCheckpoint input request
      e.goOn input request request.plan checkpoint recoveryGeneration)
      (fun r w' ↦ Succeeded input r w' ↔
        LeadsOn request input recoveryGeneration (w.dir input.operationID)) w := by
  rw [LeadsOn]
  refine Proc.safe_bind ?_
  refine Proc.safe_bind (Proc.safe_observe (ends_read fun w₁ w₂ ht₁ ht₂ ↦ ?_))
  have ht : Tended e input w w₂ := ht₁.trans ht₂
  have hp₂ := hp.tended ht
  cases hfile : (w.dir input.operationID).checkpoint with
  | none =>
    have hread : w₁.journal.readCheckpoint input.operationID = .error errNotExist := by
      rw [Journal.readCheckpoint, show (w₁.journal.dir input.operationID).checkpoint = none from
        ht₁.kept.checkpoint.trans hfile, readFact.eq_def, if_pos hp.validID]
    dsimp only
    rw [hread]
    refine Proc.safe_bind (ends_clock fun now w₃ ht₃ ↦ ?_)
    have ht' : Tended e input w w₃ := ht.trans ht₃
    have hold : ∀ old, (w₃.dir input.operationID).checkpoint = some old →
        old.generation < input.generation := fun old hold ↦ by
      rw [ht'.kept.checkpoint, hfile] at hold
      cases hold
    refine ends_firstCheckpoint (hp₂.tended ht₃) hexecutable rfl rfl rfl hold
      fun w₄ hp₄ hfile₄ hevents ↦ ?_
    refine (ends_goOn hp₄ hfile₄ ⟨rfl, rfl⟩).imp fun r w' hr ↦ hr.trans ?_
    have hnone := (hp₂.tended ht₃).filed.no_latestEvent hold hevents
    cases recoveryGeneration with
    | true =>
      refine iff_of_false (fun hgo ↦ ?_) Bool.noConfusion
      rcases hgo with ⟨event, hevent, -⟩ | hrunnable
      · rw [show (e.initialCheckpoint input request now).generation = input.generation from rfl,
          hnone] at hevent
        cases hevent
      · cases hrunnable
    | false => exact iff_of_true (.inr ⟨0, rfl⟩) rfl
  | some c =>
    have hfile₁ := ht₁.kept.checkpoint.trans hfile
    obtain ⟨hcontract, l, hl, hwhose⟩ := hp.filed.checkpoint c hfile
    obtain ⟨l', hl', hinput⟩ := hp.launched
    rw [hl, Option.some.injEq] at hl'
    subst hl'
    have hread : w₁.journal.readCheckpoint input.operationID = .ok c :=
      readFact_eq_ok_iff.mpr ⟨hp.validID, hfile₁, hp.filed.operationID_of_contract hfile hcontract⟩
    have hgen : l.payload.generation = input.generation := congrArg (·.generation) hinput
    dsimp only
    rw [hread]
    refine Proc.safe_bind (Proc.safe_ofExcept fun w₃ ht₃ ↦ ?_)
    rw [validateCheckpointRequestContract_eq_ok.mpr hcontract]
    have hp₃ := hp₂.tended ht₃
    have ht' : Tended e input w w₃ := ht.trans ht₃
    dsimp only
    by_cases hlt : c.generation < input.generation
    · rw [if_pos hlt, if_neg (not_lt.mpr hlt.le), if_neg hlt.ne]
      refine Proc.safe_bind (ends_clock fun now w₄ ht₄ ↦ ?_)
      refine Proc.safe_bind (Proc.safe_ofExcept fun w₅ ht₅ ↦ ?_)
      have ht'' : Tended e input w w₅ := ht'.trans (ht₄.trans ht₅)
      have hover : recoveryGeneration = true := by
        rw [hrec, Option.isSome_iff_ne_none]
        rcases hwhose with hmine | hold
        · rw [hinput] at hmine
          have := OperationCheckpoint.generation_of_fence hmine
          omega
        · exact hold.2
      rw [Engine.renewCheckpoint]
      by_cases hrunnable : (isRunnableRecoveryAction c.nextSafeAction ||
          isRunnableRecoveryAction input.recoveryAction) = true
      · have hboth : ¬(!isRunnableRecoveryAction c.nextSafeAction &&
            !isRunnableRecoveryAction input.recoveryAction) = true := by
          rw [← Bool.not_or, hrunnable]
          exact Bool.false_ne_true
        rw [if_neg hboth]
        have hold : ∀ old, (w₅.dir input.operationID).checkpoint = some old →
            old.generation < input.generation := fun old hold ↦ by
          rw [ht''.kept.checkpoint, hfile, Option.some.injEq] at hold
          rw [← hold]
          exact hlt
        refine ends_firstCheckpoint (hp.tended ht'') hexecutable (by exact hcontract) rfl rfl hold
          fun w₆ hp₆ hfile₆ hevents ↦ ?_
        refine (ends_goOn hp₆ hfile₆ ⟨hcontract, rfl⟩).imp fun r w' hr ↦ hr.trans ?_
        refine iff_of_true (.inr ?_) hrunnable
        rw [hover, if_pos rfl]
        dsimp only
        split
        · assumption
        · rename_i hnot
          rw [Bool.not_eq_true] at hnot
          rwa [hnot, Bool.false_or] at hrunnable
      · have hboth : (!isRunnableRecoveryAction c.nextSafeAction &&
            !isRunnableRecoveryAction input.recoveryAction) = true := by
          rw [← Bool.not_or, Bool.eq_false_iff.mpr hrunnable]
          rfl
        rw [if_pos hboth]
        exact fun _ _ _ _ ↦ failed_iff hrunnable
    · have hfence : c.fence = e.fence input := by
        rcases hwhose with hmine | hold
        · rw [hmine, hinput]
        · exact absurd (hgen ▸ hold.1) hlt
      have hsame := OperationCheckpoint.generation_of_fence hfence
      have hhash : c.fencingTokenHash = e.hashToken input.fencingToken := congrArg (·.2.1) hfence
      have hdigest : c.runnerDigest = input.runnerDigest := congrArg (·.2.2) hfence
      rw [if_neg hlt, if_neg (not_lt.mpr hsame.le), if_pos hsame,
        if_neg (not_or.mpr ⟨not_not.mpr hhash, not_not.mpr hdigest⟩)]
      refine Proc.safe_pure fun w₄ ht₄ ↦ ?_
      have ht'' : Tended e input w w₄ := ht'.trans ht₄
      refine (ends_goOn (hp.tended ht'') (ht''.kept.checkpoint.trans hfile)
        ⟨hcontract, hfence⟩).imp fun r w' hr ↦ hr.trans ?_
      rw [GoesOn, GoesOn, UnknownIntent, UnknownIntent, OperationDir.latestEvent,
        OperationDir.latestEvent, ht''.kept.events]

theorem leadsOn_tended (ht : Tended e input w w') (recoveryGeneration : Bool) :
    LeadsOn request input recoveryGeneration (w'.dir input.operationID) ↔
      LeadsOn request input recoveryGeneration (w.dir input.operationID) := by
  rw [LeadsOn, LeadsOn, ht.kept.checkpoint]
  cases (w.dir input.operationID).checkpoint with
  | none => rfl
  | some c =>
    dsimp only
    rw [GoesOn, GoesOn, UnknownIntent, UnknownIntent, OperationDir.latestEvent,
      OperationDir.latestEvent, ht.kept.events]

theorem readRequest_of_executable {j : Journal} {operationID : String}
    (hid : validOperationID operationID = true)
    (hfile : (j.dir operationID).request = some request)
    (hexecutable : Executable operationID request) : j.readRequest operationID = .ok request := by
  have hread : readFact operationID (j.dir operationID).request (·.operationID) = .ok request :=
    readFact_eq_ok_iff.mpr ⟨hid, hfile, hexecutable.owner⟩
  rw [Journal.readRequest, hread]
  simp only [bind, Except.bind, hexecutable.valid]

theorem ends_takeUp {recoveryGeneration : Bool} (hp : Poised e request input w)
    (hrec : recoveryGeneration = (w.dir input.operationID).result.isSome) :
    Ends e input (e.takeUp input recoveryGeneration)
      (fun r w' ↦ Succeeded input r w' ↔ Executable input.operationID request ∧
        LeadsOn request input recoveryGeneration (w.dir input.operationID)) w := by
  refine Proc.safe_bind (ends_read fun w₁ w₂ ht₁ ht₂ ↦ ?_)
  have hstated := (hp.tended ht₁).filed.stated
  cases hread : w₁.journal.readRequest input.operationID with
  | error err =>
    refine fun _ _ ↦ failed_iff fun ⟨hexecutable, _⟩ ↦ ?_
    rw [readRequest_of_executable hp.validID hstated hexecutable] at hread
    cases hread
  | ok r =>
    have hr : r = request := Option.some.inj ((readRequest_eq_ok hread).1.symm.trans hstated)
    subst hr
    dsimp only
    split
    · rename_i hlive
      refine Proc.safe_fail fun _ _ ↦ failed_iff fun ⟨hexecutable, _⟩ ↦ ?_
      rw [hexecutable.live] at hlive
      cases hlive
    · rename_i hlive
      refine Proc.safe_bind (Proc.safe_ofExcept fun w₃ ht₃ ↦ ?_)
      cases hstages : stagesFor r.request.action with
      | error err =>
        refine fun _ _ ↦ failed_iff fun ⟨hexecutable, _⟩ ↦ ?_
        rw [hexecutable.planned] at hstages
        cases hstages
      | ok stages =>
        obtain rfl := OperationRequestFile.plan_of_stagesFor hstages
        have hexecutable : Executable input.operationID r :=
          ⟨(readRequest_eq_ok hread).2.1, (readRequest_eq_ok hread).2.2, by simpa using hlive, hstages⟩
        have ht : Tended e input w w₃ := ht₁.trans (ht₂.trans ht₃)
        refine (ends_load_goOn (hp.tended ht) hexecutable (ht.kept.result ▸ hrec)).imp
          fun r w' hr ↦ hr.trans ?_
        rw [leadsOn_tended ht, and_iff_right hexecutable]

/-- **A runner started again comes to a result exactly if its files say so.** -/
theorem ends_run (hm : Manned e request input w) :
    Ends e input (e.run input)
      (fun r w' ↦ Succeeded input r w' ↔ Resumable request input w) w := by
  obtain ⟨hid, hgen, htoken, hdigest, hsecret⟩ := hm.launch
  have hvalid : validateRunInput input = .ok () := by
    rw [validateRunInput, if_neg, if_neg]
    · exact not_lt.mpr hsecret
    · rintro (h | h | h | h)
      · rw [h] at hid
        exact absurd hid (by decide)
      · exact hgen h
      · exact htoken h
      · rw [h] at hdigest
        exact absurd hdigest (by decide)
  refine Proc.safe_bind (Proc.safe_ofExcept fun w₁ ht₁ ↦ ?_)
  rw [hvalid]
  refine Proc.safe_bind (ends_validateOwnership (hm.tended ht₁) fun w₂ ht₂ ↦ ?_)
  refine Proc.safe_bind (Proc.safe_observe (ends_read fun w₃ w₄ ht₃ ht₄ ↦ ?_))
  have ht : Tended e input w w₃ := ht₁.trans (ht₂.trans ht₃)
  have hm₃ := hm.tended ht
  rw [Resumable, ← ht.kept.result]
  have hfinished : Finished input w ↔ Finished input w₃ := by
    rw [Finished, Finished, ht.kept.result]
  rw [hfinished, ← leadsOn_tended ht]
  cases hfile : (w₃.dir input.operationID).result with
  | none =>
    have hread : w₃.journal.readResult input.operationID = .error errNotExist := by
      rw [Journal.readResult, show (w₃.journal.dir input.operationID).result = none from hfile,
        readFact.eq_def, if_pos hid]
    have hp₃ : Poised e request input w₃ := ⟨hm₃, fun r hr ↦ by
      rw [hfile] at hr
      cases hr⟩
    dsimp only
    rw [hread]
    refine (ends_takeUp (hp₃.tended ht₄) ?_).imp fun r w' hr ↦ hr.trans ?_
    · rw [ht₄.kept.result, hfile]
      rfl
    · rw [leadsOn_tended ht₄]
      refine ⟨.inr, fun h ↦ h.resolve_left fun ⟨r, hr, _⟩ ↦ ?_⟩
      rw [hfile] at hr
      cases hr
  | some result =>
    obtain ⟨howner, hstatus⟩ := hm₃.filed.result result hfile
    have hread : w₃.journal.readResult input.operationID = .ok result :=
      readFact_eq_ok_iff.mpr ⟨hid, hfile, howner⟩
    dsimp only
    rw [hread]
    dsimp only
    by_cases hterminal : isTerminalStatus result.status = true
    · rw [if_pos hterminal]
      refine Proc.safe_pure fun w₅ ht₅ ↦ ?_
      have hf : Finished input w₃ := ⟨result, hfile, .inl hterminal⟩
      exact iff_of_true ⟨rfl, hf.tended (ht₄.trans ht₅)⟩ (.inl hf)
    · rw [if_neg hterminal]
      have hrecovery : result.status = .recoveryRequired := by
        rw [isRunnerResultStatus, Bool.or_eq_true, beq_iff_eq] at hstatus
        exact hstatus.resolve_left hterminal
      rw [if_neg (not_not.mpr hrecovery)]
      by_cases hlater : result.generation ≥ input.generation
      · rw [if_pos hlater]
        refine Proc.safe_pure fun w₅ ht₅ ↦ ?_
        have hf : Finished input w₃ := ⟨result, hfile, .inr hlater⟩
        exact iff_of_true ⟨rfl, hf.tended (ht₄.trans ht₅)⟩ (.inl hf)
      · rw [if_neg hlater]
        have hp₃ : Poised e request input w₃ := ⟨hm₃, fun r hr ↦ by
          rw [hfile, Option.some.injEq] at hr
          rw [← hr]
          exact ⟨hrecovery, Nat.lt_of_not_le hlater⟩⟩
        refine (ends_takeUp (hp₃.tended ht₄) ?_).imp fun r w' hr ↦ hr.trans ?_
        · rw [ht₄.kept.result, hfile]
          rfl
        · rw [leadsOn_tended ht₄]
          refine ⟨.inr, fun h ↦ h.resolve_left fun ⟨r, hr, hends⟩ ↦ ?_⟩
          obtain ⟨hrec, hlt⟩ := hp₃.unfinished r hr
          rcases hends with hend | hge
          · rw [hrec] at hend
            cases hend
          · omega

end Prefix

/-! ## Every journal a run can leave -/

/-- The runner dies in the first stage. -/
def preflightAnnounced : List (System.Action Answer RunInput Unit RunnerMove) :=
  sampleStart ++ System.steps () 12 ++ [.stop ()]

theorem files_preflightAnnounced :
    ((sampleSystem.play (View.history World) (System.idle ⟨sampleWorld, []⟩)
        preflightAnnounced).any fun c ↦
      (c.state.now.dir "op-1").launch == some ⟨sampleSecret, sampleLaunch⟩ &&
        (c.state.now.dir "op-1").lease == some sampleLease && c.state.now.now == 1 &&
        (c.state.now.dir "op-1").result == none &&
        (c.state.now.dir "op-1").checkpoint.any fun checkpoint ↦
          checkpoint.stage == .accepted && checkpoint.generation == 1) = true := by
  decide

theorem executable_sampleRequest : Executable "op-1" sampleRequest :=
  ⟨rfl, by decide, rfl, rfl⟩

/-- The first stage fails, and the runner dies between the checkpoint and the result. -/
def failureUnreported : List (System.Action Answer RunInput Unit RunnerMove) :=
  sampleStart ++ System.steps () 12 ++
    [.run () (some (.stage { output := {}, failure := some (errOther "preflight failed") }))] ++
    System.steps () 4 ++ [.stop ()]

/-- Whether a process ended because a file on record is corrupt. -/
def endsCorrupt (r : Except OpsError Unit) : Bool :=
  match r with
  | .ok () => false
  | .error err => err.kind == .corruptFact

theorem rerun_failureUnreported :
    ((sampleSystem.play (View.history World) (System.idle ⟨sampleWorld, []⟩)
        failureUnreported).any fun c ↦
      (Proc.exec (Engine.run ⟨id⟩ (sampleLaunch.runInput sampleSecret)) [] c.state.now).any
        fun outcome ↦
          (c.state.now.dir "op-1").launch == some ⟨sampleSecret, sampleLaunch⟩ &&
            (c.state.now.dir "op-1").lease == some sampleLease && c.state.now.now == 1 &&
            endsCorrupt outcome.1 && (outcome.2.dir "op-1").result == none) = true := by
  decide

end HMaigc.Ops
