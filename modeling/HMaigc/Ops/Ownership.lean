import HMaigc.Ops.Files
import HMaigc.Ops.Run

/-!
# The ownership check before a stage

A stage can run for minutes, and by the time it is done another runner may have taken over.  The
engine asks whether it still owns the operation before each stage of the plan, before it honours a
cancellation and before it carries out a recovery; it does not ask before it cleans up after a stage
that failed.

* `Watch` — a run and what is remembered of its ownership checks.
* `stages_owned_or_cleanup` — the only stage that is begun without a check is the one that is to
  undo a failed stage, and only once a checkpoint is filed for which such a stage was decided on.
* `exists_cleanup_unowned` — a run that begins one after its lease has expired.
-/

set_option autoImplicit false

namespace HMaigc.Ops

open Go Concurrent Concurrent.Proc

/-- What `validateOwnership` demands of the lease and of the clock. -/
def Engine.owns (e : Engine) (input : RunInput) (w : World) : Bool :=
  match w.journal.readLease input.operationID with
  | .error _ => false
  | .ok lease => lease.generation = input.generation ∧
      lease.tokenHash = e.hashToken input.fencingToken ∧
      lease.runnerDigest = input.runnerDigest ∧ w.now < lease.expiresAt

/-- The checkpoint of a stage that failed, for which `decideRecovery` chooses a restoration. -/
def OperationCheckpoint.awaitsCleanup (c : OperationCheckpoint) : Bool :=
  c.stageCompletedAt.isNone &&
    match decideRecovery c (observedFrom c {}) with
    | .ok decision => decision.action == .restoreCurrent || decision.action == .restoreBackup
    | .error _ => false

/-- A run: the world, whether the runner has found itself the owner since the last stage it began,
and whether it has filed the checkpoint of a failed stage that has to be undone. -/
structure Watch where
  now : World
  checked : Bool := false
  failed : Bool := false

/-- What a step of the runner adds.  The others may take the operation over between any two steps,
so that a run which found itself the owner at none of them has not asked. -/
def Watch.after (e : Engine) (input : RunInput) (g : Watch) (w : World) : Watch where
  now := w
  checked := if w.executed = g.now.executed then g.checked || e.owns input g.now else false
  failed := g.failed || (w.dir input.operationID).checkpoint.any (·.awaitsCleanup)

def Watch.view (e : Engine) (input : RunInput) : View World Watch := ⟨(·.now), Watch.after e input⟩

/-- Others may do what they like to the world. -/
def Watch.Others (g g' : Watch) : Prop := g'.checked = g.checked ∧ g'.failed = g.failed

/-- Every stage is begun by a runner that has found itself the owner since the one before. -/
def Watch.Owned (g g' : Watch) : Prop :=
  ∀ run, g'.now.executed = g.now.executed ++ [run] → g.checked = true

/-- Nothing is forgotten but by beginning a stage. -/
def Watch.Later (g g' : Watch) : Prop :=
  (g.checked = true → g'.checked = true) ∧ (g.failed = true → g'.failed = true)

instance : Std.Refl Watch.Others := ⟨fun _ ↦ ⟨rfl, rfl⟩⟩

instance : IsTrans Watch Watch.Others := ⟨fun _ _ _ h h' ↦ ⟨h'.1.trans h.1, h'.2.trans h.2⟩⟩

/-- The condition under which a stage may be begun without a check: it undoes one that failed. -/
def Watch.OwnedOrCleanup (g g' : Watch) : Prop :=
  ∀ run, g'.now.executed = g.now.executed ++ [run] →
    g.checked = true ∨ run.purpose = .cleanup ∧ g.failed = true

section Owned

variable {e : Engine} {input : RunInput}

theorem Watch.later_rely {g g' : Watch} (h : Watch.Others g g') : Watch.Later g g' :=
  ⟨fun hg ↦ h.1.trans hg, fun hg ↦ h.2.trans hg⟩

/-- A step that begins no stage. -/
theorem Watch.later_after (g : Watch) {w : World} (h : w.executed = g.now.executed) :
    Watch.OwnedOrCleanup g (Watch.after e input g w) ∧
      Watch.Later g (Watch.after e input g w) := by
  refine ⟨fun run hrun ↦ ?_, fun hg ↦ ?_, fun hg ↦ ?_⟩
  · have hlength := congrArg List.length (h.symm.trans hrun)
    simp at hlength
  · rw [Watch.after, if_pos h, hg, Bool.true_or]
  · rw [Watch.after, hg, Bool.true_or]

theorem Watch.tolerates :
    Tolerates (Watch.view e input) Watch.Others Watch.OwnedOrCleanup Watch.Later where
  rely _ _ := Watch.later_rely
  look g := Watch.later_after g rfl
  trans _ _ _ h h' := ⟨h'.1 ∘ h.1, h'.2 ∘ h.2⟩

theorem Watch.within_writeJournal (write : Journal → Written) :
    (writeJournal write).Within (Watch.view e input) Watch.Others Watch.OwnedOrCleanup Watch.Later :=
  within_atomic Watch.tolerates fun g ↦ Watch.later_after g rfl

theorem Watch.within_clock :
    clock.Within (Watch.view e input) Watch.Others Watch.OwnedOrCleanup Watch.Later :=
  HMaigc.Ops.within_clock Watch.tolerates

theorem Watch.within_writeTerminalResult (c : OperationCheckpoint) (status : OperationStatus)
    (code : Option OperationErrorCode) (message : String) :
    (writeTerminalResult input c status code message).Within (Watch.view e input) Watch.Others
      Watch.OwnedOrCleanup Watch.Later :=
  Watch.within_clock.bind Watch.tolerates fun _ ↦ Watch.within_writeJournal _

theorem Watch.within_giveUp (c : OperationCheckpoint) (message : String) :
    (Engine.giveUp input c message).Within (Watch.view e input) Watch.Others Watch.OwnedOrCleanup
      Watch.Later :=
  (Watch.within_writeJournal _).bind Watch.tolerates fun _ ↦
    Watch.within_writeTerminalResult _ _ _ _

/-- A stage begun by an owner, or to undo a failed one. -/
theorem Watch.safe_executeStage {request : OperationRequestFile} {purpose : Purpose}
    {stage : OperationStage} {n : ℕ} {g : Watch}
    (hg : g.checked = true ∨ purpose = .cleanup ∧ g.failed = true) :
    (executeStage input request purpose stage n).Safe (Watch.view e input) Watch.Others
      Watch.OwnedOrCleanup (fun _ _ ↦ True) g := by
  refine HMaigc.Ops.safe_executeStage Watch.tolerates (fun _ ↦ Watch.within_writeJournal _) ?_
  intro g' hl run hrun
  have hrun : run = ⟨input.operationID, input.generation, purpose, stage⟩ := by
    have happend := List.append_cancel_left hrun
    exact (List.singleton_inj.mp happend).symm
  subst hrun
  exact hg.imp hl.1 fun hcleanup ↦ ⟨hcleanup.1, hl.2 hcleanup.2⟩

/-- Who gets through the ownership check was the owner when it looked. -/
theorem Watch.safe_validateOwnership (g : Watch) :
    (e.validateOwnership input).Safe (Watch.view e input) Watch.Others Watch.OwnedOrCleanup
      (fun r t ↦ r = .ok () → t.checked = true) g := by
  refine safe_bind (safe_look fun t _ ↦ ⟨(Watch.tolerates.look t).1, fun u hu ↦ ?_⟩)
  have howner : e.owns input t.now = true → u.checked = true := fun howns ↦ by
    refine hu.1.trans ?_
    show (if t.now.executed = t.now.executed then t.checked || e.owns input t.now else false) = true
    rw [if_pos rfl, howns, Bool.or_true]
  rw [Engine.owns] at howner
  simp only [show (Watch.view e input).now t = t.now from rfl]
  cases hread : t.now.journal.readLease input.operationID with
  | error err => exact fun _ _ h ↦ by cases h
  | ok lease =>
    simp only [hread, decide_eq_true_eq] at howner
    dsimp only
    split
    · exact fun _ _ h ↦ by cases h
    · rename_i hvalid
      simp only [not_or, ne_eq, not_not, not_le] at hvalid
      exact fun v hv _ ↦ hv.1.trans (howner hvalid)

theorem Watch.safe_handleCancellation {request : OperationRequestFile} {c : OperationCheckpoint}
    {n : ℕ} {g : Watch} (hg : g.checked = true) :
    (Engine.handleCancellation input request c n).Safe (Watch.view e input) Watch.Others
      Watch.OwnedOrCleanup (fun r t ↦ ∀ c', r = .ok (some c') → t.checked = true) g := by
  refine safe_bind ((within_readJournal Watch.tolerates _).observe.safe fun r t hl ↦ ?_)
  have ht := hl.1 hg
  -- once the operation is over nothing is asked any more
  have hover : ∀ {p : OpsProc Unit}, p.Within (Watch.view e input) Watch.Others
      Watch.OwnedOrCleanup Watch.Later → ∀ t, (p >>= fun _ ↦ pure none).Safe (Watch.view e input)
        Watch.Others Watch.OwnedOrCleanup
        (fun r t ↦ ∀ c' : OperationCheckpoint, r = .ok (some c') → t.checked = true) t :=
    fun hp t ↦ safe_bind (hp.safe fun r u _ ↦ by
      cases r with
      | error err => exact fun _ _ _ h ↦ by cases h
      | ok _ => exact fun _ _ _ h ↦ by cases h)
  cases r with
  | error err => exact fun _ _ _ h ↦ by cases h
  | ok cancel =>
    cases cancel with
    | error err =>
      dsimp only
      split
      · exact fun u hu _ _ ↦ hu.1.trans ht
      · exact fun _ _ _ h ↦ by cases h
    | ok command =>
      refine safe_bind (Watch.within_clock.safe fun r t' hl' ↦ ?_)
      have ht' := hl'.1 ht
      cases r with
      | error err => exact fun _ _ _ h ↦ by cases h
      | ok now =>
        dsimp only
        split
        · exact hover (Watch.within_writeTerminalResult _ _ _ _) t'
        · split
          · exact fun u hu _ _ ↦ hu.1.trans ht'
          · refine safe_bind ((Watch.safe_executeStage (.inl ht')).imp fun r u _ ↦ ?_)
            cases r with
            | error err => exact fun _ _ _ h ↦ by cases h
            | ok outcome =>
              refine safe_bind (Watch.within_clock.safe fun r u' _ ↦ ?_)
              cases r with
              | error err => exact fun _ _ _ h ↦ by cases h
              | ok now' =>
                dsimp only
                split
                · exact hover (Watch.within_giveUp _ _) u'
                · refine safe_bind ((Watch.within_writeJournal _).safe fun r u' _ ↦ ?_)
                  cases r with
                  | error err => exact fun _ _ _ h ↦ by cases h
                  | ok _ => exact hover (Watch.within_writeTerminalResult _ _ _ _) u'

/-- Filing the checkpoint of a failed stage that is to be undone. -/
theorem Watch.safe_writeCheckpoint {c : OperationCheckpoint} (hc : c.awaitsCleanup = true)
    (g : Watch) :
    (writeJournal (writeCheckpoint input.operationID c)).Safe (Watch.view e input) Watch.Others
      Watch.OwnedOrCleanup (fun r t ↦ r = .ok () → t.failed = true) g := by
  refine safe_atomic fun t _ ↦ ⟨?_, fun u hu hok ↦ hu.2.trans ?_⟩
  · exact (Watch.within_writeJournal (writeCheckpoint input.operationID c) t t (refl_of _ t)).1
  rcases wrote_writeCheckpoint t.now.journal input.operationID c with ⟨err, herr⟩ | ⟨-, hdir, -⟩
  · have hfail : (writeCheckpoint input.operationID c t.now.journal).1 = .ok () := hok
    rw [herr] at hfail
    cases hfail
  · show (t.failed || ((writeCheckpoint input.operationID c t.now.journal).2.dir
      input.operationID).checkpoint.any (·.awaitsCleanup)) = true
    rw [hdir, Option.any_some, hc, Bool.or_true]

theorem OperationCheckpoint.awaitsCleanup_of_decided {c : OperationCheckpoint}
    {output : StageOutput} {decision : RecoveryDecision}
    (h : decideRecovery c (observedFrom c output) = .ok decision) (hc : c.stageCompletedAt = none)
    (hrestore : decision.action = .restoreCurrent ∨ decision.action = .restoreBackup) :
    OperationCheckpoint.awaitsCleanup { c with nextSafeAction := some decision.action } = true := by
  rcases Bool.eq_false_or_eq_true c.releaseCommitted with hcommitted | hcommitted
  · rcases decideRecovery_of_committed hcommitted h with haction | haction <;>
      rw [haction] at hrestore <;> simp at hrestore
  · rw [decideRecovery_of_uncommitted hcommitted, Except.ok.injEq] at h
    have hdecided : decideRecovery { c with nextSafeAction := some decision.action }
        (observedFrom { c with nextSafeAction := some decision.action } {}) = .ok decision := by
      rw [← h]
      exact decideRecovery_of_uncommitted hcommitted {}
    rw [awaitsCleanup, hdecided]
    rcases hrestore with hrestore | hrestore <;> simp [hc, hrestore]

theorem Watch.within_handleStageFailure (request : OperationRequestFile) (c : OperationCheckpoint)
    (stage : OperationStage) (output : StageOutput) (err : OpsError) (n : ℕ) :
    (Engine.handleStageFailure input request c stage output err n).Within (Watch.view e input)
      Watch.Others Watch.OwnedOrCleanup (fun _ _ ↦ True) := by
  refine fun g ↦ safe_bind (Watch.within_clock.safe fun r t _ ↦ ?_)
  cases r with
  | error err => exact fun _ _ ↦ trivial
  | ok now =>
    have hfailed := stageCompletedAt_failedCheckpoint c stage output now n err.message
    dsimp only
    generalize Engine.failedCheckpoint c stage output err.message n now = failed at *
    refine safe_bind (safe_ofExcept fun t _ ↦ ?_)
    cases hdecision : decideRecovery failed (observedFrom failed output) with
    | error err => exact fun _ _ ↦ trivial
    | ok decision =>
      -- whatever comes of it, it is over
      have hover : ∀ {p : OpsProc Unit}, p.Within (Watch.view e input) Watch.Others
          Watch.OwnedOrCleanup Watch.Later → ∀ t, p.Safe (Watch.view e input) Watch.Others
            Watch.OwnedOrCleanup (fun _ _ ↦ True) t := fun hp t ↦ hp.safe fun _ _ _ ↦ trivial
      have hfile : ∀ t, (writeJournal (writeCheckpoint input.operationID
          { failed with nextSafeAction := some decision.action })).Safe (Watch.view e input)
          Watch.Others Watch.OwnedOrCleanup (fun r t ↦ r = .ok () → decision.action = .restoreCurrent ∨
            decision.action = .restoreBackup → t.failed = true) t := fun t ↦ by
        by_cases hrestore : decision.action = .restoreCurrent ∨ decision.action = .restoreBackup
        · have hc := OperationCheckpoint.awaitsCleanup_of_decided hdecision hfailed hrestore
          exact (Watch.safe_writeCheckpoint hc t).imp fun _ _ h hok _ ↦ h hok
        · exact (Watch.within_writeJournal _).safe fun _ _ _ _ h ↦ absurd h hrestore
      refine safe_bind ((hfile t).imp fun r t ht ↦ ?_)
      cases r with
      | error err => exact fun _ _ ↦ trivial
      | ok _ =>
        dsimp only
        split
        · exact hover (Watch.within_writeTerminalResult _ _ _ _) t
        · exact hover (Watch.within_writeTerminalResult _ _ _ _) t
        · exact hover (Watch.within_writeTerminalResult _ _ _ _) t
        · exact fun _ _ ↦ trivial
        · rename_i recovery _ hnone hoperator hhandoff
          have hrestore : decision.action = .restoreCurrent ∨ decision.action = .restoreBackup := by
            rcases decideRecovery_stage hdecision with (h | h | h) | h | h
            · exact absurd h hnone
            · exact absurd h hoperator
            · exact absurd h hhandoff
            · exact .inr h.1
            · exact .inl h.1
          refine safe_bind ((Watch.safe_executeStage (.inr ⟨rfl, ht rfl hrestore⟩)).imp
            fun r t _ ↦ ?_)
          cases r with
          | error err => exact fun _ _ ↦ trivial
          | ok outcome =>
            refine safe_bind (Watch.within_clock.safe fun r t _ ↦ ?_)
            cases r with
            | error err => exact fun _ _ ↦ trivial
            | ok now' =>
              dsimp only
              split
              · exact hover (Watch.within_giveUp _ _) t
              · exact hover ((Watch.within_writeJournal _).bind Watch.tolerates fun _ ↦
                  Watch.within_writeTerminalResult _ _ _ _) t

theorem Watch.within_runPersistedRecovery (request : OperationRequestFile)
    (c : OperationCheckpoint) (n : ℕ) :
    (e.runPersistedRecovery input request c n).Within (Watch.view e input) Watch.Others
      Watch.OwnedOrCleanup (fun _ _ ↦ True) := by
  refine fun g ↦ safe_bind ((Watch.safe_validateOwnership g).imp fun r t ht ↦ ?_)
  cases r with
  | error err => exact fun _ _ ↦ trivial
  | ok _ =>
    refine safe_bind ((within_ofExcept Watch.tolerates _).safe fun r t' hl ↦ ?_)
    cases r with
    | error err => exact fun _ _ ↦ trivial
    | ok execution =>
      refine safe_bind ((Watch.safe_executeStage (.inl (hl.1 (ht rfl)))).imp fun r t _ ↦ ?_)
      cases r with
      | error err => exact fun _ _ ↦ trivial
      | ok outcome =>
        refine safe_bind (Watch.within_clock.safe fun r t _ ↦ ?_)
        cases r with
        | error err => exact fun _ _ ↦ trivial
        | ok now =>
          dsimp only
          split
          · exact (Watch.within_giveUp _ _).safe fun _ _ _ ↦ trivial
          · exact ((Watch.within_writeJournal _).bind Watch.tolerates fun _ ↦
              Watch.within_writeTerminalResult _ _ _ _).safe fun _ _ _ ↦ trivial

theorem Watch.runParts :
    RunParts e input (Watch.view e input) Watch.Others Watch.OwnedOrCleanup (·.checked = true) where
  tolerates := ⟨fun _ _ _ ↦ trivial, fun g ↦ ⟨(Watch.tolerates.look g).1, trivial⟩,
    fun _ _ _ _ _ ↦ trivial⟩
  checkpoint _ := fun _ ↦ (Watch.within_writeJournal _).safe fun _ _ _ ↦ trivial
  result _ _ _ _ _ := fun _ ↦ (Watch.within_writeTerminalResult _ _ _ _).safe fun _ _ _ ↦ trivial
  ownership := Watch.safe_validateOwnership
  cancellation _ _ _ _ := Watch.safe_handleCancellation
  stage _ _ _ _ h := Watch.safe_executeStage (.inl h)
  failure := Watch.within_handleStageFailure
  recovery := Watch.within_runPersistedRecovery

end Owned

/-- **Ownership before every stage** but the one that is to undo a failed stage: in every run,
whatever the others do and the stages report, a stage is begun by a runner that has found itself the
owner since the one before, or it undoes a failed stage whose checkpoint, on file, `decideRecovery`
answers with a restoration. -/
theorem stages_owned_or_cleanup (e : Engine) (input : RunInput) (w : World) :
    (e.run input).Safe (Watch.view e input) Watch.Others Watch.OwnedOrCleanup (fun _ _ ↦ True)
      ⟨w, false, false⟩ :=
  Watch.runParts.run _

/-! ## A cleanup by a runner that has lost its lease -/

/-- The small operation, its runner launched and in possession of the lease. -/
def mannedWorld : World :=
  ((runnerMove sampleSecret "op-1" (.launch sampleLaunch) sampleWorld).bind
    (runnerMove sampleSecret "op-1" (.lease sampleLease))).getD sampleWorld

/-- The services are stopped, the audit fails, and the restoration succeeds. -/
def auditFails : List Answer :=
  [.stage ⟨{ serviceState := some .currentOnline }, none⟩,
    .stage ⟨{ serviceState := some .maintenance, writesQuiesced := true }, none⟩,
    .stage ⟨{}, some (errOther "audit failed")⟩,
    .stage ⟨{ serviceState := some .currentRestored }, none⟩]

/-- The lease expires while the audit is under way, thirty steps into the run. -/
def expiredDuringAudit : List (Watch → Watch) :=
  List.replicate 30 id ++ [fun g ↦ { g with now := { g.now with now := 1000 } }]

/-- A restoration that is begun without a check. -/
def cleansUpUnowned (x : Watch × Watch) : Bool :=
  x.2.now.executed == x.1.now.executed ++ [⟨"op-1", 1, .cleanup, .restoringCurrent⟩] &&
    !x.1.checked

/-- The runner begins to restore the current release though its lease has expired. -/
theorem exists_cleanup_unowned :
    ¬ ∀ (e : Engine) (input : RunInput) (w : World),
      (e.run input).Safe (Watch.view e input) Watch.Others Watch.Owned (fun _ _ ↦ True)
        ⟨w, false, false⟩ := by
  intro howned
  have hsafe := howned ⟨id⟩ (sampleLaunch.runInput sampleSecret) mannedWorld
  have hmoves : ∀ move ∈ expiredDuringAudit, ∀ g : Watch, Watch.Others g (move g) := by
    intro move hmove g
    rcases List.mem_append.mp hmove with hid | hexpire
    · rw [(List.mem_replicate.mp hid).2]
      exact ⟨rfl, rfl⟩
    · rw [List.mem_singleton.mp hexpire]
      exact ⟨rfl, rfl⟩
  have hany : (((⟨id⟩ : Engine).run (sampleLaunch.runInput sampleSecret)).follow
      (Watch.view ⟨id⟩ (sampleLaunch.runInput sampleSecret)) expiredDuringAudit auditFails
      ⟨mannedWorld, false, false⟩).any cleansUpUnowned = true := by decide
  obtain ⟨x, hx, hbegins⟩ := List.any_eq_true.mp hany
  rw [cleansUpUnowned, Bool.and_eq_true, beq_iff_eq, Bool.not_eq_true'] at hbegins
  have hchecked := hsafe.follow hmoves auditFails hx _ hbegins.1
  rw [hbegins.2] at hchecked
  cases hchecked

end HMaigc.Ops
