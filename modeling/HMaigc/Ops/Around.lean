import HMaigc.Ops.Files

/-!
# What the surroundings may do to a runner

Every move of the surroundings leaves the events and the request of the operation alone, replaces
the launch command only when there is a result, and touches the checkpoint only to record a stage of
unknown outcome.  `StepAround` says so once; `Filed` survives it.
-/

set_option autoImplicit false

namespace HMaigc.Ops

open Go Concurrent

/-- What a step of the surroundings may change of an operation. -/
structure StepAround (secret operationID : String) (w w' : World) : Prop where
  executed : w'.executed = w.executed
  now : w.now ≤ w'.now
  request : (w'.dir operationID).request = (w.dir operationID).request
  events : (w'.dir operationID).events = (w.dir operationID).events
  launch : (w'.dir operationID).launch = (w.dir operationID).launch ∨
    ∃ command, (w'.dir operationID).launch = some ⟨secret, command⟩ ∧
      command.operationID = operationID ∧ validateLaunchCommandFields command = .ok () ∧
      minimumCommandSecret ≤ secret.utf8ByteSize ∧
      ∀ l, (w.dir operationID).launch = some l →
        l.payload.generation < command.generation ∧ (w'.dir operationID).result ≠ none
  cancel : (w'.dir operationID).cancel = (w.dir operationID).cancel ∨
    ∃ command, (w'.dir operationID).cancel = some ⟨secret, command⟩ ∧
      command.operationID = operationID ∧ validateCancelCommand command w'.now = .ok ()
  checkpoint : (w'.dir operationID).checkpoint = (w.dir operationID).checkpoint ∨
    ∃ c c', (w.dir operationID).checkpoint = some c ∧ (w'.dir operationID).checkpoint = some c' ∧
      c.Condemned (w.dir operationID).events c' ∧ c'.sequence ≠ 0
  result : (w'.dir operationID).result = (w.dir operationID).result ∨
    ∃ r, (w'.dir operationID).result = some r ∧ r.operationID = operationID ∧
      isRunnerResultStatus r.status = true

/-! ## The guards of the writes -/

theorem accepted_writeLaunchCommand {secret : String} {now : Time} {command : RunnerLaunchCommand}
    {j : Journal} (h : (writeLaunchCommand secret now command j).1 = .ok ()) :
    validateLaunchCommandFields command = .ok () ∧ minimumCommandSecret ≤ secret.utf8ByteSize ∧
      ∀ l, (j.dir command.operationID).launch = some l →
        l = ⟨secret, command⟩ ∨ l.payload.generation < command.generation := by
  rw [writeLaunchCommand] at h
  split at h
  · cases h
  · rename_i hsecret
    split at h
    · cases h
    · cases h
    · rename_i hfields hfresh
      refine ⟨hfields, by omega, fun l hl ↦ ?_⟩
      split at h
      · rename_i existing hread
        have hlaunch := (readLaunchCommand_eq_ok hread).1
        rw [hl, Option.some.injEq] at hlaunch
        rw [hlaunch]
        split at h
        · rename_i heq
          exact .inl (by rw [heq])
        · split at h
          · cases h
          · rename_i hgen
            exact .inr (Nat.lt_of_not_le hgen)
      · rename_i err hread
        split at h
        · rename_i hkind
          rw [launch_of_notExist hread hkind] at hl
          cases hl
        · cases h

theorem accepted_writeCancelCommand {secret : String} {now : Time}
    {command : CancelOperationCommand} {j : Journal}
    (h : (writeCancelCommand secret now command j).1 = .ok ()) :
    validateCancelCommand command now = .ok () := by
  rw [writeCancelCommand] at h
  split at h
  · cases h
  · split at h
    · cases h
    · assumption

theorem accepted_writeResult {operationID : String} {result : OperationResult} {j : Journal}
    (h : (writeResult operationID result j).1 = .ok ()) :
    result.operationID = operationID ∧ isRunnerResultStatus result.status = true := by
  rw [writeResult] at h
  split at h
  · cases h
  · rename_i howner
    split at h
    · cases h
    · rename_i hstatus
      exact ⟨not_not.mp howner, by simpa using hstatus⟩

theorem ok_of_accept {w w' : World} {written : Written} (h : w.accept written = some w') :
    written.1 = .ok () := by
  obtain ⟨r, j⟩ := written
  cases r with
  | error err => cases h
  | ok u => rfl

/-! ## Every move is such a step -/

section Moves

variable {secret operationID : String} {w w' : World}

/-- A move that changes nothing of what matters here. -/
theorem stepAround_of_dir (lease : Option RunnerLease) (heartbeat : Option RunnerHeartbeat)
    (hw : w' = { w with journal := w'.journal })
    (hdir : w'.dir operationID = { w.dir operationID with lease, heartbeat }) :
    StepAround secret operationID w w' := by
  have hnow : w'.now = w.now := by rw [hw]
  have hexecuted : w'.executed = w.executed := by rw [hw]
  exact ⟨hexecuted, hnow.ge, by rw [hdir], by rw [hdir], .inl (by rw [hdir]), .inl (by rw [hdir]),
    .inl (by rw [hdir]), .inl (by rw [hdir])⟩

theorem stepAround_launch {command : RunnerLaunchCommand} (howner : command.operationID = operationID)
    (hready : (w.dir operationID).launch = none ∨ (w.dir operationID).awaitsRecovery = true)
    (h : w.accept (writeLaunchCommand secret w.now command w.journal) = some w') :
    StepAround secret operationID w w' := by
  obtain ⟨hfields, hsecret, hnext⟩ := accepted_writeLaunchCommand (ok_of_accept h)
  obtain ⟨hdir, hw⟩ := wrote_of_accept h (wrote_writeLaunchCommand w.journal secret w.now command)
  rw [howner] at hdir hnext
  replace hdir : w'.dir operationID = { w.dir operationID with launch := some ⟨secret, command⟩ } :=
    hdir
  have hnow : w'.now = w.now := by rw [hw]
  have hexecuted : w'.executed = w.executed := by rw [hw]
  refine ⟨hexecuted, hnow.ge, by rw [hdir], by rw [hdir], ?_, .inl (by rw [hdir]),
    .inl (by rw [hdir]), .inl (by rw [hdir])⟩
  by_cases hsame : (w.dir operationID).launch = some ⟨secret, command⟩
  · exact .inl (by rw [hdir, hsame])
  · refine .inr ⟨command, by rw [hdir], howner, hfields, hsecret, fun l hl ↦ ?_⟩
    have hlt : l.payload.generation < command.generation := by
      rcases hnext l hl with rfl | hlt
      · exact absurd hl hsame
      · exact hlt
    refine ⟨hlt, ?_⟩
    rw [hdir]
    rcases hready with hnone | hawaits
    · rw [hnone] at hl
      cases hl
    · intro hnone
      rw [OperationDir.awaitsRecovery, hnone] at hawaits
      cases hawaits

theorem stepAround_cancel {command : CancelOperationCommand}
    (howner : command.operationID = operationID)
    (h : w.accept (writeCancelCommand secret w.now command w.journal) = some w') :
    StepAround secret operationID w w' := by
  have hvalid := accepted_writeCancelCommand (ok_of_accept h)
  obtain ⟨hdir, hw⟩ := wrote_of_accept h (wrote_writeCancelCommand w.journal secret w.now command)
  rw [howner] at hdir
  replace hdir : w'.dir operationID = { w.dir operationID with cancel := some ⟨secret, command⟩ } :=
    hdir
  have hnow : w'.now = w.now := by rw [hw]
  have hexecuted : w'.executed = w.executed := by rw [hw]
  exact ⟨hexecuted, hnow.ge, by rw [hdir], by rw [hdir], .inl (by rw [hdir]),
    .inr ⟨command, by rw [hdir], howner, by rw [hnow, hvalid]⟩, .inl (by rw [hdir]),
    .inl (by rw [hdir])⟩

theorem stepAround_result {result : OperationResult}
    (h : w.accept (writeResult operationID result w.journal) = some w') :
    StepAround secret operationID w w' := by
  have hvalid := accepted_writeResult (ok_of_accept h)
  obtain ⟨hdir, hw⟩ := wrote_of_accept h (wrote_writeResult w.journal operationID result)
  replace hdir : w'.dir operationID = { w.dir operationID with result := some result } := hdir
  have hnow : w'.now = w.now := by rw [hw]
  have hexecuted : w'.executed = w.executed := by rw [hw]
  exact ⟨hexecuted, hnow.ge, by rw [hdir], by rw [hdir], .inl (by rw [hdir]), .inl (by rw [hdir]),
    .inl (by rw [hdir]), .inr ⟨result, by rw [hdir], hvalid⟩⟩

/-- A checkpoint the controller files for a runner that is gone. -/
theorem condemnedCheckpoint_eq_some {message : String} {c' : OperationCheckpoint}
    (h : condemnedCheckpoint operationID message w = .ok (some c')) :
    ∃ c, (w.dir operationID).checkpoint = some c ∧ c.Condemned (w.dir operationID).events c' ∧
      c'.sequence ≠ 0 := by
  rw [condemnedCheckpoint] at h
  cases hread : w.journal.readCheckpoint operationID with
  | error err => rw [hread] at h; cases h
  | ok c =>
    rw [hread] at h
    cases hevents : w.journal.readEvents operationID c.generation 0 with
    | error err => simp [bind, Except.bind, hevents] at h
    | ok events =>
      simp only [bind, Except.bind, hevents, Journal.readEvents_getLast? hevents] at h
      cases hlatest : (w.journal.dir operationID).latestEvent c.generation with
      | none => simp [hlatest, pure, Except.pure] at h
      | some event =>
        simp only [hlatest] at h
        cases happlied : applyUnknownStageIntent c event w.now with
        | error err => simp [happlied] at h
        | ok updated =>
          obtain ⟨updated, applied⟩ := updated
          cases applied with
          | false => simp [happlied, pure, Except.pure] at h
          | true =>
            simp only [happlied, pure, Except.pure, Except.ok.injEq, Option.some.injEq] at h
            obtain ⟨hmem, -, hpos, -⟩ := OperationDir.latestEvent_eq_some hlatest
            have hcondemned := condemned_of_applied hmem happlied
            have hsequence := (applyUnknownStageIntent_true happlied).2.2.2.2.2
            subst h
            refine ⟨c, file_of_readFact hread, ⟨hcondemned.contract, hcondemned.fence,
              hcondemned.stage, hcondemned.completed, hcondemned.event⟩, ?_⟩
            show updated.sequence ≠ 0
            omega

theorem stepAround_runnerMove {m : RunnerMove} (h : runnerMove secret operationID m w = some w') :
    StepAround secret operationID w w' := by
  cases m with
  | launch command =>
    rw [runnerMove, Option.ite_none_right_eq_some] at h
    exact stepAround_launch h.1.1 h.1.2 h.2
  | cancel command =>
    rw [runnerMove, Option.ite_none_right_eq_some] at h
    exact stepAround_cancel h.1 h.2
  | lease lease =>
    obtain ⟨hdir, hw⟩ := wrote_of_accept h (wrote_writeLease w.journal operationID lease)
    exact stepAround_of_dir _ (w.dir operationID).heartbeat hw hdir
  | heartbeat heartbeat =>
    obtain ⟨hdir, hw⟩ := wrote_of_accept h (wrote_writeHeartbeat w.journal operationID heartbeat)
    exact stepAround_of_dir (w.dir operationID).lease _ hw hdir
  | condemn message =>
    rw [runnerMove] at h
    split at h
    · rename_i c' hcondemned
      obtain ⟨c, hfile, hc', hsequence⟩ := condemnedCheckpoint_eq_some hcondemned
      obtain ⟨hdir, hw⟩ := wrote_of_accept h (wrote_writeCheckpoint w.journal operationID c')
      replace hdir : w'.dir operationID = { w.dir operationID with checkpoint := some c' } := hdir
      have hnow : w'.now = w.now := by rw [hw]
      have hexecuted : w'.executed = w.executed := by rw [hw]
      exact ⟨hexecuted, hnow.ge, by rw [hdir], by rw [hdir], .inl (by rw [hdir]),
        .inl (by rw [hdir]), .inr ⟨c, c', hfile, by rw [hdir], hc', hsequence⟩,
        .inl (by rw [hdir])⟩
    · cases h
  | demandRecovery result =>
    rw [runnerMove, Option.ite_none_right_eq_some] at h
    exact stepAround_result h.2
  | tick now =>
    rw [runnerMove, Option.ite_none_right_eq_some, Option.some.injEq] at h
    obtain ⟨hle, rfl⟩ := h
    exact ⟨rfl, hle, rfl, rfl, .inl rfl, .inl rfl, .inl rfl, .inl rfl⟩

end Moves

/-! ## What survives it -/

section Around

variable {e : Engine} {secret operationID : String} {request : OperationRequestFile} {w w' : World}

/-- A later launch command is of a later generation. -/
theorem StepAround.launched (h : StepAround secret operationID w w')
    {l : Signed RunnerLaunchCommand} (hl : (w.dir operationID).launch = some l) :
    ∃ l', (w'.dir operationID).launch = some l' ∧
      (l' = l ∨ l.payload.generation < l'.payload.generation ∧
        (w'.dir operationID).result ≠ none) := by
  rcases h.launch with hsame | ⟨command, hlaunch, -, -, -, hnext⟩
  · exact ⟨l, by rw [hsame, hl], .inl rfl⟩
  · exact ⟨_, hlaunch, .inr (hnext l hl)⟩

theorem StepAround.result_of_none (h : StepAround secret operationID w w')
    (hnone : (w'.dir operationID).result = none) : (w.dir operationID).result = none := by
  rcases h.result with hsame | ⟨r, hr, -⟩
  · rw [← hsame, hnone]
  · rw [hnone] at hr
    cases hr

theorem validateCancelCommand_mono {command : CancelOperationCommand} {now now' : Time}
    (hle : now ≤ now') (h : validateCancelCommand command now = .ok ()) :
    validateCancelCommand command now' = .ok () := by
  rw [validateCancelCommand] at h ⊢
  split at h
  · cases h
  · rename_i hid
    split at h
    · cases h
    · rename_i hfields
      split at h
      · cases h
      · rename_i htime
        rw [if_neg hid, if_neg hfields, if_neg]
        rintro (hzero | hlt)
        · exact htime (.inl hzero)
        · exact htime (.inr ((Nat.add_le_add_right hle _).trans_lt hlt))

/-- The files fit together as before. -/
theorem Filed.around (hw : Filed e secret operationID request w)
    (h : StepAround secret operationID w w') : Filed e secret operationID request w' where
  stated := by rw [h.request, hw.stated]
  launch l hl := by
    rcases h.launch with hsame | ⟨command, hlaunch, howner, hfields, hsecret, -⟩
    · exact hw.launch l (by rw [← hsame, hl])
    · rw [hlaunch, Option.some.injEq] at hl
      subst hl
      exact ⟨rfl, howner, hfields, hsecret⟩
  cancel c hc := by
    rcases h.cancel with hsame | ⟨command, hcancel, howner, hvalid⟩
    · obtain ⟨hsecret, howner, hvalid⟩ := hw.cancel c (by rw [← hsame, hc])
      exact ⟨hsecret, howner, validateCancelCommand_mono h.now hvalid⟩
    · rw [hcancel, Option.some.injEq] at hc
      subst hc
      exact ⟨rfl, howner, hvalid⟩
  checkpoint c hc := by
    -- whether it is the old checkpoint or a condemned one, it is the same one's
    have hold : ∃ c₀, (w.dir operationID).checkpoint = some c₀ ∧ c.contract = c₀.contract ∧
        c.fence = c₀.fence := by
      rcases h.checkpoint with hsame | ⟨c₀, c', hc₀, hc', hcondemned, -⟩
      · exact ⟨c, by rw [← hsame, hc], rfl, rfl⟩
      · rw [hc', Option.some.injEq] at hc
        subst hc
        exact ⟨c₀, hc₀, hcondemned.contract, hcondemned.fence⟩
    obtain ⟨c₀, hc₀, hcontract, hfence⟩ := hold
    have hgen : c.generation = c₀.generation := congrArg (·.1) hfence
    obtain ⟨hcontract₀, l, hl, hwhose⟩ := hw.checkpoint c₀ hc₀
    obtain ⟨l', hl', hnext⟩ := h.launched hl
    refine ⟨hcontract.trans hcontract₀, l', hl', ?_⟩
    rw [hfence, hgen]
    rcases hnext with rfl | ⟨hlt, hresult⟩
    · exact hwhose.imp_right fun hold ↦ ⟨hold.1, fun hnone ↦ hold.2 (h.result_of_none hnone)⟩
    · refine .inr ⟨?_, hresult⟩
      rcases hwhose with hmine | hold
      · exact (OperationCheckpoint.generation_of_fence hmine).trans_lt hlt
      · exact hold.1.trans hlt
  executable c hc := by
    rcases h.checkpoint with hsame | ⟨c₀, c', hc₀, -⟩
    · exact hw.executable c (by rw [← hsame, hc])
    · exact hw.executable c₀ hc₀
  sequence c hc := by
    rcases h.checkpoint with hsame | ⟨c₀, c', -, hc', hcondemned, -⟩
    · rw [h.events]
      exact hw.sequence c (by rw [← hsame, hc])
    · rw [hc', Option.some.injEq] at hc
      subst hc
      rw [h.events]
      exact .inr hcondemned.event
  events event hevent := by
    rw [h.events] at hevent
    obtain ⟨c, hc, hle⟩ := hw.events event hevent
    rcases h.checkpoint with hsame | ⟨c₀, c', hc₀, hc', hcondemned, -⟩
    · exact ⟨c, by rw [hsame, hc], hle⟩
    · rw [hc₀, Option.some.injEq] at hc
      subst hc
      have hgen : c'.generation = c₀.generation := congrArg (·.1) hcondemned.fence
      exact ⟨c', hc', hle.trans hgen.ge⟩
  result r hr := by
    rcases h.result with hsame | ⟨r', hr', hvalid⟩
    · exact hw.result r (by rw [← hsame, hr])
    · rw [hr', Option.some.injEq] at hr
      exact hr ▸ hvalid
  begun run hrun := by
    rw [h.executed] at hrun
    rw [h.events]
    exact hw.begun run hrun

end Around

/-! ## What the runner's own steps keep -/

section Own

variable {e : Engine} {secret operationID : String} {request : OperationRequestFile} {w w' : World}

theorem Filed.append (hw : Filed e secret operationID request w) (hnow : w'.now = w.now)
    (hexecuted : w'.executed = w.executed) {event : OperationEvent}
    (hdir : w'.dir operationID =
      { w.dir operationID with events := (w.dir operationID).events ++ [event] })
    {c : OperationCheckpoint} (hc : (w.dir operationID).checkpoint = some c)
    (hgen : event.generation ≤ c.generation) : Filed e secret operationID request w' where
  stated := by rw [hdir]; exact hw.stated
  launch := by rw [hdir]; exact hw.launch
  cancel := by rw [hnow, hdir]; exact hw.cancel
  checkpoint := by rw [hdir]; exact hw.checkpoint
  executable := by rw [hdir]; exact hw.executable
  sequence := by
    rw [hdir]
    intro c hc
    refine (hw.sequence c hc).imp_right fun ⟨event', hevent', hsame⟩ ↦ ?_
    exact ⟨event', List.mem_append_left _ hevent', hsame⟩
  events := by
    rw [hdir]
    intro event' hevent'
    rcases List.mem_append.mp hevent' with hold | hnew
    · exact hw.events event' hold
    · rw [List.mem_singleton.mp hnew]
      exact ⟨c, hc, hgen⟩
  result := by rw [hdir]; exact hw.result
  begun := by
    rw [hexecuted, hdir]
    intro run hrun
    obtain ⟨event', hevent', hsame⟩ := hw.begun run hrun
    exact ⟨event', List.mem_append_left _ hevent', hsame⟩

theorem Filed.file (hw : Filed e secret operationID request w) (hnow : w'.now = w.now)
    (hexecuted : w'.executed = w.executed) {c : OperationCheckpoint}
    (hdir : w'.dir operationID = { w.dir operationID with checkpoint := some c })
    (hcontract : c.contract = request.contract) (hexecutable : Executable operationID request)
    (hwhose : ∃ l, (w.dir operationID).launch = some l ∧
      (c.fence = e.fence (l.payload.runInput secret) ∨
        c.generation < l.payload.generation ∧ (w.dir operationID).result ≠ none))
    (hseq : c.sequence = 0 ∨ ∃ event ∈ (w.dir operationID).events,
      event.generation = c.generation ∧ event.sequence = c.sequence)
    (hevents : ∀ event ∈ (w.dir operationID).events, event.generation ≤ c.generation) :
    Filed e secret operationID request w' where
  stated := by rw [hdir]; exact hw.stated
  launch := by rw [hdir]; exact hw.launch
  cancel := by rw [hnow, hdir]; exact hw.cancel
  checkpoint c' hc' := by
    rw [hdir, Option.some.injEq] at hc'
    rw [hdir, ← hc']
    exact ⟨hcontract, hwhose⟩
  executable _ _ := hexecutable
  sequence c' hc' := by
    rw [hdir, Option.some.injEq] at hc'
    rw [hdir, ← hc']
    exact hseq
  events := by
    rw [hdir]
    exact fun event hevent ↦ ⟨c, rfl, hevents event hevent⟩
  result := by rw [hdir]; exact hw.result
  begun := by rw [hexecuted, hdir]; exact hw.begun

theorem Filed.finish (hw : Filed e secret operationID request w) (hnow : w'.now = w.now)
    (hexecuted : w'.executed = w.executed) {r : OperationResult}
    (hdir : w'.dir operationID = { w.dir operationID with result := some r })
    (hr : r.operationID = operationID ∧ isRunnerResultStatus r.status = true) :
    Filed e secret operationID request w' where
  stated := by rw [hdir]; exact hw.stated
  launch := by rw [hdir]; exact hw.launch
  cancel := by rw [hnow, hdir]; exact hw.cancel
  checkpoint := by
    rw [hdir]
    intro c hc
    obtain ⟨hcontract, l, hl, hwhose⟩ := hw.checkpoint c hc
    exact ⟨hcontract, l, hl, hwhose.imp_right fun hold ↦ ⟨hold.1, Option.some_ne_none r⟩⟩
  executable := by rw [hdir]; exact hw.executable
  sequence := by rw [hdir]; exact hw.sequence
  events := by rw [hdir]; exact hw.events
  result r' hr' := by
    rw [hdir, Option.some.injEq] at hr'
    exact hr' ▸ hr
  begun := by rw [hexecuted, hdir]; exact hw.begun

theorem Filed.begin (hw : Filed e secret operationID request w) {run : StageRun}
    (hrun : ∃ event ∈ (w.dir operationID).events, event.stage = run.stage) :
    Filed e secret operationID request { w with executed := w.executed ++ [run] } :=
  { hw with
    begun := fun earlier hearlier ↦ by
      rcases List.mem_append.mp hearlier with hold | hnew
      · exact hw.begun earlier hold
      · rw [List.mem_singleton.mp hnew]
        exact hrun }

end Own

end HMaigc.Ops
