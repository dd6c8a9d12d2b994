import HMaigc.Agent.Submissions

/-!
# Many clients answering one run

`SubmitAgentClarificationResponse` reads the checkpoint, applies the submission to it, and writes
the result if the checkpoint is still the one it read; when it is not, the submission is applied
once more, and only a replay is answered then.  Any number of clients do so, interleaved with each
other and with whatever else moves the run.

* `Reach` — the states that these steps lead to.
* `answers_kept` — **what the run says of the submissions it accepted**, while no final answer is
  refused with a list of missing skills too long for a checkpoint.
* `exists_completed_unreplayed` — after such a refusal no submission is answered any more, not even the
  replay of one that was accepted.
-/

set_option autoImplicit false

namespace HMaigc.AgentRuntime

open Go

/-! ## The service -/

/-- How far a client's request has come. -/
inductive SubmitPhase
  | received
  /-- The transition from the checkpoint that was read, still to be written. -/
  | prepared (loaded : RuntimeState) (transition : RuntimeTransition)
  /-- The checkpoint was not the one read any more. -/
  | conflicted
  | rejected (error : String)
  | replayed
  | accepted

/-- `SubmitAgentClarificationResponse` up to the write. -/
def submitFirst (ctx : RuntimeContext) (stored : RuntimeState)
    (submission : ClarificationResponseSubmission) : SubmitPhase :=
  match applyClarificationResponse ctx stored submission with
  | .error e => .rejected e
  | .ok (_, true) => .replayed
  | .ok (transition, false) => .prepared stored transition

/-- `SubmitAgentClarificationResponse` after a conflict. -/
def submitAgain (ctx : RuntimeContext) (stored : RuntimeState)
    (submission : ClarificationResponseSubmission) : SubmitPhase :=
  match applyClarificationResponse ctx stored submission with
  | .error e => .rejected e
  | .ok (_, true) => .replayed
  | .ok (_, false) => .rejected errClarificationConflict

/-- The columns `CommitAgentRuntimeTransition` compares. -/
def SameStep (stored previous : RuntimeState) : Prop :=
  stored.stateVersion = previous.stateVersion ∧ stored.stepNumber = previous.stepNumber ∧
    stored.maxSteps = previous.maxSteps ∧ stored.status = previous.status

/-- What `validateAgentRuntimeTransition` checks of the checkpoint to be written. -/
structure ValidTransition (previous next : RuntimeState) : Prop where
  checked : 1 ≤ previous.stateVersion ∧ previous.status.valid = true
  version : next.stateVersion = previous.stateVersion + 1
  step : next.stepNumber = previous.stepNumber ∨ next.stepNumber = previous.stepNumber + 1
  maxSteps : next.maxSteps = previous.maxSteps ∧ 1 ≤ next.maxSteps ∧ next.maxSteps ≤ 24
  userMessage : next.userMessage = previous.userMessage
  status : next.status.valid = true

/-- Calls of the other reducers, one on what the last one comes to. -/
inductive Works (ctx : RuntimeContext) (allowed : RuntimeState → ReducerCall → Prop) :
    RuntimeState → RuntimeState → Prop
  | start (state : RuntimeState) : Works ctx allowed state state
  | call {loaded state : RuntimeState} {transition : RuntimeTransition}
      (hworks : Works ctx allowed loaded state) (call : ReducerCall)
      (hother : call.answers = false) (hallowed : allowed state call)
      (hcall : call.apply ctx state = .ok transition) : Works ctx allowed loaded transition.state

/-- The run, the clients, the workers that move it on, and the submissions accepted so far. -/
structure SharedRun where
  stored : RuntimeState
  phases : ℕ → SubmitPhase
  /-- What a worker has read, and what it is about to write. -/
  works : ℕ → Option (RuntimeState × RuntimeState)
  accepted : List Acceptance

/-- The run before any client has sent its submission. -/
def SharedRun.start (init : RuntimeState) : SharedRun :=
  ⟨init, fun _ ↦ .received, fun _ ↦ none, []⟩

def SharedRun.moved (run : SharedRun) (client : ℕ) (phase : SubmitPhase) : SharedRun :=
  { run with phases := Function.update run.phases client phase }

def SharedRun.worked (run : SharedRun) (worker : ℕ)
    (work : Option (RuntimeState × RuntimeState)) : SharedRun :=
  { run with works := Function.update run.works worker work }

section

variable (ctx : RuntimeContext) (submissions : ℕ → ClarificationResponseSubmission)

/-- A step of the client `client`. -/
inductive SubmitStep (client : ℕ) (run : SharedRun) : SharedRun → Prop
  | first (hphase : run.phases client = .received) :
      SubmitStep client run (run.moved client (submitFirst ctx run.stored (submissions client)))
  | commit (loaded : RuntimeState) (transition : RuntimeTransition)
      (hphase : run.phases client = .prepared loaded transition)
      (hstep : SameStep run.stored loaded) (hvalid : ValidTransition loaded transition.state) :
      SubmitStep client run { run.moved client .accepted with
        stored := transition.state
        accepted := run.accepted ++ [⟨loaded, submissions client⟩] }
  | conflict (loaded : RuntimeState) (transition : RuntimeTransition)
      (hphase : run.phases client = .prepared loaded transition)
      (hstep : ¬SameStep run.stored loaded) :
      SubmitStep client run (run.moved client .conflicted)
  /-- The write fails for a reason of its own. -/
  | fail (loaded : RuntimeState) (transition : RuntimeTransition) (error : String)
      (hphase : run.phases client = .prepared loaded transition) :
      SubmitStep client run (run.moved client (.rejected error))
  | again (hphase : run.phases client = .conflicted) :
      SubmitStep client run (run.moved client (submitAgain ctx run.stored (submissions client)))

/-- A step of a worker. -/
inductive WorkStep (allowed : RuntimeState → ReducerCall → Prop) (run : SharedRun) :
    SharedRun → Prop
  | prepare (worker : ℕ) (next : RuntimeState) (hworks : Works ctx allowed run.stored next) :
      WorkStep allowed run (run.worked worker (some (run.stored, next)))
  | commit (worker : ℕ) (loaded next : RuntimeState)
      (hwork : run.works worker = some (loaded, next)) (hstep : SameStep run.stored loaded)
      (hvalid : ValidTransition loaded next) :
      WorkStep allowed run { run.worked worker none with stored := next }
  | drop (worker : ℕ) : WorkStep allowed run (run.worked worker none)

/-- The states that clients and workers lead to. -/
inductive Reach (allowed : RuntimeState → ReducerCall → Prop) (run : SharedRun) : SharedRun → Prop
  | start : Reach allowed run run
  | submit {reached next : SharedRun} (client : ℕ) (hreach : Reach allowed run reached)
      (hstep : SubmitStep ctx submissions client reached next) : Reach allowed run next
  | work {reached next : SharedRun} (hreach : Reach allowed run reached)
      (hstep : WorkStep ctx allowed reached next) : Reach allowed run next

end

/-! ## What holds of the run -/

/-- No final answer is refused with a list of missing skills too long for a checkpoint. -/
def Fitting (state : RuntimeState) (call : ReducerCall) : Prop :=
  ¬call.Overlong state

/-- The submission is answered as a replay, at once and after a conflict. -/
def Replayed (ctx : RuntimeContext) (stored : RuntimeState)
    (submission : ClarificationResponseSubmission) : Prop :=
  submitFirst ctx stored submission = .replayed ∧ submitAgain ctx stored submission = .replayed

/-- The submission names a question of a request of the run, and options of that question. -/
def Named (stored : RuntimeState) (submission : ClarificationResponseSubmission) : Prop :=
  ∃ record, stored.record submission.request = some record ∧
    ∃ question ∈ record.request.questions, question.id = submission.question ∧
      ∀ id ∈ submission.answer.selectedOptionIDs, trimSpace id ∈ question.options.map (·.id)

/-- The submission leaves every question of the pending request answered. -/
def AnswersAll (stored : RuntimeState) (submission : ClarificationResponseSubmission) : Prop :=
  ∃ pending answer, Answering stored submission pending answer ∧
    ∀ question ∈ pending.request.questions, question.id = submission.question ∨
      (clarificationAnswerByQuestionID pending.answers question.id).isSome = true

/-- **What the run says of the submissions it accepted.** -/
structure AnswersKept (ctx : RuntimeContext) (submissions : ℕ → ClarificationResponseSubmission)
    (run : SharedRun) : Prop where
  /-- Every question has the answer last accepted for it. -/
  last : ∀ requestID record, run.stored.record requestID = some record → ∀ questionID,
    clarificationAnswerByQuestionID record.answers questionID =
      lastAnswer run.accepted requestID questionID
  /-- A partial submission is a replay while its request is pending and its answer kept. -/
  keptAgain : ∀ acceptance ∈ run.accepted, acceptance.submission.complete = false →
    ∀ pending, run.stored.pendingClarification = some pending →
      pending.request.requestID = acceptance.submission.request →
      lastAnswer run.accepted acceptance.submission.request acceptance.submission.question =
        acceptance.answer → Replayed ctx run.stored acceptance.submission
  /-- A completing submission is a replay for ever. -/
  completedAgain : ∀ acceptance ∈ run.accepted, acceptance.submission.complete = true →
    Replayed ctx run.stored acceptance.submission
  /-- A submission that is not named by the run is refused. -/
  refused : ∀ submission, ¬Named run.stored submission →
    (∃ error, submitFirst ctx run.stored submission = .rejected error) ∧
      ∃ error, submitAgain ctx run.stored submission = .rejected error
  /-- No step of a client changes anything when its submission is of another version, or not named
  by the run. -/
  unchanged : ∀ client next, SubmitStep ctx submissions client run next →
    (submissions client).expectedStateVersion ≠ run.stored.stateVersion ∨
      ¬Named run.stored (submissions client) → next.stored = run.stored
  /-- What a client is about to make of the checkpoint resumes the run just if its submission is a
  complete one that leaves no question open. -/
  resumes : ∀ submission, (∃ transition, submitFirst ctx run.stored submission =
      .prepared run.stored transition ∧ transition.state.status = .running) ↔
    submission.complete = true ∧ submission.expectedStateVersion = run.stored.stateVersion ∧
      AnswersAll run.stored submission
  /-- A client's step that changes the run resumes it just if its submission is complete. -/
  resumed : ∀ client next, SubmitStep ctx submissions client run next →
    next.stored ≠ run.stored → run.stored.status = .waitingInput ∧
      (next.stored.status = .running ↔ (submissions client).complete = true) ∧
      ((submissions client).complete = true → AnswersAll run.stored (submissions client))
  /-- Nothing else resumes a run that waits for an answer. -/
  waits : ∀ next, WorkStep ctx Fitting run next → run.stored.status = .waitingInput →
    next.stored.status = .waitingInput ∨ runtimeStatusTerminal next.stored.status = true
  /-- Every completed request passes its check. -/
  valid : ∀ completed ∈ run.stored.clarificationHistory,
    validateCompletedClarification completed = .ok ()

/-! ## The invariant -/

/-- The checkpoint was read, and every one written since is of a later version. -/
structure SeenBefore (loaded stored : RuntimeState) : Prop where
  version : loaded.stateVersion ≤ stored.stateVersion
  same : loaded.stateVersion = stored.stateVersion → loaded = stored

/-- **The invariant of the steps.** -/
structure Consistent (ctx : RuntimeContext) (submissions : ℕ → ClarificationResponseSubmission)
    (run : SharedRun) : Prop where
  accepted : Accepted ctx run.stored
  recorded : Recorded run.accepted run.stored
  phases : ∀ client loaded transition, run.phases client = .prepared loaded transition →
    SeenBefore loaded run.stored ∧
      applyClarificationResponse ctx loaded (submissions client) = .ok (transition, false)
  works : ∀ worker loaded next, run.works worker = some (loaded, next) →
    SeenBefore loaded run.stored ∧ Works ctx Fitting loaded next

section

variable {ctx : RuntimeContext} {submissions : ℕ → ClarificationResponseSubmission}
  {loaded stored written state : RuntimeState} {run later : SharedRun} {accepted : List Acceptance}
  {submission : ClarificationResponseSubmission} {transition : RuntimeTransition} {client : ℕ}

theorem SeenBefore.refl (state : RuntimeState) : SeenBefore state state :=
  ⟨le_rfl, fun _ ↦ rfl⟩

theorem SeenBefore.next (h : SeenBefore loaded stored)
    (hversion : written.stateVersion = stored.stateVersion + 1) : SeenBefore loaded written := by
  obtain ⟨hle, -⟩ := h
  exact ⟨by omega, fun hsame ↦ by omega⟩

/-- The comparison of the write finds the checkpoint that was read. -/
theorem SeenBefore.eq (h : SeenBefore loaded stored) (hstep : SameStep stored loaded) :
    loaded = stored :=
  h.same hstep.1.symm

/-- What calls of the other reducers leave as it is. -/
structure WorkedOn (ctx : RuntimeContext) (loaded written : RuntimeState) : Prop where
  accepted : Accepted ctx written
  history : written.clarificationHistory = loaded.clarificationHistory
  recorded : ∀ {accepted : List Acceptance}, Recorded accepted loaded → Recorded accepted written
  waits : loaded.status = .waitingInput →
    written.status = .waitingInput ∨ runtimeStatusTerminal written.status = true

theorem LeavesAnswers.history (h : LeavesAnswers state written) :
    written.clarificationHistory = state.clarificationHistory := by
  cases h with
  | kept hhistory _ _ | idle hhistory _ _ | ended hhistory _ _ | asked _ hhistory _ _ _ _ =>
    exact hhistory

theorem LeavesAnswers.waits (h : LeavesAnswers state written) (hsound : Sound ctx state.trimmed)
    (hwaiting : state.status = .waitingInput) :
    written.status = .waitingInput ∨ runtimeStatusTerminal written.status = true := by
  have hpending : state.pendingClarification.isSome = true :=
    (hsound.clarification.waiting hwaiting).1
  cases h with
  | kept _ _ hstatus => exact .inl (hstatus.trans hwaiting)
  | ended _ _ hover => exact .inr hover
  | idle _ hbefore _ | asked _ _ hbefore _ _ _ =>
    rw [hbefore] at hpending
    cases hpending

theorem Works.workedOn (h : Works ctx Fitting loaded written) (haccepted : Accepted ctx loaded) :
    WorkedOn ctx loaded written := by
  induction h with
  | start => exact ⟨haccepted, rfl, id, .inl⟩
  | @call state transition hworks call hother hallowed hcall ih =>
    obtain ⟨current, hvalid, houtcome, hfits⟩ := apply_reduced hcall
    obtain ⟨rfl, hsound⟩ := trimmed_of_valid hvalid
    have hleaves := ReducerCall.leavesAnswers hother hcall
    have hover : runtimeStatusTerminal state.status = true →
        runtimeStatusTerminal transition.state.status = true := fun hover ↦ by
      rw [ReducerCall.stays hover hcall]
      exact hover
    refine ⟨houtcome.accepted hsound (hfits hallowed), hleaves.history.trans ih.history,
      fun hrecorded ↦ (ih.recorded hrecorded).other hleaves hover, fun hwaiting ↦ ?_⟩
    rcases ih.waits hwaiting with hstill | hdone
    · exact hleaves.waits hsound hstill
    · exact .inr (hover hdone)

theorem submitFirst_eq_prepared : submitFirst ctx stored submission = .prepared loaded transition ↔
    loaded = stored ∧ applyClarificationResponse ctx stored submission = .ok (transition, false) := by
  rw [submitFirst]
  split
  next hresult => simp [hresult]
  next hresult => simp [hresult]
  next result hresult =>
    rw [hresult]
    simp only [SubmitPhase.prepared.injEq, Except.ok.injEq, Prod.mk.injEq, and_true]
    exact and_congr_left fun _ ↦ eq_comm

theorem submitAgain_ne_prepared :
    submitAgain ctx stored submission ≠ .prepared loaded transition := by
  rw [submitAgain]
  split <;> simp

/-- A client's step that writes nothing. -/
theorem Consistent.moved (h : Consistent ctx submissions run) {phase : SubmitPhase}
    (hphase : ∀ loaded transition, phase = .prepared loaded transition →
      SeenBefore loaded run.stored ∧
        applyClarificationResponse ctx loaded (submissions client) = .ok (transition, false)) :
    Consistent ctx submissions (run.moved client phase) := by
  refine ⟨h.accepted, h.recorded, fun other loaded transition hprepared ↦ ?_, h.works⟩
  simp only [SharedRun.moved, Function.update_apply] at hprepared
  split at hprepared
  next hsame =>
    subst hsame
    exact hphase loaded transition hprepared
  next hne => exact h.phases other loaded transition hprepared

theorem Consistent.worked (h : Consistent ctx submissions run) {worker : ℕ}
    {work : Option (RuntimeState × RuntimeState)}
    (hwork : ∀ loaded written, work = some (loaded, written) →
      SeenBefore loaded run.stored ∧ Works ctx Fitting loaded written) :
    Consistent ctx submissions (run.worked worker work) := by
  refine ⟨h.accepted, h.recorded, h.phases, fun other loaded written hsome ↦ ?_⟩
  simp only [SharedRun.worked, Function.update_apply] at hsome
  split at hsome
  · exact hwork loaded written hsome
  · exact h.works other loaded written hsome

/-- A write of a checkpoint of the next version. -/
theorem Consistent.stores (h : Consistent ctx submissions run) (haccepted : Accepted ctx written)
    (hrecorded : Recorded accepted written)
    (hversion : written.stateVersion = run.stored.stateVersion + 1) :
    Consistent ctx submissions { run with stored := written, accepted } :=
  ⟨haccepted, hrecorded,
    fun client loaded transition hprepared ↦
      (h.phases client loaded transition hprepared).imp_left fun hseen ↦ hseen.next hversion,
    fun worker loaded next hwork ↦
      (h.works worker loaded next hwork).imp_left fun hseen ↦ hseen.next hversion⟩

/-- What a submission makes of an accepted checkpoint is accepted. -/
theorem accepted_of_submission
    (h : applyClarificationResponse ctx stored submission = .ok (transition, false)) :
    Accepted ctx transition.state := by
  obtain ⟨current, hvalid, houtcome, hfits⟩ := applyClarificationResponse_reduced h
  obtain ⟨rfl, hsound⟩ := trimmed_of_valid hvalid
  exact houtcome.accepted hsound hfits

/-- **A step of a client.** -/
theorem Consistent.submit (h : Consistent ctx submissions run)
    (hstep : SubmitStep ctx submissions client run later) : Consistent ctx submissions later := by
  cases hstep with
  | first hphase =>
    refine h.moved fun loaded transition hprepared ↦ ?_
    obtain ⟨rfl, hresult⟩ := submitFirst_eq_prepared.mp hprepared
    exact ⟨.refl _, hresult⟩
  | commit loaded transition hphase hstep hvalid =>
    obtain ⟨hseen, hresult⟩ := h.phases client loaded transition hphase
    cases hseen.eq hstep
    have hsound := (accepted_iff.mp h.accepted).1
    exact (h.moved (by simp)).stores (accepted_of_submission hresult)
      (h.recorded.submitted hsound (submitted_of_apply hresult)) hvalid.version
  | conflict loaded transition hphase hstep => exact h.moved (by simp)
  | fail loaded transition error hphase => exact h.moved (by simp)
  | again hphase =>
    exact h.moved fun loaded transition hprepared ↦ absurd hprepared submitAgain_ne_prepared

/-- **A step of a worker.** -/
theorem Consistent.work (h : Consistent ctx submissions run)
    (hstep : WorkStep ctx Fitting run later) : Consistent ctx submissions later := by
  cases hstep with
  | prepare worker next hworks =>
    refine h.worked fun loaded written hsome ↦ ?_
    cases hsome
    exact ⟨.refl _, hworks⟩
  | commit worker loaded next hwork hstep hvalid =>
    obtain ⟨hseen, hworks⟩ := h.works worker loaded next hwork
    cases hseen.eq hstep
    have hnext := hworks.workedOn h.accepted
    exact (h.worked (by simp)).stores hnext.accepted (hnext.recorded h.recorded) hvalid.version
  | drop worker => exact h.worked (by simp)

theorem Reach.consistent (hreach : Reach ctx submissions Fitting run later)
    (h : Consistent ctx submissions run) : Consistent ctx submissions later := by
  induction hreach with
  | start => exact h
  | submit client hreach hstep ih => exact ih.submit hstep
  | work hreach hstep ih => exact ih.work hstep

/-! ## The properties -/

theorem replayed_of_submitted (haccepted : Accepted ctx stored)
    (h : Submitted stored submission (transition, true)) : Replayed ctx stored submission := by
  have hresult := (submitted_iff haccepted).mpr h
  exact ⟨by rw [submitFirst, hresult], by rw [submitAgain, hresult]⟩

/-- An answer accepted for a question selects options of that question. -/
theorem named_of_canonical {record : PendingClarification} {answer : ClarificationAnswer}
    (hrecord : stored.record submission.request = some record)
    (hanswer : canonicalClarificationAnswer record.request submission.question submission.answer =
      .ok answer) : Named stored submission := by
  refine ⟨record, hrecord, ?_⟩
  rw [canonicalClarificationAnswer] at hanswer
  cases hfound : clarificationQuestionByID record.request.questions submission.question with
  | none =>
    rw [hfound] at hanswer
    cases hanswer
  | some question =>
    simp only [hfound] at hanswer
    have hkey : question.id = submission.question := by
      rw [clarificationQuestionByID] at hfound
      simpa using List.find?_some hfound
    exact ⟨question, List.mem_of_find?_eq_some hfound, hkey, options_of_canonical hanswer⟩

/-- What is accepted is named by the run. -/
theorem named_of_submitted {result : RuntimeTransition × Bool} (hsound : Sound ctx stored.trimmed)
    (h : Submitted stored submission result) : Named stored submission := by
  cases h with
  | completed completed answer hcompleted hcomplete hquestion hversion hanswer hkept =>
    have hrequest : completed.request.requestID = submission.request := by
      rw [completedClarificationByRequestID] at hcompleted
      simpa using List.find?_some hcompleted
    have hrecord := record_of_completed hsound (List.mem_of_find?_eq_some hcompleted)
    rw [hrequest] at hrecord
    exact named_of_canonical hrecord hanswer
  | kept pending answer hanswering | saved pending answer hanswering
  | resumed pending answer eventKinds hevents hanswering =>
    have hrecord := record_of_pending hsound hanswering.waiting
    rw [hanswering.request] at hrecord
    exact named_of_canonical hrecord hanswering.answer

theorem rejected_of_unnamed (hsound : Sound ctx stored.trimmed)
    (hunnamed : ¬Named stored submission) :
    (∃ error, submitFirst ctx stored submission = .rejected error) ∧
      ∃ error, submitAgain ctx stored submission = .rejected error := by
  cases hresult : applyClarificationResponse ctx stored submission with
  | error e => exact ⟨⟨e, by rw [submitFirst, hresult]⟩, e, by rw [submitAgain, hresult]⟩
  | ok result => exact absurd (named_of_submitted hsound (submitted_of_apply hresult)) hunnamed

/-- The last answer of a submission completes its request just if it leaves no question open. -/
theorem complete_iff (hrecorded : Recorded accepted stored) (hsound : Sound ctx stored.trimmed)
    {pending : PendingClarification} {answer : ClarificationAnswer}
    (hanswering : Answering stored submission pending answer) :
    clarificationAnswersComplete pending.request
        (upsertClarificationAnswer pending.request pending.answers answer) = true ↔
      ∀ question ∈ pending.request.questions, question.id = submission.question ∨
        (clarificationAnswerByQuestionID pending.answers question.id).isSome = true := by
  have hfacts := hsound.clarification.pending pending hanswering.waiting
  have hchecked := hfacts.wellFormed.checked
  have hquestion : answer.questionID = submission.question :=
    (canonicalClarificationAnswer_trimmed hanswering.answer (trimSpace_trimSpace _) hchecked).1
  have hknown : ∃ question ∈ pending.request.questions, question.id = answer.questionID := by
    rw [hquestion]
    exact (bounded_of_canonical (trimSpace_trimSpace _) hchecked hanswering.answer).2
  have hasked := hrecorded.asked _ _ (record_of_pending hsound hanswering.waiting)
  rw [complete_upsert hasked hfacts.wellFormed.nodup hknown, hquestion]

theorem resumes_iff (hrecorded : Recorded accepted stored) (haccepted : Accepted ctx stored) :
    (∃ transition, submitFirst ctx stored submission = .prepared stored transition ∧
      transition.state.status = .running) ↔
    submission.complete = true ∧ submission.expectedStateVersion = stored.stateVersion ∧
      AnswersAll stored submission := by
  have hsound := (accepted_iff.mp haccepted).1
  constructor
  · rintro ⟨transition, hprepared, hrunning⟩
    cases submitted_of_apply (submitFirst_eq_prepared.mp hprepared).2 with
    | saved pending answer hanswering hversion hopen hchanged =>
      have hstatus : stored.status = .running := hrunning
      rw [status_of_pending hsound hanswering.waiting] at hstatus
      cases hstatus
    | resumed pending answer eventKinds hevents hanswering hversion hcomplete hanswered =>
      exact ⟨hcomplete, hversion, pending, answer, hanswering,
        (complete_iff hrecorded hsound hanswering).mp hanswered⟩
  · rintro ⟨hcomplete, hversion, pending, answer, hanswering, hall⟩
    have hanswered := (complete_iff hrecorded hsound hanswering).mpr hall
    exact ⟨_, submitFirst_eq_prepared.mpr ⟨rfl, (submitted_iff haccepted).mpr
      (.resumed pending answer _ rfl hanswering hversion hcomplete hanswered)⟩, rfl⟩

/-- A client's step that changes the run is the write of what was made of its checkpoint. -/
theorem SubmitStep.commits (h : Consistent ctx submissions run)
    (hstep : SubmitStep ctx submissions client run later) (hchanged : later.stored ≠ run.stored) :
    ∃ transition, later.stored = transition.state ∧
      Submitted run.stored (submissions client) (transition, false) := by
  cases hstep with
  | commit loaded transition hphase hstep hvalid =>
    obtain ⟨hseen, hresult⟩ := h.phases client loaded transition hphase
    cases hseen.eq hstep
    exact ⟨transition, rfl, submitted_of_apply hresult⟩
  | first hphase | conflict loaded transition hphase hstep | fail loaded transition error hphase
  | again hphase => exact absurd rfl hchanged

theorem unchanged_of_submitStep (h : Consistent ctx submissions run)
    (hstep : SubmitStep ctx submissions client run later)
    (hbad : (submissions client).expectedStateVersion ≠ run.stored.stateVersion ∨
      ¬Named run.stored (submissions client)) : later.stored = run.stored := by
  by_contra hchanged
  obtain ⟨transition, -, hsubmitted⟩ := hstep.commits h hchanged
  have hnamed := named_of_submitted (accepted_iff.mp h.accepted).1 hsubmitted
  rcases hbad with hversion | hunnamed
  · cases hsubmitted with
    | saved pending answer hanswering hsame hopen hnew => exact hversion hsame
    | resumed pending answer eventKinds hevents hanswering hsame hcomplete hanswered =>
      exact hversion hsame
  · exact hunnamed hnamed

theorem resumed_of_submitStep (h : Consistent ctx submissions run)
    (hstep : SubmitStep ctx submissions client run later) (hchanged : later.stored ≠ run.stored) :
    run.stored.status = .waitingInput ∧
      (later.stored.status = .running ↔ (submissions client).complete = true) ∧
      ((submissions client).complete = true → AnswersAll run.stored (submissions client)) := by
  have hsound := (accepted_iff.mp h.accepted).1
  obtain ⟨transition, hstored, hsubmitted⟩ := hstep.commits h hchanged
  rw [hstored]
  cases hsubmitted with
  | saved pending answer hanswering hsame hopen hnew =>
    have hwaiting := status_of_pending hsound hanswering.waiting
    have hstill : run.stored.trimmed.status = .waitingInput := hwaiting
    refine ⟨hwaiting, ?_, fun hcomplete ↦ ?_⟩
    · simp [hstill, hopen]
    · rw [hopen] at hcomplete
      cases hcomplete
  | resumed pending answer eventKinds hevents hanswering hsame hcomplete hanswered =>
    exact ⟨status_of_pending hsound hanswering.waiting, by simp [hcomplete],
      fun _ ↦ ⟨pending, answer, hanswering,
        (complete_iff h.recorded hsound hanswering).mp hanswered⟩⟩

theorem waits_of_workStep (h : Consistent ctx submissions run)
    (hstep : WorkStep ctx Fitting run later) (hwaiting : run.stored.status = .waitingInput) :
    later.stored.status = .waitingInput ∨ runtimeStatusTerminal later.stored.status = true := by
  cases hstep with
  | prepare worker next hworks => exact .inl hwaiting
  | commit worker loaded next hwork hstep hvalid =>
    obtain ⟨hseen, hworks⟩ := h.works worker loaded next hwork
    cases hseen.eq hstep
    exact (hworks.workedOn h.accepted).waits hwaiting
  | drop worker => exact .inl hwaiting

theorem Consistent.answersKept (h : Consistent ctx submissions run) :
    AnswersKept ctx submissions run := by
  have hsound := (accepted_iff.mp h.accepted).1
  exact {
    last := h.recorded.answers
    keptAgain := fun acceptance hin hopen pending hpending hrequest hlast ↦
      replayed_of_submitted h.accepted
        (h.recorded.keptAgain hsound hin hopen hpending hrequest hlast)
    completedAgain := fun acceptance hin hcomplete ↦
      replayed_of_submitted h.accepted (h.recorded.completedAgain hsound hin hcomplete)
    refused := fun submission hunnamed ↦ rejected_of_unnamed hsound hunnamed
    unchanged := fun client next hstep hbad ↦ unchanged_of_submitStep h hstep hbad
    resumes := fun submission ↦ resumes_iff h.recorded h.accepted
    resumed := fun client next hstep hchanged ↦ resumed_of_submitStep h hstep hchanged
    waits := fun next hstep hwaiting ↦ waits_of_workStep h hstep hwaiting
    valid := hsound.clarification.history.completed }

/-! ## The history -/

theorem Consistent.history (h : Consistent ctx submissions run)
    (hstep : SubmitStep ctx submissions client run later) :
    run.stored.clarificationHistory <+: later.stored.clarificationHistory := by
  by_cases hchanged : later.stored = run.stored
  · exact hchanged ▸ List.prefix_refl _
  · obtain ⟨transition, hstored, hsubmitted⟩ := hstep.commits h hchanged
    rw [hstored]
    cases hsubmitted with
    | saved pending answer hanswering hsame hopen hnew => exact List.prefix_refl _
    | resumed pending answer eventKinds hevents hanswering hsame hcomplete hanswered =>
      exact List.prefix_append _ _

/-- **Completed requests stay as they are.** -/
theorem Reach.history (h : Consistent ctx submissions run)
    (hreach : Reach ctx submissions Fitting run later) :
    run.stored.clarificationHistory <+: later.stored.clarificationHistory := by
  induction hreach with
  | start => exact List.prefix_refl _
  | submit client hreach hstep ih => exact ih.trans ((hreach.consistent h).history hstep)
  | @work reached next hreach hstep ih =>
    refine ih.trans ?_
    have hreached := hreach.consistent h
    cases hstep with
    | prepare worker next hworks => exact List.prefix_refl _
    | commit worker loaded next hwork hstep hvalid =>
      obtain ⟨hseen, hworks⟩ := hreached.works worker loaded next hwork
      cases hseen.eq hstep
      exact ((hworks.workedOn hreached.accepted).history ▸ List.prefix_refl _ :
        reached.stored.clarificationHistory <+: next.clarificationHistory)
    | drop worker => exact List.prefix_refl _

/-- **Answers to a run.**  Whatever clients and workers do in turn, from the creation of a run on
and while no final answer is refused at too great a length: every question has the answer last
accepted for it, what was accepted is answered as a replay, and requests once completed stay. -/
theorem answers_kept {init : RuntimeState} (hinit : Accepted ctx init)
    (hhistory : init.clarificationHistory = []) (hpending : init.pendingClarification = none)
    (hreach : Reach ctx submissions Fitting (.start init) run)
    (hlater : Reach ctx submissions Fitting run later) :
    AnswersKept ctx submissions run ∧
      run.stored.clarificationHistory <+: later.stored.clarificationHistory := by
  have hstart : Consistent ctx submissions (.start init) :=
    ⟨hinit, .start hhistory hpending, by simp [SharedRun.start], by simp [SharedRun.start]⟩
  have hrun := hreach.consistent hstart
  exact ⟨hrun.answersKept, hlater.history hrun⟩

end

/-! ## A run whose final answer is refused at length -/

/-- A text that neither begins nor ends with a space. -/
theorem trimSpace_of_ends {l : List Char} (hhead : l.head?.any isSpace = false)
    (hlast : l.getLast?.any isSpace = false) :
    trimSpace (String.ofList l) = String.ofList l := by
  have hdrop : l.dropWhile isSpace = l := by
    cases l with
    | nil => rfl
    | cons c l =>
      have hc : isSpace c = false := by simpa using hhead
      rw [List.dropWhile_cons, hc]
      rfl
  have hrdrop : l.rdropWhile isSpace = l :=
    List.rdropWhile_eq_self_iff.mpr fun hl ↦ by
      rw [List.getLast?_eq_some_getLast hl] at hlast
      simpa using hlast
  rw [trimSpace, String.toList_ofList, hdrop, hrdrop]

/-- The directory of a skill with a long name. -/
def longDir (c : Char) : String := String.ofList (List.replicate 93 c)

def longSkill (c : Char) : SkillSelection where
  dir := longDir c
  name := "skill"
  instructions := "draw"
  version := 1
  checksum := ""

def longConfiguration : RunConfiguration where
  skills := [longSkill 'a', longSkill 'b']
  executionMode := .guided

theorem checkSkill_longSkill {c : Char} (hdir : trimSpace (longDir c) = longDir c)
    (hsize : (longDir c).utf8ByteSize = 93) : checkSkill plainContext (longSkill c) = .ok () := by
  rw [checkSkill, if_neg]
  have hne : longDir c ≠ "" := by
    intro hempty
    rw [hempty] at hsize
    cases hsize
  have hskill : (longSkill c).dir = longDir c := rfl
  rw [hskill, hdir, hsize]
  simp only [hne, false_or]
  show ¬(_ ∨ trimSpace "skill" = "" ∨ (trimSpace "skill").utf8ByteSize > _ ∨
    (trimSpace "").utf8ByteSize > _ ∨ trimSpace "draw" = "" ∨
    (trimSpace "draw").utf8ByteSize > _ ∨ (1 : ℤ) ≤ 0 ∨ trimSpace "" ≠ "")
  decide

theorem check_longConfiguration : longConfiguration.check plainContext = .ok () := by
  have ha : trimSpace (longDir 'a') = longDir 'a' :=
    trimSpace_of_ends (by decide) (by decide)
  have hb : trimSpace (longDir 'b') = longDir 'b' :=
    trimSpace_of_ends (by decide) (by decide)
  have hskill := checkSkill_longSkill ha (by decide)
  have hskill' := checkSkill_longSkill hb (by decide)
  have hlt : longDir 'a' < longDir 'b' := by decide
  have hskills : checkAscending (fun skill ↦ trimSpace skill.dir) (checkSkill plainContext)
      errSkillSelectionInvalid checkSkillSource "" longConfiguration.skills = .ok () := by
    show checkAscending _ _ _ _ "" [longSkill 'a', longSkill 'b'] = _
    rw [checkAscending, bind_eq_ok]
    refine ⟨(), hskill, ?_⟩
    rw [if_neg (by simp), bind_eq_ok]
    refine ⟨(), rfl, ?_⟩
    rw [checkAscending, bind_eq_ok]
    refine ⟨(), hskill', ?_⟩
    rw [if_neg]
    · rfl
    · rintro ⟨-, hle⟩
      have hle' : trimSpace (longDir 'b') ≤ trimSpace (longDir 'a') := hle
      rw [ha, hb] at hle'
      exact absurd hlt hle'
  rw [RunConfiguration.check]
  rw [if_neg (by decide)]
  refine bind_eq_ok.mpr ⟨(), rfl, bind_eq_ok.mpr ⟨(), rfl, bind_eq_ok.mpr ⟨(), rfl,
    bind_eq_ok.mpr ⟨(), rfl, ?_⟩⟩⟩⟩
  rw [if_neg (by decide), if_neg (by decide)]
  refine bind_eq_ok.mpr ⟨(), hskills, ?_⟩
  rw [if_neg (by decide), if_neg (by decide)]
  exact bind_eq_ok.mpr ⟨(), rfl, rfl⟩

/-- The refusal names both directories, which is more than a checkpoint may keep. -/
theorem validFeedback_long : validFeedback (missingSkillsFeedback
    (missingRequiredSkillDirs longConfiguration.skills [])) = false := by
  have hreason : (missingSkillsFeedback (missingRequiredSkillDirs longConfiguration.skills
      [])).reason = "load the missing selected skills before final delivery: " ++
        (longDir 'a' ++ ", " ++ longDir 'b') := rfl
  have hsize : ("load the missing selected skills before final delivery: " ++
      (longDir 'a' ++ ", " ++ longDir 'b')).utf8ByteSize = 244 := by
    rw [String.utf8ByteSize_append, String.utf8ByteSize_append, String.utf8ByteSize_append]
    decide
  have htrim : trimSpace ("load the missing selected skills before final delivery: " ++
      (longDir 'a' ++ ", " ++ longDir 'b')) =
      "load the missing selected skills before final delivery: " ++
        (longDir 'a' ++ ", " ++ longDir 'b') := by
    have hends := @trimSpace_of_ends ("load the missing selected skills before final delivery: " ++
      (longDir 'a' ++ ", " ++ longDir 'b')).toList ?_ ?_
    · rwa [String.ofList_toList] at hends
    · rw [String.toList_append, List.head?_append]
      decide
    · rw [String.toList_append, String.toList_append, List.getLast?_append, List.getLast?_append,
        longDir, String.toList_ofList, List.getLast?_replicate]
      decide
  rw [validFeedback, hreason, htrim, hsize]
  simp

/-- A run that is to load two skills. -/
def skilledState : RuntimeState :=
  { queuedState with
    stateVersion := 2
    status := .running
    configuration := longConfiguration }

def toneRequest : ClarificationDecision where
  requestID := "colour"
  questions := [{ id := "tone", prompt := "Which tone?", type := .freeText }]
  expectedDelivery := answerDelivery

def askTone : RuntimeInput where
  decision := { kind := .clarificationRequest, clarification := some toneRequest }
  evidence := {}

/-- The same run once its model has asked a question. -/
def askedState : RuntimeState :=
  { skilledState with
    stateVersion := 3
    stepNumber := 1
    status := .waitingInput
    expectedDelivery := some answerDelivery
    pendingClarification := some ⟨toneRequest, []⟩ }

def warmTone : ClarificationResponseSubmission where
  requestID := "colour"
  expectedStateVersion := 3
  questionID := "tone"
  answer := { customText := "warm" }
  complete := true

/-- The same run once its question is answered. -/
def answeredState : RuntimeState :=
  { askedState with
    stateVersion := 4
    status := .running
    pendingClarification := none
    clarificationHistory := [{
      request := toneRequest
      answers := [{ questionID := "tone", customText := "warm" }]
      completionQuestionID := "tone"
      completionExpectedStateVersion := 3 }] }

/-- The same run once its final answer is refused. -/
def refusedState : RuntimeState :=
  { answeredState with
    stateVersion := 5
    stepNumber := 2
    decisionFeedback := some (missingSkillsFeedback
      (missingRequiredSkillDirs longConfiguration.skills [])) }

theorem accepted_skilledState : Accepted plainContext skilledState := by
  have hbase : Sound plainContext queuedState.trimmed :=
    (accepted_iff.mp ⟨queuedState, rfl⟩).1
  refine accepted_iff.mpr ⟨{ hbase with
    version := by decide
    status := rfl
    tool := nofun
    clarification := hbase.clarification.of_idle (by decide) rfl rfl (.inl rfl)
    configuration := check_longConfiguration
    skills := rfl }, nofun⟩

theorem validateAdvancingState_of_running {state : RuntimeState}
    (haccepted : Accepted plainContext state) (hsteps : state.stepNumber < state.maxSteps)
    (hstatus : state.status = .running) :
    validateAdvancingState plainContext state = .ok state.trimmed := by
  obtain ⟨current, hvalid⟩ := haccepted
  obtain ⟨rfl, hsound⟩ := trimmed_of_valid hvalid
  refine bind_eq_ok.mpr ⟨state.trimmed, hvalid, refuse_eq_ok.mpr ⟨not_le.mpr hsteps,
    refuse_eq_ok.mpr ⟨hsound.message, refuse_eq_ok.mpr ⟨fun hnot ↦ hnot.2 hstatus, rfl⟩⟩⟩⟩

theorem advance_askTone :
    ReducerCall.apply plainContext skilledState (.advance askTone currentToolSchemaVersion) =
      .ok { state := askedState, eventKinds := [.clarificationRequested, .runStatusChanged] } :=
  bind_eq_ok.mpr ⟨skilledState, validateAdvancingState_of_running accepted_skilledState (by decide)
    rfl, bind_eq_ok.mpr ⟨.clarification toneRequest, rfl, rfl⟩⟩

theorem submit_warmTone (haccepted : Accepted plainContext askedState) :
    applyClarificationResponse plainContext askedState warmTone =
      .ok ({ state := answeredState
             eventKinds := [.clarificationAnswerSaved, .clarificationResponded,
               .runStatusChanged] }, false) :=
  (submitted_iff haccepted).mpr (.resumed ⟨toneRequest, []⟩
    { questionID := "tone", customText := "warm" } _ rfl ⟨rfl, by decide, by rfl⟩ rfl rfl rfl)

theorem advance_refused (haccepted : Accepted plainContext answeredState) :
    ReducerCall.apply plainContext answeredState (.advance finalAnswer currentToolSchemaVersion) =
      .ok { state := refusedState, eventKinds := [.modelRejected, .runStatusChanged] } :=
  bind_eq_ok.mpr ⟨answeredState, validateAdvancingState_of_running haccepted (by decide) rfl,
    bind_eq_ok.mpr ⟨.final ⟨"done", answerDelivery⟩, rfl, rfl⟩⟩

theorem accepted_askedState : Accepted plainContext askedState :=
  ((Works.start skilledState).call _ rfl (fun hlong ↦ nomatch hlong.1) advance_askTone).workedOn
    accepted_skilledState |>.accepted

/-- The question is asked, and answered. -/
theorem reach_answered (allowed : RuntimeState → ReducerCall → Prop)
    (hask : allowed skilledState (.advance askTone currentToolSchemaVersion)) :
    ∃ run, Reach plainContext (fun _ ↦ warmTone) allowed (.start skilledState) run ∧
      run.stored = answeredState ∧ run.accepted = [⟨askedState, warmTone⟩] := by
  have hasked := Reach.work (.work (.start :
    Reach plainContext (fun _ ↦ warmTone) allowed (.start skilledState) _)
    (.prepare 0 askedState ((Works.start skilledState).call _ rfl hask advance_askTone)))
    (.commit 0 skilledState askedState rfl ⟨rfl, rfl, rfl, rfl⟩
      ⟨⟨by decide, rfl⟩, rfl, .inr rfl, ⟨rfl, by decide, by decide⟩, rfl, rfl⟩)
  have hresult := submitFirst_eq_prepared.mpr ⟨rfl, submit_warmTone accepted_askedState⟩
  have hanswered := (hasked.submit 0 (.first rfl)).submit 0
    (.commit askedState _ (by simpa [SharedRun.moved] using hresult) ⟨rfl, rfl, rfl, rfl⟩
      ⟨⟨by decide, rfl⟩, rfl, .inl rfl, ⟨rfl, by decide, by decide⟩, rfl, rfl⟩)
  exact ⟨_, hanswered, rfl, rfl⟩

/-- The answer of the run is kept. -/
theorem answers_kept_warmTone : ∃ run,
    Reach plainContext (fun _ ↦ warmTone) Fitting (.start skilledState) run ∧
      run.stored = answeredState ∧ AnswersKept plainContext (fun _ ↦ warmTone) run := by
  obtain ⟨run, hreach, hstored, -⟩ := reach_answered Fitting fun hlong ↦ nomatch hlong.1
  exact ⟨run, hreach, hstored, (answers_kept accepted_skilledState rfl rfl hreach .start).1⟩

/-- **What is not kept.**  Once a final answer is refused with too long a list of missing skills,
the submission that completed the request is not answered as a replay any more. -/
theorem exists_completed_unreplayed : ∃ ctx submissions init run, Accepted ctx init ∧
    init.clarificationHistory = [] ∧ init.pendingClarification = none ∧
    Reach ctx submissions (fun _ _ ↦ True) (.start init) run ∧
    ¬AnswersKept ctx submissions run := by
  obtain ⟨run, hreach, hstored, haccepted⟩ := reach_answered (fun _ _ ↦ True) trivial
  have hanswered := accepted_of_submission (submit_warmTone accepted_askedState)
  have hrefused := Reach.work (.work hreach (.prepare 0 refusedState
    ((Works.start run.stored).call _ rfl trivial (hstored ▸ advance_refused hanswered))))
    (.commit 0 run.stored refusedState (by simp [SharedRun.worked]) ⟨rfl, rfl, rfl, rfl⟩
      (hstored ▸ ⟨⟨by decide, rfl⟩, rfl, .inr rfl, ⟨rfl, by decide, by decide⟩, rfl, rfl⟩))
  refine ⟨plainContext, fun _ ↦ warmTone, skilledState, _, accepted_skilledState, rfl, rfl,
    hrefused, fun hkept ↦ ?_⟩
  have hin : (⟨askedState, warmTone⟩ : Acceptance) ∈ run.accepted := by simp [haccepted]
  have hreplayed := (hkept.completedAgain _ hin rfl).1
  have hfits : ¬FeedbackFits refusedState.trimmed := fun hfits ↦ by
    have hfit := hfits _ rfl
    rw [validFeedback_long] at hfit
    cases hfit
  have hnot : ¬Accepted plainContext refusedState := fun haccepted ↦
    hfits (accepted_iff.mp haccepted).2
  have hresult : submitFirst plainContext refusedState warmTone = .replayed := hreplayed
  rw [submitFirst] at hresult
  cases happly : applyClarificationResponse plainContext refusedState warmTone with
  | error e =>
    rw [happly] at hresult
    cases hresult
  | ok result =>
    obtain ⟨current, hvalid, -⟩ := bind_eq_ok.mp happly
    exact hnot ⟨current, hvalid⟩

end HMaigc.AgentRuntime
