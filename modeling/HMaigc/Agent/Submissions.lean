import HMaigc.Agent.Requests

/-!
# What a submitted answer comes to

* `submitted_iff` — the four ways in which `applyClarificationResponse` accepts a submission: it
  completed its request before, its answer is the one kept, its answer is kept now, or it completes
  its request now.
* `lookup_upsert` — keeping an answer changes the answer to its own question only.
* `Recorded` — what the requests of a run say of the submissions accepted so far, and that it stays
  true whatever the other reducers do (`Recorded.other`) and when one more submission is accepted
  (`Recorded.submitted`).
-/

set_option autoImplicit false

namespace HMaigc.AgentRuntime

open Go

/-! ## Keeping an answer -/

section

variable {request : ClarificationDecision} {answers : List ClarificationAnswer}
  {answer : ClarificationAnswer} {questionID : String}

/-- The questions whose answers are kept. -/
def Asked (request : ClarificationDecision) (answers : List ClarificationAnswer) : Prop :=
  ∀ answer ∈ answers, ∃ question ∈ request.questions, question.id = answer.questionID

theorem Asked.upsert : Asked request (upsertClarificationAnswer request answers answer) := by
  intro stored hstored
  obtain ⟨question, hquestion, hfound⟩ := List.mem_filterMap.mp hstored
  have hkey : stored.questionID = question.id := by simpa using List.find?_some hfound
  exact ⟨question, hquestion, hkey.symm⟩

/-- Collecting, for every key of a list, what is found under it. -/
theorem find_filterMap {α β : Type} {key : α → String} {id : β → String} {found : String → Option β}
    (hfound : ∀ k b, found k = some b → id b = k) (l : List α) (k : String) :
    (l.filterMap fun a ↦ found (key a)).find? (fun b ↦ id b == k) =
      if k ∈ l.map key then found k else none := by
  induction l with
  | nil => simp
  | cons a l ih =>
    by_cases hkey : key a = k
    · cases hhere : found k with
      | none =>
        have hnone : found (key a) = none := by rw [hkey, hhere]
        simp only [List.filterMap_cons, hnone, ih, hhere]
        simp
      | some b =>
        have hsome : found (key a) = some b := by rw [hkey, hhere]
        simp only [List.filterMap_cons, hsome, List.find?_cons, beq_iff_eq.mpr (hfound k b hhere)]
        simp [hkey]
    · have hother : (k ∈ (a :: l).map key) ↔ k ∈ l.map key := by simp [Ne.symm hkey]
      simp only [hother, List.filterMap_cons]
      cases hhere : found (key a) with
      | none => exact ih
      | some b =>
        have hne : id b ≠ k := by rwa [hfound _ _ hhere]
        simp only [List.find?_cons, beq_eq_false_iff_ne.mpr hne]
        exact ih

theorem lookup_reverse (hnodup : (answers.map (·.questionID)).Nodup) :
    clarificationAnswerByQuestionID answers.reverse questionID =
      clarificationAnswerByQuestionID answers questionID := by
  cases hfound : clarificationAnswerByQuestionID answers questionID with
  | none =>
    refine List.find?_eq_none.mpr fun stored hstored ↦ ?_
    exact List.find?_eq_none.mp hfound stored (List.mem_reverse.mp hstored)
  | some stored =>
    have hkey : stored.questionID = questionID := by simpa using List.find?_some hfound
    refine find_eq_of_nodup ?_ (List.mem_reverse.mpr (List.mem_of_find?_eq_some hfound)) hkey
    rwa [List.map_reverse, List.nodup_reverse]

/-- What `upsertClarificationAnswer` finds for a question. -/
theorem lookup_cons_reverse (hnodup : (answers.map (·.questionID)).Nodup) :
    clarificationAnswerByQuestionID (answer :: answers.reverse) questionID =
      if answer.questionID = questionID then some answer
      else clarificationAnswerByQuestionID answers questionID := by
  rw [← lookup_reverse hnodup]
  by_cases hsame : answer.questionID = questionID <;>
    simp [clarificationAnswerByQuestionID, hsame]

/-- **Keeping an answer changes the answer to its own question only.** -/
theorem lookup_upsert (hasked : Asked request answers)
    (hnodup : (answers.map (·.questionID)).Nodup)
    (hquestion : ∃ question ∈ request.questions, question.id = answer.questionID) :
    clarificationAnswerByQuestionID (upsertClarificationAnswer request answers answer) questionID =
      if answer.questionID = questionID then some answer
      else clarificationAnswerByQuestionID answers questionID := by
  refine (find_filterMap (fun k stored hstored ↦ by simpa using List.find?_some hstored)
    request.questions questionID).trans ?_
  rw [lookup_cons_reverse hnodup]
  by_cases hmem : questionID ∈ request.questions.map (·.id)
  · rw [if_pos hmem]
  · rw [if_neg hmem, if_neg]
    · refine (List.find?_eq_none.mpr fun stored hstored hkey ↦ hmem ?_).symm
      obtain ⟨question, hin, hid⟩ := hasked stored hstored
      exact List.mem_map.mpr ⟨question, hin, hid.trans (by simpa using hkey)⟩
    · rintro rfl
      obtain ⟨question, hin, hid⟩ := hquestion
      exact hmem (List.mem_map.mpr ⟨question, hin, hid⟩)

/-- The answers are complete when no question is left open. -/
theorem complete_upsert (hasked : Asked request answers)
    (hnodup : (answers.map (·.questionID)).Nodup)
    (hquestion : ∃ question ∈ request.questions, question.id = answer.questionID) :
    clarificationAnswersComplete request (upsertClarificationAnswer request answers answer) =
        true ↔
      ∀ question ∈ request.questions, question.id = answer.questionID ∨
        (clarificationAnswerByQuestionID answers question.id).isSome = true := by
  have hanswered : ∀ question : ClarificationQuestion,
      (clarificationAnswerByQuestionID (upsertClarificationAnswer request answers answer)
        question.id).isSome = true ↔ question.id = answer.questionID ∨
          (clarificationAnswerByQuestionID answers question.id).isSome = true := by
    intro question
    rw [lookup_upsert hasked hnodup hquestion]
    by_cases hsame : answer.questionID = question.id
    · simp [hsame]
    · simp [hsame, Ne.symm hsame]
  rw [clarificationAnswersComplete, Bool.and_eq_true, List.all_eq_true]
  constructor
  · intro h question hin
    exact (hanswered question).mp (h.2 question hin)
  · intro h
    refine ⟨?_, fun question hin ↦ (hanswered question).mpr (h question hin)⟩
    rw [beq_iff_eq, upsertClarificationAnswer, List.filterMap_length_eq_length]
    intro question hin
    rw [lookup_cons_reverse hnodup]
    rcases h question hin with hsame | hkept
    · simp [hsame]
    · split
      · rfl
      · exact hkept

end

/-! ## What a submission comes to -/

/-- The request a submission is for. -/
def ClarificationResponseSubmission.request (submission : ClarificationResponseSubmission) :
    String :=
  trimSpace submission.requestID

/-- The question a submission is for. -/
def ClarificationResponseSubmission.question (submission : ClarificationResponseSubmission) :
    String :=
  trimSpace submission.questionID

/-- The submission answers a question of the pending request. -/
structure Answering (state : RuntimeState) (submission : ClarificationResponseSubmission)
    (pending : PendingClarification) (answer : ClarificationAnswer) : Prop where
  waiting : state.pendingClarification = some pending
  request : pending.request.requestID = submission.request
  answer : canonicalClarificationAnswer pending.request submission.question submission.answer =
    .ok answer

/-- The ways in which a submission is accepted, with what comes of it. -/
inductive Submitted (state : RuntimeState) (submission : ClarificationResponseSubmission) :
    RuntimeTransition × Bool → Prop
  /-- It is the one that completed its request. -/
  | completed (completed : CompletedClarification) (answer : ClarificationAnswer)
      (hcompleted : completedClarificationByRequestID state.clarificationHistory
        submission.request = some completed)
      (hcomplete : submission.complete = true)
      (hquestion : submission.question = completed.completionQuestionID)
      (hversion : submission.expectedStateVersion = completed.completionExpectedStateVersion)
      (hanswer : canonicalClarificationAnswer completed.request submission.question
        submission.answer = .ok answer)
      (hkept : clarificationAnswerByQuestionID completed.answers submission.question =
        some answer) :
      Submitted state submission ({ state := state.trimmed }, true)
  /-- Its answer is the one kept. -/
  | kept (pending : PendingClarification) (answer : ClarificationAnswer)
      (hanswering : Answering state submission pending answer)
      (hversion : 1 ≤ submission.expectedStateVersion) (hopen : submission.complete = false)
      (hkept : clarificationAnswerByQuestionID pending.answers submission.question =
        some answer) :
      Submitted state submission ({ state := state.trimmed }, true)
  /-- Its answer is kept from now on. -/
  | saved (pending : PendingClarification) (answer : ClarificationAnswer)
      (hanswering : Answering state submission pending answer)
      (hversion : submission.expectedStateVersion = state.stateVersion)
      (hopen : submission.complete = false)
      (hchanged : clarificationAnswerByQuestionID pending.answers submission.question ≠
        some answer) :
      Submitted state submission ({
        state := { state.trimmed with
          stateVersion := state.stateVersion + 1
          pendingClarification := some
            ⟨pending.request, upsertClarificationAnswer pending.request pending.answers answer⟩ }
        eventKinds := [.clarificationAnswerSaved] }, false)
  /-- It completes its request. -/
  | resumed (pending : PendingClarification) (answer : ClarificationAnswer)
      (eventKinds : List EventKind)
      (hevents : eventKinds = (if clarificationAnswerByQuestionID pending.answers
        submission.question ≠ some answer then [EventKind.clarificationAnswerSaved] else []) ++
        [.clarificationResponded, .runStatusChanged])
      (hanswering : Answering state submission pending answer)
      (hversion : submission.expectedStateVersion = state.stateVersion)
      (hcomplete : submission.complete = true)
      (hanswered : clarificationAnswersComplete pending.request
        (upsertClarificationAnswer pending.request pending.answers answer) = true) :
      Submitted state submission ({
        state := { state.trimmed with
          stateVersion := state.stateVersion + 1
          status := .running
          clarificationHistory := state.clarificationHistory ++
            [{ request := pending.request
               answers := upsertClarificationAnswer pending.request pending.answers answer
               completionQuestionID := submission.question
               completionExpectedStateVersion := submission.expectedStateVersion }]
          pendingClarification := none }
        eventKinds }, false)

section

variable {ctx : RuntimeContext} {state : RuntimeState}
  {submission : ClarificationResponseSubmission} {pending : PendingClarification}
  {answer : ClarificationAnswer} {result : RuntimeTransition × Bool}

theorem selected_of_orderedOptions {options : List ClarificationOption}
    {selected ordered : List String} (h : orderedOptions options selected = .ok ordered)
    {id : String} (hid : id ∈ selected) : id ∈ options.map (·.id) := by
  induction options generalizing selected ordered with
  | nil =>
    cases selected with
    | nil => cases hid
    | cons s rest => cases h
  | cons option options ih =>
    rw [orderedOptions] at h
    by_cases hmem : option.id ∈ selected
    · rw [if_pos hmem] at h
      obtain ⟨tail, htail, -⟩ := bind_eq_ok.mp h
      by_cases hsame : id = option.id
      · exact hsame ▸ .head _
      · exact .tail _ (ih htail ((List.mem_erase_of_ne hsame).mpr hid))
    · rw [if_neg hmem] at h
      exact .tail _ (ih h hid)

/-- **No option is made up.** -/
theorem options_of_canonical {question : ClarificationQuestion}
    {input : ClarificationAnswerInput} (h : canonicalAnswerTo question input = .ok answer) :
    ∀ id ∈ input.selectedOptionIDs, trimSpace id ∈ question.options.map (·.id) := by
  intro id hid
  have hsome : input.selectedOptionIDs ≠ [] := List.ne_nil_of_mem hid
  rw [canonicalAnswerTo, refuse_eq_ok] at h
  obtain ⟨-, h⟩ := h
  by_cases hskipped : input.skipped = true
  · rw [if_pos hskipped, refuse_eq_ok] at h
    exact absurd (.inl hsome) h.1
  · rw [if_neg hskipped] at h
    cases hkind : question.type with
    | freeText =>
      simp only [hkind] at h
      exact absurd (.inl hsome) (refuse_eq_ok.mp h).1
    | singleChoice | multiChoice =>
      simp only [hkind] at h
      obtain ⟨selected, hselected, -⟩ := bind_eq_ok.mp h
      obtain ⟨_, -, hordered⟩ := bind_eq_ok.mp hselected
      exact selected_of_orderedOptions hordered (List.mem_map_of_mem hid)
    | other name =>
      simp only [hkind] at h
      cases h

/-- What is answered has an identity within bounds. -/
theorem bounded_of_canonical {request : ClarificationDecision} {questionID : String}
    {input : ClarificationAnswerInput} (hid : trimSpace questionID = questionID)
    (hchecked : request.trimmed.Checked)
    (hanswer : canonicalClarificationAnswer request questionID input = .ok answer) :
    boundedDecisionText questionID 120 = true ∧
      ∃ question ∈ request.questions, question.id = questionID := by
  rw [canonicalClarificationAnswer] at hanswer
  cases hfound : clarificationQuestionByID request.questions questionID with
  | none =>
    rw [hfound] at hanswer
    cases hanswer
  | some question =>
    have hmem := List.mem_of_find?_eq_some hfound
    have hkey : question.id = questionID := by simpa using List.find?_some hfound
    refine ⟨?_, question, hmem, hkey⟩
    have hbounded := hchecked.bounded question.trimmed (List.mem_map_of_mem hmem)
    have htrimmed : question.trimmed.id = questionID := by
      show trimSpace question.id = questionID
      rw [hkey, hid]
    rwa [htrimmed] at hbounded

theorem requestID_bounded {request : ClarificationDecision} {requestID : String}
    (hchecked : request.trimmed.Checked) (hrequest : request.requestID = requestID)
    (hid : trimSpace requestID = requestID) : boundedDecisionText requestID 120 = true := by
  have hbounded := hchecked.requestID
  have htrimmed : request.trimmed.requestID = requestID := by
    show trimSpace request.requestID = requestID
    rw [hrequest, hid]
  rwa [htrimmed] at hbounded

theorem submitted_of_apply (h : applyClarificationResponse ctx state submission = .ok result) :
    Submitted state submission result := by
  obtain ⟨current, hvalid, h⟩ := bind_eq_ok.mp h
  obtain ⟨rfl, hsound⟩ := trimmed_of_valid hvalid
  obtain ⟨hbounded, h⟩ := refuse_eq_ok.mp h
  simp only [not_or, Bool.not_eq_false, not_lt] at hbounded
  cases hcompleted : completedClarificationByRequestID state.trimmed.clarificationHistory
      (trimSpace submission.requestID) with
  | some completed =>
    simp only [hcompleted] at h
    obtain ⟨answer, hanswer, h⟩ := bind_eq_ok.mp h
    by_cases hsame : submission.complete = true ∧
        trimSpace submission.questionID = completed.completionQuestionID ∧
        submission.expectedStateVersion = completed.completionExpectedStateVersion ∧
        clarificationAnswerByQuestionID completed.answers (trimSpace submission.questionID) =
          some answer
    · rw [if_pos hsame] at h
      cases h
      exact .completed completed answer hcompleted hsame.1 hsame.2.1 hsame.2.2.1 hanswer
        hsame.2.2.2
    · rw [if_neg hsame] at h
      cases h
  | none =>
    cases hpending : state.trimmed.pendingClarification with
    | none =>
      simp only [hcompleted, hpending] at h
      cases h
    | some pending =>
      simp only [hcompleted, hpending] at h
      obtain ⟨-, h⟩ := refuse_eq_ok.mp h
      obtain ⟨hrequest, h⟩ := refuse_eq_ok.mp h
      obtain ⟨answer, hanswer, h⟩ := bind_eq_ok.mp h
      have hanswering : Answering state submission pending answer :=
        ⟨hpending, not_not.mp hrequest, hanswer⟩
      by_cases hsame : submission.complete = false ∧ decide (clarificationAnswerByQuestionID
          pending.answers (trimSpace submission.questionID) ≠ some answer) = false
      · rw [if_pos hsame] at h
        cases h
        have hkept : clarificationAnswerByQuestionID pending.answers
            (trimSpace submission.questionID) = some answer := by simpa using hsame.2
        exact .kept pending answer hanswering hbounded.2.2 hsame.1 hkept
      · rw [if_neg hsame] at h
        obtain ⟨hversion, h⟩ := refuse_eq_ok.mp h
        obtain ⟨hanswered, h⟩ := refuse_eq_ok.mp h
        by_cases hopen : submission.complete = false
        · rw [if_pos hopen] at h
          have hchanged : clarificationAnswerByQuestionID pending.answers
              (trimSpace submission.questionID) ≠ some answer := by simpa [hopen] using hsame
          rw [if_pos (by simpa using hchanged)] at h
          cases h
          exact .saved pending answer hanswering (not_not.mp hversion) hopen hchanged
        · rw [if_neg hopen] at h
          cases h
          have hcomplete : submission.complete = true := by simpa using hopen
          refine .resumed pending answer _ ?_ hanswering (not_not.mp hversion) hcomplete
            (by simpa [hcomplete] using hanswered)
          simp only [decide_eq_true_eq]
          rfl

theorem applyClarificationResponse_of_pending
    (hvalid : validateRuntimeState ctx state = .ok state.trimmed)
    (hanswering : Answering state submission pending answer)
    (hversion : 1 ≤ submission.expectedStateVersion)
    (h : answerPending state.trimmed pending submission.question submission = .ok result) :
    applyClarificationResponse ctx state submission = .ok result := by
  obtain ⟨-, hsound⟩ := trimmed_of_valid hvalid
  have hpending : state.trimmed.pendingClarification = some pending := hanswering.waiting
  have hfacts := hsound.clarification.pending pending hpending
  have hchecked := hfacts.wellFormed.checked
  have hquestion := (bounded_of_canonical (trimSpace_trimSpace _) hchecked hanswering.answer).1
  have hrequest := requestID_bounded hchecked hanswering.request (trimSpace_trimSpace _)
  have hfresh : completedClarificationByRequestID state.trimmed.clarificationHistory
      (trimSpace submission.requestID) = none := by
    refine List.find?_eq_none.mpr fun completed hin hkey ↦ hfacts.fresh ?_
    rw [hanswering.request]
    exact List.mem_map.mpr ⟨completed, hin, beq_iff_eq.mp hkey⟩
  have hwaiting : state.trimmed.status = .waitingInput := by
    by_contra hidle
    have hnone := hsound.clarification.idle hidle
    rw [hpending] at hnone
    cases hnone
  refine bind_eq_ok.mpr ⟨state.trimmed, hvalid, refuse_eq_ok.mpr ⟨?_, ?_⟩⟩
  · simp only [not_or, Bool.not_eq_false, not_lt]
    exact ⟨hrequest, hquestion, hversion⟩
  · simp only [hfresh, hpending]
    exact refuse_eq_ok.mpr ⟨not_not.mpr hwaiting,
      refuse_eq_ok.mpr ⟨not_not.mpr hanswering.request, h⟩⟩

/-- **What a submission comes to.** -/
theorem submitted_iff (haccepted : Accepted ctx state) :
    applyClarificationResponse ctx state submission = .ok result ↔
      Submitted state submission result := by
  refine ⟨submitted_of_apply, fun h ↦ ?_⟩
  obtain ⟨current, hvalid⟩ := haccepted
  obtain ⟨rfl, hsound⟩ := trimmed_of_valid hvalid
  have hcurrent : 1 ≤ state.stateVersion := hsound.version
  cases h with
  | completed completed answer hcompleted hcomplete hquestion hversion hanswer hkept =>
    have hin := List.mem_of_find?_eq_some hcompleted
    have hkey : completed.request.requestID = submission.request := by
      simpa using List.find?_some hcompleted
    have hcompletedValid := hsound.clarification.history.completed completed hin
    obtain ⟨_, hrecord, hvalidRest⟩ := bind_eq_ok.mp hcompletedValid
    have hchecked := (validateClarificationRecord_eq_ok.mp hrecord).1.checked
    have hexpected := (refuse_eq_ok.mp hvalidRest).1
    rw [not_or, not_lt] at hexpected
    have hbounded := (bounded_of_canonical (trimSpace_trimSpace _) hchecked hanswer).1
    have hrequest := requestID_bounded hchecked hkey (trimSpace_trimSpace _)
    refine bind_eq_ok.mpr ⟨state.trimmed, hvalid, refuse_eq_ok.mpr ⟨?_, ?_⟩⟩
    · simp only [not_or, Bool.not_eq_false, not_lt]
      exact ⟨hrequest, hbounded, hversion ▸ hexpected.2⟩
    · have hfound : completedClarificationByRequestID state.trimmed.clarificationHistory
          (trimSpace submission.requestID) = some completed := hcompleted
      simp only [hfound]
      refine bind_eq_ok.mpr ⟨answer, hanswer, ?_⟩
      rw [if_pos ⟨hcomplete, hquestion, hversion, hkept⟩]
  | kept pending answer hanswering hversion hopen hkept =>
    refine applyClarificationResponse_of_pending hvalid hanswering hversion
      (bind_eq_ok.mpr ⟨answer, hanswering.answer, ?_⟩)
    rw [if_pos ⟨hopen, by simpa using hkept⟩]
  | saved pending answer hanswering hversion hopen hchanged =>
    refine applyClarificationResponse_of_pending hvalid hanswering (hversion ▸ hcurrent)
      (bind_eq_ok.mpr ⟨answer, hanswering.answer, ?_⟩)
    rw [if_neg (by simpa [hopen] using hchanged)]
    refine refuse_eq_ok.mpr ⟨not_not.mpr hversion, refuse_eq_ok.mpr ⟨by simp [hopen], ?_⟩⟩
    rw [if_pos hopen, if_pos (by simpa using hchanged)]
    rfl
  | resumed pending answer eventKinds hevents hanswering hversion hcomplete hanswered =>
    refine applyClarificationResponse_of_pending hvalid hanswering (hversion ▸ hcurrent)
      (bind_eq_ok.mpr ⟨answer, hanswering.answer, ?_⟩)
    rw [if_neg (by simp [hcomplete])]
    refine refuse_eq_ok.mpr ⟨not_not.mpr hversion, refuse_eq_ok.mpr ⟨by simp [hanswered], ?_⟩⟩
    rw [if_neg (by simp [hcomplete]), hevents]
    simp only [decide_eq_true_eq]
    rfl

end

/-! ## What a run records of the submissions it accepted -/

/-- The answers kept for a request, completed or pending. -/
def RuntimeState.record (state : RuntimeState) (requestID : String) :
    Option PendingClarification :=
  ((completedClarificationByRequestID state.clarificationHistory requestID).map fun completed ↦
    ⟨completed.request, completed.answers⟩).or
      (state.pendingClarification.filter fun pending ↦ pending.request.requestID == requestID)

/-- A submission that was accepted, with the checkpoint it was accepted on. -/
structure Acceptance where
  loaded : RuntimeState
  submission : ClarificationResponseSubmission

/-- The answer it was accepted for, in canonical form. -/
def Acceptance.answer (acceptance : Acceptance) : Option ClarificationAnswer := do
  let pending ← acceptance.loaded.pendingClarification
  (canonicalClarificationAnswer pending.request acceptance.submission.question
    acceptance.submission.answer).toOption

/-- The answer last accepted for a question. -/
def lastAnswer (accepted : List Acceptance) (requestID questionID : String) :
    Option ClarificationAnswer :=
  (accepted.reverse.find? fun acceptance ↦
    acceptance.submission.request == requestID &&
      acceptance.submission.question == questionID).bind (·.answer)

/-- What a run remembers of one submission. -/
structure Remembered (state : RuntimeState) (acceptance : Acceptance)
    (pending : PendingClarification) (answer : ClarificationAnswer) : Prop where
  answering : Answering acceptance.loaded acceptance.submission pending answer
  version : 1 ≤ acceptance.submission.expectedStateVersion
  present : runtimeStatusTerminal state.status = true ∨
    (state.record acceptance.submission.request).isSome = true
  request : ∀ record, state.record acceptance.submission.request = some record →
    record.request = pending.request
  completed : acceptance.submission.complete = true →
    ∃ completed ∈ state.clarificationHistory, completed.request = pending.request ∧
      acceptance.submission.question = completed.completionQuestionID ∧
      acceptance.submission.expectedStateVersion = completed.completionExpectedStateVersion ∧
      clarificationAnswerByQuestionID completed.answers acceptance.submission.question =
        some answer

/-- **The invariant.**  Every answer kept is the one last accepted. -/
structure Recorded (accepted : List Acceptance) (state : RuntimeState) : Prop where
  asked : ∀ requestID record, state.record requestID = some record →
    Asked record.request record.answers
  answers : ∀ requestID record, state.record requestID = some record → ∀ questionID,
    clarificationAnswerByQuestionID record.answers questionID =
      lastAnswer accepted requestID questionID
  accepted : ∀ acceptance ∈ accepted, ∃ pending answer,
    Remembered state acceptance pending answer

section

variable {accepted : List Acceptance} {acceptance : Acceptance} {before after : RuntimeState}
  {pending : PendingClarification} {answer : ClarificationAnswer} {requestID questionID : String}

theorem record_of_same (hhistory : after.clarificationHistory = before.clarificationHistory)
    (hpending : after.pendingClarification = before.pendingClarification) :
    after.record requestID = before.record requestID := by
  rw [RuntimeState.record, RuntimeState.record, hhistory, hpending]

theorem record_of_ended (hhistory : after.clarificationHistory = before.clarificationHistory)
    (hpending : after.pendingClarification = none) {record : PendingClarification}
    (h : after.record requestID = some record) : before.record requestID = some record := by
  rw [RuntimeState.record, hhistory, hpending, Option.filter_none, Option.or_none] at h
  rw [RuntimeState.record, h, Option.some_or]

theorem record_of_asked {request : ClarificationDecision}
    (hhistory : after.clarificationHistory = before.clarificationHistory)
    (hbefore : before.pendingClarification = none)
    (hafter : after.pendingClarification = some ⟨request, []⟩)
    (hnew : completedClarificationByRequestID before.clarificationHistory request.requestID =
      none) :
    after.record requestID =
        (if request.requestID = requestID then some ⟨request, []⟩ else before.record requestID) ∧
      before.record request.requestID = none := by
  refine ⟨?_, by rw [RuntimeState.record, hnew, hbefore]; rfl⟩
  rw [RuntimeState.record, hhistory, hafter]
  by_cases hsame : request.requestID = requestID
  · subst hsame
    simp [hnew]
  · simp [hsame, RuntimeState.record, hbefore, Option.filter]

theorem lastAnswer_append :
    lastAnswer (accepted ++ [acceptance]) requestID questionID =
      if acceptance.submission.request = requestID ∧
          acceptance.submission.question = questionID then acceptance.answer
      else lastAnswer accepted requestID questionID := by
  rw [lastAnswer, lastAnswer, List.reverse_append, List.reverse_singleton, List.singleton_append,
    List.find?_cons]
  by_cases hsame : acceptance.submission.request = requestID ∧
      acceptance.submission.question = questionID
  · simp [hsame]
  · have hother : (acceptance.submission.request == requestID &&
        acceptance.submission.question == questionID) = false := by simpa using hsame
    rw [if_neg hsame, hother]

theorem Answering.accepted_answer {submission : ClarificationResponseSubmission}
    (h : Answering before submission pending answer) :
    Acceptance.answer ⟨before, submission⟩ = some answer := by
  rw [Acceptance.answer, h.waiting]
  show (canonicalClarificationAnswer pending.request submission.question
    submission.answer).toOption = some answer
  rw [h.answer]
  rfl

/-- Nothing has been asked yet. -/
theorem Recorded.start {state : RuntimeState} (hhistory : state.clarificationHistory = [])
    (hpending : state.pendingClarification = none) : Recorded [] state := by
  have hnone : ∀ requestID, state.record requestID = none := by
    intro requestID
    rw [RuntimeState.record, hhistory, hpending]
    rfl
  refine ⟨fun requestID record h ↦ ?_, fun requestID record h ↦ ?_, by simp⟩ <;>
  · rw [hnone] at h
    cases h

/-- The requests recorded are among those recorded before. -/
theorem Remembered.of_subset (h : Remembered before acceptance pending answer)
    (hhistory : after.clarificationHistory = before.clarificationHistory)
    (hrecord : ∀ requestID record, after.record requestID = some record →
      before.record requestID = some record)
    (hpresent : runtimeStatusTerminal after.status = true ∨
      (after.record acceptance.submission.request).isSome = true) :
    Remembered after acceptance pending answer :=
  ⟨h.answering, h.version, hpresent, fun record hsome ↦ h.request record (hrecord _ _ hsome),
    fun hcomplete ↦ hhistory ▸ h.completed hcomplete⟩

theorem Recorded.of_subset (h : Recorded accepted before)
    (hhistory : after.clarificationHistory = before.clarificationHistory)
    (hrecord : ∀ requestID record, after.record requestID = some record →
      before.record requestID = some record)
    (hpresent : ∀ requestID, runtimeStatusTerminal before.status = true ∨
      (before.record requestID).isSome = true → runtimeStatusTerminal after.status = true ∨
        (after.record requestID).isSome = true) :
    Recorded accepted after := by
  refine ⟨fun requestID record hsome ↦ h.asked _ _ (hrecord _ _ hsome),
    fun requestID record hsome ↦ h.answers _ _ (hrecord _ _ hsome), fun acceptance hin ↦ ?_⟩
  obtain ⟨pending, answer, hremembered⟩ := h.accepted acceptance hin
  exact ⟨pending, answer, hremembered.of_subset hhistory hrecord
    (hpresent _ hremembered.present)⟩

/-- **The other reducers keep what is recorded.** -/
theorem Recorded.other (h : Recorded accepted before) (hleaves : LeavesAnswers before after)
    (hover : runtimeStatusTerminal before.status = true →
      runtimeStatusTerminal after.status = true) :
    Recorded accepted after := by
  cases hleaves with
  | kept hhistory hpending hstatus =>
    have hsame : ∀ requestID, after.record requestID = before.record requestID :=
      fun requestID ↦ record_of_same hhistory hpending
    refine h.of_subset hhistory (fun requestID record hsome ↦ hsame requestID ▸ hsome)
      fun requestID hpresent ↦ ?_
    rw [hsame]
    exact hpresent.imp_left hover
  | idle hhistory hbefore hafter =>
    have hsame : ∀ requestID, after.record requestID = before.record requestID :=
      fun requestID ↦ record_of_same hhistory (hafter.trans hbefore.symm)
    refine h.of_subset hhistory (fun requestID record hsome ↦ hsame requestID ▸ hsome)
      fun requestID hpresent ↦ ?_
    rw [hsame]
    exact hpresent.imp_left hover
  | ended hhistory hafter hterminal =>
    exact h.of_subset hhistory (fun requestID record hsome ↦ record_of_ended hhistory hafter hsome)
      fun requestID _ ↦ .inl hterminal
  | asked request hhistory hbefore hactive hafter hnew =>
    have hrecord : ∀ requestID, after.record requestID =
        (if request.requestID = requestID then some ⟨request, []⟩ else before.record requestID) ∧
          before.record request.requestID = none :=
      fun _ ↦ record_of_asked hhistory hbefore hafter hnew
    have hfresh : ∀ acceptance ∈ accepted, request.requestID ≠ acceptance.submission.request := by
      intro acceptance hin hsame
      obtain ⟨pending, answer, hremembered⟩ := h.accepted acceptance hin
      rcases hremembered.present with hterminal | hsome
      · rw [hactive] at hterminal
        cases hterminal
      · rw [← hsame, (hrecord "").2] at hsome
        cases hsome
    have hnever : ∀ questionID, lastAnswer accepted request.requestID questionID = none := by
      intro questionID
      rw [lastAnswer, List.find?_eq_none.mpr, Option.bind_none]
      intro acceptance hin hkey
      rw [Bool.and_eq_true, beq_iff_eq] at hkey
      exact hfresh acceptance (List.mem_reverse.mp hin) hkey.1.symm
    refine ⟨fun requestID record hsome ↦ ?_, fun requestID record hsome questionID ↦ ?_,
      fun acceptance hin ↦ ?_⟩
    · rw [(hrecord requestID).1] at hsome
      split at hsome
      · cases hsome
        simp [Asked]
      · exact h.asked _ _ hsome
    · rw [(hrecord requestID).1] at hsome
      split at hsome
      next hsame =>
        cases hsome
        rw [← hsame, hnever]
        rfl
      next hne => exact h.answers _ _ hsome questionID
    · obtain ⟨pending, answer, hremembered⟩ := h.accepted acceptance hin
      have hsame : after.record acceptance.submission.request =
          before.record acceptance.submission.request := by
        rw [(hrecord _).1, if_neg (hfresh acceptance hin)]
      refine ⟨pending, answer, hremembered.answering, hremembered.version, ?_, ?_,
        fun hcomplete ↦ hhistory ▸ hremembered.completed hcomplete⟩
      · rw [hsame]
        exact hremembered.present.imp_left hover
      · rw [hsame]
        exact hremembered.request

/-- **One more submission is recorded.** -/
theorem Recorded.extend (h : Recorded accepted before)
    {submission : ClarificationResponseSubmission}
    (hanswering : Answering before submission pending answer)
    (hwellFormed : WellFormed pending.request pending.answers)
    (hactive : runtimeStatusTerminal before.status = false)
    (hversion : 1 ≤ submission.expectedStateVersion)
    (hbefore : before.record submission.request = some pending)
    (hafter : ∀ requestID, after.record requestID =
      if submission.request = requestID then
        some ⟨pending.request, upsertClarificationAnswer pending.request pending.answers answer⟩
      else before.record requestID)
    (hhistory : before.clarificationHistory ⊆ after.clarificationHistory)
    (hcompleted : submission.complete = true →
      ∃ completed ∈ after.clarificationHistory, completed.request = pending.request ∧
        submission.question = completed.completionQuestionID ∧
        submission.expectedStateVersion = completed.completionExpectedStateVersion ∧
        clarificationAnswerByQuestionID completed.answers submission.question = some answer) :
    Recorded (accepted ++ [⟨before, submission⟩]) after := by
  have hquestion : answer.questionID = submission.question :=
    (canonicalClarificationAnswer_trimmed hanswering.answer (trimSpace_trimSpace _)
      hwellFormed.checked).1
  have hknown : ∃ question ∈ pending.request.questions, question.id = answer.questionID := by
    rw [hquestion]
    exact (bounded_of_canonical (trimSpace_trimSpace _) hwellFormed.checked hanswering.answer).2
  have hanswer := hanswering.accepted_answer
  refine ⟨fun requestID record hsome ↦ ?_, fun requestID record hsome questionID ↦ ?_,
    fun acceptance hin ↦ ?_⟩
  · rw [hafter] at hsome
    split at hsome
    · cases hsome
      exact .upsert
    · exact h.asked _ _ hsome
  · rw [hafter] at hsome
    rw [lastAnswer_append, hanswer]
    split at hsome
    next hsame =>
      cases hsome
      rw [lookup_upsert (h.asked _ _ hbefore) hwellFormed.nodup hknown, hquestion,
        h.answers _ _ hbefore, ← hsame]
      simp
    next hne =>
      rw [if_neg fun hboth ↦ hne hboth.1]
      exact h.answers _ _ hsome questionID
  · rcases List.mem_append.mp hin with hold | hnew
    · obtain ⟨asked, given, hremembered⟩ := h.accepted acceptance hold
      refine ⟨asked, given, hremembered.answering, hremembered.version, .inr ?_,
        fun record hsome ↦ ?_, fun hcomplete ↦ ?_⟩
      · rw [hafter]
        split
        · rfl
        · refine hremembered.present.resolve_left ?_
          simp [hactive]
      · rw [hafter] at hsome
        split at hsome
        next hsame =>
          cases hsome
          exact hremembered.request pending (hsame ▸ hbefore)
        next hne => exact hremembered.request record hsome
      · obtain ⟨completed, hmem, hrest⟩ := hremembered.completed hcomplete
        exact ⟨completed, hhistory hmem, hrest⟩
    · cases List.mem_singleton.mp hnew
      refine ⟨pending, answer, hanswering, hversion, .inr ?_, fun record hsome ↦ ?_, hcompleted⟩
      · rw [hafter, if_pos rfl]
        rfl
      · rw [hafter, if_pos rfl] at hsome
        cases hsome
        rfl

end

section

variable {ctx : RuntimeContext} {accepted : List Acceptance} {acceptance : Acceptance}
  {state : RuntimeState} {submission : ClarificationResponseSubmission}
  {transition : RuntimeTransition} {pending : PendingClarification}
  {completed : CompletedClarification} {answer : ClarificationAnswer}

theorem completed_of_mem (hsound : Sound ctx state.trimmed)
    (hin : completed ∈ state.clarificationHistory) {requestID : String}
    (hrequest : completed.request.requestID = requestID) :
    completedClarificationByRequestID state.clarificationHistory requestID = some completed :=
  find_eq_of_nodup hsound.clarification.history.nodup hin hrequest

/-- The pending request has not been completed before. -/
theorem completed_of_pending (hsound : Sound ctx state.trimmed)
    (hpending : state.pendingClarification = some pending) :
    completedClarificationByRequestID state.clarificationHistory pending.request.requestID =
      none :=
  List.find?_eq_none.mpr fun completed hin hkey ↦
    (hsound.clarification.pending pending hpending).fresh
      (List.mem_map.mpr ⟨completed, hin, beq_iff_eq.mp hkey⟩)

theorem record_of_pending (hsound : Sound ctx state.trimmed)
    (hpending : state.pendingClarification = some pending) :
    state.record pending.request.requestID = some pending := by
  rw [RuntimeState.record, completed_of_pending hsound hpending, hpending]
  simp

theorem record_of_completed (hsound : Sound ctx state.trimmed)
    (hin : completed ∈ state.clarificationHistory) :
    state.record completed.request.requestID = some ⟨completed.request, completed.answers⟩ := by
  rw [RuntimeState.record, completed_of_mem hsound hin rfl]
  rfl

theorem status_of_pending (hsound : Sound ctx state.trimmed)
    (hpending : state.pendingClarification = some pending) : state.status = .waitingInput := by
  by_contra hidle
  have hnone : state.pendingClarification = none := hsound.clarification.idle hidle
  rw [hpending] at hnone
  cases hnone

/-- **An accepted submission is recorded.** -/
theorem Recorded.submitted (h : Recorded accepted state) (hsound : Sound ctx state.trimmed)
    (hsubmitted : Submitted state submission (transition, false)) :
    Recorded (accepted ++ [⟨state, submission⟩]) transition.state := by
  have hcurrent : 1 ≤ state.stateVersion := hsound.version
  cases hsubmitted with
  | saved pending answer hanswering hversion hopen hchanged =>
    have hfacts := hsound.clarification.pending pending hanswering.waiting
    have hstatus := status_of_pending hsound hanswering.waiting
    have hbefore := record_of_pending hsound hanswering.waiting
    rw [hanswering.request] at hbefore
    refine h.extend hanswering hfacts.wellFormed (by simp [hstatus, runtimeStatusTerminal])
      (hversion ▸ hcurrent) hbefore (fun requestID ↦ ?_) (List.Subset.refl _)
      fun hcomplete ↦ absurd hcomplete (by simp [hopen])
    have hfresh := completed_of_pending hsound hanswering.waiting
    rw [hanswering.request] at hfresh
    by_cases hsame : submission.request = requestID
    · subst hsame
      simp [RuntimeState.record, RuntimeState.trimmed, hfresh, hanswering.request]
    · simp [RuntimeState.record, RuntimeState.trimmed, hanswering.request, hanswering.waiting,
        hsame, Option.filter]
  | resumed pending answer eventKinds hevents hanswering hversion hcomplete hanswered =>
    have hfacts := hsound.clarification.pending pending hanswering.waiting
    have hstatus := status_of_pending hsound hanswering.waiting
    have hbefore := record_of_pending hsound hanswering.waiting
    rw [hanswering.request] at hbefore
    have hfresh := completed_of_pending hsound hanswering.waiting
    rw [hanswering.request] at hfresh
    refine h.extend hanswering hfacts.wellFormed (by simp [hstatus, runtimeStatusTerminal])
      (hversion ▸ hcurrent) hbefore (fun requestID ↦ ?_) (List.subset_append_left _ _)
      fun _ ↦ ⟨_, List.mem_append_right _ (List.mem_singleton_self _), rfl, rfl, rfl, ?_⟩
    · by_cases hsame : submission.request = requestID
      · subst hsame
        have hfound := hfresh
        rw [completedClarificationByRequestID] at hfound
        simp [RuntimeState.record, completedClarificationByRequestID, hfound, hanswering.request]
      · simp [RuntimeState.record, completedClarificationByRequestID, hanswering.request,
          hanswering.waiting, hsame, Option.filter]
    · have hquestion : answer.questionID = submission.question :=
        (canonicalClarificationAnswer_trimmed hanswering.answer (trimSpace_trimSpace _)
          hfacts.wellFormed.checked).1
      rw [lookup_upsert (h.asked _ _ hbefore) hfacts.wellFormed.nodup, if_pos hquestion]
      rw [hquestion]
      exact (bounded_of_canonical (trimSpace_trimSpace _) hfacts.wellFormed.checked
        hanswering.answer).2

/-- **A partial submission is a replay** while its request is pending and its answer kept. -/
theorem Recorded.keptAgain (h : Recorded accepted state) (hsound : Sound ctx state.trimmed)
    (hin : acceptance ∈ accepted) (hopen : acceptance.submission.complete = false)
    (hpending : state.pendingClarification = some pending)
    (hrequest : pending.request.requestID = acceptance.submission.request)
    (hlast : lastAnswer accepted acceptance.submission.request acceptance.submission.question =
      acceptance.answer) :
    Submitted state acceptance.submission ({ state := state.trimmed }, true) := by
  obtain ⟨asked, answer, hremembered⟩ := h.accepted acceptance hin
  have hrecord := record_of_pending hsound hpending
  rw [hrequest] at hrecord
  have hanswering : Answering state acceptance.submission pending answer :=
    ⟨hpending, hrequest, hremembered.request pending hrecord ▸ hremembered.answering.answer⟩
  refine .kept pending answer hanswering hremembered.version hopen ?_
  rw [h.answers _ _ hrecord, hlast, hremembered.answering.accepted_answer]

/-- **A completing submission is a replay** for ever. -/
theorem Recorded.completedAgain (h : Recorded accepted state) (hsound : Sound ctx state.trimmed)
    (hin : acceptance ∈ accepted) (hcomplete : acceptance.submission.complete = true) :
    Submitted state acceptance.submission ({ state := state.trimmed }, true) := by
  obtain ⟨asked, answer, hremembered⟩ := h.accepted acceptance hin
  obtain ⟨completed, hmem, hrequest, hquestion, hversion, hkept⟩ :=
    hremembered.completed hcomplete
  have hanswer := hremembered.answering.answer
  rw [← hrequest] at hanswer
  exact .completed completed answer
    (completed_of_mem hsound hmem (hrequest ▸ hremembered.answering.request)) hcomplete hquestion
    hversion hanswer hkept

end

end HMaigc.AgentRuntime
