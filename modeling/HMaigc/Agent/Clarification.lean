import HMaigc.Agent.Decision

/-!
# Answering a request for clarification

`agentruntime/clarification.go`, without the reducer: the canonical form of an answer, the answers
kept for a request, and what makes a pending or a completed record well formed.

A record is checked against the *trimmed* request, an answer is put into canonical form against the
request as it is stored.  The two agree on every answer that is accepted
(`canonicalClarificationAnswer_trimmed`), so keeping one more answer keeps the record well formed
(`validateClarificationRecord_upsert`).
-/

set_option autoImplicit false

namespace HMaigc.AgentRuntime

open Go

def errClarificationAnswerInvalid : String := "agent clarification answer is invalid"

def errClarificationConflict : String := "agent clarification facts conflict"

def errClarificationIdentityReused : String := "agent clarification identity is reused"

def errClarificationIncomplete : String := "agent clarification response is incomplete"

def errClarificationNotPending : String := "agent clarification is not pending"

def errClarificationVersionConflict : String := "agent clarification state version conflicts"

def clarificationCustomTextLimit : ℕ := 1000

structure ClarificationAnswerInput where
  selectedOptionIDs : List String := []
  customText : String := ""
  skipped : Bool := false

structure ClarificationAnswer where
  questionID : String
  selectedOptionIDs : List String := []
  customText : String := ""
  skipped : Bool := false
  deriving DecidableEq

/-- The answer as it was submitted. -/
def ClarificationAnswer.input (answer : ClarificationAnswer) : ClarificationAnswerInput :=
  ⟨answer.selectedOptionIDs, answer.customText, answer.skipped⟩

structure PendingClarification where
  request : ClarificationDecision
  answers : List ClarificationAnswer

structure CompletedClarification where
  request : ClarificationDecision
  answers : List ClarificationAnswer
  completionQuestionID : String
  completionExpectedStateVersion : ℤ

/-! ## Canonical answers -/

def clarificationQuestionByID (questions : List ClarificationQuestion) (questionID : String) :
    Option ClarificationQuestion :=
  questions.find? (·.id == questionID)

def clarificationAnswerByQuestionID (answers : List ClarificationAnswer) (questionID : String) :
    Option ClarificationAnswer :=
  answers.find? (·.questionID == questionID)

/-- The selected options in the order of the question; `selected` are those still to be found. -/
def orderedOptions : List ClarificationOption → List String → Except String (List String)
  | [], [] => .ok []
  | [], _ :: _ => .error errClarificationAnswerInvalid
  | option :: rest, selected =>
    if option.id ∈ selected then do
      return option.id :: (← orderedOptions rest (selected.erase option.id))
    else orderedOptions rest selected

def canonicalSelectedOptions (question : ClarificationQuestion) (selectedIDs : List String) :
    Except String (List String) := do
  checkDistinct id (fun id ↦ if id = "" then .error errClarificationAnswerInvalid else .ok ())
    errClarificationAnswerInvalid (fun _ ↦ .ok ()) [] (selectedIDs.map trimSpace)
  orderedOptions question.options (selectedIDs.map trimSpace)

/-- The canonical answer to a question with options. -/
def canonicalChoice (question : ClarificationQuestion) (customText : String)
    (selectedIDs : List String) : Except String ClarificationAnswer := do
  let selected ← canonicalSelectedOptions question selectedIDs
  if question.type = .singleChoice ∧ selected.length > 1 then
    .error errClarificationAnswerInvalid
  else if customText ≠ "" ∧ question.allowCustomAnswer = false then
    .error errClarificationAnswerInvalid
  else if selected = [] ∧ customText = "" then .error errClarificationAnswerInvalid
  else .ok { questionID := question.id, customText, selectedOptionIDs := selected }

/-- The canonical answer to one question. -/
def canonicalAnswerTo (question : ClarificationQuestion) (input : ClarificationAnswerInput) :
    Except String ClarificationAnswer :=
  let customText := trimSpace input.customText
  if customText.length > clarificationCustomTextLimit then .error errClarificationAnswerInvalid
  else if input.skipped then
    if input.selectedOptionIDs ≠ [] ∨ customText ≠ "" then .error errClarificationAnswerInvalid
    else .ok { questionID := question.id, skipped := true }
  else
    match question.type with
    | .freeText =>
      if input.selectedOptionIDs ≠ [] ∨ customText = "" then .error errClarificationAnswerInvalid
      else .ok { questionID := question.id, customText }
    | .singleChoice | .multiChoice =>
      canonicalChoice question customText input.selectedOptionIDs
    | .other _ => .error errClarificationAnswerInvalid

def canonicalClarificationAnswer (request : ClarificationDecision) (questionID : String)
    (input : ClarificationAnswerInput) : Except String ClarificationAnswer :=
  match clarificationQuestionByID request.questions questionID with
  | none => .error errClarificationAnswerInvalid
  | some question => canonicalAnswerTo question input

/-! ## Records -/

def clarificationAnswersComplete (request : ClarificationDecision)
    (answers : List ClarificationAnswer) : Bool :=
  answers.length == request.questions.length &&
    request.questions.all fun question ↦
      (clarificationAnswerByQuestionID answers question.id).isSome

/-- The stored answer is the canonical form of itself. -/
def checkStoredAnswer (request : ClarificationDecision) (stored : ClarificationAnswer) :
    Except String Unit :=
  match canonicalClarificationAnswer request stored.questionID stored.input with
  | .error _ => .error errClarificationAnswerInvalid
  | .ok canonical =>
    if canonical ≠ stored then .error errClarificationAnswerInvalid else .ok ()

def validateClarificationRecord (request : ClarificationDecision)
    (answers : List ClarificationAnswer) (requireComplete : Bool) : Except String Unit := do
  let requestCopy ← request.validate
  checkDistinct (·.questionID) (fun _ ↦ .ok ()) errClarificationAnswerInvalid
    (checkStoredAnswer requestCopy) [] answers
  if requireComplete ∧ clarificationAnswersComplete requestCopy answers = false then
    .error errClarificationIncomplete
  else .ok ()

def validateCompletedClarification (completed : CompletedClarification) : Except String Unit := do
  validateClarificationRecord completed.request completed.answers true
  if boundedDecisionText completed.completionQuestionID 120 = false ∨
      completed.completionExpectedStateVersion < 1 then
    .error errClarificationAnswerInvalid
  else if clarificationAnswerByQuestionID completed.answers completed.completionQuestionID =
      none then
    .error errClarificationAnswerInvalid
  else .ok ()

/-- The answers with one more, in the order of the questions; the last one to a question counts. -/
def upsertClarificationAnswer (request : ClarificationDecision)
    (answers : List ClarificationAnswer) (answer : ClarificationAnswer) :
    List ClarificationAnswer :=
  request.questions.filterMap fun question ↦
    clarificationAnswerByQuestionID (answer :: answers.reverse) question.id

def completedClarificationByRequestID (history : List CompletedClarification)
    (requestID : String) : Option CompletedClarification :=
  history.find? (·.request.requestID == requestID)

/-! ## The canonical form does not depend on the spelling of the request -/

/-- The element with a given key, where the keys are distinct. -/
theorem find_eq_of_nodup {α : Type} {key : α → String} {l : List α} (hnodup : (l.map key).Nodup)
    {a : α} (ha : a ∈ l) {k : String} (hk : key a = k) :
    l.find? (fun x ↦ key x == k) = some a := by
  induction l with
  | nil => cases ha
  | cons b l ih =>
    rw [List.map_cons, List.nodup_cons] at hnodup
    rcases List.mem_cons.mp ha with rfl | ha
    · simp [hk]
    · have hne : key b ≠ k := by
        rintro rfl
        exact hnodup.1 (hk ▸ List.mem_map_of_mem ha)
      simp [hne, ih hnodup.2 ha]

theorem mem_of_orderedOptions {options : List ClarificationOption} {selected ordered : List String}
    (h : orderedOptions options selected = .ok ordered) {id : String} (hid : id ∈ ordered) :
    id ∈ selected ∧ id ∈ options.map (·.id) := by
  induction options generalizing selected ordered with
  | nil =>
    cases selected with
    | nil =>
      cases h
      cases hid
    | cons s rest => cases h
  | cons option options ih =>
    rw [orderedOptions] at h
    by_cases hmem : option.id ∈ selected
    · rw [if_pos hmem] at h
      obtain ⟨tail, htail, h⟩ := bind_eq_ok.mp h
      cases pure_eq_ok.mp h
      rcases List.mem_cons.mp hid with rfl | hid
      · exact ⟨hmem, .head _⟩
      · obtain ⟨hselected, hoption⟩ := ih htail hid
        exact ⟨List.mem_of_mem_erase hselected, .tail _ hoption⟩
    · rw [if_neg hmem] at h
      obtain ⟨hselected, hoption⟩ := ih h hid
      exact ⟨hselected, .tail _ hoption⟩

/-- Selecting what was selected, among the trimmed options. -/
theorem orderedOptions_trimmed {options : List ClarificationOption} {selected ordered : List String}
    (h : orderedOptions options selected = .ok ordered)
    (hnodup : (options.map (·.trimmed.id)).Nodup) (htrim : ∀ id ∈ selected, trimSpace id = id) :
    orderedOptions (options.map (·.trimmed)) ordered = .ok ordered := by
  induction options generalizing selected ordered with
  | nil =>
    cases selected with
    | nil =>
      cases h
      rfl
    | cons s rest => cases h
  | cons option options ih =>
    rw [List.map_cons, List.nodup_cons] at hnodup
    rw [orderedOptions] at h
    rw [List.map_cons, orderedOptions]
    by_cases hmem : option.id ∈ selected
    · rw [if_pos hmem] at h
      obtain ⟨tail, htail, h⟩ := bind_eq_ok.mp h
      cases pure_eq_ok.mp h
      have hid : option.trimmed.id = option.id := htrim _ hmem
      rw [hid, if_pos (.head _), List.erase_cons_head, bind_eq_ok]
      exact ⟨tail, ih htail hnodup.2 fun id hid ↦ htrim id (List.mem_of_mem_erase hid), rfl⟩
    · rw [if_neg hmem] at h
      have hnot : option.trimmed.id ∉ ordered := fun hin ↦ by
        obtain ⟨hselected, hoption⟩ := mem_of_orderedOptions h hin
        obtain ⟨other, hother, hsame⟩ := List.mem_map.mp hoption
        refine hnodup.1 (List.mem_map.mpr ⟨other, hother, ?_⟩)
        show trimSpace other.id = _
        rw [hsame, htrim _ hselected]
      rw [if_neg hnot]
      exact ih h hnodup.2 htrim

theorem nodup_of_orderedOptions {options : List ClarificationOption} {selected ordered : List String}
    (h : orderedOptions options selected = .ok ordered) (hnodup : selected.Nodup) :
    ordered.Nodup := by
  induction options generalizing selected ordered with
  | nil =>
    cases selected with
    | nil =>
      cases h
      exact List.nodup_nil
    | cons s rest => cases h
  | cons option options ih =>
    rw [orderedOptions] at h
    by_cases hmem : option.id ∈ selected
    · rw [if_pos hmem] at h
      obtain ⟨tail, htail, h⟩ := bind_eq_ok.mp h
      cases pure_eq_ok.mp h
      refine List.nodup_cons.mpr ⟨fun hin ↦ ?_, ih htail (hnodup.erase _)⟩
      exact hnodup.not_mem_erase (mem_of_orderedOptions htail hin).1
    · rw [if_neg hmem] at h
      exact ih h hnodup

theorem canonicalSelectedOptions_trimmed {question : ClarificationQuestion}
    {selectedIDs ordered : List String}
    (h : canonicalSelectedOptions question selectedIDs = .ok ordered)
    (hnodup : (question.trimmed.options.map (·.id)).Nodup) :
    canonicalSelectedOptions question.trimmed ordered = .ok ordered := by
  obtain ⟨_, hcheck, hordered⟩ := bind_eq_ok.mp h
  obtain ⟨hall, hdistinct, -⟩ := checkDistinct_eq_ok.mp hcheck
  have htrim : ∀ id ∈ selectedIDs.map trimSpace, trimSpace id = id := by
    intro id hid
    obtain ⟨raw, -, rfl⟩ := List.mem_map.mp hid
    exact trimSpace_trimSpace raw
  have hsame : ordered.map trimSpace = ordered :=
    (List.map_congr_left fun id hid ↦ htrim id (mem_of_orderedOptions hordered hid).1).trans
      (List.map_id _)
  refine bind_eq_ok.mpr ⟨(), checkDistinct_eq_ok.mpr ⟨?_, ?_, by simp⟩, ?_⟩
  · intro id hid
    rw [hsame] at hid
    exact hall id (mem_of_orderedOptions hordered hid).1
  · rw [hsame, List.map_id]
    exact nodup_of_orderedOptions hordered (by rwa [List.map_id] at hdistinct)
  · rw [hsame]
    refine orderedOptions_trimmed hordered ?_ htrim
    simpa [ClarificationQuestion.trimmed, Function.comp_def] using hnodup

theorem canonicalChoice_trimmed {question : ClarificationQuestion} {customText : String}
    {selectedIDs : List String} {answer : ClarificationAnswer}
    (h : canonicalChoice question customText selectedIDs = .ok answer)
    (hid : trimSpace question.id = question.id)
    (hnodup : (question.trimmed.options.map (·.id)).Nodup) :
    answer.skipped = false ∧ answer.customText = customText ∧
      canonicalChoice question.trimmed customText answer.selectedOptionIDs = .ok answer := by
  obtain ⟨selected, hselected, h⟩ := bind_eq_ok.mp h
  obtain ⟨hsingle, hrest⟩ := refuse_eq_ok.mp h
  obtain ⟨hcustom, hrest⟩ := refuse_eq_ok.mp hrest
  obtain ⟨hempty, hrest⟩ := refuse_eq_ok.mp hrest
  cases hrest
  refine ⟨rfl, rfl, bind_eq_ok.mpr ⟨selected, canonicalSelectedOptions_trimmed hselected hnodup, ?_⟩⟩
  have htrimmed : question.trimmed.id = question.id := hid
  rw [refuse_eq_ok, refuse_eq_ok, refuse_eq_ok, htrimmed]
  exact ⟨hsingle, hcustom, hempty, rfl⟩

/-- **Canonical answers are canonical for the trimmed question.** -/
theorem canonicalAnswerTo_trimmed {question : ClarificationQuestion}
    {input : ClarificationAnswerInput} {answer : ClarificationAnswer}
    (h : canonicalAnswerTo question input = .ok answer) (hid : trimSpace question.id = question.id)
    (hnodup : (question.trimmed.options.map (·.id)).Nodup) :
    canonicalAnswerTo question.trimmed answer.input = .ok answer := by
  rw [canonicalAnswerTo, refuse_eq_ok] at h
  obtain ⟨hlength, h⟩ := h
  have htrimmed : question.trimmed.id = question.id := hid
  by_cases hskipped : input.skipped = true
  · rw [if_pos hskipped, refuse_eq_ok] at h
    cases h.2
    simp [canonicalAnswerTo, ClarificationAnswer.input, trimSpace_empty, htrimmed]
  · rw [if_neg hskipped] at h
    have htype : question.trimmed.type = question.type := rfl
    rw [canonicalAnswerTo, htype]
    cases hkind : question.type with
    | freeText =>
      simp only [hkind] at h
      obtain ⟨hgiven, h⟩ := refuse_eq_ok.mp h
      cases h
      simp only [ClarificationAnswer.input, trimSpace_trimSpace, htrimmed]
      rw [refuse_eq_ok, if_neg Bool.false_ne_true, refuse_eq_ok]
      exact ⟨hlength, fun hnot ↦ hgiven (hnot.imp_left fun hne ↦ absurd rfl hne), rfl⟩
    | singleChoice | multiChoice =>
      simp only [hkind] at h
      obtain ⟨hanswered, hcustom, hchoice⟩ := canonicalChoice_trimmed h hid hnodup
      simp only [ClarificationAnswer.input, hanswered, hcustom, trimSpace_trimSpace]
      rw [refuse_eq_ok, if_neg Bool.false_ne_true]
      exact ⟨hlength, hchoice⟩
    | other name =>
      simp only [hkind] at h
      cases h

theorem questionID_of_canonical {question : ClarificationQuestion}
    {input : ClarificationAnswerInput} {answer : ClarificationAnswer}
    (h : canonicalAnswerTo question input = .ok answer) : answer.questionID = question.id := by
  rw [canonicalAnswerTo, refuse_eq_ok] at h
  by_cases hskipped : input.skipped = true
  · rw [if_pos hskipped, refuse_eq_ok] at h
    cases h.2.2
    rfl
  · rw [if_neg hskipped] at h
    cases hkind : question.type with
    | freeText =>
      simp only [hkind] at h
      cases (refuse_eq_ok.mp h.2).2
      rfl
    | singleChoice | multiChoice =>
      simp only [hkind] at h
      obtain ⟨selected, -, h⟩ := bind_eq_ok.mp h.2
      rw [refuse_eq_ok, refuse_eq_ok, refuse_eq_ok] at h
      cases h.2.2.2
      rfl
    | other name =>
      simp only [hkind] at h
      cases h.2

theorem canonicalClarificationAnswer_trimmed {request : ClarificationDecision} {questionID : String}
    {input : ClarificationAnswerInput} {answer : ClarificationAnswer}
    (h : canonicalClarificationAnswer request questionID input = .ok answer)
    (hid : trimSpace questionID = questionID) (hrequest : request.trimmed.Checked) :
    answer.questionID = questionID ∧
      canonicalClarificationAnswer request.trimmed questionID answer.input = .ok answer := by
  rw [canonicalClarificationAnswer] at h
  cases hfound : clarificationQuestionByID request.questions questionID with
  | none =>
    rw [hfound] at h
    cases h
  | some question =>
    simp only [hfound] at h
    have hquestion : question.id = questionID := by simpa using List.find?_some hfound
    have hmem : question.trimmed ∈ request.trimmed.questions :=
      List.mem_map_of_mem (List.mem_of_find?_eq_some hfound)
    have htrimmed : clarificationQuestionByID request.trimmed.questions questionID =
        some question.trimmed :=
      find_eq_of_nodup hrequest.questions hmem (by rw [← hid, ← hquestion]; rfl)
    refine ⟨(questionID_of_canonical h).trans hquestion, ?_⟩
    rw [canonicalClarificationAnswer, htrimmed]
    exact canonicalAnswerTo_trimmed h (by rw [hquestion, hid]) (hrequest.options _ hmem)

/-! ## Well-formed records -/

/-- Every answer of the record is in canonical form, and answers a question of its own. -/
structure WellFormed (request : ClarificationDecision) (answers : List ClarificationAnswer) :
    Prop where
  check : request.trimmed.check = .ok ()
  nodup : (answers.map (·.questionID)).Nodup
  canonical : ∀ stored ∈ answers,
    canonicalClarificationAnswer request.trimmed stored.questionID stored.input = .ok stored

theorem checkStoredAnswer_eq_ok {request : ClarificationDecision} {stored : ClarificationAnswer} :
    checkStoredAnswer request stored = .ok () ↔
      canonicalClarificationAnswer request stored.questionID stored.input = .ok stored := by
  rw [checkStoredAnswer]
  cases h : canonicalClarificationAnswer request stored.questionID stored.input with
  | error e => simp
  | ok canonical => simp

theorem validateClarificationRecord_eq_ok {request : ClarificationDecision}
    {answers : List ClarificationAnswer} {requireComplete : Bool} :
    validateClarificationRecord request answers requireComplete = .ok () ↔
      WellFormed request answers ∧
        (requireComplete = true → clarificationAnswersComplete request.trimmed answers = true) := by
  rw [validateClarificationRecord, bind_eq_ok]
  constructor
  · rintro ⟨requestCopy, hvalid, h⟩
    obtain ⟨hcheck, rfl⟩ := ClarificationDecision.validate_eq_ok.mp hvalid
    obtain ⟨_, hanswers, h⟩ := bind_eq_ok.mp h
    obtain ⟨hall, hnodup, -⟩ := checkDistinct_eq_ok.mp hanswers
    obtain ⟨hcomplete, -⟩ := refuse_eq_ok.mp h
    refine ⟨⟨hcheck, hnodup, fun stored hstored ↦
      checkStoredAnswer_eq_ok.mp (hall stored hstored).2⟩, fun hrequire ↦ ?_⟩
    simpa [hrequire] using hcomplete
  · rintro ⟨h, hcomplete⟩
    refine ⟨_, ClarificationDecision.validate_eq_ok.mpr ⟨h.check, rfl⟩, bind_eq_ok.mpr ⟨(), ?_, ?_⟩⟩
    · exact checkDistinct_eq_ok.mpr ⟨fun stored hstored ↦
        ⟨rfl, checkStoredAnswer_eq_ok.mpr (h.canonical stored hstored)⟩, h.nodup, by simp⟩
    · refine refuse_eq_ok.mpr ⟨fun hnot ↦ ?_, rfl⟩
      rw [hcomplete hnot.1] at hnot
      cases hnot.2

namespace WellFormed

variable {request : ClarificationDecision} {answers : List ClarificationAnswer}

theorem checked (h : WellFormed request answers) : request.trimmed.Checked :=
  ClarificationDecision.checked_of_check h.check

/-- The record of a request nobody has answered. -/
theorem nil (hcheck : request.trimmed.check = .ok ()) : WellFormed request [] :=
  ⟨hcheck, List.nodup_nil, by simp⟩

/-- The questions of the request are distinct as they are stored, too. -/
theorem nodup_questions (h : WellFormed request answers) :
    (request.questions.map (·.id)).Nodup := by
  have htrimmed : (request.questions.map fun question ↦ trimSpace question.id).Nodup := by
    have hnodup := h.checked.questions
    rwa [ClarificationDecision.trimmed, List.map_map] at hnodup
  refine List.Nodup.of_map trimSpace ?_
  rwa [List.map_map]

theorem questionID_mem (h : WellFormed request answers) {stored : ClarificationAnswer}
    (hstored : stored ∈ answers) :
    ∃ question ∈ request.questions, trimSpace question.id = stored.questionID := by
  have hcanonical := h.canonical stored hstored
  rw [canonicalClarificationAnswer] at hcanonical
  cases hfound : clarificationQuestionByID request.trimmed.questions stored.questionID with
  | none =>
    rw [hfound] at hcanonical
    cases hcanonical
  | some question =>
    obtain ⟨raw, hraw, rfl⟩ := List.mem_map.mp (List.mem_of_find?_eq_some hfound)
    have hkey : raw.trimmed.id = stored.questionID := by simpa using List.find?_some hfound
    exact ⟨raw, hraw, hkey⟩

/-- **Keeping one more answer keeps the record well formed.** -/
theorem upsert (h : WellFormed request answers) {questionID : String}
    {input : ClarificationAnswerInput} {answer : ClarificationAnswer}
    (hanswer : canonicalClarificationAnswer request questionID input = .ok answer)
    (hid : trimSpace questionID = questionID) :
    WellFormed request (upsertClarificationAnswer request answers answer) := by
  obtain ⟨hquestion, hcanonical⟩ := canonicalClarificationAnswer_trimmed hanswer hid h.checked
  have hmem : ∀ stored ∈ upsertClarificationAnswer request answers answer,
      stored = answer ∨ stored ∈ answers := by
    intro stored hstored
    obtain ⟨question, -, hfound⟩ := List.mem_filterMap.mp hstored
    simpa using List.mem_of_find?_eq_some hfound
  have hkeys : List.Sublist ((upsertClarificationAnswer request answers answer).map (·.questionID))
      (request.questions.map (·.id)) := by
    rw [upsertClarificationAnswer]
    induction request.questions with
    | nil => exact List.Sublist.slnil
    | cons question questions ih =>
      cases hfound : clarificationAnswerByQuestionID (answer :: answers.reverse) question.id with
      | none =>
        simp only [List.filterMap_cons, hfound, List.map_cons]
        exact ih.cons _
      | some stored =>
        have hkey : stored.questionID = question.id := by simpa using List.find?_some hfound
        simp only [List.filterMap_cons, hfound, List.map_cons, hkey]
        exact ih.cons_cons _
  refine ⟨h.check, h.nodup_questions.sublist hkeys, fun stored hstored ↦ ?_⟩
  rcases hmem stored hstored with rfl | hold
  · rw [hquestion]
    exact hcanonical
  · exact h.canonical stored hold

/-- A record complete for the stored request is complete for the trimmed one. -/
theorem complete_trimmed (h : WellFormed request answers)
    (hcomplete : clarificationAnswersComplete request answers = true) :
    clarificationAnswersComplete request.trimmed answers = true := by
  rw [clarificationAnswersComplete, Bool.and_eq_true, List.all_eq_true] at hcomplete ⊢
  obtain ⟨hlength, hanswered⟩ := hcomplete
  refine ⟨by simpa [ClarificationDecision.trimmed] using hlength, fun question hquestion ↦ ?_⟩
  obtain ⟨raw, hraw, rfl⟩ := List.mem_map.mp hquestion
  have hsome := hanswered raw hraw
  obtain ⟨stored, hstored⟩ := Option.isSome_iff_exists.mp hsome
  have hkey : stored.questionID = raw.id := by simpa using List.find?_some hstored
  obtain ⟨other, -, hother⟩ := h.questionID_mem (List.mem_of_find?_eq_some hstored)
  have hid : raw.trimmed.id = raw.id := by
    show trimSpace raw.id = raw.id
    rw [← hkey, ← hother, trimSpace_trimSpace]
  rw [hid]
  exact hsome

end WellFormed

/-- The answer just kept is found. -/
theorem answerByQuestionID_upsert {request : ClarificationDecision}
    {answers : List ClarificationAnswer} {questionID : String} {input : ClarificationAnswerInput}
    {answer : ClarificationAnswer}
    (hanswer : canonicalClarificationAnswer request questionID input = .ok answer) :
    clarificationAnswerByQuestionID (upsertClarificationAnswer request answers answer)
      questionID ≠ none := by
  rw [canonicalClarificationAnswer] at hanswer
  cases hfound : clarificationQuestionByID request.questions questionID with
  | none =>
    rw [hfound] at hanswer
    cases hanswer
  | some question =>
    simp only [hfound] at hanswer
    have hquestion : question.id = questionID := by simpa using List.find?_some hfound
    have hkey : answer.questionID = question.id := questionID_of_canonical hanswer
    have hmem : answer ∈ upsertClarificationAnswer request answers answer := by
      refine List.mem_filterMap.mpr ⟨question, List.mem_of_find?_eq_some hfound, ?_⟩
      simp [clarificationAnswerByQuestionID, hkey]
    intro hnone
    have hnot := List.find?_eq_none.mp hnone answer hmem
    simp [hkey, hquestion] at hnot

end HMaigc.AgentRuntime
