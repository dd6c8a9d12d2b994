import HMaigc.Agent.Delivery

/-!
# What the model of a run may decide

`agentruntime/decision.go` and `agentruntime/tools.go`: a decision is a final answer, a tool call or
a request for clarification, each under the delivery contract of the run.  Validating one also puts
it into its canonical form, which is what the run keeps.

The arguments of a tool call are decoded by the tool's own schema.  What that comes to is taken as a
function of the tool and the text: nothing below looks at the arguments again.
-/

set_option autoImplicit false

namespace HMaigc.AgentRuntime

open Go

/-! ## Tools -/

inductive ToolName
  | canvasRead | canvasApplyOps | assetsRead | assetsPublish | mediaGenerate | skillsLoad
  | skillLoad | productionPlan | productionRender | canvasCommit | mediaAssemble
  | specialistDelegate | visionAnalyze | canvasProject | other (name : String)
  deriving DecidableEq

def ToolName.name : ToolName → String
  | .canvasRead => "canvas.read"
  | .canvasApplyOps => "canvas.apply_ops"
  | .assetsRead => "assets.read"
  | .assetsPublish => "assets.publish"
  | .mediaGenerate => "media.generate"
  | .skillsLoad => "skills.load"
  | .skillLoad => "skill.load"
  | .productionPlan => "production.plan"
  | .productionRender => "production.render"
  | .canvasCommit => "canvas.commit"
  | .mediaAssemble => "media.assemble"
  | .specialistDelegate => "specialist.delegate"
  | .visionAnalyze => "vision.analyze"
  | .canvasProject => "canvas.project"
  | .other name => name

def legacyToolSchemaVersion : ℤ := 3

def productionToolSchemaVersion : ℤ := 5

def retiredCloudToolSchemaVersion : ℤ := 7

def currentToolSchemaVersion : ℤ := 8

inductive ToolRiskLevel
  | read | write | cost
  deriving DecidableEq

/-- The risk level of the policy `ToolPolicyForSchema` finds; none where the schema has no such
tool. -/
def toolPolicyForSchema (name : ToolName) (toolSchemaVersion : ℤ) : Option ToolRiskLevel :=
  if toolSchemaVersion = legacyToolSchemaVersion then
    match name with
    | .skillLoad => some .read
    | .productionPlan => some .write
    | .productionRender | .canvasCommit => some .cost
    | _ => none
  else if toolSchemaVersion = productionToolSchemaVersion then
    match name with
    | .skillLoad => some .read
    | .specialistDelegate | .canvasProject | .mediaAssemble => some .write
    | .visionAnalyze | .mediaGenerate => some .cost
    | _ => none
  else if toolSchemaVersion = currentToolSchemaVersion then
    match name with
    | .canvasRead | .assetsRead | .skillsLoad => some .read
    | .canvasApplyOps | .assetsPublish => some .write
    | .mediaGenerate | .visionAnalyze => some .cost
    | _ => none
  else if toolSchemaVersion = retiredCloudToolSchemaVersion then
    match name with
    | .canvasRead | .assetsRead | .skillsLoad => some .read
    | .canvasApplyOps | .assetsPublish => some .write
    | .mediaGenerate => some .cost
    | _ => none
  else none

/-- The schema has a tool of this name: the same names it has a policy for. -/
def ToolName.validForToolSchema (name : ToolName) (toolSchemaVersion : ℤ) : Bool :=
  (toolPolicyForSchema name toolSchemaVersion).isSome

def approvalRequiredFor (riskLevel : ToolRiskLevel) : Bool :=
  riskLevel = .write || riskLevel = .cost

/-! ## Requests for clarification -/

inductive ClarificationQuestionType
  | singleChoice | multiChoice | freeText | other (name : String)
  deriving DecidableEq

structure ClarificationOption where
  id : String
  label : String
  deriving DecidableEq

structure ClarificationQuestion where
  id : String
  prompt : String
  type : ClarificationQuestionType
  options : List ClarificationOption := []
  allowCustomAnswer : Bool := false
  deriving DecidableEq

structure ClarificationDecision where
  requestID : String
  questions : List ClarificationQuestion
  expectedDelivery : ExpectedDelivery
  deriving DecidableEq

def boundedDecisionText (value : String) (limit : ℕ) : Bool :=
  value ≠ "" && value.length ≤ limit

/-- The texts `validateOptions` writes back. -/
def ClarificationOption.trimmed (option : ClarificationOption) : ClarificationOption :=
  ⟨trimSpace option.id, trimSpace option.label⟩

namespace ClarificationQuestion

/-- The texts the validation of a question writes back. -/
def trimmed (question : ClarificationQuestion) : ClarificationQuestion :=
  { question with
    id := trimSpace question.id
    prompt := trimSpace question.prompt
    options := question.options.map (·.trimmed) }

/-- `validateOptions`, on trimmed texts. -/
def validateOptions (question : ClarificationQuestion) : Except String Unit :=
  match question.type with
  | .singleChoice | .multiChoice =>
    if question.options.length < 2 ∨ question.options.length > 6 then
      .error "agent clarification choice options are invalid"
    else
      checkDistinct (·.id)
        (fun option ↦
          if !boundedDecisionText option.id 120 || !boundedDecisionText option.label 80 then
            .error "agent clarification option is invalid"
          else .ok ())
        "agent clarification option identity is duplicated" (fun _ ↦ .ok ()) [] question.options
  | .freeText =>
    if question.options ≠ [] ∨ question.allowCustomAnswer then
      .error "agent clarification free text options are invalid"
    else .ok ()
  | .other _ => .error "agent clarification question type is invalid"

theorem nodup_of_validateOptions {question : ClarificationQuestion}
    (h : question.validateOptions = .ok ()) : (question.options.map (·.id)).Nodup := by
  rw [validateOptions] at h
  have hchoice (h : (if question.options.length < 2 ∨ question.options.length > 6 then
      .error "agent clarification choice options are invalid"
    else
      checkDistinct (·.id)
        (fun option : ClarificationOption ↦
          if !boundedDecisionText option.id 120 || !boundedDecisionText option.label 80 then
            .error "agent clarification option is invalid"
          else .ok ())
        "agent clarification option identity is duplicated" (fun _ ↦ .ok ()) []
        question.options) = .ok ()) : (question.options.map (·.id)).Nodup :=
    (checkDistinct_eq_ok.mp (refuse_eq_ok.mp h).2).2.1
  cases htype : question.type with
  | singleChoice => exact hchoice (by simpa only [htype] using h)
  | multiChoice => exact hchoice (by simpa only [htype] using h)
  | freeText =>
    simp only [htype] at h
    have hnone := (refuse_eq_ok.mp h).1
    rw [not_or, not_not] at hnone
    rw [hnone.1]
    exact List.nodup_nil
  | other name =>
    simp only [htype] at h
    cases h

end ClarificationQuestion

namespace ClarificationDecision

def trimmed (decision : ClarificationDecision) : ClarificationDecision :=
  { decision with
    requestID := trimSpace decision.requestID
    questions := decision.questions.map (·.trimmed) }

/-- The checks of `Validate`, on trimmed texts. -/
def check (decision : ClarificationDecision) : Except String Unit :=
  if !boundedDecisionText decision.requestID 120 || decision.questions.length < 1 ||
      decision.questions.length > 3 then
    .error "agent clarification identity is invalid"
  else do
    decision.expectedDelivery.validate
    checkDistinct (·.id)
      (fun question ↦
        if !boundedDecisionText question.id 120 || !boundedDecisionText question.prompt 240 then
          .error "agent clarification question is invalid"
        else .ok ())
      "agent clarification question identity is duplicated" (·.validateOptions) []
      decision.questions

/-- `Validate`, and the request as it leaves it. -/
def validate (decision : ClarificationDecision) : Except String ClarificationDecision := do
  decision.trimmed.check
  return decision.trimmed

theorem validate_eq_ok {decision result : ClarificationDecision} :
    decision.validate = .ok result ↔ decision.trimmed.check = .ok () ∧ result = decision.trimmed := by
  show (decision.trimmed.check >>= fun _ ↦ pure decision.trimmed) = _ ↔ _
  simp only [bind_eq_ok, pure_eq_ok]
  constructor
  · rintro ⟨_, hcheck, rfl⟩
    exact ⟨hcheck, rfl⟩
  · rintro ⟨hcheck, rfl⟩
    exact ⟨(), hcheck, rfl⟩

/-- What a checked request promises. -/
structure Checked (decision : ClarificationDecision) : Prop where
  requestID : boundedDecisionText decision.requestID 120 = true
  delivery : decision.expectedDelivery.validate = .ok ()
  questions : (decision.questions.map (·.id)).Nodup
  options : ∀ question ∈ decision.questions, (question.options.map (·.id)).Nodup
  bounded : ∀ question ∈ decision.questions, boundedDecisionText question.id 120 = true

theorem checked_of_check {decision : ClarificationDecision} (h : decision.check = .ok ()) :
    decision.Checked := by
  rw [check, refuse_eq_ok, bind_eq_ok] at h
  obtain ⟨hidentity, _, hdelivery, hquestions⟩ := h
  obtain ⟨hall, hnodup, -⟩ := checkDistinct_eq_ok.mp hquestions
  refine ⟨by simp at hidentity; exact hidentity.1.1, hdelivery, hnodup, fun question hq ↦ ?_,
    fun question hq ↦ ?_⟩
  · exact ClarificationQuestion.nodup_of_validateOptions (hall question hq).2
  · have htext := (refuse_eq_ok.mp (hall question hq).1).1
    simp at htext
    exact htext.1

end ClarificationDecision

@[simp] theorem ClarificationOption.trimmed_trimmed (option : ClarificationOption) :
    option.trimmed.trimmed = option.trimmed := by
  simp [ClarificationOption.trimmed]

@[simp] theorem ClarificationQuestion.trimmed_trimmed (question : ClarificationQuestion) :
    question.trimmed.trimmed = question.trimmed := by
  simp [ClarificationQuestion.trimmed]

@[simp] theorem ClarificationDecision.trimmed_trimmed (decision : ClarificationDecision) :
    decision.trimmed.trimmed = decision.trimmed := by
  simp [ClarificationDecision.trimmed]

/-- **Validation settles**: what it leaves passes it again, unchanged. -/
theorem ClarificationDecision.validate_validated {decision result : ClarificationDecision}
    (h : decision.validate = .ok result) : result.validate = .ok result := by
  obtain ⟨hcheck, rfl⟩ := validate_eq_ok.mp h
  exact validate_eq_ok.mpr ⟨by rwa [trimmed_trimmed], trimmed_trimmed decision |>.symm⟩

/-! ## Decisions -/

structure FinalDecision where
  message : String
  expectedDelivery : ExpectedDelivery

structure ToolCallDecision where
  toolCallID : String
  toolName : ToolName
  actionVersion : ℤ
  arguments : String
  expectedDelivery : ExpectedDelivery
  deriving DecidableEq

inductive DecisionKind
  | final | toolCall | clarificationRequest | other (name : String)

structure ModelDecision where
  kind : DecisionKind
  final : Option FinalDecision := none
  toolCall : Option ToolCallDecision := none
  clarification : Option ClarificationDecision := none

/-- A decision in the form its validation leaves: one payload, the one its kind names. -/
inductive CanonicalDecision
  | final (decision : FinalDecision)
  | toolCall (call : ToolCallDecision)
  | clarification (request : ClarificationDecision)

def CanonicalDecision.expectedDelivery : CanonicalDecision → ExpectedDelivery
  | .final decision => decision.expectedDelivery
  | .toolCall call => call.expectedDelivery
  | .clarification request => request.expectedDelivery

def finalMessageLimit : ℕ := 32 * 1024

def FinalDecision.validate (decision : FinalDecision) : Except String FinalDecision :=
  let message := trimSpace decision.message
  if message = "" ∨ message.utf8ByteSize > finalMessageLimit then
    .error "agent final message is invalid"
  else do
    decision.expectedDelivery.validate
    return { decision with message }

def ToolCallDecision.validate (canonicalArguments : ToolName → String → Option String)
    (toolSchemaVersion : ℤ) (call : ToolCallDecision) : Except String ToolCallDecision :=
  let toolCallID := trimSpace call.toolCallID
  if toolCallID = "" ∨ toolCallID.utf8ByteSize > 120 ∨
      call.toolName.validForToolSchema toolSchemaVersion = false ∨ call.actionVersion < 1 then
    .error "agent tool call identity is invalid"
  else do
    call.expectedDelivery.validate
    match canonicalArguments call.toolName call.arguments with
    | none => .error "agent tool call arguments are invalid"
    | some arguments => return { call with toolCallID, arguments }

def ModelDecision.validateForToolSchema (canonicalArguments : ToolName → String → Option String)
    (toolSchemaVersion : ℤ) (decision : ModelDecision) : Except String CanonicalDecision :=
  if toolSchemaVersion ≠ currentToolSchemaVersion then
    .error "agent tool schema version is invalid"
  else
    match decision.kind with
    | .final =>
      match decision.final with
      | none => .error "agent final decision payload is invalid"
      | some final =>
        if decision.toolCall.isSome ∨ decision.clarification.isSome then
          .error "agent final decision payload is invalid"
        else return .final (← final.validate)
    | .toolCall =>
      match decision.toolCall with
      | none => .error "agent tool decision payload is invalid"
      | some call =>
        if decision.final.isSome ∨ decision.clarification.isSome then
          .error "agent tool decision payload is invalid"
        else return .toolCall (← call.validate canonicalArguments toolSchemaVersion)
    | .clarificationRequest =>
      match decision.clarification with
      | none => .error "agent clarification decision payload is invalid"
      | some request =>
        if decision.final.isSome ∨ decision.toolCall.isSome then
          .error "agent clarification decision payload is invalid"
        else return .clarification (← request.validate)
    | .other _ => .error "agent model decision kind is invalid"

/-- What a canonical decision promises. -/
inductive CanonicalDecision.Valid : CanonicalDecision → Prop
  | final {decision : FinalDecision} (hdelivery : decision.expectedDelivery.validate = .ok ()) :
      Valid (.final decision)
  | toolCall {call : ToolCallDecision} (hdelivery : call.expectedDelivery.validate = .ok ()) :
      Valid (.toolCall call)
  | clarification {request : ClarificationDecision} (hrequest : request.validate = .ok request) :
      Valid (.clarification request)

theorem CanonicalDecision.Valid.delivery {decision : CanonicalDecision} (h : decision.Valid) :
    decision.expectedDelivery.validate = .ok () := by
  cases h with
  | final hdelivery => exact hdelivery
  | toolCall hdelivery => exact hdelivery
  | clarification hrequest =>
    obtain ⟨hcheck, -⟩ := ClarificationDecision.validate_eq_ok.mp hrequest
    exact (ClarificationDecision.checked_of_check hcheck).delivery

theorem FinalDecision.delivery_of_validate {decision result : FinalDecision}
    (h : decision.validate = .ok result) : result.expectedDelivery.validate = .ok () := by
  obtain ⟨-, h⟩ := refuse_eq_ok.mp h
  obtain ⟨_, hdelivery, h⟩ := bind_eq_ok.mp h
  cases pure_eq_ok.mp h
  exact hdelivery

theorem ToolCallDecision.delivery_of_validate
    {canonicalArguments : ToolName → String → Option String} {toolSchemaVersion : ℤ}
    {call result : ToolCallDecision}
    (h : call.validate canonicalArguments toolSchemaVersion = .ok result) :
    result.expectedDelivery.validate = .ok () := by
  obtain ⟨-, h⟩ := refuse_eq_ok.mp h
  obtain ⟨_, hdelivery, h⟩ := bind_eq_ok.mp h
  cases hargs : canonicalArguments call.toolName call.arguments with
  | none =>
    rw [hargs] at h
    cases h
  | some arguments =>
    rw [hargs] at h
    cases pure_eq_ok.mp h
    exact hdelivery

section

variable {canonicalArguments : ToolName → String → Option String} {toolSchemaVersion : ℤ}
  {decision : ModelDecision} {canonical : CanonicalDecision}

/-- The payload of an accepted decision is the one its kind names. -/
theorem validateForToolSchema_eq_ok
    (h : decision.validateForToolSchema canonicalArguments toolSchemaVersion = .ok canonical) :
    (∃ final result, decision.kind = .final ∧ decision.final = some final ∧
        final.validate = .ok result ∧ canonical = .final result) ∨
      (∃ call result, decision.toolCall = some call ∧
        call.validate canonicalArguments toolSchemaVersion = .ok result ∧
        canonical = .toolCall result) ∨
      ∃ request result, decision.clarification = some request ∧ request.validate = .ok result ∧
        canonical = .clarification result := by
  obtain ⟨-, h⟩ := refuse_eq_ok.mp h
  cases hkind : decision.kind with
  | final =>
    cases hfinal : decision.final with
    | none =>
      simp only [hkind, hfinal] at h
      cases h
    | some final =>
      simp only [hkind, hfinal] at h
      obtain ⟨result, hvalid, h⟩ := bind_eq_ok.mp (refuse_eq_ok.mp h).2
      exact .inl ⟨final, result, rfl, rfl, hvalid, (pure_eq_ok.mp h).symm⟩
  | toolCall =>
    cases hcall : decision.toolCall with
    | none =>
      simp only [hkind, hcall] at h
      cases h
    | some call =>
      simp only [hkind, hcall] at h
      obtain ⟨result, hvalid, h⟩ := bind_eq_ok.mp (refuse_eq_ok.mp h).2
      exact .inr (.inl ⟨call, result, rfl, hvalid, (pure_eq_ok.mp h).symm⟩)
  | clarificationRequest =>
    cases hrequest : decision.clarification with
    | none =>
      simp only [hkind, hrequest] at h
      cases h
    | some request =>
      simp only [hkind, hrequest] at h
      obtain ⟨result, hvalid, h⟩ := bind_eq_ok.mp (refuse_eq_ok.mp h).2
      exact .inr (.inr ⟨request, result, rfl, hvalid, (pure_eq_ok.mp h).symm⟩)
  | other name =>
    simp only [hkind] at h
    cases h

theorem valid_of_validateForToolSchema
    (h : decision.validateForToolSchema canonicalArguments toolSchemaVersion = .ok canonical) :
    canonical.Valid := by
  rcases validateForToolSchema_eq_ok h with ⟨final, result, -, -, hvalid, rfl⟩ |
    ⟨call, result, -, hvalid, rfl⟩ | ⟨request, result, -, hvalid, rfl⟩
  · exact .final (FinalDecision.delivery_of_validate hvalid)
  · exact .toolCall (ToolCallDecision.delivery_of_validate hvalid)
  · exact .clarification (ClarificationDecision.validate_validated hvalid)

end

end HMaigc.AgentRuntime
