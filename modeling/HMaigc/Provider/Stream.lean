import HMaigc.Go.Checks
import HMaigc.Go.Scanner

/-!
# The event streams of the text providers

`parseChatCompletionSSE` and `parseResponsesSSE`: the lines of the body, gathered into events by
blank lines, each decoded and applied to the result.  The loop over the lines is the same in both
(`SseParser.run`); what they make of a line and of an event is their own.

* `SseParser.run_ends` — a parser that succeeds has seen an event that ends the stream.
* `streams_end` — **no provider's stream is taken for complete** when it is not, and the text of a
  result is what its observer was given.
-/

set_option autoImplicit false

namespace HMaigc.Provider

open Go

structure TokenUsageFact where
  inputTokens : ℤ := 0
  cachedTokens : ℤ := 0
  outputTokens : ℤ := 0
  available : Bool := false

structure ProviderTextStreamResult where
  text : String := ""
  providerRequestID : String := ""
  finishReason : String := ""
  usage : TokenUsageFact := {}

inductive StreamError
  | protocolInvalid (detail : String)
  | truncated
  | providerTextMissing
  | observer (error : String)
  | context (error : String)
  | scan (error : ScanError)

/-- A parser that fails returns the result as far as it has come. -/
abbrev Parsed (α : Type) := Except (StreamError × ProviderTextStreamResult) α

/-- The code a parser is given. -/
structure StreamContext where
  /-- `ctx.Err()`, by the number of its calls before. -/
  err : ℕ → Option String
  /-- The observer, by the deltas it was given before. -/
  emit : List String → String → Option String

/-- The result so far, and the deltas the observer took. -/
structure Stream where
  result : ProviderTextStreamResult := {}
  emitted : List String := []

def Stream.fail {α : Type} (stream : Stream) (error : StreamError) : Parsed α :=
  .error (error, stream.result)

/-- A delta goes to the observer and into the text; an empty one is passed over. -/
def Stream.deliver (ctx : StreamContext) (stream : Stream) (delta : String) : Parsed Stream :=
  if delta = "" then .ok stream
  else
    match ctx.emit stream.emitted delta with
    | some error => stream.fail (.observer error)
    | none => .ok {
        result := { stream.result with text := stream.result.text ++ delta }
        emitted := stream.emitted ++ [delta] }

/-- The provider's name for the request, where an event has it. -/
def Stream.identify (stream : Stream) (id : String) : Stream :=
  if trimSpace id ≠ "" then
    { stream with result := { stream.result with providerRequestID := trimSpace id } }
  else stream

/-! ## The loop over the lines -/

/-- What is particular to one format: the state is what the loop carries from line to line. -/
structure SseParser (σ : Type) where
  stream : σ → Stream
  /-- A line that is neither blank nor a comment. -/
  field : σ → Bytes → Parsed σ
  /-- The event gathered since the last blank line. -/
  flush : σ → Parsed σ
  done : σ → Bool

def colon : UInt8 := 58

namespace SseParser

variable {σ : Type} (parser : SseParser σ) (ctx : StreamContext) (scanError : Option ScanError)

def finish (state : σ) : Parsed σ :=
  if (parser.stream state).result.text = "" then (parser.stream state).fail .providerTextMissing
  else .ok state

/-- What follows the loop. -/
def ending (calls : ℕ) (state : σ) : Parsed σ :=
  match scanError, ctx.err calls with
  | some error, _ => (parser.stream state).fail (.scan error)
  | none, some error => (parser.stream state).fail (.context error)
  | none, none => do
    let state ← parser.flush state
    if parser.done state = false then (parser.stream state).fail .truncated
    else parser.finish state

/-- The loop over the tokens of the scanner. -/
def run : ℕ → σ → List Bytes → Parsed σ
  | calls, state, [] => parser.ending ctx scanError calls state
  | calls, state, line :: rest =>
    match ctx.err calls with
    | some error => (parser.stream state).fail (.context error)
    | none =>
      if line = [] then do
        let state ← parser.flush state
        if parser.done state then parser.finish state else run (calls + 1) state rest
      else if line.head? = some colon then run (calls + 1) state rest
      else do
        let state ← parser.field state line
        run (calls + 1) state rest

end SseParser

/-- The events of a stream, each with its lines. -/
def events : List Bytes → List (List Bytes)
  | [] => [[]]
  | line :: rest => if line = [] then [] :: events rest else (events rest).modifyHead (line :: ·)

/-- The rest of a line that begins with the name of the field. -/
def fieldValue (name : String) (line : Bytes) : Option Bytes :=
  if (ascii name).isPrefixOf line then some (trimBytes (line.drop name.length)) else none

/-- The data of an event, its lines joined. -/
def payload (data : List Bytes) : Bytes :=
  (data.intersperse [lineFeed]).flatten

/-! ## Chat completions -/

structure StreamChoice where
  content : String := ""
  finishReason : String := ""

structure ChatUsage where
  promptTokens : ℤ := 0
  completionTokens : ℤ := 0
  inputTokens : ℤ := 0
  outputTokens : ℤ := 0
  promptCachedTokens : ℤ := 0
  inputCachedTokens : ℤ := 0

structure ChatCompletionStreamChunk where
  id : String := ""
  choices : List StreamChoice := []
  usage : Option ChatUsage := none
  /-- The message of the error. -/
  error : Option String := none

structure ChatStream where
  stream : Stream := {}
  frame : List Bytes := []
  done : Bool := false

def chatChoice (ctx : StreamContext) (stream : Stream) (choice : StreamChoice) :
    Parsed Stream := do
  let stream ← stream.deliver ctx choice.content
  return if choice.finishReason ≠ "" then
      { stream with result := { stream.result with finishReason := choice.finishReason } }
    else stream

def ChatUsage.fact (usage : ChatUsage) : TokenUsageFact where
  inputTokens := if usage.inputTokens = 0 then usage.promptTokens else usage.inputTokens
  outputTokens := if usage.outputTokens = 0 then usage.completionTokens else usage.outputTokens
  cachedTokens :=
    if usage.inputCachedTokens = 0 then usage.promptCachedTokens else usage.inputCachedTokens
  available := true

/-- What `flush` does with a chunk. -/
def chatChunk (ctx : StreamContext) (stream : Stream) (chunk : ChatCompletionStreamChunk) :
    Parsed Stream := do
  match chunk.error.filter (trimSpace · ≠ "") with
  | some message => stream.fail (.protocolInvalid (trimSpace message))
  | none =>
    let stream ← chunk.choices.foldlM (chatChoice ctx) (stream.identify chunk.id)
    match chunk.usage with
    | some usage => return { stream with result := { stream.result with usage := usage.fact } }
    | none => return stream

/-- `flush` of `parseChatCompletionSSE`. -/
def chatFlush (ctx : StreamContext) (decode : Bytes → Except String ChatCompletionStreamChunk)
    (state : ChatStream) : Parsed ChatStream :=
  if state.frame = [] then .ok state
  else if payload state.frame = ascii "[DONE]" then .ok { state with frame := [], done := true }
  else
    match decode (payload state.frame) with
    | .error error => state.stream.fail (.protocolInvalid error)
    | .ok chunk => do
      let stream ← chatChunk ctx state.stream chunk
      return { state with stream, frame := [] }

def chatField (state : ChatStream) (line : Bytes) : Parsed ChatStream :=
  match fieldValue "data:" line with
  | none => state.stream.fail (.protocolInvalid "unsupported SSE field")
  | some value => .ok { state with frame := state.frame ++ [value] }

def chatParser (ctx : StreamContext)
    (decode : Bytes → Except String ChatCompletionStreamChunk) : SseParser ChatStream where
  stream := ChatStream.stream
  field := chatField
  flush := chatFlush ctx decode
  done := ChatStream.done

/-- The buffer of both scanners. -/
def streamLineLimit : ℕ := 2 * 1024 * 1024

def parseChatCompletionSSE (ctx : StreamContext)
    (decode : Bytes → Except String ChatCompletionStreamChunk) (reader : List Read) :
    Parsed ChatStream :=
  let scanned := scan streamLineLimit {} 0 reader
  (chatParser ctx decode).run ctx scanned.error 0 {} scanned.tokens

/-! ## Responses -/

structure ResponsesStreamEvent where
  type : String := ""
  delta : String := ""
  responseID : String := ""
  responseStatus : String := ""
  inputTokens : ℤ := 0
  outputTokens : ℤ := 0
  cachedTokens : ℤ := 0
  /-- The messages of the errors. -/
  responseError : Option String := none
  error : Option String := none

structure ResponsesStream where
  stream : Stream := {}
  eventName : Bytes := []
  dataLines : List Bytes := []
  completed : Bool := false

/-- The events that `parseResponsesSSE` passes over. -/
def ignoredEvents : List Bytes :=
  [ascii "response.created", ascii "response.in_progress", ascii "response.output_item.added",
    ascii "response.content_part.added", ascii "response.reasoning_text.delta",
    ascii "response.reasoning_text.done", ascii "response.output_text.done",
    ascii "response.content_part.done", ascii "response.output_item.done"]

/-- The texts of events are UTF-8. -/
def utf8 (text : String) : Bytes :=
  text.toUTF8.toList

/-- The type of an event, or else its name. -/
def eventType (eventName : Bytes) (event : ResponsesStreamEvent) : Bytes :=
  if trimSpace event.type = "" then trimBytes eventName else utf8 (trimSpace event.type)

def failureMessage (event : ResponsesStreamEvent) : String :=
  match event.responseError.filter (trimSpace · ≠ ""), event.error.filter (trimSpace · ≠ "") with
  | some message, _ | none, some message => trimSpace message
  | none, none => "Responses 流返回失败"

/-- What `flush` does with an event; the flag says that it completes the stream. -/
def responsesEvent (ctx : StreamContext) (stream : Stream) (type : Bytes)
    (event : ResponsesStreamEvent) : Parsed (Stream × Bool) :=
  let stream := stream.identify event.responseID
  if type ∈ ignoredEvents then .ok (stream, false)
  else if type = ascii "response.output_text.delta" then
    (stream.deliver ctx event.delta).map (·, false)
  else if type = ascii "response.completed" then
    if event.responseStatus ≠ "" ∧ event.responseStatus ≠ "completed" then
      stream.fail (.protocolInvalid ("response status " ++ event.responseStatus))
    else
      .ok ({ stream with
        result := { stream.result with
          finishReason := "completed"
          usage := {
            inputTokens := event.inputTokens, cachedTokens := event.cachedTokens
            outputTokens := event.outputTokens, available := true } } }, true)
  else if type = ascii "response.failed" ∨ type = ascii "response.incomplete" ∨
      type = ascii "error" then
    stream.fail (.protocolInvalid (failureMessage event))
  else stream.fail (.protocolInvalid "unsupported Responses event")

/-- `flush` of `parseResponsesSSE`. -/
def responsesFlush (ctx : StreamContext) (decode : Bytes → Except String ResponsesStreamEvent)
    (state : ResponsesStream) : Parsed ResponsesStream :=
  if state.dataLines = [] then .ok { state with eventName := [] }
  else if payload state.dataLines = ascii "[DONE]" then
    if state.completed = false then state.stream.fail .truncated
    else .ok { state with dataLines := [] }
  else
    match decode (payload state.dataLines) with
    | .error error => state.stream.fail (.protocolInvalid error)
    | .ok event => do
      let (stream, completes) ← responsesEvent ctx state.stream (eventType state.eventName event)
        event
      return { stream, eventName := [], dataLines := [], completed := state.completed || completes }

def responsesField (state : ResponsesStream) (line : Bytes) : Parsed ResponsesStream :=
  match fieldValue "event:" line, fieldValue "data:" line with
  | some value, _ => .ok { state with eventName := value }
  | none, some value => .ok { state with dataLines := state.dataLines ++ [value] }
  | none, none => state.stream.fail (.protocolInvalid "unsupported SSE field")

def responsesParser (ctx : StreamContext)
    (decode : Bytes → Except String ResponsesStreamEvent) : SseParser ResponsesStream where
  stream := ResponsesStream.stream
  field := responsesField
  flush := responsesFlush ctx decode
  done := ResponsesStream.completed

def parseResponsesSSE (ctx : StreamContext)
    (decode : Bytes → Except String ResponsesStreamEvent) (reader : List Read) :
    Parsed ResponsesStream :=
  let scanned := scan streamLineLimit {} 0 reader
  (responsesParser ctx decode).run ctx scanned.error 0 {} scanned.tokens

/-! ## What a parser has seen -/

section

variable {opened : List Bytes}

theorem events_of_open (hopen : [] ∉ opened) : events opened = [opened] := by
  induction opened with
  | nil => rfl
  | cons line opened ih =>
    rw [List.mem_cons, not_or] at hopen
    rw [events, if_neg (Ne.symm hopen.1), ih hopen.2]
    rfl

/-- A blank line ends an event. -/
theorem events_append (hopen : [] ∉ opened) (rest : List Bytes) :
    events (opened ++ [] :: rest) = opened :: events rest := by
  induction opened with
  | nil => rfl
  | cons line opened ih =>
    rw [List.mem_cons, not_or] at hopen
    rw [List.cons_append, events, if_neg (Ne.symm hopen.1), ih hopen.2]
    rfl

end

namespace SseParser

variable {σ : Type} {parser : SseParser σ} {ctx : StreamContext} {scanError : Option ScanError}

theorem finish_eq_ok {state result : σ} :
    parser.finish state = .ok result ↔ (parser.stream state).result.text ≠ "" ∧ state = result := by
  rw [finish, Stream.fail]
  split
  next hmissing => simp [hmissing]
  next hsome => simp [hsome]

/-- What the loop carries says which event is open, and `Ends` holds of the events that end the
stream. -/
structure Sees (parser : SseParser σ) (Holds : List Bytes → σ → Prop)
    (Ends : List Bytes → Prop) : Prop where
  comment : ∀ {opened state line}, Holds opened state → line.head? = some colon →
    Holds (opened ++ [line]) state
  field : ∀ {opened state line next}, Holds opened state → line.head? ≠ some colon →
    parser.field state line = .ok next → Holds (opened ++ [line]) next
  flush : ∀ {opened state next}, Holds opened state → parser.flush state = .ok next →
    if parser.done next then Ends opened else Holds [] next

/-- **A parser that succeeds has seen an event that ends the stream.**  What follows the tokens of
a scanner that gave up does not matter. -/
theorem run_ends {Holds : List Bytes → σ → Prop} {Ends : List Bytes → Prop}
    (hsees : parser.Sees Holds Ends) {tokens opened more : List Bytes} {calls : ℕ}
    {state result : σ} (hmore : scanError = none → more = []) (hopen : [] ∉ opened)
    (hholds : Holds opened state) (h : parser.run ctx scanError calls state tokens = .ok result) :
    ∃ event ∈ events (opened ++ (tokens ++ more)), Ends event := by
  induction tokens generalizing opened calls state with
  | nil =>
    rw [run, ending.eq_def] at h
    split at h
    · cases h
    · cases h
    · obtain ⟨next, hnext, h⟩ := bind_eq_ok.mp h
      have hflush := hsees.flush hholds hnext
      split at h
      · cases h
      next hdone =>
        rw [if_pos (by simpa using hdone)] at hflush
        rw [hmore rfl, List.append_nil, List.append_nil, events_of_open hopen]
        exact ⟨opened, List.mem_singleton_self _, hflush⟩
  | cons line tokens ih =>
    rw [run] at h
    split at h
    · cases h
    · by_cases hblank : line = []
      · subst hblank
        rw [if_pos rfl] at h
        obtain ⟨next, hnext, h⟩ := bind_eq_ok.mp h
        have hflush := hsees.flush hholds hnext
        rw [List.cons_append, events_append hopen]
        split at h
        next hdone =>
          rw [if_pos hdone] at hflush
          exact ⟨opened, List.mem_cons_self, hflush⟩
        next hgoes =>
          rw [if_neg hgoes] at hflush
          obtain ⟨event, hmem, hends⟩ := ih (List.not_mem_nil) hflush h
          exact ⟨event, List.mem_cons_of_mem _ hmem, hends⟩
      · rw [if_neg hblank] at h
        have hnext : [] ∉ opened ++ [line] := by
          simp [hopen, Ne.symm hblank]
        by_cases hcomment : line.head? = some colon
        · rw [if_pos hcomment] at h
          have hsame := ih hnext (hsees.comment hholds hcomment) h
          rwa [List.append_assoc] at hsame
        · rw [if_neg hcomment] at h
          obtain ⟨next, hfield, h⟩ := bind_eq_ok.mp h
          have hsame := ih hnext (hsees.field hholds hcomment hfield) h
          rwa [List.append_assoc] at hsame

/-- What a line and an event preserve holds of the result. -/
theorem run_preserves {P : σ → Prop}
    (hfield : ∀ state line next, P state → parser.field state line = .ok next → P next)
    (hflush : ∀ state next, P state → parser.flush state = .ok next → P next)
    {tokens : List Bytes} {calls : ℕ} {state result : σ} (hstate : P state)
    (h : parser.run ctx scanError calls state tokens = .ok result) :
    P result ∧ (parser.stream result).result.text ≠ "" := by
  induction tokens generalizing calls state with
  | nil =>
    rw [run, ending.eq_def] at h
    split at h
    · cases h
    · cases h
    · obtain ⟨next, hnext, h⟩ := bind_eq_ok.mp h
      split at h
      · cases h
      · obtain ⟨htext, rfl⟩ := finish_eq_ok.mp h
        exact ⟨hflush state _ hstate hnext, htext⟩
  | cons line tokens ih =>
    rw [run] at h
    split at h
    · cases h
    · by_cases hblank : line = []
      · rw [if_pos hblank] at h
        obtain ⟨next, hnext, h⟩ := bind_eq_ok.mp h
        have hkept := hflush state next hstate hnext
        split at h
        · obtain ⟨htext, rfl⟩ := finish_eq_ok.mp h
          exact ⟨hkept, htext⟩
        · exact ih hkept h
      · rw [if_neg hblank] at h
        split at h
        · exact ih hstate h
        · obtain ⟨next, hnext, h⟩ := bind_eq_ok.mp h
          exact ih (hfield state line next hstate hnext) h

end SseParser

/-! ## What a result says -/

/-- The text of the result is what the observer was given. -/
def Stream.Observed (stream : Stream) : Prop :=
  stream.result.text = String.join stream.emitted

section

variable {ctx : StreamContext} {stream next : Stream}

theorem Stream.Observed.deliver {delta : String} (h : stream.Observed)
    (hnext : stream.deliver ctx delta = .ok next) : next.Observed := by
  rw [Stream.deliver] at hnext
  split at hnext
  · cases hnext
    exact h
  · split at hnext
    · cases hnext
    · cases hnext
      show stream.result.text ++ delta = String.join (stream.emitted ++ [delta])
      rw [h, String.join_append]
      simp

theorem Stream.Observed.identify {id : String} (h : stream.Observed) :
    (stream.identify id).Observed := by
  rw [Stream.identify]
  split
  · exact h
  · exact h

theorem Stream.Observed.chatChoice {choice : StreamChoice} (h : stream.Observed)
    (hnext : Provider.chatChoice ctx stream choice = .ok next) : next.Observed := by
  obtain ⟨emitted, hemitted, hnext⟩ := bind_eq_ok.mp hnext
  have hobserved := h.deliver hemitted
  cases pure_eq_ok.mp hnext
  split
  · exact hobserved
  · exact hobserved

theorem Stream.Observed.choices {choices : List StreamChoice} (h : stream.Observed)
    (hnext : choices.foldlM (Provider.chatChoice ctx) stream = .ok next) : next.Observed := by
  induction choices generalizing stream with
  | nil =>
    cases hnext
    exact h
  | cons choice choices ih =>
    rw [List.foldlM_cons] at hnext
    obtain ⟨middle, hmiddle, hnext⟩ := bind_eq_ok.mp hnext
    exact ih (h.chatChoice hmiddle) hnext

theorem Stream.Observed.chatChunk {chunk : ChatCompletionStreamChunk} (h : stream.Observed)
    (hnext : Provider.chatChunk ctx stream chunk = .ok next) : next.Observed := by
  rw [Provider.chatChunk] at hnext
  split at hnext
  · cases hnext
  · obtain ⟨chosen, hchosen, hnext⟩ := bind_eq_ok.mp hnext
    have hobserved : chosen.Observed := h.identify.choices hchosen
    split at hnext <;> cases pure_eq_ok.mp hnext <;> exact hobserved

theorem Stream.Observed.responsesEvent {type : Bytes} {event : ResponsesStreamEvent}
    {completes : Bool} (h : stream.Observed)
    (hnext : Provider.responsesEvent ctx stream type event = .ok (next, completes)) :
    next.Observed := by
  have hidentified : (stream.identify event.responseID).Observed := h.identify
  rw [Provider.responsesEvent] at hnext
  generalize stream.identify event.responseID = identified at hidentified hnext
  dsimp only at hnext
  split at hnext
  · cases hnext
    exact hidentified
  · split at hnext
    · obtain ⟨emitted, hemitted, hpair⟩ := map_eq_ok.mp hnext
      cases hpair
      exact hidentified.deliver hemitted
    · split at hnext
      · split at hnext
        · cases hnext
        · cases hnext
          exact hidentified
      · split at hnext <;> cases hnext

/-- Only `response.completed` completes a stream. -/
theorem completes_of_responsesEvent {type : Bytes} {event : ResponsesStreamEvent}
    (hnext : Provider.responsesEvent ctx stream type event = .ok (next, true)) :
    type = ascii "response.completed" := by
  rw [Provider.responsesEvent] at hnext
  generalize stream.identify event.responseID = identified at hnext
  dsimp only at hnext
  split at hnext
  · cases hnext
  · split at hnext
    · obtain ⟨emitted, -, hpair⟩ := map_eq_ok.mp hnext
      cases hpair
    · split at hnext
      next hcompleted => exact hcompleted
      next => split at hnext <;> cases hnext

end

/-! ## What ends a stream -/

/-- The data of an event. -/
def eventData (event : List Bytes) : List Bytes :=
  event.filterMap (fieldValue "data:")

/-- The name of an event: the last one given. -/
def eventLabel (event : List Bytes) : Bytes :=
  (event.filterMap (fieldValue "event:")).getLast?.getD []

/-- The event `[DONE]`. -/
def ChatEnds (event : List Bytes) : Prop :=
  payload (eventData event) = ascii "[DONE]"

/-- An event `response.completed`. -/
def ResponsesEnds (decode : Bytes → Except String ResponsesStreamEvent) (event : List Bytes) :
    Prop :=
  ∃ decoded, decode (payload (eventData event)) = .ok decoded ∧
    eventType (eventLabel event) decoded = ascii "response.completed"

section

variable {ctx : StreamContext} {decodeChunk : Bytes → Except String ChatCompletionStreamChunk}
  {decodeEvent : Bytes → Except String ResponsesStreamEvent}

/-- A line has one field, by its first letter. -/
theorem fieldValue_of_head {name : String} {line : Bytes}
    (hne : line.head? ≠ (ascii name).head?) (hname : ascii name ≠ []) :
    fieldValue name line = none := by
  rw [fieldValue, if_neg]
  cases hbytes : ascii name with
  | nil => exact absurd hbytes hname
  | cons first rest =>
    cases line with
    | nil => simp
    | cons byte line =>
      rw [hbytes] at hne
      have hbyte : first ≠ byte := fun hsame ↦ hne (by simp [hsame])
      simp [hbyte]

theorem fieldValue_comment {name : String} {line : Bytes} (hcomment : line.head? = some colon)
    (hname : ascii name ≠ []) (hcolon : (ascii name).head? ≠ some colon) :
    fieldValue name line = none :=
  fieldValue_of_head (hcomment ▸ Ne.symm hcolon) hname

theorem fieldValue_data_of_event {line value : Bytes}
    (h : fieldValue "event:" line = some value) : fieldValue "data:" line = none := by
  refine fieldValue_of_head (fun hhead ↦ ?_) (by decide)
  have hnone : fieldValue "event:" line = none :=
    fieldValue_of_head (by rw [hhead]; decide) (by decide)
  rw [hnone] at h
  cases h

theorem chatParser_sees : (chatParser ctx decodeChunk).Sees
    (fun opened state ↦ state.frame = eventData opened ∧ state.done = false) ChatEnds where
  comment := by
    rintro opened state line ⟨hframe, hdone⟩ hcomment
    refine ⟨?_, hdone⟩
    have hnone : fieldValue "data:" line = none :=
      fieldValue_comment hcomment (by decide) (by decide)
    simp [hframe, eventData, hnone]
  field := by
    rintro opened state line next ⟨hframe, hdone⟩ - hfield
    replace hfield : chatField state line = .ok next := hfield
    rw [chatField] at hfield
    split at hfield
    · cases hfield
    next value hvalue =>
      cases hfield
      exact ⟨by simp [hframe, eventData, hvalue], hdone⟩
  flush := by
    rintro opened state next ⟨hframe, hdone⟩ hflush
    replace hflush : chatFlush ctx decodeChunk state = .ok next := hflush
    show if next.done then ChatEnds opened else next.frame = [] ∧ next.done = false
    rw [chatFlush] at hflush
    split at hflush
    next hempty =>
      cases hflush
      simp [hdone, hempty]
    next hsome =>
      split at hflush
      next hends =>
        cases hflush
        rw [hframe] at hends
        rw [if_pos rfl]
        exact hends
      next hother =>
        split at hflush
        · cases hflush
        · obtain ⟨stream, -, hflush⟩ := bind_eq_ok.mp hflush
          cases pure_eq_ok.mp hflush
          simp [hdone]

theorem responsesParser_sees : (responsesParser ctx decodeEvent).Sees
    (fun opened state ↦ state.dataLines = eventData opened ∧
      state.eventName = eventLabel opened ∧ state.completed = false)
    (ResponsesEnds decodeEvent) where
  comment := by
    rintro opened state line ⟨hdata, hname, hcompleted⟩ hcomment
    have hnone : fieldValue "data:" line = none :=
      fieldValue_comment hcomment (by decide) (by decide)
    have hnone' : fieldValue "event:" line = none :=
      fieldValue_comment hcomment (by decide) (by decide)
    exact ⟨by simp [hdata, eventData, hnone], by simp [hname, eventLabel, hnone'], hcompleted⟩
  field := by
    rintro opened state line next ⟨hdata, hname, hcompleted⟩ - hfield
    replace hfield : responsesField state line = .ok next := hfield
    rw [responsesField] at hfield
    split at hfield
    next value hvalue =>
      cases hfield
      have hnone := fieldValue_data_of_event hvalue
      exact ⟨by simp [hdata, eventData, hnone], by simp [eventLabel, hvalue], hcompleted⟩
    next value hnone hvalue =>
      cases hfield
      exact ⟨by simp [hdata, eventData, hvalue], by simp [hname, eventLabel, hnone], hcompleted⟩
    · cases hfield
  flush := by
    rintro opened state next ⟨hdata, hname, hcompleted⟩ hflush
    replace hflush : responsesFlush ctx decodeEvent state = .ok next := hflush
    show if next.completed then ResponsesEnds decodeEvent opened
      else next.dataLines = [] ∧ next.eventName = [] ∧ next.completed = false
    rw [responsesFlush] at hflush
    split at hflush
    next hempty =>
      cases hflush
      simp [hcompleted, hempty]
    next hsome =>
      split at hflush
      · cases hflush
      next hother =>
        split at hflush
        · cases hflush
        next event hevent =>
          obtain ⟨⟨stream, completes⟩, hstream, hflush⟩ := bind_eq_ok.mp hflush
          cases pure_eq_ok.mp hflush
          cases completes with
          | false => simp [hcompleted]
          | true =>
            rw [hdata] at hevent
            rw [hname] at hstream
            rw [if_pos (by simp)]
            exact ⟨event, hevent, completes_of_responsesEvent hstream⟩

theorem chatParser_observed {tokens : List Bytes} {scanError : Option ScanError} {calls : ℕ}
    {result : ChatStream}
    (h : (chatParser ctx decodeChunk).run ctx scanError calls {} tokens = .ok result) :
    result.stream.Observed := by
  refine (SseParser.run_preserves (fun state line next hstate hfield ↦ ?_)
    (fun state next hstate hflush ↦ ?_) (P := fun state ↦ state.stream.Observed) rfl h).1
  · replace hfield : chatField state line = .ok next := hfield
    rw [chatField] at hfield
    split at hfield <;> cases hfield
    exact hstate
  · replace hflush : chatFlush ctx decodeChunk state = .ok next := hflush
    rw [chatFlush] at hflush
    split at hflush
    · cases hflush
      exact hstate
    · split at hflush
      · cases hflush
        exact hstate
      · split at hflush
        · cases hflush
        · obtain ⟨stream, hstream, hflush⟩ := bind_eq_ok.mp hflush
          cases pure_eq_ok.mp hflush
          exact hstate.chatChunk hstream

theorem responsesParser_observed {tokens : List Bytes} {scanError : Option ScanError} {calls : ℕ}
    {result : ResponsesStream}
    (h : (responsesParser ctx decodeEvent).run ctx scanError calls {} tokens = .ok result) :
    result.stream.Observed := by
  refine (SseParser.run_preserves (fun state line next hstate hfield ↦ ?_)
    (fun state next hstate hflush ↦ ?_) (P := fun state ↦ state.stream.Observed) rfl h).1
  · replace hfield : responsesField state line = .ok next := hfield
    rw [responsesField] at hfield
    split at hfield <;> cases hfield <;> exact hstate
  · replace hflush : responsesFlush ctx decodeEvent state = .ok next := hflush
    rw [responsesFlush] at hflush
    split at hflush
    · cases hflush
      exact hstate
    · split at hflush
      · split at hflush <;> cases hflush
        exact hstate
      · split at hflush
        · cases hflush
        · obtain ⟨⟨stream, completes⟩, hstream, hflush⟩ := bind_eq_ok.mp hflush
          cases pure_eq_ok.mp hflush
          exact Stream.Observed.responsesEvent hstate hstream

end

/-- What the caller of a parser may rely on, whatever the reader's pieces are.  The bytes are those
the scanner has read: the whole stream, unless it gave up with an error of its own. -/
structure EndsAsReported {σ : Type} (parsed : Parsed σ) (stream : σ → Stream)
    (reader : List Read) (Ends : List Bytes → Prop) : Prop where
  /-- A result is returned only of a stream that was ended. -/
  ended : ∀ state, parsed = .ok state →
    ∃ event ∈ events (lines (arrived streamLineLimit {} 0 reader)), Ends event
  /-- A stream cut before that gives an error. -/
  cut : (∀ event ∈ events (lines (arrived streamLineLimit {} 0 reader)), ¬Ends event) →
    ∃ error, parsed = .error error
  /-- The text of a result is what the observer was given. -/
  observed : ∀ state, parsed = .ok state →
    (stream state).result.text = String.join (stream state).emitted

theorem SseParser.Sees.endsAsReported {σ : Type} {parser : SseParser σ} {ctx : StreamContext}
    {reader : List Read} {Holds : List Bytes → σ → Prop} {Ends : List Bytes → Prop} {start : σ}
    (hsees : parser.Sees Holds Ends) (hstart : Holds [] start)
    (hobserved : ∀ result, parser.run ctx (scan streamLineLimit {} 0 reader).error 0 start
      (scan streamLineLimit {} 0 reader).tokens = .ok result →
        (parser.stream result).Observed) :
    EndsAsReported (parser.run ctx (scan streamLineLimit {} 0 reader).error 0 start
      (scan streamLineLimit {} 0 reader).tokens) parser.stream reader Ends := by
  have hended : ∀ state, parser.run ctx (scan streamLineLimit {} 0 reader).error 0 start
      (scan streamLineLimit {} 0 reader).tokens = .ok state →
      ∃ event ∈ events (lines (arrived streamLineLimit {} 0 reader)), Ends event := by
    intro state hstate
    obtain ⟨more, hlines, hmore⟩ := scan_prefix streamLineLimit {} 0 reader
    rw [lines, hlines]
    exact SseParser.run_ends hsees hmore List.not_mem_nil hstart hstate
  refine ⟨hended, fun hcut ↦ ?_, hobserved⟩
  cases hresult : parser.run ctx (scan streamLineLimit {} 0 reader).error 0 start
      (scan streamLineLimit {} 0 reader).tokens with
  | error e => exact ⟨e, rfl⟩
  | ok state =>
    obtain ⟨event, hmem, hends⟩ := hended state hresult
    exact absurd hends (hcut event hmem)

/-- **A stream is taken for complete only if it was ended**, however it is split into reads, and
the text of a result is what its observer was given. -/
theorem streams_end (ctx : StreamContext)
    (decodeChunk : Bytes → Except String ChatCompletionStreamChunk)
    (decodeEvent : Bytes → Except String ResponsesStreamEvent) (reader : List Read) :
    EndsAsReported (parseChatCompletionSSE ctx decodeChunk reader) ChatStream.stream reader
        ChatEnds ∧
      EndsAsReported (parseResponsesSSE ctx decodeEvent reader) ResponsesStream.stream reader
        (ResponsesEnds decodeEvent) ∧
      arrived streamLineLimit {} 0 reader <+: content reader :=
  ⟨chatParser_sees.endsAsReported ⟨rfl, rfl⟩ fun _ ↦ chatParser_observed,
    responsesParser_sees.endsAsReported ⟨rfl, rfl, rfl⟩ fun _ ↦ responsesParser_observed,
    arrived_prefix _ _ _ _⟩

/-- A terminator that comes in two pieces is seen, and one that is cut is not. -/
example :
    ((parseChatCompletionSSE ⟨fun _ ↦ none, fun _ _ ↦ none⟩
        (fun _ ↦ .ok { choices := [{ content := "a" }] })
        [.more (ascii "data: 1\n\ndata: [D"), .more (ascii "ONE]\n\n")]).map
      (·.stream.emitted)).toOption = some ["a"] ∧
    ((parseChatCompletionSSE ⟨fun _ ↦ none, fun _ _ ↦ none⟩
        (fun _ ↦ .ok { choices := [{ content := "a" }] })
        [.more (ascii "data: 1\n\ndata: [D")]).map (·.stream.emitted)).toOption = none := by
  decide

end HMaigc.Provider
