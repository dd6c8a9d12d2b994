import HMaigc.Js.Error
import Mathlib.Data.Countable.Basic
import Mathlib.Data.List.DropRight
import Mathlib.Data.List.Nodup
import Mathlib.Logic.Equiv.List

/-!
# The tool session of a canvas

`canvas-agent/src/canvas-session.ts`: a tool call is sent to the browser as an event, and its
promise waits for the result.  A timer, an abort, an event that cannot be sent and the end of the
connection may each come first.

* `CanvasSession`, `requestTool`, `resolveToolResult`, `disconnect`, `completeWithError` — the
  session as it is written.
* `Step`, `Reach` — everything that may happen to it, in any order.
* `Consistent.finish` — what completing one request leaves; all five ways go through it.
* `settlesOnce` — every request is settled once, and the last completions are remembered.
-/

set_option autoImplicit false

namespace HMaigc

open Js

namespace LocalAgent

/-! ### The session -/

structure CanvasToolRequest where
  requestId : String
  threadId : String
  turnId : String
  toolName : String
  arguments : Value
  expectedDelivery : Value
  /-- Whether there is a signal, and whether it is aborted already. -/
  signal : Option Bool

/-- A result that has been parsed; its output is given by its JSON text. -/
structure ToolResultInput where
  requestId : String
  threadId : String
  turnId : String
  toolName : String
  succeeded : Bool
  output : String
  errorCode : Option String
  errorMessage : Option String
deriving DecidableEq

/-- `resultFingerprint`: the SHA-256 of a result, which no other result has. -/
structure Fingerprint where
  of : ToolResultInput → String
  injective : Function.Injective of

/-- A request that waits, with its promise. -/
structure PendingToolRequest where
  request : CanvasToolRequest
  promise : ℕ

namespace PendingToolRequest

def requestId (pending : PendingToolRequest) : String :=
  pending.request.requestId

end PendingToolRequest

/-- A request that is completed: the fingerprint of its result, or none if it failed. -/
structure Completed where
  requestId : String
  fingerprint : Option String

/-- The two maps, with their entries in the order of insertion, and the timers and listeners that
have not been removed. -/
structure CanvasSession where
  pending : List PendingToolRequest := []
  completed : List Completed := []
  disconnectReason : Option String := none
  timers : List ℕ := []
  listeners : List ℕ := []

inductive Settlement
  | resolved (result : ToolResultInput)
  | rejected (message : String)

/-- A promise is settled. -/
structure Completion where
  promise : ℕ
  requestId : String
  settlement : Settlement

@[irreducible]
def maxCompletedToolRequests : ℕ := 4096

/-- `completed.set(requestId, fingerprint)`. -/
def setCompleted (completed : List Completed) (entry : Completed) : List Completed :=
  if completed.any (·.requestId == entry.requestId) then
    completed.map fun other ↦ if other.requestId = entry.requestId then entry else other
  else completed ++ [entry]

/-- `#finishPending`. -/
def finishPending (session : CanvasSession) (pending : PendingToolRequest)
    (fingerprint : Option String) : CanvasSession where
  pending := session.pending.filter (·.requestId != pending.requestId)
  completed :=
    (setCompleted session.completed ⟨pending.requestId, fingerprint⟩).rtake maxCompletedToolRequests
  disconnectReason := session.disconnectReason
  timers := session.timers.filter (· != pending.promise)
  listeners := session.listeners.filter (· != pending.promise)

def findPending (session : CanvasSession) (requestId : String) : Option PendingToolRequest :=
  session.pending.find? (·.requestId == requestId)

/-- `#completeWithError`. -/
def completeWithError (session : CanvasSession) (requestId message : String) :
    CanvasSession × List Completion :=
  match findPending session requestId with
  | none => (session, [])
  | some pending =>
    (finishPending session pending none, [⟨pending.promise, requestId, .rejected message⟩])

/-- `requestTool`, up to the event: the promise is the next one. -/
def requestTool (session : CanvasSession) (promise : ℕ) (request : CanvasToolRequest) :
    Except String CanvasSession :=
  if session.disconnectReason.isSome then
    .error ("CanvasSession 已断开: " ++ session.disconnectReason.getD "")
  else if request.requestId = "" ∨ request.threadId = "" ∨ request.turnId = "" ∨
      session.pending.any (·.requestId == request.requestId) = true ∨
      session.completed.any (·.requestId == request.requestId) = true then
    .error "CanvasSession 工具请求身份无效或重复"
  else if request.signal = some true then .error "CanvasSession 工具请求已经取消"
  else
    .ok { session with
      pending := session.pending ++ [⟨request, promise⟩]
      timers := session.timers ++ [promise]
      listeners :=
        if request.signal.isSome then session.listeners ++ [promise] else session.listeners }

def resolveToolResult (fingerprint : Fingerprint) (session : CanvasSession)
    (result : ToolResultInput) : Except String (CanvasSession × List Completion) :=
  match session.completed.find? (·.requestId == result.requestId) with
  | some completed =>
    if completed.fingerprint = some (fingerprint.of result) then .ok (session, [])
    else .error ("CanvasSession 工具结果重放冲突: " ++ result.requestId)
  | none =>
    match findPending session result.requestId with
    | none => .error ("CanvasSession 工具请求不存在: " ++ result.requestId)
    | some pending =>
      if pending.request.threadId ≠ result.threadId then .error "工具结果 threadId 与请求不一致"
      else if pending.request.turnId ≠ result.turnId then .error "工具结果 turnId 与请求不一致"
      else if pending.request.toolName ≠ result.toolName then .error "工具结果 toolName 与请求不一致"
      else
        .ok (finishPending session pending (some (fingerprint.of result)),
          [⟨pending.promise, result.requestId, .resolved result⟩])

/-- One request after another is completed with an error. -/
def completeAll (session : CanvasSession) (message : String) :
    List String → CanvasSession × List Completion
  | [] => (session, [])
  | requestId :: rest =>
    let first := completeWithError session requestId message
    let others := completeAll first.1 message rest
    (others.1, first.2 ++ others.2)

def disconnect (session : CanvasSession) (reason : String) :
    Except String (CanvasSession × List Completion) :=
  if trim reason = "" then .error "CanvasSession 断开原因不能为空"
  else if session.disconnectReason.isSome then .ok (session, [])
  else
    .ok (completeAll { session with disconnectReason := some (trim reason) }
      ("CanvasSession 已断开: " ++ trim reason) (session.pending.map (·.requestId)))

/-! ### What may happen -/

/-- A request that was accepted, and how many were completed when its event was emitted. -/
structure Accepted where
  request : CanvasToolRequest
  completedBefore : ℕ

/-- The session, the requests it has accepted (a promise is a place in this list), and the promises
that have been settled, in this order. -/
structure World where
  session : CanvasSession := {}
  accepted : List Accepted := []
  log : List Completion := []

/-- The world after an operation that settles promises. -/
def World.after (w : World) (outcome : CanvasSession × List Completion) : World :=
  { w with session := outcome.1, log := w.log ++ outcome.2 }

/-- A timer that has run or a listener that was called is gone before its handler runs. -/
inductive Step (fingerprint : Fingerprint) : World → World → Prop
  | request (w : World) (request : CanvasToolRequest) (session : CanvasSession)
      (h : requestTool w.session w.accepted.length request = .ok session) :
      Step fingerprint w
        { w with
          session := session
          accepted := w.accepted ++ [⟨request, w.log.length⟩] }
  | result (w : World) (result : ToolResultInput) (outcome : CanvasSession × List Completion)
      (h : resolveToolResult fingerprint w.session result = .ok outcome) :
      Step fingerprint w (w.after outcome)
  | disconnect (w : World) (reason : String) (outcome : CanvasSession × List Completion)
      (h : disconnect w.session reason = .ok outcome) : Step fingerprint w (w.after outcome)
  | timeout (w : World) (promise : ℕ) (accepted : Accepted)
      (htimer : promise ∈ w.session.timers) (haccepted : w.accepted[promise]? = some accepted) :
      Step fingerprint w (w.after (completeWithError
        { w.session with timers := w.session.timers.filter (· != promise) }
        accepted.request.requestId
        ("CanvasSession 工具请求超时: " ++ accepted.request.requestId)))
  | abort (w : World) (promise : ℕ) (accepted : Accepted)
      (hlistener : promise ∈ w.session.listeners)
      (haccepted : w.accepted[promise]? = some accepted) :
      Step fingerprint w (w.after (completeWithError
        { w.session with listeners := w.session.listeners.filter (· != promise) }
        accepted.request.requestId
        ("CanvasSession 工具请求已取消: " ++ accepted.request.requestId)))
  | emissionFails (w : World) (promise : ℕ) (accepted : Accepted) (message : String)
      (haccepted : w.accepted[promise]? = some accepted) :
      Step fingerprint w (w.after (completeWithError w.session accepted.request.requestId message))

inductive Reach (fingerprint : Fingerprint) : World → Prop
  | start : Reach fingerprint {}
  | step {w w' : World} (hreach : Reach fingerprint w) (hstep : Step fingerprint w w') :
      Reach fingerprint w'

/-! ### What holds in between -/

/-- What the memory of completions keeps of one. -/
def Completion.remembered (fingerprint : Fingerprint) (completion : Completion) : Completed :=
  match completion.settlement with
  | .resolved result => ⟨completion.requestId, some (fingerprint.of result)⟩
  | .rejected _ => ⟨completion.requestId, none⟩

/-- A result is one of the request. -/
def Settlement.Fits (request : CanvasToolRequest) : Settlement → Prop
  | .resolved result => result.requestId = request.requestId ∧ result.threadId = request.threadId ∧
      result.turnId = request.turnId ∧ result.toolName = request.toolName
  | .rejected _ => True

/-- The identifiers of the requests that wait are distinct and not remembered as completed; what is
remembered are the last completions; promises wait or are settled, once. -/
structure Consistent (fingerprint : Fingerprint) (w : World) : Prop where
  distinct : (w.session.pending.map PendingToolRequest.requestId).Nodup
  known : ∀ p ∈ w.session.pending, ∃ at', w.accepted[p.promise]? = some ⟨p.request, at'⟩
  once : (w.log.map Completion.promise).Nodup
  fits : ∀ c ∈ w.log, ∃ a, w.accepted[c.promise]? = some a ∧ a.request.requestId = c.requestId ∧
    c.settlement.Fits a.request
  waits : ∀ n < w.accepted.length,
    (∃ p ∈ w.session.pending, p.promise = n) ↔ n ∉ w.log.map Completion.promise
  remembers : w.session.completed =
    (w.log.map (Completion.remembered fingerprint)).rtake maxCompletedToolRequests
  apart : ∀ p ∈ w.session.pending, ∀ c ∈ w.session.completed, c.requestId ≠ p.requestId
  completed : (w.session.completed.map Completed.requestId).Nodup
  timers : ∀ n, n ∈ w.session.timers ↔ ∃ p ∈ w.session.pending, p.promise = n
  listeners : ∀ n ∈ w.session.listeners, ∃ p ∈ w.session.pending, p.promise = n
  spaced : ∀ n m a b, n < m → w.accepted[n]? = some a → w.accepted[m]? = some b →
    a.request.requestId = b.request.requestId →
      ∃ i c, w.log[i]? = some c ∧ c.promise = n ∧ i + maxCompletedToolRequests < b.completedBefore

section

variable {fingerprint : Fingerprint} {w w' : World} {p : PendingToolRequest}

theorem rtake_concat {α : Type} (l : List α) (a : α) (n : ℕ) :
    (l.rtake n ++ [a]).rtake n = (l ++ [a]).rtake n := by
  cases n with
  | zero => simp
  | succ n =>
    rw [List.rtake_concat_succ, List.rtake_concat_succ]
    congr 1
    rw [List.rtake_eq_reverse_take_reverse, List.rtake_eq_reverse_take_reverse,
      List.rtake_eq_reverse_take_reverse, List.reverse_reverse, List.take_take]
    congr 2
    omega

namespace Consistent

/-- A request waits under one identifier only. -/
theorem eq_of_requestId (h : Consistent fingerprint w) {q : PendingToolRequest}
    (hp : p ∈ w.session.pending) (hq : q ∈ w.session.pending) (heq : q.requestId = p.requestId) :
    q = p :=
  List.inj_on_of_nodup_map h.distinct hq hp heq

theorem eq_of_promise (h : Consistent fingerprint w) {q : PendingToolRequest}
    (hp : p ∈ w.session.pending) (hq : q ∈ w.session.pending) (heq : q.promise = p.promise) :
    q = p := by
  obtain ⟨at', hp'⟩ := h.known p hp
  obtain ⟨at'', hq'⟩ := h.known q hq
  rw [heq, hp'] at hq'
  have hrequest : p.request = q.request := by
    simp only [Option.some.injEq, Accepted.mk.injEq] at hq'
    exact hq'.1
  refine h.eq_of_requestId hp hq ?_
  rw [PendingToolRequest.requestId, PendingToolRequest.requestId, hrequest]

theorem promise_lt (h : Consistent fingerprint w) (hp : p ∈ w.session.pending) :
    p.promise < w.accepted.length := by
  obtain ⟨at', hp'⟩ := h.known p hp
  exact (List.getElem?_eq_some_iff.mp hp').1

theorem not_settled (h : Consistent fingerprint w) (hp : p ∈ w.session.pending) :
    p.promise ∉ w.log.map Completion.promise :=
  (h.waits _ (h.promise_lt hp)).mp ⟨p, hp, rfl⟩

/-- What is completed next is remembered after the others. -/
theorem setCompleted_eq (h : Consistent fingerprint w) (hp : p ∈ w.session.pending)
    (value : Option String) : setCompleted w.session.completed ⟨p.requestId, value⟩ =
      w.session.completed ++ [⟨p.requestId, value⟩] := by
  have hnone : w.session.completed.any (·.requestId == p.requestId) = false := by
    rw [List.any_eq_false]
    intro c hc
    simpa using h.apart p hp c hc
  rw [setCompleted, if_neg (by simp [hnone])]

end Consistent

/-- The other requests wait on. -/
theorem mem_pending_finish (h : Consistent fingerprint w) (hp : p ∈ w.session.pending)
    (value : Option String) {q : PendingToolRequest} :
    q ∈ (finishPending w.session p value).pending ↔
      q ∈ w.session.pending ∧ q.promise ≠ p.promise := by
  rw [finishPending, List.mem_filter, bne_iff_ne]
  constructor
  · rintro ⟨hq, hne⟩
    refine ⟨hq, fun heq ↦ hne ?_⟩
    rw [h.eq_of_promise hp hq heq]
  · rintro ⟨hq, hne⟩
    refine ⟨hq, fun heq ↦ hne ?_⟩
    rw [h.eq_of_requestId hp hq heq]

/-- **One request is completed.** -/
theorem Consistent.finish (h : Consistent fingerprint w) (hp : p ∈ w.session.pending)
    {settlement : Settlement} (hfits : settlement.Fits p.request) {value : Option String}
    (hvalue : (Completion.mk p.promise p.requestId settlement).remembered fingerprint =
      ⟨p.requestId, value⟩) :
    Consistent fingerprint (w.after (finishPending w.session p value,
      [⟨p.promise, p.requestId, settlement⟩])) := by
  have hcompleted : (finishPending w.session p value).completed =
      ((w.log ++ [Completion.mk p.promise p.requestId settlement]).map
        (Completion.remembered fingerprint)).rtake maxCompletedToolRequests := by
    rw [finishPending, h.setCompleted_eq hp, h.remembers, rtake_concat, List.map_append,
      List.map_singleton, hvalue]
  have hsub : ∀ c ∈ (finishPending w.session p value).completed,
      c ∈ w.session.completed ∨ c = ⟨p.requestId, value⟩ := by
    intro c hc
    rw [finishPending, h.setCompleted_eq hp] at hc
    have hmem := (List.drop_suffix _ _).subset hc
    simpa using hmem
  constructor
  · exact h.distinct.sublist (List.filter_sublist.map _)
  · intro q hq
    exact h.known q ((mem_pending_finish h hp value).mp hq).1
  · have hnew := h.not_settled hp
    rw [World.after, List.map_append, List.map_singleton]
    exact List.nodup_append.mpr ⟨h.once, List.nodup_singleton _, by
      intro n hn m hm
      rw [List.mem_singleton.mp hm]
      rintro rfl
      exact hnew hn⟩
  · intro c hc
    rcases List.mem_append.mp hc with hc | hc
    · exact h.fits c hc
    · rw [List.mem_singleton.mp hc]
      obtain ⟨at', hp'⟩ := h.known p hp
      exact ⟨_, hp', rfl, hfits⟩
  · intro n hn
    have hbefore := h.waits n hn
    have hmem : n ∈ (w.log ++ [Completion.mk p.promise p.requestId settlement]).map
        Completion.promise ↔
        n ∈ w.log.map Completion.promise ∨ n = p.promise := by
      simp
    rw [World.after, hmem, not_or, ← hbefore]
    constructor
    · rintro ⟨q, hq, rfl⟩
      obtain ⟨hq, hne⟩ := (mem_pending_finish h hp value).mp hq
      exact ⟨⟨q, hq, rfl⟩, hne⟩
    · rintro ⟨⟨q, hq, rfl⟩, hne⟩
      exact ⟨q, (mem_pending_finish h hp value).mpr ⟨hq, hne⟩, rfl⟩
  · exact hcompleted
  · intro q hq c hc
    obtain ⟨hq', hne⟩ := (mem_pending_finish h hp value).mp hq
    rcases hsub c hc with hc | rfl
    · exact h.apart q hq' c hc
    · intro heq
      exact hne (congrArg PendingToolRequest.promise (h.eq_of_requestId hp hq' heq.symm))
  · have hnodup : ((w.session.completed ++ [Completed.mk p.requestId value]).map
        Completed.requestId).Nodup := by
      rw [List.map_append, List.map_singleton]
      refine List.nodup_append.mpr ⟨h.completed, List.nodup_singleton _, ?_⟩
      intro n hn m hm
      obtain ⟨c, hc, rfl⟩ := List.mem_map.mp hn
      rw [List.mem_singleton.mp hm]
      exact h.apart p hp c hc
    have hfinish : (finishPending w.session p value).completed =
        (w.session.completed ++ [Completed.mk p.requestId value]).rtake
          maxCompletedToolRequests := by
      rw [finishPending, h.setCompleted_eq hp]
    rw [World.after, hfinish]
    exact hnodup.sublist ((List.drop_sublist _ _).map _)
  · intro n
    have hbefore := h.timers n
    rw [World.after, finishPending, List.mem_filter, bne_iff_ne, hbefore]
    constructor
    · rintro ⟨⟨q, hq, rfl⟩, hne⟩
      exact ⟨q, (mem_pending_finish h hp value).mpr ⟨hq, hne⟩, rfl⟩
    · rintro ⟨q, hq, rfl⟩
      obtain ⟨hq, hne⟩ := (mem_pending_finish h hp value).mp hq
      exact ⟨⟨q, hq, rfl⟩, hne⟩
  · intro n hn
    rw [World.after, finishPending, List.mem_filter, bne_iff_ne] at hn
    obtain ⟨q, hq, rfl⟩ := h.listeners n hn.1
    exact ⟨q, (mem_pending_finish h hp value).mpr ⟨hq, hn.2⟩, rfl⟩
  · intro n m a b hlt ha hb heq
    obtain ⟨i, c, hc, hpromise, hspace⟩ := h.spaced n m a b hlt ha hb heq
    refine ⟨i, c, ?_, hpromise, hspace⟩
    rw [World.after, List.getElem?_append_left (List.getElem?_eq_some_iff.mp hc).1]
    exact hc

/-! ### Each step -/

theorem findPending_eq_some (h : Consistent fingerprint w) (hp : p ∈ w.session.pending) :
    findPending w.session p.requestId = some p := by
  obtain ⟨q, hq⟩ := Option.isSome_iff_exists.mp
    (List.find?_isSome (p := (·.requestId == p.requestId)) |>.mpr
      ⟨p, hp, beq_self_eq_true p.requestId⟩)
  have hid : q.requestId = p.requestId := by
    simpa using List.find?_some hq
  rw [findPending, hq, h.eq_of_requestId hp (List.mem_of_find?_eq_some hq) hid]

/-- Either the request is completed, or none waits under the identifier. -/
theorem completeWithError_cases (session : CanvasSession) (requestId message : String) :
    (∀ p ∈ session.pending, p.requestId ≠ requestId) ∧
      completeWithError session requestId message = (session, []) ∨
    ∃ p ∈ session.pending, p.requestId = requestId ∧
      completeWithError session requestId message =
        (finishPending session p none, [⟨p.promise, p.requestId, .rejected message⟩]) := by
  rw [completeWithError]
  cases hfind : findPending session requestId with
  | none =>
    refine Or.inl ⟨?_, rfl⟩
    intro p hp
    simpa using List.find?_eq_none.mp hfind p hp
  | some p =>
    have hid : p.requestId = requestId := by
      simpa using List.find?_some hfind
    exact Or.inr ⟨p, List.mem_of_find?_eq_some hfind, hid, by rw [hid]⟩

theorem World.after_nil (w : World) : w.after (w.session, []) = w := by
  rw [World.after, List.append_nil]

theorem World.after_after (w : World) (first second : CanvasSession × List Completion) :
    (w.after first).after second = w.after (second.1, first.2 ++ second.2) := by
  rw [World.after, World.after, World.after, List.append_assoc]

/-- A request fails, whoever says so. -/
theorem Consistent.fail (h : Consistent fingerprint w) (requestId message : String) :
    Consistent fingerprint (w.after (completeWithError w.session requestId message)) := by
  rcases completeWithError_cases w.session requestId message with ⟨-, heq⟩ | ⟨p, hp, -, heq⟩
  · rw [heq, w.after_nil]
    exact h
  · rw [heq]
    have hfits : (Settlement.rejected message).Fits p.request := trivial
    exact h.finish hp hfits rfl

/-- A timer or a listener of a request that waits is the request's own, and it would be removed
anyway. -/
theorem completeWithError_of_handler (h : Consistent fingerprint w) (hp : p ∈ w.session.pending)
    (message : String) {timers listeners : List ℕ}
    (htimers : timers.filter (· != p.promise) = w.session.timers.filter (· != p.promise))
    (hlisteners : listeners.filter (· != p.promise) =
      w.session.listeners.filter (· != p.promise)) :
    completeWithError { w.session with timers := timers, listeners := listeners } p.requestId
        message =
      completeWithError w.session p.requestId message := by
  have hfind := findPending_eq_some h hp
  have hfind' : findPending { w.session with timers := timers, listeners := listeners }
      p.requestId = some p := hfind
  rw [completeWithError, completeWithError, hfind, hfind']
  simp only [finishPending, htimers, hlisteners]

theorem resolveToolResult_eq_ok {result : ToolResultInput}
    {outcome : CanvasSession × List Completion}
    (hresult : resolveToolResult fingerprint w.session result = .ok outcome) :
    outcome = (w.session, []) ∧ (∃ c ∈ w.session.completed,
      c = ⟨result.requestId, some (fingerprint.of result)⟩) ∨
    ∃ p ∈ w.session.pending, (Settlement.resolved result).Fits p.request ∧
      outcome = (finishPending w.session p (some (fingerprint.of result)),
        [⟨p.promise, p.requestId, .resolved result⟩]) := by
  rw [resolveToolResult] at hresult
  cases hcompleted : w.session.completed.find? (·.requestId == result.requestId) with
  | some c =>
    rw [hcompleted] at hresult
    have hid : c.requestId = result.requestId := by
      simpa using List.find?_some hcompleted
    by_cases hsame : c.fingerprint = some (fingerprint.of result)
    · simp only [if_pos hsame, Except.ok.injEq] at hresult
      refine Or.inl ⟨hresult.symm, c, List.mem_of_find?_eq_some hcompleted, ?_⟩
      rw [← hid, ← hsame]
    · simp only [if_neg hsame, reduceCtorEq] at hresult
  | none =>
    rw [hcompleted] at hresult
    cases hfind : findPending w.session result.requestId with
    | none => simp only [hfind, reduceCtorEq] at hresult
    | some p =>
      have hid : p.requestId = result.requestId := by
        simpa using List.find?_some hfind
      simp only [hfind] at hresult
      split_ifs at hresult with hthread hturn htool
      simp only [Except.ok.injEq] at hresult
      push Not at hthread hturn htool
      refine Or.inr ⟨p, List.mem_of_find?_eq_some hfind,
        ⟨hid.symm, hthread.symm, hturn.symm, htool.symm⟩, ?_⟩
      rw [← hresult, hid]

/-- What a request that is accepted was not. -/
theorem requestTool_eq_ok {session session' : CanvasSession} {promise : ℕ}
    {request : CanvasToolRequest} (h : requestTool session promise request = .ok session') :
    session.disconnectReason = none ∧ (∀ p ∈ session.pending, p.requestId ≠ request.requestId) ∧
      (∀ c ∈ session.completed, c.requestId ≠ request.requestId) ∧
      session' = { session with
        pending := session.pending ++ [⟨request, promise⟩]
        timers := session.timers ++ [promise]
        listeners :=
          if request.signal.isSome then session.listeners ++ [promise]
          else session.listeners } := by
  rw [requestTool] at h
  by_cases hreason : session.disconnectReason.isSome
  · simp only [if_pos hreason, reduceCtorEq] at h
  rw [if_neg hreason] at h
  by_cases hidentity : request.requestId = "" ∨ request.threadId = "" ∨ request.turnId = "" ∨
      session.pending.any (·.requestId == request.requestId) = true ∨
      session.completed.any (·.requestId == request.requestId) = true
  · simp only [if_pos hidentity, reduceCtorEq] at h
  rw [if_neg hidentity] at h
  by_cases hsignal : request.signal = some true
  · simp only [if_pos hsignal, reduceCtorEq] at h
  rw [if_neg hsignal, Except.ok.injEq] at h
  simp only [not_or, Bool.not_eq_true, List.any_eq_false, beq_iff_eq] at hidentity
  obtain ⟨-, -, -, hpending, hcompleted⟩ := hidentity
  exact ⟨by simpa using hreason, hpending, hcompleted, h.symm⟩

theorem Completion.remembered_requestId (completion : Completion) :
    (completion.remembered fingerprint).requestId = completion.requestId := by
  cases completion with
  | mk promise requestId settlement => cases settlement <;> rfl

theorem mem_rtake {α : Type} {l : List α} {i n : ℕ} {a : α} (ha : l[i]? = some a)
    (hnear : l.length ≤ i + n) : a ∈ l.rtake n := by
  have hlt := (List.getElem?_eq_some_iff.mp ha).1
  refine List.mem_iff_getElem?.mpr ⟨i - (l.length - n), ?_⟩
  rw [List.rtake, List.getElem?_drop, ← ha]
  congr 1
  omega

/-- The last completions are remembered. -/
theorem Consistent.remembered_mem (h : Consistent fingerprint w) {i : ℕ} {c : Completion}
    (hc : w.log[i]? = some c) (hnear : w.log.length ≤ i + maxCompletedToolRequests) :
    c.remembered fingerprint ∈ w.session.completed := by
  rw [h.remembers]
  have hc' : (w.log.map (Completion.remembered fingerprint))[i]? =
      some (c.remembered fingerprint) := by
    rw [List.getElem?_map, hc, Option.map_some]
  exact mem_rtake hc' (by rwa [List.length_map])

/-- **A request is accepted.** -/
theorem Consistent.request (h : Consistent fingerprint w) {request : CanvasToolRequest}
    {session : CanvasSession}
    (hrequest : requestTool w.session w.accepted.length request = .ok session) :
    Consistent fingerprint
      { w with session := session, accepted := w.accepted ++ [⟨request, w.log.length⟩] } := by
  obtain ⟨-, hpending, hcompleted, rfl⟩ := requestTool_eq_ok hrequest
  have hold : ∀ {n : ℕ} {a : Accepted}, w.accepted[n]? = some a →
      (w.accepted ++ [Accepted.mk request w.log.length])[n]? = some a := by
    intro n a ha
    rw [List.getElem?_append_left (List.getElem?_eq_some_iff.mp ha).1]
    exact ha
  have hnew : (w.accepted ++ [Accepted.mk request w.log.length])[w.accepted.length]? =
      some ⟨request, w.log.length⟩ := List.getElem?_concat_length
  have hunsettled : w.accepted.length ∉ w.log.map Completion.promise := by
    intro hmem
    obtain ⟨c, hc, heq⟩ := List.mem_map.mp hmem
    obtain ⟨a, ha, -⟩ := h.fits c hc
    exact absurd (List.getElem?_eq_some_iff.mp ha).1 (by omega)
  constructor
  · rw [List.map_append, List.map_singleton]
    refine List.nodup_append.mpr ⟨h.distinct, List.nodup_singleton _, ?_⟩
    intro n hn m hm
    obtain ⟨q, hq, rfl⟩ := List.mem_map.mp hn
    rw [List.mem_singleton.mp hm]
    exact hpending q hq
  · intro q hq
    rcases List.mem_append.mp hq with hq | hq
    · obtain ⟨at', hknown⟩ := h.known q hq
      exact ⟨at', hold hknown⟩
    · rw [List.mem_singleton.mp hq]
      exact ⟨_, hnew⟩
  · exact h.once
  · intro c hc
    obtain ⟨a, ha, hfits⟩ := h.fits c hc
    exact ⟨a, hold ha, hfits⟩
  · intro n hn
    rw [List.length_append, List.length_singleton] at hn
    rcases Nat.lt_succ_iff_lt_or_eq.mp hn with hlt | rfl
    · rw [← h.waits n hlt]
      constructor
      · rintro ⟨q, hq, rfl⟩
        rcases List.mem_append.mp hq with hq | hq
        · exact ⟨q, hq, rfl⟩
        · rw [List.mem_singleton.mp hq] at hlt
          exact absurd hlt (lt_irrefl _)
      · rintro ⟨q, hq, rfl⟩
        exact ⟨q, List.mem_append_left _ hq, rfl⟩
    · exact ⟨fun _ ↦ hunsettled,
        fun _ ↦ ⟨_, List.mem_append_right _ (List.mem_singleton_self _), rfl⟩⟩
  · exact h.remembers
  · intro q hq c hc
    rcases List.mem_append.mp hq with hq | hq
    · exact h.apart q hq c hc
    · rw [List.mem_singleton.mp hq]
      exact hcompleted c hc
  · exact h.completed
  · intro n
    rw [List.mem_append, h.timers n, List.mem_singleton]
    constructor
    · rintro (⟨q, hq, rfl⟩ | rfl)
      · exact ⟨q, List.mem_append_left _ hq, rfl⟩
      · exact ⟨_, List.mem_append_right _ (List.mem_singleton_self _), rfl⟩
    · rintro ⟨q, hq, rfl⟩
      rcases List.mem_append.mp hq with hq | hq
      · exact Or.inl ⟨q, hq, rfl⟩
      · rw [List.mem_singleton.mp hq]
        exact Or.inr rfl
  · intro n hn
    have hcases : n ∈ w.session.listeners ∨ n = w.accepted.length := by
      by_cases hsignal : request.signal.isSome
      · simpa [hsignal] using hn
      · exact Or.inl (by simpa [hsignal] using hn)
    rcases hcases with hn | rfl
    · obtain ⟨q, hq, rfl⟩ := h.listeners n hn
      exact ⟨q, List.mem_append_left _ hq, rfl⟩
    · exact ⟨_, List.mem_append_right _ (List.mem_singleton_self _), rfl⟩
  · intro n m a b hlt ha hb heq
    have hm := (List.getElem?_eq_some_iff.mp hb).1
    rw [List.length_append, List.length_singleton] at hm
    have hn : n < w.accepted.length := by omega
    rw [List.getElem?_append_left hn] at ha
    rcases Nat.lt_succ_iff_lt_or_eq.mp hm with hm | rfl
    · rw [List.getElem?_append_left hm] at hb
      exact h.spaced n m a b hlt ha hb heq
    rw [hnew, Option.some.injEq] at hb
    subst hb
    -- The first request does not wait, and its completion is not remembered.
    have hsettled : n ∈ w.log.map Completion.promise := by
      by_contra hwaits
      obtain ⟨q, hq, rfl⟩ := (h.waits n hn).mpr hwaits
      obtain ⟨at', hknown⟩ := h.known q hq
      rw [hknown, Option.some.injEq] at ha
      subst ha
      exact hpending q hq heq
    obtain ⟨c, hc, rfl⟩ := List.mem_map.mp hsettled
    obtain ⟨i, hi⟩ := List.mem_iff_getElem?.mp hc
    refine ⟨i, c, hi, rfl, ?_⟩
    by_contra hnear
    obtain ⟨a', ha', hid, -⟩ := h.fits c hc
    rw [ha, Option.some.injEq] at ha'
    subst ha'
    refine hcompleted _ (h.remembered_mem hi (not_lt.mp hnear)) ?_
    rw [Completion.remembered_requestId, ← hid, heq]

theorem Consistent.completeAll (h : Consistent fingerprint w) (message : String)
    (requestIds : List String) :
    Consistent fingerprint (w.after (completeAll w.session message requestIds)) := by
  induction requestIds generalizing w with
  | nil =>
    rw [LocalAgent.completeAll, w.after_nil]
    exact h
  | cons requestId rest ih =>
    rw [LocalAgent.completeAll, ← w.after_after]
    exact ih (h.fail requestId message)

/-- None of them waits any more, and nobody else begins to. -/
theorem pending_completeAll (session : CanvasSession) (message : String)
    (requestIds : List String) (q : PendingToolRequest)
    (hq : q ∈ (completeAll session message requestIds).1.pending) :
    q ∈ session.pending ∧ q.requestId ∉ requestIds := by
  induction requestIds generalizing session with
  | nil => exact ⟨hq, List.not_mem_nil⟩
  | cons requestId rest ih =>
    obtain ⟨hfirst, hrest⟩ := ih _ hq
    have hone : q ∈ session.pending ∧ q.requestId ≠ requestId := by
      rcases completeWithError_cases session requestId message with ⟨hnone, heq⟩ | ⟨p, -, rfl, heq⟩
      · rw [heq] at hfirst
        exact ⟨hfirst, hnone q hfirst⟩
      · rw [heq, finishPending, List.mem_filter, bne_iff_ne] at hfirst
        exact hfirst
    exact ⟨hone.1, by simp [hone.2, hrest]⟩

theorem disconnectReason_fail (session : CanvasSession) (requestId message : String) :
    (completeWithError session requestId message).1.disconnectReason =
      session.disconnectReason := by
  rcases completeWithError_cases session requestId message with ⟨-, heq⟩ | ⟨p, -, -, heq⟩ <;>
    rw [heq]
  rfl

theorem disconnect_eq_ok {session : CanvasSession} {reason : String}
    {outcome : CanvasSession × List Completion}
    (h : disconnect session reason = .ok outcome) :
    outcome = (session, []) ∨
    outcome = completeAll { session with disconnectReason := some (trim reason) }
      ("CanvasSession 已断开: " ++ trim reason) (session.pending.map (·.requestId)) := by
  rw [disconnect] at h
  split_ifs at h with hreason hconnected
  · exact Or.inl (Except.ok.inj h).symm
  · exact Or.inr (Except.ok.inj h).symm

/-- The reason of the end is not looked at by what is consistent. -/
theorem Consistent.withReason (h : Consistent fingerprint w) (reason : Option String) :
    Consistent fingerprint
      { w with session := { w.session with disconnectReason := reason } } := by
  constructor
  exacts [h.distinct, h.known, h.once, h.fits, h.waits, h.remembers, h.apart, h.completed,
    h.timers, h.listeners, h.spaced]

theorem filter_filter_ne (l : List ℕ) (n : ℕ) :
    (l.filter (· != n)).filter (· != n) = l.filter (· != n) := by
  rw [List.filter_filter]
  simp only [Bool.and_self]

/-- **Each step keeps the session consistent.** -/
theorem Step.consistent (hstep : Step fingerprint w w') (h : Consistent fingerprint w) :
    Consistent fingerprint w' := by
  cases hstep with
  | request request session hrequest => exact h.request hrequest
  | result result outcome hresult =>
    rcases resolveToolResult_eq_ok hresult with ⟨rfl, -⟩ | ⟨p, hp, hfits, rfl⟩
    · rw [w.after_nil]
      exact h
    · exact h.finish hp hfits rfl
  | disconnect reason outcome hdisconnect =>
    rcases disconnect_eq_ok hdisconnect with rfl | rfl
    · rw [w.after_nil]
      exact h
    · exact (h.withReason _).completeAll _ _
  | timeout promise accepted htimer haccepted =>
    obtain ⟨q, hq, rfl⟩ := (h.timers promise).mp htimer
    obtain ⟨at', hknown⟩ := h.known q hq
    rw [haccepted, Option.some.injEq] at hknown
    subst hknown
    have heq := completeWithError_of_handler h hq
      ("CanvasSession 工具请求超时: " ++ q.requestId)
      (filter_filter_ne w.session.timers q.promise) (Eq.refl _)
    rw [show q.request.requestId = q.requestId from rfl, heq]
    exact h.fail _ _
  | abort promise accepted hlistener haccepted =>
    obtain ⟨q, hq, rfl⟩ := h.listeners promise hlistener
    obtain ⟨at', hknown⟩ := h.known q hq
    rw [haccepted, Option.some.injEq] at hknown
    subst hknown
    have heq := completeWithError_of_handler h hq
      ("CanvasSession 工具请求已取消: " ++ q.requestId)
      (Eq.refl _) (filter_filter_ne w.session.listeners q.promise)
    rw [show q.request.requestId = q.requestId from rfl, heq]
    exact h.fail _ _
  | emissionFails promise accepted message haccepted => exact h.fail _ _

theorem consistent_start (fingerprint : Fingerprint) : Consistent fingerprint {} := by
  constructor <;> simp [List.rtake]

/-- **Every world that is reached is consistent.** -/
theorem Reach.consistent (h : Reach fingerprint w) : Consistent fingerprint w := by
  induction h with
  | start => exact consistent_start fingerprint
  | step _ hstep ih => exact hstep.consistent ih

/-- Once the session has ended, nothing waits. -/
def Closed (w : World) : Prop :=
  w.session.disconnectReason ≠ none → w.session.pending = []

theorem Closed.fail (h : Closed w) (requestId message : String) :
    Closed (w.after (completeWithError w.session requestId message)) := by
  intro hreason
  have hpending := h (by rwa [World.after, disconnectReason_fail] at hreason)
  rcases completeWithError_cases w.session requestId message with ⟨-, heq⟩ | ⟨p, hp, -, -⟩
  · rw [World.after, heq]
    exact hpending
  · rw [hpending] at hp
    exact absurd hp List.not_mem_nil

theorem Step.closed (hstep : Step fingerprint w w') (h : Closed w) : Closed w' := by
  cases hstep with
  | request request session hrequest =>
    obtain ⟨hreason, -, -, rfl⟩ := requestTool_eq_ok hrequest
    exact fun hclosed ↦ absurd hreason hclosed
  | result result outcome hresult =>
    rcases resolveToolResult_eq_ok hresult with ⟨rfl, -⟩ | ⟨p, hp, -, rfl⟩
    · rw [w.after_nil]
      exact h
    · intro hreason
      rw [h hreason] at hp
      exact absurd hp List.not_mem_nil
  | disconnect reason outcome hdisconnect =>
    rcases disconnect_eq_ok hdisconnect with rfl | rfl
    · rw [w.after_nil]
      exact h
    · intro _
      refine List.eq_nil_iff_forall_not_mem.mpr fun q hq ↦ ?_
      obtain ⟨hmem, hnot⟩ := pending_completeAll _ _ _ q hq
      exact hnot (List.mem_map_of_mem hmem)
  | timeout promise accepted htimer haccepted =>
    exact Closed.fail (w := { w with session :=
      { w.session with timers := w.session.timers.filter (· != promise) } }) h _ _
  | abort promise accepted hlistener haccepted =>
    exact Closed.fail (w := { w with session :=
      { w.session with listeners := w.session.listeners.filter (· != promise) } }) h _ _
  | emissionFails promise accepted message haccepted => exact h.fail _ _

theorem Reach.closed (h : Reach fingerprint w) : Closed w := by
  induction h with
  | start => exact fun hreason ↦ absurd rfl hreason
  | step _ hstep ih => exact hstep.closed ih

/-! ### What the session promises -/

/-- Every promise waits or is settled, once; a result is one of its own request; and as long as
fewer than 4096 requests were completed after it, a request is known, its result may be repeated,
and no other is taken. -/
structure Settles (fingerprint : Fingerprint) (w : World) : Prop where
  once : ∀ n < w.accepted.length, (w.log.map Completion.promise).count n =
    if ∃ p ∈ w.session.pending, p.promise = n then 0 else 1
  ended : w.session.disconnectReason ≠ none →
    ∀ n < w.accepted.length, (w.log.map Completion.promise).count n = 1
  own : ∀ c ∈ w.log, ∃ a, w.accepted[c.promise]? = some a ∧ c.settlement.Fits a.request
  silent : ∀ i c result, w.log[i]? = some c → w.log.length ≤ i + maxCompletedToolRequests →
    c.settlement = .resolved result →
      resolveToolResult fingerprint w.session result = .ok (w.session, [])
  refused : ∀ i c result, w.log[i]? = some c → w.log.length ≤ i + maxCompletedToolRequests →
    result.requestId = c.requestId → c.settlement ≠ .resolved result →
      ∃ message, resolveToolResult fingerprint w.session result = .error message
  answered : ∀ result outcome, resolveToolResult fingerprint w.session result = .ok outcome →
    outcome = (w.session, []) ∧ (∃ i c, w.log[i]? = some c ∧
      w.log.length ≤ i + maxCompletedToolRequests ∧ c.settlement = .resolved result) ∨
    ∃ p ∈ w.session.pending, p.promise ∉ w.log.map Completion.promise ∧
      outcome.2 = [⟨p.promise, p.requestId, .resolved result⟩] ∧
      (Settlement.resolved result).Fits p.request
  emitted : ∀ n m a b, n < m → w.accepted[n]? = some a → w.accepted[m]? = some b →
    a.request.requestId = b.request.requestId →
      ∃ i c, w.log[i]? = some c ∧ c.promise = n ∧ i + maxCompletedToolRequests < b.completedBefore
  timers : ∀ n, n ∈ w.session.timers ↔ ∃ p ∈ w.session.pending, p.promise = n
  listeners : ∀ n ∈ w.session.listeners, ∃ p ∈ w.session.pending, p.promise = n
  expires : ∀ p ∈ w.session.pending, ∃ w', Step fingerprint w w' ∧
    p.promise ∈ w'.log.map Completion.promise

theorem exists_of_mem_rtake {α : Type} {l : List α} {n : ℕ} {a : α} (ha : a ∈ l.rtake n) :
    ∃ i, l[i]? = some a ∧ l.length ≤ i + n := by
  obtain ⟨i, hi⟩ := List.mem_iff_getElem?.mp ha
  rw [List.rtake, List.getElem?_drop] at hi
  exact ⟨_, hi, by omega⟩

theorem Completion.remembered_resolved {c : Completion} {result : ToolResultInput}
    (h : c.settlement = .resolved result) :
    c.remembered fingerprint = ⟨c.requestId, some (fingerprint.of result)⟩ := by
  rw [remembered, h]

theorem Completion.resolved_of_remembered {c : Completion} {result : ToolResultInput}
    (h : (c.remembered fingerprint).fingerprint = some (fingerprint.of result)) :
    c.settlement = .resolved result := by
  cases c with
  | mk promise requestId settlement =>
    cases settlement with
    | rejected message => exact absurd h (by simp [remembered])
    | resolved other =>
      have hof : fingerprint.of other = fingerprint.of result := by
        simpa [remembered] using h
      exact congrArg Settlement.resolved (fingerprint.injective hof)

namespace Consistent

/-- The memory has one entry of a request. -/
theorem find_completed (h : Consistent fingerprint w) {i : ℕ} {c : Completion}
    (hc : w.log[i]? = some c) (hnear : w.log.length ≤ i + maxCompletedToolRequests) :
    w.session.completed.find? (·.requestId == c.requestId) = some (c.remembered fingerprint) := by
  have hmem := h.remembered_mem hc hnear
  obtain ⟨entry, hentry⟩ := Option.isSome_iff_exists.mp
    (List.find?_isSome (p := (·.requestId == c.requestId)) |>.mpr
      ⟨_, hmem, by rw [Completion.remembered_requestId, beq_self_eq_true]⟩)
  have hid : entry.requestId = c.requestId := by
    simpa using List.find?_some hentry
  rw [hentry, List.inj_on_of_nodup_map h.completed (List.mem_of_find?_eq_some hentry) hmem
    (by rw [hid, Completion.remembered_requestId])]

theorem count_eq (h : Consistent fingerprint w) {n : ℕ} (hn : n < w.accepted.length) :
    (w.log.map Completion.promise).count n =
      if ∃ p ∈ w.session.pending, p.promise = n then 0 else 1 := by
  split_ifs with hwaits
  · exact List.count_eq_zero.mpr ((h.waits n hn).mp hwaits)
  · exact List.count_eq_one_of_mem h.once (not_not.mp fun hnot ↦ hwaits ((h.waits n hn).mpr hnot))

end Consistent

/-- **Each request is settled once.** -/
theorem settlesOnce (h : Reach fingerprint w) : Settles fingerprint w := by
  have hw := h.consistent
  constructor
  · exact fun n hn ↦ hw.count_eq hn
  · intro hreason n hn
    rw [hw.count_eq hn, h.closed hreason]
    simp
  · intro c hc
    obtain ⟨a, ha, -, hfits⟩ := hw.fits c hc
    exact ⟨a, ha, hfits⟩
  · intro i c result hc hnear hresolved
    obtain ⟨a, -, hid, hfits⟩ := hw.fits c (List.mem_of_getElem? hc)
    rw [hresolved] at hfits
    have hsame : result.requestId = c.requestId := hfits.1.trans hid
    rw [resolveToolResult, hsame, hw.find_completed hc hnear]
    simp only [Completion.remembered_resolved hresolved, if_true]
  · intro i c result hc hnear hsame hother
    rw [resolveToolResult, hsame, hw.find_completed hc hnear]
    have hne : (c.remembered fingerprint).fingerprint ≠ some (fingerprint.of result) :=
      fun heq ↦ hother (Completion.resolved_of_remembered heq)
    simp only [if_neg hne]
    exact ⟨_, rfl⟩
  · intro result outcome hresult
    rcases resolveToolResult_eq_ok hresult with ⟨hsilent, entry, hentry, heq⟩ | ⟨p, hp, hfits, rfl⟩
    · left
      rw [hw.remembers] at hentry
      obtain ⟨i, hi, hnear⟩ := exists_of_mem_rtake hentry
      rw [List.getElem?_map, Option.map_eq_some_iff] at hi
      obtain ⟨c, hc, hremembered⟩ := hi
      rw [List.length_map] at hnear
      have hof : (c.remembered fingerprint).fingerprint = some (fingerprint.of result) := by
        rw [hremembered, heq]
      exact ⟨hsilent, i, c, hc, hnear, Completion.resolved_of_remembered hof⟩
    · exact Or.inr ⟨p, hp, hw.not_settled hp, rfl, hfits⟩
  · exact hw.spaced
  · exact hw.timers
  · exact hw.listeners
  · intro p hp
    obtain ⟨at', hknown⟩ := hw.known p hp
    refine ⟨_, .timeout w p.promise _ ((hw.timers _).mpr ⟨p, hp, rfl⟩) hknown, ?_⟩
    have hfind := findPending_eq_some hw hp
    have hfail := completeWithError_of_handler hw hp
      ("CanvasSession 工具请求超时: " ++ p.requestId)
      (filter_filter_ne w.session.timers p.promise) (Eq.refl _)
    rw [show p.request.requestId = p.requestId from rfl, hfail, completeWithError, hfind,
      World.after]
    simp

/-! ### A session that forgets -/

def nthId (n : ℕ) : String :=
  String.ofList (List.replicate (n + 1) 'a')

def nthRequest (n : ℕ) : CanvasToolRequest :=
  ⟨nthId n, "thread", "turn", "canvas_get_state", .null, .null, none⟩

def firstResult : ToolResultInput :=
  ⟨nthId 0, "thread", "turn", "canvas_get_state", true, "1", none, none⟩

/-- The first request has its result, and the event of none of the next `n` can be sent. -/
def forgetful (n : ℕ) : List Completion :=
  ⟨0, nthId 0, .resolved firstResult⟩ ::
    (List.range n).map fun k ↦ ⟨k + 1, nthId (k + 1), .rejected "CanvasSession 事件发送失败"⟩

theorem nthId_injective : Function.Injective nthId := by
  intro n m h
  have hlength := congrArg List.length (String.ofList_injective h)
  simpa using hlength

theorem nthId_ne_empty (n : ℕ) : nthId n ≠ "" := by
  intro h
  have hlength := congrArg String.length h
  simp [nthId] at hlength

theorem requestId_mem_forgetful {n : ℕ} {c : Completion} (hc : c ∈ forgetful n) :
    ∃ k ≤ n, c.requestId = nthId k := by
  rcases List.mem_cons.mp hc with rfl | hc
  · exact ⟨0, Nat.zero_le _, rfl⟩
  · obtain ⟨k, hk, rfl⟩ := List.mem_map.mp hc
    exact ⟨k + 1, List.mem_range.mp hk, rfl⟩

/-- Results can be told apart by a text. -/
theorem nonempty_fingerprint : Nonempty Fingerprint := by
  have hchar : Countable Char := ⟨Char.toNat, fun a b h ↦ Char.toNat_inj.mp h⟩
  have hstring : Countable String := Function.Injective.countable (f := String.toList)
    fun a b h ↦ String.toList_inj.mp h
  have hresult : Countable ToolResultInput := by
    refine Function.Injective.countable (f := fun r : ToolResultInput ↦ (r.requestId, r.threadId,
      r.turnId, r.toolName, r.succeeded, r.output, r.errorCode, r.errorMessage)) ?_
    intro a b h
    cases a
    cases b
    simpa using h
  obtain ⟨f, hf⟩ := Countable.exists_injective_nat ToolResultInput
  exact ⟨⟨nthId ∘ f, nthId_injective.comp hf⟩⟩

/-- A request of a new identifier is accepted. -/
theorem exists_next (hreach : Reach fingerprint w) (hpending : w.session.pending = [])
    (hreason : w.session.disconnectReason = none) {n : ℕ} (hn : w.accepted.length = n)
    (hfresh : ∀ c ∈ w.log, c.requestId ≠ nthId n) :
    ∃ session, Reach fingerprint
        { w with session := session, accepted := w.accepted ++ [⟨nthRequest n, w.log.length⟩] } ∧
      session.pending = [⟨nthRequest n, n⟩] ∧ session.disconnectReason = none ∧
      session.completed = w.session.completed := by
  have hcompleted : ∀ entry ∈ w.session.completed, entry.requestId ≠ nthId n := by
    intro entry hentry
    rw [hreach.consistent.remembers] at hentry
    obtain ⟨c, hc, rfl⟩ := List.mem_map.mp ((List.drop_suffix _ _).subset hentry)
    rw [Completion.remembered_requestId]
    exact hfresh c hc
  have hok : requestTool w.session w.accepted.length (nthRequest n) = .ok
      { w.session with
        pending := [⟨nthRequest n, n⟩]
        disconnectReason := none
        timers := w.session.timers ++ [n] } := by
    have hidentity : ¬((nthRequest n).requestId = "" ∨ (nthRequest n).threadId = "" ∨
        (nthRequest n).turnId = "" ∨
        w.session.pending.any (·.requestId == (nthRequest n).requestId) = true ∨
        w.session.completed.any (·.requestId == (nthRequest n).requestId) = true) := by
      rw [hpending]
      simp only [nthRequest, List.any_nil, Bool.false_eq_true, false_or, not_or, List.any_eq_true,
        not_exists, not_and, beq_iff_eq]
      exact ⟨nthId_ne_empty n, by decide, by decide, hcompleted⟩
    rw [requestTool, hreason, if_neg (by simp), if_neg hidentity, if_neg (by simp [nthRequest]),
      hpending, hn]
    rfl
  exact ⟨_, hreach.step (.request w _ _ hok), rfl, rfl, rfl⟩

/-- The new request waits alone, so that nothing waits after it. -/
theorem pending_finish_alone {session : CanvasSession} {p : PendingToolRequest}
    (hpending : session.pending = [p]) (value : Option String) :
    (finishPending session p value).pending = [] := by
  rw [finishPending, hpending]
  simp

theorem exists_forgetful (fingerprint : Fingerprint) (n : ℕ) :
    ∃ w, Reach fingerprint w ∧ w.session.pending = [] ∧ w.session.disconnectReason = none ∧
      w.accepted.length = n + 1 ∧ w.log = forgetful n := by
  induction n with
  | zero =>
    obtain ⟨session, hreach, hpending, hreason, hcompleted⟩ :=
      exists_next (n := 0) (Reach.start : Reach fingerprint {}) rfl rfl rfl
        (fun c hc ↦ absurd hc List.not_mem_nil)
    have hok : resolveToolResult fingerprint session firstResult =
        .ok (finishPending session ⟨nthRequest 0, 0⟩ (some (fingerprint.of firstResult)),
          [⟨0, nthId 0, .resolved firstResult⟩]) := by
      rw [resolveToolResult, hcompleted, findPending, hpending]
      rfl
    exact ⟨_, hreach.step (.result _ _ _ hok), pending_finish_alone hpending _, hreason, rfl, rfl⟩
  | succ n ih =>
    obtain ⟨w, hreach, hpending, hreason, hlength, hlog⟩ := ih
    have hfresh : ∀ c ∈ w.log, c.requestId ≠ nthId (n + 1) := by
      intro c hc
      rw [hlog] at hc
      obtain ⟨k, hk, hid⟩ := requestId_mem_forgetful hc
      rw [hid]
      exact fun heq ↦ absurd (nthId_injective heq) (by omega)
    obtain ⟨session, hnext, hpending', hreason', -⟩ :=
      exists_next hreach hpending hreason hlength hfresh
    have haccepted : (w.accepted ++ [Accepted.mk (nthRequest (n + 1)) w.log.length])[n + 1]? =
        some ⟨nthRequest (n + 1), w.log.length⟩ := by
      rw [← hlength, List.getElem?_concat_length]
    have hfail : completeWithError session (nthId (n + 1)) "CanvasSession 事件发送失败" =
        (finishPending session ⟨nthRequest (n + 1), n + 1⟩ none,
          [⟨n + 1, nthId (n + 1), .rejected "CanvasSession 事件发送失败"⟩]) := by
      have hfind : findPending session (nthId (n + 1)) = some ⟨nthRequest (n + 1), n + 1⟩ := by
        rw [findPending, hpending']
        exact List.find?_cons_of_pos (beq_self_eq_true (nthId (n + 1)))
      rw [completeWithError, hfind]
    have hstep : Step fingerprint _ _ := .emissionFails
      { w with session := session, accepted := w.accepted ++ [⟨nthRequest (n + 1), w.log.length⟩] }
      (n + 1) _ "CanvasSession 事件发送失败" haccepted
    rw [show (nthRequest (n + 1)).requestId = nthId (n + 1) from rfl, hfail] at hstep
    refine ⟨_, hnext.step hstep, pending_finish_alone hpending' none, hreason', ?_, ?_⟩
    · rw [World.after, List.length_append, hlength, List.length_singleton]
    · rw [World.after, hlog, forgetful, forgetful, List.range_succ, List.map_append,
        List.map_singleton, List.cons_append]

/-- The result that completed a request, repeated after 4096 other requests were completed, is of
none that is known. -/
theorem not_silent_forgetful :
    ¬ ∀ (fingerprint : Fingerprint) (w : World), Reach fingerprint w → ∀ c ∈ w.log, ∀ result,
      c.settlement = .resolved result →
        resolveToolResult fingerprint w.session result = .ok (w.session, []) := by
  intro hclaim
  obtain ⟨fingerprint⟩ := nonempty_fingerprint
  obtain ⟨w, hreach, hpending, -, -, hlog⟩ :=
    exists_forgetful fingerprint maxCompletedToolRequests
  have hfirst := hclaim fingerprint w hreach ⟨0, nthId 0, .resolved firstResult⟩
    (hlog ▸ List.mem_cons_self) firstResult rfl
  rcases resolveToolResult_eq_ok hfirst with ⟨-, entry, hentry, rfl⟩ | ⟨p, hp, -⟩
  · rw [hreach.consistent.remembers, hlog, forgetful, List.map_cons] at hentry
    obtain ⟨c, hc, hid⟩ : ∃ c ∈ (List.range maxCompletedToolRequests).map fun k ↦
        Completion.mk (k + 1) (nthId (k + 1)) (.rejected "CanvasSession 事件发送失败"),
        c.remembered fingerprint = ⟨nthId 0, some (fingerprint.of firstResult)⟩ := by
      rw [List.rtake] at hentry
      simpa [firstResult] using hentry
    obtain ⟨k, -, rfl⟩ := List.mem_map.mp hc
    have heq := congrArg Completed.requestId hid
    rw [Completion.remembered_requestId] at heq
    exact absurd (nthId_injective heq) (by omega)
  · rw [hpending] at hp
    exact absurd hp List.not_mem_nil

/-- The first request is settled, and the next one too. -/
theorem settlesOnce_forgetful : ∃ fingerprint w, w.log = forgetful 1 ∧ Settles fingerprint w := by
  obtain ⟨fingerprint⟩ := nonempty_fingerprint
  obtain ⟨w, hreach, -, -, -, hlog⟩ := exists_forgetful fingerprint 1
  exact ⟨fingerprint, w, hlog, settlesOnce hreach⟩

end

end LocalAgent

end HMaigc
