import HMaigc.LocalAgent.Bridge

/-!
# Every tool call is answered once

* `AnsweredOnce` — what is promised of a bridge, between its operations too.
* `Orderly` — one tool call at a time: a call is taken from the queue when those of its turn before
  it are answered, and after its turn was made active.
* `Bridge.Accounted` — where a call of the active turn is: answered, pending, in hand, or lost with
  a bridge that has failed.
* `answersOnce` — **every tool call is submitted once and answered once, and none is lost**, while
  the calls are orderly.
* `parallel` — two calls at a time, the second of which is never answered.
-/

set_option autoImplicit false

namespace HMaigc

namespace LocalAgentBridge

/-! ### What is promised -/

/-- The outcome is the run's result for the call, or a failure. -/
def Honest (views : List RuntimeView) (runId requestId : String) (outcome : Outcome) : Prop :=
  outcome.succeeded = false ∨ ∃ view ∈ views, view.runId = runId ∧ ∃ result,
    view.lastToolResult = some result ∧ result.toolCallId = requestId ∧
      result.actionVersion = 1 ∧ outcome = result.outcome

namespace Bridge

def Answered (s : Bridge) (requestId : String) : Prop :=
  requestId ∈ s.deliveries.map (·.requestId)

def Pending (s : Bridge) (run : ℕ) (requestId : String) : Prop :=
  ∃ pending, (s.runs run).pendingTool = some pending ∧ pending.requestId = requestId

end Bridge

/-- Every call is submitted at most once and answered at most once, by the run's result or a
failure; and when nothing is in flight, the calls of the active turn are answered or pending, unless
the bridge has failed. -/
structure AnsweredOnce (s : Bridge) : Prop where
  submitted : (s.submissions.map (·.event.requestId)).Nodup
  delivered : (s.deliveries.map (·.requestId)).Nodup
  honest : ∀ delivery ∈ s.deliveries,
    Honest s.views delivery.runId delivery.requestId delivery.outcome
  complete : s.Quiet → s.state.isFailed = false → ∀ run, s.active = some run →
    ∀ event ∈ s.received, event.turn = (s.runs run).turn →
      s.Answered event.requestId ∨ s.Pending run event.requestId

/-! ### Orderly calls -/

namespace Bridge

/-- Every call of the run's turn that has left the queue is answered. -/
def AllAnswered (s : Bridge) (run : ℕ) : Prop :=
  ∀ event ∈ s.taken, event.turn = (s.runs run).turn → s.Answered event.requestId

/-- The bridge is ready for a call of the run's turn. -/
structure Ready (s : Bridge) (run : ℕ) (event : ToolCallEvent) : Prop where
  activated : s.activation = .resolved
  free : (s.runs run).pendingTool = none
  new : event.requestId ∉ s.submissions.map (·.event.requestId)
  answered : s.AllAnswered run

/-- No call of the turn has left the queue. -/
def Fresh (s : Bridge) (turn : String × String) : Prop :=
  ∀ event ∈ s.taken, event.turn ≠ turn

end Bridge

/-- A call of the active turn finds the bridge ready, a final decision of it finds every call
answered or is refused, and a turn is made active before a call of it leaves the queue. -/
def Orderly (s : Bridge) : Action → Prop
  | .next => ∀ run, s.active = some run →
    (∀ event rest, s.queue = .event (.toolCall event) :: rest →
      event.turn = (s.runs run).turn → s.Ready run event) ∧
    (∀ event rest, s.queue = .event (.finalDecision event) :: rest →
      (event.threadId, event.turnId) = (s.runs run).turn →
        (s.runs run).pendingTool = none → s.AllAnswered run)
  | .answer (.turn threadId turnId) => s.Fresh (threadId, turnId)
  | .reply i (.view _) => ∀ threadId turnId, s.calls i = .creating threadId turnId →
    s.Fresh (threadId, turnId)
  | _ => True

/-! ### What holds in between -/

namespace Task

/-- The run that the head of the queue works for. -/
def run : Task → Option ℕ
  | idle => none
  | syncing run _ _ | hashing run _ _ | submitting run _ | delivering run _ _ _
  | delivered run _ _ | deciding run | interrupting run _ | closing run _ | repairing run
  | cancelling run _ => some run

/-- The call that is being answered. -/
def call : Task → Option (ℕ × ToolCallEvent)
  | syncing run event _ | hashing run event _ | submitting run event | delivering run event _ _
  | delivered run event _ => some (run, event)
  | _ => none

/-- Nothing but the end of the run's turn is on its way. -/
def Calm (task : Task) (run : ℕ) : Prop :=
  task.call = none ∧ (∀ run', task ≠ deciding run') ∧ (task.run = none ∨ task.run = some run)

theorem calm_idle (run : ℕ) : idle.Calm run :=
  ⟨rfl, fun _ ↦ nofun, Or.inl rfl⟩

/-- A task that answers no call and decides nothing is calm. -/
theorem calm_of_run {task : Task} {run : ℕ} (hcall : task.call = none)
    (hdeciding : ∀ run', task ≠ deciding run') (hrun : task.run = some run) : task.Calm run :=
  ⟨hcall, hdeciding, Or.inr hrun⟩

theorem Calm.run_eq {task : Task} {run run' : ℕ} (h : task.Calm run)
    (hrun : task.run = some run') : run = run' := by
  rcases h.2.2 with hnone | hsome
  · rw [hrun] at hnone
    cases hnone
  · rw [hrun] at hsome
    exact (Option.some.inj hsome).symm

end Task

namespace Bridge

/-- Where a call of the active turn is. -/
def Accounted (s : Bridge) (run : ℕ) (requestId : String) : Prop :=
  requestId ∈ s.deliveredRequests ∨ s.Pending run requestId ∨
    (∃ event, s.task.call = some (run, event) ∧ event.requestId = requestId) ∨
    (s.state.isFailed = true ∧ (s.runs run).pendingTool = none ∧ s.task.Calm run)

/-- Every call of the active turn but one is answered or pending. -/
def Covered (s : Bridge) (current : ℕ) (requestId : String) : Prop :=
  ∀ run, s.active = some run → ∀ event ∈ s.taken, event.turn = (s.runs run).turn →
    event.requestId ∈ s.deliveredRequests ∨ s.Pending run event.requestId ∨
      run = current ∧ event.requestId = requestId

/-- What the head of the queue relies on. -/
def Fits (s : Bridge) : Task → Prop
  | .syncing run event _ => (s.runs run).pendingTool = none ∧
      event.requestId ∉ s.submissions.map (·.event.requestId)
  | .hashing run event _ => (s.runs run).pendingTool = some event ∧
      event.requestId ∉ s.submissions.map (·.event.requestId)
  | .submitting run event => (s.runs run).pendingTool = some event
  | .delivering run event outcome _ => event.requestId ∉ s.deliveredRequests ∧
      Honest s.views (s.runs run).runId event.requestId outcome
  | .delivered _ event _ => event.requestId ∈ s.deliveredRequests
  | _ => True

/-- What holds of what was sent, and of the numbers of the runs. -/
structure Logged (s : Bridge) : Prop where
  submitted : (s.submissions.map (·.event.requestId)).Nodup
  delivered : s.deliveries.map (·.requestId) = s.deliveredRequests
  once : s.deliveredRequests.Nodup
  honest : ∀ delivery ∈ s.deliveries,
    Honest s.views delivery.runId delivery.requestId delivery.outcome
  active : ∀ run, s.active = some run → run < s.runCount

/-- A call is in hand: no other call of its run is pending. -/
structure Open (s : Bridge) (run : ℕ) (event : ToolCallEvent) : Prop where
  logged : s.Logged
  below : run < s.runCount
  pending : (s.runs run).pendingTool = none ∨ (s.runs run).pendingTool = some event
  covered : s.Covered run event.requestId

/-- What holds between the actions. -/
structure Sound (s : Bridge) : Prop where
  logged : s.Logged
  below : ∀ run, s.task.run = some run → run < s.runCount
  fits : s.Fits s.task
  pending : ∀ run event, s.task.call = some (run, event) →
    (s.runs run).pendingTool = none ∨ (s.runs run).pendingTool = some event
  accounted : ∀ run, s.active = some run → ∀ event ∈ s.taken,
    event.turn = (s.runs run).turn → s.Accounted run event.requestId

end Bridge

/-! ### What does not touch the calls -/

/-- Nothing that the calls rely on is changed: the active run is the same one, in the state it was
in or a failed one; or there is a new one, no call of whose turn has left the queue. -/
structure Aside (s s' : Bridge) : Prop where
  task : s'.task = s.task
  submissions : s'.submissions = s.submissions
  deliveries : s'.deliveries = s.deliveries
  deliveredRequests : s'.deliveredRequests = s.deliveredRequests
  taken : s'.taken = s.taken
  views : s.views ⊆ s'.views
  runCount : s.runCount ≤ s'.runCount
  pendingTool : ∀ run < s.runCount, (s'.runs run).pendingTool = (s.runs run).pendingTool
  turn : ∀ run < s.runCount, (s'.runs run).turn = (s.runs run).turn
  runId : ∀ run < s.runCount, (s'.runs run).runId = (s.runs run).runId
  active : ∀ run, s'.active = some run →
    run < s'.runCount ∧ s.Fresh (s'.runs run).turn ∨
      s.active = some run ∧ (s'.state = s.state ∨ s'.state.isFailed = true)

theorem Honest.mono {views views' : List RuntimeView} {runId requestId : String}
    {outcome : Outcome} (h : Honest views runId requestId outcome) (hviews : views ⊆ views') :
    Honest views' runId requestId outcome := by
  rcases h with hfailed | ⟨view, hview, hrun, hresult⟩
  · exact Or.inl hfailed
  · exact Or.inr ⟨view, hviews hview, hrun, hresult⟩

namespace Bridge

variable {s s' s'' : Bridge}

theorem Logged.aside (h : s.Logged) (haside : Aside s s') : s'.Logged where
  submitted := haside.submissions ▸ h.submitted
  delivered := by rw [haside.deliveries, haside.deliveredRequests, h.delivered]
  once := haside.deliveredRequests ▸ h.once
  honest delivery hdelivery :=
    (h.honest delivery (haside.deliveries ▸ hdelivery)).mono haside.views
  active run hrun := by
    rcases haside.active run hrun with ⟨hbelow, -⟩ | ⟨hactive, -⟩
    · exact hbelow
    · exact (h.active run hactive).trans_le haside.runCount

theorem Fits.aside {task : Task} (h : s.Fits task) (haside : Aside s s')
    (hbelow : ∀ run, task.run = some run → run < s.runCount) : s'.Fits task := by
  have hpending : ∀ run, task.run = some run →
      (s'.runs run).pendingTool = (s.runs run).pendingTool :=
    fun run hrun ↦ haside.pendingTool run (hbelow run hrun)
  cases task with
  | syncing run event arguments =>
    rw [Fits, hpending run rfl, haside.submissions]
    exact h
  | hashing run event arguments =>
    rw [Fits, hpending run rfl, haside.submissions]
    exact h
  | submitting run event =>
    rw [Fits, hpending run rfl]
    exact h
  | delivering run event outcome after =>
    rw [Fits, haside.deliveredRequests, haside.runId run (hbelow run rfl)]
    exact ⟨h.1, h.2.mono haside.views⟩
  | delivered run event after =>
    rw [Fits, haside.deliveredRequests]
    exact h
  | idle | deciding | interrupting | closing | repairing | cancelling => trivial

theorem Pending.aside {run : ℕ} {requestId : String} (h : s.Pending run requestId)
    (haside : Aside s s') (hbelow : run < s.runCount) : s'.Pending run requestId := by
  obtain ⟨pending, hpending, hid⟩ := h
  exact ⟨pending, by rw [haside.pendingTool run hbelow, hpending], hid⟩

theorem Sound.aside (h : s.Sound) (haside : Aside s s') : s'.Sound where
  logged := h.logged.aside haside
  below run hrun := (h.below run (haside.task ▸ hrun)).trans_le haside.runCount
  fits := by
    rw [haside.task]
    exact h.fits.aside haside h.below
  pending run event hcall := by
    rw [haside.task] at hcall
    have hbelow : run < s.runCount := by
      refine h.below run ?_
      cases htask : s.task <;> rw [htask] at hcall <;> cases hcall <;> rfl
    rw [haside.pendingTool run hbelow]
    exact h.pending run event hcall
  accounted run hrun event hevent hturn := by
    rw [haside.taken] at hevent
    rcases haside.active run hrun with ⟨-, hfresh⟩ | ⟨hactive, hstate⟩
    · exact absurd hturn (hfresh event hevent)
    · have hbelow := h.logged.active run hactive
      rw [haside.turn run hbelow] at hturn
      rcases h.accounted run hactive event hevent hturn with
        hdelivered | hpending | hcall | ⟨hfailed, hnone, hcalm⟩
      · exact Or.inl (haside.deliveredRequests ▸ hdelivered)
      · exact Or.inr (Or.inl (hpending.aside haside hbelow))
      · exact Or.inr (Or.inr (Or.inl (haside.task ▸ hcall)))
      · refine Or.inr (Or.inr (Or.inr ⟨?_, ?_, haside.task ▸ hcalm⟩))
        · rcases hstate with hsame | hfail
          · rw [hsame, hfailed]
          · exact hfail
        · rw [haside.pendingTool run hbelow, hnone]

end Bridge

namespace Aside

variable {s s' s'' : Bridge}

theorem refl (s : Bridge) : Aside s s where
  task := rfl
  submissions := rfl
  deliveries := rfl
  deliveredRequests := rfl
  taken := rfl
  views := List.Subset.refl _
  runCount := le_rfl
  pendingTool _ _ := rfl
  turn _ _ := rfl
  runId _ _ := rfl
  active _ hrun := Or.inr ⟨hrun, Or.inl rfl⟩

theorem trans (h : Aside s s') (h' : Aside s' s'') : Aside s s'' where
  task := h'.task.trans h.task
  submissions := h'.submissions.trans h.submissions
  deliveries := h'.deliveries.trans h.deliveries
  deliveredRequests := h'.deliveredRequests.trans h.deliveredRequests
  taken := h'.taken.trans h.taken
  views := List.Subset.trans h.views h'.views
  runCount := h.runCount.trans h'.runCount
  pendingTool run hrun :=
    (h'.pendingTool run (hrun.trans_le h.runCount)).trans (h.pendingTool run hrun)
  turn run hrun := (h'.turn run (hrun.trans_le h.runCount)).trans (h.turn run hrun)
  runId run hrun := (h'.runId run (hrun.trans_le h.runCount)).trans (h.runId run hrun)
  active run hrun := by
    have htaken : s'.taken = s.taken := h.taken
    rcases h'.active run hrun with ⟨hbelow, hfresh⟩ | ⟨hactive, hstate⟩
    · exact Or.inl ⟨hbelow, fun event hevent ↦ hfresh event (htaken ▸ hevent)⟩
    · rcases h.active run hactive with ⟨hbelow, hfresh⟩ | ⟨hactive', hstate'⟩
      · exact Or.inl ⟨hbelow.trans_le h'.runCount, by rw [h'.turn run hbelow]; exact hfresh⟩
      · refine Or.inr ⟨hactive', ?_⟩
        rcases hstate with hsame | hfailed
        · rw [hsame]
          exact hstate'
        · exact Or.inr hfailed

theorem fail (h : Aside s s') (code message : String) : Aside s (s'.fail code message) :=
  h.trans { refl s' with active := fun _ hrun ↦ Or.inr ⟨hrun, Or.inr rfl⟩ }

theorem calling (h : Aside s s') (i : ℕ) (call : Call) : Aside s (s'.calling i call) :=
  h.trans { refl s' with }

theorem settleActivation (h : Aside s s') (activation : Activation) :
    Aside s (s'.settleActivation activation) := by
  rw [Bridge.settleActivation]
  split_ifs
  · exact h.trans { refl s' with }
  · exact h

theorem close (h : Aside s s') (run : ℕ) : Aside s (s'.close run) :=
  h.trans { refl s' with active := fun _ hrun ↦ nomatch hrun }

/-- A run's fields are assigned, but not those that the calls rely on. -/
theorem assign (h : Aside s s') (run : ℕ) {f : ActiveBridgeRun → ActiveBridgeRun}
    (hpending : ∀ active, (f active).pendingTool = active.pendingTool)
    (hturn : ∀ active, (f active).turn = active.turn)
    (hrunId : ∀ active, (f active).runId = active.runId) : Aside s (s'.assign run f) := by
  have hfield {α : Type} (g : ActiveBridgeRun → α) (hg : ∀ active, g (f active) = g active)
      (run' : ℕ) : g ((s'.assign run f).runs run') = g (s'.runs run') := by
    rw [Bridge.assign]
    simp only
    by_cases hsame : run' = run
    · rw [hsame, Function.update_self, hg]
    · rw [Function.update_of_ne hsame]
  exact h.trans { refl s' with
    pendingTool := fun run' _ ↦ hfield _ hpending run'
    turn := fun run' _ ↦ hfield _ hturn run'
    runId := fun run' _ ↦ hfield _ hrunId run'
    active := fun _ hrun ↦ Or.inr ⟨hrun, Or.inl rfl⟩ }

theorem endLocally (h : Aside s s') (run : ℕ) : Aside s (s'.endLocally run) :=
  h.assign run (fun _ ↦ rfl) (fun _ ↦ rfl) fun _ ↦ rfl

theorem adoptView (h : Aside s s') (run : ℕ) (view : RuntimeView) :
    Aside s (s'.adoptView run view) :=
  h.assign run (fun _ ↦ rfl) (fun _ ↦ rfl) fun _ ↦ rfl

/-- A state may be set when there is no active run, or a new one. -/
theorem setState (h : Aside s s')
    (hfresh : ∀ run, s'.active = some run → run < s'.runCount ∧ s.Fresh (s'.runs run).turn)
    (state : BridgeState) : Aside s (s'.setState state) where
  task := h.task
  submissions := h.submissions
  deliveries := h.deliveries
  deliveredRequests := h.deliveredRequests
  taken := h.taken
  views := h.views
  runCount := h.runCount
  pendingTool := h.pendingTool
  turn := h.turn
  runId := h.runId
  active run hrun := Or.inl (hfresh run hrun)

theorem interrupted (h : Aside s s') (run : ℕ) (answer : Except Cause RuntimeView) :
    Aside s (s'.interrupted run answer).2 := by
  cases answer with
  | error cause => exact h.fail _ _
  | ok view =>
    rw [Bridge.interrupted]
    split_ifs
    · exact h.fail _ _
    · exact h.adoptView run view

theorem failUnlessFailed (h : Aside s s') (code message : String) :
    Aside s (s'.failUnlessFailed code message) := by
  rw [Bridge.failUnlessFailed]
  split_ifs
  · exact h
  · exact h.fail code message

theorem endTurn (h : Aside s s') (run : ℕ) (ending : Ending) :
    Aside s (s'.endTurn run ending) := by
  cases ending with
  | turnFailed message => exact (h.close run).fail _ _
  | turnCancelled => exact (h.close run).failUnlessFailed _ _
  | decisionMissing => exact (h.close run).fail _ _
  | notRepairable => exact (h.close run).failUnlessFailed _ _
  | resumeFailed message => exact (h.close run).fail _ _
  | threadConflict closed cleanupFailures =>
    refine h.trans { refl s' with active := fun run' hrun ↦ Or.inr ⟨?_, Or.inr rfl⟩ }
    rw [Bridge.endTurn] at hrun
    simp only at hrun
    split_ifs at hrun
    exact hrun

end Aside

/-! ### What does not pass through the queue -/

namespace Bridge

variable {s s' : Bridge}

theorem aside_disconnect (s : Bridge) (i : ℕ) (message : String) :
    Aside s (s.disconnect i message) := by
  rw [disconnect]
  cases s.active with
  | none => exact ((Aside.refl s).settleActivation _).fail _ _
  | some run =>
    simp only
    split_ifs <;> exact (Aside.refl s).calling i _

theorem aside_disposeActive (h : Aside s s') (i run : ℕ) (message : String) :
    Aside s (s'.disposeActive i run message) := by
  rw [disposeActive]
  split_ifs <;> exact h.calling i _

theorem aside_dispose (s : Bridge) (i : ℕ) (message : String) :
    Aside s (s.dispose i message) := by
  have h : Aside s ({ s with disposedReason := some (s.disposedReason.getD message) } : Bridge) :=
    { Aside.refl s with }
  rw [dispose]
  split
  · exact (h.settleActivation _).fail _ _
  · exact aside_disposeActive (h.settleActivation _) i _ _

theorem aside_turnStarted (s : Bridge) (i : ℕ) (threadId turnId : String) :
    Aside s (s.turnStarted i threadId turnId) := by
  rw [turnStarted]
  split <;> exact (Aside.refl s).calling i _

theorem aside_abandoned (s : Bridge) (cause : Cause) (disposed : Bool)
    (cancelFailure : Option Cause) : Aside s (s.abandoned cause disposed cancelFailure) := by
  unfold abandoned
  simp only
  split_ifs <;> exact ((Aside.refl s).settleActivation _).fail _ _

/-- A run of a new turn is made active. -/
theorem aside_runStarted (i : ℕ) {threadId turnId : String} (view : RuntimeView)
    (hfresh : s.Fresh (threadId, turnId)) : Aside s (s.runStarted i threadId turnId view) := by
  have hother {run : ℕ} (new : ActiveBridgeRun) (hrun : run < s.runCount) :
      Function.update s.runs s.runCount new run = s.runs run :=
    Function.update_of_ne hrun.ne _ _
  have hstarted (new : ActiveBridgeRun) (hturn : new.turn = (threadId, turnId)) :
      Aside s { s with
        runs := Function.update s.runs s.runCount new
        runCount := s.runCount + 1
        active := some s.runCount } :=
    { Aside.refl s with
      runCount := Nat.le_succ _
      pendingTool := fun run hrun ↦ by simp only [hother new hrun]
      turn := fun run hrun ↦ by simp only [hother new hrun]
      runId := fun run hrun ↦ by simp only [hother new hrun]
      active := fun run hrun ↦ by
        cases hrun
        refine Or.inl ⟨Nat.lt_succ_self _, ?_⟩
        simp only [Function.update_self, hturn]
        exact hfresh }
  rw [runStarted]
  split
  · exact aside_disposeActive (hstarted _ rfl) i _ _
  · refine Aside.calling (((hstarted _ rfl).settleActivation _).setState ?_ _) i _
    intro run hrun
    have hactive : run = s.runCount := by
      rw [settleActivation] at hrun
      split_ifs at hrun <;> exact (Option.some.inj hrun).symm
    subst hactive
    rw [settleActivation]
    split_ifs <;>
      exact ⟨Nat.lt_succ_self _, by simp only [Function.update_self]; exact hfresh⟩

theorem aside_callInterrupt (h : Aside s s') (i run : ℕ) (interrupting closing : Call) :
    Aside s (s'.callInterrupt i run interrupting closing) := by
  rw [callInterrupt]
  split_ifs <;> exact h.calling i _

theorem aside_disconnectInterrupted (s : Bridge) (i run : ℕ) (message : String)
    (answer : Except Cause RuntimeView) :
    Aside s (s.disconnectInterrupted i run message answer) := by
  have h := (Aside.refl s).interrupted run answer
  rw [disconnectInterrupted]
  split
  · rename_i heq
    rw [heq] at h
    exact h.calling i _
  · rename_i heq
    rw [heq] at h
    exact h.calling i _

theorem aside_disposeInterrupted (s : Bridge) (i run : ℕ) (message : String)
    (failures : List String) (answer : Except Cause RuntimeView) :
    Aside s (s.disposeInterrupted i run message failures answer) := by
  have h := (Aside.refl s).interrupted run answer
  rw [disposeInterrupted]
  split
  · rename_i heq
    rw [heq] at h
    exact h.calling i _
  · rename_i heq
    rw [heq] at h
    exact h.calling i _

theorem aside_disposeEnd (s : Bridge) (run : ℕ) (message : String) (failures : List String) :
    Aside s (s.disposeEnd run message failures) := by
  rw [disposeEnd]
  split_ifs <;> exact ((Aside.refl s).close run).fail _ _

/-- `start`, `disconnect` and `dispose` leave the calls alone. -/
theorem aside_reply {i : ℕ} {answer : Answer} (hreply : s.reply i answer = some s')
    (horderly : Orderly s (.reply i answer)) : Aside s s' := by
  have hrefl := Aside.refl s
  unfold reply at hreply
  split at hreply <;> cases hreply
  · exact aside_turnStarted s i _ _
  · exact ((hrefl.settleActivation _).fail _ _).calling i _
  · exact (aside_abandoned s _ _ _).calling i _
  · exact (aside_abandoned s _ _ _).calling i _
  · rename_i hcall
    exact aside_runStarted i _ (horderly _ _ hcall)
  · exact hrefl.calling i _
  · exact aside_callInterrupt (hrefl.endLocally _) i _ _ _
  · exact (hrefl.fail _ _).calling i _
  · exact aside_disconnectInterrupted s i _ _ _
  · exact aside_disconnectInterrupted s i _ _ _
  · exact (((hrefl.close _).settleActivation _).fail _ _).calling i _
  · exact aside_callInterrupt (hrefl.endLocally _) i _ _ _
  · exact aside_callInterrupt hrefl i _ _ _
  · exact aside_disposeInterrupted s i _ _ _ _
  · exact aside_disposeInterrupted s i _ _ _ _
  · exact (aside_disposeEnd s _ _ _).calling i _

/-! ### Answering a call -/

variable {run : ℕ} {event : ToolCallEvent}

theorem waits_eq_self {task : Task} (h : s.task = task) : s.waits task = s := by
  cases s
  cases h
  rfl

theorem Sound.open (h : s.Sound) (hcall : s.task.call = some (run, event)) :
    s.Open run event where
  logged := h.logged
  below := by
    refine h.below run ?_
    cases htask : s.task <;> rw [htask] at hcall <;> cases hcall <;> rfl
  pending := h.pending run event hcall
  covered run' hactive event' hevent hturn := by
    rcases h.accounted run' hactive event' hevent hturn with
      hdelivered | hpending | ⟨_, hcall', hid⟩ | ⟨_, _, hcalm⟩
    · exact Or.inl hdelivered
    · exact Or.inr (Or.inl hpending)
    · rw [hcall] at hcall'
      cases hcall'
      exact Or.inr (Or.inr ⟨rfl, hid.symm⟩)
    · rw [hcalm.1] at hcall
      cases hcall

/-- A call of the active run that is pending may be taken in hand again. -/
theorem Sound.open_pending (h : s.Sound) (hactive : s.active = some run)
    (hcall : s.task.call = none) (hpending : (s.runs run).pendingTool = some event) :
    s.Open run event where
  logged := h.logged
  below := h.logged.active run hactive
  pending := Or.inr hpending
  covered run' hactive' event' hevent hturn := by
    rw [hactive] at hactive'
    cases hactive'
    rcases h.accounted run hactive event' hevent hturn with
      hdelivered | hpending' | ⟨_, hcall', _⟩ | ⟨_, hnone, _⟩
    · exact Or.inl hdelivered
    · exact Or.inr (Or.inl hpending')
    · rw [hcall] at hcall'
      cases hcall'
    · rw [hpending] at hnone
      cases hnone

namespace Open

theorem setState (h : s.Open run event) (state : BridgeState) :
    (s.setState state).Open run event where
  logged := ⟨h.logged.submitted, h.logged.delivered, h.logged.once, h.logged.honest,
    h.logged.active⟩
  below := h.below
  pending := h.pending
  covered := h.covered

/-- The call stays in hand. -/
theorem sound (h : s.Open run event) (task : Task) (hcall : task.call = some (run, event))
    (hfits : s.Fits task) : (s.waits task).Sound where
  logged := ⟨h.logged.submitted, h.logged.delivered, h.logged.once, h.logged.honest,
    h.logged.active⟩
  below run' hrun := by
    have hsame : run' = run := by
      have hrun' : task.run = some run' := hrun
      cases task <;> cases hcall <;> exact (Option.some.inj hrun').symm
    exact hsame ▸ h.below
  fits := by
    cases task <;> exact hfits
  pending run' event' hcall' := by
    have heq : some (run', event') = some (run, event) := hcall'.symm.trans hcall
    cases heq
    exact h.pending
  accounted run' hactive event' hevent hturn := by
    rcases h.covered run' hactive event' hevent hturn with hdelivered | hpending | ⟨rfl, hid⟩
    · exact Or.inl hdelivered
    · exact Or.inr (Or.inl hpending)
    · exact Or.inr (Or.inr (Or.inl ⟨event, hcall, hid.symm⟩))

/-- The call is put down: it is answered, pending, or lost with a bridge that has failed. -/
theorem idle (h : s.Open run event)
    (hdown : event.requestId ∈ s.deliveredRequests ∨ (s.runs run).pendingTool = some event ∨
      s.state.isFailed = true) : (s.waits .idle).Sound where
  logged := ⟨h.logged.submitted, h.logged.delivered, h.logged.once, h.logged.honest,
    h.logged.active⟩
  below _ hrun := nomatch hrun
  fits := trivial
  pending _ _ hcall := nomatch hcall
  accounted run' hactive event' hevent hturn := by
    rcases h.covered run' hactive event' hevent hturn with hdelivered | hpending | ⟨rfl, hid⟩
    · exact Or.inl hdelivered
    · exact Or.inr (Or.inl hpending)
    · rcases hdown with hdelivered | hpending | hfailed
      · exact Or.inl (hid ▸ hdelivered)
      · exact Or.inr (Or.inl ⟨event, hpending, hid.symm⟩)
      · rcases h.pending with hnone | hpending
        · exact Or.inr (Or.inr (Or.inr ⟨hfailed, hnone, Task.calm_idle _⟩))
        · exact Or.inr (Or.inl ⟨event, hpending, hid.symm⟩)

theorem deliverOnce (h : s.Open run event) {outcome : Outcome} (after : After)
    (honest : Honest s.views (s.runs run).runId event.requestId outcome) :
    (s.deliverOnce run event outcome after).Sound := by
  rw [Bridge.deliverOnce]
  split_ifs with hdelivered
  · exact h.sound _ rfl hdelivered
  · exact (h.setState _).sound _ rfl ⟨hdelivered, honest⟩

theorem deliverFailure (h : s.Open run event) (code message : String) (after : After) :
    (s.deliverFailure run event code message after).Sound :=
  h.deliverOnce after (Or.inl rfl)

/-- The pending call of the run is set, or cleared. -/
theorem assign (h : s.Open run event) {pendingTool : Option ToolCallEvent}
    (hpending : pendingTool = none ∨ pendingTool = some event) :
    (s.assign run fun active ↦ { active with pendingTool := pendingTool }).Open run event where
  logged := ⟨h.logged.submitted, h.logged.delivered, h.logged.once, h.logged.honest,
    h.logged.active⟩
  below := h.below
  pending := by
    rw [Bridge.assign]
    simp only [Function.update_self]
    exact hpending
  covered run' hactive event' hevent hturn := by
    by_cases hsame : run' = run
    · subst hsame
      rw [Bridge.assign] at hturn
      simp only [Function.update_self] at hturn
      rcases h.covered run' hactive event' hevent hturn with
        hdelivered | ⟨pending, hsome, hid⟩ | hcurrent
      · exact Or.inl hdelivered
      · rcases h.pending with hnone | hevent'
        · rw [hnone] at hsome
          cases hsome
        · rw [hevent'] at hsome
          cases hsome
          exact Or.inr (Or.inr ⟨rfl, hid.symm⟩)
      · exact Or.inr (Or.inr hcurrent)
    · have hruns : (s.assign run fun active ↦
          { active with pendingTool := pendingTool }).runs run' = s.runs run' :=
        Function.update_of_ne hsame _ _
      rw [hruns] at hturn
      rw [Pending, hruns]
      exact h.covered run' hactive event' hevent hturn

end Open

/-- A call is pending from here on. -/
theorem Sound.synced (h : s.Sound) {arguments : Js.Value}
    (htask : s.task = .syncing run event arguments) : (s.synced run event arguments).Sound := by
  have hopen := h.open (by rw [htask]; rfl)
  have hfits := h.fits
  rw [htask] at hfits
  refine (hopen.assign (Or.inr rfl)).sound _ rfl ⟨?_, hfits.2⟩
  rw [Bridge.assign]
  simp only [Function.update_self]

theorem Sound.submit (h : s.Sound) (context : Context) {arguments : Js.Value}
    (htask : s.task = .hashing run event arguments) :
    (s.submit context run event arguments).Sound := by
  have hopen := h.open (by rw [htask]; rfl)
  have hfits := h.fits
  rw [htask] at hfits
  have hopen' : (s.submit context run event arguments).Open run event :=
    { logged := ⟨List.nodup_cons.mpr ⟨hfits.2, hopen.logged.submitted⟩, hopen.logged.delivered,
        hopen.logged.once, hopen.logged.honest, hopen.logged.active⟩
      below := hopen.below
      pending := hopen.pending
      covered := hopen.covered }
  exact hopen'.sound (.submitting run event) rfl hfits.1

theorem Sound.recordDelivery (h : s.Sound) {outcome : Outcome} {after : After}
    (htask : s.task = .delivering run event outcome after) :
    ((s.recordDelivery run event outcome).waits (.delivered run event after)).Sound := by
  have hopen := h.open (by rw [htask]; rfl)
  have hfits := h.fits
  rw [htask] at hfits
  have hopen' : (s.recordDelivery run event outcome).Open run event :=
    { logged := ⟨hopen.logged.submitted, congrArg _ hopen.logged.delivered,
        List.nodup_cons.mpr ⟨hfits.1, hopen.logged.once⟩,
        fun delivery hdelivery ↦ by
          rcases List.mem_cons.mp hdelivery with rfl | hdelivery
          · exact hfits.2
          · exact hopen.logged.honest delivery hdelivery,
        hopen.logged.active⟩
      below := hopen.below
      pending := hopen.pending
      covered := fun run' hactive event' hevent hturn ↦
        (hopen.covered run' hactive event' hevent hturn).imp_left (List.mem_cons_of_mem _) }
  exact hopen'.sound _ rfl (List.mem_cons_self ..)

theorem Sound.finishDelivery (h : s.Sound) {after : After}
    (htask : s.task = .delivered run event after) : (s.finishDelivery run after).Sound := by
  have hopen := (h.open (by rw [htask]; rfl)).assign (Or.inl rfl)
  have hfits := h.fits
  rw [htask] at hfits
  cases after with
  | reasoning => exact (hopen.setState _).idle (Or.inl hfits)
  | fail code message => exact (hopen.setState _).idle (Or.inl hfits)

/-! ### The other tasks -/

theorem fits_of_call (s : Bridge) {task : Task} (hcall : task.call = none) : s.Fits task := by
  cases task <;> trivial

/-- The head of the queue goes on without a call. -/
theorem Sound.waits (h : s.Sound) {task : Task} (hcall : s.task.call = none)
    (hcall' : task.call = none) (hbelow : ∀ run, task.run = some run → run < s.runCount)
    (hcalm : ∀ run, s.active = some run → s.task.Calm run → task.Calm run) :
    (s.waits task).Sound where
  logged := ⟨h.logged.submitted, h.logged.delivered, h.logged.once, h.logged.honest,
    h.logged.active⟩
  below := hbelow
  fits := fits_of_call _ hcall'
  pending run event hsome := by
    have heq : task.call = some (run, event) := hsome
    rw [hcall'] at heq
    cases heq
  accounted run hactive event hevent hturn := by
    rcases h.accounted run hactive event hevent hturn with
      hdelivered | hpending | ⟨_, hsome, _⟩ | ⟨hfailed, hnone, hcalm'⟩
    · exact Or.inl hdelivered
    · exact Or.inr (Or.inl hpending)
    · rw [hcall] at hsome
      cases hsome
    · exact Or.inr (Or.inr (Or.inr ⟨hfailed, hnone, hcalm run hactive hcalm'⟩))

theorem Sound.waits_idle (h : s.Sound) (hcall : s.task.call = none) : (s.waits .idle).Sound :=
  h.waits hcall rfl (fun _ hrun ↦ nomatch hrun) fun run _ _ ↦ Task.calm_idle run

/-- The end of the active run, or of the run that the task is already about. -/
theorem Sound.waits_run (h : s.Sound) {task : Task} (hcall : s.task.call = none)
    (hcall' : task.call = none) (hdeciding : ∀ run', task ≠ .deciding run')
    (hrun : task.run = some run) (hof : s.active = some run ∨ s.task.run = some run) :
    (s.waits task).Sound := by
  refine h.waits hcall hcall' (fun run' hrun' ↦ ?_) fun run' hactive hcalm ↦ ?_
  · rw [hrun] at hrun'
    cases hrun'
    exact hof.elim (h.logged.active run) (h.below run)
  · have hsame : run' = run := by
      rcases hof with hactive' | htask
      · rw [hactive] at hactive'
        exact Option.some.inj hactive'
      · exact hcalm.run_eq htask
    exact Task.calm_of_run hcall' hdeciding (hsame ▸ hrun)

theorem Sound.interrupt (h : s.Sound) (ending : Ending) (hcall : s.task.call = none)
    (hof : s.active = some run ∨ s.task.run = some run) : (s.interrupt run ending).Sound := by
  rw [Bridge.interrupt]
  split_ifs
  · exact h.waits_run hcall rfl (fun _ ↦ nofun) rfl hof
  · exact h.waits_run hcall rfl (fun _ ↦ nofun) rfl hof

theorem Sound.interruptAnswered (h : s.Sound) {ending : Ending}
    (htask : s.task = .interrupting run ending) (answer : Except Cause RuntimeView) :
    (s.interruptAnswered run ending answer).Sound := by
  have haside := (Aside.refl s).interrupted run answer
  have hcall {s' : Bridge} (haside : Aside s s') : s'.task.call = none := by
    rw [haside.task, htask]
    rfl
  have hclosing {s' : Bridge} (haside : Aside s s') (ending : Ending) :
      (s'.waits (.closing run ending)).Sound := by
    refine (h.aside haside).waits_run (hcall haside) rfl (fun _ ↦ nofun) rfl (Or.inr ?_)
    rw [haside.task, htask]
    rfl
  unfold Bridge.interruptAnswered
  split
  · rename_i heq
    rw [heq] at haside
    exact hclosing haside _
  · rename_i heq
    rw [heq] at haside
    exact hclosing haside _
  · rename_i heq _
    rw [heq] at haside
    exact (h.aside haside).waits_idle (hcall haside)

/-- While the final decision is on its way, no call is lost. -/
theorem Sound.setState_of_deciding (h : s.Sound) (htask : s.task = .deciding run)
    (state : BridgeState) : ((s.waits .idle).setState state).Sound where
  logged := ⟨h.logged.submitted, h.logged.delivered, h.logged.once, h.logged.honest,
    h.logged.active⟩
  below _ hrun := nomatch hrun
  fits := trivial
  pending _ _ hcall := nomatch hcall
  accounted run' hactive event hevent hturn := by
    rcases h.accounted run' hactive event hevent hturn with
      hdelivered | hpending | ⟨_, hcall, _⟩ | ⟨_, _, hcalm⟩
    · exact Or.inl hdelivered
    · exact Or.inr (Or.inl hpending)
    · rw [htask] at hcall
      cases hcall
    · exact absurd htask (hcalm.2.1 run)

theorem Sound.decided (h : s.Sound) (htask : s.task = .deciding run) (view : RuntimeView) :
    (s.decided run view).Sound := by
  have haside := (Aside.refl s).assign run
    (f := fun active ↦ { active with finalSubmitted := true, view := view })
    (fun _ ↦ rfl) (fun _ ↦ rfl) fun _ ↦ rfl
  rw [Bridge.decided]
  split_ifs
  · exact (h.aside haside).setState_of_deciding htask _
  · split
    · rename_i instruction _
      have haside' := haside.assign run
        (f := fun active ↦ { active with repairInstruction := some instruction })
        (fun _ ↦ rfl) (fun _ ↦ rfl) fun _ ↦ rfl
      exact (h.aside haside').setState_of_deciding htask _
    · exact (h.aside haside).setState_of_deciding htask _

/-- The run that is repaired has a new turn. -/
theorem Sound.turned (h : s.Sound) (htask : s.task = .repairing run)
    {f : ActiveBridgeRun → ActiveBridgeRun} (hfresh : s.Fresh (f (s.runs run)).turn)
    (task : Task) (hcall : task.call = none) (hrun : ∀ run', task.run = some run' → run' = run)
    (closed : Option (String × String)) (state : BridgeState) :
    ({ s.assign run f with
      closedTurn := closed
      task := task
      state := state } : Bridge).Sound where
  logged := ⟨h.logged.submitted, h.logged.delivered, h.logged.once, h.logged.honest,
    h.logged.active⟩
  below run' hrun' := h.below run' (by rw [htask, hrun run' hrun']; rfl)
  fits := fits_of_call _ hcall
  pending run' event hsome := by
    have heq : task.call = some (run', event) := hsome
    rw [hcall] at heq
    cases heq
  accounted run' hactive event hevent hturn := by
    by_cases hsame : run' = run
    · subst hsame
      have hruns : (s.assign run' f).runs run' = f (s.runs run') := Function.update_self ..
      exact absurd (hturn.trans (congrArg _ hruns)) (hfresh event hevent)
    · have hruns : (s.assign run f).runs run' = s.runs run' := Function.update_of_ne hsame _ _
      rcases h.accounted run' hactive event hevent (hturn.trans (congrArg _ hruns)) with
        hdelivered | ⟨pending, hsome, hid⟩ | ⟨_, hcall, _⟩ | ⟨_, _, hcalm⟩
      · exact Or.inl hdelivered
      · exact Or.inr (Or.inl ⟨pending, (congrArg _ hruns).trans hsome, hid⟩)
      · rw [htask] at hcall
        cases hcall
      · exact absurd (hcalm.run_eq (by rw [htask]; rfl)) hsame

theorem Sound.resumed (h : s.Sound) (htask : s.task = .repairing run) {threadId turnId : String}
    (hfresh : s.Fresh (threadId, turnId)) : (s.resumed run threadId turnId).Sound := by
  rw [Bridge.resumed]
  split_ifs with hthread
  · exact h.turned htask
      (f := fun active ↦ { active with
        threadId := threadId, turnId := turnId, localTerminal := false })
      hfresh (.cancelling run (s.runs run).turn) rfl (fun _ heq ↦ (Option.some.inj heq).symm) _ _
  · rw [not_not] at hthread
    subst hthread
    exact h.turned htask
      (f := fun active ↦ { active with
        turnId := turnId, finalSubmitted := false, localTerminal := false
        repairInstruction := none })
      hfresh .idle rfl (fun _ heq ↦ nomatch heq) _ _

/-! ### Views -/

theorem resultOf_eq_some {view : RuntimeView} {requestId : String} {result : ToolResult}
    (h : RuntimeView.resultOf view requestId = some result) :
    view.lastToolResult = some result ∧ result.toolCallId = requestId ∧
      result.actionVersion = 1 := by
  rw [RuntimeView.resultOf, Option.filter_eq_some_iff] at h
  exact ⟨h.1, of_decide_eq_true h.2⟩

theorem aside_reportToolResult (s : Bridge) (event : ToolCallEvent) :
    Aside s (s.reportToolResult event) := by
  rw [reportToolResult]
  split_ifs
  · exact Aside.refl s
  · exact { Aside.refl s with }

theorem Sound.answerPending (h : s.Sound) (hactive : s.active = some run)
    (htask : s.task = .idle) (hpending : (s.runs run).pendingTool = some event)
    {view : RuntimeView} (hview : view ∈ s.views) (hrunId : view.runId = (s.runs run).runId) :
    (s.answerPending run event view).Sound := by
  have hcall : s.task.call = none := by rw [htask]; rfl
  have hopen := h.open_pending hactive hcall hpending
  have hset (state : BridgeState) : (s.setState state).Sound := by
    have hidle := (hopen.setState state).idle (Or.inr (Or.inl hpending))
    rwa [waits_eq_self (s := s.setState state) htask] at hidle
  rw [Bridge.answerPending]
  split
  · rename_i result hresult
    obtain ⟨hlast, hid, hversion⟩ := resultOf_eq_some hresult
    have haside := aside_reportToolResult s event
    have hbelow := hopen.below
    have hactive' : (s.reportToolResult event).active = some run := by
      rw [reportToolResult]
      split_ifs <;> exact hactive
    refine ((h.aside haside).open_pending hactive' (by rw [haside.task, hcall])
      (by rw [haside.pendingTool run hbelow, hpending])).deliverOnce .reasoning ?_
    rw [haside.runId run hbelow]
    exact Or.inr ⟨view, haside.views hview, hrunId, result, hlast, hid, hversion, rfl⟩
  · split
    · exact hset _
    · split
      · exact hset _
      · split
        · exact hopen.deliverFailure _ _ _
        · split
          · exact hopen.deliverFailure _ _ _
          · exact h

theorem Sound.acceptView (h : s.Sound) (htask : s.task = .idle) (view : RuntimeView) :
    (s.acceptView view).Sound := by
  rw [Bridge.acceptView]
  split
  · exact h
  · rename_i run hactive
    split_ifs with hforeign
    · exact h
    · have hadopt : Aside s { s.adoptView run view with views := view :: s.views } :=
        ((Aside.refl s).adoptView run view).trans
          { Aside.refl (s.adoptView run view) with views := List.subset_cons_self _ _ }
      have h' := h.aside hadopt
      simp only
      split
      · exact h'
      · rename_i pending hpending
        refine h'.answerPending hactive htask hpending (List.mem_cons_self ..) ?_
        rw [hadopt.runId run (h.logged.active run hactive)]
        rw [not_or, not_not] at hforeign
        exact hforeign.1

/-! ### Events -/

theorem isOf_toolCall (s : Bridge) (run : ℕ) (event : ToolCallEvent) :
    s.isOf run (.toolCall event) = true ↔ event.turn = (s.runs run).turn := by
  rw [isOf, Bool.and_eq_true, ToolCallEvent.turn, ActiveBridgeRun.turn, Prod.mk.injEq]
  exact and_congr decide_eq_true_iff decide_eq_true_iff

theorem isOf_finalDecision (s : Bridge) (run : ℕ) (event : FinalDecisionEvent) :
    s.isOf run (.finalDecision event) = true ↔
      (event.threadId, event.turnId) = (s.runs run).turn := by
  rw [isOf, Bool.and_eq_true, ActiveBridgeRun.turn, Prod.mk.injEq]
  exact and_congr decide_eq_true_iff decide_eq_true_iff

theorem Logged.answered_iff (h : s.Logged) (requestId : String) :
    s.Answered requestId ↔ requestId ∈ s.deliveredRequests := by
  rw [Answered, h.delivered]

theorem Sound.open_ready (h : s.Sound) (hactive : s.active = some run)
    (hready : s.Ready run event) : s.Open run event where
  logged := h.logged
  below := h.logged.active run hactive
  pending := Or.inl hready.free
  covered run' hactive' event' hevent hturn := by
    rw [hactive] at hactive'
    cases hactive'
    exact Or.inl ((h.logged.answered_iff _).mp (hready.answered event' hevent hturn))

/-- A call of the active turn is in hand from here on. -/
theorem Sound.handleToolCall (h : s.Sound) (context : Context) (hactive : s.active = some run)
    (hready : s.Ready run event) :
    (s.handleToolCall context run event).Sound ∧
      (s.handleToolCall context run event).active = s.active ∧
      (s.handleToolCall context run event).task.call = some (run, event) := by
  have hopen := h.open_ready hactive hready
  rw [Bridge.handleToolCall, if_neg (by rw [hready.free]; decide)]
  split
  · refine ⟨hopen.deliverFailure _ _ _, ?_⟩
    rw [deliverFailure, deliverOnce]
    split_ifs <;> exact ⟨rfl, rfl⟩
  · exact ⟨hopen.sound _ rfl ⟨hready.free, hready.new⟩, rfl, rfl⟩

theorem Sound.record (h : s.Sound)
    (hcall : ∀ run, s.active = some run → event.turn = (s.runs run).turn →
      s.task.call = some (run, event)) : (s.record (.toolCall event)).Sound where
  logged := ⟨h.logged.submitted, h.logged.delivered, h.logged.once, h.logged.honest,
    h.logged.active⟩
  below := h.below
  fits := by
    have hfits := h.fits
    rw [Bridge.record]
    cases htask : s.task <;> rw [htask] at hfits <;> exact hfits
  pending := h.pending
  accounted run hactive event' hevent hturn := by
    rcases List.mem_cons.mp hevent with rfl | hevent
    · exact Or.inr (Or.inr (Or.inl ⟨event', hcall run hactive hturn, rfl⟩))
    · exact h.accounted run hactive event' hevent hturn

/-- A tool call leaves the queue. -/
theorem Sound.takeToolCall (h : s.Sound) (context : Context)
    (hready : ∀ run, s.active = some run → event.turn = (s.runs run).turn →
      s.Ready run event) :
    ((s.takeEvent context (.toolCall event)).record (.toolCall event)).Sound := by
  have hnone (heq : s.takeEvent context (.toolCall event) = s)
      (hother : ∀ run, s.active = some run → event.turn ≠ (s.runs run).turn) :
      ((s.takeEvent context (.toolCall event)).record (.toolCall event)).Sound := by
    rw [heq]
    exact h.record fun run hactive hturn ↦ absurd hturn (hother run hactive)
  cases hactive : s.active with
  | none =>
    refine hnone ?_ fun run hrun ↦ by rw [hactive] at hrun; cases hrun
    rw [takeEvent, handle, hactive]
    exact ite_self _
  | some run =>
    by_cases hturn : event.turn = (s.runs run).turn
    · have hready' := hready run hactive hturn
      have hof : s.isOf run (.toolCall event) = true := (isOf_toolCall ..).mpr hturn
      have htake : s.takeEvent context (.toolCall event) = s.handleToolCall context run event := by
        rw [takeEvent, if_pos ⟨hready'.activated, rfl⟩, handle, hactive]
        simp only [hof, Bool.true_eq_false, if_false]
      obtain ⟨hsound, hactive', hcall⟩ := h.handleToolCall context hactive hready'
      rw [htake]
      refine hsound.record fun run' hrun _ ↦ ?_
      rw [hactive', hactive] at hrun
      cases hrun
      exact hcall
    · have hof : s.isOf run (.toolCall event) = false := by
        rw [← Bool.not_eq_true, isOf_toolCall]
        exact hturn
      refine hnone ?_ fun run' hrun ↦ by
        rw [hactive] at hrun
        cases hrun
        exact hturn
      rw [takeEvent, handle, hactive]
      simp only [hof, if_true, ite_self]

theorem Sound.handleFinalDecision (h : s.Sound) (hactive : s.active = some run)
    (hanswered : (s.runs run).pendingTool = none → s.AllAnswered run) :
    (s.handleFinalDecision run).Sound := by
  rw [Bridge.handleFinalDecision]
  split_ifs with hpending
  · exact h
  · have hall := hanswered (by simpa using hpending)
    exact {
      logged := ⟨h.logged.submitted, h.logged.delivered, h.logged.once, h.logged.honest,
        h.logged.active⟩
      below := fun run' hrun ↦ by
        cases hrun
        exact h.logged.active run hactive
      fits := trivial
      pending := fun _ _ hcall ↦ nomatch hcall
      accounted := fun run' hactive' event hevent hturn ↦ by
        have hsame : some run' = some run := hactive'.symm.trans hactive
        cases hsame
        exact Or.inl ((h.logged.answered_iff _).mp (hall event hevent hturn)) }

theorem Sound.handleCompleted (h : s.Sound) (hactive : s.active = some run)
    (htask : s.task = .idle) : (s.handleCompleted run).Sound := by
  have h' := h.aside ((Aside.refl s).endLocally run)
  have hcall : (s.endLocally run).task.call = none := by
    rw [((Aside.refl s).endLocally run).task, htask]
    rfl
  have hclose := (Aside.refl s).endLocally run |>.close run
  rw [Bridge.handleCompleted]
  split_ifs
  · exact h'.interrupt _ hcall (Or.inl hactive)
  · exact h'.waits_run hcall rfl (fun _ ↦ nofun) rfl (Or.inl hactive)
  · exact h'.interrupt _ hcall (Or.inl hactive)
  · exact h.aside (hclose.setState (fun _ hrun ↦ nomatch hrun) _)
  · exact h.aside hclose

/-- An event other than a tool call leaves the queue. -/
theorem Sound.handle (h : s.Sound) (context : Context) (htask : s.task = .idle) (event : Event)
    (hcall : ∀ call, event ≠ .toolCall call)
    (hanswered : ∀ run, s.active = some run → ∀ final, event = .finalDecision final →
      (final.threadId, final.turnId) = (s.runs run).turn → (s.runs run).pendingTool = none →
        s.AllAnswered run) : (s.handle context event).Sound := by
  rw [Bridge.handle]
  split
  · exact h
  · rename_i run hactive
    have hinterrupt (ending : Ending) : ((s.endLocally run).interrupt run ending).Sound := by
      have haside := (Aside.refl s).endLocally run
      refine (h.aside haside).interrupt ending ?_ (Or.inl hactive)
      rw [haside.task, htask]
      rfl
    split_ifs with hof
    · exact h
    · rw [Bool.not_eq_false] at hof
      cases event with
      | toolCall call => exact absurd rfl (hcall call)
      | finalDecision final =>
        exact h.handleFinalDecision hactive
          (hanswered run hactive final rfl ((isOf_finalDecision ..).mp hof))
      | turnFailed | turnCancelled => exact hinterrupt _
      | turnCompleted => exact h.handleCompleted hactive htask
      | connected | threadStarted | progressed => exact h

/-! ### Actions -/

theorem Sound.next (h : s.Sound) (context : Context) (horderly : Orderly s .next)
    (hnext : s.next context = some s') : s'.Sound := by
  unfold Bridge.next at hnext
  split at hnext
  · rename_i event rest htask hqueue
    have hpop : Aside s { s with queue := rest } := { Aside.refl s with }
    split_ifs at hnext
    cases hnext
    cases event with
    | toolCall call =>
      refine (h.aside hpop).takeToolCall context fun run hactive hturn ↦ ?_
      have hready := (horderly run hactive).1 call rest hqueue hturn
      exact ⟨hready.activated, hready.free, hready.new, hready.answered⟩
    | finalDecision final =>
      change (takeEvent context _ _).Sound
      rw [takeEvent]
      split_ifs
      · refine (h.aside hpop).handle context htask _ nofun ?_
        intro run hactive final' heq hturn hnone
        cases heq
        exact (horderly run hactive).2 final rest hqueue hturn hnone
      · exact h.aside hpop
    | connected | turnFailed | turnCancelled | turnCompleted | threadStarted | progressed =>
      change (takeEvent context _ _).Sound
      rw [takeEvent]
      split_ifs
      · exact (h.aside hpop).handle context htask _ nofun nofun
      · exact h.aside hpop
  · rename_i view rest htask hqueue
    have hpop : Aside s { s with queue := rest } := { Aside.refl s with }
    cases hnext
    exact (h.aside hpop).acceptView htask view
  · cases hnext

theorem Sound.answer (h : s.Sound) (context : Context) {answer : Answer}
    (horderly : Orderly s (.answer answer)) (hanswer : s.answer context answer = some s') :
    s'.Sound := by
  unfold Bridge.answer at hanswer
  split at hanswer <;> cases hanswer <;> rename_i htask
  · exact h.synced htask
  · exact (h.open (by rw [htask]; rfl)).deliverFailure _ _ _
  · exact h.submit context htask
  · exact (h.open (by rw [htask]; rfl)).deliverFailure _ _ _
  · have hfits := h.fits
    rw [htask] at hfits
    exact ((h.open (by rw [htask]; rfl)).idle (Or.inr (Or.inl hfits))).acceptView rfl _
  · exact (h.open (by rw [htask]; rfl)).deliverFailure _ _ _
  · exact h.recordDelivery htask
  · exact ((h.open (by rw [htask]; rfl)).setState _).idle (Or.inr (Or.inr rfl))
  · exact h.finishDelivery htask
  · exact h.decided htask _
  · exact h.waits_idle (by rw [htask]; rfl)
  · exact h.interruptAnswered htask _
  · exact h.interruptAnswered htask _
  · have haside := (Aside.refl s).endTurn
    exact (h.aside (haside _ _)).waits_idle (by rw [(haside _ _).task, htask]; rfl)
  · exact h.resumed htask horderly
  · exact h.interrupt _ (by rw [htask]; rfl) (Or.inr (by rw [htask]; rfl))
  · have haside := (Aside.refl s).endLocally
    exact (h.aside (haside _)).interrupt _ (by rw [(haside _).task, htask]; rfl)
      (Or.inr (by rw [(haside _).task, htask]; rfl))
  · exact h.interrupt _ (by rw [htask]; rfl) (Or.inr (by rw [htask]; rfl))

theorem Sound.step (h : s.Sound) (context : Context) (action : Action)
    (horderly : Orderly s action) (hstep : s.step context action = some s') : s'.Sound := by
  have hqueue (queue : List Job) : Aside s { s with queue := queue } := { Aside.refl s with }
  have hcalled {i : ℕ} {after : Bridge} (haside : Aside s after)
      (hcall : s.called i after = some s') : s'.Sound := by
    rw [called] at hcall
    split at hcall <;> cases hcall
    exact h.aside haside
  cases action with
  | handleEvent event =>
    cases event <;> cases hstep <;> first | exact h | exact h.aside (hqueue _)
  | acceptRuntimeView view =>
    cases hstep
    exact h.aside (hqueue _)
  | start i =>
    refine hcalled ?_ hstep
    rw [start]
    split_ifs
    · exact Aside.refl s
    · exact (Aside.refl s).calling i _
  | disconnect i message => exact hcalled (aside_disconnect s i message) hstep
  | dispose i message => exact hcalled (aside_dispose s i message) hstep
  | next => exact h.next context horderly hstep
  | answer answer => exact h.answer context horderly hstep
  | reply i answer => exact h.aside (aside_reply hstep horderly)

theorem sound_initial : initial.Sound where
  logged := ⟨List.nodup_nil, rfl, List.nodup_nil, nofun, nofun⟩
  below _ hrun := nomatch hrun
  fits := trivial
  pending _ _ hcall := nomatch hcall
  accounted _ hrun := nomatch hrun

theorem Sound.answeredOnce (h : s.Sound) : AnsweredOnce s where
  submitted := h.logged.submitted
  delivered := by
    rw [h.logged.delivered]
    exact h.logged.once
  honest := h.logged.honest
  complete := by
    rintro ⟨hqueue, htask, -⟩ hstate run hactive event hevent hturn
    rw [received, hqueue, List.filterMap_nil, List.append_nil] at hevent
    rcases h.accounted run hactive event hevent hturn with
      hdelivered | hpending | ⟨_, hcall, _⟩ | ⟨hfailed, _, _⟩
    · exact Or.inl ((h.logged.answered_iff _).mpr hdelivered)
    · exact Or.inr hpending
    · rw [htask] at hcall
      cases hcall
    · rw [hstate] at hfailed
      cases hfailed

end Bridge

/-- A run of orderly calls keeps the account of each of them. -/
theorem sound_of_run {context : Context} {s : Bridge}
    (h : Run context Orderly Bridge.initial s) : s.Sound := by
  induction h with
  | nil => exact Bridge.sound_initial
  | step _ action horderly hstep ih => exact ih.step context action horderly hstep

/-- **Every tool call is submitted once and answered once, and none is lost**, in every run whose
calls are orderly. -/
theorem answersOnce (context : Context) (s : Bridge) (h : Run context Orderly Bridge.initial s) :
    AnsweredOnce s :=
  (sound_of_run h).answeredOnce

/-! ### One call, and two at a time -/

def sampleArguments : Js.Value :=
  .object [("canvasId", .string "canvas-1"), ("selectedNodeIds", .array []),
    ("includeViewport", .boolean true)]

def sampleCall (requestId : String) : ToolCallEvent where
  requestId := requestId
  threadId := "thread-1"
  turnId := "turn-1"
  toolName := "canvas.read"
  arguments := sampleArguments
  expectedDelivery := .object []

/-- The arguments are the parsed ones already; only one call is submitted. -/
def sampleContext : Context where
  parseArguments _ value := .ok value
  digest _ := "c8e12bee263d2cf139e09de5140569d0d1ba4bbf30cfd93ee2506355095b47c1"

def sampleView (status : RunStatus) (pendingApproval : Bool) (result : Option ToolResult) :
    RuntimeView where
  runId := "run-1"
  localReasoning := true
  status := status
  stateVersion := 2
  expectedDelivery := .undefined
  verification := none
  pendingToolCall := if pendingApproval then some "call-1" else none
  lastToolResult := result
  decisionFeedback := none
  failureCode := none
  pendingApproval := pendingApproval

/-- A call, whose result comes at once. -/
def single : List Action :=
  [.start 0, .reply 0 (.turn "thread-1" "turn-1"),
    .reply 0 (.view (sampleView .running false none)),
    .handleEvent (.toolCall (sampleCall "call-1")), .next, .answer .done, .answer .done,
    .answer (.view (sampleView .running false (some ⟨"call-1", 1, true, .object [], none⟩))),
    .answer .done, .answer .done]

/-- Two calls, the first of which waits for an approval. -/
def parallel : List Action :=
  [.start 0, .reply 0 (.turn "thread-1" "turn-1"),
    .reply 0 (.view (sampleView .running false none)),
    .handleEvent (.toolCall (sampleCall "call-1")),
    .handleEvent (.toolCall (sampleCall "call-2")), .next, .answer .done, .answer .done,
    .answer (.view (sampleView .waitingApproval true none)), .next]

def Bridge.play (context : Context) : Bridge → List Action → Option Bridge
  | s, [] => some s
  | s, action :: rest => (s.step context action).bind fun s' ↦ s'.play context rest

/-- The condition on every action that is played. -/
def Meets (context : Context) (condition : Bridge → Action → Prop) : Bridge → List Action → Prop
  | _, [] => True
  | s, action :: rest => condition s action ∧
    ∀ s', s.step context action = some s' → Meets context condition s' rest

theorem run_of_play {context : Context} {condition : Bridge → Action → Prop}
    {s₀ s s' : Bridge} (h : Run context condition s₀ s) (actions : List Action)
    (hplay : s.play context actions = some s') (hmeets : Meets context condition s actions) :
    Run context condition s₀ s' := by
  induction actions generalizing s with
  | nil =>
    cases hplay
    exact h
  | cons action rest ih =>
    rw [Bridge.play, Option.bind_eq_some_iff] at hplay
    obtain ⟨reached, hstep, hplay⟩ := hplay
    exact ih (h.step action hmeets.1 hstep) hplay (hmeets.2 reached hstep)

theorem meets_true (context : Context) (s : Bridge) (actions : List Action) :
    Meets context (fun _ _ ↦ True) s actions := by
  induction actions generalizing s with
  | nil => trivial
  | cons action rest ih => exact ⟨trivial, fun s' _ ↦ ih s'⟩

/-- What the actions lead to. -/
def reached (actions : List Action) : Bridge :=
  (Bridge.initial.play sampleContext actions).getD Bridge.initial

theorem meets_single : Meets sampleContext Orderly Bridge.initial single := by
  refine ⟨trivial, fun _ hstep ↦ ?_⟩
  cases hstep
  refine ⟨trivial, fun _ hstep ↦ ?_⟩
  cases hstep
  refine ⟨fun _ _ _ _ hmem ↦ (nomatch hmem), fun _ hstep ↦ ?_⟩
  cases hstep
  refine ⟨trivial, fun _ hstep ↦ ?_⟩
  cases hstep
  refine ⟨fun run hactive ↦ ⟨fun event rest hqueue _ ↦ ?_, fun event rest hqueue ↦ ?_⟩,
    fun _ hstep ↦ ?_⟩
  · cases hactive
    exact ⟨rfl, rfl, fun hmem ↦ (nomatch hmem), fun _ hmem ↦ (nomatch hmem)⟩
  · cases hqueue
  · cases hstep
    refine ⟨trivial, fun _ _ ↦ ⟨trivial, fun _ _ ↦ ⟨trivial, fun _ _ ↦ ⟨trivial, fun _ _ ↦
      ⟨trivial, fun _ _ ↦ trivial⟩⟩⟩⟩⟩

theorem answersOnce_single : AnsweredOnce (reached single) :=
  answersOnce sampleContext _ (run_of_play .nil single rfl meets_single)

/-- The second of two calls at a time is neither answered nor pending. -/
theorem not_answersOnce_parallel :
    ¬ ∀ (context : Context) (s : Bridge), Run context (fun _ _ ↦ True) Bridge.initial s →
      AnsweredOnce s := by
  intro h
  have hrun : Run sampleContext (fun _ _ ↦ True) Bridge.initial (reached parallel) :=
    run_of_play .nil parallel rfl (meets_true _ _ _)
  have hquiet : (reached parallel).Quiet := by
    refine ⟨rfl, rfl, fun i ↦ ?_⟩
    cases i <;> rfl
  rcases (h sampleContext _ hrun).complete hquiet rfl 0 rfl (sampleCall "call-2")
    (List.mem_cons_self ..) rfl with hanswered | ⟨pending, hpending, hid⟩
  · exact nomatch hanswered
  · cases hpending
    revert hid
    decide

end LocalAgentBridge

end HMaigc
