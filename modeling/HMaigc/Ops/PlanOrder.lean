import HMaigc.Ops.Around

/-!
# A plan is carried out in order, and no destructive stage of it twice

Wherever a runner dies, the files it leaves say where the plan goes on (`Prepared`): every stage
before that place has a completed checkpoint, and no destructive stage from there on has ever been
announced (`Ready`).  Where they cannot say so, because the latest event tells of a destructive
stage the checkpoint knows nothing of, no plan goes on from them.

* `Completed`, `Ready`, `Prepared`, `RunnerInv` — the invariant.
* `Since` — what the surroundings do meanwhile.
* `Begins` — what is promised of every stage that is begun.
* `destructiveStages_beginOnce` — the result.
-/

set_option autoImplicit false

namespace HMaigc.Ops

open Go Concurrent

/-! ## The invariant -/

/-- There was a completed checkpoint of the stage. -/
def Completed (operationID : String) (stage : OperationStage) (h : History World) : Prop :=
  ∃ w ∈ h.states, ∃ c, (w.dir operationID).checkpoint = some c ∧ c.stage = stage ∧
    c.stageCompletedAt ≠ none

/-- The plan may go on with these stages. -/
structure Ready (operationID : String) (request : OperationRequestFile)
    (rest : List OperationStage) (h : History World) : Prop where
  completed : ∃ done, request.plan = done ++ rest ∧ ∀ stage ∈ done, Completed operationID stage h
  fresh : ∀ stage ∈ rest, isDestructiveStage stage = true →
    ∀ event ∈ (h.now.dir operationID).events, event.stage ≠ stage

/-- If the plan goes on from the checkpoint, it may. -/
def Prepared (operationID : String) (request : OperationRequestFile) (c : OperationCheckpoint)
    (h : History World) : Prop :=
  (∀ event, (h.now.dir operationID).latestEvent c.generation = some event →
    isUnknownStageIntent c event = false) →
  ∀ i, nextStageIndex request.plan c = .ok i →
    Ready operationID request (request.plan.drop i) h

structure RunnerInv (e : Engine) (secret operationID : String) (request : OperationRequestFile)
    (h : History World) : Prop where
  filed : Filed e secret operationID request h.now
  prepared : (h.now.dir operationID).result = none →
    ∀ c, (h.now.dir operationID).checkpoint = some c → Prepared operationID request c h

/-- What is promised of a stage that is begun. -/
structure Begins (operationID : String) (request : OperationRequestFile) (h : History World)
    (run : StageRun) : Prop where
  rewriting : stageMayRewriteData run.stage = true → run.purpose = .plan
  planned : run.purpose = .plan → run.stage ∈ request.plan
  order : run.purpose = .plan →
    ∀ stage ∈ request.plan.takeWhile (· ≠ run.stage), Completed operationID stage h
  /-- It was never begun before, and one event is on file about it, that which announces it now. -/
  once : run.purpose = .plan → isDestructiveStage run.stage = true →
    (∀ earlier ∈ h.now.executed, earlier.stage ≠ run.stage) ∧
      (h.now.dir operationID).events.countP (·.stage == run.stage) = 1

/-! ## What the surroundings do meanwhile -/

/-- From `h` to `h'`, these events were added, and otherwise only the surroundings moved. -/
structure Since (operationID : String) (added : List OperationEvent) (h h' : History World) :
    Prop where
  states : ∀ w ∈ h.states, w ∈ h'.states
  executed : h'.now.executed = h.now.executed
  events : (h'.now.dir operationID).events = (h.now.dir operationID).events ++ added
  result : (h'.now.dir operationID).result = none → (h.now.dir operationID).result = none
  launch : ∀ l, (h.now.dir operationID).launch = some l →
    ∃ l', (h'.now.dir operationID).launch = some l' ∧ (l' = l ∨
      l.payload.generation < l'.payload.generation ∧ (h'.now.dir operationID).result ≠ none)
  checkpoint : (h'.now.dir operationID).checkpoint = (h.now.dir operationID).checkpoint ∨
    ∃ c c', (h.now.dir operationID).checkpoint = some c ∧
      (h'.now.dir operationID).checkpoint = some c' ∧
      c.Condemned (h'.now.dir operationID).events c'

theorem OperationCheckpoint.Condemned.mono {events events' : List OperationEvent}
    {c c' : OperationCheckpoint} (h : c.Condemned events c') (hsub : events ⊆ events') :
    c.Condemned events' c' := by
  obtain ⟨event, hevent, hgen, hseq⟩ := h.event
  exact { h with event := ⟨event, hsub hevent, hgen, hseq⟩ }

section Since

variable {secret operationID : String} {request : OperationRequestFile} {e : Engine}
  {added added' : List OperationEvent} {h h' h'' : History World}

theorem Since.stutter (operationID : String) (h : History World) :
    Since operationID [] h ((View.history World).next h h.now) where
  states _ hw := List.mem_cons_of_mem _ hw
  executed := rfl
  events := by rw [List.append_nil]; rfl
  result hnone := hnone
  launch l hl := ⟨l, hl, .inl rfl⟩
  checkpoint := .inl rfl

theorem Since.refl (operationID : String) (h : History World) : Since operationID [] h h where
  states _ hw := hw
  executed := rfl
  events := (List.append_nil _).symm
  result hnone := hnone
  launch l hl := ⟨l, hl, .inl rfl⟩
  checkpoint := .inl rfl

theorem Since.trans (hs : Since operationID added h h') (hs' : Since operationID added' h' h'') :
    Since operationID (added ++ added') h h'' where
  states w hw := hs'.states w (hs.states w hw)
  executed := hs'.executed.trans hs.executed
  events := by rw [hs'.events, hs.events, List.append_assoc]
  result hnone := hs.result (hs'.result hnone)
  launch l hl := by
    obtain ⟨l', hl', hnext⟩ := hs.launch l hl
    obtain ⟨l'', hl'', hnext'⟩ := hs'.launch l' hl'
    refine ⟨l'', hl'', ?_⟩
    rcases hnext' with rfl | ⟨hlt', hresult⟩
    · exact hnext.imp_right fun hlt ↦ ⟨hlt.1, fun hnone ↦ hlt.2 (hs'.result hnone)⟩
    · rcases hnext with rfl | ⟨hlt, -⟩
      · exact .inr ⟨hlt', hresult⟩
      · exact .inr ⟨hlt.trans hlt', hresult⟩
  checkpoint := by
    have hsub : (h'.now.dir operationID).events ⊆ (h''.now.dir operationID).events := by
      rw [hs'.events]
      exact List.subset_append_left _ _
    rcases hs'.checkpoint with hsame' | ⟨c', c'', hc', hc'', hcondemned'⟩
    · rcases hs.checkpoint with hsame | ⟨c, c', hc, hc', hcondemned⟩
      · exact .inl (hsame'.trans hsame)
      · exact .inr ⟨c, c', hc, hsame'.trans hc', hcondemned.mono hsub⟩
    · rcases hs.checkpoint with hsame | ⟨c, c₁, hc, hc₁, hcondemned⟩
      · exact .inr ⟨c', c'', hsame ▸ hc', hc'', hcondemned'⟩
      · rw [hc₁, Option.some.injEq] at hc'
        subst hc'
        exact .inr ⟨c, c'', hc, hc'', { hcondemned' with
          contract := hcondemned'.contract.trans hcondemned.contract
          fence := hcondemned'.fence.trans hcondemned.fence }⟩

/-- A step of the surroundings. -/
theorem StepAround.since {w' : World} (hstep : StepAround secret operationID h.now w') :
    Since operationID [] h ((View.history World).next h w') where
  states _ hw := List.mem_cons_of_mem _ hw
  executed := hstep.executed
  events := by rw [List.append_nil]; exact hstep.events
  result := hstep.result_of_none
  launch _ hl := hstep.launched hl
  checkpoint := hstep.checkpoint.imp_right fun ⟨c, c', hc, hc', hcondemned, _⟩ ↦
    ⟨c, c', hc, hc', hstep.events.symm ▸ hcondemned⟩

/-! ## What lasts -/

theorem Completed.since {stage : OperationStage} (hc : Completed operationID stage h)
    (hs : ∀ w ∈ h.states, w ∈ h'.states) : Completed operationID stage h' := by
  obtain ⟨w, hw, c, hfile, hstage, hcompleted⟩ := hc
  exact ⟨w, hs w hw, c, hfile, hstage, hcompleted⟩

/-- What is added is not about a destructive stage that is still to come. -/
theorem Ready.since {rest : List OperationStage} (hr : Ready operationID request rest h)
    (hs : ∀ w ∈ h.states, w ∈ h'.states)
    (hadded : ∀ event ∈ (h'.now.dir operationID).events,
      event ∈ (h.now.dir operationID).events ∨ isDestructiveStage event.stage = false ∨
        event.stage ∉ rest) :
    Ready operationID request rest h' where
  completed := by
    obtain ⟨done, hplan, hdone⟩ := hr.completed
    exact ⟨done, hplan, fun stage hstage ↦ (hdone stage hstage).since hs⟩
  fresh stage hstage hdestructive event hevent := by
    rcases hadded event hevent with hold | hharmless | hother
    · exact hr.fresh stage hstage hdestructive event hold
    · rintro rfl
      rw [hdestructive] at hharmless
      cases hharmless
    · rintro rfl
      exact hother hstage

theorem Ready.around {rest : List OperationStage} (hr : Ready operationID request rest h)
    (hs : Since operationID [] h h') : Ready operationID request rest h' := by
  refine hr.since hs.states fun event hevent ↦ .inl ?_
  rwa [hs.events, List.append_nil] at hevent

theorem Since.latestEvent (hs : Since operationID [] h h') (generation : ℕ) :
    (h'.now.dir operationID).latestEvent generation =
      (h.now.dir operationID).latestEvent generation := by
  rw [OperationDir.latestEvent, OperationDir.latestEvent, hs.events, List.append_nil]

theorem Prepared.around {c : OperationCheckpoint} (hp : Prepared operationID request c h)
    (hs : Since operationID [] h h') : Prepared operationID request c h' := by
  intro hknown i hi
  rw [hs.latestEvent] at hknown
  exact (hp hknown i hi).around hs

theorem RunnerInv.since (hinv : RunnerInv e secret operationID request h)
    (hs : Since operationID [] h h') (hfiled : Filed e secret operationID request h'.now) :
    RunnerInv e secret operationID request h' where
  filed := hfiled
  prepared hnone c hc := by
    rcases hs.checkpoint with hsame | ⟨c₀, c', -, hc', hcondemned⟩
    · exact (hinv.prepared (hs.result hnone) c (hsame ▸ hc)).around hs
    · rw [hc', Option.some.injEq] at hc
      subst hc
      exact fun _ i hi ↦ absurd hi (hcondemned.nextStageIndex _ i)

theorem Launched.since {input : RunInput} (hl : Launched secret operationID input h.now)
    (hs : Since operationID added h h') : Launched secret operationID input h'.now := by
  obtain ⟨l, hl, hmine⟩ := hl
  obtain ⟨l', hl', hnext⟩ := hs.launch l hl
  refine ⟨l', hl', ?_⟩
  rcases hnext with rfl | ⟨hlt, hresult⟩
  · exact hmine.imp_right fun hold ↦ ⟨hold.1, fun hnone ↦ hold.2 (hs.result hnone)⟩
  · refine .inr ⟨?_, hresult⟩
    rcases hmine with hmine | hold
    · have hgen : l.payload.generation = input.generation := congrArg (·.generation) hmine
      exact hgen.symm.trans_lt hlt
    · exact hold.1.trans hlt

end Since

/-! ## The contract -/

/-- What the runner relies on and what it guarantees. -/
def planContract (e : Engine) (secret operationID : String) (request : OperationRequestFile) :
    System.Contract (History World) Unit where
  rely _ h h' := Since operationID [] h h' ∧
    (RunnerInv e secret operationID request h → RunnerInv e secret operationID request h')
  guar _ h h' := RunnerInv e secret operationID request h' ∧
    (h'.now.executed = h.now.executed ∨
      ∃ run, h'.now.executed = h.now.executed ++ [run] ∧ Begins operationID request h run)
  inv := RunnerInv e secret operationID request
  rely_refl _ h := ⟨.refl operationID h, id⟩
  rely_trans _ _ _ _ h h' := ⟨h.1.trans h'.1, h'.2 ∘ h.2⟩
  guar_rely t t' _ _ hne := absurd (Subsingleton.elim t t') hne
  guar_inv _ _ _ _ h := h.1

/-- The process keeps the contract, and ends as `Q` says. -/
abbrev Under {α : Type} (e : Engine) (request : OperationRequestFile) (input : RunInput)
    (p : OpsProc α) (Q : Except OpsError α → History World → Prop) (h : History World) : Prop :=
  p.Safe (View.history World)
    ((planContract e input.commandSecret input.operationID request).rely ())
    ((planContract e input.commandSecret input.operationID request).guar ()) Q h

/-- What the runner can count on of the time between two of its steps. -/
abbrev Later (e : Engine) (request : OperationRequestFile) (input : RunInput)
    (h h' : History World) : Prop :=
  (planContract e input.commandSecret input.operationID request).rely () h h'

section Rules

variable {e : Engine} {request : OperationRequestFile} {input : RunInput} {h h' h'' : History World}

theorem Later.trans (hl : Later e request input h h') (hl' : Later e request input h' h'') :
    Later e request input h h'' :=
  ⟨hl.1.trans hl'.1, hl'.2 ∘ hl.2⟩

/-- A step that changes nothing. -/
theorem Later.stutter (h : History World) :
    Later e request input h ((View.history World).next h h.now) := by
  have hs := Since.stutter input.operationID h
  exact ⟨hs, fun hinv ↦ hinv.since hs hinv.filed⟩

theorem guar_stutter (hinv : RunnerInv e input.commandSecret input.operationID request h) :
    (planContract e input.commandSecret input.operationID request).guar () h
      ((View.history World).next h h.now) :=
  ⟨(Later.stutter h).2 hinv, .inl rfl⟩

theorem under_look {Q : Except OpsError World → History World → Prop}
    (hinv : RunnerInv e input.commandSecret input.operationID request h)
    (hQ : ∀ h₁ h₂, Later e request input h h₁ → Later e request input h₁ h₂ → Q (.ok h₁.now) h₂) :
    Under e request input Proc.look Q h := by
  refine Proc.safe_look fun h₁ hl₁ ↦ ⟨guar_stutter (hl₁.2 hinv), fun h₂ hl₂ ↦ ?_⟩
  exact hQ h₁ h₂ hl₁ (Later.trans (Later.stutter h₁) hl₂)

theorem under_clock {Q : Except OpsError Time → History World → Prop}
    (hinv : RunnerInv e input.commandSecret input.operationID request h)
    (hQ : ∀ h' now, Later e request input h h' → Q (.ok now) h') :
    Under e request input clock Q h := by
  refine Proc.safe_bind (under_look hinv fun h₁ h₂ hl₁ hl₂ ↦ ?_)
  exact Proc.safe_pure fun h₃ hl₃ ↦ hQ h₃ _ (Later.trans hl₁ (Later.trans hl₂ hl₃))

theorem under_read {α : Type} {read : World → Except OpsError α}
    {Q : Except OpsError α → History World → Prop}
    (hinv : RunnerInv e input.commandSecret input.operationID request h)
    (hQ : ∀ h₁ h₂, Later e request input h h₁ → Later e request input h₁ h₂ →
      Q (read h₁.now) h₂) :
    Under e request input (readJournal read) Q h := by
  refine Proc.safe_bind (under_look hinv fun h₁ h₂ hl₁ hl₂ ↦ ?_)
  exact Proc.safe_ofExcept fun h₃ hl₃ ↦ hQ h₁ h₃ hl₁ (Later.trans hl₂ hl₃)

/-- A write is refused, or comes to `f`. -/
theorem under_write {write : Journal → Written} {f : OperationDir → OperationDir}
    {Q : Except OpsError Unit → History World → Prop}
    (hinv : RunnerInv e input.commandSecret input.operationID request h)
    (hwrote : ∀ j, Wrote j input.operationID f (write j))
    (herr : ∀ h' err, Later e request input h h' → Q (.error err) h')
    (hok : ∀ h₁ w, Later e request input h h₁ → (write h₁.now.journal).1 = .ok () →
      w = { h₁.now with journal := w.journal } →
      w.dir input.operationID = f (h₁.now.dir input.operationID) →
      RunnerInv e input.commandSecret input.operationID request ((View.history World).next h₁ w) ∧
        ∀ h₂, Later e request input ((View.history World).next h₁ w) h₂ → Q (.ok ()) h₂) :
    Under e request input (writeJournal write) Q h := by
  refine Proc.safe_atomic fun h₁ hl₁ ↦ ?_
  dsimp only [View.history] at hok ⊢
  rcases hwrote h₁.now.journal with ⟨err, hw⟩ | ⟨hr, hdir, -⟩
  · rw [hw]
    refine ⟨guar_stutter (hl₁.2 hinv), fun h₂ hl₂ ↦ ?_⟩
    exact herr h₂ err (Later.trans hl₁ (Later.trans (Later.stutter h₁) hl₂))
  · obtain ⟨hinv', hQ⟩ := hok h₁ { h₁.now with journal := (write h₁.now.journal).2 } hl₁ hr rfl
      hdir
    refine ⟨⟨hinv', .inl rfl⟩, fun h₂ hl₂ ↦ ?_⟩
    rw [hr]
    exact hQ h₂ hl₂

end Rules

/-! ## At work -/

/-- If the plan can go on from the checkpoint on file, whatever the events say, it may. -/
def Aligned (operationID : String) (request : OperationRequestFile) (h : History World) : Prop :=
  ∀ c i, (h.now.dir operationID).checkpoint = some c → nextStageIndex request.plan c = .ok i →
    Ready operationID request (request.plan.drop i) h

/-- The runner has its checkpoint on file, and knows the number of its last event. -/
structure Working (e : Engine) (request : OperationRequestFile) (input : RunInput) (n : ℕ)
    (h : History World) : Prop where
  inv : RunnerInv e input.commandSecret input.operationID request h
  launched : Launched input.commandSecret input.operationID input h.now
  stored : ∃ c, (h.now.dir input.operationID).checkpoint = some c ∧ c.fence = e.fence input
  upTo : ∀ event ∈ (h.now.dir input.operationID).events,
    event.generation = input.generation → event.sequence ≤ n
  last : n = 0 ∨ ∃ event ∈ (h.now.dir input.operationID).events,
    event.generation = input.generation ∧ event.sequence = n

/-- From `h` to `h'`, a stage was executed, or part of it. -/
structure Ran (operationID : String) (stage : OperationStage) (h h' : History World) : Prop where
  states : ∀ w ∈ h.states, w ∈ h'.states
  kept : (h.now.dir operationID).events ⊆ (h'.now.dir operationID).events
  events : ∀ event ∈ (h'.now.dir operationID).events,
    event ∈ (h.now.dir operationID).events ∨ event.stage = stage
  result : (h'.now.dir operationID).result = none → (h.now.dir operationID).result = none
  checkpoint : (h'.now.dir operationID).checkpoint = (h.now.dir operationID).checkpoint ∨
    ∃ c c', (h.now.dir operationID).checkpoint = some c ∧
      (h'.now.dir operationID).checkpoint = some c' ∧
      c.Condemned (h'.now.dir operationID).events c'

section Work

variable {e : Engine} {request : OperationRequestFile} {input : RunInput} {n : ℕ}
  {stage : OperationStage} {h h' h'' : History World}

theorem Since.ran {operationID : String} {added : List OperationEvent}
    (hs : Since operationID added h h') (hadded : ∀ event ∈ added, event.stage = stage) :
    Ran operationID stage h h' where
  states := hs.states
  kept := by
    rw [hs.events]
    exact List.subset_append_left _ _
  events event hevent := by
    rw [hs.events, List.mem_append] at hevent
    exact hevent.imp_right (hadded event)
  result := hs.result
  checkpoint := hs.checkpoint

theorem Since.idle {operationID : String} (hs : Since operationID [] h h') :
    Ran operationID stage h h' :=
  hs.ran fun _ hevent ↦ absurd hevent List.not_mem_nil

theorem Ran.trans {operationID : String} (hr : Ran operationID stage h h')
    (hr' : Ran operationID stage h' h'') : Ran operationID stage h h'' where
  states w hw := hr'.states w (hr.states w hw)
  kept := List.Subset.trans hr.kept hr'.kept
  events event hevent := by
    rcases hr'.events event hevent with hold | hnew
    · exact hr.events event hold
    · exact .inr hnew
  result hnone := hr.result (hr'.result hnone)
  checkpoint := by
    rcases hr'.checkpoint with hsame' | ⟨c', c'', hc', hc'', hcondemned'⟩
    · rcases hr.checkpoint with hsame | ⟨c, c', hc, hc', hcondemned⟩
      · exact .inl (hsame'.trans hsame)
      · exact .inr ⟨c, c', hc, hsame'.trans hc', hcondemned.mono hr'.kept⟩
    · rcases hr.checkpoint with hsame | ⟨c, c₁, hc, hc₁, hcondemned⟩
      · exact .inr ⟨c', c'', hsame ▸ hc', hc'', hcondemned'⟩
      · rw [hc₁, Option.some.injEq] at hc'
        subst hc'
        exact .inr ⟨c, c'', hc, hc'', { hcondemned' with
          contract := hcondemned'.contract.trans hcondemned.contract
          fence := hcondemned'.fence.trans hcondemned.fence }⟩

theorem Aligned.ran {operationID : String} (ha : Aligned operationID request h)
    (hr : Ran operationID stage h h') (hstage : isDestructiveStage stage = false) :
    Aligned operationID request h' := by
  intro c i hc hi
  rcases hr.checkpoint with hsame | ⟨c₀, c', -, hc', hcondemned⟩
  · refine (ha c i (hsame ▸ hc) hi).since hr.states fun event hevent ↦ ?_
    exact (hr.events event hevent).imp_right fun heq ↦ .inl (by rw [heq, hstage])
  · rw [hc', Option.some.injEq] at hc
    subst hc
    exact absurd hi (hcondemned.nextStageIndex _ i)

theorem Aligned.around {operationID : String} (ha : Aligned operationID request h)
    (hs : Since operationID [] h h') : Aligned operationID request h' :=
  ha.ran (hs.idle : Ran operationID .accepted h h') rfl

theorem Working.later (hw : Working e request input n h) (hl : Later e request input h h') :
    Working e request input n h' where
  inv := hl.2 hw.inv
  launched := hw.launched.since hl.1
  stored := by
    obtain ⟨c, hc, hfence⟩ := hw.stored
    rcases hl.1.checkpoint with hsame | ⟨c₀, c', hc₀, hc', hcondemned⟩
    · exact ⟨c, hsame.trans hc, hfence⟩
    · rw [hc₀, Option.some.injEq] at hc
      subst hc
      exact ⟨c', hc', hcondemned.fence.trans hfence⟩
  upTo event hevent hgen := by
    rw [hl.1.events, List.append_nil] at hevent
    exact hw.upTo event hevent hgen
  last := by
    rw [hl.1.events, List.append_nil]
    exact hw.last

theorem Working.sequence_le (hw : Working e request input n h) {c : OperationCheckpoint}
    (hc : (h.now.dir input.operationID).checkpoint = some c) : c.sequence ≤ n := by
  obtain ⟨c', hc', hfence⟩ := hw.stored
  rw [hc', Option.some.injEq] at hc
  subst hc
  refine hw.inv.filed.sequence_le hc' fun event hevent hgen ↦ hw.upTo event hevent ?_
  exact hgen.trans (OperationCheckpoint.generation_of_fence hfence)

/-- The next event is put on file. -/
theorem Working.append (hw : Working e request input n h) {event : OperationEvent} {w : World}
    (hgen : event.generation = input.generation) (hseq : event.sequence = n + 1)
    (hstage : isDestructiveStage event.stage = false → Aligned input.operationID request h)
    (hworld : w = { h.now with journal := w.journal })
    (hdir : w.dir input.operationID = { h.now.dir input.operationID with
      events := (h.now.dir input.operationID).events ++ [event] }) :
    Working e request input (n + 1) ((View.history World).next h w) ∧
      Since input.operationID [event] h ((View.history World).next h w) := by
  have hnow : w.now = h.now.now := by rw [hworld]
  have hexecuted : w.executed = h.now.executed := by rw [hworld]
  obtain ⟨c, hc, hfence⟩ := hw.stored
  have hcgen := OperationCheckpoint.generation_of_fence hfence
  have hcfile : (w.dir input.operationID).checkpoint = some c :=
    (congrArg (·.checkpoint) hdir).trans hc
  have hsince : Since input.operationID [event] h ((View.history World).next h w) := by
    refine ⟨fun _ ↦ List.mem_cons_of_mem _, hexecuted, ?_, ?_, fun l hl ↦ ⟨l, ?_, .inl rfl⟩, .inl ?_⟩
    · exact congrArg (·.events) hdir
    · exact fun hnone ↦ (congrArg (·.result) hdir).symm.trans hnone
    · exact (congrArg (·.launch) hdir).trans hl
    · exact congrArg (·.checkpoint) hdir
  refine ⟨⟨⟨hw.inv.filed.append hnow hexecuted hdir hc (hgen.trans hcgen.symm).le, ?_⟩,
    hw.launched.since hsince, ⟨c, hcfile, hfence⟩, fun event' hevent' hgen' ↦ ?_,
    .inr ⟨event, ?_, hgen, hseq⟩⟩, hsince⟩
  · -- the checkpoint on file knows nothing of the event
    intro _ c' hc' hknown i hi
    have heq : c' = c := Option.some.inj (hc'.symm.trans hcfile)
    subst heq
    cases hdestructive : isDestructiveStage event.stage with
    | true =>
      have hlatest : (w.dir input.operationID).latestEvent event.generation = some event := by
        refine OperationDir.latestEvent_append (by omega) (fun event' hevent' hgen' ↦ ?_)
          (congrArg (·.events) hdir)
        have hle := hw.upTo event' hevent' (hgen'.trans hgen)
        omega
      rw [hgen, ← hcgen] at hlatest
      have hle := hw.sequence_le hc
      have hunknown : isUnknownStageIntent c' event = true := by
        rw [isUnknownStageIntent_iff]
        exact ⟨hgen.trans hcgen.symm, by omega, hdestructive⟩
      rw [hknown event hlatest] at hunknown
      cases hunknown
    | false =>
      have hran : Ran input.operationID event.stage h ((View.history World).next h w) :=
        hsince.ran fun event' hevent' ↦ by rw [List.mem_singleton.mp hevent']
      exact (hstage hdestructive).ran hran hdestructive c' i hc' hi
  · rw [hsince.events, List.mem_append] at hevent'
    rcases hevent' with hold | hnew
    · exact (hw.upTo event' hold hgen').trans (Nat.le_succ n)
    · rw [List.mem_singleton.mp hnew, hseq]
  · rw [hsince.events]
    exact List.mem_append_right _ (List.mem_singleton.mpr rfl)

theorem under_appendRunEvent (hw : Working e request input n h) {kind : EventKind}
    {message : String} {Q : Except OpsError ℕ → History World → Prop}
    (hstage : isDestructiveStage stage = false → Aligned input.operationID request h)
    (herr : ∀ h' err, Later e request input h h' → Q (.error err) h')
    (hok : ∀ h' event, event.stage = stage → Since input.operationID [event] h h' →
      Working e request input (n + 1) h' → Q (.ok (n + 1)) h') :
    Under e request input (appendRunEvent input n kind stage message) Q h := by
  refine Proc.safe_bind (under_clock hw.inv fun h₁ now hl₁ ↦ ?_)
  have hw₁ := hw.later hl₁
  have hwrote := fun j ↦ wrote_appendEvent j ⟨input.operationID, input.generation, n + 1, kind,
    stage, "system", message, now⟩
  refine Proc.safe_bind (under_write hw₁.inv hwrote ?_ ?_)
  · exact fun h₂ err hl₂ h₃ hl₃ ↦ herr h₃ err (Later.trans hl₁ (Later.trans hl₂ hl₃))
  · intro h₂ w hl₂ _ hworld hdir
    have hw₂ := hw₁.later hl₂
    obtain ⟨hw₃, hsince⟩ := hw₂.append rfl rfl
      (fun hd ↦ (hstage hd).around (Later.trans hl₁ hl₂).1) hworld hdir
    refine ⟨hw₃.inv, fun h₃ hl₃ ↦ Proc.safe_pure fun h₄ hl₄ ↦ ?_⟩
    have hl := Later.trans hl₃ hl₄
    exact hok h₄ _ rfl ((Later.trans hl₁ hl₂).1.trans (hsince.trans hl.1)) (hw₃.later hl)

/-- A stage is begun that an event announces. -/
theorem Working.begin (hw : Working e request input n h) {run : StageRun}
    (hrun : ∃ event ∈ (h.now.dir input.operationID).events, event.stage = run.stage) {w : World}
    (hworld : w = { h.now with executed := h.now.executed ++ [run] }) :
    Working e request input n ((View.history World).next h w) ∧
      Ran input.operationID run.stage h ((View.history World).next h w) := by
  subst hworld
  refine ⟨⟨⟨hw.inv.filed.begin hrun, fun hnone c hc hknown i hi ↦ ?_⟩, hw.launched, hw.stored,
    hw.upTo, hw.last⟩, ⟨fun _ ↦ List.mem_cons_of_mem _, List.Subset.refl _, fun _ ↦ .inl, id,
      .inl rfl⟩⟩
  exact (hw.inv.prepared hnone c hc hknown i hi).since (fun _ ↦ List.mem_cons_of_mem _)
    fun _ ↦ .inl

theorem under_beginStage (hw : Working e request input n h) {run : StageRun}
    {Q : Except OpsError StageReport → History World → Prop}
    (hrun : ∃ event ∈ (h.now.dir input.operationID).events, event.stage = run.stage)
    (hbegins : ∀ h', Later e request input h h' → Begins input.operationID request h' run)
    (hQ : ∀ report h', Working e request input n h' → Ran input.operationID run.stage h h' →
      Q (.ok report) h') :
    Under e request input (beginStage run) Q h := by
  refine Proc.safe_bind (Proc.safe_atomic fun h₁ hl₁ ↦ ?_)
  have hrun₁ : ∃ event ∈ (h₁.now.dir input.operationID).events, event.stage = run.stage := by
    rw [hl₁.1.events, List.append_nil]
    exact hrun
  obtain ⟨hw₂, hran⟩ := (hw.later hl₁).begin hrun₁ rfl
  refine ⟨⟨hw₂.inv, .inr ⟨run, rfl, hbegins h₁ hl₁⟩⟩, fun h₂ hl₂ ↦ ?_⟩
  have hQ' : ∀ report h', Later e request input h₂ h' → Q (.ok report) h' := fun report h' hl ↦ by
    have hl' := Later.trans hl₂ hl
    exact hQ report h' (hw₂.later hl') (hl₁.1.idle.trans (hran.trans hl'.1.idle))
  refine Proc.safe_bind (Proc.safe_answer fun h₃ hl₃ answer h₄ hl₄ ↦ ?_)
  have hQ₄ : ∀ report h', Later e request input h₄ h' → Q (.ok report) h' := fun report h' hl ↦
    hQ' report h' (Later.trans hl₃ (Later.trans hl₄ hl))
  cases answer with
  | stage report => exact Proc.safe_pure fun h₅ hl₅ ↦ hQ₄ report h₅ hl₅
  | start failure => exact Proc.safe_pure fun h₅ hl₅ ↦ hQ₄ default h₅ hl₅
  | resolve runner => exact Proc.safe_pure fun h₅ hl₅ ↦ hQ₄ default h₅ hl₅
  | token value => exact Proc.safe_pure fun h₅ hl₅ ↦ hQ₄ default h₅ hl₅

/-- **A stage, from its intent to its end.** -/
theorem under_executeStage (hw : Working e request input n h) {purpose : Purpose}
    {Q : Except OpsError StageOutcome → History World → Prop}
    (hstage : isDestructiveStage stage = false → Aligned input.operationID request h)
    (hbegins : ∀ h' event, event.stage = stage → Since input.operationID [event] h h' →
      RunnerInv e input.commandSecret input.operationID request h' →
      Begins input.operationID request h' ⟨input.operationID, input.generation, purpose, stage⟩)
    (hQ : ∀ outcome h', Working e request input outcome.sequence h' →
      Ran input.operationID stage h h' → Q (.ok outcome) h') :
    Under e request input (executeStage input request purpose stage n) Q h := by
  refine Proc.safe_bind (Proc.safe_observe (under_appendRunEvent hw hstage ?_ ?_))
  · exact fun h₁ err hl₁ ↦ Proc.safe_pure fun h₂ hl₂ ↦
      hQ _ h₂ (hw.later (Later.trans hl₁ hl₂)) (Later.trans hl₁ hl₂).1.idle
  · intro h₁ event hevent hsince hw₁
    have hran₁ : Ran input.operationID stage h h₁ :=
      hsince.ran fun event' hevent' ↦ by rw [List.mem_singleton.mp hevent', hevent]
    have hrun : ∃ event' ∈ (h₁.now.dir input.operationID).events, event'.stage = stage := by
      rw [hsince.events]
      exact ⟨event, List.mem_append_right _ (List.mem_singleton.mpr rfl), hevent⟩
    have hbegins₁ : ∀ h', Later e request input h₁ h' → Begins input.operationID request h'
        ⟨input.operationID, input.generation, purpose, stage⟩ := fun h' hl ↦ by
      refine hbegins h' event hevent ?_ (hl.2 hw₁.inv)
      have htrans := hsince.trans hl.1
      rwa [List.append_nil] at htrans
    refine Proc.safe_bind (under_beginStage hw₁ hrun hbegins₁
      fun report h₂ hw₂ hran₂ ↦ ?_)
    have hran := hran₁.trans hran₂
    have hstage₂ : isDestructiveStage stage = false → Aligned input.operationID request h₂ :=
      fun hd ↦ (hstage hd).ran hran hd
    -- whether it failed or not, one more event follows
    have hend : ∀ outcome h', (Working e request input outcome.sequence h' ∧
        Ran input.operationID stage h₂ h') → ∀ h'', Later e request input h' h'' →
        Q (.ok outcome) h'' := fun outcome h' hboth h'' hl ↦
      hQ outcome h'' (hboth.1.later hl) (hran.trans (hboth.2.trans hl.1.idle))
    have hadded : ∀ {h' : History World} {event' : OperationEvent}, event'.stage = stage →
        Since input.operationID [event'] h₂ h' → Ran input.operationID stage h₂ h' :=
      fun hevent' hs ↦ hs.ran fun event'' hevent'' ↦ by rw [List.mem_singleton.mp hevent'', hevent']
    dsimp only
    split
    · refine Proc.safe_bind (Proc.safe_observe (under_appendRunEvent hw₂ hstage₂ ?_ ?_))
      · exact fun h₃ err hl₃ ↦ Proc.safe_pure (hend _ h₃ ⟨hw₂.later hl₃, hl₃.1.idle⟩)
      · exact fun h₃ event' hevent' hs hw₃ ↦
          Proc.safe_pure (hend _ h₃ ⟨hw₃, hadded hevent' hs⟩)
    · refine Proc.safe_bind (Proc.safe_observe (under_appendRunEvent hw₂ hstage₂ ?_ ?_))
      · exact fun h₃ err hl₃ ↦ Proc.safe_pure (hend _ h₃ ⟨hw₂.later hl₃, hl₃.1.idle⟩)
      · exact fun h₃ event' hevent' hs hw₃ ↦
          Proc.safe_pure (hend _ h₃ ⟨hw₃, hadded hevent' hs⟩)

/-! ## Checkpoints and results -/

/-- A checkpoint of the runner is put on file. -/
theorem RunnerInv.file (hinv : RunnerInv e input.commandSecret input.operationID request h)
    (hl : Launched input.commandSecret input.operationID input h.now) {c : OperationCheckpoint}
    {w : World} (hexecutable : Executable input.operationID request)
    (hcontract : c.contract = request.contract) (hfence : c.fence = e.fence input)
    (hseq : c.sequence = 0 ∨ ∃ event ∈ (h.now.dir input.operationID).events,
      event.generation = input.generation ∧ event.sequence = c.sequence)
    (hevents : ∀ event ∈ (h.now.dir input.operationID).events,
      event.generation ≤ input.generation)
    (hworld : w = { h.now with journal := w.journal })
    (hdir : w.dir input.operationID = { h.now.dir input.operationID with checkpoint := some c })
    (hprep : (h.now.dir input.operationID).result = none → ∀ i,
      nextStageIndex request.plan c = .ok i →
      Ready input.operationID request (request.plan.drop i) ((View.history World).next h w)) :
    RunnerInv e input.commandSecret input.operationID request ((View.history World).next h w) ∧
      Launched input.commandSecret input.operationID input w := by
  have hnow : w.now = h.now.now := by rw [hworld]
  have hexecuted : w.executed = h.now.executed := by rw [hworld]
  have hgen := OperationCheckpoint.generation_of_fence hfence
  have hresult : (w.dir input.operationID).result = (h.now.dir input.operationID).result :=
    congrArg (·.result) hdir
  obtain ⟨l, hlaunch, hmine⟩ := hl
  refine ⟨⟨hinv.filed.file hnow hexecuted hdir hcontract hexecutable ⟨l, hlaunch, ?_⟩ (hgen ▸ hseq)
    fun event hevent ↦ (hevents event hevent).trans hgen.ge, ?_⟩,
    l, (congrArg (·.launch) hdir).trans hlaunch, ?_⟩
  · refine hmine.imp (fun heq ↦ ?_) fun hlater ↦ ⟨hgen.trans_lt hlater.1, hlater.2⟩
    rw [heq, hfence]
  · intro hnone c' hc' _ i hi
    have heq : c' = c := Option.some.inj (hc'.symm.trans (congrArg (·.checkpoint) hdir))
    subst heq
    exact hprep (hresult.symm.trans hnone) i hi
  · exact hmine.imp_right fun hlater ↦ ⟨hlater.1, fun hnone ↦ hlater.2 (hresult.symm.trans hnone)⟩

theorem Working.file (hw : Working e request input n h) {c : OperationCheckpoint} {w : World}
    (hcontract : c.contract = request.contract) (hfence : c.fence = e.fence input)
    (hseq : c.sequence = n) (hworld : w = { h.now with journal := w.journal })
    (hdir : w.dir input.operationID = { h.now.dir input.operationID with checkpoint := some c })
    (hprep : (h.now.dir input.operationID).result = none → ∀ i,
      nextStageIndex request.plan c = .ok i →
      Ready input.operationID request (request.plan.drop i) ((View.history World).next h w)) :
    Working e request input n ((View.history World).next h w) := by
  obtain ⟨old, hold, hfence'⟩ := hw.stored
  have hgen := OperationCheckpoint.generation_of_fence hfence'
  have hevents : (w.dir input.operationID).events = (h.now.dir input.operationID).events :=
    congrArg (·.events) hdir
  have hle : ∀ event ∈ (h.now.dir input.operationID).events,
      event.generation ≤ input.generation := fun event hevent ↦ by
    obtain ⟨c', hc', hle⟩ := hw.inv.filed.events event hevent
    rw [hold, Option.some.injEq] at hc'
    exact hle.trans (hc' ▸ hgen).le
  obtain ⟨hinv, hl⟩ := hw.inv.file hw.launched (hw.inv.filed.executable old hold) hcontract hfence
    (hseq ▸ hw.last) hle hworld hdir hprep
  refine ⟨hinv, hl, ⟨c, congrArg (·.checkpoint) hdir, hfence⟩, fun event hevent ↦ ?_, ?_⟩
  · exact hw.upTo event (hevents ▸ hevent)
  · rw [show ((View.history World).next h w).now = w from rfl, hevents]
    exact hw.last

theorem under_writeCheckpoint (hw : Working e request input n h) {c : OperationCheckpoint}
    {Q : Except OpsError Unit → History World → Prop}
    (hcontract : c.contract = request.contract) (hfence : c.fence = e.fence input)
    (hseq : c.sequence = n)
    (hprep : ∀ h₁ w, Later e request input h h₁ →
      (w.dir input.operationID).checkpoint = some c →
      (w.dir input.operationID).events = (h₁.now.dir input.operationID).events →
      (h₁.now.dir input.operationID).result = none →
      ∀ i, nextStageIndex request.plan c = .ok i →
      Ready input.operationID request (request.plan.drop i) ((View.history World).next h₁ w))
    (herr : ∀ h' err, Later e request input h h' → Q (.error err) h')
    (hok : ∀ h₁ w h₂, Later e request input h h₁ →
      (w.dir input.operationID).checkpoint = some c →
      (w.dir input.operationID).events = (h₁.now.dir input.operationID).events →
      Later e request input ((View.history World).next h₁ w) h₂ →
      Working e request input n h₂ → Q (.ok ()) h₂) :
    Under e request input (writeJournal (writeCheckpoint input.operationID c)) Q h := by
  refine under_write hw.inv (fun j ↦ wrote_writeCheckpoint j _ c) herr ?_
  intro h₁ w hl₁ _ hworld hdir
  have hfile : (w.dir input.operationID).checkpoint = some c := congrArg (·.checkpoint) hdir
  have hevents : (w.dir input.operationID).events = (h₁.now.dir input.operationID).events :=
    congrArg (·.events) hdir
  have hw₁ := (hw.later hl₁).file hcontract hfence hseq hworld hdir (hprep h₁ w hl₁ hfile hevents)
  exact ⟨hw₁.inv, fun h₂ hl₂ ↦ hok h₁ w h₂ hl₁ hfile hevents hl₂ (hw₁.later hl₂)⟩

theorem under_writeTerminalResult
    (hinv : RunnerInv e input.commandSecret input.operationID request h) {c : OperationCheckpoint}
    {status : OperationStatus} {code : Option OperationErrorCode} {message : String}
    {Q : Except OpsError Unit → History World → Prop} (hQ : ∀ r h', Q r h') :
    Under e request input (writeTerminalResult input c status code message) Q h := by
  refine Proc.safe_bind (under_clock hinv fun h₁ now hl₁ ↦ ?_)
  refine under_write (hl₁.2 hinv) (fun j ↦ wrote_writeResult j _ _) (fun _ _ _ ↦ hQ _ _) ?_
  intro h₂ w hl₂ haccepted hworld hdir
  have hvalid := accepted_writeResult haccepted
  have hnow : w.now = h₂.now.now := by rw [hworld]
  have hexecuted : w.executed = h₂.now.executed := by rw [hworld]
  refine ⟨⟨(hl₂.2 (hl₁.2 hinv)).filed.finish hnow hexecuted hdir hvalid, fun hnone ↦ ?_⟩,
    fun _ _ ↦ hQ _ _⟩
  exact absurd ((congrArg (·.result) hdir).symm.trans hnone) (Option.some_ne_none _)

theorem under_giveUp (hw : Working e request input n h) {c : OperationCheckpoint} {message : String}
    {Q : Except OpsError Unit → History World → Prop}
    (hcontract : c.contract = request.contract) (hfence : c.fence = e.fence input)
    (hseq : c.sequence = n)
    (hprep : ∀ h₁ w, Later e request input h h₁ →
      (w.dir input.operationID).checkpoint = some c →
      (w.dir input.operationID).events = (h₁.now.dir input.operationID).events →
      (h₁.now.dir input.operationID).result = none →
      ∀ i, nextStageIndex request.plan c = .ok i →
      Ready input.operationID request (request.plan.drop i) ((View.history World).next h₁ w))
    (hQ : ∀ r h', Q r h') :
    Under e request input (Engine.giveUp input c message) Q h := by
  refine Proc.safe_bind (under_writeCheckpoint hw hcontract hfence hseq hprep ?_ ?_)
  · exact fun _ _ _ _ _ ↦ hQ _ _
  · exact fun _ _ _ _ _ _ _ hw₂ ↦ under_writeTerminalResult hw₂.inv hQ

/-! ## Cancellation and failure -/

theorem Ready.ran {operationID : String} {rest : List OperationStage}
    (hr : Ready operationID request rest h) (hran : Ran operationID stage h h')
    (hstage : stage ∉ rest) : Ready operationID request rest h' :=
  hr.since hran.states fun event hevent ↦
    (hran.events event hevent).imp_right fun heq ↦ .inr (by rwa [heq])

/-- A step that adds no event. -/
theorem Ready.next {operationID : String} {rest : List OperationStage}
    (hr : Ready operationID request rest h) {w : World}
    (hevents : (w.dir operationID).events = (h.now.dir operationID).events) :
    Ready operationID request rest ((View.history World).next h w) :=
  hr.since (fun _ ↦ List.mem_cons_of_mem _) fun _ hevent ↦ .inl (hevents ▸ hevent)

theorem not_mem_of_plan {stages : List OperationStage} (hsub : stages ⊆ request.plan)
    (hstage : stage = .restoringCurrent ∨ stage = .restoringBackup) : stage ∉ stages := by
  intro hmem
  have hne := OperationRequestFile.ne_of_mem_plan (hsub hmem)
  rcases hstage with rfl | rfl
  · exact hne.2.1 rfl
  · exact hne.2.2 rfl

theorem Ready.subset {operationID : String} {rest : List OperationStage}
    (hr : Ready operationID request rest h) : rest ⊆ request.plan := by
  obtain ⟨done, hplan, -⟩ := hr.completed
  rw [hplan]
  exact List.subset_append_right done rest

/-- Undoing is no part of the plan. -/
theorem begins_of_restoring {operationID : String} {generation : ℕ} {purpose : Purpose}
    (hpurpose : purpose ≠ .plan) (hstage : stageMayRewriteData stage = false) :
    Begins operationID request h ⟨operationID, generation, purpose, stage⟩ where
  rewriting hrewrite := by
    rw [hstage] at hrewrite
    cases hrewrite
  planned hplan := absurd hplan hpurpose
  order hplan := absurd hplan hpurpose
  once hplan := absurd hplan hpurpose

/-- Where the plan goes on from a checkpoint in memory. -/
structure Standing (e : Engine) (request : OperationRequestFile) (input : RunInput)
    (rest : List OperationStage) (c : OperationCheckpoint) : Prop where
  contract : c.contract = request.contract
  fence : c.fence = e.fence input
  next : ∃ i, nextStageIndex request.plan c = .ok i ∧ request.plan.drop i = rest

theorem under_handleCancellation {rest : List OperationStage} {c : OperationCheckpoint}
    (hw : Working e request input n h) (hready : Ready input.operationID request rest h)
    (hc : Standing e request input rest c)
    {Q : Except OpsError (Option OperationCheckpoint) → History World → Prop}
    (hgo : ∀ c' h', Later e request input h h' → Standing e request input rest c' →
      Q (.ok (some c')) h')
    (hstop : ∀ h', Q (.ok none) h') (herr : ∀ err h', Q (.error err) h') :
    Under e request input (Engine.handleCancellation input request c n) Q h := by
  refine Proc.safe_bind (Proc.safe_observe (under_read hw.inv fun h₀ h₁ hl₀ hl ↦ ?_))
  have hl₁ := Later.trans hl₀ hl
  dsimp only
  split
  · rename_i err herror
    split
    · exact Proc.safe_pure fun h₂ hl₂ ↦ hgo c h₂ (Later.trans hl₁ hl₂) hc
    · exact Proc.safe_fail fun h₂ _ ↦ herr err h₂
  · refine Proc.safe_bind (under_clock (hl₁.2 hw.inv) fun h₂ now hl₂ ↦ ?_)
    have hl₂ := Later.trans hl₁ hl₂
    have hw₂ := hw.later hl₂
    dsimp only
    split
    · refine Proc.safe_bind (under_writeTerminalResult hw₂.inv fun r h₃ ↦ ?_)
      cases r with
      | error err => exact fun _ _ ↦ herr err _
      | ok u => exact Proc.safe_pure fun _ _ ↦ hstop _
    · split
      · refine Proc.safe_pure fun h₃ hl₃ ↦ hgo _ h₃ (Later.trans hl₂ hl₃) ?_
        exact ⟨hc.contract, hc.fence, hc.next⟩
      · -- the restoration is no stage of the plan
        generalize hstage : (if (c.dataMigrationStarted && c.verifiedRecoveryPoint) = true then
          OperationStage.restoringBackup else .restoringCurrent) = stage
        have hrestoring : stage = .restoringCurrent ∨ stage = .restoringBackup := by
          rw [← hstage]
          split
          · exact .inr rfl
          · exact .inl rfl
        have hdestructive : isDestructiveStage stage = true := by
          rcases hrestoring with rfl | rfl <;> rfl
        have hrewrite : stageMayRewriteData stage = false := by
          rcases hrestoring with rfl | rfl <;> rfl
        refine Proc.safe_bind (under_executeStage hw₂ (fun hd ↦ ?_)
          (fun _ _ _ _ _ ↦ begins_of_restoring (by decide) hrewrite) ?_)
        · rw [hdestructive] at hd
          cases hd
        · intro outcome h₃ hw₃ hran
          refine Proc.safe_bind (under_clock hw₃.inv fun h₄ now' hl₄ ↦ ?_)
          have hw₄ := hw₃.later hl₄
          have hready₄ : Ready input.operationID request rest h₄ :=
            ((hready.around hl₂.1).ran hran (not_mem_of_plan hready.subset hrestoring)).around hl₄.1
          dsimp only
          split
          · refine Proc.safe_bind (under_giveUp hw₄ hc.contract hc.fence rfl ?_ fun r h₅ ↦ ?_)
            · intro h₅ w hl₅ _ hevents _ i hi
              obtain ⟨i', hi', hdrop⟩ := hc.next
              have heq : i = i' := Except.ok.inj (hi.symm.trans hi')
              rw [heq, hdrop]
              exact (hready₄.around hl₅.1).next hevents
            · cases r with
              | error err => exact fun _ _ ↦ herr err _
              | ok u => exact Proc.safe_pure fun _ _ ↦ hstop _
          · refine Proc.safe_bind (under_writeCheckpoint hw₄ hc.contract hc.fence rfl ?_ ?_ ?_)
            · intro h₅ w _ _ _ _ i hi
              refine absurd hi (nextStageIndex_of_not_mem ?_ ?_)
              · show stage ≠ .accepted
                rcases hrestoring with rfl | rfl <;> decide
              · exact not_mem_of_plan (List.Subset.refl _) hrestoring
            · exact fun _ _ _ _ _ ↦ herr _ _
            · intro h₅ w h₆ _ _ _ _ hw₆
              refine Proc.safe_bind (under_writeTerminalResult hw₆.inv fun r h₇ ↦ ?_)
              cases r with
              | error err => exact fun _ _ ↦ herr err _
              | ok u => exact Proc.safe_pure fun _ _ ↦ hstop _

theorem under_handleStageFailure {c : OperationCheckpoint} (hw : Working e request input n h)
    (hcontract : c.contract = request.contract) (hfence : c.fence = e.fence input)
    (hstage : stage ≠ .accepted) {output : StageOutput} {failure : OpsError}
    {Q : Except OpsError Unit → History World → Prop} (hQ : ∀ r h', Q r h') :
    Under e request input (Engine.handleStageFailure input request c stage output failure n) Q h := by
  refine Proc.safe_bind (under_clock hw.inv fun h₁ now hl₁ ↦ ?_)
  have hfailed := stageCompletedAt_failedCheckpoint c stage output now n failure.message
  have hstage' := (stage_failedCheckpoint c stage output now n failure.message).trans_ne hstage
  have hseq := sequence_failedCheckpoint c stage output now n failure.message
  rw [← contract_failedCheckpoint c stage output now n failure.message] at hcontract
  rw [← fence_failedCheckpoint c stage output now n failure.message] at hfence
  dsimp only
  generalize Engine.failedCheckpoint c stage output failure.message n now = failed at *
  refine Proc.safe_bind (Proc.safe_ofExcept fun h₂ hl₂ ↦ ?_)
  have hw₂ := hw.later (Later.trans hl₁ hl₂)
  generalize hdecision : decideRecovery _ _ = decided
  cases decided with
  | error err => exact fun _ _ ↦ hQ _ _
  | ok decision =>
    refine Proc.safe_bind (under_writeCheckpoint hw₂ hcontract hfence hseq ?_ ?_ ?_)
    · exact fun _ _ _ _ _ _ i hi ↦ absurd hi (nextStageIndex_eq_error hstage' hfailed)
    · exact fun _ _ _ _ _ ↦ hQ _ _
    · intro _ _ h₃ _ _ _ _ hw₃
      dsimp only
      split
      · exact under_writeTerminalResult hw₃.inv hQ
      · exact under_writeTerminalResult hw₃.inv hQ
      · exact under_writeTerminalResult hw₃.inv hQ
      · exact Proc.safe_fail fun _ _ ↦ hQ _ _
      · rename_i recovery hrecovery hnone hoperator hhandoff
        have hrestoring : recovery = .restoringCurrent ∨ recovery = .restoringBackup := by
          rcases decideRecovery_stage hdecision with (h | h | h) | ⟨-, h⟩ | ⟨-, h⟩
          · exact absurd h hnone
          · exact absurd h hoperator
          · exact absurd h hhandoff
          · exact .inr (Option.some.inj (hrecovery.symm.trans h))
          · exact .inl (Option.some.inj (hrecovery.symm.trans h))
        have hdestructive : isDestructiveStage recovery = true := by
          rcases hrestoring with rfl | rfl <;> rfl
        have hrewrite : stageMayRewriteData recovery = false := by
          rcases hrestoring with rfl | rfl <;> rfl
        refine Proc.safe_bind (under_executeStage hw₃ (fun hd ↦ ?_)
          (fun _ _ _ _ _ ↦ begins_of_restoring (by decide) hrewrite) ?_)
        · rw [hdestructive] at hd
          cases hd
        · intro outcome h₄ hw₄ _
          refine Proc.safe_bind (under_clock hw₄.inv fun h₅ now' hl₅ ↦ ?_)
          have hw₅ := hw₄.later hl₅
          dsimp only
          split
          · refine under_giveUp hw₅ hcontract hfence rfl ?_ hQ
            exact fun _ _ _ _ _ _ i hi ↦ absurd hi (nextStageIndex_eq_error hstage' hfailed)
          · refine Proc.safe_bind (under_writeCheckpoint hw₅ hcontract hfence rfl ?_ ?_ ?_)
            · intro _ _ _ _ _ _ i hi
              refine absurd hi (nextStageIndex_of_not_mem ?_ ?_)
              · show recovery ≠ .accepted
                rcases hrestoring with rfl | rfl <;> decide
              · exact not_mem_of_plan (List.Subset.refl _) hrestoring
            · exact fun _ _ _ _ _ ↦ hQ _ _
            · exact fun _ _ _ _ _ _ _ hw₆ ↦ under_writeTerminalResult hw₆.inv hQ

/-! ## The plan loop -/

/-- The next stage of the plan may begin. -/
theorem Ready.begins {operationID : String} {rest : List OperationStage}
    (hr : Ready operationID request (stage :: rest) h)
    (hbegun : ∀ run ∈ h.now.executed, ∃ event ∈ (h.now.dir operationID).events,
      event.stage = run.stage)
    {event : OperationEvent} (hevent : event.stage = stage)
    (hs : Since operationID [event] h h') (generation : ℕ) :
    Begins operationID request h' ⟨operationID, generation, .plan, stage⟩ := by
  obtain ⟨done, hplan, hdone⟩ := hr.completed
  have hnodup := request.plan_nodup
  rw [hplan] at hnodup
  have hstage : stage ∉ done := fun hmem ↦
    (List.disjoint_of_nodup_append hnodup) hmem List.mem_cons_self
  refine ⟨fun _ ↦ rfl, fun _ ↦ hr.subset List.mem_cons_self, fun _ earlier hearlier ↦ ?_,
    fun _ hdestructive ↦ ⟨fun run hrun hsame ↦ ?_, ?_⟩⟩
  · have htake : request.plan.takeWhile (· ≠ stage) = done := by
      rw [hplan, List.takeWhile_append_of_pos, List.takeWhile_cons_of_neg, List.append_nil]
      · simp
      · intro s hs
        rw [decide_eq_true_iff]
        rintro rfl
        exact hstage hs
    rw [htake] at hearlier
    exact (hdone earlier hearlier).since hs.states
  · rw [hs.executed] at hrun
    obtain ⟨event', hevent', heq⟩ := hbegun run hrun
    exact hr.fresh stage List.mem_cons_self hdestructive event' hevent' (heq.trans hsame)
  · have hzero : (h.now.dir operationID).events.countP (·.stage == stage) = 0 := by
      rw [List.countP_eq_zero]
      intro event' hevent'
      rw [beq_iff_eq]
      exact hr.fresh stage List.mem_cons_self hdestructive event' hevent'
    rw [hs.events, List.countP_append, hzero, List.countP_singleton, if_pos (by simpa using hevent)]

/-- A completed stage is behind the plan. -/
theorem Ready.complete {operationID : String} {rest : List OperationStage}
    (hr : Ready operationID request (stage :: rest) h) (hran : Ran operationID stage h h')
    {w : World} {c : OperationCheckpoint}
    (hc : (w.dir operationID).checkpoint = some c) (hstage : c.stage = stage)
    (hcompleted : c.stageCompletedAt ≠ none)
    (hevents : (w.dir operationID).events = (h'.now.dir operationID).events) :
    Ready operationID request rest ((View.history World).next h' w) := by
  obtain ⟨done, hplan, hdone⟩ := hr.completed
  have hnodup := request.plan_nodup
  rw [hplan] at hnodup
  have hother : stage ∉ rest := by
    have hcons := (List.nodup_append.mp hnodup).2.1
    exact (List.nodup_cons.mp hcons).1
  have hrest : ∀ s ∈ rest, isDestructiveStage s = true →
      ∀ event ∈ (w.dir operationID).events, event.stage ≠ s := fun s hs hdestructive event hevent ↦ by
    rw [hevents] at hevent
    rcases hran.events event hevent with hold | heq
    · exact hr.fresh s (List.mem_cons_of_mem _ hs) hdestructive event hold
    · rintro rfl
      exact hother (heq ▸ hs)
  refine ⟨⟨done ++ [stage], by rw [hplan, List.append_assoc]; rfl, fun s hs ↦ ?_⟩, hrest⟩
  rcases List.mem_append.mp hs with hold | hnew
  · exact (hdone s hold).since fun w hw ↦ List.mem_cons_of_mem _ (hran.states w hw)
  · rw [List.mem_singleton.mp hnew]
    exact ⟨w, List.mem_cons_self, c, hc, hstage, hcompleted⟩

/-- Where the plan goes on after a completed stage. -/
theorem Ready.next_completed {operationID : String} {rest : List OperationStage}
    (hr : Ready operationID request (stage :: rest) h) {c : OperationCheckpoint}
    (hstage : c.stage = stage) (hcompleted : c.stageCompletedAt ≠ none) :
    ∃ i, nextStageIndex request.plan c = .ok i ∧ request.plan.drop i = rest := by
  obtain ⟨done, hplan, -⟩ := hr.completed
  have hnodup := request.plan_nodup
  have haccepted := (OperationRequestFile.ne_of_mem_plan (hr.subset List.mem_cons_self)).1
  subst hstage
  rw [hplan] at hnodup ⊢
  refine ⟨done.length + 1, nextStageIndex_completed hnodup haccepted hcompleted, ?_⟩
  rw [List.drop_append, List.drop_eq_nil_of_le (Nat.le_succ _), List.nil_append,
    Nat.add_sub_cancel_left, List.drop_succ_cons, List.drop_zero]

theorem under_validateOwnership
    (hinv : RunnerInv e input.commandSecret input.operationID request h)
    {Q : Except OpsError Unit → History World → Prop}
    (hQ : ∀ r h', Later e request input h h' → Q r h') :
    Under e request input (e.validateOwnership input) Q h := by
  refine Proc.safe_bind (under_look hinv fun h₀ h₁ hl₀ hl₁ ↦ ?_)
  have hl := Later.trans hl₀ hl₁
  dsimp only
  split
  · exact Proc.safe_fail fun h₂ hl₂ ↦ hQ _ h₂ (Later.trans hl hl₂)
  · split
    · exact Proc.safe_fail fun h₂ hl₂ ↦ hQ _ h₂ (Later.trans hl hl₂)
    · exact Proc.safe_pure fun h₂ hl₂ ↦ hQ _ h₂ (Later.trans hl hl₂)

/-- **The plan loop.** -/
theorem under_runStages {rest : List OperationStage} {c : OperationCheckpoint}
    (hw : Working e request input n h) (hready : Ready input.operationID request rest h)
    (haligned : Aligned input.operationID request h) (hc : Standing e request input rest c) :
    Under e request input (e.runStages input request rest c n) (fun _ _ ↦ True) h := by
  induction rest generalizing c n h with
  | nil => exact under_writeTerminalResult hw.inv fun _ _ ↦ trivial
  | cons stage rest ih =>
    refine Proc.safe_bind (under_validateOwnership hw.inv fun r h₁ hl₁ ↦ ?_)
    cases r with
    | error err => exact fun _ _ ↦ trivial
    | ok u =>
      refine Proc.safe_bind (under_handleCancellation (hw.later hl₁) (hready.around hl₁.1) hc ?_
        (fun _ ↦ Proc.safe_pure fun _ _ ↦ trivial) fun _ _ _ _ ↦ trivial)
      intro c' h₂ hl₂ hc'
      have hl := Later.trans hl₁ hl₂
      have hw₂ := hw.later hl
      have hready₂ := hready.around hl.1
      have hmem : stage ∈ request.plan := hready.subset List.mem_cons_self
      refine Proc.safe_bind (under_executeStage hw₂
        (fun _ ↦ haligned.around hl.1)
        (fun h' event hevent hs _ ↦ hready₂.begins hw₂.inv.filed.begun hevent hs _) ?_)
      intro outcome h₃ hw₃ hran
      dsimp only
      split
      · exact under_handleStageFailure hw₃ hc'.contract hc'.fence
          (OperationRequestFile.ne_of_mem_plan hmem).1 fun _ _ ↦ trivial
      · refine Proc.safe_bind (under_clock hw₃.inv fun h₄ now hl₄ ↦ ?_)
        have hran₄ := hran.trans hl₄.1.idle
        obtain ⟨i, hi, hdrop⟩ := hready₂.next_completed (c := advanceCheckpoint c' stage
          outcome.output now outcome.sequence) rfl (Option.some_ne_none now)
        -- the plan is ready for the rest as soon as the checkpoint is on file
        have hfiled : ∀ h₅ w, Later e request input h₄ h₅ →
            (w.dir input.operationID).checkpoint = some (advanceCheckpoint c' stage
              outcome.output now outcome.sequence) →
            (w.dir input.operationID).events = (h₅.now.dir input.operationID).events →
            Ready input.operationID request rest ((View.history World).next h₅ w) :=
          fun h₅ w hl₅ hfile hevents ↦ hready₂.complete (hran₄.trans hl₅.1.idle) hfile rfl
            (Option.some_ne_none now) hevents
        refine Proc.safe_bind (under_writeCheckpoint (hw₃.later hl₄) hc'.contract hc'.fence rfl
          (fun h₅ w hl₅ hfile hevents _ i' hi' ↦ ?_) (fun _ _ _ _ _ ↦ trivial) ?_)
        · rw [Except.ok.inj (hi'.symm.trans hi), hdrop]
          exact hfiled h₅ w hl₅ hfile hevents
        · intro h₅ w h₆ hl₅ hfile hevents hl₆ hw₆
          have hready₆ := (hfiled h₅ w hl₅ hfile hevents).around hl₆.1
          have haligned₆ : Aligned input.operationID request ((View.history World).next h₅ w) := by
            intro c'' i' hc'' hi'
            rw [Option.some.inj (hc''.symm.trans hfile)] at hi'
            rw [Except.ok.inj (hi'.symm.trans hi), hdrop]
            exact hfiled h₅ w hl₅ hfile hevents
          exact ih hw₆ hready₆ (haligned₆.around hl₆.1) ⟨hc'.contract, hc'.fence, i, hi, hdrop⟩

/-! ## Recovery -/

theorem recoveryExecution_stage {action : Option RecoveryAction} {cancelRequested : Bool}
    {status : OperationStatus} (h : recoveryExecution action cancelRequested = .ok (stage, status)) :
    isDestructiveStage stage = true ∧ stageMayRewriteData stage = false := by
  rw [recoveryExecution.eq_def] at h
  split at h <;> cases h <;> exact ⟨rfl, rfl⟩

theorem under_runPersistedRecovery {c : OperationCheckpoint} (hw : Working e request input n h)
    (hcontract : c.contract = request.contract) (hfence : c.fence = e.fence input)
    (hover : (h.now.dir input.operationID).result ≠ none) :
    Under e request input (e.runPersistedRecovery input request c n) (fun _ _ ↦ True) h := by
  refine Proc.safe_bind (under_validateOwnership hw.inv fun r h₁ hl₁ ↦ ?_)
  cases r with
  | error err => exact fun _ _ ↦ trivial
  | ok u =>
    refine Proc.safe_bind (Proc.safe_ofExcept fun h₂ hl₂ ↦ ?_)
    generalize hexecution : recoveryExecution c.nextSafeAction c.cancelRequested = execution
    cases execution with
    | error err => exact fun _ _ ↦ trivial
    | ok execution =>
      obtain ⟨stage, status⟩ := execution
      obtain ⟨hdestructive, hrewrite⟩ := recoveryExecution_stage hexecution
      have hl := Later.trans hl₁ hl₂
      refine Proc.safe_bind (under_executeStage (hw.later hl) (fun hd ↦ ?_)
        (fun _ _ _ _ _ ↦ begins_of_restoring (by decide) hrewrite) ?_)
      · rw [hdestructive] at hd
        cases hd
      · intro outcome h₃ hw₃ hran
        refine Proc.safe_bind (under_clock hw₃.inv fun h₄ now hl₄ ↦ ?_)
        have hw₄ := hw₃.later hl₄
        have hover₄ : ∀ h₅, Later e request input h₄ h₅ →
            (h₅.now.dir input.operationID).result ≠ none := fun h₅ hl₅ hnone ↦
          hover (hl.1.result (hran.result (hl₄.1.result (hl₅.1.result hnone))))
        dsimp only
        split
        · refine under_giveUp hw₄ hcontract hfence rfl ?_ fun _ _ ↦ trivial
          exact fun h₅ _ hl₅ _ _ hnone ↦ absurd hnone (hover₄ h₅ hl₅)
        · refine Proc.safe_bind (under_writeCheckpoint hw₄ hcontract hfence rfl ?_ ?_ ?_)
          · exact fun h₅ _ hl₅ _ _ hnone ↦ absurd hnone (hover₄ h₅ hl₅)
          · exact fun _ _ _ _ _ ↦ trivial
          · exact fun _ _ _ _ _ _ _ hw₅ ↦ under_writeTerminalResult hw₅.inv fun _ _ ↦ trivial

/-! ## Taking up an operation -/

/-- What the runner knows when it has its checkpoint.  In a recovery generation there is a result;
otherwise the checkpoint may say where the plan goes on. -/
structure Loaded (e : Engine) (request : OperationRequestFile) (input : RunInput)
    (recoveryGeneration : Bool) (c : OperationCheckpoint) (h : History World) : Prop where
  inv : RunnerInv e input.commandSecret input.operationID request h
  launched : Launched input.commandSecret input.operationID input h.now
  contract : c.contract = request.contract
  fence : c.fence = e.fence input
  stored : ∃ c', (h.now.dir input.operationID).checkpoint = some c' ∧ c'.fence = e.fence input
  overdue : recoveryGeneration = true → (h.now.dir input.operationID).result ≠ none
  prepared : recoveryGeneration = false → Prepared input.operationID request c h
  same : recoveryGeneration = false →
    ∀ c', (h.now.dir input.operationID).checkpoint = some c' →
      c' = c ∨ ∀ i, nextStageIndex request.plan c' ≠ .ok i

theorem Loaded.later {recoveryGeneration : Bool} {c : OperationCheckpoint}
    (hc : Loaded e request input recoveryGeneration c h) (hl : Later e request input h h') :
    Loaded e request input recoveryGeneration c h' where
  inv := hl.2 hc.inv
  launched := hc.launched.since hl.1
  contract := hc.contract
  fence := hc.fence
  stored := by
    obtain ⟨c', hc', hfence⟩ := hc.stored
    rcases hl.1.checkpoint with hsame | ⟨c₀, c₁, hc₀, hc₁, hcondemned⟩
    · exact ⟨c', hsame.trans hc', hfence⟩
    · rw [hc₀, Option.some.injEq] at hc'
      exact ⟨c₁, hc₁, hcondemned.fence.trans (hc' ▸ hfence)⟩
  overdue hrec hnone := hc.overdue hrec (hl.1.result hnone)
  prepared hrec := (hc.prepared hrec).around hl.1
  same hrec c' hc' := by
    rcases hl.1.checkpoint with hsame | ⟨c₀, c₁, hc₀, hc₁, hcondemned⟩
    · exact hc.same hrec c' (hsame ▸ hc')
    · rw [hc₁, Option.some.injEq] at hc'
      exact .inr (hc' ▸ hcondemned.nextStageIndex request.plan)

/-- The runner enters an operation that has a result, or one whose checkpoint is its own. -/
structure Entered (e : Engine) (request : OperationRequestFile) (input : RunInput)
    (recoveryGeneration : Bool) (h : History World) : Prop where
  inv : RunnerInv e input.commandSecret input.operationID request h
  launched : Launched input.commandSecret input.operationID input h.now
  overdue : recoveryGeneration = true → (h.now.dir input.operationID).result ≠ none
  current : recoveryGeneration = false →
    ∀ c, (h.now.dir input.operationID).checkpoint = some c →
      c.fence = e.fence input ∧ Prepared input.operationID request c h

theorem Entered.later {recoveryGeneration : Bool}
    (hc : Entered e request input recoveryGeneration h) (hl : Later e request input h h') :
    Entered e request input recoveryGeneration h' where
  inv := hl.2 hc.inv
  launched := hc.launched.since hl.1
  overdue hrec hnone := hc.overdue hrec (hl.1.result hnone)
  current hrec c hcfile := by
    rcases hl.1.checkpoint with hsame | ⟨c₀, c₁, hc₀, hc₁, hcondemned⟩
    · obtain ⟨hfence, hprepared⟩ := hc.current hrec c (hsame ▸ hcfile)
      exact ⟨hfence, hprepared.around hl.1⟩
    · rw [hc₁, Option.some.injEq] at hcfile
      subst hcfile
      exact ⟨hcondemned.fence.trans (hc.current hrec c₀ hc₀).1,
        fun _ i hi ↦ absurd hi (hcondemned.nextStageIndex _ i)⟩

/-- The first checkpoint of a generation. -/
theorem under_firstCheckpoint {recoveryGeneration : Bool} {c : OperationCheckpoint}
    (hentered : Entered e request input recoveryGeneration h)
    (hexecutable : Executable input.operationID request) (hcontract : c.contract = request.contract) (hfence : c.fence = e.fence input)
    (hseq : c.sequence = 0)
    (hevents : ∀ event ∈ (h.now.dir input.operationID).events,
      event.generation ≤ input.generation)
    (hprep : recoveryGeneration = false → ∀ i, nextStageIndex request.plan c = .ok i →
      Ready input.operationID request (request.plan.drop i) h)
    {Q : Except OpsError OperationCheckpoint → History World → Prop}
    (hok : ∀ h', Loaded e request input recoveryGeneration c h' → Q (.ok c) h')
    (herr : ∀ err h', Q (.error err) h') :
    Under e request input (do
      writeJournal (writeCheckpoint input.operationID c)
      return c) Q h := by
  refine Proc.safe_bind (under_write hentered.inv (fun j ↦ wrote_writeCheckpoint j _ c) ?_ ?_)
  · exact fun _ _ _ _ _ ↦ herr _ _
  · intro h₁ w hl₁ _ hworld hdir
    have hentered₁ := hentered.later hl₁
    have hfile : (w.dir input.operationID).checkpoint = some c := congrArg (·.checkpoint) hdir
    have hevents' : (w.dir input.operationID).events = (h₁.now.dir input.operationID).events :=
      congrArg (·.events) hdir
    have hready : recoveryGeneration = false → ∀ i, nextStageIndex request.plan c = .ok i →
        Ready input.operationID request (request.plan.drop i) ((View.history World).next h₁ w) :=
      fun hrec i hi ↦ ((hprep hrec i hi).around hl₁.1).next hevents'
    have hevents₁ : ∀ event ∈ (h₁.now.dir input.operationID).events,
        event.generation ≤ input.generation := fun event hevent ↦ hevents event (by
      rwa [hl₁.1.events, List.append_nil] at hevent)
    have hprep₁ : (h₁.now.dir input.operationID).result = none → ∀ i,
        nextStageIndex request.plan c = .ok i →
        Ready input.operationID request (request.plan.drop i) ((View.history World).next h₁ w) := by
      intro hnone i hi
      cases recoveryGeneration with
      | true => exact absurd hnone (hentered₁.overdue rfl)
      | false => exact hready rfl i hi
    obtain ⟨hinv, hl⟩ := hentered₁.inv.file hentered₁.launched hexecutable hcontract hfence
      (.inl hseq) hevents₁ hworld hdir hprep₁
    have hloaded : Loaded e request input recoveryGeneration c ((View.history World).next h₁ w) := by
      refine ⟨hinv, hl, hcontract, hfence, ⟨c, hfile, hfence⟩, fun hrec hnone ↦ ?_,
        fun hrec _ ↦ hready hrec, fun _ c' hc' ↦ .inl (Option.some.inj (hc'.symm.trans hfile))⟩
      exact hentered₁.overdue hrec ((congrArg (·.result) hdir).symm.trans hnone)
    exact ⟨hinv, fun h₂ hl₂ ↦ Proc.safe_pure fun h₃ hl₃ ↦
      hok h₃ (hloaded.later (Later.trans hl₂ hl₃))⟩

theorem renewCheckpoint_eq_ok {c c' : OperationCheckpoint} {now : Time}
    (h : e.renewCheckpoint input c now = .ok c') :
    c'.contract = c.contract ∧ c'.fence = e.fence input ∧ c'.sequence = 0 := by
  rw [Engine.renewCheckpoint] at h
  split at h
  · cases h
  · cases h
    exact ⟨rfl, rfl, rfl⟩

theorem readRequest_eq_ok {j : Journal} {operationID : String} {r : OperationRequestFile}
    (h : j.readRequest operationID = .ok r) :
    (j.dir operationID).request = some r ∧ r.operationID = operationID ∧
      validateRequest r = .ok () := by
  rw [Journal.readRequest] at h
  cases hread : readFact operationID (j.dir operationID).request (·.operationID) with
  | error err => rw [hread] at h; cases h
  | ok r' =>
    rw [hread] at h
    simp only [bind, Except.bind] at h
    split at h
    · cases h
    · rename_i hvalid
      cases h
      obtain ⟨-, hfile, howner⟩ := readFact_eq_ok_iff.mp hread
      exact ⟨hfile, howner, hvalid⟩

theorem under_loadOrCreateCheckpoint {recoveryGeneration : Bool}
    (hentered : Entered e request input recoveryGeneration h)
    (hexecutable : Executable input.operationID request)
    {Q : Except OpsError OperationCheckpoint → History World → Prop}
    (hok : ∀ c h', Loaded e request input recoveryGeneration c h' → Q (.ok c) h')
    (herr : ∀ err h', Q (.error err) h') :
    Under e request input (e.loadOrCreateCheckpoint input request) Q h := by
  refine Proc.safe_bind (Proc.safe_observe (under_read hentered.inv fun h₁ h₂ hl₁ hl₂ ↦ ?_))
  have hentered₁ := hentered.later hl₁
  generalize hread : h₁.now.journal.readCheckpoint input.operationID = read
  cases read with
  | ok c =>
    have hfile : (h₁.now.dir input.operationID).checkpoint = some c := file_of_readFact hread
    refine Proc.safe_bind (Proc.safe_ofExcept fun h₃ hl₃ ↦ ?_)
    have hl₃ := Later.trans hl₂ hl₃
    cases hvalid : validateCheckpointRequestContract c request with
    | error err => exact fun _ _ ↦ herr _ _
    | ok u =>
      have hcontract := validateCheckpointRequestContract_eq_ok.mp hvalid
      dsimp only
      split
      · exact Proc.safe_fail fun _ _ ↦ herr _ _
      · split
        · split
          · exact Proc.safe_fail fun _ _ ↦ herr _ _
          · rename_i hgen hsame
            simp only [not_or, not_not] at hsame
            have hfence : c.fence = e.fence input := by
              rw [OperationCheckpoint.fence, Engine.fence, hgen, hsame.1, hsame.2]
            have hloaded : Loaded e request input recoveryGeneration c h₁ :=
              ⟨hentered₁.inv, hentered₁.launched, hcontract, hfence, ⟨c, hfile, hfence⟩,
                hentered₁.overdue, fun hrec ↦ (hentered₁.current hrec c hfile).2,
                fun _ c' hc' ↦ .inl (Option.some.inj (hc'.symm.trans hfile))⟩
            exact Proc.safe_pure fun h₄ hl₄ ↦ hok c h₄ (hloaded.later (Later.trans hl₃ hl₄))
        · -- a checkpoint of an earlier generation
          rename_i hgt hne
          refine Proc.safe_bind (under_clock (hentered₁.later hl₃).inv fun h₄ now hl₄ ↦ ?_)
          refine Proc.safe_bind (Proc.safe_ofExcept fun h₅ hl₅ ↦ ?_)
          have hl := Later.trans hl₃ (Later.trans hl₄ hl₅)
          cases hrenewed : e.renewCheckpoint input c now with
          | error err => exact fun _ _ ↦ herr _ _
          | ok renewed =>
            obtain ⟨hcontract', hfence, hseq⟩ := renewCheckpoint_eq_ok hrenewed
            have hrec : recoveryGeneration ≠ false := fun hrec ↦
              hne (OperationCheckpoint.generation_of_fence (hentered₁.current hrec c hfile).1)
            refine under_firstCheckpoint (hentered₁.later hl) hexecutable
              (hcontract'.trans hcontract) hfence hseq
              (fun event hevent ↦ ?_) (fun hrec' ↦ absurd hrec' hrec) (hok _) herr
            rw [hl.1.events, List.append_nil] at hevent
            obtain ⟨c', hc', hle⟩ := hentered₁.inv.filed.events event hevent
            rw [hfile, Option.some.injEq] at hc'
            subst hc'
            omega
  | error err =>
    dsimp only
    split
    · exact Proc.safe_fail fun _ _ ↦ herr _ _
    · rename_i hkind
      have hnone : (h₁.now.dir input.operationID).checkpoint = none :=
        file_of_readFact_notExist hread (not_not.mp hkind)
      have hevents : (h₁.now.dir input.operationID).events = [] := by
        refine List.eq_nil_iff_forall_not_mem.mpr fun event hevent ↦ ?_
        obtain ⟨c, hc, -⟩ := hentered₁.inv.filed.events event hevent
        rw [hnone] at hc
        cases hc
      refine Proc.safe_bind (under_clock (hentered₁.later hl₂).inv fun h₃ now hl₃ ↦ ?_)
      have hl := Later.trans hl₂ hl₃
      refine under_firstCheckpoint (hentered₁.later hl) hexecutable rfl rfl rfl (fun event hevent ↦ ?_)
        (fun _ i hi ↦ ?_) (hok _) herr
      · rw [hl.1.events, hevents] at hevent
        exact absurd hevent List.not_mem_nil
      · have hzero : i = 0 := Except.ok.inj (hi.symm.trans (if_pos rfl))
        refine ⟨⟨[], by rw [hzero]; rfl, fun _ hs ↦ absurd hs List.not_mem_nil⟩,
          fun _ _ _ event hevent ↦ ?_⟩
        rw [hl.1.events, hevents] at hevent
        exact absurd hevent List.not_mem_nil

theorem under_readEventState {recoveryGeneration : Bool} {c : OperationCheckpoint}
    (hc : Loaded e request input recoveryGeneration c h)
    {Q : Except OpsError (ℕ × Option OperationEvent) → History World → Prop}
    (hok : ∀ n latest h', Working e request input n h' →
      Loaded e request input recoveryGeneration c h' →
      (h'.now.dir input.operationID).latestEvent input.generation = latest →
      n = (latest.map (·.sequence)).getD 0 → Q (.ok (n, latest)) h')
    (herr : ∀ err h', Q (.error err) h') :
    Under e request input (Engine.readEventState input) Q h := by
  refine Proc.safe_bind (under_read hc.inv fun h₁ h₂ hl₁ hl₂ ↦ ?_)
  cases hread : h₁.now.journal.readEvents input.operationID input.generation 0 with
  | error err => exact fun _ _ ↦ herr _ _
  | ok events =>
    refine Proc.safe_pure fun h₃ hl₃ ↦ ?_
    have hl := Later.trans hl₂ hl₃
    have hlatest : (h₃.now.dir input.operationID).latestEvent input.generation =
        events.getLast? := by
      rw [hl.1.latestEvent, Journal.readEvents_getLast? hread]
    have hloaded := hc.later (Later.trans hl₁ hl)
    refine hok _ _ h₃ ⟨hloaded.inv, hloaded.launched, hloaded.stored, fun event hevent hgen ↦ ?_, ?_⟩
      hloaded hlatest rfl
    · cases hlast : events.getLast? with
      | none =>
        rw [hlast] at hlatest
        rw [OperationDir.latestEvent_eq_none hlatest hevent hgen]
        exact Nat.zero_le _
      | some last =>
        rw [hlast] at hlatest
        exact (OperationDir.latestEvent_eq_some hlatest).2.2.2 event hevent hgen
    · cases hlast : events.getLast? with
      | none => exact .inl rfl
      | some last =>
        rw [hlast] at hlatest
        obtain ⟨hmem, hgen, -, -⟩ := OperationDir.latestEvent_eq_some hlatest
        exact .inr ⟨last, hmem, hgen, rfl⟩

theorem under_proceed {recoveryGeneration : Bool} {c : OperationCheckpoint}
    (hw : Working e request input n h) (hc : Loaded e request input recoveryGeneration c h)
    (hknown : ∀ event, (h.now.dir input.operationID).latestEvent input.generation = some event →
      isUnknownStageIntent c event = false) :
    Under e request input (e.proceed input request request.plan c n recoveryGeneration)
      (fun _ _ ↦ True) h := by
  cases recoveryGeneration with
  | true =>
    refine Proc.safe_bind (Proc.safe_observe (under_read hw.inv fun h₀ h₁ hl₀ hl₁ ↦ ?_))
    have hl := Later.trans hl₀ hl₁
    have hc₁ := hc.later hl
    dsimp only
    split
    · exact under_runPersistedRecovery (hw.later hl) hc.contract hc.fence (hc₁.overdue rfl)
    · split
      · exact under_runPersistedRecovery (hw.later hl) hc.contract hc.fence (hc₁.overdue rfl)
      · exact Proc.safe_fail fun _ _ ↦ trivial
  | false =>
    refine Proc.safe_bind (Proc.safe_ofExcept fun h₁ hl₁ ↦ ?_)
    cases hnext : nextStageIndex request.plan c with
    | error err => exact fun _ _ ↦ trivial
    | ok i =>
      have hready : Ready input.operationID request (request.plan.drop i) h := by
        refine hc.prepared rfl (fun event hevent ↦ hknown event ?_) i hnext
        rwa [OperationCheckpoint.generation_of_fence hc.fence] at hevent
      refine under_runStages (hw.later hl₁) (hready.around hl₁.1) (Aligned.around ?_ hl₁.1)
        ⟨hc.contract, hc.fence, i, hnext, rfl⟩
      intro c' i' hc' hi'
      rcases hc.same rfl c' hc' with rfl | hstuck
      · rw [Except.ok.inj (hi'.symm.trans hnext)]
        exact hready
      · exact absurd hi' (hstuck i')

theorem under_goOn {recoveryGeneration : Bool} {c : OperationCheckpoint}
    (hc : Loaded e request input recoveryGeneration c h) :
    Under e request input (e.goOn input request request.plan c recoveryGeneration)
      (fun _ _ ↦ True) h := by
  refine Proc.safe_bind (under_readEventState hc ?_ fun _ _ _ _ ↦ trivial)
  intro n latest h₁ hw₁ hc₁ hlatest hn
  cases latest with
  | none =>
    refine under_proceed hw₁ hc₁ fun event hevent ↦ ?_
    rw [hlatest] at hevent
    cases hevent
  | some event =>
    refine Proc.safe_bind (under_clock hw₁.inv fun h₂ now hl₂ ↦ ?_)
    refine Proc.safe_bind (Proc.safe_ofExcept fun h₃ hl₃ ↦ ?_)
    have hl := Later.trans hl₂ hl₃
    cases happlied : applyUnknownStageIntent c event now with
    | error err => exact fun _ _ ↦ trivial
    | ok result =>
      obtain ⟨interrupted, applied⟩ := result
      cases applied with
      | true =>
        obtain ⟨hunknown, hcontract, hfence, hstage, hcompleted, hseq⟩ :=
          applyUnknownStageIntent_true happlied
        have haccepted : interrupted.stage ≠ .accepted := by
          rw [hstage]
          intro haccepted
          have hdestructive := (isUnknownStageIntent_iff.mp hunknown).2.2
          rw [haccepted] at hdestructive
          exact absurd hdestructive (by decide)
        refine Proc.safe_bind (under_writeCheckpoint (hw₁.later hl)
          (hcontract.trans hc₁.contract) (hfence.trans hc₁.fence) (hseq.trans hn.symm) ?_ ?_ ?_)
        · exact fun _ _ _ _ _ _ i hi ↦ absurd hi (nextStageIndex_eq_error haccepted hcompleted)
        · exact fun _ _ _ _ _ ↦ trivial
        · exact fun _ _ _ _ _ _ _ hw₄ ↦ under_writeTerminalResult hw₄.inv fun _ _ ↦ trivial
      | false =>
        refine under_proceed (hw₁.later hl) (hc₁.later hl) fun event' hevent' ↦ ?_
        rw [hl.1.latestEvent, hlatest, Option.some.injEq] at hevent'
        rw [← hevent']
        exact applyUnknownStageIntent_false happlied

theorem under_takeUp {recoveryGeneration : Bool}
    (hentered : Entered e request input recoveryGeneration h) :
    Under e request input (e.takeUp input recoveryGeneration) (fun _ _ ↦ True) h := by
  refine Proc.safe_bind (under_read hentered.inv fun h₁ h₂ hl₁ hl₂ ↦ ?_)
  have hentered₁ := hentered.later hl₁
  cases hread : h₁.now.journal.readRequest input.operationID with
  | error err => exact fun _ _ ↦ trivial
  | ok r =>
    have hr : r = request := Option.some.inj
      ((readRequest_eq_ok hread).1.symm.trans hentered₁.inv.filed.stated)
    subst hr
    dsimp only
    split
    · exact Proc.safe_fail fun _ _ ↦ trivial
    · rename_i hlive
      refine Proc.safe_bind (Proc.safe_ofExcept fun h₃ hl₃ ↦ ?_)
      cases hstages : stagesFor r.request.action with
      | error err => exact fun _ _ ↦ trivial
      | ok stages =>
        obtain rfl := OperationRequestFile.plan_of_stagesFor hstages
        have hexecutable : Executable input.operationID r :=
          ⟨(readRequest_eq_ok hread).2.1, (readRequest_eq_ok hread).2.2, by simpa using hlive, hstages⟩
        exact Proc.safe_bind (under_loadOrCreateCheckpoint
          (hentered₁.later (Later.trans hl₂ hl₃)) hexecutable (fun c h₄ hc₄ ↦ under_goOn hc₄)
          fun _ _ _ _ ↦ trivial)

/-- **A run of the engine keeps the contract**, from wherever the last one left off. -/
theorem under_run (hinv : RunnerInv e input.commandSecret input.operationID request h)
    (hlaunched : Launched input.commandSecret input.operationID input h.now) :
    Under e request input (e.run input) (fun _ _ ↦ True) h := by
  refine Proc.safe_bind (Proc.safe_ofExcept fun h₁ hl₁ ↦ ?_)
  cases validateRunInput input with
  | error err => exact fun _ _ ↦ trivial
  | ok u =>
    refine Proc.safe_bind (under_validateOwnership (hl₁.2 hinv) fun r h₂ hl₂ ↦ ?_)
    cases r with
    | error err => exact fun _ _ ↦ trivial
    | ok u =>
      have hl₂ := Later.trans hl₁ hl₂
      refine Proc.safe_bind (Proc.safe_observe (under_read (hl₂.2 hinv) fun h₃ h₄ hl₃ hl₄ ↦ ?_))
      have hl := Later.trans hl₂ hl₃
      have hinv₃ := hl.2 hinv
      have hlaunched₃ := hlaunched.since hl.1
      cases hread : h₃.now.journal.readResult input.operationID with
      | ok result =>
        have hresult : (h₃.now.dir input.operationID).result ≠ none := by
          rw [file_of_readFact hread]
          exact Option.some_ne_none result
        have hentered : Entered e request input true h₃ :=
          ⟨hinv₃, hlaunched₃, fun _ ↦ hresult, fun hrec ↦ (nomatch hrec)⟩
        dsimp only
        split
        · exact Proc.safe_pure fun _ _ ↦ trivial
        · split
          · exact Proc.safe_fail fun _ _ ↦ trivial
          · split
            · exact Proc.safe_pure fun _ _ ↦ trivial
            · exact under_takeUp (hentered.later hl₄)
      | error err =>
        dsimp only
        split
        · rename_i hkind
          have hnone : (h₃.now.dir input.operationID).result = none :=
            file_of_readFact_notExist hread hkind
          have hentered : Entered e request input false h₃ := by
            refine ⟨hinv₃, hlaunched₃, fun hrec ↦ (nomatch hrec), fun _ c hc ↦ ⟨?_, ?_⟩⟩
            · obtain ⟨-, l, hl, hwhose⟩ := hinv₃.filed.checkpoint c hc
              obtain ⟨l', hl', hmine⟩ := hlaunched₃
              rw [hl, Option.some.injEq] at hl'
              subst hl'
              rcases hmine with hmine | hlater
              · rcases hwhose with hwhose | hold
                · rw [hwhose, hmine]
                · exact absurd hnone hold.2
              · exact absurd hnone hlater.2
            · exact hinv₃.prepared hnone c hc
          exact under_takeUp (hentered.later hl₄)
        · exact Proc.safe_fail fun _ _ ↦ trivial

end Work

/-! ## Every run -/

section Runs

variable {e : Engine} {secret operationID : String} {request : OperationRequestFile}

theorem honours_planContract :
    System.Honours (runnerSystem e secret operationID) (View.history World)
      (planContract e secret operationID request) where
  call input _ h hinv _ hadmits := by
    have hany : ((h.now.dir operationID).launch.any fun command ↦
      command.payload.operationID = operationID ∧ input = command.payload.runInput secret) = true :=
      hadmits
    rw [Option.any_eq_true] at hany
    obtain ⟨l, hl, hl'⟩ := hany
    obtain ⟨rfl, rfl⟩ := of_decide_eq_true hl'
    exact (under_run hinv ⟨l, hl, .inl rfl⟩ : Under e request (l.payload.runInput secret) _ _ h)
  move_rely m _ h w _ hmove := by
    have hstep := stepAround_runnerMove hmove
    exact ⟨hstep.since, fun hinv ↦ hinv.since hstep.since (hinv.filed.around hstep)⟩
  move_inv m h w hinv hmove := by
    have hstep := stepAround_runnerMove hmove
    exact RunnerInv.since hinv hstep.since (hinv.filed.around hstep)

variable (e secret) in
/-- An operation nothing has been done for yet. -/
theorem runnerInv_of_requested {w : World}
    (hdir : w.dir operationID = { request := some request }) (hexecuted : w.executed = []) :
    RunnerInv e secret operationID request ⟨w, []⟩ := by
  refine ⟨⟨?_, ?_, ?_, ?_, ?_, ?_, ?_, ?_, ?_⟩, ?_⟩
  · rw [hdir]
  · rw [hdir]
    exact fun _ hl ↦ (nomatch hl)
  · rw [hdir]
    exact fun _ hc ↦ (nomatch hc)
  · rw [hdir]
    exact fun _ hc ↦ (nomatch hc)
  · rw [hdir]
    exact fun _ hc ↦ (nomatch hc)
  · rw [hdir]
    exact fun _ hc ↦ (nomatch hc)
  · rw [hdir]
    exact fun _ hevent ↦ absurd hevent List.not_mem_nil
  · rw [hdir]
    exact fun _ hr ↦ (nomatch hr)
  · rw [hexecuted]
    exact fun _ hrun ↦ absurd hrun List.not_mem_nil
  · rw [hdir]
    exact fun _ _ hc ↦ (nomatch hc)

/-- **No plan repeats a destructive stage, and none skips one.** Take any run from an operation that
has only its request: the runner dies anywhere and is started again, in the same generation or in a
later one, and the controller interferes as it may.  When a stage is begun by the plan, every stage
before it in the plan has a completed checkpoint; and if the stage is destructive, it was never
begun before, for whatever purpose, nor announced: the one event about it is the intent of this very
execution.  And a stage that rewrites data is begun by nothing but the plan, after the backup was
completed. -/
theorem destructiveStages_beginOnce (e : Engine) (secret operationID : String)
    (request : OperationRequestFile) (w : World)
    (hdir : w.dir operationID = { request := some request }) (hexecuted : w.executed = [])
    {c d : Config (History World) World OpsError Answer Unit}
    (hreach : (runnerSystem e secret operationID).Reach (View.history World)
      (System.idle ⟨w, []⟩) c)
    (hstep : (runnerSystem e secret operationID).Step (View.history World) c d) {run : StageRun}
    (hrun : d.state.now.executed = c.state.now.executed ++ [run]) :
    (run.purpose = .plan →
      run.stage ∈ request.plan ∧
      (∀ stage ∈ request.plan.takeWhile (· ≠ run.stage), Completed operationID stage c.state) ∧
      (isDestructiveStage run.stage = true →
        (∀ earlier ∈ c.state.now.executed, earlier.stage ≠ run.stage) ∧
          (c.state.now.dir operationID).events.countP (·.stage == run.stage) = 1)) ∧
    (stageMayRewriteData run.stage = true →
      run.purpose = .plan ∧ Completed operationID .backingUp c.state) := by
  have hinv := runnerInv_of_requested e secret hdir hexecuted
  have hne : d.state.now.executed ≠ c.state.now.executed := by
    rw [hrun]
    exact fun h ↦ absurd (congrArg List.length h) (by simp)
  have hbegins : Begins operationID request c.state run := by
    rcases System.Reach.step honours_planContract hinv hreach hstep with
      hsame | ⟨_, hguar⟩ | ⟨m, w', hmove, hstate⟩
    · exact absurd (by rw [hsame]) hne
    · rcases hguar.2 with hkeep | ⟨run', hrun', hbegins⟩
      · exact absurd hkeep hne
      · rw [hrun, List.append_cancel_left_eq, List.cons.injEq] at hrun'
        exact hrun'.1 ▸ hbegins
    · refine absurd ?_ hne
      rw [hstate]
      exact (stepAround_runnerMove hmove).executed
  refine ⟨fun hplan ↦ ⟨hbegins.planned hplan, hbegins.order hplan, hbegins.once hplan⟩,
    fun hrewrite ↦ ?_⟩
  have hplan := hbegins.rewriting hrewrite
  have hbackup := OperationRequestFile.backingUp_mem (hbegins.planned hplan) hrewrite
  exact ⟨hplan, hbegins.order hplan _ hbackup⟩

end Runs

/-- The runner dies before the checkpoint of the first stage, and comes as far as the intent of the
second when it is started again. -/
def quiescingAnnounced : List (System.Action Answer RunInput Unit RunnerMove) :=
  sampleStart ++ System.steps () 12 ++ [.run () (some default)] ++ System.steps () 2 ++
    [.stop (), .start (sampleLaunch.runInput sampleSecret)] ++ System.steps () 11 ++
    [.run () (some default)] ++ System.steps () 8

theorem executed_quiescingAnnounced :
    ((sampleSystem.play (View.history World) (System.idle ⟨sampleWorld, []⟩)
        quiescingAnnounced).bind fun c ↦
      (sampleSystem.perform (View.history World) c (.run () none)).map fun d ↦
        (c.state.now.executed, d.state.now.executed)) =
      some ([⟨"op-1", 1, .plan, .onlinePreflight⟩, ⟨"op-1", 1, .plan, .onlinePreflight⟩],
        [⟨"op-1", 1, .plan, .onlinePreflight⟩, ⟨"op-1", 1, .plan, .onlinePreflight⟩,
          ⟨"op-1", 1, .plan, .quiescing⟩]) := by
  decide

theorem destructiveStages_beginOnce_quiescing :
    ∃ c d : Config (History World) World OpsError Answer Unit,
      sampleSystem.Reach (View.history World) (System.idle ⟨sampleWorld, []⟩) c ∧
      sampleSystem.Step (View.history World) c d ∧
      d.state.now.executed = c.state.now.executed ++ [⟨"op-1", 1, .plan, .quiescing⟩] ∧
      Completed "op-1" .onlinePreflight c.state ∧
      (∀ earlier ∈ c.state.now.executed, earlier.stage ≠ .quiescing) ∧
      (c.state.now.dir "op-1").events.countP (·.stage == .quiescing) = 1 := by
  obtain ⟨c, hplay, hmap⟩ := Option.bind_eq_some_iff.mp executed_quiescingAnnounced
  obtain ⟨d, hperform, hexecuted⟩ := Option.map_eq_some_iff.mp hmap
  have hreach := System.reach_of_play hplay
  have hstep : sampleSystem.Step (View.history World) c d := ⟨_, hperform⟩
  rw [Prod.mk.injEq] at hexecuted
  have hrun : d.state.now.executed =
      c.state.now.executed ++ [⟨"op-1", 1, .plan, .quiescing⟩] := by
    rw [hexecuted.1, hexecuted.2]
    rfl
  have hdir : sampleWorld.dir "op-1" = { request := some sampleRequest } :=
    Journal.dir_modify _ _ _
  obtain ⟨hplan, -⟩ := destructiveStages_beginOnce ⟨id⟩ sampleSecret "op-1" sampleRequest sampleWorld
    hdir rfl hreach hstep hrun
  obtain ⟨-, horder, honce⟩ := hplan rfl
  exact ⟨c, d, hreach, hstep, hrun, horder .onlinePreflight (by decide), honce (by decide)⟩

end HMaigc.Ops
