import HMaigc.Ops.Engine

/-!
# What holds in every run

A run of the engine is put together from a few parts: the ownership check, the handling of a
cancellation and of a failed stage, the stage itself, a persisted recovery, and the files written in
between.  `RunParts` lists what has to be known of each of them, and `RunParts.run` is the rule that
makes it hold throughout the run; the paths through the engine are gone over here, once.
-/

set_option autoImplicit false

namespace HMaigc.Ops

open Go Concurrent Concurrent.Proc

variable {ω : Type} {V : View World ω} {R G L : ω → ω → Prop}

section Reading

variable [IsTrans ω R] [Std.Refl R]

theorem within_clock (hL : Tolerates V R G L) : clock.Within V R G L :=
  (within_look hL).bind hL fun w ↦ within_pure hL w.now

theorem within_readJournal (hL : Tolerates V R G L) {α : Type} (read : World → Except OpsError α) :
    (readJournal read).Within V R G L :=
  (within_look hL).bind hL fun w ↦ within_ofExcept hL (read w)

theorem within_validateOwnership (hL : Tolerates V R G L) (e : Engine) (input : RunInput) :
    (e.validateOwnership input).Within V R G L := by
  refine (within_look hL).bind hL fun w ↦ ?_
  split
  · exact within_fail hL _
  · split
    · exact within_fail hL _
    · exact within_pure hL _

theorem within_appendRunEvent (hL : Tolerates V R G L)
    (hevent : ∀ event, (writeJournal (appendEvent event)).Within V R G L) (input : RunInput)
    (sequence : ℕ) (kind : EventKind) (stage : OperationStage) (message : String) :
    (appendRunEvent input sequence kind stage message).Within V R G L :=
  (within_clock hL).bind hL fun _ ↦ (hevent _).bind hL fun _ ↦ within_pure hL _

/-- What a stage comes to once its script is done: one more event. -/
theorem within_endStage (hL : Tolerates V R G L)
    (hevent : ∀ event, (writeJournal (appendEvent event)).Within V R G L) (input : RunInput)
    (sequence : ℕ) (kind : EventKind) (stage : OperationStage) (message : String)
    (onError : OpsError → StageOutcome) (onOk : ℕ → StageOutcome) :
    ((appendRunEvent input sequence kind stage message).observe >>= fun r ↦
      match r with
      | .error err => pure (onError err)
      | .ok n => pure (onOk n)).Within V R G L := by
  refine (within_appendRunEvent hL hevent input sequence kind stage message).observe.bind hL
    fun r ↦ ?_
  cases r with
  | error err => exact within_pure hL _
  | ok n => exact within_pure hL _

theorem safe_beginStage (hL : Tolerates V R G L) {run : StageRun} {s : ω}
    {Q : Except OpsError StageReport → ω → Prop}
    (hbegin : ∀ t, R s t →
      G t (V.next t { V.now t with executed := (V.now t).executed ++ [run] }) ∧
      ∀ u report, L (V.next t { V.now t with executed := (V.now t).executed ++ [run] }) u →
        Q (.ok report) u) :
    (beginStage run).Safe V R G Q s := by
  refine safe_bind (safe_atomic fun t ht ↦ ⟨(hbegin t ht).1, fun u hu ↦ ?_⟩)
  have hQ := (hbegin t ht).2
  refine safe_bind (safe_answer fun v hv answer x hx ↦ ?_)
  have hQ : ∀ report y, R x y → Q (.ok report) y := fun report y hy ↦ by
    have hl := hL.trans _ _ _ (hL.rely _ _ hu) (hL.trans _ _ _ (hL.rely _ _ hv) (hL.rely _ _ hx))
    exact hQ y report (hL.trans _ _ _ hl (hL.rely x y hy))
  cases answer with
  | stage report => exact hQ report
  | start failure => exact hQ default
  | resolve runner => exact hQ default
  | token value => exact hQ default

/-- The step of a stage that matters is the one in which its script takes over. -/
theorem safe_executeStage (hL : Tolerates V R G L)
    (hevent : ∀ event, (writeJournal (appendEvent event)).Within V R G L) {input : RunInput}
    {request : OperationRequestFile} {purpose : Purpose} {stage : OperationStage} {sequence : ℕ}
    {s : ω}
    (hbegin : ∀ t, L s t → G t (V.next t { V.now t with
      executed := (V.now t).executed ++ [⟨input.operationID, input.generation, purpose, stage⟩] })) :
    (executeStage input request purpose stage sequence).Safe V R G (fun _ _ ↦ True) s := by
  refine safe_bind (((within_appendRunEvent hL hevent _ _ _ _ _).observe).safe fun r t ht ↦ ?_)
  cases r with
  | error err => exact fun _ _ ↦ trivial
  | ok intent =>
    cases intent with
    | error err => exact fun _ _ ↦ trivial
    | ok intent =>
      refine safe_bind (safe_beginStage hL fun u hu ↦
        ⟨hbegin u (hL.trans s t u ht (hL.rely t u hu)), fun v report _ ↦ ?_⟩)
      dsimp only
      split
      · exact (within_endStage hL hevent _ _ _ _ _ _ _).safe fun _ _ _ ↦ trivial
      · exact (within_endStage hL hevent _ _ _ _ _ _ _).safe fun _ _ _ ↦ trivial

end Reading

/-! ## The parts of a run -/

/-- What has to be known of the parts of a run, for every step of it to be one `G` allows; `Held` is
what the ownership check establishes. -/
structure RunParts (e : Engine) (input : RunInput) (V : View World ω) (R G : ω → ω → Prop)
    (Held : ω → Prop) : Prop where
  tolerates : Tolerates V R G (fun _ _ ↦ True)
  checkpoint : ∀ c,
    (writeJournal (writeCheckpoint input.operationID c)).Within V R G (fun _ _ ↦ True)
  result : ∀ c status code message, status = .succeeded ∨ status = .recoveryRequired →
    (writeTerminalResult input c status code message).Within V R G (fun _ _ ↦ True)
  ownership : ∀ s,
    (e.validateOwnership input).Safe V R G (fun r t ↦ r = .ok () → Held t) s
  cancellation : ∀ request c n s, Held s → (Engine.handleCancellation input request c n).Safe V R G
    (fun r t ↦ ∀ c', r = .ok (some c') → Held t) s
  stage : ∀ request stage n s, Held s →
    (executeStage input request .plan stage n).Safe V R G (fun _ _ ↦ True) s
  failure : ∀ request c stage output err n,
    (Engine.handleStageFailure input request c stage output err n).Within V R G (fun _ _ ↦ True)
  recovery : ∀ request c n,
    (e.runPersistedRecovery input request c n).Within V R G (fun _ _ ↦ True)

section Parts

variable [IsTrans ω R] [Std.Refl R] {e : Engine} {input : RunInput} {Held : ω → Prop}

/-- The plan loop. -/
theorem RunParts.runStages (h : RunParts e input V R G Held) (request : OperationRequestFile)
    (stages : List OperationStage) (c : OperationCheckpoint) (n : ℕ) :
    (e.runStages input request stages c n).Within V R G (fun _ _ ↦ True) := by
  induction stages generalizing c n with
  | nil => exact h.result c _ _ _ (.inl rfl)
  | cons stage stages ih =>
    refine fun s ↦ safe_bind ((h.ownership s).imp fun r t ht ↦ ?_)
    cases r with
    | error err => exact fun _ _ ↦ trivial
    | ok u =>
      refine safe_bind ((h.cancellation request c n t (ht rfl)).imp fun r t ht ↦ ?_)
      cases r with
      | error err => exact fun _ _ ↦ trivial
      | ok next =>
        cases next with
        | none => exact fun _ _ ↦ trivial
        | some c' =>
          refine safe_bind ((h.stage request stage n t (ht c' rfl)).imp fun r t _ ↦ ?_)
          cases r with
          | error err => exact fun _ _ ↦ trivial
          | ok outcome =>
            dsimp only
            split
            · exact h.failure _ _ _ _ _ _ t
            · exact ((within_clock h.tolerates).bind h.tolerates fun now ↦
                (h.checkpoint _).bind h.tolerates fun _ ↦ ih _ _) t

theorem RunParts.proceed (h : RunParts e input V R G Held) (request : OperationRequestFile)
    (stages : List OperationStage) (c : OperationCheckpoint) (n : ℕ) (recoveryGeneration : Bool) :
    (e.proceed input request stages c n recoveryGeneration).Within V R G (fun _ _ ↦ True) := by
  cases recoveryGeneration with
  | true =>
    refine (within_readJournal h.tolerates _).observe.bind h.tolerates fun r ↦ ?_
    cases r with
    | ok cancel => exact h.recovery _ _ _
    | error err =>
      dsimp only
      split
      · exact h.recovery _ _ _
      · exact within_fail h.tolerates err
  | false =>
    exact (within_ofExcept h.tolerates _).bind h.tolerates fun i ↦ h.runStages _ _ _ _

theorem RunParts.goOn (h : RunParts e input V R G Held) (request : OperationRequestFile)
    (stages : List OperationStage) (c : OperationCheckpoint) (recoveryGeneration : Bool) :
    (e.goOn input request stages c recoveryGeneration).Within V R G (fun _ _ ↦ True) := by
  refine ((within_readJournal h.tolerates _).bind h.tolerates fun events ↦
    within_pure h.tolerates _).bind h.tolerates fun state ↦ ?_
  obtain ⟨n, latest⟩ := state
  cases latest with
  | none => exact h.proceed _ _ _ _ _
  | some event =>
    refine (within_clock h.tolerates).bind h.tolerates fun now ↦
      (within_ofExcept h.tolerates _).bind h.tolerates fun applied ↦ ?_
    dsimp only
    split
    · exact (h.checkpoint _).bind h.tolerates fun _ ↦ h.result _ _ _ _ (.inr rfl)
    · exact h.proceed _ _ _ _ _

theorem RunParts.loadOrCreateCheckpoint (h : RunParts e input V R G Held)
    (request : OperationRequestFile) :
    (e.loadOrCreateCheckpoint input request).Within V R G (fun _ _ ↦ True) := by
  refine (within_readJournal h.tolerates _).observe.bind h.tolerates fun r ↦ ?_
  cases r with
  | ok c =>
    refine (within_ofExcept h.tolerates _).bind h.tolerates fun _ ↦ ?_
    split
    · exact within_fail h.tolerates _
    · split
      · split
        · exact within_fail h.tolerates _
        · exact within_pure h.tolerates c
      · exact (within_clock h.tolerates).bind h.tolerates fun now ↦
          (within_ofExcept h.tolerates _).bind h.tolerates fun renewed ↦
            (h.checkpoint renewed).bind h.tolerates fun _ ↦ within_pure h.tolerates renewed
  | error err =>
    dsimp only
    split
    · exact within_fail h.tolerates err
    · exact (within_clock h.tolerates).bind h.tolerates fun now ↦
        (h.checkpoint _).bind h.tolerates fun _ ↦ within_pure h.tolerates _

theorem RunParts.takeUp (h : RunParts e input V R G Held) (recoveryGeneration : Bool) :
    (e.takeUp input recoveryGeneration).Within V R G (fun _ _ ↦ True) := by
  refine (within_readJournal h.tolerates _).bind h.tolerates fun request ↦ ?_
  split
  · exact within_fail h.tolerates _
  · exact (within_ofExcept h.tolerates _).bind h.tolerates fun stages ↦
      (h.loadOrCreateCheckpoint request).bind h.tolerates fun c ↦ h.goOn _ _ _ _

/-- **Every step of a run**, whatever the world it starts in. -/
theorem RunParts.run (h : RunParts e input V R G Held) :
    (e.run input).Within V R G (fun _ _ ↦ True) := by
  refine (within_ofExcept h.tolerates _).bind h.tolerates fun _ ↦
    Within.bind h.tolerates (fun s ↦ (h.ownership s).imp fun _ _ _ ↦ trivial) fun _ ↦
      (within_readJournal h.tolerates _).observe.bind h.tolerates fun r ↦ ?_
  cases r with
  | ok result =>
    dsimp only
    split
    · exact within_pure h.tolerates _
    · split
      · exact within_fail h.tolerates _
      · split
        · exact within_pure h.tolerates _
        · exact h.takeUp true
  | error err =>
    dsimp only
    split
    · exact h.takeUp false
    · exact within_fail h.tolerates err

end Parts
end HMaigc.Ops
