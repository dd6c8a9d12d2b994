import HMaigc.Ops.Projection
import HMaigc.Proc.Machine

/-!
# A row that follows the journal

Runners and the controller write to the journal while the controller projects it, over and over.

* `Outcome.again` — projecting again changes nothing; `Outcome.withoutStale` — nor does taking away
  the files of lower generations.
* `Projection.State`, `Projection.step` — the journal and the database, with writes and projections
  in any order.
* `Projection.Kept` — what is promised of a projection, and `Projection.projections_kept`: that a
  terminal row stays as it is takes that nothing is written any more that counts for it.
-/

set_option autoImplicit false

namespace HMaigc.Ops

open Go Machine

/-! ## Projecting again -/

theorem validateCancelCommand_kind {command : CancelOperationCommand} {now : Time} {err : OpsError}
    (h : validateCancelCommand command now = .error err) : err.kind ≠ .notExist := by
  rw [validateCancelCommand] at h
  split_ifs at h <;> cases h <;> decide

/-- The clock decides whether a command to stop is read, not what is read. -/
theorem cancel_of_ifExists {j : Journal} {secret operationID : String} {now : Time}
    {cancel : Option CancelOperationCommand}
    (h : ifExists (j.readCancelCommand secret operationID now) = .ok cancel) :
    cancel =
      (readSigned secret operationID (j.dir operationID).cancel (·.operationID)).toOption := by
  rw [Journal.readCancelCommand] at h
  cases hsigned : readSigned secret operationID (j.dir operationID).cancel (·.operationID) with
  | error err =>
    rw [hsigned] at h
    change (if err.kind = .notExist then _ else _) = _ at h
    split at h
    · exact (Except.ok.inj h).symm
    · cases h
  | ok command =>
    rw [hsigned] at h
    cases hvalid : validateCancelCommand command now with
    | error err =>
      simp only [bind, Except.bind, hvalid, ifExists, validateCancelCommand_kind hvalid] at h
      cases h
    | ok _ =>
      simp only [bind, Except.bind, hvalid, ifExists] at h
      exact (Except.ok.inj h).symm

theorem cancel_of_runnerFacts {j : Journal} {secret operationID : String} {now : Time}
    {facts : RunnerFacts} (h : j.runnerFacts secret operationID now = .ok facts) :
    ifExists (j.readCancelCommand secret operationID now) = .ok facts.cancel := by
  simp only [Journal.runnerFacts] at h
  obtain ⟨lease, -, h⟩ := bind_eq_ok.mp h
  obtain ⟨heartbeat, -, h⟩ := bind_eq_ok.mp h
  obtain ⟨checkpoint, -, h⟩ := bind_eq_ok.mp h
  obtain ⟨result, -, h⟩ := bind_eq_ok.mp h
  obtain ⟨cancel, hcancel, h⟩ := bind_eq_ok.mp h
  cases h
  exact hcancel

theorem runnerFacts_unique {j : Journal} {secret operationID : String} {now now' : Time}
    {facts facts' : RunnerFacts} (h : j.runnerFacts secret operationID now = .ok facts)
    (h' : j.runnerFacts secret operationID now' = .ok facts') : facts = facts' := by
  rw [files_of_runnerFacts h, files_of_runnerFacts h',
    cancel_of_ifExists (cancel_of_runnerFacts h), cancel_of_ifExists (cancel_of_runnerFacts h')]

namespace Outcome

variable {secret operationID : String} {now : Time} {j : Journal} {db : Database}

theorem request_eq (o : Outcome secret now operationID j db) :
    o.request.operationID = operationID := (request_of_readRequest o.read).2.2

theorem lookup_db (o : Outcome secret now operationID j db) :
    o.db.operations.lookup operationID = some o.row :=
  AList.lookup_insert _

theorem lookup_db_of_ne (o : Outcome secret now operationID j db) {id : String}
    (hid : id ≠ operationID) {row : Operation} (hrow : db.operations.lookup id = some row) :
    o.db.operations.lookup id = some row :=
  (AList.lookup_insert_ne hid).trans (lookup_importRequest hrow)

/-- A row that was there is the one that was read. -/
theorem current_eq (o : Outcome secret now operationID j db) {row : Operation}
    (h : db.operations.lookup operationID = some row) : o.current = row := by
  have hfound : (importRequest o.request db.operations).2.lookup operationID = some row :=
    lookup_importRequest h
  rw [o.found] at hfound
  exact Option.some.inj hfound

theorem appendAll_db (o : Outcome secret now operationID j db) :
    (j.eventsUpTo operationID o.row.runnerGeneration).foldl appendProjectedEvent o.db = o.db := by
  refine appendAll_eq_self fun event hmem ↦ ?_
  exact mem_projected_appendAll hmem db

/-- **Projecting the same journal again changes nothing**, whatever the time. -/
theorem again (o : Outcome secret now operationID j db) (now' : Time) :
    (project secret now' operationID j o.db).2 = o.db := by
  have himport : (importRequest o.request o.db.operations).2 = o.db.operations := by
    have hlookup : o.db.operations.lookup o.request.operationID = some o.row := by
      rw [o.request_eq, o.lookup_db]
    exact importRequest_of_lookup hlookup
  rcases project_cases secret now' operationID j o.db with
    ⟨err, h⟩ | ⟨err, request, hread, h⟩ | ⟨o', h⟩
  · rw [h]
  · rw [o.read] at hread
    rw [h, ← Except.ok.inj hread, himport]
  · have hrequest : o'.request = o.request := Except.ok.inj (o'.read.symm.trans o.read)
    have hfacts : o'.facts = o.facts := runnerFacts_unique o'.facts_read o.facts_read
    have hrow : o'.row = o.row := by
      rw [row, o'.current_eq o.lookup_db, hrequest, hfacts]
      exact RunnerFacts.project_project _ _ _
    rw [h, Outcome.db, hrow, o.appendAll_db, hrequest, himport]
    simp only [Outcome.db, AList.insert_insert]

end Outcome

/-! ## Files that do not count -/

/-- The journal without an operation's files of the generations below one. -/
def Journal.withoutStale (j : Journal) (operationID : String) (generation : ℕ) : Journal :=
  j.modify operationID fun dir ↦ { dir with
    lease := dir.lease.filter (generation ≤ ·.generation)
    heartbeat := dir.heartbeat.filter (generation ≤ ·.generation)
    checkpoint := dir.checkpoint.filter (generation ≤ ·.generation)
    result := dir.result.filter (generation ≤ ·.generation) }

/-- A file taken away is one that is not there. -/
theorem ifExists_filter {α : Type} {operationID : String} {file found : Option α}
    {owner : α → String} (h : ifExists (readFact operationID file owner) = .ok found)
    (p : α → Bool) :
    ifExists (readFact operationID (file.filter p) owner) = .ok (found.filter p) := by
  have hfile := file_of_ifExists h
  subst hfile
  have hid : validOperationID operationID = true := by
    by_contra hid
    rw [readFact.eq_def, if_neg hid] at h
    cases h
  cases found with
  | none => exact h
  | some fact =>
    cases hp : p fact with
    | true => rwa [Option.filter_some_pos hp]
    | false =>
      rw [Option.filter_some_neg (by simp [hp]), readFact, if_pos hid]
      rfl

theorem runnerFacts_withoutStale {j : Journal} {secret operationID : String} {now : Time}
    {facts : RunnerFacts} (h : j.runnerFacts secret operationID now = .ok facts) (generation : ℕ) :
    (j.withoutStale operationID generation).runnerFacts secret operationID now =
      .ok (facts.only (generation ≤ ·)) := by
  simp only [Journal.runnerFacts] at h
  obtain ⟨lease, hlease, h⟩ := bind_eq_ok.mp h
  obtain ⟨heartbeat, hheartbeat, h⟩ := bind_eq_ok.mp h
  obtain ⟨checkpoint, hcheckpoint, h⟩ := bind_eq_ok.mp h
  obtain ⟨result, hresult, h⟩ := bind_eq_ok.mp h
  obtain ⟨cancel, hcancel, h⟩ := bind_eq_ok.mp h
  cases h
  rw [Journal.runnerFacts, Journal.readLease, Journal.readHeartbeat, Journal.readCheckpoint,
    Journal.readResult, Journal.readCancelCommand, Journal.withoutStale, Journal.dir_modify]
  dsimp only
  rw [Journal.readCancelCommand] at hcancel
  rw [ifExists_filter hlease, ifExists_filter hheartbeat, ifExists_filter hcheckpoint,
    ifExists_filter hresult, hcancel]
  rfl

theorem eventsUpTo_withoutStale (j : Journal) (operationID : String) (generation bound : ℕ) :
    (j.withoutStale operationID generation).eventsUpTo operationID bound =
      j.eventsUpTo operationID bound := by
  have hevents : ((j.withoutStale operationID generation).dir operationID).events =
      (j.dir operationID).events := by
    rw [Journal.withoutStale, Journal.dir_modify]
  unfold Journal.eventsUpTo Journal.eventsOf
  rw [hevents]

theorem readRequest_withoutStale (j : Journal) (operationID : String) (generation : ℕ) :
    (j.withoutStale operationID generation).readRequest operationID =
      j.readRequest operationID := by
  rw [Journal.readRequest, Journal.readRequest, Journal.withoutStale, Journal.dir_modify]

/-- **Files of a generation below the row's make no difference.** -/
theorem Outcome.withoutStale {secret operationID : String} {now : Time} {j : Journal}
    {db : Database} (o : Outcome secret now operationID j db) :
    (project secret now operationID
      (j.withoutStale operationID o.current.runnerGeneration) db).2 = o.db := by
  let stale : Outcome secret now operationID
      (j.withoutStale operationID o.current.runnerGeneration) db :=
    { o with
      facts := o.facts.only (o.current.runnerGeneration ≤ ·)
      read := (readRequest_withoutStale j operationID _).trans o.read
      facts_read := runnerFacts_withoutStale o.facts_read _ }
  have hrow : stale.row = o.row := RunnerFacts.project_only o.request o.facts o.current
  have hdb : stale.db = o.db := by
    rw [Outcome.db, Outcome.db, hrow, eventsUpTo_withoutStale]
  rw [stale.project_eq, hdb]

/-! ## The events on file -/

section Events

variable {j : Journal}

/-- A write that leaves the events as they are. -/
def SameEvents (j : Journal) (w : Written) : Prop :=
  ∀ operationID, (w.2.dir operationID).events = (j.dir operationID).events

theorem sameEvents_reject (err : OpsError) : SameEvents j (j.reject err) := fun _ ↦ rfl

theorem sameEvents_keep : SameEvents j j.keep := fun _ ↦ rfl

theorem sameEvents_publish {operationID : String} {f : OperationDir → OperationDir}
    (hf : ∀ dir, (f dir).events = dir.events) : SameEvents j (j.publish operationID f) := by
  intro other
  rw [Journal.publish]
  split
  · by_cases hid : other = operationID
    · rw [hid, Journal.dir_modify, hf]
    · rw [Journal.dir_modify_of_ne j hid]
  · rfl

theorem sameEvents_createImmutable {α : Type} [DecidableEq α] {operationID : String}
    {existing : Option α} {fact : α} {f : OperationDir → OperationDir}
    (hf : ∀ dir, (f dir).events = dir.events) :
    SameEvents j (j.createImmutable operationID existing fact f) := by
  rw [Journal.createImmutable.eq_def]
  split
  · exact sameEvents_publish hf
  · split
    · exact sameEvents_keep
    · exact sameEvents_reject _

/-- Only an event is written among the events. -/
theorem sameEvents_perform {write : JournalWrite} (h : ∀ event, write ≠ .event event) :
    SameEvents j (write.perform j) := by
  cases write with
  | event fact => exact absurd rfl (h fact)
  | request fact =>
    rw [JournalWrite.perform, createRequest]
    split
    · exact sameEvents_reject _
    · exact sameEvents_createImmutable fun _ ↦ rfl
  | heartbeat operationID fact =>
    rw [JournalWrite.perform, writeHeartbeat]
    split
    · exact sameEvents_reject _
    · exact sameEvents_publish fun _ ↦ rfl
  | cancel secret now command =>
    rw [JournalWrite.perform, writeCancelCommand]
    split
    · exact sameEvents_reject _
    · split
      · exact sameEvents_reject _
      · exact sameEvents_createImmutable fun _ ↦ rfl
  | recover secret now command =>
    rw [JournalWrite.perform, writeRecoverCommand]
    split
    · exact sameEvents_reject _
    · split
      · exact sameEvents_reject _
      · exact sameEvents_createImmutable fun _ ↦ rfl
  | launch secret now command =>
    rw [JournalWrite.perform, writeLaunchCommand]
    repeat' split
    all_goals first
      | exact sameEvents_reject _
      | exact sameEvents_keep
      | exact sameEvents_publish fun _ ↦ rfl
  | lease operationID fact =>
    rw [JournalWrite.perform, writeLease]
    repeat' split
    all_goals first
      | exact sameEvents_reject _
      | exact sameEvents_publish fun _ ↦ rfl
  | checkpoint operationID fact =>
    rw [JournalWrite.perform, writeCheckpoint]
    repeat' split
    all_goals first
      | exact sameEvents_reject _
      | exact sameEvents_keep
      | exact sameEvents_publish fun _ ↦ rfl
  | result operationID fact =>
    rw [JournalWrite.perform, writeResult]
    repeat' split
    all_goals first
      | exact sameEvents_reject _
      | exact sameEvents_keep
      | exact sameEvents_publish fun _ ↦ rfl

/-- The events of every directory are its operation's, numbered from one, and no two have the same
numbers. -/
def EventsOnFile (j : Journal) : Prop :=
  ∀ operationID, ((j.dir operationID).events.map OperationEvent.key).Nodup ∧
    ∀ event ∈ (j.dir operationID).events,
      event.operationID = operationID ∧ 0 < event.generation ∧ 0 < event.sequence

theorem EventsOnFile.appendEvent (h : EventsOnFile j) (event : OperationEvent) :
    EventsOnFile (appendEvent event j).2 := by
  unfold HMaigc.Ops.appendEvent
  split
  · exact h
  · rename_i hpositive
    split
    · exact h
    · rename_i hnew
      rw [Journal.publish]
      split
      · intro operationID
        by_cases hid : operationID = event.operationID
        · subst hid
          rw [Journal.dir_modify]
          refine ⟨?_, fun e he ↦ ?_⟩
          · rw [List.map_append, List.nodup_append]
            refine ⟨(h _).1, List.nodup_singleton _, fun a ha b hb ↦ ?_⟩
            obtain ⟨e, he, rfl⟩ := List.mem_map.mp ha
            rw [List.mem_singleton.mp hb]
            intro heq
            refine hnew (List.any_eq_true.mpr ⟨e, he, ?_⟩)
            simp only [OperationEvent.key, Prod.mk.injEq] at heq
            simp [heq.2.1, heq.2.2]
          · rcases List.mem_append.mp he with he | he
            · exact (h _).2 e he
            · rw [List.mem_singleton.mp he]
              exact ⟨rfl, by omega, by omega⟩
        · rw [Journal.dir_modify_of_ne j hid]
          exact h operationID
      · exact h

theorem EventsOnFile.perform (h : EventsOnFile j) (write : JournalWrite) :
    EventsOnFile (write.perform j).2 := by
  by_cases hevent : ∃ event, write = .event event
  · obtain ⟨event, rfl⟩ := hevent
    exact h.appendEvent event
  · intro operationID
    rw [sameEvents_perform (not_exists.mp hevent) operationID]
    exact h operationID

end Events

namespace Projection

/-! ## The journal and the database -/

structure State where
  journal : Journal
  db : Database

/-- Rows of operations the journal has nothing about yet, and no events. -/
def State.start (operations : Store) : State := ⟨default, { operations }⟩

inductive Action where
  | write (write : JournalWrite)
  | project (now : Time) (operationID : String)

/-- A write, accepted or refused, or a projection, with whatever result. -/
def step (secret : String) (s : State) : Action → Option State
  | .write write => some { s with journal := (write.perform s.journal).2 }
  | .project now operationID =>
    some { s with db := (project secret now operationID s.journal s.db).2 }

/-- What of an operation's files counts for its row. -/
def counting (row : Operation) (j : Journal) (operationID : String) : RunnerFacts :=
  ((j.dir operationID).files.only (row.runnerGeneration ≤ ·)).shown

/-- Nothing is written that counts for a terminal row. -/
def fits (s : State) : Action → Bool
  | .project _ _ => true
  | .write write => s.db.operations.entries.all fun entry ↦
    !isTerminalStatus entry.2.status ||
      counting entry.2 (write.perform s.journal).2 entry.1 == counting entry.2 s.journal entry.1

abbrev Fits (s : State) (a : Action) : Prop := fits s a = true

theorem counting_of_fits {s : State} {write : JournalWrite} (h : Fits s (.write write))
    {operationID : String} {row : Operation}
    (hrow : s.db.operations.lookup operationID = some row)
    (hterminal : isTerminalStatus row.status = true) :
    counting row (write.perform s.journal).2 operationID = counting row s.journal operationID := by
  have hentry : (⟨operationID, row⟩ : Sigma fun _ : String ↦ Operation) ∈ s.db.operations.entries :=
    AList.mem_lookup_iff.mp hrow
  have hcheck := List.all_eq_true.mp h _ hentry
  rw [hterminal] at hcheck
  exact eq_of_beq hcheck

/-- The files make of a row what those that count make of it. -/
theorem run_counting (request : OperationRequestFile) (row : Operation) (j : Journal)
    (operationID : String) :
    Overlay.run ((counting row j operationID).layers request) row =
      Overlay.run ((j.dir operationID).files.layers request) row := by
  rw [counting, RunnerFacts.layers_shown, RunnerFacts.layers_only]
  exact Overlay.run_filter _ (Nat.le_refl _)

/-! ## The invariant -/

/-- The files leave the row as it is. -/
def Settled (j : Journal) (operationID : String) (row : Operation) : Prop :=
  (∃ request, (j.dir operationID).request = some request ∧
    Overlay.run ((j.dir operationID).files.layers request) row = row) ∨
  counting row j operationID = {}

structure Sound (s : State) : Prop where
  onFile : EventsOnFile s.journal
  logs : ∃ appended, s.db.Logs appended ∧
    ∀ event ∈ appended, event ∈ (s.journal.dir event.operationID).events
  settled : ∀ operationID row, s.db.operations.lookup operationID = some row →
    isTerminalStatus row.status = true → Settled s.journal operationID row

theorem Settled.run_eq {j : Journal} {operationID : String} {row : Operation}
    (h : Settled j operationID row) {request : OperationRequestFile}
    (hrequest : (j.dir operationID).request = some request) :
    Overlay.run ((j.dir operationID).files.layers request) row = row := by
  rcases h with ⟨request', hrequest', hrun⟩ | hnone
  · rw [hrequest] at hrequest'
    rwa [Option.some.inj hrequest']
  · rw [← run_counting, hnone]
    rfl

theorem Sound.start (operations : Store) : Sound (.start operations) where
  onFile _ := ⟨List.nodup_nil, nofun⟩
  logs := ⟨[], ⟨rfl, rfl, List.nodup_nil⟩, nofun⟩
  settled _ _ _ _ := .inr rfl

/-! ## One step -/

variable {secret : String} {s s' : State}

theorem Sound.write (h : Sound s) {write : JournalWrite} (hfits : Fits s (.write write)) :
    Sound { s with journal := (write.perform s.journal).2 } where
  onFile := h.onFile.perform write
  logs := by
    obtain ⟨appended, hlogs, hmem⟩ := h.logs
    refine ⟨appended, hlogs, fun event he ↦ ?_⟩
    exact ((s.journal.sound_perform write).advances _).events event (hmem event he)
  settled operationID row hrow hterminal := by
    have hcounting := counting_of_fits hfits hrow hterminal
    rcases h.settled operationID row hrow hterminal with ⟨request, hrequest, hrun⟩ | hnone
    · obtain ⟨_, hstays, rfl⟩ :=
        ((s.journal.sound_perform write).advances operationID).request request hrequest
      refine .inl ⟨request, hstays, ?_⟩
      rw [← run_counting, hcounting, run_counting, hrun]
    · exact .inr (hcounting.trans hnone)

/-- The row a projection leaves is settled. -/
theorem settled_row {now : Time} {operationID : String} {j : Journal} {db : Database}
    (o : Outcome secret now operationID j db) (hterminal : isTerminalStatus o.row.status = true) :
    Settled j operationID o.row := by
  refine .inl ⟨o.request, (request_of_readRequest o.read).2.1, ?_⟩
  rw [← layers_runnerFacts o.facts_read]
  refine RunnerFacts.run_eq_of_terminal o.request o.facts o.row ?_ hterminal
  exact RunnerFacts.project_project o.request o.facts o.current

/-- The events a projection appends are on file. -/
theorem Sound.logs_db (h : Sound s) {now : Time} {operationID : String}
    (o : Outcome secret now operationID s.journal s.db) :
    ∃ appended, o.db.Logs appended ∧
      ∀ event ∈ appended, event ∈ (s.journal.dir event.operationID).events := by
  obtain ⟨appended, hlogs, hmem⟩ := h.logs
  let events := s.journal.eventsUpTo operationID o.row.runnerGeneration
  obtain ⟨more, hmore, hnew⟩ : ∃ more,
      (events.foldl appendProjectedEvent s.db).Logs (appended ++ more) ∧
        ∀ event ∈ more, event ∈ events := hlogs.appendAll
  refine ⟨appended ++ more, hmore, fun event he ↦ ?_⟩
  rcases List.mem_append.mp he with he | he
  · exact hmem event he
  · have hfile := (mem_eventsUpTo.mp (hnew event he)).1
    rwa [((h.onFile operationID).2 event hfile).1]

theorem Sound.projecting (h : Sound s) (now : Time) (operationID : String) :
    Sound { s with db := (project secret now operationID s.journal s.db).2 } := by
  rcases project_cases secret now operationID s.journal s.db with
    ⟨err, heq⟩ | ⟨err, request, hread, heq⟩ | ⟨o, heq⟩
  · rw [heq]
    exact h
  · rw [heq]
    exact ⟨h.onFile, h.logs, fun id row hrow hterminal ↦
      h.settled id row (importRequest_terminal hrow hterminal) hterminal⟩
  · rw [heq]
    refine ⟨h.onFile, h.logs_db o, fun id row hrow hterminal ↦ ?_⟩
    by_cases hid : id = operationID
    · subst hid
      have hsame : o.row = row := Option.some.inj (o.lookup_db.symm.trans hrow)
      rw [← hsame] at hterminal ⊢
      exact settled_row o hterminal
    · have hold : (importRequest o.request s.db.operations).2.lookup id = some row :=
        (AList.lookup_insert_ne hid).symm.trans hrow
      exact h.settled id row (importRequest_terminal hold hterminal) hterminal

theorem Sound.step (h : Sound s) {a : Action} (hfits : Fits s a)
    (hstep : step secret s a = some s') : Sound s' := by
  cases a with
  | write write =>
    cases hstep
    exact h.write hfits
  | project now operationID =>
    cases hstep
    exact h.projecting now operationID

/-! ## What is promised -/

/-- The promises of a projection.  Projecting the same journal again changes nothing; files of
generations below the row's make no difference; the generation of a row never falls; a terminal row
stays as it is; and the log grows by events on file, each once, until it has all up to the row's
generation. -/
structure Kept (secret : String) (now : Time) (operationID : String) (j : Journal)
    (db db' : Database) : Prop where
  again : (project secret now operationID j db).1 = .ok () →
    ∀ now', (project secret now' operationID j db').2 = db'
  stale : ∀ row, db.operations.lookup operationID = some row →
    (project secret now operationID j db).1 = .ok () →
    (project secret now operationID (j.withoutStale operationID row.runnerGeneration) db).2 = db'
  generation : ∀ id row, db.operations.lookup id = some row →
    ∃ row', db'.operations.lookup id = some row' ∧ row.runnerGeneration ≤ row'.runnerGeneration
  terminal : ∀ id row, db.operations.lookup id = some row → isTerminalStatus row.status = true →
    db'.operations.lookup id = some row
  events : ∃ appended, db'.Logs appended ∧
    (∀ event ∈ appended, event ∈ (j.dir event.operationID).events) ∧
    ((project secret now operationID j db).1 = .ok () → ∀ row,
      db'.operations.lookup operationID = some row → ∀ event ∈ (j.dir operationID).events,
        event.generation ≤ row.runnerGeneration → event ∈ appended)

/-- A projection that fails keeps every row there is. -/
theorem Sound.kept_of_error (h : Sound s) {now : Time} {operationID : String} {err : OpsError}
    {operations : Store} (heq : project secret now operationID s.journal s.db =
      (.error err, { s.db with operations }))
    (hrows : ∀ id row, s.db.operations.lookup id = some row → operations.lookup id = some row) :
    Kept secret now operationID s.journal s.db { s.db with operations } where
  again hok := by rw [heq] at hok; cases hok
  stale _ _ hok := by rw [heq] at hok; cases hok
  generation id row hrow := ⟨row, hrows id row hrow, Nat.le_refl _⟩
  terminal id row hrow _ := hrows id row hrow
  events := by
    obtain ⟨appended, hlogs, hmem⟩ := h.logs
    exact ⟨appended, hlogs, hmem, fun hok ↦ by rw [heq] at hok; cases hok⟩

/-- A terminal row is made into itself. -/
theorem Sound.row_eq (h : Sound s) {now : Time} {operationID : String}
    (o : Outcome secret now operationID s.journal s.db) {row : Operation}
    (hrow : s.db.operations.lookup operationID = some row)
    (hterminal : isTerminalStatus row.status = true) : o.row = row := by
  have hsettled := (h.settled operationID row hrow hterminal).run_eq (request_of_readRequest o.read).2.1
  rw [Outcome.row, o.current_eq hrow]
  refine RunnerFacts.project_eq_self_of_run _ _ _ ?_ hterminal
  rw [layers_runnerFacts o.facts_read, hsettled]

theorem Sound.kept_of_outcome (h : Sound s) {now : Time} {operationID : String}
    (o : Outcome secret now operationID s.journal s.db) :
    Kept secret now operationID s.journal s.db o.db where
  again _ := o.again
  stale row hrow _ := by rw [← o.current_eq hrow]; exact o.withoutStale
  generation id row hrow := by
    by_cases hid : id = operationID
    · subst hid
      refine ⟨o.row, o.lookup_db, ?_⟩
      rw [← o.current_eq hrow]
      exact RunnerFacts.generation_le_project _ _ _
    · exact ⟨row, o.lookup_db_of_ne hid hrow, Nat.le_refl _⟩
  terminal id row hrow hterminal := by
    by_cases hid : id = operationID
    · subst hid
      rw [o.lookup_db, h.row_eq o hrow hterminal]
    · exact o.lookup_db_of_ne hid hrow
  events := by
    obtain ⟨appended, hlogs, hmem⟩ := h.logs_db o
    refine ⟨appended, hlogs, hmem, fun _ row hrow event hevent hle ↦ ?_⟩
    have hsame : o.row = row := Option.some.inj (o.lookup_db.symm.trans hrow)
    obtain ⟨hid, hgeneration, hsequence⟩ := (h.onFile operationID).2 event hevent
    have hcovered : event ∈ s.journal.eventsUpTo operationID o.row.runnerGeneration :=
      mem_eventsUpTo.mpr ⟨hevent, hgeneration, hsame ▸ hle, hsequence⟩
    have hmark : event.key ∈ o.db.projected := mem_projected_appendAll hcovered s.db
    rw [hlogs.1] at hmark
    obtain ⟨other, hother, hkey⟩ := List.mem_map.mp hmark
    -- The event under this mark is on file, where no two events have the same numbers.
    have hfile := hmem other hother
    have hid' : other.operationID = operationID := (Prod.mk.inj hkey).1.trans hid
    rw [hid'] at hfile
    rwa [← List.inj_on_of_nodup_map (h.onFile operationID).1 hfile hevent hkey]

/-- **A projection keeps its promises**, in every run in which nothing is written that counts for a
terminal row. -/
theorem projections_kept {operations : Store} {now : Time} {operationID : String}
    (hrun : Run (step secret) Fits (.start operations) s)
    (hstep : step secret s (.project now operationID) = some s') :
    Kept secret now operationID s.journal s.db s'.db := by
  have hsound : Sound s := hrun.invariant (.start operations) fun _ _ _ h hfits ↦ h.step hfits
  cases hstep
  rcases project_cases secret now operationID s.journal s.db with
    ⟨err, heq⟩ | ⟨err, request, hread, heq⟩ | ⟨o, heq⟩
  · have hkept : Kept secret now operationID s.journal s.db s.db :=
      hsound.kept_of_error heq fun _ _ hrow ↦ hrow
    simpa only [heq] using hkept
  · have hkept := hsound.kept_of_error heq fun _ _ hrow ↦ lookup_importRequest hrow
    simpa only [heq] using hkept
  · simpa only [heq] using hsound.kept_of_outcome o

/-! ## A terminal operation that runs again -/

def sampleSecret : String := "0123456789abcdef0123456789abcdef"

/-- A backup of the release `v1.2.3`. -/
def sampleRequest : OperationRequestFile where
  operationID := "op"
  request := { action := .backup, idempotencyKey := "k" }
  requestHash := sampleSecret ++ sampleSecret
  currentVersion := "v1.2.3"
  expectedVersion := "v1.2.3"
  runnerSource := .current
  createdAt := 1

def sampleResult : OperationResult where
  operationID := "op"
  generation := 1
  status := .succeeded
  serviceState := .currentOnline
  completedAt := 2

/-- The heartbeat of a runner nobody waits for. -/
def sampleHeartbeat : RunnerHeartbeat where
  operationID := "op"
  generation := 2
  sequence := 1
  stage := .backingUp
  serviceState := .currentOnline
  observedAt := 3

/-- The backup has succeeded, and the controller knows. -/
def succeeded : List Action :=
  [.write (.request sampleRequest), .write (.result "op" sampleResult), .project 2 "op"]

/-- A heartbeat of a later generation follows. -/
def lateHeartbeat : State :=
  (play (step sampleSecret) (fun _ _ ↦ True) (.start ∅)
    (succeeded ++ [.write (.heartbeat "op" sampleHeartbeat)])).getD (.start ∅)

theorem lateHeartbeat_run :
    Run (step sampleSecret) (fun _ _ ↦ True) (.start ∅) lateHeartbeat :=
  run_of_play .nil (succeeded ++ [.write (.heartbeat "op" sampleHeartbeat)]) rfl

theorem lateHeartbeat_status :
    (lateHeartbeat.db.operations.lookup "op").map (·.status) = some .succeeded := rfl

theorem lateHeartbeat_projected :
    ((project sampleSecret 3 "op" lateHeartbeat.journal lateHeartbeat.db).2.operations.lookup
      "op").map (·.status) = some .running := rfl

/-- **A terminal operation does not stay terminal**: the next heartbeat sets it running. -/
theorem projections_not_kept : ¬∀ (s s' : State) (now : Time) (operationID : String),
    Run (step sampleSecret) (fun _ _ ↦ True) (.start ∅) s →
      step sampleSecret s (.project now operationID) = some s' →
      Kept sampleSecret now operationID s.journal s.db s'.db := by
  intro h
  have hkept := h lateHeartbeat _ 3 "op" lateHeartbeat_run rfl
  obtain ⟨row, hrow, hstatus⟩ := Option.map_eq_some_iff.mp lateHeartbeat_status
  have hsame := hkept.terminal "op" row hrow (by rw [hstatus]; rfl)
  have hrunning := lateHeartbeat_projected
  rw [hsame, Option.map_some, hstatus] at hrunning
  cases hrunning

/-- The backup that has succeeded, before the heartbeat. -/
def backedUp : State :=
  (play (step sampleSecret) Fits (.start ∅) succeeded).getD (.start ∅)

theorem backedUp_run : Run (step sampleSecret) Fits (.start ∅) backedUp :=
  run_of_play .nil succeeded rfl

/-- Projected again, it keeps its row. -/
theorem backedUp_kept :
    (backedUp.db.operations.lookup "op").map (·.status) = some .succeeded ∧
      Kept sampleSecret 3 "op" backedUp.journal backedUp.db
        (project sampleSecret 3 "op" backedUp.journal backedUp.db).2 :=
  ⟨rfl, projections_kept backedUp_run rfl⟩

end Projection

end HMaigc.Ops
