import HMaigc.Go.Checks
import HMaigc.Ops.Projector
import HMaigc.Proc.Machine

/-!
# A projection, as a whole

What the controller does between reading the files of an operation and writing its row: the request
is imported, the facts are laid over the row, and the events up to the row's generation go to the
log.

* `files_of_runnerFacts` — what is read is what is there.
* `Database.Logs.appendAll` — each event goes to the log once.
* `Outcome`, `project_cases` — a projection fails early, or does all it has to.
-/

set_option autoImplicit false

namespace HMaigc.Ops

open Go

/-! ## The files of a directory -/

/-- The files of a runner, as they stand. -/
def OperationDir.files (dir : OperationDir) : RunnerFacts where
  lease := dir.lease
  heartbeat := dir.heartbeat
  checkpoint := dir.checkpoint
  result := dir.result

/-- A projection does not show who holds a lease, or until when. -/
def RunnerFacts.shown (facts : RunnerFacts) : RunnerFacts :=
  { facts with lease := facts.lease.map fun lease ↦ { lease with tokenHash := "", expiresAt := 0 } }

theorem RunnerFacts.layers_shown (request : OperationRequestFile) (facts : RunnerFacts) :
    facts.shown.layers request = facts.layers request := by
  rw [layers, layers, shown, Option.map_map]
  rfl

theorem file_of_ifExists {α : Type} {operationID : String} {file : Option α} {owner : α → String}
    {found : Option α} (h : ifExists (readFact operationID file owner) = .ok found) :
    found = file := by
  cases hread : readFact operationID file owner with
  | ok fact =>
    rw [hread, ifExists] at h
    rw [file_of_readFact hread, ← Except.ok.inj h]
  | error err =>
    rw [hread, ifExists] at h
    split at h
    · rw [file_of_readFact_notExist hread ‹_›, ← Except.ok.inj h]
    · cases h

/-- What is read is what is there. -/
theorem files_of_runnerFacts {j : Journal} {secret operationID : String} {now : Time}
    {facts : RunnerFacts} (h : j.runnerFacts secret operationID now = .ok facts) :
    facts = { (j.dir operationID).files with cancel := facts.cancel } := by
  simp only [Journal.runnerFacts] at h
  obtain ⟨lease, hlease, h⟩ := bind_eq_ok.mp h
  obtain ⟨heartbeat, hheartbeat, h⟩ := bind_eq_ok.mp h
  obtain ⟨checkpoint, hcheckpoint, h⟩ := bind_eq_ok.mp h
  obtain ⟨result, hresult, h⟩ := bind_eq_ok.mp h
  obtain ⟨cancel, -, h⟩ := bind_eq_ok.mp h
  cases h
  rw [file_of_ifExists hlease, file_of_ifExists hheartbeat, file_of_ifExists hcheckpoint,
    file_of_ifExists hresult]
  rfl

theorem layers_runnerFacts {j : Journal} {secret operationID : String} {now : Time}
    {facts : RunnerFacts} (h : j.runnerFacts secret operationID now = .ok facts)
    (request : OperationRequestFile) :
    facts.layers request = (j.dir operationID).files.layers request := by
  rw [files_of_runnerFacts h]
  rfl

/-! ## The events -/

/-- The events of a generation, in order. -/
def Journal.eventsOf (j : Journal) (operationID : String) (generation : ℕ) : List OperationEvent :=
  ((j.dir operationID).events.filter fun e ↦
    e.generation = generation ∧ 0 < e.sequence).insertionSort (·.sequence ≤ ·.sequence)

theorem mem_eventsOf {j : Journal} {operationID : String} {generation : ℕ}
    {event : OperationEvent} : event ∈ j.eventsOf operationID generation ↔
      event ∈ (j.dir operationID).events ∧ event.generation = generation ∧ 0 < event.sequence := by
  rw [Journal.eventsOf, List.mem_insertionSort, List.mem_filter, decide_eq_true_eq]

theorem appendEvents_eq {j : Journal} {operationID : String}
    (hid : validOperationID operationID = true) (generations : List ℕ) (db : Database) :
    appendEvents j operationID generations db =
      (.ok (), (generations.flatMap (j.eventsOf operationID)).foldl appendProjectedEvent db) := by
  induction generations generalizing db with
  | nil => rfl
  | cons generation generations ih =>
    rw [appendEvents, Journal.readEvents, if_pos hid, List.flatMap_cons, List.foldl_append]
    exact ih _

@[simp] theorem operations_appendAll (events : List OperationEvent) (db : Database) :
    (events.foldl appendProjectedEvent db).operations = db.operations := by
  induction events generalizing db with
  | nil => rfl
  | cons event events ih =>
    rw [List.foldl_cons, ih, appendProjectedEvent]
    split <;> rfl

/-- Events whose marks are there are not appended again. -/
theorem appendAll_eq_self {events : List OperationEvent} {db : Database}
    (h : ∀ event ∈ events, event.key ∈ db.projected) :
    events.foldl appendProjectedEvent db = db := by
  induction events with
  | nil => rfl
  | cons event events ih =>
    rw [List.foldl_cons, appendProjectedEvent, if_pos (h event List.mem_cons_self)]
    exact ih fun other hother ↦ h other (List.mem_cons_of_mem _ hother)

/-- The two tables of events are those of a list of events, none of them twice. -/
def Database.Logs (db : Database) (appended : List OperationEvent) : Prop :=
  db.projected = appended.map OperationEvent.key ∧ db.logs = appended.map OperationEvent.log ∧
    db.projected.Nodup

theorem Database.Logs.appendProjectedEvent {db : Database} {appended : List OperationEvent}
    (h : db.Logs appended) (event : OperationEvent) :
    ∃ more, (appendProjectedEvent db event).Logs (appended ++ more) ∧ ∀ e ∈ more, e = event := by
  unfold HMaigc.Ops.appendProjectedEvent
  split
  · exact ⟨[], by rwa [List.append_nil], nofun⟩
  · rename_i hmark
    refine ⟨[event], ⟨by simp [h.1], by simp [h.2.1], ?_⟩, fun e he ↦ List.mem_singleton.mp he⟩
    refine List.nodup_append.mpr ⟨h.2.2, List.nodup_singleton _, fun a ha b hb ↦ ?_⟩
    rw [List.mem_singleton.mp hb]
    rintro rfl
    exact hmark ha

/-- **Each event is appended once**: of those given, the ones that had not been. -/
theorem Database.Logs.appendAll {events : List OperationEvent} :
    ∀ {db : Database} {appended : List OperationEvent}, db.Logs appended →
      ∃ more, (events.foldl HMaigc.Ops.appendProjectedEvent db).Logs (appended ++ more) ∧
        ∀ event ∈ more, event ∈ events := by
  induction events with
  | nil => exact fun h ↦ ⟨[], by rwa [List.append_nil], fun _ h ↦ h⟩
  | cons event events ih =>
    intro db appended h
    obtain ⟨first, hfirst, heq⟩ := h.appendProjectedEvent event
    obtain ⟨more, hmore, hmem⟩ := ih hfirst
    refine ⟨first ++ more, by rwa [← List.append_assoc], fun e he ↦ ?_⟩
    rcases List.mem_append.mp he with he | he
    · rw [heq e he]
      exact List.mem_cons_self
    · exact List.mem_cons_of_mem _ (hmem e he)

/-- Marks stay. -/
theorem projected_appendAll {events : List OperationEvent} {key : EventKey} :
    ∀ {db : Database}, key ∈ db.projected →
      key ∈ (events.foldl appendProjectedEvent db).projected := by
  induction events with
  | nil => exact id
  | cons event events ih =>
    intro db h
    refine ih ?_
    rw [appendProjectedEvent]
    split
    · exact h
    · exact List.mem_append_left _ h

/-- Every event that is to be appended is marked in the end. -/
theorem mem_projected_appendAll {event : OperationEvent} {events : List OperationEvent}
    (hmem : event ∈ events) (db : Database) :
    event.key ∈ (events.foldl appendProjectedEvent db).projected := by
  obtain ⟨before, after, rfl⟩ := List.append_of_mem hmem
  rw [List.foldl_append, List.foldl_cons]
  refine projected_appendAll ?_
  rw [appendProjectedEvent]
  split
  · assumption
  · exact List.mem_append_right _ List.mem_cons_self

/-! ## A projection that succeeds -/

/-- The events a row of a generation covers. -/
def Journal.eventsUpTo (j : Journal) (operationID : String) (generation : ℕ) :
    List OperationEvent :=
  (List.range' 1 generation).flatMap (j.eventsOf operationID)

theorem mem_eventsUpTo {j : Journal} {operationID : String} {generation : ℕ}
    {event : OperationEvent} : event ∈ j.eventsUpTo operationID generation ↔
      event ∈ (j.dir operationID).events ∧
        0 < event.generation ∧ event.generation ≤ generation ∧ 0 < event.sequence := by
  simp only [Journal.eventsUpTo, List.mem_flatMap, List.mem_range'_1, mem_eventsOf]
  constructor
  · rintro ⟨g, hg, hmem, rfl, hseq⟩
    exact ⟨hmem, by omega, by omega, hseq⟩
  · rintro ⟨hmem, hpos, hle, hseq⟩
    exact ⟨event.generation, by omega, hmem, rfl, hseq⟩

/-- What a projection that succeeds reads. -/
structure Outcome (secret : String) (now : Time) (operationID : String) (j : Journal)
    (db : Database) where
  request : OperationRequestFile
  imported : Operation × Bool
  current : Operation
  facts : RunnerFacts
  read : j.readRequest operationID = .ok request
  import_ok : (importRequest request db.operations).1 = .ok imported
  found : (importRequest request db.operations).2.lookup operationID = some current
  facts_read : j.runnerFacts secret operationID now = .ok facts

/-- The row after it. -/
def Outcome.row {secret operationID : String} {now : Time} {j : Journal} {db : Database}
    (o : Outcome secret now operationID j db) : Operation :=
  o.facts.project o.request o.current

/-- The database after it. -/
def Outcome.db {secret operationID : String} {now : Time} {j : Journal} {db : Database}
    (o : Outcome secret now operationID j db) : Database :=
  { (j.eventsUpTo operationID o.row.runnerGeneration).foldl appendProjectedEvent db with
    operations := (importRequest o.request db.operations).2.insert operationID o.row }

theorem request_of_readRequest {j : Journal} {operationID : String} {request : OperationRequestFile}
    (h : j.readRequest operationID = .ok request) : validOperationID operationID = true ∧
      (j.dir operationID).request = some request ∧ request.operationID = operationID := by
  obtain ⟨read, hread, h⟩ := bind_eq_ok.mp h
  split at h
  · cases h
  · rw [← Except.ok.inj h]
    exact readFact_eq_ok_iff.mp hread

/-- The projected row is put in place of the one that was read. -/
theorem projectOperation_eq {operations : Store} {operationID : String} {current : Operation}
    (h : operations.lookup operationID = some current) (request : OperationRequestFile)
    (facts : RunnerFacts) :
    projectOperation operationID current.status current.stage (facts.project request current)
      operations = (.ok (), operations.insert operationID (facts.project request current)) := by
  rw [projectOperation, Store.update, h]
  simp only [beq_self_eq_true, Bool.and_self, if_true]
  exact congrArg (fun row ↦ (Except.ok (), operations.insert operationID row))
    (withOrigin_project request facts current)

/-- Events are appended whatever the rows are. -/
theorem appendAll_operations (events : List OperationEvent) (db : Database) (operations : Store) :
    events.foldl appendProjectedEvent { db with operations } =
      { events.foldl appendProjectedEvent db with operations } := by
  induction events generalizing db with
  | nil => rfl
  | cons event events ih =>
    rw [List.foldl_cons, List.foldl_cons, appendProjectedEvent, appendProjectedEvent]
    split
    · exact ih db
    · exact ih { db with
        projected := db.projected ++ [event.key], logs := db.logs ++ [event.log] }

section Project

variable {secret operationID : String} {now : Time} {j : Journal} {db : Database}

/-- What has been read decides the rest. -/
theorem Outcome.project_eq (o : Outcome secret now operationID j db) :
    project secret now operationID j db = (.ok (), o.db) := by
  have hoperation : Store.operation (importRequest o.request db.operations).2 operationID =
      .ok o.current := by
    rw [Store.operation, o.found]
  have himport : importRequest o.request db.operations =
      (.ok o.imported, (importRequest o.request db.operations).2) := Prod.ext o.import_ok rfl
  rw [project, o.read]
  dsimp only
  rw [himport]
  dsimp only
  rw [hoperation]
  dsimp only
  rw [o.facts_read]
  dsimp only
  rw [appendEvents_eq (request_of_readRequest o.read).1]
  dsimp only
  rw [operations_appendAll, projectOperation_eq o.found]
  dsimp only
  rw [← Journal.eventsUpTo, appendAll_operations]
  rfl

/-- **A projection** fails early, and has then at most imported the request, or does all it has
to. -/
theorem project_cases (secret : String) (now : Time) (operationID : String) (j : Journal)
    (db : Database) :
    (∃ err, project secret now operationID j db = (.error err, db)) ∨
    (∃ err request, j.readRequest operationID = .ok request ∧
      project secret now operationID j db =
        (.error err, { db with operations := (importRequest request db.operations).2 })) ∨
    ∃ o : Outcome secret now operationID j db, project secret now operationID j db =
      (.ok (), o.db) := by
  cases hread : j.readRequest operationID with
  | error err => exact .inl ⟨err, by rw [project, hread]⟩
  | ok request =>
    right
    cases himport : importRequest request db.operations with
    | mk imported operations =>
      cases imported with
      | error err =>
        refine .inl ⟨err, request, rfl, ?_⟩
        rw [project, hread]
        dsimp only
        rw [himport]
      | ok imported =>
        cases hfound : operations.lookup operationID with
        | none =>
          refine .inl ⟨errRecordNotFound, request, rfl, ?_⟩
          rw [project, hread]
          dsimp only
          rw [himport]
          dsimp only
          rw [Store.operation, hfound]
        | some current =>
          cases hfacts : j.runnerFacts secret operationID now with
          | error err =>
            refine .inl ⟨err, request, rfl, ?_⟩
            rw [project, hread]
            dsimp only
            rw [himport]
            dsimp only
            rw [Store.operation, hfound]
            dsimp only
            rw [hfacts]
          | ok facts =>
            let o : Outcome secret now operationID j db :=
              ⟨request, imported, current, facts, hread, by rw [himport],
                by rw [himport]; exact hfound, hfacts⟩
            exact .inr ⟨o, o.project_eq⟩

/-! ## The request -/

/-- An import creates a row where there is none, and leaves the rows that are there. -/
theorem importRequest_cases (request : OperationRequestFile) (operations : Store) :
    (importRequest request operations).2 = operations ∨
      operations.lookup request.operationID = none ∧
        (importRequest request operations).2 =
          operations.insert request.operationID request.record := by
  rw [importRequest, createOrGetOperation]
  split
  · exact .inl rfl
  · split
    · exact .inl rfl
    · exact .inr ⟨‹_›, rfl⟩

theorem lookup_importRequest {request : OperationRequestFile} {operations : Store} {id : String}
    {row : Operation} (h : operations.lookup id = some row) :
    (importRequest request operations).2.lookup id = some row := by
  rcases importRequest_cases request operations with hsame | ⟨hnone, hnew⟩
  · rwa [hsame]
  · have hne : id ≠ request.operationID := by
      rintro rfl
      rw [hnone] at h
      cases h
    rwa [hnew, AList.lookup_insert_ne hne]

theorem importRequest_of_lookup {request : OperationRequestFile} {operations : Store}
    {row : Operation} (h : operations.lookup request.operationID = some row) :
    (importRequest request operations).2 = operations := by
  rcases importRequest_cases request operations with hsame | ⟨hnone, -⟩
  · exact hsame
  · rw [hnone] at h
    cases h

/-- A row an import adds is not terminal. -/
theorem importRequest_terminal {request : OperationRequestFile} {operations : Store} {id : String}
    {row : Operation} (h : (importRequest request operations).2.lookup id = some row)
    (hterminal : isTerminalStatus row.status = true) : operations.lookup id = some row := by
  rcases importRequest_cases request operations with hsame | ⟨-, hnew⟩
  · rwa [hsame] at h
  · rw [hnew] at h
    by_cases hid : id = request.operationID
    · rw [hid, AList.lookup_insert] at h
      cases h
      cases hterminal
    · rwa [AList.lookup_insert_ne hid] at h

end Project

end HMaigc.Ops
