import Mathlib.Data.List.AList
import Mathlib.Data.List.Sort
import HMaigc.Ops.Protocol

/-!
# The operations journal

The state directory has one directory for each operation, and in it one file for each kind of fact:
the request, the three commands the controller signs, the runner's lease, heartbeat and checkpoint,
the result, and a file for each event.  A file is replaced as a whole or not at all, so a write is
one step: it either puts the file in place or is refused and leaves everything as it was.

* `Journal` — the directories, by operation.
* `Journal.readLease` … — what reading a file reports.
* `writeLease`, `writeCheckpoint`, `writeResult`, … — the guarded writes.
* `JournalWrite`, `Journal.perform` — any of them, as a step of the journal.
-/

set_option autoImplicit false

namespace HMaigc.Ops

open Go

/-- A command file: a payload with a signature that verifies under one secret. -/
structure Signed (α : Type) where
  secret : String
  payload : α
  deriving DecidableEq, Repr

/-- The directory of one operation. -/
structure OperationDir where
  request : Option OperationRequestFile := none
  launch : Option (Signed RunnerLaunchCommand) := none
  cancel : Option (Signed CancelOperationCommand) := none
  recover : Option (Signed RecoverOperationCommand) := none
  lease : Option RunnerLease := none
  heartbeat : Option RunnerHeartbeat := none
  checkpoint : Option OperationCheckpoint := none
  result : Option OperationResult := none
  events : List OperationEvent := []
  deriving DecidableEq

structure Journal where
  dirs : AList fun _ : String ↦ OperationDir

instance : Inhabited Journal := ⟨⟨∅⟩⟩

/-- The files of an operation; there are none if it has no directory. -/
def Journal.dir (j : Journal) (operationID : String) : OperationDir :=
  (j.dirs.lookup operationID).getD {}

def Journal.modify (j : Journal) (operationID : String) (f : OperationDir → OperationDir) :
    Journal :=
  ⟨j.dirs.insert operationID (f (j.dir operationID))⟩

@[simp] theorem Journal.dir_modify (j : Journal) (operationID : String)
    (f : OperationDir → OperationDir) :
    (j.modify operationID f).dir operationID = f (j.dir operationID) := by
  rw [Journal.modify, Journal.dir, AList.lookup_insert, Option.getD_some]

theorem Journal.dir_modify_of_ne (j : Journal) {operationID other : String}
    (h : other ≠ operationID) (f : OperationDir → OperationDir) :
    (j.modify operationID f).dir other = j.dir other := by
  rw [Journal.modify, Journal.dir, AList.lookup_insert_ne h, Journal.dir]

/-! ## Errors of the journal -/

def errNotExist : OpsError := ⟨.notExist, "file does not exist"⟩
def errInvalidOperationID : OpsError := ⟨.invalidOperationID, "invalid operation id"⟩
def errImmutableFactExists : OpsError := ⟨.immutableFactExists, "immutable fact already exists"⟩
def errInvalidCommandSignature : OpsError := ⟨.invalidCommandSignature, "invalid command signature"⟩
def errCommandExpired : OpsError := ⟨.commandExpired, "command expired"⟩
def errCommandMismatch : OpsError := ⟨.commandMismatch, "command does not match operation"⟩

/-- An error wrapped as `%w: detail`. -/
def OpsError.wrap (err : OpsError) (detail : String) : OpsError :=
  { err with message := err.message ++ ": " ++ detail }

def errCorruptFact (detail : String) : OpsError :=
  (OpsError.mk .corruptFact "corrupt operation fact").wrap detail

def errOther (message : String) : OpsError := ⟨.other, message⟩

/-! ## Paths -/

/-- `validateOperationID`. -/
def validOperationID (operationID : String) : Bool :=
  0 < operationID.utf8ByteSize && operationID.utf8ByteSize ≤ 128 &&
    operationID.toList.all fun c ↦ ('a' ≤ c && c ≤ 'z') || ('A' ≤ c && c ≤ 'Z') ||
      ('0' ≤ c && c ≤ '9') || c == '-' || c == '_'

/-- What a write reports, and the journal after it. -/
abbrev Written : Type := Except OpsError Unit × Journal

/-- A refused write. -/
def Journal.reject (j : Journal) (err : OpsError) : Written := (.error err, j)

/-- A write with nothing left to do. -/
def Journal.keep (j : Journal) : Written := (.ok (), j)

/-- The file is put in place, if the path of the operation is one. -/
def Journal.publish (j : Journal) (operationID : String) (f : OperationDir → OperationDir) :
    Written :=
  if validOperationID operationID then (.ok (), j.modify operationID f)
  else j.reject errInvalidOperationID

/-- Reading a file: the path, the file, and the operation the content names. -/
def readFact {α : Type} (operationID : String) (file : Option α) (owner : α → String) :
    Except OpsError α :=
  if validOperationID operationID then
    match file with
    | none => .error errNotExist
    | some fact => if owner fact = operationID then .ok fact else .error errCommandMismatch
  else .error errInvalidOperationID

namespace Journal

variable (j : Journal) (operationID : String)

def readLease : Except OpsError RunnerLease :=
  readFact operationID (j.dir operationID).lease (·.operationID)

def readHeartbeat : Except OpsError RunnerHeartbeat :=
  readFact operationID (j.dir operationID).heartbeat (·.operationID)

def readCheckpoint : Except OpsError OperationCheckpoint :=
  readFact operationID (j.dir operationID).checkpoint (·.operationID)

def readResult : Except OpsError OperationResult :=
  readFact operationID (j.dir operationID).result (·.operationID)

/-- The events of one generation after a sequence number, in order. -/
def readEvents (generation after : ℕ) : Except OpsError (List OperationEvent) :=
  if validOperationID operationID then
    .ok (((j.dir operationID).events.filter fun e ↦
      e.generation = generation ∧ after < e.sequence).insertionSort (·.sequence ≤ ·.sequence))
  else .error errInvalidOperationID

end Journal

/-! ## Requests -/

private def isDigit (c : Char) : Bool := '0' ≤ c && c ≤ '9'

private def isLowerHex (c : Char) : Bool := isDigit c || ('a' ≤ c && c ≤ 'f')

private def isVersionIdentifierChar (c : Char) : Bool :=
  ('a' ≤ c && c ≤ 'z') || ('A' ≤ c && c ≤ 'Z') || isDigit c || c == '.' || c == '-'

private def decimal (part : List Char) : ℕ :=
  part.foldl (fun n c ↦ 10 * n + (c.toNat - '0'.toNat)) 0

/-- One of the three numbers of a version; the last error stands for `strconv.ParseUint`. -/
private def validateVersionPart (part : List Char) : Except String Unit :=
  if part = [] then .error "版本号不能为空"
  else if 1 < part.length ∧ part.head? = some '0' then .error "版本号不能包含前导零"
  else if part.all isDigit ∧ decimal part < 2 ^ 31 then .ok ()
  else .error "版本号必须是非负整数"

def validateReleaseVersion (value : String) : Except String Unit :=
  if (trimSpace value).utf8ByteSize < 6 then .error "版本必须是 vX.Y.Z 格式的不可变标签"
  else match (trimSpace value).toList with
    | 'v' :: core =>
      match core.span fun c ↦ c != '-' && c != '+' with
      | (numbers, []) => validateNumbers numbers
      | (numbers, _ :: suffix) =>
        if numbers = [] ∨ suffix = [] then .error "版本预发布标识无效"
        else if suffix.all isVersionIdentifierChar then validateNumbers numbers
        else .error "版本预发布标识包含无效字符"
    | _ => .error "版本必须是 vX.Y.Z 格式的不可变标签"
where
  validateNumbers (numbers : List Char) : Except String Unit :=
    let parts := numbers.splitOn '.'
    if parts.length = 3 then parts.forM validateVersionPart
    else .error "版本必须是 vX.Y.Z 格式的不可变标签"

/-- A rule of validation: its condition, or its message. -/
private def require (holds : Prop) [Decidable holds] (message : String) : Except String Unit :=
  if holds then .ok () else .error message

def validateRequestVersionContract (request : OperationRequestFile) : Except String Unit :=
  match request.request.action with
  | .install | .upgrade =>
    require (request.request.targetVersion = request.expectedVersion ∧
        request.runnerSource = .target ∧ request.rollbackBackup = "")
      "version-changing request target, expected version, and runner source disagree"
  | .rollback =>
    require (request.request.targetVersion = "" ∧
        request.previousVersion = request.expectedVersion ∧ request.runnerSource = .current ∧
        (request.rollbackBackup ≠ "" ∨ request.importedTerminal))
      "rollback request does not match its immutable previous version"
  | .backup | .verify =>
    require (request.request.targetVersion = "" ∧
        request.currentVersion = request.expectedVersion ∧ request.runnerSource = .current ∧
        request.rollbackBackup = "")
      "non-version-changing request does not match its immutable current version"

def validateRequest (request : OperationRequestFile) : Except String Unit := do
  require (validOperationID request.operationID) errInvalidOperationID.message
  require (request.requestHash.utf8ByteSize = 64) "request hash must be a SHA-256 hex digest"
  require (request.requestHash.toList.all isLowerHex) "request hash must be lowercase hexadecimal"
  match validateReleaseVersion request.expectedVersion with
  | .error message => .error ("expected version is invalid: " ++ message)
  | .ok () =>
    validateRequestVersionContract request
    require (request.createdAt ≠ 0) "request creation time is required"

/-- An immutable file: created once; creating it again with the same content is no error. -/
def Journal.createImmutable {α : Type} [DecidableEq α] (j : Journal) (operationID : String)
    (existing : Option α) (fact : α) (f : OperationDir → OperationDir) : Written :=
  match existing with
  | none => j.publish operationID f
  | some old => if old = fact then j.keep else j.reject errImmutableFactExists

def createRequest (request : OperationRequestFile) (j : Journal) : Written :=
  match validateRequest request with
  | .error message => j.reject (errOther message)
  | .ok () => j.createImmutable request.operationID (j.dir request.operationID).request request
      fun dir ↦ { dir with request := some request }

def Journal.readRequest (j : Journal) (operationID : String) :
    Except OpsError OperationRequestFile := do
  let request ← readFact operationID (j.dir operationID).request (·.operationID)
  match validateRequest request with
  | .error message => .error (errCorruptFact message)
  | .ok () => .ok request

/-- The requests of all operations, by their times of creation. -/
def Journal.listRequests (j : Journal) : Except OpsError (List OperationRequestFile) := do
  let requests ← j.dirs.entries.mapM fun entry ↦ j.readRequest entry.1
  return requests.insertionSort (·.createdAt ≤ ·.createdAt)

/-! ## What a runner writes -/

def writeLease (operationID : String) (lease : RunnerLease) (j : Journal) : Written :=
  if lease.operationID ≠ operationID then j.reject errCommandMismatch
  else match j.readLease operationID with
    | .ok existing =>
      if existing.generation > lease.generation then j.reject errImmutableFactExists
      else if existing.generation = lease.generation ∧
          (existing.tokenHash ≠ lease.tokenHash ∨ existing.runnerDigest ≠ lease.runnerDigest) then
        j.reject errImmutableFactExists
      else j.publish operationID fun dir ↦ { dir with lease := some lease }
    | .error err =>
      if err.kind = .notExist then j.publish operationID fun dir ↦ { dir with lease := some lease }
      else j.reject err

def writeHeartbeat (operationID : String) (heartbeat : RunnerHeartbeat) (j : Journal) : Written :=
  if heartbeat.operationID ≠ operationID then j.reject errCommandMismatch
  else j.publish operationID fun dir ↦ { dir with heartbeat := some heartbeat }

def writeCheckpoint (operationID : String) (checkpoint : OperationCheckpoint) (j : Journal) :
    Written :=
  if checkpoint.operationID ≠ operationID then j.reject errCommandMismatch
  else match j.readCheckpoint operationID with
    | .ok existing =>
      if existing.generation > checkpoint.generation then j.reject errImmutableFactExists
      else if existing.generation = checkpoint.generation ∧
          (existing.fencingTokenHash ≠ checkpoint.fencingTokenHash ∨
            existing.sequence > checkpoint.sequence) then
        j.reject errImmutableFactExists
      else if existing.generation = checkpoint.generation ∧
          existing.sequence = checkpoint.sequence then
        if existing = checkpoint then j.keep else j.reject errImmutableFactExists
      else j.publish operationID fun dir ↦ { dir with checkpoint := some checkpoint }
    | .error err =>
      if err.kind = .notExist then
        j.publish operationID fun dir ↦ { dir with checkpoint := some checkpoint }
      else j.reject err

def isRunnerResultStatus (status : OperationStatus) : Bool :=
  isTerminalStatus status || status == .recoveryRequired

def writeResult (operationID : String) (result : OperationResult) (j : Journal) : Written :=
  if result.operationID ≠ operationID then j.reject errCommandMismatch
  else if !isRunnerResultStatus result.status then
    j.reject (errOther "operation result status must be terminal")
  else match j.readResult operationID with
    | .error err =>
      if err.kind = .notExist then
        j.publish operationID fun dir ↦ { dir with result := some result }
      else j.reject err
    | .ok existing =>
      if existing.generation > result.generation then j.reject errImmutableFactExists
      else if existing.generation = result.generation then
        if existing = result then j.keep else j.reject errImmutableFactExists
      else if existing.status ≠ .recoveryRequired then j.reject errImmutableFactExists
      else j.publish operationID fun dir ↦ { dir with result := some result }

def appendEvent (event : OperationEvent) (j : Journal) : Written :=
  if event.generation = 0 ∨ event.sequence = 0 then
    j.reject (errOther "event generation and sequence must be positive")
  else if (j.dir event.operationID).events.any fun e ↦
      e.generation == event.generation && e.sequence == event.sequence then
    j.reject errImmutableFactExists
  else j.publish event.operationID fun dir ↦ { dir with events := dir.events ++ [event] }

/-! ## Commands -/

/-- The length of the shortest secret. -/
def minimumCommandSecret : ℕ := 32

def maximumLaunchAge : Time := 30 * 60 * 1000000000

def maximumClockSkew : Time := 60 * 1000000000

def errCommandSecret : OpsError :=
  errOther "command signing secret must contain at least 32 bytes"

/-- An image reference pinned by its digest. -/
def isImmutableDigest (reference : String) : Bool :=
  let cs := reference.toList
  let separator := (cs.take (cs.length - 64)).reverse
  let digest := cs.drop (cs.length - 64)
  digest.length == 64 && digest.all isLowerHex && 8 < separator.length &&
    separator.take 8 == "@sha256:".toList.reverse

def validateLaunchCommandFields (command : RunnerLaunchCommand) : Except OpsError Unit :=
  if !validOperationID command.operationID then .error errInvalidOperationID
  else if command.generation = 0 ∨ command.fencingToken = "" then
    .error (errOther "launch generation and fencing token are required")
  else if !isImmutableDigest command.runnerDigest then
    .error (errOther "runner digest must use an immutable SHA-256 reference")
  else if command.recoveryAction.any fun action ↦ !isExecutableRecoveryAction action then
    .error (errOther ("runner recovery action is not executable: " ++
      recoveryActionName command.recoveryAction))
  else if command.issuedAt = 0 then .error (errOther "launch issue time is required")
  else .ok ()

def validateLaunchCommandFreshness (command : RunnerLaunchCommand) (now : Time) :
    Except OpsError Unit :=
  if now + maximumClockSkew < command.issuedAt ∨ command.issuedAt + maximumLaunchAge < now then
    .error errCommandExpired
  else .ok ()

def validateCancelCommand (command : CancelOperationCommand) (now : Time) : Except OpsError Unit :=
  if !validOperationID command.operationID then .error errInvalidOperationID
  else if command.requestHash = "" ∨ command.nonce = "" ∨ command.actorUserID = "" then
    .error (errOther "cancel request hash, nonce, and actor are required")
  else if command.requestedAt = 0 ∨ now + maximumClockSkew < command.requestedAt then
    .error errCommandExpired
  else .ok ()

def validateRecoverCommand (command : RecoverOperationCommand) (now : Time) :
    Except OpsError Unit :=
  if !validOperationID command.operationID then .error errInvalidOperationID
  else if command.requestHash = "" ∨ command.nonce = "" ∨ command.actorUserID = "" then
    .error (errOther "recover request hash, nonce, and actor are required")
  else if !isExecutableRecoveryAction command.recoveryAction then
    .error (errOther ("recover action is not executable: " ++ command.recoveryAction.name))
  else if command.requestedAt = 0 ∨ now + maximumClockSkew < command.requestedAt then
    .error errCommandExpired
  else .ok ()

/-- Reading a command: the secret, the file, its signature, and the operation it names. -/
def readSigned {α : Type} (secret operationID : String) (file : Option (Signed α))
    (owner : α → String) : Except OpsError α :=
  if !validOperationID operationID then .error errInvalidOperationID
  else if secret.utf8ByteSize < minimumCommandSecret then .error errCommandSecret
  else match file with
    | none => .error errNotExist
    | some command =>
      if command.secret ≠ secret then .error errInvalidCommandSignature
      else if owner command.payload ≠ operationID then .error errCommandMismatch
      else .ok command.payload

namespace Journal

variable (j : Journal) (secret operationID : String) (now : Time)

/-- The launch command however old it is. -/
def readLaunchCommandForReconciliation : Except OpsError RunnerLaunchCommand := do
  let command ← readSigned secret operationID (j.dir operationID).launch (·.operationID)
  validateLaunchCommandFields command
  return command

def readLaunchCommand : Except OpsError RunnerLaunchCommand := do
  let command ← j.readLaunchCommandForReconciliation secret operationID
  validateLaunchCommandFreshness command now
  return command

def readCancelCommand : Except OpsError CancelOperationCommand := do
  let command ← readSigned secret operationID (j.dir operationID).cancel (·.operationID)
  validateCancelCommand command now
  return command

def readRecoverCommand : Except OpsError RecoverOperationCommand := do
  let command ← readSigned secret operationID (j.dir operationID).recover (·.operationID)
  validateRecoverCommand command now
  return command

end Journal

def writeLaunchCommand (secret : String) (now : Time) (command : RunnerLaunchCommand)
    (j : Journal) : Written :=
  if secret.utf8ByteSize < minimumCommandSecret then j.reject errCommandSecret
  else match validateLaunchCommandFields command, validateLaunchCommandFreshness command now with
    | .error err, _ => j.reject err
    | .ok (), .error err => j.reject err
    | .ok (), .ok () =>
      match j.readLaunchCommandForReconciliation secret command.operationID with
      | .ok existing =>
        if existing = command then j.keep
        else if command.generation ≤ existing.generation then j.reject errImmutableFactExists
        else j.publish command.operationID fun dir ↦ { dir with launch := some ⟨secret, command⟩ }
      | .error err =>
        if err.kind = .notExist then
          j.publish command.operationID fun dir ↦ { dir with launch := some ⟨secret, command⟩ }
        else j.reject err

def writeCancelCommand (secret : String) (now : Time) (command : CancelOperationCommand)
    (j : Journal) : Written :=
  if secret.utf8ByteSize < minimumCommandSecret then j.reject errCommandSecret
  else match validateCancelCommand command now with
    | .error err => j.reject err
    | .ok () => j.createImmutable command.operationID (j.dir command.operationID).cancel
        ⟨secret, command⟩ fun dir ↦ { dir with cancel := some ⟨secret, command⟩ }

def writeRecoverCommand (secret : String) (now : Time) (command : RecoverOperationCommand)
    (j : Journal) : Written :=
  if secret.utf8ByteSize < minimumCommandSecret then j.reject errCommandSecret
  else match validateRecoverCommand command now with
    | .error err => j.reject err
    | .ok () => j.createImmutable command.operationID (j.dir command.operationID).recover
        ⟨secret, command⟩ fun dir ↦ { dir with recover := some ⟨secret, command⟩ }

end HMaigc.Ops
