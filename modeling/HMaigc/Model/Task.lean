import HMaigc.Go.Basic

/-!
# Tasks and what their execution leaves behind

The task row with its lease, the provider runtime and watermark policy that are frozen into it when
it is created, and the records a finished task writes: session, message, results, and the outbox
entry through which other components learn of it.
-/

set_option autoImplicit false

namespace HMaigc

open Go

inductive TaskStatus where
  | queued
  | running
  | succeeded
  | failed
  | cancelled
  deriving DecidableEq, Repr

/-- The statuses the active task limits count. -/
def TaskStatus.isActive : TaskStatus → Bool
  | .queued | .running => true
  | .succeeded | .failed | .cancelled => false

inductive WatermarkDirective where
  | withWatermark
  | withoutWatermark
  | providerDefault
  deriving DecidableEq, Repr

/-- The watermark columns of a task.  `capability` is the caller's string: besides the three known
values it may be one that freezing refuses. -/
structure Watermark where
  capability : String := ""
  directive : WatermarkDirective := .providerDefault
  parameterApplied : Bool := false
  parameterValue : Option Bool := none
  policyPublicationID : String := ""
  policyVersion : ℤ := 0
  deriving DecidableEq, Repr

/-- The provider columns of a task. -/
structure ProviderTaskRuntime where
  providerAccountID : String := ""
  providerEndpointVersionID : String := ""
  providerCredentialVersionID : String := ""
  deriving DecidableEq, Repr

structure Task where
  userID : String
  audience : String := ""
  executionKind : String := ""
  projectID : String := ""
  type : String := ""
  operation : String := ""
  capability : String := ""
  status : TaskStatus := .queued
  stage : String := ""
  progress : ℤ := 0
  billingOrderID : String := ""
  runtime : ProviderTaskRuntime := {}
  watermark : Watermark := {}
  providerRequestID : String := ""
  pollStage : String := ""
  nextPollAt : Option Time := none
  leaseOwner : String := ""
  leaseExpiresAt : Option Time := none
  leaseGeneration : ℕ := 0
  leaseToken : String := ""
  cancelRequestedAt : Option Time := none
  cancelReasonCode : String := ""
  inputJSON : String := ""
  resultJSON : String := ""
  error : String := ""
  attempts : ℤ := 0
  startedAt : Option Time := none
  completedAt : Option Time := none
  createdAt : Time := 0

structure Session where
  userID : String
  projectID : String := ""
  status : String := ""
  prompt : String := ""
  canvasSnapshotJSON : String := ""
  canvasOpsJSON : String := ""
  deriving DecidableEq, Repr

structure Message where
  userID : String
  sessionID : String := ""
  role : String := ""
  content : String := ""
  payload : String := ""
  deriving DecidableEq, Repr

structure TaskResult where
  userID : String
  taskID : String := ""
  sessionID : String := ""
  kind : String := ""
  url : String := ""
  payload : String := ""
  deriving DecidableEq, Repr

/-- A task log entry; its payload is the frozen watermark, which the source stores as JSON. -/
structure TaskLog where
  userID : String
  taskID : String
  level : String := ""
  message : String := ""
  payload : Watermark := {}
  deriving DecidableEq, Repr

inductive TaskOutboxStatus where
  | pending
  | processing
  | delivered
  deriving DecidableEq, Repr

structure TaskOutbox where
  idempotencyKey : String
  taskID : String
  eventType : String
  payloadJSON : String
  status : TaskOutboxStatus := .pending
  attemptCount : ℕ := 0
  availableAt : Time := 0
  leaseOwner : String := ""
  leaseToken : String := ""
  leaseExpiresAt : Option Time := none
  lastError : String := ""
  deliveredAt : Option Time := none
  createdAt : Time := 0
  deriving DecidableEq, Repr

/-! ## What creating a task reads -/

structure ChannelModel where
  providerCredentialID : String := ""
  deleted : Bool := false
  deriving DecidableEq, Repr

structure ProviderAccount where
  providerKind : String := ""
  enabled : Bool
  deriving DecidableEq, Repr

structure ProviderEndpointVersion where
  providerAccountID : String
  status : String
  deriving DecidableEq, Repr

structure ProviderCredential where
  providerAccountID : String
  healthStatus : String
  enabled : Bool
  deriving DecidableEq, Repr

structure ProviderCredentialVersion where
  providerCredentialID : String
  status : String
  deriving DecidableEq, Repr

structure PolicyPublicationHead where
  currentPublicationID : String
  currentVersion : ℤ
  deriving DecidableEq, Repr

structure PolicyPublication where
  kind : String
  version : ℤ
  deriving DecidableEq, Repr

structure UserWatermarkPreference where
  removeWatermark : Bool
  acceptedPublicationID : String
  deriving DecidableEq, Repr

end HMaigc
