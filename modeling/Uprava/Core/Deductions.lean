/-
  File:      Uprava/Core/Deductions.lean
  Subject:   Deductions: their table, the statements of the calls that request, cancel, run and end
             one, and what a provider's output has to be to end one as completed.

  A row stands for an active deduction until one of four states ends it. Every statement that ends
  a row is guarded: it writes active rows only. The events that announce an end are appended by a
  statement of their own, which the guard does not cover; `Deductions.Sound` in
  `DeductionAgreement.lean` is about the two together.
-/
import Uprava.Core.Allocator
import Uprava.Core.Turns

namespace Uprava.Core

open Uprava.Protocol
open Uprava.Lib (Schema Table)
open Uprava.Lib.Table

/-! ## 1. What a provider answers -/

inductive DeductionState where
  | requested | running | completed | invalid | failed | cancelled
  deriving DecidableEq

/-- `state in ('requested', 'running')`. -/
def DeductionState.isActive : DeductionState → Bool
  | .requested | .running => true
  | _ => false

inductive DeductionClassification where
  | observed | inference | assumption | unknown | alternative
  deriving DecidableEq

inductive DeductionCertainty where
  | high | medium | low | unknown
  deriving DecidableEq

/-- A reference is kept as its JSON value, which is what references are compared by. -/
structure DeductionStep where
  stepId : String
  classification : DeductionClassification
  summary : String
  supportRefs : List JsonValue
  deriving DecidableEq

structure DeductionProviderResult where
  title : String
  conclusion : String
  certainty : DeductionCertainty
  steps : List DeductionStep
  assumptions : List String
  unknowns : List String
  alternatives : List String
  deriving DecidableEq

structure DeductionProviderOutput where
  deductionId : DeductionId
  provider : String
  model : Option String
  schemaVersion : String
  evidenceSnapshotHash : String
  result : Option DeductionProviderResult
  rawText : String
  rawTruncated : Bool
  errorCode : Option String
  errorMessage : Option String
  deriving DecidableEq

structure DeductionProvenance where
  provider : String
  model : Option String
  sessionThreadId : SessionThreadId
  schemaVersion : String
  evidenceSnapshotHash : String
  generatedAt : DateTime
  deriving DecidableEq

structure DeductionBlock where
  deductionId : DeductionId
  scopeRef : JsonValue
  result : DeductionProviderResult
  provenance : DeductionProvenance
  deriving DecidableEq

/-- The evidence package as it is stored: what the command carries, and what the answer is checked
    against beside it. -/
structure EvidencePackage extends DeductionInputPackage where
  scopeRef : JsonValue
  question : String
  allowedRefs : List JsonValue
  deriving DecidableEq

/-- The checks of one step, in the order they are made; `seen` are the ids of the steps before. -/
def validateDeductionStep (allowed : List JsonValue) (seen : List String) (step : DeductionStep) :
    Except (String × String) Unit :=
  if isBlank step.stepId || seen.contains step.stepId then
    .error ("deduction.step_id_invalid", "Deduction step ids must be non-empty and unique")
  else if isBlank step.summary || 2000 < step.summary.length then
    .error ("deduction.step_summary_invalid", "Deduction step summary is empty or too large")
  else if step.classification == .observed && step.supportRefs.isEmpty then
    .error ("deduction.observed_step_unsupported",
      "Every observed Deduction step must carry a support reference")
  else if step.supportRefs.any (!allowed.contains ·) then
    .error ("deduction.support_ref_invalid",
      "Deduction returned a reference outside its evidence package")
  else .ok ()

def validateDeductionSteps (allowed : List JsonValue) :
    List String → List DeductionStep → Except (String × String) Unit
  | _, [] => .ok ()
  | seen, step :: steps => do
    validateDeductionStep allowed seen step
    validateDeductionSteps allowed (step.stepId :: seen) steps

def validateDeductionOutput (output : DeductionProviderOutput) (package : EvidencePackage) :
    Except (String × String) DeductionProviderResult :=
  if output.deductionId ≠ package.deductionId ∨
      output.evidenceSnapshotHash ≠ package.evidenceSnapshotHash ∨
      output.schemaVersion ≠ deductionSchemaVersion then
    .error ("deduction.provenance_mismatch",
      "Deduction provenance does not match the requested evidence snapshot")
  else
    match output.errorCode with
    | some code =>
      .error ("deduction.provider_reported_error",
        output.errorMessage.getD ("Provider reported " ++ code))
    | none =>
      match output.result with
      | none => .error ("deduction.result_missing", "Structured Deduction result is missing")
      | some result =>
        if isBlank result.title || isBlank result.conclusion then
          .error ("deduction.result_incomplete", "Deduction title and conclusion are required")
        else if result.steps.isEmpty || 100 < result.steps.length then
          .error ("deduction.steps_invalid", "Deduction must contain between 1 and 100 steps")
        else do
          validateDeductionSteps package.allowedRefs [] result.steps
          return result

/-! ## 2. The table -/

structure DeductionRow where
  deductionId : DeductionId
  sessionThreadId : SessionThreadId
  state : DeductionState
  commandId : CommandId
  package : EvidencePackage
  block : Option DeductionBlock
  rawFallback : Option String
  rawTruncated : Bool
  errorCode : Option String
  errorMessage : Option String
  createdAt : DateTime
  updatedAt : DateTime
  deriving DecidableEq

/-- `deductions_one_active_idx` beside the primary key and the unique command. -/
instance : Schema DeductionRow where
  clash a b := a.deductionId = b.deductionId ∨ a.commandId = b.commandId ∨
    (a.sessionThreadId = b.sessionThreadId ∧ a.state.isActive = true ∧ b.state.isActive = true)
  dec _ _ := inferInstanceAs (Decidable (_ ∨ _ ∨ _ ∧ _ ∧ _))
  symm := by
    rintro a b (h | h | ⟨h, ha, hb⟩)
    · exact Or.inl h.symm
    · exact Or.inr (Or.inl h.symm)
    · exact Or.inr (Or.inr ⟨h.symm, hb, ha⟩)

def findDeduction? (deductions : Table DeductionRow) (deductionId : DeductionId) :
    Option DeductionRow :=
  deductions.find? (·.deductionId == deductionId)

/-- `where deduction_id = ? and state in ('requested', 'running')`. -/
def DeductionRow.isActiveOf (deductionId : DeductionId) (r : DeductionRow) : Bool :=
  r.deductionId == deductionId && r.state.isActive

/-! ## 3. Requesting and cancelling -/

/-- Where a command about a deduction goes, and when and as what it is recorded. -/
structure CommandContext where
  commandId : CommandId
  nodeId : NodeId
  projectPlacementId : ProjectPlacementId
  runtimeSessionId : RuntimeSessionId
  issuedAt : DateTime
  correlationId : CorrelationId
  deriving DecidableEq

def CommandContext.envelope (context : CommandContext) (sessionThreadId : SessionThreadId)
    (payload : CommandPayload) : CommandEnvelope where
  commandId := context.commandId
  kind := payload.kind
  target := .sessionRuntime context.nodeId context.projectPlacementId sessionThreadId
    context.runtimeSessionId
  actorRef := .localUser none
  issuedAt := context.issuedAt
  correlationId := context.correlationId
  payload := payload

/-- What `create_deduction` has drawn and built when it starts to write. -/
structure DeductionRequest where
  package : EvidencePackage
  context : CommandContext
  deriving DecidableEq

def DeductionRow.requested (request : DeductionRequest) : DeductionRow where
  deductionId := request.package.deductionId
  sessionThreadId := request.package.sessionThreadId
  state := .requested
  commandId := request.context.commandId
  package := request.package
  block := none
  rawFallback := none
  rawTruncated := false
  errorCode := none
  errorMessage := none
  createdAt := request.context.issuedAt
  updatedAt := request.context.issuedAt

def maxDeductionQuestionChars : Nat := 2000

/-- The checks of `create_deduction`; the count is a statement of its own. -/
def checkDeductionRequest (deductions : Table DeductionRow) (request : DeductionRequest) :
    Except AppError Unit :=
  if 0 < (deductions.select fun r =>
      r.sessionThreadId == request.package.sessionThreadId && r.state.isActive).length then
    .error (.badRequest "deduction.already_active" "This session already has an active Deduction")
  else if maxDeductionQuestionChars < request.package.question.length then
    .error (.badRequest "deduction.question_too_large"
      "Deduction question exceeds the character limit")
  else .ok ()

/-- The transaction of `create_deduction`: the command and the row. -/
def insertDeduction (db : Database) (deductions : Table DeductionRow)
    (request : DeductionRequest) : Except AppError (Database × Table DeductionRow) := do
  let db ← recordCommand db (request.context.envelope request.package.sessionThreadId
    (.requestDeduction request.package.toDeductionInputPackage))
  if !sessionExists db.sessionThreads request.package.sessionThreadId then
    .error (.database "deductions.session_thread_id")
  else
    let deductions ← dbResult "deductions" (deductions.insert? (.requested request))
    return (db, deductions)

/-- The row a cancellation starts from, if it is active. -/
def loadActiveDeduction (deductions : Table DeductionRow) (deductionId : DeductionId) :
    Except AppError DeductionRow :=
  match findDeduction? deductions deductionId with
  | none => .error (.notFound "deduction.not_found" "Deduction not found")
  | some row =>
    if row.state.isActive then .ok row
    else
      .error (.badRequest "deduction.not_active"
        "Only a requested or running Deduction can be cancelled")

def cancelledDeductionPayload : JsonValue :=
  .ofFields [("error_code", .string "deduction.cancelled"),
    ("message", .string "Deduction was cancelled before provider completion")]

/-- `state in ('recorded', 'pending_dispatch')`. -/
def notDispatched : CommandState → Bool
  | .recorded | .pendingDispatch => true
  | _ => false

/-- The request's command fails, unless it is on its way to the Node. -/
def failUndispatched (db : Database) (commandId : CommandId) (now : DateTime) : Database :=
  { db with
    commands := db.commands.update (fun r => r.commandId == commandId && notDispatched r.state)
      (fun r => { r with
        state := .failed
        resultPayload := some cancelledDeductionPayload
        completedAt := some now }) ⟨fun _ _ => Iff.rfl⟩ }

def DeductionRow.setState (state : DeductionState) (now : DateTime) (r : DeductionRow) :
    DeductionRow :=
  { r with state, updatedAt := now }

/-- The transaction of `cancel_deduction`. It does not look at how many rows its last statement
    changed. -/
def recordCancellation (db : Database) (deductions : Table DeductionRow) (row : DeductionRow)
    (context : CommandContext) : Except AppError (Database × Table DeductionRow) := do
  let db ← recordCommand db (context.envelope row.sessionThreadId
    (.cancelDeduction row.deductionId))
  let deductions ← dbResult "deductions" (deductions.update?
    (DeductionRow.isActiveOf row.deductionId) (.setState .cancelled context.issuedAt))
  return (failUndispatched db row.commandId context.issuedAt, deductions)

def markDeductionRunning (deductions : Table DeductionRow) (commandId : CommandId)
    (now : DateTime) : Option (Table DeductionRow) :=
  deductions.update? (fun r => r.commandId == commandId && r.state == .requested)
    (.setState .running now)

/-! ## 4. The end of a deduction -/

/-- How a result ends a deduction, with what is written of it. -/
inductive DeductionOutcome where
  | completed (block : DeductionBlock) (rawFallback : Option String) (rawTruncated : Bool)
  | invalid (code message : String) (raw : Option String) (rawTruncated : Bool)
  | failed (code message : String) (raw : Option String) (rawTruncated : Bool)
  deriving DecidableEq

def maxDeductionRawChars : Nat := 32000

def truncateChars (value : String) (maxChars : Nat) : String :=
  if value.length ≤ maxChars then value
  else String.ofList (value.toList.take maxChars) ++ "..."

def boundedDeductionRaw (value : String) (providerTruncated : Bool) : Option String × Bool :=
  if value.isEmpty then (none, providerTruncated)
  else (some (truncateChars value maxDeductionRawChars),
    providerTruncated || decide (maxDeductionRawChars < value.length))

/-- `update_deduction_failure`, on a row its `where` selects. -/
def DeductionRow.setFailure (state : DeductionState) (code message : String) (raw : Option String)
    (rawTruncated : Bool) (now : DateTime) (r : DeductionRow) : DeductionRow :=
  { r with
    state
    rawFallback := raw.map (truncateChars · maxDeductionRawChars)
    rawTruncated
    errorCode := some code
    errorMessage := some message
    updatedAt := now }

namespace DeductionOutcome

def state : DeductionOutcome → DeductionState
  | completed .. => .completed
  | invalid .. => .invalid
  | failed .. => .failed

/-- What the guarded update writes to a row. -/
def write (now : DateTime) : DeductionOutcome → DeductionRow → DeductionRow
  | completed block rawFallback rawTruncated, r =>
    { r with
      state := .completed, block := some block, rawFallback, rawTruncated
      errorCode := none, errorMessage := none, updatedAt := now }
  | invalid code message raw rawTruncated, r =>
    r.setFailure .invalid code message raw rawTruncated now
  | failed code message raw rawTruncated, r =>
    r.setFailure .failed code message raw rawTruncated now

/-- The payload of the event that announces the end. -/
def payload (deductionId : DeductionId) : DeductionOutcome → EventPayload
  | completed .. => .deductionCompleted deductionId
  | invalid code message .. => .deductionInvalid deductionId code message
  | failed code message .. => .deductionFailed deductionId code message

end DeductionOutcome

/-- `project_deduction_command_result`, from the row that is still active to what it writes. The
    payload of a result that does not decode is an error of the call. -/
def deductionOutcome (decode : JsonValue → Option DeductionProviderOutput) (row : DeductionRow)
    (status : CommandState) (payload : JsonValue) (now : DateTime) :
    Except AppError DeductionOutcome :=
  if status ≠ .completed then
    .ok (.failed
      (((payload.get "error_code").bind (·.asStr)).getD "deduction.provider_failed")
      ((((payload.get "error_message").or (payload.get "message")).bind (·.asStr)).getD
        "Deduction provider execution failed")
      ((payload.get "raw_text").bind (·.asStr))
      (((payload.get "raw_truncated").bind fun
        | .bool b => some b
        | _ => none).getD false))
  else
    match decode payload with
    | none => .error resultPayloadInvalid
    | some output =>
      let (raw, rawTruncated) := boundedDeductionRaw output.rawText output.rawTruncated
      match validateDeductionOutput output row.package with
      | .ok result =>
        .ok (.completed
          { deductionId := row.deductionId
            scopeRef := row.package.scopeRef
            result
            provenance :=
              { provider := output.provider
                model := output.model
                sessionThreadId := row.sessionThreadId
                schemaVersion := output.schemaVersion
                evidenceSnapshotHash := output.evidenceSnapshotHash
                generatedAt := now } }
          raw rawTruncated)
      | .error (code, message) => .ok (.invalid code message raw rawTruncated)

/-- The guarded update of a result. -/
def settleDeduction (deductions : Table DeductionRow) (deductionId : DeductionId)
    (outcome : DeductionOutcome) (now : DateTime) : Option (Table DeductionRow) :=
  deductions.update? (DeductionRow.isActiveOf deductionId) (outcome.write now)

/-- What a command's result is decoded as, with a deduction's read off the provider's output. -/
def ResultCodec.withDeductions (codec : ResultCodec)
    (decode : JsonValue → Option DeductionProviderOutput) : ResultCodec :=
  { codec with
    deduction := fun payload => (decode payload).map fun output =>
      (output.deductionId, output.evidenceSnapshotHash, output.schemaVersion) }

end Uprava.Core
