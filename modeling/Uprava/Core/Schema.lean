/-
  File:      Uprava/Core/Schema.lean
  Subject:   The tables of the Core database, their foreign keys, and the references that are columns
             or scopes without a key.

  A table is here if it refers to another one, or another one to it. Of its columns the ids and the
  references are kept; a scope that is stored as JSON is read as the column of the id it names, and
  so are the claims of a lease. The actors, the audit log, the web sessions, the provider quotas and
  the tables of the plugins refer to none of these.
-/
import Uprava.Lib.Relational
import Uprava.Protocol.Domain

namespace Uprava.Core

open Uprava.Lib.Relational

inductive CoreTable where
  | nodes | nodeEnrollments | nodeCapabilities | projects | projectPlacements
  | deletedWorkspaceBindings | sessionThreads | runtimeSessions | turns | approvals | messages
  | commands | events | warningAcknowledgements | eventPublicationOutbox | commandDispatchOutbox
  | scheduledMessages | jobs | jobRuns | deductions | causalityNarratives
  | causalityNarrativeVersions | toolSources | toolDefinitions | integrationConnections
  | mcpDependencyInstances | observedCapabilities | toolCalls | toolCallEvents
  | sessionToolSnapshots | mcpAccessLeases | artifacts | artifactVersions | artifactBlobs
  | generatedUiBuilds | generatedUiStates | generatedUiActionRequests | taskRuns
  deriving DecidableEq

inductive CoreColumn where
  | nodeId | enrollmentId | claimedNodeId | targetNodeId | projectId | projectPlacementId
  | workspacePath | sessionThreadId | runtimeSessionId | turnId | blockedApprovalId | approvalId
  | requestCommandId | resolveCommandId | requestedEventId | resolvedEventId | messageId
  | sourceEventId | commandId | eventId | scheduledMessageId | jobId | jobRunId | deductionId
  | artifactId | sourceId | toolId | integrationId | dependencyInstanceId | toolCallId | leaseId
  | blobHash | buildId | sourceBlobHash | bundleBlobHash | actionRequestId | taskRunId
  | cancelCommandId | scopeNodeId | scopeProjectPlacementId | scopeSessionThreadId
  | scopeRuntimeSessionId | scopeTaskRunId
  deriving DecidableEq

abbrev CoreRow := Row CoreTable CoreColumn String

/-! ## 1. Foreign keys -/

/-- `column .. references parent(key)`. -/
def references (child : CoreTable) (column : CoreColumn) (parent : CoreTable) (key : CoreColumn)
    (onDelete : OnDelete := .noAction) : ForeignKey CoreTable CoreColumn :=
  { child, column, parent, key, onDelete }

def ofNode (child : CoreTable) (onDelete : OnDelete := .noAction) :=
  references child .nodeId .nodes .nodeId onDelete

def ofPlacement (child : CoreTable) (onDelete : OnDelete := .noAction) :=
  references child .projectPlacementId .projectPlacements .projectPlacementId onDelete

def ofSession (child : CoreTable) (onDelete : OnDelete := .noAction) :=
  references child .sessionThreadId .sessionThreads .sessionThreadId onDelete

def ofCommand (child : CoreTable) (onDelete : OnDelete := .noAction) :=
  references child .commandId .commands .commandId onDelete

def ofArtifact (child : CoreTable) :=
  references child .artifactId .artifacts .artifactId .cascade

/-- The keys in the order the migrations declare them. -/
def foreignKeys : List (ForeignKey CoreTable CoreColumn) :=
  [ ofNode .nodeCapabilities,
    references .projectPlacements .projectId .projects .projectId,
    ofNode .projectPlacements,
    ofNode .deletedWorkspaceBindings,
    ofPlacement .sessionThreads,
    ofSession .runtimeSessions,
    ofSession .turns,
    ofSession .approvals,
    ofSession .messages,
    ofSession .warningAcknowledgements,
    references .eventPublicationOutbox .eventId .events .eventId .cascade,
    ofCommand .commandDispatchOutbox .cascade,
    ofSession .scheduledMessages .cascade,
    ofCommand .scheduledMessages,
    references .scheduledMessages .turnId .turns .turnId,
    ofPlacement .jobs .cascade,
    references .jobRuns .jobId .jobs .jobId .cascade,
    ofSession .jobRuns,
    references .jobRuns .runtimeSessionId .runtimeSessions .runtimeSessionId,
    ofCommand .jobRuns,
    references .jobRuns .turnId .turns .turnId,
    ofSession .deductions .cascade,
    ofCommand .deductions,
    references .causalityNarratives .deductionId .deductions .deductionId .cascade,
    ofSession .causalityNarratives .cascade,
    references .causalityNarrativeVersions .artifactId .causalityNarratives .artifactId .cascade,
    references .toolDefinitions .sourceId .toolSources .sourceId,
    references .integrationConnections .sourceId .toolSources .sourceId,
    ofNode .integrationConnections,
    references .mcpDependencyInstances .integrationId .integrationConnections .integrationId,
    ofNode .mcpDependencyInstances,
    ofNode .observedCapabilities .cascade,
    references .toolCalls .toolId .toolDefinitions .toolId,
    references .toolCallEvents .toolCallId .toolCalls .toolCallId .cascade,
    ofSession .sessionToolSnapshots .cascade,
    references .sessionToolSnapshots .toolId .toolDefinitions .toolId,
    ofSession .mcpAccessLeases .cascade,
    ofArtifact .artifactVersions,
    ofArtifact .generatedUiBuilds,
    references .generatedUiBuilds .sourceBlobHash .artifactBlobs .blobHash .restrict,
    references .generatedUiBuilds .bundleBlobHash .artifactBlobs .blobHash .restrict,
    ofArtifact .generatedUiStates,
    ofArtifact .generatedUiActionRequests,
    ofPlacement .taskRuns .restrict,
    ofNode .taskRuns .restrict,
    ofCommand .taskRuns .restrict,
    references .taskRuns .cancelCommandId .commands .commandId .setNull ]

/-! ## 2. References without a key -/

/-- What a `ScopeRef` of the table's rows may name. -/
def scopeReferences (child : CoreTable) : List (Link CoreTable CoreColumn) :=
  [ ⟨child, .scopeRuntimeSessionId, .runtimeSessions, .runtimeSessionId⟩,
    ⟨child, .scopeSessionThreadId, .sessionThreads, .sessionThreadId⟩,
    ⟨child, .scopeNodeId, .nodes, .nodeId⟩,
    ⟨child, .scopeProjectPlacementId, .projectPlacements, .projectPlacementId⟩,
    ⟨child, .scopeTaskRunId, .taskRuns, .taskRunId⟩ ]

def keylessReferences : List (Link CoreTable CoreColumn) :=
  [ ⟨.nodeEnrollments, .claimedNodeId, .nodes, .nodeId⟩,
    ⟨.sessionThreads, .runtimeSessionId, .runtimeSessions, .runtimeSessionId⟩,
    ⟨.turns, .commandId, .commands, .commandId⟩,
    ⟨.turns, .blockedApprovalId, .approvals, .approvalId⟩,
    ⟨.approvals, .runtimeSessionId, .runtimeSessions, .runtimeSessionId⟩,
    ⟨.approvals, .turnId, .turns, .turnId⟩,
    ⟨.approvals, .requestCommandId, .commands, .commandId⟩,
    ⟨.approvals, .resolveCommandId, .commands, .commandId⟩,
    ⟨.approvals, .requestedEventId, .events, .eventId⟩,
    ⟨.approvals, .resolvedEventId, .events, .eventId⟩,
    ⟨.messages, .turnId, .turns, .turnId⟩,
    ⟨.messages, .sourceEventId, .events, .eventId⟩,
    ⟨.commands, .targetNodeId, .nodes, .nodeId⟩,
    ⟨.commands, .sessionThreadId, .sessionThreads, .sessionThreadId⟩,
    ⟨.commands, .runtimeSessionId, .runtimeSessions, .runtimeSessionId⟩,
    ⟨.commands, .projectPlacementId, .projectPlacements, .projectPlacementId⟩,
    ⟨.events, .nodeId, .nodes, .nodeId⟩,
    ⟨.events, .runtimeSessionId, .runtimeSessions, .runtimeSessionId⟩,
    ⟨.events, .sessionThreadId, .sessionThreads, .sessionThreadId⟩,
    ⟨.events, .commandId, .commands, .commandId⟩,
    ⟨.warningAcknowledgements, .eventId, .events, .eventId⟩,
    ⟨.warningAcknowledgements, .commandId, .commands, .commandId⟩,
    ⟨.commandDispatchOutbox, .targetNodeId, .nodes, .nodeId⟩,
    ⟨.deductions, .artifactId, .artifacts, .artifactId⟩,
    ⟨.toolCalls, .commandId, .commands, .commandId⟩,
    ⟨.toolCalls, .integrationId, .integrationConnections, .integrationId⟩,
    ⟨.toolCalls, .dependencyInstanceId, .mcpDependencyInstances, .dependencyInstanceId⟩,
    -- A `ToolScope`, and the claims of a lease.
    ⟨.toolCalls, .scopeNodeId, .nodes, .nodeId⟩,
    ⟨.toolCalls, .scopeProjectPlacementId, .projectPlacements, .projectPlacementId⟩,
    ⟨.toolCalls, .scopeSessionThreadId, .sessionThreads, .sessionThreadId⟩,
    ⟨.mcpAccessLeases, .scopeNodeId, .nodes, .nodeId⟩,
    ⟨.mcpAccessLeases, .scopeProjectPlacementId, .projectPlacements, .projectPlacementId⟩ ] ++
  scopeReferences .events ++ scopeReferences .artifacts

/-- How many tables a cascade from this one goes down at most. -/
def cascadeRank : CoreTable → Nat
  | .sessionThreads => 3
  | .deductions | .projectPlacements => 2
  | .causalityNarratives | .jobs | .events | .commands | .nodes | .toolCalls | .artifacts => 1
  | _ => 0

/-- The schema of a migrated database. -/
def schema : Schema CoreTable CoreColumn where
  foreignKeys := foreignKeys
  references := keylessReferences
  rank := cascadeRank
  depth := 3
  rank_le t := by cases t <;> decide
  cascade_lt := by decide
  column_hard := by decide
  key_hard := by decide

/-! ## 3. Columns that are not null -/

/-- The primary key of a table and its columns that are `not null`, of those that are kept. -/
def notNull : CoreTable → List CoreColumn
  | .nodes => [.nodeId]
  | .nodeEnrollments => [.enrollmentId]
  | .nodeCapabilities => [.nodeId]
  | .projects => [.projectId]
  | .projectPlacements => [.projectPlacementId, .nodeId, .workspacePath]
  | .deletedWorkspaceBindings => [.nodeId, .workspacePath]
  | .sessionThreads => [.sessionThreadId, .projectPlacementId, .runtimeSessionId]
  | .runtimeSessions => [.runtimeSessionId, .sessionThreadId]
  | .turns => [.turnId, .sessionThreadId, .commandId]
  | .approvals => [.approvalId, .sessionThreadId]
  | .messages => [.messageId, .sessionThreadId]
  | .commands => [.commandId, .targetNodeId]
  | .events => [.eventId]
  | .warningAcknowledgements => [.eventId, .sessionThreadId]
  | .eventPublicationOutbox => [.eventId]
  | .commandDispatchOutbox => [.commandId, .targetNodeId]
  | .scheduledMessages => [.scheduledMessageId, .sessionThreadId]
  | .jobs => [.jobId, .projectPlacementId]
  | .jobRuns => [.jobRunId, .jobId]
  | .deductions => [.deductionId, .sessionThreadId, .commandId]
  | .causalityNarratives => [.artifactId, .deductionId, .sessionThreadId]
  | .causalityNarrativeVersions => [.artifactId]
  | .toolSources => [.sourceId]
  | .toolDefinitions => [.toolId, .sourceId]
  | .integrationConnections => [.integrationId, .sourceId]
  | .mcpDependencyInstances => [.dependencyInstanceId, .integrationId, .nodeId]
  | .observedCapabilities => [.nodeId]
  | .toolCalls => [.toolCallId, .toolId]
  | .toolCallEvents => [.toolCallId]
  | .sessionToolSnapshots => [.sessionThreadId, .toolId]
  | .mcpAccessLeases => [.leaseId, .sessionThreadId]
  | .artifacts => [.artifactId]
  | .artifactVersions => [.artifactId]
  | .artifactBlobs => [.blobHash]
  | .generatedUiBuilds => [.buildId, .artifactId, .sourceBlobHash]
  | .generatedUiStates => [.artifactId]
  | .generatedUiActionRequests => [.actionRequestId, .artifactId]
  | .taskRuns => [.taskRunId, .projectPlacementId, .nodeId, .commandId]

/-- No foreign key without its parent, and no null where the schema has none. -/
structure MeetsSchema (rows : List CoreRow) : Prop where
  referential : schema.Referential rows
  present : ∀ r ∈ rows, ∀ c ∈ notNull r.table, (r.get c).isSome = true

/-- The rows of a Core database. -/
abbrev CoreRows := { rows : List CoreRow // MeetsSchema rows }

end Uprava.Core
