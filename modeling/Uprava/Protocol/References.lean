/-
  File:      Uprava/Protocol/References.lean
  Subject:   References to the objects of Core, the links between what happened, and how a reference
             is written as JSON.
-/
import Uprava.Protocol.Payloads

namespace Uprava.Protocol

open Uprava.Lib (Codec Row)

/-! ## 1. References -/

abbrev BlockId := String

structure TextRange where
  startLine : Option Int64
  endLine : Option Int64
  startOffset : Option Int64
  endOffset : Option Int64
  deriving DecidableEq

inductive UpravaRef where
  | node (nodeId : NodeId)
  | project (projectId : String)
  | placement (placementId : ProjectPlacementId)
  | workspace (placementId : ProjectPlacementId)
  | session (sessionThreadId : SessionThreadId)
  | runtime (runtimeSessionId : RuntimeSessionId)
  | taskRun (taskRunId : TaskRunId)
  | turn (turnId : TurnId)
  | message (messageId : MessageId)
  | messageRange (messageId : MessageId) (range : TextRange)
  | block (blockId : BlockId)
  | artifact (artifactId : String)
  | artifactVersion (artifactId : String) (version : UInt64)
  | deduction (deductionId : DeductionId)
  | event (eventId : EventId) (scopeRef : ScopeRef) (seq : Int64)
  | command (commandId : CommandId)
  | approval (approvalId : ApprovalId)
  | warning (warningKind : String) (commandId : Option CommandId)
  | toolCall (toolCallId : String)
  | file (placementId : ProjectPlacementId) (path : String) (version : Option String)
  | fileRange (placementId : ProjectPlacementId) (path : String) (range : TextRange)
      (version : Option String)
  | terminal (terminalId : String) (placementId : ProjectPlacementId)
  | terminalCommand (terminalCommandId : String) (terminalId : Option String)
  | terminalOutputRange (terminalCommandId : String) (range : TextRange)
  | diffHunk (diffId hunkId : String)
  | workspaceDiff (diffId : String) (placementId : ProjectPlacementId)
  | checkResult (checkRunId : String) (failureId : Option String)
  | workspaceEdit (editId : String) (placementId : Option ProjectPlacementId)
      (path : Option String)
  | traceEvent (traceEventId : String)
  | externalEntity (integrationKind externalId : String)
  | unknown (refType : String) (locator : JsonValue)
  deriving DecidableEq

structure CausalityLinks where
  sourceRefs : List UpravaRef := []
  evidenceRefs : List UpravaRef := []
  causeRefs : List UpravaRef := []
  resultRefs : List UpravaRef := []
  rawRefs : List UpravaRef := []
  deriving DecidableEq

inductive TracePrecision where
  | exact | coarse | agentAuthored | unknown
  deriving DecidableEq

/-! ## 2. A reference as JSON -/

def TextRange.toRow (range : TextRange) : Row Payloads.textRange :=
  (range.startLine, range.endLine, range.startOffset, range.endOffset, ())

def TextRange.ofRow : Row Payloads.textRange → TextRange
  | (startLine, endLine, startOffset, endOffset, ()) =>
    { startLine, endLine, startOffset, endOffset }

def ScopeRef.toPayload : ScopeRef → Σ kind, Row (Payloads.scopeFields kind)
  | .runtime runtimeSessionId => ⟨.runtime, runtimeSessionId, ()⟩
  | .session sessionThreadId => ⟨.session, sessionThreadId, ()⟩
  | .node nodeId => ⟨.node, nodeId, ()⟩
  | .placement projectPlacementId => ⟨.placement, projectPlacementId, ()⟩
  | .taskRun taskRunId => ⟨.taskRun, taskRunId, ()⟩
  | .unknown scope => ⟨.unknown, scope, ()⟩

def ScopeRef.ofPayload : (Σ kind, Row (Payloads.scopeFields kind)) → ScopeRef
  | ⟨.runtime, runtimeSessionId, ()⟩ => .runtime runtimeSessionId
  | ⟨.session, sessionThreadId, ()⟩ => .session sessionThreadId
  | ⟨.node, nodeId, ()⟩ => .node nodeId
  | ⟨.placement, projectPlacementId, ()⟩ => .placement projectPlacementId
  | ⟨.taskRun, taskRunId, ()⟩ => .taskRun taskRunId
  | ⟨.unknown, scope, ()⟩ => .unknown scope

namespace UpravaRef

def toPayload : UpravaRef → Payloads.UpravaRef
  | .node nodeId => ⟨.node, nodeId, ()⟩
  | .project projectId => ⟨.project, projectId, ()⟩
  | .placement placementId => ⟨.placement, placementId, ()⟩
  | .workspace placementId => ⟨.workspace, placementId, ()⟩
  | .session sessionThreadId => ⟨.session, sessionThreadId, ()⟩
  | .runtime runtimeSessionId => ⟨.runtime, runtimeSessionId, ()⟩
  | .taskRun taskRunId => ⟨.taskRun, taskRunId, ()⟩
  | .turn turnId => ⟨.turn, turnId, ()⟩
  | .message messageId => ⟨.message, messageId, ()⟩
  | .messageRange messageId range => ⟨.messageRange, messageId, range.toRow, ()⟩
  | .block blockId => ⟨.block, blockId, ()⟩
  | .artifact artifactId => ⟨.artifact, artifactId, ()⟩
  | .artifactVersion artifactId version => ⟨.artifactVersion, artifactId, version, ()⟩
  | .deduction deductionId => ⟨.deduction, deductionId, ()⟩
  | .event eventId scopeRef seq => ⟨.event, eventId, scopeRef.toPayload, seq, ()⟩
  | .command commandId => ⟨.command, commandId, ()⟩
  | .approval approvalId => ⟨.approval, approvalId, ()⟩
  | .warning warningKind commandId => ⟨.warning, warningKind, commandId, ()⟩
  | .toolCall toolCallId => ⟨.toolCall, toolCallId, ()⟩
  | .file placementId path version => ⟨.file, placementId, path, version, ()⟩
  | .fileRange placementId path range version =>
    ⟨.fileRange, placementId, path, range.toRow, version, ()⟩
  | .terminal terminalId placementId => ⟨.terminal, terminalId, placementId, ()⟩
  | .terminalCommand terminalCommandId terminalId =>
    ⟨.terminalCommand, terminalCommandId, terminalId, ()⟩
  | .terminalOutputRange terminalCommandId range =>
    ⟨.terminalOutputRange, terminalCommandId, range.toRow, ()⟩
  | .diffHunk diffId hunkId => ⟨.diffHunk, diffId, hunkId, ()⟩
  | .workspaceDiff diffId placementId => ⟨.workspaceDiff, diffId, placementId, ()⟩
  | .checkResult checkRunId failureId => ⟨.checkResult, checkRunId, failureId, ()⟩
  | .workspaceEdit editId placementId path => ⟨.workspaceEdit, editId, placementId, path, ()⟩
  | .traceEvent traceEventId => ⟨.traceEvent, traceEventId, ()⟩
  | .externalEntity integrationKind externalId => ⟨.externalEntity, integrationKind, externalId, ()⟩
  | .unknown refType locator => ⟨.unknown, refType, locator, ()⟩

def ofPayload : Payloads.UpravaRef → UpravaRef
  | ⟨.node, nodeId, ()⟩ => .node nodeId
  | ⟨.project, projectId, ()⟩ => .project projectId
  | ⟨.placement, placementId, ()⟩ => .placement placementId
  | ⟨.workspace, placementId, ()⟩ => .workspace placementId
  | ⟨.session, sessionThreadId, ()⟩ => .session sessionThreadId
  | ⟨.runtime, runtimeSessionId, ()⟩ => .runtime runtimeSessionId
  | ⟨.taskRun, taskRunId, ()⟩ => .taskRun taskRunId
  | ⟨.turn, turnId, ()⟩ => .turn turnId
  | ⟨.message, messageId, ()⟩ => .message messageId
  | ⟨.messageRange, messageId, range, ()⟩ => .messageRange messageId (.ofRow range)
  | ⟨.block, blockId, ()⟩ => .block blockId
  | ⟨.artifact, artifactId, ()⟩ => .artifact artifactId
  | ⟨.artifactVersion, artifactId, version, ()⟩ => .artifactVersion artifactId version
  | ⟨.deduction, deductionId, ()⟩ => .deduction deductionId
  | ⟨.event, eventId, scopeRef, seq, ()⟩ => .event eventId (.ofPayload scopeRef) seq
  | ⟨.command, commandId, ()⟩ => .command commandId
  | ⟨.approval, approvalId, ()⟩ => .approval approvalId
  | ⟨.warning, warningKind, commandId, ()⟩ => .warning warningKind commandId
  | ⟨.toolCall, toolCallId, ()⟩ => .toolCall toolCallId
  | ⟨.file, placementId, path, version, ()⟩ => .file placementId path version
  | ⟨.fileRange, placementId, path, range, version, ()⟩ =>
    .fileRange placementId path (.ofRow range) version
  | ⟨.terminal, terminalId, placementId, ()⟩ => .terminal terminalId placementId
  | ⟨.terminalCommand, terminalCommandId, terminalId, ()⟩ =>
    .terminalCommand terminalCommandId terminalId
  | ⟨.terminalOutputRange, terminalCommandId, range, ()⟩ =>
    .terminalOutputRange terminalCommandId (.ofRow range)
  | ⟨.diffHunk, diffId, hunkId, ()⟩ => .diffHunk diffId hunkId
  | ⟨.workspaceDiff, diffId, placementId, ()⟩ => .workspaceDiff diffId placementId
  | ⟨.checkResult, checkRunId, failureId, ()⟩ => .checkResult checkRunId failureId
  | ⟨.workspaceEdit, editId, placementId, path, ()⟩ => .workspaceEdit editId placementId path
  | ⟨.traceEvent, traceEventId, ()⟩ => .traceEvent traceEventId
  | ⟨.externalEntity, integrationKind, externalId, ()⟩ => .externalEntity integrationKind externalId
  | ⟨.unknown, refType, locator, ()⟩ => .unknown refType locator

theorem ofPayload_toPayload (reference : UpravaRef) :
    ofPayload reference.toPayload = reference := by
  cases reference with
  | event eventId scopeRef seq => cases scopeRef <;> rfl
  | _ => rfl

/-- **A reference reads back from its JSON**, so references of one JSON are one reference. -/
def codec : Codec UpravaRef where
  encode reference := Payloads.upravaRefCodec.encode reference.toPayload
  decode v := (Payloads.upravaRefCodec.decode v).map ofPayload
  decode_encode reference := by
    rw [Codec.decode_encode, Option.map_some, ofPayload_toPayload]

def toJson (reference : UpravaRef) : JsonValue := codec.encode reference

theorem toJson_inj {a b : UpravaRef} : a.toJson = b.toJson ↔ a = b := by
  constructor
  · intro h
    have hdecode := congrArg codec.decode h
    rw [toJson, toJson, codec.decode_encode, codec.decode_encode] at hdecode
    exact Option.some.inj hdecode
  · exact congrArg _

end UpravaRef

end Uprava.Protocol
