/-
  File:      Uprava/Core/Deletion.lean
  Subject:   The deletion of a placement and of a Node: the statements of the two calls, and when
             they remove all that belongs to it and nothing else.

  The statements are lists written table by table. `placementPurge` and `nodePurge` show that each
  list deletes from a table once and takes only what leads to the row; `gaps` and `lateKeys` are what
  the lists miss of the schema: the references no statement follows, and the keys whose children are
  still there when their parents are deleted.
-/
import Uprava.Core.Database
import Uprava.Core.Schema

namespace Uprava.Core

open Uprava.Protocol
open Uprava.Lib.Relational

abbrev CoreCond := Cond CoreTable CoreColumn

abbrev CoreStatement := Statement CoreTable CoreColumn

/-! ## 1. The statements -/

/-- `session_thread_id in (select session_thread_id from session_threads where ..)`. -/
def inSessions (condition : CoreCond) : CoreCond :=
  .inSelect .sessionThreadId .sessionThreads .sessionThreadId condition

def inRuntimeSessions (condition : CoreCond) : CoreCond :=
  .inSelect .runtimeSessionId .runtimeSessions .runtimeSessionId condition

/-- `session_thread_id in (..)`, the sessions of the placement. -/
def ofPlacementSession : CoreCond := inSessions (.param .projectPlacementId)

/-- `runtime_session_id in (..)`, the runtimes of the placement's sessions. -/
def ofPlacementRuntime : CoreCond := inRuntimeSessions ofPlacementSession

def ofPlacementCommand : CoreCond :=
  .or (.or (.param .projectPlacementId) ofPlacementSession) ofPlacementRuntime

def placementStatements : List CoreStatement :=
  [ ⟨.events, .or (.or (.inSelect .commandId .commands .commandId ofPlacementCommand)
      ofPlacementRuntime) ofPlacementSession⟩,
    ⟨.warningAcknowledgements, ofPlacementSession⟩,
    ⟨.approvals, ofPlacementSession⟩,
    ⟨.messages, ofPlacementSession⟩,
    ⟨.turns, ofPlacementSession⟩,
    ⟨.taskRuns, .param .projectPlacementId⟩,
    ⟨.commands, ofPlacementCommand⟩,
    ⟨.runtimeSessions, ofPlacementSession⟩,
    ⟨.sessionThreads, .param .projectPlacementId⟩ ]

/-- `project_placement_id in (..)`, the placements of the Node. A join is read as the selects it
    joins. -/
def ofNodePlacement : CoreCond :=
  .inSelect .projectPlacementId .projectPlacements .projectPlacementId (.param .nodeId)

def ofNodeSession : CoreCond := inSessions ofNodePlacement

def ofNodeRuntime : CoreCond := inRuntimeSessions ofNodeSession

def nodeStatements : List CoreStatement :=
  [ ⟨.events, .or (.or (.param .nodeId) ofNodeRuntime) ofNodeSession⟩,
    ⟨.warningAcknowledgements, ofNodeSession⟩,
    ⟨.approvals, ofNodeSession⟩,
    ⟨.messages, ofNodeSession⟩,
    ⟨.turns, ofNodeSession⟩,
    ⟨.runtimeSessions, ofNodeSession⟩,
    ⟨.sessionThreads, ofNodePlacement⟩,
    ⟨.taskRuns, .param .nodeId⟩,
    ⟨.commands, .param .targetNodeId⟩,
    ⟨.deletedWorkspaceBindings, .param .nodeId⟩,
    ⟨.projectPlacements, .param .nodeId⟩,
    ⟨.nodeCapabilities, .param .nodeId⟩,
    ⟨.nodeEnrollments, .param .claimedNodeId⟩ ]

/-! ## 2. The calls -/

def isPlacement (id : ProjectPlacementId) (r : CoreRow) : Bool :=
  r.table == .projectPlacements && r.get .projectPlacementId == some id

def isNode (id : NodeId) (r : CoreRow) : Bool :=
  r.table == .nodes && r.get .nodeId == some id

def placementMissing : AppError := .notFound "placement.not_found" "Placement not found"

def nodeMissing : AppError := .notFound "node.not_found" "Node not found"

/-- The statements, then the row itself, which has to be there still. -/
def deleteAggregate (missing : AppError) (statements : List CoreStatement) (root : CoreTable)
    (key : CoreColumn) (rows : List CoreRow) (id : String) : Except AppError (List CoreRow) := do
  let rows ← dbResult "foreign key" (schema.execute id statements rows)
  let selected := Statement.selects ⟨root, .param key⟩ rows id
  let rows' ← dbResult "foreign key" (schema.delete rows selected)
  if rows.any selected then .ok rows' else .error missing

/-- The tombstone that keeps the Node from reporting the workspace again, where there is none. -/
def tombstone (rows : List CoreRow) (nodeId : NodeId) (workspacePath : String) : List CoreRow :=
  if rows.any (fun r => r.table == .deletedWorkspaceBindings && r.get .nodeId == some nodeId &&
      r.get .workspacePath == some workspacePath) then []
  else [⟨.deletedWorkspaceBindings, [(.nodeId, nodeId), (.workspacePath, workspacePath)]⟩]

/-- `insert into deleted_workspace_bindings .. on conflict .. do update`. -/
def insertTombstone (rows : List CoreRow) (nodeId : NodeId) (workspacePath : String) :
    Option (List CoreRow) :=
  (tombstone rows nodeId workspacePath).foldlM schema.insert rows

def deletePlacement (rows : List CoreRow) (id : ProjectPlacementId) :
    Except AppError (List CoreRow) :=
  match rows.find? (isPlacement id) with
  | none => .error placementMissing
  | some placement => do
    let nodeId ← dbResult "node_id" (placement.get .nodeId)
    let workspacePath ← dbResult "workspace_path" (placement.get .workspacePath)
    let rows ← dbResult "foreign key" (insertTombstone rows nodeId workspacePath)
    deleteAggregate placementMissing placementStatements .projectPlacements .projectPlacementId
      rows id

def deleteNode (rows : List CoreRow) (id : NodeId) : Except AppError (List CoreRow) :=
  if rows.any (isNode id) then
    deleteAggregate nodeMissing nodeStatements .nodes .nodeId rows id
  else .error nodeMissing

/-! ## 3. What the lists take, and what they miss -/

/-- The statement in which a table loses rows, by itself or by a cascade. -/
def placementStage : CoreTable → Nat
  | .events | .eventPublicationOutbox => 0
  | .warningAcknowledgements => 1
  | .approvals => 2
  | .messages => 3
  | .turns => 4
  | .taskRuns => 5
  | .commands | .commandDispatchOutbox => 6
  | .runtimeSessions => 7
  | .sessionThreads | .scheduledMessages | .deductions | .causalityNarratives
  | .causalityNarrativeVersions | .sessionToolSnapshots | .mcpAccessLeases => 8
  | .projectPlacements | .jobs | .jobRuns => 9
  | _ => 10

def placementPurge : Purge schema where
  root := .projectPlacements
  rootKey := .projectPlacementId
  statements := placementStatements ++ [⟨.projectPlacements, .param .projectPlacementId⟩]
  stage := placementStage
  stages := by decide
  cascade_stage := by decide
  reads := by decide
  linked := by decide
  removesRoot := by decide

def nodeStage : CoreTable → Nat
  | .events | .eventPublicationOutbox => 0
  | .warningAcknowledgements => 1
  | .approvals => 2
  | .messages => 3
  | .turns => 4
  | .runtimeSessions => 5
  | .sessionThreads | .scheduledMessages | .deductions | .causalityNarratives
  | .causalityNarrativeVersions | .sessionToolSnapshots | .mcpAccessLeases => 6
  | .taskRuns => 7
  | .commands | .commandDispatchOutbox => 8
  | .deletedWorkspaceBindings => 9
  | .projectPlacements | .jobs | .jobRuns => 10
  | .nodeCapabilities => 11
  | .nodeEnrollments => 12
  | .nodes | .observedCapabilities => 13
  | _ => 14

def nodePurge : Purge schema where
  root := .nodes
  rootKey := .nodeId
  statements := nodeStatements ++ [⟨.nodes, .param .nodeId⟩]
  stage := nodeStage
  stages := by decide
  cascade_stage := by decide
  reads := by decide
  linked := by decide
  removesRoot := by decide

section Calls

variable {rows rows' : List CoreRow} {missing : AppError} {statements : List CoreStatement}
  {root : CoreTable} {key : CoreColumn} {id : String}

/-- The row is there when its own statement comes, so the call is the run of the whole list. -/
theorem deleteAggregate_eq_ok (hkey : isHard schema.foreignKeys key = true)
    (hcascade : ∀ fk ∈ schema.foreignKeys, fk.onDelete = .cascade → fk.child ≠ root)
    (hstatements : ∀ σ ∈ statements, σ.table ≠ root)
    (hroot : ∃ q ∈ rows, q.table = root ∧ q.get key = some id) :
    deleteAggregate missing statements root key rows id = .ok rows' ↔
      schema.execute id (statements ++ [⟨root, .param key⟩]) rows = some rows' := by
  rw [execute_append, deleteAggregate]
  cases hrun : schema.execute id statements rows with
  | none => simp [dbResult, bind, Except.bind]
  | some next =>
    obtain ⟨q, hq, htable, hget⟩ := hroot
    obtain ⟨q', hq', halike⟩ := alike_of_execute hcascade hstatements hrun hq htable
    have hany : next.any (Statement.selects ⟨root, .param key⟩ next id) = true := by
      refine List.any_eq_true.mpr ⟨q', hq', ?_⟩
      rw [Statement.selects, Cond.eval, halike.table, htable, halike.get key hkey, hget]
      simp
    simp only [dbResult, bind, Except.bind, Option.bind, Schema.execute]
    cases schema.delete next (Statement.selects ⟨root, .param key⟩ next id) with
    | none => simp
    | some left => simp [hany]

theorem any_isNode : rows.any (isNode id) = true ↔
    ∃ q ∈ rows, q.table = .nodes ∧ q.get .nodeId = some id := by
  simp [isNode]

theorem deleteNode_eq_ok (hnode : rows.any (isNode id) = true) :
    deleteNode rows id = .ok rows' ↔ schema.execute id nodePurge.statements rows = some rows' := by
  rw [deleteNode, if_pos hnode]
  exact deleteAggregate_eq_ok (by decide) (by decide) (by decide) (any_isNode.mp hnode)

/-- A tombstone and its Node lead to no placement. -/
def besidePlacements : CoreTable → Bool
  | .nodes | .deletedWorkspaceBindings => true
  | _ => false

theorem apart_besidePlacements : Apart schema .projectPlacements besidePlacements := by
  unfold Apart
  decide

theorem hasParents_tombstone {nodeId : NodeId} {workspacePath : String}
    (hnode : ∃ q ∈ rows, q.table = .nodes ∧ q.get .nodeId = some nodeId) :
    schema.hasParents rows ⟨.deletedWorkspaceBindings,
      [(.nodeId, nodeId), (.workspacePath, workspacePath)]⟩ = true := by
  refine hasParents_iff.mpr fun fk hfk htable v hv => ?_
  have honly : ∀ fk ∈ schema.foreignKeys, fk.child = .deletedWorkspaceBindings →
      fk = ofNode .deletedWorkspaceBindings := by decide
  obtain rfl := honly fk hfk htable.symm
  have hsame : nodeId = v := Option.some.inj hv
  rw [← hsame]
  exact hnode

theorem insertTombstone_eq {nodeId : NodeId} {workspacePath : String}
    (hnode : ∃ q ∈ rows, q.table = .nodes ∧ q.get .nodeId = some nodeId) :
    insertTombstone rows nodeId workspacePath =
      some (rows ++ tombstone rows nodeId workspacePath) := by
  unfold insertTombstone tombstone
  split
  · simp
  · rw [List.foldlM_cons, Schema.insert, if_pos (hasParents_tombstone hnode)]
    rfl

theorem execute_tombstone {nodeId : NodeId} {workspacePath : String} :
    schema.execute id placementPurge.statements (rows ++ tombstone rows nodeId workspacePath) =
      (schema.execute id placementPurge.statements rows).map
        (· ++ tombstone rows nodeId workspacePath) := by
  unfold tombstone
  split
  · simp
  · exact apart_besidePlacements.execute_append rfl placementPurge.linked

end Calls

/-! ## 4. The call on a placement -/

theorem find_isPlacement {rows : List CoreRow} {id : ProjectPlacementId} {placement : CoreRow}
    (hfind : rows.find? (isPlacement id) = some placement) :
    placement ∈ rows ∧ placement.table = .projectPlacements ∧
      placement.get .projectPlacementId = some id := by
  have hsel := List.find?_some hfind
  rw [isPlacement, Bool.and_eq_true, beq_iff_eq, beq_iff_eq] at hsel
  exact ⟨List.mem_of_find?_eq_some hfind, hsel⟩

/-- **The call on a placement**: the list runs on the rows as they are, and the tombstone stays. -/
theorem deletePlacement_eq_ok (db : CoreRows) {id : ProjectPlacementId} {placement : CoreRow}
    (hfind : db.1.find? (isPlacement id) = some placement) :
    ∃ nodeId workspacePath, placement.get .nodeId = some nodeId ∧
      placement.get .workspacePath = some workspacePath ∧
      (∃ q ∈ db.1, q.table = .nodes ∧ q.get .nodeId = some nodeId) ∧
      ∀ rows', deletePlacement db.1 id = .ok rows' ↔ ∃ left,
        schema.execute id placementPurge.statements db.1 = some left ∧
          rows' = left ++ tombstone db.1 nodeId workspacePath := by
  obtain ⟨rows, hmeets⟩ := db
  dsimp only at hfind ⊢
  obtain ⟨hmem, htable, hid⟩ := find_isPlacement hfind
  have hpresent : ∀ c ∈ notNull .projectPlacements, (placement.get c).isSome = true := by
    rw [← htable]
    exact hmeets.present placement hmem
  obtain ⟨nodeId, hnodeId⟩ := Option.isSome_iff_exists.mp (hpresent .nodeId (by decide))
  obtain ⟨workspacePath, hpath⟩ :=
    Option.isSome_iff_exists.mp (hpresent .workspacePath (by decide))
  have hnode : ∃ q ∈ rows, q.table = .nodes ∧ q.get .nodeId = some nodeId :=
    hmeets.referential placement hmem (ofNode .projectPlacements) (by decide) htable nodeId hnodeId
  refine ⟨nodeId, workspacePath, hnodeId, hpath, hnode, fun rows' => ?_⟩
  have hroot : ∃ q ∈ rows ++ tombstone rows nodeId workspacePath,
      q.table = .projectPlacements ∧ q.get .projectPlacementId = some id :=
    ⟨placement, List.mem_append_left _ hmem, htable, hid⟩
  have hrun : deletePlacement rows id =
      deleteAggregate placementMissing placementStatements .projectPlacements .projectPlacementId
        (rows ++ tombstone rows nodeId workspacePath) id := by
    simp only [deletePlacement, hfind, hnodeId, hpath, insertTombstone_eq hnode, dbResult, bind,
      Except.bind]
  rw [hrun, deleteAggregate_eq_ok (by decide) (by decide) (by decide) hroot]
  have hlist := (@execute_tombstone rows id nodeId workspacePath)
  rw [show placementStatements ++ [⟨.projectPlacements, .param .projectPlacementId⟩] =
    placementPurge.statements from rfl, hlist, Option.map_eq_some_iff]
  exact exists_congr fun left => and_congr_right fun _ => eq_comm

/-! ## 5. Complete deletions -/

/-- The placement is deleted with all that belongs to it, everything else is as it was, and the
    tombstone of its workspace stands beside it. -/
def PlacementDeleted (rows : List CoreRow) (id : ProjectPlacementId) : Prop :=
  ∃ left placement nodeId workspacePath, rows.find? (isPlacement id) = some placement ∧
    placement.get .nodeId = some nodeId ∧ placement.get .workspacePath = some workspacePath ∧
    deletePlacement rows id = .ok (left ++ tombstone rows nodeId workspacePath) ∧
    Purged schema .projectPlacements .projectPlacementId rows id left

/-- The Node is deleted with all that belongs to it, and everything else is as it was. -/
def NodeDeleted (rows : List CoreRow) (id : NodeId) : Prop :=
  ∃ left, deleteNode rows id = .ok left ∧ Purged schema .nodes .nodeId rows id left

/-- The keys a deletion of a placement fails on. -/
example : placementPurge.lateKeys =
    [ofCommand .scheduledMessages,
      references .scheduledMessages .turnId .turns .turnId,
      ofSession .jobRuns,
      references .jobRuns .runtimeSessionId .runtimeSessions .runtimeSessionId,
      ofCommand .jobRuns,
      references .jobRuns .turnId .turns .turnId,
      ofCommand .deductions] := by decide

/-! ## 6. Runs -/

/-- A Node with a placement, a session with its turn and their events, a message that waits, a job
    that ran no session yet, and a task run. -/
def inventoryRows (node placement session runtime start turn : String) : List CoreRow :=
  [ ⟨.nodes, [(.nodeId, node)]⟩,
    ⟨.nodeCapabilities, [(.nodeId, node)]⟩,
    ⟨.observedCapabilities, [(.nodeId, node)]⟩,
    ⟨.projectPlacements, [(.projectPlacementId, placement), (.nodeId, node),
      (.workspacePath, "/workspace")]⟩,
    ⟨.sessionThreads, [(.sessionThreadId, session), (.projectPlacementId, placement),
      (.runtimeSessionId, runtime)]⟩,
    ⟨.runtimeSessions, [(.runtimeSessionId, runtime), (.sessionThreadId, session)]⟩,
    ⟨.commands, [(.commandId, start), (.targetNodeId, node), (.sessionThreadId, session),
      (.runtimeSessionId, runtime), (.projectPlacementId, placement)]⟩,
    ⟨.commandDispatchOutbox, [(.commandId, start), (.targetNodeId, node)]⟩,
    ⟨.events, [(.eventId, start), (.nodeId, node), (.runtimeSessionId, runtime),
      (.sessionThreadId, session), (.commandId, start), (.scopeRuntimeSessionId, runtime)]⟩,
    ⟨.eventPublicationOutbox, [(.eventId, start)]⟩,
    ⟨.turns, [(.turnId, turn), (.sessionThreadId, session), (.commandId, start)]⟩,
    ⟨.messages, [(.messageId, turn), (.sessionThreadId, session), (.turnId, turn),
      (.sourceEventId, start)]⟩,
    ⟨.scheduledMessages, [(.scheduledMessageId, turn), (.sessionThreadId, session)]⟩,
    ⟨.jobs, [(.jobId, start), (.projectPlacementId, placement)]⟩,
    ⟨.jobRuns, [(.jobRunId, turn), (.jobId, start)]⟩,
    ⟨.taskRuns, [(.taskRunId, turn), (.projectPlacementId, placement), (.nodeId, node),
      (.commandId, start)]⟩ ]

/-- Beside it a Node with an empty session. -/
def twoInventories : CoreRows :=
  ⟨inventoryRows "node-1" "placement-1" "session-1" "runtime-1" "command-1" "turn-1" ++
    [⟨.nodes, [(.nodeId, "node-2")]⟩,
    ⟨.projectPlacements, [(.projectPlacementId, "placement-2"), (.nodeId, "node-2"),
      (.workspacePath, "/workspace")]⟩,
    ⟨.sessionThreads, [(.sessionThreadId, "session-2"), (.projectPlacementId, "placement-2"),
      (.runtimeSessionId, "runtime-2")]⟩,
    ⟨.runtimeSessions, [(.runtimeSessionId, "runtime-2"), (.sessionThreadId, "session-2")]⟩],
    ⟨by decide, by decide⟩⟩

/-- The session was asked for a deduction. -/
def deducedRows : CoreRows :=
  ⟨inventoryRows "node-1" "placement-1" "session-1" "runtime-1" "command-1" "turn-1" ++
    [⟨.commands, [(.commandId, "command-2"), (.targetNodeId, "node-1"),
      (.sessionThreadId, "session-1"), (.runtimeSessionId, "runtime-1"),
      (.projectPlacementId, "placement-1")]⟩,
    ⟨.deductions, [(.deductionId, "deduction-1"), (.sessionThreadId, "session-1"),
      (.commandId, "command-2")]⟩],
    ⟨by decide, by decide⟩⟩

/-- A scheduled message of the session was sent as a turn. -/
def sentRows : CoreRows :=
  ⟨inventoryRows "node-1" "placement-1" "session-1" "runtime-1" "command-1" "turn-1" ++
    [⟨.scheduledMessages, [(.scheduledMessageId, "scheduled-2"), (.sessionThreadId, "session-1"),
      (.commandId, "command-1"), (.turnId, "turn-1")]⟩],
    ⟨by decide, by decide⟩⟩

end Uprava.Core
