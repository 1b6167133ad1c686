/-
  File:      Uprava/Core/NodeCredentials.lean
  Subject:   Node credentials: enrollment and claim, the check of a credential, heartbeats,
             rotation, revocation, and the control sockets a credential opens, statement by
             statement.

  A credential is checked once, at the start of a heartbeat or of a control socket; what follows is
  a call of its own (`NodeCall`, or a socket of `Lifecycle`). `NodeAccess.log` is what has happened,
  the newest first, and `Lawful` what is asked of it. The hash of a secret is a parameter.

  * `claims_single`: an enrollment answers at most one claim with a credential, in every run.
  * `rotations_final`: where a rotation draws a secret that hashes to none of the Node's earlier
    ones, no credential of before it is accepted again.
  * `node_access_lawful`: where, besides, nothing that the Node was authorised for is under way when
    it is revoked, it is never reachable again, and neither heard nor sent a command.
-/
import Uprava.Core.Batch
import Uprava.Core.CommandLifecycle
import Uprava.Core.ToolScopes

namespace Uprava.Core

open Uprava.Protocol
open Uprava.Lib (Schema Table run run_inv run_inv_of_meets Meets meets_of_check Throughout)
open Uprava.Lib.Table

/-! ## 1. Tables -/

inductive EnrollmentState where
  | unregistered | pendingUserApproval | approved | registered | expired | rejected | revoked
  deriving DecidableEq

def formatEnrollmentState : EnrollmentState → String
  | .unregistered => "unregistered"
  | .pendingUserApproval => "pending_user_approval"
  | .approved => "approved"
  | .registered => "registered"
  | .expired => "expired"
  | .rejected => "rejected"
  | .revoked => "revoked"

/-- The columns of `nodes` that say who a Node is and whether it is there. -/
structure EnrolledNodeRow where
  nodeId : NodeId
  displayName : String
  presence : NodePresence
  lastHeartbeatAt : Option DateTime
  credentialHash : Option String
  updatedAt : DateTime
  deriving DecidableEq

instance : Schema EnrolledNodeRow where
  clash a b := a.nodeId = b.nodeId
  dec _ _ := inferInstanceAs (Decidable (_ = _))
  symm := Eq.symm

structure NodeEnrollmentRow where
  enrollmentId : EnrollmentId
  displayName : String
  pairingCodeHash : String
  status : EnrollmentState
  expiresAt : DateTime
  claimedNodeId : Option NodeId
  updatedAt : DateTime
  approvedAt : Option DateTime
  deriving DecidableEq

instance : Schema NodeEnrollmentRow where
  clash a b := a.enrollmentId = b.enrollmentId
  dec _ _ := inferInstanceAs (Decidable (_ = _))
  symm := Eq.symm

/-- `status in ('pending_user_approval', 'approved')` -/
def NodeEnrollmentRow.isOpen (r : NodeEnrollmentRow) : Bool :=
  r.status == .pendingUserApproval || r.status == .approved

structure EnrollmentConfig where
  autoApproveEnrollments : Bool
  autoApproveNodeName : Option String
  maxPendingEnrollments : Int
  enrollmentTtlSeconds : Int
  staleAfterSeconds : Int
  offlineAfterSeconds : Int
  deriving DecidableEq

/-! ## 2. Requests -/

structure NodeEnrollmentClaimRequest where
  enrollmentId : EnrollmentId
  pairingCode : String
  deriving DecidableEq

structure NodeEnrollmentClaimResponse where
  accepted : Bool
  pending : Bool
  nodeId : Option NodeId
  credential : Option String
  message : String
  deriving DecidableEq

/-- A heartbeat: who it is from, and the Nodes that its capabilities and its dependencies name. -/
structure NodeHeartbeatRequest where
  nodeId : Option NodeId
  displayName : String
  observedCapabilities : List NodeId
  dependencyStatuses : List NodeId
  deriving DecidableEq

/-- A claim that passed its checks: the Node it makes, and the credential it is answered with. -/
structure ApprovedClaim where
  enrollmentId : EnrollmentId
  displayName : String
  nodeId : NodeId
  credential : String
  now : DateTime
  deriving DecidableEq

/-- What is left of a request of a Node. -/
inductive NodeCall where
  /-- `claim_enrollment`: `expire_enrollment`, the transaction, and the read after a rollback. -/
  | claimExpire (enrollmentId : EnrollmentId) (now : DateTime)
  | claimCommit (claim : ApprovedClaim)
  | claimReread (enrollmentId : EnrollmentId) (now : DateTime)
  /-- `node_heartbeat` after its checks. -/
  | heartbeatUpsert (nodeId : NodeId) (displayName : String) (now : DateTime)
  /-- `node_control` after its check: the socket that is upgraded. -/
  | controlUpgrade (nodeId : NodeId)
  deriving DecidableEq

/-- What is left of a frame that no `Call` handles: the events of a batch, or a terminal's frame. -/
inductive FrameCall where
  | batch (events : List (EventEnvelope × MessageId)) (accepted : List EventId)
  | terminal
  deriving DecidableEq

/-- What has happened. -/
inductive NodeFact where
  | claimAnswered (enrollmentId : EnrollmentId) (response : NodeEnrollmentClaimResponse)
  | rotated (nodeId : NodeId) (credential : String)
  | revoked (nodeId : NodeId)
  /-- A credential passed its check. -/
  | accepted (nodeId : NodeId) (credential : String)
  /-- A step was taken for a control frame of the Node. -/
  | frameProcessed (nodeId : NodeId)
  | dispatched (nodeId : NodeId) (commandId : CommandId)
  deriving DecidableEq

/-- Core as Nodes see it. -/
structure NodeAccess where
  nodes : Table EnrolledNodeRow := .empty
  enrollments : Table NodeEnrollmentRow := .empty
  authFailures : List (NodeId × DateTime) := []
  core : Lifecycle
  calls : List NodeCall := []
  frames : List (Nat × FrameCall) := []
  log : List NodeFact := []

def NodeAccess.node? (s : NodeAccess) (nodeId : NodeId) : Option EnrolledNodeRow :=
  s.nodes.find? (·.nodeId == nodeId)

def NodeAccess.enrollment? (s : NodeAccess) (enrollmentId : EnrollmentId) :
    Option NodeEnrollmentRow :=
  s.enrollments.find? (·.enrollmentId == enrollmentId)

section Model

variable (hash : String → String) (config : EnrollmentConfig)

/-! ## 3. Enrollment -/

/-- The enrollments after those that are due have expired. -/
def expireDueEnrollments (enrollments : Table NodeEnrollmentRow) (now : DateTime) :
    Table NodeEnrollmentRow :=
  enrollments.update (fun r => r.isOpen && r.expiresAt ≤ now)
    (fun r => { r with status := .expired, updatedAt := now }) ⟨fun _ _ => Iff.rfl⟩

/-- An enrollment that a claim can still take. -/
def NodeEnrollmentRow.isClaimable (now : DateTime) (r : NodeEnrollmentRow) : Bool :=
  r.isOpen && r.claimedNodeId.isNone && now < r.expiresAt

/-- The row `create_enrollment` inserts, unless too many enrollments are pending. -/
def newEnrollment (s : NodeAccess) (displayName : String) (enrollmentId : EnrollmentId)
    (pairingCode : String) (now : DateTime) : Except AppError NodeEnrollmentRow :=
  let name := trim displayName
  let pending := s.enrollments.select (·.isClaimable now)
  let known := (s.nodes.select fun r => r.displayName == name && r.presence != .revoked).length +
    (pending.filter (·.displayName == name)).length
  let approved := config.autoApproveEnrollments ||
    (config.autoApproveNodeName == some name && known == 0)
  if max config.maxPendingEnrollments 1 ≤ (pending.length : Int) then
    .error (.rateLimited "node_enrollment.pending_limit" "Too many pending enrollment requests")
  else .ok
    { enrollmentId
      displayName := name
      pairingCodeHash := hash pairingCode
      status := if approved then .approved else .pendingUserApproval
      expiresAt := now + config.enrollmentTtlSeconds
      claimedNodeId := none
      updatedAt := now
      approvedAt := if approved then some now else none }

/-- `create_enrollment`, which one request at a time runs. -/
def createEnrollment (s : NodeAccess) (displayName : String) (enrollmentId : EnrollmentId)
    (pairingCode : String) (now : DateTime) : NodeAccess :=
  if isBlank displayName then s
  else
    let s := { s with enrollments := expireDueEnrollments s.enrollments now }
    match newEnrollment hash config s displayName enrollmentId pairingCode now with
    | .error _ => s
    | .ok row => { s with enrollments := (s.enrollments.insert? row).getD s.enrollments }

/-- The update of `approve_node_enrollment`. -/
def approveNodeEnrollment (enrollments : Table NodeEnrollmentRow) (enrollmentId : EnrollmentId)
    (now : DateTime) : Table NodeEnrollmentRow :=
  enrollments.update
    (fun r => r.enrollmentId == enrollmentId && r.status == .pendingUserApproval &&
      r.approvedAt.isNone && now < r.expiresAt)
    (fun r => { r with status := .approved, approvedAt := some now, updatedAt := now })
    ⟨fun _ _ => Iff.rfl⟩

/-- `expire_enrollment` -/
def expireEnrollment (enrollments : Table NodeEnrollmentRow) (enrollmentId : EnrollmentId)
    (now : DateTime) : Table NodeEnrollmentRow :=
  enrollments.update (fun r => r.enrollmentId == enrollmentId && r.isOpen)
    (fun r => { r with status := .expired, updatedAt := now }) ⟨fun _ _ => Iff.rfl⟩

/-- What a claim is answered with where it gets no credential. -/
def withoutCredential (accepted pending : Bool) (nodeId : Option NodeId) (message : String) :
    NodeEnrollmentClaimResponse :=
  ⟨accepted, pending, nodeId, none, message⟩

def alreadyClaimed : String := "Enrollment already claimed; existing credential is not returned"

/-- `claim_enrollment` up to its first write: the error or the answer it ends with, or the call that
    is left. -/
def checkClaim (s : NodeAccess) (request : NodeEnrollmentClaimRequest) (nodeId : NodeId)
    (credential : String) (now : DateTime) :
    Except AppError (NodeEnrollmentClaimResponse ⊕ NodeCall) :=
  match s.enrollment? request.enrollmentId with
  | none => .error (.notFound "node_enrollment.not_found" "Enrollment not found")
  | some row =>
    if row.expiresAt ≤ now then .ok (.inr (.claimExpire request.enrollmentId now))
    else if row.pairingCodeHash ≠ hash request.pairingCode then
      .error (.auth "auth_dev.invalid_pairing_code" "Pairing code is invalid")
    else if row.status = .registered then
      .ok (.inl (withoutCredential true false row.claimedNodeId alreadyClaimed))
    else if row.status = .expired ∨ row.status = .rejected ∨ row.status = .revoked then
      .ok (.inl (withoutCredential false false none
        ("Enrollment is " ++ formatEnrollmentState row.status)))
    else if row.approvedAt.isSome || row.status == .approved || config.autoApproveEnrollments then
      .ok (.inr (.claimCommit ⟨request.enrollmentId, row.displayName, nodeId, credential, now⟩))
    else .ok (.inl (withoutCredential false true none "Enrollment is waiting for approval"))

/-- The row a claim inserts. -/
def ApprovedClaim.nodeRow (c : ApprovedClaim) : EnrolledNodeRow where
  nodeId := c.nodeId
  displayName := c.displayName
  presence := .offline
  lastHeartbeatAt := none
  credentialHash := some (hash c.credential)
  updatedAt := c.now

/-- The row its guarded update takes. -/
def ApprovedClaim.takes (c : ApprovedClaim) (r : NodeEnrollmentRow) : Bool :=
  r.enrollmentId == c.enrollmentId && r.isClaimable c.now

def ApprovedClaim.register (c : ApprovedClaim) (r : NodeEnrollmentRow) : NodeEnrollmentRow :=
  { r with status := .registered, claimedNodeId := some c.nodeId, updatedAt := c.now }

/-- The statements of the transaction of `claim_enrollment`: nothing when the insert fails, and
    `some none` when the update takes no row and the transaction is rolled back. -/
def claimTransaction (s : NodeAccess) (c : ApprovedClaim) :
    Option (Option (Table EnrolledNodeRow × Table NodeEnrollmentRow)) :=
  (s.nodes.insert? (c.nodeRow hash)).map fun nodes =>
    if (s.enrollments.select c.takes).isEmpty then none
    else some (nodes, s.enrollments.update c.takes c.register ⟨fun _ _ => Iff.rfl⟩)

def ApprovedClaim.response (c : ApprovedClaim) : NodeEnrollmentClaimResponse :=
  ⟨true, false, some c.nodeId, some c.credential, "Enrollment claimed"⟩

/-- What a claim is answered with after its rollback. -/
def rolledBackResponse (row : NodeEnrollmentRow) (now : DateTime) : NodeEnrollmentClaimResponse :=
  if row.expiresAt ≤ now then withoutCredential false false none "Enrollment expired"
  else withoutCredential row.claimedNodeId.isSome (row.status == .pendingUserApproval)
    row.claimedNodeId alreadyClaimed

/-! ## 4. Credentials -/

/-- `AUTH_FAILURE_LIMIT` -/
def authFailureLimit : Nat := 10

/-- `AUTH_FAILURE_WINDOW_SECONDS` -/
def authFailureWindowSeconds : Int := 60

/-- The failures of the last window that count against the Node. -/
def recentFailures (s : NodeAccess) (nodeId : NodeId) (now : DateTime) : List (NodeId × DateTime) :=
  s.authFailures.filter fun f => f.1 == nodeId && now - authFailureWindowSeconds < f.2

def recordAuthFailure (s : NodeAccess) (nodeId : NodeId) (now : DateTime) : NodeAccess :=
  { s with authFailures := s.authFailures ++ [(nodeId, now)] }

def clearAuthFailures (s : NodeAccess) (nodeId : NodeId) : NodeAccess :=
  { s with authFailures := s.authFailures.filter (·.1 != nodeId) }

def credentialRequired : AppError :=
  .auth "auth_dev.credential_required" "Node credential is required"

/-- `verify_node_credential` -/
def verifyNodeCredential (s : NodeAccess) (nodeId : NodeId) (credential : Option String)
    (now : DateTime) : NodeAccess × Except AppError String :=
  match credential.filter (· ≠ "") with
  | none => (s, .error credentialRequired)
  | some credential =>
    if authFailureLimit ≤ (recentFailures s nodeId now).length then
      (s, .error (.rateLimited "auth.rate_limited"
        "Too many authentication failures; retry later"))
    else
      match s.node? nodeId with
      | none => (s, .error (.auth "auth_dev.node_unknown" "Node is not enrolled"))
      | some row =>
        if row.presence = .revoked then
          (recordAuthFailure s nodeId now,
            .error (.auth "auth_dev.node_revoked" "Node has been revoked"))
        else
          match row.credentialHash with
          | none =>
            (recordAuthFailure s nodeId now,
              .error (.auth "auth_dev.credential_missing" "Node credential is missing"))
          | some credentialHash =>
            if credentialHash ≠ hash credential then
              (recordAuthFailure s nodeId now,
                .error (.auth "auth_dev.credential_invalid" "Node credential is invalid"))
            else (clearAuthFailures s nodeId, .ok credential)

/-- The checks of `node_heartbeat` that follow its credential's. -/
def checkHeartbeat (nodeId : NodeId) (request : NodeHeartbeatRequest) : Except AppError Unit :=
  if request.observedCapabilities.any (· != nodeId) then
    .error (.badRequest "node.observed_capability_owner_mismatch"
      "Observed capability belongs to another Node")
  else if request.dependencyStatuses.any (· != nodeId) then
    .error (.badRequest "node.dependency_status_owner_mismatch"
      "Dependency status belongs to another Node")
  else .ok ()

/-- A credential that passed its check is logged, and the call it authorises starts. -/
def authorise (s : NodeAccess) (nodeId : NodeId) (credential : Option String) (now : DateTime)
    (check : Except AppError Unit) (call : NodeCall) : NodeAccess :=
  match verifyNodeCredential hash s nodeId credential now with
  | (s, .error _) => s
  | (s, .ok credential) =>
    { s with
      log := .accepted nodeId credential :: s.log
      calls := match check with
        | .ok () => s.calls ++ [call]
        | .error _ => s.calls }

def EnrolledNodeRow.beaten (displayName : String) (now : DateTime) (r : EnrolledNodeRow) :
    EnrolledNodeRow :=
  { r with
    displayName, presence := .reachable, lastHeartbeatAt := some now, updatedAt := now }

def EnrolledNodeRow.rotated (credentialHash : String) (now : DateTime) (r : EnrolledNodeRow) :
    EnrolledNodeRow :=
  { r with credentialHash := some credentialHash, updatedAt := now }

def EnrolledNodeRow.revoked (now : DateTime) (r : EnrolledNodeRow) : EnrolledNodeRow :=
  { r with presence := .revoked, credentialHash := none, updatedAt := now }

/-- The upsert of `node_heartbeat`. -/
def heartbeatUpsert (nodes : Table EnrolledNodeRow) (nodeId : NodeId) (displayName : String)
    (now : DateTime) : Table EnrolledNodeRow :=
  match nodes.insert? ⟨nodeId, displayName, .reachable, some now, none, now⟩ with
  | some nodes => nodes
  | none =>
    nodes.update (·.nodeId == nodeId) (.beaten displayName now) ⟨fun _ _ => Iff.rfl⟩

/-- The row that the update of `rotate_node_credential` takes. -/
def rotatable (nodeId : NodeId) (r : EnrolledNodeRow) : Bool :=
  r.nodeId == nodeId && r.presence != .revoked

def rotateNodeCredential (s : NodeAccess) (nodeId : NodeId) (credential : String)
    (now : DateTime) : NodeAccess :=
  if (s.nodes.select (rotatable nodeId)).isEmpty then s
  else
    { s with
      nodes := s.nodes.update (rotatable nodeId) (.rotated (hash credential) now)
        ⟨fun _ _ => Iff.rfl⟩
      log := .rotated nodeId credential :: s.log }

def revokeNode (s : NodeAccess) (nodeId : NodeId) (now : DateTime) : NodeAccess :=
  if (s.node? nodeId).isNone then s
  else
    { s with
      nodes := s.nodes.update (·.nodeId == nodeId) (.revoked now) ⟨fun _ _ => Iff.rfl⟩
      log := .revoked nodeId :: s.log }

/-- `effective_node_presence` -/
def effectiveNodePresence (row : EnrolledNodeRow) (now : DateTime) : NodePresence :=
  derivePresence row.presence (row.lastHeartbeatAt.map fun at_ => max (now - at_) 0)
    config.staleAfterSeconds config.offlineAfterSeconds

/-! ## 5. Steps -/

/-- Runs the next statement of a Node's request. -/
def NodeCall.step (s : NodeAccess) : NodeCall → NodeAccess × Option NodeCall
  | claimExpire enrollmentId now =>
    ({ s with
        enrollments := expireEnrollment s.enrollments enrollmentId now
        log := .claimAnswered enrollmentId
          (withoutCredential false false none "Enrollment expired") :: s.log }, none)
  | claimCommit claim =>
    match claimTransaction hash s claim with
    | none => (s, none)
    | some none => (s, some (claimReread claim.enrollmentId claim.now))
    | some (some (nodes, enrollments)) =>
      ({ s with
          nodes
          enrollments
          log := .claimAnswered claim.enrollmentId claim.response :: s.log }, none)
  | claimReread enrollmentId now =>
    match s.enrollment? enrollmentId with
    | none => (s, none)
    | some row =>
      ({ s with log := .claimAnswered enrollmentId (rolledBackResponse row now) :: s.log }, none)
  | heartbeatUpsert nodeId displayName now =>
    ({ s with nodes := Core.heartbeatUpsert s.nodes nodeId displayName now }, none)
  | controlUpgrade nodeId =>
    ({ s with core := { s.core with connections := s.core.connections.context nodeId } }, none)

/-- A frame of the socket is being handled. -/
def NodeAccess.handles (s : NodeAccess) (generation : Nat) : Bool :=
  s.core.calls.any (·.1 == some generation) || s.frames.any (·.1 == generation)

/-- What happens where Core runs the next step of a call of its own. -/
def Lifecycle.factsOfRun (s : Lifecycle) (position : Nat) : List NodeFact :=
  match s.calls[position]? with
  | none => []
  | some (origin, call) =>
    let dispatched : Option NodeFact := match call with
      | .send channel (command :: _) =>
        if (s.connections.trySend channel (.commandDispatch command)).isSome then
          (s.connections.channel? channel).map fun c => .dispatched c.nodeId command.commandId
        else none
      | _ => none
    let processed := (origin.bind s.connections.channel?).map fun c =>
      NodeFact.frameProcessed c.nodeId
    dispatched.toList ++ processed.toList

def Lifecycle.facts (s : Lifecycle) : Action → List NodeFact
  | .run position _ => s.factsOfRun position
  | _ => []

/-- Runs the next step of a frame that no `Call` handles. -/
def FrameCall.step (core : Lifecycle) (nodeId : NodeId) : FrameCall → Lifecycle × Option FrameCall
  | batch [] accepted =>
    let connections := sendControlFrame core.connections nodeId (.eventBatchAck accepted)
    ({ core with connections }, none)
  | batch ((event, messageId) :: rest) accepted =>
    match validateEventOwner core.db nodeId event with
    | .error _ => (core, none)
    | .ok () =>
      match acceptNodeEvent core.db event messageId with
      | .error _ => (core, none)
      | .ok db => ({ core with db }, some (batch rest (accepted ++ [event.eventId])))
  | terminal => (core, none)

/-- What can happen next. -/
inductive NodeAction where
  | createEnrollment (displayName : String) (enrollmentId : EnrollmentId) (pairingCode : String)
      (now : DateTime)
  | approve (enrollmentId : EnrollmentId) (now : DateTime)
  /-- A claim, with the id and the credential that are drawn for it. -/
  | claim (request : NodeEnrollmentClaimRequest) (nodeId : NodeId) (credential : String)
      (now : DateTime)
  | heartbeat (credential : Option String) (request : NodeHeartbeatRequest) (now : DateTime)
  | rotate (nodeId : NodeId) (credential : String) (now : DateTime)
  | revoke (nodeId : NodeId) (now : DateTime)
  /-- `node_control`: a Node asks for a control socket. -/
  | control (nodeId : NodeId) (credential : Option String) (now : DateTime)
  /-- The request at a position runs its next statement, or ends without. -/
  | run (position : Nat)
  | drop (position : Nat)
  /-- Core goes on by itself. -/
  | core (action : Action)
  /-- A socket hands Core its next frame. -/
  | receive (generation : Nat) (frame : ControlFrame)
  | receiveBatch (generation : Nat) (events : List (EventEnvelope × MessageId))
  | receiveTerminal (generation : Nat)
  /-- The frame at a position is handled further. -/
  | handle (position : Nat)
  | disconnect (generation : Nat)
  deriving DecidableEq

variable (codec : ResultCodec) (encodedLen : EventEnvelope → Nat)

/-- What Core does without a Node's request. -/
def Action.isOwn : Action → Bool
  | .connect _ | .disconnect _ | .receive .. => false
  | _ => true

/-- A frame that its active socket hands over is in hand from now on. -/
def NodeAccess.takeFrame (s : NodeAccess) (generation : Nat) (call : FrameCall) :
    Option NodeAccess :=
  (s.core.connections.openNode? generation).bind fun nodeId =>
    if s.handles generation || !s.core.connections.isActive nodeId generation then none
    else some { s with
      frames := s.frames ++ [(generation, call)]
      log := .frameProcessed nodeId :: s.log }

def NodeAccess.step (s : NodeAccess) : NodeAction → Option NodeAccess
  | .createEnrollment displayName enrollmentId pairingCode now =>
    some (Core.createEnrollment hash config s displayName enrollmentId pairingCode now)
  | .approve enrollmentId now =>
    some { s with enrollments := approveNodeEnrollment s.enrollments enrollmentId now }
  | .claim request nodeId credential now =>
    match checkClaim hash config s request nodeId credential now with
    | .error _ => some s
    | .ok (.inl response) =>
      some { s with log := .claimAnswered request.enrollmentId response :: s.log }
    | .ok (.inr call) => some { s with calls := s.calls ++ [call] }
  | .heartbeat credential request now =>
    match request.nodeId with
    | none => some s
    | some nodeId =>
      some (authorise hash s nodeId credential now (checkHeartbeat nodeId request)
        (.heartbeatUpsert nodeId request.displayName now))
  | .rotate nodeId credential now => some (rotateNodeCredential hash s nodeId credential now)
  | .revoke nodeId now => some (revokeNode s nodeId now)
  | .control nodeId credential now =>
    some (authorise hash s nodeId credential now (.ok ()) (.controlUpgrade nodeId))
  | .run position =>
    match s.calls[position]? with
    | none => none
    | some call =>
      let (t, left) := call.step hash s
      some { t with calls := s.calls.take position ++ left.toList ++ s.calls.drop (position + 1) }
  | .drop position =>
    if position < s.calls.length then some { s with calls := s.calls.eraseIdx position } else none
  | .core action =>
    if action.isOwn then
      (s.core.step codec action).map fun core =>
        { s with core, log := s.core.facts action ++ s.log }
    else none
  | .receive generation frame =>
    if s.handles generation then none
    else
      (s.core.connections.openNode? generation).bind fun nodeId =>
        (s.core.step codec (.receive generation frame)).map fun core =>
          { s with core, log := .frameProcessed nodeId :: s.log }
  | .receiveBatch generation events =>
    if maxEventBatchItems < events.length then none
    else if maxControlFrameBytes < (events.map fun e => encodedLen e.1).sum then none
    else s.takeFrame generation (.batch events [])
  | .receiveTerminal generation => s.takeFrame generation .terminal
  | .handle position =>
    match s.frames[position]? with
    | none => none
    | some (generation, call) =>
      (s.core.connections.openNode? generation).map fun nodeId =>
        let (core, left) := call.step s.core nodeId
        { s with
          core
          frames := s.frames.take position ++ (left.map (generation, ·)).toList ++
            s.frames.drop (position + 1)
          log := .frameProcessed nodeId :: s.log }
  | .disconnect generation =>
    if s.handles generation then none
    else (s.core.step codec (.disconnect generation)).map fun core => { s with core }

/-! ## 6. What is asked of a run -/

/-- The credential that the fact gives the Node. -/
def NodeFact.credentialFor (nodeId : NodeId) : NodeFact → Option String
  | claimAnswered _ response => if response.nodeId = some nodeId then response.credential else none
  | rotated n credential => if n = nodeId then some credential else none
  | _ => none

/-- The enrollment's claim is answered with a credential. -/
def NodeFact.yields (enrollmentId : EnrollmentId) : NodeFact → Bool
  | claimAnswered e response => e == enrollmentId && response.credential.isSome
  | _ => false

/-- The Node was revoked, and not enrolled since. -/
def isRevoked (nodeId : NodeId) : List NodeFact → Bool
  | [] => false
  | .revoked n :: log => n == nodeId || isRevoked nodeId log
  | .claimAnswered _ response :: log =>
    !(response.nodeId == some nodeId && response.credential.isSome) && isRevoked nodeId log
  | _ :: log => isRevoked nodeId log

/-- The Node was given the credential. -/
def isIssued (nodeId : NodeId) (credential : String) (log : List NodeFact) : Bool :=
  log.any (·.credentialFor nodeId == some credential)

/-- The Node was given the credential, and its credential was rotated since. -/
def isRetired (nodeId : NodeId) (credential : String) : List NodeFact → Bool
  | [] => false
  | .rotated n _ :: log =>
    (n == nodeId && isIssued nodeId credential log) || isRetired nodeId credential log
  | _ :: log => isRetired nodeId credential log

/-- An enrollment yields at most one credential. -/
def NodeAccess.ClaimsSingle (s : NodeAccess) : Prop :=
  ∀ enrollmentId, (s.log.filter (·.yields enrollmentId)).length ≤ 1

/-- No credential is accepted that was rotated before. -/
def RotationsFinal : List NodeFact → Prop
  | [] => True
  | .accepted nodeId credential :: log =>
    isRetired nodeId credential log = false ∧ RotationsFinal log
  | _ :: log => RotationsFinal log

/-- No frame of a revoked Node is processed, and no command is dispatched to it. -/
def RevokedSilent : List NodeFact → Prop
  | [] => True
  | .frameProcessed nodeId :: log | .dispatched nodeId _ :: log =>
    isRevoked nodeId log = false ∧ RevokedSilent log
  | _ :: log => RevokedSilent log

instance decidableRevokedSilent : (log : List NodeFact) → Decidable (RevokedSilent log)
  | [] => isTrue trivial
  | .frameProcessed _ :: log | .dispatched _ _ :: log =>
    have := decidableRevokedSilent log
    inferInstanceAs (Decidable (_ ∧ _))
  | .claimAnswered _ _ :: log | .rotated _ _ :: log | .revoked _ :: log | .accepted _ _ :: log =>
    decidableRevokedSilent log

/-- No revoked Node is there. -/
def NodeAccess.RevokedAbsent (s : NodeAccess) : Prop :=
  ∀ nodeId row, s.node? nodeId = some row → isRevoked nodeId s.log = true →
    row.presence ≠ .reachable ∧ ∀ now, effectiveNodePresence config row now ≠ .reachable

/-- What is asked of every state of a run. -/
structure NodeAccess.Lawful (s : NodeAccess) : Prop where
  single : s.ClaimsSingle
  final : RotationsFinal s.log
  silent : RevokedSilent s.log
  absent : s.RevokedAbsent config

/-- A secret that a rotation draws hashes to none of those that the Node was given before. -/
def NodeAccess.DrawsNew (s : NodeAccess) : NodeAction → Prop
  | .rotate nodeId credential _ =>
    ∀ f ∈ s.log, ∀ c ∈ f.credentialFor nodeId, hash c ≠ hash credential
  | _ => True

instance (s : NodeAccess) (a : NodeAction) : Decidable (s.DrawsNew hash a) := by
  cases a <;> unfold NodeAccess.DrawsNew <;> infer_instance

/-- The Node that the call may act for: its credential was checked. -/
def NodeCall.authorised : NodeCall → Option NodeId
  | heartbeatUpsert nodeId .. | controlUpgrade nodeId => some nodeId
  | _ => none

/-- A Node is revoked while no heartbeat of it is on its way, and no control socket of it open or
    about to. -/
def NodeAccess.RevokesIdle (s : NodeAccess) : NodeAction → Prop
  | .revoke nodeId _ =>
    (∀ call ∈ s.calls, call.authorised ≠ some nodeId) ∧
      ∀ c ∈ s.core.connections.channels, c.nodeId = nodeId → c.closed = true
  | _ => True

instance (s : NodeAccess) (a : NodeAction) : Decidable (s.RevokesIdle a) := by
  cases a <;> unfold NodeAccess.RevokesIdle <;> infer_instance

/-- Core just started: no request is in hand, and no socket open. -/
structure NodeAccess.Started (s : NodeAccess) : Prop where
  calls : s.calls = []
  frames : s.frames = []
  coreCalls : s.core.calls = []
  channels : s.core.connections.channels = []
  log : s.log = []

/-! ## 7. Sockets -/

variable {codec}

theorem Call.step_openNode? (db : Database) (connections : ConnectionRegistry) (now : DateTime)
    (call : Call) (generation : Nat) :
    (call.step codec db connections now).1.2.openNode? generation =
      connections.openNode? generation := by
  cases call with
  | send channel rows =>
    cases rows with
    | nil => rfl
    | cons command rows =>
      simp only [Call.step]
      split
      · rename_i hsent
        exact (ConnectionRegistry.openNode?_trySend hsent).2 generation
      · rfl
  | record command =>
    simp only [Call.step]
    split <;> rfl
  | validateAck nodeId commandId status =>
    simp only [Call.step]
    split <;> rfl
  | validateResult nodeId commandId status payload =>
    simp only [Call.step]
    split <;> rfl
  | _ => rfl

theorem Lifecycle.frameCall_openNode? {s : Lifecycle} {c : ControlChannel} {frame : ControlFrame}
    {r : ConnectionRegistry} {call : Call} (h : s.frameCall c frame = some (r, call))
    (generation : Nat) : r.openNode? generation = s.connections.openNode? generation := by
  unfold Lifecycle.frameCall at h
  split at h
  · split at h
    · obtain ⟨r', hactivate, he⟩ := Option.map_eq_some_iff.mp h
      cases he
      rw [ConnectionRegistry.openNode?_getD_trySend]
      exact ConnectionRegistry.openNode?_activate hactivate generation
    · cases h
  · split at h <;> cases h
    rfl
  · split at h <;> cases h
    rfl
  · cases h

/-- What Core's own steps and the frames of its sockets leave open. -/
theorem Lifecycle.step_openNode? {s t : Lifecycle} {a : Action} (h : s.step codec a = some t)
    (ha : a.isOwn = true ∨ ∃ generation frame, a = .receive generation frame) (generation : Nat) :
    t.connections.openNode? generation = s.connections.openNode? generation := by
  cases a with
  | recordAndDispatch command => cases h; rfl
  | dispatch nodeId => cases h; rfl
  | expireIfDue commandId => cases h; rfl
  | transmit g => cases h; exact ConnectionRegistry.openNode?_transmit _ g generation
  | connect nodeId => rcases ha with ha | ⟨_, _, ha⟩ <;> cases ha
  | disconnect g => rcases ha with ha | ⟨_, _, ha⟩ <;> cases ha
  | receive g frame =>
    simp only [Lifecycle.step] at h
    split at h
    · cases h
    · obtain ⟨c, _, hc⟩ := Option.bind_eq_some_iff.mp h
      obtain ⟨⟨r, call⟩, hcall, rfl⟩ := Option.map_eq_some_iff.mp hc
      exact frameCall_openNode? hcall generation
  | run position now =>
    simp only [Lifecycle.step] at h
    split at h
    · cases h
    · cases h
      exact Call.step_openNode? _ _ now _ generation

/-- A call that a step leaves in flight was in flight before, is Core's own, or of the frame that
    the step received. -/
theorem Lifecycle.step_origins {s t : Lifecycle} {a : Action} (h : s.step codec a = some t) :
    ∀ c ∈ t.calls, c.1 = none ∨ (∃ d ∈ s.calls, d.1 = c.1) ∨
      ∃ generation frame, a = .receive generation frame ∧ c.1 = some generation := by
  have hpush : ∀ call : Call, ∀ c ∈ s.calls ++ [(none, call)], c.1 = none ∨
      (∃ d ∈ s.calls, d.1 = c.1) ∨
        ∃ generation frame, a = .receive generation frame ∧ c.1 = some generation := by
    intro call c hc
    rcases List.mem_append.mp hc with hc | hc
    · exact Or.inr (Or.inl ⟨c, hc, rfl⟩)
    · obtain rfl : c = (none, call) := by simpa using hc
      exact Or.inl rfl
  cases a with
  | recordAndDispatch command => cases h; exact hpush _
  | dispatch nodeId => cases h; exact hpush _
  | expireIfDue commandId => cases h; exact hpush _
  | connect nodeId => cases h; exact fun c hc => Or.inr (Or.inl ⟨c, hc, rfl⟩)
  | transmit g => cases h; exact fun c hc => Or.inr (Or.inl ⟨c, hc, rfl⟩)
  | disconnect g =>
    obtain ⟨_, _, rfl⟩ := Option.map_eq_some_iff.mp h
    exact fun c hc => Or.inr (Or.inl ⟨c, hc, rfl⟩)
  | receive g frame =>
    simp only [Lifecycle.step] at h
    split at h
    · cases h
    · obtain ⟨_, _, hc⟩ := Option.bind_eq_some_iff.mp h
      obtain ⟨⟨r, call⟩, _, rfl⟩ := Option.map_eq_some_iff.mp hc
      intro c hc
      rcases List.mem_append.mp hc with hc | hc
      · exact Or.inr (Or.inl ⟨c, hc, rfl⟩)
      · obtain rfl : c = (some g, call) := by simpa using hc
        exact Or.inr (Or.inr ⟨g, frame, rfl, rfl⟩)
  | run position now =>
    simp only [Lifecycle.step] at h
    split at h
    · cases h
    · rename_i origin call hcall
      cases h
      intro c hc
      dsimp only at hc
      split at hc
      · rename_i rest _
        rcases List.mem_or_eq_of_mem_set hc with hc | rfl
        · exact Or.inr (Or.inl ⟨c, hc, rfl⟩)
        · exact Or.inr (Or.inl ⟨_, List.mem_of_getElem? hcall, rfl⟩)
      · exact Or.inr (Or.inl ⟨c, List.mem_of_mem_eraseIdx hc, rfl⟩)

theorem FrameCall.step_openNode? (core : Lifecycle) (nodeId : NodeId) (call : FrameCall)
    (generation : Nat) :
    (call.step core nodeId).1.connections.openNode? generation =
      core.connections.openNode? generation := by
  cases call with
  | terminal => rfl
  | batch events accepted =>
    cases events with
    | nil =>
      simp only [FrameCall.step, sendControlFrame]
      split
      · rfl
      · exact ConnectionRegistry.openNode?_getD_trySend _ _ _ generation
    | cons e rest =>
      simp only [FrameCall.step]
      split
      · rfl
      · split <;> rfl

theorem FrameCall.step_calls (core : Lifecycle) (nodeId : NodeId) (call : FrameCall) :
    (call.step core nodeId).1.calls = core.calls := by
  cases call with
  | terminal => rfl
  | batch events accepted =>
    cases events with
    | nil => rfl
    | cons e rest =>
      simp only [FrameCall.step]
      split
      · rfl
      · split <;> rfl

/-- The socket of every frame in hand is open. -/
def NodeAccess.HandlesOpen (s : NodeAccess) : Prop :=
  ∀ generation, s.handles generation = true →
    ∃ nodeId, s.core.connections.openNode? generation = some nodeId

theorem NodeAccess.handles_iff {s : NodeAccess} {generation : Nat} :
    s.handles generation = true ↔
      (∃ c ∈ s.core.calls, c.1 = some generation) ∨ ∃ f ∈ s.frames, f.1 = generation := by
  simp [NodeAccess.handles]

theorem NodeAccess.HandlesOpen.of_eq {s t : NodeAccess} (h : s.HandlesOpen)
    (hcore : t.core = s.core) (hframes : t.frames = s.frames) : t.HandlesOpen := by
  intro generation hhandles
  unfold NodeAccess.handles at hhandles
  rw [hcore, hframes] at hhandles
  rw [hcore]
  exact h generation hhandles

/-! ## 8. What a step does -/

/-- The enrollment has been claimed. -/
def IsClaimed (enrollments : Table NodeEnrollmentRow) (enrollmentId : EnrollmentId) : Prop :=
  ∃ row, enrollments.find? (·.enrollmentId == enrollmentId) = some row ∧ row.claimedNodeId.isSome

theorem IsClaimed.update {t : Table NodeEnrollmentRow} {p : NodeEnrollmentRow → Bool}
    {f : NodeEnrollmentRow → NodeEnrollmentRow} {hf : KeepsKeys f}
    (hid : ∀ r, (f r).enrollmentId = r.enrollmentId)
    (hclaimed : ∀ r, r.claimedNodeId.isSome → (f r).claimedNodeId.isSome)
    {enrollmentId : EnrollmentId} (h : IsClaimed t enrollmentId) :
    IsClaimed (t.update p f hf) enrollmentId := by
  obtain ⟨row, hrow, hsome⟩ := h
  refine ⟨if p row then f row else row, ?_, ?_⟩
  · rw [find?_update _ _ _ _ _ fun r => by rw [hid r], hrow]
    rfl
  · split
    · exact hclaimed row hsome
    · exact hsome

theorem IsClaimed.insert? {t t' : Table NodeEnrollmentRow} {row : NodeEnrollmentRow}
    (hinsert : t.insert? row = some t') {enrollmentId : EnrollmentId}
    (h : IsClaimed t enrollmentId) : IsClaimed t' enrollmentId := by
  obtain ⟨r, hr, hsome⟩ := h
  refine ⟨r, ?_, hsome⟩
  rw [find?_insert? hinsert, hr]
  rfl

/-- A fact about a Node whose socket is open, or a claim that is answered without a credential. -/
def NodeAccess.Plain (s : NodeAccess) : NodeFact → Prop
  | .frameProcessed nodeId | .dispatched nodeId _ =>
    ∃ generation, s.core.connections.openNode? generation = some nodeId
  | .claimAnswered _ response => response.credential = none
  | _ => False

/-- No call that may act for a Node is new, and no socket. -/
structure NodeAccess.Keeps (s t : NodeAccess) : Prop where
  calls : ∀ call ∈ t.calls, call ∈ s.calls ∨ call.authorised = none
  sockets : ∀ generation nodeId, t.core.connections.openNode? generation = some nodeId →
    s.core.connections.openNode? generation = some nodeId

theorem NodeAccess.Keeps.of_eq {s t : NodeAccess} (hcalls : t.calls = s.calls)
    (hcore : t.core = s.core) : s.Keeps t where
  calls call hcall := Or.inl (hcalls ▸ hcall)
  sockets generation nodeId h := by rwa [hcore] at h

/-- What a step does to the tables, the log and what is in hand. -/
inductive NodeAccess.Effect (s : NodeAccess) (a : NodeAction) (t : NodeAccess) : Prop
  /-- A claim is answered with a credential. -/
  | claimed (c : ApprovedClaim)
      (hcommit : claimTransaction hash s c = some (some (t.nodes, t.enrollments)))
      (hlog : t.log = .claimAnswered c.enrollmentId c.response :: s.log) (hkeeps : s.Keeps t)
  | rotated (nodeId : NodeId) (credential : String) (now : DateTime)
      (ha : a = .rotate nodeId credential now)
      (hrow : (s.nodes.select (rotatable nodeId)).isEmpty = false)
      (ht : t = rotateNodeCredential hash s nodeId credential now)
  | revoked (nodeId : NodeId) (now : DateTime) (ha : a = .revoke nodeId now)
      (row : EnrolledNodeRow) (hrow : s.node? nodeId = some row) (ht : t = revokeNode s nodeId now)
  /-- A credential is accepted, and what it authorises started. -/
  | accepted (nodeId : NodeId) (credential : String) (row : EnrolledNodeRow)
      (hrow : s.node? nodeId = some row) (hpresence : row.presence ≠ .revoked)
      (hhash : row.credentialHash = some (hash credential)) (hnodes : t.nodes = s.nodes)
      (henrollments : t.enrollments = s.enrollments)
      (hlog : t.log = .accepted nodeId credential :: s.log)
      (hcalls : ∀ call ∈ t.calls, call ∈ s.calls ∨ call.authorised = some nodeId)
      (hcore : t.core = s.core)
  | beat (nodeId : NodeId) (displayName : String) (now : DateTime)
      (hcall : .heartbeatUpsert nodeId displayName now ∈ s.calls)
      (hnodes : t.nodes = heartbeatUpsert s.nodes nodeId displayName now)
      (henrollments : t.enrollments = s.enrollments) (hlog : t.log = s.log) (hkeeps : s.Keeps t)
  | opened (nodeId : NodeId) (hcall : .controlUpgrade nodeId ∈ s.calls) (hnodes : t.nodes = s.nodes)
      (henrollments : t.enrollments = s.enrollments) (hlog : t.log = s.log)
      (hcalls : ∀ call ∈ t.calls, call ∈ s.calls)
      (hcore : t.core.connections = s.core.connections.context nodeId)
  | other (facts : List NodeFact) (hnodes : t.nodes = s.nodes)
      (hclaimed : ∀ e, IsClaimed s.enrollments e → IsClaimed t.enrollments e)
      (hlog : t.log = facts ++ s.log) (hfacts : ∀ f ∈ facts, s.Plain f) (hkeeps : s.Keeps t)

variable {hash config encodedLen}

/-- A step that changes nothing of these but the failures that are counted. -/
theorem NodeAccess.Effect.none {s t : NodeAccess} {a : NodeAction} (hnodes : t.nodes = s.nodes)
    (hclaimed : ∀ e, IsClaimed s.enrollments e → IsClaimed t.enrollments e)
    (hlog : t.log = s.log) (hkeeps : s.Keeps t) : s.Effect hash a t :=
  .other [] hnodes hclaimed hlog (fun f hf => by cases hf) hkeeps

/-- A credential that passes is the one whose hash is in the Node's row, which is not revoked. -/
theorem verifyNodeCredential_spec {s s' : NodeAccess} {nodeId : NodeId}
    {credential : Option String} {now : DateTime} {result : Except AppError String}
    (h : verifyNodeCredential hash s nodeId credential now = (s', result)) :
    (∃ authFailures, s' = { s with authFailures }) ∧
      ∀ accepted, result = .ok accepted → ∃ row, s.node? nodeId = some row ∧
        row.presence ≠ .revoked ∧ row.credentialHash = some (hash accepted) := by
  unfold verifyNodeCredential at h
  split at h
  · obtain ⟨rfl, rfl⟩ := Prod.mk.inj h
    exact ⟨⟨s.authFailures, rfl⟩, fun _ he => by cases he⟩
  · split at h
    · obtain ⟨rfl, rfl⟩ := Prod.mk.inj h
      exact ⟨⟨s.authFailures, rfl⟩, fun _ he => by cases he⟩
    · split at h
      · obtain ⟨rfl, rfl⟩ := Prod.mk.inj h
        exact ⟨⟨s.authFailures, rfl⟩, fun _ he => by cases he⟩
      · rename_i row hrow
        split at h
        · obtain ⟨rfl, rfl⟩ := Prod.mk.inj h
          exact ⟨⟨_, rfl⟩, fun _ he => by cases he⟩
        · rename_i hpresence
          split at h
          · obtain ⟨rfl, rfl⟩ := Prod.mk.inj h
            exact ⟨⟨_, rfl⟩, fun _ he => by cases he⟩
          · rename_i credentialHash hstored
            split at h
            · obtain ⟨rfl, rfl⟩ := Prod.mk.inj h
              exact ⟨⟨_, rfl⟩, fun _ he => by cases he⟩
            · rename_i hsame
              obtain ⟨rfl, rfl⟩ := Prod.mk.inj h
              refine ⟨⟨_, rfl⟩, fun accepted he => ⟨row, hrow, hpresence, ?_⟩⟩
              obtain rfl := Except.ok.inj he
              rw [hstored, not_not.mp hsame]

/-- The check of a credential, and what it authorises. -/
theorem authorise_effect {s : NodeAccess} {a : NodeAction} {nodeId : NodeId}
    {credential : Option String} {now : DateTime} {check : Except AppError Unit} {call : NodeCall}
    (hopen : s.HandlesOpen) (hcall : call.authorised = some nodeId) :
    s.Effect hash a (authorise hash s nodeId credential now check call) ∧
      (authorise hash s nodeId credential now check call).HandlesOpen := by
  unfold authorise
  cases hverify : verifyNodeCredential hash s nodeId credential now with
  | mk s' result =>
    obtain ⟨⟨authFailures, rfl⟩, hok⟩ := verifyNodeCredential_spec hverify
    cases result with
    | error e => exact ⟨.none rfl (fun _ h => h) rfl (.of_eq rfl rfl), hopen.of_eq rfl rfl⟩
    | ok accepted =>
      obtain ⟨row, hrow, hpresence, hhash⟩ := hok accepted rfl
      refine ⟨.accepted nodeId accepted row hrow hpresence hhash rfl rfl rfl ?_ rfl,
        hopen.of_eq rfl rfl⟩
      intro c hc
      cases check with
      | error e => exact Or.inl hc
      | ok _ =>
        rcases List.mem_append.mp hc with hc | hc
        · exact Or.inl hc
        · obtain rfl : c = call := by simpa using hc
          exact Or.inr hcall

theorem createEnrollment_eq (s : NodeAccess) (displayName : String) (enrollmentId : EnrollmentId)
    (pairingCode : String) (now : DateTime) :
    ∃ enrollments,
      createEnrollment hash config s displayName enrollmentId pairingCode now =
        { s with enrollments } ∧
      ∀ e, IsClaimed s.enrollments e → IsClaimed enrollments e := by
  have hexpire : ∀ e, IsClaimed s.enrollments e →
      IsClaimed (expireDueEnrollments s.enrollments now) e := by
    intro e h
    unfold expireDueEnrollments
    refine h.update (fun _ => ?_) fun _ hsome => ?_
    · rfl
    · exact hsome
  unfold createEnrollment
  split
  · exact ⟨s.enrollments, rfl, fun _ => id⟩
  · dsimp only
    split
    · exact ⟨_, rfl, hexpire⟩
    · rename_i row _
      refine ⟨_, rfl, fun e he => ?_⟩
      cases hinsert : (expireDueEnrollments s.enrollments now).insert? row with
      | none => exact hexpire e he
      | some enrollments => exact (hexpire e he).insert? hinsert

/-- The checks of a claim neither give a credential nor leave a call that may act for a Node. -/
theorem checkClaim_spec {s : NodeAccess} {request : NodeEnrollmentClaimRequest} {nodeId : NodeId}
    {credential : String} {now : DateTime} {result : NodeEnrollmentClaimResponse ⊕ NodeCall}
    (h : checkClaim hash config s request nodeId credential now = .ok result) :
    (∀ response, result = .inl response → response.credential = none) ∧
      ∀ call, result = .inr call → call.authorised = none := by
  unfold checkClaim at h
  split at h
  · cases h
  · split at h
    · obtain rfl := Except.ok.inj h
      exact ⟨fun _ he => (by cases he), fun _ he => (by cases he; rfl)⟩
    · split at h
      · cases h
      · split at h
        · obtain rfl := Except.ok.inj h
          exact ⟨fun _ he => (by cases he; rfl), fun _ he => (by cases he)⟩
        · split at h
          · obtain rfl := Except.ok.inj h
            exact ⟨fun _ he => (by cases he; rfl), fun _ he => (by cases he)⟩
          · split at h
            · obtain rfl := Except.ok.inj h
              exact ⟨fun _ he => (by cases he), fun _ he => (by cases he; rfl)⟩
            · obtain rfl := Except.ok.inj h
              exact ⟨fun _ he => (by cases he; rfl), fun _ he => (by cases he)⟩

theorem rolledBackResponse_credential (row : NodeEnrollmentRow) (now : DateTime) :
    (rolledBackResponse row now).credential = none := by
  unfold rolledBackResponse
  split <;> rfl

/-- What the next statement of a request does, whatever of it is left in hand. -/
theorem NodeCall.step_effect {s : NodeAccess} {a : NodeAction} {call : NodeCall}
    (hcall : call ∈ s.calls) (hopen : s.HandlesOpen) {calls : List NodeCall}
    (hcalls : ∀ c ∈ calls, c ∈ s.calls ∨ (call.step hash s).2 = some c) :
    s.Effect hash a { (call.step hash s).1 with calls } ∧
      NodeAccess.HandlesOpen { (call.step hash s).1 with calls } := by
  -- what a call that ends here leaves in hand was in hand before
  have hrest : (call.step hash s).2 = none → ∀ c ∈ calls, c ∈ s.calls := by
    intro hnone c hc
    rcases hcalls c hc with h | h
    · exact h
    · rw [hnone] at h
      cases h
  have hkeeps : (call.step hash s).2 = none → (call.step hash s).1.core = s.core →
      s.Keeps { (call.step hash s).1 with calls } := by
    intro hnone hcore
    refine ⟨fun c hc => Or.inl (hrest hnone c hc), fun generation nodeId h => ?_⟩
    dsimp only at h
    rwa [hcore] at h
  cases call with
  | claimExpire enrollmentId now =>
    have hclaimed : ∀ e, IsClaimed s.enrollments e →
        IsClaimed (expireEnrollment s.enrollments enrollmentId now) e := by
      intro e h
      unfold expireEnrollment
      refine h.update (fun _ => ?_) fun _ hsome => ?_
      · rfl
      · exact hsome
    refine ⟨.other [_] rfl hclaimed rfl ?_ (hkeeps rfl rfl), hopen.of_eq rfl rfl⟩
    intro f hf
    obtain rfl := List.mem_singleton.mp hf
    rfl
  | claimCommit claim =>
    cases htransaction : claimTransaction hash s claim with
    | none =>
      have hstep : NodeCall.step hash s (.claimCommit claim) = (s, none) := by
        simp only [NodeCall.step, htransaction]
      rw [hstep] at hkeeps ⊢
      exact ⟨.none rfl (fun _ h => h) rfl (hkeeps rfl rfl), hopen.of_eq rfl rfl⟩
    | some result =>
      cases result with
      | none =>
        have hstep : NodeCall.step hash s (.claimCommit claim) =
            (s, some (.claimReread claim.enrollmentId claim.now)) := by
          simp only [NodeCall.step, htransaction]
        rw [hstep] at hcalls ⊢
        refine ⟨.none rfl (fun _ h => h) rfl ⟨fun c hc => ?_, fun _ _ h => h⟩, hopen.of_eq rfl rfl⟩
        rcases hcalls c hc with h | h
        · exact Or.inl h
        · obtain rfl := Option.some.inj h
          exact Or.inr rfl
      | some tables =>
        have hstep : NodeCall.step hash s (.claimCommit claim) =
            ({ s with
                nodes := tables.1
                enrollments := tables.2
                log := .claimAnswered claim.enrollmentId claim.response :: s.log }, none) := by
          simp only [NodeCall.step, htransaction]
        rw [hstep] at hkeeps ⊢
        exact ⟨.claimed claim htransaction rfl (hkeeps rfl rfl), hopen.of_eq rfl rfl⟩
  | claimReread enrollmentId now =>
    cases hrow : s.enrollment? enrollmentId with
    | none =>
      have hstep : NodeCall.step hash s (.claimReread enrollmentId now) = (s, none) := by
        simp only [NodeCall.step, hrow]
      rw [hstep] at hkeeps ⊢
      exact ⟨.none rfl (fun _ h => h) rfl (hkeeps rfl rfl), hopen.of_eq rfl rfl⟩
    | some row =>
      have hstep : NodeCall.step hash s (.claimReread enrollmentId now) =
          ({ s with log := .claimAnswered enrollmentId (rolledBackResponse row now) :: s.log },
            none) := by
        simp only [NodeCall.step, hrow]
      rw [hstep] at hkeeps ⊢
      refine ⟨.other [_] rfl (fun _ h => h) rfl ?_ (hkeeps rfl rfl), hopen.of_eq rfl rfl⟩
      intro f hf
      obtain rfl := List.mem_singleton.mp hf
      exact rolledBackResponse_credential row now
  | heartbeatUpsert nodeId displayName now =>
    exact ⟨.beat nodeId displayName now hcall rfl rfl rfl (hkeeps rfl rfl), hopen.of_eq rfl rfl⟩
  | controlUpgrade nodeId =>
    refine ⟨.opened nodeId hcall rfl rfl rfl (hrest rfl) rfl, fun generation hhandles => ?_⟩
    obtain ⟨n, hn⟩ := hopen generation hhandles
    exact ⟨n, (ConnectionRegistry.openNode?_context _ nodeId generation n).1 hn⟩

/-- What happens where Core runs a call happens on sockets that are open. -/
theorem NodeAccess.plain_facts {s : NodeAccess} (hopen : s.HandlesOpen) {action : Action}
    {f : NodeFact} (hf : f ∈ s.core.facts action) : s.Plain f := by
  cases action with
  | run position now =>
    simp only [Lifecycle.facts, Lifecycle.factsOfRun] at hf
    split at hf
    · cases hf
    · rename_i origin call hcall
      rcases List.mem_append.mp hf with hf | hf
      · have hdispatched := Option.mem_toList.mp hf
        split at hdispatched
        · rename_i channel command rows _
          split at hdispatched
          · rename_i hsent
            obtain ⟨r, hr⟩ := Option.isSome_iff_exists.mp hsent
            obtain ⟨⟨c, hc, hnode⟩, -⟩ := ConnectionRegistry.openNode?_trySend hr
            rw [hc] at hdispatched
            obtain rfl := Option.some.inj hdispatched
            exact ⟨channel, hnode⟩
          · cases hdispatched
        · cases hdispatched
      · obtain ⟨c, hc, rfl⟩ := Option.map_eq_some_iff.mp (Option.mem_toList.mp hf)
        obtain ⟨generation, rfl, hchannel⟩ := Option.bind_eq_some_iff.mp hc
        have hhandles : s.handles generation = true :=
          handles_iff.mpr (Or.inl ⟨_, List.mem_of_getElem? hcall, rfl⟩)
        obtain ⟨nodeId, hnode⟩ := hopen generation hhandles
        obtain ⟨d, hd, _, rfl⟩ := ConnectionRegistry.openNode?_eq_some.mp hnode
        obtain rfl : c = d := Option.some.inj (hchannel.symm.trans hd)
        exact ⟨generation, hnode⟩
  | _ => cases hf

theorem NodeAccess.takeFrame_effect {s t : NodeAccess} {a : NodeAction} {generation : Nat}
    {call : FrameCall} (hopen : s.HandlesOpen) (h : s.takeFrame generation call = some t) :
    s.Effect hash a t ∧ t.HandlesOpen := by
  obtain ⟨nodeId, hnode, ht⟩ := Option.bind_eq_some_iff.mp h
  split at ht
  · cases ht
  · obtain rfl := Option.some.inj ht
    refine ⟨.other [_] rfl (fun _ h => h) rfl ?_ (.of_eq rfl rfl), fun g hhandles => ?_⟩
    · intro f hf
      obtain rfl := List.mem_singleton.mp hf
      exact ⟨generation, hnode⟩
    · rcases handles_iff.mp hhandles with hcall | ⟨f, hf, rfl⟩
      · exact hopen g (handles_iff.mpr (Or.inl hcall))
      · rcases List.mem_append.mp hf with hf | hf
        · exact hopen f.1 (handles_iff.mpr (Or.inr ⟨f, hf, rfl⟩))
        · obtain rfl := List.mem_singleton.mp hf
          exact ⟨nodeId, hnode⟩

/-- A step of the lifecycle that opens and closes nothing leaves the frames in hand on open
    sockets. -/
theorem NodeAccess.HandlesOpen.lifecycle {s : NodeAccess} (hopen : s.HandlesOpen) {core : Lifecycle}
    {action : Action} (h : s.core.step codec action = some core)
    (ha : action.isOwn = true ∨ ∃ generation frame, action = .receive generation frame ∧
      ∃ nodeId, s.core.connections.openNode? generation = some nodeId) {log : List NodeFact} :
    NodeAccess.HandlesOpen { s with core, log } := by
  have hsockets := Lifecycle.step_openNode? h (ha.imp_right fun ⟨g, frame, he, _⟩ => ⟨g, frame, he⟩)
  intro generation hhandles
  refine (?_ : ∃ nodeId, core.connections.openNode? generation = some nodeId)
  rw [hsockets generation]
  rcases handles_iff.mp hhandles with ⟨c, hc, horigin⟩ | hframe
  · rcases Lifecycle.step_origins h c hc with hnone | ⟨d, hd, hsame⟩ | ⟨g, frame, rfl, hg⟩
    · rw [horigin] at hnone
      cases hnone
    · exact hopen generation (handles_iff.mpr (Or.inl ⟨d, hd, hsame.trans horigin⟩))
    · obtain rfl : generation = g := Option.some.inj (horigin.symm.trans hg)
      rcases ha with ha | ⟨_, _, he, hnode⟩
      · cases ha
      · cases he
        exact hnode
  · exact hopen generation (handles_iff.mpr (Or.inr hframe))

/-- **What a step does**, and that the socket of every frame in hand stays open. -/
theorem NodeAccess.step_effect {s t : NodeAccess} {a : NodeAction} (hopen : s.HandlesOpen)
    (h : s.step hash config codec encodedLen a = some t) : s.Effect hash a t ∧ t.HandlesOpen := by
  cases a with
  | createEnrollment displayName enrollmentId pairingCode now =>
    obtain rfl := Option.some.inj h
    obtain ⟨enrollments, he, hclaimed⟩ :=
      (@createEnrollment_eq hash config) s displayName enrollmentId pairingCode
        now
    rw [he]
    exact ⟨.none rfl hclaimed rfl (.of_eq rfl rfl), hopen.of_eq rfl rfl⟩
  | approve enrollmentId now =>
    obtain rfl := Option.some.inj h
    have hclaimed : ∀ e, IsClaimed s.enrollments e →
        IsClaimed (approveNodeEnrollment s.enrollments enrollmentId now) e := by
      intro e h
      unfold approveNodeEnrollment
      refine h.update (fun _ => ?_) fun _ hsome => ?_
      · rfl
      · exact hsome
    exact ⟨.none rfl hclaimed rfl (.of_eq rfl rfl), hopen.of_eq rfl rfl⟩
  | claim request nodeId credential now =>
    simp only [NodeAccess.step] at h
    cases hcheck : checkClaim hash config s request nodeId credential now with
    | error e =>
      rw [hcheck] at h
      obtain rfl := Option.some.inj h
      exact ⟨.none rfl (fun _ h => h) rfl (.of_eq rfl rfl), hopen⟩
    | ok result =>
      obtain ⟨hresponse, hcall⟩ := checkClaim_spec hcheck
      rw [hcheck] at h
      cases result with
      | inl response =>
        obtain rfl := Option.some.inj h
        refine ⟨.other [_] rfl (fun _ h => h) rfl ?_ (.of_eq rfl rfl), hopen.of_eq rfl rfl⟩
        intro f hf
        obtain rfl := List.mem_singleton.mp hf
        exact hresponse response rfl
      | inr call =>
        obtain rfl := Option.some.inj h
        refine ⟨.none rfl (fun _ h => h) rfl ⟨fun c hc => ?_, fun _ _ h => h⟩, hopen.of_eq rfl rfl⟩
        rcases List.mem_append.mp hc with hc | hc
        · exact Or.inl hc
        · obtain rfl := List.mem_singleton.mp hc
          exact Or.inr (hcall c rfl)
  | heartbeat credential request now =>
    simp only [NodeAccess.step] at h
    split at h
    · obtain rfl := Option.some.inj h
      exact ⟨.none rfl (fun _ h => h) rfl (.of_eq rfl rfl), hopen⟩
    · obtain rfl := Option.some.inj h
      exact authorise_effect hopen rfl
  | control nodeId credential now =>
    obtain rfl := Option.some.inj h
    exact authorise_effect hopen rfl
  | rotate nodeId credential now =>
    obtain rfl := Option.some.inj h
    cases hrow : (s.nodes.select (rotatable nodeId)).isEmpty with
    | true =>
      have hnone : rotateNodeCredential hash s nodeId credential now = s := by
        simp [rotateNodeCredential, hrow]
      rw [hnone]
      exact ⟨.none rfl (fun _ h => h) rfl (.of_eq rfl rfl), hopen⟩
    | false =>
      refine ⟨.rotated nodeId credential now rfl hrow rfl, ?_⟩
      simp only [rotateNodeCredential, hrow, Bool.false_eq_true, if_false]
      exact hopen.of_eq rfl rfl
  | revoke nodeId now =>
    obtain rfl := Option.some.inj h
    cases hrow : s.node? nodeId with
    | none =>
      have hnone : revokeNode s nodeId now = s := by simp [revokeNode, hrow]
      rw [hnone]
      exact ⟨.none rfl (fun _ h => h) rfl (.of_eq rfl rfl), hopen⟩
    | some row =>
      refine ⟨.revoked nodeId now rfl row hrow rfl, ?_⟩
      simp only [revokeNode, hrow, Option.isNone_some, Bool.false_eq_true, if_false]
      exact hopen.of_eq rfl rfl
  | run position =>
    simp only [NodeAccess.step] at h
    split at h
    · cases h
    · rename_i call hcall
      obtain rfl := Option.some.inj h
      refine NodeCall.step_effect (List.mem_of_getElem? hcall) hopen fun c hc => ?_
      rcases List.mem_append.mp hc with hc | hc
      · rcases List.mem_append.mp hc with hc | hc
        · exact Or.inl (List.mem_of_mem_take hc)
        · exact Or.inr (Option.mem_toList.mp hc)
      · exact Or.inl (List.mem_of_mem_drop hc)
  | drop position =>
    simp only [NodeAccess.step] at h
    split at h
    · obtain rfl := Option.some.inj h
      refine ⟨.none rfl (fun _ h => h) rfl ⟨fun c hc => ?_, fun _ _ h => h⟩, hopen.of_eq rfl rfl⟩
      exact Or.inl (List.mem_of_mem_eraseIdx hc)
    · cases h
  | core action =>
    simp only [NodeAccess.step] at h
    split at h
    · rename_i hown
      obtain ⟨core, hcore, rfl⟩ := Option.map_eq_some_iff.mp h
      refine ⟨.other (s.core.facts action) rfl (fun _ h => h) rfl (fun f => plain_facts hopen)
        ⟨fun _ => Or.inl, fun generation nodeId hnode => ?_⟩, hopen.lifecycle hcore (Or.inl hown)⟩
      rw [← Lifecycle.step_openNode? hcore (Or.inl hown) generation]
      exact hnode
    · cases h
  | receive generation frame =>
    simp only [NodeAccess.step] at h
    split at h
    · cases h
    · obtain ⟨nodeId, hnode, ht⟩ := Option.bind_eq_some_iff.mp h
      obtain ⟨core, hcore, rfl⟩ := Option.map_eq_some_iff.mp ht
      refine ⟨.other [_] rfl (fun _ h => h) rfl ?_ ⟨fun _ => Or.inl, fun g n hn => ?_⟩,
        hopen.lifecycle hcore (Or.inr ⟨generation, frame, rfl, nodeId, hnode⟩)⟩
      · intro f hf
        obtain rfl := List.mem_singleton.mp hf
        exact ⟨generation, hnode⟩
      · rw [← Lifecycle.step_openNode? hcore (Or.inr ⟨generation, frame, rfl⟩) g]
        exact hn
  | receiveBatch generation events =>
    simp only [NodeAccess.step] at h
    split at h
    · cases h
    · split at h
      · cases h
      · exact takeFrame_effect hopen h
  | receiveTerminal generation => exact takeFrame_effect hopen h
  | handle position =>
    simp only [NodeAccess.step] at h
    split at h
    · cases h
    · rename_i generation call hcall
      obtain ⟨nodeId, hnode, rfl⟩ := Option.map_eq_some_iff.mp h
      have hsockets := FrameCall.step_openNode? s.core nodeId call
      refine ⟨.other [_] rfl (fun _ h => h) rfl ?_ ⟨fun _ => Or.inl, fun g n hn => ?_⟩,
        fun g hhandles => ?_⟩
      · intro f hf
        obtain rfl := List.mem_singleton.mp hf
        exact ⟨generation, hnode⟩
      · rw [← hsockets g]
        exact hn
      · refine (?_ : ∃ n, (call.step s.core nodeId).1.connections.openNode? g = some n)
        rw [hsockets g]
        have hbefore : s.handles g = true := by
          rcases handles_iff.mp hhandles with hc | ⟨f, hf, rfl⟩
          · exact handles_iff.mpr (Or.inl (FrameCall.step_calls s.core nodeId call ▸ hc))
          · refine handles_iff.mpr (Or.inr ?_)
            rcases List.mem_append.mp hf with hf | hf
            · rcases List.mem_append.mp hf with hf | hf
              · exact ⟨f, List.mem_of_mem_take hf, rfl⟩
              · obtain ⟨left, _, rfl⟩ := Option.map_eq_some_iff.mp (Option.mem_toList.mp hf)
                exact ⟨_, List.mem_of_getElem? hcall, rfl⟩
            · exact ⟨f, List.mem_of_mem_drop hf, rfl⟩
        exact hopen g hbefore
  | disconnect generation =>
    simp only [NodeAccess.step] at h
    split at h
    · cases h
    · rename_i hidle
      obtain ⟨core, hcore, rfl⟩ := Option.map_eq_some_iff.mp h
      obtain ⟨c, _, rfl⟩ := Option.map_eq_some_iff.mp hcore
      have hsockets := ConnectionRegistry.openNode?_removeIfActive s.core.connections c.nodeId
        generation
      refine ⟨.none rfl (fun _ h => h) rfl ⟨fun _ => Or.inl, fun g n hn => ?_⟩,
        fun g hhandles => ?_⟩
      · have hn' := (hsockets g).symm.trans hn
        split at hn'
        · cases hn'
        · exact hn'
      · have hne : g ≠ generation := by
          rintro rfl
          exact hidle hhandles
        refine (?_ : ∃ n, (s.core.connections.removeIfActive c.nodeId generation).openNode? g =
          some n)
        rw [hsockets g, if_neg hne]
        exact hopen g hhandles

/-! ## 9. Claims -/

/-- A claim that commits takes an enrollment that was not claimed. -/
theorem claimTransaction_spec {s : NodeAccess} {c : ApprovedClaim} {nodes : Table EnrolledNodeRow}
    {enrollments : Table NodeEnrollmentRow}
    (h : claimTransaction hash s c = some (some (nodes, enrollments))) :
    s.nodes.insert? (c.nodeRow hash) = some nodes ∧
      ¬ IsClaimed s.enrollments c.enrollmentId ∧ IsClaimed enrollments c.enrollmentId ∧
      ∀ e, IsClaimed s.enrollments e → IsClaimed enrollments e := by
  obtain ⟨nodes', hinsert, hupdate⟩ := Option.map_eq_some_iff.mp h
  split at hupdate
  · cases hupdate
  · rename_i htaken
    obtain ⟨rfl, rfl⟩ := Prod.mk.inj (Option.some.inj hupdate)
    obtain ⟨row, hrow⟩ := List.exists_mem_of_ne_nil _ (by simpa using htaken)
    obtain ⟨hmem, htakes⟩ := List.mem_filter.mp hrow
    have hrow' : row.enrollmentId = c.enrollmentId ∧ row.claimedNodeId = none := by
      simp only [ApprovedClaim.takes, NodeEnrollmentRow.isClaimable, Bool.and_eq_true, beq_iff_eq,
        Option.isNone_iff_eq_none] at htakes
      exact ⟨htakes.1, htakes.2.1.2⟩
    have hfind : s.enrollments.find? (·.enrollmentId == c.enrollmentId) = some row :=
      find?_of_mem hmem (by simp [hrow'.1]) fun a ha => by
        exact (beq_iff_eq.mp ha).trans hrow'.1.symm
    refine ⟨hinsert, fun hclaimed => ?_, ⟨c.register row, ?_, rfl⟩, fun e he => ?_⟩
    · obtain ⟨r, hr, hsome⟩ := hclaimed
      obtain rfl : row = r := Option.some.inj (hfind.symm.trans hr)
      rw [hrow'.2] at hsome
      cases hsome
    · rw [find?_update s.enrollments c.takes (·.enrollmentId == c.enrollmentId) c.register _
        fun _ => rfl, hfind, Option.map_some, if_pos htakes]
    · exact IsClaimed.update (f := c.register) (fun _ => rfl) (fun _ _ => rfl) he

/-- What holds of claims in every state. -/
structure NodeAccess.ClaimsSound (s : NodeAccess) : Prop where
  opens : s.HandlesOpen
  single : s.ClaimsSingle
  claimed : ∀ e, (∃ f ∈ s.log, f.yields e = true) → IsClaimed s.enrollments e

theorem NodeAccess.Plain.yields {s : NodeAccess} {f : NodeFact} (h : s.Plain f)
    (e : EnrollmentId) : f.yields e = false := by
  cases f with
  | claimAnswered enrollmentId response =>
    have hnone : response.credential = none := h
    simp [NodeFact.yields, hnone]
  | _ => rfl

/-- Facts that yield no credential. -/
theorem NodeAccess.ClaimsSound.append {s t : NodeAccess} (hs : s.ClaimsSound)
    (hopen : t.HandlesOpen) {facts : List NodeFact} (hlog : t.log = facts ++ s.log)
    (hfacts : ∀ f ∈ facts, ∀ e, f.yields e = false)
    (hclaimed : ∀ e, IsClaimed s.enrollments e → IsClaimed t.enrollments e) : t.ClaimsSound := by
  have hnone : ∀ e, facts.filter (·.yields e) = [] := fun e =>
    List.filter_eq_nil_iff.mpr fun f hf => by simp [hfacts f hf e]
  refine ⟨hopen, fun e => ?_, fun e ⟨f, hf, hyields⟩ => ?_⟩
  · rw [hlog, List.filter_append, hnone e]
    exact hs.single e
  · rw [hlog] at hf
    rcases List.mem_append.mp hf with hf | hf
    · rw [hfacts f hf e] at hyields
      cases hyields
    · exact hclaimed e (hs.claimed e ⟨f, hf, hyields⟩)

/-- The answer with a credential is the first one of its enrollment. -/
theorem NodeAccess.ClaimsSound.claim {s t : NodeAccess} (hs : s.ClaimsSound) (hopen : t.HandlesOpen)
    {c : ApprovedClaim} (hcommit : claimTransaction hash s c = some (some (t.nodes, t.enrollments)))
    (hlog : t.log = .claimAnswered c.enrollmentId c.response :: s.log) : t.ClaimsSound := by
  obtain ⟨-, hfresh, hclaimed, hkept⟩ := claimTransaction_spec hcommit
  have hyields : ∀ e, (NodeFact.claimAnswered c.enrollmentId c.response).yields e =
      (c.enrollmentId == e) := fun e => Bool.and_true _
  refine ⟨hopen, fun e => ?_, fun e ⟨f, hf, hf'⟩ => ?_⟩
  · rw [hlog, List.filter_cons, hyields]
    split
    · rename_i he
      obtain rfl := beq_iff_eq.mp he
      have hnone : s.log.filter (·.yields c.enrollmentId) = [] :=
        List.filter_eq_nil_iff.mpr fun f hf hyield => hfresh (hs.claimed _ ⟨f, hf, hyield⟩)
      rw [hnone]
      exact le_refl 1
    · exact hs.single e
  · rw [hlog] at hf
    rcases List.mem_cons.mp hf with rfl | hf
    · rw [hyields] at hf'
      obtain rfl := beq_iff_eq.mp hf'
      exact hclaimed
    · exact hkept e (hs.claimed e ⟨f, hf, hf'⟩)

/-- **A step keeps what holds of claims.** -/
theorem NodeAccess.ClaimsSound.step {s t : NodeAccess} {a : NodeAction} (hs : s.ClaimsSound)
    (h : s.step hash config codec encodedLen a = some t) : t.ClaimsSound := by
  obtain ⟨heffect, hopen⟩ := step_effect hs.opens h
  cases heffect with
  | claimed c hcommit hlog _ => exact hs.claim hopen hcommit hlog
  | rotated nodeId credential now _ hrow ht =>
    subst ht
    have hlog : (rotateNodeCredential hash s nodeId credential now).log =
        [.rotated nodeId credential] ++ s.log := by simp [rotateNodeCredential, hrow]
    refine hs.append hopen hlog (fun f hf e => ?_) fun e he => ?_
    · obtain rfl := List.mem_singleton.mp hf
      rfl
    · unfold rotateNodeCredential
      split <;> exact he
  | revoked nodeId now _ row hrow ht =>
    subst ht
    have hlog : (revokeNode s nodeId now).log = [.revoked nodeId] ++ s.log := by
      simp [revokeNode, hrow]
    refine hs.append hopen hlog (fun f hf e => ?_) fun e he => ?_
    · obtain rfl := List.mem_singleton.mp hf
      rfl
    · unfold revokeNode
      split <;> exact he
  | accepted nodeId credential row _ _ _ _ henrollments hlog _ _ =>
    have hlog' : t.log = [.accepted nodeId credential] ++ s.log := hlog
    refine hs.append hopen hlog' (fun f hf e => ?_) fun e he => ?_
    · obtain rfl := List.mem_singleton.mp hf
      rfl
    · rwa [henrollments]
  | beat nodeId displayName now _ _ henrollments hlog _ =>
    have hlog' : t.log = [] ++ s.log := hlog
    refine hs.append hopen hlog' (fun f hf => by cases hf) fun e he => ?_
    rwa [henrollments]
  | opened nodeId _ _ henrollments hlog _ _ =>
    have hlog' : t.log = [] ++ s.log := hlog
    refine hs.append hopen hlog' (fun f hf => by cases hf) fun e he => ?_
    rwa [henrollments]
  | other facts _ hclaimed hlog hfacts _ =>
    exact hs.append hopen hlog (fun f hf e => (hfacts f hf).yields e) hclaimed

/-! ## 10. Rows of Nodes -/

/-- An update of one Node's row, or of nothing. -/
theorem node?_update {s t : NodeAccess} {p : EnrolledNodeRow → Bool}
    {f : EnrolledNodeRow → EnrolledNodeRow} {hf : KeepsKeys f}
    (ht : t.nodes = s.nodes.update p f hf) (hid : ∀ r, (f r).nodeId = r.nodeId) (nodeId : NodeId) :
    t.node? nodeId = (s.node? nodeId).map fun r => if p r then f r else r := by
  unfold NodeAccess.node?
  rw [ht]
  exact find?_update s.nodes p (·.nodeId == nodeId) f hf fun r => by rw [hid r]

theorem nodeId_of_node? {s : NodeAccess} {nodeId : NodeId} {row : EnrolledNodeRow}
    (h : s.node? nodeId = some row) : row.nodeId = nodeId := by
  simpa using find?_pos h

theorem node?_insert? {s t : NodeAccess} {row r : EnrolledNodeRow} {nodeId : NodeId}
    (hinsert : s.nodes.insert? row = some t.nodes) (h : s.node? nodeId = some r) :
    t.node? nodeId = some r := by
  unfold NodeAccess.node? at h ⊢
  rw [find?_insert? hinsert, h]
  rfl

theorem node?_rotate {s : NodeAccess} {nodeId : NodeId} {credential : String} {now : DateTime}
    (hrow : (s.nodes.select (rotatable nodeId)).isEmpty = false) (n : NodeId) :
    (rotateNodeCredential hash s nodeId credential now).node? n = (s.node? n).map fun r =>
      if rotatable nodeId r then r.rotated (hash credential) now else r := by
  have ht : (rotateNodeCredential hash s nodeId credential now).nodes =
      s.nodes.update (rotatable nodeId) (.rotated (hash credential) now)
        ⟨fun _ _ => Iff.rfl⟩ := by
    simp [rotateNodeCredential, hrow]
  exact node?_update ht (fun _ => rfl) n

theorem node?_revoke {s : NodeAccess} {nodeId : NodeId} {now : DateTime} {row : EnrolledNodeRow}
    (hrow : s.node? nodeId = some row) (n : NodeId) :
    (revokeNode s nodeId now).node? n = (s.node? n).map fun r =>
      if r.nodeId == nodeId then r.revoked now else r := by
  have ht : (revokeNode s nodeId now).nodes =
      s.nodes.update (·.nodeId == nodeId) (.revoked now) ⟨fun _ _ => Iff.rfl⟩ := by
    simp [revokeNode, hrow]
  exact node?_update ht (fun _ => rfl) n

/-- A heartbeat changes neither the credential of its Node nor another Node. -/
theorem node?_beat {s t : NodeAccess} {nodeId : NodeId} {displayName : String} {now : DateTime}
    (ht : t.nodes = heartbeatUpsert s.nodes nodeId displayName now) {n : NodeId}
    {row : EnrolledNodeRow} (hrow : s.node? n = some row) :
    ∃ row', t.node? n = some row' ∧ row'.credentialHash = row.credentialHash ∧
      (n ≠ nodeId → row' = row) := by
  unfold heartbeatUpsert at ht
  split at ht
  · rename_i nodes hinsert
    exact ⟨row, node?_insert? (ht ▸ hinsert) hrow, rfl, fun _ => rfl⟩
  · refine ⟨_, (node?_update ht (fun _ => rfl) n).trans (by rw [hrow]; rfl), ?_, fun hne => ?_⟩
    · dsimp only
      split <;> rfl
    · have hid := nodeId_of_node? hrow
      have hother : ¬ (row.nodeId == nodeId) = true := by simp [hid, hne]
      exact if_neg hother

/-! ## 11. Rotations -/

variable (hash) in
/-- What holds of credentials in every state. -/
structure NodeAccess.RotationsSound (s : NodeAccess) : Prop where
  opens : s.HandlesOpen
  final : RotationsFinal s.log
  retired : ∀ nodeId credential, isRetired nodeId credential s.log = true →
    ∃ row, s.node? nodeId = some row ∧ row.credentialHash ≠ some (hash credential)

theorem isIssued_of_isRetired {nodeId : NodeId} {credential : String} {log : List NodeFact}
    (h : isRetired nodeId credential log = true) : isIssued nodeId credential log = true := by
  have hcons : ∀ f : NodeFact, ∀ log, isIssued nodeId credential log = true →
      isIssued nodeId credential (f :: log) = true := by
    intro f log hissued
    unfold isIssued at hissued ⊢
    rw [List.any_cons, hissued, Bool.or_true]
  induction log with
  | nil => cases h
  | cons f log ih =>
    cases f with
    | rotated n c =>
      simp only [isRetired, Bool.or_eq_true, Bool.and_eq_true] at h
      rcases h with ⟨-, hissued⟩ | hretired
      · exact hcons _ log hissued
      · exact hcons _ log (ih hretired)
    | _ => exact hcons _ log (ih h)

/-- Plain facts retire nothing, and accept nothing. -/
theorem NodeAccess.Plain.rotations {s : NodeAccess} {facts log : List NodeFact}
    (h : ∀ f ∈ facts, s.Plain f) (nodeId : NodeId) (credential : String) :
    isRetired nodeId credential (facts ++ log) = isRetired nodeId credential log ∧
      (RotationsFinal log → RotationsFinal (facts ++ log)) := by
  induction facts with
  | nil => exact ⟨rfl, id⟩
  | cons f facts ih =>
    obtain ⟨hretired, hfinal⟩ := ih fun g hg => h g (List.mem_cons_of_mem _ hg)
    have hf := h f List.mem_cons_self
    cases f with
    | rotated n c => exact absurd hf id
    | accepted n c => exact absurd hf id
    | _ => exact ⟨hretired, hfinal⟩

/-- **A step keeps what holds of credentials**, where a rotation draws a new secret. -/
theorem NodeAccess.RotationsSound.step {s t : NodeAccess} {a : NodeAction}
    (hs : s.RotationsSound hash) (hnew : s.DrawsNew hash a)
    (h : s.step hash config codec encodedLen a = some t) : t.RotationsSound hash := by
  obtain ⟨heffect, hopen⟩ := step_effect hs.opens h
  -- where the rows are the same, so are the credentials
  have hsame : t.nodes = s.nodes → ∀ nodeId credential, isRetired nodeId credential s.log = true →
      ∃ row, t.node? nodeId = some row ∧ row.credentialHash ≠ some (hash credential) := by
    intro hnodes nodeId credential hretired
    unfold NodeAccess.node?
    rw [hnodes]
    exact hs.retired nodeId credential hretired
  cases heffect with
  | claimed c hcommit hlog _ =>
    refine ⟨hopen, by rw [hlog]; exact hs.final, fun nodeId credential hretired => ?_⟩
    rw [hlog] at hretired
    obtain ⟨row, hrow, hhash⟩ := hs.retired nodeId credential hretired
    exact ⟨row, node?_insert? (claimTransaction_spec hcommit).1 hrow, hhash⟩
  | rotated nodeId credential now ha hrow ht =>
    subst ha ht
    have hlog : (rotateNodeCredential hash s nodeId credential now).log =
        .rotated nodeId credential :: s.log := by simp [rotateNodeCredential, hrow]
    refine ⟨hopen, by rw [hlog]; exact hs.final, fun n c hretired => ?_⟩
    rw [hlog] at hretired
    rw [node?_rotate hrow]
    have hissued : isIssued n c s.log = true → n = nodeId → hash c ≠ hash credential := by
      intro hissued hn
      obtain ⟨f, hf, hgives⟩ := List.any_eq_true.mp hissued
      exact hnew f hf c (hn ▸ beq_iff_eq.mp hgives)
    by_cases hn : n = nodeId
    · -- the row of this Node takes the new secret
      subst hn
      obtain ⟨row, hmem⟩ := List.exists_mem_of_ne_nil _ (by simpa using hrow)
      obtain ⟨hmem, htakes⟩ := List.mem_filter.mp hmem
      have hid : row.nodeId = n := by
        simp only [rotatable, Bool.and_eq_true, beq_iff_eq] at htakes
        exact htakes.1
      have hfind : s.node? n = some row :=
        find?_of_mem hmem (by simp [hid]) fun a ha => (beq_iff_eq.mp ha).trans hid.symm
      refine ⟨_, by rw [hfind, Option.map_some, if_pos htakes], ?_⟩
      simp only [isRetired, beq_self_eq_true, Bool.true_and, Bool.or_eq_true] at hretired
      have hissuedc : isIssued n c s.log = true := by
        rcases hretired with h | h
        · exact h
        · exact isIssued_of_isRetired h
      exact fun he => hissued hissuedc rfl (Option.some.inj he).symm
    · simp only [isRetired, Bool.or_eq_true, Bool.and_eq_true, beq_iff_eq] at hretired
      rcases hretired with ⟨he, -⟩ | hretired
      · exact absurd he.symm hn
      · obtain ⟨row, hfind, hhash⟩ := hs.retired n c hretired
        have hother : ¬ rotatable nodeId row = true := by
          simp [rotatable, nodeId_of_node? hfind, hn]
        exact ⟨row, by rw [hfind, Option.map_some, if_neg hother], hhash⟩
  | revoked nodeId now _ row hrow ht =>
    subst ht
    have hlog : (revokeNode s nodeId now).log = .revoked nodeId :: s.log := by
      simp [revokeNode, hrow]
    refine ⟨hopen, by rw [hlog]; exact hs.final, fun n c hretired => ?_⟩
    rw [hlog] at hretired
    obtain ⟨r, hr, hhash⟩ := hs.retired n c hretired
    refine ⟨_, (node?_revoke hrow n).trans (by rw [hr, Option.map_some]), ?_⟩
    split
    · exact fun he => by cases he
    · exact hhash
  | accepted nodeId credential row hrow _ hhash hnodes _ hlog _ _ =>
    refine ⟨hopen, ?_, fun n c hretired => ?_⟩
    · rw [hlog]
      refine ⟨?_, hs.final⟩
      by_contra hretired
      obtain ⟨r, hr, hne⟩ := hs.retired nodeId credential (by simpa using hretired)
      obtain rfl : row = r := Option.some.inj (hrow.symm.trans hr)
      exact hne hhash
    · rw [hlog] at hretired
      exact hsame hnodes n c hretired
  | beat nodeId displayName now _ hnodes _ hlog _ =>
    refine ⟨hopen, by rw [hlog]; exact hs.final, fun n c hretired => ?_⟩
    rw [hlog] at hretired
    obtain ⟨r, hr, hhash⟩ := hs.retired n c hretired
    obtain ⟨r', hr', hkept, -⟩ := node?_beat hnodes hr
    exact ⟨r', hr', by rwa [hkept]⟩
  | opened nodeId _ hnodes _ hlog _ _ =>
    refine ⟨hopen, by rw [hlog]; exact hs.final, fun n c hretired => ?_⟩
    rw [hlog] at hretired
    exact hsame hnodes n c hretired
  | other facts hnodes _ hlog hfacts _ =>
    refine ⟨hopen, ?_, fun n c hretired => ?_⟩
    · rw [hlog]
      exact (Plain.rotations hfacts "" "").2 hs.final
    · rw [hlog, (Plain.rotations hfacts n c).1] at hretired
      exact hsame hnodes n c hretired

/-! ## 12. Revocations -/

/-- A Node that is off: its row says that it is revoked, and nothing in hand may act for it. -/
structure NodeAccess.Off (s : NodeAccess) (nodeId : NodeId) : Prop where
  row : ∃ row, s.node? nodeId = some row ∧ row.presence = .revoked
  calls : ∀ call ∈ s.calls, call.authorised ≠ some nodeId
  sockets : ∀ generation, s.core.connections.openNode? generation ≠ some nodeId

/-- What holds of revoked Nodes in every state. -/
structure NodeAccess.RevocationsSound (s : NodeAccess) : Prop where
  opens : s.HandlesOpen
  silent : RevokedSilent s.log
  off : ∀ nodeId, isRevoked nodeId s.log = true → s.Off nodeId

/-- Plain facts revoke nothing; and nothing happens for a Node that is off. -/
theorem NodeAccess.Plain.revocations {s : NodeAccess} {facts : List NodeFact}
    (hs : s.RevocationsSound) (h : ∀ f ∈ facts, s.Plain f) :
    (∀ nodeId, isRevoked nodeId (facts ++ s.log) = isRevoked nodeId s.log) ∧
      RevokedSilent (facts ++ s.log) := by
  induction facts with
  | nil => exact ⟨fun _ => rfl, hs.silent⟩
  | cons f facts ih =>
    obtain ⟨hrevoked, hsilent⟩ := ih fun g hg => h g (List.mem_cons_of_mem _ hg)
    have hf := h f List.mem_cons_self
    have hon : ∀ nodeId, (∃ generation, s.core.connections.openNode? generation = some nodeId) →
        isRevoked nodeId (facts ++ s.log) = false := by
      intro nodeId ⟨generation, hnode⟩
      rw [hrevoked]
      by_contra hoff
      exact (hs.off nodeId (by simpa using hoff)).sockets generation hnode
    cases f with
    | rotated n c => exact absurd hf id
    | accepted n c => exact absurd hf id
    | revoked n => exact absurd hf id
    | frameProcessed n => exact ⟨hrevoked, hon n hf, hsilent⟩
    | dispatched n id => exact ⟨hrevoked, hon n hf, hsilent⟩
    | claimAnswered e response =>
      refine ⟨fun nodeId => ?_, hsilent⟩
      have hnone : response.credential = none := hf
      simp [isRevoked, hnone, hrevoked]

/-- **A step keeps what holds of revoked Nodes**, where a Node is revoked while it is idle. -/
theorem NodeAccess.RevocationsSound.step {s t : NodeAccess} {a : NodeAction}
    (hs : s.RevocationsSound) (hidle : s.RevokesIdle a)
    (h : s.step hash config codec encodedLen a = some t) : t.RevocationsSound := by
  obtain ⟨heffect, hopen⟩ := step_effect hs.opens h
  have hcalls : ∀ nodeId, s.Off nodeId → s.Keeps t →
      ∀ call ∈ t.calls, call.authorised ≠ some nodeId := by
    intro nodeId hoff hkeeps call hcall
    rcases hkeeps.calls call hcall with hcall | hnone
    · exact hoff.calls call hcall
    · rw [hnone]
      exact fun he => by cases he
  have hsockets : ∀ nodeId, s.Off nodeId → s.Keeps t →
      ∀ generation, t.core.connections.openNode? generation ≠ some nodeId :=
    fun nodeId hoff hkeeps generation hnode =>
      hoff.sockets generation (hkeeps.sockets generation nodeId hnode)
  have hrows : ∀ nodeId, s.Off nodeId → t.nodes = s.nodes →
      ∃ row, t.node? nodeId = some row ∧ row.presence = .revoked := by
    intro nodeId hoff hnodes
    unfold NodeAccess.node?
    rw [hnodes]
    exact hoff.row
  cases heffect with
  | claimed c hcommit hlog hkeeps =>
    refine ⟨hopen, by rw [hlog]; exact hs.silent, fun nodeId hrevoked => ?_⟩
    rw [hlog] at hrevoked
    simp only [isRevoked, Bool.and_eq_true] at hrevoked
    have hoff := hs.off nodeId hrevoked.2
    obtain ⟨row, hrow, hpresence⟩ := hoff.row
    exact ⟨⟨row, node?_insert? (claimTransaction_spec hcommit).1 hrow, hpresence⟩,
      hcalls nodeId hoff hkeeps, hsockets nodeId hoff hkeeps⟩
  | rotated nodeId credential now _ hrow ht =>
    subst ht
    have hlog : (rotateNodeCredential hash s nodeId credential now).log =
        .rotated nodeId credential :: s.log := by simp [rotateNodeCredential, hrow]
    have hkeeps : s.Keeps (rotateNodeCredential hash s nodeId credential now) :=
      .of_eq (by simp [rotateNodeCredential, hrow]) (by simp [rotateNodeCredential, hrow])
    refine ⟨hopen, by rw [hlog]; exact hs.silent, fun n hrevoked => ?_⟩
    rw [hlog] at hrevoked
    have hoff := hs.off n hrevoked
    obtain ⟨row, hfind, hpresence⟩ := hoff.row
    have hother : ¬ rotatable nodeId row = true := by simp [rotatable, hpresence]
    exact ⟨⟨row, by rw [node?_rotate hrow, hfind, Option.map_some, if_neg hother], hpresence⟩,
      hcalls n hoff hkeeps, hsockets n hoff hkeeps⟩
  | revoked nodeId now ha row hrow ht =>
    subst ha ht
    have hlog : (revokeNode s nodeId now).log = .revoked nodeId :: s.log := by
      simp [revokeNode, hrow]
    have hkeeps : s.Keeps (revokeNode s nodeId now) :=
      .of_eq (by simp [revokeNode, hrow]) (by simp [revokeNode, hrow])
    refine ⟨hopen, by rw [hlog]; exact hs.silent, fun n hrevoked => ?_⟩
    rw [hlog] at hrevoked
    simp only [isRevoked, Bool.or_eq_true, beq_iff_eq] at hrevoked
    by_cases hn : nodeId = n
    · -- nothing of this Node is in hand
      subst hn
      refine ⟨⟨row.revoked now, ?_, rfl⟩, fun call hcall => ?_, fun generation hnode => ?_⟩
      · rw [node?_revoke hrow, hrow, Option.map_some,
          if_pos (by simpa using nodeId_of_node? hrow)]
      · rcases hkeeps.calls call hcall with hcall | hnone
        · exact hidle.1 call hcall
        · rw [hnone]
          exact fun he => by cases he
      · obtain ⟨c, hc, hnodeId, hclosed⟩ :=
          ConnectionRegistry.exists_mem_of_openNode? (hkeeps.sockets generation nodeId hnode)
        rw [hidle.2 c hc hnodeId] at hclosed
        cases hclosed
    · have hoff := hs.off n (hrevoked.resolve_left hn)
      obtain ⟨r, hfind, hpresence⟩ := hoff.row
      have hother : ¬ (r.nodeId == nodeId) = true := by
        simp [nodeId_of_node? hfind, Ne.symm hn]
      exact ⟨⟨r, by rw [node?_revoke hrow, hfind, Option.map_some, if_neg hother], hpresence⟩,
        hcalls n hoff hkeeps, hsockets n hoff hkeeps⟩
  | accepted nodeId credential row hrow hpresence _ hnodes _ hlog hauthorised hcore =>
    refine ⟨hopen, by rw [hlog]; exact hs.silent, fun n hrevoked => ?_⟩
    rw [hlog] at hrevoked
    have hoff := hs.off n hrevoked
    refine ⟨hrows n hoff hnodes, fun call hcall => ?_, by rw [hcore]; exact hoff.sockets⟩
    rcases hauthorised call hcall with hcall | hnew
    · exact hoff.calls call hcall
    · -- the credential of a revoked Node is not accepted
      rw [hnew]
      intro he
      obtain rfl := Option.some.inj he
      obtain ⟨r, hr, hoffRow⟩ := hoff.row
      obtain rfl : row = r := Option.some.inj (hrow.symm.trans hr)
      exact hpresence hoffRow
  | beat nodeId displayName now hcall hnodes _ hlog hkeeps =>
    refine ⟨hopen, by rw [hlog]; exact hs.silent, fun n hrevoked => ?_⟩
    rw [hlog] at hrevoked
    have hoff := hs.off n hrevoked
    have hn : n ≠ nodeId := by
      rintro rfl
      exact hoff.calls _ hcall rfl
    obtain ⟨row, hrow, hpresence⟩ := hoff.row
    obtain ⟨row', hrow', -, hsame⟩ := node?_beat hnodes hrow
    exact ⟨⟨row', hrow', by rw [hsame hn, hpresence]⟩, hcalls n hoff hkeeps,
      hsockets n hoff hkeeps⟩
  | opened nodeId hcall hnodes _ hlog hkept hcore =>
    refine ⟨hopen, by rw [hlog]; exact hs.silent, fun n hrevoked => ?_⟩
    rw [hlog] at hrevoked
    have hoff := hs.off n hrevoked
    refine ⟨hrows n hoff hnodes, fun call hc => hoff.calls call (hkept call hc),
      fun generation hnode => ?_⟩
    rw [hcore] at hnode
    rcases (ConnectionRegistry.openNode?_context _ nodeId generation n).2 hnode with h | rfl
    · exact hoff.sockets generation h
    · exact hoff.calls _ hcall rfl
  | other facts hnodes _ hlog hfacts hkeeps =>
    obtain ⟨hsame, hsilent⟩ := Plain.revocations hs hfacts
    refine ⟨hopen, by rw [hlog]; exact hsilent, fun n hrevoked => ?_⟩
    rw [hlog, hsame] at hrevoked
    have hoff := hs.off n hrevoked
    exact ⟨hrows n hoff hnodes, hcalls n hoff hkeeps, hsockets n hoff hkeeps⟩

theorem NodeAccess.RevocationsSound.absent {s : NodeAccess} (hs : s.RevocationsSound) :
    s.RevokedAbsent config := by
  intro nodeId row hrow hrevoked
  obtain ⟨r, hr, hpresence⟩ := (hs.off nodeId hrevoked).row
  obtain rfl : row = r := Option.some.inj (hrow.symm.trans hr)
  refine ⟨by rw [hpresence]; decide, fun now => ?_⟩
  unfold effectiveNodePresence derivePresence
  rw [if_pos hpresence]
  decide

/-! ## 13. Runs -/

theorem NodeAccess.Started.handlesOpen {s : NodeAccess} (h : s.Started) : s.HandlesOpen := by
  intro generation hhandles
  rcases handles_iff.mp hhandles with ⟨c, hc, -⟩ | ⟨f, hf, -⟩
  · rw [h.coreCalls] at hc
    cases hc
  · rw [h.frames] at hf
    cases hf

theorem NodeAccess.Started.claimsSound {s : NodeAccess} (h : s.Started) : s.ClaimsSound := by
  refine ⟨h.handlesOpen, fun e => by rw [h.log]; exact Nat.zero_le 1, fun e ⟨f, hf, _⟩ => ?_⟩
  rw [h.log] at hf
  cases hf

theorem NodeAccess.Started.rotationsSound {s : NodeAccess} (h : s.Started) :
    s.RotationsSound hash := by
  refine ⟨h.handlesOpen, by rw [h.log]; trivial, fun n c hretired => ?_⟩
  rw [h.log] at hretired
  cases hretired

theorem NodeAccess.Started.revocationsSound {s : NodeAccess} (h : s.Started) :
    s.RevocationsSound := by
  refine ⟨h.handlesOpen, by rw [h.log]; trivial, fun n hrevoked => ?_⟩
  rw [h.log] at hrevoked
  cases hrevoked

/-- **In every run, an enrollment yields at most one credential.** -/
theorem claims_single {s : NodeAccess} (hs : s.Started) (as : List NodeAction) :
    Throughout (NodeAccess.step hash config codec encodedLen) NodeAccess.ClaimsSingle s as := by
  intro bs cs t _ ht
  exact (run_inv NodeAccess.ClaimsSound (fun _ _ _ hI h => hI.step h) hs.claimsSound ht).single

/-- **Where rotations draw new secrets, what they replace is not accepted again.** -/
theorem rotations_final {s : NodeAccess} (hs : s.Started) {as : List NodeAction}
    (hnew : Meets (NodeAccess.step hash config codec encodedLen) (NodeAccess.DrawsNew hash) s as) :
    Throughout (NodeAccess.step hash config codec encodedLen) (fun t => RotationsFinal t.log) s
      as := by
  intro bs cs t he ht
  have hmeets := Meets.append_left (he ▸ hnew)
  exact (run_inv_of_meets (NodeAccess.RotationsSound hash) (fun _ _ _ hI hC h => hI.step hC h)
    hs.rotationsSound hmeets ht).final

/-- **In a run whose rotations draw new secrets, and where a Node is revoked while it is idle, no
    state breaks what is asked of credentials.** -/
theorem node_access_lawful {s : NodeAccess} (hs : s.Started) {as : List NodeAction}
    (hmeets : Meets (NodeAccess.step hash config codec encodedLen)
      (fun t a => t.DrawsNew hash a ∧ t.RevokesIdle a) s as) :
    Throughout (NodeAccess.step hash config codec encodedLen) (NodeAccess.Lawful config) s as := by
  intro bs cs t he ht
  have hprefix := Meets.append_left (he ▸ hmeets)
  have hclaims := run_inv NodeAccess.ClaimsSound (fun _ _ _ hI h => hI.step h) hs.claimsSound ht
  have hrotations := run_inv_of_meets (NodeAccess.RotationsSound hash)
    (fun _ _ _ hI hC h => hI.step hC.1 h) hs.rotationsSound hprefix ht
  have hrevocations := run_inv_of_meets NodeAccess.RevocationsSound
    (fun _ _ _ hI hC h => hI.step hC.2 h) hs.revocationsSound hprefix ht
  exact ⟨hclaims.single, hrotations.final, hrevocations.silent, hrevocations.absent⟩

end Model

/-! ## 14. A Node that is revoked while it is busy -/

namespace Credentials

def pairingCode : String :=
  "pair-0c8a1f52-7d7e-4b5c-9a53-2f1f3c0d9e11-5b0e6a4d-1c2f-4a7b-8d3e-6f7a8b9c0d12"

def firstSecret : String :=
  "node-1d9b2e63-8e8f-4c6d-8b64-3a2a4d1eaf22-6c1f7b5e-2d3a-4b8c-9e4f-7a8b9c0d1e23"

def secondSecret : String :=
  "node-2eac3f74-9f90-4d7e-9c75-4b3b5e2fb033-7d2a8c6f-3e4b-4c9d-8f5a-8b9c0d1e2f34"

/-- The SHA-256 digests of these three. -/
def digest (secret : String) : String :=
  if secret = pairingCode then "ce2a652d834ccabb56678351beaa3be7694b568bfe1b0b62460b5fac3e4d3db8"
  else if secret = firstSecret then
    "9fad6b583261c00dba7380e3ff3939efaf50c46fb2b2edaceed3176397729a08"
  else if secret = secondSecret then
    "44ef8c008277e17661d47bdf08474240e7fa6f2e3926ec4916eab76ea7c6fd9b"
  else ""

def config : EnrollmentConfig := ⟨false, none, 16, 900, 30, 120⟩

/-- Core with nothing in its tables. -/
def fresh : NodeAccess := { core := emptyLifecycle }

def step : NodeAccess → NodeAction → Option NodeAccess :=
  NodeAccess.step digest config noCodec fun _ => 0

def beat (now : DateTime) (credential : String) : NodeAction :=
  .heartbeat (some credential) ⟨some "n1", "worker", [], []⟩ now

/-- A Node is enrolled and sends a heartbeat. -/
def enrol : List NodeAction :=
  [.createEnrollment "worker" "e1" pairingCode 0, .approve "e1" 1,
    .claim ⟨"e1", pairingCode⟩ "n1" firstSecret 2, .run 0, beat 3 firstSecret, .run 0]

/-- It opens its control socket, and says who it is. -/
def connect (credential : String) : List NodeAction :=
  [.control "n1" (some credential) 4, .run 0, .receive 1 (.hello "v2" "n1"), .core (.run 0 5),
    .core (.run 0 5), .core (.run 0 5)]

/-- A heartbeat whose credential was checked before the revocation writes after it. -/
def lateHeartbeat : List NodeAction := enrol ++ [beat 6 firstSecret, .revoke "n1" 7, .run 0]

/-- The socket stays open: it hands over a frame after the revocation. -/
def lateFrame : List NodeAction :=
  enrol ++ connect firstSecret ++ [.revoke "n1" 6, .receiveTerminal 1]

/-- It stays the Node's: a command is dispatched to it after the revocation. -/
def lateDispatch : List NodeAction :=
  enrol ++ connect firstSecret ++ [.revoke "n1" 6, .core (.recordAndDispatch interruptCommand)] ++
    List.replicate 5 (.core (.run 0 7))

/-- The state that a run ends in. -/
def after (as : List NodeAction) : NodeAccess := (run step fresh as).getD fresh

/-- **A revoked Node comes back, is heard, and is sent a command.** -/
theorem revoked_node_returns :
    ((run step fresh lateHeartbeat).isSome ∧ ¬ (after lateHeartbeat).Lawful config) ∧
      ((run step fresh lateFrame).isSome ∧ ¬ (after lateFrame).Lawful config) ∧
      (run step fresh lateDispatch).isSome ∧ ¬ (after lateDispatch).Lawful config := by
  refine ⟨⟨by decide, fun h => ?_⟩, ⟨by decide, fun h => ?_⟩, by decide,
    fun h => ?_⟩
  · have hrow : (after lateHeartbeat).node? "n1" =
        some ⟨"n1", "worker", .reachable, some 6, none, 6⟩ := by decide
    exact (h.absent "n1" _ hrow (by decide)).1 rfl
  · exact absurd h.silent (by decide)
  · exact absurd h.silent (by decide)

/-- A Node that is revoked after its socket has ended, and whose secret was rotated before. -/
def orderly : List NodeAction :=
  enrol ++ [.rotate "n1" secondSecret 4] ++ connect secondSecret ++
    [.receiveTerminal 1, .handle 0, .disconnect 1, .revoke "n1" 6, beat 7 secondSecret]

theorem node_access_lawful_orderly :
    (run step fresh orderly).isSome ∧
      Throughout step (NodeAccess.Lawful config) fresh orderly := by
  refine ⟨by decide, node_access_lawful ⟨rfl, rfl, rfl, rfl, rfl⟩ ?_⟩
  refine meets_of_check (c := fun t a => decide (t.DrawsNew digest a ∧ t.RevokesIdle a))
    (fun _ => True) (fun _ _ _ _ _ => trivial) (fun t a _ h => of_decide_eq_true h) trivial ?_
  decide

end Credentials

end Uprava.Core
