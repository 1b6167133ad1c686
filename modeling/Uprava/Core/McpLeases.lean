/-
  File:      Uprava/Core/McpLeases.lean
  Subject:   MCP access leases: issuing, validating and revoking them beside the changes of
             sessions and placements, statement by statement.

  A lease is issued after its session's state is read, and validated by the row of the lease first
  and the session's identity second. A signature is a parameter: what the key makes of the claims.
  `Leases.log` is what is committed, the newest first.

  * `Leases.Sound.oneLease`: a session has at most one lease that is not revoked, in every run.
  * `lease_accepted_iff`: what is accepted is the newest lease of its session, signed for its
    claims, and issued after the last stop and the last rotation, exactly when its row is not
    revoked yet where it is accepted, and its session has not been stopped since it was issued.
-/
import Uprava.Lib.Run
import Uprava.Core.ToolCalls

namespace Uprava.Core

open Uprava.Protocol
open Uprava.Lib (Schema Table run run_inv Meets Throughout meets_iff_of_inv)
open Uprava.Lib.Table

/-! ## 1. Tables -/

/-- The columns of `session_threads` that identify a session. -/
structure LeaseSessionRow where
  sessionThreadId : SessionThreadId
  projectPlacementId : ProjectPlacementId
  state : SessionThreadState
  deriving DecidableEq

instance : Schema LeaseSessionRow where
  clash a b := a.sessionThreadId = b.sessionThreadId
  dec _ _ := inferInstanceAs (Decidable (_ = _))
  symm := Eq.symm

/-- The columns of `project_placements` that identify a placement. -/
structure LeasePlacementRow where
  projectPlacementId : ProjectPlacementId
  nodeId : NodeId
  projectId : Option ProjectId
  deriving DecidableEq

instance : Schema LeasePlacementRow where
  clash a b := a.projectPlacementId = b.projectPlacementId
  dec _ _ := inferInstanceAs (Decidable (_ = _))
  symm := Eq.symm

structure LeaseRow where
  leaseId : McpAccessLeaseId
  sessionThreadId : SessionThreadId
  claims : McpAccessLeaseClaims
  credentialVersion : Nat
  issuedAt : DateTime
  expiresAt : DateTime
  revokedAt : Option DateTime
  revocationReason : Option String
  deriving DecidableEq

instance : Schema LeaseRow where
  clash a b := a.leaseId = b.leaseId
  dec _ _ := inferInstanceAs (Decidable (_ = _))
  symm := Eq.symm

structure ScopedIdentity where
  nodeId : NodeId
  projectId : Option ProjectId
  placementId : ProjectPlacementId
  sessionState : SessionThreadState
  deriving DecidableEq

/-! ## 2. Calls in flight -/

/-- What is committed. -/
inductive LeaseEvent where
  | issued (claims : McpAccessLeaseClaims)
  /-- The leases of a session are revoked, as a stop of it is requested. -/
  | stopRequested (sessionThreadId : SessionThreadId)
  /-- The state of a session becomes `stopped`. -/
  | stopped (sessionThreadId : SessionThreadId)
  /-- Core starts with a new key, and revokes all leases. -/
  | rotated
  deriving DecidableEq

/-- A token: the lease, and the signature in its hexadecimal digits. -/
structure LeaseToken (Signature : Type) where
  leaseId : McpAccessLeaseId
  signature : Signature
  deriving DecidableEq

/-- What is left of a call. -/
inductive LeaseCall (Signature : Type) where
  /-- `issue_mcp_access_lease`: the read of the session, and the transaction. -/
  | issueLoad (sessionThreadId : SessionThreadId) (actorRef : ActorRef)
      (leaseId : McpAccessLeaseId)
  | issueCommit (sessionThreadId : SessionThreadId) (actorRef : ActorRef)
      (leaseId : McpAccessLeaseId) (scope : ScopedIdentity)
  /-- `validate_mcp_access_lease`: the read of the lease, and the read of the session. -/
  | validateLoad (token : LeaseToken Signature)
  | validateIdentity (token : LeaseToken Signature) (claims : McpAccessLeaseClaims)
  deriving DecidableEq

structure Leases (Key Signature : Type) where
  key : Key
  sessions : Table LeaseSessionRow := .empty
  placements : Table LeasePlacementRow := .empty
  leases : Table LeaseRow := .empty
  log : List LeaseEvent := []
  calls : List (LeaseCall Signature) := []

section Model

variable {Key Signature : Type} [DecidableEq Signature]
  (mac : Key → McpAccessLeaseClaims → Signature)

/-- `load_scoped_identity_for_session` -/
def loadScopedIdentity (s : Leases Key Signature) (sessionThreadId : SessionThreadId) :
    Except AppError ScopedIdentity :=
  match s.sessions.find? (·.sessionThreadId == sessionThreadId) with
  | none => .error (.notFound "session.not_found" "Session not found")
  | some r =>
    match s.placements.find? (·.projectPlacementId == r.projectPlacementId) with
    | none => .error (.notFound "session.not_found" "Session not found")
    | some p => .ok ⟨p.nodeId, p.projectId, p.projectPlacementId, r.state⟩

/-- The checks of `issue_mcp_access_lease`. -/
def issueChecks (s : Leases Key Signature) (sessionThreadId : SessionThreadId)
    (actorRef : ActorRef) : Except AppError ScopedIdentity :=
  if !toolIsVisibleToActor actorRef then
    .error (.auth "mcp_lease.actor_denied" "Actor cannot receive an MCP lease")
  else do
    let scope ← loadScopedIdentity s sessionThreadId
    if scope.sessionState = .stopped then
      .error (.auth "mcp_lease.session_stopped" "Stopped session cannot receive an MCP lease")
    else return scope

/-- `update mcp_access_leases set revoked_at … where … and revoked_at is null` -/
def revokeLeases (leases : Table LeaseRow) (p : LeaseRow → Bool) (now : DateTime)
    (reason : String) : Table LeaseRow :=
  leases.update (fun r => p r && r.revokedAt.isNone)
    (fun r => { r with revokedAt := some now, revocationReason := some reason })
    ⟨fun _ _ => Iff.rfl⟩

def mcpLeaseTtl : Int := 10 * 60

/-- The claims of a new lease. -/
def newClaims (sessionThreadId : SessionThreadId) (actorRef : ActorRef)
    (leaseId : McpAccessLeaseId) (scope : ScopedIdentity) (credentialVersion : Nat)
    (now : DateTime) : McpAccessLeaseClaims where
  leaseId
  audience := upravaMcpLeaseAudience
  actorRef
  sessionThreadId
  projectId := scope.projectId
  projectPlacementId := scope.placementId
  nodeId := scope.nodeId
  issuedAt := now
  expiresAt := now + mcpLeaseTtl
  credentialVersion

/-- The transaction of `issue_mcp_access_lease`. -/
def issueTransaction (leases : Table LeaseRow) (sessionThreadId : SessionThreadId)
    (actorRef : ActorRef) (leaseId : McpAccessLeaseId) (scope : ScopedIdentity) (now : DateTime) :
    Option (Table LeaseRow × McpAccessLeaseClaims) :=
  let versions := (leases.select (·.sessionThreadId == sessionThreadId)).map (·.credentialVersion)
  let credentialVersion := versions.foldl max 0 + 1
  let claims := newClaims sessionThreadId actorRef leaseId scope credentialVersion now
  ((revokeLeases leases (·.sessionThreadId == sessionThreadId) now "rotated").insert?
    ⟨leaseId, sessionThreadId, claims, credentialVersion, now, now + mcpLeaseTtl, none, none⟩).map
      (·, claims)

/-- What `validate_mcp_access_lease` checks before it reads the session. -/
def checkLease (s : Leases Key Signature) (token : LeaseToken Signature) (now : DateTime) :
    Except ToolExecutionError McpAccessLeaseClaims :=
  match s.leases.find? (·.leaseId == token.leaseId) with
  | none => .error (toolError .notAuthenticated "Invalid MCP lease" false)
  | some row =>
    if row.revokedAt.isSome then
      .error (toolError .leaseRevoked "MCP lease was revoked" false)
    else if token.signature ≠ mac s.key row.claims then
      .error (toolError .notAuthenticated "Invalid MCP lease signature" false)
    else if row.claims.audience ≠ upravaMcpLeaseAudience then
      .error (toolError .notAuthenticated "Invalid MCP lease audience" false)
    else if row.expiresAt ≤ now ∨ row.claims.expiresAt ≤ now then
      .error (toolError .leaseExpired "MCP lease expired" false)
    else if row.claims.credentialVersion ≠ row.credentialVersion then
      .error (toolError .leaseRevoked "MCP lease credential version is stale" false)
    else .ok row.claims

/-- Its last check: the session is still what the claims say, and not stopped. -/
def checkIdentity (s : Leases Key Signature) (claims : McpAccessLeaseClaims) :
    Except ToolExecutionError McpAccessLeaseClaims :=
  match loadScopedIdentity s claims.sessionThreadId with
  | .error e => .error (appToolError e)
  | .ok identity =>
    if identity.nodeId ≠ claims.nodeId ∨ identity.placementId ≠ claims.projectPlacementId ∨
        identity.projectId ≠ claims.projectId ∨ identity.sessionState = .stopped then
      .error (toolError .scopeMismatch "MCP lease scope no longer matches the session" false)
    else .ok claims

/-- Runs the next statement of a call. -/
def LeaseCall.step (s : Leases Key Signature) (now : DateTime) :
    LeaseCall Signature → Leases Key Signature × Option (LeaseCall Signature)
  | issueLoad sessionThreadId actorRef leaseId =>
    match issueChecks s sessionThreadId actorRef with
    | .ok scope => (s, some (issueCommit sessionThreadId actorRef leaseId scope))
    | .error _ => (s, none)
  | issueCommit sessionThreadId actorRef leaseId scope =>
    match issueTransaction s.leases sessionThreadId actorRef leaseId scope now with
    | some (leases, claims) => ({ s with leases, log := .issued claims :: s.log }, none)
    | none => (s, none)
  | validateLoad token =>
    match checkLease mac s token now with
    | .ok claims => (s, some (validateIdentity token claims))
    | .error _ => (s, none)
  | validateIdentity _ _ => (s, none)

/-- What can happen next. -/
inductive LeaseAction (Key Signature : Type) where
  | issue (sessionThreadId : SessionThreadId) (actorRef : ActorRef) (leaseId : McpAccessLeaseId)
  | validate (token : LeaseToken Signature)
  /-- `revoke_session_mcp_leases`, which a requested stop calls. -/
  | revokeSession (sessionThreadId : SessionThreadId) (reason : String) (now : DateTime)
  /-- A session is created, or its row changes. -/
  | setSession (row : LeaseSessionRow)
  | setPlacement (row : LeasePlacementRow)
  /-- Core starts again with a new key: `revoke_all_mcp_leases_for_credential_rotation`. -/
  | restart (key : Key) (now : DateTime)
  | run (position : Nat) (now : DateTime)
  | drop (position : Nat)
  deriving DecidableEq

/-- Does the row stop a session that was not stopped? -/
def stopsSession (sessions : Table LeaseSessionRow) (row : LeaseSessionRow) : Bool :=
  row.state == .stopped &&
    match sessions.find? (·.sessionThreadId == row.sessionThreadId) with
    | some r => r.state != .stopped
    | none => false

def Leases.step (s : Leases Key Signature) :
    LeaseAction Key Signature → Option (Leases Key Signature)
  | .issue sessionThreadId actorRef leaseId =>
    some { s with calls := s.calls ++ [.issueLoad sessionThreadId actorRef leaseId] }
  | .validate token => some { s with calls := s.calls ++ [.validateLoad token] }
  | .revokeSession sessionThreadId reason now => some { s with
      leases := revokeLeases s.leases (·.sessionThreadId == sessionThreadId) now reason
      log := .stopRequested sessionThreadId :: s.log }
  | .setSession row =>
    (s.sessions.upsert? (·.sessionThreadId == row.sessionThreadId) row).map fun sessions =>
      { s with
        sessions
        log := if stopsSession s.sessions row then .stopped row.sessionThreadId :: s.log
          else s.log }
  | .setPlacement row =>
    (s.placements.upsert? (·.projectPlacementId == row.projectPlacementId) row).map
      fun placements => { s with placements }
  | .restart key now => some { s with
      key
      leases := revokeLeases s.leases (fun _ => true) now "core_credential_rotated"
      log := .rotated :: s.log
      calls := [] }
  | .run position now =>
    match s.calls[position]? with
    | none => none
    | some call =>
      let (t, left) := call.step mac s now
      some { t with calls := s.calls.take position ++ left.toList ++ s.calls.drop (position + 1) }
  | .drop position =>
    if position < s.calls.length then some { s with calls := s.calls.eraseIdx position } else none

/-! ## 3. What is asked of a lease that is accepted -/

/-- What was committed after a lease was issued. -/
def newer (leaseId : McpAccessLeaseId) : List LeaseEvent → List LeaseEvent
  | [] => []
  | .issued claims :: log =>
    if claims.leaseId = leaseId then [] else .issued claims :: newer leaseId log
  | e :: log => e :: newer leaseId log

/-- The claims of the newest lease of a session. -/
def latestLease (sessionThreadId : SessionThreadId) : List LeaseEvent → Option McpAccessLeaseClaims
  | [] => none
  | .issued claims :: log =>
    if claims.sessionThreadId = sessionThreadId then some claims
    else latestLease sessionThreadId log
  | _ :: log => latestLease sessionThreadId log

/-- The event stops the session, or rotates the key. -/
def LeaseEvent.Ends (sessionThreadId : SessionThreadId) : LeaseEvent → Prop
  | issued _ => False
  | stopRequested s | stopped s => s = sessionThreadId
  | rotated => True

/-- The token is of the newest lease of its session, signed with Core's key for these claims; the
    session is what the claims say and not stopped; and neither a stop nor a rotation came after
    the lease. -/
structure AcceptedWell (s : Leases Key Signature) (token : LeaseToken Signature)
    (claims : McpAccessLeaseClaims) : Prop where
  leaseId : token.leaseId = claims.leaseId
  latest : latestLease claims.sessionThreadId s.log = some claims
  signed : token.signature = mac s.key claims
  identity : ∃ sessionState, sessionState ≠ .stopped ∧
    loadScopedIdentity s claims.sessionThreadId =
      .ok ⟨claims.nodeId, claims.projectId, claims.projectPlacementId, sessionState⟩
  notEnded : ∀ e ∈ newer claims.leaseId s.log, ¬ e.Ends claims.sessionThreadId

/-- A step accepts a token with these claims. -/
def Leases.Accepts (s : Leases Key Signature) (a : LeaseAction Key Signature)
    (token : LeaseToken Signature) (claims : McpAccessLeaseClaims) : Prop :=
  ∃ position now, a = .run position now ∧
    s.calls[position]? = some (.validateIdentity token claims) ∧
    checkIdentity s claims = .ok claims

/-- What a step accepts is accepted well. -/
def Leases.AcceptsWell (s : Leases Key Signature) (a : LeaseAction Key Signature) : Prop :=
  ∀ token claims, s.Accepts a token claims → AcceptedWell mac s token claims

/-- At most one lease of a session is not revoked. -/
def Leases.OneLease (s : Leases Key Signature) : Prop :=
  ∀ a ∈ s.leases.rows, ∀ b ∈ s.leases.rows, a.sessionThreadId = b.sessionThreadId →
    a.revokedAt = none → b.revokedAt = none → a = b

/-- What a step accepts is a lease whose row is not revoked yet, and whose session has not been
    stopped since it was issued. -/
def Leases.AcceptsFresh (s : Leases Key Signature) (a : LeaseAction Key Signature) : Prop :=
  ∀ token claims, s.Accepts a token claims →
    (∀ r ∈ s.leases.rows, r.leaseId = token.leaseId → r.revokedAt = none) ∧
      .stopped claims.sessionThreadId ∉ newer claims.leaseId s.log

/-! ## 4. A row and the log -/

/-- The event revokes the leases that the session had before it. -/
def LeaseEvent.Revokes (sessionThreadId : SessionThreadId) : LeaseEvent → Prop
  | issued claims => claims.sessionThreadId = sessionThreadId
  | stopRequested s => s = sessionThreadId
  | stopped _ => False
  | rotated => True

/-- The row is of a lease that the log has, and revoked exactly when something after the lease
    revokes it. -/
structure LeaseRow.Logged (r : LeaseRow) (log : List LeaseEvent) : Prop where
  leaseId : r.claims.leaseId = r.leaseId
  sessionThreadId : r.claims.sessionThreadId = r.sessionThreadId
  issued : ∃ older, log = newer r.leaseId log ++ .issued r.claims :: older
  revoked : r.revokedAt = none ↔ ∀ e ∈ newer r.leaseId log, ¬ e.Revokes r.sessionThreadId

theorem newer_cons {leaseId : McpAccessLeaseId} {e : LeaseEvent} {log : List LeaseEvent}
    (he : ∀ claims, e = .issued claims → claims.leaseId ≠ leaseId) :
    newer leaseId (e :: log) = e :: newer leaseId log := by
  cases e with
  | issued claims => rw [newer, if_neg (he claims rfl)]
  | stopRequested s => rfl
  | stopped s => rfl
  | rotated => rfl

/-- A row that one more event revokes, or leaves as it is. -/
theorem LeaseRow.Logged.cons {r r' : LeaseRow} {log : List LeaseEvent} {e : LeaseEvent}
    (h : r.Logged log) (he : ∀ claims, e = .issued claims → claims.leaseId ≠ r.leaseId)
    (hsame : r'.leaseId = r.leaseId ∧ r'.sessionThreadId = r.sessionThreadId ∧
      r'.claims = r.claims)
    (hrevoked : r'.revokedAt = none ↔ r.revokedAt = none ∧ ¬ e.Revokes r.sessionThreadId) :
    r'.Logged (e :: log) := by
  obtain ⟨hid, hsession, hclaims⟩ := hsame
  have hnewer : newer r'.leaseId (e :: log) = e :: newer r.leaseId log := by
    rw [hid]
    exact newer_cons he
  obtain ⟨older, hlog⟩ := h.issued
  refine ⟨by rw [hclaims, hid]; exact h.leaseId, by rw [hclaims, hsession]; exact h.sessionThreadId,
    ⟨older, ?_⟩, ?_⟩
  · rw [hnewer, hclaims, List.cons_append, ← hlog]
  · rw [hnewer, hsession, List.forall_mem_cons, ← h.revoked, hrevoked, and_comm]

/-- **An update that revokes the leases an event revokes keeps the rows and the log together.** -/
theorem logged_revokeLeases {leases : Table LeaseRow} {p : LeaseRow → Bool} {now : DateTime}
    {reason : String} {log : List LeaseEvent} {e : LeaseEvent}
    (h : ∀ r ∈ leases.rows, r.Logged log)
    (he : ∀ r ∈ leases.rows, ∀ claims, e = .issued claims → claims.leaseId ≠ r.leaseId)
    (hp : ∀ r, p r = true ↔ e.Revokes r.sessionThreadId) :
    ∀ r ∈ (revokeLeases leases p now reason).rows, r.Logged (e :: log) := by
  intro r' hr'
  rw [revokeLeases, rows_update, List.mem_map] at hr'
  obtain ⟨r, hr, rfl⟩ := hr'
  refine (h r hr).cons (he r hr) (by split <;> exact ⟨rfl, rfl, rfl⟩) ?_
  rw [← hp r]
  cases hpr : p r <;> cases hrev : r.revokedAt <;> simp [hrev]

/-- A lease that nothing revokes is the newest of its session. -/
theorem LeaseRow.Logged.latest {r : LeaseRow} {log : List LeaseEvent} (h : r.Logged log)
    (hrevoked : r.revokedAt = none) : latestLease r.sessionThreadId log = some r.claims := by
  obtain ⟨older, hlog⟩ := h.issued
  have hnone := h.revoked.mp hrevoked
  rw [hlog]
  -- what is newer than the lease issues none of the session
  generalize newer r.leaseId log = events at hnone
  induction events with
  | nil => rw [List.nil_append, latestLease, if_pos h.sessionThreadId]
  | cons e events ih =>
    obtain ⟨he, hrest⟩ := List.forall_mem_cons.mp hnone
    rw [List.cons_append]
    cases e with
    | issued claims =>
      have hother : ¬ claims.sessionThreadId = r.sessionThreadId := he
      rw [latestLease, if_neg hother, ih hrest]
    | stopRequested s => exact ih hrest
    | stopped s => exact ih hrest
    | rotated => exact ih hrest

theorem leaseId_ne_of_newer {leaseId : McpAccessLeaseId} {log : List LeaseEvent}
    {claims : McpAccessLeaseClaims} (h : .issued claims ∈ newer leaseId log) :
    claims.leaseId ≠ leaseId := by
  induction log with
  | nil => cases h
  | cons e log ih =>
    cases e with
    | issued claims' =>
      rw [newer] at h
      split at h
      · cases h
      · rename_i hne
        rcases List.mem_cons.mp h with heq | h
        · obtain rfl := LeaseEvent.issued.inj heq
          exact hne
        · exact ih h
    | stopRequested s => exact ih (by simpa [newer] using h)
    | stopped s => exact ih (by simpa [newer] using h)
    | rotated => exact ih (by simpa [newer] using h)

/-- Nothing newer than the newest lease of a session issues a lease of the session. -/
theorem LeaseRow.Logged.not_issued_of_latest {r : LeaseRow} {log : List LeaseEvent}
    (h : r.Logged log) (hlatest : latestLease r.sessionThreadId log = some r.claims) :
    ∀ claims, .issued claims ∈ newer r.leaseId log →
      claims.sessionThreadId ≠ r.sessionThreadId := by
  obtain ⟨older, hlog⟩ := h.issued
  have hne : ∀ claims, .issued claims ∈ newer r.leaseId log → claims.leaseId ≠ r.leaseId :=
    fun claims => leaseId_ne_of_newer
  rw [hlog] at hlatest
  generalize newer r.leaseId log = events at hlatest hne
  induction events with
  | nil => exact fun _ hmem => by cases hmem
  | cons e events ih =>
    have hrest := fun claims hmem => hne claims (List.mem_cons_of_mem e hmem)
    have hlift : latestLease r.sessionThreadId (events ++ .issued r.claims :: older) =
        some r.claims → ∀ claims, e = .issued claims ∨ .issued claims ∈ events →
          (e = .issued claims → claims.sessionThreadId ≠ r.sessionThreadId) →
          claims.sessionThreadId ≠ r.sessionThreadId := by
      intro hlatest claims hmem he
      exact hmem.elim he (ih hlatest hrest claims)
    intro claims hmem
    have hmem : e = .issued claims ∨ .issued claims ∈ events := by
      rcases List.mem_cons.mp hmem with heq | hmem
      · exact Or.inl heq.symm
      · exact Or.inr hmem
    cases e with
    | issued claims' =>
      rw [List.cons_append, latestLease] at hlatest
      split at hlatest
      · -- the newest lease is this one, whose id is another
        have hsame : claims' = r.claims := Option.some.inj hlatest
        have hother := hne claims' List.mem_cons_self
        rw [hsame, h.leaseId] at hother
        exact absurd rfl hother
      · rename_i hother
        refine hlift hlatest claims hmem fun heq => ?_
        obtain rfl := LeaseEvent.issued.inj heq
        exact hother
    | stopRequested s => exact hlift hlatest claims hmem fun heq => by cases heq
    | stopped s => exact hlift hlatest claims hmem fun heq => by cases heq
    | rotated => exact hlift hlatest claims hmem fun heq => by cases heq

/-! ## 5. The invariant -/

/-- The rows are those of the log, and a call that is about to accept has checked a row and its
    signature with the key. -/
structure Leases.Sound (s : Leases Key Signature) : Prop where
  rows : ∀ r ∈ s.leases.rows, r.Logged s.log
  checked : ∀ token claims, .validateIdentity token claims ∈ s.calls →
    token.signature = mac s.key claims ∧
      ∃ r ∈ s.leases.rows, r.leaseId = token.leaseId ∧ r.claims = claims

variable {mac}

omit [DecidableEq Signature] in
/-- **A session has at most one lease that is not revoked.** -/
theorem Leases.Sound.oneLease {s : Leases Key Signature} (h : s.Sound mac) : s.OneLease := by
  intro a ha b hb hsession hrevokedA hrevokedB
  have hlatestA := (h.rows a ha).latest hrevokedA
  have hlatestB := (h.rows b hb).latest hrevokedB
  rw [hsession, hlatestB] at hlatestA
  have hclaims : b.claims = a.claims := Option.some.inj hlatestA
  have hid : a.leaseId = b.leaseId := by
    rw [← (h.rows a ha).leaseId, ← (h.rows b hb).leaseId, hclaims]
  exact eq_of_clash ha hb hid

theorem checkLease_eq_ok {s : Leases Key Signature} {token : LeaseToken Signature}
    {now : DateTime} {claims : McpAccessLeaseClaims} (h : checkLease mac s token now = .ok claims) :
    token.signature = mac s.key claims ∧
      ∃ r ∈ s.leases.rows, r.leaseId = token.leaseId ∧ r.claims = claims := by
  unfold checkLease at h
  cases hfind : s.leases.find? (·.leaseId == token.leaseId) with
  | none =>
    rw [hfind] at h
    cases h
  | some row =>
    rw [hfind] at h
    dsimp only at h
    split at h
    · cases h
    split at h
    · cases h
    rename_i hsigned
    split at h
    · cases h
    split at h
    · cases h
    split at h
    · cases h
    obtain rfl := Except.ok.inj h
    have hid : row.leaseId = token.leaseId := by simpa using find?_pos hfind
    exact ⟨not_not.mp hsigned, row, mem_of_find? hfind, hid, rfl⟩

theorem exists_revokeLeases {leases : Table LeaseRow} {p : LeaseRow → Bool} {now : DateTime}
    {reason : String} {leaseId : McpAccessLeaseId} {claims : McpAccessLeaseClaims}
    (h : ∃ r ∈ leases.rows, r.leaseId = leaseId ∧ r.claims = claims) :
    ∃ r ∈ (revokeLeases leases p now reason).rows, r.leaseId = leaseId ∧ r.claims = claims := by
  obtain ⟨r, hr, hid, hclaims⟩ := h
  refine ⟨_, List.mem_map.mpr ⟨r, hr, rfl⟩, ?_⟩
  split <;> exact ⟨hid, hclaims⟩

/-- **The transaction that issues a lease revokes the others of its session.** -/
theorem issueTransaction_logged {leases leases' : Table LeaseRow} {log : List LeaseEvent}
    {sessionThreadId : SessionThreadId} {actorRef : ActorRef} {leaseId : McpAccessLeaseId}
    {scope : ScopedIdentity} {now : DateTime} {claims : McpAccessLeaseClaims}
    (h : ∀ r ∈ leases.rows, r.Logged log)
    (hissue : issueTransaction leases sessionThreadId actorRef leaseId scope now =
      some (leases', claims)) :
    (∀ r ∈ leases'.rows, r.Logged (.issued claims :: log)) ∧
      ∀ id c, (∃ r ∈ leases.rows, r.leaseId = id ∧ r.claims = c) →
        ∃ r ∈ leases'.rows, r.leaseId = id ∧ r.claims = c := by
  unfold issueTransaction at hissue
  dsimp only at hissue
  rw [Option.map_eq_some_iff] at hissue
  obtain ⟨pushed, hinsert, heq⟩ := hissue
  obtain ⟨rfl, hclaims⟩ := Prod.mk.inj heq
  obtain ⟨hfree, hrows⟩ := insert?_eq_some.mp hinsert
  have hids : claims.leaseId = leaseId ∧ claims.sessionThreadId = sessionThreadId := by
    rw [← hclaims]
    exact ⟨rfl, rfl⟩
  -- no row has the new id, so the event is of none of them
  have hnew : ∀ r ∈ leases.rows, ∀ c, LeaseEvent.issued claims = .issued c →
      c.leaseId ≠ r.leaseId := by
    intro r hr c hc hid
    obtain rfl := LeaseEvent.issued.inj hc
    refine hfree ⟨_, List.mem_map.mpr ⟨r, hr, rfl⟩, ?_⟩
    split <;> exact hid.symm.trans hids.1
  have hrevoke := (@logged_revokeLeases _ (fun r => r.sessionThreadId == sessionThreadId) now
      ("rotated")) h hnew (fun r => by
      rw [beq_iff_eq, LeaseEvent.Revokes, hids.2, eq_comm])
  constructor
  · intro r hr
    rw [hrows, List.mem_append, List.mem_singleton] at hr
    rcases hr with hr | rfl
    · exact hrevoke r hr
    · have hnone : newer leaseId (.issued claims :: log) = [] := by
        rw [newer, if_pos hids.1]
      refine ⟨hids.1.symm ▸ ?_, ?_, ⟨log, ?_⟩, ?_⟩
      · rfl
      · rfl
      · rw [hnone, hclaims, List.nil_append]
      · rw [hnone]
        exact iff_of_true rfl fun _ he => by cases he
  · intro id c hold
    obtain ⟨r, hr, hrow⟩ := (@exists_revokeLeases _ (fun r => r.sessionThreadId == sessionThreadId)
        now ("rotated")) hold
    exact ⟨r, by rw [hrows]; exact List.mem_append_left _ hr, hrow⟩

/-- A call has checked a row, and the signature with the key. -/
def Leases.Checked (mac : Key → McpAccessLeaseClaims → Signature) (s : Leases Key Signature)
    (token : LeaseToken Signature) (claims : McpAccessLeaseClaims) : Prop :=
  token.signature = mac s.key claims ∧
    ∃ r ∈ s.leases.rows, r.leaseId = token.leaseId ∧ r.claims = claims

/-- **What a statement leaves**: the rows of the log, all of the old ones among them, and a call
    that has made its checks. -/
theorem LeaseCall.step_spec {s : Leases Key Signature} {now : DateTime}
    (h : ∀ r ∈ s.leases.rows, r.Logged s.log) (call : LeaseCall Signature) :
    (∀ r ∈ (call.step mac s now).1.leases.rows, r.Logged (call.step mac s now).1.log) ∧
      (∀ token claims, s.Checked mac token claims →
        (call.step mac s now).1.Checked mac token claims) ∧
      ∀ token claims, (call.step mac s now).2 = some (.validateIdentity token claims) →
        s.Checked mac token claims := by
  cases call with
  | issueLoad sessionThreadId actorRef leaseId =>
    unfold LeaseCall.step
    dsimp only
    split <;> exact ⟨h, fun _ _ hc => hc, fun _ _ he => by cases he⟩
  | issueCommit sessionThreadId actorRef leaseId scope =>
    unfold LeaseCall.step
    dsimp only
    split
    · rename_i leases claims hissue
      obtain ⟨hrows, hkeep⟩ := issueTransaction_logged h hissue
      exact ⟨hrows, fun _ _ hc => ⟨hc.1, hkeep _ _ hc.2⟩, fun _ _ he => by cases he⟩
    · exact ⟨h, fun _ _ hc => hc, fun _ _ he => by cases he⟩
  | validateLoad token =>
    unfold LeaseCall.step
    dsimp only
    split
    · rename_i claims hcheck
      refine ⟨h, fun _ _ hc => hc, fun token' claims' he => ?_⟩
      obtain ⟨rfl, rfl⟩ := LeaseCall.validateIdentity.inj (Option.some.inj he)
      exact checkLease_eq_ok hcheck
    · exact ⟨h, fun _ _ hc => hc, fun _ _ he => by cases he⟩
  | validateIdentity token claims => exact ⟨h, fun _ _ hc => hc, fun _ _ he => by cases he⟩

/-- **Each step keeps the invariant.** -/
theorem Leases.Sound.step {s t : Leases Key Signature} {a : LeaseAction Key Signature}
    (h : s.Sound mac) (hstep : s.step mac a = some t) : t.Sound mac := by
  cases a with
  | issue sessionThreadId actorRef leaseId =>
    obtain rfl := Option.some.inj hstep
    refine ⟨h.rows, fun token claims hcall => ?_⟩
    exact h.checked token claims (by simpa using hcall)
  | validate token =>
    obtain rfl := Option.some.inj hstep
    refine ⟨h.rows, fun token claims hcall => ?_⟩
    exact h.checked token claims (by simpa using hcall)
  | revokeSession sessionThreadId reason now =>
    obtain rfl := Option.some.inj hstep
    refine ⟨logged_revokeLeases h.rows (fun r _ claims he => by cases he) fun r => ?_,
      fun token claims hcall => ?_⟩
    · rw [beq_iff_eq, LeaseEvent.Revokes, eq_comm]
    · obtain ⟨hsigned, hrow⟩ := h.checked token claims hcall
      exact ⟨hsigned, exists_revokeLeases hrow⟩
  | setSession row =>
    rw [Leases.step, Option.map_eq_some_iff] at hstep
    obtain ⟨sessions, -, rfl⟩ := hstep
    refine ⟨fun r hr => ?_, h.checked⟩
    dsimp only
    split
    · refine (h.rows r hr).cons (fun claims he => by cases he) ⟨rfl, rfl, rfl⟩ ?_
      exact (and_iff_left fun hrevokes => hrevokes).symm
    · exact h.rows r hr
  | setPlacement row =>
    rw [Leases.step, Option.map_eq_some_iff] at hstep
    obtain ⟨placements, -, rfl⟩ := hstep
    exact ⟨h.rows, h.checked⟩
  | restart key now =>
    obtain rfl := Option.some.inj hstep
    refine ⟨logged_revokeLeases h.rows (fun r _ claims he => by cases he) fun r => ?_,
      fun token claims hcall => by cases hcall⟩
    exact iff_of_true rfl trivial
  | run position now =>
    rw [Leases.step] at hstep
    cases hcall : s.calls[position]? with
    | none =>
      rw [hcall] at hstep
      cases hstep
    | some call =>
      rw [hcall] at hstep
      obtain rfl := Option.some.inj hstep
      obtain ⟨hrows, hkeep, hleft⟩ := (@LeaseCall.step_spec _ _ _ mac _ now) h.rows call
      refine ⟨hrows, fun token claims hmem => hkeep token claims ?_⟩
      rcases List.mem_append.mp hmem with hmem | hmem
      · rcases List.mem_append.mp hmem with hmem | hmem
        · exact h.checked token claims (List.mem_of_mem_take hmem)
        · exact hleft token claims (Option.mem_toList.mp hmem)
      · exact h.checked token claims (List.mem_of_mem_drop hmem)
  | drop position =>
    rw [Leases.step] at hstep
    split at hstep
    · obtain rfl := Option.some.inj hstep
      exact ⟨h.rows, fun token claims hcall =>
        h.checked token claims (List.mem_of_mem_eraseIdx hcall)⟩
    · cases hstep

/-! ## 6. What is accepted -/

omit [DecidableEq Signature] in
theorem checkIdentity_eq_ok {s : Leases Key Signature} {claims : McpAccessLeaseClaims}
    (h : checkIdentity s claims = .ok claims) :
    ∃ sessionState, sessionState ≠ .stopped ∧
      loadScopedIdentity s claims.sessionThreadId =
        .ok ⟨claims.nodeId, claims.projectId, claims.projectPlacementId, sessionState⟩ := by
  unfold checkIdentity at h
  cases hload : loadScopedIdentity s claims.sessionThreadId with
  | error e =>
    rw [hload] at h
    cases h
  | ok identity =>
    rw [hload] at h
    dsimp only at h
    split at h
    · cases h
    · rename_i hsame
      simp only [not_or, not_not] at hsame
      obtain ⟨hnode, hplacement, hproject, hstate⟩ := hsame
      refine ⟨identity.sessionState, hstate, ?_⟩
      rw [← hnode, ← hplacement, ← hproject]

/-- An event that neither revokes nor stops is one that neither ends nor issues. -/
theorem LeaseEvent.kept_iff {sessionThreadId : SessionThreadId} (e : LeaseEvent) :
    (¬ e.Revokes sessionThreadId ∧ e ≠ .stopped sessionThreadId) ↔
      (¬ e.Ends sessionThreadId ∧
        ∀ claims, e = .issued claims → claims.sessionThreadId ≠ sessionThreadId) := by
  cases e with
  | issued claims =>
    have hrevokes : (LeaseEvent.issued claims).Revokes sessionThreadId ↔
        claims.sessionThreadId = sessionThreadId := Iff.rfl
    rw [hrevokes]
    constructor
    · intro h
      refine ⟨fun hends => hends, fun claims' heq => ?_⟩
      obtain rfl := LeaseEvent.issued.inj heq
      exact h.1
    · intro h
      exact ⟨h.2 claims rfl, fun heq => by cases heq⟩
  | stopRequested s =>
    constructor
    · intro h
      exact ⟨h.1, fun claims heq => by cases heq⟩
    · intro h
      exact ⟨h.1, fun heq => by cases heq⟩
  | stopped s =>
    constructor
    · intro h
      refine ⟨fun hends => h.2 ?_, fun claims heq => by cases heq⟩
      rw [show s = sessionThreadId from hends]
    · intro h
      refine ⟨fun hrevokes => hrevokes, fun heq => h.1 ?_⟩
      exact LeaseEvent.stopped.inj heq
  | rotated => exact iff_of_false (fun h => h.1 trivial) fun h => h.1 trivial

omit [DecidableEq Signature] in
/-- **What is accepted in a sound state is accepted well exactly when its row is not revoked and
    its session was not stopped since.** -/
theorem acceptedWell_iff {s : Leases Key Signature} {a : LeaseAction Key Signature}
    {token : LeaseToken Signature} {claims : McpAccessLeaseClaims} (hs : s.Sound mac)
    (h : s.Accepts a token claims) :
    AcceptedWell mac s token claims ↔
      (∀ r ∈ s.leases.rows, r.leaseId = token.leaseId → r.revokedAt = none) ∧
        .stopped claims.sessionThreadId ∉ newer claims.leaseId s.log := by
  obtain ⟨position, now, -, hcall, hidentity⟩ := h
  obtain ⟨hsigned, r, hr, hid, rfl⟩ := hs.checked token claims (List.mem_of_getElem? hcall)
  have hlogged := hs.rows r hr
  -- the row of the token is `r`
  have hrow : (∀ r' ∈ s.leases.rows, r'.leaseId = token.leaseId → r'.revokedAt = none) ↔
      r.revokedAt = none := by
    constructor
    · exact fun h => h r hr hid
    · intro hrevoked r' hr' hid'
      rw [eq_of_clash hr' hr (hid'.trans hid.symm)]
      exact hrevoked
  rw [hrow, hlogged.leaseId, hlogged.sessionThreadId]
  constructor
  · intro hwell
    have hlatest := hwell.latest
    have hnotEnded := hwell.notEnded
    rw [hlogged.sessionThreadId] at hlatest
    rw [hlogged.sessionThreadId, hlogged.leaseId] at hnotEnded
    have hkept : ∀ e ∈ newer r.leaseId s.log,
        ¬ e.Revokes r.sessionThreadId ∧ e ≠ .stopped r.sessionThreadId := by
      intro e he
      refine e.kept_iff.mpr ⟨hnotEnded e he, fun claims heq => ?_⟩
      exact hlogged.not_issued_of_latest hlatest claims (heq ▸ he)
    exact ⟨hlogged.revoked.mpr fun e he => (hkept e he).1, fun hmem => (hkept _ hmem).2 rfl⟩
  · intro ⟨hrevoked, hstopped⟩
    refine ⟨hid.symm.trans hlogged.leaseId.symm, ?_, hsigned, checkIdentity_eq_ok hidentity, ?_⟩
    · rw [hlogged.sessionThreadId]
      exact hlogged.latest hrevoked
    · rw [hlogged.sessionThreadId, hlogged.leaseId]
      intro e he
      refine (e.kept_iff.mp ⟨hlogged.revoked.mp hrevoked e he, fun heq => ?_⟩).1
      exact hstopped (heq ▸ he)

/-- **In every run from a Core without leases, each session has at most one lease that is not
    revoked and what is accepted is accepted well, exactly when each accepted lease is one whose
    row is not revoked yet, and whose session has not been stopped since it was issued.** -/
theorem lease_accepted_iff {s : Leases Key Signature} {as : List (LeaseAction Key Signature)}
    (hs : s.leases.rows = [] ∧ s.calls = []) :
    (Throughout (Leases.step mac) Leases.OneLease s as ∧
        Meets (Leases.step mac) (Leases.AcceptsWell mac) s as) ↔
      Meets (Leases.step mac) Leases.AcceptsFresh s as := by
  obtain ⟨hleases, hcalls⟩ := hs
  have hsound : s.Sound mac := by
    refine ⟨fun r hr => ?_, fun token claims hcall => ?_⟩
    · rw [hleases] at hr
      cases hr
    · rw [hcalls] at hcall
      cases hcall
  have hkeep : ∀ u a v, Leases.Sound mac u → u.step mac a = some v → Leases.Sound mac v :=
    fun u a v hu h => hu.step h
  have hone : Throughout (Leases.step mac) Leases.OneLease s as := fun bs cs u he hu =>
    (run_inv (Leases.Sound mac) hkeep hsound hu).oneLease
  rw [and_iff_right hone]
  refine meets_iff_of_inv (Leases.Sound mac) hkeep (fun u a hu => ?_) hsound
  exact forall_congr' fun token => forall_congr' fun claims => forall_congr' fun h =>
    acceptedWell_iff hu h

end Model

/-! ## 7. A session that stops and starts again -/

section Stopped

/-- A signature that is the key and the claims. -/
def plainMac (key : Nat) (claims : McpAccessLeaseClaims) : Nat × McpAccessLeaseClaims :=
  (key, claims)

def leasedSession (state : SessionThreadState) : LeaseSessionRow := ⟨"s1", "p1", state⟩

def firstClaims : McpAccessLeaseClaims :=
  newClaims "s1" (.provider "codex") "l1" ⟨"n1", none, "p1", .active⟩ 1 0

def firstToken : LeaseToken (Nat × McpAccessLeaseClaims) := ⟨"l1", plainMac 7 firstClaims⟩

/-- A provider gets a lease. -/
def issueFirst : List (LeaseAction Nat (Nat × McpAccessLeaseClaims)) :=
  [.setPlacement ⟨"p1", "n1", none⟩, .setSession (leasedSession .active),
    .issue "s1" (.provider "codex") "l1", .run 0 0, .run 0 0]

/-- The provider stops by itself, which no request announced, and is resumed. -/
def stopAndResume : List (LeaseAction Nat (Nat × McpAccessLeaseClaims)) :=
  [.setSession (leasedSession .stopped), .setSession (leasedSession .active)]

def acceptFirst : List (LeaseAction Nat (Nat × McpAccessLeaseClaims)) :=
  [.validate firstToken, .run 0 60]

def noLeases : Leases Nat (Nat × McpAccessLeaseClaims) := { key := 7 }

/-- **The token of a lease survives the stop of its session**: the event that stops the session
    revokes nothing. -/
theorem lease_survives_stop :
    (run (Leases.step plainMac) noLeases
        (issueFirst ++ stopAndResume ++ acceptFirst ++ [.run 0 60])).isSome ∧
      ¬ (Throughout (Leases.step plainMac) Leases.OneLease noLeases
          (issueFirst ++ stopAndResume ++ acceptFirst ++ [.run 0 60]) ∧
        Meets (Leases.step plainMac) (Leases.AcceptsWell plainMac) noLeases
          (issueFirst ++ stopAndResume ++ acceptFirst ++ [.run 0 60])) := by
  refine ⟨by decide, fun ⟨_, hmeets⟩ => ?_⟩
  have hrun : run (Leases.step plainMac) noLeases (issueFirst ++ stopAndResume ++ acceptFirst) =
    some ((run (Leases.step plainMac) noLeases
      (issueFirst ++ stopAndResume ++ acceptFirst)).getD noLeases) := rfl
  have hwell := hmeets.holds hrun firstToken firstClaims ⟨0, 60, rfl, rfl, rfl⟩
  exact hwell.notEnded (.stopped "s1") (by decide) rfl

/-- The theorem's equivalence, for a lease that is issued and used. -/
theorem lease_accepted_iff_used :
    (run (Leases.step plainMac) noLeases (issueFirst ++ acceptFirst ++ [.run 0 60])).isSome ∧
      ((Throughout (Leases.step plainMac) Leases.OneLease noLeases
            (issueFirst ++ acceptFirst ++ [.run 0 60]) ∧
          Meets (Leases.step plainMac) (Leases.AcceptsWell plainMac) noLeases
            (issueFirst ++ acceptFirst ++ [.run 0 60])) ↔
        Meets (Leases.step plainMac) Leases.AcceptsFresh noLeases
          (issueFirst ++ acceptFirst ++ [.run 0 60])) :=
  ⟨by decide, lease_accepted_iff ⟨rfl, rfl⟩⟩

end Stopped

end Uprava.Core
