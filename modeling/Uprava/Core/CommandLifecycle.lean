/-
  File:      Uprava/Core/CommandLifecycle.lean
  Subject:   Core's command lifecycle under concurrency: the calls in flight, each a program that
             runs one statement, one check or one `try_send` at a time, and what their
             interleavings do to a terminal command.

  A call is its own continuation (`Call`): `Call.step` runs its next atomic step and returns what
  is left of it. The step relation `Lifecycle.step` lets any call in flight run, lets Core start
  the calls it makes on its own, and lets a socket hand Core its next frame once the frame before
  it is done.

  `Call.Unguarded` names the writes that check nothing when they are executed; `MeetsGuard` is what
  their guarded sibling `markCommandTerminalIfNonterminal` tests. `terminal_settled_iff` says that
  terminal commands stay as they are along a run exactly when every unguarded write of the run
  passes the test it does not make.
-/
import Uprava.Lib.Run
import Uprava.Core.Commands
import Uprava.Core.Connections

namespace Uprava.Core

open Uprava.Protocol
open Uprava.Lib (run Always Meets always_iff_meets)

/-! ## 1. Calls in flight -/

/-- What is left of a call: its next atomic step, and the data the steps after it need. -/
inductive Call where
  /-- `record_and_dispatch_command` -/
  | record (command : CommandEnvelope)
  | markPending (command : CommandEnvelope)
  /-- `dispatch_pending_commands` -/
  | selectPending (nodeId : NodeId)
  | lookupSender (nodeId : NodeId) (rows : List CommandEnvelope)
  | send (channel : Nat) (rows : List CommandEnvelope)
  | countAttempt (channel : Nat) (command : CommandEnvelope) (rows : List CommandEnvelope)
  | markDispatched (channel : Nat) (command : CommandEnvelope) (rows : List CommandEnvelope)
  /-- `expire_workspace_command_if_due`, after the read that finds its item -/
  | loadItem (commandId : CommandId)
  | expire (item : WorkspaceCommandHistoryItem)
  /-- `CommandAck` -/
  | validateAck (nodeId : NodeId) (commandId : CommandId) (status : CommandState)
  | updateAck (commandId : CommandId) (status : CommandState)
  /-- `CommandResult` -/
  | validateResult (nodeId : NodeId) (commandId : CommandId) (status : CommandState)
      (payload : JsonValue)
  | updateResult (commandId : CommandId) (status : CommandState) (payload : JsonValue)
  deriving DecidableEq

/-- Core's state: the database, the sockets, and the calls in flight. A call that handles a frame
    carries the generation of the socket the frame came from. -/
structure Lifecycle where
  db : Database
  connections : ConnectionRegistry
  calls : List (Option Nat × Call)

section Step

variable (codec : ResultCodec)

/-- Runs the next atomic step of a call. The database and the sockets after it, and what is left
    of the call; nothing is left of one that returned. -/
def Call.step (db : Database) (connections : ConnectionRegistry) (now : DateTime) :
    Call → (Database × ConnectionRegistry) × Option Call
  | record command =>
    match recordCommand db command with
    | .ok db => ((db, connections), some (markPending command))
    | .error _ => ((db, connections), none)
  | markPending command =>
    ((updateCommandState db command.commandId .pendingDispatch now, connections),
      some (selectPending command.target.nodeId))
  | selectPending nodeId =>
    ((db, connections), some (lookupSender nodeId (pendingDispatches db nodeId)))
  | lookupSender nodeId rows =>
    ((db, connections), (connections.sender nodeId).map fun channel => send channel rows)
  | send _ [] => ((db, connections), none)
  | send channel (command :: rows) =>
    match connections.trySend channel (.commandDispatch command) with
    | some connections => ((db, connections), some (countAttempt channel command rows))
    | none => ((db, connections), some (send channel rows))
  | countAttempt channel command rows =>
    ((countDispatchAttempt db command.commandId now, connections),
      some (markDispatched channel command rows))
  | markDispatched channel command rows =>
    ((updateCommandState db command.commandId .dispatched now, connections),
      some (send channel rows))
  | loadItem commandId =>
    ((db, connections), (db.findCommand? commandId).map fun row => expire row.historyItem)
  | expire item => (((expireWorkspaceCommandIfDue db item now).1, connections), none)
  | validateAck nodeId commandId status =>
    match validateCommandAck db nodeId commandId status with
    | .ok () => ((db, connections), some (updateAck commandId status))
    | .error _ => ((db, connections), none)
  | updateAck commandId status => ((updateCommandState db commandId status now, connections), none)
  | validateResult nodeId commandId status payload =>
    let durable := durableCommandResultPayload payload
    match validateCommandResult codec db nodeId commandId status durable with
    | .ok () => ((db, connections), some (updateResult commandId status durable))
    | .error _ => ((db, connections), none)
  | updateResult commandId status payload =>
    ((updateCommandResult db commandId status payload now, connections), none)

/-- What can happen next. -/
inductive Action where
  /-- Core records a command and dispatches it. -/
  | recordAndDispatch (command : CommandEnvelope)
  /-- Core dispatches what waits for a Node. -/
  | dispatch (nodeId : NodeId)
  /-- Core reads a workspace command and expires it if it is due. -/
  | expireIfDue (commandId : CommandId)
  | connect (nodeId : NodeId)
  | disconnect (generation : Nat)
  | transmit (generation : Nat)
  /-- A socket hands Core its next frame. -/
  | receive (generation : Nat) (frame : ControlFrame)
  /-- The call at a position runs its next step. -/
  | run (position : Nat) (now : DateTime)
  deriving DecidableEq

/-- The call a frame of a socket starts, once the socket may send it: the active socket any frame,
    another one only the `Hello` that activates it. -/
def Lifecycle.frameCall (s : Lifecycle) (c : ControlChannel) :
    ControlFrame → Option (ConnectionRegistry × Call)
  | .hello protocolVersion nodeId =>
    if nodeId = c.nodeId ∧ isSupportedProtocolVersion protocolVersion then
      (s.connections.activate c.nodeId c.generation).map fun r =>
        ((r.trySend c.generation .helloAck).getD r, .selectPending c.nodeId)
    else none
  | .commandAck commandId status =>
    if s.connections.isActive c.nodeId c.generation then
      some (s.connections, .validateAck c.nodeId commandId status)
    else none
  | .commandResult commandId status payload =>
    if s.connections.isActive c.nodeId c.generation then
      some (s.connections, .validateResult c.nodeId commandId status payload)
    else none
  | _ => none

def Lifecycle.step (s : Lifecycle) : Action → Option Lifecycle
  | .recordAndDispatch command =>
    some { s with calls := s.calls ++ [(none, .record command)] }
  | .dispatch nodeId => some { s with calls := s.calls ++ [(none, .selectPending nodeId)] }
  | .expireIfDue commandId => some { s with calls := s.calls ++ [(none, .loadItem commandId)] }
  | .connect nodeId => some { s with connections := s.connections.context nodeId }
  | .disconnect generation =>
    (s.connections.channel? generation).map fun c =>
      { s with connections := s.connections.removeIfActive c.nodeId generation }
  | .transmit generation => some { s with connections := s.connections.transmit generation }
  | .receive generation frame =>
    -- a socket's frames are handled one after the other
    if s.calls.any (·.1 == some generation) then none
    else
      (s.connections.channel? generation).bind fun c =>
        (s.frameCall c frame).map fun (connections, call) =>
          { s with connections, calls := s.calls ++ [(some generation, call)] }
  | .run position now =>
    match s.calls[position]? with
    | none => none
    | some (origin, call) =>
      let ((db, connections), rest) := call.step codec s.db s.connections now
      some
        { db
          connections
          calls := match rest with
            | some call => s.calls.set position (origin, call)
            | none => s.calls.eraseIdx position }

end Step

/-! ## 2. Terminal commands stay as they are -/

/-- Every terminal command of the first database is in the second one with the same state and the
    same result, and is not among the commands that wait for a Node. -/
def Database.Settled (db db' : Database) : Prop :=
  ∀ row ∈ db.commands.rows, isTerminalCommandState row.state →
    (∃ row' ∈ db'.commands.rows, row'.commandId = row.commandId ∧ row'.state = row.state ∧
      row'.resultPayload = row.resultPayload) ∧
    ∀ nodeId, ∀ r ∈ pendingCommands db' nodeId, r.commandId ≠ row.commandId

/-- A terminal row keeps its command out of the pending ones. -/
theorem ne_of_mem_pendingCommands {db : Database} {row r : CommandRow} {nodeId : NodeId}
    (hrow : row ∈ db.commands.rows) (hterm : isTerminalCommandState row.state)
    (hr : r ∈ pendingCommands db nodeId) : r.commandId ≠ row.commandId := by
  intro he
  obtain ⟨hmem, hwaits⟩ := List.mem_filter.mp hr
  have hsame : r = row := Lib.Table.eq_of_clash hmem hrow he
  subst hsame
  simp [awaitsNode_eq_not_terminal, hterm] at hwaits

theorem settled_of_rows {db db' : Database}
    (h : ∀ row ∈ db.commands.rows, isTerminalCommandState row.state →
      ∃ row' ∈ db'.commands.rows, row'.commandId = row.commandId ∧ row'.state = row.state ∧
        row'.resultPayload = row.resultPayload) : db.Settled db' := by
  intro row hrow hterm
  obtain ⟨row', hrow', hid, hstate, hresult⟩ := h row hrow hterm
  refine ⟨⟨row', hrow', hid, hstate, hresult⟩, fun nodeId r hr => ?_⟩
  rw [← hid]
  exact ne_of_mem_pendingCommands hrow' (by rw [hstate]; exact hterm) hr

theorem Database.Settled.refl (db : Database) : db.Settled db :=
  settled_of_rows fun row hrow _ => ⟨row, hrow, rfl, rfl, rfl⟩

theorem Database.Settled.trans {db₁ db₂ db₃ : Database} (h₁ : db₁.Settled db₂)
    (h₂ : db₂.Settled db₃) : db₁.Settled db₃ := by
  refine settled_of_rows fun row hrow hterm => ?_
  obtain ⟨⟨row₂, hrow₂, hid₂, hstate₂, hresult₂⟩, -⟩ := h₁ row hrow hterm
  obtain ⟨⟨row₃, hrow₃, hid₃, hstate₃, hresult₃⟩, -⟩ := h₂ row₂ hrow₂ (by rw [hstate₂]; exact hterm)
  exact ⟨row₃, hrow₃, hid₃.trans hid₂, hstate₃.trans hstate₂, hresult₃.trans hresult₂⟩

/-- **An update keeps the terminal commands exactly when it keeps the state and the result of each
    terminal row it changes.** -/
theorem settled_update_iff {db db' : Database} {p : CommandRow → Bool}
    {f : CommandRow → CommandRow}
    (hdb' : db'.commands.rows = db.commands.rows.map fun r => if p r then f r else r)
    (hid : ∀ r, (f r).commandId = r.commandId) :
    db.Settled db' ↔ ∀ row ∈ db.commands.rows, p row → isTerminalCommandState row.state →
      (f row).state = row.state ∧ (f row).resultPayload = row.resultPayload := by
  have hmem : ∀ row ∈ db.commands.rows, (if p row then f row else row) ∈ db'.commands.rows := by
    intro row hrow
    rw [hdb']
    exact List.mem_map_of_mem (f := fun r => if p r then f r else r) hrow
  constructor
  · intro h row hrow hp hterm
    obtain ⟨⟨row', hrow', hid', hstate, hresult⟩, -⟩ := h row hrow hterm
    have himage : f row ∈ db'.commands.rows := by simpa [hp] using hmem row hrow
    have hsame : row' = f row :=
      Lib.Table.eq_of_clash hrow' himage (hid'.trans (hid row).symm)
    rw [← hsame]
    exact ⟨hstate, hresult⟩
  · intro h
    refine settled_of_rows fun row hrow hterm => ⟨_, hmem row hrow, ?_⟩
    by_cases hp : p row
    · obtain ⟨hstate, hresult⟩ := h row hrow hp hterm
      simp [hp, hid, hstate, hresult]
    · simp [hp]

/-- The command's row is not terminal. -/
def Database.Open (db : Database) (commandId : CommandId) : Prop :=
  ∀ row ∈ db.commands.rows, row.commandId = commandId → isTerminalCommandState row.state = false

instance (db : Database) (commandId : CommandId) : Decidable (db.Open commandId) :=
  inferInstanceAs (Decidable (∀ row ∈ db.commands.rows, _ → _))

/-- A write of a state that is not terminal is safe on an open command and on no other. -/
theorem settled_updateCommandState {db : Database} {commandId : CommandId} {s : CommandState}
    {now : DateTime} (hs : isTerminalCommandState s = false) :
    db.Settled (updateCommandState db commandId s now) ↔ db.Open commandId := by
  have hrows : (updateCommandState db commandId s now).commands.rows = db.commands.rows.map
      fun r => if r.commandId == commandId then r.setState s now else r := by
    simp [updateCommandState]
  rw [settled_update_iff hrows fun _ => rfl]
  constructor
  · intro h row hrow hid
    by_contra hterm
    have hterm' : isTerminalCommandState row.state = true := by simpa using hterm
    obtain ⟨hstate, -⟩ := h row hrow (by simpa using hid) hterm'
    rw [show s = row.state from hstate] at hs
    simp [hterm'] at hs
  · intro h row hrow hp hterm
    have hopen := h row hrow (by simpa using hp)
    simp [hterm] at hopen

/-- A write of a result is safe on an open command, and on one that has this very result. -/
theorem settled_updateCommandResult {db : Database} {commandId : CommandId} {s : CommandState}
    {payload : JsonValue} {now : DateTime} :
    db.Settled (updateCommandResult db commandId s payload now) ↔
      ∀ row ∈ db.commands.rows, row.commandId = commandId → isTerminalCommandState row.state →
        row.state = s ∧ row.resultPayload = some payload := by
  have hrows : (updateCommandResult db commandId s payload now).commands.rows =
      db.commands.rows.map fun r => if r.commandId == commandId then r.setResult s payload now else r := by
    simp [updateCommandResult]
  rw [settled_update_iff hrows fun _ => rfl]
  simp only [beq_iff_eq]
  refine forall₄_congr fun row _ _ _ => ?_
  constructor
  · rintro ⟨h, h'⟩
    exact ⟨h.symm, h'.symm⟩
  · rintro ⟨h, h'⟩
    exact ⟨h.symm, h'.symm⟩

/-- The guarded write keeps every terminal command. -/
theorem settled_markCommandTerminalIfNonterminal (db : Database) (commandId : CommandId)
    (s : CommandState) (payload : JsonValue) (now : DateTime) :
    db.Settled (markCommandTerminalIfNonterminal db commandId s payload now).1 := by
  unfold markCommandTerminalIfNonterminal
  split
  · exact .refl db
  · refine (settled_update_iff (f := .setTerminal s payload now) rfl fun _ => rfl).mpr ?_
    intro row _ hdue hterm
    simp [CommandRow.unfinished, hterm] at hdue

theorem settled_expireWorkspaceCommandIfDue (db : Database) (item : WorkspaceCommandHistoryItem)
    (now : DateTime) : db.Settled (expireWorkspaceCommandIfDue db item now).1 := by
  unfold expireWorkspaceCommandIfDue
  split
  · exact .refl db
  · split
    · exact .refl db
    · exact settled_markCommandTerminalIfNonterminal db _ _ _ _

theorem settled_recordCommand {db db' : Database} {command : CommandEnvelope}
    (h : recordCommand db command = .ok db') : db.Settled db' := by
  unfold recordCommand at h
  split at h
  · cases h
  · obtain ⟨actors, hactors⟩ := upsertActor_eq db command.actorRef command.issuedAt
    rw [hactors] at h
    dsimp only at h
    split at h
    · cases h
    · rename_i commands hinsert
      cases h
      have hrows : commands.rows = db.commands.rows ++ [.recorded command] :=
        (Lib.Table.insert?_eq_some.mp hinsert).2
      refine settled_of_rows fun row hrow _ => ⟨row, ?_, rfl, rfl, rfl⟩
      show row ∈ commands.rows
      rw [hrows]
      exact List.mem_append_left _ hrow

/-! ## 3. The test an unguarded write does not make -/

/-- What the guarded write tests, for the writes that test nothing: the command is not terminal.
    A result may also find its own result stored. -/
def Call.MeetsGuard (db : Database) : Call → Prop
  | markPending command => db.Open command.commandId
  | markDispatched _ command _ => db.Open command.commandId
  | updateAck commandId _ => db.Open commandId
  | updateResult commandId status payload =>
    ∀ row ∈ db.commands.rows, row.commandId = commandId → isTerminalCommandState row.state →
      row.state = status ∧ row.resultPayload = some payload
  | _ => True

/-- The condition of an action: the call it runs, if its next step is an unguarded write, finds
    what the guarded write would have tested. -/
def Lifecycle.MeetsGuard (s : Lifecycle) : Action → Prop
  | .run position _ => ∀ origin call, s.calls[position]? = some (origin, call) →
      call.MeetsGuard s.db
  | _ => True

/-- An acknowledgement that passed its check writes `acknowledged`. -/
def Call.AckChecked : Call → Prop
  | updateAck _ status => status = .acknowledged
  | _ => True

def Lifecycle.AcksChecked (s : Lifecycle) : Prop := ∀ c ∈ s.calls, c.2.AckChecked

theorem validateCommandAck_ok {db : Database} {nodeId : NodeId} {commandId : CommandId}
    {status : CommandState} (h : validateCommandAck db nodeId commandId status = .ok ()) :
    status = .acknowledged := by
  unfold validateCommandAck at h
  split at h
  · cases h
  · split at h
    · cases h
    · split at h
      · cases h
      · rename_i hs
        simpa using hs

variable {codec : ResultCodec}

theorem Call.step_ackChecked (db : Database) (connections : ConnectionRegistry) (now : DateTime)
    (c c' : Call) (h : (c.step codec db connections now).2 = some c') : c'.AckChecked := by
  cases c with
  | validateAck nodeId commandId status =>
    simp only [Call.step] at h
    split at h
    · rename_i hok
      cases h
      exact validateCommandAck_ok hok
    · cases h
  | record command =>
    simp only [Call.step] at h
    split at h <;> cases h
    trivial
  | lookupSender nodeId rows =>
    simp only [Call.step, Option.map_eq_some_iff] at h
    obtain ⟨_, _, rfl⟩ := h
    trivial
  | send channel rows =>
    cases rows with
    | nil => cases h
    | cons command rows =>
      simp only [Call.step] at h
      split at h <;> cases h <;> trivial
  | loadItem commandId =>
    simp only [Call.step, Option.map_eq_some_iff] at h
    obtain ⟨_, _, rfl⟩ := h
    trivial
  | validateResult nodeId commandId status payload =>
    simp only [Call.step] at h
    split at h <;> cases h
    trivial
  | _ =>
    cases h
    try trivial

/-- **What one step of a call does to terminal commands**: it keeps them exactly when it passes
    the test. -/
theorem Call.step_settled_iff {db : Database} {connections : ConnectionRegistry} {now : DateTime}
    {c : Call} (hack : c.AckChecked) :
    db.Settled (c.step codec db connections now).1.1 ↔ c.MeetsGuard db := by
  cases c with
  | markPending command => exact settled_updateCommandState rfl
  | markDispatched channel command rows => exact settled_updateCommandState rfl
  | updateAck commandId status =>
    obtain rfl : status = .acknowledged := hack
    exact settled_updateCommandState rfl
  | updateResult commandId status payload => exact settled_updateCommandResult
  | record command =>
    refine iff_of_true ?_ trivial
    simp only [Call.step]
    split
    · rename_i hok
      exact settled_recordCommand hok
    · exact .refl db
  | expire item => exact iff_of_true (settled_expireWorkspaceCommandIfDue db item now) trivial
  | send channel rows =>
    refine iff_of_true ?_ trivial
    cases rows with
    | nil => exact .refl db
    | cons command rows =>
      simp only [Call.step]
      split <;> exact .refl db
  | validateAck nodeId commandId status =>
    refine iff_of_true ?_ trivial
    simp only [Call.step]
    split <;> exact .refl db
  | validateResult nodeId commandId status payload =>
    refine iff_of_true ?_ trivial
    simp only [Call.step]
    split <;> exact .refl db
  | countAttempt channel command rows =>
    exact iff_of_true (settled_of_rows fun row hrow _ => ⟨row, hrow, rfl, rfl, rfl⟩) trivial
  | selectPending nodeId => exact iff_of_true (.refl db) trivial
  | lookupSender nodeId rows => exact iff_of_true (.refl db) trivial
  | loadItem commandId => exact iff_of_true (.refl db) trivial

/-! ## 4. Steps and runs -/

theorem Lifecycle.frameCall_ackChecked {s : Lifecycle} {c : ControlChannel} {frame : ControlFrame}
    {r : ConnectionRegistry} {call : Call} (h : s.frameCall c frame = some (r, call)) :
    call.AckChecked := by
  unfold Lifecycle.frameCall at h
  split at h
  · split at h
    · obtain ⟨_, _, he⟩ := Option.map_eq_some_iff.mp h
      cases he
      trivial
    · cases h
  · split at h <;> cases h
    trivial
  · split at h <;> cases h
    trivial
  · cases h

/-- Acknowledgements in flight stay checked. -/
theorem Lifecycle.step_acksChecked {s t : Lifecycle} {a : Action} (hs : s.AcksChecked)
    (h : s.step codec a = some t) : t.AcksChecked := by
  have hpush : ∀ (o : Option Nat) (call : Call), call.AckChecked →
      ∀ c ∈ s.calls ++ [(o, call)], c.2.AckChecked := by
    intro o call hcall c hc
    rcases List.mem_append.mp hc with hc | hc
    · exact hs c hc
    · obtain rfl : c = (o, call) := by simpa using hc
      exact hcall
  cases a with
  | recordAndDispatch command => cases h; exact hpush _ _ trivial
  | dispatch nodeId => cases h; exact hpush _ _ trivial
  | expireIfDue commandId => cases h; exact hpush _ _ trivial
  | connect nodeId => cases h; exact hs
  | transmit generation => cases h; exact hs
  | disconnect generation =>
    obtain ⟨c, _, rfl⟩ := Option.map_eq_some_iff.mp h
    exact hs
  | receive generation frame =>
    simp only [Lifecycle.step] at h
    split at h
    · cases h
    · obtain ⟨c, _, hc⟩ := Option.bind_eq_some_iff.mp h
      obtain ⟨⟨r, call⟩, hcall, rfl⟩ := Option.map_eq_some_iff.mp hc
      exact hpush _ _ (frameCall_ackChecked hcall)
  | run position now =>
    simp only [Lifecycle.step] at h
    split at h
    · cases h
    · rename_i origin call hcall
      cases h
      intro c hc
      dsimp only at hc
      split at hc
      · rename_i rest hrest
        rcases List.mem_or_eq_of_mem_set hc with hc | rfl
        · exact hs c hc
        · exact call.step_ackChecked s.db s.connections now rest hrest
      · exact hs c (List.mem_of_mem_eraseIdx hc)

/-- One step keeps the terminal commands exactly when it meets the guard. -/
theorem Lifecycle.step_settled_iff {s t : Lifecycle} {a : Action} (hs : s.AcksChecked)
    (h : s.step codec a = some t) : s.db.Settled t.db ↔ s.MeetsGuard a := by
  cases a with
  | recordAndDispatch command => cases h; exact iff_of_true (.refl _) trivial
  | dispatch nodeId => cases h; exact iff_of_true (.refl _) trivial
  | expireIfDue commandId => cases h; exact iff_of_true (.refl _) trivial
  | connect nodeId => cases h; exact iff_of_true (.refl _) trivial
  | transmit generation => cases h; exact iff_of_true (.refl _) trivial
  | disconnect generation =>
    obtain ⟨c, _, rfl⟩ := Option.map_eq_some_iff.mp h
    exact iff_of_true (.refl _) trivial
  | receive generation frame =>
    simp only [Lifecycle.step] at h
    split at h
    · cases h
    · obtain ⟨c, _, hc⟩ := Option.bind_eq_some_iff.mp h
      obtain ⟨_, _, rfl⟩ := Option.map_eq_some_iff.mp hc
      exact iff_of_true (.refl _) trivial
  | run position now =>
    simp only [Lifecycle.step] at h
    split at h
    · cases h
    · rename_i origin call hcall
      cases h
      refine (call.step_settled_iff (hs _ (List.mem_of_getElem? hcall))).trans ?_
      constructor
      · intro hguard origin' call' hcall'
        rw [hcall] at hcall'
        cases hcall'
        exact hguard
      · exact fun hguard => hguard origin call hcall

/-- **Terminal commands stay as they are, and out of the pending ones, along a run exactly when
    each unguarded write of the run passes the test the guarded write makes.** -/
theorem terminal_settled_iff (codec : ResultCodec) {s t : Lifecycle} {as : List Action}
    (hs : s.calls = []) (hrun : run (Lifecycle.step codec) s as = some t) :
    Always (Lifecycle.step codec) (fun s t => s.db.Settled t.db) s as ↔
      Meets (Lifecycle.step codec) Lifecycle.MeetsGuard s as := by
  refine always_iff_meets (R := fun s t : Lifecycle => s.db.Settled t.db)
    Lifecycle.AcksChecked (fun s => .refl s.db)
    (fun _ _ _ h h' => h.trans h') (fun _ _ _ hI h => Lifecycle.step_acksChecked hI h)
    (fun _ _ _ hI h => Lifecycle.step_settled_iff hI h) ?_ hrun
  rw [Lifecycle.AcksChecked, hs]
  exact fun c hc => absurd hc (by simp)

/-! ## 5. A dispatch that its own result overtakes -/

section Overtaken

/-- No result of the commands below is decoded. -/
def noCodec : ResultCodec := ⟨fun _ _ => none, fun _ => none, fun _ => none⟩

def interruptCommand : CommandEnvelope where
  commandId := "c1"
  kind := .interruptRuntime
  target := .sessionRuntime "n1" "p1" "s1" "r1"
  actorRef := .localUser none
  issuedAt := 0
  correlationId := "k1"
  payload := .interruptRuntime

/-- Core with an empty database, no socket and no call in flight. -/
def emptyLifecycle : Lifecycle := ⟨{}, {}, []⟩

/-- A Node connects, Core dispatches a command to it and counts the attempt, and the result comes
    back while the call has not written `dispatched` yet. -/
def resultBeforeDispatched : List Action :=
  [.connect "n1", .receive 1 (.hello "v2" "n1"), .run 0 1, .run 0 1, .run 0 1,
    .recordAndDispatch interruptCommand, .run 0 2, .run 0 2, .run 0 2, .run 0 2, .run 0 2, .run 0 2,
    .receive 1 (.commandResult "c1" .completed .emptyObject), .run 1 3, .run 1 3]

/-- The dispatching call goes on: it writes `dispatched` over the result. -/
def overtakenDispatch : List Action := resultBeforeDispatched ++ [.run 0 4]

/-- Core after the result is stored, and after the dispatch went on. -/
def completed : Lifecycle :=
  (run (Lifecycle.step noCodec) emptyLifecycle resultBeforeDispatched).getD emptyLifecycle

def redispatched : Lifecycle :=
  (run (Lifecycle.step noCodec) completed [.run 0 4]).getD emptyLifecycle

/-- **The completed command of `overtakenDispatch` is dispatched again.** -/
theorem overtakenDispatch_not_settled :
    (run (Lifecycle.step noCodec) emptyLifecycle overtakenDispatch).isSome ∧
    ¬ Always (Lifecycle.step noCodec) (fun s t => s.db.Settled t.db) emptyLifecycle
      overtakenDispatch := by
  refine ⟨by decide, fun h => ?_⟩
  have hsettled : completed.db.Settled redispatched.db :=
    h resultBeforeDispatched [.run 0 4] [] _ _ rfl rfl rfl
  have hrows : ∀ row ∈ completed.db.commands.rows, isTerminalCommandState row.state →
      ∃ row' ∈ redispatched.db.commands.rows, row'.commandId = row.commandId ∧
        row'.state = row.state := by
    intro row hrow hterm
    obtain ⟨⟨row', hrow', hid, hstate, -⟩, -⟩ := hsettled row hrow hterm
    exact ⟨row', hrow', hid, hstate⟩
  exact absurd hrows (by decide)

/-- The calls of a run that no result overtakes: the dispatch ends before the result arrives. -/
def orderlyDispatch : List Action :=
  [.connect "n1", .receive 1 (.hello "v2" "n1"), .run 0 1, .run 0 1, .run 0 1,
    .recordAndDispatch interruptCommand, .run 0 2, .run 0 2, .run 0 2, .run 0 2, .run 0 2, .run 0 2,
    .run 0 2, .receive 1 (.commandResult "c1" .completed .emptyObject), .run 1 3, .run 1 3]

theorem terminal_settled_iff_orderlyDispatch :
    ∃ t, run (Lifecycle.step noCodec) emptyLifecycle orderlyDispatch = some t ∧
      (Always (Lifecycle.step noCodec) (fun s t => s.db.Settled t.db) emptyLifecycle
          orderlyDispatch ↔
        Meets (Lifecycle.step noCodec) Lifecycle.MeetsGuard emptyLifecycle orderlyDispatch) := by
  have hrun : (run (Lifecycle.step noCodec) emptyLifecycle orderlyDispatch).isSome := by decide
  exact ⟨_, (Option.some_get hrun).symm,
    terminal_settled_iff noCodec rfl (Option.some_get hrun).symm⟩

end Overtaken

end Uprava.Core
