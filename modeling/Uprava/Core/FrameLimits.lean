/-
  File:      Uprava/Core/FrameLimits.lean
  Subject:   The limits Core holds a Node's frames to: the bytes of a frame, the length of a string,
             the nesting, and the items and the bytes of an event batch.

  A frame is read as the JSON value it is sent as. `acceptsFrame_result_iff` and
  `acceptsFrame_batch_iff` say what the checks come to for the two frames whose size is not fixed:
  conditions on the payload, and on the events.
-/
import Uprava.Core.Batch
import Uprava.Lib.JsonSize

namespace Uprava.Core

open Uprava.Protocol
open Uprava.Lib (JsonArray JsonMap quotedLen fieldsLen itemsLen encodedLen_ofFields
  allStrings_ofFields nesting_ofFields encodedLen_ofItems allStrings_ofItems nesting_ofItems)

/-! ## 1. Frames as values -/

/-- `rename_all = "snake_case"`. -/
def commandStateLabel : CommandState → String
  | .recorded => "recorded"
  | .pendingDispatch => "pending_dispatch"
  | .dispatched => "dispatched"
  | .acknowledged => "acknowledged"
  | .completed => "completed"
  | .failed => "failed"
  | .blocked => "blocked"
  | .expired => "expired"

/-- The id and the time a frame is sent under. The id is a UUID. -/
structure FrameStamp where
  frameId : String
  frameId_le : frameId.length ≤ 36
  sentAt : TimeText

/-- How an event is encoded, and a frame that carries neither a result nor events. -/
structure Wire where
  event : EventEnvelope → JsonValue
  other : ControlFrame → JsonValue

/-- `serde_json::to_value(frame)`. -/
def encodeFrame (wire : Wire) (stamp : FrameStamp) : ControlFrame → JsonValue
  | .commandResult commandId status payload => .ofFields
      [("kind", .string "command_result"), ("frame_id", .string stamp.frameId),
        ("protocol_version", .string currentProtocolVersion), ("sent_at", .string stamp.sentAt.text),
        ("command_id", .string commandId), ("status", .string (commandStateLabel status)),
        ("payload", payload)]
  | .eventBatch events => .ofFields
      [("kind", .string "event_batch"), ("frame_id", .string stamp.frameId),
        ("protocol_version", .string currentProtocolVersion), ("sent_at", .string stamp.sentAt.text),
        ("events", .ofItems (events.map wire.event))]
  | frame => wire.other frame

/-- The bytes of a result frame whose payload takes so many. -/
def resultFrameLen (stamp : FrameStamp) (commandId : CommandId) (status : CommandState)
    (payload : Nat) : Nat :=
  fieldsLen
    [("kind", quotedLen "command_result"), ("frame_id", quotedLen stamp.frameId),
      ("protocol_version", quotedLen currentProtocolVersion), ("sent_at", quotedLen stamp.sentAt.text),
      ("command_id", quotedLen commandId), ("status", quotedLen (commandStateLabel status)),
      ("payload", payload)]

/-- The bytes of a batch whose events take so many. -/
def batchFrameLen (stamp : FrameStamp) (events : List Nat) : Nat :=
  fieldsLen
    [("kind", quotedLen "event_batch"), ("frame_id", quotedLen stamp.frameId),
      ("protocol_version", quotedLen currentProtocolVersion), ("sent_at", quotedLen stamp.sentAt.text),
      ("events", itemsLen events)]

/-! ## 2. The checks -/

/-- `MAX_CONTROL_JSON_DEPTH`. -/
def maxControlJsonDepth : Nat := 32

/-- `MAX_CONTROL_STRING_CHARS`. -/
def maxControlStringChars : Nat := 65536

def frameTooDeep : AppError :=
  .badRequest "control.frame_too_deep" "Control frame exceeds the nesting limit"

def stringTooLarge : AppError :=
  .badRequest "control.string_too_large" "Control frame contains an oversized string"

mutual

def validateControlJsonValue : JsonValue → Nat → Except AppError Unit
  | .string s, depth =>
    if maxControlJsonDepth < depth then .error frameTooDeep
    else if maxControlStringChars < s.length then .error stringTooLarge else .ok ()
  | .array items, depth =>
    if maxControlJsonDepth < depth then .error frameTooDeep
    else validateControlItems items depth
  | .object fields, depth =>
    if maxControlJsonDepth < depth then .error frameTooDeep
    else validateControlFields fields depth
  | _, depth => if maxControlJsonDepth < depth then .error frameTooDeep else .ok ()

def validateControlItems : JsonArray → Nat → Except AppError Unit
  | .nil, _ => .ok ()
  | .cons item rest, depth => do
    validateControlJsonValue item (depth + 1)
    validateControlItems rest depth

def validateControlFields : JsonMap → Nat → Except AppError Unit
  | .nil, _ => .ok ()
  | .cons _ value rest, depth => do
    validateControlJsonValue value (depth + 1)
    validateControlFields rest depth

end

def validateControlFrameLimits (frame : JsonValue) : Except AppError Unit :=
  if maxControlFrameBytes < frame.encodedLen then
    .error (.badRequest "control.frame_too_large" "Control frame exceeds the byte limit")
  else validateControlJsonValue frame 0

/-- What a batch is checked for before its events are. -/
def validateEventBatchLimits (encodedLen : EventEnvelope → Nat) (events : List EventEnvelope) :
    Except AppError Unit :=
  if maxEventBatchItems < events.length then
    .error (.badRequest "control.event_batch_too_large"
      "Control event batch exceeds the item limit")
  else if maxControlFrameBytes < (events.map encodedLen).sum then
    .error (.badRequest "control.event_batch_bytes_too_large"
      "Control event batch exceeds the byte limit")
  else .ok ()

/-- Does a frame get past every limit: of its text, of its value, and of its events? -/
def acceptsFrame (wire : Wire) (stamp : FrameStamp) (frame : ControlFrame) : Bool :=
  let encoded := encodeFrame wire stamp frame
  decide (encoded.encodedLen ≤ maxControlFrameBytes) &&
    (validateControlFrameLimits encoded).isOk &&
    match frame with
    | .eventBatch events =>
      (validateEventBatchLimits (fun e => (wire.event e).encodedLen) events).isOk
    | _ => true

/-- A batch is handled as far as its limits allow. -/
theorem handleEventBatch_eq (encodedLen : EventEnvelope → Nat) {core : CoreState} {nodeId : NodeId}
    {generation : Nat} (hactive : core.connections.isActive nodeId generation = true)
    (events : List (EventEnvelope × MessageId)) :
    handleEventBatch encodedLen core nodeId generation events =
      match validateEventBatchLimits encodedLen (events.map (·.1)) with
      | .error e => (core, .error e)
      | .ok () =>
        match acceptEvents nodeId core.db events with
        | (db, .error e) => ({ core with db }, .error e)
        | (db, .ok ids) =>
          ({ db, connections := sendControlFrame core.connections nodeId (.eventBatchAck ids) },
            .ok ()) := by
  unfold handleEventBatch validateEventBatchLimits
  rw [hactive, List.length_map, List.map_map]
  have hsame : (encodedLen ∘ fun e : EventEnvelope × MessageId => e.1) =
      fun e => encodedLen e.1 := rfl
  rw [hsame, Bool.not_true, if_neg Bool.false_ne_true]
  split
  · rfl
  · split <;> rfl

/-! ## 3. What the checks ask for -/

/-- What Core asks of a text. -/
def FitsText (s : String) : Prop := s.length ≤ maxControlStringChars

instance (s : String) : Decidable (FitsText s) := inferInstanceAs (Decidable (_ ≤ _))

theorem bind_eq_ok_unit {x y : Except AppError Unit} :
    (x >>= fun _ => y) = .ok () ↔ x = .ok () ∧ y = .ok () := by
  rw [bind_eq_ok]
  constructor
  · intro ⟨(), hx, hy⟩
    exact ⟨hx, hy⟩
  · intro ⟨hx, hy⟩
    exact ⟨(), hx, hy⟩

theorem depth_check {depth n : Nat} {x : Except AppError Unit} {p : Prop}
    (h : depth ≤ maxControlJsonDepth → (x = .ok () ↔ depth + n ≤ maxControlJsonDepth ∧ p)) :
    (if maxControlJsonDepth < depth then .error frameTooDeep else x) = .ok () ↔
      depth + n ≤ maxControlJsonDepth ∧ p := by
  by_cases hdepth : maxControlJsonDepth < depth
  · rw [if_pos hdepth]
    constructor
    · intro hok
      cases hok
    · intro ⟨hle, _⟩
      omega
  · rw [if_neg hdepth]
    exact h (Nat.le_of_not_lt hdepth)

mutual

/-- **The walk over a value**: it passes if no value lies too deep and every string fits. -/
theorem validateControlJsonValue_eq_ok (value : JsonValue) (depth : Nat) :
    validateControlJsonValue value depth = .ok () ↔
      depth + value.nesting ≤ maxControlJsonDepth ∧ value.AllStrings FitsText := by
  cases value with
  | string s =>
    rw [validateControlJsonValue]
    refine depth_check fun hdepth => ?_
    simp [Uprava.Lib.JsonValue.nesting, Uprava.Lib.JsonValue.AllStrings, FitsText, hdepth]
  | array items =>
    rw [validateControlJsonValue]
    exact depth_check (validateControlItems_eq_ok items depth)
  | object fields =>
    rw [validateControlJsonValue]
    exact depth_check (validateControlFields_eq_ok fields depth)
  | null => simp [validateControlJsonValue, Uprava.Lib.JsonValue.nesting,
      Uprava.Lib.JsonValue.AllStrings]
  | bool b => simp [validateControlJsonValue, Uprava.Lib.JsonValue.nesting,
      Uprava.Lib.JsonValue.AllStrings]
  | int n => simp [validateControlJsonValue, Uprava.Lib.JsonValue.nesting,
      Uprava.Lib.JsonValue.AllStrings]
  | float digits => simp [validateControlJsonValue, Uprava.Lib.JsonValue.nesting,
      Uprava.Lib.JsonValue.AllStrings]

theorem validateControlItems_eq_ok (items : JsonArray) (depth : Nat)
    (hdepth : depth ≤ maxControlJsonDepth) :
    validateControlItems items depth = .ok () ↔
      depth + items.nesting ≤ maxControlJsonDepth ∧ items.AllStrings FitsText := by
  cases items with
  | nil => simp [validateControlItems, Uprava.Lib.JsonArray.nesting,
      Uprava.Lib.JsonArray.AllStrings, hdepth]
  | cons item rest =>
    rw [validateControlItems, bind_eq_ok_unit, validateControlJsonValue_eq_ok item (depth + 1),
      validateControlItems_eq_ok rest depth hdepth, Uprava.Lib.JsonArray.nesting,
      Uprava.Lib.JsonArray.AllStrings, ← Nat.add_max_add_left, Nat.max_le]
    have hsame : depth + 1 + item.nesting = depth + (item.nesting + 1) := by omega
    rw [hsame]
    exact and_and_and_comm

theorem validateControlFields_eq_ok (fields : JsonMap) (depth : Nat)
    (hdepth : depth ≤ maxControlJsonDepth) :
    validateControlFields fields depth = .ok () ↔
      depth + fields.nesting ≤ maxControlJsonDepth ∧ fields.AllStrings FitsText := by
  cases fields with
  | nil => simp [validateControlFields, Uprava.Lib.JsonMap.nesting,
      Uprava.Lib.JsonMap.AllStrings, hdepth]
  | cons key value rest =>
    rw [validateControlFields, bind_eq_ok_unit, validateControlJsonValue_eq_ok value (depth + 1),
      validateControlFields_eq_ok rest depth hdepth, Uprava.Lib.JsonMap.nesting,
      Uprava.Lib.JsonMap.AllStrings, ← Nat.add_max_add_left, Nat.max_le]
    have hsame : depth + 1 + value.nesting = depth + (value.nesting + 1) := by omega
    rw [hsame]
    exact and_and_and_comm

end

theorem isOk_iff {x : Except AppError Unit} : x.isOk = true ↔ x = .ok () := by
  cases x with
  | error e => simp [Except.isOk, Except.toBool]
  | ok u => simp [Except.isOk, Except.toBool]

section Accepts

variable {wire : Wire} {stamp : FrameStamp}

/-- A frame gets past the limits of its text and its value. -/
theorem frame_checks_iff {frame : JsonValue} :
    (decide (frame.encodedLen ≤ maxControlFrameBytes) &&
        (validateControlFrameLimits frame).isOk) = true ↔
      frame.encodedLen ≤ maxControlFrameBytes ∧ frame.nesting ≤ maxControlJsonDepth ∧
        frame.AllStrings FitsText := by
  rw [Bool.and_eq_true, decide_eq_true_eq, isOk_iff]
  refine and_congr_right fun hlen => ?_
  rw [validateControlFrameLimits, if_neg (Nat.not_lt.mpr hlen), validateControlJsonValue_eq_ok,
    Nat.zero_add]

theorem fits_time (time : TimeText) : FitsText time.text := by
  have hle := time.text_le
  unfold FitsText maxControlStringChars
  omega

theorem fits_frameId (stamp : FrameStamp) : FitsText stamp.frameId := by
  have hle := stamp.frameId_le
  unfold FitsText maxControlStringChars
  omega

theorem fits_commandStateLabel (status : CommandState) : FitsText (commandStateLabel status) := by
  cases status <;> decide

/-- **When Core takes a result**: its id fits, its payload has no text too long and nothing too deep,
    and the frame is not too long. -/
theorem acceptsFrame_result_iff {commandId : CommandId} {status : CommandState}
    {payload : JsonValue} :
    acceptsFrame wire stamp (.commandResult commandId status payload) = true ↔
      FitsText commandId ∧ payload.AllStrings FitsText ∧
        payload.nesting + 1 ≤ maxControlJsonDepth ∧
        resultFrameLen stamp commandId status payload.encodedLen ≤ maxControlFrameBytes := by
  have hkeys : ["kind", "frame_id", "protocol_version", "sent_at", "command_id", "status",
    "payload"].Nodup := by decide
  have hlen : (encodeFrame wire stamp (.commandResult commandId status payload)).encodedLen =
      resultFrameLen stamp commandId status payload.encodedLen := encodedLen_ofFields hkeys
  have hstrings : (encodeFrame wire stamp (.commandResult commandId status payload)).AllStrings
      FitsText ↔ FitsText commandId ∧ payload.AllStrings FitsText := by
    have hkind : FitsText "command_result" := by decide
    have hversion : FitsText currentProtocolVersion := by decide
    rw [encodeFrame, allStrings_ofFields]
    · simp [Uprava.Lib.JsonValue.AllStrings, fits_frameId stamp, fits_time stamp.sentAt, fits_commandStateLabel, hkind,
        hversion]
    · exact hkeys
  have hnesting : (encodeFrame wire stamp (.commandResult commandId status payload)).nesting ≤
      maxControlJsonDepth ↔ payload.nesting + 1 ≤ maxControlJsonDepth := by
    rw [encodeFrame, nesting_ofFields]
    · simp [Uprava.Lib.JsonValue.nesting, maxControlJsonDepth]
    · exact hkeys
  have haccepts : acceptsFrame wire stamp (.commandResult commandId status payload) =
      (decide ((encodeFrame wire stamp (.commandResult commandId status payload)).encodedLen ≤
          maxControlFrameBytes) &&
        (validateControlFrameLimits
          (encodeFrame wire stamp (.commandResult commandId status payload))).isOk) :=
    Bool.and_true _
  rw [haccepts, frame_checks_iff, hlen, hstrings, hnesting]
  constructor
  · intro ⟨hbytes, hdepth, hid, hpayload⟩
    exact ⟨hid, hpayload, hdepth, hbytes⟩
  · intro ⟨hid, hpayload, hdepth, hbytes⟩
    exact ⟨hbytes, hdepth, hid, hpayload⟩

/-- The events of a frame take less than the frame. -/
theorem sum_le_batchFrameLen (events : List Nat) : events.sum ≤ batchFrameLen stamp events := by
  have hitems : events.sum ≤ itemsLen events := by
    have hle : events.sum ≤ (events.map (· + 1)).sum ∧
        (events = [] ∨ events.sum < (events.map (· + 1)).sum) := by
      induction events with
      | nil => simp
      | cons n events ih =>
        rw [List.map_cons, List.sum_cons, List.sum_cons]
        omega
    unfold itemsLen
    omega
  unfold batchFrameLen fieldsLen
  simp only [List.map_cons, List.map_nil, List.sum_cons, List.sum_nil]
  omega

/-- **When Core takes a batch** of no more events than it allows: no event has a text too long or a
    value too deep, and the frame is not too long. -/
theorem acceptsFrame_batch_iff {events : List EventEnvelope}
    (hcount : events.length ≤ maxEventBatchItems) :
    acceptsFrame wire stamp (.eventBatch events) = true ↔
      (∀ e ∈ events, (wire.event e).AllStrings FitsText ∧
        (wire.event e).nesting + 2 ≤ maxControlJsonDepth) ∧
      batchFrameLen stamp (events.map fun e => (wire.event e).encodedLen) ≤
        maxControlFrameBytes := by
  have hkeys : ["kind", "frame_id", "protocol_version", "sent_at", "events"].Nodup := by decide
  have hlen : (encodeFrame wire stamp (.eventBatch events)).encodedLen =
      batchFrameLen stamp (events.map fun e => (wire.event e).encodedLen) := by
    rw [encodeFrame, encodedLen_ofFields, batchFrameLen]
    · simp only [List.map_cons, List.map_nil, encodedLen_ofItems, List.map_map]
      rfl
    · exact hkeys
  have hstrings : (encodeFrame wire stamp (.eventBatch events)).AllStrings FitsText ↔
      ∀ e ∈ events, (wire.event e).AllStrings FitsText := by
    have hkind : FitsText "event_batch" := by decide
    have hversion : FitsText currentProtocolVersion := by decide
    rw [encodeFrame, allStrings_ofFields]
    · simp [Uprava.Lib.JsonValue.AllStrings, fits_frameId stamp, fits_time stamp.sentAt, hkind, hversion]
    · exact hkeys
  have hnesting : (encodeFrame wire stamp (.eventBatch events)).nesting ≤ maxControlJsonDepth ↔
      ∀ e ∈ events, (wire.event e).nesting + 2 ≤ maxControlJsonDepth := by
    have hitems := nesting_ofItems (events.map wire.event) (maxControlJsonDepth - 1)
    have hsub : ∀ n, n + 1 ≤ maxControlJsonDepth ↔ n ≤ maxControlJsonDepth - 1 := by
      intro n
      unfold maxControlJsonDepth
      omega
    rw [encodeFrame, nesting_ofFields]
    · simp only [List.forall_mem_cons, hsub, hitems]
      simp [Uprava.Lib.JsonValue.nesting, maxControlJsonDepth]
    · exact hkeys
  rw [acceptsFrame, Bool.and_eq_true, frame_checks_iff, hlen, hstrings, hnesting, isOk_iff]
  constructor
  · intro ⟨⟨hbytes, hdepth, htexts⟩, _⟩
    exact ⟨fun e he => ⟨htexts e he, hdepth e he⟩, hbytes⟩
  · intro ⟨hevents, hbytes⟩
    refine ⟨⟨hbytes, fun e he => (hevents e he).2, fun e he => (hevents e he).1⟩, ?_⟩
    have hsum := ((@sum_le_batchFrameLen stamp) _).trans hbytes
    rw [validateEventBatchLimits, if_neg (Nat.not_lt.mpr hcount), if_neg (Nat.not_lt.mpr hsum)]

end Accepts

end Uprava.Core
