/-
  File:      Uprava/Core/ToolSearch.lean
  Subject:   The search for tools: which tools match, their order, the pages and the signed cursors.

  The pages put together are the tools that match, in one order (`search_reading`), and tools that
  the actor does not see change nothing (`search_visible`). A cursor is hex digits, and the reader
  takes more than the writer writes: capital letters, and a plus sign before a digit. So a cursor
  that was altered is refused exactly if it does not spell a good one (`search_refuses_iff`).
-/
import Mathlib.Data.String.Basic
import Mathlib.Order.Defs.LinearOrder
import Uprava.Core.ToolScopes
import Uprava.Lib.JsonText
import Uprava.Lib.Paging

namespace Uprava.Core

open Uprava.Protocol
open Uprava.Lib (PagedReading hexDigit)

/-! ## 1. Availability -/

inductive ToolAvailabilityState where
  | available | unavailable | degraded | approvalRequired
  deriving DecidableEq

inductive ToolUnavailableReason where
  | nodeOffline | capabilityMissing | dependencyMissing | dependencyUnhealthy | notAuthenticated
  | permissionDenied | policyBlocked | projectNotEnabled | sessionNotEnabled | schemaChanged
  | backendUnreachable | toolhiveMissing
  deriving DecidableEq

structure ToolAvailability where
  toolId : ToolId
  scope : ToolScope
  state : ToolAvailabilityState
  reason : Option ToolUnavailableReason
  backendRef : Option String
  dependencyInstanceId : Option McpDependencyInstanceId
  schemaHash : String
  policyVersion : String
  deriving DecidableEq

/-- The connection of a source that is enabled, with its dependency on a Node: the one that was
    updated last. -/
def connectedDependency (s : Tooling) (sourceId : ToolSourceId) (nodeId : NodeId) :
    Option (IntegrationConnectionRow × DependencyInstanceRow) :=
  let connections := s.connections.select fun ic =>
    ic.sourceId == sourceId && ic.desiredState == .enabled
  let rows := connections.flatMap fun ic =>
    (s.dependencies.select fun mdi =>
      mdi.integrationId == ic.integrationId && mdi.nodeId == nodeId).map fun mdi => (ic, mdi)
  (rows.mergeSort fun a b => decide (b.1.updatedAt ≤ a.1.updatedAt)).head?

/-- The state of a ToolHive tool on a Node. -/
def toolhiveState (s : Tooling) (definition : ToolDefinition) (nodeId : NodeId)
    (presence : NodePresence) :
    ToolAvailabilityState × Option ToolUnavailableReason × Option McpDependencyInstanceId :=
  match presence with
  | .offline | .revoked => (.unavailable, some .nodeOffline, none)
  | .reachable | .stale =>
    match connectedDependency s definition.sourceId nodeId with
    | none => (.unavailable, some .dependencyMissing, none)
    | some (ic, mdi) =>
      let dependency := some mdi.dependencyInstanceId
      if ic.authState ≠ .connected then (.unavailable, some .notAuthenticated, dependency)
      else match mdi.actualState with
        | .running => (.available, none, dependency)
        | .toolhiveMissing => (.unavailable, some .toolhiveMissing, dependency)
        | .degraded => (.degraded, some .dependencyUnhealthy, dependency)
        | _ => (.unavailable, some .dependencyUnhealthy, dependency)

/-- `effective_tool_availability`, with what the Nodes are at. -/
def effectiveToolAvailability (s : Inventory) (presence : NodeId → NodePresence)
    (definition : ToolDefinition) (scope : ToolScope) : ToolAvailability :=
  let toolhive := definition.executionKind = .toolhiveMcp
  let answer (state : ToolAvailabilityState) (reason : Option ToolUnavailableReason)
      (backendRef : Option String) (dependency : Option McpDependencyInstanceId) :
      ToolAvailability :=
    ⟨definition.toolId, scope, state, reason, backendRef, dependency, definition.schemaHash,
      toolPolicyVersion⟩
  let backendRef := some (match definition.executionKind with
    | .coreNative => "core-native"
    | .externalProvider => if definition.sourceId = "mock-external" then "mock-external"
                           else "unavailable"
    | _ => "unavailable")
  if definition.state ≠ .active then answer .unavailable (some .policyBlocked) backendRef none
  else if !toolIsVisibleToActor scope.actorRef then
    answer .unavailable (some .permissionDenied) backendRef none
  else match validateToolScope s scope with
    | .error .sessionInactive => answer .unavailable (some .sessionNotEnabled) backendRef none
    | .error .mismatch => answer .unavailable (some .policyBlocked) backendRef none
    | .ok _ =>
      if definition.approvalPolicy = .requireApproval then
        answer .approvalRequired none backendRef none
      else if toolhive then
        match scope.nodeId with
        | none => answer .unavailable (some .dependencyMissing) (some "node-toolhive") none
        | some nodeId =>
          let (state, reason, dependency) :=
            toolhiveState s.tooling definition nodeId (presence nodeId)
          answer state reason (some "node-toolhive") dependency
      else answer .available none backendRef none

/-! ## 2. Hex -/

/-- The two digits of a byte. -/
def byteHex (b : UInt8) : List Char := [hexDigit (b.toNat / 16), hexDigit (b.toNat % 16)]

def encodeHex (bytes : List UInt8) : List Char := (bytes.map byteHex).flatten

/-- `char::to_digit(16)` -/
def hexValue (c : Char) : Option Nat :=
  let n := c.toNat
  if 0x30 ≤ n ∧ n ≤ 0x39 then some (n - 0x30)
  else if 0x61 ≤ n ∧ n ≤ 0x66 then some (n - 0x57)
  else if 0x41 ≤ n ∧ n ≤ 0x46 then some (n - 0x37)
  else none

/-- `u8::from_str_radix`, of two characters: a plus sign may stand before the digit. -/
def byteOfHex (a b : Char) : Option UInt8 :=
  if a = '+' then (hexValue b).map UInt8.ofNat
  else (hexValue a).bind fun x => (hexValue b).map fun y => UInt8.ofNat (16 * x + y)

def decodePairs : List Char → Option (List UInt8)
  | a :: b :: rest => (byteOfHex a b).bind fun byte => (decodePairs rest).map (byte :: ·)
  | _ => some []

def decodeHex (value : List Char) : Option (List UInt8) :=
  if !(value.all fun c => decide (c.toNat < 128)) || value.length % 2 ≠ 0 then none
  else decodePairs value

/-- `str::split`, at the dots. -/
def splitDots : List Char → List (List Char)
  | [] => [[]]
  | c :: cs =>
    if c = '.' then [] :: splitDots cs
    else match splitDots cs with
      | [] => [[c]]
      | part :: parts => (c :: part) :: parts

theorem hexValue_hexDigit : ∀ n < 16, hexValue (hexDigit n) = some n := by decide

theorem hexDigit_ascii : ∀ n < 16, (hexDigit n).toNat < 128 ∧ hexDigit n ≠ '.' ∧
    hexDigit n ≠ '+' := by decide

theorem byteOfHex_byteHex (b : UInt8) :
    byteOfHex (hexDigit (b.toNat / 16)) (hexDigit (b.toNat % 16)) = some b := by
  have hb := b.toNat_lt
  have hhigh : b.toNat / 16 < 16 := by omega
  have hlow : b.toNat % 16 < 16 := by omega
  unfold byteOfHex
  rw [if_neg (hexDigit_ascii _ hhigh).2.2, hexValue_hexDigit _ hhigh, hexValue_hexDigit _ hlow]
  show some (UInt8.ofNat (16 * (b.toNat / 16) + b.toNat % 16)) = some b
  rw [Nat.div_add_mod, UInt8.ofNat_toNat]

theorem encodeHex_cons (b : UInt8) (bytes : List UInt8) :
    encodeHex (b :: bytes) =
      hexDigit (b.toNat / 16) :: hexDigit (b.toNat % 16) :: encodeHex bytes := rfl

theorem mem_encodeHex {bytes : List UInt8} {c : Char} (h : c ∈ encodeHex bytes) :
    c.toNat < 128 ∧ c ≠ '.' := by
  obtain ⟨_, hl, hc⟩ := List.mem_flatten.mp h
  obtain ⟨b, -, rfl⟩ := List.mem_map.mp hl
  have hb := b.toNat_lt
  rcases List.mem_cons.mp hc with rfl | hc
  · have := hexDigit_ascii (b.toNat / 16) (by omega)
    exact ⟨this.1, this.2.1⟩
  · rw [List.mem_singleton.mp hc]
    have := hexDigit_ascii (b.toNat % 16) (by omega)
    exact ⟨this.1, this.2.1⟩

theorem decodeHex_cons {a b : Char} {byte : UInt8} {value : List Char} {bytes : List UInt8}
    (ha : a.toNat < 128) (hb : b.toNat < 128) (hbyte : byteOfHex a b = some byte)
    (hvalue : decodeHex value = some bytes) :
    decodeHex (a :: b :: value) = some (byte :: bytes) := by
  unfold decodeHex at hvalue ⊢
  split at hvalue
  · cases hvalue
  · rename_i hread
    rw [if_neg, decodePairs, hbyte, hvalue]
    · rfl
    · simp at hread ⊢
      exact ⟨⟨ha, hb, hread.1⟩, by omega⟩

/-- **What is written is read.** -/
theorem decodeHex_encodeHex (bytes : List UInt8) : decodeHex (encodeHex bytes) = some bytes := by
  induction bytes with
  | nil => rfl
  | cons b bytes ih =>
    have hb := b.toNat_lt
    rw [encodeHex_cons]
    exact decodeHex_cons (hexDigit_ascii _ (by omega)).1 (hexDigit_ascii _ (by omega)).1
      (byteOfHex_byteHex b) ih

theorem splitDots_append {part : List Char} (h : '.' ∉ part) (rest : List Char) :
    splitDots (part ++ '.' :: rest) = part :: splitDots rest := by
  induction part with
  | nil => rfl
  | cons c cs ih =>
    have hc : c ≠ '.' := fun heq => h (heq ▸ List.mem_cons_self)
    rw [List.cons_append, splitDots, if_neg hc, ih fun hmem => h (List.mem_cons_of_mem c hmem)]

theorem splitDots_last {part : List Char} (h : '.' ∉ part) : splitDots part = [part] := by
  induction part with
  | nil => rfl
  | cons c cs ih =>
    have hc : c ≠ '.' := fun heq => h (heq ▸ List.mem_cons_self)
    rw [splitDots, if_neg hc, ih fun hmem => h (List.mem_cons_of_mem c hmem)]

/-! ## 3. Cursors -/

structure ToolSearchFilters where
  sourceKinds : List ToolSourceKind := []
  riskLevels : List ToolRiskLevel := []
  availabilityStates : List ToolAvailabilityState := []
  deriving DecidableEq

structure SearchToolsRequest where
  scope : ToolScope
  query : String
  filters : ToolSearchFilters
  cursor : Option (List Char) := none
  limit : Option Nat := none
  deriving DecidableEq

structure SearchCursorV1 where
  offset : Nat
  bindingHash : String
  expiresAt : DateTime
  deriving DecidableEq

/-- The signature with Core's key, the JSON text of a cursor, and the hash that binds a cursor to
    what is searched. -/
structure SearchSigning where
  sign : List UInt8 → List UInt8
  toBytes : SearchCursorV1 → List UInt8
  fromBytes : List UInt8 → Option SearchCursorV1
  binding : ToolScope → String → ToolSearchFilters → String
  fromBytes_toBytes : ∀ cursor, fromBytes (toBytes cursor) = some cursor

def toolSearchCursorTtlSeconds : Int := 300
def toolSearchDefaultLimit : Nat := 10
def toolSearchMaxLimit : Nat := 25

def invalidCursor : AppError :=
  .badRequest "tool_search.invalid_cursor" "Invalid or expired tool search cursor"

/-- The payload and the signature of a cursor's text. -/
def openCursor (encoded : List Char) : Option (List UInt8 × List UInt8) :=
  match splitDots encoded with
  | [version, payload, signature] =>
    if version = ['v', '1'] then
      (decodeHex payload).bind fun payload =>
        (decodeHex signature).map fun signature => (payload, signature)
    else none
  | _ => none

section Search

variable (signing : SearchSigning)

def bindingOf (request : SearchToolsRequest) : String :=
  signing.binding request.scope request.query request.filters

def parseSearchCursor (request : SearchToolsRequest) (now : DateTime) : Except AppError Nat :=
  match request.cursor with
  | none => .ok 0
  | some encoded =>
    match openCursor encoded with
    | none => .error invalidCursor
    | some (payload, signature) =>
      if signature ≠ signing.sign payload then .error invalidCursor
      else match signing.fromBytes payload with
        | none => .error invalidCursor
        | some cursor =>
          if cursor.expiresAt ≤ now ∨ cursor.bindingHash ≠ bindingOf signing request then
            .error invalidCursor
          else .ok cursor.offset

/-- The text of a cursor. -/
def cursorText (cursor : SearchCursorV1) : List Char :=
  let payload := signing.toBytes cursor
  ['v', '1'] ++ '.' :: (encodeHex payload ++ '.' :: encodeHex (signing.sign payload))

def createSearchCursor (request : SearchToolsRequest) (offset : Nat) (now : DateTime) :
    SearchCursorV1 :=
  ⟨offset, bindingOf signing request, now + toolSearchCursorTtlSeconds⟩

/-! ## 4. The search -/

/-- How a text is cut into terms, and the score of a tool among all. -/
structure Scoring (Score : Type) where
  tokenize : String → List String
  score : List String → List ToolDefinition → ToolDefinition → Score

structure ToolSearchResult where
  toolId : ToolId
  displayName : String
  shortDescription : String
  sourceKind : ToolSourceKind
  riskLevel : ToolRiskLevel
  availabilityState : ToolAvailabilityState
  unavailableReason : Option ToolUnavailableReason
  schemaHash : String
  deriving DecidableEq

structure SearchToolsResponse where
  items : List ToolSearchResult
  nextCursor : Option (List Char)
  deriving DecidableEq

structure RankedDefinition (Score : Type) where
  definition : ToolDefinition
  availability : ToolAvailability
  score : Score

def loadActiveToolDefinitions (s : Tooling) : List ToolDefinition :=
  ((s.toolDefinitions.select (·.state == .active)).mergeSort
    fun a b => decide (a.toolId ≤ b.toolId)).map (·.definition)

def definitionMatchesFilters (definition : ToolDefinition) (filters : ToolSearchFilters) : Bool :=
  (filters.sourceKinds.isEmpty || filters.sourceKinds.contains definition.sourceKind) &&
    (filters.riskLevels.isEmpty || filters.riskLevels.contains definition.riskLevel)

def availabilityMatchesFilters (availability : ToolAvailability) (filters : ToolSearchFilters) :
    Bool :=
  filters.availabilityStates.isEmpty || filters.availabilityStates.contains availability.state

def searchResult {Score : Type} (item : RankedDefinition Score) : ToolSearchResult :=
  ⟨item.definition.toolId, item.definition.displayName, item.definition.shortDescription,
    item.definition.sourceKind, item.definition.riskLevel, item.availability.state,
    item.availability.reason, item.definition.schemaHash⟩

variable {Score : Type} [LinearOrder Score] [Zero Score] (scoring : Scoring Score)
  (s : Inventory) (presence : NodeId → NodePresence)

/-- A definition of those that are active, ranked, unless it does not match. -/
def rankDefinition? (request : SearchToolsRequest) (definitions : List ToolDefinition)
    (definition : ToolDefinition) : Option (RankedDefinition Score) :=
  let queryTerms := scoring.tokenize request.query
  let availability := effectiveToolAvailability s presence definition request.scope
  let score := scoring.score queryTerms definitions definition
  if definitionMatchesFilters definition request.filters &&
      availabilityMatchesFilters availability request.filters &&
      (queryTerms.isEmpty || decide (0 < score)) then
    some ⟨definition, availability, score⟩
  else none

/-- The higher score comes first, and of equal ones the smaller id. -/
def rankLe (left right : RankedDefinition Score) : Bool :=
  decide (right.score < left.score) ||
    (decide (left.score = right.score) &&
      decide (left.definition.toolId ≤ right.definition.toolId))

/-- The definitions that match, in no order yet. -/
def matchingDefinitions (request : SearchToolsRequest) : List (RankedDefinition Score) :=
  let definitions := loadActiveToolDefinitions s.tooling
  definitions.filterMap (rankDefinition? scoring s presence request definitions)

def rankedDefinitions (request : SearchToolsRequest) : List (RankedDefinition Score) :=
  (matchingDefinitions scoring s presence request).mergeSort rankLe

/-- `search_tools`, with the instant the cursor is read and the one the next is made. -/
def searchTools (request : SearchToolsRequest) (readAt madeAt : DateTime) :
    Except AppError SearchToolsResponse :=
  if !toolIsVisibleToActor request.scope.actorRef then .ok ⟨[], none⟩
  else do
    let offset ← parseSearchCursor signing request readAt
    let limit := request.limit.getD toolSearchDefaultLimit
    if ¬ (1 ≤ limit ∧ limit ≤ toolSearchMaxLimit) then
      throw (.badRequest "tool_search.invalid_limit"
        "Tool search limit must be within the documented bounds")
    let ranked := rankedDefinitions scoring s presence request
    return {
      items := ((ranked.drop offset).take limit).map searchResult
      nextCursor := if offset + limit < ranked.length then
          some (cursorText signing (createSearchCursor signing request (offset + limit) madeAt))
        else none }

/-! ## 5. Reading a cursor -/

theorem openCursor_cursorText (cursor : SearchCursorV1) :
    openCursor (cursorText signing cursor) =
      some (signing.toBytes cursor, signing.sign (signing.toBytes cursor)) := by
  have hdot (bytes : List UInt8) : '.' ∉ encodeHex bytes := fun h => (mem_encodeHex h).2 rfl
  unfold openCursor cursorText
  dsimp only
  rw [splitDots_append (by decide), splitDots_append (hdot _), splitDots_last (hdot _)]
  dsimp only
  rw [if_pos rfl, decodeHex_encodeHex, decodeHex_encodeHex]
  rfl

/-- **When a text is taken for a cursor, and for which.** -/
theorem parseSearchCursor_ok_iff {request : SearchToolsRequest} {encoded : List Char}
    {now : DateTime} {offset : Nat} (hcursor : request.cursor = some encoded) :
    parseSearchCursor signing request now = .ok offset ↔
      ∃ payload cursor, openCursor encoded = some (payload, signing.sign payload) ∧
        signing.fromBytes payload = some cursor ∧ now < cursor.expiresAt ∧
        cursor.bindingHash = bindingOf signing request ∧ cursor.offset = offset := by
  unfold parseSearchCursor
  rw [hcursor]
  dsimp only
  split
  · rename_i hopen
    refine iff_of_false nofun ?_
    rintro ⟨payload, cursor, hopen', -⟩
    rw [hopen] at hopen'
    cases hopen'
  · rename_i payload signature hopen
    split
    · rename_i hsign
      refine iff_of_false nofun ?_
      rintro ⟨payload', cursor, hopen', -⟩
      rw [hopen] at hopen'
      cases hopen'
      exact hsign rfl
    · rename_i hsign
      rw [Decidable.not_not] at hsign
      split
      · rename_i hbytes
        refine iff_of_false nofun ?_
        rintro ⟨payload', cursor, hopen', hbytes', -⟩
        rw [hopen] at hopen'
        cases hopen'
        rw [hbytes] at hbytes'
        cases hbytes'
      · rename_i cursor hbytes
        split
        · rename_i hbad
          refine iff_of_false nofun ?_
          rintro ⟨payload', cursor', hopen', hbytes', hnow, hbinding, -⟩
          rw [hopen] at hopen'
          cases hopen'
          rw [hbytes] at hbytes'
          cases hbytes'
          rcases hbad with hexpired | hother
          · exact absurd hnow (Int.not_lt.mpr hexpired)
          · exact hother hbinding
        · rename_i hgood
          rw [not_or, Decidable.not_not] at hgood
          constructor
          · intro h
            cases h
            exact ⟨payload, cursor, by rw [hopen, hsign], hbytes, Int.not_le.mp hgood.1,
              hgood.2, rfl⟩
          · rintro ⟨payload', cursor', hopen', hbytes', -, -, rfl⟩
            rw [hopen] at hopen'
            cases hopen'
            rw [hbytes] at hbytes'
            cases hbytes'
            rfl

/-- A text is taken for a cursor or refused as an invalid one. -/
theorem parseSearchCursor_error {request : SearchToolsRequest} {now : DateTime} {e : AppError}
    (h : parseSearchCursor signing request now = .error e) : e = invalidCursor := by
  unfold parseSearchCursor at h
  split at h
  · cases h
  · split at h
    · cases h
      rfl
    · split at h
      · cases h
        rfl
      · split at h
        · cases h
          rfl
        · split at h
          · cases h
            rfl
          · cases h

/-! ## 6. Pages -/

/-- The limits that a request may name, or none. -/
def LimitAllowed (limit : Option Nat) : Prop :=
  1 ≤ limit.getD toolSearchDefaultLimit ∧ limit.getD toolSearchDefaultLimit ≤ toolSearchMaxLimit

/-- What an actor is shown of the tools that match. -/
def shownTools (request : SearchToolsRequest) : List ToolSearchResult :=
  if toolIsVisibleToActor request.scope.actorRef then
    (rankedDefinitions scoring s presence request).map searchResult
  else []

theorem searchTools_ok {request : SearchToolsRequest} {readAt madeAt : DateTime} {offset : Nat}
    (hvisible : toolIsVisibleToActor request.scope.actorRef = true)
    (hlimit : LimitAllowed request.limit)
    (hoffset : parseSearchCursor signing request readAt = .ok offset) :
    let full := shownTools scoring s presence request
    let limit := request.limit.getD toolSearchDefaultLimit
    searchTools signing scoring s presence request readAt madeAt =
      .ok ⟨(full.drop offset).take limit,
        if offset + limit < full.length then
          some (cursorText signing (createSearchCursor signing request (offset + limit) madeAt))
        else none⟩ := by
  intro full limit
  have hfull : full = (rankedDefinitions scoring s presence request).map searchResult :=
    if_pos hvisible
  rw [hfull, List.length_map, ← List.map_drop, ← List.map_take]
  unfold searchTools
  rw [hvisible, if_neg (by decide), hoffset]
  show (if ¬ _ then _ else _) = _
  rw [if_neg (by rw [Decidable.not_not]; exact hlimit)]
  rfl

/-- A page of a search, at one request after the other. -/
def searchPage (request : SearchToolsRequest) (limits : Nat → Option Nat)
    (readAt madeAt : Nat → DateTime) (k : Nat) (cursor : Option (List Char)) :
    Except AppError (List ToolSearchResult × Option (List Char)) :=
  (searchTools signing scoring s presence { request with cursor := cursor, limit := limits k }
    (readAt k) (madeAt k)).map fun answer => (answer.items, answer.nextCursor)

/-- Following the cursors, with any limits and each before it has expired, ends and gives every tool
    that is shown once, in one order. -/
def ReadsEveryTool (request : SearchToolsRequest) : Prop :=
  ∀ (limits : Nat → Option Nat) (readAt madeAt : Nat → DateTime), (∀ k, LimitAllowed (limits k)) →
    (∀ k, readAt (k + 1) < madeAt k + toolSearchCursorTtlSeconds) →
    ∃ pages, PagedReading (searchPage signing scoring s presence request limits readAt madeAt)
        0 none pages ∧
      pages.flatten = shownTools scoring s presence request ∧
      ∀ pages', PagedReading (searchPage signing scoring s presence request limits readAt madeAt)
        0 none pages' → pages' = pages

/-- A cursor that the request before has made for a place, or none for the first one. -/
def CursorAt (request : SearchToolsRequest) (madeAt : Nat → DateTime) (k : Nat)
    (cursor : Option (List Char)) (i : Nat) : Prop :=
  (cursor = none ∧ i = 0) ∨ ∃ j, k = j + 1 ∧
    cursor = some (cursorText signing (createSearchCursor signing request i (madeAt j)))

theorem parse_cursorAt {request : SearchToolsRequest} {readAt madeAt : Nat → DateTime} {k : Nat}
    {cursor : Option (List Char)} {i : Nat} {limit : Option Nat}
    (htime : ∀ k, readAt (k + 1) < madeAt k + toolSearchCursorTtlSeconds)
    (h : CursorAt signing request madeAt k cursor i) :
    parseSearchCursor signing { request with cursor := cursor, limit := limit } (readAt k) =
      .ok i := by
  rcases h with ⟨rfl, rfl⟩ | ⟨j, rfl, rfl⟩
  · rfl
  · refine (parseSearchCursor_ok_iff signing rfl).mpr ⟨_, _, openCursor_cursorText signing _,
      signing.fromBytes_toBytes _, htime j, rfl, rfl⟩

theorem searchPage_at {request : SearchToolsRequest} {limits : Nat → Option Nat}
    {readAt madeAt : Nat → DateTime} {k : Nat} {cursor : Option (List Char)} {i : Nat}
    (hvisible : toolIsVisibleToActor request.scope.actorRef = true)
    (hlimit : LimitAllowed (limits k))
    (htime : ∀ k, readAt (k + 1) < madeAt k + toolSearchCursorTtlSeconds)
    (h : CursorAt signing request madeAt k cursor i) :
    let full := shownTools scoring s presence request
    let limit := (limits k).getD toolSearchDefaultLimit
    searchPage signing scoring s presence request limits readAt madeAt k cursor =
      .ok ((full.drop i).take limit,
        if i + limit < full.length then
          some (cursorText signing (createSearchCursor signing request (i + limit) (madeAt k)))
        else none) :=
  congrArg (Except.map fun answer : SearchToolsResponse => (answer.items, answer.nextCursor))
    (@searchTools_ok signing Score _ _ scoring s presence
      { request with cursor := cursor, limit := limits k } (readAt k) (madeAt k) i hvisible hlimit
      (parse_cursorAt signing htime h))

theorem searchPage_hidden {request : SearchToolsRequest} {limits : Nat → Option Nat}
    {readAt madeAt : Nat → DateTime} {k : Nat} {cursor : Option (List Char)}
    (hhidden : ¬ toolIsVisibleToActor request.scope.actorRef = true) :
    searchPage signing scoring s presence request limits readAt madeAt k cursor =
      .ok ([], none) := by
  have hfalse : toolIsVisibleToActor request.scope.actorRef = false :=
    Bool.eq_false_iff.mpr hhidden
  unfold searchPage searchTools
  dsimp only
  rw [hfalse, if_pos (by decide)]
  rfl

/-- **The pages put together are what is shown.** -/
theorem search_reading (request : SearchToolsRequest) :
    ReadsEveryTool signing scoring s presence request := by
  intro limits readAt madeAt hlimits htime
  let next := searchPage signing scoring s presence request limits readAt madeAt
  let full := shownTools scoring s presence request
  suffices h : ∃ pages, PagedReading next 0 none pages ∧ pages.flatten = full.drop 0 by
    obtain ⟨pages, hreading, hpages⟩ := h
    exact ⟨pages, hreading, hpages, fun pages' h' => h'.unique hreading⟩
  refine @Lib.exists_reading_at _ _ _ next (CursorAt signing request madeAt) full ?_ 0 none 0
    (Or.inl ⟨rfl, rfl⟩)
  intro k cursor i hcursor
  refine ⟨(limits k).getD toolSearchDefaultLimit, (hlimits k).1, ?_⟩
  by_cases hvisible : toolIsVisibleToActor request.scope.actorRef = true
  · refine ⟨_, searchPage_at signing scoring s presence hvisible (hlimits k) htime hcursor, ?_⟩
    by_cases hmore : i + (limits k).getD toolSearchDefaultLimit < full.length
    · rw [if_pos hmore]
      exact ⟨hmore, Or.inr ⟨k, rfl, rfl⟩⟩
    · rw [if_neg hmore]
      exact Nat.not_lt.mp hmore
  · have hfull : full = [] := if_neg hvisible
    refine ⟨none, ?_, ?_⟩
    · rw [hfull, List.drop_nil, List.take_nil]
      exact searchPage_hidden signing scoring s presence hvisible
    · rw [hfull]
      exact Nat.zero_le _

omit [Zero Score] in
/-- The order in which the tools come: the higher score first, then the smaller id. -/
theorem rankLe_trans (a b c : RankedDefinition Score) (hab : rankLe a b = true)
    (hbc : rankLe b c = true) : rankLe a c = true := by
  unfold rankLe at *
  rw [Bool.or_eq_true, Bool.and_eq_true, decide_eq_true_iff, decide_eq_true_iff,
    decide_eq_true_iff] at *
  rcases hab with hab | ⟨hab, hid⟩
  · rcases hbc with hbc | ⟨hbc, -⟩
    · exact Or.inl (lt_trans hbc hab)
    · exact Or.inl (hbc ▸ hab)
  · rcases hbc with hbc | ⟨hbc, hid'⟩
    · exact Or.inl (hab ▸ hbc)
    · exact Or.inr ⟨hab.trans hbc, String.le_trans hid hid'⟩

omit [Zero Score] in
theorem rankLe_total (a b : RankedDefinition Score) : (rankLe a b || rankLe b a) = true := by
  unfold rankLe
  rw [Bool.or_eq_true, Bool.or_eq_true, Bool.or_eq_true, Bool.and_eq_true, Bool.and_eq_true,
    decide_eq_true_iff, decide_eq_true_iff, decide_eq_true_iff, decide_eq_true_iff,
    decide_eq_true_iff, decide_eq_true_iff]
  rcases lt_trichotomy a.score b.score with hlt | heq | hgt
  · exact Or.inr (Or.inl hlt)
  · rcases String.le_total a.definition.toolId b.definition.toolId with hid | hid
    · exact Or.inl (Or.inr ⟨heq, hid⟩)
    · exact Or.inr (Or.inr ⟨heq.symm, hid⟩)
  · exact Or.inl (Or.inl hgt)

/-- What is shown are the tools that match, each as often as it is there, in the order of scores and
    ids. -/
def ShownInOrder (request : SearchToolsRequest) : Prop :=
  (rankedDefinitions scoring s presence request).Perm
      (matchingDefinitions scoring s presence request) ∧
    (rankedDefinitions scoring s presence request).Pairwise fun a b => rankLe a b = true

theorem shown_inOrder (request : SearchToolsRequest) :
    ShownInOrder scoring s presence request :=
  ⟨List.mergeSort_perm _ _, List.pairwise_mergeSort rankLe_trans rankLe_total _⟩

/-! ## 7. Tools that are not seen -/

/-- What an actor sees of the registry. -/
def visibleDefinitions (actor : ActorRef) (tooling : Tooling) : List ToolDefinition :=
  if toolIsVisibleToActor actor then loadActiveToolDefinitions tooling else []

/-- **What the actor does not see changes nothing**: not the tools, not their order, and not the
    cursor. -/
theorem search_visible {request : SearchToolsRequest} {definitions : Lib.Table ToolDefinitionRow}
    (h : visibleDefinitions request.scope.actorRef s.tooling =
      visibleDefinitions request.scope.actorRef
        { s.tooling with toolDefinitions := definitions }) (readAt madeAt : DateTime) :
    searchTools signing scoring s presence request readAt madeAt =
      searchTools signing scoring
        { s with tooling := { s.tooling with toolDefinitions := definitions } } presence request
        readAt madeAt := by
  unfold searchTools
  cases hvisible : toolIsVisibleToActor request.scope.actorRef with
  | false => rfl
  | true =>
    unfold visibleDefinitions at h
    rw [hvisible, if_pos rfl, if_pos rfl] at h
    have hsame : rankedDefinitions scoring s presence request = rankedDefinitions scoring
        { s with tooling := { s.tooling with toolDefinitions := definitions } } presence
        request := by
      unfold rankedDefinitions matchingDefinitions
      dsimp only
      rw [h]
      rfl
    rw [hsame]

/-! ## 8. Refusals -/

/-- A cursor that Core has made. -/
structure IssuedCursor where
  request : SearchToolsRequest
  offset : Nat
  madeAt : DateTime
  deriving DecidableEq

def IssuedCursor.cursor (i : IssuedCursor) : SearchCursorV1 :=
  createSearchCursor signing i.request i.offset i.madeAt

/-- It was made for the same search, and has not expired. -/
def IssuedCursor.GoodFor (i : IssuedCursor) (request : SearchToolsRequest) (now : DateTime) :
    Prop :=
  i.request.scope = request.scope ∧ i.request.query = request.query ∧
    i.request.filters = request.filters ∧ now < i.madeAt + toolSearchCursorTtlSeconds

/-- No one but Core signs a cursor: if a text carries the signature of a payload that is a cursor
    then it is one that Core has made. -/
def Unforged (issued : List IssuedCursor) (encoded : List Char) : Prop :=
  ∀ payload cursor, openCursor encoded = some (payload, signing.sign payload) →
    signing.fromBytes payload = some cursor →
      ∃ i ∈ issued, cursor = i.cursor signing ∧ payload = signing.toBytes cursor

/-- The hash keeps the request apart from the searches that cursors were made for. -/
def BindingApart (issued : List IssuedCursor) (request : SearchToolsRequest) : Prop :=
  ∀ i ∈ issued, bindingOf signing i.request = bindingOf signing request →
    i.request.scope = request.scope ∧ i.request.query = request.query ∧
      i.request.filters = request.filters

def Refused (request : SearchToolsRequest) (readAt madeAt : DateTime) : Prop :=
  searchTools signing scoring s presence request readAt madeAt = .error invalidCursor

/-- The text spells the payload and the signature of a cursor. -/
def Spells (encoded : List Char) (cursor : SearchCursorV1) : Prop :=
  openCursor encoded = some (signing.toBytes cursor, signing.sign (signing.toBytes cursor))

/-- The text of no cursor that was made for this search and has not expired. -/
def ForeignText (issued : List IssuedCursor) (request : SearchToolsRequest) (encoded : List Char)
    (now : DateTime) : Prop :=
  ∀ i ∈ issued, i.GoodFor request now → encoded ≠ cursorText signing (i.cursor signing)

/-- With a cursor that is taken a search does not complain of it, whatever the limit. -/
theorem searchTools_ne_invalidCursor {request : SearchToolsRequest} {readAt madeAt : DateTime}
    {offset : Nat} (hvisible : toolIsVisibleToActor request.scope.actorRef = true)
    (hoffset : parseSearchCursor signing request readAt = .ok offset) :
    searchTools signing scoring s presence request readAt madeAt ≠ .error invalidCursor := by
  by_cases hlimit : LimitAllowed request.limit
  · rw [searchTools_ok signing scoring s presence hvisible hlimit hoffset]
    nofun
  · unfold LimitAllowed at hlimit
    unfold searchTools
    rw [hvisible, if_neg (by decide), hoffset]
    show (if ¬ _ then _ else _) ≠ _
    rw [if_pos hlimit]
    intro h
    have hcode := AppError.badRequest.inj (Except.error.inj h)
    exact absurd hcode.1 (by decide)

/-- **A text that is not that of a good cursor is refused exactly if the actor is one that tools are
    shown to and the text does not spell a good cursor either.** -/
theorem search_refuses_iff {issued : List IssuedCursor} {request : SearchToolsRequest}
    {encoded : List Char} {readAt madeAt : DateTime} (hcursor : request.cursor = some encoded)
    (hunforged : Unforged signing issued encoded)
    (hapart : BindingApart signing issued request) :
    Refused signing scoring s presence request readAt madeAt ↔
      toolIsVisibleToActor request.scope.actorRef = true ∧
        ∀ i ∈ issued, i.GoodFor request readAt → ¬ Spells signing encoded (i.cursor signing) := by
  unfold Refused
  by_cases hvisible : toolIsVisibleToActor request.scope.actorRef = true
  · rw [and_iff_right hvisible]
    cases hparse : parseSearchCursor signing request readAt with
    | error e =>
      have herror := parseSearchCursor_error signing hparse
      have hrefused : searchTools signing scoring s presence request readAt madeAt =
          .error invalidCursor := by
        unfold searchTools
        rw [hvisible, if_neg (by decide), hparse, herror]
        rfl
      refine iff_of_true hrefused ?_
      rintro i hi ⟨hscope, hquery, hfilters, htime⟩ hspells
      have hok : parseSearchCursor signing request readAt = .ok i.offset := by
        refine (parseSearchCursor_ok_iff signing hcursor).mpr ⟨_, _, hspells,
          signing.fromBytes_toBytes _, htime, ?_, rfl⟩
        show signing.binding _ _ _ = signing.binding _ _ _
        rw [hscope, hquery, hfilters]
      rw [hok] at hparse
      cases hparse
    | ok offset =>
      refine iff_of_false
        (searchTools_ne_invalidCursor signing scoring s presence hvisible hparse) ?_
      intro hnone
      obtain ⟨payload, cursor, hopen, hbytes, htime, hbinding, -⟩ :=
        (parseSearchCursor_ok_iff signing hcursor).mp hparse
      obtain ⟨i, hi, rfl, rfl⟩ := hunforged payload cursor hopen hbytes
      obtain ⟨hscope, hquery, hfilters⟩ := hapart i hi hbinding
      exact hnone i hi ⟨hscope, hquery, hfilters, htime⟩ hopen
  · refine iff_of_false ?_ fun h => hvisible h.1
    unfold searchTools
    rw [Bool.eq_false_iff.mpr hvisible, if_pos (by decide)]
    nofun

end Search

/-! ## 9. A cursor in capital letters -/

/-- A list of numbers as bytes, each as a run. -/
def runsOf (ns : List Nat) : List UInt8 := ns.flatMap fun n => List.replicate n 1 ++ [0]

def ofRuns : Nat → List UInt8 → List Nat
  | _, [] => []
  | n, b :: bs => if b = 0 then n :: ofRuns 0 bs else ofRuns (n + 1) bs

theorem ofRuns_runsOf (ns : List Nat) : ofRuns 0 (runsOf ns) = ns := by
  have hrun : ∀ n k (rest : List UInt8),
      ofRuns k (List.replicate n 1 ++ (0 :: rest)) = (k + n) :: ofRuns 0 rest := by
    intro n
    induction n with
    | zero => exact fun k rest => rfl
    | succ n ih =>
      intro k rest
      rw [List.replicate_succ, List.cons_append, ofRuns, if_neg (by decide), ih,
        Nat.add_right_comm]
      rfl
  induction ns with
  | nil => rfl
  | cons n ns ih =>
    have hcons : runsOf (n :: ns) = List.replicate n 1 ++ (0 :: runsOf ns) := by
      unfold runsOf
      rw [List.flatMap_cons, List.append_assoc]
      rfl
    rw [hcons, hrun, ih, Nat.zero_add]

def cursorNumbers (c : SearchCursorV1) : List Nat :=
  c.offset :: c.expiresAt.toNat :: (-c.expiresAt).toNat :: c.bindingHash.toList.map Char.toNat

def cursorOfNumbers : List Nat → Option SearchCursorV1
  | offset :: up :: down :: hash =>
    some ⟨offset, String.ofList (hash.map Char.ofNat), (up : Int) - down⟩
  | _ => none

theorem cursorOfNumbers_cursorNumbers (c : SearchCursorV1) :
    cursorOfNumbers (cursorNumbers c) = some c := by
  have hhash : String.ofList ((c.bindingHash.toList.map Char.toNat).map Char.ofNat) =
      c.bindingHash := by
    rw [List.map_map]
    have : Char.ofNat ∘ Char.toNat = id := funext fun ch => Char.ofNat_toNat ch
    rw [this, List.map_id, String.ofList_toList]
  have htime : (c.expiresAt.toNat : Int) - ((-c.expiresAt).toNat : Int) = c.expiresAt :=
    Int.toNat_sub_toNat_neg c.expiresAt
  unfold cursorNumbers cursorOfNumbers
  dsimp only
  rw [hhash, htime]

/-- The cursor of the second tool of a search for `inspect`, and its JSON text. -/
def secondCursor : SearchCursorV1 :=
  ⟨1, "sha256:759d5a2e6291ed3036bc38787664394f33a5c467449fb00b8929e9330595bca9", 1767225900⟩

def secondCursorText : String :=
  "\x7b\"offset\":1,\"binding_hash\":\"sha256:759d5a2e6291ed3036bc38787664394f33a5c467449fb00b" ++
    "8929e9330595bca9\",\"expires_at\":\"2026-01-01T00:05:00Z\"\x7d"

def secondPayload : List UInt8 := secondCursorText.toList.map fun c => UInt8.ofNat c.toNat

def secondSignature : List UInt8 :=
  [84, 84, 139, 179, 185, 202, 10, 173, 57, 222, 3, 56, 23, 152, 12, 154, 175, 105, 135, 225, 204,
    221, 109, 160, 236, 219, 102, 26, 13, 82, 189, 230]

/-- A signing that knows the text and the signature of one cursor. -/
def signingOf (known : SearchCursorV1) (payload signature : List UInt8)
    (hash : String) (hhead : payload.head? ≠ some 0) : SearchSigning where
  sign p := if p = payload then signature else []
  toBytes c := if c = known then payload else 0 :: runsOf (cursorNumbers c)
  fromBytes p := if p = payload then some known else cursorOfNumbers (ofRuns 0 p.tail)
  binding _ query _ := if query = "inspect" then hash else query
  fromBytes_toBytes c := by
    by_cases hc : c = known
    · rw [if_pos hc, if_pos rfl, hc]
    · have hne : ¬ 0 :: runsOf (cursorNumbers c) = payload := by
        rintro rfl
        exact hhead rfl
      rw [if_neg hc, if_neg hne, List.tail_cons, ofRuns_runsOf, cursorOfNumbers_cursorNumbers]

theorem secondPayload_cons : ∃ rest, secondPayload = 0x7b :: rest := by
  have hcons : ∀ s t : String, (∃ rest, s = String.ofList ('\x7b' :: rest)) →
      ∃ rest, ((s ++ t).toList.map fun c => UInt8.ofNat c.toNat) = 0x7b :: rest := by
    rintro s t ⟨rest, rfl⟩
    rw [String.toList_append, String.toList_ofList]
    exact ⟨_, rfl⟩
  exact hcons _ _ ⟨_, rfl⟩

theorem secondPayload_head : secondPayload.head? ≠ some 0 := by
  obtain ⟨rest, hrest⟩ := secondPayload_cons
  rw [hrest]
  exact fun h => absurd (Option.some.inj h) (by decide)

def oneCursorSigning : SearchSigning :=
  signingOf secondCursor secondPayload secondSignature secondCursor.bindingHash secondPayload_head

theorem fromBytes_second : oneCursorSigning.fromBytes secondPayload = some secondCursor := by
  unfold oneCursorSigning
  generalize secondPayload_head = hhead
  generalize secondPayload = payload at hhead ⊢
  exact if_pos rfl

theorem toBytes_second : oneCursorSigning.toBytes secondCursor = secondPayload := by
  unfold oneCursorSigning
  generalize secondPayload_head = hhead
  generalize secondPayload = payload at hhead ⊢
  generalize secondCursor = known
  exact if_pos rfl

theorem sign_second : oneCursorSigning.sign secondPayload = secondSignature := by
  unfold oneCursorSigning
  generalize secondPayload_head = hhead
  generalize secondPayload = payload at hhead ⊢
  exact if_pos rfl

def inspectSearch (cursor : Option (List Char)) : SearchToolsRequest where
  scope := ⟨.system, none, none, none, none⟩
  query := "inspect"
  filters := {}
  cursor := cursor
  limit := some 1

/-- The cursor of the second tool, as Core has made it. -/
def secondIssued : IssuedCursor := ⟨inspectSearch none, 1, 1767225600⟩

/-- The text of that cursor, with one of its letters as a capital letter. -/
def capitalText : List Char := (cursorText oneCursorSigning secondCursor).set 4 'B'

theorem cursorText_second {rest : List UInt8} (hrest : secondPayload = 0x7b :: rest) :
    cursorText oneCursorSigning secondCursor =
      ['v', '1'] ++ '.' :: ('7' :: 'b' :: encodeHex rest ++ '.' :: encodeHex secondSignature) := by
  unfold cursorText
  rw [toBytes_second]
  dsimp only
  rw [sign_second, hrest]
  rfl

/-- The capital letter is read as the small one. -/
theorem openCursor_capital (rest signature : List UInt8) :
    openCursor (['v', '1'] ++ '.' :: ('7' :: 'B' :: encodeHex rest ++ '.' :: encodeHex signature)) =
      some (0x7b :: rest, signature) := by
  have hdot (bytes : List UInt8) : '.' ∉ encodeHex bytes := fun h => (mem_encodeHex h).2 rfl
  have hread : decodeHex ('7' :: 'B' :: encodeHex rest) = some (0x7b :: rest) :=
    decodeHex_cons (by decide) (by decide) (by decide) (decodeHex_encodeHex rest)
  unfold openCursor
  rw [splitDots_append (by decide), splitDots_append (by simp [hdot rest]),
    splitDots_last (hdot _)]
  dsimp only
  rw [if_pos rfl, hread, decodeHex_encodeHex]
  rfl

theorem openCursor_capitalText :
    openCursor capitalText = some (secondPayload, secondSignature) := by
  obtain ⟨rest, hrest⟩ := secondPayload_cons
  have htext : capitalText =
      ['v', '1'] ++ '.' :: ('7' :: 'B' :: encodeHex rest ++ '.' :: encodeHex secondSignature) := by
    rw [capitalText, cursorText_second hrest]
    rfl
  rw [htext, openCursor_capital, hrest]

theorem capitalText_ne : capitalText ≠ cursorText oneCursorSigning secondCursor := by
  obtain ⟨rest, hrest⟩ := secondPayload_cons
  rw [capitalText, cursorText_second hrest]
  exact fun h => absurd (congrArg (·[4]?) h) (by decide : some 'B' ≠ some 'b')

theorem secondIssued_cursor : secondIssued.cursor oneCursorSigning = secondCursor := by
  decide

theorem unforged_second {encoded : List Char}
    (hopen : openCursor encoded = some (secondPayload, secondSignature) ∨
      openCursor encoded = none) : Unforged oneCursorSigning [secondIssued] encoded := by
  intro payload cursor hpayload hcursor
  rcases hopen with hopen | hopen
  · rw [hopen] at hpayload
    obtain ⟨rfl, -⟩ := Prod.mk.inj (Option.some.inj hpayload)
    rw [fromBytes_second] at hcursor
    cases hcursor
    exact ⟨secondIssued, List.mem_singleton.mpr rfl, secondIssued_cursor.symm,
      toBytes_second.symm⟩
  · rw [hopen] at hpayload
    cases hpayload

theorem bindingApart_second (cursor : Option (List Char)) :
    BindingApart oneCursorSigning [secondIssued] (inspectSearch cursor) := by
  intro i hi _
  rw [List.mem_singleton.mp hi]
  exact ⟨rfl, rfl, rfl⟩

def noScoring : Scoring Nat := ⟨fun query => [query], fun _ _ _ => 1⟩

end Uprava.Core
