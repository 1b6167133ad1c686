/-
  File:      Uprava/Node/Compaction.lean
  Subject:   What saving forgets of the finished commands: which part of it holds for every order in
             which the map of statuses is run through, and for which orders the oldest ones go.

  `compact_for_persistence` runs over a hash map, so the order is an argument here
  (`compactIn`). A run of the Node finishes commands, saves and restarts; `compaction_lawful_iff`
  says along which runs every save forgets the oldest finished commands.
-/
import Mathlib.Data.List.Nodup
import Uprava.Lib.Run
import Uprava.Node.State

namespace Uprava.Node

open Uprava.Protocol
open Uprava.Lib (Assoc Meets meets_congr run check)

/-! ## 1. Compaction in an order -/

/-- An entry of the map of statuses. -/
abbrev StatusEntry := Sigma fun _ : CommandId => CommandState

/-- The finished commands, in the order the map is run through. -/
def removableCommands (order : List StatusEntry) : List CommandId :=
  (order.filter fun e => isTerminalStatus e.2).map (·.1)

def evictedCommands (order : List StatusEntry) : List CommandId :=
  if maxRetainedCommands < order.length then
    (removableCommands order).take (order.length - maxRetainedCommands)
  else []

/-- `compact_for_persistence`, where the map of statuses is run through in this order. -/
def NodeLocalState.compactIn (s : NodeLocalState) (order : List StatusEntry) : NodeLocalState :=
  let commandStatus := s.commandStatus.retain fun id => !(evictedCommands order).contains id
  { s with
    commandStatus
    commandResultPayloads :=
      (s.commandResultPayloads.retain fun id => !(evictedCommands order).contains id).retain
        fun id => (commandStatus.lookup id).isSome }

/-- The compaction of the other modules runs through the map in the order of its entries. -/
theorem compactForPersistence_eq (s : NodeLocalState) :
    s.compactForPersistence = s.compactIn s.commandStatus.entries := by
  have hlength : s.commandStatus.keys.length = s.commandStatus.entries.length :=
    List.length_map ..
  have hsame : s.forgottenCommands = evictedCommands s.commandStatus.entries := by
    unfold NodeLocalState.forgottenCommands evictedCommands removableCommands
    rw [hlength]
  unfold NodeLocalState.compactForPersistence NodeLocalState.compactIn
  rw [hsame]

/-! ## 2. Runs -/

/-- The Node, what it saved last, and when each command was finished last. -/
structure Retained where
  node : NodeLocalState
  saved : NodeLocalState := {}
  finishedAt : CommandId → Nat := fun _ => 0
  clock : Nat := 1

inductive RetainedAction where
  /-- A command gets a status, and its result with it. -/
  | record (commandId : CommandId) (status : CommandState) (payload : JsonValue)
  | save (order : List StatusEntry)
  | restart
  deriving DecidableEq

/-- `record_command_result_payload`. -/
def Retained.record (r : Retained) (commandId : CommandId) (status : CommandState)
    (payload : JsonValue) : Retained :=
  { r with
    node := { r.node with
      commandStatus := r.node.commandStatus.insert commandId status
      commandResultPayloads := r.node.commandResultPayloads.insert commandId payload }
    finishedAt := if isTerminalStatus status then Function.update r.finishedAt commandId r.clock
      else r.finishedAt
    clock := r.clock + 1 }

def Retained.step (r : Retained) : RetainedAction → Option Retained
  | .record commandId status payload => some (r.record commandId status payload)
  | .save order =>
    if order.Perm r.node.commandStatus.entries then
      some { r with saved := r.node.compactIn order }
    else none
  | .restart => some { r with node := r.saved }

theorem Retained.step_save {r : Retained} {order : List StatusEntry}
    (horder : order.Perm r.node.commandStatus.entries) :
    r.step (.save order) = some { r with saved := r.node.compactIn order } := if_pos horder

/-- What a compaction keeps. -/
structure Compacted (s t : NodeLocalState) : Prop where
  unfinished : ∀ id status, s.commandStatus.lookup id = some status →
    isTerminalStatus status = false → t.commandStatus.lookup id = some status
  statuses : ∀ id status, t.commandStatus.lookup id = some status →
    s.commandStatus.lookup id = some status
  payloadsOnly : ∀ id, t.commandStatus.lookup id = none → t.commandResultPayloads.lookup id = none
  payloads : ∀ id, t.commandStatus.lookup id ≠ none →
    t.commandResultPayloads.lookup id = s.commandResultPayloads.lookup id
  bounded : (t.commandStatus.entries.filter fun e => isTerminalStatus e.2).length ≤
    maxRetainedCommands

/-- No finished command is kept that was finished before one that is forgotten. -/
def EvictsOldest (finishedAt : CommandId → Nat) (s t : NodeLocalState) : Prop :=
  ∀ evicted kept status, s.commandStatus.lookup evicted ≠ none →
    t.commandStatus.lookup evicted = none → t.commandStatus.lookup kept = some status →
    isTerminalStatus status = true → finishedAt evicted ≤ finishedAt kept

/-- The save of a step is a compaction that forgets the oldest. -/
def CompactsLawfully (r : Retained) : RetainedAction → Prop
  | .save order => order.Perm r.node.commandStatus.entries →
    Compacted r.node (r.node.compactIn order) ∧
      EvictsOldest r.finishedAt r.node (r.node.compactIn order)
  | _ => True

/-- The condition of a step: of the finished commands, the map lists as many as there are commands
    too many before all that were finished later. -/
def ListsOldestFirst (r : Retained) : RetainedAction → Prop
  | .save order => order.Perm r.node.commandStatus.entries →
    ∀ a ∈ (removableCommands order).take (order.length - maxRetainedCommands),
      ∀ b ∈ (removableCommands order).drop (order.length - maxRetainedCommands),
        r.finishedAt a ≤ r.finishedAt b
  | _ => True

/-! ## 3. One compaction -/

section Order

variable {s : NodeLocalState} {order : List StatusEntry}

theorem evictedCommands_eq (order : List StatusEntry) :
    evictedCommands order =
      (removableCommands order).take (order.length - maxRetainedCommands) := by
  unfold evictedCommands
  split
  · rfl
  · rw [Nat.sub_eq_zero_of_le (by omega), List.take_zero]

/-- Without duplicates, what is not among the first ones is what follows them. -/
theorem filter_not_take {l : List CommandId} (h : l.Nodup) (k : Nat) :
    (l.filter fun id => !(l.take k).contains id) = l.drop k := by
  have hdisjoint : List.Disjoint (l.take k) (l.drop k) := List.disjoint_take_drop h (Nat.le_refl k)
  have hfront : (l.take k).filter (fun id => !(l.take k).contains id) = [] := by
    refine List.filter_eq_nil_iff.mpr fun id hid => ?_
    simp [hid]
  have hback : (l.drop k).filter (fun id => !(l.take k).contains id) = l.drop k := by
    refine List.filter_eq_self.mpr fun id hid => ?_
    have hnot : id ∉ l.take k := fun htake => hdisjoint htake hid
    simp [hnot]
  calc (l.filter fun id => !(l.take k).contains id)
      = (l.take k ++ l.drop k).filter (fun id => !(l.take k).contains id) := by
        rw [List.take_append_drop]
    _ = l.drop k := by rw [List.filter_append, hfront, hback, List.nil_append]

theorem nodup_removableCommands (horder : order.Perm s.commandStatus.entries) :
    (removableCommands order).Nodup := by
  have hkeys : (order.map Sigma.fst).Nodup :=
    (horder.map Sigma.fst).nodup_iff.mpr s.commandStatus.nodupKeys
  exact hkeys.sublist (List.filter_sublist.map _)

/-- The finished commands are listed, whatever the order. -/
theorem mem_removableCommands (horder : order.Perm s.commandStatus.entries) {id : CommandId} :
    id ∈ removableCommands order ↔
      ∃ status, s.commandStatus.lookup id = some status ∧ isTerminalStatus status = true := by
  unfold removableCommands
  rw [List.mem_map]
  constructor
  · intro ⟨e, he, hid⟩
    obtain ⟨hmem, hterminal⟩ := List.mem_filter.mp he
    refine ⟨e.2, ?_, hterminal⟩
    rw [← hid]
    exact AList.mem_lookup_iff.mpr (horder.mem_iff.mp hmem)
  · intro ⟨status, hlookup, hterminal⟩
    have hmem : (⟨id, status⟩ : StatusEntry) ∈ s.commandStatus.entries :=
      AList.mem_lookup_iff.mp hlookup
    exact ⟨⟨id, status⟩, List.mem_filter.mpr ⟨horder.mem_iff.mpr hmem, hterminal⟩, rfl⟩

theorem lookup_compactIn (id : CommandId) :
    (s.compactIn order).commandStatus.lookup id =
      if id ∈ evictedCommands order then none else s.commandStatus.lookup id := by
  unfold NodeLocalState.compactIn
  rw [Assoc.lookup_retain]
  by_cases h : id ∈ evictedCommands order <;> simp [h]

theorem lookup_compactIn_payloads (id : CommandId) :
    (s.compactIn order).commandResultPayloads.lookup id =
      if ((s.compactIn order).commandStatus.lookup id).isSome then
        s.commandResultPayloads.lookup id
      else none := by
  unfold NodeLocalState.compactIn
  dsimp only
  rw [Assoc.lookup_retain, Assoc.lookup_retain, Assoc.lookup_retain]
  by_cases h : id ∈ evictedCommands order <;> simp [h]

/-- **Whatever the order, a compaction keeps unfinished commands, the results of what it keeps, and
    no more finished commands than allowed.** -/
theorem compacted_compactIn (horder : order.Perm s.commandStatus.entries) :
    Compacted s (s.compactIn order) := by
  have hnodup := nodup_removableCommands horder
  have hevicted : ∀ {id}, id ∈ evictedCommands order → id ∈ removableCommands order := by
    intro id hid
    rw [evictedCommands_eq] at hid
    exact List.mem_of_mem_take hid
  refine ⟨fun id status hlookup hunfinished => ?_, fun id status hlookup => ?_, fun id hnone => ?_,
    fun id hsome => ?_, ?_⟩
  · have hkept : id ∉ evictedCommands order := by
      intro hid
      obtain ⟨status', hlookup', hterminal⟩ := (mem_removableCommands horder).mp (hevicted hid)
      rw [hlookup] at hlookup'
      obtain rfl := Option.some.inj hlookup'
      rw [hunfinished] at hterminal
      cases hterminal
    rw [lookup_compactIn, if_neg hkept, hlookup]
  · rw [lookup_compactIn] at hlookup
    split at hlookup
    · cases hlookup
    · exact hlookup
  · rw [lookup_compactIn_payloads, hnone]
    rfl
  · rw [lookup_compactIn_payloads, if_pos (Option.isSome_iff_ne_none.mpr hsome)]
  · -- what is kept of the finished commands is what follows the evicted ones
    have hlength : ((s.compactIn order).commandStatus.entries.filter
        fun e => isTerminalStatus e.2).length =
        ((removableCommands order).filter fun id => !(evictedCommands order).contains id).length := by
      have hentries : (s.compactIn order).commandStatus.entries =
          s.commandStatus.entries.filter fun e => !(evictedCommands order).contains e.1 := rfl
      rw [hentries, removableCommands, List.filter_map, List.length_map, List.filter_filter,
        List.filter_filter]
      refine ((horder.symm.filter _).length_eq).trans ?_
      congr 2
      funext e
      exact Bool.and_comm _ _
    have hrest : ((removableCommands order).filter
        fun id => !(evictedCommands order).contains id) =
        (removableCommands order).drop (order.length - maxRetainedCommands) := by
      rw [evictedCommands_eq]
      exact filter_not_take hnodup _
    have hle : (removableCommands order).length ≤ order.length := by
      rw [removableCommands, List.length_map]
      exact List.length_filter_le _ _
    rw [hlength, hrest, List.length_drop]
    omega

/-- **A compaction forgets the oldest** exactly when the map lists them first. -/
theorem evictsOldest_compactIn_iff (horder : order.Perm s.commandStatus.entries)
    (finishedAt : CommandId → Nat) :
    EvictsOldest finishedAt s (s.compactIn order) ↔
      ∀ a ∈ (removableCommands order).take (order.length - maxRetainedCommands),
        ∀ b ∈ (removableCommands order).drop (order.length - maxRetainedCommands),
          finishedAt a ≤ finishedAt b := by
  have hnodup := nodup_removableCommands horder
  rw [← filter_not_take hnodup, ← evictedCommands_eq]
  constructor
  · intro h a ha b hb
    obtain ⟨hb, hkept⟩ := List.mem_filter.mp hb
    have hkept' : b ∉ evictedCommands order := by simpa using hkept
    have ha' : a ∈ removableCommands order := by
      rw [evictedCommands_eq] at ha
      exact List.mem_of_mem_take ha
    obtain ⟨status, hstatus, -⟩ := (mem_removableCommands horder).mp ha'
    obtain ⟨status', hstatus', hterminal⟩ := (mem_removableCommands horder).mp hb
    refine h a b status' (by simp [hstatus]) ?_ ?_ hterminal
    · rw [lookup_compactIn, if_pos ha]
    · rw [lookup_compactIn, if_neg hkept', hstatus']
  · intro h evicted kept status hhad hgone hkept hterminal
    rw [lookup_compactIn] at hgone hkept
    have hevicted : evicted ∈ evictedCommands order := by
      by_contra hnot
      rw [if_neg hnot] at hgone
      exact hhad hgone
    split at hkept
    · cases hkept
    · rename_i hnot
      have hlisted := (mem_removableCommands horder).mpr ⟨status, hkept, hterminal⟩
      exact h evicted hevicted kept (List.mem_filter.mpr ⟨hlisted, by simpa using hnot⟩)

end Order

/-! ## 4. Runs -/

/-- **Along a run, every save keeps what it has to and forgets the oldest finished commands**
    exactly when every save finds them listed first. -/
theorem compaction_lawful_iff (r : Retained) (as : List RetainedAction) :
    Meets Retained.step CompactsLawfully r as ↔ Meets Retained.step ListsOldestFirst r as := by
  refine meets_congr fun r a => ?_
  cases a with
  | save order =>
    refine forall_congr' fun horder => ?_
    rw [← evictsOldest_compactIn_iff horder]
    exact and_iff_right (compacted_compactIn horder)
  | _ => exact Iff.rfl

/-! ## 5. One command too many -/

def commandName (n : Nat) : CommandId := String.ofList (List.replicate n 'c')

theorem commandName_injective : Function.Injective commandName := by
  intro m n h
  have hlength := congrArg List.length (String.ofList_inj.mp h)
  rwa [List.length_replicate, List.length_replicate] at hlength

def completedEntry (n : Nat) : StatusEntry := ⟨commandName n, .completed⟩

/-- Commands that finish one after the other. -/
def completions (n : Nat) : List RetainedAction :=
  (List.range n).map fun k => .record (commandName k) .completed .emptyObject

/-- The map lists them last first. -/
theorem run_completions (n : Nat) :
    ∃ r, run Retained.step { node := {} } (completions n) = some r ∧
      r.node.commandStatus.entries = ((List.range n).map completedEntry).reverse ∧
      r.clock = n + 1 ∧ ∀ k < n, r.finishedAt (commandName k) = k + 1 := by
  induction n with
  | zero => exact ⟨_, rfl, rfl, rfl, fun k hk => absurd hk (Nat.not_lt_zero k)⟩
  | succ n ih =>
    obtain ⟨r, hrun, hentries, hclock, hfinished⟩ := ih
    have hnew : commandName n ∉ r.node.commandStatus := by
      rw [AList.mem_keys, AList.keys, hentries, List.keys, List.map_reverse, List.mem_reverse,
        List.map_map, List.mem_map]
      intro ⟨k, hk, hname⟩
      rw [List.mem_range] at hk
      have hsame := commandName_injective hname
      omega
    refine ⟨r.record (commandName n) .completed .emptyObject, ?_, ?_, ?_, fun k hk => ?_⟩
    · rw [completions, List.range_succ, List.map_append]
      exact Lib.run_append_eq_some.mpr ⟨r, hrun, rfl⟩
    · rw [List.range_succ, List.map_append, List.reverse_append, ← hentries]
      exact AList.entries_insert_of_notMem hnew
    · show r.clock + 1 = n + 1 + 1
      rw [hclock]
    · show Function.update r.finishedAt (commandName n) r.clock (commandName k) = k + 1
      by_cases hkn : k = n
      · subst hkn
        rw [Function.update_self, hclock]
      · rw [Function.update_of_ne fun he => hkn (commandName_injective he)]
        exact hfinished k (by omega)

/-- A save that finds the map so listed. -/
def savesNewestFirst (n : Nat) : List RetainedAction :=
  completions n ++ [.save ((List.range n).map completedEntry).reverse]

theorem removableCommands_newestFirst (n : Nat) :
    removableCommands ((List.range n).map completedEntry).reverse =
      ((List.range n).map commandName).reverse := by
  have hall : ((List.range n).map completedEntry).reverse.filter
      (fun e => isTerminalStatus e.2) = ((List.range n).map completedEntry).reverse := by
    refine List.filter_eq_self.mpr fun e he => ?_
    obtain ⟨k, -, rfl⟩ := List.mem_map.mp (List.mem_reverse.mp he)
    rfl
  rw [removableCommands, hall, List.map_reverse, List.map_map]
  rfl

/-- The save after one command too many forgets the command that finished last, and keeps the
    first. -/
theorem newest_evicted :
    (run Retained.step { node := {} } (savesNewestFirst (maxRetainedCommands + 1))).isSome ∧
      ¬ Meets Retained.step CompactsLawfully { node := {} }
        (savesNewestFirst (maxRetainedCommands + 1)) := by
  have hmax : 0 < maxRetainedCommands := by decide
  generalize hn : maxRetainedCommands = n at *
  obtain ⟨r, hrun, hentries, -, hfinished⟩ := run_completions (n + 1)
  have horder : ((List.range (n + 1)).map completedEntry).reverse.Perm
      r.node.commandStatus.entries := by rw [hentries]
  constructor
  · have hrest : run Retained.step r [.save ((List.range (n + 1)).map completedEntry).reverse] =
        some { r with
          saved := r.node.compactIn ((List.range (n + 1)).map completedEntry).reverse } := by
      rw [Lib.run_cons, Retained.step_save horder]
      rfl
    exact Option.isSome_iff_exists.mpr ⟨_, Lib.run_append_eq_some.mpr ⟨r, hrun, hrest⟩⟩
  · intro hmeets
    have hlawful := ((show Meets _ _ _ (_ ++ _ :: []) from hmeets).holds hrun horder).2
    rw [evictsOldest_compactIn_iff horder, removableCommands_newestFirst, hn, List.length_reverse,
      List.length_map, List.length_range, Nat.add_sub_cancel_left, List.range_succ, List.map_append,
      List.reverse_append] at hlawful
    have hfirst : commandName 0 ∈ ((List.range n).map commandName).reverse :=
      List.mem_reverse.mpr (List.mem_map_of_mem (List.mem_range.mpr hmax))
    have hle := hlawful (commandName n) List.mem_cons_self (commandName 0) hfirst
    rw [hfinished n (by omega), hfinished 0 (by omega)] at hle
    omega

end Uprava.Node
