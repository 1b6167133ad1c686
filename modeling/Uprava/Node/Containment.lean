/-
  File:      Uprava/Node/Containment.lean
  Subject:   The workspace commands stay below the canonical root of the workspace, and the side of
             a diff that is read from the work tree where no link leads it out.

  The walk to a command's path keeps one invariant: where it stands is the root and the names it
  has gone, and no link. It ends at the whole path or at the first link (`resolveSegments_ok`).
  Each command then does something else with a link: the tree and the file command look at the link
  itself, a write refuses it, and the diff reads what the link leads to.
-/
import Uprava.Node.HostFiles

namespace Uprava.Node.Host

open Uprava.Protocol
open Uprava.Lib (Traced FileTree FileEntry LinkTarget PathError)
open Uprava.Lib.FileTree (stepsOf)
open Uprava.Lib.Traced

variable {host : Host}

/-! ## 1. What a call arrives at -/

theorem steps_of_plain {path : Segments} (h : Plain path) : steps path = stepsOf path := by
  refine List.map_congr_left fun segment hmem => ?_
  unfold stepOf
  rw [if_neg (h segment hmem).1, if_neg (h segment hmem).2]

theorem plain_of_find {path : Segments} {entry : FileEntry String RegularFile}
    (h : host.tree.find path = some entry) : Plain path := by
  have hmem : path ∈ host.tree.entries.keys :=
    AList.mem_keys.mp (AList.lookup_isSome.mp (Option.isSome_of_eq_some h))
  exact host.plain path hmem

theorem plain_of_real {path : Segments} (h : host.tree.Real path) : Plain path := by
  rcases h with h | ⟨content, h⟩ <;> exact plain_of_find h

theorem plain_append {path rest : Segments} (hpath : Plain path) (hrest : Plain rest) :
    Plain (path ++ rest) := by
  intro segment hmem
  rcases List.mem_append.mp hmem with hmem | hmem
  · exact hpath segment hmem
  · exact hrest segment hmem

theorem plain_of_isPrefix {path rest : Segments} (h : Plain rest) (hpath : path <+: rest) :
    Plain path :=
  fun segment hmem => h segment (hpath.subset hmem)

/-- What a command's path comes to has no step up. -/
theorem plain_of_safe {path : String} {relative : Segments}
    (h : safeWorkspaceRelativePath path = .ok relative) : Plain relative := by
  unfold safeWorkspaceRelativePath at h
  dsimp only at h
  split at h
  · cases h
    nofun
  · split at h
    · cases h
    · split at h
      · cases h
      · rename_i hup
        cases h
        intro segment hmem
        refine ⟨?_, ?_⟩
        · have hkept := (List.mem_filter.mp hmem).2
          intro hdot
          simp [hdot] at hkept
        · intro hparent
          rw [List.contains_iff_mem, ← hparent] at hup
          exact hup hmem

theorem reach_real {call : FileCall} {follow : Bool} {path out : Segments}
    (hreal : host.tree.Real path) (h : host.reach call follow path = .ok out) :
    out = path ∧ host.fault call path = none := by
  unfold reach at h
  split at h
  · cases h
  · rw [steps_of_plain (plain_of_real hreal),
      FileTree.resolve_real follow host.linkLimit hreal] at h
    cases h
    exact ⟨rfl, ‹_›⟩

theorem reach_of_real {call : FileCall} {follow : Bool} {path : Segments}
    (hreal : host.tree.Real path) (hfault : host.fault call path = none) :
    host.reach call follow path = .ok path := by
  unfold reach
  rw [hfault, steps_of_plain (plain_of_real hreal),
    FileTree.resolve_real follow host.linkLimit hreal]
  rfl

theorem symlinkMetadata_eq (path : Segments) : host.files.symlinkMetadata path =
    (host.reach .symlinkMetadata false path).map (host.metadataAt .symlinkMetadata) :=
  rfl

theorem metadata_eq (path : Segments) : host.files.metadata path =
    (host.reach .metadata true path).map (host.metadataAt .metadata) :=
  rfl

theorem canonicalize_eq (path : Segments) :
    host.files.canonicalize path = host.reach .canonicalize true path :=
  rfl

theorem symlinkMetadata_of_find {path : Segments} {entry : FileEntry String RegularFile}
    (hfind : host.tree.find path = some entry) (hfault : host.fault .symlinkMetadata path = none) :
    host.files.symlinkMetadata path = .ok (host.metadataAt .symlinkMetadata path) := by
  rw [symlinkMetadata_eq, reach, hfault]
  dsimp only
  rw [steps_of_plain (plain_of_find hfind), FileTree.resolve_entry host.linkLimit hfind]
  rfl

/-- Looking at a name below where a walk stands. -/
theorem symlinkMetadata_child {path : Segments} {name : String} (hreal : host.tree.Real path)
    (hname : Plain [name]) :
    (∃ entry, host.tree.find (path ++ [name]) = some entry ∧
      host.fault .symlinkMetadata (path ++ [name]) = none) ∨
    (host.tree.find path = some .directory ∧ host.tree.find (path ++ [name]) = none ∧
      host.files.symlinkMetadata (path ++ [name]) = .error (ioError .missing)) ∨
    ∃ e : IoError, e.kind ≠ .notFound ∧
      host.files.symlinkMetadata (path ++ [name]) = .error e := by
  cases hfault : host.fault .symlinkMetadata (path ++ [name]) with
  | some e =>
    refine Or.inr (Or.inr ⟨e, host.fault_kind _ _ e hfault, ?_⟩)
    rw [symlinkMetadata_eq, reach, hfault]
    rfl
  | none =>
    have hsteps := steps_of_plain (plain_append (plain_of_real hreal) hname)
    rcases FileTree.resolve_child host.linkLimit name hreal with
      ⟨entry, hfind⟩ | ⟨hdir, hfind, hout⟩ | hout
    · exact Or.inl ⟨entry, hfind, rfl⟩
    · refine Or.inr (Or.inl ⟨hdir, hfind, ?_⟩)
      rw [symlinkMetadata_eq, reach, hfault]
      dsimp only
      rw [hsteps, hout]
      rfl
    · refine Or.inr (Or.inr ⟨ioError .notDirectory, by decide, ?_⟩)
      rw [symlinkMetadata_eq, reach, hfault]
      dsimp only
      rw [hsteps, hout]
      rfl

theorem canonicalRoot_directory {text : String} {root : Segments}
    (h : canonicalWorkspaceRoot host.files text = .ok root) :
    host.tree.find root = some .directory := by
  unfold canonicalWorkspaceRoot at h
  cases hroot : host.files.canonicalizeRoot text with
  | error e => rw [hroot] at h; cases h
  | ok found =>
    rw [hroot] at h
    dsimp only at h
    cases hdir : host.files.isDir found with
    | false => rw [hdir] at h; cases h
    | true =>
      have hreal : host.tree.Real found := by
        change host.canonicalizeText text = .ok found at hroot
        unfold canonicalizeText at hroot
        split at hroot
        · cases hroot
        · split at hroot
          · cases hroot
          · dsimp only at hroot
            cases hout : host.tree.resolve true host.linkLimit
                (if (pathOfText text).absolute = true then [] else host.cwd)
                (pathOfText text).steps with
            | error e => rw [hout] at hroot; cases hroot
            | ok out =>
              rw [hout] at hroot
              cases hroot
              refine FileTree.real_of_resolve ?_ hout
              by_cases habs : (pathOfText text).absolute = true
              · rw [if_pos habs, FileTree.find_nil]
              · rw [if_neg habs]
                exact host.cwd_directory
      have hfound : host.tree.find found = some .directory := by
        rw [isDir_files] at hdir
        split at hdir
        · rename_i out hreach
          rw [(reach_real hreal hreach).1] at hdir
          exact FileTree.isDirectory_iff.mp hdir
        · cases hdir
      rw [hdir] at h
      simp only [Bool.not_true, Bool.false_eq_true, if_false] at h
      split at h
      · cases h
      · cases h
        exact hfound

/-! ## 2. The walk to a path -/

/-- The calls of a walk from a path along some names, the last of which may be a link. -/
def Unhindered (host : Host) : Segments → Segments → Prop
  | _, [] => True
  | current, name :: rest =>
    host.fault .symlinkMetadata (current ++ [name]) = none ∧
      (rest ≠ [] → host.fault .canonicalize (current ++ [name]) = none) ∧
        Unhindered host (current ++ [name]) rest

theorem metadataAt_symlink {call : FileCall} {path : Segments}
    {entry : FileEntry String RegularFile} (h : host.tree.find path = some entry) :
    (host.metadataAt call path).kind = .symlink ↔ ∃ target, entry = .symlink target := by
  unfold metadataAt
  rw [h]
  cases entry <;> simp

theorem real_of_find {path : Segments} {entry : FileEntry String RegularFile}
    (h : host.tree.find path = some entry) (hlink : ¬ ∃ target, entry = .symlink target) :
    host.tree.Real path := by
  cases entry with
  | directory => exact Or.inl h
  | file content => exact Or.inr ⟨content, h⟩
  | symlink target => exact absurd ⟨target, rfl⟩ hlink

/-- **Where a walk ends**: at the end of the path, or at the first link on the way. -/
theorem resolveSegments_ok {root relative current rest path : Segments}
    (hreal : host.tree.Real current) (hplain : Plain rest)
    (h : resolveSegments host.files root relative current rest = .ok path) :
    (path = current ++ rest ∧ host.tree.Real path) ∨
      ∃ walked target, walked <+: rest ∧ path = current ++ walked ∧
        host.tree.find path = some (.symlink target) ∧ Unhindered host current walked := by
  induction rest generalizing current with
  | nil =>
    cases h
    exact Or.inl ⟨(List.append_nil _).symm, hreal⟩
  | cons name rest ih =>
    unfold resolveSegments at h
    dsimp only at h
    have hname : Plain [name] := plain_of_isPrefix hplain ⟨rest, rfl⟩
    have hrest : Plain rest := fun segment hmem => hplain segment (List.mem_cons_of_mem _ hmem)
    rcases symlinkMetadata_child hreal hname with
      ⟨entry, hfind, hfault⟩ | ⟨hdir, hfind, hmeta⟩ | ⟨e, hkind, hmeta⟩
    · rw [symlinkMetadata_of_find hfind hfault] at h
      dsimp only at h
      by_cases hlink : ∃ target, entry = .symlink target
      · rw [if_pos ((metadataAt_symlink hfind).mpr hlink)] at h
        cases h
        obtain ⟨target, rfl⟩ := hlink
        refine Or.inr ⟨[name], target, ⟨rest, rfl⟩, rfl, hfind, hfault, ?_, trivial⟩
        intro hne
        exact absurd rfl hne
      · have hnext : host.tree.Real (current ++ [name]) := real_of_find hfind hlink
        rw [if_neg (fun hs => hlink ((metadataAt_symlink hfind).mp hs)), canonicalize_eq] at h
        cases hcanon : host.reach .canonicalize true (current ++ [name]) with
        | error e => rw [hcanon] at h; cases h
        | ok canonical =>
          obtain ⟨heq, hcall⟩ := reach_real hnext hcanon
          rw [hcanon, heq] at h
          dsimp only at h
          split at h
          · rcases ih hnext hrest h with
              ⟨hpath, hreal⟩ | ⟨walked, target, hwalked, hpath, hlast, hfree⟩
            · exact Or.inl ⟨by rw [hpath, List.append_assoc, List.singleton_append], hreal⟩
            · refine Or.inr ⟨name :: walked, target, (List.prefix_cons_inj name).mpr hwalked, ?_,
                hlast, hfault, fun _ => hcall, hfree⟩
              rw [hpath, List.append_assoc, List.singleton_append]
          · cases h
    · rw [hmeta] at h
      cases h
    · rw [hmeta] at h
      cases h

/-- A walk that nothing hinders ends at the link it meets. -/
theorem resolveSegments_link {root relative current rest walked : Segments}
    {target : LinkTarget String} (hroot : root <+: current) (hwalked : walked <+: rest)
    (hne : walked ≠ []) (hfind : host.tree.find (current ++ walked) = some (.symlink target))
    (hfree : Unhindered host current walked) :
    resolveSegments host.files root relative current rest = .ok (current ++ walked) := by
  induction walked generalizing current rest with
  | nil => exact absurd rfl hne
  | cons name walked ih =>
    obtain ⟨tail, rfl⟩ := hwalked
    obtain ⟨hfault, hcall, hrest⟩ := hfree
    have hsplit : current ++ name :: walked = current ++ [name] ++ walked := by simp
    rw [hsplit] at hfind ⊢
    rw [List.cons_append]
    unfold resolveSegments
    dsimp only
    by_cases hlast : walked = []
    · subst hlast
      rw [List.append_nil] at hfind ⊢
      rw [symlinkMetadata_of_find hfind hfault]
      dsimp only
      rw [if_pos ((metadataAt_symlink hfind).mpr ⟨target, rfl⟩)]
    · have hdir : host.tree.find (current ++ [name]) = some .directory :=
        FileTree.find_prefix hfind hlast
      have hkind : (host.metadataAt .symlinkMetadata (current ++ [name])).kind ≠ .symlink := by
        intro hs
        obtain ⟨target, ht⟩ := (metadataAt_symlink hdir).mp hs
        cases ht
      have hnext : root <+: current ++ [name] := hroot.trans (List.prefix_append _ _)
      rw [symlinkMetadata_of_find hdir hfault]
      dsimp only
      rw [if_neg hkind, canonicalize_eq, reach_of_real (Or.inl hdir) (hcall hlast)]
      dsimp only
      rw [if_pos (List.isPrefixOf_iff_prefix.mpr hnext)]
      exact ih hnext (List.prefix_append _ _) hlast hfind hrest

/-- What a walk reports missing is not there to be looked at. -/
theorem resolveSegments_missing {root relative current rest : Segments}
    {e : WorkspaceInspectError} (hreal : host.tree.Real current) (hplain : Plain rest)
    (h : resolveSegments host.files root relative current rest = .error e)
    (he : e.1 = "workspace.path_missing") :
    ∃ why, host.files.symlinkMetadata (current ++ rest) = .error why := by
  induction rest generalizing current with
  | nil => cases h
  | cons name rest ih =>
    unfold resolveSegments at h
    dsimp only at h
    have hname : Plain [name] := plain_of_isPrefix hplain ⟨rest, rfl⟩
    have hrest : Plain rest := fun segment hmem => hplain segment (List.mem_cons_of_mem _ hmem)
    rcases symlinkMetadata_child hreal hname with
      ⟨entry, hfind, hfault⟩ | ⟨hdir, hfind, hmeta⟩ | ⟨why, hkind, hmeta⟩
    · rw [symlinkMetadata_of_find hfind hfault] at h
      dsimp only at h
      by_cases hlink : ∃ target, entry = .symlink target
      · rw [if_pos ((metadataAt_symlink hfind).mpr hlink)] at h
        cases h
      · have hnext : host.tree.Real (current ++ [name]) := real_of_find hfind hlink
        rw [if_neg (fun hs => hlink ((metadataAt_symlink hfind).mp hs)), canonicalize_eq] at h
        cases hcanon : host.reach .canonicalize true (current ++ [name]) with
        | error e =>
          rw [hcanon] at h
          cases h
          simp at he
        | ok canonical =>
          rw [hcanon, (reach_real hnext hcanon).1] at h
          dsimp only at h
          split at h
          · have hlater := ih hnext hrest h
            rwa [List.append_assoc, List.singleton_append] at hlater
          · cases h
            simp at he
    · cases hfault : host.fault .symlinkMetadata (current ++ name :: rest) with
      | some why =>
        refine ⟨why, ?_⟩
        rw [symlinkMetadata_eq, reach, hfault]
        rfl
      | none =>
        refine ⟨ioError .missing, ?_⟩
        rw [symlinkMetadata_eq, reach, hfault]
        dsimp only
        rw [steps_of_plain (plain_append (plain_of_real hreal) hplain),
          FileTree.resolve_missing false host.linkLimit rest hdir hfind]
        rfl
    · rw [hmeta] at h
      cases h
      cases hwhy : why.kind with
      | notFound => exact absurd hwhy hkind
      | permissionDenied => rw [hwhy] at he; simp at he
      | other => rw [hwhy] at he; simp at he

/-! ## 3. The commands' results -/

theorem readWorkspaceText_result (relative target : Segments) (metadata : Metadata) :
    (host.readWorkspaceText relative target metadata).result =
      Node.readWorkspaceText host.files relative target metadata := by
  unfold readWorkspaceText Node.readWorkspaceText
  rw [readFile, result_call_bind]
  cases host.files.read target with
  | error e => dsimp only; split <;> rfl
  | ok bytes =>
    dsimp only
    split
    · rfl
    · cases bytes <;> rfl

theorem inspectTarget_result (relative target : Segments) :
    (host.inspectTarget relative target).result =
      Node.inspectTarget host.files relative target := by
  unfold inspectTarget Node.inspectTarget
  cases host.files.symlinkMetadata target with
  | error e => dsimp only; cases e.kind <;> rfl
  | ok metadata =>
    dsimp only
    split
    · rfl
    · split
      · rfl
      · cases generatedOrIgnoredStatus relative with
        | some status => rfl
        | none =>
          dsimp only
          split
          · rfl
          · split
            · rfl
            · exact readWorkspaceText_result relative target metadata

theorem inspectWorkspaceFile_result (command : CommandEnvelope) :
    (host.inspectWorkspaceFile command).result =
      Node.inspectWorkspaceFile host.files command := by
  unfold inspectWorkspaceFile Node.inspectWorkspaceFile
  simp only [liftM_eq, result_bind, result_lift]
  refine congrArg _ (funext fun text => congrArg _ (funext fun root => congrArg _
    (funext fun relative => ?_)))
  cases resolveExistingWorkspacePath host.files root relative with
  | error e => dsimp only; split <;> rfl
  | ok target => exact inspectTarget_result relative target

/-- **With its accesses or without, a command returns the same.** -/
theorem buildWorkspaceFileResponse_result (now : TimeText) (command : CommandEnvelope) :
    (host.buildWorkspaceFileResponse now command).result =
      Node.buildWorkspaceFileResponse host.files now command := by
  unfold buildWorkspaceFileResponse Node.buildWorkspaceFileResponse
  simp only [liftM_eq, result_bind, result_lift, inspectWorkspaceFile_result]
  rfl

theorem listTarget_result (relative path : Segments) : (host.listTarget relative path).result =
    (let entry := workspaceTreeEntry host.files path relative
    if entry.kind = .directory ∧ entry.status = .directory then
      match host.files.readDir path with
      | .ok names =>
        .ok ⟨entry, ((names.mergeSort (entryLe host.files path)).take
            maxWorkspaceDirectoryEntries).map fun name =>
              workspaceTreeEntry host.files (path ++ [name]) (relative ++ [name]),
          decide (maxWorkspaceDirectoryEntries < names.length), some names.length⟩
      | .error e => .ok ⟨{ entry with
          status := if e.kind = .permissionDenied then .permissionDenied else .error
          expandable := false }, [], false, none⟩
    else .ok ⟨entry, [], false, none⟩) := by
  unfold listTarget
  dsimp only
  split
  · rw [readDirectory, result_call_bind]
    cases host.files.readDir path <;> rfl
  · rfl

theorem listWorkspaceTree_result (command : CommandEnvelope) :
    (host.listWorkspaceTree command).result = Node.listWorkspaceTree host.files command := by
  unfold listWorkspaceTree Node.listWorkspaceTree
  simp only [liftM_eq, result_bind, result_lift]
  refine congrArg _ (funext fun text => congrArg _ (funext fun root => congrArg _
    (funext fun relative => ?_)))
  unfold treePath
  cases resolveExistingWorkspacePath host.files root relative with
  | ok path => exact listTarget_result relative path
  | error e =>
    dsimp only
    split
    · exact listTarget_result relative (root ++ relative)
    · rfl

theorem buildWorkspaceTreeResponse_result (now : TimeText) (command : CommandEnvelope) :
    (host.buildWorkspaceTreeResponse now command).result =
      Node.buildWorkspaceTreeResponse host.files now command := by
  unfold buildWorkspaceTreeResponse Node.buildWorkspaceTreeResponse
  simp only [liftM_eq, result_bind, result_lift, listWorkspaceTree_result]
  rfl

theorem readWorkspaceDiffFile_result (root relative : Segments) :
    (host.readWorkspaceDiffFile root relative).result =
      Node.readWorkspaceDiffFile host.files root relative := by
  unfold readWorkspaceDiffFile Node.readWorkspaceDiffFile
  cases hpath : resolveExistingWorkspacePath host.files root relative with
  | error e => dsimp only; split <;> rfl
  | ok target =>
    dsimp only
    unfold readDiffTarget
    cases hmeta : host.files.metadata target with
    | error e => rfl
    | ok metadata =>
      dsimp only
      split
      · rfl
      · rw [readFile, result_call_bind]
        cases host.files.read target with
        | error e => rfl
        | ok bytes =>
          dsimp only
          split
          · rfl
          · cases bytes <;> rfl

/-! ## 4. What the accesses leave -/

/-- What an access needs of the tree before a command. -/
def Settled (tree : FileTree String RegularFile) : Access → Prop
  | .read path | .list path => tree.Real path
  | .create path | .write path _ => tree.takesFile path = true

theorem Settled.apply {tree : FileTree String RegularFile} {access : Access}
    (h : Settled tree access) (other : Access) : Settled (other.apply tree) access := by
  cases other with
  | read | list => exact h
  | create path =>
    cases access with
    | read | list => exact FileTree.Real.writeFile h _ _
    | create | write => exact FileTree.takesFile_writeFile h _
  | write path content =>
    cases access with
    | read | list => exact FileTree.Real.writeFile h _ _
    | create | write => exact FileTree.takesFile_writeFile h _

theorem Settled.real_apply {tree : FileTree String RegularFile} {access : Access}
    (h : Settled tree access) : (access.apply tree).Real access.path := by
  cases access with
  | read | list => exact h
  | create path =>
    exact Or.inr ⟨_, by rw [Access.apply, FileTree.find_writeFile h]; exact if_pos rfl⟩
  | write path content =>
    exact Or.inr ⟨_, by rw [Access.apply, FileTree.find_writeFile h]; exact if_pos rfl⟩

theorem real_foldl {tree : FileTree String RegularFile} {path : Segments} (h : tree.Real path)
    (accesses : List Access) : (accesses.foldl Access.apply tree).Real path := by
  induction accesses generalizing tree with
  | nil => exact h
  | cons access accesses ih =>
    refine ih ?_
    cases access with
    | read | list => exact h
    | create | write => exact FileTree.Real.writeFile h _ _

/-- **What was accessed is a file or a directory of its own path** in the tree that is left. -/
theorem real_after {tree : FileTree String RegularFile} {accesses : List Access}
    (h : ∀ access ∈ accesses, Settled tree access) :
    ∀ access ∈ accesses, (accesses.foldl Access.apply tree).Real access.path := by
  induction accesses generalizing tree with
  | nil => nofun
  | cons first accesses ih =>
    intro access hmem
    rw [List.foldl_cons]
    rcases List.mem_cons.mp hmem with rfl | hmem
    · exact real_foldl (h access (List.mem_cons_self ..)).real_apply accesses
    · refine ih (fun other hother => ?_) access hmem
      exact (h other (List.mem_cons_of_mem _ hother)).apply first

/-- An access below a root, to what is no link. -/
def Within (host : Host) (root : Segments) (access : Access) : Prop :=
  root <+: access.path ∧ Settled host.tree access

/-- A program reads and writes only files and directories whose resolved path lies below a root. -/
def Contained {α : Type} (host : Host) (root : Segments) (x : Program α) : Prop :=
  ∀ access ∈ x.accesses, root <+: access.path ∧ (host.after x.accesses).Real access.path

theorem contained_of_only {α : Type} {root : Segments} {x : Program α}
    (h : Only (Within host root) x) : Contained host root x := by
  intro access hmem
  exact ⟨(h access hmem).1, real_after (fun other hother => (h other hother).2) access hmem⟩

/-! ## 5. The commands that look -/

theorem mem_readFile {path : Segments} {access : Access} :
    access ∈ (host.readFile path).accesses ↔
      ∃ out content, host.reach .read true path = .ok out ∧
        host.tree.find out = some (.file content) ∧ access = .read out := by
  rw [accesses_readFile]
  cases hreach : host.reach .read true path with
  | error e => simp
  | ok out =>
    dsimp only
    unfold readAt
    cases hfind : host.tree.find out with
    | none => simp [Except.isOk, Except.toBool, hfind]
    | some entry => cases entry <;> simp [Except.isOk, Except.toBool, hfind]

/-- Where the walk to a command's path ends. -/
theorem resolved_cases {root relative path : Segments}
    (hroot : host.tree.find root = some .directory) (hplain : Plain relative)
    (h : resolveExistingWorkspacePath host.files root relative = .ok path) :
    root <+: path ∧ (host.tree.Real path ∨
      ∃ target, host.tree.find path = some (.symlink target)) := by
  rcases resolveSegments_ok (Or.inl hroot) hplain h with
    ⟨hpath, hreal⟩ | ⟨walked, target, hwalked, hpath, hfind, hfree⟩
  · exact ⟨hpath ▸ List.prefix_append _ _, Or.inl hreal⟩
  · exact ⟨hpath ▸ List.prefix_append _ _, Or.inr ⟨target, hfind⟩⟩

/-- A link that is looked at shows itself. -/
theorem symlinkMetadata_link {path : Segments} {target : LinkTarget String} {metadata : Metadata}
    (hfind : host.tree.find path = some (.symlink target))
    (h : host.files.symlinkMetadata path = .ok metadata) : metadata.kind = .symlink := by
  cases hfault : host.fault .symlinkMetadata path with
  | some e =>
    rw [symlinkMetadata_eq, reach, hfault] at h
    cases h
  | none =>
    rw [symlinkMetadata_of_find hfind hfault] at h
    cases h
    exact (metadataAt_symlink hfind).mpr ⟨target, rfl⟩

theorem within_read {root path : Segments} (hroot : root <+: path) (hreal : host.tree.Real path) :
    Only (Within host root) (host.readFile path) := by
  intro access hmem
  obtain ⟨out, content, hreach, hfind, rfl⟩ := mem_readFile.mp hmem
  obtain ⟨rfl, hfault⟩ := reach_real hreal hreach
  exact ⟨hroot, hreal⟩

theorem within_inspectTarget {root path : Segments} (relative : Segments) (hroot : root <+: path)
    (hpath : host.tree.Real path ∨ ∃ target, host.tree.find path = some (.symlink target)) :
    Only (Within host root) (host.inspectTarget relative path) := by
  unfold inspectTarget
  cases hmeta : host.files.symlinkMetadata path with
  | error e => dsimp only; cases e.kind <;> simp
  | ok metadata =>
    dsimp only
    split
    · exact only_pure _
    · rename_i hkind
      have hreal : host.tree.Real path := by
        rcases hpath with hreal | ⟨target, hfind⟩
        · exact hreal
        · exact absurd (symlinkMetadata_link hfind hmeta) hkind
      split
      · exact only_pure _
      · cases generatedOrIgnoredStatus relative with
        | some status => exact only_pure _
        | none =>
          dsimp only
          split
          · exact only_pure _
          · split
            · exact only_pure _
            · unfold readWorkspaceText
              rw [only_bind]
              refine ⟨within_read hroot hreal, fun answer _ => ?_⟩
              cases answer with
              | error e => dsimp only; split <;> simp
              | ok bytes =>
                dsimp only
                split
                · exact only_pure _
                · cases bytes <;> exact only_pure _

/-- What is read or listed of a directory that a walk ended at, or of what it reports missing. -/
theorem within_listTarget {root path : Segments} (relative : Segments)
    (hpath : (root <+: path ∧ (host.tree.Real path ∨
        ∃ target, host.tree.find path = some (.symlink target))) ∨
      ∃ why, host.files.symlinkMetadata path = .error why) :
    Only (Within host root) (host.listTarget relative path) := by
  unfold listTarget
  dsimp only
  split
  case isFalse => exact only_pure _
  case isTrue hentry =>
    have hmeta : ∃ metadata, host.files.symlinkMetadata path = .ok metadata ∧
        metadata.kind = .directory := by
      have hkind := hentry.1
      unfold workspaceTreeEntry at hkind
      cases hmeta : host.files.symlinkMetadata path with
      | error e => rw [hmeta] at hkind; cases hkind
      | ok metadata =>
        rw [hmeta] at hkind
        exact ⟨metadata, rfl, hkind⟩
    obtain ⟨metadata, hmeta, hkind⟩ := hmeta
    rw [only_bind]
    constructor
    · rcases hpath with ⟨hroot, hreal | ⟨target, hfind⟩⟩ | ⟨why, hwhy⟩
      · intro access hmem
        rw [accesses_readDirectory] at hmem
        split at hmem
        · rename_i out hreach
          obtain ⟨rfl, hfault⟩ := reach_real hreal hreach
          split at hmem
          · rw [List.mem_singleton.mp hmem]
            exact ⟨hroot, hreal⟩
          · cases hmem
        · cases hmem
      · have hsym := symlinkMetadata_link hfind hmeta
        rw [hkind] at hsym
        cases hsym
      · rw [hwhy] at hmeta
        cases hmeta
    · intro answer _
      cases answer <;> exact only_pure _

/-! ## 6. The command that writes -/

theorem writeFolder_ok {root relative folder : Segments}
    (hroot : host.tree.find root = some .directory) (hplain : Plain relative)
    (h : host.writeFolder root relative = .ok folder) :
    root <+: folder ∧ host.tree.find folder = some .directory := by
  unfold writeFolder at h
  cases hpath : resolveExistingWorkspacePath host.files root relative.dropLast with
  | error e => rw [hpath] at h; cases h
  | ok path =>
    rw [hpath] at h
    dsimp only [bind, Except.bind] at h
    obtain ⟨hbelow, hcases⟩ :=
      resolved_cases hroot (plain_of_isPrefix hplain (List.dropLast_prefix relative)) hpath
    cases hmeta : host.files.symlinkMetadata path with
    | error e => rw [hmeta] at h; cases h
    | ok metadata =>
      rw [hmeta] at h
      dsimp only at h
      split at h
      · cases h
      · rename_i hkind
        cases h
        refine ⟨hbelow, ?_⟩
        rcases hcases with (hdir | ⟨content, hfile⟩) | ⟨target, hfind⟩
        · exact hdir
        · cases hfault : host.fault .symlinkMetadata folder with
          | some e =>
            rw [symlinkMetadata_eq, reach, hfault] at hmeta
            cases hmeta
          | none =>
            rw [symlinkMetadata_of_find hfile hfault] at hmeta
            cases hmeta
            unfold metadataAt at hkind
            rw [hfile] at hkind
            simp at hkind
        · have hsym := symlinkMetadata_link hfind hmeta
          rw [hsym] at hkind
          simp at hkind

theorem writeTarget_ok {root relative target : Segments}
    (hroot : host.tree.find root = some .directory) (hplain : Plain relative)
    (h : host.writeTarget root relative = .ok target) :
    root <+: target ∧ target ≠ [] ∧ Plain target ∧
      host.tree.find target.dropLast = some .directory := by
  unfold writeTarget at h
  cases hlast : relative.getLast? with
  | none => rw [hlast] at h; cases h
  | some fileName =>
    rw [hlast] at h
    dsimp only at h
    cases hfolder : host.writeFolder root relative with
    | error e => rw [hfolder] at h; cases h
    | ok folder =>
      rw [hfolder] at h
      change (if binaryExtension relative = true then _ else _) = _ at h
      obtain ⟨hbelow, hdir⟩ := writeFolder_ok hroot hplain hfolder
      split at h
      · cases h
      · cases h
        refine ⟨hbelow.trans (List.prefix_append _ _), by simp, ?_, ?_⟩
        · refine plain_append (plain_of_find hdir) fun segment hmem => hplain segment ?_
          rw [List.mem_singleton.mp hmem]
          exact List.mem_of_getLast? hlast
        · rwa [List.dropLast_concat]

theorem openNoFollow_ok {target file : Segments} (h : host.openNoFollow target = .ok file)
    (hne : target ≠ []) (hplain : Plain target)
    (hfolder : host.tree.find target.dropLast = some .directory) :
    file = target ∧ host.tree.Real target ∧ host.tree.takesFile target = true := by
  unfold openNoFollow at h
  rw [steps_of_plain hplain] at h
  split at h
  · cases h
  · cases hfind : host.tree.find target with
    | none =>
      obtain ⟨folder, name, rfl⟩ := (List.eq_nil_or_concat' target).resolve_left hne
      rw [List.dropLast_concat] at hfolder
      rw [FileTree.resolve_missing false host.linkLimit [] hfolder hfind] at h
      cases h
    | some entry =>
      rw [FileTree.resolve_entry host.linkLimit hfind] at h
      dsimp only at h
      rw [hfind] at h
      cases entry with
      | directory => cases h
      | symlink link => cases h
      | file content =>
        cases h
        refine ⟨rfl, Or.inr ⟨content, hfind⟩, ?_⟩
        unfold FileTree.takesFile
        rw [hfind, FileTree.isDirectory_iff.mpr hfolder]
        rfl

theorem createNew_ok {target made : Segments} (h : host.createNew target = .ok made)
    (hne : target ≠ []) (hplain : Plain target)
    (hfolder : host.tree.find target.dropLast = some .directory) :
    made = target ∧ host.tree.takesFile target = true := by
  obtain ⟨folder, name, rfl⟩ := (List.eq_nil_or_concat' target).resolve_left hne
  rw [List.dropLast_concat] at hfolder
  unfold createNew at h
  split at h
  · cases h
  · rw [List.dropLast_concat, steps_of_plain (plain_of_isPrefix hplain (List.prefix_append _ _)),
      FileTree.resolve_real true host.linkLimit (Or.inl hfolder)] at h
    dsimp only at h
    rw [List.getLast?_concat] at h
    cases hfind : host.tree.find (folder ++ [name]) with
    | some entry => simp only [Option.toList, hfind] at h; cases h
    | none =>
      simp only [Option.toList, hfind, FileTree.isDirectory_iff.mpr hfolder, if_true] at h
      cases h
      refine ⟨rfl, ?_⟩
      unfold FileTree.takesFile
      rw [hfind, List.dropLast_concat, FileTree.isDirectory_iff.mpr hfolder]
      rfl

theorem only_fileCall {P : Access → Prop} {call : FileCall} {file : Segments}
    {accesses : List Access} {failure : IoError → WorkspaceInspectError}
    (h : ∀ access ∈ accesses, P access) : Only P (host.fileCall call file accesses failure) := by
  unfold fileCall
  cases host.fault call file with
  | some e => exact only_lift _
  | none => exact h

theorem only_validate {P : Access → Prop} {file relative : Segments}
    {expectedContent : Option String} (h : P (.read file)) :
    Only P (host.validateOpenedWriteTarget file relative expectedContent) := by
  unfold validateOpenedWriteTarget
  dsimp only
  rw [only_bind]
  refine ⟨only_fileCall (by simp), fun _ _ => ?_⟩
  split
  · exact only_lift _
  · split
    · exact only_lift _
    · rw [only_bind]
      refine ⟨only_fileCall (by simp), fun _ _ => ?_⟩
      rw [only_bind]
      refine ⟨only_fileCall (by simpa using h), fun _ _ => ?_⟩
      cases host.readAt file with
      | error e => exact only_lift _
      | ok bytes =>
        dsimp only
        split
        · exact only_lift _
        · cases bytes with
          | invalid hasNul => exact only_lift _
          | text content =>
            dsimp only
            split
            · exact only_lift _
            · exact only_pure _

theorem only_replaceContent {P : Access → Prop} {file relative : Segments} {content : String}
    (h : ∀ written, P (.write file written)) :
    Only P (host.replaceContent file relative content) := by
  unfold replaceContent
  dsimp only
  rw [only_bind]
  refine ⟨only_fileCall (by simpa using h _), fun _ _ => ?_⟩
  rw [only_bind]
  refine ⟨only_fileCall (by simp), fun _ _ => ?_⟩
  rw [only_bind]
  refine ⟨?_, fun _ _ => ?_⟩
  · unfold writeAll
    cases host.fault .writeAll file with
    | some e =>
      dsimp only
      rw [only_bind, only_call]
      exact ⟨by simpa using h _, fun _ _ => only_lift _⟩
    | none =>
      dsimp only
      rw [only_call]
      simpa using h _
  · rw [only_bind]
    refine ⟨only_fileCall (by simp), fun _ _ => ?_⟩
    rw [only_bind]
    exact ⟨only_fileCall (by simp), fun _ _ => only_pure _⟩

/-- The file that a write opens is its target. -/
theorem within_openTarget {root target : Segments} (relative : Segments)
    (expectedContent : Option String) (hroot : root <+: target) (hne : target ≠ [])
    (hplain : Plain target) (hfolder : host.tree.find target.dropLast = some .directory) :
    Only (Within host root) (host.openWorkspaceWriteTarget target relative expectedContent) ∧
    ∀ file, (host.openWorkspaceWriteTarget target relative expectedContent).result = .ok file →
      file = target ∧ host.tree.takesFile target = true := by
  unfold openWorkspaceWriteTarget
  cases hopen : host.openNoFollow target with
  | ok file =>
    obtain ⟨rfl, hreal, htakes⟩ := openNoFollow_ok hopen hne hplain hfolder
    refine ⟨only_bind.mpr ⟨only_validate ⟨hroot, hreal⟩, fun _ _ => only_pure _⟩, ?_⟩
    intro opened hopened
    dsimp only at hopened
    rw [result_bind] at hopened
    cases hvalid : (host.validateOpenedWriteTarget file relative expectedContent).result with
    | error e => rw [hvalid] at hopened; cases hopened
    | ok done =>
      rw [hvalid] at hopened
      cases hopened
      exact ⟨rfl, htakes⟩
  | error error =>
    dsimp only
    split
    · cases hmade : host.createNew target with
      | error error =>
        refine ⟨only_lift _, ?_⟩
        intro opened hopened
        cases hopened
      | ok made =>
        obtain ⟨rfl, htakes⟩ := createNew_ok hmade hne hplain hfolder
        refine ⟨only_bind.mpr ⟨only_call.mpr ?_, fun _ _ => only_pure _⟩, ?_⟩
        · intro access hmem
          rw [List.mem_singleton.mp hmem]
          exact ⟨hroot, htakes⟩
        · intro opened hopened
          cases hopened
          exact ⟨rfl, htakes⟩
    · refine ⟨only_lift _, ?_⟩
      intro opened hopened
      cases hopened

/-! ## 7. Containment -/

/-- A program's accesses stay below the canonical root of its command's workspace. -/
def StaysInside {α : Type} (host : Host) (command : CommandEnvelope) (x : Program α) : Prop :=
  ∀ access ∈ x.accesses, ∃ text root, workspaceCommandPath command = .ok text ∧
    canonicalWorkspaceRoot host.files text = .ok root ∧ root <+: access.path ∧
    (host.after x.accesses).Real access.path

/-- A link is on the way to a file of a diff, the first one, and leads to a file outside the root
    that is short enough to be read; and nothing else hinders the calls up to there. -/
def LeadsOut (host : Host) (root relative : Segments) : Prop :=
  ∃ walked target out content, walked <+: relative ∧
    host.tree.find (root ++ walked) = some (.symlink target) ∧
    host.tree.resolve true host.linkLimit [] (steps (root ++ walked)) = .ok out ∧
    host.tree.find out = some (.file content) ∧ content.len ≤ maxWorkspaceTextBytes ∧
    ¬ root <+: out ∧ Unhindered host root walked ∧
    host.fault .metadata (root ++ walked) = none ∧ host.fault .read (root ++ walked) = none

/-- One rule for the three commands: what each does below its root. -/
theorem staysInside_of_root {α : Type} {command : CommandEnvelope} {x : Program α}
    (h : Only (fun access => ∃ text root, workspaceCommandPath command = .ok text ∧
      canonicalWorkspaceRoot host.files text = .ok root ∧ Within host root access) x) :
    StaysInside host command x := by
  intro access hmem
  obtain ⟨text, root, htext, hroot, hbelow, hsettled⟩ := h access hmem
  refine ⟨text, root, htext, hroot, hbelow, real_after (fun other hother => ?_) access hmem⟩
  obtain ⟨_, _, _, _, _, hother⟩ := h other hother
  exact hother

theorem file_staysInside (now : TimeText) (command : CommandEnvelope) :
    StaysInside host command (host.buildWorkspaceFileResponse now command) := by
  refine staysInside_of_root ?_
  unfold buildWorkspaceFileResponse
  rw [liftM_eq, only_lift_bind]
  intro placementId _
  rw [only_bind]
  refine ⟨?_, fun _ _ => only_pure _⟩
  unfold inspectWorkspaceFile
  rw [liftM_eq, only_lift_bind]
  intro text htext
  rw [liftM_eq, only_lift_bind]
  intro root hroot
  rw [liftM_eq, only_lift_bind]
  intro relative hrelative
  cases hpath : resolveExistingWorkspacePath host.files root relative with
  | error e => dsimp only; split <;> simp
  | ok path =>
    obtain ⟨hbelow, hcases⟩ := resolved_cases (canonicalRoot_directory hroot)
      (plain_of_safe hrelative) hpath
    exact Only.imp (within_inspectTarget relative hbelow hcases) fun _ hwithin =>
      ⟨text, root, htext, hroot, hwithin⟩

theorem tree_staysInside (now : TimeText) (command : CommandEnvelope) :
    StaysInside host command (host.buildWorkspaceTreeResponse now command) := by
  refine staysInside_of_root ?_
  unfold buildWorkspaceTreeResponse
  rw [liftM_eq, only_lift_bind]
  intro placementId _
  rw [only_bind]
  refine ⟨?_, fun _ _ => only_pure _⟩
  unfold listWorkspaceTree
  rw [liftM_eq, only_lift_bind]
  intro text htext
  rw [liftM_eq, only_lift_bind]
  intro root hroot
  rw [liftM_eq, only_lift_bind]
  intro relative hrelative
  rw [liftM_eq, only_lift_bind]
  intro path hpath
  have hdir := canonicalRoot_directory hroot
  refine Only.imp (within_listTarget relative ?_) fun _ hwithin =>
    ⟨text, root, htext, hroot, hwithin⟩
  unfold treePath at hpath
  cases hresolve : resolveExistingWorkspacePath host.files root relative with
  | ok found =>
    rw [hresolve] at hpath
    cases hpath
    exact Or.inl (resolved_cases hdir (plain_of_safe hrelative) hresolve)
  | error e =>
    rw [hresolve] at hpath
    dsimp only at hpath
    split at hpath
    · rename_i hcode
      cases hpath
      exact Or.inr (resolveSegments_missing (Or.inl hdir) (plain_of_safe hrelative) hresolve hcode)
    · cases hpath

theorem write_staysInside (now : TimeText) (command : CommandEnvelope) :
    StaysInside host command (host.writeWorkspaceFile now command) := by
  refine staysInside_of_root ?_
  unfold writeWorkspaceFile
  rw [liftM_eq, only_lift_bind]
  intro request _
  rw [liftM_eq, only_lift_bind]
  intro placementId _
  rw [liftM_eq, only_lift_bind]
  intro text htext
  rw [liftM_eq, only_lift_bind]
  intro root hroot
  rw [liftM_eq, only_lift_bind]
  intro relative hrelative
  rw [liftM_eq, only_lift_bind]
  intro checked _
  rw [liftM_eq, only_lift_bind]
  intro target htarget
  obtain ⟨hbelow, hne, hplain, hfolder⟩ :=
    writeTarget_ok (canonicalRoot_directory hroot) (plain_of_safe hrelative) htarget
  obtain ⟨hopens, hopened⟩ :=
    within_openTarget relative request.expectedContent hbelow hne hplain hfolder
  rw [only_bind]
  refine ⟨Only.imp hopens fun _ hwithin => ⟨text, root, htext, hroot, hwithin⟩,
    fun file hfile => ?_⟩
  obtain ⟨rfl, htakes⟩ := hopened file hfile
  rw [only_bind]
  refine ⟨only_replaceContent fun written => ?_, fun _ _ => only_pure _⟩
  exact ⟨text, root, htext, hroot, hbelow, htakes⟩

/-- What was read of a file to be compared is looked at without the file system. -/
theorem diffContent_silent {access : Access} (answer : Except IoError FileBytes) :
    access ∉ (match answer with
      | .error e => Traced.lift (.error
          ("workspace.read_failed", "Failed to read diff file: " ++ e.text))
      | .ok bytes =>
        if bytes.hasNul then pure none
        else match bytes with
          | .text content => pure (some content)
          | .invalid _ => Traced.lift (.error ("workspace.diff_binary_file",
              "Workspace diff content is not UTF-8 text")) :
                Program (Option String)).accesses := by
  intro hmem
  cases answer with
  | error e => cases hmem
  | ok bytes =>
    dsimp only at hmem
    split at hmem
    · cases hmem
    · cases bytes <;> cases hmem

/-- What the diff reads of a target. -/
theorem mem_readDiffTarget {target : Segments} {access : Access} :
    access ∈ (host.readDiffTarget target).accesses ↔
      ∃ metadata, host.files.metadata target = .ok metadata ∧ metadata.kind = .file ∧
        metadata.len ≤ maxWorkspaceTextBytes ∧ access ∈ (host.readFile target).accesses := by
  unfold readDiffTarget
  cases hmeta : host.files.metadata target with
  | error e => simp [Traced.lift]
  | ok metadata =>
    dsimp only
    split
    · rename_i hskip
      constructor
      · nofun
      · rintro ⟨other, hother, hkind, hlen, -⟩
        cases hother
        rcases hskip with hskip | hskip
        · exact absurd hkind hskip
        · omega
    · rename_i hread
      rw [not_or, not_not, Nat.not_lt] at hread
      unfold readFile
      rw [mem_call_bind]
      constructor
      · rintro (hmem | hmem)
        · exact ⟨metadata, rfl, hread.1, hread.2, hmem⟩
        · exact absurd hmem (diffContent_silent _)
      · rintro ⟨other, hother, hkind, hlen, hmem⟩
        exact Or.inl hmem

theorem accesses_readWorkspaceDiffFile {root relative : Segments} {access : Access} :
    access ∈ (host.readWorkspaceDiffFile root relative).accesses ↔
      ∃ target, resolveExistingWorkspacePath host.files root relative = .ok target ∧
        access ∈ (host.readDiffTarget target).accesses := by
  unfold readWorkspaceDiffFile
  cases resolveExistingWorkspacePath host.files root relative with
  | ok target => simp
  | error e =>
    dsimp only
    split
    · simp only [reduceCtorEq, false_and, exists_false, iff_false]
      nofun
    · simp [Traced.lift]

/-- What a link leads to, for two calls that are not hindered. -/
theorem reach_of_link {call : FileCall} {path out : Segments}
    (hfault : host.fault call path = none)
    (hout : host.tree.resolve true host.linkLimit [] (steps path) = .ok out) :
    host.reach call true path = .ok out := by
  unfold reach
  rw [hfault, hout]
  rfl

theorem link_of_reach {call : FileCall} {path out : Segments}
    (h : host.reach call true path = .ok out) :
    host.fault call path = none ∧
      host.tree.resolve true host.linkLimit [] (steps path) = .ok out := by
  unfold reach at h
  split at h
  · cases h
  · refine ⟨‹_›, ?_⟩
    cases hout : host.tree.resolve true host.linkLimit [] (steps path) with
    | error e => rw [hout] at h; cases h
    | ok found => rw [hout] at h; cases h; rfl

/-- **The diff's file is read from below the root exactly where no link leads it out.** -/
theorem diff_contained_iff {root relative : Segments}
    (hroot : host.tree.find root = some .directory) (hplain : Plain relative) :
    Contained host root (host.readWorkspaceDiffFile root relative) ↔
      ¬ LeadsOut host root relative := by
  constructor
  · rintro hcontained ⟨walked, target, out, content, hwalked, hlink, hout, hfile, hlen, houtside,
      hfree, hstat, hread⟩
    have hne : walked ≠ [] := by
      rintro rfl
      rw [List.append_nil, hroot] at hlink
      cases hlink
    have hresolve : resolveExistingWorkspacePath host.files root relative = .ok (root ++ walked) :=
      resolveSegments_link List.prefix_rfl hwalked hne hlink hfree
    have hmem : Access.read out ∈ (host.readWorkspaceDiffFile root relative).accesses := by
      refine accesses_readWorkspaceDiffFile.mpr ⟨_, hresolve, mem_readDiffTarget.mpr ?_⟩
      refine ⟨host.metadataAt .metadata out, ?_, ?_, ?_, ?_⟩
      · rw [metadata_eq, reach_of_link hstat hout]
        rfl
      · unfold metadataAt
        rw [hfile]
      · unfold metadataAt
        rw [hfile]
        exact hlen
      · exact mem_readFile.mpr ⟨out, content, reach_of_link hread hout, hfile, rfl⟩
    exact houtside (hcontained _ hmem).1
  · intro hinside
    refine contained_of_only fun access hmem => ?_
    obtain ⟨path, hresolve, hmem⟩ := accesses_readWorkspaceDiffFile.mp hmem
    obtain ⟨metadata, hmeta, hkind, hlen, hmem⟩ := mem_readDiffTarget.mp hmem
    obtain ⟨out, content, hreach, hfile, rfl⟩ := mem_readFile.mp hmem
    rcases resolveSegments_ok (Or.inl hroot) hplain hresolve with
      ⟨hpath, hreal⟩ | ⟨walked, target, hwalked, hpath, hlink, hfree⟩
    · exact within_read (hpath ▸ List.prefix_append _ _) hreal _ hmem
    · refine ⟨?_, Or.inr ⟨content, hfile⟩⟩
      by_contra houtside
      obtain ⟨hread, hout⟩ := link_of_reach hreach
      obtain ⟨hstat, hlen⟩ : host.fault .metadata path = none ∧
          content.len ≤ maxWorkspaceTextBytes := by
        rw [metadata_eq] at hmeta
        cases hseen : host.reach .metadata true path with
        | error e => rw [hseen] at hmeta; cases hmeta
        | ok seen =>
          obtain ⟨hstat, hsame⟩ := link_of_reach hseen
          rw [hout] at hsame
          cases hsame
          rw [hseen] at hmeta
          cases hmeta
          unfold metadataAt at hlen
          rw [hfile] at hlen
          exact ⟨hstat, hlen⟩
      exact hinside ⟨walked, target, out, content, hwalked, hpath ▸ hlink, hpath ▸ hout, hfile,
        hlen, houtside, hfree, hpath ▸ hstat, hpath ▸ hread⟩

/-- A workspace `/ws` with a file and a link, beside `/etc/passwd`. The link leads to one or to
    the other. -/
def linkTree (outside : Bool) : FileTree String RegularFile where
  entries := ⟨[⟨[], .directory⟩, ⟨["ws"], .directory⟩, ⟨["ws", "notes"], .file (.ofText "notes")⟩,
    ⟨["ws", "link"], .symlink (if outside then ⟨true, [.name "etc", .name "passwd"]⟩
      else ⟨false, [.name "notes"]⟩)⟩,
    ⟨["etc"], .directory⟩, ⟨["etc", "passwd"], .file (.ofText "root")⟩],
    by
      change List.Nodup [[], ["ws"], ["ws", "notes"], ["ws", "link"], ["etc"], ["etc", "passwd"]]
      decide⟩
  root := rfl
  parents := by cases outside <;> decide

theorem kind_of_noFault (_ : FileCall) (_ : Segments) (e : IoError) (h : none = some e) :
    e.kind ≠ .notFound := by
  cases h

def linkHost (outside : Bool) : Host where
  tree := linkTree outside
  plain := by cases outside <;> decide
  linkLimit := 40
  cwd := []
  cwd_directory := rfl
  workspacePaths := ["/ws"]
  len _ := 0
  modifiedAt _ _ := none
  fault _ _ := none
  fault_kind := kind_of_noFault
  rootFault _ := none
  partlyWritten := .ofText

def readLinkCommand : CommandEnvelope where
  commandId := "c1"
  kind := .readWorkspaceFile
  target := .placement "n1" "p1"
  actorRef := .localUser none
  issuedAt := 0
  correlationId := "k1"
  payload := .readWorkspaceFile "/ws" "link"

end Uprava.Node.Host
