/-
  File:      Uprava/Lib/FileTree.lean
  Subject:   Trees of directories, files and symbolic links, and where a path leads in one.

  A tree has an entry for each of its paths, and what has an entry lies in a directory that has one
  (`parents`). A walk goes along the steps of a path up to the first link (`advance`); to resolve a
  path is to walk and to go on at the target of the link, at most a number of times (`resolve`).

    real_of_resolve       what a path leads to is no link
    advance_real          a path that is no link leads to itself
    advance_link          the walk along the names of a link ends at the link
    find_writeFile        what is written is the one entry that changes
-/
import Mathlib.Data.List.Induction
import Uprava.Lib.Assoc

namespace Uprava.Lib

/-! ## 1. Trees -/

/-- A component of a path: a name, `..` or `.`. -/
inductive PathStep (ν : Type) where
  | name (name : ν)
  | parent
  | here
  deriving DecidableEq

/-- What a link holds, or a path as a call gets it. -/
structure LinkTarget (ν : Type) where
  absolute : Bool
  steps : List (PathStep ν)
  deriving DecidableEq

inductive FileEntry (ν β : Type) where
  | directory
  | file (content : β)
  | symlink (target : LinkTarget ν)
  deriving DecidableEq

structure FileTree (ν β : Type) [DecidableEq ν] where
  entries : Assoc (List ν) (FileEntry ν β)
  root : entries.lookup [] = some .directory
  parents : ∀ path ∈ entries.keys, entries.lookup path.dropLast = some .directory

/-- The walk along some steps, up to where it ends or to a link. -/
inductive Arrival (ν : Type) where
  | arrived (path : List ν)
  /-- A link in a folder, with the steps after it. -/
  | link (folder : List ν) (name : ν) (target : LinkTarget ν) (rest : List (PathStep ν))
  | missing
  | notDirectory

inductive PathError where
  | missing | notDirectory | tooManyLinks
  deriving DecidableEq

namespace FileTree

variable {ν β : Type} [DecidableEq ν] (tree : FileTree ν β)

def find (path : List ν) : Option (FileEntry ν β) := tree.entries.lookup path

/-- The names of what lies in a folder. -/
def names (folder : List ν) : List ν :=
  tree.entries.keys.filterMap fun path =>
    if path.dropLast = folder then path.getLast? else none

/-- The entry of a path is a directory or a file. -/
def Real (path : List ν) : Prop :=
  tree.find path = some .directory ∨ ∃ content, tree.find path = some (.file content)

@[simp] theorem find_nil : tree.find [] = some .directory := tree.root

variable {tree}

theorem find_dropLast {path : List ν} {entry : FileEntry ν β} (h : tree.find path = some entry) :
    tree.find path.dropLast = some .directory := by
  have hmem : path ∈ tree.entries.keys :=
    AList.mem_keys.mp (AList.lookup_isSome.mp (Option.isSome_of_eq_some h))
  exact tree.parents path hmem

/-- What has an entry lies in a directory, and that one in a directory too. -/
theorem find_prefix {path rest : List ν} {entry : FileEntry ν β}
    (h : tree.find (path ++ rest) = some entry) (hrest : rest ≠ []) :
    tree.find path = some .directory := by
  induction rest using List.reverseRecOn generalizing entry with
  | nil => exact absurd rfl hrest
  | append_singleton rest name ih =>
    have hup : tree.find (path ++ rest) = some .directory := by
      have hdrop := find_dropLast h
      rwa [← List.append_assoc, List.dropLast_concat] at hdrop
    by_cases hnil : rest = []
    · rwa [hnil, List.append_nil] at hup
    · exact ih hup hnil

theorem Real.of_directory {path : List ν} (h : tree.find path = some .directory) :
    tree.Real path :=
  Or.inl h

/-! ## 2. Resolving a path -/

variable (tree)

/-- The walk from a directory. -/
def advance : List ν → List (PathStep ν) → Arrival ν
  | path, [] => .arrived path
  | path, .here :: rest => advance path rest
  | path, .parent :: rest => advance path.dropLast rest
  | path, .name name :: rest =>
    match tree.find (path ++ [name]) with
    | none => .missing
    | some .directory => advance (path ++ [name]) rest
    | some (.file _) => if rest = [] then .arrived (path ++ [name]) else .notDirectory
    | some (.symlink target) => .link path name target rest

/-- Where a path leads from a directory, in at most `limit` links. A link that the path itself
    names is followed only if `follow` says so. -/
def resolve (follow : Bool) : Nat → List ν → List (PathStep ν) → Except PathError (List ν)
  | limit, path, steps =>
    match tree.advance path steps with
    | .arrived path => .ok path
    | .missing => .error .missing
    | .notDirectory => .error .notDirectory
    | .link folder name target rest =>
      if rest = [] ∧ follow = false then .ok (folder ++ [name])
      else match limit with
        | 0 => .error .tooManyLinks
        | limit + 1 =>
          resolve follow limit (if target.absolute then [] else folder) (target.steps ++ rest)

variable {tree}

/-- The steps of a path that is made of names. -/
def stepsOf (path : List ν) : List (PathStep ν) := path.map .name

omit [DecidableEq ν] in
theorem stepsOf_append (path rest : List ν) :
    stepsOf (path ++ rest) = stepsOf path ++ stepsOf rest :=
  List.map_append

omit [DecidableEq ν] in
theorem stepsOf_cons (name : ν) (rest : List ν) :
    stepsOf (name :: rest) = .name name :: stepsOf rest :=
  rfl

theorem advance_spec {path : List ν} (steps : List (PathStep ν))
    (h : tree.find path = some .directory) :
    match tree.advance path steps with
    | .arrived path => tree.Real path
    | .link folder name target _ =>
      tree.find folder = some .directory ∧ tree.find (folder ++ [name]) = some (.symlink target)
    | .missing | .notDirectory => True := by
  induction steps generalizing path with
  | nil => exact Real.of_directory h
  | cons step rest ih =>
    cases step with
    | here => exact ih h
    | parent => exact ih (find_dropLast h)
    | name name =>
      unfold advance
      cases hfind : tree.find (path ++ [name]) with
      | none => trivial
      | some entry =>
        cases entry with
        | directory => exact ih hfind
        | file content =>
          by_cases hrest : rest = []
          · simp only [hrest, if_true]
            exact Or.inr ⟨content, hfind⟩
          · simp only [hrest, if_false]
        | symlink target => exact ⟨h, hfind⟩

/-- **What a path leads to is a directory or a file**, when every link is followed. -/
theorem real_of_resolve {limit : Nat} {path : List ν} {steps : List (PathStep ν)} {out : List ν}
    (h : tree.find path = some .directory)
    (hout : tree.resolve true limit path steps = .ok out) : tree.Real out := by
  induction limit generalizing path steps with
  | zero =>
    have hspec := advance_spec steps h
    unfold resolve at hout
    split at hout
    case h_1 heq => cases hout; rwa [heq] at hspec
    all_goals simp at hout
  | succ limit ih =>
    have hspec := advance_spec steps h
    unfold resolve at hout
    split at hout
    case h_1 heq => cases hout; rwa [heq] at hspec
    case h_4 folder name target rest heq =>
      rw [heq] at hspec
      simp only [Bool.true_eq_false, and_false, if_false] at hout
      refine ih ?_ hout
      by_cases habs : target.absolute = true
      · rw [if_pos habs, find_nil]
      · rw [if_neg habs]
        exact hspec.1
    all_goals simp at hout

/-- The walk from a directory down to another. -/
theorem advance_names {path names : List ν} (rest : List (PathStep ν))
    (hfolder : tree.find (path ++ names) = some .directory) :
    tree.advance path (stepsOf names ++ rest) = tree.advance (path ++ names) rest := by
  induction names generalizing path with
  | nil => rw [List.append_nil]; rfl
  | cons head names ih =>
    have hassoc : path ++ head :: names = path ++ [head] ++ names := by simp
    rw [hassoc] at hfolder ⊢
    have hhead : tree.find (path ++ [head]) = some .directory := by
      by_cases hnil : names = []
      · rwa [hnil, List.append_nil] at hfolder
      · exact find_prefix hfolder hnil
    rw [← ih hfolder]
    simp only [stepsOf_cons, List.cons_append, advance, hhead]

/-- **A path that is no link leads to itself.** -/
theorem advance_real {path : List ν} (h : tree.Real path) :
    tree.advance [] (stepsOf path) = .arrived path := by
  rcases List.eq_nil_or_concat' path with rfl | ⟨folder, name, rfl⟩
  · rfl
  · have hfolder : tree.find ([] ++ folder) = some .directory := by
      rcases h with h | ⟨content, h⟩ <;> exact find_prefix h (by simp)
    have hwalk := advance_names (stepsOf [name]) hfolder
    rw [stepsOf_append, hwalk]
    rcases h with h | ⟨content, h⟩ <;> simp [stepsOf, advance, h]

theorem resolve_real (follow : Bool) (limit : Nat) {path : List ν} (h : tree.Real path) :
    tree.resolve follow limit [] (stepsOf path) = .ok path := by
  unfold resolve
  rw [advance_real h]

/-- The walk along the names of a link ends at the link. -/
theorem advance_link {folder : List ν} {name : ν} {target : LinkTarget ν}
    (h : tree.find (folder ++ [name]) = some (.symlink target)) :
    tree.advance [] (stepsOf (folder ++ [name])) = .link folder name target [] := by
  have hfolder : tree.find ([] ++ folder) = some .directory := find_prefix h (by simp)
  have hwalk := advance_names (stepsOf [name]) hfolder
  rw [stepsOf_append, hwalk]
  simp [stepsOf, advance, h]

theorem resolve_link (limit : Nat) {path : List ν} {target : LinkTarget ν}
    (h : tree.find path = some (.symlink target)) :
    tree.resolve false limit [] (stepsOf path) = .ok path := by
  rcases List.eq_nil_or_concat' path with rfl | ⟨folder, name, rfl⟩
  · simp at h
  · unfold resolve
    rw [advance_link h]
    simp

/-- A path that has an entry leads to it where no link is followed at its end. -/
theorem resolve_entry (limit : Nat) {path : List ν} {entry : FileEntry ν β}
    (h : tree.find path = some entry) : tree.resolve false limit [] (stepsOf path) = .ok path := by
  cases entry with
  | directory => exact resolve_real false limit (Or.inl h)
  | file content => exact resolve_real false limit (Or.inr ⟨content, h⟩)
  | symlink target => exact resolve_link limit h

/-- A name that a directory does not have, and whatever comes after it. -/
theorem resolve_missing (follow : Bool) (limit : Nat) {folder : List ν} {name : ν}
    (rest : List ν) (hfolder : tree.find folder = some .directory)
    (h : tree.find (folder ++ [name]) = none) :
    tree.resolve follow limit [] (stepsOf (folder ++ name :: rest)) = .error .missing := by
  have hroot : tree.find ([] ++ folder) = some .directory := hfolder
  have hwalk := advance_names (stepsOf (name :: rest)) hroot
  unfold resolve
  rw [stepsOf_append, hwalk]
  simp [stepsOf, advance, h]

/-- A name below a file. -/
theorem resolve_notDirectory (follow : Bool) (limit : Nat) {path : List ν} {content : β} {name : ν}
    (h : tree.find path = some (.file content)) :
    tree.resolve follow limit [] (stepsOf (path ++ [name])) = .error .notDirectory := by
  rcases List.eq_nil_or_concat' path with rfl | ⟨folder, last, rfl⟩
  · simp at h
  · have hfolder : tree.find ([] ++ folder) = some .directory := find_prefix h (by simp)
    have hwalk := advance_names (stepsOf [last, name]) hfolder
    unfold resolve
    rw [List.append_assoc, stepsOf_append, List.singleton_append, hwalk]
    simp [stepsOf, advance, h]

/-- A name in a directory, or below a file, as it is asked for without following it. -/
theorem resolve_child (limit : Nat) {path : List ν} (name : ν) (h : tree.Real path) :
    (∃ entry, tree.find (path ++ [name]) = some entry) ∨
    (tree.find path = some .directory ∧ tree.find (path ++ [name]) = none ∧
      tree.resolve false limit [] (stepsOf (path ++ [name])) = .error .missing) ∨
    tree.resolve false limit [] (stepsOf (path ++ [name])) = .error .notDirectory := by
  rcases h with hdir | ⟨content, hfile⟩
  · cases hfind : tree.find (path ++ [name]) with
    | none => exact Or.inr (Or.inl ⟨hdir, rfl, resolve_missing false limit [] hdir hfind⟩)
    | some entry => exact Or.inl ⟨entry, rfl⟩
  · exact Or.inr (Or.inr (resolve_notDirectory false limit hfile))

/-! ## 3. Writing a file -/

variable (tree)

def isDirectory (path : List ν) : Bool :=
  match tree.find path with
  | some .directory => true
  | _ => false

/-- There is a file at a path, or its directory has no entry of that name. -/
def takesFile (path : List ν) : Bool :=
  tree.isDirectory path.dropLast &&
    match tree.find path with
    | none | some (.file _) => true
    | some .directory | some (.symlink _) => false

variable {tree}

theorem isDirectory_iff {path : List ν} :
    tree.isDirectory path = true ↔ tree.find path = some .directory := by
  unfold isDirectory
  split <;> simp_all

theorem ne_directory_of_takesFile {path : List ν} (h : tree.takesFile path = true) :
    tree.find path ≠ some .directory := by
  intro hdir
  simp [takesFile, hdir] at h

variable (tree)

/-- The tree after a file is written or made; nothing where none can be. -/
def writeFile (path : List ν) (content : β) : FileTree ν β :=
  if h : tree.takesFile path = true then
    { entries := tree.entries.insert path (.file content)
      root := by
        have hroot := tree.root
        rw [Assoc.lookup_insert', if_neg, hroot]
        intro hpath
        exact ne_directory_of_takesFile h (hpath ▸ hroot)
      parents := by
        intro p hp
        have hup : tree.find p.dropLast = some .directory := by
          rcases AList.mem_insert _ |>.mp (AList.mem_keys.mpr hp) with rfl | hold
          · exact isDirectory_iff.mp (Bool.and_eq_true_iff.mp h).1
          · exact tree.parents p (AList.mem_keys.mp hold)
        rw [Assoc.lookup_insert', if_neg]
        · exact hup
        · intro hpath
          exact ne_directory_of_takesFile h (hpath ▸ hup) }
  else tree

variable {tree}

/-- **What is written is the one entry that changes.** -/
theorem find_writeFile {path : List ν} (h : tree.takesFile path = true) (content : β)
    (p : List ν) :
    (tree.writeFile path content).find p =
      if p = path then some (.file content) else tree.find p := by
  unfold writeFile
  rw [dif_pos h]
  exact Assoc.lookup_insert' _ _ _ _

theorem find_writeFile_of_ne {path p : List ν} (hne : p ≠ path) (content : β) :
    (tree.writeFile path content).find p = tree.find p := by
  by_cases h : tree.takesFile path = true
  · rw [find_writeFile h, if_neg hne]
  · unfold writeFile
    rw [dif_neg h]

theorem Real.writeFile {p : List ν} (hp : tree.Real p) (path : List ν) (content : β) :
    (tree.writeFile path content).Real p := by
  by_cases h : tree.takesFile path = true
  · by_cases hne : p = path
    · exact Or.inr ⟨content, by rw [find_writeFile h, if_pos hne]⟩
    · unfold Real
      rw [find_writeFile_of_ne hne]
      exact hp
  · unfold FileTree.writeFile
    rwa [dif_neg h]

/-- Where a file can be written one can be written after another is. -/
theorem takesFile_writeFile {path q : List ν} (hq : tree.takesFile q = true) (content : β) :
    (tree.writeFile path content).takesFile q = true := by
  by_cases h : tree.takesFile path = true
  · have hfolder : tree.find q.dropLast = some .directory :=
      isDirectory_iff.mp (Bool.and_eq_true_iff.mp hq).1
    have hne : q.dropLast ≠ path := by
      intro heq
      exact ne_directory_of_takesFile h (heq ▸ hfolder)
    have hup : (tree.writeFile path content).isDirectory q.dropLast = true := by
      rw [isDirectory_iff, find_writeFile_of_ne hne]
      exact hfolder
    by_cases hsame : q = path
    · subst hsame
      simp [takesFile, hup, find_writeFile h]
    · have hold := (Bool.and_eq_true_iff.mp hq).2
      unfold takesFile
      rw [hup, find_writeFile_of_ne hsame]
      exact hold
  · unfold writeFile
    rwa [dif_neg h]

end FileTree

end Uprava.Lib
