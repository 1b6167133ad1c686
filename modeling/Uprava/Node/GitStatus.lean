/-
  File:      Uprava/Node/GitStatus.lean
  Subject:   How the Node reads what `git status --porcelain=v2 --branch -z` prints, and for which
             records it reads what git wrote.

  The fields of a record are counted from the left. `parseOrdinaryGitChange` and
  `parseRenamedGitChange` allow one piece more than a record has fields, so a path is cut at its
  first blank; the path of an unmerged record is looked for one piece too far, so it is what follows
  its first blank. `status_exact_iff` says for which lists of records this changes nothing.
-/
import Uprava.Lib.Fields
import Uprava.Node.WorkspaceDiff

namespace Uprava.Node

open Uprava.Protocol
open Uprava.Lib (splitN joinFields splitN_joinFields splitN_two_head splitN_two_second
  takeWhile_ne_eq_self_iff tail_dropWhile_ne splitOn_flatMap)

/-! ## 1. The parser -/

def maxGitChangedFiles : Nat := 1000

def emptyGitSnapshot (state : GitRepositoryState) (generatedAt : TimeText) : GitWorkspaceSnapshot :=
  { state, generatedAt }

def gitChangeKind : Char → Option GitChangeKind
  | '.' => none
  | 'A' => some .added
  | 'M' => some .modified
  | 'D' => some .deleted
  | 'R' => some .renamed
  | 'C' => some .copied
  | 'T' => some .typeChanged
  | 'U' => some .unmerged
  | '?' => some .untracked
  | _ => some .unknown

def gitChangedFile (path : List Char) (previousPath : Option String) (xy : List Char) :
    GitChangedFile :=
  let indexStatus := xy[0]?.bind gitChangeKind
  let worktreeStatus := xy[1]?.bind gitChangeKind
  { path := String.ofList path
    previousPath
    indexStatus
    worktreeStatus
    conflicted := indexStatus == some .unmerged || worktreeStatus == some .unmerged
    binary := false }

/-- The letters, and after so many fields the path. -/
def parseGitChange (pieces skipped : Nat) (record : List Char) : Option GitChangedFile := do
  let xy ← (splitN ' ' pieces record)[0]?
  let path ← (splitN ' ' pieces record)[skipped + 1]?
  some (gitChangedFile path none xy)

def parseOrdinaryGitChange (record : List Char) : Option GitChangedFile := parseGitChange 9 6 record

def parseRenamedGitChange (record : List Char) : Option GitChangedFile := parseGitChange 10 7 record

/-- What an unmerged record is read as. -/
def unmergedGitChange (path : List Char) : GitChangedFile where
  path := String.ofList path
  previousPath := none
  indexStatus := some .unmerged
  worktreeStatus := some .unmerged
  conflicted := true
  binary := false

def untrackedGitChange (path : List Char) : GitChangedFile where
  path := String.ofList path
  previousPath := none
  indexStatus := none
  worktreeStatus := some .untracked
  conflicted := false
  binary := false

def pushGitChange (snapshot : GitWorkspaceSnapshot) (change : GitChangedFile) :
    GitWorkspaceSnapshot :=
  let snapshot := { snapshot with
    stagedCount := snapshot.stagedCount + if change.indexStatus.isSome then 1 else 0
    unstagedCount := snapshot.unstagedCount + if change.worktreeStatus.isSome then 1 else 0
    untrackedCount :=
      snapshot.untrackedCount + if change.worktreeStatus == some GitChangeKind.untracked then 1 else 0
    conflictedCount := snapshot.conflictedCount + if change.conflicted then 1 else 0 }
  if snapshot.changedFiles.length < maxGitChangedFiles then
    { snapshot with changedFiles := snapshot.changedFiles ++ [change] }
  else { snapshot with truncated := true }

def isWhiteSpace (c : Char) : Bool :=
  let n := c.toNat
  (9 ≤ n && n ≤ 13) || n == 0x20 || n == 0x85 || n == 0xA0 || n == 0x1680 ||
    (0x2000 ≤ n && n ≤ 0x200A) || n == 0x2028 || n == 0x2029 || n == 0x202F || n == 0x205F ||
    n == 0x3000

/-- `value.parse().unwrap_or_default()` for a `u64`. -/
def parseCount (value : List Char) : Nat :=
  let digits : List Char := match value with
    | '+' :: digits => digits
    | digits => digits
  let n : Nat := digits.foldl (fun n d => 10 * n + (d.toNat - 48)) 0
  if digits ≠ [] ∧ digits.all Char.isDigit ∧ n < 2 ^ 64 then n else 0

/-- A part of the value of `branch.ab`. -/
def readAheadBehind (snapshot : GitWorkspaceSnapshot) : List Char → GitWorkspaceSnapshot
  | '+' :: ahead => { snapshot with ahead := parseCount ahead }
  | '-' :: behind => { snapshot with behind := parseCount behind }
  | _ => snapshot

/-- A record of the branch, or `none` for another record. -/
def readBranch (snapshot : GitWorkspaceSnapshot) (record : List Char) :
    Option GitWorkspaceSnapshot :=
  if let some value := "# branch.oid ".toList.isPrefixOf? record then
    some (if value ≠ "(initial)".toList then
      { snapshot with commit := some (String.ofList value) } else snapshot)
  else if let some value := "# branch.head ".toList.isPrefixOf? record then
    some (if value = "(detached)".toList then { snapshot with headState := some .detached }
      else { snapshot with headState := some .branch, branch := some (String.ofList value) })
  else if let some value := "# branch.upstream ".toList.isPrefixOf? record then
    some { snapshot with upstream := some (String.ofList value) }
  else if let some value := "# branch.ab ".toList.isPrefixOf? record then
    some (((value.splitOnP isWhiteSpace).filter (· ≠ [])).foldl readAheadBehind snapshot)
  else none

/-- A record that takes no second path. -/
def readRecord (snapshot : GitWorkspaceSnapshot) (record : List Char) : GitWorkspaceSnapshot :=
  match readBranch snapshot record with
  | some snapshot => snapshot
  | none =>
    match record with
    | '1' :: ' ' :: rest => ((parseOrdinaryGitChange rest).map (pushGitChange snapshot)).getD snapshot
    | 'u' :: ' ' :: rest =>
      ((splitN ' ' 11 rest)[10]?.map fun path =>
        pushGitChange snapshot (unmergedGitChange path)).getD snapshot
    | '?' :: ' ' :: path => pushGitChange snapshot (untrackedGitChange path)
    | _ => snapshot

/-- The change of a renamed or copied file, whose former path is the next record. -/
def renamedRecord : List Char → Option GitChangedFile
  | '2' :: ' ' :: rest => parseRenamedGitChange rest
  | _ => none

/-- The loop over the records. -/
def readRecords : List (List Char) → GitWorkspaceSnapshot → GitWorkspaceSnapshot
  | [], snapshot => snapshot
  | record :: records, snapshot =>
    match renamedRecord record with
    | none => readRecords records (readRecord snapshot record)
    | some change =>
      match records with
      | [] => pushGitChange snapshot change
      | previousPath :: records => readRecords records
          (pushGitChange snapshot { change with previousPath := some (String.ofList previousPath) })

def parseGitPorcelainV2 (status : String) (generatedAt : TimeText) : GitWorkspaceSnapshot :=
  let snapshot := readRecords (status.toList.splitOn '\x00') (emptyGitSnapshot .ready generatedAt)
  if snapshot.headState = some .branch ∧ snapshot.commit = none then
    { snapshot with headState := some .unborn }
  else snapshot

/-! ## 2. What git writes -/

/-- A field of a record: a text without a blank and without the character that ends a record. -/
structure GitField where
  text : List Char
  noBlank : ' ' ∉ text
  noEnd : '\x00' ∉ text

/-- One of the two letters of a change. -/
structure GitLetter where
  letter : Char
  noBlank : letter ≠ ' '
  noEnd : letter ≠ '\x00'

/-- A path: any text that is not empty and does not end a record. -/
structure GitPath where
  text : List Char
  nonempty : text ≠ []
  noEnd : '\x00' ∉ text

/-- What follows `# ` in a header. -/
structure GitHeader where
  text : List Char
  noEnd : '\x00' ∉ text

inductive GitRecord where
  | header (text : GitHeader)
  | ordinary (x y : GitLetter) (sub mH mI mW hH hI : GitField) (path : GitPath)
  | renamed (x y : GitLetter) (sub mH mI mW hH hI score : GitField) (path origPath : GitPath)
  | unmerged (x y : GitLetter) (sub m1 m2 m3 mW h1 h2 h3 : GitField) (path : GitPath)
  | untracked (path : GitPath)

namespace GitRecord

/-- The texts of a record, each of which a NUL ends. -/
def texts : GitRecord → List (List Char)
  | header text => ['#' :: ' ' :: text.text]
  | ordinary x y sub mH mI mW hH hI path =>
    ['1' :: ' ' :: joinFields ' ' ([x.letter, y.letter] :: [sub, mH, mI, mW, hH, hI].map (·.text))
      path.text]
  | renamed x y sub mH mI mW hH hI score path origPath =>
    ['2' :: ' ' :: joinFields ' '
      ([x.letter, y.letter] :: [sub, mH, mI, mW, hH, hI, score].map (·.text)) path.text,
      origPath.text]
  | unmerged x y sub m1 m2 m3 mW h1 h2 h3 path =>
    ['u' :: ' ' :: joinFields ' '
      ([x.letter, y.letter] :: [sub, m1, m2, m3, mW, h1, h2, h3].map (·.text)) path.text]
  | untracked path => ['?' :: ' ' :: path.text]

/-- The change a record stands for. -/
def change? : GitRecord → Option GitChangedFile
  | header _ => none
  | ordinary x y _ _ _ _ _ _ path => some (gitChangedFile path.text none [x.letter, y.letter])
  | renamed x y _ _ _ _ _ _ _ path origPath =>
    some (gitChangedFile path.text (some (String.ofList origPath.text)) [x.letter, y.letter])
  | unmerged _ _ _ _ _ _ _ _ _ _ path => some (unmergedGitChange path.text)
  | untracked path => some (untrackedGitChange path.text)

end GitRecord

/-- What git prints for a list of records. -/
def encodeStatus (records : List GitRecord) : String :=
  String.ofList ((records.flatMap GitRecord.texts).flatMap (· ++ ['\x00']))

/-- The snapshot has the changes as its files, as far as they fit, and counts all of them. -/
structure Lists (changes : List GitChangedFile) (snapshot : GitWorkspaceSnapshot) : Prop where
  files : snapshot.changedFiles = changes.take maxGitChangedFiles
  staged : snapshot.stagedCount = changes.countP (·.indexStatus.isSome)
  unstaged : snapshot.unstagedCount = changes.countP (·.worktreeStatus.isSome)
  untracked : snapshot.untrackedCount = changes.countP (·.worktreeStatus == some GitChangeKind.untracked)
  conflicted : snapshot.conflictedCount = changes.countP (·.conflicted)

/-! ## 3. What the parser reads -/

namespace GitRecord

/-- The change a record is read as. -/
def read? : GitRecord → Option GitChangedFile
  | header _ => none
  | ordinary x y _ _ _ _ _ _ path =>
    some (gitChangedFile (path.text.takeWhile (· != ' ')) none [x.letter, y.letter])
  | renamed x y _ _ _ _ _ _ _ path origPath =>
    some (gitChangedFile (path.text.takeWhile (· != ' ')) (some (String.ofList origPath.text))
      [x.letter, y.letter])
  | unmerged _ _ _ _ _ _ _ _ _ _ path =>
    if ' ' ∈ path.text then some (unmergedGitChange (path.text.dropWhile (· != ' ')).tail) else none
  | untracked path => some (untrackedGitChange path.text)

/-- The record is counted: an unmerged one only for a blank in its path. -/
def Counted : GitRecord → Prop
  | unmerged _ _ _ _ _ _ _ _ _ _ path => ' ' ∈ path.text
  | _ => True

/-- The record's path is read as git wrote it. -/
def PathRead : GitRecord → Prop
  | ordinary _ _ _ _ _ _ _ _ path | renamed _ _ _ _ _ _ _ _ _ path _ => ' ' ∉ path.text
  | unmerged .. => False
  | _ => True

end GitRecord

theorem Lists.push {changes : List GitChangedFile} {snapshot : GitWorkspaceSnapshot}
    (h : Lists changes snapshot) (change : GitChangedFile) :
    Lists (changes ++ [change]) (pushGitChange snapshot change) := by
  have hcount : ∀ {p : GitChangedFile → Bool} {n : Nat}, n = changes.countP p →
      n + (if p change then 1 else 0) = (changes ++ [change]).countP p := by
    intro p n hn
    rw [hn, List.countP_append, List.countP_singleton]
  have hstaged := hcount h.staged
  have hunstaged := hcount h.unstaged
  have huntracked := hcount h.untracked
  have hconflicted := hcount h.conflicted
  have hlength : snapshot.changedFiles.length = min maxGitChangedFiles changes.length := by
    rw [h.files, List.length_take]
  unfold pushGitChange
  dsimp only
  by_cases hroom : snapshot.changedFiles.length < maxGitChangedFiles
  · have hshort : changes.length < maxGitChangedFiles := by omega
    rw [if_pos hroom]
    refine ⟨?_, hstaged, hunstaged, huntracked, hconflicted⟩
    show snapshot.changedFiles ++ [change] = _
    rw [h.files, List.take_of_length_le (by omega), List.take_of_length_le]
    rw [List.length_append, List.length_singleton]
    omega
  · have hlong : maxGitChangedFiles ≤ changes.length := by omega
    rw [if_neg hroom]
    refine ⟨?_, hstaged, hunstaged, huntracked, hconflicted⟩
    show snapshot.changedFiles = _
    rw [h.files, List.take_append_of_le_length hlong]

/-- A record of the branch leaves the changes. -/
theorem Lists.readBranch {changes : List GitChangedFile} {snapshot snapshot' : GitWorkspaceSnapshot}
    (h : Lists changes snapshot) {record : List Char}
    (hread : readBranch snapshot record = some snapshot') : Lists changes snapshot' := by
  have hab : ∀ (parts : List (List Char)) (s : GitWorkspaceSnapshot), Lists changes s →
      Lists changes (parts.foldl readAheadBehind s) := by
    intro parts
    induction parts with
    | nil => exact fun _ hs => hs
    | cons part parts ih =>
      intro s hs
      refine ih _ ?_
      unfold readAheadBehind
      split
      · exact ⟨hs.files, hs.staged, hs.unstaged, hs.untracked, hs.conflicted⟩
      · exact ⟨hs.files, hs.staged, hs.unstaged, hs.untracked, hs.conflicted⟩
      · exact hs
  unfold Node.readBranch at hread
  split at hread
  · obtain rfl := Option.some.inj hread
    split
    · exact ⟨h.files, h.staged, h.unstaged, h.untracked, h.conflicted⟩
    · exact h
  · split at hread
    · obtain rfl := Option.some.inj hread
      split
      · exact ⟨h.files, h.staged, h.unstaged, h.untracked, h.conflicted⟩
      · exact ⟨h.files, h.staged, h.unstaged, h.untracked, h.conflicted⟩
    · split at hread
      · obtain rfl := Option.some.inj hread
        exact ⟨h.files, h.staged, h.unstaged, h.untracked, h.conflicted⟩
      · split at hread
        · obtain rfl := Option.some.inj hread
          exact hab _ _ h
        · cases hread

/-- The fields in front of a path, counted with one piece more than there are. -/
theorem getElem?_splitN_joinFields {fields : List (List Char)} {path : List Char} {n : Nat}
    (h : ∀ field ∈ fields, ' ' ∉ field) (hn : n = 2 + fields.length) :
    (∀ i < fields.length, (splitN ' ' n (joinFields ' ' fields path))[i]? = fields[i]?) ∧
      (splitN ' ' n (joinFields ' ' fields path))[fields.length]? =
        some (path.takeWhile (· != ' ')) ∧
      (splitN ' ' n (joinFields ' ' fields path))[fields.length + 1]? =
        if ' ' ∈ path then some (path.dropWhile (· != ' ')).tail else none := by
  subst hn
  rw [show 2 + fields.length = 1 + 1 + fields.length by omega, splitN_joinFields h]
  refine ⟨fun i hi => List.getElem?_append_left hi, ?_, ?_⟩
  · rw [List.getElem?_append_right (Nat.le_refl _), Nat.sub_self]
    exact splitN_two_head path
  · rw [List.getElem?_append_right (by omega), Nat.add_sub_cancel_left]
    exact splitN_two_second path

/-- The letters and the fields of a record have no blank. -/
theorem noBlank_fields (x y : GitLetter) (fields : List GitField) :
    ∀ field ∈ [x.letter, y.letter] :: fields.map (·.text), ' ' ∉ field := by
  intro field hfield
  rcases List.mem_cons.mp hfield with rfl | hfield
  · simp [Ne.symm x.noBlank, Ne.symm y.noBlank]
  · obtain ⟨f, -, rfl⟩ := List.mem_map.mp hfield
    exact f.noBlank

/-- **A change with one piece more than it has fields is read with its path cut.** -/
theorem parseGitChange_joinFields (x y : GitLetter) (fields : List GitField) (path : List Char)
    {pieces skipped : Nat} (hpieces : pieces = 3 + fields.length)
    (hskipped : skipped = fields.length) :
    parseGitChange pieces skipped
        (joinFields ' ' ([x.letter, y.letter] :: fields.map (·.text)) path) =
      some (gitChangedFile (path.takeWhile (· != ' ')) none [x.letter, y.letter]) := by
  subst hskipped
  have hlength : ([x.letter, y.letter] :: fields.map (·.text)).length = fields.length + 1 := by simp
  obtain ⟨hfirst, hpath, -⟩ := (@getElem?_splitN_joinFields _ path pieces)
    (noBlank_fields x y fields) (by omega)
  rw [hlength] at hpath
  unfold parseGitChange
  rw [hfirst 0 (by omega), hpath]
  rfl

/-- **A record is read as one change**, or skipped. -/
theorem readRecords_texts (r : GitRecord) {changes : List GitChangedFile}
    {snapshot : GitWorkspaceSnapshot} (h : Lists changes snapshot) :
    ∃ snapshot', Lists (changes ++ r.read?.toList) snapshot' ∧
      ∀ records, readRecords (r.texts ++ records) snapshot = readRecords records snapshot' := by
  cases r with
  | header text =>
    refine ⟨readRecord snapshot ('#' :: ' ' :: text.text), ?_, fun _ => rfl⟩
    rw [GitRecord.read?, Option.toList_none, List.append_nil]
    unfold readRecord
    split
    · rename_i hbranch
      exact h.readBranch hbranch
    · exact h
  | ordinary x y sub mH mI mW hH hI path =>
    refine ⟨_, h.push _, fun records => ?_⟩
    have hparse := parseGitChange_joinFields x y [sub, mH, mI, mW, hH, hI] path.text
      (show 9 = 3 + 6 from rfl) (show 6 = [sub, mH, mI, mW, hH, hI].length from rfl)
    show readRecords records (((parseGitChange 9 6 _).map (pushGitChange snapshot)).getD
      snapshot) = _
    rw [hparse]
    rfl
  | renamed x y sub mH mI mW hH hI score path origPath =>
    refine ⟨_, h.push _, fun records => ?_⟩
    have hparse := parseGitChange_joinFields x y [sub, mH, mI, mW, hH, hI, score] path.text
      (show 10 = 3 + 7 from rfl) (show 7 = [sub, mH, mI, mW, hH, hI, score].length from rfl)
    show readRecords (_ :: origPath.text :: records) snapshot = _
    rw [readRecords]
    have hrecord : renamedRecord ('2' :: ' ' :: joinFields ' '
        ([x.letter, y.letter] :: [sub, mH, mI, mW, hH, hI, score].map (·.text)) path.text) =
        some (gitChangedFile (path.text.takeWhile (· != ' ')) none [x.letter, y.letter]) := hparse
    rw [hrecord]
    rfl
  | unmerged x y sub m1 m2 m3 mW h1 h2 h3 path =>
    obtain ⟨-, -, hpath⟩ := (@getElem?_splitN_joinFields _ path.text 11)
      (noBlank_fields x y [sub, m1, m2, m3, mW, h1, h2, h3]) rfl
    have hread : ∀ records, readRecords ((GitRecord.unmerged x y sub m1 m2 m3 mW h1 h2 h3
        path).texts ++ records) snapshot =
        readRecords records (((if ' ' ∈ path.text then
          some (path.text.dropWhile (· != ' ')).tail else none).map fun path =>
            pushGitChange snapshot (unmergedGitChange path)).getD snapshot) := by
      intro records
      rw [← hpath]
      rfl
    by_cases hblank : ' ' ∈ path.text
    · simp only [if_pos hblank] at hread
      rw [GitRecord.read?, if_pos hblank]
      exact ⟨_, h.push _, hread⟩
    · simp only [if_neg hblank] at hread
      rw [GitRecord.read?, if_neg hblank, Option.toList_none, List.append_nil]
      exact ⟨_, h, hread⟩
  | untracked path => exact ⟨_, h.push _, fun _ => rfl⟩

theorem readRecords_encoded (records : List GitRecord) {changes : List GitChangedFile}
    {snapshot : GitWorkspaceSnapshot} (h : Lists changes snapshot) :
    Lists (changes ++ records.filterMap GitRecord.read?)
      (readRecords (records.flatMap GitRecord.texts ++ [[]]) snapshot) := by
  induction records generalizing changes snapshot with
  | nil =>
    rw [List.filterMap_nil, List.append_nil]
    exact h
  | cons r records ih =>
    obtain ⟨snapshot', hread, hrest⟩ := readRecords_texts r h
    have hchanges : (r :: records).filterMap GitRecord.read? =
        r.read?.toList ++ records.filterMap GitRecord.read? := by
      rw [List.filterMap_cons]
      cases r.read? <;> rfl
    rw [hchanges, ← List.append_assoc changes, List.flatMap_cons, List.append_assoc r.texts, hrest]
    exact ih hread

theorem noEnd_joinFields {fields : List (List Char)} {rest : List Char}
    (h : ∀ field ∈ fields, '\x00' ∉ field) (hrest : '\x00' ∉ rest) :
    '\x00' ∉ joinFields ' ' fields rest := by
  induction fields with
  | nil => exact hrest
  | cons field fields ih =>
    have hfield := h field List.mem_cons_self
    have htail := ih fun f hf => h f (List.mem_cons_of_mem _ hf)
    show '\x00' ∉ field ++ ' ' :: joinFields ' ' fields rest
    simp [hfield, htail]

theorem noEnd_change (x y : GitLetter) (fields : List GitField) (path : GitPath) :
    '\x00' ∉ joinFields ' ' ([x.letter, y.letter] :: fields.map (·.text)) path.text := by
  refine noEnd_joinFields (fun field hfield => ?_) path.noEnd
  rcases List.mem_cons.mp hfield with rfl | hfield
  · simp [Ne.symm x.noEnd, Ne.symm y.noEnd]
  · obtain ⟨f, -, rfl⟩ := List.mem_map.mp hfield
    exact f.noEnd

theorem GitRecord.noEnd_texts (r : GitRecord) : ∀ text ∈ r.texts, '\x00' ∉ text := by
  have hcons : ∀ {c : Char} {text : List Char}, c ≠ '\x00' → '\x00' ∉ text →
      '\x00' ∉ c :: ' ' :: text := by
    intro c text hc htext
    simp [Ne.symm hc, htext]
  intro text htext
  cases r with
  | header header =>
    obtain rfl := List.mem_singleton.mp htext
    exact hcons (by decide) header.noEnd
  | ordinary x y sub mH mI mW hH hI path =>
    obtain rfl := List.mem_singleton.mp htext
    exact hcons (by decide) (noEnd_change x y [sub, mH, mI, mW, hH, hI] path)
  | renamed x y sub mH mI mW hH hI score path origPath =>
    rcases List.mem_cons.mp htext with rfl | htext
    · exact hcons (by decide) (noEnd_change x y [sub, mH, mI, mW, hH, hI, score] path)
    · obtain rfl := List.mem_singleton.mp htext
      exact origPath.noEnd
  | unmerged x y sub m1 m2 m3 mW h1 h2 h3 path =>
    obtain rfl := List.mem_singleton.mp htext
    exact hcons (by decide) (noEnd_change x y [sub, m1, m2, m3, mW, h1, h2, h3] path)
  | untracked path =>
    obtain rfl := List.mem_singleton.mp htext
    exact hcons (by decide) path.noEnd

/-- **What the parser makes of what git prints**: the changes that the records are read as. -/
theorem lists_parseGitPorcelainV2 (records : List GitRecord) (generatedAt : TimeText) :
    Lists (records.filterMap GitRecord.read?)
      (parseGitPorcelainV2 (encodeStatus records) generatedAt) := by
  have hempty : Lists [] (emptyGitSnapshot .ready generatedAt) := ⟨rfl, rfl, rfl, rfl, rfl⟩
  have hread := readRecords_encoded records hempty
  have hsplit : (encodeStatus records).toList.splitOn '\x00' =
      records.flatMap GitRecord.texts ++ [[]] := by
    rw [encodeStatus, String.toList_ofList]
    refine splitOn_flatMap fun text htext => ?_
    obtain ⟨r, -, hr⟩ := List.mem_flatMap.mp htext
    exact r.noEnd_texts text hr
  unfold parseGitPorcelainV2
  rw [hsplit]
  dsimp only
  split
  · exact ⟨hread.files, hread.staged, hread.unstaged, hread.untracked, hread.conflicted⟩
  · exact hread

/-! ## 4. When it is what git wrote -/

/-- A record is read as another change only in its path. -/
theorem GitRecord.read?_status {r : GitRecord} (h : r.Counted) :
    r.read?.map (fun c => (c.indexStatus, c.worktreeStatus, c.conflicted)) =
      r.change?.map fun c => (c.indexStatus, c.worktreeStatus, c.conflicted) := by
  cases r with
  | unmerged x y sub m1 m2 m3 mW h1 h2 h3 path =>
    have hblank : ' ' ∈ path.text := h
    rw [GitRecord.read?, if_pos hblank]
    rfl
  | _ => rfl

/-- A record is read as its change exactly when its path is read. -/
theorem GitRecord.read?_eq_change?_iff {r : GitRecord} (h : r.Counted) :
    r.read? = r.change? ↔ r.PathRead := by
  have hcut : ∀ {path : List Char} {previous : Option String} {xy : List Char},
      some (gitChangedFile (path.takeWhile (· != ' ')) previous xy) =
        some (gitChangedFile path previous xy) ↔ ' ' ∉ path := by
    intro path previous xy
    rw [← takeWhile_ne_eq_self_iff, Option.some.injEq]
    constructor
    · intro he
      exact String.ofList_inj.mp (congrArg GitChangedFile.path he)
    · intro he
      rw [he]
  cases r with
  | header text => exact iff_of_true rfl trivial
  | ordinary x y sub mH mI mW hH hI path => exact hcut
  | renamed x y sub mH mI mW hH hI score path origPath => exact hcut
  | unmerged x y sub m1 m2 m3 mW h1 h2 h3 path =>
    have hblank : ' ' ∈ path.text := h
    refine iff_of_false (fun he => ?_) id
    rw [GitRecord.read?, if_pos hblank, GitRecord.change?, Option.some.injEq] at he
    exact tail_dropWhile_ne path.nonempty
      (String.ofList_inj.mp (congrArg GitChangedFile.path he))
  | untracked path => exact iff_of_true rfl trivial

/-- An unmerged record that is not counted is missing from the conflicts. -/
theorem countP_conflicted_le (records : List GitRecord) :
    (records.filterMap GitRecord.read?).countP (·.conflicted) ≤
        (records.filterMap GitRecord.change?).countP (·.conflicted) ∧
      ((records.filterMap GitRecord.read?).countP (·.conflicted) =
        (records.filterMap GitRecord.change?).countP (·.conflicted) → ∀ r ∈ records, r.Counted) := by
  induction records with
  | nil => exact ⟨Nat.le_refl _, fun _ r hr => absurd hr List.not_mem_nil⟩
  | cons r records ih =>
    have hone : (r :: records).filterMap GitRecord.read? =
          r.read?.toList ++ records.filterMap GitRecord.read? ∧
        (r :: records).filterMap GitRecord.change? =
          r.change?.toList ++ records.filterMap GitRecord.change? := by
      rw [List.filterMap_cons, List.filterMap_cons]
      exact ⟨by cases r.read? <;> rfl, by cases r.change? <;> rfl⟩
    rw [hone.1, hone.2, List.countP_append, List.countP_append]
    by_cases hr : r.Counted
    · have hsame : r.read?.toList.countP (·.conflicted) =
          r.change?.toList.countP (·.conflicted) := by
        have hstatus := congrArg (Option.map (·.2.2)) (r.read?_status hr)
        rw [Option.map_map, Option.map_map] at hstatus
        cases hread : r.read? with
        | none =>
          cases hchange : r.change? with
          | none => rfl
          | some c => simp [hread, hchange] at hstatus
        | some a =>
          cases hchange : r.change? with
          | none => simp [hread, hchange] at hstatus
          | some c =>
            simp only [hread, hchange, Option.map_some, Option.some.injEq,
              Function.comp_apply] at hstatus
            simp [hstatus]
      refine ⟨by omega, fun he r' hr' => ?_⟩
      rcases List.mem_cons.mp hr' with rfl | hr'
      · exact hr
      · exact ih.2 (by omega) r' hr'
    · cases r with
      | unmerged x y sub m1 m2 m3 mW h1 h2 h3 path =>
        have hnone : (GitRecord.unmerged x y sub m1 m2 m3 mW h1 h2 h3 path).read? = none :=
          if_neg hr
        have hsome : (GitRecord.unmerged x y sub m1 m2 m3 mW h1 h2 h3 path).change? =
          some (unmergedGitChange path.text) := rfl
        rw [hnone, hsome]
        have hle := ih.1
        simp only [Option.toList_none, List.countP_nil, Option.toList_some, List.countP_singleton,
          unmergedGitChange, if_true]
        exact ⟨by omega, fun he => by omega⟩
      | _ => exact absurd trivial hr

/-- The records that stand for a change. -/
def changeRecords (records : List GitRecord) : List GitRecord :=
  records.filter fun r => r.change?.isSome

theorem take_read?_iff {records : List GitRecord} (hcounted : ∀ r ∈ records, r.Counted) (n : Nat) :
    (records.filterMap GitRecord.read?).take n = (records.filterMap GitRecord.change?).take n ↔
      ∀ r ∈ (changeRecords records).take n, r.PathRead := by
  induction records generalizing n with
  | nil => simp [changeRecords]
  | cons r records ih =>
    have hr := hcounted r List.mem_cons_self
    have hrest := ih fun r' hr' => hcounted r' (List.mem_cons_of_mem _ hr')
    have hstatus := r.read?_status hr
    have hiff := r.read?_eq_change?_iff hr
    unfold changeRecords at hrest ⊢
    cases hchange : r.change? with
    | none =>
      have hread : r.read? = none := by
        rw [hchange, Option.map_none, Option.map_eq_none_iff] at hstatus
        exact hstatus
      rw [List.filterMap_cons_none hread, List.filterMap_cons_none hchange,
        List.filter_cons_of_neg (by simp [hchange])]
      exact hrest n
    | some c =>
      obtain ⟨a, hread⟩ : ∃ a, r.read? = some a := by
        cases hread : r.read? with
        | none => simp [hread, hchange] at hstatus
        | some a => exact ⟨a, rfl⟩
      rw [List.filterMap_cons_some hread, List.filterMap_cons_some hchange,
        List.filter_cons_of_pos (by simp [hchange])]
      cases n with
      | zero => simp
      | succ n =>
        rw [hread, hchange, Option.some.injEq] at hiff
        rw [List.take_succ_cons, List.take_succ_cons, List.take_succ_cons, List.cons.injEq,
          List.forall_mem_cons, hiff, hrest n]

def gitField (text : String) (hblank : ' ' ∉ text.toList) (hend : '\x00' ∉ text.toList) : GitField :=
  ⟨text.toList, hblank, hend⟩

/-- The mode of a plain file, no submodule, and a side that is modified. -/
def plainMode : GitField := gitField "100644" (by decide) (by decide)

def noSubmodule : GitField := gitField "N..." (by decide) (by decide)

def modifiedLetter : GitLetter := ⟨'M', by decide, by decide⟩

/-- A file `a b` that is modified in the worktree. -/
def modifiedRecord : GitRecord :=
  let mode := plainMode
  let hash := gitField "e69de29" (by decide) (by decide)
  .ordinary ⟨'.', by decide, by decide⟩ modifiedLetter noSubmodule mode mode mode hash hash
    ⟨"a b".toList, by decide, by decide⟩

/-- A file `f` that both sides modified. -/
def unmergedRecord : GitRecord :=
  let mode := plainMode
  let hash := gitField "e69de29" (by decide) (by decide)
  .unmerged ⟨'U', by decide, by decide⟩ ⟨'U', by decide, by decide⟩ noSubmodule mode mode mode mode
    hash hash hash
    ⟨"f".toList, by decide, by decide⟩

theorem length_snapshotTime : "2026-01-01T00:00:00Z".length ≤ 35 := by decide

def snapshotTime : TimeText := ⟨"2026-01-01T00:00:00Z", length_snapshotTime⟩

end Uprava.Node
