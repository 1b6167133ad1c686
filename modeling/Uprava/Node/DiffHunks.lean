/-
  File:      Uprava/Node/DiffHunks.lean
  Subject:   The hunks that the Node cuts a diff into, against the hunks of the diff.

  A diff is a list of file sections: header lines and hunks. Its text is the lines of all of
  them, each with a newline behind it. The Node sees only the text: it takes its lines without
  their carriage returns, opens a hunk at `@@ ` and closes it at the next one or at
  `diff --git `.

  So a hunk of a combined diff (`@@@ `) is not seen, and what stands behind a hunk up to the next
  `diff --git ` is put to it: the whole section of a conflicted file. With a carriage return at
  the end of a line the patch is no longer the text of the hunk. `faithfulSplit_iff`: these are
  the only ways in which the hunks go wrong.
-/
import Uprava.Lib.Texts
import Uprava.Node.WorkspaceDiff

namespace Uprava.Node

/-! ## 1. The lines of a text -/

abbrev DiffLine := List Char

/-- The text of lines: each has a newline behind it. -/
def linesText (lines : List DiffLine) : List Char := lines.flatMap (· ++ ['\n'])

/-- A line as `str::lines` gives it. -/
def stripReturn (line : DiffLine) : DiffLine :=
  if line.getLast? = some '\r' then line.dropLast else line

theorem textLines_append {line : DiffLine} (h : '\n' ∉ line) (opened rest : List Char) :
    textLines opened (line ++ '\n' :: rest) =
      stripReturn (opened.reverse ++ line) :: textLines [] rest := by
  induction line generalizing opened with
  | nil =>
    rw [List.nil_append, textLines, if_pos rfl, List.append_nil, stripReturn,
      List.getLast?_reverse]
    congr 1
    split
    · rw [List.dropLast_reverse]
    · rfl
  | cons c line ih =>
    have hc : c ≠ '\n' := fun e => h (e ▸ List.mem_cons_self)
    have hline : '\n' ∉ line := fun m => h (List.mem_cons_of_mem _ m)
    rw [List.cons_append, textLines, if_neg hc, ih hline, List.reverse_cons, List.append_assoc,
      List.singleton_append]

/-- The lines of a text that is made of lines are these, without a carriage return at the end. -/
theorem textLines_linesText {lines : List DiffLine} (h : ∀ line ∈ lines, '\n' ∉ line) :
    textLines [] (linesText lines) = lines.map stripReturn := by
  induction lines with
  | nil => rfl
  | cons line lines ih =>
    have hline := h line List.mem_cons_self
    rw [linesText, List.flatMap_cons, List.append_assoc, List.singleton_append,
      textLines_append hline]
    rw [← linesText, ih fun other hother => h other (List.mem_cons_of_mem _ hother)]
    rfl

theorem stripReturn_isPrefix (line : DiffLine) : stripReturn line <+: line := by
  rw [stripReturn]
  split
  · exact List.dropLast_prefix line
  · exact List.prefix_rfl

theorem stripReturn_eq_self_iff (line : DiffLine) :
    stripReturn line = line ↔ line.getLast? ≠ some '\r' := by
  rw [stripReturn]
  split
  · next h =>
    have hne : line ≠ [] := by rintro rfl; cases h
    have hlen : line.dropLast.length < line.length := by
      have := List.length_pos_of_ne_nil hne
      rw [List.length_dropLast]
      omega
    exact iff_of_false (fun e => by rw [e] at hlen; omega) (fun hn => hn h)
  · next h => exact iff_of_true rfl h

/-- What a line begins with it begins with without its carriage return, unless that is the end
    of it. -/
theorem isPrefix_stripReturn_iff {start line : DiffLine} (h : start.getLast? ≠ some '\r') :
    start <+: stripReturn line ↔ start <+: line := by
  refine ⟨fun hs => hs.trans (stripReturn_isPrefix line), fun hs => ?_⟩
  obtain ⟨rest, rfl⟩ := hs
  rcases List.eq_nil_or_concat rest with rfl | ⟨rest, c, rfl⟩
  · have hsame := (stripReturn_eq_self_iff start).mpr h
    rw [List.append_nil]
    exact ⟨[], by rw [List.append_nil, hsame]⟩
  · rw [stripReturn]
    split
    · rw [List.concat_eq_append, ← List.append_assoc, List.dropLast_concat]
      exact List.prefix_append _ _
    · exact List.prefix_append _ _

theorem not_mem_stripReturn {line : DiffLine} (h : '\n' ∉ line) : '\n' ∉ stripReturn line :=
  fun hmem => h ((stripReturn_isPrefix line).subset hmem)

/-! ## 2. Opened and closed hunks -/

def hunkStart : DiffLine := ['@', '@', ' ']

def fileStart : DiffLine := ['d', 'i', 'f', 'f', ' ', '-', '-', 'g', 'i', 't', ' ']

/-- The groups of lines that the Node takes for hunks, with the one that is open. -/
def groups : Option (DiffLine × List DiffLine) → List DiffLine → List (DiffLine × List DiffLine)
  | opened, [] => opened.toList
  | opened, line :: lines =>
    if hunkStart.isPrefixOf line then opened.toList ++ groups (some (line, [])) lines
    else
      match opened with
      | none => groups none lines
      | some (header, body) =>
        if fileStart.isPrefixOf line then (header, body) :: groups none lines
        else groups (some (header, body ++ [line])) lines

theorem groups_nil (opened : Option (DiffLine × List DiffLine)) :
    groups opened [] = opened.toList := by
  rw [groups.eq_def]

/-- A hunk header closes the open group and opens one. -/
theorem groups_hunk {line : DiffLine} (h : hunkStart.isPrefixOf line)
    (opened : Option (DiffLine × List DiffLine)) (lines : List DiffLine) :
    groups opened (line :: lines) = opened.toList ++ groups (some (line, [])) lines := by
  rw [groups.eq_def]
  exact if_pos h

/-- Outside of hunks the other lines are passed over. -/
theorem groups_none {line : DiffLine} (h : ¬ hunkStart.isPrefixOf line) (lines : List DiffLine) :
    groups none (line :: lines) = groups none lines := by
  rw [groups.eq_def]
  exact if_neg h

/-- The first line of a file section closes the open group. -/
theorem groups_file {line : DiffLine} (h : ¬ hunkStart.isPrefixOf line)
    (hfile : fileStart.isPrefixOf line) (group : DiffLine × List DiffLine)
    (lines : List DiffLine) :
    groups (some group) (line :: lines) = group :: groups none lines := by
  rw [groups.eq_def]
  exact (if_neg h).trans (if_pos hfile)

/-- Every other line is put to the open group. -/
theorem groups_body {line : DiffLine} (h : ¬ hunkStart.isPrefixOf line)
    (hfile : ¬ fileStart.isPrefixOf line) (group : DiffLine × List DiffLine)
    (lines : List DiffLine) :
    groups (some group) (line :: lines) = groups (some (group.1, group.2 ++ [line])) lines := by
  rw [groups.eq_def]
  exact (if_neg h).trans (if_neg hfile)

def groupHunk (diffId : String) (count : Nat) (group : DiffLine × List DiffLine) :
    WorkspaceDiffHunk :=
  diffHunk diffId count (String.ofList group.1)
    (String.ofList (linesText (group.1 :: group.2)))

/-- The hunks of groups, counted on from a number. -/
def numbered (diffId : String) :
    Nat → List (DiffLine × List DiffLine) → List WorkspaceDiffHunk
  | _, [] => []
  | count, group :: rest => groupHunk diffId count group :: numbered diffId (count + 1) rest

/-- The header and the patch that the loop holds for the open hunk. -/
def openHeader (opened : Option (DiffLine × List DiffLine)) : Option String :=
  opened.map fun group => String.ofList group.1

def openPatch (opened : Option (DiffLine × List DiffLine)) : String :=
  match opened with
  | none => ""
  | some group => String.ofList (linesText (group.1 :: group.2))

theorem openPatch_append (opened : Option (DiffLine × List DiffLine)) (line : DiffLine) :
    openPatch opened ++ String.ofList line ++ "\n" =
      match opened with
      | none => openPatch (some (line, []))
      | some (header, body) => openPatch (some (header, body ++ [line])) := by
  apply String.toList_inj.mp
  cases opened with
  | none => simp [openPatch, linesText]
  | some group => simp [openPatch, linesText]

theorem openPatch_line (line : DiffLine) :
    openPatch (some (line, [])) = String.ofList line ++ "\n" := by
  apply String.toList_inj.mp
  simp [openPatch, linesText]

theorem take_cons_of_lt {α : Type} {n m : Nat} (h : m < n) (a : α) (as : List α) :
    (a :: as).take (n - m) = a :: as.take (n - (m + 1)) := by
  obtain ⟨k, hk⟩ : ∃ k, n - m = k + 1 := ⟨n - m - 1, by omega⟩
  rw [hk, List.take_succ_cons, show n - (m + 1) = k by omega]

/-- **What the loop returns: the hunks so far and those of the groups, up to the limit.** -/
theorem parseHunkLines_eq (diffId : String) (lines : List DiffLine)
    (hunks : List WorkspaceDiffHunk) (opened : Option (DiffLine × List DiffLine)) :
    parseHunkLines diffId hunks (openHeader opened) (openPatch opened)
        (lines.map String.ofList) =
      hunks ++ numbered diffId hunks.length
        ((groups opened lines).take (maxWorkspaceDiffHunks - hunks.length)) := by
  induction lines generalizing hunks opened with
  | nil =>
    rw [List.map_nil, parseHunkLines.eq_def]
    dsimp only
    by_cases hfull : maxWorkspaceDiffHunks ≤ hunks.length
    · rw [if_pos hfull, show maxWorkspaceDiffHunks - hunks.length = 0 by omega]
      simp [numbered]
    · rw [if_neg hfull, groups_nil]
      cases opened with
      | none => simp [openHeader, numbered]
      | some group =>
        rw [Option.toList_some, take_cons_of_lt (by omega)]
        simp [openHeader, numbered, groupHunk, openPatch]
  | cons line lines ih =>
    rw [List.map_cons, parseHunkLines.eq_def]
    dsimp only
    rw [show (String.ofList line).toList = line from String.toList_ofList, openPatch_append,
      show "@@ ".toList = hunkStart from rfl, show "diff --git ".toList = fileStart from rfl]
    by_cases hfull : maxWorkspaceDiffHunks ≤ hunks.length
    · rw [if_pos hfull, show maxWorkspaceDiffHunks - hunks.length = 0 by omega]
      simp [numbered]
    · have hlt : hunks.length < maxWorkspaceDiffHunks := by omega
      rw [if_neg hfull]
      by_cases hstart : hunkStart.isPrefixOf line
      · rw [groups_hunk hstart]
        refine (if_pos hstart).trans ?_
        cases opened with
        | none => exact ih hunks (some (line, []))
        | some group =>
          have hrest := ih (hunks ++ [groupHunk diffId hunks.length group]) (some (line, []))
          rw [List.length_append, List.length_singleton, List.append_assoc,
              List.singleton_append] at hrest
          rw [Option.toList_some, List.singleton_append, take_cons_of_lt hlt, numbered,
            ← hrest, openPatch_line]
          rfl
      · refine (if_neg hstart).trans ?_
        cases opened with
        | none =>
          rw [groups_none hstart]
          exact ih hunks none
        | some group =>
          by_cases hfile : fileStart.isPrefixOf line
          · have hrest := ih (hunks ++ [groupHunk diffId hunks.length group]) none
            rw [List.length_append, List.length_singleton, List.append_assoc,
              List.singleton_append] at hrest
            rw [groups_file hstart hfile, take_cons_of_lt hlt, numbered, ← hrest]
            exact if_pos hfile
          · rw [groups_body hstart hfile]
            exact (if_neg hfile).trans (ih hunks (some (group.1, group.2 ++ [line])))

/-! ## 3. What git prints -/

inductive SectionKind where
  | plain
  /-- `diff --cc`, of a file that a merge has left in conflict. -/
  | combined
  /-- A line that only names such a file. -/
  | unmerged
deriving DecidableEq

namespace SectionKind

def firstStart : SectionKind → DiffLine
  | .plain => fileStart
  | .combined => ['d', 'i', 'f', 'f', ' ', '-', '-', 'c', 'c', ' ']
  | .unmerged => ['*', ' ', 'U', 'n', 'm', 'e', 'r', 'g', 'e', 'd', ' ', 'p', 'a', 't', 'h', ' ']

/-- A combined hunk has an `@` more for each side that was merged. -/
def headerStart : SectionKind → DiffLine
  | .plain => ['@', '@', ' ', '-']
  | .combined | .unmerged => ['@', '@', '@']

end SectionKind

/-- What the lines between the first line of a section and its hunks begin with. -/
def extendedStarts : List String :=
  ["old mode ", "new mode ", "deleted file mode ", "new file mode ", "copy from ", "copy to ",
    "rename from ", "rename to ", "similarity index ", "dissimilarity index ", "index ", "mode ",
    "--- ", "+++ ", "Binary files "]

/-- What the lines of a hunk begin with: context, added and removed lines, and the note that
    there is no newline at the end of a file. -/
def bodyStarts : List Char := [' ', '+', '-', Char.ofNat 92]

structure DiffHunk (kind : SectionKind) where
  header : DiffLine
  body : List DiffLine
  header_starts : kind.headerStart <+: header
  /-- git can be told to print a blank context line without its space. -/
  body_starts : ∀ line ∈ body, ∀ c ∈ line.head?, c ∈ bodyStarts
  newline_free : ∀ line ∈ header :: body, '\n' ∉ line

def DiffHunk.lines {kind : SectionKind} (hunk : DiffHunk kind) : List DiffLine :=
  hunk.header :: hunk.body

theorem DiffHunk.newline_free_lines {kind : SectionKind} (hunk : DiffHunk kind) :
    ∀ line ∈ hunk.lines, '\n' ∉ line := hunk.newline_free

/-- What git prints for one file. -/
structure FileSection where
  kind : SectionKind
  first : DiffLine
  others : List DiffLine
  hunks : List (DiffHunk kind)
  first_starts : kind.firstStart <+: first
  others_starts : ∀ line ∈ others, ∃ start ∈ extendedStarts, start.toList <+: line
  newline_free : ∀ line ∈ first :: others, '\n' ∉ line

def FileSection.lines (file : FileSection) : List DiffLine :=
  file.first :: file.others ++ file.hunks.flatMap DiffHunk.lines

def diffLines (files : List FileSection) : List DiffLine := files.flatMap FileSection.lines

/-- The text that git prints. -/
def diffText (files : List FileSection) : String := String.ofList (linesText (diffLines files))

/-- The hunks of a diff, each with its lines. -/
def diffHunks (files : List FileSection) : List (List DiffLine) :=
  files.flatMap fun file => file.hunks.map DiffHunk.lines

theorem newline_free_of_mem_diffLines {files : List FileSection} {line : DiffLine}
    (h : line ∈ diffLines files) : '\n' ∉ line := by
  obtain ⟨file, -, hline⟩ := List.mem_flatMap.mp h
  rcases List.mem_append.mp hline with hline | hline
  · exact file.newline_free line hline
  · obtain ⟨hunk, -, hline⟩ := List.mem_flatMap.mp hline
    exact hunk.newline_free line hline

/-! ## 4. How the Node takes the lines -/

/-- The line neither opens nor closes a hunk. -/
structure Passed (line : DiffLine) : Prop where
  not_hunk : ¬ hunkStart.isPrefixOf (stripReturn line)
  not_file : ¬ fileStart.isPrefixOf (stripReturn line)

theorem isPrefixOf_stripReturn_iff {start line : DiffLine} (h : start.getLast? ≠ some '\r') :
    start.isPrefixOf (stripReturn line) ↔ start <+: line := by
  rw [List.isPrefixOf_iff_prefix, isPrefix_stripReturn_iff h]

/-- A line that begins with something that is not the beginning of the other lines, nor they of
    it. -/
theorem not_isPrefix_of_start {start other line : DiffLine} (h : start <+: line)
    (hne : (start.isPrefixOf other || other.isPrefixOf start) = false) : ¬ other <+: line := by
  intro hother
  rw [Bool.or_eq_false_iff] at hne
  rcases List.prefix_or_prefix_of_prefix h hother with hs | hs
  · rw [List.isPrefixOf_iff_prefix.mpr hs] at hne
    cases hne.1
  · rw [List.isPrefixOf_iff_prefix.mpr hs] at hne
    cases hne.2

def apart (start : DiffLine) : Bool :=
  !(start.isPrefixOf hunkStart || hunkStart.isPrefixOf start) &&
    !(start.isPrefixOf fileStart || fileStart.isPrefixOf start)

theorem passed_of_start {start line : DiffLine} (h : start <+: line) (hapart : apart start) :
    Passed line := by
  simp only [apart, Bool.and_eq_true, Bool.not_eq_true'] at hapart
  constructor
  · rw [isPrefixOf_stripReturn_iff (by decide)]
    exact not_isPrefix_of_start h hapart.1
  · rw [isPrefixOf_stripReturn_iff (by decide)]
    exact not_isPrefix_of_start h hapart.2

theorem apart_extendedStarts : ∀ start ∈ extendedStarts, apart start.toList := by decide

theorem SectionKind.apart_starts {kind : SectionKind} (h : kind ≠ .plain) :
    apart kind.firstStart ∧ apart kind.headerStart := by
  cases kind with
  | plain => exact absurd rfl h
  | combined => decide
  | unmerged => decide

theorem FileSection.passed_of_mem_others (file : FileSection) {line : DiffLine}
    (h : line ∈ file.others) : Passed line := by
  obtain ⟨start, hmem, hstart⟩ := file.others_starts line h
  exact passed_of_start hstart (apart_extendedStarts start hmem)

theorem DiffHunk.passed_of_mem_body {kind : SectionKind} (hunk : DiffHunk kind) {line : DiffLine}
    (h : line ∈ hunk.body) : Passed line := by
  cases line with
  | nil => exact ⟨by decide, by decide⟩
  | cons c line =>
    have hc := hunk.body_starts (c :: line) h c rfl
    have hapart : apart [c] := by
      simp only [bodyStarts, List.mem_cons, List.not_mem_nil, or_false] at hc
      rcases hc with rfl | rfl | rfl | rfl <;> decide
    exact passed_of_start (List.prefix_append [c] line) hapart

/-- All lines of a section that does not begin with `diff --git `. -/
theorem FileSection.passed_of_mem_lines (file : FileSection) (h : file.kind ≠ .plain)
    {line : DiffLine} (hline : line ∈ file.lines) : Passed line := by
  obtain ⟨hfirst, hheader⟩ := SectionKind.apart_starts h
  rcases List.mem_append.mp hline with hline | hline
  · rcases List.mem_cons.mp hline with rfl | hline
    · exact passed_of_start file.first_starts hfirst
    · exact file.passed_of_mem_others hline
  · obtain ⟨hunk, -, hline⟩ := List.mem_flatMap.mp hline
    rcases List.mem_cons.mp hline with rfl | hline
    · exact passed_of_start hunk.header_starts hheader
    · exact hunk.passed_of_mem_body hline

/-- The group with more lines put to it. -/
def extended (lines : List DiffLine) (group : DiffLine × List DiffLine) :
    DiffLine × List DiffLine :=
  (group.1, group.2 ++ lines.map stripReturn)

theorem groups_passed {lines : List DiffLine} (h : ∀ line ∈ lines, Passed line)
    (opened : Option (DiffLine × List DiffLine)) (rest : List DiffLine) :
    groups opened (lines.map stripReturn ++ rest) = groups (opened.map (extended lines)) rest := by
  induction lines generalizing opened with
  | nil => cases opened <;> simp [extended]
  | cons line lines ih =>
    have hline := h line List.mem_cons_self
    have hlines := ih fun other hother => h other (List.mem_cons_of_mem _ hother)
    rw [List.map_cons, List.cons_append]
    cases opened with
    | none =>
      rw [groups_none hline.not_hunk, hlines]
      rfl
    | some group =>
      rw [groups_body hline.not_hunk hline.not_file, hlines]
      simp [extended]

/-- The sections up to the next one that begins with `diff --git `. -/
def unclosed (files : List FileSection) : List FileSection :=
  files.takeWhile fun file => file.kind != .plain

/-- A hunk of a diff, and the sections behind it that do not close it. -/
structure Place where
  kind : SectionKind
  hunk : DiffHunk kind
  behind : List FileSection

/-- What the Node takes for the hunk. -/
def Place.group (place : Place) : DiffLine × List DiffLine :=
  (stripReturn place.hunk.header,
    (place.hunk.body ++ diffLines place.behind).map stripReturn)

/-- The last hunk of a section is left open. -/
def placeHunks {kind : SectionKind} (behind : List FileSection) :
    List (DiffHunk kind) → List Place
  | [] => []
  | [hunk] => [⟨kind, hunk, behind⟩]
  | hunk :: next :: hunks => ⟨kind, hunk, []⟩ :: placeHunks behind (next :: hunks)

def places : List FileSection → List Place
  | [] => []
  | file :: files => placeHunks (unclosed files) file.hunks ++ places files

def Place.isPlain (place : Place) : Bool := place.kind = .plain

/-- The groups of sections: what is open takes the sections that do not close it, and each plain
    hunk gives a group. -/
def Grouped (files : List FileSection) : Prop :=
  ∀ opened, groups opened ((diffLines files).map stripReturn) =
    (opened.map (extended (diffLines (unclosed files)))).toList ++
      ((places files).filter Place.isPlain).map Place.group

theorem kind_of_mem_placeHunks {kind : SectionKind} {behind : List FileSection}
    {hunks : List (DiffHunk kind)} {place : Place} (h : place ∈ placeHunks behind hunks) :
    place.kind = kind := by
  fun_induction placeHunks behind hunks with
  | case1 => cases h
  | case2 hunk => rw [List.mem_singleton.mp h]
  | case3 hunk next hunks ih =>
    rcases List.mem_cons.mp h with rfl | h
    · rfl
    · exact ih h

theorem filter_placeHunks_plain (behind : List FileSection) (hunks : List (DiffHunk .plain)) :
    (placeHunks behind hunks).filter Place.isPlain = placeHunks behind hunks :=
  List.filter_eq_self.mpr fun place hplace => by
    rw [Place.isPlain, kind_of_mem_placeHunks hplace]
    rfl

/-- The hunks of a plain section, behind a group that may be open. -/
theorem groups_hunks {files : List FileSection} (h : Grouped files)
    (hunks : List (DiffHunk .plain)) (opened : Option (DiffLine × List DiffLine)) :
    groups opened ((hunks.flatMap DiffHunk.lines ++ diffLines files).map stripReturn) =
      (if hunks = [] then opened.map (extended (diffLines (unclosed files))) else opened).toList ++
        (placeHunks (unclosed files) hunks ++
          (places files).filter Place.isPlain).map Place.group := by
  induction hunks generalizing opened with
  | nil => exact h opened
  | cons hunk hunks ih =>
    have hheader : hunkStart.isPrefixOf (stripReturn hunk.header) := by
      rw [isPrefixOf_stripReturn_iff (by decide)]
      exact (by decide : hunkStart <+: SectionKind.plain.headerStart).trans hunk.header_starts
    rw [List.flatMap_cons, DiffHunk.lines, List.cons_append, List.cons_append, List.map_cons,
      groups_hunk hheader, List.append_assoc, List.map_append,
      groups_passed fun _ hline => hunk.passed_of_mem_body hline, ih, if_neg (List.cons_ne_nil _ _)]
    congr 1
    cases hunks with
    | nil => simp [placeHunks, Place.group, extended]
    | cons next hunks => simp [placeHunks, Place.group, extended, diffLines]

/-- The first line of a plain section closes what is open. -/
theorem groups_plain {file : FileSection} (hkind : file.kind = .plain) {files : List FileSection}
    (h : Grouped files) (opened : Option (DiffLine × List DiffLine)) :
    groups opened ((file.lines ++ diffLines files).map stripReturn) =
      (opened.map (extended (diffLines []))).toList ++
        ((placeHunks (unclosed files) file.hunks).filter Place.isPlain ++
          (places files).filter Place.isPlain).map Place.group := by
  have hothers := fun line (hline : line ∈ file.others) => file.passed_of_mem_others hline
  obtain ⟨kind, first, others, hunks, hfirst, _, _⟩ := file
  obtain rfl : kind = .plain := hkind
  have hfile : fileStart.isPrefixOf (stripReturn first) := by
    rw [isPrefixOf_stripReturn_iff (by decide)]
    exact hfirst
  have hnot : ¬ hunkStart.isPrefixOf (stripReturn first) := by
    rw [isPrefixOf_stripReturn_iff (by decide)]
    exact not_isPrefix_of_start hfirst (by decide)
  have hrest : groups none ((others ++ hunks.flatMap DiffHunk.lines ++ diffLines files).map
      stripReturn) = (placeHunks (unclosed files) hunks ++
        (places files).filter Place.isPlain).map Place.group := by
    rw [List.append_assoc, List.map_append, groups_passed hothers, Option.map_none,
      groups_hunks h]
    simp
  rw [filter_placeHunks_plain, FileSection.lines, List.cons_append, List.cons_append,
    List.map_cons]
  cases opened with
  | none => rw [groups_none hnot, hrest]; rfl
  | some group => rw [groups_file hnot hfile, hrest]; simp [extended, diffLines]

theorem grouped (files : List FileSection) : Grouped files := by
  induction files with
  | nil =>
    intro opened
    cases opened <;> simp [diffLines, groups_nil, unclosed, places, extended]
  | cons file files ih =>
    intro opened
    rw [diffLines, List.flatMap_cons, ← diffLines, places, unclosed, List.takeWhile_cons]
    by_cases hkind : file.kind = .plain
    · rw [if_neg (by simp [hkind]), List.filter_append]
      exact groups_plain hkind ih opened
    · have hrest : (placeHunks (unclosed files) file.hunks).filter Place.isPlain = [] := by
        rw [List.filter_eq_nil_iff]
        intro place hplace
        simp [Place.isPlain, kind_of_mem_placeHunks hplace, hkind]
      rw [List.map_append, groups_passed fun _ hline => file.passed_of_mem_lines hkind hline, ih,
        List.filter_append, hrest, List.nil_append, if_pos (by simpa using hkind), ← unclosed]
      cases opened <;> simp [extended, diffLines]

/-- **The hunks that the Node makes of a diff.** -/
theorem parseWorkspaceDiffHunks_eq (diffId : String) (files : List FileSection) :
    parseWorkspaceDiffHunks diffId (diffText files) =
      numbered diffId 0
        ((((places files).filter Place.isPlain).map Place.group).take maxWorkspaceDiffHunks) := by
  have hlines : textLines [] (linesText (diffLines files)) = (diffLines files).map stripReturn :=
    textLines_linesText fun _ hline => newline_free_of_mem_diffLines hline
  have hparsed := parseHunkLines_eq diffId ((diffLines files).map stripReturn) [] none
  rw [parseWorkspaceDiffHunks, diffText, String.toList_ofList, hlines]
  rw [grouped] at hparsed
  exact hparsed

/-! ## 5. The law -/

def linesString (lines : List DiffLine) : String := String.ofList (linesText lines)

/-- The hunks that the Node reports are the hunks of the diff. -/
structure FaithfulSplit (diffId : String) (files : List FileSection) : Prop where
  /-- In order and up to the limit, each with its header and its lines. -/
  patches : (parseWorkspaceDiffHunks diffId (diffText files)).map (·.patch) =
    ((diffHunks files).map linesString).take maxWorkspaceDiffHunks
  headers : ∀ hunk ∈ parseWorkspaceDiffHunks diffId (diffText files),
    '\n' ∉ hunk.header.toList ∧ ∃ rest, hunk.patch = hunk.header ++ "\n" ++ rest
  ids : ((parseWorkspaceDiffHunks diffId (diffText files)).map (·.hunkId)).Nodup

/-- The text of the hunk is what the Node takes for it: it is not of a combined diff, none of its
    lines ends in a carriage return, and a section that follows begins with `diff --git `. -/
structure Place.Clean (place : Place) : Prop where
  plain : place.kind = .plain
  no_return : ∀ line ∈ place.hunk.lines, line.getLast? ≠ some '\r'
  closed : place.behind = []

theorem map_patch_numbered (diffId : String) (count : Nat)
    (found : List (DiffLine × List DiffLine)) :
    (numbered diffId count found).map (·.patch) =
      found.map fun group => linesString (group.1 :: group.2) := by
  induction found generalizing count with
  | nil => rfl
  | cons group found ih => rw [numbered, List.map_cons, ih]; rfl

theorem exists_of_mem_numbered {diffId : String} {count : Nat}
    {found : List (DiffLine × List DiffLine)} {hunk : WorkspaceDiffHunk}
    (h : hunk ∈ numbered diffId count found) :
    ∃ number group, count ≤ number ∧ group ∈ found ∧ hunk = groupHunk diffId number group := by
  induction found generalizing count with
  | nil => cases h
  | cons group found ih =>
    rcases List.mem_cons.mp h with rfl | h
    · exact ⟨count, group, Nat.le_refl _, List.mem_cons_self, rfl⟩
    · obtain ⟨number, other, hle, hmem, rfl⟩ := ih h
      exact ⟨number, other, by omega, List.mem_cons_of_mem _ hmem, rfl⟩

theorem nodup_ids_numbered (diffId : String) (count : Nat)
    (found : List (DiffLine × List DiffLine)) :
    ((numbered diffId count found).map (·.hunkId)).Nodup := by
  induction found generalizing count with
  | nil => exact List.nodup_nil
  | cons group found ih =>
    rw [numbered, List.map_cons, List.nodup_cons]
    refine ⟨fun hmem => ?_, ih (count + 1)⟩
    obtain ⟨hunk, hhunk, hid⟩ := List.mem_map.mp hmem
    obtain ⟨number, other, hle, -, rfl⟩ := exists_of_mem_numbered hhunk
    have hnumber : number + 1 = count + 1 :=
      Lib.toString_injective ((String.append_right_inj (diffId ++ ":hunk-")).mp hid)
    omega

theorem exists_rest_linesString (header : DiffLine) (body : List DiffLine) :
    ∃ rest, linesString (header :: body) = String.ofList header ++ "\n" ++ rest :=
  ⟨linesString body, String.toList_inj.mp (by simp [linesString, linesText])⟩

theorem append_newline_inj {line other rest others : List Char} (hline : '\n' ∉ line)
    (hother : '\n' ∉ other) (h : line ++ '\n' :: rest = other ++ '\n' :: others) :
    line = other ∧ rest = others := by
  induction line generalizing other with
  | nil =>
    cases other with
    | nil => exact ⟨rfl, List.tail_eq_of_cons_eq h⟩
    | cons c other =>
      have hc : '\n' = c := List.head_eq_of_cons_eq h
      exact absurd (hc ▸ List.mem_cons_self) hother
  | cons c line ih =>
    cases other with
    | nil =>
      have hc : c = '\n' := List.head_eq_of_cons_eq h
      exact absurd (hc ▸ List.mem_cons_self) hline
    | cons d other =>
      obtain ⟨hfirst, hrest⟩ := ih (fun m => hline (List.mem_cons_of_mem _ m))
        (fun m => hother (List.mem_cons_of_mem _ m)) (List.tail_eq_of_cons_eq h)
      exact ⟨by rw [List.head_eq_of_cons_eq h, hfirst], hrest⟩

/-- A text gives back the lines that it is made of. -/
theorem linesText_injOn {lines others : List DiffLine} (hlines : ∀ line ∈ lines, '\n' ∉ line)
    (hothers : ∀ line ∈ others, '\n' ∉ line) (h : linesText lines = linesText others) :
    lines = others := by
  induction lines generalizing others with
  | nil =>
    cases others with
    | nil => rfl
    | cons other others => simp [linesText] at h
  | cons line lines ih =>
    cases others with
    | nil => simp [linesText] at h
    | cons other others =>
      rw [List.forall_mem_cons] at hlines hothers
      simp only [linesText, List.flatMap_cons, List.append_assoc, List.singleton_append] at h
      obtain ⟨hline, hrest⟩ := append_newline_inj hlines.1 hothers.1 h
      rw [hline, ih hlines.2 hothers.2 hrest]

theorem linesString_eq_iff {lines others : List DiffLine} (hlines : ∀ line ∈ lines, '\n' ∉ line)
    (hothers : ∀ line ∈ others, '\n' ∉ line) :
    linesString lines = linesString others ↔ lines = others :=
  ⟨fun h => linesText_injOn hlines hothers (String.ofList_inj.mp h), fun h => by rw [h]⟩

theorem map_stripReturn_eq_self_iff (lines : List DiffLine) :
    lines.map stripReturn = lines ↔ ∀ line ∈ lines, line.getLast? ≠ some '\r' := by
  have hid : lines.map stripReturn = lines.map id ↔ ∀ line ∈ lines, stripReturn line = line :=
    List.map_inj_left
  rw [List.map_id] at hid
  rw [hid]
  exact forall₂_congr fun line _ => stripReturn_eq_self_iff line

theorem FileSection.lines_ne_nil (file : FileSection) : file.lines ≠ [] := List.cons_ne_nil _ _

theorem diffLines_eq_nil_iff (files : List FileSection) : diffLines files = [] ↔ files = [] := by
  cases files with
  | nil => exact iff_of_true rfl rfl
  | cons file files => simp [diffLines, file.lines_ne_nil]

theorem newline_free_group (place : Place) :
    ∀ line ∈ place.group.1 :: place.group.2, '\n' ∉ line := by
  intro line hline
  have hmem : line ∈ (place.hunk.header :: (place.hunk.body ++ diffLines place.behind)).map
      stripReturn := hline
  obtain ⟨full, hfull, rfl⟩ := List.mem_map.mp hmem
  apply not_mem_stripReturn
  rw [← List.cons_append] at hfull
  rcases List.mem_append.mp hfull with h | h
  · exact place.hunk.newline_free full h
  · exact newline_free_of_mem_diffLines h

/-- What the Node takes for a plain hunk is the hunk exactly when the place is clean. -/
theorem group_eq_lines_iff {place : Place} (h : place.kind = .plain) :
    place.group.1 :: place.group.2 = place.hunk.lines ↔ place.Clean := by
  have hgroup : place.group.1 :: place.group.2 =
      (place.hunk.lines ++ diffLines place.behind).map stripReturn := rfl
  rw [hgroup]
  constructor
  · intro heq
    have hbehind : diffLines place.behind = [] := by
      have hlen := congrArg List.length heq
      rw [List.length_map, List.length_append] at hlen
      exact List.eq_nil_of_length_eq_zero (by omega)
    rw [hbehind, List.append_nil, map_stripReturn_eq_self_iff] at heq
    exact ⟨h, heq, (diffLines_eq_nil_iff _).mp hbehind⟩
  · intro hclean
    rw [hclean.closed, (diffLines_eq_nil_iff []).mpr rfl, List.append_nil,
      map_stripReturn_eq_self_iff]
    exact hclean.no_return

/-- What the Node takes for a hunk is no hunk of a combined section. -/
theorem group_ne_lines {place other : Place} (hplace : place.kind = .plain)
    (hother : other.kind ≠ .plain) : place.group.1 :: place.group.2 ≠ other.hunk.lines := by
  intro heq
  have hheader : stripReturn place.hunk.header = other.hunk.header := (List.cons.inj heq).1
  have hplain : hunkStart <+: stripReturn place.hunk.header := by
    rw [isPrefix_stripReturn_iff (by decide)]
    have hstart : hunkStart <+: place.kind.headerStart := by
      rw [hplace]
      decide
    exact hstart.trans place.hunk.header_starts
  have hcombined : ¬ hunkStart <+: other.hunk.header := by
    refine not_isPrefix_of_start other.hunk.header_starts ?_
    have hkind := (SectionKind.apart_starts hother).2
    simp only [apart, Bool.and_eq_true, Bool.not_eq_true'] at hkind
    exact hkind.1
  exact hcombined (hheader ▸ hplain)

/-- The patches of the Node and those of the diff, up to a number of them. -/
theorem take_patches_eq_iff (found : List Place) (n : Nat) :
    (((found.filter Place.isPlain).map Place.group).take n).map
        (fun group => linesString (group.1 :: group.2)) =
      (found.map fun place => linesString place.hunk.lines).take n ↔
    ∀ place ∈ found.take n, place.Clean := by
  induction found generalizing n with
  | nil => simp
  | cons place found ih =>
    cases n with
    | zero => simp
    | succ n =>
      rw [List.map_cons, List.take_succ_cons, List.take_succ_cons, List.forall_mem_cons]
      by_cases hplain : place.kind = .plain
      · rw [List.filter_cons_of_pos (by simpa [Place.isPlain] using hplain), List.map_cons,
          List.take_succ_cons, List.map_cons, List.cons.injEq, ih,
          linesString_eq_iff (newline_free_group place) place.hunk.newline_free_lines,
          group_eq_lines_iff hplain]
      · refine iff_of_false (fun heq => ?_) fun hclean => hplain hclean.1.plain
        have hmem : linesString place.hunk.lines ∈
            (((place :: found).filter Place.isPlain).map Place.group |>.take (n + 1)).map
              (fun group => linesString (group.1 :: group.2)) := by
          rw [heq]
          exact List.mem_cons_self
        obtain ⟨group, hgroup, htext⟩ := List.mem_map.mp hmem
        obtain ⟨other, hother, rfl⟩ := List.mem_map.mp (List.mem_of_mem_take hgroup)
        have hkind : other.kind = .plain := by
          simpa [Place.isPlain] using (List.mem_filter.mp hother).2
        exact group_ne_lines hkind hplain
          ((linesString_eq_iff (newline_free_group other) place.hunk.newline_free_lines).mp htext)

theorem map_placeHunks {kind : SectionKind} (behind : List FileSection)
    (hunks : List (DiffHunk kind)) :
    (placeHunks behind hunks).map (fun place => place.hunk.lines) = hunks.map DiffHunk.lines := by
  fun_induction placeHunks behind hunks with
  | case1 => rfl
  | case2 => rfl
  | case3 hunk next hunks ih => rw [List.map_cons, ih]; rfl

theorem map_places (files : List FileSection) :
    (places files).map (fun place => place.hunk.lines) = diffHunks files := by
  induction files with
  | nil => rfl
  | cons file files ih => rw [places, List.map_append, map_placeHunks, ih]; rfl

/-- **The hunks that the Node reports are the hunks of the diff exactly when all places are
    clean that the limit leaves.** Headers and ids are right in every case. -/
theorem faithfulSplit_iff (diffId : String) (files : List FileSection) :
    FaithfulSplit diffId files ↔
      ∀ place ∈ (places files).take maxWorkspaceDiffHunks, place.Clean := by
  have hpatches : (parseWorkspaceDiffHunks diffId (diffText files)).map (·.patch) =
      ((diffHunks files).map linesString).take maxWorkspaceDiffHunks ↔
      ∀ place ∈ (places files).take maxWorkspaceDiffHunks, place.Clean := by
    rw [parseWorkspaceDiffHunks_eq, map_patch_numbered, ← map_places, List.map_map]
    exact take_patches_eq_iff (places files) maxWorkspaceDiffHunks
  refine ⟨fun h => hpatches.mp h.patches, fun h => ⟨hpatches.mpr h, ?_, ?_⟩⟩
  · intro hunk hhunk
    rw [parseWorkspaceDiffHunks_eq] at hhunk
    obtain ⟨number, group, -, hgroup, rfl⟩ := exists_of_mem_numbered hhunk
    obtain ⟨place, -, rfl⟩ := List.mem_map.mp (List.mem_of_mem_take hgroup)
    refine ⟨?_, exists_rest_linesString _ _⟩
    have hheader : (groupHunk diffId number place.group).header.toList = place.group.1 :=
      String.toList_ofList
    rw [hheader]
    exact newline_free_group place _ List.mem_cons_self
  · rw [parseWorkspaceDiffHunks_eq]
    exact nodup_ids_numbered diffId 0 _

theorem newline_free_of_all {lines : List DiffLine}
    (h : (lines.all fun line => line.all (· != '\n')) = true) : ∀ line ∈ lines, '\n' ∉ line := by
  intro line hline hmem
  have hline := List.all_eq_true.mp (List.all_eq_true.mp h line hline) _ hmem
  exact absurd rfl (bne_iff_ne.mp hline)

theorem body_starts_of_all {body : List DiffLine}
    (h : (body.all fun line => line.head?.all bodyStarts.contains) = true) :
    ∀ line ∈ body, ∀ c ∈ line.head?, c ∈ bodyStarts := by
  intro line hline c hc
  have hhead := List.all_eq_true.mp h line hline
  rw [Option.mem_def.mp hc] at hhead
  exact List.contains_iff_mem.mp hhead

/-- A changed file, and behind it a file in conflict. -/
def plainFile : FileSection where
  kind := .plain
  first := "diff --git a/a b/a".toList
  others := ["--- a/a".toList, "+++ b/a".toList]
  hunks := [{
    header := "@@ -1 +1 @@".toList
    body := ["-a".toList, "+b".toList]
    header_starts := by decide
    body_starts := body_starts_of_all rfl
    newline_free := newline_free_of_all rfl }]
  first_starts := by decide
  others_starts := by decide
  newline_free := newline_free_of_all rfl

def conflictedFile : FileSection where
  kind := .combined
  first := "diff --cc c".toList
  others := ["--- a/c".toList, "+++ b/c".toList]
  hunks := [{
    header := "@@@ -1,1 -1,1 +1,2 @@@".toList
    body := ["- x".toList, " -y".toList, "++z".toList]
    header_starts := by decide
    body_starts := body_starts_of_all rfl
    newline_free := newline_free_of_all rfl }]
  first_starts := by decide
  others_starts := by decide
  newline_free := newline_free_of_all rfl

/-- The section of the file in conflict is put to the hunk before it, and its own hunk is not
    reported. -/
theorem conflicted_section_joined : ¬ FaithfulSplit "diff" [plainFile, conflictedFile] := by
  intro h
  have hfound : ((places [plainFile, conflictedFile]).filter Place.isPlain).length = 1 := by
    decide
  have hhunks : (diffHunks [plainFile, conflictedFile]).length = 2 := by decide
  have hlength := congrArg List.length h.patches
  rw [parseWorkspaceDiffHunks_eq, map_patch_numbered] at hlength
  simp only [List.length_map, List.length_take, hfound, hhunks, maxWorkspaceDiffHunks] at hlength
  omega

end Uprava.Node
