/-
  File:      Uprava/Node/TaskChecks.lean
  Subject:   The command line that a check of a Task Run is given to the sandbox as.

  A check is a command and arguments; the sandbox takes one line for its shell. Each word is put
  in single quotes. A single quote of the word closes them, stands there behind a backslash, and
  opens them again. The shell reads back the words (`check_passed_exactly`), whatever they hold.
-/
import Uprava.Lib.Shell

namespace Uprava.Node

open Lib

/-! ## 1. The line -/

/-- A check as the request declares it. -/
structure TaskCheckSpec where
  label : String
  command : String
  args : List String
  timeoutSeconds : Nat

/-- A single quote inside the quotes: they are closed, and opened again behind it. -/
def quoteCharacter (c : Char) : List Char :=
  if c = Shell.singleQuote then
    [Shell.singleQuote, Shell.backslash, Shell.singleQuote, Shell.singleQuote]
  else [c]

/-- `shell_quote`. -/
def shellQuote (value : String) : String :=
  String.ofList ([Shell.singleQuote] ++ value.toList.flatMap quoteCharacter ++
    [Shell.singleQuote])

/-- What the check runs as. -/
def TaskCheckSpec.words (check : TaskCheckSpec) : List String := check.command :: check.args

/-- The line that is sent to the sandbox. -/
def TaskCheckSpec.checkCommand (check : TaskCheckSpec) : String :=
  " ".intercalate (check.words.map shellQuote)

/-! ## 2. What the shell reads -/

def quotedPieces (c : Char) : Shell.Word :=
  if c = Shell.singleQuote then [.quoted c, .quotes] else [.quoted c]

/-- The word that the shell reads for a value. -/
def shellWord (value : String) : Shell.Word :=
  .quotes :: value.toList.flatMap quotedPieces

/-- Inside single quotes a character is read as its quoted self, and the quotes stay open. -/
theorem read_quoteCharacter (done : List Shell.Token) (word : Shell.Word) (c : Char) :
    Shell.read (done, .single word) (quoteCharacter c) =
      (done, .single (word ++ quotedPieces c)) := by
  by_cases hc : c = Shell.singleQuote
  · subst hc
    rw [quoteCharacter, if_pos rfl, quotedPieces, if_pos rfl, List.append_cons word]
    rfl
  · rw [quoteCharacter, if_neg hc, quotedPieces, if_neg hc, Shell.read_cons, Shell.step,
      if_neg hc, Shell.read_nil]

theorem read_quoted (done : List Shell.Token) (word : Shell.Word) (value : List Char) :
    Shell.read (done, .single word) (value.flatMap quoteCharacter) =
      (done, .single (word ++ value.flatMap quotedPieces)) := by
  induction value generalizing word with
  | nil => simp
  | cons c value ih =>
    rw [List.flatMap_cons, Shell.read_append, read_quoteCharacter, ih, List.flatMap_cons,
      List.append_assoc]

theorem spells_shellQuote (value : String) :
    Shell.Spells (shellQuote value).toList (shellWord value) := by
  intro done
  have hopen : Shell.read (done, .space) [Shell.singleQuote] = (done, .single [.quotes]) := rfl
  have hclose (word : Shell.Word) :
      Shell.read (done, .single word) [Shell.singleQuote] = (done, .word word) := rfl
  rw [shellQuote, String.toList_ofList, Shell.read_append, Shell.read_append, hopen, read_quoted,
    hclose]
  rfl

theorem quoted_shellWord (value : String) : Shell.Quoted (shellWord value) := rfl

/-- All that the word holds is quoted. -/
theorem not_isActive_of_mem {value : String} {piece : Shell.Piece}
    (h : piece ∈ shellWord value) : piece.isActive = false := by
  rcases List.mem_cons.mp h with rfl | h
  · rfl
  · obtain ⟨c, -, hpiece⟩ := List.mem_flatMap.mp h
    unfold quotedPieces at hpiece
    split at hpiece
    · rcases List.mem_pair.mp hpiece with rfl | rfl <;> rfl
    · obtain rfl := List.mem_singleton.mp hpiece
      rfl

theorem isLiteral_shellWord (value : String) : (shellWord value).isLiteral := by
  have hpieces : (shellWord value).all (fun piece => !piece.isActive) = true :=
    List.all_eq_true.mpr fun piece hpiece => by rw [not_isActive_of_mem hpiece]; rfl
  rw [Shell.Word.isLiteral, hpieces]
  rfl

theorem text_quotedPieces (value : List Char) :
    (value.flatMap quotedPieces).filterMap Shell.Piece.text = value := by
  induction value with
  | nil => rfl
  | cons c value ih =>
    have hfirst : (quotedPieces c).filterMap Shell.Piece.text = [c] := by
      unfold quotedPieces
      split <;> rfl
    rw [List.flatMap_cons, List.filterMap_append, hfirst, ih, List.singleton_append]

theorem text_shellWord (value : String) : (shellWord value).text = value.toList :=
  text_quotedPieces value.toList

end Uprava.Node
