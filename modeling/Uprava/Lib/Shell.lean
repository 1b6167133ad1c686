/-
  File:      Uprava/Lib/Shell.lean
  Subject:   How a POSIX shell reads a command line.

  The token recognition of the shell command language, one character at a time: quoting, line
  continuation, comments, operators, and the places where an expansion begins. The tokens are
  then cut into commands, and a command into assignments, redirections and words.

  What an expansion gives is not followed: a word says only that one begins. A line for which
  the shell reports a syntax error between its commands is not told from one that it runs.

  Main result: `passes_joined`, a line of quoted words with blanks between them is one simple
  command that has these words.
-/
import Mathlib.Data.List.Forall2

namespace Uprava.Lib.Shell

/-! ## 1. Words and tokens -/

def singleQuote : Char := Char.ofNat 39
def doubleQuote : Char := Char.ofNat 34
def backslash : Char := Char.ofNat 92
def backquote : Char := Char.ofNat 96

/-- A part of a word. -/
inductive Piece where
  /-- Stands outside of quotes. -/
  | bare (c : Char)
  /-- Stands for itself. -/
  | quoted (c : Char)
  /-- Quotes open here; there may be nothing between them. -/
  | quotes
  /-- `$` or a backquote, outside of single quotes. -/
  | expansion (c : Char)
deriving DecidableEq

namespace Piece

def isBare : Piece → Bool
  | .bare _ => true
  | _ => false

/-- What quote removal leaves of it. -/
def text : Piece → Option Char
  | .bare c | .quoted c | .expansion c => some c
  | .quotes => none

/-- A file name pattern or an expansion, where it is not quoted. -/
def isActive : Piece → Bool
  | .bare c => c = '*' || c = '?' || c = '['
  | .expansion _ => true
  | _ => false

end Piece

abbrev Word := List Piece

namespace Word

def text (word : Word) : List Char := word.filterMap Piece.text

/-- Nothing is put in the place of any part of the word. -/
def isLiteral (word : Word) : Bool :=
  word.all (fun piece => !piece.isActive) && word.head? != some (.bare '~')

end Word

inductive Token where
  | word (pieces : Word)
  /-- Digits directly before `<` or `>`. -/
  | ioNumber (pieces : Word)
  | operator (text : List Char)
  | newline
deriving DecidableEq

def operators : List (List Char) :=
  [['&', '&'], ['|', '|'], [';', ';'], ['<', '<'], ['>', '>'], ['<', '&'], ['>', '&'],
    ['<', '>'], ['<', '<', '-'], ['>', '|'], ['&'], ['|'], [';'], ['<'], ['>'], ['('], [')']]

/-! ## 2. Token recognition -/

/-- Where the reader stands. -/
inductive Mode where
  | space
  | comment
  | operator (text : List Char)
  | word (pieces : Word)
  | single (pieces : Word)
  | double (pieces : Word)
  | doubleEscape (pieces : Word)
  /-- Behind a backslash outside of quotes. -/
  | escape (before : Mode)
deriving DecidableEq

/-- The tokens so far and where the reader stands. -/
abbrev Reading := List Token × Mode

def extendsOperator (text : List Char) (c : Char) : Bool :=
  operators.any fun operator => (text ++ [c]).isPrefixOf operator

def isBlank (c : Char) : Bool := c = ' ' || c = '\t'

/-- A character of a word, outside of quotes. -/
def inWord (pieces : Word) (c : Char) : Mode :=
  if c = backslash then .escape (.word pieces)
  else if c = singleQuote then .single (pieces ++ [.quotes])
  else if c = doubleQuote then .double (pieces ++ [.quotes])
  else if c = '$' ∨ c = backquote then .word (pieces ++ [.expansion c])
  else .word (pieces ++ [.bare c])

/-- A character where no token is open. -/
def fresh (done : List Token) (c : Char) : Reading :=
  if c = '\n' then (done ++ [.newline], .space)
  else if isBlank c then (done, .space)
  else if c = '#' then (done, .comment)
  else if c = backslash then (done, .escape .space)
  else if extendsOperator [] c then (done, .operator [c])
  else (done, inWord [] c)

def isNumber (pieces : Word) : Bool :=
  pieces != [] && pieces.all fun
    | .bare c => c.isDigit
    | _ => false

/-- The token that a word is when a character ends it. -/
def ended (pieces : Word) (c : Char) : Token :=
  if (c = '<' ∨ c = '>') ∧ isNumber pieces then .ioNumber pieces else .word pieces

/-- The character behind a backslash. A newline is dropped together with the backslash. -/
def escaped (done : List Token) (before : Mode) (c : Char) : Reading :=
  if c = '\n' then (done, before)
  else
    match before with
    | .word pieces => (done, .word (pieces ++ [.quoted c]))
    | .operator text => (done ++ [.operator text], .word [.quoted c])
    | _ => (done, .word [.quoted c])

def step : Reading → Char → Reading
  | (done, .space), c => fresh done c
  | (done, .comment), c => if c = '\n' then (done ++ [.newline], .space) else (done, .comment)
  | (done, .operator text), c =>
    if c = backslash then (done, .escape (.operator text))
    else if extendsOperator text c then (done, .operator (text ++ [c]))
    else fresh (done ++ [.operator text]) c
  | (done, .word pieces), c =>
    if c = '\n' ∨ isBlank c ∨ extendsOperator [] c then fresh (done ++ [ended pieces c]) c
    else (done, inWord pieces c)
  | (done, .single pieces), c =>
    if c = singleQuote then (done, .word pieces) else (done, .single (pieces ++ [.quoted c]))
  | (done, .double pieces), c =>
    if c = doubleQuote then (done, .word pieces)
    else if c = backslash then (done, .doubleEscape pieces)
    else if c = '$' ∨ c = backquote then (done, .double (pieces ++ [.expansion c]))
    else (done, .double (pieces ++ [.quoted c]))
  | (done, .doubleEscape pieces), c =>
    if c = '\n' then (done, .double pieces)
    else if c = '$' ∨ c = backquote ∨ c = doubleQuote ∨ c = backslash then
      (done, .double (pieces ++ [.quoted c]))
    else (done, .double (pieces ++ [.quoted backslash, .quoted c]))
  | (done, .escape before), c => escaped done before c

/-- A line, from where the reader stands. -/
def read (reading : Reading) (line : List Char) : Reading := line.foldl step reading

@[simp] theorem read_nil (reading : Reading) : read reading [] = reading := rfl

@[simp] theorem read_cons (reading : Reading) (c : Char) (line : List Char) :
    read reading (c :: line) = read (step reading c) line := rfl

@[simp] theorem read_append (reading : Reading) (line rest : List Char) :
    read reading (line ++ rest) = read (read reading line) rest := List.foldl_append

/-- What the end of the line makes of it. Open quotes are an error. -/
def finish : Reading → Option (List Token)
  | (done, .space) | (done, .comment) => some done
  | (done, .operator text) => some (done ++ [.operator text])
  | (done, .word pieces) => some (done ++ [.word pieces])
  | (_, .single _) | (_, .double _) | (_, .doubleEscape _) | (_, .escape _) => none

def tokens (line : List Char) : Option (List Token) := finish (read ([], .space) line)

/-! ## 3. Commands -/

structure SimpleCommand where
  assignments : List Word
  redirections : List (List Char × Option Word)
  words : List Word
deriving DecidableEq

inductive Command where
  | simple (command : SimpleCommand)
  /-- It begins with a reserved word, or has parentheses. -/
  | compound (tokens : List Token)
deriving DecidableEq

def reservedWords : List (List Char) :=
  [['!'], [Char.ofNat 123], [Char.ofNat 125], ['c', 'a', 's', 'e'], ['d', 'o'],
    ['d', 'o', 'n', 'e'], ['e', 'l', 'i', 'f'], ['e', 'l', 's', 'e'], ['e', 's', 'a', 'c'],
    ['f', 'i'], ['f', 'o', 'r'], ['i', 'f'], ['i', 'n'], ['t', 'h', 'e', 'n'],
    ['u', 'n', 't', 'i', 'l'], ['w', 'h', 'i', 'l', 'e']]

/-- Only a word without any quotes is a reserved word. -/
def isReserved (word : Word) : Bool :=
  word.all Piece.isBare && reservedWords.contains word.text

def isNamePiece : Piece → Bool
  | .bare c => c.isAlphanum || c = '_'
  | _ => false

/-- A name and `=`, both outside of quotes. -/
def isAssignment (word : Word) : Bool :=
  match word.takeWhile isNamePiece, word.dropWhile isNamePiece with
  | .bare c :: _, .bare '=' :: _ => !c.isDigit
  | _, _ => false

/-- Tokens of a command, after the parts read so far. -/
def simpleCommand : SimpleCommand → List Token → SimpleCommand
  | command, [] => command
  | command, .operator text :: .word target :: rest =>
    simpleCommand { command with
      redirections := command.redirections ++ [(text, some target)] } rest
  | command, .operator text :: rest =>
    simpleCommand { command with redirections := command.redirections ++ [(text, none)] } rest
  | command, .word word :: rest =>
    if command.words = [] ∧ isAssignment word then
      simpleCommand { command with assignments := command.assignments ++ [word] } rest
    else simpleCommand { command with words := command.words ++ [word] } rest
  | command, .ioNumber _ :: rest | command, .newline :: rest => simpleCommand command rest

/-- Parentheses and `;;` stand only in compound commands and function definitions. -/
def isGrouping : Token → Bool
  | .operator text => text = ['('] || text = [')'] || text = [';', ';']
  | _ => false

def command (tokens : List Token) : Command :=
  let reserved := match tokens with
    | .word word :: _ => isReserved word
    | _ => false
  if reserved || tokens.any isGrouping then .compound tokens
  else .simple (simpleCommand ⟨[], [], []⟩ tokens)

def separates : Token → Bool
  | .newline => true
  | .operator text =>
    text = ['&', '&'] || text = ['|', '|'] || text = ['&'] || text = ['|'] || text = [';']
  | _ => false

/-- The commands of a line; nothing where the line ends inside quotes. -/
def parse (line : List Char) : Option (List Command) :=
  (tokens line).map fun found =>
    ((found.splitOnP separates).filter (· ≠ [])).map command

/-- The line is one simple command, and the shell gives it these words unchanged: there is no
    second command, assignment, redirection, expansion or pattern. -/
def Passes (line : List Char) (arguments : List (List Char)) : Prop :=
  ∃ words : List Word,
    parse line = some [.simple { assignments := [], redirections := [], words }] ∧
      (∀ word ∈ words, word.isLiteral) ∧ words.map Word.text = arguments

/-! ## 4. Quoted words in a line -/

/-- Where no token is open the text begins this word, and leaves it open. -/
def Spells (text : List Char) (word : Word) : Prop :=
  ∀ done, read (done, .space) text = (done, .word word)

/-- The word begins with quotes. It is then no reserved word and no assignment. -/
def Quoted (word : Word) : Prop := word.head? = some .quotes

theorem Quoted.not_isReserved {word : Word} (h : Quoted word) : isReserved word = false := by
  cases word with
  | nil => cases h
  | cons piece rest =>
    obtain rfl : piece = .quotes := by simpa [Quoted] using h
    rfl

theorem Quoted.not_isAssignment {word : Word} (h : Quoted word) : isAssignment word = false := by
  cases word with
  | nil => cases h
  | cons piece rest =>
    obtain rfl : piece = .quotes := by simpa [Quoted] using h
    rfl

/-- A blank ends a word, and nothing else begins. -/
theorem step_word_blank (done : List Token) (word : Word) :
    step (done, .word word) ' ' = (done ++ [.word word], .space) := rfl

/-- The tokens of words with a blank before each of them. -/
theorem read_words {texts : List (List Char)} {words : List Word}
    (h : List.Forall₂ Spells texts words) (done : List Token) (word : Word) :
    finish (read (done, .word word) (texts.flatMap (' ' :: ·))) =
      some (done ++ (word :: words).map .word) := by
  induction h generalizing done word with
  | nil => rfl
  | @cons text next texts words hnext _ ih =>
    have hfirst : read (done, .word word) (' ' :: text) = (done ++ [.word word], .word next) := by
      rw [read_cons, step_word_blank]
      exact hnext _
    rw [List.flatMap_cons, read_append, hfirst, ih]
    simp

/-- Words with a blank between them are the words and a blank before each but the first. -/
theorem intercalate_blank (text : List Char) (texts : List (List Char)) :
    [' '].intercalate (text :: texts) = text ++ texts.flatMap (' ' :: ·) := by
  induction texts generalizing text with
  | nil => simp
  | cons next texts ih => rw [List.intercalate_cons_cons, ih]; simp

theorem tokens_joined {texts : List (List Char)} {words : List Word} (hne : texts ≠ [])
    (h : List.Forall₂ Spells texts words) :
    tokens ([' '].intercalate texts) = some (words.map .word) := by
  cases h with
  | nil => exact absurd rfl hne
  | @cons text word texts words hfirst hrest =>
    rw [tokens, intercalate_blank, read_append, hfirst, read_words hrest]
    rfl

/-- Words stay words, when the first of them is no assignment. -/
theorem simpleCommand_words (words done : List Word) (h : ∀ word ∈ words, Quoted word) :
    simpleCommand ⟨[], [], done⟩ (words.map .word) = ⟨[], [], done ++ words⟩ := by
  induction words generalizing done with
  | nil => simp [simpleCommand]
  | cons word words ih =>
    have hword : isAssignment word = false := (h word List.mem_cons_self).not_isAssignment
    have hrest := ih (done ++ [word]) fun other hother => h other (List.mem_cons_of_mem _ hother)
    rw [List.map_cons, simpleCommand, if_neg (by simp [hword]), hrest]
    simp

/-- **Words in quotes, with a blank between them, are one simple command that has these words
    and nothing else.** -/
theorem passes_joined {texts : List (List Char)} {words : List Word} (hne : texts ≠ [])
    (h : List.Forall₂ Spells texts words) (hquoted : ∀ word ∈ words, Quoted word)
    (hliteral : ∀ word ∈ words, word.isLiteral) :
    Passes ([' '].intercalate texts) (words.map Word.text) := by
  have hsplit : (words.map Token.word).splitOnP separates = [words.map Token.word] :=
    List.splitOnP_eq_singleton fun token htoken => by
      obtain ⟨word, -, rfl⟩ := List.mem_map.mp htoken
      rfl
  have hcommand : command (words.map .word) = .simple ⟨[], [], words⟩ := by
    have hgrouping : (words.map Token.word).any isGrouping = false := by
      simp [isGrouping]
    cases words with
    | nil => rfl
    | cons word words =>
      have hreserved : isReserved word = false := (hquoted word List.mem_cons_self).not_isReserved
      have hsimple := simpleCommand_words (word :: words) [] hquoted
      rw [List.map_cons] at hgrouping hsimple ⊢
      simp only [command, hreserved, hgrouping, Bool.or_self, Bool.false_eq_true, if_false]
      rw [hsimple, List.nil_append]
  refine ⟨words, ?_, hliteral, rfl⟩
  have hwords : words.map Token.word ≠ [] := by
    cases h with
    | nil => exact absurd rfl hne
    | cons => simp
  rw [parse, tokens_joined hne h, Option.map_some, hsplit,
    List.filter_cons_of_pos (by simpa using hwords), List.filter_nil, List.map_cons, hcommand,
    List.map_nil]

/-- Outside of quotes a command line is not taken word by word. -/
example : parse ['a', ';', 'b'] =
    some [.simple ⟨[], [], [[.bare 'a']]⟩, .simple ⟨[], [], [[.bare 'b']]⟩] := by decide

example : parse ['a', ' ', '$', 'b', '>', 'c', '#'] =
    some [.simple ⟨[], [(['>'], some [.bare 'c', .bare '#'])],
      [[.bare 'a'], [.expansion '$', .bare 'b']]⟩] := by decide

end Uprava.Lib.Shell
