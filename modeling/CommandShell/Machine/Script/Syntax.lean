import CommandShell.Machine.Program

/-!
# The commands of scripts

What a script consists of once it was read. A word is a sequence of pieces: bytes that stand for
themselves, quoted or not, and pieces whose bytes are found out when the word is used. Commands are
put together from other commands.
-/

namespace CommandShell.Machine.Script

/-- How a redirection opens the file that it names. -/
inductive Direction where
  /-- For reading. -/
  | input
  /-- For writing; a file that exists may be protected. -/
  | output
  /-- For writing, even if the file exists. -/
  | overwrite
  /-- For writing at the end. -/
  | append
  /-- For reading and writing. -/
  | update
  deriving DecidableEq, Repr

/-- Which part of a value is cut off where it matches a pattern. -/
inductive Trim where
  /-- The shortest end. -/
  | shortEnd
  /-- The longest end. -/
  | longEnd
  /-- The shortest beginning. -/
  | shortStart
  /-- The longest beginning. -/
  | longStart
  deriving DecidableEq, Repr

mutual

/-- A piece of a word. -/
inductive Piece where
  /-- Bytes that were written without quotation. -/
  | plain (bytes : Bytes)
  /-- Bytes that were quoted, perhaps none. -/
  | quoted (bytes : Bytes)
  /-- The value of a parameter, or what is made of it. -/
  | parameter (name : Bytes) (use : Use) (isQuoted : Bool)
  /-- What commands write. -/
  | output (commands : Option Command) (isQuoted : Bool)
  /-- The value of an arithmetic expression. -/
  | arithmetic (expression : List Piece) (isQuoted : Bool)

/-- What is made of the value of a parameter. In some forms a value that is empty counts as none. -/
inductive Use where
  /-- The value itself. -/
  | value
  /-- The number of its bytes. -/
  | size
  /-- A word in the stead of no value. -/
  | default (orEmpty : Bool) (word : List Piece)
  /-- A word that becomes the value if there is none. -/
  | assign (orEmpty : Bool) (word : List Piece)
  /-- A word that is a complaint if there is no value. -/
  | demand (orEmpty : Bool) (word : List Piece)
  /-- A word in the stead of any value. -/
  | instead (orEmpty : Bool) (word : List Piece)
  /-- The value without the part that matches a pattern. -/
  | trim (part : Trim) (pattern : List Piece)
  /-- A form that makes no sense. -/
  | senseless

/-- What a redirection refers to. -/
inductive Target where
  /-- A file. -/
  | file (direction : Direction) (name : List Piece)
  /-- Another descriptor, or none. -/
  | descriptor (source : Option Fd)
  /-- Another descriptor that a word names. -/
  | namedDescriptor (name : List Piece)
  /-- A text that stands in the script, under a number. -/
  | document (number : Nat)

/-- A redirection of a descriptor. -/
inductive Redirection where
  | mk (fd : Fd) (target : Target)

/-- A case of a choice: patterns, and what is done if one of them matches. -/
inductive Case where
  | mk (patterns : List (List Piece)) (body : Option Command)

/-- A command. Some commands know the line on which they begin. -/
inductive Command where
  /-- Assignments, and words of which the first names what is run. -/
  | simple (line : Nat) (assignments words : List (List Piece)) (redirections : List Redirection)
  /-- Commands of which each one reads what the one in front of it writes. -/
  | pipeline (stages : List Command) (inBackground : Bool)
  /-- One command after the other. -/
  | sequence (first second : Command)
  /-- The second command if the first one succeeds. -/
  | both (first second : Command)
  /-- The second command if the first one fails. -/
  | either (first second : Command)
  /-- A command with the opposite outcome. -/
  | negation (command : Command)
  /-- A command in a process of its own. -/
  | subshell (line : Nat) (body : Command) (redirections : List Redirection)
  /-- A command in a process of its own, for which nobody waits. -/
  | background (line : Nat) (body : Command) (redirections : List Redirection)
  /-- A command with redirections. -/
  | redirected (line : Nat) (body : Command) (redirections : List Redirection)
  /-- One of two commands. -/
  | conditional (test yes : Command) (no : Option Command)
  /-- A command that is repeated as long as another one succeeds, or fails if `opposite` says so. -/
  | loop (opposite : Bool) (test body : Command)
  /-- A command that is repeated for each word. -/
  | forEach (line : Nat) (name : Bytes) (words : List (List Piece)) (body : Command)
  /-- The first case that a word matches. -/
  | choice (line : Nat) (subject : List Piece) (cases : List Case)
  /-- A command that is kept under a name. -/
  | definition (name : Bytes) (body : Command)

end

/-- A word. -/
abbrev Word := List Piece

/-- The text of a word without quotations and replacements. -/
def bareText? : Word → Option Bytes
  | [] => some []
  | .plain bytes :: rest => (bareText? rest).map (bytes ++ ·)
  | _ :: _ => none

/-- The text of a word in which nothing is replaced. -/
def literalText (word : Word) : Bytes :=
  word.flatMap fun piece => match piece with
    | .plain bytes => bytes
    | .quoted bytes => bytes
    | _ => []

/-- Whether a word has a quotation. -/
def hasQuotation (word : Word) : Bool :=
  word.any fun piece => match piece with
    | .quoted _ => true
    | _ => false

/-- Neighbouring plain pieces put together. -/
def joinPlain (piece : Piece) (word : Word) : Word :=
  match piece, word with
  | .plain bytes, .plain more :: rest => .plain (bytes ++ more) :: rest
  | .quoted (b :: bytes), .quoted (c :: more) :: rest => .quoted (b :: bytes ++ c :: more) :: rest
  | piece, word => piece :: word

end CommandShell.Machine.Script
