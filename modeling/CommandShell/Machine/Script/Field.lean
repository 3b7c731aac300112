import CommandShell.Machine.Ascii
import CommandShell.Machine.Program

/-!
# Fields

What a word is replaced by is a sequence of runs, of which some are divided into fields where
certain bytes stand. Blanks among those bytes divide only once and not at the beginning; the others
divide each time.
-/

namespace CommandShell.Machine.Script

open Ascii

/-- A part of what a word is replaced by. -/
inductive Cell where
  /-- A byte; a quoted one has no meaning in a pattern. -/
  | byte (b : UInt8) (isQuoted : Bool)
  /-- A quotation, perhaps of nothing. -/
  | mark
  /-- The end of a positional parameter that is followed by another one. -/
  | separator
  deriving DecidableEq, Repr

/-- How a run is divided into fields. -/
inductive Division where
  /-- It is not divided. -/
  | whole
  /-- Where certain bytes stand. -/
  | atDelimiters
  /-- Where positional parameters end. -/
  | atSeparators
  deriving DecidableEq, Repr

/-- A sequence of parts that are divided in the same way. -/
structure Run where
  /-- The parts. -/
  cells : List Cell
  /-- How they are divided. -/
  division : Division

/-- The byte of a part, if it has one. -/
def Cell.byte? : Cell → Option UInt8
  | byte b _ => some b
  | mark => none
  | separator => none

/-- The bytes of some parts. -/
def bytesOf (cells : List Cell) : Bytes := cells.filterMap Cell.byte?

/-- The bytes of some runs. -/
def textOf (runs : List Run) : Bytes := runs.flatMap fun run => bytesOf run.cells

/-- Some parts as a pattern: what was quoted gets a backslash. -/
def patternIn (cells : List Cell) : Bytes :=
  cells.flatMap fun cell => match cell with
    | .byte b true => [backslash, b]
    | .byte b false => [b]
    | _ => []

/-- Some runs as a pattern. -/
def patternOf (runs : List Run) : Bytes := runs.flatMap fun run => patternIn run.cells

/-! ### Division -/

/-- The bytes that count as blanks where fields are divided. -/
def fieldBlanks : Bytes := [space, tab, newline]

/-- What is known while fields are divided. -/
structure Splitting where
  /-- The fields that have ended, the last one first. -/
  fields : List (List Cell)
  /-- The parts of the current field, the last one first. -/
  current : List Cell
  /-- How many parts of the current field are kept, if not all. -/
  kept : Option Nat
  /-- How many further fields can end, if not any number. -/
  left : Option Nat
  /-- Whether a blank has just ended a field. -/
  inBlanks : Bool
  /-- Whether the run in front was divided where positional parameters end. -/
  afterSeparators : Bool

namespace Splitting

/-- Whether a part divides, and whether it counts as a blank. -/
def kind (delimiters : Bytes) : Cell → Bool × Bool
  | .separator => (true, true)
  | .byte b _ => (delimiters.contains b, delimiters.contains b && fieldBlanks.contains b)
  | .mark => (false, false)

/-- Adds a part to the current field. -/
def push (s : Splitting) (cell : Cell) : Splitting := { s with current := cell :: s.current }

/-- One more part when no further field can end. What is divided off at the end is not kept. -/
def stepLast (s : Splitting) (divides isBlank : Bool) (cell : Cell) : Splitting :=
  if isBlank then { s with kept := some (s.kept.getD s.current.length) }.push cell
  else
    let kept := if divides && s.inBlanks then s.kept else none
    { s with kept := kept, inBlanks := false }.push cell

/-- One more part of a run. -/
def step (delimiters : Bytes) (plainly : Bool) (s : Splitting) (cell : Cell) : Splitting :=
  let (divides, isBlank) := kind delimiters cell
  if s.left = some 0 then s.stepLast divides isBlank cell
  else if s.inBlanks then
    if isBlank then s
    else if divides then { s with inBlanks := false }
    else { s with inBlanks := false }.push cell
  else if !divides then s.push cell
  else
    let inBlanks := plainly && isBlank
    if s.current.isEmpty && inBlanks then s
    else
      let s := { s with inBlanks := inBlanks, left := s.left.map (· - 1) }
      if s.left = some 0 then { s with kept := some s.current.length }.push cell
      else { s with fields := s.current.reverse :: s.fields, current := [] }

/-- One more run. -/
def stepRun (delimiters : Bytes) (s : Splitting) (run : Run) : Splitting :=
  match run.division with
  | .whole => { s with current := run.cells.reverse ++ s.current }
  | .atDelimiters =>
    let plainly := !s.afterSeparators
    { run.cells.foldl (step delimiters plainly) { s with inBlanks := false } with
      afterSeparators := false }
  | .atSeparators =>
    { run.cells.foldl (step [] false) { s with inBlanks := false } with afterSeparators := true }

/-- The fields at the end. A last field without anything in it counts only behind a positional
parameter. -/
def finish (s : Splitting) : List (List Cell) :=
  if s.afterSeparators then (s.current.reverse :: s.fields).reverse
  else
    let last := match s.kept with
      | none => s.current.reverse
      | some n => s.current.reverse.take n
    if last.isEmpty then s.fields.reverse else (last :: s.fields).reverse

end Splitting

/-- Divides runs into fields, `most` at most. -/
def splitRuns (delimiters : Bytes) (most : Option Nat) (runs : List Run) : List (List Cell) :=
  (runs.foldl (Splitting.stepRun delimiters) ⟨[], [], none, most, false, false⟩).finish

end CommandShell.Machine.Script
