import CommandShell.Reading
import CommandShell.ShellState
import CommandShell.Text.Grapheme

/-!
# Sources of lines

Where a shell that reads line after line has its lines from. A source keeps something between two
reads and bounds the number of reads that can bring something new. There are two of them: the
standard input of the shell, read without editing, and a list of events that is given in advance.

The standard input is read in large pieces, so that a program that is started in between finds
what lies beyond the piece. A prompt is shown only where the terminal is known to have no editing.
-/

namespace CommandShell

open Shell

/-- What comes of an attempt to read a line. -/
inductive ReadEvent where
  /-- A line has come. -/
  | line (text : String)
  /-- The user has interrupted the reading. -/
  | interrupted
  /-- There is nothing more to be read. -/
  | endOfInput
  /-- The reading has failed. -/
  | failed (fault : Fault)
  deriving DecidableEq, Repr

/-- A source of lines that keeps a `ρ` between two reads. -/
structure LineSource (σ ρ : Type) where
  /-- Reads the next line after showing a prompt. -/
  next : String → ρ → Shell σ (ReadEvent × ρ)
  /-- How many reads can bring something new. -/
  bound : ρ → ShellState σ → Nat

namespace LineSource

variable {σ : Type}

/-- The source of the events of a list. After its last event there is nothing more to be read. -/
def ofEvents : LineSource σ (List ReadEvent) where
  next _ events := pure (match events with
    | [] => (.endOfInput, [])
    | event :: rest => (event, rest))
  bound events _ := events.length

/-- What a terminal can do. -/
structure Terminal where
  /-- The name of the terminal, if it has one. -/
  name : Option String

/-- The terminals that are known to have no editing, in lower case. -/
def plainTerminals : List String := ["dumb", "cons25", "emacs"]

/-- Whether a terminal is known to have no editing. The case of ASCII letters does not matter. -/
def Terminal.isPlain (t : Terminal) : Bool :=
  match t.name with
  | none => false
  | some name => plainTerminals.contains (String.ofList (name.toList.map Char.toLower))

/-- The terminals that show joined pictures one by one. -/
def separatingTerminals : List String := ["xterm-kitty"]

/-- How the width of a cluster is found on a terminal. -/
def Terminal.measure (t : Terminal) : ClusterMeasure :=
  if t.name.any separatingTerminals.contains then .withoutJoining else .characters

/-- A line as it is run: without the characters that end it, and with the backspaces done. -/
def editLine (text : String) : String :=
  let cs := text.toList.reverse
  match cs with
  | '\n' :: '\r' :: rest => Text.applyBackspaces (String.ofList rest.reverse)
  | '\n' :: rest => Text.applyBackspaces (String.ofList rest.reverse)
  | _ => Text.applyBackspaces text

/-- The reason for refusing a line that is no text. -/
def notText : Fault := .described "stream did not contain valid UTF-8"

/-- The text of some bytes, if they are one. -/
def textOfBytes (bytes : Bytes) : Option String := String.fromUTF8? ⟨bytes.toArray⟩

/-- What a line of bytes means. No byte at all means that nothing is left. -/
def eventOfBytes (bytes : Bytes) : ReadEvent :=
  if bytes.isEmpty then .endOfInput
  else match textOfBytes bytes with
    | none => .failed notText
    | some text => .line (editLine text)

variable [Kernel σ]

/-- Shows a prompt. -/
def showPrompt (prompt : String) : Shell σ (Except Errno Unit) := do
  if prompt.isEmpty then return .ok ()
  write standardOutput (utf8 prompt)

/-- Reads a line from the standard input, given what was read beyond the last one. -/
def readStandardInput (before : Bytes) : Shell σ (ReadEvent × Bytes) := do
  let state ← get
  match state.descriptors.get? standardInput with
  | none => return (.endOfInput, before)
  | some slot =>
    match ← ask (readLineFrom slot.target before state.descriptors) with
    | .error errno => return (.failed (.system errno), before)
    | .ok (bytes, rest) => return (eventOfBytes bytes, rest)

/-- The standard input of the shell. -/
def standardInput (terminal : Terminal) : LineSource σ Bytes where
  next prompt before := do
    if terminal.isPlain then
      note .plainTerminal
      match ← showPrompt prompt with
      | .error errno => return (.failed (.system errno), before)
      | .ok () => readStandardInput before
    else
      note .noTerminal
      readStandardInput before
  bound before s := before.length + Kernel.supply s.surroundings.host + 1

end LineSource

end CommandShell
