import CommandShell.Machine.Script.Attention
import CommandShell.Machine.Script.CommandReader

/-!
# Where scripts are read from

A script is read line by line, from a text or from a descriptor. From a descriptor it is read in
chunks, and only when the lines that have come are used up; what stands behind a chunk is left for
the programs that the script runs.
-/

namespace CommandShell.Machine.Script

open Ascii Tool

/-- Where a script is read from. -/
structure Source where
  /-- What is left of what has come. -/
  cursor : Cursor
  /-- The descriptor from which more can be read. -/
  fd : Option Fd

namespace Source

/-- A script in a text. -/
def ofText (text : Bytes) : Source := ⟨.ofText text true 0 [], none⟩

/-- A script that is read from a descriptor. -/
def ofFd (fd : Fd) : Source := ⟨.ofText [] false 0 [], some fd⟩

/-- How many bytes are read at a time. -/
def chunkSize : Nat := 8191

/-- Reads a chunk, `fuel` times at most if signals come. Nothing can be read at the end. -/
def readChunk (fd : Fd) : Nat → Act Bytes
  | 0 => pure []
  | fuel + 1 => do
    match (← ask (.read fd chunkSize) : Except Errno ByteArray) with
    | .ok bytes => return bytes.toList
    | .error errno =>
      if errno ≠ .interrupted then return []
      noteSignals
      Attention.heedInterrupt
      readChunk fd fuel

/-- The next chunk, which is empty at the end. Bytes that are zero do not count. -/
def chunk (source : Source) : Act Bytes := do
  match source.fd with
  | none => return []
  | some fd => readChunk fd endless

/-- What is left with one more chunk behind it. -/
def withChunk (source : Source) (chunk : Bytes) : Source :=
  let cursor := source.cursor
  if chunk.isEmpty then { source with cursor := { cursor with ended := true } }
  else { source with cursor := { cursor with rest := cursor.rest ++ chunk.filter (· ≠ 0) } }

/-- A text up to the end of its first line. -/
def firstLine : Bytes → Bytes
  | [] => []
  | b :: rest => if b = newline then [b] else b :: firstLine rest

/-- A text up to the end of the line in which the byte with a number stands. -/
def linesThrough (place : Nat) (text : Bytes) : Bytes :=
  text.take place ++ firstLine (text.drop place)

/-- The lines of a text, each one with its end. -/
def linesOf : Bytes → List Bytes
  | [] => []
  | b :: rest =>
    let lines := linesOf rest
    if b = newline then [b] :: lines
    else match lines with
      | [] => [[b]]
      | line :: lines => (b :: line) :: lines

/-- Shows lines that were read of a script, if that is wanted, and asks for the next one behind each
of them. Nobody is asked for a line behind the last one if it completes a command. -/
def showLines (shows : Bool) (asks : Act Unit) (completes : Bool) : List Bytes → Act Unit
  | [] => pure ()
  | line :: rest => do
    if shows then say line
    if line.getLast? = some newline && !(completes && rest.isEmpty) then asks
    showLines shows asks completes rest

/-- Shows what was read of a script and asks for more, as far as that is wanted. Only what comes
from a descriptor is shown. -/
def showRead (source : Source) (asks : Option (Act Unit)) (completes : Bool) (bytes : Bytes) :
    Act Unit := do
  let shows := source.fd.isSome && (← get).has .verbose
  if shows || asks.isSome then showLines shows (asks.getD (pure ())) completes (linesOf bytes)

/-- Notes what became known while a line was read, and keeps the rest. -/
def adopt (source : Source) (line : Line) (cursor : Cursor) : Act Source := do
  modify fun s => { s with
    isAtEnd := line.isLast
    documents := cursor.documents ++ s.documents
    nextDocument := cursor.nextDocument
    readLine := cursor.line }
  return { source with cursor := { cursor with documents := [] } }

/-- Reads a line, with `fuel` chunks at most. How the user is asked for what follows its beginning
is given, if someone is, and how much of what has come was shown. -/
def nextWithin (source : Source) (asks : Option (Act Unit)) (shown : Nat) :
    Nat → Act (Line × Source)
  | 0 => pure (.ended, source)
  | fuel + 1 => do
    let s ← get
    let before := { source.cursor with nextDocument := s.nextDocument, aliases := s.aliases }
    match readLine.run before with
    | .error .hungry =>
      source.showRead asks false (before.rest.drop shown)
      let chunk ← source.chunk
      nextWithin (source.withChunk chunk) asks before.rest.length fuel
    | .error (.fault line left message) =>
      let read := linesThrough (before.rest.length - left - 1) before.rest
      source.showRead asks true (read.drop shown)
      modify fun s => { s with line := line, readLine := line, isAtEnd := false }
      fail (utf8 message)
    | .ok (line, cursor) =>
      let read := before.rest.take (before.rest.length - cursor.rest.length)
      source.showRead asks true (read.drop shown)
      return (line, ← source.adopt line cursor)

/-- Reads a line. How the user is asked for what follows its beginning is given, if someone is. -/
def next (source : Source) (asks : Option (Act Unit)) : Act (Line × Source) :=
  source.nextWithin asks 0 endless

end Source

end CommandShell.Machine.Script
