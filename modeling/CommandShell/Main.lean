import CommandShell.CommandLine
import CommandShell.Machine.Boot

/-!
# The shell as a program

The shell on a machine of its own, with the standard files and an empty home directory. The standard
input is read before the shell starts; what the shell and its programs have written is shown when
it ends.
-/

namespace CommandShell.Main

open Shell
open Machine (Setup Tree)

/-- The home directory. -/
def home : String := "/root"

/-- The directories in which programs are looked for. -/
def searchPath : String := "/usr/bin:/bin"

/-- The time stamp of all records in the log: the machine's clock stands at its beginning. -/
def stamp : String := "1970-01-01T00:00:00.000000Z"

/-- What the shell is started with. -/
def setup (input : ByteArray) (terminal logLevel : Option String) : Setup where
  tree :=
    Machine.standardTree.placeDirectory Tree.root (utf8 home) Machine.State.startTime
  directory := home
  home := some home
  bindings := [("HOME", home), ("PATH", searchPath)] ++
    terminal.toList.map (fun name => ("TERM", name)) ++
    logLevel.toList.map (fun level => ("PIPESH_LOG", level))
  streams := [⟨input, .input⟩, ⟨.empty, .append⟩, ⟨.empty, .append⟩]
  log := ⟨.warn, stamp⟩

/-- The exit code of the shell, and what was written to the standard output and error stream. -/
def run (arguments : List String) (input : ByteArray) (terminal logLevel : Option String) :
    Nat × ByteArray × ByteArray :=
  let environment : Environment := ⟨logLevel, ⟨terminal⟩⟩
  let (code, s) := CommandLine.run arguments environment (setup input terminal logLevel).boot
  let host := s.surroundings.host
  (code, host.streamContent standardOutput, host.streamContent standardError)

/-- Reads a stream to its end. -/
partial def readInput (stream : IO.FS.Stream) (before : ByteArray) : IO ByteArray := do
  let piece ← stream.read 65536
  if piece.isEmpty then return before else readInput stream (before ++ piece)

end CommandShell.Main

/-- Runs the shell with the arguments and the standard input of this program. -/
def main (arguments : List String) : IO UInt32 := do
  let input ← CommandShell.Main.readInput (← IO.getStdin) .empty
  let terminal ← IO.getEnv "TERM"
  let logLevel ← IO.getEnv "PIPESH_LOG"
  let (code, output, errors) := CommandShell.Main.run arguments input terminal logLevel
  let out ← IO.getStdout
  out.write output
  out.flush
  let err ← IO.getStderr
  err.write errors
  err.flush
  return UInt32.ofNat code
