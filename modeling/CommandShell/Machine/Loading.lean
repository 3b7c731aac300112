import CommandShell.Machine.Script.Start
import CommandShell.Machine.State
import CommandShell.Machine.Subshell
import CommandShell.Machine.Tool.Catalogue

/-!
# Loading programs

How the file at a path becomes a running program. The programs of the machine run as they are; a
file that begins with `#!` is handed to the interpreter that it names; any other file is in no known
format. A file that someone is writing cannot be run. A name without a slash is looked for in the
directories of the search path, and a file in no known format is then handed to the script
interpreter.
-/

namespace CommandShell.Machine

open Ascii

/-- What a program is started with. -/
structure Startup where
  /-- The path of the program. -/
  path : Name
  /-- The arguments, the first of which names the program. -/
  arguments : List Bytes
  /-- The variables. -/
  bindings : Variables
  /-- Whether a descriptor is left with which the program can be put together. -/
  linked : Bool

/-- The name of the script interpreter among the programs of the machine. -/
def interpreterName : String := "sh"

/-- The program of a name with its arguments. -/
def toolTask (name : String) (arguments : List Bytes) (bindings : Variables) : Task :=
  if name = interpreterName then Script.interpret arguments bindings
  else if name = shellName then Subshell.task ⟨arguments.headD [], arguments.tail, bindings⟩
  else match Tool.catalogue.lookup name with
    | some task => task ⟨arguments.headD [], arguments.tail, bindings⟩
    | none => pure 127

/-- A program that cannot be put together. -/
def unlinkedTask (name : Bytes) : Task := do
  Tool.tell (name ++ utf8 (": error while loading shared libraries: libc.so.6: " ++
    "cannot open shared object file: Error 24\n"))
  return 127

/-! ### Interpreters -/

/-- How many bytes of a file are looked at to find its interpreter. -/
def headSize : Nat := 256

/-- What the first line of a file asks for. -/
structure Interpretation where
  /-- The path of the interpreter. -/
  path : Name
  /-- The argument that it gets in front of all others. -/
  argument : Option Bytes

/-- Bytes without the blanks at their end. -/
def trimBlanks (bytes : Bytes) : Bytes := (bytes.reverse.dropWhile isBlank).reverse

/-- Whether a byte stands behind the path of an interpreter. -/
def endsPath (b : UInt8) : Bool := isBlank b || b = 0

/-- The interpreter that a window of bytes names; the last byte of the window ends it. -/
def interpretationIn (window : Bytes) : Option Interpretation :=
  let named := window.dropWhile isBlank
  if named.length ≤ 1 then none
  else
    let path := named.takeWhile (!endsPath ·)
    match named.dropWhile (!endsPath ·) with
    | [] => some ⟨path.dropLast, none⟩
    | b :: rest =>
      if b = 0 then some ⟨path, none⟩
      else match rest.dropWhile isBlank with
        | [] => some ⟨path, none⟩
        | argument => some ⟨path, some (argument.dropLast.takeWhile (· ≠ 0))⟩

/-- The interpreter that a file names in its first line. A line that is longer than what is looked
at must at least hold the whole path. -/
def interpretationOf (bytes : ByteArray) : Option Interpretation :=
  let head := (bytes.extract 0 headSize).toList
  match head ++ List.replicate (headSize - head.length) 0 with
  | numberSign :: bang :: cells =>
    let line := cells.takeWhile fun b => b ≠ newline && b ≠ 0
    if cells[line.length]? = some newline then
      interpretationIn (cells.take ((trimBlanks line).length + 1))
    else if ((cells.dropWhile isBlank).dropWhile (!endsPath ·)).isEmpty then none
    else interpretationIn (cells.take ((trimBlanks cells.dropLast).length + 1))
  | _ => none

/-! ### Starting -/

/-- A file that can be run. -/
inductive Executable where
  /-- A program of the machine. -/
  | tool (name : String)
  /-- A file with some content. -/
  | file (content : ByteArray)

/-- The permission bits that allow to run a file. -/
def runBits : Nat := 0o111

/-- How many interpreters can name each other. -/
def maxInterpreters : Nat := 5

/-- The length from which on an argument is too long, the byte behind it included. -/
def maxArgument : Nat := 131072

/-- How many bytes all arguments together can take. -/
def maxArguments : Nat := 2097152

/-- Whether arguments are too long. -/
def tooLong (arguments : List Bytes) : Bool :=
  arguments.any (fun a => maxArgument ≤ a.length) ||
    maxArguments < arguments.foldl (fun size a => size + a.length + 9) 0

namespace State

/-- Finds the file to be run at a path. -/
def findExecutable (m : State) (known : DescriptorTable Handle) (directory : NodeId)
    (path : Name) : Except Errno Executable :=
  match m.tree.find directory path with
  | .error errno => .error errno
  | .ok id =>
    match m.tree.content? id with
    | some (.tool name) => .ok (.tool name)
    | some (.regular bytes) =>
      if m.tree.modeOf id &&& runBits = 0 then .error .accessDenied
      else if m.isWritten known id then .error .textBusy
      else .ok (.file bytes)
    | _ => .error .accessDenied

/-- Finds the interpreter at a path. An empty path stands for the working directory, which cannot be
run. -/
def findInterpreter (m : State) (known : DescriptorTable Handle) (directory : NodeId)
    (path : Name) : Except Errno Executable :=
  if path.isEmpty then .error .accessDenied else m.findExecutable known directory path

/-- Loads a file that was found at the path of a program. -/
def load (m : State) (known : DescriptorTable Handle) (directory : NodeId)
    (executable : Executable) (s : Startup) : Nat → Except Errno Task :=
  fun levels =>
    match executable with
    | .tool name =>
      .ok (if s.linked then toolTask name s.arguments s.bindings
        else unlinkedTask (s.arguments.headD []))
    | .file bytes =>
      match interpretationOf bytes with
      | none => .error .unknownFormat
      | some interpretation =>
        match m.findInterpreter known directory interpretation.path with
        | .error errno => .error errno
        | .ok interpreter =>
          match levels with
          | 0 => .error .linkLoop
          | levels + 1 =>
            let arguments := interpretation.path :: interpretation.argument.toList ++
              s.path :: s.arguments.tail
            m.load known directory interpreter
              { s with path := interpretation.path, arguments := arguments } levels

/-- Starts the program at a path. -/
def start (m : State) (known : DescriptorTable Handle) (directory : NodeId) (s : Startup) :
    Except Errno Task :=
  match m.findExecutable known directory s.path with
  | .error errno => .error errno
  | .ok executable =>
    if tooLong s.arguments then .error .argumentsTooLong
    else m.load known directory executable s maxInterpreters

/-- Starts the program at a path. A file in no known format is handed to the script interpreter. -/
def startAny (m : State) (known : DescriptorTable Handle) (directory : NodeId) (s : Startup) :
    Except Errno Task :=
  match m.start known directory s with
  | .ok task => .ok task
  | .error errno =>
    if errno = .unknownFormat then
      m.start known directory
        { s with
          path := interpreterPath, arguments := interpreterPath :: s.path :: s.arguments.tail }
    else .error errno

end State

/-- Starts the first program that is found in some directories. That access to one of them was
denied is what the search comes to if nothing else is found. -/
def State.searchIn (m : State) (known : DescriptorTable Handle) (directory : NodeId)
    (s : Startup) (denied : Bool) (last : Errno) : List Name → Except Errno Task
  | [] => .error (if denied then .accessDenied else last)
  | place :: rest =>
    let path := if place.isEmpty then s.path else place ++ slash :: s.path
    match m.startAny known directory { s with path := path } with
    | .ok task => .ok task
    | .error errno =>
      if searchGoesOn errno then
        m.searchIn known directory s (denied || errno = .accessDenied) errno rest
      else .error errno

/-- Starts the program that the first argument names. -/
def State.search (m : State) (known : DescriptorTable Handle) (directory : NodeId) (linked : Bool)
    (arguments : List Bytes) (bindings : Variables) : Except Errno Task :=
  let name := arguments.headD []
  let s : Startup := ⟨name, arguments, bindings, linked⟩
  if name.isEmpty then .error .noEntry
  else if name.contains slash then m.startAny known directory s
  else
    let path := (bindings.lookup (utf8 "PATH")).getD defaultSearchPath
    m.searchIn known directory s false .noEntry
      (searchedDirectories (searchedSize path) (splitAt colon path))

end CommandShell.Machine
