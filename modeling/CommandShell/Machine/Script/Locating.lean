import CommandShell.Machine.Script.Assigning
import CommandShell.Machine.Script.Builtin

/-!
# Where commands are found

What the first word of a command stands for: a named command, a command of the interpreter, or a
program that is looked for in the directories of the search path. Where a program was found is
remembered until the search path changes.
-/

namespace CommandShell.Machine.Script

open Ascii Tool

/-- What a word stands for. -/
inductive Found where
  /-- A named command. -/
  | definition (body : Command)
  /-- A command of the interpreter. -/
  | builtin (b : Builtin)
  /-- A program, at a place in the search path or at the path that the word is. -/
  | program (place : Option Nat)
  /-- Nothing. -/
  | unknown

namespace Locating

/-- The search path that finds the usual programs. -/
def usualPath : Bytes :=
  utf8 "/usr/local/sbin:/usr/local/bin:/usr/sbin:/usr/bin:/sbin:/bin"

/-- The search path of a session. -/
def pathOf (s : Session) : Bytes := (s.valueOf? searchPath).getD []

/-- The path of a name in a directory. -/
def pathIn (place name : Bytes) : Bytes := if place.isEmpty then name else place ++ slash :: name

/-- The path of a name at a place in a search path. -/
def pathAt (path name : Bytes) (place : Nat) : Bytes :=
  pathIn ((splitAt colon path).getD place []) name

/-- Why something was not found. -/
def absence (errno : Errno) : Bytes :=
  if errno = .noEntry || errno = .notDirectory then utf8 "not found" else reason errno

/-- What became of a search. -/
inductive Search where
  /-- A program was found at a place. -/
  | found (place : Nat)
  /-- No program was found, for a reason. -/
  | failed (errno : Errno)

/-- Looks for a program in directories, of which the first one has a number. Up to a known place
absolute paths are not looked at again. -/
def search (name : Bytes) (known : Option Nat) (number : Nat) (last : Errno) :
    List Bytes → Act Search
  | [] => pure (.failed last)
  | place :: rest => do
    let candidate := pathIn place name
    if candidate.head? = some slash && known.any (number ≤ ·) then
      if known = some number then return .found number
      search name known (number + 1) last rest
    else
      match (← ask (.inspect candidate true) : Except Errno FileFacts) with
      | .error errno =>
        let last := if errno = .noEntry || errno = .notDirectory then last else errno
        search name known (number + 1) last rest
      | .ok facts =>
        if facts.kind = .regular then return .found number
        else search name known (number + 1) .accessDenied rest

/-- Looks for a program in the search path of the session and remembers where it was found. -/
def searchRemembering (name : Bytes) : Act Search := do
  let s ← get
  let known := s.locations.lookup name
  match known.filter (!·.doubtful) with
  | some l => return .found l.place
  | none =>
    let result ← search name (known.map (·.place)) 0 .noEntry (splitAt colon (pathOf s))
    match result with
    | .found place =>
      modify fun s => { s with locations := assign name ⟨place, false⟩ s.locations }
    | .failed _ => modify fun s => { s with locations := remove name s.locations }
    return result

/-- Where a word is looked for. -/
structure Scope where
  /-- Whether named commands count. -/
  definitions : Bool
  /-- A search path in the stead of that of the session. -/
  path : Option Bytes

/-- Everywhere. -/
def Scope.everywhere : Scope := ⟨true, none⟩

/-- What a word stands for that is not looked for in the search path. -/
def known? (s : Session) (scope : Scope) (name : Bytes) : Option Found :=
  if name.contains slash then some (.program none)
  else match (if scope.definitions then s.definitions.lookup name else none) with
    | some body => some (.definition body)
    | none => (Builtin.ofName? name).map .builtin

/-- What a word stands for. -/
def find (scope : Scope) (complains : Bool) (name : Bytes) : Act Found := do
  match known? (← get) scope name with
  | some found => return found
  | none =>
    let result ← match scope.path with
      | none => searchRemembering name
      | some path => search name none 0 .noEntry (splitAt colon path)
    match result with
    | .found place => return .program (some place)
    | .failed errno =>
      if complains then warn (name ++ utf8 ": " ++ absence errno)
      return .unknown

/-! ### Descriptions -/

/-- Whether something is at a path. -/
def isThere (path : Bytes) : Act Bool := do
  match (← ask (.inspect path true) : Except Errno FileFacts) with
  | .ok _ => return true
  | .error _ => return false

/-- Describes what was found, and tells the status. -/
def describeFound (verbose : Bool) (path : Bytes) (isRemembered : Bool) (name : Bytes)
    (found : Found) : Act Nat := do
  let front := if verbose then name else []
  match found with
  | .definition _ => putLine (if verbose then name ++ utf8 " is a shell function" else name)
  | .builtin b =>
    putLine (if verbose then name ++ utf8 (" is a " ++ (if b.isSpecial then "special " else "") ++
      "shell builtin") else name)
  | .program place =>
    let goal := match place with
      | none => name
      | some place => pathAt path name place
    putLine (if verbose then front ++ utf8 (if isRemembered then " is a tracked alias for "
      else " is ") ++ goal else goal)
  | .unknown =>
    if verbose then put (name ++ utf8 ": not found\n")
    return 127
  return 0

/-- Describes what a word stands for, and tells the status. The usual search path can be used in the
stead of that of the session. -/
def describe (verbose isUsual : Bool) (name : Bytes) : Act Nat := do
  let s ← get
  if (Reserved.ofBytes? name).isSome then
    putLine (if verbose then name ++ utf8 " is a shell keyword" else name)
    return 0
  match s.aliases.lookup name with
  | some text =>
    if verbose then putLine (name ++ utf8 " is an alias for " ++ text)
    else
      put (utf8 "alias ")
      Assigning.showAlias name text
    return 0
  | none =>
    let path := if isUsual then usualPath else pathOf s
    match if isUsual then none else s.locations.lookup name with
    | some l => describeFound verbose path true name (.program (some l.place))
    | none =>
      if name.contains slash && !(← isThere name) then
        describeFound verbose path false name .unknown
      else
        let scope : Scope := ⟨true, if isUsual then some path else none⟩
        describeFound verbose path false name (← find scope false name)

/-- Describes what words stand for. -/
def describeAll (names : List Bytes) : Act Nat := Assigning.eachOf (describe true false) names

/-- Describes the word behind the options, if they ask for that. -/
def describeChosen (arguments : List Bytes) : Act Nat := do
  let (options, operands) ← readOptions "pvV" arguments
  let has (c : Char) : Bool := options.any fun option => option.letter = byteOf c
  match operands with
  | name :: _ => if has 'v' || has 'V' then describe (has 'V') (has 'p') name else return 0
  | [] => return 0

/-! ### Remembered places -/

/-- How many places the table of commands has. -/
def commandPlaces : Nat := 31

/-- Shows where programs were found. -/
def showPlaces : Act Unit := do
  let s ← get
  let entries := s.locations.mergeSort fun a b =>
    Assigning.tablePlace commandPlaces a.1 ≤ Assigning.tablePlace commandPlaces b.1
  entries.forM fun (name, l) =>
    putLine (pathAt (pathOf s) name l.place ++ if l.doubtful then [star] else [])

/-- Looks for a program anew, and tells the status. -/
def refresh (name : Bytes) : Act Nat := do
  modify fun s => { s with locations := remove name s.locations }
  match ← find .everywhere true name with
  | .unknown => return 1
  | _ => return 0

/-- Shows or changes what is remembered about programs. -/
def hash (arguments : List Bytes) : Act Nat := do
  let (options, operands) ← readOptions "r" arguments
  if !options.isEmpty then
    modify fun s => { s with locations := [] }
    return 0
  if operands.isEmpty then
    showPlaces
    return 0
  Assigning.eachOf refresh operands

/-! ### Starting programs -/

/-- The path of the script interpreter. -/
def interpreter : Bytes := utf8 "/bin/sh"

/-- Whether a byte does not stand in a script: most of those that control something. -/
def isForeign (b : UInt8) : Bool := (b < 32 && !(9 ≤ b && b ≤ 15) && b ≠ 27) || b = 127

/-- How many bytes of a file show whether it can be a script. -/
def sampleSize : Nat := 128

/-- Whether the beginning of a file, its first line at most, can be that of a script. -/
def canBeScript (path : Bytes) : Act Bool := do
  match (← ask (.openFile path .input) : Except Errno Fd) with
  | .error _ => return true
  | .ok fd =>
    let sample : Except Errno ByteArray ← ask (.read fd sampleSize)
    ask (.close fd)
    match sample with
    | .error _ => return true
    | .ok bytes => return !(bytes.toList.takeWhile (· ≠ newline)).any isForeign

/-- Starts a program in the stead of the interpreter. A text in no known format is a script. -/
def start (path : Bytes) (arguments : List Bytes) : Act Errno := do
  let s ← get
  let errno : Errno ← ask (.exec path arguments s.bindings)
  if errno ≠ .unknownFormat || path = interpreter || !(← canBeScript path) then return errno
  ask (.exec interpreter (interpreter :: path :: arguments.tail) s.bindings)

/-- Starts a program that is in one of some directories. -/
def startIn (arguments : List Bytes) (last : Errno) : List Bytes → Act Errno
  | [] => pure last
  | place :: rest => do
    let errno ← start (pathIn place (arguments.headD [])) arguments
    startIn arguments (if errno = .noEntry || errno = .notDirectory then last else errno) rest

/-- The status of a program that could not be started. -/
def failureStatus (errno : Errno) : Nat :=
  if errno = .noEntry || errno = .notDirectory || errno = .linkLoop || errno = .nameTooLong then 127
  else 126

/-- Goes on as a program that is looked for in a search path from a place on. -/
def become {α : Type} (arguments : List Bytes) (path : Bytes) (place : Nat) : Act α := do
  flush
  let name := arguments.headD []
  let errno ← if name.contains slash then start name arguments
    else startIn arguments .noEntry ((splitAt colon path).drop place)
  failWith (failureStatus errno) .ended (name ++ utf8 ": " ++ absence errno)

end Locating

end CommandShell.Machine.Script
