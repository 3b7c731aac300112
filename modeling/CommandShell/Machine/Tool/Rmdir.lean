import CommandShell.Machine.Tool.Options
import CommandShell.Machine.Tool.Quoting

/-!
# Removing directories

The tool that removes empty directories, and the directories above them if that is wanted.
-/

namespace CommandShell.Machine.Tool.Rmdir

open Ascii

/-- What is wanted. -/
structure Settings where
  /-- Whether the directories above are removed too. -/
  parents : Bool
  /-- Whether a directory that is not empty is no failure. -/
  lenient : Bool
  /-- Whether each removal is announced. -/
  verbose : Bool

/-- A path without the slashes at its end. The root keeps one. -/
def withoutSlashes (path : Bytes) : Bytes :=
  let bare := (path.reverse.dropWhile (· = slash)).reverse
  if bare.isEmpty then path.take 1 else bare

/-- The path of the directory above, if a path names one. -/
def above? (path : Bytes) : Option Bytes :=
  if path.contains slash then
    some (withoutSlashes ((path.reverse.dropWhile (· ≠ slash)).reverse))
  else none

/-- Announces a removal. -/
def announce (t : Invocation) (s : Settings) (path : Bytes) : Act Unit := do
  if s.verbose then
    putText (t.name ++ utf8 ": removing directory, " ++ shellQuoted path ++ [newline])

/-- Whether a failure counts for nothing. -/
def isIgnored (s : Settings) (path : Bytes) (errno : Errno) : Act Bool := do
  if !s.lenient then return false
  if errno = .notEmpty then return true
  if errno = .busy then
    match (← ask (.listDirectory path) : Except Errno (List Name)) with
    | .ok names => return !names.isEmpty
    | .error _ => return false
  return false

/-- Whether a path with a slash at its end names a link. -/
def isSlashedLink (path : Bytes) : Act Bool := do
  if path.getLast? ≠ some slash then return false
  let followed : Except Errno FileFacts ← ask (.inspect path true)
  let leads := match followed with
    | .ok facts => facts.kind = .directory
    | .error errno => errno ≠ .notDirectory
  if !leads then return false
  match (← ask (.inspect (withoutSlashes path) false) : Except Errno FileFacts) with
  | .ok facts => return facts.kind = .link
  | .error _ => return false

/-- Removes the directories above a path, as long as they are empty. -/
def removeAbove (t : Invocation) (s : Settings) (path : Bytes) : Nat → Act Bool
  | 0 => pure true
  | fuel + 1 => do
    match above? path with
    | none => return true
    | some path =>
      announce t s path
      match (← ask (.removeDirectory path) : Except Errno Unit) with
      | .ok () => removeAbove t s path fuel
      | .error errno =>
        if ← isIgnored s path errno then return true
        let wording := if errno = .notDirectory then "failed to remove "
          else "failed to remove directory "
        t.complainOf (utf8 wording ++ shellQuoted path) errno
        return false

/-- Removes the directory at a path. -/
def remove (t : Invocation) (s : Settings) (path : Bytes) : Act Bool := do
  announce t s path
  match (← ask (.removeDirectory path) : Except Errno Unit) with
  | .ok () =>
    if s.parents then removeAbove t s (withoutSlashes path) (path.length + 1) else return true
  | .error errno =>
    if ← isIgnored s path errno then return true
    if errno = .notDirectory && (← isSlashedLink path) then
      t.complain (utf8 "failed to remove " ++ shellQuoted path ++
        utf8 ": Symbolic link not followed")
    else t.complainOf (utf8 "failed to remove " ++ shellQuoted path) errno
    return false

/-- Removes the directories of operands, one after the other. -/
def removeAll (t : Invocation) (s : Settings) (code : Nat) : List Bytes → Act Nat
  | [] => pure code
  | path :: rest => do
    let done ← remove t s path
    removeAll t s (if done then code else 1) rest

/-- The options. -/
def rules : List OptionRule := [.nameOnly "ignore-fail-on-non-empty",
  ⟨"parents", none, some "path", .absent⟩, .plain 'p' "parents", .plain 'v' "verbose"]

/-- What an option asks for. -/
def choose (s : Settings) (key : String) : Settings :=
  match key with
  | "parents" => { s with parents := true }
  | "verbose" => { s with verbose := true }
  | _ => { s with lenient := true }

/-- Removes empty directories. -/
def tool (t : Invocation) : Task :=
  t.run 1 (withOptions t rules true 1 ⟨false, false, false⟩ (fun s key _ => pure (choose s key))
    fun s operands => do
      if operands.isEmpty then t.refuse 1 (utf8 "missing operand")
      removeAll t s 0 operands)

end CommandShell.Machine.Tool.Rmdir
