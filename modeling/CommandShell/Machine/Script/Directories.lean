import CommandShell.Machine.Script.Options

/-!
# The working directory of a script

The commands of an interpreter that change the working directory and write its path. The path is
kept as it was entered: a name behind a link is taken away with the link, and not looked up. Main
statement: the directory above that of a name is the one in which the name stands
(`resolve_append_dotDot`).
-/

namespace CommandShell.Machine.Script.Directories

open Ascii Tool

/-- The variable that holds the path of the working directory. -/
def current : Bytes := utf8 "PWD"

/-- The variable that holds the path of the last working directory. -/
def last : Bytes := utf8 "OLDPWD"

/-! ### Paths as they are entered -/

/-- The names of a path behind other names, the last one first. -/
def resolve (names : List Name) (path : List Name) : List Name :=
  path.foldl (fun names name =>
    if name = dot then names else if name = dotDot then names.tail else name :: names) names

/-- The directory above that of a name is the one in which the name stands. -/
theorem resolve_append_dotDot (names path : List Name) (name : Name) (h : name ≠ dot)
    (h' : name ≠ dotDot) : resolve names (path ++ [name, dotDot]) = resolve names path := by
  have hd : dotDot ≠ dot := by decide
  simp [resolve, h, h', hd]

/-- What a path from the root begins with: two slashes stay two. -/
def rootOf (path : Bytes) : Bytes :=
  match path with
  | slash :: slash :: b :: _ => if b = slash then [slash] else [slash, slash]
  | [slash, slash] => [slash, slash]
  | _ => [slash]

/-- The path that is entered from a directory whose path may be unknown. -/
def enteredPath? (directory : Option Bytes) (path : Bytes) : Option Bytes :=
  let resolved (base : Bytes) (names : List Name) : Bytes :=
    rootOf base ++ List.intercalate [slash] (resolve names (namesIn path)).reverse
  if isAbsolute path then some (resolved path [])
  else directory.map fun directory => resolved directory (namesIn directory).reverse

/-! ### Entering -/

/-- The path of the working directory without links. -/
def physical : Act (Option Bytes) := do
  match (← ask .whereAmI : Except Errno Name) with
  | .ok path => return some path
  | .error errno =>
    warn (utf8 "getcwd() failed: " ++ reason errno)
    return none

/-- Remembers the path of the working directory, or finds it out. -/
def remember (path : Option Bytes) (keepsLast : Bool) : Act Unit := do
  let old := (← get).directory
  if keepsLast then setVariable last (old.getD []) true
  let path ← match path with
    | some path => pure (some path)
    | none => physical
  modify fun s => { s with
    directory := path
    locations := s.locations.map fun (name, l) => (name, { l with doubtful := true }) }
  setVariable current (path.getD []) true

/-- Enters a directory, and tells whether that was possible. -/
def enter (isPhysical : Bool) (path : Bytes) : Act Bool := do
  let s ← get
  let entered := if isPhysical then none else enteredPath? s.directory path
  match (← ask (.enter (entered.getD path)) : Except Errno Unit) with
  | .error _ => return false
  | .ok () =>
    remember entered true
    return true

/-- Whether a path is not looked for in other directories. -/
def isDirect (path : Bytes) : Bool :=
  match splitAt slash path with
  | name :: rest => (name.isEmpty && !rest.isEmpty) || name = dot || name = dotDot
  | [] => false

/-- Whether a path leads to a directory. -/
def leadsToDirectory (path : Bytes) : Act Bool := do
  match (← ask (.inspect path true) : Except Errno FileFacts) with
  | .ok facts => return facts.kind = .directory
  | .error _ => return false

/-- The first one of some directories in which a path leads to a directory, the path behind it, and
whether it is to be written. -/
def lookFor (path : Bytes) : List Bytes → Act (Option (Bytes × Bool))
  | [] => pure none
  | place :: rest => do
    let candidate := if place.isEmpty then path else place ++ slash :: path
    if ← leadsToDirectory candidate then return some (candidate, !place.isEmpty)
    lookFor path rest

/-- Whether the last one of the options that say so asks for paths without links. -/
def asksForPhysical (options : List Choice) : Bool :=
  options.getLast?.any fun option => option.letter = byteOf 'P'

/-- Changes the working directory. -/
def change (arguments : List Bytes) : Act Nat := do
  let (options, operands) ← readOptions "LP" arguments
  let isPhysical := asksForPhysical options
  let s ← get
  let (goal, shows) := match operands with
    | [] => ((s.valueOf? (utf8 "HOME")).getD [], false)
    | [minus] :: _ => ((s.valueOf? last).getD [], true)
    | operand :: _ => (operand, false)
  let places := if isDirect goal then [] else
    ((s.valueOf? (utf8 "CDPATH")).map (splitAt colon)).getD []
  let goal := if goal.isEmpty then dot else goal
  let (path, shows) := match ← lookFor goal places with
    | some (candidate, isShown) => (candidate, shows || isShown)
    | none => (goal, shows)
  if !(← enter isPhysical path) then fail (utf8 "can't cd to " ++ goal)
  if shows then putLine ((← get).directory.getD [])
  return 0

/-- Writes the path of the working directory. -/
def write (arguments : List Bytes) : Act Nat := do
  let (options, _) ← readOptions "LP" arguments
  if asksForPhysical options then putLine ((← physical).getD [])
  else putLine ((← get).directory.getD [])
  return 0

end CommandShell.Machine.Script.Directories
