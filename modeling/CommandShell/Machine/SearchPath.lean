import CommandShell.ArgumentVector
import CommandShell.Machine.Tree

/-!
# Search paths

Where a program is looked for whose name has no slash, and what runs a file in no known format. The
directories are looked at in their order, and only some errors let the search go on.
-/

namespace CommandShell.Machine

open Ascii

/-- The path of the script interpreter. -/
def interpreterPath : Name := utf8 "/bin/sh"

/-- Whether the search for a program goes on after an error. -/
def searchGoesOn (errno : Errno) : Bool :=
  errno = .accessDenied || errno = .noEntry || errno = .notDirectory

/-- The directories that a search path stands for. One that is as long as a path can be is passed
over: in its stead the working directory is looked at, unless it is the last one. -/
def searchedDirectories (size : Nat) : List Name → List Name
  | [] => []
  | [place] => if size ≤ place.length then [] else [place]
  | place :: rest =>
    (if size ≤ place.length then [] else place) :: searchedDirectories size rest

/-- From which length on a directory of a search path is passed over. -/
def searchedSize (path : Bytes) : Nat := min path.length (maxPath - 1) + 1

/-- The search path of a process that has none. -/
def defaultSearchPath : Bytes := utf8 "/bin:/usr/bin"

end CommandShell.Machine
