import CommandShell.Errno
import CommandShell.Machine.Ascii
import CommandShell.Machine.Calendar

/-!
# File trees

The files of a machine: directories, regular files, symbolic links, devices, names for the open
descriptors of a process, and the programs that the machine has by itself. A node keeps its
identity when its name is taken away, so that whoever has opened it can go on. Main statement: a
path is followed step by step, and the number of links on the way is limited, which is why
`Tree.walk` ends.
-/

namespace CommandShell.Machine

open Ascii

/-- The identity of a node. -/
abbrev NodeId := Nat

/-- The name of a file within its directory, or a path. -/
abbrev Name := Bytes

/-- A device file. -/
inductive Device where
  /-- Takes everything and gives nothing. -/
  | null
  /-- Takes everything and gives zeros without end. -/
  | zero
  /-- Has no room for anything, and gives zeros without end. -/
  | full
  /-- The terminal of a process, which no process has. -/
  | terminal
  deriving DecidableEq, Repr

/-- What a node holds. -/
inductive Content where
  /-- The names in a directory, in ascending order, and the directory above it. -/
  | directory (parent : NodeId) (entries : List (Name × NodeId))
  /-- The bytes of a regular file. -/
  | regular (bytes : ByteArray)
  /-- The path that a symbolic link stands for. -/
  | link (target : Name)
  /-- A device. -/
  | device (device : Device)
  /-- What a descriptor of the process that asks refers to. -/
  | descriptor (fd : Nat)
  /-- A program of the machine. -/
  | tool (name : String)

/-- A file of any kind. -/
structure Node where
  /-- What it holds. -/
  content : Content
  /-- Its permission bits. -/
  mode : Nat
  /-- When what it holds was changed last. -/
  modified : Instant

/-- All files of a machine. The identity of a node is its index; the root has the first one. -/
structure Tree where
  /-- The nodes, those without a name included. -/
  nodes : Array Node

/-- The result of following a path: the directory of its last part, that part, and the node that has
this name, if there is one. -/
structure Place where
  /-- The directory that holds the node, or would hold it. -/
  directory : NodeId
  /-- The name of the node in it. -/
  name : Name
  /-- The node. -/
  node : Option NodeId
  /-- How many links can still be followed. -/
  links : Nat

/-- The name that a directory has in itself. -/
def dot : Name := [point]

/-- The name of the directory above. -/
def dotDot : Name := [point, point]

/-- The longest name that a file can have. -/
def maxName : Nat := 255

/-- The length from which on a path is too long. -/
def maxPath : Nat := 4096

/-- How many links can be followed on the way along a path. -/
def maxLinks : Nat := 40

/-- Whether a path counts from the root. -/
def isAbsolute (path : Name) : Bool := path.head? == some slash

/-- Whether a path ends in a slash. -/
def endsInSlash (path : Name) : Bool := path.getLast? == some slash

/-- The parts of a text between separators, the empty ones included. -/
def splitAt (separator : UInt8) : Bytes → List Bytes
  | [] => [[]]
  | b :: rest =>
    if b = separator then [] :: splitAt separator rest
    else match splitAt separator rest with
      | [] => [[b]]
      | part :: parts => (b :: part) :: parts

/-- The parts of a path that are not empty. -/
def namesIn (path : Name) : List Name := (splitAt slash path).filter (!·.isEmpty)

/-- The parts of a path. A slash at its end asks for a directory, as a last part `.` does. -/
def partsOf (path : Name) : List Name :=
  if endsInSlash path then namesIn path ++ [dot] else namesIn path

/-- Puts an entry at its place in a directory. -/
def insertEntry (name : Name) (node : NodeId) : List (Name × NodeId) → List (Name × NodeId)
  | [] => [(name, node)]
  | (other, id) :: rest =>
    if name < other then (name, node) :: (other, id) :: rest
    else if name = other then (name, node) :: rest
    else (other, id) :: insertEntry name node rest

namespace Tree

/-- The identity of the root. -/
def root : NodeId := 0

/-- The tree that has nothing but an empty root. -/
def empty : Tree := ⟨#[⟨.directory root [], 0o755, 0⟩]⟩

/-- What a node holds. -/
def content? (t : Tree) (id : NodeId) : Option Content := (t.nodes[id]?).map (·.content)

/-- The permission bits of a node. -/
def modeOf (t : Tree) (id : NodeId) : Nat := ((t.nodes[id]?).map (·.mode)).getD 0

/-- When a node was changed last. -/
def modifiedAt (t : Tree) (id : NodeId) : Instant := ((t.nodes[id]?).map (·.modified)).getD 0

/-- Notes when a node was changed. -/
def stamp (t : Tree) (id : NodeId) (time : Instant) : Tree :=
  ⟨t.nodes.modify id fun node => { node with modified := time }⟩

/-- The directory above a directory, and the entries of the directory. -/
def directory? (t : Tree) (id : NodeId) : Option (NodeId × List (Name × NodeId)) :=
  match t.content? id with
  | some (.directory parent entries) => some (parent, entries)
  | _ => none

/-- Follows the parts of a path. A link in the last part is followed only if `follow` says so. -/
def walk (t : Tree) (follow : Bool) (links : Nat) (current : NodeId) (parts : List Name) :
    Except Errno Place :=
  match parts with
  | [] => .ok ⟨current, dot, some current, links⟩
  | part :: rest =>
    match t.directory? current with
    | none => .error .notDirectory
    | some (parent, entries) =>
      if part = dot then t.walk follow links current rest
      else if part = dotDot then t.walk follow links parent rest
      else if maxName < part.length then .error .nameTooLong
      else match entries.lookup part with
        | none => if rest.isEmpty then .ok ⟨current, part, none, links⟩ else .error .noEntry
        | some id =>
          match t.content? id with
          | some (.link target) =>
            if rest.isEmpty && !follow then .ok ⟨current, part, some id, links⟩
            else match links with
              | 0 => .error .linkLoop
              | links + 1 =>
                t.walk follow links (if isAbsolute target then root else current)
                  (partsOf target ++ rest)
          | _ =>
            if rest.isEmpty then .ok ⟨current, part, some id, links⟩
            else t.walk follow links id rest
termination_by (links, parts.length)

/-- The directory from which a path counts. -/
def origin (start : NodeId) (path : Name) : NodeId := if isAbsolute path then root else start

/-- Follows a path from a directory. -/
def locate (t : Tree) (follow : Bool) (start : NodeId) (path : Name) : Except Errno Place :=
  if path.isEmpty then .error .noEntry
  else if maxPath ≤ path.length then .error .nameTooLong
  else t.walk follow maxLinks (origin start path) (partsOf path)

/-- The node at a path. -/
def find (t : Tree) (start : NodeId) (path : Name) : Except Errno NodeId :=
  match t.locate true start path with
  | .error errno => .error errno
  | .ok place =>
    match place.node with
    | none => .error .noEntry
    | some id => .ok id

/-- Whether a directory still has a name. -/
def isNamed (t : Tree) (id : NodeId) : Bool :=
  match t.directory? id with
  | none => false
  | some (parent, _) =>
    id == root || ((t.directory? parent).any fun (_, entries) => entries.any (·.2 == id))

/-- Changes what a node holds. -/
def change (t : Tree) (id : NodeId) (f : Content → Content) : Tree :=
  ⟨t.nodes.modify id fun node => { node with content := f node.content }⟩

/-- Gives a name in a directory to a node. -/
def enter (t : Tree) (directory : NodeId) (name : Name) (id : NodeId) : Tree :=
  t.change directory fun
    | .directory parent entries => .directory parent (insertEntry name id entries)
    | other => other

/-- Takes a name away from a directory. -/
def forget (t : Tree) (directory : NodeId) (name : Name) : Tree :=
  t.change directory fun
    | .directory parent entries => .directory parent (entries.filter (·.1 ≠ name))
    | other => other

/-- Makes a node with a name in a directory, which is changed thereby. -/
def create (t : Tree) (directory : NodeId) (name : Name) (node : Node) : NodeId × Tree :=
  let id := t.nodes.size
  (id, (Tree.enter ⟨t.nodes.push node⟩ directory name id).stamp directory node.modified)

/-- The bytes of a regular file. -/
def bytesOf (t : Tree) (id : NodeId) : ByteArray :=
  match t.content? id with
  | some (.regular bytes) => bytes
  | _ => .empty

/-- The number of bytes in a regular file. -/
def sizeOf (t : Tree) (id : NodeId) : Nat := (t.bytesOf id).size

/-- Removes all bytes of a regular file. -/
def clear (t : Tree) (id : NodeId) (time : Instant) : Tree :=
  match t.content? id with
  | some (.regular _) => (t.change id fun _ => .regular .empty).stamp id time
  | _ => t

/-- Some bytes with others written over them at an offset. -/
def overwrite (old : ByteArray) (offset : Nat) (new : ByteArray) : ByteArray :=
  if offset = old.size then old ++ new
  else
    let gap : ByteArray := ⟨Array.replicate (offset - old.size) 0⟩
    old.extract 0 offset ++ gap ++ new ++ old.extract (offset + new.size) old.size

/-- Writes bytes to a regular file at an offset. Nothing is changed if there are none. -/
def writeAt (t : Tree) (id : NodeId) (offset : Nat) (bytes : ByteArray) (time : Instant) : Tree :=
  if bytes.isEmpty then t
  else
    let written := t.change id fun
      | .regular old => .regular (overwrite old offset bytes)
      | other => other
    written.stamp id time

/-- The place of a file that is made if it is missing. The links in the last part of the path are
followed one after the other; behind none of them a slash may stand, since it asks for a directory,
whether there is one or not. -/
def placeToMake (t : Tree) (links : Nat) (start : NodeId) (path : Name) : Except Errno Place :=
  match (namesIn path).getLast? with
  | none => .error .isDirectory
  | some name =>
    match t.walk true links (origin start path) (namesIn path).dropLast with
    | .error errno => .error errno
    | .ok above =>
      match above.node with
      | none => .error .noEntry
      | some directory =>
        match t.directory? directory with
        | none => .error .notDirectory
        | some (_, entries) =>
          if name = dot || name = dotDot || endsInSlash path then .error .isDirectory
          else if maxName < name.length then .error .nameTooLong
          else match entries.lookup name with
            | none => .ok ⟨directory, name, none, above.links⟩
            | some id =>
              match t.content? id, links with
              | some (.link _), 0 => .error .linkLoop
              | some (.link target), links + 1 =>
                if above.links = 0 then .error .linkLoop
                else t.placeToMake (min links (above.links - 1)) directory target
              | _, _ => .ok ⟨directory, name, some id, above.links⟩
termination_by links
decreasing_by exact Nat.lt_succ_of_le (Nat.min_le_left _ _)

/-- The node that is opened for writing at a path. It is made with some permission bits if it is
missing. -/
def openToMake (t : Tree) (start : NodeId) (path : Name) (mode : Nat) (time : Instant) :
    Except Errno (NodeId × Tree) :=
  if path.isEmpty then .error .noEntry
  else if maxPath ≤ path.length then .error .nameTooLong
  else match t.placeToMake maxLinks start path with
    | .error errno => .error errno
    | .ok place =>
      match place.node with
      | none =>
        if t.isNamed place.directory then
          .ok (t.create place.directory place.name ⟨.regular .empty, mode, time⟩)
        else .error .noEntry
      | some id =>
        match t.content? id with
        | some (.directory _ _) => .error .isDirectory
        | _ => .ok (id, t)

/-- The path of a directory, its name behind that of the directory above. -/
def climb (t : Tree) : Nat → NodeId → Bytes → Except Errno Bytes
  | 0, _, _ => .error .linkLoop
  | fuel + 1, id, below =>
    if id = root then .ok (if below.isEmpty then [slash] else below)
    else match t.directory? id with
      | none => .error .notDirectory
      | some (parent, _) =>
        match (t.directory? parent).bind fun (_, entries) => entries.find? (·.2 == id) with
        | none => .error .noEntry
        | some (name, _) => t.climb fuel parent (slash :: name ++ below)

/-- The path of a directory that still has a name. -/
def pathOf (t : Tree) (id : NodeId) : Except Errno Bytes := t.climb (t.nodes.size + 1) id []

/-- The path without links and dots of something that exists. The path as it was given may be as
long as it likes. -/
def canonicalize (t : Tree) (start : NodeId) (path : Name) : Except Errno Bytes := do
  if path.isEmpty then throw .noEntry
  if !isAbsolute path then
    let _ ← t.pathOf start
  let place ← t.walk true maxLinks (origin start path) (partsOf path)
  match place.node with
  | none => .error .noEntry
  | some id =>
    if (t.directory? id).isSome then t.pathOf id
    else
      let above ← t.pathOf place.directory
      .ok ((if above = [slash] then [] else above) ++ slash :: place.name)

/-- The directory at a path. -/
def openDirectory (t : Tree) (start : NodeId) (path : Name) : Except Errno NodeId :=
  match t.find start path with
  | .error errno => .error errno
  | .ok id => if (t.directory? id).isSome then .ok id else .error .notDirectory

/-- Removes an empty directory. A path that ends in `.` names no entry of a directory, and one that
ends in `..` names a directory that is not empty. -/
def removeDirectory (t : Tree) (start : NodeId) (path : Name) (time : Instant) :
    Except Errno Tree := do
  if path.isEmpty then throw .noEntry
  if maxPath ≤ path.length then throw .nameTooLong
  match (namesIn path).getLast? with
  | none => .error .busy
  | some name =>
    let above ← t.walk true maxLinks (origin start path) (namesIn path).dropLast
    match above.node with
    | none => .error .noEntry
    | some directory =>
      match t.directory? directory with
      | none => .error .notDirectory
      | some (_, entries) =>
        if name = dotDot then .error .notEmpty
        else if name = dot then .error .invalid
        else if maxName < name.length then .error .nameTooLong
        else match entries.lookup name with
          | none => .error .noEntry
          | some id =>
            match t.directory? id with
            | none => .error .notDirectory
            | some (_, inside) =>
              if !inside.isEmpty then .error .notEmpty
              else .ok ((t.forget directory name).stamp directory time)

/-- The directory at the end of a sequence of names, made as far as it is missing. -/
def ensureDirectories (t : Tree) (current : NodeId) (time : Instant) :
    List Name → NodeId × Tree
  | [] => (current, t)
  | name :: rest =>
    match (t.directory? current).bind fun (_, entries) => entries.lookup name with
    | some id => t.ensureDirectories id time rest
    | none =>
      let (id, t) := t.create current name ⟨.directory current [], 0o755, time⟩
      t.ensureDirectories id time rest

/-- Puts a node at a path that counts from a directory. The directories on the way are made. -/
def place (t : Tree) (start : NodeId) (path : Name) (node : Node) : Tree :=
  match (namesIn path).getLast? with
  | none => t
  | some name =>
    let (directory, t) :=
      t.ensureDirectories (origin start path) node.modified (namesIn path).dropLast
    (t.create directory name node).2

/-- Makes a directory at a path that counts from a directory. -/
def placeDirectory (t : Tree) (start : NodeId) (path : Name) (time : Instant) : Tree :=
  (t.ensureDirectories (origin start path) time (namesIn path)).2

/-- Takes all names below a directory away, `depth` levels deep at most. -/
def strip (t : Tree) : Nat → NodeId → Tree
  | 0, _ => t
  | depth + 1, id =>
    match t.directory? id with
    | none => t
    | some (parent, entries) =>
      let t := t.change id fun _ => .directory parent []
      entries.foldl (fun t (_, child) => t.strip depth child) t

/-- Takes the name at a path away, whatever it names, and all names below it. -/
def remove (t : Tree) (start : NodeId) (path : Name) : Tree :=
  match t.locate false start path with
  | .error _ => t
  | .ok place =>
    match place.node with
    | none => t
    | some id => (t.forget place.directory place.name).strip (t.nodes.size + 1) id

/-- Everything below a directory with its path, `depth` levels deep at most. -/
def below (t : Tree) : Nat → NodeId → Bytes → List (Bytes × NodeId)
  | 0, _, _ => []
  | depth + 1, id, before =>
    match t.directory? id with
    | none => []
    | some (_, entries) =>
      entries.flatMap fun (name, node) =>
        (before ++ name, node) :: t.below depth node (before ++ name ++ [slash])

/-- Everything below a directory with its path. -/
def listing (t : Tree) (id : NodeId) : List (Bytes × NodeId) := t.below (t.nodes.size + 1) id []

end Tree

end CommandShell.Machine
