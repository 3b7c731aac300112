import CommandShell.Machine.Account
import CommandShell.Machine.System

/-!
# Starting a machine

A machine with the files that every machine has, and a shell on it. The streams of the shell are
files without a name; what was written to them can be looked at afterwards.
-/

namespace CommandShell.Machine

/-- The names of all programs of the machine. -/
def toolNames : List String := interpreterName :: Tool.catalogue.map (·.1)

/-- When the files that every machine has were made: the day before it is started. -/
def fixtureTime : Instant := State.startTime - Calendar.instant Calendar.dayLength 0

/-- A file that every machine has. -/
def fixture (path : String) (content : Content) (mode : Nat) (t : Tree) : Tree :=
  t.place Tree.root (utf8 path) ⟨content, mode, fixtureTime⟩

/-- The directories that every machine has. -/
def standardDirectories : List String := ["/boot", "/dev", "/etc", "/home", "/media", "/mnt",
  "/opt", "/proc/0", "/proc/self/fd", "/root", "/run/lock", "/srv", "/sys", "/tmp", "/usr/bin",
  "/usr/games", "/usr/include", "/usr/lib", "/usr/lib64", "/usr/libexec", "/usr/local/bin",
  "/usr/local/etc", "/usr/local/games", "/usr/local/include", "/usr/local/lib", "/usr/local/sbin",
  "/usr/local/share/man", "/usr/local/src", "/usr/sbin", "/usr/share", "/usr/src", "/var/backups",
  "/var/cache", "/var/lib", "/var/local", "/var/log", "/var/mail", "/var/opt", "/var/spool",
  "/var/tmp"]

/-- The links that every machine has. -/
def standardLinks : List (String × String) := [("/bin", "usr/bin"), ("/lib", "usr/lib"),
  ("/lib64", "usr/lib64"), ("/sbin", "usr/sbin"), ("/usr/local/man", "share/man"),
  ("/var/lock", "/run/lock"), ("/var/run", "/run"), ("/var/spool/mail", "../mail"),
  ("/dev/fd", "/proc/self/fd"), ("/dev/stdin", "/proc/self/fd/0"),
  ("/dev/stdout", "/proc/self/fd/1"), ("/dev/stderr", "/proc/self/fd/2")]

/-- The devices that every machine has. -/
def standardDevices : List (String × Device) := [("/dev/null", .null), ("/dev/zero", .zero),
  ("/dev/full", .full), ("/dev/tty", .terminal)]

/-- How many descriptors of a process have a name. -/
def namedDescriptors : Nat := 64

/-- The commands that are run for every user who logs in. -/
def loginScript : String :=
  "PATH=/usr/local/sbin:/usr/local/bin:/usr/sbin:/usr/bin:/sbin:/bin\n" ++
    "export PATH\n" ++
    "if [ \"$PS1\" ]; then\n" ++
    "  PS1='# '\n" ++
    "fi\n" ++
    "unset i\n"

/-- The files that every machine has. -/
def standardTree : Tree :=
  let t := standardDirectories.foldl (fun t path =>
    t.placeDirectory Tree.root (utf8 path) fixtureTime) .empty
  let t := standardLinks.foldl (fun t (path, target) =>
    fixture path (.link (utf8 target)) 0o777 t) t
  let t := standardDevices.foldl (fun t (path, device) => fixture path (.device device) 0o666 t) t
  let t := (List.range namedDescriptors).foldl (fun t fd =>
    fixture ("/proc/self/fd/" ++ toString fd) (.descriptor fd) 0o700 t) t
  let t := fixture shellPath (.tool shellName) 0o755 t
  let t := fixture "/etc/passwd" (.regular (Tool.packText Account.listing)) 0o644 t
  let t := fixture "/etc/profile" (.regular (Tool.packText loginScript)) 0o644 t
  toolNames.foldl (fun t name => fixture ("/usr/bin/" ++ name) (.tool name) 0o755 t) t

/-- A stream of a shell: a file without a name. -/
structure Stream where
  /-- The bytes that it holds at the start. -/
  content : ByteArray
  /-- How it is opened. -/
  mode : OpenMode

/-- Adds a stream under a number. -/
def State.addStream (m : State) (number : Nat) (stream : Stream) : State :=
  let node := m.tree.nodes.size
  { m with
    tree := ⟨m.tree.nodes.push ⟨.regular stream.content, 0o600, startTime⟩⟩
    files := m.files.insert (.ofShell number) ⟨node, 0, stream.mode⟩ }

/-- Adds streams under numbers from one on. -/
def State.addStreams (m : State) (number : Nat) : List Stream → State
  | [] => m
  | stream :: rest => (m.addStream number stream).addStreams (number + 1) rest

/-- What was written to a stream, or is left of its content. -/
def State.streamContent (m : State) (number : Nat) : ByteArray :=
  match m.files[Key.ofShell number]? with
  | none => .empty
  | some file => m.tree.bytesOf file.node

/-- What a shell is started with. -/
structure Setup where
  /-- The files. -/
  tree : Tree
  /-- The path of the working directory. -/
  directory : String
  /-- The home directory, if one is set. -/
  home : Option String
  /-- The variables that programs get. -/
  bindings : List (String × String)
  /-- The standard input, output and error stream, and further ones. -/
  streams : List Stream
  /-- What is written to the log. -/
  log : LogFilter

/-- A shell on a machine. -/
def Setup.boot (s : Setup) : ShellState State where
  descriptors := streamDescriptors s.streams.length
  fresh := s.streams.length
  surroundings := {
    directory := (s.tree.openDirectory Tree.root (utf8 s.directory)).toOption.getD Tree.root
    home := s.home
    host := { State.empty with
        tree := s.tree
        shell := (streamDescriptors s.streams.length).map Handle.ofResource
        bindings := s.bindings.map fun (name, value) => (utf8 name, utf8 value) }.addStreams 0
      s.streams }
  lastStatus := 0
  log := s.log
  downfall := none

end CommandShell.Machine
