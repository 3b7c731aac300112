import CommandShell.Builtin.Command
import CommandShell.Text.Integer

/-!
# The builtins of the shell

Changing the working directory, showing it, leaving the shell, and listing the builtins. Main
statement: the columns of the listing are aligned, since a name is never longer than the width of
its column (`length_le_columnWidth`).
-/

namespace CommandShell

variable {σ : Type}

namespace Action

variable [Kernel σ]

/-- The absolute path without links and dots of something that exists. -/
def canonicalize (path : String) : Action σ (Except Fault String) := do
  if Shell.hasNul path then return .error .nulInName
  match ← ask (Kernel.canonicalize (← get).directory path) with
  | .error errno => return .error (.system errno)
  | .ok canonical => return .ok canonical

/-- Makes the directory at a path the working directory. -/
def enter (path : String) : Action σ (Except Fault Unit) := do
  match ← ask (Kernel.enter (← get).directory path) with
  | .error errno => return .error (.system errno)
  | .ok directory =>
    modify fun s => { s with directory := directory }
    return .ok ()

/-- The absolute path of the working directory. -/
def workingDirectory : Action σ (Except Fault String) := do
  match ← ask (Kernel.nameOf (← get).directory) with
  | .error errno => return .error (.system errno)
  | .ok name => return .ok name

end Action

namespace Builtin

/-- The usage text of the builtin that changes the working directory. -/
def cdUsage : String :=
  "Usage: cd [--] [<target>]\n\n" ++
  "Change the current working directory. If no target is provided, changes to the directory " ++
  "specified by the HOME environment variable.\n\n" ++
  "Positional Arguments:\n" ++
  "  target            directory to switch to; absolute or relative to the current\n" ++
  "                    directory. Defaults to $HOME when omitted.\n\n" ++
  "Options:\n" ++
  "  --help, help      display usage information\n"

/-- The arguments of the builtin that changes the working directory: a target at most. -/
def cdGrammar : Grammar (Option String) :=
  ⟨[], [⟨"target", fun _ text => .ok (some text)⟩], none, cdUsage⟩

/-- Where to go. A target that is missing or empty stands for the home directory. -/
def destination (target home : Option String) : Option String :=
  match target with
  | none => home
  | some path => if path.isEmpty then home else some path

section

variable [Kernel σ]

/-- Goes to the target, along its absolute path without links. -/
def changeDirectory (target : Option String) : Action σ Reply := do
  match destination target (← get).home with
  | none => return .failed "cd: no target and HOME not set"
  | some path =>
    match ← Action.canonicalize path with
    | .error fault => return .failed ("cd: can't canonicalize " ++ path ++ ": " ++ fault.message)
    | .ok canonical =>
      match ← Action.enter canonical with
      | .error fault => return .failed ("cd: can't chdir to " ++ canonical ++ ": " ++ fault.message)
      | .ok () => return .completed "" (.proceed 0)

/-- Changes the working directory. -/
def cd : Builtin σ (Option String) :=
  ⟨"cd", "change the working directory (default: $HOME)", cdGrammar,
    fun target _ => changeDirectory target⟩

/-- The usage text of the builtin that shows the working directory. -/
def pwdUsage : String :=
  "Usage: pwd\n\nPrint the current working directory to standard output.\n\n" ++
  "Options:\n  --help, help      display usage information\n"

/-- Shows the working directory. -/
def showDirectory : Action σ Reply := do
  match ← Action.workingDirectory with
  | .error fault => return .failed ("pwd: " ++ fault.message)
  | .ok path => return .completed (path ++ "\n") (.proceed 0)

/-- Shows the working directory. -/
def pwd : Builtin σ Unit :=
  ⟨"pwd", "print the working directory", ⟨[], [], (), pwdUsage⟩, fun _ _ => showDirectory⟩

end

/-- The usage text of the builtin that leaves the shell. -/
def exitUsage : String :=
  "Usage: exit [--] [<code>]\n\nExit the shell.\n\n" ++
  "Positional Arguments:\n  code              status to exit with.\n\n" ++
  "Options:\n  --help, help      display usage information\n"

/-- The arguments of the builtin that leaves the shell: a status at most. -/
def exitGrammar : Grammar Int :=
  ⟨[], [⟨"code", fun _ text => (Text.readInteger text).mapError (·.message)⟩], 0, exitUsage⟩

/-- Leaves the shell. -/
def exit : Builtin σ Int :=
  ⟨"exit", "leave the shell with an optional status", exitGrammar,
    fun status _ => pure (.completed "" (.leave status))⟩

/-- The usage text of the builtin that lists the builtins. -/
def helpUsage : String :=
  "Usage: help\n\nList the built-in commands.\n\n" ++
  "Options:\n  --help, help      display usage information\n"

/-- The width of the column of names: that of the longest one, counted in bytes. -/
def columnWidth (listing : Listing) : Nat :=
  listing.foldr (fun entry width => max entry.1.utf8ByteSize width) 0

/-- A text, filled up with blanks behind it. -/
def padTo (width : Nat) (text : String) : String :=
  text ++ String.ofList (List.replicate (width - text.length) ' ')

/-- The line of a builtin in the listing. -/
def listingLine (width : Nat) (entry : String × String) : String :=
  "  " ++ padTo width entry.1 ++ "  " ++ entry.2 ++ "\n"

/-- The listing of the builtins. -/
def listingText (listing : Listing) : String :=
  "Built-in commands:\n" ++ String.join (listing.map (listingLine (columnWidth listing))) ++
    "Anything else is run as a program found on $PATH.\n"

/-- Lists the builtins. -/
def help : Builtin σ Unit :=
  ⟨"help", "list built-in commands", ⟨[], [], (), helpUsage⟩,
    fun _ listing => pure (.completed (listingText listing) (.proceed 0))⟩

/-- A text has no more characters than bytes. -/
theorem length_le_utf8ByteSize_ofList :
    ∀ cs : List Char, cs.length ≤ (String.ofList cs).utf8ByteSize
  | [] => Nat.zero_le _
  | c :: cs => by
    rw [String.ofList_cons, String.utf8ByteSize_append, String.utf8ByteSize_singleton,
      List.length_cons, Nat.add_comm]
    exact Nat.add_le_add c.utf8Size_pos (length_le_utf8ByteSize_ofList cs)

theorem length_le_utf8ByteSize (s : String) : s.length ≤ s.utf8ByteSize := by
  have h := length_le_utf8ByteSize_ofList s.toList
  rwa [String.ofList_toList, String.length_toList] at h

/-- No name is longer than the column of names is wide. -/
theorem length_le_columnWidth {listing : Listing} {entry : String × String}
    (h : entry ∈ listing) : entry.1.length ≤ columnWidth listing := by
  induction listing with
  | nil => simp at h
  | cons first rest ih =>
    rw [columnWidth, List.foldr_cons]
    rcases List.mem_cons.1 h with h | h
    · rw [h]
      exact Nat.le_trans (length_le_utf8ByteSize _) (Nat.le_max_left _ _)
    · exact Nat.le_trans (ih h) (Nat.le_max_right _ _)

end Builtin

/-- The builtins that the shell has by itself. -/
def Registry.standard [Kernel σ] : Registry σ :=
  (((Registry.empty.with Builtin.cd).with Builtin.exit).with Builtin.help).with Builtin.pwd

end CommandShell
