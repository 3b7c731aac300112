import CommandShell.Machine.Tool.Options
import CommandShell.Machine.Tool.Quoting

/-!
# The working directory

The tool that writes the path of the working directory.
-/

namespace CommandShell.Machine.Tool.Pwd

open Ascii

/-- Whether a path counts from the root and goes neither up nor nowhere. -/
def isStraight (path : Bytes) : Bool :=
  path.head? = some slash && (splitAt slash path).all fun name =>
    name ≠ [point] && name ≠ [point, point]

/-- The variable that holds the path of the working directory. -/
def variableName : Bytes := utf8 "PWD"

/-- The path that the variable holds, if it leads to the working directory. -/
def remembered (t : Invocation) : Act (Option Bytes) := do
  match t.bindings.lookup variableName with
  | none => return none
  | some path =>
    if !isStraight path then return none
    match (← ask (.inspect path true) : Except Errno FileFacts),
        (← ask (.inspect [point] true) : Except Errno FileFacts) with
    | .ok there, .ok here => return if there.node = here.node then some path else none
    | _, _ => return none

/-- The options. -/
def rules : List OptionRule := [.plain 'L' "logical", .plain 'P' "physical"]

/-- Writes the path of the working directory. -/
def tool (t : Invocation) : Task :=
  t.run 1 (withOptions t rules true 1 false (fun _ key _ => pure (key = "logical"))
    fun logical operands => do
      if !operands.isEmpty then t.complain (utf8 "ignoring non-option arguments")
      let known ← if logical then remembered t else pure none
      match known with
      | some path =>
        putText (path ++ [newline])
        return 0
      | none =>
        match (← ask .whereAmI : Except Errno Name) with
        | .ok path =>
          putText (path ++ [newline])
          return 0
        | .error _ =>
          t.die 1 (utf8 "couldn't find directory entry in '..' with matching i-node"))

end CommandShell.Machine.Tool.Pwd
