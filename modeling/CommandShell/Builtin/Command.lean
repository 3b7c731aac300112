import CommandShell.Arguments
import CommandShell.Builtin.Registry

/-!
# Builtins with a grammar

A builtin that reads its arguments by a grammar. Arguments that the grammar refuses, and a request
for the usage text, are answered without running the builtin.
-/

namespace CommandShell

/-- A builtin that reads its arguments into an `α`. -/
structure Builtin (σ α : Type) where
  /-- The name under which it is registered. -/
  name : String
  /-- What it does, on one line. -/
  description : String
  /-- The arguments that it takes. -/
  grammar : Grammar α
  /-- Runs it with the arguments that were read. -/
  run : α → Listing → Action σ Reply

namespace Builtin

variable {σ α : Type}

/-- The answer of a builtin to its arguments, its own name not among them. -/
def answer (b : Builtin σ α) (arguments : List String) (listing : Listing) : Action σ Reply :=
  match b.grammar.read arguments with
  | .error fault => pure (.usage b.name fault.message 1)
  | .ok .help => pure (.usage b.name b.grammar.usage 0)
  | .ok (.run value) => b.run value listing

/-- The handler of a builtin. -/
def handler (b : Builtin σ α) : Handler σ :=
  ⟨b.description, fun argv listing => b.answer argv.tail listing⟩

end Builtin

/-- Registers a builtin under its name. -/
def Registry.with {σ α : Type} (r : Registry σ) (b : Builtin σ α) : Registry σ :=
  r.insert b.name b.handler

end CommandShell
