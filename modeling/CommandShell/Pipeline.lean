/-!
# Stages and pipelines

A stage is one program call with its redirections; a pipeline is a non-empty sequence of stages
whose neighbours are joined by pipes. That a stage names a program and that a pipeline has a stage
are part of the types, so that no later step has to look for the empty case.
-/

namespace CommandShell

/-- One program call: what to run, and where it reads and writes when not told otherwise. -/
structure Stage where
  /-- The name of the program, which is also its first argument. -/
  program : String
  /-- The further arguments, in order. -/
  arguments : List String
  /-- The file to read from, not yet opened. -/
  input : Option String
  /-- The file to write to, not yet opened. -/
  output : Option String
  deriving DecidableEq, Repr

/-- All arguments of a stage, the name of the program first. -/
def Stage.argv (s : Stage) : List String := s.program :: s.arguments

/-- A non-empty sequence of stages. -/
structure Pipeline where
  /-- The stage whose input is not a pipe. -/
  first : Stage
  /-- The stages that follow, each fed by the one before it. -/
  rest : List Stage
  deriving DecidableEq, Repr

namespace Pipeline

/-- The stages in order. -/
def stages (p : Pipeline) : List Stage := p.first :: p.rest

/-- The number of stages. -/
def length (p : Pipeline) : Nat := p.stages.length

/-- The only stage of a pipeline that has just one. -/
def single? (p : Pipeline) : Option Stage :=
  match p.rest with
  | [] => some p.first
  | _ :: _ => none

/-- The number of pipes that join the stages. -/
def joints (p : Pipeline) : Nat := p.rest.length

@[simp] theorem stages_ne_nil (p : Pipeline) : p.stages ≠ [] := by simp [stages]

/-- There is one pipe less than there are stages. -/
theorem joints_add_one (p : Pipeline) : p.joints + 1 = p.length := by
  simp [joints, length, stages]

end Pipeline

end CommandShell
