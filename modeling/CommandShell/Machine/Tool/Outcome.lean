import CommandShell.Machine.Tool.Basic

/-!
# Outcomes

The tools that do nothing but end with a code.
-/

namespace CommandShell.Machine.Tool.Outcome

/-- Ends well. -/
def success (t : Invocation) : Task := t.run 1 (pure 0)

/-- Ends badly. -/
def failure (t : Invocation) : Task := t.run 1 (pure 1)

end CommandShell.Machine.Tool.Outcome
