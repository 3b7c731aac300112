import CommandShell.Machine.Tool.Cat
import CommandShell.Machine.Tool.Echo
import CommandShell.Machine.Tool.Head
import CommandShell.Machine.Tool.Outcome
import CommandShell.Machine.Tool.Printf
import CommandShell.Machine.Tool.Pwd
import CommandShell.Machine.Tool.Rmdir
import CommandShell.Machine.Tool.Seq
import CommandShell.Machine.Tool.Sleep
import CommandShell.Machine.Tool.Sort
import CommandShell.Machine.Tool.Tail
import CommandShell.Machine.Tool.Touch
import CommandShell.Machine.Tool.Tr
import CommandShell.Machine.Tool.Uniq
import CommandShell.Machine.Tool.Wc

/-!
# The tools of a machine
-/

namespace CommandShell.Machine.Tool

/-- The tools by their names. -/
def catalogue : List (String × (Invocation → Task)) := [
  ("cat", Cat.tool), ("echo", Echo.tool), ("false", Outcome.failure), ("head", Head.tool),
  ("printf", Printf.tool), ("pwd", Pwd.tool), ("rmdir", Rmdir.tool), ("seq", Seq.tool),
  ("sleep", Sleep.tool), ("sort", Sort.tool), ("tail", Tail.tool), ("touch", Touch.tool),
  ("tr", Tr.tool), ("true", Outcome.success), ("uniq", Uniq.tool), ("wc", Wc.tool)]

end CommandShell.Machine.Tool
