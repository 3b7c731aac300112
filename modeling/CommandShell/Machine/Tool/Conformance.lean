import CommandShell.Machine.Tool.Basic

/-!
# Editions of the standard

Variables by which a user decides how strictly the tools keep to the standard, and to which edition
of it.
-/

namespace CommandShell.Machine.Tool

open Ascii

/-- An edition of the standard, the year and the month in digits. -/
abbrev Edition := Int

namespace Edition

/-- The edition to which the tools keep if nothing else is asked for. -/
def usual : Edition := 200809

/-- Whether all forms of arguments are known that were usual before there were editions. -/
def isOld (e : Edition) : Bool := e < 200112

/-- Whether those forms are known that stand in nobody's way. -/
def isTraditional (e : Edition) : Bool := e < 200112 || 200809 ≤ e

/-- The edition that a text stands for. -/
def ofText? (text : Bytes) : Option Edition :=
  let trimmed := text.dropWhile isSpace
  let sign := trimmed.head?
  let digits := if sign = some minus || sign = some plus then trimmed.tail else trimmed
  if digits.isEmpty || !digits.all isDigit then none
  else
    let value : Int := digits.foldl (fun n b => n * 10 + digitValue b) 0
    some (if sign = some minus then -value else value)

end Edition

namespace Invocation

/-- The variable that asks for strictness. -/
def strictName : Bytes := utf8 "POSIXLY_CORRECT"

/-- The variable that asks for an edition. -/
def editionName : Bytes := utf8 "_POSIX2_VERSION"

/-- Whether a tool keeps strictly to the standard. -/
def isStrict (t : Invocation) : Bool := (t.bindings.lookup strictName).isSome

/-- The edition to which a tool keeps. -/
def edition (t : Invocation) : Edition :=
  ((t.bindings.lookup editionName).bind Edition.ofText?).getD .usual

end Invocation

end CommandShell.Machine.Tool
