import CommandShell.Machine.Tool.Conversion
import CommandShell.Machine.Tool.Options
import CommandShell.Machine.Tool.Quoting

/-!
# Waiting

The tool that lets time pass, as long as its operands together ask for.
-/

namespace CommandShell.Machine.Tool.Sleep

open Ascii

/-- The seconds of a unit of time. -/
def unit? : Bytes → Option Nat
  | [] => some 1
  | [b] =>
    if b = byteOf 's' then some 1
    else if b = byteOf 'm' then some 60
    else if b = byteOf 'h' then some 3600
    else if b = byteOf 'd' then some 86400
    else none
  | _ => none

/-- A time that nobody waits for, in microseconds. -/
def forever : Nat := 1 <<< 80

/-- The microseconds of a number of units, unless it is negative or no number. -/
def duration (value : Floating) (unit : Nat) : Option Nat :=
  match value with
  | .finite negative mantissa exponent =>
    if negative && mantissa ≠ 0 then none
    else
      let (n, d) := Conversion.quotientOf (mantissa * unit * 1000000) exponent
      some (min forever ((n + d - 1) / d))
  | .infinite negative => if negative then none else some forever
  | .undefined _ => none

/-- The microseconds that an operand asks for. -/
def interval (operand : Bytes) : Option Nat := do
  let r ← Floating.read .double operand
  let unit ← unit? r.rest
  duration r.value unit

/-- The microseconds that all operands ask for together. Those that are wrong are complained
about. -/
def total (t : Invocation) (sum : Nat) (proper : Bool) : List Bytes → Act (Nat × Bool)
  | [] => pure (sum, proper)
  | operand :: rest => do
    match interval operand with
    | some time => total t (sum + time) proper rest
    | none =>
      t.complain (utf8 "invalid time interval " ++ quoted operand)
      total t sum false rest

/-- Lets time pass. -/
def tool (t : Invocation) : Task :=
  t.run 1 (withOptions t [] true 1 () (fun _ _ _ => pure ()) fun _ operands => do
    if operands.isEmpty then t.refuse 1 (utf8 "missing operand")
    let (time, proper) ← total t 0 true operands
    if !proper then t.pointToHelp 1
    ask (.sleep time)
    return 0)

end CommandShell.Machine.Tool.Sleep
