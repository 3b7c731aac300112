import CommandShell.Machine.Tool.Options
import CommandShell.Machine.Tool.Quoting

/-!
# Quantities

Numbers of lines or bytes as they are given to the tools: decimal digits, perhaps with a unit behind
them that multiplies.
-/

namespace CommandShell.Machine.Tool

open Ascii

/-- The number that digits stand for. Other bytes are not looked at. -/
def digitsValue (digits : Bytes) : Nat := digits.foldl (fun n b => n * 10 + digitValue b) 0

/-- The number that some digits stand for. -/
def natOf? (digits : Bytes) : Option Nat :=
  if digits.isEmpty || !digits.all isDigit then none else some (digitsValue digits)

/-- The greatest quantity. -/
def maxQuantity : Nat := 18446744073709551615

/-- Why a text is no quantity. -/
inductive QuantityFault where
  /-- It does not begin with a number. -/
  | invalid
  /-- What stands behind the number is no unit. -/
  | suffix
  /-- It is greater than all quantities. -/
  | excessive
  deriving DecidableEq, Repr

/-- A number that is not too great for a quantity. -/
def bounded (n : Nat) : Except QuantityFault Nat :=
  if maxQuantity < n then .error .excessive else .ok n

/-- The letters of the units that are powers, with their exponents. -/
def powerUnits : List (UInt8 × Nat) :=
  [(byteOf 'k', 1), (byteOf 'K', 1), (byteOf 'm', 2), (byteOf 'M', 2), (byteOf 'g', 3),
    (byteOf 'G', 3), (byteOf 't', 4), (byteOf 'T', 4), (byteOf 'P', 5), (byteOf 'E', 6),
    (byteOf 'Z', 7), (byteOf 'Y', 8)]

/-- The letters of the units that are single factors. -/
def factorUnits : List (UInt8 × Nat) :=
  [(byteOf 'b', 512), (byteOf 'B', 1024), (byteOf 'c', 1), (byteOf 'w', 2)]

/-- The factor of a unit, and what is left of the text behind it. A unit that is a power can be one
of the powers of 1000. -/
def readUnit (units : Bytes) (letter : UInt8) (rest : Bytes) : Option (Nat × Bytes) :=
  if !units.contains letter then none
  else match powerUnits.lookup letter with
    | none => (factorUnits.lookup letter).map fun factor => (factor, rest)
    | some exponent =>
      let (base, rest) :=
        if !units.contains zero then (1024, rest)
        else match rest with
          | b :: more =>
            if b = byteOf 'B' || b = byteOf 'D' then (1000, more)
            else if b = byteOf 'i' && more.head? = some (byteOf 'B') then (1024, more.tail)
            else (1024, rest)
          | [] => (1024, [])
      some (Nat.pow base exponent, rest)

/-- Divides a text into the number at its beginning, which may have a plus sign, and what stands
behind it. There is no number if no digit is there. -/
def splitNumber (text : Bytes) : Option (Nat × Bytes) :=
  let trimmed := text.dropWhile isSpace
  let unsigned := if trimmed.head? = some plus then trimmed.tail else trimmed
  let digits := unsigned.takeWhile isDigit
  if digits.isEmpty then none else some (digitsValue digits, unsigned.drop digits.length)

/-- Reads a quantity with one of some units. A unit alone stands for one of it. -/
def readQuantity (units text : Bytes) : Except QuantityFault Nat :=
  let (number, rest) := match splitNumber text with
    | some (n, rest) => (some n, rest)
    | none => (none, text)
  match rest with
  | [] => (number.map bounded).getD (.error .invalid)
  | letter :: more =>
    match readUnit units letter more with
    | none => .error (if number.isSome then .suffix else .invalid)
    | some (factor, rest) =>
      if rest.isEmpty then bounded (number.getD 1 * factor) else .error .suffix

/-- The units that most tools know. -/
def usualUnits : Bytes := utf8 "bkKmMGTPEZY0"

/-- Reads a quantity with one of some units that is not greater than `most`, or ends with a
complaint. -/
def requireAtMost (t : Invocation) (code most : Nat) (units : Bytes) (wording : String)
    (text : Bytes) : Act Nat := do
  let shown := utf8 (wording ++ ": ") ++ quoted text
  match readQuantity units text with
  | .error .excessive => t.dieOf code shown .tooLarge
  | .error _ => t.die code shown
  | .ok n => if most < n then t.dieOf code shown .tooLarge else return n

/-- Reads a quantity, or ends with a complaint. -/
def requireQuantity (t : Invocation) (code : Nat) (wording : String) (text : Bytes) : Act Nat :=
  requireAtMost t code maxQuantity usualUnits wording text

end CommandShell.Machine.Tool
