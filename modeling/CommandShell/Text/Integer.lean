/-!
# Decimal integers of 32 bits

The numbers that an exit status can be given as: an optional sign and ASCII digits, within the
range of a signed 32-bit word. The digits are read from the left, so that a number that has left
the range is reported as such even if it goes on with something else.
-/

namespace CommandShell.Text

/-- Why a text is no integer of 32 bits. -/
inductive IntegerFault where
  /-- There is no character at all. -/
  | empty
  /-- There is no digit, or something that is no digit. -/
  | invalidDigit
  /-- The number lies above the range. -/
  | tooLarge
  /-- The number lies below the range. -/
  | tooSmall
  deriving DecidableEq, Repr

/-- The wording of a fault. -/
def IntegerFault.message : IntegerFault → String
  | empty => "cannot parse integer from empty string"
  | invalidDigit => "invalid digit found in string"
  | tooLarge => "number too large to fit in target type"
  | tooSmall => "number too small to fit in target type"

/-- The greatest number of the range. -/
def maxInteger : Int := 2147483647

/-- The least number of the range. -/
def minInteger : Int := -2147483648

/-- The value of an ASCII digit. -/
def digit? (c : Char) : Option Int :=
  if '0' ≤ c ∧ c ≤ '9' then some (c.toNat - '0'.toNat : Nat) else none

/-- Reads digits upwards from `value`. -/
def readUpward (value : Int) : List Char → Except IntegerFault Int
  | [] => .ok value
  | c :: cs =>
    match digit? c with
    | none => .error .invalidDigit
    | some d =>
      if value * 10 + d ≤ maxInteger then readUpward (value * 10 + d) cs else .error .tooLarge

/-- Reads digits downwards from `value`. -/
def readDownward (value : Int) : List Char → Except IntegerFault Int
  | [] => .ok value
  | c :: cs =>
    match digit? c with
    | none => .error .invalidDigit
    | some d =>
      if minInteger ≤ value * 10 - d then readDownward (value * 10 - d) cs else .error .tooSmall

/-- Reads a sign, if there is one, and digits. -/
def readSigned : List Char → Except IntegerFault Int
  | [] => .error .empty
  | ['+'] => .error .invalidDigit
  | ['-'] => .error .invalidDigit
  | '+' :: cs => readUpward 0 cs
  | '-' :: cs => readDownward 0 cs
  | cs => readUpward 0 cs

/-- Reads an integer of 32 bits. -/
def readInteger (s : String) : Except IntegerFault Int := readSigned s.toList

end CommandShell.Text
