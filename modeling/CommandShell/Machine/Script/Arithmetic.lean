import CommandShell.Machine.Script.Token
import CommandShell.Machine.Tool.Printf

/-!
# Arithmetic in scripts

Integer expressions with the operators, the precedence and the assignments that are usual in
program texts. A part that does not count is read but not evaluated: it divides by nothing and
assigns nothing.
-/

namespace CommandShell.Machine.Script.Arithmetic

open Ascii

/-- An operator between two values. -/
inductive Binary where
  | times
  | divide
  | rest
  | plus
  | minus
  | left
  | right
  | less
  | atMost
  | more
  | atLeast
  | equal
  | different
  | and
  | xor
  | or
  deriving DecidableEq, Repr

/-- How weakly an operator binds. -/
def Binary.level : Binary → Nat
  | times | divide | rest => 0
  | plus | minus => 1
  | left | right => 2
  | less | atMost | more | atLeast => 3
  | equal | different => 4
  | and => 5
  | xor => 6
  | or => 7

/-- More than the level of every operator. -/
def maxLevel : Nat := 8

/-- A sign in an expression. -/
inductive Sign where
  | number (n : Int64)
  | name (bytes : Bytes)
  | binary (o : Binary)
  /-- An assignment, perhaps of what an operator makes of the old value and the new one. -/
  | assign (o : Option Binary)
  | not
  | complement
  | both
  | either
  | question
  | colon
  | openParenthesis
  | closeParenthesis
  /-- Something that makes no sense. -/
  | senseless

/-- The signs without letters and digits, the longer ones first. -/
def signs : List (String × Sign) := [
  ("<<=", .assign (some .left)), (">>=", .assign (some .right)), ("<<", .binary .left),
  (">>", .binary .right), ("<=", .binary .atMost), (">=", .binary .atLeast),
  ("==", .binary .equal), ("!=", .binary .different), ("&&", .both), ("||", .either),
  ("*=", .assign (some .times)), ("/=", .assign (some .divide)), ("%=", .assign (some .rest)),
  ("+=", .assign (some .plus)), ("-=", .assign (some .minus)), ("&=", .assign (some .and)),
  ("^=", .assign (some .xor)), ("|=", .assign (some .or)), ("=", .assign none),
  ("<", .binary .less), (">", .binary .more), ("*", .binary .times), ("/", .binary .divide),
  ("%", .binary .rest), ("+", .binary .plus), ("-", .binary .minus), ("&", .binary .and),
  ("^", .binary .xor), ("|", .binary .or), ("!", .not), ("~", .complement), ("?", .question),
  (":", .colon), ("(", .openParenthesis), (")", .closeParenthesis)]

/-- The sign at the beginning of some bytes, and its length. -/
def readSign (bytes : Bytes) : Sign × Nat :=
  match bytes with
  | [] => (.senseless, 0)
  | b :: _ =>
    if isDigit b then
      let p := Tool.Printf.readSigned bytes
      (.number (Int64.ofInt p.value), bytes.length - p.rest.length)
    else if startsName b then
      let name := bytes.takeWhile isInName
      (.name name, name.length)
    else match signs.find? fun (text, _) => (utf8 text).isPrefixOf bytes with
      | some (text, sign) => (sign, text.length)
      | none => (.senseless, bytes.length)

/-- The signs of an expression. The first `skipped` bytes belong to a sign in front. -/
def readSigns (skipped : Nat) : Bytes → List Sign
  | [] => []
  | b :: rest =>
    if 0 < skipped then readSigns (skipped - 1) rest
    else if isBlank b || b = newline then readSigns 0 rest
    else
      let (sign, length) := readSign (b :: rest)
      sign :: readSigns (length - 1) rest

/-! ### Evaluation -/

/-- Why an expression has no value. -/
inductive Fault where
  /-- The expression makes no sense. -/
  | senseless (message : String)
  /-- The value of a variable is not a number. -/
  | notNumber (text : Bytes)
  /-- The result of a division is no number that can be held. -/
  | overflow

/-- What is known while an expression is evaluated. -/
structure Progress where
  /-- The signs that are left. -/
  signs : List Sign
  /-- The values that were assigned, the last one first. -/
  assigned : List (Bytes × Int64)

/-- An evaluation. What was assigned before a fault stays assigned. -/
abbrev Eval := ExceptT Fault (StateM Progress)

/-- Ends the evaluation. -/
def fail {α : Type} (message : String) : Eval α := throw (.senseless message)

/-- The next sign, if one is left. -/
def peek : Eval (Option Sign) := do return (← get).signs.head?

/-- Goes on to the next sign. -/
def advance : Eval Unit := modify fun p => { p with signs := p.signs.tail }

/-- A truth value as a number. -/
def truth (b : Bool) : Int64 := if b then 1 else 0

/-- What a division makes of two values. Dividing the least number by minus one has no result. -/
def divided (result : Int64 → Int64 → Int64) (a b : Int64) : Eval Int64 :=
  if b = 0 then fail "division by zero"
  else if b = -1 && a = Int64.minValue then throw .overflow
  else pure (result a b)

/-- What an operator makes of two values. -/
def apply (o : Binary) (a b : Int64) : Eval Int64 :=
  match o with
  | .times => pure (a * b)
  | .divide => divided (· / ·) a b
  | .rest => divided (· % ·) a b
  | .plus => pure (a + b)
  | .minus => pure (a - b)
  | .left => pure (a <<< b)
  | .right => pure (a >>> b)
  | .less => pure (truth (a < b))
  | .atMost => pure (truth (a ≤ b))
  | .more => pure (truth (b < a))
  | .atLeast => pure (truth (b ≤ a))
  | .equal => pure (truth (a = b))
  | .different => pure (truth (a ≠ b))
  | .and => pure (a &&& b)
  | .xor => pure (a ^^^ b)
  | .or => pure (a ||| b)

/-- The number that the value of a variable stands for. -/
def numberIn? (text : Bytes) : Option Int64 :=
  let p := Tool.Printf.readSigned text
  if p.outOfRange then none
  else if p.rest = text then (if (text.dropWhile isSpace).isEmpty then some 0 else none)
  else if (p.rest.dropWhile isSpace).isEmpty then some (Int64.ofInt p.value)
  else none

/-- The value of a variable. -/
def valueOf (lookup : Bytes → Bytes) (name : Bytes) : Eval Int64 := do
  match (← get).assigned.lookup name with
  | some n => return n
  | none =>
    match numberIn? (lookup name) with
    | some n => return n
    | none => throw (.notNumber (lookup name))

/-- The value of a number, a name, a part in parentheses, or what a sign in front makes of it. The
evaluation of a whole part is given. -/
def primary (lookup : Bytes → Bytes) (whole : Bool → Eval Int64) (counts : Bool) :
    Nat → Eval Int64
  | 0 => fail "expecting primary"
  | fuel + 1 => do
    let sign ← peek
    match sign with
    | some (.number n) =>
      advance
      return n
    | some (.name name) =>
      advance
      if counts then valueOf lookup name else return 0
    | some .openParenthesis =>
      advance
      let n ← whole counts
      match ← peek with
      | some .closeParenthesis =>
        advance
        return n
      | _ => fail "expecting ')'"
    | some (.binary .plus) =>
      advance
      primary lookup whole counts fuel
    | some (.binary .minus) =>
      advance
      return -(← primary lookup whole counts fuel)
    | some .not =>
      advance
      return truth ((← primary lookup whole counts fuel) = 0)
    | some .complement =>
      advance
      return ~~~(← primary lookup whole counts fuel)
    | _ => fail "expecting primary"

/-- Goes on with operators that bind more strongly than a level. -/
def climb (operand : Eval Int64) (counts : Bool) (level : Nat) (a : Int64) : Nat → Eval Int64
  | 0 => pure a
  | fuel + 1 => do
    match ← peek with
    | some (.binary o) =>
      if level ≤ o.level then return a
      advance
      let b ← climb operand counts o.level (← operand) fuel
      climb operand counts level (← if counts then apply o a b else pure b) fuel
    | _ => return a

/-- A conjunction. -/
def conjunction (operand : Bool → Eval Int64) (counts : Bool) : Nat → Eval Int64
  | 0 => operand counts
  | fuel + 1 => do
    let a ← operand counts
    match ← peek with
    | some .both =>
      advance
      let b ← conjunction operand (counts && a ≠ 0) fuel
      return truth (a ≠ 0 && b ≠ 0)
    | _ => return a

/-- A disjunction. -/
def disjunction (operand : Bool → Eval Int64) (counts : Bool) : Nat → Eval Int64
  | 0 => operand counts
  | fuel + 1 => do
    let a ← operand counts
    match ← peek with
    | some .either =>
      advance
      let b ← disjunction operand (counts && a = 0) fuel
      return truth (a ≠ 0 || b ≠ 0)
    | _ => return a

/-- A choice between two parts. -/
def choice (operand whole : Bool → Eval Int64) (counts : Bool) : Nat → Eval Int64
  | 0 => operand counts
  | fuel + 1 => do
    let a ← operand counts
    match ← peek with
    | some .question =>
      advance
      let b ← whole (counts && a ≠ 0)
      match ← peek with
      | some .colon =>
        advance
        let c ← choice operand whole (counts && a = 0) fuel
        return if a ≠ 0 then b else c
      | _ => fail "expecting ':'"
    | _ => return a

/-- Assigns a value to a variable. -/
def assign (name : Bytes) (n : Int64) : Eval Int64 := do
  modify fun p => { p with assigned := (name, n) :: p.assigned }
  return n

/-- Evaluates a whole part, in `fuel` steps at most. -/
def whole (lookup : Bytes → Bytes) : Nat → Bool → Eval Int64
  | 0, _ => fail "expecting primary"
  | fuel + 1, counts => do
    match (← get).signs with
    | .name name :: .assign o :: _ =>
      advance
      advance
      let n ← whole lookup fuel counts
      if !counts then return n
      match o with
      | none => assign name n
      | some o => assign name (← apply o (← valueOf lookup name) n)
    | _ =>
      let operand (counts : Bool) : Eval Int64 := primary lookup (whole lookup fuel) counts fuel
      let compound (counts : Bool) : Eval Int64 := do
        climb (operand counts) counts maxLevel (← operand counts) fuel
      let conjoined (counts : Bool) : Eval Int64 := conjunction compound counts fuel
      let disjoined (counts : Bool) : Eval Int64 := disjunction conjoined counts fuel
      choice disjoined (whole lookup fuel) counts fuel

/-- What an expression comes to. -/
structure Evaluation where
  /-- Its value. -/
  value : Except Fault Int64
  /-- The values that it assigns, the first one first. -/
  assigned : List (Bytes × Int64)

/-- Evaluates the signs of an expression. -/
def evaluateSigns (lookup : Bytes → Bytes) (signs : List Sign) : Evaluation :=
  let act : Eval Int64 := do
    let n ← whole lookup (2 * signs.length + 2) true
    match ← peek with
    | none => return n
    | some _ => fail "expecting EOF"
  let (value, p) := act.run.run ⟨signs, []⟩
  ⟨value, p.assigned.reverse⟩

/-- Evaluates an expression. -/
def evaluate (lookup : Bytes → Bytes) (text : Bytes) : Evaluation :=
  evaluateSigns lookup (readSigns 0 text)

end CommandShell.Machine.Script.Arithmetic
