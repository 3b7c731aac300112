import CommandShell.Machine.Script.Options

/-!
# Conditions

The command of an interpreter that finds out whether a condition holds: about texts, numbers and
files, and put together from others. What an argument means depends on what stands around it, and
with three or four arguments on how many there are.
-/

namespace CommandShell.Machine.Script.Condition

open Ascii Tool

/-- What is asked of one argument. -/
inductive Unary where
  | isEmpty
  | isNonempty
  | isTerminal
  | exists
  | isRegular
  | isDirectory
  | isDevice
  | isPipe
  | isLink
  | isRunnable
  | isFilled
  /-- Whether a permission bit is set. -/
  | hasBit (bit : Nat)
  /-- Nothing is of that kind. -/
  | isImpossible
  deriving DecidableEq, Repr

/-- What is asked of two arguments. -/
inductive Binary where
  | same
  | different
  | before
  | behind
  | equal
  | unequal
  | atLeast
  | more
  | atMost
  | less
  | sameFile
  | newer
  | older
  deriving DecidableEq, Repr

/-- An argument that can have a meaning of its own. -/
inductive Sign where
  | unary (u : Unary)
  | binary (b : Binary)
  | not
  | both
  | either
  | openParenthesis
  | closeParenthesis
  deriving DecidableEq, Repr

/-- The arguments that can have a meaning of their own. -/
def signs : List (String × Sign) := [
  ("-r", .unary .exists), ("-w", .unary .exists), ("-x", .unary .isRunnable),
  ("-e", .unary .exists), ("-f", .unary .isRegular), ("-d", .unary .isDirectory),
  ("-c", .unary .isDevice), ("-b", .unary .isImpossible), ("-p", .unary .isPipe),
  ("-u", .unary (.hasBit 0o4000)), ("-g", .unary (.hasBit 0o2000)),
  ("-k", .unary (.hasBit 0o1000)), ("-s", .unary .isFilled), ("-t", .unary .isTerminal),
  ("-z", .unary .isEmpty), ("-n", .unary .isNonempty), ("-h", .unary .isLink),
  ("-O", .unary .exists), ("-G", .unary .exists), ("-L", .unary .isLink),
  ("-S", .unary .isImpossible), ("=", .binary .same), ("!=", .binary .different),
  ("<", .binary .before), (">", .binary .behind), ("-eq", .binary .equal),
  ("-ne", .binary .unequal), ("-ge", .binary .atLeast), ("-gt", .binary .more),
  ("-le", .binary .atMost), ("-lt", .binary .less), ("-nt", .binary .newer),
  ("-ot", .binary .older), ("-ef", .binary .sameFile), ("!", .not), ("-a", .both),
  ("-o", .either), ("(", .openParenthesis), (")", .closeParenthesis)]

/-- The sign that an argument can be. -/
def signOf? (argument : Bytes) : Option Sign :=
  (signs.find? fun (text, _) => utf8 text == argument).map (·.2)

/-- Whether an argument is a sign between two others. -/
def isBinary (argument : Bytes) : Bool :=
  match signOf? argument with
  | some (.binary _) => true
  | _ => false

/-- What an argument is. -/
inductive Part where
  /-- There is no argument. -/
  | ended
  /-- It stands for itself. -/
  | operand
  /-- It has a meaning of its own. -/
  | sign (s : Sign)
  deriving DecidableEq, Repr

/-- What the first one of some arguments is. What asks something of one argument stands for itself
if there is none, or if a sign and another argument follow. -/
def partOf : List Bytes → Part
  | [] => .ended
  | argument :: rest =>
    match signOf? argument, rest with
    | none, _ => .operand
    | some (.unary _), [] => .operand
    | some (.unary u), following :: _ :: _ =>
      if isBinary following then .operand else .sign (.unary u)
    | some .openParenthesis, [] => .operand
    | some s, _ => .sign s

/-! ### Files -/

/-- What is known about the file at a path. -/
def factsOf? (path : Bytes) (follow : Bool) : Act (Option FileFacts) := do
  match (← ask (.inspect path follow) : Except Errno FileFacts) with
  | .ok facts => return some facts
  | .error _ => return none

/-- Whether a file is what is asked for. -/
def holdsOfFile (u : Unary) (facts : FileFacts) : Bool :=
  match u with
  | .isRegular => facts.kind = .regular
  | .isDirectory => facts.kind = .directory
  | .isDevice => facts.kind = .device
  | .isPipe => facts.kind = .pipe
  | .isLink => facts.kind = .link
  | .isRunnable => facts.kind = .directory || facts.mode &&& 0o111 ≠ 0
  | .isFilled => facts.kind = .directory || 0 < facts.size
  | .hasBit bit => facts.mode &&& bit ≠ 0
  | .exists => true
  | _ => false

/-- Whether what is asked of an argument holds. -/
def holds (u : Unary) (argument : Bytes) : Act Bool := do
  match u with
  | .isEmpty => return argument.isEmpty
  | .isNonempty => return !argument.isEmpty
  | .isTerminal =>
    let _ ← requireInteger argument
    return false
  | u => return (← factsOf? argument (u ≠ .isLink)).any (holdsOfFile u)

/-- Whether what is asked of two numbers holds. -/
def compare (b : Binary) (m n : Int) : Bool :=
  match b with
  | .equal => m = n
  | .unequal => m ≠ n
  | .atLeast => n ≤ m
  | .more => n < m
  | .atMost => m ≤ n
  | .less => m < n
  | _ => false

/-- Whether a file was changed later than another one. -/
def laterThan (left right : Bytes) : Act Bool := do
  match ← factsOf? left true, ← factsOf? right true with
  | some one, some other => return other.modified < one.modified
  | _, _ => return false

/-- Whether what is asked of two arguments holds. -/
def holdsBetween (b : Binary) (left right : Bytes) : Act Bool := do
  match b with
  | .same => return left = right
  | .different => return left ≠ right
  | .before => return left < right
  | .behind => return right < left
  | .newer => laterThan left right
  | .older => laterThan right left
  | .sameFile =>
    match ← factsOf? left true, ← factsOf? right true with
    | some one, some other => return one.node.isSome && one.node = other.node
    | _, _ => return false
  | b =>
    let m ← requireInteger left
    return compare b m (← requireInteger right)

/-! ### Conditions -/

/-- What finds out whether a condition holds. It stands at one of the arguments. -/
abbrev Test := StateT (List Bytes) Act

/-- Complains, about an argument if there is one that is not empty. -/
def refuse {α : Type} (argument : Bytes) (message : String) : Test α :=
  StateT.lift (fail (if argument.isEmpty then utf8 message
    else argument ++ utf8 (": " ++ message)))

/-- Goes on to the next argument. -/
def advance : Test Unit := modify List.tail

/-- What the argument behind the current one is. -/
def following : Test Part := do return partOf (← get).tail

/-- Finds out whether a condition with a sign between two arguments holds. -/
def between (b : Binary) : Test Bool := do
  match ← get with
  | left :: _ :: right :: rest =>
    set (right :: rest)
    StateT.lift (holdsBetween b left right)
  | _ :: sign :: _ => refuse sign "argument expected"
  | _ => return false

/-- Finds out whether a condition without other conditions in it holds, or one in parentheses. How
the latter is found out is given. -/
def single (whole : Part → Test Bool) (part : Part) : Test Bool := do
  match part with
  | .ended => return false
  | .sign .openParenthesis =>
    advance
    let inside := partOf (← get)
    if inside = .sign .closeParenthesis then return false
    let result ← whole inside
    advance
    if partOf (← get) ≠ .sign .closeParenthesis then refuse [] "closing paren expected"
    return result
  | .sign (.unary u) =>
    advance
    StateT.lift (holds u ((← get).headD []))
  | _ =>
    match ← following with
    | .sign (.binary b) => between b
    | _ => return !((← get).headD []).isEmpty

/-- Finds out whether a condition holds that may be denied, `fuel` times at most. -/
def denied (whole : Part → Test Bool) (part : Part) : Nat → Test Bool
  | 0 => single whole part
  | fuel + 1 => do
    if part ≠ .sign .not then return ← single whole part
    let next ← following
    if next ≠ .ended then advance
    return !(← denied whole next fuel)

/-- Finds out whether conditions hold with a sign between them, `fuel` at most. All of them are
looked at. -/
def chain (operator : Sign) (combine : Bool → Bool → Bool) (operand : Part → Test Bool)
    (part : Part) : Nat → Test Bool
  | 0 => operand part
  | fuel + 1 => do
    let first ← operand part
    if (← following) ≠ .sign operator then return first
    advance
    advance
    return combine first (← chain operator combine operand (partOf (← get)) fuel)

/-- Finds out whether a condition holds, with a nesting of `fuel` at most. -/
def whole : Nat → Part → Test Bool
  | 0, _ => pure false
  | fuel + 1, part => do
    let size := (← get).length + 1
    let operand (part : Part) : Test Bool := denied (whole fuel) part size
    let conjunction (part : Part) : Test Bool := chain .both and operand part size
    chain .either or conjunction part size

/-- Finds out whether the condition that arguments are holds. -/
def evaluate (part : Part) (arguments : List Bytes) : Act Bool := do
  let (result, rest) ← (whole (arguments.length + 1) part).run arguments
  match rest with
  | argument :: _ :: _ => do
    let ((), _) ← (refuse argument "unexpected operator" : Test Unit).run []
    return result
  | _ => return result

/-- Whether arguments stand in parentheses. -/
def isEnclosed (arguments : List Bytes) : Bool :=
  arguments.head? = some (utf8 "(") && arguments.getLast? = some (utf8 ")")

/-- Finds out whether arguments hold, or do not hold if they are denied. Three or four arguments are
denied or in parentheses as a whole. -/
def decideWithin (isDenied : Bool) (arguments : List Bytes) : Nat → Act Bool
  | 0 => pure false
  | fuel + 1 => do
    match arguments with
    | [] => return isDenied
    | [_, sign, _] =>
      if isBinary sign then return (← evaluate .operand arguments) != isDenied
    | _ => pure ()
    if arguments.length = 3 || arguments.length = 4 then
      if isEnclosed arguments then
        let inside := arguments.tail.dropLast
        return (← evaluate (partOf inside) inside) != isDenied
      if arguments.head? = some (utf8 "!") then return ← decideWithin true arguments.tail fuel
    return (← evaluate (partOf arguments) arguments) != isDenied

/-- The status that tells whether arguments hold. With brackets the last argument closes them. -/
def test (inBrackets : Bool) (arguments : List Bytes) : Act Nat := do
  let arguments ← if inBrackets then
      if (arguments.getLast?.getD []).head? ≠ some closeBracket then fail (utf8 "missing ]")
      else pure arguments.dropLast
    else pure arguments
  return if ← decideWithin false arguments 3 then 0 else 1

end CommandShell.Machine.Script.Condition
