import CommandShell.ArgumentVector
import CommandShell.Machine.Ascii
import CommandShell.Machine.Script.Syntax

/-!
# The tokens of scripts

What the text of a script is divided into before commands are made of it: words, operators and
redirections. Some words are reserved where a command can begin. Each token has a name under which
complaints mention it. Main statement: a reserved word is found by its bytes
(`Reserved.ofBytes?_bytes`).
-/

namespace CommandShell.Machine.Script

open Ascii

/-- A word that is reserved where a command can begin. -/
inductive Reserved where
  | negation
  | choice
  | body
  | bodyEnd
  | otherwiseIf
  | otherwise
  | choiceEnd
  | conditionalEnd
  | forEach
  | conditional
  | membership
  | consequence
  | untilLoop
  | whileLoop
  | groupStart
  | groupEnd
  deriving DecidableEq, Repr

namespace Reserved

/-- All reserved words. -/
def all : List Reserved := [negation, choice, body, bodyEnd, otherwiseIf, otherwise, choiceEnd,
  conditionalEnd, forEach, conditional, membership, consequence, untilLoop, whileLoop, groupStart,
  groupEnd]

/-- The text of a reserved word. -/
def text : Reserved → String
  | negation => "!"
  | choice => "case"
  | body => "do"
  | bodyEnd => "done"
  | otherwiseIf => "elif"
  | otherwise => "else"
  | choiceEnd => "esac"
  | conditionalEnd => "fi"
  | forEach => "for"
  | conditional => "if"
  | membership => "in"
  | consequence => "then"
  | untilLoop => "until"
  | whileLoop => "while"
  | groupStart => "\x7b"
  | groupEnd => "\x7d"

/-- Whether a list of commands ends in front of the word. -/
def ends : Reserved → Bool
  | body | bodyEnd | otherwiseIf | otherwise | choiceEnd | conditionalEnd | consequence
  | groupEnd => true
  | _ => false

/-- The bytes of a reserved word. -/
def bytes (r : Reserved) : Bytes := r.text.toList.map byteOf

/-- The reserved word with some bytes. -/
def ofBytes? (bytes : Bytes) : Option Reserved := all.find? fun r => r.bytes == bytes

/-- A reserved word is found by its bytes. -/
theorem ofBytes?_bytes (r : Reserved) : ofBytes? r.bytes = some r := by cases r <;> decide

end Reserved

/-- An operator. -/
inductive Operator where
  | separator
  | background
  | both
  | either
  | pipe
  | openParenthesis
  | closeParenthesis
  | caseEnd
  deriving DecidableEq, Repr

namespace Operator

/-- The text of an operator. -/
def text : Operator → String
  | separator => ";"
  | background => "&"
  | both => "&&"
  | either => "||"
  | pipe => "|"
  | openParenthesis => "("
  | closeParenthesis => ")"
  | caseEnd => ";;"

/-- Whether a list of commands ends in front of the operator. -/
def ends : Operator → Bool
  | closeParenthesis | caseEnd => true
  | _ => false

end Operator

/-- What a redirection asks for; what it refers to follows. -/
inductive Arrow where
  /-- A file. -/
  | file (direction : Direction)
  /-- Another descriptor. -/
  | descriptor
  /-- A text in the script, perhaps without the tabs at the beginnings of its lines. -/
  | document (stripsTabs : Bool)
  deriving DecidableEq, Repr

/-- A token. -/
inductive Token where
  | endOfText
  | newline
  | operator (o : Operator)
  | redirection (fd : Fd) (arrow : Arrow)
  | word (word : Word)
  | reserved (r : Reserved)

namespace Token

/-- A text between quotation marks. -/
def marked (text : String) : String := "\"" ++ text ++ "\""

/-- The name of a token in complaints. -/
def name : Token → String
  | endOfText => "end of file"
  | newline => "newline"
  | operator o => marked o.text
  | redirection _ _ => "redirection"
  | word _ => "word"
  | reserved r => marked r.text

/-- Whether a list of commands ends in front of the token. -/
def ends : Token → Bool
  | endOfText => true
  | operator o => o.ends
  | reserved r => r.ends
  | _ => false

/-- Whether a token is a certain operator. -/
def isOperator (o : Operator) : Token → Bool
  | operator other => o = other
  | _ => false

/-- Whether a token is a certain reserved word. -/
def isReserved (r : Reserved) : Token → Bool
  | reserved other => r = other
  | _ => false

end Token

/-! ### Names -/

/-- Whether a name can begin with a byte. -/
def startsName (b : UInt8) : Bool := isLetter b || b = underscore

/-- Whether a byte can stand in a name. -/
def isInName (b : UInt8) : Bool := startsName b || isDigit b

/-- Whether some bytes are a name. -/
def isName : Bytes → Bool
  | [] => false
  | b :: rest => startsName b && rest.all isInName

/-- The name at the beginning of some bytes, perhaps none, and what follows it. -/
def splitName (bytes : Bytes) : Bytes × Bytes :=
  if bytes.head?.any startsName then (bytes.takeWhile isInName, bytes.dropWhile isInName)
  else ([], bytes)

/-- The name and the value of an assignment. -/
def splitAssignment? (bytes : Bytes) : Option (Bytes × Bytes) :=
  match splitName bytes with
  | ([], _) => none
  | (name, equalsSign :: value) => some (name, value)
  | _ => none

/-- Whether a word is an assignment. -/
def isAssignment (word : Word) : Bool :=
  match word with
  | .plain bytes :: _ => (splitAssignment? bytes).isSome
  | _ => false

/-- Whether a byte is the name of a parameter that has a meaning of its own. -/
def isSpecialParameter (b : UInt8) : Bool := (utf8 "#?$!-*@").contains b || isDigit b

end CommandShell.Machine.Script
