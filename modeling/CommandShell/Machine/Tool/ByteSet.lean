import CommandShell.Machine.Tool.Basic
import CommandShell.Machine.Tool.ByteClass
import CommandShell.Machine.Tool.Quantity
import CommandShell.Machine.Tool.Quoting

/-!
# Sequences of bytes

How a sequence of bytes is described by a text: bytes and their escapes, ranges, classes, classes of
one byte that mean the same, and bytes that are repeated, perhaps as often as it takes.
-/

namespace CommandShell.Machine.Tool

open Ascii

/-! ### Escapes -/

/-- A byte of a description, and whether an escape stood for it. -/
structure Cell where
  /-- The byte. -/
  byte : UInt8
  /-- Whether an escape stood for it. -/
  escaped : Bool
  deriving DecidableEq, Repr

/-- Whether a cell is a byte that no escape stands for. -/
def Cell.is (c : Cell) (b : UInt8) : Bool := c.byte = b && !c.escaped

/-- A text whose escapes were read, with the warnings about them. -/
structure Unquoted where
  /-- The bytes. -/
  cells : List Cell
  /-- The warnings. -/
  warnings : List Bytes

/-- One byte more in front. -/
def Unquoted.push (u : Unquoted) (cell : Cell) : Unquoted := { u with cells := cell :: u.cells }

/-- The warning about three octal digits of which only two make a byte. -/
def ambiguousOctal (digits : Bytes) : Bytes :=
  utf8 "warning: the ambiguous octal escape \\" ++ digits ++
    utf8 " is being\n\tinterpreted as the 2-byte sequence \\0" ++ digits.take 2 ++ utf8 ", " ++
    digits.drop 2

/-- Reads the escapes of a text. The first `skipped` bytes belong to an escape in front. -/
def unquote (skipped : Nat) : Bytes → Unquoted
  | [] => ⟨[], []⟩
  | b :: rest =>
    if 0 < skipped then unquote (skipped - 1) rest
    else if b ≠ backslash then (unquote 0 rest).push ⟨b, false⟩
    else match rest with
      | [] => ⟨[⟨backslash, false⟩],
          [utf8 "warning: an unescaped backslash at end of string is not portable"]⟩
      | letter :: _ =>
        let digits := (rest.take 3).takeWhile isOctal
        if digits.isEmpty then
          let known := escapeLetters.find? fun (_, name) => name == letter
          (unquote 1 rest).push ⟨(known.map (·.1)).getD letter, true⟩
        else
          let value := digits.foldl (fun n digit => n * 8 + digitValue digit) 0
          if value < 256 then (unquote digits.length rest).push ⟨UInt8.ofNat value, true⟩
          else
            let more := unquote 2 rest
            ⟨⟨UInt8.ofNat (value / 8), true⟩ :: more.cells, ambiguousOctal digits :: more.warnings⟩

/-! ### Pieces -/

/-- A part of a sequence. -/
inductive Piece where
  /-- A byte. -/
  | byte (b : UInt8)
  /-- All bytes between two. -/
  | range (first last : UInt8)
  /-- All bytes of a class. -/
  | ofClass (c : ByteClass)
  /-- All bytes that mean the same as one. -/
  | sameAs (b : UInt8)
  /-- A byte several times. -/
  | repeated (b : UInt8) (count : Nat)
  /-- A byte as often as it takes. -/
  | filling (b : UInt8)
  deriving DecidableEq, Repr

/-- A byte in a message. -/
def printableByte (b : UInt8) : Bytes := if isPrintable b then [b] else octalEscape b

/-- Some bytes in a message. -/
def printableText (bytes : Bytes) : Bytes :=
  bytes.flatMap fun b => match escapeLetters.lookup b with
    | some letter => [backslash, letter]
    | none => printableByte b

/-- The cells up to a mark that is followed by a closing bracket, and those behind both. -/
def upToMark (mark : UInt8) : List Cell → Option (List Cell × List Cell)
  | c :: d :: rest =>
    if c.is mark && d.is closeBracket then some ([], rest)
    else (upToMark mark (d :: rest)).map fun (inside, behind) => (c :: inside, behind)
  | _ => none

/-- The cells up to a closing bracket, and those behind it. An escape ends the search. -/
def upToBracket : List Cell → Option (List Cell × List Cell)
  | [] => none
  | c :: rest =>
    if c.escaped then none
    else if c.byte = closeBracket then some ([], rest)
    else (upToBracket rest).map fun (inside, behind) => (c :: inside, behind)

/-- Whether cells are a star with digits and a closing bracket behind it. -/
def looksRepeated : List Cell → Bool
  | c :: rest =>
    c.is star && ((rest.dropWhile fun c => isDigit c.byte).head?.any (·.is closeBracket))
  | [] => false

/-- The greatest number of times that a byte can be repeated. -/
def maxRepetition : Nat := 18446744073709551613

/-- The number of times that is given behind a star: an octal one if it begins with a zero. -/
def readRepetition (text : Bytes) : Option Nat :=
  let octal := text.head? = some zero
  let trimmed := text.dropWhile isSpace
  let digits := if trimmed.head? = some plus then trimmed.tail else trimmed
  if digits.isEmpty || !digits.all (if octal then isOctal else isDigit) then none
  else
    let base := if octal then 8 else 10
    let value := digits.foldl (fun n digit => n * base + digitValue digit) 0
    if maxRepetition < value then none else some value

/-- What stands between brackets with a mark inside of each, if it means something. -/
def markedPiece (mark : UInt8) (inside : Bytes) : Option Piece :=
  if mark = colon then
    (ByteClass.names.find? fun (name, _) => utf8 name = inside).map fun (_, c) => .ofClass c
  else match inside with
    | [b] => some (.sameAs b)
    | _ => none

/-- The mistake of brackets with a mark inside of each. -/
def markedFault (mark : UInt8) (inside : Bytes) : Bytes :=
  if inside.isEmpty then
    if mark = colon then utf8 "missing character class name '[::]'"
    else utf8 "missing equivalence class character '[==]'"
  else if mark = colon then utf8 "invalid character class " ++ quoted (printableText inside)
  else printableText inside ++ utf8 ": equivalence class operand must be a single character"

/-- What the cells behind an opening bracket mean together with it, and the cells that are left. No
piece means that the bracket stands for itself. -/
def bracketPiece (cells : List Cell) : Except Bytes (Option (Piece × List Cell)) :=
  let repetition : Except Bytes (Option (Piece × List Cell)) :=
    match cells with
    | c :: d :: rest =>
      if !d.is star then .ok none
      else match upToBracket rest with
        | none => .ok none
        | some (count, behind) =>
          let count := count.map (·.byte)
          if count.isEmpty then .ok (some (.filling c.byte, behind))
          else match readRepetition count with
            | some 0 => .ok (some (.filling c.byte, behind))
            | some n => .ok (some (.repeated c.byte n, behind))
            | none => .error (utf8 "invalid repeat count " ++ quoted (printableText count) ++
                utf8 " in [c*n] construct")
    | _ => .ok none
  match cells with
  | mark :: rest =>
    if mark.is colon || mark.is equalsSign then
      match upToMark mark.byte rest with
      | none => repetition
      | some (inside, behind) =>
        let text := inside.map (·.byte)
        match markedPiece mark.byte text with
        | some piece => .ok (some (piece, behind))
        | none =>
          if !text.isEmpty && looksRepeated rest then repetition
          else .error (markedFault mark.byte text)
    else repetition
  | [] => .ok none

/-- The piece that cells begin with, and the cells that are left. -/
def nextPiece (c : Cell) (second third : Cell) (rest : List Cell) :
    Except Bytes (Piece × List Cell) := do
  let bracketed ← if c.is openBracket then bracketPiece (second :: third :: rest) else .ok none
  match bracketed with
  | some answer => .ok answer
  | none =>
    if second.is minus then
      if third.byte < c.byte then
        .error (utf8 "range-endpoints of '" ++ printableByte c.byte ++ utf8 "-" ++
          printableByte third.byte ++ utf8 "' are in reverse collating sequence order")
      else .ok (.range c.byte third.byte, rest)
    else .ok (.byte c.byte, second :: third :: rest)

/-- The pieces of a sequence, `fuel` of them at most. Fewer than three cells stand for
themselves. -/
def piecesIn : Nat → List Cell → Except Bytes (List Piece)
  | fuel + 1, c :: second :: third :: rest => do
    let (piece, behind) ← nextPiece c second third rest
    return piece :: (← piecesIn fuel behind)
  | _, cells => .ok (cells.map fun c => .byte c.byte)

/-! ### What a sequence stands for -/

namespace Piece

/-- All bytes, in order. -/
def allBytes : Bytes := (List.range 256).map UInt8.ofNat

/-- The number of bytes of a piece. -/
def length : Piece → Nat
  | .byte _ | .sameAs _ => 1
  | .range first last => last.toNat - first.toNat + 1
  | .ofClass c => (allBytes.filter c.contains).length
  | .repeated _ count => count
  | .filling _ => 0

/-- The number of times that a repeated byte is really written out. -/
def maxWritten : Nat := 65536

/-- The bytes of a piece. -/
def bytes : Piece → Bytes
  | .byte b | .sameAs b => [b]
  | .range first last => (List.range (last.toNat - first.toNat + 1)).map fun n =>
      first + UInt8.ofNat n
  | .ofClass c => allBytes.filter c.contains
  | .repeated b count => List.replicate (min count maxWritten) b
  | .filling _ => []

/-- The last byte of a piece, if it is one that can be repeated. -/
def last? : Piece → Option UInt8
  | .byte b | .sameAs b | .repeated b _ | .filling b => some b
  | .range _ last => some last
  | .ofClass _ => none

/-- Whether a piece is filled up. -/
def isFilling : Piece → Bool
  | .filling _ => true
  | _ => false

/-- Whether a piece is a class. -/
def isClass : Piece → Bool
  | .ofClass _ => true
  | _ => false

/-- Whether a piece is a class of letters of one case. -/
def isCase : Piece → Bool
  | .ofClass .lower | .ofClass .upper => true
  | _ => false

end Piece

/-- The number of bytes of a sequence. -/
def lengthOf (pieces : List Piece) : Nat := pieces.foldl (fun n piece => n + piece.length) 0

/-- A set of bytes. -/
abbrev ByteSet := Array Bool

/-- The bytes of a sequence as a set. -/
def setOf (pieces : List Piece) : ByteSet :=
  pieces.foldl (fun set piece =>
    piece.bytes.foldl (fun set b => set.setIfInBounds b.toNat true) set)
    (Array.replicate 256 false)

/-- Whether a byte is in a set. -/
def ByteSet.has (set : ByteSet) (b : UInt8) : Bool := (set[b.toNat]?).getD false

/-- The bytes that are not in a set. -/
def ByteSet.complement (set : ByteSet) : ByteSet := set.map (!·)

end CommandShell.Machine.Tool
