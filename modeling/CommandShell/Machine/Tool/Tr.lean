import CommandShell.Machine.Tool.ByteSet
import CommandShell.Machine.Tool.Options

/-!
# Exchanging bytes

The tool that exchanges the bytes of one sequence for those of another, deletes bytes, and squeezes
rows of one byte. Main statement: without an exchange a byte stays what it is (`exchanged_start`).
-/

namespace CommandShell.Machine.Tool.Tr

open Ascii

/-- What is wanted. -/
structure Settings where
  /-- Whether the bytes are meant that are not in the first sequence. -/
  complement : Bool
  /-- Whether bytes are deleted. -/
  delete : Bool
  /-- Whether rows are squeezed. -/
  squeeze : Bool
  /-- Whether the first sequence is cut off where the second one ends. -/
  truncate : Bool

/-! ### Checking the sequences -/

/-- A byte of a sequence as it is met when both sequences are gone through together. -/
structure Station where
  /-- The byte. -/
  byte : UInt8
  /-- Whether it is the first byte of its piece. -/
  first : Bool
  /-- The class of one case that it belongs to. -/
  case : Option ByteClass
  deriving DecidableEq

/-- The bytes of a piece as they are met. -/
def stationsOf (piece : Piece) : List Station :=
  let case := match piece with
    | .ofClass .lower => some ByteClass.lower
    | .ofClass .upper => some ByteClass.upper
    | _ => none
  match piece.bytes with
  | [] => []
  | b :: rest => ⟨b, true, case⟩ :: rest.map fun b => ⟨b, false, case⟩

/-- The bytes of a sequence as they are met. -/
def stations (pieces : List Piece) : List Station := pieces.flatMap stationsOf

/-- What is left behind the piece of the last byte. -/
def skipPiece (rest : List Station) : List Station := rest.dropWhile (!·.first)

/-- How many letters there are of one case. -/
def letterCount : Nat := 26

/-- How many bytes count for nothing because a class of one case is exchanged for another. There is
no answer if such a class does not stand opposite another one. -/
def discount : Nat → List Station → List Station → Option Nat
  | 0, _, _ => some 0
  | _ + 1, _, [] => some 0
  | fuel + 1, firsts, there :: theirs =>
    match there.case, firsts with
    | some _, here :: ours =>
      if here.first && here.case.isSome then
        (discount fuel (skipPiece ours) (skipPiece theirs)).map (· + (letterCount - 1))
      else none
    | some _, [] => none
    | none, [] => some 0
    | none, _ :: ours => discount fuel ours theirs

/-- How many bytes are not in a sequence. -/
def complementLength (pieces : List Piece) : Nat :=
  (setOf pieces).foldl (fun n present => if present then n else n + 1) 0

/-- A sequence in which the byte that is filled up is repeated so many times. -/
def fillUp (count : Nat) (pieces : List Piece) : List Piece :=
  pieces.map fun
    | .filling b => if count = 0 then .filling b else .repeated b count
    | piece => piece

/-- Whether a sequence consists of a single byte, perhaps repeated. -/
def isUniform (pieces : List Piece) : Bool :=
  match pieces.flatMap Piece.bytes with
  | [] => false
  | b :: rest => rest.all (· = b)

/-- The number of classes and fillings that are not allowed. -/
def countFillings (pieces : List Piece) : Nat := pieces.countP Piece.isFilling

/-- Makes the second sequence as long as the first one by repeating its last byte. -/
def extend (second : List Piece) (missing : Nat) : Except Bytes (List Piece) :=
  match second.getLast?.bind Piece.last? with
  | some b => .ok (second ++ [.repeated b missing])
  | none => .error (utf8 ("when translating with string1 longer than string2,\n" ++
        "the latter string must not end with a character class"))

/-- Checks the first sequence, and tells how many bytes it has. -/
def checkFirst (s : Settings) (first : List Piece) : Except Bytes Nat := do
  let length := lengthOf first
  if maxRepetition < length then throw (utf8 "too many characters in set")
  if 0 < countFillings first then
    throw (utf8 "the [c*] repeat construct may not appear in string1")
  return if s.complement then complementLength first else length

/-- Checks the second sequence for an exchange, and tells what it is to be then. -/
def checkExchange (s : Settings) (first second : List Piece) (firstLength secondLength : Nat) :
    Except Bytes (List Piece) := do
  if second.any fun | .sameAs _ => true | _ => false then
    throw (utf8 "[=c=] expressions may not appear in string2 when translating")
  if second.any fun piece => piece.isClass && !piece.isCase then
    throw (utf8 ("when translating, the only character classes that may appear in\n" ++
        "string2 are 'upper' and 'lower'"))
  let less ← if s.complement || !second.any Piece.isClass then pure 0
    else
      let here := stations first
      let there := stations second
      match discount (there.length + 1) here there with
      | some n => pure n
      | none => throw (utf8 "misaligned [:upper:] and/or [:lower:] construct")
  let firstLength := firstLength - less
  let secondLength := secondLength - less
  if firstLength ≤ secondLength || s.truncate then
    if s.complement && first.any Piece.isClass &&
        !(secondLength = firstLength && isUniform second) then
      throw (utf8 ("when translating with complemented character classes,\n" ++
        "string2 must map all characters in the domain to one"))
    return second
  if secondLength = 0 then
    throw (utf8 "when not truncating set1, string2 must be non-empty")
  let second ← extend second (firstLength - secondLength)
  if s.complement && first.any Piece.isClass && !isUniform second then
    throw (utf8 ("when translating with complemented character classes,\n" ++
        "string2 must map all characters in the domain to one"))
  return second

/-- Checks the second sequence, and tells what it is to be. -/
def checkSecond (s : Settings) (first second : List Piece) (firstLength : Nat) :
    Except Bytes (List Piece) := do
  let length := lengthOf second
  if maxRepetition < length then throw (utf8 "too many characters in set")
  let fillings := countFillings second
  let fits := length ≤ firstLength && fillings = 1
  let filled := if fits then fillUp (firstLength - length) second else second
  let length := if fits then firstLength else length
  if 1 < fillings then throw (utf8 "only one [c*] repeat construct may appear in string2")
  if !s.delete then checkExchange s first filled firstLength length
  else if 0 < fillings then
    throw (utf8 "the [c*] construct may appear in string2 only when translating")
  else return filled

/-! ### The exchange -/

/-- What each byte is exchanged for. -/
abbrev Exchange := Array UInt8

/-- What a byte is exchanged for. -/
def exchanged (x : Exchange) (b : UInt8) : UInt8 := (x[b.toNat]?).getD b

/-- No exchange at all. -/
def Exchange.start : Exchange := (Piece.allBytes).toArray

/-- Without an exchange a byte stays what it is. -/
theorem exchanged_start (b : UInt8) : exchanged .start b = b := by
  have all : ∀ n < 256, exchanged .start (UInt8.ofNat n) = UInt8.ofNat n := by decide +kernel
  have := all b.toNat b.toNat_lt
  rwa [UInt8.ofNat_toNat] at this

/-- Exchanges a byte for another one. -/
def Exchange.put (x : Exchange) (source goal : UInt8) : Exchange :=
  x.setIfInBounds source.toNat goal

/-- The exchange of all letters of one case. -/
def Exchange.putCase (x : Exchange) (case : ByteClass) : Exchange :=
  let other := fun (b : UInt8) =>
    if case = .lower then ByteClass.toUpper b else ByteClass.toLower b
  (Piece.allBytes.filter case.contains).foldl (fun x b => x.put b (other b)) x

/-- The exchange of the bytes of one sequence for those of another. -/
def exchangeFrom (x : Exchange) : Nat → List Station → List Station → Exchange
  | fuel + 1, here :: ours, there :: theirs =>
    match here.case, there.case with
    | some a, some b =>
      let x := if a = b then x.put here.byte there.byte else x.putCase a
      exchangeFrom x fuel (skipPiece ours) (skipPiece theirs)
    | _, some _ => exchangeFrom (x.put here.byte there.byte) fuel (skipPiece ours)
        (skipPiece theirs)
    | _, none => exchangeFrom (x.put here.byte there.byte) fuel ours theirs
  | _, _, _ => x

/-- The exchange that two sequences describe. -/
def exchangeOf (s : Settings) (first second : List Piece) : Exchange :=
  if s.complement then
    let others := Piece.allBytes.filter fun b => !(setOf first).has b
    (others.zip (second.flatMap Piece.bytes)).foldl (fun x (b, goal) => x.put b goal) .start
  else
    let here := stations first
    exchangeFrom .start (here.length + 1) here (stations second)

/-! ### The work -/

/-- What is done to the bytes. -/
structure Plan where
  /-- The bytes that are deleted. -/
  deleted : ByteSet
  /-- What the others are exchanged for. -/
  exchange : Exchange
  /-- The bytes of which rows are squeezed, after the exchange. -/
  squeezed : ByteSet

/-- What is done to one byte, if it is not deleted. -/
def Plan.apply (p : Plan) (b : UInt8) : Option UInt8 :=
  if p.deleted.has b then none else some (exchanged p.exchange b)

/-- What is written for a byte, and the last byte that was written. -/
def Plan.step (p : Plan) (out : ByteArray × Option UInt8) (b : UInt8) : ByteArray × Option UInt8 :=
  match p.apply b with
  | none => out
  | some b => if out.2 = some b && p.squeezed.has b then out else (out.1.push b, some b)

/-- Does the work on everything that is read. -/
def work (t : Invocation) (p : Plan) (last : Option UInt8) : Nat → Act Unit
  | 0 => pure ()
  | fuel + 1 => do
    match (← ask (.read 0 inputSize) : Except Errno ByteArray) with
    | .error errno => t.dieOf 1 (utf8 "read error") errno
    | .ok piece =>
      if piece.isEmpty then return ()
      let (out, last) := piece.foldl p.step (.empty, last)
      match ← put out with
      | .ok () => work t p last fuel
      | .error errno => t.dieOf 1 writeError errno

/-- Reads the description of a sequence. -/
def readPieces (t : Invocation) (text : Bytes) : Act (List Piece) := do
  let u := unquote 0 text
  for warning in u.warnings do
    t.complain warning
  match piecesIn (u.cells.length + 1) u.cells with
  | .ok pieces => return pieces
  | .error fault => t.die 1 fault

/-- What comes of a check. -/
def settle {α : Type} (t : Invocation) : Except Bytes α → Act α
  | .ok a => pure a
  | .error fault => t.die 1 fault

/-- The set of no bytes. -/
def noBytes : ByteSet := setOf []

/-- What one sequence asks for. -/
def planOfOne (s : Settings) (first : List Piece) : Plan :=
  let set := if s.complement then (setOf first).complement else setOf first
  if s.squeeze then ⟨noBytes, .start, set⟩ else ⟨set, .start, noBytes⟩

/-- What two sequences ask for. -/
def planOfTwo (s : Settings) (first second : List Piece) : Plan :=
  let squeezed := if s.squeeze then setOf second else noBytes
  if s.delete then
    ⟨if s.complement then (setOf first).complement else setOf first, .start, squeezed⟩
  else ⟨noBytes, exchangeOf s first second, squeezed⟩

/-- Refuses a number of operands that does not fit, with a line that explains it. -/
def refuseOperands (t : Invocation) (fault : Bytes) (explanation : String) : Act Unit := do
  t.complain fault
  if !explanation.isEmpty then say (utf8 (explanation ++ "\n"))
  t.pointToHelp 1

/-- Checks the number of operands. -/
def checkOperands (t : Invocation) (s : Settings) (operands : List Bytes) : Act Unit := do
  let least := if s.delete = s.squeeze then 2 else 1
  let most := if s.delete && !s.squeeze then 1 else 2
  if operands.isEmpty then t.refuse 1 (utf8 "missing operand")
  else if operands.length < least then
    refuseOperands t (utf8 "missing operand after " ++ quoted (operands.getLast?.getD []))
      (if s.squeeze then
        "Two strings must be given when both deleting and squeezing repeats."
      else "Two strings must be given when translating.")
  else if most < operands.length then
    refuseOperands t (utf8 "extra operand " ++ quoted ((operands[most]?).getD []))
      (if operands.length = 2 then
        "Only one string may be given when deleting without squeezing repeats."
      else "")

/-- The options. -/
def rules : List OptionRule := [⟨"complement", some 'c', some "complement", .absent⟩,
  ⟨"complement", some 'C', none, .absent⟩, .letterOnly 'A', .plain 'd' "delete",
  .plain 's' "squeeze-repeats", .plain 't' "truncate-set1"]

/-- What an option asks for. -/
def choose (s : Settings) (key : String) : Settings :=
  match key with
  | "complement" => { s with complement := true }
  | "delete" => { s with delete := true }
  | "squeeze-repeats" => { s with squeeze := true }
  | "truncate-set1" => { s with truncate := true }
  | _ => s

/-- Exchanges, deletes and squeezes bytes. -/
def tool (t : Invocation) : Task :=
  t.run 1 (withOptions t rules false 1 ⟨false, false, false, false⟩
    (fun s key _ => pure (choose s key)) fun s operands => do
      checkOperands t s operands
      match operands with
      | [text] =>
        let first ← readPieces t text
        let _ ← settle t (checkFirst s first)
        work t (planOfOne s first) none endless
        return 0
      | text :: other :: _ =>
        let first ← readPieces t text
        let second ← readPieces t other
        let length ← settle t (checkFirst s first)
        let second ← settle t (checkSecond s first second length)
        work t (planOfTwo s first second) none endless
        return 0
      | [] => return 0)

end CommandShell.Machine.Tool.Tr
