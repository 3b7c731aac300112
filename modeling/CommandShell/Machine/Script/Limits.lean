import CommandShell.Machine.Script.Options
import CommandShell.Machine.Tool.Conversion

/-!
# Limits of a process

The commands of an interpreter about what is withheld from a process: permission bits of the files
that it makes, and resources. The mask of permission bits can be given as an octal number or in
letters that say what is permitted.
-/

namespace CommandShell.Machine.Script.Limits

open Ascii Tool

/-! ### Permission bits -/

/-- All permission bits that a mask can hold. -/
def allBits : Nat := 0o777

/-- What letters permit: to whom something is permitted, and how. -/
structure Permission where
  /-- The bits of those to whom it is permitted, the lowest one of each. -/
  whom : Nat
  /-- The sign that says how. -/
  sign : UInt8
  /-- The three bits of what is permitted. -/
  what : Nat

/-- Bits with those of a permission. -/
def permit (bits : Nat) (p : Permission) : Nat :=
  let all := p.whom * 7
  let new := p.what % 8 * p.whom
  if p.sign = minus then bits &&& (allBits - new)
  else if p.sign = plus then bits ||| new
  else (bits &&& (allBits - all)) ||| new

/-- To whom a letter permits something. -/
def whomOf (letter : UInt8) : Option Nat :=
  if letter = byteOf 'a' then some 0o111
  else if letter = byteOf 'u' then some 0o100
  else if letter = byteOf 'g' then some 0o010
  else if letter = byteOf 'o' then some 0o001
  else none

/-- What a letter permits, where some bits are permitted already. -/
def whatOf (bits : Nat) (letter : UInt8) : Option Nat :=
  if letter = byteOf 'r' then some 4
  else if letter = byteOf 'w' then some 2
  else if letter = byteOf 'x' then some 1
  else if letter = byteOf 'u' then some (bits / 64)
  else if letter = byteOf 'g' then some (bits / 8)
  else if letter = byteOf 'o' then some bits
  else if letter = byteOf 'X' then some (if bits &&& 0o111 ≠ 0 then 1 else 0)
  else if letter = byteOf 's' then some 0
  else none

/-- The bits of letters put together. -/
def gather (values : UInt8 → Option Nat) (letters : Bytes) : Nat :=
  letters.foldl (fun n letter => n ||| (values letter).getD 0) 0

/-- The bits that are permitted according to letters, in `fuel` steps at most. There is no answer if
they make no sense. -/
def permitted? (old bits whom : Nat) (text : Bytes) : Nat → Option Nat
  | 0 => none
  | fuel + 1 =>
    let named := text.takeWhile fun letter => (whomOf letter).isSome
    let whom := whom ||| gather whomOf named
    let whom := if whom = 0 then 0o111 else whom
    match text.drop named.length with
    | [] => if text.isEmpty then some bits else none
    | sign :: rest =>
      if !(utf8 "=+-").contains sign then none
      else
        let letters := rest.takeWhile fun letter => (whatOf old letter).isSome
        let bits := permit bits ⟨whom, sign, gather (whatOf old) letters⟩
        match rest.drop letters.length with
        | [] => some bits
        | b :: more =>
          if b = byteOf ',' then if more.isEmpty then some bits else permitted? old bits 0 more fuel
          else if (utf8 "=+-").contains b then permitted? old bits whom (b :: more) fuel
          else none

/-- What is permitted to one of three, in letters. -/
def lettersOf (name : Char) (bits : Nat) : Bytes :=
  byteOf name :: equalsSign ::
    ([(4, 'r'), (2, 'w'), (1, 'x')].filterMap fun (bit, letter) =>
      if bits &&& bit ≠ 0 then some (byteOf letter) else none)

/-- Permission bits in letters. -/
def showBits (bits : Nat) : Bytes :=
  List.intercalate [byteOf ',']
    [lettersOf 'u' (bits / 64), lettersOf 'g' (bits / 8), lettersOf 'o' bits]

/-- A mask as a number. -/
def showMask (mask : Nat) : Bytes :=
  let digits := Conversion.digitsIn 8 mask
  List.replicate (4 - digits.length) zero ++ digits

/-- The mask of a process. -/
def currentMask : Act Nat := do
  let mask : Nat ← ask (.setMask 0)
  let _ ← ask (.setMask mask)
  return mask

/-- The mask that a text asks for. -/
def readMask (mask : Nat) (text : Bytes) : Act Nat := do
  if text.head?.any isDigit then
    if text.all isOctal then return text.foldl (fun n b => n * 8 + digitValue b) 0 % (allBits + 1)
    else refuseNumber text
  else
    let old := allBits - mask
    match permitted? old old 0 text (text.length + 1) with
    | some bits => return allBits - bits
    | none => fail (utf8 "Illegal mode: " ++ text)

/-- Shows the mask or sets it. -/
def umask (arguments : List Bytes) : Act Nat := do
  let (options, operands) ← readOptions "S" arguments
  let mask ← currentMask
  match operands with
  | [] => putLine (if options.isEmpty then showMask mask else showBits (allBits - mask))
  | text :: _ =>
    let _ ← ask (.setMask (← readMask mask text))
  return 0

/-! ### Resources -/

/-- Something that is limited, as the interpreter shows it. -/
structure Resource where
  /-- Its name, and the unit in which it is counted. -/
  title : String
  /-- What it is. -/
  what : Limited
  /-- How great the unit is. -/
  unit : Nat
  /-- Its letter. -/
  letter : Char

/-- What is limited, in the order in which it is shown. -/
def resources : List Resource := [⟨"time(seconds)", .time, 1, 't'⟩,
  ⟨"file(blocks)", .fileSize, 512, 'f'⟩, ⟨"data(kbytes)", .data, 1024, 'd'⟩,
  ⟨"stack(kbytes)", .stack, 1024, 's'⟩, ⟨"coredump(blocks)", .core, 512, 'c'⟩,
  ⟨"memory(kbytes)", .memory, 1024, 'm'⟩, ⟨"locked memory(kbytes)", .lockedMemory, 1024, 'l'⟩,
  ⟨"process", .processes, 1, 'p'⟩, ⟨"nofiles", .descriptors, 1, 'n'⟩,
  ⟨"vmemory(kbytes)", .addresses, 1024, 'v'⟩, ⟨"locks", .locks, 1, 'w'⟩,
  ⟨"rtprio", .priority, 1, 'r'⟩]

/-- The resource that is meant if none is named. -/
def usualResource : Resource := ⟨"file(blocks)", .fileSize, 512, 'f'⟩

/-- The resource with a letter. -/
def resourceOf (letter : UInt8) : Resource :=
  (resources.find? fun r => byteOf r.letter == letter).getD usualResource

/-- What stands for no limit. -/
def unlimited : Bytes := utf8 "unlimited"

/-- The number from which on limits are counted from zero again. -/
def limitSpace : Nat := 18446744073709551616

/-- A limit in words. -/
def showLimit (r : Resource) : Option Nat → Bytes
  | none => unlimited
  | some n => decimal (n / r.unit)

/-- The limit that a text asks for. The greatest one that can be counted is none. -/
def readLimit (r : Resource) (text : Bytes) : Act (Option Nat) := do
  if text = unlimited then return none
  if !text.all isDigit then fail (utf8 "bad number")
  let n := digitsValue text % limitSpace * r.unit % limitSpace
  return if n = limitSpace - 1 then none else some n

/-- Shows all limits. -/
def showAll (choose : Bound → Option Nat) : List Resource → Act Unit
  | [] => pure ()
  | r :: rest => do
    let bound : Bound ← ask (.boundOf r.what)
    let title := utf8 r.title
    putLine (title ++ List.replicate (20 - title.length) space ++ [space] ++
      showLimit r (choose bound))
    showAll choose rest

/-- Changes the limits of a resource. -/
def changeLimit (r : Resource) (bound : Bound) : Act Unit := do
  match (← ask (.setBound r.what bound) : Except Errno Unit) with
  | .ok () => return
  | .error errno => fail (utf8 "error setting limit (" ++ reason errno ++ utf8 ")")

/-- Shows the limit of a resource or sets it. -/
def ulimit (arguments : List Bytes) : Act Nat := do
  let (options, operands) ← readOptions "HSatfdscmlpnvwr" arguments
  let letters := options.map (·.letter)
  let kinds := letters.filter fun letter => (utf8 "HS").contains letter
  let onlyHard := kinds.getLast? = some (byteOf 'H')
  let onlySoft := kinds.getLast? = some (byteOf 'S')
  let showsAll := letters.contains (byteOf 'a')
  let r := ((letters.filter fun letter => !(utf8 "HSa").contains letter).getLast?.map
    resourceOf).getD usualResource
  let choose (bound : Bound) : Option Nat := if onlyHard then bound.hard else bound.soft
  match operands with
  | [] =>
    if showsAll then showAll choose resources
    else putLine (showLimit r (choose (← ask (.boundOf r.what))))
  | text :: rest =>
    if showsAll || !rest.isEmpty then fail (utf8 "too many arguments")
    let limit ← readLimit r text
    let old : Bound ← ask (.boundOf r.what)
    changeLimit r ⟨if onlyHard then old.soft else limit, if onlySoft then old.hard else limit⟩
  return 0

/-- Shows how much time was used. -/
def times : Act Nat := do
  let line := utf8 "0m0.000000s 0m0.000000s"
  putLine line
  putLine line
  return 0

end CommandShell.Machine.Script.Limits
