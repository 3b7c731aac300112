import CommandShell.Machine.Tool.Conformance

/-!
# Writing arguments

The tool that writes its arguments with a space between them. Letters behind a hyphen in front can
ask that no line is ended and that escapes are read. Main statement: a text without a backslash is
written as it is (`unescape_of_plain`).
-/

namespace CommandShell.Machine.Tool

open Ascii

/-- The value of a hexadecimal digit. -/
def hexDigit? (b : UInt8) : Option Nat :=
  if isDigit b then some (digitValue b)
  else if byteOf 'a' ≤ b && b ≤ byteOf 'f' then some (b.toNat - 87)
  else if byteOf 'A' ≤ b && b ≤ byteOf 'F' then some (b.toNat - 55)
  else none

/-- The value of digits of a base, of which the last byte counts. -/
def byteFrom (base : Nat) (digits : List Nat) : UInt8 :=
  UInt8.ofNat (digits.foldl (fun n digit => n * base + digit) 0)

/-- The value of octal digits, of which the last byte counts. -/
def octalByte (digits : Bytes) : UInt8 := byteFrom 8 (digits.map digitValue)

/-- The escapes that are a single letter. -/
def simpleEscapes : List (UInt8 × UInt8) :=
  [(byteOf 'a', 7), (byteOf 'b', 8), (byteOf 'e', 27), (byteOf 'f', 12), (byteOf 'n', newline),
    (byteOf 'r', carriageReturn), (byteOf 't', tab), (byteOf 'v', 11), (backslash, backslash)]

namespace Echo

/-- What a backslash stands for together with what is behind it, and how much of that belongs to it.
There is no answer if it ends all output. -/
def escape (text : Bytes) : Option (Bytes × Nat) :=
  match text with
  | [] => some ([backslash], 0)
  | letter :: rest =>
    match simpleEscapes.lookup letter with
    | some b => some ([b], 1)
    | none =>
      if letter = byteOf 'c' then none
      else if letter = byteOf 'x' then
        let digits := (rest.take 2).map hexDigit?
        match digits with
        | some high :: some low :: _ => some ([byteFrom 16 [high, low]], 3)
        | some low :: _ => some ([byteFrom 16 [low]], 2)
        | _ => some ([backslash, letter], 1)
      else if letter = zero then
        let digits := (rest.take 3).takeWhile isOctal
        some ([octalByte digits], digits.length + 1)
      else if isOctal letter then
        let digits := (text.take 3).takeWhile isOctal
        some ([octalByte digits], digits.length)
      else some ([backslash, letter], 1)

/-- A text with its escapes read, and whether the output ends in it. The first `skipped` bytes
belong to an escape in front. -/
def unescape (skipped : Nat) : Bytes → Bytes × Bool
  | [] => ([], false)
  | b :: rest =>
    if 0 < skipped then unescape (skipped - 1) rest
    else if b = backslash then
      match escape rest with
      | none => ([], true)
      | some (bytes, length) =>
        let (more, ended) := unescape length rest
        (bytes ++ more, ended)
    else
      let (more, ended) := unescape 0 rest
      (b :: more, ended)

/-- A text without a backslash is written as it is. -/
theorem unescape_of_plain {text : Bytes} (h : backslash ∉ text) :
    unescape 0 text = (text, false) := by
  induction text with
  | nil => rfl
  | cons b rest ih =>
    have hb : b ≠ backslash := fun he => h (he ▸ List.mem_cons_self)
    rw [unescape, if_neg (Nat.lt_irrefl 0), if_neg hb, ih fun hm => h (List.mem_cons_of_mem _ hm)]

/-- What is written, and whether the line is ended. -/
structure Settings where
  /-- Whether the line is ended. -/
  ends : Bool
  /-- Whether escapes are read. -/
  escapes : Bool

/-- What the letters of an option ask for. -/
def choose (s : Settings) (letters : Bytes) : Settings :=
  letters.foldl (fun s letter =>
    if letter = byteOf 'n' then { s with ends := false }
    else { s with escapes := letter = byteOf 'e' }) s

/-- Reads the options, and what is left. -/
def readOptions (s : Settings) : List Bytes → Settings × List Bytes
  | [] => (s, [])
  | argument :: rest =>
    match argument with
    | minus :: letter :: letters =>
      if (letter :: letters).all fun b => (utf8 "enE").contains b then
        readOptions (choose s (letter :: letters)) rest
      else (s, argument :: rest)
    | _ => (s, argument :: rest)

/-- What is written for arguments. -/
def render (s : Settings) (arguments : List Bytes) : Bytes :=
  let text := List.intercalate [space] arguments
  let (text, ended) := if s.escapes then unescape 0 text else (text, false)
  if ended || !s.ends then text else text ++ [newline]

/-- Writes arguments. -/
def tool (t : Invocation) : Task := t.run 1 do
  let strict := t.isStrict
  if !strict && (t.arguments = [utf8 "--help"] || t.arguments = [utf8 "--version"]) then return 0
  let (s, texts) :=
    if strict && t.arguments.head? ≠ some (utf8 "-n") then (⟨true, false⟩, t.arguments)
    else readOptions ⟨true, false⟩ t.arguments
  putText (render { s with escapes := s.escapes || strict } texts)
  return 0

end Echo

end CommandShell.Machine.Tool
