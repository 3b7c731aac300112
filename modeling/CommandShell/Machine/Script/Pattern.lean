import CommandShell.ArgumentVector
import CommandShell.Machine.Tool.ByteClass

/-!
# Patterns

Patterns that texts can match: a star matches any text, a question mark any byte, brackets any of
some bytes, and a byte with a backslash in front only itself. A pattern can also be used to cut off
the beginning or the end of a text. Main statement: a pattern without such signs matches itself and
nothing else (`matches_literals`).
-/

namespace CommandShell.Machine.Script

open Ascii

/-- A member of a set of bytes. -/
inductive Member where
  /-- The bytes between two others. -/
  | range (low high : UInt8)
  /-- The bytes of a class. -/
  | ofClass (c : ByteClass)

/-- A part of a pattern. -/
inductive Glyph where
  /-- A byte that matches itself. -/
  | literal (b : UInt8)
  /-- Any byte. -/
  | anyByte
  /-- Any text. -/
  | anyText
  /-- A byte in a set, or not in it. -/
  | set (isOpposite : Bool) (members : List Member)

/-- The place of a byte in the order of ranges, in which the bytes from 128 on come first. -/
def rank (b : UInt8) : Nat := (b.toNat + 128) % 256

/-- Whether a member of a set is a byte. -/
def Member.contains (b : UInt8) : Member → Bool
  | range low high => rank low ≤ rank b && rank b ≤ rank high
  | ofClass c => c.contains b

/-- The class whose name stands at the beginning of some bytes, between colons and in front of a
bracket, and the length of that. -/
def classAt? (bytes : Bytes) : Option (ByteClass × Nat) :=
  (ByteClass.names.find? fun (name, _) => (utf8 (":" ++ name ++ ":]")).isPrefixOf bytes).map
    fun (name, c) => (c, name.length + 3)

/-- Reads the members of a set up to the closing bracket, and how many bytes they take, the bracket
included. There is no answer without a bracket. -/
def readMembers (bytes : Bytes) (length : Nat) (before : List Member) :
    Nat → Option (List Member × Nat)
  | 0 => none
  | fuel + 1 =>
    match bytes with
    | [] => none
    | b :: rest =>
      let (next, found) : (Bytes × Nat) × Option Member :=
        match (if b = openBracket then classAt? rest else none) with
        | some (c, size) => ((rest.drop size, length + 1 + size), some (.ofClass c))
        | none =>
          let (low, rest, length) := match (if b = backslash then rest else []) with
            | [] => (b, rest, length + 1)
            | c :: rest => (c, rest, length + 2)
          match rest with
          | minus :: high :: rest' =>
            if high = closeBracket then ((rest, length), some (.range low low))
            else match (if high = backslash then rest' else []) with
              | [] => ((rest', length + 2), some (.range low high))
              | c :: rest' => ((rest', length + 3), some (.range low c))
          | rest => ((rest, length), some (.range low low))
      let members := found.toList ++ before
      match next.1 with
      | closeBracket :: _ => some (members, next.2 + 1)
      | bytes => readMembers bytes next.2 members fuel

/-- Reads a set behind its opening bracket, and how many bytes it takes. -/
def readSet (bytes : Bytes) : Option (Glyph × Nat) :=
  match bytes with
  | bang :: rest => (readMembers rest 1 [] (rest.length + 1)).map fun (members, length) =>
      (.set true members, length)
  | bytes => (readMembers bytes 0 [] (bytes.length + 1)).map fun (members, length) =>
      (.set false members, length)

/-- The parts of a pattern. The first `skipped` bytes belong to a part in front. -/
def glyphs (skipped : Nat) : Bytes → List Glyph
  | [] => []
  | b :: rest =>
    if 0 < skipped then glyphs (skipped - 1) rest
    else if b = star then .anyText :: glyphs 0 rest
    else if b = questionMark then .anyByte :: glyphs 0 rest
    else if b = backslash then match rest with
      | [] => [.literal b]
      | c :: _ => .literal c :: glyphs 1 rest
    else if b = openBracket then match readSet rest with
      | none => .literal b :: glyphs 0 rest
      | some (set, length) => set :: glyphs length rest
    else .literal b :: glyphs 0 rest

/-- The ends of a text, the text itself first. -/
def suffixes : Bytes → List Bytes
  | [] => [[]]
  | b :: rest => (b :: rest) :: suffixes rest

/-- Whether a text consists of what the parts of a pattern stand for. -/
def matchesGlyphs : List Glyph → Bytes → Bool
  | [], text => text.isEmpty
  | .anyText :: rest, text => (suffixes text).any fun suffix => matchesGlyphs rest suffix
  | _ :: _, [] => false
  | .literal c :: rest, b :: text => b = c && matchesGlyphs rest text
  | .anyByte :: rest, _ :: text => matchesGlyphs rest text
  | .set isOpposite members :: rest, b :: text =>
    (members.any (·.contains b) != isOpposite) && matchesGlyphs rest text

/-- Whether a text matches a pattern. -/
def isMatch (pattern text : Bytes) : Bool := matchesGlyphs (glyphs 0 pattern) text

/-- Bytes that match themselves match nothing else. -/
theorem matches_literals (bytes text : Bytes) :
    matchesGlyphs (bytes.map .literal) text = true ↔ text = bytes := by
  induction bytes generalizing text with
  | nil => cases text <;> simp [matchesGlyphs]
  | cons b bytes ih => cases text <;> simp [matchesGlyphs, ih]

/-! ### Cutting off -/

/-- What is in front of the first byte that is zero. -/
def firstPart (text : Bytes) : Bytes := text.takeWhile (· ≠ 0)

/-- Up to the first one of some places, if any, the first part of a text matches a pattern. -/
def endOfPrefix? (pattern text : Bytes) (places : List Nat) : Option Nat :=
  let glyphs := glyphs 0 pattern
  places.find? fun n => matchesGlyphs glyphs ((firstPart text).take n)

/-- Behind the first one of some places, if any, the first part of what is left of a text matches a
pattern. -/
def startOfSuffix? (pattern text : Bytes) (places : List Nat) : Option Nat :=
  let glyphs := glyphs 0 pattern
  places.find? fun n => matchesGlyphs glyphs (firstPart (text.drop n))

end CommandShell.Machine.Script
