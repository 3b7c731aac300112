import CommandShell.Machine.Script.Attention
import CommandShell.Machine.Script.Options

/-!
# Settings and positional parameters

How the settings of an interpreter are turned on and off, with letters or with names, and the
command that also shows variables and sets positional parameters. Options among the positional
parameters are read one after the other by a command of its own. Main statement: a setting that was
turned on is on (`has_withSetting`).
-/

namespace CommandShell.Machine.Script.Settings

open Ascii Tool

/-- A setting that was turned on is on. -/
theorem has_withSetting (s : Session) (setting : Setting) :
    (s.withSetting setting true).has setting = true := by
  simp [Session.withSetting, Session.has]

/-- Turns a setting on or off. Of two settings only one can be on. -/
def turn (setting : Setting) (isOn : Bool) : Act Unit :=
  modify fun s =>
    let s := s.withSetting setting isOn
    if !isOn then s
    else match setting with
      | .viMode => s.withSetting .emacsMode false
      | .emacsMode => s.withSetting .viMode false
      | _ => s

/-- Turns the setting of a letter on or off. -/
def turnLetter (letter : UInt8) (isOn : Bool) : Act Unit := do
  match Setting.ofLetter? letter with
  | some setting => turn setting isOn
  | none => fail (utf8 "Illegal option -" ++ [letter])

/-- The width of the column in which the names of settings are shown. -/
def nameWidth : Nat := 16

/-- Shows whether settings are on. -/
def showAll (asCommands : Bool) (isOn : Setting → Bool) : Act Unit := do
  if !asCommands then putLine (utf8 "Current option settings")
  Setting.table.forM fun (setting, name, _) => do
    let isOn := isOn setting
    if asCommands then putLine (utf8 ((if isOn then "set -o " else "set +o ") ++ name))
    else
      let blanks := String.ofList (List.replicate (nameWidth - name.length) ' ')
      putLine (utf8 (name ++ blanks ++ if isOn then "on" else "off"))

/-- Turns the setting of a name on or off. -/
def turnNamed (name : Bytes) (isOn : Bool) : Act Unit := do
  match Setting.ofName? name with
  | some setting => modify fun s => s.withSetting setting isOn
  | none => fail (utf8 "Illegal option -o " ++ name)

/-- What arguments that turn settings on and off ask for otherwise. -/
structure Outcome where
  /-- Whether the first one of the other arguments is a script. -/
  isText : Bool
  /-- Whether the user has just logged in. -/
  isLogin : Bool
  /-- Whether positional parameters are set even if there are no other arguments. -/
  resets : Bool
  /-- The settings that were turned off. -/
  dropped : List Setting
  /-- The other arguments. -/
  rest : List Bytes

/-- Notes that a setting, if it is one, was turned on or off. -/
def Outcome.note (o : Outcome) (setting : Option Setting) (isOn : Bool) : Outcome :=
  { o with dropped :=
      if isOn then o.dropped.filter (some · ≠ setting) else setting.toList ++ o.dropped }

/-- Whether a setting is shown as one that is on. At the start those are that were not turned
off. -/
def Outcome.shows (o : Outcome) (atStart : Bool) (s : Session) (setting : Setting) : Bool :=
  if atStart then !o.dropped.contains setting else s.has setting

/-- Turns the settings of letters on or off. Arguments that follow can be names. -/
def turnLetters (atStart isOn : Bool) (o : Outcome) : Bytes → Act Outcome
  | [] => pure o
  | letter :: letters => do
    if letter = byteOf 'c' && atStart then
      turnLetters atStart isOn { o with isText := true } letters
    else if letter = byteOf 'l' && atStart then
      turnLetters atStart isOn { o with isLogin := true } letters
    else if letter ≠ byteOf 'o' then
      turnLetter letter isOn
      turnLetters atStart isOn (o.note (Setting.ofLetter? letter) isOn) letters
    else match o.rest with
      | [] => do
        showAll (!isOn) (o.shows atStart (← get))
        turnLetters atStart isOn o letters
      | name :: rest => do
        turnNamed name isOn
        let o := o.note (Setting.ofName? name) isOn
        turnLetters atStart isOn { o with rest := rest } letters

/-- Turns the settings of arguments on and off, `fuel` arguments at most. -/
def turnAllWithin (atStart : Bool) (o : Outcome) : Nat → Act Outcome
  | 0 => pure o
  | fuel + 1 => do
    match o.rest with
    | (sign :: letters) :: rest =>
      let o := { o with rest := rest }
      if sign = minus then
        if letters.isEmpty then
          if !atStart then
            turn .trace false
            turn .verbose false
          return o
        if letters = [minus] then return { o with resets := true }
        turnAllWithin atStart (← turnLetters atStart true o letters) fuel
      else if sign = plus then
        turnAllWithin atStart (← turnLetters atStart false o letters) fuel
      else return { o with rest := (sign :: letters) :: rest }
    | _ => return o

/-- Turns the settings of arguments on and off. -/
def turnAll (atStart : Bool) (arguments : List Bytes) : Act Outcome :=
  turnAllWithin atStart ⟨false, false, false, [], arguments⟩ (arguments.length + 1)

/-- Sees to it that jobs are not controlled: there is no terminal. -/
def withoutControl : Act Unit := do
  let s ← get
  if s.has .monitor && s.isOutermost then
    warn (utf8 "can't access tty; job control turned off")
    turn .monitor false

/-! ### Variables and parameters -/

/-- Shows the variables for which something holds, in order. -/
def showVariables (front : Bytes) (chosen : Variable → Bool) : Act Unit := do
  let entries := (← get).variableTable.filter fun (_, v) => chosen v
  (entries.mergeSort fun a b => a.1 ≤ b.1).forM fun (name, v) =>
    putLine ((if front.isEmpty then [] else front ++ [space]) ++ name ++
      match v.value with
      | none => []
      | some value => equalsSign :: quotedText value)

/-- Sets the positional parameters. -/
def setPositional (parameters : List Bytes) : Act Unit :=
  modify fun s => { s with positional := parameters, optionPlace := ⟨1, none⟩ }

/-- Turns settings on and off and sets positional parameters, or shows the variables. -/
def configure (arguments : List Bytes) : Act Nat := do
  if arguments.isEmpty then showVariables [] fun v => v.value.isSome
  else
    let conversed := (← get).converses
    let o ← turnAll false arguments
    if (← get).converses ≠ conversed then Attention.renewAll
    withoutControl
    if o.resets || !o.rest.isEmpty then setPositional o.rest
  return 0

/-- Takes the first positional parameters away. -/
def shift (arguments : List Bytes) : Act Nat := do
  let n ← match arguments with
    | [] => pure 1
    | text :: _ => requireCount text
  let parameters := (← get).positional
  if parameters.length < n then fail (utf8 "can't shift that many")
  setPositional (parameters.drop n)
  return 0

/-! ### Options among parameters -/

/-- The variable that holds the text that belongs to an option. -/
def optionText : Bytes := utf8 "OPTARG"

/-- Where the next option is looked for: what is left of an argument, the number of the argument
behind it, and whether there is such an option. -/
def nextLetters (words : List Bytes) (place : OptionPlace) : Bytes × Nat × Bool :=
  let pending := match place.offset with
    | none => []
    | some offset => if place.next ≤ 1 then [] else (words.getD (place.next - 2) []).drop offset
  if !pending.isEmpty then (pending, place.next, true)
  else match words.drop (place.next - 1) with
    | (minus :: letter :: letters) :: _ =>
      if letter = minus && letters.isEmpty then ([], place.next + 1, false)
      else (letter :: letters, place.next + 1, true)
    | _ => ([], place.next, false)

/-- What was read of an option. -/
structure Reading where
  /-- The letter that is told. -/
  letter : UInt8
  /-- The number of the argument behind it. -/
  next : Nat
  /-- What is left of its argument. -/
  rest : Option Bytes

/-- Reads an option whose letter stands in front of other bytes of an argument. -/
def readOption (allowed : Bytes) (words : List Bytes) (letter : UInt8) (letters : Bytes)
    (next : Nat) : Act Reading := do
  let isQuiet := allowed.head? = some colon
  match optionKind? letter allowed with
  | none =>
    if isQuiet then setVariable optionText [letter] false
    else
      say (utf8 "Illegal option -" ++ [letter, newline])
      unsetVariable optionText
    return ⟨questionMark, next, some letters⟩
  | some false =>
    setVariable optionText [] false
    return ⟨letter, next, some letters⟩
  | some true =>
    if !letters.isEmpty then
      setVariable optionText letters false
      return ⟨letter, next, none⟩
    match words[next - 1]? with
    | some text =>
      setVariable optionText text false
      return ⟨letter, next + 1, none⟩
    | none =>
      if isQuiet then
        setVariable optionText [letter] false
        return ⟨colon, next, none⟩
      say (utf8 "No arg for -" ++ [letter] ++ utf8 " option\n")
      unsetVariable optionText
      return ⟨questionMark, next, none⟩

/-- Tells an option in a variable, and remembers where the next one is looked for. -/
def tellOption (name : Bytes) (words : List Bytes) (r : Reading) : Act Unit := do
  modify fun s => s.assign optionIndex (decimal r.next) false
  setVariable name [r.letter] false
  let size := (words.getD (r.next - 2) []).length
  modify fun s => { s with optionPlace := ⟨r.next, r.rest.map fun rest => size - rest.length⟩ }

/-- Reads the next option among arguments, or among the positional parameters. -/
def getOption (arguments : List Bytes) : Act Nat := do
  match arguments with
  | allowed :: name :: given =>
    let s ← get
    let words := if given.isEmpty then s.positional else given
    let place := if words.length + 1 < s.optionPlace.next then ⟨1, none⟩ else s.optionPlace
    match nextLetters words place with
    | (letter :: letters, next, true) =>
      tellOption name words (← readOption allowed words letter letters next)
      return 0
    | (_, next, _) =>
      tellOption name words ⟨questionMark, next, none⟩
      return 1
  | _ => fail (utf8 "Usage: getopts optstring var [arg...]")

end CommandShell.Machine.Script.Settings
