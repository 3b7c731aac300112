import CommandShell.Machine.Script.Settings

/-!
# Commands about variables

The commands of an interpreter that mark variables, keep them to named commands and take them away,
and the names that can stand for the beginning of a command. Main statement: marking a variable
changes no other one (`mark_other`).
-/

namespace CommandShell.Machine.Script.Assigning

open Ascii Tool

/-- A mark of a variable. -/
inductive Mark where
  /-- Programs get it. -/
  | exported
  /-- Its value is fixed. -/
  | fixed
  deriving DecidableEq, Repr

/-- Whether a variable has a mark. -/
def Mark.isOn (v : Variable) : Mark → Bool
  | exported => v.isExported
  | fixed => v.isFixed

/-- A variable with a mark. -/
def Mark.on (v : Variable) : Mark → Variable
  | exported => { v with isExported := true }
  | fixed => { v with isFixed := true }

/-- Variables of which one has a mark. -/
def mark (name : Bytes) (m : Mark) (table : List (Bytes × Variable)) :
    List (Bytes × Variable) :=
  match table.lookup name with
  | none => assign name (m.on ⟨none, false, false⟩) table
  | some v => assign name (m.on v) table

/-- A value that was given to a name is not found under another one. -/
theorem lookup_assign_other {α : Type} {name other : Bytes} (h : other ≠ name) (value : α)
    (table : List (Bytes × α)) : (assign name value table).lookup other = table.lookup other := by
  induction table with
  | nil => simp [assign, h]
  | cons entry rest ih =>
    obtain ⟨first, old⟩ := entry
    by_cases hf : first = name
    · have hn : (other == name) = false := by simp [h]
      simp [assign, hf, List.lookup_cons, hn]
    · by_cases ho : other = first
      · simp [assign, hf, ho]
      · have hn : (other == first) = false := by simp [ho]
        simp [assign, hf, List.lookup_cons, hn, ih]

/-- Marking a variable changes no other one. -/
theorem mark_other {name other : Bytes} (h : other ≠ name) (m : Mark)
    (table : List (Bytes × Variable)) :
    (mark name m table).lookup other = table.lookup other := by
  unfold mark
  split <;> exact lookup_assign_other h _ _

/-- Marks a variable, perhaps with a value. -/
def markOne (m : Mark) (text : Bytes) : Act Unit := do
  let name := namePart text
  if name = text then
    if ((← get).named? name).isNone && !isName name then refuseName text
  else
    if !isName name then refuseName text
    setValue name (text.drop (name.length + 1)) false
  modify fun s => { s with variableTable := mark name m s.variableTable }

/-- Marks variables, or shows those that have the mark. -/
def markAll (m : Mark) (word : Bytes) (arguments : List Bytes) : Act Nat := do
  let (options, operands) ← readOptions "p" arguments
  if options.isEmpty && !operands.isEmpty then operands.forM (markOne m)
  else Settings.showVariables word m.isOn
  return 0

/-- Keeps a variable, or the settings, to the named command that is running. -/
def localize (text : Bytes) : Act Unit := do
  if text = [minus] then keep (.settings (← get).settings)
  else
    let name := namePart text
    if name = text && ((← get).named? name).isNone && !isName name then refuseName text
    keepVariable name
    if name ≠ text then setValue name (text.drop (name.length + 1)) false

/-- Keeps variables to the named command that is running. -/
def localizeAll (arguments : List Bytes) : Act Nat := do
  if (← get).frames.isEmpty then fail (utf8 "not in a function")
  arguments.forM localize
  return 0

/-- Takes variables or named commands away. -/
def unset (arguments : List Bytes) : Act Nat := do
  let (options, operands) ← readOptions "vf" arguments
  if options.getLast?.any fun option => option.letter = byteOf 'f' then
    modify fun s => { s with
      definitions := s.definitions.filter fun (name, _) => !operands.contains name }
  else operands.forM unsetVariable
  return 0

/-! ### Aliases -/

/-- How many places the table of aliases has. -/
def aliasPlaces : Nat := 39

/-- The place of a name in a table. -/
def tablePlace (places : Nat) (name : Bytes) : Nat :=
  name.foldl (fun n b => n + b.toNat) ((name.headD 0).toNat * 16) % places

/-- Shows an alias. -/
def showAlias (name text : Bytes) : Act Unit := putLine (name ++ equalsSign :: quotedText text)

/-- Shows an alias or makes one, and tells the status. -/
def aliasOne (argument : Bytes) : Act Nat := do
  let front := argument.take 1 ++ argument.tail.takeWhile (· ≠ equalsSign)
  if front ≠ argument then
    modify fun s => { s with
      aliases := assign front (argument.drop (front.length + 1)) s.aliases }
    return 0
  match (← get).aliases.lookup argument with
  | some text =>
    showAlias argument text
    return 0
  | none =>
    say (utf8 "alias: " ++ argument ++ utf8 " not found\n")
    return 1

/-- The greatest status that something leads to for each of some arguments. -/
def eachOf (act : Bytes → Act Nat) : List Bytes → Act Nat
  | [] => pure 0
  | argument :: rest => do
    let status ← act argument
    return max status (← eachOf act rest)

/-- Makes aliases or shows them. -/
def aliasAll (arguments : List Bytes) : Act Nat := do
  if !arguments.isEmpty then return ← eachOf aliasOne arguments
  let entries := (← get).aliases.mergeSort fun a b =>
    tablePlace aliasPlaces a.1 ≤ tablePlace aliasPlaces b.1
  entries.forM fun (name, text) => showAlias name text
  return 0

/-- Takes an alias away, and tells the status. -/
def unaliasOne (name : Bytes) : Act Nat := do
  if ((← get).aliases.lookup name).isSome then
    modify fun s => { s with aliases := remove name s.aliases }
    return 0
  say (utf8 "unalias: " ++ name ++ utf8 " not found\n")
  return 1

/-- Takes aliases away. -/
def unaliasAll (arguments : List Bytes) : Act Nat := do
  let (options, operands) ← readOptions "a" arguments
  if options.isEmpty then eachOf unaliasOne operands
  else
    modify fun s => { s with aliases := [] }
    return 0

end CommandShell.Machine.Script.Assigning
