import CommandShell.Machine.Tool.Conformance

/-!
# Options of the tools

How the arguments of a tool are divided into options and operands. An option is a letter behind a
hyphen, several of which can stand together, or a name behind two hyphens, which can be shortened as
long as it stays unambiguous. Options may stand behind operands, unless a tool wants otherwise; what
stands behind `--` is no option. The options before the first mistake are given in their order, and
the mistake behind them. Main statement: arguments that do not begin with a hyphen are operands
(`scan_of_no_hyphen`).
-/

namespace CommandShell.Machine.Tool

open Ascii

/-- Whether an option has a value. -/
inductive ValueRule where
  | absent
  | required
  | optional
  deriving DecidableEq, Repr

/-- An option that a tool knows. -/
structure OptionRule where
  /-- Under what the tool knows it. Rules with one key stand for one option. -/
  key : String
  /-- Its letter, if it has one. -/
  letter : Option Char
  /-- Its name, if it has one. -/
  name : Option String
  /-- Whether it has a value. -/
  value : ValueRule

namespace OptionRule

/-- An option without a value that has a letter and a name, by which it is known. -/
def plain (letter : Char) (name : String) : OptionRule := ⟨name, some letter, some name, .absent⟩

/-- An option with a value that has a letter and a name, by which it is known. -/
def valued (letter : Char) (name : String) : OptionRule := ⟨name, some letter, some name, .required⟩

/-- An option without a value that has only a letter, by which it is known. -/
def letterOnly (letter : Char) : OptionRule :=
  ⟨String.singleton letter, some letter, none, .absent⟩

/-- An option without a value that has only a name. -/
def nameOnly (name : String) : OptionRule := ⟨name, none, some name, .absent⟩

/-- The options that all tools know. -/
def common : List OptionRule := [nameOnly "help", nameOnly "version"]

end OptionRule

/-- A part of a command line. -/
inductive Item where
  /-- An option with its value. -/
  | given (key : String) (value : Option Bytes)
  /-- An operand. -/
  | operand (text : Bytes)
  deriving Inhabited

/-- A command line that was divided. -/
structure Scanned where
  /-- Its parts, in order. -/
  items : List Item
  /-- The operands that stand behind the mark that ends the options. -/
  rest : List Bytes
  /-- The mistake behind its parts, if there is one. -/
  fault : Option Bytes

namespace Scanned

/-- A command line with one more part in front. -/
def push (s : Scanned) (item : Item) : Scanned := { s with items := item :: s.items }

/-- Nothing but a mistake. -/
def mistake (fault : Bytes) : Scanned := ⟨[], [], some fault⟩

/-- The operands. -/
def operands (s : Scanned) : List Bytes :=
  s.items.filterMap (fun
    | .operand text => some text
    | .given _ _ => none) ++ s.rest

/-- The options with their values. -/
def options (s : Scanned) : List (String × Option Bytes) :=
  s.items.filterMap fun
    | .operand _ => none
    | .given key value => some (key, value)

end Scanned

/-- The rules whose names begin in a way. -/
def rulesNamed (rules : List OptionRule) (start : Bytes) : List OptionRule :=
  rules.filter fun rule => rule.name.any fun name => start.isPrefixOf (utf8 name)

/-- A name of an option in a message. -/
def shownOption (text : Bytes) : Bytes := utf8 "'--" ++ text ++ [apostrophe]

/-- The rule that a name or the beginning of one stands for. -/
def ruleNamed (rules : List OptionRule) (text name : Bytes) : Except Bytes OptionRule :=
  match rules.find? fun rule => rule.name.any fun other => utf8 other = name with
  | some rule => .ok rule
  | none =>
    match rulesNamed rules name with
    | [] => .error (utf8 "unrecognized option " ++ shownOption text)
    | rule :: others =>
      if others.all fun other => other.key == rule.key && other.value == rule.value then .ok rule
      else .error (utf8 "option " ++ shownOption text ++ utf8 " is ambiguous; possibilities:" ++
        (rule :: others).flatMap fun rule => space :: shownOption (utf8 (rule.name.getD "")))

/-- What comes of the letters of an argument. -/
inductive Letters where
  /-- They are options. -/
  | complete (items : List Item)
  /-- They are options, and the last one takes the next argument as its value. -/
  | pending (items : List Item) (key : String) (letter : UInt8)
  /-- They are options up to a letter that means nothing. -/
  | unknown (items : List Item) (letter : UInt8)

/-- Puts an option in front of others. -/
def Letters.push (item : Item) : Letters → Letters
  | .complete items => .complete (item :: items)
  | .pending items key letter => .pending (item :: items) key letter
  | .unknown items letter => .unknown (item :: items) letter

/-- Takes the letters of an argument apart. -/
def readLetters (rules : List OptionRule) : Bytes → Letters
  | [] => .complete []
  | letter :: letters =>
    match rules.find? fun rule => rule.letter.any fun c => byteOf c == letter with
    | none => .unknown [] letter
    | some rule =>
      match rule.value with
      | .absent => (readLetters rules letters).push (.given rule.key none)
      | .optional =>
        .complete [.given rule.key (if letters.isEmpty then none else some letters)]
      | .required =>
        if letters.isEmpty then .pending [] rule.key letter
        else .complete [.given rule.key (some letters)]

/-- The mistake of a letter. -/
def letterFault (text : String) (letter : UInt8) : Bytes :=
  utf8 text ++ utf8 " -- '" ++ [letter, apostrophe]

/-- Divides a command line. If `anywhere` is not so, the first operand ends the options. -/
def scan (rules : List OptionRule) (anywhere : Bool) : List Bytes → Scanned
  | [] => ⟨[], [], none⟩
  | argument :: rest =>
    match argument with
    | [minus, minus] => ⟨[], rest, none⟩
    | minus :: minus :: text =>
      let name := text.takeWhile (· ≠ equalsSign)
      let value := text.drop name.length
      match ruleNamed rules text name with
      | .error fault => .mistake fault
      | .ok rule =>
        match rule.value, value with
        | .absent, _ :: _ => .mistake (utf8 "option " ++ shownOption (utf8 (rule.name.getD "")) ++
            utf8 " doesn't allow an argument")
        | _, _ :: value => (scan rules anywhere rest).push (.given rule.key (some value))
        | .required, [] =>
          match rest with
          | [] => .mistake (utf8 "option " ++ shownOption (utf8 (rule.name.getD "")) ++
              utf8 " requires an argument")
          | value :: rest => (scan rules anywhere rest).push (.given rule.key (some value))
        | _, [] => (scan rules anywhere rest).push (.given rule.key none)
    | minus :: letter :: letters =>
      match readLetters rules (letter :: letters) with
      | .complete items =>
        let s := scan rules anywhere rest
        { s with items := items ++ s.items }
      | .pending items key letter =>
        match rest with
        | [] => { Scanned.mistake (letterFault "option requires an argument" letter) with
            items := items }
        | value :: rest =>
          let s := scan rules anywhere rest
          { s with items := items ++ .given key (some value) :: s.items }
      | .unknown items letter =>
        { Scanned.mistake (letterFault "invalid option" letter) with items := items }
    | operand =>
      if anywhere then (scan rules anywhere rest).push (.operand operand)
      else ⟨[], operand :: rest, none⟩

/-- Whether an argument is an option that takes the next argument as its value. -/
def takesNext (rules : List OptionRule) : Bytes → Bool
  | minus :: minus :: text =>
    match ruleNamed (rules ++ OptionRule.common) text text with
    | .ok rule => rule.value = .required
    | .error _ => false
  | minus :: letters =>
    match readLetters rules letters with
    | .pending _ _ _ => true
    | _ => false
  | _ => false

/-- Arguments that do not begin with a hyphen are operands. -/
theorem scan_of_no_hyphen (rules : List OptionRule) (arguments : List Bytes)
    (h : ∀ a ∈ arguments, a.head? ≠ some minus) :
    scan rules true arguments = ⟨arguments.map .operand, [], none⟩ := by
  induction arguments with
  | nil => rw [scan]; rfl
  | cons a rest ih =>
    have ha := h a (by simp)
    rw [scan, ih fun b hb => h b (by simp [hb])]
    · rfl
    · rintro rfl; simp at ha
    · rintro t rfl; simp at ha
    · rintro l ls rfl; simp at ha

/-- Ends a tool because of a mistake in its options. -/
def Invocation.refuseFault {α : Type} (t : Invocation) (code : Nat) (fault : Bytes) : Act α := do
  say (t.name ++ utf8 ": " ++ fault ++ [newline])
  t.pointToHelp code

/-- Runs a tool with the parts of its command line. A mistake in the options is met behind those
that are right, which `prepare` is told about one after the other. A strict tool takes no options
behind an operand. -/
def withChoices {α : Type} (t : Invocation) (rules : List OptionRule) (anywhere : Bool) (code : Nat)
    (start : α) (prepare : α → String → Option Bytes → Act α) (body : α → List Bytes → Act Nat) :
    Act Nat := do
  let s := scan (rules ++ OptionRule.common) (anywhere && !t.isStrict) t.arguments
  let settings ← s.options.foldlM (fun settings (key, value) => do
    if key = "help" || key = "version" then t.finish 0 code
    prepare settings key value) start
  match s.fault with
  | some fault => t.refuseFault code fault
  | none => body settings s.operands

/-- Runs a tool that has no options with a value that can be left out. -/
def withOptions {α : Type} (t : Invocation) (rules : List OptionRule) (anywhere : Bool) (code : Nat)
    (start : α) (prepare : α → String → Bytes → Act α) (body : α → List Bytes → Act Nat) :
    Act Nat :=
  withChoices t rules anywhere code start (fun s key value => prepare s key (value.getD [])) body

/-- Divides arguments into those that belong together at their beginning, one of them or an option
and its value, and the others. -/
def splitFirst (rules : List OptionRule) : List Bytes → List Bytes × List Bytes
  | [] => ([], [])
  | first :: rest =>
    if takesNext rules first then (first :: rest.take 1, rest.drop 1) else ([first], rest)

end CommandShell.Machine.Tool
