import CommandShell.Interpreter
import CommandShell.LineSource

/-!
# The loop of an interactive shell

Line after line is read and run until one of them leaves the shell, nothing is left to be read, or
reading fails. An interruption of the reading leads to the next attempt. The prompt is made anew
before every line, since the working directory may have changed.
-/

namespace CommandShell

open Shell

variable {σ ρ : Type}

/-- What is left behind `word` at the front of a text, if it stands there. -/
def afterWord : List Char → List Char → Option (List Char)
  | [], cs => some cs
  | _ :: _, [] => none
  | w :: word, c :: cs => if w = c then afterWord word cs else none

theorem length_of_afterWord {word cs rest : List Char} (h : afterWord word cs = some rest) :
    rest.length + word.length = cs.length := by
  induction word generalizing cs with
  | nil => simp only [afterWord, Option.some.injEq] at h; simp [h]
  | cons w word ih =>
    cases cs with
    | nil => simp [afterWord] at h
    | cons c cs =>
      rw [afterWord] at h
      split at h
      · have := ih h; simp only [List.length_cons]; omega
      · simp at h

/-- Behind a word that is not empty there is less than there was. -/
theorem length_le_of_afterWord {w c : Char} {word cs rest : List Char}
    (h : afterWord (w :: word) (c :: cs) = some rest) : rest.length ≤ cs.length := by
  have := length_of_afterWord h
  simp only [List.length_cons] at this
  omega

/-- A text in which a character followed by `word` is replaced, from the left to the right. -/
def replaceAll (first : Char) (word value : List Char) : List Char → List Char
  | [] => []
  | c :: cs =>
    match h : afterWord (first :: word) (c :: cs) with
    | none => c :: replaceAll first word value cs
    | some rest =>
      have : rest.length ≤ cs.length := length_le_of_afterWord h
      value ++ replaceAll first word value rest
termination_by cs => cs.length
decreasing_by
  · exact Nat.lt_succ_self _
  · exact Nat.lt_succ_of_le (length_le_of_afterWord h)

/-- The placeholder of the working directory in a prompt. -/
def directoryPlaceholder : Char × List Char := ('\x7b', ['c', 'w', 'd', '\x7d'])

/-- A prompt with the name of a directory in the stead of the placeholders. -/
def fillPrompt (template directory : String) : String :=
  String.ofList (replaceAll directoryPlaceholder.1 directoryPlaceholder.2 directory.toList
    template.toList)

/-- What stands in a prompt for a working directory that does not exist any more. -/
def missingDirectory : String := "?"

namespace Interpreter

variable [Kernel σ]

/-- The prompt that a template makes in the working directory. -/
def prompt (template : String) : Shell σ String := do
  match ← within Action.workingDirectory with
  | .ok directory => return fillPrompt template directory
  | .error _ => return fillPrompt template missingDirectory

/-- Reads and runs lines, `fuel` of them at most. -/
def loopFrom (sh : Interpreter σ) (source : LineSource σ ρ) (template : String) (kept : ρ) :
    Nat → Shell σ (Except Fault Int)
  | 0 => do return .ok (← get).lastStatus
  | fuel + 1 => do
    let (event, kept) ← source.next (← prompt template) kept
    match event with
    | .line text =>
      let outcome ← sh.runLine text
      if outcome.continueLoop then sh.loopFrom source template kept fuel
      else return .ok (← get).lastStatus
    | .interrupted => sh.loopFrom source template kept fuel
    | .endOfInput => return .ok (← get).lastStatus
    | .failed fault => return .error fault

/-- Reads and runs lines until there is a reason to stop. The status is that of the last line that
was run. -/
def loop (sh : Interpreter σ) (source : LineSource σ ρ) (template : String) (kept : ρ) :
    Shell σ (Except Fault Int) := do
  sh.loopFrom source template kept (source.bound kept (← get) + 1)

end Interpreter

end CommandShell
