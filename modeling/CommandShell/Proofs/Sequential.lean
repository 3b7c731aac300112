import CommandShell.Proofs.Outcomes
import CommandShell.Proofs.Workshop

/-!
# Pipelines as functions

What a pipeline does if its stages are evaluated from left to right, each of them when the one in
front of it is done. A stage reads its own file if it has one, and otherwise what the stage in front
of it has left; it writes to its own file if it has one, and otherwise leaves what it writes to the
stage behind it. A stage that does not run leaves nothing. Main statement: if what is written by one
stage is not used by another one, a file is what it was until it is opened for writing, and every
stage finds the files that it would find at the beginning (`Apart.files_eq`, `Apart.targets_eq`).
-/

namespace CommandShell

open Shell

namespace Workshop

namespace Setting

/-- The file under a path, or why there is none. -/
def find (locate : Directory → String → Except Errno File) (start : Directory) (path : String) :
    Except Fault File :=
  if hasNul path then .error .nulInName
  else match locate start path with
    | .error errno => .error (.system errno)
    | .ok file => .ok file

theorem find_of_ok {locate : Directory → String → Except Errno File} {start : Directory}
    {path : String} {file : File} (hnul : hasNul path = false) (h : locate start path = .ok file) :
    find locate start path = .ok file := by
  rw [find, hnul, h, if_neg Bool.false_ne_true]

theorem find_of_error {locate : Directory → String → Except Errno File} {start : Directory}
    {path : String} {errno : Errno} (hnul : hasNul path = false)
    (h : locate start path = .error errno) :
    find locate start path = .error (.system errno) := by
  rw [find, hnul, h, if_neg Bool.false_ne_true]

theorem find_eq_ok_iff {locate : Directory → String → Except Errno File} {start : Directory}
    {path : String} {file : File} :
    find locate start path = .ok file ↔ hasNul path = false ∧ locate start path = .ok file := by
  constructor
  · intro h
    rw [find] at h
    split at h
    · cases h
    · next hnul =>
      cases hlocate : locate start path with
      | error errno => simp [hlocate] at h
      | ok other =>
        rw [hlocate] at h
        cases h
        exact ⟨Bool.eq_false_iff.2 hnul, rfl⟩
  · rintro ⟨hnul, h⟩
    exact find_of_ok hnul h

variable (setting : Setting) (start : Directory)

/-- The content of the file that a stage reads, if it has one, or which file cannot be opened, and
why. -/
def source (files : File → Option Bytes) (stage : Stage) :
    Except (String × Fault) (Option Bytes) :=
  match stage.input with
  | none => .ok none
  | some path =>
    match find setting.toRead start path with
    | .error fault => .error (path, fault)
    | .ok file =>
      match files file with
      | none => .error (path, .system .noEntry)
      | some content => .ok (some content)

/-- The file that a stage writes, if it has one, or which file cannot be opened, and why. -/
def goal (stage : Stage) : Except (String × Fault) (Option File) :=
  match stage.output with
  | none => .ok none
  | some path =>
    match find setting.toWrite start path with
    | .error fault => .error (path, fault)
    | .ok file => .ok (some file)

/-- What a stage reads and where it writes, as far as it has files of its own, or which of them
cannot be opened, and why. -/
def targets (files : File → Option Bytes) (stage : Stage) :
    Except (String × Fault) (Option Bytes × Option File) :=
  match setting.source start files stage with
  | .error failure => .error failure
  | .ok own =>
    match setting.goal start stage with
    | .error failure => .error failure
    | .ok file => .ok (own, file)

/-- The file that is opened for a stage to write to. -/
def opened? (files : File → Option Bytes) (stage : Stage) : Option File :=
  match setting.targets start files stage with
  | .error _ => none
  | .ok (_, file) => file

/-- A file that is opened for a stage to write to is the target of a redirection. -/
theorem exists_of_opened? {setting : Setting} {start : Directory} {files : File → Option Bytes}
    {stage : Stage} {file : File} (h : setting.opened? start files stage = some file) :
    ∃ path, stage.output = some path ∧ find setting.toWrite start path = .ok file := by
  rw [opened?, targets, goal] at h
  cases hsource : setting.source start files stage with
  | error failure => simp [hsource] at h
  | ok own =>
    cases houtput : stage.output with
    | none => simp [hsource, houtput] at h
    | some path =>
      cases hfind : find setting.toWrite start path with
      | error fault => simp [hsource, houtput, hfind] at h
      | ok other =>
        simp only [hsource, houtput, hfind, Option.some.injEq] at h
        exact ⟨path, rfl, h ▸ hfind⟩

end Setting

/-- The contents of the files when one of them was emptied. -/
def emptied (files : File → Option Bytes) : Option File → File → Option Bytes
  | none => files
  | some file => Function.update files file (some [])

/-- How far a pipeline was evaluated. -/
structure Evaluation where
  /-- What the last stage has left to the next one. -/
  feed : Bytes
  /-- The contents of the files. -/
  files : File → Option Bytes
  /-- The outcomes of the stages. -/
  outcomes : List StageOutcome

namespace Evaluation

variable (setting : Setting) (start : Directory)

/-- A stage has an outcome without having run. -/
def skip (e : Evaluation) (files : File → Option Bytes) (outcome : StageOutcome) : Evaluation :=
  ⟨[], files, e.outcomes ++ [outcome]⟩

/-- A stage has run, and has written to its file or for the next stage. -/
def run (e : Evaluation) (program : Program) (input : Bytes) : Option File → Evaluation
  | none =>
    ⟨program.output input, e.files, e.outcomes ++ [.finished (program.ending input).status]⟩
  | some file =>
    ⟨[], Function.update e.files file (some (program.output input)),
      e.outcomes ++ [.finished (program.ending input).status]⟩

/-- The next stage is evaluated: its files are opened, then its program is looked for, and then the
program runs. -/
def next (e : Evaluation) (stage : Stage) : Evaluation :=
  match setting.targets start e.files stage with
  | .error (path, fault) => e.skip e.files (.aborted (.io path fault))
  | .ok (own, file) =>
    match ArgumentVector.ofArguments stage.argv with
    | .error reason => e.skip (emptied e.files file) (.finished (.startFailed reason))
    | .ok _ =>
      match setting.programs (stage.argv.map utf8) with
      | .error errno =>
        e.skip (emptied e.files file) (.finished (.startFailed (stage.startFault errno.reported)))
      | .ok program => e.run program (own.getD e.feed) file

/-- Only the file that is opened for a stage to write to is changed. -/
theorem files_next (e : Evaluation) (stage : Stage) {file : File}
    (h : setting.opened? start e.files stage ≠ some file) :
    (e.next setting start stage).files file = e.files file := by
  rw [Setting.opened?] at h
  rw [next]
  have hemptied : ∀ target : Option File, target ≠ some file →
      emptied e.files target file = e.files file := by
    intro target hne
    cases target with
    | none => rfl
    | some other => exact Function.update_of_ne (fun heq => hne (congrArg some heq.symm)) _ _
  split
  · rfl
  · next own target htargets =>
    rw [htargets] at h
    split
    · exact hemptied target h
    · split
      · exact hemptied target h
      · cases target with
        | none => rfl
        | some other => exact Function.update_of_ne (fun heq => h (congrArg some heq.symm)) _ _

end Evaluation

/-- The first stages of a pipeline are evaluated. -/
def evaluate (setting : Setting) (start : Directory) (feed : Bytes)
    (files : File → Option Bytes) (stages : List Stage) : Evaluation :=
  stages.foldl (Evaluation.next setting start) ⟨feed, files, []⟩

/-- No file that is opened for a stage to write to is the target of any other redirection. -/
structure Apart (setting : Setting) (start : Directory) (files : File → Option Bytes)
    (stages : List Stage) : Prop where
  /-- It is not read by any stage. -/
  unread : ∀ {i j : Nat} {stage other : Stage} {file : File} {path : String},
    stages[i]? = some stage → setting.opened? start files stage = some file →
    stages[j]? = some other → other.input = some path →
      Setting.find setting.toRead start path ≠ .ok file
  /-- It is not written by another stage. -/
  unwritten : ∀ {i j : Nat} {stage other : Stage} {file : File} {path : String},
    stages[i]? = some stage → setting.opened? start files stage = some file →
    stages[j]? = some other → j ≠ i → other.output = some path →
      Setting.find setting.toWrite start path ≠ .ok file

section

variable {setting : Setting} {start : Directory} {feed : Bytes} {files : File → Option Bytes}
  {stages : List Stage} {stage : Stage} {i : Nat}

theorem evaluate_take_succ (h : stages[i]? = some stage) :
    evaluate setting start feed files (stages.take (i + 1)) =
      (evaluate setting start feed files (stages.take i)).next setting start stage := by
  rw [evaluate, List.take_add_one, h, List.foldl_append]
  rfl

/-- What a stage finds depends only on the file that it reads. -/
theorem Setting.targets_congr {files' : File → Option Bytes}
    (h : ∀ path file, stage.input = some path → Setting.find setting.toRead start path = .ok file →
      files' file = files file) :
    setting.targets start files' stage = setting.targets start files stage := by
  have hsource : setting.source start files' stage = setting.source start files stage := by
    rw [source, source]
    cases hinput : stage.input with
    | none => rfl
    | some path =>
      dsimp only
      cases hfind : find setting.toRead start path with
      | error fault => rfl
      | ok file =>
        dsimp only
        rw [h path file hinput hfind]
  rw [targets, targets, hsource]

/-- A file is what it was until it is opened for a stage to write to. -/
theorem Apart.files_eq (h : Apart setting start files stages) {file : File}
    (hfile : ∀ j stage, j < i → stages[j]? = some stage →
      setting.opened? start files stage ≠ some file) :
    (evaluate setting start feed files (stages.take i)).files file = files file := by
  induction i generalizing file with
  | zero => rfl
  | succ i ih =>
    have hbefore := ih fun j stage hj => hfile j stage (Nat.lt_succ_of_lt hj)
    cases hstage : stages[i]? with
    | none => rwa [List.take_add_one, hstage, Option.toList_none, List.append_nil]
    | some stage =>
      rw [evaluate_take_succ hstage, Evaluation.files_next, hbefore]
      -- The stage opens the file that it would open at the beginning.
      rw [Setting.opened?, @Setting.targets_congr _ _ files]
      · exact hfile i stage (Nat.lt_succ_self i) hstage
      · intro path read hinput hfind
        exact ih fun j other _ hother hopened => h.unread hother hopened hstage hinput hfind

/-- Every stage finds what it would find at the beginning. -/
theorem Apart.targets_eq (h : Apart setting start files stages) (hstage : stages[i]? = some stage) :
    setting.targets start (evaluate setting start feed files (stages.take i)).files stage =
      setting.targets start files stage := by
  refine Setting.targets_congr fun path file hinput hfind => ?_
  exact h.files_eq fun j other _ hother hopened => h.unread hother hopened hstage hinput hfind

end

end Workshop

end CommandShell
