import CommandShell.Proofs.Chronicle
import CommandShell.Proofs.Downfall
import Mathlib.Logic.ExistsUnique

/-!
# Runs of lines

Lines are run one after the other, each in the state that the lines before it leave, up to the first
one that leaves the shell. How far a run gets is said without the run itself: a line leaves the
shell if it does so after the lines before it, and the lines that count are those up to the first
such line, or all lines. A line in which the shell comes down leaves it, and keeps no status.
Nothing is assumed about the builtins or about the system below. Main statement: a run leaves what
these lines leave, and its status is that of the last one of them
(`Interpreter.scripting_runScript`).
-/

namespace CommandShell.Interpreter

open Shell

variable {σ : Type} [Kernel σ] (sh : Interpreter σ)

/-- The state that lines leave if all of them are run. -/
def stateAfter (lines : List String) (s : ShellState σ) : ShellState σ :=
  lines.foldl (fun s line => (sh.runLine line s).2) s

@[simp]
theorem stateAfter_nil (s : ShellState σ) : sh.stateAfter [] s = s := rfl

@[simp]
theorem stateAfter_cons (line : String) (lines : List String) (s : ShellState σ) :
    sh.stateAfter (line :: lines) s = sh.stateAfter lines (sh.runLine line s).2 := rfl

/-- The line with a number leaves the shell if it is run behind the lines before it. -/
def Leaves (lines : List String) (s : ShellState σ) (i : Nat) : Prop :=
  ∃ line, lines[i]? = some line ∧
    (sh.runLine line (sh.stateAfter (lines.take i) s)).1.continueLoop = false

/-- How many lines are run. -/
inductive RunsUpTo (lines : List String) (s : ShellState σ) : Nat → Prop
  /-- The first line that leaves the shell is the last one that is run. -/
  | leaving {i : Nat} (last : sh.Leaves lines s i) (first : ∀ j < i, ¬ sh.Leaves lines s j) :
    RunsUpTo lines s (i + 1)
  /-- If no line leaves the shell, all of them are run. -/
  | whole (none : ∀ i, ¬ sh.Leaves lines s i) : RunsUpTo lines s lines.length

variable {sh} {line : String} {lines more : List String} {s : ShellState σ}

theorem not_leaves_nil (i : Nat) : ¬ sh.Leaves [] s i := by
  rintro ⟨line, hline, -⟩
  simp at hline

theorem leaves_cons_zero :
    sh.Leaves (line :: lines) s 0 ↔ (sh.runLine line s).1.continueLoop = false := by
  simp [Leaves]

theorem leaves_cons_succ {i : Nat} :
    sh.Leaves (line :: lines) s (i + 1) ↔ sh.Leaves lines (sh.runLine line s).2 i := by
  simp [Leaves]

/-- Some line leaves the shell if the first one does, or one of those behind it. -/
theorem exists_leaves_cons :
    (∃ i, sh.Leaves (line :: lines) s i) ↔
      (sh.runLine line s).1.continueLoop = false ∨
        ∃ i, sh.Leaves lines (sh.runLine line s).2 i := by
  constructor
  · rintro ⟨_ | i, hi⟩
    · exact Or.inl (leaves_cons_zero.mp hi)
    · exact Or.inr ⟨i, leaves_cons_succ.mp hi⟩
  · rintro (hleave | ⟨i, hi⟩)
    · exact ⟨0, leaves_cons_zero.mpr hleave⟩
    · exact ⟨i + 1, leaves_cons_succ.mpr hi⟩

namespace RunsUpTo

variable {count other : Nat}

theorem cons_leave (h : (sh.runLine line s).1.continueLoop = false) :
    sh.RunsUpTo (line :: lines) s 1 :=
  leaving (leaves_cons_zero.mpr h) fun _ hj => absurd hj (Nat.not_lt_zero _)

theorem cons_proceed (h : (sh.runLine line s).1.continueLoop = true)
    (hrest : sh.RunsUpTo lines (sh.runLine line s).2 count) :
    sh.RunsUpTo (line :: lines) s (count + 1) := by
  have hzero : ¬ sh.Leaves (line :: lines) s 0 := by simp [leaves_cons_zero, h]
  cases hrest with
  | leaving hlast hfirst =>
    refine leaving (leaves_cons_succ.mpr hlast) fun j hj => ?_
    cases j with
    | zero => exact hzero
    | succ j => exact fun hleaves => hfirst j (by omega) (leaves_cons_succ.mp hleaves)
  | whole hnone =>
    refine whole fun j => ?_
    cases j with
    | zero => exact hzero
    | succ j => exact fun hleaves => hnone j (leaves_cons_succ.mp hleaves)

/-- There is only one first line that leaves the shell. -/
theorem unique (h : sh.RunsUpTo lines s count) (h' : sh.RunsUpTo lines s other) :
    other = count := by
  rcases h with @⟨i, hlast, hfirst⟩ | hnone <;> rcases h' with @⟨j, hlast', hfirst'⟩ | hnone'
  · have hij : ¬ i < j := fun hlt => hfirst' i hlt hlast
    have hji : ¬ j < i := fun hlt => hfirst j hlt hlast'
    omega
  · exact absurd hlast (hnone' i)
  · exact absurd hlast' (hnone j)
  · rfl

/-- There is a last line that is run, unless no line is. -/
theorem exists_last (h : sh.RunsUpTo lines s (count + 1)) : ∃ line, lines[count]? = some line := by
  generalize hn : count + 1 = n at h
  cases h with
  | @leaving i hlast _ =>
    obtain ⟨line, hline, -⟩ := hlast
    obtain rfl : count = i := by omega
    exact ⟨line, hline⟩
  | whole => exact ⟨_, List.getElem?_eq_getElem (by omega)⟩

end RunsUpTo

/-- A line in which the shell comes down leaves it. -/
theorem leaves_of_fallen {i : Nat} (hline : lines[i]? = some line)
    (h : (sh.runLine line (sh.stateAfter (lines.take i) s)).2.downfall ≠ none) :
    sh.Leaves lines s i :=
  ⟨line, hline, by rw [(runLine_of_down h).1]; rfl⟩

/-- After a line that does not leave the shell the other ones are run. -/
theorem runScript_cons_proceed (h : (sh.runLine line s).1.continueLoop = true) :
    sh.runScript (line :: lines) s = sh.runScript lines (sh.runLine line s).2 := by
  simp only [runScript, bind_apply, h, if_true]

/-- A run leaves what the lines leave up to the first one that leaves the shell. -/
theorem exists_runsUpTo (sh : Interpreter σ) (lines : List String) (s : ShellState σ) :
    ∃ count, sh.RunsUpTo lines s count ∧
      (sh.runScript lines s).2 = sh.stateAfter (lines.take count) s := by
  induction lines generalizing s with
  | nil => exact ⟨0, .whole not_leaves_nil, rfl⟩
  | cons line lines ih =>
    cases h : (sh.runLine line s).1.continueLoop with
    | false => exact ⟨1, .cons_leave h, by simp [runScript_cons_leave sh line lines s h]⟩
    | true =>
      obtain ⟨count, hcount, hstate⟩ := ih (sh.runLine line s).2
      exact ⟨count + 1, .cons_proceed h hcount, by simp [runScript_cons_proceed h, hstate]⟩

/-- The result of a run is the status that it leaves. -/
theorem runScript_fst (sh : Interpreter σ) (lines : List String) (s : ShellState σ) :
    (sh.runScript lines s).1 = (sh.runScript lines s).2.lastStatus := by
  induction lines generalizing s with
  | nil => rfl
  | cons line lines ih =>
    cases h : (sh.runLine line s).1.continueLoop with
    | false => rw [runScript_cons_leave sh line lines s h]
    | true => rw [runScript_cons_proceed h, ih]

/-- What stands behind a line that leaves the shell has no effect. -/
theorem runScript_append_of_leaves (h : ∃ i, sh.Leaves lines s i) (more : List String) :
    sh.runScript (lines ++ more) s = sh.runScript lines s := by
  induction lines generalizing s with
  | nil =>
    obtain ⟨i, hi⟩ := h
    exact absurd hi (not_leaves_nil i)
  | cons line lines ih =>
    rw [List.cons_append]
    cases hleave : (sh.runLine line s).1.continueLoop with
    | false =>
      rw [runScript_cons_leave sh line _ s hleave, runScript_cons_leave sh line _ s hleave]
    | true =>
      rw [runScript_cons_proceed hleave, runScript_cons_proceed hleave]
      have hrest := (exists_leaves_cons.mp h).resolve_left (by simp [hleave])
      exact ih hrest

/-- If no line leaves the shell, the lines behind them are run in the state that they leave. -/
theorem runScript_append_of_stays (h : ∀ i, ¬ sh.Leaves lines s i) (more : List String) :
    sh.runScript (lines ++ more) s = sh.runScript more (sh.runScript lines s).2 := by
  induction lines generalizing s with
  | nil => rfl
  | cons line lines ih =>
    have hproceed : (sh.runLine line s).1.continueLoop = true :=
      eq_true_of_ne_false fun hleave => h 0 (leaves_cons_zero.mpr hleave)
    rw [List.cons_append, runScript_cons_proceed hproceed, runScript_cons_proceed hproceed]
    exact ih fun i hi => h (i + 1) (leaves_cons_succ.mpr hi)

/-- What a run of lines does. -/
structure Scripts (sh : Interpreter σ) (s : ShellState σ) : Prop where
  /-- It is settled how many lines are run. -/
  counted : ∀ lines, ∃! count, sh.RunsUpTo lines s count
  /-- The run leaves what these lines leave, each run in the state left by those before it. -/
  run : ∀ lines count, sh.RunsUpTo lines s count →
    (sh.runScript lines s).2 = sh.stateAfter (lines.take count) s
  /-- Whatever stands in the place of the lines behind them, the run is the same. -/
  behind : ∀ lines count, sh.RunsUpTo lines s count → count < lines.length →
    ∀ others, sh.runScript (lines.take count ++ others) s = sh.runScript lines s
  /-- The result is the status that is left as that of the last line. -/
  result : ∀ lines, (sh.runScript lines s).1 = (sh.runScript lines s).2.lastStatus
  /-- It is the status of the last line that is run, or that of the line in front of it if the shell
  comes down in the last one. -/
  last : ∀ lines count, sh.RunsUpTo lines s (count + 1) → ∃ line, lines[count]? = some line ∧
    ((sh.runScript lines s).2.downfall = none → (sh.runScript lines s).1 =
      (sh.runLine line (sh.stateAfter (lines.take count) s)).1.status) ∧
    ((sh.runScript lines s).2.downfall ≠ none → (sh.runScript lines s).1 =
      (sh.stateAfter (lines.take count) s).lastStatus)
  /-- A line in which the shell comes down is the last one that is run. -/
  fallen : ∀ lines count i line, sh.RunsUpTo lines s count → lines[i]? = some line → i < count →
    (sh.runLine line (sh.stateAfter (lines.take i) s)).2.downfall ≠ none → count = i + 1
  /-- Without lines everything stays as it is. -/
  empty : sh.runScript [] s = (s.lastStatus, s)
  /-- If a line leaves the shell, lines that are added behind have no effect. -/
  stopped : ∀ lines more, (∃ i, sh.Leaves lines s i) →
    sh.runScript (lines ++ more) s = sh.runScript lines s
  /-- Otherwise the added lines are run behind the other ones. -/
  continued : ∀ lines more, (∀ i, ¬ sh.Leaves lines s i) →
    sh.runScript (lines ++ more) s = sh.runScript more (sh.runScript lines s).2

theorem runScript_snd_of_runsUpTo {count : Nat} (h : sh.RunsUpTo lines s count) :
    (sh.runScript lines s).2 = sh.stateAfter (lines.take count) s := by
  obtain ⟨other, hother, hstate⟩ := exists_runsUpTo sh lines s
  rw [hstate, h.unique hother]

/-- Lines are run up to the first one that leaves the shell, whatever the builtins are and whatever
the system does. -/
theorem scripting_runScript (sh : Interpreter σ) (s : ShellState σ) : Scripts sh s where
  counted lines := by
    obtain ⟨count, hcount, -⟩ := exists_runsUpTo sh lines s
    exact ⟨count, hcount, fun _ hother => hcount.unique hother⟩
  run _ _ hcount := runScript_snd_of_runsUpTo hcount
  behind lines count hcount hlt others := by
    cases hcount with
    | whole => exact absurd hlt (Nat.lt_irrefl _)
    | @leaving i hlast _ =>
      have htake : sh.Leaves (lines.take (i + 1)) s i := by
        obtain ⟨line, hline, hleave⟩ := hlast
        refine ⟨line, ?_, ?_⟩
        · rwa [List.getElem?_take_of_lt (Nat.lt_succ_self i)]
        · rwa [List.take_take, Nat.min_eq_left (Nat.le_succ i)]
      calc sh.runScript (lines.take (i + 1) ++ others) s
          = sh.runScript (lines.take (i + 1)) s := runScript_append_of_leaves ⟨i, htake⟩ others
        _ = sh.runScript (lines.take (i + 1) ++ lines.drop (i + 1)) s :=
          (runScript_append_of_leaves ⟨i, htake⟩ _).symm
        _ = sh.runScript lines s := by rw [List.take_append_drop]
  result lines := runScript_fst sh lines s
  last lines count hcount := by
    obtain ⟨line, hline⟩ := hcount.exists_last
    refine ⟨line, hline, ?_⟩
    have htake : lines.take (count + 1) = lines.take count ++ [line] := by
      rw [List.take_add_one, hline, Option.toList_some]
    rw [runScript_fst, runScript_snd_of_runsUpTo hcount, htake, stateAfter, List.foldl_append]
    exact ⟨fun hup => (runLine_of_up hup).2.2, fun hdown => (runLine_of_down hdown).2⟩
  fallen lines count i line hcount hline hlt hdown := by
    have hleaves := leaves_of_fallen hline hdown
    cases hcount with
    | whole hnone => exact absurd hleaves (hnone i)
    | @leaving j _ hfirst =>
      rcases Nat.lt_or_ge i j with hlt' | hge
      · exact absurd hleaves (hfirst i hlt')
      · omega
  empty := runScript_nil sh s
  stopped _ more h := runScript_append_of_leaves h more
  continued _ more h := runScript_append_of_stays h more

/-- The file for the complaints of this shell is full. A run of two lines stops with the first one,
which is malformed: the shell comes down over it, and the second line is not run. -/
theorem unfinished_of_full :
    (Interpreter.standard.runScript ["| cat", "exit 5"]
        (Chronicle.shellWith [0, 1, 2] [2] [] [])).2.downfall = some .noSpace ∧
      (Interpreter.standard.runScript ["| cat", "exit 5"]
        (Chronicle.shellWith [0, 1, 2] [2] [] [])).1 = 0 ∧
      (Interpreter.standard.runScript ["| cat", "exit 5"]
        (Chronicle.shellWith [0, 1, 2] [] [] [])).1 = 5 :=
  ⟨by decide +kernel, by decide +kernel, by decide +kernel⟩

end CommandShell.Interpreter
