import CommandShell.Proofs.Impartial

/-!
# Lines of builtins

Whether a line asks a builtin is settled by its tokens and by the names of the builtins. A line that
asks none does not depend on the builtins at all; on any other line the targets are opened, the
builtin is asked, and its reply is delivered. Main statements: a line that asks no builtin does what
it does without builtins (`execute_eq_empty`), and then it is the same on every system
(`impartial_execute`); on the other lines these steps follow each other (`execute_of_asked`).
-/

namespace CommandShell.Interpreter

open Shell

variable {σ : Type}

/-- The builtin that a line asks, with the only stage of the line. -/
def asked? (sh : Interpreter σ) (line : String) : Option (Handler σ × Stage) :=
  match Pipeline.ofTokens (Token.scan line) with
  | .error _ => none
  | .ok p => sh.route p

/-- Without builtins there is none to be asked. -/
theorem route_empty (streams : Streams) (p : Pipeline) :
    (⟨.empty, streams⟩ : Interpreter σ).route p = none := by
  rw [route]
  cases p.single? <;> rfl

variable {sh : Interpreter σ} {line : String} {p : Pipeline} {handler : Handler σ} {stage : Stage}

/-- The builtin of a line is the one to which its pipeline is sent. -/
theorem asked?_eq_some_iff : sh.asked? line = some (handler, stage) ↔
    ∃ p, Pipeline.ofTokens (Token.scan line) = .ok p ∧ sh.route p = some (handler, stage) := by
  rw [asked?]
  cases Pipeline.ofTokens (Token.scan line) with
  | error fault => simp
  | ok p => simp

/-- It has the name with which the only stage of the line begins. -/
theorem asked?_eq_some_iff_get? : sh.asked? line = some (handler, stage) ↔
    ∃ p, Pipeline.ofTokens (Token.scan line) = .ok p ∧ p.single? = some stage ∧
      sh.builtins.get? stage.program = some handler := by
  rw [asked?_eq_some_iff]
  refine exists_congr fun p => and_congr_right fun _ => ?_
  rw [route]
  cases p.single? with
  | none => simp
  | some only =>
    simp only [Option.map_eq_some_iff, Option.some.injEq, Prod.mk.injEq]
    constructor
    · rintro ⟨found, hfound, rfl, rfl⟩
      exact ⟨rfl, hfound⟩
    · rintro ⟨rfl, hfound⟩
      exact ⟨handler, hfound, rfl, rfl⟩

theorem route_eq_none (h : sh.asked? line = none)
    (hparse : Pipeline.ofTokens (Token.scan line) = .ok p) : sh.route p = none := by
  rwa [asked?, hparse] at h

variable [Kernel σ]

/-- A line that asks no builtin does what it does without builtins. -/
theorem execute_eq_empty (h : sh.asked? line = none) :
    sh.execute line = (⟨.empty, sh.streams⟩ : Interpreter σ).execute line := by
  rw [execute, execute]
  refine bind_congr fun _ => bind_congr fun _ => ?_
  split
  · rfl
  · cases hparse : Pipeline.ofTokens (Token.scan line) with
    | error fault => rfl
    | ok p =>
      have hnone := route_eq_none h hparse
      simp only [dispatch, hnone, route_empty]
      rfl

omit [Kernel σ] in
/-- Without builtins a line is interpreted in the same way on every system. -/
theorem impartial_execute (streams : Streams) (line : String) :
    Impartial fun σ _ => (⟨.empty, streams⟩ : Interpreter σ).execute line := by
  intro τ ρ _ _ host home hp
  refine mirrors_recover.bind fun _ => (mirrors_note hp _).bind fun _ => ?_
  by_cases hblank : (Token.scan line).isEmpty = true
  · simp only [hblank, if_true]
    exact Mirrors.pure _
  · simp only [hblank, Bool.false_eq_true, if_false]
    cases Pipeline.ofTokens (Token.scan line) with
    | error fault => exact Mirrors.pure _
    | ok p =>
      simp only [dispatch, route_empty]
      exact (mirrors_note hp _).bind fun _ => impartial_runPrograms streams p home hp

/-- Notes the line of a builtin and opens its targets. -/
def prepare (line : String) (stage : Stage) : Shell σ (Except ShellError (Option Fd)) := do
  recover
  note (.tokenized (Token.scan line))
  note (.runningBuiltin stage.program)
  openTargets stage

omit [Kernel σ] in
/-- A line is prepared in the same way on every system. -/
theorem impartial_prepare (line : String) (stage : Stage) :
    Impartial fun _ _ => prepare line stage := by
  intro τ ρ _ _ host home hp
  refine mirrors_recover.bind fun _ => (mirrors_note hp _).bind fun _ =>
    (mirrors_note hp _).bind fun _ => ?_
  exact impartial_openTargets stage home hp

/-- The shell does not come down while a line is prepared. -/
theorem downfall_prepare (line : String) (stage : Stage) (s : ShellState σ) :
    (prepare line stage s).2.downfall = none :=
  (downfall_openTargets stage _).trans
    ((downfall_note _ _).trans ((downfall_note _ _).trans rfl))

/-- A line that asks a builtin is prepared, and then the builtin is asked and its reply is
delivered. -/
theorem execute_of_asked (h : sh.asked? line = some (handler, stage)) :
    sh.execute line = do
      match ← prepare line stage with
      | .error error => return .error error
      | .ok output => return .ok (← sh.respond handler stage output) := by
  obtain ⟨p, hparse, hroute⟩ := asked?_eq_some_iff.mp h
  have hblank : (Token.scan line).isEmpty = false := by
    rw [List.isEmpty_eq_false_iff]
    exact fun hnil => ofTokens_ne_ok_of_blank hnil hparse
  simp only [execute, hblank, Bool.false_eq_true, if_false, hparse, dispatch, hroute,
    runBuiltin_eq]
  rfl

/-- What comes of the line if its targets are open. -/
theorem execute_of_prepared (h : sh.asked? line = some (handler, stage)) {s opened : ShellState σ}
    {output : Option Fd} (hopen : prepare line stage s = (.ok output, opened)) :
    sh.execute line s = (.ok (deliver output (sh.consult handler stage opened).1
        (sh.consult handler stage opened).2).1,
      (deliver output (sh.consult handler stage opened).1
        (sh.consult handler stage opened).2).2) := by
  rw [execute_of_asked h, bind_apply, hopen]
  simp only [bind_apply, respond_apply]
  rfl

/-- If a target cannot be opened, the builtin is not asked. -/
theorem execute_of_unprepared (h : sh.asked? line = some (handler, stage)) {s s' : ShellState σ}
    {error : ShellError} (hopen : prepare line stage s = (.error error, s')) :
    sh.execute line s = (.error error, s') := by
  rw [execute_of_asked h, bind_apply, hopen]
  rfl

/-- To prepare a line is to note it and to open its targets, one after the other. -/
theorem between_prepare {s s' : ShellState (Recorded σ)}
    {answer : Except ShellError (Option Fd)} (h : prepare line stage s = (answer, s')) :
    ∃ notes openings failure, Between s s' (notes ++ openings) ∧
      Noted s.descriptors s.log.stamp notes ∧
      Openings s.surroundings.directory stage openings failure ∧ FailsAs answer failure := by
  obtain ⟨_, recovered, hrecover, h⟩ := of_bind_eq h
  cases hrecover
  obtain ⟨_, s₁, hnote, h⟩ := of_bind_eq h
  obtain ⟨_, s₂, hnote', h⟩ := of_bind_eq h
  obtain ⟨notes, hnotes, hnoted⟩ := between_note (.tokenized (Token.scan line)) s.recovered
  obtain ⟨more, hmore, hnoted'⟩ := between_note (.runningBuiltin stage.program) s₁
  have hquiet := (quiet_note (.tokenized (Token.scan line)) s.recovered).1
  rw [show note (.tokenized (Token.scan line)) s.recovered = _ from hnote] at hnotes hquiet
  replace hnotes : Between s s₁ notes := (between_recovered s).trans hnotes
  rw [hnote'] at hmore
  rw [hquiet, hnotes.log_eq] at hnoted'
  have hbefore := hnotes.trans hmore
  obtain ⟨openings, failure, hbetween, hopenings, hfails⟩ := between_openTargets h
  rw [hbefore.directory_eq] at hopenings
  exact ⟨notes ++ more, openings, failure, hbefore.trans hbetween, hnoted.append hnoted', hopenings,
    hfails⟩

end CommandShell.Interpreter
