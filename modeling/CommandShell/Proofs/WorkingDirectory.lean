import CommandShell.Proofs.BuiltinLines
import CommandShell.Proofs.ChangingDirectory
import CommandShell.Proofs.Leaving
import CommandShell.Proofs.Scripts

/-!
# The working directory

A line changes the working directory in one way only: its single stage is the builtin for it, the
targets of the stage are open, the arguments say where to go, and the system gives an absolute path
and the directory at this path. Everything else leaves the shell where it is: what a builtin does in
a longer pipeline is done by a process of its own. Main statement: a run of lines leaves the shell
in the directory to which this rule leads from line to line, and every path of a line counts from
the directory before the line (`Interpreter.moving_runScript`).
-/

namespace CommandShell

open Shell

variable {σ : Type}

/-! ## The rule -/

namespace Interpreter

/-- The stage of a line that is the builtin for the working directory and nothing else. -/
def moveStage? (line : String) : Option Stage :=
  match Pipeline.ofTokens (Token.scan line) with
  | .error _ => none
  | .ok p => p.single?.filter fun stage => stage.program = "cd"

/-- Where a line sends the shell, given all that was asked for when it was run. A target that could
not be opened keeps it from going anywhere. -/
def errand? (home : Option String) (line : String) (calls : List Call) : Option String :=
  (moveStage? line).bind fun stage =>
    if stage.openFault? calls = none then Builtin.goal? home stage.arguments else none

/-- The directory that the system has given for a path: the one at its absolute path. -/
def found? (here : Directory) (path : String) (calls : List Call) : Option Directory :=
  match lookups calls with
  | [.canonicalize start asked (.ok canonical), .enter start' asked' (.ok directory)] =>
    if start = here ∧ asked = path ∧ start' = here ∧ asked' = canonical then some directory
    else none
  | _ => none

/-- The working directory behind a line, given the one before it. -/
def heading (home : Option String) (here : Directory) (line : String) (calls : List Call) :
    Directory :=
  ((errand? home line calls).bind fun path => found? here path calls).getD here

/-- What is asked for when there is a place to go to, and the directory in which this ends. -/
inductive LookedUp (here : Directory) : Option String → List Call → Directory → Prop
  /-- There is no place to go to. -/
  | nowhere : LookedUp here none [] here
  /-- The system cannot be asked for a name with a NUL byte. -/
  | unnamed (path : String) (h : hasNul path = true) : LookedUp here (some path) [] here
  /-- There is no absolute path. -/
  | missing (path : String) (errno : Errno) (h : hasNul path = false) :
    LookedUp here (some path) [.canonicalize here path (.error errno)] here
  /-- What is at the absolute path cannot be entered. -/
  | refused (path canonical : String) (errno : Errno) (h : hasNul path = false) :
    LookedUp here (some path)
      [.canonicalize here path (.ok canonical), .enter here canonical (.error errno)] here
  /-- The directory at the absolute path is entered. -/
  | entered (path canonical : String) (directory : Directory) (h : hasNul path = false) :
    LookedUp here (some path)
      [.canonicalize here path (.ok canonical), .enter here canonical (.ok directory)] directory

variable {here there : Directory} {goal home : Option String} {line : String} {calls : List Call}

theorem LookedUp.isLookup (h : LookedUp here goal calls there) :
    ∀ call ∈ calls, call.isLookup = true := by
  cases h <;> simp [Call.isLookup]

theorem LookedUp.lookups_eq (h : LookedUp here goal calls there) : lookups calls = calls :=
  List.filter_eq_self.mpr h.isLookup

/-- The rule gives the directory in which the search ends. -/
theorem LookedUp.heading_eq (h : LookedUp here (errand? home line calls) (lookups calls) there) :
    heading home here line calls = there := by
  rw [heading]
  generalize errand? home line calls = goal at h
  generalize hasked : lookups calls = asked at h
  cases h with
  | nowhere => rfl
  | unnamed path h => simp [found?, hasked]
  | missing path errno h => simp [found?, hasked]
  | refused path canonical errno h => simp [found?, hasked]
  | entered path canonical directory h => simp [found?, hasked]

end Interpreter

/-! ## Where paths count from -/

/-- The directory from which the path of a file to be opened counts. -/
def Call.openedFrom? : Call → Option Directory
  | .openToRead start _ _ _ => some start
  | .openToWrite start _ _ _ => some start
  | _ => none

/-- All paths of files to be opened count from one directory. -/
def OpensFrom (here : Directory) (calls : List Call) : Prop :=
  ∀ call ∈ calls, ∀ start, call.openedFrom? = some start → start = here

namespace OpensFrom

variable {here : Directory} {calls more : List Call}

theorem append (h : OpensFrom here calls) (h' : OpensFrom here more) :
    OpensFrom here (calls ++ more) := by
  intro call hcall
  rcases List.mem_append.mp hcall with hcall | hcall
  · exact h call hcall
  · exact h' call hcall

/-- Where nothing is opened, no path counts. -/
theorem of_not_isOpening (h : ∀ call ∈ calls, call.isOpening = false) : OpensFrom here calls := by
  intro call hcall start hstart
  have hclosed := h call hcall
  cases call <;> simp [Call.isOpening, Call.openedFrom?] at hclosed hstart

theorem of_isTransfer (h : ∀ call ∈ calls, call.isTransfer = true) : OpensFrom here calls :=
  of_not_isOpening fun call hcall => Call.not_isOpening_of_isTransfer (h call hcall)

theorem flatMap {α : Type} {parts : List α} {f : α → List Call}
    (h : ∀ part ∈ parts, OpensFrom here (f part)) : OpensFrom here (parts.flatMap f) := by
  intro call hcall
  obtain ⟨part, hpart, hcall⟩ := List.mem_flatMap.mp hcall
  exact h part hpart call hcall

end OpensFrom

/-- The targets of a stage count from the directory in which they are opened. -/
theorem Openings.opensFrom {here : Directory} {stage : Stage} {calls : List Call}
    {failure : Option (String × Fault)} (h : Openings here stage calls failure) :
    OpensFrom here calls := by
  have htargeted : ∀ {call : Directory → String → Nat → Except Errno Unit → Call}
      {path : Option String} {calls : List Call} {failure : Option (String × Fault)},
      (∀ path number answer, (call here path number answer).openedFrom? = some here) →
        Targeted call here path calls failure → OpensFrom here calls := by
    intro call path calls failure hcall htargeted asked hasked start hstart
    obtain ⟨path, number, answer, rfl⟩ := htargeted.call_cases asked hasked
    rw [hcall] at hstart
    exact (Option.some.inj hstart).symm
  cases h with
  | unfed calls failure h => exact htargeted (fun _ _ _ => rfl) h
  | fed calls more failure h h' =>
    exact (htargeted (fun _ _ _ => rfl) h).append (htargeted (fun _ _ _ => rfl) h')

/-- Whatever the stages of a pipeline open counts from the working directory. -/
theorem Touched.opensFrom [Kernel σ] {streams : Streams} {p : Pipeline} {here : Directory}
    {table : Descriptors} {calls : List Call} {turns : List (Turn σ)}
    (h : Touched streams p here table calls turns) : OpensFrom here calls := by
  obtain ⟨before, after, rfl, hidle, -⟩ := h.sequence
  have hclosed : ∀ call ∈ before ++ after, call.isOpening = false := by
    intro call hcall
    have hstage := hidle call hcall
    cases call <;> first | rfl | cases hstage
  have hturns : ∀ t ∈ turns, OpensFrom here (t.transcript streams) := by
    intro t ht
    obtain ⟨openings, rest, failure, hcalls, hopenings, hrest, -⟩ := (h.turn t ht).opens
    rw [hcalls]
    exact hopenings.opensFrom.append (OpensFrom.of_not_isOpening hrest)
  refine OpensFrom.append (OpensFrom.append ?_ (OpensFrom.flatMap hturns)) ?_
  · exact OpensFrom.of_not_isOpening fun call hcall =>
      hclosed call (List.mem_append_left after hcall)
  · exact OpensFrom.of_not_isOpening fun call hcall =>
      hclosed call (List.mem_append_right before hcall)

/-! ## Builtins -/

section

variable [Kernel σ]

namespace Builtin

open Interpreter

omit [Kernel σ] in
/-- A builtin does not look at its own name. -/
theorem invoke_handler {α : Type} (b : Builtin σ α) (argv : List String) (listing : Listing) :
    b.handler.invoke argv listing = b.answer argv.tail listing := rfl

/-- The search for the place to go to is recorded. -/
theorem Course.lookedUp {w w' : Surroundings (Recorded σ)} {goal : Option String} {reply : Reply}
    (h : Course w goal reply w') : w'.home = w.home ∧ ∃ calls, w.host.Continued w'.host calls ∧
      LookedUp w.directory goal calls w'.directory := by
  have hcanonicalize : ∀ path answer host,
      Kernel.canonicalize w.directory path w.host = (answer, host) →
        w.host.Continued host [.canonicalize w.directory path answer] := by
    intro path answer host hcall
    have hcontinued : w.host.Continued (Kernel.canonicalize w.directory path w.host).2
        [.canonicalize w.directory path (Kernel.canonicalize w.directory path w.host).1] :=
      Recorded.continued_record w.host rfl
    rwa [hcall] at hcontinued
  have henter : ∀ path answer (between host : Recorded σ),
      Kernel.enter w.directory path between = (answer, host) →
        between.Continued host [.enter w.directory path answer] := by
    intro path answer between host hcall
    have hcontinued : between.Continued (Kernel.enter w.directory path between).2
        [.enter w.directory path (Kernel.enter w.directory path between).1] :=
      Recorded.continued_record between rfl
    rwa [hcall] at hcontinued
  cases h with
  | unset => exact ⟨rfl, [], .refl _, .nowhere⟩
  | unnamed path h => exact ⟨rfl, [], .refl _, .unnamed path h⟩
  | missing path errno host hnamed h =>
    exact ⟨rfl, _, hcanonicalize _ _ _ h, .missing path errno hnamed⟩
  | refused path canonical errno between host hnamed h h' =>
    exact ⟨rfl, _, (hcanonicalize _ _ _ h).trans (henter _ _ _ _ h'),
      .refused path canonical errno hnamed⟩
  | entered path canonical directory between host hnamed h h' =>
    exact ⟨rfl, _, (hcanonicalize _ _ _ h).trans (henter _ _ _ _ h'),
      .entered path canonical directory hnamed⟩

/-- The builtin for the working directory looks for the place to which its arguments send it. -/
theorem lookedUp_cd (argv : List String) (listing : Listing) (w : Surroundings (Recorded σ)) :
    (cd.handler.invoke argv listing w).2.home = w.home ∧
    ∃ calls, w.host.Continued (cd.handler.invoke argv listing w).2.host calls ∧
      LookedUp w.directory (goal? w.home argv.tail) calls
        (cd.handler.invoke argv listing w).2.directory := by
  have hgrammar : (cd : Builtin (Recorded σ) _).grammar = cdGrammar := rfl
  rw [invoke_handler, answer, hgrammar, goal?]
  rcases cdGrammar.read argv.tail with fault | target | _
  · exact ⟨rfl, [], .refl _, .nowhere⟩
  · exact (course_changeDirectory target w).lookedUp
  · exact ⟨rfl, [], .refl _, .nowhere⟩

end Builtin

/-- A builtin leaves the shell where it is, and neither opens anything nor looks for a directory. -/
def Handler.StaysPut (handler : Handler (Recorded σ)) : Prop :=
  ∀ argv listing w, (handler.invoke argv listing w).2.directory = w.directory ∧
    (handler.invoke argv listing w).2.home = w.home ∧
    ∃ calls, w.host.Continued (handler.invoke argv listing w).2.host calls ∧
      ∀ call ∈ calls, call.isOpening = false ∧ call.isLookup = false

/-- This depends only on what the builtin does when its arguments were read. -/
theorem Builtin.staysPut_handler {α : Type} {b : Builtin (Recorded σ) α}
    (h : ∀ value listing w, (b.run value listing w).2.directory = w.directory ∧
      (b.run value listing w).2.home = w.home ∧
      ∃ calls, w.host.Continued (b.run value listing w).2.host calls ∧
        ∀ call ∈ calls, call.isOpening = false ∧ call.isLookup = false) : b.handler.StaysPut := by
  intro argv listing w
  rw [Builtin.invoke_handler, Builtin.answer]
  rcases b.grammar.read argv.tail with fault | value | _
  · exact ⟨rfl, rfl, [], .refl _, by simp⟩
  · exact h value listing w
  · exact ⟨rfl, rfl, [], .refl _, by simp⟩

/-- Only one builtin of the shell changes the working directory. -/
theorem Registry.staysPut_standard {name : String} {handler : Handler (Recorded σ)}
    (h : Registry.standard.get? name = some handler) (hcd : name ≠ "cd") : handler.StaysPut := by
  have hidle : ∀ {w : Surroundings (Recorded σ)}, w.directory = w.directory ∧ w.home = w.home ∧
      ∃ calls, w.host.Continued w.host calls ∧
        ∀ call ∈ calls, call.isOpening = false ∧ call.isLookup = false :=
    ⟨rfl, rfl, [], .refl _, by simp⟩
  rw [Registry.get?_standard] at h
  split at h
  · cases h
    refine Builtin.staysPut_handler fun _ _ w => ?_
    have hnamed : w.host.Continued (Kernel.nameOf w.directory w.host).2
        [.nameOf w.directory (Kernel.nameOf w.directory w.host).1] :=
      Recorded.continued_record w.host rfl
    have hshow : (Builtin.showDirectory w).2 =
        { w with host := (Kernel.nameOf w.directory w.host).2 } := by
      rw [Builtin.showDirectory, bind_apply, Action.workingDirectory_apply]
      cases (Kernel.nameOf w.directory w.host).1 <;> rfl
    change (Builtin.showDirectory w).2.directory = _ ∧ (Builtin.showDirectory w).2.home = _ ∧
      ∃ calls, w.host.Continued (Builtin.showDirectory w).2.host calls ∧ _
    rw [hshow]
    exact ⟨rfl, rfl, _, hnamed, by simp [Call.isOpening, Call.isLookup]⟩
  · split at h
    · cases h
      exact Builtin.staysPut_handler fun _ _ _ => hidle
    · split at h
      · cases h
        exact Builtin.staysPut_handler fun _ _ _ => hidle
      · cases h

/-! ## Lines -/

omit [Kernel σ] in
/-- Calls that open nothing do not matter behind those that tell what could not be opened. -/
theorem Stage.openFault?_concat (stage : Stage) (calls : List Call) {more : List Call}
    (h : ∀ call ∈ more, call.isOpening = false) :
    stage.openFault? (calls ++ more) = stage.openFault? calls := by
  have hread : more.findSome? Call.unread? = none :=
    List.findSome?_eq_none_iff.mpr fun call hcall => Call.unread?_of_not_isOpening (h call hcall)
  have hwritten : more.findSome? Call.unwritten? = none :=
    List.findSome?_eq_none_iff.mpr fun call hcall => Call.unwritten?_of_not_isOpening (h call hcall)
  have htarget : ∀ {refused? : Call → Option (String × Fault)} (path : Option String),
      more.findSome? refused? = none →
        targetFault? refused? (calls ++ more) path = targetFault? refused? calls path := by
    intro refused? path hmore
    cases path <;> simp [targetFault?, List.findSome?_append, hmore]
  rw [Stage.openFault?, htarget _ hread, htarget _ hwritten, Stage.openFault?]

namespace Interpreter

/-- What a line does to the place where the shell is, and from where it opens files. -/
structure Strides (line : String) (s s' : ShellState (Recorded σ)) (calls : List Call) :
    Prop where
  /-- The record was continued. -/
  continued : s.surroundings.host.Continued s'.surroundings.host calls
  /-- The home directory is the same. -/
  home_eq : s'.surroundings.home = s.surroundings.home
  /-- If there is a place to go to, it is looked up, and otherwise no directory is. -/
  lookedUp : LookedUp s.surroundings.directory (errand? s.surroundings.home line calls)
    (lookups calls) s'.surroundings.directory
  /-- All paths count from the directory before the line. -/
  opensFrom : OpensFrom s.surroundings.directory calls

variable {streams : Streams} {line : String} {stage : Stage}
  {handler : Handler (Recorded σ)} {s s' s'' : ShellState (Recorded σ)} {calls more : List Call}

omit [Kernel σ] in
/-- What could not be opened decides about the place together with the calls so far. -/
theorem errand?_concat (home : Option String) (line : String) (calls : List Call)
    (h : ∀ call ∈ more, call.isOpening = false) :
    errand? home line (calls ++ more) = errand? home line calls := by
  rw [errand?, errand?]
  congr 1
  funext stage
  rw [stage.openFault?_concat calls h]

/-- What is written behind a line leads nowhere. -/
theorem Strides.behind (h : Strides line s s' calls) (hmore : Between s' s'' more)
    (hhome : s''.surroundings.home = s'.surroundings.home)
    (htransfer : ∀ call ∈ more, call.isTransfer = true) : Strides line s s'' (calls ++ more) := by
  have hopening : ∀ call ∈ more, call.isOpening = false := fun call hcall =>
    Call.not_isOpening_of_isTransfer (htransfer call hcall)
  have hlookups : lookups more = [] := lookups_eq_nil fun call hcall =>
    Call.not_isLookup_of_isTransfer (htransfer call hcall)
  refine ⟨h.continued.trans hmore.continued, hhome.trans h.home_eq, ?_,
    h.opensFrom.append (OpensFrom.of_isTransfer htransfer)⟩
  rw [errand?_concat _ _ _ hopening, lookups_append, hlookups, List.append_nil, hmore.directory_eq]
  exact h.lookedUp

/-- A line with the builtin asks it. -/
theorem asked?_of_moveStage? (streams : Streams) (h : moveStage? line = some stage) :
    (⟨.standard, streams⟩ : Interpreter σ).asked? line = some (Builtin.cd.handler, stage) := by
  rw [moveStage?] at h
  cases hparse : Pipeline.ofTokens (Token.scan line) with
  | error fault =>
    rw [hparse] at h
    cases h
  | ok p =>
    rw [hparse] at h
    obtain ⟨hsingle, hname⟩ := Option.filter_eq_some_iff.mp h
    refine asked?_eq_some_iff_get?.mpr ⟨p, hparse, hsingle, ?_⟩
    rw [of_decide_eq_true hname, Registry.get?_standard]
    rfl

omit [Kernel σ] in
/-- A line that asks another builtin, or a builtin under another name, goes nowhere. -/
theorem moveStage?_eq {sh : Interpreter σ} {handler : Handler σ}
    (h : sh.asked? line = some (handler, stage)) :
    moveStage? line = if stage.program = "cd" then some stage else none := by
  obtain ⟨p, hparse, hsingle, -⟩ := asked?_eq_some_iff_get?.mp h
  rw [moveStage?, hparse]
  simp only [hsingle, Option.filter_some]
  simp

/-- A line that asks no builtin leaves the shell where it is. -/
theorem between_of_unasked {sh : Interpreter (Recorded σ)} (h : sh.asked? line = none)
    (s : ShellState (Recorded σ)) : ∃ calls, Between s (sh.execute line s).2 calls ∧
      OpensFrom s.surroundings.directory calls := by
  have htranscript := sh.transcribed_execute line s
  have hnone : ∀ {p}, Pipeline.ofTokens (Token.scan line) = .ok p → sh.route p = none :=
    route_eq_none h
  by_cases hblank : Token.scan line = []
  · obtain ⟨-, notes, hnotes, hbetween, -⟩ := htranscript.of_blank hblank
    exact ⟨notes, hbetween, .of_isTransfer hnotes.isTransfer⟩
  · cases hparse : Pipeline.ofTokens (Token.scan line) with
    | error fault =>
      obtain ⟨-, notes, hnotes, hbetween, -⟩ := htranscript.of_malformed hblank hparse
      exact ⟨notes, hbetween, .of_isTransfer hnotes.isTransfer⟩
    | ok p =>
      obtain ⟨turns, htouched⟩ := htranscript.touched rfl hparse (hnone hparse)
      obtain ⟨s₀, notes, complaints, -, -, -, -, -, -, hbetween⟩ :=
        htranscript.of_programs hparse (hnone hparse)
      rw [hbetween.transcript_action_eq] at htouched
      exact ⟨_, hbetween, htouched.opensFrom⟩

/-- Without a builtin the shell goes nowhere. -/
theorem strides_of_unasked
    (h : (⟨.standard, streams⟩ : Interpreter (Recorded σ)).asked? line = none)
    (s : ShellState (Recorded σ)) : ∃ calls, Strides line s
      ((⟨.standard, streams⟩ : Interpreter (Recorded σ)).execute line s).2 calls := by
  obtain ⟨calls, hbetween, hopens⟩ := between_of_unasked h s
  have hempty := execute_eq_empty h
  have himpartial := impartial_execute streams line
  have hhome := himpartial.home_eq s
  have hasked := himpartial.lookups_eq s
  rw [← hempty] at hhome hasked
  rw [hbetween.transcript_eq, lookups_append] at hasked
  have hlookups : lookups calls = [] :=
    List.append_cancel_left (hasked.trans (List.append_nil _).symm)
  have hmove : moveStage? line = none := by
    cases hmove : moveStage? line with
    | none => rfl
    | some stage =>
      have hasked : (⟨.standard, streams⟩ : Interpreter (Recorded σ)).asked? line = _ :=
        asked?_of_moveStage? streams hmove
      cases h.symm.trans hasked
  refine ⟨calls, hbetween.continued, hhome, ?_, hopens⟩
  rw [errand?, hmove, hlookups, hbetween.directory_eq]
  exact .nowhere

/-- A builtin leads to the place to which its arguments send it, if it is asked. -/
theorem strides_of_asked
    (h : (⟨.standard, streams⟩ : Interpreter (Recorded σ)).asked? line = some (handler, stage))
    (s : ShellState (Recorded σ)) : ∃ calls, Strides line s
      ((⟨.standard, streams⟩ : Interpreter (Recorded σ)).execute line s).2 calls := by
  have hmove := moveStage?_eq h
  rcases hopen : prepare line stage s with ⟨answer, opened⟩
  have hhome := (impartial_prepare line stage).home_eq s
  rw [hopen] at hhome
  obtain ⟨notes, openings, failure, hbetween, hnotes, hopenings, hfails⟩ := between_prepare hopen
  have hprepared : lookups (notes ++ openings) = [] := lookups_eq_nil fun call hcall => by
    rcases List.mem_append.mp hcall with hcall | hcall
    · exact Call.not_isLookup_of_isTransfer (hnotes.isTransfer call hcall)
    · exact Call.not_isLookup_of_isOpening (hopenings.isOpening call hcall)
  have hopens : OpensFrom s.surroundings.directory (notes ++ openings) :=
    (OpensFrom.of_isTransfer hnotes.isTransfer).append hopenings.opensFrom
  have hfault : stage.openFault? (notes ++ openings) = failure := by
    rw [stage.openFault?_append fun call hcall =>
      Call.not_isOpening_of_isTransfer (hnotes.isTransfer call hcall)]
    simpa using hopenings.openFault?_eq [] (by simp)
  cases failure with
  | some failure =>
    cases hfails
    rw [execute_of_unprepared h hopen]
    refine ⟨_, hbetween.continued, hhome, ?_, hopens⟩
    have herrand : errand? s.surroundings.home line (notes ++ openings) = none := by
      rw [errand?, hmove]
      split <;> simp [hfault]
    rw [herrand, hprepared, hbetween.directory_eq]
    exact .nowhere
  | none =>
    obtain ⟨output, rfl⟩ := hfails
    rw [execute_of_prepared h hopen]
    generalize hconsult : (⟨.standard, streams⟩ : Interpreter (Recorded σ)).consult handler stage
      opened = consulted
    have hhandler : Registry.standard.get? stage.program = some handler := by
      obtain ⟨p, -, -, hget⟩ := asked?_eq_some_iff_get?.mp h
      exact hget
    -- What the builtin does is behind the targets and in front of its reply.
    suffices hstrides : ∃ calls, Strides line s consulted.2 calls by
      obtain ⟨calls, hstrides⟩ := hstrides
      obtain ⟨more, hmore, htransfer, -⟩ := transferring_deliver output consulted.1 consulted.2
      have hdelivered := (impartial_deliver output consulted.1).home_eq consulted.2
      exact ⟨calls ++ more, hstrides.behind hmore hdelivered htransfer⟩
    obtain ⟨listing, hleft⟩ : ∃ listing, consulted.2.surroundings =
        (handler.invoke stage.argv listing opened.surroundings).2 := by
      rw [← hconsult]
      exact ⟨_, rfl⟩
    by_cases hname : stage.program = "cd"
    · rw [hname, Registry.get?_standard] at hhandler
      cases hhandler
      obtain ⟨hkept, own, hcontinued, hlookedUp⟩ :=
        Builtin.lookedUp_cd stage.argv listing opened.surroundings
      rw [← hleft] at hkept hcontinued hlookedUp
      have hclosed : ∀ call ∈ own, call.isOpening = false := fun call hcall => by
        have hlookup := hlookedUp.isLookup call hcall
        cases call <;> first | rfl | cases hlookup
      refine ⟨notes ++ openings ++ own, hbetween.continued.trans hcontinued, hkept.trans hhome, ?_,
        hopens.append (.of_not_isOpening hclosed)⟩
      have herrand : errand? s.surroundings.home line (notes ++ openings ++ own) =
          Builtin.goal? opened.surroundings.home stage.argv.tail := by
        rw [errand?_concat _ _ _ hclosed, errand?, hmove, if_pos hname, hhome]
        simp [hfault, Stage.argv]
      rw [herrand, lookups_append, hprepared, List.nil_append, hlookedUp.lookups_eq,
        ← hbetween.directory_eq]
      exact hlookedUp
    · obtain ⟨hdirectory, hkept, own, hcontinued, hown⟩ := Registry.staysPut_standard hhandler hname
        stage.argv listing opened.surroundings
      rw [← hleft] at hdirectory hkept hcontinued
      have hlookups : lookups own = [] := lookups_eq_nil fun call hcall => (hown call hcall).2
      refine ⟨notes ++ openings ++ own, hbetween.continued.trans hcontinued, hkept.trans hhome, ?_,
        hopens.append (.of_not_isOpening fun call hcall => (hown call hcall).1)⟩
      rw [errand?, hmove, if_neg hname, lookups_append, hprepared, hlookups, hdirectory,
        hbetween.directory_eq]
      exact .nowhere

/-- Every line strides. -/
theorem strides_runLine (streams : Streams) (line : String) (s : ShellState (Recorded σ)) :
    Strides line s ((⟨.standard, streams⟩ : Interpreter (Recorded σ)).runLine line s).2
      (((⟨.standard, streams⟩ : Interpreter (Recorded σ)).runLine line).transcript s) := by
  have hexecute : ∃ calls, Strides line s
      ((⟨.standard, streams⟩ : Interpreter (Recorded σ)).execute line s).2 calls := by
    cases h : (⟨.standard, streams⟩ : Interpreter (Recorded σ)).asked? line with
    | none => exact strides_of_unasked h s
    | some chosen => exact strides_of_asked h s
  obtain ⟨calls, hstrides⟩ := hexecute
  have hleft := surroundings_runLine (⟨.standard, streams⟩ : Interpreter (Recorded σ)) line s
  generalize (⟨.standard, streams⟩ : Interpreter (Recorded σ)).execute line s = ran
    at hstrides hleft
  obtain ⟨more, hmore, hsettling⟩ := between_settleLine ran.1 ran.2
  have hsettled := hstrides.behind hmore ((impartial_settleLine ran.1).home_eq ran.2)
    hsettling.isTransfer
  have hcalls : ((⟨.standard, streams⟩ : Interpreter (Recorded σ)).runLine line).transcript s =
      calls ++ more := by
    have hcontinued := hsettled.continued.calls_eq
    rw [← hleft] at hcontinued
    rw [transcript, ShellState.transcript, ShellState.transcript, hcontinued, List.drop_left]
  rw [hcalls]
  exact ⟨by rw [hleft]; exact hsettled.continued, by rw [hleft]; exact hsettled.home_eq,
    by rw [hleft]; exact hsettled.lookedUp, hsettled.opensFrom⟩

/-! ## Runs of lines -/

omit [Kernel σ] in
/-- The directory to which the rule leads along some lines, each with all that was asked for when it
was run. -/
def journey (home : Option String) (here : Directory) (turns : List (String × List Call)) :
    Directory :=
  turns.foldl (fun here turn => heading home here turn.1 turn.2) here

/-- Lines that are run one after the other, each with all that it asks for. -/
def turns (sh : Interpreter (Recorded σ)) :
    List String → ShellState (Recorded σ) → List (String × List Call)
  | [], _ => []
  | line :: rest, s => (line, (sh.runLine line).transcript s) :: sh.turns rest (sh.runLine line s).2

/-- Where some lines lead when they are run one after the other. -/
structure Moves (lines : List String) (s s' : ShellState (Recorded σ))
    (turns : List (String × List Call)) : Prop where
  /-- The lines are run in their order. -/
  lines_eq : turns.map Prod.fst = lines
  /-- Together they ask for what each of them asks for. -/
  continued : s.surroundings.host.Continued s'.surroundings.host (turns.flatMap Prod.snd)
  /-- They lead where the rule leads from line to line. -/
  directory_eq : s'.surroundings.directory =
    journey s.surroundings.home s.surroundings.directory turns
  /-- The home directory stays the same. -/
  home_eq : s'.surroundings.home = s.surroundings.home
  /-- A line that has a place to go to looks it up from the directory in which the lines before it
  have left the shell, and no other line looks up anything. -/
  lookedUp : ∀ i line calls, turns[i]? = some (line, calls) →
    LookedUp (journey s.surroundings.home s.surroundings.directory (turns.take i))
      (errand? s.surroundings.home line calls) (lookups calls)
      (journey s.surroundings.home s.surroundings.directory (turns.take (i + 1)))
  /-- Whatever a line opens counts from the directory in which the lines before it have left the
  shell. -/
  opensFrom : ∀ i line calls, turns[i]? = some (line, calls) →
    OpensFrom (journey s.surroundings.home s.surroundings.directory (turns.take i)) calls

omit [Kernel σ] in
@[simp]
theorem journey_cons (home : Option String) (here : Directory) (turn : String × List Call)
    (turns : List (String × List Call)) :
    journey home here (turn :: turns) = journey home (heading home here turn.1 turn.2) turns := rfl

/-- A line leads to where the lines behind it begin. -/
theorem Moves.cons {lines : List String} {turns : List (String × List Call)}
    (h : Strides line s s' calls) (hrest : Moves lines s' s'' turns) :
    Moves (line :: lines) s s'' ((line, calls) :: turns) := by
  have hheading := h.lookedUp.heading_eq
  have hdirectory := hrest.directory_eq
  have hlookedUp := hrest.lookedUp
  have hopens := hrest.opensFrom
  rw [h.home_eq, ← hheading] at hdirectory hlookedUp hopens
  refine ⟨congrArg (line :: ·) hrest.lines_eq, h.continued.trans hrest.continued, hdirectory,
    hrest.home_eq.trans h.home_eq, fun i line' calls' hi => ?_, fun i line' calls' hi => ?_⟩
  · cases i with
    | zero =>
      cases hi
      have hfirst := h.lookedUp
      rw [← hheading] at hfirst
      exact hfirst
    | succ i => exact hlookedUp i line' calls' hi
  · cases i with
    | zero =>
      cases hi
      exact h.opensFrom
    | succ i => exact hopens i line' calls' hi

/-- Lines that are run one after the other lead where they should. -/
theorem moves_stateAfter (streams : Streams) (lines : List String) (s : ShellState (Recorded σ)) :
    Moves lines s ((⟨.standard, streams⟩ : Interpreter (Recorded σ)).stateAfter lines s)
      ((⟨.standard, streams⟩ : Interpreter (Recorded σ)).turns lines s) := by
  induction lines generalizing s with
  | nil => exact ⟨rfl, .refl _, rfl, rfl, by simp [turns], by simp [turns]⟩
  | cons line lines ih => exact Moves.cons (strides_runLine streams line s) (ih _)

/-- Whatever the lines, the home directory and the answers of the system are, a run of lines leaves
the shell in the directory to which its lines lead. -/
theorem moving_runScript (streams : Streams) (lines : List String) (s : ShellState (Recorded σ)) :
    ∃ count, (⟨.standard, streams⟩ : Interpreter (Recorded σ)).RunsUpTo lines s count ∧
      Moves (lines.take count) s
        ((⟨.standard, streams⟩ : Interpreter (Recorded σ)).runScript lines s).2
        ((⟨.standard, streams⟩ : Interpreter (Recorded σ)).turns (lines.take count) s) := by
  obtain ⟨count, hcount, hstate⟩ :=
    exists_runsUpTo (⟨.standard, streams⟩ : Interpreter (Recorded σ)) lines s
  refine ⟨count, hcount, ?_⟩
  rw [hstate]
  exact moves_stateAfter streams (lines.take count) s

end Interpreter

end

end CommandShell
