import CommandShell.Proofs.ArgumentScan
import CommandShell.Proofs.LineErrors
import CommandShell.Proofs.Numerals
import CommandShell.Proofs.Rendering

/-!
# Leaving the shell

Among the builtins that the shell has by itself only one can end a run of lines, and it does so for
a few forms of its arguments only. Everything else goes on with the next line: a pipeline of
programs whatever its status is, an error, the other builtins whatever becomes of their output, and
a request for the usage text. Only if the user cannot be told, the shell comes down. Main statement:
unless it comes down, a line leaves the shell exactly if it is this builtin alone, its targets can
be opened and its arguments are of such a form, and the status is the one they give
(`Interpreter.stopping_runLine`).
-/

namespace CommandShell

open Shell

variable {σ : Type}

/-! ## Replies -/

/-- A reply after which the shell goes on, whether its output can be written or not. -/
def Reply.Stays (reply : Reply) : Prop :=
  ∀ fault, (reply.verdict fault).outcome.continueLoop = true

theorem Reply.stays_failed (complaint : String) : (Reply.failed complaint).Stays := by
  rintro (_ | fault) <;> rfl

theorem Reply.stays_completed (output : String) (status : Int) :
    (Reply.completed output (.proceed status)).Stays := by
  rintro (_ | fault) <;> rfl

theorem Reply.verdict_usage (name text : String) (status : Int) (fault : Option Fault) :
    ((Reply.usage name text status).verdict fault).outcome = .proceed status := by
  cases fault <;> rfl

theorem Reply.complaint_usage (name text : String) (status : Int) (fault : Option Fault) :
    ((Reply.usage name text status).verdict fault).complaint = none := by
  cases fault <;> rfl

theorem Reply.stays_usage (name text : String) (status : Int) :
    (Reply.usage name text status).Stays := by
  intro fault
  rw [Reply.verdict_usage]
  rfl

section

variable [Kernel σ]

/-- Drawing the conclusion does not change the outcome. -/
theorem Verdict.conclude_fst (v : Verdict) (s : ShellState σ) : (v.conclude s).1 = v.outcome := by
  rw [Verdict.conclude]
  cases v.complaint <;> cases v.event <;> rfl

/-- Writing nothing never fails. -/
theorem writeText_empty (fd : Fd) (s : ShellState σ) : writeText fd "" s = (none, s) := rfl

/-- If there is nothing to tell the user, drawing the conclusion does not bring the shell down. -/
theorem Verdict.downfall_conclude {v : Verdict} (h : v.complaint = none) (s : ShellState σ) :
    (v.conclude s).2.downfall = s.downfall := by
  rw [Verdict.conclude, h]
  cases v.event with
  | none => rfl
  | some event => exact Interpreter.downfall_note event s

/-- Writing the output of a builtin does not bring the shell down. -/
theorem downfall_writeText (fd : Fd) (text : String) (s : ShellState σ) :
    (writeText fd text s).2.downfall = s.downfall :=
  retains_writeText inward_downfall fd text s

/-- The outcome of a reply is that of one of its verdicts, and so is the complaint over which the
shell can come down. Nothing gets lost of a reply without output. -/
theorem Interpreter.deliver_verdict (output : Option Fd) (reply : Reply) (s : ShellState σ) :
    ∃ fault, (Interpreter.deliver output reply s).1 = (reply.verdict fault).outcome ∧
      (reply.output = "" → fault = none) ∧
      ((reply.verdict fault).complaint = none →
        (Interpreter.deliver output reply s).2.downfall = s.downfall) := by
  cases output with
  | some fd =>
    refine ⟨(writeText fd reply.output s).1, Verdict.conclude_fst _ _, fun hempty => ?_,
      fun hnone => ?_⟩
    · rw [hempty, writeText_empty]
    · exact (Verdict.downfall_conclude hnone _).trans (downfall_writeText fd reply.output s)
  | none =>
    refine ⟨forgiveClosed (writeText standardOutput (completeLines reply.output).1 s).1, ?_,
      fun hempty => ?_, fun hnone => ?_⟩
    · simp only [deliver, Reply.deliverToOutput, bind_apply, Verdict.conclude_fst]
      cases forgiveClosed (writeText standardOutput (completeLines reply.output).1 s).1 with
      | some fault => rfl
      | none =>
        simp only [bind_apply]
        generalize (reply.verdict none).conclude
          (writeText standardOutput (completeLines reply.output).1 s).2 = concluded
        cases forgiveClosed (writeText standardOutput (completeLines reply.output).2
          concluded.2).1 <;> rfl
    · rw [hempty]
      rfl
    · have hconcluded := (Verdict.downfall_conclude hnone _).trans
        (downfall_writeText standardOutput (completeLines reply.output).1 s)
      simp only [deliver, Reply.deliverToOutput, bind_apply] at hconcluded ⊢
      cases hfault :
          forgiveClosed (writeText standardOutput (completeLines reply.output).1 s).1 with
      | some fault =>
        rw [hfault] at hconcluded
        exact hconcluded
      | none =>
        rw [hfault] at hconcluded
        simp only [bind_apply]
        generalize (reply.verdict none).conclude
          (writeText standardOutput (completeLines reply.output).1 s).2 = concluded at hconcluded ⊢
        have hrest := (downfall_writeText standardOutput (completeLines reply.output).2
          concluded.2).trans hconcluded
        generalize writeText standardOutput (completeLines reply.output).2 concluded.2 = kept
          at hrest ⊢
        obtain ⟨fault, written⟩ := kept
        cases forgiveClosed fault with
        | none => exact hrest
        | some fault => exact (downfall_note (.outputNotFlushed fault) written).trans hrest

/-- If a reply stays, the shell goes on after it was delivered. -/
theorem Interpreter.proceed_deliver {reply : Reply} (h : reply.Stays) (output : Option Fd)
    (s : ShellState σ) : (deliver output reply s).1.continueLoop = true := by
  obtain ⟨fault, hfault, -⟩ := deliver_verdict output reply s
  rw [hfault]
  exact h fault

/-! ## The builtins that the shell has by itself -/

/-- An action whose reply stays, wherever it is done. -/
def Action.Stays (x : Action σ Reply) : Prop := ∀ w, (x w).1.Stays

omit [Kernel σ] in
theorem Action.Stays.pure {reply : Reply} (h : reply.Stays) : Action.Stays (σ := σ) (pure reply) :=
  fun _ => h

omit [Kernel σ] in
theorem Action.Stays.bind {α : Type} {x : Action σ α} {f : α → Action σ Reply}
    (h : ∀ a, Action.Stays (f a)) : Action.Stays (x >>= f) := fun w => h (x w).1 (x w).2

/-- A builtin after which the shell goes on, whatever its arguments are. -/
def Handler.Stays (handler : Handler σ) : Prop :=
  ∀ argv listing, Action.Stays (handler.invoke argv listing)

omit [Kernel σ] in
/-- The shell goes on after a builtin if it does so whenever the arguments ask for a run. -/
theorem Builtin.stays_handler {α : Type} {b : Builtin σ α}
    (h : ∀ value listing, Action.Stays (b.run value listing)) : b.handler.Stays := by
  intro argv listing
  change Action.Stays (b.answer argv.tail listing)
  rw [Builtin.answer]
  rcases b.grammar.read argv.tail with fault | value | _
  · exact .pure (Reply.stays_usage _ _ _)
  · exact h value listing
  · exact .pure (Reply.stays_usage _ _ _)

theorem Builtin.stays_cd : (cd : Builtin σ _).handler.Stays := by
  refine stays_handler fun target listing => ?_
  refine .bind fun w => ?_
  cases destination target w.home with
  | none => exact .pure (Reply.stays_failed _)
  | some path =>
    refine .bind fun answer => ?_
    rcases answer with fault | canonical
    · exact .pure (Reply.stays_failed _)
    · refine .bind fun entered => ?_
      rcases entered with fault | _
      · exact .pure (Reply.stays_failed _)
      · exact .pure (Reply.stays_completed _ _)

theorem Builtin.stays_pwd : (pwd : Builtin σ _).handler.Stays := by
  refine stays_handler fun _ listing => ?_
  refine .bind fun answer => ?_
  rcases answer with fault | path
  · exact .pure (Reply.stays_failed _)
  · exact .pure (Reply.stays_completed _ _)

omit [Kernel σ] in
theorem Builtin.stays_help : (help : Builtin σ _).handler.Stays :=
  stays_handler fun _ _ => .pure (Reply.stays_completed _ _)

/-- The builtins by their names. -/
theorem Registry.get?_standard (name : String) : (Registry.standard : Registry σ).get? name =
    if name = "pwd" then some Builtin.pwd.handler
    else if name = "help" then some Builtin.help.handler
    else if name = "exit" then some Builtin.exit.handler
    else if name = "cd" then some Builtin.cd.handler else none := by
  simp only [Registry.standard, Registry.with, Registry.get?_insert, Registry.get?_empty]
  rfl

/-- Only one builtin can leave the shell. -/
theorem Registry.stays_standard {name : String} {handler : Handler σ}
    (h : (Registry.standard : Registry σ).get? name = some handler) (hexit : name ≠ "exit") :
    handler.Stays := by
  rw [Registry.get?_standard, if_neg hexit] at h
  split at h
  · cases h
    exact Builtin.stays_pwd
  · split at h
    · cases h
      exact Builtin.stays_help
    · split at h
      · cases h
        exact Builtin.stays_cd
      · cases h

end

/-! ## The words behind the name -/

namespace Builtin

/-- A word is a numeral of a number that can be a status. -/
def IsStatus (word : String) (n : Int) : Prop := Text.Numeral word.toList n ∧ Text.InRange n

/-- The words with which the builtin leaves the shell, and the status that they give. -/
inductive LeavesWith : List String → Int → Prop
  /-- There is no word. -/
  | nothing : LeavesWith [] 0
  /-- There is a status that does not look like an option. -/
  | status {word : String} {n : Int} (h : IsStatus word n)
      (hplain : Grammar.isOption word = false) : LeavesWith [word] n
  /-- There is nothing but the end of the options. -/
  | ending : LeavesWith ["--"] 0
  /-- There is a status behind the end of the options. -/
  | behind {word : String} {n : Int} (h : IsStatus word n) : LeavesWith ["--", word] n
  /-- There is a status in front of the end of the options that does not look like an option. -/
  | before {word : String} {n : Int} (h : IsStatus word n)
      (hplain : Grammar.isOption word = false) : LeavesWith [word, "--"] n

/-- The words with which the builtin shows its usage text: those with which it would leave the
shell, and words in front of the end of the options that ask for it. -/
def ShowsUsage (words : List String) : Prop :=
  Grammar.wantsHelp words = true ∧ ∃ n, LeavesWith (Grammar.withoutHelp words) n

/-- A word that asks for the usage text is no status. -/
theorem IsStatus.asksForHelp {word : String} {n : Int} (h : IsStatus word n) :
    Grammar.asksForHelp word = false := by
  have hread : Text.readInteger word = .ok n := Text.readInteger_eq_ok_iff.mpr h
  rw [Bool.eq_false_iff]
  intro hasks
  rw [Grammar.asksForHelp, Bool.or_eq_true, beq_iff_eq, beq_iff_eq] at hasks
  rcases hasks with rfl | rfl <;> cases hread

/-- A status in front of the end of the options does not look like an option. -/
theorem IsStatus.not_isOption {word : String} {n : Int} (h : IsStatus word n) {rest : List String}
    (hoptionless : Grammar.isOptionless (word :: rest) = true) : Grammar.isOption word = false := by
  have hne : word ≠ Grammar.endOfOptions := by
    rintro rfl
    cases (Text.readInteger_eq_ok_iff.mpr h : Text.readInteger Grammar.endOfOptions = .ok n)
  rw [Grammar.isOptionless_cons hne, h.asksForHelp] at hoptionless
  simpa using (Bool.and_eq_true_iff.mp hoptionless).1

/-- The position takes a status, and there is no other position. -/
theorem fill_exitGrammar_iff {words : List String} {n : Int} :
    Grammar.fill exitGrammar.positionals exitGrammar.start words = some n ↔
      (words = [] ∧ n = 0) ∨ ∃ word, words = [word] ∧ IsStatus word n := by
  cases words with
  | nil => simp [Grammar.fill, exitGrammar, eq_comm]
  | cons word words =>
    have hstatus : ∀ word, IsStatus word n ↔ Text.readInteger word = .ok n :=
      fun _ => Text.readInteger_eq_ok_iff.symm
    simp only [Grammar.fill, exitGrammar, hstatus]
    cases hread : Text.readInteger word with
    | error fault => simp [Except.mapError, hread]
    | ok m => cases words <;> simp [Except.mapError, Grammar.fill, hread]

/-- The builtin leaves the shell with some words, and with no others. -/
theorem read_exitGrammar_iff {words : List String} {n : Int} :
    exitGrammar.read words = .ok (.run n) ↔ LeavesWith words n := by
  rw [Grammar.read_eq_run_iff rfl, fill_exitGrammar_iff]
  constructor
  · rintro ⟨hoptionless, hhelp, hfill⟩
    rcases hfill with ⟨hnone, rfl⟩ | ⟨word, hone, hstatus⟩
    · rcases Grammar.words_cases hhelp with hwords | ⟨before, behind, hwords, hfillers⟩
      · rw [hwords, hnone]
        exact .nothing
      · obtain ⟨rfl, rfl⟩ := List.append_eq_nil_iff.mp (hfillers.symm.trans hnone)
        rw [hwords]
        exact .ending
    · rcases Grammar.words_cases hhelp with hwords | ⟨before, behind, hwords, hfillers⟩
      · rw [hone] at hwords
        subst hwords
        exact .status hstatus (hstatus.not_isOption hoptionless)
      · subst hwords
        rcases List.append_eq_singleton_iff.mp (hfillers.symm.trans hone) with
          ⟨rfl, rfl⟩ | ⟨rfl, rfl⟩
        · exact .behind hstatus
        · exact .before hstatus (hstatus.not_isOption hoptionless)
  · intro h
    cases h with
    | nothing => exact ⟨rfl, rfl, Or.inl ⟨rfl, rfl⟩⟩
    | @status word n hstatus hplain =>
      obtain ⟨hoptionless, hhelp, hfillers⟩ :=
        Grammar.filler_cons hstatus.asksForHelp hplain []
      rw [hoptionless, hhelp, hfillers]
      exact ⟨rfl, rfl, Or.inr ⟨word, rfl, hstatus⟩⟩
    | ending => exact ⟨rfl, rfl, Or.inl ⟨rfl, rfl⟩⟩
    | behind hstatus => exact ⟨rfl, rfl, Or.inr ⟨_, rfl, hstatus⟩⟩
    | @before word n hstatus hplain =>
      obtain ⟨hoptionless, hhelp, hfillers⟩ :=
        Grammar.filler_cons hstatus.asksForHelp hplain ["--"]
      rw [hoptionless, hhelp, hfillers]
      exact ⟨rfl, rfl, Or.inr ⟨word, rfl, hstatus⟩⟩

theorem read_exitGrammar_help_iff {words : List String} :
    exitGrammar.read words = .ok .help ↔ ShowsUsage words := by
  rw [Grammar.read_eq_help_iff rfl, ShowsUsage]
  simp only [read_exitGrammar_iff]

/-- What the builtin that leaves the shell replies to the words behind its name. -/
def exitReply (words : List String) : Reply :=
  match exitGrammar.read words with
  | .ok (.run n) => .completed "" (.leave n)
  | .ok .help => .usage "exit" exitUsage 0
  | .error fault => .usage "exit" fault.message 1

theorem written_exitReply_of_leavesWith {words : List String} {n : Int}
    (h : LeavesWith words n) : (exitReply words).written.outcome = .leave n := by
  rw [exitReply, read_exitGrammar_iff.mpr h]
  rfl

theorem written_exitReply_of_showsUsage {words : List String} (h : ShowsUsage words) :
    (exitReply words).written.outcome = .proceed 0 := by
  rw [exitReply, read_exitGrammar_help_iff.mpr h]
  rfl

/-- The reply to all other words is a failure. -/
theorem written_exitReply_of_not {words : List String} (h : ∀ n, ¬ LeavesWith words n)
    (h' : ¬ ShowsUsage words) : (exitReply words).written.outcome = .proceed 1 := by
  rw [exitReply]
  rcases hread : exitGrammar.read words with fault | n | _
  · rfl
  · exact absurd (read_exitGrammar_iff.mp hread) (h n)
  · exact absurd (read_exitGrammar_help_iff.mp hread) h'

/-- A negative status counts only behind the end of the options. -/
example : (exitReply ["-1"]).written.outcome = .proceed 1 ∧
    (exitReply ["--", "-1"]).written.outcome = .leave (-1) := by
  decide

/-- Only the words for it make the builtin leave the shell. -/
theorem leavesWith_of_exitReply {words : List String}
    (h : (exitReply words).written.outcome.continueLoop = false) :
    ∃ n, LeavesWith words n := by
  rw [exitReply] at h
  rcases hread : exitGrammar.read words with fault | n | _
  · rw [hread] at h
    cases h
  · exact ⟨n, read_exitGrammar_iff.mp hread⟩
  · rw [hread] at h
    cases h

end Builtin

/-! ## Lines -/

namespace Token

/-- A text of characters that can stand in a word can stand as one. -/
theorem isPlain_of_all {text : String} (hne : text ≠ "")
    (h : text.toList.all isWordChar = true) : IsPlain text :=
  ⟨hne, fun c hc => (isWordChar_iff c).mp (List.all_eq_true.mp h c hc)⟩

/-- A digit can stand in a word. -/
theorem isPlain_of_isDigit {c : Char} (h : c.isDigit = true) :
    isBlank c = false ∧ operator? c = none := by
  have hne : ∀ d : Char, d.isDigit = false → c ≠ d := by
    rintro d hd rfl
    rw [h] at hd
    cases hd
  constructor
  · simp [isBlank, hne ' ' rfl, hne '\t' rfl, hne '\r' rfl, hne '\n' rfl, hne '\x0b' rfl,
      hne '\x0c' rfl]
  · simp [operator?, hne '|' rfl, hne '<' rfl, hne '>' rfl]

/-- The decimal form of a number can stand as a word. -/
theorem isPlain_toString (n : Int) : IsPlain (toString n) := by
  obtain ⟨hne, hchars⟩ := (Text.numeral_toString n).chars
  refine ⟨fun hempty => hne (by rw [hempty]; rfl), fun c hc => ?_⟩
  rcases hchars c hc with hdigit | rfl | rfl
  · exact isPlain_of_isDigit hdigit
  · exact ⟨rfl, rfl⟩
  · exact ⟨rfl, rfl⟩

end Token

/-- Calls that open nothing do not matter for what could not be opened. -/
theorem Stage.openFault?_append (stage : Stage) {notes : List Call}
    (h : ∀ call ∈ notes, call.isOpening = false) (calls : List Call) :
    stage.openFault? (notes ++ calls) = stage.openFault? calls := by
  have hread : notes.findSome? Call.unread? = none :=
    List.findSome?_eq_none_iff.2 fun call hcall => Call.unread?_of_not_isOpening (h call hcall)
  have hwritten : notes.findSome? Call.unwritten? = none :=
    List.findSome?_eq_none_iff.2 fun call hcall => Call.unwritten?_of_not_isOpening (h call hcall)
  have htarget : ∀ {refused? : Call → Option (String × Fault)} (path : Option String),
      notes.findSome? refused? = none →
        targetFault? refused? (notes ++ calls) path = targetFault? refused? calls path := by
    intro refused? path hnotes
    cases path <;> simp [targetFault?, List.findSome?_append, hnotes]
  rw [Stage.openFault?, htarget _ hread, htarget _ hwritten, Stage.openFault?]

namespace Interpreter

/-- A line whose only stage is the builtin that leaves the shell. -/
def IsExit (line : String) (stage : Stage) : Prop :=
  ∃ p, Pipeline.ofTokens (Token.scan line) = .ok p ∧ p.single? = some stage ∧
    stage.program = "exit"

section

variable [Kernel σ]

omit [Kernel σ] in
/-- The builtin replies without doing anything else. -/
theorem consult_exit (sh : Interpreter σ) (stage : Stage) (s : ShellState σ) :
    sh.consult Builtin.exit.handler stage s = (Builtin.exitReply stage.arguments, s) := by
  change within (Builtin.exit.answer stage.arguments sh.builtins.listing) s = _
  have hgrammar : (Builtin.exit : Builtin σ Int).grammar = Builtin.exitGrammar := rfl
  rw [Builtin.answer, Builtin.exitReply, hgrammar]
  rcases Builtin.exitGrammar.read stage.arguments with fault | n | _ <;> rfl

/-- What comes of the reply does not depend on what becomes of its output, and there is nothing to
tell the user. -/
theorem deliver_exitReply (words : List String) (output : Option Fd) (s : ShellState σ) :
    (deliver output (Builtin.exitReply words) s).1 =
        (Builtin.exitReply words).written.outcome ∧
      (deliver output (Builtin.exitReply words) s).2.downfall = s.downfall := by
  obtain ⟨fault, hfault, hsilent, hquiet⟩ := deliver_verdict output (Builtin.exitReply words) s
  rw [hfault]
  rw [Builtin.exitReply] at hsilent hquiet ⊢
  rcases hread : Builtin.exitGrammar.read words with refusal | n | _ <;>
    simp only [hread] at hsilent hquiet ⊢
  · exact ⟨Reply.verdict_usage _ _ _ _, hquiet (Reply.complaint_usage _ _ _ _)⟩
  · rw [hsilent rfl] at hquiet ⊢
    exact ⟨rfl, hquiet rfl⟩
  · exact ⟨Reply.verdict_usage _ _ _ _, hquiet (Reply.complaint_usage _ _ _ _)⟩

variable {sh : Interpreter (Recorded σ)} {line : String} {s : ShellState (Recorded σ)}
  {stage : Stage}

/-- What the transcript of a line tells of its targets, if nothing else was opened. -/
theorem openFault?_runLine {notes openings deliveries : List Call}
    {failure : Option (String × Fault)} (hnotes : Noted s.descriptors s.log.stamp notes)
    (hopenings : Openings s.surroundings.directory stage openings failure)
    (hdeliveries : ∀ call ∈ deliveries, call.isTransfer = true)
    (h : Between s (sh.execute line s).2 (notes ++ openings ++ deliveries)) :
    stage.openFault? ((sh.runLine line).transcript s) = failure := by
  obtain ⟨more, hran, hsettling⟩ := between_runLine sh line s h
  rw [hran.transcript_action_eq, List.append_assoc, List.append_assoc,
    stage.openFault?_append fun call hcall =>
      Call.not_isOpening_of_isTransfer (hnotes.isTransfer call hcall)]
  refine hopenings.openFault?_eq (deliveries ++ more) fun call hcall => ?_
  rcases List.mem_append.mp hcall with hcall | hcall
  · exact Call.not_isOpening_of_isTransfer (hdeliveries call hcall)
  · exact Call.not_isOpening_of_isTransfer (hsettling.isTransfer call hcall)

/-- The builtin that leaves the shell is asked if its targets can be opened, and otherwise the line
fails. -/
theorem runLine_exit (hbuiltin : sh.builtins.get? "exit" = some Builtin.exit.handler)
    (h : IsExit line stage) :
    (stage.openFault? ((sh.runLine line).transcript s) = none →
      (sh.runLine line s).1 = (Builtin.exitReply stage.arguments).written.outcome ∧
      (sh.runLine line s).2.downfall = none) ∧
    (stage.openFault? ((sh.runLine line).transcript s) ≠ none →
      (sh.runLine line s).2.downfall = none → (sh.runLine line s).1 = .proceed 1) := by
  obtain ⟨p, hparse, hsingle, hprogram⟩ := h
  have hroute : sh.route p = some (Builtin.exit.handler, stage) := by
    rw [route, hsingle]
    simp only [hprogram, hbuiltin]
    rfl
  rcases (sh.transcribed_execute line s).of_builtin hparse hroute with
    ⟨path, fault, notes, openings, hresult, hnotes, hopenings, hbetween, -⟩ |
    ⟨opened, output, outcome, notes, openings, deliveries, hresult, hnotes, hopenings, hbefore,
      hrespond, hafter, hdeliveries, hready, -⟩
  · have hnothing : ∀ call ∈ ([] : List Call), call.isTransfer = true := by simp
    rw [← List.append_nil (notes ++ openings)] at hbetween
    rw [openFault?_runLine hnotes hopenings hnothing hbetween]
    refine ⟨fun hnone => ?_, fun _ hup => ?_⟩
    · cases hnone
    · rw [runLine_of_error hup hresult]
      rfl
  · rw [respond_apply, consult_exit] at hrespond
    rw [consult_exit] at hafter
    rw [openFault?_runLine hnotes hopenings hdeliveries (hbefore.trans hafter)]
    refine ⟨fun _ => ?_, fun hsome => absurd rfl hsome⟩
    obtain ⟨houtcome, hdown⟩ := deliver_exitReply stage.arguments output opened
    rw [hrespond] at houtcome hdown
    have hup : (sh.runLine line s).2.downfall = none := by
      rw [downfall_runLine_of_ok hresult, hdown, hready]
    exact ⟨(runLine_of_ok hup hresult).trans houtcome, hup⟩

/-- A line of programs does not leave the shell, whatever becomes of them. -/
theorem proceed_settlement {result : Except ShellError Report} {outcome : Outcome}
    (h : settlement result = .ok outcome) : outcome.continueLoop = true := by
  rcases result with error | report
  · cases h
  · rw [settlement] at h
    cases hconclusion : report.conclusion with
    | error error =>
      rw [hconclusion] at h
      cases h
    | ok status =>
      rw [hconclusion] at h
      cases h
      rfl

omit [Kernel σ] in
/-- A pipeline is sent to a builtin if its only stage names one. -/
theorem of_route {p : Pipeline} {handler : Handler (Recorded σ)}
    (h : sh.route p = some (handler, stage)) :
    p.single? = some stage ∧ sh.builtins.get? stage.program = some handler := by
  rw [route] at h
  cases hsingle : p.single? with
  | none =>
    rw [hsingle] at h
    cases h
  | some only =>
    rw [hsingle] at h
    obtain ⟨found, hfound, heq⟩ := Option.map_eq_some_iff.mp h
    cases heq
    exact ⟨rfl, hfound⟩

/-- After every other line the shell goes on, unless it has come down. -/
theorem proceed_runLine (hothers : ∀ name handler, name ≠ "exit" →
      sh.builtins.get? name = some handler → handler.Stays)
    (h : ∀ stage, ¬ IsExit line stage) (hup : (sh.runLine line s).2.downfall = none) :
    (sh.runLine line s).1.continueLoop = true := by
  cases hresult : (sh.execute line s).1 with
  | error error =>
    rw [runLine_of_error hup hresult]
    rfl
  | ok outcome =>
    rw [runLine_of_ok hup hresult]
    have htranscript := sh.transcribed_execute line s
    rw [hresult] at htranscript
    by_cases hblank : Token.scan line = []
    · cases (htranscript.of_blank hblank).1
      rfl
    cases hparse : Pipeline.ofTokens (Token.scan line) with
    | error fault => cases (htranscript.of_malformed hblank hparse).1
    | ok p =>
      cases hroute : sh.route p with
      | none =>
        obtain ⟨s₀, notes, complaints, hsettled, -⟩ := htranscript.of_programs hparse hroute
        exact proceed_settlement hsettled.symm
      | some chosen =>
        obtain ⟨handler, stage⟩ := chosen
        obtain ⟨hsingle, hhandler⟩ := of_route hroute
        rcases htranscript.of_builtin hparse hroute with ⟨path, fault, notes, openings, herror, -⟩ |
          ⟨opened, output, outcome', notes, openings, deliveries, hok, -, -, -, hrespond, -⟩
        · cases herror
        · have hexit : stage.program ≠ "exit" := fun hname => h stage ⟨p, hparse, hsingle, hname⟩
          have hreply : (sh.consult handler stage opened).1.Stays :=
            hothers stage.program handler hexit hhandler stage.argv sh.builtins.listing
              opened.surroundings
          have houtcome := proceed_deliver hreply output (sh.consult handler stage opened).2
          cases hok
          rwa [← respond_apply, hrespond] at houtcome

end

/-- The line that leaves the shell with a status, which may be negative. -/
def leavingLine (n : Int) : String := "exit -- " ++ toString n

/-- What ends a run of lines. -/
structure Stops [Kernel σ] (sh : Interpreter (Recorded σ)) : Prop where
  /-- Unless the shell comes down, a line leaves it exactly if it is the builtin alone, its targets
  can be opened, and it has the words for it. -/
  leaves : ∀ line s, (sh.runLine line s).2.downfall = none →
    ((sh.runLine line s).1.continueLoop = false ↔
      ∃ stage n, IsExit line stage ∧ stage.openFault? ((sh.runLine line).transcript s) = none ∧
        Builtin.LeavesWith stage.arguments n)
  /-- If it comes down, it does not go on. -/
  fallen : ∀ line s, (sh.runLine line s).2.downfall ≠ none → (sh.runLine line s).1 = .down
  /-- It does not come down over the builtin once the targets are open. -/
  survived : ∀ line s stage, IsExit line stage →
    stage.openFault? ((sh.runLine line).transcript s) = none →
    (sh.runLine line s).2.downfall = none
  /-- The status is the one that the words give. -/
  status : ∀ line s stage n, IsExit line stage →
    stage.openFault? ((sh.runLine line).transcript s) = none →
    Builtin.LeavesWith stage.arguments n → (sh.runLine line s).1 = .leave n
  /-- Every number of the range can be the status. -/
  spelled : ∀ n s, Text.InRange n → (sh.runLine (leavingLine n) s).1 = .leave n
  /-- A request for the usage text is a success. -/
  usage : ∀ line s stage, IsExit line stage →
    stage.openFault? ((sh.runLine line).transcript s) = none →
    Builtin.ShowsUsage stage.arguments → (sh.runLine line s).1 = .proceed 0
  /-- All other words are a failure. -/
  refused : ∀ line s stage, IsExit line stage →
    stage.openFault? ((sh.runLine line).transcript s) = none →
    (∀ n, ¬ Builtin.LeavesWith stage.arguments n) → ¬ Builtin.ShowsUsage stage.arguments →
    (sh.runLine line s).1 = .proceed 1
  /-- A target that cannot be opened is a failure. -/
  unopened : ∀ line s stage, IsExit line stage →
    stage.openFault? ((sh.runLine line).transcript s) ≠ none →
    (sh.runLine line s).2.downfall = none → (sh.runLine line s).1 = .proceed 1

/-- The line that leaves the shell with a status is read as such. -/
theorem isExit_leavingLine (n : Int) :
    IsExit (leavingLine n) ⟨"exit", ["--", toString n], none, none⟩ := by
  let p : Pipeline := ⟨⟨"exit", ["--", toString n], none, none⟩, []⟩
  have hplain : ∀ w ∈ ["exit", "--", toString n], Token.IsPlain w := by
    simp only [List.forall_mem_cons, List.not_mem_nil, false_imp_iff, implies_true, and_true]
    exact ⟨Token.isPlain_of_all (by decide) rfl, Token.isPlain_of_all (by decide) rfl,
      Token.isPlain_toString n⟩
  have hwritable : Pipeline.Writable p.items :=
    ⟨List.cons_ne_nil _ _, Pipeline.words_ne_nil, fun items hitems => by
      rw [List.mem_singleton.mp hitems]
      exact ⟨hplain, nofun, nofun⟩⟩
  have hrender : p.render = leavingLine n := by
    have hwords : p.render = " | ".intercalate [" ".intercalate ["exit", "--", toString n]] := rfl
    rw [hwords, leavingLine, String.intercalate_singleton, String.intercalate_cons_cons,
      String.intercalate_cons_cons, String.intercalate_singleton]
    simp [← String.append_assoc]
  obtain ⟨gaps, hspaced⟩ := p.exists_spaced_render
  rw [hrender] at hspaced
  exact ⟨p, Pipeline.ofTokens_spaced hwritable hspaced, rfl, rfl⟩

/-- If the builtin that leaves the shell is under its name and nothing else leaves it, a run of
lines ends where it should. -/
theorem stops_of_builtins [Kernel σ] {sh : Interpreter (Recorded σ)}
    (hbuiltin : sh.builtins.get? "exit" = some Builtin.exit.handler)
    (hothers : ∀ name handler, name ≠ "exit" → sh.builtins.get? name = some handler →
      handler.Stays) : Stops sh := by
  have hopened : ∀ line s stage, IsExit line stage →
      stage.openFault? ((sh.runLine line).transcript s) = none →
      (sh.runLine line s).1 = (Builtin.exitReply stage.arguments).written.outcome ∧
        (sh.runLine line s).2.downfall = none :=
    fun line s stage h => (runLine_exit hbuiltin h).1
  have hunopened : ∀ line s stage, IsExit line stage →
      stage.openFault? ((sh.runLine line).transcript s) ≠ none →
      (sh.runLine line s).2.downfall = none → (sh.runLine line s).1 = .proceed 1 :=
    fun line s stage h => (runLine_exit hbuiltin h).2
  refine ⟨fun line s hup => ⟨fun hleave => ?_, ?_⟩, fun line s hdown => (runLine_of_down hdown).1,
    fun line s stage h hopen => (hopened line s stage h hopen).2,
    fun line s stage n h hopen hwords => ?_,
    fun n s hrange => ?_, fun line s stage h hopen hwords => ?_,
    fun line s stage h hopen hwords husage => ?_, hunopened⟩
  · by_cases hexit : ∃ stage, IsExit line stage
    · obtain ⟨stage, h⟩ := hexit
      by_cases hopen : stage.openFault? ((sh.runLine line).transcript s) = none
      · rw [(hopened line s stage h hopen).1] at hleave
        obtain ⟨n, hwords⟩ := Builtin.leavesWith_of_exitReply hleave
        exact ⟨stage, n, h, hopen, hwords⟩
      · rw [hunopened line s stage h hopen hup] at hleave
        cases hleave
    · rw [proceed_runLine hothers (not_exists.mp hexit) hup] at hleave
      cases hleave
  · rintro ⟨stage, n, h, hopen, hwords⟩
    rw [(hopened line s stage h hopen).1, Builtin.written_exitReply_of_leavesWith hwords]
    rfl
  · rw [(hopened line s stage h hopen).1, Builtin.written_exitReply_of_leavesWith hwords]
  · have hwords : Builtin.LeavesWith ["--", toString n] n :=
      .behind ⟨Text.numeral_toString n, hrange⟩
    rw [(hopened _ s _ (isExit_leavingLine n) rfl).1,
      Builtin.written_exitReply_of_leavesWith hwords]
  · rw [(hopened line s stage h hopen).1, Builtin.written_exitReply_of_showsUsage hwords]
  · rw [(hopened line s stage h hopen).1, Builtin.written_exitReply_of_not hwords husage]

/-- Whatever the system does, a run of lines ends where the builtin for it asks for it, and nowhere
else. -/
theorem stopping_runLine [Kernel σ] (streams : Streams) :
    Stops (⟨.standard, streams⟩ : Interpreter (Recorded σ)) := by
  have hbuiltin : (Registry.standard : Registry (Recorded σ)).get? "exit" =
      some Builtin.exit.handler := by
    rw [Registry.get?_standard]
    rfl
  exact stops_of_builtins hbuiltin fun _ _ hname hget => Registry.stays_standard hget hname

/-- The file for the complaints of this shell is full, and no home directory is set. A line with
nothing but the builtin for directories is an error, but the user cannot be told: the shell comes
down and runs no other line. -/
theorem stopped_of_full :
    (∀ stage, ¬ IsExit "cd" stage) ∧
      (Interpreter.standard.runLine "cd" (Chronicle.shellWith [0, 1, 2] [2] [] [])).1 =
        ⟨false, 101⟩ ∧
      (Interpreter.standard.runLine "cd" (Chronicle.shellWith [0, 1, 2] [] [] [])).1 =
        .proceed 1 := by
  refine ⟨?_, by decide +kernel, by decide +kernel⟩
  rintro stage ⟨p, hparse, hsingle, hprogram⟩
  have hcd : Pipeline.ofTokens (Token.scan "cd") = .ok ⟨⟨"cd", [], none, none⟩, []⟩ :=
    eq_ok_of_toOption (by decide +kernel)
  cases hcd.symm.trans hparse
  cases hsingle
  exact absurd hprogram (by decide)

end Interpreter

end CommandShell
