import CommandShell.Proofs.Confinement
import CommandShell.Proofs.OpenedTargets
import CommandShell.Proofs.SteadfastBuiltins

/-!
# Builtins with redirections

A redirection of a builtin moves its output and does nothing else. The builtin does the same once a
file for its output was made or emptied and a file for its input was opened and closed: what it
looks at are directories, and these are as before. Main statement: a line of a builtin without
redirections and the same line with some of them come to the same outcome in the same directory; the
second one writes to its file what the first one writes to the standard output, and the file holds
just that unless it is also the place for complaints (`Interpreter.redirecting_runLine`).
-/

namespace CommandShell

open Shell
open Machine (State NodeId)

/-! ## The same surroundings -/

namespace ShellState

variable {s t t' : ShellState (Recorded State)}

/-- A shell that was not moved looks as before. -/
theorem Unmoved.resembles (h : s.Unmoved t) (hs : s.machine.tree.Sound) :
    s.surroundings.Resembles t.surroundings :=
  ⟨h.directory_eq, h.home_eq, h.kept.bindings, h.kept.tree.grown, hs, h.kept.tree.sound hs⟩

/-- A shell in which the file for an output was opened looks as before. -/
theorem Redirected.resembles {fd : Fd} {number : Nat} {id : NodeId}
    (h : s.Redirected t fd number id) (hs : s.machine.tree.Sound) :
    s.surroundings.Resembles t.surroundings := by
  obtain ⟨between, hunmoved, hemptied⟩ := h.emptied
  have hsound := hunmoved.kept.tree.sound hs
  exact ⟨h.directory_eq, h.home_eq, hemptied.bindings.trans hunmoved.kept.bindings,
    hunmoved.kept.tree.grown.trans hemptied.tree, hs, hemptied.sound hsound⟩

/-- It looks as a shell that was not moved. -/
theorem Unmoved.resembles_of (h : s.Unmoved t) (h' : s.surroundings.Resembles t'.surroundings) :
    t.surroundings.Resembles t'.surroundings :=
  ⟨h'.directory.trans h.directory_eq.symm, h'.home.trans h.home_eq.symm,
    h'.bindings.trans h.kept.bindings.symm, h.kept.tree.symm.grown.trans h'.tree,
    h.kept.tree.sound h'.sound, h'.sound'⟩

end ShellState

/-! ## Lines -/

/-- Two lines have the same words, the first one without redirections, the second one with an input
and an output, or with one of them, or with none. -/
structure Redirects (line line' : String) (input output : Option String) : Prop where
  items : ∃ items items', Token.scan line = Item.spell items ∧
    Token.scan line' = Item.spell items' ∧ Item.words items' = Item.words items ∧
    items.filterMap Item.input? = [] ∧ items.filterMap Item.output? = [] ∧
    items'.filterMap Item.input? = input.toList ∧ items'.filterMap Item.output? = output.toList

namespace Interpreter

variable {sh : Interpreter (Recorded State)} {line line' : String} {input output : Option String}
  {handler : Handler (Recorded State)} {stage : Stage}

/-- A line with redirections asks the same builtin as the line without them. -/
theorem asked?_of_redirects (h : Redirects line line' input output)
    (hasked : sh.asked? line = some (handler, stage)) :
    sh.asked? line' = some (handler, { stage with input := input, output := output }) ∧
      stage.input = none ∧ stage.output = none := by
  obtain ⟨items, items', hline, hline', hwords, hinput, houtput, hinput', houtput'⟩ := h
  obtain ⟨p, hparse, hsingle, hget⟩ := asked?_eq_some_iff_get?.mp hasked
  have hspelled := Pipeline.ofTokens_eq_ok_iff.mp hparse
  rw [hline, Token.parts_of_pipe_notMem (Item.pipe_notMem_spell items),
    Pipeline.single?_eq_some_iff.mp hsingle] at hspelled
  obtain ⟨spelt, hspelt, hargv, hin, hout⟩ := (List.forall₂_cons.mp hspelled).1
  have hsame : StageItems.ofItems spelt = StageItems.ofItems items := by
    have hsorted := StageItems.ofTokens_spell items
    rw [hspelt, StageItems.ofTokens_spell] at hsorted
    exact Except.ok.inj hsorted
  obtain ⟨hwords', hin', hout'⟩ := StageItems.mk.inj hsame
  refine ⟨?_, by rw [hin, hin', Item.lastInput?, hinput]; rfl,
    by rw [hout, hout', Item.lastOutput?, houtput]; rfl⟩
  refine asked?_eq_some_iff_get?.mpr
    ⟨⟨{ stage with input := input, output := output }, []⟩, ?_, rfl, hget⟩
  have hlast (target : Option String) : target.toList.getLast? = target := by cases target <;> rfl
  refine Pipeline.ofTokens_eq_ok_iff.mpr ?_
  rw [hline', Token.parts_of_pipe_notMem (Item.pipe_notMem_spell items')]
  refine .cons ⟨items', rfl, (hargv.trans hwords').trans hwords.symm, ?_, ?_⟩ .nil
  · rw [Item.lastInput?, hinput', hlast]
  · rw [Item.lastOutput?, houtput', hlast]

/-! ## Runs -/

/-- All that a line asks for when it asks a builtin and the output arrives at a place: the log and
the files for its redirections come first, then what the builtin asks, then its output and at last
what the user is told. -/
def OutputArrives (s : ShellState (Recorded State)) (stage : Stage) (goal : Resource)
    (bytes : Bytes) (calls : List Call) : Prop :=
  ∃ notes openings enquiries deliveries complaints,
    calls = notes ++ openings ++ (enquiries ++ (deliveries ++ complaints)) ∧
    Noted s.descriptors s.log.stamp notes ∧
    Openings s.surroundings.directory stage openings none ∧
    (∀ call ∈ enquiries, call.isEnquiry = true) ∧
    Poured goal bytes deliveries ∧
    Complained s.descriptors complaints

variable {s opened : ShellState (Recorded State)} {slot : Slot Resource}

/-- Where complaints do not go, nothing is written but output. -/
theorem OutputArrives.bytesWritten_eq_deliveries {goal other : Resource} {bytes : Bytes}
    {calls : List Call} (h : OutputArrives s stage goal bytes calls)
    (hslot : s.descriptors.get? standardError = some slot) (hother : slot.target ≠ other) :
    ∃ deliveries, Poured goal bytes deliveries ∧
      bytesWritten other calls = bytesWritten other deliveries := by
  obtain ⟨notes, openings, enquiries, deliveries, complaints, rfl, hnotes, hopenings, henquiries,
    hpoured, hcomplained⟩ := h
  have hnoted := hnotes.bytesWritten_eq_nil hslot hother
  have hopened : bytesWritten other openings = [] :=
    bytesWritten_eq_nil fun call hcall =>
      Call.writtenTo?_of_step (Call.not_isTransfer_of_isOpening (hopenings.isOpening call hcall)) _
  have hasked : bytesWritten other enquiries = [] := by
    refine bytesWritten_eq_nil fun call hcall => Call.writtenTo?_of_step ?_ _
    have henquiry := henquiries call hcall
    cases call <;> first | rfl | cases henquiry
  have htold : bytesWritten other complaints = [] := by
    rcases hcomplained with rfl | ⟨text, htold⟩
    · rfl
    · refine htold.bytesWritten_eq_nil fun slot' hslot' => ?_
      rw [hslot] at hslot'
      cases hslot'
      exact hother
  refine ⟨deliveries, hpoured, ?_⟩
  simp only [bytesWritten_append, hnoted, hopened, hasked, htold, List.append_nil, List.nil_append]

/-- All that is written to the place of the output is output. -/
theorem OutputArrives.bytesWritten_eq {goal : Resource} {bytes : Bytes} {calls : List Call}
    (h : OutputArrives s stage goal bytes calls)
    (hslot : s.descriptors.get? standardError = some slot) (hcomplaints : slot.target ≠ goal) :
    bytesWritten goal calls = bytes := by
  obtain ⟨deliveries, hpoured, heq⟩ := h.bytesWritten_eq_deliveries hslot hcomplaints
  rw [heq, hpoured.bytesWritten_eq]

/-- Nothing is written to a place other than that of the output and that of complaints. -/
theorem OutputArrives.bytesWritten_of_ne {goal other : Resource} {bytes : Bytes}
    {calls : List Call} (h : OutputArrives s stage goal bytes calls) (hgoal : goal ≠ other)
    (hslot : s.descriptors.get? standardError = some slot) (hcomplaints : slot.target ≠ other) :
    bytesWritten other calls = [] := by
  obtain ⟨deliveries, hpoured, heq⟩ := h.bytesWritten_eq_deliveries hslot hcomplaints
  rw [heq]
  refine CommandShell.bytesWritten_eq_nil fun call hcall => ?_
  obtain ⟨piece, rfl⟩ := hpoured.exists_piece call hcall
  exact if_neg hgoal

/-- What a builtin replies to a stage. -/
def replyTo (sh : Interpreter (Recorded State)) (handler : Handler (Recorded State)) (stage : Stage)
    (s : ShellState (Recorded State)) : Reply :=
  (handler.invoke stage.argv sh.builtins.listing s.surroundings).1

/-- In surroundings with the same directories it does the same, whatever is redirected. -/
theorem replyTo_alike (hsteadfast : handler.Steadfast) (sh : Interpreter (Recorded State))
    (stage : Stage) (input output : Option String) {t t' : ShellState (Recorded State)}
    (h : t.surroundings.Resembles t'.surroundings) :
    (sh.replyTo handler stage t).Alike
      (sh.replyTo handler { stage with input := input, output := output } t') ∧
    (handler.invoke stage.argv sh.builtins.listing t'.surroundings).2.directory =
      (handler.invoke stage.argv sh.builtins.listing t.surroundings).2.directory :=
  (hsteadfast stage.argv sh.builtins.listing).alike _ _ h

/-- A shell in which a builtin was asked. -/
def Consulted (s t : ShellState (Recorded State)) : Prop :=
  ∃ calls bindings, (∀ call ∈ calls, call.isEnquiry = true) ∧ t.descriptors = s.descriptors ∧
    t.surroundings.host = ⟨{ s.machine with bindings := bindings }, s.transcript ++ calls⟩

/-- A builtin that looks for directories only leaves everything else alone. -/
theorem consulted_consult (hsteadfast : handler.Steadfast) (sh : Interpreter (Recorded State))
    (stage : Stage) (s : ShellState (Recorded State)) :
    Consulted s (sh.consult handler stage s).2 := by
  obtain ⟨calls, bindings, hcalls, hhost⟩ :=
    (hsteadfast stage.argv sh.builtins.listing).asks s.surroundings
  exact ⟨calls, bindings, hcalls, rfl, hhost⟩

theorem Consulted.accepts {t : ShellState (Recorded State)} {goal : Resource} (h : Consulted s t)
    (haccepts : s.machine.Accepts goal) : t.machine.Accepts goal := by
  obtain ⟨calls, bindings, -, -, hhost⟩ := h
  rw [ShellState.machine, hhost]
  exact haccepts.withBindings bindings

/-- The user is told as much as before. -/
theorem Consulted.refusal?_eq {t : ShellState (Recorded State)} (h : Consulted s t) :
    t.refusal? = s.refusal? := by
  obtain ⟨calls, bindings, -, hdescriptors, hhost⟩ := h
  rw [ShellState.refusal?, ShellState.refusal?, ShellState.machine, hdescriptors, hhost]
  refine Option.bind_congr fun slot _ => congrArg fatal? ?_
  exact State.answerTo_congr (fun _ _ => rfl) fun _ => Iff.rfl

/-- A line whose targets are open comes to what is left when the reply was delivered. -/
theorem runLine_of_prepared (hasked : sh.asked? line = some (handler, stage)) {output : Option Fd}
    (hopen : prepare line stage s = (.ok output, opened)) {result : Outcome × ShellState _}
    (hend : deliver output (sh.consult handler stage opened).1
      (sh.consult handler stage opened).2 = result) :
    sh.runLine line s = keepStatus result.1 result.2 := by
  have hrun := execute_of_prepared hasked hopen
  rw [hend] at hrun
  exact runLine_eq_keepStatus hrun

theorem Consulted.fileBehind?_eq {t : ShellState (Recorded State)} (h : Consulted s t) (fd : Fd) :
    t.fileBehind? fd = s.fileBehind? fd := by
  obtain ⟨calls, bindings, -, hdescriptors, hhost⟩ := h
  rw [ShellState.fileBehind?, ShellState.fileBehind?, ShellState.machine, hdescriptors, hhost]
  rfl

/-- The file that was opened for the output of a line holds it in the end. -/
theorem content?_runLine (hs : s.Standing) (hasked : sh.asked? line = some (handler, stage))
    (hsteadfast : handler.Steadfast) {fd : Fd} {number : Nat} {id : NodeId}
    (hopen : prepare line stage s = (.ok (some fd), opened))
    (hredirected : s.Redirected opened fd number id)
    (haside : s.fileBehind? standardError ≠ some id) :
    (sh.runLine line s).2.machine.tree.content? id =
      some (.regular (Machine.Tool.pack (utf8 (sh.replyTo handler stage opened).output))) := by
  have hconsulted := consulted_consult hsteadfast sh stage opened
  have hbehind := (hconsulted.fileBehind?_eq standardError).trans (hredirected.fileBehind?_eq hs)
  obtain ⟨calls, bindings, -, hdescriptors, hhost⟩ := hconsulted
  obtain ⟨between, -, hemptied⟩ := hredirected.emptied
  have hmachine : (sh.consult handler stage opened).2.machine =
      { opened.machine with bindings := bindings } := congrArg Recorded.host hhost
  have hslot : (sh.consult handler stage opened).2.descriptors.get? fd =
      some ⟨.file number, true⟩ := by rw [hdescriptors, hredirected.opens]
  rw [ShellState.machine, runLine_of_prepared hasked hopen rfl, surroundings_keepStatus]
  refine content?_deliver hslot rfl ?_ ?_ ?_ _
  · rw [hmachine]
    exact hemptied.getElem?_files
  · rw [hmachine]
    exact hemptied.empty
  · rwa [hbehind]

/-- A complaint is in the file that was opened for the output, if the descriptor for complaints
leads to the end of the same file. -/
theorem content?_runLine_failed (hs : s.Standing) (hasked : sh.asked? line = some (handler, stage))
    (hsteadfast : handler.Steadfast) {fd : Fd} {number : Nat} {file : Machine.OpenFile}
    (hopen : prepare line stage s = (.ok (some fd), opened))
    (hredirected : s.Redirected opened fd number file.node) {complaint : String}
    (hreply : sh.replyTo handler stage opened = .failed complaint) {n : Nat} {inheritable : Bool}
    (hslot : s.descriptors.get? standardError = some ⟨.file n, inheritable⟩)
    (hfile : s.machine.files[Machine.Key.ofShell n]? = some file)
    (hwrites : file.mode.writes = true) (hend : file.mode.atEnd = true) :
    (sh.runLine line s).2.machine.tree.content? file.node =
      some (.regular (Machine.Tool.pack (utf8 (complaint ++ "\n")))) := by
  obtain ⟨calls, bindings, -, hdescriptors, hhost⟩ := consulted_consult hsteadfast sh stage opened
  obtain ⟨between, hunmoved, hemptied⟩ := hredirected.emptied
  -- Complaints go to a file that is open as before, but was emptied.
  have hold : (Machine.Key.ofShell n).IsOld s.fresh :=
    Machine.Key.isOld_ofShell (hs.numbered _ _ hslot)
  obtain ⟨file', hfile', hnode, hmode⟩ := hunmoved.kept.exists_file hold hfile
  have hopened : opened.machine.files[Machine.Key.ofShell n]? = some file' := by
    rw [hemptied.files, State.getElem?_insert_of_isOld hold hredirected.fresh_le, hfile']
  have hempty := hemptied.empty
  rw [← hnode] at hempty ⊢
  have hmachine : (sh.consult handler stage opened).2.machine =
      { opened.machine with bindings := bindings } := congrArg Recorded.host hhost
  have hslot' : (sh.consult handler stage opened).2.descriptors.get? standardError =
      some ⟨.file n, inheritable⟩ := by rw [hdescriptors, hredirected.get?_standardError hs, hslot]
  have hconsult : (sh.consult handler stage opened).1 = .failed complaint := hreply
  rw [ShellState.machine, runLine_of_prepared hasked hopen rfl, surroundings_keepStatus, hconsult]
  refine content?_deliver_failed hslot' ?_ (by rw [hmode, hwrites]) (by rw [hmode, hend]) ?_ fd
    complaint
  · rw [hmachine]
    exact hopened
  · rw [hmachine]
    exact hempty

/-- What comes of a line if the targets of its builtin are open and the output arrives. -/
structure Arrived (sh : Interpreter (Recorded State)) (handler : Handler (Recorded State))
    (stage : Stage) (s opened : ShellState (Recorded State)) (goal : Resource)
    (result : Outcome × ShellState (Recorded State)) : Prop where
  /-- The outcome is that of the reply, unless the shell comes down over it. -/
  outcome_eq : result.1 =
    if ((sh.replyTo handler stage opened).refused? s.refusal?).isSome then .down
    else (sh.replyTo handler stage opened).written.outcome
  /-- The working directory is the one where the builtin has gone. -/
  directory_eq : result.2.surroundings.directory =
    (handler.invoke stage.argv sh.builtins.listing opened.surroundings).2.directory
  /-- The output arrives. -/
  arrives : ∃ calls, result.2.transcript = s.transcript ++ calls ∧
    OutputArrives s stage goal (utf8 (sh.replyTo handler stage opened).output) calls

/-- The output of a builtin arrives at a place that takes it. -/
theorem arrived_runLine (hasked : sh.asked? line = some (handler, stage))
    (hsteadfast : handler.Steadfast) {output : Option Fd}
    (hopen : prepare line stage s = (.ok output, opened))
    (hcomplaints : opened.descriptors.get? standardError = s.descriptors.get? standardError)
    (hrefusal : opened.refusal? = s.refusal?)
    (hslot : opened.descriptors.get? (output.getD standardOutput) = some slot)
    (haccepts : opened.machine.Accepts slot.target) :
    Arrived sh handler stage s opened slot.target (sh.runLine line s) := by
  obtain ⟨notes, openings, failure, hbetween, hnotes, hopenings, hfails⟩ := between_prepare hopen
  have hnone : failure = none := by
    cases failure with
    | none => rfl
    | some failure => cases hfails
  subst hnone
  have hconsulted := consulted_consult hsteadfast sh stage opened
  obtain ⟨enquiries, bindings, henquiries, hdescriptors, hhost⟩ := id hconsulted
  have hdelivered := delivered_deliver (s := (sh.consult handler stage opened).2)
    (by rw [hdescriptors]; exact hslot) (hconsulted.accepts haccepts)
    (sh.consult handler stage opened).1
  generalize hend : deliver output (sh.consult handler stage opened).1
    (sh.consult handler stage opened).2 = result at hdelivered
  obtain ⟨houtcome, hdown, hdirectory, deliveries, complaints, hcalls, hpoured, hcomplained⟩ :=
    hdelivered
  have hup : (sh.consult handler stage opened).2.downfall = none := by
    have hprepared := downfall_prepare line stage s
    rwa [hopen] at hprepared
  rw [hconsulted.refusal?_eq, hrefusal, hup, Option.or_none] at hdown
  have hkept := surroundings_keepStatus result.1 result.2
  rw [runLine_of_prepared hasked hopen hend]
  refine ⟨?_, by rw [hkept]; exact hdirectory,
    notes ++ openings ++ (enquiries ++ (deliveries ++ complaints)), ?_, notes, openings, enquiries,
    deliveries, complaints, rfl, hnotes, hopenings, henquiries, hpoured, ?_⟩
  · rw [keepStatus_fst, hdown, houtcome]
    rfl
  · have hasked' : (sh.consult handler stage opened).2.transcript =
        opened.transcript ++ enquiries := congrArg Recorded.calls hhost
    have htranscript : (keepStatus result.1 result.2).2.transcript = result.2.transcript :=
      congrArg (Recorded.calls ∘ Surroundings.host) hkept
    rw [htranscript, hcalls, hasked', hbetween.transcript_eq]
    simp only [List.append_assoc]
  · rcases hcomplained with hnothing | ⟨text, htold⟩
    · exact .inl hnothing
    · refine .inr ⟨text, ?_⟩
      rw [hdescriptors] at htold
      exact htold.of_get?_eq hcomplaints

/-- Without a file for it the output arrives where the standard output leads. -/
theorem exists_arrived_plain (hasked : sh.asked? line = some (handler, stage))
    (hsteadfast : handler.Steadfast)
    (hinput : ∀ path, stage.input = some path → s.Readable path) (houtput : stage.output = none)
    (hslot : s.descriptors.get? standardOutput = some slot) (hnumbered : Numbered s)
    (haccepts : s.machine.Accepts slot.target) :
    ∃ opened, s.Unmoved opened ∧
      Arrived sh handler stage s opened slot.target (sh.runLine line s) := by
  obtain ⟨opened, hopen, hunmoved⟩ := exists_prepare_plain line stage hinput houtput
  have hnumber := hnumbered _ slot hslot
  refine ⟨opened, hunmoved, arrived_runLine hasked hsteadfast hopen ?_
    (hunmoved.refusal?_eq hnumbered) ?_ ?_⟩
  · rw [hunmoved.descriptors_eq]
  · rw [hunmoved.descriptors_eq]
    exact hslot
  · exact hunmoved.kept.accepts hnumber haccepts

/-- The output arrives in the file that is opened for it. -/
theorem exists_arrived_redirected (hs : s.Standing)
    (hasked : sh.asked? line = some (handler, stage)) (hsteadfast : handler.Steadfast)
    (hinput : ∀ path, stage.input = some path → s.Readable path) {path : String}
    (houtput : stage.output = some path) {id : NodeId} (hwritable : s.Writable path id) :
    ∃ opened fd number, prepare line stage s = (.ok (some fd), opened) ∧
      s.Redirected opened fd number id ∧
      Arrived sh handler stage s opened (.file number) (sh.runLine line s) := by
  obtain ⟨fd, opened, number, hopen, hredirected⟩ :=
    exists_prepare_redirected line stage hs hinput houtput hwritable
  obtain ⟨between, -, hemptied⟩ := hredirected.emptied
  exact ⟨opened, fd, number, hopen, hredirected, arrived_runLine hasked hsteadfast hopen
    (hredirected.get?_standardError hs) (hredirected.refusal?_eq hs) hredirected.opens
    hemptied.accepts⟩

/-- Replies that differ in a complaint at most bring the shell down alike. -/
theorem refused?_alike {reply reply' : Reply} (h : reply.Alike reply') (refusal : Option Errno) :
    reply'.refused? refusal = reply.refused? refusal := by
  cases h <;> rfl

/-- Runs of the same builtin in shells that look alike come to the same. -/
theorem Arrived.agree {opened' : ShellState (Recorded State)} {goal goal' : Resource}
    {plain moved : Outcome × ShellState (Recorded State)}
    (h : Arrived sh handler stage s opened goal plain)
    (h' : Arrived sh handler { stage with input := input, output := output } s opened' goal' moved)
    (hsteadfast : handler.Steadfast)
    (hresembles : opened.surroundings.Resembles opened'.surroundings) :
    moved.1 = plain.1 ∧ moved.2.surroundings.directory = plain.2.surroundings.directory ∧
      (sh.replyTo handler { stage with input := input, output := output } opened').output =
        (sh.replyTo handler stage opened).output := by
  obtain ⟨halike, hthere⟩ := replyTo_alike hsteadfast sh stage input output hresembles
  refine ⟨?_, ?_, halike.output_eq⟩
  · rw [h.outcome_eq, h'.outcome_eq, halike.outcome_eq, refused?_alike halike]
  · rw [h.directory_eq, h'.directory_eq]
    exact hthere

/-- What a run of a line without redirections and a run of the same line with some have in
common. -/
structure Moved (s : ShellState (Recorded State)) (stage : Stage) (input output : Option String)
    (bytes : Bytes) (plain moved : Outcome × ShellState (Recorded State)) : Prop where
  /-- The status is the same, and so is whether the shell goes on. -/
  outcome_eq : moved.1 = plain.1
  /-- The runs end in the same directory. -/
  directory_eq : moved.2.surroundings.directory = plain.2.surroundings.directory
  /-- Without redirections the output arrives where the standard output leads. -/
  prints : ∀ slot, s.descriptors.get? standardOutput = some slot → ∃ calls,
    plain.2.transcript = s.transcript ++ calls ∧ OutputArrives s stage slot.target bytes calls
  /-- A redirection of the input makes no difference to that. -/
  stays : output = none → ∀ slot, s.descriptors.get? standardOutput = some slot → ∃ calls,
    moved.2.transcript = s.transcript ++ calls ∧
      OutputArrives s { stage with input := input, output := none } slot.target bytes calls
  /-- A redirection of the output brings the same output to a new file. -/
  moves : output.isSome → ∃ number calls, s.fresh ≤ number ∧
    moved.2.transcript = s.transcript ++ calls ∧
      OutputArrives s { stage with input := input, output := output } (.file number) bytes calls
  /-- Then nothing is written to the standard output, unless it is where complaints go. -/
  silent : output.isSome → ∀ slot slot', s.descriptors.get? standardOutput = some slot →
    s.descriptors.get? standardError = some slot' → slot'.target ≠ slot.target →
      ∀ calls, moved.2.transcript = s.transcript ++ calls → bytesWritten slot.target calls = []
  /-- The file holds the output and nothing else, unless complaints go to it. -/
  holds : ∀ path id, output = some path → s.Writable path id →
    s.fileBehind? standardError ≠ some id →
      moved.2.machine.tree.content? id = some (.regular (Machine.Tool.pack bytes))

/-- A redirection moves the output of a builtin and does nothing else. -/
theorem redirecting_runLine (hs : s.Standing) (hasked : sh.asked? line = some (handler, stage))
    (hhandler : Registry.standard.get? stage.program = some handler ∨ handler.Secluded)
    (hlines : Redirects line line' input output)
    (hwrites : ∃ slot, s.descriptors.get? standardOutput = some slot ∧
      s.machine.Accepts slot.target)
    (hinput : ∀ path, input = some path → s.Readable path)
    (houtput : ∀ path, output = some path → ∃ id, s.Writable path id) :
    ∃ bytes, Moved s stage input output bytes (sh.runLine line s) (sh.runLine line' s) := by
  have hsteadfast : handler.Steadfast := hhandler.elim Registry.steadfast_standard (·.steadfast)
  obtain ⟨hasked', hunfed, hplain⟩ := asked?_of_redirects hlines hasked
  obtain ⟨slot, hslot, haccepts⟩ := hwrites
  obtain ⟨opened, hunmoved, harrived⟩ := exists_arrived_plain hasked hsteadfast
    (by rw [hunfed]; intro path hpath; cases hpath) hplain hslot hs.numbered haccepts
  have hprints : ∀ slot, s.descriptors.get? standardOutput = some slot → ∃ calls,
      (sh.runLine line s).2.transcript = s.transcript ++ calls ∧
        OutputArrives s stage slot.target
          (utf8 (sh.replyTo handler stage opened).output) calls := by
    intro slot' hslot'
    rw [hslot] at hslot'
    cases hslot'
    exact harrived.arrives
  refine ⟨utf8 (sh.replyTo handler stage opened).output, ?_⟩
  cases output with
  | none =>
    obtain ⟨opened', hunmoved', harrived'⟩ :=
      exists_arrived_plain hasked' hsteadfast hinput rfl hslot hs.numbered haccepts
    obtain ⟨houtcome, hdirectory, hsame⟩ := harrived.agree harrived' hsteadfast
      (hunmoved.resembles_of (hunmoved'.resembles hs.sound))
    refine ⟨houtcome, hdirectory, hprints, fun _ slot' hslot' => ?_, fun hsome => (by cases hsome),
      fun hsome => (by cases hsome), fun path id hpath => (by cases hpath)⟩
    rw [hslot] at hslot'
    cases hslot'
    rw [← hsame]
    exact harrived'.arrives
  | some path =>
    obtain ⟨id, hwritable⟩ := houtput path rfl
    obtain ⟨opened', fd, number, hopen, hredirected, harrived'⟩ :=
      exists_arrived_redirected hs hasked' hsteadfast hinput rfl hwritable
    obtain ⟨houtcome, hdirectory, hsame⟩ := harrived.agree harrived' hsteadfast
      (hunmoved.resembles_of (hredirected.resembles hs.sound))
    refine ⟨houtcome, hdirectory, hprints, fun hnone => (by cases hnone), fun _ => ?_,
      fun _ slot₁ slot₂ hslot₁ hslot₂ hne calls hcalls => ?_,
      fun path' id' hpath hwritable' haside => ?_⟩
    · obtain ⟨calls, hcalls, harrives⟩ := harrived'.arrives
      rw [← hsame]
      exact ⟨number, calls, hredirected.fresh_le, hcalls, harrives⟩
    · obtain ⟨calls', hcalls', harrives⟩ := harrived'.arrives
      rw [hcalls', List.append_cancel_left_eq] at hcalls
      subst hcalls
      refine harrives.bytesWritten_of_ne (fun hfile => ?_) hslot₂ hne
      -- The number of the file is a new one, that of the standard output is not.
      have hold := hs.numbered _ slot₁ hslot₁
      rw [← hfile] at hold
      exact Nat.not_lt.mpr hredirected.fresh_le hold
    · cases hpath
      have hfile : id' = id :=
        Option.some.inj (hwritable'.opens.file.symm.trans hwritable.opens.file)
      subst hfile
      rw [← hsame]
      exact content?_runLine hs hasked' hsteadfast hopen hredirected haside

end Interpreter

/-! ## A shell at a desk -/

namespace Machine

/-- A tree with a name for the descriptor for complaints and with two files. -/
def deskTree : Tree :=
  let t := (Tree.empty.create Tree.root [101] ⟨.descriptor standardError, 0o700, 0⟩).2
  let t := (t.create Tree.root [112] ⟨.regular (Tool.pack [120]), 0o644, 0⟩).2
  (t.create Tree.root [113] ⟨.regular .empty, 0o644, 0⟩).2

/-- An empty stream, to whose end is written. -/
def emptyStream : Stream := ⟨.empty, .append⟩

/-- A shell with these files and the standard streams, without a home directory. -/
def deskShell : ShellState (Recorded State) :=
  (Setup.mk deskTree "/" none [] [emptyStream, emptyStream, emptyStream] ⟨.error, ""⟩).boot.recorded

theorem sound_deskTree : deskTree.Sound := by
  have hproper : IsEntryName [101] ∧ IsEntryName [112] ∧ IsEntryName [113] := by
    refine ⟨⟨?_, ?_, ?_, ?_, ?_⟩, ⟨?_, ?_, ?_, ?_, ?_⟩, ⟨?_, ?_, ?_, ?_, ?_⟩⟩ <;> decide
  refine ((Tree.sound_empty.create (by decide) hproper.1 ?_).create (by decide) hproper.2.1
    ?_).create (by decide) hproper.2.2 ?_
  all_goals
    intro above entries hcontent
    cases hcontent

theorem standing_deskShell : deskShell.Standing := standing_boot _ sound_deskTree (by decide)

theorem directory_deskShell : deskShell.surroundings.directory = Tree.root := by
  have hopen : deskTree.openDirectory Tree.root (utf8 "/") = .ok Tree.root := by
    have hroot : utf8 "/" = [Ascii.slash] := by rw [utf8_eq]; decide
    rw [Tree.openDirectory, hroot, sound_deskTree.find_root]
    rfl
  change (deskTree.openDirectory Tree.root (utf8 "/")).toOption.getD Tree.root = _
  rw [hopen]
  rfl

/-- The streams are files without names. -/
theorem getElem?_deskShell :
    deskShell.machine.files[Key.ofShell standardOutput]? = some ⟨5, 0, .append⟩ ∧
      deskShell.machine.files[Key.ofShell standardError]? = some ⟨6, 0, .append⟩ := by
  have hfiles : deskShell.machine.files = ((({} : Std.HashMap Key OpenFile).insert (.ofShell 0)
    ⟨4, 0, .append⟩).insert (.ofShell standardOutput) ⟨5, 0, .append⟩).insert
    (.ofShell standardError) ⟨6, 0, .append⟩ := rfl
  rw [hfiles]
  refine ⟨?_, Std.HashMap.getElem?_insert_self⟩
  rw [Std.HashMap.getElem?_insert, Std.HashMap.getElem?_insert_self]
  rfl

theorem accepts_deskShell : deskShell.machine.Accepts (.file standardOutput) :=
  State.accepts_file_iff.mpr ⟨_, getElem?_deskShell.1, rfl, by
    rw [show deskShell.machine.tree.content? 5 = some (.regular .empty) from rfl]
    simp⟩

/-- One of the files can be read. -/
theorem readable_deskShell : deskShell.Readable "q" := by
  have hname : utf8 "q" = [113] := by rw [utf8_eq]; decide
  have hcontent : deskShell.machine.tree.content? 3 = some (.regular .empty) := rfl
  have hleads : deskShell.machine.LeadsTo 3 3 := .itself (by simp [hcontent]) (by simp [hcontent])
  refine ShellState.readable_of_holds standing_deskShell.sound rfl (by decide) ?_ ?_ hleads
  · rw [hname, directory_deskShell]
    exact ⟨_, _, rfl, rfl⟩
  · simp [Tree.IsNoLink, hcontent]

/-- The other one can be written. -/
theorem writable_deskShell : deskShell.Writable "p" 2 := by
  have hname : utf8 "p" = [112] := by rw [utf8_eq]; decide
  have hcontent : deskShell.machine.tree.content? 2 = some (.regular (Tool.pack [120])) := rfl
  have hleads : deskShell.machine.LeadsTo 2 2 := .itself (by simp [hcontent]) (by simp [hcontent])
  refine ShellState.writable_of_holds standing_deskShell.sound rfl (by decide) ?_ ?_ rfl hleads
    hcontent
  · rw [hname, directory_deskShell]
    exact ⟨_, _, rfl, rfl⟩
  · simp [Tree.IsNoLink, hcontent]

/-- There is a name for the place where complaints go. -/
theorem writable_deskShell_complaints : deskShell.Writable "e" 6 := by
  have hname : utf8 "e" = [101] := by rw [utf8_eq]; decide
  have hcontent : deskShell.machine.tree.content? 1 = some (.descriptor standardError) := rfl
  have hregular : deskShell.machine.tree.content? 6 = some (.regular .empty) := rfl
  have hslot : deskShell.machine.shell.get? standardError =
      some ⟨.file (.ofShell standardError), false⟩ := rfl
  have hleads : deskShell.machine.LeadsTo 1 6 :=
    .again standardError _ _ _ hcontent hslot rfl getElem?_deskShell.2
  refine ShellState.writable_of_holds standing_deskShell.sound rfl (by decide) ?_ ?_ rfl hleads
    hregular
  · rw [hname, directory_deskShell]
    exact ⟨_, _, rfl, rfl⟩
  · simp [Tree.IsNoLink, hcontent]

end Machine

namespace Interpreter

open Machine

/-- What is asked by a word alone. -/
theorem asked?_word {sh : Interpreter (Recorded State)} {line word : String}
    {handler : Handler (Recorded State)} (hline : Token.scan line = [.word word])
    (hget : sh.builtins.get? word = some handler) :
    sh.asked? line = some (handler, ⟨word, [], none, none⟩) :=
  asked?_eq_some_iff_get?.mpr ⟨⟨⟨word, [], none, none⟩, []⟩, by rw [hline]; rfl, rfl, hget⟩

/-- At the desk the working directory is shown in a file. -/
theorem redirecting_runLine_desk :
    deskShell.Standing ∧
    Interpreter.standard.asked? "pwd" =
      some ((Builtin.pwd.handler : Handler (Recorded State)), ⟨"pwd", [], none, none⟩) ∧
    Redirects "pwd" "pwd > p < q" (some "q") (some "p") ∧
    deskShell.Readable "q" ∧ deskShell.Writable "p" 2 ∧
    ∃ bytes, Moved deskShell ⟨"pwd", [], none, none⟩ (some "q") (some "p") bytes
      (standard.runLine "pwd" deskShell) (standard.runLine "pwd > p < q" deskShell) := by
  have hget : (Registry.standard (σ := Recorded State)).get? "pwd" = some Builtin.pwd.handler := by
    rw [Registry.get?_standard]
    rfl
  have hasked : standard.asked? "pwd" = some (_, _) := asked?_word (by decide +kernel) hget
  have hlines : Redirects "pwd" "pwd > p < q" (some "q") (some "p") :=
    ⟨[.word "pwd"], [.word "pwd", .output "p", .input "q"], by decide +kernel, by decide +kernel,
      rfl, rfl, rfl, rfl, rfl⟩
  refine ⟨standing_deskShell, hasked, hlines, readable_deskShell, writable_deskShell, ?_⟩
  refine redirecting_runLine standing_deskShell hasked (.inl hget) hlines
    ⟨⟨.file standardOutput, false⟩, rfl, accepts_deskShell⟩ ?_ ?_
  · rintro path ⟨⟩
    exact readable_deskShell
  · rintro path ⟨⟩
    exact ⟨2, writable_deskShell⟩

/-- The builtin that changes the working directory complains if it is not told where to go. -/
theorem replyTo_cd_of_homeless (sh : Interpreter (Recorded State)) (input output : Option String)
    {s : ShellState (Recorded State)} (hhome : s.surroundings.home = none) :
    sh.replyTo Builtin.cd.handler ⟨"cd", [], input, output⟩ s =
      .failed "cd: no target and HOME not set" := by
  have hcourse := Builtin.course_changeDirectory none s.surroundings
  change (Builtin.changeDirectory none s.surroundings).1 = _
  rw [Builtin.destination, hhome] at hcourse
  generalize Builtin.changeDirectory none s.surroundings = result at hcourse ⊢
  obtain ⟨reply, w⟩ := result
  cases hcourse
  rfl

/-- At the desk a complaint ends up in the file for an output which without a redirection is
empty. -/
theorem complaint_desk :
    deskShell.Standing ∧
    Interpreter.standard.asked? "cd" =
      some ((Builtin.cd.handler : Handler (Recorded State)), ⟨"cd", [], none, none⟩) ∧
    Redirects "cd" "cd > e" none (some "e") ∧
    deskShell.descriptors.get? standardOutput = some ⟨.file standardOutput, false⟩ ∧
    deskShell.machine.Accepts (.file standardOutput) ∧
    deskShell.Writable "e" 6 ∧ deskShell.fileBehind? standardOutput = some 5 ∧
    (∃ calls, (standard.runLine "cd" deskShell).2.transcript = deskShell.transcript ++ calls ∧
      bytesWritten (.file standardOutput) calls = []) ∧
    (standard.runLine "cd > e" deskShell).2.machine.tree.content? 6 =
      some (.regular (Tool.pack (utf8 "cd: no target and HOME not set\n"))) ∧
    Tool.pack (utf8 "cd: no target and HOME not set\n") ≠ Tool.pack [] := by
  have hget : (Registry.standard (σ := Recorded State)).get? "cd" = some Builtin.cd.handler := by
    rw [Registry.get?_standard]
    rfl
  have hasked : standard.asked? "cd" = some (_, _) := asked?_word (by decide +kernel) hget
  have hlines : Redirects "cd" "cd > e" none (some "e") :=
    ⟨[.word "cd"], [.word "cd", .output "e"], by decide +kernel, by decide +kernel,
      rfl, rfl, rfl, rfl, rfl⟩
  have hsteadfast := Registry.steadfast_standard hget
  have hs := standing_deskShell
  have houtput : deskShell.descriptors.get? standardOutput =
      some ⟨.file standardOutput, false⟩ := rfl
  have hcomplaints : deskShell.descriptors.get? standardError =
      some ⟨.file standardError, false⟩ := rfl
  refine ⟨hs, hasked, hlines, houtput, accepts_deskShell, writable_deskShell_complaints, ?_, ?_, ?_,
    ?_⟩
  · rw [ShellState.fileBehind?, houtput, Option.bind_some, State.fileAt?, getElem?_deskShell.1]
    rfl
  · obtain ⟨opened, hunmoved, harrived⟩ :=
      exists_arrived_plain hasked hsteadfast (by simp) rfl houtput hs.numbered accepts_deskShell
    obtain ⟨calls, hcalls, harrives⟩ := harrived.arrives
    refine ⟨calls, hcalls, ?_⟩
    rw [harrives.bytesWritten_eq hcomplaints (by decide),
      replyTo_cd_of_homeless standard none none hunmoved.home_eq]
    exact utf8_empty
  · have hasked' := (asked?_of_redirects hlines hasked).1
    obtain ⟨opened, fd, number, hopen, hredirected, -⟩ := exists_arrived_redirected hs hasked'
      hsteadfast (by simp) rfl writable_deskShell_complaints
    have hreply := replyTo_cd_of_homeless standard none (some "e") hredirected.home_eq
    exact content?_runLine_failed hs hasked' hsteadfast hopen hredirected hreply hcomplaints
      getElem?_deskShell.2 rfl rfl
  · intro heq
    have hsize := congrArg ByteArray.size heq
    rw [utf8_eq] at hsize
    revert hsize
    decide

end Interpreter

end CommandShell
