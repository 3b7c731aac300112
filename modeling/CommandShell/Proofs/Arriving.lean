import CommandShell.Builtin.Sink
import CommandShell.Machine.System
import CommandShell.Proofs.ChangingDirectory
import CommandShell.Proofs.SoundTrees
import CommandShell.Proofs.TreeWalks

/-!
# Arriving in a directory

On a machine with files, the builtin that changes the working directory goes where its argument
leads. Main statement: if its status is good, then the working directory has the absolute path of
the target, and a target that can be entered is entered (`Builtin.arriving_cd`). One word is an
exception, though a directory can have it as its name: it is taken for a request for the usage text
(`Builtin.strayed_cd_help`).
-/

namespace CommandShell

open Shell

section

variable {σ : Type} [Kernel σ]

/-- Runs a builtin with all its arguments, its output going to a sink. -/
def Handler.serve (handler : Handler σ) (argv : List String) (listing : Listing) (sink : Sink) :
    Shell σ Outcome := do
  let reply ← within (handler.invoke argv listing)
  let (outcome, _) ← reply.deliverToSink sink
  return outcome

/-- A sink takes nothing without complaint. -/
theorem Sink.write_nil (sink : Sink) : (sink.write []).1 = none := by
  obtain ⟨taken, room⟩ := sink
  cases room <;> simp [write]

/-- Without output and complaint nothing is asked of the system. -/
theorem Reply.deliverToSink_completed_empty (outcome : Outcome) (sink : Sink) (s : ShellState σ) :
    ∃ taken, (completed "" outcome).deliverToSink sink s = ((outcome, taken), s) := by
  have hnone := sink.write_nil
  rcases hwrite : sink.write [] with ⟨fault, kept⟩
  rw [hwrite] at hnone
  cases hnone
  have houtput : utf8 (completed "" outcome).output = [] := utf8_empty
  refine ⟨kept.taken, ?_⟩
  rw [deliverToSink, houtput, hwrite]
  rfl

/-- A builtin that has failed leaves the status one, whatever becomes of its complaint. -/
theorem Reply.status_deliverToSink_failed (complaint : String) (sink : Sink) (s : ShellState σ) :
    ((failed complaint).deliverToSink sink s).1.1.status = 1 := by
  have hverdict : ∀ fault, (failed complaint).verdict fault = ⟨some complaint, none, .proceed 1⟩ :=
    fun fault => by cases fault <;> rfl
  rw [deliverToSink]
  rcases sink.write (utf8 (failed complaint).output) with ⟨fault, kept⟩
  simp only [hverdict]
  rfl

end

namespace Machine

/-- A path is shown as the text whose bytes it has. -/
theorem textOfPath_utf8 (text : String) : textOfPath (utf8 text) = text := by
  rw [textOfPath, LineSource.textOfBytes_eq_some_iff.2 rfl, Option.getD_some]

/-- What is opened under the text of a path has this path. -/
theorem utf8_textOfPath {t : Tree} {start d : NodeId} {path : Name}
    (h : t.openDirectory start (utf8 (textOfPath path)) = .ok d) :
    utf8 (textOfPath path) = path := by
  cases htext : LineSource.textOfBytes path with
  | some text =>
    have hpath := LineSource.textOfBytes_eq_some_iff.1 htext
    rw [← hpath, textOfPath_utf8]
  | none =>
    have hempty : utf8 (textOfPath path) = [] := by
      rw [textOfPath, htext, Option.getD_none, utf8_empty]
    rw [hempty] at h
    cases h

/-- A path names a directory that can be entered. -/
structure Tree.Enterable (t : Tree) (start : NodeId) (path : String) (d : NodeId) : Prop where
  /-- The system can be asked for it. -/
  named : hasNul path = false
  /-- There is a directory at the path. -/
  opened : t.openDirectory start (utf8 path) = .ok d
  /-- A path that does not begin at the root begins in a directory that still has a path. -/
  based : isAbsolute (utf8 path) = false → ∃ here, t.pathOf start = .ok here
  /-- The system can be asked for the directory by its own path as well. -/
  reachable : ∀ canonical, t.pathOf d = .ok canonical →
    canonical.length < maxPath ∧ ∃ text, canonical = utf8 text

/-- A machine is not changed when it is asked for an absolute path. -/
theorem canonicalize_host (start : NodeId) (path : String) (m : State) :
    Kernel.canonicalize start path m =
      ((m.tree.canonicalize start (utf8 path)).map textOfPath, m) := rfl

/-- A machine is not changed when it is asked for a directory. -/
theorem enter_host (start : NodeId) (path : String) (m : State) :
    Kernel.enter start path m = (m.tree.openDirectory start (utf8 path), m) := rfl

/-- A directory that can be entered has an absolute path, by which it is opened as well. -/
theorem Tree.Enterable.opened_again {t : Tree} {start d : NodeId} {path : String}
    (h : t.Enterable start path d) (hsound : t.Sound) :
    ∃ text, t.canonicalize start (utf8 path) = .ok (utf8 text) ∧
      t.openDirectory start (utf8 text) = .ok d := by
  obtain ⟨canonical, hpath, hcanonical⟩ := hsound.canonicalize_of_openDirectory h.opened h.based
  obtain ⟨hshort, text, rfl⟩ := h.reachable canonical hpath
  exact ⟨text, hcanonical, hsound.openDirectory_of_pathOf start hpath hshort⟩

end Machine

namespace Builtin

open Machine

/-- A single word is taken for the target, unless it has the form of an option or asks for the
usage text. -/
theorem read_cdGrammar_singleton {word : String} (hoption : Grammar.isOption word = false)
    (hhelp : word ≠ "help") : cdGrammar.read [word] = .ok (.run (some word)) := by
  have hlong : word ≠ "--help" := by
    rintro rfl
    exact absurd hoption (by decide)
  have hasks : Grammar.asksForHelp word = false := by
    simp [Grammar.asksForHelp, hlong, hhelp]
  have hne : word ≠ Grammar.endOfOptions := by
    rintro rfl
    exact absurd hoption (by decide)
  rw [Grammar.read_eq_run_iff rfl, Grammar.isOptionless_cons hne, Grammar.wantsHelp_cons hne,
    Grammar.fillers_cons hne, hasks, hoption]
  exact ⟨rfl, rfl, rfl⟩

/-- A shell has gone to a goal, or could not go there. -/
structure Arrives (s s' : ShellState State) (goal : Option String) (outcome : Outcome) :
    Prop where
  /-- With a good status, the working directory has the absolute path of the goal. -/
  arrived : outcome.status = 0 → ∃ path canonical, goal = some path ∧
    s.surroundings.host.tree.canonicalize s.surroundings.directory (utf8 path) = .ok canonical ∧
    s'.surroundings.host.tree.pathOf s'.surroundings.directory = .ok canonical
  /-- A goal that can be entered is entered. -/
  admitted : ∀ path d, goal = some path →
    s.surroundings.host.tree.Enterable s.surroundings.directory path d →
      outcome.status = 0 ∧ s'.surroundings.directory = d

/-- The builtin either stands in a directory that has the absolute path of the goal, and is the only
one that could be entered, or has failed, and there was none to be entered. -/
theorem Course.entered_or_failed {w w' : Surroundings State} {goal : Option String} {reply : Reply}
    (hsound : w.host.tree.Sound) (h : Course w goal reply w') :
    (∃ path canonical d, goal = some path ∧ reply = .completed "" (.proceed 0) ∧
      w' = ⟨d, w.home, w.host⟩ ∧
      w.host.tree.canonicalize w.directory (utf8 path) = .ok canonical ∧
      w.host.tree.pathOf d = .ok canonical ∧
      ∀ d', w.host.tree.Enterable w.directory path d' → d' = d) ∨
    (∃ complaint, reply = .failed complaint) ∧
      ∀ path d, goal = some path → ¬ w.host.tree.Enterable w.directory path d := by
  cases h with
  | unset =>
    refine Or.inr ⟨⟨_, rfl⟩, ?_⟩
    rintro path d ⟨⟩
  | unnamed path hnul =>
    refine Or.inr ⟨⟨_, rfl⟩, ?_⟩
    rintro path d ⟨⟩ henter
    rw [henter.named] at hnul
    cases hnul
  | missing path errno host hnamed hcanonical =>
    refine Or.inr ⟨⟨_, rfl⟩, ?_⟩
    rintro path d ⟨⟩ henter
    obtain ⟨text, hcanonical', -⟩ := henter.opened_again hsound
    rw [canonicalize_host, hcanonical'] at hcanonical
    cases hcanonical
  | refused path canonical errno between host hnamed hcanonical hrefused =>
    refine Or.inr ⟨⟨_, rfl⟩, ?_⟩
    rintro path d ⟨⟩ henter
    obtain ⟨text, hcanonical', hopened⟩ := henter.opened_again hsound
    rw [canonicalize_host, hcanonical'] at hcanonical
    cases hcanonical
    rw [enter_host, textOfPath_utf8, hopened] at hrefused
    cases hrefused
  | entered path shown directory between host hnamed hcanonical hentered =>
    rw [canonicalize_host] at hcanonical
    cases hpath : w.host.tree.canonicalize w.directory (utf8 path) with
    | error errno =>
      rw [hpath] at hcanonical
      cases hcanonical
    | ok canonical =>
      rw [hpath] at hcanonical
      cases hcanonical
      rw [enter_host] at hentered
      cases hopened : w.host.tree.openDirectory w.directory (utf8 (textOfPath canonical)) with
      | error errno =>
        rw [hopened] at hentered
        cases hentered
      | ok d =>
        rw [hopened] at hentered
        cases hentered
        have htext := utf8_textOfPath hopened
        rw [htext] at hopened
        refine Or.inl ⟨path, canonical, directory, rfl, rfl, rfl, hpath,
          hsound.pathOf_of_canonicalize hpath hopened, fun d' henter => ?_⟩
        obtain ⟨text, hcanonical, hopened'⟩ := henter.opened_again hsound
        rw [hpath] at hcanonical
        cases hcanonical
        rw [hopened] at hopened'
        cases hopened'
        rfl

/-- A good status of the builtin means that the shell has arrived where the word leads, the home
directory if it is empty; and it has a good status if the word names a directory that can be
entered. One word is taken for something else. -/
theorem arriving_cd (word : String) (hoption : Grammar.isOption word = false)
    (hhelp : word ≠ "help") (listing : Listing) (sink : Sink) (s : ShellState State)
    (hsound : s.surroundings.host.tree.Sound) :
    Arrives s (cd.handler.serve ["cd", word] listing sink s).2
      (destination (some word) s.surroundings.home)
      (cd.handler.serve ["cd", word] listing sink s).1 := by
  have hinvoke : (cd : Builtin State _).handler.invoke ["cd", word] listing =
      changeDirectory (some word) := by
    have hread := read_cdGrammar_singleton hoption hhelp
    change (cd : Builtin State _).answer [word] listing = _
    have hgrammar : (cd : Builtin State _).grammar = cdGrammar := rfl
    rw [answer, hgrammar, hread]
    rfl
  rcases hchange : changeDirectory (some word) s.surroundings with ⟨reply, w'⟩
  have hcourse := course_changeDirectory (some word) s.surroundings
  rw [hchange] at hcourse
  have hserve : cd.handler.serve ["cd", word] listing sink s =
      ((reply.deliverToSink sink { s with surroundings := w' }).1.1,
        (reply.deliverToSink sink { s with surroundings := w' }).2) := by
    have hwithin : within (changeDirectory (some word)) s =
        (reply, { s with surroundings := w' }) := by rw [within, hchange]
    rw [Handler.serve, hinvoke, bind_apply, hwithin]
    rfl
  rw [hserve]
  rcases hcourse.entered_or_failed hsound with
    ⟨path, canonical, d, hgoal, rfl, rfl, hcanonical, hpath, honly⟩ | ⟨⟨complaint, rfl⟩, hbarred⟩
  · obtain ⟨taken, hdeliver⟩ := Reply.deliverToSink_completed_empty (.proceed 0) sink
      { s with surroundings := ⟨d, s.surroundings.home, s.surroundings.host⟩ }
    rw [hdeliver]
    refine ⟨fun _ => ⟨path, canonical, hgoal, hcanonical, hpath⟩, fun path' d' hgoal' henter => ?_⟩
    rw [hgoal] at hgoal'
    cases hgoal'
    exact ⟨rfl, (honly d' henter).symm⟩
  · refine ⟨fun hgood => ?_, fun path d hgoal henter => absurd henter (hbarred path d hgoal)⟩
    rw [Reply.status_deliverToSink_failed] at hgood
    cases hgood

end Builtin

namespace Machine

/-- A tree with a directory that has a name that is a request, too. -/
def helpTree : Tree :=
  (Tree.empty.create Tree.root (utf8 "help") ⟨.directory Tree.root [], 0o755, 0⟩).2

/-- A shell in the root of this tree. -/
def helpShell : ShellState State where
  descriptors := .empty
  fresh := 0
  surroundings := ⟨Tree.root, none, { State.empty with tree := helpTree }⟩
  lastStatus := 0
  log := ⟨.error, ""⟩
  downfall := none

theorem sound_helpTree : helpTree.Sound := by
  have hname : IsEntryName (utf8 "help") := by
    rw [utf8_eq]
    decide
  refine Tree.sound_empty.create (by decide) hname ?_
  rintro above entries ⟨⟩
  exact ⟨rfl, rfl⟩

theorem holds_helpTree : helpTree.Holds Tree.root (utf8 "help") 1 :=
  ⟨Tree.root, [(utf8 "help", 1)], rfl, List.lookup_cons_self⟩

theorem pathOf_helpTree : helpTree.pathOf 1 = .ok (utf8 "/help") := by
  have hplaced : helpTree.descend? Tree.root ([] ++ [utf8 "help"]) = some 1 :=
    Tree.descend?_append_singleton_iff.2 ⟨Tree.root, rfl, holds_helpTree, rfl⟩
  refine sound_helpTree.pathOf_eq_ok_iff.2 ⟨[] ++ [utf8 "help"], hplaced, ?_⟩
  rw [utf8_eq, utf8_eq]
  rfl

theorem enterable_helpTree {path : String} (hnamed : hasNul path = false)
    (hopened : helpTree.openDirectory Tree.root (utf8 path) = .ok 1) :
    helpTree.Enterable Tree.root path 1 := by
  refine ⟨hnamed, hopened, fun _ => ⟨[Ascii.slash], ?_⟩, fun canonical hcanonical => ?_⟩
  · exact sound_helpTree.pathOf_eq_ok_iff.2 ⟨[], rfl, rfl⟩
  · rw [pathOf_helpTree] at hcanonical
    cases hcanonical
    refine ⟨?_, "/help", rfl⟩
    rw [utf8_eq]
    decide

end Machine

namespace Builtin

open Machine

/-- By its absolute path the directory is entered. -/
theorem arriving_cd_absolute :
    helpShell.surroundings.host.tree.Sound ∧
      (cd.handler.serve ["cd", "/help"] [] .unlimited helpShell).1.status = 0 ∧
      (cd.handler.serve ["cd", "/help"] [] .unlimited helpShell).2.surroundings.directory = 1 := by
  have harrives := arriving_cd "/help" (by decide) (by decide) [] .unlimited helpShell
    sound_helpTree
  have hshort : (utf8 "/help").length < maxPath := by
    rw [utf8_eq]
    decide
  have hopened := sound_helpTree.openDirectory_of_pathOf Tree.root pathOf_helpTree hshort
  exact ⟨sound_helpTree, harrives.admitted "/help" 1 rfl (enterable_helpTree (by decide) hopened)⟩

/-- By its name it is not, though the status is good: the name is taken for a request. -/
theorem strayed_cd_help :
    helpTree.Enterable Tree.root "help" 1 ∧
      (cd.handler.serve ["cd", "help"] [] .unlimited helpShell).1.status = 0 ∧
      (cd.handler.serve ["cd", "help"] [] .unlimited helpShell).2.surroundings.directory =
        Tree.root ∧
      ¬ Arrives helpShell (cd.handler.serve ["cd", "help"] [] .unlimited helpShell).2
        (destination (some "help") none)
        (cd.handler.serve ["cd", "help"] [] .unlimited helpShell).1 := by
  have hopened := sound_helpTree.openDirectory_of_holds holds_helpTree rfl
  have henter := enterable_helpTree (by decide) hopened
  have hserve : cd.handler.serve ["cd", "help"] [] .unlimited helpShell =
      (.proceed 0, helpShell) := rfl
  rw [hserve]
  refine ⟨henter, rfl, rfl, fun harrives => ?_⟩
  have hmoved := (harrives.admitted "help" 1 rfl henter).2
  cases hmoved

end Builtin

end CommandShell
