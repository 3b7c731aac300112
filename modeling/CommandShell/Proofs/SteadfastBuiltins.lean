import CommandShell.Proofs.GrownTrees
import CommandShell.Proofs.WorkingDirectory

/-!
# Builtins that look at directories only

A builtin may look for directories and for their paths, and at the environment, but at nothing that
is in a file. Then it does the same after files were made or changed. Main statements: this holds of
the builtins of the shell (`Registry.steadfast_standard`) and of every builtin that sees nothing but
its arguments, the other builtins, the working directory and the environment
(`Handler.Secluded.steadfast`).
-/

namespace CommandShell

open Shell
open Machine (State Tree textOfPath)

/-- Whether a call asks for a directory or for its path. -/
def Call.isEnquiry : Call → Bool
  | canonicalize _ _ _ => true
  | enter _ _ _ => true
  | nameOf _ _ => true
  | _ => false

theorem Call.isEnquiry_of_isLookup {call : Call} (h : call.isLookup = true) :
    call.isEnquiry = true := by
  cases call <;> first | rfl | cases h

/-- Questions change nothing. -/
theorem Replayed.eq_of_isEnquiry {m m' : State} {calls : List Call} (h : Replayed m calls m')
    (hcalls : ∀ call ∈ calls, call.isEnquiry = true) : m' = m := by
  induction calls generalizing m with
  | nil => exact h
  | cons call calls ih =>
    obtain ⟨between, hcall, hrest⟩ := h
    have hsame : between = m := by
      have hone := hcalls call List.mem_cons_self
      cases call with
      | canonicalize start path answer => exact (congrArg Prod.snd hcall).symm
      | enter start path answer => exact (congrArg Prod.snd hcall).symm
      | nameOf directory answer => exact (congrArg Prod.snd hcall).symm
      | _ => cases hone
    rw [ih hrest fun call h => hcalls call (List.mem_cons_of_mem _ h), hsame]

/-- Replies that differ in the wording of a complaint at most. -/
inductive Reply.Alike : Reply → Reply → Prop
  /-- They are the same. -/
  | same (reply : Reply) : Alike reply reply
  /-- Both are complaints. -/
  | failed (complaint complaint' : String) : Alike (.failed complaint) (.failed complaint')

theorem Reply.Alike.output_eq {reply reply' : Reply} (h : reply.Alike reply') :
    reply'.output = reply.output := by
  cases h <;> rfl

theorem Reply.Alike.outcome_eq {reply reply' : Reply} (h : reply.Alike reply') :
    reply'.written.outcome = reply.written.outcome := by
  cases h <;> rfl

/-- Surroundings between which files were made or changed, and nothing else. -/
structure Surroundings.Resembles (w w' : Surroundings (Recorded State)) : Prop where
  directory : w'.directory = w.directory
  home : w'.home = w.home
  bindings : w'.host.host.bindings = w.host.host.bindings
  tree : w.host.host.tree.Grown w'.host.host.tree
  sound : w.host.host.tree.Sound
  sound' : w'.host.host.tree.Sound

/-- An action that looks for directories only, and changes nothing but the working directory and the
environment. -/
structure Action.Steadfast (x : Action (Recorded State) Reply) : Prop where
  /-- It makes no difference what is in files. -/
  alike : ∀ w w', w.Resembles w' →
    (x w).1.Alike (x w').1 ∧ (x w').2.directory = (x w).2.directory
  /-- It only asks. -/
  asks : ∀ w, ∃ calls bindings, (∀ call ∈ calls, call.isEnquiry = true) ∧
    (x w).2.host = ⟨{ w.host.host with bindings := bindings }, w.host.calls ++ calls⟩

/-- A builtin that looks for directories only. -/
def Handler.Steadfast (handler : Handler (Recorded State)) : Prop :=
  ∀ argv listing, Action.Steadfast (handler.invoke argv listing)

namespace Action

theorem Steadfast.pure (reply : Reply) : Steadfast (pure reply) :=
  ⟨fun w w' h => ⟨.same reply, h.directory⟩,
    fun w => ⟨[], w.host.host.bindings, by simp, by rw [List.append_nil]; rfl⟩⟩

/-- What was only asked leaves the machine alone. -/
theorem exists_asked {r r' : Recorded State} {calls : List Call} (h : r.Continued r' calls)
    (hcalls : ∀ call ∈ calls, call.isEnquiry = true) :
    ∃ calls bindings, (∀ call ∈ calls, call.isEnquiry = true) ∧
      r' = ⟨{ r.host with bindings := bindings }, r.calls ++ calls⟩ := by
  refine ⟨calls, r.host.bindings, hcalls, ?_⟩
  rw [← h.calls_eq, ← h.replayed.eq_of_isEnquiry hcalls]

end Action

namespace Builtin

/-- A builtin looks for directories only if it does so whenever its arguments ask for a run. -/
theorem steadfast_handler {α : Type} {b : Builtin (Recorded State) α}
    (h : ∀ value listing, Action.Steadfast (b.run value listing)) : b.handler.Steadfast := by
  intro argv listing
  change Action.Steadfast (b.answer argv.tail listing)
  rw [answer]
  rcases b.grammar.read argv.tail with fault | value | _
  · exact .pure _
  · exact h value listing
  · exact .pure _

theorem canonicalize_eq {start : Directory} {path : String} {r between : Recorded State}
    {answer : Except Errno String} (h : Kernel.canonicalize start path r = (answer, between)) :
    (r.host.tree.canonicalize start (utf8 path)).map textOfPath = answer ∧ between.host = r.host :=
  ⟨congrArg Prod.fst h, (congrArg (fun result => result.2.host) h).symm⟩

/-- The builtin goes where its target leads, and complains if it leads nowhere. -/
theorem Course.leads {w w' : Surroundings (Recorded State)} {goal : Option String} {reply : Reply}
    (h : Course w goal reply w') :
    (∃ path directory, goal = some path ∧ hasNul path = false ∧
      w.host.host.tree.Leads w.directory (utf8 path) directory ∧
      reply = .completed "" (.proceed 0) ∧ w'.directory = directory) ∨
    ((∀ path directory, goal = some path → hasNul path = false →
      ¬ w.host.host.tree.Leads w.directory (utf8 path) directory) ∧
      (∃ complaint, reply = .failed complaint) ∧ w'.directory = w.directory) := by
  cases h with
  | unset => exact .inr ⟨fun path directory hgoal => (by cases hgoal), ⟨_, rfl⟩, rfl⟩
  | unnamed path hnul =>
    refine .inr ⟨fun _ directory hgoal hnamed => ?_, ⟨_, rfl⟩, rfl⟩
    cases hgoal
    rw [hnul] at hnamed
    cases hnamed
  | missing path errno host hnamed h =>
    refine .inr ⟨fun _ directory hgoal _ => ?_, ⟨_, rfl⟩, rfl⟩
    cases hgoal
    rintro ⟨canonical, hcanonical, -⟩
    have hanswer := (canonicalize_eq h).1
    rw [hcanonical] at hanswer
    cases hanswer
  | refused path canonical errno between host hnamed h h' =>
    refine .inr ⟨fun _ directory hgoal _ => ?_, ⟨_, rfl⟩, rfl⟩
    cases hgoal
    rintro ⟨absolute, habsolute, hopen⟩
    obtain ⟨hanswer, hsame⟩ := canonicalize_eq h
    rw [habsolute] at hanswer
    cases hanswer
    have hentered : between.host.tree.openDirectory w.directory (utf8 (textOfPath absolute)) =
      .error errno := congrArg Prod.fst h'
    rw [hsame, hopen] at hentered
    cases hentered
  | entered path canonical directory between host hnamed h h' =>
    refine .inl ⟨path, directory, rfl, hnamed, ?_, rfl, rfl⟩
    obtain ⟨hanswer, hsame⟩ := canonicalize_eq h
    have hentered : between.host.tree.openDirectory w.directory (utf8 canonical) = .ok directory :=
      congrArg Prod.fst h'
    rw [hsame] at hentered
    cases habsolute : w.host.host.tree.canonicalize w.directory (utf8 path) with
    | error errno =>
      rw [habsolute] at hanswer
      cases hanswer
    | ok absolute =>
      rw [habsolute] at hanswer
      cases hanswer
      exact ⟨absolute, habsolute, hentered⟩

/-- The search for a directory ends in the same place, and changes nothing. -/
theorem steadfast_cd : (cd : Builtin (Recorded State) _).handler.Steadfast := by
  refine steadfast_handler fun target listing => ⟨fun w w' h => ?_, fun w => ?_⟩
  · change (changeDirectory target w).1.Alike (changeDirectory target w').1 ∧
      (changeDirectory target w').2.directory = (changeDirectory target w).2.directory
    have hleads := (course_changeDirectory target w).leads
    have hleads' := (course_changeDirectory target w').leads
    simp only [h.home, h.directory, h.tree.leads_iff h.sound h.sound'] at hleads'
    rcases hleads with ⟨path, directory, hgoal, hnamed, hlead, hreply, hthere⟩ |
      ⟨hnowhere, ⟨complaint, hreply⟩, hthere⟩
    · rcases hleads' with ⟨path', directory', hgoal', hnamed', hlead', hreply', hthere'⟩ |
        ⟨hnowhere', -⟩
      · cases hgoal.symm.trans hgoal'
        obtain ⟨canonical, hcanonical, hopen⟩ := hlead
        obtain ⟨canonical', hcanonical', hopen'⟩ := hlead'
        cases hcanonical.symm.trans hcanonical'
        cases hopen.symm.trans hopen'
        rw [hreply, hreply', hthere, hthere']
        exact ⟨.same _, rfl⟩
      · exact absurd hlead (hnowhere' path directory hgoal hnamed)
    · rcases hleads' with ⟨path', directory', hgoal', hnamed', hlead', -⟩ |
        ⟨-, ⟨complaint', hreply'⟩, hthere'⟩
      · exact absurd hlead' (hnowhere path' directory' hgoal' hnamed')
      · rw [hreply, hreply', hthere, hthere']
        exact ⟨.failed _ _, rfl⟩
  · obtain ⟨-, calls, hcontinued, hlookedUp⟩ := (course_changeDirectory target w).lookedUp
    exact Action.exists_asked hcontinued fun call hcall =>
      Call.isEnquiry_of_isLookup (hlookedUp.isLookup call hcall)

/-- The builtin shows the path that the system gives for the working directory. -/
theorem showDirectory_apply {σ : Type} [Kernel σ] (w : Surroundings σ) : showDirectory w =
    (match (Kernel.nameOf w.directory w.host).1 with
      | .error errno => .failed ("pwd: " ++ (Fault.system errno).message)
      | .ok path => .completed (path ++ "\n") (.proceed 0),
    { w with host := (Kernel.nameOf w.directory w.host).2 }) := by
  rw [showDirectory, bind_apply, Action.workingDirectory_apply]
  cases (Kernel.nameOf w.directory w.host).1 <;> rfl

/-- The path of the working directory stays the same. -/
theorem steadfast_pwd : (pwd : Builtin (Recorded State) _).handler.Steadfast := by
  refine steadfast_handler fun _ listing => ⟨fun w w' h => ?_, fun w => ?_⟩
  · change (showDirectory w).1.Alike (showDirectory w').1 ∧
      (showDirectory w').2.directory = (showDirectory w).2.directory
    have hpath (path : Bytes) : w'.host.host.tree.pathOf w.directory = .ok path ↔
      w.host.host.tree.pathOf w.directory = .ok path := h.tree.pathOf_eq_ok_iff h.sound h.sound'
    have hname (w : Surroundings (Recorded State)) (d : Directory) : (Kernel.nameOf d w.host).1 =
      (w.host.host.tree.pathOf d).map textOfPath := rfl
    rw [showDirectory_apply, showDirectory_apply]
    refine ⟨?_, h.directory⟩
    simp only [hname, h.directory]
    cases hold : w.host.host.tree.pathOf w.directory with
    | ok path =>
      rw [(hpath path).mpr hold]
      exact .same _
    | error errno =>
      cases hnew : w'.host.host.tree.pathOf w.directory with
      | ok path =>
        rw [(hpath path).mp hnew] at hold
        cases hold
      | error errno' => exact .failed _ _
  · change ∃ calls bindings, _ ∧ (showDirectory w).2.host = _
    rw [showDirectory_apply]
    exact Action.exists_asked (Recorded.continued_record w.host rfl) (by simp [Call.isEnquiry])

end Builtin

/-- The builtins of the shell look for directories only. -/
theorem Registry.steadfast_standard {name : String} {handler : Handler (Recorded State)}
    (h : Registry.standard.get? name = some handler) : handler.Steadfast := by
  rw [Registry.get?_standard] at h
  split at h
  · cases h
    exact Builtin.steadfast_pwd
  · split at h
    · cases h
      exact Builtin.steadfast_handler fun _ _ => .pure _
    · split at h
      · cases h
        exact Builtin.steadfast_handler fun _ _ => .pure _
      · split at h
        · cases h
          exact Builtin.steadfast_cd
        · cases h

/-! ## Builtins that do not ask -/

/-- All that there is to be seen without a look at files. -/
structure Standpoint where
  /-- The working directory. -/
  directory : Directory
  /-- Its absolute path, if it still has one. -/
  path? : Option String
  /-- The home directory, if one is set. -/
  home : Option String
  /-- The variables of the environment. -/
  bindings : Machine.Variables

/-- All that a builtin can do without a hand on files. -/
structure Effect where
  /-- Its reply. -/
  reply : Reply
  /-- The working directory then. -/
  directory : Directory
  /-- The home directory then. -/
  home : Option String
  /-- The variables of the environment then. -/
  bindings : Machine.Variables

/-- What there is to be seen in some surroundings. -/
def Surroundings.standpoint (w : Surroundings (Recorded State)) : Standpoint :=
  ⟨w.directory, (w.host.host.tree.pathOf w.directory).toOption.map textOfPath, w.home,
    w.host.host.bindings⟩

/-- What a builtin does depends on nothing but its arguments, the builtins that are listed, the
working directory and the environment, and it works on nothing else. -/
def Handler.Secluded (handler : Handler (Recorded State)) : Prop :=
  ∃ effect : List String → Listing → Standpoint → Effect, ∀ argv listing w,
    handler.invoke argv listing w =
      ((effect argv listing w.standpoint).reply,
        ⟨(effect argv listing w.standpoint).directory, (effect argv listing w.standpoint).home,
          { w.host with host := { w.host.host with
            bindings := (effect argv listing w.standpoint).bindings } }⟩)

theorem Surroundings.Resembles.standpoint_eq {w w' : Surroundings (Recorded State)}
    (h : w.Resembles w') : w'.standpoint = w.standpoint := by
  have hpath (path : Bytes) : w'.host.host.tree.pathOf w.directory = .ok path ↔
    w.host.host.tree.pathOf w.directory = .ok path := h.tree.pathOf_eq_ok_iff h.sound h.sound'
  have hsame : (w'.host.host.tree.pathOf w.directory).toOption =
      (w.host.host.tree.pathOf w.directory).toOption := by
    refine Option.ext fun path => ?_
    have hiff (result : Except Errno Bytes) :
        result.toOption = some path ↔ result = .ok path := by
      cases result <;> simp [Except.toOption]
    rw [hiff, hiff]
    exact hpath path
  rw [standpoint, standpoint, h.directory, h.home, h.bindings, hsame]

/-- A builtin that sees nothing else does the same after files were made or changed. -/
theorem Handler.Secluded.steadfast {handler : Handler (Recorded State)} (h : handler.Secluded) :
    handler.Steadfast := by
  obtain ⟨effect, heffect⟩ := h
  refine fun argv listing => ⟨fun w w' hresembles => ?_, fun w => ?_⟩
  · rw [heffect, heffect, hresembles.standpoint_eq]
    exact ⟨.same _, rfl⟩
  · rw [heffect]
    exact ⟨[], _, by simp, by rw [List.append_nil]⟩

end CommandShell
