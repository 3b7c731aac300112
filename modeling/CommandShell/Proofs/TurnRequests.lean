import CommandShell.Proofs.Hiring
import CommandShell.Proofs.Sequential

/-!
# Requests of a turn

What a crew goes through in the turn of a stage. The files of the stage are opened, its process
starts a program or reports that there is none, and the shell hears the report; all messages go to
streams. Main statements: the files of a stage are opened exactly if a stage that is evaluated finds
them (`Staffed.acquire`), a process starts its program exactly if there is one (`Staffed.attempt`),
and the shell hears what was reported (`Staffed.heard`).
-/

namespace CommandShell

open Shell

namespace Workshop

/-- A descriptor leads to a stream that was there from the start, and on which something may be
told. -/
def Crew.Leads (c : Crew) (table : Descriptors) (fd : Fd) : Prop :=
  ∃ slot number, table.get? fd = some slot ∧ slot.target = .file number ∧ c.streams number ∧
    c.noisy number

section

variable {setting : Setting} {w w' : Workshop} {c : Crew} {table remaining : Descriptors}
  {stamp : String} {calls : List Call} {child : Child} {i pipe : Nat} {errno : Errno}
  {directory : Directory} {failure : Option Errno}

/-! ## Messages and reports -/

/-- Records of the log go to a stream. -/
theorem Staffed.noted (h : Staffed setting w c) (hnotes : Noted table stamp calls)
    (hleads : c.Leads table standardError) (hcalls : Replayed w calls w') :
    Staffed setting w' c := by
  obtain ⟨slot, number, hslot, hnumber, hstream, hnoisy⟩ := hleads
  induction calls generalizing w with
  | nil =>
    cases hcalls
    exact h
  | cons call rest ih =>
    obtain ⟨between, hcall, hrest⟩ := hcalls
    obtain ⟨target, record, answer, rfl, htarget⟩ := hnotes call List.mem_cons_self
    rw [htarget slot hslot, hnumber] at hcall
    exact ih (h.tell hstream hnoisy hcall).2
      (fun call hcall => hnotes call (List.mem_cons_of_mem _ hcall))
      hrest

/-- A message goes to a stream. -/
theorem Staffed.told (h : Staffed setting w c) {fd : Fd} {bytes : Bytes}
    (htold : Told table fd bytes calls) (hleads : c.Leads table fd)
    (hcalls : Replayed w calls w') : Staffed setting w' c := by
  obtain ⟨slot, number, hslot, hnumber, hstream, hnoisy⟩ := hleads
  cases htold with
  | nobody hnone =>
    cases hcalls
    exact h
  | somebody other hother answer =>
    rw [hslot] at hother
    cases hother
    obtain ⟨between, hcall, rfl⟩ := hcalls
    rw [hnumber] at hcall
    exact (h.tell hstream hnoisy hcall).2

/-- A process that cannot start its program reports this and ends. -/
theorem Staffed.abandon (h : Staffed setting w c) (hforked : c.forked = some i)
    (hreport : c.report = some (pipe, []))
    (hheld : c.shell.refersTo (fun other => decide (other = .readEnd pipe)) = true)
    {closeOnExec : Bool}
    (hwriter : remaining.get? child.report = some ⟨.writeEnd pipe, closeOnExec⟩)
    (hleads : c.Leads remaining 2)
    (htold : child.Abandoned (pidOf i) remaining errno calls) (hcalls : Replayed w calls w') :
    Staffed setting w' { c with forked := none, report := some (pipe, errno.toBytes) } := by
  cases htold with
  | intro report name reason newline hreported hname hreason hnewline =>
    obtain ⟨w₄, hcalls, w₅, hexit, rfl⟩ := hcalls.split
    obtain ⟨w₃, hcalls, hcalls₄⟩ := hcalls.split
    obtain ⟨w₂, hcalls, hcalls₃⟩ := hcalls.split
    obtain ⟨w₁, hcalls₁, hcalls₂⟩ := hcalls.split
    cases hreported with
    | nobody hnone =>
      rw [hwriter] at hnone
      cases hnone
    | somebody slot hslot answer =>
      rw [hwriter] at hslot
      cases hslot
      obtain ⟨between, hcall, rfl⟩ := hcalls₁
      have hstaffed := (h.report hreport hheld hcall).2
      exact (((hstaffed.told hname hleads hcalls₂).told hreason hleads hcalls₃).told hnewline
        hleads hcalls₄).exit hforked hexit

/-- All duplicates that are wanted can be made. -/
theorem Staffed.granted (h : Staffed setting w c) {pid : Pid} {wires : List (Fd × Fd)}
    (hcalls : Replayed w (Child.granted pid wires) w') : Staffed setting w' c := by
  induction wires generalizing w with
  | nil =>
    cases hcalls
    exact h
  | cons wire rest ih =>
    obtain ⟨between, hcall, hrest⟩ := hcalls
    exact ih (h.duplicate hcall).2 hrest

/-- A process reports that there is no program to start, or its program joins the crew. -/
theorem Staffed.attempt (h : Staffed setting w c) (hforked : c.forked = some i)
    (hreport : c.report = some (pipe, []))
    (hheld : c.shell.refersTo (fun other => decide (other = .readEnd pipe)) = true)
    (hopen : ∀ wire ∈ child.wires, table.get? wire.1 ≠ none)
    {closeOnExec : Bool} (hwriter : table.get? child.report = some ⟨.writeEnd pipe, closeOnExec⟩)
    (hlt : 1 < child.report) (hleads : c.Leads table 2)
    (hcourse : child.Transcript (pidOf i) table directory failure calls)
    (hcalls : Replayed w calls w') :
    (∃ errno, failure = some errno ∧ setting.programs child.arguments.texts = .error errno ∧
      Staffed setting w' { c with forked := none, report := some (pipe, errno.toBytes) }) ∨
    (∃ program wired, failure = none ∧ setting.programs child.arguments.texts = .ok program ∧
      Child.rewire table child.wires = some wired ∧
      ∀ st : Station, st.job = i → st.program = program → c.Accepts wired.surviving st →
        Staffed setting w' (c.hire st)) := by
  cases hcourse with
  | started wired hwired =>
    obtain ⟨between, hgranted, w₁, hexec, rfl⟩ := hcalls.split
    rcases (h.granted hgranted).exec hexec with ⟨errno, heq, -⟩ |
      ⟨program, -, hprogram, hhire⟩
    · cases heq
    · exact Or.inr ⟨program, wired, rfl, hprogram, hwired, hhire⟩
  | failed errno remaining tried told htried htold =>
    obtain ⟨between, htrying, htelling⟩ := hcalls.split
    have hkept : ∀ {fd : Fd}, 1 < fd → remaining.get? fd = table.get? fd :=
      fun hfd => htried.get?_remaining hfd
    have hremaining : remaining.get? child.report = some ⟨.writeEnd pipe, closeOnExec⟩ := by
      rw [hkept hlt, hwriter]
    have hleft : c.Leads remaining 2 := by
      rw [Crew.Leads, hkept (Nat.lt_succ_self 1)]
      exact hleads
    have hfault := htried.findSome?_startFault hopen
    cases htried with
    | unwired done rest source goal errno remaining answer hwires hdone hanswer =>
      -- Every duplicate is granted, so that nothing else can be in its way.
      obtain ⟨w₁, hgranted, w₂, hduplicate, rfl⟩ := htrying.split
      obtain ⟨rfl, -⟩ := (h.granted hgranted).duplicate hduplicate
      rw [List.findSome?_append, Child.findSome?_startFault_granted] at hfault
      cases hfault
    | refused errno wired hwired =>
      obtain ⟨w₁, hgranted, w₂, hexec, rfl⟩ := htrying.split
      rcases (h.granted hgranted).exec hexec with ⟨errno', heq, hprogram, hstaffed⟩ | ⟨_, heq, -⟩
      · cases heq
        exact Or.inl ⟨errno, rfl, hprogram,
          hstaffed.abandon hforked hreport hheld hremaining hleft htold htelling⟩
      · cases heq

/-- The shell hears all that was reported, once it has closed its own end of the pipe. -/
theorem Staffed.heard (h : Staffed setting w c) (hforked : c.forked = none) {bytes : Bytes}
    (hreport : c.report = some (pipe, bytes))
    (hclosed : table.refersTo (fun other => decide (other = .writeEnd pipe)) = false)
    (hreader : ∀ pipe, c.awaited = some (.pipe pipe) → ∀ a ∈ c.stations, a.outlet = .pipe pipe →
      table.refersTo (fun other => decide (other = .readEnd pipe)) = true)
    {result : Except Errno Bytes} (hheard : Heard (.readEnd pipe) table calls result)
    (hcalls : Replayed w calls w') :
    result = .ok bytes ∧
      Staffed setting w' { c with shell := table, report := some (pipe, []) } := by
  induction hheard generalizing w c bytes with
  | nothing =>
    obtain ⟨between, hcall, rfl⟩ := hcalls
    obtain ⟨hanswer, hstaffed⟩ := h.hear hforked hreport hclosed hreader hcall
    have hnone : bytes = [] := by
      cases bytes with
      | nil => rfl
      | cons first rest => simp [readSize] at hanswer
    subst hnone
    rw [List.drop_nil] at hstaffed
    exact ⟨rfl, hstaffed⟩
  | bytes first calls result hfirst hrest ih =>
    obtain ⟨between, hcall, hcalls⟩ := hcalls
    obtain ⟨hanswer, hstaffed⟩ := h.hear hforked hreport hclosed hreader hcall
    obtain ⟨rfl, hstaffed⟩ := ih hstaffed hforked rfl hreader hcalls
    cases hanswer
    exact ⟨by simp [Except.map], hstaffed⟩
  | again calls result hrest ih =>
    obtain ⟨between, hcall, hcalls⟩ := hcalls
    cases (h.hear hforked hreport hclosed hreader hcall).1
  | failed errno hfailed =>
    obtain ⟨between, hcall, rfl⟩ := hcalls
    cases (h.hear hforked hreport hclosed hreader hcall).1

/-! ## Files -/

/-- The files that were opened for a stage are there for it. -/
structure Crew.Lays (c : Crew) (setting : Setting) (start : Directory) (stage : Stage)
    (calls : List Call) (own : Option Bytes) (file : Option File) : Prop where
  /-- A file that was opened for reading has the content that the stage is to read. -/
  source : ∀ path number, .openToRead start path number (.ok ()) ∈ calls → ∃ target content,
    stage.input = some path ∧ Setting.find setting.toRead start path = .ok target ∧
      own = some content ∧ (number, target) ∈ c.reserved ∧ c.files target = some content
  /-- A file that was opened for writing is empty. -/
  goal : ∀ path number, .openToWrite start path number (.ok ()) ∈ calls → ∃ target,
    file = some target ∧ (number, target) ∈ c.reserved ∧ c.files target = some []

variable {start : Directory} {stage : Stage} {rest : List Call} {limit : Nat}
  {fault : Option (String × Fault)}

/-- The file that a stage reads is opened, if there is one. -/
theorem Staffed.acquireInput (h : Staffed setting w c)
    (htargeted : Targeted .openToRead start stage.input calls fault)
    (hascends : Ascends limit c.fresh (numbersGiven (calls ++ rest)))
    (hunwritten : ∀ path target, stage.input = some path →
      Setting.find setting.toRead start path = .ok target →
        ∀ st ∈ c.stations, st.outlet.file? ≠ some target)
    (hcalls : Replayed w calls w') :
    ∃ fresh reserved, Ascends limit fresh (numbersGiven rest) ∧
      Staffed setting w' { c with fresh := fresh, reserved := reserved } ∧
      ((∃ failure, fault = some failure ∧
        setting.source start c.files stage = .error failure) ∨
      (fault = none ∧ ∃ own, setting.source start c.files stage = .ok own ∧
        ∀ path number, .openToRead start path number (.ok ()) ∈ calls → ∃ target content,
          stage.input = some path ∧ Setting.find setting.toRead start path = .ok target ∧
            own = some content ∧ (number, target) ∈ reserved ∧ c.files target = some content)) := by
  rw [Setting.source]
  generalize stage.input = input at htargeted hunwritten ⊢
  cases htargeted with
  | absent =>
    cases hcalls
    exact ⟨c.fresh, c.reserved, hascends, h, Or.inr ⟨rfl, none, rfl, by simp⟩⟩
  | unnamed path hnul =>
    cases hcalls
    refine ⟨c.fresh, c.reserved, hascends, h, Or.inl ⟨_, rfl, ?_⟩⟩
    simp only [Setting.find, hnul, if_true]
  | opened path number hnul =>
    obtain ⟨between, hcall, rfl⟩ := hcalls
    rcases h.openToRead hascends.1 (fun target htarget => hunwritten path target rfl
      (Setting.find_of_ok hnul htarget)) hcall with
      ⟨errno, heq, -⟩ | ⟨target, content, -, htarget, hfile, hstaffed⟩
    · cases heq
    · refine ⟨_, _, hascends.2, hstaffed, Or.inr ⟨rfl, some content, ?_, ?_⟩⟩
      · simp only [Setting.find_of_ok hnul htarget, hfile]
      · intro path' number' hmem
        cases List.mem_singleton.1 hmem
        exact ⟨target, content, rfl, Setting.find_of_ok hnul htarget, rfl, List.mem_cons_self,
          hfile⟩
  | refused path number errno hnul =>
    obtain ⟨between, hcall, rfl⟩ := hcalls
    rcases h.openToRead hascends.1 (fun target htarget => hunwritten path target rfl
      (Setting.find_of_ok hnul htarget)) hcall with
      ⟨errno', heq, hwhy, hstaffed⟩ | ⟨target, content, heq, -⟩
    · cases heq
      refine ⟨_, c.reserved, hascends.2, hstaffed, Or.inl ⟨_, rfl, ?_⟩⟩
      rcases hwhy with hwhy | ⟨target, htarget, hfile, rfl⟩
      · simp only [Setting.find_of_error hnul hwhy]
      · simp only [Setting.find_of_ok hnul htarget, hfile]
    · cases heq

/-- The file that a stage writes is opened, if there is one. -/
theorem Staffed.acquireOutput (h : Staffed setting w c)
    (htargeted : Targeted .openToWrite start stage.output calls fault)
    (hascends : Ascends limit c.fresh (numbersGiven (calls ++ rest)))
    (hunused : ∀ target, setting.goal start stage = .ok (some target) → ∀ st ∈ c.stations,
      st.inlet.file? ≠ some target ∧ st.outlet.file? ≠ some target)
    (hcalls : Replayed w calls w') :
    ∃ fresh, Ascends limit fresh (numbersGiven rest) ∧
      ((∃ failure, fault = some failure ∧ setting.goal start stage = .error failure ∧
        Staffed setting w' { c with fresh := fresh }) ∨
      (fault = none ∧ ∃ file reserved, setting.goal start stage = .ok file ∧
        Staffed setting w' { c with
          fresh := fresh, reserved := reserved, files := emptied c.files file } ∧
        (∀ entry ∈ c.reserved, entry ∈ reserved) ∧
        ∀ path number, .openToWrite start path number (.ok ()) ∈ calls → ∃ target,
          file = some target ∧ (number, target) ∈ reserved ∧
            emptied c.files file target = some [])) := by
  rw [Setting.goal] at hunused ⊢
  generalize stage.output = output at htargeted hunused ⊢
  cases htargeted with
  | absent =>
    cases hcalls
    exact ⟨c.fresh, hascends, Or.inr ⟨rfl, none, c.reserved, rfl, h, fun _ hentry => hentry,
      by simp⟩⟩
  | unnamed path hnul =>
    cases hcalls
    refine ⟨c.fresh, hascends, Or.inl ⟨_, rfl, ?_, h⟩⟩
    simp only [Setting.find, hnul, if_true]
  | opened path number hnul =>
    obtain ⟨between, hcall, rfl⟩ := hcalls
    rcases h.openToWrite hascends.1 (fun target htarget => hunused target
      (by simp only [Setting.find_of_ok hnul htarget])) hcall with
      ⟨errno, heq, -⟩ | ⟨target, -, htarget, hstaffed⟩
    · cases heq
    · refine ⟨_, hascends.2, Or.inr ⟨rfl, some target, _, ?_, hstaffed,
        fun entry hentry => List.mem_cons_of_mem _ hentry, ?_⟩⟩
      · simp only [Setting.find_of_ok hnul htarget]
      · intro path' number' hmem
        cases List.mem_singleton.1 hmem
        exact ⟨target, rfl, List.mem_cons_self, Function.update_self _ _ _⟩
  | refused path number errno hnul =>
    obtain ⟨between, hcall, rfl⟩ := hcalls
    rcases h.openToWrite hascends.1 (fun target htarget => hunused target
      (by simp only [Setting.find_of_ok hnul htarget])) hcall with
      ⟨errno', heq, hwhy, hstaffed⟩ | ⟨target, heq, -⟩
    · cases heq
      refine ⟨_, hascends.2, Or.inl ⟨_, rfl, ?_, hstaffed⟩⟩
      simp only [Setting.find_of_error hnul hwhy]
    · cases heq

/-- The files of a stage are opened, or one of them cannot be opened. -/
theorem Staffed.acquire (h : Staffed setting w c) (hopenings : Openings start stage calls fault)
    (hascends : Ascends limit c.fresh (numbersGiven (calls ++ rest)))
    (hunwritten : ∀ path target, stage.input = some path →
      Setting.find setting.toRead start path = .ok target →
        ∀ st ∈ c.stations, st.outlet.file? ≠ some target)
    (hunused : ∀ target, setting.opened? start c.files stage = some target →
      (∀ path, stage.input = some path → Setting.find setting.toRead start path ≠ .ok target) ∧
        ∀ st ∈ c.stations, st.inlet.file? ≠ some target ∧ st.outlet.file? ≠ some target)
    (hcalls : Replayed w calls w') :
    ∃ fresh reserved, Ascends limit fresh (numbersGiven rest) ∧
      ((∃ failure, fault = some failure ∧
        setting.targets start c.files stage = .error failure ∧
        Staffed setting w' { c with fresh := fresh, reserved := reserved }) ∨
      (fault = none ∧ ∃ own file, setting.targets start c.files stage = .ok (own, file) ∧
        Staffed setting w' { c with
          fresh := fresh, reserved := reserved, files := emptied c.files file } ∧
        { c with fresh := fresh, reserved := reserved, files := emptied c.files file }.Lays
          setting start stage calls own file)) := by
  cases hopenings with
  | unfed calls failure htargeted =>
    obtain ⟨fresh, reserved, hascends, hstaffed, hsource⟩ :=
      h.acquireInput htargeted hascends hunwritten hcalls
    refine ⟨fresh, reserved, hascends, Or.inl ⟨failure, rfl, ?_, hstaffed⟩⟩
    rcases hsource with ⟨failure', heq, hsource⟩ | ⟨heq, -⟩
    · cases heq
      rw [Setting.targets, hsource]
    · cases heq
  | fed calls more failure htargeted htargeted' =>
    obtain ⟨between, hcalls, hmore⟩ := hcalls.split
    rw [List.append_assoc] at hascends
    obtain ⟨fresh, reserved, hascends, hstaffed, hsource⟩ :=
      h.acquireInput htargeted hascends hunwritten hcalls
    obtain ⟨failure', heq, -⟩ | ⟨-, own, hsource, hreads⟩ := hsource
    · cases heq
    have htargets : ∀ target, setting.goal start stage = .ok (some target) →
        setting.opened? start c.files stage = some target := by
      intro target hgoal
      rw [Setting.opened?, Setting.targets, hsource, hgoal]
    obtain ⟨fresh, hascends, hgoal⟩ := hstaffed.acquireOutput htargeted' hascends
      (fun target hgoal => (hunused target (htargets target hgoal)).2) hmore
    rcases hgoal with ⟨failure, rfl, hgoal, hstaffed⟩ |
      ⟨rfl, file, reserved', hgoal, hstaffed, hkept, hwrites⟩
    · refine ⟨fresh, reserved, hascends, Or.inl ⟨failure, rfl, ?_, hstaffed⟩⟩
      rw [Setting.targets, hsource, hgoal]
    · refine ⟨fresh, reserved', hascends, Or.inr ⟨rfl, own, file, ?_, hstaffed, ?_, ?_⟩⟩
      · rw [Setting.targets, hsource, hgoal]
      · intro path number hmem
        have hread : .openToRead start path number (.ok ()) ∈ calls := by
          rcases List.mem_append.1 hmem with hmem | hmem
          · exact hmem
          · obtain ⟨path', number', answer, heq⟩ := htargeted'.call_cases _ hmem
            cases heq
        obtain ⟨target, content, hinput, hfind, hown, hentry, hfile⟩ := hreads path number hread
        refine ⟨target, content, hinput, hfind, hown, hkept _ hentry, ?_⟩
        -- What the stage writes is not what it reads.
        cases file with
        | none => exact hfile
        | some other =>
          refine (Function.update_of_ne ?_ _ _).trans hfile
          rintro rfl
          exact (hunused target (htargets target hgoal)).1 path hinput hfind
      · intro path number hmem
        rcases List.mem_append.1 hmem with hmem | hmem
        · obtain ⟨path', number', answer, heq⟩ := htargeted.call_cases _ hmem
          cases heq
        · exact hwrites path number hmem

end

end Workshop

end CommandShell
