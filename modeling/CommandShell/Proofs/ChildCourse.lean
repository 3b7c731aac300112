import CommandShell.Proofs.Recording

/-!
# Courses of the process of a stage

What the process of a stage asks for before its program takes over: duplicates of its descriptors,
one after the other, then the program. If one of these requests fails, the rest is left out and the
process ends. Main statement: every run of such a process takes one of these courses
(`Child.course_run`).
-/

namespace CommandShell

open Recorded

variable {σ : Type}

/-- The duplicate that a call asks for: the process, the descriptor and what becomes its
duplicate. -/
def Call.duplicated? : Call → Option (Pid × Fd × Fd)
  | .duplicate pid source goal _ => some (pid, source, goal)
  | _ => none

/-- The process that a call made, if it made one. -/
def Call.forked? : Call → Option Pid
  | .fork _ (.ok pid) => some pid
  | _ => none

/-- The process that a call comes from, if it is not the shell. -/
def Call.asker? : Call → Option Pid
  | .duplicate pid _ _ _ => some pid
  | .exec pid _ _ => some pid
  | .exit pid _ => some pid
  | _ => none

namespace Child

/-- The duplicates by which two descriptors become the standard input and output, in order. -/
def wiring (input output : Option Fd) : List (Fd × Fd) :=
  (input.toList.map fun fd => (fd, 0)) ++ output.toList.map fun fd => (fd, 1)

/-- The duplicates that the process of a stage needs. -/
def wires (child : Child) : List (Fd × Fd) := wiring child.input child.output

/-- The table in which all duplicates were made, if all of them could be made. -/
def rewire (table : Descriptors) : List (Fd × Fd) → Option Descriptors
  | [] => some table
  | (source, goal) :: rest => (table.duplicate source goal).bind fun changed => rewire changed rest

/-- The calls by which duplicates are made. -/
def granted (pid : Pid) (wires : List (Fd × Fd)) : List Call :=
  wires.map fun wire => .duplicate pid wire.1 wire.2 (.ok ())

/-- What the process of a stage may ask for, the calls in order. -/
inductive Course (child : Child) (pid : Pid) (table : Descriptors) (directory : Directory) :
    List Call → Prop
  /-- The program takes over. -/
  | started (wired : Descriptors) (h : rewire table child.wires = some wired) :
      Course child pid table directory (granted pid child.wires ++
        [.exec pid ⟨child.arguments, wired.surviving, directory⟩ (.ok ())])
  /-- The program cannot be started. -/
  | refused (wired : Descriptors) (h : rewire table child.wires = some wired) (errno : Errno) :
      Course child pid table directory (granted pid child.wires ++
        [.exec pid ⟨child.arguments, wired.surviving, directory⟩ (.error errno), .exit pid 127])
  /-- A duplicate cannot be made. -/
  | unwired (calls : List Call)
      (h : calls.filterMap Call.duplicated? <+: child.wires.map fun wire => (pid, wire))
      (only : ∀ call ∈ calls, call.duplicated?.isSome = true) :
      Course child pid table directory (calls ++ [.exit pid 127])

/-- What is a duplicate that the process wants is asked for by it. -/
theorem eq_duplicate_of_wanted {pid : Pid} {wires : List (Fd × Fd)} {calls : List Call}
    (h : calls.filterMap Call.duplicated? <+: wires.map fun wire => (pid, wire))
    (only : ∀ call ∈ calls, call.duplicated?.isSome = true) {call : Call} (hcall : call ∈ calls) :
    ∃ source goal answer, call = .duplicate pid source goal answer := by
  obtain ⟨wire, hwire⟩ := Option.isSome_iff_exists.1 (only call hcall)
  have hmem := List.IsPrefix.subset h (List.mem_filterMap.2 ⟨call, hcall, hwire⟩)
  obtain ⟨ends, -, rfl⟩ := List.mem_map.1 hmem
  cases call <;> cases hwire
  exact ⟨_, _, _, rfl⟩

/-- In the course of a process nobody else asks for anything. -/
theorem Course.asker {child : Child} {pid : Pid} {table : Descriptors} {directory : Directory}
    {calls : List Call} (h : Course child pid table directory calls) :
    ∀ call ∈ calls, call.asker? = some pid := by
  have hgranted : ∀ call ∈ granted pid child.wires, call.asker? = some pid := by
    intro call hcall
    obtain ⟨wire, -, rfl⟩ := List.mem_map.1 hcall
    rfl
  intro call hcall
  cases h with
  | started wired h =>
    rcases List.mem_append.1 hcall with hcall | hcall
    · exact hgranted call hcall
    · rw [List.mem_singleton.1 hcall]
      rfl
  | refused wired h errno =>
    rcases List.mem_append.1 hcall with hcall | hcall
    · exact hgranted call hcall
    · rcases List.mem_cons.1 hcall with rfl | hcall
      · rfl
      · rw [List.mem_singleton.1 hcall]
        rfl
  | unwired calls h only =>
    rcases List.mem_append.1 hcall with hcall | hcall
    · obtain ⟨source, goal, answer, rfl⟩ := eq_duplicate_of_wanted h only hcall
      rfl
    · rw [List.mem_singleton.1 hcall]
      rfl

/-- What is granted are duplicates, and they are those that were wanted. -/
theorem duplicated_granted (pid : Pid) (wires : List (Fd × Fd)) :
    (granted pid wires).filterMap Call.duplicated? = wires.map fun wire => (pid, wire) := by
  induction wires with
  | nil => rfl
  | cons wire rest ih => exact congrArg ((pid, wire) :: ·) ih

/-- A process asks for the duplicates that it needs, in order, until one of them cannot be made. -/
theorem Course.duplicates {child : Child} {pid : Pid} {table : Descriptors}
    {directory : Directory} {calls : List Call} (h : Course child pid table directory calls) :
    calls.filterMap Call.duplicated? <+: child.wires.map fun wire => (pid, wire) := by
  cases h with
  | started wired h =>
    rw [List.filterMap_append, duplicated_granted]
    refine ⟨[], ?_⟩
    rw [List.append_nil]
    exact List.append_nil _
  | refused wired h errno =>
    rw [List.filterMap_append, duplicated_granted]
    refine ⟨[], ?_⟩
    rw [List.append_nil]
    exact List.append_nil _
  | unwired calls h only =>
    rw [List.filterMap_append]
    exact (List.append_nil (calls.filterMap Call.duplicated?)).symm ▸ h

/-- A process asks for its program when it has made all duplicates. -/
theorem Course.of_exec {child : Child} {pid asker : Pid} {table : Descriptors}
    {directory : Directory} {calls : List Call} (h : Course child pid table directory calls)
    {launch : Launch} {answer : Except Errno Unit} (hexec : .exec asker launch answer ∈ calls) :
    calls.filterMap Call.duplicated? = (child.wires.map fun wire => (pid, wire)) ∧
      ∃ wired, rewire table child.wires = some wired ∧
        launch = ⟨child.arguments, wired.surviving, directory⟩ := by
  have hgranted : .exec asker launch answer ∉ granted pid child.wires := by
    intro hmem
    obtain ⟨wire, -, heq⟩ := List.mem_map.1 hmem
    cases heq
  cases h with
  | started wired h =>
    rcases List.mem_append.1 hexec with hmem | hmem
    · exact absurd hmem hgranted
    · cases List.mem_singleton.1 hmem
      refine ⟨?_, wired, h, rfl⟩
      rw [List.filterMap_append, duplicated_granted]
      exact List.append_nil _
  | refused wired h errno =>
    rcases List.mem_append.1 hexec with hmem | hmem
    · exact absurd hmem hgranted
    · rcases List.mem_cons.1 hmem with heq | hmem
      · cases heq
        refine ⟨?_, wired, h, rfl⟩
        rw [List.filterMap_append, duplicated_granted]
        exact List.append_nil _
      · cases List.mem_singleton.1 hmem
  | unwired calls h only =>
    rcases List.mem_append.1 hexec with hmem | hmem
    · cases only _ hmem
    · cases List.mem_singleton.1 hmem

variable [Kernel σ]

/-- The ways in which a duplicate is made, or is not made. -/
theorem redirectOne_cases (pid : Pid) (source : Option Fd) (goal : Fd) (table : Descriptors)
    (r : Recorded σ) :
    (∃ changed, (redirectOne pid source goal table r).1 = .ok changed ∧
      rewire table (source.toList.map fun fd => (fd, goal)) = some changed ∧
      (redirectOne pid source goal table r).2.steps =
        r.steps ++ granted pid (source.toList.map fun fd => (fd, goal))) ∨
    (∃ errno fd answer, source = some fd ∧ (redirectOne pid source goal table r).1 = .error errno ∧
      (redirectOne pid source goal table r).2.steps =
        r.steps ++ [.duplicate pid fd goal answer]) := by
  cases source with
  | none => exact Or.inl ⟨table, rfl, rfl, (List.append_nil _).symm⟩
  | some fd =>
    have hstep : (Kernel.permitDuplicate pid fd goal r).2.steps =
        r.steps ++ [.duplicate pid fd goal (Kernel.permitDuplicate pid fd goal r).1] :=
      steps_record r rfl
    simp only [redirectOne, Shell.bind_apply]
    rcases hask : Kernel.permitDuplicate pid fd goal r with ⟨errno | _, r₁⟩
    · rw [hask] at hstep
      exact Or.inr ⟨errno, fd, .error errno, rfl, rfl, hstep⟩
    · rw [hask] at hstep
      cases htable : table.duplicate fd goal with
      | none => exact Or.inr ⟨.badDescriptor, fd, .ok (), rfl, rfl, hstep⟩
      | some changed =>
        refine Or.inl ⟨changed, rfl, ?_, hstep⟩
        simp [rewire, htable]

theorem rewire_append (table : Descriptors) (wires more : List (Fd × Fd)) :
    rewire table (wires ++ more) = (rewire table wires).bind fun wired => rewire wired more := by
  induction wires generalizing table with
  | nil => rfl
  | cons wire rest ih =>
    obtain ⟨source, goal⟩ := wire
    rw [List.cons_append, rewire, rewire]
    cases table.duplicate source goal with
    | none => rfl
    | some changed => exact ih changed

/-- Duplicates only change what stands at their goals. -/
theorem get?_rewire {table wired : Descriptors} {wires : List (Fd × Fd)}
    (h : rewire table wires = some wired) {fd : Fd} (hfd : ∀ wire ∈ wires, wire.2 ≠ fd) :
    wired.get? fd = table.get? fd := by
  induction wires generalizing table with
  | nil =>
    cases h
    rfl
  | cons wire rest ih =>
    obtain ⟨source, goal⟩ := wire
    rw [rewire, Option.bind_eq_some_iff] at h
    obtain ⟨changed, hchanged, hwired⟩ := h
    rw [ih hwired fun wire hwire => hfd wire (List.mem_cons_of_mem _ hwire)]
    have hgoal : goal ≠ fd := hfd (source, goal) List.mem_cons_self
    exact DescriptorTable.get?_duplicate_of_ne hgoal.symm hchanged

/-- A write leaves no trace among the steps. -/
theorem steps_tell (table : Descriptors) (fd : Fd) (bytes : Bytes) (r : Recorded σ) :
    (tell table fd bytes r).2.steps = r.steps := by
  simp only [tell]
  cases table.get? fd with
  | none => rfl
  | some slot => exact steps_record_transfer r rfl

/-- A process without a program ends, whatever it can tell about the reason. -/
theorem steps_abandon (child : Child) (pid : Pid) (table : Descriptors) (errno : Errno)
    (r : Recorded σ) :
    (child.abandon pid table errno r).2.steps = r.steps ++ [.exit pid 127] := by
  have hexit : ∀ r' : Recorded σ, (Kernel.exit pid 127 r').2.steps = r'.steps ++ [.exit pid 127] :=
    fun r' => steps_record r' rfl
  simp only [abandon, Shell.bind_apply, hexit, steps_tell]

/-- Either all duplicates are made, or some of them are asked for and the last one is not made. -/
theorem redirect_cases (child : Child) (pid : Pid) (table : Descriptors) (r : Recorded σ) :
    (∃ wired, (redirect pid child.input child.output table r).1 = (none, wired) ∧
      rewire table child.wires = some wired ∧
      (redirect pid child.input child.output table r).2.steps =
        r.steps ++ granted pid child.wires) ∨
    (∃ errno remaining calls,
      (redirect pid child.input child.output table r).1 = (some errno, remaining) ∧
      (redirect pid child.input child.output table r).2.steps = r.steps ++ calls ∧
      calls.filterMap Call.duplicated? <+: (child.wires.map fun wire => (pid, wire)) ∧
      ∀ call ∈ calls, call.duplicated?.isSome = true) := by
  simp only [redirect, Shell.bind_apply, wires, wiring]
  have hfirst := redirectOne_cases pid child.input 0 table r
  rcases hr : redirectOne pid child.input 0 table r with ⟨result, r₁⟩
  rw [hr] at hfirst
  rcases hfirst with ⟨fed, rfl, hfed, hsteps⟩ | ⟨errno, fd, answer, hin, rfl, hsteps⟩
  · have hsecond := redirectOne_cases pid child.output 1 fed r₁
    simp only [Shell.bind_apply]
    rcases hr' : redirectOne pid child.output 1 fed r₁ with ⟨result, r₂⟩
    rw [hr'] at hsecond
    rcases hsecond with ⟨wired, rfl, hwired, hsteps'⟩ | ⟨errno, fd, answer, hout, rfl, hsteps'⟩
    · refine Or.inl ⟨wired, rfl, ?_, ?_⟩
      · rw [rewire_append, hfed]
        exact hwired
      · simp only [Shell.pure_apply, hsteps', hsteps, granted, List.map_append, List.append_assoc]
    · refine Or.inr ⟨errno, fed, granted pid (child.input.toList.map fun fd => (fd, 0)) ++
        [.duplicate pid fd 1 answer], rfl, ?_, ?_, ?_⟩
      · exact hsteps'.trans (by rw [hsteps, List.append_assoc])
      · rw [List.filterMap_append, duplicated_granted, hout, List.map_append]
        exact List.prefix_append_right_inj _ |>.2 (List.prefix_refl _)
      · intro call hcall
        rcases List.mem_append.1 hcall with hcall | hcall
        · obtain ⟨wire, -, rfl⟩ := List.mem_map.1 hcall
          rfl
        · rw [List.mem_singleton.1 hcall]
          rfl
  · refine Or.inr ⟨errno, table, [.duplicate pid fd 0 answer], rfl, hsteps, ?_, ?_⟩
    · rw [hin]
      exact List.prefix_append _ _
    · intro call hcall
      rw [List.mem_singleton.1 hcall]
      rfl

/-- The process of a stage takes one of the courses. -/
theorem course_run (child : Child) (pid : Pid) (table : Descriptors) (directory : Directory)
    (r : Recorded σ) :
    ∃ calls, (child.run pid table directory r).2.steps = r.steps ++ calls ∧
      Course child pid table directory calls := by
  simp only [run, Shell.bind_apply]
  have hredirect := redirect_cases child pid table r
  rcases hr : redirect pid child.input child.output table r with ⟨result, r₁⟩
  rw [hr] at hredirect
  rcases hredirect with ⟨wired, rfl, hwired, hsteps⟩ |
    ⟨errno, remaining, calls, rfl, hsteps, hwanted, honly⟩
  · have hexec : ∀ launch : Launch, (Kernel.exec pid launch r₁).2.steps =
        r₁.steps ++ [.exec pid launch (Kernel.exec pid launch r₁).1] := fun launch =>
      steps_record r₁ rfl
    have hexec := hexec ⟨child.arguments, wired.surviving, directory⟩
    simp only [Shell.bind_apply]
    rcases hask : Kernel.exec pid ⟨child.arguments, wired.surviving, directory⟩ r₁ with
      ⟨errno | _, r₂⟩
    · rw [hask] at hexec
      refine ⟨_, ?_, Course.refused wired hwired errno⟩
      simp only [steps_abandon]
      simp only at hexec hsteps
      rw [hexec, hsteps, List.append_assoc, List.append_assoc]
      rfl
    · rw [hask] at hexec
      refine ⟨_, ?_, Course.started wired hwired⟩
      simp only at hexec hsteps
      simp only [Shell.pure_apply, hexec, hsteps, List.append_assoc]
  · refine ⟨calls ++ [.exit pid 127], ?_, Course.unwired calls hwanted honly⟩
    simp only at hsteps
    simp only [steps_abandon, hsteps, List.append_assoc]

end Child

end CommandShell
