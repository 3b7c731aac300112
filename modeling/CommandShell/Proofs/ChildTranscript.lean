import CommandShell.Proofs.ChildCourse
import CommandShell.Proofs.Transcript

/-!
# Transcripts of the process of a stage

All that the process of a stage asks for, its messages included. A process whose program cannot be
started tells the shell the error number and the user the reason, and ends. Main statement: what
such a process asks for is one of these transcripts (`Child.continued_run`).
-/

namespace CommandShell

open Recorded

variable {σ : Type}

namespace Child

/-- What a process tries before it gives up: with which error number, and with which descriptors
it is left. -/
inductive Tried (child : Child) (pid : Pid) (table : Descriptors) (directory : Directory) :
    Errno → Descriptors → List Call → Prop
  /-- A duplicate cannot be made. -/
  | unwired (done rest : List (Fd × Fd)) (source goal : Fd) (errno : Errno)
      (remaining : Descriptors) (answer : Except Errno Unit)
      (hwires : child.wires = done ++ (source, goal) :: rest)
      (hdone : rewire table done = some remaining)
      (hanswer : answer = .error errno ∨
        answer = .ok () ∧ errno = .badDescriptor ∧ remaining.duplicate source goal = none) :
      Tried child pid table directory errno remaining
        (granted pid done ++ [.duplicate pid source goal answer])
  /-- The program cannot be started. -/
  | refused (errno : Errno) (wired : Descriptors) (h : rewire table child.wires = some wired) :
      Tried child pid table directory errno wired (granted pid child.wires ++
        [.exec pid ⟨child.arguments, wired.surviving, directory⟩ (.error errno)])

/-- A process that gives up tells the error number to the shell, and the reason to the user. -/
inductive Abandoned (child : Child) (pid : Pid) (table : Descriptors) (errno : Errno) :
    List Call → Prop
  /-- The messages are written one after the other, as far as they can be. -/
  | intro (report name reason newline : List Call)
      (hreport : Told table child.report errno.toBytes report)
      (hname : Told table 2 (utf8 ("pipesh: " ++ child.program ++ ": ")) name)
      (hreason : Told table 2 (utf8 errno.description) reason)
      (hnewline : Told table 2 (utf8 "\n") newline) :
      Abandoned child pid table errno (report ++ name ++ reason ++ newline ++ [.exit pid 127])

/-- All that the process of a stage asks for, and the error number with which it fails, if it
does. -/
inductive Transcript (child : Child) (pid : Pid) (table : Descriptors) (directory : Directory) :
    Option Errno → List Call → Prop
  /-- The program takes over. -/
  | started (wired : Descriptors) (h : rewire table child.wires = some wired) :
      Transcript child pid table directory none (granted pid child.wires ++
        [.exec pid ⟨child.arguments, wired.surviving, directory⟩ (.ok ())])
  /-- The process gives up. -/
  | failed (errno : Errno) (remaining : Descriptors) (tried told : List Call)
      (htried : child.Tried pid table directory errno remaining tried)
      (htold : child.Abandoned pid remaining errno told) :
      Transcript child pid table directory (some errno) (tried ++ told)

section

variable {child : Child} {pid : Pid} {table remaining : Descriptors} {directory : Directory}
  {errno : Errno} {calls : List Call}

theorem goal_le_one {wire : Fd × Fd} (h : wire ∈ child.wires) : wire.2 ≤ 1 := by
  rw [wires, wiring] at h
  rcases List.mem_append.1 h with h | h
  · obtain ⟨fd, -, rfl⟩ := List.mem_map.1 h
    exact Nat.zero_le 1
  · obtain ⟨fd, -, rfl⟩ := List.mem_map.1 h
    exact Nat.le_refl 1

/-- A process that gives up still has what it began with, the standard streams apart. -/
theorem Tried.get?_remaining (h : child.Tried pid table directory errno remaining calls) {fd : Fd}
    (hfd : 1 < fd) : remaining.get? fd = table.get? fd := by
  cases h with
  | unwired done rest source goal errno remaining answer hwires hdone hanswer =>
    refine get?_rewire hdone fun wire hwire => ?_
    have hmem : wire ∈ child.wires := by
      rw [hwires]
      exact List.mem_append_left _ hwire
    exact Nat.ne_of_lt (Nat.lt_of_le_of_lt (goal_le_one hmem) hfd)
  | refused errno wired h =>
    exact get?_rewire h fun wire hwire =>
      Nat.ne_of_lt (Nat.lt_of_le_of_lt (goal_le_one hwire) hfd)

theorem asker_of_mem_granted {wires : List (Fd × Fd)} {call : Call}
    (h : call ∈ granted pid wires) : call.asker? = some pid := by
  obtain ⟨wire, -, rfl⟩ := List.mem_map.1 h
  rfl

/-- What a process tries is asked for by this process. -/
theorem Tried.asker (h : child.Tried pid table directory errno remaining calls) :
    ∀ call ∈ calls, call.asker? = some pid := by
  intro call hcall
  cases h with
  | unwired done rest source goal errno remaining answer hwires hdone hanswer =>
    rcases List.mem_append.1 hcall with hcall | hcall
    · exact asker_of_mem_granted hcall
    · rw [List.mem_singleton.1 hcall]
      rfl
  | refused errno wired h =>
    rcases List.mem_append.1 hcall with hcall | hcall
    · exact asker_of_mem_granted hcall
    · rw [List.mem_singleton.1 hcall]
      rfl

/-- A process that gives up writes and ends. -/
theorem Abandoned.call_cases (h : child.Abandoned pid remaining errno calls) {call : Call}
    (hcall : call ∈ calls) :
    (∃ goal bytes answer, call = .write goal bytes answer) ∨ call = .exit pid 127 := by
  have hwrite : ∀ {fd : Fd} {bytes : Bytes} {calls : List Call},
      Told remaining fd bytes calls → call ∈ calls →
        ∃ goal bytes answer, call = .write goal bytes answer := by
    intro fd bytes calls htold hmem
    cases htold with
    | nobody h => cases hmem
    | somebody slot h answer => exact ⟨_, _, _, List.mem_singleton.1 hmem⟩
  cases h with
  | intro report name reason newline hreport hname hreason hnewline =>
    simp only [List.mem_append, List.mem_singleton] at hcall
    rcases hcall with (((hcall | hcall) | hcall) | hcall) | hcall
    · exact Or.inl (hwrite hreport hcall)
    · exact Or.inl (hwrite hname hcall)
    · exact Or.inl (hwrite hreason hcall)
    · exact Or.inl (hwrite hnewline hcall)
    · exact Or.inr hcall

/-- The process of a stage asks for nothing but what only a process asks for, and writes. -/
theorem Transcript.call_cases {failure : Option Errno}
    (h : child.Transcript pid table directory failure calls) {call : Call} (hcall : call ∈ calls) :
    call.asker? = some pid ∨ ∃ goal bytes answer, call = .write goal bytes answer := by
  cases h with
  | started wired h =>
    rcases List.mem_append.1 hcall with hcall | hcall
    · exact Or.inl (asker_of_mem_granted hcall)
    · rw [List.mem_singleton.1 hcall]
      exact Or.inl rfl
  | failed errno remaining tried told htried htold =>
    rcases List.mem_append.1 hcall with hcall | hcall
    · exact Or.inl (htried.asker call hcall)
    · rcases htold.call_cases hcall with hwrite | rfl
      · exact Or.inr hwrite
      · exact Or.inl rfl

/-- A process whose program was started has not failed. -/
theorem Transcript.failure_eq_none {failure : Option Errno}
    (h : child.Transcript pid table directory failure calls) {asker : Pid} {launch : Launch}
    (hexec : .exec asker launch (.ok ()) ∈ calls) : failure = none := by
  have hgranted : ∀ {wires : List (Fd × Fd)},
      .exec asker launch (.ok ()) ∉ granted pid wires := by
    intro wires hmem
    obtain ⟨wire, -, heq⟩ := List.mem_map.1 hmem
    cases heq
  cases h with
  | started wired h => rfl
  | failed errno remaining tried told htried htold =>
    exfalso
    rcases List.mem_append.1 hexec with hmem | hmem
    · cases htried with
      | unwired done rest source goal errno remaining answer hwires hdone hanswer =>
        rcases List.mem_append.1 hmem with hmem | hmem
        · exact hgranted hmem
        · cases List.mem_singleton.1 hmem
      | refused errno wired h =>
        rcases List.mem_append.1 hmem with hmem | hmem
        · exact hgranted hmem
        · cases List.mem_singleton.1 hmem
    · rcases htold.call_cases hmem with ⟨goal, bytes, answer, heq⟩ | heq
      · cases heq
      · cases heq

end

variable [Kernel σ]

/-- A duplicate is made, or is asked for and not made. -/
theorem continued_redirectOne (pid : Pid) (source : Option Fd) (goal : Fd) (table : Descriptors)
    (r : Recorded σ) :
    (∃ changed, (redirectOne pid source goal table r).1 = .ok changed ∧
      rewire table (source.toList.map fun fd => (fd, goal)) = some changed ∧
      r.Continued (redirectOne pid source goal table r).2
        (granted pid (source.toList.map fun fd => (fd, goal)))) ∨
    (∃ errno fd answer, source = some fd ∧ (redirectOne pid source goal table r).1 = .error errno ∧
      (answer = .error errno ∨
        answer = .ok () ∧ errno = .badDescriptor ∧ table.duplicate fd goal = none) ∧
      r.Continued (redirectOne pid source goal table r).2 [.duplicate pid fd goal answer]) := by
  cases source with
  | none => exact Or.inl ⟨table, rfl, rfl, .refl r⟩
  | some fd =>
    have hasked : r.Continued (Kernel.permitDuplicate pid fd goal r).2
        [.duplicate pid fd goal (Kernel.permitDuplicate pid fd goal r).1] :=
      continued_record r rfl
    simp only [redirectOne, Shell.bind_apply]
    rcases hask : Kernel.permitDuplicate pid fd goal r with ⟨errno | _, r₁⟩
    · rw [hask] at hasked
      exact Or.inr ⟨errno, fd, .error errno, rfl, rfl, Or.inl rfl, hasked⟩
    · rw [hask] at hasked
      cases htable : table.duplicate fd goal with
      | none =>
        exact Or.inr ⟨.badDescriptor, fd, .ok (), rfl, rfl, Or.inr ⟨rfl, rfl, htable⟩, hasked⟩
      | some changed =>
        refine Or.inl ⟨changed, rfl, ?_, hasked⟩
        simp [rewire, htable]

/-- Either all duplicates are made, or one of them is tried in vain. -/
theorem continued_redirect (child : Child) (pid : Pid) (table : Descriptors)
    (directory : Directory) (r : Recorded σ) :
    (∃ wired, (redirect pid child.input child.output table r).1 = (none, wired) ∧
      rewire table child.wires = some wired ∧
      r.Continued (redirect pid child.input child.output table r).2 (granted pid child.wires)) ∨
    (∃ errno remaining calls,
      (redirect pid child.input child.output table r).1 = (some errno, remaining) ∧
      r.Continued (redirect pid child.input child.output table r).2 calls ∧
      child.Tried pid table directory errno remaining calls) := by
  simp only [redirect, Shell.bind_apply]
  have hfirst := continued_redirectOne pid child.input 0 table r
  rcases hr : redirectOne pid child.input 0 table r with ⟨result, r₁⟩
  rw [hr] at hfirst
  rcases hfirst with ⟨fed, rfl, hfed, hcontinued⟩ |
    ⟨errno, fd, answer, hin, rfl, hanswer, hcontinued⟩
  · have hsecond := continued_redirectOne pid child.output 1 fed r₁
    simp only [Shell.bind_apply]
    rcases hr' : redirectOne pid child.output 1 fed r₁ with ⟨result, r₂⟩
    rw [hr'] at hsecond
    rcases hsecond with ⟨wired, rfl, hwired, hcontinued'⟩ |
      ⟨errno, fd, answer, hout, rfl, hanswer, hcontinued'⟩
    · refine Or.inl ⟨wired, rfl, ?_, ?_⟩
      · rw [wires, wiring, rewire_append, hfed]
        exact hwired
      · rw [wires, wiring, granted, List.map_append]
        exact hcontinued.trans hcontinued'
    · refine Or.inr ⟨errno, fed, _, rfl, hcontinued.trans hcontinued', ?_⟩
      exact .unwired _ [] fd 1 errno fed answer (by rw [wires, wiring, hout]; rfl) hfed hanswer
  · refine Or.inr ⟨errno, table, _, rfl, hcontinued, ?_⟩
    exact .unwired [] _ fd 0 errno table answer (by rw [wires, wiring, hin]; rfl) rfl hanswer

/-- What is told is written to the descriptor, if it is open. -/
theorem continued_tell (table : Descriptors) (fd : Fd) (bytes : Bytes) (r : Recorded σ) :
    ∃ calls, r.Continued (tell table fd bytes r).2 calls ∧ Told table fd bytes calls := by
  simp only [tell]
  cases hget : table.get? fd with
  | none => exact ⟨[], .refl r, .nobody hget⟩
  | some slot => exact ⟨_, continued_record r rfl, .somebody slot hget _⟩

/-- A process that gives up tells the shell and the user why, and ends. -/
theorem continued_abandon (child : Child) (pid : Pid) (table : Descriptors) (errno : Errno)
    (r : Recorded σ) :
    ∃ calls, r.Continued (child.abandon pid table errno r).2 calls ∧
      child.Abandoned pid table errno calls := by
  have hexit : ∀ r' : Recorded σ, r'.Continued (Kernel.exit pid 127 r').2 [.exit pid 127] :=
    fun r' => continued_record r' rfl
  obtain ⟨report, hreport, htold⟩ := continued_tell table child.report errno.toBytes r
  obtain ⟨name, hname, htoldName⟩ := continued_tell table 2
    (utf8 ("pipesh: " ++ child.program ++ ": ")) (tell table child.report errno.toBytes r).2
  obtain ⟨reason, hreason, htoldReason⟩ := continued_tell table 2 (utf8 errno.description)
    (tell table 2 (utf8 ("pipesh: " ++ child.program ++ ": "))
      (tell table child.report errno.toBytes r).2).2
  obtain ⟨newline, hnewline, htoldNewline⟩ := continued_tell table 2 (utf8 "\n")
    (tell table 2 (utf8 errno.description)
      (tell table 2 (utf8 ("pipesh: " ++ child.program ++ ": "))
        (tell table child.report errno.toBytes r).2).2).2
  refine ⟨_, ?_, .intro report name reason newline htold htoldName htoldReason htoldNewline⟩
  exact (((hreport.trans hname).trans hreason).trans hnewline).trans (hexit _)

/-- What the process of a stage asks for is one of the transcripts. -/
theorem continued_run (child : Child) (pid : Pid) (table : Descriptors) (directory : Directory)
    (r : Recorded σ) :
    ∃ failure calls, r.Continued (child.run pid table directory r).2 calls ∧
      child.Transcript pid table directory failure calls := by
  simp only [run, Shell.bind_apply]
  have hredirect := continued_redirect child pid table directory r
  rcases hr : redirect pid child.input child.output table r with ⟨result, r₁⟩
  rw [hr] at hredirect
  rcases hredirect with ⟨wired, rfl, hwired, hcontinued⟩ |
    ⟨errno, remaining, calls, rfl, hcontinued, htried⟩
  · have hexec : r₁.Continued
        (Kernel.exec pid ⟨child.arguments, wired.surviving, directory⟩ r₁).2
        [.exec pid ⟨child.arguments, wired.surviving, directory⟩
          (Kernel.exec pid ⟨child.arguments, wired.surviving, directory⟩ r₁).1] :=
      continued_record r₁ rfl
    simp only [Shell.bind_apply]
    rcases hask : Kernel.exec pid ⟨child.arguments, wired.surviving, directory⟩ r₁ with
      ⟨errno | _, r₂⟩
    · rw [hask] at hexec
      obtain ⟨told, htold, habandoned⟩ := continued_abandon child pid wired errno r₂
      exact ⟨some errno, _, (hcontinued.trans hexec).trans htold,
        .failed errno wired _ told (.refused errno wired hwired) habandoned⟩
    · rw [hask] at hexec
      exact ⟨none, _, hcontinued.trans hexec, .started wired hwired⟩
  · obtain ⟨told, htold, habandoned⟩ := continued_abandon child pid remaining errno r₁
    exact ⟨some errno, _, hcontinued.trans htold, .failed errno remaining calls told htried
      habandoned⟩

end Child

end CommandShell
