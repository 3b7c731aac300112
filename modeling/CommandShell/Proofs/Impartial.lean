import CommandShell.Proofs.LineTranscript
import CommandShell.Proofs.Mirroring

/-!
# What lines leave alone

Apart from the builtins, nothing in a shell depends on what the system is, but for the answers that
it gives. Such an action does the same on a system that passes its requests on to another one, and
so it cannot touch what the first system keeps for itself. Main statements: an action of this kind
leaves the home directory alone (`Impartial.home_eq`), it does not touch what a system carries
along (`Impartial.load_eq`), and it never asks for a directory (`Impartial.lookups_eq`).
-/

namespace CommandShell

open Shell

variable {σ α β γ : Type}

/-- Whether a call looks for a directory. -/
def Call.isLookup : Call → Bool
  | .canonicalize _ _ _ => true
  | .enter _ _ _ => true
  | _ => false

theorem Call.not_isLookup_of_isTransfer {call : Call} (h : call.isTransfer = true) :
    call.isLookup = false := by
  cases call <;> first | rfl | cases h

theorem Call.not_isLookup_of_isOpening {call : Call} (h : call.isOpening = true) :
    call.isLookup = false := by
  cases call <;> first | rfl | cases h

/-- The calls that look for a directory. -/
def lookups (calls : List Call) : List Call := calls.filter Call.isLookup

theorem lookups_append (calls more : List Call) :
    lookups (calls ++ more) = lookups calls ++ lookups more := List.filter_append ..

/-- Other calls are not among them. -/
theorem lookups_eq_nil {calls : List Call} (h : ∀ call ∈ calls, call.isLookup = false) :
    lookups calls = [] :=
  List.filter_eq_nil_iff.mpr fun call hcall => by simp [h call hcall]

/-! ## Systems that carry something along -/

/-- A system that carries something along which no request changes. -/
structure Carrying (β σ : Type) where
  /-- The system that answers. -/
  host : σ
  /-- What is carried along. -/
  load : β

namespace Carrying

/-- The same system that carries something else along. -/
def reload (load : β) (c : Carrying β σ) : Carrying β σ := ⟨c.host, load⟩

/-- Passes a request on. -/
def pass (request : StateM σ α) : StateM (Carrying β σ) α := fun c =>
  ((request c.host).1, ⟨(request c.host).2, c.load⟩)

instance [Kernel σ] : Kernel (Carrying β σ) where
  makePipe pipe := pass (Kernel.makePipe pipe)
  openToRead start path number := pass (Kernel.openToRead start path number)
  openToWrite start path number := pass (Kernel.openToWrite start path number)
  fork descriptors := pass (Kernel.fork descriptors)
  permitDuplicate pid source goal := pass (Kernel.permitDuplicate pid source goal)
  exec pid launch := pass (Kernel.exec pid launch)
  exit pid code := pass (Kernel.exit pid code)
  write goal bytes := pass (Kernel.write goal bytes)
  read source limit descriptors := pass (Kernel.read source limit descriptors)
  wait pid descriptors := pass (Kernel.wait pid descriptors)
  canonicalize start path := pass (Kernel.canonicalize start path)
  enter start path := pass (Kernel.enter start path)
  nameOf directory := pass (Kernel.nameOf directory)
  patience c := Kernel.patience c.host
  supply c := Kernel.supply c.host
  patience_wait pid descriptors c := Kernel.patience_wait pid descriptors c.host
  patience_write goal bytes c := Kernel.patience_write goal bytes c.host
  supply_read source limit descriptors c := Kernel.supply_read source limit descriptors c.host

variable [Kernel σ]

/-- What is carried along does not matter for the answers. -/
theorem passesOn_reload (load : β) :
    PassesOn (reload load : Carrying β σ → Carrying β σ) where
  makePipe _ _ := rfl
  openToRead _ _ _ _ := rfl
  openToWrite _ _ _ _ := rfl
  fork _ _ := rfl
  permitDuplicate _ _ _ _ := rfl
  exec _ _ _ := rfl
  exit _ _ _ := rfl
  write _ _ _ := rfl
  read _ _ _ _ := rfl
  wait _ _ _ := rfl

end Carrying

namespace Recorded

/-- What a record tells of the search for directories. -/
def searched (r : Recorded σ) : Carrying (List Call) σ := ⟨r.host, lookups r.calls⟩

/-- A call of another kind does not show in it. -/
theorem searched_record {request : StateM σ α} {call : α → Call}
    (h : ∀ a, (call a).isLookup = false) :
    Mirrors searched (record request call) (Carrying.pass request) := by
  intro r
  have hcall : lookups [call (request r.host).1] = [] := lookups_eq_nil (by simp [h])
  have hcalls : lookups (r.calls ++ [call (request r.host).1]) = lookups r.calls := by
    rw [lookups_append, hcall, List.append_nil]
  simp only [Carrying.pass, record, searched, hcalls]

variable [Kernel σ]

theorem passesOn_searched : PassesOn (searched : Recorded σ → Carrying (List Call) σ) where
  makePipe _ := searched_record fun _ => rfl
  openToRead _ _ _ := searched_record fun _ => rfl
  openToWrite _ _ _ := searched_record fun _ => rfl
  fork _ := searched_record fun _ => rfl
  permitDuplicate _ _ _ := searched_record fun _ => rfl
  exec _ _ := searched_record fun _ => rfl
  exit _ _ := searched_record fun _ => rfl
  write _ _ := searched_record fun _ => rfl
  read _ _ _ := searched_record fun _ => rfl
  wait _ _ := searched_record fun _ => rfl

end Recorded

/-! ## Actions that do the same on every system -/

/-- An action does the same on every system, and with every home directory. -/
def Impartial (x : ∀ (σ : Type) [Kernel σ], Shell σ α) : Prop :=
  ∀ ⦃τ ρ : Type⦄ [Kernel τ] [Kernel ρ] ⦃host : τ → ρ⦄ (home : Option String → Option String),
    PassesOn host → Mirrors (ShellState.seen host home) (x τ) (x ρ)

namespace Impartial

variable [Kernel σ] {x : ∀ (σ : Type) [Kernel σ], Shell σ α}

/-- The home directory stays the same. -/
theorem home_eq (h : Impartial x) (s : ShellState σ) :
    (x σ s).2.surroundings.home = s.surroundings.home := by
  have hmirrors := h (fun _ => s.surroundings.home) (PassesOn.refl : PassesOn (id : σ → σ))
  have hsame : s.seen id (fun _ => s.surroundings.home) = s := rfl
  exact (congrArg (fun s => s.surroundings.home) (hmirrors.fixed hsame)).symm

/-- What the system carries along stays the same. -/
theorem load_eq (h : Impartial x) (s : ShellState (Carrying β σ)) :
    (x (Carrying β σ) s).2.surroundings.host.load = s.surroundings.host.load := by
  have hpasses : PassesOn (Carrying.reload s.surroundings.host.load : Carrying β σ → _) :=
    Carrying.passesOn_reload s.surroundings.host.load
  have hmirrors := h id hpasses
  have hsame : s.seen (Carrying.reload s.surroundings.host.load) id = s := rfl
  exact (congrArg (fun s => s.surroundings.host.load) (hmirrors.fixed hsame)).symm

/-- No directory is looked for. -/
theorem lookups_eq (h : Impartial x) (s : ShellState (Recorded σ)) :
    lookups (x (Recorded σ) s).2.transcript = lookups s.transcript := by
  have hmirrors := h id Recorded.passesOn_searched s
  have hload := h.load_eq (s.seen Recorded.searched id)
  rw [hmirrors] at hload
  exact hload

end Impartial

/-! ## The parts of a line -/

namespace Shell

variable {τ ρ : Type} {host : τ → ρ} {home : Option String → Option String}

theorem mirrors_isDown : Mirrors (ShellState.seen host home) (isDown : Shell τ _) isDown :=
  fun _ => rfl

theorem mirrors_recover :
    Mirrors (ShellState.seen host home) (Interpreter.recover : Shell τ _) Interpreter.recover :=
  fun _ => rfl

variable [Kernel τ] [Kernel ρ] (hp : PassesOn host)
include hp

theorem mirrors_writeText (fd : Fd) (text : String) :
    Mirrors (ShellState.seen host home) (writeText fd text : Shell τ _) (writeText fd text) := by
  rw [writeText, writeText]
  split
  · exact Mirrors.pure _
  · refine (mirrors_write hp fd _).bind fun answer => ?_
    cases answer <;> exact Mirrors.pure _

theorem mirrors_conclude (v : Verdict) :
    Mirrors (ShellState.seen host home) (v.conclude : Shell τ _) v.conclude := by
  obtain ⟨complaint, event, outcome⟩ := v
  cases complaint with
  | none =>
    cases event with
    | none => exact Mirrors.pure outcome
    | some event => exact (mirrors_note hp event).bind fun _ => Mirrors.pure outcome
  | some text =>
    refine (mirrors_print hp standardError (text ++ "\n")).bind fun _ => ?_
    cases event with
    | none => exact Mirrors.pure outcome
    | some event => exact (mirrors_note hp event).bind fun _ => Mirrors.pure outcome

theorem mirrors_deliverToFile (reply : Reply) (fd : Fd) :
    Mirrors (ShellState.seen host home) (reply.deliverToFile fd : Shell τ _)
      (reply.deliverToFile fd) :=
  (mirrors_writeText hp fd reply.output).bind fun fault => mirrors_conclude hp (reply.verdict fault)

theorem mirrors_deliverToOutput (reply : Reply) :
    Mirrors (ShellState.seen host home) (reply.deliverToOutput : Shell τ _)
      reply.deliverToOutput := by
  refine (mirrors_writeText hp _ _).bind fun fault => ?_
  refine (mirrors_conclude hp _).bind fun outcome => ?_
  cases forgiveClosed fault with
  | some fault => exact Mirrors.pure _
  | none =>
    refine (mirrors_writeText hp _ _).bind fun fault => ?_
    cases forgiveClosed fault with
    | none => exact Mirrors.pure _
    | some fault => exact (mirrors_note hp _).bind fun _ => Mirrors.pure _

end Shell

namespace Interpreter

/-- A reply is delivered in the same way on every system. -/
theorem impartial_deliver (output : Option Fd) (reply : Reply) :
    Impartial fun _ _ => deliver output reply := by
  intro τ ρ _ _ host home hp
  cases output with
  | none => exact mirrors_deliverToOutput hp reply
  | some fd =>
    refine (mirrors_deliverToFile hp reply fd).bind fun outcome => ?_
    exact Mirrors.bind (fun _ => rfl) fun _ => Mirrors.pure _

/-- The targets of a builtin are opened in the same way on every system. -/
theorem impartial_openTargets (stage : Stage) : Impartial fun _ _ => openTargets stage := by
  intro τ ρ _ _ host home hp
  refine (StageIo.mirrors_openTarget (mirrors_openFile hp.openToRead) _).bind fun answer => ?_
  cases answer with
  | error error => exact Mirrors.pure _
  | ok input =>
    refine (mirrors_closeOption input).bind fun _ => ?_
    exact StageIo.mirrors_openTarget (mirrors_openFile hp.openToWrite) _

theorem impartial_complainAborted (index : Nat) (outcomes : List StageOutcome) :
    Impartial fun _ _ => complainAborted index outcomes := by
  intro τ ρ _ _ host home hp
  induction outcomes generalizing index with
  | nil => exact Mirrors.pure _
  | cons outcome rest ih =>
    cases outcome with
    | finished status => exact ih (index + 1)
    | aborted error =>
      refine (mirrors_print hp _ _).bind fun _ => mirrors_isDown.bind fun down => ?_
      cases down with
      | true => exact Mirrors.pure _
      | false => exact ih (index + 1)

/-- A pipeline of programs is run in the same way on every system. -/
theorem impartial_runPrograms (streams : Streams) (p : Pipeline) :
    Impartial fun σ _ => (⟨.empty, streams⟩ : Interpreter σ).runPrograms p := by
  intro τ ρ _ _ host home hp
  refine (mirrors_execute hp streams p).bind fun answer => ?_
  cases answer with
  | error error => exact Mirrors.pure _
  | ok report =>
    refine (impartial_complainAborted 0 report.earlier home hp).bind fun _ => ?_
    cases report.conclusion <;> exact Mirrors.pure _

/-- An error is told to the user in the same way on every system. -/
theorem impartial_settleLine (result : Except ShellError Outcome) :
    Impartial fun _ _ => settleLine result := by
  intro τ ρ _ _ host home hp
  refine mirrors_isDown.bind fun down => ?_
  cases down with
  | true => exact Mirrors.pure _
  | false =>
    cases result with
    | ok outcome => exact Mirrors.pure _
    | error error =>
      refine (mirrors_note hp _).bind fun _ => ?_
      exact (mirrors_print hp _ _).bind fun _ => Mirrors.pure _

end Interpreter

end CommandShell
