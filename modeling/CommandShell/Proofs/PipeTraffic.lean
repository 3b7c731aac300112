import CommandShell.Proofs.Processes
import CommandShell.Proofs.Transcript

/-!
# What passes through a pipe

The bytes that are written to a pipe and read from it, as a transcript shows them. A pipe comes to
its end when nobody has the end to which is written any more, neither the reader nor a process;
until then nothing is promised of a read. From then on a read brings the next of the bytes that were
written, and none only if all of them were read. Main statement: who reads to the end of such a pipe
hears all that was written (`Heard.eq_ok`).
-/

namespace CommandShell

/-- The bytes that a call wrote to a place. -/
def Call.writtenTo? (goal : Resource) : Call → Option Bytes
  | .write other bytes (.ok ()) => if other = goal then some bytes else none
  | _ => none

/-- The bytes that a call read from a place. -/
def Call.readFrom? (source : Resource) : Call → Option Bytes
  | .read other _ _ (.ok bytes) => if other = source then some bytes else none
  | _ => none

/-- All bytes that were written to a place. -/
def bytesWritten (goal : Resource) (calls : List Call) : Bytes :=
  (calls.filterMap (Call.writtenTo? goal)).flatten

/-- All bytes that were read from a place. -/
def bytesRead (source : Resource) (calls : List Call) : Bytes :=
  (calls.filterMap (Call.readFrom? source)).flatten

/-- Nobody has something: neither a shell with a table, nor a process that some calls have made and
left. -/
def Forsaken (table : Descriptors) (resource : Resource) (calls : List Call) : Prop :=
  table.refersTo (fun other => decide (other = resource)) = false ∧
    ∀ process ∈ Process.after [] calls, process.holds resource = false

instance (table : Descriptors) (resource : Resource) (calls : List Call) :
    Decidable (Forsaken table resource calls) :=
  inferInstanceAs (Decidable (_ = false ∧ ∀ process ∈ _, _ = false))

/-- What a read may bring of a pipe to which nobody can write any more: it is interrupted, or it
brings some of the bytes that are left, and at the end it brings none. -/
def PassedOn (pipe : Nat) (before : List Call) : Except Errno Bytes → Prop
  | .error errno => errno = .interrupted
  | .ok bytes =>
    bytesRead (.readEnd pipe) before ++ bytes <+: bytesWritten (.writeEnd pipe) before ∧
      (bytes = [] → bytesRead (.readEnd pipe) before = bytesWritten (.writeEnd pipe) before)

instance (pipe : Nat) (before : List Call) (answer : Except Errno Bytes) :
    Decidable (PassedOn pipe before answer) :=
  match answer with
  | .error errno => inferInstanceAs (Decidable (errno = .interrupted))
  | .ok bytes => inferInstanceAs (Decidable ((bytesRead (.readEnd pipe) before ++ bytes <+:
      bytesWritten (.writeEnd pipe) before) ∧ (bytes = [] →
        bytesRead (.readEnd pipe) before = bytesWritten (.writeEnd pipe) before)))

/-- A read from a pipe that has come to its end brings what is left. -/
def Call.Delivered (pipe : Nat) (before : List Call) : Call → Prop
  | .read source limit table answer =>
    source = .readEnd pipe → 0 < limit → Forsaken table (.writeEnd pipe) before →
      PassedOn pipe before answer
  | _ => True

instance (pipe : Nat) (before : List Call) (call : Call) : Decidable (call.Delivered pipe before) :=
  match call with
  | .read source limit table answer => inferInstanceAs (Decidable (source = .readEnd pipe →
      0 < limit → Forsaken table (.writeEnd pipe) before → PassedOn pipe before answer))
  | .makePipe _ _ | .openToRead _ _ _ _ | .openToWrite _ _ _ _ | .fork _ _ | .duplicate _ _ _ _
  | .exec _ _ _ | .exit _ _ | .write _ _ _ | .wait _ _ _ | .canonicalize _ _ _ | .enter _ _ _
  | .nameOf _ _ => .isTrue trivial

/-- A pipe delivers what is written to it, as far as it is read after some calls. -/
def Delivers (pipe : Nat) : List Call → List Call → Prop
  | _, [] => True
  | before, call :: rest => call.Delivered pipe before ∧ Delivers pipe (before ++ [call]) rest

instance decidableDelivers (pipe : Nat) (before : List Call) :
    (calls : List Call) → Decidable (Delivers pipe before calls)
  | [] => .isTrue trivial
  | call :: rest =>
    @instDecidableAnd (call.Delivered pipe before) (Delivers pipe (before ++ [call]) rest)
      inferInstance (decidableDelivers pipe (before ++ [call]) rest)

/-- A pipe for a report does what it is for: what is written is accepted, and it is delivered. -/
structure Reporting (calls : List Call) (pipe : Nat) : Prop where
  /-- What is written is accepted. -/
  writes : ∀ bytes answer, .write (.writeEnd pipe) bytes answer ∈ calls → answer = .ok ()
  /-- What is written is delivered. -/
  delivers : Delivers pipe [] calls

/-- Whether a call is no write that a pipe refuses. -/
def Call.accepted (pipe : Nat) : Call → Bool
  | .write goal _ (.error _) => goal != .writeEnd pipe
  | _ => true

theorem reporting_iff {calls : List Call} {pipe : Nat} : Reporting calls pipe ↔
    (∀ call ∈ calls, call.accepted pipe = true) ∧ Delivers pipe [] calls := by
  constructor
  · rintro ⟨hwrites, hdelivers⟩
    refine ⟨fun call hcall => ?_, hdelivers⟩
    rw [Call.accepted.eq_def]
    split
    · next goal bytes errno =>
      rw [bne_iff_ne]
      rintro rfl
      cases hwrites bytes _ hcall
    · rfl
  · rintro ⟨haccepted, hdelivers⟩
    refine ⟨fun bytes answer hmem => ?_, hdelivers⟩
    cases answer with
    | ok => rfl
    | error errno => simpa [Call.accepted] using haccepted _ hmem

instance (calls : List Call) (pipe : Nat) : Decidable (Reporting calls pipe) :=
  decidable_of_iff _ reporting_iff.symm

/-- The pipe that a call has made. -/
def Call.made? : Call → Option Nat
  | .makePipe pipe (.ok ()) => some pipe
  | _ => none

/-- Whether all pipes are for reports that are passed on can be checked pipe by pipe. -/
theorem forall_reporting_iff {calls : List Call} :
    (∀ pipe, .makePipe pipe (.ok ()) ∈ calls → Reporting calls pipe) ↔
      ∀ pipe ∈ calls.filterMap Call.made?, Reporting calls pipe := by
  refine forall_congr' fun pipe => imp_congr_left ?_
  rw [List.mem_filterMap]
  constructor
  · exact fun hmem => ⟨_, hmem, rfl⟩
  · rintro ⟨call, hmem, hmade⟩
    rw [Call.made?.eq_def] at hmade
    split at hmade
    · cases hmade
      exact hmem
    · cases hmade

/-! ## Bytes of a transcript -/

section

variable {goal source : Resource} {calls more : List Call}

theorem bytesWritten_append :
    bytesWritten goal (calls ++ more) = bytesWritten goal calls ++ bytesWritten goal more := by
  rw [bytesWritten, List.filterMap_append, List.flatten_append]
  rfl

theorem bytesRead_append :
    bytesRead source (calls ++ more) = bytesRead source calls ++ bytesRead source more := by
  rw [bytesRead, List.filterMap_append, List.flatten_append]
  rfl

/-- Nothing is written to a place if no call does so. -/
theorem bytesWritten_eq_nil (h : ∀ call ∈ calls, call.writtenTo? goal = none) :
    bytesWritten goal calls = [] := by
  rw [bytesWritten, List.filterMap_eq_nil_iff.2 h]
  rfl

/-- Nothing is read from a place if no call does so. -/
theorem bytesRead_eq_nil (h : ∀ call ∈ calls, call.readFrom? source = none) :
    bytesRead source calls = [] := by
  rw [bytesRead, List.filterMap_eq_nil_iff.2 h]
  rfl

/-- Nothing is written to a place if no write to it is accepted. -/
theorem bytesWritten_eq_nil_of_not_mem (h : ∀ bytes, .write goal bytes (.ok ()) ∉ calls) :
    bytesWritten goal calls = [] := by
  apply bytesWritten_eq_nil
  intro call hcall
  cases call with
  | write other bytes answer =>
    cases answer with
    | error errno => rfl
    | ok =>
      refine if_neg fun hgoal => h bytes ?_
      rwa [← hgoal]
  | _ => rfl

/-- What moves no bytes does not write. -/
theorem Call.writtenTo?_of_step {call : Call} (h : call.isTransfer = false) (goal : Resource) :
    call.writtenTo? goal = none := by
  cases call <;> first | rfl | cases h

/-- What moves no bytes does not read. -/
theorem Call.readFrom?_of_step {call : Call} (h : call.isTransfer = false) (source : Resource) :
    call.readFrom? source = none := by
  cases call <;> first | rfl | cases h

/-- What writes does not read. -/
theorem Call.readFrom?_of_isWrite {call : Call} (h : call.isWrite = true) (source : Resource) :
    call.readFrom? source = none := by
  cases call <;> first | rfl | cases h

/-- Nothing is written where no descriptor leads. -/
theorem Reached.bytesWritten_eq_nil {table : Descriptors} (h : Reached table calls)
    (hgoal : table.refersTo (fun other => decide (other = goal)) = false) :
    bytesWritten goal calls = [] := by
  refine bytesWritten_eq_nil_of_not_mem fun bytes hmem => ?_
  obtain ⟨fd, slot, hslot, htarget⟩ := h _ _ _ hmem
  have hrefers := (table.refersTo_iff fun other => decide (other = goal)).2
    ⟨fd, slot, hslot, decide_eq_true htarget⟩
  rw [hgoal] at hrefers
  cases hrefers

/-- What is told and accepted is written where the descriptor leads. -/
theorem Told.bytesWritten_eq {table : Descriptors} {fd : Fd} {bytes : Bytes} {slot : Slot Resource}
    (h : Told table fd bytes calls) (hslot : table.get? fd = some slot)
    (hwrites : ∀ bytes answer, .write slot.target bytes answer ∈ calls → answer = .ok ()) :
    bytesWritten slot.target calls = bytes := by
  cases h with
  | nobody h =>
    rw [hslot] at h
    cases h
  | somebody slot' h answer =>
    rw [hslot] at h
    cases h
    rw [hwrites bytes answer (List.mem_singleton_self _), bytesWritten]
    simp [Call.writtenTo?]

/-! ## Hearing -/

/-- What is delivered in all calls is delivered in the last of them. -/
theorem Delivers.of_append {pipe : Nat} {before : List Call}
    (h : Delivers pipe before (calls ++ more)) : Delivers pipe (before ++ calls) more := by
  induction calls generalizing before with
  | nil => simpa using h
  | cons call rest ih => simpa using ih h.2

/-- What is delivered in all calls is delivered in the first of them. -/
theorem Delivers.left {pipe : Nat} {before : List Call}
    (h : Delivers pipe before (calls ++ more)) : Delivers pipe before calls := by
  induction calls generalizing before with
  | nil => trivial
  | cons call rest ih => exact ⟨h.1, ih h.2⟩

/-- A read changes nothing of who has the pipe. -/
theorem Forsaken.read {table : Descriptors} {before : List Call}
    (h : Forsaken table goal before) (source : Resource) (limit : Nat) (reader : Descriptors)
    (answer : Except Errno Bytes) :
    Forsaken table goal (before ++ [.read source limit reader answer]) := by
  refine ⟨h.1, ?_⟩
  rw [Process.after_append]
  exact h.2

/-- Who reads to the end of a pipe that nobody can write to any more hears all that is left in
it. -/
theorem Heard.eq_ok {pipe : Nat} {table : Descriptors} {before : List Call}
    {result : Except Errno Bytes} (h : Heard (.readEnd pipe) table calls result)
    (hdelivers : Delivers pipe before calls)
    (hforsaken : Forsaken table (.writeEnd pipe) before) :
    ∃ rest, result = .ok rest ∧
      bytesRead (.readEnd pipe) before ++ rest = bytesWritten (.writeEnd pipe) before := by
  have hwritten : ∀ before answer, bytesWritten (.writeEnd pipe)
      (before ++ [.read (.readEnd pipe) readSize table answer]) =
        bytesWritten (.writeEnd pipe) before := by
    intro before answer
    rw [bytesWritten_append]
    exact List.append_nil _
  -- The induction is on the reads: each of them takes its bytes off those that are left.
  induction h generalizing before with
  | nothing =>
    have hlast : PassedOn pipe before (.ok []) := hdelivers.1 rfl (by decide) hforsaken
    exact ⟨[], rfl, (List.append_nil _).trans (hlast.2 rfl)⟩
  | bytes bytes calls result hne hrest ih =>
    obtain ⟨rest, rfl, hleft⟩ := ih hdelivers.2 (hforsaken.read _ _ _ _)
    refine ⟨bytes ++ rest, rfl, ?_⟩
    rw [hwritten, bytesRead_append] at hleft
    simpa [bytesRead, Call.readFrom?] using hleft
  | again calls result hrest ih =>
    obtain ⟨rest, hresult, hleft⟩ := ih hdelivers.2 (hforsaken.read _ _ _ _)
    have hnothing : bytesRead (.readEnd pipe)
        [.read (.readEnd pipe) readSize table (.error .interrupted)] = [] := rfl
    rw [hwritten, bytesRead_append, hnothing, List.append_nil] at hleft
    exact ⟨rest, hresult, hleft⟩
  | failed errno h => exact absurd (hdelivers.1 rfl (by decide) hforsaken) h

/-- What is heard to the end are all bytes that are read. -/
theorem Heard.bytesRead_eq {table : Descriptors} {result : Except Errno Bytes}
    (h : Heard source table calls result) {bytes : Bytes} (hresult : result = .ok bytes) :
    bytesRead source calls = bytes := by
  induction h generalizing bytes with
  | nothing =>
    cases hresult
    simp [bytesRead, Call.readFrom?]
  | bytes first calls result hne hrest ih =>
    cases result with
    | error errno => cases hresult
    | ok more =>
      cases hresult
      rw [← ih rfl]
      simp [bytesRead, Call.readFrom?]
  | again calls result hrest ih => exact ih hresult
  | failed errno hne => cases hresult

end

end CommandShell
