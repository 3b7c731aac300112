import CommandShell.Builtin.Sink
import CommandShell.Proofs.ChangingDirectory
import CommandShell.Proofs.Leaving

/-!
# Builtins on a sink that fails

A sink takes a number of bytes and then fails. The output of a builtin reaches it in pieces, one
after the other until the first one that fails, and in however many pieces that is, the sink takes
what fits and the builtin learns of the failure (`Sink.writeAll_eq`). Main statement: the builtins
of the shell write as much as fits, work on the working directory as ever and go on or leave as
ever; their status is the one that they would have anyway if all of the output fits or if it is a
usage text, and it is one otherwise (`Builtin.withstanding_sinks`).
-/

namespace CommandShell

open Shell

variable {σ : Type}

/-! ## Writing in pieces -/

namespace Sink

/-- Writes pieces one after the other until one of them fails. -/
def writeAll (s : Sink) : List Bytes → Option Fault × Sink
  | [] => (none, s)
  | piece :: rest =>
    match s.write piece with
    | (none, s) => s.writeAll rest
    | (some fault, s) => (some fault, s)

/-- A piece that fits leaves so much less room to the rest. -/
theorem write_append_of_le {taken bytes more : Bytes} {room : Nat} (h : bytes.length ≤ room) :
    (⟨taken, some room⟩ : Sink).write (bytes ++ more) =
      (⟨taken ++ bytes, some (room - bytes.length)⟩ : Sink).write more := by
  have hfits : (bytes ++ more).length ≤ room ↔ more.length ≤ room - bytes.length := by
    rw [List.length_append]
    omega
  have hroom : room - (bytes ++ more).length = room - bytes.length - more.length := by
    rw [List.length_append]
    omega
  simp only [write, hfits, hroom, List.take_append, List.take_of_length_le h, List.append_assoc]

/-- What follows a piece that does not fit makes no difference. -/
theorem write_append_of_lt {taken bytes : Bytes} {room : Nat} (h : room < bytes.length)
    (more : Bytes) :
    (⟨taken, some room⟩ : Sink).write (bytes ++ more) =
      (⟨taken, some room⟩ : Sink).write bytes := by
  have hboth : room < (bytes ++ more).length := by
    rw [List.length_append]
    omega
  have hnone : room - (bytes ++ more).length = room - bytes.length := by omega
  simp only [write, if_neg (Nat.not_le.mpr h), if_neg (Nat.not_le.mpr hboth), hnone,
    List.take_append_of_le_length h.le]

/-- The pieces in which bytes are written make no difference. -/
theorem writeAll_eq (s : Sink) (pieces : List Bytes) :
    s.writeAll pieces = s.write pieces.flatten := by
  induction pieces generalizing s with
  | nil =>
    obtain ⟨taken, room⟩ := s
    cases room <;> simp [writeAll, write]
  | cons piece rest ih =>
    obtain ⟨taken, room⟩ := s
    rw [writeAll, List.flatten_cons]
    cases room with
    | none =>
      simp only [write, ih]
      rw [List.append_assoc]
    | some room =>
      by_cases hfits : piece.length ≤ room
      · have hroom : (⟨taken, some room⟩ : Sink).write piece =
            (none, ⟨taken ++ piece, some (room - piece.length)⟩) := by
          simp only [write, if_pos hfits, List.take_of_length_le hfits]
        rw [hroom, write_append_of_le hfits]
        exact ih _
      · have hroom : (⟨taken, some room⟩ : Sink).write piece =
            (some full, ⟨taken ++ piece.take room, some (room - piece.length)⟩) := by
          simp only [write, if_neg hfits]
        rw [write_append_of_lt (Nat.not_le.mp hfits), hroom]

end Sink

/-- A way to cut the output of replies into the pieces that are written. -/
structure Cutting where
  /-- The pieces of the output of a reply. -/
  pieces : Reply → List Bytes
  /-- Nothing is lost between them. -/
  flatten_pieces : ∀ reply, (pieces reply).flatten = utf8 reply.output

section

variable [Kernel σ]

/-- Delivers a reply to a sink in pieces. -/
def Reply.deliverInPieces (reply : Reply) (cutting : Cutting) (sink : Sink) :
    Shell σ (Outcome × Bytes) := do
  let (fault, sink) := sink.writeAll (cutting.pieces reply)
  let outcome ← (reply.verdict fault).conclude
  return (outcome, sink.taken)

theorem Reply.deliverInPieces_eq (reply : Reply) (cutting : Cutting) (sink : Sink) :
    reply.deliverInPieces (σ := σ) cutting sink = reply.deliverToSink sink := by
  rw [deliverInPieces, sink.writeAll_eq, cutting.flatten_pieces]
  rfl

namespace Handler

/-- Runs a builtin with all its arguments, its output going to a sink: what it leaves behind, and
what the sink has taken. -/
def serveTo (handler : Handler σ) (argv : List String) (listing : Listing) (sink : Sink) :
    Shell σ (Outcome × Bytes) := do
  let reply ← within (handler.invoke argv listing)
  reply.deliverToSink sink

/-- Runs a builtin with all its arguments, its output going to a sink in pieces. -/
def serveInPieces (handler : Handler σ) (cutting : Cutting) (argv : List String)
    (listing : Listing) (sink : Sink) : Shell σ (Outcome × Bytes) := do
  let reply ← within (handler.invoke argv listing)
  reply.deliverInPieces cutting sink

theorem serveInPieces_eq (handler : Handler σ) (cutting : Cutting) (argv : List String)
    (listing : Listing) (sink : Sink) :
    handler.serveInPieces cutting argv listing sink = handler.serveTo argv listing sink := by
  simp only [serveInPieces, serveTo, Reply.deliverInPieces_eq]

end Handler

end

/-! ## Replies whose output gets lost -/

/-- What a reply makes of output that got lost: the shell goes on or leaves as ever, and the status
is one, unless the output is a usage text, in which case nothing changes. -/
structure Reply.Tolerates (reply : Reply) (isUsage : Prop) : Prop where
  continueLoop : ∀ fault, (reply.lost fault).outcome.continueLoop =
    reply.written.outcome.continueLoop
  shown : isUsage → ∀ fault, (reply.lost fault).outcome = reply.written.outcome
  status : ¬ isUsage → ∀ fault, (reply.lost fault).outcome.status = 1

/-- A reply for every sink: it has no output, or it says what lost output means. -/
def Reply.Withstands (reply : Reply) (isUsage : Prop) : Prop :=
  reply.output = "" ∨ reply.Tolerates isUsage

theorem Reply.withstands_completed (output : String) (status : Int) :
    (completed output (.proceed status)).Withstands False :=
  .inr ⟨fun _ => rfl, False.elim, fun _ _ => rfl⟩

theorem Reply.withstands_usage (name text : String) (status : Int) {isUsage : Prop} (h : isUsage) :
    (usage name text status).Withstands isUsage :=
  .inr ⟨fun _ => rfl, fun _ _ => rfl, fun hnot => absurd h hnot⟩

/-- What a builtin does on a sink with room for some bytes, beside what it does on a sink that takes
everything. -/
structure Shortened (full short : (Outcome × Bytes) × ShellState σ) (room : Nat)
    (isUsage : Prop) : Prop where
  /-- As much is written as there is room for. -/
  taken : short.1.2 = full.1.2.take room
  /-- The working directory is the same. -/
  directory : short.2.surroundings.directory = full.2.surroundings.directory
  /-- The shell goes on or leaves as it would. -/
  continueLoop : short.1.1.continueLoop = full.1.1.continueLoop
  /-- The status is the same if all of the output fits or if it is a usage text. -/
  kept : full.1.2.length ≤ room ∨ isUsage → short.1.1.status = full.1.1.status
  /-- The status is one otherwise. -/
  lost : ¬ (full.1.2.length ≤ room ∨ isUsage) → short.1.1.status = 1

section

variable [Kernel σ]

theorem directory_write (fd : Fd) (bytes : Bytes) (s : ShellState σ) :
    (write fd bytes s).2.surroundings.directory = s.surroundings.directory := by
  simp only [write, bind, StateT.bind, get, getThe, MonadStateOf.get, StateT.get, pure]
  cases s.descriptors.get? fd <;> rfl

theorem directory_complain (text : String) (s : ShellState σ) :
    (complain text s).2.surroundings.directory = s.surroundings.directory :=
  directory_write standardError (utf8 text) s

theorem directory_note (event : Event) (s : ShellState σ) :
    (note event s).2.surroundings.directory = s.surroundings.directory := by
  simp only [note, bind, StateT.bind, get, getThe, MonadStateOf.get, StateT.get, pure]
  split
  · exact directory_write _ _ s
  · rfl

theorem Verdict.directory_conclude (v : Verdict) (s : ShellState σ) :
    (v.conclude s).2.surroundings.directory = s.surroundings.directory := by
  obtain ⟨complaint, event, outcome⟩ := v
  have hnoted (s : ShellState σ) :
      (conclude ⟨none, event, outcome⟩ s).2.surroundings.directory = s.surroundings.directory := by
    cases event with
    | none => rfl
    | some event => exact directory_note event s
  cases complaint with
  | none => exact hnoted s
  | some text => exact (hnoted (complain (text ++ "\n") s).2).trans (directory_complain _ s)

/-- What is delivered to a sink. -/
theorem Reply.deliverToSink_apply (reply : Reply) (sink : Sink) (s : ShellState σ) :
    reply.deliverToSink sink s =
      (((reply.verdict (sink.write (utf8 reply.output)).1).outcome,
        (sink.write (utf8 reply.output)).2.taken),
        ((reply.verdict (sink.write (utf8 reply.output)).1).conclude s).2) := by
  rw [← Verdict.conclude_fst _ s]
  rfl

/-- A reply that withstands is delivered as far as there is room. -/
theorem Reply.Withstands.shortened {reply : Reply} {isUsage : Prop}
    (h : reply.Withstands isUsage) (room : Nat) (s : ShellState σ) :
    Shortened (reply.deliverToSink .unlimited s) (reply.deliverToSink (.limited room) s) room
      isUsage := by
  rw [deliverToSink_apply, deliverToSink_apply, Sink.write_unlimited]
  have htaken := Sink.taken_write room (utf8 reply.output)
  have hdirectory : ∀ v v' : Verdict, (v.conclude s).2.surroundings.directory =
      (v'.conclude s).2.surroundings.directory := fun v v' => by
    rw [v.directory_conclude, v'.directory_conclude]
  by_cases hfits : (utf8 reply.output).length ≤ room
  · have hnone : ((Sink.limited room).write (utf8 reply.output)).1 = none := by
      simp only [Sink.limited, Sink.write, if_pos hfits]
    rw [hnone]
    exact ⟨htaken, hdirectory _ _, rfl, fun _ => rfl, fun hnot => absurd (.inl hfits) hnot⟩
  · have hfull : ((Sink.limited room).write (utf8 reply.output)).1 = some Sink.full := by
      simp only [Sink.limited, Sink.write, if_neg hfits]
    have htolerates : reply.Tolerates isUsage := by
      refine h.resolve_left fun hempty => hfits ?_
      rw [hempty, utf8_empty]
      exact Nat.zero_le _
    rw [hfull]
    refine ⟨htaken, hdirectory _ _, htolerates.continueLoop _, fun hkept => ?_, fun hnot => ?_⟩
    · exact congrArg Outcome.status (htolerates.shown (hkept.resolve_left hfits) _)
    · exact htolerates.status (fun husage => hnot (.inr husage)) _

end

/-! ## The builtins of the shell -/

namespace Builtin

/-- Arguments upon which a builtin shows a usage text: they ask for it, or they make no sense. -/
def Explains {α : Type} (b : Builtin σ α) (arguments : List String) : Prop :=
  ∀ value, b.grammar.read arguments ≠ .ok (.run value)

/-- The replies of a builtin are usage texts, or it withstands when it is run. -/
theorem withstands_handler {α : Type} {b : Builtin σ α}
    (h : ∀ value listing w, (b.run value listing w).1.Withstands False) (argv : List String)
    (listing : Listing) (w : Surroundings σ) :
    (b.handler.invoke argv listing w).1.Withstands (b.Explains argv.tail) := by
  change (b.answer argv.tail listing w).1.Withstands _
  rw [answer]
  rcases hread : b.grammar.read argv.tail with fault | value | _
  · have hexplains : b.Explains argv.tail := fun value heq => by
      rw [hread] at heq
      cases heq
    exact Reply.withstands_usage _ _ _ hexplains
  · have hruns : ¬ b.Explains argv.tail := fun hnot => hnot value hread
    rcases h value listing w with hempty | htolerates
    · exact .inl hempty
    · exact .inr ⟨htolerates.continueLoop, fun hexplains => absurd hexplains hruns,
        fun _ => htolerates.status not_false⟩
  · have hexplains : b.Explains argv.tail := fun value heq => by
      rw [hread] at heq
      cases heq
    exact Reply.withstands_usage _ _ _ hexplains

variable [Kernel σ]

/-- Going to a directory has no output. -/
theorem withstands_cd (target : Option String) (listing : Listing) (w : Surroundings σ) :
    (cd.run target listing w).1.Withstands False := by
  refine .inl ?_
  have hsilent {goal : Option String} {reply : Reply} {left : Surroundings σ}
      (h : Course w goal reply left) : reply.output = "" := by
    cases h <;> rfl
  exact hsilent (Builtin.course_changeDirectory target w)

theorem withstands_pwd (value : Unit) (listing : Listing) (w : Surroundings σ) :
    (pwd.run value listing w).1.Withstands False := by
  change (showDirectory w).1.Withstands False
  rw [showDirectory, bind_apply]
  rcases Action.workingDirectory w with ⟨fault | path, left⟩
  · exact .inl rfl
  · exact Reply.withstands_completed _ _

/-- A builtin does on a sink with room for some bytes what it does on one that takes everything,
as far as the room goes, and it does the same in whatever pieces it writes. -/
def WithstandsSinks {α : Type} (b : Builtin σ α) : Prop :=
  ∀ (argv : List String) (r : Registry σ) (s : ShellState σ) (room : Nat),
    Shortened (b.handler.serveTo argv r.listing .unlimited s)
        (b.handler.serveTo argv r.listing (.limited room) s) room (b.Explains argv.tail) ∧
      ∀ cutting, b.handler.serveInPieces cutting argv r.listing (.limited room) s =
        b.handler.serveTo argv r.listing (.limited room) s

theorem withstandsSinks_of_run {α : Type} {b : Builtin σ α}
    (h : ∀ value listing w, (b.run value listing w).1.Withstands False) : b.WithstandsSinks := by
  intro argv r s room
  have hwithstands := withstands_handler h argv r.listing s.surroundings
  constructor
  · rw [Handler.serveTo, Handler.serveTo, bind_apply, bind_apply]
    exact hwithstands.shortened room _
  · intro cutting
    rw [Handler.serveInPieces_eq]

/-- The builtins of the shell on a sink that fails. -/
theorem withstanding_sinks :
    (cd : Builtin σ _).WithstandsSinks ∧ (exit : Builtin σ _).WithstandsSinks ∧
      (help : Builtin σ _).WithstandsSinks ∧ (pwd : Builtin σ _).WithstandsSinks := by
  refine ⟨withstandsSinks_of_run withstands_cd, withstandsSinks_of_run fun status listing w => ?_,
    withstandsSinks_of_run fun value listing w => ?_, withstandsSinks_of_run withstands_pwd⟩
  · exact .inl rfl
  · exact Reply.withstands_completed _ _

end Builtin

end CommandShell
