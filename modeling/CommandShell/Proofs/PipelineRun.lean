import CommandShell.Proofs.PipeRow
import CommandShell.Proofs.Waiting

/-!
# The run of a pipeline

A pipeline makes its pipes, has the turns of its stages one after the other, and waits. At the
beginning of every turn the ends that are still there are those of the stages to come, and that is
all that the shell holds in addition to what it had. Main statements: this is so in every turn
(`placed_turns`), and a run asks for its pipes, for what is asked for in the turns, and waits, in
this order (`staged_execute`).
-/

namespace CommandShell

open Shell

variable {σ : Type}

/-- A descriptor was taken that is an end of a pipe, or there is none to be taken. -/
inductive Taken (table : Descriptors) : Option Resource → Option Fd → Prop
  /-- There is no pipe. -/
  | nothing : Taken table none none
  /-- The descriptor is the end of the pipe. -/
  | pipe (fd : Fd) (resource : Resource) (h : table.get? fd = some ⟨resource, true⟩) :
      Taken table (some resource) (some fd)

namespace Turn

/-- The turn that a stage takes next. -/
def next (last index : Nat) (pipes : PipeSet) (stage : Stage) (s : ShellState (Recorded σ)) :
    Turn σ where
  index := index
  stage := stage
  pipedIn := (pipes.takeInput index).1
  pipedOut := ((pipes.takeInput index).2.takeOutput last index).1
  before := s

/-- The pipes without those ends that are taken for the turn of a stage. -/
def remaining (last index : Nat) (pipes : PipeSet) : PipeSet :=
  ((pipes.takeInput index).2.takeOutput last index).2

/-- The process that is left when a stage had its turn. -/
def born? : Except ShellError StageState → Option Pid
  | .error _ => none
  | .ok state => state.process?

/-- The end of a pipe that feeds the stage. -/
def feed (base : ShellState (Recorded σ)) (t : Turn σ) : Option Resource :=
  if 0 < t.index then some (.readEnd (base.fresh + (t.index - 1))) else none

/-- The end of a pipe that the stage feeds. -/
def drain (base : ShellState (Recorded σ)) (last : Nat) (t : Turn σ) : Option Resource :=
  if t.index < last then some (.writeEnd (base.fresh + t.index)) else none

/-- A turn at its place in a row of pipes, for which the right ends were taken. -/
structure Placed (base : ShellState (Recorded σ)) (row : List PipeEnds) (t : Turn σ) : Prop where
  /-- The ends that are there are those of this stage and of the stages to come. -/
  standing : Standing base t.before row (t.index - 1) t.index
  /-- The stage is fed by the pipe in front of it. -/
  pipedIn_eq : t.pipedIn = if 0 < t.index then row[t.index - 1]?.map PipeEnds.reader else none
  /-- The stage feeds the pipe behind it. -/
  pipedOut_eq : t.pipedOut = row[t.index]?.map PipeEnds.writer

namespace Placed

variable {base : ShellState (Recorded σ)} {row : List PipeEnds} {t : Turn σ}

/-- What was taken for the input is the end of the pipe in front of the stage. -/
theorem get?_pipedIn (h : t.Placed base row) {fd : Fd} (hfd : t.pipedIn = some fd) :
    0 < t.index ∧
      t.before.descriptors.get? fd = some ⟨.readEnd (base.fresh + (t.index - 1)), true⟩ := by
  rw [h.pipedIn_eq] at hfd
  split at hfd
  · next hpos =>
    obtain ⟨ends, hends, rfl⟩ := Option.map_eq_some_iff.1 hfd
    exact ⟨hpos, h.standing.reader _ ends (Nat.le_refl _) hends⟩
  · cases hfd

/-- What was taken for the output is the end of the pipe behind the stage. -/
theorem get?_pipedOut (h : t.Placed base row) {fd : Fd} (hfd : t.pipedOut = some fd) :
    t.index < row.length ∧
      t.before.descriptors.get? fd = some ⟨.writeEnd (base.fresh + t.index), true⟩ := by
  rw [h.pipedOut_eq] at hfd
  obtain ⟨ends, hends, rfl⟩ := Option.map_eq_some_iff.1 hfd
  obtain ⟨hlt, -⟩ := List.getElem?_eq_some_iff.1 hends
  exact ⟨hlt, h.standing.writer _ ends (Nat.le_refl _) hends⟩

/-- The two ends that were taken for a stage are different ones. -/
theorem pipedIn_ne_pipedOut (h : t.Placed base row) {fd : Fd} (hin : t.pipedIn = some fd) :
    t.pipedOut ≠ some fd := by
  intro hout
  have hread := (h.get?_pipedIn hin).2
  rw [(h.get?_pipedOut hout).2] at hread
  simp at hread

/-- What is taken for a later stage is still there, and is the end of a pipe of this stage. -/
theorem get?_later (h : t.Placed base row) {t' : Turn σ} (h' : t'.Placed base row)
    (hlt : t.index < t'.index) {fd : Fd} (hfd : fd ∈ t'.pipedIn.toList ++ t'.pipedOut.toList) :
    t.before.descriptors.get? fd = some ⟨.readEnd (base.fresh + (t'.index - 1)), true⟩ ∨
      t.before.descriptors.get? fd = some ⟨.writeEnd (base.fresh + t'.index), true⟩ := by
  rcases List.mem_append.1 hfd with hfd | hfd
  · have hin := h'.pipedIn_eq
    rw [Option.mem_toList.1 hfd, if_pos (Nat.zero_lt_of_lt hlt)] at hin
    obtain ⟨ends, hends, rfl⟩ := Option.map_eq_some_iff.1 hin.symm
    exact Or.inl (h.standing.reader _ ends (by omega) hends)
  · have hout := h'.pipedOut_eq
    rw [Option.mem_toList.1 hfd] at hout
    obtain ⟨ends, hends, rfl⟩ := Option.map_eq_some_iff.1 hout.symm
    exact Or.inr (h.standing.writer _ ends (Nat.le_of_lt hlt) hends)

/-- No end is taken for two stages. -/
theorem not_mem_of_lt (h : t.Placed base row) {t' : Turn σ} (h' : t'.Placed base row)
    (hlt : t.index < t'.index) {fd : Fd} (hfd : fd ∈ t.pipedIn.toList ++ t.pipedOut.toList) :
    fd ∉ t'.pipedIn.toList ++ t'.pipedOut.toList := by
  intro hfd'
  have hlater := h.get?_later h' hlt hfd'
  rcases List.mem_append.1 hfd with hfd | hfd
  · obtain ⟨hpos, hget⟩ := h.get?_pipedIn (Option.mem_toList.1 hfd)
    rw [hget] at hlater
    rcases hlater with heq | heq
    · simp only [Option.some.injEq, Slot.mk.injEq, Resource.readEnd.injEq, and_true] at heq
      omega
    · simp at heq
  · obtain ⟨-, hget⟩ := h.get?_pipedOut (Option.mem_toList.1 hfd)
    rw [hget] at hlater
    rcases hlater with heq | heq
    · simp at heq
    · simp only [Option.some.injEq, Slot.mk.injEq, Resource.writeEnd.injEq, and_true] at heq
      omega

/-- For the input of every stage but the first one the end of the pipe in front of it is taken. -/
theorem takenIn (h : t.Placed base row) (hindex : t.index ≤ row.length) :
    Taken t.before.descriptors (t.feed base) t.pipedIn := by
  by_cases hpos : 0 < t.index
  · have hlt : t.index - 1 < row.length := by omega
    have hpiped : t.pipedIn = some row[t.index - 1].reader := by
      rw [h.pipedIn_eq, if_pos hpos, List.getElem?_eq_getElem hlt, Option.map_some]
    rw [feed, if_pos hpos, hpiped]
    exact .pipe _ _ (h.get?_pipedIn hpiped).2
  · rw [feed, h.pipedIn_eq, if_neg hpos, if_neg hpos]
    exact .nothing

/-- For the output of every stage but the last one the end of the pipe behind it is taken. -/
theorem takenOut (h : t.Placed base row) :
    Taken t.before.descriptors (t.drain base row.length) t.pipedOut := by
  by_cases hlt : t.index < row.length
  · have hpiped : t.pipedOut = some row[t.index].writer := by
      rw [h.pipedOut_eq, List.getElem?_eq_getElem hlt, Option.map_some]
    rw [drain, if_pos hlt, hpiped]
    exact .pipe _ _ (h.get?_pipedOut hpiped).2
  · rw [drain, if_neg hlt, h.pipedOut_eq, List.getElem?_eq_none (Nat.le_of_not_lt hlt),
      Option.map_none]
    exact .nothing

/-- The ends that are there are those that were taken for this turn and those of later ones. -/
theorem mem_untaken (h : t.Placed base row) (fd : Fd) :
    fd ∈ (t.pipedIn.toList ++ t.pipedOut.toList) ++
        (PipeSet.untaken row t.index (t.index + 1)).ends ↔
      fd ∈ (PipeSet.untaken row (t.index - 1) t.index).ends := by
  have hin := (PipeSet.untaken row (t.index - 1) t.index).mem_takeInput t.index fd
  have hout := (PipeSet.untaken row t.index t.index).mem_takeOutput row.length t.index fd
  rw [PipeSet.takeInput_untaken, ← h.pipedIn_eq] at hin
  rw [PipeSet.takeOutput_untaken, ← h.pipedOut_eq] at hout
  simp only [List.mem_append] at hin hout ⊢
  rw [hin, hout, or_assoc]

variable [Kernel σ]

/-- After a turn the ends that are left are those of the stages to come. -/
theorem after (h : t.Placed base row) (streams : Streams) :
    Standing base (t.after streams) row t.index (t.index + 1) := by
  have hturn : Exchanged t.before (t.after streams)
      (t.pipedIn.toList ++ t.pipedOut.toList) [] :=
    trades_startStage streams t.index t.stage t.pipedIn t.pipedOut t.before
  -- The ends of other stages refer to other pipes, so that they are not given up.
  have hkept : ∀ fd slot, t.before.descriptors.get? fd = some slot →
      slot ≠ ⟨.readEnd (base.fresh + (t.index - 1)), true⟩ ∨ t.index = 0 →
      slot ≠ ⟨.writeEnd (base.fresh + t.index), true⟩ →
        (t.after streams).descriptors.get? fd = some slot := by
    intro fd slot hslot hread hwrite
    rw [hturn.get?_eq ?_ List.not_mem_nil, hslot]
    intro hmem
    rcases List.mem_append.1 hmem with hmem | hmem
    · obtain ⟨hpos, hget⟩ := h.get?_pipedIn (Option.mem_toList.1 hmem)
      rw [hslot, Option.some.injEq] at hget
      rcases hread with hread | hzero
      · exact hread hget
      · omega
    · obtain ⟨hlt, hget⟩ := h.get?_pipedOut (Option.mem_toList.1 hmem)
      rw [hslot, Option.some.injEq] at hget
      exact hwrite hget
  refine ⟨?_, ?_, ?_, Nat.le_trans h.standing.fresh_le hturn.fresh_le⟩
  · refine h.standing.exchanged.trans ?_
    exact (hturn.frame _).congr h.mem_untaken fun _ => Iff.rfl
  · intro k ends hle hends
    refine hkept _ _ (h.standing.reader k ends (by omega) hends) ?_ (by simp)
    by_cases hzero : t.index = 0
    · exact Or.inr hzero
    · left
      intro heq
      simp only [Slot.mk.injEq, Resource.readEnd.injEq, and_true] at heq
      omega
  · intro k ends hle hends
    refine hkept _ _ (h.standing.writer k ends (by omega) hends) (Or.inl (by simp)) ?_
    intro heq
    simp only [Slot.mk.injEq, Resource.writeEnd.injEq, and_true] at heq
    omega

end Placed

/-- The turn that is taken next stands at its place. -/
theorem placed_next {base s : ShellState (Recorded σ)} {row : List PipeEnds} {index : Nat}
    (h : Standing base s row (index - 1) index) (stage : Stage) :
    (next row.length index (PipeSet.untaken row (index - 1) index) stage s).Placed base row := by
  refine ⟨h, ?_, ?_⟩
  · simp only [next, PipeSet.takeInput_untaken]
  · simp only [next, PipeSet.takeInput_untaken, PipeSet.takeOutput_untaken]

theorem remaining_untaken (row : List PipeEnds) (index : Nat) :
    remaining row.length index (PipeSet.untaken row (index - 1) index) =
      PipeSet.untaken row index (index + 1) := by
  simp only [remaining, PipeSet.takeInput_untaken, PipeSet.takeOutput_untaken]

variable [Kernel σ]

/-- The turns that stages have from a state on. There is none after a turn with an error. -/
def sequence (streams : Streams) (last : Nat) :
    Nat → PipeSet → ShellState (Recorded σ) → List Stage → List (Turn σ)
  | _, _, _, [] => []
  | index, pipes, s, stage :: rest =>
    let turn := next last index pipes stage s
    match turn.result streams with
    | .error _ => [turn]
    | .ok _ =>
      turn :: sequence streams last (index + 1) (remaining last index pipes)
        (turn.after streams) rest

/-- The turns follow the order of the stages. -/
theorem index_of_getElem?_sequence {streams : Streams} {last index : Nat} {pipes : PipeSet}
    {s : ShellState (Recorded σ)} {stages : List Stage} {j : Nat} {t : Turn σ}
    (h : (sequence streams last index pipes s stages)[j]? = some t) :
    t.index = index + j ∧ stages[j]? = some t.stage := by
  induction stages generalizing index pipes s j with
  | nil => simp [sequence] at h
  | cons stage rest ih =>
    rw [sequence] at h
    split at h
    · cases j with
      | zero =>
        cases h
        exact ⟨rfl, rfl⟩
      | succ j => simp at h
    · cases j with
      | zero =>
        cases h
        exact ⟨rfl, rfl⟩
      | succ j =>
        obtain ⟨hindex, hstage⟩ := ih h
        exact ⟨by omega, hstage⟩

/-- Without an error every stage has its turn. -/
theorem length_sequence {streams : Streams} {last index : Nat} {pipes : PipeSet}
    {s : ShellState (Recorded σ)} {stages : List Stage}
    (h : ∀ t ∈ sequence streams last index pipes s stages, ∃ state, t.result streams = .ok state) :
    (sequence streams last index pipes s stages).length = stages.length := by
  induction stages generalizing index pipes s with
  | nil => rfl
  | cons stage rest ih =>
    rw [sequence] at h ⊢
    cases hresult : (next last index pipes stage s).result streams with
    | error error =>
      simp only [hresult] at h
      obtain ⟨state, hstate⟩ := h _ (List.mem_singleton_self _)
      rw [hresult] at hstate
      cases hstate
    | ok state =>
      simp only [hresult] at h ⊢
      exact congrArg (· + 1) (ih fun t ht => h t (List.mem_cons_of_mem _ ht))

/-- Every turn stands at its place. -/
theorem placed_of_mem_sequence {streams : Streams} {base s : ShellState (Recorded σ)}
    {row : List PipeEnds} {index : Nat} (hrow : Standing base s row (index - 1) index)
    {stages : List Stage} {t : Turn σ}
    (h : t ∈ sequence streams row.length index (PipeSet.untaken row (index - 1) index) s stages) :
    t.Placed base row := by
  induction stages generalizing index s with
  | nil => simp [sequence] at h
  | cons stage rest ih =>
    have hplaced := placed_next hrow stage
    rw [sequence] at h
    split at h
    · rw [List.mem_singleton.1 h]
      exact hplaced
    · rw [remaining_untaken] at h
      rcases List.mem_cons.1 h with rfl | h
      · exact hplaced
      · exact ih (hplaced.after streams) h

/-- The first stage has its turn, and then the others have theirs. -/
theorem spawnAll_cons (streams : Streams) (last index : Nat) (pipes : PipeSet) (stage : Stage)
    (rest : List Stage) (s : ShellState (Recorded σ)) :
    spawnAll streams last index pipes (stage :: rest) s =
      ((next last index pipes stage s).run streams >>= fun answer => match answer with
        | .error error => pure ([], some error, remaining last index pipes)
        | .ok state => do
          let (states, fault, left) ←
            spawnAll streams last (index + 1) (remaining last index pipes) rest
          return (state :: states, fault, left)) s := by
  rw [spawnAll]
  rfl

/-- Starting the stages is having their turns: the states are what came of them, and nothing is
asked for that is not asked for in a turn. -/
theorem spawnAll_sequence {streams : Streams} {base s s' : ShellState (Recorded σ)}
    {row : List PipeEnds} {index : Nat} {stages : List Stage} {states : List StageState}
    {fault : Option ShellError} {left : PipeSet}
    (hrow : Standing base s row (index - 1) index)
    (h : spawnAll streams row.length index (PipeSet.untaken row (index - 1) index) stages s =
      ((states, fault, left), s')) :
    (sequence streams row.length index (PipeSet.untaken row (index - 1) index) s stages).map
        (result streams) = states.map .ok ++ fault.toList.map .error ∧
      Since s s' ((sequence streams row.length index (PipeSet.untaken row (index - 1) index) s
        stages).flatMap (calls streams)) := by
  induction stages generalizing index s states with
  | nil =>
    cases h
    exact ⟨rfl, Since.refl _⟩
  | cons stage rest ih =>
    have hplaced := placed_next hrow stage
    obtain ⟨hsince, hcourse⟩ := course streams
      (next row.length index (PipeSet.untaken row (index - 1) index) stage s)
      (fun fd hfd => by simp [(hplaced.get?_pipedIn hfd).2])
      (fun fd hfd => by simp [(hplaced.get?_pipedOut hfd).2])
    have hafter := hplaced.after streams
    rw [spawnAll_cons, remaining_untaken] at h
    rw [sequence, remaining_untaken]
    have hindex : (next row.length index (PipeSet.untaken row (index - 1) index) stage s).index =
      index := rfl
    have hbefore : (next row.length index (PipeSet.untaken row (index - 1) index) stage s).before =
      s := rfl
    generalize next row.length index (PipeSet.untaken row (index - 1) index) stage s = turn at *
    rw [hbefore] at hsince
    rw [hindex] at hafter
    obtain ⟨answer, s₁, hrun, h⟩ := of_bind_eq h
    have hresult : turn.result streams = answer := by rw [result, hbefore, hrun]
    have hs₁ : turn.after streams = s₁ := by rw [Turn.after, hbefore, hrun]
    rw [hs₁] at hsince hafter
    cases answer with
    | error error =>
      cases h
      simp only [hresult, List.map_cons, List.map_nil, List.flatMap_cons, List.flatMap_nil,
        List.append_nil]
      exact ⟨rfl, hsince⟩
    | ok state =>
      obtain ⟨⟨later, fault', left'⟩, s₂, hrest, h⟩ := of_bind_eq h
      cases h
      obtain ⟨hresults, hlater⟩ := ih hafter hrest
      simp only [hresult, hs₁, List.map_cons, List.flatMap_cons]
      exact ⟨congrArg (Except.ok state :: ·) hresults, hsince.trans hlater⟩

end Turn

/-- A quiet action leaves a row of pipes as it stands. -/
theorem Standing.quiet {τ α : Type} {base s : ShellState τ} {row : List PipeEnds}
    {read written : Nat} (h : Standing base s row read written) {x : Shell τ α} (hx : Quiet x) :
    Standing base (x s).2 row read written := by
  obtain ⟨hdescriptors, hfresh⟩ := hx s
  refine ⟨h.exchanged.trans (hx.trades _ s), ?_, ?_, ?_⟩
  · rw [hdescriptors]
    exact h.reader
  · rw [hdescriptors]
    exact h.writer
  · rw [hfresh]
    exact h.fresh_le

namespace Pipeline

variable [Kernel σ]

/-- The turns that the stages of a pipeline have, when it is run from a state on. There is none if
the pipes between them cannot be made. -/
def turns (streams : Streams) (p : Pipeline) (s : ShellState (Recorded σ)) : List (Turn σ) :=
  match PipeSet.allocate .empty p.joints s with
  | (.error _, _) => []
  | (.ok pipes, s₁) =>
    Turn.sequence streams p.joints 0 pipes (note (.allocatedPipeline p.length pipes.size) s₁).2
      p.stages

/-- The pipes of a pipeline, if they can be made, stand in a row when the first stage has its
turn. -/
theorem standing_of_allocate {p : Pipeline} {s s₁ : ShellState (Recorded σ)} {pipes : PipeSet}
    (h : PipeSet.allocate .empty p.joints s = (.ok pipes, s₁)) :
    ∃ row : List PipeEnds, row.length = p.joints ∧ pipes = PipeSet.untaken row 0 0 ∧
      Standing s (note (.allocatedPipeline p.length pipes.size) s₁).2 row 0 0 ∧
      Since s (note (.allocatedPipeline p.length pipes.size) s₁).2
        (pipesMade s.fresh p.joints) := by
  obtain ⟨row, hlength, hpipes, hstanding, hsince⟩ := allocate_ok (Standing.initial s) rfl h
  exact ⟨row, hlength, hpipes, hstanding.quiet (quiet_note _), (silent_note _).since_right hsince⟩

/-- In every turn the ends that are there are those of this stage and of the stages to come, and
nothing else was opened or closed. -/
theorem placed_turns (streams : Streams) (p : Pipeline) (s : ShellState (Recorded σ)) :
    ∃ row : List PipeEnds, row.length = p.joints ∧ ∀ t ∈ p.turns streams s, t.Placed s row := by
  rw [turns]
  split
  · exact ⟨List.replicate p.joints ⟨0, 0⟩, List.length_replicate, by simp⟩
  · next pipes s₁ hallocate =>
    obtain ⟨row, hlength, rfl, hstanding, -⟩ := standing_of_allocate hallocate
    refine ⟨row, hlength, ?_⟩
    rw [← hlength]
    intro t ht
    exact Turn.placed_of_mem_sequence hstanding ht

/-- The turn at a position is that of the stage at this position. -/
theorem index_of_getElem?_turns {streams : Streams} {p : Pipeline} {s : ShellState (Recorded σ)}
    {i : Nat} {t : Turn σ} (h : (p.turns streams s)[i]? = some t) :
    t.index = i ∧ p.stages[i]? = some t.stage := by
  rw [turns] at h
  split at h
  · simp at h
  · obtain ⟨hindex, hstage⟩ := Turn.index_of_getElem?_sequence h
    exact ⟨by omega, hstage⟩

/-- No two turns have the same index. -/
theorem map_index_turns (streams : Streams) (p : Pipeline) (s : ShellState (Recorded σ)) :
    (p.turns streams s).map Turn.index = List.range (p.turns streams s).length := by
  apply List.ext_getElem?
  intro i
  rw [List.getElem?_map]
  cases hi : (p.turns streams s)[i]? with
  | none =>
    rw [List.getElem?_eq_none_iff] at hi
    rw [List.getElem?_eq_none (by simpa using hi)]
    rfl
  | some t =>
    obtain ⟨hlt, -⟩ := List.getElem?_eq_some_iff.1 hi
    rw [List.getElem?_range hlt, Option.map_some, (index_of_getElem?_turns hi).1]

/-- There is no turn beyond the last stage. -/
theorem index_le_of_mem_turns {streams : Streams} {p : Pipeline} {s : ShellState (Recorded σ)}
    {t : Turn σ} (h : t ∈ p.turns streams s) : t.index ≤ p.joints := by
  obtain ⟨i, hi⟩ := List.getElem?_of_mem h
  obtain ⟨hindex, hstage⟩ := index_of_getElem?_turns hi
  obtain ⟨hlt, -⟩ := List.getElem?_eq_some_iff.1 hstage
  rw [stages, List.length_cons] at hlt
  rw [hindex, joints]
  omega

/-- Every turn of a pipeline takes one of the courses. -/
theorem course_of_mem_turns {streams : Streams} {p : Pipeline} {s : ShellState (Recorded σ)}
    {t : Turn σ} (h : t ∈ p.turns streams s) :
    t.Course streams (t.result streams) (t.calls streams) := by
  obtain ⟨row, -, hplaced⟩ := placed_turns streams p s
  have ht := hplaced t h
  refine (t.course streams (fun fd hfd => ?_) fun fd hfd => ?_).2
  · simp [(ht.get?_pipedIn hfd).2]
  · simp [(ht.get?_pipedOut hfd).2]

/-- The courses that the run of a pipeline can take: what comes of it and what is asked for. -/
inductive Course (streams : Streams) (p : Pipeline) (s : ShellState (Recorded σ)) :
    Except ShellError Report → List Call → Prop
  /-- One of the pipes between the stages cannot be made. -/
  | unpiped (errno : Errno) (done : Nat) (hdone : done < p.joints)
      (hturns : p.turns streams s = []) :
      Course streams p s (.error (.spawn 0 errno))
        (pipesMade s.fresh done ++ [.makePipe (s.fresh + done) (.error errno)])
  /-- All stages have their turns. -/
  | finished (states : List StageState) (outcomes : List StageOutcome) (waits : List Call)
      (hresults : (p.turns streams s).map (Turn.result streams) = states.map .ok)
      (hall : (p.turns streams s).length = p.length)
      (hwaits : Waits s.descriptors (states.filterMap StageState.process?) waits) :
      Course streams p s (.ok ⟨p.joints, outcomes⟩)
        (pipesMade s.fresh p.joints ++ (p.turns streams s).flatMap (Turn.calls streams) ++ waits)
  /-- A turn with an error is the last one. -/
  | stopped (states : List StageState) (error : ShellError) (waits : List Call)
      (hresults : (p.turns streams s).map (Turn.result streams) =
        states.map .ok ++ [.error error])
      (hwaits : Waits s.descriptors (states.filterMap StageState.process?) waits) :
      Course streams p s (.error error)
        (pipesMade s.fresh p.joints ++ (p.turns streams s).flatMap (Turn.calls streams) ++ waits)

/-- The run of a pipeline takes one of the courses. -/
theorem execute_course {streams : Streams} {p : Pipeline} {s s' : ShellState (Recorded σ)}
    {result : Except ShellError Report} (h : p.execute streams s = (result, s')) :
    ∃ calls, Since s s' calls ∧ p.Course streams s result calls := by
  obtain ⟨answer, s₁, hallocate, h⟩ := of_bind_eq h
  cases answer with
  | error errno =>
    cases h
    obtain ⟨done, hdone, hsince⟩ := allocate_error hallocate
    refine ⟨_, hsince, .unpiped errno done hdone ?_⟩
    rw [turns, hallocate]
  | ok pipes =>
    obtain ⟨row, hlength, hpipes, hstanding, hmade⟩ := standing_of_allocate hallocate
    obtain ⟨_, s₂, hnote, h⟩ := of_bind_eq h
    obtain ⟨⟨states, fault, left⟩, s₃, hspawn, h⟩ := of_bind_eq h
    obtain ⟨_, s₄, hclose, h⟩ := of_bind_eq h
    obtain ⟨outcomes, s₅, hreap, h⟩ := of_bind_eq h
    obtain ⟨_, s₆, hfinished, h⟩ := of_bind_eq h
    rw [hnote] at hstanding hmade
    -- What the shell has when it waits is what it had at the beginning.
    have hbalanced : s₄.descriptors = s.descriptors := by
      have htraded : Exchanged s₂ s₃ pipes.ends left.ends := by
        have htrades := trades_spawnAll streams p.joints 0 pipes p.stages s₂
        rwa [hspawn] at htrades
      have hclosed : Exchanged s₃ s₄ left.ends [] := by
        have htrades := left.trades_close s₃
        rwa [hclose] at htrades
      have hall := hstanding.exchanged
      rw [← hpipes] at hall
      simpa using ((hall.trans htraded).trans hclosed).balance []
    have hturns : p.turns streams s = Turn.sequence streams row.length 0
        (PipeSet.untaken row 0 0) s₂ p.stages := by
      rw [turns, hallocate]
      simp only [hnote]
      rw [hlength, hpipes]
    rw [← hlength, hpipes] at hspawn
    obtain ⟨hresults, hspawned⟩ := Turn.spawnAll_sequence hstanding hspawn
    rw [← hturns] at hresults hspawned
    obtain ⟨waits, hsince, hwaits⟩ := waits_reapAll states s₄
    rw [hbalanced] at hwaits
    rw [hreap] at hsince
    have hasked := (silent_closeAll left.ends).follows hclose (hmade.trans hspawned)
    have hall := (silent_noteFinished 0 outcomes).follows hfinished (hasked.trans hsince)
    cases fault with
    | none =>
      cases h
      rw [hpipes, PipeSet.size_untaken, hlength]
      rw [Option.toList_none, List.map_nil, List.append_nil] at hresults
      have hlast : (p.turns streams s).length = p.length := by
        rw [hturns] at hresults ⊢
        refine Turn.length_sequence fun t ht => ?_
        have hmem := List.mem_map_of_mem (f := Turn.result streams) ht
        rw [hresults] at hmem
        obtain ⟨state, -, hstate⟩ := List.mem_map.1 hmem
        exact ⟨state, hstate.symm⟩
      exact ⟨_, hall, .finished states outcomes waits hresults hlast hwaits⟩
    | some error =>
      cases h
      exact ⟨_, hall, .stopped states error waits hresults hwaits⟩

/-- What comes of the run of a pipeline, and what is asked for in it, belong to one of the
courses. -/
theorem course_execute (streams : Streams) (p : Pipeline) (s : ShellState (Recorded σ)) :
    p.Course streams s (p.execute streams s).1 ((p.execute streams).newCalls s) := by
  have hrun : p.execute streams s = ((p.execute streams s).1, (p.execute streams s).2) := rfl
  obtain ⟨calls, hsince, hcourse⟩ := execute_course hrun
  rw [show (p.execute streams).newCalls s = calls from hsince.newCalls_eq]
  exact hcourse

theorem filterMap_born_ok (states : List StageState) :
    (states.map Except.ok).filterMap Turn.born? = states.filterMap StageState.process? := by
  rw [List.filterMap_map]
  rfl

/-- How a run is made up of turns: it asks for pipes first, then for what is asked for in the turns,
and then it waits. -/
structure Staged (streams : Streams) (p : Pipeline) (s : ShellState (Recorded σ)) : Prop where
  /-- The turns follow the order of the stages. -/
  order : ∀ i (t : Turn σ), (p.turns streams s)[i]? = some t →
    t.index = i ∧ p.stages[i]? = some t.stage
  /-- The calls of the turns stand one behind the other, with pipes in front of them and waits for
  the processes of the turns behind. A turn is only had if all pipes were made. -/
  calls : ∃ made waits, (p.execute streams).newCalls s =
      made ++ (p.turns streams s).flatMap (Turn.calls streams) ++ waits ∧
    (∀ call ∈ made, ∃ pipe answer, s.fresh ≤ pipe ∧ call = .makePipe pipe answer) ∧
    (p.turns streams s ≠ [] → made = pipesMade s.fresh p.joints) ∧
    Waits s.descriptors (((p.turns streams s).map (Turn.result streams)).filterMap Turn.born?) waits

/-- Every run is made up of turns. -/
theorem staged_execute (streams : Streams) (p : Pipeline) (s : ShellState (Recorded σ)) :
    p.Staged streams s := by
  have hmade : ∀ count, ∀ call ∈ pipesMade s.fresh count,
      ∃ pipe answer, s.fresh ≤ pipe ∧ call = .makePipe pipe answer := by
    intro count call hcall
    obtain ⟨pipe, hpipe, rfl⟩ := List.mem_map.1 hcall
    exact ⟨pipe, .ok (), (List.mem_range'_1.1 hpipe).1, rfl⟩
  refine ⟨fun i t ht => index_of_getElem?_turns ht, ?_⟩
  have hcourse := course_execute streams p s
  generalize (p.execute streams s).1 = result at hcourse
  generalize (p.execute streams).newCalls s = calls at hcourse
  cases hcourse with
  | unpiped errno done hdone hturns =>
    refine ⟨pipesMade s.fresh done ++ [.makePipe (s.fresh + done) (.error errno)], [], ?_, ?_,
      fun hne => absurd hturns hne, ?_⟩
    · rw [hturns, List.flatMap_nil, List.append_nil, List.append_nil]
    · intro call hcall
      rcases List.mem_append.1 hcall with hcall | hcall
      · exact hmade done call hcall
      · exact ⟨s.fresh + done, .error errno, Nat.le_add_right _ _, List.mem_singleton.1 hcall⟩
    · rw [hturns]
      exact .nobody
  | finished states outcomes waits hresults hall hwaits =>
    refine ⟨_, waits, rfl, hmade p.joints, fun _ => rfl, ?_⟩
    rw [hresults, filterMap_born_ok]
    exact hwaits
  | stopped states error waits hresults hwaits =>
    refine ⟨_, waits, rfl, hmade p.joints, fun _ => rfl, ?_⟩
    have hnobody : [(.error error : Except ShellError StageState)].filterMap Turn.born? = [] := rfl
    rw [hresults, List.filterMap_append, filterMap_born_ok, hnobody, List.append_nil]
    exact hwaits

/-- What is asked for in a run: pipes, what is asked for in some turn, and waits. -/
theorem call_cases {streams : Streams} {p : Pipeline} {s : ShellState (Recorded σ)} {call : Call}
    (hcall : call ∈ (p.execute streams).newCalls s) :
    (∃ pipe answer, s.fresh ≤ pipe ∧ call = .makePipe pipe answer) ∨
      (∃ t ∈ p.turns streams s, call ∈ t.calls streams) ∨
      ∃ pid event, call = .wait pid s.descriptors event := by
  obtain ⟨made, waits, hcalls, hmade, -, hwaits⟩ := (staged_execute streams p s).calls
  rw [hcalls] at hcall
  rcases List.mem_append.1 hcall with hcall | hcall
  · rcases List.mem_append.1 hcall with hcall | hcall
    · exact Or.inl (hmade call hcall)
    · exact Or.inr (Or.inl (List.mem_flatMap.1 hcall))
  · obtain ⟨pid, -, event, heq⟩ := hwaits.eq_wait hcall
    exact Or.inr (Or.inr ⟨pid, event, heq⟩)

/-- The processes are made in the turns. -/
theorem mem_turns_of_fork {streams : Streams} {p : Pipeline} {s : ShellState (Recorded σ)}
    {table : Descriptors} {answer : Except Errno Pid}
    (hfork : .fork table answer ∈ (p.execute streams).newCalls s) :
    ∃ t ∈ p.turns streams s, .fork table answer ∈ t.calls streams := by
  rcases call_cases hfork with ⟨pipe, answer, -, heq⟩ | hturn | ⟨pid, event, heq⟩
  · cases heq
  · exact hturn
  · cases heq

end Pipeline

end CommandShell
