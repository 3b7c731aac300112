import CommandShell.Proofs.Balance
import CommandShell.Proofs.Opening

/-!
# The row of pipes between the stages

The pipes of a pipeline stand in a row, and their ends are taken from left to right: of the ends
from which is read so many are taken, of those to which is written so many. That is all there is to
know about which ends are left. Main statements: the stage at an index takes the end of the pipe in
front of it and the end of the pipe behind it (`takeInput_untaken`, `takeOutput_untaken`), and if
all pipes can be made, the row consists of new pipes in order (`allocate_ok`).
-/

namespace CommandShell

open Shell

variable {σ : Type}

namespace PipeSet

/-- The ends on one side of a row of pipes, when the first ones were taken. -/
def column (side : PipeEnds → Fd) (row : List PipeEnds) (taken : Nat) : List (Option Fd) :=
  row.mapIdx fun k ends => if k < taken then none else some (side ends)

theorem getElem?_column (side : PipeEnds → Fd) (row : List PipeEnds) (taken k : Nat) :
    (column side row taken)[k]? =
      row[k]?.map fun ends => if k < taken then none else some (side ends) :=
  List.getElem?_mapIdx

/-- The next end of a column is still there. -/
theorem column_next (side : PipeEnds → Fd) (row : List PipeEnds) (taken : Nat) :
    (column side row taken)[taken]?.join = row[taken]?.map side := by
  rw [getElem?_column]
  cases row[taken]? <;> simp

/-- Taking the next end leaves a column with one end less. -/
theorem set_column (side : PipeEnds → Fd) (row : List PipeEnds) (taken : Nat) :
    (column side row taken).set taken none = column side row (taken + 1) := by
  apply List.ext_getElem?
  intro k
  rw [List.getElem?_set, getElem?_column, getElem?_column, column, List.length_mapIdx]
  by_cases hk : taken = k
  · subst hk
    by_cases hlt : taken < row.length
    · simp [hlt]
    · simp [hlt]
  · have hiff : k < taken + 1 ↔ k < taken := by omega
    simp [hk, hiff]

/-- The pipes of a row, when some of the ends on both sides were taken. -/
def untaken (row : List PipeEnds) (read written : Nat) : PipeSet :=
  ⟨column PipeEnds.reader row read, column PipeEnds.writer row written⟩

theorem size_untaken (row : List PipeEnds) (read written : Nat) :
    (untaken row read written).size = row.length := List.length_mapIdx

/-- A new pipe stands behind the others. -/
theorem push_untaken (row : List PipeEnds) (ends : PipeEnds) :
    (untaken row 0 0).push ends = untaken (row ++ [ends]) 0 0 := by
  simp [untaken, column, push, List.mapIdx_append]

/-- The stage at an index is fed by the pipe in front of it, if there is one. -/
theorem takeInput_untaken (row : List PipeEnds) (index written : Nat) :
    (untaken row (index - 1) written).takeInput index =
      (if 0 < index then row[index - 1]?.map PipeEnds.reader else none,
        untaken row index written) := by
  rw [takeInput]
  by_cases hpos : 0 < index
  · have hnext : index - 1 + 1 = index := by omega
    rw [if_pos hpos, if_pos hpos, takeReader, untaken, column_next, set_column, hnext]
    rfl
  · have hzero : index = 0 := by omega
    subst hzero
    rfl

/-- The stage at an index feeds the pipe behind it, if there is one. -/
theorem takeOutput_untaken (row : List PipeEnds) (read index : Nat) :
    (untaken row read index).takeOutput row.length index =
      (row[index]?.map PipeEnds.writer, untaken row read (index + 1)) := by
  rw [takeOutput]
  by_cases hlt : index < row.length
  · rw [if_pos hlt, takeWriter, untaken, column_next, set_column]
    rfl
  · -- Nothing is left on this side.
    have hnone : row[index]? = none := List.getElem?_eq_none (Nat.le_of_not_lt hlt)
    have hcolumn : column PipeEnds.writer row index = column PipeEnds.writer row (index + 1) := by
      rw [← set_column, List.set_eq_of_length_le]
      rw [column, List.length_mapIdx]
      exact Nat.le_of_not_lt hlt
    rw [if_neg hlt, hnone, untaken, untaken, ← hcolumn]
    rfl

end PipeSet

/-- All that a shell has in addition to what it had before are the ends of a row of pipes that
nobody has taken, and these are the ends of new pipes in order. -/
structure Standing (base s : ShellState σ) (row : List PipeEnds) (read written : Nat) : Prop where
  /-- Nothing else has changed. -/
  exchanged : Exchanged base s [] (PipeSet.untaken row read written).ends
  /-- The ends from which is read. -/
  reader : ∀ k ends, read ≤ k → row[k]? = some ends →
    s.descriptors.get? ends.reader = some ⟨.readEnd (base.fresh + k), true⟩
  /-- The ends to which is written. -/
  writer : ∀ k ends, written ≤ k → row[k]? = some ends →
    s.descriptors.get? ends.writer = some ⟨.writeEnd (base.fresh + k), true⟩
  /-- The numbers of the pipes are used up. -/
  fresh_le : base.fresh + row.length ≤ s.fresh

theorem Standing.initial (s : ShellState σ) : Standing s s [] 0 0 :=
  ⟨Exchanged.refl s [], by simp, by simp, Nat.le_refl _⟩

/-- The calls by which a row of pipes is made. -/
def pipesMade (first count : Nat) : List Call :=
  (List.range' first count).map fun pipe => .makePipe pipe (.ok ())

theorem pipesMade_succ (first count : Nat) :
    pipesMade first (count + 1) = .makePipe first (.ok ()) :: pipesMade (first + 1) count := rfl

variable [Kernel σ]

/-- A new pipe is added to the row. -/
theorem Standing.push {base s s' : ShellState (Recorded σ)} {row : List PipeEnds} {ends : PipeEnds}
    (h : Standing base s row 0 0) (hnumber : s.fresh = base.fresh + row.length)
    (hpipe : makePipe s = (.ok ends, s')) : Standing base s' (row ++ [ends]) 0 0 := by
  have hmade := makePipe_ok hpipe
  have htraded : Exchanged s s' [] ends.both := by
    have htrades := trades_makePipe s
    rwa [hpipe] at htrades
  have hold : ∀ {k : Nat} {slot : PipeEnds}, (row ++ [ends])[k]? = some slot →
      row[k]? = some slot ∨ k = row.length ∧ slot = ends := by
    intro k slot hslot
    rcases Nat.lt_trichotomy k row.length with hlt | rfl | hgt
    · rw [List.getElem?_append_left hlt] at hslot
      exact Or.inl hslot
    · simp only [List.getElem?_concat_length, Option.some.injEq] at hslot
      exact Or.inr ⟨rfl, hslot.symm⟩
    · rw [List.getElem?_eq_none (by simp; omega)] at hslot
      cases hslot
  refine ⟨?_, ?_, ?_, ?_⟩
  · refine (h.exchanged.trans (htraded.frame _)).congr (fun _ => Iff.rfl) fun fd => ?_
    rw [← PipeSet.push_untaken, PipeSet.mem_push]
    exact Iff.rfl
  · intro k slot hle hslot
    rcases hold hslot with hslot | ⟨rfl, rfl⟩
    · exact hmade.keeps _ _ (h.reader k slot hle hslot)
    · rw [hmade.reader, hnumber]
  · intro k slot hle hslot
    rcases hold hslot with hslot | ⟨rfl, rfl⟩
    · exact hmade.keeps _ _ (h.writer k slot hle hslot)
    · rw [hmade.writer, hnumber]
  · rw [hmade.fresh, hnumber, List.length_append, List.length_singleton]
    omega

/-- If all pipes can be made, they stand in a row. -/
theorem allocate_ok {base s s' : ShellState (Recorded σ)} {row : List PipeEnds} {count : Nat}
    {pipes : PipeSet} (hrow : Standing base s row 0 0)
    (hnumber : s.fresh = base.fresh + row.length)
    (h : PipeSet.allocate (PipeSet.untaken row 0 0) count s = (.ok pipes, s')) :
    ∃ more, more.length = count ∧ pipes = PipeSet.untaken (row ++ more) 0 0 ∧
      Standing base s' (row ++ more) 0 0 ∧ Since s s' (pipesMade s.fresh count) := by
  induction count generalizing row s with
  | zero =>
    cases h
    exact ⟨[], rfl, by rw [List.append_nil], by rwa [List.append_nil], Since.refl _⟩
  | succ count ih =>
    obtain ⟨answer, s₁, hpipe, h⟩ := of_bind_eq h
    cases answer with
    | error errno => cases h
    | ok ends =>
      have hmade := makePipe_ok hpipe
      have hnumber' : s₁.fresh = base.fresh + (row ++ [ends]).length := by
        rw [hmade.fresh, hnumber, List.length_append, List.length_singleton, Nat.add_assoc]
      have hrest : PipeSet.allocate (PipeSet.untaken (row ++ [ends]) 0 0) count s₁ =
          (.ok pipes, s') := by
        rw [← PipeSet.push_untaken]
        exact h
      obtain ⟨more, hlength, hpipes, hstanding, hsince⟩ :=
        ih (hrow.push hnumber hpipe) hnumber' hrest
      rw [List.append_assoc] at hpipes hstanding
      refine ⟨ends :: more, congrArg (· + 1) hlength, hpipes, hstanding, ?_⟩
      rw [pipesMade_succ, ← hmade.fresh]
      exact hmade.since.trans hsince

/-- If a pipe cannot be made, nothing but pipes was asked for. -/
theorem allocate_error {pipes : PipeSet} {count : Nat} {s s' : ShellState (Recorded σ)}
    {errno : Errno} (h : PipeSet.allocate pipes count s = (.error errno, s')) :
    ∃ done, done < count ∧
      Since s s' (pipesMade s.fresh done ++ [.makePipe (s.fresh + done) (.error errno)]) := by
  induction count generalizing pipes s with
  | zero => cases h
  | succ count ih =>
    obtain ⟨answer, s₁, hpipe, h⟩ := of_bind_eq h
    cases answer with
    | error errno =>
      cases h
      refine ⟨0, Nat.succ_pos count, ?_⟩
      exact (silent_closeAll pipes.ends).since_right (makePipe_error hpipe)
    | ok ends =>
      have hmade := makePipe_ok hpipe
      obtain ⟨done, hlt, hsince⟩ := ih h
      refine ⟨done + 1, Nat.succ_lt_succ hlt, ?_⟩
      have hnext : s.fresh + (done + 1) = s₁.fresh + done := by
        rw [hmade.fresh]
        omega
      rw [pipesMade_succ, ← hmade.fresh, hnext]
      exact hmade.since.trans hsince

end CommandShell
