import CommandShell.Machine.Boot
import CommandShell.Proofs.Balance
import CommandShell.Proofs.ForkedStreams
import CommandShell.Proofs.Mirroring

/-!
# Shells that were started on a machine

A shell on a machine begins with its streams under the first numbers, the standard ones among them,
and no line changes this. Main statements: what a shell has open got its number before now, at the
beginning (`numbered_boot`) and behind any lines (`Numbered.runLines`), and the standard streams of
a shell are open (`standard_boot`, `Streams.Standard.runLines`).
-/

namespace CommandShell

open Shell

variable {σ : Type}

theorem Shell.Numbered.recorded {s : ShellState σ} (h : Numbered s) : Numbered s.recorded := h

theorem Streams.Standard.recorded {streams : Streams} {s : ShellState σ}
    (h : streams.Standard s) : streams.Standard s.recorded :=
  ⟨h.inherited, h.input, h.output⟩

namespace Machine

/-- The numbers of the streams come first, and only the standard streams are for programs. -/
theorem get?_streamDescriptors (count : Nat) (fd : Fd) :
    (streamDescriptors count).get? fd =
      if fd < count then some ⟨.file fd, 2 < fd⟩ else none := by
  induction count with
  | zero => rfl
  | succ count ih =>
    have hstep : streamDescriptors (count + 1) =
        (streamDescriptors count).set count ⟨.file count, 2 < count⟩ := by
      rw [streamDescriptors, List.range_succ, List.foldl_append]
      rfl
    rw [hstep, DescriptorTable.get?_set, ih]
    by_cases heq : fd = count
    · subst heq
      rw [if_pos rfl, if_pos (Nat.lt_succ_self fd)]
    · rw [if_neg heq]
      by_cases hlt : fd < count
      · rw [if_pos hlt, if_pos (Nat.lt_succ_of_lt hlt)]
      · have hlast : ¬ fd < count + 1 := fun hfd =>
          hlt (Nat.lt_of_le_of_ne (Nat.le_of_lt_succ hfd) heq)
        rw [if_neg hlt, if_neg hlast]

/-- What a shell begins with has a number from before. -/
theorem numbered_boot (setup : Setup) : Numbered setup.boot := by
  intro fd slot hslot
  have hget : (streamDescriptors setup.streams.length).get? fd = some slot := hslot
  rw [get?_streamDescriptors] at hget
  split at hget
  · next hlt =>
    cases hget
    exact hlt
  · cases hget

/-- A shell that begins with the standard streams has them, and a run may be given others. -/
theorem standard_boot (setup : Setup) (streams : Streams) (hlength : 3 ≤ setup.streams.length)
    (hinput : ∀ fd, streams.input = some fd → 2 < fd ∧ fd < setup.streams.length)
    (houtput : ∀ fd, streams.output = some fd → 2 < fd ∧ fd < setup.streams.length) :
    streams.Standard setup.boot := by
  have hopen : ∀ fd, fd < setup.streams.length → setup.boot.descriptors.get? fd ≠ none := by
    intro fd hlt hnone
    have hget : (streamDescriptors setup.streams.length).get? fd = none := hnone
    rw [get?_streamDescriptors, if_pos hlt] at hget
    cases hget
  constructor
  · intro fd hfd
    exact hopen fd (Nat.lt_of_le_of_lt hfd hlength)
  · intro fd hfd
    exact ⟨(hinput fd hfd).1, hopen fd (hinput fd hfd).2⟩
  · intro fd hfd
    exact ⟨(houtput fd hfd).1, hopen fd (houtput fd hfd).2⟩

end Machine

variable [Kernel σ] {s : ShellState σ}

/-- Lines that are run give new numbers to what they open. -/
theorem Shell.Numbered.runLines (h : Numbered s) (sh : Interpreter σ) (lines : List String) :
    Numbered (lines.mapM sh.runLine s).2 :=
  (sh.trades_runLines lines s).numbered h

/-- Lines that are run leave the streams open. -/
theorem Streams.Standard.runLines {streams : Streams} (h : streams.Standard s)
    (sh : Interpreter σ) (lines : List String) :
    streams.Standard (lines.mapM sh.runLine s).2 := by
  have hsame := (sh.trades_runLines lines).descriptors_eq s
  constructor
  · intro fd hfd
    rw [hsame]
    exact h.inherited fd hfd
  · intro fd hfd
    rw [hsame]
    exact h.input fd hfd
  · intro fd hfd
    rw [hsame]
    exact h.output fd hfd

end CommandShell
