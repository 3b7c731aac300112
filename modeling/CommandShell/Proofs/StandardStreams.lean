import CommandShell.Proofs.ChildCourse
import CommandShell.Proofs.Chronicle

/-!
# Standard streams

Two descriptors become the standard input and output of a process one after the other, though both
are meant as they were before. This makes a difference where the numbers overlap: the second
duplicate may find at its source what the first one has put there, and a descriptor that stands at
its goal already is left alone together with its mark. Main statement: the streams of the process
are the ones that were asked for exactly if no such overlap does harm (`Child.seating_redirect`).
-/

namespace CommandShell

namespace DescriptorTable

variable {τ : Type} {t t' : DescriptorTable τ} {source goal : Fd}

/-- What a number refers to, whether the next program gets it or not. -/
def target? (t : DescriptorTable τ) (fd : Fd) : Option τ := (t.get? fd).map Slot.target

/-- A number refers to something that the next program gets. -/
def Lasting (t : DescriptorTable τ) (fd : Fd) : Prop := (t.surviving.get? fd).isSome

instance (t : DescriptorTable τ) (fd : Fd) : Decidable (t.Lasting fd) :=
  inferInstanceAs (Decidable ((t.surviving.get? fd).isSome = true))

/-- A number lasts if the entry under it is not marked. -/
theorem lasting_iff (t : DescriptorTable τ) (fd : Fd) :
    t.Lasting fd ↔ ∃ slot, t.get? fd = some slot ∧ slot.closeOnExec = false := by
  rw [Lasting, get?_surviving]
  cases t.get? fd with
  | none => simp
  | some slot => simp [Option.filter]

theorem lasting_congr {fd fd' : Fd} (h : t'.get? fd' = t.get? fd) :
    t'.Lasting fd' ↔ t.Lasting fd := by
  rw [lasting_iff, lasting_iff, h]

/-- Only the goal of a duplicate refers to something else than before, also if it is the source
itself. -/
theorem target?_duplicate (h : t.duplicate source goal = some t') (fd : Fd) :
    t'.target? fd = if fd = goal then t.target? source else t.target? fd := by
  by_cases hsame : source = goal
  · subst hsame
    rw [eq_of_duplicate_same h]
    split
    · next heq => rw [heq]
    · rfl
  · rw [target?, get?_duplicate hsame h]
    split
    · simp [target?, Function.comp_def]
    · rfl

/-- A duplicate loses the mark, unless it stands at its goal already. -/
theorem lasting_duplicate_self (h : t.duplicate source goal = some t') :
    t'.Lasting goal ↔ source = goal → t.Lasting goal := by
  by_cases hsame : source = goal
  · subst hsame
    rw [eq_of_duplicate_same h]
    simp
  · obtain ⟨slot, hslot⟩ := get?_source_of_duplicate h
    have hget := get?_duplicate_self hsame h
    rw [hslot] at hget
    have hlasting : t'.Lasting goal := (lasting_iff t' goal).2 ⟨_, hget, rfl⟩
    simp [hlasting, hsame]

end DescriptorTable

namespace Child

variable {table fed wired : Descriptors} {source input output : Option Fd} {goal fd : Fd}

/-- A single duplicate is all that is made. -/
theorem rewire_some (own : Fd) :
    rewire table ((some own).toList.map fun fd => (fd, goal)) = table.duplicate own goal := by
  simp [rewire]

/-- After one duplicate, or none, the goal refers to what was asked for. -/
theorem target?_rewire_one
    (h : rewire table (source.toList.map fun fd => (fd, goal)) = some wired) (fd : Fd) :
    wired.target? fd =
      if fd = goal then table.target? (source.getD goal) else table.target? fd := by
  cases source with
  | none =>
    cases h
    split
    · next heq => rw [heq, Option.getD_none]
    · rfl
  | some own =>
    rw [rewire_some] at h
    exact DescriptorTable.target?_duplicate h fd

/-- One duplicate changes nothing about whether another number lasts. -/
theorem lasting_rewire_one_of_ne
    (h : rewire table (source.toList.map fun fd => (fd, goal)) = some wired) (hne : fd ≠ goal) :
    wired.Lasting fd ↔ table.Lasting fd := by
  cases source with
  | none =>
    cases h
    exact Iff.rfl
  | some own =>
    rw [rewire_some] at h
    exact DescriptorTable.lasting_congr (DescriptorTable.get?_duplicate_of_ne hne h)

/-- A stream that was asked for lasts, unless it was there already and is marked. -/
theorem lasting_rewire_one_self {own : Fd}
    (h : rewire table ((some own).toList.map fun fd => (fd, goal)) = some wired) :
    wired.Lasting goal ↔ own = goal → table.Lasting goal := by
  rw [rewire_some] at h
  exact DescriptorTable.lasting_duplicate_self h

section

variable {σ : Type} [Kernel σ] {pid : Pid} {host host' : σ}

/-- A process that goes on has made its duplicate. -/
theorem rewire_of_redirectOne
    (h : redirectOne pid source goal table host = (.ok wired, host')) :
    rewire table (source.toList.map fun fd => (fd, goal)) = some wired := by
  cases source with
  | none =>
    cases h
    rfl
  | some own =>
    simp only [redirectOne, Shell.bind_apply] at h
    rcases hask : Kernel.permitDuplicate pid own goal host with ⟨errno | _, host₁⟩
    · rw [hask] at h
      cases h
    · rw [hask] at h
      cases htable : table.duplicate own goal with
      | none =>
        rw [htable] at h
        cases h
      | some changed =>
        rw [htable] at h
        cases h
        rw [rewire_some, htable]

/-- A process that goes on has made both duplicates, that of the input first. -/
theorem rewire_of_redirect
    (h : redirect pid input output table host = ((none, wired), host')) :
    ∃ fed, rewire table (input.toList.map fun fd => (fd, 0)) = some fed ∧
      rewire fed (output.toList.map fun fd => (fd, 1)) = some wired := by
  simp only [redirect, Shell.bind_apply] at h
  rcases hfirst : redirectOne pid input 0 table host with ⟨errno | fed, host₁⟩
  · rw [hfirst] at h
    cases h
  · rw [hfirst] at h
    simp only [Shell.bind_apply] at h
    rcases hsecond : redirectOne pid output 1 fed host₁ with ⟨errno | changed, host₂⟩
    · rw [hsecond] at h
      cases h
    · rw [hsecond] at h
      cases h
      exact ⟨fed, rewire_of_redirectOne hfirst, rewire_of_redirectOne hsecond⟩

end

/-- The standard streams are what was asked for, as it was before: the input and the output, or
what stood in their place if none was given. What was given is there for the next program. -/
structure Seated (table wired : Descriptors) (input output : Option Fd) : Prop where
  /-- The standard input refers to what the given descriptor referred to. -/
  zero : wired.target? 0 = table.target? (input.getD 0)
  /-- The standard output refers to what the given descriptor referred to. -/
  one : wired.target? 1 = table.target? (output.getD 1)
  /-- A given input reaches the next program. -/
  zero_lasting : input.isSome → wired.Lasting 0
  /-- A given output reaches the next program. -/
  one_lasting : output.isSome → wired.Lasting 1

/-- Setting the two streams one after the other does no harm. -/
structure Harmless (table : Descriptors) (input output : Option Fd) : Prop where
  /-- An input that is the standard input already is not marked. -/
  zero : input = some 0 → table.Lasting 0
  /-- An output that is the standard output already is not marked. -/
  one : output = some 1 → table.Lasting 1
  /-- Where the old standard input becomes the output, the new one refers to the same thing. -/
  crossed : output = some 0 → table.target? (input.getD 0) = table.target? 0

/-- Descriptors that are no standard streams do no harm. -/
theorem Harmless.of_above (hin : ∀ fd ∈ input, 1 < fd) (hout : ∀ fd ∈ output, 1 < fd) :
    Harmless table input output where
  zero h := absurd (hin 0 h) (by decide)
  one h := absurd (hout 1 h) (by decide)
  crossed h := absurd (hout 0 h) (by decide)

/-- What the two duplicates make of the standard streams, one after the other. -/
theorem seated_iff_harmless (hfed : rewire table (input.toList.map fun fd => (fd, 0)) = some fed)
    (hwired : rewire fed (output.toList.map fun fd => (fd, 1)) = some wired) :
    Seated table wired input output ↔ Harmless table input output := by
  have hzero : wired.target? 0 = table.target? (input.getD 0) := by
    rw [target?_rewire_one hwired, if_neg Nat.zero_ne_one, target?_rewire_one hfed, if_pos rfl]
  -- The output is looked up in the table in which the input was already set.
  have hone : wired.target? 1 =
      if output.getD 1 = 0 then table.target? (input.getD 0)
      else table.target? (output.getD 1) := by
    rw [target?_rewire_one hwired, if_pos rfl, target?_rewire_one hfed]
  have hfirst : wired.Lasting 0 ↔ fed.Lasting 0 :=
    lasting_rewire_one_of_ne hwired Nat.zero_ne_one
  have hsecond : fed.Lasting 1 ↔ table.Lasting 1 :=
    lasting_rewire_one_of_ne hfed Nat.one_ne_zero
  constructor
  · intro hseated
    refine ⟨?_, ?_, ?_⟩
    · rintro rfl
      have hfed0 : fed.Lasting 0 := hfirst.1 (hseated.zero_lasting rfl)
      exact (lasting_rewire_one_self hfed).1 hfed0 rfl
    · rintro rfl
      exact hsecond.1 ((lasting_rewire_one_self hwired).1 (hseated.one_lasting rfl) rfl)
    · rintro rfl
      have houtput := hseated.one
      rw [hone, Option.getD_some, if_pos rfl] at houtput
      exact houtput
  · intro hharmless
    refine ⟨hzero, ?_, ?_, ?_⟩
    · rw [hone]
      split
      · next hcrossed =>
        have hsome : output = some 0 := by
          cases output with
          | none => cases hcrossed
          | some own => rw [← hcrossed, Option.getD_some]
        rw [hharmless.crossed hsome, hcrossed]
      · rfl
    · intro hgiven
      obtain ⟨own, rfl⟩ := Option.isSome_iff_exists.1 hgiven
      refine hfirst.2 ((lasting_rewire_one_self hfed).2 ?_)
      rintro rfl
      exact hharmless.zero rfl
    · intro hgiven
      obtain ⟨own, rfl⟩ := Option.isSome_iff_exists.1 hgiven
      refine (lasting_rewire_one_self hwired).2 ?_
      rintro rfl
      exact hsecond.2 (hharmless.one rfl)

/-- The standard streams of a process that has set them are the ones that were asked for, exactly
if setting one after the other does no harm. -/
theorem seating_redirect {σ : Type} [Kernel σ] (pid : Pid) (input output : Option Fd)
    (table wired : Descriptors) (host host' : σ)
    (h : redirect pid input output table host = ((none, wired), host')) :
    Seated table wired input output ↔ Harmless table input output := by
  obtain ⟨fed, hfed, hwired⟩ := rewire_of_redirect h
  exact seated_iff_harmless hfed hwired

/-- A process that sets both streams, one of them from its old standard output. -/
theorem seating_redirect_overlap :
    Seated (Machine.streamDescriptors 6)
      (((Machine.streamDescriptors 6).set 0 ⟨.file 1, false⟩).set 1 ⟨.file 5, false⟩)
      (some 1) (some 5) :=
  (seating_redirect 7 (some 1) (some 5) (Machine.streamDescriptors 6) _
    (⟨[], [], 0, [], []⟩ : Chronicle) ⟨[], [], 0, [], []⟩ rfl).2
    ⟨by decide, by decide, by decide⟩

/-- A process whose streams are to change places ends up with one of them twice. -/
theorem unseated_redirect_swap :
    ∃ wired : Descriptors,
      redirect 7 (some 1) (some 0) (Machine.streamDescriptors 3)
        (⟨[], [], 0, [], []⟩ : Chronicle) = ((none, wired), ⟨[], [], 0, [], []⟩) ∧
      (Machine.streamDescriptors 3).target? 0 = some (.file 0) ∧
      (Machine.streamDescriptors 3).target? 1 = some (.file 1) ∧
      ¬ Seated (Machine.streamDescriptors 3) wired (some 1) (some 0) := by
  refine ⟨((Machine.streamDescriptors 3).set 0 ⟨.file 1, false⟩).set 1 ⟨.file 1, false⟩, rfl,
    rfl, rfl, ?_⟩
  intro hseated
  have houtput := hseated.one
  revert houtput
  decide

end Child

end CommandShell
