import CommandShell.DescriptorTable
import Mathlib.Tactic.Basic

/-!
# Laws of descriptor tables

A table is determined by what its numbers refer to. From this follows how opening, closing,
duplicating and the start of another program combine: it is enough to look up one number after the
other. Main statements: tables that agree on every number are equal (`eq_of_get?_eq`), the order in
which descriptors are closed does not matter (`closeAll_congr`), and a new descriptor that is closed
later leaves no trace (`closeAll_open`).
-/

namespace CommandShell

namespace Slots

variable {τ : Type}

/-- The first number of an ascending list does not occur behind it. -/
theorem find?_head_tail {n : Nat} {slot : Slot τ} {rest : Slots τ} {least : Nat}
    (h : AscendingFrom least ((n, slot) :: rest)) : rest.find? n = none :=
  find?_eq_none h.2 (Nat.lt_succ_self n)

/-- Nothing below the first number of an ascending list occurs in it. -/
theorem find?_below_head {n fd : Nat} {slot : Slot τ} {rest : Slots τ} {least : Nat}
    (h : AscendingFrom least ((n, slot) :: rest)) (hlt : fd < n) :
    find? fd ((n, slot) :: rest) = none := by
  have hfrom : AscendingFrom n ((n, slot) :: rest) := ⟨Nat.le_refl n, h.2⟩
  exact find?_eq_none hfrom hlt

/-- Two ascending lists in which every number has the same entry are equal. -/
theorem eq_of_find?_eq {s t : Slots τ} {least least' : Nat} (hs : s.AscendingFrom least)
    (ht : t.AscendingFrom least') (h : ∀ fd, s.find? fd = t.find? fd) : s = t := by
  induction s generalizing t least least' with
  | nil =>
    cases t with
    | nil => rfl
    | cons entry rest =>
      have hm := h entry.1
      simp [find?] at hm
  | cons entry rest ih =>
    obtain ⟨n, a⟩ := entry
    cases t with
    | nil =>
      have hn := h n
      simp [find?] at hn
    | cons entry' rest' =>
      obtain ⟨m, b⟩ := entry'
      have hn : some a = find? n ((m, b) :: rest') := by rw [← h n, find?, if_pos rfl]
      have hm : some b = find? m ((n, a) :: rest) := by rw [h m, find?, if_pos rfl]
      -- The smaller one of the two first numbers would be missing in the other list.
      have hnm : n = m := by
        rcases Nat.lt_trichotomy n m with hlt | heq | hgt
        · rw [find?_below_head ht hlt] at hn
          cases hn
        · exact heq
        · rw [find?_below_head hs hgt] at hm
          cases hm
      subst hnm
      have hab : a = b := by simpa [find?] using hn
      have hrest : rest = rest' := by
        refine ih hs.2 ht.2 fun fd => ?_
        by_cases hfd : n = fd
        · subst hfd
          rw [find?_head_tail hs, find?_head_tail ht]
        · have := h fd
          rwa [find?, find?, if_neg hfd, if_neg hfd] at this
      rw [hab, hrest]

/-- What a filter by the kind of the entries leaves of one number. -/
theorem find?_filter (p : Slot τ → Bool) {slots : Slots τ} {least : Nat}
    (h : slots.AscendingFrom least) (fd : Nat) :
    find? fd (slots.filter fun entry => p entry.2) = (slots.find? fd).filter p := by
  induction slots generalizing least with
  | nil => rfl
  | cons entry rest ih =>
    obtain ⟨n, slot⟩ := entry
    have hrest := ih h.2
    rw [List.filter_cons]
    by_cases hn : n = fd
    · subst hn
      have habsent := find?_head_tail h
      rw [habsent] at hrest
      by_cases hp : p slot = true
      · simp [find?, Option.filter, hp]
      · simp [find?, Option.filter, hp, hrest]
    · by_cases hp : p slot = true
      · simp [find?, hp, hn, hrest]
      · simp [find?, hp, hn, hrest]

/-- The entries of an ascending list are those that its numbers have. -/
theorem mem_iff_find? {slots : Slots τ} {least fd : Nat} {slot : Slot τ}
    (h : slots.AscendingFrom least) : (fd, slot) ∈ slots ↔ slots.find? fd = some slot := by
  induction slots generalizing least with
  | nil => simp [find?]
  | cons entry rest ih =>
    obtain ⟨n, first⟩ := entry
    have hrest := ih h.2
    rw [List.mem_cons, hrest, find?]
    by_cases hn : n = fd
    · subst hn
      rw [find?_head_tail h, if_pos rfl]
      simp [eq_comm]
    · rw [if_neg hn]
      simp [Ne.symm hn]

/-- Below the lowest free number all numbers occur. -/
theorem find?_of_lt_lowestFree {slots : Slots τ} {least fd : Nat} (hle : least ≤ fd)
    (hlt : fd < slots.lowestFree least) : slots.find? fd ≠ none := by
  induction slots generalizing least with
  | nil => exact absurd hlt (Nat.not_lt_of_le hle)
  | cons entry rest ih =>
    obtain ⟨n, slot⟩ := entry
    rw [lowestFree] at hlt
    split at hlt
    · next heq =>
      rw [find?]
      split
      · exact Option.some_ne_none slot
      · next hne => exact ih (by omega) hlt
    · exact absurd hlt (Nat.not_lt_of_le hle)

end Slots

namespace DescriptorTable

variable {τ : Type}

/-- Tables that agree on every number are equal. -/
theorem eq_of_get?_eq {s t : DescriptorTable τ} (h : ∀ fd, s.get? fd = t.get? fd) : s = t :=
  ext (Slots.eq_of_find?_eq s.ascending t.ascending h)

/-- Only the new number refers to something else than before. -/
theorem get?_open (t : DescriptorTable τ) (target : τ) (fd : Fd) :
    (t.open target).2.get? fd = if fd = t.nextFd then some ⟨target, true⟩ else t.get? fd :=
  get?_set t t.nextFd fd ⟨target, true⟩

/-- Opening a descriptor takes nothing away. -/
theorem get?_open_of_some {t : DescriptorTable τ} {fd : Fd} {slot : Slot τ} (target : τ)
    (h : t.get? fd = some slot) : (t.open target).2.get? fd = some slot := by
  rw [get?_open, if_neg, h]
  rintro rfl
  simp at h

/-- What is closed refers to nothing, and nothing else changes. -/
theorem get?_closeAll (t : DescriptorTable τ) (fds : List Fd) (fd : Fd) :
    (t.closeAll fds).get? fd = if fd ∈ fds then none else t.get? fd := by
  induction fds generalizing t with
  | nil => simp [closeAll]
  | cons first rest ih =>
    have hstep : t.closeAll (first :: rest) = (t.close first).closeAll rest := rfl
    rw [hstep, ih, get?_close]
    by_cases hr : fd ∈ rest
    · simp [hr]
    · by_cases hf : fd = first <;> simp [hr, hf]

@[simp] theorem closeAll_nil (t : DescriptorTable τ) : t.closeAll [] = t := rfl

theorem closeAll_append (t : DescriptorTable τ) (fds more : List Fd) :
    t.closeAll (fds ++ more) = (t.closeAll fds).closeAll more :=
  List.foldl_append

/-- Neither the order in which descriptors are closed nor how often matters. -/
theorem closeAll_congr (t : DescriptorTable τ) (fds fds' : List Fd)
    (h : ∀ fd, fd ∈ fds ↔ fd ∈ fds') : t.closeAll fds = t.closeAll fds' := by
  apply eq_of_get?_eq
  intro fd
  rw [get?_closeAll, get?_closeAll]
  simp only [h fd]

/-- Closing one descriptor and then others. -/
theorem closeAll_close (t : DescriptorTable τ) (fd : Fd) (fds : List Fd) :
    (t.close fd).closeAll fds = t.closeAll (fd :: fds) := rfl

/-- A new descriptor that is closed later leaves no trace. -/
theorem closeAll_open (t : DescriptorTable τ) (target : τ) (fds : List Fd) :
    (t.open target).2.closeAll (t.nextFd :: fds) = t.closeAll fds := by
  rw [← closeAll_close]
  exact congrArg (closeAll · fds) (close_open t target)

/-- What is left when another program is started is what was to be kept. -/
theorem get?_surviving (t : DescriptorTable τ) (fd : Fd) :
    t.surviving.get? fd = (t.get? fd).filter fun slot => !slot.closeOnExec :=
  Slots.find?_filter (fun slot => !slot.closeOnExec) t.ascending fd

/-- Only the goal of a duplicate refers to something else than before. -/
theorem get?_duplicate {t t' : DescriptorTable τ} {source goal : Fd} (hne : source ≠ goal)
    (h : t.duplicate source goal = some t') (fd : Fd) :
    t'.get? fd =
      if fd = goal then (t.get? source).map fun slot => ⟨slot.target, false⟩ else t.get? fd := by
  by_cases hfd : fd = goal
  · rw [if_pos hfd, hfd]
    exact get?_duplicate_self hne h
  · rw [if_neg hfd]
    exact get?_duplicate_of_ne hfd h

/-- Nothing at all happens where a duplicate of a number is to have the same number. -/
theorem eq_of_duplicate_same {t t' : DescriptorTable τ} {goal : Fd}
    (h : t.duplicate goal goal = some t') : t' = t := by
  rw [duplicate] at h
  split at h
  · cases h
  · rw [if_pos rfl] at h
    cases h
    rfl

/-- What is duplicated was open. -/
theorem get?_source_of_duplicate {t t' : DescriptorTable τ} {source goal : Fd}
    (h : t.duplicate source goal = some t') : ∃ slot, t.get? source = some slot := by
  rw [duplicate] at h
  split at h
  · cases h
  · next slot hslot => exact ⟨slot, hslot⟩

/-- What is open can be duplicated. -/
theorem duplicate_ne_none {t : DescriptorTable τ} {source : Fd} (h : t.get? source ≠ none)
    (goal : Fd) : t.duplicate source goal ≠ none := by
  rw [duplicate]
  split
  · next hnone => exact absurd hnone h
  · split <;> exact Option.some_ne_none _

/-- A duplicate closes nothing. -/
theorem get?_duplicate_ne_none {t t' : DescriptorTable τ} {source goal fd : Fd}
    (h : t.duplicate source goal = some t') (hfd : t.get? fd ≠ none) : t'.get? fd ≠ none := by
  by_cases hsame : source = goal
  · subst hsame
    rwa [eq_of_duplicate_same h]
  · obtain ⟨slot, hslot⟩ := get?_source_of_duplicate h
    rw [get?_duplicate hsame h, hslot]
    split
    · exact Option.some_ne_none _
    · exact hfd

/-- A number below the next one is open. -/
theorem get?_ne_none_of_lt_nextFd {t : DescriptorTable τ} {fd : Fd} (h : fd < t.nextFd) :
    t.get? fd ≠ none := Slots.find?_of_lt_lowestFree (Nat.zero_le fd) h

/-- Of two new descriptors the second one has the greater number. -/
theorem nextFd_lt_nextFd_open (t : DescriptorTable τ) (target : τ) :
    t.nextFd < (t.open target).2.nextFd := by
  have hfree := get?_nextFd (t.open target).2
  rw [get?_open] at hfree
  split at hfree
  · cases hfree
  · next hne =>
    rcases Nat.lt_or_ge t.nextFd (t.open target).2.nextFd with hlt | hge
    · exact hlt
    · exact absurd hfree (get?_ne_none_of_lt_nextFd (Nat.lt_of_le_of_ne hge hne))

/-- What some descriptor refers to, one of the numbers refers to. -/
theorem refersTo_iff (t : DescriptorTable τ) (p : τ → Bool) :
    t.refersTo p = true ↔ ∃ fd slot, t.get? fd = some slot ∧ p slot.target = true := by
  rw [refersTo, List.any_eq_true]
  constructor
  · rintro ⟨⟨fd, slot⟩, hmem, hp⟩
    exact ⟨fd, slot, (Slots.mem_iff_find? t.ascending).1 hmem, hp⟩
  · rintro ⟨fd, slot, hslot, hp⟩
    exact ⟨(fd, slot), (Slots.mem_iff_find? t.ascending).2 hslot, hp⟩

end DescriptorTable

end CommandShell
