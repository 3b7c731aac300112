/-!
# Descriptor tables

The descriptors of a process: small numbers, each of which refers to something and is either kept
or closed when the process starts another program. A new descriptor gets the lowest free number.
The entries stand in ascending order, so that two tables with the same descriptors are equal.
Main statements: closing a new descriptor restores the table (`close_open`), a closed number
refers to nothing (`get?_close_self`), and a duplicate is kept by the next program
(`get?_duplicate_self`).
-/

namespace CommandShell

/-- The number of a descriptor. -/
abbrev Fd := Nat

/-- What a descriptor refers to. -/
structure Slot (τ : Type) where
  /-- The thing itself. -/
  target : τ
  /-- Whether the descriptor is closed when the process starts another program. -/
  closeOnExec : Bool
  deriving DecidableEq, Repr

/-- The entries of a table. -/
abbrev Slots (τ : Type) := List (Nat × Slot τ)

namespace Slots

variable {τ : Type}

/-- Whether the numbers grow from left to right, all of them being at least `least`. -/
def AscendingFrom (least : Nat) : Slots τ → Prop
  | [] => True
  | (fd, _) :: rest => least ≤ fd ∧ AscendingFrom (fd + 1) rest

/-- The lowest free number that is at least `least`. -/
def lowestFree (least : Nat) : Slots τ → Nat
  | [] => least
  | (fd, _) :: rest => if fd = least then lowestFree (least + 1) rest else least

/-- Writes an entry at its place, in the stead of one with the same number. -/
def insert (new : Nat) (slot : Slot τ) : Slots τ → Slots τ
  | [] => [(new, slot)]
  | (fd, old) :: rest =>
    if new < fd then (new, slot) :: (fd, old) :: rest
    else if new = fd then (new, slot) :: rest
    else (fd, old) :: insert new slot rest

/-- The entry of a number. -/
def find? (wanted : Nat) : Slots τ → Option (Slot τ)
  | [] => none
  | (fd, slot) :: rest => if fd = wanted then some slot else find? wanted rest

/-- The entries without that of a number. -/
def erase (unwanted : Nat) (slots : Slots τ) : Slots τ :=
  slots.filter fun entry => entry.1 ≠ unwanted

theorem AscendingFrom.mono {slots : Slots τ} {least lower : Nat} (h : slots.AscendingFrom least)
    (hl : lower ≤ least) : slots.AscendingFrom lower := by
  cases slots with
  | nil => trivial
  | cons entry rest => exact ⟨Nat.le_trans hl h.1, h.2⟩

theorem find?_eq_none {slots : Slots τ} {least fd : Nat} (h : slots.AscendingFrom least)
    (hf : fd < least) : slots.find? fd = none := by
  induction slots generalizing least with
  | nil => rfl
  | cons entry rest ih =>
    obtain ⟨n, slot⟩ := entry
    have hn : least ≤ n := h.1
    have hne : n ≠ fd := by omega
    rw [find?, if_neg hne]
    exact ih h.2 (by omega)

theorem ascendingFrom_filter {slots : Slots τ} {least : Nat} (p : Nat × Slot τ → Bool)
    (h : slots.AscendingFrom least) : AscendingFrom least (slots.filter p) := by
  induction slots generalizing least with
  | nil => trivial
  | cons entry rest ih =>
    rw [List.filter_cons]
    split
    · exact ⟨h.1, ih h.2⟩
    · exact (ih h.2).mono (Nat.le_succ_of_le h.1)

theorem ascendingFrom_insert {slots : Slots τ} {least new : Nat} (slot : Slot τ)
    (h : slots.AscendingFrom least) (hn : least ≤ new) :
    AscendingFrom least (slots.insert new slot) := by
  induction slots generalizing least with
  | nil => exact ⟨hn, trivial⟩
  | cons entry rest ih =>
    obtain ⟨fd, old⟩ := entry
    rw [insert]
    split
    · next hlt => exact ⟨hn, hlt, h.2⟩
    · split
      · next heq => exact ⟨hn, heq ▸ h.2⟩
      · exact ⟨h.1, ih h.2 (by omega)⟩

theorem find?_insert (slots : Slots τ) (new fd : Nat) (slot : Slot τ) {least : Nat}
    (h : slots.AscendingFrom least) :
    (slots.insert new slot).find? fd = if fd = new then some slot else slots.find? fd := by
  induction slots generalizing least with
  | nil => simp only [insert, find?, eq_comm]
  | cons entry rest ih =>
    obtain ⟨n, old⟩ := entry
    have hr := ih h.2
    rw [insert]
    split
    · simp only [find?, eq_comm]
    · split
      · next heq =>
        subst heq
        simp only [find?]
        by_cases hf : new = fd
        · simp [hf]
        · simp [hf, Ne.symm hf]
      · next hne =>
        simp only [find?, hr]
        split
        · next he => subst he; simp [Ne.symm hne]
        · rfl

theorem find?_erase (slots : Slots τ) (fd unwanted : Nat) :
    (slots.erase unwanted).find? fd = if fd = unwanted then none else slots.find? fd := by
  induction slots with
  | nil => simp [erase, find?]
  | cons entry rest ih =>
    obtain ⟨n, slot⟩ := entry
    rw [erase] at ih ⊢
    rw [List.filter_cons]
    by_cases hn : n = unwanted
    · subst hn
      simp only [ne_eq, not_true_eq_false, decide_false, Bool.false_eq_true, if_false, ih, find?]
      by_cases hf : fd = n
      · simp [hf]
      · simp [hf, Ne.symm hf]
    · simp only [ne_eq, hn, not_false_eq_true, decide_true, if_true, find?, ih]
      by_cases hf : n = fd
      · subst hf; simp [hn]
      · simp [hf]

theorem le_lowestFree (least : Nat) (slots : Slots τ) : least ≤ slots.lowestFree least := by
  induction slots generalizing least with
  | nil => exact Nat.le_refl _
  | cons entry rest ih =>
    rw [lowestFree]
    split
    · exact Nat.le_of_succ_le (ih _)
    · exact Nat.le_refl _

theorem find?_lowestFree {slots : Slots τ} {least : Nat} (h : slots.AscendingFrom least) :
    slots.find? (slots.lowestFree least) = none := by
  induction slots generalizing least with
  | nil => rfl
  | cons entry rest ih =>
    obtain ⟨n, slot⟩ := entry
    have hn : least ≤ n := h.1
    rw [lowestFree]
    split
    · next heq =>
      have hle := le_lowestFree (least + 1) rest
      rw [find?, if_neg (by omega)]
      exact ih (h.2.mono (by omega))
    · next hne =>
      rw [find?, if_neg hne]
      exact find?_eq_none h.2 (by omega)

/-- The entries from a number on. -/
def above (least : Nat) (slots : Slots τ) : Slots τ := slots.filter fun entry => least ≤ entry.1

theorem ascendingFrom_above {slots : Slots τ} {lower : Nat} (least : Nat)
    (h : slots.AscendingFrom lower) : AscendingFrom least (slots.above least) := by
  induction slots generalizing lower with
  | nil => trivial
  | cons entry rest ih =>
    rw [above, List.filter_cons]
    split
    · next hle =>
      have hn : least ≤ entry.1 := by simpa using hle
      exact ⟨hn, ascendingFrom_filter _ h.2⟩
    · exact ih h.2

theorem find?_above {slots : Slots τ} {least fd : Nat} (h : least ≤ fd) :
    (slots.above least).find? fd = slots.find? fd := by
  induction slots with
  | nil => rfl
  | cons entry rest ih =>
    obtain ⟨n, slot⟩ := entry
    rw [above] at ih
    rw [above, List.filter_cons]
    split
    · rw [find?, find?, ih]
    · next hlt =>
      have hn : n ≠ fd := by
        have : ¬ least ≤ n := by simpa using hlt
        omega
      rw [find?, if_neg hn, ih]

/-- The order depends on the numbers only. -/
theorem ascendingFrom_map {υ : Type} {slots : Slots τ} {least : Nat} (f : Slot τ → Slot υ)
    (h : slots.AscendingFrom least) :
    AscendingFrom least (slots.map fun entry => (entry.1, f entry.2)) := by
  induction slots generalizing least with
  | nil => trivial
  | cons entry rest ih => exact ⟨h.1, ih h.2⟩

/-- An absent number has nothing to be erased. -/
theorem erase_of_find?_eq_none {slots : Slots τ} {fd : Nat} (h : slots.find? fd = none) :
    slots.erase fd = slots := by
  induction slots with
  | nil => rfl
  | cons entry rest ih =>
    obtain ⟨n, slot⟩ := entry
    rw [find?] at h
    split at h
    · simp at h
    · next hne =>
      rw [erase] at ih ⊢
      rw [List.filter_cons_of_pos (by simpa using hne), ih h]

theorem erase_insert {slots : Slots τ} {fd : Nat} (slot : Slot τ) (h : slots.find? fd = none) :
    (slots.insert fd slot).erase fd = slots := by
  induction slots with
  | nil => simp [insert, erase]
  | cons entry rest ih =>
    obtain ⟨n, old⟩ := entry
    have hall := erase_of_find?_eq_none h
    rw [find?] at h
    split at h
    · simp at h
    · next hne =>
      rw [insert]
      split
      · rw [erase, List.filter_cons_of_neg (by simp)]
        exact hall
      · rw [if_neg (Ne.symm hne), erase, List.filter_cons_of_pos (by simpa using hne)]
        exact congrArg _ (ih h)

end Slots

/-- The descriptors of a process. -/
structure DescriptorTable (τ : Type) where
  /-- The open descriptors, in ascending order. -/
  slots : Slots τ
  /-- No number occurs twice, and the order is kept. -/
  ascending : slots.AscendingFrom 0

namespace DescriptorTable

variable {τ : Type}

@[ext] theorem ext {s t : DescriptorTable τ} (h : s.slots = t.slots) : s = t := by
  cases s; cases t; cases h; rfl

/-- The table without any descriptor. -/
def empty : DescriptorTable τ := ⟨[], trivial⟩

/-- What a descriptor refers to. -/
def get? (t : DescriptorTable τ) (fd : Fd) : Option (Slot τ) := t.slots.find? fd

/-- The number of open descriptors. -/
def size (t : DescriptorTable τ) : Nat := t.slots.length

/-- Makes a number refer to something, whatever it referred to before. -/
def set (t : DescriptorTable τ) (fd : Fd) (slot : Slot τ) : DescriptorTable τ :=
  ⟨t.slots.insert fd slot, Slots.ascendingFrom_insert slot t.ascending (Nat.zero_le fd)⟩

/-- The number that the next descriptor gets. -/
def nextFd (t : DescriptorTable τ) : Fd := t.slots.lowestFree 0

/-- The lowest free number from another one on. -/
def nextFdFrom (t : DescriptorTable τ) (least : Fd) : Fd := (t.slots.above least).lowestFree least

/-- Opens a descriptor, that is closed when another program is started, at the lowest free
number. -/
def «open» (t : DescriptorTable τ) (target : τ) : Fd × DescriptorTable τ :=
  (t.nextFd, t.set t.nextFd ⟨target, true⟩)

/-- Closes a descriptor. -/
def close (t : DescriptorTable τ) (fd : Fd) : DescriptorTable τ :=
  ⟨t.slots.erase fd, Slots.ascendingFrom_filter _ t.ascending⟩

/-- Closes several descriptors. -/
def closeAll (t : DescriptorTable τ) (fds : List Fd) : DescriptorTable τ := fds.foldl close t

/-- Makes `goal` refer to what `source` refers to, and keeps it when another program is started.
Nothing at all happens if both are the same number, and there is no answer if `source` is not
open. -/
def duplicate (t : DescriptorTable τ) (source goal : Fd) : Option (DescriptorTable τ) :=
  match t.get? source with
  | none => none
  | some slot => if source = goal then some t else some (t.set goal ⟨slot.target, false⟩)

/-- The same descriptors, what they refer to being put in another way. -/
def map {υ : Type} (f : τ → υ) (t : DescriptorTable τ) : DescriptorTable υ :=
  ⟨t.slots.map fun entry => (entry.1, ⟨f entry.2.target, entry.2.closeOnExec⟩),
    Slots.ascendingFrom_map (fun slot => ⟨f slot.target, slot.closeOnExec⟩) t.ascending⟩

/-- Whether some descriptor refers to a thing of a kind. -/
def refersTo (t : DescriptorTable τ) (p : τ → Bool) : Bool :=
  t.slots.any fun entry => p entry.2.target

/-- What is left of the table when another program is started. -/
def surviving (t : DescriptorTable τ) : DescriptorTable τ :=
  ⟨t.slots.filter fun entry => !entry.2.closeOnExec, Slots.ascendingFrom_filter _ t.ascending⟩

theorem get?_set (t : DescriptorTable τ) (new fd : Fd) (slot : Slot τ) :
    (t.set new slot).get? fd = if fd = new then some slot else t.get? fd :=
  Slots.find?_insert t.slots new fd slot t.ascending

theorem get?_close (t : DescriptorTable τ) (closed fd : Fd) :
    (t.close closed).get? fd = if fd = closed then none else t.get? fd :=
  Slots.find?_erase t.slots fd closed

@[simp] theorem get?_close_self (t : DescriptorTable τ) (fd : Fd) :
    (t.close fd).get? fd = none := by
  simp [get?_close]

/-- The number of a new descriptor was free. -/
@[simp] theorem get?_nextFd (t : DescriptorTable τ) : t.get? t.nextFd = none :=
  Slots.find?_lowestFree t.ascending

/-- The lowest free number from another one on is free. -/
@[simp] theorem get?_nextFdFrom (t : DescriptorTable τ) (least : Fd) :
    t.get? (t.nextFdFrom least) = none := by
  rw [nextFdFrom, get?, ← Slots.find?_above (Slots.le_lowestFree least _)]
  exact Slots.find?_lowestFree (Slots.ascendingFrom_above least t.ascending)

/-- Closing a new descriptor restores the table. -/
@[simp] theorem close_open (t : DescriptorTable τ) (target : τ) :
    (t.open target).2.close (t.open target).1 = t :=
  ext (Slots.erase_insert _ (get?_nextFd t))

/-- A duplicate of another number refers to the same thing and is kept by the next program. -/
theorem get?_duplicate_self {t t' : DescriptorTable τ} {source goal : Fd} (hne : source ≠ goal)
    (h : t.duplicate source goal = some t') :
    t'.get? goal = (t.get? source).map fun slot => ⟨slot.target, false⟩ := by
  rw [duplicate] at h
  cases hs : t.get? source with
  | none => simp [hs] at h
  | some slot =>
    simp only [hs, if_neg hne, Option.some.injEq] at h
    rw [← h, get?_set]
    simp

/-- All other numbers keep what they refer to. -/
theorem get?_duplicate_of_ne {t t' : DescriptorTable τ} {source goal fd : Fd} (hne : fd ≠ goal)
    (h : t.duplicate source goal = some t') : t'.get? fd = t.get? fd := by
  rw [duplicate] at h
  split at h
  · simp at h
  · split at h
    · simp only [Option.some.injEq] at h; rw [h]
    · simp only [Option.some.injEq] at h
      rw [← h, get?_set, if_neg hne]

end DescriptorTable

end CommandShell
