import CommandShell.Builtin.Handler

/-!
# Registries of builtins

The builtins of a shell by name, in ascending order of the names. A name that is registered again
gets the new handler. Main statements: the names are always in strictly ascending order, which is
part of the type, and looking up a name finds what was registered last (`Registry.get?_insert`).
-/

namespace CommandShell

/-- Builtins with their names. -/
abbrev NamedHandlers (σ : Type) := List (String × Handler σ)

namespace NamedHandlers

variable {σ : Type}

/-- Whether the names grow strictly from left to right. -/
def Ascending (entries : NamedHandlers σ) : Prop := entries.Pairwise fun a b => a.1 < b.1

/-- Puts a handler at its place, in the stead of one with the same name. -/
def insert (name : String) (handler : Handler σ) : NamedHandlers σ → NamedHandlers σ
  | [] => [(name, handler)]
  | (other, old) :: rest =>
    if name < other then (name, handler) :: (other, old) :: rest
    else if name = other then (name, handler) :: rest
    else (other, old) :: insert name handler rest

/-- The handler of a name. -/
def find? (name : String) : NamedHandlers σ → Option (Handler σ)
  | [] => none
  | (other, handler) :: rest => if other = name then some handler else find? name rest

/-- The names are those from before and the new one. -/
theorem name_of_mem_insert {name : String} {handler : Handler σ} {entries : NamedHandlers σ}
    {entry : String × Handler σ} (h : entry ∈ entries.insert name handler) :
    entry.1 = name ∨ entry ∈ entries := by
  induction entries with
  | nil => simp only [insert, List.mem_singleton] at h; exact Or.inl (by rw [h])
  | cons first rest ih =>
    obtain ⟨other, old⟩ := first
    rw [insert] at h
    split at h
    · rcases List.mem_cons.1 h with h | h
      · exact Or.inl (by rw [h])
      · exact Or.inr h
    · split at h
      · rcases List.mem_cons.1 h with h | h
        · exact Or.inl (by rw [h])
        · exact Or.inr (List.mem_cons_of_mem _ h)
      · rcases List.mem_cons.1 h with h | h
        · exact Or.inr (by simp [h])
        · exact (ih h).imp_right (List.mem_cons_of_mem _)

theorem lt_of_not_lt_of_ne {a b : String} (h : ¬ a < b) (hne : a ≠ b) : b < a := by
  apply Decidable.byContradiction
  intro hba
  exact hne (String.le_antisymm (String.not_lt.1 hba) (String.not_lt.1 h))

theorem ascending_insert {entries : NamedHandlers σ} (name : String) (handler : Handler σ)
    (h : entries.Ascending) : (entries.insert name handler).Ascending := by
  induction entries with
  | nil => exact List.pairwise_singleton _ _
  | cons first rest ih =>
    obtain ⟨other, old⟩ := first
    obtain ⟨hfirst, hrest⟩ := List.pairwise_cons.1 h
    rw [insert]
    split
    · next hlt =>
      refine List.pairwise_cons.2 ⟨fun entry he => ?_, h⟩
      rcases List.mem_cons.1 he with he | he
      · rw [he]; exact hlt
      · exact String.lt_trans hlt (hfirst entry he)
    · split
      · next heq =>
        subst heq
        exact List.pairwise_cons.2 ⟨hfirst, hrest⟩
      · next hlt hne =>
        refine List.pairwise_cons.2 ⟨fun entry he => ?_, ih hrest⟩
        rcases name_of_mem_insert he with he | he
        · rw [he]; exact lt_of_not_lt_of_ne hlt hne
        · exact hfirst entry he

theorem find?_insert (entries : NamedHandlers σ) (new name : String) (handler : Handler σ) :
    (entries.insert new handler).find? name =
      if name = new then some handler else entries.find? name := by
  induction entries with
  | nil => simp only [insert, find?, eq_comm]
  | cons first rest ih =>
    obtain ⟨other, old⟩ := first
    rw [insert]
    split
    · simp only [find?, eq_comm]
    · split
      · next heq =>
        subst heq
        simp only [find?]
        by_cases hn : new = name
        · simp [hn]
        · simp [hn, Ne.symm hn]
      · next hne =>
        simp only [find?, ih]
        by_cases ho : other = name
        · subst ho
          simp [Ne.symm hne]
        · simp [ho]

end NamedHandlers

/-- The builtins of a shell. -/
structure Registry (σ : Type) where
  /-- The handlers with their names. -/
  entries : NamedHandlers σ
  /-- The names stand in strictly ascending order. -/
  ascending : entries.Ascending

namespace Registry

variable {σ : Type}

/-- No builtin at all. -/
def empty : Registry σ := ⟨[], List.Pairwise.nil⟩

/-- Registers a handler under a name. -/
def insert (r : Registry σ) (name : String) (handler : Handler σ) : Registry σ :=
  ⟨r.entries.insert name handler, NamedHandlers.ascending_insert name handler r.ascending⟩

/-- The handler that is registered under a name. -/
def get? (r : Registry σ) (name : String) : Option (Handler σ) := r.entries.find? name

/-- Whether a name is registered. -/
def contains (r : Registry σ) (name : String) : Bool := (r.get? name).isSome

/-- The names with the descriptions, in ascending order of the names. -/
def listing (r : Registry σ) : Listing := r.entries.map fun entry => (entry.1, entry.2.description)

/-- A name has the handler that was registered last under it. -/
theorem get?_insert (r : Registry σ) (new name : String) (handler : Handler σ) :
    (r.insert new handler).get? name = if name = new then some handler else r.get? name :=
  NamedHandlers.find?_insert r.entries new name handler

@[simp] theorem get?_empty (name : String) : (empty : Registry σ).get? name = none := rfl

end Registry

end CommandShell
