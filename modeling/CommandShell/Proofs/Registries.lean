import CommandShell.Builtin.Standard
import CommandShell.Proofs.ByteOrder
import CommandShell.Proofs.Confinement
import CommandShell.Proofs.FailingSinks
import Mathlib.Data.List.Basic
import Mathlib.Data.List.Forall2
import Mathlib.Data.List.Nodup

/-!
# Registries and the table of builtins

Builtins and handlers are registered one after the other. The registry that comes out lists every
name once, in the order of the bytes, with the description that was registered last, and it finds
the handler that was registered last. The text of `help` is a table with a line for each name in
that order. The width of the names is measured in bytes and the blanks are counted in characters,
but a text never has more characters than bytes, so the descriptions stay in one column. Main
statement: `Registry.registered_keeps`.
-/

namespace CommandShell

variable {σ : Type}

/-! ## Registrations -/

/-- Something that is registered: a builtin under its own name, or a handler under any name. -/
inductive Registration (σ : Type) : Type 1 where
  | builtin {α : Type} (b : Builtin σ α)
  | handler (name : String) (handler : Handler σ)

/-- The name and the handler that are registered. -/
def Registration.entry : Registration σ → String × Handler σ
  | .builtin b => (b.name, b.handler)
  | .handler name given => (name, given)

namespace NamedHandlers

variable {entries : NamedHandlers σ} {name : String} {handler : Handler σ}

/-- If the names ascend, a name has the handler beside which it stands. -/
theorem find?_eq_some_iff_mem (h : entries.Ascending) :
    entries.find? name = some handler ↔ (name, handler) ∈ entries := by
  induction entries with
  | nil => simp [find?]
  | cons first rest ih =>
    obtain ⟨other, old⟩ := first
    obtain ⟨hfirst, hrest⟩ := List.pairwise_cons.mp h
    rw [find?]
    by_cases heq : other = name
    · subst heq
      have hnot : (other, handler) ∉ rest := fun hmem =>
        String.lt_irrefl _ (hfirst (other, handler) hmem)
      simp [hnot, eq_comm]
    · simp [heq, Ne.symm heq, ih hrest]

/-- A name was registered if it has a latest registration. -/
theorem exists_latest_iff :
    (∃ number handler, entries.Latest name number handler) ↔ name ∈ entries.map Prod.fst := by
  constructor
  · rintro ⟨number, handler, hget, -⟩
    exact List.mem_map.mpr ⟨_, List.mem_of_getElem? hget, rfl⟩
  · intro hmem
    obtain ⟨entry, hentry, heq⟩ := List.mem_map.mp hmem
    cases hget : (Registry.ofList entries).get? name with
    | none => exact absurd heq (Registry.ne_of_get?_ofList_eq_none hget entry hentry)
    | some handler =>
      obtain ⟨number, hlatest⟩ := Registry.latest_of_get?_ofList hget
      exact ⟨number, handler, hlatest⟩

end NamedHandlers

namespace Registry

variable {name description : String} {handler : Handler σ}

/-- Registers a builtin or a handler. -/
def register (r : Registry σ) : Registration σ → Registry σ
  | .builtin b => r.with b
  | .handler name handler => r.insert name handler

/-- The registry after some registrations. -/
def registered (registrations : List (Registration σ)) : Registry σ :=
  registrations.foldl register empty

theorem registered_eq_ofList (registrations : List (Registration σ)) :
    registered registrations = ofList (registrations.map Registration.entry) := by
  rw [registered, ofList, List.foldl_map]
  congr
  funext r registration
  cases registration <;> rfl

theorem get?_eq_some_iff_mem (r : Registry σ) :
    r.get? name = some handler ↔ (name, handler) ∈ r.entries :=
  NamedHandlers.find?_eq_some_iff_mem r.ascending

/-- A name is listed with the description of its handler. -/
theorem mem_listing_iff (r : Registry σ) : (name, description) ∈ r.listing ↔
    ∃ handler, r.get? name = some handler ∧ handler.description = description := by
  rw [listing, List.mem_map]
  constructor
  · rintro ⟨⟨name, handler⟩, hmem, heq⟩
    cases heq
    exact ⟨handler, r.get?_eq_some_iff_mem.mpr hmem, rfl⟩
  · rintro ⟨handler, hget, rfl⟩
    exact ⟨(name, handler), r.get?_eq_some_iff_mem.mp hget, rfl⟩

/-- The names are listed in strictly ascending order. -/
theorem pairwise_listing (r : Registry σ) : r.listing.Pairwise fun a b => a.1 < b.1 :=
  List.pairwise_map.mpr r.ascending

theorem nodup_names (r : Registry σ) : (r.listing.map Prod.fst).Nodup := by
  refine List.pairwise_map.mpr (r.pairwise_listing.imp ?_)
  intro a b hlt heq
  exact String.lt_irrefl _ (heq ▸ hlt)

/-- The names that are listed are those that are found. -/
theorem mem_names_iff (r : Registry σ) :
    name ∈ r.listing.map Prod.fst ↔ r.contains name = true := by
  rw [contains, Option.isSome_iff_exists, List.mem_map]
  constructor
  · rintro ⟨⟨name, description⟩, hmem, rfl⟩
    obtain ⟨handler, hget, -⟩ := r.mem_listing_iff.mp hmem
    exact ⟨handler, hget⟩
  · rintro ⟨handler, hget⟩
    exact ⟨(name, handler.description), r.mem_listing_iff.mpr ⟨handler, hget, rfl⟩, rfl⟩

/-- What is found is what was registered last. -/
theorem get?_ofList_eq_some_iff {entries : NamedHandlers σ} :
    (ofList entries).get? name = some handler ↔ ∃ number, entries.Latest name number handler :=
  ⟨latest_of_get?_ofList, fun ⟨_, h⟩ => get?_ofList_of_latest h⟩

/-- A registry keeps what was registered last under each name. -/
structure Keeps (r : Registry σ) (entries : NamedHandlers σ) : Prop where
  /-- The names are listed in the strictly ascending order of their bytes. -/
  ascending : r.listing.Pairwise fun a b => utf8 a.1 < utf8 b.1
  /-- A name is listed once if it was registered, and otherwise not at all. -/
  once : ∀ name, (r.listing.map Prod.fst).count name =
    if name ∈ entries.map Prod.fst then 1 else 0
  /-- A name is listed with the description of its last registration. -/
  described : ∀ name description, (name, description) ∈ r.listing ↔
    ∃ number handler, entries.Latest name number handler ∧ handler.description = description
  /-- The handler of the last registration is found under a name. -/
  found : ∀ name handler, r.get? name = some handler ↔
    ∃ number, entries.Latest name number handler
  /-- The names that are contained are those that were registered. -/
  contained : ∀ name, r.contains name = true ↔ name ∈ entries.map Prod.fst

theorem contains_ofList_iff {entries : NamedHandlers σ} :
    (ofList entries).contains name = true ↔ name ∈ entries.map Prod.fst := by
  rw [contains, Option.isSome_iff_exists, ← NamedHandlers.exists_latest_iff]
  simp only [get?_ofList_eq_some_iff]
  exact exists_comm

theorem keeps_ofList (entries : NamedHandlers σ) : (ofList entries).Keeps entries where
  ascending := (pairwise_listing _).imp utf8_lt_utf8_iff.mpr
  once := by
    intro name
    by_cases hmem : name ∈ entries.map Prod.fst
    · have hlisted := (mem_names_iff _).mpr (contains_ofList_iff.mpr hmem)
      rw [if_pos hmem, List.count_eq_one_of_mem (nodup_names _) hlisted]
    · have hnot : name ∉ (ofList entries).listing.map Prod.fst := fun hlisted =>
        hmem (contains_ofList_iff.mp ((mem_names_iff _).mp hlisted))
      rw [if_neg hmem, List.count_eq_zero_of_not_mem hnot]
  described := by
    intro name description
    rw [mem_listing_iff]
    simp only [get?_ofList_eq_some_iff]
    constructor
    · rintro ⟨handler, ⟨number, hlatest⟩, heq⟩
      exact ⟨number, handler, hlatest, heq⟩
    · rintro ⟨number, handler, hlatest, heq⟩
      exact ⟨handler, ⟨number, hlatest⟩, heq⟩
  found := fun _ _ => get?_ofList_eq_some_iff
  contained := fun _ => contains_ofList_iff

end Registry

/-! ## The table of builtins -/

/-- A text of blanks. -/
def blanks (count : Nat) : String := String.ofList (List.replicate count ' ')

theorem blanks_append (count more : Nat) : blanks count ++ blanks more = blanks (count + more) := by
  rw [blanks, blanks, blanks, ← String.ofList_append, ← List.replicate_add]

@[simp] theorem length_blanks (count : Nat) : (blanks count).length = count := by
  simp [blanks]

/-- A line of a table: two blanks, a name in full, at least two blanks, and a description, which
starts at a column. -/
def IsRow (column : Nat) (entry : String × String) (row : String) : Prop :=
  ∃ gap, 2 ≤ gap ∧ ("  " ++ entry.1 ++ blanks gap).length = column ∧
    row = "  " ++ entry.1 ++ blanks gap ++ entry.2 ++ "\n"

/-- A text is a table of a listing: a line above it, a line for each entry in order, all with their
descriptions in the same column, and a line below it. -/
def IsTable (listing : Listing) (text : String) : Prop :=
  ∃ column rows, List.Forall₂ (IsRow column) listing rows ∧
    text = "Built-in commands:\n" ++ String.join rows ++
      "Anything else is run as a program found on $PATH.\n"

namespace Builtin

theorem padTo_append_blanks (width count : Nat) (text : String) :
    padTo width text ++ blanks count = text ++ blanks (width - text.length + count) := by
  rw [padTo, String.append_assoc, ← blanks_append]
  rfl

/-- A name that fits is followed by as many blanks as bring the description to its column. -/
theorem isRow_listingLine {width : Nat} {entry : String × String} (h : entry.1.length ≤ width) :
    IsRow (width + 4) entry (listingLine width entry) := by
  refine ⟨width - entry.1.length + 2, by omega, ?_, ?_⟩
  · have htwo : "  ".length = 2 := rfl
    rw [String.length_append, String.length_append, length_blanks, htwo]
    omega
  · have hpad := padTo_append_blanks width 2 entry.1
    have hname : "  " ++ entry.1 ++ blanks (width - entry.1.length + 2) =
        "  " ++ padTo width entry.1 ++ "  " := by
      rw [String.append_assoc, ← hpad, ← String.append_assoc]
      rfl
    rw [listingLine, hname]

/-- No name is wider than the column of names, whatever its characters are. -/
theorem isTable_listingText (listing : Listing) : IsTable listing (listingText listing) := by
  refine ⟨columnWidth listing + 4, listing.map (listingLine (columnWidth listing)), ?_, rfl⟩
  rw [List.forall₂_map_right_iff, List.forall₂_same]
  intro entry hmem
  exact isRow_listingLine (length_le_columnWidth hmem)

end Builtin

/-! ## Main statement -/

/-- A completed reply to a sink without a limit: all of its output is there, and the line leaves
what the reply says. -/
theorem Reply.deliverToSink_completed [Kernel σ] (output : String) (outcome : Outcome)
    (s : ShellState σ) :
    (completed output outcome).deliverToSink .unlimited s = ((outcome, utf8 output), s) := by
  rw [deliverToSink_apply, Sink.write_unlimited]
  rfl

/-- After any registrations the registry keeps the last one of each name, in the order of the
bytes, and `help` answers with the table of what is listed and writes nothing but this table. -/
theorem Registry.registered_keeps (registrations : List (Registration σ)) :
    (registered registrations).Keeps (registrations.map Registration.entry) ∧
      ∃ text, IsTable (registered registrations).listing text ∧ ∀ name,
        (∀ w, (Builtin.help : Builtin σ Unit).handler.invoke [name]
          (registered registrations).listing w = (.completed text (.proceed 0), w)) ∧
        ∀ [Kernel σ] (s : ShellState σ), (Builtin.help : Builtin σ Unit).handler.serveTo [name]
          (registered registrations).listing .unlimited s = ((.proceed 0, utf8 text), s) := by
  constructor
  · rw [registered_eq_ofList]
    exact keeps_ofList _
  · have htable := Builtin.isTable_listingText (registered registrations).listing
    exact ⟨_, htable, fun name => ⟨fun _ => rfl, fun s =>
      Reply.deliverToSink_completed (Builtin.listingText _) (.proceed 0) s⟩⟩

end CommandShell
