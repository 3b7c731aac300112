/-!
# Pipes

The bytes that were written to a pipe and not read yet. A pipe keeps them on a number of pages. What
is written goes on behind the last byte if the part of it that fills no page fits there, and on
pages of its own otherwise; a page is free again when all of it was read. Main statements: what goes
in stands behind what was there (`bytes_put?`), and no more pages are used than there are
(`length_pages_put?`).
-/

namespace CommandShell.Machine

/-- A pipe. -/
structure Pipe where
  /-- The bytes that were not read yet. -/
  bytes : ByteArray
  /-- How many of them each page in use holds, the first one first. -/
  pages : List Nat
  /-- How many bytes fit behind the last one on its page. -/
  room : Nat

namespace Pipe

/-- How many bytes fit on a page. -/
def pageSize : Nat := 4096

/-- How many pages a pipe has. -/
def pageCount : Nat := 16

/-- A pipe to which nothing was written. -/
def empty : Pipe := ⟨.empty, [], 0⟩

/-- How many of some bytes go on behind the last one. -/
def joined (p : Pipe) (count : Nat) : Nat :=
  if p.pages.isEmpty || p.room < count % pageSize then 0 else count % pageSize

/-- How many of some bytes can be written now. -/
def accepted (p : Pipe) (count : Nat) : Nat :=
  p.joined count + min (count - p.joined count) ((pageCount - p.pages.length) * pageSize)

/-- The pages that so many bytes fill. -/
def pagesFor (count : Nat) : List Nat :=
  List.replicate (count / pageSize) pageSize ++
    (if count % pageSize = 0 then [] else [count % pageSize])

/-- Pages of which the last one holds some more bytes. -/
def lengthenLast (count : Nat) : List Nat → List Nat
  | [] => []
  | [last] => [last + count]
  | page :: rest => page :: lengthenLast count rest

/-- How many of some bytes are written on pages of their own now. -/
def apart (p : Pipe) (count : Nat) : Nat := p.accepted count - p.joined count

/-- A pipe to which as many of some bytes were written as fit. -/
def holding (p : Pipe) (bytes : ByteArray) : Pipe where
  bytes := p.bytes ++ bytes.extract 0 (p.accepted bytes.size)
  pages := lengthenLast (p.joined bytes.size) p.pages ++ pagesFor (p.apart bytes.size)
  room :=
    if p.apart bytes.size = 0 then p.room - p.joined bytes.size
    else (pageSize - p.apart bytes.size % pageSize) % pageSize

/-- Writes some bytes to a pipe, as many as fit, and tells their number. There is no answer if
nothing fits. -/
def put? (p : Pipe) (bytes : ByteArray) : Option (Nat × Pipe) :=
  if p.accepted bytes.size = 0 then none else some (p.accepted bytes.size, p.holding bytes)

/-- Pages from which some bytes were read. -/
def dropBytes (count : Nat) : List Nat → List Nat
  | [] => []
  | page :: rest => if page ≤ count then dropBytes (count - page) rest else (page - count) :: rest

/-- Reads some bytes, as many as there are but not more than `limit`. -/
def take (p : Pipe) (limit : Nat) : ByteArray × Pipe :=
  (p.bytes.extract 0 limit, { p with
    bytes := p.bytes.extract limit p.bytes.size
    pages := dropBytes limit p.pages })

/-- What goes in stands behind what was there. -/
theorem bytes_put? {p q : Pipe} {bytes : ByteArray} {count : Nat}
    (h : p.put? bytes = some (count, q)) : q.bytes = p.bytes ++ bytes.extract 0 count := by
  unfold put? at h
  split at h
  · simp at h
  · simp only [Option.some.injEq, Prod.mk.injEq] at h
    obtain ⟨rfl, rfl⟩ := h
    rfl

theorem length_lengthenLast (count : Nat) (pages : List Nat) :
    (lengthenLast count pages).length = pages.length := by
  induction pages with
  | nil => rfl
  | cons page rest ih =>
    cases rest with
    | nil => rfl
    | cons next more => exact congrArg (· + 1) ih

theorem length_pagesFor_le {count free : Nat} (h : count ≤ free * pageSize) :
    (pagesFor count).length ≤ free := by
  unfold pagesFor pageSize at *
  split <;> simp only [List.length_append, List.length_replicate, List.length_nil,
    List.length_singleton] <;> omega

/-- No more pages are used than there are. -/
theorem length_pages_put? {p q : Pipe} {bytes : ByteArray} {count : Nat}
    (hp : p.pages.length ≤ pageCount) (h : p.put? bytes = some (count, q)) :
    q.pages.length ≤ pageCount := by
  unfold put? at h
  split at h
  · simp at h
  · simp only [Option.some.injEq, Prod.mk.injEq] at h
    obtain ⟨-, rfl⟩ := h
    have hc : p.apart bytes.size ≤ (pageCount - p.pages.length) * pageSize := by
      unfold apart accepted
      omega
    have hf := length_pagesFor_le hc
    simp only [holding, List.length_append, length_lengthenLast]
    omega

end Pipe

end CommandShell.Machine
