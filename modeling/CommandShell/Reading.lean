import CommandShell.Kernel

/-!
# Reading to the end

A read brings some bytes, and how many is not up to the reader. These functions read on until
nothing is left, or until a byte that ends a line has come; an interrupted read is repeated. The
system is told of the descriptors of the reader, since nothing ends that the reader itself could
still write.
-/

namespace CommandShell

variable {σ : Type} [Kernel σ]

/-- The number of bytes that are asked for at a time. -/
def readSize : Nat := 8192

/-- Reads until nothing is left. The bytes come behind those that were read before. -/
def readToEnd (source : Resource) (before : Bytes) (descriptors : Descriptors := .empty)
    (host : σ) : Except Errno Bytes × σ :=
  let answer := Kernel.read source readSize descriptors host
  match h : answer.1 with
  | .ok [] => (.ok before, answer.2)
  | .ok (b :: bytes) =>
    have : Kernel.supply answer.2 < Kernel.supply host :=
      Kernel.supply_read source readSize descriptors host (by
        rw [show (Kernel.read source readSize descriptors host).1 = _ from h]; rfl)
    readToEnd source (before ++ b :: bytes) descriptors answer.2
  | .error errno =>
    if hi : errno = .interrupted then
      have : Kernel.supply answer.2 < Kernel.supply host :=
        Kernel.supply_read source readSize descriptors host (by
          rw [show (Kernel.read source readSize descriptors host).1 = _ from h, hi]; rfl)
      readToEnd source before descriptors answer.2
    else (.error errno, answer.2)
termination_by Kernel.supply host

/-- The byte that ends a line. -/
def lineFeed : UInt8 := 10

/-- Reads until a line has come in full, or nothing is left. What was read beyond the line comes
with it. -/
def readLineFrom (source : Resource) (before : Bytes) (descriptors : Descriptors) (host : σ) :
    Except Errno (Bytes × Bytes) × σ :=
  if lineFeed ∈ before then
    (.ok (before.takeWhile (· != lineFeed) ++ [lineFeed],
      (before.dropWhile (· != lineFeed)).drop 1), host)
  else
    let answer := Kernel.read source readSize descriptors host
    match h : answer.1 with
    | .ok [] => (.ok (before, []), answer.2)
    | .ok (b :: bytes) =>
      have : Kernel.supply answer.2 < Kernel.supply host :=
        Kernel.supply_read source readSize descriptors host (by
          rw [show (Kernel.read source readSize descriptors host).1 = _ from h]; rfl)
      readLineFrom source (before ++ b :: bytes) descriptors answer.2
    | .error errno =>
      if hi : errno = .interrupted then
        have : Kernel.supply answer.2 < Kernel.supply host :=
          Kernel.supply_read source readSize descriptors host (by
            rw [show (Kernel.read source readSize descriptors host).1 = _ from h, hi]; rfl)
        readLineFrom source before descriptors answer.2
      else (.error errno, answer.2)
termination_by Kernel.supply host

end CommandShell
