import CommandShell.LogLevel

/-!
# Log records

A record of the log has a level, the component it comes from, a fixed message and named values.
It is written on one line behind a time stamp; the level is aligned to the right so that the
components stand below each other. Main statement: all levels take the same width
(`LogRecord.length_alignedLabel`).
-/

namespace CommandShell

/-- One record of the log. -/
structure LogRecord where
  /-- How important it is. -/
  level : LogLevel
  /-- The component that wrote it. -/
  component : String
  /-- What happened. -/
  message : String
  /-- The values that belong to it, already in the form in which they are written. -/
  fields : List (String × String)
  deriving DecidableEq, Repr

namespace LogRecord

/-- The name of a level, filled up in front to five characters. -/
def alignedLabel (level : LogLevel) : String :=
  String.ofList (List.replicate (5 - level.label.length) ' ') ++ level.label

/-- The fields behind the message. -/
def fieldText (fields : List (String × String)) : String :=
  String.join (fields.map fun (key, value) => " " ++ key ++ "=" ++ value)

/-- The line of a record behind a time stamp. -/
def render (stamp : String) (r : LogRecord) : String :=
  stamp ++ " " ++ alignedLabel r.level ++ " " ++ r.component ++ ": " ++ r.message ++
    fieldText r.fields ++ "\n"

theorem length_alignedLabel (level : LogLevel) : (alignedLabel level).length = 5 := by
  cases level <;> decide

end LogRecord

/-- What decides which records are written, and how they are stamped. -/
structure LogFilter where
  /-- Records of a higher rank are dropped. -/
  threshold : LogLevel
  /-- The time stamp in front of every record. -/
  stamp : String
  deriving DecidableEq, Repr

/-- Whether a record is written. -/
def LogFilter.admits (f : LogFilter) (r : LogRecord) : Bool := r.level.rank ≤ f.threshold.rank

end CommandShell
