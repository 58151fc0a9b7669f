/-
  What an inference may be told.

  There is a limit on how deep containers are opened, and one switch per string format.  By default
  everything is detected, and the limit is far beyond what a text may nest.
-/

namespace SampleSchema

/-- Which string formats are looked for. -/
structure Toggles where
  uri : Bool := true
  email : Bool := true
  date : Bool := true
  dateTime : Bool := true
  deriving DecidableEq, Repr

/-- Look for no format at all. -/
def Toggles.none : Toggles := ⟨false, false, false, false⟩

/-- The limit that holds unless another one is set. -/
def defaultMaxDepth : Nat := 256

/-- The settings of an inference. -/
structure Settings where
  /-- Containers that stand this deep, or deeper, are not opened. -/
  maxDepth : Nat := defaultMaxDepth
  formats : Toggles := {}
  deriving DecidableEq, Repr

end SampleSchema
