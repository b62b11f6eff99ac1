/-!
# Verbosity

How much a run tells, from failures alone to everything that is known.
-/

namespace XmlSchema

/-- How much is told. -/
inductive Verbosity where
  | quiet
  | normal
  | verbose
  | debug
  deriving DecidableEq, Repr, Inhabited

namespace Verbosity

/-- The place of a level among the levels. -/
def rank : Verbosity → Nat
  | quiet => 0
  | normal => 1
  | verbose => 2
  | debug => 3

/-- Whether a level tells at least as much as another. -/
def atLeast (v w : Verbosity) : Bool := w.rank ≤ v.rank

/-- The least weight of the log lines that a level shows. -/
def logLevel : Verbosity → String
  | quiet => "error"
  | normal => "warn"
  | verbose => "info"
  | debug => "debug"

end Verbosity

end XmlSchema
