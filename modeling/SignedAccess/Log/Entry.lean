import SignedAccess.Json

/-!
# Log entries

Main definitions:

* `LogLevel` — the levels, ordered by rank;
* `LogEntry` — an event with its level and its values, in order.
-/

namespace SignedAccess

inductive LogLevel where
  | debug
  | info
  | warning
  | error
  | critical
  deriving DecidableEq, Repr

namespace LogLevel

def rank : LogLevel → Nat
  | .debug => 10
  | .info => 20
  | .warning => 30
  | .error => 40
  | .critical => 50

def name : LogLevel → Text
  | .debug => "debug".toList
  | .info => "info".toList
  | .warning => "warning".toList
  | .error => "error".toList
  | .critical => "critical".toList

end LogLevel

/-- An event with its level and its values. -/
structure LogEntry where
  level : LogLevel
  event : Text
  fields : List (Text × Json)

end SignedAccess
