import SignedAccess.Error
import SignedAccess.Log.Entry

/-!
# Calls

Main definition: `Call` — all that a call of the library leaves behind.
-/

namespace SignedAccess

/-- A finished call: its result, its log entries, and what it handed over to the outside, each in
order. -/
structure Call (σ α : Type) where
  result : Except Error α
  log : List LogEntry
  sent : List σ

namespace Call

variable {σ α : Type}

/-- A call that fails before it leaves a trace. -/
def failed (error : Error) : Call σ α := ⟨.error error, [], []⟩

/-- A call that depends on a value that may fail. -/
def after {β : Type} (value : Except Error β) (next : β → Call σ α) : Call σ α :=
  match value with
  | .ok b => next b
  | .error e => failed e

end Call

end SignedAccess
