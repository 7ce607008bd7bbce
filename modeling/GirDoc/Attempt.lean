import GirDoc.Fault

/-!
# Attempts

A computation on a state that may fail. What it did to the state before it failed stays done.
-/

namespace GirDoc

/-- A computation on a state that may fail. -/
abbrev Attempt (σ α : Type) := ExceptT Fault (StateM σ) α

namespace Attempt

variable {σ τ α : Type}

/-- Runs an attempt: its result, and the state that it leaves. -/
def start (m : Attempt σ α) (s : σ) : Except Fault α × σ := m.run s

/-- An attempt given by what it does. -/
def ofRun (f : σ → Except Fault α × σ) : Attempt σ α := ExceptT.mk f

/-- A result that needs no state. -/
def ofExcept : Except Fault α → Attempt σ α
  | .ok a => pure a
  | .error e => throw e

/-- The value of an option; the fault if there is none. -/
def need (e : Fault) : Option α → Attempt σ α
  | some a => pure a
  | none => throw e

/-- An attempt on a part of the state. -/
def onPart (get : σ → τ) (set : τ → σ → σ) (m : Attempt τ α) : Attempt σ α :=
  ofRun fun s =>
    let (result, t) := m.start (get s)
    (result, set t s)

end Attempt

end GirDoc
