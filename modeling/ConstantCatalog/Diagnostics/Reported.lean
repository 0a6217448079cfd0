import ConstantCatalog.Diagnostics.Event

/-!
Contract: outcomes that come with the events reported on the way to them.

Events stay whatever the outcome is: of two steps in a row, those of the first come
first, and those of the second only if the first succeeds.

Owns: `Reported` and the ways to build one from another.

Does not own: any particular fault.
-/

namespace ConstantCatalog

variable {ε ε' α β : Type}

/-- An outcome and the events reported before it. -/
structure Reported (ε α : Type) where
  events : List Event
  outcome : Except ε α

namespace Reported

def done (value : α) : Reported ε α := ⟨[], .ok value⟩

/-- Goes on with the value of a success. -/
def andThen (first : Reported ε α) (second : α → Reported ε β) : Reported ε β :=
  match first.outcome with
  | .ok value => ⟨first.events ++ (second value).events, (second value).outcome⟩
  | .error fault => ⟨first.events, .error fault⟩

/-- Makes a fault part of another kind of fault. -/
def mapFault (wrap : ε → ε') (reported : Reported ε α) : Reported ε' α :=
  ⟨reported.events, reported.outcome.mapError wrap⟩

@[simp] theorem done_andThen (value : α) (second : α → Reported ε β) :
    (done value).andThen second = second value := by
  simp [andThen, done]

end Reported

end ConstantCatalog
