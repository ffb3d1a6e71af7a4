-- Cues: what happens at one attempt at a call, and when.
import Checkout.Gateway.Guard

namespace Checkout.Rehearsal

/-- What happens at a cue. -/
inductive Outcome (α : Type) where
  | usual
  | stated (a : α)
  | failing (fault : Gateway.Fault)
deriving DecidableEq, Repr

/-- One entry of a script: when the answer comes, if it ever does, and what it is. -/
structure Cue (α : Type) where
  delay : Option Duration
  outcome : Outcome α
deriving DecidableEq, Repr

/-- The cue that is played when the script has run out. -/
def Cue.usual {α : Type} : Cue α := ⟨some .zero, .usual⟩

/-- The attempts that a list of cues stands for, where the state counts them. Past the last cue
the usual thing happens. -/
def Cue.counted {α : Type} (cues : List (Cue α)) (usual : Nat → α) (n : Nat) :
    Gateway.Attempt Nat α :=
  let cue := cues[n]?.getD .usual
  let answer : Except Gateway.Fault α := match cue.outcome with
    | .usual => .ok (usual (n + 1))
    | .stated a => .ok a
    | .failing fault => .error fault
  ⟨cue.delay, answer, n + 1, n + 1⟩

end Checkout.Rehearsal
