-- Cues as they are written: a word, or an object with the delay in
-- milliseconds and what is answered then.
import Checkout.Gateway.Json
import Checkout.Rehearsal.Cue

namespace Checkout.Rehearsal

namespace Outcome

/-- A failure, if an object names one. -/
def failure? (j : Json) : Option Gateway.Fault :=
  let stated (name : String) : Option String := (j.get? name).bind Json.string?
  ((stated "fail").map .transport) <|> ((stated "reject").map .rejected) <|>
    ((stated "invalid").map .invalidResponse)

/-- What an object says is answered: the member of the given name, a failure, or the usual. -/
def ofJson? {α : Type} (name : String) (read : Json → Option α) (j : Json) : Option (Outcome α) :=
  match j.get? name with
  | some answer => (read answer).map .stated
  | none => some ((failure? j).elim .usual .failing)

end Outcome

/-- Reads a cue. The word `hang` means that no answer comes, and any other word the usual. -/
def Cue.ofJson? {α : Type} (name : String) (read : Json → Option α) : Json → Option (Cue α)
  | .string "hang" => some ⟨none, .usual⟩
  | .string _ => some .usual
  | j => do
    let delay := ((j.get? "delay").bind Json.int64?).getD 0
    return ⟨some (.ofMilliseconds delay.toNat), ← Outcome.ofJson? name read j⟩

def Cue.receipt? : Json → Option (Cue Gateway.Receipt) :=
  Cue.ofJson? "receipt" Gateway.Receipt.ofJson?

def Cue.transaction? : Json → Option (Cue Gateway.Transaction) :=
  Cue.ofJson? "transaction" Gateway.Transaction.ofJson?

end Checkout.Rehearsal
