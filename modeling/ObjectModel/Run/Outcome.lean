import ObjectModel.Value.Equality
import ObjectModel.Value.Inspect

/-!
# Outcomes

Evaluating something either answers a value or ends early, by a return or by a fault.  Inside an
evaluator the difference is in the type; between evaluator and methods it is in the value, where
an early return is a `pending` and a fault is a `fault`.  The two forms are turned into each other
here.

At a call boundary an early return becomes the result of the call, and a fault goes on.

## Main definitions

* `Abrupt`, `Outcome` — the two ways to end early, and how an evaluation ends.
* `Outcome.ofValue`, `Store.outcomeValue` — from a value, and back.
* `Outcome.result` — the result of a call whose body ended so.
* `Store.equalOutcome` — equality of outcomes, by equality of their values.
-/

namespace ObjectModel

/-- An early end of an evaluation. -/
inductive Abrupt where
  /-- A return, with the value it returns. -/
  | ret (value : Value)
  | fault (fault : Fault)
  deriving DecidableEq

/-- How an evaluation ended: with a value, or early. -/
abbrev Outcome := Except Abrupt Value

namespace Outcome

/-- What a value stands for when an evaluation comes to it. -/
def ofValue : Value → Outcome
  | .pending _ payload => .error (.ret payload)
  | .fault fault => .error (.fault fault)
  | value => .ok value

def endsEarly : Outcome → Bool
  | .error _ => true
  | .ok _ => false

/-- The result of a call whose body ended with this outcome. -/
def result : Outcome → Value
  | .ok value | .error (.ret value) => value
  | .error (.fault fault) => .fault fault

end Outcome

namespace Store

/-- An outcome as a value.  A return is wrapped anew, apart from every other early return. -/
def outcomeValue (s : Store) : Outcome → Value × Store
  | .ok value => (value, s)
  | .error (.ret value) => s.newPending value
  | .error (.fault fault) => (.fault fault, s)

/-- Whether two outcomes are of one sort and have equal values. -/
def equalOutcome (s : Store) : Outcome → Outcome → Bool
  | .ok a, .ok b => s.equal a b
  | .error (.ret a), .error (.ret b) => s.equal a b
  | .error (.fault f), .error (.fault g) => f.message == g.message
  | _, _ => false

end Store

end ObjectModel
