import ObjectModel.Run.Machine

/-!
# Stand-in evaluators

Evaluators that do not evaluate.  A machine works with any of them, and with them it can be seen
what it hands to an evaluator and what it does with an answer.

## Main definitions

* `BodyRunner.echo` — answers what it was given.
* `BodyRunner.returnTwice` — answers its first argument inside two early returns.
* `BodyRunner.absent` — answers that there is no evaluator.
-/

namespace ObjectModel.BodyRunner

/-- Answers an array: the text of the function, whether there is a receiver, the receiver, and an
array of the arguments. -/
def echo : BodyRunner := fun closure receiver? args => do
  let source ← modifyGet fun s => s.newString closure.inspect
  let given ← modifyGet fun s => s.newArray args
  modifyGet fun s =>
    s.newArray [source, .bool receiver?.isSome, receiver?.getD .nil, given]

/-- Answers the first argument inside two early returns. -/
def returnTwice : BodyRunner := fun _ _ args => do
  let inner ← modifyGet fun s => s.newPending (args.headD .nil)
  modifyGet fun s => s.newPending inner

/-- Answers that there is no evaluator. -/
def absent : BodyRunner := fun _ _ _ => return .fault (.raised "no evaluator")

end ObjectModel.BodyRunner
