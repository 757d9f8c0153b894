import ObjectModel.Run.Kernel

/-!
# Sending messages

A machine is everything that a message needs on its way: the core classes, the native functions of
the embedding program, and an evaluator for user-defined bodies.  The evaluator is a parameter,
and nothing here depends on how it works; whatever it answers, an early return that comes out of
it has arrived and becomes the result of the call.

A fault as a receiver is the answer to every message, and an early return as a receiver or callee
stands for what it carries.

## Main definitions

* `BodyRunner` — an evaluator of user-defined bodies.
* `Machine.perform` — a method run on a receiver.
* `Machine.send` — a message sent to a receiver.
* `Machine.call` — a function value called directly.
* `Machine.context` — what native methods are given, for calls that nest so deep and no deeper.

## Main results

* `Machine.send_of_found`, `Machine.perform_of_admits`, `Machine.call_function` and the like — what
  each of these goes on with.
* `Machine.send_fault`, `Machine.call_fault` — faults as receivers and as callees.
-/

namespace ObjectModel

/-- An evaluator: it runs the body of a function on a receiver, if there is one, and arguments.
Its answer may be an early return. -/
abbrev BodyRunner := Closure → Option Value → List Value → Action Value

/-- Everything that a message needs on its way. -/
structure Machine where
  core : Core
  host : Host
  runner : BodyRunner

namespace Machine

/-- Runs a user-defined body.  An early return out of it has arrived. -/
def runBody (m : Machine) (closure : Closure) (receiver? : Option Value) (args : List Value) :
    Action Value :=
  return (← m.runner closure receiver? args).payload

/-- Runs a native method.  Its answer is passed on as it is. -/
def runNative (m : Machine) (ctx : NativeContext) (native : Native) (receiver : Value)
    (args : List Value) : Action Value :=
  match native with
  | .kernel _ method => method.run ctx receiver args
  | .host entry _ _ => m.host.method entry ctx receiver args

/-- Runs a method that has been found for a message, if it takes so many arguments. -/
def perform (m : Machine) (ctx : NativeContext) (receiver : Value) (name : String)
    (method : Method) (args : List Value) : Action Value :=
  match method.arity with
  | .exact expected =>
    if expected = args.length then run
    else return .fault (.argCount name expected args.length)
  | .any => run
where
  /-- Runs the method on arguments whose number is right. -/
  run : Action Value :=
    match method with
    | .native native => m.runNative ctx native receiver args
    | .user closure => m.runBody closure (some receiver) args

/-- Sends a message. -/
def send (m : Machine) (ctx : NativeContext) (receiver : Value) (name : String)
    (args : List Value) : Action Value := do
  match receiver.payload with
  | .fault fault => return .fault fault
  | receiver =>
    match (← get).methodFor m.core receiver name with
    | .ok found => m.perform ctx receiver name found.method args
    | .error fault => return .fault fault

/-- Calls a function value, without a receiver. -/
def call (m : Machine) (callee : Value) (args : List Value) : Action Value := do
  match callee.payload with
  | .function closure =>
    if closure.arity = args.length then m.runBody closure none args
    else return .fault (.argCount "call" closure.arity args.length)
  | .builtin entry _ => m.host.builtin entry args
  | .fault fault => return .fault fault
  | other =>
    let s ← get
    return .fault (.notAFunction (s.inspect other) (s.tagOf other))

/-- What native methods are given.  Natives that send messages to natives nest at most `depth`
deep. -/
def context (m : Machine) : Nat → NativeContext
  | 0 => .exhausted m.core
  | depth + 1 =>
    { core := m.core
      send := fun receiver name args => m.send (m.context depth) receiver name args
      call := m.call }

/-! ### What sends, calls and bodies go on with -/

section

variable {m : Machine} {ctx : NativeContext} {receiver callee : Value} {name : String}
  {method : Method} {closure : Closure} {args : List Value} {s : Store}

/-- A message to what is no fault performs the method that is found for it. -/
theorem send_of_found {found : Store.Found} (hreceiver : ∀ fault, receiver.payload ≠ .fault fault)
    (hfound : s.methodFor m.core receiver.payload name = .ok found) :
    m.send ctx receiver name args s = m.perform ctx receiver.payload name found.method args s := by
  unfold send
  generalize receiver.payload = payload at hreceiver hfound
  cases payload with
  | fault fault => exact absurd rfl (hreceiver fault)
  | _ => simp only [Action.get_bind, hfound]

/-- A method that takes so many arguments is run. -/
theorem perform_of_admits (hcount : method.arity.admits args.length = true) :
    m.perform ctx receiver name method args = perform.run m ctx receiver method args := by
  unfold perform
  cases harity : method.arity with
  | exact expected =>
    rw [harity] at hcount
    exact if_pos (eq_of_beq hcount)
  | any => rfl

/-- A method that takes another number of them is not. -/
theorem perform_of_miscounted {expected : Nat} (harity : method.arity = .exact expected)
    (hne : expected ≠ args.length) :
    m.perform ctx receiver name method args =
      pure (.fault (.argCount name expected args.length)) := by
  unfold perform
  simp only [harity, if_neg hne]

/-- To perform a method of the user is to run its body. -/
theorem perform_user (hcount : closure.arity = args.length) :
    m.perform ctx receiver name (.user closure) args =
      m.runBody closure (some receiver) args := by
  have hadmits : (Method.user closure).arity.admits args.length = true := beq_iff_eq.2 hcount
  rw [perform_of_admits hadmits]
  rfl

/-- So is to call a function. -/
theorem call_function (hclosure : callee.payload = .function closure)
    (hcount : closure.arity = args.length) :
    m.call callee args = m.runBody closure none args := by
  unfold call
  simp only [hclosure, hcount, if_true]

theorem call_of_miscounted (hclosure : callee.payload = .function closure)
    (hne : closure.arity ≠ args.length) :
    m.call callee args = pure (.fault (.argCount "call" closure.arity args.length)) := by
  unfold call
  simp only [hclosure, if_neg hne]

/-- To run a body is to hand it to the evaluator and to take the early returns off the answer. -/
theorem runBody_eq_map (receiver? : Option Value) : m.runBody closure receiver? args s =
    (m.runner closure receiver? args s).map (Prod.map Value.payload id) := by
  change (m.runner closure receiver? args s).bind _ = _
  cases m.runner closure receiver? args s <;> rfl

end

/-! ### Faults as receivers and callees -/

/-- A fault answers every message with itself. -/
theorem send_fault (m : Machine) (ctx : NativeContext) (fault : Fault) (name : String)
    (args : List Value) : m.send ctx (.fault fault) name args = pure (.fault fault) := rfl

/-- So does a fault that is called. -/
theorem call_fault (m : Machine) (fault : Fault) (args : List Value) :
    m.call (.fault fault) args = pure (.fault fault) := rfl

end Machine

end ObjectModel
