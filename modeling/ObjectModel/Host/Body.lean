import ObjectModel.Class.Eigenclass
import ObjectModel.Run.Machine

/-!
# Bodies of host functions

A host program brings native functions of its own.  This module has a small language of bodies
for them, enough to reach every operation of the object system from native code: answering values,
sending messages, calling functions, arithmetic, and defining methods and classes.  A table of
such bodies is a `Host`.

A body that runs as a function of no class has neither a context nor a receiver.  It then answers
`nil` where it would have sent or called something, and the two bodies that work on their receiver
take the first argument for it.

## Main definitions

* `Body` — the bodies.
* `Body.run` — what a body does, with a context or without one.
* `Host.ofBodies` — the host with a given table.
-/

namespace ObjectModel

/-- The body of a host function. -/
inductive Body where
  /-- Answers a value that was made when the function was defined. -/
  | const (value : Value)
  /-- Answers an argument. -/
  | nth (index : Nat)
  | recv
  /-- Answers a new array of the arguments. -/
  | args
  /-- Answers the number of arguments. -/
  | count
  /-- Answers an early return of the first argument. -/
  | retFirst
  /-- Sends a message to the receiver, with the same arguments. -/
  | send (name : String)
  /-- Calls the first argument with the others. -/
  | callFirst
  /-- Adds an integer to the receiver, modulo 2 to the 64. -/
  | add
  /-- Appends the first argument to the receiver. -/
  | push
  /-- Defines a method on the receiver: a name and a function. -/
  | defMethod
  /-- Defines a method on the receiver alone: a name and a function. -/
  | defOnObject
  /-- Makes a class of the given name below the receiver. -/
  | subclass
  deriving DecidableEq, Inhabited

namespace Body

/-- An argument, and `nil` where there is none. -/
def arg (args : List Value) (index : Nat) : Value := args[index]?.getD .nil

/-- Reads a name and a function from the first two arguments, for a method called `method`. -/
def nameAndFunction (s : Store) (method : String) (args : List Value) :
    Except Fault (String × Closure) := do
  let name ← match arg args 0 with
    | .symbol name => .ok name
    | .string ref => .ok (s.text ref)
    | other => .error (.argType method "Symbol" (s.tagOf other))
  match arg args 1 with
  | .function closure => return (name, closure)
  | other => .error (.argType method "Function" (s.tagOf other))

/-- The sum of the receiver and the first argument. -/
def sum (s : Store) (receiver : Value) (args : List Value) : Value :=
  match receiver, arg args 0 with
  | .int m, .int n => .int (m + n)
  | .int _, other => .fault (.argType "+" "Integer" (s.tagOf other))
  | other, _ => .fault (.argType "+" "Integer" (s.tagOf other))

/-- Appends the first argument to the receiver and answers the receiver. -/
def append (receiver : Value) (args : List Value) : Action Value := do
  match receiver with
  | .array ref =>
    modify fun s => s.push ref (arg args 0)
    return receiver
  | other => return .fault (.argType "push" "Array" ((← get).tagOf other))

/-- Defines a method on a class and answers its name. -/
def defineMethod (receiver : Value) (args : List Value) : Action Value := do
  match receiver with
  | .cls c =>
    match nameAndFunction (← get) "define_method" args with
    | .ok (name, closure) =>
      modify fun s => s.defineMethod c name (.user closure)
      return .symbol name
    | .error fault => return .fault fault
  | other => return .fault (.classExpected ((← get).inspect other))

/-- Defines a method on one object and answers its name. -/
def defineOnObject (core? : Option Core) (receiver : Value) (args : List Value) :
    Action Value := do
  match nameAndFunction (← get) "define_singleton_method" args with
  | .error fault => return .fault fault
  | .ok (name, closure) =>
    let defined ← Action.attempt fun s =>
      match core? with
      | some core =>
        (s.defineOnObject core receiver name (.user closure)).map ((), ·)
      | none => .error (.notACarrier (s.inspect receiver) (s.tagOf receiver))
    match defined with
    | .ok _ => return .symbol name
    | .error fault => return .fault fault

/-- Makes a class below the receiver. -/
def makeSubclass (receiver : Value) (args : List Value) : Action Value := do
  let s ← get
  match receiver with
  | .cls c =>
    match s.text? (arg args 0) with
    | none => return .fault (.argType "subclass" "String" (s.tagOf (arg args 0)))
    | some name =>
      match ← Action.attempt fun s => s.makeClass name c with
      | .ok made => return .cls made
      | .error cause => return .fault (.malformed cause)
  | other => return .fault (.classExpected (s.inspect other))

/-- What a body does with a receiver and arguments. -/
def run (body : Body) (ctx? : Option NativeContext) (receiver : Value) (args : List Value) :
    Action Value :=
  match body with
  | .const value => pure value
  | .nth index => pure (arg args index)
  | .recv => pure receiver
  | .args => modifyGet fun s => s.newArray args
  | .count => pure (.int (Int64.ofNat args.length))
  | .retFirst => modifyGet fun s => s.newPending (arg args 0)
  | .send name =>
    match ctx? with
    | some ctx => ctx.send receiver name args
    | none => pure .nil
  | .callFirst =>
    match ctx?, args with
    | some ctx, callee :: rest => ctx.call callee rest
    | _, _ => pure .nil
  | .add => return sum (← get) receiver args
  | .push => append receiver args
  | .defMethod => defineMethod receiver args
  | .defOnObject => defineOnObject (ctx?.map (·.core)) receiver args
  | .subclass => makeSubclass receiver args

/-- What a body does as a function of no class.  Adding and appending take the first argument as
their receiver. -/
def runAlone (body : Body) (args : List Value) : Action Value :=
  match body with
  | .add | .push => body.run none (arg args 0) args.tail
  | _ => body.run none .nil args

end Body

/-- The host whose functions have the bodies of a table.  Entries outside the table answer
`nil`. -/
def Host.ofBodies (bodies : Array Body) : Host where
  method entry ctx receiver args :=
    match bodies[entry]? with
    | some body => body.run (some ctx) receiver args
    | none => pure .nil
  builtin entry args :=
    match bodies[entry]? with
    | some body => body.runAlone args
    | none => pure .nil

end ObjectModel
