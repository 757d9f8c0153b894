import ObjectModel.Class.Eigenclass
import ObjectModel.Class.Lookup
import ObjectModel.Run.Action
import ObjectModel.Value.Equality

/-!
# Kernel methods

What the native methods of the built-in classes do.  All but `new` answer at once; `new` sends
`initialize` to the instance that it has allocated.  The number of arguments has been checked
before a kernel method runs.

## Main definitions

* `KernelMethod.run` — the body of a kernel method.
* `Kernel.instantiate` — allocation and initialisation.
-/

namespace ObjectModel

namespace Kernel

/-- The first argument, and `nil` where there is none. -/
def firstArg (args : List Value) : Value := args.headD .nil

/-- An array of symbols. -/
def symbols (names : List String) : Action Value :=
  modifyGet fun s => s.newArray (names.map .symbol)

/-- Answers the fault of a receiver that should have been a class. -/
def classExpected (receiver : Value) : Action Value :=
  return .fault (.classExpected ((← get).inspect receiver))

/-- Makes an instance of a class.  An exception takes its message as the only argument, or the name
of its class if there is none; any other instance is allocated and sent `initialize` with the
arguments.  A fault that comes of this takes the place of the instance. -/
def instantiate (ctx : NativeContext) (receiver : Value) (args : List Value) : Action Value := do
  match receiver with
  | .cls c =>
    let s ← get
    if (s.classes.read c).layout? = some .exception then
      match args with
      | [] => modifyGet fun s => s.newException c (s.className c)
      | [argument] =>
        match s.text? argument with
        | some text => modifyGet fun s => s.newException c text
        | none => return .fault (.argType "new" "String" (s.tagOf argument))
      | _ => return .fault (.argCount "new" 1 args.length)
    else
      match ← Action.attempt fun s => s.allocate c with
      | .error fault => return .fault fault
      | .ok made =>
        let initialized ← ctx.send made "initialize" args
        return if initialized.isFault then initialized else made
  | _ => classExpected receiver

/-- Whether a receiver answers the message that the argument names. -/
def answersTo (core : Core) (receiver argument : Value) : Action Value := do
  let s ← get
  match argument with
  | .symbol name => return .bool (s.understands core receiver name)
  | .string ref => return .bool (s.understands core receiver (s.text ref))
  | other => return .fault (.argType "respond_to?" "Symbol" (s.tagOf other))

/-- The name of a class as a string, and `nil` for an eigenclass, which is anonymous. -/
def nameOf (receiver : Value) : Action Value := do
  match receiver with
  | .cls c =>
    if ((← get).classes.read c).kind = .eigenclass then return .nil
    else modifyGet fun s => s.newString (s.className c)
  | _ => classExpected receiver

end Kernel

/-- The body of a kernel method. -/
def KernelMethod.run (method : KernelMethod) (ctx : NativeContext) (receiver : Value)
    (args : List Value) : Action Value := do
  match method with
  | .setUp => return .nil
  | .equal => return .bool ((← get).equal receiver (Kernel.firstArg args))
  | .identical => return .bool (receiver.identical (Kernel.firstArg args))
  | .classOf =>
    match (← get).birthClass? ctx.core receiver with
    | some c => return .cls c
    | none => return .nil
  | .inspect => modifyGet fun s => s.newString (s.inspect receiver)
  | .respondTo => Kernel.answersTo ctx.core receiver (Kernel.firstArg args)
  | .singletonClass =>
    match ← Action.attempt fun s => s.ensureEigenclass ctx.core receiver with
    | .ok eigenclass => return .cls eigenclass
    | .error fault => return .fault fault
  | .singletonMethods => Kernel.symbols ((← get).objectMethodNames receiver)
  | .moduleName => Kernel.nameOf receiver
  | .instanceMethods =>
    match receiver with
    | .cls c => Kernel.symbols ((← get).definedNames c)
    | _ => Kernel.classExpected receiver
  | .new => Kernel.instantiate ctx receiver args
  | .superclass =>
    match receiver with
    | .cls c =>
      match (← get).superclass? c with
      | some parent => return .cls parent
      | none => return .nil
    | _ => Kernel.classExpected receiver
  | .message =>
    match receiver with
    | .exception ref => modifyGet fun s => s.newString (s.exceptions.read ref).message
    | other => return .fault (.argType "message" "Exception" ((← get).tagOf other))

end ObjectModel
