import ObjectModel.Store

/-!
# Core classes and the class of a value

The classes that every program starts with.  There is no global class table: whoever needs to
know the class of a value is given the core classes.

A value has two classes.  Its birth class is the one it was made as and never changes.  The
class in which a message to it is looked up is its eigenclass, once it has got one, and its
birth class until then.  Functions and faults have neither, and an early return has those of
the value it carries.

## Main definitions

* `Core` — the twelve core classes, with `Core.all` and `Core.find?`.
* `Store.birthClass?` — the class that a value was made as.
* `Store.classOf?` — the class where a lookup for a value starts.
-/

namespace ObjectModel

/-- The built-in classes. -/
structure Core where
  basicObject : ClassRef
  object : ClassRef
  module : ClassRef
  /-- The class that classes are instances of. -/
  cls : ClassRef
  integer : ClassRef
  string : ClassRef
  symbol : ClassRef
  array : ClassRef
  trueClass : ClassRef
  falseClass : ClassRef
  nilClass : ClassRef
  exception : ClassRef
  deriving DecidableEq, Repr, Inhabited

namespace Core

/-- The core classes with their names, in their fixed order. -/
def all (core : Core) : List (String × ClassRef) :=
  [("BasicObject", core.basicObject), ("Object", core.object), ("Module", core.module),
    ("Class", core.cls), ("Integer", core.integer), ("String", core.string),
    ("Symbol", core.symbol), ("Array", core.array), ("TrueClass", core.trueClass),
    ("FalseClass", core.falseClass), ("NilClass", core.nilClass),
    ("Exception", core.exception)]

/-- The core class with the given name. -/
def find? (core : Core) (name : String) : Option ClassRef := core.all.lookup name

/-- What a class-object is an instance of, leaving eigenclasses aside. -/
def metaclass (core : Core) (cell : ClassCell) : ClassRef :=
  match cell.kind with
  | .module => core.module
  | .plain | .eigenclass => core.cls

end Core

namespace Store

/-- The class that a value was made as, leaving eigenclasses aside.  A reference to nothing has
none. -/
def birthClass? (s : Store) (core : Core) : Value → Option ClassRef
  | .nil => some core.nilClass
  | .bool true => some core.trueClass
  | .bool false => some core.falseClass
  | .int _ => some core.integer
  | .symbol _ => some core.symbol
  | .string _ => some core.string
  | .array _ => some core.array
  | .object ref => (s.objects.get? ref).map (·.cls)
  | .exception ref => (s.exceptions.get? ref).map (·.cls)
  | .cls c => (s.classes.get? c).map core.metaclass
  | .pending _ payload => s.birthClass? core payload
  | .function _ | .builtin _ _ | .fault _ => none

/-- The class where a lookup for a value starts: its eigenclass if it has one, and its birth
class otherwise. -/
def classOf? (s : Store) (core : Core) : Value → Option ClassRef
  | .pending _ payload => s.classOf? core payload
  | value => (s.eigenclass? value).or (s.birthClass? core value)

@[simp] theorem birthClass?_pending (s : Store) (core : Core) (serial : Nat) (value : Value) :
    s.birthClass? core (.pending serial value) = s.birthClass? core value := rfl

@[simp] theorem classOf?_pending (s : Store) (core : Core) (serial : Nat) (value : Value) :
    s.classOf? core (.pending serial value) = s.classOf? core value := rfl

/-- The class of a value is that of its payload: the eigenclass, or else the birth class. -/
theorem classOf?_eq (s : Store) (core : Core) (value : Value) :
    s.classOf? core value =
      (s.eigenclass? value.payload).or (s.birthClass? core value.payload) := by
  induction value with
  | pending serial payload ih => exact ih
  | _ => rfl

end Store

end ObjectModel
