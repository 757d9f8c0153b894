import ObjectModel.Value

/-!
# Methods

What a method table holds under a name: a user-defined function, or a native method.  Native
methods are known by where they come from, so two handles are the same implementation exactly
when they are equal.  The methods that every object system starts with form a closed list, each
told apart further by the class it was installed on; the methods of a host program are entries of
the host's table.

## Main definitions

* `Arity`, `Arity.admits` — how many arguments a method takes.
* `KernelMethod` — the methods of the built-in classes, with their names and arities.
* `Native`, `Method` — implementations.
-/

namespace ObjectModel

/-- The number of arguments that a method takes. -/
inductive Arity where
  | exact (count : Nat)
  | any
  deriving DecidableEq, Repr

/-- Whether a method of this arity takes the given number of arguments. -/
def Arity.admits : Arity → Nat → Bool
  | exact expected, count => expected == count
  | any, _ => true

theorem Arity.admits_eq_false_iff {arity : Arity} {count : Nat} :
    arity.admits count = false ↔ ∃ expected, arity = .exact expected ∧ expected ≠ count := by
  cases arity <;> simp [admits]

/-- The native methods of the built-in classes. -/
inductive KernelMethod where
  /-- The default initialiser of instances, which does nothing. -/
  | setUp
  | equal
  | identical
  | classOf
  | inspect
  | respondTo
  | singletonClass
  | singletonMethods
  | moduleName
  | instanceMethods
  /-- Allocates an instance and has it initialised. -/
  | new
  | superclass
  | message
  deriving DecidableEq, Repr

namespace KernelMethod

/-- The name under which a kernel method is installed. -/
def name : KernelMethod → String
  | setUp => "initialize"
  | equal => "=="
  | identical => "equal?"
  | classOf => "class"
  | inspect => "inspect"
  | respondTo => "respond_to?"
  | singletonClass => "singleton_class"
  | singletonMethods => "singleton_methods"
  | moduleName => "name"
  | instanceMethods => "instance_methods"
  | new => "new"
  | superclass => "superclass"
  | message => "message"

/-- The arity of a kernel method. -/
def arity : KernelMethod → Arity
  | equal | identical | respondTo => .exact 1
  | new => .any
  | _ => .exact 0

end KernelMethod

/-- A native method. -/
inductive Native where
  /-- A kernel method, as installed on the class `home`. -/
  | kernel (home : ClassRef) (method : KernelMethod)
  /-- A method of the host, known by its entry in the host's table. -/
  | host (entry : Nat) (name : String) (arity : Arity)
  deriving DecidableEq

def Native.name : Native → String
  | kernel _ method => method.name
  | host _ name _ => name

def Native.arity : Native → Arity
  | kernel _ method => method.arity
  | host _ _ arity => arity

/-- An implementation stored in a method table. -/
inductive Method where
  | native (native : Native)
  /-- A function whose body runs with `self` bound to the receiver. -/
  | user (closure : Closure)
  deriving DecidableEq

namespace Method

/-- A function value used as a method, the function itself and not a copy. -/
def ofValue? : Value → Option Method
  | .function closure => some (user closure)
  | _ => none

def arity : Method → Arity
  | native n => n.arity
  | user closure => .exact closure.arity

end Method

end ObjectModel
