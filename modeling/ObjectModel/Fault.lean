import ObjectModel.Tag

/-!
# Failures

Two tiers of failure exist and never mix.  A `Fault` is a failure of the interpreted program: it
travels as an ordinary value and is shown with the prefix `ERROR: `.  A `Malformed` is a refused
request to build a class or a function; it is reported to whoever made the request.

Both are causes.  Their wording is in one function each, `Fault.message` and `Malformed.message`,
and two faults count as equal values when they read the same.

## Main definitions

* `Malformed`, `Malformed.message` — refused constructions.
* `Fault`, `Fault.message`, `Fault.inspect` — failures of the interpreted program.
-/

namespace ObjectModel

/-- Why a class or a function cannot be built. -/
inductive Malformed where
  /-- A parameter list names the same parameter twice. -/
  | repeatedParameter (name : String)
  /-- A module or an eigenclass was given as a superclass. -/
  | unfitSuperclass (name : String) (kind : ClassKind)
  /-- A class or a module without a name. -/
  | missingName
  deriving DecidableEq, Repr

/-- The text of a refused construction. -/
def Malformed.message : Malformed → String
  | repeatedParameter name => "duplicate parameter `" ++ name ++ "` in function definition"
  | unfitSuperclass name kind =>
    "superclass must be a class, got " ++ kind.word ++ " `" ++ name ++ "`"
  | missingName => "class name must not be empty"

/-- Why a step of the interpreted program failed.  Receivers and classes appear by their text,
as it was when the fault arose. -/
inductive Fault where
  /-- An error made by the program or its host, with its own text. -/
  | raised (text : String)
  /-- No class of the receiver defines the method. -/
  | noMethod (method receiver className : String)
  /-- The receiver has no class to look in. -/
  | noClass (method : String) (tag : Tag)
  /-- A method or a function was given the wrong number of arguments. -/
  | argCount (method : String) (expected given : Nat)
  /-- An argument or a receiver is of the wrong sort. -/
  | argType (method expected : String) (given : Tag)
  /-- The receiver cannot carry methods of its own. -/
  | notACarrier (receiver : String) (tag : Tag)
  /-- The receiver should have been a class. -/
  | classExpected (receiver : String)
  /-- The class has no instance layout. -/
  | noAllocator (className : String)
  /-- Something was called that is no function. -/
  | notAFunction (receiver : String) (tag : Tag)
  /-- An instance variable was written while `self` is no object. -/
  | ivarOutsideObject
  /-- The left side of an assignment is neither a variable nor an instance variable. -/
  | notAssignable (target : String)
  /-- A construction was refused while the program ran. -/
  | malformed (cause : Malformed)
  deriving DecidableEq, Repr

namespace Fault

/-- The text of a fault, without the prefix that marks it as one. -/
def message : Fault → String
  | raised text => text
  | noMethod method receiver className =>
    "undefined method `" ++ method ++ "' for " ++ receiver ++ ":" ++ className
  | noClass method tag =>
    "undefined method `" ++ method ++ "' for value of type " ++ tag.name ++ " (no class)"
  | argCount method expected given =>
    "wrong number of arguments for `" ++ method ++ "' (given " ++ toString given
      ++ ", expected " ++ toString expected ++ ")"
  | argType method expected given =>
    "wrong argument type for `" ++ method ++ "' (expected " ++ expected ++ ", got "
      ++ given.name ++ ")"
  | notACarrier receiver tag =>
    "can't define singleton for " ++ receiver ++ " (" ++ tag.name ++ ")"
  | classExpected receiver => receiver ++ " is not a class"
  | noAllocator className => "allocator undefined for " ++ className
  | notAFunction receiver tag => receiver ++ " (" ++ tag.name ++ ") is not callable"
  | ivarOutsideObject => "instance variable outside an object"
  | notAssignable target => "cannot assign to " ++ target
  | malformed cause => cause.message

/-- The form in which a fault is shown to the user. -/
def inspect (fault : Fault) : String := "ERROR: " ++ fault.message

end Fault

end ObjectModel
